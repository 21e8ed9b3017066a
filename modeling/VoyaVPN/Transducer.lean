import Mathlib.Algebra.GroupWithZero.Nat
import Mathlib.Data.List.Basic

/-! Machines that read a text letter by letter, write tokens on the way, and stop where the text
is none of theirs. -/
namespace Transducer

variable {σ α β : Type}

/-- What a machine does with a letter, and what it writes at the end of a text. -/
structure Machine (σ α β : Type) where
  step : σ → α → Option (List β × σ)
  finish : σ → Option (List β)

variable (machine : Machine σ α β)

def run : σ → List α → Option (List β × σ)
  | state, [] => some ([], state)
  | state, letter :: text => (machine.step state letter).bind fun first =>
      (run first.2 text).map fun later => (first.1 ++ later.1, later.2)

def output : σ → List α → Option (List β)
  | state, [] => machine.finish state
  | state, letter :: text => (machine.step state letter).bind fun first =>
      (output first.2 text).map (first.1 ++ ·)

variable {machine} {state next last : σ} {letter : α} {text rest : List α} {written more : List β}

theorem output_cons (h : machine.step state letter = some (written, next)) :
    output machine state (letter :: text) = (output machine next text).map (written ++ ·) := by
  rw [output, h]
  rfl

theorem output_silent (h : machine.step state letter = some ([], next)) :
    output machine state (letter :: text) = output machine next text := by
  rw [output_cons h]
  cases output machine next text with
  | none => rfl
  | some later => rfl

theorem run_cons (h : machine.step state letter = some (written, next))
    (hrest : run machine next text = some (more, last)) :
    run machine state (letter :: text) = some (written ++ more, last) := by
  rw [run, h, Option.bind_some, hrest]
  rfl

theorem run_append (h : run machine state text = some (written, next))
    (hrest : run machine next rest = some (more, last)) :
    run machine state (text ++ rest) = some (written ++ more, last) := by
  induction text generalizing state written with
  | nil =>
    cases h
    exact hrest
  | cons letter text ih =>
    rw [run, Option.bind_eq_some_iff] at h
    obtain ⟨⟨first, middle⟩, hstep, hmap⟩ := h
    obtain ⟨⟨later, final⟩, hlater, heq⟩ := Option.map_eq_some_iff.mp hmap
    cases heq
    rw [List.cons_append, run_cons hstep (ih hlater), List.append_assoc]

theorem output_append (h : run machine state text = some (written, next)) :
    output machine state (text ++ rest) = (output machine next rest).map (written ++ ·) := by
  induction text generalizing state written with
  | nil =>
    cases h
    rw [List.nil_append]
    cases output machine next rest with
    | none => rfl
    | some later => rfl
  | cons letter text ih =>
    rw [run, Option.bind_eq_some_iff] at h
    obtain ⟨⟨first, middle⟩, hstep, hmap⟩ := h
    obtain ⟨⟨later, final⟩, hlater, heq⟩ := Option.map_eq_some_iff.mp hmap
    cases heq
    rw [List.cons_append, output, hstep, Option.bind_some, ih hlater, Option.map_map]
    congr 1
    funext result
    simp

theorem output_append_silent (h : run machine state text = some ([], next)) :
    output machine state (text ++ rest) = output machine next rest := by
  rw [output_append h]
  cases output machine next rest with
  | none => rfl
  | some later => rfl

theorem output_of_run {ending : List β} (h : run machine state text = some (written, next))
    (hfinish : machine.finish next = some ending) :
    output machine state text = some (written ++ ending) := by
  have happend := @output_append σ α β machine state next text [] written h
  rw [List.append_nil] at happend
  rw [happend, output, hfinish]
  rfl

section Weights

variable {weight : β → Nat} {pending : σ → Nat} {Home : σ → Prop} {special : α → Bool}

/-- No letter adds more than one to what is written and still due. -/
structure Bounded (machine : Machine σ α β) (weight : β → Nat) (pending : σ → Nat) : Prop where
  step : ∀ state letter written next, machine.step state letter = some (written, next) →
    (written.map weight).sum + pending next ≤ pending state + 1
  finish : ∀ state written, machine.finish state = some written →
    (written.map weight).sum ≤ pending state

theorem Bounded.output_le (hbounded : Bounded machine weight pending)
    (h : output machine state text = some written) :
    (written.map weight).sum ≤ pending state + text.length := by
  induction text generalizing state written with
  | nil => exact hbounded.finish state written h
  | cons letter text ih =>
    rw [output, Option.bind_eq_some_iff] at h
    obtain ⟨⟨first, next⟩, hfirst, hmap⟩ := h
    obtain ⟨later, hlater, rfl⟩ := Option.map_eq_some_iff.mp hmap
    have hone := hbounded.step state letter first next hfirst
    have hrest : (later.map weight).sum ≤ pending next + text.length := ih hlater
    simp only [List.map_append, List.sum_append, List.length_cons]
    omega

/-- Where the special letters add less and the others lead from home states to home states, as much
is written only if no letter is special. -/
theorem Bounded.plain_of_full (hbounded : Bounded machine weight pending)
    (hstay : ∀ state letter written next, Home state → special letter = false →
      machine.step state letter = some (written, next) → Home next)
    (hloss : ∀ state letter written next, Home state → special letter = true →
      machine.step state letter = some (written, next) →
        (written.map weight).sum + pending next < pending state + 1)
    (hhome : Home state) (h : output machine state text = some written)
    (hfull : pending state + text.length ≤ (written.map weight).sum) :
    ∀ letter ∈ text, special letter = false := by
  induction text generalizing state written with
  | nil => exact fun letter hletter => absurd hletter List.not_mem_nil
  | cons letter text ih =>
    rw [output, Option.bind_eq_some_iff] at h
    obtain ⟨⟨first, next⟩, hfirst, hmap⟩ := h
    obtain ⟨later, hlater, rfl⟩ := Option.map_eq_some_iff.mp hmap
    have hone := hbounded.step state letter first next hfirst
    have hrest : (later.map weight).sum ≤ pending next + text.length :=
      hbounded.output_le hlater
    simp only [List.map_append, List.sum_append, List.length_cons] at hfull
    have hletter : special letter = false := by
      rw [Bool.eq_false_iff]
      intro hspecial
      have hless := hloss state letter first next hhome hspecial hfirst
      omega
    have hnext : Home next := hstay state letter first next hhome hletter hfirst
    have htail := ih hnext hlater (by omega)
    intro other hother
    rcases List.mem_cons.mp hother with rfl | hother
    · exact hletter
    · exact htail other hother

end Weights

section Copies

variable {copier : Machine σ α α} {home : σ}

theorem output_copies (hfinish : copier.finish home = some [])
    (h : ∀ letter ∈ text, copier.step home letter = some ([letter], home)) :
    output copier home text = some text := by
  induction text with
  | nil => exact hfinish
  | cons letter text ih =>
    rw [output_cons (h letter List.mem_cons_self),
      ih fun other hother => h other (List.mem_cons_of_mem _ hother)]
    rfl

end Copies

end Transducer
