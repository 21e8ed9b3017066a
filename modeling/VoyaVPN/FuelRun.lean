import Mathlib

/-! Runs that may stop without a result: `none` means that the fuel ran out. More fuel keeps
every result, and a monadic fold returns when each of its steps does. -/
namespace FuelRun

variable {α β : Type*}

theorem foldlM_isSome {step : β → α → Option β} {items : List α}
    (h : ∀ b, ∀ a ∈ items, (step b a).isSome = true) (b : β) :
    (items.foldlM step b).isSome = true := by
  induction items generalizing b with
  | nil => rfl
  | cons a items ih =>
    obtain ⟨b', hb⟩ := Option.isSome_iff_exists.mp (h b a List.mem_cons_self)
    rw [List.foldlM_cons, hb]
    exact ih (fun b a ha => h b a (List.mem_cons_of_mem _ ha)) b'

theorem foldlM_extends {step step' : β → α → Option β} {items : List α}
    (h : ∀ b, ∀ a ∈ items, ∀ c, step b a = some c → step' b a = some c) {b c : β}
    (run : items.foldlM step b = some c) : items.foldlM step' b = some c := by
  induction items generalizing b with
  | nil => exact run
  | cons a items ih =>
    rw [List.foldlM_cons] at run ⊢
    obtain ⟨b', hb, run⟩ := Option.bind_eq_some_iff.mp run
    rw [h b a List.mem_cons_self b' hb]
    exact ih (fun b a ha => h b a (List.mem_cons_of_mem _ ha)) run

theorem foldlM_invariant {step : β → α → Option β} {items : List α} {P : β → Prop}
    (h : ∀ b, ∀ a ∈ items, ∀ c, P b → step b a = some c → P c) {b c : β} (hb : P b)
    (run : items.foldlM step b = some c) : P c := by
  induction items generalizing b with
  | nil =>
    cases run
    exact hb
  | cons a items ih =>
    rw [List.foldlM_cons] at run
    obtain ⟨b', hb', run⟩ := Option.bind_eq_some_iff.mp run
    exact ih (fun b a ha => h b a (List.mem_cons_of_mem _ ha))
      (h b a List.mem_cons_self b' hb hb') run

/-- A translation of states that every step respects is respected by the whole run. -/
theorem foldlM_map {γ : Type*} {step : β → α → Option β} {step' : γ → α → Option γ} {f : β → γ}
    (h : ∀ b a, step' (f b) a = (step b a).map f) (items : List α) (b : β) :
    items.foldlM step' (f b) = (items.foldlM step b).map f := by
  induction items generalizing b with
  | nil => rfl
  | cons a items ih =>
    rw [List.foldlM_cons, List.foldlM_cons, h]
    cases step b a with
    | none => rfl
    | some b' => exact ih b'

/-- A result that one more unit of fuel keeps is kept by any larger amount. -/
theorem mono_of_succ {run : ℕ → Option α}
    (step : ∀ fuel a, run fuel = some a → run (fuel + 1) = some a) {fuel fuel' : ℕ}
    (hle : fuel ≤ fuel') {a : α} (h : run fuel = some a) : run fuel' = some a := by
  induction hle with
  | refl => exact h
  | step _ ih => exact step _ a ih

/-- The run returns, and from some amount of fuel on always with the same result. -/
def Returns (run : ℕ → Option α) : Prop := ∃ a bound, ∀ fuel, bound ≤ fuel → run fuel = some a

theorem Returns.of_isSome {run : ℕ → Option α}
    (step : ∀ fuel a, run fuel = some a → run (fuel + 1) = some a) {fuel : ℕ}
    (h : (run fuel).isSome = true) : Returns run := by
  obtain ⟨a, ha⟩ := Option.isSome_iff_exists.mp h
  exact ⟨a, fuel, fun fuel' hle => mono_of_succ step hle ha⟩

/-- What holds of each item from some fuel on holds of all items of a list from one fuel on. -/
theorem common_fuel {P : α → ℕ → Prop} (hmono : ∀ a n, P a n → P a (n + 1)) {items : List α}
    (h : ∀ a ∈ items, ∃ n, P a n) : ∃ n, ∀ a ∈ items, P a n := by
  have hle : ∀ a n m, n ≤ m → P a n → P a m := by
    intro a n m hnm hn
    induction hnm with
    | refl => exact hn
    | step _ ih => exact hmono a _ ih
  induction items with
  | nil => exact ⟨0, fun a ha => by cases ha⟩
  | cons a items ih =>
    obtain ⟨n, hn⟩ := h a List.mem_cons_self
    obtain ⟨m, hm⟩ := ih fun b hb => h b (List.mem_cons_of_mem a hb)
    refine ⟨max n m, fun b hb => ?_⟩
    rcases List.mem_cons.mp hb with rfl | hb
    · exact hle b n _ (le_max_left n m) hn
    · exact hle b m _ (le_max_right n m) (hm b hb)

end FuelRun
