import Mathlib.Algebra.GroupWithZero.Nat
import Mathlib.Data.List.Basic
import Mathlib.Data.List.Count
import Mathlib.Algebra.BigOperators.Group.List.Basic

/-! Texts with hidden places: each run of hidden places is written as a mask, every other place as
it is. -/
namespace Masking

variable {α : Type}

section Masks

def startsRun (hidden : Nat → Bool) (i : Nat) : Bool := hidden i && (i == 0 || !hidden (i - 1))

def written (hidden : Nat → Bool) (mask text : List α) (i : Nat) : List α :=
  if startsRun hidden i then mask else if hidden i then [] else text[i]?.toList

/-- What is written for the places from `start` on, `count` of them. -/
def writtenFrom (hidden : Nat → Bool) (mask text : List α) (start count : Nat) : List α :=
  (List.range' start count).flatMap (written hidden mask text)

def masked (hidden : Nat → Bool) (mask text : List α) : List α :=
  writtenFrom hidden mask text 0 text.length

variable {hidden : Nat → Bool} {mask text : List α}

theorem written_visible {i : Nat} (h : hidden i = false) :
    written hidden mask text i = text[i]?.toList := by
  simp [written, startsRun, h]

theorem written_start {i : Nat} (h : startsRun hidden i = true) :
    written hidden mask text i = mask := by
  rw [written, if_pos h]

theorem written_inner {i : Nat} (h : hidden (i + 1) = true) (hbefore : hidden i = true) :
    written hidden mask text (i + 1) = [] := by
  simp [written, startsRun, h, hbefore]

theorem writtenFrom_add (start first second : Nat) :
    writtenFrom hidden mask text start (first + second) =
      writtenFrom hidden mask text start first ++
        writtenFrom hidden mask text (start + first) second := by
  rw [writtenFrom, ← List.range'_append_1, List.flatMap_append]
  rfl

theorem writtenFrom_succ (start count : Nat) :
    writtenFrom hidden mask text start (count + 1) =
      written hidden mask text start ++ writtenFrom hidden mask text (start + 1) count := by
  rw [writtenFrom, List.range'_succ, List.flatMap_cons]
  rfl

theorem writtenFrom_visible {start count : Nat} (hlen : start + count ≤ text.length)
    (h : ∀ i, start ≤ i → i < start + count → hidden i = false) :
    writtenFrom hidden mask text start count = (text.drop start).take count := by
  induction count generalizing start with
  | zero => simp [writtenFrom]
  | succ count ih =>
    have hstart : start < text.length := by omega
    rw [writtenFrom_succ, written_visible (h start (Nat.le_refl _) (by omega)),
      ih (by omega) fun i hlow hhigh => h i (by omega) (by omega), List.getElem?_eq_getElem hstart,
      List.drop_eq_getElem_cons hstart, List.take_succ_cons]
    rfl

theorem writtenFrom_inner {start count : Nat}
    (h : ∀ i, start ≤ i → i ≤ start + count → hidden i = true) :
    writtenFrom hidden mask text (start + 1) count = [] := by
  induction count generalizing start with
  | zero => simp [writtenFrom]
  | succ count ih =>
    rw [writtenFrom_succ,
      written_inner (h (start + 1) (by omega) (by omega)) (h start (by omega) (by omega)),
      ih fun i hlow hhigh => h i (by omega) (by omega)]
    rfl

theorem writtenFrom_run {start count : Nat} (hbefore : start = 0 ∨ hidden (start - 1) = false)
    (h : ∀ i, start ≤ i → i ≤ start + count → hidden i = true) :
    writtenFrom hidden mask text start (count + 1) = mask := by
  have hstart : startsRun hidden start = true := by
    rw [startsRun, h start (Nat.le_refl _) (by omega), Bool.true_and, Bool.or_eq_true, beq_iff_eq,
      Bool.not_eq_true']
    exact hbefore
  rw [writtenFrom_succ, written_start hstart, writtenFrom_inner h, List.append_nil]

theorem masked_none (h : ∀ i < text.length, hidden i = false) :
    masked hidden mask text = text := by
  rw [masked, writtenFrom_visible (by omega) fun i _ hi => h i (by omega)]
  simp

theorem masked_congr {other : Nat → Bool} (h : ∀ i < text.length, hidden i = other i) :
    masked hidden mask text = masked other mask text := by
  rw [masked, masked, writtenFrom, writtenFrom]
  apply List.flatMap_congr
  intro i hi
  rw [List.mem_range'_1] at hi
  have hbefore : i ≠ 0 → hidden (i - 1) = other (i - 1) := fun _ => h (i - 1) (by omega)
  by_cases hzero : i = 0
  · simp [written, startsRun, hzero, h 0 (by omega)]
  · simp [written, startsRun, hzero, h i (by omega), hbefore hzero]

end Masks

section Counting

variable [DecidableEq α] {hidden : Nat → Bool} {mask text : List α}

theorem count_writtenFrom (letter : α) (start count : Nat) :
    (writtenFrom hidden mask text start count).count letter =
      ((List.range' start count).map fun i => (written hidden mask text i).count letter).sum := by
  rw [writtenFrom, List.count_flatMap]
  rfl

theorem sum_countP (p : Nat → Bool) (places : List Nat) :
    (places.map fun i => if p i then 1 else 0).sum = places.countP p := by
  induction places with
  | nil => rfl
  | cons i places ih =>
    rw [List.map_cons, List.sum_cons, ih, List.countP_cons]
    omega

theorem count_text (letter : α) :
    text.count letter =
      ((List.range' 0 text.length).map fun i => (text[i]?.toList).count letter).sum := by
  have hplain : masked (fun _ => false) [] text = text := masked_none fun _ _ => rfl
  conv_lhs => rw [← hplain]
  rw [masked, count_writtenFrom]
  rfl

/-- A letter of the mask that no hidden place has is counted once for each run. -/
theorem count_masked_mark {letter : α} (hmask : mask.count letter = 1)
    (hhidden : ∀ i, hidden i = true → text[i]? ≠ some letter) :
    (masked hidden mask text).count letter =
      (List.range' 0 text.length).countP (startsRun hidden) + text.count letter := by
  rw [masked, count_writtenFrom, count_text, ← sum_countP, ← List.sum_map_add]
  congr 1
  apply List.map_congr_left
  intro i _
  have hplace : hidden i = true → (text[i]?.toList).count letter = 0 := by
    intro hi
    rw [List.count_eq_zero, Option.mem_toList]
    exact hhidden i hi
  rw [written]
  by_cases hstart : startsRun hidden i = true
  · have hi : hidden i = true := (Bool.and_eq_true_iff.mp hstart).1
    rw [if_pos hstart, if_pos hstart, hmask, hplace hi]
  · rw [if_neg hstart, if_neg hstart, Nat.zero_add]
    by_cases hi : hidden i = true
    · rw [if_pos hi, hplace hi]
      rfl
    · rw [if_neg hi]

theorem count_masked_other {letter : α} (hmask : letter ∉ mask) :
    (masked hidden mask text).count letter +
        (List.range' 0 text.length).countP (fun i => hidden i && text[i]? == some letter) =
      text.count letter := by
  rw [masked, count_writtenFrom, count_text, ← sum_countP, ← List.sum_map_add]
  congr 1
  apply List.map_congr_left
  intro i _
  have hmark : mask.count letter = 0 := List.count_eq_zero.mpr hmask
  rw [written]
  by_cases hi : hidden i = true
  · have hlost : (text[i]?.toList).count letter = if text[i]? == some letter then 1 else 0 := by
      cases hplace : text[i]? with
      | none => rfl
      | some other =>
        by_cases hother : other = letter <;> simp [hother]
    rw [hi, Bool.true_and, hlost]
    split
    · rw [hmark]
      omega
    · rw [if_pos rfl, List.count_nil]
      omega
  · have hstart : ¬ startsRun hidden i = true := fun hstart => hi (Bool.and_eq_true_iff.mp hstart).1
    rw [Bool.not_eq_true] at hi
    rw [if_neg hstart, if_neg (by simp [hi]), hi, Bool.false_and, if_neg (by decide), Nat.add_zero]

/-- Where fewer places are counted and the counts agree, the same places are counted. -/
theorem imp_of_countP_eq {p q : Nat → Bool} {places : List Nat}
    (himp : ∀ i ∈ places, p i = true → q i = true)
    (hcount : places.countP p = places.countP q) : ∀ i ∈ places, q i = true → p i = true := by
  induction places with
  | nil => exact fun i hi => absurd hi List.not_mem_nil
  | cons first rest ih =>
    have himpRest : ∀ i ∈ rest, p i = true → q i = true :=
      fun i hi => himp i (List.mem_cons_of_mem _ hi)
    have hle : rest.countP p ≤ rest.countP q := List.countP_mono_left himpRest
    rw [List.countP_cons, List.countP_cons] at hcount
    have hfirst : q first = true → p first = true := by
      intro hq
      by_contra hp
      rw [if_pos hq, if_neg hp] at hcount
      omega
    have hrest : rest.countP p = rest.countP q := by
      by_cases hp : p first = true
      · rw [if_pos hp, if_pos (himp first List.mem_cons_self hp)] at hcount
        omega
      · rw [if_neg hp] at hcount
        omega
    intro i hi
    rcases List.mem_cons.mp hi with rfl | hi
    · exact hfirst
    · exact ih himpRest hrest i hi

end Counting

section Factors

variable {hidden : Nat → Bool} {text factor : List α}

theorem infix_of_split {first second : List α} {letter : α} (h : letter ∉ factor)
    (hwithin : factor <:+: first ++ letter :: second) : factor <:+: first ∨ factor <:+: second := by
  obtain ⟨before, after, heq⟩ := hwithin
  rcases List.append_eq_append_iff.mp heq with ⟨rest, hfirst, -⟩ | ⟨rest, hfactor, hsecond⟩
  · exact Or.inl ⟨before, rest, hfirst.symm⟩
  · cases rest with
    | nil =>
      rw [List.append_nil] at hfactor
      exact Or.inl ⟨before, [], by rw [hfactor, List.append_nil]⟩
    | cons head rest =>
      rw [List.cons_append, List.cons.injEq] at hsecond
      obtain ⟨rfl, rfl⟩ := hsecond
      rcases List.append_eq_append_iff.mp hfactor with ⟨inner, -, hinner⟩ | ⟨inner, -, hinner⟩
      · rw [hinner] at h
        exact absurd (List.mem_append_right inner List.mem_cons_self) h
      · cases inner with
        | nil =>
          rw [List.nil_append] at hinner
          rw [← hinner] at h
          exact absurd List.mem_cons_self h
        | cons other inner =>
          rw [List.cons_append, List.cons.injEq] at hinner
          exact Or.inr ⟨inner, after, by rw [hinner.2]⟩

/-- The places where a factor is written as it stands in the text. -/
def VisibleAt (hidden : Nat → Bool) (text factor : List α) (start : Nat) : Prop :=
  ∀ i < factor.length, hidden (start + i) = false ∧ text[start + i]? = factor[i]?

theorem visibleAt_cons {start : Nat} {first : α} (hhidden : hidden start = false)
    (htext : text[start]? = some first) (h : VisibleAt hidden text factor (start + 1)) :
    VisibleAt hidden text (first :: factor) start := by
  intro i hi
  cases i with
  | zero => exact ⟨hhidden, htext⟩
  | succ i =>
    rw [List.length_cons] at hi
    have hrest := h i (by omega)
    rw [show start + 1 + i = start + (i + 1) by omega] at hrest
    exact hrest

variable {opening closing : α} {middle : List α}

theorem prefix_visible {start count : Nat} (hlen : start + count ≤ text.length)
    (hopening : opening ∉ factor)
    (hstart : hidden start = false ∨ startsRun hidden start = true)
    (hleads : factor <+: writtenFrom hidden (opening :: middle) text start count) :
    VisibleAt hidden text factor start := by
  induction count generalizing start factor with
  | zero =>
    rw [writtenFrom, List.range'_zero, List.flatMap_nil, List.prefix_nil] at hleads
    rw [hleads]
    exact fun i hi => absurd hi (Nat.not_lt_zero i)
  | succ count ih =>
    cases factor with
    | nil => exact fun i hi => absurd hi (Nat.not_lt_zero i)
    | cons first factor =>
      rw [writtenFrom_succ] at hleads
      rcases hstart with hvisible | hrun
      · rw [written_visible hvisible] at hleads
        have hplace : text[start]? = some text[start] := List.getElem?_eq_getElem (by omega)
        rw [hplace, Option.toList_some, List.singleton_append, List.cons_prefix_cons] at hleads
        obtain ⟨rfl, hleads⟩ := hleads
        have hrest : opening ∉ factor := fun hmem => hopening (List.mem_cons_of_mem _ hmem)
        refine visibleAt_cons hvisible hplace (ih (by omega) hrest ?_ hleads)
        cases hnext : hidden (start + 1) with
        | false => exact Or.inl rfl
        | true => exact Or.inr (by simp [startsRun, hnext, hvisible])
      · rw [written_start hrun, List.cons_append, List.cons_prefix_cons] at hleads
        exact absurd (hleads.1 ▸ List.mem_cons_self) hopening

/-- A factor of the written text without the ends of the mask, that the mask does not hold, stands
in the text where nothing is hidden. -/
theorem infix_visible {start count : Nat} (hlen : start + count ≤ text.length)
    (hopening : opening ∉ factor)
    (hclosing : closing ∉ factor) (hmiddle : ¬ factor <:+: middle)
    (hwithin : factor <:+: writtenFrom hidden (opening :: (middle ++ [closing])) text start count) :
    ∃ place, VisibleAt hidden text factor place := by
  have hne : factor ≠ [] := by
    rintro rfl
    exact hmiddle List.nil_infix
  induction count generalizing start with
  | zero =>
    rw [writtenFrom, List.range'_zero, List.flatMap_nil, List.infix_nil] at hwithin
    exact absurd hwithin hne
  | succ count ih =>
    rw [writtenFrom_succ] at hwithin
    by_cases hrun : startsRun hidden start = true
    · rw [written_start hrun, List.cons_append, List.append_assoc, List.singleton_append,
        ← List.nil_append (opening :: _)] at hwithin
      rcases infix_of_split hopening hwithin with hnil | hwithin
      · exact absurd (List.infix_nil.mp hnil) hne
      · rcases infix_of_split hclosing hwithin with hinner | hwithin
        · exact absurd hinner hmiddle
        · exact ih (by omega) hwithin
    · by_cases hhidden : hidden start = true
      · rw [written, if_neg hrun, if_pos hhidden, List.nil_append] at hwithin
        exact ih (by omega) hwithin
      · rw [Bool.not_eq_true] at hhidden
        rw [written_visible hhidden] at hwithin
        have hplace : text[start]? = some text[start] := List.getElem?_eq_getElem (by omega)
        rw [hplace, Option.toList_some, List.singleton_append, List.infix_cons_iff] at hwithin
        rcases hwithin with hleads | hwithin
        · refine ⟨start, @prefix_visible α hidden text factor opening (middle ++ [closing]) start
            (count + 1) hlen hopening (Or.inl hhidden) ?_⟩
          rw [writtenFrom_succ, written_visible hhidden, hplace]
          exact hleads
        · exact ih (by omega) hwithin

end Factors

end Masking
