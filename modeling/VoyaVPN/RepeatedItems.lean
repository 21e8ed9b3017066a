import Mathlib.Data.List.Induction
import Mathlib.Data.List.Nodup

/-! Lists in which some elements repeat earlier ones. An element repeats when a twin stands before
it; elements that are exempt never do. -/
namespace RepeatedItems

variable {α : Type*} (exempt : α → Prop) (twin : α → α → Prop)

def Repeats (items : List α) (item : α) : Prop :=
  ¬ exempt item ∧ ∃ front back, items = front ++ item :: back ∧ ∃ other ∈ front, twin other item

variable {exempt twin} {items : List α} {item : α}

theorem Repeats.mem (h : Repeats exempt twin items item) : item ∈ items := by
  obtain ⟨_, front, back, rfl, _⟩ := h
  exact List.mem_append_right _ List.mem_cons_self

@[simp] theorem not_repeats_nil : ¬ Repeats exempt twin [] item :=
  fun h => absurd h.mem List.not_mem_nil

theorem repeats_concat (last : α) :
    Repeats exempt twin (items ++ [last]) item ↔
      Repeats exempt twin items item ∨
        item = last ∧ ¬ exempt item ∧ ∃ other ∈ items, twin other item := by
  constructor
  · rintro ⟨hexempt, front, back, hsplit, other, hother, htwin⟩
    rcases List.eq_nil_or_concat back with rfl | ⟨init, final, rfl⟩
    · obtain ⟨rfl, hlast⟩ := List.append_inj' hsplit rfl
      cases hlast
      exact Or.inr ⟨rfl, hexempt, other, hother, htwin⟩
    · rw [List.concat_eq_append, ← List.cons_append, ← List.append_assoc] at hsplit
      obtain ⟨rfl, _⟩ := List.append_inj' hsplit rfl
      exact Or.inl ⟨hexempt, front, init, rfl, other, hother, htwin⟩
  · rintro (⟨hexempt, front, back, rfl, other, hother, htwin⟩ |
      ⟨rfl, hexempt, other, hother, htwin⟩)
    · exact ⟨hexempt, front, back ++ [last], by simp, other, hother, htwin⟩
    · exact ⟨hexempt, items, [], rfl, other, hother, htwin⟩

theorem exists_first (htrans : ∀ {a b c}, twin a b → twin b c → twin a c) (hnodup : items.Nodup)
    (h : ∃ other ∈ items, twin other item) :
    ∃ first ∈ items, ¬ Repeats exempt twin items first ∧ twin first item := by
  induction items using List.reverseRecOn with
  | nil =>
    obtain ⟨_, hother, _⟩ := h
    cases hother
  | append_singleton items last ih =>
    obtain ⟨hitems, _, hdisjoint⟩ := List.nodup_append.mp hnodup
    have hlast : last ∉ items := fun hmem =>
      hdisjoint last hmem last (List.mem_singleton.mpr rfl) rfl
    by_cases hbefore : ∃ other ∈ items, twin other item
    · obtain ⟨first, hfirst, hnot, htwin⟩ := ih hitems hbefore
      refine ⟨first, List.mem_append_left _ hfirst, fun hrepeats => ?_, htwin⟩
      rcases (repeats_concat last).mp hrepeats with h | ⟨rfl, _⟩
      · exact hnot h
      · exact hlast hfirst
    · obtain ⟨other, hother, htwin⟩ := h
      rcases List.mem_append.mp hother with hother | hother
      · exact absurd ⟨other, hother, htwin⟩ hbefore
      · have hother := List.mem_singleton.mp hother
        subst hother
        refine ⟨other, List.mem_append_right _ (List.mem_singleton.mpr rfl), fun hrepeats => ?_,
          htwin⟩
        rcases (repeats_concat other).mp hrepeats with h | ⟨_, _, earlier, hearlier, hmatch⟩
        · exact hlast h.mem
        · exact hbefore ⟨earlier, hearlier, htrans hmatch htwin⟩

theorem eq_of_twin (hsymm : ∀ {a b}, twin a b → twin b a) {first second : α}
    (hfirst : first ∈ items) (hsecond : second ∈ items)
    (hexempt : ¬ exempt first) (hexempt' : ¬ exempt second)
    (hstays : ¬ Repeats exempt twin items first) (hstays' : ¬ Repeats exempt twin items second)
    (htwin : twin first second) : first = second := by
  obtain ⟨front, back, rfl⟩ := List.append_of_mem hfirst
  rcases List.mem_append.mp hsecond with hbefore | hafter
  · exact absurd ⟨hexempt, front, back, rfl, second, hbefore, hsymm htwin⟩ hstays
  · rcases List.mem_cons.mp hafter with hsame | hafter
    · exact hsame.symm
    · obtain ⟨middle, rest, rfl⟩ := List.append_of_mem hafter
      exact absurd ⟨hexempt', front ++ first :: middle, rest, by simp, first,
        List.mem_append_right _ List.mem_cons_self, htwin⟩ hstays'

theorem takeWhile_before [DecidableEq α] {front back : List α}
    (hnodup : (front ++ item :: back).Nodup) :
    (front ++ item :: back).takeWhile (fun other => decide (other ≠ item)) = front := by
  obtain ⟨_, _, hdisjoint⟩ := List.nodup_append.mp hnodup
  have hfront : ∀ other ∈ front, decide (other ≠ item) = true := fun other hother =>
    decide_eq_true (hdisjoint other hother item List.mem_cons_self)
  rw [List.takeWhile_append_of_pos hfront, List.takeWhile_cons_of_neg (by simp), List.append_nil]

/-- What repeats in a list without duplicates is found by what stands before it. -/
theorem repeats_iff_takeWhile [DecidableEq α] (hnodup : items.Nodup) :
    Repeats exempt twin items item ↔
      item ∈ items ∧ ¬ exempt item ∧
        ∃ other ∈ items.takeWhile (fun other => decide (other ≠ item)), twin other item := by
  constructor
  · rintro ⟨hexempt, front, back, rfl, hother⟩
    refine ⟨List.mem_append_right _ List.mem_cons_self, hexempt, ?_⟩
    rw [takeWhile_before hnodup]
    exact hother
  · rintro ⟨hmem, hexempt, hother⟩
    obtain ⟨front, back, rfl⟩ := List.append_of_mem hmem
    rw [takeWhile_before hnodup] at hother
    exact ⟨hexempt, front, back, rfl, hother⟩

end RepeatedItems
