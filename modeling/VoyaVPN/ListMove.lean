import Mathlib.Data.List.Basic
import Mathlib.Data.List.InsertIdx
import Mathlib.Data.List.Perm.Basic

/-! Lists from which one element is taken out and put back elsewhere. -/
namespace ListMove

variable {α β : Type}

/-- The element at the index is taken out and put at the place among the others. -/
def reinsert (items : List α) (index place : Nat) : List α :=
  match items[index]? with
  | some item => (items.eraseIdx index).insertIdx place item
  | none => items

theorem reinsert_of_getElem? {items : List α} {index : Nat} {item : α}
    (h : items[index]? = some item) (place : Nat) :
    reinsert items index place = (items.eraseIdx index).insertIdx place item := by
  simp only [reinsert, h]

theorem reinsert_perm {items : List α} {index place : Nat} (hindex : index < items.length)
    (hplace : place ≤ (items.eraseIdx index).length) : (reinsert items index place).Perm items := by
  rw [reinsert_of_getElem? (List.getElem?_eq_getElem hindex)]
  exact (List.perm_insertIdx _ _ hplace).trans (List.getElem_cons_eraseIdx_perm hindex)

/-- An ordered list stays ordered when an element is put in where it belongs. -/
theorem pairwise_insertIdx {before : α → α → Prop} {item : α} {others : List α} {place : Nat}
    (hplace : place ≤ others.length) (hordered : others.Pairwise before)
    (hearlier : ∀ index other, others[index]? = some other → index < place → before other item)
    (hlater : ∀ index other, others[index]? = some other → place ≤ index → before item other) :
    (others.insertIdx place item).Pairwise before := by
  induction others generalizing place with
  | nil =>
    have hzero : place = 0 := Nat.le_zero.mp hplace
    subst hzero
    exact List.pairwise_singleton _ _
  | cons first others ih =>
    obtain ⟨hfirst, hothers⟩ := List.pairwise_cons.mp hordered
    cases place with
    | zero =>
      rw [List.insertIdx_zero]
      refine List.pairwise_cons.mpr ⟨fun other hother => ?_, hordered⟩
      obtain ⟨index, hindex⟩ := List.getElem?_of_mem hother
      exact hlater index other hindex (Nat.zero_le _)
    | succ place =>
      have hshort : place ≤ others.length := Nat.le_of_succ_le_succ hplace
      rw [List.insertIdx_succ_cons]
      refine List.pairwise_cons.mpr ⟨fun other hother => ?_, ih hshort hothers ?_ ?_⟩
      · rcases (List.mem_insertIdx hshort).mp hother with rfl | hother
        · exact hearlier 0 first rfl (Nat.succ_pos _)
        · exact hfirst other hother
      · intro index other hget hlt
        exact hearlier (index + 1) other hget (Nat.succ_lt_succ hlt)
      · intro index other hget hle
        exact hlater (index + 1) other hget (Nat.succ_le_succ hle)

/-- Where the element at the index comes to be among the others when it is put before the element
that the list has at the position, or at the end. -/
def placeBefore (index count position : Nat) : Nat :=
  min position count - if index < position then 1 else 0

end ListMove
