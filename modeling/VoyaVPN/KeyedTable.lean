import Mathlib.Data.List.Induction
import Mathlib.Data.List.Nodup

/-! A table whose rows have a key that no two of them share, with the statements that read and
write it. -/

structure KeyedTable (α κ : Type) (key : α → κ) where
  rows : List α := []
  nodup_keys : (rows.map key).Nodup := by simp

namespace KeyedTable

variable {α κ : Type} {key : α → κ}

def empty : KeyedTable α κ key := {}

theorem eq_of_key (table : KeyedTable α κ key) {first second : α} (hfirst : first ∈ table.rows)
    (hsecond : second ∈ table.rows) (hkey : key first = key second) : first = second :=
  List.inj_on_of_nodup_map table.nodup_keys hfirst hsecond hkey

def remove (table : KeyedTable α κ key) (goes : α → Bool) : KeyedTable α κ key where
  rows := table.rows.filter fun row => !goes row
  nodup_keys := (List.filter_sublist.map key).nodup table.nodup_keys

@[simp] theorem mem_remove (table : KeyedTable α κ key) (goes : α → Bool) (row : α) :
    row ∈ (table.remove goes).rows ↔ row ∈ table.rows ∧ goes row = false := by
  simp [remove, List.mem_filter]

theorem remove_none (table : KeyedTable α κ key) {goes : α → Bool}
    (hstays : ∀ row ∈ table.rows, goes row = false) : table.remove goes = table := by
  have hrows : (table.remove goes).rows = table.rows :=
    List.filter_eq_self.mpr fun row hrow => by simp [hstays row hrow]
  cases table
  simpa only [remove, mk.injEq] using hrows

section Keys

variable [DecidableEq κ]

def get (table : KeyedTable α κ key) (wanted : κ) : Option α :=
  table.rows.find? fun row => decide (key row = wanted)

def contains (table : KeyedTable α κ key) (wanted : κ) : Bool :=
  table.rows.any fun row => decide (key row = wanted)

theorem contains_iff (table : KeyedTable α κ key) (wanted : κ) :
    table.contains wanted = true ↔ ∃ row ∈ table.rows, key row = wanted := by
  simp [contains]

theorem not_contains_iff (table : KeyedTable α κ key) (wanted : κ) :
    table.contains wanted = false ↔ ∀ row ∈ table.rows, key row ≠ wanted := by
  simp [contains]

theorem contains_key (table : KeyedTable α κ key) {row : α} (hrow : row ∈ table.rows) :
    table.contains (key row) = true :=
  (table.contains_iff _).mpr ⟨row, hrow, rfl⟩

theorem get_eq_some_iff (table : KeyedTable α κ key) (wanted : κ) (row : α) :
    table.get wanted = some row ↔ row ∈ table.rows ∧ key row = wanted := by
  constructor
  · intro hget
    exact ⟨List.mem_of_find?_eq_some hget, by simpa using List.find?_some hget⟩
  · rintro ⟨hrow, hkey⟩
    cases hget : table.get wanted with
    | none =>
      have hnone := List.find?_eq_none.mp hget row hrow
      simp [hkey] at hnone
    | some found =>
      have hfound : found ∈ table.rows := List.mem_of_find?_eq_some hget
      have hfoundKey : key found = wanted := by simpa using List.find?_some hget
      rw [table.eq_of_key hfound hrow (hfoundKey.trans hkey.symm)]

theorem get_eq_none_iff (table : KeyedTable α κ key) (wanted : κ) :
    table.get wanted = none ↔ table.contains wanted = false := by
  simp [get, contains]

/-- The rows after `INSERT … ON CONFLICT (key) DO UPDATE`. -/
def upsertRows (key : α → κ) (rows : List α) (item : α) : List α :=
  if rows.any (fun row => decide (key row = key item)) then
    rows.map fun row => if key row = key item then item else row
  else rows ++ [item]

theorem map_key_replace (key : α → κ) (rows : List α) (item : α) :
    (rows.map fun row => if key row = key item then item else row).map key = rows.map key := by
  rw [List.map_map]
  apply List.map_congr_left
  intro row _
  simp only [Function.comp_apply]
  split
  · rename_i hkey
    exact hkey.symm
  · rfl

theorem nodup_upsertRows {rows : List α} (hnodup : (rows.map key).Nodup) (item : α) :
    ((upsertRows key rows item).map key).Nodup := by
  unfold upsertRows
  split
  · rw [map_key_replace]
    exact hnodup
  · rename_i hany
    rw [List.map_append, List.map_singleton, List.nodup_append]
    refine ⟨hnodup, List.nodup_singleton _, ?_⟩
    intro first hfirst second hsecond hequal
    obtain ⟨row, hrow, rfl⟩ := List.mem_map.mp hfirst
    rw [List.mem_singleton] at hsecond
    apply hany
    exact List.any_eq_true.mpr ⟨row, hrow, by simp [hequal, hsecond]⟩

def upsert (table : KeyedTable α κ key) (item : α) : KeyedTable α κ key where
  rows := upsertRows key table.rows item
  nodup_keys := nodup_upsertRows table.nodup_keys item

@[simp] theorem mem_upsert (table : KeyedTable α κ key) (item row : α) :
    row ∈ (table.upsert item).rows ↔ row = item ∨ row ∈ table.rows ∧ key row ≠ key item := by
  simp only [upsert, upsertRows]
  split
  · rename_i hany
    obtain ⟨old, hold, hkey⟩ := List.any_eq_true.mp hany
    have hkey : key old = key item := by simpa using hkey
    constructor
    · intro hrow
      obtain ⟨before, hbefore, rfl⟩ := List.mem_map.mp hrow
      split
      · exact Or.inl rfl
      · rename_i hother
        exact Or.inr ⟨hbefore, hother⟩
    · rintro (rfl | ⟨hrow, hother⟩)
      · exact List.mem_map.mpr ⟨old, hold, if_pos hkey⟩
      · exact List.mem_map.mpr ⟨row, hrow, if_neg hother⟩
  · rename_i hany
    have hfresh : ∀ other ∈ table.rows, key other ≠ key item := by
      intro other hother hkey
      exact hany (List.any_eq_true.mpr ⟨other, hother, by simp [hkey]⟩)
    rw [List.mem_append, List.mem_singleton]
    constructor
    · rintro (hrow | rfl)
      · exact Or.inr ⟨hrow, hfresh row hrow⟩
      · exact Or.inl rfl
    · rintro (rfl | ⟨hrow, _⟩)
      · exact Or.inr rfl
      · exact Or.inl hrow

theorem contains_upsert (table : KeyedTable α κ key) (item : α) (wanted : κ) :
    (table.upsert item).contains wanted = true ↔
      wanted = key item ∨ table.contains wanted = true := by
  rw [contains_iff, contains_iff]
  constructor
  · rintro ⟨row, hrow, rfl⟩
    rcases (mem_upsert ..).mp hrow with rfl | ⟨hold, _⟩
    · exact Or.inl rfl
    · exact Or.inr ⟨row, hold, rfl⟩
  · rintro (rfl | ⟨row, hrow, rfl⟩)
    · exact ⟨item, (mem_upsert ..).mpr (Or.inl rfl), rfl⟩
    · by_cases hkey : key row = key item
      · exact ⟨item, (mem_upsert ..).mpr (Or.inl rfl), hkey.symm⟩
      · exact ⟨row, (mem_upsert ..).mpr (Or.inr ⟨hrow, hkey⟩), rfl⟩

theorem get_upsert (table : KeyedTable α κ key) (item : α) (wanted : κ) :
    (table.upsert item).get wanted = if key item = wanted then some item else table.get wanted := by
  by_cases hkey : key item = wanted
  · rw [if_pos hkey, get_eq_some_iff, mem_upsert]
    exact ⟨Or.inl rfl, hkey⟩
  · rw [if_neg hkey]
    cases hget : table.get wanted with
    | some row =>
      obtain ⟨hrow, rfl⟩ := (get_eq_some_iff ..).mp hget
      rw [get_eq_some_iff, mem_upsert]
      exact ⟨Or.inr ⟨hrow, fun h => hkey h.symm⟩, rfl⟩
    | none =>
      rw [get_eq_none_iff, not_contains_iff] at hget ⊢
      intro row hrow
      rcases (mem_upsert ..).mp hrow with rfl | ⟨hold, _⟩
      · exact hkey
      · exact hget row hold

theorem get_remove (table : KeyedTable α κ key) (goes : α → Bool) (wanted : κ) :
    (table.remove goes).get wanted = (table.get wanted).filter fun row => !goes row := by
  apply Option.ext
  intro row
  rw [get_eq_some_iff, mem_remove, Option.filter_eq_some_iff, get_eq_some_iff]
  constructor
  · rintro ⟨⟨hrow, hgoes⟩, hkey⟩
    exact ⟨⟨hrow, hkey⟩, by simp [hgoes]⟩
  · rintro ⟨⟨hrow, hkey⟩, hgoes⟩
    exact ⟨⟨hrow, by simpa using hgoes⟩, hkey⟩

/-- The rows after an `UPDATE` that writes no key. -/
def update (table : KeyedTable α κ key) (change : α → α)
    (hkey : ∀ row, key (change row) = key row) :
    KeyedTable α κ key where
  rows := table.rows.map change
  nodup_keys := by
    have hkeys : (table.rows.map change).map key = table.rows.map key := by
      rw [List.map_map]
      exact List.map_congr_left fun row _ => hkey row
    rw [hkeys]
    exact table.nodup_keys

theorem get_update (table : KeyedTable α κ key) {change : α → α}
    (hkey : ∀ row, key (change row) = key row) (wanted : κ) :
    (table.update change hkey).get wanted = (table.get wanted).map change := by
  rw [get, update, List.find?_map, get]
  congr 1
  apply congrArg (List.find? · table.rows)
  funext row
  rw [Function.comp_apply, hkey]

/-- After a list of upserts every key that they wrote has the last row written under it. -/
theorem mem_foldl_upsert (table : KeyedTable α κ key) (writes : List α) (row : α) :
    row ∈ (writes.foldl upsert table).rows ↔
      (∃ earlier later, writes = earlier ++ row :: later ∧ ∀ other ∈ later, key other ≠ key row) ∨
        row ∈ table.rows ∧ ∀ write ∈ writes, key write ≠ key row := by
  induction writes using List.reverseRecOn with
  | nil => simp
  | append_singleton writes last ih =>
    rw [List.foldl_append, List.foldl_cons, List.foldl_nil, mem_upsert, ih]
    constructor
    · rintro (rfl | ⟨⟨earlier, later, rfl, hlater⟩ | ⟨hrow, hnone⟩, hkey⟩)
      · exact Or.inl ⟨writes, [], rfl, by simp⟩
      · refine Or.inl ⟨earlier, later ++ [last], by simp, fun other hother => ?_⟩
        rcases List.mem_append.mp hother with hother | hother
        · exact hlater other hother
        · rw [List.mem_singleton.mp hother]
          exact fun hequal => hkey hequal.symm
      · refine Or.inr ⟨hrow, fun write hwrite => ?_⟩
        rcases List.mem_append.mp hwrite with hwrite | hwrite
        · exact hnone write hwrite
        · rw [List.mem_singleton.mp hwrite]
          exact fun hequal => hkey hequal.symm
    · rintro (⟨earlier, later, hsplit, hlater⟩ | ⟨hrow, hnone⟩)
      · rcases List.eq_nil_or_concat later with rfl | ⟨init, one, rfl⟩
        · have hlast := (List.append_inj' hsplit rfl).2
          exact Or.inl (by simpa using hlast.symm)
        · rw [List.concat_eq_append] at hsplit hlater
          rw [← List.cons_append, ← List.append_assoc] at hsplit
          obtain ⟨rfl, hone⟩ := List.append_inj' hsplit rfl
          have hone : last = one := by simpa using hone
          refine Or.inr ⟨Or.inl ⟨earlier, init, rfl, fun other hother => ?_⟩, fun hequal => ?_⟩
          · exact hlater other (List.mem_append_left _ hother)
          · exact hlater one (by simp) (by rw [← hone, hequal])
      · refine Or.inr ⟨Or.inr ⟨hrow, fun write hwrite => ?_⟩, fun hequal => ?_⟩
        · exact hnone write (List.mem_append_left _ hwrite)
        · exact hnone last (by simp) hequal.symm

theorem mem_foldl_upsert_nodup {writes : List α} (hnodup : (writes.map key).Nodup) (row : α) :
    row ∈ (writes.foldl upsert ({} : KeyedTable α κ key)).rows ↔ row ∈ writes := by
  rw [mem_foldl_upsert]
  constructor
  · rintro (⟨earlier, later, rfl, _⟩ | ⟨hrow, _⟩)
    · exact List.mem_append_right _ List.mem_cons_self
    · exact absurd hrow List.not_mem_nil
  · intro hrow
    obtain ⟨earlier, later, rfl⟩ := List.append_of_mem hrow
    refine Or.inl ⟨earlier, later, rfl, fun other hother hkey => ?_⟩
    rw [List.map_append, List.map_cons, List.nodup_append] at hnodup
    have hlater := (List.nodup_cons.mp hnodup.2.1).1
    exact hlater (List.mem_map.mpr ⟨other, hother, hkey⟩)

end Keys

end KeyedTable
