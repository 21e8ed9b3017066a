import VoyaVPN.KeyedTable

/-! Records merged into a table one after the other. A record that has the data of known rows takes
the place of one of them and the others are superseded; any other record is a row of its own, under
the key that it brings or under a key drawn for it. -/

/-- How records are read: the key of a row, the data that make two of them one, and the key that a
record brings. -/
structure RecordKind (α κ δ : Type) where
  key : α → κ
  data : α → δ
  own : α → Option κ
  rekey : κ → α → α
  key_rekey : ∀ chosen item, key (rekey chosen item) = chosen
  data_rekey : ∀ chosen item, data (rekey chosen item) = data item

namespace RecordMerge

variable {α κ δ : Type} [DecidableEq κ] (kind : RecordKind α κ δ)

structure State where
  table : KeyedTable α κ kind.key
  known : List α
  imported : List κ
  updated : List κ
  superseded : List κ
  drawn : Nat

def Matched (start : KeyedTable α κ kind.key) (item : α) : Prop :=
  ∃ row ∈ start.rows, kind.data row = kind.data item

/-- The known row has the key of one with the data of the record. -/
def Rivals (known : List α) (item : α) (key : κ) : Prop :=
  ∃ row ∈ known, kind.data row = kind.data item ∧ kind.key row = key

/-- What the merge of one record does. Which of the rows with its data it replaces is not said. -/
structure Step (gen : Nat → κ) (before : State kind) (item : α) (chosen : κ)
    (after : State kind) : Prop where
  table : after.table = before.table.upsert (kind.rekey chosen item)
  imported : after.imported = before.imported ++ [chosen]
  superseded : ∀ key, key ∈ after.superseded ↔
    key ∈ before.superseded ∨ key ≠ chosen ∧ Rivals kind before.known item key
  saved : kind.rekey chosen item ∈ after.known
  of_known : ∀ row ∈ after.known, row = kind.rekey chosen item ∨
    row ∈ before.known ∧ (kind.key row = chosen ∨ ¬Rivals kind before.known item (kind.key row))
  known_of : ∀ row ∈ before.known, ¬Rivals kind before.known item (kind.key row) →
    row ∈ after.known
  choice :
    Rivals kind before.known item chosen ∧ after.updated = before.updated ++ [chosen] ∧
        after.drawn = before.drawn ∨
      (∀ row ∈ before.known, kind.data row ≠ kind.data item) ∧ after.updated = before.updated ∧
        (kind.own item = some chosen ∧ after.drawn = before.drawn ∨
          kind.own item = none ∧ chosen = gen before.drawn ∧ after.drawn = before.drawn + 1)

inductive Run (gen : Nat → κ) : State kind → List α → State kind → Prop where
  | nil (state) : Run gen state [] state
  | cons {before item chosen between items after} :
      Step kind gen before item chosen between → Run gen between items after →
      Run gen before (item :: items) after

structure Fresh (gen : Nat → κ) (start : KeyedTable α κ kind.key) (items : List α)
    (low high : Nat) : Prop where
  stored : ∀ place, low ≤ place → place < high → ∀ row ∈ start.rows, kind.key row ≠ gen place
  own : ∀ place, low ≤ place → place < high → ∀ item ∈ items, kind.own item ≠ some (gen place)
  distinct : ∀ first second, low ≤ first → first < second → second < high →
    gen first ≠ gen second

omit [DecidableEq κ] in
variable {kind} in
theorem Fresh.mono {gen : Nat → κ} {start : KeyedTable α κ kind.key} {items : List α}
    {low next high : Nat} (hfresh : Fresh kind gen start items low high) (hle : low ≤ next) :
    Fresh kind gen start items next high where
  stored place hplace := hfresh.stored place (by omega)
  own place hplace := hfresh.own place (by omega)
  distinct first second hfirst := hfresh.distinct first second (by omega)

def initial (start : KeyedTable α κ kind.key) (known : List α) (drawn : Nat) : State kind where
  table := start
  known
  imported := []
  updated := []
  superseded := []
  drawn

def FirstOf (items : List α) (item : α) : Prop :=
  ∃ earlier later, items = earlier ++ item :: later ∧
    ∀ other ∈ earlier, kind.data other ≠ kind.data item

def LastOf (items : List α) (item : α) : Prop :=
  ∃ earlier later, items = earlier ++ item :: later ∧
    ∀ other ∈ later, kind.data other ≠ kind.data item

/-- A record without a row, the first of those with its data, brings no key of a row that another
record has the data of, nor a key that another such record brings. -/
structure NoClash (start : KeyedTable α κ kind.key) (items : List α) : Prop where
  stored : ∀ item, FirstOf kind items item → ¬Matched kind start item → ∀ row ∈ start.rows,
    kind.own item = some (kind.key row) → ∀ other ∈ items, kind.data row ≠ kind.data other
  own : ∀ first, FirstOf kind items first → ∀ second, FirstOf kind items second →
    ¬Matched kind start first → ¬Matched kind start second → kind.own first ≠ none →
    kind.own first = kind.own second → kind.data first = kind.data second

variable {kind} {gen : Nat → κ}

theorem Step.drawn_le {before after : State kind} {item : α} {chosen : κ}
    (hstep : Step kind gen before item chosen after) : before.drawn ≤ after.drawn := by
  rcases hstep.choice with ⟨_, _, hdrawn⟩ | ⟨_, _, ⟨_, hdrawn⟩ | ⟨_, _, hdrawn⟩⟩ <;> omega

theorem Run.drawn_le {before after : State kind} {items : List α}
    (hrun : Run kind gen before items after) : before.drawn ≤ after.drawn := by
  induction hrun with
  | nil => exact Nat.le_refl _
  | cons hstep _ ih => exact Nat.le_trans hstep.drawn_le ih

theorem Run.length_imported {before after : State kind} {items : List α}
    (hrun : Run kind gen before items after) :
    after.imported.length = before.imported.length + items.length := by
  induction hrun with
  | nil => rfl
  | cons hstep _ ih =>
    rw [ih, hstep.imported, List.length_append, List.length_singleton, List.length_cons]
    omega

/-- The records of one data take one key, and the rows are those that were there before with the
records written over them. -/
structure Merged (start : KeyedTable α κ kind.key) (gen : Nat → κ) (low : Nat)
    (items done : List α) (assign : δ → κ) (state : State kind) : Prop where
  waiting : ∀ row ∈ start.rows, (∃ item ∈ items, kind.data row = kind.data item) →
    (∀ item ∈ done, kind.data item ≠ kind.data row) → row ∈ state.known
  found : ∀ row ∈ state.known, (∃ item ∈ items, kind.data row = kind.data item) →
    row ∈ start.rows ∧ (∀ item ∈ done, kind.data item ≠ kind.data row) ∨
      (∃ item ∈ done, kind.data item = kind.data row) ∧ kind.key row = assign (kind.data row)
  present : ∀ item ∈ done, ∃ row ∈ state.known, kind.data row = kind.data item
  kept : ∀ item ∈ done, Matched kind start item →
    ∃ row ∈ start.rows, kind.data row = kind.data item ∧ kind.key row = assign (kind.data item)
  given : ∀ item ∈ done, ¬Matched kind start item →
    (∀ row ∈ start.rows, (∃ other ∈ items, kind.data row = kind.data other) →
      kind.key row ≠ assign (kind.data item)) ∧
    ∃ first, FirstOf kind done first ∧ kind.data first = kind.data item ∧
      (kind.own first = some (assign (kind.data item)) ∨
        kind.own first = none ∧ ∃ place, low ≤ place ∧ place < state.drawn ∧
          assign (kind.data item) = gen place)
  injective : ∀ first ∈ done, ∀ second ∈ done,
    assign (kind.data first) = assign (kind.data second) → kind.data first = kind.data second
  imported : state.imported = done.map fun item => assign (kind.data item)
  table : state.table =
    (done.map fun item => kind.rekey (assign (kind.data item)) item).foldl KeyedTable.upsert start
  superseded : ∀ key, key ∈ state.superseded ↔
    ∃ row ∈ start.rows, kind.key row = key ∧ (∃ item ∈ done, kind.data item = kind.data row) ∧
      key ≠ assign (kind.data row)
  updated : (∀ item ∈ done, Matched kind start item) → state.updated = state.imported

theorem merged_initial (start : KeyedTable α κ kind.key) (items : List α) {known : List α}
    (hknown : ∀ row, row ∈ known ↔ row ∈ start.rows) (low : Nat) (assign : δ → κ) :
    Merged start gen low items [] assign (initial kind start known low) where
  waiting row hrow _ _ := (hknown row).mpr hrow
  found row hrow _ := Or.inl ⟨(hknown row).mp hrow, by simp⟩
  present := by simp
  kept := by simp
  given := by simp
  injective := by simp
  imported := rfl
  table := rfl
  superseded := by simp [initial]
  updated _ := rfl

omit [DecidableEq κ] in
theorem FirstOf.mem {items : List α} {item : α} (hfirst : FirstOf kind items item) :
    item ∈ items := by
  obtain ⟨earlier, later, rfl, _⟩ := hfirst
  simp

omit [DecidableEq κ] in
theorem FirstOf.unique {items : List α} {item other : α} (hitem : FirstOf kind items item)
    (hother : FirstOf kind items other) (hdata : kind.data item = kind.data other) :
    item = other := by
  obtain ⟨earlier, later, rfl, hnone⟩ := hitem
  obtain ⟨before, after, hsplit, hnothing⟩ := hother
  rcases List.append_eq_append_iff.mp hsplit with ⟨rest, rfl, hrest⟩ | ⟨rest, rfl, hrest⟩
  · cases rest with
    | nil =>
      rw [List.nil_append, List.cons.injEq] at hrest
      exact hrest.1
    | cons head rest =>
      rw [List.cons_append, List.cons.injEq] at hrest
      exact absurd (hrest.1 ▸ hdata) (hnothing head (by simp))
  · cases rest with
    | nil =>
      rw [List.nil_append, List.cons.injEq] at hrest
      exact hrest.1.symm
    | cons head rest =>
      rw [List.cons_append, List.cons.injEq] at hrest
      exact absurd (hrest.1 ▸ hdata.symm) (hnone head (by simp))

omit [DecidableEq κ] in
theorem FirstOf.append {items : List α} {item : α} (hfirst : FirstOf kind items item)
    (more : List α) : FirstOf kind (items ++ more) item := by
  obtain ⟨earlier, later, rfl, hother⟩ := hfirst
  exact ⟨earlier, later ++ more, by simp, hother⟩

omit [DecidableEq κ] in
theorem firstOf_concat {done : List α} {item : α}
    (hnew : ∀ other ∈ done, kind.data other ≠ kind.data item) :
    FirstOf kind (done ++ [item]) item :=
  ⟨done, [], rfl, hnew⟩

omit [DecidableEq κ] in
theorem matched_congr {start : KeyedTable α κ kind.key} {first second : α}
    (hdata : kind.data first = kind.data second) (hmatched : Matched kind start first) :
    Matched kind start second := by
  obtain ⟨row, hrow, hsame⟩ := hmatched
  exact ⟨row, hrow, hsame.trans hdata⟩

section Steps

variable {start : KeyedTable α κ kind.key} {low : Nat} {items done : List α} {assign : δ → κ}
  {before after : State kind} {item : α} {chosen : κ}

theorem Merged.key_ne_assign (hinv : Merged start gen low items done assign before) {other row : α}
    (hother : other ∈ done) (hrow : row ∈ start.rows)
    (hitem : ∃ item ∈ items, kind.data row = kind.data item)
    (hdata : kind.data row ≠ kind.data other) : kind.key row ≠ assign (kind.data other) := by
  intro hkey
  by_cases hmatched : Matched kind start other
  · obtain ⟨kept, hkept, hsame, hassign⟩ := hinv.kept other hother hmatched
    have hrows : row = kept := start.eq_of_key hrow hkept (hkey.trans hassign.symm)
    exact hdata (hrows ▸ hsame)
  · exact (hinv.given other hother hmatched).1 row hrow hitem hkey

theorem Merged.key_known (hinv : Merged start gen low items done assign before) {other row : α}
    (hother : other ∈ done) (hsub : ∀ one ∈ done, one ∈ items) (hrow : row ∈ before.known)
    (hdata : kind.data row = kind.data other) : kind.key row = assign (kind.data other) := by
  rcases hinv.found row hrow ⟨other, hsub other hother, hdata⟩ with ⟨_, hnone⟩ | ⟨_, hassign⟩
  · exact absurd hdata.symm (hnone other hother)
  · rw [← hdata]
    exact hassign

/-- The rivals of a record whose data are new are the rows of the table with its data. -/
theorem Merged.rivals_first (hinv : Merged start gen low items done assign before)
    (hitem : item ∈ items) (hnew : ∀ other ∈ done, kind.data other ≠ kind.data item) (key : κ) :
    Rivals kind before.known item key ↔
      ∃ row ∈ start.rows, kind.data row = kind.data item ∧ kind.key row = key := by
  constructor
  · rintro ⟨row, hrow, hdata, hkey⟩
    rcases hinv.found row hrow ⟨item, hitem, hdata⟩ with ⟨hstart, _⟩ | ⟨⟨other, hother, hsame⟩, _⟩
    · exact ⟨row, hstart, hdata, hkey⟩
    · exact absurd (hsame.trans hdata) (hnew other hother)
  · rintro ⟨row, hrow, hdata, hkey⟩
    refine ⟨row, hinv.waiting row hrow ⟨item, hitem, hdata⟩ ?_, hdata, hkey⟩
    intro other hother hsame
    exact hnew other hother (hsame.trans hdata)

/-- The rivals of a record whose data have been merged before have the key of these. -/
theorem Merged.rivals_again (hinv : Merged start gen low items done assign before)
    (hsub : ∀ one ∈ done, one ∈ items) {other : α} (hother : other ∈ done)
    (hdata : kind.data other = kind.data item) (key : κ) :
    Rivals kind before.known item key ↔ key = assign (kind.data item) := by
  have hkey : ∀ row ∈ before.known, kind.data row = kind.data item →
      kind.key row = assign (kind.data item) := by
    intro row hrow hsame
    rw [← hdata]
    exact hinv.key_known hother hsub hrow (hsame.trans hdata.symm)
  constructor
  · rintro ⟨row, hrow, hsame, rfl⟩
    exact hkey row hrow hsame
  · rintro rfl
    obtain ⟨row, hrow, hsame⟩ := hinv.present other hother
    have hsame : kind.data row = kind.data item := hsame.trans hdata
    exact ⟨row, hrow, hsame, hkey row hrow hsame⟩

theorem Merged.step_again (hinv : Merged start gen low items done assign before)
    (hstep : Step kind gen before item chosen after) (hsub : ∀ one ∈ done, one ∈ items)
    {other : α} (hother : other ∈ done) (hdata : kind.data other = kind.data item) :
    Merged start gen low items (done ++ [item]) assign after := by
  have hrivals := hinv.rivals_again hsub hother hdata
  have hchoice : Rivals kind before.known item chosen ∧
      after.updated = before.updated ++ [chosen] ∧ after.drawn = before.drawn := by
    rcases hstep.choice with hhit | ⟨hnone, _⟩
    · exact hhit
    · obtain ⟨row, hrow, hsame, _⟩ := (hrivals _).mpr rfl
      exact absurd hsame (hnone row hrow)
  obtain ⟨hhit, hupdated, hdrawn⟩ := hchoice
  have hchosen : chosen = assign (kind.data item) := (hrivals chosen).mp hhit
  subst hchosen
  -- Nothing but the rows with the key of these data may go from the known ones.
  have hstays : ∀ row ∈ before.known, kind.key row ≠ assign (kind.data item) → row ∈ after.known :=
    fun row hrow hkey => hstep.known_of row hrow fun hrival => hkey ((hrivals _).mp hrival)
  have hsaved := kind.data_rekey (assign (kind.data item)) item
  have hdone : ∀ one ∈ done ++ [item], ∃ same ∈ done, kind.data same = kind.data one := by
    intro one hone
    rcases List.mem_append.mp hone with hone | hone
    · exact ⟨one, hone, rfl⟩
    · rw [List.mem_singleton.mp hone]
      exact ⟨other, hother, hdata⟩
  refine ⟨?_, ?_, ?_, ?_, ?_, ?_, ?_, ?_, ?_, ?_⟩
  · intro row hrow hrelevant hnone
    apply hstays row
    · exact hinv.waiting row hrow hrelevant fun one hone => hnone one (List.mem_append_left _ hone)
    · have hne := hinv.key_ne_assign hother hrow hrelevant
        fun hsame => hnone other (List.mem_append_left _ hother) hsame.symm
      rwa [hdata] at hne
  · intro row hrow hrelevant
    rcases hstep.of_known row hrow with rfl | ⟨hknown, _⟩
    · right
      rw [hsaved, kind.key_rekey]
      exact ⟨⟨item, by simp, rfl⟩, rfl⟩
    · rcases hinv.found row hknown hrelevant with ⟨hstart, hnone⟩ | ⟨⟨one, hone, hsame⟩, hkey⟩
      · left
        refine ⟨hstart, fun one hone => ?_⟩
        obtain ⟨same, hsame, hsameData⟩ := hdone one hone
        rw [← hsameData]
        exact hnone same hsame
      · exact Or.inr ⟨⟨one, List.mem_append_left _ hone, hsame⟩, hkey⟩
  · intro one hone
    obtain ⟨same, hsame, hsameData⟩ := hdone one hone
    by_cases hone : kind.data one = kind.data item
    · exact ⟨_, hstep.saved, by rw [hsaved, hone]⟩
    · obtain ⟨row, hrow, hrowData⟩ := hinv.present same hsame
      have hrowOne : kind.data row = kind.data one := hrowData.trans hsameData
      refine ⟨row, hstays row hrow fun hkey => hone ?_, hrowOne⟩
      have hrowKey := hinv.key_known hsame hsub hrow hrowData
      rw [hkey, ← hdata] at hrowKey
      rw [← hsameData, ← hdata]
      exact hinv.injective same hsame other hother hrowKey.symm
  · intro one hone hmatched
    obtain ⟨same, hsame, hsameData⟩ := hdone one hone
    rw [← hsameData]
    exact hinv.kept same hsame (matched_congr hsameData.symm hmatched)
  · intro one hone hmatched
    obtain ⟨same, hsame, hsameData⟩ := hdone one hone
    obtain ⟨hstored, first, hfirst, hfirstData, hgiven⟩ :=
      hinv.given same hsame fun hagain => hmatched (matched_congr hsameData hagain)
    rw [← hsameData, hdrawn]
    exact ⟨hstored, first, hfirst.append _, hfirstData, hgiven⟩
  · intro first hfirst second hsecond hequal
    obtain ⟨one, hone, honeData⟩ := hdone first hfirst
    obtain ⟨two, htwo, htwoData⟩ := hdone second hsecond
    rw [← honeData, ← htwoData] at hequal ⊢
    exact hinv.injective one hone two htwo hequal
  · rw [hstep.imported, hinv.imported]
    simp
  · rw [hstep.table, hinv.table]
    simp
  · intro key
    rw [hstep.superseded, hinv.superseded, hrivals]
    constructor
    · rintro (⟨row, hrow, hkey, ⟨one, hone, hsame⟩, hne⟩ | ⟨hne, hkey⟩)
      · exact ⟨row, hrow, hkey, ⟨one, List.mem_append_left _ hone, hsame⟩, hne⟩
      · exact absurd hkey hne
    · rintro ⟨row, hrow, hkey, ⟨one, hone, hsame⟩, hne⟩
      obtain ⟨same, hsameDone, hsameData⟩ := hdone one hone
      exact Or.inl ⟨row, hrow, hkey, ⟨same, hsameDone, hsameData.trans hsame⟩, hne⟩
  · intro hall
    rw [hupdated, hstep.imported,
      hinv.updated fun one hone => hall one (List.mem_append_left _ hone)]

/-- What is known of the key that the first record of new data takes. -/
structure Chosen (start : KeyedTable α κ kind.key) (gen : Nat → κ) (low : Nat)
    (items done : List α) (assign : δ → κ) (item : α) (chosen : κ) (drawn : Nat) : Prop where
  stored : ∀ row ∈ start.rows, (∃ other ∈ items, kind.data row = kind.data other) →
    kind.data row ≠ kind.data item → kind.key row ≠ chosen
  unused : ∀ other ∈ done, assign (kind.data other) ≠ chosen
  kept : Matched kind start item →
    ∃ row ∈ start.rows, kind.data row = kind.data item ∧ kind.key row = chosen
  given : ¬Matched kind start item → kind.own item = some chosen ∨
    kind.own item = none ∧ ∃ place, low ≤ place ∧ place < drawn ∧ chosen = gen place

theorem Merged.step_first (hinv : Merged start gen low items done assign before)
    (hstep : Step kind gen before item chosen after) (hitem : item ∈ items)
    (hsub : ∀ one ∈ done, one ∈ items) (hnew : ∀ other ∈ done, kind.data other ≠ kind.data item)
    (hchosen : Chosen start gen low items done assign item chosen after.drawn)
    {assigned : δ → κ} (hassigned : assigned (kind.data item) = chosen)
    (hold : ∀ other ∈ done, assigned (kind.data other) = assign (kind.data other)) :
    Merged start gen low items (done ++ [item]) assigned after := by
  have hrivals := hinv.rivals_first hitem hnew
  have hsaved := kind.data_rekey chosen item
  have hdrawn := hstep.drawn_le
  have hmem : ∀ one, one ∈ done ++ [item] ↔ one ∈ done ∨ one = item := by simp
  -- The rows with other data that the records have stay known.
  have hstays : ∀ row ∈ before.known, (∃ other ∈ items, kind.data row = kind.data other) →
      kind.data row ≠ kind.data item → row ∈ after.known := by
    intro row hrow hrelevant hother
    rcases hinv.found row hrow hrelevant with ⟨hstart, _⟩ | ⟨⟨one, hone, hsame⟩, hkey⟩
    · apply hstep.known_of row hrow
      intro hrival
      obtain ⟨rival, hrivalRow, hdata, hkey⟩ := (hrivals _).mp hrival
      rw [start.eq_of_key hrivalRow hstart hkey] at hdata
      exact hother hdata
    · rw [← hsame] at hkey
      apply hstep.known_of row hrow
      intro hrival
      obtain ⟨rival, hrivalRow, hdata, hrivalKey⟩ := (hrivals _).mp hrival
      exact hinv.key_ne_assign hone hrivalRow ⟨item, hitem, hdata⟩
        (fun hequal => hnew one hone (hequal.symm.trans hdata)) (hrivalKey.trans hkey)
  refine ⟨?_, ?_, ?_, ?_, ?_, ?_, ?_, ?_, ?_, ?_⟩
  · intro row hrow hrelevant hnone
    refine hstays row (hinv.waiting row hrow hrelevant ?_) hrelevant ?_
    · exact fun one hone => hnone one (List.mem_append_left _ hone)
    · exact fun hsame => hnone item (by simp) hsame.symm
  · intro row hrow hrelevant
    by_cases hsame : kind.data row = kind.data item
    · right
      refine ⟨⟨item, by simp, hsame.symm⟩, ?_⟩
      rw [hsame, hassigned]
      rcases hstep.of_known row hrow with rfl | ⟨hknown, hkey | hrival⟩
      · exact kind.key_rekey _ _
      · exact hkey
      · exact absurd ⟨row, hknown, hsame, rfl⟩ hrival
    · rcases hstep.of_known row hrow with rfl | ⟨hknown, _⟩
      · exact absurd hsaved hsame
      · rcases hinv.found row hknown hrelevant with ⟨hstart, hnone⟩ | ⟨⟨one, hone, hone'⟩, hkey⟩
        · left
          refine ⟨hstart, fun one hone => ?_⟩
          rcases (hmem one).mp hone with hone | rfl
          · exact hnone one hone
          · exact fun hequal => hsame hequal.symm
        · right
          refine ⟨⟨one, List.mem_append_left _ hone, hone'⟩, ?_⟩
          rw [hkey, ← hone', hold one hone]
  · intro one hone
    rcases (hmem one).mp hone with hone | rfl
    · obtain ⟨row, hrow, hsame⟩ := hinv.present one hone
      refine ⟨row, hstays row hrow ⟨one, hsub one hone, hsame⟩ ?_, hsame⟩
      rw [hsame]
      exact hnew one hone
    · exact ⟨_, hstep.saved, hsaved⟩
  · intro one hone hmatched
    rcases (hmem one).mp hone with hone | rfl
    · rw [hold one hone]
      exact hinv.kept one hone hmatched
    · rw [hassigned]
      exact hchosen.kept hmatched
  · intro one hone hmatched
    rcases (hmem one).mp hone with hone | rfl
    · rw [hold one hone]
      obtain ⟨hstored, first, hfirst, hdata, hgiven⟩ := hinv.given one hone hmatched
      refine ⟨hstored, first, hfirst.append _, hdata, ?_⟩
      rcases hgiven with hown | ⟨hown, place, hlow, hplace, hassign⟩
      · exact Or.inl hown
      · exact Or.inr ⟨hown, place, hlow, by omega, hassign⟩
    · rw [hassigned]
      refine ⟨fun row hrow hrelevant => ?_, one, firstOf_concat hnew, rfl, hchosen.given hmatched⟩
      exact hchosen.stored row hrow hrelevant fun hsame => hmatched ⟨row, hrow, hsame⟩
  · intro first hfirst second hsecond hequal
    rcases (hmem first).mp hfirst with hone | hone <;>
      rcases (hmem second).mp hsecond with htwo | htwo
    · rw [hold first hone, hold second htwo] at hequal
      exact hinv.injective first hone second htwo hequal
    · rw [hold first hone, htwo, hassigned] at hequal
      exact absurd hequal (hchosen.unused first hone)
    · rw [hold second htwo, hone, hassigned] at hequal
      exact absurd hequal.symm (hchosen.unused second htwo)
    · rw [hone, htwo]
  · rw [hstep.imported, hinv.imported, List.map_append, List.map_singleton, hassigned]
    exact congrArg (· ++ [chosen]) (List.map_congr_left fun one hone => (hold one hone).symm)
  · rw [hstep.table, hinv.table, List.map_append, List.map_singleton, hassigned, List.foldl_append,
      List.foldl_cons, List.foldl_nil]
    have hwrites : (done.map fun one => kind.rekey (assign (kind.data one)) one) =
        done.map fun one => kind.rekey (assigned (kind.data one)) one :=
      List.map_congr_left fun one hone => by rw [hold one hone]
    rw [hwrites]
  · intro key
    rw [hstep.superseded, hinv.superseded, hrivals]
    constructor
    · rintro (⟨row, hrow, hkey, ⟨one, hone, hsame⟩, hne⟩ | ⟨hne, row, hrow, hsame, hkey⟩)
      · refine ⟨row, hrow, hkey, ⟨one, List.mem_append_left _ hone, hsame⟩, ?_⟩
        rw [← hsame, hold one hone, hsame]
        exact hne
      · refine ⟨row, hrow, hkey, ⟨item, by simp, hsame.symm⟩, ?_⟩
        rw [hsame, hassigned]
        exact hne
    · rintro ⟨row, hrow, hkey, ⟨one, hone, hsame⟩, hne⟩
      rcases (hmem one).mp hone with hone | rfl
      · left
        refine ⟨row, hrow, hkey, ⟨one, hone, hsame⟩, ?_⟩
        rw [← hsame, hold one hone, hsame] at hne
        exact hne
      · right
        rw [← hsame, hassigned] at hne
        exact ⟨hne, row, hrow, hsame.symm, hkey⟩
  · intro hall
    have hmatched := hall item (by simp)
    obtain ⟨row, hrow, hsame⟩ := hmatched
    have hrival : Rivals kind before.known item (kind.key row) :=
      (hrivals _).mpr ⟨row, hrow, hsame, rfl⟩
    rcases hstep.choice with ⟨_, hupdated, _⟩ | ⟨hnone, _⟩
    · rw [hupdated, hstep.imported,
        hinv.updated fun one hone => hall one (List.mem_append_left _ hone)]
    · obtain ⟨known, hknown, hdata, _⟩ := hrival
      exact absurd hdata (hnone known hknown)

theorem Merged.chosen_of_rival (hinv : Merged start gen low items done assign before)
    (hitem : item ∈ items) (hnew : ∀ other ∈ done, kind.data other ≠ kind.data item)
    (hrival : Rivals kind before.known item chosen) (drawn : Nat) :
    Chosen start gen low items done assign item chosen drawn := by
  obtain ⟨row, hrow, hdata, hkey⟩ := (hinv.rivals_first hitem hnew chosen).mp hrival
  refine ⟨?_, ?_, fun _ => ⟨row, hrow, hdata, hkey⟩, fun hnone => absurd ⟨row, hrow, hdata⟩ hnone⟩
  · intro other hother _ hne hequal
    rw [start.eq_of_key hother hrow (hequal.trans hkey.symm)] at hne
    exact hne hdata
  · intro other hother hequal
    exact hinv.key_ne_assign hother hrow ⟨item, hitem, hdata⟩
      (fun hsame => hnew other hother (hsame.symm.trans hdata)) (hkey.trans hequal.symm)

theorem Merged.not_matched (hinv : Merged start gen low items done assign before)
    (hitem : item ∈ items) (hnew : ∀ other ∈ done, kind.data other ≠ kind.data item)
    (hnone : ∀ row ∈ before.known, kind.data row ≠ kind.data item) :
    ¬Matched kind start item := by
  rintro ⟨row, hrow, hdata⟩
  refine hnone row (hinv.waiting row hrow ⟨item, hitem, hdata⟩ ?_) hdata
  intro other hother hsame
  exact hnew other hother (hsame.trans hdata)

theorem Merged.chosen_of_own (hinv : Merged start gen low items done assign before)
    {todo : List α} (hitems : items = done ++ item :: todo)
    (hnew : ∀ other ∈ done, kind.data other ≠ kind.data item)
    (hmatched : ¬Matched kind start item) (hclash : NoClash kind start items) {high : Nat}
    (hhigh : before.drawn ≤ high) (hfresh : Fresh kind gen start items low high)
    (hown : kind.own item = some chosen) (drawn : Nat) :
    Chosen start gen low items done assign item chosen drawn := by
  have hitem : FirstOf kind items item := ⟨done, todo, hitems, hnew⟩
  have hsub : ∀ one ∈ done, one ∈ items := fun one hone => by simp [hitems, hone]
  refine ⟨?_, ?_, fun hagain => absurd hagain hmatched, fun _ => Or.inl hown⟩
  · rintro row hrow ⟨other, hother, hdata⟩ _ hkey
    exact hclash.stored item hitem hmatched row hrow (hkey ▸ hown) other hother hdata
  · intro other hother hassign
    by_cases hkept : Matched kind start other
    · obtain ⟨row, hrow, hdata, hkey⟩ := hinv.kept other hother hkept
      rw [hassign] at hkey
      exact hclash.stored item hitem hmatched row hrow (hkey ▸ hown) other (hsub other hother) hdata
    · obtain ⟨_, first, hfirst, hdata, hgiven⟩ := hinv.given other hother hkept
      rw [hassign] at hgiven
      rcases hgiven with hfirstOwn | ⟨_, place, hplace, hbound, hdrawn⟩
      · have hfirstAll : FirstOf kind items first := hitems ▸ hfirst.append (item :: todo)
        have hsame := hclash.own first hfirstAll item hitem
          (fun hagain => hkept (matched_congr hdata hagain)) hmatched (by simp [hfirstOwn])
          (hfirstOwn.trans hown.symm)
        exact hnew first hfirst.mem hsame
      · exact hfresh.own place hplace (by omega) item hitem.mem (hdrawn ▸ hown)

theorem Merged.chosen_of_drawn (hinv : Merged start gen low items done assign before)
    (hsub : ∀ one ∈ done, one ∈ items) (hmatched : ¬Matched kind start item)
    (hlow : low ≤ before.drawn) {high : Nat} (hhigh : before.drawn < high)
    (hfresh : Fresh kind gen start items low high) (hown : kind.own item = none) :
    Chosen start gen low items done assign item (gen before.drawn) (before.drawn + 1) := by
  refine ⟨?_, ?_, fun hagain => absurd hagain hmatched,
    fun _ => Or.inr ⟨hown, before.drawn, hlow, by omega, rfl⟩⟩
  · intro row hrow _ _
    exact hfresh.stored before.drawn hlow hhigh row hrow
  · intro other hother hassign
    by_cases hkept : Matched kind start other
    · obtain ⟨row, hrow, _, hkey⟩ := hinv.kept other hother hkept
      exact hfresh.stored before.drawn hlow hhigh row hrow (hkey.trans hassign)
    · obtain ⟨_, first, hfirst, _, hgiven⟩ := hinv.given other hother hkept
      rw [hassign] at hgiven
      rcases hgiven with hfirstOwn | ⟨_, place, hplace, hbound, hdrawn⟩
      · exact hfresh.own before.drawn hlow hhigh first (hsub first hfirst.mem) hfirstOwn
      · exact hfresh.distinct place before.drawn hplace hbound hhigh hdrawn.symm

/-- A step keeps what is known of the merge, with a key for the data of its record. -/
theorem Merged.step (hinv : Merged start gen low items done assign before)
    (hstep : Step kind gen before item chosen after) {todo : List α}
    (hitems : items = done ++ item :: todo) (hlow : low ≤ before.drawn) {high : Nat}
    (hhigh : after.drawn ≤ high)
    (hkeys : ¬Matched kind start item → NoClash kind start items ∧
      Fresh kind gen start items low high) :
    ∃ assigned, Merged start gen low items (done ++ [item]) assigned after := by
  classical
  have hitem : item ∈ items := by simp [hitems]
  have hsub : ∀ one ∈ done, one ∈ items := fun one hone => by simp [hitems, hone]
  by_cases hagain : ∃ other ∈ done, kind.data other = kind.data item
  · obtain ⟨other, hother, hdata⟩ := hagain
    exact ⟨assign, hinv.step_again hstep hsub hother hdata⟩
  · have hnew : ∀ other ∈ done, kind.data other ≠ kind.data item :=
      fun other hother hdata => hagain ⟨other, hother, hdata⟩
    refine ⟨Function.update assign (kind.data item) chosen,
      hinv.step_first hstep hitem hsub hnew ?_ (by simp) ?_⟩
    · rcases hstep.choice with ⟨hrival, _⟩ | ⟨hnone, _, hown | ⟨hown, rfl, hdrawn⟩⟩
      · exact hinv.chosen_of_rival hitem hnew hrival _
      · have hmatched := hinv.not_matched hitem hnew hnone
        obtain ⟨hclash, hfresh⟩ := hkeys hmatched
        exact hinv.chosen_of_own hitems hnew hmatched hclash
          (Nat.le_trans hstep.drawn_le hhigh) hfresh hown.1 _
      · have hmatched := hinv.not_matched hitem hnew hnone
        obtain ⟨_, hfresh⟩ := hkeys hmatched
        rw [hdrawn]
        exact hinv.chosen_of_drawn hsub hmatched hlow (by omega) hfresh hown
    · intro other hother
      exact Function.update_of_ne (hnew other hother) _ _

theorem Merged.run {todo : List α} (hinv : Merged start gen low items done assign before)
    (hrun : Run kind gen before todo after) (hitems : items = done ++ todo)
    (hlow : low ≤ before.drawn) {high : Nat} (hhigh : after.drawn ≤ high)
    (hkeys : (∃ item ∈ items, ¬Matched kind start item) → NoClash kind start items ∧
      Fresh kind gen start items low high) :
    ∃ assigned, Merged start gen low items items assigned after := by
  induction hrun generalizing done assign with
  | nil state =>
    rw [List.append_nil] at hitems
    exact ⟨assign, hitems ▸ hinv⟩
  | @cons before item chosen between todo after hstep hrest ih =>
    obtain ⟨assigned, hnext⟩ := hinv.step hstep hitems hlow (Nat.le_trans hrest.drawn_le hhigh)
      fun hmatched => hkeys ⟨item, by simp [hitems], hmatched⟩
    exact ih hnext (by simp [hitems]) (Nat.le_trans hlow hstep.drawn_le) hhigh

end Steps

section Whole

variable {start : KeyedTable α κ kind.key} {low : Nat} {items : List α} {assign : δ → κ}
  {state : State kind}

omit [DecidableEq κ] in
theorem exists_lastOf {item : α} (hitem : item ∈ items) :
    ∃ last, LastOf kind items last ∧ kind.data last = kind.data item := by
  induction items using List.reverseRecOn with
  | nil => cases hitem
  | append_singleton init final ih =>
    by_cases hdata : kind.data final = kind.data item
    · exact ⟨final, ⟨init, [], rfl, by simp⟩, hdata⟩
    · have hinit : item ∈ init := by
        rcases List.mem_append.mp hitem with hinit | hfinal
        · exact hinit
        · exact absurd (by rw [List.mem_singleton.mp hfinal]) hdata
      obtain ⟨last, ⟨earlier, later, rfl, hlater⟩, hsame⟩ := ih hinit
      refine ⟨last, ⟨earlier, later ++ [final], by simp, fun other hother => ?_⟩, hsame⟩
      rcases List.mem_append.mp hother with hother | hother
      · exact hlater other hother
      · rw [List.mem_singleton.mp hother, hsame]
        exact hdata

/-- The rows of the table: the last record of every data under its key, and the rows whose keys no
record took. -/
theorem Merged.mem_table (hinv : Merged start gen low items items assign state) (row : α) :
    row ∈ state.table.rows ↔
      (∃ item, LastOf kind items item ∧ row = kind.rekey (assign (kind.data item)) item) ∨
        row ∈ start.rows ∧ ∀ item ∈ items, assign (kind.data item) ≠ kind.key row := by
  rw [hinv.table, KeyedTable.mem_foldl_upsert]
  apply or_congr
  · constructor
    · rintro ⟨earlier, later, hsplit, hlater⟩
      obtain ⟨before, rest, hitems, hbefore, hrest⟩ := List.map_eq_append_iff.mp hsplit
      obtain ⟨item, after, rfl, rfl, hafter⟩ := List.map_eq_cons_iff.mp hrest
      refine ⟨item, ⟨before, after, hitems, fun other hother hdata => ?_⟩, rfl⟩
      refine hlater (kind.rekey (assign (kind.data other)) other) ?_ ?_
      · rw [← hafter]
        exact List.mem_map_of_mem hother
      · rw [kind.key_rekey, kind.key_rekey, hdata]
    · rintro ⟨item, ⟨before, after, hitems, hafter⟩, rfl⟩
      refine ⟨before.map fun one => kind.rekey (assign (kind.data one)) one,
        after.map fun one => kind.rekey (assign (kind.data one)) one, by rw [hitems]; simp, ?_⟩
      intro other hother hkey
      obtain ⟨one, hone, rfl⟩ := List.mem_map.mp hother
      rw [kind.key_rekey, kind.key_rekey] at hkey
      exact hafter one hone (hinv.injective one (by simp [hitems, hone]) item
        (by simp [hitems]) hkey)
  · apply and_congr Iff.rfl
    simp [kind.key_rekey]

/-- What is left of the table without the rows that are superseded: no row but the last record of
every data has data of the records. -/
theorem Merged.mem_left (hinv : Merged start gen low items items assign state) (row : α) :
    row ∈ state.table.rows ∧ kind.key row ∉ state.superseded ↔
      (∃ item, LastOf kind items item ∧ row = kind.rekey (assign (kind.data item)) item) ∨
        row ∈ start.rows ∧ (∀ item ∈ items, kind.data item ≠ kind.data row) ∧
          kind.key row ∉ state.imported := by
  rw [hinv.mem_table, hinv.superseded, hinv.imported]
  constructor
  · rintro ⟨hwritten | ⟨hrow, hunused⟩, hleft⟩
    · exact Or.inl hwritten
    · refine Or.inr ⟨hrow, fun item hitem hdata => ?_, ?_⟩
      · refine hleft ⟨row, hrow, rfl, ⟨item, hitem, hdata⟩, fun hkey => ?_⟩
        exact hunused item hitem (by rw [hkey, hdata])
      · rw [List.mem_map]
        rintro ⟨item, hitem, hkey⟩
        exact hunused item hitem hkey
  · rintro (⟨item, ⟨before, after, hitems, hafter⟩, rfl⟩ | ⟨hrow, hdata, hkey⟩)
    · refine ⟨Or.inl ⟨item, ⟨before, after, hitems, hafter⟩, rfl⟩, ?_⟩
      have hitem : item ∈ items := by simp [hitems]
      rw [kind.key_rekey]
      rintro ⟨other, hother, hkey, ⟨one, hone, hsame⟩, hne⟩
      refine hinv.key_ne_assign hitem hother ⟨one, hone, hsame.symm⟩ (fun hequal => ?_) hkey
      exact hne (by rw [hequal])
    · refine ⟨Or.inr ⟨hrow, fun item hitem hequal => hkey ?_⟩, ?_⟩
      · exact List.mem_map.mpr ⟨item, hitem, hequal⟩
      · rintro ⟨other, hother, hsame, ⟨item, hitem, hitemData⟩, _⟩
        rw [start.eq_of_key hother hrow hsame] at hitemData
        exact hdata item hitem hitemData

theorem Merged.again {again : KeyedTable α κ kind.key} {genAgain : Nat → κ} {lowAgain : Nat}
    {assigned : δ → κ} {after : State kind} (hinv : Merged start gen low items items assign state)
    (hagain : ∀ row ∈ again.rows, (∃ item ∈ items, kind.data row = kind.data item) →
      ∃ item, LastOf kind items item ∧ row = kind.rekey (assign (kind.data item)) item)
    (hmatched : ∀ item ∈ items, Matched kind again item)
    (hafter : Merged again genAgain lowAgain items items assigned after) :
    after.imported = state.imported ∧ after.updated = state.imported ∧
      ∀ item ∈ items, assigned (kind.data item) = assign (kind.data item) := by
  have hassigned : ∀ item ∈ items, assigned (kind.data item) = assign (kind.data item) := by
    intro item hitem
    obtain ⟨row, hrow, hdata, hkey⟩ := hafter.kept item hitem (hmatched item hitem)
    obtain ⟨last, _, rfl⟩ := hagain row hrow ⟨item, hitem, hdata⟩
    rw [kind.data_rekey] at hdata
    rw [kind.key_rekey] at hkey
    rw [← hkey, hdata]
  have himported : after.imported = state.imported := by
    rw [hafter.imported, hinv.imported]
    exact List.map_congr_left hassigned
  exact ⟨himported, (hafter.updated hmatched).trans himported, hassigned⟩

end Whole

section Bystanders

variable {start : KeyedTable α κ kind.key} {low : Nat} {items done : List α}
  {before after : State kind} {item : α} {chosen : κ}

variable (kind) in
/-- A row with data of no record. -/
def Bystander (start : KeyedTable α κ kind.key) (items : List α) (row : α) : Prop :=
  row ∈ start.rows ∧ ∀ item ∈ items, kind.data row ≠ kind.data item

variable (kind) in
/-- The first record of data without a row brings, when another record with its data follows, no key
of a row with data of a later record, nor one that such a record with other data of a later record
brings. -/
def NoTwinClash (start : KeyedTable α κ kind.key) (items : List α) : Prop :=
  ∀ earlier item later, items = earlier ++ item :: later →
    (∀ other ∈ earlier, kind.data other ≠ kind.data item) →
    (∃ twin ∈ later, kind.data twin = kind.data item) → ¬Matched kind start item →
    (∀ row ∈ start.rows, (∃ one ∈ later, kind.data one = kind.data row) →
      kind.own item ≠ some (kind.key row)) ∧
      ∀ other, FirstOf kind items other → ¬Matched kind start other →
        (∃ one ∈ later, kind.data one = kind.data other) → kind.own item ≠ none →
          kind.own other = kind.own item → kind.data other = kind.data item

/-- The keys that are not to be taken are not taken yet, and a record that is still to come finds
what has its data. -/
structure Spared (start : KeyedTable α κ kind.key) (gen : Nat → κ) (low : Nat)
    (items done todo : List α) (spared : α → Prop) (state : State kind) : Prop where
  waiting : ∀ row ∈ start.rows, (∃ item ∈ todo, kind.data item = kind.data row) →
    (∀ item ∈ done, kind.data item ≠ kind.data row) → row ∈ state.known
  present : ∀ item ∈ done, (∃ later ∈ todo, kind.data later = kind.data item) →
    ∃ row ∈ state.known, kind.data row = kind.data item
  exclusive : ∀ row ∈ state.known, (∃ item ∈ todo, kind.data item = kind.data row) →
    ∀ other ∈ state.known, (∃ item ∈ todo, kind.data item = kind.data other) →
      kind.key row = kind.key other → kind.data row = kind.data other
  origin : ∀ row ∈ state.known,
    (∃ old ∈ start.rows, kind.key old = kind.key row ∧ kind.data old = kind.data row) ∨
      (∃ item, FirstOf kind items item ∧ ¬Matched kind start item ∧
        kind.own item = some (kind.key row) ∧ kind.data item = kind.data row) ∨
        ∃ place, low ≤ place ∧ place < state.drawn ∧ kind.key row = gen place
  free : ∀ row ∈ state.known, row ∈ start.rows ∨ ∀ other, spared other →
    kind.key other ≠ kind.key row
  imported : ∀ other, spared other → kind.key other ∉ state.imported
  superseded : ∀ other, spared other → kind.key other ∉ state.superseded
  table : ∀ other, spared other → other ∈ state.table.rows

variable {todo : List α} {spared : α → Prop}

omit [DecidableEq κ] in
theorem Spared.rival_free (hinv : Spared start gen low items done (item :: todo) spared before)
    (hspared : ∀ other, spared other → Bystander kind start items other)
    (hitem : item ∈ items) {key : κ}
    (hrival : Rivals kind before.known item key) {other : α} (hother : spared other) :
    kind.key other ≠ key := by
  obtain ⟨row, hrow, hdata, rfl⟩ := hrival
  intro hkey
  obtain ⟨hstart, hnone⟩ := hspared other hother
  rcases hinv.free row hrow with hrowStart | hfree
  · rw [start.eq_of_key hstart hrowStart hkey] at hnone
    exact hnone item hitem hdata
  · exact hfree other hother hkey

omit [DecidableEq κ] in
/-- A record that finds nothing is the first with its data, and no row had them. -/
theorem Spared.first_of_miss (hinv : Spared start gen low items done (item :: todo) spared before)
    (hitems : items = done ++ item :: todo)
    (hnone : ∀ row ∈ before.known, kind.data row ≠ kind.data item) :
    FirstOf kind items item ∧ ¬Matched kind start item := by
  have hnew : ∀ other ∈ done, kind.data other ≠ kind.data item := by
    intro other hother hdata
    obtain ⟨row, hrow, hsame⟩ := hinv.present other hother ⟨item, by simp, hdata.symm⟩
    exact hnone row hrow (hsame.trans hdata)
  refine ⟨⟨done, todo, hitems, hnew⟩, ?_⟩
  rintro ⟨row, hrow, hdata⟩
  refine hnone row (hinv.waiting row hrow ⟨item, by simp, hdata.symm⟩ ?_) hdata
  exact fun other hother hsame => hnew other hother (hsame.trans hdata)

theorem Spared.chosen_free (hinv : Spared start gen low items done (item :: todo) spared before)
    (hstep : Step kind gen before item chosen after) (hitems : items = done ++ item :: todo)
    (hspared : ∀ other, spared other → Bystander kind start items other)
    (hown : ∀ one, FirstOf kind items one → ¬Matched kind start one →
      ∀ other, spared other → kind.own one ≠ some (kind.key other))
    (hlow : low ≤ before.drawn) {high : Nat} (hhigh : after.drawn ≤ high)
    (hfresh : Fresh kind gen start items low high) {other : α} (hother : spared other) :
    kind.key other ≠ chosen := by
  have hitem : item ∈ items := by simp [hitems]
  rcases hstep.choice with ⟨hrival, _⟩ | ⟨hnone, _, ⟨hbrings, _⟩ | ⟨_, rfl, hdrawn⟩⟩
  · exact hinv.rival_free hspared hitem hrival hother
  · obtain ⟨hfirst, hmatched⟩ := hinv.first_of_miss hitems hnone
    rintro rfl
    exact hown item hfirst hmatched other hother hbrings
  · exact hfresh.stored before.drawn hlow (by omega) other (hspared other hother).1

theorem Spared.stays (hinv : Spared start gen low items done (item :: todo) spared before)
    (hstep : Step kind gen before item chosen after) {row : α} (hrow : row ∈ before.known)
    (hlater : ∃ later ∈ todo, kind.data later = kind.data row)
    (hdata : kind.data row ≠ kind.data item) : row ∈ after.known := by
  apply hstep.known_of row hrow
  rintro ⟨rival, hrival, hsame, hkey⟩
  obtain ⟨later, hlater, hlaterData⟩ := hlater
  have hequal := hinv.exclusive rival hrival ⟨item, by simp, hsame.symm⟩ row hrow
    ⟨later, List.mem_cons_of_mem _ hlater, hlaterData⟩ hkey
  exact hdata (hequal.symm.trans hsame)

theorem Spared.chosen_origin (hinv : Spared start gen low items done (item :: todo) spared before)
    (hstep : Step kind gen before item chosen after) (hitems : items = done ++ item :: todo)
    (hlow : low ≤ before.drawn) :
    (∃ old ∈ start.rows, kind.key old = chosen ∧ kind.data old = kind.data item) ∨
      (∃ one, FirstOf kind items one ∧ ¬Matched kind start one ∧ kind.own one = some chosen ∧
        kind.data one = kind.data item) ∨
        ∃ place, low ≤ place ∧ place < after.drawn ∧ chosen = gen place := by
  have hdrawn := hstep.drawn_le
  rcases hstep.choice with ⟨⟨row, hrow, hdata, rfl⟩, _⟩ | ⟨hnone, _, ⟨hbrings, _⟩ | ⟨_, rfl, hmore⟩⟩
  · rcases hinv.origin row hrow with
      ⟨old, hold, hkey, hsame⟩ | ⟨one, hone, hnew, hown, hsame⟩ | ⟨place, hplace, hbound, hgen⟩
    · exact Or.inl ⟨old, hold, hkey, hsame.trans hdata⟩
    · exact Or.inr (Or.inl ⟨one, hone, hnew, hown, hsame.trans hdata⟩)
    · exact Or.inr (Or.inr ⟨place, hplace, by omega, hgen⟩)
  · obtain ⟨hfirst, hmatched⟩ := hinv.first_of_miss hitems hnone
    exact Or.inr (Or.inl ⟨item, hfirst, hmatched, hbrings, rfl⟩)
  · exact Or.inr (Or.inr ⟨before.drawn, hlow, by omega, rfl⟩)

/-- Two records still to come with different data do not look for rows under one key. -/
theorem Spared.chosen_exclusive
    (hinv : Spared start gen low items done (item :: todo) spared before)
    (hstep : Step kind gen before item chosen after) (hitems : items = done ++ item :: todo)
    (htwins : NoTwinClash kind start items) (hlow : low ≤ before.drawn) {high : Nat}
    (hhigh : after.drawn ≤ high) (hfresh : Fresh kind gen start items low high)
    (htwin : ∃ later ∈ todo, kind.data later = kind.data item) {other : α}
    (hother : other ∈ before.known) (hlater : ∃ later ∈ todo, kind.data later = kind.data other)
    (hkey : kind.key other = chosen) : kind.data other = kind.data item := by
  have hitem : item ∈ items := by simp [hitems]
  rcases hstep.choice with ⟨⟨row, hrow, hdata, hrowKey⟩, _⟩ | ⟨hnone, _, hnew⟩
  · obtain ⟨later, hlater, hlaterData⟩ := hlater
    have hequal := hinv.exclusive row hrow ⟨item, by simp, hdata.symm⟩ other hother
      ⟨later, List.mem_cons_of_mem _ hlater, hlaterData⟩ (hrowKey.trans hkey.symm)
    exact hequal.symm.trans hdata
  · obtain ⟨_, hmatched⟩ := hinv.first_of_miss hitems hnone
    have hnew' : ∀ one ∈ done, kind.data one ≠ kind.data item := by
      intro one hone hdata
      obtain ⟨row, hrow, hsame⟩ := hinv.present one hone ⟨item, by simp, hdata.symm⟩
      exact hnone row hrow (hsame.trans hdata)
    obtain ⟨hstored, hothers⟩ := htwins done item todo hitems hnew' htwin hmatched
    obtain ⟨later, hlater, hlaterData⟩ := hlater
    have horigin := hinv.origin other hother
    rw [hkey] at horigin
    rcases hnew with ⟨hbrings, hdrawn⟩ | ⟨_, rfl, hdrawn⟩
    · rcases horigin with
        ⟨old, hold, rfl, hsame⟩ | ⟨one, hone, hfree, hown, hsame⟩ | ⟨place, hplace, hbound, rfl⟩
      · exact absurd hbrings (hstored old hold ⟨later, hlater, hlaterData.trans hsame.symm⟩)
      · rw [← hsame]
        exact hothers one hone hfree ⟨later, hlater, hlaterData.trans hsame.symm⟩
          (by simp [hbrings]) (hown.trans hbrings.symm)
      · exact absurd hbrings (hfresh.own place hplace (by omega) item hitem)
    · rcases horigin with
        ⟨old, hold, holdKey, _⟩ | ⟨one, hone, _, hown, _⟩ | ⟨place, hplace, hbound, hgen⟩
      · exact absurd holdKey (hfresh.stored before.drawn hlow (by omega) old hold)
      · exact absurd hown (hfresh.own before.drawn hlow (by omega) one hone.mem)
      · exact absurd hgen.symm (hfresh.distinct place before.drawn hplace hbound (by omega))

theorem Spared.step (hinv : Spared start gen low items done (item :: todo) spared before)
    (hstep : Step kind gen before item chosen after) (hitems : items = done ++ item :: todo)
    (hspared : ∀ other, spared other → Bystander kind start items other)
    (hown : ∀ one, FirstOf kind items one → ¬Matched kind start one →
      ∀ other, spared other → kind.own one ≠ some (kind.key other))
    (htwins : NoTwinClash kind start items) (hlow : low ≤ before.drawn) {high : Nat}
    (hhigh : after.drawn ≤ high) (hfresh : Fresh kind gen start items low high) :
    Spared start gen low items (done ++ [item]) todo spared after := by
  have hsaved := kind.data_rekey chosen item
  have hfree : ∀ other, spared other → kind.key other ≠ chosen := fun other hother =>
    hinv.chosen_free hstep hitems hspared hown hlow hhigh hfresh hother
  have hexclusive : (∃ later ∈ todo, kind.data later = kind.data item) →
      ∀ other ∈ before.known, (∃ later ∈ todo, kind.data later = kind.data other) →
        kind.key other = chosen → kind.data other = kind.data item :=
    fun htwin _ hother hlater hkey =>
      hinv.chosen_exclusive hstep hitems htwins hlow hhigh hfresh htwin hother hlater hkey
  have hdrawn := hstep.drawn_le
  refine ⟨?_, ?_, ?_, ?_, ?_, ?_, ?_, ?_⟩
  · rintro row hrow ⟨later, hlater, hdata⟩ hnone
    refine hinv.stays hstep ?_ ⟨later, hlater, hdata⟩ fun hsame => hnone item (by simp) hsame.symm
    exact hinv.waiting row hrow ⟨later, List.mem_cons_of_mem _ hlater, hdata⟩
      fun one hone => hnone one (List.mem_append_left _ hone)
  · rintro one hone ⟨later, hlater, hdata⟩
    by_cases hsame : kind.data one = kind.data item
    · exact ⟨_, hstep.saved, hsaved.trans hsame.symm⟩
    · have hdone : one ∈ done := by
        rcases List.mem_append.mp hone with hdone | hlast
        · exact hdone
        · exact absurd (by rw [List.mem_singleton.mp hlast]) hsame
      obtain ⟨row, hrow, hrowData⟩ :=
        hinv.present one hdone ⟨later, List.mem_cons_of_mem _ hlater, hdata⟩
      refine ⟨row, hinv.stays hstep hrow ⟨later, hlater, hdata.trans hrowData.symm⟩ ?_, hrowData⟩
      rw [hrowData]
      exact hsame
  · rintro row hrow ⟨one, hone, honeData⟩ other hother ⟨two, htwo, htwoData⟩ hkey
    rcases hstep.of_known row hrow with rfl | ⟨hrowKnown, _⟩
    · rw [hsaved] at honeData ⊢
      rw [kind.key_rekey] at hkey
      rcases hstep.of_known other hother with rfl | ⟨hotherKnown, _⟩
      · exact hsaved.symm
      · exact (hexclusive ⟨one, hone, honeData⟩ other hotherKnown ⟨two, htwo, htwoData⟩
          hkey.symm).symm
    · rcases hstep.of_known other hother with rfl | ⟨hotherKnown, _⟩
      · rw [hsaved] at htwoData ⊢
        rw [kind.key_rekey] at hkey
        exact hexclusive ⟨two, htwo, htwoData⟩ row hrowKnown ⟨one, hone, honeData⟩ hkey
      · exact hinv.exclusive row hrowKnown ⟨one, List.mem_cons_of_mem _ hone, honeData⟩ other
          hotherKnown ⟨two, List.mem_cons_of_mem _ htwo, htwoData⟩ hkey
  · intro row hrow
    rcases hstep.of_known row hrow with rfl | ⟨hknown, _⟩
    · rw [kind.key_rekey, hsaved]
      exact hinv.chosen_origin hstep hitems hlow
    · rcases hinv.origin row hknown with hold | hbrings | ⟨place, hplace, hbound, hgen⟩
      · exact Or.inl hold
      · exact Or.inr (Or.inl hbrings)
      · exact Or.inr (Or.inr ⟨place, hplace, by omega, hgen⟩)
  · intro row hrow
    rcases hstep.of_known row hrow with rfl | ⟨hknown, _⟩
    · right
      rw [kind.key_rekey]
      exact hfree
    · exact hinv.free row hknown
  · intro other hother
    rw [hstep.imported, List.mem_append, List.mem_singleton]
    rintro (hold | hnew)
    · exact hinv.imported other hother hold
    · exact hfree other hother hnew
  · intro other hother
    rw [hstep.superseded]
    rintro (hold | ⟨_, hrival⟩)
    · exact hinv.superseded other hother hold
    · exact hinv.rival_free hspared (by simp [hitems]) hrival hother rfl
  · intro other hother
    rw [hstep.table, KeyedTable.mem_upsert, kind.key_rekey]
    exact Or.inr ⟨hinv.table other hother, hfree other hother⟩

theorem Spared.run (hinv : Spared start gen low items done todo spared before)
    (hrun : Run kind gen before todo after) (hitems : items = done ++ todo)
    (hspared : ∀ other, spared other → Bystander kind start items other)
    (hown : ∀ one, FirstOf kind items one → ¬Matched kind start one →
      ∀ other, spared other → kind.own one ≠ some (kind.key other))
    (htwins : NoTwinClash kind start items) (hlow : low ≤ before.drawn) {high : Nat}
    (hhigh : after.drawn ≤ high) (hfresh : Fresh kind gen start items low high) :
    Spared start gen low items items [] spared after := by
  induction hrun generalizing done with
  | nil state =>
    rw [List.append_nil] at hitems
    exact hitems ▸ hinv
  | @cons before item chosen between todo after hstep hrest ih =>
    have hnext := hinv.step hstep hitems hspared hown htwins hlow
      (Nat.le_trans hrest.drawn_le hhigh) hfresh
    exact ih hnext (by simp [hitems]) (Nat.le_trans hlow hstep.drawn_le) hhigh

/-- What is written under a key that a record took has the data of a record. -/
theorem Run.written {todo : List α} (hrun : Run kind gen before todo after)
    (hsub : ∀ one ∈ todo, one ∈ items)
    (hbefore : ∀ row ∈ before.table.rows, kind.key row ∈ before.imported →
      ∃ one ∈ items, kind.data one = kind.data row) :
    ∀ row ∈ after.table.rows, kind.key row ∈ after.imported →
      ∃ one ∈ items, kind.data one = kind.data row := by
  induction hrun with
  | nil state => exact hbefore
  | @cons before item chosen between todo after hstep hrest ih =>
    apply ih fun one hone => hsub one (List.mem_cons_of_mem _ hone)
    · intro row hrow hkey
      rw [hstep.table, KeyedTable.mem_upsert, kind.key_rekey] at hrow
      rw [hstep.imported, List.mem_append, List.mem_singleton] at hkey
      rcases hrow with rfl | ⟨hold, hne⟩
      · exact ⟨item, hsub item (by simp), (kind.data_rekey chosen item).symm⟩
      · exact hbefore row hold (hkey.resolve_right hne)

end Bystanders

section Assigned

variable {start : KeyedTable α κ kind.key} {items : List α} {known : List α}
  {before after : State kind} {item : α} {chosen : κ}

theorem Run.imported_append (hrun : Run kind gen before items after) :
    ∃ keys, after.imported = before.imported ++ keys ∧ keys.length = items.length := by
  induction hrun with
  | nil => exact ⟨[], by simp⟩
  | @cons before item chosen between items after hstep _ ih =>
    obtain ⟨keys, hkeys, hlength⟩ := ih
    refine ⟨chosen :: keys, ?_, by simp [hlength]⟩
    rw [hkeys, hstep.imported, List.append_assoc, List.singleton_append]

theorem Run.superseded_subset (hrun : Run kind gen before items after) :
    ∀ key ∈ before.superseded, key ∈ after.superseded := by
  induction hrun with
  | nil => exact fun _ hkey => hkey
  | cons hstep _ ih => exact fun key hkey => ih key ((hstep.superseded key).mpr (Or.inl hkey))

/-- Whatever holds of the keys of rows, of records and of drawn ones holds of the keys of the
table. -/
theorem Run.keys (hrun : Run kind gen before items after) (holds : κ → Prop)
    (hgen : ∀ place, holds (gen place))
    (hown : ∀ item ∈ items, ∀ key, kind.own item = some key → holds key)
    (hknown : ∀ row ∈ before.known, holds (kind.key row))
    (htable : ∀ row ∈ before.table.rows, holds (kind.key row)) :
    ∀ row ∈ after.table.rows, holds (kind.key row) := by
  induction hrun with
  | nil => exact htable
  | @cons before item chosen between items after hstep _ ih =>
    have hchosen : holds chosen := by
      rcases hstep.choice with ⟨⟨row, hrow, _, rfl⟩, _⟩ | ⟨_, _, ⟨hbrings, _⟩ | ⟨_, rfl, _⟩⟩
      · exact hknown row hrow
      · exact hown item (by simp) chosen hbrings
      · exact hgen _
    apply ih fun other hother => hown other (List.mem_cons_of_mem _ hother)
    · intro row hrow
      rcases hstep.of_known row hrow with rfl | ⟨hold, _⟩
      · rw [kind.key_rekey]
        exact hchosen
      · exact hknown row hold
    · intro row hrow
      rw [hstep.table] at hrow
      rcases (KeyedTable.mem_upsert ..).mp hrow with rfl | ⟨hold, _⟩
      · rw [kind.key_rekey]
        exact hchosen
      · exact htable row hold

theorem Run.length_updated_le (hrun : Run kind gen before items after) :
    after.updated.length ≤ before.updated.length + items.length := by
  induction hrun with
  | nil => exact Nat.le_refl _
  | cons hstep _ ih =>
    rw [List.length_cons]
    rcases hstep.choice with ⟨_, hupdated, _⟩ | ⟨_, hupdated, _⟩
    · rw [hupdated, List.length_append, List.length_singleton] at ih
      omega
    · rw [hupdated] at ih
      omega

/-- When every record counts as an update, every record has the data of a known row. -/
theorem Run.known_of_updated (hrun : Run kind gen before items after)
    (hupdated : after.updated.length = before.updated.length + items.length) :
    ∀ item ∈ items, ∃ row ∈ before.known, kind.data row = kind.data item := by
  induction hrun with
  | nil => simp
  | @cons before item chosen between items after hstep hrest ih =>
    have hbound := hrest.length_updated_le
    rw [List.length_cons] at hupdated
    rcases hstep.choice with ⟨⟨row, hrow, hdata, _⟩, hmore, _⟩ | ⟨_, hsame, _⟩
    · rw [hmore, List.length_append, List.length_singleton] at hbound
      have hall := ih (by rw [hmore, List.length_append, List.length_singleton]; omega)
      intro other hother
      rcases List.mem_cons.mp hother with rfl | hother
      · exact ⟨row, hrow, hdata⟩
      · obtain ⟨found, hfound, hfoundData⟩ := hall other hother
        rcases hstep.of_known found hfound with rfl | ⟨hold, _⟩
        · rw [kind.data_rekey] at hfoundData
          exact ⟨row, hrow, hdata.trans hfoundData⟩
        · exact ⟨found, hold, hfoundData⟩
    · rw [hsame] at hbound
      omega

variable {assign : δ → κ}

def Assigns (before after : State kind) (items : List α) (assign : δ → κ) : Prop :=
  after.imported = before.imported ++ items.map fun item => assign (kind.data item)

theorem Run.cons_assigned (hrun : Run kind gen before (item :: items) after)
    (hassigns : Assigns before after (item :: items) assign) :
    ∃ between, Step kind gen before item (assign (kind.data item)) between ∧
      Run kind gen between items after ∧ Assigns between after items assign := by
  cases hrun with
  | @cons _ _ chosen between _ _ hstep hrest =>
    obtain ⟨keys, hkeys, _⟩ := hrest.imported_append
    rw [Assigns, hkeys, hstep.imported, List.append_assoc, List.singleton_append,
      List.map_cons] at hassigns
    have hsplit := List.append_cancel_left hassigns
    rw [List.cons.injEq] at hsplit
    obtain ⟨rfl, rfl⟩ := hsplit
    exact ⟨between, hstep, hrest, hkeys⟩

/-- The first record of data that no row has takes the key that it brings. -/
theorem Run.own_assigned (hrun : Run kind gen before items after)
    (hassigns : Assigns before after items assign) {first : α} (hfirst : FirstOf kind items first)
    (hknown : ∀ row ∈ before.known, kind.data row ≠ kind.data first)
    (hown : kind.own first = some chosen) : assign (kind.data first) = chosen := by
  induction items generalizing before with
  | nil => exact absurd hfirst.mem (by simp)
  | cons item items ih =>
    obtain ⟨between, hstep, hrest, hleft⟩ := hrun.cons_assigned hassigns
    obtain ⟨earlier, later, hsplit, hother⟩ := hfirst
    cases earlier with
    | nil =>
      rw [List.nil_append, List.cons.injEq] at hsplit
      obtain ⟨rfl, rfl⟩ := hsplit
      rcases hstep.choice with ⟨⟨row, hrow, hdata, _⟩, _⟩ | ⟨_, _, ⟨hbrings, _⟩ | ⟨hnone, _⟩⟩
      · exact absurd hdata (hknown row hrow)
      · exact Option.some.inj (hbrings.symm.trans hown)
      · rw [hown] at hnone
        cases hnone
    | cons one earlier =>
      rw [List.cons_append, List.cons.injEq] at hsplit
      obtain ⟨rfl, rfl⟩ := hsplit
      refine ih hrest hleft
        ⟨earlier, later, rfl, fun other hmem => hother other (List.mem_cons_of_mem _ hmem)⟩ ?_
      intro row hrow
      rcases hstep.of_known row hrow with rfl | ⟨hold, _⟩
      · rw [kind.data_rekey]
        exact hother _ (by simp)
      · exact hknown row hold

/-- A row whose key goes to other data is superseded by a record with its own, when the other data
come at most once before. -/
theorem Run.superseded_of_taken {earlier later : List α} {found : α}
    (hrun : Run kind gen before items after) (hassigns : Assigns before after items assign)
    (hsplit : items = earlier ++ found :: later) {row : α} {other : δ}
    (hfound : kind.data found = kind.data row)
    (hrow : row ∈ before.known) (hother : kind.data row ≠ other)
    (hkeys : ∀ one ∈ before.known, kind.key one = kind.key row →
      kind.data one = kind.data row ∨ kind.data one = other)
    (htaken : ∀ item ∈ items, assign (kind.data item) = kind.key row → kind.data item = other)
    (honce : earlier.Pairwise fun first second =>
      kind.data first = other → kind.data second ≠ other)
    (hdone : (∃ one ∈ before.known, kind.data one = other) →
      ∀ item ∈ earlier, kind.data item ≠ other) :
    kind.key row ∈ after.superseded := by
  induction earlier generalizing before items with
  | nil =>
    subst hsplit
    obtain ⟨between, hstep, hrest, _⟩ := hrun.cons_assigned hassigns
    apply hrest.superseded_subset
    refine (hstep.superseded _).mpr (Or.inr ⟨fun hkey => ?_, row, hrow, hfound.symm, rfl⟩)
    exact hother (hfound.symm.trans (htaken found (by simp) hkey.symm))
  | cons item earlier ih =>
    subst hsplit
    obtain ⟨between, hstep, hrest, hleft⟩ := hrun.cons_assigned hassigns
    rw [List.pairwise_cons] at honce
    by_cases hdata : kind.data item = kind.data row
    · apply hrest.superseded_subset
      refine (hstep.superseded _).mpr (Or.inr ⟨fun hkey => ?_, row, hrow, hdata.symm, rfl⟩)
      exact hother (hdata.symm.trans (htaken item (by simp) hkey.symm))
    · have hrival : ¬Rivals kind before.known item (kind.key row) := by
        rintro ⟨one, hone, hsame, hkey⟩
        rcases hkeys one hone hkey with hrowData | hotherData
        · exact hdata (hsame.symm.trans hrowData)
        · exact hdone ⟨one, hone, hotherData⟩ item (by simp) (hsame.symm.trans hotherData)
      apply ih hrest hleft rfl (hstep.known_of row hrow hrival)
      · intro one hone hkey
        rcases hstep.of_known one hone with rfl | ⟨hold, _⟩
        · rw [kind.key_rekey] at hkey
          rw [kind.data_rekey]
          exact Or.inr (htaken item (by simp) hkey)
        · exact hkeys one hold hkey
      · exact fun one hmem => htaken one (List.mem_cons_of_mem _ hmem)
      · exact honce.2
      · rintro ⟨one, hone, hsame⟩ next hnext
        rcases hstep.of_known one hone with rfl | ⟨hold, _⟩
        · rw [kind.data_rekey] at hsame
          exact honce.1 next hnext hsame
        · exact hdone ⟨one, hold, hsame⟩ next (List.mem_cons_of_mem _ hnext)

omit [DecidableEq κ] in
theorem pairwise_of_not {records : List α} {other : δ}
    (hnone : ∀ one ∈ records, kind.data one ≠ other) :
    records.Pairwise fun first second => kind.data first = other → kind.data second ≠ other :=
  (List.pairwise_of_forall fun _ _ => trivial).imp_of_mem
    fun hfirst _ _ hsame => absurd hsame (hnone _ hfirst)

/-- Data that all have keys of their own, none of them superseded, come of no clash. -/
theorem Run.noClash {low : Nat} {final : State kind}
    (hrun : Run kind gen (initial kind start known low) items final)
    (hknown : ∀ row, row ∈ known ↔ row ∈ start.rows)
    (hassigns : Assigns (initial kind start known low) final items assign)
    (hinjective : ∀ first ∈ items, ∀ second ∈ items,
      assign (kind.data first) = assign (kind.data second) → kind.data first = kind.data second)
    (hleft : ∀ item ∈ items, assign (kind.data item) ∉ final.superseded)
    (htwins : NoTwinClash kind start items) : NoClash kind start items := by
  have howns : ∀ item, FirstOf kind items item → ¬Matched kind start item →
      (∀ row ∈ known, kind.data row ≠ kind.data item) ∧
        ∀ key, kind.own item = some key → assign (kind.data item) = key := by
    intro item hfirst hmatched
    have hnone : ∀ row ∈ known, kind.data row ≠ kind.data item :=
      fun row hrow hdata => hmatched ⟨row, (hknown row).mp hrow, hdata⟩
    exact ⟨hnone, fun key hown => hrun.own_assigned hassigns hfirst hnone hown⟩
  constructor
  · intro item hfirst hmatched row hrow hown other hother hdata
    obtain ⟨hnone, howned⟩ := howns item hfirst hmatched
    have hkey := howned _ hown
    have hrowKnown := (hknown row).mpr hrow
    have hfree : ∀ one ∈ known, kind.key one = kind.key row →
        kind.data one = kind.data row ∨ kind.data one = kind.data item := fun one hone hsame =>
      Or.inl (by rw [start.eq_of_key ((hknown one).mp hone) hrow hsame])
    have htaken : ∀ one ∈ items, assign (kind.data one) = kind.key row →
        kind.data one = kind.data item := fun one hone hsame =>
      hinjective one hone item hfirst.mem (hsame.trans hkey.symm)
    have hdone : (∃ one ∈ known, kind.data one = kind.data item) → False :=
      fun ⟨one, hone, hsame⟩ => hnone one hone hsame
    apply hleft item hfirst.mem
    rw [hkey]
    obtain ⟨earlier, later, hsplit, hnew⟩ := hfirst
    by_cases hbefore : other ∈ earlier
    -- the row is found before its key is taken
    · obtain ⟨ahead, behind, rfl⟩ := List.append_of_mem hbefore
      refine hrun.superseded_of_taken hassigns
        (show items = ahead ++ other :: (behind ++ item :: later) by simp [hsplit]) hdata.symm
        hrowKnown (hnone row hrowKnown) hfree htaken ?_ fun hfound => (hdone hfound).elim
      exact pairwise_of_not fun one hone => hnew one (List.mem_append_left _ hone)
    -- or the record that takes its key comes but once
    · have hotherLater : other ∈ later := by
        have hmem := hother
        rw [hsplit, List.mem_append, List.mem_cons] at hmem
        rcases hmem with hmem | rfl | hmem
        · exact absurd hmem hbefore
        · exact absurd hdata (hnone row hrowKnown)
        · exact hmem
      have honce : ∀ one ∈ later, kind.data one ≠ kind.data item := fun one hone hsame =>
        (htwins earlier item later hsplit hnew ⟨one, hone, hsame⟩ hmatched).1 row hrow
          ⟨other, hotherLater, hdata.symm⟩ hown
      obtain ⟨ahead, behind, rfl⟩ := List.append_of_mem hotherLater
      refine hrun.superseded_of_taken hassigns
        (show items = (earlier ++ item :: ahead) ++ other :: behind by simp [hsplit]) hdata.symm
        hrowKnown (hnone row hrowKnown) hfree htaken ?_ fun hfound => (hdone hfound).elim
      have hahead : ∀ one ∈ ahead, kind.data one ≠ kind.data item :=
        fun one hone => honce one (List.mem_append_left _ hone)
      rw [List.pairwise_append, List.pairwise_cons]
      exact ⟨pairwise_of_not hnew, ⟨fun one hone _ => hahead one hone, pairwise_of_not hahead⟩,
        fun one hone _ _ hsame => absurd hsame (hnew one hone)⟩
  · intro first hfirst second hsecond hfirstMatched hsecondMatched hsome hown
    obtain ⟨key, hkey⟩ := Option.ne_none_iff_exists'.mp hsome
    have hfirstKey := (howns first hfirst hfirstMatched).2 key hkey
    have hsecondKey := (howns second hsecond hsecondMatched).2 key (hown.symm.trans hkey)
    exact hinjective first hfirst.mem second hsecond.mem (hfirstKey.trans hsecondKey.symm)

end Assigned

end RecordMerge
