import VoyaVPN.ImportOutcome

/-! The states in which the loop of an import comes to its profiles, and what an import stores and
deletes read off them. -/
namespace ImportVisits

open Entities AppConfig ConfigMutation VoyaStore ActionRules ManagerSession ProfileNormalize
open ProfileManager SubscriptionManager ProfileSelection ImportLoop ImportText ImportOutcome
open RecordMerge

/-- A profile and the state in which the loop comes to it. -/
structure Visit where
  profile : ProfileItem
  state : ImportState
  session : Session

section Visits

variable (subscriptionId : Option String)

def Visit.found (visit : Visit) : List (Entry × Nat) :=
  matchingEntries visit.state.existingProfiles visit.profile

def Visit.takes (visit : Visit) : String :=
  match chooseCanonicalMatchIndex visit.found visit.session.config.indexId subscriptionId with
  | some canonical => canonical.1.1.indexId
  | none =>
    if visit.profile.indexId = "" then drawnId visit.session visit.session.drawn
    else visit.profile.indexId

/-- The ids of the other rows that match it. -/
def Visit.supersedes (visit : Visit) : List String :=
  (visit.found.map (·.1.1.indexId)).filter (· ≠ visit.takes subscriptionId)

def Visit.row (visit : Visit) : ProfileItem :=
  { visit.profile with indexId := visit.takes subscriptionId }

end Visits

section Loop

variable {subscriptionId : Option String}

end Loop

section Import

variable (parsers : ImportParsers) (text : String) (subscriptionId : Option String)
  (before : Session)

variable {parsers text subscriptionId before} {after : Session} {result : ImportProfilesResult}

/-- The visits are those of what is left of the text, and they leave what they write without what
they supersede. -/
structure ImportVisited (visited : List Visit) (profiles : List ProfileItem)
    (subscriptionId : Option String) (before after : Session) (imported : List String) : Prop where
  profiles : visited.map Visit.profile = profiles
  imported : imported = visited.map (Visit.takes subscriptionId)
  rows : ∀ visit ∈ visited, ∀ row, row.indexId = visit.takes subscriptionId →
    (row ∈ after.database.rows.profiles.rows ↔
      row ∈ ((visited.map (Visit.row subscriptionId)).foldl KeyedTable.upsert
        before.database.rows.profiles).rows ∧
      row.indexId ∉ visited.flatMap (Visit.supersedes subscriptionId))

end Import

section Rows

variable {visited : List Visit} {profiles : List ProfileItem} {subscriptionId : Option String}
  {before after : Session} {imported : List String}

/-- No later visit takes the row of this one. -/
def LastTaking (subscriptionId : Option String) (visited : List Visit) (visit : Visit) : Prop :=
  ∃ earlier later, visited = earlier ++ visit :: later ∧
    ∀ other ∈ later, other.takes subscriptionId ≠ visit.takes subscriptionId

def Superseded (subscriptionId : Option String) (visited : List Visit) (indexId : String) : Prop :=
  ∃ visit ∈ visited, indexId ∈ visit.supersedes subscriptionId

theorem LastTaking.mem {visit : Visit} (hlast : LastTaking subscriptionId visited visit) :
    visit ∈ visited := by
  obtain ⟨earlier, later, rfl, _⟩ := hlast
  simp

/-- A row that was taken is there with what was last written to it unless it is superseded. -/
theorem ImportVisited.mem_rows
    (h : ImportVisited visited profiles subscriptionId before after imported) {visit : Visit}
    (hvisit : visit ∈ visited) {row : ProfileItem}
    (hid : row.indexId = visit.takes subscriptionId) :
    row ∈ after.database.rows.profiles.rows ↔
      (∃ last, LastTaking subscriptionId visited last ∧ row = last.row subscriptionId) ∧
        ¬Superseded subscriptionId visited row.indexId := by
  rw [h.rows visit hvisit row hid, KeyedTable.mem_foldl_upsert, Superseded, List.mem_flatMap]
  refine and_congr_left fun _ => ?_
  constructor
  · rintro (⟨earlier, later, hsplit, hlater⟩ | ⟨_, hnone⟩)
    · obtain ⟨before, rest, rfl, _, hrest⟩ := List.map_eq_append_iff.mp hsplit
      obtain ⟨last, after, rfl, rfl, rfl⟩ := List.map_eq_cons_iff.mp hrest
      exact ⟨last, ⟨before, after, rfl, fun other hother => hlater _ (List.mem_map_of_mem hother)⟩,
        rfl⟩
    · exact absurd hid.symm (hnone _ (List.mem_map_of_mem hvisit))
  · rintro ⟨last, ⟨earlier, later, rfl, hlater⟩, rfl⟩
    refine Or.inl ⟨earlier.map (Visit.row subscriptionId), later.map (Visit.row subscriptionId),
      by simp, fun write hwrite => ?_⟩
    obtain ⟨other, hother, rfl⟩ := List.mem_map.mp hwrite
    exact hlater other hother

end Rows

end ImportVisits
