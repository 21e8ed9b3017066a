import VoyaVPN.CycleSearch
import VoyaVPN.GroupValidation

/-! What the check of a group finds: the children that are missing, and every cycle that can be
reached from the group, spelled out. -/
namespace GroupCycles

open Entities GroupValidation CycleSearch

section Children

variable {regexNew : String → Option (String → Bool)} {map : ProfileMap}

theorem mem_pushUniqueChild (gathered : Gathered) (childId id : String) :
    id ∈ (pushUniqueChild gathered childId).1 ↔ id ∈ gathered.1 ∨ id = childId := by
  rw [pushUniqueChild]
  split
  case isTrue hmem =>
    refine ⟨Or.inl, ?_⟩
    rintro (hold | rfl)
    · exact hold
    · exact hmem
  case isFalse => simp

theorem pushUniqueChild_errors (gathered : Gathered) (childId : String) :
    (pushUniqueChild gathered childId).2.errors = gathered.2.errors := by
  rw [pushUniqueChild]
  split
  case isTrue =>
    rw [GroupValidationResult.pushWarning]
    split <;> rfl
  case isFalse => rfl

def IsChild (regexNew : String → Option (String → Bool)) (map : ProfileMap)
    (protocol : ProfileProtocol) (childId : String) : Prop :=
  (childId ∈ protocol.childProfileIds ∧ map.contains childId = true) ∨
    ∃ child ∈ sourcedChildren regexNew map protocol, child.indexId = childId

theorem mem_listed (report : Bool) (childIds : List String) (gathered : Gathered) (id : String) :
    id ∈ (childIds.foldl (pushListedChild map report) gathered).1 ↔
      id ∈ gathered.1 ∨ id ∈ childIds ∧ map.contains id = true := by
  induction childIds generalizing gathered with
  | nil => simp
  | cons childId childIds ih =>
    rw [List.foldl_cons, ih, pushListedChild]
    by_cases hcontains : map.contains childId = true
    · rw [if_pos hcontains, mem_pushUniqueChild, List.mem_cons]
      constructor
      · rintro ((hold | rfl) | ⟨hmem, hid⟩)
        · exact Or.inl hold
        · exact Or.inr ⟨Or.inl rfl, hcontains⟩
        · exact Or.inr ⟨Or.inr hmem, hid⟩
      · rintro (hold | ⟨rfl | hmem, hid⟩)
        · exact Or.inl (Or.inl hold)
        · exact Or.inl (Or.inr rfl)
        · exact Or.inr ⟨hmem, hid⟩
    · have hids : (if report then (gathered.1, gathered.2.pushError (missingChild childId))
          else gathered).1 = gathered.1 := by
        split <;> rfl
      rw [if_neg hcontains, hids, List.mem_cons]
      constructor
      · rintro (hold | ⟨hmem, hid⟩)
        · exact Or.inl hold
        · exact Or.inr ⟨Or.inr hmem, hid⟩
      · rintro (hold | ⟨rfl | hmem, hid⟩)
        · exact Or.inl hold
        · exact absurd hid hcontains
        · exact Or.inr ⟨hmem, hid⟩

theorem mem_sourced (children : List ProfileItem) (gathered : Gathered) (id : String) :
    id ∈ (children.foldl (fun gathered child => pushUniqueChild gathered child.indexId)
      gathered).1 ↔ id ∈ gathered.1 ∨ ∃ child ∈ children, child.indexId = id := by
  induction children generalizing gathered with
  | nil => simp
  | cons child children ih =>
    rw [List.foldl_cons, ih, mem_pushUniqueChild, or_assoc]
    simp [eq_comm]

theorem mem_effectiveChildIds (profile : ProfileItem) (result : GroupValidationResult)
    (report : Bool) (id : String) :
    id ∈ (effectiveChildIds regexNew profile map result report).1 ↔
      IsChild regexNew map profile.protocol id := by
  rw [effectiveChildIds, mem_sourced, mem_listed, IsChild]
  simp

theorem effectiveChildIds_errors (profile : ProfileItem) (result : GroupValidationResult)
    (report : Bool) :
    (effectiveChildIds regexNew profile map result report).2.errors =
      result.errors ++ if report then
        (profile.protocol.childProfileIds.filter fun id => !map.contains id).map missingChild
      else [] := by
  have hlisted : ∀ (childIds : List String) (gathered : Gathered),
      (childIds.foldl (pushListedChild map report) gathered).2.errors = gathered.2.errors ++
        if report then (childIds.filter fun id => !map.contains id).map missingChild else [] := by
    intro childIds
    induction childIds with
    | nil => simp
    | cons childId childIds ih =>
      intro gathered
      rw [List.foldl_cons, ih, pushListedChild]
      by_cases hcontains : map.contains childId = true
      · simp [hcontains, pushUniqueChild_errors]
      · cases report <;> simp [hcontains, GroupValidationResult.pushError]
  have hsourced : ∀ (children : List ProfileItem) (gathered : Gathered),
      (children.foldl (fun gathered child => pushUniqueChild gathered child.indexId)
        gathered).2.errors = gathered.2.errors := by
    intro children
    induction children with
    | nil => exact fun _ => rfl
    | cons child children ih =>
      intro gathered
      rw [List.foldl_cons, ih, pushUniqueChild_errors]
  rw [effectiveChildIds, hsourced, hlisted]

end Children

section Search

variable (regexNew : String → Option (String → Bool)) (map : ProfileMap)

def Leads (groupId childId : String) : Prop :=
  ∃ profile, map.get groupId = some profile ∧ profile.configType.isGroupType = true ∧
    IsChild regexNew map profile.protocol childId

variable {regexNew map}

theorem children_reported (step : GroupValidationResult → String → Option GroupValidationResult)
    (reported : String → List (List String) → Prop) (children : List String)
    (hstep : ∀ child ∈ children, ∀ result, ∃ after walks, step result child = some after ∧
      after.errors = result.errors ++ walks.map cycleError ∧ reported child walks)
    (result : GroupValidationResult) : ∃ after walks, children.foldlM step result = some after ∧
      after.errors = result.errors ++ walks.map cycleError ∧
        (∀ path ∈ walks, ∃ child ∈ children, ∃ part, reported child part ∧ path ∈ part) ∧
          (walks = [] → ∀ child ∈ children, reported child []) := by
  induction children generalizing result with
  | nil => exact ⟨result, [], rfl, by simp, by simp, by simp⟩
  | cons child children ih =>
    obtain ⟨middle, first, hfirst, herrors, hreported⟩ := hstep child List.mem_cons_self result
    obtain ⟨after, rest, hrest, hmore, hsound, hcomplete⟩ :=
      ih (fun other hother => hstep other (List.mem_cons_of_mem _ hother)) middle
    refine ⟨after, first ++ rest, ?_, ?_, ?_, ?_⟩
    · rw [List.foldlM_cons, hfirst]
      exact hrest
    · rw [hmore, herrors, List.map_append, List.append_assoc]
    · intro path hpath
      rcases List.mem_append.mp hpath with hpath | hpath
      · exact ⟨child, List.mem_cons_self, first, hreported, hpath⟩
      · obtain ⟨other, hother, part, hpart, hmem⟩ := hsound path hpath
        exact ⟨other, List.mem_cons_of_mem _ hother, part, hpart, hmem⟩
    · intro hnone other hother
      obtain ⟨hnofirst, hnorest⟩ := List.append_eq_nil_iff.mp hnone
      rcases List.mem_cons.mp hother with rfl | hother
      · rw [← hnofirst]
        exact hreported
      · exact hcomplete hnorest other hother

/-- The search ends with the walks that it found, as long as there is a step for every profile that
is not on the stack. -/
theorem detectCycle_reports (fuel : Nat) {stack : List String} {indexId : String}
    (hfuel : map.rows.length < fuel + stack.length) (hnodup : stack.Nodup)
    (hkeys : ∀ id ∈ stack, map.contains id = true)
    (hchain : (stack ++ [indexId]).IsChain (Leads regexNew map)) (result : GroupValidationResult) :
    ∃ after walks, detectCycle regexNew map fuel stack result indexId = some after ∧
      after.errors = result.errors ++ walks.map cycleError ∧
        Reported (Leads regexNew map) stack indexId walks := by
  induction fuel generalizing stack indexId result with
  | zero =>
    have hsub : stack ⊆ map.rows.map ProfileItem.indexId := by
      intro id hid
      exact List.mem_map.mpr ((map.contains_iff id).mp (hkeys id hid))
    have hle : stack.length ≤ map.rows.length := by
      simpa using (List.subperm_of_subset hnodup hsub).length_le
    omega
  | succ fuel ih =>
    rw [detectCycle]
    by_cases hmem : indexId ∈ stack
    · rw [if_pos hmem]
      exact ⟨_, _, rfl, rfl, Reported.revisit hchain hmem⟩
    · rw [if_neg hmem]
      cases hget : map.get indexId with
      | none =>
        refine ⟨result, [], rfl, by simp, Reported.leaf hmem ?_⟩
        rintro child ⟨profile, hprofile, _⟩
        rw [hget] at hprofile
        cases hprofile
      | some profile =>
        by_cases hgroup : profile.configType.isGroupType = true
        · simp only [hgroup, if_true]
          have hedge : ∀ child, Leads regexNew map indexId child ↔
              child ∈ (effectiveChildIds regexNew profile map result false).1 := by
            intro child
            rw [mem_effectiveChildIds]
            constructor
            · rintro ⟨other, hother, _, hchild⟩
              rw [hget] at hother
              cases hother
              exact hchild
            · exact fun hchild => ⟨profile, hget, hgroup, hchild⟩
          have hkey : map.contains indexId = true := by
            rw [KeyedTable.contains_iff]
            exact ⟨profile, (map.get_eq_some_iff indexId profile).mp hget⟩
          obtain ⟨after, walks, hrun, herrors, hsound, hcomplete⟩ := children_reported
            (detectCycle regexNew map fuel (stack ++ [indexId]))
            (Reported (Leads regexNew map) (stack ++ [indexId]))
            (effectiveChildIds regexNew profile map result false).1 (by
              intro child hchild middle
              refine ih ?_ ?_ ?_ ?_ middle
              · rw [List.length_append, List.length_singleton]
                omega
              · exact List.nodup_append_comm.mp (List.nodup_cons.mpr ⟨hmem, hnodup⟩)
              · intro id hid
                rcases List.mem_append.mp hid with hid | hid
                · exact hkeys id hid
                · rw [List.mem_singleton.mp hid]
                  exact hkey
              · refine hchain.append (List.isChain_singleton child) ?_
                intro last hlast first hfirst
                rw [List.getLast?_append] at hlast
                cases hlast
                cases hfirst
                exact (hedge child).mpr hchild)
            (effectiveChildIds regexNew profile map result false).2
          refine ⟨after, walks, hrun, ?_, Reported.node hmem hedge hsound hcomplete⟩
          rw [herrors, effectiveChildIds_errors]
          simp
        · simp only [hgroup]
          refine ⟨result, [], rfl, by simp, Reported.leaf hmem ?_⟩
          rintro child ⟨other, hother, hother', _⟩
          rw [hget] at hother
          cases hother
          exact absurd hother' hgroup

end Search

section Checks

variable (regexNew : String → Option (String → Bool)) (profile : ProfileItem)
variable (profiles : List ProfileItem)

/-- The edges between the groups and children that the check of a group sees. -/
abbrev LeadsWith : String → String → Prop := Leads regexNew (mapWithRoot profile profiles)

/-- What the check of a group says before the search for cycles: a line for each child that is
missing, and one where there is no child. -/
def childErrors : List String :=
  ((profile.protocol.childProfileIds.filter fun id =>
      !(mapWithRoot profile profiles).contains id).map missingChild) ++
    if (effectiveChildIds regexNew profile (mapWithRoot profile profiles) { valid := true }
        true).1.isEmpty then
      [groupKindLabel profile.configType ++ " has no valid child profiles"]
    else []

theorem checkChildren_errors :
    (checkChildren profile (effectiveChildIds regexNew profile (mapWithRoot profile profiles)
      { valid := true } true)).errors = childErrors regexNew profile profiles := by
  have herrors := @effectiveChildIds_errors regexNew (mapWithRoot profile profiles) profile
    { valid := true } true
  have hkept : ∀ children : Gathered, (checkChildren profile children).errors =
      children.2.errors ++ if children.1.isEmpty then
        [groupKindLabel profile.configType ++ " has no valid child profiles"] else [] := by
    intro children
    rw [checkChildren]
    by_cases hempty : children.1.isEmpty = true
    · simp only [hempty, if_true]
      split <;> rfl
    · simp only [hempty]
      split <;> simp
  rw [hkept, herrors]
  simp [childErrors]

/-- A check ends, with the errors about the children and then the walks that the search found. -/
theorem validateGroupProfile_reports (hgroup : profile.configType.isGroupType = true) :
    ∃ result walks, validateGroupProfile regexNew profile profiles = some result ∧
      result.errors = childErrors regexNew profile profiles ++ walks.map cycleError ∧
        result.valid = result.errors.isEmpty ∧
          Reported (LeadsWith regexNew profile profiles) [] (effectiveProfileId profile) walks := by
  obtain ⟨after, walks, hrun, herrors, hreported⟩ := @detectCycle_reports regexNew
    (mapWithRoot profile profiles) ((mapWithRoot profile profiles).rows.length + 1) []
    (effectiveProfileId profile) (by simp) List.nodup_nil (by simp) (List.isChain_singleton _)
    (checkChildren profile (effectiveChildIds regexNew profile (mapWithRoot profile profiles)
      { valid := true } true))
  rw [checkChildren_errors] at herrors
  refine ⟨{ after with
    childIndexIds := (effectiveChildIds regexNew profile (mapWithRoot profile profiles)
      { valid := true } true).1
    normalizedChildItems := joinProfileIdList (effectiveChildIds regexNew profile
      (mapWithRoot profile profiles) { valid := true } true).1
    valid := after.errors.isEmpty }, walks, ?_, herrors, rfl, hreported⟩
  rw [validateGroupProfile, if_pos hgroup]
  simp only [hrun, Option.map_some]

theorem childErrors_eq_nil_iff : childErrors regexNew profile profiles = [] ↔
    (∀ child ∈ profile.protocol.childProfileIds,
      (mapWithRoot profile profiles).contains child = true) ∧
        ∃ child, IsChild regexNew (mapWithRoot profile profiles) profile.protocol child := by
  rw [childErrors, List.append_eq_nil_iff, List.map_eq_nil_iff, List.filter_eq_nil_iff]
  refine and_congr (by simp) ?_
  simp only [← @mem_effectiveChildIds regexNew (mapWithRoot profile profiles) profile
    { valid := true } true]
  constructor
  · intro hsome
    split at hsome
    · cases hsome
    · rename_i hne
      rw [List.isEmpty_iff] at hne
      exact List.exists_mem_of_ne_nil _ hne
  · rintro ⟨child, hchild⟩
    rw [if_neg]
    rw [List.isEmpty_iff]
    exact List.ne_nil_of_mem hchild

/-- The check of a group ends, and it accepts the group exactly when its children are all there, it
has one at least, and no cycle can be reached from it. -/
theorem validateGroupProfile_valid_iff : ∃ result,
    validateGroupProfile regexNew profile profiles = some result ∧
      (result.valid = true ↔ profile.configType.isGroupType = true ∧
        (∀ child ∈ profile.protocol.childProfileIds,
          (mapWithRoot profile profiles).contains child = true) ∧
        (∃ child, IsChild regexNew (mapWithRoot profile profiles) profile.protocol child) ∧
        ¬∃ id, Relation.ReflTransGen (LeadsWith regexNew profile profiles)
            (effectiveProfileId profile) id ∧
          Relation.TransGen (LeadsWith regexNew profile profiles) id id) := by
  by_cases hgroup : profile.configType.isGroupType = true
  · obtain ⟨result, walks, hrun, herrors, hvalid, hreported⟩ :=
      validateGroupProfile_reports regexNew profile profiles hgroup
    refine ⟨result, hrun, ?_⟩
    rw [hvalid, List.isEmpty_iff, herrors, List.append_eq_nil_iff, List.map_eq_nil_iff,
      childErrors_eq_nil_iff, ← hreported.nonempty_iff, not_not, and_assoc]
    exact ⟨fun h => ⟨hgroup, h⟩, fun h => h.2⟩
  · refine ⟨{ errors := ["profile is not a policy group or proxy chain"] }, ?_, ?_⟩
    · rw [validateGroupProfile, if_neg hgroup]
    · exact iff_of_false (fun h => by cases h) fun h => hgroup h.1

def cycleText : List Char := "group cycle dependency: ".toList

theorem cycleText_prefix (path : List String) : cycleText <+: (cycleError path).toList := by
  have htext : (cycleError path).toList = cycleText ++ (" -> ".intercalate path).toList :=
    String.toList_append
  exact ⟨_, htext.symm⟩

theorem not_cycleText {text : List Char} (char : Char) (h : text.head? = some char)
    (hchar : char ≠ 'g') : ¬cycleText <+: text := by
  rintro ⟨rest, rfl⟩
  have hfirst : cycleText.head? = some 'g' := by decide
  rw [List.head?_append, hfirst] at h
  exact hchar (Option.some.inj h).symm

theorem not_cycleText_append {first second : String} (char : Char)
    (h : first.toList.head? = some char) (hchar : char ≠ 'g') :
    ¬cycleText <+: (first ++ second).toList := by
  refine not_cycleText char ?_ hchar
  rw [String.toList_append, List.head?_append, h]
  rfl

theorem childErrors_no_cycle (hgroup : profile.configType.isGroupType = true) :
    ∀ message ∈ childErrors regexNew profile profiles, ¬cycleText <+: message.toList := by
  intro message hmessage
  rcases List.mem_append.mp hmessage with hmissing | hempty
  · obtain ⟨child, _, rfl⟩ := List.mem_map.mp hmissing
    exact not_cycleText_append 'c' (by decide) (by decide)
  · split at hempty
    · rw [List.mem_singleton.mp hempty]
      cases htype : profile.configType <;> rw [htype] at hgroup <;>
        first
        | exact absurd hgroup (by decide)
        | exact not_cycleText_append 'p' (by decide) (by decide)
    · exact absurd hempty List.not_mem_nil

/-- Every cycle that the check of a group reports is spelled out and can be reached from the group,
and it reports one whenever there is one to be reached. -/
theorem validateGroupProfile_cycles : ∃ result,
    validateGroupProfile regexNew profile profiles = some result ∧
      (∀ message ∈ result.errors, cycleText <+: message.toList →
        ∃ path, message = cycleError path ∧ ClosedWalk (LeadsWith regexNew profile profiles) path ∧
          ∀ id ∈ path, Relation.ReflTransGen (LeadsWith regexNew profile profiles)
            (effectiveProfileId profile) id) ∧
      ((∃ message ∈ result.errors, cycleText <+: message.toList) ↔
        profile.configType.isGroupType = true ∧
          ∃ id, Relation.ReflTransGen (LeadsWith regexNew profile profiles)
              (effectiveProfileId profile) id ∧
            Relation.TransGen (LeadsWith regexNew profile profiles) id id) := by
  by_cases hgroup : profile.configType.isGroupType = true
  · obtain ⟨result, walks, hrun, herrors, -, hreported⟩ :=
      validateGroupProfile_reports regexNew profile profiles hgroup
    have hwalk : ∀ message ∈ result.errors, cycleText <+: message.toList →
        ∃ path ∈ walks, message = cycleError path := by
      intro message hmessage hcycle
      rw [herrors] at hmessage
      rcases List.mem_append.mp hmessage with hchild | hpath
      · exact absurd hcycle (childErrors_no_cycle regexNew profile profiles hgroup message hchild)
      · obtain ⟨path, hmem, rfl⟩ := List.mem_map.mp hpath
        exact ⟨path, hmem, rfl⟩
    refine ⟨result, hrun, ?_, ?_⟩
    · intro message hmessage hcycle
      obtain ⟨path, hpath, hspelled⟩ := hwalk message hmessage hcycle
      obtain ⟨hclosed, hplaces⟩ := hreported.sound path hpath
      refine ⟨path, hspelled, hclosed, fun id hid => ?_⟩
      rcases hplaces id hid with hmem | hreach
      · exact absurd hmem List.not_mem_nil
      · exact hreach
    · rw [← hreported.nonempty_iff]
      constructor
      · rintro ⟨message, hmessage, hcycle⟩
        obtain ⟨path, hpath, _⟩ := hwalk message hmessage hcycle
        exact ⟨hgroup, List.ne_nil_of_mem hpath⟩
      · rintro ⟨_, hsome⟩
        obtain ⟨path, hpath⟩ := List.exists_mem_of_ne_nil walks hsome
        refine ⟨cycleError path, ?_, cycleText_prefix path⟩
        rw [herrors]
        exact List.mem_append_right _ (List.mem_map_of_mem hpath)
  · have hnone : ¬cycleText <+: "profile is not a policy group or proxy chain".toList :=
      not_cycleText 'p' (by decide) (by decide)
    refine ⟨{ errors := ["profile is not a policy group or proxy chain"] }, ?_, ?_, ?_⟩
    · rw [validateGroupProfile, if_neg hgroup]
    · intro message hmessage hcycle
      rw [List.mem_singleton.mp hmessage] at hcycle
      exact absurd hcycle hnone
    · refine iff_of_false ?_ fun h => hgroup h.1
      rintro ⟨message, hmessage, hcycle⟩
      rw [List.mem_singleton.mp hmessage] at hcycle
      exact hnone hcycle

end Checks

end GroupCycles
