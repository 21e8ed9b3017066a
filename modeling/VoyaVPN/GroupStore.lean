import VoyaVPN.ActiveSelection
import VoyaVPN.GroupCycles
import VoyaVPN.ImportOutcome

/-! The groups of the store over whole runs: as long as groups are saved through their check, none
of them comes to contain itself. -/
namespace GroupStore

open Entities VoyaStore ActionRules ManagerSession ProfileNormalize ProfileManager ProfileSelection
open GroupValidation GroupCycles CycleSearch ActiveSelection

section Graph

/-- The groups and the children that they list, as they are stored. -/
def Refers (rows : List ProfileItem) (groupId childId : String) : Prop :=
  ∃ row ∈ rows, row.indexId = groupId ∧ childId ∈ row.protocol.childProfileIds

def NoCycles (store : Store) : Prop :=
  ∀ id, ¬Relation.TransGen (Refers store.rows.profiles.rows) id id

theorem childProfileIds_of_group {profile : ProfileItem} {child : String}
    (h : child ∈ profile.protocol.childProfileIds) : profile.configType.isGroupType = true := by
  unfold ProfileItem.configType
  cases hprotocol : profile.protocol with
  | policyGroup => rfl
  | proxyChain => rfl
  | _ =>
    rw [hprotocol] at h
    exact absurd h List.not_mem_nil

/-- The children that are stored are those of the draft, without white space around them. -/
theorem mem_normalized_children {protocol : ProfileProtocol} {child : String}
    (h : child ∈ (normalizeProtocol protocol).childProfileIds) :
    ∃ listed ∈ protocol.childProfileIds, RustText.trim listed = child := by
  have hvalues : ∀ values : List String, child ∈ normalizeValues values →
      ∃ listed ∈ values, RustText.trim listed = child := by
    intro values hmem
    obtain ⟨listed, hlisted, htrim⟩ := List.mem_map.mp (List.mem_filter.mp hmem).1
    exact ⟨listed, hlisted, htrim⟩
  cases protocol with
  | policyGroup ids => exact hvalues ids h
  | proxyChain ids => exact hvalues ids h
  | _ => exact absurd h List.not_mem_nil

end Graph

section Drafts

variable {store : Store} (profile : ProfileItem)

/-- The rows among which a draft is checked: those stored, but for the one it replaces, and the
draft. -/
def draftRows (store : Store) (profile : ProfileItem) : List ProfileItem :=
  (profilesWithDraft store profile).filter fun row => RustText.trim row.indexId ≠ ""

theorem not_blank {row : ProfileItem} (hnamed : Named store)
    (hrow : row ∈ store.rows.profiles.rows) : RustText.trim row.indexId ≠ "" := by
  rw [(hnamed row hrow).2]
  exact (hnamed row hrow).1

theorem mem_draftRows (hnamed : Named store) (row : ProfileItem) :
    row ∈ draftRows store profile ↔
      (row ∈ store.rows.profiles.rows ∧ row.indexId ≠ profile.indexId) ∨
        row = profile ∧ RustText.trim profile.indexId ≠ "" := by
  rw [draftRows, List.mem_filter, profilesWithDraft]
  simp only [decide_eq_true_eq]
  by_cases hstored : RustText.trim profile.indexId ≠ "" ∧
      store.rows.profiles.contains profile.indexId = true
  · rw [if_pos hstored]
    simp only [List.mem_map, Store.mem_listProfiles]
    constructor
    · rintro ⟨⟨candidate, hcandidate, rfl⟩, hblank⟩
      split
      · exact Or.inr ⟨rfl, hstored.1⟩
      · rename_i hother
        exact Or.inl ⟨hcandidate, hother⟩
    · rintro (⟨hrow, hother⟩ | ⟨rfl, hblank⟩)
      · exact ⟨⟨row, hrow, if_neg hother⟩, not_blank hnamed hrow⟩
      · obtain ⟨candidate, hcandidate, hid⟩ := (KeyedTable.contains_iff ..).mp hstored.2
        exact ⟨⟨candidate, hcandidate, if_pos hid⟩, hblank⟩
  · rw [if_neg hstored, List.mem_append, Store.mem_listProfiles, List.mem_singleton]
    constructor
    · rintro ⟨hrow | rfl, hblank⟩
      · refine Or.inl ⟨hrow, fun hid => hstored ⟨?_, ?_⟩⟩
        · rw [← hid]
          exact hblank
        · rw [← hid]
          exact KeyedTable.contains_key _ hrow
      · exact Or.inr ⟨rfl, hblank⟩
    · rintro (⟨hrow, _⟩ | ⟨rfl, hblank⟩)
      · exact ⟨Or.inl hrow, not_blank hnamed hrow⟩
      · exact ⟨Or.inr rfl, hblank⟩

theorem nodup_draftRows : ((draftRows store profile).map ProfileItem.indexId).Nodup := by
  have hlisted := store.listProfiles_nodup
  rw [draftRows, profilesWithDraft]
  split
  · refine (List.filter_sublist.map ProfileItem.indexId).nodup ?_
    rw [List.map_map]
    have hids : ∀ candidate ∈ store.listProfiles, (ProfileItem.indexId ∘ fun candidate =>
        if candidate.indexId = profile.indexId then profile else candidate) candidate =
          candidate.indexId := by
      intro candidate _
      rw [Function.comp_apply]
      split
      · rename_i hid
        exact hid.symm
      · rfl
    rw [List.map_congr_left hids]
    exact hlisted
  · rename_i hnew
    rw [List.filter_append, List.map_append]
    refine List.Nodup.append ((List.filter_sublist.map ProfileItem.indexId).nodup hlisted) ?_ ?_
    · exact (List.filter_sublist.map ProfileItem.indexId).nodup (List.nodup_singleton _)
    · intro id hid hlast
      obtain ⟨row, hrow, rfl⟩ := List.mem_map.mp hid
      obtain ⟨draft, hdraft, hsame⟩ := List.mem_map.mp hlast
      obtain ⟨hmem, hblank⟩ := List.mem_filter.mp hdraft
      rw [List.mem_singleton.mp hmem] at hsame hblank
      refine hnew ⟨by simpa using hblank, ?_⟩
      rw [hsame]
      exact KeyedTable.contains_key _ ((Store.mem_listProfiles _ _).mp (List.mem_filter.mp hrow).1)

abbrev draftMap (store : Store) (profile : ProfileItem) : ProfileMap :=
  mapWithRoot profile (profilesWithDraft store profile)

theorem get_root : (draftMap store profile).get (effectiveProfileId profile) =
    some { profile with indexId := effectiveProfileId profile } := by
  rw [draftMap, mapWithRoot, KeyedTable.get_upsert, if_pos rfl]

theorem get_draftRow (hnamed : Named store) {row : ProfileItem}
    (hrow : (row ∈ store.rows.profiles.rows ∧ row.indexId ≠ profile.indexId) ∨
      row = profile ∧ RustText.trim profile.indexId ≠ "")
    (hroot : row.indexId ≠ effectiveProfileId profile) :
    (draftMap store profile).get row.indexId = some row := by
  rw [draftMap, mapWithRoot, KeyedTable.get_upsert, if_neg (Ne.symm hroot),
    KeyedTable.get_eq_some_iff]
  refine ⟨?_, rfl⟩
  exact (KeyedTable.mem_foldl_upsert_nodup (nodup_draftRows profile) row).mpr
    ((mem_draftRows profile hnamed row).mpr hrow)

theorem contains_draftMap (hnamed : Named store) (id : String) :
    (draftMap store profile).contains id = true ↔ id = effectiveProfileId profile ∨
      (id = profile.indexId ∧ RustText.trim profile.indexId ≠ "") ∨
        store.rows.profiles.contains id = true := by
  rw [draftMap, mapWithRoot, KeyedTable.contains_upsert]
  refine or_congr Iff.rfl ?_
  rw [KeyedTable.contains_iff, KeyedTable.contains_iff]
  constructor
  · rintro ⟨row, hrow, rfl⟩
    have hdraft := (KeyedTable.mem_foldl_upsert_nodup (nodup_draftRows profile) row).mp hrow
    rcases (mem_draftRows profile hnamed row).mp hdraft with ⟨hstored, _⟩ | ⟨rfl, hblank⟩
    · exact Or.inr ⟨row, hstored, rfl⟩
    · exact Or.inl ⟨rfl, hblank⟩
  · rintro (⟨rfl, hblank⟩ | ⟨row, hrow, rfl⟩)
    · exact ⟨profile, (KeyedTable.mem_foldl_upsert_nodup (nodup_draftRows profile) profile).mpr
        ((mem_draftRows profile hnamed profile).mpr (Or.inr ⟨rfl, hblank⟩)), rfl⟩
    · by_cases hid : row.indexId = profile.indexId
      · refine ⟨profile, (KeyedTable.mem_foldl_upsert_nodup (nodup_draftRows profile) profile).mpr
          ((mem_draftRows profile hnamed profile).mpr (Or.inr ⟨rfl, ?_⟩)), hid.symm⟩
        rw [← hid]
        exact not_blank hnamed hrow
      · exact ⟨row, (KeyedTable.mem_foldl_upsert_nodup (nodup_draftRows profile) row).mpr
          ((mem_draftRows profile hnamed row).mpr (Or.inl ⟨hrow, hid⟩)), rfl⟩

end Drafts

section Saved

variable (regexNew : String → Option (String → Bool))

/-- The errors of the check of a group; the check always ends. -/
def validationErrors (profile : ProfileItem) (profiles : List ProfileItem) : List String :=
  ((validateGroupProfile regexNew profile profiles).map (·.errors)).getD []

variable {regexNew} {store : Store} {profile : ProfileItem}

abbrev DraftLeads (regexNew : String → Option (String → Bool)) (store : Store)
    (profile : ProfileItem) : String → String → Prop :=
  LeadsWith regexNew profile (profilesWithDraft store profile)

theorem accepted (hgroup : profile.configType.isGroupType = true)
    (h : validationErrors regexNew profile (profilesWithDraft store profile) = []) :
    (∀ child ∈ profile.protocol.childProfileIds,
      (draftMap store profile).contains child = true) ∧
      ∀ id, Relation.ReflTransGen (DraftLeads regexNew store profile)
        (effectiveProfileId profile) id →
          ¬Relation.TransGen (DraftLeads regexNew store profile) id id := by
  obtain ⟨result, walks, hrun, herrors, _, hreported⟩ :=
    validateGroupProfile_reports regexNew profile (profilesWithDraft store profile) hgroup
  rw [validationErrors, hrun, Option.map_some, Option.getD_some, herrors,
    List.append_eq_nil_iff, List.map_eq_nil_iff] at h
  exact ⟨((childErrors_eq_nil_iff regexNew profile _).mp h.1).1,
    fun id hid => (hreported.complete h.2 id hid).2⟩

theorem leads_of_listed {groupId child : String} {row : ProfileItem}
    (hget : (draftMap store profile).get groupId = some row)
    (hchild : child ∈ row.protocol.childProfileIds)
    (hthere : (draftMap store profile).contains child = true) :
    DraftLeads regexNew store profile groupId child :=
  ⟨row, hget, childProfileIds_of_group hchild, Or.inl ⟨hchild, hthere⟩⟩

theorem effectiveProfileId_named (h : RustText.trim profile.indexId ≠ "") :
    effectiveProfileId profile = RustText.trim profile.indexId := by
  rw [effectiveProfileId, nonempty, if_neg h]
  rfl

/-- An id that no stored profile has and no stored group lists. -/
def Unused (store : Store) (id : String) : Prop :=
  store.rows.profiles.contains id = false ∧
    ∀ row ∈ store.rows.profiles.rows, id ∉ row.protocol.childProfileIds

theorem listed_children (hnamed : Named store)
    (haccepted : (∀ child ∈ profile.protocol.childProfileIds,
      (draftMap store profile).contains child = true) ∧
      ∀ id, Relation.ReflTransGen (DraftLeads regexNew store profile)
        (effectiveProfileId profile) id →
          ¬Relation.TransGen (DraftLeads regexNew store profile) id id)
    {child : String} (hchild : child ∈ profile.protocol.childProfileIds) :
    store.rows.profiles.contains child = true ∧ RustText.trim child = child ∧
      child ≠ effectiveProfileId profile := by
  have hthere := haccepted.1 child hchild
  have hroot : DraftLeads regexNew store profile (effectiveProfileId profile) child :=
    leads_of_listed (get_root profile) hchild hthere
  have hself : child ≠ effectiveProfileId profile := by
    rintro rfl
    exact haccepted.2 _ Relation.ReflTransGen.refl (Relation.TransGen.single hroot)
  rcases (contains_draftMap profile hnamed child).mp hthere with rfl | ⟨rfl, hblank⟩ | hstored
  · exact absurd rfl hself
  · -- the id of the draft before it is trimmed is no other profile's
    have hget := get_draftRow profile hnamed (Or.inr ⟨rfl, hblank⟩) hself
    have hloop : DraftLeads regexNew store profile profile.indexId profile.indexId :=
      leads_of_listed hget hchild hthere
    exact absurd (Relation.TransGen.single hloop)
      (haccepted.2 _ (Relation.ReflTransGen.single hroot))
  · obtain ⟨row, hrow, rfl⟩ := (KeyedTable.contains_iff ..).mp hstored
    exact ⟨hstored, (hnamed row hrow).2, hself⟩

theorem saved_noCycles (hnamed : Named store) (hacyclic : NoCycles store)
    (hgroup : profile.configType.isGroupType = true)
    (herrors : validationErrors regexNew profile (profilesWithDraft store profile) = [])
    {saved : ProfileItem} (hprotocol : saved.protocol = normalizeProtocol profile.protocol)
    (hid : RustText.trim profile.indexId ≠ "" → saved.indexId = RustText.trim profile.indexId)
    (hfresh : RustText.trim profile.indexId = "" → Unused store saved.indexId) (id : String) :
    ¬Relation.TransGen (Refers (store.rows.profiles.upsert saved).rows) id id := by
  have haccepted := accepted hgroup herrors
  have hchildren : ∀ child ∈ saved.protocol.childProfileIds,
      child ∈ profile.protocol.childProfileIds := by
    intro child hchild
    rw [hprotocol] at hchild
    obtain ⟨listed, hlisted, rfl⟩ := mem_normalized_children hchild
    rw [(listed_children hnamed haccepted hlisted).2.1]
    exact hlisted
  have hold : ∀ groupId child, Refers (store.rows.profiles.upsert saved).rows groupId child →
      groupId ≠ saved.indexId → Refers store.rows.profiles.rows groupId child := by
    rintro groupId child ⟨row, hrow, rfl, hchild⟩ hother
    rcases (KeyedTable.mem_upsert ..).mp hrow with rfl | ⟨hrow, _⟩
    · exact absurd rfl hother
    · exact ⟨row, hrow, rfl, hchild⟩
  have hown : ∀ child, Refers (store.rows.profiles.upsert saved).rows saved.indexId child →
      child ∈ profile.protocol.childProfileIds := by
    rintro child ⟨row, hrow, hrowId, hchild⟩
    rcases (KeyedTable.mem_upsert ..).mp hrow with rfl | ⟨_, hne⟩
    · exact hchildren child hchild
    · exact absurd hrowId hne
  refine acyclic_of_changed hold hacyclic ?_ id
  intro hcycle
  by_cases hblank : RustText.trim profile.indexId = ""
  · -- nothing refers to a new id
    obtain ⟨hunstored, hunlisted⟩ := hfresh hblank
    obtain ⟨groupId, _, hlast⟩ := Relation.TransGen.tail'_iff.mp hcycle
    by_cases hself : groupId = saved.indexId
    · subst hself
      have hstored := (listed_children hnamed haccepted (hown _ hlast)).1
      rw [hunstored] at hstored
      cases hstored
    · obtain ⟨row, hrow, _, hchild⟩ := hold _ _ hlast hself
      exact hunlisted row hrow hchild
  · have hroot : saved.indexId = effectiveProfileId profile :=
      (hid hblank).trans (effectiveProfileId_named hblank).symm
    have hstep : ∀ groupId child, (Refers (store.rows.profiles.upsert saved).rows groupId child ∧
        ∃ next, Refers (store.rows.profiles.upsert saved).rows child next) →
          DraftLeads regexNew store profile groupId child := by
      rintro groupId child ⟨hedge, next, hnext⟩
      have hthere : (draftMap store profile).contains child = true := by
        rw [contains_draftMap profile hnamed]
        by_cases hchildId : child = saved.indexId
        · exact Or.inl (hchildId.trans hroot)
        · obtain ⟨row, hrow, rfl, _⟩ := hold _ _ hnext hchildId
          exact Or.inr (Or.inr (KeyedTable.contains_key _ hrow))
      by_cases hself : groupId = saved.indexId
      · subst hself
        rw [hroot]
        exact leads_of_listed (get_root profile) (hown child hedge) hthere
      · obtain ⟨row, hrow, rfl, hchild⟩ := hold _ _ hedge hself
        refine leads_of_listed (get_draftRow profile hnamed (Or.inl ⟨hrow, fun hsame => ?_⟩)
          fun hsame => hself (hsame.trans hroot.symm)) hchild hthere
        apply hself
        rw [hid hblank, ← hsame, (hnamed row hrow).2]
    have hclosed : Relation.TransGen (DraftLeads regexNew store profile) saved.indexId
        saved.indexId := by
      obtain ⟨next, hfirst, _⟩ := Relation.TransGen.head'_iff.mp hcycle
      exact Relation.TransGen.mono hstep _ _ (transGen_onward hcycle ⟨next, hfirst⟩)
    rw [hroot] at hclosed
    exact haccepted.2 _ Relation.ReflTransGen.refl hclosed

end Saved

section Operations

variable {ε α : Type}

def SameProfiles (before after : Session) : Prop :=
  after.database.rows.profiles = before.database.rows.profiles

theorem sameProfiles : Frame SameProfiles where
  refl _ := rfl
  trans hfirst hsecond := hsecond.trans hfirst

/-- Rows go, and those that come list no children. -/
def OnlyLeaves (before after : Session) : Prop :=
  ∀ row ∈ after.database.rows.profiles.rows, row ∈ before.database.rows.profiles.rows ∨
    row.protocol.childProfileIds = []

theorem onlyLeaves : Frame OnlyLeaves where
  refl _ := fun _ hrow => Or.inl hrow
  trans hfirst hsecond := by
    intro row hrow
    rcases hsecond row hrow with hmiddle | hleaf
    · exact hfirst row hmiddle
    · exact Or.inr hleaf

theorem SameProfiles.onlyLeaves {before after : Session} (h : SameProfiles before after) :
    OnlyLeaves before after := by
  intro row hrow
  rw [SameProfiles] at h
  rw [h] at hrow
  exact Or.inl hrow

theorem OnlyLeaves.noCycles {before after : Session} (h : OnlyLeaves before after)
    (hacyclic : NoCycles before.database) : NoCycles after.database := by
  intro id hcycle
  refine hacyclic id (Relation.TransGen.mono ?_ _ _ hcycle)
  rintro groupId child ⟨row, hrow, hid, hchild⟩
  rcases h row hrow with hold | hleaf
  · exact ⟨row, hold, hid, hchild⟩
  · rw [hleaf] at hchild
    exact absurd hchild List.not_mem_nil

theorem ensureActiveProfile_same :
    Keeps SameProfiles (ensureActiveProfile : Action Session ε Bool) := by
  intro before
  rw [ensureActiveProfile, outcome_bind, outcome_get]
  dsimp only
  split
  · rfl
  · rfl

theorem removeProfiles_onlyLeaves (session : Session) (goes : ProfileItem → Bool) :
    OnlyLeaves session (session.setDatabase (session.database.removeProfiles goes)) :=
  fun _ hrow => Or.inl ((KeyedTable.mem_remove ..).mp hrow).1

theorem deleteMany_onlyLeaves (indexIds : List String) :
    Keeps OnlyLeaves (deleteMany indexIds : Action Session ε Nat) := by
  apply keeps_foldlM onlyLeaves
  intro deleted indexId
  apply keeps_bind onlyLeaves (keeps_query onlyLeaves _)
  intro stored
  apply keeps_bind onlyLeaves (keeps_modify fun session => removeProfiles_onlyLeaves session _)
  intro _
  exact keeps_pure onlyLeaves _

theorem ensured_onlyLeaves {action : Action Session ε α} {β : Type} {next : α → β}
    (haction : Keeps OnlyLeaves action) :
    Keeps OnlyLeaves
      (action >>= fun value => ensureActiveProfile >>= fun _ => pure (next value)) := by
  apply keeps_bind onlyLeaves haction
  intro value
  apply keeps_bind onlyLeaves (ensureActiveProfile_same.mono fun _ _ h => h.onlyLeaves)
  intro _
  exact keeps_pure onlyLeaves _

theorem identifyProfile_found (profile : ProfileItem) :
    Yields (identifyProfile profile) fun before found after => SameProfiles before after ∧
      ∃ id, found.1 = { profile with indexId := id } ∧
        (RustText.trim profile.indexId ≠ "" → id = profile.indexId) ∧
          (RustText.trim profile.indexId = "" → id = idText (before.readings before.drawn)) := by
  intro before found after hrun
  unfold identifyProfile at hrun
  split at hrun
  · rename_i hblank
    cases hrun
    exact ⟨rfl, _, rfl, fun hid => absurd hblank hid, fun _ => rfl⟩
  · rename_i hid
    cases hrun
    exact ⟨rfl, profile.indexId, rfl, fun _ => rfl, fun hblank => absurd hblank hid⟩

theorem upsertProfile_stored (item : ProfileItem) :
    Yields (tryExecute fun store => store.upsertProfile item) fun before _ after =>
      after.database.rows.profiles = before.database.rows.profiles.upsert item := by
  intro before value after hrun
  rw [tryExecute, outcome_bind, outcome_get] at hrun
  dsimp only at hrun
  unfold Store.upsertProfile at hrun
  split at hrun
  · rename_i database hdatabase
    split at hdatabase
    · cases hdatabase
      cases hrun
      rfl
    · cases hdatabase
  · cases hrun

theorem upsertWithProfileEx_stored (profile : ProfileItem) (profileEx : ProfileExItem) :
    Yields (upsertWithProfileEx profile profileEx) fun before _ after =>
      after.database.rows.profiles = before.database.rows.profiles.upsert profile := by
  refine yields_bind (upsertProfile_stored _) (fun _ => (keeps_upsertProfileEx _).yields) ?_
  rintro first _ middle _ last hfirst hlast
  rw [hlast.profiles]
  exact hfirst

theorem saveProfile_stored (profile : ProfileItem) :
    Yields (saveProfile profile) fun before _ after => ∃ id,
      after.database.rows.profiles = before.database.rows.profiles.upsert
        (normalizeProfile { profile with indexId := id }) ∧
      (RustText.trim profile.indexId ≠ "" → id = profile.indexId) ∧
        (RustText.trim profile.indexId = "" → id = idText (before.readings before.drawn)) := by
  intro before result after hrun
  obtain ⟨found, identified, hidentify, hrun⟩ := ok_of_bind hrun
  obtain ⟨hsame, id, hfound, hnamed, hblank⟩ := identifyProfile_found profile _ _ _ hidentify
  obtain ⟨profileEx, chosen, hchosen, hrun⟩ := ok_of_bind hrun
  have hchosen : SameProfiles identified chosen :=
    ((profileExFor_keeps _ _).yields _ _ _ hchosen).profiles
  obtain ⟨_, written, hwritten, hrun⟩ := ok_of_bind hrun
  have hstored : written.database.rows.profiles =
      chosen.database.rows.profiles.upsert (normalizeProfile found.1) :=
    Yields.adaptError _ (upsertWithProfileEx_stored _ _) _ _ _ hwritten
  obtain ⟨_, ensured, hensured, hrun⟩ := ok_of_bind hrun
  have hensured : SameProfiles written ensured := ensureActiveProfile_same.yields _ _ _ hensured
  have hlast : SameProfiles ensured after :=
    (keeps_bind sameProfiles (keeps_get sameProfiles) fun _ => keeps_pure sameProfiles _).yields
      _ _ _ hrun
  refine ⟨id, ?_, hnamed, hblank⟩
  rw [SameProfiles] at hsame hchosen hensured hlast
  rw [hlast, hensured, hstored, hchosen, hsame, hfound]

theorem leaf_normalized {protocol : ProfileProtocol} (h : protocol.childProfileIds = []) :
    (normalizeProtocol protocol).childProfileIds = [] := by
  rw [List.eq_nil_iff_forall_not_mem]
  intro child hchild
  obtain ⟨listed, hlisted, _⟩ := mem_normalized_children hchild
  rw [h] at hlisted
  exact absurd hlisted List.not_mem_nil

theorem upsert_onlyLeaves {before after : Session} {row : ProfileItem}
    (h : after.database.rows.profiles = before.database.rows.profiles.upsert row)
    (hleaf : row.protocol.childProfileIds = []) : OnlyLeaves before after := by
  intro other hother
  rw [h] at hother
  rcases (KeyedTable.mem_upsert ..).mp hother with rfl | ⟨hold, _⟩
  · exact Or.inr hleaf
  · exact Or.inl hold

theorem upsertWithProfileEx_onlyLeaves {profile : ProfileItem} (profileEx : ProfileExItem)
    (hleaf : profile.protocol.childProfileIds = []) :
    Keeps OnlyLeaves (upsertWithProfileEx profile profileEx) := by
  have hupsert : Keeps OnlyLeaves (tryExecute fun store => store.upsertProfile profile) := by
    intro before
    cases hdatabase : before.database.upsertProfile profile with
    | ok database =>
      have hrun : outcome (tryExecute fun store => store.upsertProfile profile) before =
          (.ok ⟨⟩, before.setDatabase database) := by
        rw [tryExecute, outcome_bind, outcome_get]
        dsimp only
        rw [hdatabase]
        rfl
      rw [hrun]
      exact upsert_onlyLeaves (upsertProfile_stored profile _ _ _ hrun) hleaf
    | error error =>
      rw [tryExecute, outcome_bind, outcome_get]
      dsimp only
      rw [hdatabase]
      exact onlyLeaves.refl before
  apply keeps_bind onlyLeaves hupsert
  intro _
  exact (keeps_upsertProfileEx profileEx).mono fun _ _ h => SameProfiles.onlyLeaves h.profiles

/-- The profiles to be copied list no children. -/
def LeavesAt (indexIds : List String) (store : Store) : Prop :=
  ∀ row ∈ store.rows.profiles.rows, row.indexId ∈ indexIds → row.protocol.childProfileIds = []

theorem LeavesAt.step {indexIds : List String} {before after : Session}
    (h : LeavesAt indexIds before.database) (hleaves : OnlyLeaves before after) :
    LeavesAt indexIds after.database := by
  intro row hrow hid
  rcases hleaves row hrow with hold | hleaf
  · exact h row hold hid
  · exact hleaf

theorem copyProfile_leaves {indexIds : List String} {indexId : String} (hid : indexId ∈ indexIds)
    (state : List ProfileListItem × Int) :
    Yields (copyProfile state indexId) fun before _ after =>
      LeavesAt indexIds before.database → OnlyLeaves before after := by
  intro before result after hrun hleaves
  obtain ⟨found, middle, hfound, hrun⟩ := ok_of_bind hrun
  obtain ⟨rfl, hquery⟩ := yields_query _ _ _ _ hfound
  rw [hquery] at hrun
  cases hget : before.database.rows.profiles.get indexId with
  | none =>
    rw [hget] at hrun
    cases hrun
    exact onlyLeaves.refl _
  | some source =>
    rw [hget] at hrun
    obtain ⟨hsource, hsourceId⟩ := (KeyedTable.get_eq_some_iff ..).mp hget
    obtain ⟨newId, drawn, hdrawn, hrun⟩ := ok_of_bind hrun
    have hdrawn : SameProfiles before drawn := ((keeps_draw _).yields _ _ _ hdrawn).profiles
    obtain ⟨_, written, hwritten, hrun⟩ := ok_of_bind hrun
    have hstored := Yields.adaptError _ (upsertWithProfileEx_stored _ _) _ _ _ hwritten
    have hlast : SameProfiles written after :=
      (keeps_bind sameProfiles (keeps_get sameProfiles) fun _ => keeps_pure sameProfiles _).yields
        _ _ _ hrun
    refine onlyLeaves.trans hdrawn.onlyLeaves (onlyLeaves.trans
      (upsert_onlyLeaves hstored (leaf_normalized ?_)) hlast.onlyLeaves)
    exact hleaves source hsource (hsourceId ▸ hid)

theorem copyProfiles_leaves (indexIds : List String) :
    Yields (ProfileManager.copyProfiles indexIds) fun before _ after =>
      LeavesAt indexIds before.database → OnlyLeaves before after := by
  have hcopies : ∀ (items : List String) (_ : items ⊆ indexIds)
      (state : List ProfileListItem × Int),
      Yields (items.foldlM copyProfile state) fun before _ after =>
        LeavesAt indexIds before.database → OnlyLeaves before after := by
    intro items
    induction items with
    | nil => exact fun _ state => yields_pure fun before _ => onlyLeaves.refl before
    | cons item items ih =>
      intro hitems state
      rw [List.foldlM_cons]
      refine yields_bind (copyProfile_leaves (hitems List.mem_cons_self) state)
        (fun _ => ih (List.subset_of_cons_subset hitems) _) ?_
      intro before _ middle _ after hfirst hrest hleaves
      exact onlyLeaves.trans (hfirst hleaves) (hrest (hleaves.step (hfirst hleaves)))
  intro before result after hrun hleaves
  obtain ⟨sort, _, hsort, hrun⟩ := ok_of_bind hrun
  obtain ⟨rfl, rfl⟩ := yields_query _ _ _ _ hsort
  obtain ⟨copied, middle, hcopied, hrun⟩ := ok_of_bind hrun
  have hrest : SameProfiles middle after :=
    (keeps_bind sameProfiles ensureActiveProfile_same fun _ => keeps_pure sameProfiles _).yields
      _ _ _ hrun
  exact onlyLeaves.trans (hcopies indexIds (List.Subset.refl _) _ _ _ _ hcopied hleaves)
    hrest.onlyLeaves

theorem setActiveProfile_same (indexId : String) :
    Keeps SameProfiles (ProfileManager.setActiveProfile indexId) := by
  unfold ProfileManager.setActiveProfile
  split
  · exact keeps_throw sameProfiles _
  · apply keeps_bind sameProfiles (keeps_query sameProfiles _)
    intro found
    cases found with
    | none => exact keeps_throw sameProfiles _
    | some profile =>
      apply keeps_bind sameProfiles
        (((ensureProfileEx_keeps indexId).adaptError _).mono fun _ _ h => h.profiles)
      intro _
      have hmodify : Keeps SameProfiles (modify fun session => session.setActiveProfile indexId :
          Action Session ProfileManagerError PUnit) := keeps_modify fun _ => rfl
      apply keeps_bind sameProfiles hmodify
      intro _
      exact keeps_bind sameProfiles (keeps_get sameProfiles) fun _ => keeps_pure sameProfiles _

theorem saveProfile_onlyLeaves {profile : ProfileItem}
    (hleaf : profile.protocol.childProfileIds = []) : Keeps OnlyLeaves (saveProfile profile) := by
  have hidentified : Yields (identifyProfile profile) fun _ found _ =>
      found.1.protocol.childProfileIds = [] := by
    refine (identifyProfile_found profile).mono fun _ found _ h => ?_
    obtain ⟨_, id, hfound, _⟩ := h
    rw [hfound]
    exact hleaf
  apply keeps_bind_when onlyLeaves
    ((identifyProfile_keeps profile).mono fun _ _ h => SameProfiles.onlyLeaves h.profiles)
    hidentified
  intro found hfound
  apply keeps_bind onlyLeaves
    ((profileExFor_keeps _ _).mono fun _ _ h => SameProfiles.onlyLeaves h.profiles)
  intro profileEx
  apply keeps_bind onlyLeaves
    ((upsertWithProfileEx_onlyLeaves profileEx (leaf_normalized hfound)).adaptError _)
  intro _
  apply keeps_bind onlyLeaves (ensureActiveProfile_same.mono fun _ _ h => h.onlyLeaves)
  intro _
  exact keeps_bind onlyLeaves (keeps_get onlyLeaves) fun _ => keeps_pure onlyLeaves _

section Imports

open SubscriptionManager SubscriptionSelection ImportOutcome ImportText

variable (parsers : ImportParsers)

/-- No profile that the text is read as lists children. -/
def GivesLeaves (text : String) (subscriptionId : Option String) : Prop :=
  ∀ profile ∈ (parsedText parsers text subscriptionId).profiles,
    profile.protocol.childProfileIds = []

theorem importProfile_onlyLeaves (subscriptionId : Option String) (state : ImportState)
    {profile : ProfileItem} (hleaf : profile.protocol.childProfileIds = []) :
    Keeps OnlyLeaves (importProfile subscriptionId state profile) := by
  apply keeps_bind onlyLeaves (keeps_get onlyLeaves)
  intro session
  dsimp only
  split
  · rename_i canonical _
    have hsave := @saveProfile_onlyLeaves { profile with indexId := canonical.1.1.indexId } hleaf
    exact keeps_bind onlyLeaves (hsave.adaptError _) fun _ => keeps_pure onlyLeaves _
  · exact keeps_bind onlyLeaves ((saveProfile_onlyLeaves hleaf).adaptError _) fun _ =>
      keeps_pure onlyLeaves _

theorem applyImport_onlyLeaves (subscriptionId : Option String) (oldProfiles : List ProfileItem)
    {profiles : List ProfileItem}
    (hleaves : ∀ profile ∈ profiles, profile.protocol.childProfileIds = []) :
    Keeps OnlyLeaves (applyImport subscriptionId oldProfiles profiles) := by
  apply keeps_bind onlyLeaves (keeps_query onlyLeaves _)
  intro existingProfiles
  apply keeps_bind onlyLeaves (keeps_foldlM_of_mem onlyLeaves
    (fun profile hprofile state => importProfile_onlyLeaves subscriptionId state
      (hleaves profile hprofile)) _)
  intro state
  apply keeps_bind onlyLeaves (deleteMany_onlyLeaves _)
  intro removedDuplicates
  exact ensured_onlyLeaves (deleteMany_onlyLeaves _)

theorem importParsed_onlyLeaves (subscriptionId : Option String) (regex : Option (String → Bool))
    (oldProfiles : List ProfileItem) {parsed : ParsedImportText}
    (hleaves : ∀ profile ∈ parsed.profiles, profile.protocol.childProfileIds = []) :
    Keeps OnlyLeaves (importParsed subscriptionId regex oldProfiles parsed) := by
  have hretained : ∀ profile ∈ retainMatching regex parsed.profiles, profile ∈ parsed.profiles := by
    intro profile hprofile
    unfold retainMatching at hprofile
    split at hprofile
    · exact hprofile
    · exact (List.mem_filter.mp hprofile).1
  unfold importParsed
  dsimp only
  split
  · exact keeps_bind onlyLeaves (ensureActiveProfile_same.mono fun _ _ h => h.onlyLeaves)
      fun _ => keeps_pure onlyLeaves _
  · refine keeps_bind onlyLeaves (applyImport_onlyLeaves _ _ ?_) fun _ => keeps_pure onlyLeaves _
    intro profile hprofile
    rcases mem_dedupe_foldl hprofile with hnone | hmap
    · cases hnone
    · obtain ⟨read, hread, rfl⟩ := List.mem_map.mp hmap
      exact leaf_normalized (hleaves read (hretained read hread))

theorem importProfilesFromText_onlyLeaves {text : String} {subscriptionId : Option String}
    (hleaves : GivesLeaves parsers text subscriptionId) :
    Keeps OnlyLeaves (importProfilesFromText parsers text subscriptionId) := by
  apply keeps_bind onlyLeaves (keeps_query onlyLeaves _)
  intro subItem
  apply keeps_bind onlyLeaves (keeps_fromExcept onlyLeaves _)
  intro regex
  apply keeps_bind onlyLeaves (keeps_query onlyLeaves _)
  intro oldProfiles
  apply keeps_bind_when onlyLeaves
    ((parseImportText_keeps parsers _ _).mono fun _ _ h => SameProfiles.onlyLeaves h.profiles)
    ((parseImportText_yields text).mono fun _ _ _ h => h.1)
  rintro parsed rfl
  exact importParsed_onlyLeaves _ _ _ hleaves

theorem applyPreparedImport_onlyLeaves (result : SubscriptionUpdateResult)
    {prepared : PreparedSubscriptionImport}
    (hleaves : GivesLeaves parsers prepared.content (some prepared.item.id)) :
    Keeps OnlyLeaves (applyPreparedImport parsers result prepared) := by
  apply keeps_bind onlyLeaves (keeps_query onlyLeaves _)
  intro current
  split
  · exact keeps_pure onlyLeaves _
  · have himport := importProfilesFromText_onlyLeaves parsers hleaves
    apply keeps_bind onlyLeaves himport.attempt
    intro imported
    split
    · split
      · exact keeps_pure onlyLeaves _
      · exact keeps_pure onlyLeaves _
    · exact keeps_pure onlyLeaves _
    · exact keeps_throw onlyLeaves _

theorem applyPreparedSubscriptionUpdate_onlyLeaves {prepared : PreparedSubscriptionUpdate}
    (hleaves : ∀ one ∈ prepared.imports, GivesLeaves parsers one.content (some one.item.id)) :
    Keeps OnlyLeaves (applyPreparedSubscriptionUpdate parsers prepared) :=
  keeps_foldlM_of_mem onlyLeaves
    (fun one hone result => applyPreparedImport_onlyLeaves parsers result (hleaves one hone)) _

end Imports

theorem deleteSubscriptions_onlyLeaves (ids : List String) :
    Keeps OnlyLeaves (SubscriptionManager.deleteSubscriptions ids) := by
  apply keeps_bind onlyLeaves
  · apply keeps_foldlM onlyLeaves
    intro deleted id
    apply keeps_bind onlyLeaves (keeps_query onlyLeaves _)
    intro stored
    split
    · apply keeps_bind onlyLeaves
      · apply keeps_modify
        intro session
        unfold Store.deleteSubscription
        dsimp only
        split
        · exact removeProfiles_onlyLeaves session _
        · exact onlyLeaves.refl session
      · intro _
        apply keeps_bind onlyLeaves
          (keeps_modify fun session => removeProfiles_onlyLeaves session _)
        intro _
        exact keeps_pure onlyLeaves _
    · exact keeps_pure onlyLeaves _
  · intro deleted
    apply keeps_bind onlyLeaves
    · apply keeps_modify
      intro session
      dsimp only
      split
      · exact fun _ hrow => Or.inl hrow
      · exact onlyLeaves.refl session
    · intro _
      exact keeps_bind onlyLeaves (ensureActiveProfile_same.mono fun _ _ h => h.onlyLeaves)
        fun _ => keeps_pure onlyLeaves _

end Operations

section Runs

variable (regexNew : String → Option (String → Bool)) (parsers : SubscriptionManager.ImportParsers)

/-- Groups are checked as the group manager does. -/
def environment : Environment where
  parsers
  validateGroup := validationErrors regexNew

/-- Groups are saved through their check and neither copied nor imported, and the id that a new
group is given is not one that is in use. -/
def Guarded (data : AppData) (input : (Nat → IdReading) × Operation) : Prop :=
  match input.2 with
  | .saveProfile profile => profile.protocol.childProfileIds = []
  | .copyProfiles indexIds => LeavesAt indexIds data.database
  | .saveGroupProfile profile =>
    RustText.trim profile.indexId = "" → Unused data.database (idText (input.1 0))
  | .importProfilesFromText text subscriptionId => GivesLeaves parsers text subscriptionId
  | .applySubscriptionUpdate prepared =>
    ∀ one ∈ prepared.imports, GivesLeaves parsers one.content (some one.item.id)
  | _ => True

variable {regexNew parsers}

theorem saveGroupProfile_noCycles {profile : ProfileItem} {before after : Session}
    {item : ProfileListItem} (hnamed : Named before.database) (hacyclic : NoCycles before.database)
    (hfresh : RustText.trim profile.indexId = "" →
      Unused before.database (idText (before.readings before.drawn)))
    (hrun : outcome (ProfileManager.saveGroupProfile (validationErrors regexNew) profile) before =
      (.ok item, after)) : NoCycles after.database := by
  unfold ProfileManager.saveGroupProfile at hrun
  split at hrun
  · rename_i hgroup
    obtain ⟨_, _, hquery, hrun⟩ := ok_of_bind hrun
    obtain ⟨rfl, rfl⟩ := yields_query _ _ _ _ hquery
    split at hrun
    · rename_i hvalid
      obtain ⟨id, hstored, hid, hblank⟩ :=
        Yields.adaptError _ (saveProfile_stored profile) _ _ _ hrun
      intro other hcycle
      rw [hstored] at hcycle
      refine saved_noCycles hnamed hacyclic hgroup hvalid rfl ?_ ?_ other hcycle
      · intro hnonblank
        change RustText.trim id = _
        rw [hid hnonblank]
      · intro hempty
        change Unused _ (RustText.trim id)
        rw [hblank hempty, idText_trim]
        exact hfresh hempty
    · cases hrun
  · cases hrun

theorem perform_noCycles {data : AppData} {input : (Nat → IdReading) × Operation}
    (hguarded : Guarded parsers data input) (hnamed : Named data.database)
    (hacyclic : NoCycles data.database) {result : PUnit} {session : Session}
    (hrun : outcome (input.2.perform (environment regexNew parsers)) (data.begin input.1) =
      (.ok result, session)) : NoCycles session.database := by
  obtain ⟨readings, operation⟩ := input
  have hleaves : ∀ {ε : Type} {wrap : ε → OperationError} {α : Type} {action : Action Session ε α},
      Keeps OnlyLeaves action → outcome (performing wrap action) (data.begin readings) =
        (.ok result, session) → NoCycles session.database := by
    intro ε wrap α action haction h
    exact (performing_yields wrap haction.yields _ _ _ h : OnlyLeaves _ _).noCycles hacyclic
  have hsame : ∀ {ε : Type} {wrap : ε → OperationError} {α : Type} {action : Action Session ε α},
      Yields action (fun before _ after => SameProfiles before after) →
        outcome (performing wrap action) (data.begin readings) = (.ok result, session) →
          NoCycles session.database := by
    intro ε wrap α action haction h
    exact (performing_yields wrap haction _ _ _ h : SameProfiles _ _).onlyLeaves.noCycles hacyclic
  have hframed : ∀ {ε : Type} {wrap : ε → OperationError} {α : Type} {action : Action Session ε α},
      Keeps SelectionFrame action → outcome (performing wrap action) (data.begin readings) =
        (.ok result, session) → NoCycles session.database :=
    fun haction => hsame (haction.yields.mono fun _ _ _ h => h.profiles)
  have hrouted : ∀ {ε : Type} {wrap : ε → OperationError} {α : Type} {action : Action Session ε α},
      RoutingSelection.KeepsRouting action →
        outcome (performing wrap action) (data.begin readings) = (.ok result, session) →
          NoCycles session.database :=
    fun haction => hsame (haction.mono fun _ _ _ h => h.1.profiles)
  cases operation with
  | saveProfile profile => exact hleaves (saveProfile_onlyLeaves hguarded) hrun
  | deleteProfiles indexIds =>
    exact hleaves (ensured_onlyLeaves (deleteMany_onlyLeaves indexIds)) hrun
  | copyProfiles indexIds =>
    exact (performing_yields OperationError.profile (copyProfiles_leaves indexIds) _ _ _ hrun
      hguarded).noCycles hacyclic
  | setActiveProfile indexId => exact hsame (setActiveProfile_same indexId).yields hrun
  | moveProfile subscriptionId indexId action position =>
    exact hframed (moveProfile_keeps subscriptionId indexId action position) hrun
  | sortProfiles sortProfilePairs subscriptionId =>
    exact hframed (sortProfiles_keeps sortProfilePairs subscriptionId) hrun
  | dedupeProfiles subscriptionId keepOlder =>
    refine hleaves (keeps_bind onlyLeaves (keeps_query onlyLeaves _) fun listed => ?_) hrun
    exact ensured_onlyLeaves (deleteMany_onlyLeaves _)
  | saveGroupProfile profile =>
    obtain ⟨item, hsave⟩ : ∃ item, outcome (ProfileManager.saveGroupProfile
        (validationErrors regexNew) profile) (data.begin readings) = (.ok item, session) := by
      have hyields : Yields (ProfileManager.saveGroupProfile (validationErrors regexNew) profile)
          fun before _ after => ∃ item, outcome (ProfileManager.saveGroupProfile
            (validationErrors regexNew) profile) before = (.ok item, after) :=
        fun _ item _ h => ⟨item, h⟩
      exact performing_yields OperationError.group hyields _ _ _ hrun
    exact @saveGroupProfile_noCycles regexNew profile (data.begin readings) session item hnamed
      hacyclic hguarded hsave
  | saveSubscription item =>
    exact hframed (SubscriptionSelection.saveSubscription_keeps item) hrun
  | addSubscriptionFromUrl url =>
    exact hframed (SubscriptionSelection.addSubscriptionFromUrl_keeps url) hrun
  | deleteSubscriptions ids => exact hleaves (deleteSubscriptions_onlyLeaves ids) hrun
  | importProfilesFromText text subscriptionId =>
    exact hleaves (importProfilesFromText_onlyLeaves parsers hguarded) hrun
  | applySubscriptionUpdate prepared =>
    exact hleaves (applyPreparedSubscriptionUpdate_onlyLeaves parsers hguarded) hrun
  | saveRouting item => exact hrouted (RoutingSelection.saveRouting_selects item).keeps hrun
  | deleteRoutings ids => exact hrouted (RoutingSelection.deleteRoutings_selects ids).keeps hrun
  | setActiveRouting id => exact hrouted (RoutingSelection.setActiveRouting_selects id).keeps hrun
  | saveRule routingId rule =>
    exact hrouted (RoutingSelection.saveRule_keeps routingId rule) hrun
  | deleteRules routingId ruleIds =>
    exact hrouted (RoutingSelection.deleteRules_keeps routingId ruleIds) hrun
  | moveRule routingId ruleId action position =>
    exact hrouted (RoutingSelection.moveRule_keeps routingId ruleId action position) hrun
  | applyConfigTemplate prepared =>
    exact hrouted (RoutingSelection.applyPreparedConfigTemplate_selects prepared).keeps hrun

theorem step_noCycles {data : AppData} {input : (Nat → IdReading) × Operation}
    (hdata : Consistent data ∧ NoCycles data.database) (hguarded : Guarded parsers data input) :
    Consistent (step (environment regexNew parsers) data input) ∧
      NoCycles (step (environment regexNew parsers) data input).database := by
  refine ⟨step_consistent _ data input hdata.1, ?_⟩
  unfold step mutate
  split
  · rename_i result session hrun
    have hafter := perform_noCycles hguarded hdata.1.sound.named hdata.2 hrun
    have hsound : Sound session.database session.config :=
      perform_keepsSound _ input.2 _ _ _ hrun hdata.1.sound
    obtain ⟨committed, hcommit, _, hrows, _⟩ := commit_of_sound hsound
    rw [hcommit]
    change NoCycles committed.database
    rw [NoCycles, hrows]
    exact hafter
  · exact hdata.2

/-- Whatever has been done since, as long as groups are saved through their check: no stored group
contains itself. -/
theorem noCycles_of_run {start : AppData} (hstart : Consistent start)
    (hacyclic : NoCycles start.database) {inputs : List ((Nat → IdReading) × Operation)}
    (hinputs : InputRuns.Meets (step (environment regexNew parsers)) (Guarded parsers) start
      inputs) :
    NoCycles (inputs.foldl (step (environment regexNew parsers)) start).database := by
  have hkept : Consistent (inputs.foldl (step (environment regexNew parsers)) start) ∧
      NoCycles (inputs.foldl (step (environment regexNew parsers)) start).database :=
    @InputRuns.invariant_of_meets _ _ (step (environment regexNew parsers)) (Guarded parsers)
      (fun data => Consistent data ∧ NoCycles data.database)
      (fun _ _ hdata hguarded => step_noCycles hdata hguarded) inputs start
      ⟨hstart, hacyclic⟩ hinputs
  exact hkept.2

/-- A profile, a group of it and a chain through that group are saved. -/
theorem noCycles_of_three_saves :
    NoCycles ([(fun drawn => ⟨drawn, drawn, 1⟩, Operation.saveProfile { indexId := "a" }),
        (fun drawn => ⟨drawn, drawn, 1⟩, Operation.saveGroupProfile
          { indexId := "g", protocol := .policyGroup ["a"] none none .leastPing }),
        (fun drawn => ⟨drawn, drawn, 1⟩, Operation.saveGroupProfile
          { indexId := "c", protocol := .proxyChain ["a", "g"] })].foldl
      (step (environment (fun _ => none) refusingParsers))
      { database := { rows := {} }, config := {} }).database :=
  noCycles_of_run consistent_fresh (by
    intro id hcycle
    obtain ⟨child, ⟨row, hrow, _⟩, _⟩ := Relation.TransGen.head'_iff.mp hcycle
    exact absurd hrow List.not_mem_nil)
    ⟨rfl, fun h => absurd h (by decide), fun h => absurd h (by decide), trivial⟩

end Runs

end GroupStore
