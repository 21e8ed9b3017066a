import VoyaVPN.RecordMerge
import VoyaVPN.SubscriptionSelection

/-! The loop of an import is a merge of records: what it saves, what it looks the profiles up in and
what it leaves to be deleted. -/
namespace ImportLoop

open Entities AppConfig ConfigMutation VoyaStore ActionRules ManagerSession ProfileNormalize
open ProfileManager SubscriptionManager ProfileSelection RecordMerge

abbrev ProfileData := ProfileProtocol × Option ProfileTransport × Option TlsSettings

def dataOf (profile : ProfileItem) : ProfileData :=
  (profile.protocol, profile.transport, profile.tls)

abbrev profileKind : RecordKind ProfileItem String ProfileData where
  key := ProfileItem.indexId
  data := dataOf
  own profile := if profile.indexId = "" then none else some profile.indexId
  rekey indexId profile := { profile with indexId }
  key_rekey _ _ := rfl
  data_rekey _ _ := rfl

theorem profileItemsMatch_iff (left right : ProfileItem) :
    profileItemsMatch left right false = true ↔ dataOf left = dataOf right := by
  simp [profileItemsMatch, dataOf]

def drawnId (session : Session) (place : Nat) : String := idText (session.readings place)

structure ImportFrame (before after : Session) : Prop where
  readings : after.readings = before.readings
  subscriptions : after.database.rows.subscriptions = before.database.rows.subscriptions

structure SaveFrame (before after : Session) : Prop extends ImportFrame before after where
  profiles : after.database.rows.profiles = before.database.rows.profiles
  drawn : after.drawn = before.drawn

theorem importFrame : Frame ImportFrame where
  refl _ := ⟨rfl, rfl⟩
  trans hfirst hsecond :=
    ⟨hsecond.readings.trans hfirst.readings, hsecond.subscriptions.trans hfirst.subscriptions⟩

theorem saveFrame : Frame SaveFrame where
  refl state := ⟨importFrame.refl state, rfl, rfl⟩
  trans hfirst hsecond :=
    ⟨importFrame.trans hfirst.toImportFrame hsecond.toImportFrame,
      hsecond.profiles.trans hfirst.profiles, hsecond.drawn.trans hfirst.drawn⟩

section Saves

variable {ε : Type}

theorem ensureActiveProfile_saveFrame :
    Keeps SaveFrame (ensureActiveProfile : Action Session ε Bool) := by
  intro before
  rw [ensureActiveProfile, outcome_bind, outcome_get]
  dsimp only
  split
  · exact saveFrame.refl before
  · exact ⟨⟨rfl, rfl⟩, rfl, rfl⟩

theorem upsertProfileEx_saveFrame (item : ProfileExItem) :
    Keeps SaveFrame (tryExecute fun store => store.upsertProfileEx item) := by
  apply keeps_tryExecute saveFrame
  intro session database hwrite
  unfold Store.upsertProfileEx at hwrite
  split at hwrite
  · cases hwrite
    exact ⟨⟨rfl, rfl⟩, rfl, rfl⟩
  · cases hwrite

theorem ensureProfileEx_saveFrame (indexId : String) :
    Keeps SaveFrame (ensureProfileEx indexId) := by
  apply keeps_bind saveFrame (keeps_query saveFrame _)
  intro found
  cases found with
  | some item => exact keeps_pure saveFrame _
  | none =>
    exact keeps_bind saveFrame (upsertProfileEx_saveFrame _) fun _ => keeps_pure saveFrame _

theorem profileExFor_saveFrame (indexId : String) (isNew : Bool) :
    Keeps SaveFrame (profileExFor indexId isNew) := by
  unfold profileExFor
  split
  · exact keeps_bind saveFrame (keeps_query saveFrame _) fun _ => keeps_pure saveFrame _
  · exact keeps_bind saveFrame ((ensureProfileEx_saveFrame _).adaptError _) fun _ =>
      keeps_pure saveFrame _

theorem outcome_identifyProfile (profile : ProfileItem) (session : Session) :
    outcome (identifyProfile profile) session =
      if RustText.trim profile.indexId = "" then
        (.ok ({ profile with indexId := drawnId session session.drawn }, true),
          { session with drawn := session.drawn + 1 })
      else (.ok (profile, !session.database.rows.profiles.contains profile.indexId), session) := by
  unfold identifyProfile
  split <;> rfl

structure Saves (profile : ProfileItem) (before : Session) (saved : ProfileItem)
    (after : Session) : Prop extends ImportFrame before after where
  profiles : after.database.rows.profiles = before.database.rows.profiles.upsert saved
  admitted : before.database.admitsProfile saved = true
  choice : RustText.trim profile.indexId ≠ "" ∧ saved = normalizeProfile profile ∧
        after.drawn = before.drawn ∨
      RustText.trim profile.indexId = "" ∧
        saved = { normalizeProfile profile with indexId := drawnId before before.drawn } ∧
        after.drawn = before.drawn + 1

theorem upsertWithProfileEx_yields (profile : ProfileItem) (profileEx : ProfileExItem) :
    Yields (upsertWithProfileEx profile profileEx) fun before _ after =>
      ImportFrame before after ∧ after.drawn = before.drawn ∧
        after.database.rows.profiles = before.database.rows.profiles.upsert profile ∧
        before.database.admitsProfile profile = true := by
  intro before value after hrun
  obtain ⟨_, between, hfirst, hsecond⟩ := ok_of_bind hrun
  have hframe := (upsertProfileEx_saveFrame profileEx).outcome_frame hsecond
  rw [tryExecute, outcome_bind, outcome_get] at hfirst
  dsimp only at hfirst
  split at hfirst
  · rename_i database hwrite
    unfold Store.upsertProfile at hwrite
    split at hwrite
    · rename_i hadmits
      cases hwrite
      cases hfirst
      exact ⟨⟨hframe.readings, hframe.subscriptions⟩, hframe.drawn, hframe.profiles, hadmits⟩
    · cases hwrite
  · cases hfirst

theorem saveProfile_yields (profile : ProfileItem) :
    Yields (saveProfile profile) fun before saved after =>
      Saves profile before saved.profile after := by
  intro before saved after hrun
  obtain ⟨⟨found, isNew⟩, identified, hidentify, hread⟩ := ok_of_bind hrun
  obtain ⟨profileEx, started, hstarted, hwrite⟩ := ok_of_bind hread
  obtain ⟨_, written, hwritten, hensure⟩ := ok_of_bind hwrite
  obtain ⟨changed, ensured, hensured, hreturn⟩ := ok_of_bind hensure
  have hresult : saved.profile = normalizeProfile found ∧ after = ensured := by
    cases hreturn
    exact ⟨rfl, rfl⟩
  obtain ⟨hsaved, rfl⟩ := hresult
  have hstart := (profileExFor_saveFrame _ _).outcome_frame hstarted
  obtain ⟨hframe, hdrawn, hprofiles, hadmits⟩ :=
    (upsertWithProfileEx_yields _ _).adaptError ProfileManagerError.database _ _ _ hwritten
  have hlast := ensureActiveProfile_saveFrame.outcome_frame hensured
  have hwhole : ImportFrame identified after :=
    importFrame.trans hstart.toImportFrame (importFrame.trans hframe hlast.toImportFrame)
  have htable : after.database.rows.profiles =
      identified.database.rows.profiles.upsert saved.profile := by
    rw [hlast.profiles, hprofiles, hstart.profiles, hsaved]
  have hadmitted : identified.database.admitsProfile saved.profile = true := by
    rw [Store.admitsProfile, ← hstart.subscriptions, hsaved]
    exact hadmits
  have hcount : after.drawn = identified.drawn :=
    hlast.drawn.trans (hdrawn.trans hstart.drawn)
  rw [outcome_identifyProfile] at hidentify
  split at hidentify
  · rename_i hblank
    cases hidentify
    refine ⟨⟨hwhole.readings, hwhole.subscriptions⟩, htable, hadmitted, Or.inr ⟨hblank, ?_, hcount⟩⟩
    rw [hsaved]
    simp [normalizeProfile, drawnId, idText_trim]
  · rename_i hnamed
    cases hidentify
    exact ⟨hwhole, htable, hadmitted, Or.inl ⟨hnamed, hsaved, hcount⟩⟩

theorem ensureActiveProfile_succeeds (before : Session) :
    ∃ changed after, outcome (ensureActiveProfile : Action Session ε Bool) before =
      (.ok changed, after) := by
  rw [ensureActiveProfile, outcome_bind, outcome_get]
  dsimp only
  split
  · exact ⟨_, _, rfl⟩
  · exact ⟨_, _, rfl⟩

theorem upsertProfileEx_succeeds {item : ProfileExItem} {before : Session}
    (hstored : before.database.rows.profiles.contains item.indexId = true) :
    ∃ after, outcome (tryExecute fun store => store.upsertProfileEx item) before =
      (.ok ⟨⟩, after) ∧ SaveFrame before after := by
  rw [tryExecute, outcome_bind, outcome_get]
  simp only [Store.upsertProfileEx, hstored, if_true]
  exact ⟨_, rfl, ⟨⟨rfl, rfl⟩, rfl, rfl⟩⟩

theorem profileExFor_succeeds {indexId : String} {isNew : Bool} {before : Session}
    (hstored : isNew = false → before.database.rows.profiles.contains indexId = true) :
    ∃ profileEx after, outcome (profileExFor indexId isNew) before = (.ok profileEx, after) ∧
      profileEx.indexId = indexId := by
  cases isNew with
  | true => exact ⟨_, _, rfl, rfl⟩
  | false =>
    have hensure : ∃ found after, outcome (ensureProfileEx indexId) before =
      (.ok found, after) := by
      rw [ensureProfileEx, outcome_bind_ok
        (show outcome (query fun store => store.rows.profileExs.get indexId) before = _ from rfl)]
      dsimp only
      cases before.database.rows.profileExs.get indexId with
      | some item => exact ⟨_, _, rfl⟩
      | none =>
        obtain ⟨after, hrun, _⟩ := upsertProfileEx_succeeds
          (show before.database.rows.profiles.contains
            ({ indexId } : ProfileExItem).indexId = true from hstored rfl)
        dsimp only
        rw [outcome_bind_ok hrun]
        exact ⟨_, _, rfl⟩
    obtain ⟨found, after, hrun⟩ := hensure
    have hadapted : outcome (adaptError ProfileManagerError.database (ensureProfileEx indexId))
        before = (.ok found, after) := by
      rw [outcome_adaptError, hrun]
      rfl
    rw [profileExFor, if_neg (by simp), outcome_bind_ok hadapted]
    exact ⟨_, _, rfl, rfl⟩

theorem upsertWithProfileEx_succeeds {profile : ProfileItem} {profileEx : ProfileExItem}
    {before : Session} (hadmits : before.database.admitsProfile profile = true)
    (hindexId : profileEx.indexId = profile.indexId) :
    ∃ after, outcome (upsertWithProfileEx profile profileEx) before = (.ok ⟨⟩, after) := by
  have hfirst : outcome (tryExecute fun store => store.upsertProfile profile) before =
      (.ok ⟨⟩, before.setDatabase (before.database.setRows fun rows =>
        { rows with profiles := rows.profiles.upsert profile })) := by
    rw [tryExecute, outcome_bind, outcome_get]
    simp only [Store.upsertProfile, hadmits, if_true]
    rfl
  rw [upsertWithProfileEx, outcome_bind_ok hfirst]
  have hstored : (before.database.rows.profiles.upsert profile).contains profileEx.indexId = true :=
    (KeyedTable.contains_upsert ..).mpr (Or.inl hindexId)
  obtain ⟨after, hrun, _⟩ := upsertProfileEx_succeeds
    (show (before.setDatabase (before.database.setRows fun rows =>
      { rows with profiles := rows.profiles.upsert profile })).database.rows.profiles.contains
        profileEx.indexId = true from hstored)
  exact ⟨after, hrun⟩

theorem admitsProfile_congr (store : Store) {first second : ProfileItem}
    (hsubscription : first.subscriptionId = second.subscriptionId) :
    store.admitsProfile first = store.admitsProfile second := by
  rw [Store.admitsProfile, Store.admitsProfile, hsubscription]

theorem admitsProfile_normalize (store : Store) (profile : ProfileItem) :
    store.admitsProfile (normalizeProfile profile) = store.admitsProfile profile :=
  admitsProfile_congr store rfl

theorem saveProfile_succeeds_of {profile found : ProfileItem} {isNew : Bool}
    {before identified : Session}
    (hidentify : outcome (identifyProfile profile) before = (.ok (found, isNew), identified))
    (hadmits : identified.database.admitsProfile (normalizeProfile found) = true)
    (hstored : isNew = false →
      identified.database.rows.profiles.contains (normalizeProfile found).indexId = true) :
    ∃ saved after, outcome (saveProfile profile) before = (.ok saved, after) := by
  obtain ⟨profileEx, started, hstarted, hindexId⟩ := profileExFor_succeeds hstored
  have hstart := (profileExFor_saveFrame _ _).outcome_frame hstarted
  have hadmitted : started.database.admitsProfile (normalizeProfile found) = true := by
    rw [Store.admitsProfile, hstart.subscriptions]
    exact hadmits
  obtain ⟨written, hwritten⟩ := upsertWithProfileEx_succeeds hadmitted hindexId
  obtain ⟨changed, ensured, hensured⟩ := @ensureActiveProfile_succeeds ProfileManagerError written
  have hadapted : outcome (adaptError ProfileManagerError.database
      (upsertWithProfileEx (normalizeProfile found) profileEx)) started = (.ok ⟨⟩, written) := by
    rw [outcome_adaptError, hwritten]
    rfl
  rw [saveProfile, outcome_bind_ok hidentify]
  dsimp only
  rw [outcome_bind_ok hstarted, outcome_bind_ok hadapted, outcome_bind_ok hensured]
  exact ⟨_, _, rfl⟩

theorem saveProfile_succeeds {profile : ProfileItem} {before : Session}
    (htrimmed : RustText.trim profile.indexId = profile.indexId)
    (hadmits : before.database.admitsProfile profile = true) :
    ∃ saved after, outcome (saveProfile profile) before = (.ok saved, after) := by
  have hidentify := outcome_identifyProfile profile before
  split at hidentify
  · apply saveProfile_succeeds_of hidentify
    · rw [admitsProfile_normalize]
      exact (admitsProfile_congr _ rfl).trans hadmits
    · intro hold
      cases hold
  · apply saveProfile_succeeds_of hidentify
    · rw [admitsProfile_normalize]
      exact hadmits
    · intro hold
      have hid : (normalizeProfile profile).indexId = profile.indexId := htrimmed
      rw [hid]
      simpa using hold

end Saves

section Cache

theorem minBy_mem {α : Type} {before : α → α → Bool} {values : List α} {least : α}
    (hleast : minBy before values = some least) : least ∈ values := by
  induction values generalizing least with
  | nil => cases hleast
  | cons value values ih =>
    rw [minBy] at hleast
    cases hrest : minBy before values with
    | none =>
      simp only [hrest, Option.some.injEq] at hleast
      rw [← hleast]
      exact List.mem_cons_self
    | some other =>
      simp only [hrest] at hleast
      split at hleast
      · cases hleast
        exact List.mem_cons_of_mem _ (ih hrest)
      · cases hleast
        exact List.mem_cons_self

theorem minBy_eq_none {α : Type} {before : α → α → Bool} {values : List α}
    (hnone : minBy before values = none) : values = [] := by
  cases values with
  | nil => rfl
  | cons value values =>
    rw [minBy] at hnone
    split at hnone
    · cases hnone
    · split at hnone <;> cases hnone

theorem replaceFirst_some {isOld : Entry → Bool} {new : Entry} {entries replaced : List Entry}
    (hreplaced : replaceFirst isOld new entries = some replaced) :
    new ∈ replaced ∧ (∀ entry ∈ replaced, entry = new ∨ entry ∈ entries) ∧
      ∀ entry ∈ entries, isOld entry = false → entry ∈ replaced := by
  induction entries generalizing replaced with
  | nil => cases hreplaced
  | cons head rest ih =>
    rw [replaceFirst] at hreplaced
    split at hreplaced
    · rename_i hold
      cases hreplaced
      refine ⟨List.mem_cons_self, ?_, ?_⟩
      · intro entry hentry
        rcases List.mem_cons.mp hentry with rfl | hrest
        · exact Or.inl rfl
        · exact Or.inr (List.mem_cons_of_mem _ hrest)
      · intro entry hentry hkeeps
        rcases List.mem_cons.mp hentry with rfl | hrest
        · rw [hold] at hkeeps
          cases hkeeps
        · exact List.mem_cons_of_mem _ hrest
    · obtain ⟨tail, htail, rfl⟩ := Option.map_eq_some_iff.mp hreplaced
      obtain ⟨hnew, hof, hkeeps⟩ := ih htail
      refine ⟨List.mem_cons_of_mem _ hnew, ?_, ?_⟩
      · intro entry hentry
        rcases List.mem_cons.mp hentry with rfl | hrest
        · exact Or.inr List.mem_cons_self
        · exact (hof entry hrest).imp id (List.mem_cons_of_mem _)
      · intro entry hentry hstays
        rcases List.mem_cons.mp hentry with rfl | hrest
        · exact List.mem_cons_self
        · exact List.mem_cons_of_mem _ (hkeeps entry hrest hstays)

/-- The saved entry is there, what else is there was there before, and what has another id that is
not removed stays. -/
theorem updateExistingProfileCache_spec (existing : List Entry) (saved : Entry)
    (removed : List String) :
    saved ∈ updateExistingProfileCache existing saved removed ∧
      (∀ entry ∈ updateExistingProfileCache existing saved removed, entry = saved ∨
        entry ∈ existing ∧ (entry.1.indexId = saved.1.indexId ∨ entry.1.indexId ∉ removed)) ∧
      ∀ entry ∈ existing, entry.1.indexId ≠ saved.1.indexId → entry.1.indexId ∉ removed →
        entry ∈ updateExistingProfileCache existing saved removed := by
  have hretained (entry : Entry) : (entry ∈ existing.filter fun entry =>
      entry.1.indexId = saved.1.indexId ∨ entry.1.indexId ∉ removed) ↔
        entry ∈ existing ∧ (entry.1.indexId = saved.1.indexId ∨ entry.1.indexId ∉ removed) := by
    simp [List.mem_filter]
  unfold updateExistingProfileCache
  dsimp only
  cases hreplaced : replaceFirst (fun entry => entry.1.indexId = saved.1.indexId) saved
      (existing.filter fun entry =>
        entry.1.indexId = saved.1.indexId ∨ entry.1.indexId ∉ removed) with
  | none =>
    rw [Option.getD_none]
    refine ⟨by simp, ?_, ?_⟩
    · intro entry hentry
      rcases List.mem_append.mp hentry with hentry | hentry
      · exact Or.inr ((hretained entry).mp hentry)
      · exact Or.inl (List.mem_singleton.mp hentry)
    · intro entry hentry _ hstays
      exact List.mem_append_left _ ((hretained entry).mpr ⟨hentry, Or.inr hstays⟩)
  | some replaced =>
    rw [Option.getD_some]
    obtain ⟨hnew, hof, hkeeps⟩ := replaceFirst_some hreplaced
    refine ⟨hnew, ?_, ?_⟩
    · intro entry hentry
      exact (hof entry hentry).imp id (hretained entry).mp
    · intro entry hentry hother hstays
      exact hkeeps entry ((hretained entry).mpr ⟨hentry, Or.inr hstays⟩) (by simpa using hother)

theorem mem_matchingEntries {existing : List Entry} {profile : ProfileItem} {found : Entry × Nat}
    (hfound : found ∈ matchingEntries existing profile) :
    found.1 ∈ existing ∧ dataOf found.1.1 = dataOf profile := by
  obtain ⟨hmem, hmatch⟩ := List.mem_filter.mp hfound
  exact ⟨List.fst_mem_of_mem_zipIdx hmem, (profileItemsMatch_iff _ _).mp hmatch⟩

/-- The ids of the matching entries are those of the rivals of the profile. -/
theorem rivals_iff (existing : List Entry) (profile : ProfileItem) (indexId : String) :
    Rivals profileKind (existing.map Prod.fst) profile indexId ↔
      indexId ∈ (matchingEntries existing profile).map (·.1.1.indexId) := by
  constructor
  · rintro ⟨row, hrow, hdata, rfl⟩
    obtain ⟨entry, hentry, rfl⟩ := List.mem_map.mp hrow
    obtain ⟨place, hplace⟩ := List.mem_iff_getElem?.mp hentry
    have hfound : (entry, place) ∈ matchingEntries existing profile :=
      List.mem_filter.mpr ⟨List.mk_mem_zipIdx_iff_getElem?.mpr hplace,
        (profileItemsMatch_iff _ _).mpr hdata⟩
    exact List.mem_map_of_mem hfound
  · intro hmem
    obtain ⟨found, hfound, rfl⟩ := List.mem_map.mp hmem
    obtain ⟨hexisting, hdata⟩ := mem_matchingEntries hfound
    exact ⟨found.1.1, List.mem_map_of_mem hexisting, hdata, rfl⟩

end Cache

section Steps

variable {subscriptionId : Option String}

def mergeState (state : ImportState) (session : Session) : RecordMerge.State profileKind where
  table := session.database.rows.profiles
  known := state.existingProfiles.map Prod.fst
  imported := state.importedIndexIds
  updated := state.updatedIndexIds
  superseded := state.duplicateIndexIdsToRemove
  drawn := session.drawn

/-- The ids that profiles are looked up under are such that a save leaves them as they are. -/
def Tidy (existing : List Entry) : Prop :=
  ∀ entry ∈ existing, entry.1.indexId ≠ "" ∧ RustText.trim entry.1.indexId = entry.1.indexId

theorem normalizeProfile_withIndexId {profile : ProfileItem}
    (hprofile : normalizeProfile profile = profile) {indexId : String}
    (htrimmed : RustText.trim indexId = indexId) :
    normalizeProfile { profile with indexId } = { profile with indexId } := by
  have hparts := congrArg (fun item : ProfileItem => { item with indexId }) hprofile
  rw [← hparts]
  simp only [normalizeProfile, htrimmed, normalizeProtocol_normalizeProtocol, RustText.trim_trim,
    Option.map_map, Function.comp_def, normalizeTransport_normalizeTransport,
    normalizeTls_normalizeTls]

theorem indexId_trimmed {profile : ProfileItem} (hprofile : normalizeProfile profile = profile) :
    RustText.trim profile.indexId = profile.indexId :=
  congrArg ProfileItem.indexId hprofile

theorem drawnId_ne_empty (session : Session) (place : Nat) : drawnId session place ≠ "" :=
  idText_ne_empty _

/-- A profile as an import saves it is itself under the id that it comes with or a drawn one. -/
theorem Saves.rekeyed {profile saved : ProfileItem} {before after : Session}
    (hsaves : Saves profile before saved after) (hprofile : normalizeProfile profile = profile) :
    saved = { profile with indexId := saved.indexId } ∧ saved.indexId ≠ "" ∧
      RustText.trim saved.indexId = saved.indexId ∧
      (profileKind.own profile = some saved.indexId ∧ after.drawn = before.drawn ∨
        profileKind.own profile = none ∧ saved.indexId = drawnId before before.drawn ∧
          after.drawn = before.drawn + 1) := by
  have htrimmed := indexId_trimmed hprofile
  rcases hsaves.choice with ⟨hnamed, hsaved, hdrawn⟩ | ⟨hblank, hsaved, hdrawn⟩
  · rw [htrimmed] at hnamed
    rw [hprofile] at hsaved
    subst hsaved
    exact ⟨rfl, hnamed, htrimmed, Or.inl ⟨if_neg hnamed, hdrawn⟩⟩
  · rw [htrimmed] at hblank
    rw [hprofile] at hsaved
    have hid : saved.indexId = drawnId before before.drawn := by rw [hsaved]
    refine ⟨by rw [hid]; exact hsaved, ?_, ?_, Or.inr ⟨if_pos hblank, hid, hdrawn⟩⟩
    · rw [hid]
      exact drawnId_ne_empty _ _
    · rw [hid]
      exact idText_trim _

theorem step_of_miss {state : ImportState} {profile : ProfileItem} {before after : Session}
    (saved : Entry) (hprofile : normalizeProfile profile = profile)
    (htidy : Tidy state.existingProfiles)
    (hfound : matchingEntries state.existingProfiles profile = [])
    (hsaves : Saves profile before saved.1 after) :
    Step profileKind (drawnId before) (mergeState state before) profile saved.1.indexId
      (mergeState { state with
        existingProfiles := state.existingProfiles ++ [saved]
        importedIndexIds := state.importedIndexIds ++ [saved.1.indexId] } after) ∧
      Tidy (state.existingProfiles ++ [saved]) := by
  obtain ⟨hsaved, hnonempty, htrimmed, hown⟩ := Saves.rekeyed hsaves hprofile
  have hnone : ∀ indexId,
      ¬Rivals profileKind (state.existingProfiles.map Prod.fst) profile indexId := by
    intro indexId hrival
    rw [rivals_iff, hfound] at hrival
    cases hrival
  refine ⟨⟨?_, rfl, ?_, ?_, ?_, ?_, ?_⟩, ?_⟩
  · rw [show profileKind.rekey saved.1.indexId profile = saved.1 from hsaved.symm]
    exact hsaves.profiles
  · intro indexId
    constructor
    · exact Or.inl
    · rintro (hold | ⟨_, hrival⟩)
      · exact hold
      · exact absurd hrival (hnone indexId)
  · rw [show profileKind.rekey saved.1.indexId profile = saved.1 from hsaved.symm]
    simp [mergeState]
  · intro row hrow
    rw [show profileKind.rekey saved.1.indexId profile = saved.1 from hsaved.symm]
    simp only [mergeState, List.map_append, List.mem_append, List.map_cons, List.map_nil,
      List.mem_singleton] at hrow
    rcases hrow with hold | hnew
    · exact Or.inr ⟨hold, Or.inr (hnone _)⟩
    · exact Or.inl hnew
  · intro row hrow _
    simp only [mergeState, List.map_append, List.mem_append]
    exact Or.inl hrow
  · refine Or.inr ⟨fun row hrow hdata => hnone _ ⟨row, hrow, hdata, rfl⟩, rfl, hown⟩
  · intro entry hentry
    rcases List.mem_append.mp hentry with hold | hnew
    · exact htidy entry hold
    · rw [List.mem_singleton.mp hnew]
      exact ⟨hnonempty, htrimmed⟩

theorem step_of_match {state : ImportState} {profile : ProfileItem} {before after : Session}
    (saved : Entry) {canonical : Entry × Nat} (hprofile : normalizeProfile profile = profile)
    (htidy : Tidy state.existingProfiles)
    (hcanonical : canonical ∈ matchingEntries state.existingProfiles profile)
    (hsaves : Saves { profile with indexId := canonical.1.1.indexId } before saved.1 after) :
    Step profileKind (drawnId before) (mergeState state before) profile saved.1.indexId
      (mergeState {
        existingProfiles :=
          updateExistingProfileCache state.existingProfiles saved
            (((matchingEntries state.existingProfiles profile).map (·.1.1.indexId)).filter
              (· ≠ canonical.1.1.indexId))
        importedIndexIds := state.importedIndexIds ++ [saved.1.indexId]
        updatedIndexIds := state.updatedIndexIds ++ [saved.1.indexId]
        duplicateIndexIdsToRemove := state.duplicateIndexIdsToRemove ++
          ((matchingEntries state.existingProfiles profile).map (·.1.1.indexId)).filter
            (· ≠ canonical.1.1.indexId) } after) ∧
      Tidy (updateExistingProfileCache state.existingProfiles saved
        (((matchingEntries state.existingProfiles profile).map (·.1.1.indexId)).filter
          (· ≠ canonical.1.1.indexId))) := by
  obtain ⟨hexisting, hdata⟩ := mem_matchingEntries hcanonical
  obtain ⟨hnonempty, htrimmed⟩ := htidy canonical.1 hexisting
  have hsaved : saved.1 = { profile with indexId := canonical.1.1.indexId } ∧
      after.drawn = before.drawn := by
    rcases hsaves.choice with ⟨_, hsaved, hdrawn⟩ | ⟨hblank, _⟩
    · exact ⟨hsaved.trans (normalizeProfile_withIndexId hprofile htrimmed), hdrawn⟩
    · rw [htrimmed] at hblank
      exact absurd hblank hnonempty
  obtain ⟨hsaved, hdrawn⟩ := hsaved
  have hid : saved.1.indexId = canonical.1.1.indexId := by rw [hsaved]
  have hrekey : profileKind.rekey saved.1.indexId profile = saved.1 := by rw [hid, hsaved]
  obtain ⟨hnew, hof, hkeeps⟩ := updateExistingProfileCache_spec state.existingProfiles saved
    (((matchingEntries state.existingProfiles profile).map (·.1.1.indexId)).filter
      (· ≠ canonical.1.1.indexId))
  have hremoved : ∀ indexId,
      (indexId ∈ ((matchingEntries state.existingProfiles profile).map (·.1.1.indexId)).filter
        (· ≠ canonical.1.1.indexId)) ↔
      indexId ≠ saved.1.indexId ∧
        Rivals profileKind (state.existingProfiles.map Prod.fst) profile indexId := by
    intro indexId
    rw [List.mem_filter, rivals_iff, hid, and_comm]
    simp
  refine ⟨⟨?_, rfl, ?_, ?_, ?_, ?_, ?_⟩, ?_⟩
  · rw [hrekey]
    exact hsaves.profiles
  · intro indexId
    simp only [mergeState, List.mem_append, hremoved]
  · rw [hrekey]
    exact List.mem_map_of_mem hnew
  · intro row hrow
    rw [hrekey]
    obtain ⟨entry, hentry, rfl⟩ := List.mem_map.mp hrow
    rcases hof entry hentry with rfl | ⟨hold, hstays⟩
    · exact Or.inl rfl
    · refine Or.inr ⟨List.mem_map_of_mem hold, ?_⟩
      by_cases hsame : entry.1.indexId = saved.1.indexId
      · exact Or.inl hsame
      · refine Or.inr fun hrival => ?_
        exact (hstays.resolve_left hsame) ((hremoved _).mpr ⟨hsame, hrival⟩)
  · intro row hrow hrival
    obtain ⟨entry, hentry, rfl⟩ := List.mem_map.mp hrow
    have hother : entry.1.indexId ≠ saved.1.indexId := by
      intro hsame
      refine hrival ⟨canonical.1.1, List.mem_map_of_mem hexisting, hdata, ?_⟩
      exact hid.symm.trans hsame.symm
    refine List.mem_map_of_mem (hkeeps entry hentry hother ?_)
    exact fun hgone => hrival ((hremoved _).mp hgone).2
  · exact Or.inl ⟨⟨canonical.1.1, List.mem_map_of_mem hexisting, hdata, hid.symm⟩, rfl, hdrawn⟩
  · intro entry hentry
    rcases hof entry hentry with rfl | ⟨hold, _⟩
    · rw [hid]
      exact ⟨hnonempty, htrimmed⟩
    · exact htidy entry hold

theorem Saves.subscription {profile saved : ProfileItem} {before after : Session}
    (hsaves : Saves profile before saved after) :
    saved.subscriptionId = profile.subscriptionId := by
  rcases hsaves.choice with ⟨_, hsaved, _⟩ | ⟨_, hsaved, _⟩ <;> rw [hsaved] <;> rfl

theorem importProfile_step {state next : ImportState} {profile : ProfileItem}
    {before after : Session} (hprofile : normalizeProfile profile = profile)
    (htidy : Tidy state.existingProfiles)
    (hrun : outcome (importProfile subscriptionId state profile) before = (.ok next, after)) :
    (∃ chosen, Step profileKind (drawnId before) (mergeState state before) profile chosen
      (mergeState next after)) ∧ Tidy next.existingProfiles ∧ ImportFrame before after ∧
      before.database.admitsProfile profile = true := by
  rw [importProfile, outcome_bind, outcome_get] at hrun
  dsimp only at hrun
  split at hrun
  · rename_i canonical hcanonical
    obtain ⟨saved, between, hsave, hreturn⟩ := ok_of_bind hrun
    have hsaves := (saveProfile_yields _).adaptError SubscriptionManagerError.profile _ _ _ hsave
    have hstep := step_of_match (saved.profile, saved.profileEx) hprofile htidy
      (minBy_mem hcanonical) hsaves
    cases hreturn
    refine ⟨⟨_, hstep.1⟩, hstep.2, hsaves.toImportFrame, ?_⟩
    rw [← hsaves.admitted]
    exact admitsProfile_congr _ hsaves.subscription.symm
  · rename_i hcanonical
    obtain ⟨saved, between, hsave, hreturn⟩ := ok_of_bind hrun
    have hsaves := (saveProfile_yields _).adaptError SubscriptionManagerError.profile _ _ _ hsave
    have hstep := step_of_miss (saved.profile, saved.profileEx) hprofile htidy
      (minBy_eq_none hcanonical) hsaves
    cases hreturn
    refine ⟨⟨_, hstep.1⟩, hstep.2, hsaves.toImportFrame, ?_⟩
    rw [← hsaves.admitted]
    exact admitsProfile_congr _ hsaves.subscription.symm

theorem admitsProfile_of_frame {before after : Session} (hframe : ImportFrame before after)
    (profile : ProfileItem) :
    after.database.admitsProfile profile = before.database.admitsProfile profile := by
  rw [Store.admitsProfile, Store.admitsProfile, hframe.subscriptions]

theorem drawnId_of_frame {before after : Session} (hframe : ImportFrame before after) :
    drawnId after = drawnId before := by
  funext place
  rw [drawnId, drawnId, hframe.readings]

theorem importLoop_run {profiles : List ProfileItem} {state final : ImportState}
    {before after : Session} (hprofiles : ∀ profile ∈ profiles, normalizeProfile profile = profile)
    (htidy : Tidy state.existingProfiles)
    (hrun : outcome (profiles.foldlM (importProfile subscriptionId) state) before =
      (.ok final, after)) :
    Run profileKind (drawnId before) (mergeState state before) profiles (mergeState final after) ∧
      ImportFrame before after ∧
      ∀ profile ∈ profiles, before.database.admitsProfile profile = true := by
  induction profiles generalizing state before with
  | nil =>
    cases hrun
    exact ⟨Run.nil _, importFrame.refl _, by simp⟩
  | cons profile profiles ih =>
    rw [List.foldlM_cons] at hrun
    obtain ⟨next, between, hfirst, hrest⟩ := ok_of_bind hrun
    obtain ⟨⟨chosen, hstep⟩, hnext, hframe, hadmits⟩ :=
      importProfile_step (hprofiles profile (by simp)) htidy hfirst
    obtain ⟨hruns, hframes, hadmit⟩ :=
      ih (fun other hother => hprofiles other (by simp [hother])) hnext hrest
    rw [drawnId_of_frame hframe] at hruns
    refine ⟨Run.cons hstep hruns, importFrame.trans hframe hframes, ?_⟩
    intro other hother
    rcases List.mem_cons.mp hother with rfl | hother
    · exact hadmits
    · rw [← admitsProfile_of_frame hframe]
      exact hadmit other hother

theorem importProfile_succeeds {state : ImportState} {profile : ProfileItem} {before : Session}
    (hprofile : normalizeProfile profile = profile) (htidy : Tidy state.existingProfiles)
    (hadmits : before.database.admitsProfile profile = true) :
    ∃ next after, outcome (importProfile subscriptionId state profile) before =
      (.ok next, after) := by
  have hadapt : ∀ {item : ProfileItem}, RustText.trim item.indexId = item.indexId →
      before.database.admitsProfile item = true → ∃ saved after,
        outcome (adaptError SubscriptionManagerError.profile (saveProfile item)) before =
          (.ok saved, after) := by
    intro item htrimmed hitem
    obtain ⟨saved, after, hsave⟩ := saveProfile_succeeds htrimmed hitem
    refine ⟨saved, after, ?_⟩
    rw [outcome_adaptError, hsave]
    rfl
  rw [importProfile, outcome_bind, outcome_get]
  dsimp only
  split
  · rename_i canonical hcanonical
    obtain ⟨hexisting, _⟩ := mem_matchingEntries (minBy_mem hcanonical)
    have htrimmed : RustText.trim
        ({ profile with indexId := canonical.1.1.indexId } : ProfileItem).indexId =
          canonical.1.1.indexId := (htidy canonical.1 hexisting).2
    obtain ⟨saved, after, hsave⟩ := hadapt htrimmed ((admitsProfile_congr _ rfl).trans hadmits)
    rw [outcome_bind_ok hsave]
    exact ⟨_, _, rfl⟩
  · obtain ⟨saved, after, hsave⟩ := hadapt (indexId_trimmed hprofile) hadmits
    rw [outcome_bind_ok hsave]
    exact ⟨_, _, rfl⟩

theorem importLoop_succeeds {profiles : List ProfileItem} {state : ImportState} {before : Session}
    (hprofiles : ∀ profile ∈ profiles, normalizeProfile profile = profile)
    (htidy : Tidy state.existingProfiles)
    (hadmits : ∀ profile ∈ profiles, before.database.admitsProfile profile = true) :
    ∃ final after, outcome (profiles.foldlM (importProfile subscriptionId) state) before =
      (.ok final, after) := by
  induction profiles generalizing state before with
  | nil => exact ⟨_, _, rfl⟩
  | cons profile profiles ih =>
    obtain ⟨next, between, hfirst⟩ := @importProfile_succeeds subscriptionId state profile before
      (hprofiles profile (by simp)) htidy (hadmits profile (by simp))
    obtain ⟨_, hnext, hframe, _⟩ := importProfile_step (hprofiles profile (by simp)) htidy hfirst
    rw [List.foldlM_cons, outcome_bind_ok hfirst]
    apply ih (fun other hother => hprofiles other (by simp [hother])) hnext
    intro other hother
    rw [admitsProfile_of_frame hframe]
    exact hadmits other (by simp [hother])

end Steps

section Deletes

variable {ε : Type}

theorem deleteMany_yields (indexIds : List String) :
    Yields (deleteMany indexIds : Action Session ε Nat) fun before _ after =>
      ImportFrame before after ∧ after.drawn = before.drawn ∧
        ∀ row, row ∈ after.database.rows.profiles.rows ↔
          row ∈ before.database.rows.profiles.rows ∧ row.indexId ∉ indexIds := by
  have hloop : ∀ (indexIds : List String) (count : Nat), Yields
      (indexIds.foldlM (fun deleted indexId => do
        let stored ← query fun store => store.rows.profiles.contains indexId
        execute fun store => store.deleteProfile indexId
        return deleted + stored.toNat) count : Action Session ε Nat) fun before _ after =>
      ImportFrame before after ∧ after.drawn = before.drawn ∧
        ∀ row, row ∈ after.database.rows.profiles.rows ↔
          row ∈ before.database.rows.profiles.rows ∧ row.indexId ∉ indexIds := by
    intro indexIds
    induction indexIds with
    | nil =>
      intro count before _ after hrun
      cases hrun
      exact ⟨importFrame.refl before, rfl, by simp⟩
    | cons indexId indexIds ih =>
      intro count before _ after hrun
      rw [List.foldlM_cons] at hrun
      obtain ⟨deleted, between, hfirst, hrest⟩ := ok_of_bind hrun
      cases hfirst
      obtain ⟨hframe, hdrawn, hrows⟩ := ih _ _ _ _ hrest
      refine ⟨⟨hframe.readings, hframe.subscriptions⟩, hdrawn, fun row => ?_⟩
      rw [hrows row]
      simp only [Session.setDatabase, Store.deleteProfile, Store.removeProfiles,
        KeyedTable.mem_remove, List.mem_cons, not_or, beq_eq_false_iff_ne, and_assoc]
  exact hloop indexIds 0

theorem deleteMany_succeeds (indexIds : List String) (before : Session) :
    ∃ count after, outcome (deleteMany indexIds : Action Session ε Nat) before =
      (.ok count, after) := by
  unfold deleteMany
  generalize 0 = start
  induction indexIds generalizing start before with
  | nil => exact ⟨_, _, rfl⟩
  | cons indexId indexIds ih =>
    rw [List.foldlM_cons]
    exact ih _ _

end Deletes

theorem mem_staleIndexIds (oldProfiles : List ProfileItem) (subscriptionId : Option String)
    (imported : List String) (indexId : String) :
    indexId ∈ staleIndexIds oldProfiles subscriptionId imported ↔
      subscriptionId.isSome = true ∧ indexId ∉ imported ∧
        ∃ row ∈ oldProfiles, row.subscriptionId = subscriptionId ∧ row.indexId = indexId := by
  unfold staleIndexIds
  split
  · rename_i hsome
    simp only [hsome, true_and, List.mem_map, List.mem_filter, decide_eq_true_eq]
    constructor
    · rintro ⟨row, ⟨hrow, hsame, hnew⟩, rfl⟩
      exact ⟨hnew, row, hrow, hsame, rfl⟩
    · rintro ⟨hnew, row, hrow, hsame, rfl⟩
      exact ⟨row, ⟨hrow, hsame, hnew⟩, rfl⟩
  · rename_i hnone
    simp [hnone]

/-- What an import has done when its loop ended in a state of the merge. -/
structure Applied (subscriptionId : Option String) (oldProfiles : List ProfileItem)
    (before after : Session) (final : RecordMerge.State profileKind) : Prop
    extends ImportFrame before after where
  drawn : after.drawn = final.drawn
  rows : ∀ row, row ∈ after.database.rows.profiles.rows ↔
    (row ∈ final.table.rows ∧ row.indexId ∉ final.superseded) ∧
      row.indexId ∉ staleIndexIds oldProfiles subscriptionId final.imported

theorem mem_listWithProfileEx (store : Store) (row : ProfileItem) :
    row ∈ (store.listWithProfileEx none).map Prod.fst ↔ row ∈ store.rows.profiles.rows := by
  rw [Store.listWithProfileEx, List.map_map]
  simp [Function.comp_def, Store.inSubscription]

theorem tidy_listWithProfileEx {store : Store} (hnamed : Named store) :
    Tidy (store.listWithProfileEx none) := by
  intro entry hentry
  exact hnamed entry.1 ((mem_listWithProfileEx store entry.1).mp (List.mem_map_of_mem hentry))

theorem applyImport_yields {subscriptionId : Option String}
    {oldProfiles profiles : List ProfileItem} {before after : Session} {state : ImportState}
    {duplicates existing : Nat}
    (hprofiles : ∀ profile ∈ profiles, normalizeProfile profile = profile)
    (hnamed : Named before.database)
    (hrun : outcome (applyImport subscriptionId oldProfiles profiles) before =
      (.ok (state, duplicates, existing), after)) :
    ∃ known final, (∀ row, row ∈ known ↔ row ∈ before.database.rows.profiles.rows) ∧
      Run profileKind (drawnId before)
        (initial profileKind before.database.rows.profiles known before.drawn) profiles final ∧
      state.importedIndexIds = final.imported ∧ state.updatedIndexIds = final.updated ∧
      Applied subscriptionId oldProfiles before after final ∧
      ∀ profile ∈ profiles, before.database.admitsProfile profile = true := by
  obtain ⟨listed, started, hquery, hloops⟩ := ok_of_bind hrun
  obtain ⟨rfl, rfl⟩ := yields_query _ _ _ _ hquery
  obtain ⟨looped, between, hloop, hdeletes⟩ := ok_of_bind hloops
  obtain ⟨removed, unmerged, hfirst, hstale⟩ := ok_of_bind hdeletes
  obtain ⟨gone, left, hsecond, hensure⟩ := ok_of_bind hstale
  obtain ⟨changed, ensured, hensured, hreturn⟩ := ok_of_bind hensure
  cases hreturn
  obtain ⟨hruns, hframe, hadmits⟩ := importLoop_run hprofiles (tidy_listWithProfileEx hnamed) hloop
  obtain ⟨hframe₁, hdrawn₁, hrows₁⟩ := deleteMany_yields _ _ _ _ hfirst
  obtain ⟨hframe₂, hdrawn₂, hrows₂⟩ := deleteMany_yields _ _ _ _ hsecond
  have hlast := ensureActiveProfile_saveFrame.outcome_frame hensured
  refine ⟨_, _, mem_listWithProfileEx started.database, hruns, rfl, rfl, ⟨?_, ?_, ?_⟩, hadmits⟩
  · exact importFrame.trans (importFrame.trans hframe hframe₁)
      (importFrame.trans hframe₂ hlast.toImportFrame)
  · exact hlast.drawn.trans (hdrawn₂.trans hdrawn₁)
  · intro row
    rw [hlast.profiles, hrows₂, hrows₁]
    rfl

theorem applyImport_succeeds {subscriptionId : Option String}
    {oldProfiles profiles : List ProfileItem} {before : Session}
    (hprofiles : ∀ profile ∈ profiles, normalizeProfile profile = profile)
    (hnamed : Named before.database)
    (hadmits : ∀ profile ∈ profiles, before.database.admitsProfile profile = true) :
    ∃ state duplicates existing after,
      outcome (applyImport subscriptionId oldProfiles profiles) before =
        (.ok (state, duplicates, existing), after) := by
  obtain ⟨looped, between, hloop⟩ := @importLoop_succeeds subscriptionId profiles
    { existingProfiles := before.database.listWithProfileEx none } before hprofiles
    (tidy_listWithProfileEx hnamed) hadmits
  obtain ⟨removed, unmerged, hfirst⟩ := @deleteMany_succeeds SubscriptionManagerError
    looped.duplicateIndexIdsToRemove between
  obtain ⟨gone, left, hsecond⟩ := @deleteMany_succeeds SubscriptionManagerError
    (staleIndexIds oldProfiles subscriptionId looped.importedIndexIds) unmerged
  obtain ⟨changed, ensured, hensured⟩ :=
    @ensureActiveProfile_succeeds SubscriptionManagerError left
  have hquery : outcome (query fun store => store.listWithProfileEx none :
      Action Session SubscriptionManagerError _) before =
        (.ok (before.database.listWithProfileEx none), before) := rfl
  rw [applyImport, outcome_bind_ok hquery]
  rw [outcome_bind_ok hloop, outcome_bind_ok hfirst, outcome_bind_ok hsecond,
    outcome_bind_ok hensured]
  exact ⟨_, _, _, _, rfl⟩

section Blank

variable {start : KeyedTable ProfileItem String ProfileItem.indexId} {profiles : List ProfileItem}

theorem own_of_blank {profile : ProfileItem} (hblank : profile.indexId = "") :
    profileKind.own profile = none :=
  if_pos hblank

theorem noClash_of_blank (hblank : ∀ profile ∈ profiles, profile.indexId = "") :
    NoClash profileKind start profiles := by
  constructor
  · intro profile hfirst _ row _ hown
    rw [own_of_blank (hblank profile hfirst.mem)] at hown
    cases hown
  · intro first hfirst _ _ _ _ hsome
    exact absurd (own_of_blank (hblank first hfirst.mem)) hsome

theorem noTwinClash_of_blank (hblank : ∀ profile ∈ profiles, profile.indexId = "") :
    NoTwinClash profileKind start profiles := by
  intro earlier profile later hsplit _ _ _
  have hnone := own_of_blank (hblank profile (by simp [hsplit]))
  constructor
  · intro row _ _ hown
    rw [hnone] at hown
    cases hown
  · exact fun _ _ _ _ hsome => absurd hnone hsome

theorem fresh_of_blank {session : Session} {high : Nat}
    (hblank : ∀ profile ∈ profiles, profile.indexId = "") (hone : high ≤ session.drawn + 1)
    (hnew : ∀ row ∈ start.rows, row.indexId ≠ drawnId session session.drawn) :
    Fresh profileKind (drawnId session) start profiles session.drawn high := by
  constructor
  · intro place hlow hhigh row hrow
    obtain rfl : place = session.drawn := by omega
    exact hnew row hrow
  · intro place _ _ profile hprofile hown
    rw [own_of_blank (hblank profile hprofile)] at hown
    cases hown
  · intro first second hlow hbefore hhigh
    omega

end Blank

end ImportLoop
