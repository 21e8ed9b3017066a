import VoyaVPN.SubscriptionManager

/-! The active profile after the operations of the profile, group and subscription managers. -/
namespace ProfileSelection

open Entities AppConfig ConfigMutation VoyaStore ActionRules ManagerSession ProfileNormalize
open ProfileManager SubscriptionManager

variable {ε α β : Type}

/-- Every stored profile has an id that a save leaves as it is. -/
def Named (store : Store) : Prop :=
  ∀ profile ∈ store.rows.profiles.rows,
    profile.indexId ≠ "" ∧ RustText.trim profile.indexId = profile.indexId

def ProfileSelected (store : Store) (config : Config) : Prop :=
  (config.indexId = "" ↔ store.rows.profiles.rows = []) ∧
    (config.indexId ≠ "" → store.rows.profiles.contains config.indexId = true)

/-- What the operations on profiles and subscriptions leave alone. -/
structure ProfileFrame (before after : Session) : Prop where
  routingConfig : after.config.routingBasicItem = before.config.routingBasicItem
  activeRouting : after.database.appState.activeRoutingId = before.database.appState.activeRoutingId
  routings : after.database.rows.routings = before.database.rows.routings
  named : Named before.database → Named after.database

/-- What leaves the profiles and the choice of the active one alone. -/
structure SelectionFrame (before after : Session) : Prop extends ProfileFrame before after where
  profiles : after.database.rows.profiles = before.database.rows.profiles
  indexId : after.config.indexId = before.config.indexId

theorem profileFrame : Frame ProfileFrame where
  refl _ := ⟨rfl, rfl, rfl, id⟩
  trans hfirst hsecond :=
    ⟨hsecond.routingConfig.trans hfirst.routingConfig,
      hsecond.activeRouting.trans hfirst.activeRouting, hsecond.routings.trans hfirst.routings,
      fun hnamed => hsecond.named (hfirst.named hnamed)⟩

theorem selectionFrame : Frame SelectionFrame where
  refl state := ⟨profileFrame.refl state, rfl, rfl⟩
  trans hfirst hsecond :=
    ⟨profileFrame.trans hfirst.toProfileFrame hsecond.toProfileFrame,
      hsecond.profiles.trans hfirst.profiles, hsecond.indexId.trans hfirst.indexId⟩

theorem ProfileSelected.of_selectionFrame {before after : Session}
    (hselected : ProfileSelected before.database before.config)
    (hframe : SelectionFrame before after) : ProfileSelected after.database after.config := by
  rw [ProfileSelected, hframe.profiles, hframe.indexId]
  exact hselected

theorem SelectionFrame.of_same {before after : Session}
    (hconfig : after.config = before.config)
    (hactive : after.database.appState.activeRoutingId = before.database.appState.activeRoutingId)
    (hroutings : after.database.rows.routings = before.database.rows.routings)
    (hprofiles : after.database.rows.profiles = before.database.rows.profiles) :
    SelectionFrame before after := by
  refine ⟨⟨by rw [hconfig], hactive, hroutings, ?_⟩, hprofiles, by rw [hconfig]⟩
  intro hnamed
  rw [Named, hprofiles]
  exact hnamed

section Statements

theorem keeps_query {frame : Session → Session → Prop} (hframe : Frame frame) (read : Store → α) :
    Keeps frame (query read : Action Session ε α) :=
  keeps_bind hframe (keeps_get hframe) fun _ => keeps_pure hframe _

theorem yields_query (read : Store → α) :
    Yields (query read : Action Session ε α) fun before value after =>
      value = read before.database ∧ after = before := by
  intro before value after hrun
  cases hrun
  exact ⟨rfl, rfl⟩

theorem keeps_draw (text : IdReading → String) :
    Keeps SelectionFrame (draw text : Action Session ε String) :=
  fun _ => SelectionFrame.of_same rfl rfl rfl rfl

theorem keeps_idOrNew {frame : Session → Session → Prop} (hframe : Frame frame) (isBlank : Bool)
    (id : String) {generate : Action Session ε String} (hgenerate : Keeps frame generate) :
    Keeps frame (idOrNew isBlank id generate) := by
  unfold idOrNew
  split
  · exact hgenerate
  · exact keeps_pure hframe id

theorem keeps_tryExecute {frame : Session → Session → Prop} (hframe : Frame frame)
    {write : Store → Except DbError Store}
    (hwrite : ∀ session database, write session.database = .ok database →
      frame session (session.setDatabase database)) :
    Keeps frame (tryExecute write) := by
  intro before
  rw [tryExecute, outcome_bind, outcome_get]
  dsimp only
  split
  · rename_i database hdatabase
    exact hwrite before database hdatabase
  · exact hframe.refl before

theorem named_setRows {store : Store} {change : Tables → Tables}
    (hnamed : Named store) (hprofiles : ∀ profile ∈ (change store.rows).profiles.rows,
      profile ∈ store.rows.profiles.rows ∨
        profile.indexId ≠ "" ∧ RustText.trim profile.indexId = profile.indexId) :
    Named (store.setRows change) := by
  intro profile hprofile
  rcases hprofiles profile hprofile with hold | hnew
  · exact hnamed profile hold
  · exact hnew

theorem keeps_upsertProfileEx (item : ProfileExItem) :
    Keeps SelectionFrame (tryExecute fun store => store.upsertProfileEx item) := by
  apply keeps_tryExecute selectionFrame
  intro session database hwrite
  unfold Store.upsertProfileEx at hwrite
  split at hwrite
  · cases hwrite
    exact SelectionFrame.of_same rfl rfl rfl rfl
  · cases hwrite

theorem keeps_upsertProfile {item : ProfileItem} (hnonempty : item.indexId ≠ "")
    (htrimmed : RustText.trim item.indexId = item.indexId) :
    Keeps ProfileFrame (tryExecute fun store => store.upsertProfile item) := by
  apply keeps_tryExecute profileFrame
  intro session database hwrite
  unfold Store.upsertProfile at hwrite
  split at hwrite
  · cases hwrite
    refine ⟨rfl, rfl, rfl, fun hnamed => named_setRows hnamed ?_⟩
    intro profile hprofile
    rcases (KeyedTable.mem_upsert ..).mp hprofile with rfl | ⟨hold, _⟩
    · exact Or.inr ⟨hnonempty, htrimmed⟩
    · exact Or.inl hold
  · cases hwrite

theorem removeProfiles_frame (session : Session) (goes : ProfileItem → Bool) :
    ProfileFrame session (session.setDatabase (session.database.removeProfiles goes)) := by
  refine ⟨rfl, ?_, rfl, ?_⟩
  · simp only [Session.setDatabase, Store.removeProfiles]
    split <;> rfl
  · intro hnamed profile hprofile
    exact hnamed profile ((KeyedTable.mem_remove ..).mp hprofile).1

theorem keeps_deleteProfile (indexId : String) :
    Keeps ProfileFrame
      (execute fun store => store.deleteProfile indexId : Action Session ε PUnit) :=
  keeps_modify fun session => removeProfiles_frame session _

theorem keeps_deleteMany (indexIds : List String) :
    Keeps ProfileFrame (deleteMany indexIds : Action Session ε Nat) := by
  apply keeps_foldlM profileFrame
  intro deleted indexId
  apply keeps_bind profileFrame (keeps_query profileFrame _)
  intro stored
  apply keeps_bind profileFrame (keeps_deleteProfile indexId)
  intro _
  exact keeps_pure profileFrame _

end Statements

/-- What an operation makes of the selection, whatever it was before. -/
def Selects (action : Action Session ε α) : Prop :=
  Yields action fun before _ after =>
    ProfileFrame before after ∧
      (Named before.database → ProfileSelected after.database after.config)

def KeepsSelected (action : Action Session ε α) : Prop :=
  Yields action fun before _ after =>
    ProfileFrame before after ∧ (Named before.database →
      ProfileSelected before.database before.config → ProfileSelected after.database after.config)

theorem Selects.keeps {action : Action Session ε α} (haction : Selects action) :
    KeepsSelected action :=
  haction.mono fun _ _ _ hpost => ⟨hpost.1, fun hnamed _ => hpost.2 hnamed⟩

theorem keepsSelected_of_frame {action : Action Session ε α}
    (haction : Keeps SelectionFrame action) : KeepsSelected action :=
  haction.yields.mono fun _ _ _ hframe =>
    ⟨hframe.toProfileFrame, fun _ hselected => hselected.of_selectionFrame hframe⟩

theorem selects_bind {action : Action Session ε α} {next : α → Action Session ε β}
    (haction : Keeps ProfileFrame action) (hnext : ∀ value, Selects (next value)) :
    Selects (action >>= next) := by
  refine yields_bind haction.yields hnext ?_
  intro before value between result after hframe hpost
  refine ⟨profileFrame.trans hframe hpost.1, ?_⟩
  intro hnamed
  exact hpost.2 (hframe.named hnamed)

/-- What the result of the first action is known to be may be used of the second one. -/
theorem selects_bind_when {known : α → Prop} {action : Action Session ε α}
    {next : α → Action Session ε β} (haction : Keeps ProfileFrame action)
    (hknown : Yields action fun _ value _ => known value)
    (hnext : ∀ value, known value → Selects (next value)) : Selects (action >>= next) := by
  intro before result after hrun
  obtain ⟨value, between, hfirst, hsecond⟩ := ok_of_bind hrun
  have hframe := haction.yields _ _ _ hfirst
  have hpost := hnext value (hknown _ _ _ hfirst) _ _ _ hsecond
  refine ⟨profileFrame.trans hframe hpost.1, ?_⟩
  intro hnamed
  exact hpost.2 (hframe.named hnamed)

theorem keepsSelected_bind {action : Action Session ε α} {next : α → Action Session ε β}
    (haction : KeepsSelected action) (hnext : ∀ value, KeepsSelected (next value)) :
    KeepsSelected (action >>= next) := by
  refine yields_bind haction hnext ?_
  intro before value between result after hfirst hsecond
  refine ⟨profileFrame.trans hfirst.1 hsecond.1, ?_⟩
  intro hnamed hselected
  exact hsecond.2 (hfirst.1.named hnamed) (hfirst.2 hnamed hselected)

theorem keepsSelected_foldlM {ι : Type} {step : α → ι → Action Session ε α}
    (hstep : ∀ value item, KeepsSelected (step value item)) (items : List ι) (value : α) :
    KeepsSelected (items.foldlM step value) := by
  induction items generalizing value with
  | nil => exact keepsSelected_of_frame (keeps_pure selectionFrame value)
  | cons item items ih =>
    rw [List.foldlM_cons]
    exact keepsSelected_bind (hstep value item) ih

theorem selects_then {action : Action Session ε α} {next : α → Action Session ε β}
    (haction : Selects action) (hnext : ∀ value, Keeps SelectionFrame (next value)) :
    Selects (action >>= next) := by
  refine yields_bind haction (fun value => (hnext value).yields) ?_
  intro before value between result after hpost hframe
  refine ⟨profileFrame.trans hpost.1 hframe.toProfileFrame, ?_⟩
  intro hnamed
  exact (hpost.2 hnamed).of_selectionFrame hframe

theorem Selects.adaptError {ε' : Type} {action : Action Session ε α} (wrap : ε → ε')
    (haction : Selects action) : Selects (ActionRules.adaptError wrap action) :=
  Yields.adaptError wrap haction

theorem selects_throw (error : ε) : Selects (throw error : Action Session ε α) :=
  yields_throw error _

theorem nextActiveProfile_mem {profiles : List ProfileItem} (hprofiles : profiles ≠ []) :
    ∃ profile ∈ profiles, profile.indexId = nextActiveProfile profiles := by
  unfold nextActiveProfile
  cases hfound : profiles.find? fun profile => profile.port > 0 with
  | some profile => exact ⟨profile, List.mem_of_find?_eq_some hfound, rfl⟩
  | none =>
    obtain ⟨profile, others, rfl⟩ := List.exists_cons_of_ne_nil hprofiles
    exact ⟨profile, List.mem_cons_self, rfl⟩

/-- The step that ends most of the operations finds an active profile whenever there is one. -/
theorem ensureActiveProfile_selects : Selects (ensureActiveProfile : Action Session ε Bool) := by
  intro before value after hrun
  rw [ensureActiveProfile, outcome_bind, outcome_get] at hrun
  dsimp only at hrun
  split at hrun
  · rename_i hactive
    cases hrun
    refine ⟨profileFrame.refl before, fun _ => ⟨?_, fun _ => hactive.2⟩⟩
    obtain ⟨profile, hprofile, _⟩ := (KeyedTable.contains_iff ..).mp hactive.2
    exact ⟨fun hempty => absurd hempty hactive.1, fun hnil => by simp [hnil] at hprofile⟩
  · cases hrun
    refine ⟨⟨rfl, rfl, rfl, id⟩, fun hnamed => ?_⟩
    by_cases hnil : before.database.rows.profiles.rows = []
    · have hlist : before.database.listProfiles = [] :=
        (Store.listProfiles_eq_nil_iff _).mpr hnil
      have hnext : nextActiveProfile before.database.listProfiles = "" := by
        rw [hlist]
        rfl
      exact ⟨⟨fun _ => hnil, fun _ => hnext⟩, fun hactive => absurd hnext hactive⟩
    · have hlist : before.database.listProfiles ≠ [] :=
        fun hempty => hnil ((Store.listProfiles_eq_nil_iff _).mp hempty)
      obtain ⟨profile, hprofile, hnext⟩ := nextActiveProfile_mem hlist
      have hstored := (Store.mem_listProfiles _ _).mp hprofile
      have hactive : nextActiveProfile before.database.listProfiles ≠ "" := by
        rw [← hnext]
        exact (hnamed profile hstored).1
      refine ⟨⟨fun hempty => absurd hempty hactive, fun hempty => absurd hempty hnil⟩, ?_⟩
      intro _
      exact (KeyedTable.contains_iff ..).mpr ⟨profile, hstored, hnext⟩

theorem ensureActiveProfile_keeps :
    Keeps ProfileFrame (ensureActiveProfile : Action Session ε Bool) := by
  intro before
  rw [ensureActiveProfile, outcome_bind, outcome_get]
  dsimp only
  split
  · exact profileFrame.refl before
  · exact ⟨rfl, rfl, rfl, id⟩

/-- An operation that does its work and then makes sure of the active profile. -/
theorem selects_ensure {action : Action Session ε α} {next : α → Action Session ε β}
    (haction : Keeps ProfileFrame action) (hnext : ∀ value, Keeps SelectionFrame (next value)) :
    Selects (action >>= fun value => ensureActiveProfile >>= fun _ => next value) :=
  selects_bind haction fun value => selects_then ensureActiveProfile_selects fun _ => hnext value

section Operations

theorem ensureProfileEx_keeps (indexId : String) :
    Keeps SelectionFrame (ensureProfileEx indexId) := by
  apply keeps_bind selectionFrame (keeps_query selectionFrame _)
  intro found
  cases found with
  | some item => exact keeps_pure selectionFrame _
  | none =>
    exact keeps_bind selectionFrame (keeps_upsertProfileEx _) fun _ => keeps_pure selectionFrame _

theorem setSort_keeps (indexId : String) (sort : Int) :
    Keeps SelectionFrame (setSort indexId sort) :=
  keeps_bind selectionFrame (ensureProfileEx_keeps indexId) fun _ => keeps_upsertProfileEx _

theorem setSorts_keeps (indexIds : List String) : Keeps SelectionFrame (setSorts indexIds) :=
  keeps_forM selectionFrame (fun _ => (setSort_keeps _ _).adaptError _) _

theorem listProfiles_keeps (subscriptionId : Option String) :
    Keeps SelectionFrame
      (ProfileManager.listProfiles subscriptionId : Action Session ε (List ProfileListItem)) :=
  keeps_bind selectionFrame (keeps_get selectionFrame) fun _ => keeps_pure selectionFrame _

theorem moveProfile_keeps (subscriptionId : Option String) (indexId : String) (action : MoveAction)
    (position : Option Int) :
    Keeps SelectionFrame (moveProfile subscriptionId indexId action position) := by
  apply keeps_bind selectionFrame (keeps_query selectionFrame _)
  intro items
  split
  · exact keeps_throw selectionFrame _
  · apply keeps_bind selectionFrame (setSorts_keeps items)
    intro _
    split
    · exact listProfiles_keeps subscriptionId
    · exact keeps_bind selectionFrame ((setSort_keeps _ _).adaptError _) fun _ =>
        listProfiles_keeps subscriptionId

theorem sortProfiles_keeps
    (sortProfilePairs : List (ProfileItem × ProfileExItem) → List (ProfileItem × ProfileExItem))
    (subscriptionId : Option String) :
    Keeps SelectionFrame (sortProfiles sortProfilePairs subscriptionId) := by
  apply keeps_bind selectionFrame (keeps_query selectionFrame _)
  intro items
  exact keeps_bind selectionFrame (setSorts_keeps _) fun _ => listProfiles_keeps subscriptionId

theorem generateProfileId_yields :
    Yields (generateProfileId : Action Session ε String) fun _ id _ => RustText.trim id ≠ "" := by
  intro before id after hrun
  cases hrun
  rw [idText_trim]
  exact idText_ne_empty _

theorem identifyProfile_keeps (profile : ProfileItem) :
    Keeps SelectionFrame (identifyProfile profile) := by
  unfold identifyProfile
  split
  · exact keeps_bind selectionFrame (keeps_draw _) fun _ => keeps_pure selectionFrame _
  · exact keeps_bind selectionFrame (keeps_query selectionFrame _) fun _ =>
      keeps_pure selectionFrame _

theorem identifyProfile_yields (profile : ProfileItem) :
    Yields (identifyProfile profile) fun _ found _ => RustText.trim found.1.indexId ≠ "" := by
  intro before found after hrun
  unfold identifyProfile at hrun
  split at hrun
  · cases hrun
    dsimp only
    rw [idText_trim]
    exact idText_ne_empty _
  · rename_i hid
    cases hrun
    exact hid

theorem profileExFor_keeps (indexId : String) (isNew : Bool) :
    Keeps SelectionFrame (profileExFor indexId isNew) := by
  unfold profileExFor
  split
  · exact keeps_bind selectionFrame (keeps_query selectionFrame _) fun _ =>
      keeps_pure selectionFrame _
  · exact keeps_bind selectionFrame ((ensureProfileEx_keeps indexId).adaptError _) fun _ =>
      keeps_pure selectionFrame _

theorem upsertWithProfileEx_keeps {profile : ProfileItem} (profileEx : ProfileExItem)
    (hid : RustText.trim profile.indexId ≠ "") :
    Keeps ProfileFrame (upsertWithProfileEx (normalizeProfile profile) profileEx) := by
  have htrimmed : RustText.trim (normalizeProfile profile).indexId =
      (normalizeProfile profile).indexId := RustText.trim_trim _
  apply keeps_bind profileFrame (keeps_upsertProfile hid htrimmed)
  intro _
  exact (keeps_upsertProfileEx profileEx).mono fun _ _ hframe => hframe.toProfileFrame

theorem saveProfile_selects (profile : ProfileItem) : Selects (saveProfile profile) := by
  apply selects_bind_when ((identifyProfile_keeps profile).mono fun _ _ h => h.toProfileFrame)
    (identifyProfile_yields profile)
  intro found hid
  apply selects_bind ((profileExFor_keeps _ _).mono fun _ _ h => h.toProfileFrame)
  intro profileEx
  apply selects_ensure ((upsertWithProfileEx_keeps profileEx hid).adaptError _)
  intro _
  exact keeps_bind selectionFrame (keeps_get selectionFrame) fun _ => keeps_pure selectionFrame _

theorem deleteProfiles_selects (indexIds : List String) : Selects (deleteProfiles indexIds) :=
  selects_ensure (keeps_deleteMany indexIds) fun _ => keeps_pure selectionFrame _

theorem copyProfile_keeps (state : List ProfileListItem × Int) (indexId : String) :
    Keeps ProfileFrame (copyProfile state indexId) := by
  apply keeps_bind profileFrame (keeps_query profileFrame _)
  intro found
  cases found with
  | none => exact keeps_pure profileFrame _
  | some source =>
    apply keeps_bind_when profileFrame ((keeps_draw _).mono fun _ _ h => h.toProfileFrame)
      generateProfileId_yields
    intro newId hid
    have hstore (profileEx : ProfileExItem) : Keeps ProfileFrame
        (upsertWithProfileEx
          (normalizeProfile
            { source with
              indexId := newId
              remarks := source.remarks ++ "-clone" })
          profileEx) := upsertWithProfileEx_keeps profileEx hid
    apply keeps_bind profileFrame ((hstore _).adaptError _)
    intro _
    exact keeps_bind profileFrame (keeps_get profileFrame) fun _ => keeps_pure profileFrame _

theorem copyProfiles_selects (indexIds : List String) : Selects (copyProfiles indexIds) := by
  apply selects_bind (keeps_query profileFrame _)
  intro sort
  exact selects_ensure (keeps_foldlM profileFrame copyProfile_keeps indexIds _) fun _ =>
    keeps_pure selectionFrame _

theorem dedupeProfiles_selects (subscriptionId : Option String) (keepOlder : Bool) :
    Selects (ProfileManager.dedupeProfiles subscriptionId keepOlder) := by
  apply selects_bind (keeps_query profileFrame _)
  intro listed
  exact selects_ensure (keeps_deleteMany _) fun _ => keeps_pure selectionFrame _

theorem saveGroupProfile_selects (validate : ProfileItem → List ProfileItem → List String)
    (profile : ProfileItem) : Selects (saveGroupProfile validate profile) := by
  unfold saveGroupProfile
  split
  · apply selects_bind (keeps_query profileFrame _)
    intro profiles
    split
    · exact (saveProfile_selects profile).adaptError _
    · exact selects_throw _
  · exact selects_throw _

def setActiveFound (indexId : String) (found : Option ProfileItem) :
    Action Session ProfileManagerError ProfileListItem :=
  match found with
  | none => throw (.profileNotFound indexId)
  | some profile => do
    let profileEx ← adaptError .database (ensureProfileEx indexId)
    modify fun session => session.setActiveProfile indexId
    let session ← get
    return toListItem session.config profile profileEx

theorem setActive_yields (indexId : String) (profile : ProfileItem) (profileEx : ProfileExItem) :
    Yields (do
      modify fun session => session.setActiveProfile indexId
      let session ← get
      return toListItem session.config profile profileEx :
        Action Session ProfileManagerError ProfileListItem)
      fun before _ after => after = before.setActiveProfile indexId := by
  intro before result after hrun
  cases hrun
  rfl

theorem setActiveFound_yields {indexId : String} (hid : RustText.trim indexId ≠ "")
    (found : Option ProfileItem) :
    Yields (setActiveFound indexId found) fun before _ after =>
      found = before.database.rows.profiles.get indexId →
        ProfileFrame before after ∧ ProfileSelected after.database after.config := by
  cases found with
  | none => exact yields_throw _ _
  | some profile =>
    refine yields_bind ((ensureProfileEx_keeps indexId).adaptError _).yields
      (fun profileEx => setActive_yields indexId profile profileEx) ?_
    rintro before profileEx between result after hframe rfl hfound
    obtain ⟨hstored, rfl⟩ := (KeyedTable.get_eq_some_iff ..).mp hfound.symm
    refine ⟨profileFrame.trans hframe.toProfileFrame ⟨rfl, rfl, rfl, id⟩, ?_⟩
    have hprofile : profile ∈ between.database.rows.profiles.rows := by
      rw [hframe.profiles]
      exact hstored
    have hne : profile.indexId ≠ "" := by
      intro hempty
      apply hid
      rw [hempty]
      rfl
    refine ⟨⟨fun hempty => absurd hempty hne, fun hnil => ?_⟩, fun _ => ?_⟩
    · have hnil : between.database.rows.profiles.rows = [] := hnil
      rw [hnil] at hprofile
      cases hprofile
    · exact KeyedTable.contains_key _ hprofile

theorem setActiveProfile_selects (indexId : String) : Selects (setActiveProfile indexId) := by
  unfold setActiveProfile
  split
  · exact selects_throw _
  · rename_i hid
    refine yields_bind (yields_query _) (fun found => setActiveFound_yields hid found) ?_
    rintro before found between result after ⟨hfound, rfl⟩ hpost
    exact ⟨(hpost hfound).1, fun _ => (hpost hfound).2⟩

end Operations

end ProfileSelection
