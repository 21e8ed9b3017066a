import VoyaVPN.InputRuns
import VoyaVPN.RoutingSelection
import VoyaVPN.SubscriptionSelection

/-! The active profile and the active routing over whole runs: every operation works on a
transaction and a copy of the configuration, and only what it commits is there afterwards. -/
namespace ActiveSelection

open Entities AppConfig ConfigMutation SettingsSave VoyaStore ActionRules ManagerSession
open ProfileManager SubscriptionManager ProfileSelection SubscriptionSelection
open RoutingManager RoutingSelection

/-- What the operations read texts with and check groups by. -/
structure Environment where
  parsers : ImportParsers
  validateGroup : ProfileItem → List ProfileItem → List String

inductive Operation where
  | saveProfile (profile : ProfileItem)
  | deleteProfiles (indexIds : List String)
  | copyProfiles (indexIds : List String)
  | setActiveProfile (indexId : String)
  | moveProfile (subscriptionId : Option String) (indexId : String) (action : MoveAction)
      (position : Option Int)
  | sortProfiles
      (sortProfilePairs : List (ProfileItem × ProfileExItem) → List (ProfileItem × ProfileExItem))
      (subscriptionId : Option String)
  | dedupeProfiles (subscriptionId : Option String) (keepOlder : Bool)
  | saveGroupProfile (profile : ProfileItem)
  | saveSubscription (item : SubItem)
  | addSubscriptionFromUrl (url : String)
  | deleteSubscriptions (ids : List String)
  | importProfilesFromText (text : String) (subscriptionId : Option String)
  | applySubscriptionUpdate (prepared : PreparedSubscriptionUpdate)
  | saveRouting (item : RoutingItem)
  | deleteRoutings (ids : List String)
  | setActiveRouting (id : String)
  | saveRule (routingId : String) (rule : RulesItem)
  | deleteRules (routingId : String) (ruleIds : List String)
  | moveRule (routingId ruleId : String) (action : MoveAction) (position : Option Int)
  | applyConfigTemplate (prepared : PreparedRoutingTemplate)

inductive OperationError where
  | profile (error : ProfileManagerError)
  | group (error : GroupManagerError)
  | subscription (error : SubscriptionManagerError)
  | routing (error : RoutingManagerError)
  | commit (error : DbError)
  deriving DecidableEq, Repr

section Runs

variable (env : Environment)

def performing {ε α : Type} (wrap : ε → OperationError) (action : Action Session ε α) :
    Action Session OperationError PUnit :=
  adaptError wrap (action >>= fun _ => pure ⟨⟩)

def Operation.perform : Operation → Action Session OperationError PUnit
  | .saveProfile profile => performing .profile (ProfileManager.saveProfile profile)
  | .deleteProfiles indexIds => performing .profile (ProfileManager.deleteProfiles indexIds)
  | .copyProfiles indexIds => performing .profile (ProfileManager.copyProfiles indexIds)
  | .setActiveProfile indexId => performing .profile (ProfileManager.setActiveProfile indexId)
  | .moveProfile subscriptionId indexId action position =>
    performing .profile (ProfileManager.moveProfile subscriptionId indexId action position)
  | .sortProfiles sortProfilePairs subscriptionId =>
    performing .profile (ProfileManager.sortProfiles sortProfilePairs subscriptionId)
  | .dedupeProfiles subscriptionId keepOlder =>
    performing .profile (ProfileManager.dedupeProfiles subscriptionId keepOlder)
  | .saveGroupProfile profile =>
    performing .group (ProfileManager.saveGroupProfile env.validateGroup profile)
  | .saveSubscription item => performing .subscription (SubscriptionManager.saveSubscription item)
  | .addSubscriptionFromUrl url =>
    performing .subscription (SubscriptionManager.addSubscriptionFromUrl url)
  | .deleteSubscriptions ids =>
    performing .subscription (SubscriptionManager.deleteSubscriptions ids)
  | .importProfilesFromText text subscriptionId =>
    performing .subscription
      (SubscriptionManager.importProfilesFromText env.parsers text subscriptionId)
  | .applySubscriptionUpdate prepared =>
    performing .subscription (applyPreparedSubscriptionUpdate env.parsers prepared)
  | .saveRouting item => performing .routing (RoutingManager.saveRouting item)
  | .deleteRoutings ids => performing .routing (RoutingManager.deleteRoutings ids)
  | .setActiveRouting id => performing .routing (RoutingManager.setActiveRouting id)
  | .saveRule routingId rule => performing .routing (RoutingManager.saveRule routingId rule)
  | .deleteRules routingId ruleIds =>
    performing .routing (RoutingManager.deleteRules routingId ruleIds)
  | .moveRule routingId ruleId action position =>
    performing .routing (RoutingManager.moveRule routingId ruleId action position)
  | .applyConfigTemplate prepared =>
    performing .routing (applyPreparedConfigTemplate prepared)

structure AppData where
  database : Store
  config : Config

def AppData.begin (data : AppData) (readings : Nat → IdReading) : Session :=
  { database := data.database
    config := data.config
    readings }

/-- The settings and the state are written into the transaction, then it is committed and the
configuration published. -/
def commit (session : Session) : Except DbError AppData := do
  let payload ← validatedPayload (settingsFromAppConfig session.config)
  let database ← Store.updateState (saveSettingsOn session.database payload)
    (stateFromAppConfig session.config)
  return {
    database
    config := session.config }

def mutate (data : AppData) (readings : Nat → IdReading) (operation : Operation) :
    Except OperationError AppData :=
  match outcome (operation.perform env) (data.begin readings) with
  | (.ok _, session) => (commit session).mapError .commit
  | (.error error, _) => .error error

/-- An operation that fails leaves nothing behind. -/
def step (data : AppData) (input : (Nat → IdReading) × Operation) : AppData :=
  (mutate env data input.1 input.2).toOption.getD data

end Runs

structure Sound (store : Store) (config : Config) : Prop where
  named : Named store
  routed : Routed store
  profile : ProfileSelected store config
  routing : RoutingSelected store config

structure Consistent (data : AppData) : Prop where
  sound : Sound data.database data.config
  state : data.database.appState = stateFromAppConfig data.config

structure SelectionHolds (data : AppData) : Prop where
  no_profile_iff : data.config.indexId = "" ↔ data.database.rows.profiles.rows = []
  active_profile : data.config.indexId ≠ "" →
    ∃ profile ∈ data.database.rows.profiles.rows, profile.indexId = data.config.indexId
  active_routing_iff :
    (∃ routing ∈ data.database.rows.routings.rows,
      routing.id = data.config.routingBasicItem.routingIndexId) ↔
        data.database.rows.routings.rows ≠ []

theorem SelectionHolds.of_sound {data : AppData} (h : Sound data.database data.config) :
    SelectionHolds data where
  no_profile_iff := h.profile.1
  active_profile hactive := (KeyedTable.contains_iff ..).mp (h.profile.2 hactive)
  active_routing_iff := by
    constructor
    · rintro ⟨routing, hrouting, _⟩
      exact List.ne_nil_of_mem hrouting
    · intro hsome
      exact (KeyedTable.contains_iff ..).mp (h.routing.some_of_nonempty hsome).1

theorem sound_of_profile {before after : Session} (hframe : ProfileFrame before after)
    (h : Sound before.database before.config)
    (hselected : ProfileSelected after.database after.config) :
    Sound after.database after.config where
  named := hframe.named h.named
  routed := by
    refine ⟨?_, ?_⟩
    · rw [hframe.routings]
      exact h.routed.named
    · rw [hframe.routings, hframe.activeRouting]
      exact h.routed.active
  profile := hselected
  routing := by
    refine ⟨?_, ?_⟩
    · rw [hframe.routings, hframe.activeRouting, hframe.routingConfig]
      exact h.routing.none_of_empty
    · rw [hframe.routings, hframe.activeRouting, hframe.routingConfig]
      exact h.routing.some_of_nonempty

theorem sound_of_routing {before after : Session} (hframe : RoutingFrame before after)
    (h : Sound before.database before.config)
    (hselected : RoutingSelected after.database after.config) :
    Sound after.database after.config where
  named := by
    rw [Named, hframe.profiles]
    exact h.named
  routed := hframe.routed h.routed
  profile := by
    rw [ProfileSelected, hframe.profiles, hframe.indexId]
    exact h.profile
  routing := hselected

section Operations

variable {ε α : Type} (wrap : ε → OperationError)

def KeepsSound (action : Action Session OperationError PUnit) : Prop :=
  Yields action fun before _ after =>
    Sound before.database before.config → Sound after.database after.config

theorem performing_yields {action : Action Session ε α} {post : Session → Session → Prop}
    (haction : Yields action fun before _ after => post before after) :
    Yields (performing wrap action) fun before _ after => post before after := by
  apply Yields.adaptError
  intro before _ after hrun
  obtain ⟨value, between, hfirst, hreturn⟩ := ok_of_bind hrun
  cases hreturn
  exact haction _ _ _ hfirst

theorem keepsSound_of_selected {action : Action Session ε α} (haction : KeepsSelected action) :
    KeepsSound (performing wrap action) := by
  apply performing_yields
  refine haction.mono fun before _ after hpost hsound => ?_
  exact sound_of_profile hpost.1 hsound (hpost.2 hsound.named hsound.profile)

theorem keepsSound_of_routing {action : Action Session ε α} (haction : KeepsRouting action) :
    KeepsSound (performing wrap action) := by
  apply performing_yields
  refine haction.mono fun before _ after hpost hsound => ?_
  exact sound_of_routing hpost.1 hsound (hpost.2 hsound.routed hsound.routing)

theorem perform_keepsSound (env : Environment) (operation : Operation) :
    KeepsSound (operation.perform env) := by
  cases operation with
  | saveProfile profile => exact keepsSound_of_selected _ (saveProfile_selects profile).keeps
  | deleteProfiles indexIds =>
    exact keepsSound_of_selected _ (deleteProfiles_selects indexIds).keeps
  | copyProfiles indexIds => exact keepsSound_of_selected _ (copyProfiles_selects indexIds).keeps
  | setActiveProfile indexId =>
    exact keepsSound_of_selected _ (setActiveProfile_selects indexId).keeps
  | moveProfile subscriptionId indexId action position =>
    exact keepsSound_of_selected _
      (keepsSelected_of_frame (moveProfile_keeps subscriptionId indexId action position))
  | sortProfiles sortProfilePairs subscriptionId =>
    exact keepsSound_of_selected _
      (keepsSelected_of_frame (sortProfiles_keeps sortProfilePairs subscriptionId))
  | dedupeProfiles subscriptionId keepOlder =>
    exact keepsSound_of_selected _ (dedupeProfiles_selects subscriptionId keepOlder).keeps
  | saveGroupProfile profile =>
    exact keepsSound_of_selected _ (saveGroupProfile_selects env.validateGroup profile).keeps
  | saveSubscription item =>
    exact keepsSound_of_selected _ (keepsSelected_of_frame (saveSubscription_keeps item))
  | addSubscriptionFromUrl url =>
    exact keepsSound_of_selected _ (keepsSelected_of_frame (addSubscriptionFromUrl_keeps url))
  | deleteSubscriptions ids =>
    exact keepsSound_of_selected _ (deleteSubscriptions_selects ids).keeps
  | importProfilesFromText text subscriptionId =>
    exact keepsSound_of_selected _
      (importProfilesFromText_selects env.parsers text subscriptionId).keeps
  | applySubscriptionUpdate prepared =>
    exact keepsSound_of_selected _ (applyPreparedSubscriptionUpdate_keeps env.parsers prepared)
  | saveRouting item => exact keepsSound_of_routing _ (saveRouting_selects item).keeps
  | deleteRoutings ids => exact keepsSound_of_routing _ (deleteRoutings_selects ids).keeps
  | setActiveRouting id => exact keepsSound_of_routing _ (setActiveRouting_selects id).keeps
  | saveRule routingId rule => exact keepsSound_of_routing _ (saveRule_keeps routingId rule)
  | deleteRules routingId ruleIds =>
    exact keepsSound_of_routing _ (deleteRules_keeps routingId ruleIds)
  | moveRule routingId ruleId action position =>
    exact keepsSound_of_routing _ (moveRule_keeps routingId ruleId action position)
  | applyConfigTemplate prepared =>
    exact keepsSound_of_routing _ (applyPreparedConfigTemplate_selects prepared).keeps

end Operations

theorem activeRouting_ne_empty {store : Store} {config : Config} (h : Sound store config)
    (hsome : store.rows.routings.rows ≠ []) : config.routingBasicItem.routingIndexId ≠ "" := by
  obtain ⟨routing, hrouting, hid⟩ :=
    (KeyedTable.contains_iff ..).mp (h.routing.some_of_nonempty hsome).1
  rw [← hid]
  exact h.routed.named routing hrouting

theorem commit_of_sound {session : Session} (h : Sound session.database session.config) :
    ∃ data, commit session = .ok data ∧ data.config = session.config ∧
      data.database.rows = session.database.rows ∧
      data.database.appState = stateFromAppConfig session.config := by
  have hprofile : (stateFromAppConfig session.config).activeProfileId.all
      session.database.rows.profiles.contains = true := by
    by_cases hactive : session.config.indexId = ""
    · simp [stateFromAppConfig, hactive]
    · simpa [stateFromAppConfig, hactive] using h.profile.2 hactive
  have hrouting : (stateFromAppConfig session.config).activeRoutingId.all
      session.database.rows.routings.contains = true := by
    by_cases hsome : session.database.rows.routings.rows = []
    · simp [stateFromAppConfig, (h.routing.none_of_empty hsome).1]
    · simpa [stateFromAppConfig, activeRouting_ne_empty h hsome] using
        (h.routing.some_of_nonempty hsome).1
  refine ⟨⟨saveStateOn (saveSettingsOn session.database (settingsFromAppConfig session.config))
    (stateFromAppConfig session.config), session.config⟩, ?_, rfl, rfl, rfl⟩
  rw [commit, validatedPayload_settingsFromAppConfig]
  have hupdate :
      Store.updateState
        (saveSettingsOn session.database (settingsFromAppConfig session.config))
        (stateFromAppConfig session.config) =
          .ok (saveStateOn (saveSettingsOn session.database
            (settingsFromAppConfig session.config)) (stateFromAppConfig session.config)) :=
    if_pos ⟨hprofile, hrouting⟩
  simp only [bind, Except.bind, hupdate]
  rfl

theorem consistent_of_commit {session : Session} {data : AppData}
    (h : Sound session.database session.config) (hconfig : data.config = session.config)
    (hrows : data.database.rows = session.database.rows)
    (hstate : data.database.appState = stateFromAppConfig session.config) : Consistent data := by
  have hactive : data.database.appState.activeRoutingId =
      if session.config.routingBasicItem.routingIndexId ≠ "" then
        some session.config.routingBasicItem.routingIndexId else none := by
    rw [hstate]
    rfl
  refine ⟨⟨?_, ⟨?_, ?_⟩, ?_, ⟨?_, ?_⟩⟩, by rw [hstate, hconfig]⟩
  · rw [Named, hrows]
    exact h.named
  · rw [hrows]
    exact h.routed.named
  · intro id hid
    rw [hactive] at hid
    rw [hrows]
    split at hid
    · rename_i hne
      cases hid
      by_cases hsome : session.database.rows.routings.rows = []
      · exact absurd (h.routing.none_of_empty hsome).1 hne
      · exact (h.routing.some_of_nonempty hsome).1
    · cases hid
  · rw [ProfileSelected, hrows, hconfig]
    exact h.profile
  · intro hnil
    rw [hrows] at hnil
    have hempty := (h.routing.none_of_empty hnil).1
    rw [hactive, hconfig, hempty]
    exact ⟨rfl, rfl⟩
  · intro hsome
    rw [hrows] at hsome ⊢
    rw [hactive, hconfig, if_pos (activeRouting_ne_empty h hsome)]
    exact ⟨(h.routing.some_of_nonempty hsome).1, rfl⟩

section Selections

variable (env : Environment)

/-- A mutation that succeeded can be committed, and what it commits is consistent. -/
theorem commit_of_perform {data : AppData} (hdata : Consistent data) {readings : Nat → IdReading}
    {operation : Operation} {result : PUnit} {session : Session}
    (hrun : outcome (operation.perform env) (data.begin readings) = (.ok result, session)) :
    ∃ committed, commit session = .ok committed ∧ Consistent committed := by
  have hsound : Sound session.database session.config :=
    perform_keepsSound env operation _ _ _ hrun hdata.sound
  obtain ⟨committed, hcommit, hconfig, hrows, hstate⟩ := commit_of_sound hsound
  exact ⟨committed, hcommit, consistent_of_commit hsound hconfig hrows hstate⟩

theorem step_consistent (data : AppData) (input : (Nat → IdReading) × Operation)
    (hdata : Consistent data) : Consistent (step env data input) := by
  unfold step mutate
  split
  · rename_i result session hrun
    obtain ⟨committed, hcommit, hconsistent⟩ := commit_of_perform env hdata hrun
    rw [hcommit]
    exact hconsistent
  · exact hdata

/-- Whatever has been done since a consistent store: the active profile and the active routing
are stored ones whenever there are any, and the next operation that succeeds is committed. -/
theorem active_selection_of_run {start : AppData} (hstart : Consistent start)
    (inputs : List ((Nat → IdReading) × Operation)) :
    SelectionHolds (inputs.foldl (step env) start) ∧
      ∀ (readings : Nat → IdReading) (operation : Operation) (result : PUnit) (session : Session),
        outcome (operation.perform env) ((inputs.foldl (step env) start).begin readings) =
          (.ok result, session) →
        ∃ committed, commit session = .ok committed ∧ SelectionHolds committed := by
  have hrun : Consistent (inputs.foldl (step env) start) :=
    InputRuns.invariant_of_steps (step env) (step_consistent env) inputs hstart
  refine ⟨SelectionHolds.of_sound hrun.sound, ?_⟩
  intro readings operation result session hperform
  obtain ⟨committed, hcommit, hconsistent⟩ := commit_of_perform env hrun hperform
  exact ⟨committed, hcommit, SelectionHolds.of_sound hconsistent.sound⟩

theorem consistent_fresh : Consistent { database := { rows := {} }, config := {} } := by
  refine ⟨⟨?_, ⟨?_, ?_⟩, ⟨⟨fun _ => rfl, fun _ => rfl⟩, ?_⟩, ⟨fun _ => ⟨rfl, rfl⟩, ?_⟩⟩, rfl⟩
  · intro profile hprofile
    cases hprofile
  · intro routing hrouting
    cases hrouting
  · intro id hid
    cases hid
  · intro hactive
    exact absurd rfl hactive
  · intro hsome
    exact absurd rfl hsome

end Selections

def refusingParsers : ImportParsers where
  decodeBase64Payload _ := none
  countDiscardedNodeOverrides _ := 0
  parseShareLink _ := .error "unsupported protocol"
  decodeVoyaBundle _ := .error "invalid base64 payload"
  parseSsSip008 _ := .error "invalid JSON"
  parseWireguardConfig _ := .error "missing interface"
  parseFullCustomConfig _ := .error "unknown format"
  compileRegex _ := .error "unsupported"

/-- Two profiles are saved in a new installation and the first one is deleted. -/
theorem active_selection_of_three_operations :
    SelectionHolds
      (([(fun drawn => ⟨drawn, drawn, 1⟩, .saveProfile { indexId := "first" }),
        (fun drawn => ⟨drawn, drawn, 1⟩, .saveProfile { indexId := " second " }),
        (fun drawn => ⟨drawn, drawn, 1⟩, .deleteProfiles ["first"])] :
          List ((Nat → IdReading) × Operation)).foldl
        (step { parsers := refusingParsers, validateGroup := fun _ _ => [] })
        { database := { rows := {} }, config := {} }) ∧
    ((([(fun drawn => ⟨drawn, drawn, 1⟩, .saveProfile { indexId := "first" }),
        (fun drawn => ⟨drawn, drawn, 1⟩, .saveProfile { indexId := " second " }),
        (fun drawn => ⟨drawn, drawn, 1⟩, .deleteProfiles ["first"])] :
          List ((Nat → IdReading) × Operation)).foldl
        (step { parsers := refusingParsers, validateGroup := fun _ _ => [] })
        { database := { rows := {} }, config := {} }).config.indexId = "second") :=
  ⟨(active_selection_of_run { parsers := refusingParsers, validateGroup := fun _ _ => [] }
    consistent_fresh _).1, by decide⟩

end ActiveSelection
