import VoyaVPN.RoutingManager
import VoyaVPN.ProfileSelection

/-! The active routing after the operations of the routing manager. -/
namespace RoutingSelection

open Entities AppConfig ConfigMutation VoyaStore ActionRules ManagerSession RoutingManager
open ProfileSelection (keeps_query yields_query keeps_idOrNew)
open ProfileManager (MoveAction)

variable {ε α β : Type}

/-- Every stored routing has an id, and the active one is stored. -/
structure Routed (store : Store) : Prop where
  named : ∀ item ∈ store.rows.routings.rows, item.id ≠ ""
  active : ∀ id, store.appState.activeRoutingId = some id → store.rows.routings.contains id = true

/-- The store and the configuration have the same active routing, a stored one when there is
one. -/
structure RoutingSelected (store : Store) (config : Config) : Prop where
  none_of_empty : store.rows.routings.rows = [] →
    config.routingBasicItem.routingIndexId = "" ∧ store.appState.activeRoutingId = none
  some_of_nonempty : store.rows.routings.rows ≠ [] →
    store.rows.routings.contains config.routingBasicItem.routingIndexId = true ∧
      store.appState.activeRoutingId = some config.routingBasicItem.routingIndexId

structure RoutingFrame (before after : Session) : Prop where
  indexId : after.config.indexId = before.config.indexId
  profiles : after.database.rows.profiles = before.database.rows.profiles
  routed : Routed before.database → Routed after.database

structure Untouched (before after : Session) : Prop where
  database : after.database = before.database
  config : after.config = before.config

theorem routingFrame : Frame RoutingFrame where
  refl _ := ⟨rfl, rfl, id⟩
  trans hfirst hsecond :=
    ⟨hsecond.indexId.trans hfirst.indexId, hsecond.profiles.trans hfirst.profiles,
      fun hrouted => hsecond.routed (hfirst.routed hrouted)⟩

theorem untouched : Frame Untouched where
  refl _ := ⟨rfl, rfl⟩
  trans hfirst hsecond :=
    ⟨hsecond.database.trans hfirst.database, hsecond.config.trans hfirst.config⟩

theorem Untouched.frame {before after : Session} (h : Untouched before after) :
    RoutingFrame before after := by
  refine ⟨by rw [h.config], by rw [h.database], ?_⟩
  rw [h.database]
  exact id

theorem keeps_frame {action : Action Session ε α} (haction : Keeps Untouched action) :
    Keeps RoutingFrame action :=
  haction.mono fun _ _ h => h.frame

def SelectsRouting (action : Action Session ε α) : Prop :=
  Yields action fun before _ after =>
    RoutingFrame before after ∧
      (Routed before.database → RoutingSelected after.database after.config)

def KeepsRouting (action : Action Session ε α) : Prop :=
  Yields action fun before _ after =>
    RoutingFrame before after ∧ (Routed before.database →
      RoutingSelected before.database before.config → RoutingSelected after.database after.config)

theorem SelectsRouting.keeps {action : Action Session ε α} (haction : SelectsRouting action) :
    KeepsRouting action :=
  haction.mono fun _ _ _ hpost => ⟨hpost.1, fun hrouted _ => hpost.2 hrouted⟩

theorem selectsRouting_throw (error : ε) : SelectsRouting (throw error : Action Session ε α) :=
  yields_throw error _

theorem selectsRouting_bind_when {known : α → Prop} {action : Action Session ε α}
    {next : α → Action Session ε β} (haction : Keeps RoutingFrame action)
    (hknown : Yields action fun _ value _ => known value)
    (hnext : ∀ value, known value → SelectsRouting (next value)) :
    SelectsRouting (action >>= next) := by
  intro before result after hrun
  obtain ⟨value, between, hfirst, hsecond⟩ := ok_of_bind hrun
  have hframe := haction.outcome_frame hfirst
  have hpost := hnext value (hknown _ _ _ hfirst) _ _ _ hsecond
  refine ⟨routingFrame.trans hframe hpost.1, ?_⟩
  intro hrouted
  exact hpost.2 (hframe.routed hrouted)

theorem selectsRouting_bind {action : Action Session ε α} {next : α → Action Session ε β}
    (haction : Keeps RoutingFrame action) (hnext : ∀ value, SelectsRouting (next value)) :
    SelectsRouting (action >>= next) :=
  selectsRouting_bind_when haction (fun _ _ _ _ => trivial) fun value (_ : True) => hnext value

theorem RoutingSelected.of_untouched {before after : Session}
    (hselected : RoutingSelected before.database before.config) (h : Untouched before after) :
    RoutingSelected after.database after.config := by
  rw [h.database, h.config]
  exact hselected

theorem selectsRouting_then {action : Action Session ε α} {next : α → Action Session ε β}
    (haction : SelectsRouting action) (hnext : ∀ value, Keeps Untouched (next value)) :
    SelectsRouting (action >>= next) := by
  refine yields_bind haction (fun value => (hnext value).yields) ?_
  intro before value between result after hpost hframe
  refine ⟨routingFrame.trans hpost.1 hframe.frame, ?_⟩
  intro hrouted
  exact (hpost.2 hrouted).of_untouched hframe

section Items

theorem draw_untouched (text : IdReading → String) :
    Keeps Untouched (draw text : Action Session ε String) :=
  fun _ => ⟨rfl, rfl⟩

theorem normalizeRule_untouched (rule : RulesItem) :
    Keeps Untouched (normalizeRule rule : Action Session ε RulesItem) := by
  unfold normalizeRule
  split
  · exact keeps_bind untouched (draw_untouched _) fun _ => keeps_pure untouched _
  · exact keeps_pure untouched _

theorem normalizeRoutingItem_untouched (item : RoutingItem) :
    Keeps Untouched (normalizeRoutingItem item : Action Session ε RoutingItem) := by
  apply keeps_bind untouched (keeps_idOrNew untouched _ _ (draw_untouched _))
  intro id
  refine keeps_bind untouched (keeps_foldlM untouched (fun rules rule => ?_) _ _) fun _ =>
    keeps_pure untouched _
  exact keeps_bind untouched (normalizeRule_untouched rule) fun _ => keeps_pure untouched _

theorem millisText_ne_empty (tag : String) (reading : IdReading) : millisText tag reading ≠ "" := by
  intro hempty
  have hlength := congrArg (fun text => text.toList.length) hempty
  simp [millisText] at hlength

theorem trim_empty : RustText.trim "" = "" := rfl

theorem ne_empty_of_trim {text : String} (h : RustText.trim text ≠ "") : text ≠ "" := by
  rintro rfl
  exact h trim_empty

theorem normalizeRoutingItem_yields (item : RoutingItem) :
    Yields (normalizeRoutingItem item : Action Session ε RoutingItem) fun _ normal _ =>
      normal.id ≠ "" ∧ (RustText.trim item.id ≠ "" → normal.id = item.id) := by
  intro before normal after hrun
  obtain ⟨id, between, hid, hrest⟩ := ok_of_bind hrun
  obtain ⟨rules, ruled, hrules, hrest⟩ := ok_of_bind hrest
  cases hrest
  by_cases hblank : RustText.trim item.id = ""
  · rw [idOrNew, if_pos (by simpa using hblank)] at hid
    cases hid
    exact ⟨millisText_ne_empty _ _, fun h => absurd hblank h⟩
  · rw [idOrNew, if_neg (by simpa using hblank)] at hid
    cases hid
    exact ⟨ne_empty_of_trim hblank, fun _ => rfl⟩

theorem upsertRouting_frame {session : Session} {item : RoutingItem}
    (hid : Routed session.database → item.id ≠ "") :
    RoutingFrame session (session.setDatabase (session.database.upsertRouting item)) := by
  refine ⟨rfl, rfl, fun hrouted => ⟨?_, ?_⟩⟩
  · intro row hrow
    rcases (KeyedTable.mem_upsert ..).mp hrow with rfl | ⟨hold, _⟩
    · exact hid hrouted
    · exact hrouted.named row hold
  · intro id hactive
    exact (KeyedTable.contains_upsert ..).mpr (Or.inr (hrouted.active id hactive))

theorem keeps_upsertRouting {item : RoutingItem} (hid : item.id ≠ "") :
    Keeps RoutingFrame
      (execute fun store => store.upsertRouting item : Action Session ε PUnit) :=
  keeps_modify fun _ => upsertRouting_frame fun _ => hid

theorem outcome_setActiveInStore (id : String) (before : Session) :
    outcome (setActiveInStore id : Action Session ε Bool) before =
      (.ok (before.database.setActiveRouting id).1,
        before.setDatabase (before.database.setActiveRouting id).2) := rfl

theorem setActiveInStore_yields (id : String) :
    Yields (setActiveInStore id : Action Session ε Bool) fun before found after =>
      found = before.database.rows.routings.contains id ∧ after.config = before.config ∧
        after.database.rows = before.database.rows ∧
        after.database.appState.activeRoutingId =
          if before.database.rows.routings.contains id then some id
          else before.database.appState.activeRoutingId := by
  intro before found after hrun
  rw [outcome_setActiveInStore] at hrun
  cases hrun
  by_cases hstored : before.database.rows.routings.contains id = true
  · simp [Store.setActiveRouting, Session.setDatabase, hstored]
  · simp [Store.setActiveRouting, Session.setDatabase, hstored]

theorem setActiveInStore_keeps (id : String) :
    Keeps RoutingFrame (setActiveInStore id : Action Session ε Bool) := by
  intro before
  rcases hrun : outcome (setActiveInStore id : Action Session ε Bool) before with ⟨_ | found, after⟩
  · cases hrun
  · obtain ⟨-, hconfig, hrows, hactive⟩ := setActiveInStore_yields id _ _ _ hrun
    dsimp only
    refine ⟨by rw [hconfig], by rw [hrows], fun hrouted => ⟨?_, ?_⟩⟩
    · rw [hrows]
      exact hrouted.named
    · intro other hother
      rw [hactive] at hother
      rw [hrows]
      split at hother
      · rename_i hstored
        cases hother
        exact hstored
      · exact hrouted.active other hother

theorem makeActive_keeps (id : String) :
    Keeps RoutingFrame (makeActive id : Action Session ε PUnit) :=
  keeps_bind routingFrame (setActiveInStore_keeps id) fun _ =>
    keeps_modify fun _ => ⟨rfl, rfl, fun hrouted => hrouted⟩

theorem selected_of_active {store : Store} {config : Config}
    (hstored : store.rows.routings.contains config.routingBasicItem.routingIndexId = true)
    (hactive : store.appState.activeRoutingId = some config.routingBasicItem.routingIndexId) :
    RoutingSelected store config := by
  refine ⟨fun hnil => ?_, fun _ => ⟨hstored, hactive⟩⟩
  obtain ⟨row, hrow, _⟩ := (KeyedTable.contains_iff ..).mp hstored
  rw [hnil] at hrow
  cases hrow

theorem makeActive_yields (id : String) :
    Yields (makeActive id : Action Session ε PUnit) fun before _ after =>
      before.database.rows.routings.contains id = true →
        RoutingSelected after.database after.config := by
  intro before result after hrun hstored
  obtain ⟨found, between, hset, hrest⟩ := ok_of_bind hrun
  obtain ⟨-, hconfig, hrows, hactive⟩ := setActiveInStore_yields id _ _ _ hset
  cases hrest
  apply selected_of_active
  · have hcontains : between.database.rows.routings.contains id = true := by
      rw [hrows]
      exact hstored
    exact hcontains
  · rw [if_pos hstored] at hactive
    exact hactive

end Items

theorem activeRouting_eq_some {store : Store} {item : RoutingItem}
    (hactive : store.activeRouting = some item) :
    store.appState.activeRoutingId = some item.id ∧
      store.rows.routings.contains item.id = true := by
  rw [Store.activeRouting, Option.bind_eq_some_iff] at hactive
  obtain ⟨id, hid, hget⟩ := hactive
  obtain ⟨row, hrow, rfl, rfl⟩ := (Store.getRouting_eq_some_iff ..).mp hget
  have hcontains := store.rows.routings.contains_key hrow
  exact ⟨hid, hcontains⟩

theorem activeRouting_eq_none {store : Store} (hrouted : Routed store)
    (hactive : store.activeRouting = none) : store.appState.activeRoutingId = none := by
  cases hid : store.appState.activeRoutingId with
  | none => rfl
  | some id =>
    obtain ⟨row, hrow, hkey⟩ := (KeyedTable.contains_iff ..).mp (hrouted.active id hid)
    have hget : store.getRouting id = some (store.withActive row) :=
      (Store.getRouting_eq_some_iff ..).mpr ⟨row, hrow, hkey, rfl⟩
    rw [Store.activeRouting, hid, Option.bind_some, hget] at hactive
    cases hactive

theorem firstRouting_stored {store : Store} {item : RoutingItem}
    (hfirst : store.firstRouting = some item) : store.rows.routings.contains item.id = true := by
  have hitem : item ∈ store.listRoutings := List.mem_of_mem_head? hfirst
  obtain ⟨row, hrow, rfl⟩ := (Store.mem_listRoutings ..).mp hitem
  have hcontains := store.rows.routings.contains_key hrow
  exact hcontains

theorem replacementRouting_stored {session : Session} {item : RoutingItem}
    (hreplacement : replacementRouting session = some item) :
    session.database.rows.routings.contains item.id = true := by
  rw [replacementRouting, Option.or_eq_some_iff] at hreplacement
  rcases hreplacement with hconfigured | ⟨_, hfirst⟩
  · split at hconfigured
    · cases hconfigured
    · obtain ⟨row, hrow, _, rfl⟩ := (Store.getRouting_eq_some_iff ..).mp hconfigured
      have hcontains := session.database.rows.routings.contains_key hrow
      exact hcontains
  · exact firstRouting_stored hfirst

theorem replacementRouting_none {session : Session}
    (hreplacement : replacementRouting session = none) :
    session.database.rows.routings.rows = [] := by
  rw [replacementRouting, Option.or_eq_none_iff] at hreplacement
  have hlist : session.database.listRoutings = [] :=
    List.head?_eq_none_iff.mp hreplacement.2
  exact (Store.listRoutings_eq_nil_iff _).mp hlist

/-- The step that ends most of the operations finds an active routing whenever there is one. -/
theorem ensureActiveRouting_selects :
    SelectsRouting (ensureActiveRouting : Action Session ε (Option RoutingItem)) := by
  intro before value after hrun
  rw [ensureActiveRouting, outcome_bind, outcome_get] at hrun
  dsimp only at hrun
  split at hrun
  · rename_i active hactive
    cases hrun
    obtain ⟨hid, hstored⟩ := activeRouting_eq_some hactive
    exact ⟨⟨rfl, rfl, fun hrouted => hrouted⟩, fun _ => selected_of_active hstored hid⟩
  · rename_i hmissing
    split at hrun
    · rename_i item hreplacement
      obtain ⟨_, between, hmade, hrest⟩ := ok_of_bind hrun
      cases hrest
      refine ⟨(makeActive_keeps item.id).outcome_frame hmade, fun _ => ?_⟩
      exact makeActive_yields item.id _ _ _ hmade (replacementRouting_stored hreplacement)
    · rename_i hreplacement
      have hnil := replacementRouting_none hreplacement
      cases hrun
      refine ⟨⟨rfl, rfl, fun hrouted => hrouted⟩, fun hrouted => ⟨fun _ => ⟨rfl, ?_⟩, ?_⟩⟩
      · exact activeRouting_eq_none hrouted hmissing
      · intro hsome
        exact absurd hnil hsome

section Operations

theorem storedRouting_untouched (id : String) : Keeps Untouched (storedRouting id) := by
  apply keeps_bind untouched (keeps_query untouched _)
  intro found
  cases found with
  | some item => exact keeps_pure untouched _
  | none => exact keeps_throw untouched _

theorem storedRouting_yields (id : String) :
    Yields (storedRouting id) fun before item after =>
      after = before ∧ item.id = id ∧ before.database.rows.routings.contains id = true := by
  intro before item after hrun
  obtain ⟨found, between, hread, hrest⟩ := ok_of_bind hrun
  obtain ⟨rfl, rfl⟩ := yields_query _ _ _ _ hread
  split at hrest
  · rename_i row hrow
    cases hrest
    obtain ⟨stored, hstored, rfl, rfl⟩ := (Store.getRouting_eq_some_iff ..).mp hrow
    exact ⟨rfl, rfl, (KeyedTable.contains_iff ..).mpr ⟨stored, hstored, rfl⟩⟩
  · cases hrest

theorem activateWhen_keeps (should : Bool) (id : String) :
    Keeps RoutingFrame (activateWhen should id : Action Session ε PUnit) := by
  unfold activateWhen
  split
  · exact makeActive_keeps id
  · exact keeps_pure routingFrame _

theorem saveRouting_selects (item : RoutingItem) : SelectsRouting (saveRouting item) := by
  apply selectsRouting_bind (keeps_query routingFrame _)
  intro activeId
  apply selectsRouting_bind
    (keeps_frame (keeps_idOrNew untouched _ _ (draw_untouched _)))
  intro id
  apply selectsRouting_bind (keeps_query routingFrame _)
  intro stored
  apply selectsRouting_bind_when (keeps_frame (normalizeRoutingItem_untouched _))
    ((normalizeRoutingItem_yields _).mono fun _ _ _ h => h.1)
  intro normal hid
  apply selectsRouting_bind (keeps_query routingFrame _)
  intro maxSort
  dsimp only
  refine selectsRouting_bind (keeps_upsertRouting ?_) fun _ => ?_
  · split
    · exact hid
    · exact hid
  · apply selectsRouting_bind (activateWhen_keeps _ _)
    intro _
    exact selectsRouting_then ensureActiveRouting_selects fun _ => storedRouting_untouched _

theorem deleteRouting_frame (session : Session) (id : String) :
    RoutingFrame session (session.setDatabase (session.database.deleteRouting id)) := by
  refine ⟨rfl, rfl, fun hrouted => ⟨?_, ?_⟩⟩
  · intro row hrow
    exact hrouted.named row ((KeyedTable.mem_remove ..).mp hrow).1
  · intro other hother
    have hcases : session.database.appState.activeRoutingId = some other ∧ other ≠ id := by
      simp only [Session.setDatabase, Store.deleteRouting] at hother
      split at hother
      · cases hother
      · rename_i hkept
        refine ⟨hother, ?_⟩
        rintro rfl
        exact hkept ⟨hother, hrouted.active other hother⟩
    obtain ⟨row, hrow, hkey⟩ := (KeyedTable.contains_iff ..).mp (hrouted.active other hcases.1)
    refine (KeyedTable.contains_iff ..).mpr ⟨row, ?_, hkey⟩
    refine (KeyedTable.mem_remove ..).mpr ⟨hrow, ?_⟩
    rw [hkey]
    exact beq_false_of_ne hcases.2

theorem deleteRoutings_selects (ids : List String) : SelectsRouting (deleteRoutings ids) := by
  refine selectsRouting_bind (keeps_foldlM routingFrame (fun deleted id => ?_) _ _)
    fun deleted => ?_
  · apply keeps_bind routingFrame (keeps_query routingFrame _)
    intro stored
    refine keeps_bind routingFrame (keeps_modify fun session => ?_) fun _ =>
      keeps_pure routingFrame _
    exact deleteRouting_frame session id
  · exact selectsRouting_then ensureActiveRouting_selects fun _ => keeps_pure untouched _

theorem setActiveRouting_selects (id : String) : SelectsRouting (setActiveRouting id) := by
  unfold setActiveRouting
  split
  · exact selectsRouting_throw _
  · intro before value after hrun
    obtain ⟨found, between, hset, hrest⟩ := ok_of_bind hrun
    have hframe := (setActiveInStore_keeps id).outcome_frame hset
    obtain ⟨hfound, -, hrows, hactive⟩ := setActiveInStore_yields id _ _ _ hset
    split at hrest
    · rename_i hstored
      obtain ⟨_, changed, hmodify, hread⟩ := ok_of_bind hrest
      obtain ⟨rfl, -, -⟩ := storedRouting_yields _ _ _ _ hread
      cases hmodify
      rw [hfound] at hstored
      rw [if_pos hstored] at hactive
      refine ⟨routingFrame.trans hframe ⟨rfl, rfl, fun hrouted => hrouted⟩, fun _ => ?_⟩
      apply selected_of_active _ hactive
      have hcontains : between.database.rows.routings.contains id = true := by
        rw [hrows]
        exact hstored
      exact hcontains
    · cases hrest

theorem loadRouting_yields (id : String) :
    Yields (loadRouting id) fun before item after =>
      after = before ∧ RustText.trim item.id ≠ "" ∧
        before.database.rows.routings.contains item.id = true := by
  intro before item after hrun
  unfold loadRouting at hrun
  split at hrun
  · cases hrun
  · rename_i hid
    obtain ⟨rfl, rfl, hstored⟩ := storedRouting_yields _ _ _ _ hrun
    exact ⟨rfl, hid, hstored⟩

/-- A change of a stored routing that keeps its id does not change which one is active. -/
theorem selected_upsert {session : Session} {item : RoutingItem}
    (hselected : RoutingSelected session.database session.config)
    (hstored : session.database.rows.routings.contains item.id = true) :
    RoutingSelected (session.database.upsertRouting item) session.config := by
  obtain ⟨row, hrow, _⟩ := (KeyedTable.contains_iff ..).mp hstored
  obtain ⟨hcontains, hactive⟩ := hselected.some_of_nonempty (List.ne_nil_of_mem hrow)
  have hkept : (session.database.upsertRouting item).appState.activeRoutingId =
      some session.config.routingBasicItem.routingIndexId := hactive
  exact selected_of_active ((KeyedTable.contains_upsert ..).mpr (Or.inr hcontains)) hkept

theorem storeRules_yields {routing : RoutingItem} (hid : RustText.trim routing.id ≠ "")
    (ruleSet : List RulesItem) :
    Yields (storeRules routing ruleSet) fun before _ after =>
      before.database.rows.routings.contains routing.id = true → RoutingFrame before after ∧
        (RoutingSelected before.database before.config →
          RoutingSelected after.database after.config) := by
  intro before value after hrun hstored
  obtain ⟨normal, between, hnormal, hrest⟩ := ok_of_bind hrun
  have hsame := (normalizeRoutingItem_untouched _).outcome_frame hnormal
  obtain ⟨hnonempty, hkept⟩ := normalizeRoutingItem_yields _ _ _ _ hnormal
  cases hrest
  refine ⟨routingFrame.trans hsame.frame (upsertRouting_frame fun _ => hnonempty), ?_⟩
  intro hselected
  apply selected_upsert (hselected.of_untouched hsame)
  rw [hkept hid, hsame.database]
  exact hstored

/-- An operation that reads a stored routing and then stores it with other rules. -/
theorem keepsRouting_of_load {id : String}
    {next : RoutingItem → Action Session RoutingManagerError α}
    (hnext : ∀ routing, RustText.trim routing.id ≠ "" →
      Yields (next routing) fun before _ after =>
        before.database.rows.routings.contains routing.id = true → RoutingFrame before after ∧
          (RoutingSelected before.database before.config →
            RoutingSelected after.database after.config)) :
    KeepsRouting (loadRouting id >>= next) := by
  intro before value after hrun
  obtain ⟨routing, between, hload, hrest⟩ := ok_of_bind hrun
  obtain ⟨rfl, hid, hstored⟩ := loadRouting_yields _ _ _ _ hload
  obtain ⟨hframe, hselected⟩ := hnext routing hid _ _ _ hrest hstored
  exact ⟨hframe, fun _ => hselected⟩

theorem saveRule_keeps (routingId : String) (rule : RulesItem) :
    KeepsRouting (saveRule routingId rule) := by
  apply keepsRouting_of_load
  intro routing hid before value after hrun hstored
  obtain ⟨normal, between, hnormal, hrest⟩ := ok_of_bind hrun
  have hsame := (normalizeRule_untouched rule).outcome_frame hnormal
  rw [← hsame.database] at hstored
  obtain ⟨hframe, hselected⟩ := storeRules_yields hid _ _ _ _ hrest hstored
  refine ⟨routingFrame.trans hsame.frame hframe, ?_⟩
  intro hbefore
  exact hselected (hbefore.of_untouched hsame)

theorem deleteRules_keeps (routingId : String) (ruleIds : List String) :
    KeepsRouting (deleteRules routingId ruleIds) := by
  apply keepsRouting_of_load
  intro routing hid
  dsimp only
  split
  · split
    · exact yields_throw _ _
    · exact storeRules_yields hid _
  · exact storeRules_yields hid _

theorem moveRule_keeps (routingId ruleId : String) (action : MoveAction) (position : Option Int) :
    KeepsRouting (moveRule routingId ruleId action position) := by
  apply keepsRouting_of_load
  intro routing hid
  split
  · exact yields_throw _ _
  · dsimp only
    split
    · exact yields_throw _ _
    · split
      · exact storeRules_yields hid _
      · exact storeRules_yields hid _

theorem applyTemplateItem_keeps (state : List String × Int) (item : RoutingItem) :
    Keeps RoutingFrame (applyTemplateItem state item) := by
  apply keeps_bind_when routingFrame (keeps_frame (normalizeRoutingItem_untouched _))
    ((normalizeRoutingItem_yields _).mono fun _ _ _ h => h.1)
  intro normal hid
  exact keeps_bind routingFrame (keeps_upsertRouting hid) fun _ => keeps_pure routingFrame _

def IdsStored (state : List String × Int) (session : Session) : Prop :=
  ∀ id ∈ state.1, session.database.rows.routings.contains id = true

/-- The items of a template that are stored stay stored, and each one adds its own. -/
theorem applyTemplateItem_yields (state : List String × Int) (item : RoutingItem) :
    Yields (applyTemplateItem state item) fun before next after =>
      (IdsStored state before → IdsStored next after) ∧ next.1 ≠ [] := by
  intro before next after hrun
  obtain ⟨normal, between, hnormal, hrest⟩ := ok_of_bind hrun
  have hsame := (normalizeRoutingItem_untouched _).outcome_frame hnormal
  cases hrest
  refine ⟨fun hstored id hid => ?_, by simp⟩
  rw [List.mem_append, List.mem_singleton] at hid
  refine (KeyedTable.contains_upsert ..).mpr ?_
  rcases hid with hold | rfl
  · rw [hsame.database]
    exact Or.inr (hstored id hold)
  · exact Or.inl rfl

theorem reuseRouting_yields (existing : RoutingItem) :
    Yields (reuseRouting existing) fun before _ after =>
      before.database.rows.routings.contains existing.id = true → RoutingFrame before after ∧
        (Routed before.database → RoutingSelected after.database after.config) := by
  intro before value after hrun hstored
  obtain ⟨_, between, henable, hrest⟩ := ok_of_bind hrun
  obtain ⟨_, activated, hmake, hrest⟩ := ok_of_bind hrest
  cases hrest
  have henabled : RoutingFrame before between ∧
      between.database.rows.routings.contains existing.id = true := by
    unfold enableRouting at henable
    split at henable
    · cases henable
      refine ⟨upsertRouting_frame fun hrouted => ?_,
        (KeyedTable.contains_upsert ..).mpr (Or.inr hstored)⟩
      obtain ⟨row, hrow, hkey⟩ := (KeyedTable.contains_iff ..).mp hstored
      exact hkey ▸ hrouted.named row hrow
    · cases henable
      exact ⟨routingFrame.refl _, hstored⟩
  refine ⟨routingFrame.trans henabled.1 ((makeActive_keeps _).outcome_frame hmake), fun _ => ?_⟩
  exact makeActive_yields _ _ _ _ hmake henabled.2

/-- The first item of a template, or the stored routing that stands for it, is made active. -/
theorem applyPreparedConfigTemplate_selects (prepared : PreparedRoutingTemplate) :
    SelectsRouting (applyPreparedConfigTemplate prepared) := by
  intro before value after hrun
  obtain ⟨existing, listed, hread, hrest⟩ := ok_of_bind hrun
  obtain ⟨rfl, rfl⟩ := yields_query _ _ _ _ hread
  split at hrest
  · rename_i existingItem hfound
    obtain ⟨version, -, hfound⟩ := Option.bind_eq_some_iff.mp hfound
    have hitem := List.mem_of_find?_eq_some hfound
    obtain ⟨row, hrow, rfl⟩ := (Store.mem_listRoutings ..).mp hitem
    have hcontains := listed.database.rows.routings.contains_key hrow
    exact reuseRouting_yields _ _ _ _ hrest hcontains
  · split at hrest
    · cases hrest
    · rename_i hitems
      obtain ⟨maxSort, sorted, hsort, hloop⟩ := ok_of_bind hrest
      obtain ⟨-, rfl⟩ := yields_query _ _ _ _ hsort
      obtain ⟨⟨ids, sort⟩, stored, hfold, hactivate⟩ := ok_of_bind hloop
      obtain ⟨_, activated, hmake, hreturn⟩ := ok_of_bind hactivate
      cases hreturn
      have hframe := (keeps_foldlM routingFrame applyTemplateItem_keeps _ _).outcome_frame hfold
      have hstored : IdsStored (ids, sort) stored ∧ ids ≠ [] := by
        obtain ⟨item, items, hcons⟩ := List.exists_cons_of_ne_nil hitems
        rw [hcons, List.foldlM_cons] at hfold
        obtain ⟨first, once, honce, hfold⟩ := ok_of_bind hfold
        obtain ⟨hkept, hne⟩ := applyTemplateItem_yields _ _ _ _ _ honce
        have hothers := yields_foldlM
          (fun state item => (applyTemplateItem_yields state item).mono
            fun _ next _ hpost (hinv : IdsStored state _ ∧ state.1 ≠ []) =>
              (⟨hpost.1 hinv.1, hpost.2⟩ : IdsStored next _ ∧ next.1 ≠ [])) items first
        exact hothers _ _ _ hfold ⟨hkept (fun id hid => by cases hid), hne⟩
      obtain ⟨id, others, rfl⟩ := List.exists_cons_of_ne_nil hstored.2
      refine ⟨routingFrame.trans hframe ((activateWhen_keeps _ _).outcome_frame hmake), ?_⟩
      intro _
      rw [activateWhen, if_pos (by rfl)] at hmake
      exact makeActive_yields _ _ _ _ hmake (hstored.1 id List.mem_cons_self)

end Operations

end RoutingSelection
