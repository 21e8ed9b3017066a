import VoyaVPN.ConfigMutation
import VoyaVPN.KeyedTable

/-! The tables of the store and the statements that read and write them. A row that refers to
another one cannot be written without it, and goes away or forgets it with it. -/
namespace VoyaStore

open Entities SettingsSave ConfigMutation

structure ProfileExItem where
  indexId : String := ""
  delay : Int := 0
  sort : Int := 0
  message : Option String := none
  ipInfo : Option String := none
  deriving DecidableEq, Repr

structure Tables where
  profiles : KeyedTable ProfileItem String ProfileItem.indexId := .empty
  profileExs : KeyedTable ProfileExItem String ProfileExItem.indexId := .empty
  subscriptions : KeyedTable SubItem String SubItem.id := .empty
  routings : KeyedTable RoutingItem String RoutingItem.id := .empty

abbrev Store := Database Tables

def foreignKeyFailed : DbError := .sqlx "FOREIGN KEY constraint failed"

namespace Store

variable (store : Store)

def setRows (change : Tables → Tables) : Store := { store with rows := change store.rows }

/-- The reference of a profile to its subscription. -/
def admitsProfile (item : ProfileItem) : Bool :=
  match item.subscriptionId with
  | none => true
  | some subscriptionId => store.rows.subscriptions.contains subscriptionId

def upsertProfile (item : ProfileItem) : Except DbError Store :=
  if store.admitsProfile item then
    .ok (store.setRows fun rows => { rows with profiles := rows.profiles.upsert item })
  else .error foreignKeyFailed

def upsertProfileEx (item : ProfileExItem) : Except DbError Store :=
  if store.rows.profiles.contains item.indexId then
    .ok (store.setRows fun rows => { rows with profileExs := rows.profileExs.upsert item })
  else .error foreignKeyFailed

def upsertSubscription (item : SubItem) : Store :=
  store.setRows fun rows => { rows with subscriptions := rows.subscriptions.upsert item }

/-- Which routing is the active one is not stored with the routings. -/
def upsertRouting (item : RoutingItem) : Store :=
  store.setRows fun rows =>
    { rows with routings := rows.routings.upsert { item with isActive := false } }

/-- `ON DELETE CASCADE` and `ON DELETE SET NULL` of what refers to a profile. -/
def removeProfiles (goes : ProfileItem → Bool) : Store :=
  let gone := fun id => store.rows.profiles.rows.any fun item => goes item && item.indexId == id
  { store with
    appState :=
      if store.appState.activeProfileId.any gone then
        { store.appState with activeProfileId := none }
      else store.appState
    rows :=
      { store.rows with
        profiles := store.rows.profiles.remove goes
        profileExs := store.rows.profileExs.remove fun item => gone item.indexId } }

def deleteProfile (indexId : String) : Store :=
  store.removeProfiles fun item => item.indexId == indexId

def deleteProfilesBySubscriptionId (subscriptionId : String) : Store :=
  store.removeProfiles fun item => item.subscriptionId == some subscriptionId

def deleteSubscription (id : String) : Store :=
  if store.rows.subscriptions.contains id then
    (store.deleteProfilesBySubscriptionId id).setRows fun rows =>
      { rows with subscriptions := rows.subscriptions.remove fun item => item.id == id }
  else store

def deleteRouting (id : String) : Store :=
  { store with
    appState :=
      if store.appState.activeRoutingId = some id ∧ store.rows.routings.contains id then
        { store.appState with activeRoutingId := none }
      else store.appState
    rows :=
      { store.rows with
        routings := store.rows.routings.remove fun item => item.id == id } }

/-- `COALESCE(e.sort, 0)` after the left join. -/
def sortOf (indexId : String) : Int :=
  ((store.rows.profileExs.get indexId).map (·.sort)).getD 0

def profileBefore (first second : ProfileItem) : Prop :=
  store.sortOf first.indexId < store.sortOf second.indexId ∨
    store.sortOf first.indexId = store.sortOf second.indexId ∧
      first.indexId.toList ≤ second.indexId.toList

instance : DecidableRel store.profileBefore := fun _ _ => by
  unfold profileBefore
  infer_instance

def listProfiles : List ProfileItem :=
  store.rows.profiles.rows.insertionSort store.profileBefore

def inSubscription (subscriptionId : Option String) (item : ProfileItem) : Bool :=
  match subscriptionId.filter (· ≠ "") with
  | none => true
  | some id => item.subscriptionId == some id

def listBySubscriptionId (subscriptionId : Option String) : List ProfileItem :=
  store.listProfiles.filter (inSubscription subscriptionId)

def profileExOrDefault (indexId : String) : ProfileExItem :=
  (store.rows.profileExs.get indexId).getD { indexId }

def listWithProfileEx (subscriptionId : Option String) : List (ProfileItem × ProfileExItem) :=
  (store.listBySubscriptionId subscriptionId).map fun item =>
    (item, store.profileExOrDefault item.indexId)

def maxOf (values : List Int) : Int := values.max?.getD 0

def maxProfileSort : Int := maxOf (store.rows.profileExs.rows.map (·.sort))

def maxSubscriptionSort : Int := maxOf (store.rows.subscriptions.rows.map (·.sort))

def maxRoutingSort : Int := maxOf (store.rows.routings.rows.map (·.sort))

def subscriptionBefore (first second : SubItem) : Prop :=
  first.sort < second.sort ∨ first.sort = second.sort ∧ first.id.toList ≤ second.id.toList

instance : DecidableRel subscriptionBefore := fun _ _ => by
  unfold subscriptionBefore
  infer_instance

def listSubscriptions : List SubItem :=
  store.rows.subscriptions.rows.insertionSort subscriptionBefore

def subscriptionByUrl (url : String) : Option SubItem :=
  store.rows.subscriptions.rows.find? fun item => item.url == url

def withActive (item : RoutingItem) : RoutingItem :=
  { item with isActive := store.appState.activeRoutingId == some item.id }

def getRouting (id : String) : Option RoutingItem :=
  (store.rows.routings.get id).map store.withActive

def routingBefore (first second : RoutingItem) : Prop :=
  first.sort < second.sort ∨ first.sort = second.sort ∧ first.id.toList ≤ second.id.toList

instance : DecidableRel routingBefore := fun _ _ => by
  unfold routingBefore
  infer_instance

def listRoutings : List RoutingItem :=
  (store.rows.routings.rows.insertionSort routingBefore).map store.withActive

def activeRouting : Option RoutingItem :=
  store.appState.activeRoutingId.bind store.getRouting

def firstRouting : Option RoutingItem := store.listRoutings.head?

def updateState (state : AppStateRecord) : Except DbError Store :=
  if state.activeProfileId.all store.rows.profiles.contains ∧
      state.activeRoutingId.all store.rows.routings.contains then
    .ok (saveStateOn store state)
  else .error foreignKeyFailed

def setActiveRouting (id : String) : Bool × Store :=
  if store.rows.routings.contains id then
    (true, { store with appState := { store.appState with activeRoutingId := some id } })
  else (false, store)

@[simp] theorem mem_listProfiles (item : ProfileItem) :
    item ∈ store.listProfiles ↔ item ∈ store.rows.profiles.rows :=
  List.mem_insertionSort _

@[simp] theorem mem_listBySubscriptionId (subscriptionId : Option String) (item : ProfileItem) :
    item ∈ store.listBySubscriptionId subscriptionId ↔
      item ∈ store.rows.profiles.rows ∧ inSubscription subscriptionId item = true := by
  simp [listBySubscriptionId, List.mem_filter]

theorem listProfiles_nodup : (store.listProfiles.map ProfileItem.indexId).Nodup :=
  ((List.perm_insertionSort _ _).map _).nodup_iff.mpr store.rows.profiles.nodup_keys

theorem listProfiles_eq_nil_iff : store.listProfiles = [] ↔ store.rows.profiles.rows = [] := by
  rw [← List.length_eq_zero_iff, ← List.length_eq_zero_iff, listProfiles,
    List.length_insertionSort]

theorem mem_listRoutings (item : RoutingItem) :
    item ∈ store.listRoutings ↔ ∃ row ∈ store.rows.routings.rows, store.withActive row = item := by
  simp [listRoutings]

theorem listRoutings_eq_nil_iff : store.listRoutings = [] ↔ store.rows.routings.rows = [] := by
  rw [listRoutings, List.map_eq_nil_iff, ← List.length_eq_zero_iff, ← List.length_eq_zero_iff,
    List.length_insertionSort]

theorem getRouting_eq_some_iff (id : String) (item : RoutingItem) :
    store.getRouting id = some item ↔
      ∃ row ∈ store.rows.routings.rows, row.id = id ∧ store.withActive row = item := by
  simp only [getRouting, Option.map_eq_some_iff, KeyedTable.get_eq_some_iff, and_assoc]

end Store

end VoyaStore
