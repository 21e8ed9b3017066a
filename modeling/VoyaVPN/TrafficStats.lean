import VoyaVPN.VoyaStore

/-! What the statistics count for every server: the rows of `server_stat_items`, and the samples
that wait for the next tick. -/
namespace TrafficStats

open Entities SettingsSave ConfigMutation VoyaStore

def i64Max : Int := 9223372036854775807

def i64Min : Int := -9223372036854775808

/-- `i64::saturating_add`. -/
def saturatingAdd (first second : Int) : Int := max i64Min (min i64Max (first + second))

structure ServerStatItem where
  indexId : String := ""
  totalUp : Int := 0
  totalDown : Int := 0
  todayUp : Int := 0
  todayDown : Int := 0
  dateNow : Int := 0
  deriving DecidableEq, Repr

structure ServerSpeedSample where
  proxyUpBytes : Int := 0
  proxyDownBytes : Int := 0
  directUpBytes : Int := 0
  directDownBytes : Int := 0
  deriving DecidableEq, Repr

namespace ServerSpeedSample

def hasTraffic (sample : ServerSpeedSample) : Bool :=
  decide (0 < sample.proxyUpBytes) || decide (0 < sample.proxyDownBytes) ||
    decide (0 < sample.directUpBytes) || decide (0 < sample.directDownBytes)

def add (pending sample : ServerSpeedSample) : ServerSpeedSample where
  proxyUpBytes := saturatingAdd pending.proxyUpBytes (max sample.proxyUpBytes 0)
  proxyDownBytes := saturatingAdd pending.proxyDownBytes (max sample.proxyDownBytes 0)
  directUpBytes := saturatingAdd pending.directUpBytes (max sample.directUpBytes 0)
  directDownBytes := saturatingAdd pending.directDownBytes (max sample.directDownBytes 0)

end ServerSpeedSample

structure StatisticsConfigSnapshot where
  enableStatistics : Bool
  displayRealTimeSpeed : Bool
  activeProfileId : Option String

def StatisticsConfigSnapshot.enabled (config : StatisticsConfigSnapshot) : Bool :=
  config.enableStatistics || config.displayRealTimeSpeed

/-- The statistics rows and the profiles they refer to. -/
structure StatStore where
  profileIds : List String := []
  stats : KeyedTable ServerStatItem String ServerStatItem.indexId := {}

namespace StatStore

variable (store : StatStore)

def get (indexId : String) : Option ServerStatItem := store.stats.get indexId

def upsert (item : ServerStatItem) : Except DbError StatStore :=
  if item.indexId ∈ store.profileIds then .ok { store with stats := store.stats.upsert item }
  else .error foreignKeyFailed

def ensure (indexId : String) (dateNow : Int) : Except DbError (ServerStatItem × StatStore) :=
  match store.get indexId with
  | some item =>
    if item.dateNow ≠ dateNow then do
      let item := { item with todayUp := 0, todayDown := 0, dateNow := dateNow }
      let store ← store.upsert item
      return (item, store)
    else .ok (item, store)
  | none => do
    let item : ServerStatItem := { indexId := indexId, dateNow := dateNow }
    let store ← store.upsert item
    return (item, store)

def deleteOrphans : StatStore :=
  { store with stats := store.stats.remove fun item => decide (item.indexId ∉ store.profileIds) }

def rolledOver (dateNow : Int) (item : ServerStatItem) : ServerStatItem :=
  if item.dateNow ≠ dateNow then { item with todayUp := 0, todayDown := 0, dateNow := dateNow }
  else item

theorem rolledOver_indexId (dateNow : Int) (item : ServerStatItem) :
    (rolledOver dateNow item).indexId = item.indexId := by
  rw [rolledOver]
  split <;> rfl

def resetRollover (dateNow : Int) : StatStore :=
  { store with stats := store.stats.update (rolledOver dateNow) (rolledOver_indexId dateNow) }

def addTraffic (indexId : String) (dateNow proxyUp proxyDown : Int) :
    Except DbError (ServerStatItem × StatStore) := do
  let (item, store) ← store.ensure indexId dateNow
  let item :=
    { item with
      todayUp := saturatingAdd item.todayUp (max proxyUp 0)
      todayDown := saturatingAdd item.todayDown (max proxyDown 0)
      totalUp := saturatingAdd item.totalUp (max proxyUp 0)
      totalDown := saturatingAdd item.totalDown (max proxyDown 0)
      dateNow := dateNow }
  let store ← store.upsert item
  return (item, store)

def cloneStat (indexId toIndexId : String) : Except DbError (Option ServerStatItem × StatStore) :=
  if indexId = toIndexId then .ok (store.get indexId, store)
  else
    match store.get indexId with
    | none => .ok (none, store)
    | some item => do
      let item := { item with indexId := toIndexId }
      let store ← store.upsert item
      return (some item, store)

def initializeData (dateNow : Int) : StatStore := store.deleteOrphans.resetRollover dateNow

/-- The speeds that the snapshot also carries are left out. -/
def applyStatisticsSample (config : StatisticsConfigSnapshot) (sample : ServerSpeedSample)
    (dateNow : Int) : Except DbError (Option (Option ServerStatItem) × StatStore) :=
  if !config.enabled || !sample.hasTraffic then .ok (none, store)
  else
    match config.activeProfileId with
    | some activeProfileId => do
      let (item, store) ←
        store.addTraffic activeProfileId dateNow sample.proxyUpBytes sample.proxyDownBytes
      return (some (some item), store)
    | none => .ok (some none, store)

/-- `ON DELETE CASCADE` of the rows of the profiles that go. -/
def removeProfiles (goes : String → Bool) : StatStore where
  profileIds := store.profileIds.filter fun id => !goes id
  stats := store.stats.remove fun item =>
    decide (item.indexId ∈ store.profileIds) && goes item.indexId

def addProfile (indexId : String) : StatStore :=
  { store with profileIds := store.profileIds ++ [indexId] }

end StatStore

/-- The store, and what `run_statistics_aggregator` has received since its last tick. -/
structure Statistics where
  store : StatStore := {}
  pending : ServerSpeedSample := {}

inductive Event where
  | profileAdded (indexId : String)
  | profilesRemoved (goes : String → Bool)
  | aggregatorStarted (dateNow : Int)
  | sampleReceived (sample : ServerSpeedSample)
  | ticked (config : StatisticsConfigSnapshot) (dateNow : Int)
  | ensured (indexId : String) (dateNow : Int)
  | trafficAdded (indexId : String) (dateNow proxyUp proxyDown : Int)
  | statCloned (indexId toIndexId : String)

namespace Statistics

/-- What an operation leaves behind; one that fails leaves the store as it found it. -/
def settle {α : Type} (store : StatStore) : Except DbError (α × StatStore) → StatStore
  | .ok (_, after) => after
  | .error _ => store

def step (state : Statistics) : Event → Statistics
  | .profileAdded indexId => { state with store := state.store.addProfile indexId }
  | .profilesRemoved goes => { state with store := state.store.removeProfiles goes }
  | .aggregatorStarted dateNow => { store := state.store.initializeData dateNow, pending := {} }
  | .sampleReceived sample => { state with pending := state.pending.add sample }
  | .ticked config dateNow =>
    { store := settle state.store (state.store.applyStatisticsSample config state.pending dateNow)
      pending := {} }
  | .ensured indexId dateNow =>
    { state with store := settle state.store (state.store.ensure indexId dateNow) }
  | .trafficAdded indexId dateNow proxyUp proxyDown =>
    { state with
      store := settle state.store (state.store.addTraffic indexId dateNow proxyUp proxyDown) }
  | .statCloned indexId toIndexId =>
    { state with store := settle state.store (state.store.cloneStat indexId toIndexId) }

def run (events : List Event) : Statistics := events.foldl step {}

end Statistics

end TrafficStats
