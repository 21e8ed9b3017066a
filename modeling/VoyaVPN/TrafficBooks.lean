import VoyaVPN.CappedSum
import VoyaVPN.TrafficStats

/-! The books an observer of the same events keeps, sample by sample. The stored rows hold the
capped sums of what the books list, whatever the order of the events. -/
namespace TrafficBooks

open TrafficStats CappedSum

/-- Nothing below zero counts, and nothing above the limit shows. -/
def saturatingSum (values : List Int) : Int := cappedSum i64Max (values.map (max · 0))

theorem nonNegative_counted (values : List Int) : NonNegative (values.map (max · 0)) := by
  intro value hvalue
  obtain ⟨_, _, rfl⟩ := List.mem_map.mp hvalue
  exact le_max_right _ _

theorem i64Max_nonneg : 0 ≤ i64Max := by decide

@[simp] theorem saturatingSum_nil : saturatingSum [] = 0 := cappedSum_nil i64Max_nonneg

theorem saturatingSum_nonneg (values : List Int) : 0 ≤ saturatingSum values :=
  cappedSum_nonneg i64Max_nonneg (nonNegative_counted values)

theorem saturatingSum_le_append (first second : List Int) :
    saturatingSum second ≤ saturatingSum (first ++ second) := by
  rw [saturatingSum, saturatingSum, List.map_append]
  exact cappedSum_le_append (nonNegative_counted first)

theorem saturatingAdd_of_nonneg {first second : Int} (hfirst : 0 ≤ first) (hsecond : 0 ≤ second) :
    saturatingAdd first second = min i64Max (first + second) := by
  unfold saturatingAdd i64Max i64Min
  omega

/-- A value that a saturating addition counts as it would count all of `values`. -/
def CountsAs (value : Int) (values : List Int) : Prop :=
  min i64Max (max value 0) = saturatingSum values

theorem CountsAs.saturatingAdd {value : Int} {values : List Int} (h : CountsAs value values)
    (earlier : List Int) :
    saturatingAdd (saturatingSum earlier) (max value 0) = saturatingSum (earlier ++ values) := by
  have hsum : saturatingSum (earlier ++ values) =
      min i64Max (saturatingSum earlier + saturatingSum values) := by
    rw [saturatingSum, List.map_append, cappedSum_append i64Max_nonneg (nonNegative_counted _)
      (nonNegative_counted _)]
    rfl
  rw [saturatingAdd_of_nonneg (saturatingSum_nonneg earlier) (le_max_right _ _), hsum, ← h]
  have hearlier := saturatingSum_nonneg earlier
  omega

theorem countsAs_single (value : Int) : CountsAs value [value] := by
  simp [CountsAs, saturatingSum, cappedSum]

theorem countsAs_sum (values : List Int) : CountsAs (saturatingSum values) values := by
  have hnonneg := saturatingSum_nonneg values
  have hle : saturatingSum values ≤ i64Max := cappedSum_le _
  rw [CountsAs]
  omega

/-- The samples that counted for one server: those of earlier days, and those since its day
changed. -/
structure Account where
  earlier : List ServerSpeedSample := []
  today : List ServerSpeedSample := []
  day : Int

namespace Account

variable (account : Account)

def all : List ServerSpeedSample := account.earlier ++ account.today

def onDay (day : Int) : Account :=
  if account.day ≠ day then { earlier := account.all, today := [], day := day } else account

def credit (samples : List ServerSpeedSample) : Account :=
  { account with today := account.today ++ samples }

end Account

structure Ledger where
  profileIds : List String := []
  accounts : String → Option Account := fun _ => none

namespace Ledger

variable (ledger : Ledger)

def set (indexId : String) (account : Account) : Ledger :=
  { ledger with accounts := Function.update ledger.accounts indexId (some account) }

/-- The account of a server on a day; a server that has none yet opens one. -/
def opened (indexId : String) (day : Int) : Account :=
  ((ledger.accounts indexId).map (·.onDay day)).getD { day := day }

def credit (indexId : String) (day : Int) (samples : List ServerSpeedSample) : Ledger :=
  if indexId ∈ ledger.profileIds then
    ledger.set indexId ((ledger.opened indexId day).credit samples)
  else ledger

def copy (indexId toIndexId : String) : Ledger :=
  match ledger.accounts indexId with
  | some account => if toIndexId ∈ ledger.profileIds then ledger.set toIndexId account else ledger
  | none => ledger

def onDay (day : Int) : Ledger :=
  { ledger with accounts := fun indexId => (ledger.accounts indexId).map (·.onDay day) }

def close (goes : String → Bool) : Ledger where
  profileIds := ledger.profileIds.filter fun id => !goes id
  accounts := fun indexId => if goes indexId then none else ledger.accounts indexId

def enroll (indexId : String) : Ledger :=
  { ledger with profileIds := ledger.profileIds ++ [indexId] }

end Ledger

structure Books where
  ledger : Ledger := {}
  unflushed : List ServerSpeedSample := []

namespace Books

/-- Where a tick puts what has been received: the active server's account, unless there is
nothing to count or nobody looks. -/
def flushed (books : Books) (config : StatisticsConfigSnapshot) (day : Int) : Ledger :=
  match config.activeProfileId with
  | some indexId =>
    if config.enabled && books.unflushed.any ServerSpeedSample.hasTraffic then
      books.ledger.credit indexId day books.unflushed
    else books.ledger
  | none => books.ledger

def step (books : Books) : Event → Books
  | .profileAdded indexId => { books with ledger := books.ledger.enroll indexId }
  | .profilesRemoved goes => { books with ledger := books.ledger.close goes }
  | .aggregatorStarted day => { ledger := books.ledger.onDay day, unflushed := [] }
  | .sampleReceived sample => { books with unflushed := books.unflushed ++ [sample] }
  | .ticked config day => { ledger := books.flushed config day, unflushed := [] }
  | .ensured indexId day => { books with ledger := books.ledger.credit indexId day [] }
  | .trafficAdded indexId day proxyUp proxyDown =>
    { books with
      ledger :=
        books.ledger.credit indexId day
          [{ proxyUpBytes := proxyUp, proxyDownBytes := proxyDown }] }
  | .statCloned indexId toIndexId => { books with ledger := books.ledger.copy indexId toIndexId }

def run (events : List Event) : Books := events.foldl step {}

end Books

def withTraffic (item : ServerStatItem) (up down day : Int) : ServerStatItem :=
  { item with
    todayUp := saturatingAdd item.todayUp (max up 0)
    todayDown := saturatingAdd item.todayDown (max down 0)
    totalUp := saturatingAdd item.totalUp (max up 0)
    totalDown := saturatingAdd item.totalDown (max down 0)
    dateNow := day }

structure Agrees (item : ServerStatItem) (account : Account) : Prop where
  totalUp : item.totalUp = saturatingSum (account.all.map (·.proxyUpBytes))
  totalDown : item.totalDown = saturatingSum (account.all.map (·.proxyDownBytes))
  todayUp : item.todayUp = saturatingSum (account.today.map (·.proxyUpBytes))
  todayDown : item.todayDown = saturatingSum (account.today.map (·.proxyDownBytes))
  dateNow : item.dateNow = account.day

structure WithinTotals (item : ServerStatItem) : Prop where
  up : 0 ≤ item.todayUp ∧ item.todayUp ≤ item.totalUp
  down : 0 ≤ item.todayDown ∧ item.todayDown ≤ item.totalDown

namespace Agrees

variable {item : ServerStatItem} {account : Account} (h : Agrees item account)

include h

theorem withinTotals : WithinTotals item := by
  constructor
  · rw [h.todayUp, h.totalUp, Account.all, List.map_append]
    exact ⟨saturatingSum_nonneg _, saturatingSum_le_append _ _⟩
  · rw [h.todayDown, h.totalDown, Account.all, List.map_append]
    exact ⟨saturatingSum_nonneg _, saturatingSum_le_append _ _⟩

theorem onDay (day : Int) : Agrees (StatStore.rolledOver day item) (account.onDay day) := by
  rw [StatStore.rolledOver, Account.onDay, h.dateNow]
  by_cases hday : account.day ≠ day
  · rw [if_pos hday, if_pos hday]
    exact ⟨by simpa [Account.all] using h.totalUp, by simpa [Account.all] using h.totalDown,
      by simp, by simp, rfl⟩
  · rw [if_neg hday, if_neg hday]
    exact h

theorem credit {up down : Int} {samples : List ServerSpeedSample}
    (hup : CountsAs up (samples.map (·.proxyUpBytes)))
    (hdown : CountsAs down (samples.map (·.proxyDownBytes))) :
    Agrees (withTraffic item up down account.day) (account.credit samples) := by
  have hall : (account.credit samples).all = account.all ++ samples :=
    (List.append_assoc ..).symm
  constructor
  · rw [hall, List.map_append, withTraffic, h.totalUp, hup.saturatingAdd]
  · rw [hall, List.map_append, withTraffic, h.totalDown, hdown.saturatingAdd]
  · rw [Account.credit, List.map_append, withTraffic, h.todayUp, hup.saturatingAdd]
  · rw [Account.credit, List.map_append, withTraffic, h.todayDown, hdown.saturatingAdd]
  · rfl

end Agrees

theorem agrees_new (indexId : String) (day : Int) :
    Agrees { indexId := indexId, dateNow := day } { day := day } :=
  ⟨by simp [Account.all], by simp [Account.all], by simp, by simp, rfl⟩

/-- The store holds what the ledger lists, and only servers that there are have an account. -/
structure Kept (store : StatStore) (ledger : Ledger) : Prop where
  profileIds : store.profileIds = ledger.profileIds
  rows : ∀ indexId, Option.Rel Agrees (store.get indexId) (ledger.accounts indexId)
  owned : ∀ indexId account, ledger.accounts indexId = some account →
    indexId ∈ ledger.profileIds

theorem kept_empty : Kept {} {} :=
  ⟨rfl, fun _ => Option.Rel.none, fun _ _ h => by cases h⟩

theorem upsert_ok {store : StatStore} {item : ServerStatItem}
    (hmem : item.indexId ∈ store.profileIds) :
    store.upsert item = .ok { store with stats := store.stats.upsert item } :=
  if_pos hmem

theorem upsert_error {store : StatStore} {item : ServerStatItem}
    (hmem : item.indexId ∉ store.profileIds) :
    store.upsert item = .error VoyaStore.foreignKeyFailed :=
  if_neg hmem

theorem get_indexId {store : StatStore} {indexId : String} {item : ServerStatItem}
    (hget : store.get indexId = some item) : item.indexId = indexId :=
  ((store.stats.get_eq_some_iff _ _).mp hget).2

namespace Kept

variable {store : StatStore} {ledger : Ledger} (h : Kept store ledger)

include h

theorem cases_get (indexId : String) :
    (store.get indexId = none ∧ ledger.accounts indexId = none) ∨
      ∃ item account, store.get indexId = some item ∧ ledger.accounts indexId = some account ∧
        Agrees item account := by
  have hrow := h.rows indexId
  cases hget : store.get indexId with
  | none =>
    cases haccount : ledger.accounts indexId with
    | none => exact Or.inl ⟨rfl, rfl⟩
    | some account =>
      rw [hget, haccount] at hrow
      cases hrow
  | some item =>
    cases haccount : ledger.accounts indexId with
    | none =>
      rw [hget, haccount] at hrow
      cases hrow
    | some account =>
      rw [hget, haccount] at hrow
      cases hrow with
      | some hagrees => exact Or.inr ⟨item, account, rfl, rfl, hagrees⟩

theorem get_of_not_mem {indexId : String} (hmem : indexId ∉ ledger.profileIds) :
    store.get indexId = none := by
  rcases h.cases_get indexId with ⟨hget, _⟩ | ⟨_, account, _, haccount, _⟩
  · exact hget
  · exact absurd (h.owned indexId account haccount) hmem

theorem set {item : ServerStatItem} {account : Account} {indexId : String}
    (hagrees : Agrees item account) (hmem : indexId ∈ ledger.profileIds)
    (hid : item.indexId = indexId) :
    Kept { store with stats := store.stats.upsert item } (ledger.set indexId account) := by
  refine ⟨h.profileIds, fun other => ?_, fun other found hfound => ?_⟩
  · change Option.Rel Agrees ((store.stats.upsert item).get other)
      (Function.update ledger.accounts indexId (some account) other)
    rw [KeyedTable.get_upsert, hid]
    by_cases hother : indexId = other
    · subst hother
      rw [if_pos rfl, Function.update_self]
      exact Option.Rel.some hagrees
    · rw [if_neg hother, Function.update_of_ne (Ne.symm hother)]
      exact h.rows other
  · by_cases hother : other = indexId
    · rw [hother]
      exact hmem
    · have hold : ledger.accounts other = some found := by
        rw [← hfound]
        exact (Function.update_of_ne hother _ _).symm
      exact h.owned other found hold

theorem ensure {indexId : String} (day : Int) (hmem : indexId ∈ ledger.profileIds) :
    ∃ item after, store.ensure indexId day = .ok (item, after) ∧ item.indexId = indexId ∧
      Agrees item (ledger.opened indexId day) ∧
      Kept after (ledger.set indexId (ledger.opened indexId day)) := by
  have hstored : indexId ∈ store.profileIds := by rwa [h.profileIds]
  rcases h.cases_get indexId with ⟨hget, haccount⟩ | ⟨item, account, hget, haccount, hagrees⟩
  · have hopened : ledger.opened indexId day = { day := day } := by
      rw [Ledger.opened, haccount]
      rfl
    rw [hopened]
    refine ⟨_, _, ?_, rfl, agrees_new indexId day, h.set (agrees_new indexId day) hmem rfl⟩
    rw [StatStore.ensure, hget]
    simp only [@upsert_ok store { indexId := indexId, dateNow := day } hstored]
    rfl
  · have hid := get_indexId hget
    have hopened : ledger.opened indexId day = account.onDay day := by
      rw [Ledger.opened, haccount]
      rfl
    have hrolled := hagrees.onDay day
    rw [hopened]
    by_cases hday : item.dateNow ≠ day
    · rw [StatStore.rolledOver, if_pos hday] at hrolled
      refine ⟨{ item with todayUp := 0, todayDown := 0, dateNow := day }, _, ?_, hid, hrolled,
        h.set hrolled hmem hid⟩
      rw [StatStore.ensure, hget]
      simp only [if_pos hday]
      rw [upsert_ok (by simpa only [hid] using hstored)]
      rfl
    · rw [StatStore.rolledOver, if_neg hday] at hrolled
      refine ⟨item, store, ?_, hid, hrolled, ?_⟩
      · rw [StatStore.ensure, hget]
        exact if_neg hday
      · have hsame : account.onDay day = account := by
          rw [Account.onDay, ← hagrees.dateNow, if_neg hday]
        have hledger : ledger.set indexId (account.onDay day) = ledger := by
          rw [hsame, Ledger.set, ← haccount, Function.update_eq_self]
        rw [hledger]
        exact h

theorem ensure_error {indexId : String} (day : Int) (hmem : indexId ∉ ledger.profileIds) :
    store.ensure indexId day = .error VoyaStore.foreignKeyFailed := by
  have hstored : indexId ∉ store.profileIds := by rwa [h.profileIds]
  rw [StatStore.ensure, h.get_of_not_mem hmem]
  simp only [@upsert_error store { indexId := indexId, dateNow := day } hstored]
  rfl

theorem ensured (indexId : String) (day : Int) :
    Kept (Statistics.settle store (store.ensure indexId day)) (ledger.credit indexId day []) := by
  by_cases hmem : indexId ∈ ledger.profileIds
  · obtain ⟨item, after, hensure, _, _, hkept⟩ := h.ensure day hmem
    have hcredit : (ledger.opened indexId day).credit [] = ledger.opened indexId day := by
      rw [Account.credit, List.append_nil]
    rw [hensure, Ledger.credit, if_pos hmem, hcredit]
    exact hkept
  · rw [h.ensure_error day hmem, Ledger.credit, if_neg hmem]
    exact h

theorem addTraffic {up down : Int} {samples : List ServerSpeedSample}
    (hup : CountsAs up (samples.map (·.proxyUpBytes)))
    (hdown : CountsAs down (samples.map (·.proxyDownBytes))) {indexId : String} (day : Int)
    (hmem : indexId ∈ ledger.profileIds) :
    ∃ item after, store.addTraffic indexId day up down = .ok (item, after) ∧
      Kept after (ledger.credit indexId day samples) := by
  obtain ⟨item, after, hensure, hid, hagrees, hkept⟩ := h.ensure day hmem
  have hday : (ledger.opened indexId day).day = day := by
    rw [Ledger.opened]
    cases ledger.accounts indexId with
    | none => rfl
    | some account =>
      change (account.onDay day).day = day
      rw [Account.onDay]
      split
      · rfl
      · rename_i hsame
        exact not_not.mp hsame
  have hcredited := hagrees.credit hup hdown
  rw [hday] at hcredited
  have hstored : indexId ∈ after.profileIds := by
    rw [hkept.profileIds]
    exact hmem
  have hset := hkept.set hcredited hmem hid
  refine ⟨withTraffic item up down day,
    { after with stats := after.stats.upsert (withTraffic item up down day) }, ?_, ?_⟩
  · have hupsert : after.upsert (withTraffic item up down day) =
        .ok { after with stats := after.stats.upsert (withTraffic item up down day) } :=
      upsert_ok (by simpa only [withTraffic, hid] using hstored)
    rw [StatStore.addTraffic, hensure]
    change (do
      let store ← after.upsert (withTraffic item up down day)
      return (withTraffic item up down day, store)) = _
    rw [hupsert]
    rfl
  · rw [Ledger.credit, if_pos hmem]
    simpa only [Ledger.set, Function.update_idem] using hset

theorem addTraffic_error {indexId : String} (day up down : Int)
    (hmem : indexId ∉ ledger.profileIds) :
    store.addTraffic indexId day up down = .error VoyaStore.foreignKeyFailed := by
  rw [StatStore.addTraffic, h.ensure_error day hmem]
  rfl

theorem trafficAdded {up down : Int} {samples : List ServerSpeedSample}
    (hup : CountsAs up (samples.map (·.proxyUpBytes)))
    (hdown : CountsAs down (samples.map (·.proxyDownBytes))) (indexId : String) (day : Int) :
    Kept (Statistics.settle store (store.addTraffic indexId day up down))
      (ledger.credit indexId day samples) := by
  by_cases hmem : indexId ∈ ledger.profileIds
  · obtain ⟨item, after, hadd, hkept⟩ := h.addTraffic hup hdown day hmem
    rw [hadd]
    exact hkept
  · rw [h.addTraffic_error day up down hmem, Ledger.credit, if_neg hmem]
    exact h

theorem cloned (indexId toIndexId : String) :
    Kept (Statistics.settle store (store.cloneStat indexId toIndexId))
      (ledger.copy indexId toIndexId) := by
  rcases h.cases_get indexId with ⟨hget, haccount⟩ | ⟨item, account, hget, haccount, hagrees⟩
  · have hsame : Statistics.settle store (store.cloneStat indexId toIndexId) = store := by
      rw [StatStore.cloneStat, hget]
      split <;> rfl
    rw [hsame, Ledger.copy, haccount]
    exact h
  · rw [Ledger.copy, haccount]
    by_cases hself : indexId = toIndexId
    · subst hself
      have hledger : ledger.set indexId account = ledger := by
        rw [Ledger.set, ← haccount, Function.update_eq_self]
      rw [StatStore.cloneStat, if_pos rfl]
      simp only [hledger, ite_self]
      exact h
    · rw [StatStore.cloneStat, if_neg hself, hget]
      by_cases hmem : toIndexId ∈ ledger.profileIds
      · have hstored : toIndexId ∈ store.profileIds := by rwa [h.profileIds]
        simp only [if_pos hmem, @upsert_ok store { item with indexId := toIndexId } hstored]
        have hcopy : Agrees { item with indexId := toIndexId } account :=
          ⟨hagrees.totalUp, hagrees.totalDown, hagrees.todayUp, hagrees.todayDown,
            hagrees.dateNow⟩
        exact h.set hcopy hmem rfl
      · have hstored : toIndexId ∉ store.profileIds := by rwa [h.profileIds]
        simp only [if_neg hmem, @upsert_error store { item with indexId := toIndexId } hstored]
        exact h

theorem resetRollover (day : Int) : Kept (store.resetRollover day) (ledger.onDay day) := by
  refine ⟨h.profileIds, fun indexId => ?_, fun indexId account haccount => ?_⟩
  · have hget : (store.resetRollover day).get indexId =
        (store.get indexId).map (StatStore.rolledOver day) :=
      store.stats.get_update (StatStore.rolledOver_indexId day) indexId
    have haccounts : (ledger.onDay day).accounts indexId =
        (ledger.accounts indexId).map (·.onDay day) := rfl
    rw [hget, haccounts]
    rcases h.cases_get indexId with ⟨hnone, haccount⟩ | ⟨item, account, hsome, haccount, hagrees⟩
    · rw [hnone, haccount]
      exact Option.Rel.none
    · rw [hsome, haccount]
      exact Option.Rel.some (hagrees.onDay day)
  · obtain ⟨old, hold, _⟩ := Option.map_eq_some_iff.mp haccount
    exact h.owned indexId old hold

theorem deleteOrphans : store.deleteOrphans = store := by
  have hrows : store.stats.remove (fun item => decide (item.indexId ∉ store.profileIds)) =
      store.stats := by
    apply store.stats.remove_none
    intro item hitem
    have hget : store.get item.indexId = some item :=
      (store.stats.get_eq_some_iff _ _).mpr ⟨hitem, rfl⟩
    rcases h.cases_get item.indexId with ⟨hnone, _⟩ | ⟨_, account, _, haccount, _⟩
    · rw [hget] at hnone
      cases hnone
    · have hmem := h.owned item.indexId account haccount
      rw [← h.profileIds] at hmem
      simp [hmem]
  rw [StatStore.deleteOrphans, hrows]

theorem removeProfiles (goes : String → Bool) :
    Kept (store.removeProfiles goes) (ledger.close goes) := by
  refine ⟨?_, fun indexId => ?_, fun indexId account haccount => ?_⟩
  · rw [StatStore.removeProfiles, Ledger.close, h.profileIds]
  · have hget : (store.removeProfiles goes).get indexId =
        (store.get indexId).filter fun item =>
          !(decide (item.indexId ∈ store.profileIds) && goes item.indexId) :=
      KeyedTable.get_remove ..
    have haccounts : (ledger.close goes).accounts indexId =
        if goes indexId then none else ledger.accounts indexId := rfl
    rw [hget, haccounts]
    rcases h.cases_get indexId with ⟨hnone, haccount⟩ | ⟨item, account, hsome, haccount, hagrees⟩
    · rw [hnone, haccount]
      simp only [Option.filter_none, ite_self]
      exact Option.Rel.none
    · have hmem : indexId ∈ store.profileIds := by
        rw [h.profileIds]
        exact h.owned indexId account haccount
      rw [hsome, haccount, Option.filter_some, get_indexId hsome]
      cases hgoes : goes indexId with
      | true =>
        simp only [hmem, decide_true, Bool.and_self, Bool.not_true, Bool.false_eq_true, if_false,
          if_true]
        exact Option.Rel.none
      | false =>
        simp only [Bool.and_false, Bool.not_false, if_true, Bool.false_eq_true, if_false]
        exact Option.Rel.some hagrees
  · rw [Ledger.close] at haccount ⊢
    cases hgoes : goes indexId with
    | true => simp [hgoes] at haccount
    | false =>
      simp only [hgoes, Bool.false_eq_true, if_false] at haccount
      exact List.mem_filter.mpr ⟨h.owned indexId account haccount, by simp [hgoes]⟩

theorem addProfile (indexId : String) :
    Kept (store.addProfile indexId) (ledger.enroll indexId) := by
  refine ⟨?_, h.rows, fun other account haccount => ?_⟩
  · rw [StatStore.addProfile, Ledger.enroll, h.profileIds]
  · exact List.mem_append_left _ (h.owned other account haccount)

end Kept

/-- What waits for the next tick is the capped sum of what was received. -/
structure Pending (pending : ServerSpeedSample) (unflushed : List ServerSpeedSample) : Prop where
  proxyUp : pending.proxyUpBytes = saturatingSum (unflushed.map (·.proxyUpBytes))
  proxyDown : pending.proxyDownBytes = saturatingSum (unflushed.map (·.proxyDownBytes))
  directUp : pending.directUpBytes = saturatingSum (unflushed.map (·.directUpBytes))
  directDown : pending.directDownBytes = saturatingSum (unflushed.map (·.directDownBytes))

theorem pending_empty : Pending {} [] :=
  ⟨by simp, by simp, by simp, by simp⟩

theorem Pending.add {pending : ServerSpeedSample} {unflushed : List ServerSpeedSample}
    (h : Pending pending unflushed) (sample : ServerSpeedSample) :
    Pending (pending.add sample) (unflushed ++ [sample]) := by
  constructor
  · rw [List.map_append, ServerSpeedSample.add, h.proxyUp]
    exact (countsAs_single _).saturatingAdd _
  · rw [List.map_append, ServerSpeedSample.add, h.proxyDown]
    exact (countsAs_single _).saturatingAdd _
  · rw [List.map_append, ServerSpeedSample.add, h.directUp]
    exact (countsAs_single _).saturatingAdd _
  · rw [List.map_append, ServerSpeedSample.add, h.directDown]
    exact (countsAs_single _).saturatingAdd _

theorem saturatingSum_pos_iff (values : List Int) :
    0 < saturatingSum values ↔ ∃ value ∈ values, 0 < value := by
  induction values with
  | nil => simp
  | cons value values ih =>
    have hadd : saturatingSum (value :: values) =
        min i64Max (saturatingSum [value] + saturatingSum values) := by
      rw [saturatingSum, ← List.singleton_append, List.map_append,
        cappedSum_append i64Max_nonneg (nonNegative_counted _) (nonNegative_counted _)]
      rfl
    have hvalue : min i64Max (max value 0) = saturatingSum [value] := countsAs_single value
    have hvalues := saturatingSum_nonneg values
    have hlimit : (0 : Int) < i64Max := by decide
    rw [List.exists_mem_cons_iff, ← ih, hadd, ← hvalue]
    omega

theorem Pending.hasTraffic {pending : ServerSpeedSample} {unflushed : List ServerSpeedSample}
    (h : Pending pending unflushed) :
    pending.hasTraffic = unflushed.any ServerSpeedSample.hasTraffic := by
  rw [Bool.eq_iff_iff]
  simp only [ServerSpeedSample.hasTraffic, h.proxyUp, h.proxyDown, h.directUp, h.directDown,
    Bool.or_eq_true, decide_eq_true_eq, saturatingSum_pos_iff, List.mem_map,
    exists_exists_and_eq_and, List.any_eq_true]
  constructor
  · rintro (((⟨sample, hsample, h⟩ | ⟨sample, hsample, h⟩) | ⟨sample, hsample, h⟩) |
      ⟨sample, hsample, h⟩)
    · exact ⟨sample, hsample, Or.inl (Or.inl (Or.inl h))⟩
    · exact ⟨sample, hsample, Or.inl (Or.inl (Or.inr h))⟩
    · exact ⟨sample, hsample, Or.inl (Or.inr h)⟩
    · exact ⟨sample, hsample, Or.inr h⟩
  · rintro ⟨sample, hsample, ((h | h) | h) | h⟩
    · exact Or.inl (Or.inl (Or.inl ⟨sample, hsample, h⟩))
    · exact Or.inl (Or.inl (Or.inr ⟨sample, hsample, h⟩))
    · exact Or.inl (Or.inr ⟨sample, hsample, h⟩)
    · exact Or.inr ⟨sample, hsample, h⟩

structure Accounted (state : Statistics) (books : Books) : Prop where
  kept : Kept state.store books.ledger
  pending : Pending state.pending books.unflushed

theorem Accounted.flushed {state : Statistics} {books : Books} (h : Accounted state books)
    (config : StatisticsConfigSnapshot) (day : Int) :
    Kept
      (Statistics.settle state.store
        (state.store.applyStatisticsSample config state.pending day))
      (books.flushed config day) := by
  rw [StatStore.applyStatisticsSample, Books.flushed, ← h.pending.hasTraffic]
  by_cases hcounts : (config.enabled && state.pending.hasTraffic) = true
  · have hskip : (!config.enabled || !state.pending.hasTraffic) = false := by
      simpa using hcounts
    rw [hskip]
    simp only [hcounts, Bool.false_eq_true, if_false, if_true]
    cases config.activeProfileId with
    | none => exact h.kept
    | some indexId =>
      have hup : CountsAs state.pending.proxyUpBytes
          (books.unflushed.map (·.proxyUpBytes)) := by
        rw [h.pending.proxyUp]
        exact countsAs_sum _
      have hdown : CountsAs state.pending.proxyDownBytes
          (books.unflushed.map (·.proxyDownBytes)) := by
        rw [h.pending.proxyDown]
        exact countsAs_sum _
      have hadded := h.kept.trafficAdded hup hdown indexId day
      dsimp only
      cases hresult : state.store.addTraffic indexId day state.pending.proxyUpBytes
          state.pending.proxyDownBytes with
      | error error =>
        rw [hresult] at hadded
        exact hadded
      | ok result =>
        rw [hresult] at hadded
        exact hadded
  · have hskip : (!config.enabled || !state.pending.hasTraffic) = true := by
      rw [← Bool.not_and, eq_false_of_ne_true hcounts]
      rfl
    rw [hskip]
    simp only [hcounts, if_true, if_false, Bool.false_eq_true]
    cases config.activeProfileId with
    | none => exact h.kept
    | some indexId => exact h.kept

theorem Accounted.step {state : Statistics} {books : Books} (h : Accounted state books)
    (event : Event) : Accounted (state.step event) (books.step event) := by
  cases event with
  | profileAdded indexId => exact ⟨h.kept.addProfile indexId, h.pending⟩
  | profilesRemoved goes => exact ⟨h.kept.removeProfiles goes, h.pending⟩
  | aggregatorStarted day =>
    refine ⟨?_, pending_empty⟩
    change Kept (state.store.deleteOrphans.resetRollover day) (books.ledger.onDay day)
    rw [h.kept.deleteOrphans]
    exact h.kept.resetRollover day
  | sampleReceived sample => exact ⟨h.kept, h.pending.add sample⟩
  | ticked config day => exact ⟨h.flushed config day, pending_empty⟩
  | ensured indexId day => exact ⟨h.kept.ensured indexId day, h.pending⟩
  | trafficAdded indexId day up down =>
    refine ⟨h.kept.trafficAdded ?_ ?_ indexId day, h.pending⟩
    · exact countsAs_single up
    · exact countsAs_single down
  | statCloned indexId toIndexId => exact ⟨h.kept.cloned indexId toIndexId, h.pending⟩

theorem Accounted.foldl {state : Statistics} {books : Books} (h : Accounted state books)
    (events : List Event) :
    Accounted (events.foldl Statistics.step state) (events.foldl Books.step books) := by
  induction events generalizing state books with
  | nil => exact h
  | cons event events ih => exact ih (h.step event)

/-- In every run the rows are those of the servers that have an account, each with the capped sums
of its account and within its totals. -/
theorem traffic_accounted (events : List Event) :
    (∀ indexId,
      Option.Rel Agrees ((Statistics.run events).store.get indexId)
        ((Books.run events).ledger.accounts indexId)) ∧
    ∀ item ∈ (Statistics.run events).store.stats.rows, WithinTotals item := by
  have haccounted : Accounted (Statistics.run events) (Books.run events) :=
    Accounted.foldl ⟨kept_empty, pending_empty⟩ events
  refine ⟨haccounted.kept.rows, fun item hitem => ?_⟩
  have hget : (Statistics.run events).store.get item.indexId = some item :=
    (KeyedTable.get_eq_some_iff ..).mpr ⟨hitem, rfl⟩
  rcases haccounted.kept.cases_get item.indexId with ⟨hnone, _⟩ | ⟨found, account, hfound, _, h⟩
  · rw [hget] at hnone
    cases hnone
  · rw [hget] at hfound
    cases hfound
    exact h.withinTotals

end TrafficBooks
