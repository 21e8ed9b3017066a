import VoyaVPN.SpeedtestReports
import VoyaVPN.TaskLogs

/-! The rows that are stored after a speed test that is neither cancelled nor broken off: for each
profile what was cleared at the start and then its own results, whatever was tested beside it. -/
namespace SpeedtestRows

open Entities AppConfig TaskPool TaskBudget TaskResults TaskLogs Speedtest SpeedtestResults
open SpeedtestCores SpeedtestReports

section Rows

def saved (row : Row) (result : SpeedTestResult) : Row :=
  { delay := result.delay.getD row.delay
    speed := result.speed.getD row.speed
    message := result.message.or row.message
    ipInfo := result.ipInfo.or row.ipInfo }

def resultWrites (result : SpeedTestResult) : List Write :=
  (result.delay.toList.map fun delay => ⟨result.indexId, .delay delay⟩) ++
    (result.speed.toList.map fun speed => ⟨result.indexId, .speed speed⟩) ++
      (result.message.toList.map fun message => ⟨result.indexId, .message message⟩) ++
        result.ipInfo.toList.map fun ipInfo => ⟨result.indexId, .ipInfo ipInfo⟩

def isOf (indexId : String) (write : Write) : Bool := decide (write.indexId = indexId)

variable {indexId : String}

theorem isOf_resultWrites {result : SpeedTestResult} {write : Write}
    (h : write ∈ resultWrites result) : write.indexId = result.indexId := by
  simp only [resultWrites, List.mem_append, List.mem_map] at h
  rcases h with ((⟨_, _, rfl⟩ | ⟨_, _, rfl⟩) | ⟨_, _, rfl⟩) | ⟨_, _, rfl⟩ <;> rfl

theorem stored_own (rows : String → Row) (log : List Write) (indexId : String) :
    stored rows (log.filter (isOf indexId)) indexId = stored rows log indexId := by
  induction log with
  | nil => rfl
  | cons write log ih =>
    by_cases hid : write.indexId = indexId
    · rw [List.filter_cons, if_pos (by simp [isOf, hid]), stored, stored, if_pos hid, if_pos hid,
        ih]
    · rw [List.filter_cons, if_neg (by simp [isOf, hid]), stored, if_neg hid, ih]

theorem stored_append (rows : String → Row) (newer older : List Write) (indexId : String) :
    stored rows (newer ++ older) indexId = stored (stored rows older) newer indexId := by
  induction newer with
  | nil => rfl
  | cons write newer ih => rw [List.cons_append, stored, stored, ih]

theorem stored_result (rows : String → Row) (result : SpeedTestResult) :
    stored rows (resultWrites result).reverse result.indexId =
      saved (rows result.indexId) result := by
  obtain ⟨action, indexId, delay, speed, message, ipInfo⟩ := result
  cases delay <;> cases speed <;> cases message <;> cases ipInfo <;>
    simp [resultWrites, stored, Row.set, saved]

theorem stored_results (rows : String → Row) {results : List SpeedTestResult}
    (h : ∀ result ∈ results, result.indexId = indexId) :
    stored rows (results.flatMap resultWrites).reverse indexId =
      results.foldl saved (rows indexId) := by
  induction results generalizing rows with
  | nil => rfl
  | cons result results ih =>
    have hid := h result List.mem_cons_self
    have hrest := ih (stored rows (resultWrites result).reverse)
      fun other hother => h other (List.mem_cons_of_mem _ hother)
    rw [List.flatMap_cons, List.reverse_append, stored_append, hrest, List.foldl_cons]
    rw [← hid, stored_result]

theorem reports_indexIds {action : SpeedTestKind} {results : List SpeedTestResult}
    (h : Reports action indexId results) : ∀ result ∈ results, result.indexId = indexId := by
  intro result hresult
  obtain ⟨delayed, ⟨⟨_, hdelayed⟩, _⟩, ⟨rfl, _⟩ | ⟨_, speed, ⟨⟨_, hspeed⟩, _⟩, rfl⟩⟩ := h
  · rw [List.mem_singleton.mp hresult]
    exact hdelayed
  · rcases List.mem_cons.mp hresult with rfl | hresult
    · exact hdelayed
    · rw [List.mem_singleton.mp hresult]
      exact hspeed

end Rows

section Items

variable {α : Type} {action : SpeedTestKind} {indexId : String} {written : List Write}

theorem silent_writes {log : List Write} (h : ∀ write ∈ log, write.indexId ≠ indexId) :
    Silent (isOf indexId) (writes log) := by
  induction log with
  | nil => trivial
  | cons write log ih =>
    refine ⟨?_, ih fun other hother => h other (List.mem_cons_of_mem _ hother)⟩
    rw [isOf, decide_eq_false_iff_not]
    exact h write List.mem_cons_self

theorem silent_persisted {result : SpeedTestResult} (h : result.indexId ≠ indexId) :
    Silent (isOf indexId) (persisted result) := by
  apply Silent.bind
  · apply silent_writes
    intro write hwrite
    rw [isOf_resultWrites hwrite]
    exact h
  · exact ends_any _

theorem silent_then {β : Type} {test : Test α} {rest : α → Test β}
    (h : Silent (isOf indexId) test) (hrest : ∀ value, Silent (isOf indexId) (rest value)) :
    Silent (isOf indexId) (test.bind rest) :=
  h.bind ((ends_any test).mono fun value _ => hrest value)

theorem silent_runItem {item : ServerTestItem} (h : item.indexId ≠ indexId) :
    Silent (isOf indexId) (runItem action item) := by
  have hrealping : Silent (isOf indexId) (runRealping action item) := by
    intro answer
    cases answer with
    | ok realping => exact silent_persisted h
    | error error => exact silent_persisted h
  have hdownload : Silent (isOf indexId) (runDownload action item) := by
    intro answer
    cases answer with
    | ok speed => exact silent_persisted h
    | error error => exact silent_persisted h
  have hboth : Silent (isOf indexId) (runRealpingAndDownload action item) := by
    apply silent_then hrealping
    intro delayed
    by_cases hpositive : 0 < delayed.delay.getD 0
    · rw [if_pos hpositive]
      exact silent_then hdownload fun _ => trivial
    · rw [if_neg hpositive]
      trivial
  cases action with
  | tcpConnect => exact silent_then (fun _ => silent_persisted h) fun _ => trivial
  | latency => exact silent_then hrealping fun _ => trivial
  | udp => exact silent_then (fun _ => silent_persisted h) fun _ => trivial
  | download => exact hboth
  | mixed => exact hboth

theorem logs_writes {log : List Write} {post : List Write → α → Prop} {rest : Test α}
    (h : Logs (isOf indexId) post ((log.filter (isOf indexId)).reverse ++ written) rest) :
    Logs (isOf indexId) post written ((writes log).bind fun _ => rest) := by
  induction log generalizing written with
  | nil => exact h
  | cons write log ih =>
    change Logs (isOf indexId) post
      (if isOf indexId write = true then write :: written else written) _
    apply ih
    rw [List.filter_cons] at h
    by_cases hown : isOf indexId write = true
    · rw [if_pos hown] at h ⊢
      rw [List.reverse_cons, List.append_assoc] at h
      exact h
    · rw [if_neg hown] at h ⊢
      exact h

theorem logs_persisted {result : SpeedTestResult} (hid : result.indexId = indexId)
    {post : List Write → SpeedTestResult → Prop}
    (h : post ((resultWrites result).reverse ++ written) result) :
    Logs (isOf indexId) post written (persisted result) := by
  apply logs_writes
  have hown : (resultWrites result).filter (isOf indexId) = resultWrites result := by
    rw [List.filter_eq_self]
    intro write hwrite
    rw [isOf, decide_eq_true_iff, isOf_resultWrites hwrite, hid]
  change Logs (isOf indexId) post (((resultWrites result).filter (isOf indexId)).reverse ++ written)
    (.done result)
  rw [hown]
  exact h

/-- What was written before the test, and then its result. -/
def Adds (written after : List Write) (result : SpeedTestResult) : Prop :=
  after = (resultWrites result).reverse ++ written

def AddsAll (written after : List Write) (results : List SpeedTestResult) : Prop :=
  after = (results.flatMap resultWrites).reverse ++ written

theorem logs_realping {item : ServerTestItem} (h : item.indexId = indexId) :
    Logs (isOf indexId) (Adds written) written (runRealping action item) := by
  intro answer
  cases answer with
  | ok realping => exact logs_persisted h rfl
  | error error => exact logs_persisted h rfl

theorem logs_download {item : ServerTestItem} (h : item.indexId = indexId) :
    Logs (isOf indexId) (Adds written) written (runDownload action item) := by
  intro answer
  cases answer with
  | ok speed => exact logs_persisted h rfl
  | error error => exact logs_persisted h rfl

theorem logs_single {test : Test SpeedTestResult}
    (h : Logs (isOf indexId) (Adds written) written test) :
    Logs (isOf indexId) (AddsAll written) written (single test) := by
  apply Logs.bind
  apply h.mono
  intro after result hafter
  change after = ([result].flatMap resultWrites).reverse ++ written
  rw [List.flatMap_cons, List.flatMap_nil, List.append_nil]
  exact hafter

theorem logs_runItem {item : ServerTestItem} (h : item.indexId = indexId) :
    Logs (isOf indexId) (AddsAll written) written (runItem action item) := by
  have hboth : Logs (isOf indexId) (AddsAll written) written
      (runRealpingAndDownload action item) := by
    apply Logs.bind
    apply (logs_realping h).mono
    intro after delayed hafter
    have hone : after = ([delayed].flatMap resultWrites).reverse ++ written := by
      rw [List.flatMap_cons, List.flatMap_nil, List.append_nil]
      exact hafter
    by_cases hpositive : 0 < delayed.delay.getD 0
    · rw [if_pos hpositive]
      apply Logs.bind
      apply (logs_download h).mono
      intro last speed hlast
      change last = ([delayed, speed].flatMap resultWrites).reverse ++ written
      rw [List.flatMap_cons, List.flatMap_cons, List.flatMap_nil, List.append_nil,
        List.reverse_append, List.append_assoc]
      have hlast' : last = (resultWrites speed).reverse ++ after := hlast
      have hafter' : after = (resultWrites delayed).reverse ++ written := hafter
      rw [hlast', hafter']
    · rw [if_neg hpositive]
      exact hone
  cases action with
  | tcpConnect => exact logs_single fun _ => logs_persisted h rfl
  | latency => exact logs_single (logs_realping h)
  | udp => exact logs_single fun _ => logs_persisted h rfl
  | download => exact hboth
  | mixed => exact hboth

end Items

section Parts

variable {α : Type} {action : SpeedTestKind} {indexId : String}

/-- The results are the report of the profile, and its writes are those of the results. -/
def Saves (action : SpeedTestKind) (indexId : String) (written after : List Write)
    (results : List SpeedTestResult) : Prop :=
  AddsAll written after results ∧ Reports action indexId results

/-- The test leaves the profile alone, or tests it once. -/
structure Covers (action : SpeedTestKind) (indexId : String) (count : Nat)
    (test : Test (List SpeedTestResult)) : Prop where
  none : count = 0 → Silent (isOf indexId) test
  once : count = 1 → ∀ written, Logs (isOf indexId)
    (fun after results => Settled (Saves action indexId written) after results) written test

theorem saves_runItem {item : ServerTestItem} (h : item.indexId = indexId)
    (written : List Write) :
    Logs (isOf indexId) (Saves action indexId written) written (runItem action item) := by
  rw [← h]
  exact (logs_runItem rfl).and (ends_runItem item)

theorem covers_runItem (item : ServerTestItem) :
    Covers action indexId ([item.indexId].count indexId) (runItem action item) where
  none := by
    intro hcount
    apply silent_runItem
    intro hid
    rw [hid, List.count_singleton_self] at hcount
    cases hcount
  once := by
    intro hcount written
    have hid : item.indexId = indexId := by
      by_contra hother
      rw [List.count_singleton, if_neg (by simp [hother])] at hcount
      cases hcount
    exact (saves_runItem hid written).mono fun after results hsaves =>
      ⟨results, fun _ hresult => hresult, hsaves⟩

theorem covers_nothing : Covers action indexId 0 (.done []) where
  none := fun _ => trivial
  once := fun h => by cases h

theorem covers_joined {first second : Nat} {test rest : Test (List SpeedTestResult)}
    (h : Covers action indexId first test) (hrest : Covers action indexId second rest) :
    Covers action indexId (first + second)
      (test.bind fun results => rest.bind fun others => .done (results ++ others)) where
  none := fun hnone => silent_then (h.none (by omega)) fun _ =>
    silent_then (hrest.none (by omega)) fun _ => trivial
  once := by
    intro hone written
    apply Logs.bind
    rcases Nat.eq_zero_or_pos first with hfirst | hfirst
    · apply (h.none hfirst).logs.mono
      intro after results hsame
      rw [hsame]
      apply Logs.bind
      apply (hrest.once (by omega) written).mono
      rintro last others ⟨part, hpart, hsaves⟩
      exact ⟨part, fun result hresult => List.mem_append_right _ (hpart result hresult), hsaves⟩
    · apply (h.once (by omega) written).mono
      intro after results hsettled
      apply Logs.bind
      apply (hrest.none (by omega)).logs.mono
      intro last others hsame
      rw [hsame]
      exact hsettled.append others

theorem covers_startCore {coreType : CoreType} {entries : List (String × Nat)} {count : Nat}
    {rest : Test (List SpeedTestResult)} (h : Covers action indexId count rest) :
    Covers action indexId count
      ((require (.startCore coreType entries) id).bind fun _ => rest) where
  none := by
    intro hcount answer
    cases answer with
    | ok value => exact h.none hcount
    | error error => trivial
  once := by
    intro hcount written answer
    cases answer with
    | ok value => exact h.once hcount written
    | error error => trivial

/-- The first item is tested, where the test goes on, and the others after it. -/
theorem covers_runItems (items : List ServerTestItem) :
    Covers action indexId ((items.map (·.indexId)).count indexId) (runItems action items) := by
  induction items with
  | nil => exact covers_nothing
  | cons item items ih =>
    have hjoined := covers_joined (@covers_runItem action indexId item) ih
    rw [← List.count_append, List.singleton_append] at hjoined
    exact ⟨hjoined.none, hjoined.once⟩

theorem covers_runBatches (coreType : CoreType) (batches : List (List PreparedSpeedtestItem)) :
    Covers action indexId ((batches.flatten.map (·.item.indexId)).count indexId)
      (runBatches action coreType batches) := by
  induction batches with
  | nil => exact covers_nothing
  | cons batch batches ih =>
    have hbatch := @covers_runItems action indexId (batch.map (·.item))
    rw [List.map_map] at hbatch
    rw [List.flatten_cons, List.map_append, List.count_append]
    have hcore := @covers_startCore action indexId coreType (batch.map (·.entry)) _ _
      (covers_joined hbatch ih)
    exact ⟨hcore.none, hcore.once⟩

theorem covers_runGroups (config : Config)
    (groups : List (CoreType × List PreparedSpeedtestItem)) :
    Covers action indexId (((groups.flatMap (·.2)).map (·.item.indexId)).count indexId)
      (runGroups action config groups) := by
  induction groups with
  | nil => exact covers_nothing
  | cons group groups ih =>
    have hbatches := @covers_runBatches action indexId group.1
      (chunks (speedtestPageSize config group.2.length) group.2)
    rw [flatten_chunks (speedtestPageSize_pos config group.2.length)] at hbatches
    rw [List.flatMap_cons, List.map_append, List.count_append]
    have hjoined := covers_joined hbatches ih
    exact ⟨hjoined.none, hjoined.once⟩

theorem silent_require {β : Type} {question : Question}
    {read : Answer question → Except SpeedtestError α} {rest : α → Test β}
    (h : ∀ value, Silent (isOf indexId) (rest value)) :
    Silent (isOf indexId) ((require question read).bind rest) := by
  have hrequire : Silent (isOf indexId) (require question read) := by
    intro answer
    cases hread : read answer with
    | ok value =>
      simp only [hread]
      trivial
    | error error =>
      simp only [hread]
      trivial
  exact silent_then hrequire h

theorem silent_prepareItems (used : List Nat) (items : List ServerTestItem) :
    Silent (isOf indexId) (prepareItems used items) := by
  induction items generalizing used with
  | nil => trivial
  | cons item items ih =>
    exact @silent_require _ _ _ _ _ _ fun socksPort =>
      @silent_require _ _ _ _ _ _ fun coreType =>
        silent_then (ih (socksPort :: used)) fun _ => trivial

theorem silent_prepareSpeedtestItems (items : List ServerTestItem) :
    Silent (isOf indexId) (prepareSpeedtestItems items) :=
  silent_require fun _ => silent_prepareItems [] items

theorem covers_runBatchItems (config : Config) (items : List ServerTestItem) :
    Covers action indexId ((items.map (·.indexId)).count indexId)
      (runBatchItems action config items) := by
  have hgroups : ∀ prepared : List PreparedSpeedtestItem,
      prepared.map (·.item.indexId) = items.map (·.indexId) →
        Covers action indexId ((items.map (·.indexId)).count indexId)
          (runGroups action config (groupPreparedItems prepared)) := by
    intro prepared hprepared
    have hperm := ((groupPreparedItems_perm prepared).map (·.item.indexId)).count_eq indexId
    rw [← hprepared, ← hperm]
    exact covers_runGroups config (groupPreparedItems prepared)
  constructor
  · intro hcount
    apply (silent_prepareSpeedtestItems items).bind
    exact (ends_prepareSpeedtestItems items).mono fun prepared hprepared =>
      (hgroups prepared hprepared).none hcount
  · intro hcount written
    apply Logs.bind
    apply ((silent_prepareSpeedtestItems items).logs.and (ends_prepareSpeedtestItems items)).mono
    rintro after prepared ⟨hsame, hprepared⟩
    rw [hsame]
    exact (hgroups prepared hprepared).once hcount written

theorem together_dedicated_rows (written : List Write) (prepared : List PreparedSpeedtestItem)
    (hcount : (prepared.map (·.item.indexId)).count indexId ≤ 1) :
    Together (Share (isOf indexId) (Saves action indexId written) written)
      (prepared.map (runDedicatedItem action))
      ((prepared.map (·.item.indexId)).count indexId) := by
  induction prepared with
  | nil => rfl
  | cons entry prepared ih =>
    have hsplit : ((entry :: prepared).map (·.item.indexId)).count indexId =
        [entry.item.indexId].count indexId + (prepared.map (·.item.indexId)).count indexId := by
      rw [← List.count_append, List.singleton_append, List.map_cons]
    rw [hsplit] at hcount ⊢
    refine ⟨_, _, rfl, ?_, ih (by omega)⟩
    by_cases hid : entry.item.indexId = indexId
    · right
      rw [hid, List.count_singleton_self]
      refine ⟨rfl, fun answer => ?_⟩
      cases answer with
      | ok value => exact saves_runItem hid written
      | error error => trivial
    · left
      rw [List.count_singleton, if_neg (by simp [hid])]
      refine ⟨rfl, fun answer => ?_⟩
      cases answer with
      | ok value => exact silent_runItem hid
      | error error => trivial

end Parts

section Runs

variable {profiles : List ProfileItem} {config : Config} {action : SpeedTestKind}
variable {indexIds : List String} {selected : List ServerTestItem} {indexId : String}

theorem filter_clearWrites (items : List ServerTestItem) :
    (items.flatMap fun item => clearWrites action item.indexId).filter (isOf indexId) =
      (List.replicate ((items.map (·.indexId)).count indexId)
        (clearWrites action indexId)).flatten := by
  induction items with
  | nil => rfl
  | cons item items ih =>
    rw [List.flatMap_cons, List.filter_append, ih, List.map_cons, List.count_cons]
    by_cases hid : item.indexId = indexId
    · have hown : (clearWrites action item.indexId).filter (isOf indexId) =
          clearWrites action indexId := by
        rw [hid]
        cases action <;> simp [clearWrites, isOf]
      rw [hown, if_pos (by simp [hid]), List.replicate_succ, List.flatten_cons]
    · have hother : (clearWrites action item.indexId).filter (isOf indexId) = [] := by
        cases action <;> simp [clearWrites, isOf, hid]
      rw [hother, if_neg (by simp [hid]), List.nil_append, Nat.add_zero]

theorem logs_noTasks {test : Test (List SpeedTestResult)} {written : List Write}
    (h : Covers action indexId 1 test) :
    Logs (isOf indexId) (PlanLogs (isOf indexId) (Saves action indexId written)) written
      (test.bind fun results => .done (noTasks results)) := by
  apply Logs.bind
  apply (h.once rfl written).mono
  intro after results hsettled
  exact ⟨Nat.zero_lt_one, 0, 1, rfl, rfl, fun _ => hsettled⟩

theorem logs_dedicated {written : List Write}
    (hone : (selected.map (·.indexId)).count indexId = 1) :
    Logs (isOf indexId) (PlanLogs (isOf indexId) (Saves action indexId written)) written
      (runConcurrentDedicatedItems action config selected) := by
  apply Logs.bind
  apply ((silent_prepareSpeedtestItems selected).logs.and
    (ends_prepareSpeedtestItems selected)).mono
  rintro after prepared ⟨hsame, hprepared⟩
  rw [hsame]
  rw [← hprepared] at hone
  refine ⟨dedicatedConcurrencyCount_pos action config selected.length, 1, 0, rfl, ?_,
    fun h => by cases h⟩
  have htasks := @together_dedicated_rows action indexId written prepared (by omega)
  rw [hone] at htasks
  exact htasks

theorem logs_runInner (hone : (selected.map (·.indexId)).count indexId = 1) :
    Logs (isOf indexId)
      (PlanLogs (isOf indexId) (Saves action indexId (clearWrites action indexId).reverse)) []
      (runInner action config selected) := by
  apply logs_writes
  rw [filter_clearWrites, hone, List.replicate_one, List.flatten_cons, List.flatten_nil,
    List.append_nil, List.append_nil]
  have hitems := @covers_runItems action indexId selected
  have hbatches := @covers_runBatchItems action indexId config selected
  rw [hone] at hitems hbatches
  cases action with
  | tcpConnect => exact logs_noTasks hitems
  | latency => exact logs_noTasks hbatches
  | udp => exact logs_noTasks hbatches
  | download => exact logs_dedicated hone
  | mixed => exact logs_dedicated hone

/-- After a run that ends well and is not cancelled, the row of a profile that is selected once is
the one from before, cleared, with the results that are reported for the profile. -/
theorem rows_of_run
    (hselected : selectTestItems profiles config indexIds = .ok selected)
    (hone : (selected.map (·.indexId)).count indexId = 1)
    {meets : TestState → Label Write Answer → Prop} {state : TestState}
    (hrun : Run meets (start (runWithCallback profiles config action indexIds)) state)
    (hflag : state.cancelled = false) {results : List SpeedTestResult}
    (hend : state.stage = .finished (.ok results)) (rows : String → Row) :
    ∃ part, (∀ result ∈ part, result ∈ results) ∧ Reports action indexId part ∧
      stored rows state.log indexId =
        part.foldl saved (stored rows (clearWrites action indexId).reverse indexId) := by
  rw [runWithCallback_selected hselected] at hrun
  obtain ⟨part, hpart, hadds, hreports⟩ := settled_of_run (logs_runInner hone) hrun hflag hend
  refine ⟨part, hpart, hreports, ?_⟩
  rw [← stored_own, hadds, stored_append, stored_results _ (reports_indexIds hreports)]

theorem rows_of_probed : ∃ (state : TestState) (results : List SpeedTestResult),
    Run (fun _ _ => True) (start (runWithCallback [probedProfile "x"] {} .tcpConnect [])) state ∧
      state.stage = .finished (.ok results) ∧
        ∀ rows : String → Row, ∃ part, (∀ result ∈ part, result ∈ results) ∧
          Reports .tcpConnect "n" part ∧ stored rows state.log "n" =
            part.foldl saved (stored rows (clearWrites .tcpConnect "n").reverse "n") := by
  obtain ⟨state, results, hrun, hflag, hend⟩ := probed_run
  exact ⟨state, results, hrun, hend,
    fun rows => rows_of_run (probed_selected "x") rfl hrun hflag hend rows⟩

end Runs

end SpeedtestRows
