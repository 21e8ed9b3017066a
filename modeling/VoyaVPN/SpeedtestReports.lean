import VoyaVPN.SpeedtestCores
import VoyaVPN.TaskResults

/-! The results of a speed test that is neither cancelled nor broken off: one report for each
profile that is selected, whichever cores test the profiles and in whatever order they take their
steps. -/
namespace SpeedtestReports

open Entities AppConfig TaskPool TaskBudget TaskResults Speedtest SpeedtestResults SpeedtestCores

section Items

def IsFor (action : SpeedTestKind) (indexId : String) (result : SpeedTestResult) : Prop :=
  result.action = action ∧ result.indexId = indexId

def Delayed (action : SpeedTestKind) (indexId : String) (result : SpeedTestResult) : Prop :=
  IsFor action indexId result ∧ result.delay.isSome = true ∧ result.speed = none

def Sped (action : SpeedTestKind) (indexId : String) (result : SpeedTestResult) : Prop :=
  IsFor action indexId result ∧ result.speed.isSome = true ∧ result.delay = none

def AsksSpeed (action : SpeedTestKind) : Prop := action = .download ∨ action = .mixed

/-- What is reported for a profile: a delay, and after it a speed where the action asks for one and
the delay is positive. -/
def Reports (action : SpeedTestKind) (indexId : String) (results : List SpeedTestResult) : Prop :=
  ∃ delayed, Delayed action indexId delayed ∧
    (results = [delayed] ∧ ¬(AsksSpeed action ∧ 0 < delayed.delay.getD 0) ∨
      (AsksSpeed action ∧ 0 < delayed.delay.getD 0) ∧
        ∃ speed, Sped action indexId speed ∧ results = [delayed, speed])

variable {α : Type} {action : SpeedTestKind}

theorem ends_any (test : Test α) : Ends (fun _ => True) test :=
  ends_of_clean (clean_idle test)

theorem ends_persisted {post : SpeedTestResult → Prop} {result : SpeedTestResult}
    (h : post result) : Ends post (persisted result) := by
  apply Ends.bind
  apply (ends_any _).mono
  intro _ _
  exact h

theorem ends_realping (item : ServerTestItem) :
    Ends (Delayed action item.indexId) (runRealping action item) := by
  intro answer
  apply ends_persisted
  cases answer with
  | ok realping => exact ⟨⟨rfl, rfl⟩, rfl, rfl⟩
  | error error => exact ⟨⟨rfl, rfl⟩, rfl, rfl⟩

theorem ends_download (item : ServerTestItem) :
    Ends (Sped action item.indexId) (runDownload action item) := by
  intro answer
  apply ends_persisted
  cases answer with
  | ok speed => exact ⟨⟨rfl, rfl⟩, rfl, rfl⟩
  | error error => exact ⟨⟨rfl, rfl⟩, rfl, rfl⟩

theorem ends_single {indexId : String} (haction : ¬AsksSpeed action) {test : Test SpeedTestResult}
    (h : Ends (Delayed action indexId) test) : Ends (Reports action indexId) (single test) := by
  apply Ends.bind
  apply h.mono
  intro delayed hdelayed
  exact ⟨delayed, hdelayed, Or.inl ⟨rfl, fun hboth => haction hboth.1⟩⟩

theorem ends_runRealpingAndDownload (haction : AsksSpeed action) (item : ServerTestItem) :
    Ends (Reports action item.indexId) (runRealpingAndDownload action item) := by
  apply Ends.bind
  apply (ends_realping item).mono
  intro delayed hdelayed
  by_cases hpositive : 0 < delayed.delay.getD 0
  · rw [if_pos hpositive]
    apply Ends.bind
    apply (ends_download item).mono
    intro speed hspeed
    exact ⟨delayed, hdelayed, Or.inr ⟨⟨haction, hpositive⟩, speed, hspeed, rfl⟩⟩
  · rw [if_neg hpositive]
    exact ⟨delayed, hdelayed, Or.inl ⟨rfl, fun hboth => hpositive hboth.2⟩⟩

theorem ends_runItem (item : ServerTestItem) :
    Ends (Reports action item.indexId) (runItem action item) := by
  have hplain : ∀ kind : SpeedTestKind, kind = .tcpConnect ∨ kind = .latency ∨ kind = .udp →
      ¬AsksSpeed kind := by
    rintro kind (rfl | rfl | rfl) (hkind | hkind) <;> cases hkind
  cases action with
  | tcpConnect =>
    exact ends_single (hplain _ (Or.inl rfl)) fun _ => ends_persisted ⟨⟨rfl, rfl⟩, rfl, rfl⟩
  | latency => exact ends_single (hplain _ (Or.inr (Or.inl rfl))) (ends_realping item)
  | udp =>
    exact ends_single (hplain _ (Or.inr (Or.inr rfl))) fun _ =>
      ends_persisted ⟨⟨rfl, rfl⟩, rfl, rfl⟩
  | download => exact ends_runRealpingAndDownload (Or.inl rfl) item
  | mixed => exact ends_runRealpingAndDownload (Or.inr rfl) item

end Items

section Parts

variable {α : Type} {action : SpeedTestKind}

theorem ends_joined {first second : Multiset String} {test rest : Test (List SpeedTestResult)}
    (h : Ends (Reported (Reports action) first) test)
    (hrest : Ends (Reported (Reports action) second) rest) :
    Ends (Reported (Reports action) (first + second))
      (test.bind fun results => rest.bind fun others => .done (results ++ others)) := by
  apply Ends.bind
  apply h.mono
  intro results hresults
  apply Ends.bind
  apply hrest.mono
  intro others hothers
  exact hresults.add hothers

theorem ends_runItems (items : List ServerTestItem) :
    Ends (Reported (Reports action) (items.map (·.indexId) : List String))
      (runItems action items) := by
  induction items with
  | nil => exact reported_none
  | cons item items ih =>
    exact ends_joined ((ends_runItem item).mono fun _ hreports => reported_one hreports) ih

theorem ends_startCore {coreType : CoreType} {entries : List (String × Nat)} {post : α → Prop}
    {rest : Test α} (h : Ends post rest) :
    Ends post ((require (.startCore coreType entries) id).bind fun _ => rest) := by
  intro answer
  cases answer with
  | ok value => exact h
  | error error => trivial

theorem ends_runBatches (coreType : CoreType) (batches : List (List PreparedSpeedtestItem)) :
    Ends (Reported (Reports action) (batches.flatten.map (·.item.indexId) : List String))
      (runBatches action coreType batches) := by
  induction batches with
  | nil => exact reported_none
  | cons batch batches ih =>
    have hbatch := @ends_runItems action (batch.map (·.item))
    rw [List.map_map] at hbatch
    rw [List.flatten_cons, List.map_append, ← Multiset.coe_add]
    exact ends_startCore (ends_joined hbatch ih)

theorem ends_runGroups (config : Config) (groups : List (CoreType × List PreparedSpeedtestItem)) :
    Ends (Reported (Reports action)
      ((groups.flatMap (·.2)).map (·.item.indexId) : List String))
      (runGroups action config groups) := by
  induction groups with
  | nil => exact reported_none
  | cons group groups ih =>
    have hbatches := @ends_runBatches action group.1
      (chunks (speedtestPageSize config group.2.length) group.2)
    rw [flatten_chunks (speedtestPageSize_pos config group.2.length)] at hbatches
    rw [List.flatMap_cons, List.map_append, ← Multiset.coe_add]
    exact ends_joined hbatches ih

theorem ends_prepareSpeedtestItems (items : List ServerTestItem) :
    Ends (fun prepared => prepared.map (·.item.indexId) = items.map (·.indexId))
      (prepareSpeedtestItems items) :=
  ends_of_clean (@works_prepareSpeedtestItems .latency "" items).clean

theorem ends_runBatchItems (config : Config) (items : List ServerTestItem) :
    Ends (Reported (Reports action) (items.map (·.indexId) : List String))
      (runBatchItems action config items) := by
  apply Ends.bind
  apply (ends_prepareSpeedtestItems items).mono
  intro prepared hprepared
  have hids : (((groupPreparedItems prepared).flatMap (·.2)).map (·.item.indexId)).Perm
      (items.map (·.indexId)) := by
    rw [← hprepared]
    exact (groupPreparedItems_perm prepared).map _
  rw [← Multiset.coe_eq_coe.mpr hids]
  exact ends_runGroups config (groupPreparedItems prepared)

theorem together_reports (prepared : List PreparedSpeedtestItem) :
    Together (Owes (Reports action)) (prepared.map (runDedicatedItem action))
      (prepared.map (·.item.indexId) : List String) := by
  induction prepared with
  | nil => rfl
  | cons entry prepared ih =>
    refine ⟨{entry.item.indexId}, _, rfl, ?_, ih⟩
    exact ends_startCore ((ends_runItem entry.item).mono fun _ hreports => reported_one hreports)

end Parts

section Runs

variable {profiles : List ProfileItem} {config : Config} {action : SpeedTestKind}
variable {indexIds : List String} {selected : List ServerTestItem}

theorem ends_noTasks {items : Multiset String} {test : Test (List SpeedTestResult)}
    (h : Ends (Reported (Reports action) items) test) :
    Ends (PlanOwes (Reports action) items) (test.bind fun results => .done (noTasks results)) := by
  apply Ends.bind
  apply h.mono
  intro results hresults
  exact ⟨Nat.zero_lt_one, 0, items, (zero_add items).symm, rfl, hresults⟩

theorem ends_dedicated (items : List ServerTestItem) :
    Ends (PlanOwes (Reports action) (items.map (·.indexId) : List String))
      (runConcurrentDedicatedItems action config items) := by
  apply Ends.bind
  apply (ends_prepareSpeedtestItems items).mono
  intro prepared hprepared
  refine ⟨dedicatedConcurrencyCount_pos action config items.length,
    (prepared.map (·.item.indexId) : List String), 0, ?_, together_reports prepared, reported_none⟩
  rw [add_zero, hprepared]

theorem ends_runInner :
    Ends (PlanOwes (Reports action) (selected.map (·.indexId) : List String))
      (runInner action config selected) := by
  apply Ends.bind
  apply (ends_any _).mono
  intro _ _
  have hitems := ends_noTasks (@ends_runItems action selected)
  have hbatches := ends_noTasks (@ends_runBatchItems action config selected)
  have hdedicated := @ends_dedicated config action selected
  cases action with
  | tcpConnect => exact hitems
  | latency => exact hbatches
  | udp => exact hbatches
  | download => exact hdedicated
  | mixed => exact hdedicated

/-- A run that ends well and is not cancelled reports every profile that is selected, each as often
as it is selected and with the results that its action asks for, and nothing else. -/
theorem reports_of_run
    (hselected : selectTestItems profiles config indexIds = .ok selected)
    {meets : TestState → Label Write Answer → Prop} {state : TestState}
    (hrun : Run meets (start (runWithCallback profiles config action indexIds)) state)
    (hflag : state.cancelled = false) {results : List SpeedTestResult}
    (hend : state.stage = .finished (.ok results)) :
    ∃ parts : List (String × List SpeedTestResult),
      (parts.map Prod.fst).Perm (selected.map (·.indexId)) ∧
        (∀ part ∈ parts, Reports action part.1 part.2) ∧
          results.Perm (parts.flatMap Prod.snd) := by
  rw [runWithCallback_selected hselected] at hrun
  obtain ⟨parts, hids, hparts, hresults⟩ := reported_of_run ends_runInner hrun hflag hend
  exact ⟨parts, Multiset.coe_eq_coe.mp hids, hparts, hresults⟩

theorem probed_run : ∃ (state : TestState) (results : List SpeedTestResult),
    Run (fun _ _ => True) (start (runWithCallback [probedProfile "x"] {} .tcpConnect [])) state ∧
      state.cancelled = false ∧ state.stage = .finished (.ok results) := by
  rw [runWithCallback_selected (probed_selected "x")]
  have hcleared := (((Run.refl _ : Run (fun _ _ => True)
    (start (runInner .tcpConnect {} [probedItem "x"])) _).tail trivial
      (Step.main _ _ (Advance.write _ _))).tail trivial (Step.main _ _ (Advance.write _ _))).tail
        trivial (Step.main _ _ (Advance.check _))
  have hprobe := hcleared.tail trivial
    (Step.main _ _ (Advance.answer (Question.tcping (probedItem "x")) _ (Except.ok 12)))
  have hstored := (hprobe.tail trivial (Step.main _ _ (Advance.write _ _))).tail trivial
    (Step.main _ _ (Advance.write _ _))
  have hpool := (hstored.tail trivial (Step.launch _ _ _)).tail trivial
    (Step.turn _ _ (Turn.full _ rfl (Or.inr rfl)))
  exact ⟨_, _, hpool.tail trivial (Step.turn _ _ (Turn.finish _ rfl rfl)), rfl, rfl⟩

theorem reports_of_probed : ∃ (state : TestState) (results : List SpeedTestResult),
    Run (fun _ _ => True) (start (runWithCallback [probedProfile "x"] {} .tcpConnect [])) state ∧
      state.stage = .finished (.ok results) ∧
        ∃ parts : List (String × List SpeedTestResult),
          (parts.map Prod.fst).Perm ([probedItem "x"].map (·.indexId)) ∧
            (∀ part ∈ parts, Reports .tcpConnect part.1 part.2) ∧
              results.Perm (parts.flatMap Prod.snd) := by
  obtain ⟨state, results, hrun, hflag, hend⟩ := probed_run
  exact ⟨state, results, hrun, hend, reports_of_run (probed_selected "x") hrun hflag hend⟩

end Runs

end SpeedtestReports
