import VoyaVPN.SpeedtestResults
import VoyaVPN.TaskBudget

/-! The cores that a speed test starts: over every order of the steps of the tests no two of them
share a port, no profile is given a core twice, and no more tests are under way than the settings
allow. -/
namespace SpeedtestCores

open Entities AppConfig TaskPool TaskBudget Speedtest SpeedtestResults

section Ports

/-- The entries that a core is started with, each with its port. -/
def cores : Question → Multiset (String × Nat)
  | .startCore _ entries => entries
  | _ => 0

/-- Entries of items that are selected, with ports of their own. -/
structure Apart (items : List ServerTestItem) (entries : Multiset (String × Nat)) : Prop where
  selected : entries.map Prod.fst ≤ (items.map (·.indexId) : List String)
  ports : (entries.map Prod.snd).Nodup
  inRange : ∀ entry ∈ entries, entry.2 < 2 ^ 16

/-- The items are prepared in order, with ports of their own that are not in use. -/
structure Prepared (used : List Nat) (items : List ServerTestItem)
    (prepared : List PreparedSpeedtestItem) : Prop where
  indexIds : prepared.map (·.item.indexId) = items.map (·.indexId)
  ports : (prepared.map (·.item.socksPort)).Nodup
  unused : ∀ entry ∈ prepared, entry.item.socksPort ∉ used ∧ entry.item.socksPort < 2 ^ 16

variable {items : List ServerTestItem} {used : List Nat}

theorem apart_none : Apart items 0 where
  selected := Multiset.zero_le _
  ports := Multiset.nodup_zero
  inRange := fun entry hentry => absurd hentry (Multiset.notMem_zero entry)

theorem Apart.less {first second : Multiset (String × Nat)} (h : Apart items (first + second)) :
    Apart items first where
  selected := by
    have hselected := h.selected
    rw [Multiset.map_add] at hselected
    exact (Multiset.le_add_right _ _).trans hselected
  ports := by
    have hports := h.ports
    rw [Multiset.map_add] at hports
    exact Multiset.nodup_of_le (Multiset.le_add_right _ _) hports
  inRange := fun entry hentry => h.inRange entry (Multiset.mem_add.mpr (Or.inl hentry))

theorem Prepared.apart {prepared : List PreparedSpeedtestItem} (h : Prepared used items prepared) :
    Apart items (prepared.map (·.entry) : List (String × Nat)) where
  selected := by
    rw [Multiset.map_coe, List.map_map]
    exact le_of_eq (congrArg _ h.indexIds)
  ports := by
    rw [Multiset.map_coe, List.map_map, Multiset.coe_nodup]
    exact h.ports
  inRange := by
    intro entry hentry
    obtain ⟨item, hitem, rfl⟩ := List.mem_map.mp (Multiset.mem_coe.mp hentry)
    exact (h.unused item hitem).2

theorem searchPort_unused {available : Nat → Bool} {fuel port found : Nat} (hport : port < 2 ^ 16)
    (h : searchPort available used fuel port = some found) : found ∉ used ∧ found < 2 ^ 16 := by
  induction fuel generalizing port with
  | zero => cases h
  | succ fuel ih =>
    rw [searchPort] at h
    by_cases hfree : (!used.contains port && available port) = true
    · rw [if_pos hfree] at h
      cases h
      rw [Bool.and_eq_true, Bool.not_eq_true', List.contains_eq_mem,
        decide_eq_false_iff_not] at hfree
      exact ⟨hfree.1, hport⟩
    · rw [if_neg hfree] at h
      by_cases hlast : port = 65535
      · rw [if_pos hlast] at h
        cases h
      · rw [if_neg hlast] at h
        exact ih (by omega) h

theorem findFreeSpeedtestPort_unused {available : Nat → Bool} {start : Int} {port : Nat}
    (h : findFreeSpeedtestPort available start used = .ok port) : port ∉ used ∧ port < 2 ^ 16 := by
  rw [findFreeSpeedtestPort] at h
  by_cases hstart : 0 ≤ start ∧ start < 2 ^ 16
  · rw [if_pos hstart] at h
    cases hfound : searchPort available used (2 ^ 16) start.toNat with
    | none =>
      rw [hfound] at h
      cases h
    | some found =>
      rw [hfound] at h
      cases h
      exact searchPort_unused (by omega) hfound
  · rw [if_neg hstart] at h
    cases h

end Ports

section Questions

variable {α : Type} {allowed : Multiset (String × Nat) → Prop} {used : Multiset (String × Nat)}

theorem allows_require {question : Question} {read : Answer question → Except SpeedtestError α}
    {post : Multiset (String × Nat) → α → Prop} (hcost : cores question = 0) (hused : allowed used)
    (hpost : ∀ answer value, read answer = .ok value → post used value) :
    Allows cores allowed post used (require question read) := by
  have hnothing : used + cores question = used := by rw [hcost, add_zero]
  refine ⟨?_, fun answer => ?_⟩
  · rw [hnothing]
    exact hused
  · rw [hnothing]
    cases hread : read answer with
    | ok value =>
      simp only [hread]
      exact hpost answer value hread
    | error error =>
      simp only [hread]
      trivial

theorem allows_writes {post : Multiset (String × Nat) → α → Prop} {rest : Test α}
    (h : Allows cores allowed post used rest) (log : List Write) :
    Allows cores allowed post used ((writes log).bind fun _ => rest) := by
  induction log with
  | nil => exact h
  | cons write log ih => exact ih

theorem allows_prepareItems (hused : allowed used) (ports : List Nat)
    (items : List ServerTestItem) :
    Allows cores allowed (fun after prepared => after = used ∧ Prepared ports items prepared) used
      (prepareItems ports items) := by
  induction items generalizing ports with
  | nil =>
    exact ⟨rfl, rfl, List.nodup_nil, fun entry hentry => absurd hentry List.not_mem_nil⟩
  | cons item items ih =>
    rw [prepareItems]
    apply Allows.bind
    apply allows_require rfl hused
    intro available socksPort hfound
    obtain ⟨hunused, hrange⟩ := findFreeSpeedtestPort_unused hfound
    apply Allows.bind
    apply allows_require rfl hused
    intro _ coreType _
    apply Allows.bind
    apply (ih (socksPort :: ports)).mono
    rintro _ rest ⟨rfl, hrest⟩
    refine ⟨rfl, ?_, ?_, ?_⟩
    · rw [List.map_cons, List.map_cons, hrest.indexIds]
    · rw [List.map_cons, List.nodup_cons]
      refine ⟨?_, hrest.ports⟩
      rw [List.mem_map]
      rintro ⟨entry, hentry, hport⟩
      exact (hrest.unused entry hentry).1 (hport ▸ List.mem_cons_self)
    · intro entry hentry
      rcases List.mem_cons.mp hentry with rfl | hentry
      · exact ⟨hunused, hrange⟩
      · obtain ⟨hother, hsmall⟩ := hrest.unused entry hentry
        exact ⟨fun hmem => hother (List.mem_cons_of_mem _ hmem), hsmall⟩

theorem allows_prepareSpeedtestItems (hused : allowed used) (items : List ServerTestItem) :
    Allows cores allowed (fun after prepared => after = used ∧ Prepared [] items prepared) used
      (prepareSpeedtestItems items) := by
  apply Allows.bind
  apply allows_require rfl hused
  intro _ _ _
  exact allows_prepareItems hused [] items

end Questions

section Shares

variable {α : Type} {share : Multiset (String × Nat)}

theorem within_done (value : α) :
    Within cores (fun left _ => left = share) share (.done value : Test α) :=
  rfl

theorem within_writes (log : List Write) :
    Within cores (fun left _ => left = share) share (writes log) := by
  induction log with
  | nil => rfl
  | cons write log ih => exact ih

theorem within_probe {question : Question} {next : Answer question → Test α}
    (hcost : cores question = 0)
    (h : ∀ answer, Within cores (fun left _ => left = share) share (next answer)) :
    Within cores (fun left _ => left = share) share (.ask question next) := by
  refine ⟨share, ?_, h⟩
  rw [hcost, zero_add]

theorem within_persisted (result : SpeedTestResult) :
    Within cores (fun left _ => left = share) share (persisted result) :=
  (within_writes _).bind_same fun _ => within_done result

theorem within_single {test : Test SpeedTestResult}
    (h : Within cores (fun left _ => left = share) share test) :
    Within cores (fun left _ => left = share) share (single test) :=
  h.bind_same fun result => within_done [result]

theorem within_runItem (action : SpeedTestKind) (item : ServerTestItem) :
    Within cores (fun left _ => left = share) share (runItem action item) := by
  have hrealping : Within cores (fun left _ => left = share) share (runRealping action item) :=
    within_probe rfl fun _ => within_persisted _
  have hdownload : Within cores (fun left _ => left = share) share (runDownload action item) :=
    within_probe rfl fun _ => within_persisted _
  have hboth : Within cores (fun left _ => left = share) share
      (runRealpingAndDownload action item) := by
    apply hrealping.bind_same
    intro realping
    split
    · intro flag
      cases flag with
      | true => exact within_done _
      | false => exact hdownload.bind_same fun speed => within_done _
    · exact within_done _
  cases action with
  | tcpConnect => exact within_single (within_probe rfl fun _ => within_persisted _)
  | latency => exact within_single hrealping
  | udp => exact within_single (within_probe rfl fun _ => within_persisted _)
  | download => exact hboth
  | mixed => exact hboth

theorem within_runItems (action : SpeedTestKind) (items : List ServerTestItem) :
    Within cores (fun left _ => left = share) share (runItems action items) := by
  induction items with
  | nil => rfl
  | cons item items ih =>
    intro flag
    cases flag with
    | true => rfl
    | false =>
      apply (within_runItem action item).bind_same
      intro results
      exact ih.bind_same fun rest => within_done _

theorem within_startCore {coreType : CoreType} {entries : List (String × Nat)}
    {post : Multiset (String × Nat) → α → Prop} {rest : Test α} (extra : Multiset (String × Nat))
    (h : Within cores post extra rest) :
    Within cores post (entries + extra)
      ((require (.startCore coreType entries) id).bind fun _ => rest) := by
  refine ⟨extra, rfl, fun answer => ?_⟩
  cases answer with
  | ok value => exact h
  | error error => trivial

theorem within_runBatches (action : SpeedTestKind) (coreType : CoreType)
    (batches : List (List PreparedSpeedtestItem)) (extra : Multiset (String × Nat)) :
    Within cores (fun left _ => ∃ spare, left = spare + extra)
      ((batches.flatten.map (·.entry) : List (String × Nat)) + extra)
      (runBatches action coreType batches) := by
  induction batches with
  | nil => exact ⟨_, rfl⟩
  | cons batch batches ih =>
    intro flag
    cases flag with
    | true => exact ⟨_, rfl⟩
    | false =>
      rw [List.flatten_cons, List.map_append, ← Multiset.coe_add, add_assoc]
      apply within_startCore
      apply (within_runItems action _).bind_same
      intro results
      apply Within.bind
      exact ih.mono fun left rest hleft => hleft

theorem within_runGroups (action : SpeedTestKind) (config : Config)
    (groups : List (CoreType × List PreparedSpeedtestItem)) :
    Within cores (fun _ _ => True)
      ((groups.flatMap (·.2)).map (·.entry) : List (String × Nat))
      (runGroups action config groups) := by
  induction groups with
  | nil => trivial
  | cons group groups ih =>
    intro flag
    cases flag with
    | true => trivial
    | false =>
      have hbatches := within_runBatches action group.1
        (chunks (speedtestPageSize config group.2.length) group.2)
        ((groups.flatMap (·.2)).map (·.entry) : List (String × Nat))
      rw [flatten_chunks (speedtestPageSize_pos config group.2.length)] at hbatches
      rw [List.flatMap_cons, List.map_append, ← Multiset.coe_add]
      apply Within.bind
      apply hbatches.mono
      rintro left results ⟨spare, rfl⟩
      apply Within.bind
      rw [add_comm]
      exact (ih.add spare).mono fun _ _ _ => trivial

theorem within_runDedicatedItem (action : SpeedTestKind) (prepared : PreparedSpeedtestItem) :
    Within cores (fun _ _ => True) ([prepared.entry] : List (String × Nat))
      (runDedicatedItem action prepared) := by
  have hitem : Within cores (fun _ _ => True) ([prepared.entry] + 0 : Multiset (String × Nat))
      (runDedicatedItem action prepared) :=
    within_startCore 0 ((within_runItem action prepared.item).mono fun _ _ _ => trivial)
  rw [add_zero] at hitem
  exact hitem

theorem together_dedicated (action : SpeedTestKind) (prepared : List PreparedSpeedtestItem) :
    Together (Spares cores) (prepared.map (runDedicatedItem action))
      (prepared.map (·.entry) : List (String × Nat)) := by
  induction prepared with
  | nil => rfl
  | cons entry prepared ih => exact ⟨_, _, rfl, within_runDedicatedItem action entry, ih⟩

end Shares

section Runs

variable {profiles : List ProfileItem} {config : Config} {action : SpeedTestKind}
variable {indexIds : List String} {selected : List ServerTestItem}

theorem launches_noTasks {entries : Multiset (String × Nat)} (h : Apart selected entries)
    (results : List SpeedTestResult) :
    Launches cores (Apart selected) entries (noTasks results) := by
  refine ⟨0, ?_, rfl⟩
  rw [add_zero]
  exact h

theorem allows_batches :
    Allows cores (Apart selected) (Launches cores (Apart selected)) 0
      ((runBatchItems action config selected).bind fun results => .done (noTasks results)) := by
  apply Allows.bind
  apply Allows.bind
  apply (allows_prepareSpeedtestItems apart_none selected).mono
  rintro _ prepared ⟨rfl, hprepared⟩
  have hentries : ((prepared.map (·.entry) : List (String × Nat)) : Multiset (String × Nat)) =
      (((groupPreparedItems prepared).flatMap (·.2)).map (·.entry) : List (String × Nat)) :=
    Multiset.coe_eq_coe.mpr ((groupPreparedItems_perm prepared).symm.map _)
  have hallowed : Apart selected (0 +
      (((groupPreparedItems prepared).flatMap (·.2)).map (·.entry) : List (String × Nat))) := by
    rw [zero_add, ← hentries]
    exact hprepared.apart
  apply ((within_runGroups action config (groupPreparedItems prepared)).allows
    (fun _ _ => Apart.less) hallowed).mono
  rintro after results ⟨left, hafter, _⟩
  exact launches_noTasks hafter.less results

theorem allows_dedicated :
    Allows cores (Apart selected) (Launches cores (Apart selected)) 0
      (runConcurrentDedicatedItems action config selected) := by
  intro flag
  cases flag with
  | true => exact launches_noTasks apart_none []
  | false =>
    apply Allows.bind
    apply (allows_prepareSpeedtestItems apart_none selected).mono
    rintro _ prepared ⟨rfl, hprepared⟩
    refine ⟨(prepared.map (·.entry) : List (String × Nat)), ?_, together_dedicated action prepared⟩
    rw [zero_add]
    exact hprepared.apart

theorem allows_runInner :
    Allows cores (Apart selected) (Launches cores (Apart selected)) 0
      (runInner action config selected) := by
  apply allows_writes
  have hitems : Allows cores (Apart selected) (Launches cores (Apart selected)) 0
      ((runItems action selected).bind fun results => .done (noTasks results)) := by
    apply Allows.bind
    apply ((within_runItems action selected).allows (fun _ _ => Apart.less)
      (show Apart selected (0 + 0) by rw [add_zero]; exact apart_none)).mono
    rintro after results ⟨left, hafter, _⟩
    exact launches_noTasks hafter.less results
  cases action with
  | tcpConnect => exact hitems
  | latency => exact allows_batches
  | udp => exact allows_batches
  | download => exact allows_dedicated
  | mixed => exact allows_dedicated

theorem runWithCallback_selected
    (hselected : selectTestItems profiles config indexIds = .ok selected) :
    runWithCallback profiles config action indexIds = runInner action config selected := by
  rw [runWithCallback, hselected]

/-- The cores that a run starts have entries of profiles that are selected, none more often than it
is selected, each with a port that no other entry has. -/
theorem cores_apart_of_run
    (hselected : selectTestItems profiles config indexIds = .ok selected) {state : TestState}
    {entries : Multiset (String × Nat)}
    (hrun : Spends cores (start (runWithCallback profiles config action indexIds)) state entries) :
    entries.map Prod.fst ≤ (selected.map (·.indexId) : List String) ∧
      (entries.map Prod.snd).Nodup ∧ ∀ entry ∈ entries, entry.2 < 2 ^ 16 := by
  rw [runWithCallback_selected hselected] at hrun
  have hapart : Apart selected entries :=
    allowed_of_run (fun _ _ => Apart.less) apart_none allows_runInner hrun
  exact ⟨hapart.selected, hapart.ports, hapart.inRange⟩

theorem cores_apart_of_latency : ∃ state : TestState,
    Spends cores (start (runWithCallback [probedProfile "x"] {} .latency [])) state
        {("n", 10829)} ∧
      Multiset.map Prod.fst {("n", 10829)} ≤
          (([probedItem "x"].map (·.indexId) : List String) : Multiset String) ∧
        (Multiset.map Prod.snd {("n", 10829)}).Nodup ∧
          ∀ entry ∈ ({("n", 10829)} : Multiset (String × Nat)), entry.2 < 2 ^ 16 := by
  have hstart : runWithCallback [probedProfile "x"] {} .latency [] =
      runInner .latency {} [probedItem "x"] :=
    runWithCallback_selected (probed_selected "x")
  have hcleared := ((Spends.refl : Spends cores (start (runInner .latency {} [probedItem "x"]))
    _ _).tail (Step.main _ _ (Advance.write _ _))).tail (Step.main _ _ (Advance.write _ _))
  have hloaded := hcleared.tail
    (Step.main _ _ (Advance.answer Question.loadEnv _ (Except.ok ())))
  have hport := hloaded.tail
    (Step.main _ _ (Advance.answer (Question.localPorts 10829 []) _ fun _ => true))
  have hbuild := hport.tail (Step.main _ _
    (Advance.answer (Question.build (probedProfile "x")) _ (Except.ok CoreType.singBox)))
  have hgroup := (hbuild.tail (Step.main _ _ (Advance.check _))).tail
    (Step.main _ _ (Advance.check _))
  have hcore := hgroup.tail (Step.main _ _
    (Advance.answer (Question.startCore .singBox [("n", 10829)]) _ (Except.ok ())))
  obtain ⟨state, hrun⟩ : ∃ state : TestState,
      Spends cores (start (runInner .latency {} [probedItem "x"])) state {("n", 10829)} :=
    ⟨_, hcore⟩
  rw [← hstart] at hrun
  exact ⟨state, hrun, cores_apart_of_run (probed_selected "x") hrun⟩

/-- A matter that nothing opens or closes. -/
def idle : Matter Write Answer where
  opens := fun _ => False
  closes := fun _ => False
  refuses := fun _ _ => False
  apart := fun _ hcloses _ => hcloses

theorem clean_idle {α : Type} (task : Test α) : Clean idle (fun _ => True) task := by
  induction task with
  | done value => trivial
  | fail error => trivial
  | write value next ih => exact ⟨id, ih⟩
  | ask question next ih => exact ih
  | check next ih => exact ih

theorem clean_runInner : Clean idle
    (fun plan : TestPlan => plan.limit ≤ dedicatedConcurrencyCount action config selected.length)
    (runInner action config selected) := by
  have hone : ∀ results : List SpeedTestResult,
      (noTasks results).limit ≤ dedicatedConcurrencyCount action config selected.length :=
    fun _ => dedicatedConcurrencyCount_pos action config selected.length
  have hlist : ∀ test : Test (List SpeedTestResult), Clean idle
      (fun plan : TestPlan => plan.limit ≤ dedicatedConcurrencyCount action config selected.length)
      (test.bind fun results => .done (noTasks results)) :=
    fun test => ((clean_idle test).mono fun results _ => hone results).bind
  have hdedicated : Clean idle
      (fun plan : TestPlan => plan.limit ≤ dedicatedConcurrencyCount action config selected.length)
      (runConcurrentDedicatedItems action config selected) := by
    intro flag
    cases flag with
    | true => exact hone []
    | false => exact ((clean_idle _).mono fun _ _ => le_rfl).bind
  apply Clean.bind
  apply (clean_idle _).mono
  intro _ _
  cases action with
  | tcpConnect => exact hlist _
  | latency => exact hlist _
  | udp => exact hlist _
  | download => exact hdedicated
  | mixed => exact hdedicated

/-- No more tests are under way at a time than the settings allow for the action, one but for a
mixed test. -/
theorem concurrency_of_run
    (hselected : selectTestItems profiles config indexIds = .ok selected)
    {meets : TestState → Label Write Answer → Prop} {state : TestState}
    (hrun : Run meets (start (runWithCallback profiles config action indexIds)) state)
    {pool : Pool Write SpeedtestError Answer SpeedTestResult} (hstage : state.stage = .pool pool) :
    pool.running.length ≤ dedicatedConcurrencyCount action config selected.length := by
  rw [runWithCallback_selected hselected] at hrun
  have hbounded : Bounded idle (dedicatedConcurrencyCount action config selected.length) state :=
    hrun.keeps (fun hkept _ hstep => hkept.step hstep) clean_runInner
  rw [Bounded, hstage] at hbounded
  exact hbounded.2.trans hbounded.1

theorem concurrency_of_mixed :
    ∃ (state : TestState) (pool : Pool Write SpeedtestError Answer SpeedTestResult),
      Run (fun _ _ => True) (start (runWithCallback [probedProfile "x"] {} .mixed [])) state ∧
        state.stage = .pool pool ∧ pool.running.length = 1 ∧
          pool.running.length ≤ dedicatedConcurrencyCount .mixed {} [probedItem "x"].length := by
  have hstart : runWithCallback [probedProfile "x"] {} .mixed [] =
      runInner .mixed {} [probedItem "x"] :=
    runWithCallback_selected (probed_selected "x")
  have hcleared := (((Run.refl _ : Run (fun _ _ => True)
    (start (runInner .mixed {} [probedItem "x"])) _).tail trivial
      (Step.main _ _ (Advance.write _ _))).tail trivial (Step.main _ _ (Advance.write _ _))).tail
        trivial (Step.main _ _ (Advance.write _ _))
  have hloaded := (hcleared.tail trivial (Step.main _ _ (Advance.check _))).tail trivial
    (Step.main _ _ (Advance.answer Question.loadEnv _ (Except.ok ())))
  have hport := hloaded.tail trivial
    (Step.main _ _ (Advance.answer (Question.localPorts 10829 []) _ fun _ => true))
  have hbuild := hport.tail trivial (Step.main _ _
    (Advance.answer (Question.build (probedProfile "x")) _ (Except.ok CoreType.singBox)))
  have hpool := (hbuild.tail trivial (Step.launch _ _ _)).tail trivial
    (Step.turn _ _ (Turn.push _ _ _ rfl (by decide) rfl rfl))
  obtain ⟨state, pool, hrun, hstage, hone⟩ :
      ∃ (state : TestState) (pool : Pool Write SpeedtestError Answer SpeedTestResult),
        Run (fun _ _ => True) (start (runInner .mixed {} [probedItem "x"])) state ∧
          state.stage = .pool pool ∧ pool.running.length = 1 :=
    ⟨_, _, hpool, rfl, rfl⟩
  rw [← hstart] at hrun
  exact ⟨state, pool, hrun, hstage, hone,
    concurrency_of_run (probed_selected "x") hrun hstage⟩

end Runs

end SpeedtestCores
