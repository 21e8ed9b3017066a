import VoyaVPN.ListenPorts
import VoyaVPN.Speedtest

/-! What a speed test leaves in the stored results: over every order of the steps of the tests, a
pending message stays only where a test is refused by its surroundings or cancelled before it is
under way. -/
namespace SpeedtestResults

open RustText Entities AppConfig TaskPool Speedtest

section Texts

theorem plain_of_not_mem {text : String} (h : 'S' ∉ text.toList) : text ∉ pendingMessages := by
  intro hmem
  rw [pendingMessages, List.mem_cons, List.mem_singleton] at hmem
  rcases hmem with rfl | rfl
  · exact h (by decide)
  · exact h (by decide)

theorem plain_of_head {text : String} (char : Char) (h : text.toList.head? = some char)
    (hchar : char ≠ 'S') : text ∉ pendingMessages := by
  intro hmem
  rw [pendingMessages, List.mem_cons, List.mem_singleton] at hmem
  rcases hmem with rfl | rfl
  · exact hchar (Option.some.inj (h.symm.trans (by decide)))
  · exact hchar (Option.some.inj (h.symm.trans (by decide)))

theorem toString_plain (value : Int) : toString value ∉ pendingMessages := by
  have hdigits : ∀ n : Nat, 'S' ∉ (Nat.repr n).toList := by
    intro n hmem
    have hdigit : 'S' ∈ Nat.toDigits 10 n := by simpa [Nat.repr] using hmem
    exact absurd (Nat.isDigit_of_mem_toDigits (by decide) (by decide) hdigit) (by decide)
  apply plain_of_not_mem
  cases value with
  | ofNat n => exact hdigits n
  | negSucc n =>
    change 'S' ∉ ("-" ++ Nat.repr (n + 1)).toList
    rw [String.toList_append, List.mem_append, not_or]
    exact ⟨by decide, hdigits (n + 1)⟩

theorem head_append {first second : String} {char : Char} (h : first.toList.head? = some char) :
    (first ++ second).toList.head? = some char := by
  rw [String.toList_append, List.head?_append, h]
  rfl

theorem display_plain (error : SpeedtestError) : error.display ∉ pendingMessages := by
  cases error with
  | cancelled => decide
  | timedOut => decide
  | connect => decide
  | udp => decide
  | validation indexId message =>
    exact plain_of_head 's' (head_append (head_append (head_append (by decide)))) (by decide)
  | noAvailablePort start =>
    exact plain_of_head 'n' (head_append (by decide)) (by decide)
  | invalidSocksPort port =>
    exact plain_of_head 's' (head_append (head_append (by decide))) (by decide)
  | other raw plain => exact plain

theorem speedtestErrorMessage_plain (error : SpeedtestError) :
    speedtestErrorMessage error ∉ pendingMessages := by
  unfold speedtestErrorMessage
  split
  · decide
  · decide
  · decide
  · decide
  · dsimp only
    split_ifs
    · decide
    · decide
    · decide
    · exact display_plain error

theorem pendingMessage_mem (action : SpeedTestKind) : pendingMessage action ∈ pendingMessages := by
  cases action <;> decide

def Final (result : SpeedTestResult) : Prop :=
  ∃ text, result.message = some text ∧ text ∉ pendingMessages

theorem delayResult_final (action : SpeedTestKind) (indexId : String) (delay : Int) :
    Final (delayResult action indexId delay) :=
  ⟨_, rfl, toString_plain delay⟩

theorem realpingResult_final (action : SpeedTestKind) (indexId : String)
    (answer : Except SpeedtestError RealPingProbeResult) :
    Final (realpingResult action indexId answer) := by
  cases answer with
  | ok realping => exact ⟨_, rfl, toString_plain realping.delay⟩
  | error error => exact ⟨_, rfl, speedtestErrorMessage_plain error⟩

theorem downloadResult_final (action : SpeedTestKind) (indexId : String)
    (answer : Except SpeedtestError Speed) : Final (downloadResult action indexId answer) := by
  cases answer with
  | ok speed => exact ⟨_, rfl, speed.plain⟩
  | error error => exact ⟨_, rfl, speedtestErrorMessage_plain error⟩

end Texts

section Matters

/-- The answers of the surroundings that end a test. -/
def refuses : (question : Question) → Answer question → Prop
  | .loadEnv, answer => ∃ error, answer = .error error
  | .localPorts start used, available =>
    ∃ error, findFreeSpeedtestPort available start used = .error error
  | .build _, built => ∃ errors, built = .error errors
  | .startCore _ _, answer => ∃ error, answer = .error error
  | .tcping _, _ | .realping _, _ | .downloadSpeed _, _ | .udpTest _, _ => False

def pending (action : SpeedTestKind) (indexId : String) : Matter Write Answer where
  opens := fun write => write.indexId = indexId ∧ write.update = .message (pendingMessage action)
  closes := fun write => write.indexId = indexId ∧
    ∃ text, write.update = .message text ∧ text ≠ pendingMessage action
  refuses := refuses
  apart := by
    rintro write ⟨_, text, htext, hother⟩ ⟨_, hpending⟩
    rw [hpending] at htext
    cases htext
    exact hother rfl

def lastMessage : List Write → String → Option String
  | [], _ => none
  | write :: log, indexId =>
    match write.update with
    | .message text => if write.indexId = indexId then some text else lastMessage log indexId
    | _ => lastMessage log indexId

variable {action : SpeedTestKind} {indexId : String}

theorem stored_message (rows : String → Row) (log : List Write) (indexId : String) :
    (stored rows log indexId).message =
      (lastMessage log indexId).orElse fun _ => (rows indexId).message := by
  induction log with
  | nil => rfl
  | cons write log ih =>
    rw [stored, lastMessage]
    by_cases hid : write.indexId = indexId
    · rw [if_pos hid]
      cases hupdate : write.update with
      | message text => simp [hid, Row.set]
      | delay value => exact ih
      | speed value => exact ih
      | ipInfo value => exact ih
    · rw [if_neg hid, ih]
      cases hupdate : write.update with
      | message text => simp [hid]
      | delay value => rfl
      | speed value => rfl
      | ipInfo value => rfl

/-- The matter of a profile is open as long as its pending message is the newest. -/
theorem isOpen_iff (log : List Write) : (pending action indexId).IsOpen log ↔
    lastMessage log indexId = some (pendingMessage action) := by
  induction log with
  | nil => exact iff_of_false id (by simp [lastMessage])
  | cons write log ih =>
    rw [Matter.IsOpen, lastMessage, ih]
    cases hupdate : write.update with
    | message text =>
      by_cases hid : write.indexId = indexId
      · by_cases htext : text = pendingMessage action
        · simp [pending, hupdate, hid, htext]
        · simp [pending, hupdate, hid, htext]
      · simp [pending, hid]
    | delay value => simp [pending, hupdate]
    | speed value => simp [pending, hupdate]
    | ipInfo value => simp [pending, hupdate]

end Matters

section Batches

theorem flatten_chunksFrom {α : Type} {size : Nat} (hsize : 0 < size) (fuel : Nat) (items : List α)
    (hfuel : items.length ≤ fuel) : (chunksFrom size fuel items).flatten = items := by
  induction fuel generalizing items with
  | zero =>
    rw [List.eq_nil_of_length_eq_zero (Nat.le_zero.mp hfuel)]
    rfl
  | succ fuel ih =>
    cases items with
    | nil => rfl
    | cons item items =>
      have hrest : ((item :: items).drop size).length ≤ fuel := by
        rw [List.length_drop]
        rw [List.length_cons] at hfuel ⊢
        omega
      rw [chunksFrom, List.flatten_cons, ih _ hrest, List.take_append_drop]
      exact fun h => by cases h

theorem flatten_chunks {α : Type} {size : Nat} (hsize : 0 < size) (items : List α) :
    (chunks size items).flatten = items :=
  flatten_chunksFrom hsize _ _ le_rfl

theorem addToGroup_perm (groups : List (CoreType × List PreparedSpeedtestItem))
    (prepared : PreparedSpeedtestItem) :
    ((addToGroup groups prepared).flatMap (·.2)).Perm (prepared :: groups.flatMap (·.2)) := by
  induction groups with
  | nil => exact List.Perm.refl _
  | cons group groups ih =>
    rw [addToGroup]
    split
    · simp only [List.flatMap_cons, List.append_assoc, List.singleton_append]
      exact List.perm_middle
    · simp only [List.flatMap_cons]
      exact (ih.append_left group.2).trans List.perm_middle

theorem groupPreparedItems_perm (prepared : List PreparedSpeedtestItem) :
    ((groupPreparedItems prepared).flatMap (·.2)).Perm prepared := by
  have hfold : ∀ groups : List (CoreType × List PreparedSpeedtestItem),
      ((prepared.foldl addToGroup groups).flatMap (·.2)).Perm
        (prepared ++ groups.flatMap (·.2)) := by
    induction prepared with
    | nil => exact fun groups => List.Perm.refl _
    | cons item prepared ih =>
      intro groups
      rw [List.foldl_cons]
      exact (ih _).trans (((addToGroup_perm groups item).append_left prepared).trans
        List.perm_middle)
  simpa [groupPreparedItems] using hfold []

theorem positive_pos (value : Option Int) {fallback : Nat} (h : 0 < fallback) :
    0 < positive value fallback := by
  cases value with
  | none => exact h
  | some value =>
    rw [positive]
    split
    · omega
    · exact h

theorem speedtestPageSize_pos (config : Config) (selectedCount : Nat) :
    0 < speedtestPageSize config selectedCount :=
  lt_min (positive_pos _ (by decide)) (Nat.lt_of_lt_of_le Nat.zero_lt_one (Nat.le_max_right _ _))

theorem dedicatedConcurrencyCount_pos (action : SpeedTestKind) (config : Config)
    (selectedCount : Nat) : 0 < dedicatedConcurrencyCount action config selectedCount := by
  rw [dedicatedConcurrencyCount]
  split
  · exact lt_min (positive_pos _ Nat.zero_lt_one)
      (Nat.lt_of_lt_of_le Nat.zero_lt_one (Nat.le_max_right _ _))
  · exact Nat.zero_lt_one

end Batches

section Parts

variable {action : SpeedTestKind} {indexId : String}

theorem works_done {α : Type} {ends : α → Prop} {value : α} {own : Prop} (h : ends value)
    (hown : ¬own) : Works (pending action indexId) own ends (.done value : Test α) :=
  (Works.done h).weaken hown fun _ hvalue => hvalue

theorem works_value {α : Type} (value : α) :
    Works (pending action indexId) False (fun _ => True) (.done value : Test α) :=
  Works.done trivial

theorem works_writes {log : List Write} (h : ∀ write ∈ log, ¬(pending action indexId).opens write) :
    Works (pending action indexId) (∃ write ∈ log, (pending action indexId).closes write)
      (fun _ => True) (writes log) := by
  induction log with
  | nil =>
    refine works_done trivial ?_
    rintro ⟨write, hwrite, _⟩
    exact absurd hwrite List.not_mem_nil
  | cons write log ih =>
    have hrest := ih fun other hother => h other (List.mem_cons_of_mem _ hother)
    by_cases hcloses : (pending action indexId).closes write
    · exact (Works.close hcloses hrest).weaken (fun _ => trivial) fun _ _ => trivial
    · refine (Works.write (h write List.mem_cons_self) hcloses hrest).weaken ?_ fun _ _ => trivial
      rintro ⟨other, hother, hwrite⟩
      rcases List.mem_cons.mp hother with rfl | hother
      · exact absurd hwrite hcloses
      · exact ⟨other, hother, hwrite⟩

theorem works_persisted {result : SpeedTestResult} (h : Final result) :
    Works (pending action indexId) (result.indexId = indexId) (fun _ => True)
      (persisted result) := by
  obtain ⟨text, htext, hplain⟩ := h
  have hother : text ≠ pendingMessage action := by
    rintro rfl
    exact hplain (pendingMessage_mem action)
  have hwrites := @works_writes action indexId
    ((result.delay.toList.map fun delay => ⟨result.indexId, .delay delay⟩) ++
      (result.speed.toList.map fun speed => ⟨result.indexId, .speed speed⟩) ++
        (result.message.toList.map fun message => ⟨result.indexId, .message message⟩) ++
          result.ipInfo.toList.map fun ipInfo => ⟨result.indexId, .ipInfo ipInfo⟩) (by
    rintro write hwrite ⟨_, hopens⟩
    simp only [List.mem_append, List.mem_map, Option.mem_toList] at hwrite
    rcases hwrite with ((⟨_, _, rfl⟩ | ⟨_, _, rfl⟩) | ⟨message, hmessage, rfl⟩) | ⟨_, _, rfl⟩
    · cases hopens
    · cases hopens
    · rw [htext] at hmessage
      cases hmessage
      cases hopens
      exact hother rfl
    · cases hopens)
  refine (Works.bind hwrites fun _ _ => works_value _).weaken ?_ fun _ _ => trivial
  intro hid
  refine Or.inl ⟨⟨result.indexId, .message text⟩, ?_, hid, text, rfl, hother⟩
  simp [htext]

theorem works_require {question : Question} {α : Type}
    {read : Answer question → Except SpeedtestError α} {ends : α → Prop}
    (hread : ∀ answer, refuses question answer ↔ ∃ error, read answer = .error error)
    (hends : ∀ answer value, read answer = .ok value → ends value) :
    Works (pending action indexId) False ends (require question read) := by
  refine Works.ask (fun answer hrefuses => ?_) fun answer hgiven => ?_
  · obtain ⟨error, herror⟩ := (hread answer).mp hrefuses
    exact ⟨error, by rw [herror]⟩
  · cases hvalue : read answer with
    | ok value => exact Works.done (hends answer value hvalue)
    | error error => exact absurd ((hread answer).mpr ⟨error, hvalue⟩) hgiven

theorem works_single {own : Prop} {test : Test SpeedTestResult}
    (h : Works (pending action indexId) own (fun _ => True) test) :
    Works (pending action indexId) own (fun _ => True) (single test) :=
  (h.bind fun _ _ => works_value _).weaken Or.inl fun _ _ => trivial

theorem works_probe {question : Question} {own : Prop} {α : Type} {next : Answer question → Test α}
    (hnever : ∀ answer, ¬refuses question answer)
    (h : ∀ answer, Works (pending action indexId) own (fun _ => True) (next answer)) :
    Works (pending action indexId) own (fun _ => True) (.ask question next) :=
  Works.ask (fun answer hanswer => absurd hanswer (hnever answer)) fun answer _ => h answer

theorem works_runItem (kind : SpeedTestKind) (item : ServerTestItem) :
    Works (pending action indexId) (item.indexId = indexId) (fun _ => True)
      (runItem kind item) := by
  have hrealping : Works (pending action indexId) (item.indexId = indexId) (fun _ => True)
      (runRealping kind item) := by
    refine works_probe (fun _ => id) fun answer => ?_
    have hpersisted := @works_persisted action indexId _
      (realpingResult_final kind item.indexId answer)
    cases answer with
    | ok realping => exact hpersisted
    | error error => exact hpersisted
  have hdownload : Works (pending action indexId) False (fun _ => True) (runDownload kind item) :=
    works_probe (fun _ => id) fun answer =>
      (works_persisted (downloadResult_final kind item.indexId answer)).weaken False.elim
        fun _ _ => trivial
  have hboth : Works (pending action indexId) (item.indexId = indexId) (fun _ => True)
      (runRealpingAndDownload kind item) := by
    refine (hrealping.bind (?_ : ∀ realping, True → Works (pending action indexId) False
      (fun _ => True) _)).weaken Or.inl fun _ _ => trivial
    intro realping _
    split
    · refine Works.check ?_ ⟨trivial, trivial⟩
      exact (hdownload.bind fun _ _ => works_value _).weaken False.elim fun _ _ => trivial
    · exact works_value _
  cases kind with
  | tcpConnect =>
    exact works_single (works_probe (fun _ => id) fun answer =>
      works_persisted (delayResult_final _ item.indexId (delayOrFailed answer)))
  | latency => exact works_single hrealping
  | udp =>
    exact works_single (works_probe (fun _ => id) fun answer =>
      works_persisted (delayResult_final _ item.indexId (delayOrFailed answer)))
  | download => exact hboth
  | mixed => exact hboth

theorem works_runItems (kind : SpeedTestKind) (items : List ServerTestItem) :
    Works (pending action indexId) (∃ item ∈ items, item.indexId = indexId) (fun _ => True)
      (runItems kind items) := by
  induction items with
  | nil =>
    refine works_done trivial ?_
    rintro ⟨item, hitem, _⟩
    exact absurd hitem List.not_mem_nil
  | cons item items ih =>
    refine Works.check ?_ ⟨trivial, trivial⟩
    refine ((works_runItem kind item).bind fun _ _ => ih.bind fun _ _ =>
      works_value _).weaken ?_ fun _ _ => trivial
    rintro ⟨other, hother, hid⟩
    rcases List.mem_cons.mp hother with rfl | hother
    · exact Or.inl hid
    · exact Or.inr (Or.inl ⟨other, hother, hid⟩)

theorem works_prepareItems (items : List ServerTestItem) (used : List Nat) :
    Works (pending action indexId) False
      (fun prepared => prepared.map (·.item.indexId) = items.map (·.indexId))
      (prepareItems used items) := by
  induction items generalizing used with
  | nil => exact Works.done rfl
  | cons item items ih =>
    have hport := @works_require action indexId (.localPorts item.socksPort used) Nat
      (fun available => findFreeSpeedtestPort available item.socksPort used) (fun _ => True)
      (fun _ => Iff.rfl) fun _ _ _ => trivial
    have hbuild := @works_require action indexId (.build item.profile) CoreType
      (fun built => built.mapError fun errors => .validation item.indexId ("; ".intercalate errors))
      (fun _ => True) (by
        intro built
        cases built with
        | ok coreType => exact iff_of_false (fun ⟨_, h⟩ => by cases h) fun ⟨_, h⟩ => by cases h
        | error errors => exact iff_of_true ⟨errors, rfl⟩ ⟨_, rfl⟩) fun _ _ _ => trivial
    have hrest : ∀ socksPort coreType, Works (pending action indexId) (False ∨ False)
        (fun prepared => prepared.map (·.item.indexId) = (item :: items).map (·.indexId))
        ((prepareItems (socksPort :: used) items).bind fun rest =>
          .done ({ item := { item with socksPort, coreType }, runCoreType := coreType } ::
            rest)) := by
      intro socksPort coreType
      refine (ih (socksPort :: used)).bind fun rest hrest => Works.done ?_
      rw [List.map_cons, List.map_cons, hrest]
    exact (hport.bind fun socksPort _ => hbuild.bind fun coreType _ =>
      hrest socksPort coreType).weaken False.elim fun _ hvalue => hvalue

theorem works_prepareSpeedtestItems (items : List ServerTestItem) :
    Works (pending action indexId) False
      (fun prepared => prepared.map (·.item.indexId) = items.map (·.indexId))
      (prepareSpeedtestItems items) :=
  ((works_require (fun _ => Iff.rfl) fun _ _ _ => trivial : Works (pending action indexId) False
    (fun _ => True) (require .loadEnv id)).bind fun _ _ => works_prepareItems items []).weaken
      False.elim fun _ hvalue => hvalue

theorem works_runBatches (kind : SpeedTestKind) (coreType : CoreType)
    (batches : List (List PreparedSpeedtestItem)) :
    Works (pending action indexId) (∃ prepared ∈ batches.flatten, prepared.item.indexId = indexId)
      (fun _ => True) (runBatches kind coreType batches) := by
  induction batches with
  | nil =>
    refine works_done trivial ?_
    rintro ⟨prepared, hprepared, _⟩
    exact absurd hprepared List.not_mem_nil
  | cons batch batches ih =>
    have hcore := @works_require action indexId
      (.startCore coreType (batch.map PreparedSpeedtestItem.entry)) Unit id (fun _ => True)
      (fun _ => Iff.rfl) fun _ _ _ => trivial
    refine Works.check ?_ ⟨trivial, trivial⟩
    refine (hcore.bind fun _ _ => (works_runItems kind (batch.map (·.item))).bind fun _ _ =>
      ih.bind fun _ _ => works_value _).weaken ?_ fun _ _ => trivial
    rintro ⟨prepared, hprepared, hid⟩
    rw [List.flatten_cons] at hprepared
    rcases List.mem_append.mp hprepared with hprepared | hprepared
    · exact Or.inr (Or.inl ⟨prepared.item, List.mem_map_of_mem hprepared, hid⟩)
    · exact Or.inr (Or.inr (Or.inl ⟨prepared, hprepared, hid⟩))

theorem works_runGroups (kind : SpeedTestKind) (config : Config)
    (groups : List (CoreType × List PreparedSpeedtestItem)) :
    Works (pending action indexId)
      (∃ prepared ∈ groups.flatMap (·.2), prepared.item.indexId = indexId) (fun _ => True)
      (runGroups kind config groups) := by
  induction groups with
  | nil =>
    refine works_done trivial ?_
    rintro ⟨prepared, hprepared, _⟩
    exact absurd hprepared List.not_mem_nil
  | cons group groups ih =>
    refine Works.check ?_ ⟨trivial, trivial⟩
    refine ((works_runBatches kind group.1 _).bind fun _ _ => ih.bind fun _ _ =>
      works_value _).weaken ?_ fun _ _ => trivial
    rintro ⟨prepared, hprepared, hid⟩
    rw [List.flatMap_cons] at hprepared
    rcases List.mem_append.mp hprepared with hprepared | hprepared
    · refine Or.inl ⟨prepared, ?_, hid⟩
      rw [flatten_chunks (speedtestPageSize_pos config group.2.length)]
      exact hprepared
    · exact Or.inr (Or.inl ⟨prepared, hprepared, hid⟩)

theorem prepared_of_item {items : List ServerTestItem} {prepared : List PreparedSpeedtestItem}
    (h : prepared.map (·.item.indexId) = items.map (·.indexId))
    (hitem : ∃ item ∈ items, item.indexId = indexId) :
    ∃ entry ∈ prepared, entry.item.indexId = indexId := by
  have hmem : indexId ∈ prepared.map (·.item.indexId) := by
    rw [h]
    exact List.mem_map.mpr hitem
  exact List.mem_map.mp hmem

theorem works_runBatchItems (kind : SpeedTestKind) (config : Config) (items : List ServerTestItem) :
    Works (pending action indexId) (∃ item ∈ items, item.indexId = indexId) (fun _ => True)
      (runBatchItems kind config items) := by
  have hgroups : ∀ prepared : List PreparedSpeedtestItem,
      prepared.map (·.item.indexId) = items.map (·.indexId) →
      Works (pending action indexId) (∃ item ∈ items, item.indexId = indexId) (fun _ => True)
        (runGroups kind config (groupPreparedItems prepared)) := by
    intro prepared hprepared
    refine (works_runGroups kind config (groupPreparedItems prepared)).weaken ?_ fun _ _ => trivial
    intro hitem
    obtain ⟨entry, hentry, hid⟩ := prepared_of_item hprepared hitem
    exact ⟨entry, (groupPreparedItems_perm prepared).mem_iff.mpr hentry, hid⟩
  exact ((works_prepareSpeedtestItems items).bind hgroups).weaken Or.inr fun _ _ => trivial

theorem works_runDedicatedItem (kind : SpeedTestKind) (prepared : PreparedSpeedtestItem) :
    Works (pending action indexId) (prepared.item.indexId = indexId) (fun _ => True)
      (runDedicatedItem kind prepared) := by
  have hcore := @works_require action indexId
    (.startCore prepared.runCoreType [prepared.entry]) Unit id (fun _ => True)
    (fun _ => Iff.rfl) fun _ _ _ => trivial
  exact (hcore.bind fun _ _ => works_runItem kind prepared.item).weaken Or.inr fun _ _ => trivial

end Parts

section Runs

variable {action : SpeedTestKind} {indexId : String}

theorem clearWrites_not_closes {write : Write} {other : String}
    (h : write ∈ clearWrites action other) : ¬(pending action indexId).closes write := by
  rintro ⟨_, text, htext, hother⟩
  cases action <;> simp only [clearWrites, List.mem_cons, List.not_mem_nil, or_false] at h <;>
    rcases h with rfl | rfl | rfl <;> cases htext <;> exact hother rfl

theorem passes_writes {log : List Write} {flag : Bool} {clean post : TestPlan → Prop}
    {rest : Test TestPlan} (h : ∀ write ∈ log, ¬(pending action indexId).closes write)
    (hsteady : Steady (pending action indexId) (PlanSteady (pending action indexId)) rest)
    (hsettles : Settles (pending action indexId) flag clean post rest) :
    Steady (pending action indexId) (PlanSteady (pending action indexId))
        ((writes log).bind fun _ => rest) ∧
      Settles (pending action indexId) flag clean post ((writes log).bind fun _ => rest) := by
  induction log with
  | nil => exact ⟨hsteady, hsettles⟩
  | cons write log ih =>
    have hrest := ih fun other hother => h other (List.mem_cons_of_mem _ hother)
    exact ⟨hrest.1, Or.inr ⟨h write List.mem_cons_self, hrest.2⟩⟩

/-- What the plan of a run owes to a profile that is selected. -/
def Owes (action : SpeedTestKind) (indexId : String) (task : Test TestPlan) : Prop :=
  Steady (pending action indexId) (PlanSteady (pending action indexId)) task ∧
    Settles (pending action indexId) false (fun _ => True)
      (PlanSettles (pending action indexId) false) task

theorem noTasks_steady (results : List SpeedTestResult) :
    PlanSteady (pending action indexId) (noTasks results) :=
  ⟨Nat.zero_lt_one, fun _ htask => absurd htask List.not_mem_nil,
    fun _ htask => absurd htask List.not_mem_nil⟩

theorem owes_of_works {own : Prop} {test : Test (List SpeedTestResult)}
    (h : Works (pending action indexId) own (fun _ => True) test) (hown : own) :
    Owes action indexId (test.bind fun results => .done (noTasks results)) := by
  refine ⟨(h.steady.mono fun results _ => noTasks_steady results).bind, Settles.bind ?_⟩
  exact h.settles _ _ (fun _ _ => trivial) fun hnot => absurd hown hnot

theorem owes_dedicated (config : Config) {items : List ServerTestItem}
    (hitem : ∃ item ∈ items, item.indexId = indexId) :
    Owes action indexId (runConcurrentDedicatedItems action config items) := by
  have hprepare := @works_prepareSpeedtestItems action indexId items
  have hplan : ∀ prepared : List PreparedSpeedtestItem, PlanSteady (pending action indexId)
      ({ results := []
         tasks := prepared.map (runDedicatedItem action)
         limit := dedicatedConcurrencyCount action config items.length } : TestPlan) := by
    intro prepared
    refine ⟨dedicatedConcurrencyCount_pos action config items.length, ?_, ?_⟩
    · intro task htask
      obtain ⟨entry, _, rfl⟩ := List.mem_map.mp htask
      exact (works_runDedicatedItem action entry).clean
    · intro task htask
      obtain ⟨entry, _, rfl⟩ := List.mem_map.mp htask
      exact (works_runDedicatedItem action entry).steady
  constructor
  · intro flag
    cases flag with
    | true => exact noTasks_steady []
    | false => exact (hprepare.steady.mono fun prepared _ => hplan prepared).bind
  · refine Settles.bind (hprepare.settles _ _ (fun _ _ => trivial) ?_)
    intro _ prepared hprepared
    obtain ⟨entry, hentry, hid⟩ := prepared_of_item hprepared hitem
    exact ⟨rfl, _, List.mem_map_of_mem hentry, (works_runDedicatedItem action entry).settles _ _
      (fun _ _ => trivial) fun hnot => absurd hid hnot⟩

theorem owes_runInner (config : Config) {selected : List ServerTestItem}
    (hitem : ∃ item ∈ selected, item.indexId = indexId) :
    Owes action indexId (runInner action config selected) := by
  have hclear : ∀ write ∈ selected.flatMap fun item => clearWrites action item.indexId,
      ¬(pending action indexId).closes write := by
    intro write hwrite
    obtain ⟨item, _, hmem⟩ := List.mem_flatMap.mp hwrite
    exact clearWrites_not_closes hmem
  have hitems := owes_of_works (@works_runItems action indexId action selected) hitem
  have hbatches := owes_of_works (@works_runBatchItems action indexId action config selected) hitem
  have hdedicated := @owes_dedicated action indexId config selected hitem
  cases action with
  | tcpConnect => exact passes_writes hclear hitems.1 hitems.2
  | latency => exact passes_writes hclear hbatches.1 hbatches.2
  | udp => exact passes_writes hclear hbatches.1 hbatches.2
  | download => exact passes_writes hclear hdedicated.1 hdedicated.2
  | mixed => exact passes_writes hclear hdedicated.1 hdedicated.2

/-- The steps of a run in which no selected profile is cut off from its result: while its pending
message is the newest, no write is refused and nothing that the run needs, and the run is not
cancelled before the test of the profile is under way. -/
def Uncut (action : SpeedTestKind) (selected : List ServerTestItem) (state : TestState)
    (label : Label Write Answer) : Prop :=
  ∀ item ∈ selected, Meets (pending action item.indexId) state label

/-- A run that ends leaves no pending message behind where its steps cut no profile off. -/
theorem no_pending_rows {profiles : List ProfileItem} {config : Config} {indexIds : List String}
    {selected : List ServerTestItem}
    (hselected : selectTestItems profiles config indexIds = .ok selected)
    {state : TestState} {result : Except SpeedtestError (List SpeedTestResult)}
    (hrun : Run (Uncut action selected)
      (start (runWithCallback profiles config action indexIds)) state)
    (hend : state.stage = .finished result) :
    ∀ item ∈ selected, lastMessage state.log item.indexId ≠ some (pendingMessage action) ∧
      ∀ rows : String → Row, (rows item.indexId).message ≠ some (pendingMessage action) →
        (stored rows state.log item.indexId).message ≠ some (pendingMessage action) := by
  intro item hitem
  have howes := @owes_runInner action item.indexId config selected ⟨item, hitem, rfl⟩
  have htask : runWithCallback profiles config action indexIds =
      runInner action config selected := by
    rw [runWithCallback, hselected]
  rw [htask] at hrun
  have hclosed := closed_of_run howes.1 howes.2 (fun _ _ hmeets => hmeets item hitem) hrun hend
  have hlast : lastMessage state.log item.indexId ≠ some (pendingMessage action) :=
    fun hlast => hclosed ((isOpen_iff state.log).mpr hlast)
  refine ⟨hlast, fun rows hbefore => ?_⟩
  rw [stored_message]
  cases hwritten : lastMessage state.log item.indexId with
  | none => exact hbefore
  | some text => exact fun hpending => hlast (hwritten.trans hpending)

def probedProfile (address : String) : ProfileItem :=
  { indexId := "n", protocol := .socks { address, port := 1080 } "u" "p" }

def probedItem (address : String) : ServerTestItem :=
  { indexId := "n", address, serverPort := 1080, socksPort := 10829, configType := .socks
    queueNum := 0, profile := probedProfile address, coreType := .singBox }

theorem probed_port : saturatingPort (basePort {}) 0 = 10829 := by decide

theorem probed_selected (address : String) :
    selectTestItems [probedProfile address] {} [] = .ok [probedItem address] := by
  have hitem : testItem {} (probedProfile address, 0) = .ok (probedItem address) := by
    rw [testItem, probed_port]
    rfl
  have htestable : testable (probedProfile address) = true := rfl
  simp [selectTestItems, htestable, hitem]

theorem tested_run : ∃ state : TestState,
    Run (Uncut .tcpConnect [probedItem "x"])
        (start (runWithCallback [probedProfile "x"] {} .tcpConnect [])) state ∧
      (∃ results, state.stage = .finished (.ok results)) ∧
        lastMessage state.log "n" = some "12" := by
  have hstart : runWithCallback [probedProfile "x"] {} .tcpConnect [] =
      runInner .tcpConnect {} [probedItem "x"] := by
    rw [runWithCallback, probed_selected]
  have hwrote : ∀ (state : TestState) (write : Write),
      Uncut .tcpConnect [probedItem "x"] state (.wrote write) :=
    fun _ _ _ _ hrefusal => absurd hrefusal id
  have hquiet : ∀ state : TestState, Uncut .tcpConnect [probedItem "x"] state .quiet :=
    fun _ _ _ hrefusal => absurd hrefusal id
  have hprobed : ∀ (state : TestState) (answer : Answer (.tcping (probedItem "x"))),
      Uncut .tcpConnect [probedItem "x"] state (.answered (.tcping (probedItem "x")) answer) :=
    fun _ _ _ _ hrefusal => absurd hrefusal id
  rw [hstart]
  have hcleared := (((Run.refl _ : Run (Uncut .tcpConnect [probedItem "x"])
    (start (runInner .tcpConnect {} [probedItem "x"])) _).tail (hwrote _ _)
      (Step.main _ _ (Advance.write _ _))).tail (hwrote _ _)
        (Step.main _ _ (Advance.write _ _))).tail (hquiet _) (Step.main _ _ (Advance.check _))
  have hprobe := hcleared.tail (hprobed _ _)
    (Step.main _ _ (Advance.answer (Question.tcping (probedItem "x")) _ (Except.ok 12)))
  have hstored := (hprobe.tail (hwrote _ _) (Step.main _ _ (Advance.write _ _))).tail (hwrote _ _)
    (Step.main _ _ (Advance.write _ _))
  have hpool := (hstored.tail (hquiet _) (Step.launch _ _ _)).tail (hquiet _)
    (Step.turn _ _ (Turn.full _ rfl (Or.inr rfl)))
  have hend := hpool.tail (hquiet _) (Step.turn _ _ (Turn.finish _ rfl rfl))
  exact ⟨_, hend, ⟨_, rfl⟩, rfl⟩

theorem no_pending_rows_tested : ∃ state : TestState,
    Run (Uncut .tcpConnect [probedItem "x"])
        (start (runWithCallback [probedProfile "x"] {} .tcpConnect [])) state ∧
      (∃ results, state.stage = .finished (.ok results)) ∧
        ∀ item ∈ [probedItem "x"],
          lastMessage state.log item.indexId ≠ some (pendingMessage .tcpConnect) ∧
            ∀ rows : String → Row,
              (rows item.indexId).message ≠ some (pendingMessage .tcpConnect) →
                (stored rows state.log item.indexId).message ≠
                  some (pendingMessage .tcpConnect) := by
  obtain ⟨state, hrun, ⟨results, hend⟩, _⟩ := tested_run
  exact ⟨state, hrun, ⟨results, hend⟩, no_pending_rows (probed_selected "x") hrun hend⟩

theorem validation_run : ∃ state : TestState,
    Run (fun _ _ => True) (start (runWithCallback [probedProfile ""] {} .latency [])) state ∧
      state.stage = .finished (.error (.validation "n" "invalid Address")) ∧
        lastMessage state.log "n" = some "Speedtesting" := by
  have hstart : runWithCallback [probedProfile ""] {} .latency [] =
      runInner .latency {} [probedItem ""] := by
    rw [runWithCallback, probed_selected]
  rw [hstart]
  have hcleared := ((Run.refl _ : Run (fun _ _ => True)
    (start (runInner .latency {} [probedItem ""])) _).tail trivial
      (Step.main _ _ (Advance.write _ _))).tail trivial (Step.main _ _ (Advance.write _ _))
  have hloaded := hcleared.tail trivial
    (Step.main _ _ (Advance.answer Question.loadEnv _ (Except.ok ())))
  have hport := hloaded.tail trivial
    (Step.main _ _ (Advance.answer (Question.localPorts 10829 []) _ fun _ => true))
  have hbuild := hport.tail trivial (Step.main _ _
    (Advance.answer (Question.build (probedProfile "")) _ (Except.error ["invalid Address"])))
  have hend := hbuild.tail trivial
    (Step.stop _ _ (SpeedtestError.validation "n" "invalid Address"))
  exact ⟨_, hend, rfl, rfl⟩

theorem validation_leaves_pending :
    ¬∀ (profiles : List ProfileItem) (config : Config) (action : SpeedTestKind)
        (indexIds : List String) (selected : List ServerTestItem) (state : TestState)
        (result : Except SpeedtestError (List SpeedTestResult)),
      selectTestItems profiles config indexIds = .ok selected →
      Run (fun _ _ => True) (start (runWithCallback profiles config action indexIds)) state →
      state.stage = .finished result →
      ∀ item ∈ selected, lastMessage state.log item.indexId ≠ some (pendingMessage action) := by
  intro h
  obtain ⟨state, hrun, hend, hlast⟩ := validation_run
  exact h _ _ _ _ _ _ _ (probed_selected "") hrun hend (probedItem "") List.mem_cons_self hlast

end Runs

end SpeedtestResults
