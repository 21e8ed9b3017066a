import VoyaVPN.InputRuns
import VoyaVPN.SupervisorSteps

/-! Exit notifications that arrive late. A process is told apart by its pid and a native tunnel
by its generation; what a notification of an earlier session can still reach depends on whether
these have come round again. -/
namespace StaleExits

open PlatformProcess Supervisor SupervisorSteps

/-- The actor, and the calls whose process has exited by itself and been reaped. -/
structure NotifiedSupervisor where
  actor : SupervisorActor := {}
  reaped : List Nat := []

/-- A notification names its process or tunnel by the number of the call that started it. -/
inductive SupervisorInput where
  | command (command : SupervisorCommand)
  | exits (spawnCall : Nat)
  | deliverExit (spawnCall : Nat) (exitCode : Option Int)
  | deliverNativeExit (startCall : Nat) (message : String)

def callAt (calls : List SupervisorCall) (number : Nat) : Option SupervisorCall :=
  calls.reverse[number]?

def callsAfter (calls : List SupervisorCall) (number : Nat) : List SupervisorCall :=
  calls.take (calls.length - (number + 1))

def callsUpTo (calls : List SupervisorCall) (number : Nat) : List SupervisorCall :=
  calls.drop (calls.length - (number + 1))

def nativeStarted : SupervisorCall → Bool
  | .startNativeTun _ (.ok ()) => true
  | _ => false

/-- The generation handed to the health watcher of a native tunnel. -/
def generationAt (calls : List SupervisorCall) (number : Nat) : Option UInt64 :=
  if (callAt calls number).any nativeStarted then
    some (UInt64.ofNat ((callsUpTo calls number).countP nativeStarted))
  else none

def step (deps : SupervisorDeps) (system : NotifiedSupervisor) : SupervisorInput →
    NotifiedSupervisor
  | .command command => { system with actor := handle deps system.actor command }
  | .exits spawnCall =>
    if ((callAt system.actor.calls spawnCall).bind spawned).isSome then
      { system with reaped := spawnCall :: system.reaped }
    else system
  | .deliverExit spawnCall exitCode =>
    if spawnCall ∈ system.reaped then
      match (callAt system.actor.calls spawnCall).bind spawned with
      | some process =>
        { system with actor := handle deps system.actor (.processExited process.id exitCode) }
      | none => system
    else system
  | .deliverNativeExit startCall message =>
    match generationAt system.actor.calls startCall with
    | some generation =>
      { system with actor := handle deps system.actor (.nativeTunExited generation message) }
    | none => system

/-- The call was made before the last session began. -/
def Earlier (calls : List SupervisorCall) (number : Nat) : Prop :=
  SupervisorCall.sessionBegun ∈ callsAfter calls number

def Stale (system : NotifiedSupervisor) : SupervisorInput → Prop
  | .deliverExit number _ | .deliverNativeExit number _ => Earlier system.actor.calls number
  | .command _ | .exits _ => False

/-- A stale notification leaves the supervisor as it is: its session, and the calls made. -/
def StaleIgnored (deps : SupervisorDeps) (system : NotifiedSupervisor) (input : SupervisorInput) :
    Prop :=
  Stale system input → (step deps system input).actor = system.actor

/-- A stale notification finds no process of the running session under its pid, and the
generations have not come round since its tunnel was started. -/
def SessionsApart (system : NotifiedSupervisor) (input : SupervisorInput) : Prop :=
  Stale system input → match input with
  | .deliverExit spawnCall _ =>
    ∀ exited, (callAt system.actor.calls spawnCall).bind spawned = some exited →
      ∀ process ∈ processes system.actor.running, process.id ≠ exited.id
  | .deliverNativeExit startCall _ =>
    let started := (callsAfter system.actor.calls startCall).countP nativeStarted
    2 ^ 64 ∣ started → started = 0
  | .command _ | .exits _ => True

def currentSession (calls : List SupervisorCall) : List SupervisorCall :=
  calls.takeWhile (· ≠ .sessionBegun)

/-- The generation counts the native tunnels started, and the running one is the last of them
and of the last session. -/
structure GenerationsCounted (actor : SupervisorActor) : Prop where
  counted : actor.nativeTunGeneration = UInt64.ofNat (actor.calls.countP nativeStarted)
  running : ∀ nativeTun, actor.running.nativeTun = some nativeTun →
    nativeTun.generation = actor.nativeTunGeneration ∧
      0 < (currentSession actor.calls).countP nativeStarted

/-- Calls that neither begin a session nor start a native tunnel. -/
def isPlain : SupervisorCall → Bool
  | .sessionBegun | .startNativeTun .. => false
  | _ => true

theorem countP_plain {calls : List SupervisorCall} (h : ∀ call ∈ calls, isPlain call = true) :
    calls.countP nativeStarted = 0 := by
  rw [List.countP_eq_zero]
  intro call hcall hstarted
  have hplain := h call hcall
  cases call <;> first | cases hstarted | cases hplain

theorem countP_adds {before after : List SupervisorCall} (h : Adds isPlain before after) :
    after.countP nativeStarted = before.countP nativeStarted := by
  obtain ⟨added, rfl, hadded⟩ := h
  rw [List.countP_append, countP_plain hadded, Nat.zero_add]

theorem currentSession_adds {before after : List SupervisorCall} (h : Adds isPlain before after) :
    (currentSession after).countP nativeStarted =
      (currentSession before).countP nativeStarted := by
  obtain ⟨added, rfl, hadded⟩ := h
  have hkept : ∀ call ∈ added, decide (call ≠ .sessionBegun) = true := by
    intro call hcall
    have hplain := hadded call hcall
    rw [decide_eq_true_eq]
    rintro rfl
    cases hplain
  rw [currentSession, List.takeWhile_append_of_pos hkept, List.countP_append,
    countP_plain hadded, Nat.zero_add]
  rfl

theorem isPlain_of_isStopping {call : SupervisorCall} (h : isStopping call = true) :
    isPlain call = true := by
  cases call <;> first | rfl | cases h

theorem isPlain_of_isLaunching {call : SupervisorCall} (h : isLaunching call = true) :
    isPlain call = true := by
  cases call <;> first | rfl | cases h

theorem Launches.plain {handles : List ProcessHandle} {before after : List SupervisorCall}
    (h : Launches handles before after) : Adds isPlain before after := by
  obtain ⟨added, hafter, hadded, -⟩ := h
  exact ⟨added, hafter, fun call hcall => isPlain_of_isLaunching (hadded call hcall)⟩

theorem Adds.plain {before after : List SupervisorCall} (h : Adds isStopping before after) :
    Adds isPlain before after := by
  obtain ⟨added, hafter, hadded⟩ := h
  exact ⟨added, hafter, fun call hcall => isPlain_of_isStopping (hadded call hcall)⟩

/-- Plain calls, and a session that is the same or has no native tunnel, keep the count. -/
theorem GenerationsCounted.plain {actor after : SupervisorActor} (h : GenerationsCounted actor)
    (hcalls : Adds isPlain actor.calls after.calls)
    (hgeneration : after.nativeTunGeneration = actor.nativeTunGeneration)
    (hrunning : after.running = actor.running ∨ after.running.nativeTun = none) :
    GenerationsCounted after := by
  refine ⟨by rw [hgeneration, countP_adds hcalls, h.counted], ?_⟩
  intro nativeTun hnative
  rw [hgeneration, currentSession_adds hcalls]
  rcases hrunning with hsame | hnone
  · exact h.running nativeTun (hsame ▸ hnative)
  · rw [hnone] at hnative
    cases hnative

theorem stop_counted (deps : SupervisorDeps) {actor : SupervisorActor}
    (h : GenerationsCounted actor) : GenerationsCounted (stop deps actor).2 := by
  have hcalls := Adds.plain (stopRunning_calls deps actor.running actor.calls)
  rcases stop_eq deps actor with ⟨calls, -, hrun, hstop⟩ | ⟨error, calls, -, hrun, hstop⟩
  · rw [hrun] at hcalls
    rw [hstop]
    exact h.plain hcalls rfl (.inr rfl)
  · rw [hrun] at hcalls
    rw [hstop]
    exact h.plain hcalls rfl (.inl rfl)

theorem startProcesses_counted (deps : SupervisorDeps) (request : SupervisorStartRequest)
    {actor : SupervisorActor} (hempty : actor.running.nativeTun = none)
    (h : GenerationsCounted actor) : GenerationsCounted (startProcesses deps request actor).2 := by
  have hspec := launchSession_spec deps request actor.calls
  unfold startProcesses
  split
  · rename_i heq
    rw [heq] at hspec
    exact h.plain (Launches.plain hspec) rfl (.inl rfl)
  · rename_i running error calls heq
    rw [heq] at hspec
    have hcalls := Launches.plain hspec.2
    have hstopped := Adds.plain (stopRunning_calls deps running calls)
    refine h.plain (hcalls.trans ?_) rfl (.inr hempty)
    unfold cleanupPartialStart
    cases hstop : stopRunning deps running calls with
    | mk answer after =>
      rw [hstop] at hstopped
      cases answer <;> exact hstopped
  · rename_i running calls heq
    rw [heq] at hspec
    exact h.plain (Launches.plain hspec.2) rfl (.inr hspec.1.nativeTun)

theorem startNativeTun_counted (deps : SupervisorDeps) (request : SupervisorStartRequest)
    (backend : TunBackend) {actor : SupervisorActor} (hempty : actor.running.nativeTun = none)
    (h : GenerationsCounted actor) :
    GenerationsCounted (startNativeTun deps request backend actor).2 := by
  unfold startNativeTun
  split
  · exact h
  · rename_i nativeRequest _
    dsimp only
    split
    · rename_i message hanswer
      refine ⟨?_, ?_⟩
      · rw [List.countP_cons_of_neg (by simp [nativeStarted, hanswer])]
        exact h.counted
      · intro nativeTun hnative
        rw [hempty] at hnative
        cases hnative
    · rename_i hanswer
      have hstarted : nativeStarted (.startNativeTun nativeRequest
          (deps.startNativeTun actor.calls nativeRequest)) = true := by
        rw [hanswer]
        rfl
      refine ⟨?_, ?_⟩
      · rw [List.countP_cons_of_pos hstarted, UInt64.ofNat_add, ← h.counted]
        rfl
      · intro nativeTun hnative
        cases hnative
        refine ⟨rfl, ?_⟩
        rw [currentSession, List.takeWhile_cons_of_pos (by simp),
          List.countP_cons_of_pos hstarted]
        exact Nat.succ_pos _

theorem start_counted (deps : SupervisorDeps) (request : SupervisorStartRequest)
    {actor : SupervisorActor} (h : GenerationsCounted actor) :
    GenerationsCounted (start deps request actor).2 := by
  have hstopped := stop_counted deps h
  rcases stop_eq deps actor with ⟨calls, -, -, hstop⟩ | ⟨error, calls, -, -, hstop⟩
  · rw [hstop] at hstopped
    have hbegun : GenerationsCounted
        { actor with running := {}, calls := .sessionBegun :: calls } := by
      refine ⟨?_, ?_⟩
      · rw [List.countP_cons_of_neg (by simp [nativeStarted])]
        exact hstopped.counted
      · intro nativeTun hnative
        cases hnative
    simp only [start, hstop, startSession]
    split
    · exact startNativeTun_counted deps request _ rfl hbegun
    · exact startProcesses_counted deps request rfl hbegun
  · rw [hstop] at hstopped
    simp only [start, hstop]
    exact hstopped

theorem handle_counted (deps : SupervisorDeps) (actor : SupervisorActor)
    (command : SupervisorCommand) (h : GenerationsCounted actor) :
    GenerationsCounted (handle deps actor command) := by
  have hstopped := stop_counted deps h
  cases command with
  | start request => exact start_counted deps request h
  | stop => exact hstopped
  | restart request =>
    simp only [handle, restart]
    split
    · rename_i heq
      rwa [heq] at hstopped
    · rename_i heq
      rw [heq] at hstopped
      exact start_counted deps request hstopped
  | status => exact h
  | processExited processId exitCode =>
    simp only [handle, processExited]
    split
    · exact h
    · split
      · rename_i heq
        rwa [heq] at hstopped
      · rename_i heq
        rw [heq] at hstopped
        split
        · exact start_counted deps _ hstopped
        · exact hstopped
  | nativeTunExited generation message =>
    simp only [handle, nativeTunExited]
    split
    · exact h
    · split
      · exact h
      · have hcalls := Adds.plain (stopRunning_calls deps actor.running actor.calls)
        exact h.plain (hcalls.trans (Adds.one rfl _)) rfl (.inr rfl)

theorem step_counted (deps : SupervisorDeps) (system : NotifiedSupervisor)
    (input : SupervisorInput) (h : GenerationsCounted system.actor) :
    GenerationsCounted (step deps system input).actor := by
  cases input with
  | command command => exact handle_counted deps system.actor command h
  | exits spawnCall =>
    simp only [step]
    split
    · exact h
    · exact h
  | deliverExit spawnCall exitCode =>
    simp only [step]
    split
    · split
      · rename_i process _
        exact handle_counted deps system.actor (.processExited process.id exitCode) h
      · exact h
    · exact h
  | deliverNativeExit startCall message =>
    simp only [step]
    split
    · rename_i generation _
      exact handle_counted deps system.actor (.nativeTunExited generation message) h
    · exact h

theorem containsPid_eq_false {running : RunningCore} {processId : UInt32}
    (h : ∀ process ∈ processes running, process.id ≠ processId) :
    running.containsPid processId = false := by
  rw [RunningCore.containsPid, Bool.or_eq_false_iff, Option.any_eq_false, Option.any_eq_false]
  constructor
  · intro process hmain
    simpa using h process (List.mem_append_left _ (by simp [hmain]))
  · intro process hpre
    simpa using h process (List.mem_append_right _ (by simp [hpre]))

/-- The running native tunnel was started after every call of an earlier session. -/
theorem started_after_earlier {actor : SupervisorActor} (h : GenerationsCounted actor)
    {number : Nat} (hearlier : Earlier actor.calls number) {nativeTun : RunningNativeTun}
    (hnative : actor.running.nativeTun = some nativeTun) :
    0 < (callsAfter actor.calls number).countP nativeStarted := by
  obtain ⟨-, hcurrent⟩ := h.running nativeTun hnative
  have hsplit : actor.calls = callsAfter actor.calls number ++ callsUpTo actor.calls number :=
    (List.take_append_drop _ _).symm
  have hshort : ((callsAfter actor.calls number).takeWhile (· ≠ .sessionBegun)).length ≠
      (callsAfter actor.calls number).length := by
    intro hlength
    have hall := (List.takeWhile_prefix _).eq_of_length hlength
    rw [List.takeWhile_eq_self_iff] at hall
    simpa using hall _ hearlier
  rw [currentSession, hsplit, List.takeWhile_append, if_neg hshort] at hcurrent
  exact Nat.lt_of_lt_of_le hcurrent (List.Sublist.countP_le (List.takeWhile_sublist _))

theorem nativeTunExited_earlier {deps : SupervisorDeps} {actor : SupervisorActor}
    (h : GenerationsCounted actor) {number : Nat} (hearlier : Earlier actor.calls number)
    (hround : 2 ^ 64 ∣ (callsAfter actor.calls number).countP nativeStarted →
      (callsAfter actor.calls number).countP nativeStarted = 0) (message : String) :
    nativeTunExited deps
      (UInt64.ofNat ((callsUpTo actor.calls number).countP nativeStarted)) message actor =
        actor := by
  unfold nativeTunExited
  split
  · rfl
  · rename_i nativeTun hnative
    have hafter := started_after_earlier h hearlier hnative
    rw [if_pos]
    rw [(h.running nativeTun hnative).1, h.counted]
    intro hsame
    have hcount : actor.calls.countP nativeStarted =
        (callsAfter actor.calls number).countP nativeStarted +
          (callsUpTo actor.calls number).countP nativeStarted := by
      rw [← List.countP_append, callsAfter, callsUpTo, List.take_append_drop]
    have hmod : actor.calls.countP nativeStarted % 2 ^ 64 =
        (callsUpTo actor.calls number).countP nativeStarted % 2 ^ 64 := by
      simpa using congrArg UInt64.toNat hsame
    have hdvd : 2 ^ 64 ∣ (callsAfter actor.calls number).countP nativeStarted := by omega
    have hzero := hround hdvd
    omega

/-- In every run whose stale notifications meet no reused pid and no reused generation, none of
them stops, restarts or changes anything. -/
theorem stale_exits_ignored (deps : SupervisorDeps) (inputs : List SupervisorInput)
    (h : InputRuns.Meets (step deps) SessionsApart {} inputs) :
    InputRuns.Meets (step deps) (StaleIgnored deps) {} inputs := by
  have hinitial : GenerationsCounted {} := by
    refine ⟨rfl, ?_⟩
    intro nativeTun hnative
    cases hnative
  refine InputRuns.meets_of_invariant (step deps) (step_counted deps) ?_ hinitial h
  intro system input hcounted hapart hstale
  have hapart := hapart hstale
  cases input with
  | command command => cases hstale
  | exits spawnCall => cases hstale
  | deliverExit spawnCall exitCode =>
    simp only [step]
    split
    · split
      · rename_i process hprocess
        have hcontains := containsPid_eq_false (hapart process hprocess)
        simp only [handle, processExited, hcontains]
        rfl
      · rfl
    · rfl
  | deliverNativeExit startCall message =>
    simp only [step]
    split
    · rename_i generation hgeneration
      simp only [generationAt, Option.ite_none_right_eq_some, Option.some.injEq] at hgeneration
      rw [← hgeneration.2]
      exact nativeTunExited_earlier hcounted hstale hapart message
    · rfl

/-- A Linux platform where everything succeeds and pids are handed out as given. -/
def pidsGiven (pid : List SupervisorCall → UInt32) : SupervisorDeps :=
  { targetOs := .linux
    isGranted := fun _ => true
    createJob := fun _ => .ok false
    assign := fun _ _ => .ok ()
    cleanupBeforeStart := fun _ => .ok ()
    spawn := fun calls request => .ok ⟨pid calls, request.role⟩
    runOneshot := fun _ _ => .ok ⟨some 0, "", ""⟩
    stop := fun _ _ => .ok ()
    startNativeTun := fun _ _ => .ok ()
    stopNativeTun := fun _ _ => .ok () }

def startRequest (profileId : String) : SupervisorStartRequest :=
  { activeProfileId := some profileId
    main :=
      { coreType := .singBox
        launch := { executable := "/bin/sing-box", arguments := "run", workingDir := "/bin"
                    environment := [] } }
    pre := none
    tunEnabled := false
    sudoScriptDir := "/tmp/sudo"
    restartOnCrash := true }

/-- The first core exits by itself, the user reconnects, and only then is the exit reported. -/
def lateExit : List SupervisorInput :=
  [.command (.start (startRequest "a")), .exits 1, .command .stop,
    .command (.start (startRequest "b")), .deliverExit 1 none]

theorem stale_exits_ignored_fresh :
    let deps := pidsGiven fun calls => 100 + UInt32.ofNat calls.length
    InputRuns.Meets (step deps) (StaleIgnored deps) {} lateExit := by
  refine stale_exits_ignored _ lateExit ⟨?_, ?_, ?_, ?_, ?_, trivial⟩
  · intro hstale
    cases hstale
  · intro hstale
    cases hstale
  · intro hstale
    cases hstale
  · intro hstale
    cases hstale
  · intro _ exited hexited process hprocess
    have hexited : exited = ⟨101, .main⟩ := by
      apply Option.some.inj
      rw [← hexited]
      decide
    have hprocess : process = ⟨104, .main⟩ := by
      simpa using (show process ∈ [(⟨104, .main⟩ : ProcessHandle)] from hprocess)
    rw [hexited, hprocess]
    decide

/-- The system gives a new process a used pid only once the process before it is reaped. -/
def ReusesReaped (deps : SupervisorDeps) (system : NotifiedSupervisor) (input : SupervisorInput) :
    Prop :=
  let after := (step deps system input).actor.calls
  ∀ later < after.length, system.actor.calls.length ≤ later →
    ∀ process ∈ (callAt after later).bind spawned,
      ∀ earlier < later, ∀ old ∈ (callAt after earlier).bind spawned,
        old.id = process.id → earlier ∈ system.reaped

theorem stale_exits_ignored_counterexample :
    ¬ ∀ deps inputs, InputRuns.Meets (step deps) (ReusesReaped deps) {} inputs →
      InputRuns.Meets (step deps) (StaleIgnored deps) {} inputs := by
  intro h
  -- the second core gets the pid of the first one, which has been reaped by then
  let deps := pidsGiven fun calls => if calls.length ≤ 4 then 100 else 200
  have hreaped : InputRuns.Meets (step deps) (ReusesReaped deps) {} lateExit := by
    refine ⟨?_, ?_, ?_, ?_, ?_, trivial⟩ <;> (unfold ReusesReaped; decide)
  obtain ⟨-, -, -, -, hlast, -⟩ := h deps lateExit hreaped
  have hstale : SupervisorCall.sessionBegun ∈ callsAfter
      (([.command (.start (startRequest "a")), .exits 1, .command .stop,
        .command (.start (startRequest "b"))] : List SupervisorInput).foldl (step deps)
          {}).actor.calls
      1 := by
    decide
  have hsame := congrArg (fun actor => actor.running.main) (hlast hstale)
  revert hsame
  decide

end StaleExits
