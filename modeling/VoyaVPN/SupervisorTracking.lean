import VoyaVPN.InputRuns
import VoyaVPN.SupervisorSteps

/-! Which processes the supervisor keeps on record. A start that fails half way stops what it
has spawned and forgets it, whatever the stops answer; everywhere else a live process is in
the recorded session. -/
namespace SupervisorTracking

open PlatformProcess Supervisor SupervisorSteps

/-- The stops and kills of a session leave none of its processes: each elevated process is
killed and each other one is stopped. -/
def Disposes (deps : SupervisorDeps) (running : RunningCore) (calls : List SupervisorCall) :
    Prop :=
  ∃ killed, sudoKillAll deps running running.elevated
      (stopNativeTun deps running.nativeTun calls).2 = (.ok (), killed) ∧
    (∀ main, running.main = some main → main ∈ running.elevated ∨
      deps.stop killed main = .ok ()) ∧
    ∀ pre, running.pre = some pre → pre ∈ running.elevated ∨
      deps.stop (stopHandle deps running.main none killed).2 pre = .ok ()

theorem disposes_ends {deps : SupervisorDeps} {running : RunningCore}
    {calls : List SupervisorCall} (hrequest : running.lastRequest.isSome = true)
    (h : Disposes deps running calls) :
    ∀ handle ∈ processes running, handle ∉ liveProcesses (stopRunning deps running calls).2 := by
  obtain ⟨killed, hkilled, hmain, hpre⟩ := h
  intro handle hhandle hlive
  rw [stopRunning_of_killed deps hkilled] at hlive
  have hafterMain := (stopHandle_calls deps running.pre none _).live hlive
  have hafterKill := (stopHandle_calls deps running.main none killed).live hafterMain
  have hends := sudoKillAll_ends deps hrequest (congrArg Prod.fst hkilled)
  rw [hkilled] at hends
  rcases List.mem_append.mp hhandle with hhandle | hhandle
  · have hrunning : running.main = some handle := Option.mem_toList.mp hhandle
    rcases hmain handle hrunning with helevated | hstop
    · exact hends handle helevated hafterKill
    · rw [hrunning] at hafterMain
      exact stopHandle_ends deps hstop hafterMain
  · have hrunning : running.pre = some handle := Option.mem_toList.mp hhandle
    rcases hpre handle hrunning with helevated | hstop
    · exact hends handle helevated hafterKill
    · rw [hrunning] at hlive
      exact stopHandle_ends deps hstop hlive

/-- A session is one of processes, of a native tunnel, or none. -/
structure Shaped (running : RunningCore) : Prop where
  requested : processes running ≠ [] → running.lastRequest.isSome = true
  main : running.main = none → running.pre = none
  native : running.nativeTun.isSome = true → processes running = []

/-- Every live process is in the recorded session. -/
structure Tracked (actor : SupervisorActor) : Prop where
  shaped : Shaped actor.running
  tracked : ∀ handle ∈ liveProcesses actor.calls, handle ∈ processes actor.running

theorem shaped_empty : Shaped {} := by
  refine ⟨?_, ?_, ?_⟩
  · intro h
    exact absurd rfl h
  · intro _
    rfl
  · intro _
    rfl

theorem shaped_of_madeFor {request : SupervisorStartRequest} {running : RunningCore}
    (h : MadeFor request running) : Shaped running := by
  refine ⟨?_, ?_, ?_⟩
  · intro _
    rw [h.lastRequest]
    rfl
  · intro hnone
    have hmain := h.main
    rw [hnone] at hmain
    cases hmain
  · intro hnative
    rw [h.nativeTun] at hnative
    cases hnative

theorem stop_tracked (deps : SupervisorDeps) {actor : SupervisorActor} (h : Tracked actor) :
    Tracked (stop deps actor).2 := by
  have hkept : ∀ handle ∈ liveProcesses (stopRunning deps actor.running actor.calls).2,
      handle ∈ processes actor.running := by
    intro handle hlive
    exact h.tracked handle ((stopRunning_calls deps actor.running actor.calls).live hlive)
  rcases stop_eq deps actor with ⟨calls, hclean, hrun, hstop⟩ | ⟨error, calls, -, hrun, hstop⟩
  · rw [hstop]
    rw [hrun] at hkept
    have hends := stopRunning_ok_ends deps ((stopRunning_eq_ok deps).mpr hclean)
    rw [hrun] at hends
    refine ⟨shaped_empty, ?_⟩
    intro handle hlive
    exact absurd hlive (hends handle (hkept handle hlive))
  · rw [hstop]
    rw [hrun] at hkept
    exact ⟨h.shaped, hkept⟩

/-- When a start has spawned something and fails, its cleanup leaves no process. -/
def LaunchDisposes (deps : SupervisorDeps) (request : SupervisorStartRequest)
    (calls : List SupervisorCall) : Prop :=
  ∀ running error after, launchSession deps request calls = (.abandoned running error, after) →
    Disposes deps running after

theorem startProcesses_tracked {deps : SupervisorDeps} {request : SupervisorStartRequest}
    {actor : SupervisorActor} (hempty : actor.running = {})
    (hlive : ∀ handle, handle ∉ liveProcesses actor.calls)
    (hclean : LaunchDisposes deps request actor.calls) :
    Tracked (startProcesses deps request actor).2 := by
  have hspec := launchSession_spec deps request actor.calls
  unfold startProcesses
  split
  · rename_i heq
    rw [heq] at hspec
    refine ⟨by rw [hempty]; exact shaped_empty, ?_⟩
    intro handle hhandle
    rcases Launches.live hspec hhandle with hnone | hbefore
    · cases hnone
    · exact absurd hbefore (hlive handle)
  · rename_i running error calls heq
    rw [heq] at hspec
    obtain ⟨hmade, hlaunched⟩ := hspec
    have hrequest : running.lastRequest.isSome = true := by
      rw [hmade.lastRequest]
      rfl
    have hends := disposes_ends hrequest (hclean running error calls heq)
    refine ⟨by rw [hempty]; exact shaped_empty, ?_⟩
    intro handle hhandle
    have hafter : handle ∈ liveProcesses (stopRunning deps running calls).2 := by
      unfold cleanupPartialStart at hhandle
      cases hstop : stopRunning deps running calls with
      | mk answer after => cases answer <;> simpa only [hstop] using hhandle
    have hbefore := (stopRunning_calls deps running calls).live hafter
    rcases hlaunched.live hbefore with hprocess | hbefore
    · exact absurd hafter (hends handle (List.mem_reverse.mp hprocess))
    · exact absurd hbefore (hlive handle)
  · rename_i running calls heq
    rw [heq] at hspec
    obtain ⟨hmade, hlaunched⟩ := hspec
    refine ⟨shaped_of_madeFor hmade, ?_⟩
    intro handle hhandle
    rcases hlaunched.live hhandle with hprocess | hbefore
    · exact List.mem_reverse.mp hprocess
    · exact absurd hbefore (hlive handle)

theorem startNativeTun_tracked {deps : SupervisorDeps} {request : SupervisorStartRequest}
    {backend : TunBackend} {actor : SupervisorActor} (hempty : actor.running = {})
    (hlive : ∀ handle, handle ∉ liveProcesses actor.calls) :
    Tracked (startNativeTun deps request backend actor).2 := by
  have hcalled : ∀ call : SupervisorCall, spawned call = none →
      ∀ handle, handle ∉ liveProcesses (call :: actor.calls) := by
    intro call hspawned handle hhandle
    rw [mem_live_cons, hspawned] at hhandle
    rcases hhandle with hnone | ⟨hbefore, -⟩
    · cases hnone
    · exact hlive handle hbefore
  unfold startNativeTun
  split
  · refine ⟨by rw [hempty]; exact shaped_empty, ?_⟩
    intro handle hhandle
    exact absurd hhandle (hlive handle)
  · dsimp only
    split
    · refine ⟨by rw [hempty]; exact shaped_empty, ?_⟩
      intro handle hhandle
      exact absurd hhandle (hcalled _ rfl handle)
    · refine ⟨⟨?_, ?_, ?_⟩, ?_⟩
      · intro _
        rfl
      · intro _
        rfl
      · intro _
        rfl
      · intro handle hhandle
        exact absurd hhandle (hcalled _ rfl handle)

/-- The condition on a start: as `LaunchDisposes`, at the calls it launches its processes
after. -/
def StartDisposes (deps : SupervisorDeps) (request : SupervisorStartRequest)
    (actor : SupervisorActor) : Prop :=
  ∀ snapshot stopped, stop deps actor = (.ok snapshot, stopped) →
    (supervisorTunBackend deps.targetOs request.tunEnabled).isNative = false →
      LaunchDisposes deps request (.sessionBegun :: stopped.calls)

theorem start_tracked {deps : SupervisorDeps} {request : SupervisorStartRequest}
    {actor : SupervisorActor} (h : Tracked actor) (hclean : StartDisposes deps request actor) :
    Tracked (start deps request actor).2 := by
  have hstopped := stop_tracked deps h
  rcases stop_eq deps actor with ⟨calls, -, -, hstop⟩ | ⟨error, calls, -, -, hstop⟩
  · rw [hstop] at hstopped
    have hlive : ∀ handle, handle ∉ liveProcesses (.sessionBegun :: calls) := by
      intro handle hhandle
      rw [mem_live_cons] at hhandle
      rcases hhandle with hnone | ⟨hbefore, -⟩
      · cases hnone
      · have hnone := hstopped.tracked handle hbefore
        cases hnone
    simp only [start, hstop, startSession]
    split
    · exact startNativeTun_tracked rfl hlive
    · rename_i hnative
      refine startProcesses_tracked rfl hlive ?_
      exact hclean _ _ hstop (by simpa using hnative)
  · rw [hstop] at hstopped
    simp only [start, hstop]
    exact hstopped

/-- The condition on a command: a start it runs cleans up after itself. -/
def CommandDisposes (deps : SupervisorDeps) (actor : SupervisorActor) : SupervisorCommand → Prop
  | .start request => StartDisposes deps request actor
  | .restart request => ∀ snapshot stopped, stop deps actor = (.ok snapshot, stopped) →
      StartDisposes deps request stopped
  | .processExited processId _ => actor.running.containsPid processId = true →
      ∀ request, actor.running.lastRequest.filter (·.restartOnCrash) = some request →
        ∀ snapshot stopped, stop deps actor = (.ok snapshot, stopped) →
          StartDisposes deps request stopped
  | .stop | .status | .nativeTunExited .. => True

theorem restart_tracked {deps : SupervisorDeps} {request : SupervisorStartRequest}
    {actor : SupervisorActor} (h : Tracked actor)
    (hclean : ∀ snapshot stopped, stop deps actor = (.ok snapshot, stopped) →
      StartDisposes deps request stopped) :
    Tracked (restart deps request actor).2 := by
  have hstopped := stop_tracked deps h
  unfold restart
  split
  · rename_i heq
    rw [heq] at hstopped
    exact hstopped
  · rename_i heq
    rw [heq] at hstopped
    exact start_tracked hstopped (hclean _ _ heq)

theorem processExited_tracked {deps : SupervisorDeps} {processId : UInt32}
    {actor : SupervisorActor} (h : Tracked actor)
    (hclean : actor.running.containsPid processId = true →
      ∀ request, actor.running.lastRequest.filter (·.restartOnCrash) = some request →
        ∀ snapshot stopped, stop deps actor = (.ok snapshot, stopped) →
          StartDisposes deps request stopped) :
    Tracked (processExited deps processId actor).2 := by
  have hstopped := stop_tracked deps h
  unfold processExited
  split
  · exact h
  · rename_i hcontains
    have hcontains : actor.running.containsPid processId = true := by simpa using hcontains
    dsimp only
    split
    · rename_i heq
      rw [heq] at hstopped
      exact hstopped
    · rename_i heq
      rw [heq] at hstopped
      split
      · rename_i request hrequest
        exact start_tracked hstopped (hclean hcontains request hrequest _ _ heq)
      · exact hstopped

theorem nativeTunExited_tracked (deps : SupervisorDeps) (generation : UInt64) (message : String)
    {actor : SupervisorActor} (h : Tracked actor) :
    Tracked (nativeTunExited deps generation message actor) := by
  unfold nativeTunExited
  split
  · exact h
  · rename_i nativeTun hnative
    split
    · exact h
    · refine ⟨shaped_empty, ?_⟩
      intro handle hhandle
      rw [mem_live_cons] at hhandle
      rcases hhandle with hnone | ⟨hlive, -⟩
      · cases hnone
      · have hbefore := (stopRunning_calls deps actor.running actor.calls).live hlive
        have hprocess := h.tracked handle hbefore
        rw [h.shaped.native (by rw [hnative]; rfl)] at hprocess
        cases hprocess

theorem handle_tracked {deps : SupervisorDeps} (actor : SupervisorActor)
    (command : SupervisorCommand) (h : Tracked actor)
    (hclean : CommandDisposes deps actor command) :
    Tracked (handle deps actor command) := by
  cases command with
  | start request => exact start_tracked h hclean
  | stop => exact stop_tracked deps h
  | restart request => exact restart_tracked h hclean
  | status => exact h
  | processExited processId exitCode => exact processExited_tracked h hclean
  | nativeTunExited generation message => exact nativeTunExited_tracked deps generation message h

theorem tracked_initially : Tracked {} := by
  refine ⟨shaped_empty, ?_⟩
  intro handle hhandle
  cases hhandle

theorem runCommands_tracked {deps : SupervisorDeps} {commands : List SupervisorCommand}
    (h : InputRuns.Meets (handle deps) (CommandDisposes deps) {} commands) :
    Tracked (runCommands deps commands) :=
  InputRuns.invariant_of_meets (handle deps) handle_tracked tracked_initially h

/-- After every run of commands whose starts clean up after themselves, each live process is
in the recorded session, none is left when the supervisor reports that it is disconnected, and
none is left by a shutdown whose stops and kills succeed. -/
theorem live_processes_tracked (deps : SupervisorDeps) (commands : List SupervisorCommand)
    (h : InputRuns.Meets (handle deps) (CommandDisposes deps) {} commands) :
    let actor := runCommands deps commands
    (∀ process ∈ liveProcesses actor.calls, process ∈ processes actor.running) ∧
      (actor.running.snapshot.state = .disconnected → liveProcesses actor.calls = []) ∧
      (Disposes deps actor.running actor.calls →
        liveProcesses (shutdown deps actor).calls = []) := by
  intro actor
  have htracked : Tracked actor := runCommands_tracked h
  refine ⟨htracked.tracked, ?_, ?_⟩
  · intro hstate
    have hmain : actor.running.main = none := by
      cases hmain : actor.running.main with
      | none => rfl
      | some main => simp [RunningCore.snapshot, hmain] at hstate
    have hnone : processes actor.running = [] := by
      simp [processes, hmain, htracked.shaped.main hmain]
    rw [List.eq_nil_iff_forall_not_mem]
    intro process hlive
    have hprocess := htracked.tracked process hlive
    rw [hnone] at hprocess
    cases hprocess
  · intro hdisposes
    rw [List.eq_nil_iff_forall_not_mem]
    intro process hlive
    have hbefore := (stopRunning_calls deps actor.running actor.calls).live hlive
    have hprocess := htracked.tracked process hbefore
    have hrequest := htracked.shaped.requested (List.ne_nil_of_mem hprocess)
    exact disposes_ends hrequest hdisposes process hprocess hlive

/-- A Linux platform whose runner refuses the pre-core and answers a stop as given. -/
def preRefused (stopAnswer : Except ProcessError Unit) : SupervisorDeps :=
  { targetOs := .linux
    isGranted := fun _ => true
    createJob := fun _ => .ok false
    assign := fun _ _ => .ok ()
    cleanupBeforeStart := fun _ => .ok ()
    spawn := fun _ request =>
      if request.role = .pre then .error (.spawn request.executable "no such file")
      else .ok ⟨100, request.role⟩
    runOneshot := fun _ _ => .ok ⟨some 0, "", ""⟩
    stop := fun _ _ => stopAnswer
    startNativeTun := fun _ _ => .ok ()
    stopNativeTun := fun _ _ => .ok () }

def coreSpec : CoreProcessSpec :=
  { coreType := .singBox
    launch := { executable := "/bin/sing-box", arguments := "run", workingDir := "/bin"
                environment := [] } }

def preRequest : SupervisorStartRequest :=
  { activeProfileId := some "a"
    main := coreSpec
    pre := some coreSpec
    tunEnabled := false
    sudoScriptDir := "/tmp/sudo"
    restartOnCrash := true }

theorem live_processes_tracked_pre_refused :
    liveProcesses (runCommands (preRefused (.ok ())) [.start preRequest]).calls = [] := by
  have hrun : InputRuns.Meets (handle (preRefused (.ok ()))) (CommandDisposes (preRefused (.ok ())))
      {} [.start preRequest] := by
    refine ⟨?_, trivial⟩
    intro snapshot stopped hstop _ running error after hlaunch
    cases hstop
    cases hlaunch
    refine ⟨_, rfl, ?_, ?_⟩
    · intro main _
      exact .inr rfl
    · intro pre hpre
      cases hpre
  exact (live_processes_tracked (preRefused (.ok ())) [.start preRequest] hrun).2.1 rfl

/-- The main core is up, the pre-core is refused and the stop of the main core fails: the
supervisor is disconnected and knows nothing of the process. No exit is reported. -/
theorem live_processes_tracked_counterexample :
    ¬ ∀ deps commands, let actor := runCommands deps commands
      (∀ process ∈ liveProcesses actor.calls,
        (∀ processId exitCode, .processExited processId exitCode ∈ commands →
          processId ≠ process.id) → process ∈ processes actor.running) ∧
      (actor.running.snapshot.state = .disconnected → ∀ process ∈ liveProcesses actor.calls,
        process ∈ processes actor.running) := by
  intro h
  obtain ⟨htracked, -⟩ := h (preRefused (.error (.stop "denied"))) [.start preRequest]
  have hlive : (⟨100, .main⟩ : ProcessHandle) ∈ liveProcesses
      (runCommands (preRefused (.error (.stop "denied"))) [.start preRequest]).calls := by
    decide
  have hprocess := htracked _ hlive (by
    intro processId exitCode hcommand
    simp at hcommand)
  revert hprocess
  decide

end SupervisorTracking
