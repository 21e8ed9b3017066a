import VoyaVPN.SupervisorTracking

/-! What the supervisor lists after a reported crash. The handling stops the whole session as
a user would; when one of its stops fails, the session is put back with the dead process. -/
namespace CrashHandling

open PlatformProcess Supervisor SupervisorSteps SupervisorTracking

def lists (snapshot : SupervisorSnapshot) (processId : UInt32) : Prop :=
  snapshot.mainPid = some processId ∨ snapshot.prePid = some processId

/-- After a reported exit of a tracked process the snapshot no longer lists its pid. -/
def PidCleared (deps : SupervisorDeps) (actor : SupervisorActor) : SupervisorCommand → Prop
  | .processExited processId exitCode => lists actor.running.snapshot processId →
      ¬ lists (handle deps actor (.processExited processId exitCode)).running.snapshot processId
  | .start _ | .stop | .restart _ | .status | .nativeTunExited .. => True

/-- Every stop and kill made for the session of the process is answered with success. -/
def SessionStops (deps : SupervisorDeps) (actor : SupervisorActor) : SupervisorCommand → Prop
  | .processExited processId _ => lists actor.running.snapshot processId →
      StopsCleanly deps actor.running actor.calls
  | .start _ | .stop | .restart _ | .status | .nativeTunExited .. => True

/-- The processes spawned while the exit is handled get other pids. -/
def RestartFresh (deps : SupervisorDeps) (actor : SupervisorActor) (command : SupervisorCommand) :
    Prop :=
  ∀ processId exitCode, command = .processExited processId exitCode →
    ∀ added, (handle deps actor command).calls = added ++ actor.calls →
      ∀ call ∈ added, ∀ process, spawned call = some process → process.id ≠ processId

theorem lists_iff_processes (running : RunningCore) (processId : UInt32) :
    lists running.snapshot processId ↔ ∃ process ∈ processes running, process.id = processId := by
  simp only [lists, RunningCore.snapshot, processes, Option.map_eq_some_iff, List.mem_append,
    Option.mem_toList]
  constructor
  · rintro (⟨process, hprocess, hid⟩ | ⟨process, hprocess, hid⟩)
    · exact ⟨process, .inl hprocess, hid⟩
    · exact ⟨process, .inr hprocess, hid⟩
  · rintro ⟨process, hprocess | hprocess, hid⟩
    · exact .inl ⟨process, hprocess, hid⟩
    · exact .inr ⟨process, hprocess, hid⟩

theorem containsPid_iff (running : RunningCore) (processId : UInt32) :
    running.containsPid processId = true ↔ lists running.snapshot processId := by
  simp [RunningCore.containsPid, lists, RunningCore.snapshot, Option.any_eq_true]

/-- The processes of the session after `after` were spawned by the calls added to `before`. -/
def Spawned (before : List SupervisorCall) (after : SupervisorActor) : Prop :=
  ∃ added, after.calls = added ++ before ∧
    ∀ process ∈ processes after.running, ∃ call ∈ added, spawned call = some process

theorem spawned_of_none {before : List SupervisorCall} {after : SupervisorActor}
    (hnone : processes after.running = []) (h : ∃ added, after.calls = added ++ before) :
    Spawned before after := by
  obtain ⟨added, hcalls⟩ := h
  refine ⟨added, hcalls, ?_⟩
  intro process hprocess
  rw [hnone] at hprocess
  cases hprocess

theorem Spawned.grow {middle : List SupervisorCall} {after : SupervisorActor}
    (h : Spawned middle after) {before : List SupervisorCall}
    (hmiddle : ∃ added, middle = added ++ before) : Spawned before after := by
  obtain ⟨added, hcalls, hspawned⟩ := h
  obtain ⟨earlier, rfl⟩ := hmiddle
  refine ⟨added ++ earlier, by rw [hcalls, List.append_assoc], ?_⟩
  intro process hprocess
  obtain ⟨call, hcall, hprocess⟩ := hspawned process hprocess
  exact ⟨call, List.mem_append_left _ hcall, hprocess⟩

theorem startProcesses_spawned (deps : SupervisorDeps) (request : SupervisorStartRequest)
    {actor : SupervisorActor} (hempty : actor.running = {}) :
    Spawned actor.calls (startProcesses deps request actor).2 := by
  have hnone : processes actor.running = [] := by
    rw [hempty]
    rfl
  have hspec := launchSession_spec deps request actor.calls
  unfold startProcesses
  split
  · rename_i heq
    rw [heq] at hspec
    obtain ⟨added, hcalls, -⟩ := hspec
    exact spawned_of_none hnone ⟨added, hcalls⟩
  · rename_i running error calls heq
    rw [heq] at hspec
    obtain ⟨-, added, hcalls, -⟩ := hspec
    have hstopped : ∃ more, (cleanupPartialStart deps running error calls).2 = more ++ calls := by
      obtain ⟨more, hmore, -⟩ := stopRunning_calls deps running calls
      refine ⟨more, ?_⟩
      rw [← hmore, cleanupPartialStart]
      split
      · rename_i heq
        rw [heq]
      · rename_i heq
        rw [heq]
    obtain ⟨more, hmore⟩ := hstopped
    refine spawned_of_none hnone ⟨more ++ added, ?_⟩
    rw [List.append_assoc, ← hcalls]
    exact hmore
  · rename_i running calls heq
    rw [heq] at hspec
    obtain ⟨-, added, hcalls, -, hspawned⟩ := hspec
    refine ⟨added, hcalls, ?_⟩
    intro process hprocess
    have hmem : process ∈ added.filterMap spawned := by
      rw [hspawned]
      exact List.mem_reverse.mpr hprocess
    exact List.mem_filterMap.mp hmem

theorem startNativeTun_spawned (deps : SupervisorDeps) (request : SupervisorStartRequest)
    (backend : TunBackend) {actor : SupervisorActor} (hempty : actor.running = {}) :
    Spawned actor.calls (startNativeTun deps request backend actor).2 := by
  have hnone : processes actor.running = [] := by
    rw [hempty]
    rfl
  unfold startNativeTun
  split
  · exact spawned_of_none hnone ⟨[], rfl⟩
  · dsimp only
    split
    · exact spawned_of_none hnone ⟨[_], rfl⟩
    · exact spawned_of_none rfl ⟨[_], rfl⟩

theorem start_spawned (deps : SupervisorDeps) (request : SupervisorStartRequest)
    {actor : SupervisorActor} (hempty : actor.running = {}) :
    Spawned actor.calls (start deps request actor).2 := by
  have hcalls := stopRunning_calls deps actor.running actor.calls
  rcases stop_eq deps actor with ⟨calls, -, hrun, hstop⟩ | ⟨error, calls, hclean, -, hstop⟩
  · rw [hrun] at hcalls
    obtain ⟨added, rfl, -⟩ := hcalls
    have hbegun : ∃ more, SupervisorCall.sessionBegun :: (added ++ actor.calls) =
        more ++ actor.calls := ⟨.sessionBegun :: added, rfl⟩
    simp only [start, hstop, startSession]
    split
    · exact (startNativeTun_spawned deps request _ rfl).grow hbegun
    · exact (startProcesses_spawned deps request rfl).grow hbegun
  · rw [hempty] at hclean
    exact absurd (stopsCleanly_empty deps actor.calls) hclean

theorem processExited_restored {deps : SupervisorDeps} {actor : SupervisorActor}
    {processId : UInt32} (hlists : lists actor.running.snapshot processId)
    (hclean : ¬ StopsCleanly deps actor.running actor.calls) :
    (processExited deps processId actor).2.running = actor.running := by
  rcases stop_eq deps actor with ⟨calls, hstops, -, -⟩ | ⟨error, calls, -, -, hstop⟩
  · exact absurd hstops hclean
  · have hcontains := (containsPid_iff actor.running processId).mpr hlists
    simp only [processExited, hcontains, hstop]
    rfl

theorem processExited_spawned {deps : SupervisorDeps} {actor : SupervisorActor}
    {processId : UInt32} (hlists : lists actor.running.snapshot processId)
    (hclean : StopsCleanly deps actor.running actor.calls) :
    Spawned actor.calls (processExited deps processId actor).2 := by
  have hcalls := stopRunning_calls deps actor.running actor.calls
  rcases stop_eq deps actor with ⟨calls, -, hrun, hstop⟩ | ⟨error, calls, hnot, -, -⟩
  · rw [hrun] at hcalls
    obtain ⟨added, rfl, -⟩ := hcalls
    have hcontains := (containsPid_iff actor.running processId).mpr hlists
    simp only [processExited, hcontains, hstop]
    simp only [Bool.not_true, Bool.false_eq_true, if_false]
    split
    · rename_i request _
      have hstart := @start_spawned deps request
        { actor with running := {}, calls := added ++ actor.calls } rfl
      exact hstart.grow ⟨added, rfl⟩
    · exact spawned_of_none rfl ⟨added, rfl⟩
  · exact absurd hclean hnot

theorem pidCleared_iff {deps : SupervisorDeps} {actor : SupervisorActor}
    {command : SupervisorCommand} (hfresh : RestartFresh deps actor command) :
    PidCleared deps actor command ↔ SessionStops deps actor command := by
  cases command with
  | processExited processId exitCode =>
    constructor
    · intro hcleared hlists
      by_contra hclean
      refine hcleared hlists ?_
      have hrestored := processExited_restored hlists hclean
      simp only [handle, hrestored]
      exact hlists
    · intro hstops hlists hafter
      obtain ⟨added, hcalls, hspawned⟩ := processExited_spawned hlists (hstops hlists)
      obtain ⟨process, hprocess, hid⟩ := (lists_iff_processes _ _).mp hafter
      obtain ⟨call, hcall, hspawn⟩ := hspawned process hprocess
      exact hfresh processId exitCode rfl added hcalls call hcall process hspawn hid
  | start request => exact Iff.rfl
  | stop => exact Iff.rfl
  | restart request => exact Iff.rfl
  | status => exact Iff.rfl
  | nativeTunExited generation message => exact Iff.rfl

/-- In every run in which a restart gets other pids than the crashed process had, an exit is
cleared exactly when the rest of the session could be stopped. -/
theorem crash_clears_pid_iff (deps : SupervisorDeps) (commands : List SupervisorCommand)
    (h : InputRuns.Meets (handle deps) (RestartFresh deps) {} commands) :
    InputRuns.Meets (handle deps) (fun actor command =>
      PidCleared deps actor command ↔ SessionStops deps actor command) {} commands := by
  exact InputRuns.meets_mono (handle deps) (fun actor command hfresh => pidCleared_iff hfresh) h

/-- Two cores under the given pids, where a stop is answered by the pid it is for. -/
def twoCores (pid : List SupervisorCall → ProcessSpawn → UInt32)
    (stopAnswer : UInt32 → Except ProcessError Unit) : SupervisorDeps :=
  { preRefused (.ok ()) with
    spawn := fun calls request => .ok ⟨pid calls request, request.role⟩
    stop := fun _ process => stopAnswer process.id }

def crash : List SupervisorCommand := [.start preRequest, .processExited 102 (some 1)]

theorem crash_clears_pid_iff_stopped :
    let deps := twoCores (fun calls _ => 100 + UInt32.ofNat (calls.length + 1)) fun _ => .ok ()
    InputRuns.Meets (handle deps) (fun actor command =>
      PidCleared deps actor command ↔ SessionStops deps actor command) {} crash := by
  refine crash_clears_pid_iff _ crash ⟨?_, ?_, trivial⟩
  · intro processId exitCode hcommand
    cases hcommand
  · intro processId exitCode hcommand added hcalls call hcall process hspawn
    cases hcommand
    have hids : ∀ call ∈ added, (spawned call).all (·.id ≠ 102) = true := by
      have hadded := congrArg (List.take 5) hcalls
      have hlength := congrArg List.length hcalls
      rw [List.length_append] at hlength
      have hfive : added.length = 5 := Nat.add_right_cancel hlength.symm
      rw [List.take_left' hfive] at hadded
      rw [← hadded]
      decide
    have hid := hids call hcall
    rw [hspawn] at hid
    simpa using hid

/-- The main core has crashed and stopping the pre-core fails: the session is put back and
still lists the main core. -/
theorem crash_clears_pid_iff_counterexample :
    ¬ ∀ deps commands, InputRuns.Meets (handle deps) (PidCleared deps) {} commands := by
  intro h
  let deps := twoCores (fun _ request => if request.role = .main then 102 else 103) fun pid =>
    if pid = 103 then .error (.stop "denied") else .ok ()
  obtain ⟨-, hcleared, -⟩ := h deps crash
  exact hcleared (.inl (by decide)) (.inl (by decide))

end CrashHandling
