import VoyaVPN.Supervisor

/-! What the steps of the supervisor can do: which calls stopping and starting add to the ones
made before, which of them spawn a process, and which of them end one. -/
namespace SupervisorSteps

open PlatformProcess Supervisor Entities

def spawned : SupervisorCall → Option ProcessHandle
  | .spawn _ (.ok handle) => some handle
  | _ => none

/-- A stop or a kill of the process that was answered with success. -/
def ends (handle : ProcessHandle) : SupervisorCall → Bool
  | .stop target (.ok ()) => target == handle
  | .runOneshot target _ (.ok output) => output.statusCode == some 0 && target == handle
  | _ => false

/-- The processes spawned so far that no stop and no kill has ended since. -/
def liveProcesses : List SupervisorCall → List ProcessHandle
  | [] => []
  | call :: calls => (spawned call).toList ++ (liveProcesses calls).filter (!ends · call)

def isStopping : SupervisorCall → Bool
  | .isGranted _ | .runOneshot .. | .stop .. | .stopNativeTun .. => true
  | _ => false

def isLaunching : SupervisorCall → Bool
  | .isGranted _ | .createJob _ | .assign .. | .cleanupBeforeStart _ | .spawn .. => true
  | _ => false

/-- The calls made since, all of one kind. -/
def Adds (kind : SupervisorCall → Bool) (before after : List SupervisorCall) : Prop :=
  ∃ added, after = added ++ before ∧ ∀ call ∈ added, kind call = true

theorem Adds.refl (kind : SupervisorCall → Bool) (calls : List SupervisorCall) :
    Adds kind calls calls := ⟨[], rfl, by simp⟩

theorem Adds.trans {kind : SupervisorCall → Bool} {first middle last : List SupervisorCall}
    (a : Adds kind first middle) (b : Adds kind middle last) : Adds kind first last := by
  obtain ⟨added, rfl, hadded⟩ := a
  obtain ⟨later, rfl, hlater⟩ := b
  refine ⟨later ++ added, by rw [List.append_assoc], ?_⟩
  intro call hcall
  rcases List.mem_append.mp hcall with hcall | hcall
  · exact hlater call hcall
  · exact hadded call hcall

theorem Adds.one {kind : SupervisorCall → Bool} {call : SupervisorCall} (h : kind call = true)
    (calls : List SupervisorCall) : Adds kind calls (call :: calls) :=
  ⟨[call], rfl, by simpa using h⟩

theorem mem_live_cons (handle : ProcessHandle) (call : SupervisorCall)
    (calls : List SupervisorCall) :
    handle ∈ liveProcesses (call :: calls) ↔
      spawned call = some handle ∨ handle ∈ liveProcesses calls ∧ ends handle call = false := by
  simp [liveProcesses]

theorem live_append {handle : ProcessHandle} {added calls : List SupervisorCall}
    (h : handle ∈ liveProcesses (added ++ calls)) :
    (∃ call ∈ added, spawned call = some handle) ∨ handle ∈ liveProcesses calls := by
  induction added with
  | nil => exact .inr h
  | cons call added ih =>
    rw [List.cons_append, mem_live_cons] at h
    rcases h with h | ⟨h, -⟩
    · exact .inl ⟨call, List.mem_cons_self, h⟩
    · rcases ih h with ⟨other, hother, hspawned⟩ | h
      · exact .inl ⟨other, List.mem_cons_of_mem _ hother, hspawned⟩
      · exact .inr h

theorem spawned_of_isStopping {call : SupervisorCall} (h : isStopping call = true) :
    spawned call = none := by
  cases call <;> first | rfl | cases h

theorem Adds.live {before after : List SupervisorCall} (h : Adds isStopping before after)
    {handle : ProcessHandle} (hlive : handle ∈ liveProcesses after) :
    handle ∈ liveProcesses before := by
  obtain ⟨added, rfl, hadded⟩ := h
  rcases live_append hlive with ⟨call, hcall, hspawned⟩ | hlive
  · rw [spawned_of_isStopping (hadded call hcall)] at hspawned
    cases hspawned
  · exact hlive

section Stopping

variable (deps : SupervisorDeps)

theorem elevationLauncher_calls (coreType : CoreType) (calls : List SupervisorCall) :
    (elevationLauncher deps coreType calls).2 = .isGranted (deps.isGranted calls) :: calls := by
  unfold elevationLauncher
  cases deps.isGranted calls with
  | false => rfl
  | true => cases elevateLauncherPath deps.targetOs <;> rfl

theorem runSudoKill_calls (handle : ProcessHandle) (target : CoreProcessSpec) (launcher : String)
    (calls : List SupervisorCall) :
    Adds isStopping calls (runSudoKill deps handle target launcher calls).2 := by
  unfold runSudoKill
  split
  · exact Adds.refl _ calls
  · split
    · exact Adds.one rfl calls
    · exact Adds.one rfl calls

theorem runSudoKill_ends {handle : ProcessHandle} {target : CoreProcessSpec} {launcher : String}
    {calls : List SupervisorCall}
    (h : (runSudoKill deps handle target launcher calls).1 = .ok ()) :
    handle ∉ liveProcesses (runSudoKill deps handle target launcher calls).2 := by
  unfold runSudoKill at h ⊢
  split at h
  · cases h
  · split at h
    · cases h
    · rename_i output _
      have hstatus : output.statusCode = some 0 := by
        by_contra hstatus
        rw [ensureSudoKillSuccess, if_neg hstatus] at h
        cases h
      intro hlive
      rw [mem_live_cons] at hlive
      simp [spawned, ends, hstatus] at hlive

theorem sudoKill_calls (handle : ProcessHandle) (running : RunningCore)
    (calls : List SupervisorCall) :
    Adds isStopping calls (sudoKill deps handle running calls).2 := by
  unfold sudoKill
  split
  · exact Adds.refl _ calls
  · split
    · exact Adds.refl _ calls
    · rename_i target _
      have hlauncher := elevationLauncher_calls deps target.coreType calls
      have hgranted : Adds isStopping calls (elevationLauncher deps target.coreType calls).2 := by
        rw [hlauncher]
        exact Adds.one rfl calls
      split
      · rename_i heq
        rw [heq] at hgranted
        exact hgranted
      · rename_i heq
        rw [heq] at hgranted
        exact hgranted.trans (runSudoKill_calls deps handle target _ _)

theorem sudoKill_ends {handle : ProcessHandle} {running : RunningCore}
    {calls : List SupervisorCall} (hrequest : running.lastRequest.isSome = true)
    (h : (sudoKill deps handle running calls).1 = .ok ()) :
    handle ∉ liveProcesses (sudoKill deps handle running calls).2 := by
  have hsome : running.lastRequest.isNone = false := by
    cases hlast : running.lastRequest with
    | none => rw [hlast] at hrequest; cases hrequest
    | some _ => rfl
  unfold sudoKill at h ⊢
  rw [hsome] at h ⊢
  simp only [Bool.false_eq_true, if_false] at h ⊢
  split at h
  · cases h
  · split at h
    · cases h
    · exact runSudoKill_ends deps h

theorem sudoKillAll_calls (running : RunningCore) (handles : List ProcessHandle)
    (calls : List SupervisorCall) :
    Adds isStopping calls (sudoKillAll deps running handles calls).2 := by
  induction handles generalizing calls with
  | nil => exact Adds.refl _ calls
  | cons handle handles ih =>
    have hkill := sudoKill_calls deps handle running calls
    unfold sudoKillAll
    split
    · rename_i heq
      rw [heq] at hkill
      exact hkill
    · rename_i heq
      rw [heq] at hkill
      exact hkill.trans (ih _)

theorem sudoKillAll_ends {running : RunningCore} (hrequest : running.lastRequest.isSome = true)
    {handles : List ProcessHandle} {calls : List SupervisorCall}
    (h : (sudoKillAll deps running handles calls).1 = .ok ()) :
    ∀ handle ∈ handles, handle ∉ liveProcesses (sudoKillAll deps running handles calls).2 := by
  induction handles generalizing calls with
  | nil => intro handle hhandle; cases hhandle
  | cons handle handles ih =>
    intro other hother
    unfold sudoKillAll at h ⊢
    split at h
    · cases h
    · rename_i killed heq
      rcases List.mem_cons.mp hother with rfl | hother
      · -- the later kills bring no process back
        have hended : other ∉ liveProcesses killed := by
          have hends := @sudoKill_ends deps other running calls hrequest (by rw [heq])
          rwa [heq] at hends
        intro hlive
        exact hended ((sudoKillAll_calls deps running handles killed).live hlive)
      · exact ih h other hother

theorem stopNativeTun_calls (nativeTun : Option RunningNativeTun) (calls : List SupervisorCall) :
    Adds isStopping calls (stopNativeTun deps nativeTun calls).2 := by
  cases nativeTun with
  | none => exact Adds.refl _ calls
  | some nativeTun => exact Adds.one rfl calls

theorem stopHandle_calls (handle : Option ProcessHandle) (first : Option SupervisorError)
    (calls : List SupervisorCall) :
    Adds isStopping calls (stopHandle deps handle first calls).2 := by
  cases handle with
  | none => exact Adds.refl _ calls
  | some handle => exact Adds.one rfl calls

theorem firstError_eq_none {first : Option SupervisorError} {answer : Except SupervisorError Unit} :
    firstError first answer = none ↔ first = none ∧ answer = .ok () := by
  cases first <;> cases answer <;> simp [firstError]

theorem mapError_eq_ok {ε ε' α : Type} {f : ε → ε'} {answer : Except ε α} {a : α} :
    answer.mapError f = .ok a ↔ answer = .ok a := by
  cases answer <;> simp [Except.mapError]

theorem stopHandle_eq_none {handle : Option ProcessHandle} {first : Option SupervisorError}
    {calls : List SupervisorCall} :
    (stopHandle deps handle first calls).1 = none ↔
      first = none ∧ ∀ target, handle = some target → deps.stop calls target = .ok () := by
  cases handle with
  | none => simp [stopHandle]
  | some handle =>
    simp only [stopHandle, firstError_eq_none, mapError_eq_ok, Option.some.injEq, forall_eq']

theorem stopHandle_snd (handle : Option ProcessHandle) (first other : Option SupervisorError)
    (calls : List SupervisorCall) :
    (stopHandle deps handle first calls).2 = (stopHandle deps handle other calls).2 := by
  cases handle <;> rfl

theorem stopHandle_ends {handle : ProcessHandle} {first : Option SupervisorError}
    {calls : List SupervisorCall} (h : deps.stop calls handle = .ok ()) :
    handle ∉ liveProcesses (stopHandle deps (some handle) first calls).2 := by
  intro hlive
  rw [stopHandle, mem_live_cons, h] at hlive
  simp [spawned, ends] at hlive

theorem stopRunning_of_killed {running : RunningCore} {calls killed : List SupervisorCall}
    (h : sudoKillAll deps running running.elevated
      (stopNativeTun deps running.nativeTun calls).2 = (.ok (), killed)) :
    (stopRunning deps running calls).2 =
      (stopHandle deps running.pre none (stopHandle deps running.main none killed).2).2 := by
  simp only [stopRunning, h]
  split
  · rw [stopHandle_snd deps running.pre _ none, stopHandle_snd deps running.main _ none]
  · rw [stopHandle_snd deps running.pre _ none, stopHandle_snd deps running.main _ none]

theorem stopRunning_calls (running : RunningCore) (calls : List SupervisorCall) :
    Adds isStopping calls (stopRunning deps running calls).2 := by
  have hnative := stopNativeTun_calls deps running.nativeTun calls
  have hkilled := hnative.trans (sudoKillAll_calls deps running running.elevated _)
  cases hkill : sudoKillAll deps running running.elevated
      (stopNativeTun deps running.nativeTun calls).2 with
  | mk answer killed =>
    rw [hkill] at hkilled
    cases answer with
    | error error =>
      simp only [stopRunning, hkill]
      exact hkilled
    | ok _ =>
      rw [stopRunning_of_killed deps hkill]
      exact (hkilled.trans (stopHandle_calls deps running.main none killed)).trans
        (stopHandle_calls deps running.pre none _)

/-- Stopping a session succeeds when each of its calls does. -/
structure StopsCleanly (running : RunningCore) (calls : List SupervisorCall) : Prop where
  native : ∀ nativeTun, running.nativeTun = some nativeTun →
    deps.stopNativeTun calls nativeTun.backend = .ok ()
  stops : ∃ killed, sudoKillAll deps running running.elevated
      (stopNativeTun deps running.nativeTun calls).2 = (.ok (), killed) ∧
    (∀ main, running.main = some main → deps.stop killed main = .ok ()) ∧
    ∀ pre, running.pre = some pre →
      deps.stop (stopHandle deps running.main none killed).2 pre = .ok ()

theorem stopNativeTun_eq_none {nativeTun : Option RunningNativeTun}
    {calls : List SupervisorCall} :
    (stopNativeTun deps nativeTun calls).1 = none ↔
      ∀ target, nativeTun = some target → deps.stopNativeTun calls target.backend = .ok () := by
  cases nativeTun with
  | none => simp [stopNativeTun]
  | some nativeTun =>
    simp only [stopNativeTun, firstError_eq_none, mapError_eq_ok, Option.some.injEq, forall_eq',
      true_and]

theorem stopRunning_eq_ok {running : RunningCore} {calls : List SupervisorCall} :
    (stopRunning deps running calls).1 = .ok () ↔ StopsCleanly deps running calls := by
  cases hkill : sudoKillAll deps running running.elevated
      (stopNativeTun deps running.nativeTun calls).2 with
  | mk answer killed =>
    cases answer with
    | error error =>
      constructor
      · intro h
        simp only [stopRunning, hkill] at h
        cases h
      · rintro ⟨-, other, hother, -⟩
        rw [hkill] at hother
        cases hother
    | ok _ =>
      have hsplit : (stopRunning deps running calls).1 = .ok () ↔
          (stopHandle deps running.pre
            (stopHandle deps running.main (stopNativeTun deps running.nativeTun calls).1 killed).1
            (stopHandle deps running.main
              (stopNativeTun deps running.nativeTun calls).1 killed).2).1 = none := by
        simp only [stopRunning, hkill]
        split
        · rename_i heq
          rw [heq]
          simp
        · rename_i heq
          rw [heq]
          simp
      rw [hsplit, stopHandle_eq_none, stopHandle_eq_none, stopNativeTun_eq_none,
        stopHandle_snd deps running.main _ none]
      constructor
      · rintro ⟨⟨hnative, hmain⟩, hpre⟩
        exact ⟨hnative, killed, hkill, hmain, hpre⟩
      · rintro ⟨hnative, other, hother, hmain, hpre⟩
        rw [hkill] at hother
        cases hother
        exact ⟨⟨hnative, hmain⟩, hpre⟩

end Stopping

def processes (running : RunningCore) : List ProcessHandle :=
  running.main.toList ++ running.pre.toList

theorem stopRunning_ok_ends (deps : SupervisorDeps) {running : RunningCore}
    {calls : List SupervisorCall} (h : (stopRunning deps running calls).1 = .ok ()) :
    ∀ handle ∈ processes running, handle ∉ liveProcesses (stopRunning deps running calls).2 := by
  obtain ⟨-, killed, hkilled, hmain, hpre⟩ := (stopRunning_eq_ok deps).mp h
  intro handle hhandle
  rw [stopRunning_of_killed deps hkilled]
  rcases List.mem_append.mp hhandle with hhandle | hhandle
  · have hrunning : running.main = some handle := Option.mem_toList.mp hhandle
    intro hlive
    have hbefore := (stopHandle_calls deps running.pre none _).live hlive
    rw [hrunning] at hbefore
    exact stopHandle_ends deps (hmain handle hrunning) hbefore
  · have hrunning : running.pre = some handle := Option.mem_toList.mp hhandle
    have hstop := hpre handle hrunning
    rw [hrunning]
    exact stopHandle_ends deps hstop

theorem stop_eq (deps : SupervisorDeps) (actor : SupervisorActor) :
    (∃ calls, StopsCleanly deps actor.running actor.calls ∧
      stopRunning deps actor.running actor.calls = (.ok (), calls) ∧
      stop deps actor = (.ok .empty, { actor with running := {}, calls })) ∨
    ∃ error calls, ¬ StopsCleanly deps actor.running actor.calls ∧
      stopRunning deps actor.running actor.calls = (.error error, calls) ∧
      stop deps actor = (.error error, { actor with calls }) := by
  cases hstop : stopRunning deps actor.running actor.calls with
  | mk answer calls =>
    have hclean : answer = .ok () ↔ StopsCleanly deps actor.running actor.calls := by
      rw [← stopRunning_eq_ok, hstop]
    cases answer with
    | ok _ => exact .inl ⟨calls, hclean.mp rfl, rfl, by simp only [stop, hstop]⟩
    | error error =>
      refine .inr ⟨error, calls, ?_, rfl, by simp only [stop, hstop]⟩
      intro h
      cases hclean.mpr h

section Starting

variable (deps : SupervisorDeps)

/-- Calls of a start that spawn just these processes, the newest first. -/
def Launches (handles : List ProcessHandle) (before after : List SupervisorCall) : Prop :=
  ∃ added, after = added ++ before ∧ (∀ call ∈ added, isLaunching call = true) ∧
    added.filterMap spawned = handles

theorem Launches.refl (calls : List SupervisorCall) : Launches [] calls calls :=
  ⟨[], rfl, by simp, rfl⟩

theorem Launches.one {call : SupervisorCall} (h : isLaunching call = true)
    (calls : List SupervisorCall) : Launches (spawned call).toList calls (call :: calls) := by
  refine ⟨[call], rfl, by simpa using h, ?_⟩
  cases hspawned : spawned call <;> simp [hspawned]

theorem Launches.trans {handles later : List ProcessHandle}
    {first middle last : List SupervisorCall} (a : Launches handles first middle)
    (b : Launches later middle last) : Launches (later ++ handles) first last := by
  obtain ⟨added, rfl, hadded, rfl⟩ := a
  obtain ⟨others, rfl, hothers, rfl⟩ := b
  refine ⟨others ++ added, by rw [List.append_assoc], ?_, by rw [List.filterMap_append]⟩
  intro call hcall
  rcases List.mem_append.mp hcall with hcall | hcall
  · exact hothers call hcall
  · exact hadded call hcall

theorem Launches.live {handles : List ProcessHandle} {before after : List SupervisorCall}
    (h : Launches handles before after) {handle : ProcessHandle}
    (hlive : handle ∈ liveProcesses after) :
    handle ∈ handles ∨ handle ∈ liveProcesses before := by
  obtain ⟨added, rfl, -, rfl⟩ := h
  rcases live_append hlive with ⟨call, hcall, hspawned⟩ | hlive
  · exact .inl (List.mem_filterMap.mpr ⟨call, hcall, hspawned⟩)
  · exact .inr hlive

theorem elevationLauncher_launches (coreType : CoreType) (calls : List SupervisorCall) :
    Launches [] calls (elevationLauncher deps coreType calls).2 := by
  rw [elevationLauncher_calls]
  exact Launches.one rfl calls

theorem runnerSpawn_launches (request : ProcessSpawn) (calls : List SupervisorCall) :
    Launches (runnerSpawn deps request calls).1.toOption.toList calls
      (runnerSpawn deps request calls).2 := by
  have hone : Launches _ calls (runnerSpawn deps request calls).2 := Launches.one rfl calls
  have hspawned : spawned (.spawn request (deps.spawn calls request)) =
      (runnerSpawn deps request calls).1.toOption := by
    unfold runnerSpawn
    cases deps.spawn calls request <;> rfl
  rwa [hspawned] at hone

theorem spawnProcess_launches (role : ProcessRole) (spec : CoreProcessSpec)
    (request : SupervisorStartRequest) (calls : List SupervisorCall) :
    Launches (spawnProcess deps role spec request calls).1.toOption.toList calls
      (spawnProcess deps role spec request calls).2 := by
  unfold spawnProcess
  split
  · exact Launches.refl calls
  · rename_i spawn _
    split
    · have hlauncher := elevationLauncher_launches deps spec.coreType calls
      split
      · rename_i heq
        rw [heq] at hlauncher
        exact hlauncher
      · rename_i launcher _ heq
        rw [heq] at hlauncher
        have hspawn := hlauncher.trans (runnerSpawn_launches deps
          (wrapSpawnWithUnixSudoPasswordless spawn launcher) _)
        rwa [List.append_nil] at hspawn
    · exact runnerSpawn_launches deps spawn calls

theorem cleanTunBeforeStart_launches (tunEnabled : Bool) (calls : List SupervisorCall) :
    Launches [] calls (cleanTunBeforeStart deps tunEnabled calls).2 := by
  cases tunEnabled with
  | false => exact Launches.refl calls
  | true => exact Launches.one rfl calls

theorem prepareStart_launches (request : SupervisorStartRequest) (calls : List SupervisorCall) :
    Launches [] calls (prepareStart deps request calls).2 := by
  unfold prepareStart
  split
  · have hclean := cleanTunBeforeStart_launches deps request.tunEnabled calls
    split
    · rename_i heq
      rw [heq] at hclean
      exact hclean
    · rename_i heq
      rw [heq] at hclean
      exact hclean.trans (Launches.one rfl _)
  · exact Launches.refl calls

theorem assignJob_launches (job : Bool) (handle : ProcessHandle) (calls : List SupervisorCall) :
    Launches [] calls (assignJob deps job handle calls).2 := by
  unfold assignJob
  split
  · exact Launches.one rfl calls
  · exact Launches.refl calls

def Launch.session : Launch → Option RunningCore
  | .refused _ => none
  | .abandoned running _ => some running
  | .started running => some running

/-- A session made by a start: it records the request and the processes it was made of. -/
structure MadeFor (request : SupervisorStartRequest) (running : RunningCore) : Prop where
  lastRequest : running.lastRequest = some request
  activeProfileId : running.activeProfileId = request.activeProfileId
  nativeTun : running.nativeTun = none
  main : running.main.isSome = true
  elevated : ∀ handle ∈ running.elevated, handle ∈ processes running

theorem madeFor_withMain (request : SupervisorStartRequest) (job : Bool) (main : ProcessHandle) :
    MadeFor request (withMain deps request job main) := by
  refine ⟨rfl, rfl, rfl, rfl, ?_⟩
  intro handle hhandle
  simp only [withMain] at hhandle
  split at hhandle
  · exact List.mem_append_left _ hhandle
  · cases hhandle

theorem madeFor_withPre {request : SupervisorStartRequest} {running : RunningCore}
    (h : MadeFor request running) (hpre : running.pre = none) (preSpec : CoreProcessSpec)
    (pre : ProcessHandle) : MadeFor request (withPre deps request preSpec running pre) := by
  refine ⟨h.lastRequest, h.activeProfileId, h.nativeTun, h.main, ?_⟩
  have hkept : ∀ handle ∈ running.elevated, handle ∈ running.main.toList := by
    intro handle hhandle
    have hprocess := h.elevated handle hhandle
    simpa [processes, hpre] using hprocess
  intro handle hhandle
  simp only [withPre] at hhandle
  split at hhandle
  · rcases List.mem_append.mp hhandle with hhandle | hhandle
    · exact List.mem_append_left _ (hkept handle hhandle)
    · exact List.mem_append_right _ hhandle
  · exact List.mem_append_left _ (hkept handle hhandle)

/-- Everything a start can do once the session before it is gone: it spawns nothing and is
refused, or it has made a session of just the processes it has spawned. -/
def LaunchSpec (request : SupervisorStartRequest) (before : List SupervisorCall)
    (launch : Launch × List SupervisorCall) : Prop :=
  match Launch.session launch.1 with
  | none => Launches [] before launch.2
  | some running =>
    MadeFor request running ∧ Launches (processes running).reverse before launch.2

theorem launchPre_spec {request : SupervisorStartRequest} {running : RunningCore}
    {main : ProcessHandle} {before calls : List SupervisorCall} (hmade : MadeFor request running)
    (hmain : running.main = some main) (hpre : running.pre = none)
    (hcalls : Launches [main] before calls) (preSpec : CoreProcessSpec) :
    LaunchSpec request before (launchPre deps request preSpec running calls) := by
  have hspawn := spawnProcess_launches deps .pre preSpec request calls
  unfold launchPre
  split
  · rename_i heq
    rw [heq] at hspawn
    refine ⟨hmade, ?_⟩
    simp only [processes, hmain, hpre]
    exact hcalls.trans hspawn
  · rename_i pre spawnedCalls heq
    rw [heq] at hspawn
    have hmade' := madeFor_withPre deps hmade hpre preSpec pre
    have hassign := assignJob_launches deps (withPre deps request preSpec running pre).job pre
      spawnedCalls
    have hboth : Launches [pre, main] before spawnedCalls := hcalls.trans hspawn
    have hprocesses : (processes (withPre deps request preSpec running pre)).reverse =
        [pre, main] := by
      simp [processes, withPre, hmain]
    dsimp only
    split
    · rename_i heq
      rw [heq] at hassign
      refine ⟨hmade', ?_⟩
      rw [hprocesses]
      exact hboth.trans hassign
    · rename_i heq
      rw [heq] at hassign
      refine ⟨⟨hmade'.lastRequest, hmade'.activeProfileId, hmade'.nativeTun, hmade'.main,
        hmade'.elevated⟩, ?_⟩
      have hlaunched := hboth.trans hassign
      rw [List.nil_append, ← hprocesses] at hlaunched
      exact hlaunched

theorem launchSession_spec (request : SupervisorStartRequest) (calls : List SupervisorCall) :
    LaunchSpec request calls (launchSession deps request calls) := by
  have hprepare := prepareStart_launches deps request calls
  unfold launchSession
  split
  · rename_i heq
    rw [heq] at hprepare
    exact hprepare
  · rename_i job prepared heq
    rw [heq] at hprepare
    have hspawn := hprepare.trans (spawnProcess_launches deps .main request.main request prepared)
    rw [List.append_nil] at hspawn
    split
    · rename_i heq
      rw [heq] at hspawn
      exact hspawn
    · rename_i main spawnedCalls heq
      rw [heq] at hspawn
      have hassign := hspawn.trans (assignJob_launches deps job main spawnedCalls)
      have hmade := madeFor_withMain deps request job main
      dsimp only
      split
      · rename_i heq
        rw [heq] at hassign
        exact ⟨hmade, hassign⟩
      · rename_i heq
        rw [heq] at hassign
        split
        · exact ⟨hmade, hassign⟩
        · rename_i preSpec _
          exact launchPre_spec deps hmade rfl rfl hassign preSpec

/-- A session that runs for a request. -/
structure Serves (request : SupervisorStartRequest) (running : RunningCore) : Prop where
  lastRequest : running.lastRequest = some request
  activeProfileId : running.activeProfileId = request.activeProfileId
  connected : running.snapshot.state = .connected

theorem serves_of_madeFor {request : SupervisorStartRequest} {running : RunningCore}
    (h : MadeFor request running) : Serves request running := by
  refine ⟨h.lastRequest, h.activeProfileId, ?_⟩
  simp [RunningCore.snapshot, h.main]

/-- What becomes of a session: it stays, it is gone, or another one runs for the request. -/
def SessionAfter (request : SupervisorStartRequest)
    (result : Except SupervisorError SupervisorSnapshot × SupervisorActor) : Prop :=
  (∃ error, result.1 = .error error ∧ result.2.running = {}) ∨
    ∃ snapshot, result.1 = .ok snapshot ∧ Serves request result.2.running

theorem startProcesses_session (request : SupervisorStartRequest) {actor : SupervisorActor}
    (hempty : actor.running = {}) : SessionAfter request (startProcesses deps request actor) := by
  have hspec := launchSession_spec deps request actor.calls
  unfold startProcesses
  split
  · exact .inl ⟨_, rfl, hempty⟩
  · rename_i running error calls _
    have hfails : ∃ failure, (cleanupPartialStart deps running error calls).1 = .error failure := by
      unfold cleanupPartialStart
      split
      · exact ⟨_, rfl⟩
      · exact ⟨_, rfl⟩
    obtain ⟨failure, hfails⟩ := hfails
    exact .inl ⟨failure, hfails, hempty⟩
  · rename_i heq
    rw [heq] at hspec
    exact .inr ⟨_, rfl, serves_of_madeFor hspec.1⟩

theorem startNativeTun_session (request : SupervisorStartRequest) (backend : TunBackend)
    {actor : SupervisorActor} (hempty : actor.running = {}) :
    SessionAfter request (startNativeTun deps request backend actor) := by
  unfold startNativeTun
  split
  · exact .inl ⟨_, rfl, hempty⟩
  · dsimp only
    split
    · exact .inl ⟨_, rfl, hempty⟩
    · exact .inr ⟨_, rfl, ⟨rfl, rfl, rfl⟩⟩

/-- A start puts back a session it cannot stop; otherwise that session is gone. -/
theorem start_cases (request : SupervisorStartRequest) (actor : SupervisorActor) :
    (¬ StopsCleanly deps actor.running actor.calls ∧
      (∃ error, (start deps request actor).1 = .error error) ∧
        (start deps request actor).2.running = actor.running) ∨
      StopsCleanly deps actor.running actor.calls ∧
        SessionAfter request (start deps request actor) := by
  rcases stop_eq deps actor with ⟨calls, hclean, -, hstop⟩ | ⟨error, calls, hclean, -, hstop⟩
  · refine .inr ⟨hclean, ?_⟩
    simp only [start, hstop, startSession]
    split
    · exact startNativeTun_session deps request _ rfl
    · exact startProcesses_session deps request rfl
  · refine .inl ⟨hclean, ?_⟩
    simp only [start, hstop]
    exact ⟨⟨error, rfl⟩, trivial⟩

theorem stopsCleanly_empty (calls : List SupervisorCall) : StopsCleanly deps {} calls := by
  refine ⟨?_, calls, rfl, ?_, ?_⟩
  · intro nativeTun hnative
    cases hnative
  · intro main hmain
    cases hmain
  · intro pre hpre
    cases hpre

/-- A reported exit leaves the session, ends it, or starts another one for its request. -/
def ExitOutcome (before after : RunningCore) : Prop :=
  after = before ∨ after = {} ∨
    before ≠ {} ∧ ∃ request, before.lastRequest = some request ∧ Serves request after

theorem processExited_outcome (processId : UInt32) (actor : SupervisorActor) :
    ExitOutcome actor.running (processExited deps processId actor).2.running := by
  by_cases hcontains : actor.running.containsPid processId = true
  · have hrunning : actor.running ≠ {} := by
      intro hempty
      rw [hempty] at hcontains
      cases hcontains
    simp only [processExited, hcontains, Bool.not_true, Bool.false_eq_true, if_false]
    rcases stop_eq deps actor with ⟨calls, -, -, hstop⟩ | ⟨error, calls, -, -, hstop⟩
    · simp only [hstop]
      split
      · rename_i request hrequest
        have hlast := (Option.filter_eq_some_iff.mp hrequest).1
        rcases start_cases deps request { actor with running := {}, calls } with
          ⟨hnot, -, -⟩ | ⟨-, ⟨_, -, hempty⟩ | ⟨_, -, hserves⟩⟩
        · exact absurd (stopsCleanly_empty deps calls) hnot
        · exact .inr (.inl hempty)
        · exact .inr (.inr ⟨hrunning, request, hlast, hserves⟩)
      · exact .inr (.inl rfl)
    · simp only [hstop]
      exact .inl rfl
  · simp only [processExited, hcontains]
    exact .inl rfl

theorem nativeTunExited_outcome (generation : UInt64) (message : String)
    (actor : SupervisorActor) :
    ExitOutcome actor.running (nativeTunExited deps generation message actor).running := by
  unfold nativeTunExited
  split
  · exact .inl rfl
  · split
    · exact .inl rfl
    · exact .inr (.inl rfl)

end Starting

end SupervisorSteps
