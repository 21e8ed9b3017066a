import VoyaVPN.PlatformProcess

/-! The core supervisor: an actor that takes one command after the other. Everything outside
it (the process runner, the native tunnel controller, the elevation flag) answers a call
according to the calls made before it, so any pattern of answers is possible; the actor keeps
the calls it has made, newest first. -/
namespace Supervisor

open PlatformProcess RustText Entities

inductive TunBackend where
  | process
  | macosPacketTunnel
  | windowsService
  | unsupported
  deriving DecidableEq, Repr

def TunBackend.isNative : TunBackend → Bool
  | .macosPacketTunnel | .windowsService => true
  | .process | .unsupported => false

def tunBackend : TargetOs → TunBackend
  | .windows => .windowsService
  | .linux => .process
  | .macos => .macosPacketTunnel
  | .other => .unsupported

structure NativeTunStartRequest where
  backend : TunBackend
  activeProfileId : Option String
  mainLaunch : CoreLaunch
  preLaunch : Option CoreLaunch
  mainConfigPath : String
  preConfigPath : Option String
  deriving DecidableEq, Repr

structure CoreProcessSpec where
  coreType : CoreType
  launch : CoreLaunch
  configPath : Option String := none
  displayLog : Bool := true
  mayNeedSudo : Bool := true
  deriving DecidableEq, Repr

structure SupervisorStartRequest where
  activeProfileId : Option String
  main : CoreProcessSpec
  pre : Option CoreProcessSpec
  tunEnabled : Bool
  sudoScriptDir : String
  restartOnCrash : Bool
  deriving DecidableEq, Repr

inductive SupervisorConnectionState where
  | disconnected
  | connected
  deriving DecidableEq, Repr

structure SupervisorSnapshot where
  state : SupervisorConnectionState
  activeProfileId : Option String
  mainPid : Option UInt32
  prePid : Option UInt32
  runningCoreType : Option CoreType
  deriving DecidableEq, Repr

def SupervisorSnapshot.empty : SupervisorSnapshot :=
  { state := .disconnected
    activeProfileId := none
    mainPid := none
    prePid := none
    runningCoreType := none }

structure NativeTunExitEvent where
  activeProfileId : Option String
  backend : TunBackend
  message : String
  deriving DecidableEq, Repr

/-- The errors of the tunnel cleaner and of the native controller are kept as their texts. -/
inductive SupervisorError where
  | elevationNotGranted (coreType : CoreType)
  | process (error : ProcessError)
  | tunCleanup (message : String)
  | nativeTun (message : String)
  | elevation (error : ElevationError)
  | unknownSudoKillTarget (pid : UInt32)
  | missingNativeTunConfigPath (role : ProcessRole)
  | sudoKillFailed (pid : UInt32) (statusCode : Option Int) (stderr : String)
  deriving DecidableEq, Repr

/-- A call the actor makes, with the answer it gets; `sessionBegun` is no call but marks where
a start has done away with the session before it. -/
inductive SupervisorCall where
  | isGranted (answer : Bool)
  | createJob (answer : Except ProcessError Bool)
  | assign (handle : ProcessHandle) (answer : Except ProcessError Unit)
  | cleanupBeforeStart (answer : Except String Unit)
  | spawn (request : ProcessSpawn) (answer : Except ProcessError ProcessHandle)
  | runOneshot (target : ProcessHandle) (request : ProcessSpawn)
      (answer : Except ProcessError ProcessOutput)
  | stop (handle : ProcessHandle) (answer : Except ProcessError Unit)
  | startNativeTun (request : NativeTunStartRequest) (answer : Except String Unit)
  | stopNativeTun (backend : TunBackend) (answer : Except String Unit)
  | nativeTunExited (event : NativeTunExitEvent)
  | sessionBegun
  deriving DecidableEq

/-- What the actor talks to. `createJob` answers whether there is a job. -/
structure SupervisorDeps where
  targetOs : TargetOs
  isGranted : List SupervisorCall → Bool
  createJob : List SupervisorCall → Except ProcessError Bool
  assign : List SupervisorCall → ProcessHandle → Except ProcessError Unit
  cleanupBeforeStart : List SupervisorCall → Except String Unit
  spawn : List SupervisorCall → ProcessSpawn → Except ProcessError ProcessHandle
  runOneshot : List SupervisorCall → ProcessSpawn → Except ProcessError ProcessOutput
  stop : List SupervisorCall → ProcessHandle → Except ProcessError Unit
  startNativeTun : List SupervisorCall → NativeTunStartRequest → Except String Unit
  stopNativeTun : List SupervisorCall → TunBackend → Except String Unit

structure RunningNativeTun where
  backend : TunBackend
  generation : UInt64
  deriving DecidableEq, Repr

structure RunningCore where
  activeProfileId : Option String := none
  main : Option ProcessHandle := none
  pre : Option ProcessHandle := none
  nativeTun : Option RunningNativeTun := none
  elevated : List ProcessHandle := []
  job : Bool := false
  lastRequest : Option SupervisorStartRequest := none
  runningCoreType : Option CoreType := none
  deriving DecidableEq, Repr

structure SupervisorActor where
  running : RunningCore := {}
  nativeTunGeneration : UInt64 := 0
  calls : List SupervisorCall := []
  deriving DecidableEq

/-- The result of a call sequence and the calls after it. -/
abbrev Outcome (α : Type) := Except SupervisorError α × List SupervisorCall

namespace RunningCore

def containsPid (running : RunningCore) (processId : UInt32) : Bool :=
  running.main.any (·.id == processId) || running.pre.any (·.id == processId)

def sudoKillTarget (running : RunningCore) (handle : ProcessHandle) : Option CoreProcessSpec :=
  running.lastRequest.bind fun request =>
    if running.main.any (·.id == handle.id) then some request.main
    else if running.pre.any (·.id == handle.id) then request.pre
    else none

def snapshot (running : RunningCore) : SupervisorSnapshot :=
  let connected := running.main.isSome || running.nativeTun.isSome
  { state := if connected then .connected else .disconnected
    activeProfileId := running.activeProfileId
    mainPid := running.main.map (·.id)
    prePid := running.pre.map (·.id)
    runningCoreType := running.runningCoreType }

end RunningCore

def supervisorTunBackend (targetOs : TargetOs) (tunEnabled : Bool) : TunBackend :=
  if tunEnabled then tunBackend targetOs else .process

def processUsesUnixSudo (deps : SupervisorDeps) (spec : CoreProcessSpec) (tunEnabled : Bool) :
    Bool :=
  supervisorTunBackend deps.targetOs tunEnabled == .process &&
    shouldUseUnixSudo deps.targetOs tunEnabled spec.mayNeedSudo

def nativeConfigPath (role : ProcessRole) (spec : CoreProcessSpec) :
    Except SupervisorError String :=
  match spec.configPath with
  | some path => .ok path
  | none => .error (.missingNativeTunConfigPath role)

def preNativeConfigPath (pre : Option CoreProcessSpec) :
    Except SupervisorError (Option String) :=
  match pre with
  | none => .ok none
  | some pre => (nativeConfigPath .pre pre).map some

def nativeTunStartRequest (request : SupervisorStartRequest) (backend : TunBackend) :
    Except SupervisorError NativeTunStartRequest :=
  match nativeConfigPath .main request.main with
  | .error error => .error error
  | .ok mainConfigPath =>
    (preNativeConfigPath request.pre).map fun preConfigPath =>
      { backend
        activeProfileId := request.activeProfileId
        mainLaunch := request.main.launch
        preLaunch := request.pre.map (·.launch)
        mainConfigPath
        preConfigPath }

def sudoKillErrorMessage (output : ProcessOutput) : String :=
  if !isEmpty (trim output.stderr) then trim output.stderr
  else if !isEmpty (trim output.stdout) then trim output.stdout
  else "sudo kill command failed"

def ensureSudoKillSuccess (pid : UInt32) (output : ProcessOutput) : Except SupervisorError Unit :=
  if output.statusCode = some 0 then .ok ()
  else .error (.sudoKillFailed pid output.statusCode (sudoKillErrorMessage output))

section Stopping

variable (deps : SupervisorDeps)

/-- The root-owned launcher, which needs an active grant. -/
def elevationLauncher (coreType : CoreType) (calls : List SupervisorCall) : Outcome String :=
  let granted := deps.isGranted calls
  let calls := .isGranted granted :: calls
  if granted then
    match elevateLauncherPath deps.targetOs with
    | some launcher => (.ok launcher, calls)
    | none => (.error (.elevationNotGranted coreType), calls)
  else (.error (.elevationNotGranted coreType), calls)

/-- The launcher's kill verb run on one process, and the check of its exit status. -/
def runSudoKill (handle : ProcessHandle) (target : CoreProcessSpec) (launcher : String)
    (calls : List SupervisorCall) : Outcome Unit :=
  match unixSudoKillSpawnPasswordless deps.targetOs launcher handle.id target.launch.executable
      target.launch.workingDir with
  | .error error => (.error (.elevation error), calls)
  | .ok spawn =>
    match deps.runOneshot calls spawn with
    | .error error => (.error (.process error), .runOneshot handle spawn (.error error) :: calls)
    | .ok output =>
      (ensureSudoKillSuccess handle.id output, .runOneshot handle spawn (.ok output) :: calls)

def sudoKill (handle : ProcessHandle) (running : RunningCore) (calls : List SupervisorCall) :
    Outcome Unit :=
  if running.lastRequest.isNone then (.ok (), calls)
  else match running.sudoKillTarget handle with
    | none => (.error (.unknownSudoKillTarget handle.id), calls)
    | some target =>
      match elevationLauncher deps target.coreType calls with
      | (.error error, calls) => (.error error, calls)
      | (.ok launcher, calls) => runSudoKill deps handle target launcher calls

def sudoKillAll (running : RunningCore) :
    List ProcessHandle → List SupervisorCall → Outcome Unit
  | [], calls => (.ok (), calls)
  | handle :: handles, calls =>
    match sudoKill deps handle running calls with
    | (.error error, calls) => (.error error, calls)
    | (.ok (), calls) => sudoKillAll running handles calls

/-- `first_error.get_or_insert`. -/
def firstError (first : Option SupervisorError) (answer : Except SupervisorError Unit) :
    Option SupervisorError :=
  match first, answer with
  | some first, _ => some first
  | none, .error error => some error
  | none, .ok () => none

def stopNativeTun (nativeTun : Option RunningNativeTun) (calls : List SupervisorCall) :
    Option SupervisorError × List SupervisorCall :=
  match nativeTun with
  | none => (none, calls)
  | some nativeTun =>
    let answer := deps.stopNativeTun calls nativeTun.backend
    (firstError none (answer.mapError .nativeTun), .stopNativeTun nativeTun.backend answer :: calls)

def stopHandle (handle : Option ProcessHandle) (first : Option SupervisorError)
    (calls : List SupervisorCall) : Option SupervisorError × List SupervisorCall :=
  match handle with
  | none => (first, calls)
  | some handle =>
    let answer := deps.stop calls handle
    (firstError first (answer.mapError .process), .stop handle answer :: calls)

/-- A failing elevated kill returns at once; the other errors wait for the last stop. -/
def stopRunning (running : RunningCore) (calls : List SupervisorCall) : Outcome Unit :=
  let native := stopNativeTun deps running.nativeTun calls
  match sudoKillAll deps running running.elevated native.2 with
  | (.error error, calls) => (.error error, calls)
  | (.ok (), calls) =>
    let main := stopHandle deps running.main native.1 calls
    let pre := stopHandle deps running.pre main.1 main.2
    match pre.1 with
    | some error => (.error error, pre.2)
    | none => (.ok (), pre.2)

def stop (actor : SupervisorActor) : Except SupervisorError SupervisorSnapshot × SupervisorActor :=
  match stopRunning deps actor.running actor.calls with
  | (.ok (), calls) => (.ok .empty, { actor with running := {}, calls })
  | (.error error, calls) => (.error error, { actor with calls })

def cleanupPartialStart (running : RunningCore) (startError : SupervisorError)
    (calls : List SupervisorCall) : Outcome SupervisorSnapshot :=
  match stopRunning deps running calls with
  | (.ok (), calls) => (.error startError, calls)
  | (.error cleanupError, calls) => (.error cleanupError, calls)

end Stopping

section Starting

variable (deps : SupervisorDeps)

def runnerSpawn (request : ProcessSpawn) (calls : List SupervisorCall) : Outcome ProcessHandle :=
  let answer := deps.spawn calls request
  (answer.mapError .process, .spawn request answer :: calls)

def spawnProcess (role : ProcessRole) (spec : CoreProcessSpec) (request : SupervisorStartRequest)
    (calls : List SupervisorCall) : Outcome ProcessHandle :=
  match ProcessSpawn.fromCoreLaunch role spec.launch spec.displayLog with
  | .error error => (.error (.process error), calls)
  | .ok spawn =>
    if processUsesUnixSudo deps spec request.tunEnabled then
      match elevationLauncher deps spec.coreType calls with
      | (.error error, calls) => (.error error, calls)
      | (.ok launcher, calls) =>
        runnerSpawn deps (wrapSpawnWithUnixSudoPasswordless spawn launcher) calls
    else runnerSpawn deps spawn calls

def cleanTunBeforeStart (tunEnabled : Bool) (calls : List SupervisorCall) : Outcome Unit :=
  if tunEnabled then
    let answer := deps.cleanupBeforeStart calls
    (answer.mapError .tunCleanup, .cleanupBeforeStart answer :: calls)
  else (.ok (), calls)

/-- The tunnel cleaner and the process job, both of Windows only. -/
def prepareStart (request : SupervisorStartRequest) (calls : List SupervisorCall) :
    Outcome Bool :=
  if deps.targetOs = .windows then
    match cleanTunBeforeStart deps request.tunEnabled calls with
    | (.error error, calls) => (.error error, calls)
    | (.ok (), calls) =>
      let answer := deps.createJob calls
      (answer.mapError .process, .createJob answer :: calls)
  else (.ok false, calls)

def assignJob (job : Bool) (handle : ProcessHandle) (calls : List SupervisorCall) :
    Outcome Unit :=
  if job then
    let answer := deps.assign calls handle
    (answer.mapError .process, .assign handle answer :: calls)
  else (.ok (), calls)

/-- How far a start gets: nothing spawned, a session to clean up again, or all of it. -/
inductive Launch where
  | refused (error : SupervisorError)
  | abandoned (running : RunningCore) (error : SupervisorError)
  | started (running : RunningCore)

def withMain (request : SupervisorStartRequest) (job : Bool) (main : ProcessHandle) :
    RunningCore :=
  { activeProfileId := request.activeProfileId
    main := some main
    pre := none
    nativeTun := none
    elevated := if processUsesUnixSudo deps request.main request.tunEnabled then [main] else []
    job
    lastRequest := some request
    runningCoreType := some request.main.coreType }

def withPre (request : SupervisorStartRequest) (preSpec : CoreProcessSpec) (running : RunningCore)
    (pre : ProcessHandle) : RunningCore :=
  { running with
    pre := some pre
    elevated := if processUsesUnixSudo deps preSpec request.tunEnabled then
        running.elevated ++ [pre]
      else running.elevated }

def launchPre (request : SupervisorStartRequest) (preSpec : CoreProcessSpec)
    (running : RunningCore) (calls : List SupervisorCall) : Launch × List SupervisorCall :=
  match spawnProcess deps .pre preSpec request calls with
  | (.error error, calls) => (.abandoned running error, calls)
  | (.ok pre, calls) =>
    let running := withPre deps request preSpec running pre
    match assignJob deps running.job pre calls with
    | (.error error, calls) => (.abandoned running error, calls)
    | (.ok (), calls) => (.started { running with runningCoreType := some preSpec.coreType }, calls)

def launchSession (request : SupervisorStartRequest) (calls : List SupervisorCall) :
    Launch × List SupervisorCall :=
  match prepareStart deps request calls with
  | (.error error, calls) => (.refused error, calls)
  | (.ok job, calls) =>
    match spawnProcess deps .main request.main request calls with
    | (.error error, calls) => (.refused error, calls)
    | (.ok main, calls) =>
      let running := withMain deps request job main
      match assignJob deps job main calls with
      | (.error error, calls) => (.abandoned running error, calls)
      | (.ok (), calls) =>
        match request.pre with
        | none => (.started running, calls)
        | some preSpec => launchPre deps request preSpec running calls

def startProcesses (request : SupervisorStartRequest) (actor : SupervisorActor) :
    Except SupervisorError SupervisorSnapshot × SupervisorActor :=
  match launchSession deps request actor.calls with
  | (.refused error, calls) => (.error error, { actor with calls })
  | (.abandoned running error, calls) =>
    let cleanup := cleanupPartialStart deps running error calls
    (cleanup.1, { actor with calls := cleanup.2 })
  | (.started running, calls) => (.ok running.snapshot, { actor with running, calls })

def startNativeTun (request : SupervisorStartRequest) (backend : TunBackend)
    (actor : SupervisorActor) : Except SupervisorError SupervisorSnapshot × SupervisorActor :=
  match nativeTunStartRequest request backend with
  | .error error => (.error error, actor)
  | .ok nativeRequest =>
    let answer := deps.startNativeTun actor.calls nativeRequest
    let calls := .startNativeTun nativeRequest answer :: actor.calls
    match answer with
    | .error message => (.error (.nativeTun message), { actor with calls })
    | .ok () =>
      let generation := actor.nativeTunGeneration + 1
      let running : RunningCore :=
        { activeProfileId := request.activeProfileId
          nativeTun := some { backend, generation }
          lastRequest := some request
          runningCoreType := some (request.pre.elim request.main.coreType (·.coreType)) }
      (.ok running.snapshot, { running, nativeTunGeneration := generation, calls })

def startSession (request : SupervisorStartRequest) (actor : SupervisorActor) :
    Except SupervisorError SupervisorSnapshot × SupervisorActor :=
  let backend := supervisorTunBackend deps.targetOs request.tunEnabled
  if backend.isNative then startNativeTun deps request backend actor
  else startProcesses deps request actor

def start (request : SupervisorStartRequest) (actor : SupervisorActor) :
    Except SupervisorError SupervisorSnapshot × SupervisorActor :=
  match stop deps actor with
  | (.error error, actor) => (.error error, actor)
  | (.ok _, actor) =>
    startSession deps request { actor with calls := .sessionBegun :: actor.calls }

end Starting

section Commands

variable (deps : SupervisorDeps)

def restart (request : SupervisorStartRequest) (actor : SupervisorActor) :
    Except SupervisorError SupervisorSnapshot × SupervisorActor :=
  match stop deps actor with
  | (.error error, actor) => (.error error, actor)
  | (.ok _, actor) => start deps request actor

def processExited (processId : UInt32) (actor : SupervisorActor) :
    Except SupervisorError SupervisorSnapshot × SupervisorActor :=
  if !actor.running.containsPid processId then (.ok actor.running.snapshot, actor)
  else
    let request := actor.running.lastRequest.filter (·.restartOnCrash)
    match stop deps actor with
    | (.error error, actor) => (.error error, actor)
    | (.ok snapshot, actor) =>
      match request with
      | some request => start deps request actor
      | none => (.ok snapshot, actor)

def nativeTunExited (generation : UInt64) (message : String) (actor : SupervisorActor) :
    SupervisorActor :=
  match actor.running.nativeTun with
  | none => actor
  | some nativeTun =>
    if nativeTun.generation ≠ generation then actor
    else
      let calls := (stopRunning deps actor.running actor.calls).2
      let event : NativeTunExitEvent :=
        { activeProfileId := actor.running.activeProfileId, backend := nativeTun.backend, message }
      { actor with running := {}, calls := .nativeTunExited event :: calls }

inductive SupervisorCommand where
  | start (request : SupervisorStartRequest)
  | stop
  | restart (request : SupervisorStartRequest)
  | status
  | processExited (processId : UInt32) (exitCode : Option Int)
  | nativeTunExited (generation : UInt64) (message : String)
  deriving DecidableEq, Repr

/-- The actor after a command; the reply of a command with one is the first component of the
function it runs. -/
def handle (actor : SupervisorActor) : SupervisorCommand → SupervisorActor
  | .start request => (start deps request actor).2
  | .stop => (stop deps actor).2
  | .restart request => (restart deps request actor).2
  | .status => actor
  | .processExited processId _ => (processExited deps processId actor).2
  | .nativeTunExited generation message => nativeTunExited deps generation message actor

/-- `Drop`: the session is stopped as far as it can be and forgotten. -/
def shutdown (actor : SupervisorActor) : SupervisorActor :=
  { actor with running := {}, calls := (stopRunning deps actor.running actor.calls).2 }

def runCommands (commands : List SupervisorCommand) : SupervisorActor :=
  commands.foldl (handle deps) {}

end Commands

end Supervisor
