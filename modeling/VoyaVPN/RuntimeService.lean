import VoyaVPN.Supervisor

/-! The runtime service over the supervisor: connect, restart and disconnect write, remove and
start in several operations, and the operations of calls in flight may come in any order. How a
context is built and generated from the stored settings is a parameter here. -/
namespace RuntimeService

open PlatformProcess Supervisor Entities RustText

structure AppPaths where
  binConfigDir : String
  tempDir : String

inductive ConfigFile where
  | main
  | pre
  deriving DecidableEq, Repr

/-- `MAIN_CONFIG_FILE_NAME` and `PRE_CONFIG_FILE_NAME`. -/
def ConfigFile.name : ConfigFile → String
  | .main => "config.json"
  | .pre => "configPre.json"

def sudoScriptDirName : String := "sudo"

def AppPaths.binConfigFile (paths : AppPaths) (file : ConfigFile) : String :=
  paths.binConfigDir ++ "/" ++ file.name

/-- The launch of sing-box, the one core: the config file is named relative to the directory
the core is run in. -/
def coreLaunchPlan (executable : String) (paths : AppPaths) (file : ConfigFile) : CoreLaunch :=
  { executable
    arguments := replace "run -c {0} --disable-color" "{0}" file.name
    workingDir := paths.binConfigDir
    environment := [] }

inductive RuntimeError where
  | missingActiveProfileId
  | activeProfileNotFound (id : String)
  | validation (errors warnings : List String)
  | writeConfig (path source : String)
  | removeConfig (path source : String)
  | singboxConfig (message : String)
  | coreInfo (message : String)
  | database (message : String)
  | path (message : String)
  | supervisor (error : SupervisorError)
  deriving DecidableEq, Repr

structure RuntimeDeps (Context : Type) where
  supervisor : SupervisorDeps
  paths : AppPaths
  generateSingboxConfigJson : Context → Except String String
  runCoreType : Context → CoreType
  displayLog : Context → Bool

/-- What a connect has read and built once its contexts are validated. -/
structure RuntimeContexts (Context : Type) where
  activeProfileId : String
  main : Context
  pre : Option Context
  tunEnabled : Bool

/-- The answers to the next operation of a call. A write that fails may leave anything. -/
structure IoAnswers where
  write : Except (String × Option String) Unit := .ok ()
  executable : Except String String := .ok "/bin/sing-box"
  remove : Except String Unit := .ok ()

structure ConfigFiles where
  main : Option String := none
  pre : Option String := none
  deriving DecidableEq, Repr

def ConfigFiles.set (files : ConfigFiles) (file : ConfigFile) (contents : Option String) :
    ConfigFiles :=
  match file with
  | .main => { files with main := contents }
  | .pre => { files with pre := contents }

section Calls

variable {Context : Type} (deps : RuntimeDeps Context)

def writeRuntimeConfig (file : ConfigFile) (context : Context) (answers : IoAnswers)
    (files : ConfigFiles) : Except RuntimeError Unit × ConfigFiles :=
  match deps.generateSingboxConfigJson context with
  | .error message => (.error (.singboxConfig message), files)
  | .ok json =>
    match answers.write with
    | .ok () => (.ok (), files.set file (some json))
    | .error (source, left) =>
      (.error (.writeConfig (deps.paths.binConfigFile file) source), files.set file left)

def cleanupConfigFile (file : ConfigFile) (answers : IoAnswers) (files : ConfigFiles) :
    Except RuntimeError Unit × ConfigFiles :=
  match answers.remove with
  | .ok () => (.ok (), files.set file none)
  | .error source => (.error (.removeConfig (deps.paths.binConfigFile file) source), files)

def processSpec (context : Context) (file : ConfigFile) (answers : IoAnswers) :
    Except RuntimeError CoreProcessSpec :=
  match answers.executable with
  | .error message => .error (.coreInfo message)
  | .ok executable =>
    .ok { coreType := deps.runCoreType context
          launch := coreLaunchPlan executable deps.paths file
          configPath := some (deps.paths.binConfigFile file)
          displayLog := deps.displayLog context
          mayNeedSudo := true }

def startRequest (contexts : RuntimeContexts Context) (main : CoreProcessSpec)
    (pre : Option CoreProcessSpec) : SupervisorStartRequest :=
  { activeProfileId := some contexts.activeProfileId
    main
    pre
    tunEnabled := contexts.tunEnabled
    sudoScriptDir := deps.paths.tempDir ++ "/" ++ sudoScriptDirName
    restartOnCrash := true }

/-- A call in flight, by its next operation: a connect up to `removePreAfter`, then a
disconnect. -/
inductive RuntimeCall (Context : Type) where
  | writeMain (contexts : RuntimeContexts Context)
  | specMain (contexts : RuntimeContexts Context)
  | writePre (contexts : RuntimeContexts Context) (main : CoreProcessSpec)
  | specPre (contexts : RuntimeContexts Context) (pre : Context) (main : CoreProcessSpec)
  | startCore (contexts : RuntimeContexts Context) (request : SupervisorStartRequest)
  | removeMainAfter (error : SupervisorError)
  | removePreAfter (error : SupervisorError)
  | stopCore
  | removeMain (snapshot : SupervisorSnapshot)
  | removePre (snapshot : SupervisorSnapshot)

inductive CallProgress (Context : Type) where
  | next (call : RuntimeCall Context)
  | done (reply : Except RuntimeError SupervisorSnapshot)

/-- The next operation if this one succeeded, the failed call if not. -/
def CallProgress.proceed {α : Type} (answer : Except RuntimeError α)
    (next : α → RuntimeCall Context) : CallProgress Context :=
  match answer with
  | .ok a => .next (next a)
  | .error error => .done (.error error)

/-- One operation of a call, on the supervisor or on the files. -/
def advance (answers : IoAnswers) (supervisor : SupervisorActor) (files : ConfigFiles) :
    RuntimeCall Context → SupervisorActor × ConfigFiles × CallProgress Context
  | .writeMain contexts =>
    let written := writeRuntimeConfig deps .main contexts.main answers files
    (supervisor, written.2, .proceed written.1 fun _ => .specMain contexts)
  | .specMain contexts =>
    (supervisor, files, .proceed (processSpec deps contexts.main .main answers)
      (.writePre contexts))
  | .writePre contexts main =>
    match contexts.pre with
    | some pre =>
      let written := writeRuntimeConfig deps .pre pre answers files
      (supervisor, written.2, .proceed written.1 fun _ => .specPre contexts pre main)
    | none =>
      let removed := cleanupConfigFile deps .pre answers files
      (supervisor, removed.2,
        .proceed removed.1 fun _ => .startCore contexts (startRequest deps contexts main none))
  | .specPre contexts pre main =>
    (supervisor, files, .proceed (processSpec deps pre .pre answers) fun preSpec =>
      .startCore contexts (startRequest deps contexts main (some preSpec)))
  | .startCore _ request =>
    let started := start deps.supervisor request supervisor
    (started.2, files, match started.1 with
      | .ok snapshot => .done (.ok snapshot)
      | .error error => .next (.removeMainAfter error))
  | .removeMainAfter error =>
    (supervisor, (cleanupConfigFile deps .main answers files).2, .next (.removePreAfter error))
  | .removePreAfter error =>
    (supervisor, (cleanupConfigFile deps .pre answers files).2, .done (.error (.supervisor error)))
  | .stopCore =>
    let stopped := stop deps.supervisor supervisor
    (stopped.2, files, match stopped.1 with
      | .ok snapshot => .next (.removeMain snapshot)
      | .error error => .done (.error (.supervisor error)))
  | .removeMain snapshot =>
    let removed := cleanupConfigFile deps .main answers files
    (supervisor, removed.2, .proceed removed.1 fun _ => .removePre snapshot)
  | .removePre snapshot =>
    let removed := cleanupConfigFile deps .pre answers files
    (supervisor, removed.2, .done (removed.1.map fun _ => snapshot))

end Calls

structure SessionConfig where
  profileId : String
  main : String
  pre : Option String
  deriving DecidableEq, Repr

/-- The shared state and the calls in flight. `session` is what was generated for the session
the supervisor has; no part of the program keeps it. -/
structure RuntimeSystem (Context : Type) where
  supervisor : SupervisorActor := {}
  files : ConfigFiles := {}
  calls : List (RuntimeCall Context) := []
  session : Option SessionConfig := none

/-- `connect` is a connect or a restart call, with what reading and validating gave;
`advance` lets one call in flight go on. -/
inductive RuntimeInput (Context : Type) where
  | connect (contexts : Except RuntimeError (RuntimeContexts Context))
  | disconnect
  | advance (index : Nat) (answers : IoAnswers)
  | processExited (processId : UInt32) (exitCode : Option Int)
  | nativeTunExited (generation : UInt64) (message : String)

section Systems

variable {Context : Type} (deps : RuntimeDeps Context)

def sessionConfig (contexts : RuntimeContexts Context) : Option SessionConfig :=
  match deps.generateSingboxConfigJson contexts.main with
  | .error _ => none
  | .ok main =>
    match contexts.pre with
    | none => some { profileId := contexts.activeProfileId, main, pre := none }
    | some pre =>
      match deps.generateSingboxConfigJson pre with
      | .error _ => none
      | .ok text => some { profileId := contexts.activeProfileId, main, pre := some text }

def nextSession (call : RuntimeCall Context) (progress : CallProgress Context)
    (session : Option SessionConfig) : Option SessionConfig :=
  match call, progress with
  | .startCore contexts _, .done (.ok _) => sessionConfig deps contexts
  | _, _ => session

def step (system : RuntimeSystem Context) : RuntimeInput Context → RuntimeSystem Context
  | .connect (.ok contexts) => { system with calls := system.calls ++ [.writeMain contexts] }
  | .connect (.error _) => system
  | .disconnect => { system with calls := system.calls ++ [.stopCore] }
  | .advance index answers =>
    match system.calls[index]? with
    | none => system
    | some call =>
      let after := advance deps answers system.supervisor system.files call
      { supervisor := after.1
        files := after.2.1
        calls := match after.2.2 with
          | .next call => system.calls.set index call
          | .done _ => system.calls.eraseIdx index
        session := nextSession deps call after.2.2 system.session }
  | .processExited processId exitCode =>
    { system with
      supervisor := handle deps.supervisor system.supervisor (.processExited processId exitCode) }
  | .nativeTunExited generation message =>
    { system with
      supervisor := handle deps.supervisor system.supervisor (.nativeTunExited generation message) }

end Systems

end RuntimeService
