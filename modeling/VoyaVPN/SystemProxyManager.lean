import VoyaVPN.ActionRules
import VoyaVPN.ProxySettings

/-! The system proxy manager: the marker file that says the proxy may be set, written before the
settings of the operating system are changed and removed after they are cleared. Every file
operation, process and PAC server may fail half way, and the application may crash there. -/
namespace SystemProxyManager

open RustText Entities AppConfig PlatformProcess SystemProxy ProxySettings Switchboard ActionRules

/-- What goes wrong with one operation, and the part of its effect that it has before that. A fault
that does not fit the operation does nothing. -/
inductive Fault where
  | process (answer : Except ProcessError ProcessOutput) (part : List Bool)
  | file (source : String) (part : Bool)
  | pac (error : SystemProxyError)
  | crash (part : List Bool)

/-- `faults` are those of the operations to come, `issued` the commands run so far, and `pac` the
ports of the PAC server of the running application. -/
structure World where
  settings : Settings
  marker : Bool
  pac : Option (Int × Int) := none
  issued : List ProxySpawn := []
  faults : List (Option Fault) := []

/-- How a call ends early: with an error, or with the application. -/
inductive Halt (ε : Type) where
  | failed (error : ε)
  | crashed
  deriving DecidableEq

def Halt.map {ε ε' : Type} (wrap : ε → ε') : Halt ε → Halt ε'
  | .failed error => .failed (wrap error)
  | .crashed => .crashed

abbrev Call (ε α : Type) := Action World (Halt ε) α

def nextFault {ε : Type} : Call ε (Option Fault) := do
  let world ← get
  set { world with faults := world.faults.tail }
  pure (world.faults.head?.getD none)

section Service

/-- The machine the application runs on: its platform, what its desktop has, and what the scripts
of the user write. -/
structure Machine where
  os : TargetOs
  desktop : Desktop
  custom : String → List String → List SettingWrite

variable (machine : Machine)

def World.wrote (world : World) (steps : List SettingWrite) : World :=
  { world with settings := world.settings.writeAll steps }

def succeeded (answer : Except ProcessError ProcessOutput) : Bool :=
  match answer with
  | .ok output => output.statusCode == some 0
  | .error _ => false

/-- A process that ends with status zero has its whole effect, and so has one that meets no fault,
whatever status it ends with. -/
def runOneshot (spawn : ProxySpawn) : Call SystemProxyError ProcessOutput := do
  modify fun world => { world with issued := world.issued ++ [spawn] }
  let writes := effect machine.desktop machine.custom machine.os spawn
  match ← nextFault with
  | some (.process answer part) =>
    modify (·.wrote (if succeeded answer then writes else chosen part writes))
    match answer with
    | .ok output => pure output
    | .error error => throw (.failed (.process error))
  | some (.crash part) =>
    modify (·.wrote (chosen part writes))
    throw .crashed
  | _ =>
    modify (·.wrote writes)
    pure { statusCode := some (endStatus machine.desktop spawn), stdout := "", stderr := "" }

def ensureSuccess (output : ProcessOutput) (context : String) : Except SystemProxyError Unit :=
  if output.statusCode = some 0 then .ok ()
  else .error (.commandFailed context output.statusCode output.stderr)

def runCommand (context : String) (spawn : ProxySpawn) : Call SystemProxyError PUnit := do
  let output ← runOneshot machine spawn
  let _ ← fromExcept ((ensureSuccess output context).mapError Halt.failed)

def runScript (script : ScriptInvocation) : Call SystemProxyError PUnit :=
  runCommand machine "system proxy script" (scriptSpawn script)

def applyWindowsProxy (settings : WindowsProxySettings) : Call SystemProxyError PUnit :=
  (windowsRegistryCommands settings).forM (runCommand machine "windows registry proxy command")

def applyWindowsClear : Call SystemProxyError PUnit :=
    applyWindowsProxy machine windowsClearSettings

/-- `PacManager::start`: a server on other ports is stopped before the new one is started. -/
def pacStart (httpPort pacPort : Int) : Call SystemProxyError PUnit := do
  let world ← get
  if world.pac = some (httpPort, pacPort) then pure ⟨⟩
  else
    modify fun world => { world with pac := none }
    match ← nextFault with
    | some (.pac error) => throw (.failed error)
    | some (.crash _) => throw .crashed
    | _ => modify fun world => { world with pac := some (httpPort, pacPort) }

def pacStop : Call SystemProxyError PUnit := modify fun world => { world with pac := none }

def perform (request : SystemProxyRequest) : SystemProxyAction → Call SystemProxyError PUnit
  | .noop | .unsupportedPac => pure ⟨⟩
  | .windowsSetProxy settings => applyWindowsProxy machine settings
  | .windowsClear => applyWindowsClear machine
  | .windowsSetPac pacUrl => do
    pacStart request.socksPort request.pacPort
    applyWindowsProxy machine { proxy := pacUrl, exceptions := "", optionType := .pacUrl }
  | .macosSetPac script => do
    pacStart request.socksPort request.pacPort
    runScript machine script
  | .linuxSet script _ _ _ | .linuxClear script | .macosSet script _ _ _ | .macosClear script =>
    runScript machine script

/-- `SystemProxyService::apply`. -/
def apply (installed : String → Bool) (request : SystemProxyRequest) :
    Call SystemProxyError SystemProxyStatus := do
  let plan ← fromExcept ((planSystemProxy installed request).mapError Halt.failed)
  if plan.status.effectiveType ≠ .pac then pacStop
  perform machine request plan.action
  pure plan.status

end Service

inductive SystemProxyManagerError where
  | pacUnavailable (targetOs : TargetOs)
  | createDir (path source : String)
  | systemProxy (error : SystemProxyError)
  | dirtyMarkerInspect (path source : String)
  | dirtyMarkerWrite (path source : String)
  | dirtyMarkerRemove (path source : String)
  deriving DecidableEq, Repr

structure AppPaths where
  appDir : String
  configDir : String
  binDir : String
  binConfigDir : String
  logDir : String
  tempDir : String
  deriving DecidableEq, Repr

section Manager

variable (machine : Machine) (paths : AppPaths)

def dirtyMarkerPath : String := paths.configDir ++ "/proxy-dirty"

/-- A file operation: what it does, what it has done when it is cut short, and its error. -/
def fileOperation (whole : World → World) (cut : Bool → World → World)
    (wrap : String → SystemProxyManagerError) : Call SystemProxyManagerError PUnit := do
  match ← nextFault with
  | some (.file source part) =>
    modify (cut part)
    throw (.failed (wrap source))
  | some (.crash part) =>
    modify (cut (part.headD false))
    throw .crashed
  | _ => modify whole

def createDir (path : String) : Call SystemProxyManagerError PUnit :=
  fileOperation id (fun _ => id) (.createDir path)

def ensureDirs : Call SystemProxyManagerError PUnit :=
  [paths.appDir, paths.configDir, paths.binDir, paths.binConfigDir, paths.logDir,
    paths.tempDir].forM createDir

def dirtyMarkerExists : Call SystemProxyManagerError Bool := do
  fileOperation id (fun _ => id) (.dirtyMarkerInspect (dirtyMarkerPath paths))
  let world ← get
  pure world.marker

def writeDirtyMarker : Call SystemProxyManagerError PUnit := do
  ensureDirs paths
  fileOperation id (fun _ => id) (.dirtyMarkerWrite (dirtyMarkerPath paths))
  fileOperation (fun world => { world with marker := true })
    (fun part world => { world with marker := world.marker || part })
    (.dirtyMarkerWrite (dirtyMarkerPath paths))

def clearDirtyMarker : Call SystemProxyManagerError PUnit :=
  fileOperation (fun world => { world with marker := false })
    (fun part world => { world with marker := world.marker && !part })
    (.dirtyMarkerRemove (dirtyMarkerPath paths))

def socksPort (config : Config) : Int :=
  (config.inbound.head?.map (·.localPort)).getD defaultLocalPort

def systemProxyRequest (nonce : String) (config : Config) (forceDisable : Bool) :
    SystemProxyRequest :=
  { targetOs := machine.os
    item := config.systemProxyItem
    forceDisable
    socksPort := socksPort config
    pacPort := addI32 (socksPort config) InboundProtocol.pac.portOffset
    configDir := paths.configDir
    scriptDir := paths.tempDir ++ "/sysproxy"
    pacUrlNonce := nonce }

def request (nonce : String) (config : Config) (forceDisable : Bool) :
    Call SystemProxyManagerError SystemProxyRequest := do
  ensureDirs paths
  pure (systemProxyRequest machine paths nonce config forceDisable)

def requestSetsLocalProxy (request : SystemProxyRequest) : Bool :=
  if request.forceDisable then false
  else
    match request.item.sysProxyType, request.targetOs with
    | .forcedChange, .windows | .forcedChange, .linux | .forcedChange, .macos => true
    | .pac, .windows | .pac, .macos => true
    | _, _ => false

variable (installed : String → Bool)

/-- `self.service.apply`, with its errors among the manager's own. -/
def serviceApply (request : SystemProxyRequest) : Call SystemProxyManagerError SystemProxyStatus :=
  adaptError (Halt.map .systemProxy) (apply machine installed request)

def applyConfig (nonce : String) (config : Config) (forceDisable : Bool) :
    Call SystemProxyManagerError SystemProxyStatus := do
  let request ← request machine paths nonce config forceDisable
  if requestSetsLocalProxy request then writeDirtyMarker paths
  let status ← serviceApply machine installed request
  if status.effectiveType = .forcedClear then clearDirtyMarker paths
  pure status

/-- The mode is set in the configuration before it is applied. -/
def setMode (nonce : String) (config : Config) (mode : SysProxyType) :
    Call SystemProxyManagerError SystemProxyStatus :=
  if mode = .pac ∧ ¬(machine.os = .windows ∨ machine.os = .macos) then
    throw (.failed (.pacUnavailable machine.os))
  else
    applyConfig machine paths installed nonce
      { config with systemProxyItem := { config.systemProxyItem with sysProxyType := mode } } false

def restore (nonce : String) (config : Config) : Call SystemProxyManagerError SystemProxyStatus :=
  applyConfig machine paths installed nonce config true

def restoreDirtyProxyIfNeeded (nonce : String) (config : Config) :
    Call SystemProxyManagerError Bool := do
  if !(← dirtyMarkerExists paths) then pure false
  else
    let request ← request machine paths nonce config false
    let status ← serviceApply machine installed
      { request with item := { request.item with sysProxyType := .forcedClear } }
    if status.effectiveType = .forcedClear then clearDirtyMarker paths
    pure true

end Manager

end SystemProxyManager
