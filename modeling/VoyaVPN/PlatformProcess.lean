import VoyaVPN.Entities
import VoyaVPN.RustText

/-! What the platform layer and its callers exchange about processes: launch plans, spawn
requests, handles, outputs and errors, and the elevated forms of a spawn request. Paths are
kept as text and an I/O error as its message. -/
namespace PlatformProcess

open RustText

inductive TargetOs where
  | windows
  | linux
  | macos
  | other
  deriving DecidableEq, Repr

structure CoreLaunch where
  executable : String
  arguments : String
  workingDir : String
  environment : List (String × String)
  deriving DecidableEq, Repr

inductive ProcessRole where
  | main
  | pre
  | sudoKill
  | sysProxy
  | probe
  | autostart
  deriving DecidableEq, Repr

structure ProcessHandle where
  id : UInt32
  role : ProcessRole
  deriving DecidableEq, Repr

structure GeneratedScript where
  directory : String
  path : String
  contents : String
  executable : Bool
  deriving DecidableEq, Repr

structure ProcessSpawn where
  role : ProcessRole
  executable : String
  arguments : List String := []
  workingDir : String := ""
  environment : List (String × String) := []
  displayLog : Bool := true
  stdin : Option String := none
  generatedScripts : List GeneratedScript := []
  deriving DecidableEq, Repr

structure ProcessOutput where
  statusCode : Option Int
  stdout : String
  stderr : String
  deriving DecidableEq, Repr

inductive ProcessError where
  | spawn (executable : String) (source : String)
  | writeStdin (source : String)
  | missingStdinPipe
  | wait (source : String)
  | stop (source : String)
  | writeGeneratedScript (path : String) (source : String)
  | argumentParse (message : String)
  | lockPoisoned (lock : String)
  | job (message : String)
  deriving DecidableEq, Repr

/-- The scanner state of `split_command_line`. -/
structure CommandLineScan where
  args : List String := []
  current : List Char := []
  quote : Option Char := none
  escaped : Bool := false
  sawToken : Bool := false

def CommandLineScan.push (scan : CommandLineScan) (character : Char) : CommandLineScan :=
  { scan with current := scan.current ++ [character], sawToken := true }

def CommandLineScan.take (scan : CommandLineScan) : CommandLineScan :=
  if scan.sawToken then
    { scan with
      args := scan.args ++ [String.ofList scan.current]
      current := []
      sawToken := false }
  else scan

def scanCharacter (scan : CommandLineScan) (character : Char) : CommandLineScan :=
  if scan.escaped then { scan.push character with escaped := false }
  else if character = '\\' then { scan with escaped := true, sawToken := true }
  else match scan.quote with
    | some activeQuote =>
      if character = activeQuote then { scan with quote := none, sawToken := true }
      else scan.push character
    | none =>
      if character = '\'' ∨ character = '"' then
        { scan with quote := some character, sawToken := true }
      else if isWhitespace character then scan.take
      else scan.push character

def splitCommandLine (input : String) : Except ProcessError (List String) :=
  let scan := input.toList.foldl scanCharacter {}
  let scan := if scan.escaped then { scan with current := scan.current ++ ['\\'] } else scan
  match scan.quote with
  | some activeQuote =>
    .error (.argumentParse ("unterminated quote " ++ String.ofList [activeQuote]))
  | none => .ok scan.take.args

def ProcessSpawn.fromCoreLaunch (role : ProcessRole) (launch : CoreLaunch) (displayLog : Bool) :
    Except ProcessError ProcessSpawn :=
  (splitCommandLine launch.arguments).map fun arguments =>
    { role, executable := launch.executable, arguments, workingDir := launch.workingDir
      environment := launch.environment, displayLog }

def sudoExecutable : String := "/usr/bin/sudo"

def shouldUseUnixSudo (os : TargetOs) (tunEnabled mayNeedSudo : Bool) : Bool :=
  mayNeedSudo && tunEnabled && (os == .linux || os == .macos)

def wrapSpawnWithUnixSudoPasswordless (base : ProcessSpawn) (launcher : String) : ProcessSpawn :=
  { role := base.role
    executable := sudoExecutable
    arguments := ["-n", "--", launcher, "run", base.executable] ++ base.arguments
    workingDir := base.workingDir
    environment := base.environment
    displayLog := base.displayLog
    stdin := none
    generatedScripts := [] }

inductive ElevationError where
  | unsupportedOs
  | invalidKillTarget (executable : String)
  deriving DecidableEq, Repr

/-- `Path::file_name`: the last component, which empty and `.` components are not. -/
def fileName (path : String) : Option String :=
  let components := (split path (· == '/')).filter fun component =>
    !(component == "" || component == ".")
  components.getLast?.bind fun component => if component = ".." then none else some component

def linuxCommMaxVisibleChars : Nat := 15

def expectedProcessCommNames (executable : String) : Except ElevationError (List String) :=
  match fileName executable with
  | none => .error (.invalidKillTarget executable)
  | some name =>
    let truncated := String.ofList (name.toList.take linuxCommMaxVisibleChars)
    .ok (if truncated ≠ name then [name, truncated] else [name])

def unixSudoKillSpawnPasswordless (os : TargetOs) (launcher : String) (targetPid : UInt32)
    (expectedExecutable workingDir : String) : Except ElevationError ProcessSpawn :=
  if os = .linux ∨ os = .macos then
    (expectedProcessCommNames expectedExecutable).map fun names =>
      { role := .sudoKill
        executable := sudoExecutable
        arguments := ["-n", "--", launcher, "kill", toString targetPid] ++ names
        workingDir
        displayLog := true }
  else .error .unsupportedOs

def elevateLauncherDir (os : TargetOs) : Option String :=
  match os with
  | .macos => some "/usr/local/libexec/voya-vpn"
  | .linux => some "/usr/libexec/voya-vpn"
  | .windows | .other => none

def launcherFileName : String := "voya-elevate"

def elevateLauncherPath (os : TargetOs) : Option String :=
  (elevateLauncherDir os).map (· ++ "/" ++ launcherFileName)

end PlatformProcess
