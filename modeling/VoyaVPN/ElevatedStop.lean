import VoyaVPN.ProcessForest
import VoyaVPN.Supervisor

/-! The kill verb of the root-owned launcher. Each command of the script takes one moment, in
which processes may end by themselves; the schedule says which ones. -/
namespace ElevatedStop

open PlatformProcess ProcessForest

abbrev Processes := Forest UInt32 String

def initPid : UInt32 := 1

/-- What the script runs against: the living processes and the number of moments passed. -/
structure System where
  processes : Processes
  clock : Nat := 0
  deriving DecidableEq, Repr

section Commands

variable (schedule : Nat → List UInt32)

def pass (system : System) : System :=
  { processes := endAll initPid (schedule system.clock) system.processes
    clock := system.clock + 1 }

/-- `kill -0`. -/
def isRunning (pid : UInt32) (system : System) : Bool × System :=
  let system := pass schedule system
  (alive system.processes pid, system)

/-- `kill -9`. -/
def kill (pid : UInt32) (system : System) : System :=
  let system := pass schedule system
  { system with processes := endAll initPid [pid] system.processes }

/-- `kill -15`, which the process may ignore. -/
def terminate (ends : Bool) (pid : UInt32) (system : System) : System :=
  let system := pass schedule system
  if ends then { system with processes := endAll initPid [pid] system.processes } else system

def childPids (parent : UInt32) (system : System) : List UInt32 × System :=
  let system := pass schedule system
  (childrenOf system.processes parent, system)

def processComm (pid : UInt32) (system : System) : Option String × System :=
  let system := pass schedule system
  ((system.processes.find? fun process => process.pid = pid).map Process.comm, system)

/-- `comm##*/`. -/
def commBase (comm : String) : String :=
  String.ofList (comm.toList.reverse.takeWhile (· ≠ '/')).reverse

def processMatchesExpected (expected : List String) (pid : UInt32) (system : System) :
    Bool × System :=
  let (comm, system) := processComm schedule pid system
  match comm with
  | none => (false, system)
  | some comm =>
    (comm ≠ "" && expected.any fun name => comm = name || commBase comm = name, system)

def anyChild (check : UInt32 → System → Option (Bool × System)) :
    List UInt32 → System → Option (Bool × System)
  | [], system => some (false, system)
  | child :: children, system =>
    match check child system with
    | none => none
    | some (true, system) => some (true, system)
    | some (false, system) => anyChild check children system

/-- The walks down the tree recurse at most `depth` levels; without a result the script has not
come to its end. -/
def treeHasExpectedProcess (expected : List String) :
    Nat → UInt32 → System → Option (Bool × System)
  | 0, _, _ => none
  | depth + 1, parent, system =>
    match processMatchesExpected schedule expected parent system with
    | (true, system) => some (true, system)
    | (false, system) =>
      let (children, system) := childPids schedule parent system
      anyChild (treeHasExpectedProcess expected depth) children system

def collectEach (walk : UInt32 → System → Option (List UInt32 × System)) :
    List UInt32 → System → Option (List UInt32 × System)
  | [], system => some ([], system)
  | child :: children, system =>
    match walk child system with
    | none => none
    | some (below, system) =>
      match collectEach walk children system with
      | none => none
      | some (others, system) => some (child :: below ++ others, system)

def descendantPids : Nat → UInt32 → System → Option (List UInt32 × System)
  | 0, _, _ => none
  | depth + 1, parent, system =>
    let (children, system) := childPids schedule parent system
    collectEach (descendantPids depth) children system

def killEach (killBelow : UInt32 → System → Option System) :
    List UInt32 → System → Option System
  | [], system => some system
  | child :: children, system =>
    match killBelow child system with
    | none => none
    | some system => killEach killBelow children (kill schedule child system)

def killChildren : Nat → UInt32 → System → Option System
  | 0, _, _ => none
  | depth + 1, parent, system =>
    let (children, system) := childPids schedule parent system
    killEach schedule (killChildren depth) children system

def waitForExit (pid : UInt32) : Nat → System → Bool × System
  | 0, system => (false, system)
  | attempts + 1, system =>
    match isRunning schedule pid system with
    | (false, system) => (true, system)
    | (true, system) => waitForExit pid attempts (pass schedule system)

def waitAttempts : Nat := 20

/-- Waits for each process and gives the complaints about those that go on. -/
def waitForAll : List UInt32 → System → List String × System
  | [], system => ([], system)
  | child :: children, system =>
    match waitForExit schedule child waitAttempts system with
    | (true, system) => waitForAll children system
    | (false, system) =>
      let (complaints, system) := waitForAll children system
      (s!"sudo kill child pid {child} is still running" :: complaints, system)

end Commands

/-- What the system does during one attempt: who ends by itself up to the TERM and who from
there on, whether the root ends on TERM, and who ends before the next attempt. -/
structure StopAttempt where
  before : Nat → List UInt32 := fun _ => []
  after : Nat → List UInt32 := fun _ => []
  rootEndsOnTerm : Bool := false
  between : List UInt32 := []
  depth : Nat

def exitWith (code : Int) (stderr : String) : ProcessOutput :=
  { statusCode := some code, stdout := "", stderr }

/-- From the TERM on: the root, the children it then has and the wait for all of them. -/
def terminateTree (attempt : StopAttempt) (pid : UInt32) (descendants : List UInt32)
    (system : System) : Option (ProcessOutput × System) :=
  let system := terminate attempt.after attempt.rootEndsOnTerm pid system
  let system := pass attempt.after system
  let (running, system) := isRunning attempt.after pid system
  let killed :=
    if running then
      (killChildren attempt.after attempt.depth pid system).map (kill attempt.after pid)
    else some system
  killed.map fun system =>
    let (ended, system) := waitForExit attempt.after pid waitAttempts system
    let rootComplaints := if ended then [] else [s!"sudo kill target pid {pid} is still running"]
    let (complaints, system) := waitForAll attempt.after descendants system
    let complaints := rootComplaints ++ complaints
    (exitWith (if complaints.isEmpty then 0 else 1) ("\n".intercalate complaints), system)

def unixSudoKillBody (script : String) (attempt : StopAttempt) (pid : UInt32)
    (expected : List String) (processes : Processes) : Option (ProcessOutput × Processes) :=
  if expected.isEmpty then
    some (exitWith 64 s!"Usage: {script} <PID> <expected process name>...", processes)
  else
    let (running, system) := isRunning attempt.before pid { processes }
    if !running then some (exitWith 0 "", system.processes)
    else
      match treeHasExpectedProcess attempt.before expected attempt.depth pid system with
      | none => none
      | some (false, system) =>
        some (exitWith 65 ("refusing to sudo kill pid " ++ toString pid ++
          ": target process tree does not contain an expected core"), system.processes)
      | some (true, system) =>
        match descendantPids attempt.before attempt.depth pid system with
        | none => none
        | some (descendants, system) =>
          (terminateTree attempt pid descendants { processes := system.processes }).map
            fun (output, system) => (output, system.processes)

/-- The supervisor's side: the elevated process is treated as stopped once the script has
succeeded; an attempt that does not come back holds up all further ones. -/
structure StopState where
  processes : Processes
  stopped : Bool := false
  waiting : Bool := false
  deriving DecidableEq, Repr

def treatedAsStopped (pid : UInt32) (output : ProcessOutput) : Bool :=
  match Supervisor.ensureSudoKillSuccess pid output with
  | .ok () => true
  | .error _ => false

def step (script : String) (pid : UInt32) (expected : List String) (state : StopState)
    (attempt : StopAttempt) : StopState :=
  if state.stopped || state.waiting then state
  else
    match unixSudoKillBody script attempt pid expected state.processes with
    | none => { state with waiting := true }
    | some (output, processes) =>
      { processes := endAll initPid attempt.between processes
        stopped := treatedAsStopped pid output }

end ElevatedStop
