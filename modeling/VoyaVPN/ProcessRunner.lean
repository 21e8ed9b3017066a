import VoyaVPN.PlatformProcess

/-! The process runner: a table of stop channels by pid, one reaper thread for each child, and
one caller at a time. A reaper and the caller each take single steps, in any order; the system
answers each step. A child is named by the number of its spawn among those that created one. -/
namespace ProcessRunner

open PlatformProcess

structure ProcessExit where
  processId : UInt32
  role : ProcessRole
  exitCode : Option Int
  deriving DecidableEq, Repr

/-- Where the loop of `run_child_reaper` is: at the next wait, past a wait that has found the
exit, past the removal from the table, or returned. -/
inductive ReaperState where
  | polling
  | exited (code : Option Int)
  | removed (code : Option Int)
  | done
  deriving DecidableEq, Repr

/-- A child process with its reaper. `issued` says whether its spawn has returned a handle and
`stopped` whether its reaper has stopped it for the runner. -/
structure Child where
  handle : ProcessHandle
  issued : Bool
  running : Bool
  exitCode : Option Int := none
  reaper : ReaperState
  stopRequested : Bool := false
  reply : Option (Except ProcessError Unit) := none
  stopped : Bool := false
  handler : Bool := false
  deriving DecidableEq

/-- A stop or, without a target, the drop of the runner: the channels taken out of the table,
the first one being served, and whether its stop message is sent. -/
structure StopCall where
  target : Option Nat
  controls : List Nat
  sent : Bool := false
  deriving DecidableEq, Repr

structure StdProcessRunner where
  children : List Child := []
  table : List (UInt32 × Nat) := []
  exitHandler : Bool := false
  caller : Option StopCall := none
  reports : List (Nat × ProcessExit) := []
  stopReturns : List (Nat × Except ProcessError Unit) := []
  dropped : Bool := false
  deriving DecidableEq

structure WaitAnswers where
  tryWait : Except String Unit := .ok ()
  kill : Except String Unit := .ok ()
  wait : Except String Unit := .ok ()
  childrenLock : Bool := true

structure SpawnAnswers where
  scripts : Except ProcessError Unit := .ok ()
  spawn : Except String UInt32
  stdinPipe : Bool := true
  writeStdin : Except String Unit := .ok ()
  stop : WaitAnswers := {}
  exitHandlerLock : Bool := true
  childrenLock : Bool := true

def stopChild (answers : WaitAnswers) (running : Bool) : Except ProcessError Unit × Bool :=
  match answers.tryWait with
  | .error source => (.error (.wait source), running)
  | .ok () =>
    if running then
      match answers.kill with
      | .error source => (.error (.stop source), true)
      | .ok () => (answers.wait.mapError .wait, false)
    else (.ok (), false)

def writeChildStdin (answers : SpawnAnswers) : Except ProcessError Unit × Bool :=
  if answers.stdinPipe then (answers.writeStdin.mapError .writeStdin, true)
  else
    let stopped := stopChild answers.stop true
    (match stopped.1 with
      | .error error => .error error
      | .ok () => .error .missingStdinPipe, stopped.2)

namespace StdProcessRunner

variable (runner : StdProcessRunner)

def lookup (pid : UInt32) : Option Nat :=
  (runner.table.find? (·.1 = pid)).map (·.2)

def removeControl (pid : UInt32) : StdProcessRunner :=
  { runner with table := runner.table.filter (·.1 ≠ pid) }

def setChild (number : Nat) (child : Child) : StdProcessRunner :=
  { runner with children := runner.children.set number child }

/-- A child whose spawn fails is left to itself: dropping a `Child` does not end it. -/
def abandon (handle : ProcessHandle) (running : Bool) : StdProcessRunner :=
  { runner with
    children := runner.children ++ [{ handle, issued := false, running, reaper := .done }] }

def track (handle : ProcessHandle) : StdProcessRunner :=
  { runner with
    children := runner.children ++
      [{ handle
         issued := true
         running := true
         reaper := .polling
         handler := runner.exitHandler }]
    table := (handle.id, runner.children.length) :: runner.table.filter (·.1 ≠ handle.id) }

def spawn (request : ProcessSpawn) (answers : SpawnAnswers) :
    Except ProcessError ProcessHandle × StdProcessRunner :=
  match answers.scripts with
  | .error error => (.error error, runner)
  | .ok () =>
    match answers.spawn with
    | .error source => (.error (.spawn request.executable source), runner)
    | .ok pid =>
      let handle : ProcessHandle := ⟨pid, request.role⟩
      let written := if request.stdin.isSome then writeChildStdin answers else (.ok (), true)
      match written.1 with
      | .error error => (.error error, runner.abandon handle written.2)
      | .ok () =>
        if answers.exitHandlerLock then
          if answers.childrenLock then (.ok handle, runner.track handle)
          else (.error (.lockPoisoned "children"), runner.abandon handle written.2)
        else (.error (.lockPoisoned "exit_handler"), runner.abandon handle written.2)

/-- Some stop channel of the child is still held: by the table or by the caller. -/
def connected (number : Nat) : Bool :=
  runner.table.any (·.2 = number) || runner.caller.any (·.controls.contains number)

def reaperStep (number : Nat) (answers : WaitAnswers) : StdProcessRunner :=
  match runner.children[number]? with
  | none => runner
  | some child =>
    match child.reaper with
    | .polling =>
      if child.stopRequested then
        let stopped := stopChild answers child.running
        runner.setChild number
          { child with
            running := stopped.2, reply := some stopped.1, stopRequested := false
            stopped := true, reaper := .done }
      else if !runner.connected number then
        runner.setChild number
          { child with running := (stopChild answers child.running).2, reaper := .done }
      else
        match answers.tryWait with
        | .error _ => runner.setChild number { child with reaper := .exited none }
        | .ok () =>
          if child.running then runner
          else runner.setChild number { child with reaper := .exited child.exitCode }
    | .exited code =>
      let removed := if answers.childrenLock then runner.removeControl child.handle.id else runner
      removed.setChild number { child with reaper := .removed code }
    | .removed code =>
      let exit : ProcessExit :=
        { processId := child.handle.id, role := child.handle.role, exitCode := code }
      let reported := if child.handler then
          { runner with reports := (number, exit) :: runner.reports }
        else runner
      reported.setChild number { child with reaper := .done }
    | .done => runner

/-- `stop` up to the send: a child without an entry counts as stopped. -/
def stop (number : Nat) (childrenLock : Bool) : StdProcessRunner :=
  match runner.children[number]? with
  | none => runner
  | some child =>
    if !child.issued then runner
    else if !childrenLock then
      { runner with
        stopReturns := (number, .error (.lockPoisoned "children")) :: runner.stopReturns }
    else match runner.lookup child.handle.id with
      | none => { runner with stopReturns := (number, .ok ()) :: runner.stopReturns }
      | some control =>
        { runner.removeControl child.handle.id with
          caller := some { target := some number, controls := [control] } }

def drop : StdProcessRunner :=
  { runner with
    table := []
    caller := some { target := none, controls := runner.table.map (·.2) } }

/-- The control served is done with: a stop returns, a drop goes on to the next one. -/
def finishControl (call : StopCall) (rest : List Nat) (result : Except ProcessError Unit) :
    StdProcessRunner :=
  match call.target with
  | some target =>
    { runner with caller := none, stopReturns := (target, result) :: runner.stopReturns }
  | none => { runner with caller := some { target := none, controls := rest } }

/-- One step of the caller: the send, which fails once the reaper has returned, and the
receipt of the reply, which ends without one when the reaper returns. -/
def callerStep : StdProcessRunner :=
  match runner.caller with
  | none => runner
  | some call =>
    match call.controls with
    | [] => { runner with caller := none, dropped := true }
    | number :: rest =>
      match runner.children[number]? with
      | none => runner
      | some child =>
        match child.reply with
        | some result => runner.finishControl call rest result
        | none =>
          if child.reaper = .done then runner.finishControl call rest (.ok ())
          else if call.sent then runner
          else
            { runner.setChild number { child with stopRequested := true } with
              caller := some { call with sent := true } }

end StdProcessRunner

inductive RunnerInput where
  | setExitHandler (registered : Bool)
  | spawn (request : ProcessSpawn) (answers : SpawnAnswers)
  | exits (child : Nat) (code : Option Int)
  | reaper (child : Nat) (answers : WaitAnswers)
  | stop (child : Nat) (childrenLock : Bool)
  | drop
  | caller

/-- The caller waits for a stop, or the runner is gone. -/
def StdProcessRunner.busy (runner : StdProcessRunner) : Bool :=
  runner.caller.isSome || runner.dropped

def step (runner : StdProcessRunner) : RunnerInput → StdProcessRunner
  | .setExitHandler registered => { runner with exitHandler := registered }
  | .spawn request answers => if runner.busy then runner else (runner.spawn request answers).2
  | .exits number code =>
    match runner.children[number]? with
    | none => runner
    | some child =>
      if child.running then
        runner.setChild number { child with running := false, exitCode := code }
      else runner
  | .reaper number answers => runner.reaperStep number answers
  | .stop number childrenLock => if runner.busy then runner else runner.stop number childrenLock
  | .drop => if runner.busy then runner else runner.drop
  | .caller => runner.callerStep

end ProcessRunner
