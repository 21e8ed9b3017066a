import VoyaVPN.InputRuns
import VoyaVPN.ProcessRunner

/-! What the process runner keeps track of. A failing write to the stdin of a new child and a
failing wait or kill in its reaper leave a running child that the runner no longer knows; as
long as these succeed, every running child is in the table or being stopped. -/
namespace RunnerTracking

open PlatformProcess ProcessRunner StdProcessRunner

/-- The answers by which a spawn call either returns a handle or leaves no child. -/
def SpawnSound (runner : StdProcessRunner) (request : ProcessSpawn) (answers : SpawnAnswers) :
    Prop :=
  answers.scripts = .ok () → ∀ pid, answers.spawn = .ok pid →
    runner.lookup pid = none ∧
      (request.stdin.isSome = true → answers.stdinPipe = true → answers.writeStdin = .ok ()) ∧
      (request.stdin.isSome = true → answers.stdinPipe = false →
        answers.stop.tryWait = .ok () ∧ answers.stop.kill = .ok ()) ∧
      ((request.stdin.isSome = true → answers.stdinPipe = true) →
        answers.exitHandlerLock = true ∧ answers.childrenLock = true)

/-- The reaper of a running child can wait for it, and kill it when it is to stop it. -/
def ReaperSound (runner : StdProcessRunner) (number : Nat) (answers : WaitAnswers) : Prop :=
  ∀ child, runner.children[number]? = some child → child.reaper = .polling →
    child.running = true →
      answers.tryWait = .ok () ∧ (child.stopRequested = true → answers.kill = .ok ())

/-- The system keeps its part: waits, kills and writes succeed, and a pid comes back only once
the table has forgotten it. -/
def SystemSound (runner : StdProcessRunner) : RunnerInput → Prop
  | .spawn request answers => SpawnSound runner request answers
  | .reaper number answers => ReaperSound runner number answers
  | .setExitHandler _ | .exits .. | .stop .. | .drop | .caller => True

def controls (runner : StdProcessRunner) : List Nat :=
  runner.caller.elim [] (·.controls)

/-- The table or the caller holds the stop channel of the child. -/
def Held (runner : StdProcessRunner) (number : Nat) (child : Child) : Prop :=
  (child.handle.id, number) ∈ runner.table ∨ number ∈ controls runner

def reportCount (runner : StdProcessRunner) (number : Nat) : Nat :=
  runner.reports.countP (·.1 = number)

def ReaperInvariant (runner : StdProcessRunner) (number : Nat) (child : Child) : Prop :=
  match child.reaper with
  | .polling => Held runner number child ∧ reportCount runner number = 0 ∧
      child.stopped = false ∧ child.reply = none
  | .exited _ => Held runner number child ∧ reportCount runner number = 0 ∧
      child.stopped = false ∧ child.reply = none ∧ child.running = false
  | .removed _ => reportCount runner number = 0 ∧ child.stopped = false ∧ child.reply = none ∧
      child.running = false
  | .done => child.running = false ∧
      reportCount runner number = if child.handler && !child.stopped then 1 else 0

def ChildInvariant (runner : StdProcessRunner) (number : Nat) (child : Child) : Prop :=
  if child.issued then ReaperInvariant runner number child
  else child.reaper = .done ∧ child.running = false

/-- The channels held belong to children with handles, no two of them under one pid. -/
structure ControlsInvariant (runner : StdProcessRunner) : Prop where
  table : ∀ pid number, (pid, number) ∈ runner.table →
    ∃ child, runner.children[number]? = some child ∧ child.issued = true ∧ child.handle.id = pid
  controls : ∀ number ∈ controls runner,
    ∃ child, runner.children[number]? = some child ∧ child.issued = true
  apart : ∀ m n child other, runner.children[m]? = some child → runner.children[n]? = some other →
    Held runner m child → Held runner n other → child.handle.id = other.handle.id → m = n

/-- The caller serves the child it was asked to stop, or one that has the pid of a child that
has ended; a drop has emptied the table. -/
def CallerInvariant (runner : StdProcessRunner) : Prop :=
  ∀ call, runner.caller = some call →
    match call.target with
    | some target => ∃ head child, call.controls = [head] ∧
        runner.children[target]? = some child ∧ (head = target ∨ child.running = false)
    | none => runner.table = []

structure RunnerInvariant (runner : StdProcessRunner) : Prop where
  children : ∀ (number : Nat) (child : Child), runner.children[number]? = some child →
    ChildInvariant runner number child
  controls : ControlsInvariant runner
  caller : CallerInvariant runner
  stops : ∀ number, (number, .ok ()) ∈ runner.stopReturns →
    ∀ child : Child, runner.children[number]? = some child → child.running = false
  stopsIssued : ∀ number result, (number, result) ∈ runner.stopReturns →
    number < runner.children.length
  reports : ∀ number, runner.children.length ≤ number → reportCount runner number = 0
  dropped : runner.dropped = true → ∀ (number : Nat) (child : Child),
    runner.children[number]? = some child → child.running = false

theorem held_of_running {runner : StdProcessRunner} (h : RunnerInvariant runner) {number : Nat}
    {child : Child} (hchild : runner.children[number]? = some child)
    (hrunning : child.running = true) :
    child.issued = true ∧ child.reaper = .polling ∧ Held runner number child := by
  have hinv := h.children number child hchild
  unfold ChildInvariant at hinv
  cases hissued : child.issued with
  | false =>
    rw [hissued] at hinv
    simp [hrunning] at hinv
  | true =>
    rw [hissued] at hinv
    simp only [if_true, ReaperInvariant] at hinv
    cases hreaper : child.reaper with
    | polling =>
      rw [hreaper] at hinv
      exact ⟨rfl, rfl, hinv.1⟩
    | exited code =>
      rw [hreaper] at hinv
      simp [hrunning] at hinv
    | removed code =>
      rw [hreaper] at hinv
      simp [hrunning] at hinv
    | done =>
      rw [hreaper] at hinv
      simp [hrunning] at hinv

/-- What a step does to the one child it changes and to the rest. -/
structure ChildStep (runner after : StdProcessRunner) (number : Nat) (child next : Child) :
    Prop where
  found : runner.children[number]? = some child
  children : after.children = runner.children.set number next
  handle : next.handle = child.handle
  issued : next.issued = child.issued
  running : next.running = true → child.running = true
  table : ∀ entry ∈ after.table, entry ∈ runner.table
  controls : controls after = controls runner
  others : ∀ other otherChild, other ≠ number → runner.children[other]? = some otherChild →
    (Held runner other otherChild → Held after other otherChild) ∧
      reportCount after other = reportCount runner other

theorem ChildStep.lookup {runner after : StdProcessRunner} {number : Nat} {child next : Child}
    (h : ChildStep runner after number child next) {other : Nat} {otherChild : Child}
    (hother : after.children[other]? = some otherChild) :
    (other = number ∧ otherChild = next) ∨
      other ≠ number ∧ runner.children[other]? = some otherChild := by
  rw [h.children] at hother
  by_cases hsame : other = number
  · subst hsame
    rw [List.getElem?_set_self (List.getElem?_eq_some_iff.mp h.found).1] at hother
    exact .inl ⟨rfl, (Option.some.inj hother).symm⟩
  · rw [List.getElem?_set_ne (Ne.symm hsame)] at hother
    exact .inr ⟨hsame, hother⟩

/-- A child found after the step was there before, and it does not come back to life. -/
theorem ChildStep.before {runner after : StdProcessRunner} {number : Nat} {child next : Child}
    (h : ChildStep runner after number child next) {other : Nat} {otherChild : Child}
    (hother : after.children[other]? = some otherChild) :
    ∃ earlier, runner.children[other]? = some earlier ∧ earlier.handle = otherChild.handle ∧
      earlier.issued = otherChild.issued ∧
        (otherChild.running = true → earlier.running = true) := by
  rcases h.lookup hother with ⟨rfl, rfl⟩ | ⟨-, hbefore⟩
  · exact ⟨child, h.found, h.handle.symm, h.issued.symm, h.running⟩
  · exact ⟨otherChild, hbefore, rfl, rfl, id⟩

theorem ChildStep.after {runner after : StdProcessRunner} {number : Nat} {child next : Child}
    (h : ChildStep runner after number child next) {other : Nat} {otherChild : Child}
    (hother : runner.children[other]? = some otherChild) :
    ∃ later, after.children[other]? = some later ∧ later.handle = otherChild.handle ∧
      later.issued = otherChild.issued := by
  by_cases hsame : other = number
  · subst hsame
    rw [h.found] at hother
    cases hother
    refine ⟨next, ?_, h.handle, h.issued⟩
    rw [h.children, List.getElem?_set_self (List.getElem?_eq_some_iff.mp h.found).1]
  · refine ⟨otherChild, ?_, rfl, rfl⟩
    rw [h.children, List.getElem?_set_ne (Ne.symm hsame)]
    exact hother

theorem ChildStep.held {runner after : StdProcessRunner} {number : Nat} {child next : Child}
    (h : ChildStep runner after number child next) {other : Nat} {earlier later : Child}
    (hhandle : earlier.handle = later.handle) (hheld : Held after other later) :
    Held runner other earlier := by
  rcases hheld with htable | hcontrols
  · exact .inl (hhandle ▸ h.table _ htable)
  · exact .inr (h.controls ▸ hcontrols)

theorem ChildStep.controlsInvariant {runner after : StdProcessRunner} {number : Nat}
    {child next : Child} (h : ChildStep runner after number child next)
    (hcontrols : ControlsInvariant runner) : ControlsInvariant after := by
  refine ⟨?_, ?_, ?_⟩
  · intro pid other hentry
    obtain ⟨earlier, hearlier, hissued, hpid⟩ := hcontrols.table pid other (h.table _ hentry)
    obtain ⟨later, hlater, hhandle, hissued'⟩ := h.after hearlier
    exact ⟨later, hlater, hissued'.trans hissued, by rw [hhandle, hpid]⟩
  · intro other hother
    rw [h.controls] at hother
    obtain ⟨earlier, hearlier, hissued⟩ := hcontrols.controls other hother
    obtain ⟨later, hlater, -, hissued'⟩ := h.after hearlier
    exact ⟨later, hlater, hissued'.trans hissued⟩
  · intro m n first second hfirst hsecond hheldFirst hheldSecond hpid
    obtain ⟨one, hone, honeHandle, -⟩ := h.before hfirst
    obtain ⟨two, htwo, htwoHandle, -⟩ := h.before hsecond
    refine hcontrols.apart m n one two hone htwo (h.held honeHandle hheldFirst)
      (h.held htwoHandle hheldSecond) ?_
    rw [honeHandle, htwoHandle, hpid]

/-- An invariant child stays one when its channel stays held and its reports stay counted. -/
theorem childInvariant_congr {runner after : StdProcessRunner} {number : Nat} {child : Child}
    (h : ChildInvariant runner number child)
    (hheld : Held runner number child → Held after number child)
    (hcount : reportCount after number = reportCount runner number) :
    ChildInvariant after number child := by
  unfold ChildInvariant ReaperInvariant at h ⊢
  rw [hcount]
  split
  · rename_i hissued
    rw [if_pos hissued] at h
    split
    · rename_i hreaper
      rw [hreaper] at h
      exact ⟨hheld h.1, h.2⟩
    · rename_i hreaper
      rw [hreaper] at h
      exact ⟨hheld h.1, h.2⟩
    · rename_i hreaper
      rw [hreaper] at h
      exact h
    · rename_i hreaper
      rw [hreaper] at h
      exact h
  · rename_i hissued
    rw [if_neg hissued] at h
    exact h

/-- A step on one child keeps the invariant when the child it leaves satisfies it. -/
theorem ChildStep.invariant {runner after : StdProcessRunner} {number : Nat} {child next : Child}
    (h : ChildStep runner after number child next) (hinv : RunnerInvariant runner)
    (hnext : ChildInvariant after number next) (hcaller : CallerInvariant after)
    (hreturns : after.stopReturns = runner.stopReturns) (hdropped : after.dropped = runner.dropped)
    (hreports : ∀ other, other ≠ number → reportCount after other = reportCount runner other) :
    RunnerInvariant after := by
  have hlength : after.children.length = runner.children.length := by
    rw [h.children, List.length_set]
  refine ⟨?_, h.controlsInvariant hinv.controls, hcaller, ?_, ?_, ?_, ?_⟩
  · intro other otherChild hother
    rcases h.lookup hother with ⟨rfl, rfl⟩ | ⟨hne, hbefore⟩
    · exact hnext
    · obtain ⟨hheld, hcount⟩ := h.others other otherChild hne hbefore
      exact childInvariant_congr (hinv.children other otherChild hbefore) hheld hcount
  · intro other hother otherChild hfound
    rw [hreturns] at hother
    obtain ⟨earlier, hearlier, -, -, hrunning⟩ := h.before hfound
    have hended := hinv.stops other hother earlier hearlier
    by_contra hcontra
    have hlive := hrunning (by simpa using hcontra)
    rw [hended] at hlive
    cases hlive
  · intro other result hother
    rw [hreturns] at hother
    rw [hlength]
    exact hinv.stopsIssued other result hother
  · intro other hother
    rw [hlength] at hother
    have hne : other ≠ number := by
      have hlt := (List.getElem?_eq_some_iff.mp h.found).1
      omega
    rw [hreports other hne]
    exact hinv.reports other hother
  · intro hdrop other otherChild hfound
    rw [hdropped] at hdrop
    obtain ⟨earlier, hearlier, -, -, hrunning⟩ := h.before hfound
    have hended := hinv.dropped hdrop other earlier hearlier
    by_contra hcontra
    have hlive := hrunning (by simpa using hcontra)
    rw [hended] at hlive
    cases hlive

theorem ChildStep.callerInvariant {runner after : StdProcessRunner} {number : Nat}
    {child next : Child} (h : ChildStep runner after number child next)
    (hcaller : CallerInvariant runner) (htable : runner.table = [] → after.table = [])
    (hsame : ∀ call, after.caller = some call → ∃ before, runner.caller = some before ∧
      before.target = call.target ∧ before.controls = call.controls) : CallerInvariant after := by
  intro call hcall
  obtain ⟨before, hbefore, htarget, hcontrols⟩ := hsame call hcall
  have hinv := hcaller before hbefore
  rw [htarget] at hinv
  cases hcase : call.target with
  | none =>
    rw [hcase] at hinv
    exact htable hinv
  | some target =>
    rw [hcase] at hinv
    obtain ⟨head, earlier, hhead, hearlier, hended⟩ := hinv
    obtain ⟨later, hlater, -, -⟩ := h.after hearlier
    refine ⟨head, later, hcontrols ▸ hhead, hlater, ?_⟩
    rcases hended with hsame | hended
    · exact .inl hsame
    · refine .inr ?_
      obtain ⟨found, hfound, -, -, hback⟩ := h.before hlater
      rw [hearlier] at hfound
      cases hfound
      by_contra hcontra
      have hlive := hback (by simpa using hcontra)
      rw [hended] at hlive
      cases hlive

theorem childStep_setChild {runner : StdProcessRunner} {number : Nat} {child next : Child}
    (hfound : runner.children[number]? = some child) (hhandle : next.handle = child.handle)
    (hissued : next.issued = child.issued) (hrunning : next.running = true → child.running = true) :
    ChildStep runner (runner.setChild number next) number child next := by
  refine ⟨hfound, rfl, hhandle, hissued, hrunning, fun _ h => h, rfl, ?_⟩
  intro other otherChild _ _
  exact ⟨id, rfl⟩

/-- A step on one child that leaves the table, the caller and the reports alone. -/
theorem setChild_invariant {runner : StdProcessRunner} {number : Nat} {child next : Child}
    (hinv : RunnerInvariant runner) (hfound : runner.children[number]? = some child)
    (hhandle : next.handle = child.handle) (hissued : next.issued = child.issued)
    (hrunning : next.running = true → child.running = true)
    (hnext : ChildInvariant runner number next) :
    RunnerInvariant (runner.setChild number next) := by
  have hstep := childStep_setChild hfound hhandle hissued hrunning
  have hcaller := hstep.callerInvariant hinv.caller id fun call hcall => ⟨call, hcall, rfl, rfl⟩
  exact hstep.invariant hinv (childInvariant_congr hnext id rfl) hcaller rfl rfl fun _ _ => rfl

theorem stopChild_ended {answers : WaitAnswers} {running : Bool}
    (h : running = true → answers.tryWait = .ok () ∧ answers.kill = .ok ()) :
    (stopChild answers running).2 = false := by
  cases running with
  | false =>
    unfold stopChild
    split
    · rfl
    · rfl
  | true =>
    obtain ⟨hwait, hkill⟩ := h rfl
    simp [stopChild, hwait, hkill]

theorem connected_of_held {runner : StdProcessRunner} {number : Nat} {child : Child}
    (h : Held runner number child) : runner.connected number = true := by
  unfold connected
  rw [Bool.or_eq_true]
  rcases h with htable | hcontrols
  · exact .inl (List.any_eq_true.mpr ⟨_, htable, by simp⟩)
  · refine .inr ?_
    cases hcaller : runner.caller with
    | none => simp [controls, hcaller] at hcontrols
    | some call => simpa [controls, hcaller] using hcontrols

theorem exits_keeps {runner : StdProcessRunner} (hinv : RunnerInvariant runner) (number : Nat)
    (code : Option Int) : RunnerInvariant (step runner (.exits number code)) := by
  simp only [step]
  split
  · exact hinv
  · rename_i child hfound
    split
    · rename_i hrunning
      obtain ⟨hissued, hreaper, -⟩ := held_of_running hinv hfound hrunning
      have hbefore := hinv.children number child hfound
      refine setChild_invariant hinv hfound rfl rfl (fun h => by cases h) ?_
      simp only [ChildInvariant, ReaperInvariant, hissued, hreaper, if_true] at hbefore ⊢
      exact hbefore
    · exact hinv

theorem reaper_polling_keeps {runner : StdProcessRunner} (hinv : RunnerInvariant runner)
    {number : Nat} {answers : WaitAnswers} {child : Child}
    (hfound : runner.children[number]? = some child) (hreaper : child.reaper = .polling)
    (hsound : ReaperSound runner number answers) :
    RunnerInvariant (runner.reaperStep number answers) := by
  have hissued : child.issued = true := by
    by_contra hnot
    have hbefore := hinv.children number child hfound
    simp [ChildInvariant, hnot, hreaper] at hbefore
  have hbefore := hinv.children number child hfound
  simp only [ChildInvariant, ReaperInvariant, hissued, hreaper, if_true] at hbefore
  obtain ⟨hheld, hcount, hstopped, hreply⟩ := hbefore
  have hsound := hsound child hfound hreaper
  simp only [reaperStep, hfound, hreaper]
  split
  · rename_i hrequested
    have hended : (stopChild answers child.running).2 = false :=
      stopChild_ended fun hrunning => ⟨(hsound hrunning).1, (hsound hrunning).2 hrequested⟩
    refine setChild_invariant hinv hfound rfl rfl ?_ ?_
    · intro hrunning
      rw [hended] at hrunning
      cases hrunning
    · simp [ChildInvariant, ReaperInvariant, hissued, hended, hcount]
  · rw [connected_of_held hheld]
    simp only [Bool.not_true, Bool.false_eq_true, if_false]
    split
    · rename_i source hfailed
      have hended : child.running = false := by
        by_contra hrunning
        have hok := (hsound (by simpa using hrunning)).1
        rw [hok] at hfailed
        cases hfailed
      refine setChild_invariant hinv hfound rfl rfl id ?_
      simp only [ChildInvariant, ReaperInvariant, hissued, if_true]
      exact ⟨hheld, hcount, hstopped, hreply, hended⟩
    · split
      · exact hinv
      · rename_i hrunning
        refine setChild_invariant hinv hfound rfl rfl id ?_
        simp only [ChildInvariant, ReaperInvariant, hissued, if_true]
        exact ⟨hheld, hcount, hstopped, hreply, by simpa using hrunning⟩

/-- The reaper removes its own entry only: no other child is held under its pid. -/
theorem reaper_exited_keeps {runner : StdProcessRunner} (hinv : RunnerInvariant runner)
    {number : Nat} {answers : WaitAnswers} {child : Child} {code : Option Int}
    (hfound : runner.children[number]? = some child) (hreaper : child.reaper = .exited code) :
    RunnerInvariant (runner.reaperStep number answers) := by
  have hissued : child.issued = true := by
    by_contra hnot
    have hbefore := hinv.children number child hfound
    simp [ChildInvariant, hnot, hreaper] at hbefore
  have hbefore := hinv.children number child hfound
  simp only [ChildInvariant, ReaperInvariant, hissued, hreaper, if_true] at hbefore
  obtain ⟨hheld, hcount, hstopped, hreply, hended⟩ := hbefore
  simp only [reaperStep, hfound, hreaper]
  split
  · have hstep : ChildStep runner ((runner.removeControl child.handle.id).setChild number
        { child with reaper := .removed code }) number child
        { child with reaper := .removed code } := by
      refine ⟨hfound, rfl, rfl, rfl, id, ?_, rfl, ?_⟩
      · intro entry hentry
        exact List.mem_of_mem_filter hentry
      · intro other otherChild hne hother
        refine ⟨?_, rfl⟩
        intro hotherHeld
        have hpid : otherChild.handle.id ≠ child.handle.id := by
          intro hsame
          exact hne (hinv.controls.apart other number otherChild child hother hfound hotherHeld
            hheld hsame)
        rcases hotherHeld with htable | hcontrols
        · exact .inl (List.mem_filter.mpr ⟨htable, by simpa using hpid⟩)
        · exact .inr hcontrols
    have hcaller : CallerInvariant ((runner.removeControl child.handle.id).setChild number
        { child with reaper := .removed code }) := by
      refine hstep.callerInvariant hinv.caller ?_ fun call hcall => ⟨call, hcall, rfl, rfl⟩
      intro hempty
      simp only [setChild, removeControl]
      rw [hempty]
      rfl
    refine hstep.invariant hinv ?_ hcaller rfl rfl fun _ _ => rfl
    simp only [ChildInvariant, ReaperInvariant, hissued, if_true]
    exact ⟨hcount, hstopped, hreply, hended⟩
  · refine setChild_invariant hinv hfound rfl rfl id ?_
    simp only [ChildInvariant, ReaperInvariant, hissued, if_true]
    exact ⟨hcount, hstopped, hreply, hended⟩

theorem reportCount_cons (runner : StdProcessRunner) (number other : Nat) (exit : ProcessExit) :
    reportCount { runner with reports := (number, exit) :: runner.reports } other =
      reportCount runner other + if number = other then 1 else 0 := by
  simp [reportCount, List.countP_cons]

theorem reaper_removed_keeps {runner : StdProcessRunner} (hinv : RunnerInvariant runner)
    {number : Nat} {answers : WaitAnswers} {child : Child} {code : Option Int}
    (hfound : runner.children[number]? = some child) (hreaper : child.reaper = .removed code) :
    RunnerInvariant (runner.reaperStep number answers) := by
  have hissued : child.issued = true := by
    by_contra hnot
    have hbefore := hinv.children number child hfound
    simp [ChildInvariant, hnot, hreaper] at hbefore
  have hbefore := hinv.children number child hfound
  simp only [ChildInvariant, ReaperInvariant, hissued, hreaper, if_true] at hbefore
  obtain ⟨hcount, hstopped, -, hended⟩ := hbefore
  simp only [reaperStep, hfound, hreaper]
  split
  · rename_i hhandler
    let exit : ProcessExit := ⟨child.handle.id, child.handle.role, code⟩
    have hothers : ∀ other, other ≠ number →
        reportCount ({ runner with reports := (number, exit) :: runner.reports }.setChild number
          { child with reaper := .done }) other = reportCount runner other := by
      intro other hne
      have hcons := reportCount_cons runner number other exit
      rw [if_neg (Ne.symm hne), Nat.add_zero] at hcons
      exact hcons
    have hstep : ChildStep runner
      ({ runner with reports := (number, exit) :: runner.reports }.setChild
        number { child with reaper := .done }) number child { child with reaper := .done } := by
      refine ⟨hfound, rfl, rfl, rfl, id, fun _ h => h, rfl, ?_⟩
      intro other otherChild hne _
      exact ⟨id, hothers other hne⟩
    have hcaller := hstep.callerInvariant hinv.caller id fun call hcall => ⟨call, hcall, rfl, rfl⟩
    refine hstep.invariant hinv ?_ hcaller rfl rfl hothers
    have hone := reportCount_cons runner number number exit
    rw [hcount, if_pos rfl] at hone
    simp only [ChildInvariant, ReaperInvariant, hissued, if_true]
    refine ⟨hended, ?_⟩
    rw [hhandler, hstopped]
    exact hone
  · rename_i hhandler
    refine setChild_invariant hinv hfound rfl rfl id ?_
    simp only [ChildInvariant, ReaperInvariant, hissued, if_true]
    exact ⟨hended, by simpa [hhandler] using hcount⟩

theorem reaper_keeps {runner : StdProcessRunner} (hinv : RunnerInvariant runner) (number : Nat)
    (answers : WaitAnswers) (hsound : ReaperSound runner number answers) :
    RunnerInvariant (runner.reaperStep number answers) := by
  cases hfound : runner.children[number]? with
  | none =>
    simp only [reaperStep, hfound]
    exact hinv
  | some child =>
    cases hreaper : child.reaper with
    | polling => exact reaper_polling_keeps hinv hfound hreaper hsound
    | exited code => exact reaper_exited_keeps hinv hfound hreaper
    | removed code => exact reaper_removed_keeps hinv hfound hreaper
    | done =>
      simp only [reaperStep, hfound, hreaper]
      exact hinv

/-- A change of the caller, the table and the results that keeps every channel held. -/
theorem caller_invariant {runner after : StdProcessRunner} (hinv : RunnerInvariant runner)
    (hchildren : after.children = runner.children) (hreports : after.reports = runner.reports)
    (hheld : ∀ number child, runner.children[number]? = some child → child.reaper ≠ .done →
      Held runner number child → Held after number child)
    (hfewer : ∀ number child, runner.children[number]? = some child →
      Held after number child → Held runner number child)
    (htable : ∀ entry ∈ after.table, entry ∈ runner.table)
    (hcontrols : ∀ number ∈ controls after, ∃ child, runner.children[number]? = some child ∧
      child.issued = true)
    (hcaller : CallerInvariant after)
    (hstops : ∀ number result, (number, result) ∈ after.stopReturns →
      (number, result) ∈ runner.stopReturns ∨ ∃ child, runner.children[number]? = some child ∧
        (result = .ok () → child.running = false))
    (hdropped : after.dropped = true → ∀ (number : Nat) (child : Child),
      runner.children[number]? = some child → child.running = false) :
    RunnerInvariant after := by
  have hcount : ∀ number, reportCount after number = reportCount runner number := by
    intro number
    rw [reportCount, reportCount, hreports]
  refine ⟨?_, ⟨?_, ?_, ?_⟩, hcaller, ?_, ?_, ?_, ?_⟩
  · intro number child hfound
    rw [hchildren] at hfound
    have hbefore := hinv.children number child hfound
    by_cases hdone : child.reaper = .done
    · simp only [ChildInvariant, ReaperInvariant, hdone, hcount] at hbefore ⊢
      exact hbefore
    · exact childInvariant_congr hbefore (hheld number child hfound hdone) (hcount number)
  · intro pid number hentry
    rw [hchildren]
    exact hinv.controls.table pid number (htable _ hentry)
  · intro number hnumber
    rw [hchildren]
    exact hcontrols number hnumber
  · intro m n child other hchild hother hm hn hpid
    rw [hchildren] at hchild hother
    exact hinv.controls.apart m n child other hchild hother (hfewer m child hchild hm)
      (hfewer n other hother hn) hpid
  · intro number hnumber child hfound
    rw [hchildren] at hfound
    rcases hstops number _ hnumber with hbefore | ⟨found, hsame, hended⟩
    · exact hinv.stops number hbefore child hfound
    · rw [hsame] at hfound
      cases hfound
      exact hended rfl
  · intro number result hnumber
    rw [hchildren]
    rcases hstops number result hnumber with hbefore | ⟨found, hsame, -⟩
    · exact hinv.stopsIssued number result hbefore
    · exact (List.getElem?_eq_some_iff.mp hsame).1
  · intro number hnumber
    rw [hchildren] at hnumber
    rw [hcount]
    exact hinv.reports number hnumber
  · intro hdrop number child hfound
    rw [hchildren] at hfound
    exact hdropped hdrop number child hfound

theorem lookup_eq_some {runner : StdProcessRunner} {pid : UInt32} {number : Nat}
    (h : runner.lookup pid = some number) : (pid, number) ∈ runner.table := by
  obtain ⟨entry, hentry, rfl⟩ := Option.map_eq_some_iff.mp h
  have hpid : entry.1 = pid := by simpa using List.find?_some hentry
  rw [← hpid]
  exact List.mem_of_find?_eq_some hentry

theorem lookup_isSome {runner : StdProcessRunner} {pid : UInt32} {number : Nat}
    (h : (pid, number) ∈ runner.table) : runner.lookup pid ≠ none := by
  intro hnone
  rw [lookup, Option.map_eq_none_iff, List.find?_eq_none] at hnone
  exact hnone _ h (by simp)

theorem controls_of_idle {runner : StdProcessRunner} (h : runner.busy = false) :
    runner.caller = none ∧ runner.dropped = false ∧ controls runner = [] := by
  rw [busy, Bool.or_eq_false_iff] at h
  have hnone : runner.caller = none := by
    cases hcaller : runner.caller with
    | none => rfl
    | some call => simp [hcaller] at h
  exact ⟨hnone, h.2, by simp [controls, hnone]⟩

theorem stop_keeps {runner : StdProcessRunner} (hinv : RunnerInvariant runner)
    (hidle : runner.busy = false) (number : Nat) (childrenLock : Bool) :
    RunnerInvariant (runner.stop number childrenLock) := by
  obtain ⟨hnone, hlive, hcontrols⟩ := controls_of_idle hidle
  have hdropped : runner.dropped = true → ∀ (number : Nat) (child : Child),
      runner.children[number]? = some child → child.running = false := by
    intro hdrop
    rw [hlive] at hdrop
    cases hdrop
  simp only [stop]
  split
  · exact hinv
  · rename_i child hfound
    split
    · exact hinv
    · split
      · -- the lock fails and the table is left alone
        refine caller_invariant hinv rfl rfl (fun _ _ _ _ h => h) (fun _ _ _ h => h)
          (fun _ h => h) hinv.controls.controls hinv.caller ?_ hdropped
        intro other result hother
        rcases List.mem_cons.mp hother with hsame | hbefore
        · cases hsame
          exact .inr ⟨child, hfound, fun h => by cases h⟩
        · exact .inl hbefore
      · split
        · -- no entry: the child has ended
          rename_i hlookup
          have hended : child.running = false := by
            by_contra hrunning
            obtain ⟨-, -, hheld⟩ := held_of_running hinv hfound (by simpa using hrunning)
            rcases hheld with htable | hcontrol
            · exact lookup_isSome htable hlookup
            · rw [hcontrols] at hcontrol
              cases hcontrol
          refine caller_invariant hinv rfl rfl (fun _ _ _ _ h => h) (fun _ _ _ h => h)
            (fun _ h => h) hinv.controls.controls hinv.caller ?_ hdropped
          intro other result hother
          rcases List.mem_cons.mp hother with hsame | hbefore
          · cases hsame
            exact .inr ⟨child, hfound, fun _ => hended⟩
          · exact .inl hbefore
        · rename_i control hlookup
          have hentry := lookup_eq_some hlookup
          obtain ⟨owner, howner, hownerIssued, hownerPid⟩ := hinv.controls.table _ _ hentry
          have hownerHeld : Held runner control owner := .inl (hownerPid ▸ hentry)
          refine caller_invariant hinv rfl rfl ?_ ?_ ?_ ?_ ?_ (fun _ _ h => .inl h) hdropped
          · intro other otherChild hother _ hheld
            rcases hheld with htable | hcontrol
            · by_cases hpid : otherChild.handle.id = child.handle.id
              · have hsame : other = control := hinv.controls.apart other control otherChild owner
                  hother howner (.inl htable) hownerHeld (hpid.trans hownerPid.symm)
                exact .inr (by simp [RunnerTracking.controls, hsame])
              · exact .inl (List.mem_filter.mpr ⟨htable, by simpa using hpid⟩)
            · rw [hcontrols] at hcontrol
              cases hcontrol
          · intro other otherChild hother hheld
            rcases hheld with htable | hcontrol
            · exact .inl (List.mem_of_mem_filter htable)
            · have hsame : other = control := by
                simpa [RunnerTracking.controls] using hcontrol
              rw [hsame, howner] at hother
              cases hother
              exact hsame ▸ hownerHeld
          · intro entry hmem
            exact List.mem_of_mem_filter hmem
          · intro other hother
            have hsame : other = control := by
              simpa [RunnerTracking.controls] using hother
            exact ⟨owner, hsame ▸ howner, hownerIssued⟩
          · intro call hcall
            cases hcall
            refine ⟨control, child, rfl, hfound, ?_⟩
            by_cases hrunning : child.running = true
            · obtain ⟨-, -, hheld⟩ := held_of_running hinv hfound hrunning
              exact .inl (hinv.controls.apart control number owner child howner hfound hownerHeld
                hheld hownerPid)
            · exact .inr (by simpa using hrunning)

theorem drop_keeps {runner : StdProcessRunner} (hinv : RunnerInvariant runner)
    (hidle : runner.busy = false) : RunnerInvariant runner.drop := by
  obtain ⟨hnone, hlive, hcontrols⟩ := controls_of_idle hidle
  have hmem : ∀ number, number ∈ RunnerTracking.controls runner.drop ↔
      ∃ pid, (pid, number) ∈ runner.table := by
    intro number
    simp [RunnerTracking.controls, drop]
  refine caller_invariant hinv rfl rfl ?_ ?_ ?_ ?_ ?_ (fun _ _ h => .inl h) ?_
  · intro number child hfound _ hheld
    rcases hheld with htable | hcontrol
    · exact .inr ((hmem number).mpr ⟨_, htable⟩)
    · rw [hcontrols] at hcontrol
      cases hcontrol
  · intro number child hfound hheld
    rcases hheld with htable | hcontrol
    · cases htable
    · obtain ⟨pid, htable⟩ := (hmem number).mp hcontrol
      obtain ⟨found, hsame, -, hpid⟩ := hinv.controls.table pid number htable
      rw [hfound] at hsame
      cases hsame
      exact .inl (hpid ▸ htable)
  · intro entry hentry
    cases hentry
  · intro number hnumber
    obtain ⟨pid, htable⟩ := (hmem number).mp hnumber
    obtain ⟨found, hfound, hissued, -⟩ := hinv.controls.table pid number htable
    exact ⟨found, hfound, hissued⟩
  · intro call hcall
    cases hcall
    rfl
  · intro hdrop
    rw [show runner.drop.dropped = runner.dropped from rfl, hlive] at hdrop
    cases hdrop

/-- The control the caller is done with is one of a reaper that has returned. -/
theorem finishControl_keeps {runner : StdProcessRunner} (hinv : RunnerInvariant runner)
    {call : StopCall} (hcall : runner.caller = some call) {number : Nat} {rest : List Nat}
    (hcontrols : call.controls = number :: rest) {child : Child}
    (hfound : runner.children[number]? = some child) (hdone : child.reaper = .done)
    (hended : child.running = false) (result : Except ProcessError Unit) :
    RunnerInvariant (runner.finishControl call rest result) := by
  have hlist : RunnerTracking.controls runner = number :: rest := by
    simp [RunnerTracking.controls, hcall, hcontrols]
  have hcaller := hinv.caller call hcall
  have hnotHead : ∀ (other : Nat) (otherChild : Child),
      runner.children[other]? = some otherChild → otherChild.reaper ≠ .done → other ≠ number := by
    intro other otherChild hother hbusy hsame
    rw [hsame, hfound] at hother
    cases hother
    exact hbusy hdone
  unfold finishControl
  split
  · rename_i target htarget
    rw [htarget] at hcaller
    obtain ⟨head, targetChild, hhead, htargetChild, htargetEnded⟩ := hcaller
    rw [hcontrols] at hhead
    obtain ⟨rfl, rfl⟩ := List.cons.inj hhead
    refine caller_invariant hinv rfl rfl ?_ ?_ (fun _ h => h) ?_ ?_ ?_ hinv.dropped
    · intro other otherChild hother hbusy hheld
      rcases hheld with htable | hcontrol
      · exact .inl htable
      · rw [hlist, List.mem_singleton] at hcontrol
        exact absurd hcontrol (hnotHead other otherChild hother hbusy)
    · intro other otherChild _ hheld
      rcases hheld with htable | hcontrol
      · exact .inl htable
      · simp [RunnerTracking.controls] at hcontrol
    · intro other hother
      simp [RunnerTracking.controls] at hother
    · intro later hlater
      cases hlater
    · intro other answer hother
      rcases List.mem_cons.mp hother with hsame | hbefore
      · cases hsame
        refine .inr ⟨targetChild, htargetChild, ?_⟩
        intro _
        rcases htargetEnded with hsame | htargetEnded
        · rw [← hsame, hfound] at htargetChild
          cases htargetChild
          exact hended
        · exact htargetEnded
      · exact .inl hbefore
  · rename_i htarget
    rw [htarget] at hcaller
    refine caller_invariant hinv rfl rfl ?_ ?_ (fun _ h => h) ?_ ?_ (fun _ _ h => .inl h)
      hinv.dropped
    · intro other otherChild hother hbusy hheld
      rcases hheld with htable | hcontrol
      · exact .inl htable
      · rw [hlist, List.mem_cons] at hcontrol
        rcases hcontrol with hsame | hcontrol
        · exact absurd hsame (hnotHead other otherChild hother hbusy)
        · exact .inr hcontrol
    · intro other otherChild _ hheld
      rcases hheld with htable | hcontrol
      · exact .inl htable
      · refine .inr ?_
        rw [hlist]
        exact List.mem_cons_of_mem _ hcontrol
    · intro other hother
      refine hinv.controls.controls other ?_
      rw [hlist]
      exact List.mem_cons_of_mem _ hother
    · intro later hlater
      cases hlater
      exact hcaller

theorem requestStop_keeps {runner : StdProcessRunner} (hinv : RunnerInvariant runner)
    {call : StopCall} (hcall : runner.caller = some call) {number : Nat} {child : Child}
    (hfound : runner.children[number]? = some child) :
    RunnerInvariant { runner.setChild number { child with stopRequested := true } with
      caller := some { call with sent := true } } := by
  have hsame : RunnerTracking.controls
      { runner.setChild number { child with stopRequested := true } with
        caller := some { call with sent := true } } = RunnerTracking.controls runner := by
    simp [RunnerTracking.controls, hcall]
  have hheld : ∀ other otherChild, Held runner other otherChild →
      Held { runner.setChild number { child with stopRequested := true } with
        caller := some { call with sent := true } } other otherChild := by
    intro other otherChild hheld
    rcases hheld with htable | hcontrol
    · exact .inl htable
    · exact .inr (hsame ▸ hcontrol)
  have hstep : ChildStep runner { runner.setChild number { child with stopRequested := true } with
      caller := some { call with sent := true } } number child
      { child with stopRequested := true } := by
    refine ⟨hfound, rfl, rfl, rfl, id, fun _ h => h, hsame, ?_⟩
    intro other otherChild _ _
    exact ⟨hheld other otherChild, rfl⟩
  have hcaller := hstep.callerInvariant hinv.caller id (by
    intro later hlater
    cases hlater
    exact ⟨call, hcall, rfl, rfl⟩)
  refine hstep.invariant hinv ?_ hcaller rfl rfl fun _ _ => rfl
  exact childInvariant_congr (hinv.children number child hfound) (hheld number child) rfl

theorem callerStep_keeps {runner : StdProcessRunner} (hinv : RunnerInvariant runner) :
    RunnerInvariant runner.callerStep := by
  simp only [callerStep]
  split
  · exact hinv
  · rename_i call hcall
    have hcaller := hinv.caller call hcall
    split
    · -- the drop has served every control
      rename_i hcontrols
      have hempty : RunnerTracking.controls runner = [] := by
        simp [RunnerTracking.controls, hcall, hcontrols]
      cases htarget : call.target with
      | some target =>
        rw [htarget] at hcaller
        obtain ⟨head, child, hhead, -⟩ := hcaller
        rw [hcontrols] at hhead
        cases hhead
      | none =>
        rw [htarget] at hcaller
        have hnone : ∀ (number : Nat) (child : Child), ¬ Held runner number child := by
          intro number child hheld
          rcases hheld with htable | hcontrol
          · rw [hcaller] at htable
            cases htable
          · rw [hempty] at hcontrol
            cases hcontrol
        refine caller_invariant hinv rfl rfl ?_ ?_ (fun _ h => h) ?_ ?_ (fun _ _ h => .inl h) ?_
        · intro number child _ _ hheld
          exact absurd hheld (hnone number child)
        · intro number child _ hheld
          rcases hheld with htable | hcontrol
          · exact .inl htable
          · simp [RunnerTracking.controls] at hcontrol
        · intro number hnumber
          simp [RunnerTracking.controls] at hnumber
        · intro later hlater
          cases hlater
        · intro _ number child hfound
          by_contra hrunning
          obtain ⟨-, -, hheld⟩ := held_of_running hinv hfound (by simpa using hrunning)
          exact hnone number child hheld
    · rename_i number rest hcontrols
      split
      · exact hinv
      · rename_i child hfound
        have hissued : child.issued = true := by
          have hmem : number ∈ RunnerTracking.controls runner := by
            simp [RunnerTracking.controls, hcall, hcontrols]
          obtain ⟨found, hsame, hissued⟩ := hinv.controls.controls number hmem
          rw [hfound] at hsame
          cases hsame
          exact hissued
        have hbefore := hinv.children number child hfound
        simp only [ChildInvariant, hissued, if_true, ReaperInvariant] at hbefore
        split
        · rename_i result hreply
          cases hreaper : child.reaper with
          | polling => simp [hreaper, hreply] at hbefore
          | exited code => simp [hreaper, hreply] at hbefore
          | removed code => simp [hreaper, hreply] at hbefore
          | done =>
            rw [hreaper] at hbefore
            exact finishControl_keeps hinv hcall hcontrols hfound hreaper hbefore.1 result
        · split
          · rename_i hdone
            rw [hdone] at hbefore
            exact finishControl_keeps hinv hcall hcontrols hfound hdone hbefore.1 (.ok ())
          · split
            · exact hinv
            · exact requestStop_keeps hinv hcall hfound

/-- A spawn that creates a child while the caller is idle: the child is tracked under a pid
the table does not have, or it is left without a handle and has ended. -/
theorem append_keeps {runner after : StdProcessRunner} (hinv : RunnerInvariant runner)
    (hidle : runner.busy = false) {child : Child}
    (hchildren : after.children = runner.children ++ [child])
    (htable : ∀ entry, entry ∈ after.table ↔ entry ∈ runner.table ∨
      child.issued = true ∧ entry = (child.handle.id, runner.children.length))
    (hfresh : child.issued = true → runner.lookup child.handle.id = none)
    (hcaller : after.caller = runner.caller) (hreports : after.reports = runner.reports)
    (hreturns : after.stopReturns = runner.stopReturns) (hdropped : after.dropped = runner.dropped)
    (hnew : child.issued = true ∧ child.reaper = .polling ∧ child.stopped = false ∧
        child.reply = none ∨
      child.issued = false ∧ child.reaper = .done ∧ child.running = false) :
    RunnerInvariant after := by
  obtain ⟨hnone, hlive, hcontrols⟩ := controls_of_idle hidle
  have hcontrolsAfter : RunnerTracking.controls after = [] := by
    simp [RunnerTracking.controls, hcaller, hnone]
  have hcount : ∀ number, reportCount after number = reportCount runner number := by
    intro number
    rw [reportCount, reportCount, hreports]
  have hlookup : ∀ (number : Nat) (found : Child), after.children[number]? = some found →
      runner.children[number]? = some found ∨
        number = runner.children.length ∧ found = child := by
    intro number found hfound
    rw [hchildren] at hfound
    by_cases hlt : number < runner.children.length
    · rw [List.getElem?_append_left hlt] at hfound
      exact .inl hfound
    · rw [List.getElem?_append_right (by omega), List.getElem?_singleton] at hfound
      split at hfound
      · exact .inr ⟨by omega, (Option.some.inj hfound).symm⟩
      · cases hfound
  have hkept : ∀ (number : Nat) (found : Child), runner.children[number]? = some found →
      after.children[number]? = some found := by
    intro number found hfound
    rw [hchildren, List.getElem?_append_left (List.getElem?_eq_some_iff.mp hfound).1]
    exact hfound
  have hlast : after.children[runner.children.length]? = some child := by
    rw [hchildren, List.getElem?_concat_length]
  have hheldBefore : ∀ (number : Nat) (found : Child), runner.children[number]? = some found →
      Held after number found → Held runner number found := by
    intro number found hfound hheld
    rcases hheld with hentry | hcontrol
    · rcases (htable _).mp hentry with hentry | ⟨-, hentry⟩
      · exact .inl hentry
      · have hnumber := congrArg Prod.snd hentry
        have hlt := (List.getElem?_eq_some_iff.mp hfound).1
        simp only at hnumber
        omega
    · rw [hcontrolsAfter] at hcontrol
      cases hcontrol
  -- a child of the table under the new pid would have kept the pid from being used
  have hapartNew : ∀ (number : Nat) (found : Child), runner.children[number]? = some found →
      Held runner number found → child.issued = true → found.handle.id ≠ child.handle.id := by
    intro number found _ hheld hissued hpid
    rcases hheld with hentry | hcontrol
    · rw [hpid] at hentry
      exact lookup_isSome hentry (hfresh hissued)
    · rw [hcontrols] at hcontrol
      cases hcontrol
  have hnewIssued : ∀ found, Held after runner.children.length found → child.issued = true := by
    intro found hheld
    rcases hheld with hentry | hcontrol
    · rcases (htable _).mp hentry with hentry | ⟨hissued, -⟩
      · obtain ⟨other, hother, -⟩ := hinv.controls.table _ _ hentry
        have hlt := (List.getElem?_eq_some_iff.mp hother).1
        omega
      · exact hissued
    · rw [hcontrolsAfter] at hcontrol
      cases hcontrol
  refine ⟨?_, ⟨?_, ?_, ?_⟩, ?_, ?_, ?_, ?_, ?_⟩
  · intro number found hfound
    rcases hlookup number found hfound with hbefore | ⟨rfl, rfl⟩
    · refine childInvariant_congr (hinv.children number found hbefore) ?_ (hcount number)
      intro hheld
      rcases hheld with hentry | hcontrol
      · exact .inl ((htable _).mpr (.inl hentry))
      · rw [hcontrols] at hcontrol
        cases hcontrol
    · rcases hnew with ⟨hissued, hreaper, hstopped, hreply⟩ | ⟨hissued, hreaper, hended⟩
      · simp only [ChildInvariant, ReaperInvariant, hissued, hreaper, if_true]
        refine ⟨.inl ((htable _).mpr (.inr ⟨hissued, rfl⟩)), ?_, hstopped, hreply⟩
        rw [hcount]
        exact hinv.reports _ (Nat.le_refl _)
      · simp [ChildInvariant, hissued, hreaper, hended]
  · intro pid number hentry
    rcases (htable _).mp hentry with hentry | ⟨hissued, hentry⟩
    · obtain ⟨found, hfound, hrest⟩ := hinv.controls.table pid number hentry
      exact ⟨found, hkept number found hfound, hrest⟩
    · cases hentry
      exact ⟨child, hlast, hissued, rfl⟩
  · intro number hnumber
    rw [hcontrolsAfter] at hnumber
    cases hnumber
  · intro m n first second hfirst hsecond hheldFirst hheldSecond hpid
    rcases hlookup m first hfirst with hfirstBefore | ⟨rfl, rfl⟩
    · have hone := hheldBefore m first hfirstBefore hheldFirst
      rcases hlookup n second hsecond with hsecondBefore | ⟨rfl, rfl⟩
      · exact hinv.controls.apart m n first second hfirstBefore hsecondBefore hone
          (hheldBefore n second hsecondBefore hheldSecond) hpid
      · exact absurd hpid (hapartNew m first hfirstBefore hone (hnewIssued _ hheldSecond))
    · rcases hlookup n second hsecond with hsecondBefore | ⟨rfl, -⟩
      · have htwo := hheldBefore n second hsecondBefore hheldSecond
        exact absurd hpid.symm (hapartNew n second hsecondBefore htwo (hnewIssued _ hheldFirst))
      · rfl
  · intro call hcall
    rw [hcaller, hnone] at hcall
    cases hcall
  · intro number hnumber found hfound
    rw [hreturns] at hnumber
    rcases hlookup number found hfound with hbefore | ⟨rfl, -⟩
    · exact hinv.stops number hnumber found hbefore
    · have hlt := hinv.stopsIssued _ _ hnumber
      omega
  · intro number result hnumber
    rw [hreturns] at hnumber
    rw [hchildren, List.length_append]
    have hlt := hinv.stopsIssued number result hnumber
    omega
  · intro number hnumber
    rw [hchildren, List.length_append] at hnumber
    rw [hcount]
    exact hinv.reports number (by omega)
  · intro hdrop
    rw [hdropped, hlive] at hdrop
    cases hdrop

theorem abandon_keeps {runner : StdProcessRunner} (hinv : RunnerInvariant runner)
    (hidle : runner.busy = false) (handle : ProcessHandle) {running : Bool}
    (hended : running = false) : RunnerInvariant (runner.abandon handle running) := by
  refine append_keeps hinv hidle rfl ?_ ?_ rfl rfl rfl rfl (.inr ⟨rfl, rfl, hended⟩)
  · intro entry
    simp [abandon]
  · intro hissued
    cases hissued

theorem track_keeps {runner : StdProcessRunner} (hinv : RunnerInvariant runner)
    (hidle : runner.busy = false) {handle : ProcessHandle}
    (hfresh : runner.lookup handle.id = none) : RunnerInvariant (runner.track handle) := by
  refine append_keeps hinv hidle rfl ?_ (fun _ => hfresh) rfl rfl rfl rfl
    (.inl ⟨rfl, rfl, rfl, rfl⟩)
  have hnone : ∀ entry ∈ runner.table, entry.1 ≠ handle.id := by
    intro entry hentry hpid
    have hmem : (handle.id, entry.2) ∈ runner.table := by
      rw [← hpid]
      exact hentry
    exact lookup_isSome hmem hfresh
  intro entry
  simp only [track, List.mem_cons, List.mem_filter, true_and]
  constructor
  · rintro (hnew | ⟨hentry, -⟩)
    · exact .inr hnew
    · exact .inl hentry
  · rintro (hentry | hnew)
    · exact .inr ⟨hentry, by simpa using hnone entry hentry⟩
    · exact .inl hnew

theorem spawn_keeps {runner : StdProcessRunner} (hinv : RunnerInvariant runner)
    (hidle : runner.busy = false) {request : ProcessSpawn} {answers : SpawnAnswers}
    (hsound : SpawnSound runner request answers) :
    RunnerInvariant (runner.spawn request answers).2 := by
  unfold spawn
  split
  · exact hinv
  · rename_i hscripts
    split
    · exact hinv
    · rename_i pid hspawn
      obtain ⟨hfresh, hwrite, hpipe, hlocks⟩ := hsound hscripts pid hspawn
      dsimp only
      split
      · rename_i error herror
        refine abandon_keeps hinv hidle _ ?_
        cases hstdin : request.stdin.isSome with
        | false => simp [hstdin] at herror
        | true =>
          cases hhasPipe : answers.stdinPipe with
          | true =>
            have hok := hwrite hstdin hhasPipe
            simp [hstdin, writeChildStdin, hhasPipe, hok, Except.mapError] at herror
          | false =>
            have hstopped : (stopChild answers.stop true).2 = false :=
              stopChild_ended fun _ => hpipe hstdin hhasPipe
            simpa [writeChildStdin, hhasPipe] using hstopped
      · rename_i hok
        have hlocks := hlocks (by
          intro hstdin
          by_contra hhasPipe
          have hhasPipe : answers.stdinPipe = false := by simpa using hhasPipe
          simp only [hstdin, writeChildStdin, hhasPipe, if_true] at hok
          revert hok
          cases (stopChild answers.stop true).1 <;> simp)
        rw [if_pos hlocks.1, if_pos hlocks.2]
        exact track_keeps hinv hidle hfresh

theorem step_keeps (runner : StdProcessRunner) (input : RunnerInput)
    (hinv : RunnerInvariant runner) (hsound : SystemSound runner input) :
    RunnerInvariant (step runner input) := by
  cases input with
  | setExitHandler registered =>
    exact caller_invariant hinv rfl rfl (fun _ _ _ _ h => h) (fun _ _ _ h => h) (fun _ h => h)
      hinv.controls.controls hinv.caller (fun _ _ h => .inl h) hinv.dropped
  | spawn request answers =>
    simp only [step]
    split
    · exact hinv
    · rename_i hidle
      exact spawn_keeps hinv (by simpa using hidle) hsound
  | exits number code => exact exits_keeps hinv number code
  | reaper number answers => exact reaper_keeps hinv number answers hsound
  | stop number childrenLock =>
    simp only [step]
    split
    · exact hinv
    · rename_i hidle
      exact stop_keeps hinv (by simpa using hidle) number childrenLock
  | drop =>
    simp only [step]
    split
    · exact hinv
    · rename_i hidle
      exact drop_keeps hinv (by simpa using hidle)
  | caller => exact callerStep_keeps hinv

/-- What the runner owes its callers: no child of a failed spawn runs; a child whose stop has
returned with success has ended; a running child is in the table with its reaper at work, or
its stop is under way; the end of a child that the runner has not stopped is reported once, when
its reaper returns; and a dropped runner leaves no child. -/
structure Tracks (runner : StdProcessRunner) : Prop where
  failedSpawn : ∀ (number : Nat) (child : Child), runner.children[number]? = some child →
    child.issued = false → child.running = false
  stopped : ∀ (number : Nat) (child : Child), runner.children[number]? = some child →
    (number, .ok ()) ∈ runner.stopReturns → child.running = false
  tracked : ∀ (number : Nat) (child : Child), runner.children[number]? = some child →
    child.running = true → child.reaper = .polling ∧
      (runner.lookup child.handle.id = some number ∨ number ∈ controls runner)
  reported : ∀ (number : Nat) (child : Child), runner.children[number]? = some child →
    child.issued = true → child.handler = true → child.stopped = false →
      (child.reaper = .done → child.running = false) ∧
        reportCount runner number = if child.reaper = .done then 1 else 0
  dropped : runner.dropped = true → ∀ (number : Nat) (child : Child),
    runner.children[number]? = some child → child.running = false

theorem lookup_of_held {runner : StdProcessRunner} (h : ControlsInvariant runner) {number : Nat}
    {child : Child} (hfound : runner.children[number]? = some child)
    (hentry : (child.handle.id, number) ∈ runner.table) :
    runner.lookup child.handle.id = some number := by
  cases hlookup : runner.lookup child.handle.id with
  | none => exact absurd hlookup (lookup_isSome hentry)
  | some other =>
    have hother := lookup_eq_some hlookup
    obtain ⟨otherChild, hotherFound, -, hpid⟩ := h.table _ _ hother
    have hheld : Held runner other otherChild := by
      rw [← hpid] at hother
      exact .inl hother
    rw [h.apart other number otherChild child hotherFound hfound hheld (.inl hentry) hpid]

theorem tracks_of_invariant {runner : StdProcessRunner} (h : RunnerInvariant runner) :
    Tracks runner := by
  refine ⟨?_, ?_, ?_, ?_, h.dropped⟩
  · intro number child hfound hissued
    have hinv := h.children number child hfound
    simp only [ChildInvariant, hissued] at hinv
    exact hinv.2
  · intro number child hfound hreturn
    exact h.stops number hreturn child hfound
  · intro number child hfound hrunning
    obtain ⟨-, hreaper, hheld⟩ := held_of_running h hfound hrunning
    refine ⟨hreaper, ?_⟩
    rcases hheld with hentry | hcontrol
    · exact .inl (lookup_of_held h.controls hfound hentry)
    · exact .inr hcontrol
  · intro number child hfound hissued hhandler hstopped
    have hinv := h.children number child hfound
    simp only [ChildInvariant, ReaperInvariant, hissued, if_true] at hinv
    cases hreaper : child.reaper with
    | polling =>
      rw [hreaper] at hinv
      exact ⟨fun hdone => (by cases hdone), by simp [hinv.2.1]⟩
    | exited code =>
      rw [hreaper] at hinv
      exact ⟨fun hdone => (by cases hdone), by simp [hinv.2.1]⟩
    | removed code =>
      rw [hreaper] at hinv
      exact ⟨fun hdone => (by cases hdone), by simp [hinv.1]⟩
    | done =>
      rw [hreaper] at hinv
      refine ⟨fun _ => hinv.1, ?_⟩
      rw [hinv.2, hhandler, hstopped]
      rfl

theorem invariant_initially : RunnerInvariant {} := by
  refine ⟨?_, ⟨?_, ?_, ?_⟩, ?_, ?_, ?_, ?_, ?_⟩
  · intro number child hfound
    simp at hfound
  · intro pid number hentry
    cases hentry
  · intro number hnumber
    cases hnumber
  · intro m n child other hchild
    simp at hchild
  · intro call hcall
    cases hcall
  · intro number hnumber
    cases hnumber
  · intro number result hnumber
    cases hnumber
  · intro number _
    rfl
  · intro hdropped
    cases hdropped

theorem reaperStep_ended {runner : StdProcessRunner} {number : Nat} {child : Child}
    (hfound : runner.children[number]? = some child) (hreaper : child.reaper = .polling)
    (hended : child.running = false) (hrequested : child.stopRequested = false)
    (hheld : Held runner number child) (answers : WaitAnswers) :
    ∃ code, runner.reaperStep number answers =
      runner.setChild number { child with reaper := .exited code } := by
  simp only [reaperStep, hfound, hreaper, hrequested, connected_of_held hheld, hended,
    Bool.not_true, Bool.false_eq_true, if_false]
  split
  · exact ⟨none, rfl⟩
  · exact ⟨child.exitCode, rfl⟩

theorem reaperStep_exited {runner : StdProcessRunner} {number : Nat} {child : Child}
    {code : Option Int} (hfound : runner.children[number]? = some child)
    (hreaper : child.reaper = .exited code) (answers : WaitAnswers) :
    (runner.reaperStep number answers).children[number]? =
        some { child with reaper := .removed code } ∧
      reportCount (runner.reaperStep number answers) number = reportCount runner number := by
  have hlt := (List.getElem?_eq_some_iff.mp hfound).1
  simp only [reaperStep, hfound, hreaper]
  split
  · exact ⟨List.getElem?_set_self hlt, rfl⟩
  · exact ⟨List.getElem?_set_self hlt, rfl⟩

theorem reaperStep_removed {runner : StdProcessRunner} {number : Nat} {child : Child}
    {code : Option Int} (hfound : runner.children[number]? = some child)
    (hreaper : child.reaper = .removed code) (hhandler : child.handler = true)
    (answers : WaitAnswers) :
    reportCount (runner.reaperStep number answers) number = reportCount runner number + 1 := by
  have hcons := reportCount_cons runner number number ⟨child.handle.id, child.handle.role, code⟩
  rw [if_pos rfl] at hcons
  simp only [reaperStep, hfound, hreaper, hhandler, if_true]
  exact hcons

/-- Three steps of its reaper report a child that has ended and is not being stopped. -/
theorem reports_within_three {runner : StdProcessRunner} (h : RunnerInvariant runner)
    {number : Nat} {child : Child} (hfound : runner.children[number]? = some child)
    (hhandler : child.handler = true) (hended : child.running = false)
    (hreaper : child.reaper = .polling) (hrequested : child.stopRequested = false)
    (first second third : WaitAnswers) :
    reportCount (((runner.reaperStep number first).reaperStep number second).reaperStep number
      third) number = 1 := by
  have hissued : child.issued = true := by
    by_contra hnot
    have hbefore := h.children number child hfound
    simp [ChildInvariant, hnot, hreaper] at hbefore
  have hbefore := h.children number child hfound
  simp only [ChildInvariant, ReaperInvariant, hissued, hreaper, if_true] at hbefore
  obtain ⟨hheld, hcount, -, -⟩ := hbefore
  obtain ⟨code, hexited⟩ := reaperStep_ended hfound hreaper hended hrequested hheld first
  have hexitedChild :
      (runner.setChild number { child with reaper := .exited code }).children[number]? =
        some { child with reaper := .exited code } :=
    List.getElem?_set_self (List.getElem?_eq_some_iff.mp hfound).1
  obtain ⟨hremovedChild, hremovedCount⟩ := reaperStep_exited hexitedChild rfl second
  rw [hexited, reaperStep_removed hremovedChild rfl hhandler third, hremovedCount]
  exact congrArg (· + 1) hcount

/-- In every run in which the system keeps its part, the runner tracks its children, and each
child that has ended without a stop is reported once, at the latest by three more steps of its
reaper. -/
theorem runner_tracks (inputs : List RunnerInput)
    (h : InputRuns.Meets step SystemSound {} inputs) :
    let runner := inputs.foldl step {}
    Tracks runner ∧ ∀ (number : Nat) (child : Child), runner.children[number]? = some child →
      child.handler = true → child.running = false → child.reaper = .polling →
        child.stopRequested = false → ∀ first second third,
          reportCount (((runner.reaperStep number first).reaperStep number second).reaperStep number
            third) number = 1 := by
  have hinv : RunnerInvariant (inputs.foldl step {}) :=
    InputRuns.invariant_of_meets step step_keeps invariant_initially h
  refine ⟨tracks_of_invariant hinv, ?_⟩
  intro number child hfound hhandler hended hreaper hrequested first second third
  exact reports_within_three hinv hfound hhandler hended hreaper hrequested first second third

/-- A spawn, the end of its child, and a stop of it. -/
def spawnAndStop : List RunnerInput :=
  [.setExitHandler true, .spawn { role := .main, executable := "/bin/sing-box" } { spawn := .ok 7 },
    .exits 0 (some 1), .reaper 0 {}, .stop 0 true, .reaper 0 {}, .reaper 0 {}, .caller]

theorem runner_tracks_spawnAndStop : Tracks (spawnAndStop.foldl step {}) := by
  refine (runner_tracks spawnAndStop ⟨trivial, ?_, trivial, ?_, trivial, ?_, ?_,
    trivial, trivial⟩).1
  · intro _ pid _
    refine ⟨rfl, fun hstdin => ?_, fun hstdin => ?_, fun _ => ⟨rfl, rfl⟩⟩
    · cases hstdin
    · cases hstdin
  · intro child _ _ _
    exact ⟨rfl, fun _ => rfl⟩
  · intro child _ _ _
    exact ⟨rfl, fun _ => rfl⟩
  · intro child _ _ _
    exact ⟨rfl, fun _ => rfl⟩

/-- A child that does not read its stdin: the spawn fails and the child goes on. -/
theorem runner_tracks_counterexample :
    ¬ ∀ inputs : List RunnerInput, Tracks (inputs.foldl step {}) := by
  intro h
  have htracks := h [.spawn { role := .sysProxy, executable := "/bin/sh", stdin := some "secret" }
    { spawn := .ok 7, writeStdin := .error "broken pipe" }]
  have hended := htracks.failedSpawn 0 _ rfl rfl
  cases hended

end RunnerTracking
