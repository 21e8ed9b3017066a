import Mathlib.Data.List.Basic

/-! Shell scripts: commands with an exit status, the lists, conditions, loops and functions made of
them, and the calls of programs that a run makes. -/
namespace ShellProgram

abbrev Invocation := List String

structure Scope where
  vars : String → String
  arguments : List String

def Scope.set (scope : Scope) (name value : String) : Scope :=
  { scope with vars := fun other => if other = name then value else scope.vars other }

/-- `status` is that of the last command, `calls` are the programs that were called so far. -/
structure State where
  scope : Scope
  status : Nat
  calls : List Invocation

def State.within (state : State) (scope : Scope) : State := { state with scope }

@[simp] theorem State.within_calls (state : State) (scope : Scope) :
    (state.within scope).calls = state.calls := rfl

@[simp] theorem State.within_status (state : State) (scope : Scope) :
    (state.within scope).status = state.status := rfl

inductive Outcome where
  | next
  | continued
  | returned
  | exited
  deriving DecidableEq, Repr

/-- `builtin` stands for tests, assignments and what else the shell does itself, `each` for the
loops over words and lines. -/
inductive Command where
  | call (words : Scope → Invocation)
  | builtin (status : Scope → Nat) (effect : Scope → Scope)
  | leave (outcome : Outcome) (status : Nat → Nat)
  | seq (first second : Command)
  | negate (command : Command)
  | ifElse (condition whole otherwise : Command)
  | andThen (first second : Command)
  | orElse (first second : Command)
  | each (name : String) (items : Scope → List String) (body : Command)
  | inFunction (body : Command)
  | inSubshell (body : Command)

section Runs

-- the status that the calls of a run end with, in order
variable (answers : Nat → Nat)

def loop (body : State → Outcome × State) (name : String) : List String → State → Outcome × State
  | [], state => (.next, state)
  | item :: items, state =>
    match body { state with scope := state.scope.set name item } with
    | (.next, after) | (.continued, after) => loop body name items after
    | early => early

def exec : Command → State → Outcome × State
  | .call words, state =>
    (.next, { state with
      status := answers state.calls.length
      calls := state.calls ++ [words state.scope] })
  | .builtin status effect, state =>
    (.next, { state with scope := effect state.scope, status := status state.scope })
  | .leave outcome status, state => (outcome, { state with status := status state.status })
  | .seq first second, state =>
    match exec first state with
    | (.next, after) => exec second after
    | early => early
  | .negate command, state =>
    match exec command state with
    | (.next, after) => (.next, { after with status := if after.status = 0 then 1 else 0 })
    | early => early
  | .ifElse condition whole otherwise, state =>
    match exec condition state with
    | (.next, after) => if after.status = 0 then exec whole after else exec otherwise after
    | early => early
  | .andThen first second, state =>
    match exec first state with
    | (.next, after) => if after.status = 0 then exec second after else (.next, after)
    | early => early
  | .orElse first second, state =>
    match exec first state with
    | (.next, after) => if after.status = 0 then (.next, after) else exec second after
    | early => early
  | .each name items body, state =>
    if items state.scope = [] then (.next, { state with status := 0 })
    else loop (fun state => exec body state) name (items state.scope) state
  | .inFunction body, state =>
    match exec body state with
    | (.returned, after) => (.next, after)
    | other => other
  | .inSubshell body, state =>
    (.next, (exec body state).2.within state.scope)

def run (script : Command) (arguments : List String) : State :=
  (exec answers script { scope := { vars := fun _ => "", arguments }, status := 0, calls := [] }).2

end Runs

section Steps

variable {answers : Nat → Nat} {state after : State} {first second command : Command}

theorem exec_seq (h : exec answers first state = (.next, after)) :
    exec answers (.seq first second) state = exec answers second after := by
  rw [exec, h]

theorem exec_ifElse_true (h : exec answers first state = (.next, after))
    (hstatus : after.status = 0) :
    exec answers (.ifElse first second command) state = exec answers second after := by
  rw [exec, h]
  exact if_pos hstatus

theorem exec_ifElse_false (h : exec answers first state = (.next, after))
    (hstatus : after.status ≠ 0) :
    exec answers (.ifElse first second command) state = exec answers command after := by
  rw [exec, h]
  exact if_neg hstatus

theorem exec_inFunction {outcome : Outcome} (h : exec answers command state = (outcome, after))
    (houtcome : outcome = .next ∨ outcome = .returned) :
    exec answers (.inFunction command) state = (.next, after) := by
  rw [exec, h]
  rcases houtcome with rfl | rfl <;> rfl

end Steps

section Calls

variable {answers : Nat → Nat} {before middle after : State} {name : String}
variable {made first second : List Invocation}

theorem Scope.set_set (scope : Scope) (name first second : String) :
    (scope.set name first).set name second = scope.set name second := by
  simp only [Scope.set]
  congr 1
  funext other
  by_cases hother : other = name
  · rw [if_pos hother, if_pos hother]
  · rw [if_neg hother, if_neg hother, if_neg hother]

/-- These are the calls made from one state to the other, and the status is that of the last. -/
structure Makes (answers : Nat → Nat) (made : List Invocation) (before after : State) : Prop where
  calls : after.calls = before.calls ++ made
  status : made ≠ [] → after.status = answers (after.calls.length - 1)

theorem Makes.trans (h : Makes answers first before middle) (k : Makes answers second middle after)
    (hsecond : second ≠ []) : Makes answers (first ++ second) before after where
  calls := by rw [k.calls, h.calls, List.append_assoc]
  status := fun _ => k.status hsecond

def block : List (Scope → Invocation) → Command
  | [] => .builtin (fun _ => 0) id
  | [words] => .call words
  | words :: next :: more => .seq (.call words) (block (next :: more))

theorem exec_block (answers : Nat → Nat) (before : State) (words : Scope → Invocation)
    (more : List (Scope → Invocation)) :
    ∃ after, exec answers (block (words :: more)) before = (.next, after) ∧
      after.scope = before.scope ∧
      Makes answers ((words :: more).map (· before.scope)) before after := by
  induction more generalizing words before with
  | nil =>
    refine ⟨_, rfl, rfl, rfl, fun _ => ?_⟩
    change answers before.calls.length = answers ((before.calls ++ [words before.scope]).length - 1)
    rw [List.length_append]
    rfl
  | cons next more ih =>
    let middle : State := { before with
      status := answers before.calls.length
      calls := before.calls ++ [words before.scope] }
    obtain ⟨after, hexec, hscope, hmakes⟩ := ih middle next
    have hcall : exec answers (.call words) before = (.next, middle) := rfl
    refine ⟨after, (exec_seq hcall).trans hexec, hscope, ?_,
      fun _ => hmakes.status (List.cons_ne_nil _ _)⟩
    rw [hmakes.calls]
    exact List.append_assoc _ _ _

def SameBut (name : String) (first second : Scope) : Prop :=
  ∀ value, first.set name value = second.set name value

theorem SameBut.vars {first second : Scope} (h : SameBut name first second) {other : String}
    (hother : other ≠ name) : first.vars other = second.vars other := by
  have hvars := congrArg (fun scope => scope.vars other) (h "")
  simpa [Scope.set, hother] using hvars

/-- What one round of a loop does: it makes the calls for its item and goes on to the next. -/
def Round (answers : Nat → Nat) (valid : Scope → Prop) (body : State → Outcome × State)
    (made : Scope → List Invocation) : Prop :=
  ∀ before : State, valid before.scope → ∃ outcome after, body before = (outcome, after) ∧
    (outcome = .next ∨ outcome = .continued) ∧ after.scope = before.scope ∧
    Makes answers (made before.scope) before after

variable {valid : Scope → Prop} {body : State → Outcome × State} {calls : Scope → List Invocation}

theorem loop_cons {outcome : Outcome} {item : String} {items : List String}
    (h : body { before with scope := before.scope.set name item } = (outcome, after))
    (houtcome : outcome = .next ∨ outcome = .continued) :
    loop body name (item :: items) before = loop body name items after := by
  rw [loop, h]
  rcases houtcome with rfl | rfl <;> rfl

theorem loop_makes (name : String) (hround : Round answers valid body calls)
    (hset : ∀ scope value, valid scope → valid (scope.set name value)) (before : State)
    (hvalid : valid before.scope) (items : List String) (last : String)
    (hlast : calls (before.scope.set name last) ≠ []) :
    ∃ after, loop body name (items ++ [last]) before = (.next, after) ∧
      SameBut name after.scope before.scope ∧
      Makes answers ((items ++ [last]).flatMap fun item => calls (before.scope.set name item))
        before after := by
  induction items generalizing before with
  | nil =>
    obtain ⟨outcome, after, hbody, houtcome, hscope, hmakes⟩ :=
      hround { before with scope := before.scope.set name last } (hset _ _ hvalid)
    refine ⟨after, loop_cons hbody houtcome, fun value => ?_, ?_⟩
    · rw [hscope, Scope.set_set]
    · rw [List.nil_append, List.flatMap_singleton]
      exact ⟨hmakes.calls, hmakes.status⟩
  | cons item items ih =>
    obtain ⟨outcome, middle, hbody, houtcome, hscope, hmakes⟩ :=
      hround { before with scope := before.scope.set name item } (hset _ _ hvalid)
    have hagain : ∀ value, middle.scope.set name value = before.scope.set name value := by
      intro value
      rw [hscope, Scope.set_set]
    obtain ⟨after, hloop, hsame, hrest⟩ := ih middle (by
      rw [hscope]
      exact hset _ _ hvalid) (by rwa [hagain])
    refine ⟨after, (loop_cons hbody houtcome).trans hloop,
      fun value => (hsame value).trans (hagain value), ?_⟩
    have hcalls : ((items ++ [last]).flatMap fun other => calls (middle.scope.set name other)) =
        (items ++ [last]).flatMap fun other => calls (before.scope.set name other) :=
      List.flatMap_congr fun other _ => congrArg calls (hagain other)
    rw [hcalls] at hrest
    have hne :
        ((items ++ [last]).flatMap fun other => calls (before.scope.set name other)) ≠ [] := by
      rw [List.flatMap_append, List.flatMap_singleton]
      exact List.append_ne_nil_of_right_ne_nil _ hlast
    have hfirst : Makes answers (calls (before.scope.set name item)) before middle :=
      ⟨hmakes.calls, hmakes.status⟩
    exact hfirst.trans hrest hne

theorem loop_keeps (kept : State → Prop)
    (hset : ∀ state value, kept state → kept { state with scope := state.scope.set name value })
    (hbody : ∀ state, kept state → kept (body state).2) (items : List String) (before : State)
    (hbefore : kept before) : kept (loop body name items before).2 := by
  induction items generalizing before with
  | nil => exact hbefore
  | cons item items ih =>
    have hafter := hbody _ (hset before item hbefore)
    rw [loop]
    split
    · rename_i after hstep
      rw [hstep] at hafter
      exact ih after hafter
    · rename_i after hstep
      rw [hstep] at hafter
      exact ih after hafter
    · exact hafter

end Calls

end ShellProgram
