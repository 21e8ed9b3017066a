import Mathlib
import VoyaVPN.TaskPool

/-! Questions that use something up: what is used in a run stays within what is allowed, where the
tasks of a pool have their shares of it, in whatever order they take their steps. -/
namespace TaskBudget

open TaskPool

section Tasks

variable {ω ε Q α β M : Type} {Answer : Q → Type} [AddCommMonoid M] (cost : Q → M)

/-- The task uses no more than its share, and what it ends with goes with what is left of that. -/
def Within (post : M → α → Prop) : M → Task ω ε Answer α → Prop
  | share, .done value => post share value
  | _, .fail _ => True
  | share, .write _ next => Within post share next
  | share, .ask question next =>
    ∃ left, share = cost question + left ∧ ∀ answer, Within post left (next answer)
  | share, .check next => ∀ flag, Within post share (next flag)

/-- Whatever the task is answered, it asks for nothing that is not allowed after what was used
before, and what it ends with goes with what is used then. -/
def Allows (allowed : M → Prop) (post : M → α → Prop) : M → Task ω ε Answer α → Prop
  | used, .done value => post used value
  | _, .fail _ => True
  | used, .write _ next => Allows allowed post used next
  | used, .ask question next => allowed (used + cost question) ∧
    ∀ answer, Allows allowed post (used + cost question) (next answer)
  | used, .check next => ∀ flag, Allows allowed post used (next flag)

def spent : Label ω Answer → M
  | .wrote _ => 0
  | .refused _ => 0
  | .answered question _ => cost question
  | .cancelled => 0
  | .quiet => 0

variable {cost} {allowed : M → Prop} {post : M → α → Prop} {task : Task ω ε Answer α}
variable {share used : M}

theorem Within.mono {weaker : M → α → Prop} (h : Within cost post share task)
    (hpost : ∀ left value, post left value → weaker left value) :
    Within cost weaker share task := by
  induction task generalizing share with
  | done value => exact hpost share value h
  | fail error => trivial
  | write value next ih => exact ih h
  | ask question next ih =>
    obtain ⟨left, hshare, hnext⟩ := h
    exact ⟨left, hshare, fun answer => ih answer (hnext answer)⟩
  | check next ih => exact fun flag => ih flag (h flag)

theorem Within.bind {last : M → β → Prop} {rest : α → Task ω ε Answer β}
    (h : Within cost (fun left value => Within cost last left (rest value)) share task) :
    Within cost last share (task.bind rest) := by
  induction task generalizing share with
  | done value => exact h
  | fail error => trivial
  | write value next ih => exact ih h
  | ask question next ih =>
    obtain ⟨left, hshare, hnext⟩ := h
    exact ⟨left, hshare, fun answer => ih answer (hnext answer)⟩
  | check next ih => exact fun flag => ih flag (h flag)

theorem Within.bind_same {last : M → β → Prop} {rest : α → Task ω ε Answer β}
    (h : Within cost (fun left _ => left = share) share task)
    (hrest : ∀ value, Within cost last share (rest value)) :
    Within cost last share (task.bind rest) := by
  apply Within.bind
  apply h.mono
  intro left value hleft
  rw [hleft]
  exact hrest value

theorem Within.add (extra : M) (h : Within cost post share task) :
    Within cost (fun left value => ∃ own, left = own + extra ∧ post own value) (share + extra)
      task := by
  induction task generalizing share with
  | done value => exact ⟨share, rfl, h⟩
  | fail error => trivial
  | write value next ih => exact ih h
  | ask question next ih =>
    obtain ⟨left, hshare, hnext⟩ := h
    refine ⟨left + extra, ?_, fun answer => ih answer (hnext answer)⟩
    rw [hshare, add_assoc]
  | check next ih => exact fun flag => ih flag (h flag)

theorem Allows.mono {weaker : M → α → Prop} (h : Allows cost allowed post used task)
    (hpost : ∀ after value, post after value → weaker after value) :
    Allows cost allowed weaker used task := by
  induction task generalizing used with
  | done value => exact hpost used value h
  | fail error => trivial
  | write value next ih => exact ih h
  | ask question next ih => exact ⟨h.1, fun answer => ih answer (h.2 answer)⟩
  | check next ih => exact fun flag => ih flag (h flag)

theorem Allows.bind {last : M → β → Prop} {rest : α → Task ω ε Answer β}
    (h : Allows cost allowed (fun after value => Allows cost allowed last after (rest value)) used
      task) : Allows cost allowed last used (task.bind rest) := by
  induction task generalizing used with
  | done value => exact h
  | fail error => trivial
  | write value next ih => exact ih h
  | ask question next ih => exact ⟨h.1, fun answer => ih answer (h.2 answer)⟩
  | check next ih => exact fun flag => ih flag (h flag)

theorem Within.allows (hless : ∀ first second, allowed (first + second) → allowed first)
    (h : Within cost post share task) (hshare : allowed (used + share)) :
    Allows cost allowed (fun after value => ∃ left, allowed (after + left) ∧ post left value) used
      task := by
  induction task generalizing share used with
  | done value => exact ⟨share, hshare, h⟩
  | fail error => trivial
  | write value next ih => exact ih h hshare
  | ask question next ih =>
    obtain ⟨left, rfl, hnext⟩ := h
    rw [← add_assoc] at hshare
    exact ⟨hless _ left hshare, fun answer => ih answer (hnext answer) hshare⟩
  | check next ih => exact fun flag => ih flag (h flag) hshare

variable {flag : Bool} {label : Label ω Answer} {next : Task ω ε Answer α}

theorem Within.advance (h : Within cost post share task) (hstep : Advance flag task label next) :
    ∃ left, share = spent cost label + left ∧ Within cost post left next := by
  cases hstep with
  | write value => exact ⟨share, (zero_add share).symm, h⟩
  | refuse value next error => exact ⟨share, (zero_add share).symm, trivial⟩
  | answer question next given =>
    obtain ⟨left, hshare, hnext⟩ := h
    exact ⟨left, hshare, hnext given⟩
  | check next => exact ⟨share, (zero_add share).symm, h flag⟩

theorem Allows.advance (h : Allows cost allowed post used task) (hused : allowed used)
    (hstep : Advance flag task label next) :
    allowed (used + spent cost label) ∧
      Allows cost allowed post (used + spent cost label) next := by
  have hnothing : used + 0 = used := add_zero used
  cases hstep with
  | write value =>
    rw [spent, hnothing]
    exact ⟨hused, h⟩
  | refuse value next error =>
    rw [spent, hnothing]
    exact ⟨hused, trivial⟩
  | answer question next given => exact ⟨h.1, h.2 given⟩
  | check next =>
    rw [spent, hnothing]
    exact ⟨hused, h flag⟩

end Tasks

section Runs

variable {ω ε Q ρ M : Type} {Answer : Q → Type} [AddCommMonoid M] (cost : Q → M)

/-- The tasks have their shares of a total. -/
def Together (holds : M → Task ω ε Answer (List ρ) → Prop) :
    List (Task ω ε Answer (List ρ)) → M → Prop
  | [], total => total = 0
  | task :: tasks, total =>
    ∃ share left, total = share + left ∧ holds share task ∧ Together holds tasks left

/-- A task that uses no more than its share. -/
def Spares (share : M) (task : Task ω ε Answer (List ρ)) : Prop :=
  Within cost (fun _ _ => True) share task

variable (allowed : M → Prop)

/-- What the tasks of a plan will use is allowed on top of what was used before. -/
def Launches (used : M) (plan : Plan ω ε Answer ρ) : Prop :=
  ∃ total, allowed (used + total) ∧ Together (Spares cost) plan.tasks total

/-- What was used is allowed, and what the tasks will still use. -/
def Held (state : State ω ε Answer ρ) (used : M) : Prop :=
  allowed used ∧ match state.stage with
  | .main task => Allows cost allowed (Launches cost allowed) used task
  | .pool pool => ∃ waiting going, allowed (used + (waiting + going)) ∧
    Together (Spares cost) pool.queue waiting ∧ Together (Spares cost) pool.running going
  | .finished _ => True

inductive Spends (first : State ω ε Answer ρ) : State ω ε Answer ρ → M → Prop where
  | refl : Spends first first 0
  | tail {middle last : State ω ε Answer ρ} {label : Label ω Answer} {used : M}
    (h : Spends first middle used) (hstep : Step middle label last) :
    Spends first last (used + spent cost label)

variable {cost} {allowed} {used : M}

theorem together_append {holds : M → Task ω ε Answer (List ρ) → Prop}
    {first second : List (Task ω ε Answer (List ρ))} {total : M} :
    Together holds (first ++ second) total ↔
      ∃ before after, total = before + after ∧ Together holds first before ∧
        Together holds second after := by
  induction first generalizing total with
  | nil =>
    constructor
    · intro h
      exact ⟨0, total, (zero_add total).symm, rfl, h⟩
    · rintro ⟨before, after, rfl, rfl, h⟩
      rw [zero_add]
      exact h
  | cons task first ih =>
    constructor
    · rintro ⟨share, left, rfl, hshare, hleft⟩
      obtain ⟨before, after, rfl, hbefore, hafter⟩ := ih.mp hleft
      exact ⟨share + before, after, (add_assoc _ _ _).symm, ⟨share, before, rfl, hshare, hbefore⟩,
        hafter⟩
    · rintro ⟨before, after, rfl, ⟨share, left, rfl, hshare, hleft⟩, hafter⟩
      exact ⟨share, left + after, add_assoc _ _ _, hshare, ih.mpr ⟨left, after, rfl, hleft, hafter⟩⟩

theorem Held.turn (hless : ∀ first second : M, allowed (first + second) → allowed first)
    {flag : Bool} {log : List ω} {pool : Pool ω ε Answer ρ} {stage : Stage ω ε Answer ρ}
    (h : Held cost allowed ⟨flag, log, .pool pool⟩ used) (hturn : Turn flag pool stage) :
    Held cost allowed ⟨flag, log, stage⟩ used := by
  obtain ⟨hused, waiting, going, hallowed, hqueued, hgoing⟩ := h
  refine ⟨hused, ?_⟩
  cases hturn with
  | push task rest hfilling hfree hqueue hflag =>
    rw [hqueue] at hqueued
    obtain ⟨share, left, rfl, hshare, hleft⟩ := hqueued
    refine ⟨left, going + share, ?_, hleft, together_append.mpr ⟨going, share, rfl, hgoing, ?_⟩⟩
    · have hmoved : left + (going + share) = share + left + going := by abel
      rw [hmoved]
      exact hallowed
    · exact ⟨share, 0, (add_zero share).symm, hshare, rfl⟩
  | skip task rest hfilling hfree hqueue hflag =>
    rw [hqueue] at hqueued
    obtain ⟨share, left, rfl, _, hleft⟩ := hqueued
    refine ⟨left, going, hless _ share ?_, hleft, hgoing⟩
    have hmoved : used + (left + going) + share = used + (share + left + going) := by abel
    rw [hmoved]
    exact hallowed
  | full hfilling hfull => exact ⟨waiting, going, hallowed, hqueued, hgoing⟩
  | collect before after results hfilling hrunning =>
    rw [hrunning] at hgoing
    obtain ⟨first, second, rfl, hfirst, share, left, rfl, _, hleft⟩ := together_append.mp hgoing
    refine ⟨waiting, first + left, hless _ share ?_, hqueued,
      together_append.mpr ⟨first, left, rfl, hfirst, hleft⟩⟩
    have hmoved : used + (waiting + (first + left)) + share =
        used + (waiting + (first + (share + left))) := by abel
    rw [hmoved]
    exact hallowed
  | fail before after error hfilling hrunning => trivial
  | finish hfilling hrunning => trivial

theorem Held.step (hless : ∀ first second : M, allowed (first + second) → allowed first)
    {state next : State ω ε Answer ρ} {label : Label ω Answer}
    (h : Held cost allowed state used) (hstep : Step state label next) :
    Held cost allowed next (used + spent cost label) := by
  have hnothing : used + 0 = used := add_zero used
  cases hstep with
  | cancel =>
    rw [spent, hnothing]
    exact h
  | main flag log hadvance => exact Allows.advance h.2 h.1 hadvance
  | stop flag log error =>
    rw [spent, hnothing]
    exact ⟨h.1, trivial⟩
  | launch flag log plan =>
    obtain ⟨hused, total, htotal, htasks⟩ := h
    rw [spent, hnothing]
    refine ⟨hused, total, 0, ?_, htasks, rfl⟩
    rw [add_zero]
    exact htotal
  | turn flag log hturn =>
    rw [spent, hnothing]
    exact Held.turn hless h hturn
  | work flag log pool before after hfilling hrunning hadvance =>
    obtain ⟨_, waiting, going, hallowed, hqueued, hgoing⟩ := h
    rw [hrunning] at hgoing
    obtain ⟨first, second, rfl, hfirst, share, left, rfl, hshare, hleft⟩ :=
      together_append.mp hgoing
    obtain ⟨kept, rfl, hkept⟩ := Within.advance hshare hadvance
    have hmoved : used + (waiting + (first + (spent cost label + kept + left))) =
        used + spent cost label + (waiting + (first + (kept + left))) := by abel
    rw [hmoved] at hallowed
    exact ⟨hless _ _ hallowed, waiting, first + (kept + left), hallowed, hqueued,
      together_append.mpr ⟨first, kept + left, rfl, hfirst, kept, left, rfl, hkept, hleft⟩⟩

theorem allowed_of_run (hless : ∀ first second : M, allowed (first + second) → allowed first)
    (hnone : allowed 0) {task : Task ω ε Answer (Plan ω ε Answer ρ)}
    (h : Allows cost allowed (Launches cost allowed) 0 task) {state : State ω ε Answer ρ}
    (hrun : Spends cost (start task) state used) : allowed used := by
  have hheld : Held cost allowed state used := by
    induction hrun with
    | refl => exact ⟨hnone, h⟩
    | tail _ hstep ih => exact ih.step hless hstep
  exact hheld.1

end Runs

end TaskBudget
