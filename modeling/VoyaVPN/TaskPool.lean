import Mathlib.Data.List.Basic

/-! Tasks that write to a store, ask their surroundings and look at a flag, and a pool in which a
bounded number of them is under way at a time: one task plans the others, which take turns in any
order until all are collected or one fails. -/
namespace TaskPool

section Tasks

inductive Task (ω ε : Type) {Q : Type} (Answer : Q → Type) (α : Type) where
  | done (value : α)
  | fail (error : ε)
  | write (value : ω) (next : Task ω ε Answer α)
  | ask (question : Q) (next : Answer question → Task ω ε Answer α)
  | check (next : Bool → Task ω ε Answer α)

variable {ω ε Q α β : Type} {Answer : Q → Type}

def Task.bind : Task ω ε Answer α → (α → Task ω ε Answer β) → Task ω ε Answer β
  | .done value, rest => rest value
  | .fail error, _ => .fail error
  | .write value next, rest => .write value (next.bind rest)
  | .ask question next, rest => .ask question fun answer => (next answer).bind rest
  | .check next, rest => .check fun flag => (next flag).bind rest

/-- What a task does in one step. -/
inductive Label (ω : Type) {Q : Type} (Answer : Q → Type) where
  | wrote (value : ω)
  | refused (value : ω)
  | answered (question : Q) (answer : Answer question)
  | cancelled
  | quiet

/-- A write may be refused, and every answer may be given. -/
inductive Advance (flag : Bool) : Task ω ε Answer α → Label ω Answer → Task ω ε Answer α →
    Prop where
  | write (value : ω) (next : Task ω ε Answer α) :
    Advance flag (.write value next) (.wrote value) next
  | refuse (value : ω) (next : Task ω ε Answer α) (error : ε) :
    Advance flag (.write value next) (.refused value) (.fail error)
  | answer (question : Q) (next : Answer question → Task ω ε Answer α) (given : Answer question) :
    Advance flag (.ask question next) (.answered question given) (next given)
  | check (next : Bool → Task ω ε Answer α) : Advance flag (.check next) .quiet (next flag)

def Label.logged (log : List ω) : Label ω Answer → List ω
  | .wrote value => value :: log
  | _ => log

end Tasks

section Pools

variable {ω ε Q ρ : Type} {Answer : Q → Type}

/-- The tasks to run, how many at a time, and the results that are there already. -/
structure Plan (ω ε : Type) {Q : Type} (Answer : Q → Type) (ρ : Type) where
  results : List ρ
  tasks : List (Task ω ε Answer (List ρ))
  limit : Nat

/-- A pool is filled after each task that is collected. -/
structure Pool (ω ε : Type) {Q : Type} (Answer : Q → Type) (ρ : Type) where
  queue : List (Task ω ε Answer (List ρ))
  running : List (Task ω ε Answer (List ρ))
  limit : Nat
  filling : Bool
  results : List ρ

inductive Stage (ω ε : Type) {Q : Type} (Answer : Q → Type) (ρ : Type) where
  | main (task : Task ω ε Answer (Plan ω ε Answer ρ))
  | pool (pool : Pool ω ε Answer ρ)
  | finished (result : Except ε (List ρ))

/-- The newest write stands first in `log`. -/
structure State (ω ε : Type) {Q : Type} (Answer : Q → Type) (ρ : Type) where
  cancelled : Bool
  log : List ω
  stage : Stage ω ε Answer ρ

def Plan.pool (plan : Plan ω ε Answer ρ) : Pool ω ε Answer ρ :=
  { queue := plan.tasks
    running := []
    limit := plan.limit
    filling := true
    results := plan.results }

/-- What the pool does by itself: it takes tasks from the queue and collects those that are done. -/
inductive Turn (flag : Bool) : Pool ω ε Answer ρ → Stage ω ε Answer ρ → Prop where
  | push (pool : Pool ω ε Answer ρ) (task : Task ω ε Answer (List ρ))
    (rest : List (Task ω ε Answer (List ρ))) (hfilling : pool.filling = true)
    (hfree : pool.running.length < pool.limit) (hqueue : pool.queue = task :: rest)
    (hflag : flag = false) :
    Turn flag pool (.pool { pool with queue := rest, running := pool.running ++ [task] })
  | skip (pool : Pool ω ε Answer ρ) (task : Task ω ε Answer (List ρ))
    (rest : List (Task ω ε Answer (List ρ))) (hfilling : pool.filling = true)
    (hfree : pool.running.length < pool.limit) (hqueue : pool.queue = task :: rest)
    (hflag : flag = true) :
    Turn flag pool (.pool { pool with queue := rest, filling := false })
  | full (pool : Pool ω ε Answer ρ) (hfilling : pool.filling = true)
    (hfull : pool.limit ≤ pool.running.length ∨ pool.queue = []) :
    Turn flag pool (.pool { pool with filling := false })
  | collect (pool : Pool ω ε Answer ρ) (before after : List (Task ω ε Answer (List ρ)))
    (results : List ρ) (hfilling : pool.filling = false)
    (hrunning : pool.running = before ++ .done results :: after) :
    Turn flag pool (.pool { pool with
      running := before ++ after, filling := true, results := pool.results ++ results })
  | fail (pool : Pool ω ε Answer ρ) (before after : List (Task ω ε Answer (List ρ))) (error : ε)
    (hfilling : pool.filling = false) (hrunning : pool.running = before ++ .fail error :: after) :
    Turn flag pool (.finished (.error error))
  | finish (pool : Pool ω ε Answer ρ) (hfilling : pool.filling = false)
    (hrunning : pool.running = []) : Turn flag pool (.finished (.ok pool.results))

/-- The flag may be set at any time. -/
inductive Step : State ω ε Answer ρ → Label ω Answer → State ω ε Answer ρ → Prop where
  | cancel (state : State ω ε Answer ρ) : Step state .cancelled { state with cancelled := true }
  | main (flag : Bool) (log : List ω) {task next : Task ω ε Answer (Plan ω ε Answer ρ)}
    {label : Label ω Answer} (h : Advance flag task label next) :
    Step ⟨flag, log, .main task⟩ label ⟨flag, label.logged log, .main next⟩
  | stop (flag : Bool) (log : List ω) (error : ε) :
    Step ⟨flag, log, .main (.fail error)⟩ .quiet ⟨flag, log, .finished (.error error)⟩
  | launch (flag : Bool) (log : List ω) (plan : Plan ω ε Answer ρ) :
    Step ⟨flag, log, .main (.done plan)⟩ .quiet ⟨flag, log, .pool plan.pool⟩
  | turn (flag : Bool) (log : List ω) {pool : Pool ω ε Answer ρ} {stage : Stage ω ε Answer ρ}
    (h : Turn flag pool stage) : Step ⟨flag, log, .pool pool⟩ .quiet ⟨flag, log, stage⟩
  | work (flag : Bool) (log : List ω) (pool : Pool ω ε Answer ρ)
    (before after : List (Task ω ε Answer (List ρ))) {task next : Task ω ε Answer (List ρ)}
    {label : Label ω Answer} (hfilling : pool.filling = false)
    (hrunning : pool.running = before ++ task :: after) (h : Advance flag task label next) :
    Step ⟨flag, log, .pool pool⟩ label
      ⟨flag, label.logged log, .pool { pool with running := before ++ next :: after }⟩

/-- A run whose steps all meet a condition on the state before them. -/
inductive Run (meets : State ω ε Answer ρ → Label ω Answer → Prop) :
    State ω ε Answer ρ → State ω ε Answer ρ → Prop where
  | refl (state : State ω ε Answer ρ) : Run meets state state
  | tail {first middle last : State ω ε Answer ρ} {label : Label ω Answer}
    (h : Run meets first middle) (hmeets : meets middle label) (hstep : Step middle label last) :
    Run meets first last

def start (task : Task ω ε Answer (Plan ω ε Answer ρ)) : State ω ε Answer ρ :=
  { cancelled := false, log := [], stage := .main task }

theorem Run.keeps {meets : State ω ε Answer ρ → Label ω Answer → Prop}
    {kept : State ω ε Answer ρ → Prop} {first last : State ω ε Answer ρ}
    (hstep : ∀ {state label next}, kept state → meets state label → Step state label next →
      kept next)
    (h : Run meets first last) (hfirst : kept first) : kept last := by
  induction h with
  | refl => exact hfirst
  | tail _ hmeets hlast ih => exact hstep ih hmeets hlast

end Pools

section Rules

variable {ω ε Q α β : Type} {Answer : Q → Type}

/-- The writes that open a matter, those that close it, and the answers that a task does not
survive. -/
structure Matter (ω : Type) {Q : Type} (Answer : Q → Type) where
  opens : ω → Prop
  closes : ω → Prop
  refuses : (question : Q) → Answer question → Prop
  apart : ∀ value, closes value → ¬opens value

/-- Whether the newest write of the matter opens it. -/
def Matter.IsOpen (matter : Matter ω Answer) : List ω → Prop
  | [] => False
  | value :: log => matter.opens value ∨ ¬matter.closes value ∧ matter.IsOpen log

variable (matter : Matter ω Answer)

/-- The task never opens the matter, and what it ends with is as it should be. -/
def Clean (post : α → Prop) : Task ω ε Answer α → Prop
  | .done value => post value
  | .fail _ => True
  | .write value next => ¬matter.opens value ∧ Clean post next
  | .ask _ next => ∀ answer, Clean post (next answer)
  | .check next => ∀ flag, Clean post (next flag)

/-- The task fails where an answer is refused, at once, and nowhere else. -/
def Steady (post : α → Prop) : Task ω ε Answer α → Prop
  | .done value => post value
  | .fail _ => False
  | .write _ next => Steady post next
  | .ask question next => ∀ answer,
    (matter.refuses question answer → ∃ error, next answer = .fail error) ∧
      (¬matter.refuses question answer → Steady post (next answer))
  | .check next => ∀ flag, Steady post (next flag)

/-- With the flag as it stands, the task closes the matter and leaves it alone from there on, or
ends with what does that. -/
def Settles (flag : Bool) (clean post : α → Prop) : Task ω ε Answer α → Prop
  | .done value => post value
  | .fail _ => False
  | .write value next => matter.closes value ∧ Clean matter clean next ∨
    ¬matter.closes value ∧ Settles flag clean post next
  | .ask question next => ∀ answer, ¬matter.refuses question answer →
    Settles flag clean post (next answer)
  | .check next => Settles flag clean post (next flag)

/-- The task closes the matter before it looks at the flag again. -/
def Begun (clean : α → Prop) : Task ω ε Answer α → Prop
  | .done _ => False
  | .fail _ => False
  | .write value next => matter.closes value ∧ Clean matter clean next ∨
    ¬matter.closes value ∧ Begun clean next
  | .ask question next => ∀ answer, ¬matter.refuses question answer → Begun clean (next answer)
  | .check _ => False

variable {matter} {post clean : α → Prop} {task : Task ω ε Answer α} {flag : Bool}

theorem Clean.mono {weaker : α → Prop} (h : Clean matter post task)
    (hpost : ∀ value, post value → weaker value) : Clean matter weaker task := by
  induction task with
  | done value => exact hpost value h
  | fail error => trivial
  | write value next ih => exact ⟨h.1, ih h.2⟩
  | ask question next ih => exact fun answer => ih answer (h answer)
  | check next ih => exact fun flag => ih flag (h flag)

theorem Steady.mono {weaker : α → Prop} (h : Steady matter post task)
    (hpost : ∀ value, post value → weaker value) : Steady matter weaker task := by
  induction task with
  | done value => exact hpost value h
  | fail error => exact h
  | write value next ih => exact ih h
  | ask question next ih =>
    exact fun answer => ⟨(h answer).1, fun hgiven => ih answer ((h answer).2 hgiven)⟩
  | check next ih => exact fun flag => ih flag (h flag)

theorem Clean.bind {rest : α → Task ω ε Answer β} {post : β → Prop}
    (h : Clean matter (fun value => Clean matter post (rest value)) task) :
    Clean matter post (task.bind rest) := by
  induction task with
  | done value => exact h
  | fail error => trivial
  | write value next ih => exact ⟨h.1, ih h.2⟩
  | ask question next ih => exact fun answer => ih answer (h answer)
  | check next ih => exact fun flag => ih flag (h flag)

theorem Steady.bind {rest : α → Task ω ε Answer β} {post : β → Prop}
    (h : Steady matter (fun value => Steady matter post (rest value)) task) :
    Steady matter post (task.bind rest) := by
  induction task with
  | done value => exact h
  | fail error => exact h
  | write value next ih => exact ih h
  | ask question next ih =>
    intro answer
    refine ⟨fun hrefuses => ?_, fun hgiven => ih answer ((h answer).2 hgiven)⟩
    obtain ⟨error, herror⟩ := (h answer).1 hrefuses
    refine ⟨error, ?_⟩
    change (next answer).bind rest = .fail error
    rw [herror]
    rfl
  | check next ih => exact fun flag => ih flag (h flag)

theorem Settles.bind {rest : α → Task ω ε Answer β} {clean post : β → Prop}
    (h : Settles matter flag (fun value => Clean matter clean (rest value))
      (fun value => Settles matter flag clean post (rest value)) task) :
    Settles matter flag clean post (task.bind rest) := by
  induction task with
  | done value => exact h
  | fail error => exact h
  | write value next ih =>
    rcases h with ⟨hcloses, hclean⟩ | ⟨hother, hnext⟩
    · exact Or.inl ⟨hcloses, hclean.bind⟩
    · exact Or.inr ⟨hother, ih hnext⟩
  | ask question next ih => exact fun answer hanswer => ih answer (h answer hanswer)
  | check next ih => exact ih flag h

theorem Begun.settles (h : Begun matter clean task) (post : α → Prop) :
    Settles matter flag clean post task := by
  induction task with
  | done value => exact absurd h id
  | fail error => exact h
  | write value next ih =>
    rcases h with hcloses | ⟨hother, hnext⟩
    · exact Or.inl hcloses
    · exact Or.inr ⟨hother, ih hnext⟩
  | ask question next ih => exact fun answer hanswer => ih answer (h answer hanswer)
  | check next ih => exact absurd h id

variable {label : Label ω Answer} {next : Task ω ε Answer α} {log : List ω}

theorem Clean.advance (h : Clean matter post task) (hstep : Advance flag task label next) :
    Clean matter post next ∧ ∀ value, label = .wrote value → ¬matter.opens value := by
  cases hstep with
  | write value =>
    refine ⟨h.2, fun other hother => ?_⟩
    cases hother
    exact h.1
  | refuse value next error => exact ⟨trivial, fun other hother => by cases hother⟩
  | answer question next given => exact ⟨h given, fun other hother => by cases hother⟩
  | check next => exact ⟨h flag, fun other hother => by cases hother⟩

theorem closed_logged (hlabel : ∀ value, label = .wrote value → ¬matter.opens value)
    (hlog : ¬matter.IsOpen log) : ¬matter.IsOpen (label.logged log) := by
  cases label with
  | wrote value =>
    rintro (hopens | ⟨_, hopen⟩)
    · exact hlabel value rfl hopens
    · exact hlog hopen
  | refused value => exact hlog
  | answered question answer => exact hlog
  | cancelled => exact hlog
  | quiet => exact hlog

/-- The labels of steps that a task may not survive. -/
def Refusal (matter : Matter ω Answer) : Label ω Answer → Prop
  | .refused _ => True
  | .answered question answer => matter.refuses question answer
  | _ => False

def Unclosed (matter : Matter ω Answer) (log : List ω) : Prop := ∀ value ∈ log, ¬matter.closes value

theorem refusal_logged (h : Refusal matter label) : label.logged log = log := by
  cases label with
  | wrote value => exact absurd h id
  | refused value => rfl
  | answered question answer => rfl
  | cancelled => rfl
  | quiet => rfl

theorem Steady.advance (h : Steady matter post task) (hstep : Advance flag task label next) :
    Steady matter post next ∨ Refusal matter label ∧ ∃ error, next = .fail error := by
  cases hstep with
  | write value => exact Or.inl h
  | refuse value next error => exact Or.inr ⟨trivial, error, rfl⟩
  | answer question next given =>
    by_cases hrefuses : matter.refuses question given
    · exact Or.inr ⟨hrefuses, (h given).1 hrefuses⟩
    · exact Or.inl ((h given).2 hrefuses)
  | check next => exact Or.inl (h flag)

theorem Steady.refused (h : Steady matter post task) (hstep : Advance flag task label next)
    (hrefusal : Refusal matter label) : ∃ error, next = .fail error := by
  cases hstep with
  | write value => exact absurd hrefusal id
  | refuse value next error => exact ⟨error, rfl⟩
  | answer question next given => exact (h given).1 hrefusal
  | check next => exact absurd hrefusal id

theorem unclosed_logged (hlabel : ∀ value, label = .wrote value → ¬matter.opens value)
    (hlog : Unclosed matter log) :
    ¬matter.IsOpen (label.logged log) ∨ Unclosed matter (label.logged log) := by
  cases label with
  | wrote value =>
    by_cases hcloses : matter.closes value
    · left
      rintro (hopens | ⟨hnot, _⟩)
      · exact hlabel value rfl hopens
      · exact hnot hcloses
    · right
      intro other hmem
      rcases List.mem_cons.mp hmem with rfl | hmem
      · exact hcloses
      · exact hlog other hmem
  | refused value => exact Or.inr hlog
  | answered question answer => exact Or.inr hlog
  | cancelled => exact Or.inr hlog
  | quiet => exact Or.inr hlog

theorem Settles.advance (h : Settles matter flag clean post task) (hlog : Unclosed matter log)
    (hstep : Advance flag task label next) :
    (¬matter.IsOpen (label.logged log) ∧ Clean matter clean next) ∨
      (Unclosed matter (label.logged log) ∧ Settles matter flag clean post next) ∨
        Refusal matter label := by
  cases hstep with
  | write value =>
    rcases h with ⟨hcloses, hclean⟩ | ⟨hother, hnext⟩
    · refine Or.inl ⟨?_, hclean⟩
      rintro (hopens | ⟨hnot, _⟩)
      · exact matter.apart value hcloses hopens
      · exact hnot hcloses
    · refine Or.inr (Or.inl ⟨fun other hmem => ?_, hnext⟩)
      rcases List.mem_cons.mp hmem with rfl | hmem
      · exact hother
      · exact hlog other hmem
  | refuse value next error => exact Or.inr (Or.inr trivial)
  | answer question next given =>
    by_cases hrefuses : matter.refuses question given
    · exact Or.inr (Or.inr hrefuses)
    · exact Or.inr (Or.inl ⟨hlog, h given hrefuses⟩)
  | check next => exact Or.inr (Or.inl ⟨hlog, h⟩)

end Rules

section Parts

variable {ω ε Q α β : Type} {Answer : Q → Type} (matter : Matter ω Answer)

/-- A part of a task that runs while the flag is not set: it never opens the matter, it ends well,
and it closes the matter where that is its own to do. -/
structure Works (own : Prop) (ends : α → Prop) (task : Task ω ε Answer α) : Prop where
  clean : Clean matter ends task
  steady : Steady matter ends task
  settles : ∀ clean post : α → Prop, (∀ value, ends value → clean value) →
    (¬own → ∀ value, ends value → post value) → Settles matter false clean post task

variable {matter} {own : Prop} {ends : α → Prop} {task : Task ω ε Answer α}

theorem Works.done {value : α} (h : ends value) :
    Works matter False ends (.done value : Task ω ε Answer α) where
  clean := h
  steady := h
  settles := fun _ _ _ hpost => hpost id value h

theorem Works.bind {next : Prop} {last : β → Prop} {rest : α → Task ω ε Answer β}
    (h : Works matter own ends task)
    (hrest : ∀ value, ends value → Works matter next last (rest value)) :
    Works matter (own ∨ next) last (task.bind rest) where
  clean := (h.clean.mono fun value hvalue => (hrest value hvalue).clean).bind
  steady := (h.steady.mono fun value hvalue => (hrest value hvalue).steady).bind
  settles := by
    intro clean post hclean hpost
    refine Settles.bind (h.settles _ _ ?_ ?_)
    · exact fun value hvalue => (hrest value hvalue).clean.mono hclean
    · intro hown value hvalue
      exact (hrest value hvalue).settles clean post hclean
        fun hnext => hpost fun heither => heither.elim hown hnext

theorem Works.weaken {other : Prop} {last : α → Prop} (h : Works matter own ends task)
    (hown : other → own) (hends : ∀ value, ends value → last value) :
    Works matter other last task where
  clean := h.clean.mono hends
  steady := h.steady.mono hends
  settles := fun clean post hclean hpost =>
    h.settles clean post (fun value hvalue => hclean value (hends value hvalue))
      fun hnot value hvalue => hpost (fun hother => hnot (hown hother)) value (hends value hvalue)

theorem Works.write {value : ω} (hopens : ¬matter.opens value) (hcloses : ¬matter.closes value)
    (h : Works matter own ends task) : Works matter own ends (.write value task) where
  clean := ⟨hopens, h.clean⟩
  steady := h.steady
  settles := fun clean post hclean hpost => Or.inr ⟨hcloses, h.settles clean post hclean hpost⟩

theorem Works.close {value : ω} (hcloses : matter.closes value) (h : Works matter own ends task) :
    Works matter True ends (.write value task) where
  clean := ⟨matter.apart value hcloses, h.clean⟩
  steady := h.steady
  settles := fun _ _ hclean _ => Or.inl ⟨hcloses, h.clean.mono hclean⟩

theorem Works.ask {question : Q} {next : Answer question → Task ω ε Answer α}
    (hrefuses : ∀ answer, matter.refuses question answer → ∃ error, next answer = .fail error)
    (h : ∀ answer, ¬matter.refuses question answer → Works matter own ends (next answer)) :
    Works matter own ends (.ask question next) where
  clean := by
    intro answer
    by_cases hanswer : matter.refuses question answer
    · obtain ⟨error, herror⟩ := hrefuses answer hanswer
      rw [herror]
      trivial
    · exact (h answer hanswer).clean
  steady := fun answer => ⟨hrefuses answer, fun hanswer => (h answer hanswer).steady⟩
  settles := fun clean post hclean hpost answer hanswer =>
    (h answer hanswer).settles clean post hclean hpost

/-- The flag is seen not to be set; where it is, the task only has to end well. -/
theorem Works.check {next : Bool → Task ω ε Answer α} (h : Works matter own ends (next false))
    (hset : Clean matter ends (next true) ∧ Steady matter ends (next true)) :
    Works matter own ends (.check next) where
  clean := fun flag => by
    cases flag with
    | false => exact h.clean
    | true => exact hset.1
  steady := fun flag => by
    cases flag with
    | false => exact h.steady
    | true => exact hset.2
  settles := fun clean post hclean hpost => h.settles clean post hclean hpost

end Parts

section Runs

variable {ω ε Q ρ : Type} {Answer : Q → Type} (matter : Matter ω Answer)

/-- No task of a plan opens the matter. -/
def PlanClean (plan : Plan ω ε Answer ρ) : Prop :=
  ∀ task ∈ plan.tasks, Clean matter (fun _ => True) task

def PlanSteady (plan : Plan ω ε Answer ρ) : Prop :=
  0 < plan.limit ∧ PlanClean matter plan ∧ ∀ task ∈ plan.tasks, Steady matter (fun _ => True) task

/-- A task that will close the matter by itself. -/
def Closer (flag : Bool) (task : Task ω ε Answer (List ρ)) : Prop :=
  Settles matter flag (fun _ => True) (fun _ => False) task

def PlanSettles (flag : Bool) (plan : Plan ω ε Answer ρ) : Prop :=
  flag = false ∧ ∃ task ∈ plan.tasks, Closer matter false task

structure MainKept (flag : Bool) (log : List ω) (task : Task ω ε Answer (Plan ω ε Answer ρ)) :
    Prop where
  steady : Steady matter (PlanSteady matter) task ∨
    (∃ error, task = .fail error) ∧ ¬matter.IsOpen log
  settled : ¬matter.IsOpen log ∧ Clean matter (fun _ => True) task ∨
    Unclosed matter log ∧ Settles matter flag (fun _ => True) (PlanSettles matter flag) task

/-- The matter is closed, or a task that closes it is under way or may still be taken. -/
structure PoolKept (flag : Bool) (log : List ω) (pool : Pool ω ε Answer ρ) : Prop where
  limited : 0 < pool.limit
  waiting : ∀ task ∈ pool.queue, Clean matter (fun _ => True) task ∧
    Steady matter (fun _ => True) task
  clean : ∀ task ∈ pool.running, Clean matter (fun _ => True) task
  steady : ∀ task ∈ pool.running, Steady matter (fun _ => True) task ∨
    (∃ error, task = .fail error) ∧ ¬matter.IsOpen log
  emptied : pool.filling = false → pool.running = [] → pool.queue = [] ∨ flag = true
  settled : ¬matter.IsOpen log ∨ Unclosed matter log ∧
    (flag = false ∧ (∃ task ∈ pool.queue, Closer matter false task) ∨
      ∃ task ∈ pool.running, Closer matter flag task)

def Kept (state : State ω ε Answer ρ) : Prop :=
  match state.stage with
  | .main task => MainKept matter state.cancelled state.log task
  | .pool pool => PoolKept matter state.cancelled state.log pool
  | .finished _ => ¬matter.IsOpen state.log

/-- The task that closes the matter is under way, or has closed it. -/
def UnderWay (state : State ω ε Answer ρ) : Prop :=
  (∃ value ∈ state.log, matter.closes value) ∨
    match state.stage with
    | .main task => Begun matter (fun _ => True) task
    | .pool pool => ∃ task ∈ pool.running, Begun matter (fun _ => True) task
    | .finished _ => False

/-- The flag is set only when the matter is as good as closed, and nothing is refused while it is
open. -/
def Meets (state : State ω ε Answer ρ) (label : Label ω Answer) : Prop :=
  match label with
  | .cancelled => UnderWay matter state
  | other => Refusal matter other → ¬matter.IsOpen state.log

variable {matter} {flag : Bool} {log : List ω} {state next : State ω ε Answer ρ}
variable {label : Label ω Answer}

theorem MainKept.advance {task after : Task ω ε Answer (Plan ω ε Answer ρ)}
    (h : MainKept matter flag log task) (hmeets : Refusal matter label → ¬matter.IsOpen log)
    (hstep : Advance flag task label after) : MainKept matter flag (label.logged log) after := by
  have hrefused : Refusal matter label → ¬matter.IsOpen (label.logged log) := by
    intro hrefusal
    rw [refusal_logged hrefusal]
    exact hmeets hrefusal
  have hsteady : Steady matter (PlanSteady matter) after ∨
      (∃ error, after = .fail error) ∧ ¬matter.IsOpen (label.logged log) := by
    rcases h.steady with hsteady | ⟨⟨error, rfl⟩, _⟩
    · rcases hsteady.advance hstep with hafter | ⟨hrefusal, hfail⟩
      · exact Or.inl hafter
      · exact Or.inr ⟨hfail, hrefused hrefusal⟩
    · cases hstep
  refine ⟨hsteady, ?_⟩
  rcases h.settled with ⟨hclosed, hclean⟩ | ⟨hlog, hsettles⟩
  · obtain ⟨hafter, hlabel⟩ := hclean.advance hstep
    exact Or.inl ⟨closed_logged hlabel hclosed, hafter⟩
  · rcases hsettles.advance hlog hstep with hclosed | hgoes | hrefusal
    · exact Or.inl hclosed
    · exact Or.inr hgoes
    · rcases h.steady with hsteady | ⟨⟨error, rfl⟩, _⟩
      · obtain ⟨error, rfl⟩ := hsteady.refused hstep hrefusal
        exact Or.inl ⟨hrefused hrefusal, trivial⟩
      · cases hstep

theorem MainKept.stop {error : ε}
    (h : MainKept matter flag log (.fail error : Task ω ε Answer (Plan ω ε Answer ρ))) :
    ¬matter.IsOpen log := by
  rcases h.settled with ⟨hclosed, _⟩ | ⟨_, hsettles⟩
  · exact hclosed
  · exact absurd hsettles id

theorem MainKept.launch {plan : Plan ω ε Answer ρ} (h : MainKept matter flag log (.done plan)) :
    PoolKept matter flag log plan.pool := by
  have hplan : PlanSteady matter plan := by
    rcases h.steady with hsteady | ⟨⟨error, hfail⟩, _⟩
    · exact hsteady
    · cases hfail
  refine ⟨hplan.1, fun task htask => ⟨hplan.2.1 task htask, hplan.2.2 task htask⟩,
    fun task htask => absurd htask List.not_mem_nil,
    fun task htask => absurd htask List.not_mem_nil,
    (fun hfilling => by cases hfilling), ?_⟩
  rcases h.settled with ⟨hclosed, _⟩ | ⟨hlog, hflag, hcloser⟩
  · exact Or.inl hclosed
  · exact Or.inr ⟨hlog, Or.inl ⟨hflag, hcloser⟩⟩

theorem PoolKept.turn {pool : Pool ω ε Answer ρ} {stage : Stage ω ε Answer ρ}
    (h : PoolKept matter flag log pool) (hturn : Turn flag pool stage) :
    Kept matter ⟨flag, log, stage⟩ := by
  cases hturn with
  | push task rest hfilling hfree hqueue hflag =>
    have htask := h.waiting task (hqueue ▸ List.mem_cons_self)
    refine ⟨h.limited, fun other hother => h.waiting other (hqueue ▸ List.mem_cons_of_mem _ hother),
      ?_, ?_, ?_, ?_⟩
    · intro other hother
      rcases List.mem_append.mp hother with hother | hother
      · exact h.clean other hother
      · rw [List.mem_singleton.mp hother]
        exact htask.1
    · intro other hother
      rcases List.mem_append.mp hother with hother | hother
      · exact h.steady other hother
      · rw [List.mem_singleton.mp hother]
        exact Or.inl htask.2
    · intro _ hempty
      exact absurd hempty (List.append_ne_nil_of_right_ne_nil _ (List.cons_ne_nil _ _))
    · rcases h.settled with hclosed | ⟨hlog, ⟨_, other, hother, hcloser⟩ | ⟨other, hother, hcloser⟩⟩
      · exact Or.inl hclosed
      · rw [hqueue] at hother
        rcases List.mem_cons.mp hother with rfl | hother
        · refine Or.inr ⟨hlog, Or.inr ⟨other, List.mem_append_right _ List.mem_cons_self, ?_⟩⟩
          rw [hflag]
          exact hcloser
        · exact Or.inr ⟨hlog, Or.inl ⟨hflag, other, hother, hcloser⟩⟩
      · exact Or.inr ⟨hlog, Or.inr ⟨other, List.mem_append_left _ hother, hcloser⟩⟩
  | skip task rest hfilling hfree hqueue hflag =>
    refine ⟨h.limited, fun other hother => h.waiting other (hqueue ▸ List.mem_cons_of_mem _ hother),
      h.clean, h.steady, fun _ _ => Or.inr hflag, ?_⟩
    rcases h.settled with hclosed | ⟨hlog, ⟨hunset, _⟩ | hrunning⟩
    · exact Or.inl hclosed
    · rw [hflag] at hunset
      cases hunset
    · exact Or.inr ⟨hlog, Or.inr hrunning⟩
  | full hfilling hfull =>
    refine ⟨h.limited, h.waiting, h.clean, h.steady, ?_, h.settled⟩
    intro _ hempty
    rcases hfull with hfull | hqueue
    · rw [hempty] at hfull
      exact absurd h.limited (Nat.not_lt.mpr hfull)
    · exact Or.inl hqueue
  | collect before after results hfilling hrunning =>
    have hkept : ∀ other ∈ before ++ after, other ∈ pool.running := by
      intro other hother
      rw [hrunning]
      rcases List.mem_append.mp hother with hother | hother
      · exact List.mem_append_left _ hother
      · exact List.mem_append_right _ (List.mem_cons_of_mem _ hother)
    refine ⟨h.limited, h.waiting, fun other hother => h.clean other (hkept other hother),
      fun other hother => h.steady other (hkept other hother), (fun hfilled => by cases hfilled),
      ?_⟩
    rcases h.settled with hclosed | ⟨hlog, hwaiting | ⟨other, hother, hcloser⟩⟩
    · exact Or.inl hclosed
    · exact Or.inr ⟨hlog, Or.inl hwaiting⟩
    · rw [hrunning] at hother
      refine Or.inr ⟨hlog, Or.inr ⟨other, ?_, hcloser⟩⟩
      rcases List.mem_append.mp hother with hother | hother
      · exact List.mem_append_left _ hother
      · rcases List.mem_cons.mp hother with rfl | hother
        · exact absurd hcloser id
        · exact List.mem_append_right _ hother
  | fail before after error hfilling hrunning =>
    have hmem : Task.fail error ∈ pool.running := by
      rw [hrunning]
      exact List.mem_append_right _ List.mem_cons_self
    rcases h.steady _ hmem with hsteady | ⟨_, hclosed⟩
    · exact absurd hsteady id
    · exact hclosed
  | finish hfilling hrunning =>
    rcases h.settled with hclosed | ⟨_, ⟨hunset, other, hother, _⟩ | ⟨other, hother, _⟩⟩
    · exact hclosed
    · rcases h.emptied hfilling hrunning with hqueue | hflag
      · rw [hqueue] at hother
        exact absurd hother List.not_mem_nil
      · rw [hunset] at hflag
        cases hflag
    · rw [hrunning] at hother
      exact absurd hother List.not_mem_nil

theorem PoolKept.work {pool : Pool ω ε Answer ρ} (h : PoolKept matter flag log pool)
    (hmeets : Refusal matter label → ¬matter.IsOpen log)
    {before after : List (Task ω ε Answer (List ρ))} {task next : Task ω ε Answer (List ρ)}
    (hrunning : pool.running = before ++ task :: after) (hstep : Advance flag task label next) :
    PoolKept matter flag (label.logged log) { pool with running := before ++ next :: after } := by
  have hmem : task ∈ pool.running := by
    rw [hrunning]
    exact List.mem_append_right _ List.mem_cons_self
  have hcases : ∀ other ∈ before ++ next :: after, other = next ∨ other ∈ pool.running := by
    intro other hother
    rw [hrunning]
    rcases List.mem_append.mp hother with hother | hother
    · exact Or.inr (List.mem_append_left _ hother)
    · rcases List.mem_cons.mp hother with rfl | hother
      · exact Or.inl rfl
      · exact Or.inr (List.mem_append_right _ (List.mem_cons_of_mem _ hother))
  have hrefused : Refusal matter label → ¬matter.IsOpen (label.logged log) := by
    intro hrefusal
    rw [refusal_logged hrefusal]
    exact hmeets hrefusal
  obtain ⟨hnext, hlabel⟩ := (h.clean task hmem).advance hstep
  refine ⟨h.limited, h.waiting, ?_, ?_, ?_, ?_⟩
  · intro other hother
    rcases hcases other hother with rfl | hother
    · exact hnext
    · exact h.clean other hother
  · intro other hother
    rcases hcases other hother with rfl | hother
    · rcases h.steady task hmem with hsteady | ⟨⟨error, rfl⟩, _⟩
      · rcases hsteady.advance hstep with hafter | ⟨hrefusal, hfail⟩
        · exact Or.inl hafter
        · exact Or.inr ⟨hfail, hrefused hrefusal⟩
      · cases hstep
    · rcases h.steady other hother with hsteady | ⟨hfail, hclosed⟩
      · exact Or.inl hsteady
      · exact Or.inr ⟨hfail, closed_logged hlabel hclosed⟩
  · intro _ hempty
    exact absurd hempty (List.append_ne_nil_of_right_ne_nil _ (List.cons_ne_nil _ _))
  · rcases h.settled with hclosed | ⟨hlog, hsettled⟩
    · exact Or.inl (closed_logged hlabel hclosed)
    · rcases unclosed_logged hlabel hlog with hclosed | hunclosed
      · exact Or.inl hclosed
      · rcases hsettled with hwaiting | ⟨other, hother, hcloser⟩
        · exact Or.inr ⟨hunclosed, Or.inl hwaiting⟩
        · rw [hrunning] at hother
          rcases List.mem_append.mp hother with hother | hother
          · exact Or.inr ⟨hunclosed, Or.inr ⟨other, List.mem_append_left _ hother, hcloser⟩⟩
          · rcases List.mem_cons.mp hother with rfl | hother
            · rcases hcloser.advance hlog hstep with ⟨hclosed, _⟩ | ⟨_, hgoes⟩ | hrefusal
              · exact Or.inl hclosed
              · exact Or.inr ⟨hunclosed,
                  Or.inr ⟨next, List.mem_append_right _ List.mem_cons_self, hgoes⟩⟩
              · exact Or.inl (hrefused hrefusal)
            · exact Or.inr ⟨hunclosed, Or.inr ⟨other,
                List.mem_append_right _ (List.mem_cons_of_mem _ hother), hcloser⟩⟩

theorem Kept.cancel {stage : Stage ω ε Answer ρ} (h : Kept matter ⟨flag, log, stage⟩)
    (hway : UnderWay matter ⟨flag, log, stage⟩) : Kept matter ⟨true, log, stage⟩ := by
  have hopen : (∃ value ∈ log, matter.closes value) → ¬Unclosed matter log := by
    rintro ⟨value, hvalue, hcloses⟩ hlog
    exact hlog value hvalue hcloses
  cases stage with
  | main task =>
    refine ⟨h.steady, ?_⟩
    rcases h.settled with hclosed | ⟨hlog, _⟩
    · exact Or.inl hclosed
    · rcases hway with hwritten | hbegun
      · exact absurd hlog (hopen hwritten)
      · exact Or.inr ⟨hlog, hbegun.settles _⟩
  | pool pool =>
    refine ⟨h.limited, h.waiting, h.clean, h.steady, fun _ _ => Or.inr rfl, ?_⟩
    rcases h.settled with hclosed | ⟨hlog, _⟩
    · exact Or.inl hclosed
    · rcases hway with hwritten | ⟨task, htask, hbegun⟩
      · exact absurd hlog (hopen hwritten)
      · exact Or.inr ⟨hlog, Or.inr ⟨task, htask, hbegun.settles _⟩⟩
  | finished result => exact h

theorem advance_ne_cancelled {α : Type} {task after : Task ω ε Answer α}
    (h : Advance flag task label after) : label ≠ .cancelled := by
  cases h <;> exact fun hlabel => by cases hlabel

theorem Meets.refusal (h : Meets matter state label) (hlabel : label ≠ .cancelled) :
    Refusal matter label → ¬matter.IsOpen state.log := by
  cases label with
  | cancelled => exact absurd rfl hlabel
  | wrote value => exact h
  | refused value => exact h
  | answered question answer => exact h
  | quiet => exact h

theorem Kept.step (h : Kept matter state) (hmeets : Meets matter state label)
    (hstep : Step state label next) : Kept matter next := by
  cases hstep with
  | cancel => exact h.cancel hmeets
  | main flag log hadvance =>
    exact MainKept.advance h (hmeets.refusal (advance_ne_cancelled hadvance)) hadvance
  | stop flag log error => exact MainKept.stop h
  | launch flag log plan => exact MainKept.launch h
  | turn flag log hturn => exact PoolKept.turn h hturn
  | work flag log pool before after hfilling hrunning hadvance =>
    exact PoolKept.work h (hmeets.refusal (advance_ne_cancelled hadvance)) hrunning hadvance

/-- A run that ends leaves the matter closed, where the flag was set and writes and answers were
refused only when that does no harm. -/
theorem closed_of_run {task : Task ω ε Answer (Plan ω ε Answer ρ)}
    (hsteady : Steady matter (PlanSteady matter) task)
    (hsettles : Settles matter false (fun _ => True) (PlanSettles matter false) task)
    {meets : State ω ε Answer ρ → Label ω Answer → Prop}
    (hmeets : ∀ state label, meets state label → Meets matter state label)
    (h : Run meets (start task) state) {result : Except ε (List ρ)}
    (hstage : state.stage = .finished result) : ¬matter.IsOpen state.log := by
  have hstart : Kept matter (start task) :=
    ⟨Or.inl hsteady, Or.inr ⟨fun _ hvalue => absurd hvalue List.not_mem_nil, hsettles⟩⟩
  have hkept : Kept matter state :=
    h.keeps (fun hkept hlabel hstep => hkept.step (hmeets _ _ hlabel) hstep) hstart
  rw [Kept, hstage] at hkept
  exact hkept

/-- No more tasks are under way than a plan allows. -/
def Bounded (matter : Matter ω Answer) (bound : Nat) (state : State ω ε Answer ρ) : Prop :=
  match state.stage with
  | .main task => Clean matter (fun plan => plan.limit ≤ bound) task
  | .pool pool => pool.limit ≤ bound ∧ pool.running.length ≤ pool.limit
  | .finished _ => True

theorem Bounded.turn {bound : Nat} {pool : Pool ω ε Answer ρ} {stage : Stage ω ε Answer ρ}
    (h : pool.limit ≤ bound ∧ pool.running.length ≤ pool.limit) (hturn : Turn flag pool stage) :
    Bounded matter bound ⟨flag, log, stage⟩ := by
  cases hturn with
  | push task rest hfilling hfree hqueue hflag =>
    refine ⟨h.1, ?_⟩
    rw [List.length_append]
    exact hfree
  | skip task rest hfilling hfree hqueue hflag => exact h
  | full hfilling hfull => exact h
  | collect before after results hfilling hrunning =>
    refine ⟨h.1, ?_⟩
    have hlength := h.2
    rw [hrunning, List.length_append, List.length_cons] at hlength
    change (before ++ after).length ≤ pool.limit
    rw [List.length_append]
    omega
  | fail before after error hfilling hrunning => trivial
  | finish hfilling hrunning => trivial

theorem Bounded.step {bound : Nat} (h : Bounded matter bound state)
    (hstep : Step state label next) :
    Bounded matter bound next := by
  cases hstep with
  | cancel => exact h
  | main flag log hadvance => exact (Clean.advance h hadvance).1
  | stop flag log error => trivial
  | launch flag log plan => exact ⟨h, Nat.zero_le _⟩
  | turn flag log hturn => exact Bounded.turn h hturn
  | work flag log pool before after hfilling hrunning hadvance =>
    refine ⟨h.1, ?_⟩
    have hlength := h.2
    rw [hrunning, List.length_append, List.length_cons] at hlength
    change (before ++ _ :: after).length ≤ pool.limit
    rw [List.length_append, List.length_cons]
    exact hlength

end Runs

end TaskPool
