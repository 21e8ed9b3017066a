import VoyaVPN.TaskResults

/-! What the tasks of a pool write about a matter that belongs to one of them: while the flag is not
set, the writes about it are those of that task, in whatever order the tasks take their steps. -/
namespace TaskLogs

open TaskPool TaskBudget TaskResults

section Tasks

variable {ω ε Q α β : Type} {Answer : Q → Type} (mine : ω → Bool)

/-- Some writes of the matter stand before the task, the newest first; it ends with all of them as
they should be, where the flag is never set. -/
def Logs (post : List ω → α → Prop) : List ω → Task ω ε Answer α → Prop
  | written, .done value => post written value
  | _, .fail _ => True
  | written, .write value next =>
    Logs post (if mine value = true then value :: written else written) next
  | written, .ask _ next => ∀ answer, Logs post written (next answer)
  | written, .check next => Logs post written (next false)

/-- The task writes nothing about the matter. -/
def Silent : Task ω ε Answer α → Prop
  | .done _ => True
  | .fail _ => True
  | .write value next => mine value = false ∧ Silent next
  | .ask _ next => ∀ answer, Silent (next answer)
  | .check next => Silent (next false)

variable {mine} {post : List ω → α → Prop} {task : Task ω ε Answer α} {written : List ω}

theorem Logs.mono {weaker : List ω → α → Prop} (h : Logs mine post written task)
    (hpost : ∀ after value, post after value → weaker after value) :
    Logs mine weaker written task := by
  induction task generalizing written with
  | done value => exact hpost written value h
  | fail error => trivial
  | write value next ih => exact ih h
  | ask question next ih => exact fun answer => ih answer (h answer)
  | check next ih => exact ih false h

theorem Logs.bind {last : List ω → β → Prop} {rest : α → Task ω ε Answer β}
    (h : Logs mine (fun after value => Logs mine last after (rest value)) written task) :
    Logs mine last written (task.bind rest) := by
  induction task generalizing written with
  | done value => exact h
  | fail error => trivial
  | write value next ih => exact ih h
  | ask question next ih => exact fun answer => ih answer (h answer)
  | check next ih => exact ih false h

theorem Logs.and {ends : α → Prop} (h : Logs mine post written task) (hends : Ends ends task) :
    Logs mine (fun after value => post after value ∧ ends value) written task := by
  induction task generalizing written with
  | done value => exact ⟨h, hends⟩
  | fail error => trivial
  | write value next ih => exact ih h hends
  | ask question next ih => exact fun answer => ih answer (h answer) (hends answer)
  | check next ih => exact ih false h hends

theorem Silent.bind {rest : α → Task ω ε Answer β} (h : Silent mine task)
    (hrest : Ends (fun value => Silent mine (rest value)) task) :
    Silent mine (task.bind rest) := by
  induction task with
  | done value => exact hrest
  | fail error => trivial
  | write value next ih => exact ⟨h.1, ih h.2 hrest⟩
  | ask question next ih => exact fun answer => ih answer (h answer) (hrest answer)
  | check next ih => exact ih false h hrest

theorem Silent.logs (h : Silent mine task) :
    Logs mine (fun after _ => after = written) written task := by
  induction task with
  | done value => rfl
  | fail error => trivial
  | write value next ih =>
    rw [Logs, h.1, if_neg Bool.false_ne_true]
    exact ih h.2
  | ask question next ih => exact fun answer => ih answer (h answer)
  | check next ih => exact ih false h

variable {label : Label ω Answer} {next : Task ω ε Answer α} {log : List ω}

theorem Logs.advance (h : Logs mine post (log.filter mine) task)
    (hstep : Advance false task label next) :
    Logs mine post ((label.logged log).filter mine) next := by
  cases hstep with
  | write value =>
    rw [Label.logged, List.filter_cons]
    exact h
  | refuse value next error => trivial
  | answer question next given => exact h given
  | check next => exact h

theorem Silent.advance (h : Silent mine task) (hstep : Advance false task label next) :
    Silent mine next ∧ (label.logged log).filter mine = log.filter mine := by
  cases hstep with
  | write value =>
    refine ⟨h.2, ?_⟩
    rw [Label.logged, List.filter_cons, h.1, if_neg Bool.false_ne_true]
  | refuse value next error => exact ⟨trivial, rfl⟩
  | answer question next given => exact ⟨h given, rfl⟩
  | check next => exact ⟨h, rfl⟩

end Tasks

section Runs

variable {ω ε Q ρ : Type} {Answer : Q → Type} (mine : ω → Bool) (post : List ω → List ρ → Prop)

/-- A share of the matter: none for a task that leaves it alone, else the whole. -/
def Share (written : List ω) (share : Nat) (task : Task ω ε Answer (List ρ)) : Prop :=
  share = 0 ∧ Silent mine task ∨ share = 1 ∧ Logs mine post written task

/-- Some of the results go with what was written about the matter. -/
def Settled (written : List ω) (results : List ρ) : Prop :=
  ∃ part, (∀ result ∈ part, result ∈ results) ∧ post written part

def PlanLogs (written : List ω) (plan : Plan ω ε Answer ρ) : Prop :=
  0 < plan.limit ∧ ∃ waiting finished, waiting + finished = 1 ∧
    Together (Share mine post written) plan.tasks waiting ∧
      (finished = 1 → Settled post written plan.results)

/-- The matter belongs to a task that waits or is under way, or its results were collected. -/
structure PoolLogs (written : List ω) (pool : Pool ω ε Answer ρ) : Prop where
  limited : 0 < pool.limit
  emptied : pool.filling = false → pool.running = [] → pool.queue = []
  shared : ∃ waiting going finished, waiting + (going + finished) = 1 ∧
    Together (Share mine post written) pool.queue waiting ∧
      Together (Share mine post written) pool.running going ∧
        (finished = 1 → Settled post written pool.results)

def Orderly (state : State ω ε Answer ρ) : Prop :=
  state.cancelled = true ∨ match state.stage with
  | .main task => Logs mine (PlanLogs mine post) (state.log.filter mine) task
  | .pool pool => PoolLogs mine post (state.log.filter mine) pool
  | .finished (.ok results) => Settled post (state.log.filter mine) results
  | .finished (.error _) => True

variable {mine} {post}

theorem Settled.append {written : List ω} {results : List ρ} (h : Settled post written results)
    (others : List ρ) : Settled post written (results ++ others) := by
  obtain ⟨part, hpart, hpost⟩ := h
  exact ⟨part, fun result hresult => List.mem_append_left _ (hpart result hresult), hpost⟩

theorem together_silent {written : List ω} (other : List ω)
    {tasks : List (Task ω ε Answer (List ρ))} {total : Nat} (htotal : total = 0)
    (h : Together (Share mine post written) tasks total) :
    Together (Share mine post other) tasks total := by
  induction tasks generalizing total with
  | nil => exact h
  | cons task tasks ih =>
    obtain ⟨share, left, hsum, hshare, hleft⟩ := h
    have hnone : share = 0 ∧ left = 0 := by omega
    rcases hshare with hsilent | ⟨hone, _⟩
    · exact ⟨share, left, hsum, Or.inl hsilent, ih hnone.2 hleft⟩
    · omega

theorem PoolLogs.turn {log : List ω} {pool : Pool ω ε Answer ρ} {stage : Stage ω ε Answer ρ}
    (h : PoolLogs mine post (log.filter mine) pool) (hturn : Turn false pool stage) :
    Orderly mine post ⟨false, log, stage⟩ := by
  right
  obtain ⟨waiting, going, finished, hsum, hwaiting, hgoing, hfinished⟩ := h.shared
  cases hturn with
  | push task rest hfilling hfree hqueue hflag =>
    rw [hqueue] at hwaiting
    obtain ⟨share, left, hsplit, hshare, hleft⟩ := hwaiting
    refine ⟨h.limited, ?_, left, going + share, finished, by omega, hleft,
      together_append.mpr ⟨going, share, rfl, hgoing, share, 0, (add_zero share).symm, hshare, rfl⟩,
      hfinished⟩
    intro _ hempty
    exact absurd hempty (List.append_ne_nil_of_right_ne_nil _ (List.cons_ne_nil _ _))
  | skip task rest hfilling hfree hqueue hflag => cases hflag
  | full hfilling hfull =>
    refine ⟨h.limited, ?_, waiting, going, finished, hsum, hwaiting, hgoing, hfinished⟩
    intro _ hempty
    rcases hfull with hfull | hqueue
    · rw [hempty] at hfull
      exact absurd h.limited (Nat.not_lt.mpr hfull)
    · exact hqueue
  | collect before after results hfilling hrunning =>
    rw [hrunning] at hgoing
    obtain ⟨first, second, hfirstSum, hfirst, share, left, hsplit, hshare, hleft⟩ :=
      together_append.mp hgoing
    refine ⟨h.limited, (fun hfilled => by cases hfilled), waiting, first + left, finished + share,
      by omega, hwaiting, together_append.mpr ⟨first, left, rfl, hfirst, hleft⟩, ?_⟩
    intro hone
    rcases hshare with ⟨hnone, _⟩ | ⟨_, hpost⟩
    · exact (hfinished (by omega)).append results
    · exact ⟨results, fun result hresult => List.mem_append_right _ hresult, hpost⟩
  | fail before after error hfilling hrunning => trivial
  | finish hfilling hrunning =>
    rw [hrunning] at hgoing
    rw [h.emptied hfilling hrunning] at hwaiting
    have hnoneGoing : going = 0 := hgoing
    have hnoneWaiting : waiting = 0 := hwaiting
    exact hfinished (by omega)

theorem PoolLogs.work {log : List ω} {pool : Pool ω ε Answer ρ}
    {before after : List (Task ω ε Answer (List ρ))} {task next : Task ω ε Answer (List ρ)}
    {label : Label ω Answer} (h : PoolLogs mine post (log.filter mine) pool)
    (hrunning : pool.running = before ++ task :: after)
    (hadvance : Advance false task label next) :
    PoolLogs mine post ((label.logged log).filter mine)
      { pool with running := before ++ next :: after } := by
  obtain ⟨waiting, going, finished, hsum, hwaiting, hgoing, hfinished⟩ := h.shared
  rw [hrunning] at hgoing
  obtain ⟨first, second, hfirstSum, hfirst, share, left, hsplit, hshare, hleft⟩ :=
    together_append.mp hgoing
  have hemptied : pool.filling = false → before ++ next :: after = [] → pool.queue = [] :=
    fun _ hempty =>
      absurd hempty (List.append_ne_nil_of_right_ne_nil _ (List.cons_ne_nil _ _))
  rcases hshare with ⟨hnone, hsilent⟩ | ⟨hone, hlogs⟩
  · obtain ⟨hnext, hsame⟩ := hsilent.advance hadvance
    rw [hsame]
    exact ⟨h.limited, hemptied, waiting, first + (share + left), finished, by omega, hwaiting,
      together_append.mpr ⟨first, share + left, rfl, hfirst, share, left, rfl,
        Or.inl ⟨hnone, hnext⟩, hleft⟩, hfinished⟩
  · -- The matter is this task's, so that no other has a share of it.
    exact ⟨h.limited, hemptied, waiting, first + (share + left), finished, by omega,
      together_silent _ (by omega) hwaiting,
      together_append.mpr ⟨first, share + left, rfl, together_silent _ (by omega) hfirst, share,
        left, rfl, Or.inr ⟨hone, hlogs.advance hadvance⟩, together_silent _ (by omega) hleft⟩,
      fun hfinal => by omega⟩

theorem Orderly.step {state next : State ω ε Answer ρ} {label : Label ω Answer}
    (h : Orderly mine post state) (hstep : Step state label next) : Orderly mine post next := by
  rcases h with hflag | h
  · left
    cases hstep <;> first | rfl | exact hflag
  · cases hstep with
    | cancel => exact Or.inl rfl
    | main flag log hadvance =>
      cases flag with
      | true => exact Or.inl rfl
      | false => exact Or.inr (Logs.advance h hadvance)
    | stop flag log error => exact Or.inr trivial
    | launch flag log plan =>
      obtain ⟨hlimit, waiting, finished, hsum, hwaiting, hfinished⟩ := h
      exact Or.inr ⟨hlimit, (fun hfilling => by cases hfilling), waiting, 0, finished, by omega,
        hwaiting, rfl, hfinished⟩
    | turn flag log hturn =>
      cases flag with
      | true => exact Or.inl rfl
      | false => exact PoolLogs.turn h hturn
    | work flag log pool before after hfilling hrunning hadvance =>
      cases flag with
      | true => exact Or.inl rfl
      | false => exact Or.inr (PoolLogs.work h hrunning hadvance)

/-- A run that ends well without the flag has written about the matter what its task does. -/
theorem settled_of_run {task : Task ω ε Answer (Plan ω ε Answer ρ)}
    (h : Logs mine (PlanLogs mine post) [] task)
    {meets : State ω ε Answer ρ → Label ω Answer → Prop} {state : State ω ε Answer ρ}
    (hrun : Run meets (start task) state) (hflag : state.cancelled = false) {results : List ρ}
    (hstage : state.stage = .finished (.ok results)) :
    Settled post (state.log.filter mine) results := by
  have horderly : Orderly mine post state :=
    hrun.keeps (fun hkept _ hstep => hkept.step hstep) (Or.inr h)
  rw [Orderly, hstage] at horderly
  rcases horderly with hset | hsettled
  · rw [hflag] at hset
    cases hset
  · exact hsettled

end Runs

end TaskLogs
