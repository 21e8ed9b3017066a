import VoyaVPN.TaskBudget

/-! Pools that are not cut short: while the flag is not set, what a pool has collected, what is
under way and what waits make up the items it was given, in whatever order the tasks take their
steps. -/
namespace TaskResults

open TaskPool TaskBudget

section Tasks

variable {ω ε Q α β : Type} {Answer : Q → Type}

/-- What the task ends with is as it should be, where the flag is never set. -/
def Ends (post : α → Prop) : Task ω ε Answer α → Prop
  | .done value => post value
  | .fail _ => True
  | .write _ next => Ends post next
  | .ask _ next => ∀ answer, Ends post (next answer)
  | .check next => Ends post (next false)

variable {post : α → Prop} {task : Task ω ε Answer α}

theorem Ends.mono {weaker : α → Prop} (h : Ends post task)
    (hpost : ∀ value, post value → weaker value) : Ends weaker task := by
  induction task with
  | done value => exact hpost value h
  | fail error => trivial
  | write value next ih => exact ih h
  | ask question next ih => exact fun answer => ih answer (h answer)
  | check next ih => exact ih false h

theorem Ends.bind {last : β → Prop} {rest : α → Task ω ε Answer β}
    (h : Ends (fun value => Ends last (rest value)) task) : Ends last (task.bind rest) := by
  induction task with
  | done value => exact h
  | fail error => trivial
  | write value next ih => exact ih h
  | ask question next ih => exact fun answer => ih answer (h answer)
  | check next ih => exact ih false h

theorem ends_of_clean {matter : Matter ω Answer} (h : Clean matter post task) : Ends post task := by
  induction task with
  | done value => exact h
  | fail error => trivial
  | write value next ih => exact ih h.2
  | ask question next ih => exact fun answer => ih answer (h answer)
  | check next ih => exact ih false (h false)

theorem Ends.advance {label : Label ω Answer} {next : Task ω ε Answer α} (h : Ends post task)
    (hstep : Advance false task label next) : Ends post next := by
  cases hstep with
  | write value => exact h
  | refuse value next error => trivial
  | answer question next given => exact h given
  | check next => exact h

end Tasks

section Reports

variable {ι ρ : Type} (report : ι → List ρ → Prop)

/-- The results are the reports of the items, in some order. -/
def Reported (items : Multiset ι) (results : List ρ) : Prop :=
  ∃ parts : List (ι × List ρ), (parts.map Prod.fst : List ι) = items ∧
    (∀ part ∈ parts, report part.1 part.2) ∧ results.Perm (parts.flatMap Prod.snd)

variable {report}

theorem reported_none : Reported report 0 [] :=
  ⟨[], rfl, fun _ hpart => absurd hpart List.not_mem_nil, List.Perm.refl _⟩

theorem reported_one {item : ι} {results : List ρ} (h : report item results) :
    Reported report {item} results := by
  refine ⟨[(item, results)], rfl, ?_, ?_⟩
  · intro part hpart
    rw [List.mem_singleton.mp hpart]
    exact h
  · rw [List.flatMap_cons, List.flatMap_nil, List.append_nil]

theorem Reported.add {first second : Multiset ι} {before after : List ρ}
    (hfirst : Reported report first before) (hsecond : Reported report second after) :
    Reported report (first + second) (before ++ after) := by
  obtain ⟨parts, rfl, hparts, hbefore⟩ := hfirst
  obtain ⟨others, rfl, hothers, hafter⟩ := hsecond
  refine ⟨parts ++ others, ?_, ?_, ?_⟩
  · rw [List.map_append, Multiset.coe_add]
  · intro part hpart
    rcases List.mem_append.mp hpart with hpart | hpart
    · exact hparts part hpart
    · exact hothers part hpart
  · rw [List.flatMap_append]
    exact hbefore.append hafter

end Reports

section Runs

variable {ω ε Q ρ ι : Type} {Answer : Q → Type} (report : ι → List ρ → Prop)

def Owes (items : Multiset ι) (task : Task ω ε Answer (List ρ)) : Prop :=
  Ends (Reported report items) task

def PlanOwes (items : Multiset ι) (plan : Plan ω ε Answer ρ) : Prop :=
  0 < plan.limit ∧ ∃ waiting finished, items = waiting + finished ∧
    Together (Owes report) plan.tasks waiting ∧ Reported report finished plan.results

/-- What waits, what is under way and what was collected make up the items. -/
structure PoolOwes (items : Multiset ι) (pool : Pool ω ε Answer ρ) : Prop where
  limited : 0 < pool.limit
  emptied : pool.filling = false → pool.running = [] → pool.queue = []
  owed : ∃ waiting going finished, items = waiting + (going + finished) ∧
    Together (Owes report) pool.queue waiting ∧ Together (Owes report) pool.running going ∧
      Reported report finished pool.results

def Complete (items : Multiset ι) (state : State ω ε Answer ρ) : Prop :=
  state.cancelled = true ∨ match state.stage with
  | .main task => Ends (PlanOwes report items) task
  | .pool pool => PoolOwes report items pool
  | .finished (.ok results) => Reported report items results
  | .finished (.error _) => True

variable {report} {items : Multiset ι}

theorem PoolOwes.turn {log : List ω} {pool : Pool ω ε Answer ρ} {stage : Stage ω ε Answer ρ}
    (h : PoolOwes report items pool) (hturn : Turn false pool stage) :
    Complete report items ⟨false, log, stage⟩ := by
  right
  obtain ⟨waiting, going, finished, hitems, hwaiting, hgoing, hfinished⟩ := h.owed
  cases hturn with
  | push task rest hfilling hfree hqueue hflag =>
    rw [hqueue] at hwaiting
    obtain ⟨share, left, rfl, hshare, hleft⟩ := hwaiting
    refine ⟨h.limited, ?_, left, going + share, finished, ?_, hleft,
      together_append.mpr ⟨going, share, rfl, hgoing, share, 0, (add_zero share).symm, hshare, rfl⟩,
      hfinished⟩
    · intro _ hempty
      exact absurd hempty (List.append_ne_nil_of_right_ne_nil _ (List.cons_ne_nil _ _))
    · rw [hitems]
      abel
  | skip task rest hfilling hfree hqueue hflag => cases hflag
  | full hfilling hfull =>
    refine ⟨h.limited, ?_, waiting, going, finished, hitems, hwaiting, hgoing, hfinished⟩
    intro _ hempty
    rcases hfull with hfull | hqueue
    · rw [hempty] at hfull
      exact absurd h.limited (Nat.not_lt.mpr hfull)
    · exact hqueue
  | collect before after results hfilling hrunning =>
    rw [hrunning] at hgoing
    obtain ⟨first, second, rfl, hfirst, share, left, rfl, hshare, hleft⟩ :=
      together_append.mp hgoing
    refine ⟨h.limited, (fun hfilled => by cases hfilled), waiting, first + left, finished + share,
      ?_, hwaiting, together_append.mpr ⟨first, left, rfl, hfirst, hleft⟩, hfinished.add hshare⟩
    rw [hitems]
    abel
  | fail before after error hfilling hrunning => trivial
  | finish hfilling hrunning =>
    rw [hrunning] at hgoing
    rw [h.emptied hfilling hrunning] at hwaiting
    cases hgoing
    cases hwaiting
    rw [zero_add, zero_add] at hitems
    rw [hitems]
    exact hfinished

theorem Complete.step {state next : State ω ε Answer ρ} {label : Label ω Answer}
    (h : Complete report items state) (hstep : Step state label next) :
    Complete report items next := by
  rcases h with hflag | h
  · left
    cases hstep <;> first | rfl | exact hflag
  · cases hstep with
    | cancel => exact Or.inl rfl
    | main flag log hadvance =>
      cases flag with
      | true => exact Or.inl rfl
      | false => exact Or.inr (Ends.advance h hadvance)
    | stop flag log error => exact Or.inr trivial
    | launch flag log plan =>
      obtain ⟨hlimit, waiting, finished, hitems, hwaiting, hfinished⟩ := h
      refine Or.inr ⟨hlimit, (fun hfilling => by cases hfilling), waiting, 0, finished, ?_,
        hwaiting, rfl, hfinished⟩
      rw [hitems, zero_add]
    | turn flag log hturn =>
      cases flag with
      | true => exact Or.inl rfl
      | false => exact PoolOwes.turn h hturn
    | work flag log pool before after hfilling hrunning hadvance =>
      cases flag with
      | true => exact Or.inl rfl
      | false =>
        have hpool : PoolOwes report items pool := h
        obtain ⟨waiting, going, finished, hitems, hwaiting, hgoing, hfinished⟩ := hpool.owed
        rw [hrunning] at hgoing
        obtain ⟨first, second, rfl, hfirst, share, left, rfl, hshare, hleft⟩ :=
          together_append.mp hgoing
        refine Or.inr ⟨hpool.limited, ?_, waiting, first + (share + left), finished, hitems,
          hwaiting, together_append.mpr ⟨first, share + left, rfl, hfirst, share, left, rfl,
            Ends.advance hshare hadvance, hleft⟩, hfinished⟩
        intro _ hempty
        exact absurd hempty (List.append_ne_nil_of_right_ne_nil _ (List.cons_ne_nil _ _))

theorem reported_of_run {task : Task ω ε Answer (Plan ω ε Answer ρ)}
    (h : Ends (PlanOwes report items) task) {meets : State ω ε Answer ρ → Label ω Answer → Prop}
    {state : State ω ε Answer ρ} (hrun : Run meets (start task) state)
    (hflag : state.cancelled = false) {results : List ρ}
    (hstage : state.stage = .finished (.ok results)) : Reported report items results := by
  have hcomplete : Complete report items state :=
    hrun.keeps (fun hkept _ hstep => hkept.step hstep) (Or.inr h)
  rw [Complete, hstage] at hcomplete
  rcases hcomplete with hset | hreported
  · rw [hflag] at hset
    cases hset
  · exact hreported

end Runs

end TaskResults
