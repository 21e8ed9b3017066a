import VoyaVPN.ElevatedStop
import VoyaVPN.InputRuns

/-! An elevated stop that succeeds leaves nothing of the tree, as long as the tree hangs together
when the script looks at it. -/
namespace TreeKill

open PlatformProcess ProcessForest ElevatedStop

section Collecting

variable {schedule : Nat → List UInt32} {start : Processes} {root : UInt32}

/-- Up to the TERM the processes are those that the schedule has left. -/
def OnSchedule (schedule : Nat → List UInt32) (start : Processes) (system : System) : Prop :=
  system.processes = forestAt initPid schedule start system.clock

def Advances (schedule : Nat → List UInt32) (start : Processes) (system later : System) : Prop :=
  OnSchedule schedule start later ∧ system.clock ≤ later.clock

theorem pass_advances {system : System} (h : OnSchedule schedule start system) :
    Advances schedule start system (pass schedule system) := by
  refine ⟨?_, Nat.le_succ _⟩
  change endAll initPid (schedule system.clock) system.processes = _
  rw [h]
  rfl

theorem Advances.trans {system middle later : System} (h : Advances schedule start system middle)
    (hlater : Advances schedule start middle later) : Advances schedule start system later :=
  ⟨hlater.1, h.2.trans hlater.2⟩

theorem alive_of_advances {system later : System} (h : OnSchedule schedule start system)
    (hlater : Advances schedule start system later) {pid : UInt32}
    (halive : alive later.processes pid = true) : alive system.processes pid = true := by
  rw [hlater.1] at halive
  rw [h]
  exact alive_forestAt_of_le hlater.2 halive

theorem under_of_advances
    (hkeeps : ∀ time, KeepsParents root (forestAt initPid schedule start time) (schedule time))
    {system later : System} (h : OnSchedule schedule start system)
    (hlater : Advances schedule start system later) {parent child : UInt32}
    (hunder : Under root system.processes parent child)
    (halive : alive later.processes child = true) : Under root later.processes parent child := by
  rw [h] at hunder
  rw [hlater.1] at halive ⊢
  exact under_forestAt hkeeps hlater.2 hunder halive

theorem processMatchesExpected_advances {expected : List String} {pid : UInt32}
    {system later : System} {found : Bool} (h : OnSchedule schedule start system)
    (hcheck : processMatchesExpected schedule expected pid system = (found, later)) :
    Advances schedule start system later := by
  unfold processMatchesExpected processComm at hcheck
  dsimp only at hcheck
  split at hcheck <;> cases hcheck <;> exact pass_advances h

theorem anyChild_advances {check : UInt32 → System → Option (Bool × System)}
    (hcheck : ∀ child system found later, OnSchedule schedule start system →
      check child system = some (found, later) → Advances schedule start system later)
    {children : List UInt32} {system later : System} {found : Bool}
    (h : OnSchedule schedule start system)
    (hany : anyChild check children system = some (found, later)) :
    Advances schedule start system later := by
  induction children generalizing system with
  | nil =>
    cases hany
    exact ⟨h, le_rfl⟩
  | cons child children ih =>
    unfold anyChild at hany
    split at hany
    · cases hany
    · rename_i hfound
      cases hany
      exact hcheck _ _ _ _ h hfound
    · rename_i next hnext
      have hfirst := hcheck _ _ _ _ h hnext
      exact hfirst.trans (ih hfirst.1 hany)

theorem treeHasExpectedProcess_advances {expected : List String} {depth : Nat} {parent : UInt32}
    {system later : System} {found : Bool} (h : OnSchedule schedule start system)
    (hfound : treeHasExpectedProcess schedule expected depth parent system = some (found, later)) :
    Advances schedule start system later := by
  induction depth generalizing parent system found later with
  | zero => cases hfound
  | succ depth ih =>
    unfold treeHasExpectedProcess at hfound
    split at hfound
    · rename_i hmatches
      cases hfound
      exact processMatchesExpected_advances h hmatches
    · rename_i next hmatches
      have hfirst := processMatchesExpected_advances h hmatches
      have hlisted := pass_advances hfirst.1
      refine hfirst.trans (hlisted.trans (anyChild_advances ?_ hlisted.1 hfound))
      intro child system found later hsystem hcheck
      exact ih hsystem hcheck

/-- All that is below the parent and still lives when the walk is over has been collected. -/
def Collects (schedule : Nat → List UInt32) (start : Processes) (root : UInt32)
    (walk : UInt32 → System → Option (List UInt32 × System)) : Prop :=
  ∀ parent system found later, OnSchedule schedule start system →
    walk parent system = some (found, later) →
      Advances schedule start system later ∧
        ∀ child, Under root system.processes parent child → alive later.processes child = true →
          child ∈ found

theorem collectEach_spec
    (hkeeps : ∀ time, KeepsParents root (forestAt initPid schedule start time) (schedule time))
    {walk : UInt32 → System → Option (List UInt32 × System)}
    (hwalk : Collects schedule start root walk) {children : List UInt32} {system later : System}
    {found : List UInt32} (h : OnSchedule schedule start system)
    (hcollect : collectEach walk children system = some (found, later)) :
    Advances schedule start system later ∧
      ∀ child ∈ children, child ∈ found ∧
        ∀ below, Under root system.processes child below → alive later.processes below = true →
          below ∈ found := by
  induction children generalizing system found with
  | nil =>
    cases hcollect
    refine ⟨⟨h, le_rfl⟩, ?_⟩
    intro child hmem
    cases hmem
  | cons first children ih =>
    unfold collectEach at hcollect
    split at hcollect
    · cases hcollect
    · rename_i own middle hown
      split at hcollect
      · cases hcollect
      · rename_i others last hothers
        cases hcollect
        obtain ⟨hfirst, hbelowFirst⟩ := hwalk _ _ _ _ h hown
        obtain ⟨hrest, hbelowRest⟩ := ih hfirst.1 hothers
        refine ⟨hfirst.trans hrest, ?_⟩
        intro child hmem
        rcases List.mem_cons.mp hmem with rfl | hmem
        · refine ⟨List.mem_append_left _ List.mem_cons_self, ?_⟩
          intro below hunder halive
          have halive' := alive_of_advances hfirst.1 hrest halive
          exact List.mem_append_left _ (List.mem_cons_of_mem _ (hbelowFirst below hunder halive'))
        · obtain ⟨hchild, hbelow⟩ := hbelowRest child hmem
          refine ⟨List.mem_append_right _ hchild, ?_⟩
          intro below hunder halive
          have halive' := alive_of_advances hfirst.1 hrest halive
          have hunder' := under_of_advances hkeeps h hfirst hunder halive'
          exact List.mem_append_right _ (hbelow below hunder' halive)

theorem descendantPids_collects
    (hkeeps : ∀ time, KeepsParents root (forestAt initPid schedule start time) (schedule time))
    (depth : Nat) : Collects schedule start root (descendantPids schedule depth) := by
  induction depth with
  | zero =>
    intro parent system found later _ hwalk
    cases hwalk
  | succ depth ih =>
    intro parent system found later h hwalk
    have hlisted := pass_advances h
    obtain ⟨hrest, hcollected⟩ := collectEach_spec hkeeps ih hlisted.1 hwalk
    refine ⟨hlisted.trans hrest, ?_⟩
    intro child hunder halive
    have halive' := alive_of_advances hlisted.1 hrest halive
    obtain ⟨hparent, hline⟩ := under_of_advances hkeeps h hlisted hunder halive'
    obtain ⟨first, hfirst, hbelow⟩ := Relation.TransGen.head'_iff.mp hline
    obtain ⟨hfound, hbelowFirst⟩ := hcollected first hfirst
    rcases Relation.reflTransGen_iff_eq_or_transGen.mp hbelow with rfl | hbelow
    · exact hfound
    · exact hbelowFirst child ⟨.inr (below_root hparent (.single hfirst)), hbelow⟩ halive

end Collecting

section Ending

variable {schedule : Nat → List UInt32}

/-- Nothing is started: who lives later has lived before. -/
def Fewer (system later : System) : Prop :=
  ∀ pid, alive later.processes pid = true → alive system.processes pid = true

theorem Fewer.refl (system : System) : Fewer system system := fun _ h => h

theorem Fewer.trans {system middle later : System} (h : Fewer system middle)
    (hlater : Fewer middle later) : Fewer system later := fun pid halive => h pid
    (hlater pid halive)

theorem pass_fewer (system : System) : Fewer system (pass schedule system) :=
  fun _ halive => alive_of_endAll halive

theorem kill_fewer (pid : UInt32) (system : System) : Fewer system (kill schedule pid system) :=
  fun _ halive => alive_of_endAll (alive_of_endAll halive)

theorem terminate_fewer (ends : Bool) (pid : UInt32) (system : System) :
    Fewer system (terminate schedule ends pid system) := by
  intro other halive
  unfold terminate at halive
  dsimp only at halive
  split at halive
  · exact alive_of_endAll (alive_of_endAll halive)
  · exact alive_of_endAll halive

theorem killEach_fewer {killBelow : UInt32 → System → Option System}
    (hbelow : ∀ child system later, killBelow child system = some later → Fewer system later)
    {children : List UInt32} {system later : System}
    (h : killEach schedule killBelow children system = some later) : Fewer system later := by
  induction children generalizing system with
  | nil =>
    cases h
    exact Fewer.refl _
  | cons child children ih =>
    unfold killEach at h
    split at h
    · cases h
    · rename_i middle hmiddle
      have hfirst := hbelow _ _ _ hmiddle
      exact hfirst.trans ((kill_fewer child middle).trans (ih h))

theorem killChildren_fewer {depth : Nat} {parent : UInt32} {system later : System}
    (h : killChildren schedule depth parent system = some later) : Fewer system later := by
  induction depth generalizing parent system later with
  | zero => cases h
  | succ depth ih =>
    unfold killChildren at h
    refine (pass_fewer system).trans (killEach_fewer ?_ h)
    intro child system later hchild
    exact ih hchild

theorem waitForExit_spec {pid : UInt32} {attempts : Nat} {system later : System} {ended : Bool}
    (h : waitForExit schedule pid attempts system = (ended, later)) :
    Fewer system later ∧ (ended = true → alive later.processes pid = false) := by
  induction attempts generalizing system with
  | zero =>
    cases h
    exact ⟨Fewer.refl _, fun hended => by cases hended⟩
  | succ attempts ih =>
    unfold waitForExit isRunning at h
    dsimp only at h
    split at h
    · rename_i hgone
      cases h
      simp only [Prod.mk.injEq] at hgone
      obtain ⟨hgone, rfl⟩ := hgone
      exact ⟨pass_fewer system, fun _ => hgone⟩
    · rename_i hruns
      simp only [Prod.mk.injEq] at hruns
      obtain ⟨-, rfl⟩ := hruns
      obtain ⟨hfewer, hended⟩ := ih h
      exact ⟨(pass_fewer system).trans ((pass_fewer _).trans hfewer), hended⟩

theorem waitForAll_spec {children : List UInt32} {system later : System}
    {complaints : List String} (h : waitForAll schedule children system = (complaints, later)) :
    Fewer system later ∧
      (complaints = [] → ∀ child ∈ children, alive later.processes child = false) := by
  induction children generalizing system complaints with
  | nil =>
    cases h
    refine ⟨Fewer.refl _, ?_⟩
    intro _ child hmem
    cases hmem
  | cons first children ih =>
    unfold waitForAll at h
    split at h
    · rename_i middle hwait
      obtain ⟨hfirst, hgone⟩ := waitForExit_spec hwait
      obtain ⟨hrest, hended⟩ := ih h
      refine ⟨hfirst.trans hrest, ?_⟩
      intro hnone child hmem
      rcases List.mem_cons.mp hmem with rfl | hmem
      · by_contra halive
        have hbefore := hrest child (by simpa using halive)
        rw [hgone rfl] at hbefore
        cases hbefore
      · exact hended hnone child hmem
    · rename_i middle hwait
      obtain ⟨hfirst, -⟩ := waitForExit_spec hwait
      generalize hall : waitForAll schedule children middle = rest at h
      obtain ⟨others, last⟩ := rest
      cases h
      exact ⟨hfirst.trans (ih hall).1, fun hnone => by cases hnone⟩

theorem terminateTree_spec {attempt : StopAttempt} {pid : UInt32} {descendants : List UInt32}
    {system later : System} {output : ProcessOutput}
    (h : terminateTree attempt pid descendants system = some (output, later)) :
    Fewer system later ∧ (output.statusCode = some 0 →
      ∀ child ∈ descendants, alive later.processes child = false) := by
  unfold terminateTree isRunning at h
  dsimp only at h
  obtain ⟨killed, hkilled, hrest⟩ := Option.map_eq_some_iff.mp h
  clear h
  have hfewer : Fewer system killed := by
    have hterminated : Fewer system
        (terminate attempt.after attempt.rootEndsOnTerm pid system) :=
      terminate_fewer attempt.rootEndsOnTerm pid system
    refine hterminated.trans (Fewer.trans (@pass_fewer attempt.after _) ?_)
    refine Fewer.trans (@pass_fewer attempt.after _) ?_
    split at hkilled
    · obtain ⟨below, hbelow, rfl⟩ := Option.map_eq_some_iff.mp hkilled
      exact (killChildren_fewer hbelow).trans (kill_fewer pid below)
    · cases hkilled
      exact Fewer.refl _
  generalize hroot : waitForExit attempt.after pid waitAttempts killed = waited at hrest
  obtain ⟨ended, middle⟩ := waited
  dsimp only at hrest
  generalize hall : waitForAll attempt.after descendants middle = rest at hrest
  obtain ⟨complaints, last⟩ := rest
  cases hrest
  obtain ⟨hmiddle, -⟩ := waitForExit_spec hroot
  obtain ⟨hlast, hgone⟩ := waitForAll_spec hall
  refine ⟨hfewer.trans (hmiddle.trans hlast), ?_⟩
  intro hcode
  apply hgone
  cases complaints with
  | nil => rfl
  | cons complaint complaints =>
    simp [exitWith] at hcode

end Ending

/-- What an attempt finds and what it meets: all that lives of the tree still descends from the
living root, and until the TERM no living descendant of the root loses its parent. -/
def TreeIntact (pid : UInt32) (tree : UInt32 → Prop) (state : StopState) (attempt : StopAttempt) :
    Prop :=
  state.stopped = false →
    (∀ child, tree child → alive state.processes child = true →
      alive state.processes pid = true ∧ Descends state.processes pid child) ∧
    ∀ time, KeepsParents pid (forestAt initPid attempt.before state.processes time)
      (attempt.before time)

/-- A successful script leaves nothing below a living root: at the first check the root is gone
and all below it, or what lives at the end has been collected and waited for. -/
theorem unixSudoKillBody_spec {script : String} {attempt : StopAttempt} {pid : UInt32}
    {expected : List String} {processes later : Processes} {output : ProcessOutput}
    (h : unixSudoKillBody script attempt pid expected processes = some (output, later))
    (hsuccess : output.statusCode = some 0)
    (hkeeps : ∀ time, KeepsParents pid (forestAt initPid attempt.before processes time)
      (attempt.before time)) {child : UInt32} (halive : alive later child = true) :
    alive processes child = true ∧
      (alive processes pid = true → ¬ Descends processes pid child) := by
  have hstart : OnSchedule attempt.before processes { processes } := rfl
  have hfirst := pass_advances hstart
  unfold unixSudoKillBody isRunning at h
  dsimp only at h
  split at h
  · cases h
    cases hsuccess
  · split at h
    · rename_i hgone
      cases h
      refine ⟨alive_of_endAll halive, ?_⟩
      intro hroot hline
      have hlives : alive (forestAt initPid attempt.before processes 1) child = true := halive
      have hruns : alive (forestAt initPid attempt.before processes 1) pid = true :=
        root_forestAt hkeeps hroot hline hlives
      rw [Bool.not_eq_true'] at hgone
      exact absurd (hruns.symm.trans hgone) (by decide)
    · split at h
      · cases h
      · cases h
        cases hsuccess
      · rename_i middle htree
        have hchecked := treeHasExpectedProcess_advances hfirst.1 htree
        split at h
        · cases h
        · rename_i descendants last hcollect
          obtain ⟨⟨result, final⟩, hterminate, hresult⟩ := Option.map_eq_some_iff.mp h
          cases hresult
          obtain ⟨hfewer, hended⟩ := terminateTree_spec hterminate
          obtain ⟨hcollected, hall⟩ :=
            descendantPids_collects hkeeps attempt.depth _ _ _ _ hchecked.1 hcollect
          have hlast : alive last.processes child = true := hfewer child halive
          refine ⟨alive_of_advances hstart (hfirst.trans (hchecked.trans hcollected)) hlast, ?_⟩
          intro _ hline
          have hmiddle := alive_of_advances hchecked.1 hcollected hlast
          have hunder := under_of_advances hkeeps hstart (hfirst.trans hchecked)
            ⟨.inl rfl, hline⟩ hmiddle
          have hgone := hended hsuccess child (hall child hunder hlast)
          exact absurd (halive.symm.trans hgone) (by decide)

theorem success_of_treatedAsStopped {pid : UInt32} {output : ProcessOutput}
    (h : treatedAsStopped pid output = true) : output.statusCode = some 0 := by
  by_contra hcode
  unfold treatedAsStopped Supervisor.ensureSudoKillSuccess at h
  rw [if_neg hcode] at h
  cases h

def NoneLeft (tree : UInt32 → Prop) (state : StopState) : Prop :=
  state.stopped = true → ∀ child, tree child → alive state.processes child = false

theorem step_keeps {script : String} {pid : UInt32} {expected : List String}
    {tree : UInt32 → Prop} (state : StopState) (attempt : StopAttempt) (h : NoneLeft tree state)
    (hintact : TreeIntact pid tree state attempt) :
    NoneLeft tree (step script pid expected state attempt) := by
  unfold step
  split
  · exact h
  · rename_i hgoesOn
    have hrunning : state.stopped = false := by
      cases hstopped : state.stopped with
      | false => rfl
      | true => simp [hstopped] at hgoesOn
    obtain ⟨htree, hkeeps⟩ := hintact hrunning
    split
    · exact h
    · rename_i output processes hbody
      intro hstopped child hmem
      have hsuccess := success_of_treatedAsStopped hstopped
      cases hlives : alive (endAll initPid attempt.between processes) child with
      | false => rfl
      | true =>
        obtain ⟨hbefore, hunrelated⟩ :=
          unixSudoKillBody_spec hbody hsuccess hkeeps (alive_of_endAll hlives)
        obtain ⟨hroot, hline⟩ := htree child hmem hbefore
        exact absurd hline (hunrelated hroot)

/-- For every forest, root and sequence of attempts in which the tree hangs together whenever
the script looks at it: once the supervisor treats the process as stopped, nothing of the tree
is left. -/
theorem elevated_stop_kills_tree (script : String) (pid : UInt32) (expected : List String)
    (processes : Processes) (attempts : List StopAttempt)
    (h : InputRuns.Meets (step script pid expected)
      (TreeIntact pid (Descends processes pid)) { processes } attempts) :
    let state := attempts.foldl (step script pid expected) { processes }
    state.stopped = true →
      ∀ child, Descends processes pid child → alive state.processes child = false :=
  InputRuns.invariant_of_meets (step script pid expected) step_keeps
    (fun hstopped => by cases hstopped) h

def elevatedCore : Processes :=
  [{ pid := 100, parent := 1, comm := "sudo" }, { pid := 101, parent := 100, comm := "sing-box" }]

theorem elevated_stop_kills_tree_killed :
    alive ([{ depth := 3 }].foldl (step "voya-elevate" 100 ["sing-box"])
      { processes := elevatedCore }).processes 101 = false := by
  refine elevated_stop_kills_tree "voya-elevate" 100 ["sing-box"] elevatedCore [{ depth := 3 }]
    ⟨?_, trivial⟩ (by decide) 101 (.single (by unfold Child; decide))
  intro _
  refine ⟨fun child hline _ => ⟨rfl, hline⟩, ?_⟩
  intro time parent child _ _ _ hended
  cases hended

/-- The root ends on TERM and its core does not: the first attempt fails, and the second one
finds no root and succeeds. -/
theorem elevated_stop_kills_tree_counterexample :
    ¬ ∀ (script : String) (pid : UInt32) (expected : List String) (processes : Processes)
        (attempts : List StopAttempt),
      let state := attempts.foldl (step script pid expected) { processes }
      state.stopped = true →
        ∀ child, Descends processes pid child → alive state.processes child = false := by
  intro h
  have hgone := h "voya-elevate" 100 ["sing-box"] elevatedCore
    [{ rootEndsOnTerm := true, depth := 3 }, { depth := 3 }] (by decide) 101
    (.single (by unfold Child; decide))
  have hlives : alive (([{ rootEndsOnTerm := true, depth := 3 }, { depth := 3 }].foldl
      (step "voya-elevate" 100 ["sing-box"]) { processes := elevatedCore }).processes) 101
        = true := by
    decide
  exact absurd (hlives.symm.trans hgone) (by decide)

end TreeKill
