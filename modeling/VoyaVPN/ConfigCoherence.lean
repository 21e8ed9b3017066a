import VoyaVPN.ConfigMutation
import VoyaVPN.InputRuns

/-! The published configuration, the stored one and the drafts stay in step, in whatever order
the mutations of the tasks proceed. -/
namespace ConfigCoherence

open AppConfig SettingsSave ConfigMutation ConfigMutationCoordinator

variable {ρ : Type}

/-- The stored settings and active ids are those of the configuration. -/
def Persists (database : Database ρ) (config : Config) : Prop :=
  database.appSettings = some { schemaVersion := currentSchemaVersion,
                                payload := settingsFromAppConfig config } ∧
    database.appState = stateFromAppConfig config

def applyEdits (edits : List (Config → Config)) (config : Config) : Config :=
  edits.foldl (fun config edit => edit config) config

/-- The draft of the last commit that returned, before the first one the initial configuration.
Commits are listed from the last one on. -/
def lastDraft (initial : Config) : List Commit → Config
  | [] => initial
  | commit :: _ => commit.draft

/-- Each commit began with the draft of the one before it and edited nothing else. -/
def Derived (initial : Config) : List Commit → Prop
  | [] => True
  | commit :: earlier =>
    commit.base = lastDraft initial earlier ∧ commit.draft = applyEdits commit.edits commit.base ∧
      Derived initial earlier

def guardOf : Phase ρ → Option (ConfigMutationGuard ρ)
  | .idle | .opening _ => none
  | .editing guard | .savingSettings guard _ _ | .savingState guard _ | .committing guard
  | .committed guard => some guard

/-- The draft of a commit that the database has carried out and that has not returned yet. -/
def pendingDraft (coordinator : ConfigMutationCoordinator ρ) : Option Config :=
  match coordinator.mutationLock with
  | none => none
  | some task =>
    match coordinator.phase task with
    | .committed guard => some guard.workingConfig
    | _ => none

def DraftOf (config : Config) (guard : ConfigMutationGuard ρ) : Prop :=
  guard.base = config ∧ guard.workingConfig = applyEdits guard.edits config

structure InStep (initial : Config) (coordinator : ConfigMutationCoordinator ρ) : Prop where
  published : coordinator.config = lastDraft initial coordinator.commits
  derived : Derived initial coordinator.commits
  drafts : ∀ (task : Nat) (guard : ConfigMutationGuard ρ),
    guardOf (coordinator.phase task) = some guard → DraftOf coordinator.config guard
  persisted : Persists coordinator.database
    ((pendingDraft coordinator).getD coordinator.config)

/-- The two events of a successful commit: the database carries it out, and it returns. -/
def Succeeds : MutationEvent ρ → Prop
  | .databaseCommits _ (.ok _) | .publishes _ => True
  | _ => False

/-- No task is dropped while it waits for a commit that is carried out all the same. -/
def NotCutShort (coordinator : ConfigMutationCoordinator ρ) : MutationEvent ρ → Prop
  | .dropped task carriedOut =>
    match coordinator.phase task with
    | .committing _ => carriedOut = false
    | .committed _ => False
    | _ => True
  | _ => True

def initially (database : Database ρ) (config : Config) : ConfigMutationCoordinator ρ :=
  { database, config }

theorem idOf_getD {id : Option String} (h : id ≠ some "") :
    (if id.getD "" ≠ "" then some (id.getD "") else none) = id := by
  cases id with
  | none => rfl
  | some text =>
    have htext : text ≠ "" := fun hempty => h (congrArg some hempty)
    exact if_pos htext

/-- What the program starts with is in step: the ids of stored rows are not empty. -/
theorem loadConfig_persists {database saved : Database ρ} {config : Config}
    (h : loadConfig database = .ok (config, saved))
    (hprofile : database.appState.activeProfileId ≠ some "")
    (hrouting : database.appState.activeRoutingId ≠ some "") : Persists saved config := by
  obtain ⟨settings, hload, h⟩ := ok_of_bind_ok h
  obtain ⟨payload, hvalid, h⟩ := ok_of_bind_ok h
  obtain ⟨read, hread, h⟩ := ok_of_bind_ok h
  cases h
  have hread := ok_of_mapError_ok hread
  obtain ⟨hversion, rfl⟩ := version_of_validatedPayload (ok_of_mapError_ok hvalid)
  obtain ⟨hindex, hroutingIndex⟩ := ids_of_appConfigFromSettings hread
  refine ⟨?_, ?_⟩
  · rw [settingsFromAppConfig_of_appConfigFromSettings hread hversion]
    rfl
  · unfold stateFromAppConfig
    rw [hindex, hroutingIndex, idOf_getD hprofile, idOf_getD hrouting]
    rfl

/-- What each phase has prepared: the draft is of the published configuration, and what is
staged in the transaction is the draft's. -/
def PhaseInvariant (config : Config) : Phase ρ → Prop
  | .idle => True
  | .opening working => working = config
  | .editing guard | .committed guard => DraftOf config guard
  | .savingSettings guard payload state =>
    DraftOf config guard ∧ payload = settingsFromAppConfig guard.workingConfig ∧
      state = stateFromAppConfig guard.workingConfig
  | .savingState guard state =>
    DraftOf config guard ∧
      guard.unitOfWork.appSettings = some { schemaVersion := currentSchemaVersion,
                                            payload := settingsFromAppConfig guard.workingConfig } ∧
      state = stateFromAppConfig guard.workingConfig
  | .committing guard => DraftOf config guard ∧ Persists guard.unitOfWork guard.workingConfig

structure CoordinatorInvariant (initial : Config) (coordinator : ConfigMutationCoordinator ρ) :
    Prop where
  published : coordinator.config = lastDraft initial coordinator.commits
  derived : Derived initial coordinator.commits
  holder : ∀ (task : Nat), coordinator.phase task ≠ .idle → coordinator.mutationLock = some task
  phases : ∀ (task : Nat), PhaseInvariant coordinator.config (coordinator.phase task)
  persisted : Persists coordinator.database ((pendingDraft coordinator).getD coordinator.config)

theorem draftOf_of_phaseInvariant {config : Config} {phase : Phase ρ}
    {guard : ConfigMutationGuard ρ} (h : PhaseInvariant config phase)
    (hguard : guardOf phase = some guard) : DraftOf config guard := by
  cases phase with
  | idle => cases hguard
  | opening working => cases hguard
  | editing held => cases hguard; exact h
  | savingSettings held payload state => cases hguard; exact h.1
  | savingState held state => cases hguard; exact h.1
  | committing held => cases hguard; exact h.1
  | committed held => cases hguard; exact h

theorem inStep_of_invariant {initial : Config} {coordinator : ConfigMutationCoordinator ρ}
    (h : CoordinatorInvariant initial coordinator) : InStep initial coordinator where
  published := h.published
  derived := h.derived
  drafts task _ hguard := draftOf_of_phaseInvariant (h.phases task) hguard
  persisted := h.persisted

theorem invariant_initially {database : Database ρ} {config : Config}
    (h : Persists database config) :
    CoordinatorInvariant config (initially database config) where
  published := rfl
  derived := trivial
  holder _ hbusy := absurd rfl hbusy
  phases _ := trivial
  persisted := h

section Steps

variable {initial : Config} {coordinator : ConfigMutationCoordinator ρ} {task : Nat}

theorem others_idle (h : CoordinatorInvariant initial coordinator)
    (hheld : coordinator.mutationLock = some task) {other : Nat} (hother : other ≠ task) :
    coordinator.phase other = .idle := by
  by_contra hbusy
  have hholder := h.holder other hbusy
  rw [hheld] at hholder
  cases hholder
  exact hother rfl

theorem release_phase (h : CoordinatorInvariant initial coordinator)
    (hheld : coordinator.mutationLock = some task) (other : Nat) :
    (coordinator.release task).phase other = .idle := by
  by_cases hother : other = task
  · rw [hother]
    exact enter_phase coordinator task .idle
  · exact (enter_phase_of_ne coordinator .idle hother).trans (others_idle h hheld hother)

theorem pendingDraft_of_phase (hheld : coordinator.mutationLock = some task)
    (hphase : ∀ guard, coordinator.phase task ≠ .committed guard) :
    pendingDraft coordinator = none := by
  unfold pendingDraft
  rw [hheld]
  dsimp only
  split
  · rename_i guard heq
    exact absurd heq (hphase guard)
  · rfl

theorem pendingDraft_of_committed {guard : ConfigMutationGuard ρ}
    (hheld : coordinator.mutationLock = some task)
    (hphase : coordinator.phase task = .committed guard) :
    pendingDraft coordinator = some guard.workingConfig := by
  unfold pendingDraft
  rw [hheld]
  dsimp only
  rw [hphase]

/-- A task goes on to a phase that it has prepared and that changes nothing outside of it. -/
theorem enter_keeps (h : CoordinatorInvariant initial coordinator)
    (hheld : coordinator.mutationLock = some task) {phase : Phase ρ}
    (hbefore : ∀ guard, coordinator.phase task ≠ .committed guard)
    (hafter : ∀ guard, phase ≠ .committed guard)
    (hphase : PhaseInvariant coordinator.config phase) :
    CoordinatorInvariant initial (coordinator.enter task phase) where
  published := h.published
  derived := h.derived
  holder other hbusy := by
    by_cases hother : other = task
    · rw [hother]
      exact hheld
    · rw [enter_phase_of_ne coordinator phase hother] at hbusy
      exact h.holder other hbusy
  phases other := by
    by_cases hother : other = task
    · rw [hother, enter_phase]
      exact hphase
    · rw [enter_phase_of_ne coordinator phase hother]
      exact h.phases other
  persisted := by
    have hnone : pendingDraft (coordinator.enter task phase) = none := by
      apply @pendingDraft_of_phase _ (coordinator.enter task phase) task hheld
      intro guard
      rw [enter_phase]
      exact hafter guard
    have hpersisted := h.persisted
    rw [pendingDraft_of_phase hheld hbefore] at hpersisted
    rw [hnone]
    exact hpersisted

theorem release_keeps (h : CoordinatorInvariant initial coordinator)
    (hheld : coordinator.mutationLock = some task)
    (hbefore : ∀ guard, coordinator.phase task ≠ .committed guard) :
    CoordinatorInvariant initial (coordinator.release task) where
  published := h.published
  derived := h.derived
  holder other hbusy := absurd (release_phase h hheld other) hbusy
  phases other := by
    rw [release_phase h hheld other]
    trivial
  persisted := by
    have hpersisted := h.persisted
    rw [pendingDraft_of_phase hheld hbefore] at hpersisted
    exact hpersisted

theorem locks_keeps (h : CoordinatorInvariant initial coordinator) :
    CoordinatorInvariant initial (coordinator.locks task) := by
  unfold locks
  split
  · rename_i hfree hidle
    have hallIdle : ∀ other, coordinator.phase other = .idle := by
      intro other
      by_contra hbusy
      have hholder := h.holder other hbusy
      rw [hfree] at hholder
      cases hholder
    have hpersisted := h.persisted
    simp only [pendingDraft, hfree, Option.getD_none] at hpersisted
    refine ⟨h.published, h.derived, ?_, ?_, ?_⟩
    · intro other hbusy
      by_cases hother : other = task
      · rw [hother]
      · exact absurd ((enter_phase_of_ne coordinator _ hother).trans (hallIdle other)) hbusy
    · intro other
      by_cases hother : other = task
      · rw [hother]
        change PhaseInvariant _ ((coordinator.enter task _).phase task)
        rw [enter_phase]
        rfl
      · change PhaseInvariant _ ((coordinator.enter task _).phase other)
        rw [enter_phase_of_ne coordinator _ hother, hallIdle other]
        trivial
    · rw [pendingDraft_of_phase rfl]
      · exact hpersisted
      · intro guard hcommitted
        have hopening := enter_phase coordinator task (.opening coordinator.config)
        rw [hopening] at hcommitted
        cases hcommitted
  · exact h

/-- The phase a task is in says what it has prepared and that it holds the lock. -/
theorem phase_spec (h : CoordinatorInvariant initial coordinator) {phase : Phase ρ}
    (hphase : coordinator.phase task = phase) (hbusy : phase ≠ .idle) :
    coordinator.mutationLock = some task ∧ PhaseInvariant coordinator.config phase := by
  subst hphase
  exact ⟨h.holder task hbusy, h.phases task⟩

theorem begins_keeps (h : CoordinatorInvariant initial coordinator) (answer : Except String Unit) :
    CoordinatorInvariant initial (coordinator.begins task answer) := by
  unfold begins
  split
  · rename_i working _ hphase
    obtain ⟨hheld, hworking⟩ := phase_spec h hphase (by simp)
    exact enter_keeps h hheld (by simp [hphase]) (by simp) ⟨hworking, hworking⟩
  · rename_i working _ hphase
    obtain ⟨hheld, -⟩ := phase_spec h hphase (by simp)
    exact release_keeps h hheld (by simp [hphase])
  · exact h

theorem applyEdits_append (edits : List (Config → Config)) (edit : Config → Config)
    (config : Config) : applyEdits (edits ++ [edit]) config = edit (applyEdits edits config) := by
  unfold applyEdits
  rw [List.foldl_append]
  rfl

theorem edits_keeps (h : CoordinatorInvariant initial coordinator) (onConfig : Config → Config)
    (onRows : Database ρ → Database ρ) :
    CoordinatorInvariant initial (coordinator.edits task onConfig onRows) := by
  unfold edits
  split
  · rename_i guard hphase
    obtain ⟨hheld, hbase, hdraft⟩ := phase_spec h hphase (by simp)
    refine enter_keeps h hheld (by simp [hphase]) (by simp) ⟨hbase, ?_⟩
    change onConfig guard.workingConfig = applyEdits (guard.edits ++ [onConfig]) _
    rw [applyEdits_append, hdraft]
  · exact h

theorem commit_keeps (h : CoordinatorInvariant initial coordinator) :
    CoordinatorInvariant initial (coordinator.commit task) := by
  unfold commit
  split
  · rename_i guard hphase
    obtain ⟨hheld, hdraft⟩ := phase_spec h hphase (by simp)
    dsimp only
    rw [validatedPayload_settingsFromAppConfig]
    exact enter_keeps h hheld (by simp [hphase]) (by simp) ⟨hdraft, rfl, rfl⟩
  · exact h

theorem savesSettings_keeps (h : CoordinatorInvariant initial coordinator)
    (answer : Except String Unit) :
    CoordinatorInvariant initial (coordinator.savesSettings task answer) := by
  unfold savesSettings
  split
  · rename_i guard payload state _ hphase
    obtain ⟨hheld, hdraft, hpayload, hstate⟩ := phase_spec h hphase (by simp)
    refine enter_keeps h hheld (by simp [hphase]) (by simp) ⟨hdraft, ?_, hstate⟩
    rw [hpayload]
    rfl
  · rename_i hphase
    obtain ⟨hheld, -⟩ := phase_spec h hphase (by simp)
    exact release_keeps h hheld (by simp [hphase])
  · exact h

theorem savesState_keeps (h : CoordinatorInvariant initial coordinator)
    (answer : Except String Unit) :
    CoordinatorInvariant initial (coordinator.savesState task answer) := by
  unfold savesState
  split
  · rename_i guard state _ hphase
    obtain ⟨hheld, hdraft, hsettings, hstate⟩ := phase_spec h hphase (by simp)
    exact enter_keeps h hheld (by simp [hphase]) (by simp) ⟨hdraft, hsettings, hstate⟩
  · rename_i hphase
    obtain ⟨hheld, -⟩ := phase_spec h hphase (by simp)
    exact release_keeps h hheld (by simp [hphase])
  · exact h

/-- From here on the stored configuration is the draft, and the published one follows. -/
theorem databaseCommits_keeps (h : CoordinatorInvariant initial coordinator)
    (answer : Except String Unit) :
    CoordinatorInvariant initial (coordinator.databaseCommits task answer) := by
  unfold databaseCommits
  split
  · rename_i guard _ hphase
    obtain ⟨hheld, hdraft, hstaged⟩ := phase_spec h hphase (by simp)
    refine ⟨h.published, h.derived, ?_, ?_, ?_⟩
    · intro other hbusy
      by_cases hother : other = task
      · rw [hother]
        exact hheld
      · exact absurd ((enter_phase_of_ne coordinator _ hother).trans
          (others_idle h hheld hother)) hbusy
    · intro other
      by_cases hother : other = task
      · rw [hother]
        change PhaseInvariant _ ((coordinator.enter task _).phase task)
        rw [enter_phase]
        exact hdraft
      · change PhaseInvariant _ ((coordinator.enter task _).phase other)
        rw [enter_phase_of_ne coordinator _ hother, others_idle h hheld hother]
        trivial
    · have hpending : pendingDraft
          { coordinator.enter task (.committed guard) with database := guard.unitOfWork } =
            some guard.workingConfig :=
        pendingDraft_of_committed hheld (enter_phase coordinator task (.committed guard))
      rw [hpending]
      exact hstaged
  · rename_i hphase
    obtain ⟨hheld, -⟩ := phase_spec h hphase (by simp)
    exact release_keeps h hheld (by simp [hphase])
  · exact h

/-- The published configuration catches up, and the commit is the next of the log. -/
theorem publishes_keeps (h : CoordinatorInvariant initial coordinator) :
    CoordinatorInvariant initial (coordinator.publishes task) := by
  unfold publishes
  split
  · rename_i guard hphase
    obtain ⟨hheld, hbase, hdraft⟩ := phase_spec h hphase (by simp)
    refine ⟨rfl, ⟨hbase.trans h.published, ?_, h.derived⟩, ?_, ?_, ?_⟩
    · change guard.workingConfig = applyEdits guard.edits guard.base
      rw [hbase, hdraft]
    · intro other hbusy
      exact absurd (release_phase h hheld other) hbusy
    · intro other
      change PhaseInvariant _ ((coordinator.release task).phase other)
      rw [release_phase h hheld other]
      trivial
    · have hpersisted := h.persisted
      rw [pendingDraft_of_committed hheld hphase] at hpersisted
      exact hpersisted
  · exact h

theorem dropped_keeps (h : CoordinatorInvariant initial coordinator) {carriedOut : Bool}
    (hcut : NotCutShort coordinator (.dropped task carriedOut)) :
    CoordinatorInvariant initial (coordinator.dropped task carriedOut) := by
  unfold NotCutShort at hcut
  unfold dropped
  split
  · exact h
  · rename_i guard hphase
    obtain ⟨hheld, -⟩ := phase_spec h hphase (by simp)
    simp only [hphase] at hcut
    simp only [hcut, Bool.false_eq_true, if_false]
    exact release_keeps h hheld (by simp [hphase])
  · rename_i hbusy hnotCommitting
    have hheld := h.holder task hbusy
    apply release_keeps h hheld
    intro guard hphase
    simp only [hphase] at hcut

end Steps

theorem step_keeps {initial : Config} (coordinator : ConfigMutationCoordinator ρ)
    (event : MutationEvent ρ) (h : CoordinatorInvariant initial coordinator)
    (hcut : NotCutShort coordinator event) :
    CoordinatorInvariant initial (step coordinator event) := by
  cases event with
  | locks task => exact locks_keeps h
  | begins task answer => exact begins_keeps h answer
  | edits task onConfig onRows => exact edits_keeps h onConfig onRows
  | commits task => exact commit_keeps h
  | savesSettings task answer => exact savesSettings_keeps h answer
  | savesState task answer => exact savesState_keeps h answer
  | databaseCommits task answer => exact databaseCommits_keeps h answer
  | publishes task => exact publishes_keeps h
  | dropped task carriedOut => exact dropped_keeps h hcut

/-- Nothing but a successful commit touches the published configuration or the database. -/
theorem step_frame {coordinator : ConfigMutationCoordinator ρ} {event : MutationEvent ρ}
    (hfails : ¬ Succeeds event) (hcut : NotCutShort coordinator event) :
    (step coordinator event).config = coordinator.config ∧
      (step coordinator event).database = coordinator.database := by
  cases event with
  | locks task => simp only [step, locks]; split <;> exact ⟨rfl, rfl⟩
  | begins task answer => simp only [step, begins]; split <;> exact ⟨rfl, rfl⟩
  | edits task onConfig onRows => simp only [step, edits]; split <;> exact ⟨rfl, rfl⟩
  | commits task =>
    simp only [step, commit, validatedPayload_settingsFromAppConfig]
    split <;> exact ⟨rfl, rfl⟩
  | savesSettings task answer => simp only [step, savesSettings]; split <;> exact ⟨rfl, rfl⟩
  | savesState task answer => simp only [step, savesState]; split <;> exact ⟨rfl, rfl⟩
  | databaseCommits task answer =>
    simp only [step, databaseCommits]
    split
    · exact absurd trivial hfails
    · exact ⟨rfl, rfl⟩
    · exact ⟨rfl, rfl⟩
  | publishes task => exact absurd trivial hfails
  | dropped task carriedOut =>
    simp only [step, dropped]
    split
    · exact ⟨rfl, rfl⟩
    · rename_i hphase
      simp only [NotCutShort, hphase] at hcut
      simp only [hcut, Bool.false_eq_true, if_false]
      exact ⟨rfl, rfl⟩
    · exact ⟨rfl, rfl⟩

/-- In every run in which no task is dropped while a commit of its is carried out, the
configuration, the database and the drafts stay in step, and all that fails or is dropped
leaves both as they were. -/
theorem mutations_in_step (database : Database ρ) (initial : Config)
    (hinitial : Persists database initial) (events : List (MutationEvent ρ))
    (h : InputRuns.Meets step NotCutShort (initially database initial) events) :
    let coordinator := events.foldl step (initially database initial)
    InStep initial coordinator ∧
      ∀ event, ¬ Succeeds event → NotCutShort coordinator event →
        (step coordinator event).config = coordinator.config ∧
          (step coordinator event).database = coordinator.database := by
  have hinv : CoordinatorInvariant initial (events.foldl step (initially database initial)) :=
    InputRuns.invariant_of_meets step step_keeps (invariant_initially hinitial) h
  exact ⟨inStep_of_invariant hinv, fun _ hfails hcut => step_frame hfails hcut⟩

/-- A task edits and commits; its commit is carried out and is still to return. -/
def carriedOutCommit : List (MutationEvent Unit) :=
  [.locks 0, .begins 0 (.ok ()),
    .edits 0 (fun config => { config with uiItem := { currentLanguage := "fr" } }) id, .commits 0,
    .savesSettings 0 (.ok ()), .savesState 0 (.ok ()), .databaseCommits 0 (.ok ())]

def committedRun : List (MutationEvent Unit) := carriedOutCommit ++ [.publishes 0]

def droppedRun : List (MutationEvent Unit) := carriedOutCommit ++ [.dropped 0 true]

def freshDatabase : Database Unit :=
  saveStateOn (saveSettingsOn { rows := () } (settingsFromAppConfig {})) (stateFromAppConfig {})

theorem mutations_in_step_committedRun :
    InStep {} (committedRun.foldl step (initially freshDatabase {})) := by
  refine (mutations_in_step freshDatabase {} ⟨rfl, rfl⟩ committedRun ?_).1
  simp [committedRun, carriedOutCommit, InputRuns.Meets, NotCutShort]

/-- A task that is dropped before its commit returns leaves the database ahead. -/
theorem mutations_in_step_counterexample :
    ¬ ∀ (database : Database Unit) (initial : Config), Persists database initial →
      ∀ events : List (MutationEvent Unit),
        InStep initial (events.foldl step (initially database initial)) := by
  intro h
  have hsettings := (h freshDatabase {} ⟨rfl, rfl⟩ droppedRun).persisted.1
  have hlanguage := congrArg
    (Option.map fun row : AppSettingsRow => row.payload.appearance.language) hsettings
  have hdiffer : some "fr" ≠ some "en" := by decide
  exact hdiffer hlanguage

end ConfigCoherence
