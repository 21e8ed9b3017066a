import VoyaVPN.SettingsSave
import Mathlib.Logic.Function.Basic

/-! The coordinator of configuration changes: one mutation at a time holds the lock, works on a
copy of the published configuration and on a transaction, and publishes its copy once the
transaction is committed. Each event is what one task or the database does between two waits. -/
namespace ConfigMutation

open AppConfig SettingsSave

inductive DbError where
  | sqlx (message : String)
  | unsupportedDatabaseSchema (path : String) (found : Option Int) (expected : Int)
      (manualResetCommand : String)
  deriving DecidableEq, Repr

structure AppSettingsRow where
  schemaVersion : Int
  payload : AppSettingsV1
  deriving DecidableEq, Repr

/-- What is stored: the one row of the settings table, the one row of the state table and the
tables of the business rows. -/
structure Database (ρ : Type) where
  appSettings : Option AppSettingsRow := none
  appState : AppStateRecord := {}
  rows : ρ
  deriving DecidableEq

def settingsResetCommand : String :=
  "remove the Voya database file reported at startup, then restart VoyaVPN"

variable {ρ : Type}

def loadSettings (database : Database ρ) : Except DbError AppSettingsV1 :=
  match database.appSettings with
  | none => .ok {}
  | some row =>
    if row.schemaVersion ≠ currentSchemaVersion then
      .error (.unsupportedDatabaseSchema "app_settings" (some row.schemaVersion)
        currentSchemaVersion settingsResetCommand)
    else if row.payload.schemaVersion ≠ currentSchemaVersion then
      .error (.unsupportedDatabaseSchema "app_settings.payload"
        (some row.payload.schemaVersion) currentSchemaVersion settingsResetCommand)
    else .ok row.payload

def validatedPayload (settings : AppSettingsV1) : Except DbError AppSettingsV1 :=
  if settings.schemaVersion ≠ currentSchemaVersion then
    .error (.unsupportedDatabaseSchema "app_settings.payload" (some settings.schemaVersion)
      currentSchemaVersion settingsResetCommand)
  else .ok settings

def saveSettingsOn (database : Database ρ) (payload : AppSettingsV1) : Database ρ :=
  { database with appSettings := some { schemaVersion := currentSchemaVersion, payload } }

def saveStateOn (database : Database ρ) (state : AppStateRecord) : Database ρ :=
  { database with appState := state }

inductive AppServicesError where
  | database (error : DbError)
  | settings (error : SettingsContractError)
  deriving DecidableEq, Repr

/-- The start of the program: what is stored is saved again and read into a configuration. -/
def loadConfig (database : Database ρ) : Except AppServicesError (Config × Database ρ) := do
  let settings ← (loadSettings database).mapError .database
  let payload ← (validatedPayload settings).mapError .database
  let saved := saveStateOn (saveSettingsOn database payload) database.appState
  let config ← (appConfigFromSettings settings database.appState).mapError .settings
  return (config, saved)

def stateFromAppConfig (config : Config) : AppStateRecord :=
  { activeProfileId := if config.indexId ≠ "" then some config.indexId else none
    activeRoutingId :=
      if config.routingBasicItem.routingIndexId ≠ "" then some
        config.routingBasicItem.routingIndexId
      else none }

/-- A mutation under way. The first two fields are only recorded: the configuration it began
with and the edits made since. -/
structure ConfigMutationGuard (ρ : Type) where
  base : Config
  edits : List (Config → Config) := []
  workingConfig : Config
  unitOfWork : Database ρ

/-- Where a task is: outside of a mutation, past the lock and waiting for its transaction,
editing, or inside `commit` at one of its waits. `committed` is the wait for a transaction that
the database has already committed. -/
inductive Phase (ρ : Type) where
  | idle
  | opening (working : Config)
  | editing (guard : ConfigMutationGuard ρ)
  | savingSettings (guard : ConfigMutationGuard ρ) (payload : AppSettingsV1)
    (state : AppStateRecord)
  | savingState (guard : ConfigMutationGuard ρ) (state : AppStateRecord)
  | committing (guard : ConfigMutationGuard ρ)
  | committed (guard : ConfigMutationGuard ρ)

structure Commit where
  base : Config
  edits : List (Config → Config)
  draft : Config

structure ConfigMutationCoordinator (ρ : Type) where
  database : Database ρ
  config : Config
  mutationLock : Option Nat := none
  phase : Nat → Phase ρ := fun _ => .idle
  commits : List Commit := []

/-- What happens next. A drop says whether a commit that is on its way to the database is still
carried out. -/
inductive MutationEvent (ρ : Type) where
  | locks (task : Nat)
  | begins (task : Nat) (answer : Except String Unit)
  | edits (task : Nat) (onConfig : Config → Config) (onRows : Database ρ → Database ρ)
  | commits (task : Nat)
  | savesSettings (task : Nat) (answer : Except String Unit)
  | savesState (task : Nat) (answer : Except String Unit)
  | databaseCommits (task : Nat) (answer : Except String Unit)
  | publishes (task : Nat)
  | dropped (task : Nat) (carriedOut : Bool)

namespace ConfigMutationCoordinator

variable (coordinator : ConfigMutationCoordinator ρ) (task : Nat)

def enter (phase : Phase ρ) : ConfigMutationCoordinator ρ :=
  { coordinator with phase := Function.update coordinator.phase task phase }

/-- The guard goes away and with it the lock; a transaction that is not committed is rolled
back. -/
def release : ConfigMutationCoordinator ρ :=
  { coordinator.enter task .idle with mutationLock := none }

def locks : ConfigMutationCoordinator ρ :=
  match coordinator.mutationLock, coordinator.phase task with
  | none, .idle =>
    { coordinator.enter task (.opening coordinator.config) with mutationLock := some task }
  | _, _ => coordinator

def begins (answer : Except String Unit) : ConfigMutationCoordinator ρ :=
  match coordinator.phase task, answer with
  | .opening working, .ok _ =>
    coordinator.enter task
      (.editing { base := working, workingConfig := working, unitOfWork := coordinator.database })
  | .opening _, .error _ => coordinator.release task
  | _, _ => coordinator

def edits (onConfig : Config → Config) (onRows : Database ρ → Database ρ) :
    ConfigMutationCoordinator ρ :=
  match coordinator.phase task with
  | .editing guard =>
    coordinator.enter task (.editing { guard with
      edits := guard.edits ++ [onConfig]
      workingConfig := onConfig guard.workingConfig
      unitOfWork := onRows guard.unitOfWork })
  | _ => coordinator

def commit : ConfigMutationCoordinator ρ :=
  match coordinator.phase task with
  | .editing guard =>
    let settings := settingsFromAppConfig guard.workingConfig
    let state := stateFromAppConfig guard.workingConfig
    match validatedPayload settings with
    | .error _ => coordinator.release task
    | .ok payload => coordinator.enter task (.savingSettings guard payload state)
  | _ => coordinator

def savesSettings (answer : Except String Unit) : ConfigMutationCoordinator ρ :=
  match coordinator.phase task, answer with
  | .savingSettings guard payload state, .ok _ =>
    coordinator.enter task
      (.savingState { guard with unitOfWork := saveSettingsOn guard.unitOfWork payload } state)
  | .savingSettings _ _ _, .error _ => coordinator.release task
  | _, _ => coordinator

def savesState (answer : Except String Unit) : ConfigMutationCoordinator ρ :=
  match coordinator.phase task, answer with
  | .savingState guard state, .ok _ =>
    coordinator.enter task
      (.committing { guard with unitOfWork := saveStateOn guard.unitOfWork state })
  | .savingState _ _, .error _ => coordinator.release task
  | _, _ => coordinator

def databaseCommits (answer : Except String Unit) : ConfigMutationCoordinator ρ :=
  match coordinator.phase task, answer with
  | .committing guard, .ok _ =>
    { coordinator.enter task (.committed guard) with database := guard.unitOfWork }
  | .committing _, .error _ => coordinator.release task
  | _, _ => coordinator

def publishes : ConfigMutationCoordinator ρ :=
  match coordinator.phase task with
  | .committed guard =>
    { coordinator.release task with
      config := guard.workingConfig
      commits := { base := guard.base, edits := guard.edits, draft := guard.workingConfig } ::
        coordinator.commits }
  | _ => coordinator

/-- A task that is dropped at a wait. Nothing takes back a commit that the database has been
asked for. -/
def dropped (carriedOut : Bool) : ConfigMutationCoordinator ρ :=
  match coordinator.phase task with
  | .idle => coordinator
  | .committing guard =>
    if carriedOut then { coordinator.release task with database := guard.unitOfWork }
    else coordinator.release task
  | _ => coordinator.release task

end ConfigMutationCoordinator

def step (coordinator : ConfigMutationCoordinator ρ) : MutationEvent ρ → ConfigMutationCoordinator ρ
  | .locks task => coordinator.locks task
  | .begins task answer => coordinator.begins task answer
  | .edits task onConfig onRows => coordinator.edits task onConfig onRows
  | .commits task => coordinator.commit task
  | .savesSettings task answer => coordinator.savesSettings task answer
  | .savesState task answer => coordinator.savesState task answer
  | .databaseCommits task answer => coordinator.databaseCommits task answer
  | .publishes task => coordinator.publishes task
  | .dropped task carriedOut => coordinator.dropped task carriedOut

theorem validatedPayload_settingsFromAppConfig (config : Config) :
    validatedPayload (settingsFromAppConfig config) = .ok (settingsFromAppConfig config) := rfl

theorem version_of_validatedPayload {settings payload : AppSettingsV1}
    (h : validatedPayload settings = .ok payload) :
    settings.schemaVersion = currentSchemaVersion ∧ payload = settings := by
  unfold validatedPayload at h
  split at h
  · cases h
  · rename_i hequal
    cases h
    exact ⟨not_not.mp hequal, rfl⟩

@[simp] theorem enter_phase (coordinator : ConfigMutationCoordinator ρ) (task : Nat)
    (phase : Phase ρ) : (coordinator.enter task phase).phase task = phase := by
  simp [ConfigMutationCoordinator.enter]

theorem enter_phase_of_ne (coordinator : ConfigMutationCoordinator ρ) {task other : Nat}
    (phase : Phase ρ) (hother : other ≠ task) :
    (coordinator.enter task phase).phase other = coordinator.phase other := by
  simp [ConfigMutationCoordinator.enter, Function.update_of_ne hother]

end ConfigMutation
