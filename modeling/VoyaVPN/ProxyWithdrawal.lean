import VoyaVPN.DirtyMarker
import VoyaVPN.SettingsValidation

/-! When the system proxy can be withdrawn: a clear is planned like any other request, so it is
refused for the same ports, exceptions and platforms, and the script for Linux fails without a tool
of KDE. -/
namespace ProxyWithdrawal

open Entities AppConfig PlatformProcess SystemProxy ProxySettings Switchboard ActionRules
open SystemProxyManager DirtyMarker

section Plans

variable {installed : String → Bool} {request : SystemProxyRequest}

/-- What a plan needs of its request whatever it is for. -/
structure Admissible (request : SystemProxyRequest) : Prop where
  platform : request.targetOs ≠ .other
  socks : 0 < request.socksPort
  pac : 0 < request.pacPort
  exceptions : ∃ entries, validatedProxyExceptions request.item.systemProxyExceptions = .ok entries

theorem plan_of_admissible (installed : String → Bool) (hadmissible : Admissible request)
    (heffective : effectiveType request.item.sysProxyType request.forceDisable = .forcedClear) :
    ∃ plan, planSystemProxy installed request = .ok plan := by
  obtain ⟨hplatform, hsocks, hpac, entries, hentries⟩ := hadmissible
  rw [planSystemProxy, if_neg (by omega), if_neg (by omega), hentries]
  simp only [Except.bind, heffective]
  cases hos : request.targetOs with
  | windows => exact ⟨_, rfl⟩
  | linux => exact ⟨_, rfl⟩
  | macos => exact ⟨_, rfl⟩
  | other => exact absurd hos hplatform

theorem admissible_of_plan {plan : SystemProxyPlan}
    (hplan : planSystemProxy installed request = .ok plan)
    (heffective : effectiveType request.item.sysProxyType request.forceDisable = .forcedClear) :
    Admissible request := by
  obtain ⟨hsocks, hpac, hentries⟩ := planSystemProxy_inputs hplan
  refine ⟨?_, hsocks, hpac, hentries⟩
  intro hos
  rcases planKind_of_plan hplan with ⟨_, _, haction⟩ | ⟨hother, _, _⟩ | ⟨hother, _, _⟩
  · simp only [clearAction, hos] at haction
    cases haction
  · exact hother heffective
  · exact hother heffective

end Plans

section Success

variable {machine : Machine} {paths : AppPaths} {installed : String → Bool} {ε α β : Type}

/-- Without a fault the action succeeds. -/
def Smooth (action : Call ε α) : Prop :=
  ∀ world, world.faults = [] →
    ∃ value after, outcome action world = (.ok value, after) ∧ after.faults = []

theorem smooth_pure (value : α) : Smooth (pure value : Call ε α) :=
  fun world hfaults => ⟨value, world, rfl, hfaults⟩

theorem smooth_bind {action : Call ε α} {next : α → Call ε β} (haction : Smooth action)
    (hnext : ∀ value, Smooth (next value)) : Smooth (action >>= next) := by
  intro world hfaults
  obtain ⟨value, between, hrun, hbetween⟩ := haction world hfaults
  rw [outcome_bind_ok hrun]
  exact hnext value between hbetween

theorem smooth_forM {ι : Type} {step : ι → Call ε PUnit} (items : List ι)
    (hstep : ∀ item ∈ items, Smooth (step item)) : Smooth (items.forM step) := by
  induction items with
  | nil => exact smooth_pure _
  | cons item items ih =>
    exact smooth_bind (hstep item List.mem_cons_self) fun _ =>
      ih fun other hother => hstep other (List.mem_cons_of_mem _ hother)

theorem outcome_runCommand (context : String) (spawn : ProxySpawn) {world : World}
    (hfaults : world.faults = []) :
    ∃ answer after, outcome (runCommand machine context spawn) world = (answer, after) ∧
      after.faults = [] ∧
        ((∃ value, answer = .ok value) ↔ endStatus machine.desktop spawn = 0) := by
  simp only [runCommand, runOneshot, outcome_bind, outcome_modify, outcome_nextFault, hfaults,
    List.head?_nil, Option.getD_none, outcome_pure, ensureSuccess]
  by_cases hstatus : endStatus machine.desktop spawn = 0
  · rw [if_pos (by simpa using hstatus)]
    exact ⟨_, _, rfl, rfl, iff_of_true ⟨_, rfl⟩ hstatus⟩
  · rw [if_neg (by simpa using hstatus)]
    refine ⟨_, _, rfl, rfl, iff_of_false ?_ hstatus⟩
    rintro ⟨value, hvalue⟩
    cases hvalue

theorem runCommand_smooth (context : String) {spawn : ProxySpawn}
    (hstatus : endStatus machine.desktop spawn = 0) :
    Smooth (runCommand machine context spawn) := by
  intro world hfaults
  obtain ⟨answer, after, hrun, hafter, hok⟩ :=
    @outcome_runCommand machine context spawn world hfaults
  obtain ⟨value, rfl⟩ := hok.mpr hstatus
  exact ⟨value, after, hrun, hafter⟩

/-- The script for Linux finds a tool of KDE, or is one of the user. -/
def ScriptEnds (machine : Machine) (installed : String → Bool) (item : SystemProxyItem) : Prop :=
  machine.os = .linux → machine.desktop.kwriteconfig = true ∨ customScriptPath installed item ≠ none

theorem endStatus_linux_clear (machine : Machine) (installed : String → Bool)
    (request : SystemProxyRequest) :
    endStatus machine.desktop (scriptSpawn (linuxScriptInvocation installed request "none" none)) =
        0 ↔
      machine.desktop.kwriteconfig = true ∨ customScriptPath installed request.item ≠ none := by
  simp only [endStatus, scriptSpawn, linuxScriptInvocation, scriptTarget]
  cases customScriptPath installed request.item with
  | some path => simp
  | none =>
    simp only [linuxScriptStatus, List.getD_cons_zero]
    cases machine.desktop.kwriteconfig with
    | true => simp
    | false => simp [machine.desktop.notFound_ne]

theorem endStatus_macos_clear (machine : Machine) (installed : String → Bool)
    (request : SystemProxyRequest) :
    endStatus machine.desktop (scriptSpawn (macosScriptInvocation installed request "clear" none)) =
      0 := by
  simp only [endStatus, scriptSpawn, macosScriptInvocation, scriptTarget]
  cases customScriptPath installed request.item with
  | some path => rfl
  | none => simp [macosScriptStatus]

theorem smooth_windowsClear (machine : Machine) : Smooth (applyWindowsClear machine) := by
  have hstatus : ∀ spawn ∈ windowsRegistryCommands windowsClearSettings,
      endStatus machine.desktop spawn = 0 := by
    intro spawn hspawn
    simp only [windowsRegistryCommands, windowsClearSettings, List.mem_cons, List.not_mem_nil,
      or_false] at hspawn
    rcases hspawn with rfl | rfl | rfl | rfl <;> rfl
  rw [applyWindowsClear, applyWindowsProxy]
  exact smooth_forM _ fun spawn hspawn => runCommand_smooth _ (hstatus spawn hspawn)

theorem perform_clear_smooth {request : SystemProxyRequest} {action : SystemProxyAction}
    (hos : request.targetOs = machine.os)
    (haction : clearAction installed request = some action)
    (hends : ScriptEnds machine installed request.item) :
    Smooth (perform machine request action) := by
  unfold clearAction at haction
  rw [hos] at haction
  cases hmachine : machine.os <;> rw [hmachine] at haction <;> cases haction
  · exact smooth_windowsClear machine
  · exact runCommand_smooth _ ((endStatus_linux_clear machine installed request).mpr
      (hends hmachine))
  · exact runCommand_smooth _ (endStatus_macos_clear machine installed request)

theorem outcome_fileOperation {whole : World → World} {cut : Bool → World → World}
    (wrap : String → SystemProxyManagerError) {world : World} (hfaults : world.faults = []) :
    outcome (fileOperation whole cut wrap) world = (.ok ⟨⟩, whole world) := by
  have hsame : { world with faults := [] } = world := by rw [← hfaults]
  simp only [fileOperation, outcome_bind, outcome_nextFault, hfaults, List.head?_nil,
    Option.getD_none, outcome_modify, List.tail_nil, hsame]

theorem outcome_ensureDirs (paths : AppPaths) {world : World} (hfaults : world.faults = []) :
    outcome (ensureDirs paths) world = (.ok ⟨⟩, world) := by
  have hdirs : ∀ dirs : List String, outcome (dirs.forM createDir) world = (.ok ⟨⟩, world) := by
    intro dirs
    induction dirs with
    | nil => rfl
    | cons dir dirs ih =>
      have hcons : (dir :: dirs).forM createDir = createDir dir >>= fun _ =>
        dirs.forM createDir := rfl
      rw [hcons, createDir, outcome_bind_ok (outcome_fileOperation _ hfaults)]
      exact ih
  exact hdirs _

theorem outcome_request (nonce : String) (config : Config) (forceDisable : Bool) {world : World}
    (hfaults : world.faults = []) :
    outcome (SystemProxyManager.request machine paths nonce config forceDisable) world =
      (.ok (systemProxyRequest machine paths nonce config forceDisable), world) := by
  rw [SystemProxyManager.request, outcome_bind_ok (outcome_ensureDirs paths hfaults)]
  rfl

theorem outcome_dirtyMarkerExists {world : World} (hfaults : world.faults = []) :
    outcome (dirtyMarkerExists paths) world = (.ok world.marker, world) := by
  rw [dirtyMarkerExists, outcome_bind_ok (outcome_fileOperation _ hfaults)]
  rfl

end Success

section Clearing

variable {machine : Machine} {paths : AppPaths} {installed : String → Bool}
variable {request : SystemProxyRequest}

/-- What a clear that succeeds leaves: the commands that clear the proxy were run, and no proxy is
in effect. -/
structure Clean (machine : Machine) (commands : List ProxySpawn) (before after : World) : Prop where
  issued : after.issued = before.issued ++ commands
  off : Off machine after

theorem serviceApply_clears (hscripts : ScriptsClear machine) (hos : request.targetOs = machine.os)
    {plan : SystemProxyPlan} (hplan : planSystemProxy installed request = .ok plan)
    (heffective : effectiveType request.item.sysProxyType request.forceDisable = .forcedClear)
    (hends : ScriptEnds machine installed request.item) {world : World}
    (hfaults : world.faults = []) :
    ∃ status after, outcome (serviceApply machine installed request) world = (.ok status, after) ∧
      status.effectiveType = .forcedClear ∧ after.faults = [] ∧
        Clean machine (clearCommands installed request) world after := by
  have hstatus := status_of_forcedClear heffective hplan
  have haction : clearAction installed request = some plan.action := by
    rcases planKind_of_plan hplan with ⟨_, _, haction⟩ | ⟨hother, _, _⟩ | ⟨hother, _, _⟩
    · exact haction
    · exact absurd heffective hother
    · exact absurd heffective hother
  have hsmooth : Smooth (perform machine request plan.action) :=
    perform_clear_smooth hos haction hends
  obtain ⟨value, after, hrun, hafter⟩ := hsmooth { world with pac := none } hfaults
  have hruns : CommandsRun machine (clearCommands installed request) _ _ _ :=
    perform_clear_runs haction { world with pac := none }
  rw [hrun] at hruns
  refine ⟨plan.status, after, ?_, hstatus, hafter, hruns.issued ⟨value, rfl⟩,
    hruns.off (clearCommands_clear hscripts hos) ⟨value, rfl⟩⟩
  have hpac : plan.status.effectiveType ≠ .pac := by
    rw [hstatus]
    exact SysProxyType.noConfusion
  have happly : outcome (apply machine installed request) world = (.ok plan.status, after) := by
    rw [apply, outcome_bind, outcome_fromExcept, hplan]
    simp only [Except.mapError, if_pos hpac, pacStop, outcome_bind, outcome_modify, hrun,
      outcome_pure]
  rw [serviceApply, outcome_adaptError, happly]
  rfl

theorem serviceApply_refused (machine : Machine) {error : SystemProxyError}
    (hplan : planSystemProxy installed request = .error error) (world : World) :
    outcome (serviceApply machine installed request) world =
      (.error (.failed (.systemProxy error)), world) := by
  have happly : outcome (apply machine installed request) world =
      (.error (.failed error), world) := by
    rw [apply, outcome_bind, outcome_fromExcept, hplan]
    rfl
  rw [serviceApply, outcome_adaptError, happly]
  rfl

theorem serviceApply_fails (hlinux : machine.os = .linux) (hos : request.targetOs = machine.os)
    (heffective : effectiveType request.item.sysProxyType request.forceDisable = .forcedClear)
    (hends : ¬ScriptEnds machine installed request.item) {world : World}
    (hfaults : world.faults = []) :
    ∃ halt after, outcome (serviceApply machine installed request) world =
      (.error halt, after) := by
  cases hplan : planSystemProxy installed request with
  | error error => exact ⟨_, _, serviceApply_refused machine hplan world⟩
  | ok plan =>
    have haction : clearAction installed request = some plan.action := by
      rcases planKind_of_plan hplan with ⟨_, _, haction⟩ | ⟨hother, _, _⟩ | ⟨hother, _, _⟩
      · exact haction
      · exact absurd heffective hother
      · exact absurd heffective hother
    rw [clearAction, hos, hlinux] at haction
    have hpac : plan.status.effectiveType ≠ .pac := by
      rw [status_of_forcedClear heffective hplan]
      exact SysProxyType.noConfusion
    obtain ⟨answer, after, hrun, _, hok⟩ := @outcome_runCommand machine "system proxy script"
      (scriptSpawn (linuxScriptInvocation installed request "none" none))
      { world with pac := none } hfaults
    have hperform : perform machine request plan.action =
        runCommand machine "system proxy script"
          (scriptSpawn (linuxScriptInvocation installed request "none" none)) := by
      rw [← Option.some.inj haction]
      rfl
    have hfailed : ∃ halt, answer = .error halt := by
      cases answer with
      | error halt => exact ⟨halt, rfl⟩
      | ok value =>
        refine absurd (fun _ => ?_) hends
        exact (endStatus_linux_clear machine installed request).mp (hok.mp ⟨value, rfl⟩)
    obtain ⟨halt, rfl⟩ := hfailed
    have happly : outcome (apply machine installed request) world = (.error halt, after) := by
      rw [apply, outcome_bind, outcome_fromExcept, hplan]
      simp only [Except.mapError, if_pos hpac, pacStop, outcome_bind, outcome_modify, hperform,
        hrun]
    refine ⟨halt.map .systemProxy, after, ?_⟩
    rw [serviceApply, outcome_adaptError, happly]
    rfl

end Clearing

section Withdrawal

variable {machine : Machine} {paths : AppPaths} {installed : String → Bool}
variable {nonce : String} {config : Config} {world : World}

/-- The commands that clear the proxy were run, no proxy is in effect, and the marker is gone. -/
structure Withdrawn (machine : Machine) (commands : List ProxySpawn) (before after : World) : Prop
    extends Clean machine commands before after where
  marker : after.marker = false

/-- The proxy is withdrawn at the next start, and at the end unless its mode is left unchanged. -/
def Withdraws (machine : Machine) (paths : AppPaths) (installed : String → Bool) (nonce : String)
    (config : Config) (world : World) : Prop :=
  Returns (restoreDirtyProxyIfNeeded machine paths installed nonce config) world
      (fun restored after => restored = true ∧
        Withdrawn machine (clearCommands installed (clearRequest machine paths nonce config))
          world after) ∧
    (config.systemProxyItem.sysProxyType ≠ .unchanged →
      Returns (restore machine paths installed nonce config) world fun status after =>
        status.effectiveType = .forcedClear ∧
          Withdrawn machine
            (clearCommands installed (systemProxyRequest machine paths nonce config true))
            world after)

/-- What the configuration and the platform must be for a clear to be planned and carried out. -/
structure Clearable (machine : Machine) (installed : String → Bool) (config : Config) : Prop where
  platform : machine.os ≠ .other
  socks : 0 < socksPort config
  pac : 0 < RustText.addI32 (socksPort config) InboundProtocol.pac.portOffset
  exceptions : ∃ entries,
    validatedProxyExceptions config.systemProxyItem.systemProxyExceptions = .ok entries
  ends : ScriptEnds machine installed config.systemProxyItem

theorem clearRequest_admissible (h : Clearable machine installed config) :
    Admissible (clearRequest machine paths nonce config) :=
  ⟨h.platform, h.socks, h.pac, h.exceptions⟩

theorem systemProxyRequest_admissible (h : Clearable machine installed config)
    (forceDisable : Bool) :
    Admissible (systemProxyRequest machine paths nonce config forceDisable) :=
  ⟨h.platform, h.socks, h.pac, h.exceptions⟩

theorem outcome_removal {α : Type} (value : α) {status : SystemProxyStatus}
    (hstatus : status.effectiveType = .forcedClear) {after : World} (hfaults : after.faults = []) :
    outcome (do
        if status.effectiveType = .forcedClear then clearDirtyMarker paths
        pure value) after = (.ok value, { after with marker := false }) := by
  rw [if_pos hstatus, clearDirtyMarker, outcome_bind_ok (outcome_fileOperation _ hfaults)]
  rfl

theorem restoreDirty_withdraws (hscripts : ScriptsClear machine) (hmarker : world.marker = true)
    (hfaults : world.faults = []) (hclearable : Clearable machine installed config) :
    Returns (restoreDirtyProxyIfNeeded machine paths installed nonce config) world
      (fun restored after => restored = true ∧
        Withdrawn machine (clearCommands installed (clearRequest machine paths nonce config))
          world after) := by
  have hadmissible : Admissible (clearRequest machine paths nonce config) :=
    clearRequest_admissible hclearable
  obtain ⟨plan, hplan⟩ := plan_of_admissible installed hadmissible rfl
  obtain ⟨status, after, hrun, hstatus, hafter, hclean⟩ :=
    serviceApply_clears hscripts rfl hplan rfl hclearable.ends hfaults
  refine ⟨true, { after with marker := false }, ?_, rfl, ⟨hclean.issued, hclean.off⟩, rfl⟩
  rw [restoreDirtyProxyIfNeeded, outcome_bind_ok (outcome_dirtyMarkerExists hfaults), hmarker]
  simp only [Bool.not_true, Bool.false_eq_true, if_false]
  rw [outcome_bind_ok (outcome_request nonce config false hfaults)]
  exact (outcome_bind_ok hrun).trans (outcome_removal true hstatus hafter)

theorem restore_withdraws (hscripts : ScriptsClear machine) (hfaults : world.faults = [])
    (hclearable : Clearable machine installed config)
    (hmode : config.systemProxyItem.sysProxyType ≠ .unchanged) :
    Returns (restore machine paths installed nonce config) world fun status after =>
      status.effectiveType = .forcedClear ∧
        Withdrawn machine
          (clearCommands installed (systemProxyRequest machine paths nonce config true))
          world after := by
  have heffective : effectiveType config.systemProxyItem.sysProxyType true = .forcedClear := by
    simp [effectiveType, hmode]
  have hadmissible : Admissible (systemProxyRequest machine paths nonce config true) :=
    systemProxyRequest_admissible hclearable true
  obtain ⟨plan, hplan⟩ := plan_of_admissible installed hadmissible heffective
  obtain ⟨status, after, hrun, hstatus, hafter, hclean⟩ :=
    serviceApply_clears hscripts rfl hplan heffective hclearable.ends hfaults
  refine ⟨status, { after with marker := false }, ?_, hstatus, ⟨hclean.issued, hclean.off⟩, rfl⟩
  have hsets : requestSetsLocalProxy (systemProxyRequest machine paths nonce config true) = false :=
    rfl
  rw [restore, applyConfig, outcome_bind_ok (outcome_request nonce config true hfaults), hsets]
  simp only [Bool.false_eq_true, if_false]
  exact (outcome_bind_ok hrun).trans (outcome_removal status hstatus hafter)

theorem restoreDirty_error (hmarker : world.marker = true) (hfaults : world.faults = [])
    {halt : Halt SystemProxyManagerError} {after : World}
    (hrun : outcome (serviceApply machine installed (clearRequest machine paths nonce
      config)) world =
      (.error halt, after)) :
    outcome (restoreDirtyProxyIfNeeded machine paths installed nonce config) world =
      (.error halt, after) := by
  rw [restoreDirtyProxyIfNeeded, outcome_bind_ok (outcome_dirtyMarkerExists hfaults), hmarker]
  simp only [Bool.not_true, Bool.false_eq_true, if_false]
  rw [outcome_bind_ok (outcome_request nonce config false hfaults), outcome_bind]
  rw [clearRequest] at hrun
  rw [hrun]

theorem clearable_of_restoreDirty {post : Bool → World → Prop} (hmarker : world.marker = true)
    (hfaults : world.faults = [])
    (hreturns : Returns (restoreDirtyProxyIfNeeded machine paths installed nonce config)
      world post) :
    Clearable machine installed config := by
  obtain ⟨restored, after, hrun, _⟩ := hreturns
  have hnever : ∀ halt last, outcome (serviceApply machine installed
      (clearRequest machine paths nonce config)) world ≠ (.error halt, last) := by
    intro halt last herror
    rw [restoreDirty_error hmarker hfaults herror] at hrun
    cases hrun
  cases hplan : planSystemProxy installed (clearRequest machine paths nonce config) with
  | error error => exact absurd (serviceApply_refused machine hplan world) (hnever _ _)
  | ok plan =>
    obtain ⟨hplatform, hsocks, hpac, hexceptions⟩ := admissible_of_plan hplan rfl
    refine ⟨hplatform, hsocks, hpac, hexceptions, fun hlinux => ?_⟩
    by_contra hends
    obtain ⟨halt, last, hfails⟩ := @serviceApply_fails machine installed
      (clearRequest machine paths nonce config) hlinux rfl rfl (fun h => hends (h hlinux)) world
      hfaults
    exact hnever halt last hfails

/-- The marker leads to a clear, at the next start and at the end, exactly when the ports, the
exceptions and the platform pass the checks of a plan and the script for Linux ends well. -/
theorem withdraws_iff (paths : AppPaths) (installed : String → Bool) (nonce : String)
    (config : Config) (hscripts : ScriptsClear machine) (hmarker : world.marker = true)
    (hfaults : world.faults = []) :
    Withdraws machine paths installed nonce config world ↔ Clearable machine installed config := by
  constructor
  · intro hwithdraws
    exact clearable_of_restoreDirty hmarker hfaults hwithdraws.1
  · intro hclearable
    exact ⟨restoreDirty_withdraws hscripts hmarker hfaults hclearable,
      restore_withdraws hscripts hfaults hclearable⟩

end Withdrawal

section Examples

open SettingsSave SettingsValidation

def Saved (urlParse : String → Option Url) (config : Config) : Prop :=
  ∃ settings state, validateAppSettings urlParse settings = .ok PUnit.unit.{1} ∧
    appConfigFromSettings settings state = .ok config

def settingsWithExceptions (exceptions : String) : AppSettingsV1 :=
  { network := { systemProxy := { exceptions } } }

def markedWorld : World := { freshWorld with marker := true }

def configWithExceptions (exceptions : String) : Config :=
  match appConfigFromSettings (settingsWithExceptions exceptions) {} with
  | .ok config => config
  | .error _ => {}

theorem withdraws_localhost :
    Withdraws gnomeMachine voyaPaths (fun _ =>
      false) "1" (configWithExceptions "localhost, 10.0.0.0/8")
      markedWorld :=
  (withdraws_iff voyaPaths (fun _ => false) "1" (configWithExceptions "localhost, 10.0.0.0/8")
    gnomeMachine_clears rfl rfl).mpr
      ⟨by decide, by decide +kernel, by decide +kernel,
        ⟨["localhost", "10.0.0.0/8"], by decide +kernel⟩, fun _ => Or.inl rfl⟩

/-- A desktop without a tool of KDE. -/
def bareMachine : Machine :=
  { gnomeMachine with desktop := { gnomeDesktop with kwriteconfig := false } }

/-- Exceptions with a wildcard are saved, and then the proxy cannot be withdrawn; without a tool of
KDE it cannot be whatever the exceptions. -/
theorem wildcard_not_withdrawn :
    Saved (fun _ => none) (configWithExceptions "*.example.com") ∧
      ¬Withdraws gnomeMachine voyaPaths (fun _ => false) "1" (configWithExceptions "*.example.com")
        markedWorld ∧
      ¬Withdraws bareMachine voyaPaths (fun _ => false) "1" (configWithExceptions "localhost")
        markedWorld := by
  refine ⟨?_, ?_, ?_⟩
  · exact ⟨settingsWithExceptions "*.example.com", {}, by decide +kernel, by decide +kernel⟩
  · intro hwithdraws
    obtain ⟨_, _, _, ⟨entries, hentries⟩, _⟩ := clearable_of_restoreDirty rfl rfl hwithdraws.1
    have hrefused : validatedProxyExceptions "*.example.com" = .error (.invalidProxyException
        "*.example.com" "contains forbidden shell or gsettings metacharacters") := by
      decide +kernel
    have hsame : (configWithExceptions "*.example.com").systemProxyItem.systemProxyExceptions =
        "*.example.com" := by
      decide +kernel
    rw [hsame, hrefused] at hentries
    cases hentries
  · intro hwithdraws
    rcases (clearable_of_restoreDirty rfl rfl hwithdraws.1).ends rfl with htool | hcustom
    · cases htool
    · exact hcustom (by decide +kernel)

end Examples

end ProxyWithdrawal
