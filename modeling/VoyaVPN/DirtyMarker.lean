import VoyaVPN.SystemProxyManager

/-! The marker file covers the system proxy: over every sequence of calls, with faults and crashes
in any of them, the settings put the application's proxy into effect only while the marker exists,
and a clear that succeeds leaves neither. -/
namespace DirtyMarker

open Entities AppConfig PlatformProcess SystemProxy ProxySettings Switchboard ActionRules
open SystemProxyManager

section Plans

variable {installed : String → Bool} {request : SystemProxyRequest} {plan : SystemProxyPlan}

def clearAction (installed : String → Bool) (request : SystemProxyRequest) :
    Option SystemProxyAction :=
  match request.targetOs with
  | .windows => some .windowsClear
  | .linux => some (.linuxClear (linuxScriptInvocation installed request "none" none))
  | .macos => some (.macosClear (macosScriptInvocation installed request "clear" none))
  | .other => none

/-- What a plan does: it clears the proxy, leaves it alone, or sets it. -/
inductive PlanKind (installed : String → Bool) (request : SystemProxyRequest)
    (plan : SystemProxyPlan) : Prop where
  | clears (heffective : effectiveType request.item.sysProxyType request.forceDisable =
    .forcedClear)
      (hstatus : plan.status.effectiveType = .forcedClear)
      (haction : clearAction installed request = some plan.action)
  | idles (heffective : effectiveType request.item.sysProxyType request.forceDisable ≠ .forcedClear)
      (hstatus : plan.status.effectiveType = .unchanged)
      (haction : plan.action = .noop ∨ plan.action = .unsupportedPac)
  | sets (heffective : effectiveType request.item.sysProxyType request.forceDisable ≠ .forcedClear)
      (hrequest : requestSetsLocalProxy request = true)
      (hstatus : plan.status.effectiveType ≠ .forcedClear)

theorem planSystemProxy_inputs (hplan : planSystemProxy installed request = .ok plan) :
    0 < request.socksPort ∧ 0 < request.pacPort ∧
      ∃ entries, validatedProxyExceptions request.item.systemProxyExceptions = .ok entries := by
  unfold planSystemProxy at hplan
  split at hplan
  · cases hplan
  · rename_i hsocks
    split at hplan
    · cases hplan
    · rename_i hpac
      cases hentries : validatedProxyExceptions request.item.systemProxyExceptions with
      | error error =>
        rw [hentries] at hplan
        cases hplan
      | ok entries => exact ⟨by omega, by omega, entries, rfl⟩

theorem requestSetsLocalProxy_of_effective {mode : SysProxyType}
    (heffective : effectiveType request.item.sysProxyType request.forceDisable = mode)
    (hmode : mode = .forcedChange ∨ mode = .pac) :
    request.forceDisable = false ∧ request.item.sysProxyType = mode := by
  unfold effectiveType at heffective
  split at heffective
  · subst heffective
    rcases hmode with h | h <;> cases h
  · rename_i hforced
    refine ⟨?_, heffective⟩
    cases hforce : request.forceDisable with
    | false => rfl
    | true =>
      rw [hforce, heffective] at hforced
      rcases hmode with rfl | rfl <;> exact absurd rfl hforced

theorem planKind_of_plan (hplan : planSystemProxy installed request = .ok plan) :
    PlanKind installed request plan := by
  obtain ⟨hsocks, hpac, entries, hentries⟩ := planSystemProxy_inputs hplan
  rw [planSystemProxy, if_neg (by omega), if_neg (by omega), hentries] at hplan
  simp only [Except.bind] at hplan
  cases heffective : effectiveType request.item.sysProxyType request.forceDisable with
  | forcedChange =>
    obtain ⟨hforce, hmode⟩ := requestSetsLocalProxy_of_effective heffective (.inl rfl)
    cases hos : request.targetOs <;> simp only [heffective, hos] at hplan <;> cases hplan
    all_goals
      exact .sets (by simp [heffective]) (by simp [requestSetsLocalProxy, hforce, hmode, hos])
        (by simp [SystemProxyStatus.fromRequestWithExceptions])
  | forcedClear =>
    cases hos : request.targetOs <;> simp only [heffective, hos] at hplan <;> cases hplan
    all_goals exact .clears heffective rfl (by simp only [clearAction, hos])
  | unchanged =>
    simp only [heffective] at hplan
    cases hplan
    exact .idles (by simp [heffective]) rfl (.inl rfl)
  | pac =>
    obtain ⟨hforce, hmode⟩ := requestSetsLocalProxy_of_effective heffective (.inr rfl)
    cases hos : request.targetOs <;> simp only [heffective, hos] at hplan <;> cases hplan
    · exact .sets (by simp [heffective]) (by simp [requestSetsLocalProxy, hforce, hmode, hos])
        (by simp [SystemProxyStatus.fromRequestWithExceptions])
    · exact .idles (by simp [heffective]) rfl (.inr rfl)
    · exact .sets (by simp [heffective]) (by simp [requestSetsLocalProxy, hforce, hmode, hos])
        (by simp [SystemProxyStatus.fromRequestWithExceptions])

theorem not_clears_of_sets (hsets : requestSetsLocalProxy request = true)
    (hplan : planSystemProxy installed request = .ok plan) :
    plan.status.effectiveType ≠ .forcedClear := by
  rcases planKind_of_plan hplan with ⟨heffective, _, _⟩ | ⟨_, hstatus, _⟩ | ⟨_, _, hstatus⟩
  · intro _
    unfold requestSetsLocalProxy at hsets
    split at hsets
    · cases hsets
    · rename_i hforce
      have hforce : request.forceDisable = false := Bool.not_eq_true _ ▸ hforce
      simp only [effectiveType, hforce, Bool.false_and, Bool.false_eq_true, if_false] at heffective
      rw [heffective] at hsets
      cases request.targetOs <;> cases hsets
  · rw [hstatus]
    exact SysProxyType.noConfusion
  · exact hstatus

theorem status_of_forcedClear
    (heffective : effectiveType request.item.sysProxyType request.forceDisable = .forcedClear)
    (hplan : planSystemProxy installed request = .ok plan) :
    plan.status.effectiveType = .forcedClear := by
  rcases planKind_of_plan hplan with ⟨_, hstatus, _⟩ | ⟨hother, _, _⟩ | ⟨hother, _, _⟩
  · exact hstatus
  · exact absurd heffective hother
  · exact absurd heffective hother

end Plans

section Commands

variable {machine : Machine} {ε : Type}

/-- The proxy of the application is in effect because of what the calls wrote. -/
def PointsHere (machine : Machine) (world : World) : Prop :=
  ∃ switch ∈ switches machine.desktop machine.os, switch.Held world.settings

def Free (machine : Machine) (world : World) : Prop :=
  world.settings.Free (switches machine.desktop machine.os)

def Off (machine : Machine) (world : World) : Prop :=
  world.settings.Off (switches machine.desktop machine.os)

/-- The marker exists, or nothing that was written is in effect. -/
def Covered (machine : Machine) (world : World) : Prop := world.marker = true ∨ Free machine world

theorem not_pointsHere_of_free {world : World} (h : Free machine world) :
    ¬PointsHere machine world := by
  rintro ⟨switch, hswitch, hheld⟩
  exact h switch hswitch hheld

theorem outcome_nextFault (world : World) :
    outcome (nextFault : Call ε (Option Fault)) world =
      (.ok (world.faults.head?.getD none), { world with faults := world.faults.tail }) := rfl

def writesOf (machine : Machine) (spawns : List ProxySpawn) : List SettingWrite :=
  spawns.flatMap (effect machine.desktop machine.custom machine.os)

/-- What a run of commands leaves: it keeps the marker and writes some of what they can write, all
of it when it succeeds. -/
structure CommandsRun (machine : Machine) (spawns : List ProxySpawn) (before after : World)
    (whole : Prop) : Prop where
  marker : after.marker = before.marker
  settings : ∃ steps, after.settings = before.settings.writeAll steps ∧
    (∀ step ∈ steps, step ∈ writesOf machine spawns) ∧ (whole → steps = writesOf machine spawns)
  issued : whole → after.issued = before.issued ++ spawns

theorem writesOf_single (machine : Machine) (spawn : ProxySpawn) :
    writesOf machine [spawn] = effect machine.desktop machine.custom machine.os spawn :=
  List.flatMap_singleton _ _

theorem runOneshot_run (machine : Machine) (spawn : ProxySpawn) (before : World) :
    CommandsRun machine [spawn] before (outcome (runOneshot machine spawn) before).2
      (∃ output, (outcome (runOneshot machine spawn) before).1 = .ok output ∧
        output.statusCode = some 0) := by
  simp only [runOneshot, outcome_bind, outcome_modify, outcome_nextFault]
  rcases before.faults.head?.getD none with _ | ⟨answer, part⟩ | ⟨source, part⟩ | error | part
  · exact ⟨rfl, ⟨_, rfl, by simp [writesOf_single], by simp [writesOf_single]⟩, fun _ => rfl⟩
  · cases answer with
    | error error =>
      refine ⟨rfl, ⟨_, rfl, ?_, ?_⟩, fun _ => rfl⟩
      · rw [writesOf_single]
        exact fun step hstep => mem_of_mem_chosen hstep
      · rintro ⟨output, hok, _⟩
        cases hok
    | ok output =>
      refine ⟨rfl, ⟨_, rfl, ?_, ?_⟩, fun _ => rfl⟩
      · intro step hstep
        rw [writesOf_single]
        split at hstep
        · exact hstep
        · exact mem_of_mem_chosen hstep
      · rintro ⟨found, hok, hzero⟩
        cases hok
        rw [writesOf_single, if_pos]
        simp only [succeeded, hzero, beq_self_eq_true]
  · exact ⟨rfl, ⟨_, rfl, by simp [writesOf_single], by simp [writesOf_single]⟩, fun _ => rfl⟩
  · exact ⟨rfl, ⟨_, rfl, by simp [writesOf_single], by simp [writesOf_single]⟩, fun _ => rfl⟩
  · refine ⟨rfl, ⟨_, rfl, ?_, ?_⟩, fun _ => rfl⟩
    · rw [writesOf_single]
      exact fun step hstep => mem_of_mem_chosen hstep
    · rintro ⟨output, hok, _⟩
      cases hok

/-- The commands of an action succeed or stop at the first that fails. -/
def Runs (machine : Machine) (spawns : List ProxySpawn)
    (action : Call SystemProxyError PUnit) : Prop :=
  ∀ before, CommandsRun machine spawns before (outcome action before).2
    (∃ value, (outcome action before).1 = .ok value)

theorem runCommand_runs (machine : Machine) (context : String) (spawn : ProxySpawn) :
    Runs machine [spawn] (runCommand machine context spawn) := by
  intro before
  have hrun := runOneshot_run machine spawn before
  rw [runCommand, outcome_bind]
  rcases hfirst : outcome (runOneshot machine spawn) before with ⟨error | output, after⟩
  · rw [hfirst] at hrun
    obtain ⟨hmarker, ⟨steps, hsettings, hsteps, _⟩, _⟩ := hrun
    refine ⟨hmarker, ⟨steps, hsettings, hsteps, ?_⟩, ?_⟩
    · rintro ⟨_, hok⟩
      cases hok
    · rintro ⟨_, hok⟩
      cases hok
  · rw [hfirst] at hrun
    by_cases hzero : output.statusCode = some 0
    · obtain ⟨hmarker, ⟨steps, hsettings, hsteps, hwhole⟩, hissued⟩ := hrun
      have houtput : ∃ found, (Except.ok output : Except (Halt SystemProxyError) _) = .ok found ∧
          found.statusCode = some 0 := ⟨output, rfl, hzero⟩
      simp only [ensureSuccess, if_pos hzero, outcome_bind, outcome_fromExcept, Except.mapError,
        outcome_pure]
      exact ⟨hmarker, ⟨steps, hsettings, hsteps, fun _ => hwhole houtput⟩, fun _ => hissued houtput⟩
    · obtain ⟨hmarker, ⟨steps, hsettings, hsteps, _⟩, _⟩ := hrun
      simp only [ensureSuccess, if_neg hzero, outcome_bind, outcome_fromExcept, Except.mapError]
      refine ⟨hmarker, ⟨steps, hsettings, hsteps, ?_⟩, ?_⟩
      · rintro ⟨_, hok⟩
        cases hok
      · rintro ⟨_, hok⟩
        cases hok

theorem CommandsRun.append {first second : List ProxySpawn} {before between after : World}
    {whole : Prop} (hfirst : CommandsRun machine first before between True)
    (hsecond : CommandsRun machine second between after whole) :
    CommandsRun machine (first ++ second) before after whole := by
  obtain ⟨hmarker, ⟨steps, hsettings, _, hsteps⟩, hissued⟩ := hfirst
  obtain ⟨hmarker', ⟨steps', hsettings', hmem', hsteps'⟩, hissued'⟩ := hsecond
  have hwrites : writesOf machine (first ++ second) =
      writesOf machine first ++ writesOf machine second := List.flatMap_append
  refine ⟨hmarker'.trans hmarker, ⟨steps ++ steps', ?_, ?_, ?_⟩, ?_⟩
  · rw [hsettings', hsettings, Board.writeAll, Board.writeAll, Board.writeAll, List.foldl_append]
  · intro step hstep
    rw [hwrites, List.mem_append]
    rcases List.mem_append.mp hstep with hstep | hstep
    · exact .inl (hsteps trivial ▸ hstep)
    · exact .inr (hmem' step hstep)
  · intro hwhole
    rw [hwrites, hsteps trivial, hsteps' hwhole]
  · intro hwhole
    rw [hissued' hwhole, hissued trivial, List.append_assoc]

theorem runs_forM (machine : Machine) (context : String) (spawns : List ProxySpawn) :
    Runs machine spawns (spawns.forM (runCommand machine context)) := by
  induction spawns with
  | nil =>
    intro before
    exact ⟨rfl, ⟨[], rfl, by simp, fun _ => rfl⟩, fun _ => (List.append_nil _).symm⟩
  | cons spawn spawns ih =>
    intro before
    have hrun := runCommand_runs machine context spawn before
    have hcons : (spawn :: spawns).forM (runCommand machine context) =
        runCommand machine context spawn >>= fun _ =>
          spawns.forM (runCommand machine context) := rfl
    rw [hcons, outcome_bind]
    rcases hfirst : outcome (runCommand machine context spawn) before with ⟨error | value, between⟩
    · rw [hfirst] at hrun
      obtain ⟨hmarker, ⟨steps, hsettings, hsteps, _⟩, _⟩ := hrun
      refine ⟨hmarker, ⟨steps, hsettings, ?_, ?_⟩, ?_⟩
      · intro step hstep
        rw [writesOf_single] at hsteps
        exact List.mem_flatMap.mpr ⟨spawn, List.mem_cons_self, hsteps step hstep⟩
      · rintro ⟨_, hok⟩
        cases hok
      · rintro ⟨_, hok⟩
        cases hok
    · rw [hfirst] at hrun
      have hdone : CommandsRun machine [spawn] before between True := by
        obtain ⟨hmarker, ⟨steps, hsettings, hsteps, hwhole⟩, hissued⟩ := hrun
        exact ⟨hmarker, ⟨steps, hsettings, hsteps, fun _ => hwhole ⟨value, rfl⟩⟩,
          fun _ => hissued ⟨value, rfl⟩⟩
      exact hdone.append (ih between)

section Clearing

variable {spawns : List ProxySpawn} {before after : World} {whole : Prop}

theorem CommandsRun.free (hrun : CommandsRun machine spawns before after whole)
    (hclears : Clears (switches machine.desktop machine.os) (writesOf machine spawns))
    (hfree : Free machine before) : Free machine after := by
  obtain ⟨steps, hsettings, hsteps, _⟩ := hrun.settings
  rw [Free, hsettings]
  exact Board.Free.writeAll hfree fun switch hswitch step hstep =>
    hclears.off switch hswitch step (hsteps step hstep)

theorem CommandsRun.off (hrun : CommandsRun machine spawns before after whole)
    (hclears : Clears (switches machine.desktop machine.os) (writesOf machine spawns))
    (hwhole : whole) : Off machine after := by
  obtain ⟨steps, hsettings, _, hsteps⟩ := hrun.settings
  rw [Off, hsettings, hsteps hwhole]
  exact hclears.off_writeAll

end Clearing

end Commands

/-- The scripts of the user clear the proxy when they are run to clear it. -/
structure ScriptsClear (machine : Machine) : Prop where
  linux : ∀ path, Clears (switches machine.desktop .linux) (machine.custom path ["none"])
  macos : ∀ path, Clears (switches machine.desktop .macos) (machine.custom path ["clear"])

section Service

variable {machine : Machine} {installed : String → Bool} {request : SystemProxyRequest}

def clearCommands (installed : String → Bool) (request : SystemProxyRequest) : List ProxySpawn :=
  match request.targetOs with
  | .windows => windowsRegistryCommands windowsClearSettings
  | .linux => [scriptSpawn (linuxScriptInvocation installed request "none" none)]
  | .macos => [scriptSpawn (macosScriptInvocation installed request "clear" none)]
  | .other => []

theorem writesOf_windowsClear (hos : machine.os = .windows) :
    writesOf machine (windowsRegistryCommands windowsClearSettings) = clearedRegistry := by
  simp only [writesOf, windowsRegistryCommands, windowsClearSettings, registrySetDword,
    registrySetString, registrySet, List.flatMap_cons, List.flatMap_nil, effect, hos, if_true,
    registryWrites]
  rfl

theorem clearCommands_clear (hscripts : ScriptsClear machine)
    (hos : request.targetOs = machine.os) :
    Clears (switches machine.desktop machine.os)
      (writesOf machine (clearCommands installed request)) := by
  cases hmachine : machine.os with
  | windows =>
    rw [hmachine] at hos
    simp only [clearCommands, hos, writesOf_windowsClear hmachine]
    exact clears_registry machine.desktop
  | linux =>
    rw [hmachine] at hos
    simp only [clearCommands, hos, writesOf_single, scriptSpawn, linuxScriptInvocation,
      scriptTarget]
    cases customScriptPath installed request.item with
    | some path =>
      simp only [effect, hmachine, reduceCtorEq, if_false]
      exact hscripts.linux path
    | none => exact clears_linux machine.desktop
  | macos =>
    rw [hmachine] at hos
    simp only [clearCommands, hos, writesOf_single, scriptSpawn, macosScriptInvocation,
      scriptTarget]
    cases customScriptPath installed request.item with
    | some path =>
      simp only [effect, hmachine, reduceCtorEq, if_false]
      exact hscripts.macos path
    | none => exact clears_macos machine.desktop
  | other =>
    constructor
    · intro switch hswitch
      cases hswitch
    · intro switch hswitch
      cases hswitch

theorem perform_clear_runs {action : SystemProxyAction}
    (haction : clearAction installed request = some action) :
    Runs machine (clearCommands installed request) (perform machine request action) := by
  unfold clearAction at haction
  unfold clearCommands
  cases hos : request.targetOs <;> rw [hos] at haction <;> cases haction
  · exact runs_forM machine _ _
  · exact runCommand_runs machine _ _
  · exact runCommand_runs machine _ _

theorem Runs.marker {spawns : List ProxySpawn} {action : Call SystemProxyError PUnit}
    (hruns : Runs machine spawns action) :
    Keeps (fun before after => after.marker = before.marker) action :=
  fun before => (hruns before).marker

theorem markerFrame : Frame fun before after : World => after.marker = before.marker where
  refl := fun _ => rfl
  trans := fun hfirst hsecond => hsecond.trans hfirst

theorem pacStart_marker (httpPort pacPort : Int) :
    Keeps (fun before after => after.marker = before.marker) (pacStart httpPort pacPort) := by
  intro before
  simp only [pacStart, outcome_bind, outcome_get]
  split
  · rfl
  · simp only [outcome_bind, outcome_modify, outcome_nextFault]
    rcases before.faults.head?.getD none with _ | ⟨answer, part⟩ | ⟨source, part⟩ | error | part
    all_goals rfl

theorem perform_marker (machine : Machine) (request : SystemProxyRequest)
    (action : SystemProxyAction) :
    Keeps (fun before after => after.marker = before.marker) (perform machine request action) := by
  cases action with
  | noop => exact keeps_pure markerFrame _
  | unsupportedPac => exact keeps_pure markerFrame _
  | windowsSetProxy settings => exact (runs_forM machine _ _).marker
  | windowsClear => exact (runs_forM machine _ _).marker
  | windowsSetPac url =>
    exact keeps_bind markerFrame (pacStart_marker _ _) fun _ => (runs_forM machine _ _).marker
  | macosSetPac script =>
    exact keeps_bind markerFrame (pacStart_marker _ _) fun _ => (runCommand_runs machine _ _).marker
  | linuxSet script host port exceptions => exact (runCommand_runs machine _ _).marker
  | linuxClear script => exact (runCommand_runs machine _ _).marker
  | macosSet script host port exceptions => exact (runCommand_runs machine _ _).marker
  | macosClear script => exact (runCommand_runs machine _ _).marker

theorem apply_marker (machine : Machine) (installed : String → Bool)
    (request : SystemProxyRequest) :
    Keeps (fun before after => after.marker = before.marker) (apply machine installed request) := by
  refine keeps_bind markerFrame (keeps_fromExcept markerFrame _) fun plan => ?_
  have hrest : Keeps (fun before after => after.marker = before.marker)
      (do perform machine request plan.action; pure plan.status) :=
    keeps_bind markerFrame (perform_marker _ _ _) fun _ => keeps_pure markerFrame _
  split
  · exact keeps_bind markerFrame (keeps_modify fun _ => rfl) fun _ => hrest
  · exact hrest

/-- A service call for a request that does not set the proxy: nothing that was written is in effect
after it if so before, and a clear that succeeds leaves no proxy in effect. -/
theorem apply_free (hscripts : ScriptsClear machine) (hos : request.targetOs = machine.os)
    (hsets : requestSetsLocalProxy request = false) (free : Prop) :
    Guards (fun world => free → Free machine world) (apply machine installed request)
      (fun status after => (free → Free machine after) ∧
        (status.effectiveType = .forcedClear → Off machine after))
      (fun _ world => free → Free machine world) := by
  have hplanned : Guards (fun world => free → Free machine world)
      (fromExcept ((planSystemProxy installed request).mapError Halt.failed))
      (fun plan world => (free → Free machine world) ∧ planSystemProxy installed request = .ok plan)
      (fun _ world => free → Free machine world) := by
    refine guards_fromExcept ?_ fun _ _ _ hfree => hfree
    intro plan hplan world hfree
    cases hresult : planSystemProxy installed request with
    | error error =>
      rw [hresult] at hplan
      cases hplan
    | ok found =>
      rw [hresult] at hplan
      cases hplan
      exact ⟨hfree, rfl⟩
  refine guards_bind hplanned fun plan => ?_
  have hrest : Guards
      (fun world => (free → Free machine world) ∧ planSystemProxy installed request = .ok plan)
      (do perform machine request plan.action; pure plan.status)
      (fun status after => (free → Free machine after) ∧
        (status.effectiveType = .forcedClear → Off machine after))
      (fun _ world => free → Free machine world) := by
    intro before hbefore
    obtain ⟨hfree, hplan⟩ := hbefore
    rcases planKind_of_plan hplan with ⟨_, _, haction⟩ | ⟨_, hstatus, haction⟩ | ⟨_, hset, _⟩
    · have hrun : CommandsRun machine (clearCommands installed request) before _ _ :=
        perform_clear_runs haction before
      have hclears : Clears _ (writesOf machine (clearCommands installed request)) :=
        clearCommands_clear hscripts hos
      rw [outcome_bind]
      rcases hfirst : outcome (perform machine request plan.action) before with
        ⟨error | value, after⟩
      · rw [hfirst] at hrun
        exact fun h => hrun.free hclears (hfree h)
      · rw [hfirst] at hrun
        exact ⟨fun h => hrun.free hclears (hfree h), fun _ => hrun.off hclears ⟨value, rfl⟩⟩
    · rcases haction with haction | haction
      all_goals
        rw [haction]
        refine ⟨hfree, fun hclear => ?_⟩
        rw [hstatus] at hclear
        cases hclear
    · rw [hsets] at hset
      cases hset
  split
  · have hstopped : Guards
        (fun world => (free → Free machine world) ∧ planSystemProxy installed request = .ok plan)
        pacStop
        (fun _ world => (free → Free machine world) ∧ planSystemProxy installed request = .ok plan)
        (fun _ world => free → Free machine world) := fun _ hbefore => hbefore
    exact guards_bind hstopped fun _ => hrest
  · exact hrest

theorem apply_status :
    Yields (apply machine installed request) fun _ status _ =>
      ∃ plan, planSystemProxy installed request = .ok plan ∧ status = plan.status := by
  intro before status after hrun
  obtain ⟨plan, between, hplan, hrest⟩ := ok_of_bind hrun
  rw [outcome_fromExcept] at hplan
  have hstatus : status = plan.status := by
    split at hrest
    · obtain ⟨_, _, _, hrest⟩ := ok_of_bind hrest
      obtain ⟨_, _, _, hrest⟩ := ok_of_bind hrest
      cases hrest
      rfl
    · obtain ⟨_, _, _, hrest⟩ := ok_of_bind hrest
      cases hrest
      rfl
  cases hresult : planSystemProxy installed request with
  | error error =>
    rw [hresult] at hplan
    cases hplan
  | ok found =>
    rw [hresult] at hplan
    cases hplan
    exact ⟨_, rfl, hstatus⟩

end Service

section Manager

variable {machine : Machine} {paths : AppPaths} {installed : String → Bool}

/-- File operations that leave the settings alone and do not remove the marker. -/
def Harmless (before after : World) : Prop :=
  after.settings = before.settings ∧ (before.marker = true → after.marker = true)

theorem harmlessFrame : Frame Harmless where
  refl := fun _ => ⟨rfl, fun h => h⟩
  trans := fun hfirst hsecond =>
    ⟨hsecond.1.trans hfirst.1, fun h => hsecond.2 (hfirst.2 h)⟩

theorem Harmless.covered {before after : World} (h : Harmless before after)
    (hcovered : Covered machine before) : Covered machine after := by
  rcases hcovered with hmarker | hfree
  · exact .inl (h.2 hmarker)
  · right
    rw [Free, h.1]
    exact hfree

/-- A file operation is done whole, or fails or crashes with a part of it done. -/
theorem fileOperation_cases (whole : World → World) (cut : Bool → World → World)
    (wrap : String → SystemProxyManagerError) (before : World) :
    outcome (fileOperation whole cut wrap) before =
        (.ok ⟨⟩, whole { before with faults := before.faults.tail }) ∨
      ∃ halt part, outcome (fileOperation whole cut wrap) before =
        (.error halt, cut part { before with faults := before.faults.tail }) := by
  simp only [fileOperation, outcome_bind, outcome_nextFault]
  rcases before.faults.head?.getD none with _ | ⟨answer, part⟩ | ⟨source, part⟩ | error | part
  · exact .inl rfl
  · exact .inl rfl
  · exact .inr ⟨_, part, rfl⟩
  · exact .inl rfl
  · exact .inr ⟨_, part.headD false, rfl⟩

theorem fileOperation_harmless (wrap : String → SystemProxyManagerError) :
    Keeps Harmless (fileOperation id (fun _ => id) wrap) := by
  intro before
  rcases fileOperation_cases id (fun _ => id) wrap before with h | ⟨halt, part, h⟩
  · rw [h]
    exact ⟨rfl, fun hmarker => hmarker⟩
  · rw [h]
    exact ⟨rfl, fun hmarker => hmarker⟩

theorem ensureDirs_harmless (paths : AppPaths) : Keeps Harmless (ensureDirs paths) :=
  keeps_forM harmlessFrame (fun _ => fileOperation_harmless _) _

theorem guards_of_harmless {ε α : Type} {action : Action World ε α}
    (hkeeps : Keeps Harmless action) :
    Guards (Covered machine) action (fun _ => Covered machine) (fun _ => Covered machine) := by
  intro before hcovered
  have hafter := (hkeeps before).covered hcovered
  rcases hrun : outcome action before with ⟨error | value, after⟩
  · rw [hrun] at hafter
    exact hafter
  · rw [hrun] at hafter
    exact hafter

theorem writeDirtyMarker_guards :
    Guards (Covered machine) (writeDirtyMarker paths) (fun _ world => world.marker = true)
      (fun _ => Covered machine) := by
  refine guards_bind (guards_of_harmless (ensureDirs_harmless paths)) fun _ => ?_
  refine guards_bind (guards_of_harmless (fileOperation_harmless _)) fun _ => ?_
  intro before hcovered
  rcases fileOperation_cases (fun world => { world with marker := true })
    (fun part world => { world with marker := world.marker || part })
    (.dirtyMarkerWrite (dirtyMarkerPath paths)) before with h | ⟨halt, part, h⟩
  · rw [h]
  · rw [h]
    rcases hcovered with hmarker | hfree
    · left
      simp only [hmarker, Bool.true_or]
    · exact .inr hfree

theorem clearDirtyMarker_guards :
    Guards (Off machine) (clearDirtyMarker paths)
      (fun _ world => Off machine world ∧ world.marker = false) (fun _ => Covered machine) := by
  intro before hoff
  rcases fileOperation_cases (fun world => { world with marker := false })
    (fun part world => { world with marker := world.marker && !part })
    (.dirtyMarkerRemove (dirtyMarkerPath paths)) before with h | ⟨halt, part, h⟩
  · rw [clearDirtyMarker, h]
    exact ⟨hoff, rfl⟩
  · rw [clearDirtyMarker, h]
    exact .inr (Board.Off.free hoff)

/-- What a call leaves that ends well: the settings stay covered, and a clear leaves no proxy in
effect and no marker. -/
def Settled (machine : Machine) (cleared : Prop) (world : World) : Prop :=
  Covered machine world ∧ (cleared → Off machine world ∧ world.marker = false)

theorem serviceApply_marker (machine : Machine) (installed : String → Bool)
    (request : SystemProxyRequest) :
    Keeps (fun before after => after.marker = before.marker)
      (serviceApply machine installed request) :=
  (apply_marker machine installed request).adaptError _

theorem serviceApply_status (request : SystemProxyRequest) :
    Yields (serviceApply machine installed request) fun _ status _ =>
      ∃ plan, planSystemProxy installed request = .ok plan ∧ status = plan.status :=
  apply_status.adaptError _

theorem serviceApply_free (installed : String → Bool) (hscripts : ScriptsClear machine)
    {request : SystemProxyRequest}
    (hos : request.targetOs = machine.os) (hsets : requestSetsLocalProxy request = false)
    (free : Prop) :
    Guards (fun world => free → Free machine world) (serviceApply machine installed request)
      (fun status after => (free → Free machine after) ∧
        (status.effectiveType = .forcedClear → Off machine after))
      (fun _ world => free → Free machine world) :=
  (apply_free hscripts hos hsets free).adaptError fun _ _ h => h

theorem serviceApply_covered (hscripts : ScriptsClear machine) {request : SystemProxyRequest}
    (hos : request.targetOs = machine.os) (hsets : requestSetsLocalProxy request = false) :
    Guards (Covered machine) (serviceApply machine installed request)
      (fun status world => Covered machine world ∧
        (status.effectiveType = .forcedClear → Off machine world)) (fun _ => Covered machine) := by
  intro before hcovered
  have hmarker := serviceApply_marker machine installed request before
  have hfree := serviceApply_free installed hscripts hos hsets (Free machine before)
    before fun h => h
  have hkept : ∀ world : World, world.marker = before.marker →
      (Free machine before → Free machine world) → Covered machine world := by
    intro world hsame hfree
    rcases hcovered with hbefore | hbefore
    · exact .inl (hsame.trans hbefore)
    · exact .inr (hfree hbefore)
  rcases hrun : outcome (serviceApply machine installed request) before with ⟨error | status, after⟩
  · rw [hrun] at hmarker hfree
    exact hkept after hmarker hfree
  · rw [hrun] at hmarker hfree
    exact ⟨hkept after hmarker hfree.1, hfree.2⟩

theorem removal_guards {α : Type} (value : α) (cleared : Prop) [Decidable cleared] :
    Guards (fun world => Covered machine world ∧ (cleared → Off machine world))
      (do
        if cleared then clearDirtyMarker paths
        pure value)
      (fun result world => result = value ∧ Settled machine cleared world)
      (fun _ => Covered machine) := by
  split
  · rename_i hcleared
    refine guards_bind (clearDirtyMarker_guards.mono (fun world h => h.2 hcleared) fun _ _ h => h)
      fun _ => guards_pure fun world h => ?_
    exact ⟨rfl, .inr (Board.Off.free h.1), fun _ => h⟩
  · rename_i hcleared
    exact guards_pure fun world h => ⟨rfl, h.1, fun h => absurd h hcleared⟩

theorem request_guards (nonce : String) (config : Config) (forceDisable : Bool) :
    Guards (Covered machine) (SystemProxyManager.request machine paths nonce config forceDisable)
      (fun request world => Covered machine world ∧
        request = systemProxyRequest machine paths nonce config forceDisable)
      (fun _ => Covered machine) :=
  guards_bind (guards_of_harmless (ensureDirs_harmless paths)) fun _ =>
    guards_pure fun _ hcovered => ⟨hcovered, rfl⟩

theorem serviceApply_marked {request : SystemProxyRequest}
    (hsets : requestSetsLocalProxy request = true) :
    Guards (fun world => world.marker = true) (serviceApply machine installed request)
      (fun status world => Covered machine world ∧
        (status.effectiveType = .forcedClear → Off machine world)) (fun _ => Covered machine) := by
  intro before hbefore
  have hmarker := serviceApply_marker machine installed request before
  rcases hrun : outcome (serviceApply machine installed request) before with ⟨error | status, after⟩
  · rw [hrun] at hmarker
    exact .inl (hmarker.trans hbefore)
  · rw [hrun] at hmarker
    obtain ⟨plan, hplan, rfl⟩ := serviceApply_status request _ _ _ hrun
    exact ⟨.inl (hmarker.trans hbefore),
      fun hclear => absurd hclear (not_clears_of_sets hsets hplan)⟩

theorem applyConfig_guards (hscripts : ScriptsClear machine) (nonce : String) (config : Config)
    (forceDisable : Bool) :
    Guards (Covered machine) (applyConfig machine paths installed nonce config forceDisable)
      (fun status => Settled machine (status.effectiveType = .forcedClear))
      (fun _ => Covered machine) := by
  refine guards_bind (request_guards nonce config forceDisable) fun request => ?_
  refine guards_of_known ?_
  rintro rfl
  cases hsets : requestSetsLocalProxy (systemProxyRequest machine paths nonce config
    forceDisable) with
  | true =>
    refine guards_bind writeDirtyMarker_guards fun _ => ?_
    refine guards_bind (serviceApply_marked hsets) fun status => ?_
    refine (removal_guards status _).mono (fun _ h => h) ?_
    rintro _ world ⟨rfl, hsettled⟩
    exact hsettled
  | false =>
    refine guards_bind (serviceApply_covered hscripts rfl hsets) fun status => ?_
    refine (removal_guards status _).mono (fun _ h => h) ?_
    rintro _ world ⟨rfl, hsettled⟩
    exact hsettled

theorem setMode_guards (hscripts : ScriptsClear machine) (nonce : String) (config : Config)
    (mode : SysProxyType) :
    Guards (Covered machine) (setMode machine paths installed nonce config mode)
      (fun status => Settled machine (status.effectiveType = .forcedClear))
      (fun _ => Covered machine) := by
  unfold setMode
  split
  · exact guards_throw fun _ hcovered => hcovered
  · exact applyConfig_guards hscripts nonce _ false

def clearRequest (machine : Machine) (paths : AppPaths) (nonce : String) (config : Config) :
    SystemProxyRequest :=
  let request := systemProxyRequest machine paths nonce config false
  { request with item := { request.item with sysProxyType := .forcedClear } }

theorem clearRequest_guards (hscripts : ScriptsClear machine) (nonce : String) (config : Config) :
    Guards (Covered machine) (serviceApply machine installed
      (clearRequest machine paths nonce config))
      (fun status world => (Covered machine world ∧
        (status.effectiveType = .forcedClear → Off machine world)) ∧
          status.effectiveType = .forcedClear)
      (fun _ => Covered machine) := by
  intro before hcovered
  have hsets : requestSetsLocalProxy (clearRequest machine paths nonce config) = false := rfl
  have hguards : Guards _ (serviceApply machine installed (clearRequest machine paths nonce config))
    _ _ := serviceApply_covered hscripts rfl hsets
  have hafter := hguards before hcovered
  rcases hrun : outcome (serviceApply machine installed (clearRequest machine paths nonce
    config)) before
    with ⟨error | status, after⟩
  · rw [hrun] at hafter
    exact hafter
  · rw [hrun] at hafter
    obtain ⟨plan, hplan, rfl⟩ := serviceApply_status _ _ _ _ hrun
    exact ⟨hafter, status_of_forcedClear rfl hplan⟩

theorem dirtyMarkerExists_guards :
    Guards (Covered machine) (dirtyMarkerExists paths) (fun _ => Covered machine)
      (fun _ => Covered machine) := by
  refine guards_bind (guards_of_harmless (fileOperation_harmless _)) fun _ => ?_
  intro before hcovered
  exact hcovered

theorem restoreDirtyProxyIfNeeded_guards (hscripts : ScriptsClear machine) (nonce : String)
    (config : Config) :
    Guards (Covered machine) (restoreDirtyProxyIfNeeded machine paths installed nonce config)
      (fun restored => Settled machine (restored = true)) (fun _ => Covered machine) := by
  refine guards_bind dirtyMarkerExists_guards fun dirty => ?_
  cases dirty with
  | false => exact guards_pure fun world hcovered => ⟨hcovered, fun h => by cases h⟩
  | true =>
    refine guards_bind (request_guards nonce config false) fun request => guards_of_known ?_
    rintro rfl
    refine guards_bind (clearRequest_guards hscripts nonce config) fun status =>
      guards_of_known fun hstatus => ?_
    refine (removal_guards true _).mono (fun _ h => h) ?_
    rintro _ world ⟨rfl, hcovered, hsettled⟩
    exact ⟨hcovered, fun _ => hsettled hstatus⟩

end Manager

section Runs

inductive Operation where
  | setMode (mode : SysProxyType)
  | applyConfig (forceDisable : Bool)
  | restore
  | restoreDirtyProxyIfNeeded
  deriving DecidableEq, Repr

/-- One call, with the files it finds and the faults it meets. -/
structure Invocation where
  operation : Operation
  config : Config
  nonce : String
  installed : String → Bool
  faults : List (Option Fault)

inductive Answer where
  | status (status : SystemProxyStatus)
  | restored (restored : Bool)
  deriving DecidableEq, Repr

def call (machine : Machine) (paths : AppPaths) (invocation : Invocation) :
    Call SystemProxyManagerError Answer :=
  let installed := invocation.installed
  let nonce := invocation.nonce
  let config := invocation.config
  match invocation.operation with
  | .setMode mode => do return .status (← setMode machine paths installed nonce config mode)
  | .applyConfig forceDisable => do
    return .status (← applyConfig machine paths installed nonce config forceDisable)
  | .restore => do return .status (← restore machine paths installed nonce config)
  | .restoreDirtyProxyIfNeeded => do
    return .restored (← restoreDirtyProxyIfNeeded machine paths installed nonce config)

def Cleared : Answer → Prop
  | .status status => status.effectiveType = .forcedClear
  | .restored restored => restored = true

/-- A run of one call; after a crash the application starts again. -/
def invoke (machine : Machine) (paths : AppPaths) (world : World) (invocation : Invocation) :
    Except (Halt SystemProxyManagerError) Answer × World :=
  match outcome (call machine paths invocation) { world with faults := invocation.faults } with
  | (.error .crashed, after) => (.error .crashed, { after with pac := none })
  | ended => ended

/-- The calls one after another. A moment inside a call is the end of a run whose last call crashes
there. -/
def runCalls (machine : Machine) (paths : AppPaths) (world : World)
    (invocations : List Invocation) :
    World :=
  invocations.foldl (fun world invocation => (invoke machine paths world invocation).2) world

variable {machine : Machine} {paths : AppPaths}

theorem call_guards (hscripts : ScriptsClear machine) (invocation : Invocation) :
    Guards (Covered machine) (call machine paths invocation)
      (fun answer => Settled machine (Cleared answer)) (fun _ => Covered machine) := by
  obtain ⟨operation, config, nonce, installed, faults⟩ := invocation
  cases operation with
  | setMode mode =>
    exact guards_bind (setMode_guards hscripts nonce config mode) fun _ => guards_pure fun _ h => h
  | applyConfig forceDisable =>
    exact guards_bind (applyConfig_guards hscripts nonce config forceDisable) fun _ =>
      guards_pure fun _ h => h
  | restore =>
    exact guards_bind (applyConfig_guards hscripts nonce config true) fun _ =>
      guards_pure fun _ h => h
  | restoreDirtyProxyIfNeeded =>
    exact guards_bind (restoreDirtyProxyIfNeeded_guards hscripts nonce config) fun _ =>
      guards_pure fun _ h => h

theorem invoke_covered (hscripts : ScriptsClear machine) (invocation : Invocation) {world : World}
    (hcovered : Covered machine world) :
    Covered machine (invoke machine paths world invocation).2 ∧
      ∀ answer, (invoke machine paths world invocation).1 = .ok answer → Cleared answer →
        Off machine (invoke machine paths world invocation).2 ∧
          (invoke machine paths world invocation).2.marker = false := by
  have hguards : Guards _ (call machine paths invocation) _ _ := call_guards hscripts invocation
  have hafter := hguards { world with faults := invocation.faults } hcovered
  unfold invoke
  rcases hrun : outcome (call machine paths invocation) { world with faults := invocation.faults }
    with ⟨(error | _) | answer, after⟩
  · rw [hrun] at hafter
    refine ⟨hafter, ?_⟩
    intro answer hanswer
    cases hanswer
  · rw [hrun] at hafter
    refine ⟨hafter, ?_⟩
    intro answer hanswer
    cases hanswer
  · rw [hrun] at hafter
    refine ⟨hafter.1, ?_⟩
    intro found hfound hcleared
    cases hfound
    exact hafter.2 hcleared

theorem runCalls_covered (hscripts : ScriptsClear machine) (invocations : List Invocation)
    {world : World} (hcovered : Covered machine world) :
    Covered machine (runCalls machine paths world invocations) := by
  induction invocations generalizing world with
  | nil => exact hcovered
  | cons invocation invocations ih => exact ih (invoke_covered hscripts invocation hcovered).1

/-- Whenever the proxy of the application is in effect because of the calls, the marker exists, and
a call that clears it and succeeds leaves neither. -/
theorem marker_covers_proxy (paths : AppPaths) (hscripts : ScriptsClear machine) (start : World)
    (hstart : ∀ key, start.settings.written key = false) (invocations : List Invocation) :
    (PointsHere machine (runCalls machine paths start invocations) →
        (runCalls machine paths start invocations).marker = true) ∧
      ∀ last answer,
        (invoke machine paths (runCalls machine paths start invocations) last).1 = .ok answer →
          Cleared answer →
            ¬PointsHere machine (runCalls machine paths start (invocations ++ [last])) ∧
              (runCalls machine paths start (invocations ++ [last])).marker = false := by
  have hcovered : Covered machine (runCalls machine paths start invocations) :=
    runCalls_covered hscripts invocations (.inr (free_of_untouched hstart))
  constructor
  · intro hpoints
    rcases hcovered with hmarker | hfree
    · exact hmarker
    · exact absurd hpoints (not_pointsHere_of_free hfree)
  · intro last answer hanswer hcleared
    obtain ⟨hoff, hmarker⟩ := (invoke_covered hscripts last hcovered).2 answer hanswer hcleared
    have hrun : runCalls machine paths start (invocations ++ [last]) =
        (invoke machine paths (runCalls machine paths start invocations) last).2 := by
      rw [runCalls, List.foldl_append]
      rfl
    rw [hrun]
    exact ⟨not_pointsHere_of_free (Board.Off.free hoff), hmarker⟩

/-- The status of `sh` for a command it does not find. -/
def commandNotFound : Nat := 127

/-- A desktop that has the tools of both, without which the script for Linux fails. -/
def gnomeDesktop : Desktop where
  gsettings := true
  kwriteconfig := true
  notFound := commandNotFound
  notFound_ne := by decide
  services := ["Wi-Fi"]
  pathnames := fun _ => []

/-- A machine whose user has scripts that write what those of the application write. -/
def gnomeMachine : Machine where
  os := .linux
  desktop := gnomeDesktop
  custom := fun _ arguments =>
    linuxProxyScript gnomeDesktop arguments ++ macosProxyScript gnomeDesktop arguments

theorem gnomeMachine_clears : ScriptsClear gnomeMachine where
  linux := by
    intro path
    have hmacos : macosProxyScript gnomeDesktop ["none"] = [] := by decide +kernel
    have hlinux := clears_linux gnomeDesktop
    simpa only [gnomeMachine, hmacos, List.append_nil] using hlinux
  macos := by
    intro path
    have hlinux : linuxProxyScript gnomeDesktop ["clear"] = [] := by decide +kernel
    have hmacos := clears_macos gnomeDesktop
    simpa only [gnomeMachine, hlinux, List.nil_append] using hmacos

def voyaPaths : AppPaths where
  appDir := "/voya"
  configDir := "/voya/config"
  binDir := "/voya/bin"
  binConfigDir := "/voya/bin/config"
  logDir := "/voya/logs"
  tempDir := "/voya/temp"

def freshWorld : World where
  settings := ⟨fun _ => "", fun _ => false⟩
  marker := false

/-- The script that sets the proxy is cut off by a crash after its first write. -/
def crashedSet : Invocation where
  operation := .setMode .forcedChange
  config := {}
  nonce := "1"
  installed := fun _ => false
  faults := List.replicate 14 none ++ [some (.crash [true])]

def recovery : Invocation where
  operation := .restoreDirtyProxyIfNeeded
  config := {}
  nonce := "2"
  installed := fun _ => false
  faults := []

theorem marker_covers_proxy_crashed :
    PointsHere gnomeMachine (runCalls gnomeMachine voyaPaths freshWorld [crashedSet]) ∧
      (runCalls gnomeMachine voyaPaths freshWorld [crashedSet]).marker = true ∧
      ¬PointsHere gnomeMachine (runCalls gnomeMachine voyaPaths freshWorld [crashedSet, recovery]) ∧
      (runCalls gnomeMachine voyaPaths freshWorld [crashedSet, recovery]).marker = false := by
  have hcovers := marker_covers_proxy voyaPaths gnomeMachine_clears freshWorld (fun _ =>
    rfl) [crashedSet]
  have hon : gnomeManual.on
      (runCalls gnomeMachine voyaPaths freshWorld [crashedSet]).settings.values = true := by
    decide +kernel
  have hwritten : (runCalls gnomeMachine voyaPaths freshWorld [crashedSet]).settings.written
      (.gsettings "org.gnome.system.proxy" "mode") = true := by
    decide +kernel
  have hpoints : PointsHere gnomeMachine
      (runCalls gnomeMachine voyaPaths freshWorld [crashedSet]) :=
    ⟨gnomeManual, List.mem_cons_self, hon, _, List.mem_cons_self, hwritten⟩
  have hanswer : (invoke gnomeMachine voyaPaths
      (runCalls gnomeMachine voyaPaths freshWorld [crashedSet]) recovery).1 =
        .ok (.restored true) := by
    decide +kernel
  exact ⟨hpoints, hcovers.1 hpoints, hcovers.2 recovery _ hanswer rfl⟩

end Runs

end DirtyMarker
