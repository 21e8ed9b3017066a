import VoyaVPN.ProxyScripts

/-! The two views of the scripts agree: what their calls write when they succeed, and the status
they then end with, are what the system proxy manager reckons with. -/
namespace ScriptSettings

open RustText PlatformProcess ProxySettings ShellProgram ProxyScripts

section Writes

def gsettingsWrites : List String → List SettingWrite
  | [_, schema, key, value] => [⟨.gsettings schema key, value⟩]
  | _ => []

def kdeWrites : List String → List SettingWrite
  | [_, _, _, _, _, key, value] => [⟨.kioslaverc key, value⟩]
  | _ => []

def optionProxy (option : String) : Option (String × String) :=
  serviceProxies.find? fun proxy => "-set" ++ proxy.1 == option

def networkWrites : List String → List SettingWrite
  | option :: service :: values =>
    match optionProxy option, values with
    | some proxy, [host, port] => setServiceProxy service (host ++ ":" ++ port) proxy
    | some _, _ => []
    | none, values =>
      [⟨.network service ((stripPrefix option "-set").getD ""), " ".intercalate values⟩]
  | _ => []

def written : Invocation → List SettingWrite
  | [] => []
  | tool :: words =>
    if tool = "gsettings" then gsettingsWrites words
    else if tool = "networksetup" then networkWrites words
    else if tool ∈ kdeTools then kdeWrites words
    else []

end Writes

/-- The surroundings of a script as the manager knows them. -/
def desktopOf (surroundings : Surroundings) : Desktop where
  gsettings := surroundings.installed "gsettings"
  kwriteconfig := hasKde surroundings
  notFound := surroundings.notFound
  notFound_ne := surroundings.notFound_ne
  services := services surroundings
  pathnames := surroundings.pathnames

section Linux

variable (surroundings : Surroundings) (answers : Nat → Nat)

theorem written_gsettings (schema key : String) (value : Scope → String) (scope : Scope) :
    written (gsettings schema key value scope) = [⟨.gsettings schema key, value scope⟩] := by
  rw [gsettings, written, if_pos rfl]
  rfl

theorem written_gnome {mode : String} {scope : Scope} (hmode : scope.vars "mode" = mode) :
    (gnomeInvocations surroundings mode scope).flatMap written =
      if surroundings.installed "gsettings" then
        ProxySettings.setGnome surroundings.pathnames mode (scope.vars "host") (scope.vars "port")
          (scope.vars "ignore_hosts")
      else [] := by
  rw [gnomeInvocations]
  split
  · rw [List.flatMap_cons, ProxySettings.setGnome, written_gsettings, hmode]
    by_cases hmanual : mode = "manual"
    · have hprotos : (protos.flatMap fun proto =>
        setProto.map (· (scope.set "proto" proto))).flatMap
          written = proxyProtocols.flatMap fun protocol =>
            [⟨.gsettings (gnomeProxy protocol) "host", scope.vars "host"⟩,
              ⟨.gsettings (gnomeProxy protocol) "port", scope.vars "port"⟩] := by
        rw [List.flatMap_assoc]
        refine List.flatMap_congr fun proto _ => ?_
        rw [setProto, List.map_cons, List.map_cons, List.map_nil, List.flatMap_cons,
          List.flatMap_cons, written_gsettings, written_gsettings]
        rfl
      rw [if_pos hmanual, if_pos hmanual, gnomeManualInvocations, List.flatMap_append, hprotos,
        List.flatMap_singleton, written_gsettings]
      rfl
    · simp only [if_neg hmanual, List.flatMap_nil]
      rfl
  · rfl

theorem written_kwriteconfig {scope : Scope} (htool : scope.vars "kwriteconfig" ∈ kdeTools)
    (key : String) (value : Scope → String) :
    written (kwriteconfig key value scope) = [⟨.kioslaverc key, value scope⟩] := by
  have hother : scope.vars "kwriteconfig" ≠ "gsettings" ∧
      scope.vars "kwriteconfig" ≠ "networksetup" := by
    constructor <;>
    · intro heq
      rw [heq] at htool
      exact absurd htool (by decide)
  rw [kwriteconfig, written, if_neg hother.1, if_neg hother.2, if_pos htool]
  rfl

theorem written_kde (mode : String) {tool : String} (htool : tool ∈ kdeTools) (scope : Scope) :
    (kdeInvocations mode (scope.set "kwriteconfig" tool)).flatMap written =
      ProxySettings.setKde mode (scope.vars "host") (scope.vars "port")
        (scope.vars "ignore_hosts") := by
  have hvar : (scope.set "kwriteconfig" tool).vars "kwriteconfig" ∈ kdeTools := by
    simpa [Scope.set] using htool
  rw [kdeInvocations, ProxySettings.setKde]
  by_cases hmanual : mode = "manual"
  · simp only [if_pos hmanual, setKdeManual, List.map_cons, List.map_nil, List.flatMap_cons,
      List.flatMap_nil, written_kwriteconfig hvar]
    simp [proxyAddress, kdeProxies, Scope.set]
  · simp only [if_neg hmanual, List.flatMap_cons, List.flatMap_nil, written_kwriteconfig hvar]
    rfl

/-- The calls of the script for Linux write what the manager reckons with, and it ends with the
status that the manager reckons with, whatever becomes of the calls. -/
theorem linuxProxyScript_writes (arguments : List String) :
    (run answers (ProxyScripts.linuxProxyScript surroundings) arguments).calls.flatMap written =
        ProxySettings.linuxProxyScript (desktopOf surroundings) arguments ∧
      (run answers (ProxyScripts.linuxProxyScript surroundings) arguments).status =
        linuxScriptStatus (desktopOf surroundings) arguments := by
  obtain ⟨scope, hscope, hstart⟩ := linuxStart surroundings answers arguments
  have hmode := hscope.mode
  rw [hstart, ProxySettings.linuxProxyScript, linuxScriptStatus]
  simp only [List.getD_eq_getElem?_getD]
  generalize (arguments[0]?).getD "" = mode at hmode ⊢
  let before : State := { scope, status := 0, calls := [] }
  by_cases hvalid : mode = "manual" ∨ mode = "none"
  · have hsome : ¬(mode ≠ "manual" ∧ mode ≠ "none") := by
      rintro ⟨hmanual, hnone⟩
      exact hvalid.elim hmanual hnone
    obtain ⟨tool, htool, final, extra, hfinal, hstatus, hcalls, hextra⟩ :=
      linuxBody_makes surroundings answers (show before.scope.vars "mode" = mode from hmode) rfl
        hvalid
    have hsignal : extra.flatMap written = [] := by
      rcases hextra with rfl | rfl <;> rfl
    rw [hfinal, hstatus, hcalls, if_neg hsome, if_neg hsome, List.flatMap_append,
      List.flatMap_append, hsignal, List.append_nil, written_gnome surroundings hmode,
      hscope.host, hscope.port, hscope.ignoreHosts]
    refine ⟨congrArg _ ?_, rfl⟩
    change (if hasKde surroundings = true then _ else []).flatMap written =
      if hasKde surroundings = true then _ else []
    split
    · rw [written_kde mode htool, hscope.host, hscope.port, hscope.ignoreHosts]
    · rfl
  · rw [not_or] at hvalid
    rw [linuxBody_invalid surroundings answers (hmode ▸ hvalid.1) (hmode ▸ hvalid.2),
      if_pos hvalid, if_pos hvalid]
    exact ⟨rfl, rfl⟩

end Linux

section Macos

variable (surroundings : Surroundings) (answers : Nat → Nat)

def serviceWrites (mode host port pacUrl : String) (bypass : List String) (service : String) :
    List SettingWrite :=
  if mode = "set" then ProxySettings.setService service host port bypass
  else if mode = "pac" then setServicePac service pacUrl
  else if mode = "clear" then ProxySettings.clearService service
  else []

theorem serviceWrites_invalid {mode host port pacUrl : String} {bypass : List String}
    (h : mode ∉ ["set", "pac", "clear"]) (service : String) :
    serviceWrites mode host port pacUrl bypass service = [] := by
  simp only [List.mem_cons, List.not_mem_nil, or_false, not_or] at h
  rw [serviceWrites, if_neg h.1, if_neg h.2.1, if_neg h.2.2]

theorem serviceWrites_none {mode host port pacUrl : String} {bypass : List String}
    (h : mode ∉ ["set", "pac", "clear"]) (items : List String) :
    items.flatMap (serviceWrites mode host port pacUrl bypass) = [] := by
  induction items with
  | nil => rfl
  | cons item items ih => rw [List.flatMap_cons, serviceWrites_invalid h, ih, List.append_nil]

theorem written_service {mode : String} {scope : Scope} {service : String}
    (hservice : service ≠ "") :
    (callsFor mode (scope.set "service" service)).flatMap written =
      serviceWrites mode (scope.vars "host") (scope.vars "port") (scope.vars "pac_url")
        scope.arguments service := by
  rw [callsFor, vars_set, if_neg hservice, serviceCalls, serviceWrites]
  split
  · rfl
  · split
    · rfl
    · split
      · rfl
      · rfl

theorem written_services (mode : String) (scope : Scope) (items : List String) :
    (items.flatMap fun item => callsFor mode (scope.set "service" item)).flatMap written =
      (items.filter (· ≠ "")).flatMap (serviceWrites mode (scope.vars "host") (scope.vars "port")
        (scope.vars "pac_url") scope.arguments) := by
  induction items with
  | nil => rfl
  | cons item items ih =>
    rw [List.flatMap_cons, List.flatMap_append, ih, List.filter_cons]
    by_cases hitem : item = ""
    · subst hitem
      rw [callsFor, vars_set, if_pos rfl]
      rfl
    · rw [written_service hitem, if_pos (decide_eq_true hitem), List.flatMap_cons]

theorem serviceBody_exits {mode : String} {before : State} (hmode : before.scope.vars "mode" = mode)
    (hinvalid : serviceCalls mode = []) (hservice : before.scope.vars "service" ≠ "") :
    exec answers serviceBody before = (.exited, { before with status := 1 }) := by
  rw [serviceBody, exec_seq (exec_named hservice), exec_ifElse_test, exec_ifElse_test,
    exec_ifElse_test]
  rw [serviceCalls] at hinvalid
  simp only [hmode, beq_iff_eq]
  split_ifs at hinvalid ⊢
  · cases hinvalid
  · cases hinvalid
  · cases hinvalid
  · rfl

theorem loop_exits {mode : String} (hinvalid : serviceCalls mode = []) {items : List String}
    (before : State) (hmode : before.scope.vars "mode" = mode)
    (hitems : items.filter (· ≠ "") ≠ []) :
    (loop (fun state => exec answers serviceBody state) "service" items before).2.status = 1 := by
  induction items generalizing before with
  | nil => exact absurd rfl hitems
  | cons item items ih =>
    let named : State := { before with scope := before.scope.set "service" item }
    have hnamed : named.scope.vars "mode" = mode :=
      (vars_set_other (by decide) _ _).trans hmode
    by_cases hitem : item = ""
    · subst hitem
      have hblank := @serviceBody_blank answers named (vars_set _ _ _)
      rw [loop_cons hblank (Or.inr rfl)]
      refine ih _ hnamed ?_
      simpa [List.filter_cons] using hitems
    · have hexits := serviceBody_exits answers hnamed hinvalid
        (show named.scope.vars "service" ≠ "" by rwa [vars_set])
      rw [loop, hexits]

theorem loop_blank {items : List String} (before : State) (hne : items ≠ [])
    (hitems : items.filter (· ≠ "") = []) :
    (loop (fun state => exec answers serviceBody state) "service" items before).2.status = 0 := by
  induction items generalizing before with
  | nil => exact absurd rfl hne
  | cons item items ih =>
    obtain ⟨hitem, hrest⟩ : item = "" ∧ items.filter (· ≠ "") = [] := by
      rw [List.filter_cons] at hitems
      split at hitems
      · cases hitems
      · rename_i hblank
        exact ⟨by simpa using hblank, hitems⟩
    subst hitem
    have hblank := @serviceBody_blank answers
      { before with scope := before.scope.set "service" "" } (vars_set _ _ _)
    rw [loop_cons hblank (Or.inr rfl)]
    cases items with
    | nil => rfl
    | cons next items => exact ih _ (List.cons_ne_nil _ _) hrest

theorem serviceCalls_eq_nil_iff (mode : String) :
    serviceCalls mode = [] ↔ mode ∉ ["set", "pac", "clear"] := by
  rw [serviceCalls]
  split
  · rename_i h
    exact iff_of_false (List.cons_ne_nil _ _) (by simp [h])
  · split
    · rename_i h
      exact iff_of_false (List.cons_ne_nil _ _) (by simp [h])
    · split
      · rename_i h
        exact iff_of_false (List.cons_ne_nil _ _) (by simp [h])
      · rename_i hset hpac hclear
        exact iff_of_true rfl (by simp [hset, hpac, hclear])

theorem serviceLines_ne_nil : serviceLines surroundings ≠ [] := by
  rcases serviceLines_cases surroundings with hblank | ⟨lines, last, _, hlines⟩
  · rw [hblank]
    exact List.cons_ne_nil _ _
  · rw [hlines]
    exact List.append_ne_nil_of_right_ne_nil _ (List.cons_ne_nil _ _)

theorem macosProxyScript_eq (arguments : List String) :
    ProxySettings.macosProxyScript (desktopOf surroundings) arguments =
      (services surroundings).flatMap (serviceWrites ((arguments[0]?).getD "")
        ((arguments[1]?).getD "") ((arguments[2]?).getD "") ((arguments[1]?).getD "")
        (arguments.drop 3)) := by
  simp only [ProxySettings.macosProxyScript, desktopOf, List.getD_eq_getElem?_getD]
  refine List.flatMap_congr fun service _ => ?_
  rw [serviceWrites]

/-- The same of the script for macOS, whose status is that of a run in which no call fails. To set
the proxy it is given the host, the port and the exceptions. -/
theorem macosProxyScript_writes (arguments : List String)
    (harguments : (arguments[0]?).getD "" = "set" → 3 ≤ arguments.length) :
    (run answers (ProxyScripts.macosProxyScript surroundings) arguments).calls.flatMap written =
        ProxySettings.macosProxyScript (desktopOf surroundings) arguments ∧
      ((∀ index, answers index = 0) →
        (run answers (ProxyScripts.macosProxyScript surroundings) arguments).status =
          macosScriptStatus (desktopOf surroundings) arguments) := by
  obtain ⟨before, hscope, hbefore, hcalls, hstatus⟩ := macosStart surroundings answers arguments
  have hmode := hscope.mode
  rw [hcalls, hstatus, macosProxyScript_eq, macosScriptStatus, List.getD_eq_getElem?_getD]
  have hrest := hscope.rest
  rw [desktopOf, ← hscope.port]
  generalize (arguments[0]?).getD "" = mode at hmode hrest harguments ⊢
  rw [services_eq]
  by_cases hinvalid : serviceCalls mode = []
  · have hnone := (serviceCalls_eq_nil_iff mode).mp hinvalid
    have hloop : (serviceLoop surroundings answers before).calls = [] := by
      rw [serviceLoop, loop_invalid answers hinvalid _ before hmode]
      exact hbefore
    refine ⟨?_, fun _ => ?_⟩
    · exact (congrArg (List.flatMap written) hloop).trans (serviceWrites_none hnone _).symm
    · by_cases hlines : (serviceLines surroundings).filter (· ≠ "") = []
      · rw [if_pos (Or.inl hlines), serviceLoop]
        exact loop_blank answers before (serviceLines_ne_nil surroundings) hlines
      · rw [if_neg (by simp only [not_or]; exact ⟨hlines, hnone⟩)]
        rw [serviceLoop]
        exact loop_exits answers hinvalid before hmode hlines
  · have hmodes : mode ∈ ["set", "pac", "clear"] := by
      by_contra hnone
      exact hinvalid ((serviceCalls_eq_nil_iff mode).mpr hnone)
    have hrest : mode = "set" → before.scope.arguments = arguments.drop 3 :=
      fun hset => hrest hset (harguments hset)
    have hsame : ∀ items : List String, items.flatMap (serviceWrites mode (before.scope.vars "host")
          (before.scope.vars "port") (before.scope.vars "pac_url") before.scope.arguments) =
        items.flatMap (serviceWrites mode ((arguments[1]?).getD "") (before.scope.vars "port")
          ((arguments[1]?).getD "") (arguments.drop 3)) := by
      intro items
      refine List.flatMap_congr fun service _ => ?_
      rw [hscope.host, hscope.pacUrl, serviceWrites, serviceWrites]
      split
      · rename_i hset
        rw [hrest hset]
      · rfl
    rw [if_pos (Or.inr hmodes), ← hsame]
    rcases serviceLines_cases surroundings with hblank | ⟨lines, last, hlast, hlines⟩
    · refine ⟨?_, fun _ => ?_⟩
      · rw [serviceLoop_blank surroundings answers hblank before, hbefore, hblank]
        rfl
      · rw [serviceLoop]
        refine loop_blank answers before (serviceLines_ne_nil surroundings) ?_
        rw [hblank]
        rfl
    · have hmakes := serviceLoop_makes surroundings answers hinvalid hmode hlast hlines
      refine ⟨?_, fun hzero => ?_⟩
      · rw [hmakes.calls, hbefore, List.nil_append]
        exact written_services mode before.scope (serviceLines surroundings)
      · have hsome : ((serviceLines surroundings).flatMap fun item =>
            callsFor mode (before.scope.set "service" item)) ≠ [] := by
          rw [hlines, List.flatMap_append, List.flatMap_singleton]
          refine List.append_ne_nil_of_right_ne_nil _ ?_
          rw [callsFor, vars_set, if_neg hlast, ne_eq, List.map_eq_nil_iff]
          exact hinvalid
        rw [hmakes.status hsome]
        exact hzero _

end Macos

end ScriptSettings
