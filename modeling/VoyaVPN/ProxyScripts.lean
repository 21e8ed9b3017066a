import VoyaVPN.ProxyExceptions
import VoyaVPN.ShellProgram
import VoyaVPN.SystemProxyManager

/-! The scripts that change the system proxy of Linux and macOS: which failures of their calls they
report with their own status. -/
namespace ProxyScripts

open RustText PlatformProcess SystemProxy SystemProxyManager ShellProgram

section Scripts

/-- Where a script runs: the tools that are installed, the status of a command that is not found,
the network services that are listed, and the names that a pattern matches. -/
structure Surroundings where
  installed : String → Bool
  notFound : Nat
  notFound_ne : notFound ≠ 0
  listing : String
  pathnames : List Char → List (List Char)

variable (surroundings : Surroundings)

def assign (name : String) (value : Scope → String) : Command :=
  .builtin (fun _ => 0) fun scope => scope.set name (value scope)

def parameter (index : Nat) (scope : Scope) : String := (scope.arguments[index]?).getD ""

def test (condition : Scope → Bool) : Command :=
  .builtin (fun scope => if condition scope then 0 else 1) id

def nothing : Command := .builtin (fun _ => 0) id

def ifThen (condition whole : Command) : Command := .ifElse condition whole nothing

/-- `command -v`. -/
def lookup (tool : String) : Command :=
  .builtin (fun _ => if surroundings.installed tool then 0 else surroundings.notFound) id

/-- `return` without a status keeps that of the last command. -/
def returnLast : Command := .leave .returned id

def shift (count : Nat) : Command :=
  .builtin (fun scope => if count ≤ scope.arguments.length then 0 else 1) fun scope =>
    if count ≤ scope.arguments.length then { scope with arguments := scope.arguments.drop count }
    else scope

def gsettings (schema key : String) (value : Scope → String) (scope : Scope) : Invocation :=
  ["gsettings", "set", schema, key, value scope]

def protoSchema (scope : Scope) : String := "org.gnome.system.proxy." ++ scope.vars "proto"

def ignoredHosts (scope : Scope) : String :=
  String.ofList (ProxySettings.arrayFromCsv surroundings.pathnames
    (scope.vars "ignore_hosts").toList)

def setProto : List (Scope → Invocation) :=
  [fun scope => gsettings (protoSchema scope) "host" (·.vars "host") scope,
    fun scope => gsettings (protoSchema scope) "port" (·.vars "port") scope]

def setGnomeManual : Command :=
  .seq (.each "proto" (fun _ => ["http", "https", "ftp", "socks"]) (block setProto))
    (.call (gsettings "org.gnome.system.proxy" "ignore-hosts" (ignoredHosts surroundings)))

def setGnome : Command :=
  .seq (ifThen (.negate (lookup surroundings "gsettings")) returnLast) <|
  .seq (.call (gsettings "org.gnome.system.proxy" "mode" (·.vars "mode")))
    (ifThen (test fun scope => scope.vars "mode" == "manual") (setGnomeManual surroundings))

def kwriteconfig (key : String) (value : Scope → String) (scope : Scope) : Invocation :=
  [scope.vars "kwriteconfig", "--file", "kioslaverc", "--group", "Proxy Settings", "--key", key,
    value scope]

def proxyAddress (scope : Scope) : String :=
  "http://" ++ scope.vars "host" ++ ":" ++ scope.vars "port"

def reparse : Invocation :=
  ["dbus-send", "--type=signal", "/KIO/Scheduler",
    "org.kde.KIO.Scheduler.reparseSlaveConfiguration", "string:"]

def setKdeManual : List (Scope → Invocation) :=
  [kwriteconfig "ProxyType" fun _ => "1", kwriteconfig "httpProxy" proxyAddress,
    kwriteconfig "httpsProxy" proxyAddress, kwriteconfig "ftpProxy" proxyAddress,
    kwriteconfig "socksProxy" proxyAddress, kwriteconfig "NoProxyFor" (·.vars "ignore_hosts")]

def findKde : Command :=
  .ifElse (lookup surroundings "kwriteconfig6") (assign "kwriteconfig" fun _ => "kwriteconfig6")
    (.ifElse (lookup surroundings "kwriteconfig5")
      (assign "kwriteconfig" fun _ => "kwriteconfig5") returnLast)

def setKdeMode : Command :=
  .ifElse (test fun scope => scope.vars "mode" == "manual") (block setKdeManual)
    (.call (kwriteconfig "ProxyType" fun _ => "0"))

def setKde : Command :=
  .seq (findKde surroundings) (.seq setKdeMode (.orElse (.call fun _ => reparse) nothing))

/-- What follows the assignments at the head of the script for Linux. -/
def linuxBody : Command :=
  .seq
    (ifThen
      (.andThen (test fun scope => scope.vars "mode" != "manual")
        (test fun scope => scope.vars "mode" != "none"))
      (.seq nothing (.leave .exited fun _ => 1))) <|
  .seq (.inFunction (setGnome surroundings)) (.inFunction (setKde surroundings))

/-- `LINUX_PROXY_SCRIPT`. -/
def linuxProxyScript : Command :=
  .seq (assign "mode" (parameter 0)) <|
  .seq (assign "host" (parameter 1)) <|
  .seq (assign "port" (parameter 2)) <|
  .seq (assign "ignore_hosts" (parameter 3)) (linuxBody surroundings)

/-- The lines that do not begin with a star, without the line feeds at the end. -/
def listedServices : String :=
  String.ofList ((['\n'].intercalate
    ((surroundings.listing.toList.splitOnP (· == '\n')).filter (·.head? ≠ some '*'))).rdropWhile
      (· = '\n'))

def networksetup (option : String) (values : Scope → List String) (scope : Scope) : Invocation :=
  "networksetup" :: option :: scope.vars "service" :: values scope

def proxyOptions : List String :=
  ["-setwebproxy", "-setsecurewebproxy", "-setsocksfirewallproxy"]

def setService : List (Scope → Invocation) :=
  proxyOptions.map (networksetup · fun scope => [scope.vars "host", scope.vars "port"]) ++
    [networksetup "-setproxybypassdomains" (·.arguments),
      networksetup "-setautoproxystate" fun _ => ["off"]]

def offOptions : List String :=
  ["-setwebproxystate", "-setsecurewebproxystate", "-setsocksfirewallproxystate"]

def pacService : List (Scope → Invocation) :=
  offOptions.map (networksetup · fun _ => ["off"]) ++
    [networksetup "-setautoproxyurl" fun scope => [scope.vars "pac_url"],
      networksetup "-setautoproxystate" fun _ => ["on"]]

def clearService : List (Scope → Invocation) :=
  offOptions.map (networksetup · fun _ => ["off"]) ++
    [networksetup "-setautoproxystate" fun _ => ["off"]]

def serviceBody : Command :=
  .seq (.andThen (test fun scope => scope.vars "service" == "") (.leave .continued fun _ => 0)) <|
  .ifElse (test fun scope => scope.vars "mode" == "set") (block setService) <|
  .ifElse (test fun scope => scope.vars "mode" == "pac") (block pacService) <|
  .ifElse (test fun scope => scope.vars "mode" == "clear") (block clearService) <|
  .seq nothing (.leave .exited fun _ => 1)

/-- What follows the reading of the arguments in the script for macOS. -/
def macosBody : Command :=
  .seq (assign "services" fun _ => listedServices surroundings) <|
  .inSubshell (.each "service" (fun scope => split (scope.vars "services") (· == '\n')) serviceBody)

/-- `MACOS_PROXY_SCRIPT`. -/
def macosProxyScript : Command :=
  .seq (assign "mode" (parameter 0)) <|
  .seq (assign "host" (parameter 1)) <|
  .seq (assign "port" (parameter 2)) <|
  .seq (assign "pac_url" (parameter 1)) <|
  .seq (ifThen (test fun scope => scope.vars "mode" == "set") (.orElse (shift 3) nothing))
    (macosBody surroundings)

end Scripts

section Reports

/-- Calls that change a setting; the signal to KDE is none of them. -/
def changes (invocation : Invocation) : Prop := invocation.head? ≠ some "dbus-send"

instance (invocation : Invocation) : Decidable (changes invocation) :=
  inferInstanceAs (Decidable (_ ≠ _))

/-- The output of a process that ends with this state. -/
def scriptOutput (final : State) (stdout stderr : String) : ProcessOutput :=
  { statusCode := some final.status, stdout, stderr }

/-- A script that is taken as successful has made no call in vain. -/
def Reports (answers : Nat → Nat) (final : State) : Prop :=
  ∀ stdout stderr,
    ensureSuccess (scriptOutput final stdout stderr) "system proxy script" = .ok () →
      ∀ index invocation, final.calls[index]? = some invocation → changes invocation →
        answers index = 0

variable {answers : Nat → Nat} {final : State} {made extra : List Invocation}

theorem ensureSuccess_iff (final : State) (stdout stderr : String) :
    ensureSuccess (scriptOutput final stdout stderr) "system proxy script" = .ok () ↔
      final.status = 0 := by
  rw [ensureSuccess]
  split
  · rename_i hstatus
    exact iff_of_true rfl (by simpa [scriptOutput] using hstatus)
  · rename_i hstatus
    refine iff_of_false (fun h => by cases h) fun hzero => hstatus ?_
    rw [scriptOutput, hzero]
    rfl

theorem reports_iff (hcalls : final.calls = made ++ extra)
    (hmade : ∀ invocation ∈ made, changes invocation)
    (hextra : ∀ invocation ∈ extra, ¬changes invocation) :
    Reports answers final ↔ final.status ≠ 0 ∨ ∀ index < made.length, answers index = 0 := by
  constructor
  · intro hreports
    by_cases hstatus : final.status = 0
    · refine Or.inr fun index hindex => ?_
      have hcall : final.calls[index]? = some made[index] := by
        rw [hcalls, List.getElem?_append_left hindex, List.getElem?_eq_getElem hindex]
      exact hreports "" "" ((ensureSuccess_iff final "" "").mpr hstatus) index made[index] hcall
        (hmade _ (List.getElem_mem hindex))
    · exact Or.inl hstatus
  · intro hall stdout stderr hsuccess index invocation hcall hchanges
    rcases hall with hstatus | hall
    · exact absurd ((ensureSuccess_iff final stdout stderr).mp hsuccess) hstatus
    · refine hall index ?_
      by_contra hindex
      rw [hcalls, List.getElem?_append_right (Nat.le_of_not_lt hindex)] at hcall
      exact hextra invocation (List.mem_of_getElem? hcall) hchanges

theorem reports_of_status (h : final.status ≠ 0) : Reports answers final :=
  fun stdout stderr hsuccess => absurd ((ensureSuccess_iff final stdout stderr).mp hsuccess) h

theorem reports_of_calls (h : final.calls = []) : Reports answers final := by
  intro stdout stderr _ index invocation hcall
  rw [h] at hcall
  cases hcall

end Reports

section Linux

variable {surroundings : Surroundings} {answers : Nat → Nat} {before after : State} {mode : String}

def protos : List String := ["http", "https", "ftp", "socks"]

def gnomeCalls (surroundings : Surroundings) (mode : String) : Nat :=
  if surroundings.installed "gsettings" then (if mode = "manual" then 10 else 1) else 0

def kdeCalls (mode : String) : Nat := if mode = "manual" then 6 else 1

def kdeTools : List String := ["kwriteconfig6", "kwriteconfig5"]

theorem kdeTool_ne {tool : String} (h : tool ∈ kdeTools) : tool ≠ "dbus-send" := by
  rintro rfl
  exact absurd h (by decide)

def hasKde (surroundings : Surroundings) : Bool :=
  surroundings.installed "kwriteconfig6" || surroundings.installed "kwriteconfig5"

theorem exec_guard {tool : String} (h : surroundings.installed tool = true) :
    exec answers (ifThen (.negate (lookup surroundings tool)) returnLast) before =
      (.next, { before with status := 0 }) := by
  simp [ifThen, nothing, lookup, exec, h]

theorem exec_guard_missing {tool : String} (h : surroundings.installed tool = false) :
    exec answers (ifThen (.negate (lookup surroundings tool)) returnLast) before =
      (.returned, { before with status := 0 }) := by
  simp [ifThen, returnLast, lookup, exec, h, surroundings.notFound_ne]

theorem exec_test {condition : Scope → Bool} : exec answers (test condition) before =
    (.next, { before with status := if condition before.scope then 0 else 1 }) := rfl

theorem exec_ifThen_test {condition : Scope → Bool} {whole : Command}
    (h : condition before.scope = true) :
    exec answers (ifThen (test condition) whole) before =
      exec answers whole { before with status := 0 } := by
  rw [ifThen, exec, exec_test]
  simp [h]

theorem exec_ifThen_test_false {condition : Scope → Bool} {whole : Command}
    (h : condition before.scope = false) :
    exec answers (ifThen (test condition) whole) before =
      (.next, { before with status := 0 }) := by
  rw [ifThen, exec, exec_test]
  simp [h, nothing, exec]

theorem gsettings_changes (schema key : String) (value : Scope → String) (scope : Scope) :
    changes (gsettings schema key value scope) := by
  rw [changes, gsettings, List.head?_cons]
  decide

theorem setProto_round (answers : Nat → Nat) : Round answers (fun _ => True)
    (fun state => exec answers (block setProto) state) fun scope => setProto.map (· scope) := by
  intro before _
  obtain ⟨after, hexec, hscope, hmakes⟩ := exec_block answers before _ _
  exact ⟨.next, after, hexec, Or.inl rfl, hscope, hmakes⟩

theorem setProto_changes {scope : Scope} {invocation : Invocation}
    (h : invocation ∈ setProto.map (· scope)) : changes invocation := by
  obtain ⟨words, hwords, rfl⟩ := List.mem_map.mp h
  rw [setProto, List.mem_cons, List.mem_singleton] at hwords
  rcases hwords with rfl | rfl
  · exact gsettings_changes _ _ _ _
  · exact gsettings_changes _ _ _ _

/-- The calls for a manual proxy, after that for the mode. -/
def gnomeManualInvocations (surroundings : Surroundings) (scope : Scope) : List Invocation :=
  protos.flatMap (fun proto => setProto.map (· (scope.set "proto" proto))) ++
    [gsettings "org.gnome.system.proxy" "ignore-hosts" (ignoredHosts surroundings) scope]

def gnomeInvocations (surroundings : Surroundings) (mode : String) (scope : Scope) :
    List Invocation :=
  if surroundings.installed "gsettings" then
    gsettings "org.gnome.system.proxy" "mode" (·.vars "mode") scope ::
      if mode = "manual" then gnomeManualInvocations surroundings scope else []
  else []

theorem gnomeInvocations_length (surroundings : Surroundings) (mode : String) (scope : Scope) :
    (gnomeInvocations surroundings mode scope).length = gnomeCalls surroundings mode := by
  rw [gnomeInvocations, gnomeCalls]
  split
  · split <;> rfl
  · rfl

theorem gnomeInvocations_changes {surroundings : Surroundings} {mode : String} {scope : Scope} :
    ∀ invocation ∈ gnomeInvocations surroundings mode scope, changes invocation := by
  intro invocation hinvocation
  rw [gnomeInvocations] at hinvocation
  split at hinvocation
  · rcases List.mem_cons.mp hinvocation with rfl | hinvocation
    · exact gsettings_changes _ _ _ _
    · split at hinvocation
      · rcases List.mem_append.mp hinvocation with hproto | hhosts
        · obtain ⟨proto, _, hproto⟩ := List.mem_flatMap.mp hproto
          exact setProto_changes hproto
        · rw [List.mem_singleton.mp hhosts]
          exact gsettings_changes _ _ _ _
      · cases hinvocation
  · cases hinvocation

theorem setGnomeManual_makes (surroundings : Surroundings) (answers : Nat → Nat) (before : State) :
    ∃ after, exec answers (setGnomeManual surroundings) before = (.next, after) ∧
      SameBut "proto" after.scope before.scope ∧
        after.calls = before.calls ++ gnomeManualInvocations surroundings before.scope := by
  obtain ⟨middle, hloop, hsame, hmakes⟩ := loop_makes "proto" (setProto_round answers)
    (fun _ _ _ => trivial) before trivial ["http", "https", "ftp"] "socks" (List.cons_ne_nil _ _)
  let hosts := gsettings "org.gnome.system.proxy" "ignore-hosts" (ignoredHosts surroundings)
  let after : State := { middle with
    status := answers middle.calls.length
    calls := middle.calls ++ [hosts middle.scope] }
  have hhosts : hosts middle.scope = hosts before.scope := by
    simp only [hosts, gsettings, ignoredHosts, hsame.vars (show "ignore_hosts" ≠ "proto" by decide)]
  refine ⟨after, exec_seq hloop, hsame, ?_⟩
  change middle.calls ++ [hosts middle.scope] = _
  rw [hmakes.calls, hhosts, List.append_assoc]
  rfl

theorem setGnome_makes (surroundings : Surroundings) (answers : Nat → Nat) {before : State}
    (hmode : before.scope.vars "mode" = mode) :
    ∃ after, exec answers (.inFunction (setGnome surroundings)) before = (.next, after) ∧
      SameBut "proto" after.scope before.scope ∧
        after.calls = before.calls ++ gnomeInvocations surroundings mode before.scope := by
  rw [gnomeInvocations]
  by_cases hinstalled : surroundings.installed "gsettings" = true
  · rw [if_pos hinstalled]
    let set := gsettings "org.gnome.system.proxy" "mode" (·.vars "mode")
    let middle : State := { before with
      status := answers before.calls.length
      calls := before.calls ++ [set before.scope] }
    have hcall : exec answers (.call set) { before with status := 0 } = (.next, middle) := rfl
    by_cases hmanual : mode = "manual"
    · obtain ⟨after, hexec, hsame, hcalls⟩ :=
        setGnomeManual_makes surroundings answers { middle with status := 0 }
      have htest : (middle.scope.vars "mode" == "manual") = true := by
        rw [beq_iff_eq]
        exact hmode.trans hmanual
      refine ⟨after, ?_, hsame, ?_⟩
      · refine exec_inFunction ?_ (Or.inl rfl)
        rw [setGnome, exec_seq (exec_guard hinstalled), exec_seq hcall, exec_ifThen_test htest]
        exact hexec
      · rw [hcalls, if_pos hmanual]
        exact List.append_assoc _ _ _
    · have htest : (middle.scope.vars "mode" == "manual") = false := by
        rw [beq_eq_false_iff_ne]
        exact fun h => hmanual (hmode.symm.trans h)
      refine ⟨{ middle with status := 0 }, ?_, fun _ => rfl, ?_⟩
      · refine exec_inFunction ?_ (Or.inl rfl)
        rw [setGnome, exec_seq (exec_guard hinstalled), exec_seq hcall,
          exec_ifThen_test_false htest]
      · rw [if_neg hmanual]
  · rw [if_neg hinstalled]
    refine ⟨{ before with status := 0 }, ?_, fun _ => rfl, (List.append_nil _).symm⟩
    refine exec_inFunction ?_ (Or.inr rfl)
    rw [setGnome, exec, exec_guard_missing (Bool.eq_false_iff.mpr hinstalled)]

theorem kwriteconfig_changes {scope : Scope} (htool : scope.vars "kwriteconfig" ≠ "dbus-send")
    (key : String) (value : Scope → String) : changes (kwriteconfig key value scope) := by
  rw [changes, kwriteconfig, List.head?_cons]
  exact fun h => htool (Option.some.inj h)

theorem findKde_finds (answers : Nat → Nat) (h : hasKde surroundings = true) (before : State) :
    ∃ tool ∈ kdeTools, exec answers (findKde surroundings) before =
      (.next, { before with status := 0, scope := before.scope.set "kwriteconfig" tool }) := by
  by_cases hsix : surroundings.installed "kwriteconfig6" = true
  · refine ⟨"kwriteconfig6", List.mem_cons_self, ?_⟩
    simp [findKde, exec, lookup, assign, hsix]
  · have hfive : surroundings.installed "kwriteconfig5" = true := by
      rw [hasKde, Bool.eq_false_iff.mpr hsix] at h
      exact h
    refine ⟨"kwriteconfig5", by decide, ?_⟩
    simp [findKde, exec, lookup, assign, hsix, hfive, surroundings.notFound_ne]

theorem findKde_missing (h : hasKde surroundings = false) (before : State) :
    exec answers (findKde surroundings) before =
      (.returned, { before with status := surroundings.notFound }) := by
  rw [hasKde, Bool.or_eq_false_iff] at h
  simp [findKde, exec, lookup, returnLast, h.1, h.2, surroundings.notFound_ne]

theorem setKde_missing (h : hasKde surroundings = false) (before : State) :
    exec answers (.inFunction (setKde surroundings)) before =
      (.next, { before with status := surroundings.notFound }) := by
  refine exec_inFunction ?_ (Or.inr rfl)
  rw [setKde, exec, findKde_missing h]

def kdeInvocations (mode : String) (scope : Scope) : List Invocation :=
  if mode = "manual" then setKdeManual.map (· scope)
  else [kwriteconfig "ProxyType" (fun _ => "0") scope]

theorem kdeInvocations_length (mode : String) (scope : Scope) :
    (kdeInvocations mode scope).length = kdeCalls mode := by
  rw [kdeInvocations, kdeCalls]
  split <;> rfl

theorem kdeInvocations_changes {mode : String} {scope : Scope}
    (htool : scope.vars "kwriteconfig" ≠ "dbus-send") :
    ∀ invocation ∈ kdeInvocations mode scope, changes invocation := by
  intro invocation hinvocation
  rw [kdeInvocations] at hinvocation
  split at hinvocation
  · obtain ⟨words, hwords, rfl⟩ := List.mem_map.mp hinvocation
    simp only [setKdeManual, List.mem_cons, List.not_mem_nil, or_false] at hwords
    rcases hwords with rfl | rfl | rfl | rfl | rfl | rfl <;> exact kwriteconfig_changes htool _ _
  · rw [List.mem_singleton.mp hinvocation]
    exact kwriteconfig_changes htool _ _

theorem setKdeMode_makes (answers : Nat → Nat) (before : State)
    (hmode : before.scope.vars "mode" = mode) :
    ∃ after, exec answers setKdeMode before = (.next, after) ∧
      after.calls = before.calls ++ kdeInvocations mode before.scope := by
  rw [kdeInvocations]
  by_cases hmanual : mode = "manual"
  · have htest : (before.scope.vars "mode" == "manual") = true := by
      rw [beq_iff_eq]
      exact hmode.trans hmanual
    obtain ⟨after, hexec, hscope, hmakes⟩ :=
      exec_block answers { before with status := 0 } _ setKdeManual.tail
    refine ⟨after, ?_, ?_⟩
    · rw [setKdeMode, exec_ifElse_true exec_test (if_pos htest), if_pos htest]
      exact hexec
    · rw [if_pos hmanual]
      exact hmakes.calls
  · have htest : (before.scope.vars "mode" == "manual") = false := by
      rw [beq_eq_false_iff_ne]
      exact fun h => hmanual (hmode.symm.trans h)
    refine ⟨{ before with
      status := answers before.calls.length
      calls := before.calls ++ [kwriteconfig "ProxyType" (fun _ => "0") before.scope] }, ?_, ?_⟩
    · rw [setKdeMode, exec_ifElse_false exec_test (by simp [htest])]
      rfl
    · rw [if_neg hmanual]

theorem setKde_makes (answers : Nat → Nat) (h : hasKde surroundings = true)
    (hmode : before.scope.vars "mode" = mode) :
    ∃ tool ∈ kdeTools, ∃ after,
      exec answers (.inFunction (setKde surroundings)) before = (.next, after) ∧
      after.status = 0 ∧ after.calls =
        before.calls ++ (kdeInvocations mode (before.scope.set "kwriteconfig" tool) ++
          [reparse]) := by
  obtain ⟨tool, htool, hfind⟩ := findKde_finds answers h before
  have hvar : (before.scope.set "kwriteconfig" tool).vars "mode" = mode := by
    rw [← hmode]
    simp [Scope.set]
  obtain ⟨middle, hexec, hcalls⟩ := setKdeMode_makes answers
    { before with status := 0, scope := before.scope.set "kwriteconfig" tool } hvar
  have hquiet : exec answers (.orElse (.call fun _ => reparse) nothing) middle =
      (.next, { middle with status := 0, calls := middle.calls ++ [reparse] }) := by
    by_cases hstatus : answers middle.calls.length = 0
    · simp [exec, hstatus]
    · simp [exec, nothing, hstatus]
  refine ⟨tool, htool, { middle with status := 0, calls := middle.calls ++ [reparse] },
    exec_inFunction ?_ (Or.inl rfl), rfl, ?_⟩
  · rw [setKde, exec_seq hfind, exec_seq hexec, hquiet]
  · change middle.calls ++ [reparse] = _
    rw [hcalls, List.append_assoc]

section Run

variable (surroundings) (answers) (arguments : List String)

def LinuxReports (mode : String) : Prop :=
  (mode ≠ "manual" ∧ mode ≠ "none") ∨ hasKde surroundings = false ∨
    ∀ index < gnomeCalls surroundings mode + kdeCalls mode, answers index = 0

/-- The variables after the assignments at the head of the script. -/
structure LinuxScope (arguments : List String) (scope : Scope) : Prop where
  mode : scope.vars "mode" = (arguments[0]?).getD ""
  host : scope.vars "host" = (arguments[1]?).getD ""
  port : scope.vars "port" = (arguments[2]?).getD ""
  ignoreHosts : scope.vars "ignore_hosts" = (arguments[3]?).getD ""

theorem linuxStart : ∃ scope : Scope, LinuxScope arguments scope ∧
    run answers (linuxProxyScript surroundings) arguments =
      (exec answers (linuxBody surroundings) { scope, status := 0, calls := [] }).2 := by
  refine ⟨_, ⟨?_, ?_, ?_, ?_⟩, rfl⟩ <;> simp [Scope.set, parameter]

theorem linuxBody_invalid {before : State} (hmanual : before.scope.vars "mode" ≠ "manual")
    (hnone : before.scope.vars "mode" ≠ "none") :
    exec answers (linuxBody surroundings) before = (.exited, { before with status := 1 }) := by
  simp [linuxBody, ifThen, exec, test, nothing, hmanual, hnone]

theorem linuxBody_valid {before : State}
    (h : before.scope.vars "mode" = "manual" ∨ before.scope.vars "mode" = "none") :
    exec answers (linuxBody surroundings) before =
      exec answers (.seq (.inFunction (setGnome surroundings)) (.inFunction (setKde surroundings)))
        { before with status := 0 } := by
  refine exec_seq ?_
  rcases h with h | h <;> simp [ifThen, exec, test, nothing, h]

theorem linuxBody_makes {before : State} (hmode : before.scope.vars "mode" = mode)
    (hcalls : before.calls = []) (hvalid : mode = "manual" ∨ mode = "none") :
    ∃ tool ∈ kdeTools, ∃ final extra,
      (exec answers (linuxBody surroundings) before).2 = final ∧
      final.status = (if hasKde surroundings then 0 else surroundings.notFound) ∧
      final.calls = (gnomeInvocations surroundings mode before.scope ++
        if hasKde surroundings then kdeInvocations mode (before.scope.set "kwriteconfig" tool)
        else []) ++ extra ∧ (extra = [] ∨ extra = [reparse]) := by
  rw [linuxBody_valid surroundings answers (hmode ▸ hvalid)]
  obtain ⟨middle, hgnome, hsame, hmiddle⟩ := setGnome_makes surroundings answers
    (show ({ before with status := 0 } : State).scope.vars "mode" = mode from hmode)
  have hvar : middle.scope.vars "mode" = mode := (hsame.vars (by decide)).trans hmode
  rw [exec_seq hgnome]
  rw [show ({ before with status := 0 } : State).calls = [] from hcalls, List.nil_append] at hmiddle
  cases hkde : hasKde surroundings with
  | false =>
    rw [setKde_missing hkde]
    exact ⟨"kwriteconfig6", List.mem_cons_self, _, [], rfl, rfl, by simp [hmiddle], Or.inl rfl⟩
  | true =>
    obtain ⟨tool, htool, after, hexec, hstatus, hafter⟩ := setKde_makes answers hkde hvar
    refine ⟨tool, htool, after, [reparse], ?_, hstatus, ?_, Or.inr rfl⟩
    · rw [hexec]
    · have hscope : kdeInvocations mode (middle.scope.set "kwriteconfig" tool) =
          kdeInvocations mode (before.scope.set "kwriteconfig" tool) := by
        have hhost : middle.scope.vars "host" = before.scope.vars "host" := hsame.vars (by decide)
        have hport : middle.scope.vars "port" = before.scope.vars "port" := hsame.vars (by decide)
        have hhosts : middle.scope.vars "ignore_hosts" = before.scope.vars "ignore_hosts" :=
          hsame.vars (by decide)
        simp [kdeInvocations, setKdeManual, kwriteconfig, proxyAddress, Scope.set, hhost, hport,
          hhosts]
      rw [hafter, hmiddle, hscope, if_pos rfl, List.append_assoc]

theorem linux_reports_iff :
    Reports answers (run answers (linuxProxyScript surroundings) arguments) ↔
      LinuxReports surroundings answers ((arguments[0]?).getD "") := by
  obtain ⟨scope, hscope, hstart⟩ := linuxStart surroundings answers arguments
  have hmode := hscope.mode
  rw [hstart]
  generalize (arguments[0]?).getD "" = mode at hmode ⊢
  let before : State := { scope, status := 0, calls := [] }
  change Reports answers (exec answers (linuxBody surroundings) before).2 ↔ _
  by_cases hvalid : mode = "manual" ∨ mode = "none"
  · have hsome : ¬(mode ≠ "manual" ∧ mode ≠ "none") := by
      rintro ⟨hmanual, hnone⟩
      exact hvalid.elim hmanual hnone
    obtain ⟨tool, htool, final, extra, hfinal, hstatus, hcalls, hextra⟩ :=
      linuxBody_makes surroundings answers (show before.scope.vars "mode" = mode from hmode) rfl
        hvalid
    rw [hfinal, LinuxReports, or_iff_right hsome]
    cases hkde : hasKde surroundings with
    | false =>
      rw [hkde] at hstatus
      exact iff_of_true (reports_of_status (hstatus ▸ surroundings.notFound_ne)) (Or.inl rfl)
    | true =>
      rw [hkde, if_pos rfl] at hstatus hcalls
      have htoolVar : (before.scope.set "kwriteconfig" tool).vars "kwriteconfig" ≠ "dbus-send" := by
        simpa [Scope.set] using kdeTool_ne htool
      have hsignal : ∀ invocation ∈ extra, ¬changes invocation := by
        intro invocation hinvocation
        rcases hextra with rfl | rfl
        · cases hinvocation
        · rw [List.mem_singleton.mp hinvocation]
          exact fun h => h rfl
      rw [reports_iff hcalls (fun invocation h => (List.mem_append.mp h).elim
          (gnomeInvocations_changes _) (kdeInvocations_changes htoolVar _)) hsignal,
        List.length_append, gnomeInvocations_length, kdeInvocations_length,
        or_iff_right (not_not_intro hstatus), or_iff_right Bool.noConfusion]
  · rw [not_or] at hvalid
    rw [linuxBody_invalid surroundings answers (hmode ▸ hvalid.1) (hmode ▸ hvalid.2)]
    exact iff_of_true (reports_of_status Nat.one_ne_zero) (Or.inl hvalid)

end Run

end Linux

section Macos

variable {surroundings : Surroundings} {answers : Nat → Nat} {before : State} {mode : String}

/-- The modes of the script for macOS, with the calls for one service. -/
def serviceCalls (mode : String) : List (Scope → Invocation) :=
  if mode = "set" then setService
  else if mode = "pac" then pacService
  else if mode = "clear" then clearService
  else []

def callsFor (mode : String) (scope : Scope) : List Invocation :=
  if scope.vars "service" = "" then [] else (serviceCalls mode).map (· scope)

def services (surroundings : Surroundings) : List String :=
  (split (listedServices surroundings) (· == '\n')).filter (· ≠ "")

theorem networksetup_changes (option : String) (values : Scope → List String) (scope : Scope) :
    changes (networksetup option values scope) := by
  rw [changes, networksetup, List.head?_cons]
  decide

theorem vars_set (scope : Scope) (name value : String) : (scope.set name value).vars name = value :=
  if_pos rfl

theorem vars_set_other {name other : String} (h : other ≠ name) (scope : Scope) (value : String) :
    (scope.set name value).vars other = scope.vars other := if_neg h

theorem callsFor_changes {scope : Scope} {invocation : Invocation}
    (h : invocation ∈ callsFor mode scope) : changes invocation := by
  rw [callsFor] at h
  split at h
  · exact absurd h List.not_mem_nil
  · obtain ⟨words, hwords, rfl⟩ := List.mem_map.mp h
    have hnetwork : ∃ option values, words = networksetup option values := by
      rw [serviceCalls] at hwords
      split_ifs at hwords
      · simp only [setService, proxyOptions, List.map_cons, List.map_nil, List.cons_append,
          List.nil_append, List.mem_cons, List.not_mem_nil, or_false] at hwords
        rcases hwords with rfl | rfl | rfl | rfl | rfl <;> exact ⟨_, _, rfl⟩
      · simp only [pacService, offOptions, List.map_cons, List.map_nil, List.cons_append,
          List.nil_append, List.mem_cons, List.not_mem_nil, or_false] at hwords
        rcases hwords with rfl | rfl | rfl | rfl | rfl <;> exact ⟨_, _, rfl⟩
      · simp only [clearService, offOptions, List.map_cons, List.map_nil, List.cons_append,
          List.nil_append, List.mem_cons, List.not_mem_nil, or_false] at hwords
        rcases hwords with rfl | rfl | rfl | rfl <;> exact ⟨_, _, rfl⟩
      · exact absurd hwords List.not_mem_nil
    obtain ⟨option, values, rfl⟩ := hnetwork
    exact networksetup_changes _ _ _

theorem serviceBody_blank (answers : Nat → Nat) {before : State}
    (h : before.scope.vars "service" = "") :
    exec answers serviceBody before = (.continued, { before with status := 0 }) := by
  simp [serviceBody, exec, test, h]

theorem exec_ifElse_test {condition : Scope → Bool} {whole otherwise : Command} :
    exec answers (.ifElse (test condition) whole otherwise) before =
      if condition before.scope then exec answers whole { before with status := 0 }
      else exec answers otherwise { before with status := 1 } := by
  rw [exec, exec_test]
  cases condition before.scope with
  | true => rfl
  | false => rfl

theorem exec_named (h : before.scope.vars "service" ≠ "") : exec answers
    (.andThen (test fun scope => scope.vars "service" == "")
      (.leave .continued fun _ => 0)) before =
      (.next, { before with status := 1 }) := by
  simp [exec, test, h]

theorem serviceBody_named (h : before.scope.vars "service" ≠ "")
    (hmode : before.scope.vars "mode" = mode) (hvalid : serviceCalls mode ≠ []) :
    exec answers serviceBody before =
      exec answers (block (serviceCalls mode)) { before with status := 0 } := by
  rw [serviceBody, exec_seq (exec_named h), exec_ifElse_test, exec_ifElse_test, exec_ifElse_test]
  rw [serviceCalls] at hvalid ⊢
  simp only [hmode, beq_iff_eq]
  split_ifs at hvalid ⊢
  · rfl
  · rfl
  · rfl
  · exact absurd rfl hvalid

theorem serviceBody_invalid (answers : Nat → Nat) (hmode : before.scope.vars "mode" = mode)
    (hinvalid : serviceCalls mode = []) :
    (exec answers serviceBody before).2.calls = before.calls ∧
      (exec answers serviceBody before).2.scope = before.scope := by
  by_cases h : before.scope.vars "service" = ""
  · rw [serviceBody_blank answers h]
    exact ⟨rfl, rfl⟩
  · rw [serviceBody, exec_seq (exec_named h), exec_ifElse_test, exec_ifElse_test, exec_ifElse_test]
    rw [serviceCalls] at hinvalid
    simp only [hmode, beq_iff_eq]
    split_ifs at hinvalid ⊢
    · cases hinvalid
    · cases hinvalid
    · cases hinvalid
    · exact ⟨rfl, rfl⟩

theorem loop_invalid (answers : Nat → Nat) (hinvalid : serviceCalls mode = [])
    (items : List String) (before : State)
    (hmode : before.scope.vars "mode" = mode) :
    (loop (fun state => exec answers serviceBody state) "service" items before).2.calls =
      before.calls := by
  have hset : ∀ (state : State) (value : String),
      state.scope.vars "mode" = mode ∧ state.calls = before.calls →
        (state.scope.set "service" value).vars "mode" = mode ∧ state.calls = before.calls := by
    rintro state value ⟨hstate, hcalls⟩
    exact ⟨(vars_set_other (by decide) _ _).trans hstate, hcalls⟩
  have hbody : ∀ state : State, state.scope.vars "mode" = mode ∧ state.calls = before.calls →
      (exec answers serviceBody state).2.scope.vars "mode" = mode ∧
        (exec answers serviceBody state).2.calls = before.calls := by
    rintro state ⟨hstate, hcalls⟩
    obtain ⟨hsame, hscope⟩ := serviceBody_invalid answers hstate hinvalid
    exact ⟨hscope ▸ hstate, hsame.trans hcalls⟩
  exact (loop_keeps (fun state => state.scope.vars "mode" = mode ∧ state.calls = before.calls) hset
    hbody items before ⟨hmode, rfl⟩).2

theorem serviceBody_round (answers : Nat → Nat) (hvalid : serviceCalls mode ≠ []) :
    Round answers (fun scope => scope.vars "mode" = mode)
      (fun state => exec answers serviceBody state) (callsFor mode) := by
  intro before hmode
  by_cases h : before.scope.vars "service" = ""
  · refine ⟨.continued, _, serviceBody_blank answers h, Or.inr rfl, rfl, ?_⟩
    rw [callsFor, if_pos h]
    exact ⟨(List.append_nil _).symm, fun hne => absurd rfl hne⟩
  · obtain ⟨words, more, hwords⟩ := List.exists_cons_of_ne_nil hvalid
    obtain ⟨after, hexec, hscope, hmakes⟩ :=
      exec_block answers { before with status := 0 } words more
    refine ⟨.next, after, ?_, Or.inl rfl, hscope, ?_⟩
    · change exec answers serviceBody before = _
      rw [serviceBody_named h hmode hvalid, hwords, hexec]
    · rw [callsFor, if_neg h, hwords]
      exact ⟨hmakes.calls, hmakes.status⟩

theorem exec_shift (answers : Nat → Nat) (before : State) : ∃ after,
    exec answers (ifThen (test fun scope => scope.vars "mode" == "set") (.orElse (shift 3) nothing))
      before = (.next, after) ∧ after.scope.vars = before.scope.vars ∧
        after.calls = before.calls ∧ (before.scope.vars "mode" = "set" →
          3 ≤ before.scope.arguments.length →
            after.scope.arguments = before.scope.arguments.drop 3) := by
  by_cases hmode : before.scope.vars "mode" = "set"
  · by_cases hcount : 3 ≤ before.scope.arguments.length
    · refine ⟨⟨⟨before.scope.vars, before.scope.arguments.drop 3⟩, 0, before.calls⟩, ?_, rfl, rfl,
        fun _ _ => rfl⟩
      simp [ifThen, exec, test, shift, hmode, hcount]
    · refine ⟨⟨before.scope, 0, before.calls⟩, ?_, rfl, rfl, fun _ h => absurd h hcount⟩
      simp [ifThen, exec, test, shift, nothing, hmode, hcount]
  · exact ⟨_, exec_ifThen_test_false (beq_eq_false_iff_ne.mpr hmode), rfl, rfl,
      fun h => absurd h hmode⟩

theorem intercalate_concat {lines : List (List Char)} (h : lines ≠ []) :
    ['\n'].intercalate (lines ++ [[]]) = ['\n'].intercalate lines ++ ['\n'] := by
  induction lines with
  | nil => exact absurd rfl h
  | cons first lines ih =>
    cases lines with
    | nil => simp [List.intercalate_cons_cons, List.intercalate_singleton]
    | cons next lines =>
      rw [List.cons_append, List.cons_append, List.intercalate_cons_cons, ← List.cons_append,
        ih (List.cons_ne_nil _ _), List.intercalate_cons_cons, List.append_assoc, List.append_assoc,
        List.append_assoc]

/-- A text that has no line feed at its end has a last line, or none at all. -/
theorem lines_of_listed {text : List Char} (h : ∀ hne : text ≠ [], text.getLast hne ≠ '\n') :
    text = [] ∨ ∃ lines last, last ≠ [] ∧ text.splitOnP (· == '\n') = lines ++ [last] := by
  have hpieces := List.dropLast_append_getLast (List.splitOnP_ne_nil (· == '\n') text)
  have htext := ProxyExceptions.intercalate_split '\n' text
  by_cases hlast : (text.splitOnP (· == '\n')).getLast (List.splitOnP_ne_nil _ _) = []
  · left
    rw [hlast] at hpieces
    rw [← hpieces] at htext
    by_cases hlines : (text.splitOnP (· == '\n')).dropLast = []
    · rw [hlines] at htext
      exact htext.symm
    · rw [intercalate_concat hlines] at htext
      by_contra hne
      have hlast : text.getLast? = some '\n' := by
        rw [← htext, List.getLast?_concat]
      rw [List.getLast?_eq_some_getLast hne] at hlast
      exact h hne (Option.some.inj hlast)
  · exact Or.inr ⟨_, _, hlast, hpieces.symm⟩

section Run

variable (surroundings) (answers) (arguments : List String)

def MacosReports (mode : String) : Prop :=
  serviceCalls mode = [] ∨ services surroundings = [] ∨
    answers ((serviceCalls mode).length * (services surroundings).length - 1) ≠ 0 ∨
      ∀ index < (serviceCalls mode).length * (services surroundings).length, answers index = 0

def serviceLines : List String := split (listedServices surroundings) (· == '\n')

theorem serviceLines_cases : serviceLines surroundings = [""] ∨
    ∃ lines last, last ≠ "" ∧ serviceLines surroundings = lines ++ [last] := by
  have htext : ∀ hne : (listedServices surroundings).toList ≠ [],
      (listedServices surroundings).toList.getLast hne ≠ '\n' := by
    rw [listedServices, String.toList_ofList]
    intro hne hlast
    exact List.rdropWhile_last_not _ _ hne (decide_eq_true hlast)
  rcases lines_of_listed htext with hempty | ⟨lines, last, hlast, hlines⟩
  · left
    rw [serviceLines, split, hempty]
    rfl
  · refine Or.inr ⟨lines.map String.ofList, String.ofList last, ?_, ?_⟩
    · intro h
      have hlist := congrArg String.toList h
      rw [String.toList_ofList] at hlist
      exact hlast hlist
    · rw [serviceLines, split, hlines, List.map_append]
      rfl

def serviceLoop (before : State) : State :=
  (loop (fun state => exec answers serviceBody state) "service" (serviceLines surroundings)
    before).2

theorem macosBody_eq (before : State) : ∃ after : State, after.scope =
    before.scope.set "services" (listedServices surroundings) ∧ after.calls = before.calls ∧
      exec answers (macosBody surroundings) before =
        (.next, (serviceLoop surroundings answers after).within after.scope) := by
  obtain ⟨after, hafter⟩ : ∃ after : State, after = { before with
    status := 0
    scope := before.scope.set "services" (listedServices surroundings) } := ⟨_, rfl⟩
  have hassign : exec answers (assign "services" fun _ => listedServices surroundings) before =
      (.next, after) := by
    rw [hafter]
    rfl
  have hlist : after.scope.vars "services" = listedServices surroundings := by
    rw [hafter]
    exact vars_set _ _ _
  have hne : serviceLines surroundings ≠ [] := by
    rw [serviceLines, split, ne_eq, List.map_eq_nil_iff]
    exact List.splitOnP_ne_nil _ _
  have heach : exec answers (.each "service"
      (fun scope => split (scope.vars "services") (· == '\n')) serviceBody) after =
        loop (fun state => exec answers serviceBody state) "service"
        (serviceLines surroundings) after := by
    rw [exec, hlist, ← serviceLines, if_neg hne]
  refine ⟨after, ?_, ?_, ?_⟩
  · rw [hafter]
  · rw [hafter]
  · rw [macosBody, exec_seq hassign, exec, heach, serviceLoop]

/-- The variables when the services are gone through, and what is left of the arguments. -/
structure MacosScope (arguments : List String) (scope : Scope) : Prop where
  mode : scope.vars "mode" = (arguments[0]?).getD ""
  host : scope.vars "host" = (arguments[1]?).getD ""
  port : scope.vars "port" = (arguments[2]?).getD ""
  pacUrl : scope.vars "pac_url" = (arguments[1]?).getD ""
  rest : (arguments[0]?).getD "" = "set" → 3 ≤ arguments.length →
    scope.arguments = arguments.drop 3

theorem macosStart : ∃ before : State, MacosScope arguments before.scope ∧ before.calls = [] ∧
    (run answers (macosProxyScript surroundings) arguments).calls =
      (serviceLoop surroundings answers before).calls ∧
    (run answers (macosProxyScript surroundings) arguments).status =
      (serviceLoop surroundings answers before).status := by
  let start : State :=
    { scope := ((((⟨fun _ => "", arguments⟩ : Scope).set "mode" ((arguments[0]?).getD "")).set
        "host" ((arguments[1]?).getD "")).set "port" ((arguments[2]?).getD "")).set "pac_url"
          ((arguments[1]?).getD "")
      status := 0
      calls := [] }
  obtain ⟨middle, hshift, hvars, hcalls, hrest⟩ := exec_shift answers start
  obtain ⟨after, hafter, hkept, hbody⟩ := macosBody_eq surroundings answers middle
  have hrun : run answers (macosProxyScript surroundings) arguments =
      (serviceLoop surroundings answers after).within after.scope := by
    change (exec answers (.seq _ (macosBody surroundings)) start).2 = _
    rw [exec_seq hshift, hbody]
  have hread : ∀ name, name ≠ "services" → after.scope.vars name = start.scope.vars name := by
    intro name hname
    rw [hafter, vars_set_other hname, hvars]
  refine ⟨after, ⟨?_, ?_, ?_, ?_, ?_⟩, ?_, ?_, ?_⟩
  · rw [hread _ (by decide)]
    simp [start, Scope.set]
  · rw [hread _ (by decide)]
    simp [start, Scope.set]
  · rw [hread _ (by decide)]
    simp [start, Scope.set]
  · rw [hread _ (by decide)]
    simp [start, Scope.set]
  · intro hset hcount
    rw [hafter]
    refine hrest ?_ hcount
    rw [← hset]
    simp [start, Scope.set]
  · rw [hkept, hcalls]
  · rw [hrun, State.within_calls]
  · rw [hrun, State.within_status]

theorem length_calls (mode : String) (scope : Scope) (items : List String) :
    (items.flatMap fun item => callsFor mode (scope.set "service" item)).length =
      (serviceCalls mode).length * (items.filter (· ≠ "")).length := by
  induction items with
  | nil => rfl
  | cons item items ih =>
    have hitem : (callsFor mode (scope.set "service" item)).length =
        if item = "" then 0 else (serviceCalls mode).length := by
      have hvar : (scope.set "service" item).vars "service" = item := by simp [Scope.set]
      rw [callsFor, hvar]
      split
      · rfl
      · rw [List.length_map]
    rw [List.flatMap_cons, List.length_append, ih, hitem, List.filter_cons]
    by_cases hblank : item = ""
    · simp [hblank]
    · simp only [hblank, if_false, ne_eq, not_false_eq_true, decide_true, if_true, List.length_cons,
        Nat.mul_succ]
      exact Nat.add_comm _ _

theorem services_eq :
    services surroundings = (serviceLines surroundings).filter (· ≠ "") := by
  rw [services, serviceLines]

theorem serviceLoop_makes (hvalid : serviceCalls mode ≠ []) {before : State}
    (hmode : before.scope.vars "mode" = mode) {lines : List String} {last : String}
    (hlast : last ≠ "") (hlines : serviceLines surroundings = lines ++ [last]) :
    Makes answers ((serviceLines surroundings).flatMap fun item =>
      callsFor mode (before.scope.set "service" item)) before
        (serviceLoop surroundings answers before) := by
  have hlastCalls : callsFor mode (before.scope.set "service" last) ≠ [] := by
    rw [callsFor, vars_set, if_neg hlast, ne_eq, List.map_eq_nil_iff]
    exact hvalid
  obtain ⟨after, hloop, _, hmakes⟩ := loop_makes "service" (serviceBody_round answers hvalid)
    (fun scope value h => (vars_set_other (by decide) scope value).trans h) before hmode lines last
    hlastCalls
  rw [serviceLoop, hlines, hloop]
  exact hmakes

theorem serviceLoop_blank (h : serviceLines surroundings = [""]) (before : State) :
    (serviceLoop surroundings answers before).calls = before.calls := by
  have hname : (before.scope.set "service" "").vars "service" = "" := vars_set _ _ _
  have hbody := @serviceBody_blank answers
    { before with scope := before.scope.set "service" "" } hname
  rw [serviceLoop, h, loop_cons hbody (Or.inr rfl)]
  rfl

variable {surroundings answers} {final before : State}

theorem serviceLoop_reports (hmode : before.scope.vars "mode" = mode) (hbefore : before.calls = [])
    (hcalls : final.calls = (serviceLoop surroundings answers before).calls)
    (hstatus : final.status = (serviceLoop surroundings answers before).status) :
    Reports answers final ↔ MacosReports surroundings answers mode := by
  rw [MacosReports]
  by_cases hvalid : serviceCalls mode = []
  · have hloop := loop_invalid answers hvalid (serviceLines surroundings) before hmode
    rw [← serviceLoop] at hloop
    exact iff_of_true (reports_of_calls (hcalls.trans (hloop.trans hbefore))) (Or.inl hvalid)
  · rw [or_iff_right hvalid]
    rcases serviceLines_cases surroundings with hblank | ⟨lines, last, hlast, hlines⟩
    · have hservices : services surroundings = [] := by
        rw [services_eq, hblank]
        rfl
      have hloop := serviceLoop_blank surroundings answers hblank before
      exact iff_of_true (reports_of_calls (hcalls.trans (hloop.trans hbefore))) (Or.inl hservices)
    · have hmakes := serviceLoop_makes surroundings answers hvalid hmode hlast hlines
      have hlength := length_calls mode before.scope (serviceLines surroundings)
      rw [← services_eq] at hlength
      have hservices : services surroundings ≠ [] := by
        rw [services_eq, hlines]
        exact List.ne_nil_of_mem (List.mem_filter.mpr ⟨List.mem_append_right _
          (List.mem_singleton_self last), decide_eq_true hlast⟩)
      rw [or_iff_right hservices, ← hlength]
      generalize hmade : ((serviceLines surroundings).flatMap fun item =>
        callsFor mode (before.scope.set "service" item)) = made at hmakes hlength ⊢
      have hsome : made ≠ [] := by
        rw [← List.length_pos_iff, hlength]
        exact Nat.mul_pos (List.length_pos_iff.mpr hvalid) (List.length_pos_iff.mpr hservices)
      have hfinal : final.calls = made ++ [] := by
        rw [hcalls, hmakes.calls, hbefore, List.nil_append, List.append_nil]
      have hend : final.status = answers (made.length - 1) := by
        rw [hstatus, hmakes.status hsome, hmakes.calls, hbefore, List.nil_append]
      have hchanges : ∀ invocation ∈ made, changes invocation := by
        intro invocation hinvocation
        rw [← hmade] at hinvocation
        obtain ⟨item, _, hitem⟩ := List.mem_flatMap.mp hinvocation
        exact callsFor_changes hitem
      rw [reports_iff hfinal hchanges fun _ h => absurd h List.not_mem_nil, hend]

variable (surroundings answers)

theorem macos_reports_iff :
    Reports answers (run answers (macosProxyScript surroundings) arguments) ↔
      MacosReports surroundings answers ((arguments[0]?).getD "") := by
  obtain ⟨before, hscope, hbefore, hcalls, hstatus⟩ := macosStart surroundings answers arguments
  exact serviceLoop_reports hscope.mode hbefore hcalls hstatus

end Run

end Macos

section Failures

variable (surroundings : Surroundings) (answers : Nat → Nat) (arguments : List String)

/-- The scripts report the failures of their calls in these cases only. -/
theorem scripts_report_iff :
    (Reports answers (run answers (linuxProxyScript surroundings) arguments) ↔
      LinuxReports surroundings answers ((arguments[0]?).getD "")) ∧
    (Reports answers (run answers (macosProxyScript surroundings) arguments) ↔
      MacosReports surroundings answers ((arguments[0]?).getD "")) :=
  ⟨linux_reports_iff surroundings answers arguments,
    macos_reports_iff surroundings answers arguments⟩

def twoServices : Surroundings where
  installed := fun _ => true
  notFound := 127
  notFound_ne := by decide
  listing := "Wi-Fi\nEthernet"
  pathnames := fun _ => []

def firstFails (index : Nat) : Nat := if index = 0 then 1 else 0

theorem twoServices_services : services twoServices = ["Wi-Fi", "Ethernet"] := by decide

/-- The first call of a clear fails, on both systems, and the script ends with status zero. -/
theorem hidden_failure :
    ¬Reports firstFails (run firstFails (linuxProxyScript twoServices) ["none"]) ∧
      ¬Reports firstFails (run firstFails (macosProxyScript twoServices) ["clear"]) := by
  constructor
  · rw [linux_reports_iff]
    rintro (⟨_, hnone⟩ | hkde | hall)
    · exact hnone rfl
    · cases hkde
    · exact absurd (hall 0 (by decide)) (by decide)
  · rw [macos_reports_iff]
    rintro (hmode | hservices | hlast | hall)
    · cases hmode
    · rw [twoServices_services] at hservices
      cases hservices
    · rw [twoServices_services] at hlast
      exact hlast rfl
    · rw [twoServices_services] at hall
      exact absurd (hall 0 (by decide)) (by decide)

end Failures

end ProxyScripts
