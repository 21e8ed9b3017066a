import VoyaVPN.Switchboard
import VoyaVPN.SystemProxy

/-! The proxy settings of the operating systems: what each command and script writes to them, and
which of them put a proxy into effect. -/
namespace ProxySettings

open RustText PlatformProcess SystemProxy Switchboard

/-- A value of the Internet Settings in the registry, a GNOME setting, an entry of the proxy
settings of KDE, or a proxy setting of a macOS network service. -/
inductive SettingKey where
  | registry (name : String)
  | gsettings (schema key : String)
  | kioslaverc (key : String)
  | network (service item : String)
  deriving DecidableEq, Repr

abbrev SettingWrite := Write SettingKey String
abbrev Settings := Board SettingKey String

/-- What the scripts find on the machine: the tools of the two desktops and the status of the search
for one that is missing, the enabled network services, and the names that a pattern matches. -/
structure Desktop where
  gsettings : Bool
  kwriteconfig : Bool
  notFound : Nat
  notFound_ne : notFound ≠ 0
  services : List String
  pathnames : List Char → List (List Char)

section LinuxScript

def proxyProtocols : List String := ["http", "https", "ftp", "socks"]

def gnomeProxy (protocol : String) : String := "org.gnome.system.proxy." ++ protocol

/-- The fields of an unquoted text for a separator that is no white space. -/
def fields (separator : Char) (text : List Char) : List (List Char) :=
  let pieces := text.splitOnP (· == separator)
  if pieces.getLast? = some [] then pieces.dropLast else pieces

/-- A field that has a pattern stands for the names it matches, or for itself. -/
def expandField (pathnames : List Char → List (List Char)) (field : List Char) :
    List (List Char) :=
  if field.any fun char => ['*', '?', '[', '\\'].contains char then
    match pathnames field with
    | [] => [field]
    | found => found
  else [field]

/-- The class `[[:space:]]`. -/
def isSpace (char : Char) : Bool :=
  [0x20, 0x09, 0x0A, 0x0B, 0x0C, 0x0D].contains char.toNat

/-- What `sed` makes of a value, line by line, without the line feeds at the end. -/
def trimmedValue (value : List Char) : List Char :=
  (['\n'].intercalate ((value.splitOnP (· == '\n')).map fun text =>
    (text.dropWhile isSpace).rdropWhile isSpace)).rdropWhile (· = '\n')

def quoted (text : List Char) : List Char := '\'' :: (text ++ ['\''])

def addTrimmed (result trimmed : List Char) : List Char :=
  if trimmed = [] then result
  else if result = [] then quoted trimmed
  else result ++ ',' :: quoted trimmed

/-- `array_from_csv` of the script for Linux. -/
def arrayFromCsv (pathnames : List Char → List (List Char)) (csv : List Char) : List Char :=
  if csv = [] then ['[', ']']
  else
    '[' :: ((((fields ',' csv).flatMap (expandField pathnames)).map trimmedValue).foldl
      addTrimmed [] ++ [']'])

def setGnome (pathnames : List Char → List (List Char)) (mode host port ignoreHosts : String) :
    List SettingWrite :=
  ⟨.gsettings "org.gnome.system.proxy" "mode", mode⟩ ::
    if mode = "manual" then
      (proxyProtocols.flatMap fun protocol =>
        [⟨.gsettings (gnomeProxy protocol) "host", host⟩,
          ⟨.gsettings (gnomeProxy protocol) "port", port⟩]) ++
        [⟨.gsettings "org.gnome.system.proxy" "ignore-hosts",
          String.ofList (arrayFromCsv pathnames ignoreHosts.toList)⟩]
    else []

def kdeProxies : List String := ["httpProxy", "httpsProxy", "ftpProxy", "socksProxy"]

def setKde (mode host port ignoreHosts : String) : List SettingWrite :=
  if mode = "manual" then
    ⟨.kioslaverc "ProxyType", "1"⟩ ::
      (kdeProxies.map fun proxy => ⟨.kioslaverc proxy, "http://" ++ host ++ ":" ++ port⟩) ++
        [⟨.kioslaverc "NoProxyFor", ignoreHosts⟩]
  else [⟨.kioslaverc "ProxyType", "0"⟩]

def linuxProxyScript (desktop : Desktop) (arguments : List String) : List SettingWrite :=
  let mode := arguments.getD 0 ""
  let host := arguments.getD 1 ""
  let port := arguments.getD 2 ""
  let ignoreHosts := arguments.getD 3 ""
  if mode ≠ "manual" ∧ mode ≠ "none" then []
  else
    (if desktop.gsettings then setGnome desktop.pathnames mode host port ignoreHosts else []) ++
      if desktop.kwriteconfig then setKde mode host port ignoreHosts else []

/-- The status of the script when none of its calls fails: without a tool of KDE it is that of the
search for one. -/
def linuxScriptStatus (desktop : Desktop) (arguments : List String) : Nat :=
  let mode := arguments.getD 0 ""
  if mode ≠ "manual" ∧ mode ≠ "none" then 1
  else if desktop.kwriteconfig then 0 else desktop.notFound

end LinuxScript

section MacosScript

/-- The proxies of a network service: the name of the proxy and of its state. -/
def serviceProxies : List (String × String) :=
  [("webproxy", "webproxystate"), ("securewebproxy", "securewebproxystate"),
    ("socksfirewallproxy", "socksfirewallproxystate")]

/-- `networksetup` sets a proxy and turns it on. -/
def setServiceProxy (service endpoint : String) (proxy : String × String) : List SettingWrite :=
  [⟨.network service proxy.1, endpoint⟩, ⟨.network service proxy.2, "on"⟩]

def serviceProxiesOff (service : String) : List SettingWrite :=
  serviceProxies.map fun proxy => ⟨.network service proxy.2, "off"⟩

def setService (service host port : String) (bypass : List String) : List SettingWrite :=
  serviceProxies.flatMap (setServiceProxy service (host ++ ":" ++ port)) ++
    [⟨.network service "proxybypassdomains", " ".intercalate bypass⟩,
      ⟨.network service "autoproxystate", "off"⟩]

def setServicePac (service url : String) : List SettingWrite :=
  serviceProxiesOff service ++
    [⟨.network service "autoproxyurl", url⟩, ⟨.network service "autoproxystate", "on"⟩]

def clearService (service : String) : List SettingWrite :=
  serviceProxiesOff service ++ [⟨.network service "autoproxystate", "off"⟩]

def macosProxyScript (desktop : Desktop) (arguments : List String) : List SettingWrite :=
  let mode := arguments.getD 0 ""
  desktop.services.flatMap fun service =>
    if mode = "set" then
      setService service (arguments.getD 1 "") (arguments.getD 2 "") (arguments.drop 3)
    else if mode = "pac" then setServicePac service (arguments.getD 1 "")
    else if mode = "clear" then clearService service
    else []

/-- The status of the script when none of its calls fails. -/
def macosScriptStatus (desktop : Desktop) (arguments : List String) : Nat :=
  if desktop.services = [] ∨ arguments.getD 0 "" ∈ ["set", "pac", "clear"] then 0 else 1

end MacosScript

section Effects

/-- `reg add` writes one value. -/
def registryWrites (arguments : List String) : List SettingWrite :=
  match arguments with
  | ["add", _, "/v", name, "/t", _, "/d", value, "/f"] => [⟨.registry name, value⟩]
  | _ => []

variable (desktop : Desktop)
-- what a script of the user writes, by its path and arguments
variable (custom : String → List String → List SettingWrite)

def effect (os : TargetOs) (spawn : ProxySpawn) : List SettingWrite :=
  match spawn.generatedScript with
  | some .linux => linuxProxyScript desktop spawn.arguments
  | some .macos => macosProxyScript desktop spawn.arguments
  | none => if os = .windows then registryWrites spawn.arguments
            else custom spawn.executable spawn.arguments

/-- The status a command ends with when nothing it does fails. -/
def endStatus (spawn : ProxySpawn) : Nat :=
  match spawn.generatedScript with
  | some .linux => linuxScriptStatus desktop spawn.arguments
  | some .macos => macosScriptStatus desktop spawn.arguments
  | none => 0

end Effects

section Switches

def anyOf (key : SettingKey) (off : List String) (values : SettingKey → String) : Bool :=
  !off.contains (values key)

/-- A proxy that one of its settings switches: it is off at the values named. -/
def switched (key : SettingKey) (off : List String) (others : List SettingKey) :
    Switch SettingKey String where
  keys := key :: others
  on := anyOf key off
  decided := by
    intro values others' hsame
    simp only [anyOf, hsame key List.mem_cons_self]

def namedProxy : Switch SettingKey String where
  keys := [.registry "ProxyEnable", .registry "ProxyServer"]
  on := fun values =>
    anyOf (.registry "ProxyEnable") ["", "0"] values && anyOf (.registry "ProxyServer") [""] values
  decided := by
    intro values others hsame
    simp only [anyOf, hsame (.registry "ProxyEnable") (by simp),
      hsame (.registry "ProxyServer") (by simp)]

def autoConfig : Switch SettingKey String := switched (.registry "AutoConfigURL") [""] []

def gnomeManual : Switch SettingKey String where
  keys := .gsettings "org.gnome.system.proxy" "mode" ::
    proxyProtocols.flatMap fun protocol =>
      [.gsettings (gnomeProxy protocol) "host", .gsettings (gnomeProxy protocol) "port"]
  on := fun values => values (.gsettings "org.gnome.system.proxy" "mode") == "manual"
  decided := by
    intro values others hsame
    rw [hsame (.gsettings "org.gnome.system.proxy" "mode") List.mem_cons_self]

def kdeManual : Switch SettingKey String :=
  switched (.kioslaverc "ProxyType") ["", "0"] (kdeProxies.map .kioslaverc)

def serviceProxy (service : String) (proxy : String × String) : Switch SettingKey String :=
  switched (.network service proxy.2) ["", "off"] [.network service proxy.1]

def serviceAutoProxy (service : String) : Switch SettingKey String :=
  switched (.network service "autoproxystate") ["", "off"] [.network service "autoproxyurl"]

/-- What can put a proxy into effect. -/
def switches (desktop : Desktop) : TargetOs → List (Switch SettingKey String)
  | .windows => [namedProxy, autoConfig]
  | .linux =>
    (if desktop.gsettings then [gnomeManual] else []) ++
      if desktop.kwriteconfig then [kdeManual] else []
  | .macos => desktop.services.flatMap fun service =>
      serviceAutoProxy service :: serviceProxies.map (serviceProxy service)
  | .other => []

end Switches

section Clearing

variable {key setting : SettingKey} {off : List String} {others : List SettingKey} {value : String}

theorem switched_off (hvalue : setting = key → value ∈ off) (hother : setting ∉ others) :
    SwitchesOff (switched key off others) ⟨setting, value⟩ := by
  intro hmem values
  rcases List.mem_cons.mp hmem with hkey | hmem
  · have hkey : setting = key := hkey
    have hoff := hvalue hkey
    subst hkey
    simp only [switched, anyOf, Function.update_self, Bool.not_eq_false']
    exact List.contains_iff_mem.mpr hoff
  · exact absurd hmem hother

theorem namedProxy_off (henable : setting = .registry "ProxyEnable" → value ∈ ["", "0"])
    (hserver : setting = .registry "ProxyServer" → value ∈ [""]) :
    SwitchesOff namedProxy ⟨setting, value⟩ := by
  intro hmem values
  have hcases : setting = .registry "ProxyEnable" ∨ setting = .registry "ProxyServer" := by
    simpa [namedProxy] using hmem
  simp only [namedProxy, anyOf, Bool.and_eq_false_iff, Bool.not_eq_false']
  rcases hcases with rfl | rfl
  · left
    rw [Function.update_self]
    exact List.contains_iff_mem.mpr (henable rfl)
  · right
    rw [Function.update_self]
    exact List.contains_iff_mem.mpr (hserver rfl)

def clearedRegistry : List SettingWrite :=
  [⟨.registry "ProxyEnable", "0"⟩, ⟨.registry "ProxyServer", ""⟩,
    ⟨.registry "ProxyOverride", ""⟩, ⟨.registry "AutoConfigURL", ""⟩]

theorem clears_registry (desktop : Desktop) :
    Clears (switches desktop .windows) clearedRegistry where
  off := by
    intro switch hswitch step hstep
    simp only [switches, List.mem_cons, List.not_mem_nil, or_false] at hswitch
    simp only [clearedRegistry, List.mem_cons, List.not_mem_nil, or_false] at hstep
    rcases hswitch with rfl | rfl
    · rcases hstep with rfl | rfl | rfl | rfl
      all_goals exact namedProxy_off (by simp) (by simp)
    · rcases hstep with rfl | rfl | rfl | rfl
      all_goals exact switched_off (by simp) (by simp)
  reached := by
    intro switch hswitch
    simp only [switches, List.mem_cons, List.not_mem_nil, or_false] at hswitch
    rcases hswitch with rfl | rfl
    · exact ⟨⟨.registry "ProxyEnable", "0"⟩, by simp [clearedRegistry], by simp [namedProxy]⟩
    · exact ⟨⟨.registry "AutoConfigURL", ""⟩, by simp [clearedRegistry],
        by simp [autoConfig, switched]⟩

theorem gnomeManual_off {value : String} (hvalue : value ≠ "manual") :
    SwitchesOff gnomeManual ⟨.gsettings "org.gnome.system.proxy" "mode", value⟩ := by
  intro _ values
  simp only [gnomeManual, Function.update_self, beq_eq_false_iff_ne, ne_eq]
  exact hvalue

theorem linuxProxyScript_none (desktop : Desktop) :
    linuxProxyScript desktop ["none"] =
      (if desktop.gsettings then [⟨.gsettings "org.gnome.system.proxy" "mode", "none"⟩] else []) ++
        if desktop.kwriteconfig then [⟨.kioslaverc "ProxyType", "0"⟩] else [] := by
  simp [linuxProxyScript, setGnome, setKde]

theorem clears_linux (desktop : Desktop) :
    Clears (switches desktop .linux) (linuxProxyScript desktop ["none"]) := by
  have hgnome : ∀ step : SettingWrite, step.key = .kioslaverc "ProxyType" →
      SwitchesOff gnomeManual step := by
    rintro ⟨_, _⟩ rfl hmem
    simp [gnomeManual, proxyProtocols] at hmem
  have hkde : ∀ step : SettingWrite, step.key = .gsettings "org.gnome.system.proxy" "mode" →
      SwitchesOff kdeManual step := by
    rintro ⟨_, _⟩ rfl hmem
    simp [kdeManual, switched, kdeProxies] at hmem
  rw [linuxProxyScript_none]
  constructor
  · intro switch hswitch step hstep
    simp only [switches, List.mem_append] at hswitch
    rw [List.mem_append] at hstep
    rcases hswitch with hswitch | hswitch
    · obtain ⟨_, rfl⟩ : desktop.gsettings = true ∧ switch = gnomeManual := by simpa using hswitch
      rcases hstep with hstep | hstep
      · obtain ⟨_, rfl⟩ : desktop.gsettings = true ∧ step = _ := by simpa using hstep
        exact gnomeManual_off (by simp)
      · obtain ⟨_, rfl⟩ : desktop.kwriteconfig = true ∧ step = _ := by simpa using hstep
        exact hgnome _ rfl
    · obtain ⟨_, rfl⟩ : desktop.kwriteconfig = true ∧ switch = kdeManual := by simpa using hswitch
      rcases hstep with hstep | hstep
      · obtain ⟨_, rfl⟩ : desktop.gsettings = true ∧ step = _ := by simpa using hstep
        exact hkde _ rfl
      · obtain ⟨_, rfl⟩ : desktop.kwriteconfig = true ∧ step = _ := by simpa using hstep
        exact switched_off (by simp) (by simp [kdeProxies])
  · intro switch hswitch
    simp only [switches, List.mem_append] at hswitch
    rcases hswitch with hswitch | hswitch
    · obtain ⟨hgsettings, rfl⟩ : desktop.gsettings = true ∧ switch = gnomeManual := by
        simpa using hswitch
      exact ⟨⟨.gsettings "org.gnome.system.proxy" "mode", "none"⟩, by simp [hgsettings],
        by simp [gnomeManual]⟩
    · obtain ⟨hkwriteconfig, rfl⟩ : desktop.kwriteconfig = true ∧ switch = kdeManual := by
        simpa using hswitch
      exact ⟨⟨.kioslaverc "ProxyType", "0"⟩, by simp [hkwriteconfig], by simp [kdeManual, switched]⟩

theorem mem_clearService {service : String} {step : SettingWrite}
    (h : step ∈ clearService service) :
    ∃ item ∈ "autoproxystate" :: serviceProxies.map Prod.snd, step =
      ⟨.network service item, "off"⟩ := by
  simp only [clearService, serviceProxiesOff, List.mem_append, List.mem_singleton] at h
  rcases h with h | rfl
  · obtain ⟨proxy, hproxy, rfl⟩ := List.mem_map.mp h
    exact ⟨proxy.2, List.mem_cons_of_mem _ (List.mem_map_of_mem hproxy), rfl⟩
  · exact ⟨_, List.mem_cons_self, rfl⟩

theorem macosProxyScript_clear (desktop : Desktop) :
    macosProxyScript desktop ["clear"] = desktop.services.flatMap clearService := by
  simp [macosProxyScript]

theorem clears_macos (desktop : Desktop) :
    Clears (switches desktop .macos) (macosProxyScript desktop ["clear"]) := by
  rw [macosProxyScript_clear]
  constructor
  · intro switch hswitch step hstep
    obtain ⟨service, _, hswitch⟩ := List.mem_flatMap.mp hswitch
    obtain ⟨other, _, hstep⟩ := List.mem_flatMap.mp hstep
    obtain ⟨item, hitem, rfl⟩ := mem_clearService hstep
    rcases List.mem_cons.mp hswitch with rfl | hswitch
    · refine switched_off (by simp) ?_
      simp only [serviceProxies, List.map, List.mem_cons, List.not_mem_nil, or_false] at hitem
      rcases hitem with rfl | rfl | rfl | rfl
      all_goals simp
    · obtain ⟨proxy, hproxy, rfl⟩ := List.mem_map.mp hswitch
      refine switched_off (by simp) ?_
      simp only [serviceProxies, List.map, List.mem_cons, List.not_mem_nil, or_false]
        at hitem hproxy
      rcases hitem with rfl | rfl | rfl | rfl <;> rcases hproxy with rfl | rfl | rfl
      all_goals simp
  · intro switch hswitch
    obtain ⟨service, hservice, hswitch⟩ := List.mem_flatMap.mp hswitch
    rcases List.mem_cons.mp hswitch with rfl | hswitch
    · refine ⟨⟨.network service "autoproxystate", "off"⟩, ?_, by simp [serviceAutoProxy, switched]⟩
      exact List.mem_flatMap.mpr ⟨service, hservice, by simp [clearService]⟩
    · obtain ⟨proxy, hproxy, rfl⟩ := List.mem_map.mp hswitch
      refine ⟨⟨.network service proxy.2, "off"⟩, ?_, by simp [serviceProxy, switched]⟩
      refine List.mem_flatMap.mpr ⟨service, hservice, ?_⟩
      exact List.mem_append.mpr (.inl (List.mem_map.mpr ⟨proxy, hproxy, rfl⟩))

end Clearing

end ProxySettings
