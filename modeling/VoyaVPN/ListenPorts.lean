import VoyaVPN.ConnectionContexts
import VoyaVPN.ReferenceClosure
import VoyaVPN.SettingsValidation

/-! The ports of the main config, all of them offsets from one setting, and the port that the
clients of its controller connect to. -/
namespace ListenPorts

open Entities AppConfig RustText ContextBuilder ProtocolCommon SingboxSchema SingboxSupport
open SingboxOutbounds SingboxInbounds SingboxRouting SingboxDns SingboxExperimental SingboxEntry
open ConnectionContexts PlatformProcess RuntimeService SettingsSave SettingsValidation

section Clients

/-- The statistics have their own copy of the lookup. -/
def statisticsInboundPort (appConfig : Config) (protocol : InboundProtocol) : Int :=
  let socks := appConfig.inbound.find? fun item => item.protocol == "socks"
  let localPort := ((socks.map (·.localPort)).orElse
    fun _ => appConfig.inbound.head?.map (·.localPort)).getD defaultLocalPort
  addI32 localPort protocol.portOffset

def clampPort (port : Int) : Nat := (max 0 (min port 65535)).toNat

def singboxStatePort2 (config : Config) : Nat :=
  clampPort (addI32 (statisticsInboundPort config .api2)
    (if config.tunModeItem.enableTun then 1 else 0))

structure StatisticsConfigSnapshot where
  enableStatistics : Bool
  displayRealTimeSpeed : Bool
  activeProfileId : Option String
  statePort : Nat
  statePort2 : Nat
  deriving DecidableEq, Repr

def StatisticsConfigSnapshot.fromAppConfig (config : Config) : StatisticsConfigSnapshot where
  enableStatistics := config.guiItem.enableStatistics
  displayRealTimeSpeed := config.guiItem.displayRealTimeSpeed
  activeProfileId := if trim config.indexId = "" then none else some (trim config.indexId)
  statePort := clampPort (statisticsInboundPort config .api)
  statePort2 := clampPort (addI32 (statisticsInboundPort config .api2)
    (if config.tunModeItem.enableTun then 1 else 0))

def availableStatePort (port : Nat) : Option Nat := if port ≠ 0 then some port else none

def statisticsPort (config : Config) : Option Nat :=
  availableStatePort (StatisticsConfigSnapshot.fromAppConfig config).statePort2

def availableProxyStatePort (config : Config) : Option Nat :=
  availableStatePort (singboxStatePort2 config)

end Clients

section Sections

variable {crates : Crates} {fuel : Nat} {context : CoreConfigContext}

theorem genRoutingUserRule_inbounds {config after : SingboxConfig} {rule : RulesItem}
    (h : genRoutingUserRule crates fuel context config rule = some after) :
    after.inbounds = config.inbounds := by
  obtain ⟨⟨between, outboundTag⟩, houtbound, rfl⟩ := Option.map_eq_some_iff.mp h
  show between.inbounds = config.inbounds
  unfold genRoutingUserRuleOutbound at houtbound
  split at houtbound
  · cases houtbound
    rfl
  · split at houtbound
    · cases houtbound
      rfl
    · split at houtbound
      · cases houtbound
        rfl
      · dsimp only at houtbound
        split at houtbound
        · cases houtbound
          rfl
        · obtain ⟨servers, _, hserver⟩ := Option.map_eq_some_iff.mp houtbound
          split at hserver
          · cases hserver
            rfl
          · cases hserver
            rfl

theorem foldlM_inbounds {rules : List RulesItem} {config after : SingboxConfig}
    (h : rules.foldlM (genRoutingUserRule crates fuel context) config = some after) :
    after.inbounds = config.inbounds := by
  induction rules generalizing config with
  | nil =>
    cases h
    rfl
  | cons rule rules ih =>
    rw [List.foldlM_cons] at h
    obtain ⟨between, hrule, hrest⟩ := Option.bind_eq_some_iff.mp h
    exact (ih hrest).trans (genRoutingUserRule_inbounds hrule)

theorem genRouting_inbounds {config after : SingboxConfig}
    (h : genRouting crates fuel config context = some after) :
    after.inbounds = config.inbounds := by
  unfold genRouting at h
  dsimp only at h
  split at h
  · cases h
    rfl
  · obtain ⟨between, hrules, hrest⟩ := Option.bind_eq_some_iff.mp h
    have hfirst := foldlM_inbounds hrules
    split at hrest
    · exact (foldlM_inbounds hrest).trans hfirst
    · cases hrest
      exact hfirst

/-- The sections after them leave the inbounds and the controller as they are. -/
theorem generated_sections {config : SingboxConfig}
    (h : generateSingboxConfig crates fuel context = some (.ok config)) :
    config.inbounds = (genInbounds (genLog SingboxConfig.sample context) context).inbounds ∧
      (config.experimental.bind (·.clashApi)).bind (·.externalController) =
        some (loopback ++ ":" ++ toString (statePort2 context.appConfig context.isTunEnabled)) := by
  obtain ⟨sections, converted, hsections, hconvert, rfl⟩ :=
    ReferenceClosure.generateSingboxConfig_ok h
  have hbindings : (applyBindings converted context).inbounds = converted.inbounds ∧
      (applyBindings converted context).experimental = converted.experimental := by
    have hbind : (applyOutboundBindInterface converted context).inbounds = converted.inbounds ∧
        (applyOutboundBindInterface converted context).experimental = converted.experimental := by
      unfold applyOutboundBindInterface
      split
      · exact ⟨rfl, rfl⟩
      · split <;> exact ⟨rfl, rfl⟩
    rw [applyBindings, applyOutboundSendThrough]
    split <;> exact hbind
  have hconverted : converted.inbounds = sections.inbounds ∧
      converted.experimental = sections.experimental := by
    unfold convertGeoToRuleset at hconvert
    dsimp only at hconvert
    split at hconvert
    · cases hconvert
      exact ⟨rfl, rfl⟩
    · cases hcustom : parseInlineCustomRulesets crates (customRulesetPath context) with
      | error error =>
        rw [hcustom] at hconvert
        cases hconvert
      | ok customRulesets =>
        rw [hcustom] at hconvert
        cases hconvert
        exact ⟨rfl, rfl⟩
  obtain ⟨routed, hrouted, rfl⟩ := Option.map_eq_some_iff.mp hsections
  obtain ⟨served, hserved, hrouting⟩ := Option.bind_eq_some_iff.mp hrouted
  obtain ⟨servers, _, rfl⟩ := Option.map_eq_some_iff.mp hserved
  have hinbounds := genRouting_inbounds hrouting
  rw [hbindings.1, hbindings.2, hconverted.1, hconverted.2]
  exact ⟨hinbounds, rfl⟩

end Sections

section Ports

def listenPorts (singbox : SingboxConfig) : List Int := singbox.inbounds.filterMap (·.listenPort)

def externalController (singbox : SingboxConfig) : Option String :=
  (singbox.experimental.bind (·.clashApi)).bind (·.externalController)

def IsPort (port : Int) : Prop := 1 ≤ port ∧ port ≤ 65535

/-- The ports of the config are ports, no two of them are the same, and the clients connect to the
one of its controller. -/
structure PortsValid (config : Config) (singbox : SingboxConfig) : Prop where
  inbounds : ∀ port ∈ listenPorts singbox, IsPort port
  distinct : (listenPorts singbox).Nodup
  controller : ∃ port : Nat, externalController singbox = some (loopback ++ ":" ++ toString port) ∧
    IsPort port ∧ (port : Int) ∉ listenPorts singbox ∧ statisticsPort config = some port ∧
      availableProxyStatePort config = some port

-- `carriesTun`: whether the main core carries the tunnel itself
variable (settings : AppSettingsV1) (node : ProfileItem) (carriesTun : Bool)

def firstInbound : InboundSettings := settings.network.inbounds.head?.getD {}

/-- The local port that the other ones are counted from. -/
def socksPort : Int :=
  (((settings.network.inbounds.find? fun item => item.protocol == "socks").map (·.localPort)).orElse
    fun _ => settings.network.inbounds.head?.map (·.localPort)).getD 10808

def controllerPort : Int := socksPort settings + 5 + if carriesTun then 1 else 0

/-- The port of the clients, who go by the setting alone. -/
def clientPort : Int :=
  min (socksPort settings + 5 + if settings.network.tun.enabled then 1 else 0) 65535

/-- The distances from the local port of the first inbound of the ports that it listens on. -/
def mixedOffsets (item : InboundSettings) : List Int :=
  0 :: (if item.secondaryPortEnabled then [1] else []) ++
    if item.lanConnectionsAllowed && item.separateLanPort then [2] else []

/-- The active node is not the local port itself, which a tunnel would send into itself. -/
def MixedInboundAvailable : Prop :=
  carriesTun = true → ¬(node.address = loopback ∧ node.port = socksPort settings)

structure PortsFit : Prop where
  controller : IsPort (controllerPort settings carriesTun)
  clients : clientPort settings = controllerPort settings carriesTun
  mixed : MixedInboundAvailable settings node carriesTun →
    ∀ offset ∈ mixedOffsets (firstInbound settings),
      IsPort ((firstInbound settings).localPort + offset) ∧
        (firstInbound settings).localPort + offset ≠ controllerPort settings carriesTun

def I32 (value : Int) : Prop := -2 ^ 31 ≤ value ∧ value < 2 ^ 31

end Ports

section Arithmetic

theorem addI32_small {value offset : Int} (hvalue : I32 value) (hoffset : 0 ≤ offset)
    (hsmall : offset ≤ 21) :
    addI32 value offset = value + offset ∨
      65535 < value + offset ∧ addI32 value offset < -2 ^ 30 := by
  obtain ⟨hlow, hhigh⟩ := hvalue
  unfold addI32 Int.bmod
  dsimp only
  split <;> omega

theorem addI32_i32 (value offset : Int) : I32 (addI32 value offset) := by
  unfold I32 addI32 Int.bmod
  dsimp only
  split <;> omega

theorem isPort_addI32 {value offset : Int} (hvalue : I32 value) (hoffset : 0 ≤ offset)
    (hsmall : offset ≤ 21) : IsPort (addI32 value offset) ↔ IsPort (value + offset) := by
  unfold IsPort
  rcases addI32_small hvalue hoffset hsmall with hsum | ⟨hlarge, hwrapped⟩
  · rw [hsum]
  · omega

theorem addI32_of_isPort {value offset : Int} (hvalue : I32 value) (hoffset : 0 ≤ offset)
    (hsmall : offset ≤ 21) (hport : IsPort (value + offset)) :
    addI32 value offset = value + offset := by
  obtain ⟨_, hhigh⟩ := hport
  rcases addI32_small hvalue hoffset hsmall with hsum | ⟨hlarge, _⟩
  · exact hsum
  · omega

theorem addI32_of_i32 {value offset : Int} (hsum : I32 (value + offset)) :
    addI32 value offset = value + offset := by
  obtain ⟨hlow, hhigh⟩ := hsum
  unfold addI32 Int.bmod
  dsimp only
  split <;> omega

theorem addI32_zero {value : Int} (hvalue : I32 value) : addI32 value 0 = value := by
  rw [addI32_of_i32 (by rwa [add_zero]), add_zero]

theorem eq_of_toString_eq {value : Int} {port : Nat} (htext : toString value = toString port) :
    value = port := by
  cases value with
  | ofNat number =>
    have hrepr : number.repr = port.repr := htext
    rw [Nat.repr_injective hrepr]
    rfl
  | negSucc number =>
    have hminus : '-' ∈ (toString port).toList := by
      rw [← htext]
      show '-' ∈ ("-" ++ Nat.repr (number + 1)).toList
      rw [String.toList_append]
      exact List.mem_append_left _ (by decide)
    have hdigit : '-' ∈ Nat.toDigits 10 port := by
      simpa [Nat.repr] using hminus
    exact absurd (Nat.isDigit_of_mem_toDigits (by decide) (by decide) hdigit) (by decide)

end Arithmetic

section Settings

variable {settings : AppSettingsV1} {state : AppStateRecord} {config : Config}
  {node : ProfileItem}

theorem socksPort_i32 (hports : ∀ item ∈ settings.network.inbounds, I32 item.localPort) :
    I32 (socksPort settings) := by
  have hdefault : I32 10808 := by
    unfold I32
    omega
  unfold socksPort
  cases hfind : settings.network.inbounds.find? fun item => item.protocol == "socks" with
  | some item => exact hports item (List.mem_of_find?_eq_some hfind)
  | none =>
    cases hhead : settings.network.inbounds.head? with
    | some item => exact hports item (List.mem_of_mem_head? hhead)
    | none => exact hdefault

theorem firstInbound_i32 (hports : ∀ item ∈ settings.network.inbounds, I32 item.localPort) :
    I32 (firstInbound settings).localPort := by
  unfold firstInbound
  cases hhead : settings.network.inbounds.head? with
  | some item => exact hports item (List.mem_of_mem_head? hhead)
  | none =>
    show I32 10808
    unfold I32
    omega

theorem appConfig_ports (h : appConfigFromSettings settings state = .ok config) :
    config.inbound = settings.network.inbounds.map inboundFromSettings ∧
      config.tunModeItem.enableTun = settings.network.tun.enabled := by
  obtain ⟨mode, _, h⟩ := ok_of_bind_ok h
  obtain ⟨traffic, _, h⟩ := ok_of_bind_ok h
  cases h
  exact ⟨rfl, rfl⟩

theorem inboundPort_eq (h : appConfigFromSettings settings state = .ok config)
    (protocol : InboundProtocol) :
    inboundPort config protocol = addI32 (socksPort settings) protocol.portOffset := by
  have hfind : (config.inbound.find? fun item => item.protocol == inboundProtocolTag .socks).map
      (·.localPort) =
        (settings.network.inbounds.find? fun item => item.protocol == "socks").map
          (·.localPort) := by
    rw [(appConfig_ports h).1, List.find?_map, Option.map_map]
    rfl
  have hhead : config.inbound.head?.map (·.localPort) =
      settings.network.inbounds.head?.map (·.localPort) := by
    rw [(appConfig_ports h).1, List.head?_map, Option.map_map]
    rfl
  rw [inboundPort, socksPort, hfind, hhead]
  rfl

theorem statePort2_eq (h : appConfigFromSettings settings state = .ok config) (tun : Bool) :
    statePort2 config tun = addI32 (addI32 (socksPort settings) 5) (if tun then 1 else 0) := by
  rw [statePort2, inboundPort_eq h]
  rfl

theorem statePort2_isPort (h : appConfigFromSettings settings state = .ok config)
    (hports : ∀ item ∈ settings.network.inbounds, I32 item.localPort) (tun : Bool) :
    (IsPort (statePort2 config tun) ↔ IsPort (controllerPort settings tun)) ∧
      (IsPort (controllerPort settings tun) →
        statePort2 config tun = controllerPort settings tun) := by
  have hbase := socksPort_i32 hports
  have hstep : (0 : Int) ≤ (if tun then 1 else 0) ∧ (if tun then (1 : Int) else 0) ≤ 1 := by
    split <;> omega
  have houter := @addI32_small _ _ (addI32_i32 (socksPort settings) 5) hstep.1 (by omega)
  rw [statePort2_eq h, controllerPort]
  unfold IsPort
  rcases addI32_small hbase (show (0 : Int) ≤ 5 by omega) (by omega) with hsum | ⟨hlarge, hwrapped⟩
  · rw [hsum] at houter ⊢
    omega
  · omega

/-- Where the controller has a port, the sum of its clients does not wrap around. -/
theorem clampPort_statePort2 (h : appConfigFromSettings settings state = .ok config)
    {carriesTun : Bool} (hcontroller : IsPort (controllerPort settings carriesTun)) :
    (clampPort (statePort2 config settings.network.tun.enabled) : Int) =
      max 0 (clientPort settings) := by
  obtain ⟨hlow, hhigh⟩ := hcontroller
  unfold controllerPort at hlow hhigh
  have hstep : ∀ tun : Bool, (0 : Int) ≤ (if tun then 1 else 0) ∧
      (if tun then (1 : Int) else 0) ≤ 1 := by
    intro tun
    split <;> omega
  have hcarried := hstep carriesTun
  have htun := hstep settings.network.tun.enabled
  have hfirst : addI32 (socksPort settings) 5 = socksPort settings + 5 :=
    addI32_of_i32 (by unfold I32; omega)
  rw [statePort2_eq h, hfirst, addI32_of_i32 (by unfold I32; omega), clientPort]
  unfold clampPort
  omega

end Settings

section Results

variable {settings : AppSettingsV1} {state : AppStateRecord} {config : Config}
  {node : ProfileItem} {carriesTun : Bool} {crates : Crates} {steps : Nat}
  {context : CoreConfigContext} {singbox : SingboxConfig}

theorem mixedInbounds_ports (item : InboundSettings) :
    (mixedInbounds (inboundFromSettings item)).filterMap (·.listenPort) =
      (mixedOffsets item).map (addI32 item.localPort) := by
  unfold mixedInbounds mixedOffsets inboundFromSettings
  dsimp only
  generalize (!isEmpty (trimmed item.username) && !isEmpty (trimmed item.password)) = named
  cases named <;> cases item.lanConnectionsAllowed <;> cases item.separateLanPort <;>
    cases item.secondaryPortEnabled <;> rfl

theorem head_inbound (h : appConfigFromSettings settings state = .ok config) :
    config.inbound.head?.getD {} = inboundFromSettings (firstInbound settings) := by
  rw [(appConfig_ports h).1, firstInbound, List.head?_map]
  cases settings.network.inbounds.head? <;> rfl

/-- The config listens on the local port and its neighbours, or on none of them. -/
theorem listenPorts_eq (hports : ∀ item ∈ settings.network.inbounds, I32 item.localPort)
    (h : appConfigFromSettings settings state = .ok config)
    (hmain : MainContext config node carriesTun context)
    (hgenerated : generateSingboxConfig crates steps context = some (.ok singbox)) :
    (MixedInboundAvailable settings node carriesTun → listenPorts singbox =
        (mixedOffsets (firstInbound settings)).map (addI32 (firstInbound settings).localPort)) ∧
      (¬MixedInboundAvailable settings node carriesTun → listenPorts singbox = []) := by
  have hlocal : inboundPort config .socks = socksPort settings := by
    rw [inboundPort_eq h]
    exact addI32_zero (socksPort_i32 hports)
  have havailable : (!context.isTunEnabled || !(context.node.address == loopback &&
      context.node.port == inboundPort context.appConfig .socks)) = true ↔
        MixedInboundAvailable settings node carriesTun := by
    rw [hmain.isTunEnabled, hmain.node, hmain.appConfig, hlocal, MixedInboundAvailable]
    cases carriesTun <;> simp [imp_iff_not_or]
  have hinbounds := (generated_sections hgenerated).1
  have htunPorts : (if context.isTunEnabled then [buildTunInbound context
      (if (!context.isTunEnabled || !(context.node.address == loopback &&
        context.node.port == inboundPort context.appConfig .socks)) = true then
          some (inboundPort context.appConfig .socks) else none)] else []).filterMap
            (·.listenPort) = [] := by
    split <;> rfl
  have hall : listenPorts singbox = ((if (!context.isTunEnabled ||
      !(context.node.address == loopback &&
        context.node.port == inboundPort context.appConfig .socks)) = true then
          mixedInbounds (context.appConfig.inbound.head?.getD {}) else []).filterMap
            (·.listenPort)) := by
    rw [listenPorts, hinbounds, genInbounds]
    dsimp only
    rw [List.filterMap_append, htunPorts, List.append_nil]
  constructor
  · intro hmixed
    rw [hall, if_pos (havailable.mpr hmixed), hmain.appConfig, head_inbound h,
      mixedInbounds_ports]
  · intro hmixed
    rw [hall, if_neg (mt havailable.mp hmixed)]
    rfl

theorem mixedOffsets_small {item : InboundSettings} {offset : Int}
    (hoffset : offset ∈ mixedOffsets item) : 0 ≤ offset ∧ offset ≤ 2 := by
  unfold mixedOffsets at hoffset
  simp only [List.cons_append, List.mem_cons, List.mem_append] at hoffset
  rcases hoffset with rfl | hsecond | hlan
  · omega
  · split at hsecond
    · rw [List.mem_singleton.mp hsecond]
      omega
    · cases hsecond
  · split at hlan
    · rw [List.mem_singleton.mp hlan]
      omega
    · cases hlan

theorem mixedOffsets_nodup (item : InboundSettings) : (mixedOffsets item).Nodup := by
  unfold mixedOffsets
  split <;> split <;> decide

theorem map_addI32 {item : InboundSettings} (hlocal : I32 item.localPort)
    (hports : ∀ offset ∈ mixedOffsets item, IsPort (item.localPort + offset)) :
    (mixedOffsets item).map (addI32 item.localPort) =
      (mixedOffsets item).map (item.localPort + ·) := by
  apply List.map_congr_left
  intro offset hoffset
  obtain ⟨hlow, hhigh⟩ := mixedOffsets_small hoffset
  exact addI32_of_isPort hlocal hlow (by omega) (hports offset hoffset)

/-- Where the settings fit, what the config listens on are ports other than the controller's. -/
theorem listenPorts_fit (hlocal : I32 (firstInbound settings).localPort)
    (hlistens : (MixedInboundAvailable settings node carriesTun → listenPorts singbox =
        (mixedOffsets (firstInbound settings)).map (addI32 (firstInbound settings).localPort)) ∧
      (¬MixedInboundAvailable settings node carriesTun → listenPorts singbox = []))
    (hfit : PortsFit settings node carriesTun) :
    (∀ port ∈ listenPorts singbox, IsPort port ∧ port ≠ controllerPort settings carriesTun) ∧
      (listenPorts singbox).Nodup := by
  by_cases havailable : MixedInboundAvailable settings node carriesTun
  · have hmixed := hfit.mixed havailable
    rw [hlistens.1 havailable, map_addI32 hlocal fun offset hoffset => (hmixed offset hoffset).1]
    constructor
    · intro port hport
      obtain ⟨offset, hoffset, rfl⟩ := List.mem_map.mp hport
      exact hmixed offset hoffset
    · exact (mixedOffsets_nodup _).map (add_right_injective _)
  · rw [hlistens.2 havailable]
    exact ⟨fun port hport => absurd hport List.not_mem_nil, List.nodup_nil⟩

theorem externalController_eq
    (hmain : MainContext config node carriesTun context)
    (hgenerated : generateSingboxConfig crates steps context = some (.ok singbox)) :
    externalController singbox =
      some (loopback ++ ":" ++ toString (statePort2 config carriesTun)) := by
  rw [externalController, (generated_sections hgenerated).2, hmain.appConfig, hmain.isTunEnabled]

theorem statePort2_of_controller {port : Nat}
    (h : some (loopback ++ ":" ++ toString (statePort2 config carriesTun)) =
      some (loopback ++ ":" ++ toString port)) : statePort2 config carriesTun = port := by
  have hlists := congrArg String.toList (Option.some.inj h)
  simp only [String.toList_append] at hlists
  exact eq_of_toString_eq (String.toList_injective (List.append_cancel_left hlists))

theorem clients_eq (h : appConfigFromSettings settings state = .ok config) :
    statisticsPort config =
        availableStatePort (clampPort (statePort2 config settings.network.tun.enabled)) ∧
      availableProxyStatePort config =
        availableStatePort (clampPort (statePort2 config settings.network.tun.enabled)) := by
  rw [statisticsPort, availableProxyStatePort, StatisticsConfigSnapshot.fromAppConfig,
    singboxStatePort2, (appConfig_ports h).2]
  exact ⟨rfl, rfl⟩

theorem clients_iff (h : appConfigFromSettings settings state = .ok config)
    (hcontroller : IsPort (controllerPort settings carriesTun)) {port : Nat}
    (hport : IsPort port) :
    availableStatePort (clampPort (statePort2 config settings.network.tun.enabled)) = some port ↔
      clientPort settings = port := by
  have hclamped := clampPort_statePort2 h hcontroller
  obtain ⟨hlow, hhigh⟩ := hport
  unfold availableStatePort
  split
  · rw [Option.some.injEq]
    omega
  · refine iff_of_false (fun hnone => nomatch hnone) ?_
    omega

/-- The ports of the main config of a connection are valid exactly when those that the settings give
are. -/
theorem portsValid_iff {data : SnapshotCoreGenData} {rulesetPaths : Std.ExtTreeMap String String}
    {targetOs : TargetOs} {fuel : Nat} {contexts : RuntimeContexts CoreConfigContext}
    (hports : ∀ item ∈ settings.network.inbounds, I32 item.localPort)
    (h : appConfigFromSettings settings state = .ok config)
    (hcontexts : connectContexts crates (loadRuntimeCoreGenEnv data rulesetPaths config targetOs)
      fuel config node targetOs = some (.ok contexts))
    (hgenerated : generateSingboxConfig crates steps contexts.main = some (.ok singbox)) :
    PortsValid config singbox ↔ PortsFit settings node (mainCarriesTun (loadRuntimeCoreGenEnv data
      rulesetPaths config targetOs) config node targetOs) := by
  have hmain := mainContext_connect hcontexts
  generalize mainCarriesTun (loadRuntimeCoreGenEnv data rulesetPaths config targetOs) config node
    targetOs = carriesTun at hmain ⊢
  have hlistens := listenPorts_eq hports h hmain hgenerated
  obtain ⟨hisPort, hstate⟩ := statePort2_isPort h hports carriesTun
  have hfirst := firstInbound_i32 hports
  have hexternal := externalController_eq hmain hgenerated
  obtain ⟨hstatistics, hproxies⟩ := clients_eq h
  constructor
  · rintro ⟨hinbounds, _, port, hcontroller, hport, hother, hclient, _⟩
    have hsame : statePort2 config carriesTun = port :=
      statePort2_of_controller (hexternal.symm.trans hcontroller)
    have hcontrollerPort : IsPort (controllerPort settings carriesTun) := by
      rw [← hisPort, hsame]
      exact hport
    have hequal : controllerPort settings carriesTun = port := by
      rw [← hstate hcontrollerPort, hsame]
    refine ⟨hcontrollerPort, ?_, fun hmixed offset hoffset => ?_⟩
    · rw [hequal, ← clients_iff h hcontrollerPort hport, ← hstatistics]
      exact hclient
    · obtain ⟨hlow, hhigh⟩ := mixedOffsets_small hoffset
      have hmem : addI32 (firstInbound settings).localPort offset ∈ listenPorts singbox := by
        rw [hlistens.1 hmixed]
        exact List.mem_map_of_mem hoffset
      have hsum := (isPort_addI32 hfirst hlow (by omega)).mp (hinbounds _ hmem)
      refine ⟨hsum, fun hclash => hother ?_⟩
      rw [← hequal, ← hclash, ← addI32_of_isPort hfirst hlow (by omega) hsum]
      exact hmem
  · intro hfit
    have hvalue := hstate hfit.controller
    obtain ⟨hlistened, hdistinct⟩ := listenPorts_fit hfirst hlistens hfit
    obtain ⟨port, hport⟩ := Int.eq_ofNat_of_zero_le (show 0 ≤ controllerPort settings carriesTun by
      have hlow := hfit.controller.1
      omega)
    have hisPort : IsPort (port : Int) := hport ▸ hfit.controller
    have hclients := (clients_iff h hfit.controller hisPort).mpr (hfit.clients.trans hport)
    refine ⟨fun listened hmem => (hlistened listened hmem).1, hdistinct, port, ?_, hisPort, ?_, ?_,
      ?_⟩
    · rw [hexternal, hvalue, hport]
      rfl
    · intro hmem
      exact (hlistened _ hmem).2 hport.symm
    · rw [hstatistics]
      exact hclients
    · rw [hproxies]
      exact hclients

end Results

section Samples

def portSettings (localPort : Int) (enabled : Bool) : AppSettingsV1 :=
  { network := { inbounds := [{ localPort }], tun := { enabled } } }

def portConfig (localPort : Int) (enabled : Bool) : Config :=
  ((appConfigFromSettings (portSettings localPort enabled) {}).toOption).getD {}

theorem portConfig_read (localPort : Int) (enabled : Bool) :
    appConfigFromSettings (portSettings localPort enabled) {} =
      .ok (portConfig localPort enabled) :=
  rfl

def portData : SnapshotCoreGenData := ⟨[], [{ ruleSet := [] }], []⟩

theorem portsValid_iff_default :
    ∃ contexts singbox, connectContexts exampleCrates (loadRuntimeCoreGenEnv portData ∅
        (portConfig 10808 false) .linux) 2 (portConfig 10808 false) (exampleSocks "a") .linux =
          some (.ok contexts) ∧
      generateSingboxConfig exampleCrates 2 contexts.main = some (.ok singbox) ∧
      (PortsValid (portConfig 10808 false) singbox ↔ PortsFit (portSettings 10808 false)
        (exampleSocks "a") (mainCarriesTun (loadRuntimeCoreGenEnv portData ∅
          (portConfig 10808 false) .linux) (portConfig 10808 false) (exampleSocks "a")
            .linux)) := by
  have hports : ∀ item ∈ (portSettings 10808 false).network.inbounds, I32 item.localPort := by
    intro item hitem
    rw [List.mem_singleton.mp hitem]
    unfold I32
    decide
  exact ⟨_, _, by rfl, by rfl, @portsValid_iff (portSettings 10808 false) {}
    (portConfig 10808 false) (exampleSocks "a") exampleCrates 2 _ portData ∅ .linux 2 _ hports
    (portConfig_read 10808 false) (by rfl) (by rfl)⟩

/-- Local ports that are accepted: one with a controller above the last port, and one with a tunnel
on Linux, where the clients do not find the controller of the main core. -/
theorem ports_not_valid :
    (validateAppSettings (fun _ => none) (portSettings 65533 false) = .ok ⟨⟩ ∧
      ∃ contexts singbox, connectContexts exampleCrates (loadRuntimeCoreGenEnv portData ∅
          (portConfig 65533 false) .linux) 2 (portConfig 65533 false) (exampleSocks "a") .linux =
            some (.ok contexts) ∧
        generateSingboxConfig exampleCrates 2 contexts.main = some (.ok singbox) ∧
        externalController singbox = some "127.0.0.1:65538" ∧
        statisticsPort (portConfig 65533 false) = some 65535 ∧
        ¬PortsValid (portConfig 65533 false) singbox) ∧
    (validateAppSettings (fun _ => none) (portSettings 10808 true) = .ok ⟨⟩ ∧
      ∃ contexts singbox, connectContexts exampleCrates (loadRuntimeCoreGenEnv portData ∅
          (portConfig 10808 true) .linux) 2 (portConfig 10808 true) (exampleSocks "a") .linux =
            some (.ok contexts) ∧
        generateSingboxConfig exampleCrates 2 contexts.main = some (.ok singbox) ∧
        externalController singbox = some "127.0.0.1:10813" ∧
        statisticsPort (portConfig 10808 true) = some 10814 ∧
        ¬PortsValid (portConfig 10808 true) singbox) := by
  refine ⟨⟨by decide +kernel, _, _, by rfl, by rfl, by rfl, by decide +kernel, fun hvalid => ?_⟩,
    ⟨by decide +kernel, _, _, by rfl, by rfl, by rfl, by decide +kernel, fun hvalid => ?_⟩⟩
  · obtain ⟨port, hcontroller, _, _, hclient, _⟩ := hvalid.controller
    have hport : some port = some 65535 := hclient.symm.trans (by decide +kernel)
    cases hport
    exact absurd hcontroller (by decide +kernel)
  · obtain ⟨port, hcontroller, _, _, hclient, _⟩ := hvalid.controller
    have hport : some port = some 10814 := hclient.symm.trans (by decide +kernel)
    cases hport
    exact absurd hcontroller (by decide +kernel)

end Samples

end ListenPorts
