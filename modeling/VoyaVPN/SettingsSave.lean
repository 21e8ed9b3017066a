import VoyaVPN.AppConfig
import VoyaVPN.RustText

/-! The stored settings: what a configuration is saved as and how it is read back. -/
namespace SettingsSave

open Entities AppConfig

def currentSchemaVersion : Nat := 1

inductive ThemeMode where
  | system
  | light
  | dark
  deriving DecidableEq, Repr

structure AppearanceSettings where
  language : String := "en"
  theme : ThemeMode := .system
  deriving DecidableEq, Repr

structure BehaviorSettings where
  autostart : Bool := false
  statistics : Bool := false
  realtimeSpeed : Bool := false
  deriving DecidableEq, Repr

structure CoreSettings where
  logEnabled : Bool := false
  logLevel : String := "warning"
  muxEnabled : Bool := false
  defaultAllowInsecure : Bool := false
  defaultFingerprint : String := ""
  defaultUserAgent : String := ""
  sendThrough : Option String := none
  bindInterface : Option String := none
  fragmentEnabled : Bool := false
  cacheFileEnabled : Bool := true
  deriving DecidableEq, Repr

structure TunSettings where
  enabled : Bool := false
  autoRoute : Bool := true
  strictRoute : Bool := false
  stack : String := ""
  mtu : Int := 1500
  ipv6Enabled : Bool := false
  icmpRouting : String := "rule"
  deriving DecidableEq, Repr

structure InboundSettings where
  localPort : Int := 10808
  protocol : String := "socks"
  sniffingEnabled : Bool := true
  lanConnectionsAllowed : Bool := false
  separateLanPort : Bool := false
  username : String := ""
  password : String := ""
  secondaryPortEnabled : Bool := false
  deriving DecidableEq, Repr

structure SystemProxySettings where
  mode : String := "forcedClear"
  exceptions : String := ""
  bypassLocal : Bool := false
  advancedProtocol : String := ""
  customPacPath : Option String := none
  customScriptPath : Option String := none
  deriving DecidableEq, Repr

structure NetworkSettings where
  tun : TunSettings := {}
  systemProxy : SystemProxySettings := {}
  inbounds : List InboundSettings := [{}]
  deriving DecidableEq, Repr

structure RoutingSettings where
  domainStrategy : String := "AsIs"
  singboxDomainStrategy : String := ""
  deriving DecidableEq, Repr

structure AppDnsSettings where
  useSystemHosts : Option Bool := none
  addCommonHosts : Option Bool := none
  fakeIp : Option Bool := none
  globalFakeIp : Option Bool := none
  blockBindingQuery : Option Bool := none
  direct : Option String := none
  remote : Option String := none
  bootstrap : Option String := none
  directStrategy : Option String := none
  proxyStrategy : Option String := none
  serveStale : Option Bool := none
  parallelQuery : Option Bool := none
  hosts : Option String := none
  directExpectedIps : Option String := none
  deriving DecidableEq, Repr

structure SourceSettings where
  subscriptionConverter : Option String := none
  geo : Option String := none
  singboxRuleset : Option String := none
  routingTemplate : Option String := none
  deriving DecidableEq, Repr

structure SpeedTestSettings where
  timeoutSeconds : Int := 10
  downloadUrl : String := "https://cachefly.cachefly.net/50mb.test"
  latencyUrl : String := "https://www.google.com/generate_204"
  mixedConcurrency : Int := 5
  ipLookupUrl : String := ""
  udpTarget : String := "ntp:pool.ntp.org"
  pageSize : Option Int := none
  delayIntervalMs : Option Int := none
  deriving DecidableEq, Repr

structure MultiplexingSettings where
  protocol : String := "h2mux"
  maxConnections : Int := 8
  padding : Option Bool := none
  deriving DecidableEq, Repr

structure GrpcSettings where
  idleTimeoutSeconds : Option Int := some 60
  healthCheckTimeoutSeconds : Option Int := some 20
  permitWithoutStream : Option Bool := some false
  deriving DecidableEq, Repr

structure HysteriaSettings where
  uploadMbps : Int := 100
  downloadMbps : Int := 100
  hopIntervalSeconds : Int := 30
  deriving DecidableEq, Repr

structure ProxySettings where
  trafficMode : String := "rule"
  nodeSorting : Int := 0
  deriving DecidableEq, Repr

structure ShortcutChord where
  alt : Bool
  control : Bool
  shift : Bool
  keyCode : Int
  deriving DecidableEq, Repr

structure ShortcutSettings where
  showWindowShortcut : Option ShortcutChord := none
  deriving DecidableEq, Repr

structure AppSettingsV1 where
  schemaVersion : Nat := currentSchemaVersion
  appearance : AppearanceSettings := {}
  behavior : BehaviorSettings := {}
  core : CoreSettings := {}
  network : NetworkSettings := {}
  routing : RoutingSettings := {}
  dns : AppDnsSettings := {}
  sources : SourceSettings := {}
  speedTest : SpeedTestSettings := {}
  multiplexing : MultiplexingSettings := {}
  grpc : GrpcSettings := {}
  hysteria : HysteriaSettings := {}
  proxy : ProxySettings := {}
  shortcuts : ShortcutSettings := {}
  deriving DecidableEq, Repr

structure AppStateRecord where
  activeProfileId : Option String := none
  activeRoutingId : Option String := none
  deriving DecidableEq, Repr

/-- A value of the stored settings that stands for none of the choices of its field. -/
structure SettingsContractError where
  field : String
  value : String
  deriving DecidableEq, Repr

def themeToConfig : ThemeMode → String
  | .system => "FollowSystem"
  | .light => "Light"
  | .dark => "Dark"

def themeFromConfig (value : Option String) : ThemeMode :=
  match value.map RustText.toAsciiLowercase with
  | some "light" => .light
  | some "dark" => .dark
  | _ => .system

def systemProxyModeToStr : SysProxyType → String
  | .forcedClear => "forcedClear"
  | .forcedChange => "forcedChange"
  | .unchanged => "unchanged"
  | .pac => "pac"

def systemProxyModeFromStr (value : String) : Except SettingsContractError SysProxyType :=
  match value with
  | "forcedClear" => .ok .forcedClear
  | "forcedChange" => .ok .forcedChange
  | "unchanged" => .ok .unchanged
  | "pac" => .ok .pac
  | _ => .error { field := "network.systemProxy.mode", value }

def trafficModeToStr : TrafficMode → String
  | .rule => "rule"
  | .global => "global"
  | .direct => "direct"
  | .unchanged => "unchanged"

def trafficModeFromStr (value : String) : Except SettingsContractError TrafficMode :=
  match value with
  | "rule" => .ok .rule
  | "global" => .ok .global
  | "direct" => .ok .direct
  | "unchanged" => .ok .unchanged
  | _ => .error { field := "proxy.trafficMode", value }

theorem themeFromConfig_themeToConfig (theme : ThemeMode) :
    themeFromConfig (some (themeToConfig theme)) = theme := by
  cases theme <;> decide

theorem systemProxyModeToStr_of_fromStr {value : String} {mode : SysProxyType}
    (h : systemProxyModeFromStr value = .ok mode) : systemProxyModeToStr mode = value := by
  unfold systemProxyModeFromStr at h
  split at h <;> cases h <;> rfl

theorem trafficModeToStr_of_fromStr {value : String} {mode : TrafficMode}
    (h : trafficModeFromStr value = .ok mode) : trafficModeToStr mode = value := by
  unfold trafficModeFromStr at h
  split at h <;> cases h <;> rfl

def inboundToSettings (item : InItem) : InboundSettings :=
  { localPort := item.localPort, protocol := item.protocol, sniffingEnabled := item.sniffingEnabled,
    lanConnectionsAllowed := item.allowLanConn, separateLanPort := item.newPort4Lan,
    username := item.user, password := item.pass,
    secondaryPortEnabled := item.secondLocalPortEnabled }

def inboundFromSettings (item : InboundSettings) : InItem :=
  { localPort := item.localPort, protocol := item.protocol, sniffingEnabled := item.sniffingEnabled,
    allowLanConn := item.lanConnectionsAllowed, newPort4Lan := item.separateLanPort,
    user := item.username, pass := item.password,
    secondLocalPortEnabled := item.secondaryPortEnabled }

def shortcutToSettings (shortcut : Option KeyEventItem) : Option ShortcutChord :=
  shortcut.bind fun item => item.keyCode.map fun keyCode =>
    { alt := item.alt, control := item.control, shift := item.shift, keyCode }

def shortcutFromSettings (shortcut : Option ShortcutChord) : Option KeyEventItem :=
  shortcut.map fun chord =>
    { alt := chord.alt, control := chord.control, shift := chord.shift,
      keyCode := some chord.keyCode }

theorem inboundToSettings_fromSettings (item : InboundSettings) :
    inboundToSettings (inboundFromSettings item) = item := rfl

theorem shortcutToSettings_fromSettings (shortcut : Option ShortcutChord) :
    shortcutToSettings (shortcutFromSettings shortcut) = shortcut := by
  cases shortcut <;> rfl

def settingsFromAppConfig (config : Config) : AppSettingsV1 :=
  { schemaVersion := currentSchemaVersion
    appearance :=
      { language := config.uiItem.currentLanguage
        theme := themeFromConfig config.uiItem.currentTheme }
    behavior :=
      { autostart := config.guiItem.autoRun
        statistics := config.guiItem.enableStatistics
        realtimeSpeed := config.guiItem.displayRealTimeSpeed }
    core :=
      { logEnabled := config.coreBasicItem.logEnabled
        logLevel := config.coreBasicItem.loglevel
        muxEnabled := config.coreBasicItem.muxEnabled
        defaultAllowInsecure := config.coreBasicItem.defAllowInsecure
        defaultFingerprint := config.coreBasicItem.defFingerprint
        defaultUserAgent := config.coreBasicItem.defUserAgent
        sendThrough := config.coreBasicItem.sendThrough
        bindInterface := config.coreBasicItem.bindInterface
        fragmentEnabled := config.coreBasicItem.enableFragment
        cacheFileEnabled := config.coreBasicItem.enableCacheFile4Sbox }
    network :=
      { tun :=
          { enabled := config.tunModeItem.enableTun
            autoRoute := config.tunModeItem.autoRoute
            strictRoute := config.tunModeItem.strictRoute
            stack := config.tunModeItem.stack
            mtu := config.tunModeItem.mtu
            ipv6Enabled := config.tunModeItem.enableIpv6Address
            icmpRouting := config.tunModeItem.icmpRouting }
        systemProxy :=
          { mode := systemProxyModeToStr config.systemProxyItem.sysProxyType
            exceptions := config.systemProxyItem.systemProxyExceptions
            bypassLocal := config.systemProxyItem.notProxyLocalAddress
            advancedProtocol := config.systemProxyItem.systemProxyAdvancedProtocol
            customPacPath := config.systemProxyItem.customSystemProxyPacPath
            customScriptPath := config.systemProxyItem.customSystemProxyScriptPath }
        inbounds := config.inbound.map inboundToSettings }
    routing :=
      { domainStrategy := config.routingBasicItem.domainStrategy
        singboxDomainStrategy := config.routingBasicItem.domainStrategy4Singbox }
    dns :=
      { useSystemHosts := config.simpleDnsItem.useSystemHosts
        addCommonHosts := config.simpleDnsItem.addCommonHosts
        fakeIp := config.simpleDnsItem.fakeIp
        globalFakeIp := config.simpleDnsItem.globalFakeIp
        blockBindingQuery := config.simpleDnsItem.blockBindingQuery
        direct := config.simpleDnsItem.directDns
        remote := config.simpleDnsItem.remoteDns
        bootstrap := config.simpleDnsItem.bootstrapDns
        directStrategy := config.simpleDnsItem.strategy4Freedom
        proxyStrategy := config.simpleDnsItem.strategy4Proxy
        serveStale := config.simpleDnsItem.serveStale
        parallelQuery := config.simpleDnsItem.parallelQuery
        hosts := config.simpleDnsItem.hosts
        directExpectedIps := config.simpleDnsItem.directExpectedIps }
    sources :=
      { subscriptionConverter := config.constItem.subConvertUrl
        geo := config.constItem.geoSourceUrl
        singboxRuleset := config.constItem.srsSourceUrl
        routingTemplate := config.constItem.routeRulesTemplateSourceUrl }
    speedTest :=
      { timeoutSeconds := config.speedTestItem.speedTestTimeout
        downloadUrl := config.speedTestItem.speedTestUrl
        latencyUrl := config.speedTestItem.speedPingTestUrl
        mixedConcurrency := config.speedTestItem.mixedConcurrencyCount
        ipLookupUrl := config.speedTestItem.ipapiUrl
        udpTarget := config.speedTestItem.udpTestTarget
        pageSize := config.speedTestItem.speedTestPageSize
        delayIntervalMs := config.speedTestItem.speedTestDelayInterval }
    multiplexing :=
      { protocol := config.mux4SboxItem.protocol
        maxConnections := config.mux4SboxItem.maxConnections
        padding := config.mux4SboxItem.padding }
    grpc :=
      { idleTimeoutSeconds := config.grpcItem.idleTimeout
        healthCheckTimeoutSeconds := config.grpcItem.healthCheckTimeout
        permitWithoutStream := config.grpcItem.permitWithoutStream }
    hysteria :=
      { uploadMbps := config.hysteriaItem.upMbps
        downloadMbps := config.hysteriaItem.downMbps
        hopIntervalSeconds := config.hysteriaItem.hopInterval }
    proxy :=
      { trafficMode := trafficModeToStr config.proxyUiItem.trafficMode
        nodeSorting := config.proxyUiItem.nodeSorting }
    shortcuts := { showWindowShortcut := shortcutToSettings config.showWindowShortcut } }

def appConfigFromSettings (settings : AppSettingsV1) (state : AppStateRecord) :
    Except SettingsContractError Config := do
  let systemProxyType ← systemProxyModeFromStr settings.network.systemProxy.mode
  let trafficMode ← trafficModeFromStr settings.proxy.trafficMode
  return {
    indexId := state.activeProfileId.getD ""
    subIndexId := ""
    coreBasicItem :=
      { logEnabled := settings.core.logEnabled
        loglevel := settings.core.logLevel
        muxEnabled := settings.core.muxEnabled
        defAllowInsecure := settings.core.defaultAllowInsecure
        defFingerprint := settings.core.defaultFingerprint
        defUserAgent := settings.core.defaultUserAgent
        sendThrough := settings.core.sendThrough
        bindInterface := settings.core.bindInterface
        enableFragment := settings.core.fragmentEnabled
        enableCacheFile4Sbox := settings.core.cacheFileEnabled }
    tunModeItem :=
      { enableTun := settings.network.tun.enabled
        autoRoute := settings.network.tun.autoRoute
        strictRoute := settings.network.tun.strictRoute
        stack := settings.network.tun.stack
        mtu := settings.network.tun.mtu
        enableIpv6Address := settings.network.tun.ipv6Enabled
        icmpRouting := settings.network.tun.icmpRouting }
    grpcItem :=
      { idleTimeout := settings.grpc.idleTimeoutSeconds
        healthCheckTimeout := settings.grpc.healthCheckTimeoutSeconds
        permitWithoutStream := settings.grpc.permitWithoutStream }
    routingBasicItem :=
      { domainStrategy := settings.routing.domainStrategy
        domainStrategy4Singbox := settings.routing.singboxDomainStrategy
        routingIndexId := state.activeRoutingId.getD "" }
    guiItem :=
      { autoRun := settings.behavior.autostart
        enableStatistics := settings.behavior.statistics
        displayRealTimeSpeed := settings.behavior.realtimeSpeed }
    uiItem :=
      { currentTheme := some (themeToConfig settings.appearance.theme)
        currentLanguage := settings.appearance.language }
    constItem :=
      { subConvertUrl := settings.sources.subscriptionConverter
        geoSourceUrl := settings.sources.geo
        srsSourceUrl := settings.sources.singboxRuleset
        routeRulesTemplateSourceUrl := settings.sources.routingTemplate }
    speedTestItem :=
      { speedTestTimeout := settings.speedTest.timeoutSeconds
        speedTestUrl := settings.speedTest.downloadUrl
        speedPingTestUrl := settings.speedTest.latencyUrl
        mixedConcurrencyCount := settings.speedTest.mixedConcurrency
        ipapiUrl := settings.speedTest.ipLookupUrl
        udpTestTarget := settings.speedTest.udpTarget
        speedTestPageSize := settings.speedTest.pageSize
        speedTestDelayInterval := settings.speedTest.delayIntervalMs }
    mux4SboxItem :=
      { protocol := settings.multiplexing.protocol
        maxConnections := settings.multiplexing.maxConnections
        padding := settings.multiplexing.padding }
    hysteriaItem :=
      { upMbps := settings.hysteria.uploadMbps
        downMbps := settings.hysteria.downloadMbps
        hopInterval := settings.hysteria.hopIntervalSeconds }
    proxyUiItem := { trafficMode, nodeSorting := settings.proxy.nodeSorting }
    systemProxyItem :=
      { sysProxyType := systemProxyType
        systemProxyExceptions := settings.network.systemProxy.exceptions
        notProxyLocalAddress := settings.network.systemProxy.bypassLocal
        systemProxyAdvancedProtocol := settings.network.systemProxy.advancedProtocol
        customSystemProxyPacPath := settings.network.systemProxy.customPacPath
        customSystemProxyScriptPath := settings.network.systemProxy.customScriptPath }
    inbound := settings.network.inbounds.map inboundFromSettings
    showWindowShortcut := shortcutFromSettings settings.shortcuts.showWindowShortcut
    simpleDnsItem :=
      { useSystemHosts := settings.dns.useSystemHosts
        addCommonHosts := settings.dns.addCommonHosts
        fakeIp := settings.dns.fakeIp
        globalFakeIp := settings.dns.globalFakeIp
        blockBindingQuery := settings.dns.blockBindingQuery
        directDns := settings.dns.direct
        remoteDns := settings.dns.remote
        bootstrapDns := settings.dns.bootstrap
        strategy4Freedom := settings.dns.directStrategy
        strategy4Proxy := settings.dns.proxyStrategy
        serveStale := settings.dns.serveStale
        parallelQuery := settings.dns.parallelQuery
        hosts := settings.dns.hosts
        directExpectedIps := settings.dns.directExpectedIps } }

theorem ok_of_bind_ok {ε α β : Type} {action : Except ε α} {next : α → Except ε β} {result : β}
    (h : (action >>= next) = .ok result) :
    ∃ value, action = .ok value ∧ next value = .ok result := by
  cases action with
  | error error => cases h
  | ok value => exact ⟨value, rfl, h⟩

theorem ok_of_mapError_ok {ε ε' α : Type} {action : Except ε α} {onError : ε → ε'} {result : α}
    (h : action.mapError onError = .ok result) : action = .ok result := by
  cases action with
  | error error => cases h
  | ok value => cases h; rfl

/-- Settings that are read into a configuration are what the configuration is saved as. -/
theorem settingsFromAppConfig_of_appConfigFromSettings {settings : AppSettingsV1}
    {state : AppStateRecord} {config : Config}
    (h : appConfigFromSettings settings state = .ok config)
    (hversion : settings.schemaVersion = currentSchemaVersion) :
    settingsFromAppConfig config = settings := by
  obtain ⟨mode, hmode, h⟩ := ok_of_bind_ok h
  obtain ⟨traffic, htraffic, h⟩ := ok_of_bind_ok h
  cases h
  have hinbounds : (settings.network.inbounds.map inboundFromSettings).map inboundToSettings =
      settings.network.inbounds := by
    rw [List.map_map]
    exact List.map_id'' inboundToSettings_fromSettings settings.network.inbounds
  simp only [settingsFromAppConfig, themeFromConfig_themeToConfig, hinbounds,
    systemProxyModeToStr_of_fromStr hmode, trafficModeToStr_of_fromStr htraffic,
    shortcutToSettings_fromSettings]
  rw [← hversion]

theorem ids_of_appConfigFromSettings {settings : AppSettingsV1} {state : AppStateRecord}
    {config : Config} (h : appConfigFromSettings settings state = .ok config) :
    config.indexId = state.activeProfileId.getD "" ∧
      config.routingBasicItem.routingIndexId = state.activeRoutingId.getD "" := by
  obtain ⟨mode, hmode, h⟩ := ok_of_bind_ok h
  obtain ⟨traffic, htraffic, h⟩ := ok_of_bind_ok h
  cases h
  exact ⟨rfl, rfl⟩

end SettingsSave
