import VoyaVPN.Entities

/-! The application configuration, with the defaults of a fresh installation. -/
namespace AppConfig

open Entities

def defaultLocalPort : Int := 10808
def defaultLogLevel : String := "warning"
def defaultDomainStrategy : String := "AsIs"
def defaultTunIcmpRouting : String := "rule"
def defaultLanguage : String := "en"
def defaultSpeedTestUrl : String := "https://cachefly.cachefly.net/50mb.test"
def defaultSpeedPingTestUrl : String := "https://www.google.com/generate_204"
def defaultUdpTestTarget : String := "ntp:pool.ntp.org"
def defaultSingboxMux : String := "h2mux"
def defaultSystemProxyExceptions : String := "localhost,127.0.0.0/8,::1"
def defaultDirectDns : String := "119.29.29.29"
def defaultRemoteDns : String := "https://cloudflare-dns.com/dns-query"
def defaultBootstrapDns : String := "119.29.29.29"

structure CoreBasicItem where
  logEnabled : Bool := false
  loglevel : String := defaultLogLevel
  muxEnabled : Bool := false
  defAllowInsecure : Bool := false
  defFingerprint : String := ""
  defUserAgent : String := ""
  sendThrough : Option String := none
  bindInterface : Option String := none
  enableFragment : Bool := false
  enableCacheFile4Sbox : Bool := true
  deriving DecidableEq, Repr

structure InItem where
  localPort : Int := defaultLocalPort
  protocol : String := "socks"
  sniffingEnabled : Bool := true
  allowLanConn : Bool := false
  newPort4Lan : Bool := false
  user : String := ""
  pass : String := ""
  secondLocalPortEnabled : Bool := false
  deriving DecidableEq, Repr

structure GrpcItem where
  idleTimeout : Option Int := some 60
  healthCheckTimeout : Option Int := some 20
  permitWithoutStream : Option Bool := some false
  deriving DecidableEq, Repr

structure GuiItem where
  autoRun : Bool := false
  enableStatistics : Bool := false
  displayRealTimeSpeed : Bool := false
  deriving DecidableEq, Repr

structure UiItem where
  currentTheme : Option String := none
  currentLanguage : String := defaultLanguage
  deriving DecidableEq, Repr

structure ConstItem where
  subConvertUrl : Option String := none
  geoSourceUrl : Option String := none
  srsSourceUrl : Option String := none
  routeRulesTemplateSourceUrl : Option String := none
  deriving DecidableEq, Repr

structure SpeedTestItem where
  speedTestTimeout : Int := 10
  speedTestUrl : String := defaultSpeedTestUrl
  speedPingTestUrl : String := defaultSpeedPingTestUrl
  mixedConcurrencyCount : Int := 5
  ipapiUrl : String := ""
  udpTestTarget : String := defaultUdpTestTarget
  speedTestPageSize : Option Int := none
  speedTestDelayInterval : Option Int := none
  deriving DecidableEq, Repr

structure RoutingBasicItem where
  domainStrategy : String := defaultDomainStrategy
  domainStrategy4Singbox : String := ""
  routingIndexId : String := ""
  deriving DecidableEq, Repr

structure Mux4SboxItem where
  protocol : String := defaultSingboxMux
  maxConnections : Int := 8
  padding : Option Bool := none
  deriving DecidableEq, Repr

structure HysteriaItem where
  upMbps : Int := 100
  downMbps : Int := 100
  hopInterval : Int := 30
  deriving DecidableEq, Repr

structure ProxyUiItem where
  trafficMode : TrafficMode := .rule
  nodeSorting : Int := 0
  deriving DecidableEq, Repr

structure SystemProxyItem where
  sysProxyType : SysProxyType := .forcedClear
  systemProxyExceptions : String := defaultSystemProxyExceptions
  notProxyLocalAddress : Bool := true
  systemProxyAdvancedProtocol : String := ""
  customSystemProxyPacPath : Option String := none
  customSystemProxyScriptPath : Option String := none
  deriving DecidableEq, Repr

structure KeyEventItem where
  alt : Bool := false
  control : Bool := false
  shift : Bool := false
  keyCode : Option Int := none
  deriving DecidableEq, Repr

structure TunModeItem where
  enableTun : Bool := false
  autoRoute : Bool := true
  strictRoute : Bool := false
  stack : String := ""
  mtu : Int := 1500
  enableIpv6Address : Bool := false
  icmpRouting : String := defaultTunIcmpRouting
  deriving DecidableEq, Repr

structure SimpleDnsItem where
  useSystemHosts : Option Bool := some false
  addCommonHosts : Option Bool := some true
  fakeIp : Option Bool := some false
  globalFakeIp : Option Bool := some true
  blockBindingQuery : Option Bool := some true
  directDns : Option String := some defaultDirectDns
  remoteDns : Option String := some defaultRemoteDns
  bootstrapDns : Option String := some defaultBootstrapDns
  strategy4Freedom : Option String := none
  strategy4Proxy : Option String := none
  serveStale : Option Bool := some false
  parallelQuery : Option Bool := some false
  hosts : Option String := none
  directExpectedIps : Option String := none
  deriving DecidableEq, Repr

structure Config where
  indexId : String := ""
  subIndexId : String := ""
  coreBasicItem : CoreBasicItem := {}
  tunModeItem : TunModeItem := {}
  grpcItem : GrpcItem := {}
  routingBasicItem : RoutingBasicItem := {}
  guiItem : GuiItem := {}
  uiItem : UiItem := {}
  constItem : ConstItem := {}
  speedTestItem : SpeedTestItem := {}
  mux4SboxItem : Mux4SboxItem := {}
  hysteriaItem : HysteriaItem := {}
  proxyUiItem : ProxyUiItem := {}
  systemProxyItem : SystemProxyItem := {}
  inbound : List InItem := [{}]
  showWindowShortcut : Option KeyEventItem := none
  simpleDnsItem : SimpleDnsItem := {}
  deriving DecidableEq, Repr

/-- The saved settings a running core must be restarted for. -/
def savedConfigRequiresRuntimeRestart (original updated : Config) : Bool :=
  decide (original.indexId ≠ updated.indexId
    ∨ original.subIndexId ≠ updated.subIndexId
    ∨ original.coreBasicItem ≠ updated.coreBasicItem
    ∨ original.tunModeItem ≠ updated.tunModeItem
    ∨ original.grpcItem ≠ updated.grpcItem
    ∨ original.routingBasicItem ≠ updated.routingBasicItem
    ∨ original.mux4SboxItem ≠ updated.mux4SboxItem
    ∨ original.hysteriaItem ≠ updated.hysteriaItem
    ∨ original.proxyUiItem ≠ updated.proxyUiItem
    ∨ original.inbound ≠ updated.inbound
    ∨ original.simpleDnsItem ≠ updated.simpleDnsItem)

end AppConfig
