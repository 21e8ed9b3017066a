import VoyaVPN.JsonValue

/-! The sing-box configuration schema, with the defaults of the serialised form. -/
namespace SingboxSchema

open JsonValue (Value)

def proxyTag : String := "proxy"
def directTag : String := "direct"
def blockTag : String := "block"
def loopback : String := "127.0.0.1"

structure SingboxLog where
  disabled : Option Bool := none
  level : String := "debug"
  output : Option String := none
  timestamp : Option Bool := some true

structure SingboxRuleFields where
  outbound : Option String := none
  server : Option String := none
  disableCache : Option Bool := none
  type : Option String := none
  mode : Option String := none
  action : Option String := none
  clientSubnet : Option String := none
  rewriteTtl : Option Int := none
  method : Option String := none
  invert : Option Bool := none
  clashMode : Option String := none
  inbound : Option (List String) := none
  protocol : Option (List String) := none
  network : Option (List String) := none
  port : Option (List Int) := none
  portRange : Option (List String) := none
  geosite : Option (List String) := none
  domain : Option (List String) := none
  domainSuffix : Option (List String) := none
  domainKeyword : Option (List String) := none
  domainRegex : Option (List String) := none
  geoip : Option (List String) := none
  ipCidr : Option (List String) := none
  ipIsPrivate : Option Bool := none
  processName : Option (List String) := none
  processPath : Option (List String) := none
  ruleSet : Option (List String) := none
  strategy : Option String := none
  rcode : Option String := none
  queryType : Option (List Int) := none
  answer : Option (List String) := none
  ns : Option (List String) := none
  extra : Option (List String) := none
  ipAcceptAny : Option Bool := none
  sourcePort : Option Int := none
  deriving DecidableEq, Repr

/-- A route or DNS rule. The fields other than the nested rules of a logical rule are
grouped, so that recursion over nested rules is structural. -/
structure SingboxRule extends SingboxRuleFields where
  rules : Option (List SingboxRule) := none

structure SingboxRuleset where
  tag : Option String := none
  type : Option String := none
  format : Option String := none
  path : Option String := none
  url : Option String := none
  downloadDetour : Option String := none
  updateInterval : Option String := none
  deriving DecidableEq, Repr

structure SingboxRoute where
  defaultDomainResolver : Option SingboxRule := none
  autoDetectInterface : Option Bool := none
  rules : List SingboxRule := []
  ruleSet : Option (List SingboxRuleset) := none
  finalOutbound : Option String := none

structure SingboxHeaders where
  host : Option String := none
  userAgent : Option String := none
  deriving DecidableEq, Repr

structure SingboxDnsServer where
  type : String := "udp"
  tag : String := ""
  inet4Range : Option String := none
  inet6Range : Option String := none
  clientSubnet : Option String := none
  server : Option String := none
  domainResolver : Option String := none
  interfaceName : Option String := none
  serverPort : Option Int := none
  path : Option String := none
  headers : Option SingboxHeaders := none
  predefined : Option (Std.ExtTreeMap String (List String)) := none
  detour : Option String := none

structure SingboxDns where
  servers : List SingboxDnsServer := []
  rules : List SingboxRule := []
  finalServer : Option String := none
  strategy : Option String := none
  disableCache : Option Bool := none
  independentCache : Option Bool := none
  reverseMapping : Option Bool := none
  clientSubnet : Option String := none

structure SingboxTunHttpProxy where
  enabled : Bool := false
  server : Option String := none
  serverPort : Option Int := none

structure SingboxTunPlatform where
  httpProxy : Option SingboxTunHttpProxy := none

structure SingboxUser where
  username : String := ""
  password : String := ""

structure SingboxInbound where
  type : String := "mixed"
  tag : String := "socks"
  listen : Option String := some loopback
  listenPort : Option Int := none
  interfaceName : Option String := none
  address : Option (List String) := none
  mtu : Option Int := none
  autoRoute : Option Bool := none
  strictRoute : Option Bool := none
  endpointIndependentNat : Option Bool := none
  stack : Option String := none
  platform : Option SingboxTunPlatform := none
  users : Option (List SingboxUser) := none

structure SingboxEch where
  enabled : Bool := true
  config : Option (List String) := none
  queryServerName : Option String := none

structure SingboxUtls where
  enabled : Bool := true
  fingerprint : String := ""

structure SingboxReality where
  enabled : Bool := true
  publicKey : String := ""
  shortId : String := ""

structure SingboxTls where
  enabled : Bool := true
  serverName : Option String := none
  insecure : Option Bool := none
  alpn : Option (List String) := none
  utls : Option SingboxUtls := none
  reality : Option SingboxReality := none
  recordFragment : Option Bool := none
  certificate : Option (List String) := none
  ech : Option SingboxEch := none

structure SingboxMultiplex where
  enabled : Bool := true
  protocol : String := "h2mux"
  maxConnections : Int := 8
  padding : Option Bool := none

structure SingboxTransport where
  type : Option String := none
  host : Option Value := none
  path : Option String := none
  headers : Option SingboxHeaders := none
  serviceName : Option String := none
  idleTimeout : Option String := none
  pingTimeout : Option String := none
  permitWithoutStream : Option Bool := none
  maxEarlyData : Option Int := none
  earlyDataHeaderName : Option String := none

structure SingboxHyObfs where
  type : Option String := none
  password : Option String := none

structure SingboxOutbound where
  type : String := "vless"
  tag : String := proxyTag
  server : Option String := none
  serverPort : Option Int := none
  serverPorts : Option (List String) := none
  uuid : Option String := none
  security : Option String := none
  alterId : Option Int := none
  flow : Option String := none
  hopInterval : Option String := none
  upMbps : Option Int := none
  downMbps : Option Int := none
  password : Option String := none
  method : Option String := none
  username : Option String := none
  version : Option String := none
  congestionControl : Option String := none
  quic : Option Bool := none
  quicCongestionControl : Option String := none
  insecureConcurrency : Option Int := none
  udpOverTcp : Option Bool := none
  packetEncoding : Option String := none
  plugin : Option String := none
  pluginOpts : Option String := none
  outbounds : Option (List String) := none
  interruptExistConnections : Option Bool := none
  tolerance : Option Int := none
  detour : Option String := none
  bindInterface : Option String := none
  inet4BindAddress : Option String := none
  tls : Option SingboxTls := none
  multiplex : Option SingboxMultiplex := none
  transport : Option SingboxTransport := none
  obfs : Option SingboxHyObfs := none

def SingboxOutbound.direct : SingboxOutbound := { type := directTag, tag := directTag }

structure SingboxPeer where
  address : String := ""
  port : Int := 0
  publicKey : String := ""
  preSharedKey : Option String := none
  allowedIps : List String := []
  persistentKeepaliveInterval : Option Int := none
  reserved : Option (List Int) := none

structure SingboxEndpoint where
  type : String := "wireguard"
  tag : String := proxyTag
  system : Option Bool := none
  name : Option String := none
  mtu : Option Int := none
  address : List String := []
  privateKey : String := ""
  listenPort : Option Int := none
  udpTimeout : Option String := none
  workers : Option Int := none
  peers : List SingboxPeer := []
  detour : Option String := none
  bindInterface : Option String := none
  inet4BindAddress : Option String := none

structure SingboxClashApi where
  externalController : Option String := none
  storeSelected : Option Bool := none

structure SingboxCacheFile where
  enabled : Bool := true
  path : Option String := none
  cacheId : Option String := none
  storeFakeip : Option Bool := none

structure SingboxExperimental where
  cacheFile : Option SingboxCacheFile := none
  clashApi : Option SingboxClashApi := none

structure SingboxConfig where
  log : Option SingboxLog
  dns : Option SingboxDns
  inbounds : List SingboxInbound
  outbounds : List SingboxOutbound
  endpoints : List SingboxEndpoint
  route : SingboxRoute
  experimental : Option SingboxExperimental

def SingboxConfig.sample : SingboxConfig where
  log := some { disabled := none, level := "debug", output := none, timestamp := some true }
  dns := none
  inbounds := []
  outbounds := [.direct]
  endpoints := []
  route := {}
  experimental := none

inductive SingboxConfigError where
  | customRulesetJson (message : String)
  | customRulesetMissingRequiredFields (index : Nat)
  | invalidNodePort (remarks : String) (port : Int)
  | missingWireGuardPublicKey (remarks : String)
  deriving DecidableEq, Repr

end SingboxSchema
