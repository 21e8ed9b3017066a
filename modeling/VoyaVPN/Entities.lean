import VoyaVPN.RustText

/-! The stored entities: profiles with their protocol, transport and TLS data,
subscriptions, and routing profiles with their rule lists. -/
namespace Entities

inductive ConfigType where
  | vmess
  | custom
  | shadowsocks
  | socks
  | vless
  | trojan
  | hysteria2
  | tuic
  | wireGuard
  | http
  | anytls
  | naive
  | policyGroup
  | proxyChain
  deriving DecidableEq, Repr

def ConfigType.isComplexType : ConfigType → Bool
  | .custom | .policyGroup | .proxyChain => true
  | _ => false

def ConfigType.isGroupType : ConfigType → Bool
  | .policyGroup | .proxyChain => true
  | _ => false

/-- The derived `Debug` text, which two validation messages quote. -/
def ConfigType.debug : ConfigType → String
  | .vmess => "VMess"
  | .custom => "Custom"
  | .shadowsocks => "Shadowsocks"
  | .socks => "SOCKS"
  | .vless => "VLESS"
  | .trojan => "Trojan"
  | .hysteria2 => "Hysteria2"
  | .tuic => "TUIC"
  | .wireGuard => "WireGuard"
  | .http => "HTTP"
  | .anytls => "Anytls"
  | .naive => "Naive"
  | .policyGroup => "PolicyGroup"
  | .proxyChain => "ProxyChain"

inductive CoreType where
  | singBox
  deriving DecidableEq, Repr

inductive InboundProtocol where
  | socks
  | socks2
  | socks3
  | pac
  | api
  | api2
  | mixed
  | speedtest
  deriving DecidableEq, Repr

def InboundProtocol.portOffset : InboundProtocol → Int
  | .socks => 0
  | .socks2 => 1
  | .socks3 => 2
  | .pac => 3
  | .api => 4
  | .api2 => 5
  | .mixed => 6
  | .speedtest => 21

inductive MultipleLoad where
  | leastPing
  | fallback
  | random
  | roundRobin
  | leastLoad
  deriving DecidableEq, Repr

inductive TrafficMode where
  | rule
  | global
  | direct
  | unchanged
  deriving DecidableEq, Repr

inductive RuleType where
  | all
  | routing
  | dns
  deriving DecidableEq, Repr

inductive SysProxyType where
  | forcedClear
  | forcedChange
  | unchanged
  | pac
  deriving DecidableEq, Repr

structure ServerEndpoint where
  address : String := ""
  port : Int := 0
  deriving DecidableEq, Repr

inductive ProfileProtocol where
  | vmess (server : ServerEndpoint) (uuid : String) (cipher : Option String)
  | custom (source : String) (filter : Option String)
  | shadowsocks (server : ServerEndpoint) (password method : String) (udpOverTcp : Bool)
  | socks (server : ServerEndpoint) (username password : String)
  | vless (server : ServerEndpoint) (uuid : String) (flow encryption : Option String)
  | trojan (server : ServerEndpoint) (password : String)
  | hysteria2 (server : ServerEndpoint) (password : String)
      (portHops obfuscationPassword : Option String)
  | tuic (server : ServerEndpoint) (uuid password : String) (congestionControl : Option String)
  | wireGuard (server : ServerEndpoint) (privateKey : String)
      (peerPublicKey presharedKey interfaceAddress allowedIps reserved : Option String)
      (mtu : Option Int)
  | http (server : ServerEndpoint) (username password : String)
  | anytls (server : ServerEndpoint) (password : String)
  | naive (server : ServerEndpoint) (username password : String) (quic : Bool)
      (congestionControl : Option String) (insecureConcurrency : Option Int) (udpOverTcp : Bool)
  | policyGroup (childProfileIds : List String) (sourceSubscriptionId filter : Option String)
      (strategy : MultipleLoad)
  | proxyChain (childProfileIds : List String)
  deriving DecidableEq, Repr

namespace ProfileProtocol

def configType : ProfileProtocol → ConfigType
  | .vmess .. => .vmess
  | .custom .. => .custom
  | .shadowsocks .. => .shadowsocks
  | .socks .. => .socks
  | .vless .. => .vless
  | .trojan .. => .trojan
  | .hysteria2 .. => .hysteria2
  | .tuic .. => .tuic
  | .wireGuard .. => .wireGuard
  | .http .. => .http
  | .anytls .. => .anytls
  | .naive .. => .naive
  | .policyGroup .. => .policyGroup
  | .proxyChain .. => .proxyChain

def server : ProfileProtocol → Option ServerEndpoint
  | .vmess s _ _ | .shadowsocks s _ _ _ | .socks s _ _ | .vless s _ _ _ | .trojan s _
  | .hysteria2 s _ _ _ | .tuic s _ _ _ | .wireGuard s _ _ _ _ _ _ _ | .http s _ _ | .anytls s _
  | .naive s _ _ _ _ _ _ => some s
  | .custom .. | .policyGroup .. | .proxyChain .. => none

def empty (configType : ConfigType) (server : ServerEndpoint) : ProfileProtocol :=
  match configType with
  | .vmess => .vmess server "" none
  | .custom => .custom "" none
  | .shadowsocks => .shadowsocks server "" "" false
  | .socks => .socks server "" ""
  | .vless => .vless server "" none none
  | .trojan => .trojan server ""
  | .hysteria2 => .hysteria2 server "" none none
  | .tuic => .tuic server "" "" none
  | .wireGuard => .wireGuard server "" none none none none none none
  | .http => .http server "" ""
  | .anytls => .anytls server ""
  | .naive => .naive server "" "" false none none false
  | .policyGroup => .policyGroup [] none none .leastPing
  | .proxyChain => .proxyChain []

def password : ProfileProtocol → String
  | .vmess _ uuid _ | .vless _ uuid _ _ => uuid
  | .shadowsocks _ password _ _ | .socks _ _ password | .trojan _ password
  | .hysteria2 _ password _ _ | .tuic _ _ password _ | .http _ _ password | .anytls _ password
  | .naive _ _ password _ _ _ _ => password
  | .wireGuard _ privateKey _ _ _ _ _ _ => privateKey
  | .custom .. | .policyGroup .. | .proxyChain .. => ""

def username : ProfileProtocol → String
  | .socks _ username _ | .http _ username _ | .naive _ username _ _ _ _ _ => username
  | .tuic _ uuid _ _ => uuid
  | _ => ""

def searchableAddress (p : ProfileProtocol) : String :=
  match p with
  | .custom source _ => source
  | _ => (p.server.map (·.address)).getD ""

def childProfileIds : ProfileProtocol → List String
  | .policyGroup ids _ _ _ => ids
  | .proxyChain ids => ids
  | _ => []

def replaceChildProfileIds (p : ProfileProtocol) (profileIds : List String) : ProfileProtocol :=
  match p with
  | .policyGroup _ source filter strategy => .policyGroup profileIds source filter strategy
  | .proxyChain _ => .proxyChain profileIds
  | p => p

end ProfileProtocol

inductive ProfileTransport where
  | tcp (header host path : Option String)
  | kcp (header seed : Option String) (mtu : Option Int)
  | websocket (host path : Option String)
  | httpUpgrade (host path : Option String)
  | xhttp (host path mode extra : Option String)
  | http2 (host path : Option String)
  | grpc (authority serviceName mode : Option String)
  | quic (host path : Option String)
  deriving DecidableEq, Repr

namespace ProfileTransport

def name : ProfileTransport → String
  | .tcp .. => "raw"
  | .kcp .. => "kcp"
  | .websocket .. => "ws"
  | .httpUpgrade .. => "httpupgrade"
  | .xhttp .. => "xhttp"
  | .http2 .. => "h2"
  | .grpc .. => "grpc"
  | .quic .. => "quic"

def host : ProfileTransport → Option String
  | .tcp _ host _ | .websocket host _ | .httpUpgrade host _ | .xhttp host _ _ _ | .http2 host _
  | .quic host _ => host
  | .kcp .. => none
  | .grpc authority _ _ => authority

def path : ProfileTransport → Option String
  | .tcp _ _ path | .websocket _ path | .httpUpgrade _ path | .xhttp _ path _ _ | .http2 _ path
  | .quic _ path => path
  | .kcp _ seed _ => seed
  | .grpc _ serviceName _ => serviceName

end ProfileTransport

inductive TlsMode where
  | tls
  | reality
  deriving DecidableEq, Repr

structure TlsSettings where
  mode : TlsMode
  serverName : Option String := none
  alpn : List String := []
  realityPublicKey : Option String := none
  realityShortId : Option String := none
  realitySpiderX : Option String := none
  mldsa65Verify : Option String := none
  certificatePem : Option String := none
  certificateSha256 : List String := []
  echConfig : List String := []
  finalMask : Option String := none
  deriving DecidableEq, Repr

structure ProfileItem where
  indexId : String := ""
  subscriptionId : Option String := none
  displayLog : Bool := true
  remarks : String := ""
  protocol : ProfileProtocol := .vmess {} "" none
  transport : Option ProfileTransport := none
  tls : Option TlsSettings := none
  deriving DecidableEq, Repr

namespace ProfileItem

def configType (p : ProfileItem) : ConfigType := p.protocol.configType

def address (p : ProfileItem) : String := p.protocol.searchableAddress

def port (p : ProfileItem) : Int := (p.protocol.server.map (·.port)).getD 0

def password (p : ProfileItem) : String := p.protocol.password

def username (p : ProfileItem) : String := p.protocol.username

def network (p : ProfileItem) : String := (p.transport.map ProfileTransport.name).getD ""

def streamSecurity (p : ProfileItem) : String :=
  match p.tls with
  | none => ""
  | some tls => match tls.mode with
    | .tls => "tls"
    | .reality => "reality"

end ProfileItem

structure SubItem where
  id : String := ""
  remarks : String := ""
  url : String := ""
  moreUrl : String := ""
  enabled : Bool := true
  userAgent : String := ""
  sort : Int := 0
  filter : Option String := none
  convertTarget : Option String := none
  preSocksPort : Option Int := none
  deriving DecidableEq, Repr

structure RulesItem where
  id : String := ""
  type : Option String := none
  port : Option String := none
  network : Option String := none
  inboundTag : Option (List String) := none
  outboundTag : Option String := none
  ip : Option (List String) := none
  domain : Option (List String) := none
  protocol : Option (List String) := none
  process : Option (List String) := none
  enabled : Bool := true
  remarks : Option String := none
  ruleType : Option RuleType := none
  deriving DecidableEq, Repr

structure RoutingItem where
  id : String := ""
  remarks : String := ""
  url : String := ""
  ruleSet : List RulesItem := []
  enabled : Bool := true
  locked : Bool := false
  customIcon : String := ""
  customRulesetPath4Singbox : String := ""
  domainStrategy : String := ""
  domainStrategy4Singbox : String := ""
  sort : Int := 0
  isActive : Bool := false
  deriving DecidableEq, Repr

theorem childProfileIds_replace {p : ProfileProtocol} (h : p.configType.isGroupType = true)
    (ids : List String) : (p.replaceChildProfileIds ids).childProfileIds = ids := by
  cases p <;> first | rfl | cases h

theorem childProfileIds_of_single {p : ProfileProtocol} (h : p.configType.isGroupType = false) :
    p.childProfileIds = [] := by
  cases p <;> first | rfl | cases h

end Entities
