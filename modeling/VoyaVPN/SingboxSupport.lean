import VoyaVPN.ProtocolCommon

/-! Generator helpers: the children a group expands to, and the settings that are applied
to all outbounds at the end. -/
namespace SingboxSupport

open Entities AppConfig RustText ContextBuilder ProtocolCommon SingboxSchema

def vmessSecurities : List String :=
  ["aes-128-gcm", "chacha20-poly1305", defaultSecurity, "none", "zero"]

def singboxUtlsFingerprints : List String :=
  ["chrome", "firefox", "safari", "ios", "android", "edge", "360", "qq", "random", "randomized"]

def nonemptyString (value : Option String) : Option String := nonemptyStr value

def isLoopbackAddress (address : String) : Bool :=
  let address := trimMatches (fun c => c == '[' || c == ']') address
  eqIgnoreAsciiCase address "localhost" ||
    ((IpAddr.parse address).map IpAddr.Addr.isLoopback).getD false

def shouldBindOutbound (outbound : SingboxOutbound) : Bool :=
  if ["direct", "block", "dns", "selector", "urltest"].contains outbound.type ||
      (outbound.detour.map fun detour => !isEmpty detour).getD false then false
  else (outbound.server.map fun server => !isLoopbackAddress server).getD true

def applyOutboundBindInterface (config : SingboxConfig) (context : CoreConfigContext) :
    SingboxConfig :=
  match nonemptyString context.appConfig.coreBasicItem.bindInterface with
  | none => config
  | some bindInterface =>
    if !(context.isTunEnabled || context.platform == .windows) then config
    else
      { config with outbounds := config.outbounds.map fun outbound =>
          if shouldBindOutbound outbound then { outbound with bindInterface := some bindInterface }
          else outbound }

def applyOutboundSendThrough (config : SingboxConfig) (context : CoreConfigContext) :
    SingboxConfig :=
  match nonemptyString context.appConfig.coreBasicItem.sendThrough with
  | none => config
  | some sendThrough =>
    { config with outbounds := config.outbounds.map fun outbound =>
        if shouldBindOutbound outbound then { outbound with inet4BindAddress := some sendThrough }
        else outbound }

def childNodes (context : CoreConfigContext) (node : ProfileItem) : List ProfileItem :=
  node.protocol.childProfileIds.eraseDups.filterMap fun nodeId => context.allProxiesMap[nodeId]?

def singboxCanBuildLeaf (node : ProfileItem) : Bool :=
  singboxSupportsConfigType node.configType &&
    (node.configType != .wireGuard || (wireguardPublicKey node.protocol).isSome)

def buildableChildNodes (context : CoreConfigContext) (node : ProfileItem) : List ProfileItem :=
  (childNodes context node).filter fun child =>
    child.configType.isGroupType || singboxCanBuildLeaf child

def singboxNetwork (node : ProfileItem) : String :=
  let network := trimmed node.network
  if isEmpty network then defaultNetwork else network

def vmessSecurity (protocol : ProfileProtocol) : String :=
  let security := match protocol with
    | .vmess _ _ cipher => cipher.getD ""
    | _ => ""
  if vmessSecurities.contains security then security else defaultSecurity

def shadowsocksMethod (protocol : ProfileProtocol) : String :=
  let method := match protocol with
    | .shadowsocks _ _ method _ => method
    | _ => ""
  if ssSecuritiesInSingbox.contains method then method else "none"

def allowInsecure (context : CoreConfigContext) : Bool :=
  context.appConfig.coreBasicItem.defAllowInsecure

def singboxUtlsFingerprint (value : String) : Option String :=
  let fingerprint := toAsciiLowercase (trimmed value)
  if singboxUtlsFingerprints.contains fingerprint then some fingerprint else none

def effectiveFingerprint (context : CoreConfigContext) : Option String :=
  singboxUtlsFingerprint context.appConfig.coreBasicItem.defFingerprint

def transportHostForTls (node : ProfileItem) : Option String :=
  nonemptyString (some (firstListValue (node.transport.bind ProfileTransport.host)))

def splitCsv (value : String) : List String :=
  ((split value (· == ',')).map trim).filter fun item => !isEmpty item

def statePort2 (appConfig : Config) (isTunEnabled : Bool) : Int :=
  addI32 (inboundPort appConfig .api2) (if isTunEnabled then 1 else 0)

def exeName (process : String) : String :=
  trimEndMatches
    (String.ofList (process.toList.rtakeWhile fun c => c != '/' && c != '\\')) ".exe"

end SingboxSupport
