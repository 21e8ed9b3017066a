import VoyaVPN.SingboxSupport

/-! The inbounds of the generated config: the local mixed ports and the TUN interface. -/
namespace SingboxInbounds

open Entities AppConfig RustText ContextBuilder ProtocolCommon SingboxSchema SingboxSupport

def defaultTunStack : String := "gvisor"
def macosTunSafeMtu : Int := 1500
def singboxTunInboundTag : String := "tun"

def isMacos (context : CoreConfigContext) : Bool := context.platform == .macOS

def buildMixedInboundWith (tag : String) (port : Int) : SingboxInbound :=
  { type := "mixed", tag, listen := some loopback, listenPort := some port }

def buildMixedInbound (inItem : InItem) (protocol : InboundProtocol) : SingboxInbound :=
  buildMixedInboundWith (inboundProtocolTag protocol) (addI32 inItem.localPort protocol.portOffset)

def tunAddresses (context : CoreConfigContext) : List String :=
  "172.18.0.1/30" ::
    if isMacos context || context.appConfig.tunModeItem.enableIpv6Address then
      ["fdfe:dcba:9876::1/126"]
    else []

def tunPlatform (context : CoreConfigContext) (httpProxyPort : Option Int) :
    Option SingboxTunPlatform :=
  if !isMacos context then none
  else
    httpProxyPort.map fun port =>
      { httpProxy := some { enabled := true, server := some loopback, serverPort := some port } }

def tunInterfaceName (context : CoreConfigContext) : Option String :=
  if isMacos context then none else some "singbox_tun"

def tunMtu (context : CoreConfigContext) : Int :=
  let mtu := context.appConfig.tunModeItem.mtu
  let configured := if 0 < mtu then mtu else wireguardDefaultMtu
  if isMacos context && decide (macosTunSafeMtu < configured) then macosTunSafeMtu else configured

def tunStrictRoute (context : CoreConfigContext) : Bool :=
  !isMacos context && context.appConfig.tunModeItem.strictRoute

def buildTunInbound (context : CoreConfigContext) (httpProxyPort : Option Int) :
    SingboxInbound where
  type := "tun"
  tag := singboxTunInboundTag
  listen := none
  listenPort := none
  interfaceName := tunInterfaceName context
  address := some (tunAddresses context)
  mtu := some (tunMtu context)
  autoRoute := some context.appConfig.tunModeItem.autoRoute
  strictRoute := some (tunStrictRoute context)
  stack := some ((nonemptyStr (some context.appConfig.tunModeItem.stack)).getD defaultTunStack)
  platform := tunPlatform context httpProxyPort

def mixedInbounds (inItem : InItem) : List SingboxInbound :=
  let primary := buildMixedInbound inItem .socks
  let primary :=
    if inItem.allowLanConn && !inItem.newPort4Lan then { primary with listen := some "0.0.0.0" }
    else primary
  let second :=
    if inItem.secondLocalPortEnabled then [buildMixedInbound inItem .socks2] else []
  let lan : SingboxInbound := { buildMixedInbound inItem .socks3 with listen := some "0.0.0.0" }
  let lan :=
    if !isEmpty (trimmed inItem.user) && !isEmpty (trimmed inItem.pass) then
      { lan with users := some [{ username := inItem.user, password := inItem.pass }] }
    else lan
  primary :: second ++ if inItem.allowLanConn && inItem.newPort4Lan then [lan] else []

def genInbounds (config : SingboxConfig) (context : CoreConfigContext) : SingboxConfig :=
  let inItem := context.appConfig.inbound.head?.getD {}
  let listenPort := inboundPort context.appConfig .socks
  let isUsingLocalMixedPort :=
    context.node.address == loopback && context.node.port == listenPort
  let mixedInboundAvailable := !context.isTunEnabled || !isUsingLocalMixedPort
  let mixed := if mixedInboundAvailable then mixedInbounds inItem else []
  let tun :=
    if context.isTunEnabled then
      [buildTunInbound context (if mixedInboundAvailable then some listenPort else none)]
    else []
  { config with inbounds := mixed ++ tun }

end SingboxInbounds
