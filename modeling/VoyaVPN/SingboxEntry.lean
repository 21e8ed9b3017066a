import VoyaVPN.SingboxInbounds
import VoyaVPN.SingboxDns
import VoyaVPN.SingboxExperimental

/-! The generator: the checks on the active profile, and the sections in their order. -/
namespace SingboxEntry

open Entities AppConfig RustText ContextBuilder ProtocolCommon SingboxSchema SingboxSupport
open SingboxOutbounds SingboxInbounds SingboxRouting SingboxDns SingboxExperimental

/-- The loop of `validate_proxy_ports`; the head of `pending` is the top of its stack. -/
def checkPorts (proxies : ProxiesMap) :
    Nat → List ProfileItem → Finset String → Option (Except SingboxConfigError Unit)
  | 0, _, _ => none
  | _ + 1, [], _ => some (.ok ())
  | fuel + 1, node :: pending, seen =>
    if !isEmpty node.indexId && decide (node.indexId ∈ seen) then
      checkPorts proxies fuel pending seen
    else
      let seen := if isEmpty node.indexId then seen else insert node.indexId seen
      if node.configType = .custom then checkPorts proxies fuel pending seen
      else if node.configType.isGroupType then
        let children := node.protocol.childProfileIds.filterMap fun nodeId => proxies[nodeId]?
        checkPorts proxies fuel (children.reverse ++ pending) seen
      else if ¬(1 ≤ node.port ∧ node.port ≤ 65535) then
        some (.error (.invalidNodePort node.remarks node.port))
      else checkPorts proxies fuel pending seen

def validateProxyPorts (fuel : Nat) (context : CoreConfigContext) :
    Option (Except SingboxConfigError Unit) :=
  checkPorts context.allProxiesMap fuel [context.node] ∅

def validateActiveWireguard (context : CoreConfigContext) : Except SingboxConfigError Unit :=
  if context.node.configType = .wireGuard ∧ (wireguardPublicKey context.node.protocol).isNone then
    .error (.missingWireGuardPublicKey context.node.remarks)
  else .ok ()

def genLog (config : SingboxConfig) (context : CoreConfigContext) : SingboxConfig :=
  let log := config.log.getD {}
  let loglevel := context.appConfig.coreBasicItem.loglevel
  let level :=
    if loglevel = "debug" ∨ loglevel = "info" ∨ loglevel = "error" then loglevel
    else if loglevel = "warning" then "warn"
    else log.level
  { config with log := some { log with
      level
      disabled := if loglevel = "none" then some true else log.disabled
      output := if context.appConfig.coreBasicItem.logEnabled then some "sbox.log"
        else log.output } }

/-- The sections up to the conversion of geo lists; `none` when the fuel ran out. -/
def genSections (crates : Crates) (fuel : Nat) (context : CoreConfigContext) :
    Option SingboxConfig :=
  let config := genInbounds (genLog SingboxConfig.sample context) context
  ((genOutbounds crates fuel config context).bind fun config =>
    genRouting crates fuel config context).map fun config =>
      genExperimental (genDns crates config context) context

def applyBindings (config : SingboxConfig) (context : CoreConfigContext) : SingboxConfig :=
  applyOutboundSendThrough (applyOutboundBindInterface config context) context

def generateSingboxConfig (crates : Crates) (fuel : Nat) (context : CoreConfigContext) :
    Option (Except SingboxConfigError SingboxConfig) :=
  (validateProxyPorts fuel context).bind fun ports =>
    match ports with
    | .error error => some (.error error)
    | .ok () =>
      match validateActiveWireguard context with
      | .error error => some (.error error)
      | .ok () =>
        (genSections crates fuel context).map fun config =>
          (convertGeoToRuleset crates config context).map fun config =>
            applyBindings config context

end SingboxEntry
