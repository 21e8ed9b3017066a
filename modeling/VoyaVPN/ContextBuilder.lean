import VoyaVPN.AppConfig
import VoyaVPN.IpAddr
import VoyaVPN.SingboxSchema

/-! The context builder: it validates the active profile and every profile a routing rule
names, resolves group members, and collects them in one map the generator reads.
Group traversal is bounded by `fuel`, which stands for the call stack; `none` means
that it ran out. -/
namespace ContextBuilder

open Entities AppConfig RustText
open JsonValue (Value)
open SingboxSchema (SingboxRuleset proxyTag directTag blockTag loopback)

structure ParsedUrl where
  scheme : String
  host : Option String
  port : Option Nat
  path : String
  query : Option String
  deriving DecidableEq, Repr

/-- The third-party crates the code calls: regular expressions, URLs, JSON, percent decoding. -/
structure Crates where
  regexNew : String → Option (String → Bool)
  regexDigit : Char → Bool
  urlParse : String → Option ParsedUrl
  jsonFromStr : String → Option Value
  rulesetsFromStr : String → Except String (List SingboxRuleset)
  percentDecodeUtf8 : String → Option String

def defaultNetwork : String := "raw"

def singboxUnsupportedTransports : List String := ["kcp", "xhttp"]
def singboxShadowsocksAllowedTransports : List String := ["raw", "ws"]
def flows : List String := ["", "xtls-rprx-vision", "xtls-rprx-vision-udp443"]
def ssSecuritiesInSingbox : List String :=
  ["aes-256-gcm", "aes-192-gcm", "aes-128-gcm", "chacha20-ietf-poly1305",
    "xchacha20-ietf-poly1305", "none", "2022-blake3-aes-128-gcm", "2022-blake3-aes-256-gcm",
    "2022-blake3-chacha20-poly1305", "aes-128-ctr", "aes-192-ctr", "aes-256-ctr",
    "aes-128-cfb", "aes-192-cfb", "aes-256-cfb", "rc4-md5", "chacha20-ietf", "xchacha20"]

inductive CoreGenPlatform where
  | windows
  | macOS
  | linux
  deriving DecidableEq, Repr

structure NodeValidatorResult where
  errors : List String := []
  warnings : List String := []
  deriving DecidableEq, Repr

namespace NodeValidatorResult

def success (r : NodeValidatorResult) : Bool := r.errors.isEmpty

def pushWarning (r : NodeValidatorResult) (warning : String) : NodeValidatorResult :=
  { r with warnings := r.warnings ++ [warning] }

def pushError (r : NodeValidatorResult) (error : String) : NodeValidatorResult :=
  { r with errors := r.errors ++ [error] }

def pushErrorIf (r : NodeValidatorResult) (c : Bool) (error : String) : NodeValidatorResult :=
  if c then r.pushError error else r

def extendPrefixedWarnings (r : NodeValidatorResult) (label : String)
    (result : NodeValidatorResult) : NodeValidatorResult :=
  { r with warnings := r.warnings ++ result.warnings.map fun warning => label ++ ": " ++ warning }

def extendPrefixedErrors (r : NodeValidatorResult) (label : String)
    (result : NodeValidatorResult) : NodeValidatorResult :=
  { r with errors := r.errors ++ result.errors.map fun error => label ++ ": " ++ error }

end NodeValidatorResult

abbrev ProxiesMap := Std.ExtTreeMap String ProfileItem

structure CoreConfigContext where
  node : ProfileItem
  runCoreType : CoreType
  routingItem : Option RoutingItem
  simpleDnsItem : SimpleDnsItem
  allProxiesMap : ProxiesMap
  appConfig : Config
  isTunEnabled : Bool
  protectDomainList : List String
  platform : CoreGenPlatform
  singboxRulesetPaths : Std.ExtTreeMap String String

structure CoreConfigContextBuilderResult where
  context : CoreConfigContext
  validatorResult : NodeValidatorResult

def CoreConfigContextBuilderResult.success (r : CoreConfigContextBuilderResult) : Bool :=
  r.validatorResult.success

structure CoreGenEnv where
  platform : CoreGenPlatform
  getProfileByIndexId : String → Option ProfileItem
  getProfileByRemarks : String → Option ProfileItem
  getProfileItemsOrderedByIndexIds : List String → List ProfileItem
  getProfileItemsBySubscriptionId : String → List ProfileItem
  getSubscription : String → Option SubItem
  getDefaultRouting : Config → Option RoutingItem
  getLocalPort : InboundProtocol → Int
  getSingboxRulesetPaths : Std.ExtTreeMap String String

/-- The environment the application uses: a snapshot of the stored rows. -/
structure SnapshotCoreGenEnv where
  localSocksPort : Int
  platform : CoreGenPlatform
  profiles : List ProfileItem
  routings : List RoutingItem
  subs : List SubItem
  singboxRulesetPaths : Std.ExtTreeMap String String

namespace SnapshotCoreGenEnv

def getProfileByIndexId (e : SnapshotCoreGenEnv) (indexId : String) : Option ProfileItem :=
  e.profiles.find? fun profile => profile.indexId == indexId

def getDefaultRouting (e : SnapshotCoreGenEnv) (config : Config) : Option RoutingItem :=
  (e.routings.find? fun routing => routing.id == config.routingBasicItem.routingIndexId).orElse
    fun _ => e.routings.head?

def env (e : SnapshotCoreGenEnv) : CoreGenEnv where
  platform := e.platform
  getProfileByIndexId := e.getProfileByIndexId
  getProfileByRemarks remarks := e.profiles.find? fun profile => profile.remarks == remarks
  getProfileItemsOrderedByIndexIds indexIds := indexIds.filterMap e.getProfileByIndexId
  getProfileItemsBySubscriptionId subscriptionId :=
    e.profiles.filter fun profile => profile.subscriptionId == some subscriptionId
  getSubscription subscriptionId := e.subs.find? fun sub => sub.id == subscriptionId
  getDefaultRouting := e.getDefaultRouting
  getLocalPort
    | .socks => e.localSocksPort
    | protocol => addI32 e.localSocksPort protocol.portOffset
  getSingboxRulesetPaths := e.singboxRulesetPaths

end SnapshotCoreGenEnv

def nonempty (value : String) : Option String :=
  let value := trim value
  if isEmpty value then none else some value

def getNetwork (item : ProfileItem) : String :=
  let network := trim item.network
  if isEmpty network then defaultNetwork else network

def singboxSupportsConfigType : ConfigType → Bool
  | .vmess | .vless | .shadowsocks | .trojan | .hysteria2 | .tuic | .anytls | .naive
  | .wireGuard | .socks | .http => true
  | .custom | .policyGroup | .proxyChain => false

def singboxTransportSupportedProtocol : ConfigType → Bool
  | .vmess | .vless | .trojan | .shadowsocks => true
  | _ => false

def isAsciiHexdigit (c : Char) : Bool :=
  ('0' ≤ c && c ≤ '9') || ('a' ≤ c && c ≤ 'f') || ('A' ≤ c && c ≤ 'F')

def isGuidLike (value : String) : Bool :=
  let chars := (trim value).toList.dropWhile (fun c => c == '{' || c == '(')
  let chars := chars.rdropWhile (fun c => c == '}' || c == ')')
  if (String.ofList chars).utf8ByteSize = 32 then chars.all isAsciiHexdigit
  else
    let chunks := chars.splitOnP (· == '-')
    chunks.map (fun chunk => (String.ofList chunk).utf8ByteSize) == [8, 4, 4, 4, 12] &&
      chunks.all fun chunk => chunk.all isAsciiHexdigit

def validateProtocol (protocol : ProfileProtocol) (result : NodeValidatorResult) :
    NodeValidatorResult :=
  match protocol with
  | .vmess _ uuid _ =>
    result.pushErrorIf (isEmpty (trim uuid) || !isGuidLike uuid) "invalid Password"
  | .vless _ uuid flow _ =>
    (result.pushErrorIf
        (isEmpty (trim uuid) || (!isGuidLike uuid && decide (30 < uuid.toList.length)))
        "invalid Password").pushErrorIf
      (!flows.contains (trim (flow.getD ""))) "invalid Flow"
  | .shadowsocks _ password method _ =>
    (result.pushErrorIf (isEmpty (trim password)) "invalid Password").pushErrorIf
      (!ssSecuritiesInSingbox.contains (trim method)) "invalid SsMethod"
  | _ => result

def validateSingbox (item : ProfileItem) (result : NodeValidatorResult) : NodeValidatorResult :=
  let network := getNetwork item
  let result := result.pushErrorIf (singboxUnsupportedTransports.contains network)
    ("sing_box does not support network " ++ network)
  let result := result.pushErrorIf (!singboxSupportsConfigType item.configType)
    ("sing_box does not support protocol " ++ item.configType.debug)
  let result := result.pushErrorIf
    (!singboxTransportSupportedProtocol item.configType && network != defaultNetwork)
    ("sing_box does not support protocol " ++ item.configType.debug ++ " with network " ++ network)
  result.pushErrorIf
    (item.configType == .shadowsocks && !singboxShadowsocksAllowedTransports.contains network)
    ("sing_box does not support Shadowsocks with network " ++ network)

def validateTls (crates : Crates) (tls : Option TlsSettings) (result : NodeValidatorResult) :
    NodeValidatorResult :=
  match tls with
  | none => result
  | some tls =>
    let result := result.pushErrorIf
      (tls.mode == .reality && isEmpty (trim (tls.realityPublicKey.getD ""))) "invalid PublicKey"
    match tls.finalMask.filter fun value => !isEmpty (trim value) with
    | none => result
    | some finalMask =>
      result.pushErrorIf (!((crates.jsonFromStr finalMask).map Value.isObject).getD false)
        "invalid Finalmask"

def validateNode (crates : Crates) (item : ProfileItem) (coreType : CoreType) :
    NodeValidatorResult :=
  if item.configType = .custom ∨ item.configType.isGroupType then {}
  else
    let result : NodeValidatorResult := {}
    let result := result.pushErrorIf (isEmpty (trim item.address)) "invalid Address"
    let result := result.pushErrorIf (!decide (1 ≤ item.port ∧ item.port ≤ 65535)) "invalid Port"
    let result := match coreType with
      | .singBox => validateSingbox item result
    validateTls crates item.tls (validateProtocol item.protocol result)

def profileIsValid (crates : Crates) (item : ProfileItem) : Bool :=
  (validateNode crates item .singBox).success

def isBuiltinOutbound (outboundTag : Option String) : Bool :=
  outboundTag.any fun tag => [proxyTag, directTag, blockTag].contains tag

def xhttpDownloadSettingsAddress (crates : Crates) (node : ProfileItem) : Option String :=
  match node.transport with
  | some (.xhttp _ _ _ (some extra)) =>
    let extra := trim extra
    if isEmpty extra then none
    else
      ((crates.jsonFromStr extra).bind fun value =>
        ((value.get "downloadSettings").bind fun settings =>
          ((settings.get "address").bind Value.asStr))).bind nonempty
  | _ => none

def isDomain (candidate : String) : Bool :=
  let candidate := trim candidate
  let blockedExt := ["json", "txt", "xml", "cfg", "ini", "log", "yaml", "yml", "toml"]
  if isEmpty candidate || containsStr candidate "://" || containsChar candidate (· == '/') ||
      containsChar candidate (· == '\\') || (IpAddr.parse candidate).isSome then false
  else if ((rsplitOnce candidate '.').map fun (_, extension) =>
      blockedExt.contains (toAsciiLowercase extension)).getD false then false
  else
    (split candidate (· == '.')).all (fun label => !isEmpty label &&
      label.toList.all fun ch => ch.isAlphanum || ch == '-') &&
      candidate.toList.any Char.isAlpha

def pushDomainIfNeeded (protectDomainList : List String) (candidate : String) : List String :=
  let candidate := trim candidate
  if isDomain candidate && !protectDomainList.contains candidate then
    protectDomainList ++ [candidate]
  else protectDomainList

/-- The server name an ECH query resolves, when the profile carries ECH settings. -/
def echQuerySni (tls : TlsSettings) : String :=
  let serverName := tls.serverName.getD ""
  if tls.mode == .tls && tls.echConfig.any (containsStr · "://") then
    ((tls.echConfig.find? fun value => !containsStr value "://").map fun value =>
      ((splitOnce value '+').map Prod.fst).getD value).getD serverName
  else serverName

def protectDomains (crates : Crates) (protectDomainList : List String) (node : ProfileItem) :
    List String :=
  let list := pushDomainIfNeeded protectDomainList node.address
  let list := match node.tls with
    | some tls => if tls.echConfig.isEmpty then list else pushDomainIfNeeded list (echQuerySni tls)
    | none => list
  match xhttpDownloadSettingsAddress crates node with
  | some downloadAddress => pushDomainIfNeeded list downloadAddress
  | none => list

def registerSingleNode (crates : Crates) (context : CoreConfigContext) (node : ProfileItem) :
    CoreConfigContext × NodeValidatorResult :=
  if node.configType.isGroupType then (context, {})
  else
    let result := validateNode crates node context.runCoreType
    if !result.success then (context, result)
    else
      ({ context with
          allProxiesMap := context.allProxiesMap.insert node.indexId node
          protectDomainList := protectDomains crates context.protectDomainList node }, result)

def subChildProfileItems (crates : Crates) (env : CoreGenEnv) : ProfileProtocol → List ProfileItem
  | .policyGroup _ (some subscriptionId) filter _ =>
    let filter := (filter.bind nonempty).bind crates.regexNew
    (env.getProfileItemsBySubscriptionId subscriptionId).filter fun profile =>
      !profile.configType.isComplexType && profileIsValid crates profile &&
        (filter.map fun isMatch => isMatch profile.remarks).getD true
  | _ => []

def selectedChildProfileItems (env : CoreGenEnv) (protocol : ProfileProtocol) :
    List ProfileItem :=
  let childIds := protocol.childProfileIds
  if childIds.isEmpty then [] else env.getProfileItemsOrderedByIndexIds childIds

def groupChildProfileItems (crates : Crates) (env : CoreGenEnv) (protocol : ProfileProtocol) :
    List ProfileItem :=
  subChildProfileItems crates env protocol ++ selectedChildProfileItems env protocol

/-- The child list under construction, with the set that keeps it free of duplicates. -/
structure ChildIndex where
  ids : List String := []
  seen : Finset String := ∅

def ChildIndex.pushUnique (c : ChildIndex) (childIndexId : String) : ChildIndex :=
  if childIndexId ∈ c.seen then c
  else ⟨c.ids ++ [childIndexId], insert childIndexId c.seen⟩

structure Traversal where
  context : CoreConfigContext
  globalVisited : Finset String

structure ChildLoop extends Traversal where
  children : ChildIndex := {}
  childResult : NodeValidatorResult := {}

abbrev TraverseGroup :=
  Traversal → ProfileItem → Finset String → Option (Traversal × NodeValidatorResult)

/-- One pass of the child loop. `traverse` handles a nested group. -/
def visitChild (crates : Crates) (traverse : TraverseGroup) (node : ProfileItem)
    (ancestors : Finset String) (s : ChildLoop) (childNode : ProfileItem) : Option ChildLoop :=
  if childNode.indexId ∈ ancestors then
    let error := "group cycle dependency: " ++ node.remarks ++ " -> " ++ childNode.remarks
    some { s with childResult := s.childResult.pushError error }
  else if childNode.indexId ∈ s.globalVisited then
    some { s with children := s.children.pushUnique childNode.indexId }
  else if !childNode.configType.isGroupType then
    let (context, result) := registerSingleNode crates s.context childNode
    let label := "group child " ++ node.remarks ++ " / " ++ childNode.remarks
    let childResult := (s.childResult.extendPrefixedWarnings label result).extendPrefixedErrors
      label result
    if !result.success then some { s with context, childResult }
    else
      some { context, childResult
             globalVisited := insert childNode.indexId s.globalVisited
             children := s.children.pushUnique childNode.indexId }
  else do
    let (t, result) ← traverse s.toTraversal childNode (insert childNode.indexId ancestors)
    let label := "group child group " ++ node.remarks ++ " / " ++ childNode.remarks
    let childResult := (s.childResult.extendPrefixedWarnings label result).extendPrefixedErrors
      label result
    if !result.success then some { s with toTraversal := t, childResult }
    else
      some { context := t.context, childResult
             globalVisited := insert childNode.indexId t.globalVisited
             children := s.children.pushUnique childNode.indexId }

/-- The group's entry: the group with the child list its traversal resolved. -/
def resolvedNode (node : ProfileItem) (childIndexIds : List String) : ProfileItem :=
  { node with protocol := node.protocol.replaceChildProfileIds childIndexIds }

/-- After the loop: a group without valid children fails and stores nothing; any other
group turns its errors into warnings and stores its entry. -/
def finishGroup (node : ProfileItem) (s : ChildLoop) : Traversal × NodeValidatorResult :=
  if s.children.ids.isEmpty then
    (s.toTraversal,
      s.childResult.pushError ("group has no valid child node: " ++ node.remarks))
  else
    ({ s.toTraversal with
        context := { s.context with
          allProxiesMap := s.context.allProxiesMap.insert node.indexId
            (resolvedNode node s.children.ids) } },
      { errors := [], warnings := s.childResult.warnings ++ s.childResult.errors })

def traverseGroupNode (crates : Crates) (env : CoreGenEnv) : Nat → TraverseGroup
  | 0, _, _, _ => none
  | fuel + 1, t, node, ancestors =>
    ((groupChildProfileItems crates env node.protocol).foldlM
      (visitChild crates (traverseGroupNode crates env fuel) node ancestors)
      { toTraversal := t }).map (finishGroup node)

def registerGroupNode (crates : Crates) (env : CoreGenEnv) (fuel : Nat)
    (context : CoreConfigContext) (node : ProfileItem) :
    Option (CoreConfigContext × NodeValidatorResult) :=
  (traverseGroupNode crates env fuel ⟨context, {node.indexId}⟩ node {node.indexId}).map
    fun (t, result) => (t.context, result)

def registerNode (crates : Crates) (env : CoreGenEnv) (fuel : Nat)
    (context : CoreConfigContext) (node : ProfileItem) :
    Option (CoreConfigContext × NodeValidatorResult) :=
  if node.configType.isGroupType then registerGroupNode crates env fuel context node
  else some (registerSingleNode crates context node)

/-- The node a caller goes on with is the one it passed in, not the entry of the map. -/
def resolveNode (crates : Crates) (env : CoreGenEnv) (fuel : Nat)
    (context : CoreConfigContext) (node : ProfileItem) :
    Option (CoreConfigContext × ProfileItem × NodeValidatorResult) :=
  if isEmpty (trim node.indexId) then some (context, node, {})
  else
    (registerNode crates env fuel context node).map fun (context, result) =>
      (context, node, result)

def remarkKey (outboundTag : String) : String := "remark:" ++ outboundTag

def resolveRuleOutbound (crates : Crates) (env : CoreGenEnv) (fuel : Nat)
    (r : CoreConfigContextBuilderResult) (ruleItem : RulesItem) :
    Option CoreConfigContextBuilderResult :=
  let ruleName := ruleItem.remarks.getD ""
  match ruleItem.outboundTag.bind nonempty with
  | none =>
    let warning := "routing rule " ++ ruleName ++ " has empty outbound tag"
    some { r with validatorResult := r.validatorResult.pushWarning warning }
  | some outboundTag =>
    match env.getProfileByRemarks outboundTag with
    | none =>
      let warning := "routing rule " ++ ruleName ++ " outbound node not found: " ++ outboundTag
      some { r with validatorResult := r.validatorResult.pushWarning warning }
    | some ruleOutboundNode => do
      let (context, activeRuleNode, ruleResult) ←
        resolveNode crates env fuel r.context ruleOutboundNode
      let label := "routing rule " ++ ruleName ++ " outbound " ++ outboundTag
      let warnings := r.validatorResult.warnings ++
        ruleResult.warnings.map fun warning => label ++ " warning: " ++ warning
      if !ruleResult.success then
        some ⟨context, { r.validatorResult with
          warnings := warnings ++ ruleResult.errors.map fun error => label ++ " error: " ++ error }⟩
      else
        some ⟨{ context with
            allProxiesMap := context.allProxiesMap.insert (remarkKey outboundTag) activeRuleNode },
          { r.validatorResult with warnings }⟩

def resolvableRules (routingItem : RoutingItem) : List RulesItem :=
  routingItem.ruleSet.filter fun rule => rule.enabled && !isBuiltinOutbound rule.outboundTag

def resolveRuleOutbounds (crates : Crates) (env : CoreGenEnv) (fuel : Nat)
    (r : CoreConfigContextBuilderResult) : Option CoreConfigContextBuilderResult :=
  match r.context.routingItem with
  | none => some r
  | some routingItem =>
    (resolvableRules routingItem).foldlM (resolveRuleOutbound crates env fuel) r

def initialContext (env : CoreGenEnv) (config : Config) (node : ProfileItem) :
    CoreConfigContext where
  node := node
  runCoreType := .singBox
  routingItem := env.getDefaultRouting config
  simpleDnsItem := config.simpleDnsItem
  allProxiesMap := ∅
  appConfig := config
  isTunEnabled := config.tunModeItem.enableTun
  protectDomainList := []
  platform := env.platform
  singboxRulesetPaths := env.getSingboxRulesetPaths

def build (crates : Crates) (env : CoreGenEnv) (fuel : Nat) (config : Config)
    (node : ProfileItem) : Option CoreConfigContextBuilderResult := do
  let (context, activeNode, nodeResult) ←
    resolveNode crates env fuel (initialContext env config node) node
  if !nodeResult.success then some ⟨context, nodeResult⟩
  else
    resolveRuleOutbounds crates env fuel
      ⟨{ context with node := activeNode }, { warnings := nodeResult.warnings }⟩

/-- The crates as they behave on the texts of the worked cases below the theorems. -/
def exampleCrates : Crates where
  regexNew _ := none
  regexDigit c := c.isDigit
  urlParse text :=
    if text = defaultRemoteDns then
      some {
        scheme := "https"
        host := some "cloudflare-dns.com"
        port := none
        path := "/dns-query"
        query := none }
    else none
  jsonFromStr _ := none
  rulesetsFromStr _ := .ok []
  percentDecodeUtf8 text := some text

def exampleSocks (id : String) : ProfileItem where
  indexId := id
  remarks := id
  protocol := .socks ⟨"203.0.113.7", 1080⟩ "" ""

def exampleGroup (id : String) (childIds : List String) : ProfileItem where
  indexId := id
  remarks := id
  protocol := .policyGroup childIds none none .leastPing

def exampleStore (profiles : List ProfileItem) (rules : List RulesItem) : SnapshotCoreGenEnv where
  localSocksPort := 10808
  platform := .linux
  profiles := profiles
  routings := [{ ruleSet := rules }]
  subs := []
  singboxRulesetPaths := ∅

end ContextBuilder
