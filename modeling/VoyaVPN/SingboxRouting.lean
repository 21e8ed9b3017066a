import VoyaVPN.DnsAddress
import VoyaVPN.SingboxOutbounds

/-! The route section: the fixed rules, and the rules every enabled user rule turns into,
with the servers of the profiles the rules name. -/
namespace SingboxRouting

open Entities AppConfig RustText ContextBuilder ProtocolCommon SingboxSchema SingboxSupport
open SingboxOutbounds DnsAddress

def singboxDirectDnsTag : String := "direct_dns"
def geositePrefix : String := "geosite:"
def ipIfNonMatch : String := "IPIfNonMatch"
def ipOnDemand : String := "IPOnDemand"

def priorityProxyDomainSuffixes : List String :=
  ["anthropic.com", "claude.ai", "claudeusercontent.com", "openai.com", "chatgpt.com",
    "oaistatic.com", "oaiusercontent.com", "openai.azure.com", "githubcopilot.com",
    "copilot-proxy.githubusercontent.com", "copilot-telemetry.githubusercontent.com",
    "cursor.com", "cursor.sh", "codeium.com", "windsurf.com", "sourcegraph.com",
    "perplexity.ai", "generativelanguage.googleapis.com", "aistudio.google.com",
    "gemini.google.com", "ai.google.dev", "poe.com", "x.ai", "grok.com", "cohere.ai",
    "mistral.ai", "huggingface.co"]

def pushItem (items : Option (List String)) (value : String) : Option (List String) :=
  some (items.getD [] ++ [value])

/-- Adds one domain entry to the rule; `none` when the entry is skipped. -/
def parseV2Domain (domain : String) (rule : SingboxRule) : Option SingboxRule :=
  if startsWith domain "#" || startsWith domain "ext:" || startsWith domain "ext-domain:" then none
  else if let some value := stripPrefix domain geositePrefix then
    some { rule with geosite := pushItem rule.geosite value }
  else if let some value := stripPrefix domain "regexp:" then
    some { rule with domainRegex := pushItem rule.domainRegex (replace value "<COMMA>" ",") }
  else if let some value := stripPrefix domain "domain:" then
    some { rule with domainSuffix := pushItem rule.domainSuffix value }
  else if let some value := stripPrefix domain "full:" then
    some { rule with domain := pushItem rule.domain value }
  else if let some value := stripPrefix domain "keyword:" then
    some { rule with domainKeyword := pushItem rule.domainKeyword value }
  else if let some value := stripPrefix domain "dotless:" then
    some { rule with domainKeyword := pushItem rule.domainKeyword value }
  else some { rule with domainKeyword := pushItem rule.domainKeyword domain }

/-- Adds one address entry to the rule; `none` when the entry is skipped. -/
def parseV2Address (address : String) (rule : SingboxRule) : Option SingboxRule :=
  if startsWith address "ext:" || startsWith address "ext-ip:" then none
  else if address = "geoip:private" then some { rule with ipIsPrivate := some true }
  else if let some value := stripPrefix address geoipPrefix then
    some { rule with geoip := pushItem rule.geoip value }
  else some { rule with ipCidr := pushItem rule.ipCidr address }

/-- Adds the entries one after the other, and counts those that were not skipped. -/
def parseEach (parse : String → SingboxRule → Option SingboxRule) :
    List String → SingboxRule → SingboxRule × Nat
  | [], rule => (rule, 0)
  | entry :: rest, rule =>
    match parse entry rule with
    | some rule => let (rule, count) := parseEach parse rest rule; (rule, count + 1)
    | none => parseEach parse rest rule

def addHost (acc : SingboxRule × Nat) (host : String) : SingboxRule × Nat :=
  match parseV2Domain host {} with
  | none => acc
  | some domainRule =>
    let domainRule := normalizeBareHostDomain host domainRule
    let (rule, count) := acc
    if let some items := domainRule.domain then
      ({ rule with domain := some (rule.domain.getD [] ++ items) }, count + 1)
    else if let some items := domainRule.domainKeyword then
      ({ rule with domainKeyword := some (rule.domainKeyword.getD [] ++ items) }, count + 1)
    else if let some items := domainRule.domainSuffix then
      ({ rule with domainSuffix := some (rule.domainSuffix.getD [] ++ items) }, count + 1)
    else if let some items := domainRule.domainRegex then
      ({ rule with domainRegex := some (rule.domainRegex.getD [] ++ items) }, count + 1)
    else if let some items := domainRule.geosite then
      ({ rule with geosite := some (rule.geosite.getD [] ++ items) }, count + 1)
    else (rule, count)

def hostsResolveRule (simpleDns : SimpleDnsItem) : Option SingboxRule :=
  let hostKeys := (parseHostsToDictionary simpleDns.hosts).keys
  let (rule, count) := hostKeys.foldl addHost ({ action := some "resolve" }, 0)
  if 0 < count then some rule else none

def tunRouteRules : List SingboxRule :=
  [{ network := some ["udp"]
     port := some [135, 137, 138, 139, 5353]
     action := some "reject" },
    { ipCidr := some ["224.0.0.0/3", "ff00::/8"]
      action := some "reject" }]

def tunDirectProcessNames : List String := ["sing-box"]

def tunIcmpRules (icmpRouting : String) : List SingboxRule :=
  let reject (method : String) : SingboxRule :=
    { network := some ["icmp"], action := some "reject", method := some method }
  if icmpRouting = "direct" then [{ network := some ["icmp"], outbound := some directTag }]
  else if icmpRouting = "unreachable" then [reject "default"]
  else if icmpRouting = "drop" then [reject "drop"]
  else if icmpRouting = "reply" then [reject "reply"]
  else []

def tunRules (context : CoreConfigContext) : List SingboxRule :=
  if context.isTunEnabled then
    tunRouteRules ++
      { outbound := some directTag, processName := some tunDirectProcessNames } ::
      tunIcmpRules context.appConfig.tunModeItem.icmpRouting
  else []

def hijackDnsRules (context : CoreConfigContext) : List SingboxRule :=
  if (context.appConfig.inbound.head?.map (·.sniffingEnabled)).getD true then
    [{ action := some "sniff" },
      { type := some "logical"
        mode := some "or"
        action := some "hijack-dns"
        rules := some [{ port := some [53] }, { protocol := some ["dns"] }] }]
  else [{ port := some [53], action := some "hijack-dns" }]

def resolveRule (context : CoreConfigContext) : SingboxRule :=
  let ofRouting := context.routingItem.bind fun routing =>
    nonemptyString (some routing.domainStrategy4Singbox)
  { action := some "resolve"
    strategy := ofRouting.orElse fun _ =>
      nonemptyString (some context.appConfig.routingBasicItem.domainStrategy4Singbox) }

/-- The route rules before those of the user's routing profile. -/
def fixedRouteRules (context : CoreConfigContext) : List SingboxRule :=
  tunRules context ++ hijackDnsRules context ++
    (hostsResolveRule context.simpleDnsItem).toList ++
    [{ outbound := some proxyTag, domainSuffix := some priorityProxyDomainSuffixes },
      { outbound := some directTag, clashMode := some "Direct" },
      { outbound := some proxyTag, clashMode := some "Global" }] ++
    if context.appConfig.routingBasicItem.domainStrategy = ipOnDemand then [resolveRule context]
    else []

def portItems (port : String) : List String :=
  ((split port (· == ',')).map trim).filter fun item => !isEmpty item

def portRangeItem (item : String) : Option String :=
  if containsChar item (· == '-') then some (replace item "-" ":") else none

def portItem (item : String) : Option Int :=
  if containsChar item (· == '-') then none else parseI32 item

def nonemptyItems (items : Option (List String)) : Option (List String) :=
  items.filter fun items => !items.isEmpty

def fillRuleCommon (rule : SingboxRule) (userRule : RulesItem) : SingboxRule :=
  let rule := match nonemptyStr userRule.port with
    | none => rule
    | some port =>
      let ports := (portItems port).filterMap portItem
      let portRanges := (portItems port).filterMap portRangeItem
      { rule with
        port := if ports.isEmpty then rule.port else some ports
        portRange := if portRanges.isEmpty then rule.portRange else some portRanges }
  let rule := match nonemptyStr userRule.network with
    | none => rule
    | some network => { rule with network := some (splitCsv network) }
  { rule with
    protocol := nonemptyItems userRule.protocol
    inbound := nonemptyItems userRule.inboundTag }

def hasItems (items : Option (List String)) : Bool := items.any fun items => !items.isEmpty

def routeIpRuleHasMatcher (rule : SingboxRule) : Bool :=
  hasItems rule.geoip || hasItems rule.ipCidr || rule.ipIsPrivate == some true

def baseRule (outboundTag : String) (userRule : RulesItem) : SingboxRule :=
  let rule : SingboxRule :=
    if outboundTag = blockTag then { action := some "reject" }
    else { outbound := some outboundTag }
  fillRuleCommon rule userRule

def domainRules (rule : SingboxRule) (userRule : RulesItem) : List SingboxRule :=
  match userRule.domain with
  | none => []
  | some domains =>
    let (domainRule, count) := parseEach parseV2Domain domains rule
    if 0 < count then [domainRule] else []

def negativeIps (ips : List String) : List String :=
  ips.filterMap fun ip => (stripPrefix ip "!").map trim

def positiveIps (ips : List String) : List String :=
  ips.filter fun ip => !startsWith ip "!"

/-- The rules of the address entries, and whether they count as the user rule's own rules
(negated entries alone do, without giving any). -/
def ipRules (rule : SingboxRule) (userRule : RulesItem) : List SingboxRule × Bool :=
  match userRule.ip with
  | none => ([], false)
  | some ips =>
    if (negativeIps ips).isEmpty then
      let (ipRule, count) := parseEach parseV2Address ips rule
      if 0 < count then ([ipRule], true) else ([], false)
    else
      let (positiveRule, positiveCount) := parseEach parseV2Address (positiveIps ips)
        { rule with outbound := none, action := none }
      let (negativeRule, negativeCount) := parseEach parseV2Address (negativeIps ips) {}
      if 0 < positiveCount ∧ 0 < negativeCount ∧ routeIpRuleHasMatcher negativeRule then
        ([{ outbound := rule.outbound
            action := rule.action
            type := some "logical"
            mode := some "and"
            rules := some [positiveRule, { negativeRule with invert := some true }] }], true)
      else if 0 < positiveCount then ([positiveRule], true)
      else ([], true)

def pushProcess (rules : SingboxRule × SingboxRule) (process : String) :
    SingboxRule × SingboxRule :=
  let (nameRule, pathRule) := rules
  if process = "self/" then
    ({ nameRule with processName := pushItem nameRule.processName "sing-box" }, pathRule)
  else if containsChar process (fun c => c == '/' || c == '\\') then
    (nameRule, { pathRule with processPath := pushItem pathRule.processPath process })
  else
    ({ nameRule with processName := pushItem nameRule.processName (exeName process) }, pathRule)

def processRules (rule : SingboxRule) (userRule : RulesItem) : List SingboxRule :=
  match userRule.process with
  | none => []
  | some processes =>
    let (nameRule, pathRule) := processes.foldl pushProcess (rule, rule)
    (if hasItems nameRule.processName then [nameRule] else []) ++
      if hasItems pathRule.processPath then [pathRule] else []

def hasConstraint (rule : SingboxRule) : Bool :=
  rule.port.isSome || rule.portRange.isSome || rule.protocol.isSome || rule.inbound.isSome ||
    rule.network.isSome

def userRouteRules (outboundTag : String) (userRule : RulesItem) : List SingboxRule :=
  let rule := baseRule outboundTag userRule
  let ofDomain := domainRules rule userRule
  let (ofIp, ipHandled) := ipRules rule userRule
  let ofProcess := processRules rule userRule
  let hasDomainIpProcess := !ofDomain.isEmpty || ipHandled || !ofProcess.isEmpty
  ofDomain ++ ofIp ++ ofProcess ++
    if !hasDomainIpProcess && hasConstraint rule then [rule] else []

def profileTag (node : ProfileItem) : String :=
  node.indexId ++ "-" ++ proxyTag ++ "-" ++ node.remarks

/-- Some outbound or endpoint of the config has a tag that starts with `tag`. -/
def hasServerFor (config : SingboxConfig) (tag : String) : Bool :=
  config.outbounds.any (fun outbound => startsWith outbound.tag tag) ||
    config.endpoints.any fun endpoint => startsWith endpoint.tag tag

def genRoutingUserRuleOutbound (crates : Crates) (fuel : Nat) (config : SingboxConfig)
    (context : CoreConfigContext) (outboundTag : String) : Option (SingboxConfig × String) :=
  if [proxyTag, directTag, blockTag].contains outboundTag then some (config, outboundTag)
  else
    match context.allProxiesMap[remarkKey outboundTag]? with
    | none => some (config, proxyTag)
    | some node =>
      if !node.configType.isGroupType && !singboxSupportsConfigType node.configType then
        some (config, proxyTag)
      else
        let tag := profileTag node
        if hasServerFor config tag then some (config, tag)
        else
          (buildAllProxyServers crates fuel context node tag true).map fun servers =>
            if servers.isEmpty then (config, proxyTag)
            else (appendServers config servers, tag)

def pushRouteRules (config : SingboxConfig) (rules : List SingboxRule) : SingboxConfig :=
  { config with route := { config.route with rules := config.route.rules ++ rules } }

def genRoutingUserRule (crates : Crates) (fuel : Nat) (context : CoreConfigContext)
    (config : SingboxConfig) (userRule : RulesItem) : Option SingboxConfig :=
  (genRoutingUserRuleOutbound crates fuel config context
    (userRule.outboundTag.getD proxyTag)).map fun (config, outboundTag) =>
      pushRouteRules config (userRouteRules outboundTag userRule)

def routedRules (routing : RoutingItem) : List RulesItem :=
  routing.ruleSet.filter fun item => item.enabled && item.ruleType != some .dns

def hasIps (item : RulesItem) : Bool := hasItems item.ip

/-- The fields of the route section other than its rules. -/
def routeSettings (config : SingboxConfig) (context : CoreConfigContext) : SingboxConfig :=
  { config with route := { config.route with
      finalOutbound := some proxyTag
      defaultDomainResolver := some {
        server := some singboxDirectDnsTag
        strategy := domainStrategy4Sbox context.simpleDnsItem.strategy4Freedom }
      autoDetectInterface :=
        if context.isTunEnabled then some true else config.route.autoDetectInterface } }

def genRouting (crates : Crates) (fuel : Nat) (config : SingboxConfig)
    (context : CoreConfigContext) : Option SingboxConfig :=
  let config := pushRouteRules (routeSettings config context) (fixedRouteRules context)
  match context.routingItem with
  | none => some config
  | some routing =>
    ((routedRules routing).foldlM (genRoutingUserRule crates fuel context) config).bind
      fun config =>
        if context.appConfig.routingBasicItem.domainStrategy = ipIfNonMatch then
          ((routedRules routing).filter hasIps).foldlM (genRoutingUserRule crates fuel context)
            (pushRouteRules config [resolveRule context])
        else some config

end SingboxRouting
