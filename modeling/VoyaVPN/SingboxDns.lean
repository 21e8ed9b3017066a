import VoyaVPN.SingboxRouting

/-! The DNS section: its servers, its rules, and the server unmatched queries go to. -/
namespace SingboxDns

open Entities AppConfig RustText ContextBuilder ProtocolCommon SingboxSchema SingboxSupport
open DnsAddress SingboxRouting

def singboxRemoteDnsTag : String := "remote_dns"
def singboxLocalDnsTag : String := "local_local"
def singboxHostsDnsTag : String := "hosts_dns"
def singboxFakeDnsTag : String := "fake_dns"
def singboxFakeipInet4Range : String := "198.18.0.0/15"
def singboxFakeipInet6Range : String := "fc00::/18"

def addHostAddresses (predefined : HostsDictionary) (entry : String × List String) :
    HostsDictionary :=
  let (host, addresses) := entry
  match parseV2Domain host {} with
  | none => predefined
  | some testRule =>
    match (normalizeBareHostDomain host testRule).domain.bind List.head? with
    | some domain => predefined.insert domain (addresses.filter isIpAddress)
    | none => predefined

def predefinedAddresses (simpleDns : SimpleDnsItem) : HostsDictionary :=
  let common : HostsDictionary :=
    if simpleDns.addCommonHosts = some true then
      predefinedHosts.foldl (fun predefined (host, addresses) => predefined.insert host addresses) ∅
    else ∅
  (parseHostsToDictionary simpleDns.hosts).toList.foldl addHostAddresses common

/-- A server that is itself one of the predefined hosts is resolved by the hosts server. -/
def resolveByHosts (predefined : HostsDictionary) (server : SingboxDnsServer) :
    SingboxDnsServer :=
  if (server.server.map fun host => predefined.contains host).getD false then
    { server with domainResolver := some singboxHostsDnsTag }
  else server

def bootstrapDns (crates : Crates) (simpleDns : SimpleDnsItem) : SingboxDnsServer :=
  { parseDnsAddressOrDefault crates (simpleDns.bootstrapDns.getD defaultBootstrapDns)
      defaultBootstrapDns with
    tag := singboxLocalDnsTag }

def directDns (crates : Crates) (simpleDns : SimpleDnsItem) : SingboxDnsServer :=
  { parseDnsAddressOrDefault crates (simpleDns.directDns.getD defaultDirectDns)
      defaultDirectDns with
    tag := singboxDirectDnsTag
    domainResolver := some singboxLocalDnsTag }

def remoteDns (crates : Crates) (simpleDns : SimpleDnsItem) : SingboxDnsServer :=
  { parseDnsAddressOrDefault crates (simpleDns.remoteDns.getD defaultRemoteDns)
      defaultRemoteDns with
    tag := singboxRemoteDnsTag
    detour := some proxyTag
    domainResolver := some singboxLocalDnsTag }

def genDnsServers (crates : Crates) (simpleDns : SimpleDnsItem) : List SingboxDnsServer :=
  let predefined := predefinedAddresses simpleDns
  [resolveByHosts predefined (bootstrapDns crates simpleDns),
    resolveByHosts predefined (remoteDns crates simpleDns),
    resolveByHosts predefined (directDns crates simpleDns),
    { tag := singboxHostsDnsTag, type := "hosts", predefined := some predefined }] ++
    if simpleDns.fakeIp = some true then
      [{ tag := singboxFakeDnsTag
         type := "fakeip"
         inet4Range := some singboxFakeipInet4Range
         inet6Range := some singboxFakeipInet6Range }]
    else []

def priorityProxyDnsStrategy (context : CoreConfigContext) : Option String :=
  if context.isTunEnabled && !context.appConfig.tunModeItem.enableIpv6Address then
    some "ipv4_only"
  else domainStrategy4Sbox context.simpleDnsItem.strategy4Proxy

/-- The predefined answer of one hosts line, when its first address gives one. -/
def hostAnswerRule (entry : String × List String) : Option SingboxRule :=
  let (host, addresses) := entry
  (addresses.head?.filter fun predefined => !isEmpty predefined).bind fun predefined =>
    (parseV2Domain host {
        queryType := some [1, 5, 28]
        action := some "predefined"
        rcode := some "NOERROR" }).bind fun rule =>
      let rule := normalizeBareHostDomain host rule
      match (stripPrefix predefined "#").bind parseI32 with
      | some rcode => some { rule with rcode := some (dnsRcode rcode) }
      | none =>
        if isDomainName predefined then
          some { rule with answer := some ["*. IN CNAME " ++ predefined ++ "."] }
        else if isIpAddress predefined && !hasItems rule.domain then
          if ((IpAddr.parse predefined).map IpAddr.Addr.isIpv6).getD false then
            some { rule with answer := some ["*. IN AAAA " ++ predefined] }
          else some { rule with answer := some ["*. IN A " ++ predefined] }
        else none

def fakeipFilterRule : SingboxRule where
  domain := some
    ["amobile.music.tc.qq.com", "api-jooxtt.sanook.com", "api.joox.com", "aqqmusic.tc.qq.com",
      "dl.stream.qqmusic.qq.com", "ff.dorado.sdo.com", "heartbeat.belkin.com",
      "isure.stream.qqmusic.qq.com", "joox.com", "lens.l.google.com",
      "localhost.ptlogin2.qq.com", "localhost.sec.qq.com", "mesu.apple.com",
      "mobileoc.music.tc.qq.com", "music.taihe.com", "musicapi.taihe.com", "na.b.g-tun.com",
      "proxy.golang.org", "ps.res.netease.com", "shark007.net", "songsearch.kugou.com",
      "static.adtidy.org", "streamoc.music.tc.qq.com", "swcdn.apple.com", "swdist.apple.com",
      "swdownload.apple.com", "swquery.apple.com", "swscan.apple.com", "turn.cloudflare.com",
      "trackercdn.kugou.com", "xnotify.xboxlive.com"]
  domainKeyword := some ["ntp", "stun", "time"]
  domainRegex := some
    ["^[^.]+$", "^[^.]+\\.[^.]+\\.xboxlive\\.com$", "^localhost\\.[^.]+\\.weixin\\.qq\\.com$",
      "^mijia\\scloud$", "^xbox\\.[^.]+\\.microsoft\\.com$",
      "^xbox\\.[^.]+\\.[^.]+\\.microsoft\\.com$"]
  domainSuffix := some
    ["126.net", "3gppnetwork.org", "battle.net", "battlenet.com.cn", "cdn.nintendo.net",
      "cmbchina.com", "cmbimg.com", "ff14.sdo.com", "ffxiv.com", "finalfantasyxiv.com",
      "gcloudcs.com", "home.arpa", "invalid", "kuwo.cn", "lan", "linksys.com",
      "linksyssmartwifi.com", "local", "localdomain", "localhost", "market.xiaomi.com",
      "mcdn.bilivideo.cn", "media.dssott.com", "msftconnecttest.com", "msftncsi.com",
      "music.163.com", "music.migu.cn", "n0808.com", "nflxvideo.net", "oray.com", "orayimg.com",
      "router.asus.com", "sandai.net", "square-enix.com", "srv.nintendo.net",
      "steamcontent.com", "uu.163.com", "wargaming.net", "wggames.cn", "wotgame.cn",
      "wowsgame.cn", "xiami.com", "y.qq.com"]

def fakeIpIs (simpleDns : SimpleDnsItem) (global : Bool) : Bool :=
  simpleDns.fakeIp == some true && simpleDns.globalFakeIp == some global

def dnsRuleHasMatcher (rule : SingboxRule) : Bool :=
  hasItems rule.domain || hasItems rule.domainSuffix || hasItems rule.domainKeyword ||
    hasItems rule.domainRegex || hasItems rule.geosite || hasItems rule.geoip ||
    hasItems rule.ipCidr || hasItems rule.ruleSet

/-- A direct rule whose geosites name the expected region is split: those geosites also
require an expected address. -/
def directDnsRules (simpleDns : SimpleDnsItem) (rule : SingboxRule) : List SingboxRule :=
  let (expectedIpCidr, expectedIpRegions, regionName) :=
    parseDirectExpectedIps simpleDns.directExpectedIps
  let isMatched := fun item =>
    endsWith item ("-" ++ regionName) || endsWith item ("@" ++ regionName) || item == regionName
  let rule := { rule with
    server := some singboxDirectDnsTag
    strategy := domainStrategy4Sbox simpleDns.strategy4Freedom }
  let matchedGeosite := (rule.geosite.getD []).filter isMatched
  if !expectedIpRegions.isEmpty && !isEmpty regionName && !matchedGeosite.isEmpty then
    let rule := { rule with
      geosite := rule.geosite.map fun geosite => geosite.filter (!matchedGeosite.contains ·) }
    let expectedRule := { rule with
      geosite := some matchedGeosite
      geoip := some expectedIpRegions
      ipCidr := if expectedIpCidr.isEmpty then rule.ipCidr else some expectedIpCidr }
    expectedRule :: if dnsRuleHasMatcher rule then [rule] else []
  else if dnsRuleHasMatcher rule then [rule]
  else []

def blockDnsRules (rule : SingboxRule) : List SingboxRule :=
  let rule := { rule with action := some "predefined", rcode := some "NXDOMAIN" }
  if dnsRuleHasMatcher rule then [rule] else []

def proxyDnsRules (simpleDns : SimpleDnsItem) (rule : SingboxRule) : List SingboxRule :=
  let fakeRule := { rule with
    server := some singboxFakeDnsTag
    queryType := some [1, 28]
    rewriteTtl := some 1 }
  let rule := { rule with
    server := some singboxRemoteDnsTag
    strategy := domainStrategy4Sbox simpleDns.strategy4Proxy }
  (if fakeIpIs simpleDns false then [fakeRule] else []) ++
    if dnsRuleHasMatcher rule then [rule] else []

/-- The DNS rules one user rule turns into. -/
def dnsRoutingRules (simpleDns : SimpleDnsItem) (item : RulesItem) : List SingboxRule :=
  let (rule, validDomains) := parseEach parseV2Domain (item.domain.getD []) {}
  if validDomains = 0 then []
  else if item.outboundTag = some directTag then directDnsRules simpleDns rule
  else if item.outboundTag = some blockTag then blockDnsRules rule
  else proxyDnsRules simpleDns rule

def appendDnsRoutingRules (context : CoreConfigContext) : List SingboxRule :=
  match context.routingItem with
  | none => []
  | some routing =>
    (routing.ruleSet.filter fun item => item.enabled && item.ruleType != some .routing).flatMap
      (dnsRoutingRules context.simpleDnsItem)

def fakeipRule : SingboxRule where
  server := some singboxFakeDnsTag
  type := some "logical"
  mode := some "and"
  rewriteTtl := some 1
  rules := some [{ queryType := some [1, 28] }, { fakeipFilterRule with invert := some true }]

def genDnsRules (context : CoreConfigContext) : List SingboxRule :=
  let simpleDns := context.simpleDnsItem
  let hostRules := (parseHostsToDictionary simpleDns.hosts).toList.filterMap hostAnswerRule
  { ipAcceptAny := some true, server := some singboxHostsDnsTag } ::
    (if context.protectDomainList.isEmpty then []
      else
        [{ server := some singboxDirectDnsTag
           strategy := domainStrategy4Sbox simpleDns.strategy4Freedom
           domain := some context.protectDomainList }]) ++
    [{ server := some singboxRemoteDnsTag
       strategy := priorityProxyDnsStrategy context
       domainSuffix := some priorityProxyDomainSuffixes },
      { server := some singboxRemoteDnsTag
        strategy := domainStrategy4Sbox simpleDns.strategy4Proxy
        clashMode := some "Global" },
      { server := some singboxDirectDnsTag
        strategy := domainStrategy4Sbox simpleDns.strategy4Freedom
        clashMode := some "Direct" }] ++
    hostRules ++
    (if simpleDns.blockBindingQuery = some true then
        [{ queryType := some [64, 65]
           action := some "predefined"
           rcode := some "NOERROR" }]
      else []) ++
    (if fakeIpIs simpleDns true then [fakeipRule] else []) ++
    appendDnsRoutingRules context

def isNoneOrEmpty (items : Option (List String)) : Bool :=
  (items.map List.isEmpty).getD true

def finalDnsUsesDirect (context : CoreConfigContext) : Bool :=
  match context.routingItem.bind fun routing => routing.ruleSet.getLast? with
  | none => false
  | some lastRule =>
    if lastRule.outboundTag ≠ some directTag then false
    else
      let noDomain := isNoneOrEmpty lastRule.domain
      let noProcess := isNoneOrEmpty lastRule.process
      let isAnyIp := (lastRule.ip.map fun ips => ips.isEmpty || ips.contains "0.0.0.0/0").getD true
      let isAnyPort := (lastRule.port.map fun port => isEmpty port || port == "0-65535").getD true
      let isAnyNetwork :=
        (lastRule.network.map fun network => isEmpty network || network == "tcp,udp").getD true
      noDomain && noProcess && isAnyIp && isAnyPort && isAnyNetwork

def genDns (crates : Crates) (config : SingboxConfig) (context : CoreConfigContext) :
    SingboxConfig :=
  let simpleDns := context.simpleDnsItem
  let useDirectDns := finalDnsUsesDirect context
  let dns := config.dns.getD {}
  let globalRules : List SingboxRule :=
    if !useDirectDns && fakeIpIs simpleDns false then
      [{ server := some singboxFakeDnsTag
         queryType := some [1, 28]
         rewriteTtl := some 1 }]
    else []
  { config with dns := some { dns with
      servers := genDnsServers crates simpleDns
      rules := genDnsRules context ++ globalRules
      independentCache := some true
      finalServer := some (if useDirectDns then singboxDirectDnsTag else singboxRemoteDnsTag)
      reverseMapping := if context.isTunEnabled then some true else dns.reverseMapping } }

end SingboxDns
