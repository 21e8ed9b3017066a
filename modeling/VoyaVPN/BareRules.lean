import VoyaVPN.NestedRules
import VoyaVPN.RoutingSteps
import VoyaVPN.SingboxDns
import VoyaVPN.UserRouteRules

/-! The route and DNS rules before the conversion of geo lists: none of them mentions a rule
set yet, and DNS rules name no server but those the DNS section defines. -/
namespace BareRules

open Entities AppConfig RustText ContextBuilder SingboxSchema SingboxSupport SingboxOutbounds
open DnsAddress SingboxRouting SingboxDns
open RuleMatching UserRouteRules RoutingSteps NestedRules

/-- A route rule before the conversion mentions no rule set and no DNS server. -/
def RouteBare (fields : SingboxRuleFields) : Prop := fields.ruleSet = none ∧ fields.server = none

def GeoFree (fields : SingboxRuleFields) : Prop := fields.geosite = none ∧ fields.geoip = none

/-- A DNS rule before the conversion mentions no rule set, and only the given servers. -/
def DnsBare (tags : List String) (fields : SingboxRuleFields) : Prop :=
  fields.ruleSet = none ∧ ∀ server, fields.server = some server → server ∈ tags

theorem routeBare_pushAll (ds : List Destination) {rule : SingboxRule}
    (h : RouteBare rule.toSingboxRuleFields) : RouteBare (pushAll ds rule).toSingboxRuleFields :=
  ⟨(pushAll_read ds rule (fun r => r.ruleSet) fun _ => rfl).trans h.1,
    (pushAll_read ds rule (fun r => r.server) fun _ => rfl).trans h.2⟩

theorem pushAll_plain (ds : List Destination) {rule : SingboxRule} (h : rule.rules = none) :
    (pushAll ds rule).rules = none :=
  (pushAll_read ds rule (fun r => r.rules) fun _ => rfl).trans h

theorem routeBare_base (tag : String) (item : RulesItem) :
    RouteBare (baseRule tag item).toSingboxRuleFields := by
  obtain ⟨_, _, _, h⟩ := baseRule_shape tag item
  rw [h]
  by_cases hblock : tag = blockTag
  · simp only [if_pos hblock]
    exact ⟨rfl, rfl⟩
  · simp only [if_neg hblock]
    exact ⟨rfl, rfl⟩

theorem userRouteRules_bare (tag : String) (item : RulesItem) :
    AllFields RouteBare (userRouteRules tag item) := by
  have hbase := routeBare_base tag item
  have hrules := baseRule_rules tag item
  apply allFields_of_forall
  intro rule hrule
  rcases (mem_userRouteRules tag item rule).mp hrule with ⟨_, rfl⟩ | ⟨_, _, rfl⟩ |
    ⟨_, _, _, rfl⟩ | ⟨_, _, _, rfl⟩ | ⟨_, rfl⟩ | ⟨_, rfl⟩ | ⟨_, _, rfl⟩
  · exact allFields_single (pushAll_plain _ hrules) (routeBare_pushAll _ hbase)
  · exact allFields_single (pushAll_plain _ hrules) (routeBare_pushAll _ hbase)
  · exact allFields_single (pushAll_plain _ hrules) (routeBare_pushAll _ hbase)
  · refine allFields_logical ⟨rfl, rfl⟩ (allFields_cons_plain (pushAll_plain _ hrules)
      (routeBare_pushAll _ hbase) (allFields_single ?_ ?_))
    · exact pushAll_plain (keptNegative item) (show ({} : SingboxRule).rules = none from rfl)
    · exact routeBare_pushAll (keptNegative item) (show RouteBare ({} : SingboxRuleFields)
        from ⟨rfl, rfl⟩)
  · exact allFields_single hrules hbase
  · exact allFields_single hrules hbase
  · exact allFields_single hrules hbase

def PlainBare (rule : SingboxRule) : Prop :=
  rule.rules = none ∧ RouteBare rule.toSingboxRuleFields

theorem allFields_of_plainBare {rules : List SingboxRule} (h : ∀ rule ∈ rules, PlainBare rule) :
    AllFields RouteBare rules := by
  apply allFields_of_forall
  intro rule hrule
  exact allFields_single (h rule hrule).1 (h rule hrule).2

theorem plainBare_addHost {acc : SingboxRule × ℕ} (h : PlainBare acc.1) (host : String) :
    PlainBare (addHost acc host).1 := by
  obtain ⟨hrules, hset, hserver⟩ := h
  simp only [addHost]
  repeat' split
  all_goals exact ⟨hrules, hset, hserver⟩

theorem plainBare_addHosts (hosts : List String) {acc : SingboxRule × ℕ} (h : PlainBare acc.1) :
    PlainBare (hosts.foldl addHost acc).1 := by
  induction hosts generalizing acc with
  | nil => exact h
  | cons host rest ih => exact ih (plainBare_addHost h host)

theorem plainBare_hostsResolveRule {simpleDns : SimpleDnsItem} {rule : SingboxRule}
    (h : rule ∈ (hostsResolveRule simpleDns).toList) : PlainBare rule := by
  have hstart : PlainBare { action := some "resolve" } := ⟨rfl, rfl, rfl⟩
  have hall := plainBare_addHosts (parseHostsToDictionary simpleDns.hosts).keys
    (show PlainBare (({ action := some "resolve" } : SingboxRule), 0).1 from hstart)
  simp only [hostsResolveRule] at h
  split at h
  · rw [Option.toList_some, List.mem_singleton] at h
    rw [h]
    exact hall
  · cases h

/-- Those of the fixed route rules that no setting adds an entry to. -/
def Blank (rule : SingboxRule) : Prop :=
  rule.rules = none ∧ RouteBare rule.toSingboxRuleFields ∧ GeoFree rule.toSingboxRuleFields

def BlankFields (fields : SingboxRuleFields) : Prop := RouteBare fields ∧ GeoFree fields

theorem allFields_of_blank {rules : List SingboxRule} (h : ∀ rule ∈ rules, Blank rule) :
    AllFields BlankFields rules := by
  apply allFields_of_forall
  intro rule hrule
  exact allFields_single (h rule hrule).1 (h rule hrule).2

theorem blank_tunIcmpRules {icmpRouting : String} {rule : SingboxRule}
    (h : rule ∈ tunIcmpRules icmpRouting) : Blank rule := by
  have single : ∀ other, Blank other → rule ∈ [other] → Blank rule := by
    intro other hother hmem
    rw [List.mem_singleton.mp hmem]
    exact hother
  simp only [tunIcmpRules] at h
  split_ifs at h
  · exact single _ ⟨rfl, ⟨rfl, rfl⟩, rfl, rfl⟩ h
  · exact single _ ⟨rfl, ⟨rfl, rfl⟩, rfl, rfl⟩ h
  · exact single _ ⟨rfl, ⟨rfl, rfl⟩, rfl, rfl⟩ h
  · exact single _ ⟨rfl, ⟨rfl, rfl⟩, rfl, rfl⟩ h
  · cases h

theorem tunRules_blank (context : CoreConfigContext) :
    AllFields BlankFields (tunRules context) := by
  refine allFields_ite (allFields_append (allFields_of_blank ?_) ?_) allFields_nil
  · intro rule h
    simp only [tunRouteRules, List.mem_cons, List.not_mem_nil, or_false] at h
    rcases h with rfl | rfl
    · exact ⟨rfl, ⟨rfl, rfl⟩, rfl, rfl⟩
    · exact ⟨rfl, ⟨rfl, rfl⟩, rfl, rfl⟩
  · exact allFields_cons_plain rfl ⟨⟨rfl, rfl⟩, rfl, rfl⟩
      (allFields_of_blank fun rule h => blank_tunIcmpRules h)

theorem hijackDnsRules_blank (context : CoreConfigContext) :
    AllFields BlankFields (hijackDnsRules context) := by
  have plain : ∀ fields : SingboxRuleFields, BlankFields fields →
      AllFields BlankFields [⟨fields, none⟩] := fun fields h => allFields_single rfl h
  refine allFields_ite (allFields_cons_plain rfl ⟨⟨rfl, rfl⟩, rfl, rfl⟩ ?_)
    (plain _ ⟨⟨rfl, rfl⟩, rfl, rfl⟩)
  exact allFields_logical ⟨⟨rfl, rfl⟩, rfl, rfl⟩
    (allFields_cons_plain rfl ⟨⟨rfl, rfl⟩, rfl, rfl⟩ (plain _ ⟨⟨rfl, rfl⟩, rfl, rfl⟩))

/-- Among the fixed rules only that of the hosts table can have geo lists. -/
theorem fixedRouteRules_split (context : CoreConfigContext) :
    ∃ before after, AllFields BlankFields before ∧ AllFields BlankFields after ∧
      fixedRouteRules context =
        before ++ (hostsResolveRule context.simpleDnsItem).toList ++ after := by
  have hresolve : AllFields BlankFields [resolveRule context] :=
    allFields_single rfl ⟨⟨rfl, rfl⟩, rfl, rfl⟩
  refine ⟨tunRules context ++ hijackDnsRules context,
    [{ outbound := some proxyTag, domainSuffix := some priorityProxyDomainSuffixes },
      { outbound := some directTag, clashMode := some "Direct" },
      { outbound := some proxyTag, clashMode := some "Global" }] ++
      if context.appConfig.routingBasicItem.domainStrategy = ipOnDemand then [resolveRule context]
      else [], ?_, ?_, ?_⟩
  · exact allFields_append (tunRules_blank context) (hijackDnsRules_blank context)
  · exact allFields_cons_plain rfl ⟨⟨rfl, rfl⟩, rfl, rfl⟩
      (allFields_cons_plain rfl ⟨⟨rfl, rfl⟩, rfl, rfl⟩
        (allFields_cons_plain rfl ⟨⟨rfl, rfl⟩, rfl, rfl⟩ (allFields_ite hresolve allFields_nil)))
  · rw [fixedRouteRules, List.append_assoc _ _ (ite _ _ _)]

theorem fixedRouteRules_bare (context : CoreConfigContext) :
    AllFields RouteBare (fixedRouteRules context) := by
  obtain ⟨before, after, hbefore, hafter, hsplit⟩ := fixedRouteRules_split context
  rw [hsplit]
  refine allFields_append (allFields_append ?_ ?_) ?_
  · exact fun fields hfields => (hbefore fields hfields).1
  · exact allFields_of_plainBare fun rule h => plainBare_hostsResolveRule h
  · exact fun fields hfields => (hafter fields hfields).1

/-- What the route section keeps: bare rules, no rule set, and the resolver of the direct
server. -/
structure RouteReady (config : SingboxConfig) : Prop where
  bare : AllFields RouteBare config.route.rules
  noRuleSet : config.route.ruleSet = none
  resolver : config.route.defaultDomainResolver.bind (fun rule => rule.server) =
    some singboxDirectDnsTag

theorem routeReady_push {config : SingboxConfig} {rules : List SingboxRule}
    (h : RouteReady config) (hrules : AllFields RouteBare rules) :
    RouteReady (pushRouteRules config rules) :=
  ⟨allFields_append h.bare hrules, h.noRuleSet, h.resolver⟩

theorem routeReady_congr {config config' : SingboxConfig} (h : RouteReady config)
    (hroute : config'.route = config.route) : RouteReady config' := by
  obtain ⟨hbare, hset, hresolver⟩ := h
  rw [← hroute] at hbare hset hresolver
  exact ⟨hbare, hset, hresolver⟩

theorem genRouting_ready {crates : Crates} {fuel : ℕ} {context : CoreConfigContext}
    {config config' : SingboxConfig} (hrules : config.route.rules = [])
    (hset : config.route.ruleSet = none)
    (h : genRouting crates fuel config context = some config') : RouteReady config' := by
  refine genRouting_invariant ?_ ?_ ?_ h
  · refine routeReady_push ⟨?_, hset, rfl⟩ (fixedRouteRules_bare context)
    have hkept : (routeSettings config context).route.rules = config.route.rules := rfl
    rw [hkept, hrules]
    exact allFields_nil
  · intro c hc
    exact routeReady_push hc (allFields_single rfl ⟨rfl, rfl⟩)
  · intro routing c item c' _ _ hc hstep
    obtain ⟨⟨c₁, tag⟩, hfound, rfl⟩ := Option.map_eq_some_iff.mp hstep
    exact routeReady_push (routeReady_congr hc (genRoutingUserRuleOutbound_route hfound))
      (userRouteRules_bare tag item)

def dnsServerTags (simpleDns : SimpleDnsItem) : List String :=
  [singboxLocalDnsTag, singboxRemoteDnsTag, singboxDirectDnsTag, singboxHostsDnsTag] ++
    if simpleDns.fakeIp = some true then [singboxFakeDnsTag] else []

theorem tag_resolveByHosts (predefined : HostsDictionary) (server : SingboxDnsServer) :
    (resolveByHosts predefined server).tag = server.tag := by
  unfold resolveByHosts
  split
  · rfl
  · rfl

theorem genDnsServers_tags (crates : Crates) (simpleDns : SimpleDnsItem) :
    (genDnsServers crates simpleDns).map (fun server => server.tag) = dnsServerTags simpleDns := by
  simp only [genDnsServers, List.map_append, List.map_cons, List.map_nil, tag_resolveByHosts]
  by_cases hfake : simpleDns.fakeIp = some true
  · rw [if_pos hfake, dnsServerTags, if_pos hfake]
    rfl
  · rw [if_neg hfake, dnsServerTags, if_neg hfake]
    rfl

theorem fake_mem_dnsServerTags {simpleDns : SimpleDnsItem} :
    singboxFakeDnsTag ∈ dnsServerTags simpleDns ↔ simpleDns.fakeIp = some true := by
  unfold dnsServerTags
  by_cases hfake : simpleDns.fakeIp = some true
  · rw [if_pos hfake]
    exact iff_of_true (List.mem_append_right _ (List.mem_singleton_self _)) hfake
  · rw [if_neg hfake]
    exact iff_of_false (by decide) hfake

theorem fake_mem_of_fakeIpIs {simpleDns : SimpleDnsItem} {everywhere : Bool}
    (h : fakeIpIs simpleDns everywhere = true) : singboxFakeDnsTag ∈ dnsServerTags simpleDns := by
  rw [fakeIpIs, Bool.and_eq_true, beq_iff_eq] at h
  exact fake_mem_dnsServerTags.mpr h.1

section DnsServers

variable {simpleDns : SimpleDnsItem}

theorem local_mem : singboxLocalDnsTag ∈ dnsServerTags simpleDns :=
  List.mem_append_left _ (by decide)

theorem remote_mem : singboxRemoteDnsTag ∈ dnsServerTags simpleDns :=
  List.mem_append_left _ (by decide)

theorem direct_mem : singboxDirectDnsTag ∈ dnsServerTags simpleDns :=
  List.mem_append_left _ (by decide)

theorem hosts_mem : singboxHostsDnsTag ∈ dnsServerTags simpleDns :=
  List.mem_append_left _ (by decide)

theorem parseDnsAddress_resolver {crates : Crates} {address : String} {server : SingboxDnsServer}
    (h : parseDnsAddress crates address = some server) : server.domainResolver = none := by
  obtain ⟨addressFirst, _, h⟩ := Option.bind_eq_some_iff.mp h
  by_cases hlocal : addressFirst = "local" ∨ addressFirst = "localhost"
  · rw [if_pos hlocal] at h
    cases h
    rfl
  · rw [if_neg hlocal] at h
    obtain ⟨parts, _, rfl⟩ := Option.map_eq_some_iff.mp h
    split
    · rfl
    · rfl

theorem parseDnsAddressOrDefault_resolver (crates : Crates) (address defaultAddress : String) :
    (parseDnsAddressOrDefault crates address defaultAddress).domainResolver = none := by
  unfold parseDnsAddressOrDefault
  cases haddress : parseDnsAddress crates address with
  | some server => exact parseDnsAddress_resolver haddress
  | none =>
    cases hdefault : parseDnsAddress crates defaultAddress with
    | some server => exact parseDnsAddress_resolver hdefault
    | none => rfl

theorem resolver_resolveByHosts {predefined : HostsDictionary} {server : SingboxDnsServer}
    (h : ∀ resolver, server.domainResolver = some resolver → resolver ∈ dnsServerTags simpleDns) :
    ∀ resolver, (resolveByHosts predefined server).domainResolver = some resolver →
      resolver ∈ dnsServerTags simpleDns := by
  unfold resolveByHosts
  split
  · intro resolver hresolver
    cases hresolver
    exact hosts_mem
  · exact h

theorem genDnsServers_resolver (crates : Crates) {server : SingboxDnsServer}
    (hserver : server ∈ genDnsServers crates simpleDns) :
    ∀ resolver, server.domainResolver = some resolver → resolver ∈ dnsServerTags simpleDns := by
  have none_resolver : ∀ other : SingboxDnsServer, other.domainResolver = none → ∀ resolver,
      other.domainResolver = some resolver → resolver ∈ dnsServerTags simpleDns := by
    intro other hnone resolver hresolver
    rw [hnone] at hresolver
    cases hresolver
  have local_resolver : ∀ other : SingboxDnsServer,
      other.domainResolver = some singboxLocalDnsTag → ∀ resolver,
      other.domainResolver = some resolver → resolver ∈ dnsServerTags simpleDns := by
    intro other hlocal resolver hresolver
    rw [hlocal] at hresolver
    cases hresolver
    exact local_mem
  rw [genDnsServers, List.mem_append] at hserver
  rcases hserver with hserver | hserver
  · simp only [List.mem_cons, List.not_mem_nil, or_false] at hserver
    rcases hserver with rfl | rfl | rfl | rfl
    · exact resolver_resolveByHosts
        (none_resolver _ (parseDnsAddressOrDefault_resolver crates _ _))
    · exact resolver_resolveByHosts (local_resolver _ rfl)
    · exact resolver_resolveByHosts (local_resolver _ rfl)
    · exact none_resolver _ rfl
  · by_cases hfake : simpleDns.fakeIp = some true
    · rw [if_pos hfake, List.mem_singleton] at hserver
      subst hserver
      exact none_resolver _ rfl
    · rw [if_neg hfake] at hserver
      cases hserver

end DnsServers

def DnsPlain (simpleDns : SimpleDnsItem) (rule : SingboxRule) : Prop :=
  rule.rules = none ∧ DnsBare (dnsServerTags simpleDns) rule.toSingboxRuleFields

section DnsRules

variable {simpleDns : SimpleDnsItem}

theorem dnsPlain_of_server {rule : SingboxRule} {server : String} (hrules : rule.rules = none)
    (hset : rule.ruleSet = none) (hserver : rule.server = some server)
    (hmem : server ∈ dnsServerTags simpleDns) : DnsPlain simpleDns rule := by
  refine ⟨hrules, hset, ?_⟩
  intro other hother
  rw [hserver] at hother
  cases hother
  exact hmem

theorem dnsPlain_of_no_server {rule : SingboxRule} (hrules : rule.rules = none)
    (hset : rule.ruleSet = none) (hserver : rule.server = none) : DnsPlain simpleDns rule := by
  refine ⟨hrules, hset, ?_⟩
  intro other hother
  rw [hserver] at hother
  cases hother

theorem dnsPlain_of_mem_ite {rule other : SingboxRule} {c : Prop} [Decidable c]
    (hmem : other ∈ if c then [rule] else []) (h : DnsPlain simpleDns rule) :
    DnsPlain simpleDns other := by
  by_cases hc : c
  · rw [if_pos hc, List.mem_singleton] at hmem
    rw [hmem]
    exact h
  · rw [if_neg hc] at hmem
    cases hmem

theorem dnsPlain_directDnsRules {rule other : SingboxRule} (h : PlainBare rule)
    (hmem : other ∈ directDnsRules simpleDns rule) : DnsPlain simpleDns other := by
  obtain ⟨hrules, hset, _⟩ := h
  simp only [directDnsRules] at hmem
  split at hmem
  · rcases List.mem_cons.mp hmem with rfl | hmem
    · exact dnsPlain_of_server hrules hset rfl direct_mem
    · exact dnsPlain_of_mem_ite hmem (dnsPlain_of_server hrules hset rfl direct_mem)
  · exact dnsPlain_of_mem_ite hmem (dnsPlain_of_server hrules hset rfl direct_mem)

theorem dnsPlain_blockDnsRules {rule other : SingboxRule} (h : PlainBare rule)
    (hmem : other ∈ blockDnsRules rule) : DnsPlain simpleDns other := by
  obtain ⟨hrules, hset, hserver⟩ := h
  exact dnsPlain_of_mem_ite hmem (dnsPlain_of_no_server hrules hset hserver)

theorem dnsPlain_proxyDnsRules {rule other : SingboxRule} (h : PlainBare rule)
    (hmem : other ∈ proxyDnsRules simpleDns rule) : DnsPlain simpleDns other := by
  obtain ⟨hrules, hset, _⟩ := h
  rcases List.mem_append.mp hmem with hmem | hmem
  · by_cases hfake : fakeIpIs simpleDns false = true
    · exact dnsPlain_of_mem_ite hmem
        (dnsPlain_of_server hrules hset rfl (fake_mem_of_fakeIpIs hfake))
    · rw [if_neg hfake] at hmem
      cases hmem
  · exact dnsPlain_of_mem_ite hmem (dnsPlain_of_server hrules hset rfl remote_mem)

theorem dnsPlain_dnsRoutingRules {item : RulesItem} {other : SingboxRule}
    (hmem : other ∈ dnsRoutingRules simpleDns item) : DnsPlain simpleDns other := by
  unfold dnsRoutingRules at hmem
  rw [parseEach_eq parseV2Domain_eq] at hmem
  have hrule : PlainBare (pushAll ((item.domain.getD []).filterMap domainDestination) {}) :=
    ⟨pushAll_plain _ rfl, routeBare_pushAll _ ⟨rfl, rfl⟩⟩
  simp only at hmem
  split_ifs at hmem
  · cases hmem
  · exact dnsPlain_directDnsRules hrule hmem
  · exact dnsPlain_blockDnsRules hrule hmem
  · exact dnsPlain_proxyDnsRules hrule hmem

theorem plainBare_parseV2Domain {entry : String} {rule rule' : SingboxRule} (h : PlainBare rule)
    (hparse : parseV2Domain entry rule = some rule') : PlainBare rule' := by
  rw [parseV2Domain_eq] at hparse
  obtain ⟨d, _, rfl⟩ := Option.map_eq_some_iff.mp hparse
  exact ⟨pushAll_plain [d] h.1, routeBare_pushAll [d] h.2⟩

theorem plainBare_normalize (host : String) {rule : SingboxRule} (h : PlainBare rule) :
    PlainBare (normalizeBareHostDomain host rule) := by
  unfold normalizeBareHostDomain
  split
  · exact h
  · split
    · exact h
    · exact h

theorem dnsPlain_hostAnswerRule {entry : String × List String} {rule : SingboxRule}
    (h : hostAnswerRule entry = some rule) : DnsPlain simpleDns rule := by
  obtain ⟨predefined, _, h⟩ := Option.bind_eq_some_iff.mp h
  obtain ⟨parsed, hparsed, h⟩ := Option.bind_eq_some_iff.mp h
  obtain ⟨hrules, hset, hserver⟩ := plainBare_normalize entry.1
    (plainBare_parseV2Domain ⟨rfl, rfl, rfl⟩ hparsed)
  simp only at h
  split at h
  · cases h
    exact dnsPlain_of_no_server hrules hset hserver
  · split_ifs at h <;> cases h <;> exact dnsPlain_of_no_server hrules hset hserver

theorem allFields_of_dnsPlain {rules : List SingboxRule}
    (h : ∀ rule ∈ rules, DnsPlain simpleDns rule) :
    AllFields (DnsBare (dnsServerTags simpleDns)) rules := by
  apply allFields_of_forall
  intro rule hrule
  exact allFields_single (h rule hrule).1 (h rule hrule).2

/-- A DNS rule that no setting adds an entry to. -/
def DnsBlankFields (simpleDns : SimpleDnsItem) (fields : SingboxRuleFields) : Prop :=
  DnsBare (dnsServerTags simpleDns) fields ∧ GeoFree fields

theorem allFields_dnsBlank {rule : SingboxRule} (h : DnsPlain simpleDns rule)
    (hgeo : GeoFree rule.toSingboxRuleFields) : AllFields (DnsBlankFields simpleDns) [rule] :=
  allFields_single h.1 ⟨h.2, hgeo⟩

theorem fakeipRule_blank (h : fakeIpIs simpleDns true = true) :
    AllFields (DnsBlankFields simpleDns) [fakeipRule] := by
  have hplain : DnsPlain simpleDns ⟨fakeipRule.toSingboxRuleFields, none⟩ :=
    dnsPlain_of_server rfl rfl rfl (fake_mem_of_fakeIpIs h)
  refine allFields_logical ⟨hplain.2, rfl, rfl⟩ (allFields_cons ?_ ?_)
  · exact allFields_dnsBlank (dnsPlain_of_no_server rfl rfl rfl) ⟨rfl, rfl⟩
  · exact allFields_dnsBlank (dnsPlain_of_no_server rfl rfl rfl) ⟨rfl, rfl⟩

end DnsRules

def dnsHostRules (simpleDns : SimpleDnsItem) : List SingboxRule :=
  (parseHostsToDictionary simpleDns.hosts).toList.filterMap hostAnswerRule

/-- Only the DNS rules of the hosts table and of the user rules can have geo lists. -/
theorem genDnsRules_split (context : CoreConfigContext) :
    ∃ before block fake, genDnsRules context =
        before ++ dnsHostRules context.simpleDnsItem ++ block ++ fake ++
          appendDnsRoutingRules context ∧
      AllFields (DnsBlankFields context.simpleDnsItem) before ∧
      AllFields (DnsBlankFields context.simpleDnsItem) block ∧
      AllFields (DnsBlankFields context.simpleDnsItem) fake := by
  have hfixed : ∀ (fields : SingboxRuleFields) (server : String), GeoFree fields →
      fields.ruleSet = none → fields.server = some server →
      server ∈ dnsServerTags context.simpleDnsItem →
      AllFields (DnsBlankFields context.simpleDnsItem) [⟨fields, none⟩] := by
    intro fields server hgeo hset hserver hmem
    have hplain : DnsPlain context.simpleDnsItem ⟨fields, none⟩ :=
      dnsPlain_of_server rfl hset hserver hmem
    exact allFields_dnsBlank hplain hgeo
  refine ⟨_, _, _, rfl, ?_, ?_, ?_⟩
  · refine allFields_cons (hfixed _ _ ⟨rfl, rfl⟩ rfl rfl hosts_mem) (allFields_append
      (allFields_ite allFields_nil (hfixed _ _ ⟨rfl, rfl⟩ rfl rfl direct_mem)) ?_)
    exact allFields_cons (hfixed _ _ ⟨rfl, rfl⟩ rfl rfl remote_mem)
      (allFields_cons (hfixed _ _ ⟨rfl, rfl⟩ rfl rfl remote_mem)
        (hfixed _ _ ⟨rfl, rfl⟩ rfl rfl direct_mem))
  · exact allFields_ite (allFields_dnsBlank (dnsPlain_of_no_server rfl rfl rfl) ⟨rfl, rfl⟩)
      allFields_nil
  · by_cases hfake : fakeIpIs context.simpleDnsItem true = true
    · rw [if_pos hfake]
      exact fakeipRule_blank hfake
    · rw [if_neg hfake]
      exact allFields_nil

theorem genDnsRules_bare (context : CoreConfigContext) :
    AllFields (DnsBare (dnsServerTags context.simpleDnsItem)) (genDnsRules context) := by
  obtain ⟨before, block, fake, hsplit, hbefore, hblock, hfake⟩ := genDnsRules_split context
  rw [hsplit]
  refine allFields_append (allFields_append (allFields_append (allFields_append ?_ ?_) ?_) ?_) ?_
  · exact fun fields hfields => (hbefore fields hfields).1
  · apply allFields_of_dnsPlain
    intro rule hrule
    obtain ⟨entry, _, hentry⟩ := List.mem_filterMap.mp hrule
    exact dnsPlain_hostAnswerRule hentry
  · exact fun fields hfields => (hblock fields hfields).1
  · exact fun fields hfields => (hfake fields hfields).1
  · apply allFields_of_dnsPlain
    intro rule hrule
    unfold appendDnsRoutingRules at hrule
    cases hrouting : context.routingItem with
    | none =>
      rw [hrouting] at hrule
      cases hrule
    | some routing =>
      rw [hrouting] at hrule
      obtain ⟨item, _, hitem⟩ := List.mem_flatMap.mp hrule
      exact dnsPlain_dnsRoutingRules hitem

end BareRules
