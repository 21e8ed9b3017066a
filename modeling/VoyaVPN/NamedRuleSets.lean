import VoyaVPN.BareRules
import VoyaVPN.SingboxEntry

/-! The rule sets a config mentions, read off the settings: the geo entries of the user rules
the route and DNS sections take, of the hosts table, and of the expected addresses. -/
namespace NamedRuleSets

open Entities AppConfig RustText ContextBuilder SingboxSchema SingboxSupport SingboxOutbounds
open DnsAddress SingboxRouting SingboxDns SingboxExperimental SingboxEntry
open RuleMatching UserRouteRules RoutingSteps NestedRules BareRules

def ruleSetOf : Destination → Option String
  | .geosite value => some ("geosite-" ++ value)
  | .geoip value => some ("geoip-" ++ value)
  | _ => none

theorem mem_convertedRuleSets {fields : SingboxRuleFields} {tag : String} :
    tag ∈ convertedRuleSets fields ↔ ∃ d ∈ destinations fields, ruleSetOf d = some tag := by
  simp only [convertedRuleSets, List.mem_append, List.mem_map, mem_destinations]
  constructor
  · rintro (⟨value, hvalue, rfl⟩ | ⟨value, hvalue, rfl⟩)
    · exact ⟨.geosite value, hvalue, rfl⟩
    · exact ⟨.geoip value, hvalue, rfl⟩
  · rintro ⟨d, hd, htag⟩
    cases d with
    | geosite value => exact Or.inl ⟨value, hd, Option.some.inj htag⟩
    | geoip value => exact Or.inr ⟨value, hd, Option.some.inj htag⟩
    | _ => cases htag

/-- Some rule of the list lists the condition, at any depth. -/
def Mentions (rules : List SingboxRule) (d : Destination) : Prop :=
  ∃ fields ∈ listFields rules, d ∈ destinations fields

theorem mentions_iff {rules : List SingboxRule} {d : Destination} :
    Mentions rules d ↔ ∃ rule ∈ rules, Mentions [rule] d := by
  constructor
  · rintro ⟨fields, hfields, hd⟩
    obtain ⟨rule, hrule, hf⟩ := mem_listFields.mp hfields
    exact ⟨rule, hrule, fields, mem_listFields.mpr ⟨rule, List.mem_singleton_self rule, hf⟩, hd⟩
  · rintro ⟨rule, hrule, fields, hfields, hd⟩
    obtain ⟨other, hother, hf⟩ := mem_listFields.mp hfields
    rw [List.mem_singleton.mp hother] at hf
    exact ⟨fields, mem_listFields.mpr ⟨rule, hrule, hf⟩, hd⟩

theorem mentions_append {first second : List SingboxRule} {d : Destination} :
    Mentions (first ++ second) d ↔ Mentions first d ∨ Mentions second d := by
  rw [mentions_iff, @mentions_iff first, @mentions_iff second]
  simp only [List.mem_append]
  constructor
  · rintro ⟨rule, hrule | hrule, hd⟩
    · exact Or.inl ⟨rule, hrule, hd⟩
    · exact Or.inr ⟨rule, hrule, hd⟩
  · rintro (⟨rule, hrule, hd⟩ | ⟨rule, hrule, hd⟩)
    · exact ⟨rule, Or.inl hrule, hd⟩
    · exact ⟨rule, Or.inr hrule, hd⟩

theorem mentions_plain {rule : SingboxRule} (hrules : rule.rules = none) {d : Destination} :
    Mentions [rule] d ↔ d ∈ destinations rule.toSingboxRuleFields := by
  simp only [Mentions, listFields, nestedFields_plain hrules, List.append_nil, List.mem_singleton,
    exists_eq_left]

theorem mentions_logical {fields : SingboxRuleFields} {nested : List SingboxRule}
    {d : Destination} :
    Mentions [⟨fields, some nested⟩] d ↔ d ∈ destinations fields ∨ Mentions nested d := by
  simp only [Mentions, listFields, nestedFields, List.append_nil, List.mem_cons]
  constructor
  · rintro ⟨f, rfl | hf, hd⟩
    · exact Or.inl hd
    · exact Or.inr ⟨f, hf, hd⟩
  · rintro (hd | ⟨f, hf, hd⟩)
    · exact ⟨fields, Or.inl rfl, hd⟩
    · exact ⟨f, Or.inr hf, hd⟩

/-- The conditions the route rules of a user rule list. -/
def RouteDestination (item : RulesItem) (d : Destination) : Prop :=
  d ∈ keptDomains item ∨
    (negativeIps (ipEntries item) = [] ∧ d ∈ keptIps item) ∨
    (negativeIps (ipEntries item) ≠ [] ∧ keptPositive item ≠ [] ∧
      (d ∈ keptPositive item ∨ d ∈ keptNegative item))

section UserRule

variable (tag : String) (item : RulesItem) (d : Destination)

theorem mentions_pushAll_base (ds : List Destination) :
    Mentions [pushAll ds (baseRule tag item)] d ↔ d ∈ ds := by
  rw [mentions_plain (pushAll_plain ds (baseRule_rules tag item)), mem_destinations_pushAll,
    baseRule_destinations]
  simp

theorem mentions_positive :
    Mentions [positiveIpRule (baseRule tag item) item] d ↔ d ∈ keptPositive item := by
  have hbase : destinations { (baseRule tag item).toSingboxRuleFields with
      outbound := none, action := none } = [] := baseRule_destinations tag item
  have hrules : (positiveIpRule (baseRule tag item) item).rules = none := by
    have hclear : ({ baseRule tag item with outbound := none, action := none } :
        SingboxRule).rules = none := baseRule_rules tag item
    exact pushAll_plain _ hclear
  rw [mentions_plain hrules, positiveIpRule, mem_destinations_pushAll, hbase]
  simp

theorem mentions_negative : Mentions [negativeIpRule item] d ↔ d ∈ keptNegative item := by
  have hrules : (negativeIpRule item).rules = none := by
    have hempty : ({} : SingboxRule).rules = none := rfl
    exact pushAll_plain (keptNegative item) hempty
  have hpushed := mem_destinations_pushAll d (keptNegative item) {}
  have hinvert : destinations (negativeIpRule item).toSingboxRuleFields =
      destinations (pushAll (keptNegative item) {}).toSingboxRuleFields := rfl
  rw [mentions_plain hrules, hinvert, hpushed]
  have hempty : d ∉ destinations {} := by
    rw [mem_destinations]
    cases d <;> simp [Destination.Listed]
  exact or_iff_left hempty

theorem mentions_mixed :
    Mentions [mixedIpRule (baseRule tag item) item] d ↔
      d ∈ keptPositive item ∨ d ∈ keptNegative item := by
  have hpair : Mentions [positiveIpRule (baseRule tag item) item, negativeIpRule item] d ↔
      d ∈ keptPositive item ∨ d ∈ keptNegative item := by
    rw [← mentions_positive tag item d, ← mentions_negative item d, ← mentions_append]
    rfl
  have houter : d ∉ destinations {
      outbound := (baseRule tag item).outbound
      action := (baseRule tag item).action
      type := some "logical"
      mode := some "and" } := by
    rw [mem_destinations]
    cases d <;> simp [Destination.Listed]
  rw [mixedIpRule, mentions_logical, hpair]
  exact or_iff_right houter

theorem mentions_processName :
    ¬Mentions [processNameRule (baseRule tag item) item] d := by
  have hbase : destinations { (baseRule tag item).toSingboxRuleFields with
      processName := (processNames item).foldl pushItem none } = [] :=
    baseRule_destinations tag item
  have hrules : (processNameRule (baseRule tag item) item).rules = none := baseRule_rules tag item
  rw [mentions_plain hrules, processNameRule, hbase]
  exact List.not_mem_nil

theorem mentions_processPath :
    ¬Mentions [processPathRule (baseRule tag item) item] d := by
  have hbase : destinations { (baseRule tag item).toSingboxRuleFields with
      processPath := (processPaths item).foldl pushItem none } = [] :=
    baseRule_destinations tag item
  have hrules : (processPathRule (baseRule tag item) item).rules = none := baseRule_rules tag item
  rw [mentions_plain hrules, processPathRule, hbase]
  exact List.not_mem_nil

/-- The route rules of a user rule list its readable entries, and nothing else. -/
theorem mentions_userRouteRules :
    Mentions (userRouteRules tag item) d ↔ RouteDestination item d := by
  rw [mentions_iff]
  constructor
  · rintro ⟨rule, hrule, hd⟩
    rcases (mem_userRouteRules tag item rule).mp hrule with ⟨_, rfl⟩ | ⟨hneg, _, rfl⟩ |
      ⟨hneg, hp, _, rfl⟩ | ⟨hneg, hp, _, rfl⟩ | ⟨_, rfl⟩ | ⟨_, rfl⟩ | ⟨_, _, rfl⟩
    · exact Or.inl ((mentions_pushAll_base tag item d _).mp hd)
    · exact Or.inr (Or.inl ⟨hneg, (mentions_pushAll_base tag item d _).mp hd⟩)
    · exact Or.inr (Or.inr ⟨hneg, hp, Or.inl ((mentions_positive tag item d).mp hd)⟩)
    · exact Or.inr (Or.inr ⟨hneg, hp, (mentions_mixed tag item d).mp hd⟩)
    · exact absurd hd (mentions_processName tag item d)
    · exact absurd hd (mentions_processPath tag item d)
    · have hnone := (mentions_pushAll_base tag item d []).mp hd
      cases hnone
  · rintro (hd | ⟨hneg, hd⟩ | ⟨hneg, hp, hd⟩)
    · exact ⟨_, (mem_userRouteRules tag item _).mpr (Or.inl ⟨List.ne_nil_of_mem hd, rfl⟩),
        (mentions_pushAll_base tag item d _).mpr hd⟩
    · refine ⟨_, (mem_userRouteRules tag item _).mpr
        (Or.inr (Or.inl ⟨hneg, List.ne_nil_of_mem hd, rfl⟩)), ?_⟩
      exact (mentions_pushAll_base tag item d _).mpr hd
    · by_cases hn : keptNegative item = []
      · refine ⟨_, (mem_userRouteRules tag item _).mpr
          (Or.inr (Or.inr (Or.inl ⟨hneg, hp, hn, rfl⟩))), ?_⟩
        rw [hn] at hd
        exact (mentions_positive tag item d).mpr (hd.resolve_right List.not_mem_nil)
      · exact ⟨_, (mem_userRouteRules tag item _).mpr
          (Or.inr (Or.inr (Or.inr (Or.inl ⟨hneg, hp, hn, rfl⟩)))),
          (mentions_mixed tag item d).mpr hd⟩

end UserRule

theorem not_mentions_of_geoFree {rules : List SingboxRule} (h : AllFields GeoFree rules)
    {d : Destination} {tag : String} (htag : ruleSetOf d = some tag) : ¬Mentions rules d := by
  rintro ⟨fields, hfields, hd⟩
  obtain ⟨hsite, hip⟩ := h fields hfields
  rw [mem_destinations] at hd
  cases d with
  | geosite value =>
    rw [Destination.Listed, hsite] at hd
    cases hd
  | geoip value =>
    rw [Destination.Listed, hip] at hd
    cases hd
  | _ => cases htag

/-- The geosite name a hosts line has in the place of a host. -/
def hostGeosite (host : String) : Option String :=
  match domainDestination host with
  | some (.geosite value) => some value
  | _ => none

/-- What a host adds to the geo lists, and to the count of the hosts read. -/
theorem addHost_geo (acc : SingboxRule × ℕ) (host : String) :
    (addHost acc host).1.geosite.getD [] = acc.1.geosite.getD [] ++ (hostGeosite host).toList ∧
      (addHost acc host).1.geoip = acc.1.geoip ∧
      acc.2 + (hostGeosite host).toList.length ≤ (addHost acc host).2 := by
  unfold addHost hostGeosite
  rw [parseV2Domain_eq]
  cases hd : domainDestination host with
  | none => simp
  | some d =>
    simp only [Option.map_some, normalizeBareHostDomain]
    by_cases hc : containsChar host (· == ':') = true
    · cases d <;> simp [hc, Destination.push, pushItem]
    · cases d <;> simp [hc, Destination.push, pushItem]

theorem addHosts_geo (hosts : List String) (acc : SingboxRule × ℕ) :
    (hosts.foldl addHost acc).1.geosite.getD [] =
        acc.1.geosite.getD [] ++ hosts.filterMap hostGeosite ∧
      (hosts.foldl addHost acc).1.geoip = acc.1.geoip ∧
      acc.2 + (hosts.filterMap hostGeosite).length ≤ (hosts.foldl addHost acc).2 := by
  induction hosts generalizing acc with
  | nil => simp
  | cons host rest ih =>
    obtain ⟨hsite, hip, hcount⟩ := addHost_geo acc host
    obtain ⟨hsite', hip', hcount'⟩ := ih (addHost acc host)
    have hfilter : (host :: rest).filterMap hostGeosite =
        (hostGeosite host).toList ++ rest.filterMap hostGeosite := by
      rw [List.filterMap_cons]
      cases hostGeosite host <;> rfl
    rw [List.foldl_cons, hfilter]
    refine ⟨?_, hip'.trans hip, ?_⟩
    · rw [hsite', hsite, List.append_assoc]
    · rw [List.length_append]
      omega

def hostKeys (simpleDns : SimpleDnsItem) : List String :=
  (parseHostsToDictionary simpleDns.hosts).keys

theorem mentions_hostsResolveRule (simpleDns : SimpleDnsItem) {d : Destination} {tag : String}
    (htag : ruleSetOf d = some tag) :
    Mentions (hostsResolveRule simpleDns).toList d ↔
      ∃ host ∈ hostKeys simpleDns, domainDestination host = some d := by
  obtain ⟨hsite, hip, hcount⟩ :=
    addHosts_geo (hostKeys simpleDns) ({ action := some "resolve" }, 0)
  have hplain : PlainBare ((hostKeys simpleDns).foldl addHost
    ({ action := some "resolve" }, 0)).1 :=
    plainBare_addHosts _ ⟨rfl, rfl, rfl⟩
  have hrule : (hostsResolveRule simpleDns).toList =
      if 0 < ((hostKeys simpleDns).foldl addHost ({ action := some "resolve" }, 0)).2 then
        [((hostKeys simpleDns).foldl addHost ({ action := some "resolve" }, 0)).1]
      else [] := by
    rw [hostsResolveRule]
    change (if 0 < ((hostKeys simpleDns).foldl addHost ({ action := some "resolve" }, 0)).2 then
      some _ else none).toList = _
    split
    · rfl
    · rfl
  rw [hrule]
  cases d with
  | geosite value =>
    have hmem : value ∈ (hostKeys simpleDns).filterMap hostGeosite ↔
        ∃ host ∈ hostKeys simpleDns, domainDestination host = some (.geosite value) := by
      rw [List.mem_filterMap]
      constructor
      · rintro ⟨host, hhost, hvalue⟩
        refine ⟨host, hhost, ?_⟩
        unfold hostGeosite at hvalue
        split at hvalue
        · cases hvalue
          assumption
        · cases hvalue
      · rintro ⟨host, hhost, hvalue⟩
        exact ⟨host, hhost, by rw [hostGeosite, hvalue]⟩
    rw [← hmem]
    by_cases hpos : 0 < ((hostKeys simpleDns).foldl addHost ({ action := some "resolve" }, 0)).2
    · rw [if_pos hpos, mentions_plain hplain.1, mem_destinations, Destination.Listed, hsite]
      rfl
    · rw [if_neg hpos]
      have hnil : (hostKeys simpleDns).filterMap hostGeosite = [] := by
        rw [← List.length_eq_zero_iff]
        omega
      rw [hnil]
      refine iff_of_false ?_ List.not_mem_nil
      rintro ⟨_, hfields, _⟩
      cases hfields
  | geoip value =>
    refine iff_of_false ?_ ?_
    · intro h
      obtain ⟨rule, hmem, hd⟩ := mentions_iff.mp h
      split at hmem
      · rw [List.mem_singleton] at hmem
        rw [hmem, mentions_plain hplain.1, mem_destinations, Destination.Listed, hip] at hd
        cases hd
      · cases hmem
    · rintro ⟨host, _, hvalue⟩
      cases domainDestination_not_address hvalue
  | _ => cases htag

theorem mentions_read_host {read d : Destination} {tag : String} {rule : SingboxRule}
    (h : Mentions [rule] d) (htag : ruleSetOf d = some tag) (hread : read.isAddress = false)
    (hrules : rule.rules = none) (hsite : rule.geosite = (read.push {}).geosite)
    (hip : rule.geoip = (read.push {}).geoip) : read = d := by
  rw [mentions_plain hrules, mem_destinations] at h
  cases d with
  | geosite value =>
    rw [Destination.Listed, hsite] at h
    cases read <;> simp [Destination.push, pushItem] at h
    rw [h]
  | geoip value =>
    rw [Destination.Listed, hip] at h
    cases read <;> simp [Destination.push, pushItem] at h
    cases hread
  | _ => cases htag

theorem push_geo (d : Destination) (rule : SingboxRule) (hsite : rule.geosite = none)
    (hip : rule.geoip = none) (hrules : rule.rules = none) :
    (d.push rule).geosite = (d.push {}).geosite ∧ (d.push rule).geoip = (d.push {}).geoip ∧
      (d.push rule).rules = none := by
  cases d <;> simp [Destination.push, hsite, hip, hrules]

theorem normalize_geo (host : String) (rule : SingboxRule) :
    (normalizeBareHostDomain host rule).geosite = rule.geosite ∧
      (normalizeBareHostDomain host rule).geoip = rule.geoip ∧
      (normalizeBareHostDomain host rule).rules = rule.rules := by
  unfold normalizeBareHostDomain
  split
  · exact ⟨rfl, rfl, rfl⟩
  · split
    · exact ⟨rfl, rfl, rfl⟩
    · exact ⟨rfl, rfl, rfl⟩

/-- The answers of the hosts table mention no rule set that its route rule does not. -/
theorem mentions_dnsHostRules {simpleDns : SimpleDnsItem} {d : Destination} {tag : String}
    (htag : ruleSetOf d = some tag) (h : Mentions (dnsHostRules simpleDns) d) :
    ∃ host ∈ hostKeys simpleDns, domainDestination host = some d := by
  obtain ⟨rule, hrule, hd⟩ := mentions_iff.mp h
  obtain ⟨entry, hentry, hanswer⟩ := List.mem_filterMap.mp hrule
  have hkey : entry.1 ∈ hostKeys simpleDns := by
    rw [hostKeys, ← Std.ExtTreeMap.map_fst_toList_eq_keys]
    exact List.mem_map_of_mem hentry
  refine ⟨entry.1, hkey, ?_⟩
  obtain ⟨predefined, _, hanswer⟩ := Option.bind_eq_some_iff.mp hanswer
  obtain ⟨parsed, hparsed, hanswer⟩ := Option.bind_eq_some_iff.mp hanswer
  rw [parseV2Domain_eq] at hparsed
  obtain ⟨read, hread, rfl⟩ := Option.map_eq_some_iff.mp hparsed
  rw [hread]
  have haddress := domainDestination_not_address hread
  obtain ⟨hsite, hip, hrules⟩ := normalize_geo entry.1 (read.push {
    queryType := some [1, 5, 28]
    action := some "predefined"
    rcode := some "NOERROR" })
  obtain ⟨hsite', hip', hrules'⟩ := push_geo read {
    queryType := some [1, 5, 28]
    action := some "predefined"
    rcode := some "NOERROR" } rfl rfl rfl
  have hsite := hsite.trans hsite'
  have hip := hip.trans hip'
  have hrules := hrules.trans hrules'
  simp only at hanswer
  split at hanswer
  · cases hanswer
    rw [mentions_read_host hd htag haddress hrules hsite hip]
  · split_ifs at hanswer <;> cases hanswer <;>
      rw [mentions_read_host hd htag haddress hrules hsite hip]

def expectedRegions (simpleDns : SimpleDnsItem) : List String :=
  (parseDirectExpectedIps simpleDns.directExpectedIps).2.1

/-- The region the geosites of direct rules are compared with: the last expected one. -/
def expectedRegion (simpleDns : SimpleDnsItem) : String :=
  (parseDirectExpectedIps simpleDns.directExpectedIps).2.2

def ofExpectedRegion (simpleDns : SimpleDnsItem) (geosite : String) : Bool :=
  endsWith geosite ("-" ++ expectedRegion simpleDns) ||
    endsWith geosite ("@" ++ expectedRegion simpleDns) || geosite == expectedRegion simpleDns

/-- The geo conditions the DNS rules of a user rule list: its domains, and for a direct rule
with a geosite of the expected region the expected regions. -/
def DnsDestination (simpleDns : SimpleDnsItem) (item : RulesItem) (d : Destination) : Prop :=
  d ∈ keptDomains item ∨
    (item.outboundTag = some directTag ∧ isEmpty (expectedRegion simpleDns) = false ∧
      (∃ site, .geosite site ∈ keptDomains item ∧ ofExpectedRegion simpleDns site = true) ∧
      ∃ region ∈ expectedRegions simpleDns, d = .geoip region)

theorem dnsRuleHasMatcher_of_geo {rule : SingboxRule} {d : Destination} {tag : String}
    (htag : ruleSetOf d = some tag) (h : d ∈ destinations rule.toSingboxRuleFields) :
    dnsRuleHasMatcher rule = true := by
  rw [mem_destinations] at h
  unfold dnsRuleHasMatcher
  cases d with
  | geosite value => simp [hasItems_of_mem h]
  | geoip value => simp [hasItems_of_mem h]
  | _ => cases htag

theorem mentions_ite_matcher {rule : SingboxRule} {d : Destination} {tag : String}
    (htag : ruleSetOf d = some tag) (hrules : rule.rules = none) :
    Mentions (if dnsRuleHasMatcher rule then [rule] else []) d ↔
      d ∈ destinations rule.toSingboxRuleFields := by
  by_cases hmatcher : dnsRuleHasMatcher rule = true
  · rw [if_pos hmatcher, mentions_plain hrules]
  · rw [if_neg hmatcher]
    refine iff_of_false (fun ⟨_, hfields, _⟩ => by cases hfields) ?_
    exact fun h => hmatcher (dnsRuleHasMatcher_of_geo htag h)

/-- The rule of the domains of a user rule, before its DNS server is chosen. -/
def domainsRule (item : RulesItem) : SingboxRule := pushAll (keptDomains item) {}

theorem domainsRule_rules (item : RulesItem) : (domainsRule item).rules = none := by
  have hempty : ({} : SingboxRule).rules = none := rfl
  exact pushAll_plain (keptDomains item) hempty

theorem mem_destinations_domainsRule {item : RulesItem} {d : Destination} :
    d ∈ destinations (domainsRule item).toSingboxRuleFields ↔ d ∈ keptDomains item := by
  have hempty : d ∉ destinations {} := by
    rw [mem_destinations]
    cases d <;> simp [Destination.Listed]
  rw [domainsRule, mem_destinations_pushAll]
  exact or_iff_left hempty

theorem mem_geosite_domainsRule {item : RulesItem} {site : String} :
    site ∈ (domainsRule item).geosite.getD [] ↔ .geosite site ∈ keptDomains item := by
  rw [← mem_destinations_domainsRule, mem_destinations]
  rfl

theorem geoip_not_mem_keptDomains {item : RulesItem} {region : String} :
    .geoip region ∉ keptDomains item := by
  intro h
  obtain ⟨entry, _, hentry⟩ := List.mem_filterMap.mp h
  cases domainDestination_not_address hentry

theorem mentions_directDnsRules {simpleDns : SimpleDnsItem} {item : RulesItem} {d : Destination}
    {tag : String} (htag : ruleSetOf d = some tag) (hdirect : item.outboundTag = some directTag) :
    Mentions (directDnsRules simpleDns (domainsRule item)) d ↔
      DnsDestination simpleDns item d := by
  have hrules := domainsRule_rules item
  have hmatched : ∀ site, site ∈ ((domainsRule item).geosite.getD []).filter
      (ofExpectedRegion simpleDns) ↔
        .geosite site ∈ keptDomains item ∧ ofExpectedRegion simpleDns site = true := by
    intro site
    rw [List.mem_filter, mem_geosite_domainsRule]
  by_cases hsplit : (!(expectedRegions simpleDns).isEmpty && !isEmpty (expectedRegion simpleDns) &&
      !(((domainsRule item).geosite.getD []).filter (ofExpectedRegion simpleDns)).isEmpty) = true
  · have hunfold : ∃ expected rest, directDnsRules simpleDns (domainsRule item) =
        expected :: (if dnsRuleHasMatcher rest then [rest] else []) ∧
        expected.rules = none ∧ rest.rules = none ∧
        expected.geosite =
          some (((domainsRule item).geosite.getD []).filter (ofExpectedRegion simpleDns)) ∧
        expected.geoip = some (expectedRegions simpleDns) ∧
        rest.geosite = (domainsRule item).geosite.map (fun sites => sites.filter
          (!(((domainsRule item).geosite.getD []).filter
            (ofExpectedRegion simpleDns)).contains ·)) ∧
        rest.geoip = (domainsRule item).geoip := by
      refine ⟨_, _, if_pos hsplit, ?_⟩
      exact ⟨hrules, hrules, rfl, rfl, rfl, rfl⟩
    obtain ⟨expected, rest, hrulesEq, hexpected, hrest, hsite, hip, hsite', hip'⟩ := hunfold
    have hboth : Mentions (directDnsRules simpleDns (domainsRule item)) d ↔
        d ∈ destinations expected.toSingboxRuleFields ∨
          d ∈ destinations rest.toSingboxRuleFields := by
      rw [hrulesEq, ← mentions_plain hexpected, ← mentions_ite_matcher htag hrest,
        ← mentions_append]
      rfl
    rw [Bool.and_eq_true, Bool.and_eq_true, Bool.not_eq_true', Bool.not_eq_true',
      Bool.not_eq_true', List.isEmpty_eq_false_iff] at hsplit
    obtain ⟨⟨hregions, hregion⟩, hsome⟩ := hsplit
    rw [List.isEmpty_eq_false_iff] at hsome
    obtain ⟨someSite, hsomeSite⟩ := List.exists_mem_of_ne_nil _ hsome
    rw [hboth, mem_destinations, mem_destinations]
    cases d with
    | geosite site =>
      have hrest : site ∈ rest.geosite.getD [] ↔ .geosite site ∈ keptDomains item ∧
          ¬(.geosite site ∈ keptDomains item ∧ ofExpectedRegion simpleDns site = true) := by
        rw [hsite', ← hmatched site, ← mem_geosite_domainsRule]
        cases (domainsRule item).geosite with
        | none => simp
        | some sites =>
          by_cases hin : site ∈ sites
          · simp [hin]
          · simp [hin]
      rw [Destination.Listed, Destination.Listed, hsite, Option.getD_some, hmatched site, hrest]
      constructor
      · rintro (h | h)
        · exact Or.inl h.1
        · exact Or.inl h.1
      · rintro (h | ⟨_, _, _, _, _, h⟩)
        · by_cases hof : ofExpectedRegion simpleDns site = true
          · exact Or.inl ⟨h, hof⟩
          · exact Or.inr ⟨h, fun hboth => hof hboth.2⟩
        · cases h
    | geoip region =>
      have hnone : (domainsRule item).geoip.getD [] = [] := by
        rw [List.eq_nil_iff_forall_not_mem]
        intro other hother
        have hlisted : Destination.geoip other ∈
            destinations (domainsRule item).toSingboxRuleFields :=
          (mem_destinations _ _).mpr hother
        exact geoip_not_mem_keptDomains (mem_destinations_domainsRule.mp hlisted)
      rw [Destination.Listed, Destination.Listed, hip, hip', hnone, Option.getD_some]
      constructor
      · rintro (h | h)
        · exact Or.inr ⟨hdirect, hregion, ⟨someSite, (hmatched someSite).mp hsomeSite⟩, region, h,
            rfl⟩
        · cases h
      · rintro (h | ⟨_, _, _, other, hother, h⟩)
        · exact absurd h geoip_not_mem_keptDomains
        · cases h
          exact Or.inl hother
    | _ => cases htag
  · have hunfold : ∃ rule, directDnsRules simpleDns (domainsRule item) =
        (if dnsRuleHasMatcher rule then [rule] else []) ∧ rule.rules = none ∧
        destinations rule.toSingboxRuleFields =
          destinations (domainsRule item).toSingboxRuleFields :=
      ⟨_, if_neg hsplit, hrules, rfl⟩
    obtain ⟨rule, hrulesEq, hrule, hdestinations⟩ := hunfold
    rw [hrulesEq, mentions_ite_matcher htag hrule, hdestinations, mem_destinations_domainsRule]
    refine ⟨Or.inl, fun h => h.resolve_right ?_⟩
    rintro ⟨_, hregion, ⟨site, hsite, hof⟩, region, hmem, _⟩
    refine absurd ?_ hsplit
    have hne := List.ne_nil_of_mem ((hmatched site).mpr ⟨hsite, hof⟩)
    have hne' := List.ne_nil_of_mem hmem
    simp [hne', hregion, List.isEmpty_eq_false_iff.mpr hne]

/-- The DNS rules of a user rule mention its geosites, and the expected regions where a
direct rule is split. -/
theorem mentions_dnsRoutingRules {simpleDns : SimpleDnsItem} {item : RulesItem}
    {d : Destination} {tag : String} (htag : ruleSetOf d = some tag) :
    Mentions (dnsRoutingRules simpleDns item) d ↔ DnsDestination simpleDns item d := by
  have hparse : parseEach parseV2Domain (item.domain.getD []) {} =
      (domainsRule item, (keptDomains item).length) := parseEach_eq parseV2Domain_eq _ _
  have hrules := domainsRule_rules item
  rw [dnsRoutingRules, hparse]
  simp only
  by_cases hnone : (keptDomains item).length = 0
  · rw [if_pos hnone]
    have hnil := List.length_eq_zero_iff.mp hnone
    refine iff_of_false (fun ⟨_, hfields, _⟩ => by cases hfields) ?_
    rintro (h | ⟨_, _, ⟨_, h, _⟩, _⟩)
    · rw [hnil] at h
      cases h
    · rw [hnil] at h
      cases h
  rw [if_neg hnone]
  by_cases hdirect : item.outboundTag = some directTag
  · rw [if_pos hdirect, mentions_directDnsRules htag hdirect]
  rw [if_neg hdirect]
  have hdns : DnsDestination simpleDns item d ↔ d ∈ keptDomains item :=
    ⟨fun h => h.resolve_right fun h => hdirect h.1, Or.inl⟩
  rw [hdns, ← mem_destinations_domainsRule]
  by_cases hblock : item.outboundTag = some blockTag
  · rw [if_pos hblock]
    exact mentions_ite_matcher htag hrules
  · rw [if_neg hblock, proxyDnsRules, mentions_append]
    rw [mentions_ite_matcher htag (by exact hrules)]
    refine ⟨fun h => h.elim ?_ id, Or.inr⟩
    intro h
    obtain ⟨rule, hmem, hd⟩ := mentions_iff.mp h
    split at hmem
    · rw [List.mem_singleton] at hmem
      subst hmem
      rw [mentions_plain (by exact hrules)] at hd
      exact hd
    · cases hmem

def dnsRoutedRules (routing : RoutingItem) : List RulesItem :=
  routing.ruleSet.filter fun item => item.enabled && item.ruleType != some .routing

/-- The settings name the rule set: in a host, or in an entry of a user rule that the route
or the DNS section takes. -/
def UsesRuleSet (routingItem : Option RoutingItem) (simpleDns : SimpleDnsItem) (tag : String) :
    Prop :=
  ∃ d, ruleSetOf d = some tag ∧
    ((∃ host ∈ hostKeys simpleDns, domainDestination host = some d) ∨
      (∃ routing, routingItem = some routing ∧
        ∃ item ∈ routedRules routing, RouteDestination item d) ∨
      ∃ routing, routingItem = some routing ∧
        ∃ item ∈ dnsRoutedRules routing, DnsDestination simpleDns item d)

section Route

variable {crates : Crates} {fuel : ℕ} {context : CoreConfigContext} {d : Destination}

theorem mentions_genRoutingUserRule {config config' : SingboxConfig} {item : RulesItem}
    (h : genRoutingUserRule crates fuel context config item = some config') :
    Mentions config'.route.rules d ↔ Mentions config.route.rules d ∨ RouteDestination item d := by
  obtain ⟨⟨config₁, tag⟩, hfound, rfl⟩ := Option.map_eq_some_iff.mp h
  have hpushed : (pushRouteRules config₁ (userRouteRules tag item)).route.rules =
      config.route.rules ++ userRouteRules tag item := by
    rw [← genRoutingUserRuleOutbound_route hfound]
    rfl
  rw [hpushed, mentions_append, mentions_userRouteRules]

theorem mentions_userRules {items : List RulesItem} {config config' : SingboxConfig}
    (h : items.foldlM (genRoutingUserRule crates fuel context) config = some config') :
    Mentions config'.route.rules d ↔
      Mentions config.route.rules d ∨ ∃ item ∈ items, RouteDestination item d := by
  induction items generalizing config with
  | nil =>
    cases h
    simp
  | cons item rest ih =>
    rw [List.foldlM_cons] at h
    obtain ⟨config₁, hstep, h⟩ := Option.bind_eq_some_iff.mp h
    rw [ih h, mentions_genRoutingUserRule hstep]
    simp only [List.mem_cons, exists_eq_or_imp, or_assoc]

theorem mentions_fixedRouteRules {tag : String} (htag : ruleSetOf d = some tag) :
    Mentions (fixedRouteRules context) d ↔
      ∃ host ∈ hostKeys context.simpleDnsItem, domainDestination host = some d := by
  obtain ⟨before, after, hbefore, hafter, hsplit⟩ := fixedRouteRules_split context
  have hbefore := not_mentions_of_geoFree (fun fields hf => (hbefore fields hf).2) htag
  have hafter := not_mentions_of_geoFree (fun fields hf => (hafter fields hf).2) htag
  rw [hsplit, mentions_append, mentions_append, or_iff_left hafter, or_iff_right hbefore,
    mentions_hostsResolveRule _ htag]

/-- The route rules mention the rule sets of the hosts table and of the user rules taken. -/
theorem mentions_genRouting {config config' : SingboxConfig} {tag : String}
    (hrules : config.route.rules = []) (htag : ruleSetOf d = some tag)
    (h : genRouting crates fuel config context = some config') :
    Mentions config'.route.rules d ↔
      (∃ host ∈ hostKeys context.simpleDnsItem, domainDestination host = some d) ∨
        ∃ routing, context.routingItem = some routing ∧
          ∃ item ∈ routedRules routing, RouteDestination item d := by
  have hfixed : (pushRouteRules (routeSettings config context)
      (fixedRouteRules context)).route.rules = fixedRouteRules context := by
    have hkept : (pushRouteRules (routeSettings config context)
        (fixedRouteRules context)).route.rules =
          config.route.rules ++ fixedRouteRules context := rfl
    rw [hkept, hrules, List.nil_append]
  rw [← mentions_fixedRouteRules htag, ← hfixed]
  unfold genRouting at h
  cases hrouting : context.routingItem with
  | none =>
    rw [hrouting] at h
    cases h
    simp
  | some routing =>
    simp only [hrouting] at h
    obtain ⟨c, hfirst, h⟩ := Option.bind_eq_some_iff.mp h
    have hc := mentions_userRules (d := d) hfirst
    simp only [Option.some.injEq, exists_eq_left']
    by_cases hstrategy : context.appConfig.routingBasicItem.domainStrategy = ipIfNonMatch
    · rw [if_pos hstrategy] at h
      have hresolve : ¬Mentions [resolveRule context] d := by
        have hfree : AllFields GeoFree [resolveRule context] := allFields_single rfl ⟨rfl, rfl⟩
        exact not_mentions_of_geoFree hfree htag
      have hmiddle : (pushRouteRules c [resolveRule context]).route.rules =
          c.route.rules ++ [resolveRule context] := rfl
      rw [mentions_userRules h, hmiddle, mentions_append, or_iff_left hresolve, hc]
      constructor
      · rintro (h | ⟨item, hitem, hd⟩)
        · exact h
        · exact Or.inr ⟨item, (List.mem_filter.mp hitem).1, hd⟩
      · exact Or.inl
    · rw [if_neg hstrategy] at h
      cases h
      exact hc

theorem mentions_appendDnsRoutingRules {tag : String} (htag : ruleSetOf d = some tag) :
    Mentions (appendDnsRoutingRules context) d ↔
      ∃ routing, context.routingItem = some routing ∧
        ∃ item ∈ dnsRoutedRules routing, DnsDestination context.simpleDnsItem item d := by
  unfold appendDnsRoutingRules
  cases context.routingItem with
  | none => exact iff_of_false (fun ⟨_, hfields, _⟩ => by cases hfields) (by simp)
  | some routing =>
    simp only [Option.some.injEq, exists_eq_left']
    constructor
    · intro h
      obtain ⟨rule, hrule, hd⟩ := mentions_iff.mp h
      obtain ⟨item, hitem, hrule⟩ := List.mem_flatMap.mp hrule
      exact ⟨item, hitem, (mentions_dnsRoutingRules htag).mp (mentions_iff.mpr ⟨rule, hrule, hd⟩)⟩
    · rintro ⟨item, hitem, hd⟩
      obtain ⟨rule, hrule, hd⟩ := mentions_iff.mp ((mentions_dnsRoutingRules htag).mpr hd)
      exact mentions_iff.mpr ⟨rule, List.mem_flatMap.mpr ⟨item, hitem, hrule⟩, hd⟩

theorem mentions_genDnsRules {tag : String} (htag : ruleSetOf d = some tag) :
    (Mentions (genDnsRules context) d →
      (∃ host ∈ hostKeys context.simpleDnsItem, domainDestination host = some d) ∨
        Mentions (appendDnsRoutingRules context) d) ∧
      (Mentions (appendDnsRoutingRules context) d → Mentions (genDnsRules context) d) := by
  obtain ⟨before, block, fake, hsplit, hbefore, hblock, hfake⟩ := genDnsRules_split context
  have hbefore := not_mentions_of_geoFree (fun fields hf => (hbefore fields hf).2) htag
  have hblock := not_mentions_of_geoFree (fun fields hf => (hblock fields hf).2) htag
  have hfake := not_mentions_of_geoFree (fun fields hf => (hfake fields hf).2) htag
  rw [hsplit, mentions_append, mentions_append, mentions_append, mentions_append,
    or_iff_left hfake, or_iff_left hblock, or_iff_right hbefore]
  exact ⟨fun h => h.imp_left (mentions_dnsHostRules htag), Or.inr⟩

end Route

end NamedRuleSets
