import VoyaVPN.BareRules
import VoyaVPN.SingboxEntry

/-! Every rule set and every DNS server the generated config mentions is defined in it: no
geo list survives at any depth, and the rule sets defined are exactly those mentioned. -/
namespace ReferenceClosure

open Entities AppConfig RustText ContextBuilder SingboxSchema SingboxSupport SingboxOutbounds
open SingboxInbounds SingboxRouting SingboxDns SingboxExperimental SingboxEntry
open NestedRules BareRules

def dnsRules (config : SingboxConfig) : List SingboxRule :=
  (config.dns.map fun dns => dns.rules).getD []

def dnsServers (config : SingboxConfig) : List SingboxDnsServer :=
  (config.dns.map fun dns => dns.servers).getD []

def allRuleFields (config : SingboxConfig) : List SingboxRuleFields :=
  listFields config.route.rules ++ listFields (dnsRules config)

def mentionedRuleSets (config : SingboxConfig) : List String :=
  (allRuleFields config).flatMap fun fields => fields.ruleSet.getD []

def definedRuleSets (config : SingboxConfig) : List (Option String) :=
  (config.route.ruleSet.getD []).map fun ruleset => ruleset.tag

/-- The DNS servers the config mentions: in rules, as resolvers, and as the final server. -/
def mentionedDnsServers (config : SingboxConfig) : List String :=
  ((allRuleFields config).filterMap fun fields => fields.server) ++
    ((dnsServers config).filterMap fun server => server.domainResolver) ++
    (config.dns.bind fun dns => dns.finalServer).toList ++
    (config.route.defaultDomainResolver.bind fun rule => rule.server).toList

def definedDnsServers (config : SingboxConfig) : List String :=
  (dnsServers config).map fun server => server.tag

structure ReferencesClosed (simpleDns : SimpleDnsItem) (config : SingboxConfig) : Prop where
  noGeo : ∀ fields ∈ allRuleFields config,
    hasItems fields.geosite = false ∧ hasItems fields.geoip = false
  ruleSets : ∀ tag, tag ∈ definedRuleSets config ↔ tag ∈ (mentionedRuleSets config).map some
  ruleSetsOnce : (definedRuleSets config).Nodup
  dnsServers : ∀ tag ∈ mentionedDnsServers config, tag ∈ definedDnsServers config
  dnsServersOnce : (definedDnsServers config).Nodup
  fakeIp : singboxFakeDnsTag ∈ definedDnsServers config ↔ simpleDns.fakeIp = some true

theorem hasItems_convertFields (fields : SingboxRuleFields) :
    hasItems (convertFields fields).geosite = false ∧
      hasItems (convertFields fields).geoip = false := by
  have dropped : ∀ items : Option (List String),
      hasItems (if hasItems items then none else items) = false := by
    intro items
    cases hitems : hasItems items with
    | true => rfl
    | false => exact hitems
  exact ⟨dropped fields.geosite, dropped fields.geoip⟩

theorem convertFields_ruleSet {fields : SingboxRuleFields} (h : fields.ruleSet = none) :
    (convertFields fields).ruleSet.getD [] = convertedRuleSets fields := by
  unfold convertFields
  by_cases hempty : (convertedRuleSets fields).isEmpty = true
  · simp only [hempty, if_true, h, Option.getD_none]
    exact (List.isEmpty_iff.mp hempty).symm
  · simp [hempty, h]

theorem convertFields_ruleSet_nonempty {fields : SingboxRuleFields} (h : fields.ruleSet = none)
    {tag : String} (htag : tag ∈ (convertFields fields).ruleSet.getD []) : isEmpty tag = false := by
  have named : ∀ kind item : String, kind.toList ≠ [] → isEmpty (kind ++ item) = false := by
    intro kind item hkind
    rw [isEmpty, String.toList_append, List.isEmpty_eq_false_iff]
    exact List.append_ne_nil_of_left_ne_nil hkind _
  rw [convertFields_ruleSet h] at htag
  rcases List.mem_append.mp htag with hsite | hip
  · obtain ⟨item, _, rfl⟩ := List.mem_map.mp hsite
    exact named "geosite-" item (by decide)
  · obtain ⟨item, _, rfl⟩ := List.mem_map.mp hip
    exact named "geoip-" item (by decide)

theorem mem_uniqueSorted {tags : List String} {tag : String} :
    tag ∈ uniqueSorted tags ↔ tag ∈ tags := by
  rw [uniqueSorted, (List.perm_insertionSort _ _).mem_iff, List.mem_dedup]

theorem nodup_uniqueSorted (tags : List String) : (uniqueSorted tags).Nodup :=
  (List.perm_insertionSort _ _).nodup_iff.mpr (List.nodup_dedup tags)

theorem rulesetDefinition_tag (customRulesets : List SingboxRuleset) (context : CoreConfigContext)
    (tag : String) : (rulesetDefinition customRulesets context tag).tag = some tag := by
  unfold rulesetDefinition
  cases hfind : customRulesets.find? fun ruleset => ruleset.tag == some tag with
  | some ruleset =>
    have hfound := List.find?_some hfind
    exact beq_iff_eq.mp hfound
  | none =>
    rw [Option.getD_none, rulesetForTag]
    split
    · rfl
    · rfl

/-- The config with the geo lists of its rules converted, before any rule set is defined. -/
def convertedConfig (config : SingboxConfig) : SingboxConfig :=
  { config with
    route := { config.route with rules := (convertRulesGeoToRuleset config.route.rules).1 }
    dns := config.dns.map fun dns =>
      { dns with rules := (convertRulesGeoToRuleset dns.rules).1 } }

theorem allRuleFields_convertedConfig (config : SingboxConfig) :
    allRuleFields (convertedConfig config) = (allRuleFields config).map convertFields := by
  have hdns : listFields (dnsRules (convertedConfig config)) =
      (listFields (dnsRules config)).map convertFields := by
    unfold dnsRules convertedConfig
    cases config.dns with
    | none => rfl
    | some dns => exact (listFields_convert dns.rules).1
  rw [allRuleFields, hdns, allRuleFields, List.map_append]
  congr 1
  exact (listFields_convert config.route.rules).1

def withRuleSets (config : SingboxConfig) (rulesets : List SingboxRuleset) : SingboxConfig :=
  { config with route := { config.route with ruleSet := some rulesets } }

def convertedRuleSetTags (config : SingboxConfig) : List String :=
  uniqueSorted ((mentionedRuleSets (convertedConfig config)).filter (!isEmpty ·))

theorem convertGeoToRuleset_eq (crates : Crates) (config : SingboxConfig)
    (context : CoreConfigContext) :
    convertGeoToRuleset crates config context =
      if convertedRuleSetTags config = [] then .ok (convertedConfig config)
      else (parseInlineCustomRulesets crates (customRulesetPath context)).map fun customRulesets =>
        withRuleSets (convertedConfig config)
          ((convertedRuleSetTags config).map (rulesetDefinition customRulesets context)) := by
  have htags : mentionedRuleSets (convertedConfig config) =
      (convertRulesGeoToRuleset config.route.rules).2 ++
        ((config.dns.map fun dns => (convertRulesGeoToRuleset dns.rules).2).getD []) := by
    rw [mentionedRuleSets, allRuleFields_convertedConfig, List.flatMap_map, allRuleFields,
      List.flatMap_append, (listFields_convert config.route.rules).2]
    congr 1
    cases hdns : config.dns with
    | none => simp [dnsRules, hdns, listFields]
    | some dns =>
      simp only [dnsRules, hdns, Option.map_some, Option.getD_some]
      exact ((listFields_convert dns.rules).2).symm
  have hdnsConverted : (config.dns.map fun dns => (dns, convertRulesGeoToRuleset dns.rules)).map
      (fun x => ({ x.1 with rules := x.2.1 } : SingboxDns)) = (convertedConfig config).dns := by
    unfold convertedConfig
    cases config.dns <;> rfl
  have hdnsTags : ((config.dns.map fun dns => (dns, convertRulesGeoToRuleset dns.rules)).map
      fun x => x.2.2) = config.dns.map fun dns => (convertRulesGeoToRuleset dns.rules).2 := by
    cases config.dns <;> rfl
  unfold convertGeoToRuleset
  simp only
  rw [hdnsTags, ← htags, ← convertedRuleSetTags, hdnsConverted]
  by_cases hnil : convertedRuleSetTags config = []
  · rw [if_pos hnil, if_pos (List.isEmpty_iff.mpr hnil)]
    rfl
  · rw [if_neg hnil, if_neg (fun h => hnil (List.isEmpty_iff.mp h))]
    rfl

/-- The rule sets of the converted config are the nonempty tags it mentions. -/
theorem convertGeoToRuleset_cases {crates : Crates} {context : CoreConfigContext}
    {config config' : SingboxConfig}
    (h : convertGeoToRuleset crates config context = .ok config') :
    (convertedRuleSetTags config = [] ∧ config' = convertedConfig config) ∨
      convertedRuleSetTags config ≠ [] ∧ ∃ customRulesets,
        config' = withRuleSets (convertedConfig config)
        ((convertedRuleSetTags config).map (rulesetDefinition customRulesets context)) := by
  rw [convertGeoToRuleset_eq] at h
  by_cases hnil : convertedRuleSetTags config = []
  · rw [if_pos hnil] at h
    cases h
    exact Or.inl ⟨hnil, rfl⟩
  · rw [if_neg hnil] at h
    cases hcustom : parseInlineCustomRulesets crates (customRulesetPath context) with
    | error e =>
      rw [hcustom] at h
      cases h
    | ok customRulesets =>
      rw [hcustom] at h
      cases h
      exact Or.inr ⟨hnil, customRulesets, rfl⟩

/-- The DNS rules name defined servers, the rule for all other queries included. -/
theorem genDns_bare (crates : Crates) (config : SingboxConfig) (context : CoreConfigContext) :
    AllFields (DnsBare (dnsServerTags context.simpleDnsItem))
      (dnsRules (genDns crates config context)) := by
  refine allFields_append (genDnsRules_bare context) ?_
  by_cases hglobal : (!finalDnsUsesDirect context && fakeIpIs context.simpleDnsItem false) = true
  · rw [if_pos hglobal]
    rw [Bool.and_eq_true] at hglobal
    apply allFields_of_dnsPlain
    intro rule hrule
    rw [List.mem_singleton.mp hrule]
    exact dnsPlain_of_server rfl rfl rfl (fake_mem_of_fakeIpIs hglobal.2)
  · rw [if_neg hglobal]
    exact allFields_nil

/-- What the sections leave to the conversion: every rule is bare, and every DNS server they
mention is one of the servers defined. -/
structure SectionsReady (simpleDns : SimpleDnsItem) (config : SingboxConfig) : Prop where
  bare : ∀ fields ∈ allRuleFields config, fields.ruleSet = none
  noRuleSet : config.route.ruleSet = none
  servers : definedDnsServers config = dnsServerTags simpleDns
  references : ∀ tag ∈ mentionedDnsServers config, tag ∈ dnsServerTags simpleDns

theorem genSections_ready {crates : Crates} {fuel : ℕ} {context : CoreConfigContext}
    {config : SingboxConfig} (h : genSections crates fuel context = some config) :
    SectionsReady context.simpleDnsItem config := by
  obtain ⟨routed, hsections, rfl⟩ := Option.map_eq_some_iff.mp h
  obtain ⟨withServers, hout, hrouted⟩ := Option.bind_eq_some_iff.mp hsections
  obtain ⟨servers, _, rfl⟩ := Option.map_eq_some_iff.mp hout
  have hroute := genRouting_ready (by rfl) (by rfl) hrouted
  have hdns := genDns_bare crates routed context
  constructor
  · intro fields hfields
    rcases List.mem_append.mp hfields with hfields | hfields
    · exact (hroute.bare fields hfields).1
    · exact (hdns fields hfields).1
  · exact hroute.noRuleSet
  · exact genDnsServers_tags crates context.simpleDnsItem
  · intro tag htag
    rw [mentionedDnsServers, List.mem_append, List.mem_append, List.mem_append] at htag
    rcases htag with ((htag | htag) | htag) | htag
    · obtain ⟨fields, hfields, hserver⟩ := List.mem_filterMap.mp htag
      rcases List.mem_append.mp hfields with hfields | hfields
      · rw [(hroute.bare fields hfields).2] at hserver
        cases hserver
      · exact (hdns fields hfields).2 tag hserver
    · obtain ⟨server, hserver, hresolver⟩ := List.mem_filterMap.mp htag
      exact genDnsServers_resolver crates hserver tag hresolver
    · have hfinal : tag = if finalDnsUsesDirect context then singboxDirectDnsTag
          else singboxRemoteDnsTag := List.mem_singleton.mp htag
      rw [hfinal]
      split
      · exact direct_mem
      · exact remote_mem
    · have hresolver := hroute.resolver
      have hrule : tag ∈ (routed.route.defaultDomainResolver.bind fun rule => rule.server).toList :=
        htag
      rw [hresolver, Option.toList_some, List.mem_singleton] at hrule
      rw [hrule]
      exact direct_mem

theorem mentionedDnsServers_convertedConfig (config : SingboxConfig) :
    mentionedDnsServers (convertedConfig config) = mentionedDnsServers config := by
  have hrules : (allRuleFields (convertedConfig config)).filterMap (fun fields => fields.server) =
      (allRuleFields config).filterMap fun fields => fields.server := by
    rw [allRuleFields_convertedConfig, List.filterMap_map]
    rfl
  have hservers : dnsServers (convertedConfig config) = dnsServers config := by
    unfold dnsServers convertedConfig
    cases config.dns <;> rfl
  have hfinal : ((convertedConfig config).dns.bind fun dns => dns.finalServer) =
      config.dns.bind fun dns => dns.finalServer := by
    unfold convertedConfig
    cases config.dns <;> rfl
  rw [mentionedDnsServers, hrules, hservers, hfinal]
  rfl

theorem nodup_dnsServerTags (simpleDns : SimpleDnsItem) : (dnsServerTags simpleDns).Nodup := by
  unfold dnsServerTags
  split
  · decide
  · decide

theorem mem_convertedRuleSetTags {simpleDns : SimpleDnsItem} {config : SingboxConfig}
    (ready : SectionsReady simpleDns config) {tag : String} :
    tag ∈ convertedRuleSetTags config ↔ tag ∈ mentionedRuleSets (convertedConfig config) := by
  rw [convertedRuleSetTags, mem_uniqueSorted, List.mem_filter]
  constructor
  · exact fun h => h.1
  · intro hmentioned
    have htag := hmentioned
    rw [mentionedRuleSets, allRuleFields_convertedConfig, List.flatMap_map] at htag
    obtain ⟨fields, hfields, htag⟩ := List.mem_flatMap.mp htag
    have hnonempty := convertFields_ruleSet_nonempty (ready.bare fields hfields) htag
    exact ⟨hmentioned, by rw [hnonempty]; rfl⟩

/-- The rules and DNS servers of the converted config, with whatever rule sets, are closed
when the rule sets are those mentioned. -/
theorem referencesClosed_of_ready {simpleDns : SimpleDnsItem} {config config' : SingboxConfig}
    (ready : SectionsReady simpleDns config)
    (hrules : config'.route.rules = (convertedConfig config).route.rules)
    (hresolver : config'.route.defaultDomainResolver = config.route.defaultDomainResolver)
    (hdns : config'.dns = (convertedConfig config).dns)
    (hdefined : definedRuleSets config' = (convertedRuleSetTags config).map some) :
    ReferencesClosed simpleDns config' := by
  have hfields : allRuleFields config' = (allRuleFields config).map convertFields := by
    rw [← allRuleFields_convertedConfig, allRuleFields, dnsRules, hrules, hdns]
    rfl
  have hmentioned : mentionedRuleSets config' = mentionedRuleSets (convertedConfig config) := by
    rw [mentionedRuleSets, hfields, ← allRuleFields_convertedConfig]
    rfl
  have hreferences : mentionedDnsServers config' = mentionedDnsServers config := by
    rw [← mentionedDnsServers_convertedConfig config, mentionedDnsServers, hfields,
      ← allRuleFields_convertedConfig, dnsServers, hdns, hresolver]
    rfl
  have hservers : definedDnsServers config' = dnsServerTags simpleDns := by
    rw [← ready.servers, definedDnsServers, dnsServers, hdns, definedDnsServers, dnsServers]
    unfold convertedConfig
    cases config.dns <;> rfl
  constructor
  · intro fields hf
    rw [hfields] at hf
    obtain ⟨before, _, rfl⟩ := List.mem_map.mp hf
    exact hasItems_convertFields before
  · intro tag
    rw [hdefined, hmentioned, List.mem_map, List.mem_map]
    simp only [mem_convertedRuleSetTags ready]
  · rw [hdefined]
    exact (nodup_uniqueSorted _).map (Option.some_injective _)
  · intro tag htag
    rw [hreferences] at htag
    rw [hservers]
    exact ready.references tag htag
  · rw [hservers]
    exact nodup_dnsServerTags _
  · rw [hservers]
    exact fake_mem_dnsServerTags

theorem convertGeoToRuleset_closed {crates : Crates} {context : CoreConfigContext}
    {config config' : SingboxConfig} (ready : SectionsReady context.simpleDnsItem config)
    (h : convertGeoToRuleset crates config context = .ok config') :
    ReferencesClosed context.simpleDnsItem config' := by
  rcases convertGeoToRuleset_cases h with ⟨hnil, rfl⟩ | ⟨_, customRulesets, rfl⟩
  · refine referencesClosed_of_ready ready rfl rfl rfl ?_
    have hset : (convertedConfig config).route.ruleSet = config.route.ruleSet := rfl
    rw [definedRuleSets, hset, ready.noRuleSet, hnil]
    rfl
  · refine referencesClosed_of_ready ready rfl rfl rfl ?_
    rw [definedRuleSets, withRuleSets, Option.getD_some, List.map_map]
    exact List.map_congr_left fun tag _ => rulesetDefinition_tag customRulesets context tag

/-- The bindings of outbounds leave rules, rule sets and DNS servers as they are. -/
theorem applyBindings_route (config : SingboxConfig) (context : CoreConfigContext) :
    (applyBindings config context).route = config.route ∧
      (applyBindings config context).dns = config.dns := by
  have hbind : (applyOutboundBindInterface config context).route = config.route ∧
      (applyOutboundBindInterface config context).dns = config.dns := by
    unfold applyOutboundBindInterface
    split
    · exact ⟨rfl, rfl⟩
    · split <;> exact ⟨rfl, rfl⟩
  rw [applyBindings, applyOutboundSendThrough]
  split
  · exact hbind
  · exact hbind

theorem referencesClosed_congr {simpleDns : SimpleDnsItem} {config config' : SingboxConfig}
    (hroute : config'.route = config.route) (hdns : config'.dns = config.dns)
    (h : ReferencesClosed simpleDns config) : ReferencesClosed simpleDns config' := by
  have hfields : allRuleFields config' = allRuleFields config := by
    rw [allRuleFields, dnsRules, hroute, hdns]
    rfl
  have hmentioned : mentionedRuleSets config' = mentionedRuleSets config := by
    rw [mentionedRuleSets, hfields]
    rfl
  have hsets : definedRuleSets config' = definedRuleSets config := by
    rw [definedRuleSets, hroute]
    rfl
  have hreferences : mentionedDnsServers config' = mentionedDnsServers config := by
    rw [mentionedDnsServers, hfields, dnsServers, hroute, hdns]
    rfl
  have hservers : definedDnsServers config' = definedDnsServers config := by
    rw [definedDnsServers, dnsServers, hdns]
    rfl
  constructor
  · rw [hfields]
    exact h.noGeo
  · rw [hsets, hmentioned]
    exact h.ruleSets
  · rw [hsets]
    exact h.ruleSetsOnce
  · rw [hreferences, hservers]
    exact h.dnsServers
  · rw [hservers]
    exact h.dnsServersOnce
  · rw [hservers]
    exact h.fakeIp

theorem generateSingboxConfig_ok {crates : Crates} {fuel : ℕ} {context : CoreConfigContext}
    {config : SingboxConfig}
    (h : generateSingboxConfig crates fuel context = some (.ok config)) :
    ∃ sections converted, genSections crates fuel context = some sections ∧
      convertGeoToRuleset crates sections context = .ok converted ∧
      config = applyBindings converted context := by
  obtain ⟨ports, _, h⟩ := Option.bind_eq_some_iff.mp h
  cases ports with
  | error e => cases h
  | ok _ =>
    cases hwireguard : validateActiveWireguard context with
    | error e =>
      simp only [hwireguard] at h
      cases h
    | ok _ =>
      simp only [hwireguard] at h
      obtain ⟨sections, hsections, h⟩ := Option.map_eq_some_iff.mp h
      cases hconvert : convertGeoToRuleset crates sections context with
      | error e =>
        rw [hconvert] at h
        cases h
      | ok converted =>
        rw [hconvert] at h
        cases h
        exact ⟨sections, converted, hsections, hconvert, rfl⟩

/-- Every config the generator returns defines what it mentions. -/
theorem generateSingboxConfig_closed (crates : Crates) (fuel : ℕ) (context : CoreConfigContext)
    (config : SingboxConfig)
    (h : generateSingboxConfig crates fuel context = some (.ok config)) :
    ReferencesClosed context.simpleDnsItem config := by
  obtain ⟨sections, converted, hsections, hconvert, rfl⟩ := generateSingboxConfig_ok h
  have hbindings := applyBindings_route converted context
  exact referencesClosed_congr hbindings.1 hbindings.2
    (convertGeoToRuleset_closed (genSections_ready hsections) hconvert)

/-- One socks server, with a geosite rule and a rule with a negated geoip entry. -/
def geoContext : CoreConfigContext :=
  initialContext (exampleStore [] [
    { outboundTag := some "direct", domain := some ["geosite:cn"] },
    { outboundTag := some "block", ip := some ["10.0.0.0/8", "!geoip:cn"] }]).env {}
    (exampleSocks "a")

theorem generateSingboxConfig_closed_geo :
    ∃ config, generateSingboxConfig exampleCrates 2 geoContext = some (.ok config) ∧
      ReferencesClosed geoContext.simpleDnsItem config :=
  ⟨_, by rfl, generateSingboxConfig_closed exampleCrates 2 geoContext _ (by rfl)⟩

end ReferenceClosure
