import VoyaVPN.ConfigIndependence
import VoyaVPN.GroupTraversal
import VoyaVPN.NamedRuleSets
import VoyaVPN.ReferenceClosure

/-! Settings that are saved without a restart of the core. Of those the generated config
depends on nothing but the source of rule sets, so a save keeps the config exactly when every
rule set the settings use has the same source before and after. -/
namespace RestartPolicy

open Entities AppConfig RustText ContextBuilder SingboxSchema SingboxSupport
open SingboxRouting SingboxDns SingboxExperimental SingboxEntry
open GroupTraversal RuleMatching NestedRules BareRules ReferenceClosure ConfigIndependence
open NamedRuleSets

def generatedFrom (crates : Crates) (env : CoreGenEnv) (fuel : ℕ) (config : Config)
    (node : ProfileItem) : Option (Except SingboxConfigError SingboxConfig) :=
  (build crates env fuel config node).bind fun r => generateSingboxConfig crates fuel r.context

/-- The stored snapshot picks the routing profile by the routing settings alone. -/
theorem snapshot_getDefaultRouting (e : SnapshotCoreGenEnv) {original updated : Config}
    (h : savedConfigRequiresRuntimeRestart original updated = false) :
    e.env.getDefaultRouting updated = e.env.getDefaultRouting original := by
  rw [eq_withOtherSettings h]
  rfl

/-- The rule set comes from the user's own definitions, from a local file, or from the same
URL before and after. -/
def SameSource (crates : Crates) (env : CoreGenEnv) (original updated : Config)
    (tag : String) : Prop :=
  (∃ customRulesets, parseInlineCustomRulesets crates
      ((env.getDefaultRouting original).map fun routing => routing.customRulesetPath4Singbox) =
        .ok customRulesets ∧ ∃ ruleset ∈ customRulesets, ruleset.tag = some tag) ∨
    env.getSingboxRulesetPaths[tag]? ≠ none ∨
    expandRulesetUrl (rulesetSourceUrl updated) tag =
      expandRulesetUrl (rulesetSourceUrl original) tag

theorem rulesetDefinition_withOther (customRulesets : List SingboxRuleset) (other : Config)
    (context : CoreConfigContext) (tag : String) :
    rulesetDefinition customRulesets (withOther other context) tag =
        rulesetDefinition customRulesets context tag ↔
      (∃ ruleset ∈ customRulesets, ruleset.tag = some tag) ∨
        context.singboxRulesetPaths[tag]? ≠ none ∨
        expandRulesetUrl (rulesetSourceUrl other) tag =
          expandRulesetUrl (rulesetSourceUrl context.appConfig) tag := by
  unfold rulesetDefinition
  cases hfind : customRulesets.find? fun ruleset => ruleset.tag == some tag with
  | some ruleset =>
    rw [Option.getD_some, Option.getD_some]
    refine iff_of_true rfl (Or.inl ⟨ruleset, List.mem_of_find?_eq_some hfind, ?_⟩)
    have hfound := List.find?_some hfind
    exact beq_iff_eq.mp hfound
  | none =>
    have hcustom : ¬∃ ruleset ∈ customRulesets, ruleset.tag = some tag := by
      rintro ⟨ruleset, hmem, htag⟩
      have hskipped := List.find?_eq_none.mp hfind ruleset hmem
      exact hskipped (beq_iff_eq.mpr htag)
    rw [or_iff_right hcustom, Option.getD_none, Option.getD_none]
    have hpaths : (withOther other context).singboxRulesetPaths = context.singboxRulesetPaths := rfl
    have hsource : rulesetSourceUrl (withOther other context).appConfig = rulesetSourceUrl other :=
      rfl
    rw [rulesetForTag, rulesetForTag, hpaths, hsource]
    cases hlocal : context.singboxRulesetPaths[tag]? with
    | some path => exact iff_of_true rfl (Or.inl (by simp))
    | none =>
      rw [or_iff_right (by simp)]
      simp [remoteRuleset]

theorem mentionedRuleSets_genSections {crates : Crates} {fuel : ℕ} {context : CoreConfigContext}
    {config : SingboxConfig} (h : genSections crates fuel context = some config) (tag : String) :
    tag ∈ mentionedRuleSets (convertedConfig config) ↔
      UsesRuleSet context.routingItem context.simpleDnsItem tag := by
  have ready := genSections_ready h
  have hmentioned : tag ∈ mentionedRuleSets (convertedConfig config) ↔
      ∃ d, ruleSetOf d = some tag ∧
        (Mentions config.route.rules d ∨ Mentions (dnsRules config) d) := by
    rw [mentionedRuleSets, allRuleFields_convertedConfig, List.flatMap_map, List.mem_flatMap]
    have hlisted : ∀ d, (Mentions config.route.rules d ∨ Mentions (dnsRules config) d) ↔
        ∃ fields ∈ allRuleFields config, d ∈ destinations fields := by
      intro d
      simp only [Mentions, allRuleFields, List.mem_append, or_and_right, exists_or]
    simp only [hlisted]
    constructor
    · rintro ⟨fields, hfields, htag⟩
      rw [convertFields_ruleSet (ready.bare fields hfields)] at htag
      obtain ⟨d, hd, htag⟩ := mem_convertedRuleSets.mp htag
      exact ⟨d, htag, fields, hfields, hd⟩
    · rintro ⟨d, htag, fields, hfields, hd⟩
      refine ⟨fields, hfields, ?_⟩
      rw [convertFields_ruleSet (ready.bare fields hfields)]
      exact mem_convertedRuleSets.mpr ⟨d, hd, htag⟩
  obtain ⟨routed, hsections, rfl⟩ := Option.map_eq_some_iff.mp h
  obtain ⟨withServers, hout, hrouted⟩ := Option.bind_eq_some_iff.mp hsections
  obtain ⟨servers, _, rfl⟩ := Option.map_eq_some_iff.mp hout
  rw [hmentioned, UsesRuleSet]
  apply exists_congr
  intro d
  rw [and_congr_right_iff]
  intro htag
  have hroute := mentions_genRouting (by rfl) htag hrouted
  have hdns : Mentions (dnsRules (genExperimental (genDns crates routed context) context)) d ↔
      Mentions (genDnsRules context) d := by
    have hglobal : AllFields GeoFree
        (if !finalDnsUsesDirect context && fakeIpIs context.simpleDnsItem false then
          [{ server := some singboxFakeDnsTag
             queryType := some [1, 28]
             rewriteTtl := some 1 }]
        else []) := allFields_ite (allFields_single rfl ⟨rfl, rfl⟩) allFields_nil
    exact mentions_append.trans (or_iff_left (not_mentions_of_geoFree hglobal htag))
  have hrules : (genExperimental (genDns crates routed context) context).route.rules =
      routed.route.rules := rfl
  obtain ⟨hosts, append⟩ := mentions_genDnsRules htag
  rw [hdns, hrules, hroute]
  rw [mentions_appendDnsRoutingRules htag] at hosts append
  constructor
  · rintro ((h | h) | h)
    · exact Or.inl h
    · exact Or.inr (Or.inl h)
    · exact (hosts h).imp_right Or.inr
  · rintro (h | h | h)
    · exact Or.inl (Or.inl h)
    · exact Or.inl (Or.inr h)
    · exact Or.inr (append h)

theorem withRuleSets_inj {config : SingboxConfig} {rulesets rulesets' : List SingboxRuleset} :
    withRuleSets config rulesets = withRuleSets config rulesets' ↔ rulesets = rulesets' := by
  constructor
  · intro h
    have hsets : (withRuleSets config rulesets).route.ruleSet =
        (withRuleSets config rulesets').route.ruleSet := by rw [h]
    exact Option.some.inj hsets
  · intro h
    rw [h]

theorem convertGeoToRuleset_withOther {crates : Crates} {other : Config}
    {context : CoreConfigContext} {config : SingboxConfig}
    (ready : SectionsReady context.simpleDnsItem config) :
    convertGeoToRuleset crates config (withOther other context) =
        convertGeoToRuleset crates config context ↔
      ∀ converted, convertGeoToRuleset crates config context = .ok converted →
        ∀ tag ∈ mentionedRuleSets (convertedConfig config),
          (∃ customRulesets, parseInlineCustomRulesets crates (customRulesetPath context) =
            .ok customRulesets ∧ ∃ ruleset ∈ customRulesets, ruleset.tag = some tag) ∨
          context.singboxRulesetPaths[tag]? ≠ none ∨
          expandRulesetUrl (rulesetSourceUrl other) tag =
            expandRulesetUrl (rulesetSourceUrl context.appConfig) tag := by
  have hcustom : customRulesetPath (withOther other context) = customRulesetPath context := rfl
  have hmem : ∀ tag, tag ∈ convertedRuleSetTags config ↔
      tag ∈ mentionedRuleSets (convertedConfig config) := fun _ => mem_convertedRuleSetTags ready
  rw [convertGeoToRuleset_eq, convertGeoToRuleset_eq, hcustom]
  by_cases hnil : convertedRuleSetTags config = []
  · rw [if_pos hnil, if_pos hnil]
    refine iff_of_true rfl fun _ _ tag htag => ?_
    rw [← hmem, hnil] at htag
    cases htag
  rw [if_neg hnil, if_neg hnil]
  cases hparse : parseInlineCustomRulesets crates (customRulesetPath context) with
  | error e =>
    simp only [Except.map]
    exact iff_of_true trivial fun _ h => by cases h
  | ok customRulesets =>
    simp only [Except.map, Except.ok.injEq, withRuleSets_inj, List.map_inj_left]
    constructor
    · intro h _ _ tag htag
      rcases (rulesetDefinition_withOther customRulesets other context tag).mp
        (h tag ((hmem tag).mpr htag)) with hown | hrest
      · exact Or.inl ⟨customRulesets, rfl, hown⟩
      · exact Or.inr hrest
    · intro h tag htag
      apply (rulesetDefinition_withOther customRulesets other context tag).mpr
      rcases h _ rfl tag ((hmem tag).mp htag) with ⟨_, hown, hruleset⟩ | hrest
      · cases hown
        exact Or.inl hruleset
      · exact Or.inr hrest

/-- The bindings of outbounds come after the conversion and keep its differences. -/
theorem applyBindings_eq_iff {crates : Crates} {context other : CoreConfigContext}
    {config converted converted' : SingboxConfig}
    (h : convertGeoToRuleset crates config context = .ok converted)
    (h' : convertGeoToRuleset crates config other = .ok converted') :
    applyBindings converted' context = applyBindings converted context ↔
      converted' = converted := by
  refine ⟨fun heq => ?_, fun heq => by rw [heq]⟩
  have hset : converted'.route.ruleSet = converted.route.ruleSet := by
    rw [← (applyBindings_route converted' context).1, heq,
      (applyBindings_route converted context).1]
  rcases convertGeoToRuleset_cases h with ⟨hnil, rfl⟩ | ⟨hsome, customRulesets, rfl⟩
  · rcases convertGeoToRuleset_cases h' with ⟨_, rfl⟩ | ⟨hsome, _⟩
    · rfl
    · exact absurd hnil hsome
  · rcases convertGeoToRuleset_cases h' with ⟨hnil, _⟩ | ⟨_, customRulesets', rfl⟩
    · exact absurd hnil hsome
    · have hrulesets := Option.some.inj hset
      rw [hrulesets]

/-- A context with other settings gives the same config exactly when the rule sets its
settings use have the same source. -/
theorem generateSingboxConfig_withOther (crates : Crates) (fuel : ℕ) (other : Config)
    (context : CoreConfigContext) :
    generateSingboxConfig crates fuel (withOther other context) =
        generateSingboxConfig crates fuel context ↔
      ∀ config, generateSingboxConfig crates fuel context = some (.ok config) →
        ∀ tag, UsesRuleSet context.routingItem context.simpleDnsItem tag →
          (∃ customRulesets, parseInlineCustomRulesets crates (customRulesetPath context) =
            .ok customRulesets ∧ ∃ ruleset ∈ customRulesets, ruleset.tag = some tag) ∨
          context.singboxRulesetPaths[tag]? ≠ none ∨
          expandRulesetUrl (rulesetSourceUrl other) tag =
            expandRulesetUrl (rulesetSourceUrl context.appConfig) tag := by
  unfold generateSingboxConfig
  rw [validateProxyPorts_withOther, validateActiveWireguard_withOther, genSections_withOther]
  cases validateProxyPorts fuel context with
  | none => simp only [Option.bind_none, reduceCtorEq, false_implies, implies_true]
  | some ports =>
    cases ports with
    | error e =>
      simp only [Option.bind_some, Option.some.injEq, reduceCtorEq, false_implies, implies_true]
    | ok _ =>
      cases validateActiveWireguard context with
      | error e =>
        simp only [Option.bind_some, Option.some.injEq, reduceCtorEq, false_implies, implies_true]
      | ok _ =>
        cases hsections : genSections crates fuel context with
        | none =>
          simp only [Option.bind_some, Option.map_none, reduceCtorEq, false_implies,
            implies_true]
        | some sections =>
          have hconvert := @convertGeoToRuleset_withOther crates other context sections
            (genSections_ready hsections)
          simp only [Option.bind_some, Option.map_some, Option.some.injEq,
            ← mentionedRuleSets_genSections hsections]
          cases h : convertGeoToRuleset crates sections context with
          | error e =>
            rw [h] at hconvert
            have hsame := hconvert.mpr fun _ h => by cases h
            simp only [hsame, Except.map, reduceCtorEq, false_implies, implies_true]
          | ok converted =>
            rw [h] at hconvert
            simp only [Except.ok.injEq, forall_eq'] at hconvert
            simp only [Except.map, Except.ok.injEq, forall_eq', ← hconvert]
            cases h' : convertGeoToRuleset crates sections (withOther other context) with
            | error e => simp only [reduceCtorEq]
            | ok converted' =>
              simp only [Except.ok.injEq]
              rw [applyBindings_withOther]
              exact applyBindings_eq_iff h h'

/-- A save that neither restarts the core nor changes the routing profile keeps the generated
config exactly when every rule set the settings use keeps its source. -/
theorem generatedFrom_eq_iff (crates : Crates) (env : CoreGenEnv) (fuel : ℕ)
    (original updated : Config) (node : ProfileItem)
    (h : savedConfigRequiresRuntimeRestart original updated = false)
    (hrouting : env.getDefaultRouting updated = env.getDefaultRouting original) :
    generatedFrom crates env fuel updated node = generatedFrom crates env fuel original node ↔
      ∀ config, generatedFrom crates env fuel original node = some (.ok config) →
        ∀ tag, UsesRuleSet (env.getDefaultRouting original) original.simpleDnsItem tag →
          SameSource crates env original updated tag := by
  have hbuild : build crates env fuel updated node =
      (build crates env fuel original node).map (resultWithOther updated) := by
    rw [eq_withOtherSettings h] at hrouting ⊢
    exact build_withOther crates env _ fuel original node hrouting
  rw [generatedFrom, generatedFrom, hbuild]
  cases hr : build crates env fuel original node with
  | none => simp only [Option.map_none, Option.bind_none, reduceCtorEq, false_implies, implies_true]
  | some r =>
    have hsettings := build_settings hr
    have hgenerate := generateSingboxConfig_withOther crates fuel updated r.context
    have hitem : r.context.routingItem = env.getDefaultRouting original := by
      rw [hsettings]
      rfl
    have hdns : r.context.simpleDnsItem = original.simpleDnsItem := by
      rw [hsettings]
      rfl
    have hpaths : r.context.singboxRulesetPaths = env.getSingboxRulesetPaths := by
      rw [hsettings]
      rfl
    have hconfig : r.context.appConfig = original := by
      rw [hsettings]
      rfl
    rw [customRulesetPath, hitem, hdns, hpaths, hconfig] at hgenerate
    exact hgenerate

/-- The same settings but for a mirror of the rule sets. -/
def mirrored : Config :=
  { constItem := { srsSourceUrl := some "https://mirror.example/\x7b0\x7d/\x7b1\x7d.srs" } }

def geositeStore : SnapshotCoreGenEnv :=
  exampleStore [] [{ outboundTag := some "direct", domain := some ["geosite:cn"] }]

theorem generatedFrom_eq_iff_mirrored :
    generatedFrom exampleCrates geositeStore.env 2 mirrored (exampleSocks "a") =
        generatedFrom exampleCrates geositeStore.env 2 {} (exampleSocks "a") ↔
      ∀ config, generatedFrom exampleCrates geositeStore.env 2 {} (exampleSocks "a") =
          some (.ok config) →
        ∀ tag, UsesRuleSet (geositeStore.env.getDefaultRouting {}) ({} : Config).simpleDnsItem tag →
          SameSource exampleCrates geositeStore.env {} mirrored tag :=
  generatedFrom_eq_iff exampleCrates geositeStore.env 2 {} mirrored (exampleSocks "a")
    (by decide) (snapshot_getDefaultRouting geositeStore (by decide))

def downloadUrls (result : Option (Except SingboxConfigError SingboxConfig)) :
    List (Option String) :=
  ((result.bind Except.toOption).bind fun config => config.route.ruleSet).getD [] |>.map
    fun ruleset => ruleset.url

theorem generatedFrom_counterexample :
    savedConfigRequiresRuntimeRestart {} mirrored = false ∧
      generatedFrom exampleCrates geositeStore.env 2 mirrored (exampleSocks "a") ≠
        generatedFrom exampleCrates geositeStore.env 2 {} (exampleSocks "a") := by
  refine ⟨by decide, fun h => ?_⟩
  have hurls := congrArg downloadUrls h
  have hnew : downloadUrls
      (generatedFrom exampleCrates geositeStore.env 2 mirrored (exampleSocks "a")) =
        [some "https://mirror.example/geosite/geosite-cn.srs"] := by rfl
  have hold : downloadUrls
      (generatedFrom exampleCrates geositeStore.env 2 {} (exampleSocks "a")) =
        [some ("https://raw.githubusercontent.com/2dust/sing-box-rules/rule-set-geosite/" ++
          "geosite-cn.srs")] := by rfl
  rw [hnew, hold] at hurls
  revert hurls
  decide

end RestartPolicy
