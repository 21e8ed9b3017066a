import VoyaVPN.AssetBatch
import VoyaVPN.RestartPolicy

/-! The rule sets that are downloaded ahead: those that the entries of the routings name. Every rule
set that a generated config mentions is among them, or is overlooked for one of four reasons. -/
namespace RulesetAssets

open Entities AppConfig RustText ContextBuilder SingboxSchema DnsAddress SingboxRouting
open SingboxExperimental SingboxEntry RuleMatching UserRouteRules ReferenceClosure NamedRuleSets
open AssetBatch

section Collection

def defaultSrsGeositeTags : List String := ["google", "cn", "geolocation-cn", "category-ads-all"]

def nonemptyValue (value : String) : Option String :=
  let value := trim value
  if value = "" then none else some value

def formatSrsUrl (sourceUrl kind name : String) : String :=
  replace (replace (replace sourceUrl "\x7b0\x7d" kind) "\x7b1\x7d" (kind ++ "-" ++ name))
    "\x7b2\x7d" name

/-- `SrsAsset::new`. -/
def srsAsset (sourceUrl kind name : String) : SrsAsset :=
  let tag := kind ++ "-" ++ name
  { kind, name, tag, fileName := tag ++ ".srs", url := formatSrsUrl sourceUrl kind name }

structure SrsNames where
  geoip : List String
  geosite : List String

/-- The names that stand behind a kind in the entries. -/
def namesOf (kind : String) (entries : Option (List String)) : List String :=
  (entries.getD []).filterMap fun item => (stripPrefix item kind).bind nonemptyValue

def collectSrsFromRule (names : SrsNames) (rule : RulesItem) : SrsNames :=
  { geoip := names.geoip ++ namesOf geoipPrefix rule.ip
    geosite := names.geosite ++ namesOf geositePrefix rule.domain }

/-- The sets of the source are sorted lists without repetition. -/
def collectSingboxRulesetAssets (sourceUrl : Option String) (routings : List RoutingItem) :
    List SrsAsset :=
  let names := (routings.flatMap (·.ruleSet)).foldl collectSrsFromRule ⟨[], []⟩
  let sourceUrl := (sourceUrl.bind nonemptyValue).getD singboxRulesetUrl
  (uniqueSorted names.geoip).map (srsAsset sourceUrl "geoip") ++
    (uniqueSorted (names.geosite ++ defaultSrsGeositeTags)).map (srsAsset sourceUrl "geosite")

variable {sourceUrl : Option String} {routings : List RoutingItem} {name : String}

theorem foldl_collectSrsFromRule (rules : List RulesItem) (names : SrsNames) :
    (rules.foldl collectSrsFromRule names).geoip =
        names.geoip ++ rules.flatMap (fun rule => namesOf geoipPrefix rule.ip) ∧
      (rules.foldl collectSrsFromRule names).geosite =
        names.geosite ++ rules.flatMap (fun rule => namesOf geositePrefix rule.domain) := by
  induction rules generalizing names with
  | nil => exact ⟨(List.append_nil _).symm, (List.append_nil _).symm⟩
  | cons rule rules ih =>
    obtain ⟨hgeoip, hgeosite⟩ := ih (collectSrsFromRule names rule)
    rw [List.foldl_cons, hgeoip, hgeosite, List.flatMap_cons, List.flatMap_cons]
    exact ⟨List.append_assoc _ _ _, List.append_assoc _ _ _⟩

def assetSource (sourceUrl : Option String) : String :=
  (sourceUrl.bind nonemptyValue).getD singboxRulesetUrl

theorem geoip_collected {routing : RoutingItem} {rule : RulesItem} (hrouting : routing ∈ routings)
    (hrule : rule ∈ routing.ruleSet) (hname : name ∈ namesOf geoipPrefix rule.ip) :
    srsAsset (assetSource sourceUrl) "geoip" name ∈
      collectSingboxRulesetAssets sourceUrl routings := by
  apply List.mem_append_left
  apply List.mem_map_of_mem
  rw [mem_uniqueSorted, (foldl_collectSrsFromRule _ _).1, List.nil_append, List.mem_flatMap]
  exact ⟨rule, List.mem_flatMap.mpr ⟨routing, hrouting, hrule⟩, hname⟩

theorem geosite_collected {routing : RoutingItem} {rule : RulesItem}
    (hrouting : routing ∈ routings) (hrule : rule ∈ routing.ruleSet)
    (hname : name ∈ namesOf geositePrefix rule.domain) :
    srsAsset (assetSource sourceUrl) "geosite" name ∈
      collectSingboxRulesetAssets sourceUrl routings := by
  apply List.mem_append_right
  apply List.mem_map_of_mem
  rw [mem_uniqueSorted, (foldl_collectSrsFromRule _ _).2, List.nil_append]
  apply List.mem_append_left
  rw [List.mem_flatMap]
  exact ⟨rule, List.mem_flatMap.mpr ⟨routing, hrouting, hrule⟩, hname⟩

end Collection

section Names

variable {name : String}

/-- A name that is collected as it stands. -/
def Plain (name : String) : Prop := trim name = name ∧ name ≠ ""

theorem mem_namesOf {kind entry : String} {entries : Option (List String)}
    (hentry : entry ∈ entries.getD []) (hname : stripPrefix entry kind = some name)
    (hplain : Plain name) : name ∈ namesOf kind entries := by
  rw [namesOf, List.mem_filterMap]
  refine ⟨entry, hentry, ?_⟩
  rw [hname, Option.bind_some, nonemptyValue, hplain.1, if_neg hplain.2]

/-- What a domain entry stands for: a rule set of the entry's name, or no rule set at all. -/
theorem domainDestination_cases {entry : String} {d : Destination}
    (h : domainDestination entry = some d) :
    (∃ name, stripPrefix entry geositePrefix = some name ∧ d = .geosite name) ∨
      ruleSetOf d = none := by
  unfold domainDestination at h
  split at h
  · cases h
  · split at h
    · next value hstrip =>
      cases h
      exact Or.inl ⟨value, hstrip, rfl⟩
    · right
      split at h
      · cases h
        rfl
      · split at h
        · cases h
          rfl
        · split at h
          · cases h
            rfl
          · split at h
            · cases h
              rfl
            · split at h <;> cases h <;> rfl

theorem addressDestination_cases {entry : String} {d : Destination}
    (h : addressDestination entry = some d) :
    (∃ name, stripPrefix entry geoipPrefix = some name ∧ d = .geoip name) ∨
      ruleSetOf d = none := by
  unfold addressDestination at h
  split at h
  · cases h
  · split at h
    · cases h
      exact Or.inr rfl
    · split at h
      · next value hstrip =>
        cases h
        exact Or.inl ⟨value, hstrip, rfl⟩
      · cases h
        exact Or.inr rfl

end Names

section Urls

variable {name : String}

theorem geosite_tag : "geosite" ++ "-" ++ name = "geosite-" ++ name :=
  congrArg (· ++ name) (by decide : "geosite" ++ "-" = "geosite-")

theorem geoip_tag : "geoip" ++ "-" ++ name = "geoip-" ++ name :=
  congrArg (· ++ name) (by decide : "geoip" ++ "-" = "geoip-")

theorem startsWith_geosite : startsWith ("geosite-" ++ name) "geosite" = true := by
  rw [startsWith, List.isPrefixOf_iff_prefix, String.toList_append]
  exact (by decide : "geosite".toList <+: "geosite-".toList).trans (List.prefix_append _ _)

theorem startsWith_geoip : startsWith ("geoip-" ++ name) "geosite" = false := by
  have hgeoip : "geoip-".toList = ['g', 'e', 'o', 'i', 'p', '-'] := by decide
  have hgeosite : "geosite".toList = ['g', 'e', 'o', 's', 'i', 't', 'e'] := by decide
  rw [startsWith, String.toList_append, hgeoip, hgeosite]
  rfl

/-- What is downloaded for a rule set: a file of its name, from the URL that a config would name,
with the name put in where the source has a third place. -/
def Downloads (config : Config) (tag : String) (asset : SrsAsset) : Prop :=
  asset.tag = tag ∧ asset.fileName = tag ++ ".srs" ∧
    asset.url = replace (expandRulesetUrl (rulesetSourceUrl config) tag) "\x7b2\x7d" asset.name

theorem assetSource_eq (config : Config) :
    assetSource config.constItem.srsSourceUrl = rulesetSourceUrl config := by
  rw [assetSource, rulesetSourceUrl, ProtocolCommon.nonemptyStr]
  cases config.constItem.srsSourceUrl with
  | none => rfl
  | some value =>
    by_cases hblank : trim value = ""
    · simp [nonemptyValue, hblank, RustText.isEmpty, Option.filter]
    · simp [nonemptyValue, hblank, RustText.isEmpty, Option.filter_some]

theorem geosite_downloads (config : Config) :
    Downloads config ("geosite-" ++ name)
      (srsAsset (assetSource config.constItem.srsSourceUrl) "geosite" name) := by
  refine ⟨geosite_tag, congrArg (· ++ ".srs") geosite_tag, ?_⟩
  rw [assetSource_eq, expandRulesetUrl, startsWith_geosite]
  change formatSrsUrl (rulesetSourceUrl config) "geosite" name = _
  rw [formatSrsUrl, geosite_tag]
  rfl

theorem geoip_downloads (config : Config) :
    Downloads config ("geoip-" ++ name)
      (srsAsset (assetSource config.constItem.srsSourceUrl) "geoip" name) := by
  refine ⟨geoip_tag, congrArg (· ++ ".srs") geoip_tag, ?_⟩
  rw [assetSource_eq, expandRulesetUrl, startsWith_geoip]
  change formatSrsUrl (rulesetSourceUrl config) "geoip" name = _
  rw [formatSrsUrl, geoip_tag]
  rfl

end Urls

section Configs

variable {crates : Crates} {fuel : ℕ} {context : CoreConfigContext} {config : SingboxConfig}
variable {routing : RoutingItem} {routings : List RoutingItem} {tag : String}

/-- Why a rule set of a config is not among those collected: a host of the hosts table names it, a
negated address, or the regions that direct addresses are expected from, or its name is blank or has
blanks around it. -/
def Overlooked (routing : RoutingItem) (simpleDns : SimpleDnsItem) (tag : String) : Prop :=
  (∃ host ∈ hostKeys simpleDns, ∃ d, domainDestination host = some d ∧ ruleSetOf d = some tag) ∨
    (∃ item ∈ routedRules routing, ∃ d ∈ keptNegative item, ruleSetOf d = some tag) ∨
      (∃ region ∈ expectedRegions simpleDns, tag = "geoip-" ++ region) ∨
        ∃ name, (tag = "geoip-" ++ name ∨ tag = "geosite-" ++ name) ∧ ¬Plain name

/-- The rule set is downloaded ahead under its name and from its URL. -/
def Collected (config : Config) (routings : List RoutingItem) (tag : String) : Prop :=
  ∃ asset ∈ collectSingboxRulesetAssets config.constItem.srsSourceUrl routings,
    Downloads config tag asset

theorem geosite_of_rule {appConfig : Config} {simpleDns : SimpleDnsItem} {item : RulesItem}
    {d : Destination} (hmem : routing ∈ routings) (hitem : item ∈ routing.ruleSet)
    (hd : d ∈ keptDomains item) (hnamed : ruleSetOf d = some tag) :
    Overlooked routing simpleDns tag ∨ Collected appConfig routings tag := by
  obtain ⟨entry, hentry, hread⟩ := List.mem_filterMap.mp hd
  rcases domainDestination_cases hread with ⟨name, hstrip, rfl⟩ | hnone
  · cases hnamed
    by_cases hplain : Plain name
    · exact Or.inr ⟨_, geosite_collected hmem hitem (mem_namesOf hentry hstrip hplain),
        geosite_downloads appConfig⟩
    · exact Or.inl (Or.inr (Or.inr (Or.inr ⟨name, Or.inr rfl, hplain⟩)))
  · rw [hnone] at hnamed
    cases hnamed

theorem geoip_of_rule {appConfig : Config} {simpleDns : SimpleDnsItem} {item : RulesItem}
    {d : Destination} {entries : List String} (hmem : routing ∈ routings)
    (hitem : item ∈ routing.ruleSet) (hentries : ∀ entry ∈ entries, entry ∈ ipEntries item)
    (hd : d ∈ entries.filterMap addressDestination) (hnamed : ruleSetOf d = some tag) :
    Overlooked routing simpleDns tag ∨ Collected appConfig routings tag := by
  obtain ⟨entry, hentry, hread⟩ := List.mem_filterMap.mp hd
  rcases addressDestination_cases hread with ⟨name, hstrip, rfl⟩ | hnone
  · cases hnamed
    by_cases hplain : Plain name
    · exact Or.inr ⟨_, geoip_collected hmem hitem
        (mem_namesOf (hentries entry hentry) hstrip hplain), geoip_downloads appConfig⟩
    · exact Or.inl (Or.inr (Or.inr (Or.inr ⟨name, Or.inl rfl, hplain⟩)))
  · rw [hnone] at hnamed
    cases hnamed

/-- Every rule set that a config mentions is downloaded ahead, or is overlooked. -/
theorem mentioned_collected_or_overlooked
    (hsections : genSections crates fuel context = some config)
    (hrouting : context.routingItem = some routing) (hmem : routing ∈ routings)
    (htag : tag ∈ mentionedRuleSets (convertedConfig config)) :
    Overlooked routing context.simpleDnsItem tag ∨ Collected context.appConfig routings tag := by
  obtain ⟨d, hnamed, huse⟩ :=
    (RestartPolicy.mentionedRuleSets_genSections hsections tag).mp htag
  rcases huse with ⟨host, hhost, hread⟩ | ⟨other, hother, item, hitem, hd⟩ |
      ⟨other, hother, item, hitem, hd⟩
  · exact Or.inl (Or.inl ⟨host, hhost, d, hread, hnamed⟩)
  · -- a route rule names it
    rw [hrouting] at hother
    cases hother
    have hlisted := (List.mem_filter.mp hitem).1
    rcases hd with hd | ⟨_, hd⟩ | ⟨_, _, hd | hd⟩
    · exact geosite_of_rule hmem hlisted hd hnamed
    · exact geoip_of_rule hmem hlisted (fun _ hentry => hentry) hd hnamed
    · exact geoip_of_rule hmem hlisted (fun _ hentry => (List.mem_filter.mp hentry).1) hd hnamed
    · exact Or.inl (Or.inr (Or.inl ⟨item, hitem, d, hd, hnamed⟩))
  · -- a DNS rule names it
    rw [hrouting] at hother
    cases hother
    have hlisted := (List.mem_filter.mp hitem).1
    rcases hd with hd | ⟨_, _, _, region, hregion, rfl⟩
    · exact geosite_of_rule hmem hlisted hd hnamed
    · cases hnamed
      exact Or.inl (Or.inr (Or.inr (Or.inl ⟨region, hregion, rfl⟩)))

theorem mentioned_collected_geosite :
    ∃ config routing, genSections exampleCrates 2 geoContext = some config ∧
      geoContext.routingItem = some routing ∧
        (Overlooked routing geoContext.simpleDnsItem "geosite-cn" ∨
          Collected geoContext.appConfig [routing] "geosite-cn") := by
  refine ⟨_, _, by rfl, by rfl, ?_⟩
  refine @mentioned_collected_or_overlooked exampleCrates 2 geoContext _ _ _ "geosite-cn" (by rfl)
    (by rfl) List.mem_cons_self ?_
  exact List.mem_of_elem_eq_true (by rfl)

end Configs

end RulesetAssets
