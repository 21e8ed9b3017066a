import VoyaVPN.SingboxRouting

/-! The experimental section, and the conversion of geosite and geoip lists into references
to rule sets, with the definitions of the rule sets mentioned. -/
namespace SingboxExperimental

open Entities AppConfig RustText ContextBuilder ProtocolCommon SingboxSchema SingboxSupport
open SingboxRouting

def singboxRulesetUrl : String :=
  "https://raw.githubusercontent.com/2dust/sing-box-rules/rule-set-\x7b0\x7d/\x7b1\x7d.srs"

def genExperimental (config : SingboxConfig) (context : CoreConfigContext) : SingboxConfig :=
  let experimental := config.experimental.getD {}
  let port := statePort2 context.appConfig context.isTunEnabled
  let clashApi : SingboxClashApi :=
    { externalController := some (loopback ++ ":" ++ toString port), storeSelected := none }
  let cacheFile : Option SingboxCacheFile :=
    if context.appConfig.coreBasicItem.enableCacheFile4Sbox then
      some {
        enabled := true
        path := some "cache.db"
        cacheId := none
        storeFakeip := if context.simpleDnsItem.fakeIp = some true then some true else none }
    else experimental.cacheFile
  { config with experimental := some { cacheFile, clashApi := some clashApi } }

/-- The rule sets the geosite and geoip entries of one rule become. -/
def convertedRuleSets (fields : SingboxRuleFields) : List String :=
  (fields.geosite.getD []).map (fun item => "geosite-" ++ item) ++
    (fields.geoip.getD []).map (fun item => "geoip-" ++ item)

def convertFields (fields : SingboxRuleFields) : SingboxRuleFields :=
  let converted := convertedRuleSets fields
  { fields with
    geosite := if hasItems fields.geosite then none else fields.geosite
    geoip := if hasItems fields.geoip then none else fields.geoip
    ruleSet :=
      if converted.isEmpty then fields.ruleSet else some (fields.ruleSet.getD [] ++ converted) }

mutual

/-- The converted rule, and the rule sets it and its nested rules mention. -/
def convertRuleGeoToRuleset : SingboxRule → SingboxRule × List String
  | ⟨fields, none⟩ =>
    (⟨convertFields fields, none⟩, (convertFields fields).ruleSet.getD [])
  | ⟨fields, some nestedRules⟩ =>
    let nested := convertRulesGeoToRuleset nestedRules
    (⟨convertFields fields, some nested.1⟩,
      (convertFields fields).ruleSet.getD [] ++ nested.2)

def convertRulesGeoToRuleset : List SingboxRule → List SingboxRule × List String
  | [] => ([], [])
  | rule :: rest =>
    let converted := convertRuleGeoToRuleset rule
    let later := convertRulesGeoToRuleset rest
    (converted.1 :: later.1, converted.2 ++ later.2)

end

def missesRequiredFields (ruleset : SingboxRuleset) : Bool :=
  (nonemptyStr ruleset.tag).isNone || (nonemptyStr ruleset.type).isNone ||
    (nonemptyStr ruleset.format).isNone

def parseInlineCustomRulesets (crates : Crates) (value : Option String) :
    Except SingboxConfigError (List SingboxRuleset) :=
  match (value.map trim).filter fun value => startsWith value "[" with
  | none => .ok []
  | some value =>
    match crates.rulesetsFromStr value with
    | .error message => .error (.customRulesetJson message)
    | .ok rulesets =>
      match rulesets.findIdx? missesRequiredFields with
      | some index => .error (.customRulesetMissingRequiredFields index)
      | none => .ok rulesets

def expandRulesetUrl (sourceUrl tag : String) : String :=
  let kind := if startsWith tag "geosite" then "geosite" else "geoip"
  replace (replace sourceUrl "\x7b0\x7d" kind) "\x7b1\x7d" tag

def remoteRuleset (tag sourceUrl : String) : SingboxRuleset :=
  { tag := some tag
    type := some "remote"
    format := some "binary"
    url := some (expandRulesetUrl sourceUrl tag)
    downloadDetour := some proxyTag }

def rulesetForTag (tag sourceUrl : String) (context : CoreConfigContext) : SingboxRuleset :=
  match context.singboxRulesetPaths[tag]? with
  | some path =>
    { tag := some tag
      type := some "local"
      format := some "binary"
      path := some path }
  | none => remoteRuleset tag sourceUrl

def customRulesetPath (context : CoreConfigContext) : Option String :=
  context.routingItem.map (·.customRulesetPath4Singbox)

def rulesetSourceUrl (appConfig : Config) : String :=
  (nonemptyStr appConfig.constItem.srsSourceUrl).getD singboxRulesetUrl

/-- The definition of one mentioned rule set: the user's own, if there is one. -/
def rulesetDefinition (customRulesets : List SingboxRuleset) (context : CoreConfigContext)
    (tag : String) : SingboxRuleset :=
  (customRulesets.find? fun ruleset => ruleset.tag == some tag).getD
    (rulesetForTag tag (rulesetSourceUrl context.appConfig) context)

/-- The tags without repetition, in the order of a `BTreeSet`. -/
def uniqueSorted (tags : List String) : List String :=
  tags.dedup.insertionSort fun s t => s ≤ t

def convertGeoToRuleset (crates : Crates) (config : SingboxConfig)
    (context : CoreConfigContext) : Except SingboxConfigError SingboxConfig :=
  let (routeRules, routeTags) := convertRulesGeoToRuleset config.route.rules
  let dnsConverted := config.dns.map fun dns => (dns, convertRulesGeoToRuleset dns.rules)
  let config := { config with
    route := { config.route with rules := routeRules }
    dns := dnsConverted.map fun (dns, rules, _) => { dns with rules } }
  let dnsTags := (dnsConverted.map fun (_, _, tags) => tags).getD []
  let uniqueRuleSets := uniqueSorted ((routeTags ++ dnsTags).filter fun item => !isEmpty item)
  if uniqueRuleSets.isEmpty then .ok config
  else
    (parseInlineCustomRulesets crates (customRulesetPath context)).map fun customRulesets =>
      { config with route := { config.route with
          ruleSet := some (uniqueRuleSets.map (rulesetDefinition customRulesets context)) } }

end SingboxExperimental
