import VoyaVPN.SingboxRouting

/-! What a route rule matches. The destination fields of a rule are alternatives of each other, as
are its ports and port ranges; all other fields must hold together. Which single values a connection
satisfies is left to an interpretation. -/
namespace RuleMatching

open Entities RustText ProtocolCommon SingboxSchema SingboxSupport DnsAddress SingboxRouting

/-- One condition on the destination of a connection. -/
inductive Destination where
  | geosite (value : String)
  | domainRegex (value : String)
  | domainSuffix (value : String)
  | domain (value : String)
  | domainKeyword (value : String)
  | geoip (value : String)
  | ipCidr (value : String)
  | ipIsPrivate
  deriving DecidableEq, Repr

namespace Destination

def push : Destination → SingboxRule → SingboxRule
  | .geosite value, rule => { rule with geosite := pushItem rule.geosite value }
  | .domainRegex value, rule => { rule with domainRegex := pushItem rule.domainRegex value }
  | .domainSuffix value, rule => { rule with domainSuffix := pushItem rule.domainSuffix value }
  | .domain value, rule => { rule with domain := pushItem rule.domain value }
  | .domainKeyword value, rule => { rule with domainKeyword := pushItem rule.domainKeyword value }
  | .geoip value, rule => { rule with geoip := pushItem rule.geoip value }
  | .ipCidr value, rule => { rule with ipCidr := pushItem rule.ipCidr value }
  | .ipIsPrivate, rule => { rule with ipIsPrivate := some true }

def isAddress : Destination → Bool
  | .geoip _ | .ipCidr _ | .ipIsPrivate => true
  | _ => false

end Destination

/-- The condition a domain entry stands for; `none` for a comment or an external list. -/
def domainDestination (entry : String) : Option Destination :=
  if startsWith entry "#" || startsWith entry "ext:" || startsWith entry "ext-domain:" then none
  else if let some value := stripPrefix entry geositePrefix then some (.geosite value)
  else if let some value := stripPrefix entry "regexp:" then
    some (.domainRegex (replace value "<COMMA>" ","))
  else if let some value := stripPrefix entry "domain:" then some (.domainSuffix value)
  else if let some value := stripPrefix entry "full:" then some (.domain value)
  else if let some value := stripPrefix entry "keyword:" then some (.domainKeyword value)
  else if let some value := stripPrefix entry "dotless:" then some (.domainKeyword value)
  else some (.domainKeyword entry)

/-- The condition an address entry stands for; `none` for an external list. -/
def addressDestination (entry : String) : Option Destination :=
  if startsWith entry "ext:" || startsWith entry "ext-ip:" then none
  else if entry = "geoip:private" then some .ipIsPrivate
  else if let some value := stripPrefix entry geoipPrefix then some (.geoip value)
  else some (.ipCidr entry)

theorem parseV2Domain_eq (entry : String) (rule : SingboxRule) :
    parseV2Domain entry rule = (domainDestination entry).map fun d => d.push rule := by
  unfold parseV2Domain domainDestination
  by_cases hskip : (startsWith entry "#" || startsWith entry "ext:" ||
      startsWith entry "ext-domain:") = true
  · rw [if_pos hskip, if_pos hskip]
    rfl
  · rw [if_neg hskip, if_neg hskip]
    cases stripPrefix entry geositePrefix with
    | some value => rfl
    | none =>
      cases stripPrefix entry "regexp:" with
      | some value => rfl
      | none =>
        cases stripPrefix entry "domain:" with
        | some value => rfl
        | none =>
          cases stripPrefix entry "full:" with
          | some value => rfl
          | none =>
            cases stripPrefix entry "keyword:" with
            | some value => rfl
            | none => cases stripPrefix entry "dotless:" <;> rfl

theorem parseV2Address_eq (entry : String) (rule : SingboxRule) :
    parseV2Address entry rule = (addressDestination entry).map fun d => d.push rule := by
  unfold parseV2Address addressDestination
  by_cases hskip : (startsWith entry "ext:" || startsWith entry "ext-ip:") = true
  · rw [if_pos hskip, if_pos hskip]
    rfl
  · rw [if_neg hskip, if_neg hskip]
    by_cases hprivate : entry = "geoip:private"
    · rw [if_pos hprivate, if_pos hprivate]
      rfl
    · rw [if_neg hprivate, if_neg hprivate]
      cases stripPrefix entry geoipPrefix <;> rfl

def pushAll (ds : List Destination) (rule : SingboxRule) : SingboxRule :=
  ds.foldl (fun rule d => d.push rule) rule

theorem parseEach_eq {parse : String → SingboxRule → Option SingboxRule}
    {destination : String → Option Destination}
    (h : ∀ entry rule, parse entry rule = (destination entry).map fun d => d.push rule)
    (entries : List String) (rule : SingboxRule) :
    parseEach parse entries rule =
      (pushAll (entries.filterMap destination) rule, (entries.filterMap destination).length) := by
  induction entries generalizing rule with
  | nil => rfl
  | cons entry rest ih =>
    rw [parseEach, h]
    cases hd : destination entry with
    | none => simp [ih, hd]
    | some d => simp [ih, hd, pushAll]

def clearDestinations (rule : SingboxRule) : SingboxRule :=
  { rule with
    geosite := none
    domainRegex := none
    domainSuffix := none
    domain := none
    domainKeyword := none
    geoip := none
    ipCidr := none
    ipIsPrivate := none }

theorem clearDestinations_pushAll (ds : List Destination) (rule : SingboxRule) :
    clearDestinations (pushAll ds rule) = clearDestinations rule := by
  induction ds generalizing rule with
  | nil => rfl
  | cons d ds ih =>
    rw [pushAll, List.foldl_cons, ← pushAll, ih]
    cases d <;> rfl

def destinations (fields : SingboxRuleFields) : List Destination :=
  (fields.geosite.getD []).map .geosite ++
    (fields.domainRegex.getD []).map .domainRegex ++
    (fields.domainSuffix.getD []).map .domainSuffix ++
    (fields.domain.getD []).map .domain ++
    (fields.domainKeyword.getD []).map .domainKeyword ++
    (fields.geoip.getD []).map .geoip ++
    (fields.ipCidr.getD []).map .ipCidr ++
    if fields.ipIsPrivate = some true then [.ipIsPrivate] else []

def Destination.Listed (fields : SingboxRuleFields) : Destination → Prop
  | .geosite value => value ∈ fields.geosite.getD []
  | .domainRegex value => value ∈ fields.domainRegex.getD []
  | .domainSuffix value => value ∈ fields.domainSuffix.getD []
  | .domain value => value ∈ fields.domain.getD []
  | .domainKeyword value => value ∈ fields.domainKeyword.getD []
  | .geoip value => value ∈ fields.geoip.getD []
  | .ipCidr value => value ∈ fields.ipCidr.getD []
  | .ipIsPrivate => fields.ipIsPrivate = some true

theorem mem_destinations (x : Destination) (fields : SingboxRuleFields) :
    x ∈ destinations fields ↔ x.Listed fields := by
  by_cases hprivate : fields.ipIsPrivate = some true <;> cases x <;>
    simp [destinations, Destination.Listed, hprivate]

theorem mem_destinations_push (x d : Destination) (rule : SingboxRule) :
    x ∈ destinations (d.push rule).toSingboxRuleFields ↔
      x = d ∨ x ∈ destinations rule.toSingboxRuleFields := by
  rw [mem_destinations, mem_destinations]
  cases d <;> cases x <;>
    simp [Destination.Listed, Destination.push, pushItem, or_comm]

theorem mem_destinations_pushAll (x : Destination) (ds : List Destination)
    (rule : SingboxRule) :
    x ∈ destinations (pushAll ds rule).toSingboxRuleFields ↔
      x ∈ ds ∨ x ∈ destinations rule.toSingboxRuleFields := by
  induction ds generalizing rule with
  | nil => simp [pushAll]
  | cons d ds ih =>
    rw [pushAll, List.foldl_cons, ← pushAll, ih, mem_destinations_push, List.mem_cons]
    tauto

/-- Which single conditions a connection satisfies. -/
structure Interpretation where
  destination : Destination → Prop
  port : Int → Prop
  portRange : String → Prop
  network : String → Prop
  protocol : String → Prop
  inbound : String → Prop
  processName : String → Prop
  processPath : String → Prop

/-- A list of alternatives; the empty list is no condition. -/
def anyOf {α : Type} (P : α → Prop) (items : List α) : Prop := items = [] ∨ ∃ x ∈ items, P x

/-- The ports and port ranges of a rule are alternatives of each other. -/
def portsMatch (I : Interpretation) (fields : SingboxRuleFields) : Prop :=
  (fields.port.getD [] = [] ∧ fields.portRange.getD [] = []) ∨
    (∃ p ∈ fields.port.getD [], I.port p) ∨ ∃ r ∈ fields.portRange.getD [], I.portRange r

/-- The match semantics of a plain rule, over the matchers a user rule can carry. -/
structure FieldsMatch (I : Interpretation) (fields : SingboxRuleFields) : Prop where
  destination : anyOf I.destination (destinations fields)
  ports : portsMatch I fields
  network : anyOf I.network (fields.network.getD [])
  protocol : anyOf I.protocol (fields.protocol.getD [])
  inbound : anyOf I.inbound (fields.inbound.getD [])
  processName : anyOf I.processName (fields.processName.getD [])
  processPath : anyOf I.processPath (fields.processPath.getD [])

def inverted (fields : SingboxRuleFields) (P : Prop) : Prop :=
  if fields.invert = some true then ¬P else P

mutual

/-- The match semantics of a rule: a logical rule combines its nested rules. -/
def ruleMatches (I : Interpretation) : SingboxRule → Prop
  | ⟨fields, none⟩ => inverted fields (FieldsMatch I fields)
  | ⟨fields, some nested⟩ =>
    inverted fields (if fields.mode = some "and" then allMatch I nested else someMatch I nested)

def allMatch (I : Interpretation) : List SingboxRule → Prop
  | [] => True
  | rule :: rest => ruleMatches I rule ∧ allMatch I rest

def someMatch (I : Interpretation) : List SingboxRule → Prop
  | [] => False
  | rule :: rest => ruleMatches I rule ∨ someMatch I rest

end

theorem ruleMatches_plain (I : Interpretation) {rule : SingboxRule} (hrules : rule.rules = none)
    (hinvert : rule.invert = none) :
    ruleMatches I rule ↔ FieldsMatch I rule.toSingboxRuleFields := by
  obtain ⟨fields, rules⟩ := rule
  simp only at hrules hinvert
  subst hrules
  rw [ruleMatches, inverted, hinvert]
  simp

theorem ruleMatches_inverted (I : Interpretation) {rule : SingboxRule}
    (hrules : rule.rules = none) :
    ruleMatches I { rule with invert := some true } ↔
      ¬FieldsMatch I rule.toSingboxRuleFields := by
  obtain ⟨fields, rules⟩ := rule
  simp only at hrules
  subst hrules
  rw [ruleMatches, inverted, if_pos rfl]
  constructor
  · intro h hfields
    exact h ⟨hfields.1, hfields.2, hfields.3, hfields.4, hfields.5, hfields.6, hfields.7⟩
  · intro h hfields
    exact h ⟨hfields.1, hfields.2, hfields.3, hfields.4, hfields.5, hfields.6, hfields.7⟩

theorem ruleMatches_and (I : Interpretation) (rule : SingboxRule) {first second : SingboxRule}
    (hrules : rule.rules = some [first, second]) (hmode : rule.mode = some "and")
    (hinvert : rule.invert = none) :
    ruleMatches I rule ↔ ruleMatches I first ∧ ruleMatches I second := by
  obtain ⟨fields, rules⟩ := rule
  simp only at hrules hmode hinvert
  subst hrules
  rw [ruleMatches, inverted, hinvert, if_neg (by simp), if_pos hmode, allMatch, allMatch,
    allMatch, and_true]

def processNameEntry (process : String) : Option String :=
  if process = "self/" then some "sing-box"
  else if containsChar process (fun c => c == '/' || c == '\\') then none
  else some (exeName process)

def processPathEntry (process : String) : Option String :=
  if process = "self/" then none
  else if containsChar process (fun c => c == '/' || c == '\\') then some process
  else none

def domainEntries (item : RulesItem) : List String := item.domain.getD []

def ipEntries (item : RulesItem) : List String := item.ip.getD []

def processEntries (item : RulesItem) : List String := item.process.getD []

end RuleMatching
