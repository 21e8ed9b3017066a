import VoyaVPN.GeneratedServers
import VoyaVPN.ItemMatching
import VoyaVPN.RoutingSteps
import VoyaVPN.UserRouteRules

/-! When the route rules of a user rule are sound: each carries the user rule's outbound and
matches only connections the user rule asks for. The generator drops entries it cannot read,
which is harmless for alternatives but not for the last one of its kind, and a rule for a profile
without servers goes to the proxy. -/
namespace UserRuleSoundness

open Entities RustText ContextBuilder ProtocolCommon SingboxSchema SingboxSupport
open SingboxOutbounds SingboxRouting GeneratedServers RuleMatching ItemMatching UserRouteRules
open RoutingSteps

/-- What is left of the constraints of a user rule in its route rules. -/
structure ConstraintsMatch (I : Interpretation) (item : RulesItem) : Prop where
  ports : (readPorts item = [] ∧ readPortRanges item = []) ∨
    (∃ p ∈ readPorts item, I.port p) ∨ ∃ r ∈ readPortRanges item, I.portRange r
  network : anyOf I.network (readNetworks item)
  protocol : anyOf I.protocol (item.protocol.getD [])
  inbound : anyOf I.inbound (item.inboundTag.getD [])

theorem fieldsMatch_iff {I : Interpretation} {item : RulesItem} {fields : SingboxRuleFields}
    (h : Constrained item fields) :
    FieldsMatch I fields ↔
      ConstraintsMatch I item ∧ anyOf I.destination (destinations fields) ∧
        anyOf I.processName (fields.processName.getD []) ∧
        anyOf I.processPath (fields.processPath.getD []) := by
  constructor
  · rintro ⟨hd, hp, hn, hpr, hi, hname, hpath⟩
    refine ⟨⟨?_, ?_, ?_, ?_⟩, hd, hname, hpath⟩
    · rwa [portsMatch, h.port, h.portRange] at hp
    · rwa [h.network] at hn
    · rwa [h.protocol] at hpr
    · rwa [h.inbound] at hi
  · rintro ⟨⟨hp, hn, hpr, hi⟩, hd, hname, hpath⟩
    refine ⟨hd, ?_, ?_, ?_, ?_, hname, hpath⟩
    · rwa [portsMatch, h.port, h.portRange]
    · rwa [h.network]
    · rwa [h.protocol]
    · rwa [h.inbound]

theorem anyOf_destinations_pushAll {I : Interpretation} {ds : List Destination}
    {rule : SingboxRule} (hrule : destinations rule.toSingboxRuleFields = []) (hds : ds ≠ []) :
    anyOf I.destination (destinations (pushAll ds rule).toSingboxRuleFields) ↔
      ∃ d ∈ ds, I.destination d := by
  have hmem : ∀ d, d ∈ destinations (pushAll ds rule).toSingboxRuleFields ↔ d ∈ ds := by
    intro d
    rw [mem_destinations_pushAll, hrule]
    simp
  constructor
  · rintro (hnil | ⟨d, hd, hI⟩)
    · obtain ⟨d, hd⟩ := List.exists_mem_of_ne_nil _ hds
      rw [← hmem, hnil] at hd
      cases hd
    · exact ⟨d, (hmem d).mp hd, hI⟩
  · rintro ⟨d, hd, hI⟩
    exact Or.inr ⟨d, (hmem d).mpr hd, hI⟩

theorem anyOf_nil {α : Type} (P : α → Prop) : anyOf P [] := Or.inl rfl

theorem anyOf_of_ne_nil {α : Type} {P : α → Prop} {items : List α} (h : items ≠ []) :
    anyOf P items ↔ ∃ x ∈ items, P x := by
  unfold anyOf
  simp [h]

variable {tag : String} {item : RulesItem} {I : Interpretation}

theorem ruleMatches_pushAll (rule : SingboxRule) (hrules : rule.rules = none)
    (hinvert : rule.invert = none) (hdest : destinations rule.toSingboxRuleFields = [])
    (hname : rule.processName = none) (hpath : rule.processPath = none)
    (hitem : Constrained item rule.toSingboxRuleFields) {ds : List Destination} (hds : ds ≠ []) :
    ruleMatches I (pushAll ds rule) ↔ ConstraintsMatch I item ∧ ∃ d ∈ ds, I.destination d := by
  have hrules' : (pushAll ds rule).rules = none :=
    (pushAll_read ds rule (fun r => r.rules) fun _ => rfl).trans hrules
  have hinvert' : (pushAll ds rule).invert = none :=
    (pushAll_read ds rule (fun r => r.invert) fun _ => rfl).trans hinvert
  have hname' : (pushAll ds rule).processName = none :=
    (pushAll_read ds rule (fun r => r.processName) fun _ => rfl).trans hname
  have hpath' : (pushAll ds rule).processPath = none :=
    (pushAll_read ds rule (fun r => r.processPath) fun _ => rfl).trans hpath
  rw [ruleMatches_plain I hrules' hinvert', fieldsMatch_iff (pushAll_constrained ds rule hitem),
    anyOf_destinations_pushAll hdest hds, hname', hpath']
  simp [anyOf_nil]

theorem ruleMatches_base : ruleMatches I (baseRule tag item) ↔ ConstraintsMatch I item := by
  rw [ruleMatches_plain I (baseRule_rules tag item) (baseRule_invert tag item),
    fieldsMatch_iff (constrained_base tag item), baseRule_destinations,
    (baseRule_processes tag item).1, (baseRule_processes tag item).2]
  simp [anyOf_nil]

theorem ruleMatches_pushAll_base {ds : List Destination} (hds : ds ≠ []) :
    ruleMatches I (pushAll ds (baseRule tag item)) ↔
      ConstraintsMatch I item ∧ ∃ d ∈ ds, I.destination d :=
  ruleMatches_pushAll _ (baseRule_rules tag item) (baseRule_invert tag item)
    (baseRule_destinations tag item) (baseRule_processes tag item).1
    (baseRule_processes tag item).2 (constrained_base tag item) hds

theorem ruleMatches_positive (h : keptPositive item ≠ []) :
    ruleMatches I (positiveIpRule (baseRule tag item) item) ↔
      ConstraintsMatch I item ∧ ∃ d ∈ keptPositive item, I.destination d := by
  have hbase := constrained_base tag item
  exact ruleMatches_pushAll { baseRule tag item with outbound := none, action := none }
    (baseRule_rules tag item) (baseRule_invert tag item) (baseRule_destinations tag item)
    (baseRule_processes tag item).1 (baseRule_processes tag item).2
    ⟨hbase.port, hbase.portRange, hbase.network, hbase.protocol, hbase.inbound⟩ h

theorem ruleMatches_negative (h : keptNegative item ≠ []) :
    ruleMatches I (negativeIpRule item) ↔ ¬∃ d ∈ keptNegative item, I.destination d := by
  have hitem : Constrained {} ({} : SingboxRule).toSingboxRuleFields := ⟨rfl, rfl, rfl, rfl, rfl⟩
  have hpushed := ruleMatches_pushAll (I := I) {} rfl rfl rfl rfl rfl hitem h
  have hall : ConstraintsMatch I {} :=
    ⟨Or.inl ⟨rfl, rfl⟩, anyOf_nil _, anyOf_nil _, anyOf_nil _⟩
  have hrules : (pushAll (keptNegative item) {}).rules = none :=
    pushAll_read (keptNegative item) {} (fun r => r.rules) fun _ => rfl
  have hinvert : (pushAll (keptNegative item) {}).invert = none :=
    pushAll_read (keptNegative item) {} (fun r => r.invert) fun _ => rfl
  rw [ruleMatches_plain I hrules hinvert] at hpushed
  rw [negativeIpRule, ruleMatches_inverted I hrules, hpushed]
  simp [hall]

theorem ruleMatches_mixed (hp : keptPositive item ≠ []) (hn : keptNegative item ≠ []) :
    ruleMatches I (mixedIpRule (baseRule tag item) item) ↔
      (ConstraintsMatch I item ∧ ∃ d ∈ keptPositive item, I.destination d) ∧
        ¬∃ d ∈ keptNegative item, I.destination d := by
  rw [ruleMatches_and I (mixedIpRule (baseRule tag item) item) rfl rfl rfl,
    ruleMatches_positive hp, ruleMatches_negative hn]

theorem ruleMatches_processName (h : processNames item ≠ []) :
    ruleMatches I (processNameRule (baseRule tag item) item) ↔
      ConstraintsMatch I item ∧ ∃ name ∈ processNames item, I.processName name := by
  have hbase := constrained_base tag item
  have hitem : Constrained item (processNameRule (baseRule tag item) item).toSingboxRuleFields :=
    ⟨hbase.port, hbase.portRange, hbase.network, hbase.protocol, hbase.inbound⟩
  have hdest : destinations (processNameRule (baseRule tag item) item).toSingboxRuleFields = [] :=
    baseRule_destinations tag item
  have hnames : (processNameRule (baseRule tag item) item).processName.getD [] =
      processNames item := foldl_pushItem (processNames item) none
  have hpath : (processNameRule (baseRule tag item) item).processPath = none :=
    (baseRule_processes tag item).2
  have hrules : (processNameRule (baseRule tag item) item).rules = none := baseRule_rules tag item
  have hinvert : (processNameRule (baseRule tag item) item).invert = none :=
    baseRule_invert tag item
  rw [ruleMatches_plain I hrules hinvert,
    fieldsMatch_iff hitem, hdest, hnames, hpath, anyOf_of_ne_nil h]
  simp [anyOf_nil]

theorem ruleMatches_processPath (h : processPaths item ≠ []) :
    ruleMatches I (processPathRule (baseRule tag item) item) ↔
      ConstraintsMatch I item ∧ ∃ path ∈ processPaths item, I.processPath path := by
  have hbase := constrained_base tag item
  have hitem : Constrained item (processPathRule (baseRule tag item) item).toSingboxRuleFields :=
    ⟨hbase.port, hbase.portRange, hbase.network, hbase.protocol, hbase.inbound⟩
  have hdest : destinations (processPathRule (baseRule tag item) item).toSingboxRuleFields = [] :=
    baseRule_destinations tag item
  have hpaths : (processPathRule (baseRule tag item) item).processPath.getD [] =
      processPaths item := foldl_pushItem (processPaths item) none
  have hname : (processPathRule (baseRule tag item) item).processName = none :=
    (baseRule_processes tag item).1
  have hrules : (processPathRule (baseRule tag item) item).rules = none := baseRule_rules tag item
  have hinvert : (processPathRule (baseRule tag item) item).invert = none :=
    baseRule_invert tag item
  rw [ruleMatches_plain I hrules hinvert,
    fieldsMatch_iff hitem, hdest, hpaths, hname, anyOf_of_ne_nil h]
  simp [anyOf_nil]

/-- At least one entry of every port and network text can be read. -/
structure ConstraintsReadable (item : RulesItem) : Prop where
  port : ∀ text, nonemptyStr item.port = some text →
    ∃ entry ∈ portItems text, portItem entry ≠ none ∨ portRangeItem entry ≠ none
  network : ∀ text, nonemptyStr item.network = some text → splitCsv text ≠ []

/-- The port is among those the generator reads, or it reads none. -/
def PortRead (item : RulesItem) (port : UInt16) : Prop :=
  (readPorts item = [] ∧ readPortRanges item = []) ∨ (port.toNat : Int) ∈ readPorts item ∨
    ∃ range ∈ readPortRanges item, InRange ':' range port.toNat

/-- Rules that some connection can match leave no constraint of the user rule out. -/
structure ReadsConstraints (item : RulesItem) : Prop where
  targets : (keptDomains item ≠ [] ∨ processEntries item ≠ [] ∨
      (negativeIps (ipEntries item) = [] ∧ keptIps item ≠ [])) → ConstraintsReadable item
  mixed : negativeIps (ipEntries item) ≠ [] →
    (∃ d ∈ keptPositive item, d ∉ keptNegative item) → ConstraintsReadable item ∧
      ∀ entry ∈ negativeIps (ipEntries item), addressDestination entry ≠ none
  bare : ¬HasTarget item → HasConstraint item →
    ConstraintsReadable item ∧ domainEntries item = [] ∧ ipEntries item = []
  dotless : ∀ entry ∈ domainEntries item, ∀ value, stripPrefix entry "dotless:" = some value →
    ∃ other ∈ domainEntries item, stripPrefix other "dotless:" = none ∧
      domainDestination other = some (.domainKeyword value)

/-- The condition under which the route rules of a user rule are sound. -/
structure SoundWhen (item : RulesItem) : Prop where
  negated : negativeIps (ipEntries item) ≠ [] → keptPositive item ≠ [] → keptNegative item ≠ []
  constraints : (∃ port, PortRead item port) → ReadsConstraints item

theorem PortRead.of_constraints {connection : Connection}
    (h : ConstraintsMatch connection.interpretation item) : PortRead item connection.port := by
  rcases h.ports with hnil | ⟨p, hp, rfl⟩ | hrange
  · exact Or.inl hnil
  · exact Or.inr (Or.inl hp)
  · exact Or.inr (Or.inr hrange)

variable {connection : Connection}

theorem itemMatches_of_constraints (hreadable : ConstraintsReadable item)
    (h : ConstraintsMatch connection.interpretation item) (target : targetHolds connection item) :
    ItemMatches connection item where
  port := by
    intro raw hraw hnonempty
    have htext : nonemptyStr item.port = some (trim raw) :=
      nonemptyStr_eq_some.mpr ⟨raw, hraw, hnonempty, rfl⟩
    obtain ⟨entry, hentry, hread⟩ := hreadable.port _ htext
    have hports : readPorts item = (portItems (trim raw)).filterMap portItem := by
      rw [readPorts, htext, Option.map_some, Option.getD_some]
    have hranges : readPortRanges item = (portItems (trim raw)).filterMap portRangeItem := by
      rw [readPortRanges, htext, Option.map_some, Option.getD_some]
    have hbound := connection.port.toNat_lt
    rcases h.ports with ⟨hnil, hnil'⟩ | ⟨p, hp, hI⟩ | ⟨range, hrange, hI⟩
    · rw [hports, List.filterMap_eq_nil_iff] at hnil
      rw [hranges, List.filterMap_eq_nil_iff] at hnil'
      rcases hread with hread | hread
      · exact absurd (hnil entry hentry) hread
      · exact absurd (hnil' entry hentry) hread
    · rw [hports] at hp
      obtain ⟨entry, hentry, hsome⟩ := List.mem_filterMap.mp hp
      obtain ⟨⟨piece, hpiece, rfl⟩, _⟩ := mem_portItems.mp hentry
      rw [show p = (connection.port.toNat : Int) from hI] at hsome
      exact ⟨piece, hpiece, (portEntryHolds_iff _ hbound).mpr (Or.inl hsome)⟩
    · rw [hranges] at hrange
      obtain ⟨entry, hentry, hsome⟩ := List.mem_filterMap.mp hrange
      obtain ⟨⟨piece, hpiece, rfl⟩, _⟩ := mem_portItems.mp hentry
      exact ⟨piece, hpiece, (portEntryHolds_iff _ hbound).mpr (Or.inr ⟨range, hsome, hI⟩)⟩
  network := by
    intro raw hraw hnonempty
    have htext : nonemptyStr item.network = some (trim raw) :=
      nonemptyStr_eq_some.mpr ⟨raw, hraw, hnonempty, rfl⟩
    have hnetworks : readNetworks item = splitCsv (trim raw) := by
      rw [readNetworks, htext, Option.map_some, Option.getD_some]
    have hnetwork := h.network
    rw [hnetworks] at hnetwork
    obtain ⟨network, hmem, hI⟩ := (anyOf_of_ne_nil (hreadable.network _ htext)).mp hnetwork
    obtain ⟨⟨piece, hpiece, rfl⟩, hne⟩ := mem_portItems.mp hmem
    exact ⟨piece, hpiece, hne, hI⟩
  protocol := h.protocol
  inbound := by
    rcases h.inbound with hnil | ⟨inbound, hmem, hI⟩
    · exact Or.inl hnil
    · rw [show inbound = connection.inbound from hI] at hmem
      exact Or.inr hmem
  target := target

theorem readable_of_itemMatches (h : ItemMatches connection item) : ConstraintsReadable item where
  port := by
    intro text htext
    obtain ⟨raw, hraw, hnonempty, rfl⟩ := nonemptyStr_eq_some.mp htext
    obtain ⟨piece, hpiece, hholds⟩ := h.port raw hraw hnonempty
    have hread := (portEntryHolds_iff _ connection.port.toNat_lt).mp hholds
    have hne : trim piece ≠ "" := by
      intro hempty
      rw [hempty] at hread
      rcases hread with hport | ⟨range, hrange, _⟩
      · revert hport
        simp [portItem, parseI32, parseInteger]
      · revert hrange
        simp [portRangeItem, containsChar]
    refine ⟨trim piece, mem_portItems.mpr ⟨⟨piece, hpiece, rfl⟩, hne⟩, ?_⟩
    rcases hread with hport | ⟨range, hrange, _⟩
    · exact Or.inl (by simp [hport])
    · exact Or.inr (by simp [hrange])
  network := by
    intro text htext
    obtain ⟨raw, hraw, hnonempty, rfl⟩ := nonemptyStr_eq_some.mp htext
    obtain ⟨piece, hpiece, hne, _⟩ := h.network raw hraw hnonempty
    exact List.ne_nil_of_mem (mem_portItems.mpr ⟨⟨piece, hpiece, rfl⟩, hne⟩)

theorem positiveIps_of_no_negative {ips : List String} (h : negativeIps ips = []) :
    positiveIps ips = ips := by
  rw [positiveIps, List.filter_eq_self]
  intro ip hip
  by_contra hpositive
  have hstarts : startsWith ip "!" = true := by simpa using hpositive
  have hnone := List.filterMap_eq_nil_iff.mp h ip hip
  simp [stripPrefix, hstarts] at hnone

theorem mem_negativeIps {ips : List String} {negated : String} :
    negated ∈ negativeIps ips ↔
      ∃ ip ∈ ips, ∃ text, stripPrefix ip "!" = some text ∧ trim text = negated := by
  simp only [negativeIps, List.mem_filterMap, Option.map_eq_some_iff]

theorem mem_positiveIps {ips : List String} {entry : String} :
    entry ∈ positiveIps ips ↔ entry ∈ ips ∧ startsWith entry "!" = false := by
  simp [positiveIps, List.mem_filter]

theorem domainEntryHolds_of_plain {entry : String} {d : Destination}
    (hplain : stripPrefix entry "dotless:" = none) (h : domainDestination entry = some d)
    (hI : connection.destination d) : domainEntryHolds connection entry := by
  simp only [domainEntryHolds, hplain, h]
  exact hI

theorem targetHolds_of_domain (hdotless : ∀ entry ∈ domainEntries item, ∀ value,
      stripPrefix entry "dotless:" = some value →
      ∃ other ∈ domainEntries item, stripPrefix other "dotless:" = none ∧
        domainDestination other = some (.domainKeyword value))
    {d : Destination} (hd : d ∈ keptDomains item) (hI : connection.destination d) :
    targetHolds connection item := by
  obtain ⟨entry, hentry, hsome⟩ := List.mem_filterMap.mp hd
  refine Or.inr (Or.inl ?_)
  cases hstrip : stripPrefix entry "dotless:" with
  | none => exact ⟨entry, hentry, domainEntryHolds_of_plain hstrip hsome hI⟩
  | some value =>
    rw [domainDestination_dotless hstrip] at hsome
    cases hsome
    obtain ⟨other, hother, hplain, hkeyword⟩ := hdotless entry hentry value hstrip
    exact ⟨other, hother, domainEntryHolds_of_plain hplain hkeyword hI⟩

theorem addressEntryHolds_of_kept {entry : String} {d : Destination}
    (h : addressDestination entry = some d) (hI : connection.destination d) :
    addressEntryHolds connection entry := by
  rw [addressEntryHolds, h]
  exact hI

theorem targetHolds_of_ip (hnegative : negativeIps (ipEntries item) = []) {d : Destination}
    (hd : d ∈ keptIps item) (hI : connection.destination d) : targetHolds connection item := by
  obtain ⟨entry, hentry, hsome⟩ := List.mem_filterMap.mp hd
  have hpositive : entry ∈ positiveIps (ipEntries item) := by
    rwa [positiveIps_of_no_negative hnegative]
  refine Or.inr (Or.inr (Or.inr ⟨⟨entry, hentry, (mem_positiveIps.mp hpositive).2,
    addressEntryHolds_of_kept hsome hI⟩, ?_⟩))
  intro ip hip text htext
  have hmem := mem_negativeIps.mpr ⟨ip, hip, text, htext, rfl⟩
  rw [hnegative] at hmem
  cases hmem

theorem targetHolds_of_mixed {d : Destination} (hd : d ∈ keptPositive item)
    (hI : connection.destination d)
    (hnone : ¬∃ d ∈ keptNegative item, connection.destination d)
    (hread : ∀ entry ∈ negativeIps (ipEntries item), addressDestination entry ≠ none) :
    targetHolds connection item := by
  obtain ⟨entry, hentry, hsome⟩ := List.mem_filterMap.mp hd
  obtain ⟨hlisted, hpositive⟩ := mem_positiveIps.mp hentry
  refine Or.inr (Or.inr (Or.inr ⟨⟨entry, hlisted, hpositive,
    addressEntryHolds_of_kept hsome hI⟩, ?_⟩))
  intro ip hip text htext hholds
  have hnegated := mem_negativeIps.mpr ⟨ip, hip, text, htext, rfl⟩
  obtain ⟨d', hd'⟩ := Option.ne_none_iff_exists'.mp (hread _ hnegated)
  rw [addressEntryHolds, hd'] at hholds
  exact hnone ⟨d', List.mem_filterMap.mpr ⟨_, hnegated, hd'⟩, hholds⟩

theorem targetHolds_of_processName {name : String} (hname : name ∈ processNames item)
    (hI : connection.processName = some name) : targetHolds connection item := by
  obtain ⟨process, hprocess, hsome⟩ := List.mem_filterMap.mp hname
  exact Or.inr (Or.inr (Or.inl ⟨process, hprocess, processEntryHolds_of_name hsome hI⟩))

theorem targetHolds_of_processPath {path : String} (hpath : path ∈ processPaths item)
    (hI : connection.processPath = some path) : targetHolds connection item := by
  obtain ⟨process, hprocess, hsome⟩ := List.mem_filterMap.mp hpath
  exact Or.inr (Or.inr (Or.inl ⟨process, hprocess, processEntryHolds_of_path hsome hI⟩))

theorem processEntries_ne_nil_of_name (h : processNames item ≠ []) : processEntries item ≠ [] :=
  fun hnil => h ((processEntries_eq_nil_iff item).mp hnil).1

theorem processEntries_ne_nil_of_path (h : processPaths item ≠ []) : processEntries item ≠ [] :=
  fun hnil => h ((processEntries_eq_nil_iff item).mp hnil).2

/-- The rule matches only connections the user rule asks for. -/
def MatchesOnly (item : RulesItem) (rule : SingboxRule) : Prop :=
  ∀ connection : Connection, ruleMatches connection.interpretation rule →
    ItemMatches connection item

/-- Each rule carries the outbound and matches only connections the user rule asks for. -/
def SoundRules (tag : String) (item : RulesItem) : Prop :=
  ∀ rule ∈ userRouteRules tag item, CarriesOutbound tag rule ∧ MatchesOnly item rule

theorem soundRules_of_soundWhen (h : SoundWhen item) : SoundRules tag item := by
  intro rule hrule
  have hbase := baseRule_carries tag item
  have reads : ∀ {connection : Connection}, ConstraintsMatch connection.interpretation item →
      ReadsConstraints item := fun hconstraints => h.constraints ⟨_, .of_constraints hconstraints⟩
  rcases (mem_userRouteRules tag item rule).mp hrule with ⟨hd, rfl⟩ | ⟨hneg, hi, rfl⟩ |
    ⟨hneg, hp, hn, rfl⟩ | ⟨hneg, hp, hn, rfl⟩ | ⟨hname, rfl⟩ | ⟨hpath, rfl⟩ | ⟨htarget, hc, rfl⟩
  · refine ⟨pushAll_carries _ _ hbase, fun connection hI => ?_⟩
    obtain ⟨hconstraints, d, hmem, hdI⟩ := (ruleMatches_pushAll_base hd).mp hI
    have hreads := reads hconstraints
    exact itemMatches_of_constraints (hreads.targets (Or.inl hd)) hconstraints
      (targetHolds_of_domain hreads.dotless hmem hdI)
  · refine ⟨pushAll_carries _ _ hbase, fun connection hI => ?_⟩
    obtain ⟨hconstraints, d, hmem, hdI⟩ := (ruleMatches_pushAll_base hi).mp hI
    exact itemMatches_of_constraints ((reads hconstraints).targets (Or.inr (Or.inr ⟨hneg, hi⟩)))
      hconstraints (targetHolds_of_ip hneg hmem hdI)
  · exact absurd hn (h.negated hneg hp)
  · refine ⟨hbase, fun connection hI => ?_⟩
    obtain ⟨⟨hconstraints, d, hmem, hdI⟩, hnone⟩ := (ruleMatches_mixed hp hn).mp hI
    have hapart : ∃ d ∈ keptPositive item, d ∉ keptNegative item :=
      ⟨d, hmem, fun hin => hnone ⟨d, hin, hdI⟩⟩
    obtain ⟨hreadable, hread⟩ := (reads hconstraints).mixed hneg hapart
    exact itemMatches_of_constraints hreadable hconstraints
      (targetHolds_of_mixed hmem hdI hnone hread)
  · refine ⟨hbase, fun connection hI => ?_⟩
    obtain ⟨hconstraints, name, hmem, hnI⟩ := (ruleMatches_processName hname).mp hI
    have hprocess := processEntries_ne_nil_of_name hname
    exact itemMatches_of_constraints ((reads hconstraints).targets (Or.inr (Or.inl hprocess)))
      hconstraints (targetHolds_of_processName hmem hnI)
  · refine ⟨hbase, fun connection hI => ?_⟩
    obtain ⟨hconstraints, path, hmem, hpI⟩ := (ruleMatches_processPath hpath).mp hI
    have hprocess := processEntries_ne_nil_of_path hpath
    exact itemMatches_of_constraints ((reads hconstraints).targets (Or.inr (Or.inl hprocess)))
      hconstraints (targetHolds_of_processPath hmem hpI)
  · refine ⟨hbase, fun connection hI => ?_⟩
    have hconstraints := ruleMatches_base.mp hI
    obtain ⟨hreadable, hdomains, hips⟩ :=
      (reads hconstraints).bare htarget ((hasConstraint_base tag item).mp hc)
    have hprocesses : processEntries item = [] := by
      by_contra hne
      exact htarget (Or.inr (Or.inr (Or.inr hne)))
    exact itemMatches_of_constraints hreadable hconstraints (Or.inl ⟨hdomains, hips, hprocesses⟩)

/-- A connection that meets the constraints the generator reads of the user rule, to a destination
with dots that is on no external domain list. -/
def constrainedConnection (item : RulesItem) (port : UInt16) (destination : Destination → Prop)
    (onLists : Prop) (processName processPath : Option String) : Connection where
  destination := destination
  dotless := False
  externalDomain _ := False
  externalAddress _ := onLists
  port := port
  network := (readNetworks item).headD ""
  protocol := (item.protocol.getD []).head?
  inbound := (item.inboundTag.getD []).headD ""
  processName := processName
  processPath := processPath

theorem anyOf_headD (items : List String) : anyOf (fun x => x = items.headD "") items := by
  cases items with
  | nil => exact Or.inl rfl
  | cons x rest => exact Or.inr ⟨x, List.mem_cons_self, rfl⟩

theorem anyOf_head? (items : List String) : anyOf (fun x => items.head? = some x) items := by
  cases items with
  | nil => exact Or.inl rfl
  | cons x rest => exact Or.inr ⟨x, List.mem_cons_self, rfl⟩

section Necessity

variable {port : UInt16} {destination : Destination → Prop} {onLists : Prop}
variable {processName processPath : Option String}

theorem constraintsMatch_constrainedConnection (h : PortRead item port) :
    ConstraintsMatch (constrainedConnection item port destination onLists processName
      processPath).interpretation item where
  ports := by
    rcases h with hnil | hport | hrange
    · exact Or.inl hnil
    · exact Or.inr (Or.inl ⟨_, hport, rfl⟩)
    · exact Or.inr (Or.inr hrange)
  network := anyOf_headD _
  protocol := anyOf_head? _
  inbound := anyOf_headD _

theorem not_processEntryHolds {process : String} :
    ¬processEntryHolds (constrainedConnection item port destination onLists none none) process := by
  simp [processEntryHolds, constrainedConnection]

theorem not_domainEntryHolds {address : Destination} (haddress : address.isAddress = true)
    {entry : String} :
    ¬domainEntryHolds (constrainedConnection item port (fun d => d = address) onLists processName
      processPath) entry := by
  rw [domainEntryHolds]
  split
  · exact fun h => h.2
  · split
    · rename_i d hd
      have hdomain := domainDestination_not_address hd
      intro h
      rw [show d = address from h, haddress] at hdomain
      cases hdomain
    · exact fun h => h.2

theorem not_carries_positive {named : String} :
    ¬CarriesOutbound named (positiveIpRule (baseRule tag item) item) := by
  have houtbound : (positiveIpRule (baseRule tag item) item).outbound = none :=
    pushAll_read (keptPositive item) _ (fun r => r.outbound) fun _ => rfl
  have haction : (positiveIpRule (baseRule tag item) item).action = none :=
    pushAll_read (keptPositive item) _ (fun r => r.action) fun _ => rfl
  rw [CarriesOutbound, houtbound, haction]
  split <;> simp

theorem carries_or_positive {rule : SingboxRule} (h : rule ∈ userRouteRules tag item) :
    CarriesOutbound tag rule ∨ rule = positiveIpRule (baseRule tag item) item := by
  have hbase := baseRule_carries tag item
  rcases (mem_userRouteRules tag item rule).mp h with ⟨_, rfl⟩ | ⟨_, _, rfl⟩ | ⟨_, _, _, rfl⟩ |
    ⟨_, _, _, rfl⟩ | ⟨_, rfl⟩ | ⟨_, rfl⟩ | ⟨_, _, rfl⟩
  · exact Or.inl (pushAll_carries _ _ hbase)
  · exact Or.inl (pushAll_carries _ _ hbase)
  · exact Or.inr rfl
  · exact Or.inl hbase
  · exact Or.inl hbase
  · exact Or.inl hbase
  · exact Or.inl hbase

theorem CarriesOutbound.unique {rule : SingboxRule} {named : String}
    (h : CarriesOutbound tag rule) (h' : CarriesOutbound named rule) : named = tag := by
  unfold CarriesOutbound at h h'
  split at h <;> split at h'
  · rename_i hblock hblock'
    exact hblock'.trans hblock.symm
  · rw [h.1] at h'
    cases h'
  · rw [h'.1] at h
    cases h
  · rw [h] at h'
    exact (Option.some.inj h').symm

theorem carriesOutbound_pushed {rule : SingboxRule} {named : String}
    (h : rule ∈ userRouteRules tag item) (hcarries : CarriesOutbound named rule) : named = tag := by
  rcases carries_or_positive h with hown | rfl
  · exact CarriesOutbound.unique hown hcarries
  · exact absurd hcarries not_carries_positive

theorem targets_readable (h : SoundRules tag item) (hport : PortRead item port)
    (htargets : keptDomains item ≠ [] ∨ processEntries item ≠ [] ∨
      (negativeIps (ipEntries item) = [] ∧ keptIps item ≠ [])) : ConstraintsReadable item := by
  have hmem := fun rule => (mem_userRouteRules tag item rule).mpr
  rcases htargets with hd | hprocess | ⟨hneg, hi⟩
  · obtain ⟨d, hmem'⟩ := List.exists_mem_of_ne_nil _ hd
    exact readable_of_itemMatches ((h _ (hmem _ (Or.inl ⟨hd, rfl⟩))).2
      (constrainedConnection item port (fun _ => True) False none none)
      ((ruleMatches_pushAll_base hd).mpr
        ⟨constraintsMatch_constrainedConnection hport, d, hmem', trivial⟩))
  · rw [ne_eq, processEntries_eq_nil_iff, not_and_or] at hprocess
    rcases hprocess with hname | hpath
    · obtain ⟨name, hmem'⟩ := List.exists_mem_of_ne_nil _ hname
      have hrule := hmem (processNameRule (baseRule tag item) item)
        (Or.inr (Or.inr (Or.inr (Or.inr (Or.inl ⟨hname, rfl⟩)))))
      exact readable_of_itemMatches ((h _ hrule).2
        (constrainedConnection item port (fun _ => False) False (some name) none)
        ((ruleMatches_processName hname).mpr
          ⟨constraintsMatch_constrainedConnection hport, name, hmem', rfl⟩))
    · obtain ⟨path, hmem'⟩ := List.exists_mem_of_ne_nil _ hpath
      have hrule := hmem (processPathRule (baseRule tag item) item)
        (Or.inr (Or.inr (Or.inr (Or.inr (Or.inr (Or.inl ⟨hpath, rfl⟩))))))
      exact readable_of_itemMatches ((h _ hrule).2
        (constrainedConnection item port (fun _ => False) False none (some path))
        ((ruleMatches_processPath hpath).mpr
          ⟨constraintsMatch_constrainedConnection hport, path, hmem', rfl⟩))
  · obtain ⟨d, hmem'⟩ := List.exists_mem_of_ne_nil _ hi
    exact readable_of_itemMatches ((h _ (hmem _ (Or.inr (Or.inl ⟨hneg, hi, rfl⟩)))).2
      (constrainedConnection item port (fun _ => True) False none none)
      ((ruleMatches_pushAll_base hi).mpr
        ⟨constraintsMatch_constrainedConnection hport, d, hmem', trivial⟩))

theorem mixed_readable (h : SoundRules tag item) (hport : PortRead item port)
    (hneg : negativeIps (ipEntries item) ≠ []) (hn : keptNegative item ≠ [])
    {address : Destination} (hp : address ∈ keptPositive item)
    (hapart : address ∉ keptNegative item) :
    ConstraintsReadable item ∧
      ∀ entry ∈ negativeIps (ipEntries item), addressDestination entry ≠ none := by
  have hrule := (mem_userRouteRules tag item (mixedIpRule (baseRule tag item) item)).mpr
    (Or.inr (Or.inr (Or.inr (Or.inl ⟨hneg, List.ne_nil_of_mem hp, hn, rfl⟩))))
  -- the connection goes to the one address and is on every external address list
  have hitem := (h _ hrule).2
    (constrainedConnection item port (fun d => d = address) True none none)
    ((ruleMatches_mixed (List.ne_nil_of_mem hp) hn).mpr
      ⟨⟨constraintsMatch_constrainedConnection hport, address, hp, rfl⟩, by
        rintro ⟨d, hd, rfl⟩
        exact hapart hd⟩)
  refine ⟨readable_of_itemMatches hitem, ?_⟩
  intro entry hentry hskipped
  obtain ⟨ip, hip, text, htext, rfl⟩ := mem_negativeIps.mp hentry
  have haddress : address.isAddress = true := by
    obtain ⟨entry, _, hsome⟩ := List.mem_filterMap.mp hp
    exact addressDestination_isAddress hsome
  rcases hitem.target with ⟨_, hips, _⟩ | ⟨_, _, hholds⟩ | ⟨_, _, hholds⟩ | ⟨_, hnegated⟩
  · rw [hips] at hip
    cases hip
  · exact not_domainEntryHolds haddress hholds
  · exact not_processEntryHolds hholds
  · apply hnegated ip hip text htext
    rw [addressEntryHolds, hskipped]
    trivial

theorem bare_readable (h : SoundRules tag item) (hport : PortRead item port)
    (htarget : ¬HasTarget item) (hc : HasConstraint item) :
    ConstraintsReadable item ∧ domainEntries item = [] ∧ ipEntries item = [] := by
  have hrule := (mem_userRouteRules tag item (baseRule tag item)).mpr
    (Or.inr (Or.inr (Or.inr (Or.inr (Or.inr (Or.inr
      ⟨htarget, (hasConstraint_base tag item).mpr hc, rfl⟩))))))
  have hitem := (h _ hrule).2
    (constrainedConnection item port (fun _ => False) False none none)
    (ruleMatches_base.mpr (constraintsMatch_constrainedConnection hport))
  refine ⟨readable_of_itemMatches hitem, ?_⟩
  simp only [HasTarget, not_or, not_not] at htarget
  obtain ⟨_, _, _, hprocesses⟩ := htarget
  rcases hitem.target with ⟨hd, hi, _⟩ | ⟨entry, _, hholds⟩ | ⟨process, hmem, _⟩ |
    ⟨⟨entry, _, _, hholds⟩, _⟩
  · exact ⟨hd, hi⟩
  · rw [domainEntryHolds] at hholds
    split at hholds
    · exact absurd hholds.1 not_false
    · split at hholds
      · exact absurd hholds not_false
      · exact absurd hholds.2 not_false
  · rw [hprocesses] at hmem
    cases hmem
  · rw [addressEntryHolds] at hholds
    split at hholds <;> exact absurd hholds not_false

theorem dotless_listed (h : SoundRules tag item) (hport : PortRead item port) {entry value : String}
    (hentry : entry ∈ domainEntries item) (hstrip : stripPrefix entry "dotless:" = some value) :
    ∃ other ∈ domainEntries item, stripPrefix other "dotless:" = none ∧
      domainDestination other = some (.domainKeyword value) := by
  have hkept : Destination.domainKeyword value ∈ keptDomains item :=
    List.mem_filterMap.mpr ⟨entry, hentry, domainDestination_dotless hstrip⟩
  have hd : keptDomains item ≠ [] := List.ne_nil_of_mem hkept
  have hrule := (mem_userRouteRules tag item _).mpr (Or.inl ⟨hd, rfl⟩)
  have hitem := (h _ hrule).2
    (constrainedConnection item port (fun d => d = .domainKeyword value) False none none)
    ((ruleMatches_pushAll_base hd).mpr
      ⟨constraintsMatch_constrainedConnection hport, _, hkept, rfl⟩)
  rcases hitem.target with ⟨hdomains, _, _⟩ | ⟨other, hother, hholds⟩ | ⟨_, _, hholds⟩ |
    ⟨⟨address, _, _, hholds⟩, _⟩
  · rw [hdomains] at hentry
    cases hentry
  · refine ⟨other, hother, ?_⟩
    rw [domainEntryHolds] at hholds
    split at hholds
    · exact absurd hholds.2 not_false
    · rename_i hplain
      split at hholds
      · rename_i d hsome
        rw [show d = .domainKeyword value from hholds] at hsome
        exact ⟨hplain, hsome⟩
      · exact absurd hholds.2 not_false
  · exact absurd hholds not_processEntryHolds
  · rw [addressEntryHolds] at hholds
    split at hholds
    · rename_i d hsome
      have haddress := addressDestination_isAddress hsome
      rw [show d = .domainKeyword value from hholds] at haddress
      cases haddress
    · exact absurd hholds not_false

end Necessity

theorem soundRules_iff (tag : String) (item : RulesItem) :
    SoundRules tag item ↔ SoundWhen item := by
  constructor
  · intro h
    have hnegated : negativeIps (ipEntries item) ≠ [] → keptPositive item ≠ [] →
        keptNegative item ≠ [] := by
      intro hneg hp hn
      have hrule := (mem_userRouteRules tag item (positiveIpRule (baseRule tag item) item)).mpr
        (Or.inr (Or.inr (Or.inl ⟨hneg, hp, hn, rfl⟩)))
      exact not_carries_positive (h _ hrule).1
    refine ⟨hnegated, ?_⟩
    rintro ⟨port, hport⟩
    refine ⟨targets_readable h hport, ?_, bare_readable h hport, ?_⟩
    · rintro hneg ⟨d, hd, hapart⟩
      exact mixed_readable h hport hneg (hnegated hneg (List.ne_nil_of_mem hd)) hd hapart
    · intro entry hentry value hstrip
      exact dotless_listed h hport hentry hstrip
  · exact soundRules_of_soundWhen

/-- The user rule gives at least one route rule, whatever its outbound becomes. -/
def GivesRules (item : RulesItem) : Prop :=
  keptDomains item ≠ [] ∨ (negativeIps (ipEntries item) = [] ∧ keptIps item ≠ []) ∨
    (negativeIps (ipEntries item) ≠ [] ∧ keptPositive item ≠ []) ∨ processEntries item ≠ [] ∨
    (¬HasTarget item ∧ HasConstraint item)

theorem givesRules_iff (tag : String) (item : RulesItem) :
    GivesRules item ↔ userRouteRules tag item ≠ [] := by
  constructor
  · intro h
    have hmem := fun rule => (mem_userRouteRules tag item rule).mpr
    rcases h with hd | ⟨hneg, hi⟩ | ⟨hneg, hp⟩ | hprocess | ⟨htarget, hc⟩
    · exact List.ne_nil_of_mem (hmem _ (Or.inl ⟨hd, rfl⟩))
    · exact List.ne_nil_of_mem (hmem _ (Or.inr (Or.inl ⟨hneg, hi, rfl⟩)))
    · by_cases hn : keptNegative item = []
      · exact List.ne_nil_of_mem (hmem _ (Or.inr (Or.inr (Or.inl ⟨hneg, hp, hn, rfl⟩))))
      · exact List.ne_nil_of_mem (hmem _ (Or.inr (Or.inr (Or.inr (Or.inl ⟨hneg, hp, hn, rfl⟩)))))
    · rw [ne_eq, processEntries_eq_nil_iff, not_and_or] at hprocess
      rcases hprocess with hname | hpath
      · exact List.ne_nil_of_mem
          (hmem _ (Or.inr (Or.inr (Or.inr (Or.inr (Or.inl ⟨hname, rfl⟩))))))
      · exact List.ne_nil_of_mem
          (hmem _ (Or.inr (Or.inr (Or.inr (Or.inr (Or.inr (Or.inl ⟨hpath, rfl⟩)))))))
    · exact List.ne_nil_of_mem (hmem _ (Or.inr (Or.inr (Or.inr (Or.inr (Or.inr (Or.inr
        ⟨htarget, (hasConstraint_base tag item).mpr hc, rfl⟩)))))))
  · intro h
    obtain ⟨rule, hrule⟩ := List.exists_mem_of_ne_nil _ h
    rcases (mem_userRouteRules tag item rule).mp hrule with ⟨hd, _⟩ | ⟨hneg, hi, _⟩ |
      ⟨hneg, hp, _, _⟩ | ⟨hneg, hp, _, _⟩ | ⟨hname, _⟩ | ⟨hpath, _⟩ | ⟨htarget, hc, _⟩
    · exact Or.inl hd
    · exact Or.inr (Or.inl ⟨hneg, hi⟩)
    · exact Or.inr (Or.inr (Or.inl ⟨hneg, hp⟩))
    · exact Or.inr (Or.inr (Or.inl ⟨hneg, hp⟩))
    · exact Or.inr (Or.inr (Or.inr (Or.inl (processEntries_ne_nil_of_name hname))))
    · exact Or.inr (Or.inr (Or.inr (Or.inl (processEntries_ne_nil_of_path hpath))))
    · exact Or.inr (Or.inr (Or.inr (Or.inr ⟨htarget, (hasConstraint_base tag item).mp hc⟩)))

section Outbounds

/-- The outbound a user rule names: a built-in one, or that of the profile with its remark. -/
def itemOutbound (context : CoreConfigContext) (item : RulesItem) : Option String :=
  let outboundTag := item.outboundTag.getD proxyTag
  if outboundTag ∈ [proxyTag, directTag, blockTag] then some outboundTag
  else (context.allProxiesMap[remarkKey outboundTag]?).map profileTag

/-- The outbound is built in, or the profile with the remark has servers in the config or gives
some. -/
def OutboundServed (context : CoreConfigContext) (config : SingboxConfig) (item : RulesItem) :
    Prop :=
  let outboundTag := item.outboundTag.getD proxyTag
  outboundTag ∈ [proxyTag, directTag, blockTag] ∨
    ∃ node, context.allProxiesMap[remarkKey outboundTag]? = some node ∧
      (node.configType.isGroupType || singboxSupportsConfigType node.configType) = true ∧
      (hasServerFor config (profileTag node) = true ∨ BuildsServer context node)

variable {crates : Crates} {fuel : ℕ} {context : CoreConfigContext}
variable {config config' : SingboxConfig}

theorem itemOutbound_of_profile
    (hfree : item.outboundTag.getD proxyTag ∉ [proxyTag, directTag, blockTag]) {node : ProfileItem}
    (hnode : context.allProxiesMap[remarkKey (item.outboundTag.getD proxyTag)]? = some node) :
    itemOutbound context item = some (profileTag node) := by
  simp only [itemOutbound, if_neg hfree, hnode, Option.map_some]

/-- The generator finds the outbound the user rule names where it is served, and the proxy
elsewhere. -/
theorem outboundStep_tag
    (h : OutboundStep crates fuel context config (item.outboundTag.getD proxyTag) config' tag) :
    (OutboundServed context config item ∧ itemOutbound context item = some tag) ∨
      (¬OutboundServed context config item ∧ tag = proxyTag ∧
        itemOutbound context item ≠ some proxyTag) := by
  have unnamed : ∀ {node : ProfileItem},
      item.outboundTag.getD proxyTag ∉ [proxyTag, directTag, blockTag] →
      context.allProxiesMap[remarkKey (item.outboundTag.getD proxyTag)]? = some node →
      itemOutbound context item ≠ some proxyTag := by
    intro node hfree hnode hproxy
    rw [itemOutbound_of_profile hfree hnode] at hproxy
    exact profileTag_not_builtin node (by rw [Option.some.inj hproxy]; exact List.mem_cons_self)
  have unserved : ∀ {node : ProfileItem},
      item.outboundTag.getD proxyTag ∉ [proxyTag, directTag, blockTag] →
      context.allProxiesMap[remarkKey (item.outboundTag.getD proxyTag)]? = some node →
      ((node.configType.isGroupType || singboxSupportsConfigType node.configType) = true →
        hasServerFor config (profileTag node) = false ∧ ¬BuildsServer context node) →
      ¬OutboundServed context config item := by
    rintro node hfree hnode hnone (hreserved | ⟨other, hother, hsupported, hserved⟩)
    · exact hfree hreserved
    · rw [hnode] at hother
      cases hother
      obtain ⟨hhas, hbuilds⟩ := hnone hsupported
      rw [hhas] at hserved
      rcases hserved with hserved | hserved
      · cases hserved
      · exact hbuilds hserved
  cases h with
  | reserved hreserved =>
    exact Or.inl ⟨Or.inl hreserved, by simp only [itemOutbound, if_pos hreserved]⟩
  | missing hfree hmissing =>
    have hnone : itemOutbound context item = none := by
      simp only [itemOutbound, if_neg hfree, hmissing, Option.map_none]
    refine Or.inr ⟨?_, rfl, by simp [hnone]⟩
    rintro (hreserved | ⟨node, hnode, _⟩)
    · exact hfree hreserved
    · rw [hmissing] at hnode
      cases hnode
  | unsupported node hfree hnode hgroup hsupported =>
    refine Or.inr ⟨unserved hfree hnode ?_, rfl, unnamed hfree hnode⟩
    rw [hgroup, hsupported]
    exact fun h => Bool.noConfusion h
  | existing node hfree hnode hsupported hhas =>
    exact Or.inl ⟨Or.inr ⟨node, hnode, hsupported, Or.inl hhas⟩,
      itemOutbound_of_profile hfree hnode⟩
  | hollow node hfree hnode hsupported hhas hrun =>
    refine Or.inr ⟨unserved hfree hnode fun _ => ⟨hhas, ?_⟩, rfl, unnamed hfree hnode⟩
    exact fun hbuilds => (buildAllProxyServers_ne_nil hsupported hrun).mpr hbuilds rfl
  | built node servers hfree hnode hsupported hhas hrun hne =>
    exact Or.inl ⟨Or.inr ⟨node, hnode, hsupported,
      Or.inr ((buildAllProxyServers_ne_nil hsupported hrun).mp hne)⟩,
      itemOutbound_of_profile hfree hnode⟩

/-- The rule carries the outbound the user rule names. -/
def CarriesItemOutbound (context : CoreConfigContext) (item : RulesItem) (rule : SingboxRule) :
    Prop :=
  ∃ tag, itemOutbound context item = some tag ∧ CarriesOutbound tag rule

theorem carriesItemOutbound_iff (htag : itemOutbound context item = some tag)
    (rule : SingboxRule) : CarriesItemOutbound context item rule ↔ CarriesOutbound tag rule := by
  rw [CarriesItemOutbound, htag]
  simp

end Outbounds

/-- Each rule that is pushed carries the outbound the user rule names and matches only connections
the user rule asks for, exactly under the condition and where that outbound is served. -/
theorem genRoutingUserRule_sound_iff (crates : Crates) (fuel : ℕ) (context : CoreConfigContext)
    (config config' : SingboxConfig) (item : RulesItem)
    (h : genRoutingUserRule crates fuel context config item = some config') :
    ∃ pushed, config'.route.rules = config.route.rules ++ pushed ∧
      ((∀ rule ∈ pushed, CarriesItemOutbound context item rule ∧ MatchesOnly item rule) ↔
        SoundWhen item ∧ (GivesRules item → OutboundServed context config item)) := by
  obtain ⟨config₁, tag, hstep, rfl⟩ := genRoutingUserRule_step h
  have hroute : config₁.route = config.route := by cases hstep <;> rfl
  refine ⟨userRouteRules tag item, by rw [← hroute]; rfl, ?_⟩
  rcases outboundStep_tag hstep with ⟨hserved, htag⟩ | ⟨hunserved, rfl, hother⟩
  · simp only [carriesItemOutbound_iff htag]
    exact (soundRules_iff tag item).trans (and_iff_left fun _ => hserved).symm
  · constructor
    · intro hsound
      -- a pushed rule would carry the proxy, which the user rule does not name
      have hnone : userRouteRules proxyTag item = [] := by
        rw [List.eq_nil_iff_forall_not_mem]
        intro rule hrule
        obtain ⟨tag, htag, hcarries⟩ := (hsound rule hrule).1
        rw [carriesOutbound_pushed hrule hcarries] at htag
        exact hother htag
      refine ⟨(soundRules_iff proxyTag item).mp ?_, fun hgives => ?_⟩
      · intro rule hrule
        rw [hnone] at hrule
        cases hrule
      · exact absurd hnone ((givesRules_iff proxyTag item).mp hgives)
    · rintro ⟨_, hserved⟩ rule hrule
      have hgives := (givesRules_iff proxyTag item).mpr (List.ne_nil_of_mem hrule)
      exact absurd (hserved hgives) hunserved

/-- A rule for one site on an unreadable port: the port disappears from the route rule. -/
def unreadablePort : RulesItem :=
  { outboundTag := some "direct", port := some "https", domain := some ["full:example.com"] }

/-- A rule whose only domain entry is an external list: the rest matches every site. -/
def externalOnly : RulesItem :=
  { outboundTag := some "direct", network := some "tcp", domain := some ["ext:geo.dat:cn"] }

/-- A rule for a profile that does not exist: the sites go to the proxy. -/
def unknownProfile : RulesItem :=
  { outboundTag := some "nowhere", domain := some ["full:example.com"] }

def emptyContext : CoreConfigContext := initialContext (exampleStore [] []).env {} {}

theorem genRoutingUserRule_sound_iff_external :
    ∃ config' pushed,
      genRoutingUserRule exampleCrates 0 emptyContext .sample externalOnly = some config' ∧
      config'.route.rules = [] ++ pushed ∧
      ((∀ rule ∈ pushed, CarriesItemOutbound emptyContext externalOnly rule ∧
          MatchesOnly externalOnly rule) ↔
        SoundWhen externalOnly ∧
          (GivesRules externalOnly → OutboundServed emptyContext .sample externalOnly)) :=
  ⟨_, _, rfl, (genRoutingUserRule_sound_iff exampleCrates 0 emptyContext .sample _ externalOnly
    rfl).choose_spec⟩

theorem soundRules_counterexample :
    (¬SoundRules "direct" unreadablePort ∧ ¬SoundRules "direct" externalOnly) ∧
      ∃ config', genRoutingUserRule exampleCrates 0 emptyContext .sample unknownProfile =
          some config' ∧
        ∃ rule ∈ config'.route.rules, ¬CarriesItemOutbound emptyContext unknownProfile rule := by
  refine ⟨⟨?_, ?_⟩, _, rfl, _, List.mem_cons_self, ?_⟩
  · intro h
    have hread : ∃ port, PortRead unreadablePort port := ⟨80, Or.inl (by decide)⟩
    have hkept : keptDomains unreadablePort ≠ [] := by decide
    obtain ⟨entry, hentry, hread⟩ :=
      ((((soundRules_iff _ _).mp h).constraints hread).targets (Or.inl hkept)).port "https"
        (by decide)
    have hentries : portItems "https" = ["https"] := by decide
    rw [hentries, List.mem_singleton] at hentry
    subst hentry
    revert hread
    decide
  · intro h
    have hread : ∃ port, PortRead externalOnly port := ⟨80, Or.inl (by decide)⟩
    have htarget : ¬HasTarget externalOnly := by decide
    have hconstraint : HasConstraint externalOnly := Or.inr (Or.inr (Or.inl (by decide)))
    have hnil := ((((soundRules_iff _ _).mp h).constraints hread).bare htarget hconstraint).2.1
    revert hnil
    decide
  · rintro ⟨tag, htag, _⟩
    have hnone : itemOutbound emptyContext unknownProfile = none := rfl
    rw [hnone] at htag
    cases htag

end UserRuleSoundness
