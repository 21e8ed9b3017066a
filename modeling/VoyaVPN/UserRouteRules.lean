import VoyaVPN.RuleMatching

/-! Which route rules one user rule turns into: one for its domains, one for its addresses,
up to two for its processes, or the rule of its other constraints alone. -/
namespace UserRouteRules

open Entities RustText ProtocolCommon SingboxSchema SingboxSupport SingboxRouting RuleMatching

def keptDomains (item : RulesItem) : List Destination :=
  (domainEntries item).filterMap domainDestination

def keptIps (item : RulesItem) : List Destination :=
  (ipEntries item).filterMap addressDestination

def keptPositive (item : RulesItem) : List Destination :=
  (positiveIps (ipEntries item)).filterMap addressDestination

def keptNegative (item : RulesItem) : List Destination :=
  (negativeIps (ipEntries item)).filterMap addressDestination

def processNames (item : RulesItem) : List String :=
  (processEntries item).filterMap processNameEntry

def processPaths (item : RulesItem) : List String :=
  (processEntries item).filterMap processPathEntry

def readPorts (item : RulesItem) : List Int :=
  ((nonemptyStr item.port).map fun text => (portItems text).filterMap portItem).getD []

def readPortRanges (item : RulesItem) : List String :=
  ((nonemptyStr item.port).map fun text => (portItems text).filterMap portRangeItem).getD []

def readNetworks (item : RulesItem) : List String :=
  ((nonemptyStr item.network).map splitCsv).getD []

/-- The rule carries the constraints of the user rule and nothing else but what the other
fields say. -/
structure Constrained (item : RulesItem) (fields : SingboxRuleFields) : Prop where
  port : fields.port.getD [] = readPorts item
  portRange : fields.portRange.getD [] = readPortRanges item
  network : fields.network.getD [] = readNetworks item
  protocol : fields.protocol.getD [] = item.protocol.getD []
  inbound : fields.inbound.getD [] = item.inboundTag.getD []

theorem getD_nonemptyItems (items : Option (List String)) :
    (nonemptyItems items).getD [] = items.getD [] := by
  rcases items with _ | items
  · rfl
  · cases items <;> rfl

theorem getD_guarded {α : Type} (xs : List α) :
    (if xs.isEmpty = true then none else some xs).getD [] = xs := by
  cases xs <;> rfl

theorem constrained_base (tag : String) (item : RulesItem) :
    Constrained item (baseRule tag item).toSingboxRuleFields := by
  unfold baseRule fillRuleCommon
  constructor
  · rw [readPorts]
    cases nonemptyStr item.network <;> cases nonemptyStr item.port <;> split <;>
      simp only [Option.map_none, Option.map_some, Option.getD_none, Option.getD_some,
        getD_guarded]
  · rw [readPortRanges]
    cases nonemptyStr item.network <;> cases nonemptyStr item.port <;> split <;>
      simp only [Option.map_none, Option.map_some, Option.getD_none, Option.getD_some,
        getD_guarded]
  · rw [readNetworks]
    cases nonemptyStr item.network <;> cases nonemptyStr item.port <;> split <;> rfl
  · exact getD_nonemptyItems _
  · exact getD_nonemptyItems _

/-- The user rule constrains something other than destination and process. -/
def HasConstraint (item : RulesItem) : Prop :=
  readPorts item ≠ [] ∨ readPortRanges item ≠ [] ∨ nonemptyStr item.network ≠ none ∨
    item.protocol.getD [] ≠ [] ∨ item.inboundTag.getD [] ≠ []

theorem isSome_nonemptyItems (items : Option (List String)) :
    (nonemptyItems items).isSome = true ↔ items.getD [] ≠ [] := by
  rcases items with _ | items
  · simp [nonemptyItems]
  · cases items <;> simp [nonemptyItems]

theorem hasConstraint_base (tag : String) (item : RulesItem) :
    hasConstraint (baseRule tag item) = true ↔ HasConstraint item := by
  unfold hasConstraint HasConstraint readPorts readPortRanges baseRule fillRuleCommon
  cases nonemptyStr item.network <;> cases nonemptyStr item.port <;> split <;>
    simp [isSome_nonemptyItems, or_assoc, or_comm, or_left_comm]

theorem baseRule_shape (tag : String) (item : RulesItem) :
    ∃ port portRange network, baseRule tag item =
      { (if tag = blockTag then { action := some "reject" } else { outbound := some tag } :
          SingboxRule) with
        port := port
        portRange := portRange
        network := network
        protocol := nonemptyItems item.protocol
        inbound := nonemptyItems item.inboundTag } := by
  unfold baseRule fillRuleCommon
  by_cases hblock : tag = blockTag
  · simp only [if_pos hblock]
    cases nonemptyStr item.network <;> cases nonemptyStr item.port <;> exact ⟨_, _, _, rfl⟩
  · simp only [if_neg hblock]
    cases nonemptyStr item.network <;> cases nonemptyStr item.port <;> exact ⟨_, _, _, rfl⟩

theorem baseRule_rules (tag : String) (item : RulesItem) : (baseRule tag item).rules = none := by
  obtain ⟨_, _, _, h⟩ := baseRule_shape tag item
  rw [h]
  by_cases hblock : tag = blockTag <;> simp only [hblock, ↓reduceIte]

theorem baseRule_invert (tag : String) (item : RulesItem) :
    (baseRule tag item).invert = none := by
  obtain ⟨_, _, _, h⟩ := baseRule_shape tag item
  rw [h]
  by_cases hblock : tag = blockTag <;> simp only [hblock, ↓reduceIte]

theorem baseRule_processes (tag : String) (item : RulesItem) :
    (baseRule tag item).processName = none ∧ (baseRule tag item).processPath = none := by
  obtain ⟨_, _, _, h⟩ := baseRule_shape tag item
  rw [h]
  by_cases hblock : tag = blockTag <;> simp only [hblock, ↓reduceIte, and_self]

theorem baseRule_destinations (tag : String) (item : RulesItem) :
    destinations (baseRule tag item).toSingboxRuleFields = [] := by
  obtain ⟨_, _, _, h⟩ := baseRule_shape tag item
  rw [h]
  by_cases hblock : tag = blockTag <;> simp only [hblock, ↓reduceIte] <;> rfl

/-- The rule sends connections where the user rule sends them, or rejects them. -/
def CarriesOutbound (tag : String) (rule : SingboxRule) : Prop :=
  if tag = blockTag then rule.outbound = none ∧ rule.action = some "reject"
  else rule.outbound = some tag

theorem baseRule_carries (tag : String) (item : RulesItem) :
    CarriesOutbound tag (baseRule tag item) := by
  obtain ⟨_, _, _, h⟩ := baseRule_shape tag item
  rw [h, CarriesOutbound]
  by_cases hblock : tag = blockTag
  · simp only [if_pos hblock, and_self]
  · simp only [if_neg hblock]

section Pushed

variable (ds : List Destination) (rule : SingboxRule)

theorem pushAll_read {β : Type*} (read : SingboxRule → β)
    (h : ∀ r, read (clearDestinations r) = read r) : read (pushAll ds rule) = read rule := by
  rw [← h, clearDestinations_pushAll, h]

theorem pushAll_carries {tag : String} (h : CarriesOutbound tag rule) :
    CarriesOutbound tag (pushAll ds rule) := by
  have houtbound := pushAll_read ds rule (fun r => r.outbound) fun _ => rfl
  have haction := pushAll_read ds rule (fun r => r.action) fun _ => rfl
  rw [CarriesOutbound, houtbound, haction]
  exact h

theorem pushAll_constrained {item : RulesItem}
    (h : Constrained item rule.toSingboxRuleFields) :
    Constrained item (pushAll ds rule).toSingboxRuleFields := by
  constructor
  · rw [← h.port]
    exact pushAll_read ds rule (fun r => r.port.getD []) fun _ => rfl
  · rw [← h.portRange]
    exact pushAll_read ds rule (fun r => r.portRange.getD []) fun _ => rfl
  · rw [← h.network]
    exact pushAll_read ds rule (fun r => r.network.getD []) fun _ => rfl
  · rw [← h.protocol]
    exact pushAll_read ds rule (fun r => r.protocol.getD []) fun _ => rfl
  · rw [← h.inbound]
    exact pushAll_read ds rule (fun r => r.inbound.getD []) fun _ => rfl

end Pushed

theorem domainRules_eq (rule : SingboxRule) (item : RulesItem) :
    domainRules rule item =
      if keptDomains item = [] then [] else [pushAll (keptDomains item) rule] := by
  unfold domainRules keptDomains domainEntries
  cases item.domain with
  | none => rfl
  | some domains =>
    simp only [parseEach_eq parseV2Domain_eq, Option.getD_some]
    cases domains.filterMap domainDestination <;> simp

theorem addressDestination_isAddress {entry : String} {d : Destination}
    (h : addressDestination entry = some d) : d.isAddress = true := by
  unfold addressDestination at h
  split at h
  · cases h
  split at h
  · cases h
    rfl
  split at h
  · cases h
    rfl
  · cases h
    rfl

theorem domainDestination_not_address {entry : String} {d : Destination}
    (h : domainDestination entry = some d) : d.isAddress = false := by
  unfold domainDestination at h
  split at h
  · cases h
  repeat' split at h
  all_goals
    cases h
    rfl

theorem hasItems_of_mem {items : Option (List String)} {value : String}
    (h : value ∈ items.getD []) : hasItems items = true := by
  cases items with
  | none => cases h
  | some items => simpa [hasItems] using List.ne_nil_of_mem h

theorem hasItems_of_listed {fields : SingboxRule} {d : Destination}
    (h : d.Listed fields.toSingboxRuleFields) (hd : d.isAddress = true) :
    routeIpRuleHasMatcher fields = true := by
  unfold routeIpRuleHasMatcher
  cases d with
  | geoip value => simp [hasItems_of_mem h]
  | ipCidr value => simp [hasItems_of_mem h]
  | ipIsPrivate =>
    rw [Destination.Listed] at h
    simp [h]
  | _ => cases hd

theorem routeIpRuleHasMatcher_negative {item : RulesItem} (h : keptNegative item ≠ []) :
    routeIpRuleHasMatcher (pushAll (keptNegative item) {}) = true := by
  obtain ⟨d, hd⟩ := List.exists_mem_of_ne_nil _ h
  obtain ⟨entry, _, hentry⟩ := List.mem_filterMap.mp hd
  have hlisted := (mem_destinations_pushAll d (keptNegative item) {}).mpr (Or.inl hd)
  exact hasItems_of_listed ((mem_destinations _ _).mp hlisted) (addressDestination_isAddress hentry)

/-- The rule of address entries without negated ones. -/
def plainIpRule (rule : SingboxRule) (item : RulesItem) : SingboxRule :=
  pushAll (keptIps item) rule

/-- The positive part of the rule of mixed address entries, which has no outbound itself. -/
def positiveIpRule (rule : SingboxRule) (item : RulesItem) : SingboxRule :=
  pushAll (keptPositive item) { rule with outbound := none, action := none }

def negativeIpRule (item : RulesItem) : SingboxRule :=
  { pushAll (keptNegative item) {} with invert := some true }

def mixedIpRule (rule : SingboxRule) (item : RulesItem) : SingboxRule :=
  { outbound := rule.outbound
    action := rule.action
    type := some "logical"
    mode := some "and"
    rules := some [positiveIpRule rule item, negativeIpRule item] }

theorem ipRules_eq (rule : SingboxRule) (item : RulesItem) :
    ipRules rule item =
      if negativeIps (ipEntries item) = [] then
        (if keptIps item = [] then ([], false) else ([plainIpRule rule item], true))
      else if keptPositive item = [] then ([], true)
      else if keptNegative item = [] then ([positiveIpRule rule item], true)
      else ([mixedIpRule rule item], true) := by
  cases hip : item.ip with
  | none =>
    have hentries : ipEntries item = [] := by rw [ipEntries, hip]; rfl
    rw [ipRules, hip, if_pos (by rw [hentries]; rfl), if_pos (by rw [keptIps, hentries]; rfl)]
  | some ips =>
    have hentries : ipEntries item = ips := by rw [ipEntries, hip]; rfl
    rw [ipRules, hip]
    simp only [parseEach_eq parseV2Address_eq, List.isEmpty_iff]
    by_cases hnegative : negativeIps ips = []
    · have hnegative' : negativeIps (ipEntries item) = [] := by rw [hentries, hnegative]
      rw [if_pos hnegative, if_pos hnegative', plainIpRule, keptIps, hentries]
      cases ips.filterMap addressDestination <;> simp
    · have hnegative' : negativeIps (ipEntries item) ≠ [] := by rwa [hentries]
      rw [if_neg hnegative, if_neg hnegative']
      have hpositive : (positiveIps ips).filterMap addressDestination = keptPositive item := by
        rw [keptPositive, hentries]
      have hkept : (negativeIps ips).filterMap addressDestination = keptNegative item := by
        rw [keptNegative, hentries]
      rw [hpositive, hkept]
      by_cases hp : keptPositive item = []
      · rw [if_pos hp, if_neg (by simp [hp]), if_neg (by simp [hp])]
      · have hplen : 0 < (keptPositive item).length := List.length_pos_iff.mpr hp
        rw [if_neg hp]
        by_cases hn : keptNegative item = []
        · rw [if_pos hn, if_neg (by simp [hn]), if_pos hplen]
          rfl
        · rw [if_neg hn, if_pos ⟨hplen, List.length_pos_iff.mpr hn,
            routeIpRuleHasMatcher_negative hn⟩]
          rfl

theorem foldl_pushItem (values : List String) (items : Option (List String)) :
    (values.foldl pushItem items).getD [] = items.getD [] ++ values := by
  induction values generalizing items with
  | nil => simp
  | cons value rest ih => rw [List.foldl_cons, ih, pushItem]; simp

theorem foldl_pushProcess (processes : List String) (nameRule pathRule : SingboxRule) :
    processes.foldl pushProcess (nameRule, pathRule) =
      ({ nameRule with
          processName := (processes.filterMap processNameEntry).foldl pushItem
            nameRule.processName },
        { pathRule with
          processPath := (processes.filterMap processPathEntry).foldl pushItem
            pathRule.processPath }) := by
  induction processes generalizing nameRule pathRule with
  | nil =>
    obtain ⟨nameFields, nameRules⟩ := nameRule
    obtain ⟨pathFields, pathRules⟩ := pathRule
    rfl
  | cons process rest ih =>
    rw [List.foldl_cons, pushProcess]
    by_cases hself : process = "self/"
    · rw [if_pos hself, ih, List.filterMap_cons, List.filterMap_cons, processNameEntry,
        processPathEntry, if_pos hself, if_pos hself]
      rfl
    · rw [if_neg hself]
      by_cases hslash : containsChar process (fun c => c == '/' || c == '\\') = true
      · rw [if_pos hslash, ih, List.filterMap_cons, List.filterMap_cons, processNameEntry,
          processPathEntry, if_neg hself, if_neg hself, if_pos hslash, if_pos hslash]
        rfl
      · rw [if_neg hslash, ih, List.filterMap_cons, List.filterMap_cons, processNameEntry,
          processPathEntry, if_neg hself, if_neg hself, if_neg hslash, if_neg hslash]
        rfl

def processNameRule (rule : SingboxRule) (item : RulesItem) : SingboxRule :=
  { rule with processName := (processNames item).foldl pushItem none }

def processPathRule (rule : SingboxRule) (item : RulesItem) : SingboxRule :=
  { rule with processPath := (processPaths item).foldl pushItem none }

theorem hasItems_foldl (values : List String) :
    hasItems (values.foldl pushItem none) = true ↔ values ≠ [] := by
  have hget := foldl_pushItem values none
  rw [Option.getD_none, List.nil_append] at hget
  constructor
  · intro h hnil
    rw [hnil] at h
    cases h
  · intro h
    obtain ⟨value, hvalue⟩ := List.exists_mem_of_ne_nil _ h
    exact hasItems_of_mem (hget ▸ hvalue)

theorem processRules_eq {rule : SingboxRule} (hname : rule.processName = none)
    (hpath : rule.processPath = none) (item : RulesItem) :
    processRules rule item =
      (if processNames item = [] then [] else [processNameRule rule item]) ++
        if processPaths item = [] then [] else [processPathRule rule item] := by
  unfold processRules processNames processPaths processEntries
  cases hprocess : item.process with
  | none => rfl
  | some processes =>
    simp only [foldl_pushProcess, hname, hpath, hasItems_foldl, Option.getD_some]
    rw [processNameRule, processPathRule, processNames, processPaths, processEntries, hprocess]
    by_cases hn : processes.filterMap processNameEntry = [] <;>
      by_cases hp : processes.filterMap processPathEntry = [] <;>
        simp [hn, hp, hname, hpath]

theorem processEntry_cases (process : String) :
    (∃ name, processNameEntry process = some name) ∨
      ∃ path, processPathEntry process = some path := by
  unfold processNameEntry processPathEntry
  by_cases hself : process = "self/"
  · exact Or.inl ⟨_, if_pos hself⟩
  · by_cases hslash : containsChar process (fun c => c == '/' || c == '\\') = true
    · exact Or.inr ⟨process, by rw [if_neg hself, if_pos hslash]⟩
    · exact Or.inl ⟨exeName process, by rw [if_neg hself, if_neg hslash]⟩

theorem processEntries_eq_nil_iff (item : RulesItem) :
    processEntries item = [] ↔ processNames item = [] ∧ processPaths item = [] := by
  constructor
  · intro h
    rw [processNames, processPaths, h]
    exact ⟨rfl, rfl⟩
  · rintro ⟨hnames, hpaths⟩
    rw [List.eq_nil_iff_forall_not_mem]
    intro process hmem
    rcases processEntry_cases process with ⟨name, hname⟩ | ⟨path, hpath⟩
    · have hin : name ∈ processNames item := List.mem_filterMap.mpr ⟨process, hmem, hname⟩
      rw [hnames] at hin
      cases hin
    · have hin : path ∈ processPaths item := List.mem_filterMap.mpr ⟨process, hmem, hpath⟩
      rw [hpaths] at hin
      cases hin

/-- The user rule gives a rule for its destinations or processes, or its negated address
entries alone keep the rule of its other constraints away. -/
def HasTarget (item : RulesItem) : Prop :=
  keptDomains item ≠ [] ∨ negativeIps (ipEntries item) ≠ [] ∨ keptIps item ≠ [] ∨
    processEntries item ≠ []

instance (item : RulesItem) : Decidable (HasTarget item) :=
  inferInstanceAs (Decidable (_ ∨ _ ∨ _ ∨ _))

theorem mem_userRouteRules (tag : String) (item : RulesItem) (rule : SingboxRule) :
    rule ∈ userRouteRules tag item ↔
      (keptDomains item ≠ [] ∧ rule = pushAll (keptDomains item) (baseRule tag item)) ∨
      (negativeIps (ipEntries item) = [] ∧ keptIps item ≠ [] ∧
        rule = plainIpRule (baseRule tag item) item) ∨
      (negativeIps (ipEntries item) ≠ [] ∧ keptPositive item ≠ [] ∧ keptNegative item = [] ∧
        rule = positiveIpRule (baseRule tag item) item) ∨
      (negativeIps (ipEntries item) ≠ [] ∧ keptPositive item ≠ [] ∧ keptNegative item ≠ [] ∧
        rule = mixedIpRule (baseRule tag item) item) ∨
      (processNames item ≠ [] ∧ rule = processNameRule (baseRule tag item) item) ∨
      (processPaths item ≠ [] ∧ rule = processPathRule (baseRule tag item) item) ∨
      (¬HasTarget item ∧ hasConstraint (baseRule tag item) = true ∧
        rule = baseRule tag item) := by
  unfold userRouteRules HasTarget
  simp only [ne_eq, processEntries_eq_nil_iff, domainRules_eq, ipRules_eq,
    processRules_eq (baseRule_processes tag item).1
    (baseRule_processes tag item).2]
  by_cases hd : keptDomains item = [] <;>
    by_cases hnegative : negativeIps (ipEntries item) = [] <;>
    by_cases hi : keptIps item = [] <;>
    by_cases hp : keptPositive item = [] <;>
    by_cases hn : keptNegative item = [] <;>
    by_cases hnames : processNames item = [] <;>
    by_cases hpaths : processPaths item = [] <;>
    cases hc : hasConstraint (baseRule tag item) <;>
    simp [hd, hnegative, hi, hp, hn, hnames, hpaths]

end UserRouteRules
