import VoyaVPN.SingboxExperimental

/-! The fields of a rule and of the rules nested in it, and what the conversion of geo lists
does to all of them. -/
namespace NestedRules

open RustText SingboxSchema SingboxRouting SingboxExperimental

mutual

/-- The fields of the rule itself and of every rule nested in it. -/
def nestedFields : SingboxRule → List SingboxRuleFields
  | ⟨fields, none⟩ => [fields]
  | ⟨fields, some nested⟩ => fields :: listFields nested

def listFields : List SingboxRule → List SingboxRuleFields
  | [] => []
  | rule :: rest => nestedFields rule ++ listFields rest

end

theorem mem_listFields {rules : List SingboxRule} {fields : SingboxRuleFields} :
    fields ∈ listFields rules ↔ ∃ rule ∈ rules, fields ∈ nestedFields rule := by
  induction rules with
  | nil => simp [listFields]
  | cons rule rest ih => simp [listFields, ih]

theorem nestedFields_plain {rule : SingboxRule} (h : rule.rules = none) :
    nestedFields rule = [rule.toSingboxRuleFields] := by
  obtain ⟨fields, rules⟩ := rule
  simp only at h
  subst h
  rfl

def convertedTags (fields : List SingboxRuleFields) : List String :=
  fields.flatMap fun fields => (convertFields fields).ruleSet.getD []

mutual

/-- The conversion works on the fields of the rule and of all nested rules alike. -/
theorem nestedFields_convert : (rule : SingboxRule) →
    nestedFields (convertRuleGeoToRuleset rule).1 = (nestedFields rule).map convertFields ∧
      (convertRuleGeoToRuleset rule).2 = convertedTags (nestedFields rule)
  | ⟨fields, none⟩ => by
    simp [convertRuleGeoToRuleset, nestedFields, convertedTags]
  | ⟨fields, some nested⟩ => by
    have ih := listFields_convert nested
    simp [convertRuleGeoToRuleset, nestedFields, convertedTags, ih]

theorem listFields_convert : (rules : List SingboxRule) →
    listFields (convertRulesGeoToRuleset rules).1 = (listFields rules).map convertFields ∧
      (convertRulesGeoToRuleset rules).2 = convertedTags (listFields rules)
  | [] => by simp [convertRulesGeoToRuleset, listFields, convertedTags]
  | rule :: rest => by
    have ih := nestedFields_convert rule
    have ih' := listFields_convert rest
    simp [convertRulesGeoToRuleset, listFields, convertedTags, ih, ih']

end

def AllFields (P : SingboxRuleFields → Prop) (rules : List SingboxRule) : Prop :=
  ∀ fields ∈ listFields rules, P fields

section AllFields

variable {P : SingboxRuleFields → Prop}

theorem allFields_nil : AllFields P [] := by
  intro fields h
  cases h

theorem allFields_cons {rule : SingboxRule} {rest : List SingboxRule} (h : AllFields P [rule])
    (hrest : AllFields P rest) : AllFields P (rule :: rest) := by
  intro fields hf
  rw [listFields, List.mem_append] at hf
  rcases hf with hf | hf
  · exact h fields (by rwa [listFields, listFields, List.append_nil])
  · exact hrest fields hf

theorem allFields_cons_plain {rule : SingboxRule} {rest : List SingboxRule}
    (hrules : rule.rules = none) (h : P rule.toSingboxRuleFields) (hrest : AllFields P rest) :
    AllFields P (rule :: rest) := by
  intro fields hf
  rw [listFields, nestedFields_plain hrules, List.singleton_append, List.mem_cons] at hf
  rcases hf with rfl | hf
  · exact h
  · exact hrest fields hf

theorem allFields_append {first second : List SingboxRule} (h : AllFields P first)
    (h' : AllFields P second) : AllFields P (first ++ second) := by
  intro fields hf
  obtain ⟨rule, hrule, hf⟩ := mem_listFields.mp hf
  rcases List.mem_append.mp hrule with hrule | hrule
  · exact h fields (mem_listFields.mpr ⟨rule, hrule, hf⟩)
  · exact h' fields (mem_listFields.mpr ⟨rule, hrule, hf⟩)

theorem allFields_ite {c : Prop} [Decidable c] {first second : List SingboxRule}
    (h : AllFields P first) (h' : AllFields P second) :
    AllFields P (if c then first else second) := by
  split
  · exact h
  · exact h'

theorem allFields_single {rule : SingboxRule} (hrules : rule.rules = none)
    (h : P rule.toSingboxRuleFields) : AllFields P [rule] :=
  allFields_cons_plain hrules h allFields_nil

theorem allFields_logical {fields : SingboxRuleFields} {nested : List SingboxRule} (h : P fields)
    (hnested : AllFields P nested) : AllFields P [⟨fields, some nested⟩] := by
  intro f hf
  simp only [listFields, nestedFields, List.append_nil, List.mem_cons] at hf
  rcases hf with rfl | hf
  · exact h
  · exact hnested f hf

theorem allFields_of_forall {rules : List SingboxRule}
    (h : ∀ rule ∈ rules, AllFields P [rule]) : AllFields P rules := by
  intro fields hf
  obtain ⟨rule, hrule, hf⟩ := mem_listFields.mp hf
  exact h rule hrule fields (mem_listFields.mpr ⟨rule, List.mem_singleton_self rule, hf⟩)

end AllFields

end NestedRules
