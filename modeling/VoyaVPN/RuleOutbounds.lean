import VoyaVPN.GeneratedServers
import VoyaVPN.RoutingSteps

/-! The outbound of a routing rule, as the builder resolves it and as the generator finds it.
The builder trims the tag and the generator does not, so that the two agree on trimmed tags, as long
as no profile is stored under the key of the tag; and a resolved profile that gives no server still
sends its rule to the default proxy. -/
namespace RuleOutbounds

open Entities AppConfig RustText ContextBuilder ProtocolCommon SingboxSchema SingboxSupport
open SingboxOutbounds SingboxRouting GroupTraversal GroupResolution GeneratorTermination
open GeneratedServers RoutingSteps FuelRun

/-- No profile the builder meets has the key for its id. -/
structure KeyFree (crates : Crates) (env : CoreGenEnv) (active : ProfileItem) (key : String) :
    Prop where
  active : active.indexId ≠ key
  children : ∀ protocol, ∀ c ∈ groupChildProfileItems crates env protocol, c.indexId ≠ key
  remarks : ∀ tag node, env.getProfileByRemarks tag = some node → node.indexId ≠ key

/-- The build resolved the outbound of the rule and warned of nothing while it did. -/
def ResolvedQuietly (crates : Crates) (env : CoreGenEnv) (fuel : ℕ) (config : Config)
    (active : ProfileItem) (item : RulesItem) (r : CoreConfigContextBuilderResult) : Prop :=
  ∃ context result routing before after r₁ r₂,
    resolveNode crates env fuel (initialContext env config active) active =
      some (context, active, result) ∧
    result.success = true ∧
    context.routingItem = some routing ∧
    resolvableRules routing = before ++ item :: after ∧
    before.foldlM (resolveRuleOutbound crates env fuel)
      ⟨{ context with node := active }, { warnings := result.warnings }⟩ = some r₁ ∧
    resolveRuleOutbound crates env fuel r₁ item = some r₂ ∧
    after.foldlM (resolveRuleOutbound crates env fuel) r₂ = some r ∧
    r₂.validatorResult.warnings = r₁.validatorResult.warnings

section Builder

variable {crates : Crates} {env : CoreGenEnv} {fuel : ℕ} {config : Config}
variable {active : ProfileItem} {item : RulesItem} {r r' : CoreConfigContextBuilderResult}

/-- A traversal of profiles with other ids leaves the key alone. -/
def keyRule (crates : Crates) (env : CoreGenEnv) (key : String)
    (hids : ∀ protocol, ∀ c ∈ groupChildProfileItems crates env protocol, c.indexId ≠ key) :
    TraversalRule crates env where
  Pre _ node _ := node.indexId ≠ key
  Loop _ node t₀ _ t _ := node.indexId ≠ key ∧
    t.context.allProxiesMap[key]? = t₀.context.allProxiesMap[key]?
  Post _ _ t₀ t _ := t.context.allProxiesMap[key]? = t₀.context.allProxiesMap[key]?
  enter hnode := ⟨hnode, rfl⟩
  pruned _ loop _ := loop
  visited _ loop _ _ := loop
  invalid _ loop _ _ _ _ := loop
  single hmem := fun ⟨hnode, loop⟩ _ _ hS hv => by
    refine ⟨hnode, ?_⟩
    rw [registered, registerSingle_proxies _ hS hv, getElem?_insert_ne (hids _ _ hmem).symm, loop]
  enterGroup hmem _ _ _ _ := hids _ _ hmem
  hollow _ := fun ⟨hnode, loop⟩ _ _ _ post => ⟨hnode, post.trans loop⟩
  group _ := fun ⟨hnode, loop⟩ _ _ _ post => ⟨hnode, post.trans loop⟩
  failed := fun ⟨_, loop⟩ _ => loop
  finished := fun ⟨hnode, loop⟩ _ => by
    rw [stored, getElem?_insert_ne hnode.symm, loop]

variable {key : String}

theorem resolveNode_key (hfree : KeyFree crates env active key)
    {context context' : CoreConfigContext} {node node' : ProfileItem}
    {result : NodeValidatorResult} (hnode : node.indexId ≠ key)
    (h : resolveNode crates env fuel context node = some (context', node', result)) :
    context'.allProxiesMap[key]? = context.allProxiesMap[key]? := by
  rcases resolveNode_cases h with ⟨_, _, rfl, _⟩ | ⟨_, _, hreg⟩
  · rfl
  rcases registerNode_cases hreg with ⟨_, t, rfl, ht⟩ | ⟨_, _, rfl, _⟩ | ⟨_, _, hmap, _⟩
  · exact (keyRule crates env key hfree.children).run fuel hnode ht
  · rfl
  · rw [hmap, getElem?_insert_ne hnode.symm]

theorem trim_of_nonempty {text tag : String} (h : nonempty text = some tag) : tag = trim text := by
  simp only [nonempty] at h
  split at h
  · cases h
  · exact (Option.some.inj h).symm

/-- What stands under the key is a profile under its remark, and remarks are stored trimmed. -/
def RemarkEntry (env : CoreGenEnv) (key : String) (m : ProxiesMap) : Prop :=
  ∀ node, m[key]? = some node →
    ∃ tag, key = remarkKey tag ∧ trim tag = tag ∧ env.getProfileByRemarks tag = some node

theorem resolveRuleOutbound_key (hfree : KeyFree crates env active key)
    (h : resolveRuleOutbound crates env fuel r item = some r') :
    r'.context.allProxiesMap[key]? = r.context.allProxiesMap[key]? ∨
      ∃ tag node, key = remarkKey tag ∧ trim tag = tag ∧
        env.getProfileByRemarks tag = some node ∧
        r'.context.allProxiesMap[key]? = some node := by
  rcases resolveRuleOutbound_cases h with
    same | ⟨tag, node, context, result, htag, hnode, hres, next⟩
  · exact Or.inl (by rw [same])
  have hkept := resolveNode_key hfree (hfree.remarks tag node hnode) hres
  rcases next with ⟨_, same⟩ | ⟨_, same⟩
  · exact Or.inl (by rw [same, hkept])
  · by_cases hk : key = remarkKey tag
    · obtain ⟨text, _, htext⟩ := Option.bind_eq_some_iff.mp htag
      have htrim : trim tag = tag := by rw [trim_of_nonempty htext, trim_trim]
      exact Or.inr ⟨tag, node, hk, htrim, hnode, by rw [same, hk, getElem?_insert_self]⟩
    · exact Or.inl (by rw [same, getElem?_insert_ne hk, hkept])

theorem RemarkEntry.step (hfree : KeyFree crates env active key)
    (hm : RemarkEntry env key r.context.allProxiesMap)
    (h : resolveRuleOutbound crates env fuel r item = some r') :
    RemarkEntry env key r'.context.allProxiesMap := by
  intro node hentry
  rcases resolveRuleOutbound_key hfree h with same | ⟨tag, other, hk, htrim, hnode, hnew⟩
  · rw [same] at hentry
    exact hm node hentry
  · rw [hnew] at hentry
    cases hentry
    exact ⟨tag, hk, htrim, hnode⟩

theorem remarkKey_injective {tag tag' : String} (h : remarkKey tag = remarkKey tag') :
    tag = tag' := append_left_cancel h

theorem remarkEntry_kept {tag : String} (hfree : KeyFree crates env active (remarkKey tag))
    {node : ProfileItem} (hnode : env.getProfileByRemarks tag = some node)
    (hentry : r.context.allProxiesMap[remarkKey tag]? = some node)
    (h : resolveRuleOutbound crates env fuel r item = some r') :
    r'.context.allProxiesMap[remarkKey tag]? = some node := by
  rcases resolveRuleOutbound_key hfree h with same | ⟨tag', node', hk, _, hnode', hnew⟩
  · rw [same, hentry]
  · cases remarkKey_injective hk
    rw [hnode] at hnode'
    cases hnode'
    exact hnew

/-- A rule that is resolved without a warning leaves its profile under the trimmed remark. -/
theorem resolveRuleOutbound_quiet (h : resolveRuleOutbound crates env fuel r item = some r')
    (hquiet : r'.validatorResult.warnings = r.validatorResult.warnings) :
    ∃ text node, item.outboundTag = some text ∧ env.getProfileByRemarks (trim text) = some node ∧
      r'.context.allProxiesMap[remarkKey (trim text)]? = some node := by
  have longer : ∀ more : List String, more ≠ [] →
      r.validatorResult.warnings ++ more ≠ r.validatorResult.warnings := by
    intro more hmore hsame
    exact hmore (List.append_right_eq_self.mp hsame)
  unfold resolveRuleOutbound at h
  cases htag : item.outboundTag.bind nonempty with
  | none =>
    simp only [htag] at h
    cases h
    exact absurd hquiet (longer _ (by simp))
  | some tag =>
    obtain ⟨text, htext, hnonempty⟩ := Option.bind_eq_some_iff.mp htag
    rw [trim_of_nonempty hnonempty] at htag
    simp only [htag] at h
    cases hnode : env.getProfileByRemarks (trim text) with
    | none =>
      simp only [hnode] at h
      cases h
      exact absurd hquiet (longer _ (by simp))
    | some node =>
      simp only [hnode] at h
      obtain ⟨⟨context, node', result⟩, hres, next⟩ := Option.bind_eq_some_iff.mp h
      obtain rfl : node' = node := by
        rcases resolveNode_cases hres with ⟨_, same, _⟩ | ⟨_, same, _⟩ <;> exact same
      cases hs : result.success with
      | false =>
        simp only [hs, Bool.not_false, ↓reduceIte] at next
        cases next
        have herrors : result.errors ≠ [] := by
          rw [NodeValidatorResult.success] at hs
          simpa using hs
        rw [List.append_assoc] at hquiet
        exact absurd hquiet (longer _ (by simp [herrors]))
      | true =>
        simp only [hs, Bool.not_true, Bool.false_eq_true, ↓reduceIte] at next
        cases next
        exact ⟨text, node', htext, hnode, getElem?_insert_self _ _ _⟩

theorem ResolvedQuietly.rule (h : ResolvedQuietly crates env fuel config active item r) :
    ∃ text node, item.outboundTag = some text ∧ isBuiltinOutbound item.outboundTag = false ∧
      env.getProfileByRemarks (trim text) = some node := by
  obtain ⟨context, result, routing, before, after, r₁, r₂, _, _, _, hsplit, _, hstep, _, hquiet⟩ :=
    h
  obtain ⟨text, node, htext, hnode, _⟩ := resolveRuleOutbound_quiet hstep hquiet
  have hmem : item ∈ resolvableRules routing := by
    rw [hsplit]
    exact List.mem_append_right _ List.mem_cons_self
  have hkept := (List.mem_filter.mp hmem).2
  rw [Bool.and_eq_true] at hkept
  exact ⟨text, node, htext, by simpa using hkept.2, hnode⟩

/-- Where no profile has the key of the tag for its id, the map ends with the resolved profile there
if the tag is written as it is trimmed, and else with nothing. -/
theorem ResolvedQuietly.entry {text : String} {node : ProfileItem}
    (h : ResolvedQuietly crates env fuel config active item r)
    (htext : item.outboundTag = some text)
    (hnode : env.getProfileByRemarks (trim text) = some node)
    (hfree : KeyFree crates env active (remarkKey text)) :
    r.context.allProxiesMap[remarkKey text]? = if trim text = text then some node else none := by
  obtain ⟨context, result, routing, before, after, r₁, r₂, hres, _, _, hsplit, hbefore, hstep,
    hafter, hquiet⟩ := h
  by_cases htrim : trim text = text
  · rw [if_pos htrim]
    rw [htrim] at hnode
    obtain ⟨text', node', htext', hnode', hentry⟩ := resolveRuleOutbound_quiet hstep hquiet
    rw [htext] at htext'
    cases htext'
    rw [htrim] at hnode' hentry
    rw [hnode] at hnode'
    cases hnode'
    exact @foldlM_invariant _ _ _ _ (fun r : CoreConfigContextBuilderResult =>
        r.context.allProxiesMap[remarkKey text]? = some node)
      (fun _ _ _ _ hb hc => remarkEntry_kept hfree hnode hb hc) _ _ hentry hafter
  · rw [if_neg htrim]
    have hstart : RemarkEntry env (remarkKey text) context.allProxiesMap := by
      intro other hother
      rw [resolveNode_key hfree hfree.active hres] at hother
      simp [initialContext] at hother
    have hmiddle : RemarkEntry env (remarkKey text) r₁.context.allProxiesMap :=
      foldlM_invariant (fun _ _ _ _ hb hc => RemarkEntry.step hfree hb hc) hstart hbefore
    have hfinal : RemarkEntry env (remarkKey text) r.context.allProxiesMap :=
      foldlM_invariant (fun _ _ _ _ hb hc => RemarkEntry.step hfree hb hc)
        (hmiddle.step hfree hstep) hafter
    cases hentry : r.context.allProxiesMap[remarkKey text]? with
    | none => rfl
    | some other =>
      obtain ⟨tag, hkey, htag, _⟩ := hfinal other hentry
      rw [← remarkKey_injective hkey] at htag
      exact absurd htag htrim

end Builder

section Rules

variable {crates : Crates} {context : CoreConfigContext} {fuel : ℕ} {text tag : String}
variable {config config' : SingboxConfig} {node other : ProfileItem}

end Rules

end RuleOutbounds
