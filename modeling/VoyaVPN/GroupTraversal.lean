import VoyaVPN.ContextBuilder

/-! What holds after every traversal of a group. The rule packages the induction over the
call depth and over the child loop once; its instances say what they need of each step. -/
namespace GroupTraversal

open Entities AppConfig RustText ContextBuilder

/-- The traversal after a single profile has been registered. -/
def registered (crates : Crates) (t : Traversal) (c : ProfileItem) : Traversal where
  context := (registerSingleNode crates t.context c).1
  globalVisited := insert c.indexId t.globalVisited

/-- The traversal after the caller has marked a resolved group as visited. -/
def marked (t : Traversal) (c : ProfileItem) : Traversal :=
  { t with globalVisited := insert c.indexId t.globalVisited }

def stored (t : Traversal) (node : ProfileItem) (ids : List String) : Traversal :=
  { t with context := { t.context with
      allProxiesMap := t.context.allProxiesMap.insert node.indexId (resolvedNode node ids) } }

/-- Conditions before and after a traversal with the given ancestors, and the invariant of
its child loop, which has seen the children in the list. -/
structure TraversalRule (crates : Crates) (env : CoreGenEnv) where
  Pre : Finset String → ProfileItem → Traversal → Prop
  Loop : Finset String → ProfileItem → Traversal → List ProfileItem → Traversal → ChildIndex → Prop
  Post : Finset String → ProfileItem → Traversal → Traversal → Bool → Prop
  enter : ∀ {A node t}, Pre A node t → Loop A node t [] t {}
  pruned : ∀ {A node t₀ before t cs c}, c ∈ groupChildProfileItems crates env node.protocol →
    Loop A node t₀ before t cs → c.indexId ∈ A → Loop A node t₀ (before ++ [c]) t cs
  visited : ∀ {A node t₀ before t cs c}, c ∈ groupChildProfileItems crates env node.protocol →
    Loop A node t₀ before t cs → c.indexId ∉ A → c.indexId ∈ t.globalVisited →
    Loop A node t₀ (before ++ [c]) t (cs.pushUnique c.indexId)
  invalid : ∀ {A node t₀ before t cs c}, c ∈ groupChildProfileItems crates env node.protocol →
    Loop A node t₀ before t cs → c.indexId ∉ A → c.indexId ∉ t.globalVisited →
    c.configType.isGroupType = false → profileIsValid crates c = false →
    Loop A node t₀ (before ++ [c]) t cs
  single : ∀ {A node t₀ before t cs c}, c ∈ groupChildProfileItems crates env node.protocol →
    Loop A node t₀ before t cs → c.indexId ∉ A → c.indexId ∉ t.globalVisited →
    c.configType.isGroupType = false → profileIsValid crates c = true →
    Loop A node t₀ (before ++ [c]) (registered crates t c) (cs.pushUnique c.indexId)
  enterGroup : ∀ {A node t₀ before t cs c}, c ∈ groupChildProfileItems crates env node.protocol →
    Loop A node t₀ before t cs → c.indexId ∉ A → c.indexId ∉ t.globalVisited →
    c.configType.isGroupType = true → Pre (insert c.indexId A) c t
  hollow : ∀ {A node t₀ before t t' cs c}, c ∈ groupChildProfileItems crates env node.protocol →
    Loop A node t₀ before t cs → c.indexId ∉ A → c.indexId ∉ t.globalVisited →
    c.configType.isGroupType = true → Post (insert c.indexId A) c t t' false →
    Loop A node t₀ (before ++ [c]) t' cs
  group : ∀ {A node t₀ before t t' cs c}, c ∈ groupChildProfileItems crates env node.protocol →
    Loop A node t₀ before t cs → c.indexId ∉ A → c.indexId ∉ t.globalVisited →
    c.configType.isGroupType = true → Post (insert c.indexId A) c t t' true →
    Loop A node t₀ (before ++ [c]) (marked t' c) (cs.pushUnique c.indexId)
  failed : ∀ {A node t₀ t cs},
    Loop A node t₀ (groupChildProfileItems crates env node.protocol) t cs → cs.ids = [] →
    Post A node t₀ t false
  finished : ∀ {A node t₀ t cs},
    Loop A node t₀ (groupChildProfileItems crates env node.protocol) t cs → cs.ids ≠ [] →
    Post A node t₀ (stored t node cs.ids) true

variable {crates : Crates} {env : CoreGenEnv}

theorem registerSingle_success (crates : Crates) (context : CoreConfigContext) {c : ProfileItem}
    (hc : c.configType.isGroupType = false) :
    (registerSingleNode crates context c).2.success = profileIsValid crates c := by
  cases hcore : context.runCoreType
  simp only [registerSingleNode, hc, Bool.false_eq_true, ↓reduceIte, hcore, profileIsValid]
  split <;> rfl

theorem registerSingle_invalid (context : CoreConfigContext) {c : ProfileItem}
    (hc : c.configType.isGroupType = false) (h : profileIsValid crates c = false) :
    (registerSingleNode crates context c).1 = context := by
  rw [profileIsValid] at h
  cases hcore : context.runCoreType
  simp [registerSingleNode, hc, hcore, h]

theorem registerSingle_proxies (context : CoreConfigContext) {c : ProfileItem}
    (hc : c.configType.isGroupType = false) (h : profileIsValid crates c = true) :
    (registerSingleNode crates context c).1.allProxiesMap =
      context.allProxiesMap.insert c.indexId c := by
  rw [profileIsValid] at h
  cases hcore : context.runCoreType
  simp [registerSingleNode, hc, hcore, h]

theorem finishGroup_empty (node : ProfileItem) {s : ChildLoop} (h : s.children.ids = []) :
    (finishGroup node s).1 = s.toTraversal ∧ (finishGroup node s).2.success = false := by
  simp [finishGroup, h, NodeValidatorResult.success, NodeValidatorResult.pushError]

theorem finishGroup_nonempty (node : ProfileItem) {s : ChildLoop} (h : s.children.ids ≠ []) :
    (finishGroup node s).1 = stored s.toTraversal node s.children.ids ∧
      (finishGroup node s).2.success = true := by
  have hne : s.children.ids.isEmpty = false := by simpa using h
  rw [finishGroup, if_neg (by simp [hne])]
  exact ⟨rfl, rfl⟩

namespace TraversalRule

variable (rule : TraversalRule crates env)

theorem visit {A : Finset String} {node : ProfileItem} {t₀ : Traversal}
    {traverse : TraverseGroup}
    (nested : ∀ {A c t t' result}, rule.Pre A c t → traverse t c A = some (t', result) →
      rule.Post A c t t' result.success)
    {before : List ProfileItem} {s s' : ChildLoop} {c : ProfileItem}
    (hc : c ∈ groupChildProfileItems crates env node.protocol)
    (hs : rule.Loop A node t₀ before s.toTraversal s.children)
    (step : visitChild crates traverse node A s c = some s') :
    rule.Loop A node t₀ (before ++ [c]) s'.toTraversal s'.children := by
  unfold visitChild at step
  by_cases hA : c.indexId ∈ A
  · rw [if_pos hA] at step
    cases step
    exact rule.pruned hc hs hA
  rw [if_neg hA] at step
  by_cases hV : c.indexId ∈ s.globalVisited
  · rw [if_pos hV] at step
    cases step
    exact rule.visited hc hs hA hV
  rw [if_neg hV] at step
  by_cases hG : c.configType.isGroupType = true
  · rw [if_neg (by simp [hG])] at step
    obtain ⟨⟨t', result⟩, ht, step⟩ := Option.bind_eq_some_iff.mp step
    have post := nested (rule.enterGroup hc hs hA hV hG) ht
    cases hr : result.success with
    | true =>
      simp only [hr, Bool.not_true, Bool.false_eq_true, ↓reduceIte] at step
      cases step
      exact rule.group hc hs hA hV hG (hr ▸ post)
    | false =>
      simp only [hr, Bool.not_false, ↓reduceIte] at step
      cases step
      exact rule.hollow hc hs hA hV hG (hr ▸ post)
  · have hG : c.configType.isGroupType = false := by simpa using hG
    rw [if_pos (by simp [hG])] at step
    simp only [registerSingle_success crates s.context hG] at step
    cases hv : profileIsValid crates c with
    | true =>
      simp only [hv, Bool.not_true, Bool.false_eq_true, ↓reduceIte] at step
      cases step
      exact rule.single hc hs hA hV hG hv
    | false =>
      simp only [hv, Bool.not_false, ↓reduceIte, registerSingle_invalid s.context hG hv] at step
      cases step
      exact rule.invalid hc hs hA hV hG hv

theorem visitAll {A : Finset String} {node : ProfileItem} {t₀ : Traversal}
    {traverse : TraverseGroup}
    (nested : ∀ {A c t t' result}, rule.Pre A c t → traverse t c A = some (t', result) →
      rule.Post A c t t' result.success)
    {before rest : List ProfileItem} {s s' : ChildLoop}
    (hrest : ∀ c ∈ rest, c ∈ groupChildProfileItems crates env node.protocol)
    (hs : rule.Loop A node t₀ before s.toTraversal s.children)
    (run : rest.foldlM (visitChild crates traverse node A) s = some s') :
    rule.Loop A node t₀ (before ++ rest) s'.toTraversal s'.children := by
  induction rest generalizing before s with
  | nil =>
    cases run
    rwa [List.append_nil]
  | cons c rest ih =>
    rw [List.foldlM_cons] at run
    obtain ⟨s₁, step, run⟩ := Option.bind_eq_some_iff.mp run
    have h₁ := rule.visit nested (hrest c List.mem_cons_self) hs step
    have h₂ := ih (fun d hd => hrest d (List.mem_cons_of_mem c hd)) h₁ run
    rwa [List.append_assoc] at h₂

theorem run (fuel : ℕ) {A : Finset String} {node : ProfileItem} {t t' : Traversal}
    {result : NodeValidatorResult} (pre : rule.Pre A node t)
    (h : traverseGroupNode crates env fuel t node A = some (t', result)) :
    rule.Post A node t t' result.success := by
  induction fuel generalizing A node t t' result with
  | zero => cases h
  | succ fuel ih =>
    rw [traverseGroupNode] at h
    obtain ⟨s, hs, hfin⟩ := Option.map_eq_some_iff.mp h
    have loop := rule.visitAll ih (fun _ hc => hc) (s := { toTraversal := t }) (rule.enter pre) hs
    rw [List.nil_append] at loop
    by_cases hids : s.children.ids = []
    · have post := rule.failed loop hids
      rw [← (finishGroup_empty node hids).1,
        ← (finishGroup_empty node hids).2, hfin] at post
      exact post
    · have post := rule.finished loop hids
      rw [← (finishGroup_nonempty node hids).1,
        ← (finishGroup_nonempty node hids).2, hfin] at post
      exact post

end TraversalRule

/-- A registration either traverses a group or stores a valid single profile. -/
theorem registerNode_cases {fuel : ℕ} {context context' : CoreConfigContext}
    {node : ProfileItem} {result : NodeValidatorResult}
    (h : registerNode crates env fuel context node = some (context', result)) :
    (node.configType.isGroupType = true ∧ ∃ t, context' = t.context ∧
      traverseGroupNode crates env fuel ⟨context, {node.indexId}⟩ node {node.indexId} =
        some (t, result)) ∨
    (node.configType.isGroupType = false ∧ profileIsValid crates node = false ∧
      context' = context ∧ result.success = false) ∨
    (node.configType.isGroupType = false ∧ profileIsValid crates node = true ∧
      context'.allProxiesMap = context.allProxiesMap.insert node.indexId node ∧
      result.success = true) := by
  unfold registerNode at h
  by_cases hG : node.configType.isGroupType = true
  · rw [if_pos hG] at h
    obtain ⟨⟨t, res⟩, ht, hout⟩ := Option.map_eq_some_iff.mp h
    cases hout
    exact Or.inl ⟨hG, t, rfl, ht⟩
  · rw [if_neg hG] at h
    have hG : node.configType.isGroupType = false := by simpa using hG
    have hout : registerSingleNode crates context node = (context', result) := Option.some.inj h
    have hresult := registerSingle_success crates context hG
    rw [hout] at hresult
    cases hv : profileIsValid crates node with
    | false =>
      have hcontext := registerSingle_invalid context hG hv
      rw [hout] at hcontext
      exact Or.inr (Or.inl ⟨hG, rfl, hcontext, hresult.trans hv⟩)
    | true =>
      have hcontext := registerSingle_proxies context hG hv
      rw [hout] at hcontext
      exact Or.inr (Or.inr ⟨hG, rfl, hcontext, hresult.trans hv⟩)

theorem resolveNode_cases {fuel : ℕ} {context context' : CoreConfigContext}
    {node node' : ProfileItem} {result : NodeValidatorResult}
    (h : resolveNode crates env fuel context node = some (context', node', result)) :
    (isEmpty (trim node.indexId) = true ∧ node' = node ∧ context' = context ∧ result = {}) ∨
      (isEmpty (trim node.indexId) = false ∧ node' = node ∧
        registerNode crates env fuel context node = some (context', result)) := by
  unfold resolveNode at h
  by_cases hblank : isEmpty (trim node.indexId) = true
  · rw [if_pos hblank] at h
    cases h
    exact Or.inl ⟨hblank, rfl, rfl, rfl⟩
  · rw [if_neg hblank] at h
    obtain ⟨⟨c, res⟩, hreg, hout⟩ := Option.map_eq_some_iff.mp h
    cases hout
    exact Or.inr ⟨by simpa using hblank, rfl, hreg⟩

/-- What one rule outbound does: nothing, or one registration, which stores the node under
its remark when it succeeds. -/
theorem resolveRuleOutbound_cases {fuel : ℕ} {r r' : CoreConfigContextBuilderResult}
    {item : RulesItem} (h : resolveRuleOutbound crates env fuel r item = some r') :
    r'.context = r.context ∨
      ∃ tag node context result, item.outboundTag.bind nonempty = some tag ∧
        env.getProfileByRemarks tag = some node ∧
        resolveNode crates env fuel r.context node = some (context, node, result) ∧
        ((result.success = false ∧ r'.context = context) ∨
          (result.success = true ∧ r'.context = { context with
            allProxiesMap := context.allProxiesMap.insert (remarkKey tag) node })) := by
  unfold resolveRuleOutbound at h
  cases htag : item.outboundTag.bind nonempty with
  | none =>
    simp only [htag] at h
    cases h
    exact Or.inl rfl
  | some tag =>
    simp only [htag] at h
    cases hnode : env.getProfileByRemarks tag with
    | none =>
      simp only [hnode] at h
      cases h
      exact Or.inl rfl
    | some node =>
      simp only [hnode] at h
      obtain ⟨⟨context, node', result⟩, hres, next⟩ := Option.bind_eq_some_iff.mp h
      obtain rfl : node' = node := by
        rcases resolveNode_cases hres with ⟨_, same, _⟩ | ⟨_, same, _⟩ <;> exact same
      refine Or.inr ⟨tag, node', context, result, rfl, hnode, hres, ?_⟩
      cases hs : result.success with
      | true =>
        simp only [hs, Bool.not_true, Bool.false_eq_true, ↓reduceIte] at next
        cases next
        exact Or.inr ⟨rfl, rfl⟩
      | false =>
        simp only [hs, Bool.not_false, ↓reduceIte] at next
        cases next
        exact Or.inl ⟨rfl, rfl⟩

/-- What a build does: it resolves the active profile, and unless that fails the outbounds of
the rules one after the other. -/
theorem build_cases {fuel : ℕ} {config : Config} {node : ProfileItem}
    {r : CoreConfigContextBuilderResult} (h : build crates env fuel config node = some r) :
    ∃ context result,
      resolveNode crates env fuel (initialContext env config node) node =
        some (context, node, result) ∧
      ((result.success = false ∧ r = ⟨context, result⟩) ∨
        (result.success = true ∧
          (((context.routingItem.map resolvableRules).getD []).foldlM
            (resolveRuleOutbound crates env fuel)
            ⟨{ context with node }, { warnings := result.warnings }⟩) = some r)) := by
  obtain ⟨⟨context, node', result⟩, hres, next⟩ := Option.bind_eq_some_iff.mp h
  obtain rfl : node' = node := by
    rcases resolveNode_cases hres with ⟨_, same, _⟩ | ⟨_, same, _⟩ <;> exact same
  refine ⟨context, result, hres, ?_⟩
  cases hs : result.success with
  | false =>
    simp only [hs, Bool.not_false, ↓reduceIte] at next
    cases next
    exact Or.inl ⟨rfl, rfl⟩
  | true =>
    simp only [hs, Bool.not_true, Bool.false_eq_true, ↓reduceIte, resolveRuleOutbounds] at next
    refine Or.inr ⟨rfl, ?_⟩
    cases hrouting : context.routingItem with
    | none =>
      rw [hrouting] at next
      cases next
      rfl
    | some routing =>
      rw [hrouting] at next
      exact next

/-- The profiles the builder registers: the active one and those rule outbounds name. -/
def IsRoot (env : CoreGenEnv) (active node : ProfileItem) : Prop :=
  node = active ∨ ∃ tag, env.getProfileByRemarks tag = some node

/-- A property of the map that a registration keeps, as does the entry of a rule outbound. -/
structure BuildRule (crates : Crates) (env : CoreGenEnv) (active : ProfileItem) where
  Inv : ProxiesMap → Prop
  start : Inv ∅
  register : ∀ {fuel context node context' result}, IsRoot env active node →
    Inv context.allProxiesMap →
    registerNode crates env fuel context node = some (context', result) →
    Inv context'.allProxiesMap
  remark : ∀ {m tag node}, Inv m → env.getProfileByRemarks tag = some node →
    Inv (m.insert (remarkKey tag) node)

namespace BuildRule

variable {active : ProfileItem} (rule : BuildRule crates env active)

theorem resolve {fuel : ℕ} {context context' : CoreConfigContext} {node : ProfileItem}
    {result : NodeValidatorResult} (hroot : IsRoot env active node)
    (inv : rule.Inv context.allProxiesMap)
    (h : resolveNode crates env fuel context node = some (context', node, result)) :
    rule.Inv context'.allProxiesMap := by
  rcases resolveNode_cases h with ⟨_, _, rfl, _⟩ | ⟨_, _, hreg⟩
  · exact inv
  · exact rule.register hroot inv hreg

theorem ruleOutbound {fuel : ℕ} {r r' : CoreConfigContextBuilderResult} {item : RulesItem}
    (inv : rule.Inv r.context.allProxiesMap)
    (h : resolveRuleOutbound crates env fuel r item = some r') :
    rule.Inv r'.context.allProxiesMap := by
  rcases resolveRuleOutbound_cases h with
    same | ⟨tag, node, context, result, _, hnode, hres, next⟩
  · rwa [same]
  · have inv' := rule.resolve (Or.inr ⟨tag, hnode⟩) inv hres
    rcases next with ⟨_, same⟩ | ⟨_, same⟩
    · rwa [same]
    · rw [same]
      exact rule.remark inv' hnode

theorem ruleOutbounds {fuel : ℕ} {items : List RulesItem}
    {r r' : CoreConfigContextBuilderResult} (inv : rule.Inv r.context.allProxiesMap)
    (h : items.foldlM (resolveRuleOutbound crates env fuel) r = some r') :
    rule.Inv r'.context.allProxiesMap := by
  induction items generalizing r with
  | nil =>
    cases h
    exact inv
  | cons item items ih =>
    rw [List.foldlM_cons] at h
    obtain ⟨r₁, step, h⟩ := Option.bind_eq_some_iff.mp h
    exact ih (rule.ruleOutbound inv step) h

theorem run {fuel : ℕ} {config : Config} {r : CoreConfigContextBuilderResult}
    (h : build crates env fuel config active = some r) : rule.Inv r.context.allProxiesMap := by
  obtain ⟨context, result, hres, next⟩ := build_cases h
  have inv := rule.resolve (Or.inl rfl) rule.start hres
  rcases next with ⟨_, rfl⟩ | ⟨_, hrules⟩
  · exact inv
  · exact rule.ruleOutbounds inv hrules

end BuildRule

/-- The contexts agree in everything but the collected profiles and domains. -/
def SameSettings (a b : CoreConfigContext) : Prop :=
  b = { a with allProxiesMap := b.allProxiesMap, protectDomainList := b.protectDomainList }

theorem SameSettings.refl (a : CoreConfigContext) : SameSettings a a := rfl

theorem SameSettings.trans {a b c : CoreConfigContext} (h : SameSettings a b)
    (h' : SameSettings b c) : SameSettings a c := by
  unfold SameSettings at h h' ⊢
  rw [h', h]

theorem registerSingle_settings (crates : Crates) (context : CoreConfigContext) (c : ProfileItem) :
    SameSettings context (registerSingleNode crates context c).1 := by
  unfold registerSingleNode
  split
  · rfl
  · dsimp only
    split <;> rfl

def settingsRule (crates : Crates) (env : CoreGenEnv) : TraversalRule crates env where
  Pre _ _ _ := True
  Loop _ _ t₀ _ t _ := SameSettings t₀.context t.context
  Post _ _ t₀ t _ := SameSettings t₀.context t.context
  enter _ := SameSettings.refl _
  pruned _ loop _ := loop
  visited _ loop _ _ := loop
  invalid _ loop _ _ _ _ := loop
  single _ loop _ _ _ _ := loop.trans (registerSingle_settings _ _ _)
  enterGroup _ _ _ _ _ := trivial
  hollow _ loop _ _ _ post := loop.trans post
  group _ loop _ _ _ post := loop.trans post
  failed loop _ := loop
  finished loop _ := loop.trans rfl

theorem registerNode_settings {fuel : ℕ} {context context' : CoreConfigContext}
    {node : ProfileItem} {result : NodeValidatorResult}
    (h : registerNode crates env fuel context node = some (context', result)) :
    SameSettings context context' := by
  unfold registerNode at h
  by_cases hG : node.configType.isGroupType = true
  · rw [if_pos hG] at h
    obtain ⟨⟨t, res⟩, ht, hout⟩ := Option.map_eq_some_iff.mp h
    cases hout
    exact (settingsRule crates env).run fuel trivial ht
  · rw [if_neg hG] at h
    have hout : registerSingleNode crates context node = (context', result) := Option.some.inj h
    have hsame := registerSingle_settings crates context node
    rwa [hout] at hsame

theorem resolveNode_settings {fuel : ℕ} {context context' : CoreConfigContext}
    {node node' : ProfileItem} {result : NodeValidatorResult}
    (h : resolveNode crates env fuel context node = some (context', node', result)) :
    SameSettings context context' := by
  rcases resolveNode_cases h with ⟨_, _, rfl, _⟩ | ⟨_, _, hreg⟩
  · exact SameSettings.refl _
  · exact registerNode_settings hreg

theorem resolveRuleOutbounds_settings {fuel : ℕ} {items : List RulesItem}
    {r r' : CoreConfigContextBuilderResult}
    (h : items.foldlM (resolveRuleOutbound crates env fuel) r = some r') :
    SameSettings r.context r'.context := by
  induction items generalizing r with
  | nil =>
    cases h
    exact SameSettings.refl _
  | cons item items ih =>
    rw [List.foldlM_cons] at h
    obtain ⟨r₁, step, h⟩ := Option.bind_eq_some_iff.mp h
    refine SameSettings.trans ?_ (ih h)
    rcases resolveRuleOutbound_cases step with same | ⟨_, _, _, _, _, _, hres, next⟩
    · rw [same]
      exact SameSettings.refl _
    · have hsame := resolveNode_settings hres
      rcases next with ⟨_, same⟩ | ⟨_, same⟩
      · rwa [same]
      · rw [same]
        exact hsame.trans rfl

theorem build_settings {fuel : ℕ} {config : Config} {node : ProfileItem}
    {r : CoreConfigContextBuilderResult} (h : build crates env fuel config node = some r) :
    SameSettings (initialContext env config node) r.context := by
  obtain ⟨context, result, hres, next⟩ := build_cases h
  have hsame := resolveNode_settings hres
  have hnode : context.node = node := by rw [hsame]; rfl
  rcases next with ⟨_, rfl⟩ | ⟨_, hrules⟩
  · exact hsame
  · refine hsame.trans (SameSettings.trans ?_ (resolveRuleOutbounds_settings hrules))
    unfold SameSettings
    rw [← hnode]

theorem build_node {fuel : ℕ} {config : Config} {node : ProfileItem}
    {r : CoreConfigContextBuilderResult} (h : build crates env fuel config node = some r) :
    r.context.node = node := by
  rw [build_settings h]
  rfl

end GroupTraversal
