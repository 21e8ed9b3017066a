import VoyaVPN.SingboxEntry
import VoyaVPN.FuelRun

/-! The settings no part of the builder or of the generator reads, but for the source of rule
sets. -/
namespace ConfigIndependence

open Entities AppConfig RustText ContextBuilder ProtocolCommon SingboxSchema SingboxSupport
open SingboxOutbounds SingboxInbounds SingboxRouting SingboxDns SingboxExperimental SingboxEntry

/-- The settings of `config`, with those a running core is not restarted for from `other`. -/
def withOtherSettings (config other : Config) : Config :=
  { config with
    guiItem := other.guiItem
    uiItem := other.uiItem
    constItem := other.constItem
    speedTestItem := other.speedTestItem
    systemProxyItem := other.systemProxyItem
    showWindowShortcut := other.showWindowShortcut }

def withOther (other : Config) (context : CoreConfigContext) : CoreConfigContext :=
  { context with appConfig := withOtherSettings context.appConfig other }

theorem eq_withOtherSettings {original updated : Config}
    (h : savedConfigRequiresRuntimeRestart original updated = false) :
    updated = withOtherSettings original updated := by
  simp only [savedConfigRequiresRuntimeRestart, decide_eq_false_iff_not, not_or, not_not] at h
  obtain ⟨h1, h2, h3, h4, h5, h6, h7, h8, h9, h10, h11⟩ := h
  unfold withOtherSettings
  rw [h1, h2, h3, h4, h5, h6, h7, h8, h9, h10, h11]

section Generator

variable (crates : Crates) (other : Config) (context : CoreConfigContext)

theorem buildMembers_withOther (buildGroup : BuildGroup) :
    buildMembers crates buildGroup (withOther other context) =
      buildMembers crates buildGroup context := by
  funext baseTagName single index nodes
  induction nodes generalizing index with
  | nil => rfl
  | cons childNode rest ih =>
    simp only [buildMembers, ih]
    rfl

theorem buildHops_withOther (buildGroup : BuildGroup) :
    buildHops crates buildGroup (withOther other context) =
      buildHops crates buildGroup context := by
  funext baseTagName index nodes result
  induction nodes generalizing index result with
  | nil => rfl
  | cons childNode rest ih =>
    simp only [buildHops, ih]
    rfl

theorem buildGroupProxyServers_withOther (fuel : ℕ) :
    buildGroupProxyServers crates (withOther other context) fuel =
      buildGroupProxyServers crates context fuel := by
  induction fuel with
  | zero => rfl
  | succ fuel ih =>
    funext node baseTagName
    simp only [buildGroupProxyServers, buildOutboundsList, buildChainOutboundsList, ih,
      buildMembers_withOther, buildHops_withOther]
    rfl

theorem buildAllProxyServers_withOther (fuel : ℕ) :
    buildAllProxyServers crates fuel (withOther other context) =
      buildAllProxyServers crates fuel context := by
  funext node baseTagName withSelector
  rw [buildAllProxyServers, buildGroupProxyServers_withOther]
  rfl

theorem genOutbounds_withOther (fuel : ℕ) (config : SingboxConfig) :
    genOutbounds crates fuel config (withOther other context) =
      genOutbounds crates fuel config context := by
  rw [genOutbounds, buildAllProxyServers_withOther]
  rfl

theorem genRoutingUserRule_withOther (fuel : ℕ) :
    genRoutingUserRule crates fuel (withOther other context) =
      genRoutingUserRule crates fuel context := by
  funext config item
  simp only [genRoutingUserRule, genRoutingUserRuleOutbound, buildAllProxyServers_withOther]
  rfl

theorem genRouting_withOther (fuel : ℕ) (config : SingboxConfig) :
    genRouting crates fuel config (withOther other context) =
      genRouting crates fuel config context := by
  simp only [genRouting, genRoutingUserRule_withOther]
  rfl

theorem genSections_withOther (fuel : ℕ) :
    genSections crates fuel (withOther other context) = genSections crates fuel context := by
  simp only [genSections, genOutbounds_withOther, genRouting_withOther]
  rfl

theorem validateProxyPorts_withOther (fuel : ℕ) :
    validateProxyPorts fuel (withOther other context) = validateProxyPorts fuel context := rfl

theorem validateActiveWireguard_withOther :
    validateActiveWireguard (withOther other context) = validateActiveWireguard context := rfl

theorem applyBindings_withOther (config : SingboxConfig) :
    applyBindings config (withOther other context) = applyBindings config context := rfl

end Generator

def traversalWithOther (other : Config) (t : Traversal) : Traversal :=
  { t with context := withOther other t.context }

def loopWithOther (other : Config) (s : ChildLoop) : ChildLoop :=
  { s with toTraversal := traversalWithOther other s.toTraversal }

def resultWithOther (other : Config) (r : CoreConfigContextBuilderResult) :
    CoreConfigContextBuilderResult :=
  { r with context := withOther other r.context }

section Builder

variable (crates : Crates) (env : CoreGenEnv) (other : Config)

theorem registerSingleNode_withOther (context : CoreConfigContext) (node : ProfileItem) :
    registerSingleNode crates (withOther other context) node =
      (withOther other (registerSingleNode crates context node).1,
        (registerSingleNode crates context node).2) := by
  unfold registerSingleNode
  by_cases hgroup : node.configType.isGroupType = true
  · rw [if_pos hgroup, if_pos hgroup]
  · rw [if_neg hgroup, if_neg hgroup]
    by_cases hfailed : (!(validateNode crates node context.runCoreType).success) = true
    · simp only [if_pos hfailed]
    · simp only [if_neg hfailed]
      rfl

theorem visitChild_withOther {traverse : TraverseGroup}
    (h : ∀ t node ancestors, traverse (traversalWithOther other t) node ancestors =
      (traverse t node ancestors).map fun (t, result) => (traversalWithOther other t, result))
    (node : ProfileItem) (ancestors : Finset String) (s : ChildLoop) (childNode : ProfileItem) :
    visitChild crates traverse node ancestors (loopWithOther other s) childNode =
      (visitChild crates traverse node ancestors s childNode).map (loopWithOther other) := by
  by_cases hancestor : childNode.indexId ∈ ancestors
  · rw [visitChild, visitChild, if_pos hancestor, if_pos hancestor]
    rfl
  by_cases hvisited : childNode.indexId ∈ s.globalVisited
  · have hvisited' : childNode.indexId ∈ (loopWithOther other s).globalVisited := hvisited
    rw [visitChild, visitChild, if_neg hancestor, if_neg hancestor, if_pos hvisited,
      if_pos hvisited']
    rfl
  have hvisited' : childNode.indexId ∉ (loopWithOther other s).globalVisited := hvisited
  rw [visitChild, visitChild, if_neg hancestor, if_neg hancestor, if_neg hvisited,
    if_neg hvisited']
  by_cases hsingle : (!childNode.configType.isGroupType) = true
  · rw [if_pos hsingle, if_pos hsingle]
    have hregister := registerSingleNode_withOther crates other s.context childNode
    have hcontext : (loopWithOther other s).context = withOther other s.context := rfl
    simp only [hcontext, hregister]
    by_cases hfailed : (!(registerSingleNode crates s.context childNode).2.success) = true
    · rw [if_pos hfailed, if_pos hfailed]
      rfl
    · rw [if_neg hfailed, if_neg hfailed]
      rfl
  · rw [if_neg hsingle, if_neg hsingle]
    have ht : (loopWithOther other s).toTraversal = traversalWithOther other s.toTraversal := rfl
    rw [ht, h]
    cases traverse s.toTraversal childNode (insert childNode.indexId ancestors) with
    | none => rfl
    | some run =>
      obtain ⟨t, result⟩ := run
      by_cases hfailed : (!result.success) = true
      · simp only [Option.map_some, Option.bind_eq_bind, Option.bind_some, if_pos hfailed]
        rfl
      · simp only [Option.map_some, Option.bind_eq_bind, Option.bind_some, if_neg hfailed]
        rfl

theorem finishGroup_withOther (node : ProfileItem) (s : ChildLoop) :
    finishGroup node (loopWithOther other s) =
      (traversalWithOther other (finishGroup node s).1, (finishGroup node s).2) := by
  have hids : (loopWithOther other s).children.ids = s.children.ids := rfl
  unfold finishGroup
  rw [hids]
  by_cases hempty : s.children.ids.isEmpty = true
  · rw [if_pos hempty, if_pos hempty]
    rfl
  · rw [if_neg hempty, if_neg hempty]
    rfl

theorem traverseGroupNode_withOther (fuel : ℕ) (t : Traversal) (node : ProfileItem)
    (ancestors : Finset String) :
    traverseGroupNode crates env fuel (traversalWithOther other t) node ancestors =
      (traverseGroupNode crates env fuel t node ancestors).map
        fun (t, result) => (traversalWithOther other t, result) := by
  induction fuel generalizing t node ancestors with
  | zero => rfl
  | succ fuel ih =>
    have hstep := visitChild_withOther crates other ih node ancestors
    have hrun := FuelRun.foldlM_map hstep (groupChildProfileItems crates env node.protocol)
      { toTraversal := t }
    have hstart : loopWithOther other { toTraversal := t } =
        { toTraversal := traversalWithOther other t } := rfl
    rw [hstart] at hrun
    rw [traverseGroupNode, traverseGroupNode, hrun, Option.map_map, Option.map_map]
    congr 1
    funext s
    exact finishGroup_withOther other node s

theorem resolveNode_withOther (fuel : ℕ) (context : CoreConfigContext) (node : ProfileItem) :
    resolveNode crates env fuel (withOther other context) node =
      (resolveNode crates env fuel context node).map
        fun (context, node, result) => (withOther other context, node, result) := by
  by_cases hblank : isEmpty (trim node.indexId) = true
  · rw [resolveNode, resolveNode, if_pos hblank, if_pos hblank]
    rfl
  rw [resolveNode, resolveNode, if_neg hblank, if_neg hblank]
  have hregister : registerNode crates env fuel (withOther other context) node =
      (registerNode crates env fuel context node).map
        fun registered => (withOther other registered.1, registered.2) := by
    by_cases hgroup : node.configType.isGroupType = true
    · have htraverse := traverseGroupNode_withOther crates env other fuel
        ⟨context, {node.indexId}⟩ node {node.indexId}
      have hstart : traversalWithOther other ⟨context, {node.indexId}⟩ =
          ⟨withOther other context, {node.indexId}⟩ := rfl
      rw [hstart] at htraverse
      rw [registerNode, registerNode, if_pos hgroup, if_pos hgroup, registerGroupNode,
        registerGroupNode, htraverse, Option.map_map, Option.map_map]
      rfl
    · rw [registerNode, registerNode, if_neg hgroup, if_neg hgroup,
        registerSingleNode_withOther]
      rfl
  rw [hregister, Option.map_map, Option.map_map]
  rfl

theorem resolveRuleOutbound_withOther (fuel : ℕ) (r : CoreConfigContextBuilderResult)
    (ruleItem : RulesItem) :
    resolveRuleOutbound crates env fuel (resultWithOther other r) ruleItem =
      (resolveRuleOutbound crates env fuel r ruleItem).map (resultWithOther other) := by
  unfold resolveRuleOutbound
  cases ruleItem.outboundTag.bind nonempty with
  | none => rfl
  | some outboundTag =>
    cases hnode : env.getProfileByRemarks outboundTag with
    | none =>
      simp only [hnode]
      rfl
    | some ruleOutboundNode =>
      have hcontext : (resultWithOther other r).context = withOther other r.context := rfl
      simp only [hnode, hcontext, resolveNode_withOther]
      cases resolveNode crates env fuel r.context ruleOutboundNode with
      | none => rfl
      | some resolved =>
        obtain ⟨context, activeRuleNode, ruleResult⟩ := resolved
        by_cases hfailed : (!ruleResult.success) = true
        · simp only [Option.map_some, Option.bind_eq_bind, Option.bind_some, if_pos hfailed]
          rfl
        · simp only [Option.map_some, Option.bind_eq_bind, Option.bind_some, if_neg hfailed]
          rfl

theorem resolveRuleOutbounds_withOther (fuel : ℕ) (r : CoreConfigContextBuilderResult) :
    resolveRuleOutbounds crates env fuel (resultWithOther other r) =
      (resolveRuleOutbounds crates env fuel r).map (resultWithOther other) := by
  have hrouting : (resultWithOther other r).context.routingItem = r.context.routingItem := rfl
  rw [resolveRuleOutbounds, resolveRuleOutbounds, hrouting]
  cases r.context.routingItem with
  | none => rfl
  | some routingItem =>
    exact FuelRun.foldlM_map (resolveRuleOutbound_withOther crates env other fuel) _ r

theorem build_withOther (fuel : ℕ) (config : Config) (node : ProfileItem)
    (hrouting : env.getDefaultRouting (withOtherSettings config other) =
      env.getDefaultRouting config) :
    build crates env fuel (withOtherSettings config other) node =
      (build crates env fuel config node).map (resultWithOther other) := by
  have hstart : initialContext env (withOtherSettings config other) node =
      withOther other (initialContext env config node) := by
    rw [initialContext, hrouting]
    rfl
  rw [build, build, hstart, resolveNode_withOther]
  cases resolveNode crates env fuel (initialContext env config node) node with
  | none => rfl
  | some resolved =>
    obtain ⟨context, activeNode, nodeResult⟩ := resolved
    by_cases hfailed : (!nodeResult.success) = true
    · simp only [Option.map_some, Option.bind_eq_bind, Option.bind_some, if_pos hfailed]
      rfl
    · simp only [Option.map_some, Option.bind_eq_bind, Option.bind_some, if_neg hfailed]
      exact resolveRuleOutbounds_withOther crates env other fuel
        ⟨{ context with node := activeNode }, { warnings := nodeResult.warnings }⟩

end Builder

end ConfigIndependence
