import VoyaVPN.FuelRun
import VoyaVPN.SingboxRouting

/-! The steps of the route section: what finding an outbound does to the config, and what
every user rule leaves unchanged. -/
namespace RoutingSteps

open Entities AppConfig RustText ContextBuilder SingboxSchema SingboxSupport SingboxOutbounds
open SingboxRouting FuelRun

/-- The outbound the generator finds for a rule, and the config it leaves. -/
inductive OutboundStep (crates : Crates) (fuel : ℕ) (context : CoreConfigContext)
    (config : SingboxConfig) (outboundTag : String) : SingboxConfig → String → Prop where
  | reserved : outboundTag ∈ [proxyTag, directTag, blockTag] →
      OutboundStep crates fuel context config outboundTag config outboundTag
  | missing : outboundTag ∉ [proxyTag, directTag, blockTag] →
      context.allProxiesMap[remarkKey outboundTag]? = none →
      OutboundStep crates fuel context config outboundTag config proxyTag
  | unsupported (node : ProfileItem) : outboundTag ∉ [proxyTag, directTag, blockTag] →
      context.allProxiesMap[remarkKey outboundTag]? = some node →
      node.configType.isGroupType = false → singboxSupportsConfigType node.configType = false →
      OutboundStep crates fuel context config outboundTag config proxyTag
  | existing (node : ProfileItem) : outboundTag ∉ [proxyTag, directTag, blockTag] →
      context.allProxiesMap[remarkKey outboundTag]? = some node →
      (node.configType.isGroupType || singboxSupportsConfigType node.configType) = true →
      hasServerFor config (profileTag node) = true →
      OutboundStep crates fuel context config outboundTag config (profileTag node)
  | hollow (node : ProfileItem) : outboundTag ∉ [proxyTag, directTag, blockTag] →
      context.allProxiesMap[remarkKey outboundTag]? = some node →
      (node.configType.isGroupType || singboxSupportsConfigType node.configType) = true →
      hasServerFor config (profileTag node) = false →
      buildAllProxyServers crates fuel context node (profileTag node) true = some [] →
      OutboundStep crates fuel context config outboundTag config proxyTag
  | built (node : ProfileItem) (servers : List SingboxServer) :
      outboundTag ∉ [proxyTag, directTag, blockTag] →
      context.allProxiesMap[remarkKey outboundTag]? = some node →
      (node.configType.isGroupType || singboxSupportsConfigType node.configType) = true →
      hasServerFor config (profileTag node) = false →
      buildAllProxyServers crates fuel context node (profileTag node) true = some servers →
      servers ≠ [] →
      OutboundStep crates fuel context config outboundTag (appendServers config servers)
        (profileTag node)

theorem profileTag_not_builtin (node : ProfileItem) :
    profileTag node ∉ [proxyTag, directTag, blockTag] := by
  have hlength : 6 < (profileTag node).toList.length := by
    have hproxy : proxyTag.toList.length = 5 := rfl
    have hdash : "-".toList.length = 1 := rfl
    simp only [profileTag, String.toList_append, List.length_append, hproxy, hdash]
    omega
  intro hmem
  simp only [List.mem_cons, List.not_mem_nil, or_false] at hmem
  rcases hmem with htag | htag | htag <;> rw [htag] at hlength <;> revert hlength <;> decide

variable {crates : Crates} {fuel : ℕ} {context : CoreConfigContext}
variable {config config' : SingboxConfig}

theorem genRoutingUserRuleOutbound_step {outboundTag tag : String}
    (h : genRoutingUserRuleOutbound crates fuel config context outboundTag =
      some (config', tag)) : OutboundStep crates fuel context config outboundTag config' tag := by
  unfold genRoutingUserRuleOutbound at h
  by_cases hreserved : [proxyTag, directTag, blockTag].contains outboundTag = true
  · rw [if_pos hreserved] at h
    cases h
    exact .reserved (by simpa using hreserved)
  rw [if_neg hreserved] at h
  have hfree : outboundTag ∉ [proxyTag, directTag, blockTag] := by simpa using hreserved
  cases hentry : context.allProxiesMap[remarkKey outboundTag]? with
  | none =>
    rw [hentry] at h
    cases h
    exact .missing hfree hentry
  | some node =>
    simp only [hentry] at h
    by_cases hsupported :
        (!node.configType.isGroupType && !singboxSupportsConfigType node.configType) = true
    · rw [if_pos hsupported] at h
      cases h
      rw [Bool.and_eq_true, Bool.not_eq_true', Bool.not_eq_true'] at hsupported
      exact .unsupported node hfree hentry hsupported.1 hsupported.2
    rw [if_neg hsupported] at h
    have hsupported : (node.configType.isGroupType || singboxSupportsConfigType node.configType) =
        true := by
      cases hG : node.configType.isGroupType <;>
        cases hS : singboxSupportsConfigType node.configType <;> simp_all
    cases hhas : hasServerFor config (profileTag node) with
    | true =>
      rw [if_pos hhas] at h
      cases h
      exact .existing node hfree hentry hsupported hhas
    | false =>
      rw [if_neg (by simp [hhas])] at h
      obtain ⟨servers, hservers, hout⟩ := Option.map_eq_some_iff.mp h
      cases servers with
      | nil =>
        cases hout
        exact .hollow node hfree hentry hsupported hhas hservers
      | cons server rest =>
        cases hout
        exact .built node (server :: rest) hfree hentry hsupported hhas hservers (by simp)

theorem genRoutingUserRuleOutbound_route {outboundTag tag : String}
    (h : genRoutingUserRuleOutbound crates fuel config context outboundTag =
      some (config', tag)) : config'.route = config.route := by
  cases genRoutingUserRuleOutbound_step h <;> rfl

theorem genRoutingUserRule_step {item : RulesItem}
    (h : genRoutingUserRule crates fuel context config item = some config') :
    ∃ config₁ tag,
      OutboundStep crates fuel context config (item.outboundTag.getD proxyTag) config₁ tag ∧
        config' = pushRouteRules config₁ (userRouteRules tag item) := by
  obtain ⟨⟨config₁, tag⟩, hfound, rfl⟩ := Option.map_eq_some_iff.mp h
  exact ⟨config₁, tag, genRoutingUserRuleOutbound_step hfound, rfl⟩

/-- What holds after the fixed rules and is kept by every user rule holds in the end. -/
theorem genRouting_invariant {Inv : SingboxConfig → Prop}
    (start : Inv (pushRouteRules (routeSettings config context) (fixedRouteRules context)))
    (resolve : ∀ c, Inv c → Inv (pushRouteRules c [resolveRule context]))
    (user : ∀ routing c item c', context.routingItem = some routing → item ∈ routedRules routing →
      Inv c → genRoutingUserRule crates fuel context c item = some c' → Inv c')
    (h : genRouting crates fuel config context = some config') : Inv config' := by
  unfold genRouting at h
  cases hrouting : context.routingItem with
  | none =>
    rw [hrouting] at h
    cases h
    exact start
  | some routing =>
    simp only [hrouting] at h
    obtain ⟨c, hfirst, h⟩ := Option.bind_eq_some_iff.mp h
    have inv : Inv c := foldlM_invariant
      (fun b item hitem c hb hc => user routing b item c hrouting hitem hb hc) start hfirst
    by_cases hstrategy : context.appConfig.routingBasicItem.domainStrategy = ipIfNonMatch
    · rw [if_pos hstrategy] at h
      refine foldlM_invariant (fun b item hitem c hb hc => ?_) (resolve c inv) h
      exact user routing b item c hrouting (List.mem_filter.mp hitem).1 hb hc
    · rw [if_neg hstrategy] at h
      cases h
      exact inv

end RoutingSteps
