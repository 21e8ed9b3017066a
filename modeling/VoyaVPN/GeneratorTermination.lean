import VoyaVPN.FuelRun
import VoyaVPN.GroupResolution
import VoyaVPN.SingboxOutbounds

/-! The generator keeps no visited set: it returns because the builder has already cut every
cycle out of the map, while it starts from profiles whose lists are not cut. -/
namespace GeneratorTermination

open Entities AppConfig RustText ContextBuilder GroupTraversal RankedGraph FuelRun
open GroupResolution SingboxSupport SingboxOutbounds

section Builder

variable {crates : Crates} {env : CoreGenEnv}

theorem visitChild_extends {traverse traverse' : TraverseGroup}
    (h : ∀ t c A out, traverse t c A = some out → traverse' t c A = some out)
    {node : ProfileItem} {A : Finset String} {s s' : ChildLoop} {c : ProfileItem}
    (step : visitChild crates traverse node A s c = some s') :
    visitChild crates traverse' node A s c = some s' := by
  unfold visitChild at step ⊢
  by_cases hA : c.indexId ∈ A
  · rwa [if_pos hA] at step ⊢
  rw [if_neg hA] at step ⊢
  by_cases hV : c.indexId ∈ s.globalVisited
  · rwa [if_pos hV] at step ⊢
  rw [if_neg hV] at step ⊢
  by_cases hG : c.configType.isGroupType = true
  · rw [if_neg (by simp [hG])] at step ⊢
    obtain ⟨out, hout, step⟩ := Option.bind_eq_some_iff.mp step
    rw [h _ _ _ _ hout]
    exact step
  · rwa [if_pos (by simpa using hG)] at step ⊢

theorem traverseGroupNode_succ (fuel : ℕ) (t : Traversal) (node : ProfileItem)
    (A : Finset String) (out : Traversal × NodeValidatorResult)
    (h : traverseGroupNode crates env fuel t node A = some out) :
    traverseGroupNode crates env (fuel + 1) t node A = some out := by
  induction fuel generalizing t node A out with
  | zero => cases h
  | succ fuel ih =>
    rw [traverseGroupNode] at h ⊢
    obtain ⟨s, hs, hout⟩ := Option.map_eq_some_iff.mp h
    have hs' := foldlM_extends (fun b c _ s' => visitChild_extends ih (s := b) (c := c)) hs
    rw [hs', Option.map_some, hout]

theorem registerNode_succ (fuel : ℕ) (context : CoreConfigContext) (node : ProfileItem)
    (out : CoreConfigContext × NodeValidatorResult)
    (h : registerNode crates env fuel context node = some out) :
    registerNode crates env (fuel + 1) context node = some out := by
  unfold registerNode registerGroupNode at h ⊢
  by_cases hG : node.configType.isGroupType = true
  · rw [if_pos hG] at h ⊢
    obtain ⟨res, hres, hout⟩ := Option.map_eq_some_iff.mp h
    rw [traverseGroupNode_succ fuel _ _ _ res hres, Option.map_some, hout]
  · rwa [if_neg hG] at h ⊢

theorem resolveNode_succ (fuel : ℕ) (context : CoreConfigContext) (node : ProfileItem)
    (out : CoreConfigContext × ProfileItem × NodeValidatorResult)
    (h : resolveNode crates env fuel context node = some out) :
    resolveNode crates env (fuel + 1) context node = some out := by
  unfold resolveNode at h ⊢
  by_cases hblank : isEmpty (trim node.indexId) = true
  · rwa [if_pos hblank] at h ⊢
  · rw [if_neg hblank] at h ⊢
    obtain ⟨res, hres, hout⟩ := Option.map_eq_some_iff.mp h
    rw [registerNode_succ fuel context node res hres, Option.map_some, hout]

theorem resolveRuleOutbound_succ (fuel : ℕ) (r : CoreConfigContextBuilderResult)
    (item : RulesItem) (r' : CoreConfigContextBuilderResult)
    (h : resolveRuleOutbound crates env fuel r item = some r') :
    resolveRuleOutbound crates env (fuel + 1) r item = some r' := by
  unfold resolveRuleOutbound at h ⊢
  cases htag : item.outboundTag.bind nonempty with
  | none => simpa only [htag] using h
  | some tag =>
    cases hnode : env.getProfileByRemarks tag with
    | none => simpa only [htag, hnode] using h
    | some node =>
      simp only [htag, hnode] at h ⊢
      obtain ⟨out, hout, h⟩ := Option.bind_eq_some_iff.mp h
      rw [resolveNode_succ fuel _ _ out hout]
      exact h

theorem build_succ (config : Config) (node : ProfileItem) (fuel : ℕ)
    (r : CoreConfigContextBuilderResult) (h : build crates env fuel config node = some r) :
    build crates env (fuel + 1) config node = some r := by
  unfold build at h ⊢
  obtain ⟨out, hout, h⟩ := Option.bind_eq_some_iff.mp h
  rw [resolveNode_succ fuel _ _ out hout]
  unfold resolveRuleOutbounds at h ⊢
  simp only [Option.bind_eq_bind, Option.bind_some] at h ⊢
  split at h
  · rw [if_pos ‹_›]
    exact h
  · rw [if_neg ‹_›]
    split at h
    · exact h
    · exact foldlM_extends (fun b item _ => resolveRuleOutbound_succ fuel b item) h

/-- A traversal returns when the fuel exceeds the number of profiles it can still enter. -/
theorem traverseGroupNode_isSome {ids : Finset String}
    (hids : ∀ protocol, ∀ c ∈ groupChildProfileItems crates env protocol, c.indexId ∈ ids)
    (fuel : ℕ) (t : Traversal) (node : ProfileItem) (A : Finset String)
    (hfuel : (ids \ A).card < fuel) :
    (traverseGroupNode crates env fuel t node A).isSome = true := by
  induction fuel generalizing t node A with
  | zero => omega
  | succ fuel ih =>
    rw [traverseGroupNode, Option.isSome_map]
    apply foldlM_isSome
    intro s c hc
    unfold visitChild
    split
    · rfl
    rename_i hA
    split
    · rfl
    split
    · dsimp only
      split <;> rfl
    · have hlt : (ids \ insert c.indexId A).card < (ids \ A).card := by
        apply Finset.card_lt_card
        rw [Finset.sdiff_insert]
        exact Finset.erase_ssubset (Finset.mem_sdiff.mpr ⟨hids _ c hc, hA⟩)
      obtain ⟨out, hout⟩ := Option.isSome_iff_exists.mp
        (ih s.toTraversal c (insert c.indexId A) (by omega))
      rw [hout]
      simp only [Option.bind_eq_bind, Option.bind_some]
      split <;> rfl

theorem resolveNode_isSome {ids : Finset String}
    (hids : ∀ protocol, ∀ c ∈ groupChildProfileItems crates env protocol, c.indexId ∈ ids)
    {fuel : ℕ} (hfuel : ids.card < fuel) (context : CoreConfigContext) (node : ProfileItem) :
    (resolveNode crates env fuel context node).isSome = true := by
  unfold resolveNode registerNode registerGroupNode
  split
  · rfl
  · rw [Option.isSome_map]
    split
    · rw [Option.isSome_map]
      apply traverseGroupNode_isSome hids
      exact lt_of_le_of_lt (Finset.card_le_card Finset.sdiff_subset) hfuel
    · rfl

theorem build_isSome {ids : Finset String}
    (hids : ∀ protocol, ∀ c ∈ groupChildProfileItems crates env protocol, c.indexId ∈ ids)
    {fuel : ℕ} (hfuel : ids.card < fuel) (config : Config) (node : ProfileItem) :
    (build crates env fuel config node).isSome = true := by
  obtain ⟨out, hout⟩ := Option.isSome_iff_exists.mp
    (resolveNode_isSome hids hfuel (initialContext env config node) node)
  unfold build resolveRuleOutbounds
  rw [hout]
  simp only [Option.bind_eq_bind, Option.bind_some]
  split
  · rfl
  split
  · rfl
  apply foldlM_isSome
  intro r item _
  unfold resolveRuleOutbound
  split
  · rfl
  split
  · rfl
  · rename_i node _
    obtain ⟨out, hout⟩ := Option.isSome_iff_exists.mp
      (resolveNode_isSome hids hfuel r.context node)
    rw [hout]
    simp only [Option.bind_eq_bind, Option.bind_some]
    split <;> rfl

end Builder

section Generator

variable {crates : Crates} {context : CoreConfigContext}

theorem buildChild_extends {buildGroup buildGroup' : BuildGroup}
    (h : ∀ node tag servers, buildGroup node tag = some servers →
      buildGroup' node tag = some servers)
    {node : ProfileItem} {tag : String} {servers : List SingboxServer}
    (run : buildChild crates buildGroup context node tag = some servers) :
    buildChild crates buildGroup' context node tag = some servers := by
  unfold buildChild at run ⊢
  by_cases hG : node.configType.isGroupType = true
  · rw [if_pos hG] at run ⊢
    exact h _ _ _ run
  · rwa [if_neg hG] at run ⊢

theorem buildMembers_extends {buildGroup buildGroup' : BuildGroup}
    (h : ∀ node tag servers, buildGroup node tag = some servers →
      buildGroup' node tag = some servers)
    {baseTagName : String} {single : Bool} {index : ℕ} {nodes : List ProfileItem}
    {servers : List SingboxServer}
    (run : buildMembers crates buildGroup context baseTagName single index nodes = some servers) :
    buildMembers crates buildGroup' context baseTagName single index nodes = some servers := by
  induction nodes generalizing index servers with
  | nil => exact run
  | cons child rest ih =>
    rw [buildMembers] at run ⊢
    obtain ⟨first, hfirst, run⟩ := Option.bind_eq_some_iff.mp run
    obtain ⟨later, hlater, run⟩ := Option.map_eq_some_iff.mp run
    rw [buildChild_extends h hfirst, ih hlater]
    simpa using run

theorem buildHops_extends {buildGroup buildGroup' : BuildGroup}
    (h : ∀ node tag servers, buildGroup node tag = some servers →
      buildGroup' node tag = some servers)
    {baseTagName : String} {index : ℕ} {nodes : List ProfileItem}
    {result servers : List SingboxServer}
    (run : buildHops crates buildGroup context baseTagName index nodes result = some servers) :
    buildHops crates buildGroup' context baseTagName index nodes result = some servers := by
  induction nodes generalizing index result with
  | nil => exact run
  | cons child rest ih =>
    rw [buildHops] at run ⊢
    by_cases hG : child.configType.isGroupType = true
    · simp only [if_pos hG] at run ⊢
      obtain ⟨profiles, hprofiles, run⟩ := Option.bind_eq_some_iff.mp run
      rw [h _ _ _ hprofiles]
      exact ih run
    · simp only [if_neg hG] at run ⊢
      cases hserver : buildProxyServer crates context child
          (if index = 0 then baseTagName else hopTag baseTagName index child.remarks) with
      | none =>
        simp only [hserver] at run ⊢
        exact ih run
      | some outbound =>
        simp only [hserver] at run ⊢
        exact ih run

theorem buildGroupProxyServers_succ (fuel : ℕ) (node : ProfileItem) (tag : String)
    (servers : List SingboxServer)
    (h : buildGroupProxyServers crates context fuel node tag = some servers) :
    buildGroupProxyServers crates context (fuel + 1) node tag = some servers := by
  induction fuel generalizing node tag servers with
  | zero => cases h
  | succ fuel ih =>
    rw [buildGroupProxyServers] at h ⊢
    split at h
    · exact buildMembers_extends ih h
    · exact buildHops_extends ih h
    · exact h

theorem buildAllProxyServers_succ (node : ProfileItem) (tag : String) (withSelector : Bool)
    (fuel : ℕ) (servers : List SingboxServer)
    (h : buildAllProxyServers crates fuel context node tag withSelector = some servers) :
    buildAllProxyServers crates (fuel + 1) context node tag withSelector = some servers := by
  obtain ⟨proxies, hproxies, hout⟩ := Option.map_eq_some_iff.mp h
  unfold buildAllProxyServers
  rw [buildChild_extends (buildGroupProxyServers_succ fuel) hproxies, Option.map_some, hout]

theorem buildChild_isSome {buildGroup : BuildGroup} (node : ProfileItem) (tag : String)
    (h : node.configType.isGroupType = true → (buildGroup node tag).isSome = true) :
    (buildChild crates buildGroup context node tag).isSome = true := by
  unfold buildChild
  by_cases hG : node.configType.isGroupType = true
  · rw [if_pos hG]
    exact h hG
  · rw [if_neg hG]
    rfl

theorem buildMembers_isSome {buildGroup : BuildGroup} {baseTagName : String} {single : Bool}
    {index : ℕ} {nodes : List ProfileItem}
    (h : ∀ child ∈ nodes, child.configType.isGroupType = true →
      ∀ tag, (buildGroup child tag).isSome = true) :
    (buildMembers crates buildGroup context baseTagName single index nodes).isSome = true := by
  induction nodes generalizing index with
  | nil => rfl
  | cons child rest ih =>
    obtain ⟨later, hlater⟩ := Option.isSome_iff_exists.mp
      (@ih (index + 1) fun c hc => h c (List.mem_cons_of_mem _ hc))
    let currentTag :=
      if single then baseTagName else memberTag baseTagName (index + 1) child.remarks
    have hchild : (buildChild crates buildGroup context child currentTag).isSome = true :=
      buildChild_isSome child currentTag fun hG => h child List.mem_cons_self hG currentTag
    obtain ⟨servers, hservers⟩ := Option.isSome_iff_exists.mp hchild
    rw [buildMembers, hservers, Option.bind_some, hlater]
    rfl

theorem buildHops_isSome {buildGroup : BuildGroup} {baseTagName : String} {index : ℕ}
    {nodes : List ProfileItem} {result : List SingboxServer}
    (h : ∀ child ∈ nodes, child.configType.isGroupType = true →
      ∀ tag, (buildGroup child tag).isSome = true) :
    (buildHops crates buildGroup context baseTagName index nodes result).isSome = true := by
  induction nodes generalizing index result with
  | nil => rfl
  | cons child rest ih =>
    have hrest := fun c hc => h c (List.mem_cons_of_mem child hc)
    rw [buildHops]
    by_cases hG : child.configType.isGroupType = true
    · obtain ⟨servers, hservers⟩ := Option.isSome_iff_exists.mp (h child List.mem_cons_self hG
        (if index = 0 then baseTagName else hopTag baseTagName index child.remarks))
      simp only [if_pos hG, hservers]
      exact ih hrest
    · simp only [if_neg hG]
      split <;> exact ih hrest

/-- A child the generator descends into is a map entry under one of the listed ids. -/
theorem mem_buildableChildNodes {node child : ProfileItem}
    (h : child ∈ buildableChildNodes context node) :
    ∃ id ∈ node.protocol.childProfileIds, context.allProxiesMap[id]? = some child := by
  obtain ⟨hmem, _⟩ := List.mem_filter.mp h
  obtain ⟨id, hid, hentry⟩ := List.mem_filterMap.mp hmem
  exact ⟨id, List.mem_eraseDups.mp hid, hentry⟩

theorem child_returns_of_members {buildGroup : BuildGroup} {baseTagName : String} {single : Bool}
    {index : ℕ} {nodes : List ProfileItem}
    (h : (buildMembers crates buildGroup context baseTagName single index nodes).isSome = true) :
    ∀ child ∈ nodes, child.configType.isGroupType = true →
      ∃ tag, (buildGroup child tag).isSome = true := by
  induction nodes generalizing index with
  | nil => exact fun child hchild => by cases hchild
  | cons first rest ih =>
    obtain ⟨servers, hservers⟩ := Option.isSome_iff_exists.mp h
    rw [buildMembers] at hservers
    obtain ⟨head, hhead, hservers⟩ := Option.bind_eq_some_iff.mp hservers
    obtain ⟨later, hlater, _⟩ := Option.map_eq_some_iff.mp hservers
    intro child hchild hG
    rcases List.mem_cons.mp hchild with rfl | hchild
    · rw [buildChild, if_pos hG] at hhead
      exact ⟨_, Option.isSome_of_eq_some hhead⟩
    · exact ih (Option.isSome_of_eq_some hlater) child hchild hG

theorem child_returns_of_hops {buildGroup : BuildGroup} {baseTagName : String} {index : ℕ}
    {nodes : List ProfileItem} {result : List SingboxServer}
    (h : (buildHops crates buildGroup context baseTagName index nodes result).isSome = true) :
    ∀ child ∈ nodes, child.configType.isGroupType = true →
      ∃ tag, (buildGroup child tag).isSome = true := by
  induction nodes generalizing index result with
  | nil => exact fun child hchild => by cases hchild
  | cons first rest ih =>
    intro child hchild hG
    rw [buildHops] at h
    by_cases hfirst : first.configType.isGroupType = true
    · simp only [if_pos hfirst] at h
      obtain ⟨servers, hservers⟩ := Option.isSome_iff_exists.mp h
      obtain ⟨profiles, hprofiles, hservers⟩ := Option.bind_eq_some_iff.mp hservers
      rcases List.mem_cons.mp hchild with rfl | hchild
      · exact ⟨_, Option.isSome_of_eq_some hprofiles⟩
      · exact ih (Option.isSome_of_eq_some hservers) child hchild hG
    · simp only [if_neg hfirst] at h
      have hrest : child ∈ rest := by
        rcases List.mem_cons.mp hchild with rfl | hchild
        · exact absurd hG hfirst
        · exact hchild
      split at h
      · exact ih h child hrest hG
      · exact ih h child hrest hG

end Generator

section Descent

open Relation

variable {crates : Crates} {context : CoreConfigContext}

/-- The generator goes from a group into a group among its members. -/
def LeadsInto (context : CoreConfigContext) (group member : ProfileItem) : Prop :=
  member ∈ buildableChildNodes context group ∧ member.configType.isGroupType = true

theorem finite_members : {member | ∃ group, LeadsInto context group member}.Finite := by
  apply (List.finite_toSet (context.allProxiesMap.toList.map (·.2))).subset
  rintro member ⟨group, hmember, _⟩
  obtain ⟨id, _, hentry⟩ := mem_buildableChildNodes hmember
  exact List.mem_map.mpr ⟨(id, member), Std.ExtTreeMap.mem_toList_iff_getElem?_eq_some.mpr
    hentry, rfl⟩

theorem buildableChildNodes_of_single {node : ProfileItem}
    (h : node.configType.isGroupType = false) : buildableChildNodes context node = [] := by
  rw [buildableChildNodes, childNodes, childProfileIds_of_single h]
  rfl

theorem descends_of_returns (fuel : ℕ) (node : ProfileItem) (tag : String)
    (h : (buildGroupProxyServers crates context fuel node tag).isSome = true) :
    Acc (fun member group => LeadsInto context group member) node := by
  induction fuel generalizing node tag with
  | zero => cases h
  | succ fuel ih =>
    constructor
    rintro member ⟨hmember, hG⟩
    have hreturns : ∃ tag,
        (buildGroupProxyServers crates context fuel member tag).isSome = true := by
      rw [buildGroupProxyServers] at h
      split at h
      · exact child_returns_of_members h member hmember hG
      · exact child_returns_of_hops h member (List.mem_reverse.mpr hmember) hG
      · rename_i hpolicy hchain
        have hsingle : node.configType.isGroupType = false := by
          cases hnode : node.configType <;> first | rfl | contradiction
        rw [buildableChildNodes_of_single hsingle] at hmember
        cases hmember
    obtain ⟨tag, hreturns⟩ := hreturns
    exact ih member tag hreturns

/-- Where the descent ends the calls return, under every tag with the same fuel. -/
theorem returns_of_descends {node : ProfileItem}
    (h : Acc (fun member group => LeadsInto context group member) node) :
    ∃ fuel, ∀ tag, (buildGroupProxyServers crates context fuel node tag).isSome = true := by
  induction h with
  | intro node _ ih =>
    have hmembers : ∀ member ∈ (buildableChildNodes context node).filter
        (·.configType.isGroupType), ∃ fuel, ∀ tag,
          (buildGroupProxyServers crates context fuel member tag).isSome = true := by
      intro member hmember
      obtain ⟨hmem, hG⟩ := List.mem_filter.mp hmember
      exact ih member ⟨hmem, hG⟩
    have hmono : ∀ member fuel,
        (∀ tag, (buildGroupProxyServers crates context fuel member tag).isSome = true) →
          ∀ tag, (buildGroupProxyServers crates context (fuel + 1) member tag).isSome = true := by
      intro member fuel hfuel tag
      obtain ⟨servers, hservers⟩ := Option.isSome_iff_exists.mp (hfuel tag)
      exact Option.isSome_of_eq_some (buildGroupProxyServers_succ fuel member tag servers hservers)
    obtain ⟨fuel, hfuel⟩ := common_fuel hmono hmembers
    have hchildren : ∀ child ∈ buildableChildNodes context node,
        child.configType.isGroupType = true →
          ∀ tag, (buildGroupProxyServers crates context fuel child tag).isSome = true :=
      fun child hchild hG => hfuel child (List.mem_filter.mpr ⟨hchild, hG⟩)
    refine ⟨fuel + 1, fun tag => ?_⟩
    rw [buildGroupProxyServers]
    split
    · exact buildMembers_isSome hchildren
    · exact buildHops_isSome fun child hchild => hchildren child (List.mem_reverse.mp hchild)
    · rfl

theorem buildAllProxyServers_returns_iff (node : ProfileItem) (tag : String)
    (withSelector : Bool) :
    (Returns fun fuel => buildAllProxyServers crates fuel context node tag withSelector) ↔
      Acc (fun member group => LeadsInto context group member) node := by
  by_cases hG : node.configType.isGroupType = true
  · constructor
    · rintro ⟨servers, bound, hrun⟩
      obtain ⟨proxies, hproxies, _⟩ := Option.map_eq_some_iff.mp (hrun bound le_rfl)
      rw [buildChild, if_pos hG] at hproxies
      exact descends_of_returns bound node tag (Option.isSome_of_eq_some hproxies)
    · intro h
      obtain ⟨fuel, hfuel⟩ := @returns_of_descends crates context node h
      apply Returns.of_isSome (buildAllProxyServers_succ node tag withSelector)
      rw [buildAllProxyServers, Option.isSome_map]
      exact buildChild_isSome node tag fun _ => hfuel tag
  · have hsingle : node.configType.isGroupType = false := by simpa using hG
    apply iff_of_true
    · apply @Returns.of_isSome _ _ (buildAllProxyServers_succ node tag withSelector) 0
      rw [buildAllProxyServers, Option.isSome_map]
      exact buildChild_isSome node tag fun hgroup => absurd hgroup hG
    · constructor
      rintro member ⟨hmember, _⟩
      rw [buildableChildNodes_of_single hsingle] at hmember
      cases hmember

/-- A step that follows an id with the prefix kept for rule outbounds. -/
def ReservedStep (context : CoreConfigContext) (group member : ProfileItem) : Prop :=
  LeadsInto context group member ∧ ∃ id ∈ group.protocol.childProfileIds,
    isReserved id = true ∧ context.allProxiesMap[id]? = some member

def PlainStep (context : CoreConfigContext) (group member : ProfileItem) : Prop :=
  ∃ id ∈ group.protocol.childProfileIds,
    isReserved id = false ∧ context.allProxiesMap[id]? = some member

theorem step_kinds (group member : ProfileItem) (h : LeadsInto context group member) :
    PlainStep context group member ∨ ReservedStep context group member := by
  obtain ⟨id, hid, hentry⟩ := mem_buildableChildNodes h.1
  cases hreserved : isReserved id with
  | true => exact Or.inr ⟨h, id, hid, hreserved, hentry⟩
  | false => exact Or.inl ⟨id, hid, hreserved, hentry⟩

theorem plain_path_rank {rank : String → ℕ}
    (hrank : Descends (memberIds context.allProxiesMap) rank) {a b : ProfileItem}
    (path : TransGen (PlainStep context) a b) :
    ∃ first ∈ a.protocol.childProfileIds, ∃ last, isReserved last = false ∧
      context.allProxiesMap[last]? = some b ∧ rank last ≤ rank first := by
  induction path with
  | single edge =>
    obtain ⟨id, hid, hplain, hentry⟩ := edge
    exact ⟨id, hid, id, hplain, hentry, le_rfl⟩
  | tail _ edge ih =>
    obtain ⟨first, hfirst, last, hplain, hentry, hle⟩ := ih
    obtain ⟨id, hid, hplainId, hentryId⟩ := edge
    rw [← memberIds_of_entry hplain hentry] at hid
    have hlt := hrank last id hid
    exact ⟨first, hfirst, id, hplainId, hentryId, by omega⟩

theorem no_plain_cycle (hm : WellResolved context.allProxiesMap) (a : ProfileItem) :
    ¬ TransGen (PlainStep context) a a := by
  intro cycle
  obtain ⟨rank, hrank⟩ := hm.ranked
  obtain ⟨first, hfirst, last, hplain, hentry, hle⟩ := plain_path_rank hrank cycle
  rw [← memberIds_of_entry hplain hentry] at hfirst
  have hlt := hrank last first hfirst
  omega

/-- The generator comes from the profile to a group that lists an id with the prefix kept for rule
outbounds, and from what stands there back to the group. -/
def ReservedCycle (context : CoreConfigContext) (start : ProfileItem) : Prop :=
  ∃ group member, ReflTransGen (LeadsInto context) start group ∧
    ReservedStep context group member ∧ ReflTransGen (LeadsInto context) member group

theorem descends_iff (hm : WellResolved context.allProxiesMap) (start : ProfileItem) :
    Acc (fun member group => LeadsInto context group member) start ↔
      ¬ReservedCycle context start := by
  constructor
  · rintro h ⟨group, member, hreach, hstep, hback⟩
    exact no_cycle_of_acc h hreach (TransGen.head' hstep.1 hback)
  · intro h
    apply acc_of_no_cycle finite_members
    intro group hreach cycle
    rcases kind_of_path step_kinds cycle with hplain | ⟨c, d, hfirst, hstep, hlast⟩
    · exact no_plain_cycle hm group hplain
    · exact h ⟨c, d, hreach.trans hfirst, hstep, hlast.trans hfirst⟩

/-- The ids a profile lists do not use the prefix kept for rule outbounds. -/
def ListsPlainIds (node : ProfileItem) : Prop :=
  ∀ c ∈ node.protocol.childProfileIds, isReserved c = false

def PlainEntries (m : ProxiesMap) : Prop :=
  ∀ key : String, ∀ entry : ProfileItem, m[key]? = some entry → ListsPlainIds entry

theorem no_reservedCycle_of_plain (hplain : PlainEntries context.allProxiesMap)
    {start : ProfileItem} (hstart : ListsPlainIds start) : ¬ReservedCycle context start := by
  rintro ⟨group, member, hreach, ⟨_, id, hid, hreserved, _⟩, _⟩
  have hgroup : ListsPlainIds group := by
    rcases ReflTransGen.cases_tail hreach with rfl | ⟨before, _, hmember, _⟩
    · exact hstart
    · obtain ⟨key, _, hentry⟩ := mem_buildableChildNodes hmember
      exact hplain key group hentry
  rw [hgroup id hid] at hreserved
  cases hreserved

end Descent

section PlainEntries

variable {crates : Crates} {env : CoreGenEnv}

theorem PlainEntries.insert {m : ProxiesMap} (h : PlainEntries m) (key : String)
    {node : ProfileItem} (hids : ListsPlainIds node) : PlainEntries (m.insert key node) := by
  intro k entry hentry
  by_cases hk : k = key
  · rw [hk, getElem?_insert_self] at hentry
    cases hentry
    exact hids
  · rw [getElem?_insert_ne hk] at hentry
    exact h k entry hentry

theorem listsPlainIds_of_single {node : ProfileItem}
    (hG : node.configType.isGroupType = false) : ListsPlainIds node := by
  intro c hc
  rw [childProfileIds_of_single hG] at hc
  cases hc

theorem mem_pushUnique {cs : ChildIndex} {id c : String} (h : c ∈ (cs.pushUnique id).ids) :
    c ∈ cs.ids ∨ c = id := by
  unfold ChildIndex.pushUnique at h
  split at h
  · exact Or.inl h
  · simpa using h

/-- Stored lists hold ids of profiles the environment returned. -/
def plainRule (crates : Crates) (env : CoreGenEnv)
    (hids : ∀ protocol, ∀ c ∈ groupChildProfileItems crates env protocol,
      isReserved c.indexId = false) : TraversalRule crates env where
  Pre _ node t := node.configType.isGroupType = true ∧ PlainEntries t.context.allProxiesMap
  Loop _ node _ _ t cs := node.configType.isGroupType = true ∧
    PlainEntries t.context.allProxiesMap ∧ ∀ c ∈ cs.ids, isReserved c = false
  Post _ _ _ t _ := PlainEntries t.context.allProxiesMap
  enter := fun ⟨hG, hm⟩ => ⟨hG, hm, fun c hc => by cases hc⟩
  pruned _ loop _ := loop
  visited hmem := fun ⟨hG, hm, hcs⟩ _ _ => by
    refine ⟨hG, hm, fun d hd => ?_⟩
    rcases mem_pushUnique hd with hd | rfl
    · exact hcs d hd
    · exact hids _ _ hmem
  invalid _ loop _ _ _ _ := loop
  single hmem := fun ⟨hG, hm, hcs⟩ _ _ hS hv => by
    refine ⟨hG, ?_, fun d hd => ?_⟩
    · rw [registered, registerSingle_proxies _ hS hv]
      exact hm.insert _ (listsPlainIds_of_single hS)
    · rcases mem_pushUnique hd with hd | rfl
      · exact hcs d hd
      · exact hids _ _ hmem
  enterGroup _ := fun ⟨_, hm, _⟩ _ _ hG => ⟨hG, hm⟩
  hollow _ := fun ⟨hG, _, hcs⟩ _ _ _ post => ⟨hG, post, hcs⟩
  group hmem := fun ⟨hG, _, hcs⟩ _ _ _ post => by
    refine ⟨hG, post, fun d hd => ?_⟩
    rcases mem_pushUnique hd with hd | rfl
    · exact hcs d hd
    · exact hids _ _ hmem
  failed := fun ⟨_, hm, _⟩ _ => hm
  finished {A node t₀ t cs} := fun ⟨hG, hm, hcs⟩ _ => by
    apply hm.insert
    intro c hc
    have hlist : (resolvedNode node cs.ids).protocol.childProfileIds = cs.ids :=
      childProfileIds_replace hG cs.ids
    rw [hlist] at hc
    exact hcs c hc

def plainBuildRule (crates : Crates) (env : CoreGenEnv) (active : ProfileItem)
    (hids : ∀ protocol, ∀ c ∈ groupChildProfileItems crates env protocol,
      isReserved c.indexId = false)
    (hremarks : ∀ tag node, env.getProfileByRemarks tag = some node → ListsPlainIds node) :
    BuildRule crates env active where
  Inv := PlainEntries
  start := by
    intro key entry hentry
    simp at hentry
  register {fuel} _ _ _ _ _ hm h := by
    rcases registerNode_cases h with ⟨hG, t, rfl, ht⟩ | ⟨_, _, rfl, _⟩ | ⟨hG, _, hmap, _⟩
    · exact (plainRule crates env hids).run fuel ⟨hG, hm⟩ ht
    · exact hm
    · rw [hmap]
      exact hm.insert _ (listsPlainIds_of_single hG)
  remark hm hnode := hm.insert _ (hremarks _ _ hnode)

end PlainEntries

theorem mem_profiles_of_child {crates : Crates} {e : SnapshotCoreGenEnv}
    {protocol : ProfileProtocol} {c : ProfileItem}
    (h : c ∈ groupChildProfileItems crates e.env protocol) : c ∈ e.profiles := by
  rcases List.mem_append.mp h with h | h
  · unfold subChildProfileItems at h
    split at h
    · exact (List.mem_filter.mp (List.mem_filter.mp h).1).1
    · cases h
  · unfold selectedChildProfileItems at h
    dsimp only at h
    split at h
    · cases h
    · obtain ⟨id, _, hid⟩ := List.mem_filterMap.mp h
      exact List.mem_of_find?_eq_some hid

/-- The profiles the generator starts from: the active one and the entries of rule outbounds. -/
def StartsFrom (context : CoreConfigContext) (node : ProfileItem) : Prop :=
  node = context.node ∨
    ∃ outboundTag, context.allProxiesMap[remarkKey outboundTag]? = some node

/-- A build over stored profiles returns; from its context the generator returns everywhere exactly
when no cycle of groups passes through the key of a rule outbound, as it does not where the stored
lists leave such keys alone. -/
theorem build_generator_returns_iff (crates : Crates) (e : SnapshotCoreGenEnv) (config : Config)
    (active : ProfileItem) (hstore : ∀ p ∈ e.profiles, isReserved p.indexId = false) :
    (Returns fun fuel => build crates e.env fuel config active) ∧
      ∀ fuel r, build crates e.env fuel config active = some r →
        ((∀ node, StartsFrom r.context node → ∀ tag withSelector,
            Returns fun fuel =>
              buildAllProxyServers crates fuel r.context node tag withSelector) ↔
          ∀ node, StartsFrom r.context node → ¬ReservedCycle r.context node) ∧
        ((∀ p ∈ e.profiles, ListsPlainIds p) → ListsPlainIds active →
          ∀ node, StartsFrom r.context node → ¬ReservedCycle r.context node) := by
  constructor
  · let ids := (e.profiles.map (·.indexId)).toFinset
    have hmem : ∀ protocol, ∀ c ∈ groupChildProfileItems crates e.env protocol,
        c.indexId ∈ ids := by
      intro protocol c hc
      exact List.mem_toFinset.mpr (List.mem_map_of_mem (mem_profiles_of_child hc))
    exact Returns.of_isSome (build_succ config active)
      (build_isSome hmem (Nat.lt_succ_self ids.card) config active)
  intro fuel r h
  have hm : WellResolved r.context.allProxiesMap := (wellResolvedRule crates e.env active).run h
  constructor
  · constructor
    · intro hreturns node hnode
      rw [← descends_iff hm, ← @buildAllProxyServers_returns_iff crates _ node "" true]
      exact hreturns node hnode "" true
    · intro hcycle node hnode tag withSelector
      rw [buildAllProxyServers_returns_iff, descends_iff hm]
      exact hcycle node hnode
  · intro hlists hactive node hnode
    have hids : ∀ protocol, ∀ c ∈ groupChildProfileItems crates e.env protocol,
        isReserved c.indexId = false :=
      fun _ c hc => hstore c (mem_profiles_of_child hc)
    have hremarks : ∀ tag node, e.env.getProfileByRemarks tag = some node → ListsPlainIds node :=
      fun _ node hnode => hlists node (List.mem_of_find?_eq_some hnode)
    have hplain : PlainEntries r.context.allProxiesMap :=
      (plainBuildRule crates e.env active hids hremarks).run h
    apply no_reservedCycle_of_plain hplain
    rcases hnode with rfl | ⟨outboundTag, hentry⟩
    · rw [build_node h]
      exact hactive
    · exact hplain _ node hentry

/-- Two groups that list each other and themselves, one of them a rule outbound. -/
theorem build_generator_returns_iff_mutual :
    ∃ r, build exampleCrates mutualGroups.env 3 {} (exampleGroup "g" ["h", "s"]) = some r ∧
      ((∀ node, StartsFrom r.context node → ∀ tag withSelector,
          Returns fun fuel =>
            buildAllProxyServers exampleCrates fuel r.context node tag withSelector) ↔
        ∀ node, StartsFrom r.context node → ¬ReservedCycle r.context node) ∧
      ∀ node, StartsFrom r.context node → ¬ReservedCycle r.context node := by
  have hprofiles : ∀ p ∈ mutualGroups.profiles,
      isReserved p.indexId = false ∧ ListsPlainIds p := by
    intro p hp
    simp only [mutualGroups, exampleStore, List.mem_cons, List.not_mem_nil, or_false] at hp
    rcases hp with rfl | rfl | rfl <;> unfold ListsPlainIds <;> decide
  have hactive : ListsPlainIds (exampleGroup "g" ["h", "s"]) := by
    unfold ListsPlainIds
    decide
  have hsome : (build exampleCrates mutualGroups.env 3 {}
      (exampleGroup "g" ["h", "s"])).isSome = true := by decide
  obtain ⟨r, hr⟩ := Option.isSome_iff_exists.mp hsome
  obtain ⟨hiff, hplain⟩ := (build_generator_returns_iff exampleCrates mutualGroups {}
    (exampleGroup "g" ["h", "s"]) fun p hp => (hprofiles p hp).1).2 3 r hr
  exact ⟨r, hr, hiff, hplain (fun p hp => (hprofiles p hp).2) hactive⟩

/-- A group of the remarks G that lists the key under which a rule for G keeps it. -/
def loopedGroup : ProfileItem := { exampleGroup "g" ["remark:G", "s"] with remarks := "G" }

def loopedStore : SnapshotCoreGenEnv :=
  exampleStore [exampleSocks "a", exampleSocks "s", loopedGroup] [{ outboundTag := some "G" }]

/-- With stored ids that leave the prefix alone the generator has no result for the entry of the
rule, whatever the fuel. -/
theorem build_generator_loops :
    (∀ p ∈ loopedStore.profiles, isReserved p.indexId = false) ∧
      ∃ r, build exampleCrates loopedStore.env 3 {} (exampleSocks "a") = some r ∧
        StartsFrom r.context loopedGroup ∧ ∀ fuel,
          buildAllProxyServers exampleCrates fuel r.context loopedGroup "proxy" true = none := by
  refine ⟨by decide, ?_⟩
  have hbuild : ∃ r, build exampleCrates loopedStore.env 3 {} (exampleSocks "a") = some r ∧
      r.context.allProxiesMap[remarkKey "G"]? = some loopedGroup ∧
        buildableChildNodes r.context loopedGroup = [loopedGroup, exampleSocks "s"] :=
    ⟨_, rfl, rfl, rfl⟩
  obtain ⟨r, hr, hentry, hmembers⟩ := hbuild
  refine ⟨r, hr, Or.inr ⟨"G", hentry⟩, fun fuel => ?_⟩
  by_contra hsome
  have hloop : LeadsInto r.context loopedGroup loopedGroup := by
    constructor
    · rw [hmembers]
      exact List.mem_cons_self
    · rfl
  obtain ⟨servers, hservers⟩ := Option.ne_none_iff_exists'.mp hsome
  obtain ⟨proxies, hproxies, _⟩ := Option.map_eq_some_iff.mp hservers
  exact no_cycle_of_acc
    (descends_of_returns fuel loopedGroup "proxy" (Option.isSome_of_eq_some hproxies))
    Relation.ReflTransGen.refl (Relation.TransGen.single hloop)

end GeneratorTermination
