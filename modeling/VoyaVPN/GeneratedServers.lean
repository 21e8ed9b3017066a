import VoyaVPN.GeneratorTermination

/-! Which profiles the generator builds servers for: those from which it reaches, through
groups and their buildable members, a profile it has a server for. -/
namespace GeneratedServers

open Entities AppConfig RustText ContextBuilder ProtocolCommon SingboxSchema SingboxSupport
open SingboxLeaf SingboxOutbounds GeneratorTermination FuelRun

inductive BuildsServer (context : CoreConfigContext) : ProfileItem → Prop where
  | leaf {node : ProfileItem} : node.configType.isGroupType = false →
      singboxCanBuildLeaf node = true → BuildsServer context node
  | member {node child : ProfileItem} : node.configType.isGroupType = true →
      child ∈ buildableChildNodes context node → BuildsServer context child →
      BuildsServer context node

section Nonempty

variable {crates : Crates} {context : CoreConfigContext}

theorem groupType_cases {type : ConfigType} (h : type.isGroupType = true) :
    type = .policyGroup ∨ type = .proxyChain := by
  cases type with
  | policyGroup => exact Or.inl rfl
  | proxyChain => exact Or.inr rfl
  | _ => cases h

theorem buildsServer_group {node : ProfileItem} (hG : node.configType.isGroupType = true) :
    BuildsServer context node ↔
      ∃ child ∈ buildableChildNodes context node, BuildsServer context child := by
  constructor
  · intro h
    cases h with
    | leaf hsingle _ =>
      rw [hG] at hsingle
      cases hsingle
    | member _ hchild hbuilds => exact ⟨_, hchild, hbuilds⟩
  · rintro ⟨child, hchild, hbuilds⟩
    exact .member hG hchild hbuilds

theorem buildsServer_single {node : ProfileItem} (hG : node.configType.isGroupType = false) :
    BuildsServer context node ↔ singboxCanBuildLeaf node = true := by
  constructor
  · intro h
    cases h with
    | leaf _ hleaf => exact hleaf
    | member hgroup _ _ =>
      rw [hG] at hgroup
      cases hgroup
  · exact .leaf hG

theorem buildWireguardEndpoint_isSome {node : ProfileItem}
    (h : node.configType = .wireGuard) :
    (buildWireguardEndpoint node).isSome = (wireguardPublicKey node.protocol).isSome := by
  unfold buildWireguardEndpoint
  unfold ProfileItem.configType at h
  cases hprotocol : node.protocol <;> rw [hprotocol] at h <;> cases h
  rw [Option.isSome_map]

/-- A single profile the core supports has a server exactly when it can be built. -/
theorem buildProxyServer_isSome {node : ProfileItem} (tag : String)
    (h : singboxSupportsConfigType node.configType = true) :
    (buildProxyServer crates context node tag).isSome = singboxCanBuildLeaf node := by
  unfold buildProxyServer singboxCanBuildLeaf
  by_cases hwireguard : node.configType = .wireGuard
  · rw [if_pos hwireguard, Option.isSome_map, buildWireguardEndpoint_isSome hwireguard, h,
      hwireguard]
    simp
  · rw [if_neg hwireguard, h]
    simp [hwireguard]

theorem linkClone_length (currentTag startTag : String) (servers : List SingboxServer) :
    (linkClone currentTag startTag servers).length = servers.length := by
  induction servers with
  | nil => rfl
  | cons s rest ih => simp only [linkClone, List.length_cons, ih]

theorem relinkHops_ne_nil (currentTag : String) (result childProfiles : List SingboxServer) :
    relinkHops currentTag result childProfiles ≠ [] ↔ result ≠ [] := by
  unfold relinkHops
  split
  · exact Iff.rfl
  · rw [ne_eq, List.map_eq_nil_iff]
  · rename_i starts hone htwo
    rw [ne_eq, List.flatMap_eq_nil_iff]
    constructor
    · intro h hnil
      apply h
      intro start _
      rw [cloneBranch, hnil]
      rfl
    · intro hresult h
      obtain ⟨start, hstart⟩ := List.exists_mem_of_ne_nil _ (mt List.zipIdx_eq_nil_iff.mp hone)
      have hclone := congrArg List.length (h start hstart)
      rw [cloneBranch, linkClone_length, List.length_map, List.length_nil,
        List.length_eq_zero_iff] at hclone
      exact hresult hclone

variable {buildGroup : BuildGroup} {P : ProfileItem → Prop} {baseTagName : String}

theorem buildMembers_ne_nil {single : Bool} {index : ℕ} {nodes : List ProfileItem}
    {servers : List SingboxServer}
    (hP : ∀ child ∈ nodes, ∀ tag built, buildChild crates buildGroup context child tag =
      some built → (built ≠ [] ↔ P child))
    (h : buildMembers crates buildGroup context baseTagName single index nodes = some servers) :
    servers ≠ [] ↔ ∃ child ∈ nodes, P child := by
  induction nodes generalizing index servers with
  | nil =>
    cases h
    simp
  | cons child rest ih =>
    rw [buildMembers] at h
    obtain ⟨built, hbuilt, h⟩ := Option.bind_eq_some_iff.mp h
    obtain ⟨later, hlater, rfl⟩ := Option.map_eq_some_iff.mp h
    have hrest := ih (fun c hc => hP c (List.mem_cons_of_mem child hc)) hlater
    have hchild := hP child List.mem_cons_self _ built hbuilt
    rw [ne_eq, List.append_eq_nil_iff, not_and_or, List.exists_mem_cons_iff]
    exact or_congr hchild hrest

theorem buildHops_ne_nil {index : ℕ} {nodes : List ProfileItem}
    {result servers : List SingboxServer}
    (hP : ∀ child ∈ nodes, ∀ tag built, buildChild crates buildGroup context child tag =
      some built → (built ≠ [] ↔ P child))
    (h : buildHops crates buildGroup context baseTagName index nodes result = some servers) :
    servers ≠ [] ↔ result ≠ [] ∨ ∃ child ∈ nodes, P child := by
  induction nodes generalizing index result servers with
  | nil =>
    cases h
    simp
  | cons child rest ih =>
    have hrest := fun c hc => hP c (List.mem_cons_of_mem child hc)
    rw [buildHops] at h
    by_cases hG : child.configType.isGroupType = true
    · simp only [if_pos hG] at h
      obtain ⟨built, hbuilt, h⟩ := Option.bind_eq_some_iff.mp h
      have hchild := hP child List.mem_cons_self _ built (by rw [buildChild, if_pos hG, hbuilt])
      rw [ih hrest h, ne_eq, List.append_eq_nil_iff, not_and_or, List.map_eq_nil_iff,
        List.exists_mem_cons_iff, ← hchild, or_assoc]
      apply or_congr_left
      split
      · exact relinkHops_ne_nil _ _ _
      · exact Iff.rfl
    · simp only [if_neg hG] at h
      have hchild := fun tag => hP child List.mem_cons_self tag _
        (by rw [buildChild, if_neg hG])
      rw [List.exists_mem_cons_iff]
      split at h
      · rename_i hnone
        have hnot : ¬P child := by
          rw [← hchild (if index = 0 then baseTagName else hopTag baseTagName index child.remarks),
            hnone]
          simp
        rw [ih hrest h, or_iff_right hnot]
      · rename_i outbound hsome
        have hyes : P child := by
          rw [← hchild (if index = 0 then baseTagName else hopTag baseTagName index child.remarks),
            hsome]
          simp
        refine iff_of_true ((ih hrest h).mpr (Or.inl ?_)) (Or.inr (Or.inl hyes))
        simp

theorem buildChild_single_ne_nil {node : ProfileItem} {tag : String}
    {built : List SingboxServer} (hG : node.configType.isGroupType = false)
    (hsupported : singboxSupportsConfigType node.configType = true)
    (h : buildChild crates buildGroup context node tag = some built) :
    built ≠ [] ↔ BuildsServer context node := by
  rw [buildChild, if_neg (by simp [hG])] at h
  cases h
  rw [buildsServer_single hG, ← @buildProxyServer_isSome crates context node tag hsupported]
  cases buildProxyServer crates context node tag <;> simp

theorem buildGroupProxyServers_ne_nil {fuel : ℕ} {node : ProfileItem} {tag : String}
    {servers : List SingboxServer} (hG : node.configType.isGroupType = true)
    (h : buildGroupProxyServers crates context fuel node tag = some servers) :
    servers ≠ [] ↔ BuildsServer context node := by
  induction fuel generalizing node tag servers with
  | zero => cases h
  | succ fuel ih =>
    have hchildren : ∀ child ∈ buildableChildNodes context node, ∀ tag built,
        buildChild crates (buildGroupProxyServers crates context fuel) context child tag =
          some built → (built ≠ [] ↔ BuildsServer context child) := by
      intro child hchild tag built hbuilt
      by_cases hgroup : child.configType.isGroupType = true
      · rw [buildChild, if_pos hgroup] at hbuilt
        exact ih hgroup hbuilt
      · have hgroup : child.configType.isGroupType = false := by simpa using hgroup
        have hleaf := (List.mem_filter.mp hchild).2
        rw [hgroup, Bool.false_or, singboxCanBuildLeaf, Bool.and_eq_true] at hleaf
        exact buildChild_single_ne_nil hgroup hleaf.1 hbuilt
    rw [buildsServer_group hG]
    rw [buildGroupProxyServers] at h
    split at h
    · exact buildMembers_ne_nil hchildren h
    · have hhops := buildHops_ne_nil
        (fun child hchild => hchildren child (List.mem_reverse.mp hchild)) h
      simpa using hhops
    · rename_i hpolicy hchain
      rcases groupType_cases hG with htype | htype
      · exact (hpolicy htype).elim
      · exact (hchain htype).elim

theorem addSelector_ne_nil (node : ProfileItem) (tag : String) (withSelector : Bool)
    (servers : List SingboxServer) : addSelector node tag withSelector servers ≠ [] ↔
      servers ≠ [] := by
  unfold addSelector
  simp only
  split
  · rename_i hseveral
    refine iff_of_true (by simp [buildSelectorServers]) ?_
    rintro rfl
    rw [Bool.and_eq_true, decide_eq_true_eq] at hseveral
    have hnone : orderedProxyTags [] tag = [] := rfl
    rw [hnone, List.length_nil] at hseveral
    omega
  · exact Iff.rfl

/-- The generator gives a profile servers exactly when it reaches a leaf it can build. -/
theorem buildAllProxyServers_ne_nil {fuel : ℕ} {node : ProfileItem} {tag : String}
    {withSelector : Bool} {servers : List SingboxServer}
    (hsupported : (node.configType.isGroupType || singboxSupportsConfigType node.configType) =
      true)
    (h : buildAllProxyServers crates fuel context node tag withSelector = some servers) :
    servers ≠ [] ↔ BuildsServer context node := by
  obtain ⟨built, hbuilt, rfl⟩ := Option.map_eq_some_iff.mp h
  rw [addSelector_ne_nil]
  by_cases hG : node.configType.isGroupType = true
  · rw [buildChild, if_pos hG] at hbuilt
    exact buildGroupProxyServers_ne_nil hG hbuilt
  · have hG : node.configType.isGroupType = false := by simpa using hG
    rw [hG, Bool.false_or] at hsupported
    exact buildChild_single_ne_nil hG hsupported hbuilt

end Nonempty

/-- The servers the generator gives the profile, once it has fuel enough. -/
def Generated (crates : Crates) (context : CoreConfigContext) (node : ProfileItem) (tag : String)
    (servers : List SingboxServer) : Prop :=
  ∃ fuel, buildAllProxyServers crates fuel context node tag true = some servers

theorem Generated.unique {crates : Crates} {context : CoreConfigContext} {node : ProfileItem}
    {tag : String} {servers servers' : List SingboxServer}
    (h : Generated crates context node tag servers)
    (h' : Generated crates context node tag servers') : servers = servers' := by
  obtain ⟨fuel, h⟩ := h
  obtain ⟨fuel', h'⟩ := h'
  have hstep := @buildAllProxyServers_succ crates context node tag true
  have hmax := mono_of_succ hstep (Nat.le_max_left fuel fuel') h
  have hmax' := mono_of_succ hstep (Nat.le_max_right fuel fuel') h'
  exact Option.some.inj (hmax.symm.trans hmax')

end GeneratedServers
