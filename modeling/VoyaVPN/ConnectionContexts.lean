import VoyaVPN.GroupTraversal
import VoyaVPN.RuntimeService

/-! The contexts that a connection generates its configs from: that of the main core and, where
another core has to stand before it, that of this core. -/
namespace ConnectionContexts

open Entities AppConfig ContextBuilder GroupTraversal PlatformProcess RuntimeService Supervisor
open SingboxSchema (loopback)

section Contexts

structure CoreConfigContextBuilderAllResult where
  mainResult : CoreConfigContextBuilderResult
  preSocksResult : Option CoreConfigContextBuilderResult

namespace CoreConfigContextBuilderAllResult

def success (r : CoreConfigContextBuilderAllResult) : Bool :=
  r.mainResult.success && r.preSocksResult.all (·.success)

def combinedValidatorResult (r : CoreConfigContextBuilderAllResult) : NodeValidatorResult :=
  match r.preSocksResult with
  | none => r.mainResult.validatorResult
  | some pre =>
    { errors := r.mainResult.validatorResult.errors ++ pre.validatorResult.errors
      warnings := r.mainResult.validatorResult.warnings ++ pre.validatorResult.warnings }

end CoreConfigContextBuilderAllResult

def isNonWindows : CoreGenPlatform → Bool
  | .windows => false
  | .macOS | .linux => true

def mergeProtectDomains (target source : List String) : List String :=
  source.foldl pushDomainIfNeeded target

def socksProfile (port : Int) : ProfileItem where
  protocol := .socks ⟨loopback, port⟩ "" ""

/-- The server of the core before the main one, where there is to be one. -/
def preSocksItem (config : Config) (node : ProfileItem) (env : CoreGenEnv) : Option ProfileItem :=
  if node.configType ≠ .custom ∧ config.tunModeItem.enableTun ∧ isNonWindows env.platform then
    some (socksProfile (env.getLocalPort .socks))
  else
    let subscriptionPreSocksPort :=
      (node.subscriptionId.bind env.getSubscription).bind (·.preSocksPort)
    if node.configType = .custom ∧
        subscriptionPreSocksPort.any (fun port => 1 ≤ port ∧ port ≤ 65535) then
      some (socksProfile (subscriptionPreSocksPort.getD 0))
    else none

variable (crates : Crates) (env : CoreGenEnv) (fuel : Nat)

def buildPreSocksIfNeeded (nodeContext : CoreConfigContext) :
    Option (Option CoreConfigContextBuilderResult) :=
  match preSocksItem nodeContext.appConfig nodeContext.node env with
  | none => some none
  | some item =>
    (build crates env fuel nodeContext.appConfig item).map fun result =>
      some { result with
        context := { result.context with
          protectDomainList := mergeProtectDomains nodeContext.protectDomainList
            result.context.protectDomainList } }

/-- The main core leaves the tunnel to a core that stands before it. -/
def buildAll (config : Config) (node : ProfileItem) :
    Option CoreConfigContextBuilderAllResult := do
  let mainResult ← build crates env fuel config node
  if !mainResult.success then some ⟨mainResult, none⟩
  else
    match ← buildPreSocksIfNeeded crates env fuel mainResult.context with
    | none => some ⟨mainResult, none⟩
    | some preSocksResult =>
      some ⟨{ mainResult with
        context := { mainResult.context with
          isTunEnabled := false
          protectDomainList := mergeProtectDomains mainResult.context.protectDomainList
            preSocksResult.context.protectDomainList } }, some preSocksResult⟩

end Contexts

section Runtime

def coreGenPlatform : TargetOs → CoreGenPlatform
  | .windows => .windows
  | .macos => .macOS
  | .linux | .other => .linux

structure SnapshotCoreGenData where
  profiles : List ProfileItem
  routings : List RoutingItem
  subs : List SubItem

def loadRuntimeCoreGenEnv (data : SnapshotCoreGenData) (rulesetPaths : Std.ExtTreeMap String String)
    (config : Config) (targetOs : TargetOs) : SnapshotCoreGenEnv where
  localSocksPort := (config.inbound.head?.map (·.localPort)).getD defaultLocalPort
  platform := coreGenPlatform targetOs
  profiles := data.profiles
  routings := data.routings
  subs := data.subs
  singboxRulesetPaths := rulesetPaths

def shouldUseSingleNativeTunConfig (config : Config) (targetOs : TargetOs) : Bool :=
  config.tunModeItem.enableTun && (tunBackend targetOs).isNative

def runtimeConfigContexts (crates : Crates) (env : SnapshotCoreGenEnv) (fuel : Nat)
    (config : Config) (activeProfile : ProfileItem) (targetOs : TargetOs) :
    Option CoreConfigContextBuilderAllResult :=
  if shouldUseSingleNativeTunConfig config targetOs then
    (build crates env.env fuel config activeProfile).map fun mainResult => ⟨mainResult, none⟩
  else buildAll crates env.env fuel config activeProfile

/-- What `connect` goes on with, once it has read the stored rows and the active profile. -/
def connectContexts (crates : Crates) (env : SnapshotCoreGenEnv) (fuel : Nat) (config : Config)
    (activeProfile : ProfileItem) (targetOs : TargetOs) :
    Option (Except RuntimeError (RuntimeContexts CoreConfigContext)) :=
  (runtimeConfigContexts crates env fuel config activeProfile targetOs).map fun contexts =>
    if !contexts.success then
      let validation := contexts.combinedValidatorResult
      .error (.validation validation.errors validation.warnings)
    else
      .ok {
        activeProfileId := activeProfile.indexId
        main := contexts.mainResult.context
        pre := contexts.preSocksResult.map (·.context)
        tunEnabled := config.tunModeItem.enableTun }

def mainCarriesTun (env : SnapshotCoreGenEnv) (config : Config) (activeProfile : ProfileItem)
    (targetOs : TargetOs) : Bool :=
  config.tunModeItem.enableTun &&
    ((tunBackend targetOs).isNative || (preSocksItem config activeProfile env.env).isNone)

/-- On Linux it does so for a custom profile only, and then only where no other core is before it.
-/
theorem mainCarriesTun_iff (data : SnapshotCoreGenData)
    (rulesetPaths : Std.ExtTreeMap String String) (config : Config) (activeProfile : ProfileItem)
    (targetOs : TargetOs) :
    mainCarriesTun (loadRuntimeCoreGenEnv data rulesetPaths config targetOs) config activeProfile
        targetOs = true ↔
      config.tunModeItem.enableTun = true ∧
        (targetOs = .windows ∨ targetOs = .macos ∨ activeProfile.configType = .custom ∧
          preSocksItem config activeProfile
            (loadRuntimeCoreGenEnv data rulesetPaths config targetOs).env = none) := by
  rw [mainCarriesTun, Bool.and_eq_true, Bool.or_eq_true, Option.isNone_iff_eq_none]
  refine and_congr_right fun htun => ?_
  have hneeded : ¬(targetOs = .windows ∨ targetOs = .macos) → activeProfile.configType ≠ .custom →
      preSocksItem config activeProfile
        (loadRuntimeCoreGenEnv data rulesetPaths config targetOs).env ≠ none := by
    intro hos hcustom
    have hplatform : isNonWindows (loadRuntimeCoreGenEnv data rulesetPaths config
        targetOs).env.platform = true := by
      cases targetOs with
      | windows => exact absurd (Or.inl rfl) hos
      | macos => exact absurd (Or.inr rfl) hos
      | linux => rfl
      | other => rfl
    rw [preSocksItem, if_pos ⟨hcustom, htun, hplatform⟩]
    exact Option.some_ne_none _
  constructor
  · rintro (hnative | hnone)
    · cases targetOs with
      | windows => exact Or.inl rfl
      | macos => exact Or.inr (Or.inl rfl)
      | linux => cases hnative
      | other => cases hnative
    · by_cases hos : targetOs = .windows ∨ targetOs = .macos
      · exact hos.imp_right Or.inl
      · refine Or.inr (Or.inr ⟨?_, hnone⟩)
        by_contra hcustom
        exact hneeded hos hcustom hnone
  · rintro (rfl | rfl | ⟨_, hnone⟩)
    · exact Or.inl rfl
    · exact Or.inl rfl
    · exact Or.inr hnone

end Runtime

section Main

variable {crates : Crates} {fuel : Nat} {config : Config} {node : ProfileItem}

theorem buildPreSocksIfNeeded_isNone {env : CoreGenEnv} {nodeContext : CoreConfigContext}
    {pre : Option CoreConfigContextBuilderResult}
    (h : buildPreSocksIfNeeded crates env fuel nodeContext = some pre) :
    pre.isNone = (preSocksItem nodeContext.appConfig nodeContext.node env).isNone := by
  unfold buildPreSocksIfNeeded at h
  split at h
  · rename_i hitem
    cases h
    rw [hitem]
    rfl
  · rename_i item hitem
    obtain ⟨result, _, rfl⟩ := Option.map_eq_some_iff.mp h
    rw [hitem]
    rfl

/-- What is asked of the main context besides the domains that it protects. -/
structure MainContext (config : Config) (node : ProfileItem) (carriesTun : Bool)
    (context : CoreConfigContext) : Prop where
  appConfig : context.appConfig = config
  node : context.node = node
  isTunEnabled : context.isTunEnabled = carriesTun

theorem mainContext_build {env : CoreGenEnv} {r : CoreConfigContextBuilderResult}
    (h : build crates env fuel config node = some r) :
    MainContext config node config.tunModeItem.enableTun r.context := by
  refine ⟨?_, build_node h, ?_⟩
  · rw [build_settings h]
    rfl
  · rw [build_settings h]
    rfl

theorem mainContext_buildAll {env : CoreGenEnv} {contexts : CoreConfigContextBuilderAllResult}
    (h : buildAll crates env fuel config node = some contexts)
    (hsuccess : contexts.success = true) :
    MainContext config node (config.tunModeItem.enableTun && (preSocksItem config node env).isNone)
      contexts.mainResult.context := by
  obtain ⟨main, hmain, hrest⟩ := Option.bind_eq_some_iff.mp h
  obtain ⟨happ, hnode, htun⟩ := mainContext_build hmain
  dsimp only at hrest
  split at hrest
  · rename_i hfailed
    cases hrest
    rw [CoreConfigContextBuilderAllResult.success, Bool.and_eq_true] at hsuccess
    rw [hsuccess.1] at hfailed
    cases hfailed
  · obtain ⟨pre, hpre, hmerged⟩ := Option.bind_eq_some_iff.mp hrest
    have hnone := buildPreSocksIfNeeded_isNone hpre
    rw [happ, hnode] at hnone
    rw [← hnone]
    cases pre with
    | none =>
      cases hmerged
      exact ⟨happ, hnode, by rw [htun, Option.isNone_none, Bool.and_true]⟩
    | some pre =>
      cases hmerged
      exact ⟨happ, hnode, by rw [Option.isNone_some, Bool.and_false]⟩

theorem buildPreSocksIfNeeded_tun {env : CoreGenEnv} {nodeContext : CoreConfigContext}
    {pre : CoreConfigContextBuilderResult}
    (h : buildPreSocksIfNeeded crates env fuel nodeContext = some (some pre)) :
    pre.context.isTunEnabled = nodeContext.appConfig.tunModeItem.enableTun := by
  unfold buildPreSocksIfNeeded at h
  split at h
  · cases h
  · obtain ⟨result, hbuild, hmerged⟩ := Option.map_eq_some_iff.mp h
    cases hmerged
    exact (mainContext_build hbuild).isTunEnabled

theorem mainContext_runtime {env : SnapshotCoreGenEnv} {targetOs : TargetOs}
    {contexts : CoreConfigContextBuilderAllResult}
    (h : runtimeConfigContexts crates env fuel config node targetOs = some contexts)
    (hsuccess : contexts.success = true) :
    MainContext config node (mainCarriesTun env config node targetOs)
      contexts.mainResult.context := by
  unfold runtimeConfigContexts shouldUseSingleNativeTunConfig at h
  unfold mainCarriesTun
  split at h
  · rename_i hnative
    obtain ⟨main, hmain, rfl⟩ := Option.map_eq_some_iff.mp h
    rw [Bool.and_eq_true] at hnative
    have hcarried := mainContext_build hmain
    rw [hnative.1] at hcarried
    rw [hnative.1, hnative.2]
    exact hcarried
  · rename_i hnative
    have hall := mainContext_buildAll h hsuccess
    cases htun : config.tunModeItem.enableTun with
    | false =>
      rw [htun] at hall
      exact hall
    | true =>
      rw [htun, Bool.true_and, Bool.not_eq_true] at hnative
      rw [htun] at hall
      rw [hnative, Bool.false_or]
      exact hall

theorem connectContexts_ok {env : SnapshotCoreGenEnv} {targetOs : TargetOs}
    {contexts : RuntimeContexts CoreConfigContext}
    (h : connectContexts crates env fuel config node targetOs = some (.ok contexts)) :
    ∃ built, runtimeConfigContexts crates env fuel config node targetOs = some built ∧
      built.success = true ∧ contexts =
        { activeProfileId := node.indexId
          main := built.mainResult.context
          pre := built.preSocksResult.map (·.context)
          tunEnabled := config.tunModeItem.enableTun } := by
  obtain ⟨built, hbuilt, hchecked⟩ := Option.map_eq_some_iff.mp h
  split at hchecked
  · cases hchecked
  · rename_i hsuccess
    cases hchecked
    exact ⟨built, hbuilt, by simpa using hsuccess, rfl⟩

theorem mainContext_connect {env : SnapshotCoreGenEnv} {targetOs : TargetOs}
    {contexts : RuntimeContexts CoreConfigContext}
    (h : connectContexts crates env fuel config node targetOs = some (.ok contexts)) :
    MainContext config node (mainCarriesTun env config node targetOs) contexts.main := by
  obtain ⟨built, hbuilt, hsuccess, rfl⟩ := connectContexts_ok h
  exact mainContext_runtime hbuilt hsuccess

theorem carriedOnce_runtime {env : SnapshotCoreGenEnv} {targetOs : TargetOs}
    {contexts : CoreConfigContextBuilderAllResult}
    (h : runtimeConfigContexts crates env fuel config node targetOs = some contexts) :
    (contexts.mainResult.context.isTunEnabled ^^
        contexts.preSocksResult.any (·.context.isTunEnabled)) =
      config.tunModeItem.enableTun := by
  unfold runtimeConfigContexts at h
  split at h
  · obtain ⟨main, hmain, rfl⟩ := Option.map_eq_some_iff.mp h
    rw [Option.any_none, Bool.xor_false]
    exact (mainContext_build hmain).isTunEnabled
  · obtain ⟨main, hmain, hrest⟩ := Option.bind_eq_some_iff.mp h
    obtain ⟨happ, _, htun⟩ := mainContext_build hmain
    dsimp only at hrest
    split at hrest
    · cases hrest
      rw [Option.any_none, Bool.xor_false]
      exact htun
    · obtain ⟨pre, hpre, hmerged⟩ := Option.bind_eq_some_iff.mp hrest
      cases pre with
      | none =>
        cases hmerged
        rw [Option.any_none, Bool.xor_false]
        exact htun
      | some pre =>
        cases hmerged
        rw [Option.any_some, Bool.false_xor, buildPreSocksIfNeeded_tun hpre, happ]

/-- A tunnel that is asked for is carried by the main core or by the one before it, and not by
both. -/
theorem tun_carried_once {env : SnapshotCoreGenEnv} {targetOs : TargetOs}
    {contexts : RuntimeContexts CoreConfigContext}
    (h : connectContexts crates env fuel config node targetOs = some (.ok contexts)) :
    (contexts.main.isTunEnabled ^^ contexts.pre.any (·.isTunEnabled)) = contexts.tunEnabled := by
  obtain ⟨built, hbuilt, _, rfl⟩ := connectContexts_ok h
  rw [Option.any_map]
  exact carriedOnce_runtime hbuilt

end Main

end ConnectionContexts
