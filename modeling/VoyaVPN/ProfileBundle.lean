import VoyaVPN.Entities
import VoyaVPN.SettingsSave

/-! A profile bundle: how its entries are checked and given the ids that an import brings them
in with. -/
namespace ProfileBundle

open Entities

inductive VoyaBundleProfile where
  | node (reference shareUri : String)
  | policyGroup (reference name : String) (childRefs : List String)
      (includeCurrentSubscription : Bool) (strategy filter : Option String)
  | proxyChain (reference name : String) (childRefs : List String)
      (includeCurrentSubscription : Bool)
  deriving DecidableEq, Repr

structure VoyaProfileBundleV1 where
  schemaVersion : Nat
  profiles : List VoyaBundleProfile
  deriving DecidableEq, Repr

namespace VoyaBundleProfile

def reference : VoyaBundleProfile → String
  | .node reference _ => reference
  | .policyGroup reference .. => reference
  | .proxyChain reference .. => reference

def isGroup : VoyaBundleProfile → Bool
  | .node .. => false
  | .policyGroup .. => true
  | .proxyChain .. => true

def childRefs : VoyaBundleProfile → List String
  | .node .. => []
  | .policyGroup _ _ childRefs .. => childRefs
  | .proxyChain _ _ childRefs _ => childRefs

end VoyaBundleProfile

def invalidVoyaBundle {α : Type} (reason : String) : Except String α := .error reason

/-- The references on the way to the one looked at, and those done with. -/
structure Branch where
  visiting : List String := []
  visited : List String := []
  deriving DecidableEq, Repr

/-- A way never holds a reference twice, so it is not longer than the list of profiles. -/
def validateVoyaBundleBranch (profiles : List VoyaBundleProfile) :
    Nat → Branch → String → Except String Branch
  | 0, _, reference => invalidVoyaBundle ("profile reference cycle includes " ++ reference)
  | fuel + 1, branch, reference =>
    if reference ∈ branch.visited then .ok branch
    else if reference ∈ branch.visiting then
      invalidVoyaBundle ("profile reference cycle includes " ++ reference)
    else
      match profiles.find? fun profile => profile.reference = reference with
      | none => invalidVoyaBundle ("unresolved profile " ++ reference)
      | some profile => do
        let below ← profile.childRefs.foldlM (validateVoyaBundleBranch profiles fuel)
          { branch with visiting := reference :: branch.visiting }
        return {
          visiting := below.visiting.erase reference
          visited := reference :: below.visited }

def validateReferences (seen : List String) (profile : VoyaBundleProfile) :
    Except String (List String) :=
  let reference := RustText.trim profile.reference
  if reference = "" then invalidVoyaBundle "profile reference is required"
  else if reference ∈ seen then invalidVoyaBundle ("duplicate profile reference " ++ reference)
  else .ok (seen ++ [reference])

def validateVoyaBundle (profiles : List VoyaBundleProfile) : Except String PUnit := do
  if profiles = [] then invalidVoyaBundle "bundle contains no profiles"
  else
    let references ← profiles.foldlM validateReferences []
    match (profiles.flatMap (·.childRefs)).find? fun child => RustText.trim child ∉ references with
    | some child => invalidVoyaBundle ("unresolved child reference " ++ child)
    | none =>
      profiles.forM fun profile => do
        let _ ← validateVoyaBundleBranch profiles (profiles.length + 1) {} profile.reference
        return ⟨⟩

def importId (index : Nat) : String := "voya-import-" ++ toString (index + 1)

def idMap (profiles : List VoyaBundleProfile) : List (String × String) :=
  profiles.zipIdx.map fun entry => (entry.1.reference, importId entry.2)

def parseMultipleLoad (value : String) : Except String MultipleLoad :=
  match value with
  | "leastPing" => .ok .leastPing
  | "fallback" => .ok .fallback
  | "random" => .ok .random
  | "roundRobin" => .ok .roundRobin
  | "leastLoad" => .ok .leastLoad
  | _ => invalidVoyaBundle ("unsupported policy group strategy " ++ value)

def childItems (childRefs : List String) (ids : List (String × String)) :
    Except String (List String) :=
  childRefs.mapM fun reference =>
    match ids.lookup reference with
    | some id => .ok id
    | none => invalidVoyaBundle ("unresolved child reference " ++ reference)

def bundleGroupProfile (configType : ConfigType) (name : String) (childRefs : List String)
    (includeCurrentSubscription : Bool) (strategy : Option MultipleLoad) (filter : Option String)
    (subscriptionId : String) (ids : List (String × String)) : Except String ProfileItem := do
  if includeCurrentSubscription ∧ RustText.trim subscriptionId = "" then
    invalidVoyaBundle "current subscription group requires a subscription import target"
  else
    let children ← childItems childRefs ids
    if children = [] ∧ includeCurrentSubscription = false then
      invalidVoyaBundle "group has no children"
    else
      match configType with
      | .policyGroup =>
        return {
          remarks := RustText.trim name
          protocol := .policyGroup children
            (if includeCurrentSubscription then some (RustText.trim subscriptionId) else none)
            (filter.filter (· ≠ "")) (strategy.getD .leastPing) }
      | .proxyChain =>
        if includeCurrentSubscription then
          invalidVoyaBundle "proxy chains cannot include an entire subscription"
        else
          return {
            remarks := RustText.trim name
            protocol := .proxyChain children }
      | _ => invalidVoyaBundle "bundle group has an invalid kind"

def bundleProfile (parseShareLink : String → Except String ProfileItem) (subscriptionId : String)
    (ids : List (String × String)) : VoyaBundleProfile → Except String ProfileItem
  | .node _ shareUri => parseShareLink shareUri
  | .policyGroup _ name childRefs includeCurrentSubscription strategy filter => do
    let strategy ← strategy.mapM parseMultipleLoad
    bundleGroupProfile .policyGroup name childRefs includeCurrentSubscription strategy filter
      subscriptionId ids
  | .proxyChain _ name childRefs includeCurrentSubscription =>
    bundleGroupProfile .proxyChain name childRefs includeCurrentSubscription none none
      subscriptionId ids

def bundleEntry (parseShareLink : String → Except String ProfileItem) (subscriptionId : String)
    (ids : List (String × String)) (entry : VoyaBundleProfile) : Except String ProfileItem := do
  match ids.lookup entry.reference with
  | none => invalidVoyaBundle "profile reference was not resolved"
  | some indexId =>
    let profile ← bundleProfile parseShareLink subscriptionId ids entry
    return { profile with indexId }

def voyaProfileBundlePrefix : String := "voya://profiles/v1/"

/-- `decode` reads a payload: the base64 of it and the JSON in that. -/
def parseVoyaProfileBundle (decode : String → Except String VoyaProfileBundleV1)
    (parseShareLink : String → Except String ProfileItem) (input subscriptionId : String) :
    Except String (List ProfileItem) :=
  match RustText.stripPrefix (RustText.trim input) voyaProfileBundlePrefix with
  | none => invalidVoyaBundle "invalid URI"
  | some payload =>
    if payload = "" ∨ RustText.containsChar payload fun c => c == '\r' || c == '\n' || c == '/' then
      invalidVoyaBundle "invalid payload"
    else do
      let bundle ← decode payload
      if bundle.schemaVersion ≠ 1 then
        invalidVoyaBundle ("unsupported schema version " ++ toString bundle.schemaVersion)
      else
        validateVoyaBundle bundle.profiles
        bundle.profiles.mapM (bundleEntry parseShareLink subscriptionId (idMap bundle.profiles))

theorem validateReferences_nodup {profiles : List VoyaBundleProfile} {seen references : List String}
    (hseen : seen.Nodup) (hfold : profiles.foldlM validateReferences seen = .ok references) :
    references = seen ++ profiles.map (fun profile => RustText.trim profile.reference) ∧
      references.Nodup := by
  induction profiles generalizing seen with
  | nil =>
    cases hfold
    exact ⟨by simp, hseen⟩
  | cons profile profiles ih =>
    rw [List.foldlM_cons] at hfold
    obtain ⟨next, hnext, hrest⟩ := SettingsSave.ok_of_bind_ok hfold
    unfold validateReferences at hnext
    dsimp only at hnext
    split at hnext
    · cases hnext
    · split at hnext
      · cases hnext
      · rename_i hfresh
        cases hnext
        have hnodup : (seen ++ [RustText.trim profile.reference]).Nodup := by
          rw [List.nodup_append]
          refine ⟨hseen, List.nodup_singleton _, ?_⟩
          intro first hfirst second hsecond hequal
          rw [List.mem_singleton] at hsecond
          exact hfresh (hsecond ▸ hequal ▸ hfirst)
        obtain ⟨hreferences, hall⟩ := ih hnodup hrest
        exact ⟨by simpa using hreferences, hall⟩

theorem references_nodup {profiles : List VoyaBundleProfile}
    (hvalid : validateVoyaBundle profiles = .ok ⟨⟩) :
    (profiles.map VoyaBundleProfile.reference).Nodup := by
  unfold validateVoyaBundle at hvalid
  split at hvalid
  · cases hvalid
  · obtain ⟨references, hfold, _⟩ := SettingsSave.ok_of_bind_ok hvalid
    obtain ⟨rfl, hnodup⟩ := validateReferences_nodup List.nodup_nil hfold
    have hmap : profiles.map (fun profile => RustText.trim profile.reference) =
        (profiles.map VoyaBundleProfile.reference).map RustText.trim := by
      rw [List.map_map]
      rfl
    rw [List.nil_append, hmap] at hnodup
    exact List.Nodup.of_map _ hnodup

section Parsing

theorem mapM_ok_forall₂ {α β ε : Type} {f : α → Except ε β} {xs : List α} {ys : List β}
    (hmap : xs.mapM f = .ok ys) : List.Forall₂ (fun x y => f x = .ok y) xs ys := by
  induction xs generalizing ys with
  | nil =>
    cases hmap
    exact List.Forall₂.nil
  | cons x xs ih =>
    rw [List.mapM_cons] at hmap
    obtain ⟨y, hhead, hrest⟩ := SettingsSave.ok_of_bind_ok hmap
    obtain ⟨tail, htail, hreturn⟩ := SettingsSave.ok_of_bind_ok hrest
    cases hreturn
    exact List.Forall₂.cons hhead (ih htail)

theorem mem_of_lookup {α β : Type} [BEq α] [LawfulBEq α] {pairs : List (α × β)} {key : α}
    {value : β} (hlookup : pairs.lookup key = some value) : (key, value) ∈ pairs := by
  obtain ⟨earlier, later, rfl, _⟩ := List.lookup_eq_some_iff.mp hlookup
  simp

variable {profiles : List VoyaBundleProfile}

theorem mem_idMap {reference id : String} (hmem : (reference, id) ∈ idMap profiles) :
    ∃ place entry, profiles[place]? = some entry ∧ entry.reference = reference ∧
      importId place = id := by
  obtain ⟨⟨entry, place⟩, hplace, hequal⟩ := List.mem_map.mp hmem
  cases hequal
  exact ⟨place, entry, List.mk_mem_zipIdx_iff_getElem?.mp hplace, rfl, rfl⟩

theorem idMap_references (profiles : List VoyaBundleProfile) :
    (idMap profiles).map Prod.fst = profiles.map VoyaBundleProfile.reference := by
  rw [idMap, List.map_map]
  have hcomp : (Prod.fst ∘ fun entry : VoyaBundleProfile × Nat =>
      (entry.1.reference, importId entry.2)) = VoyaBundleProfile.reference ∘ Prod.fst := rfl
  rw [hcomp, ← List.map_map, List.zipIdx_map_fst]

theorem childItems_ok {childRefs children : List String} {ids : List (String × String)}
    (hitems : childItems childRefs ids = .ok children) :
    List.Forall₂ (fun reference child => ids.lookup reference = some child) childRefs children := by
  refine (mapM_ok_forall₂ hitems).imp fun reference child hchild => ?_
  cases hlookup : ids.lookup reference with
  | none =>
    rw [hlookup] at hchild
    cases hchild
  | some id =>
    rw [hlookup] at hchild
    cases hchild
    rfl

theorem bundleGroupProfile_ok {configType : ConfigType} {name : String} {childRefs : List String}
    {includeCurrentSubscription : Bool} {strategy : Option MultipleLoad} {filter : Option String}
    {subscriptionId : String} {ids : List (String × String)} {profile : ProfileItem}
    (hparsed : bundleGroupProfile configType name childRefs includeCurrentSubscription strategy
      filter subscriptionId ids = .ok profile) :
    childItems childRefs ids = .ok profile.protocol.childProfileIds ∧
      profile.configType.isGroupType = true := by
  unfold bundleGroupProfile at hparsed
  split at hparsed
  · cases hparsed
  · obtain ⟨children, hchildren, hrest⟩ := SettingsSave.ok_of_bind_ok hparsed
    rw [hchildren]
    split at hrest
    · cases hrest
    · split at hrest
      · cases hrest
        exact ⟨rfl, rfl⟩
      · split at hrest
        · cases hrest
        · cases hrest
          exact ⟨rfl, rfl⟩
      · cases hrest

structure EntryRead (ids : List (String × String)) (entry : VoyaBundleProfile)
    (profile : ProfileItem) : Prop where
  indexId : ids.lookup entry.reference = some profile.indexId
  children : entry.isGroup = true →
    List.Forall₂ (fun reference child => ids.lookup reference = some child) entry.childRefs
      profile.protocol.childProfileIds

theorem bundleEntry_ok {parseShareLink : String → Except String ProfileItem}
    {subscriptionId : String} {ids : List (String × String)} {entry : VoyaBundleProfile}
    {profile : ProfileItem}
    (hparsed : bundleEntry parseShareLink subscriptionId ids entry = .ok profile) :
    EntryRead ids entry profile := by
  unfold bundleEntry at hparsed
  split at hparsed
  · cases hparsed
  · rename_i indexId hindexId
    obtain ⟨parsed, hentry, hreturn⟩ := SettingsSave.ok_of_bind_ok hparsed
    cases hreturn
    refine ⟨hindexId, fun hgroup => ?_⟩
    cases entry with
    | node reference shareUri => cases hgroup
    | policyGroup reference name childRefs includeCurrentSubscription strategy filter =>
      obtain ⟨_, _, hread⟩ := SettingsSave.ok_of_bind_ok hentry
      exact childItems_ok (bundleGroupProfile_ok hread).1
    | proxyChain reference name childRefs includeCurrentSubscription =>
      have hread : bundleGroupProfile .proxyChain name childRefs includeCurrentSubscription none
          none subscriptionId ids = .ok parsed := hentry
      exact childItems_ok (bundleGroupProfile_ok hread).1

/-- The entries of a bundle, every one with the profile it is read as. -/
structure BundleRead (bundle : VoyaProfileBundleV1) (profiles : List ProfileItem) : Prop where
  references : (bundle.profiles.map VoyaBundleProfile.reference).Nodup
  entries : List.Forall₂ (EntryRead (idMap bundle.profiles)) bundle.profiles profiles

theorem parseVoyaProfileBundle_ok {decode : String → Except String VoyaProfileBundleV1}
    {parseShareLink : String → Except String ProfileItem} {input subscriptionId : String}
    {profiles : List ProfileItem}
    (hparsed : parseVoyaProfileBundle decode parseShareLink input subscriptionId = .ok profiles) :
    ∃ payload bundle, RustText.stripPrefix (RustText.trim input) voyaProfileBundlePrefix =
        some payload ∧ decode payload = .ok bundle ∧ BundleRead bundle profiles := by
  unfold parseVoyaProfileBundle at hparsed
  split at hparsed
  · cases hparsed
  · rename_i payload hpayload
    split at hparsed
    · cases hparsed
    · obtain ⟨bundle, hdecoded, hrest⟩ := SettingsSave.ok_of_bind_ok hparsed
      split at hrest
      · cases hrest
      · obtain ⟨_, hvalid, hentries⟩ := SettingsSave.ok_of_bind_ok hrest
        exact ⟨payload, bundle, hpayload, hdecoded, references_nodup hvalid,
          (mapM_ok_forall₂ hentries).imp fun _ _ => bundleEntry_ok⟩

variable {bundle : VoyaProfileBundleV1} {items : List ProfileItem}

theorem BundleRead.entry (h : BundleRead bundle items)
    {pair : VoyaBundleProfile × ProfileItem} (hpair : pair ∈ bundle.profiles.zip items) :
    EntryRead (idMap bundle.profiles) pair.1 pair.2 :=
  (List.forall₂_iff_zip.mp h.entries).2 hpair

theorem BundleRead.importId (h : BundleRead bundle items)
    {pair : VoyaBundleProfile × ProfileItem} (hpair : pair ∈ bundle.profiles.zip items) :
    ∃ place, pair.2.indexId = importId place := by
  obtain ⟨place, _, _, _, hid⟩ := mem_idMap (mem_of_lookup (h.entry hpair).indexId)
  exact ⟨place, hid.symm⟩

end Parsing

end ProfileBundle
