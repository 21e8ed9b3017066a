import VoyaVPN.GroupTraversal
import VoyaVPN.RankedGraph

/-! The graph of groups and members that the builder leaves in its map: every member is in
the map, no list repeats a member, and there is no cycle, although a group's entry may be
rewritten by every later traversal. -/
namespace GroupResolution

open Entities AppConfig RustText ContextBuilder GroupTraversal RankedGraph

/-- The keys the builder keeps for rule outbounds. -/
def isReserved (key : String) : Bool := startsWith key "remark:"

theorem isReserved_remarkKey (tag : String) : isReserved (remarkKey tag) = true :=
  startsWith_append _ _

def memberIds (m : ProxiesMap) (key : String) : List String :=
  if isReserved key then [] else ((m[key]?).map (·.protocol.childProfileIds)).getD []

theorem getElem?_insert_self (m : ProxiesMap) (key : String) (node : ProfileItem) :
    (m.insert key node)[key]? = some node := by
  simp

theorem getElem?_insert_ne {m : ProxiesMap} {key k : String} (h : k ≠ key) (node : ProfileItem) :
    (m.insert key node)[k]? = m[k]? := by
  rw [Std.ExtTreeMap.getElem?_insert, if_neg]
  simpa using h.symm

theorem mem_insert_of_mem {m : ProxiesMap} {k : String} (h : k ∈ m) (key : String)
    (node : ProfileItem) : k ∈ m.insert key node := by
  simp [Std.ExtTreeMap.mem_insert, h]

theorem mem_insert_key (m : ProxiesMap) (key : String) (node : ProfileItem) :
    key ∈ m.insert key node := by
  simp [Std.ExtTreeMap.mem_insert]

theorem memberIds_insert_reserved (m : ProxiesMap) {key : String} (h : isReserved key = true)
    (node : ProfileItem) : memberIds (m.insert key node) = memberIds m := by
  funext k
  by_cases hk : k = key
  · rw [memberIds, memberIds, hk, if_pos h, if_pos h]
  · rw [memberIds, memberIds, getElem?_insert_ne hk]

theorem memberIds_insert (m : ProxiesMap) (key : String) (node : ProfileItem) :
    memberIds (m.insert key node) = Function.update (memberIds m) key
      (if isReserved key then [] else node.protocol.childProfileIds) := by
  funext k
  by_cases hk : k = key
  · subst hk
    rw [Function.update_self, memberIds, getElem?_insert_self]
    rfl
  · rw [Function.update_of_ne hk, memberIds, memberIds, getElem?_insert_ne hk]

/-- The shape the generator relies on. -/
structure WellResolved (m : ProxiesMap) : Prop where
  ranked : ∃ rank, Descends (memberIds m) rank
  nodup : ∀ k, (memberIds m k).Nodup
  present : ∀ k, ∀ c ∈ memberIds m k, c ∈ m

theorem WellResolved.empty : WellResolved ∅ where
  ranked := ⟨fun _ => 0, fun k c hc => by simp [memberIds] at hc⟩
  nodup k := by simp [memberIds]
  present k c hc := by simp [memberIds] at hc

theorem WellResolved.insert_reserved {m : ProxiesMap} (h : WellResolved m) {key : String}
    (hkey : isReserved key = true) (node : ProfileItem) : WellResolved (m.insert key node) where
  ranked := by
    rw [memberIds_insert_reserved m hkey]
    exact h.ranked
  nodup k := by
    rw [memberIds_insert_reserved m hkey]
    exact h.nodup k
  present k c hc := by
    rw [memberIds_insert_reserved m hkey] at hc
    exact mem_insert_of_mem (h.present k c hc) key node

/-- One traversal has written the entries of `written`, starting from the map `m₀`. -/
structure PassInv (m₀ : ProxiesMap) (written : Finset String) (m : ProxiesMap) : Prop where
  graph : ∃ rank, Rewritten (memberIds m₀) (memberIds m) written rank
  nodup : ∀ k ∈ written, (memberIds m k).Nodup
  present : ∀ k ∈ written, k ∈ m
  kept : ∀ k ∈ m₀, k ∈ m

theorem PassInv.start (m : ProxiesMap) : PassInv m ∅ m where
  graph := ⟨fun _ => 0, Rewritten.start _ _⟩
  nodup _ hk := absurd hk (Finset.notMem_empty _)
  present _ hk := absurd hk (Finset.notMem_empty _)
  kept _ hk := hk

/-- A traversal may store an entry that lists entries it has already written. -/
theorem PassInv.write {m₀ m : ProxiesMap} {written : Finset String} (h : PassInv m₀ written m)
    (node : ProfileItem) (fresh : node.indexId ∉ written)
    (hnodup : node.protocol.childProfileIds.Nodup)
    (hids : ∀ c ∈ node.protocol.childProfileIds, c ∈ written) :
    PassInv m₀ (insert node.indexId written) (m.insert node.indexId node) := by
  have hids' : ∀ c ∈ (if isReserved node.indexId then [] else node.protocol.childProfileIds),
      c ∈ written := by
    intro c hc
    split at hc
    · cases hc
    · exact hids c hc
  constructor
  · obtain ⟨rank, hrank⟩ := h.graph
    rw [memberIds_insert]
    exact hrank.write fresh hids'
  · intro k hk
    rw [memberIds_insert]
    rcases Finset.mem_insert.mp hk with rfl | hk
    · rw [Function.update_self]
      split
      · exact List.nodup_nil
      · exact hnodup
    · have hne : k ≠ node.indexId := fun e => fresh (e ▸ hk)
      rw [Function.update_of_ne hne]
      exact h.nodup k hk
  · intro k hk
    rcases Finset.mem_insert.mp hk with rfl | hk
    · exact mem_insert_key m _ node
    · exact mem_insert_of_mem (h.present k hk) _ node
  · intro k hk
    exact mem_insert_of_mem (h.kept k hk) _ node

theorem PassInv.wellResolved {m₀ m : ProxiesMap} {written : Finset String}
    (h : PassInv m₀ written m) (h₀ : WellResolved m₀) : WellResolved m := by
  obtain ⟨rank, hrank⟩ := h.graph
  obtain ⟨rank₀, hrank₀⟩ := h₀.ranked
  refine ⟨hrank.descends_total hrank₀, ?_, ?_⟩
  · intro k
    by_cases hk : k ∈ written
    · exact h.nodup k hk
    · rw [hrank.frame k hk]
      exact h₀.nodup k
  · intro k c hc
    by_cases hk : k ∈ written
    · exact h.present c (hrank.closed k hk c hc)
    · rw [hrank.frame k hk] at hc
      exact h.kept c (h₀.present k c hc)

/-- A child list under construction: the set that guards it holds exactly its ids. -/
structure ChildIndexInv (cs : ChildIndex) (written : Finset String) : Prop where
  nodup : cs.ids.Nodup
  seen : ∀ c, c ∈ cs.seen ↔ c ∈ cs.ids
  within : ∀ c ∈ cs.ids, c ∈ written

theorem ChildIndexInv.start (written : Finset String) : ChildIndexInv {} written where
  nodup := List.nodup_nil
  seen c := by simp
  within c hc := by cases hc

theorem ChildIndexInv.mono {cs : ChildIndex} {written written' : Finset String}
    (h : ChildIndexInv cs written) (hsub : written ⊆ written') : ChildIndexInv cs written' :=
  ⟨h.nodup, h.seen, fun c hc => hsub (h.within c hc)⟩

theorem ChildIndexInv.push {cs : ChildIndex} {written : Finset String}
    (h : ChildIndexInv cs written) {c : String} (hc : c ∈ written) :
    ChildIndexInv (cs.pushUnique c) written := by
  rw [ChildIndex.pushUnique]
  by_cases hmem : c ∈ cs.seen
  · rwa [if_pos hmem]
  rw [if_neg hmem]
  have hnot : c ∉ cs.ids := fun hin => hmem ((h.seen c).mpr hin)
  constructor
  · exact h.nodup.append (List.nodup_singleton c) (by simpa using hnot)
  · intro d
    rw [Finset.mem_insert, List.mem_append, List.mem_singleton, h.seen d]
    exact or_comm
  · intro d hd
    rcases List.mem_append.mp hd with hd | hd
    · exact h.within d hd
    · rw [List.mem_singleton] at hd
      rwa [hd]

/-- What a traversal below `root` keeps: the visited profiles other than the root are the
ones it has written, and none of them is an ancestor. -/
structure TraversalInv (m₀ : ProxiesMap) (root : String) (A : Finset String) (t : Traversal) :
    Prop where
  root_mem : root ∈ A
  apart : ∀ a ∈ A, a ∉ t.globalVisited.erase root
  pass : PassInv m₀ (t.globalVisited.erase root) t.context.allProxiesMap

theorem mem_erase_of_visited {m₀ : ProxiesMap} {root : String} {A : Finset String}
    {t : Traversal} (h : TraversalInv m₀ root A t) {c : String} (hA : c ∉ A)
    (hV : c ∈ t.globalVisited) : c ∈ t.globalVisited.erase root :=
  Finset.mem_erase.mpr ⟨fun e => hA (e ▸ h.root_mem), hV⟩

theorem erase_insert_visited {root c : String} (hne : c ≠ root) (V : Finset String) :
    (insert c V).erase root = insert c (V.erase root) :=
  Finset.erase_insert_of_ne hne

theorem TraversalInv.mark {m₀ : ProxiesMap} {root : String} {A : Finset String}
    {t : Traversal} (hroot : root ∈ A) {c : ProfileItem} (hA : c.indexId ∉ A)
    (hapart : ∀ a ∈ A, a ∉ t.globalVisited.erase root)
    (hpass : PassInv m₀ (insert c.indexId (t.globalVisited.erase root)) t.context.allProxiesMap) :
    TraversalInv m₀ root A (marked t c) := by
  have hne : c.indexId ≠ root := fun e => hA (e ▸ hroot)
  refine ⟨hroot, ?_, ?_⟩
  · intro a ha hmem
    rw [marked, erase_insert_visited hne] at hmem
    rcases Finset.mem_insert.mp hmem with rfl | hmem
    · exact hA ha
    · exact hapart a ha hmem
  · rw [marked, erase_insert_visited hne]
    exact hpass

theorem TraversalInv.registered {crates : Crates} {m₀ : ProxiesMap} {root : String}
    {A : Finset String} {t : Traversal} (h : TraversalInv m₀ root A t) {c : ProfileItem}
    (hA : c.indexId ∉ A)
    (hV : c.indexId ∉ t.globalVisited) (hG : c.configType.isGroupType = false)
    (hv : profileIsValid crates c = true) :
    TraversalInv m₀ root A (registered crates t c) := by
  have hids : c.protocol.childProfileIds = [] := childProfileIds_of_single hG
  have hpass := h.pass.write c (fun hin => hV (Finset.mem_of_mem_erase hin))
    (by simp [hids]) (by simp [hids])
  rw [← registerSingle_proxies t.context hG hv] at hpass
  exact TraversalInv.mark (t := ⟨(registerSingleNode crates t.context c).1, t.globalVisited⟩)
    h.root_mem hA h.apart hpass

/-- The rule instance: one traversal rooted at `root`, from the map `m₀`. -/
def resolutionRule (crates : Crates) (env : CoreGenEnv) (m₀ : ProxiesMap) (root : String) :
    TraversalRule crates env where
  Pre A node t :=
    node.configType.isGroupType = true ∧ node.indexId ∈ A ∧ TraversalInv m₀ root A t
  Loop A node t₀ _ t cs :=
    node.configType.isGroupType = true ∧ node.indexId ∈ A ∧ TraversalInv m₀ root A t ∧
      t₀.globalVisited ⊆ t.globalVisited ∧ ChildIndexInv cs (t.globalVisited.erase root)
  Post A node t₀ t success :=
    t₀.globalVisited ⊆ t.globalVisited ∧ (∀ a ∈ A, a ∉ t.globalVisited.erase root) ∧
      PassInv m₀
        (if success then insert node.indexId (t.globalVisited.erase root)
          else t.globalVisited.erase root)
        t.context.allProxiesMap
  enter := fun ⟨hG, hself, inv⟩ => ⟨hG, hself, inv, subset_rfl, ChildIndexInv.start _⟩
  pruned _ loop _ := loop
  visited _ := fun ⟨hG, hself, inv, hsub, hcs⟩ hA hV =>
    ⟨hG, hself, inv, hsub, hcs.push (mem_erase_of_visited inv hA hV)⟩
  invalid _ loop _ _ _ _ := loop
  single {A node t₀ before t cs c} _ := fun ⟨hG, hself, inv, hsub, hcs⟩ hA hV hS hv => by
    have inv' := inv.registered hA hV hS hv
    have hsub' : t.globalVisited ⊆ (registered crates t c).globalVisited :=
      Finset.subset_insert _ _
    refine ⟨hG, hself, inv', hsub.trans hsub', ?_⟩
    exact (hcs.mono (Finset.erase_subset_erase root hsub')).push
      (mem_erase_of_visited inv' hA (Finset.mem_insert_self _ _))
  enterGroup {A node t₀ before t cs c} _ := fun ⟨_, _, inv, _, _⟩ hA hV hG => by
    refine ⟨hG, Finset.mem_insert_self _ _, Finset.mem_insert_of_mem inv.root_mem, ?_, inv.pass⟩
    intro a ha hmem
    rcases Finset.mem_insert.mp ha with rfl | ha
    · exact hV (Finset.mem_of_mem_erase hmem)
    · exact inv.apart a ha hmem
  hollow _ := fun ⟨hG, hself, inv, hsub, hcs⟩ _ _ _ ⟨hsub', hapart, hpass⟩ =>
    ⟨hG, hself,
      ⟨inv.root_mem, fun a ha => hapart a (Finset.mem_insert_of_mem ha), hpass⟩,
      hsub.trans hsub', hcs.mono (Finset.erase_subset_erase root hsub')⟩
  group {A node t₀ before t t' cs c} _ := fun ⟨hG, hself, inv, hsub, hcs⟩ hA hV hGc post => by
    obtain ⟨hsub', hapart, hpass⟩ := post
    have inv' : TraversalInv m₀ root A (marked t' c) := TraversalInv.mark inv.root_mem hA
      (fun a ha => hapart a (Finset.mem_insert_of_mem ha)) hpass
    have hsub₁ : t.globalVisited ⊆ (marked t' c).globalVisited :=
      hsub'.trans (Finset.subset_insert _ _)
    refine ⟨hG, hself, inv', hsub.trans hsub₁, ?_⟩
    exact (hcs.mono (Finset.erase_subset_erase root hsub₁)).push
      (mem_erase_of_visited inv' hA (Finset.mem_insert_self _ _))
  failed := fun ⟨_, _, inv, hsub, _⟩ _ => ⟨hsub, inv.apart, inv.pass⟩
  finished {A node t₀ t cs} := fun ⟨hG, hself, inv, hsub, hcs⟩ _ => by
    have hids : (resolvedNode node cs.ids).protocol.childProfileIds = cs.ids :=
      childProfileIds_replace hG cs.ids
    refine ⟨hsub, inv.apart, ?_⟩
    exact inv.pass.write (resolvedNode node cs.ids) (inv.apart _ hself)
      (by rw [hids]; exact hcs.nodup) (by rw [hids]; exact hcs.within)

theorem registerNode_wellResolved {crates : Crates} {env : CoreGenEnv} {fuel : ℕ}
    {context context' : CoreConfigContext} {node : ProfileItem} {result : NodeValidatorResult}
    (h₀ : WellResolved context.allProxiesMap)
    (h : registerNode crates env fuel context node = some (context', result)) :
    WellResolved context'.allProxiesMap := by
  rcases registerNode_cases h with ⟨hG, t, rfl, ht⟩ | ⟨_, _, rfl, _⟩ | ⟨hG, _, hmap, _⟩
  · have pre : (resolutionRule crates env context.allProxiesMap node.indexId).Pre
        {node.indexId} node ⟨context, {node.indexId}⟩ := by
      refine ⟨hG, Finset.mem_singleton_self _, Finset.mem_singleton_self _, ?_, ?_⟩
      · intro a _ hmem
        simp at hmem
      · simpa using PassInv.start context.allProxiesMap
    obtain ⟨_, _, hpass⟩ := TraversalRule.run _ fuel pre ht
    exact hpass.wellResolved h₀
  · exact h₀
  · have hids : node.protocol.childProfileIds = [] := childProfileIds_of_single hG
    rw [hmap]
    exact ((PassInv.start context.allProxiesMap).write node (Finset.notMem_empty _)
      (by simp [hids]) (by simp [hids])).wellResolved h₀

def wellResolvedRule (crates : Crates) (env : CoreGenEnv) (active : ProfileItem) :
    BuildRule crates env active where
  Inv := WellResolved
  start := WellResolved.empty
  register _ inv h := registerNode_wellResolved inv h
  remark inv _ := inv.insert_reserved (isReserved_remarkKey _) _

theorem memberIds_of_entry {m : ProxiesMap} {key : String} {entry : ProfileItem}
    (hkey : isReserved key = false) (hentry : m[key]? = some entry) :
    memberIds m key = entry.protocol.childProfileIds := by
  rw [memberIds, if_neg (by simp [hkey]), hentry]
  rfl

/-- Two groups that list each other, resolved once from each side. -/
def mutualGroups : SnapshotCoreGenEnv :=
  exampleStore [exampleGroup "g" ["h", "s"], exampleGroup "h" ["g", "s"], exampleSocks "s"]
    [{ outboundTag := some "h" }]

end GroupResolution
