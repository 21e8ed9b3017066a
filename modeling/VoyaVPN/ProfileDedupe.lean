import VoyaVPN.ProfileMoves
import VoyaVPN.RepeatedItems

/-! The search for duplicate profiles: what it deletes, and which profile is the active one after
it. -/
namespace ProfileDedupe

open Entities AppConfig ConfigMutation VoyaStore ActionRules ManagerSession ProfileManager
open ProfileMoves RepeatedItems

/-- The profiles describe the same server. -/
def Matches (first second : ProfileItem) : Prop := profileItemsMatch first second false = true

instance : DecidableRel Matches := fun _ _ => by
  unfold Matches
  infer_instance

theorem matches_iff (first second : ProfileItem) :
    Matches first second ↔ first.protocol = second.protocol ∧ first.transport = second.transport ∧
      first.tls = second.tls := by
  simp [Matches, profileItemsMatch]

theorem matches_refl (profile : ProfileItem) : Matches profile profile :=
  (matches_iff _ _).mpr ⟨rfl, rfl, rfl⟩

theorem Matches.symm {first second : ProfileItem} (h : Matches first second) :
    Matches second first := by
  obtain ⟨hprotocol, htransport, htls⟩ := (matches_iff _ _).mp h
  exact (matches_iff _ _).mpr ⟨hprotocol.symm, htransport.symm, htls.symm⟩

theorem Matches.trans {first second third : ProfileItem} (h : Matches first second)
    (h' : Matches second third) : Matches first third := by
  obtain ⟨hprotocol, htransport, htls⟩ := (matches_iff _ _).mp h
  obtain ⟨hprotocol', htransport', htls'⟩ := (matches_iff _ _).mp h'
  exact (matches_iff _ _).mpr ⟨hprotocol.trans hprotocol', htransport.trans htransport',
    htls.trans htls'⟩

def Complex (profile : ProfileItem) : Prop := profile.configType.isComplexType = true

instance : DecidablePred Complex := fun _ => by
  unfold Complex
  infer_instance

section Sorting

variable {items : List ProfileItem}

theorem kept_matches (profile : ProfileItem) :
    (∃ kept ∈ (items.foldl sortOut ([], [])).1, Matches kept profile) ↔
      ∃ item ∈ items, Matches item profile := by
  induction items using List.reverseRecOn generalizing profile with
  | nil => rfl
  | append_singleton items last ih =>
    have hkeep : (∃ kept ∈ (items.foldl sortOut ([], [])).1 ++ [last], Matches kept profile) ↔
        ∃ item ∈ items ++ [last], Matches item profile := by
      simp only [List.mem_append, or_and_right, exists_or, ih]
    rw [List.foldl_append, List.foldl_cons, List.foldl_nil, sortOut]
    split
    · exact hkeep
    · split
      · rename_i hany
        obtain ⟨twin, htwin, hmatch⟩ := List.any_eq_true.mp hany
        rw [ih]
        constructor
        · rintro ⟨item, hitem, h⟩
          exact ⟨item, List.mem_append_left _ hitem, h⟩
        · rintro ⟨item, hitem, h⟩
          rcases List.mem_append.mp hitem with hitem | hitem
          · exact ⟨item, hitem, h⟩
          · have hitem := List.mem_singleton.mp hitem
            subst hitem
            obtain ⟨earlier, hearlier, h'⟩ := (ih item).mp ⟨twin, htwin, hmatch⟩
            exact ⟨earlier, hearlier, h'.trans h⟩
      · exact hkeep

theorem mem_removed (id : String) :
    id ∈ (items.foldl sortOut ([], [])).2 ↔
      ∃ profile, Repeats Complex Matches items profile ∧ profile.indexId = id := by
  induction items using List.reverseRecOn with
  | nil => simp
  | append_singleton items last ih =>
    rw [List.foldl_append, List.foldl_cons, List.foldl_nil, sortOut]
    simp only [repeats_concat, or_and_right, exists_or, ← ih]
    by_cases hcomplex : last.configType.isComplexType = true
    · rw [if_pos hcomplex]
      constructor
      · exact Or.inl
      · rintro (h | ⟨profile, ⟨rfl, hsimple, _⟩, _⟩)
        · exact h
        · exact absurd hcomplex hsimple
    · rw [if_neg hcomplex]
      by_cases hany : ((items.foldl sortOut ([], [])).1.any fun existing =>
          profileItemsMatch existing last false) = true
      · have hbefore : ∃ other ∈ items, Matches other last := by
          obtain ⟨twin, htwin, hmatch⟩ := List.any_eq_true.mp hany
          exact (kept_matches last).mp ⟨twin, htwin, hmatch⟩
        rw [if_pos hany, List.mem_append, List.mem_singleton]
        constructor
        · rintro (h | rfl)
          · exact Or.inl h
          · exact Or.inr ⟨last, ⟨rfl, hcomplex, hbefore⟩, rfl⟩
        · rintro (h | ⟨profile, ⟨rfl, _⟩, rfl⟩)
          · exact Or.inl h
          · exact Or.inr rfl
      · rw [if_neg hany]
        constructor
        · exact Or.inl
        · rintro (h | ⟨profile, ⟨rfl, _, hbefore⟩, _⟩)
          · exact h
          · obtain ⟨kept, hkept, hmatch⟩ := (kept_matches profile).mpr hbefore
            refine absurd ?_ hany
            exact List.any_eq_true.mpr ⟨kept, hkept, hmatch⟩

end Sorting

section Deleting

/-- The store without the profiles of some ids; the others keep what is stored about them. -/
structure Pruned (indexIds : List String) (before after : Store) : Prop where
  rows : ∀ profile, profile ∈ after.rows.profiles.rows ↔
    profile ∈ before.rows.profiles.rows ∧ profile.indexId ∉ indexIds
  exs : ∀ id ∉ indexIds, after.rows.profileExs.get id = before.rows.profileExs.get id

theorem Pruned.trans {first second : List String} {before between after : Store}
    (h : Pruned first before between) (h' : Pruned second between after) :
    Pruned (first ++ second) before after := by
  constructor
  · intro profile
    rw [h'.rows, h.rows, List.mem_append, not_or, and_assoc]
  · intro id hid
    rw [List.mem_append, not_or] at hid
    rw [h'.exs id hid.2, h.exs id hid.1]

theorem pruned_deleteProfile (store : Store) (indexId : String) :
    Pruned [indexId] store (store.deleteProfile indexId) := by
  constructor
  · intro profile
    rw [List.mem_singleton, Store.deleteProfile, Store.removeProfiles, KeyedTable.mem_remove,
      beq_eq_false_iff_ne]
  · intro id hid
    rw [List.mem_singleton] at hid
    rw [Store.deleteProfile, Store.removeProfiles, KeyedTable.get_remove]
    cases hget : store.rows.profileExs.get id with
    | none => rfl
    | some item =>
      have hkey : item.indexId = id := ((KeyedTable.get_eq_some_iff ..).mp hget).2
      rw [Option.filter_some, if_pos]
      rw [hkey, Bool.not_eq_true', List.any_eq_false]
      intro profile _ hgone
      rw [Bool.and_eq_true, beq_iff_eq, beq_iff_eq] at hgone
      exact hid (hgone.2.symm.trans hgone.1)

theorem outcome_deleteMany {ε : Type} (indexIds : List String) (session : Session) :
    ∃ deleted after,
      outcome (deleteMany indexIds : Action Session ε Nat) session = (.ok deleted, after) ∧
      after.config = session.config ∧ Pruned indexIds session.database after.database := by
  have hfold : ∀ (count : Nat) (session : Session), ∃ deleted after,
      outcome (indexIds.foldlM (fun deleted indexId => do
        let stored ← query fun store => store.rows.profiles.contains indexId
        execute fun store => store.deleteProfile indexId
        return deleted + stored.toNat) count : Action Session ε Nat) session =
          (.ok deleted, after) ∧
      after.config = session.config ∧ Pruned indexIds session.database after.database := by
    induction indexIds with
    | nil =>
      intro count session
      refine ⟨count, session, rfl, rfl, fun profile => ?_, fun _ _ => rfl⟩
      simp
    | cons indexId indexIds ih =>
      intro count session
      have hone : outcome (do
          let stored ← query fun store => store.rows.profiles.contains indexId
          execute fun store => store.deleteProfile indexId
          return count + stored.toNat : Action Session ε Nat) session =
            (.ok (count + (session.database.rows.profiles.contains indexId).toNat),
              session.setDatabase (session.database.deleteProfile indexId)) := rfl
      obtain ⟨deleted, after, hrun, hconfig, hpruned⟩ :=
        ih (count + (session.database.rows.profiles.contains indexId).toNat)
          (session.setDatabase (session.database.deleteProfile indexId))
      refine ⟨deleted, after, ?_, hconfig,
        (pruned_deleteProfile session.database indexId).trans hpruned⟩
      rw [List.foldlM_cons, outcome_bind_ok hone, hrun]
  exact hfold 0 session

theorem Pruned.listing {indexIds : List String} {before after : Store}
    (h : Pruned indexIds before after) (subscriptionId : Option String) :
    after.listBySubscriptionId subscriptionId =
      (before.listBySubscriptionId subscriptionId).filter fun profile =>
        decide (profile.indexId ∉ indexIds) := by
  apply listing_unique
  · apply (List.perm_ext_iff_of_nodup ?_ ?_).mpr
    · intro profile
      rw [List.mem_filter, Store.mem_listBySubscriptionId, Store.mem_listBySubscriptionId, h.rows,
        decide_eq_true_eq]
      exact and_right_comm
    · exact (List.Nodup.of_map _ (listing_nodup _ _)).filter _
    · exact List.Nodup.of_map _ (listing_nodup _ _)
  · have hsort : ∀ profile ∈ (before.listBySubscriptionId subscriptionId).filter fun profile =>
        decide (profile.indexId ∉ indexIds),
        after.sortOf profile.indexId = before.sortOf profile.indexId := by
      intro profile hprofile
      have hid := of_decide_eq_true (List.mem_filter.mp hprofile).2
      rw [Store.sortOf, Store.sortOf, h.exs _ hid]
    refine ((listing_pairwise before subscriptionId).filter _).imp_of_mem ?_
    intro first second hfirst hsecond hbefore
    rw [Store.profileBefore, hsort first hfirst, hsort second hsecond]
    exact hbefore

end Deleting

section Repairing

def replacement (profiles : List ProfileItem) : Option ProfileItem :=
  (profiles.find? fun profile => profile.port > 0).or profiles.head?

theorem replacement_mem {profiles : List ProfileItem} {profile : ProfileItem}
    (h : replacement profiles = some profile) : profile ∈ profiles := by
  rcases Option.or_eq_some_iff.mp h with h | ⟨_, h⟩
  · exact List.mem_of_find?_eq_some h
  · exact List.mem_of_head? h

theorem replacement_eq_none_iff {profiles : List ProfileItem} :
    replacement profiles = none ↔ profiles = [] := by
  rw [replacement, Option.or_eq_none_iff, List.head?_eq_none_iff]
  constructor
  · exact And.right
  · rintro rfl
    exact ⟨rfl, rfl⟩

/-- The first profile with a port, or the first one where none has a port. -/
def ComesFirst (profiles : List ProfileItem) (profile : ProfileItem) : Prop :=
  ∃ front back, profiles = front ++ profile :: back ∧
    (0 < profile.port ∧ (∀ earlier ∈ front, earlier.port ≤ 0) ∨
      front = [] ∧ ∀ other ∈ profiles, other.port ≤ 0)

theorem replacement_eq_some_iff {profiles : List ProfileItem} {profile : ProfileItem} :
    replacement profiles = some profile ↔ ComesFirst profiles profile := by
  have hfind : (profiles.find? fun profile => decide (profile.port > 0)) = none ↔
      ∀ other ∈ profiles, other.port ≤ 0 := by
    simp [List.find?_eq_none]
  constructor
  · intro h
    rcases Option.or_eq_some_iff.mp h with h | ⟨hnone, h⟩
    · obtain ⟨hport, front, back, hsplit, hfront⟩ := List.find?_eq_some_iff_append.mp h
      refine ⟨front, back, hsplit, Or.inl ⟨of_decide_eq_true hport, fun earlier hearlier => ?_⟩⟩
      simpa using hfront earlier hearlier
    · obtain ⟨back, rfl⟩ := List.head?_eq_some_iff.mp h
      exact ⟨[], back, rfl, Or.inr ⟨rfl, hfind.mp hnone⟩⟩
  · rintro ⟨front, back, rfl, ⟨hport, hfront⟩ | ⟨rfl, hnone⟩⟩
    · apply Option.or_eq_some_iff.mpr
      left
      refine List.find?_eq_some_iff_append.mpr ⟨decide_eq_true hport, front, back, rfl, ?_⟩
      intro earlier hearlier
      simpa using hfront earlier hearlier
    · exact Option.or_eq_some_iff.mpr (Or.inr ⟨hfind.mpr hnone, rfl⟩)

theorem outcome_ensureActiveProfile {ε : Type} (session : Session) :
    ∃ changed after,
      outcome (ensureActiveProfile : Action Session ε Bool) session = (.ok changed, after) ∧
      after.database = session.database ∧
      after.config.indexId =
        if session.config.indexId ≠ "" ∧
            session.database.rows.profiles.contains session.config.indexId = true then
          session.config.indexId
        else ((replacement session.database.listProfiles).map (·.indexId)).getD "" := by
  by_cases hactive : session.config.indexId ≠ "" ∧
      session.database.rows.profiles.contains session.config.indexId = true
  · refine ⟨false, session, ?_, rfl, (if_pos hactive).symm⟩
    rw [ensureActiveProfile, outcome_bind, outcome_get]
    simp only [if_pos hactive, outcome_pure]
  · refine ⟨decide (session.config.indexId ≠ nextActiveProfile session.database.listProfiles),
      session.setActiveProfile (nextActiveProfile session.database.listProfiles), ?_, rfl,
      (if_neg hactive).symm⟩
    rw [ensureActiveProfile, outcome_bind, outcome_get]
    simp only [if_neg hactive]
    rfl

end Repairing

section Dedupe

/-- The profiles of the scope in the order in which the search prefers them. -/
def keepOrder (store : Store) (subscriptionId : Option String) (keepOlder : Bool) :
    List ProfileItem :=
  if keepOlder then store.listBySubscriptionId subscriptionId
  else (store.listBySubscriptionId subscriptionId).reverse

/-- A profile of the scope with a twin that the search prefers. -/
def dropped (store : Store) (subscriptionId : Option String) (keepOlder : Bool)
    (profile : ProfileItem) : Bool :=
  decide (profile ∈ keepOrder store subscriptionId keepOlder) &&
    !profile.configType.isComplexType &&
    ((keepOrder store subscriptionId keepOlder).takeWhile fun other =>
      decide (other ≠ profile)).any fun other => profileItemsMatch other profile false

structure Deduped (subscriptionId : Option String) (removedIndexIds : List String)
    (before after : Store) : Prop where
  noTwins : ∀ first ∈ after.listBySubscriptionId subscriptionId,
    ∀ second ∈ after.listBySubscriptionId subscriptionId,
      ¬ Complex first → ¬ Complex second → Matches first second → first = second
  removed : ∀ profile ∈ before.rows.profiles.rows, profile ∉ after.rows.profiles.rows →
    profile.indexId ∈ removedIndexIds ∧
      ∃ kept ∈ after.listBySubscriptionId subscriptionId, Matches kept profile
  outside : ∀ profile ∈ before.rows.profiles.rows,
    Store.inSubscription subscriptionId profile = false → profile ∈ after.rows.profiles.rows
  kept : ∀ profile ∈ after.rows.profiles.rows, profile ∈ before.rows.profiles.rows ∧
    after.rows.profileExs.get profile.indexId = before.rows.profileExs.get profile.indexId

/-- The active profile is the one that was active before, or a twin of it. -/
def KeepsActive (before after : Session) : Prop :=
  ∀ profile ∈ after.database.rows.profiles.rows, profile.indexId = after.config.indexId →
    profile.indexId = before.config.indexId ∨
      ∃ active ∈ before.database.rows.profiles.rows,
        active.indexId = before.config.indexId ∧ Matches profile active

def DedupesSafely (subscriptionId : Option String) (keepOlder : Bool) (session : Session) : Prop :=
  ∃ result after,
    outcome (dedupeProfiles subscriptionId keepOlder) session = (.ok result, after) ∧
    Deduped subscriptionId result.removedIndexIds session.database after.database ∧
    KeepsActive session after

/-- The active profile has no twin that the search prefers, or the profile that comes first among
those that are not dropped is a twin of it, or there are no profiles. -/
def ActiveSafe (subscriptionId : Option String) (keepOlder : Bool) (session : Session) : Prop :=
  (∃ active ∈ session.database.rows.profiles.rows, active.indexId = session.config.indexId ∧
      ((active.indexId ≠ "" ∧ dropped session.database subscriptionId keepOlder active = false) ∨
        ∃ first, ComesFirst (session.database.listProfiles.filter fun profile =>
            !dropped session.database subscriptionId keepOlder profile) first ∧
          Matches first active)) ∨
    session.database.rows.profiles.rows = []

section Searching

variable {store : Store} {subscriptionId : Option String} {keepOlder : Bool}

theorem mem_keepOrder (profile : ProfileItem) :
    profile ∈ keepOrder store subscriptionId keepOlder ↔
      profile ∈ store.listBySubscriptionId subscriptionId := by
  rw [keepOrder]
  split
  · rfl
  · exact List.mem_reverse

theorem keepOrder_nodup : (keepOrder store subscriptionId keepOlder).Nodup := by
  have hnodup : (store.listBySubscriptionId subscriptionId).Nodup :=
    List.Nodup.of_map _ (listing_nodup _ _)
  rw [keepOrder]
  split
  · exact hnodup
  · exact List.nodup_reverse.mpr hnodup

theorem dropped_iff (profile : ProfileItem) :
    dropped store subscriptionId keepOlder profile = true ↔
      Repeats Complex Matches (keepOrder store subscriptionId keepOlder) profile := by
  rw [repeats_iff_takeWhile keepOrder_nodup, dropped, Bool.and_eq_true, Bool.and_eq_true,
    decide_eq_true_eq, List.any_eq_true, Bool.not_eq_true', ← Bool.not_eq_true, and_assoc]
  rfl

theorem not_dropped_iff (profile : ProfileItem) :
    dropped store subscriptionId keepOlder profile = false ↔
      ¬ Repeats Complex Matches (keepOrder store subscriptionId keepOlder) profile := by
  rw [← dropped_iff, Bool.not_eq_true]

theorem mem_rows_of_keepOrder {profile : ProfileItem}
    (h : profile ∈ keepOrder store subscriptionId keepOlder) :
    profile ∈ store.rows.profiles.rows ∧ Store.inSubscription subscriptionId profile = true :=
  (Store.mem_listBySubscriptionId _ _ _).mp ((mem_keepOrder profile).mp h)

theorem removed_iff_dropped {profile : ProfileItem} (hstored : profile ∈ store.rows.profiles.rows) :
    profile.indexId ∈ ((keepOrder store subscriptionId keepOlder).foldl sortOut ([], [])).2 ↔
      dropped store subscriptionId keepOlder profile = true := by
  rw [mem_removed, dropped_iff]
  constructor
  · rintro ⟨other, hrepeats, hid⟩
    have hother := (mem_rows_of_keepOrder hrepeats.mem).1
    rw [← store.rows.profiles.eq_of_key hother hstored hid]
    exact hrepeats
  · intro hrepeats
    exact ⟨profile, hrepeats, rfl⟩

variable {after : Store}
  (hpruned : Pruned ((keepOrder store subscriptionId keepOlder).foldl sortOut ([], [])).2
    store after)

include hpruned

theorem mem_after (profile : ProfileItem) :
    profile ∈ after.rows.profiles.rows ↔ profile ∈ store.rows.profiles.rows ∧
      dropped store subscriptionId keepOlder profile = false := by
  rw [hpruned.rows]
  constructor
  · rintro ⟨hstored, hid⟩
    rw [removed_iff_dropped hstored, Bool.not_eq_true] at hid
    exact ⟨hstored, hid⟩
  · rintro ⟨hstored, hstays⟩
    rw [removed_iff_dropped hstored, Bool.not_eq_true]
    exact ⟨hstored, hstays⟩

theorem mem_listing_after (profile : ProfileItem) :
    profile ∈ after.listBySubscriptionId subscriptionId ↔
      profile ∈ keepOrder store subscriptionId keepOlder ∧
        ¬ Repeats Complex Matches (keepOrder store subscriptionId keepOlder) profile := by
  rw [Store.mem_listBySubscriptionId, mem_after hpruned, mem_keepOrder,
    Store.mem_listBySubscriptionId, not_dropped_iff]
  exact and_right_comm

theorem listProfiles_after :
    after.listProfiles = store.listProfiles.filter fun profile =>
      !dropped store subscriptionId keepOlder profile := by
  have hall : ∀ store : Store, store.listBySubscriptionId none = store.listProfiles := fun store =>
    List.filter_eq_self.mpr fun _ _ => rfl
  have hlisting := hpruned.listing none
  rw [hall, hall] at hlisting
  rw [hlisting]
  apply List.filter_congr
  intro profile hprofile
  have hstored := (Store.mem_listProfiles _ _).mp hprofile
  rw [Bool.eq_iff_iff, decide_eq_true_eq, removed_iff_dropped hstored, Bool.not_eq_true',
    Bool.not_eq_true]

theorem deduped_of_pruned :
    Deduped subscriptionId ((keepOrder store subscriptionId keepOlder).foldl sortOut ([], [])).2
      store after := by
  constructor
  · intro first hfirst second hsecond hsimple hsimple' hmatch
    obtain ⟨hfirst, hstays⟩ := (mem_listing_after hpruned first).mp hfirst
    obtain ⟨hsecond, hstays'⟩ := (mem_listing_after hpruned second).mp hsecond
    exact eq_of_twin Matches.symm hfirst hsecond hsimple hsimple' hstays hstays' hmatch
  · intro profile hstored hgone
    have hdropped : dropped store subscriptionId keepOlder profile = true := by
      rw [← Bool.not_eq_false]
      exact fun hstays => hgone ((mem_after hpruned profile).mpr ⟨hstored, hstays⟩)
    refine ⟨(removed_iff_dropped hstored).mpr hdropped, ?_⟩
    obtain ⟨_, front, back, hsplit, other, hother, hmatch⟩ := (dropped_iff profile).mp hdropped
    have hother' : other ∈ keepOrder store subscriptionId keepOlder := by
      rw [hsplit]
      exact List.mem_append_left _ hother
    have hbefore : ∃ other ∈ keepOrder store subscriptionId keepOlder, Matches other profile :=
      ⟨other, hother', hmatch⟩
    obtain ⟨first, hfirst, hstays, hmatch'⟩ :=
      @exists_first _ Complex Matches _ profile Matches.trans keepOrder_nodup hbefore
    exact ⟨first, (mem_listing_after hpruned first).mpr ⟨hfirst, hstays⟩, hmatch'⟩
  · intro profile hstored hscope
    refine (mem_after hpruned profile).mpr ⟨hstored, ?_⟩
    rw [not_dropped_iff]
    intro hrepeats
    rw [(mem_rows_of_keepOrder hrepeats.mem).2] at hscope
    cases hscope
  · intro profile hkept
    obtain ⟨hstored, hstays⟩ := (hpruned.rows profile).mp hkept
    exact ⟨hstored, hpruned.exs _ hstays⟩

end Searching

theorem outcome_dedupeProfiles (subscriptionId : Option String) (keepOlder : Bool)
    (session : Session) :
    ∃ result after,
      outcome (dedupeProfiles subscriptionId keepOlder) session = (.ok result, after) ∧
      result.removedIndexIds =
        ((keepOrder session.database subscriptionId keepOlder).foldl sortOut ([], [])).2 ∧
      Pruned ((keepOrder session.database subscriptionId keepOlder).foldl sortOut ([], [])).2
        session.database after.database ∧
      after.config.indexId =
        if session.config.indexId ≠ "" ∧
            after.database.rows.profiles.contains session.config.indexId = true then
          session.config.indexId
        else ((replacement after.database.listProfiles).map (·.indexId)).getD "" := by
  obtain ⟨deleted, between, hdelete, hconfig, hpruned⟩ :=
    @outcome_deleteMany ProfileManagerError
      ((keepOrder session.database subscriptionId keepOlder).foldl sortOut ([], [])).2 session
  obtain ⟨changed, after, hensure, hdatabase, hactive⟩ :=
    @outcome_ensureActiveProfile ProfileManagerError between
  rw [hconfig] at hactive
  refine ⟨{
    total := saturateU32 (keepOrder session.database subscriptionId keepOlder).length
    kept := saturateU32 ((keepOrder session.database subscriptionId keepOlder).length -
      ((keepOrder session.database subscriptionId keepOlder).foldl sortOut ([], [])).2.length)
    removedIndexIds :=
      ((keepOrder session.database subscriptionId keepOlder).foldl sortOut ([], [])).2 },
    after, ?_, rfl, ?_, ?_⟩
  · rw [keepOrder] at hdelete ⊢
    rw [dedupeProfiles]
    simp only [query, outcome_bind, outcome_get, outcome_pure, hdelete, hensure]
  · rw [hdatabase]
    exact hpruned
  · rw [hdatabase]
    exact hactive

/-- The duplicates go and the rest stays in every case. The active profile survives as itself or as
a twin exactly when the condition holds. -/
theorem dedupeProfiles_safe_iff (subscriptionId : Option String) (keepOlder : Bool)
    (session : Session) :
    DedupesSafely subscriptionId keepOlder session ↔
      ActiveSafe subscriptionId keepOlder session := by
  obtain ⟨result, after, hrun, hremoved, hpruned, hactive⟩ :=
    outcome_dedupeProfiles subscriptionId keepOlder session
  have hdeduped := deduped_of_pruned hpruned
  rw [← hremoved] at hdeduped
  have hsafe : DedupesSafely subscriptionId keepOlder session ↔ KeepsActive session after := by
    constructor
    · rintro ⟨result', after', hrun', _, hkeeps⟩
      rw [hrun] at hrun'
      cases hrun'
      exact hkeeps
    · intro hkeeps
      exact ⟨result, after, hrun, hdeduped, hkeeps⟩
  rw [hsafe]
  have hlisted : after.database.listProfiles = session.database.listProfiles.filter fun profile =>
      !dropped session.database subscriptionId keepOlder profile := listProfiles_after hpruned
  by_cases hstays : session.config.indexId ≠ "" ∧
      after.database.rows.profiles.contains session.config.indexId = true
  · -- the active profile is still there and nothing is repaired
    rw [if_pos hstays] at hactive
    obtain ⟨hnonempty, hcontains⟩ := hstays
    obtain ⟨active, hkept, hid⟩ := (KeyedTable.contains_iff ..).mp hcontains
    obtain ⟨hstored, hnot⟩ := (mem_after hpruned active).mp hkept
    constructor
    · intro _
      exact Or.inl ⟨active, hstored, hid, Or.inl ⟨hid ▸ hnonempty, hnot⟩⟩
    · intro _ profile _ hprofile
      exact Or.inl (hprofile.trans hactive)
  · rw [if_neg hstays] at hactive
    cases hreplacement : replacement after.database.listProfiles with
    | none =>
      have hempty := (Store.listProfiles_eq_nil_iff _).mp
        (replacement_eq_none_iff.mp hreplacement)
      have hnothing : session.database.rows.profiles.rows = [] := by
        apply List.eq_nil_iff_forall_not_mem.mpr
        intro profile hstored
        have hgone : profile ∉ after.database.rows.profiles.rows := by
          rw [hempty]
          exact List.not_mem_nil
        obtain ⟨_, kept, hkept, _⟩ := hdeduped.removed profile hstored hgone
        have hkept := ((Store.mem_listBySubscriptionId _ _ _).mp hkept).1
        rw [hempty] at hkept
        cases hkept
      constructor
      · intro _
        exact Or.inr hnothing
      · intro _ profile hprofile
        rw [hempty] at hprofile
        cases hprofile
    | some first =>
      have hfirst : first ∈ after.database.rows.profiles.rows :=
        (Store.mem_listProfiles _ _).mp (replacement_mem hreplacement)
      obtain ⟨hstored, _⟩ := (mem_after hpruned first).mp hfirst
      have hcomes : ComesFirst (session.database.listProfiles.filter fun profile =>
          !dropped session.database subscriptionId keepOlder profile) first := by
        rw [← hlisted]
        exact replacement_eq_some_iff.mp hreplacement
      have hactive : after.config.indexId = first.indexId := by
        rw [hactive, hreplacement]
        rfl
      constructor
      · intro hkeeps
        rcases hkeeps first hfirst hactive.symm with hsame | ⟨active, hold, hid, hmatch⟩
        · exact Or.inl ⟨first, hstored, hsame, Or.inr ⟨first, hcomes, matches_refl first⟩⟩
        · exact Or.inl ⟨active, hold, hid, Or.inr ⟨first, hcomes, hmatch⟩⟩
      · rintro (⟨active, hold, hid, ⟨hnonempty, hnot⟩ | ⟨other, hother, hmatch⟩⟩ | hnothing)
        · have hkept := (mem_after hpruned active).mpr ⟨hold, hnot⟩
          have hcontains := KeyedTable.contains_key _ hkept
          rw [hid] at hnonempty hcontains
          exact absurd ⟨hnonempty, hcontains⟩ hstays
        · rw [← hlisted, ← replacement_eq_some_iff, hreplacement] at hother
          cases hother
          intro profile hprofile hprofileId
          have hsame : profile = first :=
            KeyedTable.eq_of_key _ hprofile hfirst (hprofileId.trans hactive)
          rw [hsame]
          exact Or.inr ⟨active, hold, hid, hmatch⟩
        · rw [hnothing] at hstored
          cases hstored

def serverRow (indexId address : String) : ProfileItem :=
  { indexId, protocol := .socks { address, port := 1080 } "u" "p" }

/-- The active profile is the later one of two twins, behind another server. -/
def twinSession : Session where
  database :=
    { rows :=
        { profiles :=
            { rows := [serverRow "a" "x", serverRow "b" "y", serverRow "c" "y"]
              nodup_keys := by decide } } }
  config := { indexId := "c" }
  readings _ := ⟨0, 0, 0⟩

/-- The search drops the active profile and makes a server active that has nothing to do with it. -/
theorem dedupeProfiles_switches :
    (outcome (dedupeProfiles none true) twinSession).2.config.indexId = "a" ∧
      ¬ DedupesSafely none true twinSession := by
  have hactive : (outcome (dedupeProfiles none true) twinSession).2.config.indexId = "a" := by
    decide +kernel
  refine ⟨hactive, ?_⟩
  rintro ⟨result, after, hrun, _, hkeeps⟩
  have hrows : serverRow "a" "x" ∈
      (outcome (dedupeProfiles none true) twinSession).2.database.rows.profiles.rows := by
    decide +kernel
  rw [hrun] at hactive hrows
  have hunrelated : ∀ active ∈ twinSession.database.rows.profiles.rows,
      active.indexId = twinSession.config.indexId → ¬ Matches (serverRow "a" "x") active := by
    decide +kernel
  rcases hkeeps _ hrows hactive.symm with hsame | ⟨active, hold, hid, hmatch⟩
  · revert hsame
    decide
  · exact hunrelated active hold hid hmatch

end Dedupe

end ProfileDedupe
