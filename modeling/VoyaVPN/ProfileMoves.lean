import VoyaVPN.ProfileManager
import VoyaVPN.RuleMoves

/-! A move of a profile renumbers the listing in steps of ten and gives the moved profile a number
in between. The listing read back is the old one with the profile put back at the place asked for,
as long as the numbers fit. -/
namespace ProfileMoves

open Entities ConfigMutation VoyaStore ActionRules ManagerSession ProfileManager ListMove RuleMoves

section Sorts

variable {session : Session}

/-- The session after sort numbers have been written: the profiles are the same. -/
structure Renumbered (before after : Session) (sortOf : String → Int) : Prop where
  profiles : after.database.rows.profiles = before.database.rows.profiles
  config : after.config = before.config
  sorts : ∀ id, after.database.sortOf id = sortOf id

theorem upsertProfileEx_ok {store : Store} {item : ProfileExItem}
    (hstored : store.rows.profiles.contains item.indexId = true) :
    store.upsertProfileEx item =
      .ok (store.setRows fun rows => { rows with profileExs := rows.profileExs.upsert item }) :=
  if_pos hstored

theorem sortOf_upsert (store : Store) (item : ProfileExItem) (id : String) :
    (store.setRows fun rows => { rows with profileExs := rows.profileExs.upsert item }).sortOf id =
      if item.indexId = id then item.sort else store.sortOf id := by
  rw [Store.sortOf, Store.sortOf, Store.setRows, KeyedTable.get_upsert]
  split <;> rfl

theorem outcome_tryUpsert (session : Session) (item : ProfileExItem)
    (hstored : session.database.rows.profiles.contains item.indexId = true) :
    ∃ after, outcome (tryExecute fun store => store.upsertProfileEx item) session =
      (.ok ⟨⟩, after) ∧
      Renumbered session after
        (fun id => if item.indexId = id then item.sort else session.database.sortOf id) := by
  refine ⟨session.setDatabase (session.database.setRows fun rows =>
    { rows with profileExs := rows.profileExs.upsert item }), ?_, rfl, rfl, sortOf_upsert _ item⟩
  rw [tryExecute]
  simp only [outcome_bind, outcome_get, upsertProfileEx_ok hstored, outcome_set]

theorem outcome_setSort {indexId : String} (sort : Int)
    (hstored : session.database.rows.profiles.contains indexId = true) :
    ∃ after, outcome (setSort indexId sort) session = (.ok ⟨⟩, after) ∧
      Renumbered session after
        (fun id => if indexId = id then sort else session.database.sortOf id) := by
  cases hget : session.database.rows.profileExs.get indexId with
  | some item =>
    have hid : item.indexId = indexId := ((KeyedTable.get_eq_some_iff ..).mp hget).2
    have hensure : outcome (ensureProfileEx indexId) session = (.ok item, session) := by
      rw [ensureProfileEx]
      simp only [query, outcome_bind, outcome_get, outcome_pure, hget]
    obtain ⟨after, hrun, hrenumbered⟩ := outcome_tryUpsert session { item with sort }
      (by simpa only [hid] using hstored)
    refine ⟨after, ?_, by simpa only [hid] using hrenumbered⟩
    rw [setSort, outcome_bind_ok hensure, hrun]
  | none =>
    obtain ⟨between, hinsert, hinserted⟩ := outcome_tryUpsert session { indexId } hstored
    have hensure : outcome (ensureProfileEx indexId) session = (.ok { indexId }, between) := by
      rw [ensureProfileEx]
      simp only [query, outcome_bind, outcome_get, outcome_pure, hget]
      rw [hinsert]
    obtain ⟨after, hrun, hrenumbered⟩ := outcome_tryUpsert between
      { indexId, sort } (by rw [hinserted.profiles]; exact hstored)
    refine ⟨after, ?_, hrenumbered.profiles.trans hinserted.profiles,
      hrenumbered.config.trans hinserted.config, fun id => ?_⟩
    · rw [setSort, outcome_bind_ok hensure, hrun]
    · rw [hrenumbered.sorts, hinserted.sorts]
      split <;> rfl

end Sorts

section Numbering

/-- The number of the profile at an offset when the listing is renumbered. -/
def numberOf (offset : Nat) : Int :=
  wrapI32 ((i32OfUsize offset (2 ^ 31 - 2) + 1) * defaultProfileSortStep)

theorem outcome_setEach (entries : List (String × Nat)) (session : Session)
    (hnodup : (entries.map Prod.fst).Nodup)
    (hstored : ∀ entry ∈ entries, session.database.rows.profiles.contains entry.1 = true) :
    ∃ after, outcome (entries.forM fun entry =>
        adaptError ProfileManagerError.database (setSort entry.1 (numberOf entry.2))) session =
          (.ok ⟨⟩, after) ∧
      after.database.rows.profiles = session.database.rows.profiles ∧
      after.config = session.config ∧
      (∀ entry ∈ entries, after.database.sortOf entry.1 = numberOf entry.2) ∧
      ∀ id ∉ entries.map Prod.fst, after.database.sortOf id = session.database.sortOf id := by
  induction entries generalizing session with
  | nil =>
    refine ⟨session, rfl, rfl, rfl, ?_, fun _ _ => rfl⟩
    intro entry hentry
    cases hentry
  | cons entry entries ih =>
    obtain ⟨hfresh, hnodup⟩ := List.nodup_cons.mp hnodup
    obtain ⟨between, hset, hfirst⟩ :=
      outcome_setSort (numberOf entry.2) (hstored entry List.mem_cons_self)
    have hstored' : ∀ other ∈ entries,
        between.database.rows.profiles.contains other.1 = true := by
      intro other hother
      rw [hfirst.profiles]
      exact hstored other (List.mem_cons_of_mem _ hother)
    obtain ⟨after, hrun, hprofiles, hconfig, hsorts, hothers⟩ := ih between hnodup hstored'
    refine ⟨after, ?_, hprofiles.trans hfirst.profiles, hconfig.trans hfirst.config, ?_, ?_⟩
    · have hone : outcome (adaptError ProfileManagerError.database
          (setSort entry.1 (numberOf entry.2))) session = (.ok ⟨⟩, between) := by
        rw [outcome_adaptError, hset]
        rfl
      change outcome (adaptError ProfileManagerError.database
        (setSort entry.1 (numberOf entry.2)) >>= fun _ => entries.forM fun entry =>
          adaptError ProfileManagerError.database (setSort entry.1 (numberOf entry.2))) session = _
      rw [outcome_bind_ok hone, hrun]
    · intro other hother
      rcases List.mem_cons.mp hother with rfl | hother
      · rw [hothers _ hfresh, hfirst.sorts, if_pos rfl]
      · exact hsorts other hother
    · intro id hid
      rw [List.map_cons, List.mem_cons, not_or] at hid
      rw [hothers id hid.2, hfirst.sorts, if_neg (Ne.symm hid.1)]

theorem outcome_setSorts {indexIds : List String} {session : Session} (hnodup : indexIds.Nodup)
    (hstored : ∀ id ∈ indexIds, session.database.rows.profiles.contains id = true) :
    ∃ after, outcome (setSorts indexIds) session = (.ok ⟨⟩, after) ∧
      after.database.rows.profiles = session.database.rows.profiles ∧
      after.config = session.config ∧
      ∀ (offset : Nat) id, indexIds[offset]? = some id → after.database.sortOf id =
        numberOf offset := by
  have hids : indexIds.zipIdx.map Prod.fst = indexIds := List.zipIdx_map_fst ..
  obtain ⟨after, hrun, hprofiles, hconfig, hsorts, _⟩ := outcome_setEach indexIds.zipIdx session
    (by rw [hids]; exact hnodup) (by
      intro entry hentry
      apply hstored
      rw [← hids]
      exact List.mem_map_of_mem hentry)
  refine ⟨after, hrun, hprofiles, hconfig, fun offset id hid => ?_⟩
  exact hsorts (id, offset) (List.mk_mem_zipIdx_iff_getElem?.mpr hid)

end Numbering

section Listing

theorem listWithProfileEx_ids (store : Store) (subscriptionId : Option String) :
    (store.listWithProfileEx subscriptionId).map (·.1.indexId) =
      (store.listBySubscriptionId subscriptionId).map ProfileItem.indexId := by
  rw [Store.listWithProfileEx, List.map_map]
  rfl

theorem listing_nodup (store : Store) (subscriptionId : Option String) :
    ((store.listBySubscriptionId subscriptionId).map ProfileItem.indexId).Nodup :=
  (List.filter_sublist.map _).nodup store.listProfiles_nodup

theorem listing_perm {first second : Store} (subscriptionId : Option String)
    (hprofiles : first.rows.profiles = second.rows.profiles) :
    (first.listBySubscriptionId subscriptionId).Perm
      (second.listBySubscriptionId subscriptionId) := by
  apply List.Perm.filter
  rw [Store.listProfiles, Store.listProfiles, hprofiles]
  exact (List.perm_insertionSort _ _).trans (List.perm_insertionSort _ _).symm

theorem profileBefore_total (store : Store) (first second : ProfileItem) :
    store.profileBefore first second ∨ store.profileBefore second first := by
  rcases lt_trichotomy (store.sortOf first.indexId) (store.sortOf second.indexId) with h | h | h
  · exact Or.inl (Or.inl h)
  · rcases le_total first.indexId.toList second.indexId.toList with hid | hid
    · exact Or.inl (Or.inr ⟨h, hid⟩)
    · exact Or.inr (Or.inr ⟨h.symm, hid⟩)
  · exact Or.inr (Or.inl h)

theorem profileBefore_trans (store : Store) {first second third : ProfileItem}
    (hfirst : store.profileBefore first second) (hsecond : store.profileBefore second third) :
    store.profileBefore first third := by
  rcases hfirst with hfirst | ⟨hfirst, hid⟩
  · rcases hsecond with hsecond | ⟨hsecond, _⟩
    · exact Or.inl (hfirst.trans hsecond)
    · exact Or.inl (hsecond ▸ hfirst)
  · rcases hsecond with hsecond | ⟨hsecond, hid'⟩
    · exact Or.inl (hfirst ▸ hsecond)
    · exact Or.inr ⟨hfirst.trans hsecond, hid.trans hid'⟩

instance (store : Store) : Std.Total store.profileBefore := ⟨profileBefore_total store⟩

instance (store : Store) : IsTrans ProfileItem store.profileBefore :=
  ⟨fun _ _ _ => profileBefore_trans store⟩

theorem listing_pairwise (store : Store) (subscriptionId : Option String) :
    (store.listBySubscriptionId subscriptionId).Pairwise store.profileBefore :=
  (List.pairwise_insertionSort _ _).filter _

theorem listing_unique {store : Store} {subscriptionId : Option String} {items : List ProfileItem}
    (hperm : items.Perm (store.listBySubscriptionId subscriptionId))
    (hordered : items.Pairwise store.profileBefore) :
    store.listBySubscriptionId subscriptionId = items := by
  refine List.Perm.eq_of_pairwise ?_ (listing_pairwise store subscriptionId) hordered hperm.symm
  intro first second hfirst hsecond hbefore hafter
  have hrow : ∀ item ∈ store.listBySubscriptionId subscriptionId,
      item ∈ store.rows.profiles.rows := fun item h =>
    ((store.mem_listBySubscriptionId subscriptionId item).mp h).1
  apply store.rows.profiles.eq_of_key (hrow first hfirst) (hrow second (hperm.mem_iff.mp hsecond))
  rcases hbefore with h | ⟨hsort, hid⟩
  · rcases hafter with h' | ⟨h', _⟩ <;> omega
  · rcases hafter with h' | ⟨_, hid'⟩
    · omega
    · exact String.toList_inj.mp (le_antisymm hid hid')

end Listing

section Moving

/-- The number of the moved profile; one that stays where it is keeps the number of its place. -/
def movedNumber (index count : Nat) (position : Option Int) (action : MoveAction) : Int :=
  (nextSort index count position action).getD (numberOf index)

theorem outcome_moveProfile {session : Session} {subscriptionId : Option String} {index : Nat}
    {profile : ProfileItem}
    (hprofile : (session.database.listBySubscriptionId subscriptionId)[index]? = some profile)
    (action : MoveAction) (position : Option Int) :
    ∃ items after,
      outcome (moveProfile subscriptionId profile.indexId action position) session =
        (.ok items, after) ∧
      items.map (·.profile) = after.database.listBySubscriptionId subscriptionId ∧
      after.database.rows.profiles = session.database.rows.profiles ∧
      ∀ (offset : Nat) other,
        (session.database.listBySubscriptionId subscriptionId)[offset]? = some other →
        after.database.sortOf other.indexId =
          if offset = index then
            movedNumber index (session.database.listBySubscriptionId subscriptionId).length position
              action
          else numberOf offset := by
  generalize hlisting : session.database.listBySubscriptionId subscriptionId = listing at *
  have hnodup : (listing.map ProfileItem.indexId).Nodup := by
    rw [← hlisting]
    exact listing_nodup _ _
  have hids : (session.database.listWithProfileEx subscriptionId).map (·.1.indexId) =
      listing.map ProfileItem.indexId := by
    rw [listWithProfileEx_ids, hlisting]
  have hget : (listing.map ProfileItem.indexId)[index]? = some profile.indexId := by
    rw [List.getElem?_map, hprofile]
    rfl
  have hmem : profile.indexId ∈ listing.map ProfileItem.indexId := List.mem_of_getElem? hget
  have hindex : (listing.map ProfileItem.indexId).idxOf profile.indexId = index := by
    obtain ⟨hlt, hvalue⟩ := List.getElem?_eq_some_iff.mp hget
    rw [← hvalue]
    exact hnodup.idxOf_getElem index hlt
  have hstored : ∀ id ∈ listing.map ProfileItem.indexId,
      session.database.rows.profiles.contains id = true := by
    intro id hid
    obtain ⟨other, hother, rfl⟩ := List.mem_map.mp hid
    rw [← hlisting] at hother
    exact KeyedTable.contains_key _ ((Store.mem_listBySubscriptionId _ _ _).mp hother).1
  obtain ⟨between, hnumber, hprofiles, _, hnumbers⟩ := outcome_setSorts hnodup hstored
  have hnumbers : ∀ (offset : Nat) other, listing[offset]? = some other →
      between.database.sortOf other.indexId = numberOf offset := by
    intro offset other hother
    apply hnumbers
    rw [List.getElem?_map, hother]
    rfl
  have hread : ∀ final : Session,
      outcome (ProfileManager.listProfiles subscriptionId :
          Action Session ProfileManagerError (List ProfileListItem)) final =
        (.ok ((final.database.listWithProfileEx subscriptionId).map fun item =>
          toListItem final.config item.1 item.2), final) := fun _ => rfl
  have hitems : ∀ final : Session,
      ((final.database.listWithProfileEx subscriptionId).map fun item =>
          toListItem final.config item.1 item.2).map (·.profile) =
        final.database.listBySubscriptionId subscriptionId := by
    intro final
    rw [Store.listWithProfileEx, List.map_map, List.map_map]
    exact List.map_id _
  cases hnext : nextSort index listing.length position action with
  | none =>
    have hrun : outcome (moveProfile subscriptionId profile.indexId action position) session =
        outcome (ProfileManager.listProfiles subscriptionId) between := by
      rw [moveProfile]
      simp only [query, outcome_bind, outcome_get, outcome_pure, hids, hmem, not_true, if_false,
        hnumber, hindex, List.length_map, hnext]
    rw [hrun]
    refine ⟨_, between, hread between, hitems between, hprofiles, fun offset other hother => ?_⟩
    rw [hnumbers offset other hother, movedNumber, hnext]
    split
    · rename_i hsame
      rw [hsame]
      rfl
    · rfl
  | some sort =>
    have hkept : between.database.rows.profiles.contains profile.indexId = true := by
      rw [hprofiles]
      exact hstored _ hmem
    obtain ⟨after, hset, hmoved⟩ := outcome_setSort sort hkept
    have hone : outcome (adaptError ProfileManagerError.database (setSort profile.indexId sort))
        between = (.ok ⟨⟩, after) := by
      rw [outcome_adaptError, hset]
      rfl
    have hrun : outcome (moveProfile subscriptionId profile.indexId action position) session =
        outcome (ProfileManager.listProfiles subscriptionId) after := by
      rw [moveProfile]
      simp only [query, outcome_bind, outcome_get, outcome_pure, hids, hmem, not_true, if_false,
        hnumber, hindex, List.length_map, hnext, hone]
    rw [hrun]
    refine ⟨_, after, hread after, hitems after,
      hmoved.profiles.trans hprofiles, fun offset other hother => ?_⟩
    rw [hmoved.sorts, movedNumber, hnext]
    by_cases hsame : offset = index
    · subst hsame
      rw [hprofile] at hother
      cases hother
      rw [if_pos rfl, if_pos rfl]
      rfl
    · have hdistinct : profile.indexId ≠ other.indexId := by
        intro hequal
        have hother' : (listing.map ProfileItem.indexId)[offset]? = some profile.indexId := by
          rw [List.getElem?_map, hother, hequal]
          rfl
        obtain ⟨hlt, hvalue⟩ := List.getElem?_eq_some_iff.mp hother'
        obtain ⟨hlt', hvalue'⟩ := List.getElem?_eq_some_iff.mp hget
        exact hsame ((hnodup.getElem_inj_iff).mp (hvalue.trans hvalue'.symm))
      rw [if_neg hdistinct, if_neg hsame]
      exact hnumbers offset other hother

end Moving

section Overflow

def FitsI32 (value : Int) : Prop := -2 ^ 31 ≤ value ∧ value < 2 ^ 31

/-- What `move_profile` computes on its way, before any of it could wrap around. -/
def intermediates (index count : Nat) (position : Option Int) (action : MoveAction) : List Int :=
  ((List.range count).flatMap fun offset =>
    [i32OfUsize offset (2 ^ 31 - 2) + 1,
      (i32OfUsize offset (2 ^ 31 - 2) + 1) * defaultProfileSortStep]) ++
  match action with
  | .top => if index = 0 then [] else [defaultProfileSortStep - 1]
  | .up =>
    let index' := i32OfUsize index ((2 ^ 31 - 1) / defaultProfileSortStep)
    if index = 0 then []
    else [index' * defaultProfileSortStep, index' * defaultProfileSortStep - 1]
  | .down =>
    let index' := i32OfUsize index ((2 ^ 31 - 1) / defaultProfileSortStep)
    if index + 1 ≥ count then []
    else [index' + 2, (index' + 2) * defaultProfileSortStep,
      (index' + 2) * defaultProfileSortStep + 1]
  | .bottom =>
    let count' := i32OfUsize count ((2 ^ 31 - 1) / defaultProfileSortStep)
    if index + 1 ≥ count then []
    else [count' * defaultProfileSortStep, count' * defaultProfileSortStep + 1]
  | .position =>
    [position.getD 0 * defaultProfileSortStep, position.getD 0 * defaultProfileSortStep + 1]

def NoOverflow (index count : Nat) (position : Option Int) (action : MoveAction) : Prop :=
  ∀ value ∈ intermediates index count position action, FitsI32 value

/-- The listing and the requested position are small enough for numbers ten apart. -/
structure Fits (count : Nat) (position : Option Int) (action : MoveAction) : Prop where
  count : count ≤ 214748364
  position : action = .position →
    -214748364 ≤ position.getD 0 ∧ position.getD 0 ≤ 214748364

theorem i32OfUsize_of_lt {value : Nat} (h : value < 2 ^ 31) (otherwise : Int) :
    i32OfUsize value otherwise = value :=
  if_pos h

theorem wrapI32_of_fits {value : Int} (h : FitsI32 value) : wrapI32 value = value := by
  obtain ⟨hlow, hhigh⟩ := h
  rw [wrapI32]
  apply Int.bmod_eq_of_le <;> omega

theorem noOverflow_iff {index count : Nat} (hindex : index < count) (position : Option Int)
    (action : MoveAction) :
    NoOverflow index count position action ↔ Fits count position action := by
  constructor
  · intro hfits
    constructor
    · by_contra hcount
      have hmem : (i32OfUsize 214748364 (2 ^ 31 - 2) + 1) * defaultProfileSortStep ∈
          intermediates index count position action := by
        apply List.mem_append_left
        refine List.mem_flatMap.mpr ⟨214748364, List.mem_range.mpr (by omega), ?_⟩
        exact List.mem_cons_of_mem _ List.mem_cons_self
      have hbad := (hfits _ hmem).2
      rw [i32OfUsize_of_lt (by omega)] at hbad
      simp only [defaultProfileSortStep] at hbad
      omega
    · rintro rfl
      have hmem : ∀ value ∈ [position.getD 0 * defaultProfileSortStep,
          position.getD 0 * defaultProfileSortStep + 1], FitsI32 value :=
        fun value hvalue => hfits value (List.mem_append_right _ hvalue)
      have hlow := (hmem _ List.mem_cons_self).1
      have hhigh := (hmem _ (List.mem_cons_of_mem _ List.mem_cons_self)).2
      simp only [defaultProfileSortStep] at hlow hhigh
      omega
  · intro hfits value hvalue
    have hcount := hfits.count
    rcases List.mem_append.mp hvalue with hvalue | hvalue
    · obtain ⟨offset, hoffset, hvalue⟩ := List.mem_flatMap.mp hvalue
      have hoffset := List.mem_range.mp hoffset
      rw [i32OfUsize_of_lt (by omega)] at hvalue
      simp only [defaultProfileSortStep, List.mem_cons, List.not_mem_nil, or_false] at hvalue
      rw [FitsI32]
      omega
    · have hsmall : i32OfUsize index ((2 ^ 31 - 1) / 10) = index := i32OfUsize_of_lt (by omega) _
      have hsmall' : i32OfUsize count ((2 ^ 31 - 1) / 10) = count := i32OfUsize_of_lt (by omega) _
      rw [FitsI32]
      cases action with
      | top =>
        simp only [defaultProfileSortStep] at hvalue
        split at hvalue
        · cases hvalue
        · have hvalue := List.mem_singleton.mp hvalue
          omega
      | up =>
        simp only [defaultProfileSortStep, hsmall] at hvalue
        split at hvalue
        · cases hvalue
        · simp only [List.mem_cons, List.not_mem_nil, or_false] at hvalue
          omega
      | down =>
        simp only [defaultProfileSortStep, hsmall] at hvalue
        split at hvalue
        · cases hvalue
        · simp only [List.mem_cons, List.not_mem_nil, or_false] at hvalue
          omega
      | bottom =>
        simp only [defaultProfileSortStep, hsmall'] at hvalue
        split at hvalue
        · cases hvalue
        · simp only [List.mem_cons, List.not_mem_nil, or_false] at hvalue
          omega
      | position =>
        have hposition := hfits.position rfl
        simp only [defaultProfileSortStep, List.mem_cons, List.not_mem_nil, or_false] at hvalue
        omega

theorem numberOf_eq {offset : Nat} (h : offset < 214748364) :
    numberOf offset = 10 * (offset + 1) := by
  have hfits : FitsI32 (((offset : Int) + 1) * 10) := by
    rw [FitsI32]
    omega
  rw [numberOf, i32OfUsize_of_lt (by omega), defaultProfileSortStep, wrapI32_of_fits hfits]
  omega

theorem movedNumber_eq {index count : Nat} (hindex : index < count) {position : Option Int}
    {action : MoveAction} (h : Fits count position action) :
    movedNumber index count position action =
      match action with
      | .top => if index = 0 then 10 else 9
      | .up => if index = 0 then 10 else 10 * (index : Int) - 1
      | .down => if index + 1 ≥ count then 10 * ((index : Int) + 1) else 10 *
        ((index : Int) + 2) + 1
      | .bottom => if index + 1 ≥ count then 10 * ((index : Int) + 1) else 10 * (count : Int) + 1
      | .position => 10 * position.getD 0 + 1 := by
  have hcount := h.count
  have hnumber : numberOf index = 10 * (index + 1) := numberOf_eq (by omega)
  have hwrap : ∀ value : Int, -2147483648 ≤ value → value ≤ 2147483647 → wrapI32 value = value := by
    intro value hlow hhigh
    apply wrapI32_of_fits
    rw [FitsI32]
    omega
  have hsmall : i32OfUsize index ((2 ^ 31 - 1) / 10) = index := i32OfUsize_of_lt (by omega) _
  have hsmall' : i32OfUsize count ((2 ^ 31 - 1) / 10) = count := i32OfUsize_of_lt (by omega) _
  rw [movedNumber, hnumber]
  cases action with
  | top =>
    simp only [nextSort, defaultProfileSortStep]
    split
    · rename_i hzero
      subst hzero
      rfl
    · rfl
  | up =>
    simp only [nextSort, defaultProfileSortStep, hsmall]
    split
    · rename_i hzero
      subst hzero
      rfl
    · rw [Option.getD_some, hwrap _ (by omega) (by omega)]
      omega
  | down =>
    simp only [nextSort, defaultProfileSortStep, hsmall]
    split
    · rfl
    · rw [Option.getD_some, hwrap _ (by omega) (by omega)]
      omega
  | bottom =>
    simp only [nextSort, defaultProfileSortStep, hsmall']
    split
    · rfl
    · rw [Option.getD_some, hwrap _ (by omega) (by omega)]
      omega
  | position =>
    have hposition := h.position rfl
    simp only [nextSort, defaultProfileSortStep]
    rw [Option.getD_some, hwrap _ (by omega) (by omega)]
    omega

/-- The number of the moved profile lies between those of its new neighbours. -/
theorem movedNumber_between {index count : Nat} (hindex : index < count) {position : Option Int}
    {action : MoveAction} (h : Fits count position action) {offset : Nat}
    (hoffset : offset + 1 < count) :
    (offset < requestedPlace index count (position.getD 0).toNat action →
      10 * ((if offset < index then offset else offset + 1 : Nat) + 1) <
        movedNumber index count position action) ∧
    (requestedPlace index count (position.getD 0).toNat action ≤ offset →
      movedNumber index count position action <
        10 * ((if offset < index then offset else offset + 1 : Nat) + 1)) := by
  rw [movedNumber_eq hindex h]
  cases action with
  | top =>
    simp only [requestedPlace]
    split_ifs <;> omega
  | up =>
    simp only [requestedPlace]
    split_ifs <;> omega
  | down =>
    simp only [requestedPlace]
    split_ifs <;> omega
  | bottom =>
    simp only [requestedPlace]
    split_ifs <;> omega
  | position =>
    simp only [requestedPlace, placeBefore]
    split_ifs <;> omega

theorem requestedPlace_lt {index count : Nat} (hindex : index < count) (position : Nat)
    (action : MoveAction) : requestedPlace index count position action ≤ count - 1 := by
  cases action with
  | top => exact Nat.zero_le _
  | up =>
    simp only [requestedPlace]
    omega
  | down =>
    simp only [requestedPlace]
    omega
  | bottom => exact le_refl _
  | position =>
    simp only [requestedPlace, placeBefore]
    split_ifs <;> omega

end Overflow

section Moves

/-- The listing read back is the old one with the profile put back at the place asked for, and no
number on the way was too large. A negative position asks for the first place. -/
def MovesAsAsked (subscriptionId : Option String) (indexId : String) (action : MoveAction)
    (position : Option Int) (session : Session) : Prop :=
  ∃ index profile items after,
    (session.database.listBySubscriptionId subscriptionId)[index]? = some profile ∧
    profile.indexId = indexId ∧
    NoOverflow index (session.database.listBySubscriptionId subscriptionId).length position action ∧
    outcome (moveProfile subscriptionId indexId action position) session = (.ok items, after) ∧
    items.map (·.profile) = after.database.listBySubscriptionId subscriptionId ∧
    after.database.listBySubscriptionId subscriptionId =
      reinsert (session.database.listBySubscriptionId subscriptionId) index
        (requestedPlace index (session.database.listBySubscriptionId subscriptionId).length
          (position.getD 0).toNat action)

theorem reinsert_ordered {session after : Session} {subscriptionId : Option String} {index : Nat}
    {profile : ProfileItem} {action : MoveAction} {position : Option Int}
    (hprofile : (session.database.listBySubscriptionId subscriptionId)[index]? = some profile)
    (hfits : Fits (session.database.listBySubscriptionId subscriptionId).length position action)
    (hnumbers : ∀ (offset : Nat) other,
      (session.database.listBySubscriptionId subscriptionId)[offset]? = some other →
      after.database.sortOf other.indexId =
        if offset = index then
          movedNumber index (session.database.listBySubscriptionId subscriptionId).length position
            action
        else numberOf offset) :
    (reinsert (session.database.listBySubscriptionId subscriptionId) index
      (requestedPlace index (session.database.listBySubscriptionId subscriptionId).length
        (position.getD 0).toNat action)).Pairwise after.database.profileBefore := by
  generalize session.database.listBySubscriptionId subscriptionId = listing at *
  obtain ⟨hindex, _⟩ := List.getElem?_eq_some_iff.mp hprofile
  have hcount := hfits.count
  have hlength : (listing.eraseIdx index).length = listing.length - 1 :=
    List.length_eraseIdx_of_lt hindex
  -- the others keep the numbers of the places they had
  have hothers : ∀ (offset : Nat) other, (listing.eraseIdx index)[offset]? = some other →
      offset + 1 < listing.length ∧ after.database.sortOf other.indexId =
        10 * ((if offset < index then offset else offset + 1 : Nat) + 1) := by
    intro offset other hother
    obtain ⟨hlt, _⟩ := List.getElem?_eq_some_iff.mp hother
    refine ⟨by omega, ?_⟩
    rw [List.getElem?_eraseIdx] at hother
    split at hother
    · rename_i hbefore
      rw [hnumbers offset other hother, if_neg (by omega), numberOf_eq (by omega), if_pos hbefore]
    · rename_i hafter
      rw [hnumbers (offset + 1) other hother, if_neg (by omega), numberOf_eq (by omega),
        if_neg hafter]
  have hmoved := hnumbers index profile hprofile
  rw [if_pos rfl] at hmoved
  rw [reinsert_of_getElem? hprofile]
  apply pairwise_insertIdx
  · rw [hlength]
    exact requestedPlace_lt hindex _ _
  · apply List.pairwise_iff_getElem.mpr
    intro first second hfirst hsecond hlt
    obtain ⟨_, hsort⟩ := hothers first _ (List.getElem?_eq_getElem hfirst)
    obtain ⟨_, hsort'⟩ := hothers second _ (List.getElem?_eq_getElem hsecond)
    left
    rw [hsort, hsort']
    split_ifs <;> omega
  · intro offset other hother hlt
    obtain ⟨hshort, hsort⟩ := hothers offset other hother
    left
    rw [hsort, hmoved]
    exact (movedNumber_between hindex hfits hshort).1 hlt
  · intro offset other hother hle
    obtain ⟨hshort, hsort⟩ := hothers offset other hother
    left
    rw [hsort, hmoved]
    exact (movedNumber_between hindex hfits hshort).2 hle

theorem moveProfile_reinserts_iff (subscriptionId : Option String) (indexId : String)
    (action : MoveAction) (position : Option Int) (session : Session) :
    MovesAsAsked subscriptionId indexId action position session ↔
      (∃ profile ∈ session.database.listBySubscriptionId subscriptionId,
        profile.indexId = indexId) ∧
      Fits (session.database.listBySubscriptionId subscriptionId).length position action := by
  constructor
  · rintro ⟨index, profile, items, after, hprofile, hid, hfits, _⟩
    obtain ⟨hindex, _⟩ := List.getElem?_eq_some_iff.mp hprofile
    exact ⟨⟨profile, List.mem_of_getElem? hprofile, hid⟩,
      (noOverflow_iff hindex position action).mp hfits⟩
  · rintro ⟨⟨profile, hmem, rfl⟩, hfits⟩
    obtain ⟨index, hprofile⟩ := List.getElem?_of_mem hmem
    obtain ⟨hindex, _⟩ := List.getElem?_eq_some_iff.mp hprofile
    obtain ⟨items, after, hrun, hitems, hprofiles, hnumbers⟩ :=
      outcome_moveProfile hprofile action position
    refine ⟨index, profile, items, after, hprofile, rfl,
      (noOverflow_iff hindex position action).mpr hfits, hrun, hitems, ?_⟩
    apply listing_unique
    · have hplace : requestedPlace index
          (session.database.listBySubscriptionId subscriptionId).length (position.getD 0).toNat
          action ≤ ((session.database.listBySubscriptionId subscriptionId).eraseIdx
            index).length := by
        rw [List.length_eraseIdx_of_lt hindex]
        exact requestedPlace_lt hindex _ _
      exact (reinsert_perm hindex hplace).trans (listing_perm subscriptionId hprofiles.symm)
    · exact reinsert_ordered hprofile hfits hnumbers

def twoProfiles : Session where
  database := { rows := { profiles := { rows := [{ indexId := "a" }, { indexId := "b" }] } } }
  config := {}
  readings _ := ⟨0, 0, 0⟩

/-- A position far beyond the end wraps around to a number before the first one. -/
theorem moveProfile_wraps :
    (outcome (moveProfile none "a" .position (some 300000000)) twoProfiles).1.map
        (fun items => items.map (·.profile.indexId)) = .ok ["a", "b"] ∧
      reinsert ["a", "b"] 0 (requestedPlace 0 2 300000000 .position) = ["b", "a"] ∧
      ¬ MovesAsAsked none "a" .position (some 300000000) twoProfiles := by
  refine ⟨by decide +kernel, by decide, ?_⟩
  rintro ⟨index, profile, _, _, hprofile, _, hfits, _⟩
  obtain ⟨hindex, _⟩ := List.getElem?_eq_some_iff.mp hprofile
  have hposition := ((noOverflow_iff hindex _ _).mp hfits).position rfl
  exact absurd hposition.2 (by decide)

end Moves

end ProfileMoves
