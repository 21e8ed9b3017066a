import VoyaVPN.CycleSearch
import VoyaVPN.ProfileBundle

/-! Which bundles pass the check of an import, and that the search through their groups ends. -/
namespace BundleValidator

open ProfileBundle CycleSearch

variable {profiles : List VoyaBundleProfile}

section Search

mutual

/-- The search from a reference, as it recurses: each way it can end. -/
inductive Visits (profiles : List VoyaBundleProfile) :
    Branch → String → Except String Branch → Prop where
  | visited {branch : Branch} {reference : String} : reference ∈ branch.visited →
      Visits profiles branch reference (.ok branch)
  | cycle {branch : Branch} {reference : String} : reference ∉ branch.visited →
      reference ∈ branch.visiting →
      Visits profiles branch reference
        (invalidVoyaBundle ("profile reference cycle includes " ++ reference))
  | unresolved {branch : Branch} {reference : String} : reference ∉ branch.visited →
      reference ∉ branch.visiting →
      profiles.find? (fun profile => profile.reference = reference) = none →
      Visits profiles branch reference (invalidVoyaBundle ("unresolved profile " ++ reference))
  | failed {branch : Branch} {reference error : String} {profile : VoyaBundleProfile} :
      reference ∉ branch.visited → reference ∉ branch.visiting →
      profiles.find? (fun profile => profile.reference = reference) = some profile →
      VisitsAll profiles { branch with visiting := reference :: branch.visiting } profile.childRefs
        (.error error) →
      Visits profiles branch reference (.error error)
  | done {branch below : Branch} {reference : String} {profile : VoyaBundleProfile} :
      reference ∉ branch.visited → reference ∉ branch.visiting →
      profiles.find? (fun profile => profile.reference = reference) = some profile →
      VisitsAll profiles { branch with visiting := reference :: branch.visiting } profile.childRefs
        (.ok below) →
      Visits profiles branch reference (.ok {
        visiting := below.visiting.erase reference
        visited := reference :: below.visited })

inductive VisitsAll (profiles : List VoyaBundleProfile) :
    Branch → List String → Except String Branch → Prop where
  | nil {branch : Branch} : VisitsAll profiles branch [] (.ok branch)
  | failed {branch : Branch} {child error : String} {children : List String} :
      Visits profiles branch child (.error error) →
      VisitsAll profiles branch (child :: children) (.error error)
  | cons {branch between : Branch} {child : String} {children : List String}
      {result : Except String Branch} : Visits profiles branch child (.ok between) →
      VisitsAll profiles between children result →
      VisitsAll profiles branch (child :: children) result

end

/-- The entry that a reference is looked up as has the child. -/
def Leads (profiles : List VoyaBundleProfile) (reference child : String) : Prop :=
  ∃ profile, profiles.find? (fun profile => profile.reference = reference) = some profile ∧
    child ∈ profile.childRefs

def Resolved (profiles : List VoyaBundleProfile) (reference : String) : Prop :=
  ∃ profile ∈ profiles, profile.reference = reference

/-- Something the search finds wrong: a cycle, or a child that is no entry. -/
def Faulty (profiles : List VoyaBundleProfile) : Prop :=
  (∃ reference, Relation.TransGen (Leads profiles) reference reference) ∨
    ∃ reference child, Leads profiles reference child ∧ ¬Resolved profiles child

structure Searching (profiles : List VoyaBundleProfile) (branch : Branch) (reference : String) :
    Prop where
  trail : Trail (Leads profiles) branch.visiting reference
  finished : Finished (Leads profiles) branch.visited
  nodup : branch.visiting.Nodup
  entries : ∀ v ∈ branch.visiting, v ∈ profiles.map VoyaBundleProfile.reference
  known : ∀ v ∈ branch.visited, v ∈ profiles.map VoyaBundleProfile.reference

/-- What a search that succeeds leaves: the way as it was, and more references done. -/
structure Searched (profiles : List VoyaBundleProfile) (branch below : Branch) : Prop where
  visiting : below.visiting = branch.visiting
  finished : Finished (Leads profiles) below.visited
  grows : ∀ r ∈ branch.visited, r ∈ below.visited
  known : ∀ v ∈ below.visited, v ∈ profiles.map VoyaBundleProfile.reference

def Outcome (profiles : List VoyaBundleProfile) (branch : Branch) (references : List String)
    (result : Except String Branch) : Prop :=
  match result with
  | .ok below => Searched profiles branch below ∧ ∀ r ∈ references, r ∈ below.visited
  | .error _ => Faulty profiles

theorem Searching.length_le {branch : Branch} {reference : String}
    (h : Searching profiles branch reference) : branch.visiting.length ≤ profiles.length := by
  have hsub : branch.visiting ⊆ profiles.map VoyaBundleProfile.reference := h.entries
  simpa using (List.subperm_of_subset h.nodup hsub).length_le

theorem resolved_iff_find {reference : String} :
    Resolved profiles reference ↔
      ∃ profile, profiles.find? (fun profile => profile.reference = reference) = some profile := by
  rw [← Option.isSome_iff_exists, List.find?_isSome]
  simp [Resolved]

theorem children_outcome {fuel : Nat} {way : List String} {children : List String}
    (ih : ∀ branch, branch.visiting = way → Finished (Leads profiles) branch.visited →
      (∀ v ∈ branch.visited, v ∈ profiles.map VoyaBundleProfile.reference) → ∀ child ∈ children,
        Visits profiles branch child (validateVoyaBundleBranch profiles fuel branch child) ∧
        Outcome profiles branch [child] (validateVoyaBundleBranch profiles fuel branch child))
    {branch : Branch} (hway : branch.visiting = way)
    (hfinished : Finished (Leads profiles) branch.visited)
    (hknown : ∀ v ∈ branch.visited, v ∈ profiles.map VoyaBundleProfile.reference) :
    VisitsAll profiles branch children
        (children.foldlM (validateVoyaBundleBranch profiles fuel) branch) ∧
      Outcome profiles branch children
        (children.foldlM (validateVoyaBundleBranch profiles fuel) branch) := by
  induction children generalizing branch with
  | nil => exact ⟨.nil, ⟨rfl, hfinished, fun _ h => h, hknown⟩, by simp⟩
  | cons child children ihc =>
    obtain ⟨hvisit, houtcome⟩ := ih branch hway hfinished hknown child (by simp)
    rw [List.foldlM_cons]
    cases hrun : validateVoyaBundleBranch profiles fuel branch child with
    | error error =>
      rw [hrun] at hvisit houtcome
      exact ⟨.failed hvisit, houtcome⟩
    | ok between =>
      rw [hrun] at hvisit houtcome
      obtain ⟨hsearched, hchild⟩ := houtcome
      obtain ⟨hall, hrest⟩ := ihc (fun b hb hf hk c hc =>
        ih b hb hf hk c (List.mem_cons_of_mem _ hc))
        (hsearched.visiting.trans hway) hsearched.finished hsearched.known
      refine ⟨.cons hvisit hall, ?_⟩
      show Outcome profiles branch (child :: children)
        (children.foldlM (validateVoyaBundleBranch profiles fuel) between)
      cases hend : children.foldlM (validateVoyaBundleBranch profiles fuel) between with
      | error error =>
        rw [hend] at hrest
        exact hrest
      | ok below =>
        rw [hend] at hrest
        obtain ⟨hbelow, hchildren⟩ := hrest
        refine ⟨⟨hbelow.visiting.trans hsearched.visiting, hbelow.finished,
          fun r hr => hbelow.grows r (hsearched.grows r hr), hbelow.known⟩, ?_⟩
        intro r hr
        rcases List.mem_cons.mp hr with rfl | hr
        · exact hbelow.grows r (hchild r (by simp))
        · exact hchildren r hr

/-- The search ends within the fuel, whatever the graph, and what it finds is right. -/
theorem branch_outcome {fuel : Nat} {branch : Branch} {reference : String}
    (hsearching : Searching profiles branch reference)
    (hroot : branch.visiting = [] → Resolved profiles reference)
    (hfuel : profiles.length < fuel + branch.visiting.length) :
    Visits profiles branch reference (validateVoyaBundleBranch profiles fuel branch reference) ∧
      Outcome profiles branch [reference]
        (validateVoyaBundleBranch profiles fuel branch reference) := by
  induction fuel generalizing branch reference with
  | zero =>
    have hlength := hsearching.length_le
    omega
  | succ fuel ih =>
    rw [validateVoyaBundleBranch]
    by_cases hvisited : reference ∈ branch.visited
    · rw [if_pos hvisited]
      exact ⟨.visited hvisited, ⟨rfl, hsearching.finished, fun _ h => h, hsearching.known⟩,
        by simpa using hvisited⟩
    · rw [if_neg hvisited]
      by_cases hvisiting : reference ∈ branch.visiting
      · rw [if_pos hvisiting]
        exact ⟨.cycle hvisited hvisiting, .inl ⟨reference, hsearching.trail.cycle hvisiting⟩⟩
      · rw [if_neg hvisiting]
        cases hfind : profiles.find? fun profile => profile.reference = reference with
        | none =>
          refine ⟨.unresolved hvisited hvisiting hfind, ?_⟩
          have hmissing : ¬Resolved profiles reference := by
            rw [resolved_iff_find, hfind]
            simp
          rcases hsearching.trail.last with hway | ⟨group, -, hleads⟩
          · exact absurd (hroot hway) hmissing
          · exact .inr ⟨group, reference, hleads, hmissing⟩
        | some profile =>
          have hentry : reference ∈ profiles.map VoyaBundleProfile.reference := by
            have hname := List.find?_some hfind
            exact List.mem_map.mpr ⟨profile, List.mem_of_find?_eq_some hfind, by simpa using hname⟩
          obtain ⟨hall, hbelow⟩ := @children_outcome profiles fuel (reference :: branch.visiting)
            profile.childRefs (fun inner hway hfinished hknown child hchild => by
              refine ih ⟨?_, hfinished, ?_, ?_, hknown⟩ (by simp [hway]) ?_
              · rw [hway]
                exact hsearching.trail.step ⟨profile, hfind, hchild⟩
              · rw [hway]
                exact List.nodup_cons.mpr ⟨hvisiting, hsearching.nodup⟩
              · rw [hway]
                exact List.forall_mem_cons.mpr ⟨hentry, hsearching.entries⟩
              · rw [hway, List.length_cons]
                omega)
            { branch with visiting := reference :: branch.visiting } rfl hsearching.finished
            hsearching.known
          dsimp only
          cases hrun : profile.childRefs.foldlM (validateVoyaBundleBranch profiles fuel)
              { branch with visiting := reference :: branch.visiting } with
          | error error =>
            rw [hrun] at hall hbelow
            exact ⟨.failed hvisited hvisiting hfind hall, hbelow⟩
          | ok below =>
            rw [hrun] at hall hbelow
            obtain ⟨hsearched, hchildren⟩ := hbelow
            refine ⟨.done hvisited hvisiting hfind hall, ⟨?_, ?_, ?_, ?_⟩, ?_⟩
            · show below.visiting.erase reference = branch.visiting
              rw [hsearched.visiting]
              exact List.erase_cons_head reference branch.visiting
            · refine Finished.cons ?_ hsearched.finished
              rintro child ⟨other, hother, hchild⟩
              rw [hfind] at hother
              cases hother
              exact hchildren child hchild
            · exact fun r hr => List.mem_cons_of_mem _ (hsearched.grows r hr)
            · exact List.forall_mem_cons.mpr ⟨hentry, hsearched.known⟩
            · simp

end Search

section Validator

/-- What an import asks of a bundle: entries with references of their own, also when these are
trimmed, groups whose children are entries, and no group below itself. -/
structure Importable (profiles : List VoyaBundleProfile) : Prop where
  nonempty : profiles ≠ []
  named : ∀ profile ∈ profiles, RustText.trim profile.reference ≠ ""
  distinct : (profiles.map fun profile => RustText.trim profile.reference).Nodup
  resolved : ∀ profile ∈ profiles, ∀ child ∈ profile.childRefs,
    ∃ id, (idMap profiles).lookup child = some id
  acyclic : ∀ reference, ¬Relation.TransGen
    (fun group child => ∃ profile ∈ profiles, profile.reference = group ∧ child ∈ profile.childRefs)
    reference reference

theorem lookup_iff_resolved {child : String} :
    (∃ id, (idMap profiles).lookup child = some id) ↔ Resolved profiles child := by
  have hkeys : child ∈ (idMap profiles).map Prod.fst ↔ Resolved profiles child := by
    rw [idMap_references]
    simp [Resolved]
  rw [← hkeys, ← Option.isSome_iff_exists, List.lookup_isSome_iff, List.mem_map]
  simp

theorem leads_iff (hnodup : (profiles.map VoyaBundleProfile.reference).Nodup)
    {group child : String} : Leads profiles group child ↔
      ∃ profile ∈ profiles, profile.reference = group ∧ child ∈ profile.childRefs := by
  constructor
  · rintro ⟨profile, hfind, hchild⟩
    have hname := List.find?_some hfind
    exact ⟨profile, List.mem_of_find?_eq_some hfind, by simpa using hname, hchild⟩
  · rintro ⟨profile, hmem, rfl, hchild⟩
    obtain ⟨found, hfound⟩ := resolved_iff_find.mp ⟨profile, hmem, rfl⟩
    have hname := List.find?_some hfound
    have hsame : found = profile :=
      List.inj_on_of_nodup_map hnodup (List.mem_of_find?_eq_some hfound) hmem (by simpa using hname)
    exact ⟨found, hfound, hsame ▸ hchild⟩

theorem nodup_references
    (hdistinct : (profiles.map fun profile => RustText.trim profile.reference).Nodup) :
    (profiles.map VoyaBundleProfile.reference).Nodup := by
  have hmap : profiles.map (fun profile => RustText.trim profile.reference) =
      (profiles.map VoyaBundleProfile.reference).map RustText.trim := by
    rw [List.map_map]
    rfl
  rw [hmap] at hdistinct
  exact List.Nodup.of_map _ hdistinct

theorem validateReferences_ok_iff {seen : List String} (hseen : seen.Nodup) :
    (∃ references, profiles.foldlM validateReferences seen = .ok references) ↔
      (∀ profile ∈ profiles, RustText.trim profile.reference ≠ "") ∧
        (seen ++ profiles.map fun profile => RustText.trim profile.reference).Nodup := by
  induction profiles generalizing seen with
  | nil => simp [hseen, pure, Except.pure]
  | cons profile rest ih =>
    rw [List.foldlM_cons, List.forall_mem_cons, List.map_cons]
    by_cases hempty : RustText.trim profile.reference = ""
    · simp [validateReferences, hempty, invalidVoyaBundle, bind, Except.bind]
    · by_cases htaken : RustText.trim profile.reference ∈ seen
      · have hdouble : ¬(seen ++ RustText.trim profile.reference ::
            rest.map fun profile => RustText.trim profile.reference).Nodup := by
          intro hnodup
          exact (List.nodup_append.mp hnodup).2.2 _ htaken _ (by simp) rfl
        simp [validateReferences, hempty, htaken, hdouble, invalidVoyaBundle, bind, Except.bind]
      · have hnext : (seen ++ [RustText.trim profile.reference]).Nodup := by
          rw [List.nodup_append]
          refine ⟨hseen, List.nodup_singleton _, ?_⟩
          intro first hfirst second hsecond hequal
          rw [List.mem_singleton] at hsecond
          exact htaken (hsecond ▸ hequal ▸ hfirst)
        have hstep : validateReferences seen profile =
            .ok (seen ++ [RustText.trim profile.reference]) := by
          simp [validateReferences, hempty, htaken]
        have hrest := ih hnext
        rw [List.append_assoc, List.singleton_append] at hrest
        rw [hstep]
        show (∃ references, rest.foldlM validateReferences _ = .ok references) ↔ _
        rw [hrest]
        simp [hempty]

theorem searching_start (reference : String) : Searching profiles {} reference where
  trail := .start reference
  finished := .nil
  nodup := List.nodup_nil
  entries := by simp
  known := by simp

theorem root_outcome {profile : VoyaBundleProfile} (hmem : profile ∈ profiles) :
    Visits profiles {} profile.reference
        (validateVoyaBundleBranch profiles (profiles.length + 1) {} profile.reference) ∧
      Outcome profiles {} [profile.reference]
        (validateVoyaBundleBranch profiles (profiles.length + 1) {} profile.reference) :=
  branch_outcome (searching_start _) (fun _ => ⟨profile, hmem, rfl⟩) (by simp)

theorem forM_ok_iff {α : Type} {f : α → Except String PUnit} {xs : List α} :
    xs.forM f = .ok ⟨⟩ ↔ ∀ x ∈ xs, f x = .ok ⟨⟩ := by
  induction xs with
  | nil => simp [pure, Except.pure, List.forM]
  | cons x xs ih =>
    rw [List.forall_mem_cons, ← ih, List.forM_eq_forM, List.forM_cons, ← List.forM_eq_forM]
    cases f x with
    | error e => simp [bind, Except.bind]
    | ok u => simp [bind, Except.bind]

theorem searches_ok_iff :
    (profiles.forM fun profile => do
        let _ ← validateVoyaBundleBranch profiles (profiles.length + 1) {} profile.reference
        return ⟨⟩) = .ok ⟨⟩ ↔
      ∀ profile ∈ profiles, ∃ below,
        validateVoyaBundleBranch profiles (profiles.length + 1) {} profile.reference =
          .ok below := by
  rw [forM_ok_iff]
  refine forall₂_congr fun profile _ => ?_
  cases validateVoyaBundleBranch profiles (profiles.length + 1) {} profile.reference with
  | error e => simp [bind, Except.bind]
  | ok below => simp [bind, Except.bind, pure, Except.pure]

/-- The searches find nothing wrong exactly when every child is an entry and there is no cycle. -/
theorem searches_iff :
    (∀ profile ∈ profiles, ∃ below,
        validateVoyaBundleBranch profiles (profiles.length + 1) {} profile.reference = .ok below) ↔
      ¬Faulty profiles := by
  constructor
  · intro hok hfaulty
    have hsearched : ∀ reference child, Leads profiles reference child →
        ∃ below : Branch, Finished (Leads profiles) below.visited ∧ reference ∈ below.visited ∧
          ∀ v ∈ below.visited, v ∈ profiles.map VoyaBundleProfile.reference := by
      rintro reference child ⟨profile, hfind, -⟩
      have hmem := List.mem_of_find?_eq_some hfind
      have hname : profile.reference = reference := by simpa using List.find?_some hfind
      obtain ⟨below, hbelow⟩ := hok profile hmem
      have houtcome := (root_outcome hmem).2
      rw [hbelow] at houtcome
      exact ⟨below, houtcome.1.finished, hname ▸ houtcome.2 _ (by simp), houtcome.1.known⟩
    rcases hfaulty with ⟨reference, hcycle⟩ | ⟨reference, child, hleads, hmissing⟩
    · obtain ⟨child, hleads, -⟩ := Relation.TransGen.head'_iff.mp hcycle
      obtain ⟨below, hfinished, hvisited, -⟩ := hsearched reference child hleads
      exact hfinished.acyclic hvisited hcycle
    · obtain ⟨below, hfinished, hvisited, hknown⟩ := hsearched reference child hleads
      have hchild := hknown child (hfinished.closed reference hvisited child hleads)
      exact hmissing (by simpa [Resolved] using hchild)
  · intro hsound profile hmem
    have houtcome := (root_outcome hmem).2
    cases hrun : validateVoyaBundleBranch profiles (profiles.length + 1) {} profile.reference with
    | error error =>
      rw [hrun] at houtcome
      exact absurd houtcome hsound
    | ok below => exact ⟨below, rfl⟩

theorem faulty_iff (hnodup : (profiles.map VoyaBundleProfile.reference).Nodup) :
    ¬Faulty profiles ↔
      (∀ profile ∈ profiles, ∀ child ∈ profile.childRefs,
        ∃ id, (idMap profiles).lookup child = some id) ∧
      ∀ reference, ¬Relation.TransGen (fun group child =>
        ∃ profile ∈ profiles, profile.reference = group ∧ child ∈ profile.childRefs)
        reference reference := by
  have hleads : Leads profiles = fun group child =>
      ∃ profile ∈ profiles, profile.reference = group ∧ child ∈ profile.childRefs := by
    funext group child
    exact propext (leads_iff hnodup)
  unfold Faulty
  rw [hleads]
  constructor
  · intro hsound
    refine ⟨fun profile hmem child hchild => ?_, fun reference hcycle => hsound (.inl ⟨_, hcycle⟩)⟩
    by_contra hmissing
    rw [lookup_iff_resolved] at hmissing
    exact hsound (.inr ⟨profile.reference, child, ⟨profile, hmem, rfl, hchild⟩, hmissing⟩)
  · rintro ⟨hresolved, hacyclic⟩ (⟨reference, hcycle⟩ | ⟨_, child,
      ⟨profile, hmem, rfl, hchild⟩, hmissing⟩)
    · exact hacyclic reference hcycle
    · exact hmissing (lookup_iff_resolved.mp (hresolved profile hmem child hchild))

/-- The check accepts the importable bundles and no others, and its searches end on every graph,
each with the result that the bounded search gives. -/
theorem validateVoyaBundle_iff (profiles : List VoyaBundleProfile) :
    (validateVoyaBundle profiles = .ok ⟨⟩ ↔ Importable profiles) ∧
      ∀ profile ∈ profiles, Visits profiles {} profile.reference
        (validateVoyaBundleBranch profiles (profiles.length + 1) {} profile.reference) := by
  refine ⟨?_, fun profile hmem => (root_outcome hmem).1⟩
  have hreferences := @validateReferences_ok_iff profiles [] List.nodup_nil
  rw [List.nil_append] at hreferences
  unfold validateVoyaBundle
  constructor
  · intro hvalid
    split at hvalid
    next => cases hvalid
    next hnonempty =>
      obtain ⟨references, hfold, hrest⟩ := SettingsSave.ok_of_bind_ok hvalid
      obtain ⟨hnamed, hdistinct⟩ := hreferences.mp ⟨references, hfold⟩
      split at hrest
      next => cases hrest
      next =>
        have hnodup := nodup_references hdistinct
        obtain ⟨hresolved, hacyclic⟩ :=
          (faulty_iff hnodup).mp (searches_iff.mp (searches_ok_iff.mp hrest))
        exact ⟨hnonempty, hnamed, hdistinct, hresolved, hacyclic⟩
  · intro himportable
    rw [if_neg himportable.nonempty]
    obtain ⟨references, hfold⟩ := hreferences.mpr ⟨himportable.named, himportable.distinct⟩
    have hnodup := nodup_references himportable.distinct
    obtain ⟨hall, -⟩ := validateReferences_nodup List.nodup_nil hfold
    have hchildren : (profiles.flatMap (·.childRefs)).find?
        (fun child => RustText.trim child ∉ references) = none := by
      rw [List.find?_eq_none]
      intro child hchild
      obtain ⟨profile, hmem, hchild⟩ := List.mem_flatMap.mp hchild
      obtain ⟨entry, hentry, rfl⟩ :=
        lookup_iff_resolved.mp (himportable.resolved profile hmem child hchild)
      simp only [decide_not, Bool.not_eq_true', decide_eq_false_iff_not, not_not, hall,
        List.nil_append]
      exact List.mem_map.mpr ⟨entry, hentry, rfl⟩
    rw [hfold]
    simp only [bind, Except.bind]
    rw [hchildren]
    exact searches_ok_iff.mpr (searches_iff.mpr
      ((faulty_iff hnodup).mpr ⟨himportable.resolved, himportable.acyclic⟩))

end Validator

end BundleValidator
