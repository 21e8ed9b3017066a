import Mathlib.Data.List.Chain

/-! Depth-first search for cycles: the trail to the node looked at, and the nodes that are done,
each listed before the nodes it leads to. -/
namespace CycleSearch

variable {α : Type*} {edge : α → α → Prop}

/-- The nodes on the way to a node, the latest first. -/
inductive Trail (edge : α → α → Prop) : List α → α → Prop where
  | start (r : α) : Trail edge [] r
  | step {way : List α} {v r : α} : Trail edge way v → edge v r → Trail edge (v :: way) r

theorem Trail.reaches {way : List α} {r : α} (h : Trail edge way r) :
    ∀ v ∈ way, Relation.TransGen edge v r := by
  induction h with
  | start r =>
    intro v hv
    cases hv
  | step _ hedge ih =>
    intro u hu
    rcases List.mem_cons.mp hu with rfl | hu
    · exact Relation.TransGen.single hedge
    · exact (ih u hu).tail hedge

theorem Trail.cycle {way : List α} {r : α} (h : Trail edge way r) (hmem : r ∈ way) :
    Relation.TransGen edge r r :=
  h.reaches r hmem

theorem Trail.last {way : List α} {r : α} (h : Trail edge way r) :
    way = [] ∨ ∃ v ∈ way, edge v r := by
  cases h with
  | start => exact .inl rfl
  | step _ hedge => exact .inr ⟨_, List.mem_cons_self, hedge⟩

inductive Finished (edge : α → α → Prop) : List α → Prop where
  | nil : Finished edge []
  | cons {r : α} {done : List α} : (∀ c, edge r c → c ∈ done) → Finished edge done →
      Finished edge (r :: done)

theorem Finished.closed {done : List α} (h : Finished edge done) :
    ∀ v ∈ done, ∀ c, edge v c → c ∈ done := by
  induction h with
  | nil =>
    intro v hv
    cases hv
  | cons hchildren hdone ih =>
    intro v hv c hedge
    rcases List.mem_cons.mp hv with rfl | hv
    · exact List.mem_cons_of_mem _ (hchildren c hedge)
    · exact List.mem_cons_of_mem _ (ih v hv c hedge)

theorem Finished.leads {done : List α} (h : Finished edge done) {r c : α} (hr : r ∈ done)
    (hpath : Relation.TransGen edge r c) : c ∈ done := by
  induction hpath with
  | single hedge => exact h.closed r hr _ hedge
  | tail _ hedge ih => exact h.closed _ ih _ hedge

theorem Finished.acyclic {done : List α} (h : Finished edge done) {r : α} (hr : r ∈ done) :
    ¬Relation.TransGen edge r r := by
  induction h with
  | nil => cases hr
  | @cons s done hchildren hdone ih =>
    intro hcycle
    have hinner : r ∈ done := by
      rcases List.mem_cons.mp hr with rfl | hr
      · obtain ⟨c, hedge, hback⟩ := Relation.TransGen.head'_iff.mp hcycle
        rcases Relation.reflTransGen_iff_eq_or_transGen.mp hback with rfl | hback
        · exact hchildren _ hedge
        · exact hdone.leads (hchildren c hedge) hback
      · exact hr
    exact ih hinner hcycle

section Reports

def ClosedWalk (edge : α → α → Prop) (path : List α) : Prop :=
  ∃ v inner, path = v :: (inner ++ [v]) ∧ path.IsChain edge

theorem ClosedWalk.cycle {path : List α} (h : ClosedWalk edge path) :
    ∃ v ∈ path, Relation.TransGen edge v v := by
  obtain ⟨v, inner, rfl, hchain⟩ := h
  refine ⟨v, List.mem_cons_self, ?_⟩
  cases inner with
  | nil => exact Relation.TransGen.single (List.isChain_cons_cons.mp hchain).1
  | cons w inner =>
    obtain ⟨hfirst, hrest⟩ := List.isChain_cons_cons.mp hchain
    exact Relation.TransGen.head' hfirst
      (List.relationReflTransGen_of_exists_isChain_cons (inner ++ [v]) hrest (by simp))

/-- What a search reports from a node on, below the nodes of a stack: closed walks only, and at
least one where a node ahead is on the stack already or on a cycle. -/
structure Reported (edge : α → α → Prop) (stack : List α) (r : α)
    (walks : List (List α)) : Prop where
  sound : ∀ path ∈ walks, ClosedWalk edge path ∧
    ∀ v ∈ path, v ∈ stack ∨ Relation.ReflTransGen edge r v
  complete : walks = [] → ∀ v, Relation.ReflTransGen edge r v →
    v ∉ stack ∧ ¬Relation.TransGen edge v v

theorem Reported.revisit [DecidableEq α] {stack : List α} {r : α}
    (hchain : (stack ++ [r]).IsChain edge) (hmem : r ∈ stack) :
    Reported edge stack r [stack.drop (stack.idxOf r) ++ [r]] where
  sound := by
    intro path hpath
    rw [List.mem_singleton.mp hpath]
    have hlt : stack.idxOf r < stack.length := List.idxOf_lt_length_of_mem hmem
    have hdrop : stack.drop (stack.idxOf r) = r :: stack.drop (stack.idxOf r + 1) := by
      rw [List.drop_eq_getElem_cons hlt, List.getElem_idxOf]
    refine ⟨⟨r, stack.drop (stack.idxOf r + 1), by rw [hdrop, List.cons_append], ?_⟩, ?_⟩
    · rw [← List.drop_append_of_le_length hlt.le]
      exact hchain.drop _
    · intro v hv
      rcases List.mem_append.mp hv with hv | hv
      · exact Or.inl (List.mem_of_mem_drop hv)
      · rw [List.mem_singleton.mp hv]
        exact Or.inl hmem
  complete := fun hnone => by cases hnone

theorem Reported.leaf {stack : List α} {r : α} (hnew : r ∉ stack) (hleaf : ∀ c, ¬edge r c) :
    Reported edge stack r [] where
  sound := fun _ hpath => absurd hpath List.not_mem_nil
  complete := by
    intro _ v hpath
    have hstays : v = r := by
      rcases Relation.ReflTransGen.cases_head hpath with heq | ⟨c, hedge, _⟩
      · exact heq.symm
      · exact absurd hedge (hleaf c)
    rw [hstays]
    refine ⟨hnew, fun hcycle => ?_⟩
    obtain ⟨c, hedge, _⟩ := Relation.TransGen.head'_iff.mp hcycle
    exact hleaf c hedge

theorem Reported.node {stack : List α} {r : α} {children : List α} {walks : List (List α)}
    (hnew : r ∉ stack) (hchildren : ∀ c, edge r c ↔ c ∈ children)
    (hsound : ∀ path ∈ walks,
      ∃ c ∈ children, ∃ part, Reported edge (stack ++ [r]) c part ∧ path ∈ part)
    (hcomplete : walks = [] → ∀ c ∈ children, Reported edge (stack ++ [r]) c []) :
    Reported edge stack r walks where
  sound := by
    intro path hpath
    obtain ⟨c, hc, part, hpart, hmem⟩ := hsound path hpath
    obtain ⟨hclosed, hplaces⟩ := hpart.sound path hmem
    refine ⟨hclosed, fun v hv => ?_⟩
    rcases hplaces v hv with hv | hpath
    · rcases List.mem_append.mp hv with hv | hv
      · exact Or.inl hv
      · rw [List.mem_singleton.mp hv]
        exact Or.inr Relation.ReflTransGen.refl
    · exact Or.inr (Relation.ReflTransGen.head ((hchildren c).mpr hc) hpath)
  complete := by
    intro hnone v hpath
    have hchild : ∀ c, edge r c → ∀ w, Relation.ReflTransGen edge c w →
        w ∉ stack ++ [r] ∧ ¬Relation.TransGen edge w w :=
      fun c hedge w hw => (hcomplete hnone c ((hchildren c).mp hedge)).complete rfl w hw
    rcases Relation.ReflTransGen.cases_head hpath with rfl | ⟨c, hedge, hrest⟩
    · refine ⟨hnew, fun hcycle => ?_⟩
      obtain ⟨c, hedge, hback⟩ := Relation.TransGen.head'_iff.mp hcycle
      exact (hchild c hedge r hback).1 (List.mem_append_right _ List.mem_cons_self)
    · exact ⟨fun hmem => (hchild c hedge v hrest).1 (List.mem_append_left _ hmem),
        (hchild c hedge v hrest).2⟩

/-- A search that begins with an empty stack reports something exactly when a cycle lies ahead. -/
theorem Reported.nonempty_iff {r : α} {walks : List (List α)} (h : Reported edge [] r walks) :
    walks ≠ [] ↔ ∃ v, Relation.ReflTransGen edge r v ∧ Relation.TransGen edge v v := by
  constructor
  · intro hsome
    obtain ⟨path, hpath⟩ := List.exists_mem_of_ne_nil walks hsome
    obtain ⟨hclosed, hplaces⟩ := h.sound path hpath
    obtain ⟨v, hv, hcycle⟩ := hclosed.cycle
    rcases hplaces v hv with hmem | hreach
    · exact absurd hmem List.not_mem_nil
    · exact ⟨v, hreach, hcycle⟩
  · rintro ⟨v, hreach, hcycle⟩ hnone
    exact (h.complete hnone v hreach).2 hcycle

end Reports

section Edits

variable {changed : α → α → Prop}

/-- Where only the edges of one node have changed, a cycle is an old one or goes through that
node. -/
theorem acyclic_of_changed {r : α} (hother : ∀ a b, changed a b → a ≠ r → edge a b)
    (hacyclic : ∀ v, ¬Relation.TransGen edge v v) (hchanged : ¬Relation.TransGen changed r r)
    (v : α) : ¬Relation.TransGen changed v v := by
  have hpath : ∀ {a b}, Relation.TransGen changed a b → Relation.TransGen edge a b ∨
      Relation.ReflTransGen changed a r ∧ Relation.TransGen changed r b := by
    intro a b h
    induction h with
    | single hedge =>
      by_cases ha : a = r
      · subst ha
        exact Or.inr ⟨Relation.ReflTransGen.refl, Relation.TransGen.single hedge⟩
      · exact Or.inl (Relation.TransGen.single (hother _ _ hedge ha))
    | @tail middle b hbefore hedge ih =>
      by_cases hmiddle : middle = r
      · subst hmiddle
        exact Or.inr ⟨hbefore.to_reflTransGen, Relation.TransGen.single hedge⟩
      · rcases ih with hold | ⟨hto, hfrom⟩
        · exact Or.inl (hold.tail (hother _ _ hedge hmiddle))
        · exact Or.inr ⟨hto, hfrom.tail hedge⟩
  intro hcycle
  rcases hpath hcycle with hold | ⟨hto, hfrom⟩
  · exact hacyclic v hold
  · exact hchanged (hfrom.trans_left hto)

theorem transGen_onward {a b : α} (h : Relation.TransGen edge a b) (hnext : ∃ c, edge b c) :
    Relation.TransGen (fun x y => edge x y ∧ ∃ z, edge y z) a b := by
  induction h using Relation.TransGen.head_induction_on with
  | single hedge => exact Relation.TransGen.single ⟨hedge, hnext⟩
  | head hedge hrest ih =>
    obtain ⟨c, hfirst, _⟩ := Relation.TransGen.head'_iff.mp hrest
    exact Relation.TransGen.head ⟨hedge, c, hfirst⟩ ih

end Edits

end CycleSearch
