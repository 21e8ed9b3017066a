import Mathlib

/-! Finite graphs whose adjacency lists are overwritten node by node. A rank that falls along
every edge rules out cycles, and a pass that rewrites a closed set of nodes keeps such a rank. -/
namespace RankedGraph

variable {α : Type*}

/-- Every edge leads to a node of smaller rank. -/
def Descends (adj : α → List α) (rank : α → ℕ) : Prop := ∀ k, ∀ c ∈ adj k, rank c < rank k

theorem rank_lt_of_path {adj : α → List α} {rank : α → ℕ} (h : Descends adj rank) {a b : α}
    (path : Relation.TransGen (fun k c => c ∈ adj k) a b) : rank b < rank a := by
  induction path with
  | single edge => exact h _ _ edge
  | tail _ edge ih => exact lt_trans (h _ _ edge) ih

theorem acyclic {adj : α → List α} {rank : α → ℕ} (h : Descends adj rank) (k : α) :
    ¬ Relation.TransGen (fun k c => c ∈ adj k) k k :=
  fun path => lt_irrefl _ (rank_lt_of_path h path)

/-- A pass that started from `adj₀` has rewritten the nodes of `written`, which only point to
each other, downwards in rank. -/
structure Rewritten (adj₀ adj : α → List α) (written : Finset α) (rank : α → ℕ) : Prop where
  frame : ∀ k ∉ written, adj k = adj₀ k
  closed : ∀ k ∈ written, ∀ c ∈ adj k, c ∈ written
  descends : ∀ k ∈ written, ∀ c ∈ adj k, rank c < rank k

theorem Rewritten.start (adj : α → List α) (rank : α → ℕ) : Rewritten adj adj ∅ rank where
  frame _ _ := rfl
  closed _ hk := absurd hk (Finset.notMem_empty _)
  descends _ hk := absurd hk (Finset.notMem_empty _)

theorem Rewritten.write [DecidableEq α] {adj₀ adj : α → List α} {written : Finset α}
    {rank : α → ℕ} (h : Rewritten adj₀ adj written rank) {g : α} (fresh : g ∉ written)
    {cs : List α} (hcs : ∀ c ∈ cs, c ∈ written) :
    ∃ rank', Rewritten adj₀ (Function.update adj g cs) (insert g written) rank' := by
  have ne_of_mem : ∀ k ∈ written, k ≠ g := fun k hk e => fresh (e ▸ hk)
  refine ⟨Function.update rank g (written.sup rank + 1), ?_, ?_, ?_⟩
  · intro k hk
    rw [Finset.mem_insert, not_or] at hk
    rw [Function.update_of_ne hk.1]
    exact h.frame k hk.2
  · intro k hk c hc
    rcases Finset.mem_insert.mp hk with rfl | hk
    · rw [Function.update_self] at hc
      exact Finset.mem_insert_of_mem (hcs c hc)
    · rw [Function.update_of_ne (ne_of_mem k hk)] at hc
      exact Finset.mem_insert_of_mem (h.closed k hk c hc)
  · intro k hk c hc
    rcases Finset.mem_insert.mp hk with rfl | hk
    · rw [Function.update_self] at hc
      have hw := hcs c hc
      rw [Function.update_of_ne (ne_of_mem c hw), Function.update_self]
      exact Nat.lt_succ_of_le (Finset.le_sup hw)
    · rw [Function.update_of_ne (ne_of_mem k hk)] at hc
      rw [Function.update_of_ne (ne_of_mem k hk),
        Function.update_of_ne (ne_of_mem c (h.closed k hk c hc))]
      exact h.descends k hk c hc

/-- After a pass the old rank still works, moved above the ranks of the rewritten nodes. -/
theorem Rewritten.descends_total [DecidableEq α] {adj₀ adj : α → List α} {written : Finset α}
    {rank rank₀ : α → ℕ} (h : Rewritten adj₀ adj written rank) (h₀ : Descends adj₀ rank₀) :
    ∃ rank', Descends adj rank' := by
  let bound := written.sup rank + 1
  refine ⟨fun k => if k ∈ written then rank k else bound + rank₀ k, ?_⟩
  intro k c hc
  by_cases hk : k ∈ written
  · simp only [if_pos hk, if_pos (h.closed k hk c hc)]
    exact h.descends k hk c hc
  · have hc₀ : rank₀ c < rank₀ k := h₀ k c (h.frame k hk ▸ hc)
    by_cases hcw : c ∈ written
    · have hle : rank c ≤ written.sup rank := Finset.le_sup hcw
      simp only [if_neg hk, if_pos hcw, bound]
      omega
    · simp only [if_neg hk, if_neg hcw]
      omega

section Descents

open Relation

variable {leads : α → α → Prop}

theorem no_cycle_of_acc {start : α} (h : Acc (fun b a => leads a b) start) {b : α}
    (hreach : ReflTransGen leads start b) : ¬ TransGen leads b b := by
  have hb : Acc (fun b a => leads a b) b := by
    induction hreach with
    | refl => exact h
    | tail _ edge ih => exact ih.inv edge
  clear hreach
  induction hb with
  | intro b _ ih =>
    intro cycle
    obtain ⟨c, edge, back⟩ := TransGen.head'_iff.mp cycle
    exact ih c edge (TransGen.tail' back edge)

/-- Where only finitely many nodes are reached and none of them comes back to itself, every
descent ends: each step leaves fewer nodes to reach. -/
theorem acc_of_no_cycle (hfinite : {b | ∃ a, leads a b}.Finite) {start : α}
    (hacyclic : ∀ b, ReflTransGen leads start b → ¬ TransGen leads b b) :
    Acc (fun b a => leads a b) start := by
  have hbelow : ∀ a, {b | TransGen leads a b}.Finite := by
    intro a
    apply hfinite.subset
    intro b path
    obtain ⟨c, _, edge⟩ := TransGen.tail'_iff.mp path
    exact ⟨c, edge⟩
  suffices h : ∀ n a, ReflTransGen leads start a → {b | TransGen leads a b}.ncard ≤ n →
      Acc (fun b a => leads a b) a from h _ start ReflTransGen.refl le_rfl
  intro n
  induction n with
  | zero =>
    intro a _ hcard
    constructor
    intro b edge
    have hempty := (Set.ncard_eq_zero (hbelow a)).mp (Nat.le_zero.mp hcard)
    have hmem : b ∈ {b | TransGen leads a b} := TransGen.single edge
    rw [hempty] at hmem
    exact absurd hmem (Set.notMem_empty b)
  | succ n ih =>
    intro a hreach hcard
    constructor
    intro b edge
    have hb := hreach.tail edge
    have hfewer : {c | TransGen leads b c} ⊂ {c | TransGen leads a c} := by
      constructor
      · intro c path
        exact TransGen.head edge path
      · intro hsub
        exact hacyclic b hb (hsub (TransGen.single edge))
    have hlt := Set.ncard_lt_ncard hfewer (hbelow a)
    exact ih b hb (by omega)

/-- A path either keeps to the edges of one kind or takes an edge of another kind. -/
theorem kind_of_path {kind other : α → α → Prop} (hkinds : ∀ a b, leads a b → kind a b ∨ other a b)
    {a b : α} (path : TransGen leads a b) :
    TransGen kind a b ∨
      ∃ c d, ReflTransGen leads a c ∧ other c d ∧ ReflTransGen leads d b := by
  induction path with
  | single edge =>
    rcases hkinds _ _ edge with hkind | hedge
    · exact Or.inl (TransGen.single hkind)
    · exact Or.inr ⟨_, _, ReflTransGen.refl, hedge, ReflTransGen.refl⟩
  | tail path edge ih =>
    rcases hkinds _ _ edge with hkind | hedge
    · rcases ih with hpath | ⟨c, d, hfirst, hcd, hlast⟩
      · exact Or.inl (hpath.tail hkind)
      · exact Or.inr ⟨c, d, hfirst, hcd, hlast.tail edge⟩
    · exact Or.inr ⟨_, _, path.to_reflTransGen, hedge, ReflTransGen.refl⟩

end Descents

end RankedGraph
