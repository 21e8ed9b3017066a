import Mathlib.Logic.Relation
import Mathlib.Data.List.Basic

/-! Process forests: the living processes with their parent links. A process that ends leaves
its children to the process that takes in orphans. -/
namespace ProcessForest

structure Process (α β : Type) where
  pid : α
  parent : α
  comm : β
  deriving DecidableEq, Repr

abbrev Forest (α β : Type) := List (Process α β)

variable {α β : Type} [DecidableEq α]

def alive (forest : Forest α β) (pid : α) : Bool := forest.any fun process => process.pid = pid

def childrenOf (forest : Forest α β) (parent : α) : List α :=
  (forest.filter fun process => process.parent = parent).map Process.pid

def endAll (init : α) (ended : List α) (forest : Forest α β) : Forest α β :=
  (forest.filter fun process => process.pid ∉ ended).map fun process =>
    if process.parent ∈ ended then { process with parent := init } else process

def Child (forest : Forest α β) (parent child : α) : Prop := child ∈ childrenOf forest parent

def Descends (forest : Forest α β) : α → α → Prop := Relation.TransGen (Child forest)

def KeepsParents (root : α) (forest : Forest α β) (ended : List α) : Prop :=
  ∀ parent child, parent = root ∨ Descends forest root parent → Child forest parent child →
    child ∉ ended → parent ∉ ended

/-- The forest after the first ends of a schedule. -/
def forestAt (init : α) (schedule : Nat → List α) (forest : Forest α β) : Nat → Forest α β
  | 0 => forest
  | time + 1 => endAll init (schedule time) (forestAt init schedule forest time)

/-- The root or one of its descendants, and below it the second process. -/
def Under (root : α) (forest : Forest α β) (parent child : α) : Prop :=
  (parent = root ∨ Descends forest root parent) ∧ Descends forest parent child

theorem mem_childrenOf {forest : Forest α β} {parent child : α} :
    child ∈ childrenOf forest parent ↔
      ∃ process ∈ forest, process.pid = child ∧ process.parent = parent := by
  unfold childrenOf
  simp only [List.mem_map, List.mem_filter, decide_eq_true_eq]
  constructor
  · rintro ⟨process, ⟨hmem, hparent⟩, hpid⟩
    exact ⟨process, hmem, hpid, hparent⟩
  · rintro ⟨process, hmem, hpid, hparent⟩
    exact ⟨process, ⟨hmem, hparent⟩, hpid⟩

theorem alive_iff {forest : Forest α β} {pid : α} :
    alive forest pid = true ↔ ∃ process ∈ forest, process.pid = pid := by
  unfold alive
  simp only [List.any_eq_true, decide_eq_true_eq]

theorem alive_endAll {init : α} {ended : List α} {forest : Forest α β} {pid : α} :
    alive (endAll init ended forest) pid = true ↔ alive forest pid = true ∧ pid ∉ ended := by
  rw [alive_iff, alive_iff]
  unfold endAll
  constructor
  · rintro ⟨process, hmem, hpid⟩
    obtain ⟨before, hbefore, rfl⟩ := List.mem_map.mp hmem
    obtain ⟨hbefore, hgoesOn⟩ := List.mem_filter.mp hbefore
    have hsame : before.pid = pid := by
      split at hpid <;> exact hpid
    rw [← hsame]
    exact ⟨⟨before, hbefore, rfl⟩, of_decide_eq_true hgoesOn⟩
  · rintro ⟨⟨process, hmem, rfl⟩, hgoesOn⟩
    refine ⟨_, List.mem_map.mpr
      ⟨process, List.mem_filter.mpr ⟨hmem, decide_eq_true hgoesOn⟩, rfl⟩, ?_⟩
    split <;> rfl

theorem alive_of_endAll {init : α} {ended : List α} {forest : Forest α β} {pid : α}
    (h : alive (endAll init ended forest) pid = true) : alive forest pid = true :=
  (alive_endAll.mp h).1

theorem child_endAll {init : α} {ended : List α} {forest : Forest α β} {parent child : α}
    (h : Child forest parent child) (hparent : parent ∉ ended) (hchild : child ∉ ended) :
    Child (endAll init ended forest) parent child := by
  obtain ⟨process, hmem, rfl, rfl⟩ := mem_childrenOf.mp h
  refine mem_childrenOf.mpr ⟨process, ?_, rfl, rfl⟩
  unfold endAll
  refine List.mem_map.mpr ⟨process, List.mem_filter.mpr ⟨hmem, decide_eq_true hchild⟩, ?_⟩
  exact if_neg hparent

theorem below_root {root : α} {forest : Forest α β} {parent middle : α}
    (hparent : parent = root ∨ Descends forest root parent) (h : Descends forest parent middle) :
    Descends forest root middle := by
  rcases hparent with rfl | hroot
  · exact h
  · exact hroot.trans h

theorem ancestor_goesOn {root : α} {ended : List α} {forest : Forest α β}
    (hkeeps : KeepsParents root forest ended) {parent child : α}
    (hparent : parent = root ∨ Descends forest root parent) (h : Descends forest parent child)
    (hgoesOn : child ∉ ended) : parent ∉ ended := by
  induction h with
  | single hchild => exact hkeeps _ _ hparent hchild hgoesOn
  | tail hmiddle hchild ih =>
    exact ih (hkeeps _ _ (.inr (below_root hparent hmiddle)) hchild hgoesOn)

theorem descends_endAll {init root : α} {ended : List α} {forest : Forest α β}
    (hkeeps : KeepsParents root forest ended) {parent child : α}
    (hparent : parent = root ∨ Descends forest root parent) (h : Descends forest parent child)
    (hgoesOn : child ∉ ended) : Descends (endAll init ended forest) parent child := by
  induction h with
  | single hchild =>
    exact .single (child_endAll hchild (hkeeps _ _ hparent hchild hgoesOn) hgoesOn)
  | tail hmiddle hchild ih =>
    have hstays := hkeeps _ _ (.inr (below_root hparent hmiddle)) hchild hgoesOn
    exact (ih hstays).tail (child_endAll hchild hstays hgoesOn)

theorem under_endAll {init root : α} {ended : List α} {forest : Forest α β}
    (hkeeps : KeepsParents root forest ended) {parent child : α}
    (h : Under root forest parent child)
    (halive : alive (endAll init ended forest) child = true) :
    Under root (endAll init ended forest) parent child := by
  obtain ⟨hparent, hline⟩ := h
  have hgoesOn := (alive_endAll.mp halive).2
  refine ⟨?_, descends_endAll hkeeps hparent hline hgoesOn⟩
  rcases hparent with rfl | hroot
  · exact .inl rfl
  · have hstays := ancestor_goesOn hkeeps (.inr hroot) hline hgoesOn
    exact .inr (descends_endAll hkeeps (.inl rfl) hroot hstays)

section Schedules

variable {init root : α} {schedule : Nat → List α} {forest : Forest α β}

theorem alive_forestAt_of_le {early late : Nat} (hle : early ≤ late) {pid : α}
    (h : alive (forestAt init schedule forest late) pid = true) :
    alive (forestAt init schedule forest early) pid = true := by
  induction hle with
  | refl => exact h
  | step _ ih => exact ih (alive_of_endAll h)

theorem under_forestAt
    (hkeeps : ∀ time, KeepsParents root (forestAt init schedule forest time) (schedule time))
    {early late : Nat} (hle : early ≤ late) {parent child : α}
    (h : Under root (forestAt init schedule forest early) parent child)
    (halive : alive (forestAt init schedule forest late) child = true) :
    Under root (forestAt init schedule forest late) parent child := by
  induction hle with
  | refl => exact h
  | step _ ih => exact under_endAll (hkeeps _) (ih (alive_of_endAll halive)) halive

theorem root_forestAt
    (hkeeps : ∀ time, KeepsParents root (forestAt init schedule forest time) (schedule time))
    {late : Nat} {child : α} (hroot : alive forest root = true) (h : Descends forest root child)
    (halive : alive (forestAt init schedule forest late) child = true) :
    alive (forestAt init schedule forest late) root = true := by
  induction late with
  | zero => exact hroot
  | succ time ih =>
    have hbefore := alive_of_endAll halive
    have hunder := under_forestAt hkeeps (Nat.zero_le time) ⟨.inl rfl, h⟩ hbefore
    have hstays := ancestor_goesOn (hkeeps time) (.inl rfl) hunder.2 (alive_endAll.mp halive).2
    exact alive_endAll.mpr ⟨ih hbefore, hstays⟩

end Schedules

end ProcessForest
