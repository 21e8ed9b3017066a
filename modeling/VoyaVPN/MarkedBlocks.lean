import Mathlib.Data.List.Pairwise
import Mathlib.Data.List.Sort

/-! The blocks of a text between an opening and a closing mark, and the walk that takes, again and
again, the next opening mark and the first closing mark behind its start. -/
namespace MarkedBlocks

variable {α : Type}

section Places

def Occurs (pattern text : List α) (place : Nat) : Prop := pattern <+: text.drop place

structure FirstFrom (pattern text : List α) (start place : Nat) : Prop where
  from_start : start ≤ place
  occurs : Occurs pattern text place
  first : ∀ other, start ≤ other → Occurs pattern text other → place ≤ other

variable {pattern text : List α} {start place : Nat}

theorem Occurs.length_le (h : Occurs pattern text place) (hne : pattern ≠ []) :
    place + pattern.length ≤ text.length := by
  have hle := List.IsPrefix.length_le h
  have hpos := List.length_pos_iff.mpr hne
  rw [List.length_drop] at hle
  omega

theorem firstFrom_exists (h : Occurs pattern text place) (hstart : start ≤ place) :
    ∃ first, FirstFrom pattern text start first := by
  classical
  have hsome : ∃ place, start ≤ place ∧ Occurs pattern text place := ⟨place, hstart, h⟩
  refine ⟨Nat.find hsome, (Nat.find_spec hsome).1, (Nat.find_spec hsome).2, ?_⟩
  intro other hother hoccurs
  exact Nat.find_min' hsome ⟨hother, hoccurs⟩

/-- A pattern is in a slice of a text where it occurs between the ends of the slice. -/
theorem infix_slice_iff {stop : Nat} (hne : pattern ≠ []) (hstop : start ≤ stop) :
    pattern <:+: (text.drop start).take (stop - start) ↔
      ∃ place, start ≤ place ∧ place + pattern.length ≤ stop ∧ Occurs pattern text place := by
  constructor
  · rintro ⟨before, after, heq⟩
    have hlength : before.length + pattern.length + after.length =
        min (stop - start) (text.length - start) := by
      rw [← List.length_drop, ← List.length_take, ← heq]
      simp only [List.length_append]
    have htext : text.drop start =
        before ++ (pattern ++ (after ++ (text.drop start).drop (stop - start))) := by
      calc text.drop start = (text.drop start).take (stop - start) ++
            (text.drop start).drop (stop - start) := (List.take_append_drop _ _).symm
        _ = before ++ (pattern ++ (after ++ (text.drop start).drop (stop - start))) := by
          rw [← heq]
          simp only [List.append_assoc]
    refine ⟨start + before.length, by omega, by omega, ?_⟩
    rw [Occurs, ← List.drop_drop, htext, List.drop_left]
    exact List.prefix_append _ _
  · rintro ⟨place, hplace, hend, hoccurs⟩
    have hlength := hoccurs.length_le hne
    obtain ⟨after, hafter⟩ := hoccurs
    have hslice : (text.drop start).take (stop - start) =
        (text.drop start).take (place - start) ++ (text.drop place).take (stop - place) := by
      have hdrop : text.drop place = (text.drop start).drop (place - start) := by
        rw [List.drop_drop]
        congr 1
        omega
      have hsum : stop - start = (place - start) + (stop - place) := by omega
      rw [hdrop, hsum, List.take_add]
    have htake : (pattern ++ after).take (stop - place) =
        pattern ++ after.take (stop - place - pattern.length) := by
      rw [List.take_append, List.take_of_length_le (by omega)]
    refine ⟨(text.drop start).take (place - start), after.take (stop - place - pattern.length), ?_⟩
    rw [hslice, ← hafter, htake, List.append_assoc]

end Places

section Blocks

variable (opening closing text : List α)

/-- What stands between the marks that begin at the two places. -/
def body (block : Nat × Nat) : List α :=
  (text.drop (block.1 + opening.length)).take (block.2 - (block.1 + opening.length))

/-- An opening mark, a body with neither mark, and a closing mark. -/
structure Block (block : Nat × Nat) : Prop where
  opens : Occurs opening text block.1
  closes : Occurs closing text block.2
  ordered : block.1 + opening.length ≤ block.2
  unopened : ¬ opening <:+: body opening text block
  unclosed : ¬ closing <:+: body opening text block

/-- The order of the text. -/
def Before (block other : Nat × Nat) : Prop :=
  block.1 < other.1 ∨ (block.1 = other.1 ∧ block.2 < other.2)

/-- The blocks do not share letters, an opening mark that is not in a block has no closing mark
behind it, and the marks of a block do not share letters with other closing marks. -/
structure Separated : Prop where
  apart : ∀ block other, Block opening closing text block → Block opening closing text other →
    block ≠ other → block.2 + closing.length ≤ other.1 ∨ other.2 + closing.length ≤ block.1
  opens : ∀ place close, Occurs opening text place → place ≤ close → Occurs closing text close →
    ∃ block, Block opening closing text block ∧ block.1 ≤ place ∧
      place < block.2 + closing.length
  fits : ∀ block close, Block opening closing text block → Occurs closing text close →
    block.1 ≤ close → block.1 + opening.length ≤ close

/-- The pairs that are taken from a start on. -/
inductive Walk : Nat → List (Nat × Nat) → Prop where
  | unopened {start : Nat} (h : ∀ place, start ≤ place → ¬ Occurs opening text place) :
    Walk start []
  | unclosed {start place : Nat} (hopen : FirstFrom opening text start place)
    (h : ∀ close, place ≤ close → ¬ Occurs closing text close) : Walk start []
  | taken {start place close : Nat} {later : List (Nat × Nat)}
    (hopen : FirstFrom opening text start place) (hclose : FirstFrom closing text place close)
    (hlater : Walk (close + closing.length) later) : Walk start ((place, close) :: later)

end Blocks

section Walks

variable {opening closing text : List α} {start : Nat} {taken : List (Nat × Nat)}

theorem walk_exists (hclosing : closing ≠ []) (start : Nat) :
    ∃ taken, Walk opening closing text start taken := by
  by_cases hsome : ∃ place, start ≤ place ∧ Occurs opening text place
  · obtain ⟨place, hplace, hoccurs⟩ := hsome
    obtain ⟨first, hopen⟩ := firstFrom_exists hoccurs hplace
    by_cases hclosed : ∃ close, first ≤ close ∧ Occurs closing text close
    · obtain ⟨close, hle, hcloses⟩ := hclosed
      obtain ⟨stop, hclose⟩ := firstFrom_exists hcloses hle
      -- the walk goes on behind the closing mark, so nearer to the end of the text
      have hlength := hclose.occurs.length_le hclosing
      have hpos := List.length_pos_iff.mpr hclosing
      have hforward : start < stop + closing.length := by
        have hfirst := hopen.from_start
        have hlast := hclose.from_start
        omega
      obtain ⟨later, hlater⟩ := walk_exists hclosing (stop + closing.length)
      exact ⟨_, .taken hopen hclose hlater⟩
    · exact ⟨[], .unclosed hopen fun close hle hcloses => hclosed ⟨close, hle, hcloses⟩⟩
  · exact ⟨[], .unopened fun place hplace hoccurs => hsome ⟨place, hplace, hoccurs⟩⟩
termination_by text.length - start

theorem Walk.member (h : Walk opening closing text start taken) {block : Nat × Nat}
    (hblock : block ∈ taken) :
    start ≤ block.1 ∧ Occurs opening text block.1 ∧ FirstFrom closing text block.1 block.2 := by
  induction h with
  | unopened h => exact absurd hblock List.not_mem_nil
  | unclosed hopen h => exact absurd hblock List.not_mem_nil
  | taken hopen hclose hlater ih =>
    rcases List.mem_cons.mp hblock with rfl | hblock
    · exact ⟨hopen.from_start, hopen.occurs, hclose⟩
    · obtain ⟨hstart, hrest⟩ := ih hblock
      have hfirst := hopen.from_start
      have hlast := hclose.from_start
      exact ⟨by omega, hrest⟩

theorem Walk.pairwise (h : Walk opening closing text start taken) :
    taken.Pairwise fun block other => block.2 + closing.length ≤ other.1 := by
  induction h with
  | unopened h => exact List.Pairwise.nil
  | unclosed hopen h => exact List.Pairwise.nil
  | taken hopen hclose hlater ih =>
    exact List.Pairwise.cons (fun other hother => (hlater.member hother).1) ih

/-- An opening mark with a closing mark behind it is not behind what is taken. -/
theorem Walk.covers (h : Walk opening closing text start taken) {place close : Nat}
    (hplace : start ≤ place) (hopens : Occurs opening text place) (hclose : place ≤ close)
    (hcloses : Occurs closing text close) :
    ∃ block ∈ taken, block.1 ≤ place ∧ place < block.2 + closing.length := by
  induction h with
  | unopened h => exact absurd hopens (h place hplace)
  | unclosed hopen h =>
    have hfirst := hopen.first place hplace hopens
    exact absurd hcloses (h close (by omega))
  | @taken start first last later hopen hfirst hlater ih =>
    rcases Nat.lt_or_ge place (last + closing.length) with hlt | hge
    · exact ⟨_, List.mem_cons_self, hopen.first place hplace hopens, hlt⟩
    · obtain ⟨block, hblock, hcovers⟩ := ih hge
      exact ⟨block, List.mem_cons_of_mem _ hblock, hcovers⟩

theorem last_opening {place stop : Nat} (h : Occurs opening text place)
    (hstop : place + opening.length ≤ stop) :
    ∃ last, place ≤ last ∧ last + opening.length ≤ stop ∧ Occurs opening text last ∧
      ∀ other, last < other → other + opening.length ≤ stop → ¬ Occurs opening text other := by
  by_cases hmore : ∃ other, place < other ∧ other + opening.length ≤ stop ∧
      Occurs opening text other
  · obtain ⟨other, hother, hend, hoccurs⟩ := hmore
    obtain ⟨last, hlast, hrest⟩ := last_opening hoccurs hend
    exact ⟨last, by omega, hrest⟩
  · exact ⟨place, Nat.le_refl _, hstop, h,
      fun other hother hend hoccurs => hmore ⟨other, hother, hend, hoccurs⟩⟩
termination_by stop - place

theorem block_of_first {place close : Nat} (hopening : opening ≠ []) (hclosing : closing ≠ [])
    (hopens : Occurs opening text place) (hclose : FirstFrom closing text place close)
    (hordered : place + opening.length ≤ close)
    (hlast : ∀ other, place + opening.length ≤ other → other + opening.length ≤ close →
      ¬ Occurs opening text other) :
    Block opening closing text (place, close) := by
  have hclosePos := List.length_pos_iff.mpr hclosing
  refine ⟨hopens, hclose.occurs, hordered, ?_, ?_⟩
  · rw [body, infix_slice_iff hopening hordered]
    rintro ⟨other, hother, hend, hoccurs⟩
    exact hlast other hother hend hoccurs
  · rw [body, infix_slice_iff hclosing hordered]
    rintro ⟨other, hother, hend, hoccurs⟩
    have hle := hclose.first other (by omega) hoccurs
    omega

theorem Walk.blocks (h : Walk opening closing text start taken)
    (hseparated : Separated opening closing text) (hopening : opening ≠ [])
    (hclosing : closing ≠ [])
    (hstart : start = 0 ∨ ∃ block, Block opening closing text block ∧
      start = block.2 + closing.length) :
    ∀ block ∈ taken, Block opening closing text block := by
  induction h with
  | unopened h => exact fun block hblock => absurd hblock List.not_mem_nil
  | unclosed hopen h => exact fun block hblock => absurd hblock List.not_mem_nil
  | @taken start place close later hopen hclose hlater ih =>
    obtain ⟨inner, hinner, hle, hlt⟩ :=
      hseparated.opens place close hopen.occurs hclose.from_start hclose.occurs
    -- a block that begins before the opening mark begins before the start, and overlaps the last
    have hplace : inner.1 = place := by
      rcases Nat.lt_or_ge inner.1 start with hbefore | hfrom
      · rcases hstart with rfl | ⟨last, hlast, rfl⟩
        · omega
        · have hfrom := hopen.from_start
          have hordered := hlast.ordered
          by_cases hsame : inner = last
          · rw [hsame] at hlt
            omega
          · rcases hseparated.apart inner last hinner hlast hsame with h | h
            · omega
            · omega
      · have hfirst := hopen.first inner.1 hfrom hinner.opens
        omega
    have hblock : Block opening closing text (place, close) := by
      have hordered : place + opening.length ≤ close :=
        hplace ▸ hseparated.fits inner close hinner hclose.occurs (hplace ▸ hclose.from_start)
      have hcloseLe : close ≤ inner.2 := by
        have hinnerOrdered := hinner.ordered
        exact hclose.first inner.2 (by omega) hinner.closes
      refine block_of_first hopening hclosing hopen.occurs hclose hordered ?_
      intro other hother hend hoccurs
      apply hinner.unopened
      rw [body, infix_slice_iff hopening hinner.ordered]
      exact ⟨other, by omega, by omega, hoccurs⟩
    intro block hmem
    rcases List.mem_cons.mp hmem with rfl | hmem
    · exact hblock
    · exact ih (Or.inr ⟨_, hblock, rfl⟩) block hmem

theorem separated_iff (h : Walk opening closing text 0 taken) (hopening : opening ≠ [])
    (hclosing : closing ≠ []) :
    Separated opening closing text ↔
      (∀ block ∈ taken, block.1 + opening.length ≤ block.2) ∧
        ∀ block, block ∈ taken ↔ Block opening closing text block := by
  have hopenPos := List.length_pos_iff.mpr hopening
  constructor
  · intro hseparated
    have hblocks := h.blocks hseparated hopening hclosing (Or.inl rfl)
    refine ⟨fun block hblock => (hblocks block hblock).ordered, fun block => ?_⟩
    refine ⟨hblocks block, fun hblock => ?_⟩
    have hordered := hblock.ordered
    obtain ⟨other, hother, hle, hlt⟩ :=
      h.covers (Nat.zero_le _) hblock.opens (by omega) hblock.closes
    by_cases hsame : other = block
    · exact hsame ▸ hother
    · have hotherOrdered := (hblocks other hother).ordered
      rcases hseparated.apart other block (hblocks other hother) hblock hsame with hapart | hapart
      · omega
      · omega
  · rintro ⟨hfits, hexact⟩
    refine ⟨?_, ?_, ?_⟩
    · intro block other hblock hother hne
      have hpairs : taken.Pairwise fun block other =>
          block.2 + closing.length ≤ other.1 ∨ other.2 + closing.length ≤ block.1 :=
        h.pairwise.imp Or.inl
      have hsymm : Std.Symm fun block other : Nat × Nat =>
          block.2 + closing.length ≤ other.1 ∨ other.2 + closing.length ≤ block.1 :=
        ⟨fun _ _ => Or.symm⟩
      exact hpairs.forall ((hexact block).mpr hblock) ((hexact other).mpr hother) hne
    · intro place close hopens hle hcloses
      obtain ⟨block, hblock, hcovers⟩ := h.covers (Nat.zero_le _) hopens hle hcloses
      exact ⟨block, (hexact block).mp hblock, hcovers⟩
    · intro block close hblock hcloses hle
      have hmem := (hexact block).mpr hblock
      have hfirst := (h.member hmem).2.2.first close hle hcloses
      have hfit := hfits block hmem
      omega

end Walks

section Listings

variable {opening closing text : List α} {taken listing : List (Nat × Nat)} {γ : Type}
  {value : Nat × Nat → γ}

theorem before_irreflexive (block : Nat × Nat) : ¬ Before block block := by
  rintro (h | ⟨-, h⟩)
  · exact Nat.lt_irrefl _ h
  · exact Nat.lt_irrefl _ h

theorem before_asymmetric {block other : Nat × Nat} (h : Before block other) :
    ¬ Before other block := by
  intro k
  rw [Before] at h k
  omega

/-- A list in the order of the text is part of each such list that has its members. -/
theorem sublist_of_before (hlisting : listing.Pairwise Before) (htaken : taken.Pairwise Before)
    (h : ∀ block ∈ listing, block ∈ taken) : listing.Sublist taken := by
  have hanti : Std.Antisymm Before := ⟨fun _ _ hle hge => absurd hge (before_asymmetric hle)⟩
  have hirrefl : Std.Irrefl Before := ⟨before_irreflexive⟩
  have hnodup : listing.Nodup := hlisting.nodup
  exact List.sublist_of_subperm_of_pairwise (List.subperm_of_subset hnodup h) hlisting htaken

theorem Walk.before {start : Nat} (h : Walk opening closing text start taken)
    (hfits : ∀ block ∈ taken, block.1 + opening.length ≤ block.2) (hclosing : closing ≠ []) :
    taken.Pairwise Before := by
  have hpos := List.length_pos_iff.mpr hclosing
  refine h.pairwise.imp_of_mem ?_
  intro block other hblock hother hle
  have hfit := hfits block hblock
  left
  omega

/-- Where the values of all lists of blocks are among the values of what is taken, and a value tells
the first opening mark from a later one, exactly the blocks are taken. -/
theorem Walk.blocks_of_listings (h : Walk opening closing text 0 taken) (hopening : opening ≠ [])
    (hclosing : closing ≠ [])
    (hfits : ∀ block ∈ taken, block.1 + opening.length ≤ block.2)
    (hvalue : ∀ place last close, Occurs opening text last → place < last →
      last + opening.length ≤ close → value (last, close) ≠ value (place, close))
    (hlistings : ∀ listing : List (Nat × Nat), listing.Pairwise Before →
      (∀ block ∈ listing, Block opening closing text block) →
        (listing.map value).Sublist (taken.map value)) (block : Nat × Nat) :
    block ∈ taken ↔ Block opening closing text block := by
  have hopenPos := List.length_pos_iff.mpr hopening
  have hclosePos := List.length_pos_iff.mpr hclosing
  have hlast : ∀ pair : Nat × Nat, pair ∈ taken → ∃ last, pair.1 ≤ last ∧
      Block opening closing text (last, pair.2) := by
    intro pair hpair
    obtain ⟨-, hopens, hclose⟩ := h.member hpair
    obtain ⟨last, hle, hend, hoccurs, hnone⟩ := last_opening hopens (hfits pair hpair)
    refine ⟨last, hle, block_of_first hopening hclosing hoccurs ?_ hend ?_⟩
    · exact ⟨by omega, hclose.occurs, fun other hother => hclose.first other (by omega)⟩
    · exact fun other hother => hnone other (by omega)
  choose! last hle hblock using hlast
  -- as many blocks as are taken are among them only if they are the ones taken
  have hsame : ∀ pair ∈ taken, Block opening closing text pair := by
    have hsublist := hlistings (taken.map fun pair => (last pair, pair.2)) ?_ ?_
    · rw [List.map_map] at hsublist
      have heq := hsublist.eq_of_length (by rw [List.length_map, List.length_map])
      intro pair hpair
      have hvalues := List.map_inj_left.mp heq pair hpair
      have hfound := hblock pair hpair
      rcases Nat.lt_or_eq_of_le (hle pair hpair) with hlt | hfirst
      · exact absurd hvalues (hvalue _ _ _ hfound.opens hlt hfound.ordered)
      · rw [← hfirst] at hfound
        exact hfound
    · rw [List.pairwise_map]
      refine h.pairwise.imp_of_mem ?_
      intro pair other hpair hother hapart
      have hfirst := (hblock pair hpair).ordered
      have hsecond := hle other hother
      simp only at hfirst
      left
      simp only
      omega
    · intro found hfound
      obtain ⟨pair, hpair, rfl⟩ := List.mem_map.mp hfound
      exact hblock pair hpair
  refine ⟨hsame block, fun hnew => ?_⟩
  by_contra hmissing
  have hordered := hnew.ordered
  obtain ⟨cover, hcover, hcoverLe, hcoverLt⟩ :=
    h.covers (Nat.zero_le _) hnew.opens (by omega) hnew.closes
  obtain ⟨front, back, rfl⟩ := List.append_of_mem hcover
  have hbefore : Before cover block := by
    have hfirst := (h.member hcover).2.2.first block.2 (by omega) hnew.closes
    have hne : cover ≠ block := fun heq => hmissing (heq ▸ hcover)
    rcases Nat.lt_or_eq_of_le hcoverLe with hlt | heq
    · exact Or.inl hlt
    · refine Or.inr ⟨heq, Nat.lt_of_le_of_ne hfirst fun hsecond => hne ?_⟩
      exact Prod.ext heq hsecond
  have hpairs := h.pairwise
  rw [List.pairwise_append, List.pairwise_cons] at hpairs
  obtain ⟨hfront, ⟨hcoverBack, hback⟩, hcross⟩ := hpairs
  have hwalk := h.before hfits hclosing
  rw [List.pairwise_append, List.pairwise_cons] at hwalk
  obtain ⟨hfrontBefore, ⟨hcoverBefore, hbackBefore⟩, hcrossBefore⟩ := hwalk
  have hsublist := hlistings (front ++ cover :: block :: back) ?_ ?_
  · have hlength := hsublist.length_le
    simp only [List.length_map, List.length_append, List.length_cons] at hlength
    omega
  · rw [List.pairwise_append, List.pairwise_cons, List.pairwise_cons]
    refine ⟨hfrontBefore, ⟨?_, ?_, hbackBefore⟩, ?_⟩
    · intro other hother
      rcases List.mem_cons.mp hother with rfl | hother
      · exact hbefore
      · exact hcoverBefore other hother
    · intro other hother
      have happ := hcoverBack other hother
      left
      omega
    · intro early hearly other hother
      have hcoverEarly := hcross early hearly cover List.mem_cons_self
      have hfit := hfits early (List.mem_append_left _ hearly)
      rcases List.mem_cons.mp hother with rfl | hother
      · exact hcrossBefore early hearly _ List.mem_cons_self
      · rcases List.mem_cons.mp hother with rfl | hother
        · left
          omega
        · exact hcrossBefore early hearly other (List.mem_cons_of_mem _ hother)
  · intro other hother
    rw [List.mem_append, List.mem_cons, List.mem_cons] at hother
    rcases hother with hother | rfl | rfl | hother
    · exact hsame other (List.mem_append_left _ hother)
    · exact hsame _ hcover
    · exact hnew
    · exact hsame other (List.mem_append_right _ (List.mem_cons_of_mem _ hother))

end Listings

end MarkedBlocks
