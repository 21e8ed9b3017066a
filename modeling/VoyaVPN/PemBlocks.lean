import VoyaVPN.PemChain

/-! Which certificate chains are split into all of their certificates. -/
namespace PemBlocks

open ProtocolCommon RustText MarkedBlocks PemChain

section Marks

theorem begin_ne : pemBegin.toList ≠ [] := by
  unfold pemBegin
  rewrite [String.toList_ofList]
  exact List.cons_ne_nil _ _

theorem end_ne : pemEnd.toList ≠ [] := by
  unfold pemEnd
  rewrite [String.toList_ofList]
  exact List.cons_ne_nil _ _

theorem begin_plain : '\r' ∉ pemBegin.toList ∧ '\n' ∉ pemBegin.toList := by
  unfold pemBegin
  rewrite [String.toList_ofList]
  decide

theorem end_plain : '\r' ∉ pemEnd.toList ∧ '\n' ∉ pemEnd.toList := by
  unfold pemEnd
  rewrite [String.toList_ofList]
  decide

end Marks

section Places

variable {pattern text : List Char}

theorem findStr_drop {start place : Nat} (hne : pattern ≠ [])
    (h : FirstFrom pattern text start place) :
    findStr pattern (text.drop start) =
      some ((text.drop start).take (place - start), text.drop place) := by
  have hlength := h.occurs.length_le hne
  have hpos := List.length_pos_iff.mpr hne
  have hle := h.from_start
  have hlt : start < text.length := by omega
  rcases Nat.lt_or_eq_of_le hle with hbefore | rfl
  · have hnot : pattern.isPrefixOf (text.drop start) = false := by
      rw [Bool.eq_false_iff]
      intro hprefix
      have hfirst := h.first start (Nat.le_refl _) (List.isPrefixOf_iff_prefix.mp hprefix)
      omega
    have hnext : FirstFrom pattern text (start + 1) place :=
      ⟨hbefore, h.occurs, fun other hother => h.first other (by omega)⟩
    have hsum : place - start = place - (start + 1) + 1 := by omega
    rw [List.drop_eq_getElem_cons hlt] at hnot ⊢
    rw [findStr, hnot, findStr_drop hne hnext, hsum, List.take_succ_cons]
    rfl
  · have hprefix : pattern.isPrefixOf (text.drop start) = true :=
      List.isPrefixOf_iff_prefix.mpr h.occurs
    rw [List.drop_eq_getElem_cons hlt] at hprefix ⊢
    rw [findStr, if_pos hprefix, Nat.sub_self]
    rfl
termination_by place - start

theorem findStr_none {start : Nat} (hne : pattern ≠ [])
    (h : ∀ place, start ≤ place → ¬ Occurs pattern text place) :
    findStr pattern (text.drop start) = none := by
  rcases Nat.lt_or_ge start text.length with hlt | hge
  · have hnot : pattern.isPrefixOf (text.drop start) = false := by
      rw [Bool.eq_false_iff]
      intro hprefix
      exact h start (Nat.le_refl _) (List.isPrefixOf_iff_prefix.mp hprefix)
    have hnext := findStr_none hne fun place hplace => h place (Nat.le_of_succ_le hplace)
    rw [List.drop_eq_getElem_cons hlt] at hnot ⊢
    rw [findStr, hnot, hnext]
    rfl
  · rw [List.drop_of_length_le hge, findStr, if_neg hne]
termination_by text.length - start

def blockCertificate (text : List Char) (block : Nat × Nat) : String :=
  certificate (body pemBegin.toList text block)

theorem pemLoop_walk {start fuel : Nat} {taken : List (Nat × Nat)}
    (h : Walk pemBegin.toList pemEnd.toList text start taken) (hfuel : text.length ≤ start + fuel) :
    pemLoop fuel (text.drop start) =
      if ∀ block ∈ taken, block.1 + pemBegin.toList.length ≤ block.2 then
        some (taken.map (blockCertificate text))
      else none := by
  induction h generalizing fuel with
  | unopened h =>
    cases fuel with
    | zero => simp [pemLoop]
    | succ fuel =>
      rw [pemLoop, findStr_none begin_ne h]
      simp
  | unclosed hopen h =>
    cases fuel with
    | zero => simp [pemLoop]
    | succ fuel =>
      rw [pemLoop, findStr_drop begin_ne hopen]
      simp only
      rw [findStr_none end_ne h]
      simp
  | @taken start place close later hopen hclose hlater ih =>
    have hlength := hclose.occurs.length_le end_ne
    have hpos := List.length_pos_iff.mpr end_ne
    have hopenLe := hopen.from_start
    have hcloseLe := hclose.from_start
    obtain ⟨fuel, rfl⟩ : ∃ less, fuel = less + 1 := ⟨fuel - 1, by omega⟩
    rw [pemLoop, findStr_drop begin_ne hopen]
    simp only
    rw [findStr_drop end_ne hclose]
    simp only
    have huntil : ((text.drop place).take (close - place)).length = close - place := by
      rw [List.length_take, List.length_drop]
      omega
    rw [huntil]
    have hall : (∀ block ∈ (place, close) :: later, block.1 + pemBegin.toList.length ≤ block.2) ↔
        place + pemBegin.toList.length ≤ close ∧
          ∀ block ∈ later, block.1 + pemBegin.toList.length ≤ block.2 :=
      List.forall_mem_cons
    by_cases hfit : place + pemBegin.toList.length ≤ close
    · have hbody : ((text.drop place).take (close - place)).drop pemBegin.toList.length =
          body pemBegin.toList text (place, close) := by
        rw [body, List.drop_take, List.drop_drop, Nat.sub_sub]
      rw [if_neg (by omega), hbody, List.drop_drop, ih (by omega)]
      by_cases hlaterFit : ∀ block ∈ later, block.1 + pemBegin.toList.length ≤ block.2
      · rw [if_pos hlaterFit, if_pos (hall.mpr ⟨hfit, hlaterFit⟩)]
        rfl
      · rw [if_neg hlaterFit, if_neg fun h => hlaterFit (hall.mp h).2]
        rfl
    · rw [if_pos (by omega), if_neg fun h => hfit (hall.mp h).1]

theorem pemLoop_fuel {fuel other : Nat} (hfuel : text.length ≤ fuel)
    (hother : text.length ≤ other) :
    pemLoop fuel text = pemLoop other text := by
  obtain ⟨taken, hwalk⟩ : ∃ taken, Walk pemBegin.toList pemEnd.toList text 0 taken :=
    walk_exists end_ne 0
  have hloop : ∀ steps, text.length ≤ steps → pemLoop steps text =
      if ∀ block ∈ taken, block.1 + pemBegin.toList.length ≤ block.2 then
        some (taken.map (blockCertificate text))
      else none :=
    fun steps hsteps => pemLoop_walk hwalk (by omega)
  rw [hloop fuel hfuel, hloop other hother]

end Places

section Lines

variable {pattern text first second : List Char}

/-- A text with line feeds for its line ends; the flag says whether a carriage return is before. -/
def unixLines : Bool → List Char → List Char
  | _, [] => []
  | afterReturn, char :: text =>
    if char = '\r' then '\n' :: unixLines true text
    else if char = '\n' ∧ afterReturn = true then unixLines false text
    else char :: unixLines false text

theorem unixLines_true (h : text.head? ≠ some '\n') :
    unixLines true text = unixLines false text := by
  cases text with
  | nil => rfl
  | cons char text =>
    have hchar : char ≠ '\n' := fun heq => h (by rw [heq]; rfl)
    simp [unixLines, hchar]

theorem replaceChars_return (fuel : Nat) (h : text.length ≤ fuel) :
    replaceChars ['\r'] ['\n'] fuel text = text.map fun char => if char =
      '\r' then '\n' else char := by
  induction fuel generalizing text with
  | zero =>
    rw [List.length_eq_zero_iff.mp (Nat.le_zero.mp h)]
    rfl
  | succ fuel ih =>
    cases text with
    | nil => rfl
    | cons char text =>
      rw [replaceChars, List.map_cons, ← ih (Nat.le_of_succ_le_succ h)]
      by_cases hreturn : char = '\r'
      · subst hreturn
        simp
      · have hnot : ['\r'].isPrefixOf (char :: text) = false := by
          simp [List.isPrefixOf, Ne.symm hreturn]
        rw [hnot, if_neg hreturn]
        rfl

theorem replace_lines (fuel : Nat) (h : text.length ≤ fuel) :
    (replaceChars ['\r', '\n'] ['\n'] fuel text).map
      (fun char => if char = '\r' then '\n' else char) = unixLines false text := by
  induction fuel generalizing text with
  | zero =>
    rw [List.length_eq_zero_iff.mp (Nat.le_zero.mp h)]
    rfl
  | succ fuel ih =>
    cases text with
    | nil => rfl
    | cons char text =>
      have hshort : text.length ≤ fuel := Nat.le_of_succ_le_succ h
      rw [replaceChars]
      by_cases hboth : ['\r', '\n'].isPrefixOf (char :: text) = true
      · obtain ⟨rest, hrest⟩ := List.isPrefixOf_iff_prefix.mp hboth
        cases hrest
        rw [if_pos hboth]
        have hdrop : (replaceChars ['\r', '\n'] ['\n'] fuel rest).map
            (fun char => if char = '\r' then '\n' else char) = unixLines false rest :=
          ih (Nat.le_of_succ_le hshort)
        simp [unixLines, ← hdrop]
      · rw [if_neg hboth, List.map_cons, ih hshort, unixLines]
        by_cases hreturn : char = '\r'
        · rw [if_pos hreturn, if_pos hreturn, unixLines_true]
          intro hhead
          apply hboth
          cases text with
          | nil => cases hhead
          | cons next text =>
            cases hhead
            rw [hreturn]
            rfl
        · rw [if_neg hreturn, if_neg hreturn, if_neg (by simp)]

theorem unixLines_append (h : '\r' ∉ first) :
    unixLines false (first ++ second) = first ++ unixLines false second := by
  induction first with
  | nil => rfl
  | cons char first ih =>
    rw [List.mem_cons, not_or] at h
    rw [List.cons_append, unixLines, if_neg (Ne.symm h.1), if_neg (by simp), ih h.2]
    rfl

theorem unixLines_self (h : '\r' ∉ text) : unixLines false text = text := by
  have happend : unixLines false (text ++ []) = text ++ unixLines false [] := unixLines_append h
  rw [List.append_nil] at happend
  rw [happend, unixLines, List.append_nil]

theorem filter_unixLines (afterReturn : Bool) :
    (unixLines afterReturn text).filter (!isWhitespace ·) = text.filter (!isWhitespace ·) := by
  have hreturn : isWhitespace '\r' = true := by decide
  have hfeed : isWhitespace '\n' = true := by decide
  induction text generalizing afterReturn with
  | nil => rfl
  | cons char text ih =>
    rw [unixLines]
    split
    · rename_i hchar
      rw [hchar, List.filter_cons_of_neg (by rw [hfeed]; decide),
        List.filter_cons_of_neg (by rw [hreturn]; decide), ih]
    · split
      · rename_i hchar
        rw [hchar.1, List.filter_cons_of_neg (by rw [hfeed]; decide), ih]
      · rw [List.filter_cons, List.filter_cons, ih]

theorem length_unixLines (afterReturn : Bool) :
    (unixLines afterReturn text).length ≤ text.length := by
  induction text generalizing afterReturn with
  | nil => exact Nat.le_refl _
  | cons char text ih =>
    rw [unixLines]
    split
    · exact Nat.succ_le_succ (ih true)
    · split
      · exact Nat.le_succ_of_le (ih false)
      · exact Nat.succ_le_succ (ih false)

/-- A pattern without line ends begins a text where it begins the text with line feeds. -/
theorem prefix_unixLines (hreturn : '\r' ∉ pattern) (hfeed : '\n' ∉ pattern) :
    pattern <+: unixLines false text ↔ pattern <+: text := by
  induction pattern generalizing text with
  | nil => simp
  | cons letter pattern ih =>
    rw [List.mem_cons, not_or] at hreturn hfeed
    cases text with
    | nil => rfl
    | cons char text =>
      rw [unixLines]
      by_cases hchar : char = '\r'
      · rw [if_pos hchar, List.cons_prefix_cons, List.cons_prefix_cons, hchar]
        constructor
        · rintro ⟨heq, -⟩
          exact absurd heq.symm hfeed.1
        · rintro ⟨heq, -⟩
          exact absurd heq.symm hreturn.1
      · rw [if_neg hchar, if_neg (by simp), List.cons_prefix_cons, List.cons_prefix_cons,
          ih hreturn.2 hfeed.2]

theorem findStr_unixLines (hne : pattern ≠ []) (hreturn : '\r' ∉ pattern) (hfeed : '\n' ∉ pattern)
    (afterReturn : Bool) :
    findStr pattern (unixLines afterReturn text) =
      (findStr pattern text).map fun found =>
        (unixLines afterReturn found.1, unixLines false found.2) := by
  have hskip : ∀ {char : Char} (rest : List Char), char = '\r' ∨ char = '\n' →
      findStr pattern (char :: rest) =
        (findStr pattern rest).map fun found => (char :: found.1, found.2) := by
    intro char rest hchar
    rw [findStr, if_neg]
    intro hprefix
    cases pattern with
    | nil => exact hne rfl
    | cons letter pattern =>
      have heq := (List.cons_prefix_cons.mp (List.isPrefixOf_iff_prefix.mp hprefix)).1
      rcases hchar with rfl | rfl
      · exact hreturn (heq ▸ List.mem_cons_self)
      · exact hfeed (heq ▸ List.mem_cons_self)
  induction text generalizing afterReturn with
  | nil =>
    rw [unixLines, findStr, if_neg hne]
    rfl
  | cons char text ih =>
    rw [unixLines]
    split
    · rename_i hchar
      subst hchar
      rw [hskip _ (Or.inr rfl), hskip _ (Or.inl rfl), ih, Option.map_map, Option.map_map]
      congr 1
    · rename_i hchar
      split
      · rename_i hafter
        obtain ⟨rfl, rfl⟩ := hafter
        rw [hskip _ (Or.inr rfl), ih, Option.map_map]
        congr 1
      · rename_i hafter
        have hprefix : pattern.isPrefixOf (char :: unixLines false text) =
            pattern.isPrefixOf (char :: text) := by
          have hiff : pattern <+: unixLines false (char :: text) ↔ pattern <+: char :: text :=
            prefix_unixLines hreturn hfeed
          rw [unixLines, if_neg hchar, if_neg (by simp), ← List.isPrefixOf_iff_prefix,
            ← List.isPrefixOf_iff_prefix] at hiff
          exact Bool.eq_iff_iff.mpr hiff
        rw [findStr, findStr, hprefix]
        split
        · simp [unixLines, hchar]
        · rw [ih, Option.map_map, Option.map_map]
          congr 1
          funext found
          simp [unixLines, hchar, hafter]

theorem pemLoop_unixLines (fuel : Nat) :
    pemLoop fuel (unixLines false text) = pemLoop fuel text := by
  induction fuel generalizing text with
  | zero => rfl
  | succ fuel ih =>
    rw [pemLoop, pemLoop, findStr_unixLines begin_ne begin_plain.1 begin_plain.2]
    cases hbegin : findStr pemBegin.toList text with
    | none => rfl
    | some found =>
      obtain ⟨skipped, fromBegin⟩ := found
      have hprefix := (findStr_split hbegin).2
      rw [Option.map_some]
      simp only
      rw [findStr_unixLines end_ne end_plain.1 end_plain.2]
      cases hend : findStr pemEnd.toList fromBegin with
      | none => rfl
      | some found =>
        obtain ⟨untilEnd, fromEnd⟩ := found
        obtain ⟨hsplit, later, hlater⟩ := findStr_split hend
        simp only at hsplit hlater hprefix
        have huntil : untilEnd <+: fromBegin := hsplit ▸ List.prefix_append _ _
        rw [Option.map_some]
        simp only
        rcases Nat.lt_or_ge untilEnd.length pemBegin.toList.length with hlt | hge
        · have hshort := List.prefix_of_prefix_length_le huntil hprefix (Nat.le_of_lt hlt)
          have hplain : '\r' ∉ untilEnd := fun hmem => begin_plain.1 (hshort.subset hmem)
          rw [unixLines_self hplain, if_pos hlt, if_pos hlt]
        · obtain ⟨content, rfl⟩ := List.prefix_of_prefix_length_le hprefix huntil hge
          rw [unixLines_append begin_plain.1, if_neg (by simp), if_neg (by simp), ← hlater,
            unixLines_append end_plain.1, List.drop_left, List.drop_left, List.drop_left,
            List.drop_left, filter_unixLines, ih]

theorem parsePemChain_loop (pemChain : String) :
    PemChain.parsePemChain pemChain = pemLoop pemChain.toList.length pemChain.toList := by
  have hreplace : (replace (replace pemChain "\r\n" "\n") "\r" "\n").toList =
      unixLines false pemChain.toList := by
    rw [replace, replace, String.toList_ofList, String.toList_ofList]
    repeat rewrite [String.toList_ofList]
    rw [replaceChars_return _ (Nat.le_refl _), replace_lines _ (Nat.le_refl _)]
  rw [parsePemChain_eq, parsePemChain?, hreplace,
    pemLoop_fuel (Nat.le_refl _) (length_unixLines false), pemLoop_unixLines]

end Lines

section Styles

/-- The ways in which lines end. -/
inductive LineStyle where
  | feed
  | carriageReturn
  | both
  deriving DecidableEq, Repr

def LineStyle.chars : LineStyle → List Char
  | .feed => ['\n']
  | .carriageReturn => ['\r']
  | .both => ['\r', '\n']

def linesOf : Bool → List Char → List (List Char)
  | _, [] => [[]]
  | afterReturn, char :: text =>
    if char = '\r' then [] :: linesOf true text
    else if char = '\n' then
      if afterReturn then linesOf false text else [] :: linesOf false text
    else (linesOf false text).modifyHead (char :: ·)

def withLineEnds (style : LineStyle) (text : String) : String :=
  String.ofList (style.chars.intercalate (linesOf false text.toList))

theorem linesOf_cons (afterReturn : Bool) (text : List Char) :
    ∃ line lines, linesOf afterReturn text = line :: lines := by
  induction text generalizing afterReturn with
  | nil => exact ⟨_, _, rfl⟩
  | cons char text ih =>
    rw [linesOf]
    split
    · exact ⟨_, _, rfl⟩
    · split
      · split
        · exact ih false
        · exact ⟨_, _, rfl⟩
      · obtain ⟨line, lines, hlines⟩ := ih false
        rw [hlines]
        exact ⟨_, _, rfl⟩

theorem linesOf_plain {afterReturn : Bool} {text line : List Char}
    (h : line ∈ linesOf afterReturn text) : '\r' ∉ line ∧ '\n' ∉ line := by
  induction text generalizing afterReturn line with
  | nil =>
    rw [linesOf, List.mem_singleton] at h
    rw [h]
    exact ⟨List.not_mem_nil, List.not_mem_nil⟩
  | cons char text ih =>
    rw [linesOf] at h
    split at h
    · rcases List.mem_cons.mp h with rfl | h
      · exact ⟨List.not_mem_nil, List.not_mem_nil⟩
      · exact ih h
    · rename_i hreturn
      split at h
      · split at h
        · exact ih h
        · rcases List.mem_cons.mp h with rfl | h
          · exact ⟨List.not_mem_nil, List.not_mem_nil⟩
          · exact ih h
      · rename_i hfeed
        obtain ⟨first, lines, hlines⟩ := linesOf_cons false text
        rw [hlines, List.modifyHead_cons] at h
        rcases List.mem_cons.mp h with rfl | h
        · have hfirst := ih (hlines ▸ List.mem_cons_self)
          rw [List.mem_cons, List.mem_cons, not_or, not_or]
          exact ⟨⟨Ne.symm hreturn, hfirst.1⟩, Ne.symm hfeed, hfirst.2⟩
        · exact ih (hlines ▸ List.mem_cons_of_mem _ h)

theorem intercalate_cons (separator line : List Char) (lines : List (List Char)) (char : Char) :
    separator.intercalate ((char :: line) :: lines) =
      char :: separator.intercalate (line :: lines) := by
  cases lines with
  | nil => rw [List.intercalate_singleton, List.intercalate_singleton]
  | cons next lines =>
    rw [List.intercalate_cons_cons, List.intercalate_cons_cons, List.append_assoc,
      List.append_assoc, List.cons_append]

theorem unixLines_eq (afterReturn : Bool) (text : List Char) :
    unixLines afterReturn text = ['\n'].intercalate (linesOf afterReturn text) := by
  have hnil : ∀ lines : List (List Char), lines ≠ [] →
      ['\n'].intercalate ([] :: lines) = '\n' :: ['\n'].intercalate lines := by
    intro lines hne
    cases lines with
    | nil => exact absurd rfl hne
    | cons line lines => rfl
  have hsome : ∀ afterReturn text, linesOf afterReturn text ≠ [] := by
    intro afterReturn text hempty
    obtain ⟨line, lines, hlines⟩ := linesOf_cons afterReturn text
    rw [hlines] at hempty
    cases hempty
  induction text generalizing afterReturn with
  | nil => rfl
  | cons char text ih =>
    rw [unixLines, linesOf]
    by_cases hreturn : char = '\r'
    · rw [if_pos hreturn, if_pos hreturn, hnil _ (hsome true text), ih]
    · rw [if_neg hreturn, if_neg hreturn]
      by_cases hfeed : char = '\n'
      · cases afterReturn with
        | true => rw [if_pos ⟨hfeed, rfl⟩, if_pos hfeed, if_pos rfl, ih]
        | false =>
          rw [if_neg (by simp), if_pos hfeed, if_neg (by simp), hnil _ (hsome false text), ih,
            hfeed]
      · rw [if_neg fun h => hfeed h.1, if_neg hfeed, ih]
        obtain ⟨line, lines, hlines⟩ := linesOf_cons false text
        rw [hlines, List.modifyHead_cons, intercalate_cons]

theorem intercalate_head {style : LineStyle} (hstyle : style = .carriageReturn)
    {lines : List (List Char)} (h : ∀ line ∈ lines, '\n' ∉ line) :
    (style.chars.intercalate lines).head? ≠ some '\n' := by
  subst hstyle
  cases lines with
  | nil => exact fun heq => nomatch heq
  | cons line lines =>
    have hline := h line List.mem_cons_self
    cases line with
    | nil =>
      cases lines with
      | nil => exact fun heq => nomatch heq
      | cons next lines =>
        rw [List.intercalate_cons_cons]
        simp [LineStyle.chars]
    | cons char line =>
      rw [intercalate_cons, List.head?_cons]
      rintro heq
      cases heq
      exact hline List.mem_cons_self

theorem unixLines_intercalate (style : LineStyle) {lines : List (List Char)}
    (h : ∀ line ∈ lines, '\r' ∉ line ∧ '\n' ∉ line) :
    unixLines false (style.chars.intercalate lines) = ['\n'].intercalate lines := by
  induction lines with
  | nil => rfl
  | cons line lines ih =>
    have hline := h line List.mem_cons_self
    have hlines : ∀ other ∈ lines, '\r' ∉ other ∧ '\n' ∉ other :=
      fun other hother => h other (List.mem_cons_of_mem _ hother)
    cases lines with
    | nil =>
      rw [List.intercalate_singleton, List.intercalate_singleton, unixLines_self hline.1]
    | cons next lines =>
      have hend : ∀ rest, (style = .carriageReturn → rest.head? ≠ some '\n') →
          unixLines false (style.chars ++ rest) = '\n' :: unixLines false rest := by
        intro rest hrest
        cases style with
        | feed => rfl
        | both => rfl
        | carriageReturn =>
          rw [← unixLines_true (hrest rfl)]
          rfl
      rw [List.intercalate_cons_cons, List.intercalate_cons_cons, List.append_assoc,
        unixLines_append hline.1, hend, ih hlines, List.append_assoc]
      · rfl
      · intro hstyle
        exact intercalate_head hstyle fun other hother => (hlines other hother).2

theorem parsePemChain_lineEnds (style : LineStyle) (pemChain : String) :
    PemChain.parsePemChain (withLineEnds style pemChain) = PemChain.parsePemChain pemChain := by
  have hsame : unixLines false (withLineEnds style pemChain).toList =
      unixLines false pemChain.toList := by
    rw [withLineEnds, String.toList_ofList,
      unixLines_intercalate style fun line hline => linesOf_plain hline, unixLines_eq]
  have hloop : ∀ text : String, PemChain.parsePemChain text =
      pemLoop (unixLines false text.toList).length (unixLines false text.toList) := by
    intro text
    rw [parsePemChain_loop, ← pemLoop_unixLines,
      pemLoop_fuel (length_unixLines false) (Nat.le_refl _)]
  rw [hloop, hloop pemChain, hsame]

end Styles

section Certificates

variable {pattern line rest : List Char} {found : List Char × List Char}

theorem findStr_line (hne : pattern ≠ []) (hfeed : '\n' ∉ pattern) (hline : ¬ pattern <:+: line) :
    findStr pattern (line ++ '\n' :: rest) =
      (findStr pattern rest).map fun found => (line ++ '\n' :: found.1, found.2) := by
  have hnot : ∀ {front : List Char}, ¬ pattern <+: front →
      pattern.isPrefixOf (front ++ '\n' :: rest) = false := by
    intro front hfront
    rw [Bool.eq_false_iff]
    intro hprefix
    have hlong := List.isPrefixOf_iff_prefix.mp hprefix
    rcases Nat.lt_or_ge front.length pattern.length with hlt | hge
    · have hmore : front ++ ['\n'] <+: pattern := by
        refine List.prefix_of_prefix_length_le ?_ hlong (by simpa using hlt)
        exact ⟨rest, by simp⟩
      exact hfeed (hmore.subset (List.mem_append_right _ List.mem_cons_self))
    · exact hfront (List.prefix_of_prefix_length_le hlong (List.prefix_append _ _) hge)
  induction line with
  | nil =>
    have hempty : ¬ pattern <+: [] := fun h => hne (List.prefix_nil.mp h)
    have hhead := hnot hempty
    rw [List.nil_append] at hhead ⊢
    rw [findStr, hhead]
    rfl
  | cons char line ih =>
    have hhead := hnot fun h => hline h.isInfix
    have hrest := ih fun h => hline (h.trans (List.suffix_cons char line).isInfix)
    rw [List.cons_append] at hhead ⊢
    rw [findStr, hhead, hrest]
    cases findStr pattern rest with
    | none => rfl
    | some found => rfl

theorem findStr_start (h : pattern <+: rest) : findStr pattern rest = some ([], rest) := by
  cases rest with
  | nil => rw [findStr, if_pos (List.prefix_nil.mp h)]
  | cons char rest => rw [findStr, if_pos (List.isPrefixOf_iff_prefix.mpr h)]

theorem pemLoop_feed (fuel : Nat) : pemLoop fuel ('\n' :: rest) = pemLoop fuel rest := by
  cases fuel with
  | zero => rfl
  | succ fuel =>
    have hskip : findStr pemBegin.toList ('\n' :: rest) =
        (findStr pemBegin.toList rest).map fun found => ('\n' :: found.1, found.2) :=
      findStr_line begin_ne begin_plain.2 fun h => begin_ne (List.infix_nil.mp h)
    rw [pemLoop, pemLoop, hskip]
    cases findStr pemBegin.toList rest with
    | none => rfl
    | some found => rfl

theorem certificate_chars (content : List Char) :
    (certificate content).toList = pemBegin.toList ++
      '\n' :: (content.filter (!isWhitespace ·) ++ '\n' :: (pemEnd.toList ++ ['\n'])) := by
  have hfeed : "\n".toList = ['\n'] := String.toList_ofList
  simp only [certificate, String.toList_append, String.toList_ofList, hfeed, List.append_assoc,
    List.cons_append, List.nil_append]

theorem findStr_content (content : List Char) :
    findStr pemEnd.toList (pemBegin.toList ++
        '\n' :: (content.filter (!isWhitespace ·) ++ '\n' :: (pemEnd.toList ++ rest))) =
      some (pemBegin.toList ++ '\n' :: (content.filter (!isWhitespace ·) ++ ['\n']),
        pemEnd.toList ++ rest) := by
  have hbegin : ¬ pemEnd.toList <:+: pemBegin.toList := by
    unfold pemEnd pemBegin
    repeat rewrite [String.toList_ofList]
    decide
  have hspace : ' ' ∈ pemEnd.toList := by
    unfold pemEnd
    rewrite [String.toList_ofList]
    decide
  have hcontent : ¬ pemEnd.toList <:+: content.filter (!isWhitespace ·) := by
    intro h
    have hmem := (List.mem_filter.mp (h.subset hspace)).2
    revert hmem
    decide
  rw [findStr_line end_ne end_plain.2 hbegin, findStr_line end_ne end_plain.2 hcontent,
    findStr_start (List.prefix_append _ _)]
  rfl

theorem pemLoop_certificates (contents : List (List Char)) {fuel : Nat}
    (hfuel : contents.length ≤ fuel) :
    pemLoop fuel (contents.flatMap fun content => (certificate content).toList) =
      some (contents.map certificate) := by
  have hfilter : ∀ content : List Char,
      (content.filter (!isWhitespace ·) ++ ['\n']).filter (!isWhitespace ·) =
        content.filter (!isWhitespace ·) := by
    intro content
    have hfeed : isWhitespace '\n' = true := by decide
    rw [List.filter_append, List.filter_filter]
    simp [hfeed]
  induction contents generalizing fuel with
  | nil =>
    cases fuel with
    | zero => rfl
    | succ fuel =>
      rw [List.flatMap_nil, pemLoop, findStr, if_neg begin_ne]
      rfl
  | cons content contents ih =>
    obtain ⟨fuel, rfl⟩ : ∃ less, fuel = less + 1 := ⟨fuel - 1, by
      rw [List.length_cons] at hfuel
      omega⟩
    have htext : ((content :: contents).flatMap fun content => (certificate content).toList) =
        pemBegin.toList ++ '\n' :: (content.filter (!isWhitespace ·) ++ '\n' ::
          (pemEnd.toList ++ '\n' :: contents.flatMap fun content =>
            (certificate content).toList)) := by
      rw [List.flatMap_cons, certificate_chars]
      simp only [List.append_assoc, List.cons_append, List.nil_append]
    rw [htext, pemLoop, findStr_start (List.prefix_append _ _)]
    simp only
    rw [findStr_content]
    simp only
    rw [if_neg (by simp), List.drop_left, List.drop_left, pemLoop_feed,
      ih (Nat.le_of_succ_le_succ hfuel), Option.map_some, List.map_cons]
    simp only [List.filter_cons, hfilter]
    rfl

end Certificates

section Statement

/-- The certificates are those of the text, whatever its line ends are and again for the chain that
they make; and among them are, in the order of the text, the certificates of its blocks. -/
structure SplitsInto (text : String) (certs : List String) : Prop where
  parsed : PemChain.parsePemChain text = some certs
  lineEnds : ∀ style, PemChain.parsePemChain (withLineEnds style text) = some certs
  again : PemChain.parsePemChain (String.ofList (certs.flatMap String.toList)) = some certs
  blocks : ∀ listing : List (Nat × Nat), listing.Pairwise Before →
    (∀ block ∈ listing, Block pemBegin.toList pemEnd.toList text.toList block) →
      (listing.map (blockCertificate text.toList)).Sublist certs

theorem certificate_inj {content other : List Char} (h : certificate content = certificate other) :
    content.filter (!isWhitespace ·) = other.filter (!isWhitespace ·) := by
  have hchars := congrArg String.toList h
  rw [certificate_chars, certificate_chars, List.append_cancel_left_eq] at hchars
  exact List.append_cancel_right (List.cons.inj hchars).2

theorem blockCertificate_ne {text : List Char} {place last close : Nat}
    (hoccurs : Occurs pemBegin.toList text last) (hlt : place < last)
    (hend : last + pemBegin.toList.length ≤ close) :
    blockCertificate text (last, close) ≠ blockCertificate text (place, close) := by
  intro heq
  have hfilter := certificate_inj heq
  have hlength := hoccurs.length_le begin_ne
  obtain ⟨after, hafter⟩ := hoccurs
  have hbody : body pemBegin.toList text (place, close) =
      (text.drop (place + pemBegin.toList.length)).take (last - place) ++
        body pemBegin.toList text (last, close) := by
    have hsum : close - (place + pemBegin.toList.length) =
        (last - place) + (close - (last + pemBegin.toList.length)) := by omega
    have hplace : place + pemBegin.toList.length + (last - place) =
        last + pemBegin.toList.length := by omega
    simp only [body]
    rw [hsum, List.take_add, List.drop_drop, hplace]
  -- the dash that ends the later marker is in the longer body only
  have hdash : '-' ∈ (text.drop (place + pemBegin.toList.length)).take (last - place) := by
    have hletter : text[last + 26]? = some '-' := by
      rw [← List.getElem?_drop, ← hafter]
      unfold pemBegin
      rewrite [String.toList_ofList]
      rfl
    have hbegin : pemBegin.toList.length = 27 := by
      unfold pemBegin
      rewrite [String.toList_ofList]
      rfl
    refine List.mem_of_getElem? (i := last - place - 1) ?_
    rw [List.getElem?_take_of_lt (by omega), List.getElem?_drop, hbegin, ← hletter]
    congr 1
    omega
  rw [hbody, List.filter_append] at hfilter
  have hcount := congrArg List.length hfilter
  rw [List.length_append] at hcount
  have hpos : 0 < (((text.drop (place + pemBegin.toList.length)).take (last - place)).filter
      (!isWhitespace ·)).length :=
    List.length_pos_of_mem (List.mem_filter.mpr ⟨hdash, by decide⟩)
  omega

theorem length_le_flatMap {contents : List (List Char)} {written : List Char → List Char}
    (h : ∀ content, written content ≠ []) :
    contents.length ≤ (contents.flatMap written).length := by
  induction contents with
  | nil => exact Nat.le_refl _
  | cons content contents ih =>
    have hpos := List.length_pos_iff.mpr (h content)
    rw [List.flatMap_cons, List.length_append, List.length_cons]
    omega

theorem parsePemChain_walk {text : String} {taken : List (Nat × Nat)}
    (h : Walk pemBegin.toList pemEnd.toList text.toList 0 taken) :
    PemChain.parsePemChain text =
      if ∀ block ∈ taken, block.1 + pemBegin.toList.length ≤ block.2 then
        some (taken.map (blockCertificate text.toList))
      else none := by
  rw [parsePemChain_loop]
  exact pemLoop_walk h (by omega)

theorem separated_of_splits {text : String} {certs : List String} (h : SplitsInto text certs) :
    Separated pemBegin.toList pemEnd.toList text.toList := by
  obtain ⟨taken, hwalk⟩ : ∃ taken, Walk pemBegin.toList pemEnd.toList text.toList 0 taken :=
    walk_exists end_ne 0
  have hparsed := h.parsed
  rw [parsePemChain_walk hwalk] at hparsed
  rw [separated_iff hwalk begin_ne end_ne]
  split at hparsed
  · rename_i hfits
    cases hparsed
    exact ⟨hfits, hwalk.blocks_of_listings begin_ne end_ne hfits
      (fun _ _ _ hoccurs hlt hend => blockCertificate_ne hoccurs hlt hend) h.blocks⟩
  · cases hparsed

theorem splits_of_separated {text : String}
    (h : Separated pemBegin.toList pemEnd.toList text.toList) :
    ∃ certs, SplitsInto text certs := by
  obtain ⟨taken, hwalk⟩ : ∃ taken, Walk pemBegin.toList pemEnd.toList text.toList 0 taken :=
    walk_exists end_ne 0
  obtain ⟨hfits, hexact⟩ := (separated_iff hwalk begin_ne end_ne).mp h
  have hparse := parsePemChain_walk hwalk
  rw [if_pos hfits] at hparse
  refine ⟨_, hparse, fun style => by rw [parsePemChain_lineEnds, hparse], ?_, ?_⟩
  · have hchain : (taken.map (blockCertificate text.toList)).flatMap String.toList =
        (taken.map (body pemBegin.toList text.toList)).flatMap fun content =>
          (certificate content).toList := by
      rw [List.flatMap_map, List.flatMap_map]
      rfl
    have hwritten : ∀ content, (certificate content).toList ≠ [] := by
      intro content
      rw [certificate_chars]
      simp
    rw [parsePemChain_loop, String.toList_ofList, hchain,
      pemLoop_certificates _ (length_le_flatMap hwritten), List.map_map]
    rfl
  · intro listing hlisting hblocks
    refine List.Sublist.map _ (sublist_of_before hlisting (hwalk.before hfits end_ne) ?_)
    exact fun block hblock => (hexact block).mpr (hblocks block hblock)

/-- A chain is split into all of its certificates where its blocks and markers are separated. -/
theorem parsePemChain_splits_iff (text : String) :
    (∃ certs, SplitsInto text certs) ↔
      Separated pemBegin.toList pemEnd.toList text.toList :=
  ⟨fun ⟨_, h⟩ => separated_of_splits h, splits_of_separated⟩

def truncatedChain : String :=
  "-----BEGIN CERTIFICATE-----\nAA\n-----BEGIN CERTIFICATE-----\nBB\n-----END CERTIFICATE-----"

theorem truncatedChain_marks :
    pemBegin.toList <+: truncatedChain.toList.drop 0 ∧
      pemBegin.toList <+: truncatedChain.toList.drop 31 ∧
        pemEnd.toList <+: truncatedChain.toList.drop 62 ∧
          ∀ close < 58, pemEnd.toList.isPrefixOf (truncatedChain.toList.drop close) = false := by
  unfold pemBegin pemEnd truncatedChain
  repeat rewrite [String.toList_ofList]
  refine ⟨⟨_, rfl⟩, ⟨_, rfl⟩, ⟨_, rfl⟩, ?_⟩
  decide +kernel

/-- A certificate without its end marker swallows the one behind it. -/
theorem truncated_certificate : ¬ ∃ certs, SplitsInto truncatedChain certs := by
  rintro ⟨certs, h⟩
  obtain ⟨hfirst, hsecond, hclose, hnone⟩ := truncatedChain_marks
  obtain ⟨⟨place, close⟩, hblock, hle, -⟩ :=
    (separated_of_splits h).opens 0 62 hfirst (by omega) hclose
  obtain rfl : place = 0 := Nat.le_zero.mp hle
  have hbegin : pemBegin.toList.length = 27 := by
    unfold pemBegin
    rewrite [String.toList_ofList]
    rfl
  rcases Nat.lt_or_ge close 58 with hlt | hge
  · have hcloses := List.isPrefixOf_iff_prefix.mpr hblock.closes
    rw [hnone close hlt] at hcloses
    cases hcloses
  · apply hblock.unopened
    rw [body, infix_slice_iff begin_ne hblock.ordered]
    exact ⟨31, by omega, by omega, hsecond⟩

end Statement

end PemBlocks
