import VoyaVPN.MarkedBlocks
import VoyaVPN.ProtocolCommon

/-! The splitting of a certificate chain, with the byte offsets it goes by, and what it takes of a
text by places. -/
namespace PemChain

open ProtocolCommon RustText MarkedBlocks

section Bytes

def byteLength (chars : List Char) : Nat := (chars.map Char.utf8Size).sum

/-- `split_at`: what is before and from a byte offset, which must not be inside a character. -/
def splitAtByte : Nat → List Char → Option (List Char × List Char)
  | 0, chars => some ([], chars)
  | _ + 1, [] => none
  | offset + 1, char :: chars =>
    if char.utf8Size ≤ offset + 1 then
      (splitAtByte (offset + 1 - char.utf8Size) chars).map fun parts => (char :: parts.1, parts.2)
    else none

def sliceFrom (text : List Char) (start : Nat) : Option (List Char) :=
  (splitAtByte start text).map (·.2)

def slice (text : List Char) (start stop : Nat) : Option (List Char) :=
  if start ≤ stop then
    (sliceFrom text start).bind fun rest => (splitAtByte (stop - start) rest).map (·.1)
  else none

/-- `str::find`, which gives a byte offset. -/
def find (pattern text : List Char) : Option Nat :=
  (findStr pattern text).map fun found => byteLength found.1

def certificate (content : List Char) : String :=
  pemBegin ++ "\n" ++ String.ofList (content.filter (!isWhitespace ·)) ++ "\n" ++ pemEnd ++ "\n"

theorem pemEnd_bytes : byteLength pemEnd.toList = 25 := by
  unfold pemEnd
  rewrite [String.toList_ofList]
  rfl

/-- The loop from an index on; none where a slice panics. -/
def parseLoop (text : List Char) (index : Nat) (certs : List String) : Option (List String) :=
  if index < byteLength text then
    match sliceFrom text index with
    | none => none
    | some rest =>
      match find pemBegin.toList rest with
      | none => some certs
      | some beginOffset =>
        match sliceFrom text (index + beginOffset) with
        | none => none
        | some fromBegin =>
          match find pemEnd.toList fromBegin with
          | none => some certs
          | some endOffset =>
            match slice text (index + beginOffset + byteLength pemBegin.toList)
                (index + beginOffset + endOffset) with
            | none => none
            | some content =>
              parseLoop text (index + beginOffset + endOffset + byteLength pemEnd.toList)
                (certs ++ [certificate content])
  else some certs
termination_by byteLength text - index
decreasing_by
  rw [pemEnd_bytes]
  omega

def parsePemChain (pemChain : String) : Option (List String) :=
  parseLoop (replace (replace pemChain "\r\n" "\n") "\r" "\n").toList 0 []

end Bytes

section Offsets

variable {text before rest : List Char}

theorem byteLength_append (first second : List Char) :
    byteLength (first ++ second) = byteLength first + byteLength second := by
  rw [byteLength, List.map_append, List.sum_append]
  rfl

theorem byteLength_pos (hne : text ≠ []) : 0 < byteLength text := by
  cases text with
  | nil => exact absurd rfl hne
  | cons char text =>
    have hpos := Char.utf8Size_pos char
    rw [byteLength, List.map_cons, List.sum_cons]
    omega

theorem splitAtByte_append (before rest : List Char) :
    splitAtByte (byteLength before) (before ++ rest) = some (before, rest) := by
  induction before with
  | nil =>
    rw [List.nil_append]
    cases rest with
    | nil => rfl
    | cons char rest => rfl
  | cons char before ih =>
    have hpos := Char.utf8Size_pos char
    obtain ⟨offset, hoffset⟩ : ∃ offset, byteLength (char :: before) = offset + 1 :=
      ⟨byteLength (char :: before) - 1, by
        have hlong := byteLength_pos (List.cons_ne_nil char before)
        omega⟩
    have hsum : byteLength (char :: before) = char.utf8Size + byteLength before := by
      rw [byteLength, List.map_cons, List.sum_cons]
      rfl
    have hrest : offset + 1 - char.utf8Size = byteLength before := by omega
    rw [hoffset, List.cons_append, splitAtByte, if_pos (by omega), hrest, ih]
    rfl

theorem sliceFrom_append (before rest : List Char) :
    sliceFrom (before ++ rest) (byteLength before) = some rest := by
  rw [sliceFrom, splitAtByte_append]
  rfl

theorem slice_append (before content rest : List Char) :
    slice (before ++ (content ++ rest)) (byteLength before)
      (byteLength before + byteLength content) = some content := by
  rw [slice, if_pos (Nat.le_add_right _ _), sliceFrom_append, Option.bind_some,
    Nat.add_sub_cancel_left, splitAtByte_append]
  rfl

theorem findStr_split {pattern : List Char} {found : List Char × List Char}
    (h : findStr pattern text = some found) :
    text = found.1 ++ found.2 ∧ pattern <+: found.2 := by
  induction text generalizing found with
  | nil =>
    rw [findStr] at h
    split at h
    · rename_i hpattern
      cases h
      exact ⟨rfl, hpattern ▸ List.prefix_refl _⟩
    · cases h
  | cons char text ih =>
    rw [findStr] at h
    split at h
    · rename_i hprefix
      cases h
      exact ⟨rfl, List.isPrefixOf_iff_prefix.mp hprefix⟩
    · obtain ⟨later, hlater, rfl⟩ := Option.map_eq_some_iff.mp h
      obtain ⟨heq, hpattern⟩ := ih hlater
      exact ⟨by rw [heq]; rfl, hpattern⟩

/-- The loop over byte offsets does what the loop over the rest of the text does. -/
theorem parseLoop_eq (fuel : Nat) (before rest : List Char) (certs : List String)
    (hfuel : rest.length ≤ fuel) :
    parseLoop (before ++ rest) (byteLength before) certs =
      (pemLoop fuel rest).map (certs ++ ·) := by
  induction fuel generalizing before rest certs with
  | zero =>
    rw [List.length_eq_zero_iff.mp (Nat.le_zero.mp hfuel), parseLoop, if_neg (by simp), pemLoop,
      Option.map_some, List.append_nil]
  | succ fuel ih =>
    rw [parseLoop, pemLoop]
    by_cases hempty : rest = []
    · subst hempty
      rw [if_neg (by simp)]
      have hnone : findStr pemBegin.toList [] = none := by
        unfold pemBegin
        rewrite [String.toList_ofList]
        rfl
      rw [hnone]
      simp
    · have hpos := byteLength_pos hempty
      rw [if_pos (by rw [byteLength_append]; omega), sliceFrom_append]
      simp only [find]
      cases hbegin : findStr pemBegin.toList rest with
      | none => simp
      | some found =>
        obtain ⟨skipped, fromBegin⟩ := found
        obtain ⟨hrest, hprefix⟩ := findStr_split hbegin
        simp only at hrest hprefix
        have hfrom : sliceFrom (before ++ rest) (byteLength before + byteLength skipped) =
            some fromBegin := by
          rw [hrest, ← List.append_assoc, ← byteLength_append, sliceFrom_append]
        rw [Option.map_some]
        simp only [hfrom]
        cases hend : findStr pemEnd.toList fromBegin with
        | none => simp
        | some found =>
          obtain ⟨untilEnd, fromEnd⟩ := found
          obtain ⟨hsplit, hclosing⟩ := findStr_split hend
          simp only at hsplit hclosing
          rw [Option.map_some]
          simp only
          have huntil : untilEnd <+: fromBegin := hsplit ▸ List.prefix_append _ _
          obtain ⟨later, hlater⟩ := hclosing
          have hnext : before ++ rest = (before ++ (skipped ++ (untilEnd ++ pemEnd.toList)))
            ++ later := by
            rw [hrest, hsplit, ← hlater]
            simp only [List.append_assoc]
          rcases Nat.lt_or_ge untilEnd.length pemBegin.toList.length with hlt | hge
          · -- the end marker begins within the begin marker
            obtain ⟨extra, hextra⟩ := List.prefix_of_prefix_length_le huntil hprefix
              (Nat.le_of_lt hlt)
            have hne : extra ≠ [] := by
              rintro rfl
              rw [List.append_nil] at hextra
              rw [hextra] at hlt
              exact Nat.lt_irrefl _ hlt
            have hextraPos := byteLength_pos hne
            have hbytes : byteLength pemBegin.toList = byteLength untilEnd + byteLength extra := by
              rw [← hextra, byteLength_append]
            rw [slice, if_neg (by omega), if_pos hlt]
            rfl
          · obtain ⟨content, hcontent⟩ := List.prefix_of_prefix_length_le hprefix huntil hge
            have hslice : slice (before ++ rest)
                (byteLength before + byteLength skipped + byteLength pemBegin.toList)
                (byteLength before + byteLength skipped + byteLength untilEnd) = some content := by
              have htext : before ++ rest = (before ++ skipped ++ pemBegin.toList) ++
                  (content ++ fromEnd) := by
                rw [hrest, hsplit, ← hcontent]
                simp only [List.append_assoc]
              rw [htext, ← hcontent, byteLength_append, ← byteLength_append, ← Nat.add_assoc,
                ← byteLength_append, slice_append]
            rw [hslice, if_neg (Nat.not_lt.mpr hge)]
            simp only
            have hindex : byteLength before + byteLength skipped + byteLength untilEnd +
                byteLength pemEnd.toList =
                  byteLength (before ++ (skipped ++ (untilEnd ++ pemEnd.toList))) := by
              simp only [byteLength_append]
              omega
            have hshort : later.length ≤ fuel := by
              have hlength := congrArg List.length hnext
              have hpemEnd : 0 < pemEnd.toList.length := by decide
              simp only [List.length_append] at hlength
              omega
            rw [hindex, hnext, ih _ later _ hshort, ← hlater, List.drop_left, ← hcontent,
              List.drop_left,
              Option.map_map]
            congr 1
            funext certs
            simp [certificate]

/-- Every slice of the loop is between characters, except where an end marker begins within a begin
marker. -/
theorem parsePemChain_eq (pemChain : String) :
    parsePemChain pemChain = parsePemChain? pemChain := by
  have hloop := parseLoop_eq _ [] (replace (replace pemChain "\r\n" "\n") "\r" "\n").toList []
    (Nat.le_refl _)
  rw [List.nil_append] at hloop
  rw [parsePemChain, parsePemChain?]
  exact hloop.trans (by simp)

end Offsets

end PemChain
