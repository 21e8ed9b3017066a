import Mathlib.Data.List.DropRight
import VoyaVPN.PercentText

/-! Addresses of the http scheme as a URL parser reads them: the segments of the path, of which
those of dots are resolved, and the pairs of the query. -/
namespace WhatwgUrl

open PercentText

section Parsing

def isTrimmed (char : Char) : Bool := char.toNat ≤ 0x20

def isRemoved (char : Char) : Bool := char = '\t' || char = '\n' || char = '\r'

/-- The text that is read: without control characters and spaces at its ends, and without tabs and
line ends. -/
def prepared (text : List Char) : List Char :=
  ((text.dropWhile isTrimmed).rdropWhile isTrimmed).filter (!isRemoved ·)

/-- What ends a segment; a backslash too in the special schemes. -/
def isSlash (char : Char) : Bool := char = '/' || char = '\\'

def endsPath (char : Char) : Bool := char = '?' || char = '#'

def isPathChar (char : Char) : Bool :=
  0x20 < char.toNat && char.toNat < 0x7F &&
    !(['\x22', '#', '<', '>', '?', '^', '\x60', '\x7B', '\x7D'].contains char)

def isQueryChar (char : Char) : Bool :=
  0x20 < char.toNat && char.toNat < 0x7F && !(['\x22', '#', '<', '>', '\''].contains char)

/-- A dot or the escape of one, which is written with a small or a capital letter. -/
def dotForms : List (List Char) := [['.'], ['%', '2', 'e'], ['%', '2', 'E']]

def isSingleDot (segment : List Char) : Bool := dotForms.contains segment

def isDoubleDot (segment : List Char) : Bool :=
  (dotForms.flatMap fun first => dotForms.map (first ++ ·)).contains segment

/-- The path behind some segments, with more of them; dots at the end leave an empty one. -/
def resolve : List (List Char) → List (List Char) → List (List Char)
  | path, [] => path
  | path, [last] =>
    if isDoubleDot last then path.dropLast ++ [[]]
    else if isSingleDot last then path ++ [[]]
    else path ++ [last]
  | path, segment :: next :: rest =>
    resolve
      (if isDoubleDot segment then path.dropLast
      else if isSingleDot segment then path
      else path ++ [segment]) (next :: rest)

def pathOf (text : List Char) : List (List Char) :=
  resolve [] ((text.splitOnP isSlash).map (encode isPathChar))

structure Url where
  authority : List Char
  path : List (List Char)
  query : Option (List Char)
  deriving DecidableEq, Repr

/-- An address of the http scheme; its fragment is not kept. -/
def parseHttp (input : List Char) : Option Url :=
  let text := prepared input
  if (text.take 5).map Char.toLower = ['h', 't', 't', 'p', ':'] then
    let rest := (text.drop 5).dropWhile isSlash
    let authority := rest.takeWhile fun char => !(isSlash char || endsPath char)
    let behind := rest.drop authority.length
    if authority = [] then none
    else
      some
        { authority
          path := pathOf ((behind.takeWhile (!endsPath ·)).drop 1)
          query :=
            match behind.dropWhile (!endsPath ·) with
            | '?' :: query => some (encode isQueryChar (query.takeWhile (· ≠ '#')))
            | _ => none }
  else none

end Parsing

section Reading

def Url.segments (url : Url) : List (List Char) := url.path.map decode

def formText (text : List Char) : List Char :=
  decode (text.map fun char => if char = '+' then ' ' else char)

def formPair (text : List Char) : List Char × List Char :=
  (formText (text.takeWhile (· ≠ '=')), formText ((text.dropWhile (· ≠ '=')).drop 1))

def formPairs (query : List Char) : List (List Char × List Char) :=
  ((query.splitOnP (· == '&')).filter (· ≠ [])).map formPair

def Url.parameters (url : Url) : List (List Char × List Char) :=
  (url.query.map formPairs).getD []

end Reading

section Texts

variable {text rest : List Char}

theorem prepared_self (h : ∀ char ∈ text, 0x20 < char.toNat) : prepared text = text := by
  have hplain : ∀ char ∈ text, isTrimmed char = false ∧ isRemoved char = false := by
    intro char hchar
    have hlow := h char hchar
    refine ⟨by simp [isTrimmed, hlow], ?_⟩
    rw [isRemoved]
    have htab : char ≠ '\t' := by rintro rfl; exact absurd hlow (by decide)
    have hfeed : char ≠ '\n' := by rintro rfl; exact absurd hlow (by decide)
    have hreturn : char ≠ '\r' := by rintro rfl; exact absurd hlow (by decide)
    simp [htab, hfeed, hreturn]
  have hleft : text.dropWhile isTrimmed = text := by
    rw [List.dropWhile_eq_self_iff]
    intro hpos
    rw [(hplain _ (List.getElem_mem hpos)).1]
    decide
  have hright : text.rdropWhile isTrimmed = text := by
    rw [List.rdropWhile_eq_self_iff]
    intro hne
    rw [(hplain _ (List.getLast_mem hne)).1]
    decide
  rw [prepared, hleft, hright, List.filter_eq_self]
  intro char hchar
  rw [(hplain char hchar).2]
  rfl

theorem takeWhile_until (stop : Char → Bool) (h : ∀ char ∈ text, stop char = false)
    (hrest : ∀ char, rest.head? = some char → stop char = true) :
    (text ++ rest).takeWhile (!stop ·) = text ∧ (text ++ rest).dropWhile (!stop ·) = rest := by
  have hall : ∀ char ∈ text, (!stop char) = true := by
    intro char hchar
    rw [h char hchar]
    rfl
  rw [List.takeWhile_append_of_pos hall, List.dropWhile_append_of_pos hall]
  cases rest with
  | nil => simp
  | cons char rest =>
    have hstop := hrest char rfl
    rw [List.takeWhile_cons_of_neg (by simp [hstop]), List.dropWhile_cons_of_neg (by simp [hstop])]
    simp

def queryTail (query : Option (List Char)) : List Char := (query.map ('?' :: ·)).getD []

/-- Reading an address that is written with an authority, a path and perhaps a query. -/
theorem parseHttp_address {authority path : List Char} {query : Option (List Char)}
    (hne : authority ≠ [])
    (hauthority : ∀ char ∈ authority, 0x20 < char.toNat ∧ isSlash char = false ∧
      endsPath char = false)
    (hpath : ∀ char ∈ path, 0x20 < char.toNat ∧ endsPath char = false)
    (hquery : ∀ text, query = some text → ∀ char ∈ text, 0x20 < char.toNat ∧ char ≠ '#') :
    parseHttp (['h', 't', 't', 'p', ':', '/', '/'] ++ (authority ++ ('/' :: path ++
        queryTail query))) =
      some { authority, path := pathOf path, query := query.map (encode isQueryChar) } := by
  have htail : ∀ char ∈ queryTail query, 0x20 < char.toNat := by
    intro char hchar
    cases hsome : query with
    | none =>
      rw [hsome] at hchar
      exact absurd hchar List.not_mem_nil
    | some text =>
      rw [hsome] at hchar
      rcases List.mem_cons.mp hchar with rfl | hchar
      · decide
      · exact (hquery text hsome char hchar).1
  have hscheme : ∀ char ∈ ['h', 't', 't', 'p', ':', '/', '/'], 0x20 < char.toNat := by
    simp only [List.mem_cons, List.not_mem_nil, or_false]
    rintro char (rfl | rfl | rfl | rfl | rfl | rfl | rfl) <;> decide
  have hprepared : prepared (['h', 't', 't', 'p', ':', '/', '/'] ++ (authority ++ ('/' :: path ++
      queryTail query))) =
        'h' :: 't' :: 't' :: 'p' :: ':' :: '/' :: '/' ::
          (authority ++ ('/' :: path ++ queryTail query)) := by
    apply prepared_self
    intro char hchar
    rcases List.mem_append.mp hchar with hchar | hchar
    · exact hscheme char hchar
    · rcases List.mem_append.mp hchar with hchar | hchar
      · exact (hauthority char hchar).1
      · rcases List.mem_append.mp hchar with hchar | hchar
        · rcases List.mem_cons.mp hchar with rfl | hchar
          · decide
          · exact (hpath char hchar).1
        · exact htail char hchar
  have hslashes : ('/' :: '/' ::
    (authority ++ ('/' :: path ++ queryTail query))).dropWhile isSlash =
      authority ++ ('/' :: path ++ queryTail query) := by
    rw [List.dropWhile_cons_of_pos (by decide), List.dropWhile_cons_of_pos (by decide)]
    cases authority with
    | nil => exact absurd rfl hne
    | cons first authority =>
      have hfirst := (hauthority first List.mem_cons_self).2.1
      rw [List.cons_append, List.dropWhile_cons_of_neg (by simp [hfirst])]
  have hstop : (authority ++ ('/' :: path ++ queryTail query)).takeWhile
      (fun char => !(isSlash char || endsPath char)) = authority := by
    refine (takeWhile_until (fun char => isSlash char || endsPath char) ?_ ?_).1
    · intro char hchar
      obtain ⟨-, hslash, hend⟩ := hauthority char hchar
      rw [hslash, hend]
      rfl
    · intro char hchar
      cases hchar
      rfl
  have hends : ('/' :: path ++ queryTail query).takeWhile (!endsPath ·) = '/' :: path ∧
      ('/' :: path ++ queryTail query).dropWhile (!endsPath ·) = queryTail query := by
    apply takeWhile_until endsPath
    · intro char hchar
      rcases List.mem_cons.mp hchar with rfl | hchar
      · decide
      · exact (hpath char hchar).2
    · intro char hchar
      cases query with
      | none => cases hchar
      | some text =>
        cases hchar
        rfl
  have hread : (match queryTail query with
      | '?' :: text => some (encode isQueryChar (text.takeWhile (· ≠ '#')))
      | _ => none) = query.map (encode isQueryChar) := by
    cases hsome : query with
    | none => rfl
    | some text =>
      have hall : text.takeWhile (· ≠ '#') = text := by
        rw [List.takeWhile_eq_self_iff]
        intro char hchar
        simpa using (hquery text hsome char hchar).2
      simp only [queryTail, Option.map_some, Option.getD_some, hall]
  rw [parseHttp, hprepared]
  simp only [List.take_succ_cons, List.take_zero, List.drop_succ_cons, List.drop_zero, hslashes,
    hstop, List.drop_left, hends.1, hends.2, if_neg hne, hread]
  rfl

theorem encode_append (keep : Char → Bool) (first second : List Char) :
    encode keep (first ++ second) = encode keep first ++ encode keep second :=
  List.flatMap_append

theorem encode_self {keep : Char → Bool} (h : ∀ char ∈ text, keep char = true) :
    encode keep text = text := by
  induction text with
  | nil => rfl
  | cons char text ih =>
    have hrest := ih fun other hother => h other (List.mem_cons_of_mem _ hother)
    rw [encode] at hrest ⊢
    rw [List.flatMap_cons, hrest, encodeChar, if_pos (h char List.mem_cons_self)]
    rfl

theorem splitOnP_piece {separator : Char → Bool} (h : ∀ char ∈ text, separator char = false) :
    text.splitOnP separator = [text] := by
  rw [List.splitOnP_eq_singleton]
  intro char hchar
  simp [h char hchar]

theorem splitOnP_next {separator : Char → Bool} {char : Char} (hchar : separator char = true) :
    (text ++ char :: rest).splitOnP separator =
      text.splitOnP separator ++ rest.splitOnP separator :=
  List.splitOnP_append_cons text rest hchar

theorem not_separator {separator : Char → Bool} {piece : List Char}
    (h : piece ∈ text.splitOnP separator) {char : Char} (hchar : char ∈ piece) :
    separator char = false := by
  induction text generalizing piece with
  | nil =>
    rw [List.splitOnP_nil, List.mem_singleton] at h
    rw [h] at hchar
    exact absurd hchar List.not_mem_nil
  | cons first text ih =>
    rw [List.splitOnP_cons_eq_if_modifyHead] at h
    split at h
    · rcases List.mem_cons.mp h with rfl | h
      · exact absurd hchar List.not_mem_nil
      · exact ih h hchar
    · rename_i hfirst
      cases hpieces : text.splitOnP separator with
      | nil => exact absurd hpieces (List.splitOnP_ne_nil separator text)
      | cons head pieces =>
        rw [hpieces, List.modifyHead_cons] at h
        rcases List.mem_cons.mp h with rfl | h
        · rcases List.mem_cons.mp hchar with rfl | hchar
          · exact Bool.eq_false_iff.mpr hfirst
          · exact ih (hpieces ▸ List.mem_cons_self) hchar
        · exact ih (hpieces ▸ List.mem_cons_of_mem _ h) hchar

theorem formText_plain (h : '+' ∉ text) : formText text = decode text := by
  have hmap : (text.map fun char => if char = '+' then ' ' else char) = text.map id := by
    apply List.map_congr_left
    intro char hchar
    have hplus : char ≠ '+' := fun heq => h (heq ▸ hchar)
    rw [if_neg hplus]
    rfl
  rw [formText, hmap, List.map_id]

theorem formPair_eq (h : '=' ∉ text) :
    formPair (text ++ '=' :: rest) = (formText text, formText rest) := by
  have hstop : (text ++ '=' :: rest).takeWhile (fun char => !decide (char = '=')) = text ∧
      (text ++ '=' :: rest).dropWhile (fun char => !decide (char = '=')) = '=' :: rest := by
    apply takeWhile_until (· = '=')
    · intro char hchar
      simpa using fun heq : char = '=' => h (heq ▸ hchar)
    · intro char hchar
      cases hchar
      rfl
  rw [formPair]
  simp only [ne_eq, decide_not]
  rw [hstop.1, hstop.2]
  rfl

theorem encode_encode {keep other : Char → Bool} (hpercent : other '%' = true)
    (hdigits : ∀ n < 16, other (hexDigit n) = true) (text : List Char) :
    encode other (encode keep text) = encode (fun char => keep char && other char) text := by
  have hescape : ∀ byte < 256, encode other (escapeByte byte) = escapeByte byte := by
    intro byte hbyte
    obtain ⟨hhigh, hlow⟩ := hexDigit_lt hbyte
    simp [encode, encodeChar, escapeByte, hpercent, hdigits _ hhigh, hdigits _ hlow]
  have hescapes : ∀ bytes : List Nat, (∀ byte ∈ bytes, byte < 256) →
      encode other (bytes.flatMap escapeByte) = bytes.flatMap escapeByte := by
    intro bytes hbytes
    induction bytes with
    | nil => rfl
    | cons byte bytes ih =>
      have hrest := ih fun other hother => hbytes other (List.mem_cons_of_mem _ hother)
      have hfirst := hescape byte (hbytes byte List.mem_cons_self)
      rw [encode] at hfirst hrest ⊢
      rw [List.flatMap_cons, List.flatMap_append, hfirst, hrest]
  induction text with
  | nil => rfl
  | cons char text ih =>
    rw [encode] at ih ⊢
    rw [encode] at ih ⊢
    rw [encode] at ih ⊢
    rw [List.flatMap_cons, List.flatMap_append, ih, List.flatMap_cons]
    congr 1
    rw [encodeChar, encodeChar]
    cases hkeep : keep char with
    | true =>
      rw [if_pos rfl, List.flatMap_singleton, encodeChar, Bool.true_and]
    | false =>
      rw [if_neg (by simp), Bool.false_and, if_neg (by simp)]
      exact hescapes _ (utf8Char_lt char)

theorem splitOnP_encode {keep separator : Char → Bool} (hpercent : separator '%' = false)
    (hdigits : ∀ n < 16, separator (hexDigit n) = false) (text : List Char) :
    (encode keep text).splitOnP separator =
      (text.splitOnP fun char => keep char && separator char).map (encode keep) := by
  have hescape : ∀ char, ∀ letter ∈ (utf8Char char).flatMap escapeByte,
    separator letter = false := by
    intro char letter hletter
    obtain ⟨byte, hbyte, hmem⟩ := List.mem_flatMap.mp hletter
    obtain ⟨hhigh, hlow⟩ := hexDigit_lt (utf8Char_lt char byte hbyte)
    simp only [escapeByte, List.mem_cons, List.not_mem_nil, or_false] at hmem
    rcases hmem with rfl | rfl | rfl
    · exact hpercent
    · exact hdigits _ hhigh
    · exact hdigits _ hlow
  have hfront : ∀ letters rest : List Char, (∀ letter ∈ letters, separator letter = false) →
      (letters ++ rest).splitOnP separator = (rest.splitOnP separator).modifyHead
        (letters ++ ·) := by
    intro letters rest hletters
    induction letters with
    | nil =>
      rw [List.nil_append]
      cases rest.splitOnP separator with
      | nil => rfl
      | cons first pieces => rfl
    | cons letter letters ih =>
      have hletter := hletters letter List.mem_cons_self
      rw [List.cons_append, List.splitOnP_cons_eq_if_modifyHead, if_neg (by simp [hletter]),
        ih fun other hother => hletters other (List.mem_cons_of_mem _ hother)]
      cases rest.splitOnP separator with
      | nil => rfl
      | cons first pieces => rfl
  have hmap : ∀ char (pieces : List (List Char)),
      (pieces.map (encode keep)).modifyHead (encodeChar keep char ++ ·) =
        (pieces.modifyHead (char :: ·)).map (encode keep) := by
    intro char pieces
    cases pieces with
    | nil => rfl
    | cons first pieces => rfl
  induction text with
  | nil => rfl
  | cons char text ih =>
    have htext : encode keep (char :: text) = encodeChar keep char ++ encode keep text :=
      List.flatMap_cons
    rw [htext, List.splitOnP_cons_eq_if_modifyHead]
    cases hboth : keep char && separator char with
    | true =>
      rw [Bool.and_eq_true] at hboth
      rw [if_pos rfl, encodeChar, if_pos hboth.1, List.singleton_append,
        List.splitOnP_cons_eq_if_modifyHead, if_pos hboth.2, ih]
      rfl
    | false =>
      rw [if_neg (by simp), hfront, ih, hmap]
      intro letter hletter
      rw [encodeChar] at hletter
      cases hkeep : keep char with
      | true =>
        rw [hkeep, if_pos rfl, List.mem_singleton] at hletter
        rw [hkeep, Bool.true_and] at hboth
        rw [hletter]
        exact hboth
      | false =>
        rw [hkeep, if_neg (by simp)] at hletter
        exact hescape char letter hletter

end Texts

section Paths

variable {path pieces : List (List Char)}

theorem mem_resolve {segment : List Char} (h : segment ∈ resolve path pieces) :
    segment ∈ path ∨ segment ∈ pieces ∨ segment = [] := by
  induction pieces generalizing path with
  | nil => exact Or.inl h
  | cons piece pieces ih =>
    cases pieces with
    | nil =>
      rw [resolve] at h
      split at h
      · rcases List.mem_append.mp h with h | h
        · exact Or.inl (List.dropLast_subset _ h)
        · exact Or.inr (Or.inr (List.mem_singleton.mp h))
      · split at h
        · rcases List.mem_append.mp h with h | h
          · exact Or.inl h
          · exact Or.inr (Or.inr (List.mem_singleton.mp h))
        · rcases List.mem_append.mp h with h | h
          · exact Or.inl h
          · exact Or.inr (Or.inl h)
    | cons next rest =>
      rw [resolve] at h
      rcases ih h with h | h | h
      · split at h
        · exact Or.inl (List.dropLast_subset _ h)
        · split at h
          · exact Or.inl h
          · rcases List.mem_append.mp h with h | h
            · exact Or.inl h
            · rw [List.mem_singleton.mp h]
              exact Or.inr (Or.inl List.mem_cons_self)
      · exact Or.inr (Or.inl (List.mem_cons_of_mem _ h))
      · exact Or.inr (Or.inr h)

theorem resolve_plain
    (h : ∀ piece ∈ pieces, isSingleDot piece = false ∧ isDoubleDot piece = false) :
    resolve path pieces = path ++ pieces := by
  induction pieces generalizing path with
  | nil =>
    rw [List.append_nil]
    rfl
  | cons piece pieces ih =>
    obtain ⟨hsingle, hdouble⟩ := h piece List.mem_cons_self
    cases pieces with
    | nil =>
      rw [resolve, hsingle, hdouble]
      rfl
    | cons next rest =>
      rw [resolve, hsingle, hdouble]
      simp only [Bool.false_eq_true, if_false]
      rw [ih fun other hother => h other (List.mem_cons_of_mem _ hother), List.append_assoc]
      rfl

theorem resolve_cons {piece : List Char} (hne : pieces ≠ [])
    (h : isSingleDot piece = false ∧ isDoubleDot piece = false) :
    resolve path (piece :: pieces) = resolve (path ++ [piece]) pieces := by
  cases pieces with
  | nil => exact absurd rfl hne
  | cons next rest =>
    rw [resolve, h.1, h.2]
    rfl

theorem decode_single {segment : List Char} (h : isSingleDot segment = true) :
    decode segment = ['.'] := by
  simp only [isSingleDot, dotForms, List.contains_iff_mem, List.mem_cons, List.not_mem_nil,
    or_false] at h
  rcases h with rfl | rfl | rfl <;> decide

theorem decode_double {segment : List Char} (h : isDoubleDot segment = true) :
    decode segment = ['.', '.'] := by
  simp only [isDoubleDot, dotForms, List.flatMap_cons, List.flatMap_nil, List.map_cons,
    List.map_nil,
    List.append_nil, List.cons_append, List.nil_append, List.contains_iff_mem, List.mem_cons,
    List.not_mem_nil, or_false] at h
  rcases h with rfl | rfl | rfl | rfl | rfl | rfl | rfl | rfl | rfl <;> decide

end Paths

end WhatwgUrl
