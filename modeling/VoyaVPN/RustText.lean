import Mathlib

/-! Rust string operations over Lean strings. A Rust `str` is a sequence of Unicode
scalar values, which is exactly what `String.toList` exposes; no operation here
depends on the UTF-8 encoding. -/
namespace RustText

/-- The Unicode White_Space property, the one `char::is_whitespace` tests. -/
def isWhitespace (c : Char) : Bool :=
  let n := c.toNat
  (9 ≤ n && n ≤ 13) || n == 0x20 || n == 0x85 || n == 0xA0 || n == 0x1680 ||
    (0x2000 ≤ n && n ≤ 0x200A) || n == 0x2028 || n == 0x2029 || n == 0x202F ||
    n == 0x205F || n == 0x3000

def trim (s : String) : String :=
  String.ofList ((s.toList.dropWhile isWhitespace).rdropWhile isWhitespace)

def trimMatches (p : Char → Bool) (s : String) : String :=
  String.ofList ((s.toList.dropWhile p).rdropWhile p)

def isEmpty (s : String) : Bool := s.toList.isEmpty

def startsWith (s pat : String) : Bool := pat.toList.isPrefixOf s.toList

def endsWith (s pat : String) : Bool := pat.toList.isSuffixOf s.toList

def stripPrefix (s pat : String) : Option String :=
  if startsWith s pat then some (String.ofList (s.toList.drop pat.toList.length)) else none

def containsChar (s : String) (p : Char → Bool) : Bool := s.toList.any p

def containsStr (s pat : String) : Bool := decide (pat.toList <:+: s.toList)

def split (s : String) (p : Char → Bool) : List String :=
  (s.toList.splitOnP p).map String.ofList

def splitWhitespace (s : String) : List String :=
  (split s isWhitespace).filter (!isEmpty ·)

/-- `str::replace` for a nonempty pattern: leftmost, non-overlapping occurrences. -/
def replaceChars (pat new : List Char) : Nat → List Char → List Char
  | 0, cs => cs
  | _, [] => []
  | fuel + 1, c :: cs =>
    if pat.isPrefixOf (c :: cs) then
      new ++ replaceChars pat new fuel ((c :: cs).drop pat.length)
    else c :: replaceChars pat new fuel cs

def replace (s pat new : String) : String :=
  String.ofList (replaceChars pat.toList new.toList s.toList.length s.toList)

def toAsciiLowercase (s : String) : String := String.ofList (s.toList.map Char.toLower)

def eqIgnoreAsciiCase (s t : String) : Bool := toAsciiLowercase s == toAsciiLowercase t

/-- `str::lines`: segments ended by a line feed, without it and one carriage return before it. What
follows the last line feed is a line as it stands. -/
def lines (s : String) : List String :=
  let segments := s.toList.splitOnP (· == '\n')
  let ended := segments.dropLast.map fun segment =>
    String.ofList (if segment.getLast? = some '\r' then segment.dropLast else segment)
  let rest := segments.getLastD []
  ended ++ if rest = [] then [] else [String.ofList rest]

def splitOnce (s : String) (c : Char) : Option (String × String) :=
  let head := s.toList.takeWhile (· != c)
  match s.toList.drop head.length with
  | [] => none
  | _ :: tail => some (String.ofList head, String.ofList tail)

def rsplitOnce (s : String) (c : Char) : Option (String × String) :=
  let tail := s.toList.rtakeWhile (· != c)
  match s.toList.take (s.toList.length - tail.length) with
  | [] => none
  | head => some (String.ofList head.dropLast, String.ofList tail)

/-- `trim_end_matches` with a string pattern removes the pattern as often as it ends the text. -/
def trimEndChars (pat : List Char) : Nat → List Char → List Char
  | 0, cs => cs
  | fuel + 1, cs =>
    if pat.isSuffixOf cs then trimEndChars pat fuel (cs.take (cs.length - pat.length)) else cs

def trimEndMatches (s pat : String) : String :=
  String.ofList (trimEndChars pat.toList s.toList.length s.toList)

def digitValue (c : Char) : Option Nat :=
  if '0' ≤ c ∧ c ≤ '9' then some (c.toNat - '0'.toNat) else none

def parseDigits : Nat → List Char → Option Nat
  | acc, [] => some acc
  | acc, c :: cs => (digitValue c).bind fun d => parseDigits (10 * acc + d) cs

/-- The integer `FromStr` grammar: an optional sign, then at least one ASCII digit. -/
def parseInteger (s : String) : Option Int :=
  match s.toList with
  | [] => none
  | '+' :: c :: cs => (parseDigits 0 (c :: cs)).map Int.ofNat
  | '-' :: c :: cs => (parseDigits 0 (c :: cs)).map fun n => -(n : Int)
  | cs => (parseDigits 0 cs).map Int.ofNat

def parseI32 (s : String) : Option Int :=
  (parseInteger s).filter fun n => decide (-2 ^ 31 ≤ n ∧ n < 2 ^ 31)

def parseU16 (s : String) : Option Nat :=
  if startsWith s "-" then none
  else (parseInteger s).bind fun n => if n < 2 ^ 16 then some n.toNat else none

def parseU8 (s : String) : Option Nat :=
  if startsWith s "-" then none
  else (parseInteger s).bind fun n => if n < 2 ^ 8 then some n.toNat else none

/-- Release-mode `i32` addition. -/
def addI32 (a b : Int) : Int := (a + b).bmod (2 ^ 32)

theorem isEmpty_iff (s : String) : isEmpty s = true ↔ s = "" := by
  rw [isEmpty, List.isEmpty_iff, String.toList_eq_nil_iff]

theorem startsWith_iff (s pat : String) :
    startsWith s pat = true ↔ ∃ rest, s = pat ++ rest := by
  constructor
  · intro h
    obtain ⟨rest, hr⟩ := List.isPrefixOf_iff_prefix.mp h
    exact ⟨String.ofList rest, by simp [String.ext_iff, ← hr]⟩
  · rintro ⟨rest, rfl⟩
    exact List.isPrefixOf_iff_prefix.mpr ⟨rest.toList, by simp⟩

theorem startsWith_append (pat rest : String) : startsWith (pat ++ rest) pat = true :=
  (startsWith_iff _ _).mpr ⟨rest, rfl⟩

theorem digitValue_of_parseDigits {cs : List Char} {acc n : Nat}
    (h : parseDigits acc cs = some n) : ∀ c ∈ cs, (digitValue c).isSome = true := by
  induction cs generalizing acc with
  | nil => exact fun c hc => absurd hc List.not_mem_nil
  | cons c cs ih =>
    rw [parseDigits] at h
    obtain ⟨d, hd, h⟩ := Option.bind_eq_some_iff.mp h
    intro other hother
    rcases List.mem_cons.mp hother with rfl | hother
    · exact Option.isSome_iff_exists.mpr ⟨d, hd⟩
    · exact ih h other hother

theorem append_left_cancel {s t u : String} (h : s ++ t = s ++ u) : t = u := by
  have hl := congrArg String.toList h
  simp only [String.toList_append] at hl
  exact String.ext_iff.mpr (List.append_cancel_left hl)

theorem dropWhile_trimmed (p : Char → Bool) (l : List Char) :
    ((l.dropWhile p).rdropWhile p).dropWhile p = (l.dropWhile p).rdropWhile p := by
  obtain ⟨rest, hrest⟩ := List.rdropWhile_prefix p (l.dropWhile p)
  cases hkept : (l.dropWhile p).rdropWhile p with
  | nil => rfl
  | cons c kept =>
    rw [hkept] at hrest
    have hc : p c = false := by
      have hhead := List.head?_dropWhile_not p l
      rw [← hrest] at hhead
      simpa using hhead
    rw [List.dropWhile_cons_of_neg (by simp [hc])]

theorem trim_trim (s : String) : trim (trim s) = trim s := by
  have hlist : (trim s).toList = (s.toList.dropWhile isWhitespace).rdropWhile isWhitespace :=
    String.toList_ofList
  rw [trim, hlist, dropWhile_trimmed, List.rdropWhile_idempotent]
  rfl

theorem trim_of_chars {text : String}
    (hchars : ∀ c ∈ text.toList, isWhitespace c = false) : trim text = text := by
  have hdrop : text.toList.dropWhile isWhitespace = text.toList := by
    cases htext : text.toList with
    | nil => rfl
    | cons c cs =>
      rw [List.dropWhile_cons_of_neg]
      simp [hchars c (by simp [htext])]
  have hrdrop : text.toList.rdropWhile isWhitespace = text.toList := by
    rw [List.rdropWhile_eq_self_iff]
    intro hne
    simp [hchars _ (List.getLast_mem hne)]
  rw [trim, hdrop, hrdrop, String.ofList_toList]

example : trim " \t a b\n" = "a b" := by decide

example : (parseI32 "-0080", parseI32 "+7", parseI32 "", parseI32 "2147483648") =
    (some (-80), some 7, none, none) := by decide

end RustText
