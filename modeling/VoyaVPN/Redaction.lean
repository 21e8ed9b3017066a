import VoyaVPN.PercentText
import VoyaVPN.Masking

/-! The redaction of log lines: the scan for URLs that have user information, over the bytes of a
line. -/
namespace Redaction

section Bytes

def isAsciiAlphabetic (byte : Nat) : Bool :=
  (0x41 ≤ byte && byte ≤ 0x5A) || (0x61 ≤ byte && byte ≤ 0x7A)

def isAsciiDigit (byte : Nat) : Bool := 0x30 ≤ byte && byte ≤ 0x39

def isUrlSchemeByte (byte : Nat) : Bool :=
  isAsciiAlphabetic byte || isAsciiDigit byte || ['+', '-', '.'].any (·.toNat == byte)

def isAsciiWhitespace (byte : Nat) : Bool :=
  [' ', '\t', '\n', '\x0C', '\r'].any (·.toNat == byte)

def isUrlAuthorityTerminator (byte : Nat) : Bool :=
  isAsciiWhitespace byte ||
    ['/', '?', '#', '\x22', '\x27', '\x60', '<', '>', '(', ')', '[', ']', '\x7B', '\x7D', ',',
      ';'].any (·.toNat == byte)

def colon : Nat := 0x3A
def slash : Nat := 0x2F
def atSign : Nat := 0x40

/-- `is_char_boundary`: no byte inside the encoding of a character. -/
def isCharBoundary (bytes : List Nat) (index : Nat) : Bool :=
  index == 0 || index == bytes.length ||
    (bytes[index]?.map fun byte => byte < 0x80 || 0xC0 ≤ byte).getD false

/-- A slice of a text, which panics out of range and inside a character. -/
def textSlice (bytes : List Nat) (start stop : Nat) : Option (List Nat) :=
  if start ≤ stop && isCharBoundary bytes start && isCharBoundary bytes stop then
    some ((bytes.drop start).take (stop - start))
  else none

def byteSlice (bytes : List Nat) (start stop : Nat) : Option (List Nat) :=
  if start ≤ stop && stop ≤ bytes.length then some ((bytes.drop start).take (stop - start))
  else none

end Bytes

section Scan

def findWindow : List Nat → Option Nat
  | first :: second :: third :: rest =>
    if first == colon && second == slash && third == slash then some 0
    else (findWindow (second :: third :: rest)).map (· + 1)
  | _ => none

def findSchemeSeparator (bytes : List Nat) (start : Nat) : Option Nat :=
  if start ≤ bytes.length then (findWindow (bytes.drop start)).map (start + ·) else none

def findSchemeStart (bytes : List Nat) : Nat → Nat
  | 0 => 0
  | index + 1 =>
    if (bytes[index]?.map isUrlSchemeByte).getD false then findSchemeStart bytes index
    else index + 1

def isValidUrlScheme : List Nat → Bool
  | [] => false
  | first :: rest => isAsciiAlphabetic first && rest.all isUrlSchemeByte

def findUrlAuthorityEnd (bytes : List Nat) (start : Nat) : Option Nat :=
  (byteSlice bytes start bytes.length).map fun rest =>
    ((rest.findIdx? isUrlAuthorityTerminator).map (start + ·)).getD bytes.length

structure Scan where
  searchFrom : Nat := 0
  lastCopied : Nat := 0
  redacted : List Nat := []
  changed : Bool := false

def redactedMark : List Nat := "<redacted>".toList.map Char.toNat

/-- One turn of the scan, at a separator that it has found. -/
def scanStep (bytes : List Nat) (scan : Scan) (schemeEnd : Nat) : Option Scan := do
  let scheme ← textSlice bytes (findSchemeStart bytes schemeEnd) schemeEnd
  if !isValidUrlScheme scheme then return { scan with searchFrom := schemeEnd + 3 }
  let authorityStart := schemeEnd + 3
  let authorityEnd ← findUrlAuthorityEnd bytes authorityStart
  let authority ← byteSlice bytes authorityStart authorityEnd
  match (authority.findIdx? (· == atSign)).map (authorityStart + ·) with
  | none => return { scan with searchFrom := authorityEnd }
  | some userinfoEnd =>
    if userinfoEnd = authorityStart then return { scan with searchFrom := authorityEnd }
    let copied ← textSlice bytes scan.lastCopied authorityStart
    return { searchFrom := authorityEnd, lastCopied := userinfoEnd + 1
             redacted := scan.redacted ++ copied ++ (redactedMark ++ [atSign]), changed := true }

/-- The scan, which moves on at every turn and so takes at most one turn for each byte. -/
def scanLoop (bytes : List Nat) : Nat → Scan → Option Scan
  | 0, _ => none
  | turns + 1, scan =>
    match findSchemeSeparator bytes scan.searchFrom with
    | none => some scan
    | some schemeEnd => (scanStep bytes scan schemeEnd).bind (scanLoop bytes turns)

/-- `redact_url_userinfo` over the bytes of its text; `none` where it would panic. -/
def redactUrlUserinfo (value : List Nat) : Option (List Nat) := do
  let scan ← scanLoop value (value.length + 1) {}
  if scan.changed then
    let rest ← textSlice value scan.lastCopied value.length
    return scan.redacted ++ rest
  else return value

end Scan

section Boundaries

def FollowsAscii (bytes : List Nat) : Prop :=
  ∀ i byte next, bytes[i]? = some byte → byte < 0x80 → bytes[i + 1]? = some next →
    next < 0x80 ∨ 0xC0 ≤ next

theorem head_utf8 {cs : List Char} {byte : Nat} (h : (PercentText.utf8 cs)[0]? = some byte) :
    byte < 0x80 ∨ 0xC0 ≤ byte := by
  cases cs with
  | nil => cases h
  | cons c cs =>
    rw [PercentText.utf8_cons, PercentText.utf8Char] at h
    split at h
    · simp at h
      omega
    · split at h
      · simp at h
        omega
      · split at h
        · simp at h
          omega
        · simp at h
          omega

theorem utf8Char_multi {c : Char} (h : 1 < (PercentText.utf8Char c).length) :
    ∀ byte ∈ PercentText.utf8Char c, 0x80 ≤ byte := by
  intro byte hbyte
  rw [PercentText.utf8Char] at h hbyte
  split at hbyte
  · rename_i hascii
    rw [if_pos hascii] at h
    simp at h
  · split at hbyte
    · simp at hbyte
      omega
    · split at hbyte
      · simp at hbyte
        omega
      · simp at hbyte
        omega

theorem followsAscii_utf8 (cs : List Char) : FollowsAscii (PercentText.utf8 cs) := by
  induction cs with
  | nil =>
    intro i byte next h
    simp [PercentText.utf8] at h
  | cons c cs ih =>
    intro i byte next hbyte hascii hnext
    rw [PercentText.utf8_cons] at hbyte hnext
    by_cases hlast : i + 1 < (PercentText.utf8Char c).length
    · rw [List.getElem?_append_left (by omega)] at hbyte
      have hlow := utf8Char_multi (by omega) byte (List.mem_of_getElem? hbyte)
      omega
    · by_cases hin : i < (PercentText.utf8Char c).length
      · rw [List.getElem?_append_right (by omega)] at hnext
        rw [show i + 1 - (PercentText.utf8Char c).length = 0 by omega] at hnext
        exact head_utf8 hnext
      · rw [List.getElem?_append_right (by omega)] at hbyte hnext
        rw [show i + 1 - (PercentText.utf8Char c).length =
          i - (PercentText.utf8Char c).length + 1 by omega] at hnext
        exact ih _ byte next hbyte hascii hnext

end Boundaries

end Redaction
