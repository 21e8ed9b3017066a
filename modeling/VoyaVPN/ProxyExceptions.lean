import Mathlib.Data.String.Basic
import VoyaVPN.DirtyMarker
import VoyaVPN.IpDisplay
import VoyaVPN.LinkReading
import VoyaVPN.ProfileBundle
import VoyaVPN.SystemProxy
import VoyaVPN.Transducer
import VoyaVPN.WhatwgUrl

/-! The exceptions of the system proxy: what an entry that is accepted looks like, and what the
three systems read in the forms that are generated from the entries. -/
namespace ProxyExceptions

open RustText Entities PlatformProcess SystemProxy ProxySettings

section Entries

structure HostLabel (label : List Char) : Prop where
  nonempty : label ≠ []
  short : label.length ≤ 63
  letters : ∀ char ∈ label, asciiAlphanumeric char = true ∨ char = '-'
  first : ∀ char, label.head? = some char → asciiAlphanumeric char = true
  last : ∀ char, label.getLast? = some char → asciiAlphanumeric char = true

/-- Labels with dots between them, and perhaps one at the end. -/
structure HostName (text : List Char) (labels : List (List Char)) : Prop where
  text_eq : text = ['.'].intercalate labels ∨ text = ['.'].intercalate labels ++ ['.']
  labelled : labels ≠ [] ∧ ∀ label ∈ labels, HostLabel label
  short : (['.'].intercalate labels).length ≤ 253

/-- An address and the length of a prefix of it. -/
structure AddressRange (text address length : List Char) (parsed : IpAddr.Addr) : Prop where
  text_eq : text = address ++ '/' :: length
  address_eq : IpAddr.parse (String.ofList address) = some parsed
  digits : ∀ char ∈ length, '0' ≤ char ∧ char ≤ '9'
  bounded : ∃ value, parseU8 (String.ofList length) = some value ∧ value ≤ maxPrefix parsed

inductive Exception (entry : String) : Prop where
  | host (labels : List (List Char)) (h : HostName entry.toList labels)
  | address (parsed : IpAddr.Addr) (h : IpAddr.parse entry = some parsed)
  | range (address length : List Char) (parsed : IpAddr.Addr)
    (h : AddressRange entry.toList address length parsed)

/-- The characters of an entry: letters and digits, and those of addresses, names and ranges. -/
def isEntryChar (char : Char) : Bool := asciiAlphanumeric char || ['.', ':', '-', '/'].contains char

end Entries

section Addresses

variable {cs rest last : List Char}

def isAddressChar (char : Char) : Bool := (IpAddr.hexValue char).isSome || char = ':' || char = '.'

/-- What is before the rest are characters of addresses. -/
def Consumes (cs rest : List Char) : Prop :=
  ∃ used, cs = used ++ rest ∧ ∀ char ∈ used, isAddressChar char = true

theorem Consumes.refl (cs : List Char) : Consumes cs cs :=
  ⟨[], rfl, fun _ h => absurd h List.not_mem_nil⟩

theorem Consumes.trans (h : Consumes cs rest) (k : Consumes rest last) : Consumes cs last := by
  obtain ⟨used, rfl, hused⟩ := h
  obtain ⟨more, rfl, hmore⟩ := k
  refine ⟨used ++ more, by rw [List.append_assoc], fun char hchar => ?_⟩
  rcases List.mem_append.mp hchar with hchar | hchar
  · exact hused char hchar
  · exact hmore char hchar

theorem consumes_digits (radix : Nat) (cs : List Char) :
    Consumes cs (IpAddr.digits radix cs).2 := by
  induction cs with
  | nil => exact Consumes.refl []
  | cons char cs ih =>
    rw [IpAddr.digits]
    split
    · rename_i digit hdigit
      obtain ⟨used, hused, hall⟩ := ih
      refine ⟨char :: used, congrArg (char :: ·) hused, fun other hother => ?_⟩
      rcases List.mem_cons.mp hother with rfl | hother
      · rw [isAddressChar, (Option.filter_eq_some_iff.mp hdigit).1]
        rfl
      · exact hall other hother
    · exact Consumes.refl _

theorem consumes_readNumber {radix maxDigits limit value : Nat} {allowZeroPrefix : Bool}
    (h : IpAddr.readNumber radix maxDigits limit allowZeroPrefix cs = some (value, rest)) :
    Consumes cs rest := by
  unfold IpAddr.readNumber at h
  simp only at h
  split at h
  · cases h
  · split at h
    · cases h
    · cases h
      exact consumes_digits radix cs

theorem consumes_givenChar {char : Char} (hchar : isAddressChar char = true)
    (h : IpAddr.givenChar char cs = some ((), rest)) : Consumes cs rest := by
  cases cs with
  | nil => cases h
  | cons first cs =>
    rw [IpAddr.givenChar] at h
    split at h
    · rename_i heq
      cases h
      refine ⟨[first], rfl, fun other hother => ?_⟩
      rw [List.mem_singleton.mp hother, heq]
      exact hchar
    · cases h

theorem consumes_readSeparator {α : Type} {separator : Char} {index : Nat}
    {inner : IpAddr.Parser α} {value : α} (hseparator : isAddressChar separator = true)
    (hinner : ∀ {text after}, inner text = some (value, after) → Consumes text after)
    (h : IpAddr.readSeparator separator index inner cs = some (value, rest)) :
    Consumes cs rest := by
  unfold IpAddr.readSeparator at h
  split at h
  · exact hinner h
  · obtain ⟨⟨_, after⟩, hgiven, hread⟩ := Option.bind_eq_some_iff.mp h
    exact (consumes_givenChar hseparator hgiven).trans (hinner hread)

theorem consumes_readOctets {index count : Nat} {octets : List Nat}
    (h : IpAddr.readOctets index count cs = some (octets, rest)) : Consumes cs rest := by
  induction count generalizing index cs octets with
  | zero =>
    cases h
    exact Consumes.refl _
  | succ count ih =>
    rw [IpAddr.readOctets] at h
    obtain ⟨⟨octet, after⟩, hread, h⟩ := Option.bind_eq_some_iff.mp h
    obtain ⟨⟨others, last⟩, hothers, h⟩ := Option.map_eq_some_iff.mp h
    cases h
    exact (consumes_readSeparator (by decide) consumes_readNumber hread).trans (ih hothers)

theorem consumes_readGroups {limit index count : Nat} :
    Consumes cs (IpAddr.readGroups limit index count cs).2.2 := by
  induction count generalizing index cs with
  | zero => exact Consumes.refl cs
  | succ count ih =>
    rw [IpAddr.readGroups]
    split
    · rename_i a b c d after hquad
      split at hquad
      · exact consumes_readSeparator (by decide) consumes_readOctets hquad
      · cases hquad
    · split
      · exact Consumes.refl cs
      · rename_i group after hread
        exact (consumes_readSeparator (by decide) consumes_readNumber hread).trans ih

theorem consumes_readIpv6 {groups : List Nat} (h : IpAddr.readIpv6 cs = some (groups, rest)) :
    Consumes cs rest := by
  rw [IpAddr.readIpv6] at h
  simp only at h
  have hhead : Consumes cs (IpAddr.readGroups 8 0 8 cs).2.2 := consumes_readGroups
  split at h
  · cases h
    exact hhead
  · split at h
    · cases h
    · obtain ⟨⟨_, second⟩, hfirst, h⟩ := Option.bind_eq_some_iff.mp h
      obtain ⟨⟨_, third⟩, hsecond, h⟩ := Option.map_eq_some_iff.mp h
      cases h
      exact (hhead.trans (consumes_givenChar (by decide) hfirst)).trans
        ((consumes_givenChar (by decide) hsecond).trans consumes_readGroups)

theorem address_chars {text : String} {parsed : IpAddr.Addr} (h : IpAddr.parse text = some parsed) :
    ∀ char ∈ text.toList, isAddressChar char = true := by
  have hall : Consumes text.toList [] := by
    rw [IpAddr.parse] at h
    split at h
    · rename_i octets hread
      exact consumes_readOctets hread
    · split at h
      · rename_i groups hread
        exact consumes_readIpv6 hread
      · cases h
  obtain ⟨used, hused, hchars⟩ := hall
  rw [List.append_nil] at hused
  rw [hused]
  exact hchars

theorem entryChar_of_address {char : Char} (h : isAddressChar char = true) :
    isEntryChar char = true := by
  rw [isAddressChar, Bool.or_eq_true, Bool.or_eq_true, decide_eq_true_eq, decide_eq_true_eq] at h
  rcases h with (h | rfl) | rfl
  · have hletter : asciiAlphanumeric char = true := by
      rw [IpAddr.hexValue] at h
      simp only [asciiAlphanumeric, Bool.or_eq_true, Bool.and_eq_true, decide_eq_true_eq]
      split at h
      · rename_i hdigit
        exact Or.inr hdigit
      · split at h
        · rename_i hsmall
          exact Or.inl (Or.inl ⟨hsmall.1, hsmall.2.trans (by decide)⟩)
        · split at h
          · rename_i hcapital
            exact Or.inl (Or.inr ⟨hcapital.1, hcapital.2.trans (by decide)⟩)
          · cases h
    rw [isEntryChar, hletter]
    rfl
  · decide
  · decide

end Addresses

section Names

theorem intercalate_split (separator : Char) (text : List Char) :
    [separator].intercalate (text.splitOnP (· == separator)) = text :=
  List.intercalate_splitOn separator

theorem mem_joined {separator : Char} {pieces : List (List Char)} {char : Char}
    (h : char ∈ [separator].intercalate pieces) :
    char = separator ∨ ∃ piece ∈ pieces, char ∈ piece := by
  induction pieces with
  | nil => exact absurd h List.not_mem_nil
  | cons piece pieces ih =>
    cases pieces with
    | nil =>
      rw [List.intercalate_singleton] at h
      exact Or.inr ⟨piece, List.mem_singleton_self piece, h⟩
    | cons next pieces =>
      rw [List.intercalate_cons_cons, List.append_assoc, List.mem_append, List.mem_append] at h
      rcases h with h | h | h
      · exact Or.inr ⟨piece, List.mem_cons_self, h⟩
      · exact Or.inl (List.mem_singleton.mp h)
      · rcases ih h with hseparator | ⟨found, hfound, hchar⟩
        · exact Or.inl hseparator
        · exact Or.inr ⟨found, List.mem_cons_of_mem _ hfound, hchar⟩

theorem HostName.chars {text : List Char} {labels : List (List Char)} (h : HostName text labels) :
    ∀ char ∈ text, isEntryChar char = true := by
  have hjoined : ∀ char ∈ ['.'].intercalate labels, isEntryChar char = true := by
    intro char hchar
    rcases mem_joined hchar with rfl | ⟨label, hlabel, hchar⟩
    · decide
    · rcases (h.labelled.2 label hlabel).letters char hchar with hletter | rfl
      · rw [isEntryChar, hletter]
        rfl
      · decide
  intro char hchar
  rcases h.text_eq with htext | htext
  · exact hjoined char (htext ▸ hchar)
  · rw [htext, List.mem_append] at hchar
    rcases hchar with hchar | hchar
    · exact hjoined char hchar
    · rw [List.mem_singleton.mp hchar]
      decide

end Names

section Validation

variable {entry : String}

theorem entryChar_of_digit {char : Char} (h : '0' ≤ char ∧ char ≤ '9') :
    isEntryChar char = true := by
  have hletter : asciiAlphanumeric char = true := by
    simp only [asciiAlphanumeric, Bool.or_eq_true, Bool.and_eq_true, decide_eq_true_eq]
    exact Or.inr h
  rw [isEntryChar, hletter]
  rfl

theorem AddressRange.chars {text address length : List Char} {parsed : IpAddr.Addr}
    (h : AddressRange text address length parsed) : ∀ char ∈ text, isEntryChar char = true := by
  intro char hchar
  rw [h.text_eq, List.mem_append] at hchar
  rcases hchar with hchar | hchar
  · have haddress := address_chars h.address_eq char
    rw [String.toList_ofList] at haddress
    exact entryChar_of_address (haddress hchar)
  · rcases List.mem_cons.mp hchar with rfl | hchar
    · decide
    · exact entryChar_of_digit (h.digits char hchar)

theorem Exception.chars (h : Exception entry) : ∀ char ∈ entry.toList, isEntryChar char = true := by
  cases h with
  | host labels h => exact h.chars
  | address parsed h => exact fun char hchar => entryChar_of_address (address_chars h char hchar)
  | range address length parsed h => exact h.chars

/-- The pieces of a text between its commas, without the white space around them. -/
def pieces (input : String) : List String :=
  if isEmpty (trim input) then [] else (split (trim input) (· == ',')).map trim

end Validation

section Readers

end Readers

section Rendering

/-- The texts of entries. -/
def Entry (text : List Char) : Prop := text ≠ [] ∧ ∀ char ∈ text, isEntryChar char = true

variable {text rest : List Char} {texts : List (List Char)}

end Rendering

section Plans

open DirtyMarker

variable {item : AppConfig.SystemProxyItem} {entries : List String}

end Plans

end ProxyExceptions
