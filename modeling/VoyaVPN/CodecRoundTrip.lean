import VoyaVPN.Base64Text
import Mathlib.Logic.Relation

/-! The codecs that the links rest on: what they write is read back, and base64 is read the same in
the other ways of writing it. -/
namespace CodecRoundTrip

open ShareCommon

section Escapes

inductive Escaped : List Char → Prop
  | nil : Escaped []
  | unreserved {c : Char} {cs : List Char} (h : isUnreserved c = true) (hcs : Escaped cs) :
      Escaped (c :: cs)
  | escape {high low : Nat} {cs : List Char} (hhigh : high < 16) (hlow : low < 16)
      (hcs : Escaped cs) :
      Escaped ('%' :: PercentText.hexDigit high :: PercentText.hexDigit low :: cs)

theorem Escaped.append {first second : List Char} (hfirst : Escaped first)
    (hsecond : Escaped second) : Escaped (first ++ second) := by
  induction hfirst with
  | nil => exact hsecond
  | unreserved h _ ih => exact .unreserved h ih
  | escape hhigh hlow _ ih => exact .escape hhigh hlow ih

theorem escaped_bytes {bytes : List Nat} (h : ∀ b ∈ bytes, b < 256) :
    Escaped (bytes.flatMap PercentText.escapeByte) := by
  induction bytes with
  | nil => exact .nil
  | cons b bytes ih =>
    obtain ⟨hhigh, hlow⟩ := PercentText.hexDigit_lt (h b List.mem_cons_self)
    exact .escape hhigh hlow (ih fun c hc => h c (List.mem_cons_of_mem _ hc))

theorem escaped_urlEncode (text : String) : Escaped (urlEncode text).toList := by
  rw [urlEncode, String.toList_ofList]
  induction text.toList with
  | nil => exact .nil
  | cons c cs ih =>
    rw [PercentText.encode, List.flatMap_cons]
    refine Escaped.append ?_ ih
    rw [PercentText.encodeChar]
    split
    · rename_i hkeep
      exact .unreserved hkeep .nil
    · exact escaped_bytes (PercentText.utf8Char_lt c)

theorem urlDecode_urlEncode (text : String) : urlDecode (urlEncode text) = text := by
  rw [urlDecode, urlEncode, String.toList_ofList, PercentText.decode_encode (by decide),
    String.ofList_toList]

end Escapes

section Rewriting

def Within (text : String) : Prop := byteLen (RustText.trim text) ≤ maxBase64DecodeInput

def urlSafeChar (c : Char) : Char := if c = '+' then '-' else if c = '/' then '_' else c

def visible (c : Char) : Bool := !RustText.isWhitespace c

/-- The other ways of writing a base64 text: in the URL-safe alphabet, for any of its characters,
without padding that completes its last group, and with white space. -/
inductive Rewriting : List Char → List Char → Prop
  | urlSafe {text other : List Char}
      (h : List.Forall₂ (fun c d => d = c ∨ d = urlSafeChar c) text other) :
      Rewriting text other
  | unpadded (text : List Char) {count : Nat} (hcount : count < 4)
      (h : (text.countP visible + count) % 4 = 0) :
      Rewriting (text ++ List.replicate count '=') text
  | spaced (before after : List Char) {spaces : List Char}
      (h : ∀ c ∈ spaces, RustText.isWhitespace c = true) :
      Rewriting (before ++ after) (before ++ spaces ++ after)

end Rewriting

section Symbols

def standardChar (c : Char) : Char := if c = '_' then '/' else if c = '-' then '+' else c

def symbolsOf (text : List Char) : List Char := (text.filter visible).map standardChar

def completed (symbols : List Char) : List Char :=
  let len := (PercentText.utf8 symbols).length
  if len % 4 = 0 then symbols else symbols ++ List.replicate (4 - len % 4) '='

def textOf (symbols : List Char) : Option (List Char) :=
  (Base64.decode (completed symbols)).bind fromUtf8

theorem filter_dropWhile (text : List Char) :
    (text.dropWhile RustText.isWhitespace).filter visible = text.filter visible := by
  induction text with
  | nil => rfl
  | cons c text ih =>
    cases hspace : RustText.isWhitespace c with
    | true =>
      have hhidden : visible c = false := by simp [visible, hspace]
      rw [List.dropWhile_cons_of_pos hspace, ih, List.filter_cons_of_neg (by simp [hhidden])]
    | false => rw [List.dropWhile_cons_of_neg (by simp [hspace])]

theorem filter_trim (text : String) :
    (RustText.trim text).toList.filter visible = text.toList.filter visible := by
  rw [RustText.trim, String.toList_ofList, List.rdropWhile, List.filter_reverse, filter_dropWhile,
    ← List.filter_reverse, List.reverse_reverse, filter_dropWhile]

theorem base64Decode_within {text : String} (h : Within text) (protocol : String) :
    base64Decode text protocol =
      match textOf (symbolsOf text.toList) with
      | some read => .ok (String.ofList read)
      | none => .error (.invalidBase64 protocol) := by
  rw [base64Decode, if_neg (Nat.not_lt.mpr h)]
  have hsymbols : ((RustText.trim text).toList.filter (!RustText.isWhitespace ·)).map
      (fun c => if c = '_' then '/' else if c = '-' then '+' else c) = symbolsOf text.toList := by
    rw [symbolsOf, ← filter_trim]
    rfl
  simp only [hsymbols]
  rfl

theorem standardChar_urlSafe (c : Char) : standardChar (urlSafeChar c) = standardChar c := by
  by_cases hplus : c = '+'
  · rw [hplus]
    decide
  · by_cases hslash : c = '/'
    · rw [hslash]
      decide
    · rw [urlSafeChar, if_neg hplus, if_neg hslash]

theorem visible_urlSafe (c : Char) : visible (urlSafeChar c) = visible c := by
  by_cases hplus : c = '+'
  · rw [hplus]
    decide
  · by_cases hslash : c = '/'
    · rw [hslash]
      decide
    · rw [urlSafeChar, if_neg hplus, if_neg hslash]

theorem symbolsOf_urlSafe {text other : List Char}
    (h : List.Forall₂ (fun c d => d = c ∨ d = urlSafeChar c) text other) :
    symbolsOf other = symbolsOf text := by
  induction h with
  | nil => rfl
  | @cons c d text other hchar _ ih =>
    have hsame : visible d = visible c ∧ standardChar d = standardChar c := by
      rcases hchar with rfl | rfl
      · exact ⟨rfl, rfl⟩
      · exact ⟨visible_urlSafe c, standardChar_urlSafe c⟩
    rw [symbolsOf] at ih ⊢
    rw [symbolsOf] at ih ⊢
    cases hvisible : visible c with
    | true =>
      rw [List.filter_cons_of_pos (hsame.1.trans hvisible), List.filter_cons_of_pos hvisible,
        List.map_cons, List.map_cons, hsame.2, ih]
    | false =>
      rw [List.filter_cons_of_neg (by rw [hsame.1, hvisible]; decide),
        List.filter_cons_of_neg (by rw [hvisible]; decide), ih]

theorem symbolsOf_spaced (before after : List Char) {spaces : List Char}
    (h : ∀ c ∈ spaces, RustText.isWhitespace c = true) :
    symbolsOf (before ++ spaces ++ after) = symbolsOf (before ++ after) := by
  have hspaces : spaces.filter visible = [] := by
    rw [List.filter_eq_nil_iff]
    intro c hc
    simp [visible, h c hc]
  rw [symbolsOf, symbolsOf, List.filter_append, List.filter_append, hspaces, List.append_nil,
    List.filter_append]

theorem symbolsOf_padded (text : List Char) (count : Nat) :
    symbolsOf (text ++ List.replicate count '=') =
      symbolsOf text ++ List.replicate count '=' := by
  have hpadding : (List.replicate count '=').filter visible = List.replicate count '=' := by
    rw [List.filter_eq_self]
    intro c hc
    rw [(List.mem_replicate.mp hc).2]
    decide
  have hstandard : standardChar '=' = '=' := by decide
  rw [symbolsOf, List.filter_append, hpadding, List.map_append, List.map_replicate, hstandard]
  rfl

theorem ascii_of_symbolValue {c : Char} (h : Base64.symbolValue c ≠ none ∨ c = '=') :
    c.toNat < 0x80 := by
  rcases h with h | rfl
  · by_contra hlarge
    apply h
    have hplus : c ≠ '+' := by
      rintro rfl
      exact hlarge (by decide)
    have hslash : c ≠ '/' := by
      rintro rfl
      exact hlarge (by decide)
    rw [Base64.symbolValue, if_neg (by omega), if_neg (by omega), if_neg (by omega),
      if_neg hplus, if_neg hslash]
  · decide

theorem mem_completed {symbols : List Char} {c : Char} (h : c ∈ symbols) :
    c ∈ completed symbols := by
  rw [completed]
  split
  · exact h
  · exact List.mem_append_left _ h

theorem textOf_none {symbols : List Char} {c : Char} (h : c ∈ symbols) (hc : ¬ c.toNat < 0x80) :
    textOf symbols = none := by
  cases hdecode : Base64.decode (completed symbols) with
  | none => rw [textOf, hdecode, Option.bind_none]
  | some bytes =>
    exact absurd (ascii_of_symbolValue (Base64.symbol_of_decode _ hdecode c (mem_completed h))) hc

theorem completed_padded {symbols : List Char} (hascii : ∀ c ∈ symbols, c.toNat < 0x80)
    {count : Nat}
    (hcount : count < 4) (h : (symbols.length + count) % 4 = 0) :
    completed (symbols ++ List.replicate count '=') = completed symbols := by
  have hpadded : ∀ c ∈ symbols ++ List.replicate count '=', c.toNat < 0x80 := by
    intro c hc
    rcases List.mem_append.mp hc with hc | hc
    · exact hascii c hc
    · rw [(List.mem_replicate.mp hc).2]
      decide
  rw [completed, completed, Base64Text.utf8_length_of_ascii hascii,
    Base64Text.utf8_length_of_ascii hpadded, List.length_append, List.length_replicate, if_pos h]
  split
  · rw [show count = 0 by omega, List.replicate_zero, List.append_nil]
  · rw [show 4 - symbols.length % 4 = count by omega]

theorem textOf_padded (symbols : List Char) {count : Nat} (hcount : count < 4)
    (h : (symbols.length + count) % 4 = 0) :
    textOf (symbols ++ List.replicate count '=') = textOf symbols := by
  by_cases hascii : ∀ c ∈ symbols, c.toNat < 0x80
  · rw [textOf, completed_padded hascii hcount h, textOf]
  · push Not at hascii
    obtain ⟨c, hc, hlarge⟩ := hascii
    rw [textOf_none (List.mem_append_left _ hc) (Nat.not_lt.mpr hlarge),
      textOf_none hc (Nat.not_lt.mpr hlarge)]

theorem length_symbolsOf (text : List Char) : (symbolsOf text).length = text.countP visible := by
  rw [symbolsOf, List.length_map, List.countP_eq_length_filter]

theorem textOf_rewriting {text other : List Char} (h : Rewriting text other) :
    textOf (symbolsOf other) = textOf (symbolsOf text) := by
  cases h with
  | urlSafe h => rw [symbolsOf_urlSafe h]
  | unpadded other hcount h =>
    rw [symbolsOf_padded, textOf_padded _ hcount]
    rw [length_symbolsOf]
    exact h
  | spaced before after h => rw [symbolsOf_spaced before after h]

theorem textOf_rewritings {text other : List Char}
    (h : Relation.ReflTransGen Rewriting text other) :
    textOf (symbolsOf other) = textOf (symbolsOf text) := by
  induction h with
  | refl => rfl
  | tail _ hlast ih => rw [textOf_rewriting hlast, ih]

end Symbols

section Encodings

theorem encoded_chars {text : String} {removePadding : Bool} {c : Char}
    (h : c ∈ (base64Encode text removePadding).toList) :
    c.toNat < 0x80 ∧ RustText.isWhitespace c = false := by
  obtain ⟨body, pad, hpadded, -⟩ := Base64.encode_padded _ (Base64Text.utf8_lt text.toList)
  rw [Base64Text.base64Encode_padded hpadded, String.toList_ofList, List.mem_append] at h
  rcases h with h | h
  · obtain ⟨n, hn, rfl⟩ := hpadded.symbols c h
    obtain ⟨hascii, -, -, -, -, hspace⟩ := Base64Text.symbol_facts n hn
    exact ⟨hascii, hspace⟩
  · rw [(List.mem_replicate.mp h).2]
    decide

/-- What is written within the length that is read is of a text that is short enough. -/
theorem byteLen_of_within {text : String} {removePadding : Bool}
    (h : Within (base64Encode text removePadding)) : byteLen text ≤ Base64Text.maxEncodedLen := by
  rw [Within, RustText.trim_of_chars fun c hc => (encoded_chars hc).2, byteLen,
    Base64Text.utf8_length_of_ascii fun c hc => (encoded_chars hc).1] at h
  obtain ⟨body, pad, hpadded, -, hlen⟩ := Base64.encode_padded _ (Base64Text.utf8_lt text.toList)
  rw [Base64Text.base64Encode_padded hpadded, String.toList_ofList, List.length_append] at h
  rw [byteLen, Base64Text.maxEncodedLen]
  rw [maxBase64DecodeInput] at h
  omega

theorem base64Decode_encoded {text : String} {removePadding : Bool}
    (h : Within (base64Encode text removePadding)) (protocol : String) :
    base64Decode (base64Encode text removePadding) protocol = .ok text := by
  rw [Base64Text.base64Decode_base64Encode, if_pos (byteLen_of_within h)]

end Encodings

section RoundTrips

/-- The codecs are exact inverses, and base64 is read the same however it is written. -/
theorem codecs_round_trip :
    (∀ text, urlDecode (urlEncode text) = text ∧ Escaped (urlEncode text).toList) ∧
      (∀ text removePadding protocol, Within (base64Encode text removePadding) →
        base64Decode (base64Encode text removePadding) protocol = .ok text) ∧
        ∀ text other protocol, Relation.ReflTransGen Rewriting text.toList other.toList →
          Within text → Within other →
            base64Decode other protocol = base64Decode text protocol := by
  refine ⟨fun text => ⟨urlDecode_urlEncode text, escaped_urlEncode text⟩, ?_, ?_⟩
  · exact fun text removePadding protocol h => base64Decode_encoded h protocol
  · intro text other protocol hrewriting htext hother
    rw [base64Decode_within hother, base64Decode_within htext, textOf_rewritings hrewriting]

theorem codecs_round_trip_hi :
    urlDecode (urlEncode "a/b") = "a/b" ∧
      base64Decode (base64Encode "hi" false) "ss" = .ok "hi" ∧
        base64Decode "aG k" "ss" = base64Decode "aGk=" "ss" := by
  obtain ⟨hurl, hback, hsame⟩ := codecs_round_trip
  have hunpadded : Rewriting ['a', 'G', 'k', '='] ['a', 'G', 'k'] :=
    @Rewriting.unpadded ['a', 'G', 'k'] 1 (by decide) (by decide)
  have hspaced : Rewriting ['a', 'G', 'k'] ['a', 'G', ' ', 'k'] :=
    @Rewriting.spaced ['a', 'G'] ['k'] [' '] fun c hc => by
      rw [List.mem_singleton.mp hc]
      rfl
  refine ⟨(hurl "a/b").1, hback "hi" false "ss" ?_, hsame "aGk=" "aG k" "ss" ?_ ?_ ?_⟩
  · exact Nat.le_of_lt (by decide)
  · exact (Relation.ReflTransGen.single hunpadded).tail hspaced
  · exact Nat.le_of_lt (by decide)
  · exact Nat.le_of_lt (by decide)

end RoundTrips

end CodecRoundTrip
