import VoyaVPN.LinkReading

/-! Texts in base64: what the formats write is read back, up to the length the reading allows. -/
namespace Base64Text

open ShareCommon LinkReading

/-- The longest text, in bytes, whose base64 form is still read. -/
def maxEncodedLen : Nat := 786432

section Symbols

theorem symbol_facts : ∀ n < 64, (Base64.symbol n).toNat < 0x80 ∧ Base64.symbol n ≠ '=' ∧
    Base64.symbol n ≠ '_' ∧ Base64.symbol n ≠ '-' ∧ Base64.symbol n ≠ ':' ∧
    RustText.isWhitespace (Base64.symbol n) = false := by
  decide +kernel

theorem utf8_lt (cs : List Char) : ∀ b ∈ PercentText.utf8 cs, b < 256 := by
  intro b hb
  obtain ⟨c, -, hc⟩ := List.mem_flatMap.mp hb
  exact PercentText.utf8Char_lt c b hc

theorem utf8_length_of_ascii {cs : List Char} (h : ∀ c ∈ cs, c.toNat < 0x80) :
    (PercentText.utf8 cs).length = cs.length := by
  induction cs with
  | nil => rfl
  | cons c cs ih =>
    rw [PercentText.utf8_cons, PercentText.utf8_of_ascii (h c (by simp)), List.length_append,
      ih fun d hd => h d (by simp [hd])]
    simp only [List.length_cons, List.length_nil]
    omega

theorem fromUtf8_utf8 (cs : List Char) : fromUtf8 (PercentText.utf8 cs) = some cs := by
  simp [fromUtf8, PercentText.decodeUtf8Lossy_utf8]

end Symbols

section RoundTrip

theorem base64Encode_padded {text : String} {body : List Char} {pad : Nat}
    (h : Base64.Padded (Base64.encode (PercentText.utf8 text.toList)) body pad)
    (removePadding : Bool) :
    base64Encode text removePadding =
      String.ofList (body ++ List.replicate (if removePadding then 0 else pad) '=') := by
  cases removePadding with
  | false => simp [base64Encode, h.eq]
  | true =>
    have hlast : ∀ c ∈ body.getLast?, (c == '=') = false := by
      intro c hc
      obtain ⟨n, hn, rfl⟩ := h.symbols c (List.mem_of_getLast? hc)
      simpa using (symbol_facts n hn).2.1
    have hpad : (List.replicate pad '=').rdropWhile (· == '=') = [] :=
      List.rdropWhile_eq_nil_iff.mpr fun c hc => by simpa using (List.mem_replicate.mp hc).2
    simp [base64Encode, h.eq, rdropWhile_append_kept hlast, hpad]

/-- A text of base64 symbols, with all of its padding or none of it, is read when it is not too
long. -/
theorem base64Decode_padded {bytes : List Nat} {body : List Char} {pad kept : Nat}
    (hpadded : Base64.Padded (Base64.encode bytes) body pad) (hbytes : ∀ b ∈ bytes, b < 256)
    (hkept : kept = 0 ∨ kept = pad) (protocol : String) :
    base64Decode (String.ofList (body ++ List.replicate kept '=')) protocol =
      if maxBase64DecodeInput < body.length + kept then .error (.invalidBase64 protocol)
      else
        match fromUtf8 bytes with
        | some text => .ok (String.ofList text)
        | none => .error (.invalidBase64 protocol) := by
  have hchars : ∀ c ∈ body ++ List.replicate kept '=', c.toNat < 0x80 ∧ c ≠ '_' ∧ c ≠ '-' ∧
      RustText.isWhitespace c = false := by
    intro c hc
    rw [List.mem_append] at hc
    obtain hc | hc := hc
    · obtain ⟨n, hn, rfl⟩ := hpadded.symbols c hc
      obtain ⟨hascii, -, hunder, hdash, -, hspace⟩ := symbol_facts n hn
      exact ⟨hascii, hunder, hdash, hspace⟩
    · obtain rfl := (List.mem_replicate.mp hc).2
      decide
  have htrim : RustText.trim (String.ofList (body ++ List.replicate kept '=')) =
      String.ofList (body ++ List.replicate kept '=') := by
    refine RustText.trim_of_chars fun c hc => ?_
    rw [String.toList_ofList] at hc
    exact (hchars c hc).2.2.2
  have hlen : ∀ cs : List Char, cs = body ++ List.replicate kept '=' →
      (PercentText.utf8 cs).length = body.length + kept := by
    rintro cs rfl
    rw [utf8_length_of_ascii fun c hc => (hchars c hc).1]
    simp
  have hnormal : ((body ++ List.replicate kept '=').filter (!RustText.isWhitespace ·)).map
      (fun c => if c = '_' then '/' else if c = '-' then '+' else c) =
        body ++ List.replicate kept '=' := by
    rw [List.filter_eq_self.mpr fun c hc => by simpa using (hchars c hc).2.2.2]
    refine (List.map_congr_left fun c hc => ?_).trans (List.map_id _)
    obtain ⟨-, hunder, hdash, -⟩ := hchars c hc
    rw [if_neg hunder, if_neg hdash]
    rfl
  have hquads := hpadded.quads
  have hpad := hpadded.pad_le
  have hfull : (if (body.length + kept) % 4 = 0 then body ++ List.replicate kept '='
      else body ++ List.replicate kept '=' ++
        List.replicate (4 - (body.length + kept) % 4) '=') = Base64.encode bytes := by
    rw [hpadded.eq]
    obtain rfl | rfl := hkept
    · split
      next hzero =>
        obtain rfl : pad = 0 := by omega
        rfl
      next hzero =>
        have hmissing : 4 - (body.length + 0) % 4 = pad := by omega
        rw [hmissing]
        simp
    · rw [if_pos hquads]
  unfold base64Decode byteLen
  cases htext : fromUtf8 bytes with
  | none =>
    simp only [htrim, String.toList_ofList, hlen _ rfl, hnormal, hfull,
      Base64.decode_encode bytes hbytes, Option.bind_some, htext]
  | some text =>
    simp only [htrim, String.toList_ofList, hlen _ rfl, hnormal, hfull,
      Base64.decode_encode bytes hbytes, Option.bind_some, htext]

theorem base64Decode_base64Encode (text : String) (removePadding : Bool) (protocol : String) :
    base64Decode (base64Encode text removePadding) protocol =
      if byteLen text ≤ maxEncodedLen then .ok text else .error (.invalidBase64 protocol) := by
  obtain ⟨body, pad, hpadded, hle, hge⟩ := Base64.encode_padded _ (utf8_lt text.toList)
  have hquads := hpadded.quads
  have hpad := hpadded.pad_le
  have hkept : (if removePadding then 0 else pad) = 0 ∨
    (if removePadding then 0 else pad) = pad := by
    cases removePadding <;> simp
  rw [base64Encode_padded hpadded, base64Decode_padded hpadded (utf8_lt _) hkept, fromUtf8_utf8]
  dsimp only
  rw [String.ofList_toList]
  unfold byteLen maxEncodedLen maxBase64DecodeInput
  obtain hkept | hkept := hkept
  · rw [hkept]
    split
    next hlong => rw [if_neg (by omega)]
    next hshort => rw [if_pos (by omega)]
  · rw [hkept]
    split
    next hlong => rw [if_neg (by omega)]
    next hshort => rw [if_pos (by omega)]

theorem base64Encode_chars {text : String} {c : Char} (h : c ∈ (base64Encode text true).toList) :
    ∃ n < 64, c = Base64.symbol n := by
  obtain ⟨body, pad, hpadded, -⟩ := Base64.encode_padded _ (utf8_lt text.toList)
  rw [base64Encode_padded hpadded, String.toList_ofList] at h
  simp only [if_pos, List.replicate_zero, List.append_nil] at h
  exact hpadded.symbols c h

theorem base64Encode_ne_empty {text : String} (h : text ≠ "") : base64Encode text true ≠ "" := by
  intro hempty
  obtain ⟨body, pad, hpadded, hle, hge⟩ := Base64.encode_padded _ (utf8_lt text.toList)
  rw [base64Encode_padded hpadded] at hempty
  have hbody : body = [] := by simpa using hempty
  have hbytes : PercentText.utf8 text.toList = [] := by
    rw [hbody] at hge
    exact List.eq_nil_of_length_eq_zero (by simpa using hge)
  have htext := PercentText.decodeUtf8Lossy_utf8 text.toList
  rw [hbytes] at htext
  exact h (String.toList_eq_nil_iff.mp htext.symm)

end RoundTrip

end Base64Text
