import Mathlib.Data.List.Basic

/-! Percent-encoding of texts: characters as UTF-8 bytes, escapes of the bytes that are not kept,
and the reading of escapes, in which bytes that are no UTF-8 become replacement characters. -/
namespace PercentText

section Bytes

def utf8Char (c : Char) : List Nat :=
  let n := c.toNat
  if n < 0x80 then [n]
  else if n < 0x800 then [0xC0 + n / 64, 0x80 + n % 64]
  else if n < 0x10000 then [0xE0 + n / 4096, 0x80 + n / 64 % 64, 0x80 + n % 64]
  else [0xF0 + n / 262144, 0x80 + n / 4096 % 64, 0x80 + n / 64 % 64, 0x80 + n % 64]

def utf8 (cs : List Char) : List Nat := cs.flatMap utf8Char

/-- A character whose lead byte is read: the tail bytes still due, the range of the next one, and
the value of the bits read. -/
structure Pending where
  due : Nat
  low : Nat
  high : Nat
  value : Nat
  deriving DecidableEq

def replacement : Char := Char.ofNat 0xFFFD

def leadByte (b : Nat) : List Char × Option Pending :=
  if b < 0x80 then ([Char.ofNat b], none)
  else if b < 0xC2 then ([replacement], none)
  else if b ≤ 0xDF then ([], some ⟨1, 0x80, 0xBF, b - 0xC0⟩)
  else if b = 0xE0 then ([], some ⟨2, 0xA0, 0xBF, 0⟩)
  else if b = 0xED then ([], some ⟨2, 0x80, 0x9F, 13⟩)
  else if b ≤ 0xEF then ([], some ⟨2, 0x80, 0xBF, b - 0xE0⟩)
  else if b = 0xF0 then ([], some ⟨3, 0x90, 0xBF, 0⟩)
  else if b ≤ 0xF3 then ([], some ⟨3, 0x80, 0xBF, b - 0xF0⟩)
  else if b = 0xF4 then ([], some ⟨3, 0x80, 0x8F, 4⟩)
  else ([replacement], none)

def nextByte (state : Option Pending) (b : Nat) : List Char × Option Pending :=
  match state with
  | none => leadByte b
  | some p =>
    if p.low ≤ b ∧ b ≤ p.high then
      let value := 64 * p.value + (b - 0x80)
      if p.due = 1 then ([Char.ofNat value], none)
      else ([], some ⟨p.due - 1, 0x80, 0xBF, value⟩)
    else
      -- the bytes read so far are no character; this byte is read afresh
      let (cs, next) := leadByte b
      (replacement :: cs, next)

def decodeUtf8Lossy (state : Option Pending) : List Nat → List Char
  | [] => if state.isSome then [replacement] else []
  | b :: bs =>
    let (cs, next) := nextByte state b
    cs ++ decodeUtf8Lossy next bs

theorem leadByte_two {k : Nat} (hlow : 2 ≤ k) (hhigh : k < 32) :
    leadByte (0xC0 + k) = ([], some ⟨1, 0x80, 0xBF, k⟩) := by
  unfold leadByte
  rw [if_neg (by omega), if_neg (by omega), if_pos (by omega), Nat.add_sub_cancel_left]

theorem leadByte_three : ∀ k < 16, leadByte (0xE0 + k) =
    ([], some ⟨2, if k = 0 then 0xA0 else 0x80, if k = 13 then 0x9F else 0xBF, k⟩) := by
  decide

theorem leadByte_four : ∀ k < 5, leadByte (0xF0 + k) =
    ([], some ⟨3, if k = 0 then 0x90 else 0x80, if k = 4 then 0x8F else 0xBF, k⟩) := by
  decide

theorem nextByte_tail {p : Pending} {b : Nat} (hlow : p.low ≤ b) (hhigh : b ≤ p.high)
    (hdue : p.due ≠ 1) : nextByte (some p) b =
      ([], some ⟨p.due - 1, 0x80, 0xBF, 64 * p.value + (b - 0x80)⟩) := by
  simp [nextByte, hlow, hhigh, hdue]

theorem nextByte_last {p : Pending} {b : Nat} (hlow : p.low ≤ b) (hhigh : b ≤ p.high)
    (hdue : p.due = 1) : nextByte (some p) b =
      ([Char.ofNat (64 * p.value + (b - 0x80))], none) := by
  simp [nextByte, hlow, hhigh, hdue]

theorem decodeUtf8Lossy_char (c : Char) (rest : List Nat) :
    decodeUtf8Lossy none (utf8Char c ++ rest) = c :: decodeUtf8Lossy none rest := by
  have hvalid : c.toNat < 0xD800 ∨ (0xDFFF < c.toNat ∧ c.toNat < 0x110000) := c.valid
  have hback : ∀ n, n = c.toNat → Char.ofNat n = c := by
    rintro n rfl
    exact Char.ofNat_toNat c
  unfold utf8Char
  dsimp only
  split
  next h1 =>
    simp [decodeUtf8Lossy, nextByte, leadByte, h1]
  next h1 =>
    split
    next h2 =>
      simp only [List.cons_append, List.nil_append, decodeUtf8Lossy]
      rw [nextByte, leadByte_two (by omega) (by omega)]
      dsimp only
      rw [nextByte_last (by dsimp only; omega) (by dsimp only; omega) rfl]
      simp only [List.nil_append, List.cons_append, List.cons.injEq, and_true]
      exact hback _ (by omega)
    next h2 =>
      split
      next h3 =>
        simp only [List.cons_append, List.nil_append, decodeUtf8Lossy]
        rw [nextByte, leadByte_three _ (by omega)]
        dsimp only
        rw [nextByte_tail (by dsimp only; split <;> omega) (by dsimp only; split <;> omega)
          (by simp)]
        dsimp only
        rw [nextByte_last (by dsimp only; omega) (by dsimp only; omega) rfl]
        simp only [List.nil_append, List.cons_append, List.cons.injEq, and_true]
        exact hback _ (by omega)
      next h3 =>
        simp only [List.cons_append, List.nil_append, decodeUtf8Lossy]
        rw [nextByte, leadByte_four _ (by omega)]
        dsimp only
        rw [nextByte_tail (by dsimp only; split <;> omega) (by dsimp only; split <;> omega)
          (by simp)]
        dsimp only
        rw [nextByte_tail (by dsimp only; omega) (by dsimp only; omega) (by simp)]
        dsimp only
        rw [nextByte_last (by dsimp only; omega) (by dsimp only; omega) rfl]
        simp only [List.nil_append, List.cons_append, List.cons.injEq, and_true]
        exact hback _ (by omega)

theorem utf8_cons (c : Char) (cs : List Char) : utf8 (c :: cs) = utf8Char c ++ utf8 cs :=
  List.flatMap_cons

theorem decodeUtf8Lossy_utf8 (cs : List Char) : decodeUtf8Lossy none (utf8 cs) = cs := by
  induction cs with
  | nil => rfl
  | cons c cs ih => rw [utf8_cons, decodeUtf8Lossy_char, ih]

theorem utf8_append (xs ys : List Char) : utf8 (xs ++ ys) = utf8 xs ++ utf8 ys :=
  List.flatMap_append

theorem utf8_of_ascii {c : Char} (h : c.toNat < 0x80) : utf8Char c = [c.toNat] := by
  simp [utf8Char, h]

theorem utf8Char_lt (c : Char) : ∀ b ∈ utf8Char c, b < 256 := by
  have hvalid : c.toNat < 0xD800 ∨ (0xDFFF < c.toNat ∧ c.toNat < 0x110000) := c.valid
  unfold utf8Char
  dsimp only
  intro b hb
  split at hb
  next => simp only [List.mem_singleton] at hb; omega
  next =>
    split at hb
    next => simp only [List.mem_cons, List.not_mem_nil, or_false] at hb; omega
    next =>
      split at hb
      next => simp only [List.mem_cons, List.not_mem_nil, or_false] at hb; omega
      next => simp only [List.mem_cons, List.not_mem_nil, or_false] at hb; omega

end Bytes

section Escapes

def hexDigit (n : Nat) : Char := if n < 10 then Char.ofNat (48 + n) else Char.ofNat (55 + n)

def hexByte (b : Nat) : Option Nat :=
  if 48 ≤ b ∧ b ≤ 57 then some (b - 48)
  else if 65 ≤ b ∧ b ≤ 70 then some (b - 55)
  else if 97 ≤ b ∧ b ≤ 102 then some (b - 87)
  else none

def escapeByte (b : Nat) : List Char := ['%', hexDigit (b / 16), hexDigit (b % 16)]

def encodeChar (keep : Char → Bool) (c : Char) : List Char :=
  if keep c then [c] else (utf8Char c).flatMap escapeByte

def encode (keep : Char → Bool) (cs : List Char) : List Char := cs.flatMap (encodeChar keep)

/-- The byte that a percent sign and the two hexadecimal digits after it stand for. -/
def escapedByte (b : Nat) : List Nat → Option Nat
  | high :: low :: _ =>
    if b = 37 then (hexByte high).bind fun h => (hexByte low).map fun l => 16 * h + l else none
  | _ => none

/-- The first argument counts the digits of an escape that are still to be passed over. -/
def decodeBytes : Nat → List Nat → List Nat
  | _, [] => []
  | skip + 1, _ :: bs => decodeBytes skip bs
  | 0, b :: bs =>
    match escapedByte b bs with
    | some value => value :: decodeBytes 2 bs
    | none => b :: decodeBytes 0 bs

def decode (cs : List Char) : List Char := decodeUtf8Lossy none (decodeBytes 0 (utf8 cs))

theorem toNat_hexDigit : ∀ n < 16,
    hexByte (hexDigit n).toNat = some n ∧ (hexDigit n).toNat < 0x80 := by
  decide

theorem hexDigit_lt {b : Nat} (h : b < 256) : b / 16 < 16 ∧ b % 16 < 16 :=
  ⟨by omega, by omega⟩

theorem utf8_escapeByte {b : Nat} (h : b < 256) : utf8 (escapeByte b) =
    [37, (hexDigit (b / 16)).toNat, (hexDigit (b % 16)).toNat] := by
  obtain ⟨hhigh, hlow⟩ := hexDigit_lt h
  have hpercent : utf8Char '%' = [37] := rfl
  simp [utf8, escapeByte, utf8_of_ascii (toNat_hexDigit _ hhigh).2,
    utf8_of_ascii (toNat_hexDigit _ hlow).2, hpercent]

theorem decodeBytes_escapeByte {b : Nat} (h : b < 256) (rest : List Nat) :
    decodeBytes 0 (utf8 (escapeByte b) ++ rest) = b :: decodeBytes 0 rest := by
  obtain ⟨hhigh, hlow⟩ := hexDigit_lt h
  have hvalue : 16 * (b / 16) + b % 16 = b := by omega
  rw [utf8_escapeByte h]
  simp [decodeBytes, escapedByte, (toNat_hexDigit _ hhigh).1, (toNat_hexDigit _ hlow).1, hvalue]

theorem decodeBytes_escapes (bs rest : List Nat) (h : ∀ b ∈ bs, b < 256) :
    decodeBytes 0 (utf8 (bs.flatMap escapeByte) ++ rest) = bs ++ decodeBytes 0 rest := by
  induction bs with
  | nil => rfl
  | cons b bs ih =>
    rw [List.flatMap_cons, utf8_append, List.append_assoc,
      decodeBytes_escapeByte (h b List.mem_cons_self),
      ih fun b hb => h b (List.mem_cons_of_mem _ hb), List.cons_append]

theorem decodeBytes_cons {b : Nat} (h : b ≠ 37) (bs : List Nat) :
    decodeBytes 0 (b :: bs) = b :: decodeBytes 0 bs := by
  have hplain : escapedByte b bs = none := by
    unfold escapedByte
    split <;> simp [h]
  simp [decodeBytes, hplain]

theorem decodeBytes_append (bs rest : List Nat) (h : 37 ∉ bs) :
    decodeBytes 0 (bs ++ rest) = bs ++ decodeBytes 0 rest := by
  induction bs with
  | nil => rfl
  | cons b bs ih =>
    have hb : b ≠ 37 := fun heq => h (heq ▸ List.mem_cons_self)
    rw [List.cons_append, decodeBytes_cons hb, ih fun hmem => h (List.mem_cons_of_mem _ hmem),
      List.cons_append]

theorem utf8Char_percent {c : Char} (h : c ≠ '%') : 37 ∉ utf8Char c := by
  have hne : c.toNat ≠ 37 := fun heq => h (Char.toNat_inj.1 heq)
  unfold utf8Char
  dsimp only
  intro hmem
  split at hmem
  next => exact hne (List.mem_singleton.1 hmem).symm
  next =>
    split at hmem
    next => simp only [List.mem_cons, List.not_mem_nil, or_false] at hmem; omega
    next =>
      split at hmem
      next => simp only [List.mem_cons, List.not_mem_nil, or_false] at hmem; omega
      next => simp only [List.mem_cons, List.not_mem_nil, or_false] at hmem; omega

/-- What is written with escapes, the percent sign among them, reads back as it was. -/
theorem decode_encode {keep : Char → Bool} (hpercent : keep '%' = false) (cs : List Char) :
    decode (encode keep cs) = cs := by
  have hbytes : decodeBytes 0 (utf8 (encode keep cs)) = utf8 cs := by
    induction cs with
    | nil => rfl
    | cons c cs ih =>
      rw [encode, List.flatMap_cons, ← encode, utf8_append, utf8_cons, encodeChar]
      split
      next hkeep =>
        have hc : c ≠ '%' := fun heq => by simp [heq, hpercent] at hkeep
        rw [utf8_cons, utf8, List.flatMap_nil, List.append_nil,
          decodeBytes_append _ _ (utf8Char_percent hc), ih]
      next hkeep => rw [decodeBytes_escapes _ _ (utf8Char_lt c), ih]
  rw [decode, hbytes, decodeUtf8Lossy_utf8]

theorem decode_of_plain {cs : List Char} (h : '%' ∉ cs) : decode cs = cs := by
  have hplain : 37 ∉ utf8 cs := by
    intro hmem
    obtain ⟨c, hc, hbyte⟩ := List.mem_flatMap.1 hmem
    exact utf8Char_percent (fun heq => h (heq ▸ hc)) hbyte
  have hbytes := decodeBytes_append (utf8 cs) [] hplain
  rw [List.append_nil] at hbytes
  rw [decode, hbytes, decodeBytes, List.append_nil, decodeUtf8Lossy_utf8]

/-- The characters that an encoding writes: the kept ones and those of the escapes. -/
theorem mem_encode {keep : Char → Bool} {cs : List Char} {c : Char} (h : c ∈ encode keep cs) :
    keep c = true ∨ c = '%' ∨ ∃ n < 16, c = hexDigit n := by
  obtain ⟨d, -, hd⟩ := List.mem_flatMap.1 h
  rw [encodeChar] at hd
  split at hd
  next hkeep =>
    rw [List.mem_singleton] at hd
    exact .inl (hd ▸ hkeep)
  next =>
    obtain ⟨b, hb, hc⟩ := List.mem_flatMap.1 hd
    have hlt := utf8Char_lt d b hb
    simp only [escapeByte, List.mem_cons, List.not_mem_nil, or_false] at hc
    obtain rfl | rfl | rfl := hc
    · exact .inr (.inl rfl)
    · exact .inr (.inr ⟨_, (hexDigit_lt hlt).1, rfl⟩)
    · exact .inr (.inr ⟨_, (hexDigit_lt hlt).2, rfl⟩)

end Escapes

end PercentText
