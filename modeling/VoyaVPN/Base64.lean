import Mathlib.Data.List.Basic

/-! Base64 in the standard alphabet with padding: three bytes as four symbols. -/
namespace Base64

def symbol (n : Nat) : Char :=
  if n < 26 then Char.ofNat (65 + n)
  else if n < 52 then Char.ofNat (71 + n)
  else if n < 62 then Char.ofNat (n - 4)
  else if n = 62 then '+' else '/'

def symbolValue (c : Char) : Option Nat :=
  let n := c.toNat
  if 65 ≤ n ∧ n ≤ 90 then some (n - 65)
  else if 97 ≤ n ∧ n ≤ 122 then some (n - 71)
  else if 48 ≤ n ∧ n ≤ 57 then some (n + 4)
  else if c = '+' then some 62
  else if c = '/' then some 63
  else none

def encode : List Nat → List Char
  | [] => []
  | [a] => [symbol (a / 4), symbol (a % 4 * 16), '=', '=']
  | [a, b] => [symbol (a / 4), symbol (a % 4 * 16 + b / 16), symbol (b % 16 * 4), '=']
  | a :: b :: c :: rest =>
    symbol (a / 4) :: symbol (a % 4 * 16 + b / 16) :: symbol (b % 16 * 4 + c / 64) ::
      symbol (c % 64) :: encode rest

/-- The bytes of the last four symbols, whose padding must be complete and whose spare bits zero. -/
def decodeLast (p q r s : Char) : Option (List Nat) :=
  (symbolValue p).bind fun a => (symbolValue q).bind fun b =>
    if r = '=' ∧ s = '=' then
      if b % 16 = 0 then some [a * 4 + b / 16] else none
    else (symbolValue r).bind fun c =>
      if s = '=' then
        if c % 4 = 0 then some [a * 4 + b / 16, b % 16 * 16 + c / 4] else none
      else (symbolValue s).map fun d =>
        [a * 4 + b / 16, b % 16 * 16 + c / 4, c % 4 * 64 + d]

def decode : List Char → Option (List Nat)
  | [] => some []
  | [p, q, r, s] => decodeLast p q r s
  | p :: q :: r :: s :: rest =>
    (symbolValue p).bind fun a => (symbolValue q).bind fun b => (symbolValue r).bind fun c =>
      (symbolValue s).bind fun d => (decode rest).map fun bytes =>
        (a * 4 + b / 16) :: (b % 16 * 16 + c / 4) :: (c % 4 * 64 + d) :: bytes
  | _ => none

theorem symbolValue_symbol : ∀ n < 64, symbolValue (symbol n) = some n ∧ symbol n ≠ '=' := by
  decide

theorem decode_cons (p q r s : Char) {rest : List Char} (h : rest ≠ []) :
    decode (p :: q :: r :: s :: rest) =
      (symbolValue p).bind fun a => (symbolValue q).bind fun b => (symbolValue r).bind fun c =>
        (symbolValue s).bind fun d => (decode rest).map fun bytes =>
          (a * 4 + b / 16) :: (b % 16 * 16 + c / 4) :: (c % 4 * 64 + d) :: bytes := by
  cases rest with
  | nil => exact absurd rfl h
  | cons => rfl

theorem encode_ne_nil {bytes : List Nat} (h : bytes ≠ []) : encode bytes ≠ [] := by
  match bytes with
  | [] => exact absurd rfl h
  | [_] => simp [encode]
  | [_, _] => simp [encode]
  | _ :: _ :: _ :: _ => simp [encode]

theorem decode_encode : ∀ bytes : List Nat, (∀ b ∈ bytes, b < 256) →
    decode (encode bytes) = some bytes
  | [], _ => rfl
  | [a], h => by
    have ha : a < 256 := h a (by simp)
    obtain ⟨h1, -⟩ := symbolValue_symbol (a / 4) (by omega)
    obtain ⟨h2, -⟩ := symbolValue_symbol (a % 4 * 16) (by omega)
    simp only [encode, decode, decodeLast, h1, h2, Option.bind_some, true_and, if_pos]
    rw [if_pos (by omega)]
    simp only [Option.some.injEq, List.cons.injEq, and_true]
    omega
  | [a, b], h => by
    have ha : a < 256 := h a (by simp)
    have hb : b < 256 := h b (by simp)
    obtain ⟨h1, -⟩ := symbolValue_symbol (a / 4) (by omega)
    obtain ⟨h2, -⟩ := symbolValue_symbol (a % 4 * 16 + b / 16) (by omega)
    obtain ⟨h3, hne⟩ := symbolValue_symbol (b % 16 * 4) (by omega)
    simp only [encode, decode, decodeLast, h1, h2, h3, Option.bind_some, hne, false_and, if_false,
      if_pos]
    rw [if_pos (by omega)]
    simp only [Option.some.injEq, List.cons.injEq, and_true]
    omega
  | a :: b :: c :: rest, h => by
    have ha : a < 256 := h a (by simp)
    have hb : b < 256 := h b (by simp)
    have hc : c < 256 := h c (by simp)
    obtain ⟨h1, -⟩ := symbolValue_symbol (a / 4) (by omega)
    obtain ⟨h2, -⟩ := symbolValue_symbol (a % 4 * 16 + b / 16) (by omega)
    obtain ⟨h3, hne⟩ := symbolValue_symbol (b % 16 * 4 + c / 64) (by omega)
    obtain ⟨h4, hlast⟩ := symbolValue_symbol (c % 64) (by omega)
    have hrest := decode_encode rest fun b hb => h b (by simp [hb])
    rw [encode]
    by_cases hnil : rest = []
    · subst hnil
      simp only [encode, decode, decodeLast, h1, h2, h3, h4, Option.bind_some, Option.map_some, hne,
        hlast, false_and, if_false, Option.some.injEq, List.cons.injEq, and_true]
      omega
    · rw [decode_cons _ _ _ _ (encode_ne_nil hnil), hrest]
      simp only [h1, h2, h3, h4, Option.bind_some, Option.map_some, Option.some.injEq,
        List.cons.injEq, and_true]
      omega

structure Padded (text : List Char) (body : List Char) (pad : Nat) : Prop where
  eq : text = body ++ List.replicate pad '='
  symbols : ∀ c ∈ body, ∃ n < 64, c = symbol n
  pad_le : pad ≤ 2
  quads : (body.length + pad) % 4 = 0

theorem encode_padded : ∀ bytes : List Nat, (∀ b ∈ bytes, b < 256) →
    ∃ body pad, Padded (encode bytes) body pad ∧ 3 * body.length ≤ 4 * bytes.length + 2 ∧
      4 * bytes.length ≤ 3 * body.length
  | [], _ => ⟨[], 0, ⟨rfl, by simp, by omega, rfl⟩, by simp, by simp⟩
  | [a], h => by
    have ha : a < 256 := h a (by simp)
    refine ⟨[symbol (a / 4), symbol (a % 4 * 16)], 2, ⟨rfl, ?_, by omega, by simp⟩,
      by simp, by simp⟩
    intro c hc
    simp only [List.mem_cons, List.not_mem_nil, or_false] at hc
    obtain rfl | rfl := hc
    · exact ⟨_, by omega, rfl⟩
    · exact ⟨_, by omega, rfl⟩
  | [a, b], h => by
    have ha : a < 256 := h a (by simp)
    have hb : b < 256 := h b (by simp)
    refine ⟨[symbol (a / 4), symbol (a % 4 * 16 + b / 16), symbol (b % 16 * 4)], 1,
      ⟨rfl, ?_, by omega, by simp⟩, by simp, by simp⟩
    intro c hc
    simp only [List.mem_cons, List.not_mem_nil, or_false] at hc
    obtain rfl | rfl | rfl := hc
    · exact ⟨_, by omega, rfl⟩
    · exact ⟨_, by omega, rfl⟩
    · exact ⟨_, by omega, rfl⟩
  | a :: b :: c :: rest, h => by
    have ha : a < 256 := h a (by simp)
    have hb : b < 256 := h b (by simp)
    have hc : c < 256 := h c (by simp)
    obtain ⟨body, pad, hpadded, hle, hge⟩ := encode_padded rest fun b hb => h b (by simp [hb])
    refine ⟨symbol (a / 4) :: symbol (a % 4 * 16 + b / 16) :: symbol (b % 16 * 4 + c / 64) ::
      symbol (c % 64) :: body, pad, ⟨?_, ?_, hpadded.pad_le, ?_⟩, ?_, ?_⟩
    · rw [encode, hpadded.eq]
      rfl
    · intro d hd
      simp only [List.mem_cons] at hd
      obtain rfl | rfl | rfl | rfl | hd := hd
      · exact ⟨_, by omega, rfl⟩
      · exact ⟨_, by omega, rfl⟩
      · exact ⟨_, by omega, rfl⟩
      · exact ⟨_, by omega, rfl⟩
      · exact hpadded.symbols d hd
    · have := hpadded.quads
      simp only [List.length_cons]
      omega
    · simp only [List.length_cons]
      omega
    · simp only [List.length_cons]
      omega

theorem symbol_of_decodeLast {p q r s : Char} {bytes : List Nat}
    (h : decodeLast p q r s = some bytes) :
    ∀ c ∈ [p, q, r, s], symbolValue c ≠ none ∨ c = '=' := by
  unfold decodeLast at h
  simp only [Option.bind_eq_some_iff] at h
  obtain ⟨a, hp, b, hq, h⟩ := h
  have hfirst : ∀ c ∈ [p, q], symbolValue c ≠ none ∨ c = '=' := by
    intro c hc
    rcases List.mem_pair.mp hc with rfl | rfl
    · exact .inl (by rw [hp]; simp)
    · exact .inl (by rw [hq]; simp)
  intro c hc
  rw [show [p, q, r, s] = [p, q] ++ [r, s] from rfl, List.mem_append] at hc
  rcases hc with hc | hc
  · exact hfirst c hc
  · split at h
    · rename_i hpad
      rcases List.mem_pair.mp hc with rfl | rfl
      · exact .inr hpad.1
      · exact .inr hpad.2
    · rw [Option.bind_eq_some_iff] at h
      obtain ⟨d, hr, h⟩ := h
      rcases List.mem_pair.mp hc with rfl | rfl
      · exact .inl (by rw [hr]; simp)
      · split at h
        · rename_i hpad
          exact .inr hpad
        · rw [Option.map_eq_some_iff] at h
          obtain ⟨e, hs, -⟩ := h
          exact .inl (by rw [hs]; simp)

theorem symbol_of_decode : ∀ (cs : List Char) {bytes : List Nat}, decode cs = some bytes →
    ∀ c ∈ cs, symbolValue c ≠ none ∨ c = '='
  | [], _, _ => fun c hc => absurd hc List.not_mem_nil
  | [_], _, h => by cases h
  | [_, _], _, h => by cases h
  | [_, _, _], _, h => by cases h
  | [_, _, _, _], _, h => symbol_of_decodeLast h
  | p :: q :: r :: s :: t :: rest, bytes, h => by
    rw [decode_cons p q r s (List.cons_ne_nil t rest)] at h
    simp only [Option.bind_eq_some_iff, Option.map_eq_some_iff] at h
    obtain ⟨a, hp, b, hq, c, hr, d, hs, others, hrest, -⟩ := h
    have htail := symbol_of_decode (t :: rest) hrest
    intro x hx
    simp only [List.mem_cons] at hx
    rcases hx with rfl | rfl | rfl | rfl | hx
    · exact .inl (by rw [hp]; simp)
    · exact .inl (by rw [hq]; simp)
    · exact .inl (by rw [hr]; simp)
    · exact .inl (by rw [hs]; simp)
    · exact htail x (List.mem_cons.mpr hx)

end Base64
