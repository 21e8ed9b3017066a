import VoyaVPN.RedactionScan

/-! When the redaction of a log line leaves no user information: the lines whose URLs are all read
and have one at sign at most before their host. -/
namespace RedactionSound

open Redaction Masking RedactionScan

section Specification

variable (bytes : List Nat)

def SchemeBefore (n : Nat) : Prop :=
  ∃ s < n, holdsAt bytes isAsciiAlphabetic s = true ∧
    ∀ i < n, s ≤ i → holdsAt bytes isUrlSchemeByte i = true

def Occurrence (n : Nat) : Prop := SeparatorAt bytes n ∧ SchemeBefore bytes n

instance (n : Nat) : Decidable (SeparatorAt bytes n) := inferInstanceAs (Decidable (_ ∧ _))

instance (n : Nat) : Decidable (SchemeBefore bytes n) :=
  inferInstanceAs (Decidable (∃ s < n, _))

instance (n : Nat) : Decidable (Occurrence bytes n) := inferInstanceAs (Decidable (_ ∧ _))

instance (n i : Nat) : Decidable (InAuthority bytes n i) := inferInstanceAs (Decidable (_ ∧ _))

instance (n i : Nat) : Decidable (InUserinfo bytes n i) := inferInstanceAs (Decidable (_ ∧ _))

/-- The places of the user information of any URL in a line. -/
def userinfoPlaces (i : Nat) : Bool := decide (∃ n < i, Occurrence bytes n ∧ InUserinfo bytes n i)

/-- The line with every user information replaced by the mark. -/
def withoutUserinfo : List Nat := masked (userinfoPlaces bytes) redactedMark bytes

/-- The redaction does what it is for: it replaces each user information and nothing else, and has
nothing left to do. -/
structure Redacts : Prop where
  output : redactUrlUserinfo bytes = some (withoutUserinfo bytes)
  again : redactUrlUserinfo (withoutUserinfo bytes) = some (withoutUserinfo bytes)

/-- Every URL with user information is one that the scan reads, with one at sign. -/
def Redactable : Prop :=
  ∀ n, Occurrence bytes n → (∃ i, InUserinfo bytes n i) →
    Read bytes n ∧ ∀ i j, InAuthority bytes n i → bytes[i]? = some atSign →
      InAuthority bytes n j → bytes[j]? = some atSign → i = j

variable {bytes}

theorem userinfoPlaces_iff {i : Nat} :
    userinfoPlaces bytes i = true ↔ ∃ n < i, Occurrence bytes n ∧ InUserinfo bytes n i := by
  rw [userinfoPlaces, decide_eq_true_eq]

theorem occurrence_of_read {n : Nat} (h : Read bytes n) : Occurrence bytes n := by
  rw [Read] at h
  obtain ⟨hsep, ⟨s, hs, hletter, hall, -⟩, -⟩ := h
  exact ⟨hsep, s, hs, hletter, hall⟩

theorem userinfo_of_read {i : Nat} (h : readPlaces bytes i = true) :
    userinfoPlaces bytes i = true := by
  obtain ⟨n, hn, hread, hfirst⟩ := readPlaces_iff.mp h
  exact userinfoPlaces_iff.mpr ⟨n, hn, occurrence_of_read hread, hfirst.1⟩

theorem userinfo_plain {i byte : Nat} (h : userinfoPlaces bytes i = true)
    (hbyte : bytes[i]? = some byte) : isUrlAuthorityTerminator byte = false := by
  obtain ⟨n, -, -, hin⟩ := userinfoPlaces_iff.mp h
  have hauthority := hin.inAuthority
  rw [← @holdsAt_of_some bytes isUrlAuthorityTerminator i byte hbyte]
  exact hauthority.2.2 i (by omega) hauthority.1

end Specification

section Sufficiency

variable {bytes : List Nat}

theorem places_eq (h : Redactable bytes) (i : Nat) :
    readPlaces bytes i = userinfoPlaces bytes i := by
  rw [Bool.eq_iff_iff]
  constructor
  · exact userinfo_of_read
  · intro hplace
    obtain ⟨n, hn, hocc, hin⟩ := userinfoPlaces_iff.mp hplace
    obtain ⟨hread, hone⟩ := h n hocc ⟨i, hin⟩
    refine readPlaces_iff.mpr ⟨n, hn, hread, hin, ?_⟩
    intro j hj hlow hat
    obtain ⟨-, k, -, hik, hk, hkat⟩ := hin
    have hauthority : InAuthority bytes n j :=
      ⟨hlow, by have := hk.2.1; omega, fun l hl hllow => hk.2.2 l (by omega) hllow⟩
    have heq := hone j k hauthority hat hk hkat
    omega

theorem output_of_redactable (hascii : FollowsAscii bytes) (h : Redactable bytes) :
    redactUrlUserinfo bytes = some (withoutUserinfo bytes) := by
  rw [redact_eq (Or.inl hascii), withoutUserinfo, masked_congr fun i _ => places_eq h i]

end Sufficiency

section Necessity

variable {bytes : List Nat}

theorem separator_slash {n : Nat} (h : SeparatorAt bytes n) :
    holdsAt bytes isUrlAuthorityTerminator (n + 1) = true ∧
      holdsAt bytes isUrlAuthorityTerminator (n + 2) = true := by
  rw [holdsAt_of_some h.2.1, holdsAt_of_some h.2.2]
  decide

theorem not_hidden_before {n : Nat} (h : SeparatorAt bytes n) :
    userinfoPlaces bytes (n + 2) = false := by
  rw [Bool.eq_false_iff]
  intro hplace
  have hplain := userinfo_plain hplace h.2.2
  cases hplain

theorem starts_userinfo {n : Nat} (hocc : Occurrence bytes n) {i : Nat}
    (hin : InUserinfo bytes n i) : startsRun (userinfoPlaces bytes) (n + 3) = true := by
  obtain ⟨hlow, j, hj, hij, hauthority, hat⟩ := hin
  have hplace : userinfoPlaces bytes (n + 3) = true :=
    userinfoPlaces_iff.mpr ⟨n, by omega, hocc, Nat.le_refl _, j, hj, by omega, hauthority, hat⟩
  rw [startsRun, hplace, show n + 3 - 1 = n + 2 by omega, not_hidden_before hocc.1]
  simp

theorem starts_of_read {i : Nat} (h : startsRun (readPlaces bytes) i = true) :
    startsRun (userinfoPlaces bytes) i = true := by
  rw [startsRun, Bool.and_eq_true, Bool.or_eq_true, beq_iff_eq, Bool.not_eq_true'] at h
  obtain ⟨hplace, hbefore⟩ := h
  obtain ⟨n, hn, hread, hfirst⟩ := readPlaces_iff.mp hplace
  have hlow := hfirst.inAuthority.1
  have hstart : i = n + 3 := by
    by_contra hne
    rcases hbefore with hzero | hbefore
    · omega
    · have hinner : readPlaces bytes (i - 1) = true := by
        refine readPlaces_iff.mpr ⟨n, by omega, hread, ⟨by omega, ?_⟩, ?_⟩
        · obtain ⟨-, j, hj, hij, hrest⟩ := hfirst.1
          exact ⟨j, hj, by omega, hrest⟩
        · exact fun j hj hlow => hfirst.2 j (by omega) hlow
      rw [hinner] at hbefore
      cases hbefore
  rw [hstart]
  exact starts_userinfo (occurrence_of_read hread) hfirst.1

/-- The start of a user information that the scan hides belongs to a URL that it reads. -/
theorem read_of_starts {n : Nat} (hsep : SeparatorAt bytes n)
    (h : startsRun (readPlaces bytes) (n + 3) = true) : Read bytes n := by
  rw [startsRun, Bool.and_eq_true] at h
  obtain ⟨m, hm, hread, hfirst⟩ := readPlaces_iff.mp h.1
  obtain ⟨hlow, -, hplain⟩ := hfirst.inAuthority
  rcases Nat.lt_trichotomy m n with hlt | rfl | hlt
  · have hapart := hread.separatorAt.apart hsep hlt
    have hterm := (separator_slash hsep).1
    rw [hplain (n + 1) (by omega) (by omega)] at hterm
    cases hterm
  · exact hread
  · omega

theorem mark_count : redactedMark.count '<'.toNat = 1 ∧ atSign ∉ redactedMark := by
  decide

theorem redactable_of_output (hascii : FollowsAscii bytes)
    (h : redactUrlUserinfo bytes = some (withoutUserinfo bytes)) : Redactable bytes := by
  rw [redact_eq (Or.inl hascii), Option.some.injEq, withoutUserinfo] at h
  have hopening : ∀ i, userinfoPlaces bytes i = true → bytes[i]? ≠ some '<'.toNat := by
    intro i hi hbyte
    have hplain := userinfo_plain hi hbyte
    cases hplain
  -- both outputs have as many marks, so every user information is hidden by the scan
  have hmarks := congrArg (List.count '<'.toNat) h
  rw [count_masked_mark mark_count.1 fun i hi => hopening i (userinfo_of_read hi),
    count_masked_mark mark_count.1 hopening] at hmarks
  have hstarts := imp_of_countP_eq (fun i _ => @starts_of_read bytes i)
    (Nat.add_right_cancel hmarks)
  -- both outputs have as many at signs, so no user information holds one
  have hats := congrArg (List.count atSign) h
  have hread := @count_masked_other Nat _ (readPlaces bytes) _ bytes _ mark_count.2
  have hall := @count_masked_other Nat _ (userinfoPlaces bytes) _ bytes _ mark_count.2
  have hnone : (List.range' 0 bytes.length).countP
      (fun i => readPlaces bytes i && bytes[i]? == some atSign) = 0 := by
    rw [List.countP_eq_zero]
    intro i _ hi
    rw [Bool.and_eq_true, beq_iff_eq] at hi
    obtain ⟨n, -, -, hfirst⟩ := readPlaces_iff.mp hi.1
    exact hfirst.2 i (by omega) hfirst.inAuthority.1 hi.2
  have hclear : ∀ i < bytes.length, userinfoPlaces bytes i = true → bytes[i]? ≠ some atSign := by
    have hzero : (List.range' 0 bytes.length).countP
        (fun i => userinfoPlaces bytes i && bytes[i]? == some atSign) = 0 := by
      omega
    intro i hi hplace hat
    have hnot := List.countP_eq_zero.mp hzero i (List.mem_range'_1.mpr ⟨Nat.zero_le _, by omega⟩)
    apply hnot
    rw [hplace, hat]
    decide
  intro n hocc ⟨i, hin⟩
  constructor
  · obtain ⟨hlow, hlen, -⟩ := hin.inAuthority
    refine read_of_starts hocc.1 (hstarts (n + 3) ?_ (starts_userinfo hocc hin))
    exact List.mem_range'_1.mpr ⟨Nat.zero_le _, by omega⟩
  · have hle : ∀ k l, InAuthority bytes n k → bytes[k]? = some atSign → InAuthority bytes n l →
        bytes[l]? = some atSign → k ≤ l := by
      intro k l hk hkat hl hlat
      by_contra hlt
      refine hclear l hl.2.1 ?_ hlat
      exact userinfoPlaces_iff.mpr ⟨n, by have := hl.1; omega, hocc, hl.1, k, hk.2.1,
        by omega, hk, hkat⟩
    intro k l hk hkat hl hlat
    exact Nat.le_antisymm (hle k l hk hkat hl hlat) (hle l k hl hlat hk hkat)

end Necessity

section Again

variable {bytes : List Nat}

def markWord : List Nat := "redacted".toList.map Char.toNat

/-- A byte of a scheme, of a separator or of an authority is no end of the mark. -/
theorem ne_markEnd {byte : Nat}
    (h : isUrlSchemeByte byte = true ∨ byte = colon ∨ byte = slash ∨
      isUrlAuthorityTerminator byte = false) : byte ≠ '<'.toNat ∧ byte ≠ '>'.toNat := by
  constructor
  · rintro rfl
    revert h
    decide
  · rintro rfl
    revert h
    decide

theorem url_place {n j k : Nat} (hsep : SeparatorAt bytes n)
    {s : Nat} (hscheme : ∀ i < n, s ≤ i → holdsAt bytes isUrlSchemeByte i = true)
    (hj : InAuthority bytes n j) (hlow : s ≤ k) (hhigh : k ≤ j) {byte : Nat}
    (hbyte : bytes[k]? = some byte) :
    isUrlSchemeByte byte = true ∨ byte = colon ∨ byte = slash ∨
      isUrlAuthorityTerminator byte = false := by
  by_cases hin : k < n
  · have hholds := hscheme k hin hlow
    rw [holdsAt_of_some hbyte] at hholds
    exact Or.inl hholds
  · by_cases hafter : n + 3 ≤ k
    · have hplain := hj.2.2 k (by omega) hafter
      rw [holdsAt_of_some hbyte] at hplain
      exact Or.inr (Or.inr (Or.inr hplain))
    · obtain ⟨hcolon, hslash, hlast⟩ := hsep
      obtain rfl | rfl | rfl : k = n ∨ k = n + 1 ∨ k = n + 2 := by omega
      · rw [hbyte, Option.some.injEq] at hcolon
        exact Or.inr (Or.inl hcolon)
      · rw [hbyte, Option.some.injEq] at hslash
        exact Or.inr (Or.inr (Or.inl hslash))
      · rw [hbyte, Option.some.injEq] at hlast
        exact Or.inr (Or.inr (Or.inl hlast))

theorem userinfo_moved {entry : List Nat} {s n i j place : Nat} (hsep : SeparatorAt entry n)
    (hs : s < n) (hletter : holdsAt entry isAsciiAlphabetic s = true)
    (hscheme : ∀ k < n, s ≤ k → holdsAt entry isUrlSchemeByte k = true)
    (hi : n + 3 ≤ i) (hij : i < j) (hj : InAuthority entry n j) (hat : entry[j]? = some atSign)
    (hsame : ∀ k, s ≤ k → k ≤ j → bytes[place + (k - s)]? = entry[k]?) :
    userinfoPlaces bytes (place + (i - s)) = true := by
  have hholds : ∀ (p : Nat → Bool) k, s ≤ k → k ≤ j →
      holdsAt bytes p (place + (k - s)) = holdsAt entry p k := by
    intro p k hlow hhigh
    rw [holdsAt, holdsAt, hsame k hlow hhigh]
  obtain ⟨hjlow, -, hplain⟩ := hj
  have hjlen : place + (j - s) < bytes.length := by
    obtain ⟨hlen, _⟩ := List.getElem?_eq_some_iff.mp
      ((hsame j (by omega) (Nat.le_refl _)).trans hat)
    exact hlen
  refine userinfoPlaces_iff.mpr ⟨place + (n - s), by omega, ⟨⟨?_, ?_, ?_⟩, place, by omega, ?_, ?_⟩,
    by omega, place + (j - s), hjlen, by omega, ⟨by omega, hjlen, ?_⟩, ?_⟩
  · rw [hsame n (by omega) (by omega), hsep.1]
  · rw [show place + (n - s) + 1 = place + (n + 1 - s) by omega,
      hsame (n + 1) (by omega) (by omega), hsep.2.1]
  · rw [show place + (n - s) + 2 = place + (n + 2 - s) by omega,
      hsame (n + 2) (by omega) (by omega), hsep.2.2]
  · have hfirst := hholds isAsciiAlphabetic s (Nat.le_refl _) (by omega)
    rwa [Nat.sub_self, Nat.add_zero, hletter] at hfirst
  · intro k hk hlow
    obtain ⟨d, rfl⟩ := Nat.exists_eq_add_of_le hlow
    have hplace := hholds isUrlSchemeByte (s + d) (by omega) (by omega)
    rw [Nat.add_sub_cancel_left, hscheme (s + d) (by omega) (by omega)] at hplace
    exact hplace
  · intro k hk hlow
    obtain ⟨d, rfl⟩ := Nat.exists_eq_add_of_le (show place ≤ k by omega)
    have hplace := hholds isUrlAuthorityTerminator (s + d) (by omega) (by omega)
    rw [Nat.add_sub_cancel_left, hplain (s + d) (by omega) (by omega)] at hplace
    exact hplace
  · rw [hsame j (by omega) (Nat.le_refl _), hat]

/-- No URL of a line without user information has any, of those that the scan reads. -/
theorem readPlaces_withoutUserinfo (i : Nat) :
    readPlaces (withoutUserinfo bytes) i = false := by
  rw [Bool.eq_false_iff]
  intro hplace
  obtain ⟨n, -, hread, hfirst⟩ := readPlaces_iff.mp hplace
  obtain ⟨hsep, s, hs, hletter, hscheme⟩ := occurrence_of_read hread
  obtain ⟨hi, j, hjlen, hij, hj, hat⟩ := hfirst.1
  have hplaces : ∀ k < ((withoutUserinfo bytes).drop s |>.take (j + 1 - s)).length,
      ((withoutUserinfo bytes).drop s |>.take (j + 1 - s))[k]? =
        (withoutUserinfo bytes)[s + k]? := by
    intro k hk
    rw [List.length_take] at hk
    rw [List.getElem?_take_of_lt (by omega), List.getElem?_drop]
  generalize hurl : ((withoutUserinfo bytes).drop s |>.take (j + 1 - s)) = url at hplaces
  have hlength : url.length = j + 1 - s := by
    rw [← hurl, List.length_take, List.length_drop]
    omega
  have hmem : ∀ byte ∈ url, byte ≠ '<'.toNat ∧ byte ≠ '>'.toNat := by
    intro byte hbyte
    obtain ⟨k, hk⟩ := List.mem_iff_getElem?.mp hbyte
    obtain ⟨hkLen, _⟩ := List.getElem?_eq_some_iff.mp hk
    rw [hplaces k hkLen] at hk
    exact ne_markEnd (url_place hsep hscheme hj (by omega) (by omega) hk)
  have hcolon : colon ∈ url := by
    have hk := hplaces (n - s) (by omega)
    rw [show s + (n - s) = n by omega, hsep.1] at hk
    exact List.mem_of_getElem? hk
  have hwithin : url <:+: withoutUserinfo bytes := by
    rw [← hurl]
    have hleads := List.take_prefix (j + 1 - s) ((withoutUserinfo bytes).drop s)
    exact hleads.isInfix.trans (List.drop_suffix s (withoutUserinfo bytes)).isInfix
  have hmiddle : ¬ url <:+: markWord := by
    intro hword
    have hin := hword.subset hcolon
    revert hin
    decide
  obtain ⟨place, hvisible⟩ := infix_visible (Nat.le_of_eq (Nat.zero_add _))
    (fun hin => (hmem _ hin).1 rfl) (fun hin => (hmem _ hin).2 rfl) hmiddle hwithin
  have hsame : ∀ k, s ≤ k → k ≤ j → bytes[place + (k - s)]? = (withoutUserinfo bytes)[k]? := by
    intro k hlow hhigh
    rw [(hvisible (k - s) (by omega)).2, hplaces (k - s) (by omega), show s + (k - s) = k by omega]
  have hhidden := userinfo_moved hsep hs hletter hscheme hi hij hj hat hsame
  rw [(hvisible (i - s) (by omega)).1] at hhidden
  cases hhidden

theorem again_withoutUserinfo :
    redactUrlUserinfo (withoutUserinfo bytes) = some (withoutUserinfo bytes) := by
  rw [redact_eq (Or.inr readPlaces_withoutUserinfo),
    masked_none fun i _ => readPlaces_withoutUserinfo i]

/-- The redaction of a text never panics, and leaves no user information exactly where the scan
reads every URL that has some and finds one at sign there. -/
theorem redacts_iff (text : String) :
    (∃ out, redactUrlUserinfo (PercentText.utf8 text.toList) = some out) ∧
      (Redacts (PercentText.utf8 text.toList) ↔ Redactable (PercentText.utf8 text.toList)) := by
  have hascii := followsAscii_utf8 text.toList
  refine ⟨⟨_, redact_eq (Or.inl hascii)⟩, ?_, ?_⟩
  · exact fun h => redactable_of_output hascii h.output
  · exact fun h => ⟨output_of_redactable hascii h, again_withoutUserinfo⟩

/-- With two at signs before the host, what follows the first is kept. -/
theorem second_at_kept :
    redactUrlUserinfo (PercentText.utf8 "http://a@b@h".toList) =
        some (PercentText.utf8 "http://<redacted>@b@h".toList) ∧
      ¬ Redacts (PercentText.utf8 "http://a@b@h".toList) := by
  have hout : redactUrlUserinfo (PercentText.utf8 "http://a@b@h".toList) =
      some (PercentText.utf8 "http://<redacted>@b@h".toList) := by
    decide +kernel
  refine ⟨hout, ?_⟩
  intro h
  have houtput := h.output
  rw [hout] at houtput
  revert houtput
  decide +kernel

end Again

end RedactionSound
