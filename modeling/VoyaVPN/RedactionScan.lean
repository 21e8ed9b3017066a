import VoyaVPN.Redaction

/-! What the scan of a log line hides: the user information, up to the first at sign, of every URL
that it reads. -/
namespace RedactionScan

open Redaction Masking

section Places

def holdsAt (bytes : List Nat) (p : Nat → Bool) (i : Nat) : Bool := (bytes[i]?.map p).getD false

def SeparatorAt (bytes : List Nat) (n : Nat) : Prop :=
  bytes[n]? = some colon ∧ bytes[n + 1]? = some slash ∧ bytes[n + 2]? = some slash

/-- The bytes before a place that can be in a scheme begin with a letter. -/
def WholeScheme (bytes : List Nat) (n : Nat) : Prop :=
  ∃ s < n, holdsAt bytes isAsciiAlphabetic s = true ∧
    (∀ i < n, s ≤ i → holdsAt bytes isUrlSchemeByte i = true) ∧
      (s = 0 ∨ holdsAt bytes isUrlSchemeByte (s - 1) = false)

/-- A place of the authority after a separator: no terminator stands before it or there. -/
def InAuthority (bytes : List Nat) (n i : Nat) : Prop :=
  n + 3 ≤ i ∧ i < bytes.length ∧
    ∀ j < i + 1, n + 3 ≤ j → holdsAt bytes isUrlAuthorityTerminator j = false

/-- A place of the user information: an at sign of the same authority follows. -/
def InUserinfo (bytes : List Nat) (n i : Nat) : Prop :=
  n + 3 ≤ i ∧ ∃ j < bytes.length, i < j ∧ InAuthority bytes n j ∧ bytes[j]? = some atSign

/-- A place of the user information before its first at sign. -/
def InFirst (bytes : List Nat) (n i : Nat) : Prop :=
  InUserinfo bytes n i ∧ ∀ j < i + 1, n + 3 ≤ j → bytes[j]? ≠ some atSign

/-- The scan reads a URL unless its separator ends the authority of a URL that is read. -/
def Read (bytes : List Nat) (n : Nat) : Prop :=
  SeparatorAt bytes n ∧ WholeScheme bytes n ∧ ∀ m, m < n → InAuthority bytes m n → ¬ Read bytes m
termination_by n

open scoped Classical in
/-- The places that the scan hides. -/
noncomputable def readPlaces (bytes : List Nat) (i : Nat) : Bool :=
  decide (∃ n < i, Read bytes n ∧ InFirst bytes n i)

variable {bytes : List Nat}

open scoped Classical in
theorem readPlaces_iff {i : Nat} :
    readPlaces bytes i = true ↔ ∃ n < i, Read bytes n ∧ InFirst bytes n i := by
  rw [readPlaces, decide_eq_true_eq]

theorem holdsAt_eq_true {p : Nat → Bool} {i : Nat} :
    holdsAt bytes p i = true ↔ ∃ byte, bytes[i]? = some byte ∧ p byte = true := by
  rw [holdsAt]
  cases bytes[i]? with
  | none => simp
  | some byte => simp

theorem holdsAt_of_some {p : Nat → Bool} {i byte : Nat} (h : bytes[i]? = some byte) :
    holdsAt bytes p i = p byte := by
  rw [holdsAt, h]
  rfl

theorem InUserinfo.inAuthority {n i : Nat} (h : InUserinfo bytes n i) : InAuthority bytes n i := by
  obtain ⟨hlow, j, hj, hij, ⟨_, _, hplain⟩, _⟩ := h
  exact ⟨hlow, by omega, fun k hk hlow => hplain k (by omega) hlow⟩

theorem InFirst.inAuthority {n i : Nat} (h : InFirst bytes n i) : InAuthority bytes n i :=
  h.1.inAuthority

theorem SeparatorAt.lt {n : Nat} (h : SeparatorAt bytes n) : n + 3 ≤ bytes.length := by
  obtain ⟨hlt, _⟩ := List.getElem?_eq_some_iff.mp h.2.2
  omega

theorem SeparatorAt.apart {m n : Nat} (hm : SeparatorAt bytes m) (hn : SeparatorAt bytes n)
    (h : m < n) : m + 3 ≤ n := by
  have hne : some colon ≠ some slash := by decide
  rcases Nat.lt_or_ge n (m + 3) with hlt | hge
  · obtain rfl | rfl : n = m + 1 ∨ n = m + 2 := by omega
    · exact absurd (hn.1.symm.trans hm.2.1) hne
    · exact absurd (hn.1.symm.trans hm.2.2) hne
  · exact hge

theorem Read.separatorAt {n : Nat} (h : Read bytes n) : SeparatorAt bytes n := by
  rw [Read] at h
  exact h.1

theorem Read.not_in {m n : Nat} (hm : Read bytes m) (hn : Read bytes n) (h : m < n) :
    ¬ InAuthority bytes m n := by
  rw [Read] at hn
  exact fun hin => hn.2.2 m h hin hm

end Places

section Searches

variable {bytes : List Nat}

theorem findWindow_some {xs : List Nat} {k : Nat} (h : findWindow xs = some k) :
    SeparatorAt xs k ∧ ∀ j < k, ¬ SeparatorAt xs j := by
  induction xs using findWindow.induct generalizing k with
  | case1 first second third rest hwindow =>
    rw [findWindow, if_pos hwindow] at h
    cases h
    simp only [Bool.and_eq_true, beq_iff_eq] at hwindow
    obtain ⟨⟨rfl, rfl⟩, rfl⟩ := hwindow
    exact ⟨⟨rfl, rfl, rfl⟩, fun j hj => absurd hj (Nat.not_lt_zero j)⟩
  | case2 first second third rest hwindow ih =>
    rw [findWindow, if_neg hwindow] at h
    obtain ⟨place, hplace, rfl⟩ := Option.map_eq_some_iff.mp h
    obtain ⟨hsep, hfirst⟩ := ih hplace
    refine ⟨hsep, ?_⟩
    intro j hj hsep
    cases j with
    | zero =>
      apply hwindow
      obtain ⟨hcolon, hslash, hlast⟩ := hsep
      simp only [List.getElem?_cons_zero, List.getElem?_cons_succ, Option.some.injEq]
        at hcolon hslash hlast
      simp [hcolon, hslash, hlast]
    | succ j => exact hfirst j (by omega) hsep
  | case3 xs hshort =>
    rw [findWindow] at h
    · cases h
    · exact hshort

theorem findWindow_none {xs : List Nat} (h : findWindow xs = none) (j : Nat) :
    ¬ SeparatorAt xs j := by
  induction xs using findWindow.induct generalizing j with
  | case1 first second third rest hwindow =>
    rw [findWindow, if_pos hwindow] at h
    cases h
  | case2 first second third rest hwindow ih =>
    rw [findWindow, if_neg hwindow, Option.map_eq_none_iff] at h
    intro hsep
    cases j with
    | zero =>
      apply hwindow
      obtain ⟨hcolon, hslash, hlast⟩ := hsep
      simp only [List.getElem?_cons_zero, List.getElem?_cons_succ, Option.some.injEq]
        at hcolon hslash hlast
      simp [hcolon, hslash, hlast]
    | succ j => exact ih h j hsep
  | case3 xs hshort =>
    intro hsep
    have hlen := hsep.lt
    match xs, hshort with
    | first :: second :: third :: rest, hshort => exact hshort first second third rest rfl
    | [_, _], _ => simp at hlen
    | [_], _ => simp at hlen
    | [], _ => simp at hlen

theorem separatorAt_drop (start n : Nat) :
    SeparatorAt (bytes.drop start) n ↔ SeparatorAt bytes (start + n) := by
  simp only [SeparatorAt, List.getElem?_drop, Nat.add_assoc]

theorem findSchemeSeparator_some {start n : Nat} (h : findSchemeSeparator bytes start = some n) :
    start ≤ n ∧ SeparatorAt bytes n ∧ ∀ m, start ≤ m → m < n → ¬ SeparatorAt bytes m := by
  rw [findSchemeSeparator] at h
  split at h
  · obtain ⟨k, hk, rfl⟩ := Option.map_eq_some_iff.mp h
    obtain ⟨hsep, hfirst⟩ := findWindow_some hk
    refine ⟨Nat.le_add_right _ _, (separatorAt_drop start k).mp hsep, ?_⟩
    intro m hlow hhigh hm
    obtain ⟨j, rfl⟩ := Nat.exists_eq_add_of_le hlow
    exact hfirst j (by omega) ((separatorAt_drop start j).mpr hm)
  · cases h

theorem findSchemeSeparator_none {start : Nat} (hstart : start ≤ bytes.length)
    (h : findSchemeSeparator bytes start = none) {m : Nat} (hm : start ≤ m) :
    ¬ SeparatorAt bytes m := by
  rw [findSchemeSeparator, if_pos hstart, Option.map_eq_none_iff] at h
  obtain ⟨j, rfl⟩ := Nat.exists_eq_add_of_le hm
  exact fun hsep => findWindow_none h j ((separatorAt_drop start j).mpr hsep)

theorem findSchemeStart_spec (n : Nat) :
    findSchemeStart bytes n ≤ n ∧
      (∀ i < n, findSchemeStart bytes n ≤ i → holdsAt bytes isUrlSchemeByte i = true) ∧
        (findSchemeStart bytes n = 0 ∨
          holdsAt bytes isUrlSchemeByte (findSchemeStart bytes n - 1) = false) := by
  induction n with
  | zero => exact ⟨Nat.le_refl _, fun i hi => absurd hi (Nat.not_lt_zero i), Or.inl rfl⟩
  | succ n ih =>
    rw [findSchemeStart]
    obtain ⟨hle, hall, hbefore⟩ := ih
    split
    · rename_i hbyte
      refine ⟨by omega, ?_, hbefore⟩
      intro i hi hlow
      by_cases hlast : i = n
      · rw [hlast]
        exact hbyte
      · exact hall i (by omega) hlow
    · rename_i hbyte
      refine ⟨Nat.le_refl _, fun i hi hlow => absurd hi (by omega), Or.inr ?_⟩
      rw [Nat.add_sub_cancel]
      exact Bool.eq_false_iff.mpr hbyte

theorem findIdx_cases (p : Nat → Bool) {start stop : Nat} (hstop : stop ≤ bytes.length) :
    ((((bytes.drop start).take (stop - start)).findIdx? p).map (start + ·) = none ∧
        ∀ i, start ≤ i → i < stop → holdsAt bytes p i = false) ∨
      ∃ i, (((bytes.drop start).take (stop - start)).findIdx? p).map (start + ·) = some i ∧
        start ≤ i ∧ i < stop ∧ holdsAt bytes p i = true ∧
          ∀ j, start ≤ j → j < i → holdsAt bytes p j = false := by
  have hplace : ∀ k, start + k < stop →
      ((bytes.drop start).take (stop - start))[k]? = bytes[start + k]? := by
    intro k hk
    rw [List.getElem?_take_of_lt (by omega), List.getElem?_drop]
  cases hfound : ((bytes.drop start).take (stop - start)).findIdx? p with
  | none =>
    refine Or.inl ⟨rfl, ?_⟩
    intro i hlow hhigh
    obtain ⟨k, rfl⟩ := Nat.exists_eq_add_of_le hlow
    have hsome : bytes[start + k]? = some bytes[start + k] := List.getElem?_eq_getElem (by omega)
    rw [holdsAt_of_some hsome]
    apply List.findIdx?_eq_none_iff.mp hfound
    apply List.mem_of_getElem?
    rw [hplace k hhigh, hsome]
  | some k =>
    obtain ⟨hlen, hp, hfirst⟩ := List.findIdx?_eq_some_iff_getElem.mp hfound
    have hlt : start + k < stop := by
      rw [List.length_take, List.length_drop] at hlen
      omega
    have hvalue : ∀ j, (hj : j < ((bytes.drop start).take (stop - start)).length) →
        holdsAt bytes p (start + j) = p ((bytes.drop start).take (stop - start))[j] := by
      intro j hj
      have hjstop : start + j < stop := by
        rw [List.length_take, List.length_drop] at hj
        omega
      apply holdsAt_of_some
      rw [← hplace j hjstop, List.getElem?_eq_getElem hj]
    refine Or.inr ⟨start + k, rfl, Nat.le_add_right _ _, hlt, (hvalue k hlen).trans hp, ?_⟩
    intro j hlow hhigh
    obtain ⟨l, rfl⟩ := Nat.exists_eq_add_of_le hlow
    rw [hvalue l (by omega)]
    exact Bool.eq_false_iff.mpr (hfirst l (by omega))

end Searches

section Slices

variable {bytes : List Nat}

theorem isCharBoundary_of_some {i byte : Nat} (h : bytes[i]? = some byte)
    (hbyte : byte < 0x80 ∨ 0xC0 ≤ byte) : isCharBoundary bytes i = true := by
  rw [isCharBoundary, h, Option.map_some, Option.getD_some]
  simp only [Bool.or_eq_true, decide_eq_true_eq]
  exact Or.inr hbyte

/-- A place after an ASCII byte, as every place that is copied from or up to. -/
def AfterAscii (bytes : List Nat) (i : Nat) : Prop :=
  i = 0 ∨ ∃ j byte, i = j + 1 ∧ bytes[j]? = some byte ∧ byte < 0x80

theorem AfterAscii.isCharBoundary {i : Nat} (h : AfterAscii bytes i) (hascii : FollowsAscii bytes) :
    isCharBoundary bytes i = true := by
  rcases h with rfl | ⟨j, byte, rfl, hbyte, hlt⟩
  · rfl
  · cases hnext : bytes[j + 1]? with
    | some next => exact isCharBoundary_of_some hnext (hascii j byte next hbyte hlt hnext)
    | none =>
      have hend : j + 1 = bytes.length := by
        have hlow := List.getElem?_eq_none_iff.mp hnext
        obtain ⟨hhigh, _⟩ := List.getElem?_eq_some_iff.mp hbyte
        omega
      rw [hend, Redaction.isCharBoundary]
      simp

theorem textSlice_eq {start stop : Nat} (hle : start ≤ stop)
    (hstart : isCharBoundary bytes start = true) (hstop : isCharBoundary bytes stop = true) :
    textSlice bytes start stop = some ((bytes.drop start).take (stop - start)) := by
  rw [textSlice, if_pos]
  simp [hle, hstart, hstop]

theorem byteSlice_eq {start stop : Nat} (hle : start ≤ stop) (hstop : stop ≤ bytes.length) :
    byteSlice bytes start stop = some ((bytes.drop start).take (stop - start)) := by
  rw [byteSlice, if_pos]
  simp [hle, hstop]

theorem SeparatorAt.afterAscii {n : Nat} (h : SeparatorAt bytes n) : AfterAscii bytes (n + 3) :=
  Or.inr ⟨n + 2, slash, rfl, h.2.2, by decide⟩

theorem isUrlSchemeByte_lt {byte : Nat} (h : isUrlSchemeByte byte = true) : byte < 0x80 := by
  rw [isUrlSchemeByte, isAsciiAlphabetic, isAsciiDigit] at h
  simp only [List.any_cons, List.any_nil, Bool.or_eq_true, Bool.and_eq_true, decide_eq_true_eq,
    beq_iff_eq, Bool.or_false] at h
  have hplus : '+'.toNat = 43 := rfl
  have hminus : '-'.toNat = 45 := rfl
  have hdot : '.'.toNat = 46 := rfl
  omega

theorem textSlice_scheme {n : Nat} (h : SeparatorAt bytes n) :
    textSlice bytes (findSchemeStart bytes n) n =
      some ((bytes.drop (findSchemeStart bytes n)).take (n - findSchemeStart bytes n)) := by
  obtain ⟨hle, hall, -⟩ := @findSchemeStart_spec bytes n
  have hcolon : isCharBoundary bytes n = true := isCharBoundary_of_some h.1 (by decide)
  refine textSlice_eq hle ?_ hcolon
  by_cases hlt : findSchemeStart bytes n < n
  · obtain ⟨byte, hbyte, hscheme⟩ := holdsAt_eq_true.mp (hall _ hlt (Nat.le_refl _))
    exact isCharBoundary_of_some hbyte (Or.inl (isUrlSchemeByte_lt hscheme))
  · rw [show findSchemeStart bytes n = n by omega]
    exact hcolon

theorem isValidUrlScheme_iff {n : Nat} (hn : n ≤ bytes.length) :
    isValidUrlScheme ((bytes.drop (findSchemeStart bytes n)).take (n - findSchemeStart bytes n)) =
      true ↔ WholeScheme bytes n := by
  obtain ⟨hle, hall, hbefore⟩ := @findSchemeStart_spec bytes n
  generalize findSchemeStart bytes n = s at hle hall hbefore
  have hsame : ∀ t < n, (∀ i < n, t ≤ i → holdsAt bytes isUrlSchemeByte i = true) →
      (t = 0 ∨ holdsAt bytes isUrlSchemeByte (t - 1) = false) → t = s := by
    intro t ht hallT hbeforeT
    rcases Nat.lt_trichotomy t s with hlt | heq | hlt
    · have hinside := hallT (s - 1) (by omega) (by omega)
      rcases hbefore with hzero | hbefore
      · omega
      · rw [hinside] at hbefore
        cases hbefore
    · exact heq
    · have hinside := hall (t - 1) (by omega) (by omega)
      rcases hbeforeT with hzero | hbeforeT
      · omega
      · rw [hinside] at hbeforeT
        cases hbeforeT
  by_cases hlt : s < n
  · have hfirst : bytes[s]? = some bytes[s] := List.getElem?_eq_getElem (by omega)
    have hslice : (bytes.drop s).take (n - s) =
        bytes[s] :: (bytes.drop (s + 1)).take (n - s - 1) := by
      rw [List.drop_eq_getElem_cons (by omega), show n - s = n - s - 1 + 1 by omega,
        List.take_succ_cons, Nat.add_sub_cancel]
    have hrest : ((bytes.drop (s + 1)).take (n - s - 1)).all isUrlSchemeByte = true := by
      rw [List.all_eq_true]
      intro byte hbyte
      obtain ⟨k, hk⟩ := List.mem_iff_getElem?.mp hbyte
      have hbound : k < n - s - 1 := by
        obtain ⟨hlen, _⟩ := List.getElem?_eq_some_iff.mp hk
        rw [List.length_take] at hlen
        omega
      rw [List.getElem?_take_of_lt hbound, List.getElem?_drop] at hk
      have hscheme := hall (s + 1 + k) (by omega) (by omega)
      rwa [holdsAt_of_some hk] at hscheme
    rw [hslice, isValidUrlScheme, hrest, Bool.and_true,
      ← @holdsAt_of_some bytes isAsciiAlphabetic s _ hfirst]
    constructor
    · exact fun hletter => ⟨s, hlt, hletter, hall, hbefore⟩
    · rintro ⟨t, ht, hletter, hallT, hbeforeT⟩
      rwa [← hsame t ht hallT hbeforeT]
  · rw [show n - s = 0 by omega, List.take_zero]
    constructor
    · intro h
      cases h
    · rintro ⟨t, ht, hletter, hallT, hbeforeT⟩
      have heq := hsame t ht hallT hbeforeT
      omega

theorem findUrlAuthorityEnd_spec {n : Nat} (h : SeparatorAt bytes n) :
    ∃ stop, findUrlAuthorityEnd bytes (n + 3) = some stop ∧ n + 3 ≤ stop ∧ stop ≤ bytes.length ∧
      ∀ i, InAuthority bytes n i ↔ n + 3 ≤ i ∧ i < stop := by
  have hlen := h.lt
  rw [findUrlAuthorityEnd, byteSlice_eq hlen (Nat.le_refl _), Option.map_some]
  rcases @findIdx_cases bytes isUrlAuthorityTerminator (n + 3) bytes.length (Nat.le_refl _) with
    ⟨hnone, hall⟩ | ⟨stop, hsome, hlow, hhigh, hterm, hfirst⟩
  · rw [hnone]
    refine ⟨_, rfl, hlen, Nat.le_refl _, fun i => ⟨fun hin => ⟨hin.1, hin.2.1⟩, ?_⟩⟩
    rintro ⟨hi, hlt⟩
    rw [Option.getD_none] at hlt
    exact ⟨hi, hlt, fun j hj hlow => hall j hlow (by omega)⟩
  · rw [hsome]
    refine ⟨_, rfl, hlow, Nat.le_of_lt hhigh, fun i => ?_⟩
    rw [Option.getD_some]
    constructor
    · rintro ⟨hi, hlt, hplain⟩
      refine ⟨hi, ?_⟩
      by_contra hge
      have hnot := hplain stop (by omega) hlow
      rw [hterm] at hnot
      cases hnot
    · rintro ⟨hi, hlt⟩
      exact ⟨hi, by omega, fun j hj hlowj => hfirst j hlowj (by omega)⟩

end Slices

section Steps

variable {bytes : List Nat}

theorem holdsAt_atSign {i : Nat} :
    holdsAt bytes (· == atSign) i = true ↔ bytes[i]? = some atSign := by
  rw [holdsAt_eq_true]
  constructor
  · rintro ⟨byte, hbyte, heq⟩
    rw [hbyte, beq_iff_eq.mp heq]
  · exact fun h => ⟨atSign, h, by decide⟩

/-- What one turn does at a separator: it passes a text that is no scheme, it passes an authority
without user information, or it hides the user information up to its first at sign. -/
inductive StepResult (bytes : List Nat) (scan : Scan) (n : Nat) : Option Scan → Prop where
  | noScheme (h : ¬ WholeScheme bytes n) :
      StepResult bytes scan n (some { scan with searchFrom := n + 3 })
  | nothingHidden (stop : Nat) (h : WholeScheme bytes n)
      (hin : ∀ i, InAuthority bytes n i ↔ n + 3 ≤ i ∧ i < stop) (hlow : n + 3 ≤ stop)
      (hhigh : stop ≤ bytes.length) (hfirst : ∀ i, ¬ InFirst bytes n i) :
      StepResult bytes scan n (some { scan with searchFrom := stop })
  | hides (stop userinfoEnd : Nat) (h : WholeScheme bytes n)
      (hin : ∀ i, InAuthority bytes n i ↔ n + 3 ≤ i ∧ i < stop) (hhigh : stop ≤ bytes.length)
      (hlow : n + 3 < userinfoEnd) (hend : userinfoEnd < stop)
      (hat : bytes[userinfoEnd]? = some atSign)
      (hfirst : ∀ i, InFirst bytes n i ↔ n + 3 ≤ i ∧ i < userinfoEnd) :
      StepResult bytes scan n ((textSlice bytes scan.lastCopied (n + 3)).map fun copied =>
        { searchFrom := stop, lastCopied := userinfoEnd + 1
          redacted := scan.redacted ++ copied ++ (redactedMark ++ [atSign]), changed := true })

theorem scanStep_result (scan : Scan) {n : Nat} (h : SeparatorAt bytes n) :
    StepResult bytes scan n (scanStep bytes scan n) := by
  have hlen := h.lt
  obtain ⟨stop, hstop, hlow, hhigh, hin⟩ := findUrlAuthorityEnd_spec h
  rw [scanStep, textSlice_scheme h]
  simp only [Option.bind_eq_bind, Option.bind_some]
  by_cases hscheme : WholeScheme bytes n
  · have hvalid := (isValidUrlScheme_iff (by omega)).mpr hscheme
    rw [hvalid]
    simp only [Bool.not_true, Bool.false_eq_true, if_false, hstop, Option.bind_some,
      byteSlice_eq hlow hhigh]
    rcases @findIdx_cases bytes (· == atSign) (n + 3) stop hhigh with
      ⟨hnone, hall⟩ | ⟨place, hsome, hplace, hbefore, hat, hfirst⟩
    · rw [hnone]
      refine StepResult.nothingHidden stop hscheme hin hlow hhigh ?_
      rintro i ⟨⟨-, j, -, -, hj, hjat⟩, -⟩
      obtain ⟨hjlow, hjhigh⟩ := (hin j).mp hj
      have hno := hall j hjlow hjhigh
      rw [holdsAt_atSign.mpr hjat] at hno
      cases hno
    · rw [hsome]
      rw [holdsAt_atSign] at hat
      have hno : ∀ j, n + 3 ≤ j → j < place → bytes[j]? ≠ some atSign := by
        intro j hj hlt heq
        have hfalse := hfirst j hj hlt
        rw [holdsAt_atSign.mpr heq] at hfalse
        cases hfalse
      have hfirstIff : ∀ i, InFirst bytes n i ↔ n + 3 ≤ i ∧ i < place := by
        intro i
        constructor
        · rintro ⟨⟨hi, -⟩, hclear⟩
          refine ⟨hi, ?_⟩
          by_contra hge
          exact hclear place (by omega) hplace hat
        · rintro ⟨hi, hlt⟩
          exact ⟨⟨hi, place, by omega, hlt, (hin place).mpr ⟨hplace, hbefore⟩, hat⟩,
            fun j hj hjlow => hno j hjlow (by omega)⟩
      by_cases hempty : place = n + 3
      · simp only [if_pos hempty]
        refine StepResult.nothingHidden stop hscheme hin hlow hhigh ?_
        intro i hi
        have hrange := (hfirstIff i).mp hi
        omega
      · simp only [if_neg hempty]
        have hresult := @StepResult.hides bytes scan n stop place hscheme hin hhigh (by omega)
          hbefore hat hfirstIff
        cases hslice : textSlice bytes scan.lastCopied (n + 3) with
        | none =>
          rw [hslice] at hresult
          exact hresult
        | some copied =>
          rw [hslice] at hresult
          exact hresult
  · have hvalid : isValidUrlScheme ((bytes.drop (findSchemeStart bytes n)).take
        (n - findSchemeStart bytes n)) = false := by
      rw [Bool.eq_false_iff]
      exact fun hvalid => hscheme ((isValidUrlScheme_iff (by omega)).mp hvalid)
    rw [hvalid]
    exact StepResult.noScheme hscheme

end Steps

section Runs

variable {bytes : List Nat}

/-- What holds whenever the scan looks for the next separator. -/
structure Progress (bytes : List Nat) (scan : Scan) : Prop where
  copied_le : scan.lastCopied ≤ scan.searchFrom
  search_le : scan.searchFrom ≤ bytes.length
  read_done : ∀ m < scan.searchFrom, Read bytes m → ∀ i, InAuthority bytes m i →
    i < scan.searchFrom
  plain : ∀ i, scan.lastCopied ≤ i → i < scan.searchFrom → readPlaces bytes i = false
  redacted_eq : scan.redacted =
    writtenFrom (readPlaces bytes) redactedMark bytes 0 scan.lastCopied
  unchanged : scan.changed = false → scan.lastCopied = 0
  hid : scan.changed = true → ∃ i, readPlaces bytes i = true
  boundary : AfterAscii bytes scan.lastCopied

theorem progress_initial (bytes : List Nat) : Progress bytes {} where
  copied_le := Nat.le_refl 0
  search_le := Nat.zero_le _
  read_done := fun m hm => absurd hm (Nat.not_lt_zero m)
  plain := fun i _ hi => absurd hi (Nat.not_lt_zero i)
  redacted_eq := rfl
  unchanged := fun _ => rfl
  hid := fun hchanged => by cases hchanged
  boundary := Or.inl rfl

variable {scan : Scan} {n : Nat}

structure Next (bytes : List Nat) (scan : Scan) (n : Nat) : Prop where
  le : scan.searchFrom ≤ n
  separator : SeparatorAt bytes n
  first : ∀ m, scan.searchFrom ≤ m → m < n → ¬ SeparatorAt bytes m

theorem hidden_ahead (h : Progress bytes scan) (hnext : Next bytes scan n) {i : Nat}
    (hi : scan.searchFrom ≤ i) (hhidden : readPlaces bytes i = true) :
    ∃ m, n ≤ m ∧ m + 3 ≤ i ∧ Read bytes m ∧ InFirst bytes m i := by
  obtain ⟨m, hmi, hread, hfirst⟩ := readPlaces_iff.mp hhidden
  refine ⟨m, ?_, hfirst.inAuthority.1, hread, hfirst⟩
  by_contra hlt
  by_cases hm : m < scan.searchFrom
  · have hdone := h.read_done m hm hread i hfirst.inAuthority
    omega
  · exact hnext.first m (by omega) (by omega) hread.separatorAt

theorem read_of_wholeScheme (h : Progress bytes scan) (hnext : Next bytes scan n)
    (hscheme : WholeScheme bytes n) : Read bytes n := by
  rw [Read]
  refine ⟨hnext.separator, hscheme, ?_⟩
  intro m hm hin hread
  by_cases hlow : m < scan.searchFrom
  · have hdone := h.read_done m hlow hread n hin
    have hle := hnext.le
    omega
  · exact hnext.first m (by omega) hm hread.separatorAt

theorem read_in_authority (hread : Read bytes n) {stop : Nat}
    (hin : ∀ i, InAuthority bytes n i ↔ n + 3 ≤ i ∧ i < stop) {m : Nat} (hm : Read bytes m)
    (hlow : n < m) : stop ≤ m := by
  by_contra hlt
  have hapart := hread.separatorAt.apart hm.separatorAt hlow
  exact hread.not_in hm hlow ((hin m).mpr ⟨hapart, by omega⟩)

/-- Up to the end of an authority that is read, only its own user information is hidden. -/
theorem hidden_iff (h : Progress bytes scan) (hnext : Next bytes scan n) (hread : Read bytes n)
    {stop : Nat} (hin : ∀ i, InAuthority bytes n i ↔ n + 3 ≤ i ∧ i < stop) {i : Nat}
    (hlow : scan.searchFrom ≤ i) (hhigh : i < stop) :
    readPlaces bytes i = true ↔ InFirst bytes n i := by
  constructor
  · intro hhidden
    obtain ⟨m, hnm, hmi, hm, hfirst⟩ := hidden_ahead h hnext hlow hhidden
    rcases Nat.eq_or_lt_of_le hnm with rfl | hlt
    · exact hfirst
    · have hstop := read_in_authority hread hin hm hlt
      omega
  · intro hfirst
    have hstart := hfirst.inAuthority.1
    exact readPlaces_iff.mpr ⟨n, by omega, hread, hfirst⟩

theorem read_done_step (h : Progress bytes scan) (hnext : Next bytes scan n)
    (hread : Read bytes n) {stop : Nat} (hlow : n + 3 ≤ stop)
    (hin : ∀ i, InAuthority bytes n i ↔ n + 3 ≤ i ∧ i < stop) :
    ∀ m < stop, Read bytes m → ∀ i, InAuthority bytes m i → i < stop := by
  intro m hm hreadM i hi
  rcases Nat.lt_trichotomy m n with hlt | rfl | hlt
  · by_cases hdone : m < scan.searchFrom
    · have hbound := h.read_done m hdone hreadM i hi
      have hle := hnext.le
      omega
    · exact absurd hreadM.separatorAt (hnext.first m (by omega) hlt)
  · exact ((hin i).mp hi).2
  · have hstop := read_in_authority hread hin hreadM hlt
    omega

/-- Nothing is hidden from where the scan stands up to the authority it turns to. -/
theorem plain_before (h : Progress bytes scan) (hnext : Next bytes scan n) {i : Nat}
    (hlow : scan.lastCopied ≤ i) (hhigh : i < n + 3) : readPlaces bytes i = false := by
  by_cases hcopied : i < scan.searchFrom
  · exact h.plain i hlow hcopied
  · rw [Bool.eq_false_iff]
    intro hhidden
    obtain ⟨m, hnm, hmi, -⟩ := hidden_ahead h hnext (by omega) hhidden
    omega

theorem progress_noScheme (h : Progress bytes scan) (hnext : Next bytes scan n)
    (hscheme : ¬ WholeScheme bytes n) : Progress bytes { scan with searchFrom := n + 3 } where
  copied_le := by
    have hle := hnext.le
    have hcopied := h.copied_le
    simp only
    omega
  search_le := hnext.separator.lt
  read_done := by
    intro m hm hread i hi
    by_cases hdone : m < scan.searchFrom
    · have hbound := h.read_done m hdone hread i hi
      have hle := hnext.le
      simp only
      omega
    · rcases Nat.lt_trichotomy m n with hlt | rfl | hlt
      · exact absurd hread.separatorAt (hnext.first m (by omega) hlt)
      · rw [Read] at hread
        exact absurd hread.2.1 hscheme
      · have hapart := hnext.separator.apart hread.separatorAt hlt
        simp only at hm
        omega
  plain := fun i hlow hhigh => plain_before h hnext hlow hhigh
  redacted_eq := h.redacted_eq
  unchanged := h.unchanged
  hid := h.hid
  boundary := h.boundary

theorem progress_nothingHidden (h : Progress bytes scan) (hnext : Next bytes scan n)
    (hscheme : WholeScheme bytes n) {stop : Nat}
    (hin : ∀ i, InAuthority bytes n i ↔ n + 3 ≤ i ∧ i < stop) (hlow : n + 3 ≤ stop)
    (hhigh : stop ≤ bytes.length) (hfirst : ∀ i, ¬ InFirst bytes n i) :
    Progress bytes { scan with searchFrom := stop } where
  copied_le := by
    have hle := hnext.le
    have hcopied := h.copied_le
    simp only
    omega
  search_le := hhigh
  read_done := read_done_step h hnext (read_of_wholeScheme h hnext hscheme) hlow hin
  plain := by
    intro i hcopied hstop
    by_cases hdone : i < scan.searchFrom
    · exact h.plain i hcopied hdone
    · rw [Bool.eq_false_iff]
      intro hhidden
      have hread := read_of_wholeScheme h hnext hscheme
      exact hfirst i ((hidden_iff h hnext hread hin (by omega) hstop).mp hhidden)
  redacted_eq := h.redacted_eq
  unchanged := h.unchanged
  hid := h.hid
  boundary := h.boundary

theorem progress_hides (h : Progress bytes scan) (hnext : Next bytes scan n)
    (hscheme : WholeScheme bytes n) {stop userinfoEnd : Nat}
    (hin : ∀ i, InAuthority bytes n i ↔ n + 3 ≤ i ∧ i < stop) (hhigh : stop ≤ bytes.length)
    (hlow : n + 3 < userinfoEnd) (hend : userinfoEnd < stop)
    (hat : bytes[userinfoEnd]? = some atSign)
    (hfirst : ∀ i, InFirst bytes n i ↔ n + 3 ≤ i ∧ i < userinfoEnd) :
    Progress bytes
      { searchFrom := stop, lastCopied := userinfoEnd + 1
        redacted := scan.redacted ++ (bytes.drop scan.lastCopied).take (n + 3 - scan.lastCopied) ++
          (redactedMark ++ [atSign])
        changed := true } where
  copied_le := hend
  search_le := hhigh
  read_done := by
    have hstop : n + 3 ≤ stop := by omega
    exact read_done_step h hnext (read_of_wholeScheme h hnext hscheme) hstop hin
  plain := by
    intro i hcopied hstop
    simp only at hcopied hstop
    have hle := hnext.le
    have hread := read_of_wholeScheme h hnext hscheme
    rw [Bool.eq_false_iff]
    intro hhidden
    have hown := (hfirst i).mp ((hidden_iff h hnext hread hin (by omega) hstop).mp hhidden)
    omega
  redacted_eq := by
    have hle := hnext.le
    have hcopied := h.copied_le
    have hread := read_of_wholeScheme h hnext hscheme
    have hplaces : userinfoEnd + 1 =
        scan.lastCopied + ((n + 3 - scan.lastCopied) + ((userinfoEnd - (n + 4) + 1) + 1)) := by
      omega
    have hcopy : writtenFrom (readPlaces bytes) redactedMark bytes scan.lastCopied
        (n + 3 - scan.lastCopied) = (bytes.drop scan.lastCopied).take (n + 3 - scan.lastCopied) :=
      writtenFrom_visible (by omega) fun i hi hlt => plain_before h hnext hi (by omega)
    have hrun : writtenFrom (readPlaces bytes) redactedMark bytes (n + 3)
        (userinfoEnd - (n + 4) + 1) = redactedMark := by
      refine writtenFrom_run (Or.inr (plain_before h hnext (by omega) (by omega))) ?_
      intro i hi hlt
      exact (hidden_iff h hnext hread hin (by omega) (by omega)).mpr
        ((hfirst i).mpr ⟨hi, by omega⟩)
    have hlast : writtenFrom (readPlaces bytes) redactedMark bytes userinfoEnd 1 = [atSign] := by
      have hplain : readPlaces bytes userinfoEnd = false := by
        rw [Bool.eq_false_iff]
        intro hhidden
        have hown := (hfirst userinfoEnd).mp
          ((hidden_iff h hnext hread hin (by omega) hend).mp hhidden)
        omega
      rw [writtenFrom, List.range'_one, List.flatMap_singleton, written_visible hplain, hat]
      rfl
    simp only
    rw [hplaces, writtenFrom_add, Nat.zero_add, writtenFrom_add, hcopy,
      show scan.lastCopied + (n + 3 - scan.lastCopied) = n + 3 by omega, writtenFrom_add, hrun,
      show n + 3 + (userinfoEnd - (n + 4) + 1) = userinfoEnd by omega, hlast, ← h.redacted_eq]
    simp only [List.append_assoc]
  unchanged := fun hchanged => by cases hchanged
  hid := by
    have hread := read_of_wholeScheme h hnext hscheme
    have hown : InFirst bytes n (n + 3) := (hfirst _).mpr ⟨Nat.le_refl _, hlow⟩
    exact fun _ => ⟨n + 3, readPlaces_iff.mpr ⟨n, by omega, hread, hown⟩⟩
  boundary := Or.inr ⟨userinfoEnd, atSign, rfl, hat, by decide⟩

/-- A turn leads from progress to progress, further on; it panics only where it would copy in a
line whose bytes are no text. -/
theorem progress_step (h : Progress bytes scan) (hnext : Next bytes scan n)
    (hsafe : FollowsAscii bytes ∨ ∀ i, readPlaces bytes i = false) :
    ∃ later, scanStep bytes scan n = some later ∧ Progress bytes later ∧
      scan.searchFrom < later.searchFrom := by
  have hle := hnext.le
  have hresult := scanStep_result scan hnext.separator
  generalize scanStep bytes scan n = result at hresult
  cases hresult with
  | noScheme hscheme =>
    refine ⟨_, rfl, progress_noScheme h hnext hscheme, ?_⟩
    simp only
    omega
  | nothingHidden stop hscheme hin hlow hhigh hfirst =>
    refine ⟨_, rfl, progress_nothingHidden h hnext hscheme hin hlow hhigh hfirst, ?_⟩
    simp only
    omega
  | hides stop userinfoEnd hscheme hin hhigh hlow hend hat hfirst =>
    have hread := read_of_wholeScheme h hnext hscheme
    rcases hsafe with hascii | hnone
    · have hcopied := h.copied_le
      rw [textSlice_eq (by omega) (h.boundary.isCharBoundary hascii)
        (hnext.separator.afterAscii.isCharBoundary hascii)]
      refine ⟨_, rfl, progress_hides h hnext hscheme hin hhigh hlow hend hat hfirst, ?_⟩
      simp only
      omega
    · have hhidden : readPlaces bytes (n + 3) = true :=
        readPlaces_iff.mpr ⟨n, by omega, hread, (hfirst _).mpr ⟨Nat.le_refl _, hlow⟩⟩
      rw [hnone] at hhidden
      cases hhidden

theorem next_of_found {start : Nat} (hstart : scan.searchFrom = start)
    (h : findSchemeSeparator bytes start = some n) : Next bytes scan n := by
  obtain ⟨hle, hsep, hfirst⟩ := findSchemeSeparator_some h
  exact ⟨hstart ▸ hle, hsep, fun m hm => hfirst m (hstart ▸ hm)⟩

theorem scanLoop_ends (hsafe : FollowsAscii bytes ∨ ∀ i, readPlaces bytes i = false) (turns : Nat)
    (h : Progress bytes scan) (hturns : bytes.length < turns + scan.searchFrom) :
    ∃ last, scanLoop bytes turns scan = some last ∧ Progress bytes last ∧
      ∀ m, last.searchFrom ≤ m → ¬ SeparatorAt bytes m := by
  induction turns generalizing scan with
  | zero =>
    have hle := h.search_le
    omega
  | succ turns ih =>
    rw [scanLoop]
    cases hfound : findSchemeSeparator bytes scan.searchFrom with
    | none =>
      exact ⟨scan, rfl, h, fun m hm => findSchemeSeparator_none h.search_le hfound hm⟩
    | some n =>
      obtain ⟨later, hstep, hprogress, hmoved⟩ := progress_step h (next_of_found rfl hfound) hsafe
      simp only [hstep, Option.bind_some]
      exact ih hprogress (by omega)

theorem plain_after (h : Progress bytes scan)
    (hend : ∀ m, scan.searchFrom ≤ m → ¬ SeparatorAt bytes m) {i : Nat}
    (hi : scan.lastCopied ≤ i) : readPlaces bytes i = false := by
  by_cases hdone : i < scan.searchFrom
  · exact h.plain i hi hdone
  · rw [Bool.eq_false_iff]
    intro hhidden
    obtain ⟨m, hmi, hread, hfirst⟩ := readPlaces_iff.mp hhidden
    by_cases hm : m < scan.searchFrom
    · have hbound := h.read_done m hm hread i hfirst.inAuthority
      omega
    · exact hend m (by omega) hread.separatorAt

/-- The output of the redaction: what the scan reads is hidden, everything else is kept. -/
theorem redact_eq (hsafe : FollowsAscii bytes ∨ ∀ i, readPlaces bytes i = false) :
    redactUrlUserinfo bytes = some (masked (readPlaces bytes) redactedMark bytes) := by
  obtain ⟨last, hloop, h, hend⟩ := scanLoop_ends hsafe (bytes.length + 1) (progress_initial bytes)
    (by simp only; omega)
  have hcopied : last.lastCopied ≤ bytes.length := Nat.le_trans h.copied_le h.search_le
  have hrest : writtenFrom (readPlaces bytes) redactedMark bytes last.lastCopied
      (bytes.length - last.lastCopied) = bytes.drop last.lastCopied := by
    rw [writtenFrom_visible (by omega) fun i hi _ => plain_after h hend hi]
    exact List.take_of_length_le (Nat.le_of_eq List.length_drop)
  have hmasked : masked (readPlaces bytes) redactedMark bytes =
      last.redacted ++ bytes.drop last.lastCopied := by
    rw [masked, show bytes.length = last.lastCopied + (bytes.length - last.lastCopied) by omega,
      writtenFrom_add, ← h.redacted_eq, Nat.zero_add, hrest]
  rw [redactUrlUserinfo, hloop]
  simp only [Option.bind_eq_bind, Option.bind_some]
  cases hchanged : last.changed with
  | false =>
    have hzero := h.unchanged hchanged
    have hredacted := h.redacted_eq
    rw [hzero] at hmasked hredacted
    rw [hmasked, hredacted]
    rfl
  | true =>
    have hslice : textSlice bytes last.lastCopied bytes.length =
        some (bytes.drop last.lastCopied) := by
      have hstop : isCharBoundary bytes bytes.length = true := by
        rw [isCharBoundary]
        simp
      have hstart : isCharBoundary bytes last.lastCopied = true := by
        rcases hsafe with hascii | hnone
        · exact h.boundary.isCharBoundary hascii
        · obtain ⟨i, hi⟩ := h.hid hchanged
          rw [hnone] at hi
          cases hi
      rw [textSlice_eq hcopied hstart hstop, List.take_of_length_le (Nat.le_of_eq List.length_drop)]
    rw [if_pos rfl, hslice, hmasked]
    rfl

end Runs

end RedactionScan
