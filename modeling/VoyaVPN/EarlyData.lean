import VoyaVPN.SingboxLeaf

/-! The early data that a websocket path asks for: which parameter `parse_ws_early_data` takes out
of the path, and when the path that is left is the one without that parameter. -/
namespace EarlyData

open RustText ContextBuilder SingboxLeaf

def AsciiDigit (c : Char) : Prop := '0' ≤ c ∧ c ≤ '9'

instance : DecidablePred AsciiDigit := fun _ => by
  unfold AsciiDigit
  infer_instance

/-- What is known of `\d`: it matches the ASCII digits, and no sign or separator. -/
structure DecimalClass (digit : Char → Bool) : Prop where
  ascii : ∀ c, AsciiDigit c → digit c = true
  others : ∀ c ∈ ['?', '&', '+', '-'], digit c = false

/-- A place where `ed=` follows a separator: what stands before the separator, the separator, the
number, and what follows it. -/
structure Occurrence where
  before : List Char
  sep : Char
  digits : List Char
  after : List Char
  deriving DecidableEq

namespace Occurrence

variable (o : Occurrence)

def text : List Char := o.sep :: ("ed=".toList ++ o.digits)

/-- The path without the parameter: a first parameter leaves the `?` to the one after it, any other
takes its separator along. -/
def without : List Char :=
  match o.sep, o.after with
  | '?', _ :: rest => o.before ++ '?' :: rest
  | _, after => o.before ++ after

end Occurrence

structure EdText (digit : Char → Bool) (path : List Char) (o : Occurrence) : Prop where
  path_eq : path = o.before ++ (o.text ++ o.after)
  sep : isQueryMark o.sep = true
  digits : o.digits ≠ [] ∧ ∀ c ∈ o.digits, digit c = true
  after : ∀ c ∈ o.after.head?, digit c = false

structure Leftmost (digit : Char → Bool) (path : List Char) (o : Occurrence) : Prop where
  edText : EdText digit path o
  first : ∀ other, EdText digit path other → o.before.length ≤ other.before.length

/-- A whole parameter of the query named `ed` whose value is a decimal number in `i32`. The query
starts at the first `?`. -/
structure EdParameter (path : List Char) (o : Occurrence) (value : Int) : Prop where
  path_eq : path = o.before ++ (o.text ++ o.after)
  starts : o.sep = '?' ∧ '?' ∉ o.before ∨ o.sep = '&' ∧ '?' ∈ o.before
  ends : o.after = [] ∨ ∃ rest, o.after = '&' :: rest
  digits : ∀ c ∈ o.digits, AsciiDigit c
  value_eq : parseI32 (String.ofList o.digits) = some value

section Numbers

theorem digitValue_isSome {c : Char} : (digitValue c).isSome = true ↔ AsciiDigit c := by
  rw [digitValue, AsciiDigit]
  split
  · simp_all
  · simp_all

theorem parseDigits_ascii {cs : List Char} {acc n : Nat} (h : parseDigits acc cs = some n) :
    ∀ c ∈ cs, AsciiDigit c :=
  fun c hc => digitValue_isSome.mp (digitValue_of_parseDigits h c hc)

/-- A number that is read from digits of any script is written in ASCII digits. -/
theorem parseI32_ascii {digit : Char → Bool} (hdigit : DecimalClass digit) {cs : List Char}
    (hcs : ∀ c ∈ cs, digit c = true) {value : Int}
    (h : parseI32 (String.ofList cs) = some value) : cs ≠ [] ∧ ∀ c ∈ cs, AsciiDigit c := by
  obtain ⟨h, _⟩ := Option.filter_eq_some_iff.mp h
  rw [parseInteger, String.toList_ofList] at h
  have hsign : ∀ c ∈ cs, c ≠ '+' ∧ c ≠ '-' := by
    intro c hc
    have hmatched := hcs c hc
    constructor
    · rintro rfl
      rw [hdigit.others '+' (by simp)] at hmatched
      cases hmatched
    · rintro rfl
      rw [hdigit.others '-' (by simp)] at hmatched
      cases hmatched
  split at h
  · cases h
  · exact absurd rfl (hsign '+' List.mem_cons_self).1
  · exact absurd rfl (hsign '-' List.mem_cons_self).2
  · rename_i hnil _ _
    obtain ⟨n, hn, _⟩ := Option.map_eq_some_iff.mp h
    exact ⟨hnil, parseDigits_ascii hn⟩

end Numbers

section Searching

variable {digit : Char → Bool}

theorem edText_cons {c : Char} {cs : List Char} {o : Occurrence}
    (h : EdText digit (c :: cs) o) (hbefore : o.before ≠ []) :
    ∃ inner, EdText digit cs inner ∧ o = { inner with before := c :: inner.before } := by
  obtain ⟨first, before, hsplit⟩ := List.exists_cons_of_ne_nil hbefore
  obtain ⟨path_eq, sep, digits, after⟩ := h
  rw [hsplit, List.cons_append, List.cons.injEq] at path_eq
  refine ⟨{ o with before }, ⟨path_eq.2, sep, digits, after⟩, ?_⟩
  rw [path_eq.1, ← hsplit]

theorem EdText.cons {cs : List Char} {o : Occurrence} (h : EdText digit cs o) (c : Char) :
    EdText digit (c :: cs) { o with before := c :: o.before } :=
  ⟨by rw [h.path_eq]; rfl, h.sep, h.digits, h.after⟩

theorem takeWhile_digits {path : List Char} {o : Occurrence} (h : EdText digit path o) :
    (o.digits ++ o.after).takeWhile digit = o.digits := by
  rw [List.takeWhile_append_of_pos h.digits.2]
  have hafter : o.after.takeWhile digit = [] := by
    cases hsplit : o.after with
    | nil => rfl
    | cons c after =>
      have hhead := h.after c (by rw [hsplit]; rfl)
      exact List.takeWhile_cons_of_neg (by simp [hhead])
  rw [hafter, List.append_nil]

theorem findEd_cons (c : Char) (cs : List Char) :
    findEd digit (c :: cs) =
      if isQueryMark c = true ∧ cs.take 3 = "ed=".toList ∧ (cs.drop 3).takeWhile digit ≠ [] then
        some ([], (cs.drop 3).takeWhile digit, (cs.drop 3).dropWhile digit)
      else (findEd digit cs).map fun (before, digits, after) => (c :: before, digits, after) := by
  rw [findEd]
  simp only [Bool.and_eq_true, beq_iff_eq, Bool.not_eq_true', List.isEmpty_eq_false_iff, and_assoc]

theorem edText_head_iff {c : Char} {cs : List Char} :
    (∃ o, EdText digit (c :: cs) o ∧ o.before = []) ↔
      isQueryMark c = true ∧ cs.take 3 = "ed=".toList ∧ (cs.drop 3).takeWhile digit ≠ [] := by
  constructor
  · rintro ⟨⟨before, sep, digits, after⟩, ⟨path_eq, hsep, ⟨hnonempty, hdigits⟩, hafter⟩, hbefore⟩
    simp only at hbefore
    subst hbefore
    rw [Occurrence.text, List.nil_append, List.cons_append, List.cons.injEq] at path_eq
    obtain ⟨rfl, rfl⟩ := path_eq
    refine ⟨hsep, rfl, ?_⟩
    have hdrop : (("ed=".toList ++ digits) ++ after).drop 3 = digits ++ after := rfl
    rw [hdrop, List.takeWhile_append_of_pos hdigits]
    exact fun hempty => hnonempty (List.append_eq_nil_iff.mp hempty).1
  · rintro ⟨hsep, hname, hdigits⟩
    refine ⟨⟨[], c, (cs.drop 3).takeWhile digit, (cs.drop 3).dropWhile digit⟩,
      ⟨?_, hsep, ⟨hdigits, ?_⟩, ?_⟩, rfl⟩
    · rw [Occurrence.text, List.nil_append, List.cons_append, List.append_assoc,
        List.takeWhile_append_dropWhile, ← hname, List.take_append_drop]
    · exact fun other hother => List.mem_takeWhile_imp hother
    · intro other hother
      have hhead := List.head?_dropWhile_not digit (cs.drop 3)
      rw [Option.mem_def.mp hother] at hhead
      exact hhead

theorem findEd_spec (path : List Char) :
    match findEd digit path with
    | some (before, digits, after) =>
      ∃ o, Leftmost digit path o ∧ o.before = before ∧ o.digits = digits ∧ o.after = after
    | none => ∀ o, ¬ EdText digit path o := by
  induction path with
  | nil =>
    intro o h
    have hpath := h.path_eq
    rw [Occurrence.text, List.cons_append] at hpath
    exact List.append_ne_nil_of_right_ne_nil _ (List.cons_ne_nil _ _) hpath.symm
  | cons c cs ih =>
    rw [findEd_cons]
    by_cases hhead : isQueryMark c = true ∧ cs.take 3 = "ed=".toList ∧
        (cs.drop 3).takeWhile digit ≠ []
    · rw [if_pos hhead]
      obtain ⟨o, htext, hbefore⟩ := edText_head_iff.mpr hhead
      have hrest : cs.drop 3 = o.digits ++ o.after := by
        have hpath := htext.path_eq
        rw [hbefore, Occurrence.text, List.nil_append, List.cons_append, List.cons.injEq] at hpath
        rw [hpath.2]
        rfl
      have hdigits := takeWhile_digits htext
      refine ⟨o, ⟨htext, fun other _ => by rw [hbefore]; exact Nat.zero_le _⟩, hbefore, ?_, ?_⟩
      · rw [hrest, hdigits]
      · have hsplit : (o.digits ++ o.after).takeWhile digit ++
            (o.digits ++ o.after).dropWhile digit = o.digits ++ o.after :=
          List.takeWhile_append_dropWhile
        rw [hdigits, List.append_cancel_left_eq] at hsplit
        rw [hrest, hsplit]
    · rw [if_neg hhead]
      have hinner : ∀ o, EdText digit (c :: cs) o → o.before ≠ [] := fun o htext hbefore =>
        hhead (edText_head_iff.mp ⟨o, htext, hbefore⟩)
      cases hfind : findEd digit cs with
      | none =>
        rw [hfind] at ih
        intro o htext
        obtain ⟨inner, htext', _⟩ := edText_cons htext (hinner o htext)
        exact ih inner htext'
      | some found =>
        rw [hfind] at ih
        obtain ⟨o, ⟨htext, hfirst⟩, hbefore, hdigits, hafter⟩ := ih
        refine ⟨{ o with before := c :: o.before }, ⟨htext.cons c, fun other hother => ?_⟩, ?_,
          hdigits, hafter⟩
        · obtain ⟨inner, htext', rfl⟩ := edText_cons hother (hinner other hother)
          exact Nat.succ_le_succ (hfirst inner htext')
        · rw [← hbefore]

theorem EdText.unique {path : List Char} {first second : Occurrence}
    (h : EdText digit path first) (h' : EdText digit path second)
    (hplace : first.before.length = second.before.length) : first = second := by
  obtain ⟨before, sep, digits, after⟩ := first
  obtain ⟨before', sep', digits', after'⟩ := second
  have hpath := h.path_eq.symm.trans h'.path_eq
  obtain ⟨rfl, htext⟩ := List.append_inj hpath hplace
  rw [Occurrence.text, Occurrence.text, List.cons_append, List.cons_append, List.cons.injEq,
    List.append_assoc, List.append_assoc, List.append_cancel_left_eq] at htext
  obtain ⟨rfl, htext⟩ := htext
  have hnumber := congrArg (List.takeWhile digit) htext
  rw [takeWhile_digits h, takeWhile_digits h'] at hnumber
  cases hnumber
  rw [List.append_cancel_left_eq] at htext
  cases htext
  rfl

theorem Leftmost.unique {path : List Char} {first second : Occurrence}
    (h : Leftmost digit path first) (h' : Leftmost digit path second) : first = second :=
  h.edText.unique h'.edText
    (Nat.le_antisymm (h.first second h'.edText) (h'.first first h.edText))

end Searching

section Tidying

/-- `replace("?&", "?")`. -/
def squeeze : List Char → List Char
  | '?' :: '&' :: cs => '?' :: squeeze cs
  | c :: cs => c :: squeeze cs
  | [] => []

theorem replaceChars_eq_squeeze (cs : List Char) {fuel : Nat} (hfuel : cs.length ≤ fuel) :
    replaceChars ['?', '&'] ['?'] fuel cs = squeeze cs := by
  fun_induction squeeze cs generalizing fuel with
  | case1 cs ih =>
    obtain ⟨fuel, rfl⟩ := Nat.exists_eq_succ_of_ne_zero (by
      rintro rfl
      simp at hfuel : fuel ≠ 0)
    simp only [List.length_cons] at hfuel
    have hmatch : List.isPrefixOf ['?', '&'] ('?' :: '&' :: cs) = true := rfl
    rw [replaceChars, if_pos hmatch]
    change '?' :: replaceChars ['?', '&'] ['?'] fuel cs = _
    rw [ih (by omega)]
  | case2 c cs hother ih =>
    obtain ⟨fuel, rfl⟩ := Nat.exists_eq_succ_of_ne_zero (by
      rintro rfl
      simp at hfuel : fuel ≠ 0)
    simp only [List.length_cons] at hfuel
    rw [replaceChars, if_neg, ih (by omega)]
    intro hprefix
    obtain ⟨rest, hrest⟩ := List.isPrefixOf_iff_prefix.mp hprefix
    cases hrest
    exact hother rest rfl rfl
  | case3 =>
    cases fuel <;> rfl

theorem squeeze_length_le (cs : List Char) : (squeeze cs).length ≤ cs.length := by
  fun_induction squeeze cs with
  | case1 cs ih =>
    simp only [List.length_cons]
    omega
  | case2 c cs _ ih => exact Nat.succ_le_succ ih
  | case3 => exact le_refl _

theorem squeeze_eq_of_length {cs : List Char} (h : (squeeze cs).length = cs.length) :
    squeeze cs = cs := by
  fun_induction squeeze cs with
  | case1 cs _ =>
    have hshort := squeeze_length_le cs
    simp only [List.length_cons] at h
    omega
  | case2 c cs _ ih => rw [ih (Nat.succ.inj h)]
  | case3 => rfl

theorem squeeze_eq_self_iff (cs : List Char) : squeeze cs = cs ↔ ¬ ['?', '&'] <:+: cs := by
  fun_induction squeeze cs with
  | case1 cs _ =>
    constructor
    · intro h
      have hshort := squeeze_length_le cs
      have hlength := congrArg List.length h
      simp only [List.length_cons] at hlength
      omega
    · intro h
      exact absurd ⟨[], cs, rfl⟩ h
  | case2 c cs hother ih =>
    rw [List.cons.injEq, ih, List.infix_cons_iff, not_or]
    constructor
    · rintro ⟨_, hinner⟩
      refine ⟨?_, hinner⟩
      rintro ⟨rest, hrest⟩
      cases hrest
      exact hother rest rfl rfl
    · rintro ⟨_, hinner⟩
      exact ⟨rfl, hinner⟩
  | case3 => simp

theorem countP_squeeze (cs : List Char) :
    (squeeze cs).countP (fun c => decide (AsciiDigit c)) =
      cs.countP fun c => decide (AsciiDigit c) := by
  fun_induction squeeze cs with
  | case1 cs ih =>
    rw [List.countP_cons, List.countP_cons, List.countP_cons, ih, if_neg (by decide),
      if_neg (by decide)]
  | case2 c cs _ ih => rw [List.countP_cons, List.countP_cons, ih]
  | case3 => rfl

theorem squeeze_append {front : List Char} (hfront : '?' ∉ front) (cs : List Char) :
    squeeze (front ++ cs) = front ++ squeeze cs := by
  induction front with
  | nil => rfl
  | cons c front ih =>
    rw [List.mem_cons, not_or] at hfront
    rw [List.cons_append, squeeze, ih hfront.2, List.cons_append]
    rintro _ rfl
    exact absurd rfl hfront.1

/-- What is done to the text that is left after the match has been taken out. -/
def tidy (cs : List Char) : List Char :=
  if (squeeze cs).getLast? = some '?' then (squeeze cs).dropLast else squeeze cs

theorem tidy_eq_self_iff (cs : List Char) :
    tidy cs = cs ↔ ¬ ['?', '&'] <:+: cs ∧ cs.getLast? ≠ some '?' := by
  rw [← squeeze_eq_self_iff, tidy]
  have hsqueeze := squeeze_length_le cs
  split
  · rename_i hlast
    constructor
    · intro h
      have hlength := congrArg List.length h
      rw [List.length_dropLast] at hlength
      have hnonempty : squeeze cs ≠ [] := by
        intro hnil
        rw [hnil] at hlast
        cases hlast
      have hpos := List.length_pos_iff.mpr hnonempty
      omega
    · rintro ⟨hsame, hend⟩
      rw [hsame] at hlast
      exact absurd hlast hend
  · rename_i hlast
    constructor
    · intro hsame
      rw [hsame] at hlast
      exact ⟨hsame, hlast⟩
    · exact And.left

theorem tidy_eq_of_length {cs : List Char} (h : (tidy cs).length = cs.length) : tidy cs = cs := by
  have hsqueeze := squeeze_length_le cs
  rw [tidy] at h ⊢
  split at h
  · rename_i hlast
    have hnonempty : squeeze cs ≠ [] := by
      intro hnil
      rw [hnil] at hlast
      cases hlast
    have hpos := List.length_pos_iff.mpr hnonempty
    rw [List.length_dropLast] at h
    omega
  · rename_i hlast
    rw [if_neg hlast]
    exact squeeze_eq_of_length h

theorem countP_tidy (cs : List Char) :
    (tidy cs).countP (fun c => decide (AsciiDigit c)) =
      cs.countP fun c => decide (AsciiDigit c) := by
  rw [← countP_squeeze cs, tidy]
  split
  · rename_i hlast
    obtain ⟨front, hfront⟩ := List.getLast?_eq_some_iff.mp hlast
    rw [hfront, List.dropLast_concat, List.countP_append]
    rfl
  · rfl

theorem tidy_append {front : List Char} (hfront : '?' ∉ front) (rest : List Char) :
    ∃ other, tidy (front ++ '&' :: rest) = front ++ '&' :: other := by
  have hsqueeze : squeeze (front ++ '&' :: rest) = front ++ '&' :: squeeze rest := by
    rw [squeeze_append hfront]
    rfl
  rw [tidy, hsqueeze]
  split
  · rename_i hlast
    cases hrest : squeeze rest with
    | nil =>
      rw [hrest, List.getLast?_append] at hlast
      cases hlast
    | cons c cs =>
      refine ⟨(c :: cs).dropLast, ?_⟩
      rw [List.dropLast_append_of_ne_nil (List.cons_ne_nil _ _)]
      rfl
  · exact ⟨squeeze rest, rfl⟩

theorem endsWith_question (cs : List Char) :
    endsWith (String.ofList cs) "?" = true ↔ cs.getLast? = some '?' := by
  have htext : (String.ofList cs).toList = cs := String.toList_ofList
  rw [endsWith, List.isSuffixOf_iff_suffix, htext, List.getLast?_eq_some_iff]
  constructor
  · rintro ⟨front, hfront⟩
    exact ⟨front, hfront.symm⟩
  · rintro ⟨front, hfront⟩
    exact ⟨front, hfront.symm⟩

theorem replace_tidy (cs : List Char) :
    (if endsWith (replace (String.ofList cs) "?&" "?") "?" then
      String.ofList (replace (String.ofList cs) "?&" "?").toList.dropLast
    else replace (String.ofList cs) "?&" "?").toList = tidy cs := by
  have hreplace : replace (String.ofList cs) "?&" "?" = String.ofList (squeeze cs) := by
    have htext : (String.ofList cs).toList = cs := String.toList_ofList
    rw [replace, htext]
    exact congrArg String.ofList (replaceChars_eq_squeeze cs (le_refl _))
  rw [hreplace, tidy]
  by_cases hlast : (squeeze cs).getLast? = some '?'
  · rw [if_pos ((endsWith_question _).mpr hlast), if_pos hlast, String.toList_ofList,
      String.toList_ofList]
  · rw [if_neg (fun h => hlast ((endsWith_question _).mp h)), if_neg hlast, String.toList_ofList]

end Tidying

section Parameters

theorem digit_not_mark {c : Char} (h : AsciiDigit c) : c ≠ '?' ∧ c ≠ '&' := by
  constructor
  · rintro rfl
    exact absurd h (by decide)
  · rintro rfl
    exact absurd h (by decide)

theorem mark_not_mem {digits : List Char} (hdigits : ∀ c ∈ digits, AsciiDigit c) {mark : Char}
    (hmark : mark = '?' ∨ mark = '&') : mark ∉ "ed=".toList ++ digits := by
  rw [List.mem_append, not_or]
  constructor
  · rcases hmark with rfl | rfl <;> decide
  · intro hmem
    obtain ⟨hquestion, hand⟩ := digit_not_mark (hdigits mark hmem)
    rcases hmark with h | h
    · exact hquestion h
    · exact hand h

theorem countP_text {o : Occurrence} (hsep : isQueryMark o.sep = true)
    (hdigits : ∀ c ∈ o.digits, AsciiDigit c) :
    o.text.countP (fun c => decide (AsciiDigit c)) = o.digits.length := by
  have hmark : ¬ AsciiDigit o.sep := by
    intro h
    obtain ⟨hquestion, hand⟩ := digit_not_mark h
    simp [isQueryMark, hquestion, hand] at hsep
  have hall : o.digits.countP (fun c => decide (AsciiDigit c)) = o.digits.length :=
    List.countP_eq_length.mpr fun c hc => decide_eq_true (hdigits c hc)
  rw [Occurrence.text, List.countP_cons, if_neg (by simpa using hmark), List.countP_append, hall]
  exact Nat.zero_add _

variable {path : List Char} {o : Occurrence} {value : Int}

theorem EdParameter.sep (h : EdParameter path o value) : isQueryMark o.sep = true := by
  rcases h.starts with ⟨hsep, _⟩ | ⟨hsep, _⟩ <;> rw [hsep] <;> rfl

theorem EdParameter.edText {digit : Char → Bool} (hdigit : DecimalClass digit)
    (h : EdParameter path o value) : EdText digit path o := by
  refine ⟨h.path_eq, h.sep, ⟨?_, fun c hc => hdigit.ascii c (h.digits c hc)⟩, ?_⟩
  · intro hnil
    have hvalue := h.value_eq
    rw [hnil] at hvalue
    cases hvalue
  · intro c hc
    rcases h.ends with hnil | ⟨rest, hrest⟩
    · rw [hnil] at hc
      cases hc
    · rw [hrest] at hc
      cases hc
      exact hdigit.others '&' (by simp)

structure First (path : List Char) (o : Occurrence) (value : Int) : Prop where
  parameter : EdParameter path o value
  first : ∀ other value', EdParameter path other value' → o.before.length ≤ other.before.length

theorem EdParameter.exists_first (h : EdParameter path o value) :
    ∃ first value', First path first value' := by
  classical
  have hsome : ∃ length, ∃ o value, EdParameter path o value ∧ o.before.length = length :=
    ⟨_, o, value, h, rfl⟩
  obtain ⟨first, value', hfirst, hlength⟩ := Nat.find_spec hsome
  refine ⟨first, value', hfirst, fun other value'' hother => ?_⟩
  rw [hlength]
  exact Nat.find_min' hsome ⟨other, value'', hother, rfl⟩

theorem EdParameter.unique {other : Occurrence} {value' : Int} (h : EdParameter path o value)
    (h' : EdParameter path other value') (hplace : o.before.length = other.before.length) :
    o = other ∧ value = value' := by
  have hascii : DecimalClass fun c => decide (AsciiDigit c) := by
    constructor
    · exact fun c hc => decide_eq_true hc
    · simp only [List.forall_mem_cons, List.not_mem_nil, false_imp_iff, implies_true, and_true]
      exact ⟨by decide, by decide, by decide, by decide⟩
  have hsame := (h.edText hascii).unique (h'.edText hascii) hplace
  refine ⟨hsame, ?_⟩
  have hvalue := h.value_eq
  rw [hsame, h'.value_eq] at hvalue
  cases hvalue
  rfl

/-- Taking the parameter out leaves the path without it when it is the only one, or when it is not
the first one and there is nothing else to tidy up. -/
theorem tidy_without_iff (h : EdParameter path o value) :
    tidy (o.before ++ o.after) = o.without ↔
      o.sep = '?' ∧ o.after = [] ∨
        o.sep = '&' ∧ ¬ ['?', '&'] <:+: o.before ++ o.after ∧
          (o.before ++ o.after).getLast? ≠ some '?' := by
  rcases h.starts with ⟨hsep, hbefore⟩ | ⟨hsep, _⟩
  · rcases h.ends with hafter | ⟨rest, hafter⟩
    · have hwithout : o.without = o.before := by
        rw [Occurrence.without, hsep, hafter]
        exact List.append_nil _
      have htidy : tidy o.before = o.before := by
        refine (tidy_eq_self_iff _).mpr ⟨?_, ?_⟩
        · rintro ⟨front, back, hinfix⟩
          apply hbefore
          rw [← hinfix]
          simp
        · intro hlast
          exact hbefore (List.mem_of_getLast? hlast)
      constructor
      · intro _
        exact Or.inl ⟨hsep, hafter⟩
      · intro _
        rw [hafter, List.append_nil, htidy, hwithout]
    · have hwithout : o.without = o.before ++ '?' :: rest := by
        rw [Occurrence.without, hsep, hafter]
        rfl
      constructor
      · intro hsame
        obtain ⟨other, hother⟩ := tidy_append hbefore rest
        rw [hafter, hother, hwithout, List.append_cancel_left_eq] at hsame
        cases hsame
      · rintro (⟨_, hnil⟩ | ⟨hand, _⟩)
        · rw [hafter] at hnil
          cases hnil
        · rw [hsep] at hand
          cases hand
  · have hwithout : o.without = o.before ++ o.after := by
      rw [Occurrence.without, hsep]
      rfl
    rw [hwithout, tidy_eq_self_iff]
    constructor
    · exact fun hclean => Or.inr ⟨hsep, hclean⟩
    · rintro (⟨hquestion, _⟩ | ⟨_, hclean⟩)
      · rw [hsep] at hquestion
        cases hquestion
      · exact hclean

end Parameters

section Shifting

/-- A text that is moved past a word by one step of the word consists of that word's letters. -/
theorem shift_eq {sep sep' : Char} {rest rest' : List Char} (hrest : sep' ∉ rest) (word : List Char)
    (h : (sep :: rest) ++ word = word ++ (sep' :: rest')) :
    sep :: rest = sep' :: rest' ∧ ∀ c ∈ word, c ∈ sep :: rest := by
  induction hlength : word.length using Nat.strongRecOn generalizing word with
  | ind n ih =>
    rcases List.append_eq_append_iff.mp h with ⟨tail, hword, htail⟩ | ⟨tail, hrest', htail⟩
    · have hshorter : tail.length < n := by
        rw [← hlength, hword, List.length_append, List.length_cons]
        omega
      rw [hword] at htail
      obtain ⟨hsame, hletters⟩ := ih tail.length hshorter tail htail rfl
      refine ⟨hsame, fun c hc => ?_⟩
      rw [hword, List.mem_append] at hc
      rcases hc with hc | hc
      · exact hc
      · exact hletters c hc
    · cases word with
      | nil =>
        rw [List.nil_append] at hrest'
        rw [List.append_nil] at htail
        exact ⟨hrest'.trans htail.symm, fun c hc => absurd hc List.not_mem_nil⟩
      | cons c word =>
        cases tail with
        | nil =>
          rw [List.append_nil] at hrest'
          rw [List.nil_append] at htail
          refine ⟨hrest'.trans htail.symm, fun other hother => ?_⟩
          rw [hrest']
          exact hother
        | cons d tail =>
          rw [List.cons_append, List.cons.injEq] at hrest' htail
          refine absurd ?_ hrest
          rw [hrest'.2, htail.1]
          exact List.mem_append_right _ List.mem_cons_self

end Shifting

section Kept

variable {digit : Char → Bool} {path : List Char}

/-- The text taken out of a path to leave it without a parameter, and where it stood. -/
theorem without_split {o : Occurrence} {value : Int} (h : EdParameter path o value) :
    ∃ front chunk back, path = front ++ (chunk ++ back) ∧ o.without = front ++ back ∧
      chunk.length = o.text.length ∧
      chunk.countP (fun c => decide (AsciiDigit c)) = o.digits.length ∧
      o.before.length ≤ front.length ∧
      (front = o.before ∧ chunk = o.text ∨
        (∃ init, front = init ++ ['?']) ∧ ∃ init, chunk = init ++ ['&']) := by
  have hcount := countP_text h.sep h.digits
  rcases h.starts with ⟨hsep, _⟩ | ⟨hsep, _⟩
  · rcases h.ends with hafter | ⟨rest, hafter⟩
    · refine ⟨o.before, o.text, o.after, h.path_eq, ?_, rfl, hcount, le_refl _,
        Or.inl ⟨rfl, rfl⟩⟩
      rw [Occurrence.without, hsep, hafter]
      rfl
    · refine ⟨o.before ++ ['?'], "ed=".toList ++ o.digits ++ ['&'], rest, ?_, ?_, ?_, ?_, ?_,
        Or.inr ⟨⟨o.before, rfl⟩, _, rfl⟩⟩
      · rw [h.path_eq, Occurrence.text, hsep, hafter]
        simp
      · rw [Occurrence.without, hsep, hafter, List.append_assoc]
        rfl
      · rw [Occurrence.text]
        simp
      · rw [Occurrence.text, List.countP_cons, if_neg (by rw [hsep]; decide)] at hcount
        rw [List.countP_append, ← hcount]
        rfl
      · rw [List.length_append]
        exact Nat.le_add_right _ _
  · refine ⟨o.before, o.text, o.after, h.path_eq, ?_, rfl, hcount, le_refl _, Or.inl ⟨rfl, rfl⟩⟩
    rw [Occurrence.without, hsep]
    rfl

/-- Where the path that is left is the one without some parameter, the match was a parameter. -/
theorem match_is_parameter (hdigit : DecimalClass digit) {o other : Occurrence} {value value' : Int}
    (hleft : Leftmost digit path o) (hvalue : parseI32 (String.ofList o.digits) = some value)
    (hother : EdParameter path other value')
    (hresult : tidy (o.before ++ o.after) = other.without) : EdParameter path o value := by
  by_cases hsame : o = other
  · subst hsame
    have hvalue' := hother.value_eq
    rw [hvalue] at hvalue'
    cases hvalue'
    exact hother
  obtain ⟨_, hascii⟩ := parseI32_ascii hdigit hleft.edText.digits.2 hvalue
  have hplace : o.before.length < other.before.length := by
    apply Nat.lt_of_le_of_ne (hleft.first other (hother.edText hdigit))
    exact fun h => hsame (hleft.edText.unique (hother.edText hdigit) h)
  obtain ⟨front, chunk, back, hpath, hwithout, hlength, hcount, hfront, hform⟩ :=
    without_split hother
  have hsplit := hleft.edText.path_eq
  -- the same number of digits is gone, so nothing has been tidied up
  have hdigits : chunk.length = o.text.length := by
    have hleftCount := countP_text hleft.edText.sep hascii
    have htotal := congrArg (List.countP fun c => decide (AsciiDigit c)) (hsplit.symm.trans hpath)
    have hkept := congrArg (List.countP fun c => decide (AsciiDigit c)) (hresult.trans hwithout)
    rw [countP_tidy] at hkept
    simp only [List.countP_append, hleftCount, hcount] at htotal hkept
    rw [hlength]
    simp only [Occurrence.text, List.length_cons, List.length_append]
    omega
  have hclean : o.before ++ o.after = front ++ back := by
    rw [← hwithout, ← hresult]
    apply Eq.symm
    apply tidy_eq_of_length
    rw [hresult, hwithout]
    have htotal := congrArg List.length (hsplit.symm.trans hpath)
    simp only [List.length_append] at htotal ⊢
    omega
  obtain ⟨word, hword⟩ : o.before <+: front := by
    apply List.prefix_of_prefix_length_le (List.prefix_append o.before o.after)
    · rw [hclean]
      exact List.prefix_append front back
    · exact Nat.le_trans (Nat.le_of_lt hplace) hfront
  have hafter : o.after = word ++ back := by
    rw [← hword, List.append_assoc, List.append_cancel_left_eq] at hclean
    exact hclean
  have hshift : o.text ++ word = word ++ chunk := by
    have htotal := hsplit.symm.trans hpath
    rw [← hword, hafter, List.append_assoc, List.append_cancel_left_eq, ← List.append_assoc,
      ← List.append_assoc, List.append_cancel_right_eq] at htotal
    exact htotal
  have hnonempty : word ≠ [] := by
    rintro rfl
    rw [List.append_nil] at hword
    rw [← hword] at hfront
    omega
  rcases hform with ⟨hfront, hchunk⟩ | ⟨⟨init, hfront⟩, init', hchunk⟩
  · have hmark : other.sep = '?' ∨ other.sep = '&' := by
      rcases hother.starts with ⟨h, _⟩ | ⟨h, _⟩
      · exact Or.inl h
      · exact Or.inr h
    rw [hchunk, Occurrence.text, Occurrence.text] at hshift
    obtain ⟨htext, hletters⟩ := shift_eq (mark_not_mem hascii hmark) word hshift
    obtain ⟨hsep, _⟩ := List.cons.inj htext
    obtain ⟨c, rest, hhead⟩ := List.exists_cons_of_ne_nil hnonempty
    have hc : c = o.sep := by
      rw [hhead, List.cons_append, List.cons_append, List.cons.injEq] at hshift
      exact hshift.1.symm
    rcases hother.starts with ⟨hquestion, hbefore⟩ | ⟨hand, hbefore⟩
    · refine absurd ?_ hbefore
      rw [← hfront, ← hword, hhead, hc, hsep, hquestion]
      exact List.mem_append_right _ List.mem_cons_self
    · have hsepAnd : o.sep = '&' := hsep.trans hand
      have hquery : '?' ∈ o.before := by
        rw [← hfront, ← hword, List.mem_append] at hbefore
        rcases hbefore with hbefore | hbefore
        · exact hbefore
        · have hletter := hletters '?' hbefore
          rw [hsepAnd, List.mem_cons] at hletter
          rcases hletter with h | h
          · exact absurd h (by decide)
          · exact absurd h (mark_not_mem hascii (Or.inl rfl))
      refine ⟨hsplit, Or.inr ⟨hsepAnd, hquery⟩, Or.inr ⟨rest ++ back, ?_⟩, hascii, hvalue⟩
      rw [hafter, hhead, hc, hsepAnd]
      rfl
  · -- the word would end in `?` and in `&`
    have hlast : word.getLast? = some '?' := by
      have h := congrArg List.getLast? (hword.trans hfront)
      rw [List.getLast?_append, List.getLast?_append] at h
      cases hword' : word.getLast? with
      | none => exact absurd (List.getLast?_eq_none_iff.mp hword') hnonempty
      | some c =>
        rw [hword'] at h
        simpa using h
    have hends := congrArg List.getLast? hshift
    rw [hchunk, List.getLast?_append, hlast, ← List.append_assoc, List.getLast?_concat,
      Option.some_or] at hends
    exact absurd hends (by decide)

/-- The path and the early data computed from it are those of the first `ed` parameter. -/
def Keeps (path result : List Char) (early : Option Int) : Prop :=
  (∀ o value, First path o value → early = some value ∧ result = o.without) ∧
    ((∀ o value, ¬ EdParameter path o value) → early = none ∧ result = path)

/-- Nothing looks like an `ed` parameter with a number that fits, and nothing is one; or the first
match is a whole parameter that is the only one, or one behind others with nothing else to tidy
up in the path. -/
def EdSafe (digit : Char → Bool) (path : List Char) : Prop :=
  (∀ o, Leftmost digit path o → parseI32 (String.ofList o.digits) = none) ∧
      (∀ o value, ¬ EdParameter path o value) ∨
    ∃ o value, Leftmost digit path o ∧ EdParameter path o value ∧
      (o.sep = '?' ∧ o.after = [] ∨
        o.sep = '&' ∧ ¬ ['?', '&'] <:+: o.before ++ o.after ∧
          (o.before ++ o.after).getLast? ≠ some '?')

theorem keeps_path_iff {early : Option Int} (hearly : early = none) :
    Keeps path path early ↔ ∀ o value, ¬ EdParameter path o value := by
  constructor
  · intro hkeeps o value h
    obtain ⟨first, value', hfirst⟩ := h.exists_first
    have hsome := (hkeeps.1 first value' hfirst).1
    rw [hearly] at hsome
    cases hsome
  · intro hnone
    exact ⟨fun o value hfirst => absurd hfirst.parameter (hnone o value), fun _ => ⟨hearly, rfl⟩⟩

theorem keeps_tidy_iff (hdigit : DecimalClass digit) {o : Occurrence} {value : Int}
    (hleft : Leftmost digit path o) (hvalue : parseI32 (String.ofList o.digits) = some value) :
    Keeps path (tidy (o.before ++ o.after)) (some value) ↔
      EdParameter path o value ∧ tidy (o.before ++ o.after) = o.without := by
  constructor
  · intro hkeeps
    by_cases hsome : ∃ other value', EdParameter path other value'
    · obtain ⟨other, value', hother⟩ := hsome
      obtain ⟨first, value'', hfirst⟩ := hother.exists_first
      have hparameter := match_is_parameter hdigit hleft hvalue hfirst.parameter
        (hkeeps.1 first value'' hfirst).2
      have hplace : o.before.length = first.before.length :=
        Nat.le_antisymm (hleft.first first (hfirst.parameter.edText hdigit))
          (hfirst.first o value hparameter)
      obtain ⟨rfl, rfl⟩ := hparameter.unique hfirst.parameter hplace
      exact ⟨hparameter, (hkeeps.1 o value hfirst).2⟩
    · have hnone : ∀ other value', ¬ EdParameter path other value' := fun other value' h =>
        hsome ⟨other, value', h⟩
      exact absurd (hkeeps.2 hnone).1 (by simp)
  · rintro ⟨hparameter, hresult⟩
    refine ⟨fun first value' hfirst => ?_, fun hnone => absurd hparameter (hnone o value)⟩
    have hplace : o.before.length = first.before.length :=
      Nat.le_antisymm (hleft.first first (hfirst.parameter.edText hdigit))
        (hfirst.first o value hparameter)
    obtain ⟨rfl, rfl⟩ := hparameter.unique hfirst.parameter hplace
    exact ⟨rfl, hresult⟩

theorem parseWsEarlyData_none {crates : Crates} {path : String}
    (h : ∀ o, Leftmost crates.regexDigit path.toList o →
      parseI32 (String.ofList o.digits) = none) :
    (parseWsEarlyData crates path).1 = path ∧ (parseWsEarlyData crates path).2.1 = none := by
  have hspec := @findEd_spec crates.regexDigit path.toList
  rw [parseWsEarlyData]
  cases hfind : findEd crates.regexDigit path.toList with
  | none => exact ⟨rfl, rfl⟩
  | some found =>
    obtain ⟨before, digits, after⟩ := found
    rw [hfind] at hspec
    obtain ⟨o, hleft, rfl, rfl, rfl⟩ := hspec
    simp only [Option.bind_some, h o hleft]
    exact ⟨trivial, trivial⟩

theorem parseWsEarlyData_some {crates : Crates} {path : String} {o : Occurrence} {value : Int}
    (hleft : Leftmost crates.regexDigit path.toList o)
    (hvalue : parseI32 (String.ofList o.digits) = some value) :
    (parseWsEarlyData crates path).1.toList = tidy (o.before ++ o.after) ∧
      (parseWsEarlyData crates path).2.1 = some value := by
  have hspec := @findEd_spec crates.regexDigit path.toList
  rw [parseWsEarlyData]
  cases hfind : findEd crates.regexDigit path.toList with
  | none =>
    rw [hfind] at hspec
    exact absurd hleft.edText (hspec o)
  | some found =>
    obtain ⟨before, digits, after⟩ := found
    rw [hfind] at hspec
    obtain ⟨other, hother, rfl, rfl, rfl⟩ := hspec
    have hsame := hother.unique hleft
    subst hsame
    simp only [Option.bind_some, hvalue]
    refine ⟨?_, trivial⟩
    exact replace_tidy (other.before ++ other.after)

/-- The path and the early data are those of the first `ed` parameter exactly when the condition
holds. -/
theorem earlyData_keeps_iff (crates : Crates) (hdigit : DecimalClass crates.regexDigit)
    (path : String) :
    Keeps path.toList (parseWsEarlyData crates path).1.toList (parseWsEarlyData crates path).2.1 ↔
      EdSafe crates.regexDigit path.toList := by
  by_cases hsome : ∃ o value, Leftmost crates.regexDigit path.toList o ∧
      parseI32 (String.ofList o.digits) = some value
  · obtain ⟨o, value, hleft, hvalue⟩ := hsome
    obtain ⟨hpath, hearly⟩ := parseWsEarlyData_some hleft hvalue
    rw [hpath, hearly, keeps_tidy_iff hdigit hleft hvalue]
    constructor
    · rintro ⟨hparameter, hresult⟩
      exact Or.inr ⟨o, value, hleft, hparameter, (tidy_without_iff hparameter).mp hresult⟩
    · rintro (⟨hnone, _⟩ | ⟨other, value', hother, hparameter, hshape⟩)
      · rw [hnone o hleft] at hvalue
        cases hvalue
      · have hsame := hother.unique hleft
        subst hsame
        have hvalue' := hparameter.value_eq
        rw [hvalue] at hvalue'
        cases hvalue'
        exact ⟨hparameter, (tidy_without_iff hparameter).mpr hshape⟩
  · have hnone : ∀ o, Leftmost crates.regexDigit path.toList o →
        parseI32 (String.ofList o.digits) = none := by
      intro o hleft
      cases hvalue : parseI32 (String.ofList o.digits) with
      | none => rfl
      | some value => exact absurd ⟨o, value, hleft, hvalue⟩ hsome
    obtain ⟨hpath, hearly⟩ := parseWsEarlyData_none hnone
    rw [hpath, keeps_path_iff hearly]
    constructor
    · exact fun h => Or.inl ⟨hnone, h⟩
    · rintro (⟨_, h⟩ | ⟨o, value, hleft, hparameter, _⟩)
      · exact h
      · have hvalue := hparameter.value_eq
        rw [hnone o hleft] at hvalue
        cases hvalue

theorem decimalClass_example : DecimalClass exampleCrates.regexDigit := by
  constructor
  · rintro c ⟨hlow, hhigh⟩
    exact Bool.and_eq_true_iff.mpr ⟨decide_eq_true hlow, decide_eq_true hhigh⟩
  · simp only [List.forall_mem_cons, List.not_mem_nil, false_imp_iff, implies_true, and_true]
    exact ⟨rfl, rfl, rfl, rfl⟩

theorem earlyData_keeps_iff_ws :
    DecimalClass exampleCrates.regexDigit ∧
      (Keeps "/ws?ed=2048".toList (parseWsEarlyData exampleCrates "/ws?ed=2048").1.toList
          (parseWsEarlyData exampleCrates "/ws?ed=2048").2.1 ↔
        EdSafe exampleCrates.regexDigit "/ws?ed=2048".toList) :=
  ⟨decimalClass_example, earlyData_keeps_iff exampleCrates decimalClass_example _⟩

/-- A first parameter with others behind it takes the `?` along. -/
theorem earlyData_loses_question :
    parseWsEarlyData exampleCrates "/ws?ed=2048&a=b" =
        ("/ws&a=b", some 2048, some "Sec-WebSocket-Protocol") ∧
      ¬ Keeps "/ws?ed=2048&a=b".toList
        (parseWsEarlyData exampleCrates "/ws?ed=2048&a=b").1.toList
        (parseWsEarlyData exampleCrates "/ws?ed=2048&a=b").2.1 := by
  refine ⟨by decide +kernel, fun hkeeps => ?_⟩
  have hfind : findEd exampleCrates.regexDigit "/ws?ed=2048&a=b".toList =
      some ("/ws".toList, "2048".toList, "&a=b".toList) := by
    decide +kernel
  have hspec := @findEd_spec exampleCrates.regexDigit "/ws?ed=2048&a=b".toList
  rw [hfind] at hspec
  obtain ⟨o, hleft, hbefore, hdigits, hafter⟩ := hspec
  have hvalue : parseI32 (String.ofList o.digits) = some 2048 := by
    rw [hdigits]
    decide +kernel
  obtain ⟨hpath, hearly⟩ := parseWsEarlyData_some hleft hvalue
  rw [hpath, hearly, keeps_tidy_iff decimalClass_example hleft hvalue] at hkeeps
  obtain ⟨hparameter, hresult⟩ := hkeeps
  rcases (tidy_without_iff hparameter).mp hresult with ⟨_, hnil⟩ | ⟨hand, _⟩
  · rw [hafter] at hnil
    exact absurd hnil (by decide)
  · rcases hparameter.starts with ⟨hquestion, _⟩ | ⟨_, hmem⟩
    · rw [hquestion] at hand
      exact absurd hand (by decide)
    · rw [hbefore] at hmem
      exact absurd hmem (by decide)

end Kept

end EarlyData
