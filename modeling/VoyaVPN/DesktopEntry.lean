import VoyaVPN.Transducer
import Mathlib.Data.List.DropRight
import Mathlib.Data.List.SplitOn

/-! Desktop entries: the lines of a group, the escapes of a value, and the command line that an
Exec value stands for. -/
namespace DesktopEntry

section Values

def groupLines (header : List Char) (lines : List (List Char)) : List (List Char) :=
  ((lines.dropWhile (· ≠ header)).drop 1).takeWhile fun line => line.head? ≠ some '['

/-- A line of a key, without the spaces around the equals sign. -/
def lineValue (key line : List Char) : Option (List Char) :=
  let name := line.takeWhile (· ≠ '=')
  if name.rdropWhile (· = ' ') = key ∧ name.length < line.length then
    some ((line.drop (name.length + 1)).dropWhile (· = ' '))
  else none

def entryValue (header key text : List Char) : Option (List Char) :=
  (groupLines header (text.splitOnP (· == '\n'))).findSome? (lineValue key)

/-- The characters that a backslash makes of the ones behind it. -/
def escapedChar (char : Char) : Option Char :=
  if char = 's' then some ' '
  else if char = 'n' then some '\n'
  else if char = 't' then some '\t'
  else if char = 'r' then some '\r'
  else if char = '\\' then some '\\'
  else none

/-- The reading of a value, the state being whether it stands behind a backslash. -/
def escapes : Transducer.Machine Bool Char Char where
  step := fun escaped char =>
    if escaped then (escapedChar char).map fun value => ([value], false)
    else if char = '\\' then some ([], true)
    else some ([char], false)
  finish := fun escaped => if escaped then none else some []

/-- The text that a value stands for. -/
def unescape (value : List Char) : Option (List Char) := Transducer.output escapes false value

end Values

section Exec

/-- The characters that stand in quoted arguments only. -/
def isReserved (char : Char) : Bool :=
  [' ', '\t', '\n', '\x22', '\'', '\\', '>', '<', '~', '|', '&', ';', '$', '*', '?', '#', '(', ')',
    '\x60'].contains char

/-- Where an Exec value is read: between arguments or in one. -/
inductive Place where
  | between
  | plain (argument : List Char)
  | quoted (argument : List Char)
  | escaped (argument : List Char)
  | closed (argument : List Char)
  deriving DecidableEq, Repr

/-- A character of an Exec value, and the argument that it ends. -/
def step (place : Place) (char : Char) : Option (List (List Char) × Place) :=
  match place with
  | .between =>
    if char = ' ' then some ([], .between)
    else if char = '\x22' then some ([], .quoted [])
    else if isReserved char then none
    else some ([], .plain [char])
  | .plain argument =>
    if char = ' ' then some ([argument], .between)
    else if isReserved char then none
    else some ([], .plain (argument ++ [char]))
  | .quoted argument =>
    if char = '\x22' then some ([], .closed argument)
    else if char = '\\' then some ([], .escaped argument)
    else if char = '\x60' ∨ char = '$' then none
    else some ([], .quoted (argument ++ [char]))
  | .escaped argument =>
    if ['\x22', '\x60', '$', '\\'].contains char then some ([], .quoted (argument ++ [char]))
    else none
  | .closed argument => if char = ' ' then some ([argument], .between) else none

def finish : Place → Option (List (List Char))
  | .between => some []
  | .plain argument | .closed argument => some [argument]
  | .quoted _ | .escaped _ => none

def machine : Transducer.Machine Place Char (List Char) := { step, finish }

/-- The field codes, the deprecated ones among them. -/
def isFieldCode (char : Char) : Bool :=
  ['f', 'F', 'u', 'U', 'd', 'D', 'n', 'N', 'i', 'c', 'k', 'v', 'm'].contains char

/-- The reading of an argument, the state being whether it stands behind a percent sign; the
launcher puts texts of its own in the place of the field codes. -/
def fieldCodes (fields : Char → List Char) : Transducer.Machine Bool Char Char where
  step := fun inCode char =>
    if inCode then
      if char = '%' then some (['%'], false)
      else if isFieldCode char then some (fields char, false)
      else none
    else if char = '%' then some ([], true)
    else some ([char], false)
  finish := fun inCode => if inCode then none else some []

variable (fields : Char → List Char)

def expand (argument : List Char) : Option (List Char) :=
  Transducer.output (fieldCodes fields) false argument

def expandAll : List (List Char) → Option (List (List Char))
  | [] => some []
  | argument :: rest => (expand fields argument).bind fun first =>
      (expandAll rest).map (first :: ·)

/-- The program, whose name has no equals sign, and the arguments that an Exec value stands for. -/
def execArguments (value : List Char) : Option (List (List Char)) :=
  ((unescape value).bind (Transducer.output machine .between)).bind fun arguments =>
    if (arguments.head?.map (List.contains · '=')).getD true then none
    else expandAll fields arguments

end Exec

section Plain

variable {fields : Char → List Char} {value : List Char}

theorem unescape_plain (h : ∀ char ∈ value, char ≠ '\\') : unescape value = some value := by
  refine Transducer.output_copies rfl fun char hchar => ?_
  rw [escapes]
  simp only
  rw [if_neg (by decide), if_neg (h char hchar)]

theorem expand_plain (h : ∀ char ∈ value, char ≠ '%') : expand fields value = some value := by
  refine Transducer.output_copies rfl fun char hchar => ?_
  rw [fieldCodes]
  simp only
  rw [if_neg (by decide), if_neg (h char hchar)]

theorem ne_of_not_reserved {char special : Char} (h : isReserved char = false)
    (hspecial : isReserved special = true) : char ≠ special := by
  rintro rfl
  rw [h] at hspecial
  cases hspecial

theorem output_plain (argument : List Char) (h : ∀ char ∈ value, isReserved char = false) :
    Transducer.output machine (.plain argument) value = some [argument ++ value] := by
  induction value generalizing argument with
  | nil =>
    rw [List.append_nil]
    rfl
  | cons char value ih =>
    have hchar := h char List.mem_cons_self
    have hstep : machine.step (.plain argument) char = some ([], .plain (argument ++ [char])) := by
      rw [machine]
      simp only [step]
      rw [if_neg (ne_of_not_reserved hchar (by decide)), hchar]
      rfl
    rw [Transducer.output_silent hstep, ih _ fun c hc => h c (List.mem_cons_of_mem _ hc),
      List.append_assoc, List.singleton_append]

theorem output_single (hne : value ≠ []) (h : ∀ char ∈ value, isReserved char = false) :
    Transducer.output machine .between value = some [value] := by
  cases value with
  | nil => exact absurd rfl hne
  | cons char value =>
    have hchar := h char List.mem_cons_self
    have hstep : machine.step .between char = some ([], .plain [char]) := by
      rw [machine]
      simp only [step]
      rw [if_neg (ne_of_not_reserved hchar (by decide)),
        if_neg (ne_of_not_reserved hchar (by decide)), hchar]
      rfl
    rw [Transducer.output_silent hstep, output_plain _ fun c hc => h c (List.mem_cons_of_mem _ hc)]
    rfl

end Plain

section Lengths

def due : Place → Nat
  | .between => 0
  | .plain argument | .quoted argument | .escaped argument | .closed argument => argument.length

theorem escapes_bounded : Transducer.Bounded escapes (fun _ => 1) (fun _ => 0) where
  step := by
    intro escaped char written next h
    rw [escapes] at h
    simp only at h
    split at h
    · obtain ⟨value, -, heq⟩ := Option.map_eq_some_iff.mp h
      cases heq
      simp
    · split at h
      · cases h
        simp
      · cases h
        simp
  finish := by
    intro escaped written h
    rw [escapes] at h
    simp only at h
    split at h
    · cases h
    · cases h
      simp

theorem fieldCodes_bounded :
    Transducer.Bounded (fieldCodes fun _ => []) (fun _ => 1) (fun _ => 0) where
  step := by
    intro inCode char written next h
    rw [fieldCodes] at h
    simp only at h
    split at h
    · split at h
      · cases h
        simp
      · split at h
        · cases h
          simp
        · cases h
    · split at h
      · cases h
        simp
      · cases h
        simp
  finish := by
    intro inCode written h
    rw [fieldCodes] at h
    simp only at h
    split at h
    · cases h
    · cases h
      simp

theorem machine_bounded : Transducer.Bounded machine List.length due where
  step := by
    intro place char written next h
    change step place char = some (written, next) at h
    cases place with
    | between =>
      simp only [step] at h
      split at h
      · cases h
        simp [due]
      · split at h
        · cases h
          simp [due]
        · split at h
          · cases h
          · cases h
            simp [due]
    | plain argument =>
      simp only [step] at h
      split at h
      · cases h
        simp [due]
      · split at h
        · cases h
        · cases h
          simp [due]
    | quoted argument =>
      simp only [step] at h
      split at h
      · cases h
        simp [due]
      · split at h
        · cases h
          simp [due]
        · split at h
          · cases h
          · cases h
            simp [due]
    | escaped argument =>
      simp only [step] at h
      split at h
      · cases h
        simp [due]
      · cases h
    | closed argument =>
      simp only [step] at h
      split at h
      · cases h
        simp [due]
      · cases h
  finish := by
    intro place written h
    change finish place = some written at h
    cases place with
    | between =>
      cases h
      simp [due]
    | plain argument =>
      cases h
      simp [due]
    | closed argument =>
      cases h
      simp [due]
    | quoted argument => cases h
    | escaped argument => cases h

theorem sum_ones (text : List Char) : (text.map fun _ => 1).sum = text.length := by
  induction text with
  | nil => rfl
  | cons char text ih =>
    rw [List.map_cons, List.sum_cons, ih, List.length_cons, Nat.add_comm]

/-- What a value stands for is no longer than the value, and as long only without escapes. -/
theorem unescape_length {value text : List Char} (h : unescape value = some text) :
    text.length ≤ value.length ∧
      (value.length ≤ text.length → ∀ char ∈ value, char ≠ '\\') := by
  have hle := escapes_bounded.output_le h
  rw [sum_ones, Nat.zero_add] at hle
  refine ⟨hle, ?_⟩
  intro hfull char hchar
  have hplain := @Transducer.Bounded.plain_of_full Bool Char Char escapes false value text
    (fun _ => 1) (fun _ => 0) (· = false) (· = '\\') escapes_bounded ?_ ?_ rfl h ?_ char hchar
  · simpa using hplain
  · rintro escaped letter written next rfl hletter hstep
    rw [escapes] at hstep
    simp only at hstep
    rw [if_neg (by decide), if_neg (by simpa using hletter)] at hstep
    cases hstep
    rfl
  · rintro escaped letter written next rfl hletter hstep
    rw [escapes] at hstep
    simp only at hstep
    rw [if_neg (by decide), if_pos (by simpa using hletter)] at hstep
    cases hstep
    simp
  · rw [sum_ones, Nat.zero_add]
    exact hfull

theorem expand_length {argument text : List Char}
    (h : expand (fun _ => []) argument = some text) :
    text.length ≤ argument.length ∧
      (argument.length ≤ text.length → ∀ char ∈ argument, char ≠ '%') := by
  have hle := fieldCodes_bounded.output_le h
  rw [sum_ones, Nat.zero_add] at hle
  refine ⟨hle, ?_⟩
  intro hfull char hchar
  have hplain := @Transducer.Bounded.plain_of_full Bool Char Char (fieldCodes fun _ => []) false
    argument text (fun _ => 1) (fun _ => 0) (· = false) (· = '%') fieldCodes_bounded ?_ ?_ rfl h ?_
    char hchar
  · simpa using hplain
  · rintro inCode letter written next rfl hletter hstep
    rw [fieldCodes] at hstep
    simp only at hstep
    rw [if_neg (by decide), if_neg (by simpa using hletter)] at hstep
    cases hstep
    rfl
  · rintro inCode letter written next rfl hletter hstep
    rw [fieldCodes] at hstep
    simp only at hstep
    rw [if_neg (by decide), if_pos (by simpa using hletter)] at hstep
    cases hstep
    simp
  · rw [sum_ones, Nat.zero_add]
    exact hfull

theorem expandAll_length {arguments texts : List (List Char)}
    (h : expandAll (fun _ => []) arguments = some texts) :
    (texts.map List.length).sum ≤ (arguments.map List.length).sum := by
  induction arguments generalizing texts with
  | nil =>
    cases h
    exact Nat.le_refl _
  | cons argument arguments ih =>
    rw [expandAll, Option.bind_eq_some_iff] at h
    obtain ⟨first, hfirst, hmap⟩ := h
    obtain ⟨later, hlater, rfl⟩ := Option.map_eq_some_iff.mp hmap
    have hle := (expand_length hfirst).1
    have hrest := ih hlater
    simp only [List.map_cons, List.sum_cons]
    omega

theorem arguments_length {text : List Char} {arguments : List (List Char)}
    (h : Transducer.output machine .between text = some arguments) :
    (arguments.map List.length).sum ≤ text.length ∧
      (text.length ≤ (arguments.map List.length).sum → ∀ char ∈ text, isReserved char = false) := by
  have hle := machine_bounded.output_le h
  rw [due, Nat.zero_add] at hle
  refine ⟨hle, ?_⟩
  intro hfull
  refine @Transducer.Bounded.plain_of_full Place Char (List Char) machine .between text arguments
    List.length due (fun place => place = .between ∨ ∃ argument, place = .plain argument) isReserved
    machine_bounded ?_ ?_ (Or.inl rfl) h ?_
  · rintro place letter written next (rfl | ⟨argument, rfl⟩) hletter hstep
    · change step .between letter = some (written, next) at hstep
      simp only [step] at hstep
      rw [if_neg (ne_of_not_reserved hletter (by decide)),
        if_neg (ne_of_not_reserved hletter (by decide)), hletter] at hstep
      cases hstep
      exact Or.inr ⟨_, rfl⟩
    · change step (.plain argument) letter = some (written, next) at hstep
      simp only [step] at hstep
      rw [if_neg (ne_of_not_reserved hletter (by decide)), hletter] at hstep
      cases hstep
      exact Or.inr ⟨_, rfl⟩
  · rintro place letter written next (rfl | ⟨argument, rfl⟩) hletter hstep
    · change step .between letter = some (written, next) at hstep
      simp only [step] at hstep
      split at hstep
      · cases hstep
        simp [due]
      · split at hstep
        · cases hstep
          simp [due]
        · cases hstep
    · change step (.plain argument) letter = some (written, next) at hstep
      simp only [step] at hstep
      split at hstep
      · cases hstep
        simp [due]
      · cases hstep
  · rw [due, Nat.zero_add]
    exact hfull

end Lengths

section Exact

variable {value : List Char}

/-- Where the launcher puts in nothing, a program alone is no longer than the value. -/
theorem execArguments_length {program : List Char}
    (h : execArguments (fun _ => []) value = some [program]) : program.length ≤ value.length := by
  rw [execArguments, Option.bind_eq_some_iff] at h
  obtain ⟨arguments, harguments, hexpand⟩ := h
  obtain ⟨text, htext, hsplit⟩ := Option.bind_eq_some_iff.mp harguments
  split at hexpand
  · cases hexpand
  · have htextLe := (unescape_length htext).1
    have hsplitLe := (arguments_length hsplit).1
    have hexpandLe := expandAll_length hexpand
    simp only [List.map_cons, List.map_nil, List.sum_cons, List.sum_nil, Nat.add_zero] at hexpandLe
    omega

/-- Whatever the launcher puts in for the field codes, a value is the name of a program alone
exactly if it has only characters that stand for themselves. -/
theorem execArguments_self_iff :
    (∀ fields, execArguments fields value = some [value]) ↔
      value ≠ [] ∧ ∀ char ∈ value, isReserved char = false ∧ char ≠ '%' ∧ char ≠ '=' := by
  constructor
  · intro h
    have hnone := h fun _ => []
    rw [execArguments, Option.bind_eq_some_iff] at hnone
    obtain ⟨arguments, harguments, hexpand⟩ := hnone
    obtain ⟨text, htext, hsplit⟩ := Option.bind_eq_some_iff.mp harguments
    split at hexpand
    · cases hexpand
    · rename_i hequals
      obtain ⟨htextLe, hunescaped⟩ := unescape_length htext
      obtain ⟨hsplitLe, hunreserved⟩ := arguments_length hsplit
      have hexpandLe := expandAll_length hexpand
      simp only [List.map_cons, List.map_nil, List.sum_cons, List.sum_nil,
        Nat.add_zero] at hexpandLe
      -- nothing is lost on the way, so nothing in the value is read otherwise than as it stands
      have hslash := hunescaped (by omega)
      have heq : text = value := by
        rw [unescape_plain hslash] at htext
        exact (Option.some.inj htext).symm
      have hreserved := hunreserved (by omega)
      rw [heq] at hsplit hreserved
      have hne : value ≠ [] := by
        rintro rfl
        cases hsplit
        exact hequals rfl
      rw [output_single hne hreserved, Option.some.injEq] at hsplit
      subst hsplit
      rw [expandAll, Option.bind_eq_some_iff] at hexpand
      obtain ⟨first, hfirst, hmap⟩ := hexpand
      rw [expandAll, Option.map_some, Option.some.injEq, List.cons.injEq] at hmap
      obtain ⟨rfl, -⟩ := hmap
      have hpercent := (expand_length hfirst).2 (Nat.le_refl _)
      refine ⟨hne, fun char hchar => ⟨hreserved char hchar, hpercent char hchar, ?_⟩⟩
      rintro rfl
      apply hequals
      simpa using hchar
  · rintro ⟨hne, h⟩ fields
    have hslash : ∀ char ∈ value, char ≠ '\\' :=
      fun char hchar => ne_of_not_reserved (h char hchar).1 (by decide)
    have hequals : value.contains '=' = false := by
      rw [Bool.eq_false_iff]
      intro hmem
      rw [List.contains_iff_mem] at hmem
      exact (h _ hmem).2.2 rfl
    rw [execArguments, unescape_plain hslash, Option.bind_some,
      output_single hne fun char hchar => (h char hchar).1, Option.bind_some]
    simp only [List.head?_cons, Option.map_some, hequals, Option.getD_some]
    rw [if_neg (by decide), expandAll, expand_plain fun char hchar => (h char hchar).2.1]
    rfl

end Exact

end DesktopEntry
