import VoyaVPN.Transducer

/-! The words of a shell text: how it is cut into words and operators at blanks, and what the
quotes and backslashes in a word stand for. -/
namespace ShellWords

section Scan

inductive Quoting where
  | bare
  | escaped
  | single
  | double
  | escapedInDouble
  deriving DecidableEq, Repr

/-- A word that is being read: its value so far, and whether any of it is quoted. -/
structure Word where
  value : List Char
  quoted : Bool
  deriving DecidableEq, Repr

inductive Token where
  | word (word : Word)
  | operator (char : Char)
  deriving DecidableEq, Repr

def isBlank (char : Char) : Bool := char = ' ' || char = '\t'

def isOperator (char : Char) : Bool :=
  ['\n', ';', '&', '|', '<', '>', '(', ')'].contains char

/-- Characters that, outside of quotes, make a word depend on more than quoting. -/
def isExpanded (char : Char) : Bool :=
  ['$', '\x60', '*', '?', '[', '~', '#', '\x7B'].contains char

/-- A word goes on with a character, or begins with it. -/
def grow (current : Option Word) (quoted : Bool) (chars : List Char) : Word :=
  { value := (current.map Word.value).getD [] ++ chars
    quoted := (current.map Word.quoted).getD false || quoted }

def ended (current : Option Word) : List Token := (current.map Token.word).toList

/-- How far a text is read: the quotes it is between, the word that is being read, and whether an
operator is the last that was read. -/
structure State where
  quoting : Quoting := .bare
  current : Option Word := none
  afterOperator : Bool := false
  deriving DecidableEq, Repr

/-- What a character outside of quotes ends, and how it is read on. Words that are subject to
expansions and operators of more than one character are not read. -/
def bareStep (current : Option Word) (afterOperator : Bool) (char : Char) :
    Option (List Token × State) :=
  if char = '\'' then some ([], { quoting := .single, current := some (grow current true []) })
  else if char = '\x22' then
    some ([], { quoting := .double, current := some (grow current true []) })
  else if char = '\\' then some ([], { quoting := .escaped, current, afterOperator })
  else if isBlank char then some (ended current, {})
  else if isOperator char then
    if afterOperator then none
    else some (ended current ++ [.operator char], { afterOperator := true })
  else if isExpanded char then none
  else some ([], { current := some (grow current false [char]) })

def doubleStep (current : Option Word) (char : Char) : Option State :=
  if char = '\x22' then some { current }
  else if char = '\\' then some { quoting := .escapedInDouble, current }
  else if char = '$' ∨ char = '\x60' then none
  else some { quoting := .double, current := some (grow current true [char]) }

/-- One character of a text; a null character is in none. -/
def step (state : State) (char : Char) : Option (List Token × State) :=
  if char = '\x00' then none
  else
    match state.quoting with
    | .bare => bareStep state.current state.afterOperator char
    | .escaped =>
      if char = '\n' then some ([], { state with quoting := .bare })
      else some ([], { current := some (grow state.current true [char]) })
    | .single =>
      if char = '\'' then some ([], { current := state.current })
      else some ([], { quoting := .single, current := some (grow state.current true [char]) })
    | .double => (doubleStep state.current char).map fun next => ([], next)
    | .escapedInDouble =>
      if char = '\n' then some ([], { state with quoting := .double })
      else if ['$', '\x60', '\x22', '\\'].contains char then
        some ([], { quoting := .double, current := some (grow state.current true [char]) })
      else
        some ([], { quoting := .double, current := some (grow state.current true ['\\', char]) })

/-- The reading of a text, which must not end between quotes or behind a backslash. -/
def machine : Transducer.Machine State Char Token where
  step := step
  finish := fun state => if state.quoting = .bare then some (ended state.current) else none

def scan (state : State) (text : List Char) : Option (List Token) :=
  Transducer.output machine state text

def tokens (text : List Char) : Option (List Token) := scan {} text

def wordValues : List Token → Option (List (List Char))
  | [] => some []
  | .word word :: rest => (wordValues rest).map (word.value :: ·)
  | .operator _ :: _ => none

def splitWords (text : List Char) : Option (List (List Char)) := (tokens text).bind wordValues

end Scan

section Words

variable {current : Option Word} {after : Bool} {value chars text rest : List Char}

/-- A character that stands for itself outside of quotes. -/
def isPlain (char : Char) : Bool :=
  char ≠ '\x00' && char ≠ '\'' && char ≠ '\x22' && char ≠ '\\' && !isBlank char &&
    !isOperator char && !isExpanded char

/-- A text that, wherever it stands, adds a value to a word. -/
def Adds (text value : List Char) (quoted : Bool) : Prop :=
  ∀ current after rest, scan { current, afterOperator := after } (text ++ rest) =
    scan { current := some (grow current quoted value) } rest

theorem scan_cons {state next : State} {char : Char} {ends : List Token}
    (h : step state char = some (ends, next)) :
    scan state (char :: text) = (scan next text).map (ends ++ ·) :=
  @Transducer.output_cons State Char Token machine state next char text ends h

theorem scan_silent {state next : State} {char : Char} (h : step state char = some ([], next)) :
    scan state (char :: text) = scan next text :=
  @Transducer.output_silent State Char Token machine state next char text h

theorem grow_grow (first second : Bool) :
    grow (some (grow current first value)) second chars =
      grow current (first || second) (value ++ chars) := by
  simp [grow, Bool.or_assoc]

theorem step_plain {char : Char} (h : isPlain char = true) :
    step { current, afterOperator := after } char =
      some ([], { current := some (grow current false [char]) }) := by
  simp only [isPlain, Bool.and_eq_true, decide_eq_true_eq, Bool.not_eq_true'] at h
  obtain ⟨⟨⟨⟨⟨⟨hnull, hquote⟩, hdouble⟩, hbackslash⟩, hblank⟩, hoperator⟩, hexpanded⟩ := h
  rw [step, if_neg hnull]
  simp only
  rw [bareStep, if_neg hquote, if_neg hdouble, if_neg hbackslash, hblank, hoperator, hexpanded]
  rfl

theorem adds_plain (hne : text ≠ []) (h : ∀ char ∈ text, isPlain char = true) :
    Adds text text false := by
  induction text with
  | nil => exact absurd rfl hne
  | cons char text ih =>
    intro current after rest
    rw [List.cons_append, scan_silent (step_plain (h char List.mem_cons_self))]
    cases text with
    | nil => rfl
    | cons next text =>
      have hrest := ih (List.cons_ne_nil next text) fun c hc => h c (List.mem_cons_of_mem _ hc)
      rw [hrest, grow_grow]
      rfl

theorem step_quote (quote : Quoting) (h : quote = .bare ∨ quote = .single) :
    step { quoting := quote, current, afterOperator := after } '\'' =
      some ([], if quote = .bare then { quoting := .single, current := some (grow current true []) }
        else { current }) := by
  rcases h with rfl | rfl
  · rfl
  · rfl

theorem step_single {char : Char} (hnull : char ≠ '\x00') (hquote : char ≠ '\'') :
    step { quoting := .single, current, afterOperator := after } char =
      some ([], { quoting := .single, current := some (grow current true [char]) }) := by
  rw [step, if_neg hnull]
  simp only
  rw [if_neg hquote]

theorem step_backslash :
    step { current, afterOperator := after } '\\' =
      some ([], { quoting := .escaped, current, afterOperator := after }) := rfl

theorem step_escaped {char : Char} (hnull : char ≠ '\x00') (hline : char ≠ '\n') :
    step { quoting := .escaped, current, afterOperator := after } char =
      some ([], { current := some (grow current true [char]) }) := by
  rw [step, if_neg hnull]
  simp only
  rw [if_neg hline]

end Words

section Lines

variable {text value rest : List Char} {quoted : Bool}

theorem Adds.ends (h : Adds text value quoted) :
    tokens text = some [.word ⟨value, quoted⟩] := by
  have hscan := h none false []
  rw [List.append_nil] at hscan
  rw [tokens, hscan]
  simp [scan, Transducer.output, machine, grow, ended]

theorem Adds.before_blank (h : Adds text value quoted) (after : Bool) :
    scan { afterOperator := after } (text ++ ' ' :: rest) =
      (tokens rest).map (.word ⟨value, quoted⟩ :: ·) := by
  have hstep : step { current := some (grow none quoted value) } ' ' =
      some ([.word ⟨value, quoted⟩], {}) := by
    simp [step, bareStep, isBlank, ended, grow]
  rw [h, scan_cons hstep]
  rfl

theorem Adds.before_operator {operator : Char} (h : Adds text value quoted) (after : Bool)
    (hoperator : isOperator operator = true) :
    scan { afterOperator := after } (text ++ operator :: rest) =
      (scan { afterOperator := true } rest).map fun later =>
        .word ⟨value, quoted⟩ :: .operator operator :: later := by
  have hplain : operator ≠ '\x00' ∧ operator ≠ '\'' ∧ operator ≠ '\x22' ∧ operator ≠ '\\' ∧
      isBlank operator = false := by
    simp only [isOperator, List.contains_iff_mem, List.mem_cons, List.not_mem_nil,
      or_false] at hoperator
    rcases hoperator with rfl | rfl | rfl | rfl | rfl | rfl | rfl | rfl <;> decide
  obtain ⟨hnull, hquote, hdouble, hbackslash, hblank⟩ := hplain
  have hstep : step { current := some (grow none quoted value) } operator =
      some ([.word ⟨value, quoted⟩, .operator operator], { afterOperator := true }) := by
    rw [step, if_neg hnull]
    simp only
    rw [bareStep, if_neg hquote, if_neg hdouble, if_neg hbackslash, hblank, if_neg (by decide),
      if_pos hoperator]
    simp [ended, grow]
  rw [h, scan_cons hstep]
  rfl

theorem splitWords_join {texts values : List (List Char)}
    (h : List.Forall₂ (fun text value => ∃ quoted, Adds text value quoted) texts values) :
    splitWords ([' '].intercalate texts) = some values := by
  induction h with
  | nil => rfl
  | @cons text value texts values hfirst hrest ih =>
    obtain ⟨quoted, hadds⟩ := hfirst
    cases hrest with
    | nil =>
      rw [List.intercalate_singleton, splitWords, hadds.ends]
      rfl
    | @cons next nextValue texts values _ _ =>
      rw [List.intercalate_cons_cons, List.append_assoc, List.singleton_append, splitWords, tokens,
        hadds.before_blank]
      rw [splitWords] at ih
      cases htokens : tokens ([' '].intercalate (next :: texts)) with
      | none =>
        rw [htokens] at ih
        cases ih
      | some later =>
        rw [htokens, Option.bind_some] at ih
        rw [Option.map_some, Option.bind_some, wordValues, ih]
        rfl

end Lines

end ShellWords
