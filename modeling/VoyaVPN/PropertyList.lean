import VoyaVPN.Transducer

/-! Property lists: the line ends and characters of an XML document, its tags and texts, the
entities of a text, and the strings of an array. -/
namespace PropertyList

section Documents

/-- The line ends of a document, the state being whether it stands behind a carriage return. -/
def lineEnds : Transducer.Machine Bool Char Char where
  step := fun afterReturn char =>
    if char = '\r' then some (['\n'], true)
    else if char = '\n' then some (if afterReturn then [] else ['\n'], false)
    else some ([char], false)
  finish := fun _ => some []

def isXmlChar (char : Char) : Bool :=
  char = '\t' || char = '\n' || char = '\r' ||
    (0x20 ≤ char.toNat && char.toNat ≠ 0xFFFE && char.toNat ≠ 0xFFFF)

inductive Token where
  | tag (name : List Char)
  | text (chars : List Char)
  deriving DecidableEq, Repr

/-- Where a document is read: in a text or in a tag, with what is read of it. -/
inductive Place where
  | text (chars : List Char)
  | tag (name : List Char)
  deriving DecidableEq, Repr

def markup : Transducer.Machine Place Char Token where
  step := fun place char =>
    match place with
    | .text chars =>
      if char = '<' then some ([.text chars], .tag []) else some ([], .text (chars ++ [char]))
    | .tag name =>
      if char = '>' then some ([.tag name], .text [])
      else if char = '<' then none
      else some ([], .tag (name ++ [char]))
  finish := fun place =>
    match place with
    | .text chars => some [.text chars]
    | .tag _ => none

/-- The tags and texts of a document; one with a character that is not of XML is none. -/
def tokens (document : List Char) : Option (List Token) :=
  (Transducer.output lineEnds false document).bind fun text =>
    if text.all isXmlChar then Transducer.output markup (.text []) text else none

end Documents

section Texts

def entityChar (name : List Char) : Option Char :=
  if name = ['a', 'm', 'p'] then some '&'
  else if name = ['l', 't'] then some '<'
  else if name = ['g', 't'] then some '>'
  else if name = ['q', 'u', 'o', 't'] then some '\x22'
  else if name = ['a', 'p', 'o', 's'] then some '\''
  else none

/-- The entities of a text, of those with a name; the state is what is read of one. -/
def entities : Transducer.Machine (Option (List Char)) Char Char where
  step := fun entity char =>
    match entity with
    | none => if char = '&' then some ([], some []) else some ([char], none)
    | some name =>
      if char = ';' then (entityChar name).map fun value => ([value], none)
      else some ([], some (name ++ [char]))
  finish := fun entity => if entity.isSome then none else some []

def decodeText (text : List Char) : Option (List Char) := Transducer.output entities none text

def isBlankText (chars : List Char) : Bool := chars.all [' ', '\t', '\n', '\r'].contains

def arrayStrings : List Token → Option (List (List Char))
  | .text chars :: rest => if isBlankText chars then arrayStrings rest else none
  | .tag opening :: .text chars :: .tag closing :: rest =>
    if opening = ['/', 'a', 'r', 'r', 'a', 'y'] then some []
    else if opening = ['s', 't', 'r', 'i', 'n', 'g'] ∧ closing =
      ['/', 's', 't', 'r', 'i', 'n', 'g'] then
      (decodeText chars).bind fun value => (arrayStrings rest).map (value :: ·)
    else none
  | _ => none

def arrayOf (key : List Char) : List Token → Option (List (List Char))
  | .tag opening :: .text name :: .tag closing :: .text between :: .tag array :: rest =>
    if opening = ['k', 'e', 'y'] ∧ name = key ∧ closing = ['/', 'k', 'e', 'y'] ∧
        isBlankText between ∧ array = ['a', 'r', 'r', 'a', 'y'] then
      arrayStrings rest
    else arrayOf key (.text name :: .tag closing :: .text between :: .tag array :: rest)
  | _ :: rest => arrayOf key rest
  | [] => none

def stringsOf (key document : List Char) : Option (List (List Char)) :=
  (tokens document).bind (arrayOf key)

end Texts

section Arrays

variable {chars value : List Char} {rest : List Token}

theorem arrayStrings_blank (h : isBlankText chars = true) :
    arrayStrings (.text chars :: rest) = arrayStrings rest := by
  rw [arrayStrings, if_pos h]

theorem arrayStrings_string (h : decodeText chars = some value) :
    arrayStrings (.tag ['s', 't', 'r', 'i', 'n', 'g'] :: .text chars ::
      .tag ['/', 's', 't', 'r', 'i', 'n', 'g'] :: rest) = (arrayStrings rest).map (value :: ·) := by
  rw [arrayStrings, if_neg (by decide), if_pos ⟨rfl, rfl⟩, h]
  rfl

end Arrays

section Lines

variable {text : List Char}

def lineEndChar (char : Char) : Char := if char = '\r' then '\n' else char

/-- The line ends of a text without line feeds that does not end in a carriage return. -/
theorem run_lineEnds (hfeed : '\n' ∉ text) {last : Char} (hlast : last ≠ '\r' ∧ last ≠ '\n')
    (afterReturn : Bool) :
    Transducer.run lineEnds afterReturn (text ++ [last]) =
      some (text.map lineEndChar ++ [last], false) := by
  induction text generalizing afterReturn with
  | nil =>
    have hstep : lineEnds.step afterReturn last = some ([last], false) := by
      rw [lineEnds]
      simp only
      rw [if_neg hlast.1, if_neg hlast.2]
    rw [List.nil_append, Transducer.run_cons hstep rfl]
    rfl
  | cons char text ih =>
    rw [List.mem_cons, not_or] at hfeed
    have hstep : ∃ next, lineEnds.step afterReturn char = some ([lineEndChar char], next) := by
      rw [lineEnds]
      simp only
      by_cases hreturn : char = '\r'
      · exact ⟨true, by rw [if_pos hreturn, lineEndChar, if_pos hreturn]⟩
      · refine ⟨false, ?_⟩
        rw [if_neg hreturn, if_neg (Ne.symm hfeed.1), lineEndChar, if_neg hreturn]
    obtain ⟨next, hstep⟩ := hstep
    rw [List.cons_append, Transducer.run_cons hstep (ih hfeed.2 next)]
    rfl

theorem run_lineEnds_self (h : '\r' ∉ text) :
    Transducer.run lineEnds false text = some (text, false) := by
  induction text with
  | nil => rfl
  | cons char text ih =>
    rw [List.mem_cons, not_or] at h
    have hstep : lineEnds.step false char = some ([char], false) := by
      rw [lineEnds]
      simp only
      rw [if_neg (Ne.symm h.1)]
      split
      · rename_i hfeed
        rw [hfeed]
        rfl
      · rfl
    rw [Transducer.run_cons hstep (ih h.2)]
    rfl

theorem run_markup (chars : List Char) (h : '<' ∉ text) :
    Transducer.run markup (.text chars) text = some ([], .text (chars ++ text)) := by
  induction text generalizing chars with
  | nil =>
    rw [List.append_nil]
    rfl
  | cons char text ih =>
    rw [List.mem_cons, not_or] at h
    have hstep : markup.step (.text chars) char = some ([], .text (chars ++ [char])) := by
      rw [markup]
      simp only
      rw [if_neg (Ne.symm h.1)]
    rw [Transducer.run_cons hstep (ih (chars ++ [char]) h.2), List.append_assoc]
    rfl

theorem run_entities (h : '&' ∉ text) :
    Transducer.run entities none text = some (text, none) := by
  induction text with
  | nil => rfl
  | cons char text ih =>
    rw [List.mem_cons, not_or] at h
    have hstep : entities.step none char = some ([char], none) := by
      rw [entities]
      simp only
      rw [if_neg (Ne.symm h.1)]
    rw [Transducer.run_cons hstep (ih h.2)]
    rfl

end Lines

end PropertyList
