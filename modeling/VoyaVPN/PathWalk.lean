import Mathlib.Data.List.Basic

/-! How a path is resolved: component by component from a directory, through `.`, `..` and
symbolic links. A place is the list of the names that lead to it from the root. -/
namespace PathWalk

abbrev Name := List Char
abbrev Place := List Name

inductive Node where
  | directory
  | file
  | symlink (target : List Char)
  | other
  deriving DecidableEq, Repr

abbrev FileSystem := Place → Option Node

def splitSlash : List Char → List Name
  | [] => [[]]
  | char :: text =>
    if char = '/' then [] :: splitSlash text
    else
      match splitSlash text with
      | [] => [[char]]
      | name :: names => (char :: name) :: names

def startOf (path : List Char) (place : Place) : Place :=
  if path.head? = some '/' then [] else place

def skipped (name : Name) : Bool := name = [] ∨ name = ['.']

section Walks

variable (fs : FileSystem)

/-- The walk up to the next link that is followed. With `followLast` unset a link that the path
ends with is the result itself. -/
def walkFrom (followLast : Bool) (onLink : List Name → Place → Option (Place × Nat)) (links : Nat) :
    List Name → Place → Option (Place × Nat)
  | [], place => some (place, links)
  | name :: names, place =>
    if fs place ≠ some .directory then none
    else if skipped name then walkFrom followLast onLink links names place
    else if name = ['.', '.'] then walkFrom followLast onLink links names place.dropLast
    else
      match fs (place ++ [name]) with
      | none => none
      | some (.symlink target) =>
        if names = [] ∧ followLast = false then some (place ++ [name], links)
        else onLink (splitSlash target ++ names) (startOf target place)
      | some _ => walkFrom followLast onLink links names (place ++ [name])

/-- The place and how many more links may be followed. -/
def walk (followLast : Bool) : Nat → List Name → Place → Option (Place × Nat)
  | 0 => walkFrom fs followLast (fun _ _ => none) 0
  | links + 1 => walkFrom fs followLast (walk followLast links) (links + 1)

def resolve (followLast : Bool) (links : Nat) (path : List Char) (cwd : Place) : Option Place :=
  if path = [] then none
  else (walk fs followLast links (splitSlash path) (startOf path cwd)).map Prod.fst

/-- The last turn of a walk and the plain names that follow it. A turn is the place that a `..`
leads to or that a link's target is read from. -/
def turnsFrom (onLink : List Name → Place → Option (Place × List Name)) :
    List Name → Place → List Name → Option (Place × List Name)
  | [], turn, plain => some (turn, plain)
  | name :: names, turn, plain =>
    if skipped name then turnsFrom onLink names turn plain
    else if name = ['.', '.'] then turnsFrom onLink names (turn ++ plain).dropLast []
    else
      match fs (turn ++ plain ++ [name]) with
      | none => none
      | some (.symlink target) =>
        onLink (splitSlash target ++ names) (startOf target (turn ++ plain))
      | some _ => turnsFrom onLink names turn (plain ++ [name])

def lastTurn : Nat → List Name → Place → List Name → Option (Place × List Name)
  | 0 => turnsFrom fs fun _ _ => none
  | links + 1 => turnsFrom fs fun names place => lastTurn links names place []

end Walks

theorem splitSlash_ne_nil (text : List Char) : splitSlash text ≠ [] := by
  cases text with
  | nil => simp [splitSlash]
  | cons char text =>
    unfold splitSlash
    split
    · simp
    · split <;> simp

theorem splitSlash_append (before after : List Char) :
    splitSlash (before ++ '/' :: after) = splitSlash before ++ splitSlash after := by
  induction before with
  | nil => rfl
  | cons char before ih =>
    rw [List.cons_append, splitSlash, splitSlash, ih]
    split
    · rfl
    · cases hsplit : splitSlash before with
      | nil => exact absurd hsplit (splitSlash_ne_nil before)
      | cons name names => rfl

section Composition

variable {fs : FileSystem}

/-- A path is walked by its front part first and from there on by the rest. -/
theorem walkFrom_append {onLink : List Name → Place → Option (Place × Nat)} {links : Nat}
    {rest : List Name} {continueWith : Place → Nat → Option (Place × Nat)}
    (hlink : ∀ names place, onLink (names ++ rest) place =
      (onLink names place).bind fun result => continueWith result.1 result.2)
    (hend : ∀ place, walkFrom fs true onLink links rest place = continueWith place links)
    (names : List Name) (place : Place) :
    walkFrom fs true onLink links (names ++ rest) place =
      (walkFrom fs true onLink links names place).bind
        fun result => continueWith result.1 result.2 := by
  induction names generalizing place with
  | nil => exact hend place
  | cons name names ih =>
    rw [List.cons_append]
    unfold walkFrom
    split
    · rfl
    · split
      · exact ih place
      · split
        · exact ih place.dropLast
        · split
          · rfl
          · simp only [Bool.true_eq_false, and_false, if_false]
            rw [← List.append_assoc]
            exact hlink _ _
          · exact ih _

theorem walk_append (links : Nat) (names rest : List Name) (place : Place) :
    walk fs true links (names ++ rest) place =
      (walk fs true links names place).bind
        fun result => walk fs true result.2 rest result.1 := by
  induction links generalizing names rest place with
  | zero =>
    exact @walkFrom_append fs _ 0 rest (fun place left => walk fs true left rest place)
      (fun _ _ => rfl) (fun _ => rfl) names place
  | succ links ih =>
    refine @walkFrom_append fs _ (links + 1) rest (fun place left => walk fs true left rest place)
      ?_ (fun _ => rfl) names place
    intro names place
    exact ih names rest place

theorem turnsFrom_of_walkFrom {onLink : List Name → Place → Option (Place × Nat)}
    {onTurn : List Name → Place → Option (Place × List Name)} {links : Nat}
    (hlink : ∀ names place result left, onLink names place = some (result, left) →
      ∃ turn plain, onTurn names place = some (turn, plain) ∧ result = turn ++ plain)
    {names : List Name} {turn : Place} {plain : List Name} {result : Place} {left : Nat}
    (h : walkFrom fs true onLink links names (turn ++ plain) = some (result, left)) :
    ∃ turn' plain', turnsFrom fs onTurn names turn plain = some (turn', plain') ∧
      result = turn' ++ plain' := by
  induction names generalizing turn plain with
  | nil =>
    cases h
    exact ⟨turn, plain, rfl, rfl⟩
  | cons name names ih =>
    unfold walkFrom at h
    unfold turnsFrom
    split at h
    · cases h
    · split at h
      · rename_i hskipped
        rw [if_pos hskipped]
        exact ih h
      · rename_i hplain
        rw [if_neg hplain]
        split at h
        · rename_i hup
          rw [if_pos hup]
          rw [← List.append_nil (turn ++ plain).dropLast] at h
          exact ih h
        · rename_i hname
          rw [if_neg hname]
          split at h
          · cases h
          · rename_i target hnode
            simp only [Bool.true_eq_false, and_false, if_false] at h
            exact hlink _ _ _ _ h
          · rw [List.append_assoc] at h
            exact ih h

theorem lastTurn_of_walk {links : Nat} {names : List Name} {turn : Place} {plain : List Name}
    {place : Place} {left : Nat}
    (h : walk fs true links names (turn ++ plain) = some (place, left)) :
    ∃ turn' plain', lastTurn fs links names turn plain = some (turn', plain') ∧
      place = turn' ++ plain' := by
  induction links generalizing names turn plain place left with
  | zero =>
    refine turnsFrom_of_walkFrom ?_ h
    intro names place result left hnone
    cases hnone
  | succ links ih =>
    refine turnsFrom_of_walkFrom ?_ h
    intro names place result left hlinked
    rw [← List.append_nil place] at hlinked
    exact ih hlinked

theorem lastTurn_of_plain {links : Nat} {names : List Name} {turn : Place} {plain : List Name}
    (hup : ['.', '.'] ∉ names)
    (hlinks : ∀ (below : List Name) target, fs (turn ++ below) ≠ some (.symlink target))
    {turn' : Place} {plain' : List Name}
    (h : lastTurn fs links names turn plain = some (turn', plain')) : turn' = turn := by
  have hfrom : ∃ onLink, turnsFrom fs onLink names turn plain = some (turn', plain') := by
    cases links with
    | zero => exact ⟨_, h⟩
    | succ links => exact ⟨_, h⟩
  obtain ⟨onLink, hturns⟩ := hfrom
  clear h
  induction names generalizing plain with
  | nil =>
    cases hturns
    rfl
  | cons name names ih =>
    have hrest : ['.', '.'] ∉ names := fun hmem => hup (List.mem_cons_of_mem _ hmem)
    unfold turnsFrom at hturns
    split at hturns
    · exact ih hrest hturns
    · split at hturns
      · rename_i hname
        exact absurd (hname ▸ List.mem_cons_self) hup
      · split at hturns
        · cases hturns
        · rename_i target hnode
          rw [List.append_assoc] at hnode
          exact absurd hnode (hlinks _ target)
        · exact ih hrest hturns

theorem directory_of_walk {followLast : Bool} {links : Nat} {names : List Name} {place : Place}
    {result : Place × Nat} (hnames : names ≠ [])
    (h : walk fs followLast links names place = some result) : fs place = some .directory := by
  have hfrom : ∃ onLink left, walkFrom fs followLast onLink left names place = some result := by
    cases links with
    | zero => exact ⟨_, _, h⟩
    | succ links => exact ⟨_, _, h⟩
  obtain ⟨onLink, left, hwalk⟩ := hfrom
  cases names with
  | nil => exact absurd rfl hnames
  | cons name names =>
    unfold walkFrom at hwalk
    split at hwalk
    · cases hwalk
    · rename_i hdirectory
      exact not_not.mp hdirectory

/-- Where the walk ends lies below a directory just when its last turn does or stands above it
and the plain names lead down through it. -/
theorem prefix_append_iff {dir turn : Place} {plain : List Name} :
    dir <+: turn ++ plain ↔ dir <+: turn ∨ turn <+: dir ∧ dir.drop turn.length <+: plain := by
  constructor
  · intro h
    rcases List.prefix_or_prefix_of_prefix h (List.prefix_append turn plain) with hdir | hturn
    · exact .inl hdir
    · obtain ⟨below, rfl⟩ := hturn
      refine .inr ⟨List.prefix_append turn below, ?_⟩
      rw [List.drop_left]
      exact (List.prefix_append_right_inj turn).mp h
  · rintro (hdir | ⟨⟨below, rfl⟩, hbelow⟩)
    · exact hdir.trans (List.prefix_append turn plain)
    · rw [List.drop_left] at hbelow
      exact (List.prefix_append_right_inj turn).mpr hbelow

end Composition

end PathWalk
