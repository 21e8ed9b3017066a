import Mathlib.Data.List.Induction

/-! A file system without links: directories and files with contents. A file may be written whole,
or only up to some byte when the write fails half way. -/
namespace FileTree

/-- The names that lead to a file or directory from the root. -/
abbrev Place := List String

inductive Node where
  | directory
  | file (content : List Nat)
  deriving DecidableEq, Repr

inductive IoError where
  | notFound
  | alreadyExists
  | isADirectory
  | notADirectory
  | invalidInput
  | other (reason : String)
  deriving DecidableEq, Repr

/-- Everything that exists lies in a directory. -/
structure Tree where
  nodes : Place → Option Node
  root : nodes [] = some .directory
  closed : ∀ place name, nodes (place ++ [name]) ≠ none → nodes place = some .directory

/-- A write that fails: what it reports, and how many bytes it leaves if it has opened the file. -/
structure WriteFault where
  error : IoError
  left : Option Nat
  deriving DecidableEq, Repr

namespace Tree

def fileAt (tree : Tree) (place : Place) : Option (List Nat) :=
  match tree.nodes place with
  | some (.file content) => some content
  | _ => none

/-- Why no file of this name can be written in the directory. -/
def obstacle (tree : Tree) (directory : Place) (name : String) : Option IoError :=
  if name.toList.contains '/' then some .notADirectory
  else if name.toList.contains '\x00' then some .invalidInput
  else
    match tree.nodes directory with
    | none => some .notFound
    | some (.file _) => some .notADirectory
    | some .directory =>
      if tree.nodes (directory ++ [name]) = some .directory then some .isADirectory else none

def PlainName (name : String) : Prop :=
  name.toList.contains '/' = false ∧ name.toList.contains '\x00' = false

theorem obstacle_eq_none_iff {tree : Tree} {directory : Place} {name : String}
    (hdirectory : tree.nodes directory = some .directory) :
    tree.obstacle directory name = none ↔
      PlainName name ∧ tree.nodes (directory ++ [name]) ≠ some .directory := by
  unfold obstacle PlainName
  cases name.toList.contains '/' with
  | true => simp
  | false =>
    cases name.toList.contains '\x00' with
    | true => simp
    | false =>
      by_cases hnode : tree.nodes (directory ++ [name]) = some .directory
      · simp [hdirectory, hnode]
      · simp [hdirectory, hnode]

theorem directory_of_no_obstacle {tree : Tree} {directory : Place} {name : String}
    (h : tree.obstacle directory name = none) :
    tree.nodes directory = some .directory ∧
      tree.nodes (directory ++ [name]) ≠ some .directory := by
  unfold obstacle at h
  split at h
  · cases h
  · split at h
    · cases h
    · split at h
      · cases h
      · cases h
      · rename_i hdirectory
        split at h
        · cases h
        · rename_i hnode
          exact ⟨hdirectory, hnode⟩

theorem append_ne_self (place : Place) (name : String) : place ++ [name] ≠ place := by
  intro h
  have hlength := congrArg List.length h
  rw [List.length_append, List.length_singleton] at hlength
  omega

def put (tree : Tree) (directory : Place) (name : String) (content : List Nat) : Tree :=
  if h : tree.obstacle directory name = none then
    { nodes := fun place =>
        if place = directory ++ [name] then some (.file content) else tree.nodes place
      root := by
        rw [if_neg (by simp)]
        exact tree.root
      closed := by
        obtain ⟨hdirectory, hnode⟩ := directory_of_no_obstacle h
        intro place other hne
        split at hne
        · rename_i heq
          obtain ⟨rfl, -⟩ := List.append_inj' heq rfl
          rw [if_neg (append_ne_self place name).symm]
          exact hdirectory
        · have hplace := tree.closed place other hne
          rw [if_neg]
          · exact hplace
          · rintro rfl
            exact hnode hplace }
  else tree

theorem nodes_put {tree : Tree} {directory : Place} {name : String}
    (h : tree.obstacle directory name = none) (content : List Nat) (place : Place) :
    (tree.put directory name content).nodes place =
      if place = directory ++ [name] then some (.file content) else tree.nodes place := by
  rw [put, dif_pos h]

def writeFile (tree : Tree) (directory : Place) (name : String) (content : List Nat)
    (fault : Option WriteFault) : Except IoError Unit × Tree :=
  match tree.obstacle directory name with
  | some error => (.error error, tree)
  | none =>
    match fault with
    | none => (.ok (), tree.put directory name content)
    | some fault =>
      match fault.left with
      | none => (.error fault.error, tree)
      | some count => (.error fault.error, tree.put directory name (content.take count))

/-- A copy of a file into another directory under the same name. -/
def copyFile (tree : Tree) (source directory : Place) (name : String) (fault : Option WriteFault) :
    Except IoError Unit × Tree :=
  match tree.fileAt (source ++ [name]) with
  | none => (.error .notFound, tree)
  | some content => tree.writeFile directory name content fault

def addDirectory (tree : Tree) (parent : Place) (name : String)
    (h : tree.nodes parent = some .directory) : Tree where
  nodes place := if place = parent ++ [name] then some .directory else tree.nodes place
  root := by
    rw [if_neg (by simp)]
    exact tree.root
  closed := by
    intro place other hne
    split at hne
    · rename_i heq
      obtain ⟨rfl, -⟩ := List.append_inj' heq rfl
      rw [if_neg (append_ne_self place name).symm]
      exact h
    · split
      · rfl
      · exact tree.closed place other hne

def createDirectory (tree : Tree) (parent : Place) (name : String) (refused : Option IoError) :
    Except IoError Unit × Tree :=
  match tree.nodes (parent ++ [name]) with
  | some _ => (.error .alreadyExists, tree)
  | none =>
    if h : tree.nodes parent = some .directory then
      match refused with
      | some error => (.error error, tree)
      | none => (.ok (), tree.addDirectory parent name h)
    else (.error .notFound, tree)

/-- The directories below `parent`, each made where nothing is. -/
def createDirectories (refused : Place → Option IoError) (tree : Tree) (parent : Place) :
    List String → Except IoError Unit × Tree
  | [] => (.ok (), tree)
  | name :: names =>
    if tree.nodes (parent ++ [name]) = some .directory then
      createDirectories refused tree (parent ++ [name]) names
    else
      match tree.createDirectory parent name (refused (parent ++ [name])) with
      | (.error error, tree) => (.error error, tree)
      | (.ok (), tree) => createDirectories refused tree (parent ++ [name]) names

def createDirAll (tree : Tree) (refused : Place → Option IoError) (place : Place) :
    Except IoError Unit × Tree :=
  createDirectories refused tree [] place

/-- The tree without a place other than the root and all that lies below it. -/
def removeDirAll (tree : Tree) (place : Place) : Tree where
  nodes other := if other ≠ [] ∧ place <+: other then none else tree.nodes other
  root := by
    rw [if_neg fun h => h.1 rfl]
    exact tree.root
  closed := by
    intro other name hne
    split at hne
    · exact absurd rfl hne
    · rename_i houtside
      rw [if_neg]
      · exact tree.closed other name hne
      · rintro ⟨-, habove⟩
        exact houtside ⟨by simp, habove.trans (List.prefix_append _ _)⟩

end Tree

section Frames

theorem fileAt_congr {tree other : Tree} {place : Place}
    (h : tree.nodes place = other.nodes place) : tree.fileAt place = other.fileAt place := by
  rw [Tree.fileAt, Tree.fileAt, h]

theorem nothing_below {tree : Tree} {place : Place} (h : tree.nodes place = none)
    (names : List String) : tree.nodes (place ++ names) = none := by
  induction names using List.reverseRecOn with
  | nil => rwa [List.append_nil]
  | append_singleton names name ih =>
    by_contra hne
    rw [← List.append_assoc] at hne
    rw [tree.closed _ _ hne] at ih
    cases ih

theorem createDirectory_cases {tree after : Tree} {parent : Place} {name : String}
    {refused : Option IoError} {result : Except IoError Unit}
    (h : tree.createDirectory parent name refused = (result, after)) :
    (∃ error, result = .error error ∧ after = tree) ∨
      (result = .ok () ∧ tree.nodes (parent ++ [name]) = none ∧ ∀ place, after.nodes place =
        if place = parent ++ [name] then some .directory else tree.nodes place) := by
  unfold Tree.createDirectory at h
  split at h
  · cases h
    exact .inl ⟨_, rfl, rfl⟩
  · rename_i hnone
    split at h
    · split at h
      · cases h
        exact .inl ⟨_, rfl, rfl⟩
      · cases h
        exact .inr ⟨rfl, hnone, fun place => rfl⟩
    · cases h
      exact .inl ⟨_, rfl, rfl⟩

theorem fileAt_createDirectory {tree after : Tree} {parent : Place} {name : String}
    {refused : Option IoError} {result : Except IoError Unit}
    (h : tree.createDirectory parent name refused = (result, after)) (place : Place) :
    after.fileAt place = tree.fileAt place := by
  rcases createDirectory_cases h with ⟨error, -, rfl⟩ | ⟨-, hnone, hnodes⟩
  · rfl
  · by_cases heq : place = parent ++ [name]
    · have hafter := hnodes place
      rw [if_pos heq] at hafter
      rw [Tree.fileAt, Tree.fileAt, hafter, heq, hnone]
    · have hafter := hnodes place
      rw [if_neg heq] at hafter
      exact fileAt_congr hafter

theorem fileAt_createDirectories {refused : Place → Option IoError} {names : List String}
    {tree after : Tree} {parent : Place} {result : Except IoError Unit}
    (h : tree.createDirectories refused parent names = (result, after)) (place : Place) :
    after.fileAt place = tree.fileAt place := by
  induction names generalizing tree parent with
  | nil =>
    cases h
    rfl
  | cons name names ih =>
    rw [Tree.createDirectories] at h
    split at h
    · exact ih h
    · split at h
      · rename_i hmade
        cases h
        exact fileAt_createDirectory hmade place
      · rename_i hmade
        rw [ih h, fileAt_createDirectory hmade place]

/-- The directories down to a place are there or can be made. -/
def Creatable (refused : Place → Option IoError) (tree : Tree) (parent : Place)
    (names : List String) : Prop :=
  ∀ front, front ≠ [] → front <+: names → tree.nodes (parent ++ front) = some .directory ∨
    (tree.nodes (parent ++ front) = none ∧ refused (parent ++ front) = none)

theorem creatable_cons {refused : Place → Option IoError} {tree : Tree} {parent : Place}
    {name : String} {names : List String} :
    Creatable refused tree parent (name :: names) ↔
      (tree.nodes (parent ++ [name]) = some .directory ∨
        (tree.nodes (parent ++ [name]) = none ∧ refused (parent ++ [name]) = none)) ∧
          Creatable refused tree (parent ++ [name]) names := by
  constructor
  · intro h
    refine ⟨h [name] (List.cons_ne_nil _ _) ⟨names, rfl⟩, ?_⟩
    intro front hne hfront
    have hlonger := h (name :: front) (List.cons_ne_nil _ _)
      (List.cons_prefix_cons.mpr ⟨rfl, hfront⟩)
    rwa [List.append_cons] at hlonger
  · rintro ⟨hfirst, hrest⟩ front hne hfront
    cases front with
    | nil => exact absurd rfl hne
    | cons other front =>
      obtain ⟨rfl, hbelow⟩ := List.cons_prefix_cons.mp hfront
      by_cases hempty : front = []
      · rw [hempty]
        exact hfirst
      · rw [List.append_cons]
        exact hrest front hempty hbelow

/-- Directories are made exactly when all of them can be, and only places on the way change. -/
theorem createDirectories_cases {refused : Place → Option IoError} {names : List String}
    {tree after : Tree} {parent : Place} {result : Except IoError Unit}
    (hparent : tree.nodes parent = some .directory)
    (h : tree.createDirectories refused parent names = (result, after)) :
    (∀ place, (∀ front, front ≠ [] → front <+: names → place ≠ parent ++ front) →
        after.nodes place = tree.nodes place) ∧
      ((result = .ok () ∧ Creatable refused tree parent names ∧
          after.nodes (parent ++ names) = some .directory) ∨
        ∃ error, result = .error error ∧ ¬Creatable refused tree parent names) := by
  induction names generalizing tree parent with
  | nil =>
    cases h
    refine ⟨fun place _ => rfl, .inl ⟨rfl, ?_, by rwa [List.append_nil]⟩⟩
    intro front hne hfront
    exact absurd (List.prefix_nil.mp hfront) hne
  | cons name names ih =>
    -- a place off the way is off the rest of the way
    have hoff : ∀ place, (∀ front, front ≠ [] → front <+: name :: names →
        place ≠ parent ++ front) → place ≠ parent ++ [name] ∧
          ∀ front, front ≠ [] → front <+: names → place ≠ parent ++ [name] ++ front := by
      intro place hplace
      refine ⟨hplace [name] (List.cons_ne_nil _ _) ⟨names, rfl⟩, ?_⟩
      intro front hne hfront
      rw [← List.append_cons]
      exact hplace (name :: front) (List.cons_ne_nil _ _)
        (List.cons_prefix_cons.mpr ⟨rfl, hfront⟩)
    rw [Tree.createDirectories] at h
    rw [creatable_cons]
    split at h
    · rename_i hdirectory
      obtain ⟨hkept, hresult⟩ := ih hdirectory h
      refine ⟨fun place hplace => hkept place (hoff place hplace).2, ?_⟩
      rcases hresult with ⟨hok, hcreatable, hlast⟩ | ⟨error, herror, hnot⟩
      · refine .inl ⟨hok, ⟨.inl hdirectory, hcreatable⟩, ?_⟩
        rwa [List.append_cons]
      · exact .inr ⟨error, herror, fun hcreatable => hnot hcreatable.2⟩
    · rename_i hmissing
      split at h
      · rename_i error made hmade
        cases h
        rcases createDirectory_cases hmade with ⟨other, -, rfl⟩ | ⟨hok, -⟩
        · refine ⟨fun place _ => rfl, .inr ⟨error, rfl, ?_⟩⟩
          rintro ⟨hdirectory | ⟨hnone, hallowed⟩, -⟩
          · exact hmissing hdirectory
          · rw [Tree.createDirectory, hnone, hallowed] at hmade
            simp only [dif_pos hparent] at hmade
            cases hmade
        · cases hok
      · rename_i made hmade
        rcases createDirectory_cases hmade with ⟨other, hfailed, -⟩ | ⟨-, hnone, hnodes⟩
        · cases hfailed
        · have hthere : made.nodes (parent ++ [name]) = some .directory := by
            rw [hnodes, if_pos rfl]
          have hallowed : refused (parent ++ [name]) = none := by
            cases hrefused : refused (parent ++ [name]) with
            | none => rfl
            | some error =>
              rw [Tree.createDirectory, hnone, hrefused] at hmade
              simp only [dif_pos hparent] at hmade
              cases hmade
          have hcreatable : Creatable refused made (parent ++ [name]) names ↔
              Creatable refused tree (parent ++ [name]) names := by
            constructor
            · intro hcreatable front hne hfront
              have hnode := hnodes (parent ++ [name] ++ front)
              rw [if_neg (by simpa using hne)] at hnode
              rw [← hnode]
              exact hcreatable front hne hfront
            · intro hcreatable front hne hfront
              have hnode := hnodes (parent ++ [name] ++ front)
              rw [if_neg (by simpa using hne)] at hnode
              rw [hnode]
              exact hcreatable front hne hfront
          obtain ⟨hkept, hresult⟩ := ih hthere h
          refine ⟨?_, ?_⟩
          · intro place hplace
            rw [hkept place (hoff place hplace).2, hnodes, if_neg (hoff place hplace).1]
          · rcases hresult with ⟨hok, hrest, hlast⟩ | ⟨error, herror, hnot⟩
            · refine .inl ⟨hok, ⟨.inr ⟨hnone, hallowed⟩, hcreatable.mp hrest⟩, ?_⟩
              rwa [List.append_cons]
            · exact .inr ⟨error, herror, fun hrest => hnot (hcreatable.mpr hrest.2)⟩

theorem directory_above {tree : Tree} {place : Place} {names : List String}
    (h : tree.nodes (place ++ names) = some .directory) : tree.nodes place = some .directory := by
  cases hplace : tree.nodes place with
  | none =>
    rw [nothing_below hplace names] at h
    cases h
  | some node =>
    cases names with
    | nil => rwa [List.append_nil, hplace] at h
    | cons name names =>
      have hchild : tree.nodes (place ++ [name]) ≠ none := by
        intro hnone
        have hbelow := nothing_below hnone names
        rw [← List.append_cons] at hbelow
        rw [hbelow] at h
        cases h
      rw [← hplace]
      exact tree.closed place name hchild

theorem createDirectories_existing {refused : Place → Option IoError} {names : List String}
    {tree : Tree} {parent : Place} (h : tree.nodes (parent ++ names) = some .directory) :
    tree.createDirectories refused parent names = (.ok (), tree) := by
  induction names generalizing parent with
  | nil => rfl
  | cons name names ih =>
    rw [List.append_cons] at h
    rw [Tree.createDirectories, if_pos (directory_above h), ih h]

theorem fileAt_createDirAll {refused : Place → Option IoError} {tree after : Tree}
    {target : Place} {result : Except IoError Unit}
    (h : tree.createDirAll refused target = (result, after)) (place : Place) :
    after.fileAt place = tree.fileAt place :=
  fileAt_createDirectories h place

/-- A write that succeeds puts its content; one that fails leaves the file alone or a part of the
content in it. -/
theorem writeFile_cases {tree after : Tree} {directory : Place} {name : String}
    {content : List Nat} {fault : Option WriteFault} {result : Except IoError Unit}
    (h : tree.writeFile directory name content fault = (result, after)) :
    (result = .ok () ∧ fault = none ∧ tree.obstacle directory name = none ∧
        after = tree.put directory name content) ∨
      (∃ error, result = .error error ∧ tree.obstacle directory name = some error ∧
        after = tree) ∨
      ∃ failed, fault = some failed ∧ result = .error failed.error ∧
        tree.obstacle directory name = none ∧ after = match failed.left with
          | none => tree
          | some count => tree.put directory name (content.take count) := by
  unfold Tree.writeFile at h
  split at h
  · rename_i error hobstacle
    cases h
    exact .inr (.inl ⟨error, rfl, hobstacle, rfl⟩)
  · rename_i hobstacle
    split at h
    · cases h
      exact .inl ⟨rfl, rfl, hobstacle, rfl⟩
    · rename_i failed
      refine .inr (.inr ⟨failed, rfl, ?_⟩)
      cases hleft : failed.left with
      | none =>
        rw [hleft] at h
        cases h
        exact ⟨rfl, hobstacle, rfl⟩
      | some count =>
        rw [hleft] at h
        cases h
        exact ⟨rfl, hobstacle, rfl⟩

theorem nodes_writeFile {tree after : Tree} {directory : Place} {name : String}
    {content : List Nat} {fault : Option WriteFault} {result : Except IoError Unit}
    (h : tree.writeFile directory name content fault = (result, after)) {place : Place}
    (hplace : place ≠ directory ++ [name]) : after.nodes place = tree.nodes place := by
  rcases writeFile_cases h with ⟨-, -, hobstacle, rfl⟩ | ⟨error, -, -, rfl⟩ |
      ⟨failed, -, -, hobstacle, hafter⟩
  · rw [Tree.nodes_put hobstacle, if_neg hplace]
  · rfl
  · rw [hafter]
    split
    · rfl
    · rw [Tree.nodes_put hobstacle, if_neg hplace]

end Frames

end FileTree
