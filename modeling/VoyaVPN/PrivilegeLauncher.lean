import VoyaVPN.PathWalk
import VoyaVPN.PlatformProcess

/-! The root-owned launcher: how its script is given the directory of the cores, and what its
run verb does with a path. -/
namespace PrivilegeLauncher

open PlatformProcess PathWalk

def sudoersDropInPath : String := "/etc/sudoers.d/voya-vpn"

def isSafeShellChar (char : Char) : Bool :=
  char.isAlphanum || char = '_' || char = '-' || char = '.' || char = '/' || char = ':'

def escapeQuotes (value : List Char) : List Char :=
  value.flatMap fun char => if char = '\'' then ['\'', '\\', '\'', '\''] else [char]

def quoteShellArg (value : List Char) : List Char :=
  if value.isEmpty then ['\'', '\'']
  else if value.all isSafeShellChar then value
  else '\'' :: escapeQuotes value ++ ['\'']

/-- Where the shell is in a word: outside of quotes, between them, or past a backslash. -/
inductive Quoting where
  | bare
  | quoted
  | escaped
  deriving DecidableEq, Repr

/-- The value of a word of an assignment, as the shell reads it. A special character outside of
quotes makes the value depend on more than quoting, and there is none. -/
def expandWord : Quoting → List Char → Option (List Char)
  | .bare, [] => some []
  | .quoted, [] | .escaped, [] => none
  | .quoted, char :: word =>
    if char = '\'' then expandWord .bare word else (expandWord .quoted word).map (char :: ·)
  | .escaped, char :: word =>
    if char = '\n' then none else (expandWord .bare word).map (char :: ·)
  | .bare, char :: word =>
    if char = '\'' then expandWord .quoted word
    else if char = '\\' then expandWord .escaped word
    else if isSafeShellChar char then (expandWord .bare word).map (char :: ·)
    else none

inductive PrivilegeError where
  | unsupportedOs
  deriving DecidableEq, Repr

/-- The words that are written into the text of the script. -/
structure LauncherScript where
  prefixWord : List Char
  sudoersWord : List Char
  launcherDirWord : List Char
  deriving DecidableEq, Repr

def launcherScript (os : TargetOs) (binPrefix : String) : Except PrivilegeError LauncherScript :=
  match elevateLauncherDir os with
  | none => .error .unsupportedOs
  | some launcherDir =>
    .ok { prefixWord := quoteShellArg binPrefix.toList
          sudoersWord := quoteShellArg sudoersDropInPath.toList
          launcherDirWord := quoteShellArg launcherDir.toList }

/-- What the system the launcher runs on answers: its files, the number of links it follows and
the directory the launcher is started in. -/
structure Host where
  fs : FileSystem
  maxLinks : Nat
  cwd : Place

def Host.nodeAt (host : Host) (followLast : Bool) (path : List Char) : Option Node :=
  (resolve host.fs followLast host.maxLinks path host.cwd).bind host.fs

/-- `-L`. -/
def Host.isSymlink (host : Host) (path : List Char) : Bool :=
  match host.nodeAt false path with
  | some (.symlink _) => true
  | _ => false

/-- `-f`. -/
def Host.isFile (host : Host) (path : List Char) : Bool := host.nodeAt true path = some .file

inductive LauncherOutcome where
  | executes (path : String) (arguments : List String)
  | exits (code : Int) (stderr : String)
  deriving DecidableEq, Repr

/-- The run verb, from its own arguments on. -/
def runVerb (host : Host) (binPrefix : List Char) (arguments : List String) : LauncherOutcome :=
  let exe := arguments.headD ""
  let arguments := arguments.tail
  if exe.toList.head? ≠ some '/' then
    .exits 64 "voya-elevate: core path must be absolute"
  else if host.isSymlink exe.toList || !host.isFile exe.toList then
    .exits 64 "voya-elevate: core path is not a regular file"
  else if !(binPrefix ++ ['/']).isPrefixOf exe.toList then
    .exits 64 "voya-elevate: core path is outside the allowed directory"
  else .executes exe arguments

/-- The run verb of a generated script; a word that is none is a syntax error. -/
def LauncherScript.run (script : LauncherScript) (host : Host) (arguments : List String) :
    LauncherOutcome :=
  match expandWord .bare script.prefixWord with
  | none => .exits 2 "syntax error"
  | some binPrefix => runVerb host binPrefix arguments

theorem expandWord_safe {value : List Char} (h : value.all isSafeShellChar = true) :
    expandWord .bare value = some value := by
  induction value with
  | nil => rfl
  | cons char value ih =>
    obtain ⟨hchar, hvalue⟩ := Bool.and_eq_true_iff.mp h
    have hquote : char ≠ '\'' := by
      rintro rfl
      exact absurd hchar (by decide)
    have hbackslash : char ≠ '\\' := by
      rintro rfl
      exact absurd hchar (by decide)
    rw [expandWord, if_neg hquote, if_neg hbackslash, if_pos hchar, ih hvalue]
    rfl

theorem expandWord_escapeQuotes (value : List Char) :
    expandWord .quoted (escapeQuotes value ++ ['\'']) = some value := by
  induction value with
  | nil => rfl
  | cons char value ih =>
    by_cases hquote : char = '\''
    · -- out of the quotes, a quote behind a backslash, and in again
      have hword : escapeQuotes (char :: value) ++ ['\''] =
          '\'' :: '\\' :: '\'' :: '\'' :: (escapeQuotes value ++ ['\'']) := by
        rw [hquote]
        rfl
      rw [hword, expandWord, if_pos rfl, expandWord, if_neg (by decide), if_pos rfl, expandWord,
        if_neg (by decide), expandWord, if_pos rfl, ih, hquote]
      rfl
    · have hword : escapeQuotes (char :: value) ++ ['\''] =
          char :: (escapeQuotes value ++ ['\'']) := by
        simp [escapeQuotes, hquote]
      rw [hword, expandWord, if_neg hquote, ih]
      rfl

theorem expandWord_quoteShellArg (value : List Char) :
    expandWord .bare (quoteShellArg value) = some value := by
  unfold quoteShellArg
  split
  · rename_i hempty
    rw [List.isEmpty_iff.mp hempty]
    rfl
  · split
    · rename_i hsafe
      exact expandWord_safe hsafe
    · change expandWord .bare ('\'' :: (escapeQuotes value ++ ['\''])) = some value
      rw [expandWord, if_pos rfl]
      exact expandWord_escapeQuotes value

end PrivilegeLauncher
