import VoyaVPN.PrivilegeLauncher

/-! The run verb executes what is named inside the directory of the cores; which paths are also
inside it once `..` and links are resolved. -/
namespace LauncherConfinement

open PlatformProcess PathWalk PrivilegeLauncher

/-- The path, resolved, is a regular file inside the resolved directory. -/
def LiesInside (host : Host) (binPrefix exe : List Char) : Prop :=
  ∃ dir place, resolve host.fs true host.maxLinks binPrefix host.cwd = some dir ∧
    host.fs dir = some .directory ∧
    resolve host.fs true host.maxLinks exe host.cwd = some place ∧
    host.fs place = some .file ∧ dir <+: place ∧ dir ≠ place

/-- What is executed is the given path with the given arguments, and lies inside the directory;
otherwise the script exits. -/
def Confined (host : Host) (binPrefix : String) (arguments : List String)
    (outcome : LauncherOutcome) : Prop :=
  (outcome = .executes (arguments.headD "") arguments.tail ∧
      LiesInside host binPrefix.toList (arguments.headD "").toList) ∨
    ∃ stderr, outcome = .exits 64 stderr

def PassesTests (host : Host) (binPrefix exe : List Char) : Prop :=
  exe.head? = some '/' ∧ host.isSymlink exe = false ∧ host.isFile exe = true ∧
    binPrefix ++ ['/'] <+: exe

/-- The prefix names a directory, and the last turn on the rest of the path stands in it or
below, or stands above it and is followed by the names that lead down to it. -/
def TurnsBack (host : Host) (binPrefix exe : List Char) : Prop :=
  binPrefix ≠ [] ∧
    ∃ dir left turn plain,
      walk host.fs true host.maxLinks (splitSlash binPrefix) (startOf binPrefix host.cwd) =
        some (dir, left) ∧
      lastTurn host.fs left (splitSlash (exe.drop (binPrefix.length + 1))) dir [] =
        some (turn, plain) ∧
      (dir <+: turn ∨ turn <+: dir ∧ dir.drop turn.length <+: plain)

theorem runVerb_executes {host : Host} {binPrefix : List Char} {arguments : List String}
    (h : PassesTests host binPrefix (arguments.headD "").toList) :
    runVerb host binPrefix arguments = .executes (arguments.headD "") arguments.tail := by
  obtain ⟨habsolute, hlink, hfile, hinside⟩ := h
  have hstarts : (binPrefix ++ ['/']).isPrefixOf (arguments.headD "").toList = true :=
    List.isPrefixOf_iff_prefix.mpr hinside
  unfold runVerb
  dsimp only
  rw [if_neg (not_not.mpr habsolute), if_neg, if_neg]
  · rw [hstarts]
    decide
  · rw [hlink, hfile]
    decide

theorem runVerb_exits {host : Host} {binPrefix : List Char} {arguments : List String}
    (h : ¬ PassesTests host binPrefix (arguments.headD "").toList) :
    ∃ stderr, runVerb host binPrefix arguments = .exits 64 stderr := by
  unfold runVerb
  dsimp only
  generalize arguments.headD "" = exe at h ⊢
  split
  · exact ⟨_, rfl⟩
  · rename_i habsolute
    split
    · exact ⟨_, rfl⟩
    · rename_i hfile
      split
      · exact ⟨_, rfl⟩
      · rename_i hinside
        have hregular : host.isSymlink exe.toList = false ∧ host.isFile exe.toList = true := by
          simpa using hfile
        have hstarts : (binPrefix ++ ['/']).isPrefixOf exe.toList = true := by
          simpa using hinside
        exact absurd ⟨not_not.mp habsolute, hregular.1, hregular.2,
          List.isPrefixOf_iff_prefix.mp hstarts⟩ h

theorem resolve_eq_some {fs : FileSystem} {links : Nat} {path : List Char} {cwd place : Place} :
    resolve fs true links path cwd = some place ↔
      path ≠ [] ∧ ∃ left, walk fs true links (splitSlash path) (startOf path cwd) =
        some (place, left) := by
  unfold resolve
  constructor
  · intro h
    split at h
    · cases h
    · rename_i hpath
      obtain ⟨⟨result, left⟩, hwalk, rfl⟩ := Option.map_eq_some_iff.mp h
      exact ⟨hpath, left, hwalk⟩
  · rintro ⟨hpath, left, hwalk⟩
    rw [if_neg hpath, hwalk]
    rfl

theorem startOf_append {before after : List Char} {cwd : Place} (hbefore : before ≠ []) :
    startOf (before ++ after) cwd = startOf before cwd := by
  cases before with
  | nil => exact absurd rfl hbefore
  | cons char before => rfl

/-- The rest of the path is walked from the directory that the prefix names. -/
theorem walk_rest {host : Host} {binPrefix rest : List Char} {dir place : Place}
    {left : Nat} (hnamed : binPrefix ≠ [])
    (hdir : walk host.fs true host.maxLinks (splitSlash binPrefix) (startOf binPrefix host.cwd) =
      some (dir, left))
    (hplace : resolve host.fs true host.maxLinks (binPrefix ++ '/' :: rest) host.cwd = some place) :
    host.fs dir = some .directory ∧
      ∃ turn plain, lastTurn host.fs left (splitSlash rest) dir [] = some (turn, plain) ∧
        place = turn ++ plain := by
  obtain ⟨-, last, hwalk⟩ := resolve_eq_some.mp hplace
  rw [splitSlash_append, startOf_append hnamed, walk_append, hdir] at hwalk
  refine ⟨directory_of_walk (splitSlash_ne_nil rest) hwalk, ?_⟩
  rw [← List.append_nil dir] at hwalk
  exact lastTurn_of_walk hwalk

theorem liesInside_iff {host : Host} {binPrefix exe : List Char}
    (h : PassesTests host binPrefix exe) :
    LiesInside host binPrefix exe ↔ TurnsBack host binPrefix exe := by
  obtain ⟨-, -, hfile, rest, rfl⟩ := h
  obtain ⟨file, hresolve, hnode⟩ := Option.bind_eq_some_iff.mp (of_decide_eq_true hfile)
  have hsplit : binPrefix ++ ['/'] ++ rest = binPrefix ++ '/' :: rest := by simp
  have hdrop : (binPrefix ++ '/' :: rest).drop (binPrefix.length + 1) = rest := by
    rw [← hsplit]
    exact List.drop_left' (by simp)
  rw [hsplit] at hresolve ⊢
  unfold TurnsBack
  rw [hdrop]
  constructor
  · rintro ⟨dir, place, hdir, -, hplace, -, hbelow, -⟩
    obtain ⟨hnamed, left, hwalk⟩ := resolve_eq_some.mp hdir
    obtain ⟨-, turn, plain, hturn, rfl⟩ := walk_rest hnamed hwalk hplace
    exact ⟨hnamed, dir, left, turn, plain, hwalk, hturn, prefix_append_iff.mp hbelow⟩
  · rintro ⟨hnamed, dir, left, turn, plain, hwalk, hturn, hback⟩
    obtain ⟨hdirectory, turn', plain', hturn', rfl⟩ := walk_rest hnamed hwalk hresolve
    rw [hturn] at hturn'
    cases hturn'
    refine ⟨dir, turn ++ plain, resolve_eq_some.mpr ⟨hnamed, left, hwalk⟩, hdirectory, hresolve,
      hnode, prefix_append_iff.mpr hback, ?_⟩
    rintro rfl
    rw [hnode] at hdirectory
    cases hdirectory

/-- A path without `..` and without links below the prefix is always confined. -/
theorem turnsBack_of_plain {host : Host} {binPrefix exe : List Char}
    (h : PassesTests host binPrefix exe) (hnamed : binPrefix ≠ []) {dir : Place} {left : Nat}
    (hdir : walk host.fs true host.maxLinks (splitSlash binPrefix) (startOf binPrefix host.cwd) =
      some (dir, left))
    (hup : ['.', '.'] ∉ splitSlash (exe.drop (binPrefix.length + 1)))
    (hlinks : ∀ (below : List Name) target, host.fs (dir ++ below) ≠ some (.symlink target)) :
    TurnsBack host binPrefix exe := by
  obtain ⟨-, -, hfile, rest, rfl⟩ := h
  obtain ⟨file, hresolve, -⟩ := Option.bind_eq_some_iff.mp (of_decide_eq_true hfile)
  have hsplit : binPrefix ++ ['/'] ++ rest = binPrefix ++ '/' :: rest := by simp
  have hdrop : (binPrefix ++ '/' :: rest).drop (binPrefix.length + 1) = rest := by
    rw [← hsplit]
    exact List.drop_left' (by simp)
  rw [hsplit] at hresolve hup ⊢
  rw [hdrop] at hup
  obtain ⟨-, turn, plain, hturn, -⟩ := walk_rest hnamed hdir hresolve
  have hstays : turn = dir := lastTurn_of_plain hup hlinks hturn
  refine ⟨hnamed, dir, left, turn, plain, hdir, ?_, .inl (by rw [hstays])⟩
  rw [hdrop]
  exact hturn

/-- The run verb is confined just when the script refuses the path or the path turns back into
the directory. -/
theorem run_confined_iff {os : TargetOs} {binPrefix : String} {script : LauncherScript}
    (h : launcherScript os binPrefix = .ok script) (host : Host) (arguments : List String) :
    Confined host binPrefix arguments (script.run host arguments) ↔
      ¬ PassesTests host binPrefix.toList (arguments.headD "").toList ∨
        TurnsBack host binPrefix.toList (arguments.headD "").toList := by
  have hrun : script.run host arguments = runVerb host binPrefix.toList arguments := by
    unfold launcherScript at h
    split at h
    · cases h
    · cases h
      simp [LauncherScript.run, expandWord_quoteShellArg]
  rw [hrun]
  by_cases htests : PassesTests host binPrefix.toList (arguments.headD "").toList
  · rw [Confined, runVerb_executes htests, ← liesInside_iff htests]
    constructor
    · rintro (⟨-, hinside⟩ | ⟨stderr, hexits⟩)
      · exact .inr hinside
      · cases hexits
    · rintro (hrefused | hinside)
      · exact absurd htests hrefused
      · exact .inl ⟨rfl, hinside⟩
  · constructor
    · exact fun _ => .inl htests
    · exact fun _ => .inr (runVerb_exits htests)

/-- A system with a core in the directory of the cores and a shell outside of it. -/
def exampleFiles : FileSystem
  | [] | [['b', 'i', 'n']] | [['v']] => some .directory
  | [['v'], ['c']] | [['b', 'i', 'n'], ['s', 'h']] => some .file
  | _ => none

def exampleHost : Host := { fs := exampleFiles, maxLinks := 40, cwd := [] }

def exampleScript : LauncherScript :=
  { prefixWord := ['/', 'v']
    sudoersWord := quoteShellArg sudoersDropInPath.toList
    launcherDirWord := quoteShellArg "/usr/libexec/voya-vpn".toList }

theorem run_confined_iff_core :
    Confined exampleHost "/v" ["/v/c"] (exampleScript.run exampleHost ["/v/c"]) := by
  refine (@run_confined_iff .linux "/v" exampleScript rfl exampleHost ["/v/c"]).mpr (.inr ?_)
  exact ⟨by decide, [['v']], 40, [['v']], [['c']], by decide, by decide, .inl (by decide)⟩

/-- A path that starts with the directory and goes up from it runs the shell. -/
theorem run_confined_counterexample :
    ¬ ∀ (os : TargetOs) (binPrefix : String) (script : LauncherScript),
      launcherScript os binPrefix = .ok script → ∀ (host : Host) (arguments : List String),
        Confined host binPrefix arguments (script.run host arguments) := by
  intro h
  have hruns : exampleScript.run exampleHost ["/v/../bin/sh"] = .executes "/v/../bin/sh" [] := by
    decide
  rcases h .linux "/v" exampleScript rfl exampleHost ["/v/../bin/sh"] with
    ⟨-, dir, place, hdir, -, hplace, -, hbelow, -⟩ | ⟨stderr, hexits⟩
  · have hdirectory : resolve exampleFiles true 40 "/v".toList [] = some [['v']] := by decide
    have hshell : resolve exampleFiles true 40 "/v/../bin/sh".toList [] =
        some [['b', 'i', 'n'], ['s', 'h']] := by decide
    cases hdirectory.symm.trans hdir
    cases hshell.symm.trans hplace
    exact absurd hbelow (by decide)
  · rw [hruns] at hexits
    cases hexits

end LauncherConfinement
