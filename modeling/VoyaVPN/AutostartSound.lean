import VoyaVPN.Autostart

/-! Which executables the autostart artifacts run: every one on Windows, on macOS those whose paths
are of XML characters without carriage returns, and on Linux those whose paths need no quotes. -/
namespace AutostartSound

open PlatformProcess ShellQuoting Autostart

section Statement

/-- A path of valid characters; a Windows path has no double quotes. -/
structure ExecutablePath (os : TargetOs) (path : List Char) : Prop where
  null : '\x00' ∉ path
  line : '\n' ∉ path
  quote : os = .windows → '\x22' ∉ path

/-- The artifact runs the path as the program, without arguments or other commands than the check
that the program does not run yet. -/
def RunsExactly (os : TargetOs) (path : List Char) : Prop :=
  match os with
  | .windows => windowsCommand (quoteWindowsPath path) = (path, [])
  | .linux => ∀ fields, desktopCommand fields (linuxDesktopEntry autostartAppName path)
    = some [path]
  | .macos => ∃ name, launchAgentCommand (macosLaunchAgentPlist autostartAppName path) =
      some { guard := ["pgrep".toList, "-x".toList, name], command := [path] }
  | .other => True

/-- The paths that need none of the quoting that an artifact leaves out. -/
def NeedsNoQuoting (os : TargetOs) (path : List Char) : Prop :=
  match os with
  | .linux =>
    path ≠ [] ∧ ∀ char ∈ path, DesktopEntry.isReserved char = false ∧ char ≠ '%' ∧ char ≠ '='
  | .macos => ∀ char ∈ path, PropertyList.isXmlChar char = true ∧ char ≠ '\r'
  | .windows | .other => True

end Statement

section Windows

theorem windows_runs {path : List Char} (h : '\x22' ∉ path) :
    windowsCommand (quoteWindowsPath path) = (path, []) := by
  have htake : (path ++ ['\x22']).takeWhile (· ≠ '\x22') = path := by
    rw [List.takeWhile_append_of_pos]
    · simp
    · intro char hchar
      simpa using fun heq : char = '\x22' => h (heq ▸ hchar)
  rw [quoteWindowsPath, List.cons_append, windowsCommand]
  simp only [htake]
  rw [List.drop_of_length_le (by simp)]
  rfl

end Windows

section Linux

theorem entryHead_eq : entryHead = "[Desktop Entry]".toList ++ '\n' ::
    ("Type=Application".toList ++ '\n' :: "Exec=".toList) := by
  unfold entryHead
  repeat rewrite [String.toList_ofList]
  rfl

theorem linuxDesktopEntry_eq (path : List Char) : ∃ tail,
    linuxDesktopEntry autostartAppName path = "[Desktop Entry]".toList ++ '\n' ::
      ("Type=Application".toList ++ '\n' :: (("Exec=".toList ++ path) ++ '\n' :: tail)) := by
  have htail : ∃ tail,
      "\nHidden=false\nNoDisplay=false\nX-GNOME-Autostart-enabled=true\nName[en_US]=".toList =
        '\n' :: tail := by
    rewrite [String.toList_ofList]
    exact ⟨_, rfl⟩
  obtain ⟨tail, htail⟩ := htail
  rw [linuxDesktopEntry, htail, entryHead_eq]
  simp only [List.append_assoc, List.cons_append]
  exact ⟨_, rfl⟩

theorem splitOnP_line {line : List Char} (h : '\n' ∉ line) (rest : List Char) :
    (line ++ '\n' :: rest).splitOnP (· == '\n') = line :: rest.splitOnP (· == '\n') := by
  rw [List.splitOnP_append_cons line rest (by decide), List.splitOnP_eq_singleton]
  · rfl
  · intro char hchar
    simpa using fun heq : char = '\n' => h (heq ▸ hchar)

theorem lineValue_exec (path : List Char) :
    DesktopEntry.lineValue "Exec".toList ("Exec=".toList ++ path) =
      some (path.dropWhile (· = ' ')) := by
  repeat rewrite [String.toList_ofList]
  have hname : (['E', 'x', 'e', 'c', '='] ++ path).takeWhile (· ≠ '=') = ['E', 'x', 'e', 'c'] := rfl
  rw [DesktopEntry.lineValue, hname, if_pos]
  · rfl
  · refine ⟨by decide, ?_⟩
    simp

theorem entryValue_exec {path : List Char} (hline : '\n' ∉ path) :
    DesktopEntry.entryValue "[Desktop Entry]".toList "Exec".toList
      (linuxDesktopEntry autostartAppName path) = some (path.dropWhile (· = ' ')) := by
  obtain ⟨tail, htext⟩ := linuxDesktopEntry_eq path
  have hheader : '\n' ∉ "[Desktop Entry]".toList := by
    rewrite [String.toList_ofList]
    decide
  have htype : '\n' ∉ "Type=Application".toList := by
    rewrite [String.toList_ofList]
    decide
  have hexec : '\n' ∉ "Exec=".toList ++ path := by
    rw [List.mem_append, not_or]
    refine ⟨?_, hline⟩
    rewrite [String.toList_ofList]
    decide
  have htypeValue : DesktopEntry.lineValue "Exec".toList "Type=Application".toList = none := by
    repeat rewrite [String.toList_ofList]
    decide
  rw [DesktopEntry.entryValue, htext, splitOnP_line hheader, splitOnP_line htype,
    splitOnP_line hexec, DesktopEntry.groupLines, List.dropWhile_cons_of_neg (by simp),
    List.drop_one, List.tail_cons, List.takeWhile_cons_of_pos (by simp),
    List.takeWhile_cons_of_pos (by simp), List.findSome?_cons, htypeValue,
    List.findSome?_cons, lineValue_exec]

theorem linux_runs_iff {path : List Char} (hline : '\n' ∉ path) :
    RunsExactly .linux path ↔ NeedsNoQuoting .linux path := by
  have hvalue : ∀ fields, desktopCommand fields (linuxDesktopEntry autostartAppName path) =
      DesktopEntry.execArguments fields (path.dropWhile (· = ' ')) := by
    intro fields
    rw [desktopCommand, entryValue_exec hline, Option.bind_some]
  rw [RunsExactly, NeedsNoQuoting]
  simp only [hvalue]
  rw [← DesktopEntry.execArguments_self_iff]
  -- a path that begins with a space is longer than its value, and so than the program
  by_cases hspace : path.dropWhile (· = ' ') = path
  · rw [hspace]
  · have hshort : (path.dropWhile (· = ' ')).length < path.length := by
      have hsuffix := @List.dropWhile_suffix Char path (· = ' ')
      rcases Nat.lt_or_ge (path.dropWhile (· = ' ')).length path.length with hlt | hge
      · exact hlt
      · exact absurd (hsuffix.eq_of_length (Nat.le_antisymm hsuffix.length_le hge)) hspace
    constructor
    · intro h
      have hle := DesktopEntry.execArguments_length (h fun _ => [])
      omega
    · intro h
      have hplain := (DesktopEntry.execArguments_self_iff.mp h).2
      exfalso
      apply hspace
      rw [List.dropWhile_eq_self_iff]
      intro hpos
      simpa using DesktopEntry.ne_of_not_reserved (hplain _ (List.getElem_mem hpos)).1
        (show DesktopEntry.isReserved ' ' = true by decide)

end Linux

section Macos

def xmlChar (char : Char) : List Char :=
  if char = '&' then "&amp;".toList
  else if char = '\x22' then "&quot;".toList
  else if char = '<' then "&lt;".toList
  else if char = '>' then "&gt;".toList
  else [char]

theorem replaceChar_append (old : Char) (new first second : List Char) :
    replaceChar old new (first ++ second) = replaceChar old new first ++ replaceChar old
      new second :=
  List.flatMap_append

theorem xmlEscape_append (first second : List Char) :
    xmlEscape (first ++ second) = xmlEscape first ++ xmlEscape second := by
  simp only [xmlEscape, replaceChar_append]

theorem xmlEscape_singleton (char : Char) : xmlEscape [char] = xmlChar char := by
  rw [xmlChar]
  split
  · rename_i h
    rw [h]
    rfl
  · split
    · rename_i h
      rw [h]
      rfl
    · split
      · rename_i h
        rw [h]
        rfl
      · split
        · rename_i h
          rw [h]
          rfl
        · rename_i hamp hquote hless hgreater
          simp [xmlEscape, replaceChar, hamp, hquote, hless, hgreater]

theorem xmlEscape_eq (value : List Char) : xmlEscape value = value.flatMap xmlChar := by
  induction value with
  | nil => rfl
  | cons char value ih =>
    rw [← List.singleton_append, xmlEscape_append, ih, xmlEscape_singleton, List.singleton_append,
      List.flatMap_cons]

theorem xmlChar_cases (char : Char) :
    char ∈ ['&', '\x22', '<', '>'] ∨ (xmlChar char = [char] ∧ char ≠ '&' ∧ char ≠ '<') := by
  by_cases hmem : char ∈ ['&', '\x22', '<', '>']
  · exact Or.inl hmem
  · simp only [List.mem_cons, List.not_mem_nil, or_false, not_or] at hmem
    obtain ⟨hamp, hquote, hless, hgreater⟩ := hmem
    refine Or.inr ⟨?_, hamp, hless⟩
    rw [xmlChar, if_neg hamp, if_neg hquote, if_neg hless, if_neg hgreater]

/-- What the consumers make of the text that is written for a character. -/
structure ReadsAs (text : List Char) (char : Char) : Prop where
  entities : Transducer.run PropertyList.entities none text = some ([char], none)
  markup : '<' ∉ text
  all : text.all PropertyList.isXmlChar = PropertyList.isXmlChar char
  lineEnds : text.map PropertyList.lineEndChar = xmlChar (PropertyList.lineEndChar char)
  line : '\n' ∈ text → char = '\n'

theorem xmlChar_amp : xmlChar '&' = ['&', 'a', 'm', 'p', ';'] := by
  rw [xmlChar, if_pos rfl]
  exact String.toList_ofList

theorem xmlChar_quote : xmlChar '\x22' = ['&', 'q', 'u', 'o', 't', ';'] := by
  rw [xmlChar, if_neg (by decide), if_pos rfl]
  exact String.toList_ofList

theorem xmlChar_less : xmlChar '<' = ['&', 'l', 't', ';'] := by
  rw [xmlChar, if_neg (by decide), if_neg (by decide), if_pos rfl]
  exact String.toList_ofList

theorem xmlChar_greater : xmlChar '>' = ['&', 'g', 't', ';'] := by
  rw [xmlChar, if_neg (by decide), if_neg (by decide), if_neg (by decide), if_pos rfl]
  exact String.toList_ofList

theorem readsAs_escape {char : Char} {text : List Char} (h : xmlChar char = text)
    (hentities : Transducer.run PropertyList.entities none text = some ([char], none))
    (hfacts : '<' ∉ text ∧ text.all PropertyList.isXmlChar = PropertyList.isXmlChar char ∧
      text.map PropertyList.lineEndChar = text ∧ '\n' ∉ text ∧
        PropertyList.lineEndChar char = char) :
    ReadsAs (xmlChar char) char := by
  obtain ⟨hmarkup, hall, hends, hline, hchar⟩ := hfacts
  rw [h]
  refine ⟨hentities, hmarkup, hall, ?_, fun hmem => absurd hmem hline⟩
  rw [hends, hchar, h]

theorem readsAs_xmlChar (char : Char) : ReadsAs (xmlChar char) char := by
  rcases xmlChar_cases char with hmem | ⟨hplain, hamp, hless⟩
  · simp only [List.mem_cons, List.not_mem_nil, or_false] at hmem
    rcases hmem with rfl | rfl | rfl | rfl
    · exact readsAs_escape xmlChar_amp rfl (by decide)
    · exact readsAs_escape xmlChar_quote rfl (by decide)
    · exact readsAs_escape xmlChar_less rfl (by decide)
    · exact readsAs_escape xmlChar_greater rfl (by decide)
  · have hnext : xmlChar (PropertyList.lineEndChar char) = [PropertyList.lineEndChar char] := by
      by_cases hreturn : char = '\r'
      · rw [hreturn]
        rfl
      · rw [PropertyList.lineEndChar, if_neg hreturn, hplain]
    rw [hplain]
    constructor
    · exact PropertyList.run_entities (by simpa using Ne.symm hamp)
    · simpa using Ne.symm hless
    · simp
    · rw [hnext]
      rfl
    · exact fun hmem => (List.mem_singleton.mp hmem).symm

theorem run_xmlEscape (value : List Char) :
    Transducer.run PropertyList.entities none (xmlEscape value) = some (value, none) := by
  rw [xmlEscape_eq]
  induction value with
  | nil => rfl
  | cons char value ih =>
    rw [List.flatMap_cons, Transducer.run_append (readsAs_xmlChar char).entities ih]
    rfl

theorem xmlEscape_markup (value : List Char) : '<' ∉ xmlEscape value := by
  rw [xmlEscape_eq, List.mem_flatMap]
  rintro ⟨char, -, hmem⟩
  exact (readsAs_xmlChar char).markup hmem

theorem xmlEscape_line {value : List Char} (h : '\n' ∉ value) : '\n' ∉ xmlEscape value := by
  rw [xmlEscape_eq, List.mem_flatMap]
  rintro ⟨char, hchar, hmem⟩
  rw [(readsAs_xmlChar char).line hmem] at hchar
  exact h hchar

theorem xmlEscape_all (value : List Char) :
    (xmlEscape value).all PropertyList.isXmlChar = value.all PropertyList.isXmlChar := by
  rw [xmlEscape_eq]
  induction value with
  | nil => rfl
  | cons char value ih =>
    rw [List.flatMap_cons, List.all_append, ih, (readsAs_xmlChar char).all, List.all_cons]

theorem xmlEscape_lineEnds (value : List Char) :
    (xmlEscape value).map PropertyList.lineEndChar =
      xmlEscape (value.map PropertyList.lineEndChar) := by
  rw [xmlEscape_eq, xmlEscape_eq]
  induction value with
  | nil => rfl
  | cons char value ih =>
    rw [List.flatMap_cons, List.map_append, ih, (readsAs_xmlChar char).lineEnds, List.map_cons,
      List.flatMap_cons]

theorem escapeQuotes_cons (char : Char) (value : List Char) :
    PrivilegeLauncher.escapeQuotes (char :: value) =
      (if char = '\'' then ['\'', '\\', '\'', '\''] else [char]) ++
        PrivilegeLauncher.escapeQuotes value :=
  List.flatMap_cons

theorem escapeQuotes_lineEnds (value : List Char) :
    (PrivilegeLauncher.escapeQuotes value).map PropertyList.lineEndChar =
      PrivilegeLauncher.escapeQuotes (value.map PropertyList.lineEndChar) := by
  induction value with
  | nil => rfl
  | cons char value ih =>
    rw [escapeQuotes_cons, List.map_append, ih, List.map_cons, escapeQuotes_cons]
    by_cases hquote : char = '\''
    · rw [hquote]
      rfl
    · have hnext : PropertyList.lineEndChar char ≠ '\'' := by
        rw [PropertyList.lineEndChar]
        split
        · decide
        · exact hquote
      rw [if_neg hquote, if_neg hnext]
      rfl

theorem escapeQuotes_all (value : List Char) :
    (PrivilegeLauncher.escapeQuotes value).all PropertyList.isXmlChar =
      value.all PropertyList.isXmlChar := by
  induction value with
  | nil => rfl
  | cons char value ih =>
    rw [escapeQuotes_cons, List.all_append, ih, List.all_cons]
    by_cases hquote : char = '\''
    · rw [hquote]
      rfl
    · rw [if_neg hquote]
      simp

theorem escapeQuotes_line {value : List Char} (h : '\n' ∉ value) :
    '\n' ∉ PrivilegeLauncher.escapeQuotes value := by
  rw [PrivilegeLauncher.escapeQuotes, List.mem_flatMap]
  rintro ⟨char, hchar, hmem⟩
  split at hmem
  · revert hmem
    decide
  · rw [List.mem_singleton.mp hmem] at h
    exact h hchar

theorem shellQuotedXml_eq (value : List Char) :
    shellQuotedXml value =
      xmlEscape ('\'' :: PrivilegeLauncher.escapeQuotes value) ++ ['\''] := by
  rw [shellQuotedXml, shellSingleQuote, xmlEscape_append, xmlEscape_singleton]
  rfl

theorem run_quoted {value : List Char} (h : '\n' ∉ value) (afterReturn : Bool) :
    Transducer.run PropertyList.lineEnds afterReturn (shellQuotedXml value) =
      some (shellQuotedXml (value.map PropertyList.lineEndChar), false) := by
  have hline : '\n' ∉ xmlEscape ('\'' :: PrivilegeLauncher.escapeQuotes value) := by
    refine xmlEscape_line ?_
    rw [List.mem_cons, not_or]
    exact ⟨by decide, escapeQuotes_line h⟩
  rw [shellQuotedXml_eq, PropertyList.run_lineEnds hline (by decide), xmlEscape_lineEnds,
    List.map_cons, escapeQuotes_lineEnds, shellQuotedXml_eq]
  rfl

theorem quoted_all (value : List Char) :
    (shellQuotedXml value).all PropertyList.isXmlChar = value.all PropertyList.isXmlChar := by
  rw [shellQuotedXml_eq, List.all_append, xmlEscape_all, List.all_cons, escapeQuotes_all]
  have hquote : PropertyList.isXmlChar '\'' = true := by decide
  simp [hquote]

theorem mem_of_mem_splitOnP {text piece : List Char} {p : Char → Bool}
    (h : piece ∈ text.splitOnP p) {char : Char} (hchar : char ∈ piece) : char ∈ text := by
  induction text generalizing piece with
  | nil =>
    rw [List.splitOnP_nil, List.mem_singleton] at h
    rw [h] at hchar
    exact absurd hchar List.not_mem_nil
  | cons first text ih =>
    rw [List.splitOnP_cons_eq_if_modifyHead] at h
    split at h
    · rcases List.mem_cons.mp h with rfl | h
      · exact absurd hchar List.not_mem_nil
      · exact List.mem_cons_of_mem _ (ih h hchar)
    · cases hpieces : text.splitOnP p with
      | nil => exact absurd hpieces (List.splitOnP_ne_nil p text)
      | cons head pieces =>
        rw [hpieces, List.modifyHead_cons] at h
        rcases List.mem_cons.mp h with rfl | h
        · rcases List.mem_cons.mp hchar with rfl | hchar
          · exact List.mem_cons_self
          · exact List.mem_cons_of_mem _ (ih (hpieces ▸ List.mem_cons_self) hchar)
        · exact List.mem_cons_of_mem _ (ih (hpieces ▸ List.mem_cons_of_mem _ h) hchar)

theorem fileName_mem {path : List Char} {name : String}
    (h : fileName (String.ofList path) = some name) {char : Char} (hchar : char ∈ name.toList) :
    char ∈ path := by
  rw [fileName, Option.bind_eq_some_iff] at h
  obtain ⟨last, hlast, hname⟩ := h
  split at hname
  · cases hname
  · cases hname
    have hmem := (List.mem_filter.mp (List.mem_of_getLast? hlast)).1
    rw [RustText.split, String.toList_ofList, List.mem_map] at hmem
    obtain ⟨piece, hpiece, rfl⟩ := hmem
    rw [String.toList_ofList] at hchar
    exact mem_of_mem_splitOnP hpiece hchar

theorem fileStem_mem {path stem : List Char} (h : fileStem path = some stem) {char : Char}
    (hchar : char ∈ stem) : char ∈ path := by
  rw [fileStem, Option.map_eq_some_iff] at h
  obtain ⟨name, hname, rfl⟩ := h
  apply fileName_mem hname
  simp only at hchar
  split at hchar
  · exact hchar
  · exact (List.rdropWhile_prefix _ _).subset (List.mem_of_mem_dropLast hchar)

theorem processName_mem {path : List Char} {char : Char}
    (h : char ∈ processName autostartAppName path) : char ∈ path ∨ char ∈ autostartAppName := by
  rw [processName] at h
  cases hstem : fileStem path with
  | none =>
    rw [hstem] at h
    exact Or.inr h
  | some stem =>
    rw [hstem] at h
    exact Or.inl (fileStem_mem hstem h)

end Macos

section LaunchAgent

/-- The property list up to the first text that is put in. -/
def plistFront : List Char := plistHead ++ macosLabel autostartAppName ++ plistArguments

theorem plist_eq (path : List Char) :
    macosLaunchAgentPlist autostartAppName path =
      plistFront ++ (shellQuotedXml (processName autostartAppName path) ++
        (plistThen ++ (shellQuotedXml path ++ plistTail))) := by
  simp only [macosLaunchAgentPlist, plistFront, List.append_assoc]

theorem plistFront_plain :
    '\r' ∉ plistFront ∧ plistFront.all PropertyList.isXmlChar = true := by
  unfold plistFront plistHead plistArguments macosLabel autostartAppName
  repeat rewrite [String.toList_ofList]
  decide +kernel

theorem plistThen_plain :
    '\r' ∉ plistThen ∧ plistThen.all PropertyList.isXmlChar = true ∧ '<' ∉ plistThen := by
  unfold plistThen
  rewrite [String.toList_ofList]
  decide +kernel

theorem plistTail_plain :
    '\r' ∉ plistTail ∧ plistTail.all PropertyList.isXmlChar = true := by
  unfold plistTail
  repeat rewrite [String.toList_ofList]
  decide +kernel

/-- A path with its line ends as the property list is read with. -/
def readChars (value : List Char) : List Char := value.map PropertyList.lineEndChar

theorem processName_line {path : List Char} (hline : '\n' ∉ path) :
    '\n' ∉ processName autostartAppName path := by
  intro hmem
  rcases processName_mem hmem with hpath | happ
  · exact hline hpath
  · revert happ
    unfold autostartAppName
    rewrite [String.toList_ofList]
    decide

theorem lineEnds_plist {path : List Char} (hline : '\n' ∉ path) :
    Transducer.output PropertyList.lineEnds false (macosLaunchAgentPlist autostartAppName path) =
      some (plistFront ++ (shellQuotedXml (readChars (processName autostartAppName path)) ++
        (plistThen ++ (shellQuotedXml (readChars path) ++ plistTail)))) := by
  rw [plist_eq, Transducer.output_append (PropertyList.run_lineEnds_self plistFront_plain.1),
    Transducer.output_append (run_quoted (processName_line hline) false),
    Transducer.output_append (PropertyList.run_lineEnds_self plistThen_plain.1),
    Transducer.output_append (run_quoted hline false),
    Transducer.output_of_run (PropertyList.run_lineEnds_self plistTail_plain.1) rfl]
  simp only [Option.map_some, List.append_nil]
  rfl

theorem readChars_all (value : List Char) :
    (readChars value).all PropertyList.isXmlChar = value.all PropertyList.isXmlChar := by
  induction value with
  | nil => rfl
  | cons char value ih =>
    have hchar : PropertyList.isXmlChar (PropertyList.lineEndChar char) =
        PropertyList.isXmlChar char := by
      by_cases hreturn : char = '\r'
      · rw [hreturn]
        rfl
      · rw [PropertyList.lineEndChar, if_neg hreturn]
    rw [readChars] at ih ⊢
    rw [List.map_cons, List.all_cons, ih, hchar, List.all_cons]

theorem appName_all : autostartAppName.all PropertyList.isXmlChar = true := by
  unfold autostartAppName
  rewrite [String.toList_ofList]
  decide

theorem plist_all (path : List Char) :
    (plistFront ++ (shellQuotedXml (readChars (processName autostartAppName path)) ++
      (plistThen ++ (shellQuotedXml (readChars path) ++ plistTail)))).all PropertyList.isXmlChar =
        path.all PropertyList.isXmlChar := by
  simp only [List.all_append, quoted_all, readChars_all, plistFront_plain.2, plistThen_plain.2.1,
    plistTail_plain.2, Bool.true_and, Bool.and_true]
  cases hpath : path.all PropertyList.isXmlChar with
  | false => rw [Bool.and_false]
  | true =>
    rw [Bool.and_true, List.all_eq_true]
    intro char hchar
    rcases processName_mem hchar with hmem | happ
    · exact List.all_eq_true.mp hpath char hmem
    · exact List.all_eq_true.mp appName_all char happ

/-- The tags and texts up to the command, from the array on and before it. -/
def labelTokens : List PropertyList.Token :=
  [.text [], .tag "?xml version=\x221.0\x22 encoding=\x22UTF-8\x22?".toList, .text ['\n'],
    .tag ("!DOCTYPE plist PUBLIC \x22-//Apple//DTD PLIST 1.0//EN\x22 ".toList ++
      "\x22http://www.apple.com/DTDs/PropertyList-1.0.dtd\x22".toList),
    .text ['\n'], .tag "plist version=\x221.0\x22".toList, .text ['\n'], .tag "dict".toList,
    .text "\n    ".toList, .tag "key".toList, .text "Label".toList, .tag "/key".toList,
    .text "\n    ".toList, .tag "string".toList, .text "VoyaVPN-LaunchAgent".toList,
    .tag "/string".toList, .text "\n    ".toList, .tag "key".toList,
    .text "ProgramArguments".toList, .tag "/key".toList, .text "\n    ".toList,
    .tag "array".toList]

def shellTokens : List PropertyList.Token :=
  [.text "\n        ".toList, .tag "string".toList, .text "/bin/sh".toList, .tag "/string".toList,
    .text "\n        ".toList, .tag "string".toList, .text "-c".toList, .tag "/string".toList,
    .text "\n        ".toList, .tag "string".toList]

def tailTokens : List PropertyList.Token :=
  [.tag "/string".toList, .text "\n    ".toList, .tag "/array".toList, .text "\n    ".toList,
    .tag "key".toList, .text "RunAtLoad".toList, .tag "/key".toList, .text "\n    ".toList,
    .tag "true/".toList, .text "\n    ".toList, .tag "key".toList, .text "KeepAlive".toList,
    .tag "/key".toList, .text "\n    ".toList, .tag "false/".toList, .text ['\n'],
    .tag "/dict".toList, .text ['\n'], .tag "/plist".toList, .text []]

def commandHead : List Char := "if ! pgrep -x ".toList

theorem markup_front :
    Transducer.run PropertyList.markup (.text []) plistFront =
      some (labelTokens ++ shellTokens, .text commandHead) := by
  unfold plistFront plistHead plistArguments macosLabel autostartAppName labelTokens shellTokens
    commandHead
  repeat rewrite [String.toList_ofList]
  decide +kernel

def commandEnd : List Char := "; fi".toList

theorem markup_tail (chars : List Char) :
    Transducer.output PropertyList.markup (.text chars) plistTail =
      some (.text (chars ++ commandEnd) :: tailTokens) := by
  have hsplit : ∃ rest, plistTail = commandEnd ++ '<' :: rest ∧
      Transducer.output PropertyList.markup (.tag []) rest = some tailTokens := by
    unfold plistTail tailTokens commandEnd
    repeat rewrite [String.toList_ofList]
    exact ⟨_, rfl, by decide +kernel⟩
  obtain ⟨rest, htail, hrest⟩ := hsplit
  have hplain : '<' ∉ commandEnd := by
    unfold commandEnd
    rewrite [String.toList_ofList]
    decide
  have hstep : PropertyList.markup.step (.text (chars ++ commandEnd)) '<' =
      some ([.text (chars ++ commandEnd)], .tag []) := rfl
  rw [htail, Transducer.output_append_silent (PropertyList.run_markup chars hplain),
    Transducer.output_cons hstep, hrest]
  rfl

/-- The command of the launch agent, as it stands in the property list. -/
def commandText (name path : List Char) : List Char :=
  commandHead ++ shellQuotedXml name ++ plistThen ++ shellQuotedXml path ++ commandEnd

theorem run_shellQuotedXml (value : List Char) :
    Transducer.run PropertyList.entities none (shellQuotedXml value) =
      some (shellSingleQuote value, none) :=
  run_xmlEscape _

theorem shellQuotedXml_markup (value : List Char) : '<' ∉ shellQuotedXml value :=
  xmlEscape_markup _

theorem plist_markup (name path : List Char) :
    Transducer.output PropertyList.markup (.text [])
        (plistFront ++ (shellQuotedXml name ++ (plistThen ++ (shellQuotedXml path ++ plistTail)))) =
      some (labelTokens ++ (shellTokens ++ .text (commandText name path) :: tailTokens)) := by
  rw [Transducer.output_append markup_front,
    Transducer.output_append_silent (PropertyList.run_markup _ (shellQuotedXml_markup name)),
    Transducer.output_append_silent (PropertyList.run_markup _ plistThen_plain.2.2),
    Transducer.output_append_silent (PropertyList.run_markup _ (shellQuotedXml_markup path)),
    markup_tail, Option.map_some, List.append_assoc]
  rfl

theorem plist_tokens {path : List Char} (hline : '\n' ∉ path) :
    PropertyList.tokens (macosLaunchAgentPlist autostartAppName path) =
      if path.all PropertyList.isXmlChar = true then
        some (labelTokens ++ (shellTokens ++
          .text (commandText (readChars (processName autostartAppName path)) (readChars path)) ::
            tailTokens))
      else none := by
  rw [PropertyList.tokens, lineEnds_plist hline, Option.bind_some, plist_all, plist_markup]

/-- The command as the shell is given it. -/
def shellText (name path : List Char) : List Char :=
  commandHead ++ (shellSingleQuote name ++ (" > /dev/null; then ".toList ++
    (shellSingleQuote path ++ commandEnd)))

theorem decode_command (name path : List Char) :
    PropertyList.decodeText (commandText name path) = some (shellText name path) := by
  have hhead : '&' ∉ commandHead := by
    unfold commandHead
    rewrite [String.toList_ofList]
    decide
  have hend : '&' ∉ commandEnd := by
    unfold commandEnd
    rewrite [String.toList_ofList]
    decide
  have hthen : Transducer.run PropertyList.entities none plistThen =
      some (" > /dev/null; then ".toList, none) := by
    unfold plistThen
    repeat rewrite [String.toList_ofList]
    decide +kernel
  rw [PropertyList.decodeText, commandText, List.append_assoc, List.append_assoc,
    List.append_assoc, Transducer.output_append (PropertyList.run_entities hhead),
    Transducer.output_append (run_shellQuotedXml name),
    Transducer.output_append hthen,
    Transducer.output_append (run_shellQuotedXml path),
    Transducer.output_of_run (PropertyList.run_entities hend) rfl]
  simp only [Option.map_some, List.append_nil]
  rfl

theorem plist_strings (name path : List Char) :
    PropertyList.arrayOf "ProgramArguments".toList
        (labelTokens ++ (shellTokens ++ .text (commandText name path) :: tailTokens)) =
      some ["/bin/sh".toList, "-c".toList, shellText name path] := by
  have harray : ∀ rest, PropertyList.arrayOf "ProgramArguments".toList (labelTokens ++ rest) =
      PropertyList.arrayStrings rest := by
    intro rest
    unfold labelTokens
    repeat rewrite [String.toList_ofList]
    rfl
  have hshell : PropertyList.decodeText "/bin/sh".toList = some "/bin/sh".toList := by
    rewrite [String.toList_ofList]
    rfl
  have hflag : PropertyList.decodeText "-c".toList = some "-c".toList := by
    rewrite [String.toList_ofList]
    rfl
  have hblank : PropertyList.isBlankText "\n        ".toList = true := by
    rewrite [String.toList_ofList]
    decide
  have hstring : "string".toList = ['s', 't', 'r', 'i', 'n', 'g'] := String.toList_ofList
  have hclosing : "/string".toList = ['/', 's', 't', 'r', 'i', 'n', 'g'] := String.toList_ofList
  have htail : PropertyList.arrayStrings tailTokens.tail = some [] := by
    unfold tailTokens
    repeat rewrite [String.toList_ofList]
    rfl
  have htailHead : tailTokens = .tag ['/', 's', 't', 'r', 'i', 'n', 'g'] :: tailTokens.tail := by
    rw [← hclosing]
    rfl
  rw [harray, shellTokens, hstring, hclosing]
  simp only [List.cons_append, List.nil_append]
  rw [PropertyList.arrayStrings_blank hblank, PropertyList.arrayStrings_string hshell,
    PropertyList.arrayStrings_blank hblank, PropertyList.arrayStrings_string hflag,
    PropertyList.arrayStrings_blank hblank, htailHead,
    PropertyList.arrayStrings_string (decode_command name path), htail]
  rfl

/-- The words of the command, and the operators between them. -/
def commandTokens (name path : List Char) : List ShellWords.Token :=
  [reserved "if".toList, reserved "!".toList, reserved "pgrep".toList, reserved "-x".toList,
    .word ⟨name, true⟩, .operator '>', reserved "/dev/null".toList, .operator ';',
    reserved "then".toList, .word ⟨path, true⟩, .operator ';', reserved "fi".toList]

theorem shell_tokens {name path : List Char} (hname : '\x00' ∉ name) (hpath : '\x00' ∉ path) :
    ShellWords.tokens (shellText name path) = some (commandTokens name path) := by
  have hhead : Transducer.run ShellWords.machine {} commandHead =
      some ([reserved "if".toList, reserved "!".toList, reserved "pgrep".toList,
        reserved "-x".toList], {}) := by
    unfold commandHead
    repeat rewrite [String.toList_ofList]
    rfl
  have hthen : ∃ text, " > /dev/null; then ".toList = ' ' :: text ∧
      Transducer.run ShellWords.machine {} text =
        some ([.operator '>', reserved "/dev/null".toList, .operator ';',
          reserved "then".toList], {}) := by
    repeat rewrite [String.toList_ofList]
    exact ⟨_, rfl, rfl⟩
  have hend : ∃ text, commandEnd = ';' :: text ∧
      ShellWords.scan { afterOperator := true } text = some [reserved "fi".toList] := by
    unfold commandEnd
    repeat rewrite [String.toList_ofList]
    exact ⟨_, rfl, rfl⟩
  obtain ⟨thenText, hthenText, hthen⟩ := hthen
  obtain ⟨endText, hendText, hend⟩ := hend
  have hlast : ShellWords.scan {} (shellSingleQuote path ++ commandEnd) =
      some [.word ⟨path, true⟩, .operator ';', reserved "fi".toList] := by
    rw [hendText, (adds_shellSingleQuote hpath).before_operator false (by decide), hend]
    rfl
  have hbody : ShellWords.tokens (thenText ++ (shellSingleQuote path ++ commandEnd)) =
      some [.operator '>', reserved "/dev/null".toList, .operator ';', reserved "then".toList,
        .word ⟨path, true⟩, .operator ';', reserved "fi".toList] := by
    rw [ShellWords.tokens, ShellWords.scan, Transducer.output_append hthen]
    rw [ShellWords.scan] at hlast
    rw [hlast]
    rfl
  rw [ShellWords.tokens, ShellWords.scan, shellText, Transducer.output_append hhead, hthenText,
    List.cons_append]
  have hfirst : ShellWords.scan {} (shellSingleQuote name ++
      ' ' :: (thenText ++ (shellSingleQuote path ++ commandEnd))) =
        (ShellWords.tokens (thenText ++ (shellSingleQuote path ++ commandEnd))).map
          (.word ⟨name, true⟩ :: ·) :=
    (adds_shellSingleQuote hname).before_blank false
  rw [ShellWords.scan] at hfirst
  rw [hfirst, hbody]
  rfl

theorem readGuarded_command (name path : List Char) :
    readGuarded (commandTokens name path) =
      some ⟨["pgrep".toList, "-x".toList, name], [path]⟩ := by
  unfold commandTokens
  repeat rewrite [String.toList_ofList]
  rfl

theorem readChars_null {value : List Char} (h : '\x00' ∉ value) : '\x00' ∉ readChars value := by
  rw [readChars, List.mem_map]
  rintro ⟨char, hchar, heq⟩
  rw [PropertyList.lineEndChar] at heq
  split at heq
  · revert heq
    decide
  · exact h (heq ▸ hchar)

theorem processName_null {path : List Char} (h : '\x00' ∉ path) :
    '\x00' ∉ processName autostartAppName path := by
  intro hmem
  rcases processName_mem hmem with hpath | happ
  · exact h hpath
  · have hchar := List.all_eq_true.mp appName_all _ happ
    revert hchar
    decide

theorem launchAgent_command {path : List Char} (hnull : '\x00' ∉ path) (hline : '\n' ∉ path) :
    launchAgentCommand (macosLaunchAgentPlist autostartAppName path) =
      if path.all PropertyList.isXmlChar = true then
        some ⟨["pgrep".toList, "-x".toList, readChars (processName autostartAppName path)],
          [readChars path]⟩
      else none := by
  rw [launchAgentCommand, PropertyList.stringsOf, plist_tokens hline]
  split
  · rw [Option.bind_some, plist_strings, Option.bind_some]
    simp only [and_self, if_true]
    rw [shell_tokens (readChars_null (processName_null hnull))
      (readChars_null hnull), Option.bind_some, readGuarded_command]
  · rfl

theorem readChars_eq_self_iff {value : List Char} (hline : '\n' ∉ value) :
    readChars value = value ↔ '\r' ∉ value := by
  induction value with
  | nil => exact ⟨fun _ => List.not_mem_nil, fun _ => rfl⟩
  | cons char value ih =>
    rw [List.mem_cons, not_or] at hline
    have hchar : PropertyList.lineEndChar char = char ↔ '\r' ≠ char := by
      rw [PropertyList.lineEndChar]
      split
      · rename_i hreturn
        rw [hreturn]
        decide
      · rename_i hreturn
        exact ⟨fun _ => Ne.symm hreturn, fun _ => rfl⟩
    rw [readChars] at ih ⊢
    rw [List.map_cons, List.cons.injEq, ih hline.2, hchar, List.mem_cons, not_or]

theorem macos_runs_iff {path : List Char} (hnull : '\x00' ∉ path) (hline : '\n' ∉ path) :
    RunsExactly .macos path ↔ NeedsNoQuoting .macos path := by
  have hself := readChars_eq_self_iff hline
  rw [RunsExactly, NeedsNoQuoting, launchAgent_command hnull hline]
  split
  · rename_i hall
    constructor
    · rintro ⟨name, hcommand⟩ char hchar
      have hsame : readChars path = path := by
        rw [Option.some.injEq, GuardedCommand.mk.injEq] at hcommand
        exact List.singleton_inj.mp hcommand.2
      refine ⟨List.all_eq_true.mp hall char hchar, ?_⟩
      rintro rfl
      exact hself.mp hsame hchar
    · intro h
      have hsame : readChars path = path := hself.mpr fun hmem => (h '\r' hmem).2 rfl
      rw [hsame]
      exact ⟨_, rfl⟩
  · rename_i hall
    constructor
    · rintro ⟨name, hcommand⟩
      cases hcommand
    · intro h
      exact absurd (List.all_eq_true.mpr fun char hchar => (h char hchar).1) hall

end LaunchAgent

section Artifacts

/-- The artifact of a system runs exactly the executable where its path needs none of the quoting
that is left out, and only there. -/
theorem autostart_runs_iff (os : TargetOs) (path : List Char) (h : ExecutablePath os path) :
    RunsExactly os path ↔ NeedsNoQuoting os path := by
  cases os with
  | windows => exact iff_of_true (windows_runs (h.quote rfl)) trivial
  | linux => exact linux_runs_iff h.line
  | macos => exact macos_runs_iff h.null h.line
  | other => exact Iff.rfl

theorem autostart_runs_opt : RunsExactly .linux "/opt/voyavpn".toList := by
  have hpath : ExecutablePath .linux "/opt/voyavpn".toList := by
    constructor
    · decide
    · decide
    · decide
  refine (autostart_runs_iff .linux _ hpath).mpr ?_
  rewrite [String.toList_ofList]
  refine ⟨by decide, ?_⟩
  simp [DesktopEntry.isReserved]

/-- The path is written without quotes into a desktop entry, so that a space ends the program. -/
theorem unquoted_space :
    ExecutablePath .linux "/opt/Voya VPN/voyavpn".toList ∧
      ¬ RunsExactly .linux "/opt/Voya VPN/voyavpn".toList := by
  have hline : '\n' ∉ "/opt/Voya VPN/voyavpn".toList := by decide
  refine ⟨⟨by decide, hline, by decide⟩, ?_⟩
  rw [linux_runs_iff hline, NeedsNoQuoting]
  rintro ⟨-, hplain⟩
  have hspace := hplain ' ' (by decide)
  revert hspace
  decide

end Artifacts

end AutostartSound
