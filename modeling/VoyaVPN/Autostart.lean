import VoyaVPN.ShellQuoting
import VoyaVPN.DesktopEntry
import VoyaVPN.PropertyList

/-! The autostart artifacts of the three systems, and what their consumers make of them. -/
namespace Autostart

open PlatformProcess ShellQuoting

section Artifacts

def autostartAppName : List Char := "VoyaVPN".toList

def quoteWindowsPath (path : List Char) : List Char := '\x22' :: path ++ ['\x22']

def entryHead : List Char := "[Desktop Entry]\nType=Application\nExec=".toList

def linuxDesktopEntry (appName executable : List Char) : List Char :=
  entryHead ++ executable ++
    "\nHidden=false\nNoDisplay=false\nX-GNOME-Autostart-enabled=true\nName[en_US]=".toList ++
      appName ++ "\nName=".toList ++ appName ++ "\nComment[en_US]=".toList ++ appName ++
        "\nComment=".toList ++ appName ++ "\n".toList

def macosLabel (appName : List Char) : List Char := appName ++ "-LaunchAgent".toList

/-- `Path::file_stem`: the last name up to its last dot, unless the name begins with that dot. -/
def fileStem (path : List Char) : Option (List Char) :=
  (fileName (String.ofList path)).map fun name =>
    let before := (name.toList.rdropWhile (· ≠ '.')).dropLast
    if before = [] then name.toList else before

/-- `str::replace` of one character. -/
def replaceChar (old : Char) (new value : List Char) : List Char :=
  value.flatMap fun char => if char = old then new else [char]

def xmlEscape (value : List Char) : List Char :=
  replaceChar '>' "&gt;".toList (replaceChar '<' "&lt;".toList
    (replaceChar '\x22' "&quot;".toList (replaceChar '&' "&amp;".toList value)))

def shellQuotedXml (value : List Char) : List Char := xmlEscape (shellSingleQuote value)

def processName (appName executable : List Char) : List Char :=
  (fileStem executable).getD appName

/-- The parts of the property list around the texts that are put in. -/
def plistHead : List Char :=
  "<?xml version=\x221.0\x22 encoding=\x22UTF-8\x22?>\n".toList ++
    "<!DOCTYPE plist PUBLIC \x22-//Apple//DTD PLIST 1.0//EN\x22 ".toList ++
      "\x22http://www.apple.com/DTDs/PropertyList-1.0.dtd\x22>\n".toList ++
        "<plist version=\x221.0\x22>\n<dict>\n    <key>Label</key>\n    <string>".toList

def plistArguments : List Char :=
  "</string>\n    <key>ProgramArguments</key>\n    <array>\n".toList ++
    "        <string>/bin/sh</string>\n        <string>-c</string>\n".toList ++
      "        <string>if ! pgrep -x ".toList

def plistThen : List Char := " &gt; /dev/null; then ".toList

def plistTail : List Char :=
  "; fi</string>\n    </array>\n    <key>RunAtLoad</key>\n    <true/>\n".toList ++
    "    <key>KeepAlive</key>\n    <false/>\n</dict>\n</plist>".toList

def macosLaunchAgentPlist (appName executable : List Char) : List Char :=
  plistHead ++ macosLabel appName ++ plistArguments ++
    shellQuotedXml (processName appName executable) ++ plistThen ++ shellQuotedXml executable ++
      plistTail

end Artifacts

section Consumers

/-- The program of a Windows command line, and the text of its arguments. -/
def windowsCommand (commandLine : List Char) : List Char × List Char :=
  match commandLine with
  | '\x22' :: rest =>
    let program := rest.takeWhile (· ≠ '\x22')
    (program, (rest.drop (program.length + 1)).dropWhile ShellWords.isBlank)
  | _ =>
    let program := commandLine.takeWhile (!ShellWords.isBlank ·)
    (program, (commandLine.drop program.length).dropWhile ShellWords.isBlank)

def desktopCommand (fields : Char → List Char) (entry : List Char) : Option (List (List Char)) :=
  (DesktopEntry.entryValue "[Desktop Entry]".toList "Exec".toList entry).bind
    (DesktopEntry.execArguments fields)

structure GuardedCommand where
  guard : List (List Char)
  command : List (List Char)
  deriving DecidableEq, Repr

/-- The words up to the first operator, and what follows them. -/
def leadingWords : List ShellWords.Token → List ShellWords.Word × List ShellWords.Token
  | .word word :: rest => (word :: (leadingWords rest).1, (leadingWords rest).2)
  | rest => ([], rest)

def reserved (text : List Char) : ShellWords.Token := .word ⟨text, false⟩

/-- The reading of `if ! guard > file; then command; fi`. A command must not begin with one of the
words that the shell reserves. -/
def readGuarded (tokens : List ShellWords.Token) : Option GuardedCommand :=
  match tokens with
  | first :: second :: rest =>
    if first = reserved ['i', 'f'] ∧ second = reserved ['!'] then
      match leadingWords rest with
      | (guard, .operator '>' :: .word _ :: .operator ';' :: next :: body) =>
        if next = reserved ['t', 'h', 'e', 'n'] then
          match leadingWords body with
          | (command, [.operator ';', last]) =>
            if last = reserved ['f', 'i'] ∧
              (command.head?.map ShellWords.Word.quoted).getD false then
              some ⟨guard.map (·.value), command.map (·.value)⟩
            else none
          | _ => none
        else none
      | _ => none
    else none
  | _ => none

/-- The command of a launch agent, which a shell is given as its text. -/
def launchAgentCommand (plist : List Char) : Option GuardedCommand :=
  (PropertyList.stringsOf "ProgramArguments".toList plist).bind fun strings =>
    match strings with
    | [shell, flag, text] =>
      if shell = "/bin/sh".toList ∧ flag = "-c".toList then
        (ShellWords.tokens text).bind readGuarded
      else none
    | _ => none

end Consumers

end Autostart
