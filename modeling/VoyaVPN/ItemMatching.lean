import VoyaVPN.RuleMatching

/-! The connections a user rule asks for, read off its own entries: numbers and ranges of ports,
lists of networks, names and paths of programs, and destinations. -/
namespace ItemMatching

open Entities RustText ProtocolCommon SingboxSchema SingboxSupport SingboxRouting RuleMatching

section Ports

def IsNumber (text : List Char) (value : Nat) : Prop :=
  text ≠ [] ∧ parseDigits 0 text = some value

/-- The entry is a port number, with or without a plus sign. -/
def IsPort (entry : String) (port : Nat) : Prop :=
  IsNumber entry.toList port ∨ ∃ digits, entry.toList = '+' :: digits ∧ IsNumber digits port

/-- A bound that is left out is the outermost one. -/
def IsBound (outermost : Nat) (text : List Char) (value : Nat) : Prop :=
  text = [] ∧ value = outermost ∨ IsNumber text value ∧ value ≤ 65535

def InRange (separator : Char) (entry : String) (port : Nat) : Prop :=
  ∃ low high first last, entry.toList = low ++ separator :: high ∧ IsBound 0 low first ∧
    IsBound 65535 high last ∧ first ≤ port ∧ port ≤ last

def PortEntryHolds (entry : String) (port : Nat) : Prop :=
  IsPort entry port ∨ InRange '-' entry port

theorem IsNumber.digits {text : List Char} {value : Nat} (h : IsNumber text value) :
    ∀ c ∈ text, (digitValue c).isSome = true :=
  digitValue_of_parseDigits h.2

theorem IsBound.digits {outermost value : Nat} {text : List Char}
    (h : IsBound outermost text value) : ∀ c ∈ text, (digitValue c).isSome = true := by
  rcases h with ⟨rfl, _⟩ | ⟨hnumber, _⟩
  · exact fun c hc => absurd hc List.not_mem_nil
  · exact hnumber.digits

theorem replaceChars_char (old new : Char) (fuel : Nat) (cs : List Char)
    (hfuel : cs.length ≤ fuel) :
    replaceChars [old] [new] fuel cs = cs.map fun c => if c = old then new else c := by
  induction cs generalizing fuel with
  | nil => cases fuel <;> rfl
  | cons c cs ih =>
    cases fuel with
    | zero => cases hfuel
    | succ fuel =>
      have hrest := ih fuel (Nat.le_of_succ_le_succ hfuel)
      by_cases hold : c = old
      · simp [replaceChars, hold, hrest]
      · simp [replaceChars, hold, hrest, Ne.symm hold]

theorem replace_char (s : String) (old new : Char) :
    (replace s (String.singleton old) (String.singleton new)).toList =
      s.toList.map fun c => if c = old then new else c := by
  rw [replace, String.toList_ofList, String.toList_singleton, String.toList_singleton]
  exact replaceChars_char old new _ _ (Nat.le_refl _)

theorem map_of_digits {text : List Char} (h : ∀ c ∈ text, (digitValue c).isSome = true) :
    (text.map fun c => if c = '-' then ':' else c) = text := by
  rw [List.map_congr_left fun c hc => ?_, List.map_id']
  split
  · rename_i hc'
    subst hc'
    exact absurd (h _ hc) (by decide)
  · rfl

theorem map_eq_digits {text digits : List Char} (h : ∀ c ∈ digits, (digitValue c).isSome = true)
    (hmap : (text.map fun c => if c = '-' then ':' else c) = digits) : text = digits := by
  subst hmap
  conv_lhs => rw [← List.map_id' text]
  refine (List.map_congr_left fun c hc => ?_).symm
  have hdigit := h _ (List.mem_map_of_mem hc)
  split at hdigit
  · exact absurd hdigit (by decide)
  · rename_i hne
    rw [if_neg hne]

/-- A range written with a dash is the range that the generator writes with a colon. -/
theorem inRange_iff (entry : String) (port : Nat) :
    InRange '-' entry port ↔ ∃ range, portRangeItem entry = some range ∧
      InRange ':' range port := by
  constructor
  · rintro ⟨low, high, first, last, hentry, hlow, hhigh, hfirst, hlast⟩
    have hdash : containsChar entry (· == '-') = true := by
      rw [containsChar, hentry]
      simp
    refine ⟨replace entry "-" ":", if_pos hdash, low, high, first, last, ?_, hlow, hhigh, hfirst,
      hlast⟩
    rw [show ("-" : String) = String.singleton '-' from rfl,
      show (":" : String) = String.singleton ':' from rfl, replace_char, hentry, List.map_append,
      List.map_cons, map_of_digits hlow.digits, map_of_digits hhigh.digits, if_pos rfl]
  · rintro ⟨range, hrange, low, high, first, last, htext, hlow, hhigh, hfirst, hlast⟩
    rw [portRangeItem] at hrange
    split at hrange
    · rename_i hdash
      cases hrange
      rw [show ("-" : String) = String.singleton '-' from rfl,
        show (":" : String) = String.singleton ':' from rfl, replace_char] at htext
      obtain ⟨before, rest, hentry, hbefore, hrest⟩ := List.map_eq_append_iff.mp htext
      obtain ⟨char, after, rfl, hchar, hafter⟩ := List.map_eq_cons_iff.mp hrest
      obtain rfl := map_eq_digits hlow.digits hbefore
      obtain rfl := map_eq_digits hhigh.digits hafter
      have hdashes : char = '-' := by
        by_contra hne
        rw [containsChar, hentry, List.any_eq_true] at hdash
        obtain ⟨c, hc, hdash⟩ := hdash
        obtain rfl := eq_of_beq hdash
        rcases List.mem_append.mp hc with hc | hc
        · exact absurd (hlow.digits _ hc) (by decide)
        · rcases List.mem_cons.mp hc with hc | hc
          · exact hne hc.symm
          · exact absurd (hhigh.digits _ hc) (by decide)
      exact ⟨before, after, first, last, by rw [hentry, hdashes], hlow, hhigh, hfirst, hlast⟩
    · cases hrange

theorem IsNumber.digits_of_cons {c : Char} {digits : List Char} {value : Nat}
    (h : IsNumber (c :: digits) value) : (digitValue c).isSome = true :=
  h.digits c List.mem_cons_self

theorem IsPort.no_dash {entry : String} {port : Nat} (h : IsPort entry port) :
    '-' ∉ entry.toList := by
  intro hdash
  rcases h with hnumber | ⟨digits, hentry, hnumber⟩
  · exact absurd (hnumber.digits _ hdash) (by decide)
  · rw [hentry] at hdash
    rcases List.mem_cons.mp hdash with hplus | hdash
    · exact absurd hplus (by decide)
    · exact absurd (hnumber.digits _ hdash) (by decide)

/-- Without a minus sign the integers that are read are the ports. -/
theorem parseInteger_iff {entry : String} (hdash : '-' ∉ entry.toList) (port : Nat) :
    parseInteger entry = some (port : Int) ↔ IsPort entry port := by
  have hvalue : ∀ {digits : List Char}, digits ≠ [] →
      ((parseDigits 0 digits).map Int.ofNat = some (port : Int) ↔ IsNumber digits port) := by
    intro digits hne
    simp [IsNumber, hne]
  unfold parseInteger IsPort
  split
  · rename_i hnil
    rw [hnil]
    refine iff_of_false nofun ?_
    rintro (⟨hne, _⟩ | ⟨digits, hentry, _⟩)
    · exact hne rfl
    · cases hentry
  · rename_i c cs hplus
    rw [hplus, hvalue (by simp)]
    constructor
    · exact fun hnumber => Or.inr ⟨c :: cs, rfl, hnumber⟩
    · rintro (hnumber | ⟨digits, hentry, hnumber⟩)
      · exact absurd hnumber.digits_of_cons (by decide)
      · cases hentry
        exact hnumber
  · rename_i c cs hminus
    rw [hminus] at hdash
    exact absurd List.mem_cons_self hdash
  · rename_i hnil hplus _
    rw [hvalue hnil]
    refine ⟨Or.inl, ?_⟩
    rintro (hnumber | ⟨digits, hentry, hnumber⟩)
    · exact hnumber
    · cases digits with
      | nil => exact absurd rfl hnumber.1
      | cons c cs => exact absurd hentry (hplus c cs)

theorem isPort_iff (entry : String) {port : Nat} (hport : port < 2 ^ 16) :
    IsPort entry port ↔ portItem entry = some (port : Int) := by
  rw [portItem]
  split
  · rename_i hdash
    refine iff_of_false (fun h => h.no_dash ?_) nofun
    obtain ⟨c, hc, hequal⟩ := List.any_eq_true.mp hdash
    obtain rfl := eq_of_beq hequal
    exact hc
  · rename_i hdash
    have hnone : '-' ∉ entry.toList := fun hmem =>
      hdash (List.any_eq_true.mpr ⟨'-', hmem, by decide⟩)
    have hbounds : decide (-2 ^ 31 ≤ (port : Int) ∧ (port : Int) < 2 ^ 31) = true := by
      simp only [decide_eq_true_eq]
      omega
    rw [← parseInteger_iff hnone, parseI32, Option.filter_eq_some_iff]
    exact (and_iff_left hbounds).symm

/-- A port entry names a port when the generator reads it as that port or as a range of it. -/
theorem portEntryHolds_iff (entry : String) {port : Nat} (hport : port < 2 ^ 16) :
    PortEntryHolds entry port ↔ portItem entry = some (port : Int) ∨
      ∃ range, portRangeItem entry = some range ∧ InRange ':' range port := by
  rw [PortEntryHolds, isPort_iff entry hport, inRange_iff]

end Ports

section Programs

/-- The entry is the name of the program, with any number of endings `.exe`. -/
def NamesProgram (entry name : String) : Prop :=
  ∃ endings, entry.toList = name.toList ++ (List.replicate endings ".exe".toList).flatten

theorem trimEndChars_endings (pat : List Char) (fuel : Nat) (cs : List Char) :
    ∃ endings, cs = trimEndChars pat fuel cs ++ (List.replicate endings pat).flatten := by
  induction fuel generalizing cs with
  | zero => exact ⟨0, by simp [trimEndChars]⟩
  | succ fuel ih =>
    rw [trimEndChars]
    split
    · rename_i hsuffix
      obtain ⟨kept, hkept⟩ := List.isSuffixOf_iff_suffix.mp hsuffix
      obtain ⟨endings, hendings⟩ := ih (cs.take (cs.length - pat.length))
      refine ⟨endings + 1, ?_⟩
      rw [List.replicate_succ', List.flatten_append, ← List.append_assoc, ← hendings]
      rw [← hkept]
      simp
    · exact ⟨0, by simp⟩

theorem namesProgram_exeName {process : String}
    (hname : containsChar process (fun c => c == '/' || c == '\\') = false) :
    NamesProgram process (exeName process) := by
  have hwhole : process.toList.rtakeWhile (fun c => c != '/' && c != '\\') = process.toList := by
    rw [List.rtakeWhile_eq_self_iff]
    intro c hc
    have hother := List.any_eq_false.mp hname c hc
    simpa using hother
  obtain ⟨endings, hendings⟩ := trimEndChars_endings ".exe".toList process.toList.length
    process.toList
  refine ⟨endings, ?_⟩
  rw [exeName, hwhole, String.ofList_toList, trimEndMatches, String.toList_ofList]
  exact hendings

end Programs

/-- A connection: what lists and patterns say of its destination is left open, as is what external
lists hold. -/
structure Connection where
  destination : Destination → Prop
  dotless : Prop
  externalDomain : String → Prop
  externalAddress : String → Prop
  port : UInt16
  network : String
  protocol : Option String
  inbound : String
  processName : Option String
  processPath : Option String

/-- How the conditions of a route rule read the connection. -/
def Connection.interpretation (connection : Connection) : Interpretation where
  destination := connection.destination
  port p := p = (connection.port.toNat : Int)
  portRange range := InRange ':' range connection.port.toNat
  network n := n = connection.network
  protocol p := connection.protocol = some p
  inbound i := i = connection.inbound
  processName name := connection.processName = some name
  processPath path := connection.processPath = some path

section Items

theorem domainDestination_dotless {entry value : String}
    (h : stripPrefix entry "dotless:" = some value) :
    domainDestination entry = some (.domainKeyword value) := by
  have hstart : startsWith entry "dotless:" = true := by
    rw [stripPrefix] at h
    split at h
    · assumption
    · cases h
  obtain ⟨rest, rfl⟩ := (startsWith_iff _ _).mp hstart
  have hother : ∀ pat ∈ ["#", "ext:", "ext-domain:", geositePrefix, "regexp:", "domain:", "full:",
      "keyword:"], startsWith ("dotless:" ++ rest) pat = false := by
    intro pat hpat
    rw [startsWith, String.toList_append]
    simp only [List.mem_cons, List.not_mem_nil, or_false] at hpat
    rcases hpat with rfl | rfl | rfl | rfl | rfl | rfl | rfl | rfl <;> rfl
  have hnone : ∀ pat ∈ ["#", "ext:", "ext-domain:", geositePrefix, "regexp:", "domain:", "full:",
      "keyword:"], stripPrefix ("dotless:" ++ rest) pat = none := by
    intro pat hpat
    rw [stripPrefix, hother pat hpat, if_neg (by simp)]
  rw [domainDestination, hother "#" (by simp), hother "ext:" (by simp),
    hother "ext-domain:" (by simp), hnone geositePrefix (by simp), hnone "regexp:" (by simp),
    hnone "domain:" (by simp), hnone "full:" (by simp), hnone "keyword:" (by simp), h]
  rfl

variable (connection : Connection)

/-- A name without dots is asked for by a part of it. -/
def domainEntryHolds (entry : String) : Prop :=
  match stripPrefix entry "dotless:" with
  | some value => connection.destination (.domainKeyword value) ∧ connection.dotless
  | none =>
    match domainDestination entry with
    | some d => connection.destination d
    | none => startsWith entry "#" = false ∧ connection.externalDomain entry

def addressEntryHolds (entry : String) : Prop :=
  match addressDestination entry with
  | some d => connection.destination d
  | none => connection.externalAddress entry

/-- The entry is the core itself, the path of a program, or the name of one. -/
def processEntryHolds (process : String) : Prop :=
  if process = "self/" then connection.processName = some "sing-box"
  else if containsChar process (fun c => c == '/' || c == '\\') then
    connection.processPath = some process
  else ∃ name, connection.processName = some name ∧ NamesProgram process name

/-- The destination or process one of the entries must name, when there is any entry. -/
def targetHolds (item : RulesItem) : Prop :=
  (domainEntries item = [] ∧ ipEntries item = [] ∧ processEntries item = []) ∨
    (∃ entry ∈ domainEntries item, domainEntryHolds connection entry) ∨
    (∃ process ∈ processEntries item, processEntryHolds connection process) ∨
    ((∃ entry ∈ ipEntries item, startsWith entry "!" = false ∧
        addressEntryHolds connection entry) ∧
      ∀ entry ∈ ipEntries item, ∀ negated, stripPrefix entry "!" = some negated →
        ¬addressEntryHolds connection (trim negated))

structure ItemMatches (item : RulesItem) : Prop where
  port : ∀ text, item.port = some text → trim text ≠ "" →
    ∃ piece ∈ split (trim text) (· == ','), PortEntryHolds (trim piece) connection.port.toNat
  network : ∀ text, item.network = some text → trim text ≠ "" →
    ∃ piece ∈ split (trim text) (· == ','), trim piece ≠ "" ∧ trim piece = connection.network
  protocol : item.protocol.getD [] = [] ∨
    ∃ protocol ∈ item.protocol.getD [], connection.protocol = some protocol
  inbound : item.inboundTag.getD [] = [] ∨ connection.inbound ∈ item.inboundTag.getD []
  target : targetHolds connection item

variable {connection}

theorem processEntryHolds_of_name {process name : String}
    (hentry : processNameEntry process = some name) (h : connection.processName = some name) :
    processEntryHolds connection process := by
  rw [processNameEntry] at hentry
  rw [processEntryHolds]
  split
  · rename_i hself
    rw [if_pos hself] at hentry
    exact h.trans hentry.symm
  · rename_i hself
    rw [if_neg hself] at hentry
    split
    · rename_i hslash
      rw [if_pos hslash] at hentry
      cases hentry
    · rename_i hslash
      rw [if_neg hslash] at hentry
      obtain rfl := Option.some.inj hentry
      exact ⟨_, h, namesProgram_exeName (by simpa using hslash)⟩

theorem processEntryHolds_of_path {process path : String}
    (hentry : processPathEntry process = some path) (h : connection.processPath = some path) :
    processEntryHolds connection process := by
  rw [processPathEntry] at hentry
  rw [processEntryHolds]
  split
  · rename_i hself
    rw [if_pos hself] at hentry
    cases hentry
  · rename_i hself
    rw [if_neg hself] at hentry
    split
    · rename_i hslash
      rw [if_pos hslash] at hentry
      cases hentry
      exact h
    · rename_i hslash
      rw [if_neg hslash] at hentry
      cases hentry

theorem nonemptyStr_eq_some {value : Option String} {text : String} :
    nonemptyStr value = some text ↔ ∃ raw, value = some raw ∧ trim raw ≠ "" ∧ trim raw = text := by
  rw [nonemptyStr, Option.filter_eq_some_iff, Option.map_eq_some_iff]
  constructor
  · rintro ⟨⟨raw, hraw, rfl⟩, hnonempty⟩
    refine ⟨raw, hraw, fun hempty => ?_, rfl⟩
    rw [(RustText.isEmpty_iff _).mpr hempty] at hnonempty
    cases hnonempty
  · rintro ⟨raw, hraw, hnonempty, rfl⟩
    refine ⟨⟨raw, hraw, rfl⟩, ?_⟩
    rw [Bool.not_eq_true', Bool.eq_false_iff, ne_eq, RustText.isEmpty_iff]
    exact hnonempty

theorem mem_portItems {text entry : String} :
    entry ∈ portItems text ↔ (∃ piece ∈ split text (· == ','), trim piece = entry) ∧
      entry ≠ "" := by
  simp only [portItems, List.mem_filter, List.mem_map, Bool.not_eq_true', Bool.eq_false_iff, ne_eq,
    RustText.isEmpty_iff]

end Items

end ItemMatching
