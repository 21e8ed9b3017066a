import VoyaVPN.WireguardConfig

/-! What a WireGuard file says, section by section, and when its reader keeps every line to the
section it stands in. -/
namespace WireguardSections

open Entities ShareCommon WireguardConfig LinkReading

abbrev Entry := String × String

def lastValue (entries : List Entry) (key : String) : Option String := entries.reverse.lookup key

section Sections

inductive Kind where
  | interface
  | peer
  | other
  deriving DecidableEq

inductive Line where
  | skipped
  | header (kind : Kind)
  | entry (entry : Entry)

/-- A name in brackets, with nothing but a comment after it. -/
def isHeader (trimmed : String) : Bool :=
  match (RustText.stripPrefix trimmed "[").bind (RustText.splitOnce · ']') with
  | none => false
  | some (_, after) => (RustText.trim after).toList.head?.all isComment

def classify (line : String) : Line :=
  let trimmed := RustText.trim line
  if RustText.eqIgnoreAsciiCase trimmed "[Interface]" then .header .interface
  else if RustText.eqIgnoreAsciiCase trimmed "[Peer]" then .header .peer
  else if isHeader trimmed then .header .other
  else if trimmed = "" || RustText.startsWith trimmed "[" || RustText.startsWith trimmed "#" ||
      RustText.startsWith trimmed ";" then .skipped
  else
    match RustText.splitOnce line '=' with
    | none => .skipped
    | some (key, rawValue) => .entry (lineEntry key rawValue)

structure Section where
  kind : Kind
  entries : List Entry

def sectionsFrom (current : Section) : List String → List Section
  | [] => [current]
  | line :: rest =>
    match classify line with
    | .skipped => sectionsFrom current rest
    | .header kind => current :: sectionsFrom ⟨kind, []⟩ rest
    | .entry entry => sectionsFrom { current with entries := current.entries ++ [entry] } rest

/-- The sections of a file; the lines before the first header belong to no section by name. -/
def sectionsOf (text : String) : List Section := sectionsFrom ⟨.other, []⟩ (RustText.lines text)

def interfaceEntries (sections : List Section) : List Entry :=
  (sections.filter (·.kind = .interface)).flatMap Section.entries

def peerSections (sections : List Section) : List (List Entry) :=
  (sections.filter (·.kind = .peer)).map Section.entries

end Sections

section Blocks

/-- A section of one of the two kinds, with the lines of the other sections that follow it. -/
structure Block where
  isPeer : Bool
  own : List Entry
  strays : List Entry

def Block.entries (block : Block) : List Entry := block.own ++ block.strays

def blocksFrom (current : Block) : List Section → List Block
  | [] => [current]
  | s :: rest =>
    if s.kind = .other then
      blocksFrom { current with strays := current.strays ++ s.entries } rest
    else current :: blocksFrom ⟨s.kind = .peer, s.entries, []⟩ rest

/-- The blocks of a file; what comes before its first section counts as an interface. -/
def blocksOf (text : String) : List Block := blocksFrom ⟨false, [], []⟩ (sectionsOf text)

theorem own_interface (current : Block) (sections : List Section) :
    ((blocksFrom current sections).filter (!·.isPeer)).flatMap Block.own =
      (if current.isPeer then [] else current.own) ++ interfaceEntries sections := by
  induction sections generalizing current with
  | nil => cases hpeer : current.isPeer <;> simp [blocksFrom, interfaceEntries, hpeer]
  | cons s rest ih =>
    cases hkind : s.kind with
    | other =>
      rw [blocksFrom, if_pos hkind, ih]
      simp [interfaceEntries, hkind]
    | interface | peer =>
      rw [blocksFrom, if_neg (by simp [hkind]), List.filter_cons]
      cases hpeer : current.isPeer <;> simp [ih, interfaceEntries, hkind]

theorem own_peers (current : Block) (sections : List Section) :
    ((blocksFrom current sections).filter (·.isPeer)).map Block.own =
      (if current.isPeer then [current.own] else []) ++ peerSections sections := by
  induction sections generalizing current with
  | nil => cases hpeer : current.isPeer <;> simp [blocksFrom, peerSections, hpeer]
  | cons s rest ih =>
    cases hkind : s.kind with
    | other =>
      rw [blocksFrom, if_pos hkind, ih]
      simp [peerSections, hkind]
    | interface | peer =>
      rw [blocksFrom, if_neg (by simp [hkind]), List.filter_cons]
      cases hpeer : current.isPeer <;> simp [ih, peerSections, hkind]

end Blocks

section Reading

def opened (reading : Reading) : Kind → Reading
  | .interface => { reading with inPeer := false }
  | .peer => { reading with peers := reading.peers ++ [.empty], inPeer := true }
  | .other => reading

def insertAll (reading : Reading) (entries : List Entry) : Reading :=
  entries.foldl Reading.insert reading

def readSection (reading : Reading) (s : Section) : Reading :=
  insertAll (opened reading s.kind) s.entries

def readBlock (reading : Reading) (block : Block) : Reading :=
  insertAll (opened reading (if block.isPeer then .peer else .interface)) block.entries

theorem startsWith_of_isHeader {trimmed : String} (h : isHeader trimmed = true) :
    RustText.startsWith trimmed "[" = true := by
  by_contra hstart
  rw [isHeader, RustText.stripPrefix, if_neg hstart] at h
  cases h

theorem readLine_classify (reading : Reading) (line : String) :
    readLine reading line =
      match classify line with
      | .skipped => reading
      | .header kind => opened reading kind
      | .entry entry => reading.insert entry := by
  rw [readLine, classify]
  by_cases hempty : RustText.trim line = ""
  · simp only [hempty, if_true]
    rfl
  · rw [if_neg hempty]
    by_cases hinterface : RustText.eqIgnoreAsciiCase (RustText.trim line) "[Interface]" = true
    · simp only [if_pos hinterface]
      rfl
    · simp only [if_neg hinterface]
      by_cases hpeer : RustText.eqIgnoreAsciiCase (RustText.trim line) "[Peer]" = true
      · simp only [if_pos hpeer]
        rfl
      · simp only [if_neg hpeer]
        by_cases hheader : isHeader (RustText.trim line) = true
        · simp only [if_pos hheader, startsWith_of_isHeader hheader, Bool.true_or, if_true]
          rfl
        · simp only [if_neg hheader, hempty, decide_false, Bool.false_or]
          split
          · rfl
          · cases RustText.splitOnce line '=' with
            | none => rfl
            | some parts => rfl

theorem insertAll_append (reading : Reading) (first second : List Entry) :
    insertAll reading (first ++ second) = insertAll (insertAll reading first) second :=
  List.foldl_append

theorem foldl_readLine (reading : Reading) (current : Section) (lines : List String) :
    lines.foldl readLine (readSection reading current) =
      (sectionsFrom current lines).foldl readSection reading := by
  induction lines generalizing reading current with
  | nil => rfl
  | cons line rest ih =>
    rw [List.foldl_cons, readLine_classify, sectionsFrom]
    cases classify line with
    | skipped => exact ih reading current
    | header kind => exact ih (readSection reading current) ⟨kind, []⟩
    | entry entry =>
      have hinsert : (readSection reading current).insert entry =
          readSection reading { current with entries := current.entries ++ [entry] } := by
        rw [readSection, readSection, insertAll_append]
        rfl
      simp only [hinsert]
      exact ih reading _

theorem foldl_readSection (reading : Reading) (current : Block) (sections : List Section) :
    sections.foldl readSection (readBlock reading current) =
      (blocksFrom current sections).foldl readBlock reading := by
  induction sections generalizing reading current with
  | nil => rfl
  | cons s rest ih =>
    rw [List.foldl_cons, blocksFrom]
    cases hkind : s.kind with
    | other =>
      have hsection : readSection (readBlock reading current) s =
          readBlock reading { current with strays := current.strays ++ s.entries } := by
        rw [readSection, hkind, readBlock, readBlock, Block.entries, Block.entries,
          ← List.append_assoc, insertAll_append _ (current.own ++ current.strays)]
        rfl
      rw [if_pos rfl, hsection]
      exact ih reading _
    | interface | peer =>
      rw [if_neg (by simp), List.foldl_cons, ← ih]
      simp [readSection, readBlock, hkind, Block.entries]

theorem readConfig_blocks (text : String) :
    readConfig text = (blocksOf text).foldl readBlock {} := by
  rw [blocksOf, ← foldl_readSection]
  exact foldl_readLine {} ⟨.other, []⟩ (RustText.lines text)

def tableOf (values : Values) (entries : List Entry) : Values := entries.foldl (·.upsert ·) values

theorem insertAll_interface (reading : Reading) (entries : List Entry)
    (h : reading.inPeer = false) :
    insertAll reading entries =
      { reading with interface := tableOf reading.interface entries } := by
  induction entries generalizing reading with
  | nil => rfl
  | cons entry rest ih =>
    have hinsert : reading.insert entry =
        { reading with interface := reading.interface.upsert entry } := by
      rw [Reading.insert, h]
      rfl
    rw [insertAll, List.foldl_cons, hinsert]
    exact ih _ h

theorem insertAll_peer (reading : Reading) (entries : List Entry) {peers : List Values}
    {peer : Values} (h : reading.inPeer = true) (hpeers : reading.peers = peers ++ [peer]) :
    insertAll reading entries = { reading with peers := peers ++ [tableOf peer entries] } := by
  induction entries generalizing reading peer with
  | nil =>
    rw [tableOf, List.foldl_nil, ← hpeers]
    rfl
  | cons entry rest ih =>
    have hinsert : reading.insert entry =
        { reading with peers := peers ++ [peer.upsert entry] } := by
      rw [Reading.insert, h, hpeers]
      simp
    rw [insertAll, List.foldl_cons, hinsert]
    exact ih _ h rfl

theorem foldl_readBlock (reading : Reading) (blocks : List Block) :
    (blocks.foldl readBlock reading).interface =
        tableOf reading.interface ((blocks.filter (!·.isPeer)).flatMap Block.entries) ∧
      (blocks.foldl readBlock reading).peers =
        reading.peers ++ (blocks.filter (·.isPeer)).map fun block =>
          tableOf .empty block.entries := by
  induction blocks generalizing reading with
  | nil => exact ⟨rfl, (List.append_nil _).symm⟩
  | cons block rest ih =>
    rw [List.foldl_cons]
    obtain ⟨hinterface, hpeers⟩ := ih (readBlock reading block)
    rw [hinterface, hpeers, readBlock]
    cases hpeer : block.isPeer with
    | false =>
      rw [if_neg (by simp), insertAll_interface _ _ rfl]
      simp [opened, hpeer, tableOf, List.foldl_append]
    | true =>
      rw [if_pos rfl, insertAll_peer _ _ rfl rfl]
      simp [opened, hpeer]

theorem value_tableOf (values : Values) (entries : List Entry) (key : String) :
    (tableOf values entries).value key = (lastValue entries key).or (values.value key) := by
  induction entries generalizing values with
  | nil => rfl
  | cons entry rest ih =>
    obtain ⟨entryKey, entryValue⟩ := entry
    have hstep : tableOf values ((entryKey, entryValue) :: rest) =
        tableOf (values.upsert (entryKey, entryValue)) rest := rfl
    rw [hstep, ih, lastValue, lastValue, List.reverse_cons, List.lookup_append, Option.or_assoc]
    congr 1
    rw [Values.value, KeyedTable.get_upsert, List.lookup_cons, List.lookup_nil]
    by_cases hkey : entryKey = key
    · simp [hkey]
    · rw [if_neg hkey, beq_false_of_ne (Ne.symm hkey)]
      rfl

theorem value_empty (key : String) : Values.value .empty key = none := rfl

theorem value_read (entries : List Entry) (key : String) :
    (tableOf .empty entries).value key = lastValue entries key := by
  rw [value_tableOf, value_empty, Option.or_none]

end Reading

section Ports

theorem rtakeWhile_append {first second : List Char} {c : Char} (h : c ∉ second) :
    (first ++ c :: second).rtakeWhile (· != c) = second := by
  have hall : ∀ d ∈ second.reverse, (d != c) = true := by
    intro d hd
    rw [List.mem_reverse] at hd
    simpa using fun heq : d = c => h (heq ▸ hd)
  rw [List.rtakeWhile, List.reverse_append, List.reverse_cons, List.append_assoc,
    List.takeWhile_append_of_pos hall]
  simp

theorem rsplitOnce_append (first : String) {second : String} {c : Char}
    (h : c ∉ second.toList) :
    RustText.rsplitOnce (first ++ String.singleton c ++ second) c = some (first, second) := by
  have htext : (first ++ String.singleton c ++ second).toList =
      first.toList ++ c :: second.toList := by
    simp
  have htake : (first.toList ++ c :: second.toList).take
      ((first.toList ++ c :: second.toList).length - second.toList.length) =
        first.toList ++ [c] := by
    rw [List.append_cons]
    exact List.take_left' (by simp only [List.length_append, List.length_singleton]; omega)
  rw [RustText.rsplitOnce, htext, rtakeWhile_append h]
  simp only [htake]
  simp

theorem rsplitOnce_none {text : String} {c : Char} (h : c ∉ text.toList) :
    RustText.rsplitOnce text c = none := by
  have hall : text.toList.rtakeWhile (· != c) = text.toList := by
    rw [List.rtakeWhile_eq_self_iff]
    intro d hd
    simpa using fun heq : d = c => h (heq ▸ hd)
  simp [RustText.rsplitOnce, hall]

theorem rsplitOnce_eq_some_iff {text first second : String} {c : Char} :
    RustText.rsplitOnce text c = some (first, second) ↔
      text = first ++ String.singleton c ++ second ∧ c ∉ second.toList := by
  constructor
  · intro h
    by_cases hmem : c ∈ text.toList
    · obtain ⟨later, earlier, hsplit, hlater⟩ :=
        List.eq_append_cons_of_mem (List.mem_reverse.mpr hmem)
      have htext : text = String.ofList earlier.reverse ++ String.singleton c ++
          String.ofList later.reverse := by
        rw [String.ext_iff, ← List.reverse_reverse text.toList, hsplit]
        simp
      have hlast : c ∉ (String.ofList later.reverse).toList := by
        rwa [String.toList_ofList, List.mem_reverse]
      rw [htext, rsplitOnce_append _ hlast] at h
      cases h
      exact ⟨htext, hlast⟩
    · rw [rsplitOnce_none hmem] at h
      cases h
  · rintro ⟨rfl, hsecond⟩
    exact rsplitOnce_append first hsecond

/-- The text that an endpoint gives for its port: what follows the colon after the brackets, or the
last colon where there are no brackets. -/
inductive PortText (endpoint digits : String) : Prop where
  | bracketed (inner after : String) (hinner : ']' ∉ inner.toList)
      (hendpoint : endpoint = "[" ++ (inner ++ String.singleton ']' ++ after))
      (hafter : RustText.trim after = ":" ++ digits)
  | plain (address : String) (hstart : RustText.startsWith endpoint "[" = false)
      (hdigits : ':' ∉ digits.toList)
      (hendpoint : endpoint = address ++ String.singleton ':' ++ digits)

def WrittenPort (endpoint : String) (port : Int) : Prop :=
  ∃ digits, PortText (RustText.trim endpoint) digits ∧
    RustText.parseI32 (RustText.trim digits) = some port ∧ 1 ≤ port ∧ port ≤ 65535

theorem inPortRange_iff (port : Int) : inPortRange port = true ↔ 1 ≤ port ∧ port ≤ 65535 := by
  simp [inPortRange]

theorem portText_bracketed {inner after digits : String} (hinner : ']' ∉ inner.toList) :
    PortText ("[" ++ (inner ++ String.singleton ']' ++ after)) digits ↔
      RustText.trim after = ":" ++ digits := by
  constructor
  · intro h
    cases h with
    | bracketed other rest hother hendpoint hafter =>
      have htail := stripPrefix_eq_some_iff.mpr hendpoint
      rw [stripPrefix_eq_some_iff.mpr rfl, Option.some.injEq] at htail
      have hsplit := splitOnce_append hother rest
      rw [← htail, splitOnce_append hinner after] at hsplit
      cases hsplit
      exact hafter
    | plain address hstart _ _ =>
      rw [RustText.startsWith_append] at hstart
      cases hstart
  · intro hafter
    exact PortText.bracketed inner after hinner rfl hafter

theorem portText_plain {endpoint digits : String}
    (hstart : RustText.startsWith endpoint "[" = false) :
    PortText endpoint digits ↔
      ∃ address, RustText.rsplitOnce endpoint ':' = some (address, digits) := by
  constructor
  · intro h
    cases h with
    | bracketed inner after _ hendpoint _ =>
      rw [hendpoint, RustText.startsWith_append] at hstart
      cases hstart
    | plain address _ hdigits hendpoint =>
      exact ⟨address, rsplitOnce_eq_some_iff.mpr ⟨hendpoint, hdigits⟩⟩
  · rintro ⟨address, hsplit⟩
    obtain ⟨hendpoint, hdigits⟩ := rsplitOnce_eq_some_iff.mp hsplit
    exact PortText.plain address hstart hdigits hendpoint

/-- The number that a port text is read as, or the default port. -/
def portOf (text : Option String) : Int :=
  ((text.bind fun text => RustText.parseI32 (RustText.trim text)).filter
    inPortRange).getD defaultPort

theorem portOf_written {endpoint : String} {text : Option String}
    (htext : ∀ digits, PortText (RustText.trim endpoint) digits ↔ text = some digits) :
    WrittenPort endpoint (portOf text) ∨
      (∀ written, ¬ WrittenPort endpoint written) ∧ portOf text = 2408 := by
  rw [portOf]
  cases hport : (text.bind fun text => RustText.parseI32 (RustText.trim text)).filter
      inPortRange with
  | some port =>
    obtain ⟨hparse, hrange⟩ := Option.filter_eq_some_iff.mp hport
    obtain ⟨digits, hdigits, hparse⟩ := Option.bind_eq_some_iff.mp hparse
    exact Or.inl ⟨digits, (htext digits).mpr hdigits, hparse, (inPortRange_iff port).mp hrange⟩
  | none =>
    refine Or.inr ⟨?_, rfl⟩
    rintro written ⟨digits, hdigits, hparse, hrange⟩
    rw [(htext digits).mp hdigits, Option.bind_some, hparse, Option.filter_some,
      if_pos ((inPortRange_iff written).mpr hrange)] at hport
    cases hport

/-- The port of an accepted endpoint is the written one where that is a port, and 2408 elsewhere. -/
theorem parseWireguardEndpoint_port {endpoint address : String} {port : Int}
    (h : parseWireguardEndpoint endpoint = some (address, port)) :
    WrittenPort endpoint port ∨ (∀ written, ¬ WrittenPort endpoint written) ∧ port = 2408 := by
  rw [parseWireguardEndpoint] at h
  by_cases hempty : RustText.trim endpoint = ""
  · rw [if_pos hempty] at h
    cases h
  · rw [if_neg hempty] at h
    cases hstrip : RustText.stripPrefix (RustText.trim endpoint) "[" with
    | some rest =>
      rw [hstrip] at h
      obtain ⟨⟨inner, after⟩, hsplit, h⟩ := Option.bind_eq_some_iff.mp h
      by_cases haddress : RustText.trim inner = ""
      · simp only [if_pos haddress] at h
        cases h
      · simp only [if_neg haddress] at h
        cases h
        obtain ⟨rfl, hinner⟩ := splitOnce_eq_some_iff.mp hsplit
        refine @portOf_written endpoint (RustText.stripPrefix (RustText.trim after) ":") ?_
        intro digits
        rw [stripPrefix_eq_some_iff.mp hstrip, portText_bracketed hinner, stripPrefix_eq_some_iff]
    | none =>
      have hstart : RustText.startsWith (RustText.trim endpoint) "[" = false := by
        by_contra hstart
        rw [Bool.not_eq_false] at hstart
        rw [RustText.stripPrefix, if_pos hstart] at hstrip
        cases hstrip
      have htext : ∀ digits, PortText (RustText.trim endpoint) digits ↔
          (RustText.rsplitOnce (RustText.trim endpoint) ':').map Prod.snd = some digits := by
        intro digits
        rw [portText_plain hstart]
        simp
      have hport : port = portOf ((RustText.rsplitOnce (RustText.trim endpoint) ':').map
        Prod.snd) := by
        rw [hstrip] at h
        cases hsplit : RustText.rsplitOnce (RustText.trim endpoint) ':' with
        | none =>
          rw [hsplit] at h
          cases h
          rfl
        | some parts =>
          obtain ⟨before, portText⟩ := parts
          rw [hsplit] at h
          by_cases haddress : RustText.trim before = ""
          · simp only [if_pos haddress] at h
            cases h
          · simp only [if_neg haddress] at h
            rw [portOf, Option.map_some, Option.bind_some]
            cases hparse : RustText.parseI32 (RustText.trim portText) with
            | none =>
              rw [hparse] at h
              cases h
              rfl
            | some written =>
              rw [hparse] at h
              rw [Option.filter_some]
              by_cases hrange : inPortRange written = true
              · simp only [if_pos hrange] at h ⊢
                cases h
                rfl
              · simp only [if_neg hrange] at h ⊢
                cases h
                rfl
      rw [hport]
      exact portOf_written htext

end Ports

section OwnSections

def interfaceKeys : List String := ["privatekey", "mtu", "address"]

def peerKeys : List String := ["endpoint", "publickey", "presharedkey", "allowedips", "reserved"]

def given (entries : List Entry) (key : String) : Option String :=
  (lastValue entries key).filter (· ≠ "")

/-- The peers whose endpoint is accepted, with the server it names. -/
def acceptedPeers (peers : List (List Entry)) : List (List Entry × (String × Int)) :=
  peers.filterMap fun peer =>
    ((given peer "endpoint").bind parseWireguardEndpoint).map fun server => (peer, server)

/-- The profile of one accepted peer, from its own lines and those of the interface. -/
structure IsPeerProfile (interface : List Entry) (accepted : (List Entry × (String × Int)) × Nat)
    (profile : ProfileItem) : Prop where
  fields : ∃ privateKey, given interface "privatekey" = some privateKey ∧
    profile =
      { remarks := "WireGuard Peer " ++ toString (accepted.2 + 1)
        protocol :=
          .wireGuard { address := accepted.1.2.1, port := accepted.1.2.2 } privateKey
            (given accepted.1.1 "publickey") (given accepted.1.1 "presharedkey")
            (given interface "address") (given accepted.1.1 "allowedips")
            (given accepted.1.1 "reserved")
            (((lastValue interface "mtu").bind RustText.parseI32).filter (0 < ·)) }
  port : ∃ endpoint, given accepted.1.1 "endpoint" = some endpoint ∧
    (WrittenPort endpoint accepted.1.2.2 ∨
      (∀ written, ¬ WrittenPort endpoint written) ∧ accepted.1.2.2 = 2408)

/-- Each section is read with the values of its own lines, and the profiles are those of the
accepted peers, in order. -/
structure ReadsOwn (text : String) : Prop where
  interface_own : ∀ key ∈ interfaceKeys,
    (readConfig text).interface.value key = lastValue (interfaceEntries (sectionsOf text)) key
  peers_own : List.Forall₂ (fun values entries => ∀ key ∈ peerKeys,
    Values.value values key = lastValue entries key) (readConfig text).peers
      (peerSections (sectionsOf text))
  profiles_own : ∀ profiles, parseWireguardConfig text = .ok profiles →
    List.Forall₂ (IsPeerProfile (interfaceEntries (sectionsOf text)))
      (acceptedPeers (peerSections (sectionsOf text))).zipIdx profiles

/-- The last of all lines with a key is one of the own lines, or repeats the last of them. -/
def Repeats (read own : List Entry) (key : String) : Prop :=
  ∀ value, lastValue read key = some value → lastValue own key = some value

/-- No line of another section has the last word on a key with a value of its own. -/
structure Undisturbed (text : String) : Prop where
  interface : ∀ key ∈ interfaceKeys,
    Repeats (((blocksOf text).filter (!·.isPeer)).flatMap Block.entries)
      (((blocksOf text).filter (!·.isPeer)).flatMap Block.own) key
  peers : ∀ block ∈ blocksOf text, block.isPeer = true → ∀ key ∈ peerKeys,
    Repeats block.entries block.own key

theorem lastValue_isSome {entries : List Entry} {key : String} :
    (lastValue entries key).isSome = true ↔ ∃ entry ∈ entries, entry.1 = key := by
  rw [lastValue, List.lookup_isSome_iff]
  constructor
  · rintro ⟨entry, hentry, hkey⟩
    exact ⟨entry, List.mem_reverse.mp hentry, (beq_iff_eq.mp hkey).symm⟩
  · rintro ⟨entry, hentry, hkey⟩
    exact ⟨entry, List.mem_reverse.mpr hentry, beq_iff_eq.mpr hkey.symm⟩

theorem repeats_iff {read own : List Entry} (hown : ∀ entry ∈ own, entry ∈ read) (key : String) :
    Repeats read own key ↔ lastValue read key = lastValue own key := by
  constructor
  · intro h
    cases hread : lastValue read key with
    | some value => rw [h value hread]
    | none =>
      cases hlast : lastValue own key with
      | none => rfl
      | some value =>
        obtain ⟨entry, hentry, hkey⟩ :=
          lastValue_isSome.mp (Option.isSome_iff_exists.mpr ⟨_, hlast⟩)
        have hsome := lastValue_isSome.mpr ⟨entry, hown entry hentry, hkey⟩
        rw [hread] at hsome
        cases hsome
  · intro h value hread
    rw [← h, hread]

theorem interface_values (text key : String) :
    (readConfig text).interface.value key =
      lastValue (((blocksOf text).filter (!·.isPeer)).flatMap Block.entries) key := by
  rw [readConfig_blocks, (foldl_readBlock {} (blocksOf text)).1]
  exact value_read _ key

theorem interfaceEntries_blocks (text : String) :
    interfaceEntries (sectionsOf text) =
      ((blocksOf text).filter (!·.isPeer)).flatMap Block.own :=
  (own_interface ⟨false, [], []⟩ (sectionsOf text)).symm

theorem peers_values (text : String) :
    (readConfig text).peers =
      ((blocksOf text).filter (·.isPeer)).map fun block => tableOf .empty block.entries := by
  rw [readConfig_blocks, (foldl_readBlock {} (blocksOf text)).2]
  rfl

theorem peerSections_blocks (text : String) :
    peerSections (sectionsOf text) = ((blocksOf text).filter (·.isPeer)).map Block.own :=
  (own_peers ⟨false, [], []⟩ (sectionsOf text)).symm

theorem interface_own_iff (text key : String) :
    (readConfig text).interface.value key = lastValue (interfaceEntries (sectionsOf text)) key ↔
      Repeats (((blocksOf text).filter (!·.isPeer)).flatMap Block.entries)
        (((blocksOf text).filter (!·.isPeer)).flatMap Block.own) key := by
  rw [interface_values, interfaceEntries_blocks, repeats_iff]
  intro entry hentry
  obtain ⟨block, hblock, hmem⟩ := List.mem_flatMap.mp hentry
  exact List.mem_flatMap.mpr ⟨block, hblock, List.mem_append_left _ hmem⟩

theorem forall₂_same_map {α β γ : Type} {R : β → γ → Prop} {f : α → β} {g : α → γ} (xs : List α) :
    List.Forall₂ R (xs.map f) (xs.map g) ↔ ∀ x ∈ xs, R (f x) (g x) := by
  rw [List.forall₂_map_left_iff, List.forall₂_map_right_iff, List.forall₂_same]

theorem peers_own_iff (text : String) :
    List.Forall₂ (fun values entries => ∀ key ∈ peerKeys,
        Values.value values key = lastValue entries key) (readConfig text).peers
          (peerSections (sectionsOf text)) ↔
      ∀ block ∈ blocksOf text, block.isPeer = true → ∀ key ∈ peerKeys,
        Repeats block.entries block.own key := by
  rw [peers_values, peerSections_blocks, forall₂_same_map]
  have hblock : ∀ block : Block, (∀ key ∈ peerKeys,
      Values.value (tableOf .empty block.entries) key = lastValue block.own key) ↔
        ∀ key ∈ peerKeys, Repeats block.entries block.own key := by
    intro block
    refine forall₂_congr fun key _ => ?_
    rw [value_read]
    exact (repeats_iff (fun _ hentry => List.mem_append_left _ hentry) key).symm
  constructor
  · intro h block hmem hpeer
    exact (hblock block).mp (h block (List.mem_filter.mpr ⟨hmem, hpeer⟩))
  · intro h block hmem
    obtain ⟨hmem, hpeer⟩ := List.mem_filter.mp hmem
    exact (hblock block).mpr (h block hmem hpeer)

theorem filled_eq_given {values : Values} {entries : List Entry} {key : String}
    (h : values.value key = lastValue entries key) : filled values key = given entries key := by
  rw [filled, given, h]
  cases lastValue entries key with
  | none => rfl
  | some value =>
    by_cases hempty : value = "" <;> simp [nonempty, hempty, Option.filter_some]

theorem address_eq_given {values : Values} {entries : List Entry} {key : String}
    (h : values.value key = lastValue entries key) :
    nonempty ((values.value key).getD "") = given entries key := by
  rw [given, h]
  cases lastValue entries key with
  | none => rfl
  | some value =>
    by_cases hempty : value = "" <;> simp [nonempty, hempty, Option.filter_some]

theorem acceptedPeers_cons (peer : List Entry) (peers : List (List Entry)) :
    acceptedPeers (peer :: peers) =
      match (given peer "endpoint").bind parseWireguardEndpoint with
      | none => acceptedPeers peers
      | some server => (peer, server) :: acceptedPeers peers := by
  rw [acceptedPeers, List.filterMap_cons]
  cases (given peer "endpoint").bind parseWireguardEndpoint with
  | none => rfl
  | some server => rfl

/-- What one peer adds to the result: nothing without an accepted endpoint, else its profile. -/
theorem readPeer_cases {interface peer : Values} {interfaceLines peerLines : List Entry}
    (hinterface : ∀ key ∈ interfaceKeys, interface.value key = lastValue interfaceLines key)
    (hpeer : ∀ key ∈ peerKeys, peer.value key = lastValue peerLines key) {privateKey : String}
    (hkey : given interfaceLines "privatekey" = some privateKey) (result : List ProfileItem) :
    ((given peerLines "endpoint").bind parseWireguardEndpoint = none ∧
        readPeer interface privateKey result peer = result) ∨
      ∃ server profile, (given peerLines "endpoint").bind parseWireguardEndpoint = some server ∧
        readPeer interface privateKey result peer = result ++ [profile] ∧
        IsPeerProfile interfaceLines ((peerLines, server), result.length) profile := by
  have hendpoint : nonemptyOption (peer.value "endpoint") = given peerLines "endpoint" := by
    rw [nonemptyOption, hpeer "endpoint" (by simp [peerKeys]), given]
  rw [readPeer, hendpoint]
  cases hgiven : given peerLines "endpoint" with
  | none => exact Or.inl ⟨rfl, rfl⟩
  | some endpoint =>
    rw [Option.bind_some]
    cases hserver : parseWireguardEndpoint endpoint with
    | none => exact Or.inl ⟨rfl, by simp only [hserver]⟩
    | some server =>
      refine Or.inr ⟨server, _, rfl, by simp only [hserver]; rfl, ?_, ?_⟩
      · refine ⟨privateKey, hkey, ?_⟩
        rw [peerProfile, filled_eq_given (hpeer "publickey" (by simp [peerKeys])),
          filled_eq_given (hpeer "presharedkey" (by simp [peerKeys])),
          filled_eq_given (hpeer "allowedips" (by simp [peerKeys])),
          filled_eq_given (hpeer "reserved" (by simp [peerKeys])),
          address_eq_given (hinterface "address" (by simp [interfaceKeys])), wgMtu,
          hinterface "mtu" (by simp [interfaceKeys])]
      · exact ⟨endpoint, hgiven, parseWireguardEndpoint_port hserver⟩

theorem foldl_readPeer {interface : Values} {interfaceLines : List Entry}
    (hinterface : ∀ key ∈ interfaceKeys, interface.value key = lastValue interfaceLines key)
    {privateKey : String} (hkey : given interfaceLines "privatekey" = some privateKey)
    {peers : List Values} {sections : List (List Entry)}
    (hpeers : List.Forall₂ (fun values entries => ∀ key ∈ peerKeys,
      Values.value values key = lastValue entries key) peers sections) (result : List ProfileItem) :
    ∃ out, peers.foldl (readPeer interface privateKey) result = result ++ out ∧
      List.Forall₂ (IsPeerProfile interfaceLines)
        ((acceptedPeers sections).zipIdx result.length) out := by
  induction hpeers generalizing result with
  | nil => exact ⟨[], (List.append_nil result).symm, List.Forall₂.nil⟩
  | @cons peer lines peers sections hpeer _ ih =>
    rw [List.foldl_cons, acceptedPeers_cons]
    rcases readPeer_cases hinterface hpeer hkey result with ⟨hnone, hread⟩ |
      ⟨server, profile, hsome, hread, hprofile⟩
    · rw [hread, hnone]
      exact ih result
    · obtain ⟨out, hfold, hout⟩ := ih (result ++ [profile])
      refine ⟨profile :: out, ?_, ?_⟩
      · rw [hread, hfold, List.append_assoc]
        rfl
      · rw [hsome]
        rw [List.length_append, List.length_singleton] at hout
        exact List.Forall₂.cons hprofile hout

/-- The reader keeps every section to its own lines, and gives the profiles they stand for, exactly
on the files where no line of another section has the last word. -/
theorem wireguard_readsOwn_iff (text : String) : ReadsOwn text ↔ Undisturbed text := by
  constructor
  · intro h
    exact ⟨fun key hkey => (interface_own_iff text key).mp (h.interface_own key hkey),
      (peers_own_iff text).mp h.peers_own⟩
  · intro h
    have hinterface : ∀ key ∈ interfaceKeys, (readConfig text).interface.value key =
        lastValue (interfaceEntries (sectionsOf text)) key :=
      fun key hkey => (interface_own_iff text key).mpr (h.interface key hkey)
    have hpeers := (peers_own_iff text).mpr h.peers
    refine ⟨hinterface, hpeers, ?_⟩
    intro profiles hparse
    rw [parseWireguardConfig] at hparse
    have hgiven : nonemptyOption ((readConfig text).interface.value "privatekey") =
        given (interfaceEntries (sectionsOf text)) "privatekey" := by
      rw [nonemptyOption, hinterface "privatekey" (by simp [interfaceKeys]), given]
    cases hkey : given (interfaceEntries (sectionsOf text)) "privatekey" with
    | none =>
      rw [hgiven, hkey] at hparse
      cases hparse
    | some privateKey =>
      obtain ⟨out, hfold, hout⟩ := foldl_readPeer hinterface hkey hpeers []
      rw [hgiven, hkey] at hparse
      simp only [hfold, List.nil_append] at hparse
      split at hparse
      · cases hparse
      · cases hparse
        exact hout

def commentedHeader : String :=
  "[Interface]\nPrivateKey = k\n[Peer]\nEndpoint = a:1\n[Peer] # second\nEndpoint = b:2\n"

def strayProfile : ProfileItem :=
  { remarks := "WireGuard Peer 1"
    protocol :=
      .wireGuard { address := "b", port := 2 } "k" none none none none none none }

/-- The endpoint under the header with a comment takes the place of the first peer's own. -/
theorem wireguard_reads_stray :
    peerSections (sectionsOf commentedHeader) = [[("endpoint", "a:1")]] ∧
      parseWireguardConfig commentedHeader = .ok [strayProfile] ∧ ¬ ReadsOwn commentedHeader := by
  have hsections : peerSections (sectionsOf commentedHeader) = [[("endpoint", "a:1")]] := by
    decide +kernel
  have haccepted : acceptedPeers [[("endpoint", "a:1")]] = [([("endpoint", "a:1")], ("a", 1))] := by
    decide +kernel
  have hparse : parseWireguardConfig commentedHeader = .ok [strayProfile] := by
    decide +kernel
  refine ⟨hsections, hparse, fun hown => ?_⟩
  have hprofiles := hown.profiles_own _ hparse
  rw [hsections, haccepted] at hprofiles
  obtain ⟨privateKey, _, hprofile⟩ := (List.forall₂_cons.mp hprofiles).1.fields
  have haddress : ("b" : String) = "a" := congrArg ProfileItem.address hprofile
  exact absurd haddress (by decide)

end OwnSections

end WireguardSections
