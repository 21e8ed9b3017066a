import VoyaVPN.ImportOutcome

/-! The import of a text that is a profile bundle and nothing else. -/
namespace BundleImport

open Entities AppConfig ConfigMutation VoyaStore ActionRules ManagerSession ProfileNormalize
open ProfileManager SubscriptionManager ProfileSelection ImportLoop ImportText ImportOutcome
open ProfileBundle

/-- The characters of a payload: none of them ends a line or is white space. -/
def PayloadChars (payload : String) : Prop :=
  payload ≠ "" ∧ ∀ c ∈ payload.toList, RustText.isWhitespace c = false ∧ c ≠ '/'

def bundleText (payload : String) : String := voyaProfileBundlePrefix ++ payload

section Text

variable {payload : String}

theorem toList_bundleText (payload : String) :
    (bundleText payload).toList = "voya://profiles/v1/".toList ++ payload.toList :=
  String.toList_append

theorem bundleText_chars (hpayload : PayloadChars payload) :
    ∀ c ∈ (bundleText payload).toList, RustText.isWhitespace c = false := by
  intro c hc
  rw [toList_bundleText, List.mem_append] at hc
  rcases hc with hprefix | hrest
  · have hall : ("voya://profiles/v1/".toList.all fun c => !RustText.isWhitespace c) = true := by
      decide +kernel
    simpa using List.all_eq_true.mp hall c hprefix
  · exact (hpayload.2 c hrest).1

theorem lines_of_chars {text : String} (hne : text ≠ "")
    (hchars : ∀ c ∈ text.toList, RustText.isWhitespace c = false) :
    RustText.lines text = [text] := by
  have hsplit : text.toList.splitOnP (· == '\n') = [text.toList] := by
    rw [List.splitOnP_eq_singleton]
    intro c hc
    rw [beq_eq_false_iff_ne]
    rintro rfl
    exact absurd (hchars _ hc) (by decide)
  have hnonempty : text.toList ≠ [] := by
    intro hempty
    exact hne (String.toList_eq_nil_iff.mp hempty)
  simp [RustText.lines, hsplit, hnonempty]

theorem importLines_bundleText (hpayload : PayloadChars payload) :
    importLines (bundleText payload) = [bundleText payload] := by
  have hne : bundleText payload ≠ "" := by
    intro hempty
    have hlist := congrArg String.toList hempty
    rw [toList_bundleText] at hlist
    simp at hlist
  rw [importLines, lines_of_chars hne (bundleText_chars hpayload)]
  simp [RustText.trim_of_chars (bundleText_chars hpayload), hne]

theorem isHttpUrl_bundleText (hpayload : PayloadChars payload) :
    isHttpUrl (bundleText payload) = false := by
  rw [isHttpUrl, RustText.trim_of_chars (bundleText_chars hpayload), RustText.startsWith,
    RustText.startsWith,
    toList_bundleText]
  rfl

theorem not_reported_bundleText (hpayload : PayloadChars payload) :
    shouldReportLineParseError (bundleText payload) = false := by
  have hlower : (RustText.toAsciiLowercase (bundleText payload)).toList =
      "voya://profiles/v1/".toList ++ payload.toList.map Char.toLower := by
    rw [RustText.toAsciiLowercase, String.toList_ofList, toList_bundleText, List.map_append]
    rfl
  rw [shouldReportLineParseError, RustText.trim_of_chars (bundleText_chars hpayload),
    List.any_eq_false]
  intro scheme hscheme
  rw [lineHasPrefixCi, RustText.startsWith, hlower, List.isPrefixOf_iff_prefix]
  intro hstart
  have hheads : ∀ scheme ∈ reportableShareLinkSchemes,
      (RustText.toAsciiLowercase scheme).toList.take 2 ≠ ['v', 'o'] ∧
        2 ≤ (RustText.toAsciiLowercase scheme).toList.length := by
    decide +kernel
  obtain ⟨hother, hlength⟩ := hheads scheme hscheme
  obtain ⟨rest, hrest⟩ := hstart
  have htake := congrArg (List.take 2) hrest
  rw [List.take_append_of_le_length hlength, List.take_append_of_le_length (by decide +kernel)]
    at htake
  exact hother (htake.trans (by decide +kernel))

theorem stripPrefix_bundleText (hpayload : PayloadChars payload) :
    RustText.stripPrefix (RustText.trim (bundleText payload)) voyaProfileBundlePrefix =
      some payload := by
  rw [RustText.trim_of_chars (bundleText_chars hpayload), RustText.stripPrefix, bundleText,
    if_pos (RustText.startsWith_append _ _)]
  rw [String.toList_append, List.drop_left, String.ofList_toList]

theorem parse_bundleText {decode : String → Except String VoyaProfileBundleV1}
    {parseShareLink : String → Except String ProfileItem} {bundle : VoyaProfileBundleV1}
    {target : String} (hpayload : PayloadChars payload) (hdecoded : decode payload = .ok bundle)
    (hversion : bundle.schemaVersion = 1) :
    parseVoyaProfileBundle decode parseShareLink (bundleText payload) target = (do
      validateVoyaBundle bundle.profiles
      bundle.profiles.mapM (bundleEntry parseShareLink target (idMap bundle.profiles))) := by
  have hchars : ¬(payload = "" ∨
      (RustText.containsChar payload fun c => c == '\r' || c == '\n' || c == '/') = true) := by
    rintro (hempty | hcontains)
    · exact hpayload.1 hempty
    · obtain ⟨c, hc, hends⟩ := List.any_eq_true.mp hcontains
      obtain ⟨hwhite, hslash⟩ := hpayload.2 c hc
      rcases Bool.or_eq_true_iff.mp hends with hline | hline
      · rcases Bool.or_eq_true_iff.mp hline with hreturn | hnewline
        · rw [beq_iff_eq.mp hreturn] at hwhite
          exact absurd hwhite (by decide)
        · rw [beq_iff_eq.mp hnewline] at hwhite
          exact absurd hwhite (by decide)
      · exact hslash (beq_iff_eq.mp hline)
  rw [parseVoyaProfileBundle, stripPrefix_bundleText hpayload]
  dsimp only
  rw [if_neg hchars, hdecoded]
  simp [bind, Except.bind, hversion]

end Text

/-- Nothing but the bundle parser takes the text: no line of it is a link or an address, and no
other parser of whole texts reads it. -/
structure OnlyBundle (parsers : ImportParsers) (text : String) : Prop where
  base64 : parsers.decodeBase64Payload text = none
  lines : ∀ line ∈ importLines text, isHttpUrl line = false ∧
    ∃ error, parsers.parseShareLink line = .error error
  sip008 : (parsers.parseSsSip008 text).toOption = none
  wireguard : (parsers.parseWireguardConfig text).toOption = none
  custom : (parsers.parseFullCustomConfig text).toOption = none

def bundleProfiles (parsers : ImportParsers) (text : String) (subscriptionId : Option String) :
    List ProfileItem :=
  (parseVoyaProfileBundle parsers.decodeVoyaBundle parsers.parseShareLink text
    ((trimOption subscriptionId).getD "")).toOption.getD []

section Reading

variable {parsers : ImportParsers} {text : String} {subscriptionId : Option String}

theorem wholeTextProfiles_onlyBundle (h : OnlyBundle parsers text) (target : String) :
    wholeTextProfiles parsers text target =
      (parseVoyaProfileBundle parsers.decodeVoyaBundle parsers.parseShareLink text
        target).toOption.getD [] := by
  simp [wholeTextProfiles, h.sip008, h.wireguard, h.custom]

theorem readLine_profiles {target : String} {state : ParsedImportText × List String}
    {line : String × Nat} (hhttp : isHttpUrl line.1 = false) {error : String}
    (hlink : parsers.parseShareLink line.1 = .error error) :
    (readLine parsers target state line).1.profiles = state.1.profiles := by
  unfold readLine
  simp only [hhttp, hlink]
  split
  · rfl
  · split
    · rename_i hadds
      exact absurd hadds.2 (by simp)
    · split <;> rfl

theorem readLines_profiles {target : String} {lines : List (String × Nat)}
    (hlines : ∀ line ∈ lines, isHttpUrl line.1 = false ∧
      ∃ error, parsers.parseShareLink line.1 = .error error)
    (state : ParsedImportText × List String) :
    (lines.foldl (readLine parsers target) state).1.profiles = state.1.profiles := by
  induction lines generalizing state with
  | nil => rfl
  | cons line lines ih =>
    obtain ⟨hhttp, error, hlink⟩ := hlines line (by simp)
    rw [List.foldl_cons, ih fun other hother => hlines other (by simp [hother])]
    exact readLine_profiles hhttp hlink

theorem parsedText_onlyBundle (h : OnlyBundle parsers text) :
    (parsedText parsers text subscriptionId).profiles =
      bundleProfiles parsers text subscriptionId := by
  have hlines : ∀ line ∈ (importLines text).zipIdx, isHttpUrl line.1 = false ∧
      ∃ error, parsers.parseShareLink line.1 = .error error :=
    fun line hline => h.lines line.1 (List.fst_mem_of_mem_zipIdx hline)
  simp only [parsedText, readText, importContents, h.base64, Option.toList_none, List.nil_append,
    List.foldl_cons, List.foldl_nil, readContent, readLines_profiles hlines,
    wholeTextProfiles_onlyBundle h]
  rfl

end Reading

section Sample

variable {parsers : ImportParsers} {payload : String} {subscriptionId : Option String}

theorem onlyBundle_lines (hpayload : PayloadChars payload) {error : String}
    (hlink : parsers.parseShareLink (bundleText payload) = .error error) :
    ∀ line ∈ importLines (bundleText payload), isHttpUrl line = false ∧
      ∃ error, parsers.parseShareLink line = .error error := by
  intro line hline
  rw [importLines_bundleText hpayload, List.mem_singleton] at hline
  rw [hline]
  exact ⟨isHttpUrl_bundleText hpayload, error, hlink⟩

theorem parsedText_bundleText (hpayload : PayloadChars payload)
    (h : OnlyBundle parsers (bundleText payload)) :
    parsedText parsers (bundleText payload) subscriptionId =
      { discardedNodeOverrides := parsers.countDiscardedNodeOverrides (bundleText payload)
        profiles := bundleProfiles parsers (bundleText payload) subscriptionId } := by
  obtain ⟨hhttp, error, hlink⟩ := h.lines (bundleText payload)
    (by rw [importLines_bundleText hpayload]; exact List.mem_singleton.mpr rfl)
  have hline : ∀ target state, readLine parsers target (state, []) (bundleText payload, 0) =
      (state, if target ≠ "" then [bundleText payload] else []) := by
    intro target state
    unfold readLine
    simp [hhttp, hlink, not_reported_bundleText hpayload]
  simp only [parsedText, readText, importContents, h.base64, Option.toList_none, List.nil_append,
    List.foldl_cons, List.foldl_nil, readContent, importLines_bundleText hpayload,
    List.zipIdx_cons, List.zipIdx_nil, hline, wholeTextProfiles_onlyBundle h]
  simp [bundleProfiles]

/-- The import of a bundle text is the import of what the bundle is read as. -/
theorem import_bundleText {session : Session} {regex : Option (String → Bool)}
    (hpayload : PayloadChars payload) (h : OnlyBundle parsers (bundleText payload))
    (hprofiles : bundleProfiles parsers (bundleText payload) subscriptionId ≠ [])
    (hregex : compileFilter parsers (subscriptionFilter subscriptionId session) = .ok regex) :
    outcome (importProfilesFromText parsers (bundleText payload) subscriptionId) session =
      outcome (importParsed (trimOption subscriptionId) regex
        (profilesBeforeImport (trimOption subscriptionId) session.database)
        { discardedNodeOverrides := parsers.countDiscardedNodeOverrides (bundleText payload)
          profiles := bundleProfiles parsers (bundleText payload) subscriptionId }) session := by
  have hparse : outcome (parseImportText parsers (bundleText payload)
      ((trimOption subscriptionId).getD "")) session =
        (.ok (parsedText parsers (bundleText payload) subscriptionId), session) := by
    apply parseImportText_again (target_blank_or_named subscriptionId)
    · intro content hcontent line hline _ hhttp
      rw [importContents, h.base64, Option.toList_none, List.nil_append, List.mem_singleton]
        at hcontent
      rw [hcontent] at hline
      rw [(h.lines line hline).1] at hhttp
      cases hhttp
    · rintro ⟨hnone, _⟩
      exact hprofiles (parsedText_onlyBundle h ▸ hnone)
  rw [import_of_read hregex hparse, parsedText_bundleText hpayload h]

end Sample

section Samples

def nodeProfile (address : String) : ProfileItem :=
  { protocol := .socks { address, port := 1 } "u" "p" }

def sampleParsers (payload : String) (bundle : VoyaProfileBundleV1) : ImportParsers where
  decodeBase64Payload _ := none
  countDiscardedNodeOverrides _ := 0
  parseShareLink uri :=
    if uri = "socks://u:p@a:1" then .ok (nodeProfile "a")
    else if uri = "socks://u:p@b:1" then .ok (nodeProfile "b")
    else .error "unsupported protocol"
  decodeVoyaBundle input :=
    if input = payload then .ok bundle else .error "invalid base64 payload"
  parseSsSip008 _ := .error "invalid JSON"
  parseWireguardConfig _ := .error "missing interface"
  parseFullCustomConfig _ := .error "unknown format"
  compileRegex _ := .error "unsupported"

def sampleSession (profiles : KeyedTable ProfileItem String ProfileItem.indexId)
    (subscriptions : KeyedTable SubItem String SubItem.id) : Session where
  database := { rows := { profiles, subscriptions } }
  config := {}
  readings drawn := ⟨drawn, drawn, 1⟩

variable {payload : String} {bundle : VoyaProfileBundleV1}

theorem bundleText_ne_socks (rest : String) : bundleText payload ≠ "socks://" ++ rest := by
  intro hequal
  have hlist := congrArg (fun text => text.toList.head?) hequal
  simp [toList_bundleText] at hlist

theorem sample_onlyBundle (hpayload : PayloadChars payload) :
    OnlyBundle (sampleParsers payload bundle) (bundleText payload) := by
  have hlink : (sampleParsers payload bundle).parseShareLink (bundleText payload) =
      .error "unsupported protocol" := by
    have hfirst : bundleText payload ≠ "socks://u:p@a:1" := bundleText_ne_socks "u:p@a:1"
    have hsecond : bundleText payload ≠ "socks://u:p@b:1" := bundleText_ne_socks "u:p@b:1"
    simp [sampleParsers, hfirst, hsecond]
  exact ⟨rfl, onlyBundle_lines hpayload hlink, rfl, rfl, rfl⟩

def sampleProfiles (bundle : VoyaProfileBundleV1) (target : String) :
    Except String (List ProfileItem) := do
  validateVoyaBundle bundle.profiles
  bundle.profiles.mapM
    (bundleEntry (sampleParsers "" bundle).parseShareLink target (idMap bundle.profiles))

theorem sample_bundleProfiles {subscriptionId : Option String} {profiles : List ProfileItem}
    (hpayload : PayloadChars payload) (hversion : bundle.schemaVersion = 1)
    (hprofiles : sampleProfiles bundle ((trimOption subscriptionId).getD "") = .ok profiles) :
    bundleProfiles (sampleParsers payload bundle) (bundleText payload) subscriptionId =
      profiles := by
  have hdecoded : (sampleParsers payload bundle).decodeVoyaBundle payload = .ok bundle := by
    simp [sampleParsers]
  have hlink : (sampleParsers payload bundle).parseShareLink =
      (sampleParsers "" bundle).parseShareLink := rfl
  rw [bundleProfiles, parse_bundleText hpayload hdecoded hversion, hlink]
  exact congrArg (fun parsed : Except String (List ProfileItem) =>
    parsed.toOption.getD []) hprofiles

theorem payloadChars_append {first second : String} (hfirst : PayloadChars first)
    (hsecond : PayloadChars second) : PayloadChars (first ++ second) := by
  refine ⟨fun hempty => hfirst.1 ?_, fun c hc => ?_⟩
  · have hlist := congrArg String.toList hempty
    rw [String.toList_append] at hlist
    exact String.toList_eq_nil_iff.mp (List.append_eq_nil_iff.mp hlist).1
  · rw [String.toList_append, List.mem_append] at hc
    exact hc.elim (hfirst.2 c) (hsecond.2 c)

theorem payloadChars_of_all {payload : String} (hne : payload ≠ "")
    (hall : (payload.toList.all fun c => !RustText.isWhitespace c && c != '/') = true) :
    PayloadChars payload := by
  refine ⟨hne, fun c hc => ?_⟩
  simpa using List.all_eq_true.mp hall c hc

end Samples

end BundleImport
