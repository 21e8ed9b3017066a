import VoyaVPN.Base64Text
import VoyaVPN.InsecureFlags

/-! Links exported together with the global settings that their format has parameters for. -/
namespace ShareOptions

open Entities ShareCommon ShareUri ShareFormats LinkReading
open JsonValue (Value)
open SettingsValidation (Url)

section Appending

variable (append : Url → String × String → Url)

/-- Each pair is appended by `append_pair` of the URL crate. -/
def appendPairs (url : Url) (pairs : QueryPairs) : Url := pairs.foldl append url

end Appending

section Options

structure ShareLinkOptions where
  allowInsecure : Bool := false
  fingerprint : String := ""
  hysteriaUpMbps : Int := 0
  hysteriaDownMbps : Int := 0
  hysteriaHopInterval : Int := 0

def shareLinkHasTlsOptions (item : ProfileItem) : Bool :=
  [ConfigType.hysteria2, .tuic, .anytls, .naive].contains item.configType ||
    ["tls", "reality"].contains item.streamSecurity

def insecureText (options : ShareLinkOptions) : String :=
  if options.allowInsecure then "1" else "0"

def fingerprintPairs (options : ShareLinkOptions) : QueryPairs :=
  if RustText.trim options.fingerprint = "" then []
  else [("fp", RustText.trim options.fingerprint)]

def positivePairs (key : String) (value : Int) : QueryPairs :=
  if 0 < value then [(key, toString value)] else []

def optionPairs (item : ProfileItem) (options : ShareLinkOptions) : QueryPairs :=
  [("insecure", insecureText options), ("allowInsecure", insecureText options)] ++
    fingerprintPairs options ++
      if item.configType = .hysteria2 then
        positivePairs "upmbps" options.hysteriaUpMbps ++
          positivePairs "downmbps" options.hysteriaDownMbps ++
            positivePairs "hopInterval" options.hysteriaHopInterval
      else []

/-- `Map::insert` into members that are sorted by key. -/
def insertMember (key : String) (value : Value) : List (String × Value) → List (String × Value)
  | [] => [(key, value)]
  | member :: rest =>
    if key < member.1 then (key, value) :: member :: rest
    else if key = member.1 then (key, value) :: rest
    else member :: insertMember key value rest

def optionMembers (options : ShareLinkOptions) (fields : List (String × Value)) :
    List (String × Value) :=
  let fields := insertMember "allowInsecure" (.string (insecureText options)) fields
  if RustText.trim options.fingerprint = "" then fields
  else insertMember "fp" (.string (RustText.trim options.fingerprint)) fields

end Options

section Export

variable (crates : Crates) (append : Url → String × String → Url) (serialize : Url → String)

def injectVmessGlobalOptions (link : String) (item : ProfileItem) (options : ShareLinkOptions) :
    Except ShareError String :=
  if !shareLinkHasTlsOptions item then .ok link
  else
    match RustText.stripPrefix link "vmess://" with
    | none => .error .unsupportedProtocol
    | some payload =>
      match base64Decode payload "vmess" with
      | .error error => .error error
      | .ok decoded =>
        match crates.readJson decoded with
        | .error reason => .error (.invalidJson "vmess" reason)
        | .ok (.object fields) =>
          .ok ("vmess://" ++
            base64Encode (crates.compactJson (.object (optionMembers options fields))) false)
        | .ok _ => .error (.invalidJson "vmess" "expected object")

def exportShareLinkWithOptions (item : ProfileItem) (options : ShareLinkOptions) :
    Except ShareError String :=
  match exportShareLink crates item with
  | .error error => .error error
  | .ok link =>
    if item.configType = .vmess then injectVmessGlobalOptions crates link item options
    else if !shareLinkHasTlsOptions item && item.configType ≠ .hysteria2 then .ok link
    else
      match crates.urlParse link with
      | .error reason => .error (.invalidUri "share" reason)
      | .ok url => .ok (serialize (appendPairs append url (optionPairs item options)))

end Export

section Queries

open Query

/-- The names of the parameters that options are written to. -/
def optionNames : List String :=
  ["insecure", "allowInsecure", "fp", "upmbps", "downmbps", "hopInterval"]

theorem optionNames_text : ∀ name ∈ optionNames,
    urlDecode name = name ∧ '=' ∉ name.toList ∧ '&' ∉ name.toList := by
  have hall : (optionNames.all fun name => urlDecode name = name &&
      !name.toList.contains '=' && !name.toList.contains '&') = true := by
    decide +kernel
  intro name hname
  have h := List.all_eq_true.mp hall name hname
  simp only [Bool.and_eq_true, decide_eq_true_eq, Bool.not_eq_true', List.contains_eq_mem,
    decide_eq_false_iff_not] at h
  exact ⟨h.1.1, h.1.2, h.2⟩

theorem optionNames_unread : ∀ name ∈ optionNames, ∀ key ∈ "plugin" :: InsecureFlags.readKeys,
    RustText.eqIgnoreAsciiCase name key = false := by
  have hall : (optionNames.all fun name => ("plugin" :: InsecureFlags.readKeys).all fun key =>
      !RustText.eqIgnoreAsciiCase name key) = true := by
    decide +kernel
  intro name hname key hkey
  simpa using List.all_eq_true.mp (List.all_eq_true.mp hall name hname) key hkey

def appendQuery (query : Option String) (part : String) : String :=
  match query with
  | none => part
  | some query => if query = "" then part else query ++ "&" ++ part

/-- What the URL crate does with a parameter of one of the options: the query that is there stays as
it is, and after it stands the name, which needs no escape, and a value whose ampersands are
escaped. -/
structure AppendsPairs (append : Url → String × String → Url) : Prop where
  query : ∀ url pair, pair.1 ∈ optionNames → ∃ value, '&' ∉ value.toList ∧
    append url pair = { url with query := some (appendQuery url.query (pair.1 ++ "=" ++ value)) }

theorem parse_appendQuery (query : Option String) {part : String} (hne : part ≠ "")
    (hamp : '&' ∉ part.toList) :
    Query.parse (some (appendQuery query part)) = readPart (Query.parse query) part := by
  have hone : RustText.split part (· == '&') = [part] := by
    rw [RustText.split, List.splitOnP_eq_singleton]
    · simp
    · intro c hc
      simpa using fun heq : c = '&' => hamp (heq ▸ hc)
  have hparse : Query.parse (some part) = readPart [] part := by
    simp [Query.parse, hone, hne]
  cases query with
  | none => exact hparse
  | some query =>
    rw [appendQuery]
    split
    · rename_i hempty
      rw [hparse, hempty]
      rfl
    · have hsplit : RustText.split (query ++ "&" ++ part) (· == '&') =
          RustText.split query (· == '&') ++ [part] := by
        have htext : (query ++ "&" ++ part).toList = query.toList ++ '&' :: part.toList := by
          simp
        rw [← hone, RustText.split, RustText.split, RustText.split, ← List.map_append, htext,
          @List.splitOnP_append_cons _ (· == '&') query.toList part.toList '&' rfl]
      rw [Query.parse, Query.parse, hsplit]
      simp [hne]

theorem value_readPart (query : Query) {part name value key : String}
    (hpart : RustText.splitOnce part '=' = some (name, value))
    (hkey : RustText.eqIgnoreAsciiCase (urlDecode name) key = false) :
    (readPart query part).value key = query.value key := by
  rw [readPart, hpart]
  simp only
  split
  · rfl
  · rw [Query.value, Query.value, List.find?_append]
    simp [hkey]

variable {append : Url → String × String → Url}

theorem value_append (happends : AppendsPairs append) (url : Url) {pair : String × String}
    (hname : pair.1 ∈ optionNames) {key : String}
    (hkey : key ∈ "plugin" :: InsecureFlags.readKeys) :
    (Query.parse (append url pair).query).value key = (Query.parse url.query).value key := by
  obtain ⟨value, hvalue, hquery⟩ := happends.query url pair hname
  obtain ⟨hdecode, hequals, hname'⟩ := optionNames_text pair.1 hname
  have hpart : RustText.splitOnce (pair.1 ++ "=" ++ value) '=' = some (pair.1, value) :=
    splitOnce_append hequals value
  have hsome : pair.1 ++ "=" ++ value ≠ "" := by
    intro hempty
    rw [hempty] at hpart
    cases hpart
  have hamp : '&' ∉ (pair.1 ++ "=" ++ value).toList := by
    simp only [String.toList_append, List.mem_append]
    rintro ((hmem | hmem) | hmem)
    · exact hname' hmem
    · exact absurd hmem (by decide)
    · exact hvalue hmem
  rw [hquery, parse_appendQuery url.query hsome hamp]
  refine value_readPart (Query.parse url.query) hpart ?_
  rw [hdecode]
  exact optionNames_unread pair.1 hname key hkey

theorem value_appendPairs (happends : AppendsPairs append) (url : Url) {pairs : QueryPairs}
    (hnames : ∀ pair ∈ pairs, pair.1 ∈ optionNames) {key : String}
    (hkey : key ∈ "plugin" :: InsecureFlags.readKeys) :
    (Query.parse (appendPairs append url pairs).query).value key =
      (Query.parse url.query).value key := by
  induction pairs generalizing url with
  | nil => rfl
  | cons pair pairs ih =>
    have hrest := ih (append url pair) fun other hother =>
      hnames other (List.mem_cons_of_mem _ hother)
    rw [appendPairs] at hrest
    rw [appendPairs, List.foldl_cons, hrest,
      value_append happends url (hnames pair List.mem_cons_self) hkey]

theorem appendPairs_query (happends : AppendsPairs append) (url : Url) {pairs : QueryPairs}
    (hnames : ∀ pair ∈ pairs, pair.1 ∈ optionNames) :
    appendPairs append url pairs = { url with query := (appendPairs append url pairs).query } := by
  induction pairs generalizing url with
  | nil => rfl
  | cons pair pairs ih =>
    have hrest := ih (append url pair) fun other hother =>
      hnames other (List.mem_cons_of_mem _ hother)
    obtain ⟨value, _, hquery⟩ := happends.query url pair (hnames pair List.mem_cons_self)
    rw [appendPairs] at hrest
    rw [appendPairs, List.foldl_cons, hrest, hquery]

theorem optionPairs_names (item : ProfileItem) (options : ShareLinkOptions) :
    ∀ pair ∈ optionPairs item options, pair.1 ∈ optionNames := by
  have hpositive : ∀ key value pair, pair ∈ positivePairs key value → pair.1 = key := by
    intro key value pair hpair
    rw [positivePairs] at hpair
    split at hpair
    · rw [List.mem_singleton.mp hpair]
    · cases hpair
  intro pair hpair
  rw [optionPairs, List.mem_append, List.mem_append] at hpair
  rcases hpair with (hpair | hpair) | hpair
  · rcases List.mem_cons.mp hpair with rfl | hpair
    · show "insecure" ∈ optionNames
      decide
    · rw [List.mem_singleton.mp hpair]
      show "allowInsecure" ∈ optionNames
      decide
  · rw [fingerprintPairs] at hpair
    split at hpair
    · cases hpair
    · rw [List.mem_singleton.mp hpair]
      show "fp" ∈ optionNames
      decide
  · split at hpair
    · rw [List.mem_append, List.mem_append] at hpair
      rcases hpair with (hpair | hpair) | hpair
      · rw [hpositive _ _ _ hpair]
        decide
      · rw [hpositive _ _ _ hpair]
        decide
      · rw [hpositive _ _ _ hpair]
        decide
    · cases hpair

/-- What links are read with is the same whether or not options are appended. -/
theorem readAgree_appendPairs (happends : AppendsPairs append) (url : Url) {pairs : QueryPairs}
    (hnames : ∀ pair ∈ pairs, pair.1 ∈ optionNames) :
    InsecureFlags.ReadAgree (Query.parse (appendPairs append url pairs).query)
      (Query.parse url.query) := by
  constructor
  · exact fun key hkey => value_appendPairs happends url hnames (List.mem_cons_of_mem _ hkey)
  · rw [value_appendPairs happends url hnames List.mem_cons_self]
    cases (Query.parse url.query).value "plugin" with
    | none => exact Or.inl ⟨rfl, rfl⟩
    | some plugin => exact Or.inr ⟨plugin, plugin, rfl, rfl, rfl, rfl⟩

end Queries

end ShareOptions
