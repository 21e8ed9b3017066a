import VoyaVPN.ShareOptions

/-! Export options leave the node of a link as it is. -/
namespace OptionsKept

open Entities ShareCommon ShareUri ShareFormats LinkReading ShareOptions
open JsonValue (Value)
open SettingsValidation (Url)

section Crates

/-- What the URL crate does with a link whose query is extended: its scheme is the text before the
colon, controls and spaces at the ends of a text are dropped, and the text written for the URL has
the same scheme, no white space at its ends, and is read back as the same URL. -/
structure ReadsBack (crates : Crates) (append : Url → String × String → Url)
    (serialize : Url → String) (link : String) (pairs : QueryPairs) : Prop where
  ends : crates.urlParse (RustText.trimMatches isTrimmed link) = crates.urlParse link ∧
    crates.urlParse (RustText.trimMatches isTrimmed (RustText.trim link)) =
      crates.urlParse (RustText.trim link)
  scheme : ∀ scheme ∈ linkSchemes, ∀ rest url, link = scheme ++ "://" ++ rest →
    crates.urlParse link = .ok url → url.scheme = scheme
  written : ∀ url, crates.urlParse link = .ok url →
    (∃ rest, serialize (appendPairs append url pairs) = url.scheme ++ "://" ++ rest) ∧
      RustText.trim (serialize (appendPairs append url pairs)) =
        serialize (appendPairs append url pairs) ∧
      crates.urlParse (serialize (appendPairs append url pairs)) =
        .ok (appendPairs append url pairs)

def Flat (value : Value) : Prop :=
  ∃ fields, value = .object fields ∧ ∀ field ∈ fields, ∃ text, field.2 = .string text

/-- What `serde_json` does with such objects: the text it writes is read back with the same
members. -/
def ReadsFlat (crates : Crates) : Prop :=
  ∀ value, Flat value → ∃ again, crates.readJson (crates.compactJson value) = .ok again ∧
    Flat again ∧ ∀ key, again.get key = value.get key

end Crates

section Schemes

variable {crates : Crates}

def HasScheme (link : String) : Prop :=
  ∃ scheme ∈ linkSchemes, ∃ rest, link = scheme ++ "://" ++ rest

theorem hasScheme_toUri {configType : ConfigType} {scheme : String} (hscheme : scheme ∈ linkSchemes)
    (hshare : protocolShare configType = scheme ++ "://") (address : String) (port : Int)
    (userInfo : String) (query : QueryPairs) (remark : String) :
    HasScheme (toUri configType address port userInfo query remark) := by
  refine ⟨scheme, hscheme, toUriWithoutScheme address port userInfo query remark, ?_⟩
  rw [toUri, hshare]

theorem hasScheme_naive {item : ProfileItem} {link : String}
    (h : naiveLink crates item = some link) :
    HasScheme link := by
  rw [naiveLink] at h
  split at h
  · rename_i quic _ _ _ _
    cases h
    cases quic with
    | true => exact ⟨"naive+quic", by decide, _, rfl⟩
    | false => exact ⟨"naive+https", by decide, _, rfl⟩
  · cases h

theorem hasScheme_hysteria2 {item : ProfileItem} {link : String}
    (h : hysteria2Link item = some link) : HasScheme link := by
  rw [hysteria2Link] at h
  split at h
  · cases h
    exact ⟨"hysteria2", by decide, _, rfl⟩
  · cases h

theorem hasScheme_export {item : ProfileItem} {link : String}
    (h : exportShareLink crates item = .ok link) (hvmess : item.configType ≠ .vmess) :
    HasScheme link := by
  rw [exportShareLink] at h
  cases htype : item.configType with
  | vmess => exact absurd htype hvmess
  | shadowsocks =>
    rw [htype] at h
    cases (linkExport_ok_iff.mp h).2.2.2
    exact hasScheme_toUri (by decide) (show protocolShare .shadowsocks = "ss" ++ "://" by decide) ..
  | socks =>
    rw [htype] at h
    cases (linkExport_ok_iff.mp h).2.2.2
    exact hasScheme_toUri (by decide) (show protocolShare .socks = "socks" ++ "://" by decide) ..
  | trojan =>
    rw [htype] at h
    cases (linkExport_ok_iff.mp h).2.2.2
    exact hasScheme_toUri (by decide) (show protocolShare .trojan = "trojan" ++ "://" by decide) ..
  | anytls =>
    rw [htype] at h
    cases (linkExport_ok_iff.mp h).2.2.2
    exact hasScheme_toUri (by decide) (show protocolShare .anytls = "anytls" ++ "://" by decide) ..
  | vless =>
    rw [htype] at h
    have hlink := (linkExport_ok_iff.mp h).2.2.2
    rw [vlessLink] at hlink
    split at hlink
    · cases hlink
      exact hasScheme_toUri (by decide) (show protocolShare .vless = "vless" ++ "://" by decide) ..
    · cases hlink
  | tuic =>
    rw [htype] at h
    have hlink := (linkExport_ok_iff.mp h).2.2.2
    rw [tuicLink] at hlink
    split at hlink
    · cases hlink
      exact hasScheme_toUri (by decide) (show protocolShare .tuic = "tuic" ++ "://" by decide) ..
    · cases hlink
  | wireGuard =>
    rw [htype] at h
    have hlink := (linkExport_ok_iff.mp h).2.2.2
    rw [wireguardLink] at hlink
    split at hlink
    · cases hlink
      exact hasScheme_toUri (by decide)
        (show protocolShare .wireGuard = "wireguard" ++ "://" by decide) ..
    · cases hlink
  | hysteria2 =>
    rw [htype] at h
    exact hasScheme_hysteria2 (linkExport_ok_iff.mp h).2.2.2
  | naive =>
    rw [htype] at h
    exact hasScheme_naive (linkExport_ok_iff.mp h).2.2.2
  | custom | http | policyGroup | proxyChain =>
    rw [htype] at h
    cases h

theorem trim_scheme {scheme : String} (hscheme : scheme ∈ linkSchemes) (rest : String) :
    ∃ tail, RustText.trim (scheme ++ "://" ++ rest) = scheme ++ "://" ++ tail := by
  have hne : scheme.toList ≠ [] := by
    revert scheme
    decide
  refine ⟨_, trim_append ?_ ?_ ?_⟩
  · intro c hc
    rw [String.toList_append, List.head?_append_of_ne_nil _ hne] at hc
    exact linkSchemes_head hscheme c hc
  · intro c hc
    rw [String.toList_append, List.getLast?_append_of_ne_nil _ (by decide)] at hc
    have hslash : c = '/' := by
      simpa using hc.symm
    rw [hslash]
    decide
  · intro hempty
    have hlist := congrArg String.toList hempty
    simp at hlist

theorem linkSchemes_vmess {scheme rest : String} (hscheme : scheme ∈ linkSchemes) :
    startsWithCi (scheme ++ "://" ++ rest) "vmess://" = false := by
  have hsame := InsecureFlags.startsWithCi_scheme scheme rest "" "vmess" (by decide)
  have hall : (linkSchemes.all fun scheme => !startsWithCi (scheme ++ "://" ++ "") "vmess://") =
      true := by
    decide +kernel
  have hnone := List.all_eq_true.mp hall scheme hscheme
  rw [show "vmess" ++ "://" = "vmess://" from rfl] at hsame
  rw [hsame]
  simpa using hnone

end Schemes

section Urls

variable {crates : Crates} {append : Url → String × String → Url} {serialize : Url → String}
variable {item : ProfileItem} {options : ShareLinkOptions} {u v : String}

theorem kept_url (hu : exportShareLink crates item = .ok u) (hvmess : item.configType ≠ .vmess)
    (hv : exportShareLinkWithOptions crates append serialize item options = .ok v)
    (happends : AppendsPairs append)
    (hread : ReadsBack crates append serialize u (optionPairs item options))
    (hends : RustText.trimMatches isTrimmed (RustText.trim u) = RustText.trimMatches isTrimmed u) :
    parseShareLink crates v = parseShareLink crates u := by
  rw [exportShareLinkWithOptions, hu] at hv
  simp only [if_neg hvmess] at hv
  split at hv
  · cases hv
    rfl
  · cases hurl : crates.urlParse u with
    | error reason =>
      rw [hurl] at hv
      cases hv
    | ok url =>
      rw [hurl] at hv
      cases hv
      obtain ⟨⟨restV, hrestV⟩, htrimV, hreread⟩ := hread.written url hurl
      obtain ⟨scheme, hscheme, rest, hlink⟩ := hasScheme_export hu hvmess
      rw [hread.scheme scheme hscheme rest url hlink hurl] at hrestV
      obtain ⟨restU, hrestU⟩ := trim_scheme hscheme rest
      rw [← hlink] at hrestU
      have htrimmed : crates.urlParse (RustText.trim u) = .ok url := by
        rw [← hread.ends.2, hends, hread.ends.1, hurl]
      refine InsecureFlags.parseShareLink_uri (htrimV.trans hrestV) hrestU ?_ ?_
      · intro hstart
        rw [htrimV, hrestV, linkSchemes_vmess hscheme] at hstart
        cases hstart
      · have hnames := optionPairs_names item options
        refine ⟨url, (appendPairs append url (optionPairs item options)).query, url.query, ?_,
          htrimmed, readAgree_appendPairs happends url hnames⟩
        rw [htrimV, hreread]
        exact congrArg Except.ok (appendPairs_query happends url hnames)

end Urls

section Objects

variable {crates : Crates} {append : Url → String × String → Url} {serialize : Url → String}
variable {item : ProfileItem} {options : ShareLinkOptions} {u v : String}

theorem mem_insertMember {key : String} {value : Value} {fields : List (String × Value)}
    {field : String × Value} (h : field ∈ insertMember key value fields) :
    field = (key, value) ∨ field ∈ fields := by
  induction fields with
  | nil => exact Or.inl (List.mem_singleton.mp h)
  | cons member rest ih =>
    rw [insertMember] at h
    split at h
    · rcases List.mem_cons.mp h with h | h
      · exact Or.inl h
      · exact Or.inr h
    · split at h
      · rcases List.mem_cons.mp h with h | h
        · exact Or.inl h
        · exact Or.inr (List.mem_cons_of_mem _ h)
      · rcases List.mem_cons.mp h with h | h
        · exact Or.inr (h ▸ List.mem_cons_self)
        · exact (ih h).imp id (List.mem_cons_of_mem _)

theorem get_cons (member : String × Value) (rest : List (String × Value)) (wanted : String) :
    (Value.object (member :: rest)).get wanted =
      ((Value.object rest).get wanted).or (if wanted == member.1 then some member.2 else none) := by
  rw [Value.get, Value.get, List.reverse_cons, List.lookup_append, List.lookup_cons,
    List.lookup_nil]
  cases wanted == member.1 with
  | true => rfl
  | false => rfl

theorem get_insertMember {key wanted : String} (hne : wanted ≠ key) (value : Value)
    (fields : List (String × Value)) :
    (Value.object (insertMember key value fields)).get wanted =
      (Value.object fields).get wanted := by
  have hother : (wanted == key) = false := beq_false_of_ne hne
  induction fields with
  | nil => rw [insertMember, get_cons, hother, if_neg (by decide), Option.or_none]
  | cons member rest ih =>
    rw [insertMember]
    split
    · rw [get_cons, hother, if_neg (by decide), Option.or_none]
    · split
      · rename_i hkey
        rw [get_cons, get_cons, ← hkey, hother, if_neg (by decide), if_neg (by decide)]
      · rw [get_cons, get_cons, ih]

theorem flat_optionMembers (options : ShareLinkOptions) {fields : List (String × Value)}
    (h : ∀ field ∈ fields, ∃ text, field.2 = Value.string text) :
    Flat (.object (optionMembers options fields)) := by
  have hinsert : ∀ {fields : List (String × Value)} (key text : String),
      (∀ field ∈ fields, ∃ text, field.2 = Value.string text) →
        ∀ field ∈ insertMember key (.string text) fields, ∃ text, field.2 = Value.string text := by
    intro fields key text hfields field hfield
    rcases mem_insertMember hfield with rfl | hfield
    · exact ⟨text, rfl⟩
    · exact hfields field hfield
  refine ⟨_, rfl, ?_⟩
  rw [optionMembers]
  split
  · exact hinsert _ _ h
  · exact hinsert _ _ (hinsert _ _ h)

theorem get_optionMembers (options : ShareLinkOptions) (fields : List (String × Value)) :
    ∀ key ∈ InsecureFlags.objectKeys,
      (Value.object (optionMembers options fields)).get key = (Value.object fields).get key := by
  have hall : (InsecureFlags.objectKeys.all fun key => key ≠ "allowInsecure" && key ≠ "fp") =
      true := by
    decide +kernel
  intro key hkey
  have hne := List.all_eq_true.mp hall key hkey
  rw [Bool.and_eq_true, decide_eq_true_eq, decide_eq_true_eq] at hne
  rw [optionMembers]
  split
  · rw [get_insertMember hne.1]
  · rw [get_insertMember hne.2, get_insertMember hne.1]

theorem flat_vmessObject (item : ProfileItem) (uuid : String) (cipher : Option String) :
    Flat (vmessObject item uuid cipher) := by
  refine ⟨_, rfl, ?_⟩
  simp only [List.forall_mem_cons, Value.string.injEq, exists_eq', List.not_mem_nil,
    false_implies, implies_true, and_self]

theorem base64Encode_plain (text : String) :
    ∀ c ∈ (base64Encode text false).toList, RustText.isWhitespace c = false := by
  obtain ⟨body, pad, hpadded, -⟩ := Base64.encode_padded _ (Base64Text.utf8_lt text.toList)
  intro c hc
  rw [Base64Text.base64Encode_padded hpadded, String.toList_ofList, List.mem_append] at hc
  rcases hc with hc | hc
  · obtain ⟨n, hn, rfl⟩ := hpadded.symbols c hc
    exact (Base64Text.symbol_facts n hn).2.2.2.2.2
  · rw [(List.mem_replicate.mp hc).2]
    decide

theorem trim_vmess (text : String) :
    RustText.trim ("vmess://" ++ base64Encode text false) =
      "vmess://" ++ base64Encode text false := by
  apply RustText.trim_of_chars
  intro c hc
  rw [String.toList_append, List.mem_append] at hc
  rcases hc with hc | hc
  · have hall : ("vmess://".toList.all fun c => !RustText.isWhitespace c) = true := by decide
    simpa using List.all_eq_true.mp hall c hc
  · exact base64Encode_plain text c hc

theorem vmessObject_text {text : String} {object : Value}
    (hlen : byteLen text ≤ Base64Text.maxEncodedLen)
    (hread : crates.readJson text = .ok object) (hobject : object.isObject = true) :
    InsecureFlags.VmessObject crates
      (RustText.trim ("vmess://" ++ base64Encode text false)) object := by
  refine ⟨base64Encode text false, text, ?_, ?_, hread, hobject⟩
  · rw [vmessPayload, trim_vmess, trim_vmess]
    have hstart : startsWithCi ("vmess://" ++ base64Encode text false) "vmess://" = true := by
      rw [startsWithCi, String.toList_append, InsecureFlags.ciPrefix_append (by decide)]
      decide
    simp only [hstart, if_true]
    simp
  · rw [Base64Text.base64Decode_base64Encode, if_pos hlen]

theorem kept_vmess (hjson : ReadsFlat crates) (hu : exportShareLink crates item = .ok u)
    (hvmess : item.configType = .vmess)
    (hv : exportShareLinkWithOptions crates append serialize item options = .ok v)
    (hfits : ∀ text, v = "vmess://" ++ base64Encode text false →
      byteLen text ≤ Base64Text.maxEncodedLen) :
    parseShareLink crates v = parseShareLink crates u := by
  rw [exportShareLinkWithOptions, hu] at hv
  simp only [if_pos hvmess] at hv
  rw [injectVmessGlobalOptions] at hv
  split at hv
  · cases hv
    rfl
  · rw [exportShareLink, hvmess] at hu
    have hlink := (linkExport_ok_iff.mp hu).2.2.2
    rw [vmessLink] at hlink
    split at hlink
    · rename_i uuid cipher _
      cases hlink
      rw [stripPrefix_eq_some_iff.mpr rfl] at hv
      simp only [Base64Text.base64Decode_base64Encode] at hv
      by_cases hlen : byteLen (crates.compactJson (vmessObject item uuid cipher)) ≤
          Base64Text.maxEncodedLen
      · rw [if_pos hlen] at hv
        obtain ⟨again, hread, ⟨fields, rfl, hfields⟩, _⟩ :=
          hjson _ (flat_vmessObject item uuid cipher)
        simp only [hread] at hv
        cases hv
        obtain ⟨last, hlast, ⟨lastFields, rfl, _⟩, hget⟩ :=
          hjson _ (flat_optionMembers options hfields)
        refine InsecureFlags.parseShareLink_objects
          (vmessObject_text (hfits _ rfl) hlast rfl) (vmessObject_text hlen hread rfl) ?_
        intro key hkey
        rw [hget key, get_optionMembers options fields key hkey]
      · rw [if_neg hlen] at hv
        cases hv
    · cases hlink

end Objects

section Export

/-- Options that are added to an exported link change nothing of the profile that is read from it:
where the link does not end in white space that trimming and the URL crate treat differently, and
where the object of a vmess link stays short enough to be read. -/
theorem options_kept {crates : Crates} {append : Url → String × String → Url}
    {serialize : Url → String} {item : ProfileItem} {options : ShareLinkOptions} {u v : String}
    (hu : exportShareLink crates item = .ok u)
    (hv : exportShareLinkWithOptions crates append serialize item options = .ok v)
    (happends : AppendsPairs append)
    (hurl : item.configType ≠ .vmess →
      ReadsBack crates append serialize u (optionPairs item options))
    (hjson : item.configType = .vmess → ReadsFlat crates)
    (hends : item.configType ≠ .vmess →
      RustText.trimMatches isTrimmed (RustText.trim u) = RustText.trimMatches isTrimmed u)
    (hfits : item.configType = .vmess → ∀ text, v = "vmess://" ++ base64Encode text false →
      byteLen text ≤ Base64Text.maxEncodedLen) :
    parseShareLink crates v = parseShareLink crates u := by
  by_cases hvmess : item.configType = .vmess
  · exact kept_vmess (hjson hvmess) hu hvmess hv (hfits hvmess)
  · exact kept_url hu hvmess hv happends (hurl hvmess) (hends hvmess)

/-- A crate that knows the URLs of some texts, whatever stands at their ends. -/
def tableCrates (urls : List (String × Url)) : Crates where
  urlParse := fun text =>
    match urls.lookup (RustText.trimMatches isTrimmed text) with
    | some url => .ok url
    | none => .error "relative URL without a base"
  readJson := fun _ => .error "expected value"
  compactJson := fun _ => ""
  prettyJson := fun _ => ""

def tuicUrl (query : Option String) : Url :=
  { scheme := "tuic", username := "id%3Apw", hostStr := some "a.b", port := some 443, query }

/-- Appends a parameter with the characters of its value escaped that a URL gives a meaning. -/
def escapedAppend (url : Url) (pair : String × String) : Url :=
  { url with query := some (appendQuery url.query (pair.1 ++ "=" ++ urlEncode pair.2)) }

theorem escapedAppend_appends : AppendsPairs escapedAppend where
  query url pair _ := by
    refine ⟨urlEncode pair.2, fun hamp => ?_, rfl⟩
    obtain h | h := urlEncode_chars hamp
    · exact absurd h (by decide)
    · exact absurd h (by decide)

def tuicText (url : Url) : String := "tuic://id%3Apw@a.b:443?" ++ url.query.getD ""

def tuicItem (congestionControl : String) : ProfileItem :=
  { protocol := .tuic { address := "a.b", port := 443 } "id" "pw" (some congestionControl) }

def tuicCrates : Crates :=
  tableCrates [("tuic://id%3Apw@a.b:443?congestion_control=bbr",
      tuicUrl (some "congestion_control=bbr")),
    ("tuic://id%3Apw@a.b:443?congestion_control=bbr\u3000",
      tuicUrl (some "congestion_control=bbr%E3%80%80")),
    ("tuic://id%3Apw@a.b:443?congestion_control=bbr&insecure=0&allowInsecure=0",
      tuicUrl (some "congestion_control=bbr&insecure=0&allowInsecure=0")),
    ("tuic://id%3Apw@a.b:443?congestion_control=bbr%E3%80%80&insecure=0&allowInsecure=0",
      tuicUrl (some "congestion_control=bbr%E3%80%80&insecure=0&allowInsecure=0"))]

def plainLink : String := "tuic://id%3Apw@a.b:443?congestion_control=bbr"

def plainOptionsLink : String :=
  "tuic://id%3Apw@a.b:443?congestion_control=bbr&insecure=0&allowInsecure=0"

theorem readsBack_plain :
    ReadsBack tuicCrates escapedAppend tuicText plainLink (optionPairs (tuicItem "bbr") {}) := by
  have hurl : tuicCrates.urlParse plainLink = .ok (tuicUrl (some "congestion_control=bbr")) := by
    decide +kernel
  refine ⟨⟨by decide +kernel, by decide +kernel⟩, ?_, ?_⟩
  · intro scheme hscheme rest url hlink hparse
    rw [hurl] at hparse
    cases hparse
    have hsplit : RustText.splitOnce plainLink ':' =
        some ("tuic", "//id%3Apw@a.b:443?congestion_control=bbr") := by
      decide +kernel
    rw [hlink, show scheme ++ "://" ++ rest = scheme ++ String.singleton ':' ++ ("//" ++ rest) by
      rw [show "://" = String.singleton ':' ++ "//" from rfl]
      simp only [String.append_assoc], splitOnce_append] at hsplit
    · exact (Prod.mk.inj (Option.some.inj hsplit)).1.symm
    · exact fun hcolon => absurd (linkSchemes_colon hscheme ':' hcolon) (by decide)
  · intro url hparse
    rw [hurl] at hparse
    cases hparse
    refine ⟨⟨"id%3Apw@a.b:443?congestion_control=bbr&insecure=0&allowInsecure=0", ?_⟩, ?_, ?_⟩
    · decide +kernel
    · decide +kernel
    · decide +kernel

theorem options_kept_tuic :
    parseShareLink tuicCrates plainOptionsLink = parseShareLink tuicCrates plainLink := by
  refine @options_kept tuicCrates escapedAppend tuicText (tuicItem "bbr") {} plainLink
    plainOptionsLink (by decide +kernel) (by decide +kernel) escapedAppend_appends
    (fun _ => readsBack_plain) (fun hvmess => ?_) (fun _ => by decide +kernel) (fun hvmess => ?_)
  · cases hvmess
  · cases hvmess

def spacedLink : String := "tuic://id%3Apw@a.b:443?congestion_control=bbr\u3000"

def spacedOptionsLink : String :=
  "tuic://id%3Apw@a.b:443?congestion_control=bbr%E3%80%80&insecure=0&allowInsecure=0"

def memberText : String × Value → String
  | (key, .string text) => "\"" ++ key ++ "\":\"" ++ text ++ "\""
  | _ => ""

def membersText : List (String × Value) → String
  | [] => ""
  | [member] => memberText member
  | member :: rest => memberText member ++ "," ++ membersText rest

/-- The text of an object whose members are texts that need no escapes. -/
def objectText : Value → String
  | .object fields => "\x7b" ++ membersText fields ++ "\x7d"
  | _ => ""

def vmessItem : ProfileItem :=
  { protocol := .vmess { address := "a.b", port := 443 } "id" none, tls := some { mode := .tls } }

def vmessCrates : Crates where
  urlParse := fun _ => .error "relative URL without a base"
  readJson := fun text =>
    if text = objectText (vmessObject vmessItem "id" none) then
      .ok (vmessObject vmessItem "id" none)
    else .error "expected value"
  compactJson := objectText
  prettyJson := fun _ => ""

def letters (count : Nat) : String := String.ofList (List.replicate count 'a')

theorem byteLen_append (first second : String) :
    byteLen (first ++ second) = byteLen first + byteLen second := by
  rw [byteLen, String.toList_append, PercentText.utf8_append, List.length_append, byteLen, byteLen]

theorem byteLen_member {key text : String} {fields : List (String × Value)}
    (h : (key, Value.string text) ∈ fields) : byteLen text ≤ byteLen (membersText fields) := by
  have hmember : byteLen text ≤ byteLen (memberText (key, .string text)) := by
    simp only [memberText, byteLen_append]
    omega
  induction fields with
  | nil => cases h
  | cons first rest ih =>
    cases rest with
    | nil =>
      rw [← List.mem_singleton.mp h]
      exact hmember
    | cons second rest =>
      simp only [membersText, byteLen_append]
      rcases List.mem_cons.mp h with h | h
      · rw [← h]
        omega
      · have hrest := ih h
        omega

theorem insertMember_mem (key : String) (value : Value) (fields : List (String × Value)) :
    (key, value) ∈ insertMember key value fields := by
  induction fields with
  | nil => exact List.mem_singleton_self _
  | cons member rest ih =>
    rw [insertMember]
    split
    · exact List.mem_cons_self
    · split
      · exact List.mem_cons_self
      · exact List.mem_cons_of_mem _ ih

theorem trim_letters (count : Nat) : RustText.trim (letters count) = letters count := by
  apply RustText.trim_of_chars
  intro c hc
  rw [letters, String.toList_ofList] at hc
  rw [(List.mem_replicate.mp hc).2]
  decide

theorem byteLen_letters (count : Nat) : byteLen (letters count) = count := by
  rw [byteLen, letters, String.toList_ofList, Base64Text.utf8_length_of_ascii,
    List.length_replicate]
  intro c hc
  rw [(List.mem_replicate.mp hc).2]
  decide

theorem starts_vmess (text : String) :
    startsWithCi ("vmess://" ++ base64Encode text false) "vmess://" = true := by
  rw [startsWithCi, String.toList_append, InsecureFlags.ciPrefix_append (by decide)]
  decide

theorem vmessPayload_encoded (text : String) :
    vmessPayload ("vmess://" ++ base64Encode text false) = .ok (base64Encode text false) := by
  rw [vmessPayload, trim_vmess]
  simp only [starts_vmess, if_true]
  simp

/-- The text after the scheme of a vmess link has no at sign, so it is read as base64. -/
theorem parseShareLink_encoded (crates : Crates) (text : String) :
    parseShareLink crates ("vmess://" ++ base64Encode text false) =
      parseVmessBase64 crates ("vmess://" ++ base64Encode text false) := by
  have hplain : RustText.containsChar ("vmess://" ++ base64Encode text false) (· == '@') =
      false := by
    rw [RustText.containsChar, List.any_eq_false]
    intro c hc hat
    rw [beq_iff_eq] at hat
    rw [hat, String.toList_append, List.mem_append] at hc
    rcases hc with hc | hc
    · exact absurd hc (by decide)
    · obtain ⟨body, pad, hpadded, -⟩ := Base64.encode_padded _ (Base64Text.utf8_lt text.toList)
      rw [Base64Text.base64Encode_padded hpadded, String.toList_ofList, List.mem_append] at hc
      rcases hc with hc | hc
      · obtain ⟨n, hn, heq⟩ := hpadded.symbols '@' hc
        have hsymbols : ∀ n < 64, '@' ≠ Base64.symbol n := by decide +kernel
        exact hsymbols n hn heq
      · exact absurd (List.mem_replicate.mp hc).2 (by decide)
  have hne : "vmess://" ++ base64Encode text false ≠ "" := by
    intro hempty
    have hlist := congrArg String.toList hempty
    simp at hlist
  rw [parseShareLink, trim_vmess]
  simp only [if_neg hne, if_pos (starts_vmess text)]
  rw [vmessParse, hplain]
  rfl

theorem parseShareLink_long {crates : Crates} {text : String}
    (h : Base64Text.maxEncodedLen < byteLen text) :
    parseShareLink crates ("vmess://" ++ base64Encode text false) =
      .error (.invalidBase64 "vmess") := by
  rw [parseShareLink_encoded, parseVmessBase64, vmessPayload_encoded]
  simp only [bind, Except.bind, Base64Text.base64Decode_base64Encode]
  rw [if_neg (by omega)]

theorem parseShareLink_object {crates : Crates} {text : String} {value : Value} {item : ProfileItem}
    (hlen : byteLen text ≤ Base64Text.maxEncodedLen) (hread : crates.readJson text = .ok value)
    (hobject : value.isObject = true) (hitem : vmessProfile value = item)
    (hport : ensureAddressPort "vmess" item = .ok ())
    (hpassword : ensureNonempty "vmess" "password" item.password = .ok ()) :
    parseShareLink crates ("vmess://" ++ base64Encode text false) = .ok item := by
  rw [parseShareLink_encoded, parseVmessBase64, vmessPayload_encoded]
  simp only [bind, Except.bind, Base64Text.base64Decode_base64Encode, if_pos hlen, hread]
  rw [Except.mapError]
  simp only [hobject, hitem, hport, hpassword]
  rfl

/-- With a fingerprint of this many letters the link is written but no longer read. -/
theorem long_options {count : Nat} (h : Base64Text.maxEncodedLen < count) :
    ∃ v, exportShareLinkWithOptions vmessCrates escapedAppend tuicText vmessItem
        { fingerprint := letters count } = .ok v ∧
      parseShareLink vmessCrates v = .error (.invalidBase64 "vmess") := by
  have hexport : exportShareLink vmessCrates vmessItem =
      .ok ("vmess://" ++ base64Encode (objectText (vmessObject vmessItem "id" none)) false) := by
    rw [exportShareLink]
    exact linkExport_ok_iff.mpr ⟨rfl, by decide +kernel, by decide +kernel, rfl⟩
  have hlen : byteLen (objectText (vmessObject vmessItem "id" none)) ≤
    Base64Text.maxEncodedLen := by
    decide +kernel
  have hread : vmessCrates.readJson (objectText (vmessObject vmessItem "id" none)) =
      .ok (vmessObject vmessItem "id" none) := by
    simp only [vmessCrates, if_true]
  have hne : letters count ≠ "" := by
    intro hempty
    have hcount := byteLen_letters count
    rw [hempty] at hcount
    rw [← hcount] at h
    exact absurd h (by decide)
  obtain ⟨fields, hfields⟩ : ∃ fields, vmessObject vmessItem "id" none = .object fields := ⟨_, rfl⟩
  refine ⟨"vmess://" ++ base64Encode (objectText
    (.object (optionMembers { fingerprint := letters count } fields))) false, ?_, ?_⟩
  · rw [exportShareLinkWithOptions, hexport]
    simp only
    rw [if_pos (show vmessItem.configType = .vmess from rfl), injectVmessGlobalOptions,
      if_neg (by decide), stripPrefix_eq_some_iff.mpr rfl]
    rw [hfields] at hlen hread ⊢
    simp only [Base64Text.base64Decode_base64Encode, if_pos hlen, hread]
    rfl
  · apply parseShareLink_long
    have hmem : ("fp", Value.string (letters count)) ∈
        optionMembers { fingerprint := letters count } fields := by
      rw [optionMembers, trim_letters]
      simp only [if_neg hne]
      exact insertMember_mem ..
    have hmember := byteLen_member hmem
    rw [byteLen_letters] at hmember
    simp only [objectText, byteLen_append]
    omega

/-- Options change what is read: a value that is written raw and ends in white space beyond ASCII,
and a fingerprint that makes a vmess object too long. -/
theorem options_change :
    (∃ u v, exportShareLink tuicCrates (tuicItem "bbr\u3000") = .ok u ∧
      exportShareLinkWithOptions tuicCrates escapedAppend tuicText (tuicItem "bbr\u3000")
        {} = .ok v ∧
      parseShareLink tuicCrates v ≠ parseShareLink tuicCrates u) ∧
    (∃ u v, exportShareLink vmessCrates vmessItem = .ok u ∧
      exportShareLinkWithOptions vmessCrates escapedAppend tuicText vmessItem
        { fingerprint := letters 786433 } = .ok v ∧
      parseShareLink vmessCrates v ≠ parseShareLink vmessCrates u) := by
  constructor
  · exact ⟨spacedLink, spacedOptionsLink, by decide +kernel, by decide +kernel, by decide +kernel⟩
  · obtain ⟨v, hv, hparse⟩ := @long_options 786433 (by decide)
    refine ⟨_, v, rfl, hv, ?_⟩
    rw [hparse]
    intro hsame
    have hread : parseShareLink vmessCrates ("vmess://" ++ base64Encode
        (objectText (vmessObject vmessItem "id" none)) false) =
          .ok (vmessProfile (vmessObject vmessItem "id" none)) := by
      refine parseShareLink_object ?_ ?_ rfl rfl ?_ ?_
      · decide +kernel
      · simp only [vmessCrates, if_true]
      · decide +kernel
      · decide +kernel
    rw [show vmessCrates.compactJson = objectText from rfl, hread] at hsame
    cases hsame

end Export

end OptionsKept
