import VoyaVPN.LinkReading
import VoyaVPN.ProfileBundle

/-! The server lists of SIP008: every entry of a list becomes one profile, from its own fields. -/
namespace Sip008

open Entities ShareCommon LinkReading
open JsonValue (Value)

section Model

def stringField (object : Value) (key : String) : String :=
  ((object.get key).bind Value.asStr).getD ""

/-- The entries of a list, which may come as an array or as the `servers` of an object. -/
def serversOf : Value → List Value
  | .array items => items
  | .object fields =>
    match (Value.object fields).get "servers" with
    | some (.array items) => items
    | _ => []
  | _ => []

def serverProfile (object : Value) : ProfileItem :=
  { remarks := stringField object "remarks"
    protocol :=
      .shadowsocks
        { address := stringField object "server"
          port := (RustText.parseI32 (stringField object "server_port")).getD 0 }
        (stringField object "password") (stringField object "method") false }

def readServer (server : Value) : Except ShareError ProfileItem := do
  if !server.isObject then
    throw (.invalidJson "ss-sip008" "server entry must be an object")
  let item := serverProfile server
  ensureAddressPort "ss-sip008" item
  return item

def parseSsSip008 (crates : Crates) (input : String) : Except ShareError (List ProfileItem) :=
  match crates.readJson input with
  | .error reason => .error (.invalidJson "ss-sip008" reason)
  | .ok value =>
    if (serversOf value).isEmpty then .error (.invalidJson "ss-sip008" "missing servers")
    else (serversOf value).mapM readServer

end Model

section Entries

/-- The number a port stands for when it is written in decimal digits. -/
def DecimalText (text : String) (port : Nat) : Prop :=
  RustText.parseDigits 0 text.toList = some port

/-- What a server list says about one server. -/
structure Listed where
  server : String
  port : Nat
  method : String
  password : String
  remarks : String

/-- An entry with the fields SIP008 asks for, its port written as a number or in digits. -/
structure IsEntry (object : Value) (listed : Listed) : Prop where
  isObject : object.isObject = true
  server_eq : object.get "server" = some (.string listed.server)
  method_eq : object.get "method" = some (.string listed.method)
  password_eq : object.get "password" = some (.string listed.password)
  remarks_eq : object.get "remarks" = some (.string listed.remarks) ∨
    (object.get "remarks").bind Value.asStr = none ∧ listed.remarks = ""
  server_nonempty : listed.server ≠ ""
  method_nonempty : listed.method ≠ ""
  password_nonempty : listed.password ≠ ""
  port_range : 1 ≤ listed.port ∧ listed.port ≤ 65535
  port_eq : ∃ text, DecimalText text listed.port ∧
    (object.get "server_port" = some (.string text) ∨
      object.get "server_port" = some (.number text))

/-- An entry that the reader takes: its host is a valid one and its port is a text. -/
structure IsReadable (object : Value) (listed : Listed) : Prop extends IsEntry object listed where
  host_valid : validHost listed.server = true
  port_text : ∃ text, object.get "server_port" = some (.string text)

def listedProfile (listed : Listed) : ProfileItem :=
  { remarks := listed.remarks
    protocol :=
      .shadowsocks { address := listed.server, port := listed.port } listed.password
        listed.method false }

/-- A profile that was read from one entry and from nothing else, with a port of its own, in either
of its spellings. -/
structure ReadFrom (object : Value) (profile : ProfileItem) : Prop where
  isObject : object.isObject = true
  fields : ∃ digits, ∃ port : Int,
    (object.get "server_port" = some (.string digits) ∨
      object.get "server_port" = some (.number digits)) ∧
    RustText.parseI32 digits = some port ∧ 1 ≤ port ∧ port ≤ 65535 ∧
    profile =
      { remarks := stringField object "remarks"
        protocol :=
          .shadowsocks { address := stringField object "server", port }
            (stringField object "password") (stringField object "method") false }

theorem stringField_of_get {object : Value} {key text : String}
    (h : object.get key = some (.string text)) : stringField object key = text := by
  rw [stringField, h]
  rfl

theorem readServer_ok_iff (object : Value) (profile : ProfileItem) :
    readServer object = .ok profile ↔
      object.isObject = true ∧ profile = serverProfile object ∧
        validHost (serverProfile object).address = true ∧ 1 ≤ (serverProfile object).port ∧
          (serverProfile object).port ≤ 65535 := by
  rw [← ensureAddressPort_ok_iff "ss-sip008", readServer]
  cases object.isObject with
  | false =>
    constructor
    · intro h
      cases h
    · rintro ⟨h, _⟩
      cases h
  | true =>
    simp only [Bool.not_true, Bool.false_eq_true, if_false, true_and]
    constructor
    · intro h
      obtain ⟨_, hcheck, h⟩ := bind_ok_iff.mp h
      cases h
      exact ⟨rfl, hcheck⟩
    · rintro ⟨rfl, hcheck⟩
      rw [hcheck]
      rfl

theorem parseI32_decimal {text : String} {port : Nat} (h : DecimalText text port) (hlow : 1 ≤ port)
    (hhigh : port ≤ 65535) : RustText.parseI32 text = some (port : Int) := by
  have hinteger : RustText.parseInteger text = some (port : Int) := by
    rw [DecimalText] at h
    rw [RustText.parseInteger]
    cases htext : text.toList with
    | nil =>
      rw [htext] at h
      cases h
      exact absurd hlow (by decide)
    | cons c cs =>
      rw [htext] at h
      have hdigits := h
      rw [RustText.parseDigits] at hdigits
      -- a sign is no digit, so the text is read without one
      have hsign : c ≠ '+' ∧ c ≠ '-' := by
        constructor
        · rintro rfl
          cases hdigits
        · rintro rfl
          cases hdigits
      split
      · contradiction
      · rename_i heq
        exact absurd (List.cons.inj heq).1 hsign.1
      · rename_i heq
        exact absurd (List.cons.inj heq).1 hsign.2
      · rw [h]
        rfl
  rw [RustText.parseI32, hinteger, Option.filter_some, if_pos]
  exact decide_eq_true ⟨by omega, by omega⟩

theorem readServer_of_isReadable {object : Value} {listed : Listed}
    (h : IsReadable object listed) : readServer object = .ok (listedProfile listed) := by
  have hprofile : serverProfile object = listedProfile listed := by
    have hremarks : stringField object "remarks" = listed.remarks := by
      rcases h.remarks_eq with hremarks | ⟨hremarks, hempty⟩
      · exact stringField_of_get hremarks
      · rw [stringField, hremarks, hempty]
        rfl
    have hport : RustText.parseI32 (stringField object "server_port") =
        some (listed.port : Int) := by
      obtain ⟨text, htext⟩ := h.port_text
      obtain ⟨other, hdecimal, hother⟩ := h.port_eq
      rw [htext, Option.some.injEq, Option.some.injEq] at hother
      rcases hother with hother | hother
      · cases hother
        rw [stringField_of_get htext]
        exact parseI32_decimal hdecimal h.port_range.1 h.port_range.2
      · cases hother
    rw [serverProfile, hremarks, stringField_of_get h.server_eq, stringField_of_get h.method_eq,
      stringField_of_get h.password_eq, hport]
    rfl
  rw [readServer_ok_iff, hprofile]
  refine ⟨h.isObject, rfl, h.host_valid, ?_, ?_⟩
  · exact Int.ofNat_le.mpr h.port_range.1
  · exact Int.ofNat_le.mpr h.port_range.2

theorem readFrom_of_readServer {object : Value} {profile : ProfileItem}
    (h : readServer object = .ok profile) : ReadFrom object profile := by
  obtain ⟨hobject, rfl, _, hlow, hhigh⟩ := (readServer_ok_iff object profile).mp h
  have hport : (serverProfile object).port =
      (RustText.parseI32 (stringField object "server_port")).getD 0 := rfl
  rw [hport] at hlow hhigh
  cases hparse : RustText.parseI32 (stringField object "server_port") with
  | none =>
    rw [hparse] at hlow
    exact absurd hlow (by decide)
  | some port =>
    rw [hparse] at hlow hhigh
    have hfield : object.get "server_port" = some (.string (stringField object "server_port")) := by
      cases hget : (object.get "server_port").bind Value.asStr with
      | none =>
        rw [stringField, hget] at hparse
        cases hparse
      | some digits =>
        obtain ⟨value, hvalue, hstring⟩ := Option.bind_eq_some_iff.mp hget
        cases value with
        | string text => rw [stringField_of_get hvalue, hvalue]
        | null | bool _ | number _ | array _ | object _ => cases hstring
    refine ⟨hobject, _, port, Or.inl hfield, hparse, hlow, hhigh, ?_⟩
    rw [serverProfile, hparse]
    rfl

end Entries

section Lists

theorem mapM_readServer {objects : List Value} {listed : List Listed}
    (h : List.Forall₂ IsReadable objects listed) :
    objects.mapM readServer = .ok (listed.map listedProfile) := by
  induction h with
  | nil => rfl
  | cons hentry _ ih =>
    rw [List.mapM_cons, readServer_of_isReadable hentry, ih]
    rfl

theorem parse_of_read {crates : Crates} {input : String} {document : Value}
    (hread : crates.readJson input = .ok document) (hsome : serversOf document ≠ []) :
    parseSsSip008 crates input = (serversOf document).mapM readServer := by
  rw [parseSsSip008, hread]
  exact if_neg (by rwa [List.isEmpty_iff])

theorem parse_ok {crates : Crates} {input : String} {profiles : List ProfileItem}
    (h : parseSsSip008 crates input = .ok profiles) :
    ∃ document, crates.readJson input = .ok document ∧
      (serversOf document).mapM readServer = .ok profiles := by
  cases hread : crates.readJson input with
  | error reason =>
    rw [parseSsSip008, hread] at h
    cases h
  | ok document =>
    refine ⟨document, rfl, ?_⟩
    by_cases hsome : serversOf document = []
    · rw [parseSsSip008, hread] at h
      simp only [hsome, List.isEmpty_nil, if_true] at h
      cases h
    · rw [parse_of_read hread hsome] at h
      exact h

/-- Readable entries become one profile each, in order; and whatever the entries are, each profile
that comes out has the values and the port of its own entry. -/
theorem sip008_complete (crates : Crates) (input : String) :
    (∀ document listed, crates.readJson input = .ok document → listed ≠ [] →
      List.Forall₂ IsReadable (serversOf document) listed →
        parseSsSip008 crates input = .ok (listed.map listedProfile)) ∧
    (∀ profiles, parseSsSip008 crates input = .ok profiles →
      ∃ document, crates.readJson input = .ok document ∧
        List.Forall₂ ReadFrom (serversOf document) profiles) := by
  constructor
  · intro document listed hread hlisted hentries
    have hsome : serversOf document ≠ [] := by
      intro hnone
      rw [hnone] at hentries
      cases hentries
      exact hlisted rfl
    rw [parse_of_read hread hsome]
    exact mapM_readServer hentries
  · intro profiles h
    obtain ⟨document, hread, hmap⟩ := parse_ok h
    refine ⟨document, hread, ?_⟩
    exact (ProfileBundle.mapM_ok_forall₂ hmap).imp fun _ _ => readFrom_of_readServer

def spacedHost : Value :=
  .object [("server", .string "a b"), ("server_port", .string "443"), ("method", .string "aes"),
    ("password", .string "pw")]

def numberPort : Value :=
  .object [("server", .string "a.b"), ("server_port", .number "443"), ("method", .string "aes"),
    ("password", .string "pw")]

def namedEntry : Value :=
  .object [("server", .string "a.b"), ("server_port", .string "443"), ("method", .string "aes"),
    ("password", .string "pw"), ("remarks", .string "first")]

def namedEntryText : String :=
  "\x7b\"servers\":[\x7b\"server\":\"a.b\",\"server_port\":\"443\",\"method\":\"aes\"," ++
    "\"password\":\"pw\",\"remarks\":\"first\"\x7d]\x7d"

def spacedHostText : String :=
  "[\x7b\"server\":\"a b\",\"server_port\":\"443\",\"method\":\"aes\",\"password\":\"pw\"\x7d]"

def numberPortText : String :=
  "[\x7b\"server\":\"a.b\",\"server_port\":443,\"method\":\"aes\",\"password\":\"pw\"\x7d]"

/-- Crates whose JSON reader knows the documents below. -/
def listCrates : Crates where
  urlParse := fun _ => .error "empty host"
  readJson := fun text =>
    if text = spacedHostText then .ok (.array [spacedHost])
    else if text = numberPortText then .ok (.array [numberPort])
    else if text = "[]" then .ok (.array [])
    else if text = namedEntryText then .ok (.object [("servers", .array [namedEntry])])
    else .error "expected value"
  compactJson := fun _ => ""
  prettyJson := fun _ => ""

theorem sip008_complete_named :
    parseSsSip008 listCrates namedEntryText =
        .ok [listedProfile ⟨"a.b", 443, "aes", "pw", "first"⟩] ∧
      ∃ document, listCrates.readJson namedEntryText = .ok document ∧
        List.Forall₂ ReadFrom (serversOf document)
          [listedProfile ⟨"a.b", 443, "aes", "pw", "first"⟩] := by
  have hentry : IsReadable namedEntry ⟨"a.b", 443, "aes", "pw", "first"⟩ :=
    { isObject := rfl, server_eq := rfl, method_eq := rfl, password_eq := rfl
      remarks_eq := Or.inl rfl, server_nonempty := by decide, method_nonempty := by decide
      password_nonempty := by decide, port_range := by decide, port_eq := ⟨"443", rfl, Or.inl rfl⟩
      host_valid := rfl, port_text := ⟨"443", rfl⟩ }
  have hread : parseSsSip008 listCrates namedEntryText =
      .ok [listedProfile ⟨"a.b", 443, "aes", "pw", "first"⟩] :=
    (sip008_complete listCrates namedEntryText).1 _ [⟨"a.b", 443, "aes", "pw", "first"⟩] rfl
      (by simp) (List.Forall₂.cons hentry List.Forall₂.nil)
  exact ⟨hread, (sip008_complete listCrates namedEntryText).2 _ hread⟩

/-- Well-formed lists that are refused: no entry at all, a host with a space, a port as a number. -/
theorem sip008_refused :
    (∃ listed, IsEntry spacedHost listed) ∧ (∃ listed, IsEntry numberPort listed) ∧
      parseSsSip008 listCrates "[]" = .error (.invalidJson "ss-sip008" "missing servers") ∧
      parseSsSip008 listCrates spacedHostText =
        .error (.invalidUri "ss-sip008" "invalid host a b") ∧
      parseSsSip008 listCrates numberPortText = .error (.invalidPort "ss-sip008" "0") := by
  refine ⟨⟨⟨"a b", 443, "aes", "pw", ""⟩, ?_⟩, ⟨⟨"a.b", 443, "aes", "pw", ""⟩, ?_⟩, ?_, ?_, ?_⟩
  · exact ⟨rfl, rfl, rfl, rfl, Or.inr ⟨rfl, rfl⟩, by decide, by decide, by decide, by decide,
      "443", rfl, Or.inl rfl⟩
  · exact ⟨rfl, rfl, rfl, rfl, Or.inr ⟨rfl, rfl⟩, by decide, by decide, by decide, by decide,
      "443", rfl, Or.inr rfl⟩
  · rfl
  · rfl
  · rfl

end Lists

end Sip008
