import VoyaVPN.SettingsSave

/-! What settings are checked for before they are saved: the schema version, texts without control
characters, addresses of sources, and the limits of a few numbers. -/
namespace SettingsValidation

open SettingsSave

/-- A URL as the `url` crate parses it. -/
structure Url where
  scheme : String
  username : String := ""
  password : Option String := none
  hostStr : Option String := none
  port : Option Nat := none
  path : String := ""
  query : Option String := none
  fragment : Option String := none
  deriving DecidableEq, Repr

section Texts

inductive InputSafetyError where
  | emptyValue
  | tooLong
  | controlCharacters
  | tooManyItems
  deriving DecidableEq, Repr

def isControl (c : Char) : Bool := c.toNat ≤ 0x1F || (0x7F ≤ c.toNat && c.toNat ≤ 0x9F)

def validateText (value : String) (maxChars : Nat) : Except InputSafetyError PUnit :=
  if maxChars < value.length then .error .tooLong
  else if RustText.containsChar value isControl then .error .controlCharacters
  else .ok ⟨⟩

def validateRequiredText (value : String) (maxChars : Nat) : Except InputSafetyError PUnit :=
  if RustText.trim value = "" then .error .emptyValue else validateText value maxChars

def validateOptionalText (value : Option String) (maxChars : Nat) : Except InputSafetyError PUnit :=
  match value with
  | some value => validateText value maxChars
  | none => .ok ⟨⟩

def inputSafetyReason : InputSafetyError → String
  | .emptyValue => "value is required"
  | .tooLong => "value is too long"
  | .controlCharacters => "control characters are not allowed"
  | .tooManyItems => "too many items"

end Texts

section Sources

variable (urlParse : String → Option Url)

inductive UrlValidationError where
  | invalidHttpUrl
  | invalidHttpsUrl
  | embeddedCredentials
  deriving DecidableEq, Repr

def validateCredentials (parsed : Url) : Except UrlValidationError PUnit :=
  if parsed.username ≠ "" ∨ parsed.password.isSome then .error .embeddedCredentials else .ok ⟨⟩

def validateAbsoluteHttpUrl (value : String) : Except UrlValidationError PUnit :=
  match urlParse value with
  | none => .error .invalidHttpUrl
  | some parsed =>
    if ¬(parsed.scheme = "http" ∨ parsed.scheme = "https") ∨ parsed.hostStr = none then
      .error .invalidHttpUrl
    else validateCredentials parsed

def validateAbsoluteHttpsUrl (value : String) : Except UrlValidationError PUnit :=
  match urlParse value with
  | none => .error .invalidHttpsUrl
  | some parsed =>
    if parsed.scheme ≠ "https" ∨ parsed.hostStr = none then .error .invalidHttpsUrl
    else validateCredentials parsed

def invalidSourceUrl (label : String) (error : UrlValidationError) : String :=
  "invalid " ++ label ++ ": " ++
    match error with
    | .invalidHttpUrl => "expected an absolute HTTP or HTTPS URL"
    | .invalidHttpsUrl => "expected an absolute HTTPS URL"
    | .embeddedCredentials => "embedded credentials are not allowed"

def validateSource (validate : String → Except UrlValidationError PUnit) (label : String)
    (value : Option String) : Except String PUnit :=
  match (value.map RustText.trim).filter (· ≠ "") with
  | none => .ok ⟨⟩
  | some value => (validate value).mapError (invalidSourceUrl label)

def validateOptionalSourceUrl (label : String) (value : Option String) : Except String PUnit :=
  validateSource (validateAbsoluteHttpUrl urlParse) label value

def validateOptionalHttpsSourceUrl (label : String) (value : Option String) : Except String PUnit :=
  validateSource (validateAbsoluteHttpsUrl urlParse) label value

inductive AppSettingsValidationError where
  | unsupportedSchema (found expected : Nat)
  | invalidText (field reason : String)
  | invalidSource (message : String)
  | invalidTunMtu
  | negativeHysteriaBandwidth
  | invalidHysteriaHopInterval
  deriving DecidableEq, Repr

def checkedSources (sources : SourceSettings) : List (String × Option String) :=
  [("Geo source URL", sources.geo), ("SRS source URL", sources.singboxRuleset),
    ("routing template source URL", sources.routingTemplate),
    ("subscription converter URL", sources.subscriptionConverter)]

def httpSources (sources : SourceSettings) : List (String × Option String) :=
  [("Geo source URL", sources.geo), ("SRS source URL", sources.singboxRuleset),
    ("subscription converter URL", sources.subscriptionConverter)]

def validateAppSettings (settings : AppSettingsV1) : Except AppSettingsValidationError PUnit := do
  if settings.schemaVersion ≠ currentSchemaVersion then
    throw (.unsupportedSchema settings.schemaVersion currentSchemaVersion)
  (validateRequiredText (RustText.trim settings.appearance.language) 256).mapError
    fun error => .invalidText "UI language" (inputSafetyReason error)
  (checkedSources settings.sources).forM fun source =>
    (validateOptionalText source.2 2048).mapError
      fun error => .invalidText source.1 (inputSafetyReason error)
  (httpSources settings.sources).forM fun source =>
    (validateOptionalSourceUrl urlParse source.1 source.2).mapError .invalidSource
  (validateOptionalHttpsSourceUrl urlParse "routing template source URL"
    settings.sources.routingTemplate).mapError .invalidSource
  if ¬(576 ≤ settings.network.tun.mtu ∧ settings.network.tun.mtu ≤ 65535) then
    throw .invalidTunMtu
  if settings.hysteria.uploadMbps < 0 ∨ settings.hysteria.downloadMbps < 0 then
    throw .negativeHysteriaBandwidth
  if settings.hysteria.hopIntervalSeconds < 5 then
    throw .invalidHysteriaHopInterval

end Sources

end SettingsValidation
