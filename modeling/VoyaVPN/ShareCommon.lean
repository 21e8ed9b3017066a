import VoyaVPN.Entities
import VoyaVPN.IpAddr
import VoyaVPN.JsonValue
import VoyaVPN.SettingsValidation
import VoyaVPN.PercentText
import VoyaVPN.Base64

/-! What the share-link formats have in common: their errors, the checks of an address, and the
escapes, base64 and JSON texts that links are written with. -/
namespace ShareCommon

open Entities
open JsonValue (Value)
open SettingsValidation (Url isControl)

inductive ShareError where
  | emptyInput
  | unsupportedProtocol
  | invalidUri (protocol reason : String)
  | invalidBase64 (protocol : String)
  | invalidJson (protocol reason : String)
  | missingField (protocol field : String)
  | invalidPort (protocol port : String)
  | wrongConfigType (protocol : String) (actual : ConfigType)
  | invalidFullConfig
  | invalidVoyaBundle (reason : String)
  deriving DecidableEq, Repr

/-- The crates that read and write the texts of links: `Url::parse`, and the reading, the compact
and the pretty text of `serde_json`. -/
structure Crates where
  urlParse : String → Except String Url
  readJson : String → Except String Value
  compactJson : Value → String
  prettyJson : Value → String

def defaultSecurity : String := "auto"
def defaultNetwork : String := "raw"
def rawNetworkAlias : String := "tcp"
def rawHeaderHttp : String := "http"
def noneText : String := "none"
def streamSecurityTls : String := "tls"
def grpcGunMode : String := "gun"
def grpcMultiMode : String := "multi"
def hysteria2DefaultScheme : String := "hysteria2://"
def hysteria2AltScheme : String := "hy2://"
def naiveHttpsScheme : String := "naive+https://"
def naiveQuicScheme : String := "naive+quic://"
def maxBase64DecodeInput : Nat := 1024 * 1024
def networks : List String := ["raw", "xhttp", "kcp", "grpc", "ws", "httpupgrade"]
def xhttpModes : List String := ["auto", "packet-up", "stream-up", "stream-one"]

section Checks

/-- The bytes of a text, which `str::len` counts. -/
def byteLen (text : String) : Nat := (PercentText.utf8 text.toList).length

def ensureType (protocol : String) (item : ProfileItem) (expected : ConfigType) :
    Except ShareError Unit :=
  if item.configType = expected then .ok ⟨⟩ else .error (.wrongConfigType protocol item.configType)

def ensureNonempty (protocol field value : String) : Except ShareError Unit :=
  if value = "" then .error (.missingField protocol field) else .ok ⟨⟩

def isHostBreak (c : Char) : Bool :=
  isControl c || RustText.isWhitespace c || ['=', '/', '?', '#', '@', '\\'].contains c

def isLabelChar (c : Char) : Bool :=
  ('A' ≤ c && c ≤ 'Z') || ('a' ≤ c && c ≤ 'z') || ('0' ≤ c && c ≤ '9') || c == '-'

def validLabel (label : String) : Bool :=
  label ≠ "" && byteLen label ≤ 63 && !RustText.startsWith label "-" &&
    !RustText.endsWith label "-" && label.toList.all isLabelChar

def unbracketed (host : String) : String :=
  match host.toList with
  | '[' :: rest => if rest.getLast? = some ']' then String.ofList rest.dropLast else host
  | _ => host

def validHost (host : String) : Bool :=
  let host := RustText.trim host
  if host = "" || 253 < byteLen host || RustText.containsChar host isHostBreak then false
  else if (IpAddr.parse (unbracketed host)).isSome then true
  else if RustText.containsChar host (· == ':') then false
  else
    let domain := String.ofList (host.toList.rdropWhile (· == '.'))
    domain ≠ "" && (RustText.split domain (· == '.')).all validLabel

def ensureAddressPort (protocol : String) (item : ProfileItem) : Except ShareError Unit := do
  ensureNonempty protocol "address" item.address
  if !validHost item.address then
    throw (.invalidUri protocol ("invalid host " ++ item.address))
  if ¬(1 ≤ item.port ∧ item.port ≤ 65535) then
    throw (.invalidPort protocol (toString item.port))

def nonempty (value : String) : Option String := if value = "" then none else some value

def nonemptyOption (value : Option String) : Option String := value.filter (· ≠ "")

def optionOr (value : Option String) (defaultValue : String) : String :=
  (nonemptyOption value).getD defaultValue

def parsePositiveI32 (value : String) : Option Int := (RustText.parseI32 value).filter (0 < ·)

def splitCsv (input : String) : List String :=
  (RustText.split (String.ofList (input.toList.filter fun c => !(c == '\r' || c == '\n')))
    (· == ',')).filter (· ≠ "")

def itemNetwork (item : ProfileItem) : String :=
  if item.network = "" ∨ item.network ∉ networks then defaultNetwork
  else RustText.trim item.network

def defaultTlsSettings : TlsSettings := { mode := .tls }

/-- `starts_with_ci` with an ASCII text, the only kind it is called with. -/
def ciPrefix : List Char → List Char → Bool
  | [], _ => true
  | _ :: _, [] => false
  | c :: cs, d :: ds => c.toLower == d.toLower && ciPrefix cs ds

def startsWithCi (value pat : String) : Bool := ciPrefix pat.toList value.toList

def protocolShare : ConfigType → String
  | .vmess => "vmess://"
  | .shadowsocks => "ss://"
  | .socks => "socks://"
  | .vless => "vless://"
  | .trojan => "trojan://"
  | .hysteria2 => hysteria2DefaultScheme
  | .tuic => "tuic://"
  | .wireGuard => "wireguard://"
  | .anytls => "anytls://"
  | .naive => "naive://"
  | .custom | .http | .policyGroup | .proxyChain => ""

end Checks

section Texts

def isUnreserved (c : Char) : Bool :=
  ('A' ≤ c && c ≤ 'Z') || ('a' ≤ c && c ≤ 'z') || ('0' ≤ c && c ≤ '9') ||
    ['-', '_', '.', '~'].contains c

def urlEncode (input : String) : String :=
  String.ofList (PercentText.encode isUnreserved input.toList)

def urlDecode (input : String) : String := String.ofList (PercentText.decode input.toList)

def base64Encode (input : String) (removePadding : Bool) : String :=
  let encoded := Base64.encode (PercentText.utf8 input.toList)
  String.ofList (if removePadding then encoded.rdropWhile (· == '=') else encoded)

/-- `String::from_utf8`: the bytes are UTF-8 when they are those of the text read from them. -/
def fromUtf8 (bytes : List Nat) : Option (List Char) :=
  let text := PercentText.decodeUtf8Lossy none bytes
  if PercentText.utf8 text = bytes then some text else none

def base64Decode (input protocol : String) : Except ShareError String :=
  if maxBase64DecodeInput < byteLen (RustText.trim input) then .error (.invalidBase64 protocol)
  else
    let normalized := ((RustText.trim input).toList.filter (!RustText.isWhitespace ·)).map fun c =>
      if c = '_' then '/' else if c = '-' then '+' else c
    let len := (PercentText.utf8 normalized).length
    let padded :=
      if len % 4 = 0 then normalized else normalized ++ List.replicate (4 - len % 4) '='
    match (Base64.decode padded).bind fromUtf8 with
    | some text => .ok (String.ofList text)
    | none => .error (.invalidBase64 protocol)

variable (crates : Crates)

def compactJsonOrSelf (input : String) : String :=
  match crates.readJson input with
  | .ok value => crates.compactJson value
  | .error _ => input

def prettyJsonOrSelf (input : String) : String :=
  match crates.readJson input with
  | .ok value => crates.prettyJson value
  | .error _ => input

end Texts

end ShareCommon
