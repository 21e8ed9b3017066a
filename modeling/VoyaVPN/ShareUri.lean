import VoyaVPN.ShareCommon

/-! Links as URIs: what is read from the parts of a URL, and the text of a link written from an
address, a port, user information, a query and a remark. -/
namespace ShareUri

open Entities ShareCommon
open SettingsValidation (Url)

/-- The pairs of a query as they are read: one percent-decoding, the first of equal keys kept. -/
abbrev Query := List (String × String)

namespace Query

def containsKey (query : Query) (wanted : String) : Bool :=
  query.any fun pair => RustText.eqIgnoreAsciiCase pair.1 wanted

def readPart (query : Query) (part : String) : Query :=
  match RustText.splitOnce part '=' with
  | none => query
  | some (key, value) =>
    let key := urlDecode key
    if containsKey query key then query else query ++ [(key, urlDecode value)]

def parse (rawQuery : Option String) : Query :=
  match rawQuery with
  | none => []
  | some rawQuery => ((RustText.split rawQuery (· == '&')).filter (· ≠ "")).foldl readPart []

def value (query : Query) (wanted : String) : Option String :=
  (query.find? fun pair => RustText.eqIgnoreAsciiCase pair.1 wanted).map (·.2)

def valueOr (query : Query) (wanted defaultValue : String) : String :=
  (value query wanted).getD defaultValue

def decodedOr (query : Query) (wanted defaultValue : String) : String :=
  urlDecode (valueOr query wanted defaultValue)

end Query

abbrev QueryPairs := List (String × String)

structure ParsedUri where
  scheme : String
  address : String
  port : Int
  remarks : String
  userInfo : String
  query : Query

section Reading

variable (crates : Crates)

def isBracket (c : Char) : Bool := c == '[' || c == ']'

/-- `parse_uri` once the text is split: the host, the port and the decoded parts of a URL. -/
def readUrl (protocol : String) (schemes : List String) (url : Url) :
    Except ShareError ParsedUri := do
  if !schemes.any (RustText.eqIgnoreAsciiCase url.scheme ·) then throw .unsupportedProtocol
  let address := RustText.trimMatches isBracket (url.hostStr.getD "")
  if address = "" then throw (.missingField protocol "host")
  match url.port with
  | none => throw (.missingField protocol "port")
  | some port =>
    if port = 0 then throw (.invalidPort protocol (toString port))
    let userInfo :=
      match url.password with
      | some password => urlDecode url.username ++ ":" ++ urlDecode password
      | none => urlDecode url.username
    return {
      scheme := url.scheme
      address := address
      port := port
      remarks := (url.fragment.map urlDecode).getD ""
      userInfo := userInfo
      query := Query.parse url.query }

def parseUriWithSchemes (input protocol : String) (schemes : List String) :
    Except ShareError ParsedUri :=
  match crates.urlParse input with
  | .error reason => .error (.invalidUri protocol reason)
  | .ok url => readUrl protocol schemes url

def parseUri (input protocol : String) : Except ShareError ParsedUri :=
  parseUriWithSchemes crates input protocol [protocol]

end Reading

def profileFromUri (configType : ConfigType) (parsed : ParsedUri) : ProfileItem :=
  { remarks := parsed.remarks, protocol := .empty configType ⟨parsed.address, parsed.port⟩ }

section Writing

def ipv6Host (address : String) : String :=
  if RustText.startsWith address "[" && RustText.endsWith address "]" then address
  else
    match IpAddr.parse address with
    | some (.v6 _) => "[" ++ address ++ "]"
    | _ => address

def formatPair (pair : String × String) : String := pair.1 ++ "=" ++ pair.2

def formatQuery (query : QueryPairs) : String :=
  if query = [] then "" else "?" ++ "&".intercalate (query.map formatPair)

def formatRemark (remark : String) : String := if remark = "" then "" else "#" ++ urlEncode remark

def toUriWithoutSchemePreencodedUserinfo (address : String) (port : Int) (userInfo : String)
    (query : QueryPairs) (remark : String) : String :=
  userInfo ++ "@" ++ ipv6Host address ++ ":" ++ toString port ++ formatQuery query ++
    formatRemark remark

def toUriWithoutScheme (address : String) (port : Int) (userInfo : String) (query : QueryPairs)
    (remark : String) : String :=
  toUriWithoutSchemePreencodedUserinfo address port (urlEncode userInfo) query remark

def toUri (configType : ConfigType) (address : String) (port : Int) (userInfo : String)
    (query : QueryPairs) (remark : String) : String :=
  protocolShare configType ++ toUriWithoutScheme address port userInfo query remark

def pushEncodedOpt (key : String) (value : Option String) : QueryPairs :=
  match nonemptyOption value with
  | some value => [(key, urlEncode value)]
  | none => []

def pushEncodedStr (key value : String) : QueryPairs :=
  if value = "" then [] else [(key, urlEncode value)]

end Writing

end ShareUri
