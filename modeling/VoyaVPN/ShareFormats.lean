import VoyaVPN.ProtocolCommon
import VoyaVPN.StreamQuery

/-! The share-link formats, each with its reading and its writing, and the choice among them. -/
namespace ShareFormats

open Entities ShareCommon ShareUri StreamQuery
open JsonValue (Value)

variable (crates : Crates)

section Common

/-- A format that reads its profile off the parts of a URI, then checks the address and the
required fields. -/
def linkParse (protocol : String) (schemes : List String)
    (fill : ParsedUri → Except ShareError ProfileItem)
    (required : List (String × (ProfileItem → String))) (input : String) :
    Except ShareError ProfileItem := do
  let parsed ← parseUriWithSchemes crates input protocol schemes
  let item ← fill parsed
  ensureAddressPort protocol item
  required.forM fun field => ensureNonempty protocol field.1 (field.2 item)
  return item

/-- A format that checks the type, the address and the required fields, then writes its link. -/
def linkExport (protocol : String) (configType : ConfigType)
    (required : List (String × (ProfileItem → String))) (write : ProfileItem → Option String)
    (item : ProfileItem) : Except ShareError String := do
  ensureType protocol item configType
  ensureAddressPort protocol item
  required.forM fun field => ensureNonempty protocol field.1 (field.2 item)
  match write item with
  | some link => return link
  | none => throw (.wrongConfigType protocol item.configType)

def passwordField : String × (ProfileItem → String) := ("password", ProfileItem.password)
def usernameField : String × (ProfileItem → String) := ("username", ProfileItem.username)
def privateKeyField : String × (ProfileItem → String) := ("private key", ProfileItem.password)

/-- The profile of a URI with its protocol data and the stream settings of its query. -/
def streamProfile (configType : ConfigType) (parsed : ParsedUri)
    (protocol : ServerEndpoint → ProfileProtocol) : ProfileItem :=
  resolveUriQuery crates parsed.query
    { profileFromUri configType parsed with protocol := protocol ⟨parsed.address, parsed.port⟩ }

end Common

section Vless

def vlessProfile (parsed : ParsedUri) : ProfileItem :=
  streamProfile crates .vless parsed fun server =>
    .vless server parsed.userInfo (nonempty (parsed.query.valueOr "flow" ""))
      (nonempty (parsed.query.valueOr "encryption" noneText))

def vlessParse (input : String) : Except ShareError ProfileItem :=
  linkParse crates "vless" ["vless"] (fun parsed => .ok (vlessProfile crates parsed))
    [passwordField] input

def vlessPairs (item : ProfileItem) (flow encryption : Option String) : QueryPairs :=
  ("encryption", optionOr encryption noneText) ::
    (((nonemptyOption flow).map fun flow => [("flow", flow)]).getD [] ++
      toUriQuery crates item (some noneText))

def vlessLink (item : ProfileItem) : Option String :=
  match item.protocol with
  | .vless _ uuid flow encryption =>
    some (toUri .vless item.address item.port uuid (vlessPairs crates item flow encryption)
      item.remarks)
  | _ => none

def vlessExport (item : ProfileItem) : Except ShareError String :=
  linkExport "vless" .vless [passwordField] (vlessLink crates) item

end Vless

section Trojan

def trojanProfile (parsed : ParsedUri) : ProfileItem :=
  streamProfile crates .trojan parsed fun server => .trojan server parsed.userInfo

def trojanParse (input : String) : Except ShareError ProfileItem :=
  linkParse crates "trojan" ["trojan"] (fun parsed => .ok (trojanProfile crates parsed))
    [passwordField] input

def trojanLink (item : ProfileItem) : Option String :=
  some (toUri .trojan item.address item.port item.password (toUriQuery crates item none)
    item.remarks)

def trojanExport (item : ProfileItem) : Except ShareError String :=
  linkExport "trojan" .trojan [passwordField] (trojanLink crates) item

end Trojan

section Anytls

def anytlsProfile (parsed : ParsedUri) : ProfileItem :=
  streamProfile crates .anytls parsed fun server => .anytls server parsed.userInfo

def anytlsParse (input : String) : Except ShareError ProfileItem :=
  linkParse crates "anytls" ["anytls"] (fun parsed => .ok (anytlsProfile crates parsed))
    [passwordField] input

def anytlsLink (item : ProfileItem) : Option String :=
  some (toUri .anytls item.address item.port item.password (toUriQuery crates item (some noneText))
    item.remarks)

def anytlsExport (item : ProfileItem) : Except ShareError String :=
  linkExport "anytls" .anytls [passwordField] (anytlsLink crates) item

end Anytls

section Naive

/-- The user name and the password around the first colon; without one all is password. -/
def naiveCredentials (userInfo : String) : String × String :=
  (RustText.splitOnce userInfo ':').getD ("", userInfo)

def naiveProfile (parsed : ParsedUri) : ProfileItem :=
  streamProfile crates .naive parsed fun server =>
    .naive server (naiveCredentials parsed.userInfo).1 (naiveCredentials parsed.userInfo).2
      (RustText.containsStr parsed.scheme "quic") none
      (parsePositiveI32 (parsed.query.valueOr "insecure-concurrency" "")) false

def naiveParse (input : String) : Except ShareError ProfileItem :=
  linkParse crates "naive" ["naive", "naive+https", "naive+quic"]
    (fun parsed => .ok (naiveProfile crates parsed)) [passwordField] input

def naiveUserInfo (username password : String) : String :=
  if username = "" then urlEncode password else urlEncode username ++ ":" ++ urlEncode password

def naiveLink (item : ProfileItem) : Option String :=
  match item.protocol with
  | .naive _ username password quic _ insecureConcurrency _ =>
    some ((if quic then naiveQuicScheme else naiveHttpsScheme) ++
      toUriWithoutSchemePreencodedUserinfo item.address item.port (naiveUserInfo username password)
        (toUriQuery crates item (some noneText) ++ mtuPairs "insecure-concurrency"
          insecureConcurrency)
        item.remarks)
  | _ => none

def naiveExport (item : ProfileItem) : Except ShareError String :=
  linkExport "naive" .naive [passwordField] (naiveLink crates) item

end Naive

section Tuic

def tuicProfile (parsed : ParsedUri) : ProfileItem :=
  streamProfile crates .tuic parsed fun server =>
    match RustText.splitOnce parsed.userInfo ':' with
    | some (username, password) =>
      .tuic server username password (nonempty (parsed.query.valueOr "congestion_control" ""))
    | none => .tuic server "" "" none

def tuicParse (input : String) : Except ShareError ProfileItem :=
  linkParse crates "tuic" ["tuic"] (fun parsed => .ok (tuicProfile crates parsed))
    [usernameField, passwordField] input

def tuicPairs (item : ProfileItem) (congestionControl : Option String) : QueryPairs :=
  toUriQueryLite item ++
    ((nonemptyOption congestionControl).map fun congestion =>
      [("congestion_control", congestion)]).getD []

def tuicLink (item : ProfileItem) : Option String :=
  match item.protocol with
  | .tuic _ uuid password congestionControl =>
    some (toUri .tuic item.address item.port (uuid ++ ":" ++ password)
      (tuicPairs item congestionControl) item.remarks)
  | _ => none

def tuicExport (item : ProfileItem) : Except ShareError String :=
  linkExport "tuic" .tuic [usernameField, passwordField] tuicLink item

end Tuic

section Socks

/-- The user name and the password, plain around a colon or in base64. -/
def socksCredentials (userInfo : String) : Except ShareError (String × String) :=
  if userInfo = "" then .ok ("", "")
  else
    match RustText.splitOnce userInfo ':' with
    | some credentials => .ok credentials
    | none =>
      (base64Decode userInfo "socks").map fun decoded =>
        (RustText.splitOnce decoded ':').getD ("", "")

def socksProfile (parsed : ParsedUri) : Except ShareError ProfileItem :=
  (socksCredentials parsed.userInfo).map fun credentials =>
    { profileFromUri .socks parsed with
      protocol := .socks ⟨parsed.address, parsed.port⟩ credentials.1 credentials.2 }

def socksParse (input : String) : Except ShareError ProfileItem :=
  linkParse crates "socks" ["socks", "socks5", "socks4"] socksProfile [] input

def socksLink (item : ProfileItem) : Option String :=
  some (toUri .socks item.address item.port
    (base64Encode (item.username ++ ":" ++ item.password) true) [] item.remarks)

def socksExport (item : ProfileItem) : Except ShareError String :=
  linkExport "socks" .socks [] socksLink item

end Socks

section Hysteria2

def addPin (tls : Option TlsSettings) (pin : Option String) : Option TlsSettings :=
  match pin with
  | some pin =>
    let tls := tls.getD defaultTlsSettings
    some { tls with certificateSha256 := tls.certificateSha256 ++ [pin] }
  | none => tls

def hysteria2Profile (parsed : ParsedUri) : ProfileItem :=
  let item := streamProfile crates .hysteria2 parsed fun server =>
    .hysteria2 server parsed.userInfo (nonempty (parsed.query.decodedOr "mport" ""))
      (nonempty (parsed.query.decodedOr "obfs-password" ""))
  { item with tls := addPin item.tls (nonempty (parsed.query.decodedOr "pinSHA256" "")) }

def hysteria2Parse (input : String) : Except ShareError ProfileItem :=
  linkParse crates "hysteria2" ["hysteria2", "hy2"]
    (fun parsed => .ok (hysteria2Profile crates parsed)) [passwordField] input

def hysteria2Pairs (item : ProfileItem) (portHops obfuscationPassword : Option String) :
    QueryPairs :=
  toUriQueryLite item ++
    ((nonemptyOption obfuscationPassword).map fun pass =>
      [("obfs", "salamander"), ("obfs-password", urlEncode pass)]).getD [] ++
    ((nonemptyOption portHops).map fun ports =>
      [("mport", urlEncode (RustText.replace ports ":" "-"))]).getD [] ++
    ((item.tls.bind fun tls => tls.certificateSha256.head?).map fun sha =>
      [("pinSHA256", urlEncode sha)]).getD []

def hysteria2Link (item : ProfileItem) : Option String :=
  match item.protocol with
  | .hysteria2 _ _ portHops obfuscationPassword =>
    some (hysteria2DefaultScheme ++
      toUriWithoutScheme item.address item.port item.password
        (hysteria2Pairs item portHops obfuscationPassword) item.remarks)
  | _ => none

def hysteria2Export (item : ProfileItem) : Except ShareError String :=
  linkExport "hysteria2" .hysteria2 [passwordField] hysteria2Link item

end Hysteria2

section WireGuard

def wireguardProfile (parsed : ParsedUri) : ProfileItem :=
  let field := fun key => parsed.query.decodedOr key ""
  { profileFromUri .wireGuard parsed with
    protocol := .wireGuard ⟨parsed.address, parsed.port⟩ parsed.userInfo
      (nonempty (field "publickey")) (nonempty (field "presharedkey"))
      (nonempty (field "address"))
      (nonempty (if field "allowedips" = "" then field "allowed_ips" else field "allowedips"))
      (nonempty (field "reserved")) (parsePositiveI32 (field "mtu")) }

def wireguardParse (input : String) : Except ShareError ProfileItem :=
  linkParse crates "wireguard" ["wireguard"] (fun parsed => .ok (wireguardProfile parsed))
    [privateKeyField] input

def wireguardPairs (peerPublicKey presharedKey interfaceAddress allowedIps reserved : Option String)
    (mtu : Option Int) : QueryPairs :=
  pushEncodedOpt "publickey" peerPublicKey ++ pushEncodedOpt "presharedkey" presharedKey ++
    pushEncodedOpt "reserved" reserved ++ pushEncodedOpt "address" interfaceAddress ++
    pushEncodedOpt "allowedips" allowedIps ++ mtuPairs "mtu" mtu

def wireguardLink (item : ProfileItem) : Option String :=
  match item.protocol with
  | .wireGuard _ privateKey peerPublicKey presharedKey interfaceAddress allowedIps reserved mtu =>
    some (toUri .wireGuard item.address item.port privateKey
      (wireguardPairs peerPublicKey presharedKey interfaceAddress allowedIps reserved mtu)
      item.remarks)
  | _ => none

def wireguardExport (item : ProfileItem) : Except ShareError String :=
  linkExport "wireguard" .wireGuard [privateKeyField] wireguardLink item

end WireGuard

section Shadowsocks

/-- The value of the first plugin option that starts with a name. -/
def pluginOption (parts : List String) (name : String) : Option String :=
  parts.findSome? fun part => RustText.stripPrefix part name

def obfsLocal (parts : List String) (item : ProfileItem) : ProfileItem :=
  let obfsMode := parts.find? fun part => RustText.startsWith part "obfs="
  let obfsHost := pluginOption parts "obfs-host="
  if obfsMode.any (RustText.containsStr · "obfs=http") && obfsHost.any (· ≠ "") then
    { item with transport := some (.tcp (some rawHeaderHttp) obfsHost none) }
  else item

def unescapePath (path : String) : String :=
  RustText.replace (RustText.replace (RustText.replace path "\\=" "=") "\\," ",") "\\\\" "\\"

def escapePath (path : String) : String :=
  RustText.replace (RustText.replace (RustText.replace path "\\" "\\\\") "=" "\\=") "," "\\,"

def v2rayWebsocket (parts : List String) (item : ProfileItem) : ProfileItem :=
  let host := pluginOption parts "host="
  let path := (pluginOption parts "path=").map unescapePath
  let tls :=
    match host with
    | some host => some { item.tls.getD defaultTlsSettings with serverName := some host }
    | none => item.tls
  { item with tls := tls, transport := some (.websocket host path) }

def v2rayTls (parts : List String) (item : ProfileItem) : ProfileItem :=
  let tls := { item.tls.getD defaultTlsSettings with mode := .tls }
  match pluginOption parts "certRaw=" with
  | some cert =>
    { item with tls := some { tls with
        certificatePem := some ("-----BEGIN CERTIFICATE-----\n" ++ RustText.replace cert
          "\\=" "=" ++
          "\n-----END CERTIFICATE-----") } }
  | none => { item with tls := some tls }

def v2rayPlugin (parts : List String) (item : ProfileItem) : Except ShareError ProfileItem :=
  let item :=
    if (pluginOption parts "mode=").getD "websocket" = "websocket" then v2rayWebsocket parts item
    else item
  let item := if "tls" ∈ parts then v2rayTls parts item else item
  match (pluginOption parts "mux=").bind RustText.parseI32 with
  | some mux =>
    if 0 < mux then .error (.invalidUri "ss" "v2ray-plugin mux must be 0") else .ok item
  | none => .ok item

def parseShadowsocksPlugin (plugin : String) (item : ProfileItem) :
    Except ShareError ProfileItem :=
  let parts := (RustText.split plugin (· == ';')).filter (· ≠ "")
  match parts with
  | [] => .error (.invalidUri "ss" "empty plugin")
  | first :: _ =>
    let pluginName := if first = "simple-obfs" then "obfs-local" else first
    if pluginName = "obfs-local" then .ok (obfsLocal parts item)
    else if pluginName = "v2ray-plugin" then v2rayPlugin parts item
    else .ok item

def extractFirstPemBody (cert : String) : Option String :=
  (ProtocolCommon.findStr ProtocolCommon.pemBegin.toList cert.toList).bind fun start =>
    (ProtocolCommon.findStr ProtocolCommon.pemEnd.toList
      (start.2.drop ProtocolCommon.pemBegin.toList.length)).map fun rest =>
        RustText.replace (RustText.trim (String.ofList rest.1)) "\r" ""

def websocketArgs (transport : Option ProfileTransport) : String :=
  match transport with
  | some (.websocket host path) =>
    "mode=websocket;" ++ "host=" ++ host.getD "" ++ ";" ++ "path=" ++ escapePath
      (path.getD "") ++ ";"
  | _ => ""

def tlsArgs (item : ProfileItem) : String :=
  if item.streamSecurity = streamSecurityTls then
    "tls;" ++
      match (item.tls.bind (·.certificatePem)).bind extractFirstPemBody with
      | some certRaw => "certRaw=" ++ RustText.replace certRaw "=" "\\=" ++ ";"
      | none => ""
  else ""

def isHttpObfs (transport : Option ProfileTransport) : Bool :=
  match transport with
  | some (.tcp header _ _) => header = some rawHeaderHttp
  | _ => false

/-- The plugin option of a link, without the last semicolon. -/
def shadowsocksPlugin (item : ProfileItem) : Option String :=
  if isHttpObfs item.transport then
    some ("obfs-local;obfs=http;obfs-host=" ++ (item.transport.bind (·.host)).getD "")
  else
    let pluginArgs := websocketArgs item.transport ++ tlsArgs item
    if pluginArgs = "" then none else some ("v2ray-plugin;" ++ pluginArgs ++ "mux=0")

def shadowsocksCredentials (userInfo : String) : Except ShareError (String × String) :=
  match RustText.splitOnce userInfo ':' with
  | some (method, password) => .ok (method, urlDecode password)
  | none => do
    let decoded ← base64Decode userInfo "ss"
    match RustText.splitOnce decoded ':' with
    | some credentials => return credentials
    | none => throw (.invalidUri "ss" "invalid encoded user info")

def parseShadowsocksSip002 (input : String) : Except ShareError ProfileItem := do
  let parsed ← parseUri crates input "ss"
  let (method, password) ← shadowsocksCredentials parsed.userInfo
  let item : ProfileItem :=
    { profileFromUri .shadowsocks parsed with
      protocol := .shadowsocks ⟨parsed.address, parsed.port⟩ password method false }
  match parsed.query.value "plugin" with
  | some plugin => parseShadowsocksPlugin plugin item
  | none => return item

def shadowsocksMethod (item : ProfileItem) : String :=
  match item.protocol with
  | .shadowsocks _ _ method _ => method
  | _ => ""

def shadowsocksParse (input : String) : Except ShareError ProfileItem := do
  let item ← parseShadowsocksSip002 crates input
  ensureAddressPort "ss" item
  if RustText.trim (shadowsocksMethod item) = "" then throw (.missingField "ss" "method")
  ensureNonempty "ss" "password" item.password
  return item

def shadowsocksPairs (item : ProfileItem) : QueryPairs :=
  ((shadowsocksPlugin item).map fun plugin => [("plugin", urlEncode plugin)]).getD []

def shadowsocksLink (item : ProfileItem) : Option String :=
  some (toUri .shadowsocks item.address item.port
    (base64Encode (shadowsocksMethod item ++ ":" ++ item.password) true) (shadowsocksPairs item)
    item.remarks)

def shadowsocksExport (item : ProfileItem) : Except ShareError String :=
  linkExport "ss" .shadowsocks [("method", shadowsocksMethod), passwordField] shadowsocksLink item

end Shadowsocks

section Vmess

def valueString (object : Value) (key : String) : String :=
  match object.get key with
  | some (.string text) => text
  | some (.number text) => text
  | some (.bool value) => if value then "true" else "false"
  | _ => ""

/-- `as_i64` of a number's text: `-0` is a float. -/
def numberI32 (text : String) : Option Int := if text = "-0" then none else RustText.parseI32 text

def valueI32 (object : Value) (key : String) : Option Int :=
  match object.get key with
  | some (.number text) => numberI32 text
  | some (.string text) => RustText.parseI32 text
  | _ => none

def vmessStandardProfile (parsed : ParsedUri) : ProfileItem :=
  streamProfile crates .vmess parsed fun server =>
    .vmess server parsed.userInfo (some defaultSecurity)

def parseVmessStandard (input : String) : Except ShareError ProfileItem :=
  linkParse crates "vmess" ["vmess"] (fun parsed => .ok (vmessStandardProfile crates parsed))
    [passwordField] input

def vmessTransport (network : String) (vmessType host path : Option String) : ProfileTransport :=
  if network = "kcp" then .kcp vmessType path none
  else if network = "ws" then .websocket host path
  else if network = "httpupgrade" then .httpUpgrade host path
  else if network = "xhttp" then .xhttp host path vmessType none
  else if network = "grpc" then .grpc host path vmessType
  else .tcp vmessType host path

def vmessTls (tlsMode : String) (sni : Option String) (alpn : List String) : Option TlsSettings :=
  if tlsMode = streamSecurityTls ∨ tlsMode = "reality" ∨ sni.isSome ∨ alpn ≠ [] then
    some { mode := if tlsMode = "reality" then .reality else .tls, serverName := sni, alpn := alpn }
  else none

def vmessProfile (object : Value) : ProfileItem :=
  let security := valueString object "scy"
  let net := valueString object "net"
  let network := if net = "" ∨ net = rawNetworkAlias then defaultNetwork else net
  { remarks := valueString object "ps"
    protocol := .vmess ⟨valueString object "add", (valueI32 object "port").getD 0⟩
      (valueString object "id") (some (if security = "" then defaultSecurity else security))
    transport := some (vmessTransport network (nonempty (valueString object "type"))
      (nonempty (valueString object "host")) (nonempty (valueString object "path")))
    tls := vmessTls (valueString object "tls") (nonempty (valueString object "sni"))
      (splitCsv (valueString object "alpn")) }

/-- `strip_prefix_ci` of the scheme. -/
def vmessPayload (input : String) : Except ShareError String :=
  let trimmed := RustText.trim input
  if startsWithCi trimmed "vmess://" then .ok (String.ofList (trimmed.toList.drop 8))
  else .error .unsupportedProtocol

def parseVmessBase64 (input : String) : Except ShareError ProfileItem := do
  let payload ← vmessPayload input
  let decoded ← base64Decode payload "vmess"
  let value ← (crates.readJson decoded).mapError fun reason => ShareError.invalidJson "vmess" reason
  if !value.isObject then throw (.invalidJson "vmess" "expected object")
  let item := vmessProfile value
  ensureAddressPort "vmess" item
  ensureNonempty "vmess" "password" item.password
  return item

def vmessParse (input : String) : Except ShareError ProfileItem :=
  if RustText.containsChar input (· == '@') then
    match parseVmessStandard crates input with
    | .ok item => .ok item
    | .error _ => parseVmessBase64 crates input
  else parseVmessBase64 crates input

def vmessTransportType (transport : Option ProfileTransport) : String :=
  match transport with
  | some (.tcp header _ _) | some (.kcp header _ _) => optionOr header noneText
  | some (.xhttp _ _ mode _) | some (.grpc _ _ mode) => optionOr mode noneText
  | _ => noneText

/-- The object of a link; `serde_json` keeps its keys sorted. -/
def vmessObject (item : ProfileItem) (uuid : String) (cipher : Option String) : Value :=
  let network := itemNetwork item
  .object [
    ("add", .string item.address),
    ("aid", .string "0"),
    ("alpn", .string ((item.tls.map fun tls => ",".intercalate tls.alpn).getD "")),
    ("host", .string ((item.transport.bind (·.host)).getD "")),
    ("id", .string uuid),
    ("net", .string (if network = defaultNetwork then rawNetworkAlias else network)),
    ("path", .string ((item.transport.bind (·.path)).getD "")),
    ("port", .string (toString item.port)),
    ("ps", .string (RustText.trim item.remarks)),
    ("scy", .string (optionOr cipher defaultSecurity)),
    ("sni", .string ((item.tls.bind (·.serverName)).getD "")),
    ("tls", .string item.streamSecurity),
    ("type", .string (vmessTransportType item.transport)),
    ("v", .string "2")]

def vmessLink (item : ProfileItem) : Option String :=
  match item.protocol with
  | .vmess _ uuid cipher =>
    some ("vmess://" ++ base64Encode (crates.compactJson (vmessObject item uuid cipher)) false)
  | _ => none

def vmessExport (item : ProfileItem) : Except ShareError String :=
  linkExport "vmess" .vmess [passwordField] (vmessLink crates) item

end Vmess

section Entry

def parseShareLink (input : String) : Except ShareError ProfileItem :=
  let trimmed := RustText.trim input
  if trimmed = "" then .error .emptyInput
  else if startsWithCi trimmed "vmess://" then vmessParse crates trimmed
  else if startsWithCi trimmed "ss://" then shadowsocksParse crates trimmed
  else if startsWithCi trimmed "socks://" || startsWithCi trimmed "socks5://" ||
      startsWithCi trimmed "socks4://" then
    socksParse crates trimmed
  else if startsWithCi trimmed "trojan://" then trojanParse crates trimmed
  else if startsWithCi trimmed "vless://" then vlessParse crates trimmed
  else if startsWithCi trimmed hysteria2DefaultScheme ||
      startsWithCi trimmed hysteria2AltScheme then
    hysteria2Parse crates trimmed
  else if startsWithCi trimmed "tuic://" then tuicParse crates trimmed
  else if startsWithCi trimmed "wireguard://" then wireguardParse crates trimmed
  else if startsWithCi trimmed "anytls://" then anytlsParse crates trimmed
  else if startsWithCi trimmed "naive://" || startsWithCi trimmed naiveHttpsScheme ||
      startsWithCi trimmed naiveQuicScheme then
    naiveParse crates trimmed
  else .error .unsupportedProtocol

def exportShareLink (item : ProfileItem) : Except ShareError String :=
  match item.configType with
  | .vmess => vmessExport crates item
  | .shadowsocks => shadowsocksExport item
  | .socks => socksExport item
  | .trojan => trojanExport crates item
  | .vless => vlessExport crates item
  | .hysteria2 => hysteria2Export item
  | .tuic => tuicExport item
  | .wireGuard => wireguardExport item
  | .anytls => anytlsExport crates item
  | .naive => naiveExport crates item
  | .custom => .error (.wrongConfigType "share" .custom)
  | .http => .error (.wrongConfigType "share" .http)
  | .policyGroup => .error (.wrongConfigType "share" .policyGroup)
  | .proxyChain => .error (.wrongConfigType "share" .proxyChain)

end Entry

end ShareFormats
