import VoyaVPN.ContextBuilder

/-! Helpers the config generator and the share-link formats have in common. -/
namespace ProtocolCommon

open Entities AppConfig RustText

def defaultSecurity : String := "auto"
def wireguardDefaultAddress : String := "172.16.0.2/32"
def wireguardDefaultAllowedIps : List String := ["0.0.0.0/0", "::/0"]
def wireguardDefaultMtu : Int := 1280
def wireguardReservedLen : Nat := 3

def protocolName : ConfigType → String
  | .vmess => "vmess"
  | .shadowsocks => "shadowsocks"
  | .socks => "socks"
  | .http => "http"
  | .vless => "vless"
  | .trojan => "trojan"
  | .hysteria2 => "hysteria2"
  | .tuic => "tuic"
  | .wireGuard => "wireguard"
  | .anytls => "anytls"
  | .naive => "naive"
  | .custom | .policyGroup | .proxyChain => "vmess"

def rawHttpUserAgent (userAgent : String) : String :=
  if userAgent = "chrome" then
    "Mozilla/5.0 (Windows NT 10.0; Win64; x64) AppleWebKit/537.36 (KHTML, like Gecko) " ++
      "Chrome/92.0.4515.131 Safari/537.36"
  else if userAgent = "firefox" then
    "Mozilla/5.0 (Windows NT 10.0; Win64; x64; rv:90.0) Gecko/20100101 Firefox/90.0"
  else if userAgent = "safari" then
    "Mozilla/5.0 (Macintosh; Intel Mac OS X 10_15_7) AppleWebKit/605.1.15 " ++
      "(KHTML, like Gecko) Version/14.1.1 Safari/605.1.15"
  else if userAgent = "edge" then
    "Mozilla/5.0 (Windows NT 10.0; Win64; x64) AppleWebKit/537.36 (KHTML, like Gecko) " ++
      "Chrome/91.0.4472.124 Safari/537.36 Edg/91.0.864.70"
  else if userAgent = "none" then ""
  else if userAgent = "golang" then "Go-http-client/1.1"
  else if userAgent = "curl" then "curl/7.68.0"
  else userAgent

/-- The text before the first occurrence of the pattern, and the text from it on. -/
def findStr (pat : List Char) : List Char → Option (List Char × List Char)
  | [] => if pat = [] then some ([], []) else none
  | c :: cs =>
    if pat.isPrefixOf (c :: cs) then some ([], c :: cs)
    else (findStr pat cs).map fun (before, rest) => (c :: before, rest)

def pemBegin : String := "-----BEGIN CERTIFICATE-----"
def pemEnd : String := "-----END CERTIFICATE-----"

/-- The certificate loop. The end marker is searched from the begin marker on, so it can
overlap the begin marker's dashes; the body slice then runs backwards and panics (`none`). -/
def pemLoop : Nat → List Char → Option (List String)
  | 0, _ => some []
  | fuel + 1, cs =>
    match findStr pemBegin.toList cs with
    | none => some []
    | some (_, fromBegin) =>
      match findStr pemEnd.toList fromBegin with
      | none => some []
      | some (untilEnd, fromEnd) =>
        if untilEnd.length < pemBegin.toList.length then none
        else
          let body := (untilEnd.drop pemBegin.toList.length).filter (!isWhitespace ·)
          let cert := pemBegin ++ "\n" ++ String.ofList body ++ "\n" ++ pemEnd ++ "\n"
          (pemLoop fuel (fromEnd.drop pemEnd.toList.length)).map (cert :: ·)

def parsePemChain? (pemChain : String) : Option (List String) :=
  let text := replace (replace pemChain "\r\n" "\n") "\r" "\n"
  pemLoop text.toList.length text.toList

/-- The chain inside an outbound under construction; where the parser panics no outbound
is produced at all, so the value there is never seen. -/
def parsePemChain (pemChain : String) : List String := (parsePemChain? pemChain).getD []

def trimmed (value : String) : String := trim value

def nonemptyStr (value : Option String) : Option String :=
  (value.map trim).filter fun value => !isEmpty value

def splitList (value : String) : Option (List String) :=
  let value := trim value
  if isEmpty value then none
  else
    let value := String.ofList (value.toList.filter fun c => c != '\n' && c != '\r')
    some ((split value (· == ',')).filter fun item => !isEmpty item)

def firstListValue (value : Option String) : String :=
  ((splitList (value.getD "")).bind fun items =>
    (items.map trim).find? fun item => !isEmpty item).getD ""

def wireguardPublicKey : ProfileProtocol → Option String
  | .wireGuard _ _ peerPublicKey _ _ _ _ _ => nonemptyStr peerPublicKey
  | _ => none

def wireguardAllowedIps (protocol : ProfileProtocol) : List String :=
  let allowedIps := match protocol with
    | .wireGuard _ _ _ _ _ allowedIps _ _ => allowedIps
    | _ => none
  ((splitList (allowedIps.getD "")).filter fun items => !items.isEmpty).getD
    wireguardDefaultAllowedIps

def parseWireguardReserved (value : Option String) : Option (List Int) :=
  (nonemptyStr value).bind fun value =>
    ((split value (· == ',')).mapM fun item => (parseU8 (trim item)).map Int.ofNat).filter
      fun reserved => reserved.length == wireguardReservedLen

def inboundProtocolTag : InboundProtocol → String
  | .socks => "socks"
  | .socks2 => "socks2"
  | .socks3 => "socks3"
  | .pac => "pac"
  | .api => "api"
  | .api2 => "api2"
  | .mixed => "mixed"
  | .speedtest => "speedtest"

def inboundPort (appConfig : Config) (protocol : InboundProtocol) : Int :=
  let socks := appConfig.inbound.find? fun item => item.protocol == inboundProtocolTag .socks
  let localPort := ((socks.map (·.localPort)).orElse
    fun _ => appConfig.inbound.head?.map (·.localPort)).getD defaultLocalPort
  addI32 localPort protocol.portOffset

end ProtocolCommon
