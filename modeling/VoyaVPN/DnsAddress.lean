import VoyaVPN.SingboxSupport

/-! The texts the DNS settings hold: server addresses, expected addresses, and the hosts
table. -/
namespace DnsAddress

open Entities AppConfig RustText ContextBuilder ProtocolCommon SingboxSchema SingboxSupport

def geoipPrefix : String := "geoip:"

def parseDirectExpectedIps (value : Option String) : List String × List String × String :=
  let items := ((split (value.getD "") fun c => c == ',' || c == ';').map trim).filter
    fun item => !isEmpty item
  items.foldl
    (fun (ipCidr, regions, regionName) item =>
      match stripPrefix item geoipPrefix with
      | some region =>
        if isEmpty region then (ipCidr, regions, regionName)
        else (ipCidr, regions ++ [region], region)
      | none => (ipCidr ++ [item], regions, regionName))
    ([], [], "")

def firstDnsAddress (address : String) : Option String :=
  let delimiter := if containsChar address (· == ',') then ',' else ';'
  ((split address (· == delimiter)).map trim).find? fun item => !isEmpty item

def parseAuthorityPort (port : String) : Option Nat :=
  (parseU16 port).filter fun port => decide (0 < port)

def parseAuthority (authority : String) : Option (String × Option Nat) :=
  if isEmpty authority then some ("", none)
  else
    let authority := ((rsplitOnce authority '@').map Prod.snd).getD authority
    let hostPort : Option (String × Option Nat) :=
      match rsplitOnce authority ':' with
      | some (domain, port) =>
        if containsChar domain (· == ':') then some (authority, none)
        else (parseAuthorityPort port).map fun port => (domain, some port)
      | none => some (authority, none)
    if !startsWith authority "[" then hostPort
    else
      match rsplitOnce authority ']' with
      | none => hostPort
      | some (inside, rest) =>
        let domain := inside ++ "]"
        if isEmpty rest then some (domain, none)
        else
          ((stripPrefix rest ":").bind parseAuthorityPort).map fun port => (domain, some port)

structure UrlParts where
  domain : String
  scheme : String
  port : Option Nat
  path : String

def parsePlainParts (input : String) : Option UrlParts :=
  let isEnd := fun c => c == '/' || c == '?' || c == '#'
  let authority := input.toList.takeWhile fun c => !isEnd c
  let rest := input.toList.drop authority.length
  let path := if rest.head? = some '/' then rest.takeWhile (· != '#') else []
  (parseAuthority (String.ofList authority)).map fun (domain, port) =>
    if isEmpty domain then { domain := input, scheme := "", port := none, path := "" }
    else { domain, scheme := "", port, path := String.ofList path }

def parseUrlParts (crates : Crates) (input : String) : Option UrlParts :=
  match (crates.urlParse input).bind fun url => url.host.map fun host => (url, host) with
  | some (url, host) =>
    let path := match url.query with
      | some query => url.path ++ "?" ++ query
      | none => url.path
    if url.port = some 0 then none
    else some { domain := host, scheme := url.scheme, port := url.port, path }
  | none => if containsStr input "://" then none else parsePlainParts input

def parseDnsAddress (crates : Crates) (address : String) : Option SingboxDnsServer :=
  (firstDnsAddress address).bind fun addressFirst =>
    if addressFirst = "local" ∨ addressFirst = "localhost" then some { type := "local" }
    else
      (parseUrlParts crates addressFirst).map fun parts =>
        if eqIgnoreAsciiCase parts.scheme "dhcp" then
          { type := "dhcp"
            server :=
              if !isEmpty parts.domain && parts.domain != "auto" then some parts.domain else none }
        else
          let serverType :=
            if isEmpty parts.scheme then "udp"
            else toAsciiLowercase (replace parts.scheme "+local" "")
          { type := serverType
            server := if isEmpty parts.domain then none else some parts.domain
            serverPort := parts.port.map Int.ofNat
            path :=
              if (serverType == "https" || serverType == "h3") && !isEmpty parts.path &&
                  parts.path != "/" then some parts.path
              else none }

def parseDnsAddressOrDefault (crates : Crates) (address defaultAddress : String) :
    SingboxDnsServer :=
  ((parseDnsAddress crates address).orElse fun _ => parseDnsAddress crates defaultAddress).getD {}

def domainStrategy4Sbox (strategy : Option String) : Option String :=
  strategy.bind fun strategy =>
    if startsWith strategy "UseIPv4" then some "prefer_ipv4"
    else if startsWith strategy "UseIPv6" then some "prefer_ipv6"
    else if startsWith strategy "ForceIPv4" then some "ipv4_only"
    else if startsWith strategy "ForceIPv6" then some "ipv6_only"
    else none

def dnsRcode (value : Int) : String :=
  if value = 1 then "FORMERR"
  else if value = 2 then "SERVFAIL"
  else if value = 3 then "NXDOMAIN"
  else if value = 4 then "NOTIMP"
  else if value = 5 then "REFUSED"
  else "NOERROR"

def isIpAddress (value : String) : Bool := (IpAddr.parse (trim value)).isSome

def isDomainName (value : String) : Bool :=
  let value := trim value
  !isEmpty value && !isIpAddress value && containsChar value (· == '.') &&
    (value.toList.rtakeWhile (· != '.')).all Char.isAlphanum

/-- A bare host name is a full domain, not a keyword. -/
def normalizeBareHostDomain (host : String) (rule : SingboxRule) : SingboxRule :=
  if containsChar host (· == ':') then rule
  else
    match rule.domainKeyword with
    | none => rule
    | some domainKeyword =>
      { rule with
        domainKeyword := none
        domain := if domainKeyword.isEmpty then rule.domain else some domainKeyword }

abbrev HostsDictionary := Std.ExtTreeMap String (List String)

def hostsLine (result : HostsDictionary) (line : String) : HostsDictionary :=
  match splitWhitespace line with
  | host :: address :: addresses =>
    result.insert host ((result[host]?).getD [] ++ address :: addresses)
  | _ => result

def parseHostsToDictionary (hostsContent : Option String) : HostsDictionary :=
  let lines := ((lines (hostsContent.getD "")).map trim).filter fun line =>
    !isEmpty line && !startsWith line "#" && containsChar line isWhitespace
  lines.foldl hostsLine ∅

def predefinedHosts : List (String × List String) :=
  [("dns.google", ["8.8.8.8", "8.8.4.4", "2001:4860:4860::8888", "2001:4860:4860::8844"]),
    ("dns.alidns.com", ["223.5.5.5", "223.6.6.6", "2400:3200::1", "2400:3200:baba::1"]),
    ("one.one.one.one",
      ["1.1.1.1", "1.0.0.1", "2606:4700:4700::1111", "2606:4700:4700::1001"]),
    ("1dot1dot1dot1.cloudflare-dns.com",
      ["1.1.1.1", "1.0.0.1", "2606:4700:4700::1111", "2606:4700:4700::1001"]),
    ("cloudflare-dns.com",
      ["104.16.249.249", "104.16.248.249", "2606:4700::6810:f8f9", "2606:4700::6810:f9f9"]),
    ("dns.cloudflare.com",
      ["104.16.132.229", "104.16.133.229", "2606:4700::6810:84e5", "2606:4700::6810:85e5"]),
    ("dot.pub", ["1.12.12.12", "120.53.53.53"]),
    ("doh.pub", ["1.12.12.12", "120.53.53.53"]),
    ("dns.quad9.net", ["9.9.9.9", "149.112.112.112", "2620:fe::fe", "2620:fe::9"]),
    ("dns.yandex.net",
      ["77.88.8.8", "77.88.8.1", "2a02:6b8::feed:0ff", "2a02:6b8:0:1::feed:0ff"]),
    ("dns.sb", ["185.222.222.222", "2a09::"]),
    ("dns.umbrella.com", ["208.67.220.220", "208.67.222.222", "2620:119:35::35",
      "2620:119:53::53"]),
    ("dns.sse.cisco.com", ["208.67.220.220", "208.67.222.222", "2620:119:35::35",
      "2620:119:53::53"]),
    ("engage.cloudflareclient.com", ["162.159.192.1"])]

end DnsAddress
