import VoyaVPN.IpDisplay
import VoyaVPN.PercentText

/-! Downloads: a request through the proxy and then a direct one, each followed through its
redirects under the redirect policy, with a limit on the bytes of the body. -/
namespace Download

open RustText

def userAgentPrefix : String := "VoyaVPN"
def httpRedirectLimit : Nat := 5
def defaultTextResponseLimitBytes : Nat := 16 * 1024 * 1024
def defaultBinaryResponseLimitBytes : Nat := 512 * 1024 * 1024

structure Ipv4Addr where
  octets : List Nat
  four : octets.length = 4
  small : ∀ octet ∈ octets, octet < 256
  deriving DecidableEq

structure Ipv6Addr where
  groups : List Nat
  eight : groups.length = 8
  small : ∀ group ∈ groups, group < 65536
  deriving DecidableEq

/-- The host of a URL as `Url::parse` normalises it: every notation of an address is that
address. -/
inductive Host where
  | domain (name : String)
  | ipv4 (address : Ipv4Addr)
  | ipv6 (address : Ipv6Addr)
  deriving DecidableEq

/-- `Url::host_str`. -/
def Host.text : Host → String
  | .domain name => name
  | .ipv4 address => IpAddr.displayIpv4 address.octets
  | .ipv6 address => "[" ++ IpAddr.serializeIpv6 address.groups ++ "]"

structure Url where
  scheme : String
  host : Option Host
  text : String
  queryKeys : List String
  deriving DecidableEq

inductive RedirectPolicyError where
  | tooManyRedirects (limit : Nat)
  | httpsDowngrade (source target : String)
  | localNetworkTarget (target : String)
  deriving DecidableEq, Repr

/-- `reqwest::Error`. -/
inductive RequestError where
  | builder (reason : String)
  | redirect (error : RedirectPolicyError)
  | status (code : Nat)
  | transport (reason : String)
  deriving DecidableEq, Repr

structure DownloadAttempt where
  url : String
  viaProxy : Bool
  bytes : Nat
  error : Option String
  deriving DecidableEq, Repr

inductive DownloadError where
  | clientBuild (url reason : String)
  | request (url : String) (source : RequestError)
  | responseTooLarge (url : String) (limit : Nat) (contentLength : Option Nat) (received : Nat)
  | forbiddenSubscriptionUrl (url reason : String)
  | attemptsFailed (url : String) (attempts : List DownloadAttempt)
  deriving DecidableEq, Repr

structure DownloadRequest where
  url : String
  userAgent : Option String
  preferProxy : Bool
  proxyUrl : Option String
  responseBodyLimit : Option Nat

structure DownloadOutput (α : Type) where
  body : α
  usedProxy : Bool
  attempts : List DownloadAttempt
  deriving DecidableEq, Repr

section Policy

def isDeniedLocalIp : IpAddr.Addr → Bool
  | .v4 octets =>
    (IpAddr.Addr.v4 octets).isLoopback || (octets[0]? == some 169 && octets[1]? == some 254)
  | .v6 groups =>
    (IpAddr.Addr.v6 groups).isLoopback || (groups[0]?.getD 0 &&& 0xffc0) == 0xfe80

/-- A host text without the dots after it and the brackets around it, in lower case. -/
def normalizedHost (host : String) : String :=
  toAsciiLowercase (String.ofList
    (((host.toList.rdropWhile (· == '.')).dropWhile (· == '[')).rdropWhile (· == ']')))

def isDeniedLocalHost (host : String) : Bool :=
  let normalized := normalizedHost host
  if normalized == "localhost" || endsWith normalized ".localhost" then true
  else (IpAddr.parse normalized).any isDeniedLocalIp

def urlHasDeniedLocalHost (url : Url) : Bool :=
  url.host.any fun host => isDeniedLocalHost host.text

def validateRedirectAttempt (previous : List Url) (next : Url) : Except RedirectPolicyError Unit :=
  if httpRedirectLimit < previous.length then .error (.tooManyRedirects httpRedirectLimit)
  else
    match previous.getLast?.filter fun previous =>
        previous.scheme == "https" && next.scheme == "http" with
    | some previous => .error (.httpsDowngrade previous.text next.text)
    | none =>
      if urlHasDeniedLocalHost next && !previous.getLast?.any urlHasDeniedLocalHost then
        .error (.localNetworkTarget next.text)
      else .ok ()

end Policy

section Body

structure Response where
  status : Nat
  contentLength : Option Nat
  chunks : List (Except String (List Nat))
  deriving Repr

inductive LimitedBodyReadError where
  | tooLarge (limit : Nat) (contentLength : Option Nat) (received : Nat)
  | read (source : String)
  deriving DecidableEq, Repr

def readChunks (limit : Nat) (contentLength : Option Nat) (body : List Nat) :
    List (Except String (List Nat)) → Except LimitedBodyReadError (List Nat)
  | [] => .ok body
  | .error source :: _ => .error (.read source)
  | .ok chunk :: chunks =>
    let received := body.length + chunk.length
    if limit < received then .error (.tooLarge limit contentLength received)
    else readChunks limit contentLength (body ++ chunk) chunks

def readResponseBytesLimited (response : Response) (limit : Nat) :
    Except LimitedBodyReadError (List Nat) :=
  if response.contentLength.any (limit < ·) then
    .error (.tooLarge limit response.contentLength 0)
  else readChunks limit response.contentLength [] response.chunks

def readResponseTextLimited (response : Response) (limit : Nat) :
    Except LimitedBodyReadError String :=
  (readResponseBytesLimited response limit).map fun bytes =>
    String.ofList (PercentText.decodeUtf8Lossy none bytes)

def mapDownloadBodyError (url : String) : LimitedBodyReadError → DownloadError
  | .tooLarge limit contentLength received => .responseTooLarge url limit contentLength received
  | .read source => .request url (.transport source)

structure DownloadBody (α : Type) where
  extract : Response → Nat → Except LimitedBodyReadError α
  byteLen : α → Nat

def textBody : DownloadBody String where
  extract := readResponseTextLimited
  byteLen body := (PercentText.utf8 body.toList).length

def bytesBody : DownloadBody (List Nat) where
  extract := readResponseBytesLimited
  byteLen := List.length

end Body

section Requests

/-- What servers answer to one request: where they redirect it to, step by step, and what comes
in the end. -/
structure Exchange where
  redirects : List Url
  answer : Except String Response

/-- What the crates give: `Url::parse`, `append_pair` of its query, the HTTP clients that are
built, and the texts of errors. -/
structure Network where
  urlParse : String → Except String Url
  appendPair : Url → String → String → Url
  directClient : Except String Unit
  proxyClient : String → Except RequestError Unit
  errorText : DownloadError → String

structure Fetched where
  url : Url
  userAgent : String
  proxy : Option String
  deriving DecidableEq

/-- What a client sends a request to at all. -/
def sendable (url : Url) : Bool :=
  (url.scheme == "http" || url.scheme == "https") && url.host.isSome

def notSendable : RequestError := .builder "URL scheme is not allowed"

/-- The URLs that a request is sent to, each after those before it, and why it goes no further. -/
def follow (previous : List Url) (current : Url) : List Url → List Url × Option RequestError
  | [] => (previous ++ [current], none)
  | next :: redirects =>
    match validateRedirectAttempt (previous ++ [current]) next with
    | .error error => (previous ++ [current], some (.redirect error))
    | .ok () =>
      if sendable next then follow (previous ++ [current]) next redirects
      else (previous ++ [current], some notSendable)

variable (network : Network) {α : Type}

def requestUserAgent (userAgent : Option String) : String :=
  ((userAgent.map trim).filter (· ≠ "")).getD userAgentPrefix

def request (exchange : Exchange) (proxy : Option String) (url : String)
    (userAgent : Option String) (limit : Nat) (body : DownloadBody α) :
    List Fetched × Except DownloadError α :=
  match network.urlParse url with
  | .error reason => ([], .error (.request url (.builder reason)))
  | .ok parsed =>
    if sendable parsed = false then ([], .error (.request url notSendable))
    else
      let (urls, refused) := follow [] parsed exchange.redirects
      let fetched := urls.map fun url =>
        { url := url, userAgent := requestUserAgent userAgent, proxy := proxy }
      match refused with
      | some error => (fetched, .error (.request url error))
      | none =>
        match exchange.answer with
        | .error reason => (fetched, .error (.request url (.transport reason)))
        | .ok response =>
          if 400 ≤ response.status ∧ response.status < 600 then
            (fetched, .error (.request url (.status response.status)))
          else (fetched, (body.extract response limit).mapError (mapDownloadBodyError url))

/-- One attempt of a download: its record, and its body if there is one. -/
def attempt (exchange : Exchange) (proxy : Option String) (request' : DownloadRequest)
    (limit : Nat) (body : DownloadBody α) :
    List Fetched × DownloadAttempt × Except (Option DownloadError) α :=
  let record (bytes : Nat) (error : Option String) : DownloadAttempt :=
    { url := request'.url, viaProxy := proxy.isSome, bytes := bytes, error := error }
  match request network exchange proxy request'.url request'.userAgent limit body with
  | (fetched, .ok value) =>
    if body.byteLen value = 0 then
      (fetched, record 0 (some "empty response"), .error none)
    else (fetched, record (body.byteLen value) none, .ok value)
  | (fetched, .error error) =>
    (fetched, record 0 (some (network.errorText error)), .error (some error))

/-- The attempt through the proxy, when there is one to be made. -/
def proxyAttempt (exchange : Exchange) (request' : DownloadRequest) (limit : Nat)
    (body : DownloadBody α) : Option (List Fetched × DownloadAttempt × Option α) :=
  if request'.preferProxy then
    (request'.proxyUrl.filter (· ≠ "")).map fun proxyUrl =>
      match network.proxyClient proxyUrl with
      | .error source =>
        ([], { url := request'.url, viaProxy := true, bytes := 0,
               error := some (network.errorText (.request request'.url source)) }, none)
      | .ok () =>
        let (fetched, record, result) :=
          attempt network exchange (some proxyUrl) request' limit body
        (fetched, record, result.toOption)
  else none

def directAttempt (exchange : Exchange) (attempts : List DownloadAttempt)
    (request' : DownloadRequest) (limit : Nat) (body : DownloadBody α) :
    List Fetched × Except DownloadError (DownloadOutput α) :=
  match network.directClient with
  | .error reason =>
    let error := DownloadError.clientBuild request'.url reason
    ([], .error (.attemptsFailed request'.url (attempts ++
      [{ url := request'.url, viaProxy := false, bytes := 0,
         error := some (network.errorText error) }])))
  | .ok () =>
    let (fetched, record, result) := attempt network exchange none request' limit body
    let attempts := attempts ++ [record]
    match result with
    | .ok value => (fetched, .ok { body := value, usedProxy := false, attempts := attempts })
    | .error (some (.responseTooLarge url limit contentLength received)) =>
      (fetched, .error (.responseTooLarge url limit contentLength received))
    | .error _ => (fetched, .error (.attemptsFailed request'.url attempts))

/-- A download, with the requests it sends. `exchanges` has what answers the request through the
proxy and the direct one. -/
def download (exchanges : Bool → Exchange) (request' : DownloadRequest)
    (defaultResponseBodyLimit : Nat) (body : DownloadBody α) :
    List (List Fetched) × Except DownloadError (DownloadOutput α) :=
  let limit := request'.responseBodyLimit.getD defaultResponseBodyLimit
  match proxyAttempt network (exchanges true) request' limit body with
  | some (fetched, record, some value) =>
    ([fetched], .ok { body := value, usedProxy := true, attempts := [record] })
  | some (fetched, record, none) =>
    let (direct, result) := directAttempt network (exchanges false) [record] request' limit body
    ([fetched, direct], result)
  | none =>
    let (direct, result) := directAttempt network (exchanges false) [] request' limit body
    ([direct], result)

def downloadText (exchanges : Bool → Exchange) (request' : DownloadRequest) :
    List (List Fetched) × Except DownloadError (DownloadOutput String) :=
  download network exchanges request' defaultTextResponseLimitBytes textBody

def downloadBytes (exchanges : Bool → Exchange) (request' : DownloadRequest) :
    List (List Fetched) × Except DownloadError (DownloadOutput (List Nat)) :=
  download network exchanges request' defaultBinaryResponseLimitBytes bytesBody

end Requests

end Download
