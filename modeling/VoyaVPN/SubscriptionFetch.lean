import VoyaVPN.Download
import VoyaVPN.ShareCommon

/-! The fetch of a subscription: its URL or the converter's, then the additional URLs, each
checked before it is downloaded. -/
namespace SubscriptionFetch

open RustText Download

def defaultSubConvertUrl : String := "https://sub.xeton.dev/sub?url={0}"
def defaultSubConvertConfig : String :=
  "https://raw.githubusercontent.com/ACL4SSR/ACL4SSR/master/Clash/config/ACL4SSR_Online.ini"
def subscriptionResponseLimitBytes : Nat := defaultTextResponseLimitBytes

structure SubscriptionFetchSource where
  url : String
  moreUrl : String
  userAgent : String
  convertTarget : Option String
  subConvertUrl : Option String

structure SubscriptionFetchOptions where
  preferProxy : Bool
  proxyUrl : Option String

structure SubscriptionFetchResult where
  content : String
  downloads : List (DownloadOutput String)

inductive SubscriptionUrlPolicy where
  | denyLocal
  | allowLocalForTests
  deriving DecidableEq

section Urls

variable (network : Network)

def validateSubscriptionUrl (url : String) (policy : SubscriptionUrlPolicy) :
    Except DownloadError Unit :=
  let trimmed := trim url
  if trimmed = "" then .error (.forbiddenSubscriptionUrl trimmed "URL is empty")
  else
    match network.urlParse trimmed with
    | .error source => .error (.forbiddenSubscriptionUrl trimmed ("invalid URL: " ++ source))
    | .ok parsed =>
      if ¬(parsed.scheme = "http" ∨ parsed.scheme = "https") then
        .error (.forbiddenSubscriptionUrl trimmed "scheme must be http or https")
      else
        match parsed.host with
        | none => .error (.forbiddenSubscriptionUrl trimmed "host is required")
        | some host =>
          if policy = .denyLocal ∧ isDeniedLocalHost host.text = true then
            .error (.forbiddenSubscriptionUrl trimmed
              "loopback and link-local hosts are not allowed")
          else .ok ()

/-- The pairs that a converter URL lacks. -/
def missingPairs (rawUrl target : String) (hasSourcePlaceholder : Bool) (queryKeys : List String) :
    List (String × String) :=
  (if !hasSourcePlaceholder && !queryKeys.contains "url" then [("url", trim rawUrl)] else []) ++
    (if !queryKeys.contains "target" then [("target", target)] else []) ++
    (if !queryKeys.contains "config" then [("config", defaultSubConvertConfig)] else [])

def isAsciiAlphanumeric (c : Char) : Bool :=
  ('A' ≤ c && c ≤ 'Z') || ('a' ≤ c && c ≤ 'z') || ('0' ≤ c && c ≤ '9')

def appendPairs (url : Url) (pairs : List (String × String)) : Url :=
  pairs.foldl (fun url pair => network.appendPair url pair.1 pair.2) url

def buildSubscriptionUrl (rawUrl : String) (convertTarget subConvertUrl : Option String) :
    Except DownloadError String :=
  match (convertTarget.map trim).filter (· ≠ "") with
  | none => .ok (trim rawUrl)
  | some target =>
    let template := ((subConvertUrl.map trim).filter (· ≠ "")).getD defaultSubConvertUrl
    let hasSourcePlaceholder := containsStr template "{0}"
    let rendered :=
      if hasSourcePlaceholder then
        replace template "{0}"
          (String.ofList (PercentText.encode isAsciiAlphanumeric (trim rawUrl).toList))
      else template
    match network.urlParse rendered with
    | .error source =>
      .error (.forbiddenSubscriptionUrl template ("invalid converter URL: " ++ source))
    | .ok url =>
      .ok (appendPairs network url
        (missingPairs rawUrl target hasSourcePlaceholder url.queryKeys)).text

end Urls

section Fetch

def isPayloadChar (c : Char) : Bool :=
  isAsciiAlphanumeric c || ['+', '/', '_', '-', '='].contains c

def decodeBase64Payload (input : String) : Option String :=
  let normalized := (trim input).toList.filter (!isWhitespace ·)
  if normalized = [] ∨ normalized.all isPayloadChar = false then none
  else
    let normalized := normalized.map fun c => if c = '_' then '/' else if c = '-' then '+' else c
    let padded :=
      if normalized.length % 4 = 0 then normalized
      else normalized ++ List.replicate (4 - normalized.length % 4) '='
    (((Base64.decode padded).bind ShareCommon.fromUtf8).map fun decoded =>
      trim (String.ofList decoded)).filter (· ≠ "")

def nonempty (value : String) : Option String := if trim value = "" then none else some value

def wantsConversion (source : SubscriptionFetchSource) : Bool :=
  source.convertTarget.any fun value => trim value ≠ ""

def appendBody (content body : String) : String :=
  if body = "" then content
  else if !endsWith content "\n" && content ≠ "" then content ++ "\n" ++ body
  else content ++ body

def moreUrls (source : SubscriptionFetchSource) : List String :=
  ((split source.moreUrl (· == ',')).map trim).filter (· ≠ "")

variable (network : Network) (source : SubscriptionFetchSource)
  (options : SubscriptionFetchOptions) (policy : SubscriptionUrlPolicy)

def subscriptionRequest (url : String) : DownloadRequest where
  url := url
  userAgent := nonempty source.userAgent
  preferProxy := options.preferProxy
  proxyUrl := options.proxyUrl
  responseBodyLimit := some subscriptionResponseLimitBytes

/-- The additional URLs, from the one with the number `index` on. -/
def fetchMore (exchanges : Nat → Bool → Exchange) (index : Nat)
    (result : SubscriptionFetchResult) :
    List String → List (List Fetched) × Except DownloadError SubscriptionFetchResult
  | [] => ([], .ok result)
  | url :: urls =>
    match validateSubscriptionUrl network url policy with
    | .error error => ([], .error error)
    | .ok () =>
      match downloadText network (exchanges index) (subscriptionRequest source options url) with
      | (fetched, .error error) => (fetched, .error error)
      | (fetched, .ok additional) =>
        let body := (decodeBase64Payload additional.body).getD additional.body
        let (more, outcome) := fetchMore exchanges (index + 1)
          { content := appendBody result.content body
            downloads := result.downloads ++ [additional] } urls
        (fetched ++ more, outcome)

def fetchFrom (exchanges : Nat → Bool → Exchange) (mainUrl : String) :
    List (List Fetched) × Except DownloadError SubscriptionFetchResult :=
  match downloadText network (exchanges 0) (subscriptionRequest source options mainUrl) with
  | (fetched, .error error) => (fetched, .error error)
  | (fetched, .ok main) =>
    if wantsConversion source then
      (fetched, .ok { content := main.body, downloads := [main] })
    else
      let content := (decodeBase64Payload main.body).getD main.body
      let (more, outcome) := fetchMore network source options policy exchanges 1
        { content := content, downloads := [main] } (moreUrls source)
      (fetched ++ more, outcome)

/-- The main URL to be downloaded, once it has passed the checks. -/
def checkedMainUrl : Except DownloadError String :=
  let rawUrl := trim source.url
  match validateSubscriptionUrl network rawUrl policy with
  | .error error => .error error
  | .ok () =>
    match buildSubscriptionUrl network rawUrl source.convertTarget source.subConvertUrl with
    | .error error => .error error
    | .ok mainUrl =>
      if trim mainUrl = rawUrl then .ok mainUrl
      else
        match validateSubscriptionUrl network mainUrl policy with
        | .error error => .error error
        | .ok () => .ok mainUrl

def fetchWithUrlPolicy (exchanges : Nat → Bool → Exchange) :
    List (List Fetched) × Except DownloadError SubscriptionFetchResult :=
  match checkedMainUrl network source policy with
  | .error error => ([], .error error)
  | .ok mainUrl => fetchFrom network source options policy exchanges mainUrl

/-- The chains of requests that a fetch sends, and its result. -/
def fetch (exchanges : Nat → Bool → Exchange) :
    List (List Fetched) × Except DownloadError SubscriptionFetchResult :=
  fetchWithUrlPolicy network source options .denyLocal exchanges

end Fetch

end SubscriptionFetch
