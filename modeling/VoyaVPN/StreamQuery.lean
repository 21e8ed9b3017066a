import VoyaVPN.ShareUri

/-! The query keys that carry TLS, Reality and transport fields, as links write and read them. -/
namespace StreamQuery

open Entities ShareCommon ShareUri

variable (crates : Crates)

section Writing

def securityPairs (item : ProfileItem) (securityDefault : Option String) : QueryPairs :=
  if item.streamSecurity ≠ "" then [("security", item.streamSecurity)]
  else
    match securityDefault with
    | some defaultValue => [("security", defaultValue)]
    | none => []

def tlsPairs (tls : TlsSettings) : QueryPairs :=
  pushEncodedStr "sni" (tls.serverName.getD "") ++
    pushEncodedStr "pbk" (tls.realityPublicKey.getD "") ++
    pushEncodedStr "sid" (tls.realityShortId.getD "") ++
    pushEncodedStr "spx" (tls.realitySpiderX.getD "") ++
    pushEncodedStr "pqv" (tls.mldsa65Verify.getD "") ++
    (if tls.mode = .tls then pushEncodedStr "alpn" (",".intercalate tls.alpn) else []) ++
    pushEncodedStr "ech" (",".intercalate tls.echConfig) ++
    pushEncodedStr "pcs" (",".intercalate tls.certificateSha256) ++
    match nonemptyOption tls.finalMask with
    | some finalMask => [("fm", urlEncode (compactJsonOrSelf crates finalMask))]
    | none => []

def headerPair (header : Option String) : String × String :=
  ("headerType", optionOr header noneText)

def mtuPairs (key : String) (mtu : Option Int) : QueryPairs :=
  match mtu.filter (0 < ·) with
  | some mtu => [(key, toString mtu)]
  | none => []

def modePairs (modes : List String) (mode : Option String) : QueryPairs :=
  match nonemptyOption mode with
  | some mode => if mode ∈ modes then [("mode", urlEncode mode)] else []
  | none => []

/-- The pairs of a transport under the network it is written with; a transport of another kind
writes none. -/
def transportPairs (network : String) (transport : Option ProfileTransport) : QueryPairs :=
  if network = "raw" then
    match transport with
    | some (.tcp header host path) =>
      headerPair header :: (pushEncodedOpt "host" host ++ pushEncodedOpt "path" path)
    | _ => []
  else if network = "kcp" then
    match transport with
    | some (.kcp header seed mtu) =>
      headerPair header :: (pushEncodedOpt "seed" seed ++ mtuPairs "mtu" mtu)
    | _ => []
  else if network = "ws" ∨ network = "httpupgrade" then
    match transport with
    | some (.websocket host path) | some (.httpUpgrade host path) =>
      pushEncodedOpt "host" host ++ pushEncodedOpt "path" path
    | _ => []
  else if network = "xhttp" then
    match transport with
    | some (.xhttp host path mode extra) =>
      pushEncodedOpt "host" host ++ pushEncodedOpt "path" path ++ modePairs xhttpModes mode ++
        match nonemptyOption extra with
        | some extra => [("extra", urlEncode (compactJsonOrSelf crates extra))]
        | none => []
    | _ => []
  else if network = "grpc" then
    match transport with
    | some (.grpc authority serviceName mode) =>
      if nonemptyOption serviceName = none then []
      else
        [("authority", urlEncode (authority.getD "")),
          ("serviceName", urlEncode (serviceName.getD ""))] ++
          modePairs [grpcGunMode, grpcMultiMode] mode
    | _ => []
  else []

def toUriQuery (item : ProfileItem) (securityDefault : Option String) : QueryPairs :=
  let network := itemNetwork item
  securityPairs item securityDefault ++ (item.tls.map (tlsPairs crates)).getD [] ++
    ("type", if network = defaultNetwork then rawNetworkAlias else network) ::
      transportPairs crates network item.transport

def toUriQueryLite (item : ProfileItem) : QueryPairs :=
  match item.tls with
  | some tls =>
    pushEncodedStr "sni" (tls.serverName.getD "") ++
      pushEncodedStr "alpn" (",".intercalate tls.alpn)
  | none => []

end Writing

section Reading

open Query

/-- The TLS fields of a query under a mode, whether or not they are used. -/
def tlsFields (query : Query) (mode : TlsMode) : TlsSettings :=
  { mode := mode
    serverName := nonempty (valueOr query "sni" "")
    alpn := splitCsv (decodedOr query "alpn" "")
    realityPublicKey := nonempty (decodedOr query "pbk" "")
    realityShortId := nonempty (decodedOr query "sid" "")
    realitySpiderX := nonempty (decodedOr query "spx" "")
    mldsa65Verify := nonempty (decodedOr query "pqv" "")
    echConfig := splitCsv (decodedOr query "ech" "")
    certificateSha256 := splitCsv (decodedOr query "pcs" "")
    finalMask :=
      let finalmask := decodedOr query "fm" ""
      if finalmask = "" then none else some (prettyJsonOrSelf crates finalmask) }

def hasTlsFields (tls : TlsSettings) : Bool :=
  tls.serverName.isSome || tls.alpn ≠ [] || tls.realityPublicKey.isSome ||
    tls.realityShortId.isSome || tls.realitySpiderX.isSome || tls.mldsa65Verify.isSome ||
    tls.echConfig ≠ [] || tls.certificateSha256 ≠ [] || tls.finalMask.isSome

def queryTls (query : Query) : Option TlsSettings :=
  let security := valueOr query "security" ""
  if security = streamSecurityTls ∨ security = "reality" then
    some (tlsFields crates query (if security = "reality" then .reality else .tls))
  else if hasTlsFields (tlsFields crates query .tls) then some (tlsFields crates query .tls)
  else none

def queryNetwork (query : Query) : String :=
  let network := valueOr query "type" defaultNetwork
  let network := if network = rawNetworkAlias then defaultNetwork else network
  if network ∈ networks then network else defaultNetwork

def queryTransport (query : Query) : ProfileTransport :=
  let network := queryNetwork query
  let host := nonempty (decodedOr query "host" "")
  let path := nonempty (decodedOr query "path" "/")
  if network = "raw" then
    .tcp (nonempty (valueOr query "headerType" noneText)) host
      (nonempty (decodedOr query "path" ""))
  else if network = "kcp" then
    .kcp (nonempty (valueOr query "headerType" noneText)) (nonempty (decodedOr query "seed" ""))
      (parsePositiveI32 (valueOr query "mtu" ""))
  else if network = "ws" then .websocket host path
  else if network = "httpupgrade" then .httpUpgrade host path
  else if network = "xhttp" then
    let xhttpExtra := decodedOr query "extra" ""
    .xhttp host path (nonempty (decodedOr query "mode" ""))
      (if xhttpExtra = "" then none else some (prettyJsonOrSelf crates xhttpExtra))
  else if network = "grpc" then
    .grpc (nonempty (decodedOr query "authority" ""))
      (nonempty (decodedOr query "serviceName" "")) (nonempty (decodedOr query "mode" grpcGunMode))
  else .tcp none none none

def resolveUriQuery (query : Query) (item : ProfileItem) : ProfileItem :=
  { item with tls := queryTls crates query, transport := some (queryTransport crates query) }

end Reading

end StreamQuery
