import VoyaVPN.SingboxSupport

/-! One profile, one outbound or endpoint: the protocol, transport, multiplex and TLS
fields the generator writes for a single node. -/
namespace SingboxLeaf

open Entities AppConfig RustText ContextBuilder ProtocolCommon SingboxSchema SingboxSupport
open JsonValue (Value)

def rawHeaderHttp : String := "http"
def streamSecurityTls : String := "tls"
def userAgentHeader : String := "Sec-WebSocket-Protocol"
def defaultHysteria2HopInterval : Int := 30

def fillShadowsocksPlugin (outbound : SingboxOutbound) (node : ProfileItem) (network : String) :
    SingboxOutbound :=
  match node.transport with
  | some (.tcp (some "http") host _) =>
    { outbound with
      plugin := some "obfs-local"
      pluginOpts := some ("obfs=http;obfs-host=" ++ host.getD "" ++ ";") }
  | transport =>
    let websocketArgs := match transport with
      | some (.websocket host path) =>
        if network = "ws" then
          let path := replace (replace (replace (path.getD "") "\\" "\\\\") "=" "\\=") "," "\\,"
          "mode=websocket;" ++ "host=" ++ firstListValue host ++ ";" ++ "path=" ++ path ++ ";"
        else ""
      | _ => ""
    let tlsArgs :=
      if node.streamSecurity = streamSecurityTls then
        let certs := ((node.tls.bind (·.certificatePem)).map parsePemChain).getD []
        "tls;" ++ match certs with
          | cert :: _ =>
            let content := replace (replace cert "-----BEGIN CERTIFICATE-----\n" "")
              "\n-----END CERTIFICATE-----\n" ""
            "certRaw=" ++ replace (trim content) "=" "\\=" ++ ";"
          | [] => ""
      else ""
    let pluginArgs := websocketArgs ++ tlsArgs
    if isEmpty pluginArgs then outbound
    else
      { outbound with
        plugin := some "v2ray-plugin"
        pluginOpts := some (String.ofList (pluginArgs ++ "mux=0;").toList.dropLast) }

def hysteria2ServerPorts (ports : String) : List String :=
  (splitCsv ports).map fun port =>
    let port := replace port "-" ":"
    if containsChar port (· == ':') then port else port ++ ":" ++ port

def fillHysteria2Fields (outbound : SingboxOutbound) (context : CoreConfigContext)
    (portHops obfuscationPassword : Option String) : SingboxOutbound :=
  let item := context.appConfig.hysteriaItem
  let outbound := match nonemptyStr obfuscationPassword with
    | some pass =>
      { outbound with obfs := some { type := some "salamander", password := some pass } }
    | none => outbound
  let outbound := { outbound with
    upMbps := if 0 < item.upMbps then some item.upMbps else none
    downMbps := if 0 < item.downMbps then some item.downMbps else none }
  match nonemptyStr portHops with
  | none => outbound
  | some ports =>
    if !containsChar ports (fun c => c == ':' || c == '-' || c == ',') then outbound
    else
      let serverPorts := hysteria2ServerPorts ports
      let outbound :=
        if serverPorts.isEmpty then outbound
        else { outbound with serverPort := none, serverPorts := some serverPorts }
      let interval := if 5 ≤ item.hopInterval then item.hopInterval else defaultHysteria2HopInterval
      { outbound with hopInterval := some (toString interval ++ "s") }

def fillOutboundMux (outbound : SingboxOutbound) (context : CoreConfigContext) :
    SingboxOutbound :=
  let mux := context.appConfig.mux4SboxItem
  let protocol := trimmed mux.protocol
  if !context.appConfig.coreBasicItem.muxEnabled || isEmpty protocol then outbound
  else
    { outbound with multiplex := some {
        enabled := true, protocol, maxConnections := mux.maxConnections, padding := mux.padding } }

def isQueryMark (c : Char) : Bool := c == '?' || c == '&'

/-- The leftmost match of `[?&]ed=(\d+)`: the text before it, the digits, the text after it. -/
def findEd (digit : Char → Bool) : List Char → Option (List Char × List Char × List Char)
  | [] => none
  | c :: cs =>
    let digits := (cs.drop 3).takeWhile digit
    if isQueryMark c && cs.take 3 == "ed=".toList && !digits.isEmpty then
      some ([], digits, (cs.drop 3).dropWhile digit)
    else (findEd digit cs).map fun (before, digits, after) => (c :: before, digits, after)

/-- The capture of the leftmost match of `[?&]eh=([^&]+)`. -/
def findEh : List Char → Option (List Char)
  | [] => none
  | c :: cs =>
    let value := (cs.drop 3).takeWhile (· != '&')
    if isQueryMark c && cs.take 3 == "eh=".toList && !value.isEmpty then some value
    else findEh cs

def parseWsEarlyData (crates : Crates) (path : String) :
    String × Option Int × Option String :=
  let edMatch := findEd crates.regexDigit path.toList
  let earlyData := edMatch.bind fun (_, digits, _) => parseI32 (String.ofList digits)
  let resultPath := match edMatch, earlyData with
    | some (before, _, after), some _ =>
      let removed := replace (String.ofList (before ++ after)) "?&" "?"
      if endsWith removed "?" then String.ofList removed.toList.dropLast else removed
    | _, _ => path
  let earlyHeader := if earlyData.isSome then some userAgentHeader else none
  let earlyHeader := match findEh resultPath.toList with
    | some value => crates.percentDecodeUtf8 (String.ofList value)
    | none => earlyHeader
  (resultPath, earlyData, earlyHeader)

def seconds (value : Int) : String := toString value ++ "s"

def outboundTransport (crates : Crates) (context : CoreConfigContext) (node : ProfileItem) :
    SingboxTransport :=
  let userAgent := rawHttpUserAgent context.appConfig.coreBasicItem.defUserAgent
  let userAgentHeaders : Option SingboxHeaders :=
    if isEmpty userAgent then none else some { host := none, userAgent := some userAgent }
  match node.transport with
  | some (.tcp header host path) =>
    if header = some rawHeaderHttp then
      { type := some "http"
        host := ((splitList (host.getD "")).filter fun items => !items.isEmpty).map
          fun items => .array (items.map .string)
        path := nonemptyString path
        headers := userAgentHeaders }
    else {}
  | some (.websocket host path) =>
    let (path, earlyData, earlyHeader) := parseWsEarlyData crates (path.getD "")
    let host := firstListValue host
    { type := some "ws"
      path := nonemptyString (some path)
      maxEarlyData := earlyData
      earlyDataHeaderName := earlyHeader
      headers :=
        if !isEmpty host || !isEmpty userAgent then
          some { host := nonemptyString (some host), userAgent := nonemptyString (some userAgent) }
        else none }
  | some (.httpUpgrade host path) =>
    { type := some "httpupgrade"
      path := nonemptyString path
      host := (nonemptyString (some (firstListValue host))).map .string
      headers := userAgentHeaders }
  | some (.grpc _ serviceName _) =>
    { type := some "grpc"
      serviceName := some (serviceName.getD "")
      idleTimeout := context.appConfig.grpcItem.idleTimeout.map seconds
      pingTimeout := context.appConfig.grpcItem.healthCheckTimeout.map seconds
      permitWithoutStream := context.appConfig.grpcItem.permitWithoutStream }
  | _ => {}

def fillOutboundTransport (crates : Crates) (outbound : SingboxOutbound)
    (context : CoreConfigContext) (node : ProfileItem) : SingboxOutbound :=
  let transport := outboundTransport crates context node
  let outbound :=
    if transport.type.isSome then { outbound with transport := some transport } else outbound
  if node.configType = .shadowsocks then { outbound with transport := none } else outbound

def parseEch (echConfigs : List String) : Option SingboxEch :=
  let echConfigs := (echConfigs.map trim).filter fun value => !isEmpty value
  if echConfigs.isEmpty then none
  else if !echConfigs.any (containsStr · "://") then
    some { config := some ["-----BEGIN ECH CONFIGS-----\n" ++ String.intercalate "," echConfigs ++
      "\n-----END ECH CONFIGS-----"] }
  else
    let query := (echConfigs.find? fun value => !containsStr value "://").map fun value =>
      ((splitOnce value '+').map Prod.fst).getD value
    some { config := none, queryServerName := query.bind fun value => nonemptyString (some value) }

def tlsServerName (tls : TlsSettings) (node : ProfileItem) : Option String :=
  (nonemptyString tls.serverName).orElse fun _ =>
    (splitList ((transportHostForTls node).getD "")).bind fun items =>
      (items.map trim).find? fun item => !isEmpty item

def fillOutboundTls (outbound : SingboxOutbound) (context : CoreConfigContext)
    (node : ProfileItem) : SingboxOutbound :=
  match node.tls with
  | none => outbound
  | some domainTls =>
    if [ConfigType.shadowsocks, .socks, .wireGuard].contains node.configType then outbound
    else
      let tls : SingboxTls := {
        enabled := true
        serverName := tlsServerName domainTls node
        insecure := some (allowInsecure context)
        alpn := if domainTls.alpn.isEmpty then none else some domainTls.alpn
        recordFragment := if context.appConfig.coreBasicItem.enableFragment then some true else none
        ech := parseEch domainTls.echConfig
        utls := (effectiveFingerprint context).map fun fingerprint =>
          { enabled := true, fingerprint } }
      let tls := match domainTls.mode with
        | .tls =>
          let certs := (domainTls.certificatePem.map parsePemChain).getD []
          if certs.isEmpty then tls
          else { tls with certificate := some certs, insecure := some false }
        | .reality =>
          { tls with
            reality := some {
              enabled := true
              publicKey := domainTls.realityPublicKey.getD ""
              shortId := domainTls.realityShortId.getD "" }
            insecure := some false }
      { outbound with tls := some tls }

/-- A user name and password are written only when both are nonblank. -/
def fillCredentials (outbound : SingboxOutbound) (username password : String) :
    SingboxOutbound :=
  if !isEmpty (trimmed username) && !isEmpty (trimmed password) then
    { outbound with username := some username, password := some password }
  else outbound

def buildOutbound (crates : Crates) (context : CoreConfigContext) (node : ProfileItem) :
    SingboxOutbound :=
  let outbound : SingboxOutbound := {
    type := protocolName node.configType
    tag := proxyTag
    server := some node.address
    serverPort := some node.port }
  let outbound := match node.protocol with
    | .vmess _ uuid _ =>
      let outbound := { outbound with
        uuid := some uuid, alterId := some 0, security := some (vmessSecurity node.protocol) }
      fillOutboundTransport crates (fillOutboundMux outbound context) context node
    | .shadowsocks _ password _ udpOverTcp =>
      let outbound := { outbound with
        method := some (shadowsocksMethod node.protocol)
        password := some password
        udpOverTcp := if udpOverTcp then some true else none }
      fillOutboundMux (fillShadowsocksPlugin outbound node (singboxNetwork node)) context
    | .socks _ username password =>
      fillCredentials { outbound with version := some "5" } username password
    | .http _ username password => fillCredentials outbound username password
    | .vless _ uuid flow _ =>
      let outbound := { outbound with uuid := some uuid, packetEncoding := some "xudp" }
      let outbound := match nonemptyString flow with
        | some flow => { outbound with flow := some flow }
        | none => fillOutboundMux outbound context
      fillOutboundTransport crates outbound context node
    | .trojan _ password =>
      fillOutboundTransport crates
        (fillOutboundMux { outbound with password := some password } context) context node
    | .hysteria2 _ password portHops obfuscationPassword =>
      fillHysteria2Fields { outbound with password := some password } context portHops
        obfuscationPassword
    | .tuic _ uuid password congestionControl =>
      { outbound with
        uuid := nonemptyString (some uuid)
        password := some password
        congestionControl := nonemptyString congestionControl }
    | .anytls _ password => { outbound with password := some password }
    | .naive _ username password quic congestionControl insecureConcurrency udpOverTcp =>
      let outbound := { outbound with
        username := nonemptyString (some username), password := some password }
      let outbound :=
        if quic then
          { outbound with
            quic := some true, quicCongestionControl := nonemptyString congestionControl }
        else outbound
      { outbound with
        insecureConcurrency := insecureConcurrency.filter fun value => decide (0 < value)
        udpOverTcp := if udpOverTcp then some true else none }
    | .wireGuard .. | .custom .. | .policyGroup .. | .proxyChain .. => outbound
  fillOutboundTls outbound context node

def buildWireguardEndpoint (node : ProfileItem) : Option SingboxEndpoint :=
  match node.protocol with
  | .wireGuard server privateKey _ presharedKey interfaceAddress _ reserved mtu =>
    (wireguardPublicKey node.protocol).map fun publicKey => {
      type := protocolName node.configType
      tag := proxyTag
      address := ((splitList (interfaceAddress.getD "")).filter fun items => !items.isEmpty).getD
        [wireguardDefaultAddress]
      privateKey
      mtu := some ((mtu.filter fun mtu => decide (0 < mtu)).getD wireguardDefaultMtu)
      peers := [{
        address := server.address
        port := server.port
        publicKey
        preSharedKey := presharedKey
        allowedIps := wireguardAllowedIps node.protocol
        reserved := parseWireguardReserved reserved }] }
  | _ => none

end SingboxLeaf
