import VoyaVPN.Entities

/-! What a profile is brought to before it is stored: its texts without surrounding white space,
and no optional text or list entry that is empty. -/
namespace ProfileNormalize

open Entities

def trimOption (value : Option String) : Option String :=
  match value with
  | none => none
  | some value => if RustText.trim value = "" then none else some (RustText.trim value)

theorem trimOption_ne_empty {value : Option String} {trimmed : String}
    (hsome : trimOption value = some trimmed) : trimmed ≠ "" := by
  unfold trimOption at hsome
  split at hsome
  · cases hsome
  · split at hsome
    · cases hsome
    · rename_i hnonempty
      cases hsome
      exact hnonempty

def normalizeValues (values : List String) : List String :=
  (values.map RustText.trim).filter fun value => value ≠ ""

def normalizeServer (server : ServerEndpoint) : ServerEndpoint :=
  { server with address := RustText.trim server.address }

def normalizeProtocol : ProfileProtocol → ProfileProtocol
  | .vmess server uuid cipher =>
    .vmess (normalizeServer server) (RustText.trim uuid) (trimOption cipher)
  | .custom source filter => .custom (RustText.trim source) (trimOption filter)
  | .shadowsocks server password method udpOverTcp =>
    .shadowsocks (normalizeServer server) (RustText.trim password) (RustText.trim method) udpOverTcp
  | .socks server username password =>
    .socks (normalizeServer server) (RustText.trim username) (RustText.trim password)
  | .http server username password =>
    .http (normalizeServer server) (RustText.trim username) (RustText.trim password)
  | .vless server uuid flow encryption =>
    .vless (normalizeServer server) (RustText.trim uuid) (trimOption flow) (trimOption encryption)
  | .trojan server password => .trojan (normalizeServer server) (RustText.trim password)
  | .anytls server password => .anytls (normalizeServer server) (RustText.trim password)
  | .hysteria2 server password portHops obfuscationPassword =>
    .hysteria2 (normalizeServer server) (RustText.trim password) (trimOption portHops)
      (trimOption obfuscationPassword)
  | .tuic server uuid password congestionControl =>
    .tuic (normalizeServer server) (RustText.trim uuid) (RustText.trim password)
      (trimOption congestionControl)
  | .wireGuard server privateKey peerPublicKey presharedKey interfaceAddress allowedIps reserved
      mtu =>
    .wireGuard (normalizeServer server) (RustText.trim privateKey) (trimOption peerPublicKey)
      (trimOption presharedKey) (trimOption interfaceAddress) (trimOption allowedIps)
      (trimOption reserved) mtu
  | .naive server username password quic congestionControl insecureConcurrency udpOverTcp =>
    .naive (normalizeServer server) (RustText.trim username) (RustText.trim password) quic
      (trimOption congestionControl) insecureConcurrency udpOverTcp
  | .policyGroup childProfileIds sourceSubscriptionId filter strategy =>
    .policyGroup (normalizeValues childProfileIds) (trimOption sourceSubscriptionId)
      (trimOption filter) strategy
  | .proxyChain childProfileIds => .proxyChain (normalizeValues childProfileIds)

def normalizeTransport : ProfileTransport → ProfileTransport
  | .tcp header host path => .tcp (trimOption header) (trimOption host) (trimOption path)
  | .kcp header seed mtu => .kcp (trimOption header) (trimOption seed) mtu
  | .websocket host path => .websocket (trimOption host) (trimOption path)
  | .httpUpgrade host path => .httpUpgrade (trimOption host) (trimOption path)
  | .http2 host path => .http2 (trimOption host) (trimOption path)
  | .quic host path => .quic (trimOption host) (trimOption path)
  | .xhttp host path mode extra =>
    .xhttp (trimOption host) (trimOption path) (trimOption mode) (trimOption extra)
  | .grpc authority serviceName mode =>
    .grpc (trimOption authority) (trimOption serviceName) (trimOption mode)

def normalizeTls (tls : TlsSettings) : TlsSettings :=
  { tls with
    serverName := trimOption tls.serverName
    realityPublicKey := trimOption tls.realityPublicKey
    realityShortId := trimOption tls.realityShortId
    realitySpiderX := trimOption tls.realitySpiderX
    mldsa65Verify := trimOption tls.mldsa65Verify
    certificatePem := trimOption tls.certificatePem
    finalMask := trimOption tls.finalMask
    alpn := normalizeValues tls.alpn
    certificateSha256 := normalizeValues tls.certificateSha256
    echConfig := normalizeValues tls.echConfig }

def normalizeProfile (profile : ProfileItem) : ProfileItem :=
  { profile with
    indexId := RustText.trim profile.indexId
    remarks := RustText.trim profile.remarks
    protocol := normalizeProtocol profile.protocol
    transport := profile.transport.map normalizeTransport
    tls := profile.tls.map normalizeTls }

@[simp] theorem trimOption_trimOption (value : Option String) :
    trimOption (trimOption value) = trimOption value := by
  cases value with
  | none => rfl
  | some value =>
    by_cases hempty : RustText.trim value = ""
    · simp [trimOption, hempty]
    · simp [trimOption, hempty, RustText.trim_trim]

@[simp] theorem normalizeValues_normalizeValues (values : List String) :
    normalizeValues (normalizeValues values) = normalizeValues values := by
  induction values with
  | nil => rfl
  | cons value values ih =>
    by_cases hempty : RustText.trim value = ""
    · simpa [normalizeValues, hempty] using ih
    · simpa [normalizeValues, hempty, RustText.trim_trim] using ih

@[simp] theorem normalizeServer_normalizeServer (server : ServerEndpoint) :
    normalizeServer (normalizeServer server) = normalizeServer server := by
  simp [normalizeServer, RustText.trim_trim]

@[simp] theorem normalizeProtocol_normalizeProtocol (protocol : ProfileProtocol) :
    normalizeProtocol (normalizeProtocol protocol) = normalizeProtocol protocol := by
  cases protocol <;> simp [normalizeProtocol, RustText.trim_trim]

@[simp] theorem normalizeTransport_normalizeTransport (transport : ProfileTransport) :
    normalizeTransport (normalizeTransport transport) = normalizeTransport transport := by
  cases transport <;> simp [normalizeTransport]

@[simp] theorem normalizeTls_normalizeTls (tls : TlsSettings) :
    normalizeTls (normalizeTls tls) = normalizeTls tls := by
  simp [normalizeTls]

/-- What is read back from the store is not changed when it is saved again. -/
theorem normalizeProfile_normalizeProfile (profile : ProfileItem) :
    normalizeProfile (normalizeProfile profile) = normalizeProfile profile := by
  simp [normalizeProfile, RustText.trim_trim, Option.map_map, Function.comp_def]

end ProfileNormalize
