import VoyaVPN.LinkReading
import VoyaVPN.KeyedTable

/-! WireGuard files: the sections a file is read into line by line, and the profiles that come out
of its peers. -/
namespace WireguardConfig

open Entities ShareCommon

section Endpoint

def inPortRange (port : Int) : Bool := 1 ≤ port && port ≤ 65535

def defaultPort : Int := 2408

def parseWireguardEndpoint (endpoint : String) : Option (String × Int) :=
  let endpoint := RustText.trim endpoint
  if endpoint = "" then none
  else
    match RustText.stripPrefix endpoint "[" with
    | some rest =>
      (RustText.splitOnce rest ']').bind fun (inner, after) =>
        let address := RustText.trim inner
        if address = "" then none
        else
          let port :=
            (((RustText.stripPrefix (RustText.trim after) ":").bind fun text =>
              RustText.parseI32 (RustText.trim text)).filter inPortRange).getD defaultPort
          some (address, port)
    | none =>
      match RustText.rsplitOnce endpoint ':' with
      | some (address, portText) =>
        if RustText.trim address = "" then none
        else
          match RustText.parseI32 (RustText.trim portText) with
          | some port =>
            if inPortRange port then some (RustText.trim address, port)
            else some (endpoint, defaultPort)
          | none => some (endpoint, defaultPort)
      | none => some (endpoint, defaultPort)

end Endpoint

section Reading

abbrev Values := KeyedTable (String × String) String Prod.fst

def Values.value (values : Values) (key : String) : Option String :=
  (values.get key).map Prod.snd

structure Reading where
  interface : Values := .empty
  peers : List Values := []
  inPeer : Bool := false

def Reading.insert (reading : Reading) (entry : String × String) : Reading :=
  if reading.inPeer then
    match reading.peers.getLast? with
    | none => reading
    | some peer => { reading with peers := reading.peers.dropLast ++ [peer.upsert entry] }
  else { reading with interface := reading.interface.upsert entry }

def isComment (c : Char) : Bool := c == '#' || c == ';'

/-- A value without the comment that may follow it on its line. -/
def withoutComment (value : String) : String :=
  if RustText.containsChar value isComment then
    String.ofList ((value.toList.takeWhile (!isComment ·)).rdropWhile RustText.isWhitespace)
  else value

def lineEntry (key rawValue : String) : String × String :=
  (RustText.toAsciiLowercase (RustText.trim key), withoutComment (RustText.trim rawValue))

def readLine (reading : Reading) (line : String) : Reading :=
  let trimmed := RustText.trim line
  if trimmed = "" then reading
  else if RustText.eqIgnoreAsciiCase trimmed "[Interface]" then { reading with inPeer := false }
  else if RustText.eqIgnoreAsciiCase trimmed "[Peer]" then
    { reading with peers := reading.peers ++ [.empty], inPeer := true }
  else if RustText.startsWith trimmed "[" || RustText.startsWith trimmed "#" ||
      RustText.startsWith trimmed ";" then reading
  else
    match RustText.splitOnce line '=' with
    | none => reading
    | some (key, rawValue) => reading.insert (lineEntry key rawValue)

def readConfig (input : String) : Reading := (RustText.lines input).foldl readLine {}

end Reading

section Profiles

def filled (values : Values) (key : String) : Option String :=
  (values.value key).bind nonempty

def wgMtu (interface : Values) : Option Int :=
  ((interface.value "mtu").bind RustText.parseI32).filter (0 < ·)

def peerProfile (interface peer : Values) (privateKey : String) (number : Nat)
    (server : String × Int) : ProfileItem :=
  { remarks := "WireGuard Peer " ++ toString number
    protocol :=
      .wireGuard { address := server.1, port := server.2 } privateKey (filled peer "publickey")
        (filled peer "presharedkey") (nonempty ((interface.value "address").getD ""))
        (filled peer "allowedips") (filled peer "reserved") (wgMtu interface) }

def readPeer (interface : Values) (privateKey : String) (result : List ProfileItem)
    (peer : Values) : List ProfileItem :=
  match nonemptyOption (peer.value "endpoint") with
  | none => result
  | some endpoint =>
    match parseWireguardEndpoint endpoint with
    | none => result
    | some server => result ++ [peerProfile interface peer privateKey (result.length + 1) server]

def parseWireguardConfig (input : String) : Except ShareError (List ProfileItem) :=
  let reading := readConfig input
  match nonemptyOption (reading.interface.value "privatekey") with
  | none => .error (.missingField "wireguard-config" "PrivateKey")
  | some privateKey =>
    let result := reading.peers.foldl (readPeer reading.interface privateKey) []
    if result.isEmpty then .error .invalidFullConfig else .ok result

end Profiles

end WireguardConfig
