import VoyaVPN.IpDisplay
import VoyaVPN.PercentText

/-! Addresses of SOCKS5: how a UDP packet is built around one, and the two readers of them, one
over a packet and one over a stream. -/
namespace Socks5Address

abbrev Bytes := List UInt8

structure Socks5RemoteEndpoint where
  host : String
  port : UInt16
  isDomain : Bool
  deriving DecidableEq, Repr

inductive UdpTestError where
  | io (source : String)
  | packetTooShort
  | fragmentUnsupported
  | unsupportedAddressType (atyp : UInt8)
  | domainTooLong
  deriving DecidableEq, Repr

/-- How a function over a packet ends without a value: an index out of bounds panics. -/
inductive Failure where
  | error (reason : UdpTestError)
  | panic
  deriving DecidableEq, Repr

section Text

def utf8Bytes (text : String) : Bytes := (PercentText.utf8 text.toList).map UInt8.ofNat

def fromUtf8Lossy (bytes : Bytes) : String :=
  String.ofList (PercentText.decodeUtf8Lossy none (bytes.map UInt8.toNat))

theorem toNat_utf8Bytes (text : String) :
    (utf8Bytes text).map UInt8.toNat = PercentText.utf8 text.toList := by
  rw [utf8Bytes, List.map_map]
  conv_rhs => rw [← List.map_id (PercentText.utf8 text.toList)]
  apply List.map_congr_left
  intro b hb
  obtain ⟨c, _, hc⟩ := List.mem_flatMap.mp hb
  have hlt := PercentText.utf8Char_lt c b hc
  simp only [Function.comp_apply, UInt8.toNat_ofNat', id_eq]
  omega

theorem fromUtf8Lossy_utf8Bytes (text : String) : fromUtf8Lossy (utf8Bytes text) = text := by
  rw [fromUtf8Lossy, toNat_utf8Bytes, PercentText.decodeUtf8Lossy_utf8, String.ofList_toList]

end Text

section Numbers

def toBeBytes (port : UInt16) : Bytes :=
  [UInt8.ofNat (port.toNat / 256), UInt8.ofNat (port.toNat % 256)]

def fromBeBytes (high low : UInt8) : UInt16 := UInt16.ofNat (256 * high.toNat + low.toNat)

theorem fromBeBytes_toBeBytes (port : UInt16) :
    fromBeBytes (UInt8.ofNat (port.toNat / 256)) (UInt8.ofNat (port.toNat % 256)) = port := by
  have hlt := port.toNat_lt
  apply UInt16.toNat_inj.mp
  simp only [fromBeBytes, UInt8.toNat_ofNat', UInt16.toNat_ofNat']
  omega

/-- The octets of the groups of an `Ipv6Addr`. -/
def groupOctets (groups : List Nat) : Bytes :=
  groups.flatMap fun group => [UInt8.ofNat (group / 256), UInt8.ofNat (group % 256)]

def octetGroups : Bytes → List Nat
  | high :: low :: rest => (256 * high.toNat + low.toNat) :: octetGroups rest
  | _ => []

end Numbers

def atypIpv4 : UInt8 := 0x01
def atypDomain : UInt8 := 0x03
def atypIpv6 : UInt8 := 0x04

section Build

def encodeSocks5Address (host : String) (port : UInt16) : Except UdpTestError Bytes :=
  match IpAddr.parse host with
  | some (.v4 octets) => .ok (atypIpv4 :: octets.map UInt8.ofNat ++ toBeBytes port)
  | some (.v6 groups) => .ok (atypIpv6 :: groupOctets groups ++ toBeBytes port)
  | none =>
    let bytes := utf8Bytes host
    if bytes.length < 256 then
      .ok (atypDomain :: UInt8.ofNat bytes.length :: bytes ++ toBeBytes port)
    else .error .domainTooLong

def buildSocks5UdpPacket (host : String) (port : UInt16) (data : Bytes) :
    Except UdpTestError Bytes :=
  (encodeSocks5Address host port).map fun address => [0x00, 0x00, 0x00] ++ address ++ data

end Build

def ipv4Endpoint (address : Bytes) (port : UInt16) : Socks5RemoteEndpoint :=
  { host := IpAddr.displayIpv4 (address.map UInt8.toNat), port, isDomain := false }

def ipv6Endpoint (address : Bytes) (port : UInt16) : Socks5RemoteEndpoint :=
  { host := IpAddr.displayIpv6 (octetGroups address), port, isDomain := false }

def domainEndpoint (domain : Bytes) (port : UInt16) : Socks5RemoteEndpoint :=
  { host := fromUtf8Lossy domain, port, isDomain := true }

section Stream

/-- `read_exact` on a stream that ends after the bytes. -/
def readExact (count : Nat) (stream : Bytes) : Except UdpTestError (Bytes × Bytes) :=
  if count ≤ stream.length then .ok (stream.take count, stream.drop count)
  else .error (.io "early eof")

/-- `read_exact` of one byte. -/
def readByte : Bytes → Except UdpTestError (UInt8 × Bytes)
  | byte :: stream => .ok (byte, stream)
  | [] => .error (.io "early eof")

def readPort : Bytes → Except UdpTestError (UInt16 × Bytes)
  | high :: low :: stream => .ok (fromBeBytes high low, stream)
  | _ => .error (.io "early eof")

def readSocks5Address (stream : Bytes) : Except UdpTestError (Socks5RemoteEndpoint × Bytes) := do
  let (atyp, stream) ← readByte stream
  if atyp = atypIpv4 then
    let (address, stream) ← readExact 4 stream
    let (port, stream) ← readPort stream
    pure (ipv4Endpoint address port, stream)
  else if atyp = atypIpv6 then
    let (address, stream) ← readExact 16 stream
    let (port, stream) ← readPort stream
    pure (ipv6Endpoint address port, stream)
  else if atyp = atypDomain then
    let (length, stream) ← readByte stream
    let (domain, stream) ← readExact length.toNat stream
    let (port, stream) ← readPort stream
    pure (domainEndpoint domain port, stream)
  else throw (.unsupportedAddressType atyp)

end Stream

section Packet

def byteAt (packet : Bytes) (index : Nat) : Except Failure UInt8 :=
  match packet[index]? with
  | some byte => .ok byte
  | none => .error .panic

def sliceAt (packet : Bytes) (start stop : Nat) : Except Failure Bytes :=
  if start ≤ stop ∧ stop ≤ packet.length then .ok ((packet.drop start).take (stop - start))
  else .error .panic

def portAt (packet : Bytes) (offset : Nat) : Except Failure UInt16 := do
  pure (fromBeBytes (← byteAt packet offset) (← byteAt packet (offset + 1)))

def parseSocks5AddressFromPacket (packet : Bytes) (offset : Nat) :
    Except Failure (Socks5RemoteEndpoint × Nat) := do
  if packet.length ≤ offset then throw (.error .packetTooShort)
  let atyp ← byteAt packet offset
  let offset := offset + 1
  if atyp = atypIpv4 then
    if packet.length < offset + 4 + 2 then throw (.error .packetTooShort)
    let first ← byteAt packet offset
    let second ← byteAt packet (offset + 1)
    let third ← byteAt packet (offset + 2)
    let fourth ← byteAt packet (offset + 3)
    let offset := offset + 4
    let port ← portAt packet offset
    pure (ipv4Endpoint [first, second, third, fourth] port, offset + 2)
  else if atyp = atypIpv6 then
    if packet.length < offset + 16 + 2 then throw (.error .packetTooShort)
    let address ← sliceAt packet offset (offset + 16)
    let offset := offset + 16
    let port ← portAt packet offset
    pure (ipv6Endpoint address port, offset + 2)
  else if atyp = atypDomain then
    if packet.length ≤ offset then throw (.error .packetTooShort)
    let length := (← byteAt packet offset).toNat
    let offset := offset + 1
    if packet.length < offset + length + 2 then throw (.error .packetTooShort)
    let domain ← sliceAt packet offset (offset + length)
    let offset := offset + length
    let port ← portAt packet offset
    pure (domainEndpoint domain port, offset + 2)
  else throw (.error (.unsupportedAddressType atyp))

def parseSocks5UdpPacket (packet : Bytes) : Except Failure (Socks5RemoteEndpoint × Bytes) := do
  if packet.length < 4 then throw (.error .packetTooShort)
  if (← byteAt packet 2) ≠ 0x00 then throw (.error .fragmentUnsupported)
  let (remote, offset) ← parseSocks5AddressFromPacket packet 3
  pure (remote, ← sliceAt packet offset packet.length)

end Packet

section Agreement

theorem byteAt_append {pre bytes : Bytes} {index : Nat} {byte : UInt8}
    (h : bytes[index]? = some byte) : byteAt (pre ++ bytes) (pre.length + index) = .ok byte := by
  rw [byteAt, List.getElem?_append_right (by omega), Nat.add_sub_cancel_left, h]

theorem sliceAt_append (pre middle rest : Bytes) :
    sliceAt (pre ++ (middle ++ rest)) pre.length (pre.length + middle.length) = .ok middle := by
  rw [sliceAt, if_pos]
  · simp
  · simp only [List.length_append]
    omega

theorem portAt_append (pre rest : Bytes) (high low : UInt8) :
    portAt (pre ++ (high :: low :: rest)) pre.length = .ok (fromBeBytes high low) := by
  have hhigh : byteAt (pre ++ (high :: low :: rest)) (pre.length + 0) = .ok high :=
    byteAt_append rfl
  have hlow : byteAt (pre ++ (high :: low :: rest)) (pre.length + 1) = .ok low := byteAt_append rfl
  rw [Nat.add_zero] at hhigh
  rw [portAt, hhigh, hlow]
  rfl

theorem byteAt_cons (pre rest : Bytes) (byte : UInt8) :
    byteAt (pre ++ byte :: rest) pre.length = .ok byte := by
  have h : byteAt (pre ++ byte :: rest) (pre.length + 0) = .ok byte := byteAt_append rfl
  rwa [Nat.add_zero] at h

/-- A text of bytes that is long enough for an address of a length and the port after it. -/
theorem exists_address {body : Bytes} {n : Nat} (h : n + 2 ≤ body.length) :
    ∃ address high low rest, body = address ++ high :: low :: rest ∧ address.length = n := by
  have hdrop : (body.drop n).length = body.length - n := List.length_drop
  match hrest : body.drop n with
  | high :: low :: rest =>
    refine ⟨body.take n, high, low, rest, ?_, List.length_take_of_le (by omega)⟩
    rw [← hrest, List.take_append_drop]
  | [_] =>
    rw [hrest, List.length_singleton] at hdrop
    omega
  | [] =>
    rw [hrest, List.length_nil] at hdrop
    omega

section Reader

variable (make : Bytes → UInt16 → Socks5RemoteEndpoint)

/-- The end of an address on a stream: its bytes and the port. -/
def readEndpoint (n : Nat) (stream : Bytes) :
    Except UdpTestError (Socks5RemoteEndpoint × Bytes) := do
  let (address, stream) ← readExact n stream
  let (port, stream) ← readPort stream
  pure (make address port, stream)

theorem readExact_append {n : Nat} {first : Bytes} (hlength : first.length = n) (rest : Bytes) :
    readExact n (first ++ rest) = .ok (first, rest) := by
  subst hlength
  rw [readExact, if_pos]
  · simp
  · rw [List.length_append]
    omega

theorem readEndpoint_append {n : Nat} {address : Bytes} (hlength : address.length = n)
    (rest : Bytes) (high low : UInt8) :
    readEndpoint make n (address ++ high :: low :: rest) =
      .ok (make address (fromBeBytes high low), rest) := by
  rw [readEndpoint, readExact_append hlength]
  rfl

theorem readEndpoint_short {n : Nat} {stream : Bytes} (h : stream.length < n + 2) :
    readEndpoint make n stream = .error (.io "early eof") := by
  by_cases hn : n ≤ stream.length
  · have hdrop : (stream.drop n).length < 2 := by
      rw [List.length_drop]
      omega
    rw [readEndpoint, readExact, if_pos hn]
    match hrest : stream.drop n with
    | [] => rfl
    | [_] => rfl
    | _ :: _ :: _ =>
      rw [hrest, List.length_cons, List.length_cons] at hdrop
      omega
  · rw [readEndpoint, readExact, if_neg hn]
    rfl

end Reader

/-- What the reader of packets makes of the answer of the reader of streams. -/
def packetAnswer (length : Nat) :
    Except UdpTestError (Socks5RemoteEndpoint × Bytes) → Except Failure (Socks5RemoteEndpoint × Nat)
  | .ok (endpoint, rest) => .ok (endpoint, length - rest.length)
  | .error (.io _) => .error (.error .packetTooShort)
  | .error reason => .error (.error reason)

/-- The end of an address in a packet: its bytes and the port. -/
def parseEndpoint (make : Bytes → UInt16 → Socks5RemoteEndpoint) (packet : Bytes) (offset n : Nat) :
    Except Failure (Socks5RemoteEndpoint × Nat) := do
  if packet.length < offset + n + 2 then throw (.error .packetTooShort)
  let address ← sliceAt packet offset (offset + n)
  let port ← portAt packet (offset + n)
  pure (make address port, offset + n + 2)

theorem parseEndpoint_append (make : Bytes → UInt16 → Socks5RemoteEndpoint) (pre body : Bytes)
    (n : Nat) :
    parseEndpoint make (pre ++ body) pre.length n =
      packetAnswer (pre ++ body).length (readEndpoint make n body) := by
  by_cases hshort : body.length < n + 2
  · rw [readEndpoint_short make hshort, parseEndpoint, if_pos]
    · rfl
    · rw [List.length_append]
      omega
  · obtain ⟨address, high, low, rest, rfl, rfl⟩ := exists_address (Nat.le_of_not_lt hshort)
    have hport : portAt (pre ++ (address ++ high :: low :: rest)) (pre.length + address.length) =
        .ok (fromBeBytes high low) := by
      rw [← List.append_assoc, ← List.length_append]
      exact portAt_append _ _ _ _
    rw [readEndpoint_append make rfl, parseEndpoint, if_neg, sliceAt_append]
    · simp only [pure, Except.pure, bind, Except.bind, hport, packetAnswer, List.length_append,
        List.length_cons, Except.ok.injEq, Prod.mk.injEq, true_and]
      omega
    · simp only [List.length_append, List.length_cons]
      omega

theorem octets_append (pre body : Bytes) (h : ¬body.length < 4 + 2) :
    ∃ first second third fourth,
      byteAt (pre ++ body) pre.length = .ok first ∧
        byteAt (pre ++ body) (pre.length + 1) = .ok second ∧
          byteAt (pre ++ body) (pre.length + 2) = .ok third ∧
            byteAt (pre ++ body) (pre.length + 3) = .ok fourth ∧
              sliceAt (pre ++ body) pre.length (pre.length + 4) =
                .ok [first, second, third, fourth] := by
  obtain ⟨address, high, low, rest, rfl, haddress⟩ := exists_address (Nat.le_of_not_lt h)
  obtain ⟨first, second, third, fourth, rfl⟩ := List.length_eq_four.mp haddress
  exact ⟨first, second, third, fourth, byteAt_cons _ _ _, byteAt_append rfl, byteAt_append rfl,
    byteAt_append rfl, sliceAt_append pre [first, second, third, fourth] (high :: low :: rest)⟩

/-- The reader of packets answers as the reader of streams does on the rest of the packet. -/
theorem parse_append (pre bytes : Bytes) :
    parseSocks5AddressFromPacket (pre ++ bytes) pre.length =
      packetAnswer (pre ++ bytes).length (readSocks5Address bytes) := by
  cases bytes with
  | nil =>
    rw [parseSocks5AddressFromPacket, if_pos (by simp)]
    rfl
  | cons atyp body =>
    have hsplit : pre ++ atyp :: body = (pre ++ [atyp]) ++ body := by simp
    have hpre : (pre ++ [atyp]).length = pre.length + 1 := by simp
    rw [parseSocks5AddressFromPacket, if_neg (by simp), byteAt_cons]
    simp only [readSocks5Address, readByte, bind, Except.bind]
    by_cases hv4 : atyp = atypIpv4
    · have hend := parseEndpoint_append ipv4Endpoint (pre ++ [atyp]) body 4
      rw [← hsplit, hpre] at hend
      rw [if_pos hv4, if_pos hv4]
      refine Eq.trans ?_ hend
      by_cases hshort : body.length < 4 + 2
      · have hlength : (pre ++ atyp :: body).length < pre.length + 1 + 4 + 2 := by
          rw [List.length_append, List.length_cons]
          omega
        rw [parseEndpoint, if_pos hlength, if_pos hlength]
        rfl
      · obtain ⟨first, second, third, fourth, h0, h1, h2, h3, hslice⟩ :=
          octets_append (pre ++ [atyp]) body hshort
        rw [← hsplit, hpre] at h0 h1 h2 h3 hslice
        have hlength : ¬(pre ++ atyp :: body).length < pre.length + 1 + 4 + 2 := by
          rw [List.length_append, List.length_cons]
          omega
        rw [parseEndpoint, if_neg hlength, if_neg hlength, h0, h1, h2, h3, hslice]
        rfl
    · rw [if_neg hv4, if_neg hv4]
      by_cases hv6 : atyp = atypIpv6
      · have hend := parseEndpoint_append ipv6Endpoint (pre ++ [atyp]) body 16
        rw [← hsplit, hpre] at hend
        rw [if_pos hv6, if_pos hv6]
        exact hend
      · rw [if_neg hv6, if_neg hv6]
        by_cases hdomain : atyp = atypDomain
        · rw [if_pos hdomain, if_pos hdomain]
          cases body with
          | nil =>
            rw [if_pos (by simp)]
            rfl
          | cons length body =>
            have hsplit' : pre ++ atyp :: length :: body =
              (pre ++ [atyp, length]) ++ body := by simp
            have hpre' : (pre ++ [atyp, length]).length = pre.length + 1 + 1 := by simp
            have hlength : byteAt (pre ++ atyp :: length :: body) (pre.length + 1) = .ok length :=
              byteAt_append rfl
            have hend := parseEndpoint_append domainEndpoint (pre ++ [atyp, length]) body
              length.toNat
            rw [← hsplit', hpre'] at hend
            rw [if_neg (by simp), hlength]
            exact hend
        · rw [if_neg hdomain, if_neg hdomain]
          rfl

end Agreement

section Packets

theorem parseAddress_of_length {packet : Bytes} {offset : Nat} (h : offset ≤ packet.length) :
    parseSocks5AddressFromPacket packet offset =
      packetAnswer packet.length (readSocks5Address (packet.drop offset)) := by
  have hparse := parse_append (packet.take offset) (packet.drop offset)
  rwa [List.take_append_drop, List.length_take_of_le h] at hparse

theorem parseAddress_beyond {packet : Bytes} {offset : Nat} (h : packet.length ≤ offset) :
    parseSocks5AddressFromPacket packet offset = .error (.error .packetTooShort) := by
  rw [parseSocks5AddressFromPacket, if_pos h]
  rfl

theorem readEndpoint_rest {make : Bytes → UInt16 → Socks5RemoteEndpoint} {n : Nat}
    {stream rest : Bytes}
    {endpoint : Socks5RemoteEndpoint} (h : readEndpoint make n stream = .ok (endpoint, rest)) :
    rest <:+ stream := by
  by_cases hshort : stream.length < n + 2
  · rw [readEndpoint_short make hshort] at h
    cases h
  · obtain ⟨address, high, low, after, rfl, rfl⟩ := exists_address (Nat.le_of_not_lt hshort)
    rw [readEndpoint_append make rfl] at h
    cases h
    exact ⟨address ++ [high, low], by simp⟩

theorem readSocks5Address_rest {stream rest : Bytes} {endpoint : Socks5RemoteEndpoint}
    (h : readSocks5Address stream = .ok (endpoint, rest)) : rest <:+ stream := by
  cases stream with
  | nil => cases h
  | cons atyp body =>
    have hbody : rest <:+ body := by
      simp only [readSocks5Address, readByte, bind, Except.bind] at h
      by_cases hv4 : atyp = atypIpv4
      · rw [if_pos hv4] at h
        exact readEndpoint_rest h
      · rw [if_neg hv4] at h
        by_cases hv6 : atyp = atypIpv6
        · rw [if_pos hv6] at h
          exact readEndpoint_rest h
        · rw [if_neg hv6] at h
          by_cases hdomain : atyp = atypDomain
          · rw [if_pos hdomain] at h
            cases body with
            | nil => cases h
            | cons length body =>
              exact (readEndpoint_rest h).trans (List.suffix_cons _ _)
          · rw [if_neg hdomain] at h
            cases h
    exact hbody.trans (List.suffix_cons _ _)

theorem parse_iff_read (packet : Bytes) (offset : Nat) (endpoint : Socks5RemoteEndpoint)
    (next : Nat) :
    parseSocks5AddressFromPacket packet offset = .ok (endpoint, next) ↔
      (offset ≤ next ∧ next ≤ packet.length) ∧
        readSocks5Address (packet.drop offset) = .ok (endpoint, packet.drop next) := by
  by_cases hoffset : offset ≤ packet.length
  · rw [parseAddress_of_length hoffset]
    constructor
    · intro h
      rcases hread : readSocks5Address (packet.drop offset) with reason | ⟨found, rest⟩
      · rw [hread] at h
        cases reason <;> cases h
      · rw [hread] at h
        cases h
        have hsuffix := readSocks5Address_rest hread
        have hlength := hsuffix.length_le
        rw [List.length_drop] at hlength
        refine ⟨⟨by omega, by omega⟩, ?_⟩
        have hrest := List.suffix_iff_eq_drop.mp (hsuffix.trans (List.drop_suffix offset packet))
        rw [← hrest]
    · rintro ⟨⟨hle, hlength⟩, hread⟩
      rw [hread]
      simp only [packetAnswer, List.length_drop, Except.ok.injEq, Prod.mk.injEq, true_and]
      omega
  · rw [parseAddress_beyond (by omega)]
    constructor
    · intro h
      cases h
    · rintro ⟨⟨hle, hlength⟩, _⟩
      omega

theorem parseAddress_safe (packet : Bytes) (offset : Nat) :
    parseSocks5AddressFromPacket packet offset ≠ .error .panic := by
  by_cases hoffset : offset ≤ packet.length
  · rw [parseAddress_of_length hoffset]
    rcases readSocks5Address (packet.drop offset) with reason | ⟨found, rest⟩
    · cases reason <;> exact fun h => by cases h
    · exact fun h => by cases h
  · rw [parseAddress_beyond (by omega)]
    exact fun h => by cases h

theorem parsePacket_safe (packet : Bytes) : parseSocks5UdpPacket packet ≠ .error .panic := by
  by_cases hshort : packet.length < 4
  · rw [parseSocks5UdpPacket, if_pos hshort]
    exact fun h => by cases h
  · have hbyte : byteAt packet 2 = .ok packet[2] := by
      rw [byteAt, List.getElem?_eq_getElem (by omega)]
    rw [parseSocks5UdpPacket, if_neg hshort, hbyte]
    simp only [bind, Except.bind]
    by_cases hfragment : packet[2] ≠ 0x00
    · rw [if_pos hfragment]
      exact fun h => by cases h
    · rw [if_neg hfragment]
      rcases hparse : parseSocks5AddressFromPacket packet 3 with (reason | _) | ⟨remote, offset⟩
      · exact fun h => by cases h
      · exact absurd hparse (parseAddress_safe packet 3)
      · obtain ⟨⟨_, hoffset⟩, _⟩ := (parse_iff_read packet 3 remote offset).mp hparse
        have hslice : sliceAt packet offset packet.length =
            .ok ((packet.drop offset).take (packet.length - offset)) :=
          if_pos ⟨hoffset, Nat.le_refl _⟩
        simp only [hslice]
        exact fun h => by cases h

end Packets

section RoundTrip

def endpointOf (host : String) (port : UInt16) : Socks5RemoteEndpoint :=
  match IpAddr.parse host with
  | some (.v4 octets) => ⟨IpAddr.displayIpv4 octets, port, false⟩
  | some (.v6 groups) => ⟨IpAddr.displayIpv6 groups, port, false⟩
  | none => ⟨host, port, true⟩

theorem octetGroups_groupOctets {groups : List Nat} (h : ∀ group ∈ groups, group < 65536) :
    octetGroups (groupOctets groups) = groups := by
  induction groups with
  | nil => rfl
  | cons group groups ih =>
    have hgroup := h group List.mem_cons_self
    have hrest := ih fun other hother => h other (List.mem_cons_of_mem _ hother)
    rw [groupOctets, List.flatMap_cons, List.cons_append, List.cons_append, List.nil_append,
      octetGroups,
      ← groupOctets, hrest]
    simp only [UInt8.toNat_ofNat', List.cons.injEq, and_true]
    omega

theorem length_groupOctets (groups : List Nat) :
    (groupOctets groups).length = 2 * groups.length := by
  induction groups with
  | nil => rfl
  | cons group groups ih =>
    rw [groupOctets, List.flatMap_cons, List.length_append, ← groupOctets, ih, List.length_cons]
    simp only [List.length_cons, List.length_nil]
    omega

theorem map_toNat_octets {octets : List Nat} (h : ∀ octet ∈ octets, octet < 256) :
    (octets.map UInt8.ofNat).map UInt8.toNat = octets := by
  rw [List.map_map]
  conv_rhs => rw [← List.map_id octets]
  apply List.map_congr_left
  intro octet hoctet
  have hlt := h octet hoctet
  simp only [Function.comp_apply, UInt8.toNat_ofNat', id_eq]
  omega

theorem readEndpoint_port (make : Bytes → UInt16 → Socks5RemoteEndpoint) {n : Nat} {address : Bytes}
    (hlength : address.length = n) (port : UInt16) (data : Bytes) :
    readEndpoint make n (address ++ toBeBytes port ++ data) = .ok (make address port, data) := by
  rw [toBeBytes, List.append_assoc]
  exact (readEndpoint_append make hlength data _ _).trans (by rw [fromBeBytes_toBeBytes])

theorem read_encode {host : String} (port : UInt16) (data : Bytes)
    (h : IpAddr.parse host ≠ none ∨ (utf8Bytes host).length ≤ 255) :
    ∃ address, encodeSocks5Address host port = .ok address ∧
      readSocks5Address (address ++ data) = .ok (endpointOf host port, data) := by
  unfold encodeSocks5Address endpointOf
  cases hparse : IpAddr.parse host with
  | some address =>
    cases address with
    | v4 octets =>
      obtain ⟨hlength, hsmall⟩ := IpAddr.parse_v4 hparse
      refine ⟨_, rfl, ?_⟩
      have hread := readEndpoint_port ipv4Endpoint ((List.length_map UInt8.ofNat).trans
        hlength) port data
      rw [ipv4Endpoint, map_toNat_octets hsmall] at hread
      exact hread
    | v6 groups =>
      obtain ⟨hlength, hsmall⟩ := IpAddr.parse_v6 hparse
      refine ⟨_, rfl, ?_⟩
      have hoctets : (groupOctets groups).length = 16 := by rw [length_groupOctets, hlength]
      have hread := readEndpoint_port ipv6Endpoint hoctets port data
      rw [ipv6Endpoint, octetGroups_groupOctets hsmall] at hread
      exact hread
  | none =>
    have hlength : (utf8Bytes host).length ≤ 255 := h.resolve_left (fun hne => hne hparse)
    refine ⟨_, if_pos (by omega), ?_⟩
    have hbytes : (utf8Bytes host).length = (UInt8.ofNat (utf8Bytes host).length).toNat := by
      rw [UInt8.toNat_ofNat']
      omega
    have hread := readEndpoint_port domainEndpoint hbytes port data
    rw [domainEndpoint, fromUtf8Lossy_utf8Bytes] at hread
    exact hread

theorem encodeSocks5Address_ne_nil {host : String} {port : UInt16} {address : Bytes}
    (h : encodeSocks5Address host port = .ok address) : address ≠ [] := by
  unfold encodeSocks5Address at h
  split at h
  · cases h
    exact List.cons_ne_nil _ _
  · cases h
    exact List.cons_ne_nil _ _
  · simp only at h
    split at h
    · cases h
      exact List.cons_ne_nil _ _
    · cases h

/-- The packets that are built are read back; no packet makes the reader read beyond it, and its
step over an address agrees with the reader of streams. -/
theorem socks5_codec :
    (∀ host port data, IpAddr.parse host ≠ none ∨ (utf8Bytes host).length ≤ 255 →
        ∃ packet, buildSocks5UdpPacket host port data = .ok packet ∧
          parseSocks5UdpPacket packet = .ok (endpointOf host port, data)) ∧
      (∀ packet, parseSocks5UdpPacket packet ≠ .error .panic) ∧
        ∀ packet offset endpoint next,
          parseSocks5AddressFromPacket packet offset = .ok (endpoint, next) ↔
            (offset ≤ next ∧ next ≤ packet.length) ∧
              readSocks5Address (packet.drop offset) = .ok (endpoint, packet.drop next) := by
  refine ⟨?_, parsePacket_safe, parse_iff_read⟩
  intro host port data h
  obtain ⟨address, haddress, hread⟩ := read_encode port data h
  have hparse : parseSocks5AddressFromPacket ([0x00, 0x00, 0x00] ++ (address ++ data)) 3 =
      .ok (endpointOf host port, ([0x00, 0x00, 0x00] ++ (address ++ data)).length -
        data.length) := by
    have h := parse_append [0x00, 0x00, 0x00] (address ++ data)
    rw [hread] at h
    exact h
  refine ⟨[0x00, 0x00, 0x00] ++ address ++ data, by rw [buildSocks5UdpPacket, haddress]; rfl, ?_⟩
  have hlength : 0 < address.length := List.length_pos_iff.mpr (encodeSocks5Address_ne_nil haddress)
  have hzero : byteAt ([0x00, 0x00, 0x00] ++ (address ++ data)) 2 = .ok 0x00 := rfl
  have hslice : sliceAt ([0x00, 0x00, 0x00] ++ (address ++ data))
      (([0x00, 0x00, 0x00] ++ (address ++ data)).length - data.length)
      ([0x00, 0x00, 0x00] ++ (address ++ data)).length = .ok data := by
    have hsplit := sliceAt_append ([0x00, 0x00, 0x00] ++ address) data []
    rw [List.append_nil, List.append_assoc] at hsplit
    rw [← hsplit]
    congr 1
    · simp only [List.length_append]
      omega
    · simp only [List.length_append]
      omega
  have hlong : ¬([0x00, 0x00, 0x00] ++ (address ++ data)).length < 4 := by
    simp only [List.length_append, List.length_cons, List.length_nil]
    omega
  rw [List.append_assoc, parseSocks5UdpPacket, if_neg hlong, hzero]
  simp only [bind, Except.bind, hparse, hslice]
  rfl

/-- An address that reads in another text than it is written, and a name. -/
theorem socks5_codec_mapped :
    (∃ packet, buildSocks5UdpPacket "::FFFF:7f00:1" 53 [104, 105] = .ok packet ∧
        parseSocks5UdpPacket packet = .ok (⟨"::ffff:127.0.0.1", 53, false⟩, [104, 105])) ∧
      ∃ packet, buildSocks5UdpPacket "example.com" 443 [1] = .ok packet ∧
        parseSocks5UdpPacket packet = .ok (⟨"example.com", 443, true⟩, [1]) := by
  have hmapped : endpointOf "::FFFF:7f00:1" 53 = ⟨"::ffff:127.0.0.1", 53, false⟩ := by
    decide +kernel
  have hname : endpointOf "example.com" 443 = ⟨"example.com", 443, true⟩ := by decide +kernel
  constructor
  · rw [← hmapped]
    exact socks5_codec.1 "::FFFF:7f00:1" 53 [104, 105] (.inl (by decide +kernel))
  · rw [← hname]
    exact socks5_codec.1 "example.com" 443 [1] (.inr (by decide +kernel))

end RoundTrip

end Socks5Address
