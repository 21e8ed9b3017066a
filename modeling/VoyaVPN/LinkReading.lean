import VoyaVPN.ShareFormats

/-! How an exported link is read back. `Url::parse` splits a link into its parts with the escapes
kept; what stands after the port is the query and the fragment. -/
namespace LinkReading

open Entities ShareCommon ShareUri ShareFormats
open SettingsValidation (Url)

section Splitting

def isTrimmed (c : Char) : Bool := c.toNat ≤ 0x20

def isDropped (c : Char) : Bool := c == '\t' || c == '\n' || c == '\r'

def keepsInQuery (c : Char) : Bool :=
  0x21 ≤ c.toNat && c.toNat ≤ 0x7E && !(['"', '#', '<', '>'].contains c)

def keepsInFragment (c : Char) : Bool :=
  0x21 ≤ c.toNat && c.toNat ≤ 0x7E && !(['"', '<', '>', '\x60'].contains c)

/-- The query and the fragment in the text after a port: white space at the end and line breaks
are dropped, characters that a URL does not hold become escapes. -/
def urlTail (tail : String) : Option String × Option String :=
  let text := (tail.toList.rdropWhile isTrimmed).filter (!isDropped ·)
  let head := text.takeWhile (· != '#')
  let query :=
    match head with
    | '?' :: rest => some (String.ofList (PercentText.encode keepsInQuery rest))
    | _ => none
  let fragment :=
    match text.drop head.length with
    | _ :: rest => some (String.ofList (PercentText.encode keepsInFragment rest))
    | [] => none
  (query, fragment)

def linkSchemes : List String :=
  ["ss", "socks", "vless", "trojan", "hysteria2", "tuic", "wireguard", "anytls", "naive+https",
    "naive+quic"]

def isUserInfoChar (c : Char) : Bool := isUnreserved c || c == '%' || c == ':'

def isAuthorityBreak (c : Char) : Bool := ['/', '?', '#', '@', '\\'].contains c

/-- User information whose escapes are kept: a second colon would become one. -/
structure IsUserInfo (text : String) : Prop where
  nonempty : text ≠ ""
  chars : ∀ c ∈ text.toList, isUserInfoChar c = true
  colons : text.toList.count ':' ≤ 1

structure LinkText where
  scheme : String
  userInfo : String
  host : String
  port : Nat
  tail : String

structure LinkText.Readable (link : LinkText) : Prop where
  scheme : link.scheme ∈ linkSchemes
  userInfo : IsUserInfo link.userInfo
  hostChars : ∀ c ∈ link.host.toList, isAuthorityBreak c = false
  port_pos : 1 ≤ link.port
  port_le : link.port ≤ 65535
  tail : link.tail = "" ∨ RustText.startsWith link.tail "?" = true ∨
    RustText.startsWith link.tail "#" = true

def LinkText.text (link : LinkText) : String :=
  link.scheme ++ "://" ++ link.userInfo ++ "@" ++ link.host ++ ":" ++ toString link.port
    ++ link.tail

/-- The user name and the password of user information; an empty password is none. -/
def urlCredentials (userInfo : String) : String × Option String :=
  match RustText.splitOnce userInfo ':' with
  | some (username, password) => (username, nonempty password)
  | none => (userInfo, none)

def LinkText.url (link : LinkText) (host : String) : Url :=
  { scheme := link.scheme
    username := (urlCredentials link.userInfo).1
    password := (urlCredentials link.userInfo).2
    hostStr := some host
    port := some link.port
    query := (urlTail link.tail).1
    fragment := (urlTail link.tail).2 }

/-- `Url::parse` reads a link as its parts, the host as `hostParse` reads the text of one. -/
structure ReadsLinks (urlParse : String → Except String Url)
    (hostParse : String → Except String String) : Prop where
  link : ∀ link : LinkText, link.Readable → urlParse link.text = (hostParse link.host).map link.url

end Splitting

section Numbers

theorem digitValue_digitChar : ∀ d < 10, RustText.digitValue (Nat.digitChar d) = some d := by
  decide

theorem parseDigits_append (xs ys : List Char) (acc : Nat) :
    RustText.parseDigits acc (xs ++ ys) =
      (RustText.parseDigits acc xs).bind fun value => RustText.parseDigits value ys := by
  induction xs generalizing acc with
  | nil => rfl
  | cons c cs ih =>
    rw [List.cons_append, RustText.parseDigits, RustText.parseDigits]
    cases RustText.digitValue c with
    | none => rfl
    | some d => exact ih (10 * acc + d)

theorem parseDigits_toDigits (n : Nat) : RustText.parseDigits 0 (Nat.toDigits 10 n) = some n := by
  induction n using Nat.strong_induction_on with
  | _ n ih =>
    by_cases hlt : n < 10
    · rw [Nat.toDigits_of_lt_base hlt, RustText.parseDigits, digitValue_digitChar n hlt]
      simp [RustText.parseDigits]
    · have hmod : n % 10 < 10 := Nat.mod_lt _ (by decide)
      rw [Nat.toDigits_of_base_le (by decide) (by omega), parseDigits_append,
        ih (n / 10) (by omega),
        Option.bind_some, RustText.parseDigits, digitValue_digitChar _ hmod]
      simp only [RustText.parseDigits, Option.bind_some, Option.some.injEq]
      omega

theorem toList_toString (n : Nat) : (toString n).toList = Nat.toDigits 10 n := by
  rw [Nat.toString_eq_ofList_toDigits, String.toList_ofList]

theorem isDigit_of_mem_toString {n : Nat} {c : Char} (h : c ∈ (toString n).toList) :
    48 ≤ c.toNat ∧ c.toNat ≤ 57 := by
  rw [toList_toString] at h
  have hdigit : c.isDigit = true := Nat.isDigit_of_mem_toDigits (by decide) (by decide) h
  simp only [Char.isDigit, ge_iff_le, Bool.and_eq_true, decide_eq_true_eq, UInt32.le_iff_toNat_le]
    at hdigit
  exact hdigit

end Numbers

section Trimming

theorem rdropWhile_append_kept {p : Char → Bool} {head : List Char}
    (hlast : ∀ c ∈ head.getLast?, p c = false) (tail : List Char) :
    (head ++ tail).rdropWhile p = head ++ tail.rdropWhile p := by
  have hrev : head.reverse.dropWhile p = head.reverse := by
    cases hcs : head.reverse with
    | nil => rfl
    | cons c cs =>
      have hc : head.getLast? = some c := by
        rw [← List.head?_reverse, hcs]
        rfl
      rw [List.dropWhile_cons_of_neg]
      simp [hlast c hc]
  rw [List.rdropWhile, List.rdropWhile, List.reverse_append, List.dropWhile_append]
  split
  next hempty =>
    rw [hrev, List.isEmpty_iff.mp hempty]
    simp
  next => rw [List.reverse_append, List.reverse_reverse]

theorem trim_append {head tail : String}
    (hhead : ∀ c ∈ head.toList.head?, RustText.isWhitespace c = false)
    (hlast : ∀ c ∈ head.toList.getLast?, RustText.isWhitespace c = false) (hne : head ≠ "") :
    RustText.trim (head ++ tail) =
      head ++ String.ofList (tail.toList.rdropWhile RustText.isWhitespace) := by
  have hdrop : (head.toList ++ tail.toList).dropWhile RustText.isWhitespace =
      head.toList ++ tail.toList := by
    cases hcs : head.toList with
    | nil => exact absurd (String.toList_eq_nil_iff.mp hcs) hne
    | cons c cs =>
      rw [List.cons_append, List.dropWhile_cons_of_neg]
      simp [hhead c (by simp [hcs])]
  rw [RustText.trim, String.toList_append, hdrop, rdropWhile_append_kept hlast,
    String.ofList_append,
    String.ofList_toList]

end Trimming

section Checks

theorem ensureNonempty_ok_iff (protocol field value : String) :
    ensureNonempty protocol field value = .ok () ↔ value ≠ "" := by
  unfold ensureNonempty
  split
  next h => simp [h]
  next h => simp [h]

theorem validHost_ne_empty {address : String} (h : validHost address = true) : address ≠ "" := by
  rintro rfl
  exact absurd h (by decide)

theorem ensureAddressPort_ok_iff (protocol : String) (item : ProfileItem) :
    ensureAddressPort protocol item = .ok () ↔
      validHost item.address = true ∧ 1 ≤ item.port ∧ item.port ≤ 65535 := by
  unfold ensureAddressPort ensureNonempty
  by_cases hempty : item.address = ""
  · have hinvalid : validHost item.address ≠ true := fun h => validHost_ne_empty h hempty
    simp only [hempty, if_pos]
    constructor
    · intro h
      cases h
    · intro h
      exact absurd (hempty ▸ h.1) hinvalid
  · by_cases hvalid : validHost item.address = true
    · by_cases hport : 1 ≤ item.port ∧ item.port ≤ 65535
      · simp [hempty, hvalid, hport, bind, Except.bind, pure, Except.pure]
      · simp [hempty, hvalid, hport, bind, Except.bind, throw, throwThe, MonadExceptOf.throw]
    · simp [hempty, hvalid, bind, Except.bind, throw, throwThe, MonadExceptOf.throw]

theorem bind_ok_iff {ε α β : Type} {x : Except ε α} {f : α → Except ε β} {b : β} :
    (x >>= f) = .ok b ↔ ∃ a, x = .ok a ∧ f a = .ok b := by
  cases x with
  | error e => simp [bind, Except.bind]
  | ok a => simp [bind, Except.bind]

theorem pure_ok_iff {ε α : Type} {a b : α} : (pure a : Except ε α) = .ok b ↔ a = b := by
  simp [pure, Except.pure]

theorem required_ok_iff (protocol : String) (required : List (String × (ProfileItem → String)))
    (item : ProfileItem) :
    (required.forM fun field => ensureNonempty protocol field.1 (field.2 item)) = .ok () ↔
      ∀ field ∈ required, field.2 item ≠ "" := by
  induction required with
  | nil => simp [pure, Except.pure, List.forM]
  | cons field fields ih =>
    rw [List.forall_mem_cons, ← ih, ← ensureNonempty_ok_iff protocol field.1]
    rw [List.forM_eq_forM, List.forM_cons, bind_ok_iff, ← List.forM_eq_forM]
    constructor
    · rintro ⟨⟨⟩, hfirst, hrest⟩
      exact ⟨hfirst, hrest⟩
    · rintro ⟨hfirst, hrest⟩
      exact ⟨⟨⟩, hfirst, hrest⟩

variable {crates : Crates}

theorem linkParse_ok_iff {protocol : String} {schemes : List String}
    {fill : ParsedUri → Except ShareError ProfileItem}
    {required : List (String × (ProfileItem → String))} {input : String} {item : ProfileItem} :
    linkParse crates protocol schemes fill required input = .ok item ↔
      ∃ parsed, parseUriWithSchemes crates input protocol schemes = .ok parsed ∧
        fill parsed = .ok item ∧
        (validHost item.address = true ∧ 1 ≤ item.port ∧ item.port ≤ 65535) ∧
        ∀ field ∈ required, field.2 item ≠ "" := by
  unfold linkParse
  simp only [bind_ok_iff, pure_ok_iff]
  constructor
  · rintro ⟨parsed, hparsed, filled, hfill, ⟨⟩, haddress, ⟨⟩, hrequired, rfl⟩
    exact ⟨parsed, hparsed, hfill, (ensureAddressPort_ok_iff protocol _).mp haddress,
      (required_ok_iff protocol required _).mp hrequired⟩
  · rintro ⟨parsed, hparsed, hfill, haddress, hrequired⟩
    exact ⟨parsed, hparsed, item, hfill, ⟨⟩, (ensureAddressPort_ok_iff protocol _).mpr haddress, ⟨⟩,
      (required_ok_iff protocol required _).mpr hrequired, rfl⟩

theorem linkExport_ok_iff {protocol : String} {configType : ConfigType}
    {required : List (String × (ProfileItem → String))} {write : ProfileItem → Option String}
    {item : ProfileItem} {link : String} :
    linkExport protocol configType required write item = .ok link ↔
      item.configType = configType ∧
        (validHost item.address = true ∧ 1 ≤ item.port ∧ item.port ≤ 65535) ∧
        (∀ field ∈ required, field.2 item ≠ "") ∧ write item = some link := by
  have htype : ensureType protocol item configType = .ok () ↔ item.configType = configType := by
    unfold ensureType
    split
    next h => simp [h]
    next h => simp [h]
  unfold linkExport
  simp only [bind_ok_iff]
  rw [← htype, ← required_ok_iff protocol, ← ensureAddressPort_ok_iff protocol]
  constructor
  · rintro ⟨⟨⟩, htype, ⟨⟩, haddress, ⟨⟩, hrequired, hlink⟩
    refine ⟨htype, haddress, hrequired, ?_⟩
    cases hwrite : write item with
    | none =>
      rw [hwrite] at hlink
      cases hlink
    | some text =>
      rw [hwrite] at hlink
      cases hlink
      rfl
  · rintro ⟨htype, haddress, hrequired, hlink⟩
    refine ⟨⟨⟩, htype, ⟨⟩, haddress, ⟨⟩, hrequired, ?_⟩
    rw [hlink]
    rfl

end Checks

section Links

def readHost (host : String) : String := RustText.trimMatches isBracket host

def readUserInfo (userInfo : String) : String :=
  match (urlCredentials userInfo).2 with
  | some password => urlDecode (urlCredentials userInfo).1 ++ ":" ++ urlDecode password
  | none => urlDecode (urlCredentials userInfo).1

/-- The text after the port, trimmed at its end as `parse_share_link` trims a link. -/
def exportedTail (query : QueryPairs) (remark : String) : String :=
  String.ofList
    ((formatQuery query ++ formatRemark remark).toList.rdropWhile RustText.isWhitespace)

def exportedLink (scheme userInfo address : String) (port : Int) (query : QueryPairs)
    (remark : String) : LinkText :=
  { scheme := scheme
    userInfo := userInfo
    host := ipv6Host address
    port := port.toNat
    tail := exportedTail query remark }

/-- What `parse_uri` takes from a link whose host reads as given. -/
def parsedLink (link : LinkText) (host : String) : ParsedUri :=
  { scheme := link.scheme
    address := readHost host
    port := link.port
    remarks := ((urlTail link.tail).2.map urlDecode).getD ""
    userInfo := readUserInfo link.userInfo
    query := Query.parse (urlTail link.tail).1 }

theorem eqIgnoreAsciiCase_refl (s : String) : RustText.eqIgnoreAsciiCase s s = true := by
  simp [RustText.eqIgnoreAsciiCase]

theorem readUrl_ok_iff {protocol : String} {schemes : List String} {link : LinkText} {host : String}
    {parsed : ParsedUri} (hscheme : link.scheme ∈ schemes) (hpos : 1 ≤ link.port) :
    readUrl protocol schemes (link.url host) = .ok parsed ↔
      readHost host ≠ "" ∧ parsed = parsedLink link host := by
  have hschemes : schemes.any (RustText.eqIgnoreAsciiCase (link.url host).scheme ·) = true :=
    List.any_eq_true.mpr ⟨link.scheme, hscheme, eqIgnoreAsciiCase_refl link.scheme⟩
  have hport : link.port ≠ 0 := by omega
  unfold readUrl
  rw [hschemes]
  by_cases hempty : readHost host = ""
  · have hhost : RustText.trimMatches isBracket ((link.url host).hostStr.getD "") = "" := hempty
    simp [hhost, hempty, bind, Except.bind, throw, throwThe, MonadExceptOf.throw]
  · have hhost : RustText.trimMatches isBracket ((link.url host).hostStr.getD "") = readHost host :=
      rfl
    rw [hhost]
    simp only [Bool.not_true, Bool.false_eq_true, if_false, hempty, LinkText.url, hport]
    rw [pure_ok_iff]
    exact ⟨fun h => ⟨hempty, h.symm⟩, fun h => h.2.symm⟩

section Characters

theorem isUnreserved_hexDigit : ∀ n < 16, isUnreserved (PercentText.hexDigit n) = true := by
  decide

theorem urlEncode_chars {text : String} {c : Char} (h : c ∈ (urlEncode text).toList) :
    isUnreserved c = true ∨ c = '%' := by
  rw [urlEncode, String.toList_ofList] at h
  obtain hkeep | rfl | ⟨n, hlt, rfl⟩ := PercentText.mem_encode h
  · exact .inl hkeep
  · exact .inr rfl
  · exact .inl (isUnreserved_hexDigit n hlt)

theorem urlDecode_urlEncode (text : String) : urlDecode (urlEncode text) = text := by
  rw [urlDecode, urlEncode, String.toList_ofList, PercentText.decode_encode (by decide),
    String.ofList_toList]

theorem urlEncode_ne_empty {text : String} (h : text ≠ "") : urlEncode text ≠ "" := by
  intro hempty
  have hdecoded := urlDecode_urlEncode text
  rw [hempty] at hdecoded
  exact h (hdecoded.symm.trans (by decide))

theorem urlEncode_userInfoChars {text : String} {c : Char} (h : c ∈ (urlEncode text).toList) :
    isUserInfoChar c = true := by
  obtain h | rfl := urlEncode_chars h
  · simp [isUserInfoChar, h]
  · decide

theorem urlEncode_colon (text : String) : ':' ∉ (urlEncode text).toList := by
  intro h
  obtain h | h := urlEncode_chars h
  · exact absurd h (by decide)
  · exact absurd h (by decide)

theorem splitOnce_none {text : String} {c : Char} (h : c ∉ text.toList) :
    RustText.splitOnce text c = none := by
  have htake : text.toList.takeWhile (· != c) = text.toList := by
    rw [List.takeWhile_eq_self_iff]
    intro d hd
    simpa using fun heq : d = c => h (heq ▸ hd)
  simp [RustText.splitOnce, htake]

theorem splitOnce_append {head : String} {c : Char} (h : c ∉ head.toList) (tail : String) :
    RustText.splitOnce (head ++ String.singleton c ++ tail) c = some (head, tail) := by
  have htake : (head ++ String.singleton c ++ tail).toList.takeWhile (· != c) = head.toList := by
    simp only [String.toList_append, String.toList_singleton, List.append_assoc]
    rw [List.takeWhile_append_of_pos]
    · simp
    · intro d hd
      simpa using fun heq : d = c => h (heq ▸ hd)
  rw [RustText.splitOnce, htake]
  simp

theorem splitOnce_some {text first second : String} {c : Char}
    (h : RustText.splitOnce text c = some (first, second)) :
    text = first ++ String.singleton c ++ second ∧ c ∉ first.toList := by
  have hsplit := List.takeWhile_append_dropWhile (p := (· != c)) (l := text.toList)
  have hdrop : text.toList.drop (text.toList.takeWhile (· != c)).length =
      text.toList.dropWhile (· != c) := by
    conv_lhs => rw [← hsplit]
    exact List.drop_left' (by rw [hsplit])
  rw [RustText.splitOnce, hdrop] at h
  cases hrest : text.toList.dropWhile (· != c) with
  | nil =>
    rw [hrest] at h
    cases h
  | cons d tail =>
    have hd : (d != c) = false := by
      have hhead := List.head?_dropWhile_not (· != c) text.toList
      rw [hrest] at hhead
      simpa using hhead
    rw [hrest] at h
    cases h
    obtain rfl : d = c := by simpa using hd
    constructor
    · rw [String.ext_iff]
      simp only [String.toList_append, String.toList_ofList, String.toList_singleton]
      rw [List.append_assoc, List.singleton_append, ← hrest, hsplit]
    · rw [String.toList_ofList]
      intro hmem
      simpa using List.mem_takeWhile_imp hmem

theorem splitOnce_eq_some_iff {text first second : String} {c : Char} :
    RustText.splitOnce text c = some (first, second) ↔
      text = first ++ String.singleton c ++ second ∧ c ∉ first.toList := by
  constructor
  · exact splitOnce_some
  · rintro ⟨rfl, hfirst⟩
    exact splitOnce_append hfirst second

theorem stripPrefix_eq_some_iff {text pat rest : String} :
    RustText.stripPrefix text pat = some rest ↔ text = pat ++ rest := by
  rw [RustText.stripPrefix]
  constructor
  · intro h
    split at h
    · rename_i hstart
      obtain ⟨tail, rfl⟩ := (RustText.startsWith_iff text pat).mp hstart
      cases h
      simp
    · cases h
  · rintro rfl
    rw [if_pos (RustText.startsWith_append pat rest)]
    simp

end Characters

section UserInfo

theorem readUserInfo_encoded (text : String) : readUserInfo (urlEncode text) = text := by
  rw [readUserInfo, urlCredentials, splitOnce_none (urlEncode_colon text)]
  exact urlDecode_urlEncode text

theorem readUserInfo_pair {username password : String} (h : password ≠ "") :
    readUserInfo (urlEncode username ++ ":" ++ urlEncode password) =
      username ++ ":" ++ password := by
  have hsplit : RustText.splitOnce (urlEncode username ++ ":" ++ urlEncode password) ':' =
      some (urlEncode username, urlEncode password) :=
    splitOnce_append (urlEncode_colon username) (urlEncode password)
  rw [readUserInfo, urlCredentials, hsplit]
  simp only [nonempty, if_neg (urlEncode_ne_empty h), urlDecode_urlEncode]

theorem isUserInfo_encoded {text : String} (h : text ≠ "") : IsUserInfo (urlEncode text) where
  nonempty := urlEncode_ne_empty h
  chars _ hc := urlEncode_userInfoChars hc
  colons := by
    rw [List.count_eq_zero.mpr (urlEncode_colon text)]
    exact Nat.zero_le 1

theorem isUserInfo_pair (username password : String) :
    IsUserInfo (urlEncode username ++ ":" ++ urlEncode password) where
  nonempty := by
    intro hempty
    have hlist := congrArg String.toList hempty
    simp at hlist
  chars := by
    intro c hc
    simp only [String.toList_append, List.mem_append] at hc
    obtain (hc | hc) | hc := hc
    · exact urlEncode_userInfoChars hc
    · have hcolon : c = ':' := by simpa using hc
      subst hcolon
      decide
    · exact urlEncode_userInfoChars hc
  colons := by
    rw [String.toList_append, String.toList_append, List.count_append, List.count_append,
      List.count_eq_zero.mpr (urlEncode_colon username),
      List.count_eq_zero.mpr (urlEncode_colon password)]
    decide

end UserInfo

section Export

theorem linkSchemes_head {scheme : String} (h : scheme ∈ linkSchemes) :
    ∀ c ∈ scheme.toList.head?, RustText.isWhitespace c = false := by
  have hall : (linkSchemes.all fun scheme =>
      scheme.toList.head?.all fun c => !RustText.isWhitespace c) = true := by
    decide +kernel
  intro c hc
  have hscheme := List.all_eq_true.mp hall scheme h
  rw [Option.mem_def] at hc
  simpa [hc] using hscheme

theorem toString_port {port : Int} (h : 1 ≤ port) : toString port = toString port.toNat := by
  obtain ⟨k, rfl⟩ : ∃ k : Nat, port = k := ⟨port.toNat, by omega⟩
  rfl

theorem getLast_toString (n : Nat) : ∀ c ∈ (toString n).toList.getLast?,
    RustText.isWhitespace c = false := by
  intro c hc
  obtain ⟨hlow, hhigh⟩ := isDigit_of_mem_toString (List.mem_of_getLast? hc)
  simp only [RustText.isWhitespace, Bool.or_eq_false_iff, Bool.and_eq_false_iff,
    decide_eq_false_iff_not, beq_eq_false_iff_ne]
  omega

theorem trim_link {scheme userInfo address : String} {port : Int} {query : QueryPairs}
    {remark : String} (hscheme : scheme ∈ linkSchemes) (hport : 1 ≤ port) :
    RustText.trim (scheme ++ "://" ++
      toUriWithoutSchemePreencodedUserinfo address port userInfo query remark) =
        (exportedLink scheme userInfo address port query remark).text := by
  have hhead : ∀ c ∈ (scheme ++ "://" ++ userInfo ++ "@" ++ ipv6Host address ++ ":" ++
      toString port.toNat).toList.head?, RustText.isWhitespace c = false := by
    have hne : scheme.toList ≠ [] := by
      revert scheme
      decide
    intro c hc
    refine linkSchemes_head hscheme c ?_
    simp only [String.toList_append, List.append_assoc] at hc
    rwa [List.head?_append_of_ne_nil _ hne] at hc
  have hlast : ∀ c ∈ (scheme ++ "://" ++ userInfo ++ "@" ++ ipv6Host address ++ ":" ++
      toString port.toNat).toList.getLast?, RustText.isWhitespace c = false := by
    have hne : (toString port.toNat).toList ≠ [] := by
      rw [toList_toString]
      exact Nat.toDigits_ne_nil
    intro c hc
    refine getLast_toString port.toNat c ?_
    rw [String.toList_append] at hc
    rwa [List.getLast?_append_of_ne_nil _ hne] at hc
  have htext : scheme ++ "://" ++
      toUriWithoutSchemePreencodedUserinfo address port userInfo query remark =
        (scheme ++ "://" ++ userInfo ++ "@" ++ ipv6Host address ++ ":" ++ toString port.toNat) ++
          (formatQuery query ++ formatRemark remark) := by
    rw [toUriWithoutSchemePreencodedUserinfo, toString_port hport]
    simp only [String.append_assoc]
  rw [htext, trim_append hhead hlast]
  · rfl
  · intro hempty
    have hlist := congrArg String.toList hempty
    simp at hlist

theorem mem_trim {text : String} {c : Char} (h : c ∈ text.toList) :
    RustText.isWhitespace c = true ∨ c ∈ (RustText.trim text).toList := by
  rw [RustText.trim, String.toList_ofList]
  rw [← List.takeWhile_append_dropWhile (p := RustText.isWhitespace) (l := text.toList),
    List.mem_append] at h
  obtain h | h := h
  · exact .inl (List.mem_takeWhile_imp h)
  · rw [← List.rdropWhile_append_rtakeWhile (p := RustText.isWhitespace)
      (l := text.toList.dropWhile RustText.isWhitespace), List.mem_append] at h
    obtain h | h := h
    · exact .inr h
    · exact .inl (List.mem_rtakeWhile_imp h)

theorem ipv6Host_chars {address : String} (hvalid : validHost address = true) :
    ∀ c ∈ (ipv6Host address).toList, isAuthorityBreak c = false := by
  have haddress : ∀ c ∈ address.toList, isAuthorityBreak c = false := by
    intro c hc
    have hbreak : ∀ c, isAuthorityBreak c = true → isHostBreak c = true := by
      intro c hc
      simp only [isAuthorityBreak, List.contains_iff_mem, List.mem_cons, List.not_mem_nil,
        or_false] at hc
      obtain rfl | rfl | rfl | rfl | rfl := hc <;> decide
    have hclean : RustText.containsChar (RustText.trim address) isHostBreak = false := by
      unfold validHost at hvalid
      dsimp only at hvalid
      split at hvalid
      next => cases hvalid
      next hnot =>
        rw [Bool.eq_false_iff]
        intro hbreaks
        exact hnot (by simp [hbreaks])
    rw [Bool.eq_false_iff]
    intro hauthority
    obtain hspace | htrim := mem_trim hc
    · simp only [isAuthorityBreak, List.contains_iff_mem, List.mem_cons, List.not_mem_nil,
        or_false] at hauthority
      obtain rfl | rfl | rfl | rfl | rfl := hauthority <;> exact absurd hspace (by decide)
    · have hany := List.any_eq_false.mp hclean c htrim
      exact hany (hbreak c hauthority)
  intro c hc
  unfold ipv6Host at hc
  split at hc
  next => exact haddress c hc
  next =>
    split at hc
    next =>
      simp only [String.toList_append, List.mem_append] at hc
      obtain (hc | hc) | hc := hc
      · obtain rfl : c = '[' := by simpa using hc
        decide
      · exact haddress c hc
      · obtain rfl : c = ']' := by simpa using hc
        decide
    next => exact haddress c hc

theorem exportedTail_starts (query : QueryPairs) (remark : String) :
    exportedTail query remark = "" ∨ RustText.startsWith (exportedTail query remark) "?" = true ∨
      RustText.startsWith (exportedTail query remark) "#" = true := by
  have hstarts : ∀ (c : Char) (rest : String), RustText.isWhitespace c = false →
      RustText.startsWith (String.ofList ((String.singleton c ++ rest).toList.rdropWhile
        RustText.isWhitespace)) (String.singleton c) = true := by
    intro c rest hc
    rw [String.toList_append, String.toList_singleton, rdropWhile_append_kept]
    · rw [String.ofList_append]
      exact RustText.startsWith_append _ _
    · intro d hd
      obtain rfl : c = d := by simpa using hd
      exact hc
  unfold exportedTail formatQuery
  by_cases hquery : query = []
  · by_cases hremark : remark = ""
    · exact .inl (by simp [hquery, hremark, formatRemark])
    · rw [if_pos hquery, formatRemark, if_neg hremark, String.empty_append]
      exact .inr (.inr (hstarts '#' _ (by decide)))
  · rw [if_neg hquery, String.append_assoc]
    exact .inr (.inl (hstarts '?' _ (by decide)))

theorem exportedLink_readable {scheme userInfo address : String} {port : Int} {query : QueryPairs}
    {remark : String} (hscheme : scheme ∈ linkSchemes) (huser : IsUserInfo userInfo)
    (haddress : validHost address = true ∧ 1 ≤ port ∧ port ≤ 65535) :
    (exportedLink scheme userInfo address port query remark).Readable where
  scheme := hscheme
  userInfo := huser
  hostChars := ipv6Host_chars haddress.1
  port_pos := by
    show 1 ≤ port.toNat
    omega
  port_le := by
    show port.toNat ≤ 65535
    omega
  tail := exportedTail_starts query remark

theorem parseUri_exported {crates : Crates} {hostParse : String → Except String String}
    (hreads : ReadsLinks crates.urlParse hostParse) {link : LinkText} (hlink : link.Readable)
    {protocol : String} {schemes : List String} (hscheme : link.scheme ∈ schemes)
    {parsed : ParsedUri} :
    parseUriWithSchemes crates link.text protocol schemes = .ok parsed ↔
      ∃ host, hostParse link.host = .ok host ∧ readHost host ≠ "" ∧ parsed =
        parsedLink link host := by
  rw [parseUriWithSchemes, hreads.link link hlink]
  cases hhost : hostParse link.host with
  | error reason => simp [Except.map]
  | ok host =>
    simp only [Except.map, Except.ok.injEq, exists_eq_left']
    exact readUrl_ok_iff hscheme hlink.port_pos

end Export

end Links

section Splitter

/-- A host name as it stands; other hosts are refused. -/
def nameHost (host : String) : Except String String :=
  if host ≠ "" ∧ host.toList.all (fun c => isLabelChar c || c == '.') then .ok host
  else .error "invalid host"

/-- A link split at its separators, for hosts that are names. -/
def splitLink (text : String) : Except String Url :=
  let scheme := text.toList.takeWhile (· != ':')
  let rest := text.toList.drop (scheme.length + 3)
  let authority := rest.takeWhile fun c => !(c == '?' || c == '#')
  let tail := rest.drop authority.length
  let userInfo := authority.takeWhile (· != '@')
  let hostPort := authority.drop (userInfo.length + 1)
  let port := hostPort.rtakeWhile (· != ':')
  let host := hostPort.take (hostPort.length - port.length - 1)
  match RustText.parseDigits 0 port with
  | none => .error "invalid port number"
  | some port =>
    let link : LinkText := ⟨String.ofList scheme, String.ofList userInfo, String.ofList host, port,
      String.ofList tail⟩
    (nameHost link.host).map link.url

theorem takeWhile_append_stop {p : Char → Bool} {head tail : List Char}
    (hhead : ∀ c ∈ head, p c = true) (htail : ∀ c ∈ tail.head?, p c = false) :
    (head ++ tail).takeWhile p = head := by
  rw [List.takeWhile_append_of_pos hhead]
  cases tail with
  | nil => simp
  | cons c cs =>
    rw [List.takeWhile_cons_of_neg, List.append_nil]
    simp [htail c (by simp)]

theorem rtakeWhile_append_stop {p : Char → Bool} {head tail : List Char} {c : Char}
    (htail : ∀ c ∈ tail, p c = true) (hc : p c = false) :
    (head ++ c :: tail).rtakeWhile p = tail := by
  rw [List.rtakeWhile, List.reverse_append, List.reverse_cons, List.append_assoc,
    takeWhile_append_stop, List.reverse_reverse]
  · intro d hd
    exact htail d (List.mem_reverse.mp hd)
  · intro d hd
    obtain rfl : c = d := by simpa using hd
    exact hc

theorem isUserInfoChar_breaks {c : Char} (h : isUserInfoChar c = true) :
    c ≠ '@' ∧ c ≠ '?' ∧ c ≠ '#' := by
  refine ⟨?_, ?_, ?_⟩ <;> rintro rfl <;> exact absurd h (by decide)

theorem isAuthorityBreak_breaks {c : Char} (h : isAuthorityBreak c = false) :
    c ≠ '@' ∧ c ≠ '?' ∧ c ≠ '#' := by
  refine ⟨?_, ?_, ?_⟩ <;> rintro rfl <;> exact absurd h (by decide)

theorem digit_breaks {c : Char} (h : 48 ≤ c.toNat ∧ c.toNat ≤ 57) :
    c ≠ ':' ∧ c ≠ '@' ∧ c ≠ '?' ∧ c ≠ '#' := by
  refine ⟨?_, ?_, ?_, ?_⟩ <;> rintro rfl <;> exact absurd h (by decide)

theorem linkSchemes_colon {scheme : String} (h : scheme ∈ linkSchemes) :
    ∀ c ∈ scheme.toList, (c != ':') = true := by
  have hall : (linkSchemes.all fun scheme => scheme.toList.all (· != ':')) = true := by
    decide +kernel
  exact fun c hc => List.all_eq_true.mp (List.all_eq_true.mp hall scheme h) c hc

theorem tail_head {tail : String} (h : tail = "" ∨ RustText.startsWith tail "?" = true ∨
    RustText.startsWith tail "#" = true) :
    ∀ c ∈ tail.toList.head?, (!(c == '?' || c == '#')) = false := by
  intro c hc
  obtain rfl | h | h := h
  · simp at hc
  · obtain ⟨rest, rfl⟩ := (RustText.startsWith_iff _ _).mp h
    obtain rfl : '?' = c := by simpa using hc
    decide
  · obtain ⟨rest, rfl⟩ := (RustText.startsWith_iff _ _).mp h
    obtain rfl : '#' = c := by simpa using hc
    decide

theorem splitLink_reads : ReadsLinks splitLink nameHost where
  link := by
    intro link hlink
    let port := (toString link.port).toList
    let hostPort := link.host.toList ++ ':' :: port
    let authority := link.userInfo.toList ++ '@' :: hostPort
    have htext : link.text.toList =
        link.scheme.toList ++ ':' :: ('/' :: '/' :: (authority ++ link.tail.toList)) := by
      simp [LinkText.text, authority, hostPort, port]
    have hscheme : link.text.toList.takeWhile (· != ':') = link.scheme.toList := by
      rw [htext]
      exact takeWhile_append_stop (linkSchemes_colon hlink.scheme) (by simp)
    have hrest : link.text.toList.drop (link.scheme.toList.length + 3) =
        authority ++ link.tail.toList := by
      rw [htext, ← List.drop_drop, List.drop_left]
      rfl
    have hauthority : (authority ++ link.tail.toList).takeWhile
        (fun c => !(c == '?' || c == '#')) = authority := by
      refine takeWhile_append_stop ?_ (tail_head hlink.tail)
      intro c hc
      have hbreaks : c ≠ '?' ∧ c ≠ '#' := by
        simp only [authority, hostPort, List.mem_append, List.mem_cons] at hc
        obtain hc | rfl | hc | rfl | hc := hc
        · exact (isUserInfoChar_breaks (hlink.userInfo.chars c hc)).2
        · decide
        · exact (isAuthorityBreak_breaks (hlink.hostChars c hc)).2
        · decide
        · exact (digit_breaks (isDigit_of_mem_toString hc)).2.2
      simp [hbreaks.1, hbreaks.2]
    have huser : authority.takeWhile (· != '@') = link.userInfo.toList := by
      refine takeWhile_append_stop ?_ (by simp)
      intro c hc
      simpa using (isUserInfoChar_breaks (hlink.userInfo.chars c hc)).1
    have hhostPort : authority.drop (link.userInfo.toList.length + 1) = hostPort := by
      rw [← List.drop_drop, List.drop_left]
      rfl
    have hport : hostPort.rtakeWhile (· != ':') = port := by
      refine rtakeWhile_append_stop ?_ (by decide)
      intro c hc
      simpa using (digit_breaks (isDigit_of_mem_toString hc)).1
    have hhost : hostPort.take (hostPort.length - port.length - 1) = link.host.toList := by
      have hlen : hostPort.length - port.length - 1 = link.host.toList.length := by
        simp only [hostPort, List.length_append, List.length_cons]
        omega
      rw [hlen, List.take_left]
    have hparse : RustText.parseDigits 0 port = some link.port := by
      rw [show port = Nat.toDigits 10 link.port from toList_toString link.port]
      exact parseDigits_toDigits link.port
    rw [splitLink, hscheme, hrest, hauthority, huser, hhostPort, hport, hhost, hparse,
      List.drop_left]
    simp only [String.ofList_toList]

/-- Crates that split links at their separators and read no JSON. -/
def plainCrates : Crates where
  urlParse := splitLink
  readJson := fun _ => .error "expected value"
  compactJson := fun _ => ""
  prettyJson := fun _ => ""

end Splitter

section Dispatch

def formatParse (crates : Crates) (scheme : String) : String → Except ShareError ProfileItem :=
  if scheme = "ss" then shadowsocksParse crates
  else if scheme = "socks" then socksParse crates
  else if scheme = "vless" then vlessParse crates
  else if scheme = "trojan" then trojanParse crates
  else if scheme = "hysteria2" then hysteria2Parse crates
  else if scheme = "tuic" then tuicParse crates
  else if scheme = "wireguard" then wireguardParse crates
  else if scheme = "anytls" then anytlsParse crates
  else naiveParse crates

theorem parseShareLink_scheme (crates : Crates) {input scheme rest : String}
    (hscheme : scheme ∈ linkSchemes) (htext : RustText.trim input = scheme ++ "://" ++ rest) :
    parseShareLink crates input = formatParse crates scheme (RustText.trim input) := by
  have hne : RustText.trim input ≠ "" := by
    intro hempty
    rw [hempty] at htext
    have hlist := congrArg String.toList htext
    simp at hlist
  simp only [parseShareLink, hne, if_false]
  generalize RustText.trim input = trimmed at htext
  subst htext
  simp only [linkSchemes, List.mem_cons, List.not_mem_nil, or_false] at hscheme
  simp only [startsWithCi, String.toList_append]
  obtain rfl | rfl | rfl | rfl | rfl | rfl | rfl | rfl | rfl | rfl := hscheme
  all_goals rfl

end Dispatch

section Reading

variable {crates : Crates} {hostParse : String → Except String String}

/-- The format of a link's scheme reads the link as it is written, trimmed after its port. -/
theorem parseShareLink_exported {scheme userInfo address : String} {port : Int}
    {query : QueryPairs} {remark : String} (hscheme : scheme ∈ linkSchemes) (hport : 1 ≤ port) :
    parseShareLink crates (scheme ++ "://" ++
      toUriWithoutSchemePreencodedUserinfo address port userInfo query remark) =
        formatParse crates scheme (exportedLink scheme userInfo address port query
          remark).text := by
  have htrim := @trim_link scheme userInfo address port query remark hscheme hport
  have hrest : (exportedLink scheme userInfo address port query remark).text =
      scheme ++ "://" ++ (userInfo ++ "@" ++ ipv6Host address ++ ":" ++ toString port.toNat ++
        exportedTail query remark) := by
    simp [LinkText.text, exportedLink, String.append_assoc]
  rw [parseShareLink_scheme crates hscheme (htrim.trans hrest), htrim]

/-- The address is one whose text in a link reads back as a host that passes the address check. -/
def HostAccepted (hostParse : String → Except String String) (address : String) : Prop :=
  ∃ host, hostParse (ipv6Host address) = .ok host ∧ validHost (readHost host) = true

theorem linkParse_exported (hreads : ReadsLinks crates.urlParse hostParse) {link : LinkText}
    (hlink : link.Readable) {protocol : String} {schemes : List String}
    (hscheme : link.scheme ∈ schemes) {fill : ParsedUri → Except ShareError ProfileItem}
    (hfill : ∀ parsed item, fill parsed = .ok item →
      item.address = parsed.address ∧ item.port = parsed.port)
    {required : List (String × (ProfileItem → String))} {back : ProfileItem} :
    linkParse crates protocol schemes fill required link.text = .ok back ↔
      ∃ host, hostParse link.host = .ok host ∧ validHost (readHost host) = true ∧
        fill (parsedLink link host) = .ok back ∧ ∀ field ∈ required, field.2 back ≠ "" := by
  rw [linkParse_ok_iff]
  constructor
  · rintro ⟨parsed, hparsed, hback, ⟨hvalid, -, -⟩, hrequired⟩
    obtain ⟨host, hhost, -, rfl⟩ := (parseUri_exported hreads hlink hscheme).mp hparsed
    refine ⟨host, hhost, ?_, hback, hrequired⟩
    rw [(hfill _ _ hback).1] at hvalid
    exact hvalid
  · rintro ⟨host, hhost, hvalid, hback, hrequired⟩
    obtain ⟨haddress, hport⟩ := hfill _ _ hback
    have hrange : 1 ≤ (parsedLink link host).port ∧ (parsedLink link host).port ≤ 65535 := by
      have hpos := hlink.port_pos
      have hle := hlink.port_le
      constructor
      · exact Int.ofNat_le.mpr hpos
      · exact Int.ofNat_le.mpr hle
    refine ⟨parsedLink link host, (parseUri_exported hreads hlink hscheme).mpr
      ⟨host, hhost, validHost_ne_empty hvalid, rfl⟩, hback, ⟨?_, ?_, ?_⟩, hrequired⟩
    · rw [haddress]
      exact hvalid
    · rw [hport]
      exact hrange.1
    · rw [hport]
      exact hrange.2

@[simp] theorem parsedLink_userInfo (scheme userInfo address : String) (port : Int)
    (query : QueryPairs) (remark host : String) :
    (parsedLink (exportedLink scheme userInfo address port query remark) host).userInfo =
      readUserInfo userInfo := rfl

/-- When an exported link is read: its host reads back, and the format accepts the profile that
its parts give. -/
theorem parseShareLink_ok_iff (hreads : ReadsLinks crates.urlParse hostParse)
    {scheme userInfo address : String} {port : Int} {query : QueryPairs} {remark : String}
    (hscheme : scheme ∈ linkSchemes) (huser : IsUserInfo userInfo)
    (haddress : validHost address = true ∧ 1 ≤ port ∧ port ≤ 65535)
    {protocol : String} {schemes : List String} {fill : ParsedUri → Except ShareError ProfileItem}
    {required : List (String × (ProfileItem → String))}
    (hformat : formatParse crates scheme = linkParse crates protocol schemes fill required)
    (hmem : scheme ∈ schemes)
    (hfill : ∀ parsed item, fill parsed = .ok item →
      item.address = parsed.address ∧ item.port = parsed.port) {back : ProfileItem} :
    parseShareLink crates (scheme ++ "://" ++
      toUriWithoutSchemePreencodedUserinfo address port userInfo query remark) = .ok back ↔
        ∃ host, hostParse (ipv6Host address) = .ok host ∧ validHost (readHost host) = true ∧
          fill (parsedLink (exportedLink scheme userInfo address port query remark) host) =
            .ok back ∧ ∀ field ∈ required, field.2 back ≠ "" := by
  have hreadable := @exportedLink_readable scheme userInfo address port query remark hscheme huser
    haddress
  rw [parseShareLink_exported hscheme haddress.2.1, hformat]
  exact linkParse_exported hreads hreadable hmem hfill

end Reading

end LinkReading
