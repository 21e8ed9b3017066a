import VoyaVPN.Base64Text

/-! The user names and passwords of socks, tuic and naive links: which of them an exported link
gives back. -/
namespace CredentialLinks

open Entities ShareCommon ShareUri StreamQuery ShareFormats LinkReading

variable {crates : Crates} {hostParse : String → Except String String}

section Formats

/-- The credentials of a profile that its link gives back: no user name holds a colon, which the
link also puts between the two parts, and the text in base64 is one that is still read. -/
def CredentialsKept (item : ProfileItem) : Prop :=
  match item.protocol with
  | .socks _ username password =>
    ':' ∉ username.toList ∧ byteLen (username ++ ":" ++ password) ≤ Base64Text.maxEncodedLen
  | .tuic _ uuid _ _ => ':' ∉ uuid.toList
  | .naive _ username password .. =>
    ':' ∉ username.toList ∧ (username = "" → ':' ∉ password.toList)
  | _ => True

def GivesBack (crates : Crates) (item : ProfileItem) (link : String) : Prop :=
  ∃ back, parseShareLink crates link = .ok back ∧ back.username = item.username ∧
    back.password = item.password

/-- Two texts around a colon are told apart again when the first has no colon of its own. -/
theorem splitOnce_credentials (username password : String) :
    RustText.splitOnce (username ++ ":" ++ password) ':' = some (username, password) ↔
      ':' ∉ username.toList := by
  constructor
  · intro h
    exact (splitOnce_some h).2
  · intro h
    exact splitOnce_append h password

theorem splitOnce_isSome {text : String} {c : Char} (h : c ∈ text.toList) :
    ∃ first second, RustText.splitOnce text c = some (first, second) := by
  obtain ⟨head, tail, htext, hhead⟩ := List.eq_append_cons_of_mem h
  have hstring : text = String.ofList head ++ String.singleton c ++ String.ofList tail := by
    rw [String.ext_iff, htext]
    simp
  refine ⟨String.ofList head, String.ofList tail, ?_⟩
  rw [hstring]
  exact splitOnce_append (by simpa using hhead) _

theorem splitOnce_eq_none_iff {text : String} {c : Char} :
    RustText.splitOnce text c = none ↔ c ∉ text.toList := by
  constructor
  · intro hnone hmem
    obtain ⟨first, second, hsome⟩ := splitOnce_isSome hmem
    rw [hsome] at hnone
    cases hnone
  · exact splitOnce_none

/-- Whatever the colon splits, the first part is the user name only when it has no colon. -/
theorem split_username_iff {username password first second : String}
    (hsplit : RustText.splitOnce (username ++ ":" ++ password) ':' = some (first, second)) :
    (first = username ∧ second = password) ↔ ':' ∉ username.toList := by
  rw [← splitOnce_credentials username password, hsplit]
  simp

/-- A reader that takes the same two texts from the link on every host, under a condition of its
own, gives the credentials back when these are the texts. -/
theorem givesBack_of_reads {item : ProfileItem} {link first second : String} {readable : Prop}
    {read : String → Except ShareError ProfileItem}
    {required : List (String × (ProfileItem → String))}
    (hparse : ∀ back, parseShareLink crates link = .ok back ↔
      ∃ host, hostParse (ipv6Host item.address) = .ok host ∧ validHost (readHost host) = true ∧
        read host = .ok back ∧ ∀ field ∈ required, field.2 back ≠ "")
    (hread : ∀ host, readable → ∃ back, read host = .ok back)
    (htexts : ∀ host back, read host = .ok back →
      readable ∧ back.username = first ∧ back.password = second)
    (hrequired : ∀ back : ProfileItem, back.username = item.username →
      back.password = item.password → ∀ field ∈ required, field.2 back ≠ "") :
    GivesBack crates item link ↔ HostAccepted hostParse item.address ∧
      (first = item.username ∧ second = item.password) ∧ readable := by
  unfold GivesBack HostAccepted
  constructor
  · rintro ⟨back, hback, hsameName, hsamePassword⟩
    obtain ⟨host, hhost, hvalid, hprofile, _⟩ := (hparse back).mp hback
    obtain ⟨hreadable, hname, hpassword⟩ := htexts host back hprofile
    exact ⟨⟨host, hhost, hvalid⟩, ⟨hname.symm.trans hsameName, hpassword.symm.trans hsamePassword⟩,
      hreadable⟩
  · rintro ⟨⟨host, hhost, hvalid⟩, ⟨hsameName, hsamePassword⟩, hreadable⟩
    obtain ⟨back, hprofile⟩ := hread host hreadable
    obtain ⟨_, hname, hpassword⟩ := htexts host back hprofile
    have hnameBack := hname.trans hsameName
    have hpasswordBack := hpassword.trans hsamePassword
    exact ⟨back, (hparse back).mpr ⟨host, hhost, hvalid, hprofile,
      hrequired back hnameBack hpasswordBack⟩, hnameBack, hpasswordBack⟩

end Formats

section Socks

theorem socksCredentials_encoded (username password : String) :
    socksCredentials (base64Encode (username ++ ":" ++ password) true) =
      if byteLen (username ++ ":" ++ password) ≤ Base64Text.maxEncodedLen then
        .ok ((RustText.splitOnce (username ++ ":" ++ password) ':').getD ("", ""))
      else .error (.invalidBase64 "socks") := by
  have hne : username ++ ":" ++ password ≠ "" := by
    intro hempty
    have hlist := congrArg String.toList hempty
    simp at hlist
  have hcolon : ':' ∉ (base64Encode (username ++ ":" ++ password) true).toList := by
    intro hmem
    obtain ⟨n, hn, hc⟩ := Base64Text.base64Encode_chars hmem
    exact (Base64Text.symbol_facts n hn).2.2.2.2.1 hc.symm
  rw [socksCredentials, if_neg (Base64Text.base64Encode_ne_empty hne), splitOnce_none hcolon]
  dsimp only
  rw [Base64Text.base64Decode_base64Encode]
  split
  · rfl
  · rfl

theorem socksProfile_endpoint (parsed : ParsedUri) (item : ProfileItem)
    (h : socksProfile parsed = .ok item) :
    item.address = parsed.address ∧ item.port = parsed.port := by
  unfold socksProfile at h
  cases hread : socksCredentials parsed.userInfo with
  | error e =>
    rw [hread] at h
    cases h
  | ok credentials =>
    rw [hread] at h
    cases h
    exact ⟨rfl, rfl⟩

theorem socks_givesBack (hreads : ReadsLinks crates.urlParse hostParse) {item : ProfileItem}
    {server : ServerEndpoint} {username password link : String}
    (hitem : item.protocol = .socks server username password)
    (hexport : socksExport item = .ok link) :
    GivesBack crates item link ↔ HostAccepted hostParse item.address ∧ CredentialsKept item := by
  obtain ⟨-, haddress, -, hlink⟩ := linkExport_ok_iff.mp hexport
  have husername : item.username = username := by
    rw [ProfileItem.username, hitem]
    rfl
  have hpassword : item.password = password := by
    rw [ProfileItem.password, hitem]
    rfl
  have hkept : CredentialsKept item ↔ ':' ∉ username.toList ∧
      byteLen (username ++ ":" ++ password) ≤ Base64Text.maxEncodedLen := by
    rw [CredentialsKept, hitem]
  have htext : link = "socks" ++ "://" ++ toUriWithoutSchemePreencodedUserinfo
    item.address item.port
      (urlEncode (base64Encode (username ++ ":" ++ password) true)) [] item.remarks := by
    simp only [socksLink, Option.some.injEq, husername, hpassword] at hlink
    exact hlink.symm
  have hcolon : ':' ∈ (username ++ ":" ++ password).toList := by simp
  have hne : base64Encode (username ++ ":" ++ password) true ≠ "" := by
    refine Base64Text.base64Encode_ne_empty fun hempty => ?_
    rw [hempty] at hcolon
    simp at hcolon
  obtain ⟨first, second, hsplit⟩ := splitOnce_isSome hcolon
  have hcredentials := socksCredentials_encoded username password
  rw [hsplit] at hcredentials
  have hformat : formatParse crates "socks" =
      linkParse crates "socks" ["socks", "socks5", "socks4"] socksProfile [] := by
    rw [formatParse, if_neg (by decide), if_pos (by decide)]
    rfl
  have hparse := fun back => @parseShareLink_ok_iff crates hostParse hreads "socks" _ item.address
    item.port [] item.remarks (by decide) (isUserInfo_encoded hne) haddress "socks" ["socks",
      "socks5", "socks4"] socksProfile [] hformat (by decide)
    socksProfile_endpoint back
  rw [← htext] at hparse
  rw [hkept, ← split_username_iff hsplit, ← husername, ← hpassword]
  refine givesBack_of_reads hparse ?_ ?_ fun _ _ _ field hfield => absurd hfield List.not_mem_nil
  · intro host hshort
    rw [husername, hpassword] at hshort
    rw [socksProfile, parsedLink_userInfo, readUserInfo_encoded, hcredentials, if_pos hshort]
    exact ⟨_, rfl⟩
  · intro host back hprofile
    rw [socksProfile, parsedLink_userInfo, readUserInfo_encoded, hcredentials] at hprofile
    rw [husername, hpassword]
    split at hprofile
    next hshort =>
      cases hprofile
      exact ⟨hshort, rfl, rfl⟩
    next => cases hprofile

end Socks

theorem usernameField_apply (item : ProfileItem) : usernameField.2 item = item.username := rfl

theorem passwordField_apply (item : ProfileItem) : passwordField.2 item = item.password := rfl

section Tuic

theorem tuicProfile_credentials {parsed : ParsedUri} {first second : String}
    (hsplit : RustText.splitOnce parsed.userInfo ':' = some (first, second)) :
    (tuicProfile crates parsed).username = first ∧
      (tuicProfile crates parsed).password = second := by
  unfold tuicProfile streamProfile
  rw [hsplit]
  exact ⟨rfl, rfl⟩

theorem tuicProfile_endpoint (parsed : ParsedUri) (item : ProfileItem)
    (h : (.ok (tuicProfile crates parsed) : Except ShareError ProfileItem) = .ok item) :
    item.address = parsed.address ∧ item.port = parsed.port := by
  cases h
  unfold tuicProfile streamProfile
  cases RustText.splitOnce parsed.userInfo ':' with
  | none => exact ⟨rfl, rfl⟩
  | some parts => exact ⟨rfl, rfl⟩

theorem tuic_givesBack (hreads : ReadsLinks crates.urlParse hostParse) {item : ProfileItem}
    {server : ServerEndpoint} {uuid password link : String} {congestionControl : Option String}
    (hitem : item.protocol = .tuic server uuid password congestionControl)
    (hexport : tuicExport item = .ok link) :
    GivesBack crates item link ↔ HostAccepted hostParse item.address ∧ CredentialsKept item := by
  obtain ⟨-, haddress, hrequired, hlink⟩ := linkExport_ok_iff.mp hexport
  have husername : item.username = uuid := by
    rw [ProfileItem.username, hitem]
    rfl
  have hpassword : item.password = password := by
    rw [ProfileItem.password, hitem]
    rfl
  have hkept : CredentialsKept item ↔ ':' ∉ uuid.toList := by
    rw [CredentialsKept, hitem]
  have htext : link = "tuic" ++ "://" ++ toUriWithoutSchemePreencodedUserinfo item.address item.port
      (urlEncode (uuid ++ ":" ++ password)) (tuicPairs item congestionControl) item.remarks := by
    rw [tuicLink, hitem] at hlink
    exact (Option.some.inj hlink).symm
  have hcolon : ':' ∈ (uuid ++ ":" ++ password).toList := by simp
  have hne : uuid ++ ":" ++ password ≠ "" := by
    intro hempty
    rw [hempty] at hcolon
    simp at hcolon
  obtain ⟨first, second, hsplit⟩ := splitOnce_isSome hcolon
  have hformat : formatParse crates "tuic" = linkParse crates "tuic" ["tuic"]
      (fun parsed => .ok (tuicProfile crates parsed)) [usernameField, passwordField] := by
    rw [formatParse, if_neg (by decide), if_neg (by decide), if_neg (by decide), if_neg (by decide),
      if_neg (by decide), if_pos (by decide)]
    rfl
  have hparse := fun back => @parseShareLink_ok_iff crates hostParse hreads "tuic" _ item.address
    item.port (tuicPairs item congestionControl) item.remarks (by decide) (isUserInfo_encoded hne)
    haddress "tuic" ["tuic"] _ [usernameField, passwordField]
    hformat (by decide) tuicProfile_endpoint back
  rw [← htext] at hparse
  rw [hkept, ← split_username_iff hsplit, ← husername, ← hpassword]
  refine (givesBack_of_reads hparse (fun host _ => ⟨_, rfl⟩) ?_ ?_).trans (by rw [and_true])
  · intro host back hprofile
    cases hprofile
    refine ⟨trivial, tuicProfile_credentials ?_⟩
    rw [parsedLink_userInfo, readUserInfo_encoded]
    exact hsplit
  · intro back hname hpass field hfield
    simp only [List.mem_cons, List.not_mem_nil, or_false] at hfield
    obtain rfl | rfl := hfield
    · rw [usernameField_apply, hname]
      exact hrequired usernameField (by simp)
    · rw [passwordField_apply, hpass]
      exact hrequired passwordField (by simp)

end Tuic

section Naive

theorem naiveProfile_credentials (parsed : ParsedUri) :
    (naiveProfile crates parsed).username = (naiveCredentials parsed.userInfo).1 ∧
      (naiveProfile crates parsed).password = (naiveCredentials parsed.userInfo).2 :=
  ⟨rfl, rfl⟩

theorem naiveProfile_endpoint (parsed : ParsedUri) (item : ProfileItem)
    (h : (.ok (naiveProfile crates parsed) : Except ShareError ProfileItem) = .ok item) :
    item.address = parsed.address ∧ item.port = parsed.port := by
  cases h
  exact ⟨rfl, rfl⟩

/-- What the user information of a naive link reads as, the password not empty. -/
theorem naiveCredentials_iff {username password : String} (h : password ≠ "") :
    naiveCredentials (readUserInfo (naiveUserInfo username password)) = (username, password) ↔
      ':' ∉ username.toList ∧ (username = "" → ':' ∉ password.toList) := by
  unfold naiveUserInfo naiveCredentials
  by_cases hname : username = ""
  · subst hname
    rw [if_pos rfl, readUserInfo_encoded]
    cases hsplit : RustText.splitOnce password ':' with
    | none =>
      have hcolon := splitOnce_eq_none_iff.mp hsplit
      simp [hcolon]
    | some parts =>
      obtain ⟨first, second⟩ := parts
      obtain ⟨htext, -⟩ := splitOnce_some hsplit
      have hcolon : ':' ∈ password.toList := by
        rw [htext]
        simp
      have hshorter : (first, second) ≠ ("", password) := by
        rintro heq
        cases heq
        have hlength := congrArg (fun text => text.toList.length) htext
        simp at hlength
      simp [hcolon, hshorter]
  · rw [if_neg hname, readUserInfo_pair h]
    obtain ⟨first, second, hsplit⟩ := splitOnce_isSome
      (show ':' ∈ (username ++ ":" ++ password).toList by simp)
    rw [hsplit, ← split_username_iff hsplit]
    simp [hname]

theorem isUserInfo_naive (username : String) {password : String} (h : password ≠ "") :
    IsUserInfo (naiveUserInfo username password) := by
  unfold naiveUserInfo
  split
  next => exact isUserInfo_encoded h
  next => exact isUserInfo_pair username password

def naiveScheme (quic : Bool) : String := if quic then "naive+quic" else "naive+https"

theorem naiveScheme_mem (quic : Bool) : naiveScheme quic ∈ linkSchemes ∧
    naiveScheme quic ∈ ["naive", "naive+https", "naive+quic"] := by
  cases quic <;> decide

theorem naiveScheme_text (quic : Bool) :
    (if quic then naiveQuicScheme else naiveHttpsScheme) = naiveScheme quic ++ "://" := by
  cases quic <;> decide

theorem formatParse_naive (crates : Crates) (quic : Bool) :
    formatParse crates (naiveScheme quic) = linkParse crates "naive"
      ["naive", "naive+https", "naive+quic"] (fun parsed => .ok (naiveProfile crates parsed))
      [passwordField] := by
  cases quic <;>
  · rw [formatParse, if_neg (by decide), if_neg (by decide), if_neg (by decide), if_neg (by decide),
      if_neg (by decide), if_neg (by decide), if_neg (by decide), if_neg (by decide)]
    rfl

theorem naive_givesBack (hreads : ReadsLinks crates.urlParse hostParse) {item : ProfileItem}
    {server : ServerEndpoint} {username password link : String} {quic udpOverTcp : Bool}
    {congestionControl : Option String} {insecureConcurrency : Option Int}
    (hitem : item.protocol =
      .naive server username password quic congestionControl insecureConcurrency udpOverTcp)
    (hexport : naiveExport crates item = .ok link) :
    GivesBack crates item link ↔ HostAccepted hostParse item.address ∧ CredentialsKept item := by
  obtain ⟨-, haddress, hrequired, hlink⟩ := linkExport_ok_iff.mp hexport
  have husername : item.username = username := by
    rw [ProfileItem.username, hitem]
    rfl
  have hpassword : item.password = password := by
    rw [ProfileItem.password, hitem]
    rfl
  have hne : password ≠ "" := by
    have hpassed : item.password ≠ "" := hrequired passwordField (by simp)
    rwa [hpassword] at hpassed
  have hkept : CredentialsKept item ↔
      ':' ∉ username.toList ∧ (username = "" → ':' ∉ password.toList) := by
    rw [CredentialsKept, hitem]
  let pairs := toUriQuery crates item (some noneText) ++
    mtuPairs "insecure-concurrency" insecureConcurrency
  have htext : link = naiveScheme quic ++ "://" ++ toUriWithoutSchemePreencodedUserinfo item.address
      item.port (naiveUserInfo username password) pairs item.remarks := by
    rw [naiveLink, hitem] at hlink
    rw [← naiveScheme_text]
    exact (Option.some.inj hlink).symm
  have hparse := fun back => @parseShareLink_ok_iff crates hostParse hreads (naiveScheme quic) _
    item.address item.port pairs item.remarks (naiveScheme_mem quic).1
      (isUserInfo_naive username hne)
    haddress "naive" ["naive", "naive+https", "naive+quic"]
    _ [passwordField] (formatParse_naive crates quic) (naiveScheme_mem quic).2 naiveProfile_endpoint
    back
  rw [← htext] at hparse
  rw [hkept, ← naiveCredentials_iff hne, Prod.ext_iff, ← husername, ← hpassword]
  refine (givesBack_of_reads hparse (fun host _ => ⟨_, rfl⟩) ?_ ?_).trans (by rw [and_true])
  · intro host back hprofile
    cases hprofile
    rw [(naiveProfile_credentials _).1, (naiveProfile_credentials _).2, parsedLink_userInfo,
      husername, hpassword]
    exact ⟨trivial, rfl, rfl⟩
  · intro back _ hpass field hfield
    obtain rfl := List.mem_singleton.mp hfield
    rw [passwordField_apply, hpass]
    exact hrequired passwordField (by simp)

end Naive

/-- The three formats with a user name and a password give both back exactly when the host of the
link reads back and no colon moves the border between the two. -/
theorem givesBack_iff (hreads : ReadsLinks crates.urlParse hostParse) {item : ProfileItem}
    (htype : item.configType = .socks ∨ item.configType = .tuic ∨ item.configType = .naive)
    {link : String} (hexport : exportShareLink crates item = .ok link) :
    GivesBack crates item link ↔ HostAccepted hostParse item.address ∧ CredentialsKept item := by
  unfold exportShareLink at hexport
  cases hitem : item.protocol with
  | socks server username password =>
    rw [show item.configType = .socks by rw [ProfileItem.configType, hitem]; rfl] at hexport
    exact socks_givesBack hreads hitem hexport
  | tuic server uuid password congestionControl =>
    rw [show item.configType = .tuic by rw [ProfileItem.configType, hitem]; rfl] at hexport
    exact tuic_givesBack hreads hitem hexport
  | naive server username password quic congestionControl insecureConcurrency udpOverTcp =>
    rw [show item.configType = .naive by rw [ProfileItem.configType, hitem]; rfl] at hexport
    exact naive_givesBack hreads hitem hexport
  | _ =>
    rw [ProfileItem.configType, hitem] at htype
    simp [ProfileProtocol.configType] at htype

def socksItem (username : String) : ProfileItem :=
  { protocol := .socks ⟨"example.com", 1080⟩ username "p" }

theorem givesBack_plain :
    GivesBack plainCrates (socksItem "me") "socks://bWU6cA@example.com:1080" :=
  (@givesBack_iff plainCrates nameHost splitLink_reads (socksItem "me") (.inl rfl) _
    (by decide +kernel)).mpr ⟨⟨"example.com", by decide +kernel, by decide +kernel⟩,
      by decide, by decide⟩

theorem colon_not_givenBack : ∃ link, exportShareLink plainCrates (socksItem "a:b") = .ok link ∧
    ¬GivesBack plainCrates (socksItem "a:b") link := by
  refine ⟨"socks://YTpiOnA@example.com:1080", by decide +kernel, fun hback => ?_⟩
  have hkept := ((socks_givesBack splitLink_reads rfl (by decide +kernel)).mp hback).2
  exact absurd hkept.1 (by decide)

end CredentialLinks
