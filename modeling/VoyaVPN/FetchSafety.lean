import VoyaVPN.SubscriptionFetch

/-! What a subscription fetch sends requests to. The host check knows loopback and link-local
addresses, but neither the unspecified addresses nor IPv4 addresses mapped to IPv6. -/
namespace FetchSafety

open RustText Download SubscriptionFetch

section Hosts

def LocalIpv4 (octets : List Nat) : Prop :=
  octets.head? = some 127 ∨ (octets[0]? = some 169 ∧ octets[1]? = some 254) ∨
    octets = [0, 0, 0, 0]

def mappedOctets : List Nat → Option (List Nat)
  | [0, 0, 0, 0, 0, 0xffff, high, low] => some [high / 256, high % 256, low / 256, low % 256]
  | _ => none

def localhostName (name : List Char) : Prop :=
  name.map Char.toLower = "localhost".toList ∨ ".localhost".toList <:+ name.map Char.toLower

/-- A localhost name, or a loopback, link-local or unspecified address. -/
def LocalHost : Host → Prop
  | .domain name => localhostName (name.toList.rdropWhile (· == '.'))
  | .ipv4 address => LocalIpv4 address.octets
  | .ipv6 address =>
    address.groups = [0, 0, 0, 0, 0, 0, 0, 1] ∨ address.groups = [0, 0, 0, 0, 0, 0, 0, 0] ∨
      (address.groups[0]?.getD 0 &&& 0xffc0) = 0xfe80 ∨
        ∃ octets, mappedOctets address.groups = some octets ∧ LocalIpv4 octets

/-- The local hosts that the check does not know. -/
def Overlooked : Host → Prop
  | .domain _ => False
  | .ipv4 address => address.octets = [0, 0, 0, 0]
  | .ipv6 address =>
    address.groups = [0, 0, 0, 0, 0, 0, 0, 0] ∨
      ∃ octets, mappedOctets address.groups = some octets ∧ LocalIpv4 octets

theorem dropWhile_append_kept {p : Char → Bool} {kept : List Char} {c : Char}
    (hc : p c = false) (front : List Char) :
    (front ++ c :: kept).dropWhile p = front.dropWhile p ++ c :: kept := by
  induction front with
  | nil => simp [hc]
  | cons d front ih =>
    rw [List.cons_append, List.dropWhile_cons, List.dropWhile_cons, ih]
    split <;> rfl

theorem rdropWhile_of_getLast {p : Char → Bool} {cs : List Char} {c : Char}
    (hlast : cs.getLast? = some c) (hc : p c = false) : cs.rdropWhile p = cs := by
  rw [List.rdropWhile_eq_self_iff]
  intro hne hp
  rw [List.getLast?_eq_some_getLast hne, Option.some.injEq] at hlast
  rw [hlast, hc] at hp
  cases hp

/-- A name that ends in the letters of a localhost name keeps them when brackets are taken off. -/
theorem normalized_suffix {name word : List Char} {c : Char} (front : List Char)
    (hname : name = front ++ c :: word) (hc : c ≠ '[') {last : Char}
    (hlast : (c :: word).getLast? = some last) (hbracket : last ≠ ']') :
    (name.dropWhile (· == '[')).rdropWhile (· == ']') =
      front.dropWhile (· == '[') ++ c :: word := by
  rw [hname, dropWhile_append_kept (by simpa using hc)]
  refine rdropWhile_of_getLast ?_ (c := last) (by simpa using hbracket)
  rw [List.getLast?_append, hlast]
  rfl

theorem localhost_starts (c : Char) (cs : List Char) {text word : List Char}
    (hword : word = c :: cs) (hmap : text.map Char.toLower = word) :
    ∃ d ds, text = d :: ds ∧ d.toLower = c ∧ ds.map Char.toLower = cs := by
  rw [hword, List.map_eq_cons_iff] at hmap
  obtain ⟨d, ds, htext, hd, hds⟩ := hmap
  exact ⟨d, ds, htext, hd, hds⟩

theorem getLast_toLower {text : List Char} {c : Char}
    (h : (text.map Char.toLower).getLast? = some c) :
    ∃ d, text.getLast? = some d ∧ d.toLower = c := by
  rw [List.getLast?_map, Option.map_eq_some_iff] at h
  exact h

theorem toLower_bracket {d c : Char} (h : d.toLower = c) (hopen : c ≠ '[') (hclose : c ≠ ']') :
    d ≠ '[' ∧ d ≠ ']' := by
  refine ⟨?_, ?_⟩
  · rintro rfl
    exact hopen h.symm
  · rintro rfl
    exact hclose h.symm

theorem denied_of_localhost {name : String}
    (h : localhostName (name.toList.rdropWhile (· == '.'))) : isDeniedLocalHost name = true := by
  unfold isDeniedLocalHost
  rw [if_pos]
  unfold normalizedHost
  generalize name.toList.rdropWhile (· == '.') = cs at h
  rcases h with hname | ⟨front, hname⟩
  · have hkept : (cs.dropWhile (· == '[')).rdropWhile (· == ']') = cs := by
      obtain ⟨d, ds, hcs, hd, hds⟩ := localhost_starts 'l' "ocalhost".toList rfl hname
      obtain ⟨last, hlast, hlower⟩ := getLast_toLower (c := 't') (by rw [hname]; rfl)
      have hfront := toLower_bracket hd (by decide) (by decide)
      have hback := toLower_bracket hlower (by decide) (by decide)
      rw [hcs] at hlast
      have := normalized_suffix [] hcs hfront.1 hlast hback.2
      rw [this, hcs]
      rfl
    have htext : toAsciiLowercase (String.ofList
        ((cs.dropWhile (· == '[')).rdropWhile (· == ']'))) = "localhost" := by
      rw [hkept, toAsciiLowercase, String.toList_ofList, hname]
      rfl
    rw [htext]
    rfl
  · obtain ⟨before, word, hcs, -, hword⟩ := List.map_eq_append_iff.mp hname.symm
    obtain ⟨d, ds, hwordEq, hd, hds⟩ :=
      localhost_starts '.' "localhost".toList rfl hword
    obtain ⟨last, hlast, hlower⟩ := getLast_toLower (c := 't') (by rw [hword]; rfl)
    have hfront := toLower_bracket hd (by decide) (by decide)
    have hback := toLower_bracket hlower (by decide) (by decide)
    rw [hwordEq] at hcs hlast
    have hkept := normalized_suffix before hcs hfront.1 hlast hback.2
    have hends : endsWith (toAsciiLowercase (String.ofList
        ((cs.dropWhile (· == '[')).rdropWhile (· == ']')))) ".localhost" = true := by
      rw [hkept, endsWith, List.isSuffixOf_iff_suffix, toAsciiLowercase, ← hwordEq]
      simp only [String.toList_ofList, List.map_append, hword]
      exact List.suffix_append _ _
    rw [hends, Bool.or_true]

theorem digitChar_plain : ∀ d < 16, Nat.digitChar d ≠ '[' ∧ Nat.digitChar d ≠ ']' ∧
    Nat.digitChar d ≠ '.' ∧ (Nat.digitChar d).toLower = Nat.digitChar d := by
  decide

def AddressChar (c : Char) : Prop := c ≠ '[' ∧ c ≠ ']' ∧ c.toLower = c

theorem addressChar_of_mem_toDigits {radix n : Nat} (hbase : 1 < radix) (hradix : radix ≤ 16)
    {c : Char} (h : c ∈ Nat.toDigits radix n) : AddressChar c ∧ c ≠ '.' := by
  obtain ⟨ds, htext, hsmall, -⟩ := IpAddr.exists_digits hbase n
  rw [htext, List.mem_map] at h
  obtain ⟨d, hd, rfl⟩ := h
  obtain ⟨hopen, hclose, hdot, hlower⟩ := digitChar_plain d (by have := hsmall d hd; omega)
  exact ⟨⟨hopen, hclose, hlower⟩, hdot⟩

theorem addressChar_dottedOctets {octets : List Nat} {c : Char}
    (h : c ∈ IpAddr.dottedOctets octets) : AddressChar c := by
  obtain ⟨octet, -, hmem⟩ := List.mem_flatMap.mp h
  rcases List.mem_cons.mp hmem with rfl | hmem
  · exact ⟨by decide, by decide, by decide⟩
  · exact (addressChar_of_mem_toDigits (by decide) (by decide) hmem).1

theorem addressChar_displayIpv4 {octets : List Nat} {c : Char}
    (h : c ∈ (IpAddr.displayIpv4 octets).toList) : AddressChar c := by
  cases octets with
  | nil => cases h
  | cons octet octets =>
    rw [IpAddr.toList_displayIpv4, List.mem_append] at h
    rcases h with h | h
    · exact (addressChar_of_mem_toDigits (by decide) (by decide) h).1
    · exact addressChar_dottedOctets h

theorem addressChar_groupsText {groups : List Nat} {c : Char}
    (h : c ∈ IpAddr.groupsText groups) : AddressChar c := by
  cases groups with
  | nil => cases h
  | cons group groups =>
    rcases List.mem_append.mp h with h | h
    · exact (addressChar_of_mem_toDigits (by decide) (by decide) h).1
    · obtain ⟨other, -, hmem⟩ := List.mem_flatMap.mp h
      rcases List.mem_cons.mp hmem with rfl | hmem
      · exact ⟨by decide, by decide, by decide⟩
      · exact (addressChar_of_mem_toDigits (by decide) (by decide) hmem).1

theorem addressChar_serializeIpv6 {groups : List Nat} {c : Char}
    (h : c ∈ (IpAddr.serializeIpv6 groups).toList) : AddressChar c := by
  unfold IpAddr.serializeIpv6 at h
  simp only at h
  split at h
  · simp only [String.toList_append, IpAddr.toList_fmtGroups, List.mem_append] at h
    rcases h with (h | h) | h
    · exact addressChar_groupsText h
    · obtain rfl : c = ':' := by simpa using h
      exact ⟨by decide, by decide, by decide⟩
    · exact addressChar_groupsText h
  · rw [IpAddr.toList_fmtGroups] at h
    exact addressChar_groupsText h

theorem map_toLower_of_address {cs : List Char} (h : ∀ c ∈ cs, AddressChar c) :
    cs.map Char.toLower = cs := by
  calc cs.map Char.toLower = cs.map id := List.map_congr_left fun c hc => (h c hc).2.2
    _ = cs := List.map_id cs

theorem getLast_dottedOctets (octet : Nat) (octets : List Nat) :
    ∃ c, (Nat.toDigits 10 octet ++ IpAddr.dottedOctets octets).getLast? = some c ∧ c ≠ '.' := by
  induction octets generalizing octet with
  | nil =>
    have hne : Nat.toDigits 10 octet ≠ [] := Nat.toDigits_ne_nil
    refine ⟨_, ?_, (addressChar_of_mem_toDigits (n := octet) (by decide) (by decide)
      (List.getLast_mem hne)).2⟩
    rw [IpAddr.dottedOctets, List.flatMap_nil, List.append_nil]
    exact List.getLast?_eq_some_getLast hne
  | cons second octets ih =>
    obtain ⟨c, hlast, hc⟩ := ih second
    refine ⟨c, ?_, hc⟩
    have hcons : IpAddr.dottedOctets (second :: octets) =
        '.' :: (Nat.toDigits 10 second ++ IpAddr.dottedOctets octets) := rfl
    rw [hcons, List.getLast?_append, List.getLast?_cons, hlast]
    rfl

theorem normalizedHost_ipv4 (address : Ipv4Addr) :
    normalizedHost (Host.ipv4 address).text = IpAddr.displayIpv4 address.octets := by
  have hchars : ∀ c ∈ (IpAddr.displayIpv4 address.octets).toList, AddressChar c :=
    fun c hc => addressChar_displayIpv4 hc
  unfold normalizedHost
  show toAsciiLowercase (String.ofList ((((IpAddr.displayIpv4 address.octets).toList.rdropWhile
    (· == '.')).dropWhile (· == '[')).rdropWhile (· == ']'))) = _
  have hdots : (IpAddr.displayIpv4 address.octets).toList.rdropWhile (· == '.') =
      (IpAddr.displayIpv4 address.octets).toList := by
    cases hoctets : address.octets with
    | nil => rfl
    | cons octet octets =>
      rw [IpAddr.toList_displayIpv4]
      obtain ⟨c, hlast, hc⟩ := getLast_dottedOctets octet octets
      exact rdropWhile_of_getLast hlast (by simpa using hc)
  have hopen : (IpAddr.displayIpv4 address.octets).toList.dropWhile (· == '[') =
      (IpAddr.displayIpv4 address.octets).toList := by
    rw [List.dropWhile_eq_self_iff]
    intro hlength hp
    exact (hchars _ (List.getElem_mem hlength)).1 (by simpa using hp)
  have hclose : (IpAddr.displayIpv4 address.octets).toList.rdropWhile (· == ']') =
      (IpAddr.displayIpv4 address.octets).toList := by
    rw [List.rdropWhile_eq_self_iff]
    intro hne hp
    exact (hchars _ (List.getLast_mem hne)).2.1 (by simpa using hp)
  rw [hdots, hopen, hclose, toAsciiLowercase, String.toList_ofList, map_toLower_of_address hchars,
    String.ofList_toList]

theorem normalizedHost_ipv6 (address : Ipv6Addr) :
    normalizedHost (Host.ipv6 address).text = IpAddr.serializeIpv6 address.groups := by
  have hchars : ∀ c ∈ (IpAddr.serializeIpv6 address.groups).toList, AddressChar c :=
    fun c hc => addressChar_serializeIpv6 hc
  have htext : (Host.ipv6 address).text.toList =
      '[' :: ((IpAddr.serializeIpv6 address.groups).toList ++ [']']) := by
    simp [Host.text, String.toList_append]
  unfold normalizedHost
  rw [htext]
  generalize hcs : (IpAddr.serializeIpv6 address.groups).toList = cs at hchars
  have hdots : ('[' :: (cs ++ [']'])).rdropWhile (· == '.') = '[' :: (cs ++ [']']) := by
    refine rdropWhile_of_getLast ?_ (c := ']') (by decide)
    rw [← List.cons_append, List.getLast?_concat]
  have hopen : ('[' :: (cs ++ [']'])).dropWhile (· == '[') = cs ++ [']'] := by
    rw [List.dropWhile_cons_of_pos (by decide), List.dropWhile_eq_self_iff]
    intro hlength hp
    have hmem := List.getElem_mem hlength
    rw [List.mem_append, List.mem_singleton] at hmem
    simp only [beq_iff_eq] at hp
    rw [hp] at hmem
    rcases hmem with hmem | hmem
    · exact (hchars _ hmem).1 rfl
    · exact absurd hmem (by decide)
  have hclose : (cs ++ [']']).rdropWhile (· == ']') = cs := by
    rw [List.rdropWhile_concat_pos _ _ _ (by decide), List.rdropWhile_eq_self_iff]
    intro hne hp
    exact (hchars _ (List.getLast_mem hne)).2.1 (by simpa using hp)
  rw [hdots, hopen, hclose, toAsciiLowercase, String.toList_ofList, map_toLower_of_address hchars,
    ← hcs, String.ofList_toList]

theorem denied_of_parse {host : String} {address : IpAddr.Addr}
    (hparse : IpAddr.parse (normalizedHost host) = some address)
    (hdenied : isDeniedLocalIp address = true) : isDeniedLocalHost host = true := by
  unfold isDeniedLocalHost
  simp only
  split
  · rfl
  · rw [hparse]
    exact hdenied

theorem denied_ipv4 (address : Ipv4Addr) (h : isDeniedLocalIp (.v4 address.octets) = true) :
    isDeniedLocalHost (Host.ipv4 address).text = true := by
  refine denied_of_parse ?_ h
  rw [normalizedHost_ipv4]
  exact IpAddr.parse_displayIpv4 address.four address.small

theorem denied_ipv6 (address : Ipv6Addr) (h : isDeniedLocalIp (.v6 address.groups) = true) :
    isDeniedLocalHost (Host.ipv6 address).text = true := by
  refine denied_of_parse ?_ h
  rw [normalizedHost_ipv6]
  exact IpAddr.parse_serializeIpv6 address.eight address.small

/-- Of the hosts that pass the check, the overlooked ones are the local ones. -/
theorem localHost_iff {host : Host} (hpassed : isDeniedLocalHost host.text = false) :
    LocalHost host ↔ Overlooked host := by
  constructor
  · intro hlocal
    cases host with
    | domain name =>
      rw [show (Host.domain name).text = name from rfl, denied_of_localhost hlocal] at hpassed
      cases hpassed
    | ipv4 address =>
      rcases hlocal with hloopback | hlinkLocal | hunspecified
      · rw [denied_ipv4 address (by simp [isDeniedLocalIp, IpAddr.Addr.isLoopback, hloopback])]
          at hpassed
        cases hpassed
      · rw [denied_ipv4 address (by simp [isDeniedLocalIp, hlinkLocal.1, hlinkLocal.2])] at hpassed
        cases hpassed
      · exact hunspecified
    | ipv6 address =>
      rcases hlocal with hloopback | hunspecified | hlinkLocal | hmapped
      · rw [denied_ipv6 address (by rw [hloopback]; rfl)] at hpassed
        cases hpassed
      · exact .inl hunspecified
      · rw [denied_ipv6 address (by simp [isDeniedLocalIp, hlinkLocal])] at hpassed
        cases hpassed
      · exact .inr hmapped
  · intro hoverlooked
    cases host with
    | domain name => cases hoverlooked
    | ipv4 address => exact .inr (.inr hoverlooked)
    | ipv6 address =>
      rcases hoverlooked with hunspecified | hmapped
      · exact .inr (.inl hunspecified)
      · exact .inr (.inr (.inr hmapped))

end Hosts

section Chains

def Downgrade (source target : Url) : Prop := source.scheme = "https" ∧ target.scheme = "http"

/-- What is expected of the URLs that one request is sent to. -/
structure SafeChain (urls : List Url) : Prop where
  hosts : ∀ url ∈ urls, ∃ host, url.host = some host ∧ ¬LocalHost host
  limit : urls.length ≤ httpRedirectLimit + 1
  noDowngrade : urls.IsChain fun source target => ¬Downgrade source target

def OverlookedUrl (url : Url) : Prop := ∃ host, url.host = some host ∧ Overlooked host

structure Passed (url : Url) : Prop where
  sendable : sendable url = true
  notDenied : urlHasDeniedLocalHost url = false

/-- A request as the policy admits it, to URLs of a given kind. -/
structure Admitted (offered : Url → Prop) (urls : List Url) : Prop where
  passed : ∀ url ∈ urls, Passed url
  offered : ∀ url ∈ urls, offered url
  limit : urls.length ≤ httpRedirectLimit + 1
  noDowngrade : urls.IsChain fun source target => ¬Downgrade source target

theorem Admitted.nil (offered : Url → Prop) : Admitted offered [] where
  passed url hurl := by cases hurl
  offered url hurl := by cases hurl
  limit := Nat.zero_le _
  noDowngrade := List.IsChain.nil

theorem Passed.host {url : Url} (h : Passed url) :
    ∃ host, url.host = some host ∧ isDeniedLocalHost host.text = false := by
  have hsendable := h.sendable
  have hdenied := h.notDenied
  rw [Download.sendable, Bool.and_eq_true] at hsendable
  obtain ⟨host, hhost⟩ := Option.isSome_iff_exists.mp hsendable.2
  refine ⟨host, hhost, ?_⟩
  rw [urlHasDeniedLocalHost, hhost, Option.any_some] at hdenied
  exact hdenied

theorem Admitted.safe_iff {offered : Url → Prop} {urls : List Url} (h : Admitted offered urls) :
    SafeChain urls ↔ ∀ url ∈ urls, ¬OverlookedUrl url := by
  constructor
  · rintro hsafe url hurl ⟨host, hhost, hoverlooked⟩
    obtain ⟨host', hhost', hpassed⟩ := (h.passed url hurl).host
    obtain ⟨host'', hhost'', hremote⟩ := hsafe.hosts url hurl
    rw [hhost, Option.some.injEq] at hhost' hhost''
    subst hhost' hhost''
    exact hremote ((localHost_iff hpassed).mpr hoverlooked)
  · intro hknown
    refine ⟨?_, h.limit, h.noDowngrade⟩
    intro url hurl
    obtain ⟨host, hhost, hpassed⟩ := (h.passed url hurl).host
    refine ⟨host, hhost, ?_⟩
    intro hlocal
    exact hknown url hurl ⟨host, hhost, (localHost_iff hpassed).mp hlocal⟩

theorem validateRedirectAttempt_ok {previous : List Url} {last next : Url}
    (h : validateRedirectAttempt (previous ++ [last]) next = .ok ())
    (hlast : urlHasDeniedLocalHost last = false) :
    previous.length + 1 ≤ httpRedirectLimit ∧ ¬Downgrade last next ∧
      urlHasDeniedLocalHost next = false := by
  unfold validateRedirectAttempt at h
  rw [List.getLast?_concat, List.length_append, List.length_singleton] at h
  split at h
  · cases h
  · rename_i hlimit
    split at h
    · cases h
    · rename_i hnone
      split at h
      · cases h
      · rename_i hlocal
        refine ⟨by omega, ?_, ?_⟩
        · rintro ⟨hsource, htarget⟩
          rw [Option.filter_eq_none_iff] at hnone
          exact hnone last rfl (by simp [hsource, htarget])
        · simpa [hlast] using hlocal

theorem follow_admitted {offered : Url → Prop} {previous : List Url} {current : Url}
    {redirects : List Url} (hredirects : ∀ url ∈ redirects, offered url)
    (h : Admitted offered (previous ++ [current])) :
    Admitted offered (follow previous current redirects).1 := by
  induction redirects generalizing previous current with
  | nil => exact h
  | cons next redirects ih =>
    rw [follow]
    split
    · exact h
    · rename_i hok
      have hcurrent := h.passed current List.mem_concat_self
      obtain ⟨hlimit, hdowngrade, hnext⟩ := validateRedirectAttempt_ok hok hcurrent.notDenied
      split
      · rename_i hsendable
        refine ih (fun url hurl => hredirects url (List.mem_cons_of_mem _ hurl)) ?_
        constructor
        · intro url hurl
          rcases List.mem_append.mp hurl with hurl | hurl
          · exact h.passed url hurl
          · rw [List.mem_singleton.mp hurl]
            exact ⟨hsendable, hnext⟩
        · intro url hurl
          rcases List.mem_append.mp hurl with hurl | hurl
          · exact h.offered url hurl
          · rw [List.mem_singleton.mp hurl]
            exact hredirects next List.mem_cons_self
        · simp only [List.length_append, List.length_singleton]
          omega
        · rw [List.isChain_append]
          refine ⟨h.noDowngrade, List.isChain_singleton next, ?_⟩
          intro last hlast target htarget
          rw [List.getLast?_concat, Option.mem_some_iff] at hlast
          rw [List.head?_cons, Option.mem_some_iff] at htarget
          rw [← hlast, ← htarget]
          exact hdowngrade
      · exact h

end Chains

section Fetches

variable {network : Network} {α : Type}

def urlsOf (fetched : List Fetched) : List Url := fetched.map (·.url)

/-- The URL that a text is read as has passed the check of hosts. -/
def Checked (network : Network) (url : String) : Prop :=
  ∀ parsed, network.urlParse url = .ok parsed → urlHasDeniedLocalHost parsed = false

theorem urlsOf_map (urls : List Url) (userAgent : String) (proxy : Option String) :
    urlsOf (urls.map fun url => { url := url, userAgent := userAgent, proxy := proxy }) = urls := by
  rw [urlsOf, List.map_map]
  exact List.map_id urls

theorem request_admitted {offered : Url → Prop} {exchange : Exchange} {url : String}
    (hchecked : Checked network url)
    (hoffered : ∀ parsed, network.urlParse url = .ok parsed → offered parsed)
    (hredirects : ∀ target ∈ exchange.redirects, offered target) (proxy userAgent : Option String)
    (limit : Nat) (body : DownloadBody α) :
    Admitted offered (urlsOf (request network exchange proxy url userAgent limit body).1) := by
  unfold request
  split
  · exact Admitted.nil offered
  · rename_i parsed hparsed
    split
    · exact Admitted.nil offered
    · rename_i hsendable
      have hstart : Admitted offered ([] ++ [parsed]) := by
        refine ⟨?_, ?_, Nat.le_add_left 1 _, List.isChain_singleton parsed⟩
        · intro url hurl
          rw [List.nil_append, List.mem_singleton] at hurl
          subst hurl
          exact ⟨by simpa using hsendable, hchecked url hparsed⟩
        · intro url hurl
          rw [List.nil_append, List.mem_singleton] at hurl
          subst hurl
          exact hoffered url hparsed
      have hadmitted := follow_admitted hredirects hstart
      rw [← urlsOf_map (follow [] parsed exchange.redirects).1 (requestUserAgent userAgent) proxy]
        at hadmitted
      simp only
      split
      · exact hadmitted
      · split
        · exact hadmitted
        · split
          · exact hadmitted
          · exact hadmitted

theorem attempt_admitted {offered : Url → Prop} {exchange : Exchange} {request' : DownloadRequest}
    (hchecked : Checked network request'.url)
    (hoffered : ∀ parsed, network.urlParse request'.url = .ok parsed → offered parsed)
    (hredirects : ∀ target ∈ exchange.redirects, offered target) (proxy : Option String)
    (limit : Nat) (body : DownloadBody α) :
    Admitted offered (urlsOf (attempt network exchange proxy request' limit body).1) := by
  have h := request_admitted hchecked hoffered hredirects proxy request'.userAgent limit body
  unfold attempt
  simp only
  split
  · rename_i fetched value heq
    rw [heq] at h
    split
    · exact h
    · exact h
  · rename_i fetched error heq
    rw [heq] at h
    exact h

theorem directAttempt_admitted {offered : Url → Prop} {exchange : Exchange}
    {request' : DownloadRequest} (hchecked : Checked network request'.url)
    (hoffered : ∀ parsed, network.urlParse request'.url = .ok parsed → offered parsed)
    (hredirects : ∀ target ∈ exchange.redirects, offered target) (attempts : List DownloadAttempt)
    (limit : Nat) (body : DownloadBody α) :
    Admitted offered (urlsOf (directAttempt network exchange attempts request' limit body).1) := by
  have h := attempt_admitted hchecked hoffered hredirects none limit body
  unfold directAttempt
  split
  · exact Admitted.nil offered
  · simp only
    split
    · exact h
    · exact h
    · exact h

theorem proxyAttempt_admitted {offered : Url → Prop} {exchange : Exchange}
    {request' : DownloadRequest} (hchecked : Checked network request'.url)
    (hoffered : ∀ parsed, network.urlParse request'.url = .ok parsed → offered parsed)
    (hredirects : ∀ target ∈ exchange.redirects, offered target) (limit : Nat)
    (body : DownloadBody α) {result : List Fetched × DownloadAttempt × Option α}
    (hresult : proxyAttempt network exchange request' limit body = some result) :
    Admitted offered (urlsOf result.1) := by
  unfold proxyAttempt at hresult
  split at hresult
  · rw [Option.map_eq_some_iff] at hresult
    obtain ⟨proxyUrl, -, heq⟩ := hresult
    split at heq
    · rw [← heq]
      exact Admitted.nil offered
    · rw [← heq]
      exact attempt_admitted hchecked hoffered hredirects (some proxyUrl) limit body
  · cases hresult

theorem download_admitted {offered : Url → Prop} {exchanges : Bool → Exchange}
    {request' : DownloadRequest} (hchecked : Checked network request'.url)
    (hoffered : ∀ parsed, network.urlParse request'.url = .ok parsed → offered parsed)
    (hredirects : ∀ viaProxy, ∀ target ∈ (exchanges viaProxy).redirects, offered target)
    (defaultLimit : Nat) (body : DownloadBody α) :
    ∀ fetched ∈ (download network exchanges request' defaultLimit body).1,
      Admitted offered (urlsOf fetched) := by
  have hdirect := fun attempts limit =>
    directAttempt_admitted hchecked hoffered (hredirects false) attempts limit body
  intro fetched hfetched
  unfold download at hfetched
  simp only at hfetched
  split at hfetched
  · rename_i heq
    rw [List.mem_singleton] at hfetched
    rw [hfetched]
    exact proxyAttempt_admitted hchecked hoffered (hredirects true) _ body heq
  · rename_i heq
    rcases List.mem_cons.mp hfetched with hfetched | hfetched
    · rw [hfetched]
      exact proxyAttempt_admitted hchecked hoffered (hredirects true) _ body heq
    · rw [List.mem_singleton.mp hfetched]
      exact hdirect _ _
  · rw [List.mem_singleton.mp hfetched]
    exact hdirect _ _

theorem validateSubscriptionUrl_ok {url : String}
    (h : validateSubscriptionUrl network url .denyLocal = .ok ()) :
    Checked network (trim url) := by
  intro parsed hparsed
  unfold validateSubscriptionUrl at h
  simp only [hparsed] at h
  split at h
  · cases h
  · split at h
    · cases h
    · split at h
      · cases h
      · rename_i host hhost
        split at h
        · cases h
        · rename_i hallowed
          rw [urlHasDeniedLocalHost, hhost]
          simpa using hallowed

/-- What the texts of URLs are: reading one gives the same with the blanks around it left out. -/
def ReadsTrimmed (network : Network) : Prop :=
  ∀ text url, network.urlParse text = .ok url → ∀ pairs,
    network.urlParse (trim (appendPairs network url pairs).text) =
      network.urlParse (appendPairs network url pairs).text

theorem buildSubscriptionUrl_trim (hreads : ReadsTrimmed network) {rawUrl mainUrl : String}
    {convertTarget subConvertUrl : Option String}
    (h : buildSubscriptionUrl network rawUrl convertTarget subConvertUrl = .ok mainUrl) :
    network.urlParse (trim mainUrl) = network.urlParse mainUrl := by
  unfold buildSubscriptionUrl at h
  split at h
  · cases h
    rw [trim_trim]
  · simp only at h
    split at h
    · cases h
    · rename_i url hurl
      cases h
      exact hreads _ url hurl _

theorem checkedMainUrl_checked (hreads : ReadsTrimmed network) {source : SubscriptionFetchSource}
    {mainUrl : String} (h : checkedMainUrl network source .denyLocal = .ok mainUrl) :
    Checked network mainUrl := by
  unfold checkedMainUrl at h
  simp only at h
  split at h
  · cases h
  · rename_i hraw
    split at h
    · cases h
    · rename_i built hbuild
      have hparse := buildSubscriptionUrl_trim hreads hbuild
      intro parsed hparsed
      split at h
      · rename_i hsame
        cases h
        have hchecked := validateSubscriptionUrl_ok hraw
        rw [trim_trim, ← hsame] at hchecked
        rw [← hparse] at hparsed
        exact hchecked parsed hparsed
      · split at h
        · cases h
        · rename_i hvalid
          cases h
          rw [← hparse] at hparsed
          exact validateSubscriptionUrl_ok hvalid parsed hparsed

end Fetches

section Subscriptions

variable {network : Network}

/-- The URLs that a fetch may come to: the main URL or the converter's, the additional ones, and
what servers redirect to. -/
def Offered (network : Network) (source : SubscriptionFetchSource)
    (exchanges : Nat → Bool → Exchange) (url : Url) : Prop :=
  (∃ mainUrl, buildSubscriptionUrl network (trim source.url) source.convertTarget
      source.subConvertUrl = .ok mainUrl ∧ network.urlParse mainUrl = .ok url) ∨
    (∃ more ∈ moreUrls source, network.urlParse more = .ok url) ∨
      ∃ index viaProxy, url ∈ (exchanges index viaProxy).redirects

theorem trim_of_mem_moreUrls {source : SubscriptionFetchSource} {url : String}
    (h : url ∈ moreUrls source) : trim url = url := by
  rw [moreUrls, List.mem_filter, List.mem_map] at h
  obtain ⟨⟨part, -, rfl⟩, -⟩ := h
  exact trim_trim part

theorem build_of_checkedMainUrl {source : SubscriptionFetchSource} {mainUrl : String}
    (h : checkedMainUrl network source .denyLocal = .ok mainUrl) :
    buildSubscriptionUrl network (trim source.url) source.convertTarget source.subConvertUrl =
      .ok mainUrl := by
  unfold checkedMainUrl at h
  simp only at h
  split at h
  · cases h
  · split at h
    · cases h
    · rename_i built hbuild
      split at h
      · cases h
        exact hbuild
      · split at h
        · cases h
        · cases h
          exact hbuild

/-- The additional URLs, by induction over them: each is checked before it is downloaded. -/
theorem fetchMore_admitted {source : SubscriptionFetchSource} {options : SubscriptionFetchOptions}
    {exchanges : Nat → Bool → Exchange} {urls : List String}
    (hurls : ∀ url ∈ urls, url ∈ moreUrls source) (index : Nat)
    (result : SubscriptionFetchResult) :
    ∀ fetched ∈ (fetchMore network source options .denyLocal exchanges index result urls).1,
      Admitted (Offered network source exchanges) (urlsOf fetched) := by
  induction urls generalizing index result with
  | nil =>
    intro fetched hfetched
    cases hfetched
  | cons url urls ih =>
    have hmore := hurls url List.mem_cons_self
    intro fetched hfetched
    rw [fetchMore] at hfetched
    split at hfetched
    · cases hfetched
    · rename_i hvalid
      have hchecked := validateSubscriptionUrl_ok hvalid
      rw [trim_of_mem_moreUrls hmore] at hchecked
      have hdownload : ∀ fetched ∈ (downloadText network (exchanges index)
          (subscriptionRequest source options url)).1,
            Admitted (Offered network source exchanges) (urlsOf fetched) :=
        download_admitted hchecked
          (fun parsed hparsed => .inr (.inl ⟨url, hmore, hparsed⟩))
          (fun viaProxy target htarget => .inr (.inr ⟨index, viaProxy, htarget⟩)) _ _
      split at hfetched
      · rename_i heq
        rw [heq] at hdownload
        exact hdownload fetched hfetched
      · rename_i heq
        rw [heq] at hdownload
        rcases List.mem_append.mp hfetched with hfetched | hfetched
        · exact hdownload fetched hfetched
        · exact ih (fun other hother => hurls other (List.mem_cons_of_mem _ hother)) (index + 1) _
            fetched hfetched

theorem fetch_admitted (hreads : ReadsTrimmed network) (source : SubscriptionFetchSource)
    (options : SubscriptionFetchOptions) (exchanges : Nat → Bool → Exchange) :
    ∀ fetched ∈ (fetch network source options exchanges).1,
      Admitted (Offered network source exchanges) (urlsOf fetched) := by
  intro fetched hfetched
  unfold fetch fetchWithUrlPolicy at hfetched
  split at hfetched
  · cases hfetched
  · rename_i mainUrl hmain
    have hdownload : ∀ fetched ∈ (downloadText network (exchanges 0)
        (subscriptionRequest source options mainUrl)).1,
          Admitted (Offered network source exchanges) (urlsOf fetched) :=
      download_admitted (checkedMainUrl_checked hreads hmain)
        (fun parsed hparsed => .inl ⟨mainUrl, build_of_checkedMainUrl hmain, hparsed⟩)
        (fun viaProxy target htarget => .inr (.inr ⟨0, viaProxy, htarget⟩)) _ _
    unfold fetchFrom at hfetched
    split at hfetched
    · rename_i heq
      rw [heq] at hdownload
      exact hdownload fetched hfetched
    · rename_i heq
      rw [heq] at hdownload
      split at hfetched
      · exact hdownload fetched hfetched
      · rcases List.mem_append.mp hfetched with hfetched | hfetched
        · exact hdownload fetched hfetched
        · exact fetchMore_admitted (fun url hurl => hurl) 1 _ fetched hfetched

/-- No request of a fetch reaches a local host unless it comes to one that the check overlooks,
and the redirects are few and never leave https. -/
theorem fetch_safe_iff (hreads : ReadsTrimmed network) (source : SubscriptionFetchSource)
    (options : SubscriptionFetchOptions) (exchanges : Nat → Bool → Exchange) :
    ((∀ url, Offered network source exchanges url → ¬OverlookedUrl url) →
        ∀ fetched ∈ (fetch network source options exchanges).1, SafeChain (urlsOf fetched)) ∧
      ((∀ fetched ∈ (fetch network source options exchanges).1, SafeChain (urlsOf fetched)) ↔
        ∀ fetched ∈ (fetch network source options exchanges).1, ∀ url ∈ urlsOf fetched,
          ¬OverlookedUrl url) := by
  have hadmitted := fetch_admitted hreads source options exchanges
  constructor
  · intro hoffered fetched hfetched
    have h := hadmitted fetched hfetched
    exact h.safe_iff.mpr fun url hurl => hoffered url (h.offered url hurl)
  · constructor
    · intro hsafe fetched hfetched
      exact (hadmitted fetched hfetched).safe_iff.mp (hsafe fetched hfetched)
    · intro hknown fetched hfetched
      exact (hadmitted fetched hfetched).safe_iff.mpr (hknown fetched hfetched)

def listUrl : Url where
  scheme := "https"
  host := some (.domain "sub.example")
  text := "https://sub.example/list"
  queryKeys := []

def mappedLoopback : Ipv6Addr where
  groups := [0, 0, 0, 0, 0, 0xffff, 0x7f00, 1]
  eight := rfl
  small := by decide

def mappedUrl : Url where
  scheme := "http"
  host := some (.ipv6 mappedLoopback)
  text := "http://[::ffff:7f00:1]/list"
  queryKeys := []

def twoUrls : Network where
  urlParse text :=
    if trim text = "https://sub.example/list" then .ok listUrl
    else if trim text = "http://[::ffff:127.0.0.1]/list" then .ok mappedUrl
    else .error "relative URL without a base"
  appendPair url key value :=
    { url with text := url.text ++ "&" ++ key ++ "=" ++ value, queryKeys := url.queryKeys ++ [key] }
  directClient := .ok ()
  proxyClient _ := .ok ()
  errorText _ := "download failed"

def sourceOf (url : String) : SubscriptionFetchSource where
  url := url
  moreUrl := ""
  userAgent := ""
  convertTarget := none
  subConvertUrl := none

def redirecting (target : Url) : Exchange where
  redirects := [target]
  answer := .ok { status := 200, contentLength := none, chunks := [.ok [104, 105]] }

theorem twoUrls_readsTrimmed : ReadsTrimmed twoUrls := by
  intro text url _ pairs
  simp only [twoUrls, trim_trim]

theorem fetch_safe_iff_list :
    ReadsTrimmed twoUrls ∧
      ∀ fetched ∈ (fetch twoUrls (sourceOf "https://sub.example/list") ⟨false, none⟩
        fun _ _ => redirecting listUrl).1, SafeChain (urlsOf fetched) := by
  refine ⟨twoUrls_readsTrimmed, (fetch_safe_iff twoUrls_readsTrimmed
    (sourceOf "https://sub.example/list") ⟨false, none⟩ fun _ _ => redirecting listUrl).2.mpr ?_⟩
  have hrequests : (fetch twoUrls (sourceOf "https://sub.example/list") ⟨false, none⟩
      fun _ _ => redirecting listUrl).1 =
        [[⟨listUrl, "VoyaVPN", none⟩, ⟨listUrl, "VoyaVPN", none⟩]] := by
    decide +kernel
  rw [hrequests]
  rintro fetched hfetched url hurl ⟨host, hhost, hoverlooked⟩
  rw [List.mem_singleton.mp hfetched] at hurl
  obtain rfl : url = listUrl := by simpa [urlsOf] using hurl
  cases hhost
  exact hoverlooked

/-- A subscription at a loopback address mapped to IPv6 is fetched. -/
theorem mapped_loopback_fetched :
    ReadsTrimmed twoUrls ∧
      ¬∀ fetched ∈ (fetch twoUrls (sourceOf "http://[::ffff:127.0.0.1]/list") ⟨false, none⟩
        fun _ _ => { redirecting listUrl with redirects := [] }).1, SafeChain (urlsOf fetched) := by
  refine ⟨twoUrls_readsTrimmed, ?_⟩
  have hrequests : (fetch twoUrls (sourceOf "http://[::ffff:127.0.0.1]/list") ⟨false, none⟩
      fun _ _ => { redirecting listUrl with redirects := [] }).1 =
        [[⟨mappedUrl, "VoyaVPN", none⟩]] := by
    decide +kernel
  rw [hrequests]
  intro hsafe
  obtain ⟨host, hhost, hremote⟩ :=
    (hsafe _ List.mem_cons_self).hosts mappedUrl List.mem_cons_self
  cases hhost
  exact hremote (.inr (.inr (.inr ⟨[127, 0, 0, 1], rfl, .inl rfl⟩)))

end Subscriptions

end FetchSafety
