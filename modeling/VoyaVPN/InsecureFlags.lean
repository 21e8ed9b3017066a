import VoyaVPN.SingboxLeaf
import VoyaVPN.LinkReading

/-! Certificate verification and imported links: what `insecure` of an outbound depends on, and
that no link parameter of that meaning reaches a profile. -/
namespace InsecureFlags

open Entities RustText ShareCommon ShareUri StreamQuery ShareFormats
open JsonValue (Value)
open SettingsValidation (Url)

section Outbounds

def pinnedCertificates (tls : TlsSettings) : List String :=
  (tls.certificatePem.map ProtocolCommon.parsePemChain).getD []

def skipsVerification (outbound : SingboxSchema.SingboxOutbound) : Prop :=
  ∃ tls, outbound.tls = some tls ∧ tls.insecure = some true

theorem fillOutboundTls_insecure {outbound : SingboxSchema.SingboxOutbound}
    (hnone : outbound.tls = none) (context : ContextBuilder.CoreConfigContext)
    (node : ProfileItem)
    (h : skipsVerification (SingboxLeaf.fillOutboundTls outbound context node)) :
    context.appConfig.coreBasicItem.defAllowInsecure = true ∧
      ∃ tls, node.tls = some tls ∧ tls.mode = .tls ∧ pinnedCertificates tls = [] := by
  obtain ⟨tls, htls, hinsecure⟩ := h
  unfold SingboxLeaf.fillOutboundTls at htls
  split at htls
  · rw [hnone] at htls
    cases htls
  · rename_i domainTls hdomain
    split at htls
    · rw [hnone] at htls
      cases htls
    · simp only at htls
      split at htls
      · rename_i hmode
        split at htls
        · rename_i hempty
          cases htls
          refine ⟨Option.some.inj hinsecure, domainTls, hdomain, hmode, ?_⟩
          exact List.isEmpty_iff.mp hempty
        · cases htls
          cases hinsecure
      · cases htls
        cases hinsecure

theorem tls_fillOutboundMux (outbound : SingboxSchema.SingboxOutbound)
    (context : ContextBuilder.CoreConfigContext) :
    (SingboxLeaf.fillOutboundMux outbound context).tls = outbound.tls := by
  unfold SingboxLeaf.fillOutboundMux
  simp only
  split
  · rfl
  · rfl

theorem tls_fillOutboundTransport (crates : ContextBuilder.Crates)
    (outbound : SingboxSchema.SingboxOutbound) (context : ContextBuilder.CoreConfigContext)
    (node : ProfileItem) :
    (SingboxLeaf.fillOutboundTransport crates outbound context node).tls = outbound.tls := by
  unfold SingboxLeaf.fillOutboundTransport
  simp only
  split
  · split
    · rfl
    · rfl
  · split
    · rfl
    · rfl

theorem tls_fillShadowsocksPlugin (outbound : SingboxSchema.SingboxOutbound) (node : ProfileItem)
    (network : String) :
    (SingboxLeaf.fillShadowsocksPlugin outbound node network).tls = outbound.tls := by
  unfold SingboxLeaf.fillShadowsocksPlugin
  split
  · rfl
  · simp only
    rw [apply_ite SingboxSchema.SingboxOutbound.tls]
    exact ite_self _

theorem tls_fillHysteria2Fields (outbound : SingboxSchema.SingboxOutbound)
    (context : ContextBuilder.CoreConfigContext) (portHops obfuscationPassword : Option String) :
    (SingboxLeaf.fillHysteria2Fields outbound context portHops obfuscationPassword).tls =
      outbound.tls := by
  unfold SingboxLeaf.fillHysteria2Fields
  simp only
  cases ProtocolCommon.nonemptyStr obfuscationPassword <;>
    cases ProtocolCommon.nonemptyStr portHops <;> simp only
  all_goals
    rw [apply_ite SingboxSchema.SingboxOutbound.tls, apply_ite SingboxSchema.SingboxOutbound.tls]
    simp only [ite_self]

theorem tls_fillCredentials (outbound : SingboxSchema.SingboxOutbound)
    (username password : String) :
    (SingboxLeaf.fillCredentials outbound username password).tls = outbound.tls := by
  unfold SingboxLeaf.fillCredentials
  split
  · rfl
  · rfl

theorem buildOutbound_insecure (crates : ContextBuilder.Crates)
    (context : ContextBuilder.CoreConfigContext) (node : ProfileItem)
    (h : skipsVerification (SingboxLeaf.buildOutbound crates context node)) :
    context.appConfig.coreBasicItem.defAllowInsecure = true ∧
      ∃ tls, node.tls = some tls ∧ tls.mode = .tls ∧ pinnedCertificates tls = [] := by
  unfold SingboxLeaf.buildOutbound at h
  refine fillOutboundTls_insecure ?_ context node h
  cases node.protocol with
  | vmess _ uuid _ => simp only [tls_fillOutboundTransport, tls_fillOutboundMux]
  | shadowsocks _ password _ udpOverTcp =>
    simp only [tls_fillOutboundMux, tls_fillShadowsocksPlugin]
  | socks _ username password => simp only [tls_fillCredentials]
  | http _ username password => simp only [tls_fillCredentials]
  | vless _ uuid flow _ =>
    simp only [tls_fillOutboundTransport]
    split
    · rfl
    · simp only [tls_fillOutboundMux]
  | trojan _ password => simp only [tls_fillOutboundTransport, tls_fillOutboundMux]
  | hysteria2 _ password portHops obfuscationPassword => simp only [tls_fillHysteria2Fields]
  | tuic _ uuid password congestionControl => rfl
  | anytls _ password => rfl
  | naive _ username password quic congestionControl insecureConcurrency udpOverTcp =>
    simp only
    split
    · rfl
    · rfl
  | wireGuard => rfl
  | custom => rfl
  | policyGroup => rfl
  | proxyChain => rfl

end Outbounds

section Flags

/-- The parameters that links ask with to skip the verification of certificates. -/
def flagKeys : List String :=
  ["insecure", "allowInsecure", "allow_insecure", "skip-verify", "skip_verify", "skipVerify",
    "skip-cert-verify", "skip_cert_verify", "skipCertVerify"]

def isFlag (key : String) : Bool := flagKeys.any (eqIgnoreAsciiCase key ·)

def pluginParts (plugin : String) : List String :=
  (split plugin (· == ';')).filter (· ≠ "")

/-- The name of a plugin option, which may go without a value. -/
def optionName (option : String) : String := ((splitOnce option '=').map (·.1)).getD option

def plainOptions (options : List String) : List String :=
  options.filter fun option => !isFlag (optionName option)

def PluginsAgree (a b : String) : Prop :=
  (pluginParts a).head? = (pluginParts b).head? ∧
    plainOptions (pluginParts a).tail = plainOptions (pluginParts b).tail

/-- Every parameter is the same but for flags, and the options of a plugin are. -/
structure ParametersAgree (a b : Query) : Prop where
  other : ∀ key, isFlag key = false → eqIgnoreAsciiCase key "plugin" = false →
    a.value key = b.value key
  plugin : (a.value "plugin" = none ∧ b.value "plugin" = none) ∨
    ∃ pluginA pluginB, a.value "plugin" = some pluginA ∧ b.value "plugin" = some pluginB ∧
      PluginsAgree pluginA pluginB

end Flags

section Texts

theorem isFlag_congr {key other : String} (h : eqIgnoreAsciiCase key other = true) :
    isFlag key = isFlag other := by
  rw [eqIgnoreAsciiCase, beq_iff_eq] at h
  simp only [isFlag, eqIgnoreAsciiCase, h]

def withoutFlags (query : Query) : Query := query.filter fun pair => !isFlag pair.1

def isFlagPart (part : String) : Bool :=
  ((splitOnce part '=').map fun pair => isFlag (urlDecode pair.1)).getD false

theorem value_withoutFlags (query : Query) {key : String} (hkey : isFlag key = false) :
    (withoutFlags query).value key = query.value key := by
  unfold Query.value withoutFlags
  rw [List.find?_filter]
  refine congrArg (Option.map _) (congrArg (List.find? · query) ?_)
  funext pair
  cases hflag : isFlag pair.1 with
  | false => simp
  | true =>
    cases heq : eqIgnoreAsciiCase pair.1 key with
    | false => rfl
    | true =>
      rw [isFlag_congr heq, hkey] at hflag
      cases hflag

theorem containsKey_withoutFlags (query : Query) {key : String} (hkey : isFlag key = false) :
    (withoutFlags query).containsKey key = query.containsKey key := by
  unfold Query.containsKey withoutFlags
  rw [List.any_filter]
  refine congrArg (List.any query) ?_
  funext pair
  cases hflag : isFlag pair.1 with
  | false => simp
  | true =>
    cases heq : eqIgnoreAsciiCase pair.1 key with
    | false => rfl
    | true =>
      rw [isFlag_congr heq, hkey] at hflag
      cases hflag

theorem withoutFlags_readPart (query : Query) (part : String) :
    withoutFlags (query.readPart part) =
      if isFlagPart part then withoutFlags query else (withoutFlags query).readPart part := by
  unfold Query.readPart isFlagPart
  cases splitOnce part '=' with
  | none => rfl
  | some pair =>
    obtain ⟨key, value⟩ := pair
    simp only [Option.map_some, Option.getD_some]
    cases hflag : isFlag (urlDecode key) with
    | true =>
      rw [if_pos rfl]
      split
      · rfl
      · simp [withoutFlags, hflag]
    | false =>
      simp only [Bool.false_eq_true, if_false, containsKey_withoutFlags query hflag]
      split
      · rfl
      · simp [withoutFlags, hflag]

/-- Leaving out the flags of a query text leaves them out of what is read from it. -/
theorem withoutFlags_foldl (parts : List String) (query : Query) :
    withoutFlags (parts.foldl Query.readPart query) =
      (parts.filter fun part => !isFlagPart part).foldl Query.readPart (withoutFlags query) := by
  induction parts generalizing query with
  | nil => rfl
  | cons part parts ih =>
    rw [List.foldl_cons, ih, withoutFlags_readPart]
    cases hflag : isFlagPart part with
    | true => rw [if_pos rfl, List.filter_cons_of_neg (by simp [hflag])]
    | false => rw [if_neg (by decide), List.filter_cons_of_pos (by simp [hflag]), List.foldl_cons]

def queryParts (rawQuery : String) : List String := (split rawQuery (· == '&')).filter (· ≠ "")

/-- Query texts with the same parts but for flags have parameters that agree. -/
theorem parametersAgree_of_parts {a b : String}
    (h : (queryParts a).filter (fun part => !isFlagPart part) =
      (queryParts b).filter fun part => !isFlagPart part) :
    ParametersAgree (Query.parse (some a)) (Query.parse (some b)) := by
  have hsame : withoutFlags (Query.parse (some a)) = withoutFlags (Query.parse (some b)) := by
    show withoutFlags ((queryParts a).foldl Query.readPart []) =
      withoutFlags ((queryParts b).foldl Query.readPart [])
    rw [withoutFlags_foldl, withoutFlags_foldl, h]
  have hvalue : ∀ key, isFlag key = false →
      (Query.parse (some a)).value key = (Query.parse (some b)).value key := by
    intro key hkey
    rw [← value_withoutFlags _ hkey, hsame, value_withoutFlags _ hkey]
  have hplugin : isFlag "plugin" = false := by decide +kernel
  refine ⟨fun key hkey _ => hvalue key hkey, ?_⟩
  rw [hvalue "plugin" hplugin]
  cases (Query.parse (some b)).value "plugin" with
  | none => exact .inl ⟨rfl, rfl⟩
  | some plugin => exact .inr ⟨plugin, plugin, rfl, rfl, rfl, rfl⟩

end Texts

section Parameters

/-- The parameters that links are read with, but for that of a plugin. -/
def readKeys : List String :=
  ["security", "sni", "alpn", "pbk", "sid", "spx", "pqv", "ech", "pcs", "fm", "type",
    "host", "path",
    "headerType", "seed", "mtu", "mode", "extra", "authority", "serviceName", "flow", "encryption",
    "insecure-concurrency", "congestion_control", "mport", "obfs-password", "pinSHA256",
    "publickey", "presharedkey", "address", "allowedips", "allowed_ips", "reserved"]

theorem readKeys_plain :
    ∀ key ∈ readKeys, isFlag key = false ∧ eqIgnoreAsciiCase key "plugin" = false := by
  have hall : (readKeys.all fun key => !isFlag key && !eqIgnoreAsciiCase key "plugin") = true := by
    decide +kernel
  intro key hkey
  simpa using List.all_eq_true.mp hall key hkey

/-- The parameters that links are read with are the same, but for flags among plugin options. -/
structure ReadAgree (a b : Query) : Prop where
  read : ∀ key ∈ readKeys, a.value key = b.value key
  plugin : (a.value "plugin" = none ∧ b.value "plugin" = none) ∨
    ∃ pluginA pluginB, a.value "plugin" = some pluginA ∧ b.value "plugin" = some pluginB ∧
      PluginsAgree pluginA pluginB

variable {a b : Query}

theorem ParametersAgree.readAgree (h : ParametersAgree a b) : ReadAgree a b := by
  refine ⟨fun key hkey => ?_, h.plugin⟩
  obtain ⟨hflag, hplugin⟩ := readKeys_plain key hkey
  exact h.other key hflag hplugin

theorem ReadAgree.valueOr (h : ReadAgree a b) :
    ∀ key ∈ readKeys, ∀ defaultValue, a.valueOr key defaultValue = b.valueOr key defaultValue := by
  intro key hkey defaultValue
  rw [Query.valueOr, Query.valueOr, h.read key hkey]

theorem ReadAgree.decodedOr (h : ReadAgree a b) :
    ∀ key ∈ readKeys, ∀ defaultValue,
      a.decodedOr key defaultValue = b.decodedOr key defaultValue := by
  intro key hkey defaultValue
  rw [Query.decodedOr, Query.decodedOr, h.valueOr key hkey]

variable (crates : Crates)

theorem tlsFields_agree (h : ReadAgree a b) (mode : TlsMode) :
    tlsFields crates a mode = tlsFields crates b mode := by
  have hvalue := h.valueOr
  have hdecoded := h.decodedOr
  simp (disch := decide) only [tlsFields, hvalue, hdecoded]

theorem queryTls_agree (h : ReadAgree a b) : queryTls crates a = queryTls crates b := by
  have hvalue := h.valueOr
  simp (disch := decide) only [queryTls, hvalue, tlsFields_agree crates h]

theorem queryNetwork_agree (h : ReadAgree a b) : queryNetwork a = queryNetwork b := by
  have hvalue := h.valueOr
  simp (disch := decide) only [queryNetwork, hvalue]

theorem queryTransport_agree (h : ReadAgree a b) :
    queryTransport crates a = queryTransport crates b := by
  have hvalue := h.valueOr
  have hdecoded := h.decodedOr
  simp (disch := decide) only [queryTransport, queryNetwork_agree h, hvalue, hdecoded]

theorem resolveUriQuery_agree (h : ReadAgree a b) (item : ProfileItem) :
    resolveUriQuery crates a item = resolveUriQuery crates b item := by
  rw [resolveUriQuery, resolveUriQuery, queryTls_agree crates h, queryTransport_agree crates h]

/-- A format sees nothing of the parameters but those that links are read with. -/
def SeesOnlyRead (fill : ParsedUri → Except ShareError ProfileItem) : Prop :=
  ∀ (parsed : ParsedUri) (a b : Query), ReadAgree a b →
    fill { parsed with query := a } = fill { parsed with query := b }

theorem vless_seesOnlyRead : SeesOnlyRead fun parsed => .ok (vlessProfile crates parsed) := by
  intro parsed a b h
  have hvalue := h.valueOr
  simp (disch := decide) only [vlessProfile, streamProfile, profileFromUri, hvalue,
    resolveUriQuery_agree crates h]

theorem trojan_seesOnlyRead : SeesOnlyRead fun parsed => .ok (trojanProfile crates parsed) := by
  intro parsed a b h
  simp only [trojanProfile, streamProfile, profileFromUri, resolveUriQuery_agree crates h]

theorem anytls_seesOnlyRead : SeesOnlyRead fun parsed => .ok (anytlsProfile crates parsed) := by
  intro parsed a b h
  simp only [anytlsProfile, streamProfile, profileFromUri, resolveUriQuery_agree crates h]

theorem vmess_seesOnlyRead :
    SeesOnlyRead fun parsed => .ok (vmessStandardProfile crates parsed) := by
  intro parsed a b h
  simp only [vmessStandardProfile, streamProfile, profileFromUri, resolveUriQuery_agree crates h]

theorem naive_seesOnlyRead : SeesOnlyRead fun parsed => .ok (naiveProfile crates parsed) := by
  intro parsed a b h
  have hvalue := h.valueOr
  simp (disch := decide) only [naiveProfile, streamProfile, profileFromUri, hvalue,
    resolveUriQuery_agree crates h]

theorem tuic_seesOnlyRead : SeesOnlyRead fun parsed => .ok (tuicProfile crates parsed) := by
  intro parsed a b h
  have hvalue := h.valueOr
  simp (disch := decide) only [tuicProfile, streamProfile, profileFromUri, hvalue,
    resolveUriQuery_agree crates h]

theorem hysteria2_seesOnlyRead :
    SeesOnlyRead fun parsed => .ok (hysteria2Profile crates parsed) := by
  intro parsed a b h
  have hdecoded := h.decodedOr
  simp (disch := decide) only [hysteria2Profile, streamProfile, profileFromUri, hdecoded,
    resolveUriQuery_agree crates h]

theorem wireguard_seesOnlyRead : SeesOnlyRead fun parsed => .ok (wireguardProfile parsed) := by
  intro parsed a b h
  have hdecoded := h.decodedOr
  simp (disch := decide) only [wireguardProfile, profileFromUri, hdecoded]

theorem socks_seesOnlyRead : SeesOnlyRead socksProfile := by
  intro parsed a b _
  rfl

end Parameters

section Plugins

theorem splitOnce_of_startsWith {option name : String} (hname : '=' ∉ name.toList)
    (h : startsWith option (name ++ "=") = true) : optionName option = name := by
  rw [startsWith, List.isPrefixOf_iff_prefix, String.toList_append] at h
  obtain ⟨rest, hrest⟩ := h
  have hlist : option.toList = name.toList ++ '=' :: rest := by
    rw [← hrest, List.append_assoc]
    rfl
  have hhead : option.toList.takeWhile (· != '=') = name.toList := by
    rw [hlist, List.takeWhile_append_of_pos]
    · simp
    · intro c hc
      have hne : c ≠ '=' := fun heq => hname (heq ▸ hc)
      simpa using hne
  rw [optionName, splitOnce, hhead, hlist, List.drop_left]
  simp

/-- Leaving out elements that a search does not stop at does not change its result. -/
theorem findSome_filter {α β : Type} {f : α → Option β} {p : α → Bool} {xs : List α}
    (h : ∀ x ∈ xs, p x = false → f x = none) : (xs.filter p).findSome? f = xs.findSome? f := by
  induction xs with
  | nil => rfl
  | cons x xs ih =>
    have htail := ih fun y hy => h y (List.mem_cons_of_mem _ hy)
    by_cases hp : p x = true
    · rw [List.filter_cons_of_pos hp, List.findSome?_cons, List.findSome?_cons, htail]
    · rw [List.filter_cons_of_neg hp, htail, List.findSome?_cons,
        h x List.mem_cons_self (by simpa using hp)]

def optionNames : List String := ["obfs-host", "host", "path", "certRaw", "mode", "mux", "obfs"]

theorem optionNames_plain : ∀ name ∈ optionNames, isFlag name = false ∧ '=' ∉ name.toList := by
  have hall : (optionNames.all fun name => !isFlag name && !name.toList.contains '=') = true := by
    decide +kernel
  intro name hname
  simpa using List.all_eq_true.mp hall name hname

theorem startsWith_of_flag {option : String} (hflag : isFlag (optionName option) = true) :
    ∀ name ∈ optionNames, startsWith option (name ++ "=") = false := by
  intro name hname
  obtain ⟨hplain, hequals⟩ := optionNames_plain name hname
  cases hstarts : startsWith option (name ++ "=") with
  | false => rfl
  | true =>
    rw [splitOnce_of_startsWith hequals hstarts, hplain] at hflag
    cases hflag

variable {parts : List String}

theorem pluginOption_plain (first : String) (rest : List String) :
    ∀ name ∈ optionNames, pluginOption (first :: plainOptions rest) (name ++ "=") =
      pluginOption (first :: rest) (name ++ "=") := by
  intro name hname
  rw [pluginOption, pluginOption, List.findSome?_cons, List.findSome?_cons, plainOptions,
    findSome_filter]
  intro option _ hflag
  rw [stripPrefix, startsWith_of_flag (by simpa using hflag) name hname]
  rfl

theorem find_obfs_plain (first : String) (rest : List String) :
    (first :: plainOptions rest).find? (fun part => startsWith part "obfs=") =
      (first :: rest).find? fun part => startsWith part "obfs=" := by
  rw [List.find?_cons, List.find?_cons, plainOptions]
  cases startsWith first "obfs=" with
  | true => rfl
  | false =>
    simp only
    rw [List.find?_filter]
    refine congrArg (List.find? · rest) ?_
    funext option
    cases hflag : isFlag (optionName option) with
    | false => simp
    | true =>
      have hstarts := startsWith_of_flag hflag "obfs" (by simp [optionNames])
      simpa using hstarts.symm

theorem isFlag_tls : isFlag (optionName "tls") = false := by
  decide +kernel

theorem tls_mem_plain (first : String) (rest : List String) :
    "tls" ∈ first :: plainOptions rest ↔ "tls" ∈ first :: rest := by
  rw [List.mem_cons, List.mem_cons, plainOptions, List.mem_filter]
  constructor
  · rintro (h | ⟨h, -⟩)
    · exact .inl h
    · exact .inr h
  · rintro (h | h)
    · exact .inl h
    · exact .inr ⟨h, by rw [isFlag_tls]; rfl⟩

theorem obfsLocal_plain (first : String) (rest : List String) (item : ProfileItem) :
    obfsLocal (first :: plainOptions rest) item = obfsLocal (first :: rest) item := by
  unfold obfsLocal
  rw [find_obfs_plain, show "obfs-host=" = "obfs-host" ++ "=" from rfl,
    pluginOption_plain first rest "obfs-host" (by simp [optionNames])]

theorem v2rayPlugin_plain (first : String) (rest : List String) (item : ProfileItem) :
    v2rayPlugin (first :: plainOptions rest) item = v2rayPlugin (first :: rest) item := by
  have hmode := pluginOption_plain first rest "mode" (by simp [optionNames])
  have hhost := pluginOption_plain first rest "host" (by simp [optionNames])
  have hpath := pluginOption_plain first rest "path" (by simp [optionNames])
  have hcert := pluginOption_plain first rest "certRaw" (by simp [optionNames])
  have hmux := pluginOption_plain first rest "mux" (by simp [optionNames])
  have hwebsocket : ∀ item, v2rayWebsocket (first :: plainOptions rest) item =
      v2rayWebsocket (first :: rest) item := by
    intro item
    unfold v2rayWebsocket
    rw [show "host=" = "host" ++ "=" from rfl, show "path=" = "path" ++ "=" from rfl, hhost, hpath]
  have htls : ∀ item, v2rayTls (first :: plainOptions rest) item =
      v2rayTls (first :: rest) item := by
    intro item
    unfold v2rayTls
    rw [show "certRaw=" = "certRaw" ++ "=" from rfl, hcert]
  unfold v2rayPlugin
  rw [show "mode=" = "mode" ++ "=" from rfl, show "mux=" = "mux" ++ "=" from rfl, hmode, hmux]
  simp only [hwebsocket, htls, tls_mem_plain]

theorem parseShadowsocksPlugin_agree {a b : String} (h : PluginsAgree a b) (item : ProfileItem) :
    parseShadowsocksPlugin a item = parseShadowsocksPlugin b item := by
  obtain ⟨hfirst, hrest⟩ := h
  have hpluginA : (split a (· == ';')).filter (· ≠ "") = pluginParts a := rfl
  have hpluginB : (split b (· == ';')).filter (· ≠ "") = pluginParts b := rfl
  unfold parseShadowsocksPlugin
  simp only [hpluginA, hpluginB]
  cases hpartsA : pluginParts a with
  | nil =>
    rw [hpartsA] at hfirst
    cases hpartsB : pluginParts b with
    | nil => rfl
    | cons first rest =>
      rw [hpartsB] at hfirst
      cases hfirst
  | cons first rest =>
    rw [hpartsA] at hfirst hrest
    cases hpartsB : pluginParts b with
    | nil =>
      rw [hpartsB] at hfirst
      cases hfirst
    | cons other others =>
      rw [hpartsB] at hfirst hrest
      cases hfirst
      have hsame : plainOptions rest = plainOptions others := hrest
      simp only
      rw [← obfsLocal_plain first rest, ← v2rayPlugin_plain first rest, hsame, obfsLocal_plain,
        v2rayPlugin_plain]

end Plugins

section Links

variable {crates : Crates}

/-- The crate reads two texts as the same URL but for flags among the parameters. -/
def UrlsAgree (crates : Crates) (a b : String) : Prop :=
  ∃ (url : Url) (queryA queryB : Option String),
    crates.urlParse a = .ok { url with query := queryA } ∧
    crates.urlParse b = .ok { url with query := queryB } ∧
      ParametersAgree (Query.parse queryA) (Query.parse queryB)

/-- The crate reads two texts as the same URL but for parameters that no link is read with. -/
def UrlsReadAgree (crates : Crates) (a b : String) : Prop :=
  ∃ (url : Url) (queryA queryB : Option String),
    crates.urlParse a = .ok { url with query := queryA } ∧
    crates.urlParse b = .ok { url with query := queryB } ∧
      ReadAgree (Query.parse queryA) (Query.parse queryB)

theorem UrlsAgree.readAgree {a b : String} (h : UrlsAgree crates a b) :
    UrlsReadAgree crates a b := by
  obtain ⟨url, queryA, queryB, hurlA, hurlB, hagree⟩ := h
  exact ⟨url, queryA, queryB, hurlA, hurlB, hagree.readAgree⟩

theorem readUrl_query (protocol : String) (schemes : List String) (url : Url)
    (query : Option String) :
    readUrl protocol schemes { url with query := query } =
      (readUrl protocol schemes url).map fun parsed =>
        { parsed with query := Query.parse query } := by
  unfold readUrl
  by_cases hscheme : schemes.any (eqIgnoreAsciiCase url.scheme ·) = true
  · by_cases haddress : trimMatches isBracket (url.hostStr.getD "") = ""
    · simp [hscheme, haddress, bind, Except.bind, throw, throwThe, MonadExceptOf.throw, Except.map]
    · cases hport : url.port with
      | none =>
        simp [hscheme, haddress, throw, throwThe, MonadExceptOf.throw, Except.map]
      | some port =>
        by_cases hzero : port = 0
        · simp [hscheme, haddress, hzero, bind, Except.bind, throw, throwThe,
            MonadExceptOf.throw, Except.map]
        · simp [hscheme, haddress, hzero, pure, Except.pure, Except.map]
  · simp [hscheme, bind, Except.bind, throw, throwThe, MonadExceptOf.throw, Except.map]

/-- The reading of a URI with a continuation that sees only the parameters links are read with. -/
theorem parseUri_agree {a b : String} (h : UrlsReadAgree crates a b) (protocol : String)
    (schemes : List String) {α : Type} {next : ParsedUri → Except ShareError α}
    (hnext : ∀ (parsed : ParsedUri) (a b : Query), ReadAgree a b →
      next { parsed with query := a } = next { parsed with query := b }) :
    (parseUriWithSchemes crates a protocol schemes >>= next) =
      (parseUriWithSchemes crates b protocol schemes >>= next) := by
  obtain ⟨url, queryA, queryB, hurlA, hurlB, hagree⟩ := h
  rw [parseUriWithSchemes, parseUriWithSchemes, hurlA, hurlB]
  simp only
  rw [readUrl_query protocol schemes url queryA, readUrl_query protocol schemes url queryB]
  cases readUrl protocol schemes url with
  | error error => rfl
  | ok parsed => exact hnext parsed _ _ hagree

theorem linkParse_agree {a b : String} (h : UrlsReadAgree crates a b) (protocol : String)
    (schemes : List String) {fill : ParsedUri → Except ShareError ProfileItem}
    (hfill : SeesOnlyRead fill) (required : List (String × (ProfileItem → String))) :
    linkParse crates protocol schemes fill required a =
      linkParse crates protocol schemes fill required b := by
  unfold linkParse
  apply parseUri_agree h
  intro parsed a b hagree
  rw [hfill parsed a b hagree]

theorem parseShadowsocksSip002_agree {a b : String} (h : UrlsReadAgree crates a b) :
    parseShadowsocksSip002 crates a = parseShadowsocksSip002 crates b := by
  unfold parseShadowsocksSip002 parseUri
  apply parseUri_agree h
  intro parsed a b hagree
  simp only
  cases shadowsocksCredentials parsed.userInfo with
  | error error => rfl
  | ok credentials =>
    rcases hagree.plugin with ⟨hnoneA, hnoneB⟩ | ⟨pluginA, pluginB, hpluginA, hpluginB, hplugins⟩
    · simp only [hnoneA, hnoneB, profileFromUri]
    · simp only [hpluginA, hpluginB, bind, Except.bind, parseShadowsocksPlugin_agree hplugins,
        profileFromUri]

theorem shadowsocksParse_agree {a b : String} (h : UrlsReadAgree crates a b) :
    shadowsocksParse crates a = shadowsocksParse crates b := by
  unfold shadowsocksParse
  rw [parseShadowsocksSip002_agree h]

theorem base64Decode_of_at {input : String} (h : '@' ∈ input.toList) (protocol : String) :
    base64Decode input protocol = .error (.invalidBase64 protocol) := by
  have htrim : '@' ∈ (trim input).toList :=
    (LinkReading.mem_trim h).resolve_left (by decide)
  unfold base64Decode
  split
  · rfl
  · simp only
    split
    · rename_i text htext
      exfalso
      rw [Option.bind_eq_some_iff] at htext
      obtain ⟨bytes, hbytes, -⟩ := htext
      have hmem : '@' ∈ ((trim input).toList.filter (!isWhitespace ·)).map fun c =>
          if c = '_' then '/' else if c = '-' then '+' else c := by
        rw [List.mem_map]
        exact ⟨'@', List.mem_filter.mpr ⟨htrim, by decide⟩, by decide⟩
      have hsymbol := Base64.symbol_of_decode _ hbytes '@' (by
        split
        · exact hmem
        · exact List.mem_append_left _ hmem)
      exact absurd hsymbol (by decide)
    · rfl

theorem parseVmessBase64_of_at {text : String} (hscheme : startsWithCi text "vmess://" = true)
    (htrim : trim text = text) (h : '@' ∈ text.toList.drop 8) :
    parseVmessBase64 crates text = .error (.invalidBase64 "vmess") := by
  have hpayload : vmessPayload text = .ok (String.ofList (text.toList.drop 8)) := by
    unfold vmessPayload
    simp only [htrim, hscheme, if_true]
  unfold parseVmessBase64
  rw [hpayload]
  simp only [bind, Except.bind]
  rw [base64Decode_of_at (by rw [String.toList_ofList]; exact h)]

/-- The object that a vmess link has in base64. -/
def VmessObject (crates : Crates) (text : String) (object : Value) : Prop :=
  ∃ payload decoded, vmessPayload text = .ok payload ∧ base64Decode payload "vmess" = .ok decoded ∧
    crates.readJson decoded = .ok object ∧ object.isObject = true

def ObjectsAgree (a b : Value) : Prop := ∀ key, isFlag key = false → a.get key = b.get key

def objectKeys : List String :=
  ["scy", "net", "ps", "add", "port", "id", "type", "host", "path", "tls", "sni", "alpn"]

theorem objectKeys_plain : ∀ key ∈ objectKeys, isFlag key = false := by
  have hall : (objectKeys.all fun key => !isFlag key) = true := by decide +kernel
  intro key hkey
  simpa using List.all_eq_true.mp hall key hkey

theorem vmessProfile_agree {a b : Value} (h : ∀ key ∈ objectKeys, a.get key = b.get key) :
    vmessProfile a = vmessProfile b := by
  have hstring : ∀ key ∈ objectKeys, valueString a key = valueString b key := by
    intro key hkey
    rw [valueString, valueString, h key hkey]
  have hnumber : valueI32 a "port" = valueI32 b "port" := by
    rw [valueI32, valueI32, h "port" (by decide)]
  simp (disch := decide) only [vmessProfile, hstring, hnumber]

theorem ciPrefix_take {pat cs : List Char} (h : ciPrefix pat cs = true) :
    (cs.take pat.length).map Char.toLower = pat.map Char.toLower := by
  induction pat generalizing cs with
  | nil => rfl
  | cons c pat ih =>
    cases cs with
    | nil => cases h
    | cons d cs =>
      rw [ciPrefix, Bool.and_eq_true, beq_iff_eq] at h
      rw [List.length_cons, List.take_succ_cons, List.map_cons, List.map_cons, ih h.2, h.1]

theorem at_after_scheme {text : String} (hscheme : startsWithCi text "vmess://" = true)
    (h : '@' ∈ text.toList) : '@' ∈ text.toList.drop 8 := by
  rw [← List.take_append_drop 8 text.toList, List.mem_append] at h
  refine h.resolve_left ?_
  intro htake
  have hlower := ciPrefix_take hscheme
  have hmem : '@' ∈ ("vmess://".toList.map Char.toLower) := by
    rw [← hlower, List.mem_map]
    exact ⟨'@', htake, by decide⟩
  exact absurd hmem (by decide)

theorem vmessParse_object {text : String} (htrim : trim text = text) {object : Value}
    (hobject : VmessObject crates text object) :
    vmessParse crates text = (do
      let item := vmessProfile object
      ensureAddressPort "vmess" item
      ensureNonempty "vmess" "password" item.password
      return item) := by
  obtain ⟨payload, decoded, hpayload, hdecoded, hread, hisObject⟩ := hobject
  have hbase64 : parseVmessBase64 crates text = (do
      let item := vmessProfile object
      ensureAddressPort "vmess" item
      ensureNonempty "vmess" "password" item.password
      return item) := by
    unfold parseVmessBase64
    simp only [hpayload, hdecoded, hread, hisObject, bind, Except.bind, Except.mapError,
      Bool.not_true, Bool.false_eq_true, if_false, pure, Except.pure]
  have hplain : containsChar text (· == '@') = false := by
    rw [containsChar, List.any_eq_false]
    intro c hc hat
    rw [beq_iff_eq] at hat
    subst hat
    unfold vmessPayload at hpayload
    simp only [htrim] at hpayload
    split at hpayload
    · rename_i hscheme
      cases hpayload
      rw [base64Decode_of_at] at hdecoded
      · cases hdecoded
      · rw [String.toList_ofList]
        exact at_after_scheme hscheme hc
    · cases hpayload
  rw [vmessParse, hplain, ← hbase64]
  rfl

theorem vmessParse_agree {a b : String} (h : UrlsReadAgree crates a b) (htrimA : trim a = a)
    (htrimB : trim b = b) (hschemeA : startsWithCi a "vmess://" = true)
    (hschemeB : startsWithCi b "vmess://" = true) (hatA : '@' ∈ a.toList) (hatB : '@' ∈ b.toList) :
    vmessParse crates a = vmessParse crates b := by
  have hcontains : ∀ text : String, '@' ∈ text.toList → containsChar text (· == '@') = true := by
    intro text hmem
    rw [containsChar, List.any_eq_true]
    exact ⟨'@', hmem, by decide⟩
  have hstandard : parseVmessStandard crates a = parseVmessStandard crates b :=
    linkParse_agree h "vmess" ["vmess"] (vmess_seesOnlyRead crates) [passwordField]
  rw [vmessParse, vmessParse, if_pos (hcontains a hatA), if_pos (hcontains b hatB), hstandard,
    parseVmessBase64_of_at hschemeA htrimA (at_after_scheme hschemeA hatA),
    parseVmessBase64_of_at hschemeB htrimB (at_after_scheme hschemeB hatB)]

theorem ciPrefix_append {pat front : List Char} (h : pat.length ≤ front.length)
    (rest : List Char) : ciPrefix pat (front ++ rest) = ciPrefix pat front := by
  induction pat generalizing front with
  | nil => rfl
  | cons c pat ih =>
    cases front with
    | nil => simp at h
    | cons d front =>
      rw [List.cons_append, ciPrefix, ciPrefix, ih (by simpa using h)]

/-- A prefix whose name is longer than the scheme meets the colon after the scheme. -/
theorem ciPrefix_colon {name scheme : List Char} (hname : ':' ∉ name)
    (h : scheme.length < name.length) (after rest : List Char) :
    ciPrefix (name ++ after) (scheme ++ ':' :: rest) = false := by
  induction name generalizing scheme with
  | nil => simp at h
  | cons c name ih =>
    cases scheme with
    | nil =>
      have hne : c.toLower ≠ ':' := by
        intro heq
        have hc : c = ':' := by
          rw [Char.toLower] at heq
          split at heq
          · rename_i hupper
            exfalso
            have := congrArg Char.toNat heq
            have hvalue : (c.val + ('a'.val - 'A'.val)).toNat = 58 := this
            have hbound := hupper.1
            have hbound' := hupper.2
            rw [ge_iff_le, UInt32.le_iff_toNat_le] at hbound
            rw [UInt32.le_iff_toNat_le] at hbound'
            rw [UInt32.toNat_add] at hvalue
            have hd : ('a'.val - 'A'.val).toNat = 32 := by decide
            have ha : 'A'.val.toNat = 65 := by decide
            have hz : 'Z'.val.toNat = 90 := by decide
            omega
          · exact heq
        exact hname (hc ▸ List.mem_cons_self)
      rw [List.cons_append, List.nil_append, ciPrefix]
      have hcolon : (':' : Char).toLower = ':' := by decide
      simp [hcolon, hne]
    | cons d scheme =>
      rw [List.cons_append, List.cons_append, ciPrefix,
        ih (fun hmem => hname (List.mem_cons_of_mem _ hmem)) (by simpa using h), Bool.and_false]

theorem startsWithCi_scheme (scheme restA restB name : String) (hname : ':' ∉ name.toList) :
    startsWithCi (scheme ++ "://" ++ restA) (name ++ "://") =
      startsWithCi (scheme ++ "://" ++ restB) (name ++ "://") := by
  have hlist : ∀ rest : String, startsWithCi (scheme ++ "://" ++ rest) (name ++ "://") =
      ciPrefix (name.toList ++ "://".toList) (scheme.toList ++ "://".toList ++ rest.toList) := by
    intro rest
    simp only [startsWithCi, String.toList_append]
  rw [hlist, hlist]
  by_cases hlength : name.toList.length ≤ scheme.toList.length
  · have hle : (name.toList ++ "://".toList).length ≤ (scheme.toList ++ "://".toList).length := by
      simp only [List.length_append]
      omega
    rw [ciPrefix_append hle, ciPrefix_append hle]
  · have hcolon : ∀ rest : String, scheme.toList ++ "://".toList ++ rest.toList =
        scheme.toList ++ ':' :: ('/' :: '/' :: rest.toList) := by
      intro rest
      simp
    rw [hcolon, hcolon, ciPrefix_colon hname (by omega), ciPrefix_colon hname (by omega)]

/-- Two links that differ in nothing but flags: URIs with the same scheme, or vmess objects. -/
inductive FlagsApart (crates : Crates) (a b : String) : Prop where
  | uri (scheme restA restB : String) (ha : trim a = scheme ++ "://" ++ restA)
      (hb : trim b = scheme ++ "://" ++ restB)
      (hvmess : startsWithCi (trim a) "vmess://" = true →
        '@' ∈ (trim a).toList ∧ '@' ∈ (trim b).toList)
      (hurls : UrlsAgree crates (trim a) (trim b))
  | object (objectA objectB : Value) (ha : VmessObject crates (trim a) objectA)
      (hb : VmessObject crates (trim b) objectB) (hagree : ObjectsAgree objectA objectB)

theorem trim_ne_empty {text scheme rest : String} (h : trim text = scheme ++ "://" ++ rest) :
    trim text ≠ "" := by
  intro hempty
  rw [hempty] at h
  have hlist := congrArg String.toList h
  simp at hlist

theorem startsWithCi_of_vmessObject {text : String} {object : Value}
    (h : VmessObject crates (trim text) object) :
    startsWithCi (trim text) "vmess://" = true ∧ trim text ≠ "" := by
  obtain ⟨payload, decoded, hpayload, -⟩ := h
  unfold vmessPayload at hpayload
  simp only [trim_trim] at hpayload
  split at hpayload
  · rename_i hscheme
    refine ⟨hscheme, ?_⟩
    intro hempty
    rw [hempty] at hscheme
    cases hscheme
  · cases hpayload

/-- Two URIs with the same scheme are read alike when they agree on the parameters links are read
with. -/
theorem parseShareLink_uri {a b scheme restA restB : String}
    (ha : trim a = scheme ++ "://" ++ restA) (hb : trim b = scheme ++ "://" ++ restB)
    (hvmess : startsWithCi (trim a) "vmess://" = true →
      '@' ∈ (trim a).toList ∧ '@' ∈ (trim b).toList)
    (hurls : UrlsReadAgree crates (trim a) (trim b)) :
    parseShareLink crates a = parseShareLink crates b := by
  have hstarts : ∀ name : String, ':' ∉ name.toList →
      startsWithCi (trim a) (name ++ "://") = startsWithCi (trim b) (name ++ "://") := by
    intro name hname
    rw [ha, hb]
    exact startsWithCi_scheme scheme restA restB name hname
  have hprefixes : ∀ name ∈ ["vmess", "ss", "socks", "socks5", "socks4", "trojan", "vless",
      "hysteria2", "hy2", "tuic", "wireguard", "anytls", "naive", "naive+https", "naive+quic"],
      startsWithCi (trim a) (name ++ "://") = startsWithCi (trim b) (name ++ "://") := by
    intro name hname
    refine hstarts name ?_
    have hplain : (["vmess", "ss", "socks", "socks5", "socks4", "trojan", "vless", "hysteria2",
        "hy2", "tuic", "wireguard", "anytls", "naive", "naive+https", "naive+quic"].all
          fun name => !name.toList.contains ':') = true := by
      decide +kernel
    simpa using List.all_eq_true.mp hplain name hname
  simp only [List.forall_mem_cons, List.not_mem_nil, false_implies, implies_true,
    and_true] at hprefixes
  obtain ⟨h1, h2, h3, h4, h5, h6, h7, h8, h9, h10, h11, h12, h13, h14, h15⟩ := hprefixes
  have hlink := fun protocol schemes fill (hfill : SeesOnlyRead fill) required =>
    @linkParse_agree crates (trim a) (trim b) hurls protocol schemes fill hfill required
  unfold parseShareLink
  simp only [if_neg (trim_ne_empty ha), if_neg (trim_ne_empty hb)]
  by_cases hscheme : startsWithCi (trim a) "vmess://" = true
  · have hschemeB : startsWithCi (trim b) "vmess://" = true := h1.symm.trans hscheme
    rw [if_pos hscheme, if_pos hschemeB]
    obtain ⟨hatA, hatB⟩ := hvmess hscheme
    exact vmessParse_agree hurls (trim_trim a) (trim_trim b) hscheme hschemeB hatA hatB
  · have hschemeB : ¬startsWithCi (trim b) "vmess://" = true := by
      intro hstart
      exact hscheme (h1.trans hstart)
    rw [if_neg hscheme, if_neg hschemeB]
    have hss := shadowsocksParse_agree hurls
    have hsocks : socksParse crates (trim a) = socksParse crates (trim b) :=
      hlink _ _ _ socks_seesOnlyRead _
    have htrojan : trojanParse crates (trim a) = trojanParse crates (trim b) :=
      hlink _ _ _ (trojan_seesOnlyRead crates) _
    have hvless : vlessParse crates (trim a) = vlessParse crates (trim b) :=
      hlink _ _ _ (vless_seesOnlyRead crates) _
    have hhysteria2 : hysteria2Parse crates (trim a) = hysteria2Parse crates (trim b) :=
      hlink _ _ _ (hysteria2_seesOnlyRead crates) _
    have htuic : tuicParse crates (trim a) = tuicParse crates (trim b) :=
      hlink _ _ _ (tuic_seesOnlyRead crates) _
    have hwireguard : wireguardParse crates (trim a) = wireguardParse crates (trim b) :=
      hlink _ _ _ wireguard_seesOnlyRead _
    have hanytls : anytlsParse crates (trim a) = anytlsParse crates (trim b) :=
      hlink _ _ _ (anytls_seesOnlyRead crates) _
    have hnaive : naiveParse crates (trim a) = naiveParse crates (trim b) :=
      hlink _ _ _ (naive_seesOnlyRead crates) _
    rw [hss, hsocks, htrojan, hvless, hhysteria2, htuic, hwireguard, hanytls, hnaive]
    rw [show startsWithCi (trim a) "ss://" = _ from h2,
      show startsWithCi (trim a) "socks://" = _ from h3,
      show startsWithCi (trim a) "socks5://" = _ from h4,
      show startsWithCi (trim a) "socks4://" = _ from h5,
      show startsWithCi (trim a) "trojan://" = _ from h6,
      show startsWithCi (trim a) "vless://" = _ from h7,
      show startsWithCi (trim a) hysteria2DefaultScheme = _ from h8,
      show startsWithCi (trim a) hysteria2AltScheme = _ from h9,
      show startsWithCi (trim a) "tuic://" = _ from h10,
      show startsWithCi (trim a) "wireguard://" = _ from h11,
      show startsWithCi (trim a) "anytls://" = _ from h12,
      show startsWithCi (trim a) "naive://" = _ from h13,
      show startsWithCi (trim a) naiveHttpsScheme = _ from h14,
      show startsWithCi (trim a) naiveQuicScheme = _ from h15]
    rfl

/-- Two vmess links are read alike when their objects agree on the members that are read. -/
theorem parseShareLink_objects {a b : String} {objectA objectB : Value}
    (ha : VmessObject crates (trim a) objectA) (hb : VmessObject crates (trim b) objectB)
    (hagree : ∀ key ∈ objectKeys, objectA.get key = objectB.get key) :
    parseShareLink crates a = parseShareLink crates b := by
  obtain ⟨hschemeA, hneA⟩ := startsWithCi_of_vmessObject ha
  obtain ⟨hschemeB, hneB⟩ := startsWithCi_of_vmessObject hb
  unfold parseShareLink
  simp only [if_neg hneA, if_neg hneB, if_pos hschemeA, if_pos hschemeB]
  rw [vmessParse_object (trim_trim a) ha, vmessParse_object (trim_trim b) hb,
    vmessProfile_agree hagree]

theorem parseShareLink_agree {a b : String} (h : FlagsApart crates a b) :
    parseShareLink crates a = parseShareLink crates b := by
  cases h with
  | uri scheme restA restB ha hb hvmess hurls =>
    exact parseShareLink_uri ha hb hvmess hurls.readAgree
  | object objectA objectB ha hb hagree =>
    exact parseShareLink_objects ha hb fun key hkey => hagree key (objectKeys_plain key hkey)

/-- Only the user's own default skips the verification of a certificate, and only for plain TLS
without a pinned certificate; the flags of a link change no outbound. -/
theorem verification_kept (crates : Crates) (leafCrates : ContextBuilder.Crates) :
    (∀ context node,
      skipsVerification (SingboxLeaf.buildOutbound leafCrates context node) →
        context.appConfig.coreBasicItem.defAllowInsecure = true ∧
          ∃ tls, node.tls = some tls ∧ tls.mode = .tls ∧ pinnedCertificates tls = []) ∧
      ∀ a b, FlagsApart crates a b →
        parseShareLink crates a = parseShareLink crates b ∧
          ∀ context, (parseShareLink crates a).map (SingboxLeaf.buildOutbound leafCrates context) =
            (parseShareLink crates b).map (SingboxLeaf.buildOutbound leafCrates context) := by
  constructor
  · exact fun context node => buildOutbound_insecure leafCrates context node
  · intro a b h
    have hagree := parseShareLink_agree h
    exact ⟨hagree, fun context => by rw [hagree]⟩

def trustingContext : ContextBuilder.CoreConfigContext :=
  ContextBuilder.initialContext (ContextBuilder.exampleStore [] []).env
    { coreBasicItem := { defAllowInsecure := true } } (ContextBuilder.exampleSocks "a")

def tlsNode : ProfileItem :=
  { remarks := "A", protocol := .trojan ⟨"example.com", 443⟩ "secret",
    tls := some { mode := .tls } }

theorem verification_kept_vless :
    (trustingContext.appConfig.coreBasicItem.defAllowInsecure = true ∧
      ∃ tls, tlsNode.tls = some tls ∧ tls.mode = .tls ∧ pinnedCertificates tls = []) ∧
    parseShareLink LinkReading.plainCrates
        "vless://id@example.com:443?security=tls&insecure=1&sni=example.org#A" =
      parseShareLink LinkReading.plainCrates
        "vless://id@example.com:443?allowInsecure=0&security=tls&sni=example.org#A" := by
  have h := verification_kept LinkReading.plainCrates ContextBuilder.exampleCrates
  refine ⟨h.1 trustingContext tlsNode ?_, (h.2 _ _ ?_).1⟩
  · exact ⟨_, rfl, rfl⟩
  · refine .uri "vless" "id@example.com:443?security=tls&insecure=1&sni=example.org#A"
      "id@example.com:443?allowInsecure=0&security=tls&sni=example.org#A" (by decide +kernel)
      (by decide +kernel) ?_ ?_
    · intro hvmess
      exact absurd hvmess (by decide +kernel)
    · refine ⟨{ scheme := "vless", username := "id", hostStr := some "example.com",
                port := some 443, fragment := some "A" },
        some "security=tls&insecure=1&sni=example.org",
        some "allowInsecure=0&security=tls&sni=example.org", by decide +kernel,
        by decide +kernel, ?_⟩
      exact parametersAgree_of_parts (by decide +kernel)

end Links

end InsecureFlags
