import VoyaVPN.IpDisplay
import VoyaVPN.RustText
import VoyaVPN.WhatwgUrl

/-! The requests of the Clash client, and which of their addresses a URL parser reads as they are
meant. -/
namespace ClashApi

open PercentText WhatwgUrl

section Requests

def isControl (char : Char) : Bool := char.toNat < 0x20 || char.toNat = 0x7F

def pathSegmentEncodeSet (char : Char) : Bool :=
  isControl char ||
    [' ', '\x22', '#', '%', '/', '<', '>', '?', '\x60', '\x7B', '\x7D'].contains char

def queryValueEncodeSet (char : Char) : Bool :=
  pathSegmentEncodeSet char || ['&', '+', ':', '='].contains char

/-- What `utf8_percent_encode` keeps; it never keeps what is not ASCII. -/
def kept (encodeSet : Char → Bool) (char : Char) : Bool := char.toNat < 0x80 && !encodeSet char

def encodeSegment (value : List Char) : List Char := encode (kept pathSegmentEncodeSet) value

def encodeQueryValue (value : List Char) : List Char := encode (kept queryValueEncodeSet) value

structure ClashApiEndpoint where
  host : List Char
  port : Nat
  secret : Option (List Char)

def loopback (port : Nat) : ClashApiEndpoint :=
  { host := "127.0.0.1".toList, port, secret := none }

def normalizeHost (host : List Char) : List Char :=
  if host.contains ':' && host.head? ≠ some '[' then '[' :: host ++ [']'] else host

def normalizePath (pathAndQuery : List Char) : List Char :=
  if pathAndQuery.head? = some '/' then pathAndQuery else '/' :: pathAndQuery

def ClashApiEndpoint.httpUrl (endpoint : ClashApiEndpoint) (pathAndQuery : List Char) : List Char :=
  "http://".toList ++ normalizeHost endpoint.host ++ ':' :: Nat.toDigits 10 endpoint.port ++
    normalizePath pathAndQuery

inductive ClashHttpMethod where
  | get
  | put
  | patch
  | delete
  deriving DecidableEq, Repr

structure ClashHttpRequest where
  method : ClashHttpMethod
  url : List Char
  body : Option (List (List Char × List Char))
  bearerToken : Option (List Char)

def requestValue (endpoint : ClashApiEndpoint) (method : ClashHttpMethod)
    (pathAndQuery : List Char) (body : Option (List (List Char × List Char))) : ClashHttpRequest :=
  { method, url := endpoint.httpUrl pathAndQuery, body, bearerToken := endpoint.secret }

def delayProxy (endpoint : ClashApiEndpoint) (proxyName : List Char) (timeoutMs : Nat)
    (testUrl : List Char) : ClashHttpRequest :=
  requestValue endpoint .get
    ("/proxies/".toList ++ encodeSegment proxyName ++ "/delay?timeout=".toList ++
      Nat.toDigits 10 timeoutMs ++ "&url=".toList ++ encodeQueryValue testUrl) none

def selectProxy (endpoint : ClashApiEndpoint) (groupName proxyName : List Char) :
    ClashHttpRequest :=
  requestValue endpoint .put ("/proxies/".toList ++ encodeSegment groupName)
    (some [("name".toList, proxyName)])

/-- The connection that is meant: none where the text is blank, which closes all of them. -/
def closedConnection (connectionId : Option (List Char)) : Option (List Char) :=
  (connectionId.map fun id => (RustText.trim (String.ofList id)).toList).filter (· ≠ [])

def closeConnection (endpoint : ClashApiEndpoint) (connectionId : Option (List Char)) :
    ClashHttpRequest :=
  requestValue endpoint .delete
    (((closedConnection connectionId).map fun id => "/connections/".toList ++ encodeSegment id).getD
      "/connections".toList) none

end Requests

section Statement

/-- The requests whose addresses have names or values of the caller. -/
inductive Call where
  | delayProxy (proxyName : List Char) (timeoutMs : Nat) (testUrl : List Char)
  | selectProxy (groupName proxyName : List Char)
  | closeConnection (connectionId : Option (List Char))

def Call.request (endpoint : ClashApiEndpoint) : Call → ClashHttpRequest
  | .delayProxy proxyName timeoutMs testUrl =>
    ClashApi.delayProxy endpoint proxyName timeoutMs testUrl
  | .selectProxy groupName proxyName => ClashApi.selectProxy endpoint groupName proxyName
  | .closeConnection connectionId => ClashApi.closeConnection endpoint connectionId

def Call.name : Call → Option (List Char)
  | .delayProxy proxyName _ _ => some proxyName
  | .selectProxy groupName _ => some groupName
  | .closeConnection connectionId => closedConnection connectionId

def Call.segments : Call → List (List Char)
  | .delayProxy proxyName _ _ => ["proxies".toList, proxyName, "delay".toList]
  | .selectProxy groupName _ => ["proxies".toList, groupName]
  | .closeConnection connectionId => "connections".toList :: (closedConnection connectionId).toList

def Call.parameters : Call → List (List Char × List Char)
  | .delayProxy _ timeoutMs testUrl =>
    [("timeout".toList, Nat.toDigits 10 timeoutMs), ("url".toList, testUrl)]
  | .selectProxy _ _ | .closeConnection _ => []

/-- A URL parser reads the segments and parameters that are meant. -/
def Addresses (endpoint : ClashApiEndpoint) (call : Call) : Prop :=
  ∃ url, parseHttp (call.request endpoint).url = some url ∧ url.segments = call.segments ∧
    url.parameters = call.parameters

/-- A name that a URL parser neither splits nor resolves. -/
def IsSegment (name : List Char) : Prop := '\\' ∉ name ∧ name ≠ ['.'] ∧ name ≠ ['.', '.']

end Statement

section Characters

theorem mem_kept {encodeSet : Char → Bool} {value : List Char} {char : Char}
    (h : char ∈ encode (kept encodeSet) value) :
    (char.toNat < 0x80 ∧ encodeSet char = false) ∨ char = '%' ∨ ∃ n < 16, char = hexDigit n := by
  rcases mem_encode h with hkept | hrest
  · rw [kept, Bool.and_eq_true, decide_eq_true_eq, Bool.not_eq_true'] at hkept
    exact Or.inl hkept
  · exact Or.inr hrest

theorem hexDigit_plain : ∀ n < 16, 0x20 < (hexDigit n).toNat ∧ endsPath (hexDigit n) = false ∧
    isSlash (hexDigit n) = false ∧ isPathChar (hexDigit n) = true ∧
      isQueryChar (hexDigit n) = true ∧ hexDigit n ≠ '&' ∧ hexDigit n ≠ '+' := by
  decide

theorem not_encoded {char special : Char} (h : pathSegmentEncodeSet char = false)
    (hspecial : pathSegmentEncodeSet special = true) : char ≠ special := by
  rintro rfl
  rw [h] at hspecial
  cases hspecial

theorem low_of_segmentSet {char : Char} (h : pathSegmentEncodeSet char = false) :
    0x20 < char.toNat := by
  have hspace : char ≠ ' ' := not_encoded h (by decide)
  rw [pathSegmentEncodeSet, Bool.or_eq_false_iff, isControl, Bool.or_eq_false_iff,
    decide_eq_false_iff_not] at h
  have hne : char.toNat ≠ 0x20 := fun heq => hspace (Char.toNat_inj.mp heq)
  have hlow := h.1.1
  omega

theorem mem_encodeSegment {value : List Char} {char : Char} (h : char ∈ encodeSegment value) :
    0x20 < char.toNat ∧ endsPath char = false := by
  rcases mem_kept h with ⟨-, hset⟩ | rfl | ⟨n, hn, rfl⟩
  · have hquestion : char ≠ '?' := not_encoded hset (by decide)
    have hfragment : char ≠ '#' := not_encoded hset (by decide)
    exact ⟨low_of_segmentSet hset, by simp [endsPath, hquestion, hfragment]⟩
  · decide
  · exact ⟨(hexDigit_plain n hn).1, (hexDigit_plain n hn).2.1⟩

theorem mem_encodeQueryValue {value : List Char} {char : Char}
    (h : char ∈ encodeQueryValue value) :
    0x20 < char.toNat ∧ char ≠ '#' ∧ char ≠ '&' ∧ char ≠ '+' := by
  rcases mem_kept h with ⟨-, hset⟩ | rfl | ⟨n, hn, rfl⟩
  · rw [queryValueEncodeSet, Bool.or_eq_false_iff] at hset
    have hother : ∀ special ∈ ['&', '+', ':', '='], char ≠ special := by
      rintro special hmem rfl
      rw [List.contains_iff_mem.mpr hmem] at hset
      exact absurd hset.2 (by decide)
    exact ⟨low_of_segmentSet hset.1, not_encoded hset.1 (by decide), hother '&' (by decide),
      hother '+' (by decide)⟩
  · decide
  · obtain ⟨hlow, hends, -, -, -, hamp, hplus⟩ := hexDigit_plain n hn
    refine ⟨hlow, ?_, hamp, hplus⟩
    rintro heq
    rw [heq] at hends
    exact absurd hends (by decide)

theorem mem_toDigits {n : Nat} {char : Char} (h : char ∈ Nat.toDigits 10 n) :
    0x20 < char.toNat ∧ isSlash char = false ∧ endsPath char = false ∧ char ≠ '&' ∧ char ≠ '+' ∧
      isQueryChar char = true ∧ char ≠ '%' := by
  have hdigit : ∀ d < 10, 0x20 < (Nat.digitChar d).toNat ∧ isSlash (Nat.digitChar d) = false ∧
      endsPath (Nat.digitChar d) = false ∧ Nat.digitChar d ≠ '&' ∧ Nat.digitChar d ≠ '+' ∧
        isQueryChar (Nat.digitChar d) = true ∧ Nat.digitChar d ≠ '%' := by
    decide
  obtain ⟨ds, htext, hsmall, -⟩ := IpAddr.exists_digits (by decide : 1 < 10) n
  rw [htext, List.mem_map] at h
  obtain ⟨d, hd, rfl⟩ := h
  exact hdigit d (hsmall d hd)

end Characters

section Paths

theorem splitOnP_encodeSegment (name : List Char) :
    (encodeSegment name).splitOnP isSlash = (name.splitOnP (· == '\\')).map encodeSegment := by
  have hseparator : (fun char => kept pathSegmentEncodeSet char && isSlash char) =
      (· == '\\') := by
    funext char
    by_cases hbackslash : char = '\\'
    · rw [hbackslash]
      rfl
    · by_cases hslash : char = '/'
      · rw [hslash]
        rfl
      · simp [isSlash, hbackslash, hslash]
  rw [encodeSegment, splitOnP_encode (by decide) (fun n hn => (hexDigit_plain n hn).2.2.1),
    hseparator]
  rfl

/-- A name as it stands in the path that is read. -/
def readSegment (name : List Char) : List Char :=
  encode (fun char => kept pathSegmentEncodeSet char && isPathChar char) name

theorem encode_encodeSegment (name : List Char) :
    encode isPathChar (encodeSegment name) = readSegment name :=
  encode_encode (by decide) (fun n hn => (hexDigit_plain n hn).2.2.2.1) name

theorem decode_readSegment (name : List Char) : decode (readSegment name) = name :=
  decode_encode (by decide) name

/-- How the segments behind a name stand in a path. -/
def segmentTail (last : Option (List Char)) : List Char := (last.map ('/' :: ·)).getD []

/-- The fixed texts, of small letters only. -/
def IsWord (word : List Char) : Prop :=
  word.all (fun char => 0x61 ≤ char.toNat && char.toNat ≤ 0x7A) = true

theorem isWord_plain {word : List Char} (h : IsWord word) {char : Char} (hchar : char ∈ word) :
    0x20 < char.toNat ∧ isSlash char = false ∧ endsPath char = false ∧ isPathChar char = true ∧
      isQueryChar char = true ∧ char ≠ '%' ∧ char ≠ '.' ∧ char ≠ '+' ∧ char ≠ '=' ∧ char ≠ '&' := by
  have hletter : ∀ n < 26, 0x20 < (Char.ofNat (0x61 + n)).toNat ∧
      isSlash (Char.ofNat (0x61 + n)) = false ∧ endsPath (Char.ofNat (0x61 + n)) = false ∧
        isPathChar (Char.ofNat (0x61 + n)) = true ∧ isQueryChar (Char.ofNat (0x61 + n)) = true ∧
          Char.ofNat (0x61 + n) ≠ '%' ∧ Char.ofNat (0x61 + n) ≠ '.' ∧
            Char.ofNat (0x61 + n) ≠ '+' ∧ Char.ofNat (0x61 + n) ≠ '=' ∧
              Char.ofNat (0x61 + n) ≠ '&' := by
    decide
  have hrange := List.all_eq_true.mp h char hchar
  rw [Bool.and_eq_true, decide_eq_true_eq, decide_eq_true_eq] at hrange
  have hvalue : Char.ofNat (0x61 + (char.toNat - 0x61)) = char := by
    rw [Nat.add_sub_cancel' hrange.1, Char.ofNat_toNat]
  have hplain := hletter (char.toNat - 0x61) (by omega)
  rw [hvalue] at hplain
  exact hplain

theorem not_dots {word : List Char} (h : IsWord word) :
    isSingleDot word = false ∧ isDoubleDot word = false := by
  have hdots : ∀ {count : List Char}, decode word = count → (∀ char ∈ count, char = '.') →
      count ≠ [] → False := by
    intro count hcount hall hne
    have hplain : decode word = word :=
      decode_of_plain fun hmem => (isWord_plain h hmem).2.2.2.2.2.1 rfl
    obtain ⟨char, hchar⟩ := List.exists_mem_of_ne_nil _ hne
    have hmem : char ∈ word := by
      rw [← hplain, hcount]
      exact hchar
    exact (isWord_plain h hmem).2.2.2.2.2.2.1 (hall char hchar)
  constructor
  · rw [Bool.eq_false_iff]
    exact fun hsingle => hdots (decode_single hsingle) (by simp) (by simp)
  · rw [Bool.eq_false_iff]
    exact fun hdouble => hdots (decode_double hdouble) (by simp) (by simp)

theorem splitOnP_word {word : List Char} (h : IsWord word) : word.splitOnP isSlash = [word] :=
  splitOnP_piece fun _ hchar => (isWord_plain h hchar).2.1

theorem encode_word {word : List Char} (h : IsWord word) : encode isPathChar word = word :=
  encode_self fun _ hchar => (isWord_plain h hchar).2.2.2.1

theorem decode_word {word : List Char} (h : IsWord word) : decode word = word :=
  decode_of_plain fun hchar => (isWord_plain h hchar).2.2.2.2.2.1 rfl

theorem pathOf_named {front name : List Char} {last : Option (List Char)} (hfront : IsWord front)
    (hlast : ∀ word, last = some word → IsWord word) :
    pathOf (front ++ '/' :: (encodeSegment name ++ segmentTail last)) =
      resolve [] (front :: ((name.splitOnP (· == '\\')).map readSegment ++ last.toList)) := by
  have hpieces : (encodeSegment name ++ segmentTail last).splitOnP isSlash =
      (name.splitOnP (· == '\\')).map encodeSegment ++ last.toList := by
    cases last with
    | none =>
      simp only [segmentTail, Option.map_none, Option.getD_none, List.append_nil,
        Option.toList_none, splitOnP_encodeSegment]
    | some word =>
      have hword := hlast word rfl
      simp only [segmentTail, Option.map_some, Option.getD_some, Option.toList_some]
      rw [splitOnP_next (by decide), splitOnP_encodeSegment, splitOnP_word hword]
  have hreads : (last.toList).map (encode isPathChar) = last.toList := by
    cases last with
    | none => rfl
    | some word => rw [Option.toList_some, List.map_singleton, encode_word (hlast word rfl)]
  have hnames : ((name.splitOnP (· == '\\')).map encodeSegment).map (encode isPathChar) =
      (name.splitOnP (· == '\\')).map readSegment := by
    rw [List.map_map]
    exact List.map_congr_left fun piece _ => encode_encodeSegment piece
  rw [pathOf, splitOnP_next (by decide), splitOnP_word hfront, hpieces, List.singleton_append,
    List.map_cons, List.map_append, encode_word hfront, hnames, hreads]

/-- The segments that are read are those that are meant where the name is a segment. -/
theorem segments_named_iff {front name : List Char} {last : Option (List Char)}
    (hfront : IsWord front) (hlast : ∀ word, last = some word → IsWord word) :
    (pathOf (front ++ '/' :: (encodeSegment name ++ segmentTail last))).map decode =
        front :: name :: last.toList ↔ IsSegment name := by
  rw [pathOf_named hfront hlast]
  have hwords : (last.toList).map decode = last.toList := by
    cases last with
    | none => rfl
    | some word => rw [Option.toList_some, List.map_singleton, decode_word (hlast word rfl)]
  constructor
  · intro h
    refine ⟨?_, ?_, ?_⟩
    · -- no segment that is read has a backslash
      intro hbackslash
      have hname : name ∈ (resolve [] (front :: ((name.splitOnP (· == '\\')).map readSegment ++
          last.toList))).map decode := by
        rw [h]
        exact List.mem_cons_of_mem _ List.mem_cons_self
      obtain ⟨segment, hsegment, hdecode⟩ := List.mem_map.mp hname
      have hword : ∀ word, IsWord word → decode word ≠ name := by
        rintro word hword rfl
        rw [decode_word hword] at hbackslash
        exact absurd (isWord_plain hword hbackslash).2.1 (by decide)
      rcases mem_resolve hsegment with hmem | hmem | rfl
      · exact absurd hmem List.not_mem_nil
      · rcases List.mem_cons.mp hmem with rfl | hmem
        · exact hword _ hfront hdecode
        · rcases List.mem_append.mp hmem with hmem | hmem
          · obtain ⟨piece, hpiece, rfl⟩ := List.mem_map.mp hmem
            rw [decode_readSegment] at hdecode
            have hnone := not_separator hpiece (hdecode ▸ hbackslash)
            exact absurd hnone (by decide)
          · exact hword _ (hlast segment (Option.mem_toList.mp hmem)) hdecode
      · rw [← hdecode] at hbackslash
        exact absurd hbackslash (by decide)
    · rintro rfl
      have hpieces : (['.'].splitOnP (· == '\\')).map readSegment = [['.']] := by decide
      rw [hpieces, List.singleton_append,
        resolve_cons (List.cons_ne_nil _ _) (not_dots hfront)] at h
      cases last with
      | none =>
        have hnames := List.cons.inj h
        exact absurd hnames.2 (by decide)
      | some word =>
        have hword : resolve [front] [word] = [front] ++ [word] :=
          resolve_plain (by simpa using not_dots (hlast word rfl))
        have hresolve : resolve [front] [['.'], word] = [front, word] := hword
        exact absurd (congrArg List.length (hresolve ▸ h)) (by simp)
    · rintro rfl
      have hpieces : (['.', '.'].splitOnP (· == '\\')).map readSegment = [['.', '.']] := by decide
      rw [hpieces, List.singleton_append,
        resolve_cons (List.cons_ne_nil _ _) (not_dots hfront)] at h
      cases last with
      | none =>
        have hresolve : resolve [front] [['.', '.']] = [[]] := rfl
        exact absurd (congrArg List.length (hresolve ▸ h)) (by simp)
      | some word =>
        have hword : resolve [] [word] = [] ++ [word] :=
          resolve_plain (by simpa using not_dots (hlast word rfl))
        have hresolve : resolve [front] [['.', '.'], word] = [word] := hword
        exact absurd (congrArg List.length (hresolve ▸ h)) (by simp)
  · rintro ⟨hbackslash, hsingle, hdouble⟩
    have hpieces : (name.splitOnP (· == '\\')).map readSegment = [readSegment name] := by
      rw [splitOnP_piece]
      · rfl
      · intro char hchar
        simpa using fun heq : char = '\\' => hbackslash (heq ▸ hchar)
    have hname : isSingleDot (readSegment name) = false ∧
      isDoubleDot (readSegment name) = false := by
      have hdecode := decode_readSegment name
      constructor
      · rw [Bool.eq_false_iff]
        exact fun h => hsingle (hdecode ▸ decode_single h)
      · rw [Bool.eq_false_iff]
        exact fun h => hdouble (hdecode ▸ decode_double h)
    rw [hpieces, resolve_plain, List.nil_append, List.map_cons, List.map_append, hwords,
      decode_word hfront, List.map_singleton, decode_readSegment]
    · rfl
    · intro piece hpiece
      rcases List.mem_cons.mp hpiece with rfl | hpiece
      · exact not_dots hfront
      · rcases List.mem_append.mp hpiece with hpiece | hpiece
        · rw [List.mem_singleton.mp hpiece]
          exact hname
        · exact not_dots (hlast piece (Option.mem_toList.mp hpiece))

end Paths

section Queries

def queryText (first second digits value : List Char) : List Char :=
  (first ++ '=' :: digits) ++ '&' :: (second ++ '=' :: encodeQueryValue value)

theorem parameters_two {first second : List Char} (hfirst : IsWord first) (hsecond : IsWord second)
    (n : Nat) (value : List Char) :
    formPairs (encode isQueryChar (queryText first second (Nat.toDigits 10 n) value)) =
      [(first, Nat.toDigits 10 n), (second, value)] := by
  have hvalue : encode isQueryChar (encodeQueryValue value) =
      encode (fun char => kept queryValueEncodeSet char && isQueryChar char) value :=
    encode_encode (by decide) (fun n hn => (hexDigit_plain n hn).2.2.2.2.1) value
  have hwordText : ∀ {word : List Char}, IsWord word → encode isQueryChar word = word :=
    fun hword => encode_self fun _ hchar => (isWord_plain hword hchar).2.2.2.2.1
  have hdigits : encode isQueryChar (Nat.toDigits 10 n) = Nat.toDigits 10 n :=
    encode_self fun _ hchar => (mem_toDigits hchar).2.2.2.2.2.1
  have hsame : encode isQueryChar ['='] = ['='] ∧ encode isQueryChar ['&'] = ['&'] := by decide
  have htext : encode isQueryChar (queryText first second (Nat.toDigits 10 n) value) =
      (first ++ '=' :: Nat.toDigits 10 n) ++ '&' :: (second ++ '=' ::
        encode (fun char => kept queryValueEncodeSet char && isQueryChar char) value) := by
    have hsplit : queryText first second (Nat.toDigits 10 n) value =
        first ++ (['='] ++ (Nat.toDigits 10 n ++ (['&'] ++ (second ++ (['='] ++
          encodeQueryValue value))))) := by
      simp [queryText]
    rw [hsplit]
    simp only [encode_append, hwordText hfirst, hwordText hsecond, hdigits, hvalue,
      hsame.1, hsame.2]
    simp
  have hreadValue : ∀ char ∈ encode (fun char => kept queryValueEncodeSet char && isQueryChar char)
      value, char ≠ '&' ∧ char ≠ '+' := by
    intro char hchar
    rcases mem_encode hchar with hkept | rfl | ⟨n, hn, rfl⟩
    · have hplain : char ∈ encodeQueryValue [char] := by
        rw [Bool.and_eq_true] at hkept
        rw [encodeQueryValue, encode_self (by simpa using hkept.1)]
        exact List.mem_singleton_self char
      exact (mem_encodeQueryValue hplain).2.2
    · decide
    · exact (hexDigit_plain n hn).2.2.2.2.2
  have hfirstPiece : (first ++ '=' :: Nat.toDigits 10 n).splitOnP (· == '&') =
      [first ++ '=' :: Nat.toDigits 10 n] := by
    apply splitOnP_piece
    intro char hchar
    have hne : char ≠ '&' := by
      rcases List.mem_append.mp hchar with hchar | hchar
      · exact (isWord_plain hfirst hchar).2.2.2.2.2.2.2.2.2
      · rcases List.mem_cons.mp hchar with rfl | hchar
        · decide
        · exact (mem_toDigits hchar).2.2.2.1
    simpa using hne
  have hsecondPiece : (second ++ '=' ::
      encode (fun char => kept queryValueEncodeSet char && isQueryChar char) value).splitOnP
        (· == '&') = [second ++ '=' ::
          encode (fun char => kept queryValueEncodeSet char && isQueryChar char) value] := by
    apply splitOnP_piece
    intro char hchar
    have hne : char ≠ '&' := by
      rcases List.mem_append.mp hchar with hchar | hchar
      · exact (isWord_plain hsecond hchar).2.2.2.2.2.2.2.2.2
      · rcases List.mem_cons.mp hchar with rfl | hchar
        · decide
        · exact (hreadValue char hchar).1
    simpa using hne
  have hwordForm : ∀ {word : List Char}, IsWord word → formText word = word := by
    intro word hword
    rw [formText_plain fun hmem => (isWord_plain hword hmem).2.2.2.2.2.2.2.1 rfl,
      decode_word hword]
  have hdigitsForm : formText (Nat.toDigits 10 n) = Nat.toDigits 10 n := by
    rw [formText_plain fun hmem => (mem_toDigits hmem).2.2.2.2.1 rfl,
      decode_of_plain fun hmem => (mem_toDigits hmem).2.2.2.2.2.2 rfl]
  have hvalueForm : formText
      (encode (fun char => kept queryValueEncodeSet char && isQueryChar char) value) = value := by
    rw [formText_plain fun hmem => (hreadValue '+' hmem).2 rfl, decode_encode (by decide)]
  rw [htext, formPairs, splitOnP_next (by decide), hfirstPiece, hsecondPiece,
    List.singleton_append, List.filter_cons_of_pos (by simp), List.filter_cons_of_pos (by simp),
    List.filter_nil, List.map_cons, List.map_cons, List.map_nil,
    formPair_eq fun hmem => (isWord_plain hfirst hmem).2.2.2.2.2.2.2.2.1 rfl,
    formPair_eq fun hmem => (isWord_plain hsecond hmem).2.2.2.2.2.2.2.2.1 rfl,
    hwordForm hfirst, hwordForm hsecond, hdigitsForm, hvalueForm]

theorem queryText_chars {first second : List Char} (hfirst : IsWord first) (hsecond : IsWord second)
    (n : Nat) (value : List Char) {char : Char}
    (h : char ∈ queryText first second (Nat.toDigits 10 n) value) :
    0x20 < char.toNat ∧ char ≠ '#' := by
  have hword : ∀ {word : List Char}, IsWord word → char ∈ word →
      0x20 < char.toNat ∧ char ≠ '#' := by
    intro word hword hmem
    have hplain := isWord_plain hword hmem
    refine ⟨hplain.1, ?_⟩
    rintro rfl
    exact absurd hplain.2.2.1 (by decide)
  rcases List.mem_append.mp h with h | h
  · rcases List.mem_append.mp h with h | h
    · exact hword hfirst h
    · rcases List.mem_cons.mp h with rfl | h
      · decide
      · have hdigit := mem_toDigits h
        refine ⟨hdigit.1, ?_⟩
        rintro rfl
        exact absurd hdigit.2.2.1 (by decide)
  · rcases List.mem_cons.mp h with rfl | h
    · decide
    · rcases List.mem_append.mp h with h | h
      · exact hword hsecond h
      · rcases List.mem_cons.mp h with rfl | h
        · decide
        · exact ⟨(mem_encodeQueryValue h).1, (mem_encodeQueryValue h).2.1⟩

end Queries

section Addresses

def loopbackAuthority (port : Nat) : List Char :=
  "127.0.0.1".toList ++ ':' :: Nat.toDigits 10 port

theorem host_plain : ("127.0.0.1".toList.all fun char =>
    0x20 < char.toNat && !isSlash char && !endsPath char) = true := by
  rewrite [String.toList_ofList]
  decide

theorem append_parts {α : Type} (first second third fourth : List α) :
    first ++ second ++ third ++ fourth = first ++ ((second ++ third) ++ fourth) := by
  simp only [List.append_assoc]

theorem httpUrl_loopback (port : Nat) (path : List Char) :
    (loopback port).httpUrl ('/' :: path) =
      ['h', 't', 't', 'p', ':', '/', '/'] ++ (loopbackAuthority port ++ '/' :: path) := by
  have hurl : (loopback port).httpUrl ('/' :: path) =
      "http://".toList ++ normalizeHost "127.0.0.1".toList ++ ':' :: Nat.toDigits 10 port ++
        normalizePath ('/' :: path) := rfl
  have hhost : normalizeHost "127.0.0.1".toList = "127.0.0.1".toList := by
    rewrite [String.toList_ofList]
    decide
  have hscheme : "http://".toList = ['h', 't', 't', 'p', ':', '/', '/'] := String.toList_ofList
  have hpath : normalizePath ('/' :: path) = '/' :: path := if_pos rfl
  rewrite [hurl, hhost, hscheme, hpath]
  exact append_parts _ _ _ _

theorem parse_loopback (port : Nat) {path : List Char} {query : Option (List Char)}
    (hpath : ∀ char ∈ path, 0x20 < char.toNat ∧ endsPath char = false)
    (hquery : ∀ text, query = some text → ∀ char ∈ text, 0x20 < char.toNat ∧ char ≠ '#') :
    ∃ url, parseHttp ((loopback port).httpUrl ('/' :: path ++ queryTail query)) = some url ∧
      url.path = pathOf path ∧ url.query = query.map (encode isQueryChar) := by
  have hauthority : ∀ char ∈ loopbackAuthority port,
      0x20 < char.toNat ∧ isSlash char = false ∧ endsPath char = false := by
    intro char hchar
    rcases List.mem_append.mp hchar with hchar | hchar
    · have hplain := List.all_eq_true.mp host_plain char hchar
      rw [Bool.and_eq_true, Bool.and_eq_true, decide_eq_true_eq, Bool.not_eq_true',
        Bool.not_eq_true'] at hplain
      exact ⟨hplain.1.1, hplain.1.2, hplain.2⟩
    · rcases List.mem_cons.mp hchar with rfl | hchar
      · decide
      · have hdigit := mem_toDigits hchar
        exact ⟨hdigit.1, hdigit.2.1, hdigit.2.2.1⟩
  have hne : loopbackAuthority port ≠ [] :=
    List.append_ne_nil_of_right_ne_nil _ (List.cons_ne_nil _ _)
  rw [List.cons_append, httpUrl_loopback, ← List.cons_append]
  exact ⟨_, parseHttp_address hne hauthority hpath hquery, rfl, rfl⟩

theorem path_chars {front name : List Char} {last : Option (List Char)} (hfront : IsWord front)
    (hlast : ∀ word, last = some word → IsWord word) {char : Char}
    (h : char ∈ front ++ '/' :: (encodeSegment name ++ segmentTail last)) :
    0x20 < char.toNat ∧ endsPath char = false := by
  have hword : ∀ {word : List Char}, IsWord word → char ∈ word →
      0x20 < char.toNat ∧ endsPath char = false := by
    intro word hword hmem
    have hplain := isWord_plain hword hmem
    exact ⟨hplain.1, hplain.2.2.1⟩
  rcases List.mem_append.mp h with h | h
  · exact hword hfront h
  · rcases List.mem_cons.mp h with rfl | h
    · decide
    · rcases List.mem_append.mp h with h | h
      · exact mem_encodeSegment h
      · cases last with
        | none => exact absurd h List.not_mem_nil
        | some word =>
          rcases List.mem_cons.mp h with rfl | h
          · decide
          · exact hword (hlast word rfl) h

theorem addresses_named (port : Nat) (call : Call) (front name : List Char)
    (last query : Option (List Char)) (hfront : IsWord front)
    (hlast : ∀ word, last = some word → IsWord word)
    (hquery : ∀ text, query = some text → ∀ char ∈ text, 0x20 < char.toNat ∧ char ≠ '#')
    (hurl : (call.request (loopback port)).url = (loopback port).httpUrl
      ('/' :: (front ++ '/' :: (encodeSegment name ++ segmentTail last)) ++ queryTail query))
    (hsegments : call.segments = front :: name :: last.toList)
    (hparameters : ((query.map (encode isQueryChar)).map formPairs).getD [] = call.parameters) :
    Addresses (loopback port) call ↔ IsSegment name := by
  obtain ⟨url, hparse, hpath, hread⟩ := parse_loopback port
    (fun _ hchar => path_chars hfront hlast hchar) hquery
  rw [← segments_named_iff hfront hlast, ← hpath, ← hsegments]
  constructor
  · rintro ⟨other, hother, hsame, -⟩
    rw [hurl, hparse] at hother
    cases hother
    exact hsame
  · intro hsame
    refine ⟨url, by rw [hurl, hparse], hsame, ?_⟩
    rw [Url.parameters, hread, hparameters]

theorem words_plain : IsWord "proxies".toList ∧ IsWord "connections".toList ∧
    IsWord "delay".toList ∧ IsWord "timeout".toList ∧ IsWord "url".toList := by
  repeat rewrite [String.toList_ofList]
  unfold IsWord
  decide

theorem addresses_delay (port : Nat) (proxyName : List Char) (timeoutMs : Nat)
    (testUrl : List Char) :
    Addresses (loopback port) (.delayProxy proxyName timeoutMs testUrl) ↔ IsSegment proxyName := by
  obtain ⟨hproxies, -, hdelay, htimeout, hurlWord⟩ := words_plain
  refine addresses_named port _ _ proxyName (some "delay".toList)
    (some (queryText "timeout".toList "url".toList (Nat.toDigits 10 timeoutMs) testUrl)) hproxies
      ?_ ?_ ?_ rfl ?_
  · rintro word heq
    cases heq
    exact hdelay
  · rintro text heq char hchar
    cases heq
    exact queryText_chars htimeout hurlWord timeoutMs testUrl hchar
  · simp only [Call.request, delayProxy, requestValue, segmentTail, queryTail, queryText,
      Option.map_some, Option.getD_some]
    repeat rewrite [String.toList_ofList]
    simp only [List.append_assoc, List.cons_append, List.nil_append]
  · simp only [Option.map_some, Option.getD_some, parameters_two htimeout hurlWord]
    rfl

theorem addresses_select (port : Nat) (groupName proxyName : List Char) :
    Addresses (loopback port) (.selectProxy groupName proxyName) ↔ IsSegment groupName := by
  refine addresses_named port _ _ groupName none none words_plain.1
    (fun _ heq => nomatch heq) (fun _ heq => nomatch heq) ?_ rfl rfl
  simp only [Call.request, selectProxy, requestValue, segmentTail, queryTail, Option.map_none,
    Option.getD_none, List.append_nil]
  repeat rewrite [String.toList_ofList]
  simp only [List.cons_append, List.nil_append]

theorem addresses_close (port : Nat) {connectionId : Option (List Char)} {id : List Char}
    (h : closedConnection connectionId = some id) :
    Addresses (loopback port) (.closeConnection connectionId) ↔ IsSegment id := by
  refine addresses_named port _ _ id none none words_plain.2.1
    (fun _ heq => nomatch heq) (fun _ heq => nomatch heq) ?_ ?_ rfl
  · simp only [Call.request, closeConnection, requestValue, h, segmentTail, queryTail,
      Option.map_none, Option.getD_none, List.append_nil, Option.map_some, Option.getD_some]
    repeat rewrite [String.toList_ofList]
    simp only [List.cons_append, List.nil_append]
  · rw [Call.segments, h]
    rfl

theorem addresses_close_all (port : Nat) {connectionId : Option (List Char)}
    (h : closedConnection connectionId = none) :
    Addresses (loopback port) (.closeConnection connectionId) := by
  have hword := words_plain.2.1
  have hpath : ∀ char ∈ "connections".toList, 0x20 < char.toNat ∧ endsPath char = false :=
    fun char hchar => ⟨(isWord_plain hword hchar).1, (isWord_plain hword hchar).2.2.1⟩
  have hsome : ∃ url, parseHttp ((loopback port).httpUrl
      ('/' :: "connections".toList ++ queryTail none)) = some url ∧
        url.path = pathOf "connections".toList ∧ url.query = none :=
    parse_loopback port hpath fun _ heq => nomatch heq
  obtain ⟨url, hparse, hsegments, hread⟩ := hsome
  have hurl : (Call.request (loopback port) (.closeConnection connectionId)).url =
      (loopback port).httpUrl ('/' :: "connections".toList ++ queryTail none) := by
    simp only [Call.request, closeConnection, requestValue, h, queryTail, Option.map_none,
      Option.getD_none, List.append_nil]
    repeat rewrite [String.toList_ofList]
    rfl
  refine ⟨url, by rw [hurl, hparse], ?_, ?_⟩
  · have hplain : ∀ piece ∈ ["connections".toList], isSingleDot piece = false ∧
        isDoubleDot piece = false := by
      simpa using not_dots hword
    rw [Url.segments, hsegments, pathOf, splitOnP_word hword, List.map_singleton, encode_word hword,
      resolve_plain hplain, List.nil_append, List.map_singleton, decode_word hword,
        Call.segments, h]
    rfl
  · rw [Url.parameters, hread]
    rfl

/-- The requests of the client address what is meant exactly where the name in the path is one that
a URL parser neither splits nor resolves. -/
theorem addresses_iff (port : Nat) (call : Call) :
    Addresses (loopback port) call ↔ ∀ name, call.name = some name → IsSegment name := by
  cases call with
  | delayProxy proxyName timeoutMs testUrl =>
    rw [addresses_delay, Call.name]
    simp only [Option.some.injEq, forall_eq']
  | selectProxy groupName proxyName =>
    rw [addresses_select, Call.name]
    simp only [Option.some.injEq, forall_eq']
  | closeConnection connectionId =>
    rw [Call.name]
    cases h : closedConnection connectionId with
    | none => exact iff_of_true (addresses_close_all port h) fun name heq => nomatch heq
    | some id =>
      rw [addresses_close port h]
      simp only [Option.some.injEq, forall_eq']

/-- A backslash is not escaped, and a URL parser reads it as a slash. -/
theorem backslash_splits :
    ¬ Addresses (loopback 9090) (.delayProxy "HK\\01".toList 5000 "http://test".toList) := by
  rw [addresses_delay]
  intro h
  refine h.1 ?_
  rewrite [String.toList_ofList]
  decide

end Addresses

end ClashApi
