import VoyaVPN.IpAddr

/-! The texts that addresses are written as, the IPv6 ones as a URL writes them, are read back
as the addresses they were written from. -/
namespace IpAddr

def hexText (group : Nat) : List Char := Nat.toDigits 16 group

def colonGroups (groups : List Nat) : List Char := groups.flatMap fun group => ':' :: hexText group

def groupsText : List Nat → List Char
  | [] => []
  | group :: groups => hexText group ++ colonGroups groups

def dottedOctets (octets : List Nat) : List Char :=
  octets.flatMap fun octet => '.' :: Nat.toDigits 10 octet

/-- The `Display` text of an `Ipv4Addr`. -/
def displayIpv4 (octets : List Nat) : String :=
  ".".intercalate (octets.map fun octet => toString octet)

/-- An IPv6 address as a URL has it: the first of the longest runs of zeros compressed, never a
dotted quad. -/
def serializeIpv6 (groups : List Nat) : String :=
  let span := zeroes groups
  if 1 < span.len then
    fmtGroups (groups.take span.start) ++ "::" ++ fmtGroups (groups.drop (span.start + span.len))
  else fmtGroups groups

section Numbers

theorem hexValue_digitChar : ∀ d < 16, hexValue (Nat.digitChar d) = some d := by
  decide

theorem exists_digits {radix : Nat} (hradix : 1 < radix) (n : Nat) :
    ∃ ds : List Nat, Nat.toDigits radix n = ds.map Nat.digitChar ∧ (∀ d ∈ ds, d < radix) ∧
      ds.foldl (fun acc d => radix * acc + d) 0 = n ∧ ds ≠ [] ∧
        (ds.head? = some 0 → ds.length = 1) := by
  induction n using Nat.strong_induction_on with
  | _ n ih =>
    by_cases hlt : n < radix
    · refine ⟨[n], ?_, ?_, ?_, ?_, ?_⟩
      · rw [Nat.toDigits_of_lt_base hlt]
        rfl
      · intro d hd
        rw [List.mem_singleton] at hd
        omega
      · simp
      · exact List.cons_ne_nil n []
      · intro _
        rfl
    · have hdiv : n / radix < n := Nat.div_lt_self (by omega) hradix
      obtain ⟨ds, htext, hsmall, hvalue, hne, hhead⟩ := ih (n / radix) hdiv
      have hmod : n % radix < radix := Nat.mod_lt _ (by omega)
      have hpos : 0 < n / radix := Nat.div_pos (by omega) (by omega)
      refine ⟨ds ++ [n % radix], ?_, ?_, ?_, ?_, ?_⟩
      · rw [Nat.toDigits_of_base_le hradix (by omega), htext, List.map_append]
        rfl
      · intro d hd
        rw [List.mem_append, List.mem_singleton] at hd
        rcases hd with hd | rfl
        · exact hsmall d hd
        · exact hmod
      · rw [List.foldl_append, hvalue]
        exact Nat.div_add_mod n radix
      · simp
      · intro hzero
        exfalso
        rw [List.head?_append_of_ne_nil ds hne] at hzero
        -- a single zero would be the number zero
        obtain ⟨d, rfl⟩ := List.length_eq_one_iff.mp (hhead hzero)
        simp only [List.head?_cons, Option.some.injEq] at hzero
        subst hzero
        simp at hvalue
        omega

/-- A text that goes on with no digit. -/
def Stops (radix : Nat) : List Char → Prop
  | [] => True
  | c :: _ => (hexValue c).filter (· < radix) = none

theorem digits_of_stops {radix : Nat} {rest : List Char} (h : Stops radix rest) :
    digits radix rest = ([], rest) := by
  cases rest with
  | nil => rfl
  | cons c cs =>
    rw [digits, show (hexValue c).filter (· < radix) = none from h]

theorem digits_map {radix : Nat} (hradix : radix ≤ 16) {ds : List Nat}
    (hsmall : ∀ d ∈ ds, d < radix) {rest : List Char} (hstops : Stops radix rest) :
    digits radix (ds.map Nat.digitChar ++ rest) = (ds, rest) := by
  induction ds with
  | nil => exact digits_of_stops hstops
  | cons d ds ih =>
    have hd : d < radix := hsmall d List.mem_cons_self
    have hvalue : (hexValue d.digitChar).filter (· < radix) = some d := by
      rw [hexValue_digitChar d (by omega)]
      exact Option.filter_some_pos (decide_eq_true hd)
    rw [List.map_cons, List.cons_append, digits, hvalue,
      ih fun d hd => hsmall d (List.mem_cons_of_mem _ hd)]

theorem readNumber_toDigits {radix maxDigits limit n : Nat} (hbase : 1 < radix)
    (hradix : radix ≤ 16) (hdigits : 0 < maxDigits) (hpow : limit ≤ radix ^ maxDigits)
    (hn : n < limit) (allowZeroPrefix : Bool) {rest : List Char} (hstops : Stops radix rest) :
    readNumber radix maxDigits limit allowZeroPrefix (Nat.toDigits radix n ++ rest) =
      some (n, rest) := by
  obtain ⟨ds, htext, hsmall, hvalue, hne, hhead⟩ := exists_digits hbase n
  have hlength : ds.length ≤ maxDigits := by
    have hle := (Nat.length_toDigits_le_iff hbase hdigits (n := n)).mpr (by omega)
    rw [htext, List.length_map] at hle
    exact hle
  unfold readNumber
  rw [htext, digits_map hradix hsmall hstops]
  simp only [hvalue]
  have hfit : ¬(ds = [] ∨ maxDigits < ds.length ∨ limit ≤ n) := by
    rintro (h | h | h)
    · exact hne h
    · omega
    · omega
  have hzero : (!allowZeroPrefix && ds.head? == some 0 && decide (1 < ds.length)) = false := by
    by_cases hstart : ds.head? = some 0
    · have := hhead hstart
      simp [this]
    · simp [hstart]
  rw [if_neg hfit, hzero]
  rfl

end Numbers

section Ipv4

theorem stops_dottedOctets (octets : List Nat) : Stops 10 (dottedOctets octets) := by
  cases octets with
  | nil => trivial
  | cons octet octets => rfl

theorem readOctets_dotted (index : Nat) {octets : List Nat} (h : ∀ octet ∈ octets, octet < 256) :
    readOctets (index + 1) octets.length (dottedOctets octets) = some (octets, []) := by
  induction octets generalizing index with
  | nil => rfl
  | cons octet octets ih =>
    have hread : readSeparator '.' (index + 1) (readNumber 10 3 256 false)
        (dottedOctets (octet :: octets)) = some (octet, dottedOctets octets) :=
      readNumber_toDigits (by decide) (by decide) (by decide) (by decide)
        (h octet List.mem_cons_self) false (stops_dottedOctets octets)
    rw [List.length_cons, readOctets, hread]
    simp [ih (index + 1) fun o ho => h o (List.mem_cons_of_mem _ ho)]

theorem toList_displayIpv4 (octet : Nat) (octets : List Nat) :
    (displayIpv4 (octet :: octets)).toList = Nat.toDigits 10 octet ++ dottedOctets octets := by
  unfold displayIpv4 dottedOctets
  rw [String.toList_intercalate]
  induction octets generalizing octet with
  | nil => simp [List.intercalate]
  | cons second octets ih =>
    rw [List.flatMap_cons, List.cons_append, ← ih second]
    simp [List.intercalate]

theorem readIpv4_display {octets : List Nat} (hlength : octets.length = 4)
    (h : ∀ octet ∈ octets, octet < 256) :
    readIpv4 (displayIpv4 octets).toList = some (octets, []) := by
  cases octets with
  | nil => cases hlength
  | cons octet octets =>
    have hrest : octets.length = 3 := by simpa using hlength
    have hread : readSeparator '.' 0 (readNumber 10 3 256 false)
        (Nat.toDigits 10 octet ++ dottedOctets octets) = some (octet, dottedOctets octets) :=
      readNumber_toDigits (by decide) (by decide) (by decide) (by decide)
        (h octet List.mem_cons_self) false (stops_dottedOctets octets)
    have htail := readOctets_dotted 0 fun o ho => h o (List.mem_cons_of_mem _ ho)
    rw [hrest] at htail
    rw [toList_displayIpv4, readIpv4, readOctets, hread]
    simp [htail]

theorem parse_displayIpv4 {octets : List Nat} (hlength : octets.length = 4)
    (h : ∀ octet ∈ octets, octet < 256) : parse (displayIpv4 octets) = some (.v4 octets) := by
  rw [parse, readIpv4_display hlength h]

end Ipv4

section Ipv6

theorem digits_suffix (radix : Nat) (cs : List Char) : (digits radix cs).2 <:+ cs := by
  induction cs with
  | nil => exact List.suffix_refl []
  | cons c cs ih =>
    rw [digits]
    split
    · exact List.suffix_cons_iff.mpr (.inr ih)
    · exact List.suffix_refl _

theorem readNumber_suffix {radix maxDigits limit value : Nat} {allowZeroPrefix : Bool}
    {cs rest : List Char}
    (h : readNumber radix maxDigits limit allowZeroPrefix cs = some (value, rest)) :
    rest <:+ cs := by
  unfold readNumber at h
  simp only at h
  split at h
  · cases h
  · split at h
    · cases h
    · cases h
      exact digits_suffix radix cs

theorem readIpv4_none {cs : List Char} (h : '.' ∉ cs) : readIpv4 cs = none := by
  unfold readIpv4
  rw [readOctets, readSeparator, if_pos rfl]
  cases hread : readNumber 10 3 256 false cs with
  | none => rfl
  | some result =>
    obtain ⟨octet, rest⟩ := result
    have hdot : givenChar '.' rest = none := by
      cases rest with
      | nil => rfl
      | cons c rest =>
        rw [givenChar, if_neg]
        rintro rfl
        exact h ((readNumber_suffix hread).subset List.mem_cons_self)
    simp [readOctets, readSeparator, hdot]

/-- What may follow a list of groups: nothing, or the compressed zeros. -/
def EndsGroups (rest : List Char) : Prop := rest = [] ∨ ∃ more, rest = ':' :: ':' :: more

theorem EndsGroups.stops {rest : List Char} (h : EndsGroups rest) : Stops 16 rest := by
  rcases h with rfl | ⟨more, rfl⟩
  · trivial
  · rfl

theorem readSeparator_ends {rest : List Char} (h : EndsGroups rest) (index : Nat) :
    readSeparator ':' index (readNumber 16 4 65536 true) rest = none := by
  unfold readSeparator
  rcases h with rfl | ⟨more, rfl⟩
  · split <;> rfl
  · split <;> rfl

theorem readSeparator_quad {cs : List Char} (h : '.' ∉ cs) (index : Nat) :
    readSeparator ':' index readIpv4 cs = none := by
  unfold readSeparator
  split
  · exact readIpv4_none h
  · cases cs with
    | nil => rfl
    | cons c cs =>
      rw [givenChar]
      split
      · exact readIpv4_none fun hmem => h (List.mem_cons_of_mem c hmem)
      · rfl

theorem readGroups_ends {rest : List Char} (h : EndsGroups rest) (hdot : '.' ∉ rest)
    (limit index count : Nat) : readGroups limit index count rest = ([], false, rest) := by
  cases count with
  | zero => rfl
  | succ count =>
    unfold readGroups
    simp only [readSeparator_quad hdot, ite_self, readSeparator_ends h]

theorem readGroups_step {limit index count group : Nat} {cs rest : List Char} (hdot : '.' ∉ cs)
    (hread : readSeparator ':' index (readNumber 16 4 65536 true) cs = some (group, rest)) :
    readGroups limit index (count + 1) cs =
      (group :: (readGroups limit (index + 1) count rest).1,
        (readGroups limit (index + 1) count rest).2) := by
  rw [readGroups]
  simp only [readSeparator_quad hdot, ite_self, hread]

theorem dot_notMem_hexText (group : Nat) : '.' ∉ hexText group := by
  intro hmem
  obtain ⟨ds, htext, hsmall, -⟩ := @exists_digits 16 (by decide) group
  rw [hexText, htext, List.mem_map] at hmem
  obtain ⟨d, hd, hchar⟩ := hmem
  have hvalue := hexValue_digitChar d (hsmall d hd)
  rw [hchar] at hvalue
  cases hvalue

theorem dot_notMem_colonGroups (groups : List Nat) : '.' ∉ colonGroups groups := by
  intro hmem
  obtain ⟨group, -, hmem⟩ := List.mem_flatMap.mp hmem
  rcases List.mem_cons.mp hmem with heq | hmem
  · exact absurd heq (by decide)
  · exact dot_notMem_hexText group hmem

theorem dot_notMem_groupsText (groups : List Nat) : '.' ∉ groupsText groups := by
  cases groups with
  | nil => exact List.not_mem_nil
  | cons group groups =>
    intro hmem
    rcases List.mem_append.mp hmem with hmem | hmem
    · exact dot_notMem_hexText group hmem
    · exact dot_notMem_colonGroups groups hmem

theorem stops_colonGroups {rest : List Char} (h : EndsGroups rest) (groups : List Nat) :
    Stops 16 (colonGroups groups ++ rest) := by
  cases groups with
  | nil => exact h.stops
  | cons group groups => rfl

theorem readNumber_hexText {group : Nat} (hgroup : group < 65536) {rest : List Char}
    (hstops : Stops 16 rest) :
    readNumber 16 4 65536 true (hexText group ++ rest) = some (group, rest) :=
  readNumber_toDigits (by decide) (by decide) (by decide) (by decide) hgroup true hstops

theorem readGroups_colonGroups {rest : List Char} (hrest : EndsGroups rest) (hdot : '.' ∉ rest)
    (limit : Nat) {groups : List Nat} (hsmall : ∀ group ∈ groups, group < 65536) (index : Nat)
    {count : Nat} (hcount : groups.length ≤ count) :
    readGroups limit (index + 1) count (colonGroups groups ++ rest) = (groups, false, rest) := by
  induction groups generalizing index count with
  | nil => exact readGroups_ends hrest hdot limit (index + 1) count
  | cons group groups ih =>
    cases count with
    | zero => simp at hcount
    | succ count =>
      have hread : readSeparator ':' (index + 1) (readNumber 16 4 65536 true)
          (colonGroups (group :: groups) ++ rest) =
            some (group, colonGroups groups ++ rest) := by
        have hnumber := readNumber_hexText (hsmall group List.mem_cons_self)
          (stops_colonGroups hrest groups)
        rw [← List.append_assoc] at hnumber
        exact hnumber
      have hdots : '.' ∉ colonGroups (group :: groups) ++ rest := by
        rw [List.mem_append]
        rintro (hmem | hmem)
        · exact dot_notMem_colonGroups _ hmem
        · exact hdot hmem
      have hcount : groups.length ≤ count := by simpa using hcount
      rw [readGroups_step hdots hread,
        ih (fun g hg => hsmall g (List.mem_cons_of_mem _ hg)) (index + 1) hcount]

theorem readGroups_groupsText {rest : List Char} (hrest : EndsGroups rest) (hdot : '.' ∉ rest)
    (limit : Nat) {groups : List Nat} (hsmall : ∀ group ∈ groups, group < 65536) {count : Nat}
    (hcount : groups.length ≤ count) :
    readGroups limit 0 count (groupsText groups ++ rest) = (groups, false, rest) := by
  cases groups with
  | nil => exact readGroups_ends hrest hdot limit 0 count
  | cons group groups =>
    cases count with
    | zero => simp at hcount
    | succ count =>
      have hread : readSeparator ':' 0 (readNumber 16 4 65536 true)
          (groupsText (group :: groups) ++ rest) =
            some (group, colonGroups groups ++ rest) := by
        have hnumber := readNumber_hexText (hsmall group List.mem_cons_self)
          (stops_colonGroups hrest groups)
        rw [← List.append_assoc] at hnumber
        exact hnumber
      have hdots : '.' ∉ groupsText (group :: groups) ++ rest := by
        rw [List.mem_append]
        rintro (hmem | hmem)
        · exact dot_notMem_groupsText _ hmem
        · exact hdot hmem
      have hcount : groups.length ≤ count := by simpa using hcount
      rw [readGroups_step hdots hread, readGroups_colonGroups hrest hdot limit
        (fun g hg => hsmall g (List.mem_cons_of_mem _ hg)) 0 hcount]

theorem toList_fmtGroups (groups : List Nat) : (fmtGroups groups).toList = groupsText groups := by
  unfold fmtGroups
  rw [String.toList_intercalate]
  induction groups with
  | nil => rfl
  | cons group groups ih =>
    cases groups with
    | nil => simp [groupsText, colonGroups, hexText, List.intercalate]
    | cons second groups =>
      have hcolon : colonGroups (second :: groups) = ':' :: groupsText (second :: groups) := rfl
      rw [groupsText, hcolon, ← ih]
      simp [List.intercalate, hexText]

def ZeroSpan (groups : List Nat) (span : Span) : Prop :=
  span.start + span.len ≤ groups.length ∧
    (groups.drop span.start).take span.len = List.replicate span.len 0

theorem ZeroSpan.append {groups : List Nat} {span : Span} (h : ZeroSpan groups span)
    (group : Nat) : ZeroSpan (groups ++ [group]) span := by
  obtain ⟨hbound, hzeros⟩ := h
  refine ⟨by rw [List.length_append]; omega, ?_⟩
  rw [List.drop_append_of_le_length (by omega), List.take_append_of_le_length, hzeros]
  rw [List.length_drop]
  omega

theorem ZeroSpan.none (groups : List Nat) : ZeroSpan groups {} := by
  refine ⟨Nat.zero_le _, ?_⟩
  rfl

theorem ZeroSpan.extend {groups : List Nat} {start len : Nat}
    (h : ZeroSpan groups ⟨start, len⟩) (hend : start + len = groups.length) :
    ZeroSpan (groups ++ [0]) ⟨start, len + 1⟩ := by
  obtain ⟨hbound, hzeros⟩ := h
  simp only at hbound hzeros
  have hlen : (groups.drop start).length = len := by
    rw [List.length_drop]
    omega
  rw [List.take_of_length_le (by omega)] at hzeros
  refine ⟨by simp only [List.length_append, List.length_singleton]; omega, ?_⟩
  simp only
  rw [List.drop_append_of_le_length (by omega), hzeros, List.replicate_succ']
  exact List.take_of_length_le (by simp)

theorem zeroSpans (groups : List Nat) :
    ZeroSpan groups (groups.zipIdx.foldl nextGroup ({}, {})).1 ∧
      ZeroSpan groups (groups.zipIdx.foldl nextGroup ({}, {})).2 ∧
        ((groups.zipIdx.foldl nextGroup ({}, {})).2.len ≠ 0 →
          (groups.zipIdx.foldl nextGroup ({}, {})).2.start +
            (groups.zipIdx.foldl nextGroup ({}, {})).2.len = groups.length) := by
  induction groups using List.reverseRecOn with
  | nil => exact ⟨ZeroSpan.none [], ZeroSpan.none [], fun h => absurd rfl h⟩
  | append_singleton groups group ih =>
    rw [List.zipIdx_append, List.foldl_append]
    generalize groups.zipIdx.foldl nextGroup ({}, {}) = spans at ih
    obtain ⟨longest, current⟩ := spans
    obtain ⟨hlongest, hcurrent, hend⟩ := ih
    simp only at hlongest hcurrent hend
    simp only [List.zipIdx_cons, List.zipIdx_nil, List.foldl_cons, List.foldl_nil, nextGroup]
    by_cases hgroup : group = 0
    · subst hgroup
      rw [if_pos rfl]
      have hgrown : ZeroSpan (groups ++ [0])
          ⟨if current.len = 0 then 0 + groups.length else current.start, current.len + 1⟩ ∧
            (if current.len = 0 then 0 + groups.length else current.start) + (current.len + 1) =
              (groups ++ [0]).length := by
        rw [List.length_append, List.length_singleton]
        by_cases hlen : current.len = 0
        · rw [if_pos hlen, hlen]
          refine ⟨ZeroSpan.extend ⟨by simp, by simp⟩ (by simp), by omega⟩
        · rw [if_neg hlen]
          exact ⟨ZeroSpan.extend hcurrent (hend hlen), by have := hend hlen; omega⟩
      refine ⟨?_, hgrown.1, fun _ => hgrown.2⟩
      simp only
      split
      · exact hgrown.1
      · exact hlongest.append 0
    · rw [if_neg hgroup]
      exact ⟨hlongest.append group, ZeroSpan.none _, fun h => absurd rfl h⟩

theorem zeroSpan_zeroes (groups : List Nat) : ZeroSpan groups (zeroes groups) :=
  (zeroSpans groups).1

theorem ZeroSpan.eq {groups : List Nat} {span : Span} (h : ZeroSpan groups span) :
    groups.take span.start ++ List.replicate span.len 0 ++
      groups.drop (span.start + span.len) = groups := by
  rw [← h.2, List.append_assoc, ← List.drop_drop, List.take_append_drop, List.take_append_drop]

theorem readIpv6_serialize {groups : List Nat} (hlength : groups.length = 8)
    (hsmall : ∀ group ∈ groups, group < 65536) :
    readIpv6 (serializeIpv6 groups).toList = some (groups, []) := by
  have hspan := zeroSpan_zeroes groups
  unfold serializeIpv6
  generalize zeroes groups = span at hspan
  obtain ⟨hbound, hzeros⟩ := hspan
  simp only
  split
  next hlong =>
    have heq := ZeroSpan.eq ⟨hbound, hzeros⟩
    have hhead : (groups.take span.start).length = span.start := by
      rw [List.length_take]
      omega
    have htail : (groups.drop (span.start + span.len)).length = 8 - (span.start + span.len) := by
      rw [List.length_drop, hlength]
    have hdot : '.' ∉ ':' :: ':' :: groupsText (groups.drop (span.start + span.len)) := by
      intro hmem
      rcases List.mem_cons.mp hmem with h | hmem
      · exact absurd h (by decide)
      · rcases List.mem_cons.mp hmem with h | hmem
        · exact absurd h (by decide)
        · exact dot_notMem_groupsText _ hmem
    have htext : (fmtGroups (groups.take span.start) ++ "::" ++
        fmtGroups (groups.drop (span.start + span.len))).toList =
          groupsText (groups.take span.start) ++
            ':' :: ':' :: groupsText (groups.drop (span.start + span.len)) := by
      simp [String.toList_append, toList_fmtGroups]
    have hread : readGroups 8 0 8 (groupsText (groups.take span.start) ++
        ':' :: ':' :: groupsText (groups.drop (span.start + span.len))) =
          (groups.take span.start, false,
            ':' :: ':' :: groupsText (groups.drop (span.start + span.len))) :=
      readGroups_groupsText (.inr ⟨_, rfl⟩) hdot 8
        (fun g hg => hsmall g (List.mem_of_mem_take hg)) (by omega)
    have hreadTail : readGroups (8 - (span.start + 1)) 0 (8 - (span.start + 1))
        (groupsText (groups.drop (span.start + span.len)) ++ []) =
          (groups.drop (span.start + span.len), false, []) :=
      readGroups_groupsText (.inl rfl) List.not_mem_nil (8 - (span.start + 1))
        (fun g hg => hsmall g (List.mem_of_mem_drop hg)) (by omega)
    rw [List.append_nil] at hreadTail
    rw [readIpv6, htext, hread]
    simp only [hhead, givenChar, if_true, Option.bind_some, Option.map_some, hreadTail, htail]
    rw [if_neg (by omega), if_neg (by decide),
      show 8 - span.start - (8 - (span.start + span.len)) = span.len by omega, heq]
  next =>
    have hread : readGroups 8 0 8 (groupsText groups ++ []) = (groups, false, []) :=
      readGroups_groupsText (.inl rfl) List.not_mem_nil 8 hsmall (by omega)
    rw [List.append_nil] at hread
    rw [readIpv6, toList_fmtGroups, hread]
    simp [hlength]

theorem dot_notMem_serialize (groups : List Nat) : '.' ∉ (serializeIpv6 groups).toList := by
  unfold serializeIpv6
  simp only
  split
  · simp only [String.toList_append, toList_fmtGroups, List.mem_append]
    rintro ((hmem | hmem) | hmem)
    · exact dot_notMem_groupsText _ hmem
    · exact absurd hmem (by decide)
    · exact dot_notMem_groupsText _ hmem
  · rw [toList_fmtGroups]
    exact dot_notMem_groupsText groups

theorem parse_serializeIpv6 {groups : List Nat} (hlength : groups.length = 8)
    (hsmall : ∀ group ∈ groups, group < 65536) :
    parse (serializeIpv6 groups) = some (.v6 groups) := by
  rw [parse, readIpv4_none (dot_notMem_serialize groups), readIpv6_serialize hlength hsmall]

end Ipv6

section Bounds

theorem readNumber_lt {radix maxDigits limit : Nat} {allowZeroPrefix : Bool} {cs rest : List Char}
    {n : Nat} (h : readNumber radix maxDigits limit allowZeroPrefix cs = some (n, rest)) :
    n < limit := by
  simp only [readNumber] at h
  split at h
  · cases h
  · rename_i hfit
    split at h
    · cases h
    · cases h
      omega

theorem inner_of_readSeparator {α : Type} {sep : Char} {index : Nat} {inner : Parser α}
    {cs rest : List Char} {value : α} (h : readSeparator sep index inner cs = some (value, rest)) :
    ∃ from_, inner from_ = some (value, rest) := by
  unfold readSeparator at h
  split at h
  · exact ⟨cs, h⟩
  · obtain ⟨⟨_, after⟩, _, hinner⟩ := Option.bind_eq_some_iff.mp h
    exact ⟨after, hinner⟩

/-- What an address that was read has. -/
def Octets (octets : List Nat) (count : Nat) : Prop :=
  octets.length = count ∧ ∀ octet ∈ octets, octet < 256

theorem readOctets_octets {count : Nat} : ∀ {index : Nat} {cs rest : List Char} {octets : List Nat},
    readOctets index count cs = some (octets, rest) → Octets octets count := by
  induction count with
  | zero =>
    intro index cs rest octets h
    cases h
    exact ⟨rfl, fun octet hoctet => by cases hoctet⟩
  | succ count ih =>
    intro index cs rest octets h
    rw [readOctets] at h
    obtain ⟨⟨octet, after⟩, hread, h⟩ := Option.bind_eq_some_iff.mp h
    obtain ⟨⟨others, last⟩, hothers, h⟩ := Option.map_eq_some_iff.mp h
    cases h
    obtain ⟨_, hnumber⟩ := inner_of_readSeparator hread
    obtain ⟨hlength, hsmall⟩ := ih hothers
    refine ⟨by rw [List.length_cons, hlength], ?_⟩
    intro other hother
    rcases List.mem_cons.mp hother with rfl | hother
    · exact readNumber_lt hnumber
    · exact hsmall other hother

theorem readGroups_small {limit count : Nat} : ∀ {index : Nat} {cs : List Char},
    index + count = limit →
      (readGroups limit index count cs).1.length ≤ count ∧
        ∀ group ∈ (readGroups limit index count cs).1, group < 65536 := by
  induction count with
  | zero =>
    intro index cs _
    exact ⟨Nat.le_refl _, fun group hgroup => by cases hgroup⟩
  | succ count ih =>
    intro index cs hlimit
    rw [readGroups]
    split
    · rename_i a b c d rest hquad
      split at hquad
      · rename_i hroom
        obtain ⟨_, hread⟩ := inner_of_readSeparator hquad
        obtain ⟨_, hsmall⟩ := readOctets_octets hread
        have ha := hsmall a (by simp)
        have hb := hsmall b (by simp)
        have hc := hsmall c (by simp)
        have hd := hsmall d (by simp)
        refine ⟨by simp only [List.length_cons, List.length_nil]; omega, ?_⟩
        intro group hgroup
        simp only [List.mem_cons, List.not_mem_nil, or_false] at hgroup
        rcases hgroup with rfl | rfl
        · omega
        · omega
      · cases hquad
    · split
      · exact ⟨Nat.zero_le _, fun group hgroup => by cases hgroup⟩
      · rename_i group rest hread
        obtain ⟨_, hnumber⟩ := inner_of_readSeparator hread
        obtain ⟨hlength, hsmall⟩ := @ih (index + 1) rest (by omega)
        refine ⟨by simp only [List.length_cons]; omega, ?_⟩
        intro other hother
        rcases List.mem_cons.mp hother with rfl | hother
        · exact readNumber_lt hnumber
        · exact hsmall other hother

def Groups (groups : List Nat) : Prop := groups.length = 8 ∧ ∀ group ∈ groups, group < 65536

theorem readIpv6_groups {cs rest : List Char} {groups : List Nat}
    (h : readIpv6 cs = some (groups, rest)) : Groups groups := by
  have hhead := @readGroups_small 8 8 0 cs rfl
  simp only [readIpv6] at h
  split at h
  · rename_i hfull
    cases h
    exact ⟨hfull, hhead.2⟩
  · rename_i hnotfull
    split at h
    · cases h
    · obtain ⟨_, _, h⟩ := Option.bind_eq_some_iff.mp h
      obtain ⟨⟨_, start⟩, _, h⟩ := Option.map_eq_some_iff.mp h
      cases h
      have htail := @readGroups_small (8 - ((readGroups 8 0 8 cs).1.length + 1)) _ 0 start
        (Nat.zero_add _)
      constructor
      · simp only [List.length_append, List.length_replicate]
        omega
      · intro group hgroup
        simp only [List.mem_append, List.mem_replicate] at hgroup
        rcases hgroup with (hgroup | ⟨_, rfl⟩) | hgroup
        · exact hhead.2 group hgroup
        · omega
        · exact htail.2 group hgroup

theorem parse_v4 {text : String} {octets : List Nat} (h : parse text = some (.v4 octets)) :
    Octets octets 4 := by
  unfold parse at h
  split at h
  · rename_i hread
    cases h
    exact readOctets_octets hread
  · split at h <;> cases h

theorem parse_v6 {text : String} {groups : List Nat} (h : parse text = some (.v6 groups)) :
    Groups groups := by
  unfold parse at h
  split at h
  · cases h
  · split at h
    · rename_i hread
      cases h
      exact readIpv6_groups hread
    · cases h

end Bounds

end IpAddr
