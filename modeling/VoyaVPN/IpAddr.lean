import VoyaVPN.RustText

/-! The literal parser of `std::net::IpAddr`: dotted quads without leading zeros and
RFC 4291 groups with at most one `::` and an optional trailing dotted quad. -/
namespace IpAddr

inductive Addr where
  | v4 (octets : List Nat)
  | v6 (groups : List Nat)
  deriving DecidableEq, Repr

abbrev Parser (α : Type) := List Char → Option (α × List Char)

def hexValue (c : Char) : Option Nat :=
  let n := c.toNat
  if '0' ≤ c ∧ c ≤ '9' then some (n - '0'.toNat)
  else if 'a' ≤ c ∧ c ≤ 'f' then some (n - 'a'.toNat + 10)
  else if 'A' ≤ c ∧ c ≤ 'F' then some (n - 'A'.toNat + 10)
  else none

def givenChar (c : Char) : Parser Unit
  | d :: cs => if d = c then some ((), cs) else none
  | [] => none

def digits (radix : Nat) : List Char → List Nat × List Char
  | [] => ([], [])
  | c :: cs =>
    match (hexValue c).filter (· < radix) with
    | some d => let (ds, rest) := digits radix cs; (d :: ds, rest)
    | none => ([], c :: cs)

/-- `read_number`: a digit run of bounded length and value, leading zeros only on request. -/
def readNumber (radix maxDigits limit : Nat) (allowZeroPrefix : Bool) : Parser Nat := fun cs =>
  let (ds, rest) := digits radix cs
  let value := ds.foldl (fun acc d => radix * acc + d) 0
  if ds = [] ∨ maxDigits < ds.length ∨ limit ≤ value then none
  else if !allowZeroPrefix && ds.head? == some 0 && decide (1 < ds.length) then none
  else some (value, rest)

def readSeparator {α : Type} (sep : Char) (index : Nat) (inner : Parser α) : Parser α := fun cs =>
  if index = 0 then inner cs else (givenChar sep cs).bind fun ((), rest) => inner rest

def readOctets : Nat → Nat → Parser (List Nat)
  | _, 0, cs => some ([], cs)
  | index, count + 1, cs =>
    (readSeparator '.' index (readNumber 10 3 256 false) cs).bind fun (octet, rest) =>
      (readOctets (index + 1) count rest).map fun (octets, rest) => (octet :: octets, rest)

def readIpv4 : Parser (List Nat) := readOctets 0 4

/-- `read_groups`: the groups read, whether they end in a dotted quad, and the rest. -/
def readGroups (limit : Nat) : Nat → Nat → List Char → List Nat × Bool × List Char
  | _, 0, cs => ([], false, cs)
  | index, count + 1, cs =>
    let quad := if index + 1 < limit then readSeparator ':' index readIpv4 cs else none
    match quad with
    | some ([a, b, c, d], rest) => ([256 * a + b, 256 * c + d], true, rest)
    | _ =>
      match readSeparator ':' index (readNumber 16 4 65536 true) cs with
      | none => ([], false, cs)
      | some (group, rest) =>
        let (groups, quad, rest) := readGroups limit (index + 1) count rest
        (group :: groups, quad, rest)

def readIpv6 : Parser (List Nat) := fun cs =>
  let (head, headQuad, rest) := readGroups 8 0 8 cs
  if head.length = 8 then some (head, rest)
  else if headQuad then none
  else
    (givenChar ':' rest).bind fun ((), rest) =>
      (givenChar ':' rest).map fun ((), rest) =>
        let limit := 8 - (head.length + 1)
        let (tail, _, rest) := readGroups limit 0 limit rest
        (head ++ List.replicate (8 - head.length - tail.length) 0 ++ tail, rest)

def parse (s : String) : Option Addr :=
  match readIpv4 s.toList with
  | some (octets, []) => some (.v4 octets)
  | _ =>
    match readIpv6 s.toList with
    | some (groups, []) => some (.v6 groups)
    | _ => none

def Addr.isLoopback : Addr → Bool
  | .v4 octets => octets.head? == some 127
  | .v6 groups => groups == [0, 0, 0, 0, 0, 0, 0, 1]

def Addr.isIpv6 : Addr → Bool
  | .v4 _ => false
  | .v6 _ => true

section Display

structure Span where
  start : Nat := 0
  len : Nat := 0

/-- One group of the search for the zeros that `::` stands for: the longest run so far and the
current one. -/
def nextGroup (spans : Span × Span) (group : Nat × Nat) : Span × Span :=
  if group.1 = 0 then
    let current : Span :=
      ⟨if spans.2.len = 0 then group.2 else spans.2.start, spans.2.len + 1⟩
    (if spans.1.len < current.len then current else spans.1, current)
  else (spans.1, {})

def zeroes (groups : List Nat) : Span := (groups.zipIdx.foldl nextGroup ({}, {})).1

def fmtGroups (groups : List Nat) : String :=
  ":".intercalate (groups.map fun group => String.ofList (Nat.toDigits 16 group))

/-- The `Display` text of an `Ipv6Addr`. -/
def displayIpv6 (groups : List Nat) : String :=
  match groups with
  | [0, 0, 0, 0, 0, 0xFFFF, high, low] =>
    "::ffff:" ++ ".".intercalate
      ([high / 256, high % 256, low / 256, low % 256].map fun octet => toString octet)
  | _ =>
    let span := zeroes groups
    if 1 < span.len then
      fmtGroups (groups.take span.start) ++ "::" ++ fmtGroups (groups.drop (span.start + span.len))
    else fmtGroups groups

example : displayIpv6 [0x2606, 0, 0, 1, 0, 0, 0, 0xF8] = "2606:0:0:1::f8" ∧
    displayIpv6 [0, 0, 0, 0, 0, 0xFFFF, 0x102, 0x304] = "::ffff:1.2.3.4" := by
  decide +kernel

end Display

example : parse "127.0.0.1" = some (.v4 [127, 0, 0, 1]) ∧ parse "127.0.0.01" = none := by decide

example : parse "2606:4700::6810:f8f9" =
    some (.v6 [0x2606, 0x4700, 0, 0, 0, 0, 0x6810, 0xf8f9]) ∧
    parse "::ffff:1.2.3.4" = some (.v6 [0, 0, 0, 0, 0, 0xffff, 0x102, 0x304]) ∧
    parse "1::2::3" = none := by decide

end IpAddr
