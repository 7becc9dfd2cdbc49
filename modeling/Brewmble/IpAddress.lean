import Brewmble.Numerals

/-!
# Textual IP and socket addresses

The address texts of the standard library: how an address is displayed, and how a
text is parsed. Parsing reads from the left and returns what is left of the input;
a whole text is an address only if nothing is left. A reader that fails has read
nothing.

A number is read as its longest run of digits, with a bound on their count or on
the value. An IPv6 address is at most eight groups, of which one run of zeros may
be left out and the last two may be written as an IPv4 address. A scope is read
and ignored, since no address here is displayed with it.
-/

namespace Brewmble.IpAddress

open Numerals

structure Ipv4Addr where
  a : UInt8
  b : UInt8
  c : UInt8
  d : UInt8
  deriving DecidableEq, Repr

structure Ipv6Addr where
  segments : List UInt16
  eight : segments.length = 8
  deriving DecidableEq, Repr

inductive IpAddr where
  | v4 (ip : Ipv4Addr)
  | v6 (ip : Ipv6Addr)
  deriving DecidableEq, Repr

inductive SocketAddr where
  | v4 (ip : Ipv4Addr) (port : UInt16)
  | v6 (ip : Ipv6Addr) (port : UInt16)
  deriving DecidableEq, Repr

section Display

def decimal (number : Nat) : List Char := Nat.toDigits 10 number

def hexadecimal (number : Nat) : List Char := Nat.toDigits 16 number

def Ipv4Addr.chars (ip : Ipv4Addr) : List Char :=
  decimal ip.a.toNat ++ '.' :: decimal ip.b.toNat ++ '.' :: decimal ip.c.toNat ++
    '.' :: decimal ip.d.toNat

/-- `fmt_subslice`: segments in hexadecimal with colons between them. -/
def segmentChars : List UInt16 → List Char
  | [] => []
  | [segment] => hexadecimal segment.toNat
  | segment :: rest => hexadecimal segment.toNat ++ ':' :: segmentChars rest

/-- A run of zero segments. -/
structure Span where
  start : Nat
  len : Nat
  deriving DecidableEq, Repr

/-- The longest run of zeros, the first of them where several are as long. -/
def longestZeros (longest current : Span) (index : Nat) : List UInt16 → Span
  | [] => longest
  | segment :: rest =>
    if segment = 0 then
      let grown : Span :=
        ⟨if current.len = 0 then index else current.start, current.len + 1⟩
      longestZeros (if grown.len > longest.len then grown else longest) grown (index + 1) rest
    else longestZeros longest ⟨0, 0⟩ (index + 1) rest

/-- `to_ipv4_mapped`. -/
def toIpv4Mapped : List UInt16 → Option Ipv4Addr
  | [0, 0, 0, 0, 0, 0xffff, high, low] =>
    some ⟨(high.toNat / 256).toUInt8, (high.toNat % 256).toUInt8, (low.toNat / 256).toUInt8,
      (low.toNat % 256).toUInt8⟩
  | _ => none

def Ipv6Addr.chars (ip : Ipv6Addr) : List Char :=
  match toIpv4Mapped ip.segments with
  | some ipv4 => ':' :: ':' :: 'f' :: 'f' :: 'f' :: 'f' :: ':' :: ipv4.chars
  | none =>
    let zeroes := longestZeros ⟨0, 0⟩ ⟨0, 0⟩ 0 ip.segments
    if zeroes.len > 1 then
      segmentChars (ip.segments.take zeroes.start) ++
        ':' :: ':' :: segmentChars (ip.segments.drop (zeroes.start + zeroes.len))
    else segmentChars ip.segments

def IpAddr.chars : IpAddr → List Char
  | .v4 ip => ip.chars
  | .v6 ip => ip.chars

end Display

section Parse

/-- Read from the left; what is left of the input is returned with the value. -/
abbrev Reader (Value : Type) := List Char → Option (Value × List Char)

def readGivenChar (given : Char) : Reader Unit
  | [] => none
  | first :: rest => if first = given then some ((), rest) else none

/-- `read_number`: the whole run of digits must be short enough and its value must
fit the type. -/
def readNumber (radix : Nat) (maxDigits : Option Nat) (allowZeroPrefix : Bool) (bound : Nat) :
    Reader Nat := fun input =>
  let digits := input.takeWhile (isDigitOf radix)
  if digits = [] then none
  else if maxDigits.any (· < digits.length) then none
  else if !allowZeroPrefix && digits.head? = some '0' && 1 < digits.length then none
  else if bound < digitsValue radix digits then none
  else some (digitsValue radix digits, input.dropWhile (isDigitOf radix))

/-- `read_separator`: every reading but the first is preceded by the separator. -/
def readSeparator {Value : Type} (separator : Char) (index : Nat) (inner : Reader Value) :
    Reader Value := fun input =>
  if 0 < index then (readGivenChar separator input).bind fun (_, rest) => inner rest
  else inner input

def readOctet : Reader UInt8 := fun input =>
  (readNumber 10 (some 3) false 255 input).map fun (value, rest) => (value.toUInt8, rest)

def readIpv4Addr : Reader Ipv4Addr := fun input => do
  let (a, input) ← readSeparator '.' 0 readOctet input
  let (b, input) ← readSeparator '.' 1 readOctet input
  let (c, input) ← readSeparator '.' 2 readOctet input
  let (d, input) ← readSeparator '.' 3 readOctet input
  return (⟨a, b, c, d⟩, input)

def readGroup : Reader UInt16 := fun input =>
  (readNumber 16 (some 4) true 65535 input).map fun (value, rest) => (value.toUInt16, rest)

/-- Two groups from the four octets. -/
def groupsOf (ip : Ipv4Addr) : List UInt16 :=
  [(ip.a.toNat * 256 + ip.b.toNat).toUInt16, (ip.c.toNat * 256 + ip.d.toNat).toUInt16]

/-- `read_groups`: at most the remaining number of groups, and whether the last two
were an IPv4 address. -/
def readGroups : (remaining index : Nat) → List Char → List UInt16 × Bool × List Char
  | 0, _, input => ([], false, input)
  | remaining + 1, index, input =>
    match if 1 ≤ remaining then readSeparator ':' index readIpv4Addr input else none with
    | some (ipv4, rest) => (groupsOf ipv4, true, rest)
    | none =>
      match readSeparator ':' index readGroup input with
      | some (group, rest) =>
        let (groups, ipv4, rest) := readGroups remaining (index + 1) rest
        (group :: groups, ipv4, rest)
      | none => ([], false, input)

/-- The eight segments of a head and a tail with zeros in between. -/
def joinGroups (head tail : List UInt16) : List UInt16 :=
  (head ++ List.replicate (8 - head.length - tail.length) 0 ++ tail).take 8

/-- `read_ipv6_addr`. -/
def readIpv6Segments : Reader (List UInt16) := fun input =>
  let (head, headIpv4, rest) := readGroups 8 0 input
  if head.length = 8 then some (head, rest)
  else if headIpv4 then none
  else
    match rest with
    | ':' :: ':' :: rest =>
      let (tail, _, rest) := readGroups (8 - (head.length + 1)) 0 rest
      some (joinGroups head tail, rest)
    | _ => none

def readIpv6Addr : Reader Ipv6Addr := fun input =>
  (readIpv6Segments input).bind fun (segments, rest) =>
    if eight : segments.length = 8 then some (⟨segments, eight⟩, rest) else none

def readPort : Reader UInt16 := fun input =>
  (readGivenChar ':' input).bind fun (_, rest) =>
    (readNumber 10 none true 65535 rest).map fun (value, rest) => (value.toUInt16, rest)

def readScopeId : Reader Nat := fun input =>
  (readGivenChar '%' input).bind fun (_, rest) => readNumber 10 none true 4294967295 rest

def readSocketAddrV4 : Reader SocketAddr := fun input => do
  let (ip, input) ← readIpv4Addr input
  let (port, input) ← readPort input
  return (.v4 ip port, input)

def readSocketAddrV6 : Reader SocketAddr := fun input => do
  let (_, input) ← readGivenChar '[' input
  let (ip, input) ← readIpv6Addr input
  let input := ((readScopeId input).map Prod.snd).getD input
  let (_, input) ← readGivenChar ']' input
  let (port, input) ← readPort input
  return (.v6 ip port, input)

/-- `parse_with`: the reader must leave nothing. -/
def parseWith {Value : Type} (reader : Reader Value) (input : List Char) : Option Value :=
  match reader input with
  | some (value, []) => some value
  | _ => none

/-- The first of two readers that succeeds. -/
def orElse {Value : Type} (first second : Reader Value) : Reader Value := fun input =>
  (first input).or (second input)

def parseSocketAddr : List Char → Option SocketAddr :=
  parseWith (orElse readSocketAddrV4 readSocketAddrV6)

def parseIpAddr : List Char → Option IpAddr :=
  parseWith (orElse (fun input => (readIpv4Addr input).map fun (ip, rest) => (.v4 ip, rest))
    (fun input => (readIpv6Addr input).map fun (ip, rest) => (.v6 ip, rest)))

end Parse

end Brewmble.IpAddress
