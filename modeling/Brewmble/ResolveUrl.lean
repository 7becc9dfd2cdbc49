import Brewmble.IpAddress
import Mathlib.Data.List.DropRight

/-!
# Addresses, URLs and the host and port in them

An address is a text that discovery stores or an operator writes. It is turned
into a URL, and for the identity check the URL is split again into a host and a
port. The texts are lists of characters here; a string is converted at the edge.

An unbracketed IPv6 address with a port may itself read as an IPv6 address, in
which case its last group is taken for the port when it is all decimal digits.
-/

namespace Brewmble.ResolveUrl

open IpAddress Numerals

section Splitting

/-- `split_once`: before and after the first separator. -/
def splitOnce (separator : Char) : List Char → Option (List Char × List Char)
  | [] => none
  | first :: rest =>
    if first = separator then some ([], rest)
    else (splitOnce separator rest).map fun (before, after) => (first :: before, after)

/-- `rsplit_once`: before and after the last separator. Splitting at every
separator, these are the parts but the last joined again, and the last part. -/
def rsplitOnce (separator : Char) : List Char → Option (List Char × List Char)
  | [] => none
  | first :: rest =>
    match rsplitOnce separator rest with
    | some (before, after) => some (first :: before, after)
    | none => if first = separator then some ([], rest) else none

/-- `strip_prefix`. -/
def stripPrefix : (start text : List Char) → Option (List Char)
  | [], text => some text
  | _ :: _, [] => none
  | expected :: start, first :: rest =>
    if first = expected then stripPrefix start rest else none

/-- `split_once` with the two characters as separator. -/
def splitOncePair (first second : Char) : List Char → Option (List Char × List Char)
  | [] => none
  | head :: rest =>
    match stripPrefix [first, second] (head :: rest) with
    | some after => some ([], after)
    | none => (splitOncePair first second rest).map fun (before, after) => (head :: before, after)

/-- `strip_suffix` of one character. -/
def stripLast (last : Char) (text : List Char) : Option (List Char) :=
  if text.getLast? = some last then some text.dropLast else none

/-- `trim_end_matches` of one character. -/
def trimEnd (char : Char) (text : List Char) : List Char := text.rdropWhile (· = char)

/-- `trim_start_matches` of one character. -/
def trimStart (char : Char) (text : List Char) : List Char := text.dropWhile (· = char)

def isAsciiDigit (char : Char) : Bool := '0' ≤ char && char ≤ '9'

end Splitting

def http : List Char := ['h', 't', 't', 'p', ':', '/', '/']

def https : List Char := ['h', 't', 't', 'p', 's', ':', '/', '/']

/-- The host in brackets and the port. -/
def bracketed (host port : List Char) : List Char := https ++ '[' :: host ++ ']' :: ':' :: port

/-- `resolve_url` on the characters of the target. -/
def resolveChars (target : List Char) : List Char :=
  if http.isPrefixOf target || https.isPrefixOf target then trimEnd '/' target
  else
    match parseSocketAddr target with
    | some (.v6 ip port) => bracketed ip.chars (decimal port.toNat)
    | some (.v4 ip port) => https ++ ip.chars ++ ':' :: decimal port.toNat
    | none =>
      match parseIpAddr target with
      | some (.v6 ip) =>
        if 2 < target.count ':' then
          match rsplitOnce ':' target with
          | some (host, port) =>
            if port.all isAsciiDigit then bracketed host port else https ++ '[' :: ip.chars ++ [']']
          | none => https ++ '[' :: ip.chars ++ [']']
        else https ++ '[' :: ip.chars ++ [']']
      | _ =>
        match rsplitOnce ':' target with
        | some (host, port) =>
          if port.all isAsciiDigit then
            if ':' ∈ host ∧ host.head? ≠ some '[' then bracketed host port
            else https ++ host ++ ':' :: port
          else https ++ trimEnd '/' target
        | none => https ++ trimEnd '/' target

/-- `resolve_url`. -/
def resolveUrl (target : String) : String := String.ofList (resolveChars target.toList)

/-- The digits of a `u16` one after another. -/
def parseDigits : Nat → List Char → Except String Nat
  | value, [] => .ok value
  | value, first :: rest =>
    match toDigit 10 first with
    | none => .error "invalid digit found in string"
    | some digit =>
      if 65535 < value * 10 + digit then .error "number too large to fit in target type"
      else parseDigits (value * 10 + digit) rest

/-- Parsing a `u16`: digits, which a plus sign may precede. -/
def parsePort (text : List Char) : Except String UInt16 :=
  if text = [] then .error "cannot parse integer from empty string"
  else
    let digits := if 1 < text.length ∧ text.head? = some '+' then text.tail else text
    (parseDigits 0 digits).map Nat.toUInt16

/-- `parse_host_port`: an IPv6 host keeps its brackets. -/
def parseHostPort (url : List Char) : Except String (List Char × UInt16) :=
  match stripPrefix https url with
  | none => .error "url must use https scheme"
  | some rest =>
    match stripPrefix ['['] rest with
    | some inner =>
      match splitOncePair ']' ':' inner, stripLast ']' inner with
      | some (host, port), _ => (parsePort port).map fun port => ('[' :: host ++ [']'], port)
      | none, some host => .ok ('[' :: host ++ [']'], 443)
      | none, none => .error "invalid IPv6 URL"
    | none =>
      match splitOnce ':' rest with
      | some (host, port) => (parsePort port).map fun port => (host, port)
      | none => .ok (rest, 443)

end Brewmble.ResolveUrl
