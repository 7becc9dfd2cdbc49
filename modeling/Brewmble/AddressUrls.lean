import Brewmble.Discovery
import Brewmble.Ipv6Text
import Brewmble.UrlText

/-!
# Every address leads to its own host and port

The addresses that discovery formats and those that an operator writes are resolved
to a URL, from which the identity check takes the host and the port again. Whatever
the form of the address, these are the host and the port that it was made of, and
resolving the URL itself changes nothing but trailing slashes.
-/

namespace Brewmble.AddressUrls

open Discovery IpAddress ResolveUrl

/-- The URL of a host and a port. -/
def urlOf (host : List Char) (port : UInt16) : List Char := https ++ host ++ ':' :: decimal port.toNat

/-- The target is resolved to the URL of the host and port, which are found in it
again. With any number of slashes after it, the URL is resolved to itself. -/
def Reaches (target : String) (host : List Char) (port : UInt16) : Prop :=
  resolveUrl target = String.ofList (urlOf host port) ∧
  parseHostPort (urlOf host port) = .ok (host, port) ∧
  ∀ slashes, resolveUrl (String.ofList (urlOf host port ++ List.replicate slashes '/')) =
    String.ofList (urlOf host port)

section Urls

variable (port : UInt16)

theorem trimEnd_replicate (char : Char) (text : List Char) (count : Nat) :
    trimEnd char (text ++ List.replicate count char) = trimEnd char text := by
  induction count with
  | zero => rw [List.replicate_zero, List.append_nil]
  | succ count inductionHypothesis =>
    have last : trimEnd char (text ++ List.replicate count char ++ [char]) =
        trimEnd char (text ++ List.replicate count char) :=
      List.rdropWhile_concat_pos _ _ _ (by simp)
    rw [List.replicate_succ', ← List.append_assoc, last, inductionHypothesis]

theorem trimEnd_urlOf (host : List Char) : trimEnd '/' (urlOf host port) = urlOf host port := by
  refine List.rdropWhile_eq_self_iff.mpr fun present slash => ?_
  have digits : decimal port.toNat ≠ [] := decimal_ne_nil _
  have last : (urlOf host port).getLast present = (decimal port.toNat).getLast digits := by
    simp [urlOf, List.getLast_append_of_ne_nil, List.getLast_cons digits]
  have noSlash : '/' ∉ decimal port.toNat := not_mem_decimal port (by decide)
  rw [last] at slash
  have same : (decimal port.toNat).getLast digits = '/' := by simpa using slash
  exact noSlash (same ▸ List.getLast_mem digits)

/-- Trailing slashes are removed from a URL, which ends in a digit. -/
theorem resolve_url (host : List Char) (slashes : Nat) :
    resolveChars (urlOf host port ++ List.replicate slashes '/') = urlOf host port := by
  have isHttps : https.isPrefixOf (urlOf host port ++ List.replicate slashes '/') = true := by
    rw [List.isPrefixOf_iff_prefix, urlOf, List.append_assoc, List.append_assoc]
    exact List.prefix_append _ _
  rw [resolveChars, isHttps, Bool.or_true, if_pos rfl, trimEnd_replicate, trimEnd_urlOf]

theorem readPort_decimal : readPort (':' :: decimal port.toNat) = some (port, []) := by
  have small := port.toNat_lt
  have read : readNumber 10 none true 65535 (decimal port.toNat ++ []) = some (port.toNat, []) := by
    apply readNumber_toDigits (by decide) (by decide) (by omega)
    · rintro most ⟨⟩
    · rintro char ⟨⟩
  rw [List.append_nil] at read
  simp [readPort, readGivenChar, read]

/-- A bracketed IPv6 address with a port is read as such. -/
theorem parseSocketAddr_bracketed (ip : Ipv6Addr) :
    parseSocketAddr ('[' :: ip.chars ++ ']' :: ':' :: decimal port.toNat) = some (.v6 ip port) := by
  have noV4 : readSocketAddrV4 ('[' :: (ip.chars ++ ']' :: ':' :: decimal port.toNat)) = none := by
    simp [readSocketAddrV4, readIpv4Addr_bracket]
  have address := readIpv6Addr_chars ip (.inr (ends_bracket (':' :: decimal port.toNat)))
  have noScope : readScopeId (']' :: ':' :: decimal port.toNat) = none := rfl
  simp [parseSocketAddr, parseWith, orElse, noV4, readSocketAddrV6, readGivenChar, address, noScope,
    readPort_decimal]

/-- A bracketed IPv6 address is put in brackets once. -/
theorem resolve_v6_bracketed (ip : Ipv6Addr) :
    resolveChars ('[' :: ip.chars ++ ']' :: ':' :: decimal port.toNat) =
      bracketed ip.chars (decimal port.toNat) := by
  have noHttp : http.isPrefixOf ('[' :: ip.chars ++ ']' :: ':' :: decimal port.toNat) = false :=
    scheme_not_prefix_of_head (by simp) _
  have noHttps : https.isPrefixOf ('[' :: ip.chars ++ ']' :: ':' :: decimal port.toNat) = false :=
    scheme_not_prefix_of_head (by simp) _
  simp only [resolveChars, noHttp, noHttps, Bool.or_self, Bool.false_eq_true, if_false,
    parseSocketAddr_bracketed]

end Urls

section Targets

variable {port : UInt16}

theorem bracketed_eq (host : List Char) :
    bracketed host (decimal port.toNat) = urlOf ('[' :: host ++ [']']) port := by
  simp [bracketed, urlOf]

theorem reaches_of_resolved {target host : List Char} (resolved : resolveChars target = urlOf host port)
    (parsed : parseHostPort (urlOf host port) = .ok (host, port)) :
    Reaches (String.ofList target) host port := by
  refine ⟨by rw [resolveUrl, String.toList_ofList, resolved], parsed, fun slashes => ?_⟩
  rw [resolveUrl, String.toList_ofList, resolve_url]

/-- A host without colons and brackets is reached under its own text. -/
theorem host_reached {host : List Char} (noColon : ':' ∉ host) (noBracket : '[' ∉ host) :
    Reaches (String.ofList (host ++ ':' :: decimal port.toNat)) host port := by
  have unbracketed : host.head? ≠ some '[' := fun first => noBracket (List.mem_of_head? first)
  exact reaches_of_resolved (resolve_host port noColon unbracketed)
    (parseHostPort_host port noColon unbracketed)

/-- An IPv6 address is reached in brackets, from its text with or without them. -/
theorem v6_reached (ip : Ipv6Addr) {target : List Char}
    (resolved : resolveChars target = bracketed ip.chars (decimal port.toNat)) :
    Reaches (String.ofList target) ('[' :: ip.chars ++ [']']) port := by
  have closing : ']' ∉ ip.chars := ip.not_mem_chars (by decide) (by decide) (by decide)
  have parsed := parseHostPort_bracketed port closing
  rw [bracketed_eq] at resolved parsed
  exact reaches_of_resolved resolved parsed

/-- An address is reached in the form that discovery gives it. -/
theorem shown_v4_reached (port : UInt16) (ip : Ipv4Addr) :
    Reaches (socketText (String.ofList ip.chars) port) ip.chars port := by
  rw [socketText, String.toList_ofList]
  exact host_reached (ip.not_mem_chars (by decide) (by decide)) (ip.not_mem_chars (by decide) (by decide))

theorem shown_v6_reached (port : UInt16) (ip : Ipv6Addr) :
    Reaches (socketText (String.ofList ip.chars) port) ('[' :: ip.chars ++ [']']) port := by
  rw [socketText, String.toList_ofList]
  exact v6_reached ip (resolve_v6 port ip)

/-- A character of a host name. -/
def isHostChar (char : Char) : Bool := char.isAlphanum || char = '-' || char = '.'

/-- Every address with a port leads to its own host and port: an IPv4 or IPv6 address
as discovery formats it, a bracketed IPv6 address, and a host name. An IPv6 address
has brackets in the URL.

Proof: an IPv4 text and a host name have neither colons nor brackets. An IPv6 text is
put in brackets whether or not the whole of the target reads as an address. -/
theorem addresses_reached (port : UInt16) :
    (∀ ip : Ipv4Addr, Reaches (socketText (String.ofList ip.chars) port) ip.chars port) ∧
    (∀ ip : Ipv6Addr,
      Reaches (socketText (String.ofList ip.chars) port) ('[' :: ip.chars ++ [']']) port ∧
      Reaches (String.ofList ('[' :: ip.chars ++ ']' :: ':' :: decimal port.toNat))
        ('[' :: ip.chars ++ [']']) port) ∧
    ∀ host : List Char, host ≠ [] → (∀ char ∈ host, isHostChar char = true) →
      Reaches (String.ofList (host ++ ':' :: decimal port.toNat)) host port := by
  refine ⟨?_, ?_, ?_⟩
  · intro ip
    exact shown_v4_reached port ip
  · intro ip
    exact ⟨shown_v6_reached port ip, v6_reached ip (resolve_v6_bracketed port ip)⟩
  · intro host _ named
    have without (char : Char) (none : isHostChar char = false) : char ∉ host := by
      intro member
      rw [named char member] at none
      cases none
    exact host_reached (without ':' (by decide)) (without '[' (by decide))

/-- A host name of a daemon is reached. -/
theorem host_name_reached : Reaches "db-1.example.org:3625" "db-1.example.org".toList 3625 :=
  (addresses_reached 3625).2.2 "db-1.example.org".toList (by decide) (by simp [isHostChar])

end Targets

end Brewmble.AddressUrls
