import Brewmble.CredentialSteps
import Brewmble.UrlText

/-!
# The names that the identity check asks for

The client of the commands accepts a daemon whose certificate chains to the cluster
CA; it does not verify hostnames. The identity check of a node verifies the same
chain and also that the server name taken from the node's address is among the
subject alternative names of the certificate. A leaf has one such name, a DNS name
that is its common name, and an IP address matches no DNS name.

The check therefore accepts what the client accepts only for addresses with a host
name that matches the common name. Discovery stores IP addresses only.

What the TLS library and the system do is a parameter: which chains are trusted at
which time, which DNS names match, what it verifies, what a server name is, and how a
host resolves. Of these two facts are used: a server certificate is verified if its chain
is trusted and one of its alternative names matches, and the text of an IP address is not
a DNS name. Both sides load the same CA and client certificate; this loading is left out, as are
the timeouts and the worker threads of the check.
-/

namespace Brewmble.ServerIdentity

open Credentials CredentialSteps Fallible IpAddress Numerals ResolveUrl

inductive ServerName where
  | dns (name : List Char)
  | ip (address : IpAddr)

inductive SubjectAltName where
  | dns (name : String)
  | ip (address : IpAddr)

/-- `subject_alt_names` as `generate_leaf` sets them. A CA certificate has none. -/
def subjectAltNames : Pem → List SubjectAltName
  | .leafCert _ cn _ _ => [.dns cn]
  | _ => []

/-- An IP address matches an IP address only. -/
def nameMatches (dnsMatches : List Char → String → Bool) : ServerName → SubjectAltName → Bool
  | .dns name, .dns presented => dnsMatches name presented
  | .ip address, .ip presented => address = presented
  | .dns _, .ip _ => false
  | .ip _, .dns _ => false

/-- The TLS library and the system. -/
structure Platform where
  /-- The chain to this CA, the validity at this time and the usage are in order. -/
  trusted : (ca leaf : Pem) → (now : Int) → Bool
  dnsMatches : (name : List Char) → (presented : String) → Bool
  /-- `verify_server_cert` of the library, which `CapturingVerifier` defers to. -/
  verifyServerCert : (ca leaf : Pem) → ServerName → (now : Int) → Except String Unit
  verifies : ∀ ca leaf name now, verifyServerCert ca leaf name now = .ok () ↔
    trusted ca leaf now = true ∧ (subjectAltNames leaf).any (nameMatches dnsMatches name) = true
  /-- `ServerName::try_from`. -/
  serverName : List Char → Option ServerName
  ipText : ∀ (ip : IpAddr) name, serverName ip.chars ≠ some (.dns name)
  /-- `to_socket_addrs`. -/
  lookup : List Char → UInt16 → Except String (List SocketAddr)
  /-- `format_fingerprint`. -/
  fingerprint : Pem → String

/-- The certificate that is presented at a socket, if it can be connected to. -/
abbrev Network := SocketAddr → Except String Pem

variable (platform : Platform) (network : Network)

/-- The client of `build_client`, with hostname verification disabled. -/
def clientAccepts (ca leaf : Pem) (now : Int) : Bool := platform.trusted ca leaf now

section Fetching

/-- The host without the brackets of an IPv6 host. -/
def resolutionHost (host : List Char) : List Char := trimEnd ']' (trimStart '[' host)

/-- `resolve_url_addresses`. -/
def resolveUrlAddresses (url : List Char) : Except String (ServerName × List SocketAddr) := do
  let (host, port) ← parseHostPort url
  match platform.serverName (resolutionHost host) with
  | none => .error "invalid dns name"
  | some serverName =>
    let addrs ← platform.lookup (resolutionHost host) port
    if addrs = [] then
      .error ("could not resolve " ++ String.ofList host ++ ":" ++ toString port)
    else .ok (serverName, addrs)

/-- `try_fetch_at_address`: the leaf is captured when its verification succeeds. -/
def tryFetchAtAddress (ca : Pem) (now : Int) (name : ServerName) (addr : SocketAddr) :
    Except String String :=
  match network addr with
  | .error err => .error err
  | .ok leaf =>
    match platform.verifyServerCert ca leaf name now with
    | .error err => .error ("tls handshake: " ++ err)
    | .ok () => .ok (platform.fingerprint leaf)

/-- `fetch_fingerprint_with_addrs`: the first address that succeeds, or else the last
error. -/
def fetchFingerprintWithAddrs (ca : Pem) (now : Int) (name : ServerName) :
    Option String → List SocketAddr → Except String String
  | lastErr, [] => .error (lastErr.getD "all addresses failed")
  | _, addr :: rest =>
    match tryFetchAtAddress platform network ca now name addr with
    | .ok fingerprint => .ok fingerprint
    | .error err => fetchFingerprintWithAddrs ca now name (some err) rest

/-- `fetch_fingerprint_with_certs`. -/
def fetchFingerprint (ca : Pem) (now : Int) (url : List Char) : Except String String := do
  let (serverName, addrs) ← resolveUrlAddresses platform url
  fetchFingerprintWithAddrs platform network ca now serverName none addrs

end Fetching

section Addresses

/-- A host that is no bracketed address and has no port of its own. -/
structure HostName where
  chars : List Char
  noColon : ':' ∉ chars
  noOpening : '[' ∉ chars
  noClosing : ']' ∉ chars

/-- The addresses of nodes: as discovery stores them, with any IP address, and as an
operator writes them. -/
inductive NodeAddress where
  | discovered (ip : IpAddr) (port : UInt16)
  | bracketed (ip : Ipv6Addr) (port : UInt16)
  | named (host : HostName) (port : UInt16)

def NodeAddress.chars : NodeAddress → List Char
  | .discovered ip port => ip.chars ++ ':' :: decimal port.toNat
  | .bracketed ip port => '[' :: ip.chars ++ ']' :: ':' :: decimal port.toNat
  | .named host port => host.chars ++ ':' :: decimal port.toNat

/-- The host that an address is resolved by. -/
def ResolvesBy (address : NodeAddress) (host : List Char) : Prop :=
  ∃ written port, parseHostPort (resolveChars address.chars) = .ok (written, port) ∧
    resolutionHost written = host

theorem named_resolves (host : HostName) (port : UInt16) :
    ResolvesBy (.named host port) host.chars := by
  have unbracketed : host.chars.head? ≠ some '[' :=
    fun leading => host.noOpening (List.mem_of_mem_head? leading)
  refine ⟨host.chars, port, ?_, ?_⟩
  · rw [NodeAddress.chars, resolve_host port host.noColon unbracketed,
      parseHostPort_host port host.noColon unbracketed]
  · rw [resolutionHost, trimStart_without host.noOpening, trimEnd_without host.noClosing]

/-- A bracketed URL is resolved by the text in its brackets. -/
theorem bracketed_resolves {address : NodeAddress} {ip : Ipv6Addr} {port : UInt16}
    (url : resolveChars address.chars = bracketed ip.chars (decimal port.toNat)) :
    ResolvesBy address ip.chars := by
  have noOpening : '[' ∉ ip.chars := ip.not_mem_chars (by decide) (by decide) (by decide)
  have noClosing : ']' ∉ ip.chars := ip.not_mem_chars (by decide) (by decide) (by decide)
  exact ⟨'[' :: ip.chars ++ [']'], port, by rw [url, parseHostPort_bracketed port noClosing],
    trim_bracketed noOpening noClosing⟩

/-- An IPv4 text is resolved as it is, like a host name. -/
def v4HostName (ip : Ipv4Addr) : HostName where
  chars := ip.chars
  noColon := ip.not_mem_chars (by decide) (by decide)
  noOpening := ip.not_mem_chars (by decide) (by decide)
  noClosing := ip.not_mem_chars (by decide) (by decide)

/-- An address is resolved by its host name or by the text of an IP address. -/
theorem address_resolves (address : NodeAddress) :
    (∃ host port, address = .named host port ∧ ResolvesBy address host.chars) ∨
      (∀ host port, address ≠ .named host port) ∧ ∃ ip : IpAddr, ResolvesBy address ip.chars := by
  cases address with
  | named host port => exact .inl ⟨host, port, rfl, named_resolves host port⟩
  | discovered ip port =>
    refine .inr ⟨by simp, ip, ?_⟩
    cases ip with
    | v4 ip => exact named_resolves (v4HostName ip) port
    | v6 ip => exact bracketed_resolves (resolve_v6 port ip)
  | bracketed ip port =>
    obtain ⟨other, read, url⟩ := resolve_bracketed port ip
    exact .inr ⟨by simp, .v6 other, bracketed_resolves url⟩

end Addresses

section Agreement

variable {platform network} {ca cert : Pem} {now : Int}

/-- An accepted certificate that is presented at some address, and no other at any,
is found with its fingerprint. -/
theorem fetch_addrs_accepted {name : ServerName} {addrs : List SocketAddr}
    (verified : platform.verifyServerCert ca cert name now = .ok ())
    (reached : ∃ addr ∈ addrs, network addr = .ok cert)
    (only : ∀ addr ∈ addrs, ∀ leaf, network addr = .ok leaf → leaf = cert)
    (lastErr : Option String) :
    fetchFingerprintWithAddrs platform network ca now name lastErr addrs =
      .ok (platform.fingerprint cert) := by
  induction addrs generalizing lastErr with
  | nil =>
    obtain ⟨addr, member, _⟩ := reached
    cases member
  | cons first rest inductionHypothesis =>
    cases presented : network first with
    | ok leaf =>
      obtain rfl := only first List.mem_cons_self leaf presented
      simp [fetchFingerprintWithAddrs, tryFetchAtAddress, presented, verified]
    | error err =>
      have later : ∃ addr ∈ rest, network addr = .ok cert := by
        obtain ⟨addr, member, found⟩ := reached
        obtain rfl | inside := List.mem_cons.mp member
        · rw [presented] at found
          cases found
        · exact ⟨addr, inside, found⟩
      have remaining := inductionHypothesis later
        (fun addr member => only addr (List.mem_cons_of_mem first member)) (some err)
      simp [fetchFingerprintWithAddrs, tryFetchAtAddress, presented, remaining]

/-- A refused certificate yields no fingerprint where no other is presented. -/
theorem fetch_addrs_refused {name : ServerName} {addrs : List SocketAddr} {refusal : String}
    (refused : platform.verifyServerCert ca cert name now = .error refusal)
    (only : ∀ addr ∈ addrs, ∀ leaf, network addr = .ok leaf → leaf = cert)
    (lastErr : Option String) (fingerprint : String) :
    fetchFingerprintWithAddrs platform network ca now name lastErr addrs ≠ .ok fingerprint := by
  induction addrs generalizing lastErr with
  | nil => simp [fetchFingerprintWithAddrs]
  | cons first rest inductionHypothesis =>
    have remaining := inductionHypothesis
      fun addr member => only addr (List.mem_cons_of_mem first member)
    cases presented : network first with
    | ok leaf =>
      obtain rfl := only first List.mem_cons_self leaf presented
      simpa [fetchFingerprintWithAddrs, tryFetchAtAddress, presented, refused] using remaining _
    | error err =>
      simpa [fetchFingerprintWithAddrs, tryFetchAtAddress, presented] using remaining _

/-- The daemon with this certificate answers where the URL leads: at some address of
its host and port, and no other certificate at any. -/
def Presents (platform : Platform) (network : Network) (cert : Pem) (url : List Char) : Prop :=
  ∀ host port, parseHostPort url = .ok (host, port) →
    ∃ addrs, platform.lookup (resolutionHost host) port = .ok addrs ∧
      (∃ addr ∈ addrs, network addr = .ok cert) ∧
      ∀ addr ∈ addrs, ∀ leaf, network addr = .ok leaf → leaf = cert

/-- The identity check yields the fingerprint of the certificate exactly when the
host of the address is a server name that the certificate is verified for. -/
theorem fetch_iff {address : NodeAddress} {host : List Char} (resolves : ResolvesBy address host)
    (presents : Presents platform network cert (resolveChars address.chars)) :
    fetchFingerprint platform network ca now (resolveChars address.chars) =
        .ok (platform.fingerprint cert) ↔
      ∃ name, platform.serverName host = some name ∧
        platform.verifyServerCert ca cert name now = .ok () := by
  obtain ⟨written, port, parsed, rfl⟩ := resolves
  obtain ⟨addrs, found, reached, only⟩ := presents written port parsed
  have present : addrs ≠ [] := by
    rintro rfl
    obtain ⟨addr, member, _⟩ := reached
    cases member
  cases named : platform.serverName (resolutionHost written) with
  | none => simp [fetchFingerprint, resolveUrlAddresses, parsed, named, bind, Except.bind]
  | some name =>
    have fetches : fetchFingerprint platform network ca now (resolveChars address.chars) =
        fetchFingerprintWithAddrs platform network ca now name none addrs := by
      simp [fetchFingerprint, resolveUrlAddresses, parsed, named, found, present, bind, Except.bind]
    rw [fetches]
    cases verified : platform.verifyServerCert ca cert name now with
    | ok _ => simp [fetch_addrs_accepted verified reached only, verified]
    | error refusal => simp [fetch_addrs_refused verified only, verified]

/-- The client of the commands and the identity check accept the same daemons exactly
at addresses with a host that is a DNS name and matches the common name of the leaf.

Proof: the leaf has its common name as its only alternative name, a DNS name. The text
of an IP address is no DNS name, and an IP address matches none. -/
theorem pin_check_agrees_iff {faults : LeafFaults} {cn : String} {world after : World Pem}
    {key : Pem} (issued : issueLeafWithStore faults cn .daemon world = (.ok (cert, key), after))
    (accepted : clientAccepts platform ca cert now = true) {address : NodeAddress}
    (presents : Presents platform network cert (resolveChars address.chars)) :
    fetchFingerprint platform network ca now (resolveChars address.chars) =
        .ok (platform.fingerprint cert) ↔
      ∃ host port name, address = .named host port ∧
        platform.serverName host.chars = some (.dns name) ∧ platform.dnsMatches name cn = true := by
  have returned := (leaf_issued faults cn .daemon world).returned cert key (by rw [issued])
  obtain ⟨_, caCert, caKey, call, _, rfl⟩ := returned
  have verified (name : ServerName) :
      platform.verifyServerCert ca (.leafCert call cn .daemon caKey) name now = .ok () ↔
        ∃ dns, name = .dns dns ∧ platform.dnsMatches dns cn = true := by
    have trusted : platform.trusted ca (.leafCert call cn .daemon caKey) now = true := accepted
    rw [platform.verifies]
    cases name <;> simp [trusted, subjectAltNames, nameMatches]
  obtain ⟨host, port, rfl, resolves⟩ | ⟨unnamed, ip, resolves⟩ := address_resolves address
  · rw [fetch_iff resolves presents]
    constructor
    · rintro ⟨name, named, accepts⟩
      obtain ⟨dns, rfl, matching⟩ := (verified name).mp accepts
      exact ⟨host, port, dns, rfl, named, matching⟩
    · rintro ⟨other, _, dns, same, named, matching⟩
      obtain ⟨rfl, _⟩ := NodeAddress.named.inj same
      exact ⟨.dns dns, named, (verified _).mpr ⟨dns, rfl, matching⟩⟩
  · rw [fetch_iff resolves presents]
    constructor
    · rintro ⟨name, named, accepts⟩
      obtain ⟨dns, rfl, _⟩ := (verified name).mp accepts
      exact absurd named (platform.ipText ip dns)
    · rintro ⟨host, port, _, same, _⟩
      exact absurd same (unnamed host port)

end Agreement

section Example

/-- A DNS name has a letter, and beside letters only digits, hyphens and dots. -/
def isDnsName (text : List Char) : Bool :=
  text.any Char.isAlpha && text.all fun char => char.isAlphanum || char = '-' || char = '.'

theorem ip_text_is_no_dns_name (ip : IpAddr) : isDnsName ip.chars = false := by
  cases ip with
  | v4 ip =>
    have noLetter : ip.chars.any Char.isAlpha = false := by
      rw [List.any_eq_false]
      intro char member
      obtain digit | rfl := ip.mem_chars member
      · obtain ⟨value, read⟩ := Option.isSome_iff_exists.mp digit
        obtain ⟨small, rfl⟩ := digitChar_of_toDigit (by decide) read
        have digits : ∀ digit < 10, ¬ (Nat.digitChar digit).isAlpha = true := by decide
        exact digits value small
      · decide
    simp [isDnsName, IpAddr.chars, noLetter]
  | v6 ip =>
    have colons := ip.two_colons
    have colon : ':' ∈ ip.chars := List.count_pos_iff.mp (by omega)
    have notAll : (ip.chars.all fun char => char.isAlphanum || char = '-' || char = '.') = false := by
      rw [List.all_eq_false]
      exact ⟨':', colon, by decide⟩
    simp [isDnsName, IpAddr.chars, notAll]

/-- The CA has signed this leaf for a daemon. -/
def signed : Pem → Pem → Bool
  | .caCert issuer, .leafCert _ _ .daemon (.caKey signer) => issuer = signer
  | _, _ => false

/-- A CA trusts the daemon leaves that were signed with its key. Names match when they
are the same, and every host name is resolved to one address. -/
def examplePlatform : Platform where
  trusted ca leaf _ := signed ca leaf
  dnsMatches name presented := name = presented.toList
  verifyServerCert ca leaf name _ :=
    if signed ca leaf && (subjectAltNames leaf).any (nameMatches (fun name presented =>
        name = presented.toList) name) then .ok ()
    else .error "invalid peer certificate"
  verifies ca leaf name now := by simp
  serverName text := if isDnsName text then some (.dns text) else (parseIpAddr text).map .ip
  ipText ip name := by
    rw [ip_text_is_no_dns_name]
    simp
  lookup host port :=
    match parseIpAddr host with
    | some (.v4 ip) => .ok [.v4 ip port]
    | some (.v6 ip) => .ok [.v6 ip port]
    | none => .ok [.v4 ⟨10, 0, 0, 2⟩ port]
  fingerprint _ := "aa:01"

/-- The leaf of the daemon "web", issued under a new CA. -/
def webLeaf : Pem := .leafCert 1 "web" .daemon (.caKey 0)

def webNetwork : Network := fun _ => .ok webLeaf

def noFaults : LeafFaults := ⟨⟨none, none, none, none, none⟩, none, none, none⟩

def emptyStores : World Pem := ⟨fun _ => none, fun _ => none, 0⟩

theorem web_issued : ∃ after, issueLeafWithStore noFaults "web" .daemon emptyStores =
    (.ok (webLeaf, .leafKey 1), after) := ⟨_, rfl⟩

/-- The address that discovery stores for the daemon. -/
def webAddress : NodeAddress := .discovered (.v4 ⟨10, 0, 0, 2⟩) 3625

theorem web_presents (address : NodeAddress) :
    Presents examplePlatform webNetwork webLeaf (resolveChars address.chars) := by
  intro host port _
  have known : ∃ addr, examplePlatform.lookup (resolutionHost host) port = .ok [addr] := by
    unfold examplePlatform
    dsimp only
    split
    · exact ⟨_, rfl⟩
    · exact ⟨_, rfl⟩
    · exact ⟨_, rfl⟩
  obtain ⟨addr, found⟩ := known
  refine ⟨[addr], found, ⟨addr, List.mem_cons_self, rfl⟩, ?_⟩
  rintro other _ leaf ⟨⟩
  rfl

/-- A daemon that the client accepts is refused by the check at the address that
discovery stores for it. -/
theorem discovered_daemon_refused :
    ¬ ∀ (platform : Platform) (network : Network) (ca cert key : Pem) (now : Int)
      (faults : LeafFaults) (cn : String) (world after : World Pem) (address : NodeAddress),
      issueLeafWithStore faults cn .daemon world = (.ok (cert, key), after) →
      clientAccepts platform ca cert now = true →
      Presents platform network cert (resolveChars address.chars) →
      fetchFingerprint platform network ca now (resolveChars address.chars) =
        .ok (platform.fingerprint cert) := by
  intro claimed
  obtain ⟨after, issued⟩ := web_issued
  have fetched := claimed examplePlatform webNetwork (.caCert 0) webLeaf (.leafKey 1) 0 noFaults
    "web" emptyStores after webAddress issued rfl (web_presents webAddress)
  exact absurd fetched (by decide)

def webHost : HostName := ⟨['w', 'e', 'b'], by decide, by decide, by decide⟩

/-- At its host name the same daemon is accepted. -/
theorem named_daemon_accepted :
    fetchFingerprint examplePlatform webNetwork (.caCert 0) 0
        (resolveChars (NodeAddress.named webHost 3625).chars) = .ok "aa:01" := by
  obtain ⟨after, issued⟩ := web_issued
  exact (pin_check_agrees_iff issued rfl (web_presents (.named webHost 3625))).mpr
    ⟨webHost, 3625, ['w', 'e', 'b'], rfl, rfl, rfl⟩

end Example

end Brewmble.ServerIdentity
