import Brewmble.AddressUrls
import Brewmble.Rediscovery

/-!
# What a daemon announces leads back to it

A daemon announces itself under the first label of its host name, with the whole host name
as its id and the port that it listens at. The browser of the command line tool shows this
as a service with a full name, the same port and properties, and some of the addresses of
the host, or the one that was configured.

From this the tool takes a name and an address into its configuration. A name survives on
the way unless it has control characters or looks like a property of its own. Under a name
that has survived, the node command finds one entry with an address that the daemon was shown
with. Where this is the plain text of an IP address, the URL of the entry has the address and
the port of the daemon.

The library shows a link-local address with the interface that it is reached over, as in
`fe80::1%eth0`. Nothing is proved about the URL of an entry that was made from such a text.
-/

namespace Brewmble.Announcement

open CliConfig CliCommands Discovery IpAddress MergedNodes NormalConfig Rediscovery ResolveUrl AddressUrls

def serviceFullType : String := "_brewmble._tcp.local."

def txtTls : String := "tls"

def txtTlsValue : String := "mtls"

/-- What the mDNS library is given to announce. -/
structure ServiceInfo where
  type : String
  instanceName : String
  hostName : String
  /-- Without it, the library finds the addresses of the host. -/
  ip : Option IpAddr
  port : UInt16
  properties : List (String × String)

/-- `mdns_properties`. -/
def mdnsProperties (hostname : String) : List (String × String) :=
  [("id", hostname), (txtTls, txtTlsValue)]

/-- `instance_hostname`: up to the first dot. -/
def instanceHostname (hostname : String) : String := String.ofList (hostname.toList.takeWhile (· ≠ '.'))

/-- `mdns_host_name`. -/
def mdnsHostName (hostname : String) : String := "brewmbled-" ++ instanceHostname hostname ++ ".local."

/-- `register_mdns`, up to the call of the library. -/
def registerMdns (port : UInt16) (hostname : String) (ip : Option IpAddr) : ServiceInfo where
  type := serviceFullType
  instanceName := "brewmbled-" ++ instanceHostname hostname
  hostName := mdnsHostName hostname
  ip := ip
  port := port
  properties := mdnsProperties hostname

/-- What decides about the announcement of a daemon. -/
structure Announcer where
  /-- `server.hostname` of the configuration. -/
  configured : Option String
  /-- The name of the system. -/
  system : String
  port : UInt16
  ip : Option IpAddr

/-- The host name in `main`, which has no dots at its end. -/
def Announcer.hostname (daemon : Announcer) : String :=
  String.ofList (trimEnd '.' (daemon.configured.getD daemon.system).toList)

def Announcer.info (daemon : Announcer) : ServiceInfo :=
  registerMdns daemon.port daemon.hostname daemon.ip

/-- The library shows an address as it is, or with the interface that it is reached over. -/
inductive Displays (ip : IpAddr) : String → Prop
  | plain : Displays ip (String.ofList ip.chars)
  | within (interface : List Char) : Displays ip (String.ofList (ip.chars ++ '%' :: interface))

/-- How the library shows an announced service to a browser. In a full name, dots and
backslashes of the instance name are escaped. -/
structure Announces (info : ServiceInfo) (service : ResolvedService) : Prop where
  fullname : '.' ∉ info.instanceName.toList → '\\' ∉ info.instanceName.toList →
    service.fullname = info.instanceName ++ "." ++ info.type
  port : service.port = info.port
  txtProperties : service.txtProperties = info.properties
  given : ∀ ip, info.ip = some ip → ∀ addr ∈ service.addresses, Displays ip addr

section Names

variable {info : ServiceInfo} {service : ResolvedService} {port : UInt16} {hostname : String}
  {ip : Option IpAddr}

/-- The id of a service is what is left of the host name. -/
theorem entryId_eq (announces : Announces (registerMdns port hostname ip) service) :
    entryId service = sanitizeDisplay (cleanNodeId hostname) := by
  rw [entryId, announces.txtProperties]
  rfl

theorem stripPrefix_some {start text rest : List Char} (found : stripPrefix start text = some rest) :
    start <+: text := by
  induction start generalizing text with
  | nil => exact List.nil_prefix
  | cons expected start inductionHypothesis =>
    cases text with
    | nil => cases found
    | cons first text =>
      obtain ⟨rfl, later⟩ := Option.ite_none_right_eq_some.mp found
      exact List.cons_prefix_cons.mpr ⟨rfl, inductionHypothesis later⟩

theorem stripPrefix_none {start text : List Char} (not : ¬ start <+: text) :
    stripPrefix start text = none := by
  cases found : stripPrefix start text with
  | none => rfl
  | some rest => exact absurd (stripPrefix_some found) not

/-- A host name survives as the id exactly when it has no control characters and does not
begin like the property. -/
theorem entryId_survives (announces : Announces (registerMdns port hostname ip) service) :
    entryId service = hostname ↔ Clean hostname ∧ ¬ "id=".toList <+: hostname.toList := by
  rw [entryId_eq announces]
  by_cases begins : "id=".toList <+: hostname.toList
  · obtain ⟨rest, same⟩ := begins
    have shorter : (sanitizeDisplay (cleanNodeId hostname)).toList.length ≤ rest.length := by
      rw [cleanNodeId, ← same, stripPrefix_append, Option.getD_some, sanitizeDisplay,
        String.toList_ofList, String.toList_ofList]
      exact List.length_filter_le _ _
    have longer : "id=".toList.length = 3 := by decide
    constructor
    · intro survives
      rw [survives, ← same, List.length_append] at shorter
      omega
    · rintro ⟨_, not⟩
      exact absurd ⟨rest, same⟩ not
  · have kept : cleanNodeId hostname = hostname := by
      rw [cleanNodeId, stripPrefix_none begins, Option.getD_none, String.ofList_toList]
    rw [kept]
    constructor
    · intro survives
      exact ⟨survives ▸ sanitized_clean hostname, begins⟩
    · rintro ⟨clean, _⟩
      exact sanitize_of_clean clean

theorem instanceHostname_toList (hostname : String) :
    (instanceHostname hostname).toList = hostname.toList.takeWhile (· ≠ '.') :=
  String.toList_ofList

theorem instance_dotless (hostname : String) : '.' ∉ ("brewmbled-" ++ instanceHostname hostname).toList := by
  rw [String.toList_append, instanceHostname_toList, List.mem_append]
  rintro (fixed | label)
  · exact absurd fixed (by decide)
  · have kept := List.mem_takeWhile_imp label
    simp at kept

theorem instance_unescaped (plain : '\\' ∉ hostname.toList) :
    '\\' ∉ ("brewmbled-" ++ instanceHostname hostname).toList := by
  rw [String.toList_append, instanceHostname_toList, List.mem_append]
  rintro (fixed | label)
  · exact absurd fixed (by decide)
  · exact plain (List.takeWhile_subset _ label)

end Names

section Calling

/-- A host name that survives, and in which the library has nothing to escape. -/
structure Plain (hostname : String) : Prop where
  named : hostname ≠ ""
  clean : Clean hostname
  bare : ¬ "id=".toList <+: hostname.toList
  unescaped : '\\' ∉ hostname.toList

/-- The daemons of a network with the services that they are shown as. No two have the
first label of their host names in common, or an address with a port. -/
structure Announced (daemons : List Announcer) (service : Announcer → ResolvedService) : Prop where
  announces : ∀ daemon ∈ daemons, Announces daemon.info (service daemon)
  plain : ∀ daemon ∈ daemons, Plain daemon.hostname
  labels : ∀ daemon ∈ daemons, ∀ other ∈ daemons, daemon ≠ other →
    instanceHostname daemon.hostname ≠ instanceHostname other.hostname
  separate : ∀ daemon ∈ daemons, ∀ other ∈ daemons, daemon ≠ other → daemon.port = other.port →
    ∀ addr ∈ (service daemon).addresses, addr ∉ (service other).addresses

variable {daemons : List Announcer} {service : Announcer → ResolvedService}

theorem announced_id (announced : Announced daemons service) {daemon : Announcer}
    (member : daemon ∈ daemons) : entryId (service daemon) = daemon.hostname :=
  (entryId_survives (announced.announces daemon member)).mpr
    ⟨(announced.plain daemon member).clean, (announced.plain daemon member).bare⟩

theorem announced_fullname (announced : Announced daemons service) {daemon : Announcer}
    (member : daemon ∈ daemons) :
    (service daemon).fullname = ("brewmbled-" ++ instanceHostname daemon.hostname) ++ ("." ++ serviceFullType) := by
  rw [(announced.announces daemon member).fullname (instance_dotless _)
    (instance_unescaped (announced.plain daemon member).unescaped), String.append_assoc]
  rfl

/-- Such daemons are a network of services. -/
theorem announced_network (announced : Announced daemons service) : Network (daemons.map service) := by
  have apart {property : ResolvedService → ResolvedService → Prop}
      (differs : ∀ daemon ∈ daemons, ∀ other ∈ daemons, daemon ≠ other →
        property (service daemon) (service other)) :
      ∀ first ∈ daemons.map service, ∀ second ∈ daemons.map service, first ≠ second →
        property first second := by
    intro first member second another different
    obtain ⟨daemon, listed, rfl⟩ := List.mem_map.mp member
    obtain ⟨other, listed', rfl⟩ := List.mem_map.mp another
    exact differs daemon listed other listed' fun same => different (same ▸ rfl)
  refine ⟨apart ?_, apart ?_, ?_, apart ?_⟩
  · intro daemon member other another different same
    rw [announced_fullname announced member, announced_fullname announced another] at same
    have labels := (String.append_right_inj _).mp ((String.append_left_inj _).mp same)
    exact announced.labels daemon member other another different labels
  · intro daemon member other another different same
    rw [announced_id announced member, announced_id announced another] at same
    exact announced.labels daemon member other another different (same ▸ rfl)
  · intro shown member
    obtain ⟨daemon, listed, rfl⟩ := List.mem_map.mp member
    rw [announced_id announced listed]
    exact (announced.plain daemon listed).named
  · intro daemon member other another different ports
    have port (daemon : Announcer) (member : daemon ∈ daemons) : (service daemon).port = daemon.port :=
      (announced.announces daemon member).port
    rw [port daemon member, port other another] at ports
    exact announced.separate daemon member other another different ports

/-- Named daemons leave the unnamed entries alone. -/
theorem unnamed_kept {discovered : List (String × String)} (named : ∀ found ∈ discovered, found.2 ≠ "")
    {nodes : List NodeConfig} {node : NodeConfig} (member : node ∈ mergeAll discovered nodes)
    (unnamed : node.name = none) : node ∈ nodes := by
  induction discovered generalizing nodes with
  | nil => exact member
  | cons found rest inductionHypothesis =>
    obtain ⟨first, later⟩ := List.forall_mem_cons.mp named
    have listed : node ∈ (mergeNode found.1 found.2 nodes).1 := inductionHypothesis later member
    have new : newName found.2 = some found.2 := newName_of_named first
    unfold mergeNode at listed
    split at listed
    · obtain ⟨position, stands⟩ := List.mem_iff_getElem?.mp listed
      rw [List.getElem?_modify] at stands
      obtain ⟨original, stood, same⟩ := Option.map_eq_some_iff.mp stands
      split at same
      · rw [← same, NodeConfig.merged, new] at unnamed
        cases unnamed
      · exact same ▸ List.mem_of_getElem? stood
    · obtain before | same := List.mem_append.mp listed
      · exact before
      · rw [List.mem_singleton.mp same, new] at unnamed
        cases unnamed

/-- The entry in which a named daemon is settled is the one that is called by its name. -/
theorem settled_called {addr id : String} {nodes : List NodeConfig} (named : id ≠ "")
    (settled : Settled addr id nodes) (unnamed : ∀ node ∈ nodes, node.name = none → node.address ≠ id) :
    ∃ node, nodes.find? (isCalled id) = some node ∧ node.name = some id ∧ node.address = addr := by
  obtain ⟨index, node, first, listed, address, name⟩ := settled
  rw [newName_of_named named] at name
  rw [sought_named named] at first
  obtain ⟨inside, _, earlier⟩ := List.findIdx?_eq_some_iff_getElem.mp first
  have here : nodes[index] = node := Option.some.inj ((List.getElem?_eq_getElem inside).symm.trans listed)
  refine ⟨node, List.find?_eq_some_iff_getElem.mpr ⟨by simp [isCalled, name], index, inside, here, ?_⟩,
    name, address⟩
  intro position before
  have other : nodes[position].name ≠ some id := by simpa using earlier position before
  have elsewhere := unnamed nodes[position] (List.getElem_mem _)
  simp only [isCalled, other, decide_false, Bool.false_or, Bool.not_eq_true', Bool.and_eq_false_iff,
    decide_eq_false_iff_not]
  exact not_and_or.mp fun both => elsewhere both.1 both.2

/-- An address that a daemon is shown with leads to the daemon's port there. -/
theorem announced_reached (ip : IpAddr) (port : UInt16) :
    ∃ host, Reaches (socketText (String.ofList ip.chars) port) host port ∧
      (host = ip.chars ∨ host = '[' :: ip.chars ++ [']']) := by
  cases ip with
  | v4 ip => exact ⟨_, shown_v4_reached port ip, .inl rfl⟩
  | v6 ip => exact ⟨_, shown_v6_reached port ip, .inr rfl⟩

end Calling

/-- A daemon that announces itself can be called by its host name. Let daemons with plain
host names be announced, and shown in any number of events, each with some of its addresses
in any order. After any discover command that merges these into any file, where no unnamed
entry has the host name for its address, resolving the host name yields one entry. It is
called so, and its address is one of those that the daemon was shown with, which is the
configured one if there is one. Where this is shown as it is, the URL of the entry leads to
this address and the daemon's port.

Proof: the names survive, so the daemons are a network, and each is settled by the merge at
the address under which it was taken. -/
theorem announced_daemons_called {daemons : List Announcer} {service : Announcer → ResolvedService}
    (announced : Announced daemons service) {events : List ServiceEvent}
    (sees : Sees (daemons.map service) events) (env : Environment)
    (discovers : env.discovered = .ok (discoveredNodes events)) (file : Option Config)
    (succeeds : (runDiscover env true (.begin file)).1 = .ok ())
    (unnamed : ∀ node ∈ (loadConfig file).active, node.name = none →
      ∀ daemon ∈ daemons, node.address ≠ daemon.hostname) :
    ∀ daemon ∈ daemons, ∃ (node : NodeConfig) (addr : String),
      resolveProfileNodes [daemon.hostname] (loadedAfter env file) = .ok [node] ∧
      node.name = some daemon.hostname ∧
      node.address = socketText addr daemon.port ∧ addr ∈ (service daemon).addresses ∧
      (∀ configured, daemon.ip = some configured → Displays configured addr) ∧
      ∀ ip : IpAddr, addr = String.ofList ip.chars →
        ∃ host, Reaches node.address host daemon.port ∧
          (host = ip.chars ∨ host = '[' :: ip.chars ++ [']']) := by
  intro daemon member
  have network := announced_network announced
  have announces := announced.announces daemon member
  obtain ⟨addr, listed, isTaken⟩ := taken_some network sees (List.mem_map_of_mem member)
  have discovered : (socketText addr daemon.port, daemon.hostname) ∈ discoveredNodes events := by
    refine (mem_discovered_iff network sees _ _).mpr
      ⟨service daemon, List.mem_map_of_mem member, _, isTaken, ?_, (announced_id announced member).symm⟩
    rw [announces.port]
    rfl
  have merged := discovered_config env discovers file succeeds
  have present := merged_present (loadConfig file) (discoveredNodes events)
  have settled : ∀ found ∈ discoveredNodes events,
      Settled found.1 found.2 (loadedAfter env file).active := by
    rw [merged, merged_active]
    exact all_settled (discovered_apart network sees)
  have free : ∀ node ∈ (loadedAfter env file).active, node.name = none →
      node.address ≠ daemon.hostname := by
    rw [merged, merged_active]
    intro node stored none
    refine unnamed node (unnamed_kept ?_ stored none) none daemon member
    rintro ⟨target, id⟩ found
    obtain ⟨shown, inside, _, _, _, rfl⟩ := (mem_discovered_iff network sees target id).mp found
    exact network.named shown inside
  obtain ⟨node, found, name, address⟩ :=
    settled_called (announced.plain daemon member).named (settled (_, _) discovered) free
  refine ⟨node, addr, ?_, name, address, listed, ?_, ?_⟩
  · rw [← merged] at present
    unfold resolveProfileNodes
    cases profile : (loadedAfter env file).profiles (loadedAfter env file).activeProfile with
    | none => exact absurd profile present
    | some entries =>
      have active : entries.nodes = (loadedAfter env file).active := by
        simp [Config.active, profile]
      simp [matchNodes, active, found, Except.map]
  · intro configured given
    exact announces.given configured given addr listed
  · rintro ip rfl
    rw [address]
    exact announced_reached ip daemon.port

/-- A daemon under the name of its system. -/
def raspi : Announcer := ⟨none, "raspi.local.", 4712, none⟩

/-- It is shown with some of its addresses. -/
def raspiShown (addresses : List String) : ResolvedService where
  fullname := "brewmbled-raspi._brewmble._tcp.local."
  addresses := addresses
  port := 4712
  txtProperties := [("id", "raspi.local"), ("tls", "mtls")]

def raspiAddresses : List String := ["10.0.0.2", "fe80::2%eth0"]

/-- Discovery that sees this daemon twice, first with one address and then with both. -/
def raspiEvents : List ServiceEvent :=
  [.resolved (raspiShown ["10.0.0.2"]), .other, .resolved (raspiShown ["fe80::2%eth0", "10.0.0.2"])]

def raspiEnvironment : Environment where
  fetch _ _ _ := .error "refused"
  saveFault := none
  clientFault := none
  discovered := .ok (discoveredNodes raspiEvents)
  schedule := ⟨id, fun targets => List.Perm.refl targets⟩

theorem raspi_announced : Announced [raspi] fun _ => raspiShown raspiAddresses := by
  have only {daemon : Announcer} (member : daemon ∈ [raspi]) : daemon = raspi := by simpa using member
  refine ⟨?_, ?_, ?_, ?_⟩
  · intro daemon member
    obtain rfl := only member
    exact ⟨fun _ _ => by decide, rfl, by decide, fun ip given => by cases given⟩
  · intro daemon member
    obtain rfl := only member
    have name : raspi.hostname = "raspi.local" := by decide
    have printable : ("raspi.local".toList.all fun char => !isControl char) = true := by decide
    rw [name]
    refine ⟨by decide, fun char member => ?_, by decide, by decide⟩
    simpa using List.all_eq_true.mp printable char member
  · intro daemon member other another different
    exact absurd ((only member).trans (only another).symm) different
  · intro daemon member other another different
    exact absurd ((only member).trans (only another).symm) different

theorem raspi_seen : Sees ([raspi].map fun _ => raspiShown raspiAddresses) raspiEvents := by
  have partly : Shows (raspiShown raspiAddresses) (raspiShown ["10.0.0.2"]) :=
    ⟨rfl, rfl, rfl, by decide, by decide⟩
  have whole : Shows (raspiShown raspiAddresses) (raspiShown ["fe80::2%eth0", "10.0.0.2"]) :=
    ⟨rfl, rfl, rfl, by decide, by decide⟩
  constructor
  · intro info seen
    obtain rfl | rfl : info = raspiShown ["10.0.0.2"] ∨ info = raspiShown ["fe80::2%eth0", "10.0.0.2"] := by
      simpa [raspiEvents] using seen
    · exact ⟨_, List.mem_cons_self, partly⟩
    · exact ⟨_, List.mem_cons_self, whole⟩
  · intro service member
    obtain rfl := List.mem_singleton.mp member
    exact ⟨_, List.mem_cons_self, partly⟩

theorem raspi_called :
    ∃ node host, resolveProfileNodes [raspi.hostname] (loadedAfter raspiEnvironment none) = .ok [node] ∧
      Reaches node.address host 4712 := by
  obtain ⟨node, addr, resolved, _, address, _, _, plainly⟩ :=
    announced_daemons_called raspi_announced raspi_seen raspiEnvironment rfl none (by decide)
      (by rintro node ⟨⟩) raspi List.mem_cons_self
  have taken : (resolveProfileNodes [raspi.hostname] (loadedAfter raspiEnvironment none)).toOption =
      some [⟨some "raspi.local", socketText "10.0.0.2" 4712, none⟩] := by decide
  rw [resolved] at taken
  obtain rfl : node = ⟨some "raspi.local", socketText "10.0.0.2" 4712, none⟩ := by
    simpa [Except.toOption] using taken
  have plain : addr = String.ofList (Ipv4Addr.chars ⟨10, 0, 0, 2⟩) := by
    rw [← (socketText_injective address).1]
    decide
  obtain ⟨host, reaches, _⟩ := plainly (.v4 ⟨10, 0, 0, 2⟩) plain
  exact ⟨_, host, resolved, reaches⟩

end Brewmble.Announcement
