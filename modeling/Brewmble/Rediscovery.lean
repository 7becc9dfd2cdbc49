import Brewmble.CommandRuns
import Brewmble.MergedNodes
import Brewmble.UrlText

/-!
# Discovering the same network again

Each run takes a service under the first of its addresses, as the first event about
it happens to iterate them. Entries of the configuration are found by the name of
the service, so a service that is taken under another address moves its entry and
loses the stored fingerprint. A second run changes nothing exactly when it takes every
service under the same address as the first run.

The mDNS library resolves a service as soon as it knows one of its addresses, so an event
may show some of them only.
-/

namespace Brewmble.Rediscovery

open CliConfig CliCommands CommandRuns Discovery IpAddress MergedNodes NormalConfig ResolveUrl

section Networks

/-- The advertised services have distinct full names and ids, and no address with a
port in common. -/
structure Network (services : List ResolvedService) : Prop where
  names : ∀ service ∈ services, ∀ other ∈ services, service ≠ other →
    service.fullname ≠ other.fullname
  ids : ∀ service ∈ services, ∀ other ∈ services, service ≠ other →
    entryId service ≠ entryId other
  named : ∀ service ∈ services, entryId service ≠ ""
  separate : ∀ service ∈ services, ∀ other ∈ services, service ≠ other →
    service.port = other.port → ∀ addr ∈ service.addresses, addr ∉ other.addresses

/-- An event shows the service, with some of its addresses in any order. -/
structure Shows (service info : ResolvedService) : Prop where
  fullname : info.fullname = service.fullname
  port : info.port = service.port
  txtProperties : info.txtProperties = service.txtProperties
  addresses : info.addresses ⊆ service.addresses
  reachable : info.addresses ≠ []

/-- A run sees each of the services at least once, and no other. -/
structure Sees (services : List ResolvedService) (events : List ServiceEvent) : Prop where
  only : ∀ info, .resolved info ∈ events → ∃ service ∈ services, Shows service info
  every : ∀ service ∈ services, ∃ info, .resolved info ∈ events ∧ Shows service info

/-- The address under which a run takes a service. -/
def takenAddress (events : List ServiceEvent) (service : ResolvedService) : Option String :=
  (firstShown events service.fullname).bind fun info => info.addresses.head?

end Networks

section Taking

variable {services : List ResolvedService} {events : List ServiceEvent}

theorem socketText_injective {addr addr' : String} {port port' : UInt16}
    (same : socketText addr port = socketText addr' port') : addr = addr' ∧ port = port' := by
  have without (port : UInt16) : ':' ∉ decimal port.toNat := not_mem_decimal port (by decide)
  have texts := String.ofList_injective same
  have split := congrArg (rsplitOnce ':') texts
  rw [rsplitOnce_append (without port), rsplitOnce_append (without port')] at split
  obtain ⟨host, digits⟩ := Prod.mk.inj (Option.some.inj split)
  have ports := congrArg parsePort digits
  rw [parsePort_decimal, parsePort_decimal] at ports
  exact ⟨String.toList_injective host, Except.ok.inj ports⟩

theorem firstShown_mem {fullname : String} {info : ResolvedService}
    (shown : firstShown events fullname = some info) :
    .resolved info ∈ events ∧ info.fullname = fullname := by
  obtain ⟨event, member, found⟩ := List.exists_of_findSome?_eq_some shown
  cases event with
  | resolved other =>
    by_cases same : other.fullname = fullname
    · obtain rfl : other = info := by simpa [same] using found
      exact ⟨member, same⟩
    · simp [same] at found
  | searchStopped _ => cases found
  | other => cases found

theorem firstShown_some {info : ResolvedService} (member : .resolved info ∈ events) :
    ∃ first, firstShown events info.fullname = some first := by
  apply Option.isSome_iff_exists.mp
  exact List.findSome?_isSome_iff.mpr ⟨.resolved info, member, by simp⟩

/-- Services of one full name are the same. -/
theorem service_unique (network : Network services) {service other : ResolvedService}
    (member : service ∈ services) (another : other ∈ services)
    (same : service.fullname = other.fullname) : service = other := by
  by_contra different
  exact network.names service member other another different same

/-- A run that sees the network takes each service under one of its addresses. -/
theorem taken_some (network : Network services) (sees : Sees services events)
    {service : ResolvedService} (member : service ∈ services) :
    ∃ addr ∈ service.addresses, takenAddress events service = some addr := by
  obtain ⟨info, seen, shows⟩ := sees.every service member
  obtain ⟨first, shown⟩ := firstShown_some seen
  rw [shows.fullname] at shown
  obtain ⟨listed, fullname⟩ := firstShown_mem shown
  obtain ⟨other, another, shows'⟩ := sees.only first listed
  obtain rfl := service_unique network another member (shows'.fullname.symm.trans fullname)
  obtain ⟨addr, rest, addresses⟩ := List.exists_cons_of_ne_nil shows'.reachable
  refine ⟨addr, ?_, by simp [takenAddress, shown, addresses]⟩
  exact shows'.addresses (addresses ▸ List.mem_cons_self)

/-- The daemons of a run are the services, each under the address that is taken. -/
theorem mem_discovered_iff (network : Network services) (sees : Sees services events)
    (target id : String) :
    (target, id) ∈ discoveredNodes events ↔
      ∃ service ∈ services, ∃ addr, takenAddress events service = some addr ∧
        target = socketText addr service.port ∧ id = entryId service := by
  rw [mem_discoveredNodes]
  constructor
  · rintro ⟨info, shown, isTaken⟩
    obtain ⟨addr, head, same⟩ := Option.map_eq_some_iff.mp isTaken
    obtain ⟨rfl, rfl⟩ := Prod.mk.inj same
    obtain ⟨service, member, shows⟩ := sees.only info (firstShown_mem shown).1
    refine ⟨service, member, addr, ?_, by rw [shows.port], ?_⟩
    · rw [takenAddress, ← shows.fullname, shown]
      exact head
    · rw [entryId, entryId, shows.txtProperties]
  · rintro ⟨service, member, addr, isTaken, rfl, rfl⟩
    obtain ⟨info, shown, head⟩ := Option.bind_eq_some_iff.mp isTaken
    obtain ⟨listed, fullname⟩ := firstShown_mem shown
    obtain ⟨other, another, shows⟩ := sees.only info listed
    obtain rfl := service_unique network another member (shows.fullname.symm.trans fullname)
    refine ⟨info, fullname.symm ▸ shown, ?_⟩
    rw [taken, head, Option.map_some, shows.port, entryId, entryId, shows.txtProperties]

/-- The daemons of a run have distinct addresses and ids. -/
theorem discovered_apart (network : Network services) (sees : Sees services events) :
    (discoveredNodes events).Pairwise Apart := by
  rw [discoveredNodes, collectNodes_eq]
  refine List.pairwise_filterMap.mpr ((firstInfos_distinct [] events).imp_of_mem ?_)
  intro first second inFirst inSecond differ daemon isTaken daemon' isTaken'
  obtain ⟨addr, head, rfl⟩ := Option.map_eq_some_iff.mp isTaken
  obtain ⟨addr', head', rfl⟩ := Option.map_eq_some_iff.mp isTaken'
  have showsOne (info : ResolvedService) (member : info ∈ firstInfos [] events) :
      ∃ service ∈ services, Shows service info :=
    sees.only info (firstShown_mem ((mem_firstInfos [] events info).mp member).2).1
  obtain ⟨service, member, shows⟩ := showsOne first inFirst
  obtain ⟨service', member', shows'⟩ := showsOne second inSecond
  have different : service ≠ service' := by
    rintro rfl
    exact differ (shows.fullname.trans shows'.fullname.symm)
  constructor
  · intro same
    obtain ⟨rfl, ports⟩ := socketText_injective same
    rw [shows.port, shows'.port] at ports
    exact network.separate service member service' member' different ports addr
      (shows.addresses (List.mem_of_head? head)) (shows'.addresses (List.mem_of_head? head'))
  · intro _ same
    apply network.ids service member service' member' different
    simpa [entryId, shows.txtProperties, shows'.txtProperties] using same.symm

end Taking

section Twice

/-- What the next command loads after `discover -u`. -/
def loadedAfter (env : Environment) (file : Option Config) : Config :=
  loadConfig (runDiscover env true (.begin file)).2.file

/-- A discover command that succeeds leaves a file that is loaded as the merged
configuration, whether or not it was saved. -/
theorem discovered_config (env : Environment) {events : List ServiceEvent}
    (discovers : env.discovered = .ok (discoveredNodes events)) (file : Option Config)
    (succeeds : (runDiscover env true (.begin file)).1 = .ok ()) :
    loadedAfter env file = (mergeNodes (loadConfig file) (discoveredNodes events)).1 := by
  unfold loadedAfter
  cases reported : (mergeNodes (loadConfig file) (discoveredNodes events)).2 with
  | false =>
    rw [unreported_unchanged (load_normal file).present reported]
    simp [runDiscover, discovers, Session.begin, reported]
  | true =>
    cases save : env.saveFault with
    | some err => simp [runDiscover, discovers, Session.begin, reported, saveConfig, save] at succeeds
    | none =>
      have written : (runDiscover env true (.begin file)).2.file =
          some (mergeNodes (loadConfig file) (discoveredNodes events)).1 := by
        simp [runDiscover, discovers, Session.begin, reported, saveConfig, save]
      rw [written]
      exact load_saved (merge_normal (load_normal file) fun found member => discovered_id member)

/-- A named daemon is settled at one address only. -/
theorem settled_unique {addr addr' id : String} {nodes : List NodeConfig} (named : id ≠ "")
    (settled : Settled addr id nodes) (settled' : Settled addr' id nodes) : addr = addr' := by
  obtain ⟨index, node, first, listed, address, _⟩ := settled
  obtain ⟨index', node', first', listed', address', _⟩ := settled'
  rw [sought_named named] at first first'
  obtain rfl : index = index' := Option.some.inj (first.symm.trans first')
  obtain rfl : node = node' := Option.some.inj (listed.symm.trans listed')
  exact address.symm.trans address'

variable {services : List ResolvedService} {first second : List ServiceEvent}

/-- A second discovery of the same services reports no update and changes nothing
exactly when it takes every service under the same address as the first one.

Proof: after the first one every service is settled at the address under which it was
taken, and it is settled at no other. -/
theorem rediscovered_unchanged_iff (network : Network services) (sees : Sees services first)
    (again : Sees services second) (env : Environment)
    (discovers : env.discovered = .ok (discoveredNodes first)) (file : Option Config)
    (succeeds : (runDiscover env true (.begin file)).1 = .ok ()) :
    mergeNodes (loadedAfter env file) (discoveredNodes second) = (loadedAfter env file, false) ↔
      ∀ service ∈ services, takenAddress first service = takenAddress second service := by
  have merged := discovered_config env discovers file succeeds
  have settled : ∀ found ∈ discoveredNodes first, Settled found.1 found.2
      (mergeNodes (loadConfig file) (discoveredNodes first)).1.active := by
    rw [merged_active]
    exact all_settled (discovered_apart network sees)
  have present := merged_present (loadConfig file) (discoveredNodes first)
  rw [← merged] at settled present
  constructor
  · intro unchanged service member
    have settled' : ∀ found ∈ discoveredNodes second, Settled found.1 found.2
        (loadedAfter env file).active := by
      have same := congrArg (fun result => result.1.active) unchanged
      simp only [merged_active] at same
      rw [← same]
      exact all_settled (discovered_apart network again)
    obtain ⟨addr, _, isTaken⟩ := taken_some network sees member
    obtain ⟨addr', _, isTaken'⟩ := taken_some network again member
    have inFirst := (mem_discovered_iff network sees _ _).mpr
      ⟨service, member, addr, isTaken, rfl, rfl⟩
    have inSecond := (mem_discovered_iff network again _ _).mpr
      ⟨service, member, addr', isTaken', rfl, rfl⟩
    have targets := settled_unique (network.named service member) (settled _ inFirst)
      (settled' _ inSecond)
    rw [isTaken, isTaken', (socketText_injective targets).1]
  · intro same
    apply merge_all_settled present
    rintro ⟨target, id⟩ member
    obtain ⟨service, listed, addr, isTaken, rfl, rfl⟩ :=
      (mem_discovered_iff network again target id).mp member
    exact settled _ ((mem_discovered_iff network sees _ _).mpr
      ⟨service, listed, addr, (same service listed).trans isTaken, rfl, rfl⟩)

/-- A daemon with two addresses. -/
def twoHomes (addresses : List String) : ResolvedService where
  fullname := "web._brewmble._tcp.local."
  addresses := addresses
  port := 3625
  txtProperties := [("id", "web")]

/-- The daemon is pinned at the first address. -/
def pinnedHome : Config where
  activeProfile := "default"
  profiles name :=
    if name = "default" then some ⟨[⟨some "web", "10.0.0.2:3625", some "aa:01"⟩]⟩ else none
  nodes := []

/-- Discovery that sees the daemon at the first address first. -/
def homeEnvironment : Environment where
  fetch _ _ _ := .ok "aa:01"
  saveFault := none
  clientFault := none
  discovered := .ok (discoveredNodes [.resolved (twoHomes ["10.0.0.2", "10.1.0.2"])])
  schedule := ⟨id, fun targets => List.Perm.refl targets⟩

theorem twoHomes_network : Network [twoHomes ["10.0.0.2", "10.1.0.2"]] := by
  have named : entryId (twoHomes ["10.0.0.2", "10.1.0.2"]) ≠ "" := by decide
  constructor <;> simp [named]

theorem twoHomes_seen {addresses : List String} (perm : addresses.Perm ["10.0.0.2", "10.1.0.2"]) :
    Sees [twoHomes ["10.0.0.2", "10.1.0.2"]] [.resolved (twoHomes addresses)] := by
  have shows : Shows (twoHomes ["10.0.0.2", "10.1.0.2"]) (twoHomes addresses) := by
    refine ⟨rfl, rfl, rfl, perm.subset, ?_⟩
    rintro (rfl : addresses = [])
    exact absurd perm.nil_eq (by decide)
  constructor
  · intro info seen
    obtain rfl : info = twoHomes addresses := by simpa using seen
    exact ⟨_, List.mem_cons_self, shows⟩
  · intro service member
    obtain rfl := List.mem_singleton.mp member
    exact ⟨twoHomes addresses, List.mem_cons_self, shows⟩

/-- The events show all addresses of the services. -/
def Whole (services : List ResolvedService) (events : List ServiceEvent) : Prop :=
  ∀ info, .resolved info ∈ events → ∃ service ∈ services, info.fullname = service.fullname ∧
    info.addresses.Perm service.addresses

theorem twoHomes_whole {addresses : List String} (perm : addresses.Perm ["10.0.0.2", "10.1.0.2"]) :
    Whole [twoHomes ["10.0.0.2", "10.1.0.2"]] [.resolved (twoHomes addresses)] := by
  intro info seen
  obtain rfl : info = twoHomes addresses := by simpa using seen
  exact ⟨_, List.mem_cons_self, rfl, perm⟩

/-- The second run iterates the addresses of the daemon in another order, and the
stored fingerprint is lost, although each run shows all of them. -/
theorem reordered_addresses_unpin :
    ¬ ∀ (services : List ResolvedService) (first second : List ServiceEvent) (env : Environment)
      (file : Option Config), Network services → Sees services first → Sees services second →
      Whole services first → Whole services second →
      env.discovered = .ok (discoveredNodes first) →
      (runDiscover env true (.begin file)).1 = .ok () →
      mergeNodes (loadedAfter env file) (discoveredNodes second) = (loadedAfter env file, false) := by
  intro claimed
  have unchanged := claimed [twoHomes ["10.0.0.2", "10.1.0.2"]]
    [.resolved (twoHomes ["10.0.0.2", "10.1.0.2"])] [.resolved (twoHomes ["10.1.0.2", "10.0.0.2"])]
    homeEnvironment (some pinnedHome) twoHomes_network
    (twoHomes_seen (.refl _)) (twoHomes_seen (.swap _ _ _)) (twoHomes_whole (.refl _))
    (twoHomes_whole (.swap _ _ _)) rfl (by decide)
  have kept : ([none] : List (Option String)) = [some "aa:01"] :=
    congrArg (fun result => result.1.active.map (·.fingerprint)) unchanged
  exact absurd kept (by decide)

theorem same_order_unchanged :
    mergeNodes (loadedAfter homeEnvironment (some pinnedHome))
        (discoveredNodes [.resolved (twoHomes ["10.0.0.2", "10.1.0.2"])]) =
      (loadedAfter homeEnvironment (some pinnedHome), false) :=
  (rediscovered_unchanged_iff twoHomes_network (twoHomes_seen (.refl _))
    (twoHomes_seen (.refl _)) homeEnvironment rfl (some pinnedHome) (by decide)).mpr
    fun service _ => rfl

end Twice

end Brewmble.Rediscovery
