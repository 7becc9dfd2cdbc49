import Brewmble.CliConfig
import Brewmble.ResolveUrl

/-!
# Discovered daemons

Both browsing loops receive events until their time is over. The discover command
takes each service once, by its full name, under the first of its addresses and with
its cleaned id. The status command takes every address of every service once, with
the name of the instance.

The addresses of a service are a set: here they are listed in the order in which one
event happens to iterate them. An address is its text. The browser, its deadline and
the printed table are not modelled; a loop that ends in an error discovers nothing.
-/

namespace Brewmble.Discovery

open CliConfig IpAddress ResolveUrl

structure ResolvedService where
  fullname : String
  addresses : List String
  port : UInt16
  txtProperties : List (String × String)
  deriving DecidableEq, Repr

inductive ServiceEvent where
  | resolved (info : ResolvedService)
  | searchStopped (serviceType : String)
  | other
  deriving DecidableEq, Repr

def serviceType : String := "_brewmble._tcp"

def serviceDomain : String := "local."

/-- `strip_suffix`. -/
def stripSuffix (suffix text : List Char) : Option (List Char) :=
  (stripPrefix suffix.reverse text.reverse).map List.reverse

/-- `clean_node_id`. -/
def cleanNodeId (id : String) : String :=
  String.ofList ((stripPrefix "id=".toList id.toList).getD id.toList)

/-- `entry_id`: a service without an id has the empty one. -/
def entryId (entry : ResolvedService) : String :=
  ((entry.txtProperties.find? (·.1 = "id")).map fun property =>
    sanitizeDisplay (cleanNodeId property.2)).getD ""

/-- `entry_instance`: the full name without its service type and domain. -/
def entryInstance (entry : ResolvedService) : String :=
  let suffix := "." ++ String.ofList (trimEnd '.' serviceType.toList) ++ "." ++ serviceDomain
  sanitizeDisplay
    (((stripSuffix suffix.toList entry.fullname.toList).map String.ofList).getD entry.fullname)

/-- An address and a port, as both loops format them. -/
def socketText (addr : String) (port : UInt16) : String :=
  String.ofList (addr.toList ++ ':' :: decimal port.toNat)

/-- The loop of `run_discover`, with the full names seen so far. -/
def collectNodes : List String → List ServiceEvent → List (String × String)
  | _, [] => []
  | seen, .resolved info :: rest =>
    if info.fullname ∈ seen then collectNodes seen rest
    else
      match info.addresses.head? with
      | some addr =>
        (socketText addr info.port, entryId info) :: collectNodes (info.fullname :: seen) rest
      | none => collectNodes (info.fullname :: seen) rest
  | seen, .searchStopped _ :: rest => collectNodes seen rest
  | seen, .other :: rest => collectNodes seen rest

/-- What `run_discover` has found when its time is over. -/
def discoveredNodes (events : List ServiceEvent) : List (String × String) := collectNodes [] events

/-- The addresses of one event that were not seen before, and all that were. -/
def newTargets (name : String) (port : UInt16) :
    List String → List String → List (String × String) × List String
  | seen, [] => ([], seen)
  | seen, addr :: rest =>
    let target := socketText addr port
    if target ∈ seen then newTargets name port seen rest
    else
      let (targets, seen) := newTargets name port (target :: seen) rest
      ((target, name) :: targets, seen)

/-- The loop of `discover_targets_with_timeout`, with the targets seen so far. -/
def collectTargets : List String → List ServiceEvent → List (String × String)
  | _, [] => []
  | seen, .resolved info :: rest =>
    let (targets, seen) := newTargets (entryInstance info) info.port seen info.addresses
    targets ++ collectTargets seen rest
  | seen, .searchStopped _ :: rest => collectTargets seen rest
  | seen, .other :: rest => collectTargets seen rest

/-- What `discover_targets_with_timeout` has found when its time is over. -/
def discoverTargets (events : List ServiceEvent) : List (String × String) := collectTargets [] events

/-- The first event about a full name. -/
def firstShown (events : List ServiceEvent) (fullname : String) : Option ResolvedService :=
  events.findSome? fun
    | .resolved info => if info.fullname = fullname then some info else none
    | _ => none

section Collected

/-- The first events about the full names that were not seen before. -/
def firstInfos : List String → List ServiceEvent → List ResolvedService
  | _, [] => []
  | seen, .resolved info :: rest =>
    if info.fullname ∈ seen then firstInfos seen rest
    else info :: firstInfos (info.fullname :: seen) rest
  | seen, _ :: rest => firstInfos seen rest

/-- How a service is taken. -/
def taken (info : ResolvedService) : Option (String × String) :=
  info.addresses.head?.map fun addr => (socketText addr info.port, entryId info)

theorem collectNodes_eq (seen : List String) (events : List ServiceEvent) :
    collectNodes seen events = (firstInfos seen events).filterMap taken := by
  induction events generalizing seen with
  | nil => rfl
  | cons event rest inductionHypothesis =>
    cases event with
    | resolved info =>
      by_cases known : info.fullname ∈ seen
      · simp [collectNodes, firstInfos, known, inductionHypothesis]
      · cases first : info.addresses.head? <;>
          simp [collectNodes, firstInfos, known, first, taken, inductionHypothesis]
    | searchStopped _ => exact inductionHypothesis seen
    | other => exact inductionHypothesis seen

/-- A service is listed exactly when it is the first one shown under its full name
and this was not seen before. -/
theorem mem_firstInfos (seen : List String) (events : List ServiceEvent) (info : ResolvedService) :
    info ∈ firstInfos seen events ↔
      info.fullname ∉ seen ∧ firstShown events info.fullname = some info := by
  induction events generalizing seen with
  | nil => simp [firstInfos, firstShown]
  | cons event rest inductionHypothesis =>
    cases event with
    | resolved shown =>
      by_cases same : shown.fullname = info.fullname
      · have here : firstShown (.resolved shown :: rest) info.fullname = some shown := by
          simp [firstShown, same]
        by_cases known : shown.fullname ∈ seen
        · rw [firstInfos, if_pos known, inductionHypothesis, ← same]
          simp [known]
        · rw [firstInfos, if_neg known, List.mem_cons, inductionHypothesis, here, ← same]
          constructor
          · rintro (rfl | ⟨absent, _⟩)
            · exact ⟨known, rfl⟩
            · exact absurd List.mem_cons_self absent
          · rintro ⟨_, found⟩
            exact .inl (Option.some.inj found).symm
      · have later : firstShown (.resolved shown :: rest) info.fullname =
            firstShown rest info.fullname := by
          simp [firstShown, same]
        have other : info ≠ shown := fun equal => same (congrArg _ equal.symm)
        have differs : info.fullname ≠ shown.fullname := fun equal => same equal.symm
        rw [later]
        by_cases known : shown.fullname ∈ seen
        · rw [firstInfos, if_pos known, inductionHypothesis]
        · rw [firstInfos, if_neg known, List.mem_cons, inductionHypothesis]
          simp [other, differs]
    | searchStopped _ => exact inductionHypothesis seen
    | other => exact inductionHypothesis seen

/-- No full name is listed twice, nor one that was seen before. -/
theorem firstInfos_distinct (seen : List String) (events : List ServiceEvent) :
    (firstInfos seen events).Pairwise fun first second => first.fullname ≠ second.fullname := by
  induction events generalizing seen with
  | nil => exact .nil
  | cons event rest inductionHypothesis =>
    cases event with
    | resolved info =>
      by_cases known : info.fullname ∈ seen
      · rw [firstInfos, if_pos known]
        exact inductionHypothesis seen
      · rw [firstInfos, if_neg known]
        refine List.pairwise_cons.mpr ⟨?_, inductionHypothesis _⟩
        intro later member same
        have absent := ((mem_firstInfos _ rest later).mp member).1
        exact absent (same ▸ List.mem_cons_self)
    | searchStopped _ => exact inductionHypothesis seen
    | other => exact inductionHypothesis seen

/-- What is discovered are the first addresses of the services as first shown. -/
theorem mem_discoveredNodes (events : List ServiceEvent) (target id : String) :
    (target, id) ∈ discoveredNodes events ↔
      ∃ info, firstShown events info.fullname = some info ∧ taken info = some (target, id) := by
  rw [discoveredNodes, collectNodes_eq, List.mem_filterMap]
  constructor
  · rintro ⟨info, member, found⟩
    exact ⟨info, ((mem_firstInfos [] events info).mp member).2, found⟩
  · rintro ⟨info, first, found⟩
    exact ⟨info, (mem_firstInfos [] events info).mpr ⟨List.not_mem_nil, first⟩, found⟩

/-- Every id that is discovered is that of an entry. -/
theorem discovered_id {events : List ServiceEvent} {found : String × String}
    (member : found ∈ discoveredNodes events) : ∃ info, found.2 = entryId info := by
  obtain ⟨info, _, listed⟩ := (mem_discoveredNodes events found.1 found.2).mp member
  obtain ⟨addr, _, same⟩ := Option.map_eq_some_iff.mp listed
  exact ⟨info, (congrArg Prod.snd same).symm⟩

end Collected

end Brewmble.Discovery
