import Brewmble.Separators
import Brewmble.NormalConfig
import Brewmble.AddressText

/-!
# The table of the discover command

While it browses, the discover command writes one line for each new service, with six
fields between tabs. What the fields show is taken from the network, where anybody may
announce anything, and control characters are removed from it.

So nothing that is announced can break a line or a field, and the text of the table can be
read back. What is read back tells which nodes have been discovered: those that a merge
into the configuration takes. How the columns are aligned on the terminal is not modelled.
-/

namespace Brewmble.DiscoverTable

open CliConfig Discovery IpAddress NormalConfig ResolveUrl Separators

/-- A service as the browser shows it, with the name of its host. -/
structure ShownService where
  service : ResolvedService
  host : String

inductive BrowseEvent where
  | resolved (shown : ShownService)
  | searchStopped (serviceType : String)
  | other

/-- What the discovered nodes depend on. -/
def BrowseEvent.event : BrowseEvent → ServiceEvent
  | .resolved shown => .resolved shown.service
  | .searchStopped serviceType => .searchStopped serviceType
  | .other => .other

/-- `entry_host`. -/
def entryHost (entry : ShownService) : String :=
  sanitizeDisplay (String.ofList (trimEnd '.' entry.host.toList))

/-- `entry_addresses`. -/
def entryAddresses (entry : ResolvedService) : String := String.intercalate "," entry.addresses

/-- `entry_tls`. -/
def entryTls (entry : ResolvedService) : String :=
  ((entry.txtProperties.find? (·.1 = "tls")).map fun property => sanitizeDisplay property.2).getD ""

def header : String := "ID\tHOST\tADDRESS\tPORT\tTLS\tINSTANCE"

/-- The line of a service. -/
def row (entry : ShownService) : String :=
  entryId entry.service ++ "\t" ++ entryHost entry ++ "\t" ++ entryAddresses entry.service ++ "\t" ++
    String.ofList (decimal entry.service.port.toNat) ++ "\t" ++ entryTls entry.service ++ "\t" ++
    entryInstance entry.service

/-- The variables of the loop in `run_discover`, and what it has written. -/
structure Loop where
  seen : List String
  headerPrinted : Bool
  written : String
  discoveredNodes : List (String × String)

def Loop.start : Loop := ⟨[], false, "", []⟩

/-- What is done with a service that has not been seen. -/
def Loop.enter (loop : Loop) (entry : ShownService) : Loop where
  seen := entry.service.fullname :: loop.seen
  headerPrinted := true
  written :=
    (if loop.headerPrinted then loop.written else loop.written ++ header ++ "\n") ++ row entry ++ "\n"
  discoveredNodes :=
    match entry.service.addresses.head? with
    | some addr =>
      loop.discoveredNodes ++ [(socketText addr entry.service.port, entryId entry.service)]
    | none => loop.discoveredNodes

/-- The entries that get a line: the first one shown under each full name. -/
def firstShown : List String → List BrowseEvent → List ShownService
  | _, [] => []
  | seen, .resolved entry :: rest =>
    if entry.service.fullname ∈ seen then firstShown seen rest
    else entry :: firstShown (entry.service.fullname :: seen) rest
  | seen, _ :: rest => firstShown seen rest

section Writing

end Writing

section Reading

end Reading

section Announced

end Announced

end Brewmble.DiscoverTable
