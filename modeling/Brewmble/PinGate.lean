import Brewmble.CliSteps
import Brewmble.Precedence

/-!
# Requests before and after the identity check

A request to the address of a node should follow a passed check of that node. The
version command skips a node whose check fails. The node and status commands only
report the failure and send the request to every target all the same, and a status
query also goes to addresses that discovery finds, which are not checked at all.

The gate is stated for the entries of the active profile and for the addresses
requests go to, with a fetch result assigned to each address. It also says who is
served: of the entries that a command is for, all that pass. For each command the
condition under which its trace meets the gate is exact, and speaks of the profile, the
arguments, the discovered addresses and the results. Two entries at one address share
its requests, so the gate asks for both.
-/

namespace Brewmble.PinGate

open CliConfig Pin CliCommands Fallible Precedence StatusSummary ResolveUrl

/-- Each address has one result of a fetch. -/
abbrev Results := String → Except String String

variable (results : Results)

def assigned (env : Environment) : Environment :=
  { env with fetch := fun _ address _ => results address }

/-- What `check_pin` makes of a node. -/
def pinOutcome (node : NodeConfig) : Except String PinOutcome :=
  checkPinWithFetcher node node.address fun _ => results node.address

def Passes (node : NodeConfig) : Prop := (pinOutcome results node).isOk = true

def Learns (node : NodeConfig) : Prop :=
  ∃ fingerprint, pinOutcome results node = .ok (.learned fingerprint)

instance (node : NodeConfig) : Decidable (Passes results node) :=
  inferInstanceAs (Decidable (_ = true))

theorem passes_iff (node : NodeConfig) :
    Passes results node ↔ ∃ outcome, pinOutcome results node = .ok outcome := by
  unfold Passes
  cases pinOutcome results node <;> simp [Except.isOk, Except.toBool]

section Gate

/-- What an event of the trace needs: a request to the address of a node needs a
passed check of that node. -/
def Allowed (profile : List NodeConfig) (before : List Event) (event : Event) : Prop :=
  ∀ address url request, event = .requested address url request →
    ∀ node ∈ profile, node.address = address → ∃ outcome, .checked node (.ok outcome) ∈ before

def requestEvent (request : Request) (address : String) : Event :=
  .requested address (resolveUrl address ++ request.path) request

/-- A command with this result and these events kept to the gate, if it was to send the
requests that are meant for entries. It has to serve those that pass if it ends well,
and also if nothing but their checks could have stopped it. -/
structure KeepsGate (profile : List NodeConfig) (meant : NodeConfig → Request → Prop)
    (unhindered : Prop) (ended : Except String Unit) (events : List Event) : Prop where
  gated : Preceded (Allowed profile) events
  refused : ∀ node ∈ profile, ∀ err, .checked node (.error err) ∈ events →
    ∀ url request, .requested node.address url request ∉ events
  served : unhindered ∨ ended = .ok () → ∀ node request, meant node request →
    Passes results node → requestEvent request node.address ∈ events

/-- Every entry at one of the addresses is among those checked, and passes. -/
def Cleared (profile : List NodeConfig) (checked : NodeConfig → Prop) (contacted : String → Prop) : Prop :=
  ∀ node ∈ profile, contacted node.address → checked node ∧ Passes results node

def checkEvent (node : NodeConfig) : Event := .checked node (pinOutcome results node)

/-- What the version command does about one node. -/
def queryEvents (node : NodeConfig) : List Event :=
  checkEvent results node ::
    match pinOutcome results node with
    | .ok _ => [requestEvent .status node.address]
    | .error _ => []

theorem mem_checkEvents (node : NodeConfig) (outcome : Except String PinOutcome)
    (nodes : List NodeConfig) :
    .checked node outcome ∈ nodes.map (checkEvent results) ↔
      node ∈ nodes ∧ pinOutcome results node = outcome := by
  constructor
  · intro member
    obtain ⟨checked, listed, same⟩ := List.mem_map.mp member
    obtain ⟨rfl, rfl⟩ := Event.checked.inj same
    exact ⟨listed, rfl⟩
  · rintro ⟨listed, rfl⟩
    exact List.mem_map_of_mem listed

theorem mem_requestEvents (address url : String) (request sent : Request)
    (addresses : List String) :
    .requested address url request ∈ addresses.map (requestEvent sent) ↔
      address ∈ addresses ∧ url = resolveUrl address ++ sent.path ∧ request = sent := by
  constructor
  · intro member
    obtain ⟨requested, listed, same⟩ := List.mem_map.mp member
    obtain ⟨rfl, rfl, rfl⟩ := Event.requested.inj same
    exact ⟨listed, rfl, rfl⟩
  · rintro ⟨listed, rfl, rfl⟩
    exact List.mem_map_of_mem listed

theorem checked_not_request (node : NodeConfig) (outcome : Except String PinOutcome)
    (sent : Request) (addresses : List String) :
    .checked node outcome ∉ addresses.map (requestEvent sent) := by
  intro member
  obtain ⟨_, _, same⟩ := List.mem_map.mp member
  cases same

theorem request_not_checked (address url : String) (request : Request)
    (nodes : List NodeConfig) :
    .requested address url request ∉ nodes.map (checkEvent results) := by
  intro member
  obtain ⟨_, _, same⟩ := List.mem_map.mp member
  cases same

variable {results} (profile : List NodeConfig) {meant : NodeConfig → Request → Prop}
  {unhindered : Prop}

/-- A command that fails before its requests keeps to the gate. -/
theorem gate_without_requests (nodes : List NodeConfig) {ended : Except String Unit}
    (failed : ended ≠ .ok ()) (hindered : ¬ unhindered) :
    KeepsGate results profile meant unhindered ended (nodes.map (checkEvent results)) where
  gated := by
    apply preceded_of_free
    rintro event member before address url request rfl
    exact absurd member (request_not_checked results address url request nodes)
  refused node _ err _ url request := request_not_checked results node.address url request nodes
  served reached := (reached.elim hindered failed).elim

/-- A command that does nothing keeps to the gate, if it was hindered or was to do nothing. -/
theorem gate_of_silence (ended : Except String Unit)
    (idle : unhindered ∨ ended = .ok () → ∀ node request, ¬ meant node request) :
    KeepsGate results profile meant unhindered ended [] where
  gated := preceded_nil _
  refused := by
    rintro node _ err ⟨⟩
  served reached node request wanted := absurd wanted (idle reached node request)

/-- Where the checks come first and the requests after them, the gate is kept
exactly when all entries at the requested addresses are cleared, provided that what is
meant for an entry is sent there.

Proof: a request is after all of the checks and nothing but requests, so what is
checked before it is what is checked at all. -/
theorem gate_of_two_parts (nodes : List NodeConfig) (addresses : List String)
    (request : Request) (ended : Except String Unit)
    (sends : ∀ node sent, meant node sent → sent = request ∧ node.address ∈ addresses) :
    KeepsGate results profile meant unhindered ended
        (nodes.map (checkEvent results) ++ addresses.map (requestEvent request)) ↔
      Cleared results profile (· ∈ nodes) (· ∈ addresses) := by
  constructor
  · intro gate node known listed
    have sent : requestEvent request node.address ∈
        nodes.map (checkEvent results) ++ addresses.map (requestEvent request) :=
      List.mem_append_right _ (List.mem_map_of_mem listed)
    obtain ⟨before, within, allowed⟩ := preceded_member gate.gated sent
    obtain ⟨outcome, earlier⟩ := allowed node.address _ request rfl node known rfl
    have checked := (List.mem_append.mp (within earlier)).resolve_right
      (checked_not_request node _ request addresses)
    obtain ⟨present, passed⟩ := (mem_checkEvents results node _ nodes).mp checked
    exact ⟨present, (passes_iff results node).mpr ⟨outcome, passed⟩⟩
  · intro cleared
    have passed (node : NodeConfig) (known : node ∈ profile) (listed : node.address ∈ addresses) :
        ∃ outcome, .checked node (.ok outcome) ∈ nodes.map (checkEvent results) := by
      obtain ⟨present, passes⟩ := cleared node known listed
      obtain ⟨outcome, found⟩ := (passes_iff results node).mp passes
      exact ⟨outcome, (mem_checkEvents results node _ nodes).mpr ⟨present, found⟩⟩
    constructor
    · rw [preceded_append]
      constructor
      · apply preceded_of_free
        rintro event member before address url sent rfl
        exact absurd member (request_not_checked results address url sent nodes)
      · apply preceded_of_free
        rintro event member before address url sent rfl node known rfl
        have listed := ((mem_requestEvents node.address url sent request addresses).mp member).1
        obtain ⟨outcome, checked⟩ := passed node known listed
        exact ⟨outcome, List.mem_append_left before checked⟩
    · intro node known err failed url sent member
      have checked := (List.mem_append.mp failed).resolve_right
        (checked_not_request node _ request addresses)
      have requested := (List.mem_append.mp member).resolve_left
        (request_not_checked results node.address url sent nodes)
      have listed := ((mem_requestEvents node.address url sent request addresses).mp requested).1
      obtain ⟨outcome, found⟩ := (passes_iff results node).mp (cleared node known listed).2
      have erred := ((mem_checkEvents results node _ nodes).mp checked).2
      rw [found] at erred
      cases erred
    · intro _ node sent wanted _
      obtain ⟨rfl, listed⟩ := sends node sent wanted
      exact List.mem_append_right _ (List.mem_map_of_mem listed)

theorem mem_queryEvents (node : NodeConfig) (outcome : Except String PinOutcome)
    (nodes : List NodeConfig) :
    .checked node outcome ∈ nodes.flatMap (queryEvents results) ↔
      node ∈ nodes ∧ pinOutcome results node = outcome := by
  constructor
  · intro member
    obtain ⟨checked, listed, emitted⟩ := List.mem_flatMap.mp member
    obtain same | requested := List.mem_cons.mp emitted
    · obtain ⟨rfl, rfl⟩ := Event.checked.inj same
      exact ⟨listed, rfl⟩
    · cases found : pinOutcome results checked <;> simp [found, requestEvent] at requested
  · rintro ⟨listed, rfl⟩
    exact List.mem_flatMap.mpr ⟨node, listed, List.mem_cons_self⟩

theorem mem_queryEvents_request (address url : String) (request : Request)
    (nodes : List NodeConfig) :
    .requested address url request ∈ nodes.flatMap (queryEvents results) ↔
      ∃ node ∈ nodes, Passes results node ∧
        .requested address url request = requestEvent .status node.address := by
  constructor
  · intro member
    obtain ⟨node, listed, emitted⟩ := List.mem_flatMap.mp member
    obtain same | requested := List.mem_cons.mp emitted
    · cases same
    · cases found : pinOutcome results node with
      | error err => simp [found] at requested
      | ok outcome =>
        rw [found] at requested
        exact ⟨node, listed, (passes_iff results node).mpr ⟨outcome, found⟩,
          List.mem_singleton.mp requested⟩
  · rintro ⟨node, listed, passes, same⟩
    obtain ⟨outcome, found⟩ := (passes_iff results node).mp passes
    refine List.mem_flatMap.mpr ⟨node, listed, List.mem_cons_of_mem _ ?_⟩
    rw [found, same]
    exact List.mem_singleton_self _

/-- When a node is queried, the entries at its address have passed if they are
that node or one before it. -/
theorem queries_gated (nodes : List NodeConfig) :
    Preceded (Allowed profile) (nodes.flatMap (queryEvents results)) ↔
      ∀ before node after, nodes = before ++ node :: after → Passes results node →
        ∀ other ∈ profile, other.address = node.address →
          Passes results other ∧ (other ∈ before ∨ other = node) := by
  have earlier (before : List NodeConfig) (node other : NodeConfig) :
      (∃ outcome, .checked other (.ok outcome) ∈
        before.flatMap (queryEvents results) ++ [checkEvent results node]) ↔
      Passes results other ∧ (other ∈ before ∨ other = node) := by
    rw [passes_iff]
    constructor
    · rintro ⟨outcome, member⟩
      obtain inside | last := List.mem_append.mp member
      · obtain ⟨listed, found⟩ := (mem_queryEvents other _ before).mp inside
        exact ⟨⟨outcome, found⟩, .inl listed⟩
      · obtain ⟨rfl, found⟩ := Event.checked.inj (List.mem_singleton.mp last)
        exact ⟨⟨outcome, found.symm⟩, .inr rfl⟩
    · rintro ⟨⟨outcome, found⟩, listed | rfl⟩
      · exact ⟨outcome, List.mem_append_left _ ((mem_queryEvents other _ before).mpr ⟨listed, found⟩)⟩
      · exact ⟨outcome, List.mem_append_right _ (by simp [checkEvent, found])⟩
  rw [preceded_flatMap]
  refine forall_congr' fun before => forall_congr' fun node => forall_congr' fun after =>
    forall_congr' fun _ => ?_
  rw [queryEvents, preceded_cons]
  cases found : pinOutcome results node with
  | error err =>
    have fails : ¬ Passes results node := by simp [passes_iff, found]
    simp [preceded_nil, Allowed, checkEvent, fails]
  | ok outcome =>
    have passes : Passes results node := (passes_iff results node).mpr ⟨outcome, found⟩
    simp only [preceded_cons, preceded_nil, passes, and_true, true_implies, ← earlier]
    constructor
    · rintro ⟨_, allowed⟩ other known same
      exact allowed node.address _ .status rfl other known same
    · intro all
      constructor
      · rintro address url request ⟨⟩
      · intro address url request same other known
        obtain ⟨rfl, _, _⟩ := Event.requested.inj same
        exact all other known

/-- For the version command the gate is kept exactly when an entry that passes
shares its address with no different entry.

Proof: take the first entry at the address that passes. None before it passed, so
every entry there must be that one. -/
theorem gate_of_queries (nodes : List NodeConfig) (ended : Except String Unit)
    (sends : ∀ node sent, meant node sent → sent = .status ∧ node ∈ nodes) :
    KeepsGate results nodes meant unhindered ended (nodes.flatMap (queryEvents results)) ↔
      ∀ node ∈ nodes, Passes results node → ∀ other ∈ nodes, other.address = node.address →
        other = node := by
  constructor
  · intro gate node known passes other present same
    let candidate (entry : NodeConfig) : Bool :=
      entry.address = node.address ∧ Passes results entry
    have isFound : (nodes.find? candidate).isSome = true :=
      List.find?_isSome.mpr ⟨node, known, by simp [candidate, passes]⟩
    obtain ⟨first, found⟩ := Option.isSome_iff_exists.mp isFound
    obtain ⟨chosen, before, after, split, skipped⟩ := List.find?_eq_some_iff_append.mp found
    obtain ⟨there, passed⟩ : first.address = node.address ∧ Passes results first := by
      simpa [candidate] using chosen
    have alone (entry : NodeConfig) (listed : entry ∈ nodes) (place : entry.address = node.address) :
        entry = first := by
      obtain ⟨entryPasses, earlier | same⟩ := (queries_gated nodes nodes).mp gate.gated before first
        after split passed entry listed (place.trans there.symm)
      · have excluded := skipped entry earlier
        simp [candidate, place, entryPasses] at excluded
      · exact same
    rw [alone other present same, alone node known rfl]
  · intro alone
    constructor
    · rw [queries_gated]
      intro before node after split passes other known same
      obtain rfl := alone node (by simp [split]) passes other known same
      exact ⟨passes, .inr rfl⟩
    · intro node known err failed url request member
      obtain ⟨queried, listed, passes, same⟩ :=
        (mem_queryEvents_request node.address url request nodes).mp member
      obtain ⟨shared, _, _⟩ := Event.requested.inj same
      obtain rfl := alone queried listed passes node known shared
      obtain ⟨outcome, found⟩ := (passes_iff results node).mp passes
      have erred := ((mem_queryEvents node _ nodes).mp failed).2
      rw [found] at erred
      cases erred
    · intro _ node sent wanted passes
      obtain ⟨rfl, listed⟩ := sends node sent wanted
      exact (mem_queryEvents_request node.address _ .status nodes).mpr ⟨node, listed, passes, rfl⟩

end Gate

section Commands

variable {results} (env : Environment) (session : Session)

theorem outcome_assigned (check : Nat) (node : NodeConfig) :
    (assigned results env).outcome check node = pinOutcome results node := rfl

theorem learnsAny_assigned (check : Nat) (nodes : List NodeConfig) :
    (assigned results env).learnsAny check nodes = true ↔ ∃ node ∈ nodes, Learns results node := by
  induction nodes generalizing check with
  | nil => simp [Environment.learnsAny]
  | cons node rest inductionHypothesis =>
    have first : (assigned results env).learns check node = true ↔ Learns results node := by
      unfold Environment.learns Learns
      rw [outcome_assigned]
      cases pinOutcome results node with
      | error err => simp
      | ok outcome => cases outcome <;> simp
    simp [Environment.learnsAny, first, inductionHypothesis]

theorem check_fold_events (nodes : List NodeConfig) :
    (nodes.foldl (Session.check (assigned results env)) session).events =
      session.events ++ nodes.map (checkEvent results) := by
  induction nodes generalizing session with
  | nil => simp
  | cons node rest inductionHypothesis =>
    simp [inductionHypothesis, checkEvent, outcome_assigned]

theorem sent_fold_events (request : Request) (addresses : List String) :
    (addresses.foldl (Session.sent request) session).events =
      session.events ++ addresses.map (requestEvent request) := by
  induction addresses generalizing session with
  | nil => simp
  | cons address rest inductionHypothesis =>
    simp [inductionHypothesis, Session.sent, requestEvent]

theorem query_fold_events (nodes : List NodeConfig) :
    (nodes.foldl (Session.query (assigned results env)) session).events =
      session.events ++ nodes.flatMap (queryEvents results) := by
  induction nodes generalizing session with
  | nil => simp
  | cons node rest inductionHypothesis =>
    have first : (session.query (assigned results env) node).events =
        session.events ++ queryEvents results node := by
      unfold Session.query queryEvents checkEvent
      rw [outcome_assigned]
      cases found : pinOutcome results node <;>
        simp [Session.sent, requestEvent, outcome_assigned, found]
    simp [inductionHypothesis, first]

/-- What is learned from the checked nodes can be saved, and the client can be built. -/
def Reaches (results : Results) (env : Environment) (checked : NodeConfig → Prop) : Prop :=
  ((∃ node, checked node ∧ Learns results node) → env.saveFault = none) ∧ env.clientFault = none

theorem contact_reached {nodes : List NodeConfig} (reaches : Reaches results env (· ∈ nodes))
    (request : Request) (addresses : List String) :
    (contactEach (assigned results env) request nodes addresses session).1 = .ok () ∧
      (contactEach (assigned results env) request nodes addresses session).2.events =
        session.events ++
          (nodes.map (checkEvent results) ++ addresses.map (requestEvent request)) := by
  have built : (assigned results env).clientFault = none := reaches.2
  cases learned : (assigned results env).learnsAny session.checks nodes with
  | false =>
    simp [contactEach, validate_eq, learned, built, sendEach_eq, sent_fold_events,
      check_fold_events]
  | true =>
    have saved : (assigned results env).saveFault = none :=
      reaches.1 ((learnsAny_assigned env session.checks nodes).mp learned)
    simp [contactEach, validate_eq, learned, saveConfig, saved, built, sendEach_eq,
      sent_fold_events, check_fold_events]

theorem contact_stopped {nodes : List NodeConfig} (stops : ¬ Reaches results env (· ∈ nodes))
    (request : Request) (addresses : List String) :
    (contactEach (assigned results env) request nodes addresses session).1 ≠ .ok () ∧
      (contactEach (assigned results env) request nodes addresses session).2.events =
        session.events ++ nodes.map (checkEvent results) := by
  have fault : (assigned results env).clientFault = env.clientFault := rfl
  cases learned : (assigned results env).learnsAny session.checks nodes with
  | false =>
    have nothing : ¬ ∃ node ∈ nodes, Learns results node := by
      rw [← learnsAny_assigned env session.checks nodes, learned]
      exact Bool.false_ne_true
    cases client : env.clientFault with
    | none => exact absurd ⟨fun some => absurd some nothing, client⟩ stops
    | some err => simp [contactEach, validate_eq, learned, fault, client, check_fold_events]
  | true =>
    have save : (assigned results env).saveFault = env.saveFault := rfl
    cases kept : env.saveFault with
    | some err => simp [contactEach, validate_eq, learned, saveConfig, save, kept, check_fold_events]
    | none =>
      cases client : env.clientFault with
      | none => exact absurd ⟨fun _ => kept, client⟩ stops
      | some err =>
        simp [contactEach, validate_eq, learned, saveConfig, save, kept, fault, client,
          check_fold_events]

/-- The part shared by the node and status commands keeps to the gate exactly when
it stops before its requests or all entries at their addresses are cleared. -/
theorem contact_gate_iff (profile nodes : List NodeConfig) (addresses : List String)
    (request : Request) {meant : NodeConfig → Request → Prop} {unhindered : Prop}
    (fresh : session.events = []) (reaching : unhindered → Reaches results env (· ∈ nodes))
    (sends : ∀ node sent, meant node sent → sent = request ∧ node.address ∈ addresses) :
    KeepsGate results profile meant unhindered
        (contactEach (assigned results env) request nodes addresses session).1
        (contactEach (assigned results env) request nodes addresses session).2.events ↔
      (Reaches results env (· ∈ nodes) → Cleared results profile (· ∈ nodes) (· ∈ addresses)) := by
  by_cases reaches : Reaches results env (· ∈ nodes)
  · obtain ⟨_, events⟩ := contact_reached env session reaches request addresses
    rw [events, fresh, List.nil_append, gate_of_two_parts profile nodes addresses request _ sends]
    exact ⟨fun cleared _ => cleared, fun cleared => cleared reaches⟩
  · obtain ⟨failed, events⟩ := contact_stopped env session reaches request addresses
    rw [events, fresh, List.nil_append]
    constructor
    · intro _ reached
      exact absurd reached reaches
    · intro _
      exact gate_without_requests profile nodes failed fun unhindered => reaches (reaching unhindered)

variable (results)

/-- The requests that a command is to send, and the entries of the profile that it is for. -/
inductive Meant (env : Environment) (config : Config) : Command → NodeConfig → Request → Prop where
  | node {args : NodeArgs} {node : NodeConfig} (asked : args.fullUpgrade = true ∨ args.reboot = true)
      (shown : args.list = false) (called : args.Calls config.active node) :
      Meant env config (.node args) node args.request
  | status {args : StatusArgs} {node : NodeConfig} (known : node ∈ config.active)
      (wanted : Asked args config.active node.address ∨ Discovered env args node.address) :
      Meant env config (.status args) node .status
  | version {node : NodeConfig} (known : node ∈ config.active) : Meant env config .version node .status

/-- Nothing but checks can keep a command from its requests: what is learned can be saved
before them, the client can be built, and the arguments are accepted. -/
def Unhindered (env : Environment) (config : Config) : Command → Prop
  | .node args => env.saveFault = none ∧ env.clientFault = none ∧
      (args.dryRun = true → args.fullUpgrade = true) ∧
      ∀ nodeName ∈ args.nodes, ∃ node ∈ config.active, isCalled nodeName node = true
  | .version => env.clientFault = none
  | _ => env.saveFault = none ∧ env.clientFault = none

/-- The condition on the configuration, the arguments, the discovered addresses and the
fetch results under which a command keeps to the gate. -/
def GateCondition (config : Config) : Command → Prop
  | .node args => args.Proceeds config.active → Reaches results env (args.Calls config.active) →
      Cleared results config.active (args.Calls config.active) fun address =>
        ∃ node, args.Calls config.active node ∧ node.address = address
  | .status args =>
      Reaches results env (fun node => node ∈ config.active ∧ Asked args config.active node.address) →
        Cleared results config.active (fun node => Asked args config.active node.address) fun address =>
          Asked args config.active address ∨ Discovered env args address
  | .version => env.clientFault = none → ∀ node ∈ config.active, Passes results node →
      ∀ other ∈ config.active, other.address = node.address → other = node
  | .discover _ => True

end Commands

/-- The addresses that are queried, in whatever order, are those of the queue. -/
theorem queried_addresses (env : Environment) (args : StatusArgs) (profile : List NodeConfig)
    (address : String) :
    address ∈ (firstSeen [] (env.schedule.arrange (statusQueue env args profile))).map (·.address) ↔
      Asked args profile address ∨ Discovered env args address := by
  have permuted := (env.schedule.perm (statusQueue env args profile)).map (·.address)
  rw [firstSeen_addresses, permuted.mem_iff, mem_statusQueue]
  simp

section Version

variable (env : Environment) (config : Config) (file : Option Config)

theorem version_events (built : env.clientFault = none) :
    (runVersion (assigned results env) (.start config file)).2.events =
      config.active.flatMap (queryEvents results) := by
  have client : (assigned results env).clientFault = none := built
  unfold runVersion
  cases found : config.profiles config.activeProfile with
  | none => simp [found, Config.active, ProfileConfig.default]
  | some profile =>
    have entries : config.active = profile.nodes := by simp [Config.active, found]
    have queried : (profile.nodes.foldl (Session.query (assigned results env))
        (.start config file)).events = profile.nodes.flatMap (queryEvents results) :=
      query_fold_events env (.start config file) profile.nodes
    cases learned : (assigned results env).learnsAny 0 profile.nodes with
    | false => simp [found, client, queryVersions_eq, learned, entries, queried]
    | true =>
      cases saved : (assigned results env).saveFault <;>
      simp [found, client, queryVersions_eq, learned, saveConfig, saved, entries,
        queried]

/-- Where the client cannot be built, nothing is checked. -/
theorem version_stopped {err : String} (failed : env.clientFault = some err) :
    ((runVersion (assigned results env) (.start config file)).1 = .ok () → config.active = []) ∧
      (runVersion (assigned results env) (.start config file)).2.events = [] := by
  have client : (assigned results env).clientFault = some err := failed
  unfold runVersion
  cases found : config.profiles config.activeProfile <;>
    simp [found, client, Config.active, ProfileConfig.default]

end Version

/-- Discovery contacts no node by its address. -/
theorem discover_events (env : Environment) (config : Config) (file : Option Config)
    (updateConfig : Bool) :
    (runDiscover env updateConfig (.start config file)).2.events = [] := by
  unfold runDiscover
  cases env.discovered with
  | error err => rfl
  | ok found =>
    cases updateConfig with
    | false => rfl
    | true =>
      cases changed : (mergeNodes (loadConfig file) found).2 <;>
      cases saved : env.saveFault <;> simp [changed, saveConfig, saved]

/-- The node command keeps to the gate exactly under its condition. -/
theorem node_gate_iff (env : Environment) (config : Config) (file : Option Config) (args : NodeArgs) :
    KeepsGate results config.active (Meant env config (.node args)) (Unhindered env config (.node args))
        (runNode (assigned results env) args (.start config file)).1
        (runNode (assigned results env) args (.start config file)).2.events ↔
      GateCondition results env config (.node args) := by
  by_cases contacts : ∃ targets, NodeContacts args config targets
  · obtain ⟨targets, contacts⟩ := contacts
    obtain ⟨proceeds, called⟩ := nodeContacts_calls contacts
    have sends : ∀ node sent, Meant env config (.node args) node sent →
        sent = args.request ∧ node.address ∈ targets.map (·.address) := by
      intro node sent meant
      cases meant with
      | node _ _ calls => exact ⟨rfl, List.mem_map_of_mem ((called node).mpr calls)⟩
    have reaching (unhindered : Unhindered env config (.node args)) :
        Reaches results env (· ∈ targets) := ⟨fun _ => unhindered.1, unhindered.2.1⟩
    have runs := runNode_contacts (assigned results env) (.start config file) contacts
    rw [runs, contact_gate_iff env (.start config file) _ _ _ _ rfl reaching sends]
    simp only [GateCondition, proceeds, true_implies, List.mem_map, called]
  · have idle := runNode_idle (assigned results env) (.start config file)
      fun targets contacted => contacts ⟨targets, contacted⟩
    rw [idle]
    constructor
    · rintro _ proceeds _ node _ ⟨other, called, _⟩
      exact absurd (proceeds_contacts proceeds called) contacts
    · intro _
      apply gate_of_silence
      intro reached node sent meant
      cases meant with
      | node asked shown called =>
        obtain ⟨_, _, dry, known⟩ | ended := reached
        · exact contacts (proceeds_contacts ⟨asked, dry, shown, known⟩ called)
        · exact contacts (proceeds_contacts (ended_proceeds _ _ asked shown ended) called)

theorem status_gate_iff (env : Environment) (config : Config) (file : Option Config)
    (args : StatusArgs) :
    KeepsGate results config.active (Meant env config (.status args)) (Unhindered env config (.status args))
        (runStatus (assigned results env) args (.start config file)).1
        (runStatus (assigned results env) args (.start config file)).2.events ↔
      GateCondition results env config (.status args) := by
  have runs : runStatus (assigned results env) args (.start config file) =
      contactEach (assigned results env) .status (nodesToValidate args config.active)
        ((firstSeen [] (env.schedule.arrange (statusQueue env args config.active))).map
          (·.address)) (.start config file) := rfl
  have sends : ∀ node sent, Meant env config (.status args) node sent → sent = .status ∧
      node.address ∈ (firstSeen [] (env.schedule.arrange (statusQueue env args config.active))).map
        (·.address) := by
    intro node sent meant
    cases meant with
    | status _ wanted => exact ⟨rfl, (queried_addresses env args config.active _).mpr wanted⟩
  have reaching (unhindered : Unhindered env config (.status args)) :
      Reaches results env (· ∈ nodesToValidate args config.active) :=
    ⟨fun _ => unhindered.1, unhindered.2⟩
  rw [runs, contact_gate_iff env (.start config file) _ _ _ _ rfl reaching sends]
  simp only [GateCondition, Cleared, queried_addresses, mem_nodesToValidate]
  refine imp_congr_right fun _ => forall_congr' fun node => imp_congr_right fun known => ?_
  simp only [known, true_and]

theorem version_gate_iff (env : Environment) (config : Config) (file : Option Config) :
    KeepsGate results config.active (Meant env config .version) (Unhindered env config .version)
        (runVersion (assigned results env) (.start config file)).1
        (runVersion (assigned results env) (.start config file)).2.events ↔
      GateCondition results env config .version := by
  cases client : env.clientFault with
  | some err =>
    obtain ⟨empty, events⟩ := version_stopped results env config file client
    rw [events]
    simp only [GateCondition, client, reduceCtorEq, false_implies, iff_true]
    apply gate_of_silence
    intro reached node sent meant
    have ended := reached.resolve_left (by simp [Unhindered, client])
    cases meant with
    | version known => simp [empty ended] at known
  | none =>
    have sends : ∀ node sent, Meant env config .version node sent →
        sent = .status ∧ node ∈ config.active := by
      intro node sent meant
      cases meant with
      | version known => exact ⟨rfl, known⟩
    rw [version_events results env config file client, gate_of_queries _ _ sends]
    simp only [GateCondition, client, true_implies]

/-- Each command keeps to the gate exactly under its condition.

Proof: the node and status commands check first and request afterwards; the version
command is a sequence of queries. What the workers reach is what was queued. -/
theorem pin_gate_iff (env : Environment) (config : Config) (file : Option Config)
    (command : Command) :
    KeepsGate results config.active (Meant env config command) (Unhindered env config command)
        (runCommand (assigned results env) command (.start config file)).1
        (runCommand (assigned results env) command (.start config file)).2.events ↔
      GateCondition results env config command := by
  cases command with
  | node args => exact node_gate_iff results env config file args
  | status args => exact status_gate_iff results env config file args
  | version => exact version_gate_iff results env config file
  | discover updateConfig =>
    rw [runCommand, discover_events (assigned results env) config file]
    simp only [GateCondition, iff_true]
    exact gate_of_silence config.active _ (by rintro _ _ _ ⟨⟩)

/-- Everything works and the workers take the targets in order. -/
def quietEnvironment : Environment where
  fetch _ _ _ := .error "unreachable"
  saveFault := none
  clientFault := none
  discovered := .ok []
  schedule := ⟨id, fun targets => List.Perm.refl targets⟩

/-- A pinned node that now presents another certificate. -/
def impostor : NodeConfig := ⟨some "web", "10.0.0.2:3625", some "aa:01"⟩

def impostorConfig : Config where
  activeProfile := "default"
  profiles name := if name = "default" then some ⟨[impostor]⟩ else none
  nodes := []

/-- The mismatching node is told to upgrade all the same. -/
theorem upgrade_sent_to_impostor :
    ¬ ∀ (results : Results) (env : Environment) (config : Config) (file : Option Config)
      (command : Command),
      KeepsGate results config.active (Meant env config command) (Unhindered env config command)
        (runCommand (assigned results env) command (.start config file)).1
        (runCommand (assigned results env) command (.start config file)).2.events := by
  intro claimed
  have kept := claimed (fun _ => .ok "bb:02") quietEnvironment impostorConfig none
    (.node ⟨true, false, false, false, []⟩)
  refine kept.refused impostor List.mem_cons_self (mismatchMessage impostor "aa:01" "bb:02")
    List.mem_cons_self _ (.upgrade false) (List.mem_cons_of_mem _ List.mem_cons_self)

end Brewmble.PinGate
