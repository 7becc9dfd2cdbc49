import Brewmble.Answers
import Brewmble.PinGate

/-!
# The table of the node command beside the daemons

The node command posts one request after the other, each to the daemon that its address
leads to, and prints a row for each. Meanwhile all daemons go on: their handlers and tasks
take steps, and other clients post to them. A request may not get through, an answer may get
lost or arrive in a form that cannot be read, and the same daemon may be a target more than
once.

A row is what the client makes of one request. What it says is compared with what the daemon
has done, at any time after. The client itself has no part in that: its own steps change no
daemon but by a request.
-/

namespace Brewmble.FleetRequests

open Rest CliConfig Execution Answers

abbrev NodeArgs := CliCommands.NodeArgs

/-- How the request of a row ended. -/
inductive Ending where
  /-- Sending failed before the daemon got the request. -/
  | unconnected (err : String)
  /-- The daemon got the request, and no response came. -/
  | lost (err : String)
  /-- A response came whose body is not the expected one. -/
  | unreadable (status : StatusCode)
  | answered (response : Daemon.Response)
  deriving DecidableEq, Repr

/-- One target, the number of its request where the daemon got it, and the ending. -/
structure Contact where
  node : NodeConfig
  request : Option Nat
  ending : Ending

structure Row where
  name : String
  status : String
  body : String
  updates : Option (List String)
  deriving DecidableEq, Repr

/-- The row that `run_node` writes; a status is printed as `display` says. -/
def Contact.row (display : StatusCode → String) (contact : Contact) : Row :=
  let name := contact.node.name.getD contact.node.address
  match contact.ending with
  | .unconnected err | .lost err => ⟨name, "Error: " ++ err, "", none⟩
  | .unreadable status => ⟨name, display status, "Unknown response", none⟩
  | .answered (.upgrade status ur) => ⟨name, display status, ur.message, ur.updates⟩
  | .answered (.reboot status rr) => ⟨name, display status, rr.message, none⟩

/-- The body of every request of a command. A reboot is asked for without a delay. -/
def body (args : NodeArgs) : Daemon.Request :=
  if args.reboot then .reboot ⟨none⟩ else .fullUpgrade ⟨args.dryRun⟩

/-- The targets that are left, the request whose response is awaited, and the rows. -/
structure Client where
  ahead : List NodeConfig
  awaiting : Option (NodeConfig × Nat)
  contacts : List Contact

structure Fleet where
  client : Client
  daemons : Nat → Daemon.State

inductive Event where
  /-- A daemon takes a step, or gets a request of another client. -/
  | daemon (index : Nat) (event : Daemon.Event)
  | unconnected (err : String)
  /-- The next target's daemon gets the request under this number. -/
  | posted (request : Nat)
  | lost (err : String)
  | unreadable (status : StatusCode)
  | answered

section Steps

variable (settings : Nat → Daemon.AppState) (endpoint : String → Nat) (args : NodeArgs)

/-- The command is about to send its first request. -/
def start (targets : List NodeConfig) : Fleet where
  client := ⟨targets, none, []⟩
  daemons _ := Daemon.initial

def Client.finish (client : Client) (ending : Ending) : Option Client :=
  client.awaiting.map fun (node, request) =>
    { client with awaiting := none, contacts := client.contacts ++ [⟨node, some request, ending⟩] }

def next (fleet : Fleet) : Event → Option Fleet
  | .daemon index event =>
    (Daemon.next (settings index) (fleet.daemons index) event).map fun daemon =>
      { fleet with daemons := Function.update fleet.daemons index daemon }
  | .unconnected err =>
    match fleet.client.awaiting, fleet.client.ahead with
    | none, node :: rest =>
      some { fleet with client := ⟨rest, none, fleet.client.contacts ++ [⟨node, none, .unconnected err⟩]⟩ }
    | _, _ => none
  | .posted request =>
    match fleet.client.awaiting, fleet.client.ahead with
    | none, node :: rest =>
      let index := endpoint node.address
      (Daemon.next (settings index) (fleet.daemons index) (.received request (body args))).map
        fun daemon =>
          { client := ⟨rest, some (node, request), fleet.client.contacts⟩
            daemons := Function.update fleet.daemons index daemon }
    | _, _ => none
  | .lost err => (fleet.client.finish (.lost err)).map fun client => { fleet with client := client }
  | .unreadable status =>
    (fleet.client.finish (.unreadable status)).map fun client => { fleet with client := client }
  | .answered =>
    match fleet.client.awaiting with
    | some (node, request) =>
      match (fleet.daemons (endpoint node.address)).handlers request with
      | .answered response =>
        (fleet.client.finish (.answered response)).map fun client => { fleet with client := client }
      | _ => none
    | none => none

/-- The steps of a fleet. However a response fails to come, it ends the row. -/
inductive Step (fleet : Fleet) : Fleet → Prop
  | daemon (index : Nat) {event : Daemon.Event} {moved : Daemon.State}
      (step : Daemon.next (settings index) (fleet.daemons index) event = some moved) :
      Step fleet { fleet with daemons := Function.update fleet.daemons index moved }
  | skipped {node : NodeConfig} {rest : List NodeConfig} (err : String)
      (free : fleet.client.awaiting = none) (ahead : fleet.client.ahead = node :: rest) :
      Step fleet { fleet with
        client := ⟨rest, none, fleet.client.contacts ++ [⟨node, none, .unconnected err⟩]⟩ }
  | posted {node : NodeConfig} {rest : List NodeConfig} (request : Nat) {moved : Daemon.State}
      (free : fleet.client.awaiting = none) (ahead : fleet.client.ahead = node :: rest)
      (step : Daemon.next (settings (endpoint node.address)) (fleet.daemons (endpoint node.address))
        (.received request (body args)) = some moved) :
      Step fleet ⟨⟨rest, some (node, request), fleet.client.contacts⟩,
        Function.update fleet.daemons (endpoint node.address) moved⟩
  | ended {node : NodeConfig} {request : Nat} (ending : Ending)
      (awaits : fleet.client.awaiting = some (node, request))
      (connected : ∀ err, ending ≠ .unconnected err)
      (truthful : ∀ response, ending = .answered response →
        (fleet.daemons (endpoint node.address)).handlers request = .answered response) :
      Step fleet { fleet with
        client := { fleet.client with
          awaiting := none
          contacts := fleet.client.contacts ++ [⟨node, some request, ending⟩] } }

variable {settings endpoint args}

theorem step_of_next {fleet reached : Fleet} {event : Event}
    (step : next settings endpoint args fleet event = some reached) :
    Step settings endpoint args fleet reached := by
  have finished (ending : Ending) (connected : ∀ err, ending ≠ .unconnected err)
      (truthful : ∀ node request, fleet.client.awaiting = some (node, request) →
        ∀ response, ending = .answered response →
          (fleet.daemons (endpoint node.address)).handlers request = .answered response)
      (step : ((fleet.client.finish ending).map fun client => { fleet with client := client }) =
        some reached) : Step settings endpoint args fleet reached := by
    obtain ⟨client, finish, rfl⟩ := Option.map_eq_some_iff.mp step
    obtain ⟨⟨node, request⟩, awaits, rfl⟩ := Option.map_eq_some_iff.mp finish
    exact .ended ending awaits connected (truthful node request awaits)
  cases event with
  | daemon index event =>
    obtain ⟨moved, moves, rfl⟩ := Option.map_eq_some_iff.mp step
    exact .daemon index moves
  | unconnected err =>
    simp only [next] at step
    split at step
    · next node rest free ahead => exact Option.some.inj step ▸ .skipped err free ahead
    · cases step
  | posted request =>
    simp only [next] at step
    split at step
    · next node rest free ahead =>
      obtain ⟨moved, moves, rfl⟩ := Option.map_eq_some_iff.mp step
      exact .posted request free ahead moves
    · cases step
  | lost err => exact finished (.lost err) (by simp) (by simp) step
  | unreadable status => exact finished (.unreadable status) (by simp) (by simp) step
  | answered =>
    simp only [next] at step
    split at step
    · next node request awaits =>
      split at step
      · next response answered =>
        refine finished (.answered response) (by simp) ?_ step
        intro other number same given equal
        obtain ⟨rfl, rfl⟩ := Prod.mk.inj (Option.some.inj (awaits.symm.trans same))
        exact Ending.answered.inj equal ▸ answered
      · cases step
    · cases step

end Steps

section Invariants

variable {settings : Nat → Daemon.AppState} {endpoint : String → Nat} {args : NodeArgs}
  {targets : List NodeConfig} {fleet reached : Fleet}

/-- The requests that reached a daemon, in their order. -/
def Client.posts (client : Client) : List (NodeConfig × Nat) :=
  client.contacts.filterMap (fun contact => contact.request.map (contact.node, ·)) ++
    client.awaiting.toList

/-- The client has gone through the targets in their order, and what it has seen is what
the daemons have. -/
structure Faithful (endpoint : String → Nat) (args : NodeArgs) (targets : List NodeConfig)
    (fleet : Fleet) : Prop where
  order : fleet.client.contacts.map Contact.node ++ fleet.client.awaiting.toList.map Prod.fst ++
    fleet.client.ahead = targets
  received : ∀ post ∈ fleet.client.posts,
    (fleet.daemons (endpoint post.1.address)).requests post.2 = some (body args)
  distinct : (fleet.client.posts.map fun post => (endpoint post.1.address, post.2)).Nodup
  unsent : ∀ contact ∈ fleet.client.contacts, contact.request = none →
    ∃ err, contact.ending = .unconnected err
  seen : ∀ contact ∈ fleet.client.contacts, ∀ response, contact.ending = .answered response →
    ∃ request, contact.request = some request ∧
      (fleet.daemons (endpoint contact.node.address)).handlers request = .answered response

theorem start_faithful (endpoint : String → Nat) (args : NodeArgs) (targets : List NodeConfig) :
    Faithful endpoint args targets (start targets) := by
  refine ⟨rfl, ?_, ?_, ?_, ?_⟩ <;> simp [start, Client.posts]

/-- A request is on record for good, as a handler begins only once. -/
theorem request_stays {state : Daemon.AppState} {daemon moved : Daemon.State} {event : Daemon.Event}
    {request : Nat} {asked : Daemon.Request} (lives : Lives state daemon request)
    (recorded : daemon.requests request = some asked)
    (step : Daemon.next state daemon event = some moved) : moved.requests request = some asked := by
  cases Daemon.step_of_next step with
  | arrived other body fresh =>
    have distinct : request ≠ other := by
      rintro rfl
      unfold Lives at lives
      rw [fresh, recorded] at lives
      obtain ⟨_, _, _, impossible | ⟨_, _, waits⟩⟩ := life_waits lives (by simp) rfl (by simp)
      · cases impossible.1
      · cases waits
    simp [distinct, recorded]
  | _ => exact recorded

/-- Before it arrives, a request is not on record. -/
theorem fresh_unrecorded {state : Daemon.AppState} {daemon : Daemon.State} {request : Nat}
    (lives : Lives state daemon request) (fresh : daemon.handlers request = .idle) :
    daemon.requests request = none := by
  unfold Lives at lives
  rw [fresh] at lives
  obtain ⟨_, _, _, unrecorded | ⟨_, _, waits⟩⟩ := life_waits lives (by simp) rfl (by simp)
  · exact unrecorded.1
  · cases waits

/-- A step of one daemon keeps what the client has seen of all. -/
theorem faithful_daemon {index : Nat} {event : Daemon.Event} {moved : Daemon.State}
    (lives : ∀ index request, Lives (settings index) (fleet.daemons index) request)
    (faithful : Faithful endpoint args targets fleet)
    (step : Daemon.next (settings index) (fleet.daemons index) event = some moved) :
    Faithful endpoint args targets
      { fleet with daemons := Function.update fleet.daemons index moved } := by
  refine ⟨faithful.order, ?_, faithful.distinct, faithful.unsent, ?_⟩
  · intro post member
    have recorded := faithful.received post member
    by_cases same : endpoint post.1.address = index
    · subst same
      simpa using request_stays (lives _ post.2) recorded step
    · simpa [same] using recorded
  · intro contact member response ended
    obtain ⟨request, posted, answered⟩ := faithful.seen contact member response ended
    refine ⟨request, posted, ?_⟩
    by_cases same : endpoint contact.node.address = index
    · subst same
      simpa using answer_stays answered step
    · simpa [same] using answered

/-- Proof: by the kind of the step. A request that arrives was not on record before, so it
is none of the earlier ones. -/
theorem step_faithful (lives : ∀ index request, Lives (settings index) (fleet.daemons index) request)
    (faithful : Faithful endpoint args targets fleet)
    (step : Step settings endpoint args fleet reached) : Faithful endpoint args targets reached := by
  cases step with
  | daemon index step => exact faithful_daemon lives faithful step
  | @skipped node rest err free ahead =>
    obtain ⟨order, received, distinct, unsent, seen⟩ := faithful
    refine ⟨?_, ?_, ?_, ?_, ?_⟩
    · simpa [free, ahead] using order
    · simpa [Client.posts, free] using received
    · simpa [Client.posts, free] using distinct
    · intro contact member none
      obtain before | rfl := List.mem_append.mp member |>.imp_right List.mem_singleton.mp
      · exact unsent contact before none
      · exact ⟨err, rfl⟩
    · intro contact member response ended
      obtain before | rfl := List.mem_append.mp member |>.imp_right List.mem_singleton.mp
      · exact seen contact before response ended
      · cases ended
  | @posted node rest request moved free ahead step =>
    have arrived := faithful_daemon lives faithful step
    obtain ⟨fresh, move⟩ := Option.ite_none_right_eq_some.mp step
    obtain rfl := Option.some.inj move
    have posts : Client.posts ⟨rest, some (node, request), fleet.client.contacts⟩ =
        fleet.client.posts ++ [(node, request)] := by
      simp [Client.posts, free]
    refine ⟨?_, ?_, ?_, arrived.unsent, arrived.seen⟩
    · simpa [free, ahead] using faithful.order
    · intro post member
      rw [posts] at member
      obtain before | rfl := List.mem_append.mp member |>.imp_right List.mem_singleton.mp
      · exact arrived.received post before
      · simp
    · have unrecorded := fresh_unrecorded (lives _ request) fresh
      have new : ∀ post ∈ fleet.client.posts,
          (endpoint post.1.address, post.2) ≠ (endpoint node.address, request) := by
        intro post member same
        obtain ⟨index, rfl⟩ := Prod.mk.inj same
        have recorded := faithful.received post member
        rw [index, unrecorded] at recorded
        cases recorded
      dsimp only
      rw [posts, List.map_append, List.map_singleton]
      refine List.nodup_append.mpr ⟨faithful.distinct, List.nodup_singleton _, ?_⟩
      intro number member other same
      obtain ⟨post, before, rfl⟩ := List.mem_map.mp member
      obtain rfl := List.mem_singleton.mp same
      exact new post before
  | @ended node request ending awaits connected truthful =>
    obtain ⟨order, received, distinct, unsent, seen⟩ := faithful
    refine ⟨?_, ?_, ?_, ?_, ?_⟩
    · simpa [awaits] using order
    · simpa [Client.posts, awaits] using received
    · simpa [Client.posts, awaits] using distinct
    · intro contact member none
      obtain before | rfl := List.mem_append.mp member |>.imp_right List.mem_singleton.mp
      · exact unsent contact before none
      · cases none
    · intro contact member response ended
      obtain before | rfl := List.mem_append.mp member |>.imp_right List.mem_singleton.mp
      · exact seen contact before response ended
      · exact ⟨request, rfl, truthful response ended⟩

/-- In a fleet, each daemon reaches what it can reach alone. -/
theorem run_daemon {events : List Event}
    (completed : run (next settings endpoint args) (start targets) events = some fleet) (index : Nat) :
    ∃ moves, run (Daemon.next (settings index)) Daemon.initial moves = some (fleet.daemons index) := by
  have moved {fleet : Fleet} {other : Nat} {event : Daemon.Event} {daemon : Daemon.State}
      (step : Daemon.next (settings other) (fleet.daemons other) event = some daemon) :
      ∃ moves, run (Daemon.next (settings index)) (fleet.daemons index) moves =
        some (Function.update fleet.daemons other daemon index) := by
    by_cases same : index = other
    · subst same
      rw [Function.update_self]
      exact ⟨[event], run_one _ step⟩
    · rw [Function.update_of_ne same]
      exact ⟨[], rfl⟩
  obtain ⟨moves, daemon, reached, rfl⟩ := run_simulated (next settings endpoint args)
    (Daemon.next (settings index)) (fun fleet daemon => fleet.daemons index = daemon)
    (fun fleet daemon event reached same step => by
      subst same
      cases step_of_next step with
      | daemon other taken =>
        obtain ⟨moves, found⟩ := moved taken
        exact ⟨moves, _, found, rfl⟩
      | skipped err free ahead => exact ⟨[], _, rfl, rfl⟩
      | posted request free ahead taken =>
        obtain ⟨moves, found⟩ := moved taken
        exact ⟨moves, _, found, rfl⟩
      | ended ending awaits connected truthful => exact ⟨[], _, rfl, rfl⟩)
    (show (start targets).daemons index = Daemon.initial from rfl) completed
  exact ⟨moves, reached⟩

theorem run_faithful {events : List Event}
    (completed : run (next settings endpoint args) (start targets) events = some fleet) :
    Faithful endpoint args targets fleet := by
  have both := run_preserves (next settings endpoint args)
    (fun fleet => (∃ events, run (next settings endpoint args) (start targets) events = some fleet) ∧
      Faithful endpoint args targets fleet)
    (fun fleet event reached ⟨⟨events, before⟩, faithful⟩ step => by
      have lives (index request : Nat) : Lives (settings index) (fleet.daemons index) request := by
        obtain ⟨moves, moved⟩ := run_daemon before index
        exact (run_lives moved).1 request
      exact ⟨⟨events ++ [event], run_append _ before (run_one _ step)⟩,
        step_faithful lives faithful (step_of_next step)⟩)
    ⟨⟨[], rfl⟩, start_faithful endpoint args targets⟩ completed
  exact both.2

end Invariants

section Rows

variable (display : StatusCode → String) (settings : Nat → Daemon.AppState) (endpoint : String → Nat)

/-- What a row says has happened, and what it says has not happened has not. Only a row of
an error or of an unknown response leaves it open. -/
structure TrueRow (fleet : Fleet) (contact : Contact) : Prop where
  upgrade : (contact.row display).body = Daemon.triggeredMessage →
    ∃ request, contact.request = some request ∧
      (fleet.daemons (endpoint contact.node.address)).requests request = some (.fullUpgrade ⟨false⟩) ∧
      (fleet.daemons (endpoint contact.node.address)).upgrades request ≠ .absent
  reboot : (contact.row display).body = rebootMessage →
    ∃ request, contact.request = some request ∧
      (fleet.daemons (endpoint contact.node.address)).reboots request ≠ .absent ∧
      (settings (endpoint contact.node.address)).allowReboot = true
  nothing : (contact.row display).body ≠ Daemon.triggeredMessage →
    (contact.row display).body ≠ rebootMessage → (contact.row display).body ≠ "Unknown response" →
    (contact.row display).body ≠ "" → ∀ request, contact.request = some request →
      (fleet.daemons (endpoint contact.node.address)).upgrades request = .absent ∧
      (fleet.daemons (endpoint contact.node.address)).reboots request = .absent
  running : (contact.row display).body = Daemon.upgradeRunningMessage →
    ∃ request other, contact.request = some request ∧ other ≠ request ∧
      (fleet.daemons (endpoint contact.node.address)).requests other = some (.fullUpgrade ⟨false⟩) ∧
      Accepted (fleet.daemons (endpoint contact.node.address)) other
  unsent : contact.request = none → (contact.row display).body = ""

variable {display settings endpoint} {args : NodeArgs} {targets : List NodeConfig} {fleet : Fleet}

theorem answered_body {contact : Contact} {response : Daemon.Response}
    (ended : contact.ending = .answered response) :
    (contact.row display).body = message response := by
  unfold Contact.row
  rw [ended]
  cases response <;> rfl

/-- A row whose text is the daemon's own has an answer of this daemon behind it. -/
theorem body_answered {contact : Contact} (known : (contact.row display).body ≠ "Unknown response")
    (given : (contact.row display).body ≠ "") :
    ∃ response, contact.ending = .answered response ∧ (contact.row display).body = message response := by
  cases ended : contact.ending with
  | unconnected err => exact absurd (by simp [Contact.row, ended]) given
  | lost err => exact absurd (by simp [Contact.row, ended]) given
  | unreadable status => exact absurd (by simp [Contact.row, ended]) known
  | answered response => exact ⟨response, rfl, answered_body ended⟩

theorem row_true
    (tells : ∀ index request response, (fleet.daemons index).handlers request = .answered response →
      Tells (settings index) (fleet.daemons index) request response)
    (faithful : Faithful endpoint args targets fleet) {contact : Contact}
    (member : contact ∈ fleet.client.contacts) : TrueRow display settings endpoint fleet contact := by
  -- Behind every text of the daemon there is the answered request.
  have behind {text : String} (same : (contact.row display).body = text)
      (known : text ≠ "Unknown response") (given : text ≠ "") :
      ∃ request response, contact.request = some request ∧ message response = text ∧
        Tells (settings (endpoint contact.node.address))
          (fleet.daemons (endpoint contact.node.address)) request response := by
    subst same
    obtain ⟨response, ended, text⟩ := body_answered known given
    obtain ⟨request, posted, answered⟩ := faithful.seen contact member response ended
    exact ⟨request, response, posted, text.symm, tells _ _ _ answered⟩
  refine ⟨?_, ?_, ?_, ?_, ?_⟩
  · intro text
    obtain ⟨request, response, posted, reads, tells⟩ := behind text (by decide) (by decide)
    exact ⟨request, posted, (tells.upgradeAsked reads).1, tells.upgrade.mpr reads⟩
  · intro text
    obtain ⟨request, response, posted, reads, tells⟩ := behind text (by decide) (by decide)
    exact ⟨request, posted, tells.reboot.mpr reads, (tells.rebootAsked reads).2⟩
  · intro notUpgrade notReboot known given request posted
    obtain ⟨other, response, alsoPosted, reads, tells⟩ := behind rfl known given
    obtain rfl : request = other := Option.some.inj (posted.symm.trans alsoPosted)
    rw [← reads] at notUpgrade notReboot
    exact ⟨not_not.mp fun present => notUpgrade (tells.upgrade.mp present),
      not_not.mp fun present => notReboot (tells.reboot.mp present)⟩
  · intro text
    obtain ⟨request, response, posted, reads, tells⟩ := behind text (by decide) (by decide)
    obtain ⟨other, distinct, asked, accepted⟩ := tells.running reads
    exact ⟨request, other, posted, distinct, asked, accepted⟩
  · intro none
    obtain ⟨err, ended⟩ := faithful.unsent contact member none
    simp [Contact.row, ended]

/-- A dry run starts nothing. -/
theorem dry_run_starts_nothing (dry : args.dryRun = true) (notReboot : args.reboot = false)
    {state : Daemon.AppState} {daemon : Daemon.State} {request : Nat} (lives : Lives state daemon request)
    (asked : daemon.requests request = some (body args)) :
    daemon.upgrades request = .absent ∧ daemon.reboots request = .absent := by
  have plain : body args = .fullUpgrade ⟨true⟩ := by simp [body, notReboot, dry]
  constructor
  · by_contra present
    obtain ⟨other, _⟩ := life_upgrades lives present
    rw [asked, plain] at other
    simp at other
  · by_contra present
    obtain ⟨⟨payload, other⟩, _⟩ := life_reboots lives present
    rw [asked, plain] at other
    simp at other

end Rows

/-- The table of the node command is true. In every interleaving of the command with any
number of daemons, their tasks and other clients, and whatever requests and answers get
lost:

* there is one row for each target in the order of the targets, no request is sent twice,
  and once all rows are there, the requests are those that the session model records;
* in all states from there on, a row that says that an upgrade or a reboot has been triggered
  is about a request whose task exists, one that names a running upgrade has another accepted
  request behind it, and any other text of a daemon means that nothing has been started;
* a dry run starts nothing, also where its answer is lost.

Proof: each daemon runs as it would alone, so the answers that the client has seen tell the
truth about it. -/
theorem node_table_is_true (display : StatusCode → String) (settings : Nat → Daemon.AppState)
    (endpoint : String → Nat) (args : NodeArgs) (targets : List NodeConfig) (events : List Event)
    (fleet : Fleet)
    (reached : run (next settings endpoint args) (start targets) events = some fleet) :
    fleet.client.contacts.map Contact.node ++ fleet.client.awaiting.toList.map Prod.fst ++
      fleet.client.ahead = targets ∧
    (fleet.client.posts.map fun post => (endpoint post.1.address, post.2)).Nodup ∧
    (∀ session, fleet.client.awaiting = none → fleet.client.ahead = [] →
      (CliCommands.sendEach args.request (targets.map (·.address)) session).2.events =
        session.events ++ fleet.client.contacts.map fun contact =>
          PinGate.requestEvent args.request contact.node.address) ∧
    (∀ contact ∈ fleet.client.contacts, TrueRow display settings endpoint fleet contact) ∧
    (args.dryRun = true → args.reboot = false → ∀ post ∈ fleet.client.posts,
      (fleet.daemons (endpoint post.1.address)).upgrades post.2 = .absent ∧
      (fleet.daemons (endpoint post.1.address)).reboots post.2 = .absent) := by
  have faithful := run_faithful reached
  refine ⟨faithful.order, faithful.distinct, ?_, ?_, ?_⟩
  · intro session free exhausted
    have all : fleet.client.contacts.map Contact.node = targets := by
      simpa [free, exhausted] using faithful.order
    rw [CliCommands.sendEach_eq, PinGate.sent_fold_events, ← all]
    simp
  · intro contact member
    refine row_true ?_ faithful member
    intro index request response answered
    obtain ⟨moves, moved⟩ := run_daemon reached index
    exact run_tells moved answered
  · intro dry notReboot post member
    obtain ⟨moves, moved⟩ := run_daemon reached (endpoint post.1.address)
    exact dry_run_starts_nothing dry notReboot ((run_lives moved).1 post.2) (faithful.received post member)

/-- One daemon that two entries lead to. -/
def twoNames : List NodeConfig := [⟨some "web", "web.local:3625", none⟩, ⟨none, "10.0.0.2:3625", none⟩]

def upgradeAll : NodeArgs := ⟨true, false, false, false, []⟩

/-- The first request is accepted, and the second one is refused because of it. -/
def postedTwice : List Event :=
  [.posted 0, .daemon 0 (.advanced 0), .daemon 0 (.advanced 0), .daemon 0 (.advanced 0),
    .daemon 0 (.advanced 0), .answered, .posted 1, .daemon 0 (.advanced 1), .answered]

theorem posted_twice_true :
    ∃ fleet, run (next (fun _ => UpgradeLock.permissive) (fun _ => 0) upgradeAll) (start twoNames)
        postedTwice = some fleet ∧
      (fleet.client.contacts.map fun contact => (contact.row fun _ => "").body) =
        ["full upgrade triggered", "a full upgrade is currently running"] ∧
      ∀ contact ∈ fleet.client.contacts,
        TrueRow (fun _ => "") (fun _ => UpgradeLock.permissive) (fun _ => 0) fleet contact :=
  ⟨_, rfl, rfl, (node_table_is_true (fun _ => "") (fun _ => UpgradeLock.permissive) (fun _ => 0)
    upgradeAll twoNames postedTwice _ rfl).2.2.2.1⟩

end Brewmble.FleetRequests
