import Brewmble.Execution
import Brewmble.ServerIdentity

/-!
# The captured leaf of a fetch

The fetch of a fingerprint tries the resolved addresses in order. Each attempt runs
its TLS exchange in a worker thread and waits for the worker's message until a
timeout. All workers share one verifier, which stores the leaf that it has accepted
in one slot; the main thread takes the slot after a successful message. The worker
of an attempt that timed out is not stopped: it may store its leaf at any later time.

The fingerprint that is returned is that of the connection that succeeded as long
as no such worker stores a leaf with another fingerprint between the moment when the
current attempt has stored its own and the moment when it is taken. Where one does,
the fetch can go on to return the fingerprint of the other connection.

A state holds the slot, the worker of the current attempt and the workers of earlier
ones. Every access to the slot or a channel is a step of its own, in any order. What
the peers present and when an exchange breaks is up to the steps, and so is a
resumed session, in which no certificate is verified.
-/

namespace Brewmble.CapturedLeaf

open Credentials Execution IpAddress ServerIdentity

/-- How far a worker's handshake is. -/
inductive Handshake where
  | pending
  /-- The peer's leaf was verified and stored. -/
  | full (leaf : Pem)
  | resumed
  deriving DecidableEq, Repr

/-- The thread of one attempt, with the message that it has sent. -/
structure Worker where
  address : SocketAddr
  handshake : Handshake
  sent : Option (Except String Unit)

def Worker.start (address : SocketAddr) : Worker := ⟨address, .pending, none⟩

inductive Access where
  | captured (leaf : Pem) (now : Int)
  | resumed
  | exchanged
  | broke (err : String)
  deriving DecidableEq, Repr

/-- `verify_server_cert` stores the leaf that the library has accepted. -/
def Access.store (slot : Option Pem) : Access → Option Pem
  | .captured leaf _ => some leaf
  | _ => slot

/-- Where the loop over the addresses stands. -/
inductive Phase where
  | connecting
  | waiting (worker : Worker)
  /-- The message of success is received and the leaf is not taken yet. -/
  | taking (worker : Worker)
  | returned (worker : Worker) (fingerprint : String)
  | failed (err : String)

structure State where
  /-- The slot of the shared verifier. -/
  leaf : Option Pem
  addrs : List SocketAddr
  lastErr : Option String
  phase : Phase
  /-- The workers of the attempts that have ended. -/
  earlier : List Worker

def start (addrs : List SocketAddr) : State := ⟨none, addrs, none, .connecting, []⟩

inductive Event where
  | refused (err : String)
  | connected
  | exhausted
  | own (access : Access)
  | late (index : Nat) (access : Access)
  | received
  | timedOut
  | took
  deriving DecidableEq, Repr

variable (platform : Platform) (ca : Pem) (name : ServerName) (timeout : String)

/-- The exchange succeeds after the handshake only; it may break at any time. -/
def Worker.access (worker : Worker) (access : Access) : Option Worker :=
  match worker.sent, worker.handshake, access with
  | none, .pending, .captured leaf now =>
    match platform.verifyServerCert ca leaf name now with
    | .ok () => some { worker with handshake := .full leaf }
    | .error _ => none
  | none, .pending, .resumed => some { worker with handshake := .resumed }
  | none, .full _, .exchanged | none, .resumed, .exchanged =>
    some { worker with sent := some (.ok ()) }
  | none, _, .broke err => some { worker with sent := some (.error err) }
  | _, _, _ => none

/-- The attempt of a worker ends with an error and the loop goes on. -/
def State.abandon (state : State) (worker : Worker) (err : String) : State :=
  { state with
    phase := .connecting
    lastErr := some err
    earlier := state.earlier ++ [worker] }

/-- `fetch_fingerprint_with_addrs`, `try_fetch_at_address` and their workers. -/
def next (state : State) : Event → Option State
  | .refused err =>
    match state.phase, state.addrs with
    | .connecting, _ :: rest => some { state with addrs := rest, lastErr := some err }
    | _, _ => none
  | .connected =>
    match state.phase, state.addrs with
    | .connecting, addr :: rest =>
      some { state with addrs := rest, phase := .waiting (.start addr) }
    | _, _ => none
  | .exhausted =>
    match state.phase, state.addrs with
    | .connecting, [] =>
      some { state with phase := .failed (state.lastErr.getD "all addresses failed") }
    | _, _ => none
  | .own access =>
    match state.phase with
    | .waiting worker =>
      (worker.access platform ca name access).map fun moved =>
        { state with phase := .waiting moved, leaf := access.store state.leaf }
    | _ => none
  | .late index access =>
    match state.earlier[index]? with
    | some worker =>
      (worker.access platform ca name access).map fun moved =>
        { state with earlier := state.earlier.set index moved, leaf := access.store state.leaf }
    | none => none
  | .received =>
    match state.phase with
    | .waiting worker =>
      match worker.sent with
      | some (.ok ()) => some { state with phase := .taking worker }
      | some (.error err) => some (state.abandon worker err)
      | none => none
    | _ => none
  | .timedOut =>
    match state.phase with
    | .waiting worker =>
      match worker.sent with
      | some _ => none
      | none => some (state.abandon worker ("pin check timed out after " ++ timeout))
    | _ => none
  | .took =>
    match state.phase with
    | .taking worker =>
      match state.leaf with
      | some leaf =>
        some { state with leaf := none, phase := .returned worker (platform.fingerprint leaf) }
      | none => some (state.abandon worker "no leaf certificate captured")
    | _ => none

/-- The steps of the main thread and of the workers. An attempt is abandoned when its
exchange breaks, when it times out, or when the slot is empty. -/
inductive Step (state : State) : Event → State → Prop where
  | refused {addr : SocketAddr} {rest : List SocketAddr} (err : String)
      (connecting : state.phase = .connecting) (untried : state.addrs = addr :: rest) :
      Step state (.refused err) { state with addrs := rest, lastErr := some err }
  | connected {addr : SocketAddr} {rest : List SocketAddr}
      (connecting : state.phase = .connecting) (untried : state.addrs = addr :: rest) :
      Step state .connected { state with addrs := rest, phase := .waiting (.start addr) }
  | exhausted (connecting : state.phase = .connecting) (tried : state.addrs = []) :
      Step state .exhausted
        { state with phase := .failed (state.lastErr.getD "all addresses failed") }
  | own {worker moved : Worker} {access : Access} (waiting : state.phase = .waiting worker)
      (accessed : worker.access platform ca name access = some moved) :
      Step state (.own access)
        { state with phase := .waiting moved, leaf := access.store state.leaf }
  | late {index : Nat} {worker moved : Worker} {access : Access}
      (found : state.earlier[index]? = some worker)
      (accessed : worker.access platform ca name access = some moved) :
      Step state (.late index access)
        { state with earlier := state.earlier.set index moved, leaf := access.store state.leaf }
  | received {worker : Worker} (waiting : state.phase = .waiting worker)
      (succeeded : worker.sent = some (.ok ())) :
      Step state .received { state with phase := .taking worker }
  | took {worker : Worker} {leaf : Pem} (taking : state.phase = .taking worker)
      (stored : state.leaf = some leaf) :
      Step state .took
        { state with leaf := none, phase := .returned worker (platform.fingerprint leaf) }
  | abandoned {event : Event} {worker : Worker} {err : String}
      (current : state.phase = .waiting worker ∨ state.phase = .taking worker) :
      Step state event (state.abandon worker err)

theorem step_of_next {platform : Platform} {ca : Pem} {name : ServerName} {timeout : String}
    {state reached : State} {event : Event}
    (step : next platform ca name timeout state event = some reached) :
    Step platform ca name state event reached := by
  cases event with
  | refused err =>
    simp only [next] at step
    split at step
    · next connecting untried => exact Option.some.inj step ▸ .refused err connecting untried
    · cases step
  | connected =>
    simp only [next] at step
    split at step
    · next connecting untried => exact Option.some.inj step ▸ .connected connecting untried
    · cases step
  | exhausted =>
    simp only [next] at step
    split at step
    · next connecting tried => exact Option.some.inj step ▸ .exhausted connecting tried
    · cases step
  | own access =>
    simp only [next] at step
    split at step
    · next worker waiting =>
      obtain ⟨moved, accessed, rfl⟩ := Option.map_eq_some_iff.mp step
      exact .own waiting accessed
    · cases step
  | late index access =>
    simp only [next] at step
    split at step
    · next worker found =>
      obtain ⟨moved, accessed, rfl⟩ := Option.map_eq_some_iff.mp step
      exact .late found accessed
    · cases step
  | received =>
    simp only [next] at step
    split at step
    · next worker waiting =>
      split at step
      · next succeeded => exact Option.some.inj step ▸ .received waiting succeeded
      · exact Option.some.inj step ▸ .abandoned (.inl waiting)
      · cases step
    · cases step
  | timedOut =>
    simp only [next] at step
    split at step
    · next worker waiting =>
      split at step
      · cases step
      · exact Option.some.inj step ▸ .abandoned (.inl waiting)
    · cases step
  | took =>
    simp only [next] at step
    split at step
    · next worker taking =>
      split at step
      · next leaf stored => exact Option.some.inj step ▸ .took taking stored
      · exact Option.some.inj step ▸ .abandoned (.inr taking)
    · cases step

/-- A fingerprint that is returned after a full handshake is that of the leaf that
was presented in it. -/
def Identified (state : State) : Prop :=
  ∀ worker fingerprint leaf, state.phase = .returned worker fingerprint →
    worker.handshake = .full leaf → fingerprint = platform.fingerprint leaf

/-- The leaf of a worker whose exchange has not broken. -/
def Worker.presented (worker : Worker) : Option Pem :=
  match worker.handshake, worker.sent with
  | .full _, some (.error _) => none
  | .full leaf, _ => some leaf
  | _, _ => none

/-- The leaf of the current attempt that waits in the slot. -/
def State.awaited (state : State) : Option Pem :=
  match state.phase with
  | .waiting worker | .taking worker => worker.presented
  | _ => none

/-- An earlier attempt's worker stores its leaf over the awaited one, which has
another fingerprint. -/
def Overwrites (state : State) : Event → Prop
  | .late _ (.captured leaf _) =>
    ∃ own, state.awaited = some own ∧ platform.fingerprint leaf ≠ platform.fingerprint own
  | _ => False

instance (state : State) : (event : Event) → Decidable (Overwrites platform state event)
  | .late _ (.captured leaf _) =>
    match found : state.awaited with
    | none => isFalse (by simp [Overwrites, found])
    | some own =>
      decidable_of_iff (platform.fingerprint leaf ≠ platform.fingerprint own)
        (by simp [Overwrites, found])
  | .late _ .resumed | .late _ .exchanged | .late _ (.broke _) | .refused _ | .connected
  | .exhausted | .own _ | .received | .timedOut | .took => isFalse id

/-- The worker of the current attempt. -/
def Phase.worker : Phase → Option Worker
  | .waiting worker | .taking worker | .returned worker _ => some worker
  | .connecting | .failed _ => none

/-- The leaf was accepted by the library at some time. -/
def Verified (leaf : Pem) : Prop := ∃ now, platform.verifyServerCert ca leaf name now = .ok ()

/-- What holds of the current attempt however the slot is shared. -/
structure Supported (addrs : List SocketAddr) (state : State) : Prop where
  pending : ∀ addr ∈ state.addrs, addr ∈ addrs
  listed : ∀ worker, state.phase.worker = some worker → worker.address ∈ addrs
  verified : ∀ worker, state.phase.worker = some worker →
    ∀ leaf, worker.handshake = .full leaf → Verified platform ca name leaf
  succeeded : ∀ worker, state.phase = .taking worker → worker.sent = some (.ok ())

/-- The slot has the fingerprint of the awaited leaf. -/
def Owned (state : State) : Prop :=
  ∀ own, state.awaited = some own →
    ∃ leaf, state.leaf = some leaf ∧ platform.fingerprint leaf = platform.fingerprint own

section Steps

variable {platform ca name timeout} {state reached : State}

/-- Where nothing is awaited and nothing is returned, there is nothing to show. -/
theorem idle_identified (none : reached.awaited = none)
    (open' : ∀ worker fingerprint, reached.phase ≠ .returned worker fingerprint) :
    Owned platform reached ∧ Identified platform reached := by
  refine ⟨fun own awaited => ?_, fun worker fingerprint _ returned _ => ?_⟩
  · rw [none] at awaited
    cases awaited
  · exact absurd returned (open' worker fingerprint)

/-- What a worker's access does to the leaf that it has presented: a capture presents
the stored leaf, and no other access presents one anew. -/
theorem access_presented {worker moved : Worker} {access : Access} {own : Pem}
    (step : worker.access platform ca name access = some moved)
    (presented : moved.presented = some own) :
    (∃ now, access = .captured own now) ∨
      worker.presented = some own ∧ ∀ slot, access.store slot = slot := by
  obtain ⟨address, handshake, sent⟩ := worker
  cases sent with
  | some message => simp [Worker.access] at step
  | none =>
    cases access with
    | captured leaf now =>
      cases handshake with
      | pending =>
        simp only [Worker.access] at step
        split at step
        · obtain rfl := Option.some.inj step
          obtain rfl : leaf = own := Option.some.inj presented
          exact .inl ⟨now, rfl⟩
        · cases step
      | full _ | resumed => cases step
    | resumed =>
      cases handshake with
      | pending =>
        obtain rfl := Option.some.inj step
        cases presented
      | full _ | resumed => cases step
    | exchanged =>
      cases handshake with
      | pending => cases step
      | full leaf =>
        obtain rfl := Option.some.inj step
        exact .inr ⟨presented, fun _ => rfl⟩
      | resumed =>
        obtain rfl := Option.some.inj step
        cases presented
    | broke err =>
      have moved_eq : some { address, handshake, sent := some (.error err) } = some moved := by
        cases handshake <;> exact step
      obtain rfl := Option.some.inj moved_eq
      cases handshake <;> cases presented

/-- What a worker's access does to the worker. -/
theorem access_worker {worker moved : Worker} {access : Access}
    (step : worker.access platform ca name access = some moved) :
    moved.address = worker.address ∧
      ∀ leaf, moved.handshake = .full leaf →
        worker.handshake = .full leaf ∨ Verified platform ca name leaf := by
  obtain ⟨address, handshake, sent⟩ := worker
  simp only [Worker.access] at step
  split at step
  · split at step
    · next accepted =>
      obtain rfl := Option.some.inj step
      refine ⟨rfl, ?_⟩
      rintro _ ⟨⟩
      exact .inr ⟨_, accepted⟩
    · cases step
  · obtain rfl := Option.some.inj step
    exact ⟨rfl, nofun⟩
  · obtain rfl := Option.some.inj step
    exact ⟨rfl, fun _ presented => .inl presented⟩
  · obtain rfl := Option.some.inj step
    exact ⟨rfl, fun _ presented => .inl presented⟩
  · obtain rfl := Option.some.inj step
    exact ⟨rfl, fun _ presented => .inl presented⟩
  · cases step

theorem start_supported (addrs : List SocketAddr) :
    Supported platform ca name addrs (start addrs) where
  pending _ member := member
  listed := nofun
  verified := nofun
  succeeded := nofun

/-- Between two attempts there is no worker to speak of. -/
theorem Supported.idle {addrs : List SocketAddr}
    (pending : ∀ addr ∈ reached.addrs, addr ∈ addrs) (idle : reached.phase.worker = none) :
    Supported platform ca name addrs reached := by
  refine ⟨pending, ?_, ?_, ?_⟩
  · simp [idle]
  · simp [idle]
  · intro worker taking
    rw [taking] at idle
    cases idle

theorem next_supported {addrs : List SocketAddr}
    (supported : Supported platform ca name addrs state) {event : Event}
    (step : next platform ca name timeout state event = some reached) :
    Supported platform ca name addrs reached := by
  obtain ⟨pending, listed, verified, succeeded⟩ := supported
  cases step_of_next step with
  | refused err connecting untried =>
    refine .idle (fun addr member => pending addr ?_) (by simp [connecting, Phase.worker])
    exact untried ▸ List.mem_cons_of_mem _ member
  | connected connecting untried =>
    refine ⟨fun addr member => pending addr (untried ▸ List.mem_cons_of_mem _ member), ?_, ?_,
      nofun⟩
    · rintro _ ⟨⟩
      exact pending _ (untried ▸ List.mem_cons_self)
    · rintro _ ⟨⟩ _ ⟨⟩
  | exhausted => exact .idle pending rfl
  | @own worker moved access waiting accessed =>
    obtain ⟨address, presented⟩ := access_worker accessed
    have current : state.phase.worker = some worker := by rw [waiting, Phase.worker]
    refine ⟨pending, ?_, ?_, nofun⟩
    · rintro _ ⟨⟩
      exact address ▸ listed worker current
    · rintro _ ⟨⟩ leaf full
      exact (presented leaf full).elim (verified worker current leaf) id
  | late => exact ⟨pending, listed, verified, succeeded⟩
  | @received worker waiting sent =>
    have current : state.phase.worker = some worker := by rw [waiting, Phase.worker]
    refine ⟨pending, ?_, ?_, ?_⟩
    · rintro _ ⟨⟩
      exact listed worker current
    · rintro _ ⟨⟩
      exact verified worker current
    · rintro _ ⟨⟩
      exact sent
  | @took worker leaf taking stored =>
    have current : state.phase.worker = some worker := by rw [taking, Phase.worker]
    refine ⟨pending, ?_, ?_, nofun⟩
    · rintro _ ⟨⟩
      exact listed worker current
    · rintro _ ⟨⟩
      exact verified worker current
  | abandoned => exact .idle pending rfl

/-- A step that overwrites nothing keeps the awaited leaf in the slot and returns no
other connection's fingerprint.

Proof: one case for each step. The own worker's capture stores the leaf that it
presents; an earlier worker's capture may only replace the awaited leaf by one with
the same fingerprint; the take reads the slot. -/
theorem next_identified {addrs : List SocketAddr}
    (supported : Supported platform ca name addrs state)
    (invariant : Owned platform state ∧ Identified platform state) {event : Event}
    (allowed : ¬ Overwrites platform state event)
    (step : next platform ca name timeout state event = some reached) :
    Owned platform reached ∧ Identified platform reached := by
  obtain ⟨owned, identified⟩ := invariant
  cases step_of_next step with
  | refused err connecting untried =>
    exact idle_identified (by simp [State.awaited, connecting]) (by simp [connecting])
  | connected | exhausted | abandoned => exact idle_identified rfl nofun
  | own waiting accessed =>
    refine ⟨fun own awaited => ?_, nofun⟩
    rcases access_presented accessed awaited with ⟨now, rfl⟩ | ⟨before, kept⟩
    · exact ⟨own, rfl, rfl⟩
    · rw [kept]
      exact owned own (by simpa [State.awaited, waiting] using before)
  | @late index worker moved access found accessed =>
    refine ⟨fun own awaited => ?_, identified⟩
    cases access with
    | captured leaf now =>
      have same : platform.fingerprint leaf = platform.fingerprint own :=
        by_contra fun differ => allowed ⟨own, awaited, differ⟩
      exact ⟨leaf, rfl, same⟩
    | resumed | exchanged | broke err => exact owned own awaited
  | received waiting succeeded =>
    refine ⟨fun own awaited => ?_, nofun⟩
    exact owned own (by simpa [State.awaited, waiting] using awaited)
  | @took worker leaf taking stored =>
    refine ⟨nofun, ?_⟩
    rintro _ _ own ⟨⟩ full
    have awaited : state.awaited = some own := by
      simp [State.awaited, taking, Worker.presented, full, supported.succeeded worker taking]
    obtain ⟨slot, found, same⟩ := owned own awaited
    obtain rfl : leaf = slot := Option.some.inj (stored.symm.trans found)
    exact same

/-- A presented leaf is that of a full handshake whose exchange has not broken. -/
theorem presented_full {worker : Worker} {own : Pem} (presented : worker.presented = some own) :
    worker.handshake = .full own ∧ (worker.sent = none ∨ worker.sent = some (.ok ())) := by
  obtain ⟨address, handshake, sent⟩ := worker
  cases handshake with
  | pending | resumed => cases presented
  | full leaf =>
    cases sent with
    | none =>
      obtain rfl : leaf = own := Option.some.inj presented
      exact ⟨rfl, .inl rfl⟩
    | some message =>
      cases message with
      | error err => cases presented
      | ok done =>
        obtain rfl : leaf = own := Option.some.inj presented
        exact ⟨rfl, .inr rfl⟩

/-- A take returns what the slot has, whatever the current attempt has presented. -/
theorem foreign_taken {worker : Worker} {own stored : Pem} (taking : state.phase = .taking worker)
    (full : worker.handshake = .full own) (slot : state.leaf = some stored)
    (differ : platform.fingerprint stored ≠ platform.fingerprint own) :
    ∃ final, run (next platform ca name timeout) state [.took] = some final ∧
      ¬ Identified platform final := by
  have took : next platform ca name timeout state .took =
      some { state with
        leaf := none
        phase := .returned worker (platform.fingerprint stored) } := by
    simp only [next, taking, slot]
  exact ⟨_, run_one _ took, fun identified => differ (identified worker _ own rfl full)⟩

/-- Where the slot has another fingerprint than the awaited leaf, the fetch can go on
to return it: the current exchange completes and the slot is taken. -/
theorem foreign_returned {own stored : Pem} (awaited : state.awaited = some own)
    (slot : state.leaf = some stored)
    (differ : platform.fingerprint stored ≠ platform.fingerprint own) :
    ∃ rest final, run (next platform ca name timeout) state rest = some final ∧
      ¬ Identified platform final := by
  have receives (current : State) (worker : Worker) (waiting : current.phase = .waiting worker)
      (succeeded : worker.sent = some (.ok ())) (full : worker.handshake = .full own)
      (kept : current.leaf = some stored) :
      ∃ final, run (next platform ca name timeout) current [.received, .took] = some final ∧
        ¬ Identified platform final := by
    have received : next platform ca name timeout current .received =
        some { current with phase := .taking worker } := by
      simp only [next, waiting, succeeded]
    have onward : ∃ final, run (next platform ca name timeout)
        { current with phase := .taking worker } [.took] = some final ∧
        ¬ Identified platform final := foreign_taken rfl full kept differ
    obtain ⟨final, ran, wrong⟩ := onward
    exact ⟨final, (run_cons_iff _ _ _ _ _).mpr ⟨_, received, ran⟩, wrong⟩
  cases phase : state.phase with
  | connecting | returned _ _ | failed _ => simp [State.awaited, phase] at awaited
  | taking worker =>
    simp only [State.awaited, phase] at awaited
    exact ⟨_, foreign_taken phase (presented_full awaited).1 slot differ⟩
  | waiting worker =>
    simp only [State.awaited, phase] at awaited
    obtain ⟨full, unsent | succeeded⟩ := presented_full awaited
    · have exchanged : next platform ca name timeout state (.own .exchanged) =
          some { state with phase := .waiting { worker with sent := some (.ok ()) } } := by
        simp only [next, phase, Worker.access, unsent, full, Option.map_some, Access.store]
      obtain ⟨final, ran, wrong⟩ := receives
        { state with phase := .waiting { worker with sent := some (.ok ()) } } _ rfl rfl full slot
      exact ⟨_, final, (run_cons_iff _ _ _ _ _).mpr ⟨_, exchanged, ran⟩, wrong⟩
    · exact ⟨_, receives state worker phase succeeded full slot⟩

end Steps

section Fetch

variable (addrs : List SocketAddr)

theorem start_identified : Owned platform (start addrs) ∧ Identified platform (start addrs) :=
  idle_identified rfl nofun

/-- The condition under which a fetch returns the fingerprint of the connection that
succeeded: no worker of an earlier attempt stores a leaf with another fingerprint
over the one that the current attempt has stored and not taken.

In every run whose steps all meet it, whatever is returned after a full handshake is
the fingerprint of the leaf presented in it. A step that does not meet it can be
followed by the return of another fingerprint, in every state that a run reaches.

Proof: the slot has the fingerprint of the awaited leaf as long as the condition is
met, and the take reads the slot. Once it has another one, the rest of the exchange
and the take return that. -/
theorem fetched_fingerprint_identified :
    (∀ events reached, run (next platform ca name timeout) (start addrs) events = some reached →
      Guarded (next platform ca name timeout)
        (fun state event => ¬ Overwrites platform state event) (start addrs) events →
      Identified platform reached) ∧
    ∀ events state event reached,
      run (next platform ca name timeout) (start addrs) events = some state →
      next platform ca name timeout state event = some reached →
      Overwrites platform state event →
      ∃ rest final, run (next platform ca name timeout) reached rest = some final ∧
        ¬ Identified platform final := by
  constructor
  · intro events reached ran guarded
    exact (guarded_preserves _ _ (Supported platform ca name addrs)
      (fun state => Owned platform state ∧ Identified platform state)
      (fun _ _ _ supported step => next_supported supported step)
      (fun _ _ _ supported invariant allowed step =>
        next_identified supported invariant allowed step)
      (start_supported addrs) (start_identified platform addrs) guarded ran).2
  · intro events state event reached _ step overwrites
    cases event with
    | late index access =>
      cases access with
      | captured leaf now =>
        obtain ⟨own, awaited, differ⟩ := overwrites
        simp only [next] at step
        split at step
        · obtain ⟨moved, _, rfl⟩ := Option.map_eq_some_iff.mp step
          exact foreign_returned awaited rfl differ
        · cases step
      | resumed | exchanged | broke err => exact overwrites.elim
    | refused err | connected | exhausted | own access | received | timedOut | took =>
      exact overwrites.elim

/-- What a fetch returns so is what the account without threads finds at the address
of the connection, where the network presents there the leaf of the handshake. -/
theorem returned_as_presented {events : List Event} {reached : State} {worker : Worker}
    {fingerprint : String} {leaf : Pem}
    (ran : run (next platform ca name timeout) (start addrs) events = some reached)
    (identified : Identified platform reached)
    (returned : reached.phase = .returned worker fingerprint)
    (full : worker.handshake = .full leaf) (network : Network)
    (presents : network worker.address = .ok leaf) :
    worker.address ∈ addrs ∧
      ∃ now, tryFetchAtAddress platform network ca now name worker.address = .ok fingerprint := by
  have supported := run_preserves _ (Supported platform ca name addrs)
    (fun _ _ _ supported step => next_supported supported step) (start_supported addrs) ran
  have current : reached.phase.worker = some worker := by rw [returned, Phase.worker]
  obtain ⟨now, accepted⟩ := supported.verified worker current leaf full
  refine ⟨supported.listed worker current, now, ?_⟩
  rw [identified worker fingerprint leaf returned full]
  simp [tryFetchAtAddress, presents, accepted]

end Fetch

section Example

/-- Two leaves of the daemon "web" under one CA have different fingerprints. -/
def twoLeaves : Platform :=
  { examplePlatform with
    fingerprint := fun leaf => if leaf = webLeaf then "aa:01" else "bb:02" }

def renewedLeaf : Pem := .leafCert 2 "web" .daemon (.caKey 0)

/-- The addresses that the name of the daemon resolves to. -/
def webAddrs : List SocketAddr := [.v4 ⟨10, 0, 0, 2⟩ 3625, .v4 ⟨10, 0, 0, 3⟩ 3625]

/-- The first attempt times out before its handshake. The second one has stored its
leaf when the first one stores its own. -/
def overtakenCapture : List Event :=
  [.connected, .timedOut, .connected, .own (.captured renewedLeaf 0), .late 0 (.captured webLeaf 0),
    .own .exchanged, .received, .took]

/-- The exchange with the second address succeeds and the fingerprint of the first
one is returned. -/
theorem late_capture_returned :
    ¬ ∀ (platform : Platform) (ca : Pem) (name : ServerName) (timeout : String)
      (addrs : List SocketAddr) (events : List Event) (reached : State),
      run (next platform ca name timeout) (start addrs) events = some reached →
      Identified platform reached := by
  intro claimed
  have completed : ∃ reached, run (next twoLeaves (.caCert 0) (.dns ['w', 'e', 'b']) "5s")
      (start webAddrs) overtakenCapture = some reached ∧
      reached.phase = .returned ⟨.v4 ⟨10, 0, 0, 3⟩ 3625, .full renewedLeaf, some (.ok ())⟩ "aa:01" :=
    ⟨_, rfl, rfl⟩
  obtain ⟨reached, ran, returned⟩ := completed
  have same := claimed _ _ _ _ _ _ reached ran _ _ renewedLeaf returned rfl
  exact absurd same (by decide)

/-- The first attempt's worker stores its leaf before the second one's. -/
def earlyCapture : List Event :=
  [.connected, .timedOut, .connected, .late 0 (.captured webLeaf 0), .own (.captured renewedLeaf 0),
    .own .exchanged, .received, .took]

/-- A leaf that is stored before the current one is overwritten by it. -/
theorem early_capture_overwritten :
    ∃ reached, run (next twoLeaves (.caCert 0) (.dns ['w', 'e', 'b']) "5s") (start webAddrs)
        earlyCapture = some reached ∧
      reached.phase = .returned ⟨.v4 ⟨10, 0, 0, 3⟩ 3625, .full renewedLeaf, some (.ok ())⟩ "bb:02" ∧
      Identified twoLeaves reached := by
  have completed : ∃ reached, run (next twoLeaves (.caCert 0) (.dns ['w', 'e', 'b']) "5s")
      (start webAddrs) earlyCapture = some reached ∧
      reached.phase = .returned ⟨.v4 ⟨10, 0, 0, 3⟩ 3625, .full renewedLeaf, some (.ok ())⟩ "bb:02" :=
    ⟨_, rfl, rfl⟩
  obtain ⟨reached, ran, returned⟩ := completed
  have guarded : Guarded (next twoLeaves (.caCert 0) (.dns ['w', 'e', 'b']) "5s")
      (fun state event => ¬ Overwrites twoLeaves state event) (start webAddrs) earlyCapture := by
    decide
  exact ⟨reached, ran, returned,
    (fetched_fingerprint_identified twoLeaves (.caCert 0) (.dns ['w', 'e', 'b']) "5s"
      webAddrs).1 _ reached ran guarded⟩

end Example

end Brewmble.CapturedLeaf
