import Brewmble.CliCommands

/-!
# What the loops of the commands do to a session

Each loop over nodes is a fold of one change of the session, which never fails.
The validating loop checks a node and writes back what was learned; the version
loop also sends a request where the check passed. From these, the two parts that
commands are made of are given by what they leave behind and when they fail.
-/

namespace Brewmble.CliCommands

open CliConfig Pin ResolveUrl Fallible Rest StatusSummary

variable (env : Environment)

def Environment.learns (check : Nat) (node : NodeConfig) : Bool :=
  match env.outcome check node with
  | .ok (.learned _) => true
  | _ => false

/-- Some node learns a fingerprint when they are checked in order. -/
def Environment.learnsAny : Nat → List NodeConfig → Bool
  | _, [] => false
  | check, node :: rest => env.learns check node || Environment.learnsAny (check + 1) rest

namespace Session

/-- One node checked and its fingerprint, if learned, written back. -/
def check (session : Session) (node : NodeConfig) : Session :=
  let checked :=
    { session with
      checks := session.checks + 1
      events := session.events ++ [.checked node (env.outcome session.checks node)] }
  match env.outcome session.checks node with
  | .ok (.learned fingerprint) => checked.learn node.address fingerprint
  | _ => checked

def sent (request : Request) (session : Session) (address : String) : Session :=
  { session with
    events := session.events ++ [.requested address (resolveUrl address ++ request.path) request] }

/-- One node of the version command: checked, and queried where the check passed. -/
def query (session : Session) (node : NodeConfig) : Session :=
  match env.outcome session.checks node with
  | .ok _ => sent .status (session.check env node) node.address
  | .error _ => session.check env node

section Start

variable (config : Config) (file : Option Config)

@[simp] theorem start_config : (start config file).config = config := rfl

@[simp] theorem start_file : (start config file).file = file := rfl

@[simp] theorem start_checks : (start config file).checks = 0 := rfl

@[simp] theorem start_history : (start config file).history = [config.active] := rfl

@[simp] theorem start_events : (start config file).events = [] := rfl

end Start

variable (session : Session) (node : NodeConfig)

@[simp] theorem check_checks : (session.check env node).checks = session.checks + 1 := by
  unfold check
  cases env.outcome session.checks node with
  | error err => rfl
  | ok outcome => cases outcome <;> rfl

@[simp] theorem check_file : (session.check env node).file = session.file := by
  unfold check
  cases env.outcome session.checks node with
  | error err => rfl
  | ok outcome => cases outcome <;> rfl

@[simp] theorem check_events : (session.check env node).events =
    session.events ++ [.checked node (env.outcome session.checks node)] := by
  unfold check
  cases env.outcome session.checks node with
  | error err => rfl
  | ok outcome => cases outcome <;> rfl

theorem check_learned {fingerprint : String}
    (learned : env.outcome session.checks node = .ok (.learned fingerprint)) :
    (session.check env node).config =
        updateNodeFingerprint session.config node.address fingerprint ∧
      (session.check env node).history =
        session.history ++ [pinFirst node.address fingerprint session.config.active] := by
  simp [check, learned, learn, updateNodeFingerprint_active]

/-- A check that learns nothing leaves the configuration alone. -/
theorem check_unlearned (unlearned : env.learns session.checks node = false) :
    (session.check env node).config = session.config ∧
      (session.check env node).history = session.history := by
  unfold check
  unfold Environment.learns at unlearned
  cases found : env.outcome session.checks node with
  | error err => simp
  | ok outcome =>
    cases outcome with
    | matched => simp
    | learned fingerprint => simp [found] at unlearned

@[simp] theorem sent_config (request : Request) (address : String) :
    (sent request session address).config = session.config := rfl

@[simp] theorem sent_file (request : Request) (address : String) :
    (sent request session address).file = session.file := rfl

@[simp] theorem sent_checks (request : Request) (address : String) :
    (sent request session address).checks = session.checks := rfl

@[simp] theorem sent_history (request : Request) (address : String) :
    (sent request session address).history = session.history := rfl

@[simp] theorem query_file : (session.query env node).file = session.file := by
  unfold query
  cases env.outcome session.checks node <;> simp

@[simp] theorem query_checks : (session.query env node).checks = session.checks + 1 := by
  unfold query
  cases env.outcome session.checks node <;> simp

/-- A query changes the configuration as the check does. -/
theorem query_config : (session.query env node).config = (session.check env node).config ∧
    (session.query env node).history = (session.check env node).history := by
  unfold query
  cases env.outcome session.checks node <;> simp

end Session

/-- A change of the session that checks a node and may do more, as long as that
leaves the configuration and the file alone. -/
def Checking (change : Session → NodeConfig → Session) : Prop :=
  ∀ session node, (change session node).config = (session.check env node).config ∧
    (change session node).history = (session.check env node).history ∧
    (change session node).checks = session.checks + 1 ∧
    (change session node).file = session.file

theorem check_checking : Checking env (Session.check env) := by
  intro session node
  simp

theorem query_checking : Checking env (Session.query env) := by
  intro session node
  obtain ⟨config, history⟩ := session.query_config env node
  exact ⟨config, history, by simp, by simp⟩

section Checking

variable {env} {change : Session → NodeConfig → Session}

theorem checking_file (checking : Checking env change) (nodes : List NodeConfig)
    (session : Session) : (nodes.foldl change session).file = session.file := by
  induction nodes generalizing session with
  | nil => rfl
  | cons node rest inductionHypothesis =>
    rw [List.foldl_cons, inductionHypothesis, (checking session node).2.2.2]

/-- Checks add to the history and take nothing from it. -/
theorem checking_history (checking : Checking env change) (nodes : List NodeConfig)
    (session : Session) : session.history <+: (nodes.foldl change session).history := by
  induction nodes generalizing session with
  | nil => exact List.prefix_rfl
  | cons node rest inductionHypothesis =>
    have first : session.history <+: (change session node).history := by
      rw [(checking session node).2.1]
      cases learned : env.outcome session.checks node with
      | error err => simp [Session.check, learned]
      | ok outcome => cases outcome <;> simp [Session.check, learned, Session.learn]
    exact first.trans (inductionHypothesis (change session node))

/-- Checks that learn nothing leave the configuration alone. -/
theorem checking_unlearned (checking : Checking env change) (nodes : List NodeConfig)
    (session : Session) (unlearned : env.learnsAny session.checks nodes = false) :
    (nodes.foldl change session).config = session.config ∧
      (nodes.foldl change session).history = session.history := by
  induction nodes generalizing session with
  | nil => exact ⟨rfl, rfl⟩
  | cons node rest inductionHypothesis =>
    obtain ⟨first, later⟩ : env.learns session.checks node = false ∧
        env.learnsAny (session.checks + 1) rest = false := by
      simpa [Environment.learnsAny] using unlearned
    obtain ⟨config, history, checks, _⟩ := checking session node
    obtain ⟨kept, unrecorded⟩ := session.check_unlearned env node first
    have remaining := inductionHypothesis (change session node) (by rw [checks, later])
    rw [config, history, kept, unrecorded] at remaining
    exact remaining

end Checking

/-- The validating loop never fails.

Proof: induct on the nodes with the session arbitrary, by the outcome of the first
check. -/
theorem validate_eq (nodes : List NodeConfig) (session : Session) :
    validateAndUpdatePins env nodes session =
      (.ok (env.learnsAny session.checks nodes), nodes.foldl (Session.check env) session) := by
  induction nodes generalizing session with
  | nil => rfl
  | cons node rest inductionHypothesis =>
    rw [List.foldl_cons, Environment.learnsAny]
    cases found : env.outcome session.checks node with
    | error err =>
      simp [validateAndUpdatePins, checkPin, Session.check, Environment.learns, found,
        inductionHypothesis]
    | ok outcome =>
      cases outcome with
      | matched =>
        simp [validateAndUpdatePins, checkPin, Session.check, Environment.learns, found,
          inductionHypothesis]
      | learned fingerprint =>
        simp [validateAndUpdatePins, checkPin, Session.check, Environment.learns, found,
          inductionHypothesis]

theorem sendEach_eq (request : Request) (addresses : List String) (session : Session) :
    sendEach request addresses session = (.ok (), addresses.foldl (Session.sent request) session) := by
  induction addresses generalizing session with
  | nil => rfl
  | cons address rest inductionHypothesis =>
    simp [sendEach, send, Session.sent, inductionHypothesis]

/-- Requests change nothing but the events. -/
theorem sent_fold (request : Request) (addresses : List String) (session : Session) :
    (addresses.foldl (Session.sent request) session).history = session.history ∧
      (addresses.foldl (Session.sent request) session).file = session.file := by
  induction addresses generalizing session with
  | nil => exact ⟨rfl, rfl⟩
  | cons address rest inductionHypothesis =>
    simp [inductionHypothesis]

/-- The version loop never fails. -/
theorem queryVersions_eq (nodes : List NodeConfig) (session : Session) :
    queryVersions env nodes session =
      (.ok (env.learnsAny session.checks nodes), nodes.foldl (Session.query env) session) := by
  induction nodes generalizing session with
  | nil => rfl
  | cons node rest inductionHypothesis =>
    rw [List.foldl_cons, Environment.learnsAny]
    cases found : env.outcome session.checks node with
    | error err =>
      simp [queryVersions, checkPin, Session.query, Session.check, Environment.learns, found,
        inductionHypothesis]
    | ok outcome =>
      cases outcome with
      | matched =>
        simp [queryVersions, checkPin, send, Session.query, Session.sent, Session.check,
          Environment.learns, found, inductionHypothesis]
      | learned fingerprint =>
        simp [queryVersions, checkPin, send, Session.query, Session.sent, Session.check,
          Session.learn, Environment.learns, found, inductionHypothesis]

/-- A session that has checked these nodes, and has then saved what was learned. -/
def Ran (session : Session) (nodes : List NodeConfig) (final : Session) : Prop :=
  ∃ change, Checking env change ∧
    final.history = (nodes.foldl change session).history ∧
    (env.saveFault ≠ none → final.file = session.file) ∧
    (env.saveFault = none → final.file = some (nodes.foldl change session).config ∨
      final.file = session.file ∧ (nodes.foldl change session).config = session.config)

theorem contactEach_ran (request : Request) (nodes : List NodeConfig) (addresses : List String)
    (session : Session) :
    Ran env session nodes (contactEach env request nodes addresses session).2 := by
  have file := checking_file (check_checking env) nodes session
  refine ⟨Session.check env, check_checking env, ?_⟩
  cases learned : env.learnsAny session.checks nodes with
  | false =>
    have kept := (checking_unlearned (check_checking env) nodes session learned).1
    cases client : env.clientFault with
    | some err => simp [contactEach, validate_eq, learned, client, file, kept]
    | none =>
      simp [contactEach, validate_eq, learned, client, sendEach_eq, sent_fold, file, kept]
  | true =>
    cases save : env.saveFault with
    | some err => simp [contactEach, validate_eq, learned, saveConfig, save, file]
    | none =>
      cases client : env.clientFault with
      | some err => simp [contactEach, validate_eq, learned, saveConfig, save, client]
      | none =>
        simp [contactEach, validate_eq, learned, saveConfig, save, client, sendEach_eq, sent_fold]

/-- The version command checks all entries, once it has a client. -/
theorem runVersion_ran (session : Session) (built : env.clientFault = none) :
    Ran env session session.config.active (runVersion env session).2 := by
  refine ⟨Session.query env, query_checking env, ?_⟩
  cases found : session.config.profiles session.config.activeProfile with
  | none => simp [runVersion, found, Config.active, ProfileConfig.default]
  | some profile =>
    have entries : session.config.active = profile.nodes := by simp [Config.active, found]
    have file := checking_file (query_checking env) profile.nodes session
    rw [entries]
    cases learned : env.learnsAny session.checks profile.nodes with
    | false =>
      have kept := (checking_unlearned (query_checking env) profile.nodes session learned).1
      simp [runVersion, found, built, queryVersions_eq, learned, file, kept]
    | true =>
      cases save : env.saveFault with
      | some err => simp [runVersion, found, built, queryVersions_eq, learned, saveConfig, save, file]
      | none => simp [runVersion, found, built, queryVersions_eq, learned, saveConfig, save]

theorem runVersion_idle (session : Session) (unbuilt : env.clientFault ≠ none) :
    (runVersion env session).2 = session := by
  cases client : env.clientFault with
  | none => exact absurd client unbuilt
  | some err =>
    cases found : session.config.profiles session.config.activeProfile <;>
      simp [runVersion, found, client]

section Node

variable (session : Session)

/-- The targets that the node command goes on to contact. -/
def NodeContacts (args : NodeArgs) (config : Config) (targets : List NodeConfig) : Prop :=
  (args.fullUpgrade = true ∨ args.reboot = true) ∧ (args.dryRun = true → args.fullUpgrade = true) ∧
    args.list = false ∧ resolveProfileNodes args.nodes config = .ok targets ∧ targets ≠ []

theorem runNode_contacts {args : NodeArgs} {targets : List NodeConfig}
    (contacts : NodeContacts args session.config targets) :
    runNode env args session =
      contactEach env args.request targets (targets.map (·.address)) session := by
  obtain ⟨asked, dry, shown, resolved, present⟩ := contacts
  have flags : (!args.fullUpgrade && !args.reboot && !args.list) = false := by
    obtain given | given := asked <;> simp [given]
  have dryRun : (args.dryRun && !args.fullUpgrade) = false := by
    cases given : args.dryRun with
    | false => rfl
    | true => simp [dry given]
  simp only [runNode, flags, dryRun, Bool.false_eq_true, if_false]
  simp [resolved, shown, present]

theorem runNode_idle {args : NodeArgs}
    (idle : ∀ targets, ¬ NodeContacts args session.config targets) :
    (runNode env args session).2 = session := by
  unfold runNode
  by_cases flags : (!args.fullUpgrade && !args.reboot && !args.list) = true
  · rw [if_pos flags, fail_apply]
  · rw [if_neg flags]
    by_cases dryRun : (args.dryRun && !args.fullUpgrade) = true
    · rw [if_pos dryRun, fail_apply]
    · rw [if_neg dryRun, bind_apply, read_apply]
      cases resolved : resolveProfileNodes args.nodes session.config with
      | error err => simp [resolved]
      | ok targets =>
        by_cases skipped : (targets.isEmpty || args.list) = true
        · simp only [resolved, skipped, if_true, pure_apply]
        · obtain ⟨present, shown⟩ : targets ≠ [] ∧ args.list = false := by simpa using skipped
          have asked : args.fullUpgrade = true ∨ args.reboot = true := by
            by_cases given : args.fullUpgrade = true
            · exact .inl given
            · simpa [given, shown] using flags
          have dry : args.dryRun = true → args.fullUpgrade = true := by simpa using dryRun
          exact absurd ⟨asked, dry, shown, resolved, present⟩ (idle targets)

end Node

/-- The first of the entries with a property. -/
def FirstWith (property : NodeConfig → Prop) (entries : List NodeConfig) (node : NodeConfig) : Prop :=
  ∃ before after, entries = before ++ node :: after ∧ property node ∧
    ∀ earlier ∈ before, ¬ property earlier

/-- What `find?` finds is the first one. -/
theorem found_iff (property : NodeConfig → Bool) (entries : List NodeConfig) (node : NodeConfig) :
    entries.find? property = some node ↔ FirstWith (property · = true) entries node := by
  rw [List.find?_eq_some_iff_append]
  constructor
  · rintro ⟨has, before, after, split, earlier⟩
    exact ⟨before, after, split, has, fun other member => by simpa using earlier other member⟩
  · rintro ⟨before, after, split, has, earlier⟩
    exact ⟨has, before, after, split, fun other member => by simpa using earlier other member⟩

section Called

/-- The entries that a node command is for: without names the whole profile, else for
each name the first entry that is called so. -/
def NodeArgs.Calls (args : NodeArgs) (entries : List NodeConfig) (node : NodeConfig) : Prop :=
  args.nodes = [] ∧ node ∈ entries ∨
    ∃ nodeName ∈ args.nodes, FirstWith (isCalled nodeName · = true) entries node

/-- A node command goes on to its nodes if its flags ask for a request and allow it, and
each name calls an entry. -/
structure NodeArgs.Proceeds (args : NodeArgs) (entries : List NodeConfig) : Prop where
  asked : args.fullUpgrade = true ∨ args.reboot = true
  dry : args.dryRun = true → args.fullUpgrade = true
  shown : args.list = false
  known : ∀ nodeName ∈ args.nodes, ∃ node ∈ entries, isCalled nodeName node = true

/-- The matched entries are the first ones for the names. -/
theorem mem_matchNodes {profileName : String} {entries matched : List NodeConfig} {names : List String}
    (resolved : matchNodes profileName entries names = .ok matched) (node : NodeConfig) :
    node ∈ matched ↔ ∃ nodeName ∈ names, FirstWith (isCalled nodeName · = true) entries node := by
  induction names generalizing matched with
  | nil =>
    obtain rfl := Except.ok.inj resolved
    simp
  | cons nodeName rest inductionHypothesis =>
    cases found : entries.find? (isCalled nodeName) with
    | none => simp [matchNodes, found] at resolved
    | some first =>
      cases others : matchNodes profileName entries rest with
      | error err => simp [matchNodes, found, others, Except.map] at resolved
      | ok remaining =>
        obtain rfl : first :: remaining = matched := by
          simpa [matchNodes, found, others, Except.map] using resolved
        simp only [List.mem_cons, inductionHypothesis others, exists_eq_or_imp, ← found_iff, found,
          Option.some.injEq]
        exact or_congr_left eq_comm

/-- Names are matched exactly if each of them calls an entry. -/
theorem matchNodes_ok (profileName : String) (entries : List NodeConfig) (names : List String) :
    (∃ matched, matchNodes profileName entries names = .ok matched) ↔
      ∀ nodeName ∈ names, ∃ node ∈ entries, isCalled nodeName node = true := by
  induction names with
  | nil => simp [matchNodes]
  | cons nodeName rest inductionHypothesis =>
    rw [List.forall_mem_cons, ← inductionHypothesis, ← List.find?_isSome]
    cases found : entries.find? (isCalled nodeName) with
    | none => simp [matchNodes, found]
    | some first =>
      cases others : matchNodes profileName entries rest <;>
        simp [matchNodes, found, others, Except.map]

variable {args : NodeArgs} {config : Config}

theorem mem_resolved {targets : List NodeConfig}
    (resolved : resolveProfileNodes args.nodes config = .ok targets) (node : NodeConfig) :
    node ∈ targets ↔ args.Calls config.active node := by
  unfold resolveProfileNodes at resolved
  cases present : config.profiles config.activeProfile with
  | none => simp [present] at resolved
  | some profile =>
    have entries : config.active = profile.nodes := by simp [Config.active, present]
    rw [NodeArgs.Calls, entries]
    by_cases unnamed : args.nodes = []
    · simp [present, unnamed] at resolved
      simp [unnamed, resolved]
    · simp only [present, unnamed, if_false] at resolved
      simp [unnamed, mem_matchNodes resolved]

/-- Names resolve exactly if the active profile exists and each of them calls an entry. -/
theorem resolved_iff : (∃ targets, resolveProfileNodes args.nodes config = .ok targets) ↔
    (config.profiles config.activeProfile).isSome = true ∧
      ∀ nodeName ∈ args.nodes, ∃ node ∈ config.active, isCalled nodeName node = true := by
  unfold resolveProfileNodes
  cases present : config.profiles config.activeProfile with
  | none => simp
  | some profile =>
    have entries : config.active = profile.nodes := by simp [Config.active, present]
    rw [entries, ← matchNodes_ok config.activeProfile]
    by_cases unnamed : args.nodes = [] <;> simp [unnamed, matchNodes]

/-- The targets of a command that goes on are the entries that it is for. -/
theorem nodeContacts_calls {targets : List NodeConfig} (contacts : NodeContacts args config targets) :
    args.Proceeds config.active ∧ ∀ node, node ∈ targets ↔ args.Calls config.active node := by
  obtain ⟨asked, dry, shown, resolved, _⟩ := contacts
  exact ⟨⟨asked, dry, shown, (resolved_iff.mp ⟨targets, resolved⟩).2⟩, mem_resolved resolved⟩

theorem proceeds_contacts (proceeds : args.Proceeds config.active) {node : NodeConfig}
    (called : args.Calls config.active node) : ∃ targets, NodeContacts args config targets := by
  have present : (config.profiles config.activeProfile).isSome = true := by
    cases present : config.profiles config.activeProfile with
    | some profile => rfl
    | none =>
      have empty : config.active = [] := by simp [Config.active, present, ProfileConfig.default]
      obtain ⟨_, member⟩ | ⟨_, _, before, after, split, _⟩ := called
      · simp [empty] at member
      · simp [empty] at split
  obtain ⟨targets, resolved⟩ := resolved_iff.mpr ⟨present, proceeds.known⟩
  have member := (mem_resolved resolved node).mpr called
  exact ⟨targets, proceeds.asked, proceeds.dry, proceeds.shown, resolved, List.ne_nil_of_mem member⟩

/-- A command that was to send requests and ends well has gone on to its nodes. -/
theorem ended_proceeds (session : Session) (asked : args.fullUpgrade = true ∨ args.reboot = true)
    (shown : args.list = false) (ended : (runNode env args session).1 = .ok ()) :
    args.Proceeds session.config.active := by
  have flags : (!args.fullUpgrade && !args.reboot && !args.list) = false := by
    obtain given | given := asked <;> simp [given]
  have dryRun : (args.dryRun && !args.fullUpgrade) = false := by
    by_contra given
    have refused : (args.dryRun && !args.fullUpgrade) = true := by simpa using given
    simp [runNode, flags, refused] at ended
  simp only [runNode, flags, dryRun, Bool.false_eq_true, if_false, bind_apply, read_apply] at ended
  cases resolved : resolveProfileNodes args.nodes session.config with
  | error err => simp [resolved] at ended
  | ok targets =>
    exact ⟨asked, by simpa using dryRun, shown, (resolved_iff.mp ⟨targets, resolved⟩).2⟩

end Called

section Status

/-- The address that a target stands for: that of the first entry with this name or
address, or the target itself where there is none. -/
inductive StandsFor (profileNodes : List NodeConfig) (target : String) : String → Prop where
  | entry {node : NodeConfig}
      (first : FirstWith (fun node => node.address = target ∨ node.name = some target) profileNodes node) :
      StandsFor profileNodes target node.address
  | itself (unknown : ∀ node ∈ profileNodes, ¬ (node.address = target ∨ node.name = some target)) :
      StandsFor profileNodes target target

theorem standsFor_iff (profileNodes : List NodeConfig) (target address : String) :
    StandsFor profileNodes target address ↔ targetAddress profileNodes target = address := by
  have first (node : NodeConfig) := found_iff
    (fun node => node.address = target || node.name = some target) profileNodes node
  simp only [Bool.or_eq_true, decide_eq_true_eq] at first
  cases found : profileNodes.find? fun node => node.address = target || node.name = some target with
  | some chosen =>
    have there : targetAddress profileNodes target = chosen.address := by simp [targetAddress, found]
    have isFirst := (first chosen).mp found
    rw [there]
    constructor
    · rintro (⟨other⟩ | unknown)
      · exact congrArg _ (Option.some.inj (found.symm.trans ((first _).mpr other)))
      · obtain ⟨before, after, split, has, _⟩ := isFirst
        exact absurd has (unknown chosen (by simp [split]))
    · rintro rfl
      exact .entry isFirst
  | none =>
    have there : targetAddress profileNodes target = target := by simp [targetAddress, found]
    have absent : ∀ node ∈ profileNodes, ¬ (node.address = target ∨ node.name = some target) := by
      simpa using found
    rw [there]
    constructor
    · rintro (⟨before, after, split, has, _⟩ | _)
      · exact absurd has (absent _ (by simp [split]))
      · rfl
    · rintro rfl
      exact .itself absent

/-- An address that the status command is asked for: what a target stands for, or, with
neither targets nor discovery, that of any entry. -/
inductive Asked (args : StatusArgs) (profileNodes : List NodeConfig) : String → Prop where
  | argument {target address : String} (given : target ∈ args.targets)
      (stands : StandsFor profileNodes target address) : Asked args profileNodes address
  | profile {node : NodeConfig} (noTargets : args.targets = []) (notAll : args.discoverAll = false)
      (member : node ∈ profileNodes) : Asked args profileNodes node.address

/-- An address that the status command is to discover, and does. -/
def Discovered (env : Environment) (args : StatusArgs) (address : String) : Prop :=
  args.discoverAll = true ∧ ∃ found name, env.discovered = .ok found ∧ (address, name) ∈ found

variable (args : StatusArgs) (profileNodes : List NodeConfig)

theorem mem_initialTargets (address : String) :
    address ∈ initialTargets args profileNodes ↔ Asked args profileNodes address := by
  have named : (args.targets.map (targetAddress profileNodes)).dedup = [] ↔ args.targets = [] := by
    rw [List.dedup_eq_nil, List.map_eq_nil_iff]
  by_cases whole : args.targets = [] ∧ args.discoverAll = false
  · simp only [initialTargets, whole.1, whole.2, List.map_nil, List.dedup_nil, decide_true, Bool.not_false,
      Bool.and_self, if_true, List.mem_dedup, List.mem_map]
    constructor
    · rintro ⟨node, member, rfl⟩
      exact .profile whole.1 whole.2 member
    · rintro (⟨given, _⟩ | ⟨_, _, member⟩)
      · simp [whole.1] at given
      · exact ⟨_, member, rfl⟩
  · have explicit : ¬ ((args.targets.map (targetAddress profileNodes)).dedup = [] &&
        !args.discoverAll) = true := by
      simpa [named] using whole
    rw [initialTargets, if_neg explicit, List.mem_dedup, List.mem_map]
    constructor
    · rintro ⟨target, given, there⟩
      exact .argument given ((standsFor_iff profileNodes target address).mpr there)
    · rintro (⟨given, stands⟩ | ⟨noTargets, notAll, _⟩)
      · exact ⟨_, given, (standsFor_iff profileNodes _ address).mp stands⟩
      · exact absurd ⟨noTargets, notAll⟩ whole

theorem mem_discoveredTargets (address : String) :
    (∃ target ∈ discoveredTargets env args, target.address = address) ↔ Discovered env args address := by
  unfold discoveredTargets Discovered
  cases args.discoverAll with
  | false => simp
  | true => cases env.discovered <;> simp

/-- The queue holds the addresses that are asked for and those that are discovered. -/
theorem mem_statusQueue (address : String) :
    address ∈ (statusQueue env args profileNodes).map (·.address) ↔
      Asked args profileNodes address ∨ Discovered env args address := by
  rw [← mem_initialTargets, ← mem_discoveredTargets env]
  simp [statusQueue]

/-- The entries that are checked are those whose address is asked for. -/
theorem mem_nodesToValidate (node : NodeConfig) :
    node ∈ nodesToValidate args profileNodes ↔
      node ∈ profileNodes ∧ Asked args profileNodes node.address := by
  rw [← mem_initialTargets]
  by_cases empty : initialTargets args profileNodes = []
  · have unasked : ¬ (node ∈ profileNodes ∧ args.discoverAll = false) := by
      rintro ⟨member, notAll⟩
      have noTargets : args.targets = [] := by
        by_contra given
        simp [initialTargets, given] at empty
      have asked := (mem_initialTargets args profileNodes node.address).mpr (.profile noTargets notAll member)
      simp [empty] at asked
    cases all : args.discoverAll with
    | true => simp [nodesToValidate, empty, all]
    | false => simpa [nodesToValidate, empty, all] using unasked
  · simp [nodesToValidate, empty]

end Status

end Brewmble.CliCommands
