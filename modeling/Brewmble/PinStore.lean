import Brewmble.CliSteps
import Brewmble.Execution
import Brewmble.Lasting

/-!
# Stored fingerprints over sequences of commands

An entry of the active profile is followed by its position. Its fingerprint should
last while its address stays. Merging keeps this: an entry loses its fingerprint
only with its address. Writing back a learned fingerprint does not: it goes to the
first entry at the address, which need not be the entry that was checked. Where two
entries share an address, a fingerprint learned for the second replaces the one that
is stored on the first.

The history of a sequence of commands is every state of the entries while the
commands ran whose changes were saved. The fingerprints last in it exactly when no
check learns a fingerprint for an address whose first entry has a different one.
-/

namespace Brewmble.PinStore

open CliConfig Pin CliCommands Fallible Lasting ResolveUrl

section Entries

/-- The address at a position, if there is an entry. -/
def addressAt (position : Nat) (nodes : List NodeConfig) : Option String :=
  nodes[position]?.map (·.address)

/-- The fingerprint at a position, if there is an entry that has one. -/
def pinAt (position : Nat) (nodes : List NodeConfig) : Option String :=
  nodes[position]?.bind (·.fingerprint)

/-- At every position the fingerprint lasts while the address stays. -/
def PinsLast (history : List (List NodeConfig)) : Prop :=
  ∀ position, Lasts (addressAt position) (pinAt position) history

/-- At every position the fingerprint is kept unless the address changes. -/
def KeepsPins (before after : List NodeConfig) : Prop :=
  ∀ position, Keeps (addressAt position) (pinAt position) before after

theorem pinsLast_iff_chain (history : List (List NodeConfig)) :
    PinsLast history ↔ history.IsChain KeepsPins := by
  simp only [PinsLast, lasts_iff_chain, List.isChain_iff_forall_rel_of_append_cons_cons]
  constructor
  · intro kept before after first second split position
    exact kept position split
  · intro kept position before after first second split
    exact kept split position

theorem keepsPins_refl (nodes : List NodeConfig) : KeepsPins nodes nodes :=
  fun _ => keeps_of_same rfl

/-- The fingerprint may be learned: if the address has a first entry and this has a
fingerprint, it is the same one. -/
def Spared (address fingerprint : String) (nodes : List NodeConfig) : Prop :=
  ∀ first, nodes.find? (·.address = address) = some first →
    ∀ pin, first.fingerprint = some pin → pin = fingerprint

/-- Writing a fingerprint to the first entry at an address keeps all others. It
keeps every fingerprint exactly when that entry has none or the same. -/
theorem pinFirst_keeps_iff (address fingerprint : String) (nodes : List NodeConfig) :
    KeepsPins nodes (pinFirst address fingerprint nodes) ↔ Spared address fingerprint nodes := by
  unfold Spared pinFirst
  rw [List.find?_eq_getElem?_findIdx]
  constructor
  · intro kept first found pin stored
    have after := kept (nodes.findIdx (·.address = address)) first.address pin
    have same : fingerprint = pin := by simpa [addressAt, pinAt, found, stored] using after
    exact same.symm
  · intro spared position stays held present holds _
    by_cases same : nodes.findIdx (·.address = address) = position
    · subst same
      cases found : nodes[nodes.findIdx (·.address = address)]? with
      | none => simp [pinAt, found] at holds
      | some first =>
        have stored : first.fingerprint = some held := by simpa [pinAt, found] using holds
        simp [pinAt, found, spared first found held stored]
    · simpa [pinAt, same] using holds

/-- A merged daemon takes no fingerprint from an entry whose address stays.

Proof: the entry it belongs to either keeps its address and with it the fingerprint,
or moves. No other position changes, and a new entry had none. -/
theorem mergeNode_keeps (addr id : String) (nodes : List NodeConfig) :
    KeepsPins nodes (mergeNode addr id nodes).1 := by
  intro position
  cases found : foundIndex nodes addr (newName id) with
  | none =>
    simp only [mergeNode, found]
    intro stays held present holds _
    cases listed : nodes[position]? with
    | none => simp [addressAt, listed] at present
    | some node =>
      have inside : position < nodes.length := (List.getElem?_eq_some_iff.mp listed).1
      simpa [pinAt, List.getElem?_append_left inside] using holds
  | some index =>
    simp only [mergeNode, found]
    by_cases same : index = position
    · subst same
      cases listed : nodes[index]? with
      | none =>
        apply keeps_of_same
        simp [pinAt, listed]
      | some node =>
        by_cases remains : node.address = addr
        · apply keeps_of_same
          simp [pinAt, listed, NodeConfig.merged, remains]
        · apply keeps_of_moved
          intro stays present after
          have old : node.address = stays := by simpa [addressAt, listed] using present
          have new : addr = stays := by simpa [addressAt, listed, NodeConfig.merged] using after
          exact remains (old.trans new.symm)
    · apply keeps_of_same
      simp [pinAt, same]

end Entries

section Checks

variable (env : Environment)

/-- The entries and the number of checks so far. -/
structure Moment where
  entries : List NodeConfig
  checks : Nat

def Session.moment (session : Session) : Moment := ⟨session.config.active, session.checks⟩

/-- The next moment, after one check. -/
def Moment.check (moment : Moment) (node : NodeConfig) : Option Moment :=
  match env.outcome moment.checks node with
  | .ok (.learned fingerprint) =>
    some ⟨pinFirst node.address fingerprint moment.entries, moment.checks + 1⟩
  | _ => some ⟨moment.entries, moment.checks + 1⟩

/-- Where the node has no fingerprint, the observed one may be learned. -/
def Spares (moment : Moment) (node : NodeConfig) : Prop :=
  node.fingerprint = none → ∀ observed,
    env.fetch moment.checks node.address (resolveUrl node.address) = .ok observed →
      Spared node.address observed moment.entries

/-- The last recorded entries are the current ones. -/
def UpToDate (session : Session) : Prop := session.history.getLast? = some session.config.active

variable {env} {change : Session → NodeConfig → Session}

/-- One check leads to the next moment and is recorded. What it keeps is what the
write keeps, if there is one. -/
theorem check_keeps_iff (checking : Checking env change) {session : Session} (node : NodeConfig)
    (upToDate : UpToDate session) :
    (Session.moment session).check env node = some (Session.moment (change session node)) ∧
      UpToDate (change session node) ∧
      ((change session node).history.IsChain KeepsPins ↔
        session.history.IsChain KeepsPins ∧ Spares env (Session.moment session) node) := by
  obtain ⟨config, history, checks, _⟩ := checking session node
  unfold UpToDate at upToDate ⊢
  unfold Session.moment Moment.check Spares
  rw [config, history, checks]
  by_cases learned : ∃ fingerprint, env.outcome session.checks node = .ok (.learned fingerprint)
  · obtain ⟨fingerprint, learned⟩ := learned
    obtain ⟨written, recorded⟩ := session.check_learned env node learned
    obtain ⟨unpinned, fetched⟩ := (learned_iff node node.address fingerprint _).mp learned
    refine ⟨by simp [learned, written, updateNodeFingerprint_active], ?_, ?_⟩
    · simp [written, recorded, updateNodeFingerprint_active]
    · rw [recorded, List.isChain_append]
      simp [upToDate, unpinned, fetched, pinFirst_keeps_iff]
  · have unlearned : env.learns session.checks node = false := by
      unfold Environment.learns
      split
      · exact absurd ⟨_, ‹_›⟩ learned
      · rfl
    obtain ⟨kept, unrecorded⟩ := session.check_unlearned env node unlearned
    have spares : node.fingerprint = none → ∀ observed,
        env.fetch session.checks node.address (resolveUrl node.address) = .ok observed →
          Spared node.address observed session.config.active := by
      intro unpinned observed fetched
      exact absurd ⟨observed, (learned_iff node node.address observed _).mpr ⟨unpinned, fetched⟩⟩
        learned
    refine ⟨?_, by rw [unrecorded, kept, upToDate], ?_⟩
    · rw [kept]
      split
      · exact absurd ⟨_, ‹_›⟩ learned
      · rfl
    · rw [unrecorded]
      exact ⟨fun chain => ⟨chain, spares⟩, fun both => both.1⟩

/-- A loop of checks keeps every fingerprint exactly when each check spares those
that are stored at its moment.

Proof: induct on the nodes with the session arbitrary; each check contributes its
own condition and leads to the moment of the next. -/
theorem checks_keep_iff (checking : Checking env change) (nodes : List NodeConfig)
    {session : Session} (upToDate : UpToDate session) :
    UpToDate (nodes.foldl change session) ∧
      ((nodes.foldl change session).history.IsChain KeepsPins ↔
        session.history.IsChain KeepsPins ∧
          Execution.Guarded (Moment.check env) (Spares env) (Session.moment session) nodes) := by
  induction nodes generalizing session with
  | nil => simp [upToDate, Execution.Guarded]
  | cons node rest inductionHypothesis =>
    obtain ⟨next, recorded, first⟩ := check_keeps_iff checking node upToDate
    obtain ⟨last, remaining⟩ := inductionHypothesis recorded
    refine ⟨last, ?_⟩
    rw [List.foldl_cons, remaining, first]
    simp only [Execution.Guarded, next, Option.some.injEq, forall_eq', and_assoc]

end Checks

section Merging

/-- The entries after each merged daemon, from the first on, keep their pins. -/
theorem mergeMoments_keep (discovered : List (String × String)) (nodes : List NodeConfig) :
    (nodes :: mergeMoments discovered nodes).IsChain KeepsPins := by
  induction discovered generalizing nodes with
  | nil => exact List.isChain_singleton nodes
  | cons found rest inductionHypothesis =>
    exact List.isChain_cons_cons.mpr
      ⟨mergeNode_keeps found.1 found.2 nodes, inductionHypothesis (mergeNode found.1 found.2 nodes).1⟩

theorem mergeMoments_last (discovered : List (String × String)) (config : Config) :
    (config.active :: mergeMoments discovered config.active).getLast? =
      some (mergeNodes config discovered).1.active := by
  rw [mergeNodes_active]
  generalize config.active = nodes
  induction discovered generalizing nodes with
  | nil => rfl
  | cons found rest inductionHypothesis =>
    rw [mergeMoments, List.getLast?_cons_cons, inductionHypothesis, List.foldl_cons]

variable (env : Environment)

/-- A session that has merged these daemons, and has then saved what changed. -/
def Merged (session : Session) (discovered : List (String × String)) (final : Session) : Prop :=
  final.history = session.history ++ mergeMoments discovered session.config.active ∧
    (env.saveFault ≠ none → final.file = session.file) ∧
    (env.saveFault = none → final.file = some (mergeNodes session.config discovered).1 ∨
      final.file = session.file ∧
        (mergeNodes session.config discovered).1.active = session.config.active)

theorem idle_merged (session : Session) : Merged env session [] session := by
  refine ⟨by simp [mergeMoments], fun _ => rfl, fun _ => .inr ⟨rfl, by simp [mergeNodes]⟩⟩

/-- Discovery merges what it found into a configuration that it has just loaded. -/
theorem runDiscover_merged (updateConfig : Bool) (file : Option Config) :
    ∃ discovered, Merged env (.begin file) discovered
      (runDiscover env updateConfig (.begin file)).2 := by
  cases found : env.discovered with
  | error err =>
    refine ⟨[], ?_⟩
    simpa [runDiscover, found] using idle_merged env (.begin file)
  | ok discovered =>
    cases updateConfig with
    | false =>
      refine ⟨[], ?_⟩
      simpa [runDiscover, found] using idle_merged env (.begin file)
    | true =>
      refine ⟨discovered, ?_⟩
      cases changed : (mergeNodes (loadConfig file) discovered).2 with
      | false =>
        have same := mergeNodes_unchanged (loadConfig file) discovered changed
        simp [Merged, runDiscover, found, Session.begin, changed, same]
      | true =>
        cases save : env.saveFault <;>
          simp [Merged, runDiscover, found, Session.begin, changed, saveConfig, save]

end Merging

section Commands

variable (env : Environment)

/-- The command checks these nodes in order. -/
def CommandChecks (config : Config) : Command → List NodeConfig → Prop
  | .node args, nodes => NodeContacts args config nodes
  | .status args, nodes => nodes = nodesToValidate args config.active
  | .version, nodes => env.clientFault = none ∧ nodes = config.active
  | .discover _, _ => False

/-- A command either checks nodes or merges daemons, maybe none. -/
theorem command_effect (command : Command) (file : Option Config) :
    (∃ nodes, CommandChecks env (loadConfig file) command nodes ∧
      Ran env (.begin file) nodes (runCommand env command (.begin file)).2) ∨
    ((∀ nodes, ¬ CommandChecks env (loadConfig file) command nodes) ∧
      ∃ discovered, Merged env (.begin file) discovered
        (runCommand env command (.begin file)).2) := by
  cases command with
  | node args =>
    by_cases contacts : ∃ nodes, NodeContacts args (loadConfig file) nodes
    · obtain ⟨nodes, contacts⟩ := contacts
      refine .inl ⟨nodes, contacts, ?_⟩
      rw [runCommand, runNode_contacts env (.begin file) contacts]
      exact contactEach_ran env args.request nodes _ (.begin file)
    · have idle : ∀ nodes, ¬ NodeContacts args (loadConfig file) nodes :=
        fun nodes contacted => contacts ⟨nodes, contacted⟩
      refine .inr ⟨idle, [], ?_⟩
      rw [runCommand, runNode_idle env (.begin file) idle]
      exact idle_merged env (.begin file)
  | status args =>
    exact .inl ⟨_, rfl, contactEach_ran env .status _ _ (.begin file)⟩
  | version =>
    by_cases built : env.clientFault = none
    · exact .inl ⟨_, ⟨built, rfl⟩, runVersion_ran env (.begin file) built⟩
    · refine .inr ⟨fun nodes checks => built checks.1, [], ?_⟩
      rw [runCommand, runVersion_idle env (.begin file) built]
      exact idle_merged env (.begin file)
  | discover updateConfig =>
    exact .inr ⟨fun nodes checks => checks, runDiscover_merged env updateConfig file⟩

theorem commandChecks_unique {config : Config} {command : Command} {nodes others : List NodeConfig}
    (first : CommandChecks env config command nodes)
    (second : CommandChecks env config command others) : nodes = others := by
  cases command with
  | node args => exact Except.ok.inj (first.2.2.2.1.symm.trans second.2.2.2.1)
  | status args => exact Eq.trans first (Eq.symm second)
  | version => exact first.2.trans second.2.symm
  | discover updateConfig => exact False.elim first

end Commands

section Runs

/-- One command with everything it depends on. -/
structure Step where
  env : Environment
  command : Command

/-- The session in which the command ends. -/
def Step.final (file : Option Config) (step : Step) : Session :=
  (runCommand step.env step.command (.begin file)).2

def advance (file : Option Config) (step : Step) : Option (Option Config) :=
  some (step.final file).file

/-- The entries at every moment of the commands whose changes were saved, and at
the end. -/
def timeline : Option Config → List Step → List (List NodeConfig)
  | file, [] => [(loadConfig file).active]
  | file, step :: rest =>
    (if step.env.saveFault = none then (step.final file).history else []) ++
      timeline (step.final file).file rest

/-- What is learned is saved to no entry with a different fingerprint: each check of
the command spares those stored at its moment. -/
def StepSpares (file : Option Config) (step : Step) : Prop :=
  step.env.saveFault = none →
    ∀ nodes, CommandChecks step.env (loadConfig file) step.command nodes →
      Execution.Guarded (Moment.check step.env) (Spares step.env) ⟨(loadConfig file).active, 0⟩ nodes

/-- A loaded configuration keeps the fingerprints of the file. -/
theorem reload_keeps (config : Config) :
    KeepsPins config.active (loadConfig (some config)).active := by
  obtain ⟨joined, loaded⟩ := loadConfig_active config
  rw [loaded]
  intro position stays held present holds _
  cases listed : config.active[position]? with
  | none => simp [addressAt, listed] at present
  | some node =>
    have inside : position < config.active.length := (List.getElem?_eq_some_iff.mp listed).1
    rw [pinAt, listed] at holds
    rw [pinAt, List.getElem?_map, List.getElem?_append_left inside, listed]
    exact holds

theorem begin_upToDate (file : Option Config) : UpToDate (.begin file) := rfl

/-- A command keeps every fingerprint while it runs exactly when each of its checks
spares those that are stored. -/
theorem command_keeps_iff (step : Step) (file : Option Config) :
    (step.final file).history.IsChain KeepsPins ↔
      ∀ nodes, CommandChecks step.env (loadConfig file) step.command nodes →
        Execution.Guarded (Moment.check step.env) (Spares step.env)
          ⟨(loadConfig file).active, 0⟩ nodes := by
  obtain ⟨nodes, checks, change, checking, history, _⟩ | ⟨idle, discovered, history, _⟩ :=
    command_effect step.env step.command file
  · have kept := (checks_keep_iff checking nodes (begin_upToDate file)).2
    have start : (Session.begin file).history.IsChain KeepsPins := List.isChain_singleton _
    rw [Step.final, history, kept]
    constructor
    · rintro ⟨_, guarded⟩ others contacted
      obtain rfl := commandChecks_unique step.env checks contacted
      exact guarded
    · intro spares
      exact ⟨start, spares nodes checks⟩
  · rw [Step.final, history]
    constructor
    · intro _ nodes checks
      exact absurd checks (idle nodes)
    · intro _
      exact mergeMoments_keep discovered (loadConfig file).active

/-- A command records first what it has loaded. -/
theorem command_first (step : Step) (file : Option Config) :
    (step.final file).history.head? = some (loadConfig file).active := by
  obtain ⟨nodes, _, change, checking, history, _⟩ | ⟨_, discovered, history, _⟩ :=
    command_effect step.env step.command file
  · obtain ⟨later, appended⟩ := checking_history checking nodes (.begin file)
    rw [Step.final, history, ← appended]
    rfl
  · rw [Step.final, history]
    rfl

/-- What a saved command records last is kept when the file is loaded again. -/
theorem command_last (step : Step) (file : Option Config) (saves : step.env.saveFault = none) :
    ∃ last, (step.final file).history.getLast? = some last ∧
      KeepsPins last (loadConfig (step.final file).file).active := by
  obtain ⟨nodes, _, change, checking, history, _, saved⟩ | ⟨_, discovered, history, _, saved⟩ :=
    command_effect step.env step.command file
  · have last := (checks_keep_iff checking nodes (begin_upToDate file)).1
    refine ⟨_, (congrArg List.getLast? history).trans last, ?_⟩
    obtain written | ⟨unchanged, same⟩ := saved saves
    · rw [Step.final, written]
      exact reload_keeps _
    · rw [Step.final, unchanged, same]
      exact keepsPins_refl _
  · have last := mergeMoments_last discovered (loadConfig file)
    refine ⟨_, (congrArg List.getLast? history).trans last, ?_⟩
    obtain written | ⟨unchanged, same⟩ := saved saves
    · rw [Step.final, written]
      exact reload_keeps _
    · have loaded : (mergeNodes (loadConfig file) discovered).1.active = (loadConfig file).active :=
        same
      rw [Step.final, unchanged, loaded]
      exact keepsPins_refl _

theorem command_unsaved (step : Step) (file : Option Config) (fails : step.env.saveFault ≠ none) :
    (step.final file).file = file := by
  obtain ⟨nodes, _, change, checking, _, unsaved, _⟩ | ⟨_, discovered, _, unsaved, _⟩ :=
    command_effect step.env step.command file
  · exact unsaved fails
  · exact unsaved fails

theorem timeline_first (steps : List Step) (file : Option Config) :
    (timeline file steps).head? = some (loadConfig file).active := by
  induction steps generalizing file with
  | nil => rfl
  | cons step rest inductionHypothesis =>
    by_cases saves : step.env.saveFault = none
    · rw [timeline, if_pos saves, List.head?_append, command_first]
      rfl
    · rw [timeline, if_neg saves, List.nil_append, inductionHypothesis, command_unsaved step file saves]

/-- In a sequence of commands every fingerprint that is stored lasts while the
address of its entry stays exactly when each check, in the state it finds, learns no
fingerprint for an address whose first entry has a different one.

Proof: induct on the commands. What one command records is linked to what the next
one loads, so only the checks of a command can break the chain. -/
theorem pins_last_iff (file : Option Config) (steps : List Step) :
    PinsLast (timeline file steps) ↔ Execution.Guarded advance StepSpares file steps := by
  rw [pinsLast_iff_chain]
  induction steps generalizing file with
  | nil => simp [timeline, Execution.Guarded]
  | cons step rest inductionHypothesis =>
    simp only [Execution.Guarded, advance, Option.some.injEq, forall_eq', StepSpares]
    rw [timeline, ← inductionHypothesis, ← command_keeps_iff]
    by_cases saves : step.env.saveFault = none
    · obtain ⟨last, recorded, linked⟩ := command_last step file saves
      rw [if_pos saves, List.isChain_append]
      simp [saves, recorded, timeline_first, linked]
    · simp [saves]

/-- Two nodes, of which the first is pinned. -/
def twoNodes : Config where
  activeProfile := "default"
  profiles name :=
    if name = "default" then
      some ⟨[⟨some "web", "10.0.0.2:3625", some "aa:01"⟩, ⟨some "db", "10.0.0.3:3625", none⟩]⟩
    else none
  nodes := []

/-- The second node now has the address of the first. -/
def movedEnvironment : Environment where
  fetch _ _ _ := .ok "bb:02"
  saveFault := none
  clientFault := none
  discovered := .ok [("10.0.0.2:3625", "db")]
  schedule := ⟨id, fun targets => List.Perm.refl targets⟩

/-- After a node was found at the address of another, the version command refuses
the other one and then gives it the new fingerprint. -/
theorem moved_node_overwrites_pin :
    ¬ ∀ (file : Option Config) (steps : List Step), PinsLast (timeline file steps) := by
  intro claimed
  have lasts := claimed (some twoNodes)
    [⟨movedEnvironment, .discover true⟩, ⟨movedEnvironment, .version⟩] 0
  have pinned : some "bb:02" = some "aa:01" :=
    lasts [⟨some "web", "10.0.0.2:3625", some "aa:01"⟩, ⟨some "db", "10.0.0.2:3625", none⟩] []
      [⟨some "web", "10.0.0.2:3625", some "bb:02"⟩, ⟨some "db", "10.0.0.2:3625", none⟩]
      (by decide) "10.0.0.2:3625" "aa:01" rfl (by decide)
  exact absurd pinned (by decide)

end Runs

end Brewmble.PinStore
