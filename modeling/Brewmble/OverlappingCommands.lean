import Brewmble.CommandRuns
import Brewmble.Writebacks

/-!
# Commands that run at the same time

A command loads the configuration when it begins, or, when it merges what it has
discovered, after its discovery. It may save the configuration once, when it has checked
the nodes that it wants. Nothing keeps other commands from saving in between; what they
have saved is then replaced by a configuration that does not have it.

So commands that overlap are not as good as commands one after another, but what is in
the file in the end is what some of them make of the first file, one after another. The
laws for sequences of commands hold for these.

Loading and saving are one step each here. This is the condition under which all of it
holds: no save begins while another one is writing, since all of them write the same
temporary file, and a save that fails or dies leaves the file as it was. Saves that
overlap are the subject of the configuration writes; they may leave an empty file. A
command that changes nothing may save what it has loaded or not.
-/

namespace Brewmble.OverlappingCommands

open CliConfig CliCommands CommandRuns Execution NormalConfig RepinnedEntry Writebacks

/-- What the command with this number saves after it has loaded a file. -/
def saves (steps : Nat → CliStep) (number : Nat) (file : Option Config) : Option Config :=
  (steps number).after file

theorem makeAll_saves (steps : Nat → CliStep) (file : Option Config) (numbers : List Nat) :
    makeAll (saves steps) file numbers = (numbers.map steps).foldl CliStep.after file := by
  rw [makeAll, List.foldl_map]
  rfl

/-- What commands make of a configuration file when they overlap, but not their saves: each
loads the file at any time, and saves at any time after, in one step, or never.

The file holds what some of the commands that have saved make of the first file one after
another, in the order of their saves; these are all that have saved exactly if no save came
between the load and the save of another. In any case the file is the first one or in
normal form, and what it is loaded as extends the default profile of the first: its entries
are there, in their positions, changed only by daemons of their name or address, and those
after them were merged by these commands. -/
theorem overlapping_commands (steps : Nat → CliStep) (file : Option Config) (events : List Writebacks.Event)
    (state : State (Option Config))
    (completed : run (next (saves steps)) (start file) events = some state) :
    state.content = (state.made.map steps).foldl CliStep.after file ∧
    state.made.Sublist state.written ∧ state.written.Nodup ∧
    (state.made = state.written ↔ Guarded (next (saves steps)) Fresh (start file) events) ∧
    (state.content = file ∨ ∃ saved, state.content = some saved ∧ Normal saved) ∧
    Extends (Found (state.made.map steps)) (entriesOf (loadConfig file) defaultProfileName)
      (entriesOf (loadConfig state.content) defaultProfileName) := by
  obtain ⟨made, sublist, distinct, fresh⟩ := written_back completed
  rw [makeAll_saves] at made
  have saves := run_saves (state.made.map steps) file
  rw [← made] at saves
  refine ⟨made, sublist, distinct, fresh, ?_, (saves_progress saves).extended⟩
  obtain unchanged | ⟨saved, written, progress⟩ := saves
  · exact .inl unchanged
  · exact .inr ⟨saved, written, progress.normal⟩

/-- Two nodes whose certificates have been renewed. -/
def twoPinned : Config where
  activeProfile := "default"
  profiles name :=
    if name = "default" then
      some ⟨[⟨some "web", "10.0.0.2:3625", some "aa:01"⟩, ⟨some "db", "10.0.0.3:3625", some "cc:03"⟩]⟩
    else none
  nodes := []

theorem repin_hears (name : String) : renewed.discovered = Except.map (heard (.repin name)) (.ok []) := rfl

/-- The first is repinned by the command 0, the second by all others. -/
def repins (number : Nat) : CliStep where
  env := renewed
  command := .repin (if number = 0 then "web" else "db")
  events := .ok []
  hears := repin_hears _

/-- The second repin has loaded the file before the first has saved, and takes it back. -/
theorem repin_undone : ∃ state,
    run (next (saves repins)) (start (some twoPinned)) [.read 0, .read 1, .wrote 0, .wrote 1] = some state ∧
      state.written = [0, 1] ∧ state.content = (repins 1).after (some twoPinned) ∧
      state.content.map Config.active =
        some [⟨some "web", "10.0.0.2:3625", some "aa:01"⟩, ⟨some "db", "10.0.0.3:3625", some "bb:02"⟩] := by
  refine ⟨_, rfl, rfl, ?_, by decide⟩
  exact (overlapping_commands repins (some twoPinned) [.read 0, .read 1, .wrote 0, .wrote 1] _ rfl).1

end Brewmble.OverlappingCommands
