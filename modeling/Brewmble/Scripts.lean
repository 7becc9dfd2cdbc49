/-!
# Scripts of commands

A script is done with a value, or it gives a command and goes on by the reply to it.
Which replies come is left open: a script is played against a list of them, and its
trace is the list of its commands with the replies that they got.

A sequence of scripts is played by playing one after the other, and every play can be
continued until the script is done. So what is known of all complete traces is known of
the beginning of one.
-/

namespace Brewmble.Scripts

universe u v w z

inductive Script (Command : Type u) (Reply : Type v) (Value : Type w) where
  | done (value : Value)
  | perform (command : Command) (next : Reply → Script Command Reply Value)

variable {Command : Type u} {Reply : Type v} {Value : Type w} {Last : Type z}

/-- Go on with another script where the first one is done. -/
def Script.andThen : Script Command Reply Value → (Value → Script Command Reply Last) →
    Script Command Reply Last
  | .done value, next => next value
  | .perform command rest, next => .perform command fun reply => (rest reply).andThen next

/-- The command that is given first, if any. -/
def Script.first : Script Command Reply Value → Option Command
  | .done _ => none
  | .perform command _ => some command

/-- The script with each command replied to like this: its trace and its value. -/
def Script.answer (reply : Command → Reply) :
    Script Command Reply Value → List (Command × Reply) × Value
  | .done value => ([], value)
  | .perform command next =>
    let later := (next (reply command)).answer reply
    ((command, reply command) :: later.1, later.2)

/-- A script with the commands that it gave and the replies to them, and what is left. -/
inductive Plays : Script Command Reply Value → List (Command × Reply) →
    Script Command Reply Value → Prop
  | start (script : Script Command Reply Value) : Plays script [] script
  | step {command : Command} {next : Reply → Script Command Reply Value} {reply : Reply}
      {trace : List (Command × Reply)} {left : Script Command Reply Value}
      (rest : Plays (next reply) trace left) :
      Plays (.perform command next) ((command, reply) :: trace) left

variable {script middle left : Script Command Reply Value} {first second trace : List (Command × Reply)}
  {command : Command} {next : Reply → Script Command Reply Value}

theorem Plays.append (before : Plays script first middle) (after : Plays middle second left) :
    Plays script (first ++ second) left := by
  induction before with
  | start script => exact after
  | step rest inductionHypothesis => exact .step (inductionHypothesis after)

/-- A reply takes a script by one command further. -/
theorem Plays.concat (plays : Plays script trace (.perform command next)) (reply : Reply) :
    Plays script (trace ++ [(command, reply)]) (next reply) :=
  plays.append (.step (.start _))

theorem plays_done {value : Value} :
    Plays (.done value) trace left ↔ trace = [] ∧ left = .done value := by
  constructor
  · intro plays
    cases plays
    exact ⟨rfl, rfl⟩
  · rintro ⟨rfl, rfl⟩
    exact .start _

/-- A script that gives a command is done only after the reply to it. -/
theorem plays_perform {value : Value} :
    Plays (.perform command next) trace (.done value) ↔
      ∃ reply rest, trace = (command, reply) :: rest ∧ Plays (next reply) rest (.done value) := by
  constructor
  · intro plays
    cases plays with
    | step rest => exact ⟨_, _, rfl, rest⟩
  · rintro ⟨reply, rest, rfl, plays⟩
    exact .step plays

/-- A sequence is done when its first script was done and then its second one. -/
theorem plays_andThen {next : Value → Script Command Reply Last} {last : Last} :
    Plays (script.andThen next) trace (.done last) ↔
      ∃ first second value, trace = first ++ second ∧ Plays script first (.done value) ∧
        Plays (next value) second (.done last) := by
  induction script generalizing trace with
  | done value =>
    constructor
    · intro plays
      exact ⟨[], trace, value, rfl, .start _, plays⟩
    · rintro ⟨first, second, other, rfl, plays, continued⟩
      obtain ⟨rfl, same⟩ := plays_done.mp plays
      obtain rfl : other = value := by simpa using same
      exact continued
  | perform command rest inductionHypothesis =>
    rw [Script.andThen, plays_perform]
    constructor
    · rintro ⟨reply, remaining, rfl, plays⟩
      obtain ⟨first, second, value, rfl, begun, continued⟩ := (inductionHypothesis reply).mp plays
      exact ⟨(command, reply) :: first, second, value, rfl, .step begun, continued⟩
    · rintro ⟨first, second, value, rfl, plays, continued⟩
      obtain ⟨reply, remaining, rfl, begun⟩ := plays_perform.mp plays
      exact ⟨reply, remaining ++ second, rfl,
        (inductionHypothesis reply).mpr ⟨remaining, second, value, rfl, begun, continued⟩⟩

/-- Where nothing is given after a script, its trace is the whole one. -/
theorem plays_closed {next : Value → Script Command Reply Last}
    (closed : ∀ value, ∃ last, next value = .done last) :
    (∃ last, Plays (script.andThen next) trace (.done last)) ↔
      ∃ value, Plays script trace (.done value) := by
  constructor
  · rintro ⟨last, plays⟩
    obtain ⟨first, second, value, rfl, begun, continued⟩ := plays_andThen.mp plays
    obtain ⟨other, same⟩ := closed value
    rw [same] at continued
    obtain ⟨rfl, _⟩ := plays_done.mp continued
    exact ⟨value, by simpa using begun⟩
  · rintro ⟨value, plays⟩
    obtain ⟨last, same⟩ := closed value
    refine ⟨last, plays_andThen.mpr ⟨trace, [], value, by simp, plays, ?_⟩⟩
    rw [same]
    exact .start _

variable [Inhabited Reply]

/-- Some replies take a script to its end. -/
theorem completes (script : Script Command Reply Value) :
    ∃ trace value, Plays script trace (.done value) := by
  induction script with
  | done value => exact ⟨[], value, .start _⟩
  | perform command next inductionHypothesis =>
    obtain ⟨trace, value, plays⟩ := inductionHypothesis default
    exact ⟨(command, default) :: trace, value, .step plays⟩

/-- What has been played is the beginning of a complete trace. -/
theorem Plays.extends (plays : Plays script trace left) :
    ∃ rest value, Plays script (trace ++ rest) (.done value) := by
  obtain ⟨rest, value, continued⟩ := completes left
  exact ⟨rest, value, plays.append continued⟩

end Brewmble.Scripts
