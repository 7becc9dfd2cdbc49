import Brewmble.CommandLines

/-!
# Upgrading with apt and brew

An upgrade is one command. If it can be spawned and exits successfully, cleaning and
removing follow where they are enabled; whether these fail is logged and has no part in
the result.

Both package managers differ in their programs, commands and texts only, so what either
has given so far is told by one description of its course.
-/

namespace Brewmble.FullUpgrade

open CommandLines Scripts

namespace Apt

def autoClean : Commands (Except String Unit) :=
  (CommandRunner.run "sudo" ["apt-get", "autoclean"]).andThen fun
    | .error err => .done (.error err)
    | .ok output =>
      if output.status.success then .done (.ok ())
      else
        .done (.error ("apt autoclean failed with status: " ++ output.status.text ++ ". stderr: " ++
          output.stderr))

def autoRemove : Commands (Except String Unit) :=
  (CommandRunner.run "sudo" ["apt-get", "autoremove", "-y"]).andThen fun
    | .error err => .done (.error err)
    | .ok output =>
      if output.status.success then .done (.ok ())
      else
        .done (.error ("apt autoremove failed with status: " ++ output.status.text ++ ". stderr: " ++
          output.stderr))

/-- `run_cleanup`, with what `Apt` is configured to do. -/
def runCleanup (clean remove : Bool) : Commands Unit :=
  (if clean then autoClean.andThen fun _ => .done () else .done ()).andThen fun _ =>
    if remove then autoRemove.andThen fun _ => .done () else .done ()

/-- `Apt::full_upgrade`. -/
def fullUpgrade (clean remove : Bool) : Commands (Except String Unit) :=
  (Apt.runAsyncWithEnv "sudo"
    ["apt", "full-upgrade", "-y", "-o", "Dpkg::Options::=--force-confdef", "-o",
      "Dpkg::Options::=--force-confold"]
    [("DEBIAN_FRONTEND", "noninteractive")]).andThen fun
    | .ok output =>
      if output.status.success then (runCleanup clean remove).andThen fun _ => .done (.ok ())
      else
        .done (.error ("full upgrade failed with status: " ++ output.status.text ++ ". stderr: " ++
          output.stderr))
    | .error err => .done (.error ("failed to execute full upgrade: " ++ err))

end Apt

namespace Brew

def autoClean : Commands (Except String Unit) :=
  (Brew.runBrew ["cleanup"]).andThen fun
    | .error err => .done (.error err)
    | .ok output =>
      if output.status.success then .done (.ok ())
      else
        .done (.error ("brew cleanup failed with status: " ++ output.status.text ++ ". stderr: " ++
          output.stderr))

def autoRemove : Commands (Except String Unit) :=
  (Brew.runBrew ["autoremove"]).andThen fun
    | .error err => .done (.error err)
    | .ok output =>
      if output.status.success then .done (.ok ())
      else
        .done (.error ("brew autoremove failed with status: " ++ output.status.text ++
          ". stderr: " ++ output.stderr))

/-- `run_cleanup`, with what `Brew` is configured to do. -/
def runCleanup (clean remove : Bool) : Commands Unit :=
  (if clean then autoClean.andThen fun _ => .done () else .done ()).andThen fun _ =>
    if remove then autoRemove.andThen fun _ => .done () else .done ()

/-- `Brew::full_upgrade`. -/
def fullUpgrade (clean remove : Bool) : Commands (Except String Unit) :=
  (Brew.runBrewAsync ["upgrade"]).andThen fun
    | .ok output =>
      if output.status.success then (runCleanup clean remove).andThen fun _ => .done (.ok ())
      else
        .done (.error ("brew upgrade failed with status: " ++ output.status.text ++ ". stderr: " ++
          output.stderr))
    | .error err => .done (.error ("failed to execute brew upgrade: " ++ err))

end Brew

/-- The commands and texts of a package manager that upgrades. -/
structure Upgrader extends Search where
  env : List (String × String)
  upgradeArgs : List String
  cleanArgs : List String
  removeArgs : List String
  cleanError : Output → String
  removeError : Output → String
  exitError : Output → String
  spawnError : String → String

namespace Upgrader

variable (upgrader : Upgrader)

/-- A command whose result is logged only. -/
def cleanup (args : List String) (exitError : Output → String) : Commands (Except String Unit) :=
  (upgrader.command args []).andThen fun
    | .error err => .done (.error err)
    | .ok output => if output.status.success then .done (.ok ()) else .done (.error (exitError output))

def runCleanup (clean remove : Bool) : Commands Unit :=
  (if clean then (upgrader.cleanup upgrader.cleanArgs upgrader.cleanError).andThen fun _ => .done ()
    else .done ()).andThen fun _ =>
    if remove then (upgrader.cleanup upgrader.removeArgs upgrader.removeError).andThen fun _ => .done ()
    else .done ()

def fullUpgrade (clean remove : Bool) : Commands (Except String Unit) :=
  (upgrader.command upgrader.upgradeArgs upgrader.env).andThen fun
    | .ok output =>
      if output.status.success then
        (upgrader.runCleanup clean remove).andThen fun _ => .done (.ok ())
      else .done (.error (upgrader.exitError output))
    | .error err => .done (.error (upgrader.spawnError err))

end Upgrader

def apt : Upgrader where
  toSearch := bySudo
  env := [("DEBIAN_FRONTEND", "noninteractive")]
  upgradeArgs := ["apt", "full-upgrade", "-y", "-o", "Dpkg::Options::=--force-confdef", "-o",
    "Dpkg::Options::=--force-confold"]
  cleanArgs := ["apt-get", "autoclean"]
  removeArgs := ["apt-get", "autoremove", "-y"]
  cleanError output :=
    "apt autoclean failed with status: " ++ output.status.text ++ ". stderr: " ++ output.stderr
  removeError output :=
    "apt autoremove failed with status: " ++ output.status.text ++ ". stderr: " ++ output.stderr
  exitError output :=
    "full upgrade failed with status: " ++ output.status.text ++ ". stderr: " ++ output.stderr
  spawnError err := "failed to execute full upgrade: " ++ err

def brew : Upgrader where
  toSearch := brewPaths
  env := []
  upgradeArgs := ["upgrade"]
  cleanArgs := ["cleanup"]
  removeArgs := ["autoremove"]
  cleanError output :=
    "brew cleanup failed with status: " ++ output.status.text ++ ". stderr: " ++ output.stderr
  removeError output :=
    "brew autoremove failed with status: " ++ output.status.text ++ ". stderr: " ++ output.stderr
  exitError output :=
    "brew upgrade failed with status: " ++ output.status.text ++ ". stderr: " ++ output.stderr
  spawnError err := "failed to execute brew upgrade: " ++ err

theorem apt_upgrade (clean remove : Bool) :
    Apt.fullUpgrade clean remove = apt.fullUpgrade clean remove := by
  have ofApt (args : List String) (env : List (String × String)) :
      apt.command args env = Apt.runAsyncWithEnv "sudo" args env := sudo_command args env
  simp only [Upgrader.fullUpgrade, Upgrader.runCleanup, Upgrader.cleanup, ofApt]
  rfl

theorem brew_upgrade (clean remove : Bool) :
    Brew.fullUpgrade clean remove = brew.fullUpgrade clean remove := by
  have ofBrew (args : List String) : brew.command args [] = Brew.runBrewAsync args := brew_command args
  have noEnv : brew.env = [] := rfl
  simp only [Upgrader.fullUpgrade, Upgrader.runCleanup, Upgrader.cleanup, noEnv, ofBrew]
  rfl

section Courses

/-- A command is given exactly when it is enabled, and its reply does not matter. -/
def Cleanup (enabled : Bool) (args : List String) (programs : List String)
    (trace : List (CommandLine × Reply)) : Prop :=
  if enabled then ∃ reply, Attempts args [] programs trace reply else trace = []

/-- The commands of an upgrade with their replies, and its result. -/
inductive Course (upgrader : Upgrader) (clean remove : Bool) :
    List (CommandLine × Reply) → Except String Unit → Prop
  | unspawned {trace : List (CommandLine × Reply)} {err : String}
      (tried : Attempts upgrader.upgradeArgs upgrader.env upgrader.programs trace (.error err)) :
      Course upgrader clean remove trace (.error (upgrader.spawnError err))
  | exited {trace : List (CommandLine × Reply)} {output : Output}
      (tried : Attempts upgrader.upgradeArgs upgrader.env upgrader.programs trace (.ok output))
      (fails : output.status.success = false) :
      Course upgrader clean remove trace (.error (upgrader.exitError output))
  | upgraded {tried cleaned removed : List (CommandLine × Reply)} {output : Output}
      (spawned : Attempts upgrader.upgradeArgs upgrader.env upgrader.programs tried (.ok output))
      (success : output.status.success = true)
      (cleaning : Cleanup clean upgrader.cleanArgs upgrader.programs cleaned)
      (removing : Cleanup remove upgrader.removeArgs upgrader.programs removed) :
      Course upgrader clean remove (tried ++ (cleaned ++ removed)) (.ok ())

variable {upgrader : Upgrader} {args : List String} {env : List (String × String)}
  {trace : List (CommandLine × Reply)}

/-- A cleanup is done with its command, whatever came of this. -/
theorem plays_cleanup (enabled : Bool) (exitError : Output → String) :
    Plays (if enabled then (upgrader.cleanup args exitError).andThen fun _ => .done ()
      else (.done () : Commands Unit)) trace (.done ()) ↔
      Cleanup enabled args upgrader.programs trace := by
  cases enabled with
  | false => simp [Cleanup, plays_done]
  | true =>
    have judged (reply : Reply) : ∃ result : Except String Unit, (match reply with
        | .error err => .done (.error err)
        | .ok output =>
          if output.status.success then .done (.ok ()) else .done (.error (exitError output)) :
        Commands (Except String Unit)) = .done result := by
      cases reply with
      | error err => exact ⟨_, rfl⟩
      | ok output => dsimp only; split <;> exact ⟨_, rfl⟩
    calc Plays ((upgrader.cleanup args exitError).andThen fun _ => .done ()) trace (.done ())
        ↔ ∃ result : Unit,
            Plays ((upgrader.cleanup args exitError).andThen fun _ => .done ()) trace (.done result) :=
          ⟨fun plays => ⟨(), plays⟩, fun ⟨_, plays⟩ => plays⟩
      _ ↔ ∃ result, Plays (upgrader.cleanup args exitError) trace (.done result) :=
          plays_closed fun _ => ⟨(), rfl⟩
      _ ↔ ∃ reply, Plays (upgrader.command args []) trace (.done reply) := plays_closed judged
      _ ↔ Cleanup true args upgrader.programs trace := exists_congr fun _ => plays_command

theorem plays_runCleanup (clean remove : Bool) :
    Plays (upgrader.runCleanup clean remove) trace (.done ()) ↔
      ∃ cleaned removed, trace = cleaned ++ removed ∧
        Cleanup clean upgrader.cleanArgs upgrader.programs cleaned ∧
        Cleanup remove upgrader.removeArgs upgrader.programs removed := by
  rw [Upgrader.runCleanup, plays_andThen]
  constructor
  · rintro ⟨cleaned, removed, _, rfl, cleaning, removing⟩
    exact ⟨cleaned, removed, rfl, (plays_cleanup clean _).mp cleaning, (plays_cleanup remove _).mp removing⟩
  · rintro ⟨cleaned, removed, rfl, cleaning, removing⟩
    exact ⟨cleaned, removed, (), rfl, (plays_cleanup clean _).mpr cleaning,
      (plays_cleanup remove _).mpr removing⟩

/-- An upgrade can be played to its end exactly along its course.

Proof: by the reply to the upgrade command, which the source cases on. -/
theorem plays_fullUpgrade (clean remove : Bool) {result : Except String Unit} :
    Plays (upgrader.fullUpgrade clean remove) trace (.done result) ↔
      Course upgrader clean remove trace result := by
  rw [Upgrader.fullUpgrade, plays_andThen]
  constructor
  · rintro ⟨tried, rest, reply, rfl, plays, continued⟩
    have attempts := plays_command.mp plays
    cases reply with
    | error err =>
      obtain ⟨rfl, same⟩ := plays_done.mp continued
      obtain rfl : result = .error (upgrader.spawnError err) := by simpa using same
      simpa using Course.unspawned attempts
    | ok output =>
      cases success : output.status.success with
      | false =>
        simp only [success, Bool.false_eq_true, if_false] at continued
        obtain ⟨rfl, same⟩ := plays_done.mp continued
        obtain rfl : result = .error (upgrader.exitError output) := by simpa using same
        simpa using Course.exited attempts success
      | true =>
        simp only [success, if_true] at continued
        obtain ⟨cleanups, nothing, _, rfl, cleaning, finished⟩ := plays_andThen.mp continued
        obtain ⟨rfl, same⟩ := plays_done.mp finished
        obtain rfl : result = .ok () := by simpa using same
        obtain ⟨cleaned, removed, rfl, first, second⟩ := (plays_runCleanup clean remove).mp cleaning
        simpa using Course.upgraded attempts success first second
  · intro course
    cases course with
    | unspawned tried => exact ⟨trace, [], _, by simp, plays_command.mpr tried, .start _⟩
    | @exited _ output tried fails =>
      refine ⟨trace, [], .ok output, by simp, plays_command.mpr tried, ?_⟩
      simp only [fails, Bool.false_eq_true, if_false]
      exact .start _
    | @upgraded tried cleaned removed output spawned success cleaning removing =>
      refine ⟨tried, cleaned ++ removed, .ok output, rfl, plays_command.mpr spawned, ?_⟩
      simp only [success, if_true]
      have cleanups : Plays (upgrader.runCleanup clean remove) (cleaned ++ removed) (.done ()) :=
        (plays_runCleanup clean remove).mpr ⟨cleaned, removed, rfl, cleaning, removing⟩
      exact plays_andThen.mpr ⟨cleaned ++ removed, [], (), by simp, cleanups, .start _⟩

end Courses

end Brewmble.FullUpgrade
