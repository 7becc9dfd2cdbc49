import Brewmble.CacheRefresh
import Brewmble.ServedLeaf
import Mathlib.Algebra.Group.Nat.Defs

/-!
# The time to live of the package cache

Apt and brew make their time to live from the configured minutes by one product of
64-bit numbers. Nothing bounds the minutes before it: any number is loaded, and
validation does not read it. A build with overflow checks stops where the product does
not fit, and a build without them wraps it.

A time to live that is exact orders the refreshes: whenever the cache is due at an
interval, it is due at every smaller one.
-/

namespace Brewmble.RefreshInterval

open CacheRefresh ConfigValidation PackageManagers ServedLeaf

structure FeaturesConfig where
  autoClean : Bool
  autoRemove : Bool
  deriving DecidableEq, Repr

structure PackageManagerConfig where
  updateIntervalMins : UInt64
  deriving DecidableEq, Repr

/-- A configuration with the parts that validation does not read. -/
structure LoadedConfig extends DaemonConfig where
  features : FeaturesConfig
  packageManager : PackageManagerConfig

/-- Whether arithmetic is checked for overflow. -/
inductive Build where
  | checked
  | release
  deriving DecidableEq, Repr

/-- A product of two 64-bit numbers, if the build does not panic. -/
def mulU64 (build : Build) (first second : UInt64) : Option UInt64 :=
  match build with
  | .checked => if first.toNat * second.toNat < 2 ^ 64 then some (first * second) else none
  | .release => some (first * second)

/-- `Duration::from_secs`, in nanoseconds. -/
def fromSecs (secs : UInt64) : Nat := secs.toNat * nanosPerSec

/-- What both package managers hold besides their command runner. -/
structure Manager where
  autoClean : Bool
  autoRemove : Bool
  lastUpdate : Option Nat
  cacheTtl : Nat
  deriving DecidableEq, Repr

/-- The constructor of both package managers, if the build does not panic. -/
def newManager (build : Build) (autoClean autoRemove : Bool) (updateIntervalMins : UInt64) :
    Option Manager :=
  (mulU64 build updateIntervalMins 60).map fun secs =>
    ⟨autoClean, autoRemove, none, fromSecs secs⟩

/-- `Apt::new`. -/
def Apt.new : Build → Bool → Bool → UInt64 → Option Manager := newManager

/-- `Brew::new`. -/
def Brew.new : Build → Bool → Bool → UInt64 → Option Manager := newManager

/-- At this time and with this last update, `get_updates` refreshes the cache. -/
def Refreshes (backend : Backend) (getUpdates : Program) (now : Nat) (last : Option Nat) : Prop :=
  ∃ next, getUpdates = .checkLast next ∧ next now last = backend.refresh

section Arithmetic

variable (first second : UInt64)

theorem mulU64_exact (build : Build) (fits : first.toNat * second.toNat < 2 ^ 64) :
    ∃ product, mulU64 build first second = some product ∧
      product.toNat = first.toNat * second.toNat := by
  refine ⟨first * second, ?_, ?_⟩
  · cases build with
    | checked => exact if_pos fits
    | release => rfl
  · rw [UInt64.toNat_mul, Nat.mod_eq_of_lt fits]

theorem mulU64_checked (overflows : ¬ first.toNat * second.toNat < 2 ^ 64) :
    mulU64 .checked first second = none := if_neg overflows

end Arithmetic

section Refreshing

/-- The cache is refreshed exactly when it is due. -/
theorem refreshes_iff (backend : Backend) (secs now : Nat) (last : Option Nat) :
    Refreshes backend (backend.getUpdates (secs * nanosPerSec)) now last ↔ Due secs last now := by
  rw [← shouldUpdate_iff]
  constructor
  · rintro ⟨next, same, refreshes⟩
    obtain rfl := Program.checkLast.inj same
    by_contra skipped
    have listed : backend.listUpdates = backend.refresh := by simpa [skipped] using refreshes
    have sameFirst : some backend.listLine = some backend.refreshLine :=
      calc some backend.listLine = (backend.command backend.listArgs []).first :=
            (backend.command_first _ _).symm
        _ = (backend.command backend.refreshArgs []).first := by rw [(Program.command.inj listed).1]
        _ = some backend.refreshLine := backend.command_first _ _
    exact backend.lines_differ (Option.some.inj sameFirst)
  · intro due
    exact ⟨_, rfl, if_pos due⟩

/-- What is due at an interval is due at a smaller one. -/
theorem due_smaller {secs smaller now : Nat} {last : Option Nat} (less : smaller ≤ secs)
    (due : Due secs last now) : Due smaller last now := by
  obtain zero | none | ⟨recorded, found, passed⟩ := due
  · exact .inl (by omega)
  · exact .inr (.inl none)
  · have sooner : smaller * nanosPerSec ≤ secs * nanosPerSec := Nat.mul_le_mul_right _ less
    exact .inr (.inr ⟨recorded, found, by omega⟩)

end Refreshing

/-- A constructor makes the time to live from the minutes without distortion: it is
exact in every build, and at no time and after no history does the package manager
refresh where it would not do so with a smaller interval. -/
structure Undistorted (backend : Backend) (new : Build → Bool → Bool → UInt64 → Option Manager)
    (getUpdates : Nat → Program) (config : LoadedConfig) : Prop where
  exact : ∀ build, ∃ manager,
    new build config.features.autoClean config.features.autoRemove
      config.packageManager.updateIntervalMins = some manager ∧
    manager.cacheTtl = config.packageManager.updateIntervalMins.toNat * 60 * nanosPerSec
  sparser : ∀ build manager smaller fewer,
    new build config.features.autoClean config.features.autoRemove
      config.packageManager.updateIntervalMins = some manager →
    fewer ≤ config.packageManager.updateIntervalMins →
    new build config.features.autoClean config.features.autoRemove fewer = some smaller →
    ∀ now last, Refreshes backend (getUpdates manager.cacheTtl) now last →
      Refreshes backend (getUpdates smaller.cacheTtl) now last

section Distortion

variable {backend : Backend} {config : LoadedConfig}

/-- The minutes of which the seconds fit into 64 bits. -/
def Fits (mins : UInt64) : Prop := mins.toNat * 60 < 2 ^ 64

instance (mins : UInt64) : Decidable (Fits mins) := inferInstanceAs (Decidable (_ < _))

theorem newManager_fits (build : Build) (autoClean autoRemove : Bool) {mins : UInt64}
    (fits : Fits mins) : newManager build autoClean autoRemove mins =
      some ⟨autoClean, autoRemove, none, mins.toNat * 60 * nanosPerSec⟩ := by
  obtain ⟨secs, product, exact⟩ := mulU64_exact mins 60 build fits
  simp [newManager, product, fromSecs, exact]

/-- A constructor is undistorted exactly when the seconds fit.

Proof: where they fit, the time to live is exact at the interval and at every smaller
one, so that what is due at the one is due at the other. Where they do not, the checked
build panics. -/
theorem undistorted_iff :
    Undistorted backend newManager backend.getUpdates config ↔
      Fits config.packageManager.updateIntervalMins := by
  constructor
  · intro undistorted
    obtain ⟨manager, made, _⟩ := undistorted.exact .checked
    by_contra overflows
    have panics := mulU64_checked config.packageManager.updateIntervalMins 60 overflows
    simp [newManager, panics] at made
  · intro fits
    constructor
    · intro build
      exact ⟨_, newManager_fits build _ _ fits, rfl⟩
    · intro build manager smaller fewer made less madeSmaller now last refreshes
      have order : fewer.toNat ≤ config.packageManager.updateIntervalMins.toNat :=
        UInt64.le_iff_toNat_le.mp less
      have fewerFits : Fits fewer := by
        unfold Fits at fits ⊢
        omega
      rw [newManager_fits build _ _ fits] at made
      rw [newManager_fits build _ _ fewerFits] at madeSmaller
      obtain rfl := Option.some.inj made
      obtain rfl := Option.some.inj madeSmaller
      rw [refreshes_iff] at refreshes ⊢
      exact due_smaller (Nat.mul_le_mul_right 60 order) refreshes

/-- The interval of a validated configuration is undistorted exactly when its seconds fit
into 64 bits, for apt as for brew. Validation does not bound it. -/
theorem validated_interval_undistorted_iff (rustls : Rustls) (displayTime : Int → String)
    (files : FileSystem) (config : LoadedConfig) (now : Int)
    (_validated : (validateConfig rustls displayTime files config.toDaemonConfig now).errors = []) :
    Undistorted apt Apt.new PackageManagers.Apt.getUpdates config ∧
        Undistorted brew Brew.new PackageManagers.Brew.getUpdates config ↔
      Fits config.packageManager.updateIntervalMins := by
  have isApt : PackageManagers.Apt.getUpdates = apt.getUpdates :=
    funext fun cacheTtl => (getUpdates_eq cacheTtl).1
  have isBrew : PackageManagers.Brew.getUpdates = brew.getUpdates :=
    funext fun cacheTtl => (getUpdates_eq cacheTtl).2
  have ofApt : Undistorted apt Apt.new apt.getUpdates config ↔
      Fits config.packageManager.updateIntervalMins := undistorted_iff
  have ofBrew : Undistorted brew Brew.new brew.getUpdates config ↔
      Fits config.packageManager.updateIntervalMins := undistorted_iff
  rw [isApt, isBrew, ofApt, ofBrew, and_self]

/-- A configuration with the interval that is the default. -/
def defaultInterval : LoadedConfig where
  server := ⟨some 3625⟩
  tls := ⟨"ca.pem", "daemon.pem", "daemon-key.pem"⟩
  features := ⟨false, false⟩
  packageManager := ⟨360⟩

theorem default_undistorted :
    Undistorted apt Apt.new PackageManagers.Apt.getUpdates defaultInterval ∧
      Undistorted brew Brew.new PackageManagers.Brew.getUpdates defaultInterval :=
  (validated_interval_undistorted_iff accepting (fun _ => "") parametersFirst defaultInterval 500 rfl).mpr
    (by decide)

/-- The first interval of which the seconds do not fit: they wrap to 44. -/
def longInterval : LoadedConfig := { defaultInterval with packageManager := ⟨307445734561825861⟩ }

/-- A validated interval stops a checked build, and a release build refreshes after less
than a minute. -/
theorem long_interval_distorted :
    ¬ ∀ rustls displayTime files (config : LoadedConfig) now,
      (validateConfig rustls displayTime files config.toDaemonConfig now).errors = [] →
      Undistorted apt Apt.new PackageManagers.Apt.getUpdates config ∧
        Undistorted brew Brew.new PackageManagers.Brew.getUpdates config := by
  intro claimed
  have undistorted := (claimed accepting (fun _ => "") parametersFirst longInterval 500 rfl).1
  obtain ⟨manager, made, exact⟩ := undistorted.exact .release
  have wrapped : Apt.new .release false false 307445734561825861 =
      some ⟨false, false, none, 44 * nanosPerSec⟩ := by decide
  obtain rfl : (⟨false, false, none, 44 * nanosPerSec⟩ : Manager) = manager :=
    Option.some.inj (wrapped.symm.trans made)
  exact absurd exact (by decide)

end Distortion

end Brewmble.RefreshInterval
