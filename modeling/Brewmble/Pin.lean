import Brewmble.CliConfig
import Brewmble.ResolveUrl

/-!
# Checking a node against its stored fingerprint

The fingerprint of the certificate that a node presents is fetched from the URL
of its address. A node without a stored fingerprint learns the observed one; any
other node must present the stored one, up to the case of its letters.

What the fetch observes is an argument, as in the source's tests.
-/

namespace Brewmble.Pin

open CliConfig ResolveUrl

inductive PinOutcome where
  | learned (fingerprint : String)
  | matched
  deriving DecidableEq, Repr

/-- `node_name`. -/
def nodeName (node : NodeConfig) : String := node.name.getD node.address

/-- `eq_ignore_ascii_case`. -/
def eqIgnoreAsciiCase (first second : String) : Bool :=
  first.toList.map Char.toLower = second.toList.map Char.toLower

def mismatchMessage (node : NodeConfig) (expected observed : String) : String :=
  "fingerprint mismatch for " ++ nodeName node ++ ": expected " ++ expected ++ ", got " ++
    observed ++ "; run 'brewmble node --repin " ++ nodeName node ++ "' to accept the new identity"

/-- `check_pin_with_fetcher`. -/
def checkPinWithFetcher (node : NodeConfig) (address : String)
    (fetch : String → Except String String) : Except String PinOutcome := do
  let observed ← fetch (resolveUrl address)
  match node.fingerprint with
  | none => return .learned observed
  | some expected =>
    if eqIgnoreAsciiCase expected observed then return .matched
    else .error (mismatchMessage node expected observed)

/-- A fingerprint is learned exactly when it is observed and none is stored. -/
theorem learned_iff (node : NodeConfig) (address fingerprint : String)
    (fetch : String → Except String String) :
    checkPinWithFetcher node address fetch = .ok (.learned fingerprint) ↔
      node.fingerprint = none ∧ fetch (resolveUrl address) = .ok fingerprint := by
  unfold checkPinWithFetcher
  cases fetch (resolveUrl address) with
  | error err => simp [bind, Except.bind]
  | ok observed =>
    cases node.fingerprint with
    | none => simp [bind, Except.bind, pure, Except.pure]
    | some expected =>
      by_cases same : eqIgnoreAsciiCase expected observed = true <;>
        simp [bind, Except.bind, pure, Except.pure, same]

end Brewmble.Pin
