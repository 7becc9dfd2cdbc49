import Mathlib.Logic.Function.Basic

/-!
# The shared request and response models

The command-line tool and the daemon exchange these bodies. Each carries every
field that a modelled handler writes or a modelled command reads. A status code
is its number; the tool branches on the success range alone. The JSON encoding
between the two sides is outside this model: a decoded body is the encoded one.
-/

namespace Brewmble.Rest

def pathStatus : String := "/status"
def pathUpgrade : String := "/packages/full-upgrade"
def pathReboot : String := "/node/reboot"

/-- An HTTP status code by its number. -/
structure StatusCode where
  code : Nat
  deriving DecidableEq, Repr

namespace StatusCode

def ok : StatusCode := ⟨200⟩
def forbidden : StatusCode := ⟨403⟩
def preconditionFailed : StatusCode := ⟨412⟩
def locked : StatusCode := ⟨423⟩
def internalServerError : StatusCode := ⟨500⟩

/-- The 2xx range. -/
def isSuccess (status : StatusCode) : Bool := 200 ≤ status.code && status.code < 300

end StatusCode

structure StatusResponse where
  message : String
  updates : List String
  isUpgrading : Bool
  daemonVersion : Option String
  allowReboot : Bool
  autoClean : Bool
  autoRemove : Bool
  deriving DecidableEq, Repr

structure RebootRequest where
  delaySecs : Option Nat
  deriving DecidableEq, Repr

structure RebootResponse where
  message : String
  deriving DecidableEq, Repr

structure UpgradeRequest where
  dryRun : Bool
  deriving DecidableEq, Repr

structure UpgradeResponse where
  message : String
  updates : Option (List String)
  deriving DecidableEq, Repr

end Brewmble.Rest
