import PolicyKeeper.PolicyFile
import PolicyKeeper.Settings

/-!
# The keeper of the published policies

A keeper holds the policy set that is published, and the times of its last
attempt to renew it and of its last success.  It is made from a policy file
that loads, so there is always a set to show.  While it is running, checks may
renew the set; the background round makes checks of its own until the keeper is
stopped.  Times are of any kind that can be added and compared.
-/

namespace PolicyKeeper

inductive CheckFault
  | file (fault : FileFault)
  | load (fault : LoadFault)
  deriving DecidableEq

namespace CheckFault

def message : CheckFault → String
  | .file fault => fault.message
  | .load fault => fault.message

/-- Whether the fault is one that a policy file is expected to have; any other
interrupts whoever made the check. -/
def isExpected : CheckFault → Bool
  | .file .nullCharacter => false
  | .file _ => true
  | .load fault => fault.isExpected

end CheckFault

inductive KeeperNotice (τ : Type)
  | load (notice : LoadNotice)
  | noFileGiven
  | failed (path : String) (fault : CheckFault)
  | recovered (path : String)
  | reloaded (count : Nat) (path : String) (generation : Nat)
  | reloadDisabled (path : String)
  | started (interval : τ)
  | stopped
  /-- The background round met a fault that is not expected, and goes on. -/
  | interrupted (path : String) (fault : CheckFault)

structure Keeper (τ : Type) where
  path : String
  settings : Settings τ
  published : PolicySet
  generation : Nat
  lastAttempt : τ
  lastSuccess : τ
  lastAttemptFailed : Bool
  running : Bool
  /-- Whether the background round is going. -/
  reloading : Bool

namespace Keeper

variable {τ : Type}

/-- How long a policy file has to be left alone before it is trusted to be
complete. -/
def settleWindow [OfNat τ 5] : τ := 5

/-- The keeper of a policy file as it is now; its set is the first
generation. -/
def establish (stack : CallStack) (store : FileStore τ) (settings : Settings τ) (now : τ) :
    Noted (KeeperNotice τ) LoadFault (Keeper τ) :=
  let path := settings.configFile.getD ""
  if path = "" then do
    Noted.note .noFileGiven
    .fail .noFileGiven
  else do
    let set ← (PolicyFile.load stack store settings.includes path).mapNotices .load
    Noted.pure
      { path, settings, published := set.withGeneration 1, generation := 1, lastAttempt := now
        lastSuccess := now, lastAttemptFailed := false, running := true, reloading := false }

/-- Lets checks through again, and starts the background round unless it is
switched off or already going. -/
def start (k : Keeper τ) : Keeper τ × List (KeeperNotice τ) :=
  let k := { k with running := true }
  if !k.settings.reloadEnabled then (k, [.reloadDisabled k.path])
  else if k.reloading then (k, [])
  else ({ k with reloading := true }, [.started k.settings.reloadInterval])

def stop (k : Keeper τ) : Keeper τ × List (KeeperNotice τ) :=
  ({ k with running := false, reloading := false }, if k.reloading then [.stopped] else [])

def publish (now : τ) (set : PolicySet) (k : Keeper τ) : Keeper τ :=
  let generation := k.generation + 1
  { k with
    published := set.withGeneration generation, generation, lastSuccess := now
    lastAttemptFailed := false }

end Keeper

end PolicyKeeper
