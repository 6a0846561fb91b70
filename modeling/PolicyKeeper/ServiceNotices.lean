import PolicyKeeper.Keeper
import PolicyKeeper.LogRecord

/-!
# Notices of the service

The service notices what its keeper does, checks that were asked for by hand,
and its own start: that it listens, or why it cannot.
-/

namespace PolicyKeeper

inductive StartFault
  | level (fault : LevelFault)
  | port (fault : NumeralFault)
  | settings (fault : SettingsFault)
  | load (fault : LoadFault)
  deriving DecidableEq

namespace StartFault

def message : StartFault → String
  | .level fault => fault.message
  | .port fault => fault.message
  | .settings fault => fault.message
  | .load fault => fault.message

/-- Whether the fault is reported, and the service ends in good order. -/
def isReported : StartFault → Bool
  | .level _ => false
  | .port _ => false
  | .settings fault => fault.isReported
  | .load fault => fault.isExpected

end StartFault

inductive ServiceNotice (τ : Type)
  | keeper (notice : KeeperNotice τ)
  | checkedByHand (reloaded : Bool) (generation : Int)
  | cannotStart (fault : StartFault)
  | listening (port : Int) (count : Nat)

end PolicyKeeper
