import PolicyKeeper.FileStore
import PolicyKeeper.OutlineConstruction

/-!
# What can be wrong with settings

Some faults are the reader's to report: an outline that cannot be read or is
no mapping, a value of the wrong kind, an interval that is not positive.  The
others interrupt whoever asked for the settings.
-/

namespace PolicyKeeper

namespace ScalarFault

def message : ScalarFault → String
  | .malformed => "<yaml error>"
  | .numeral fault => fault.message
  | .notSwitch word => quoted word
  | .notDate => "not a date"
  | .dateInMapping => "a date in a mapping"
  | .beyondNumbers => "int too large to convert to float"
  | .calendar fault => fault.message

end ScalarFault

namespace OutlineFault

def isMalformed : OutlineFault → Bool
  | .form .malformed => true
  | .scalar .malformed => true
  | _ => false

def message : OutlineFault → String
  | .form .malformed => "<yaml error>"
  | .form .beyondCharacters => "chr() arg not in range(0x110000)"
  | .form .beyondNumbers => "Python int too large to convert to C int"
  | .form .nestedTooDeep => "nested too deep"
  | .scalar fault => fault.message

end OutlineFault

inductive SettingsFault
  | unreadable (fault : FileFault)
  | undecodable (fault : DecodingFault)
  | outline (path : String) (fault : OutlineFault)
  | notMapping (path : String)
  /-- A mapping is inside itself, or goes deeper than the stack. -/
  | endless
  | notSwitch (name text : String)
  | notSeconds (name text : String)
  /-- An integer is too large to be a number of seconds. -/
  | beyondSeconds
  /-- A key or a value that is to be shown has no text. -/
  | unshown (fault : ShowingFault)
  | notPositive (violations : List String)
  deriving DecidableEq

namespace SettingsFault

def message : SettingsFault → String
  | .unreadable fault => fault.message
  | .undecodable fault => fault.message
  | .outline path fault =>
      if fault.isMalformed then s!"Invalid settings file {path}: {fault.message}"
      else fault.message
  | .notMapping path => s!"Settings file {path} must contain a mapping"
  | .endless => "a mapping is inside itself"
  | .notSwitch name text => s!"{name} must be a boolean, got '{text}'"
  | .notSeconds name text => s!"{name} must be a number of seconds, got '{text}'"
  | .beyondSeconds => "int too large to convert to float"
  | .unshown fault => fault.message
  | .notPositive violations => "; ".intercalate violations

/-- Whether the fault is one to report; any other interrupts the work that met
it. -/
def isReported : SettingsFault → Bool
  | .outline _ fault => fault.isMalformed
  | .notMapping _ => true
  | .notSwitch .. => true
  | .notSeconds .. => true
  | .notPositive _ => true
  | _ => false

end SettingsFault

end PolicyKeeper
