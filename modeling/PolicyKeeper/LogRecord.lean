import PolicyKeeper.LetterCase
import PolicyKeeper.QuotedText

/-!
# Log records

A record has a level, the name of the logger that wrote it, and a message.
A level is asked for by name in any case; records below it are not shown.
-/

namespace PolicyKeeper

inductive LogLevel
  | debug
  | info
  | warning
  | error
  | critical
  deriving DecidableEq

namespace LogLevel

def name : LogLevel → String
  | .debug => "DEBUG"
  | .info => "INFO"
  | .warning => "WARNING"
  | .error => "ERROR"
  | .critical => "CRITICAL"

def rank : LogLevel → Nat
  | .debug => 10
  | .info => 20
  | .warning => 30
  | .error => 40
  | .critical => 50

/-- The least rank that is shown, by the name of a level. -/
def threshold? (name : String) : Option Nat :=
  [("CRITICAL", 50), ("FATAL", 50), ("ERROR", 40), ("WARN", 30), ("WARNING", 30), ("INFO", 20),
    ("DEBUG", 10), ("NOTSET", 0)].lookup name

end LogLevel

structure LevelFault where
  name : String
  deriving DecidableEq

def LevelFault.message (fault : LevelFault) : String := s!"Unknown level: {quoted fault.name}"

def readLogLevel (text : String) : Except LevelFault Nat :=
  let name := capitalized text
  match LogLevel.threshold? name with
  | some rank => .ok rank
  | none => .error ⟨name⟩

structure LogRecord where
  level : LogLevel
  logger : String
  message : String
  deriving DecidableEq

def LogRecord.line (r : LogRecord) : String := s!"{r.level.name} {r.logger} {r.message}"

end PolicyKeeper
