import PolicyKeeper.Policy

/-!
# Validity of policies

A policy is usable when it has a source path, a replication, a time window and
at least one destination, and each destination has a path and a replication.
Replications and windows are strict numerals in a range.  Every violation of
every policy is reported, in the order of the document.
-/

namespace PolicyKeeper

def greatestReplication : Int := 2147483647

def leastPeriod : Int := -9223372036854775808

def greatestPeriod : Int := 9223372036854775807

inductive Place
  | policy (name : String)
  | destination (owner path : String)
  deriving DecidableEq

def Place.describe : Place → String
  | .policy name => s!"policy {name}"
  | .destination owner path => s!"policy {owner} destPath {path}"

inductive Violation
  | noSourcePath
  | missing (place : Place) (property : String)
  | badReplication (place : Place) (text : String)
  | badPeriod (place : Place) (text : String)
  | noDestination (place : Place)
  | destinationWithoutPath (place : Place)
  deriving DecidableEq

def Violation.message : Violation → String
  | .noSourcePath => "policy has no srcPath"
  | .missing place property => s!"{place.describe}: missing {property}"
  | .badReplication place text =>
      s!"{place.describe}: {replicationKey} must be a positive integer, got '{text}'"
  | .badPeriod place text =>
      s!"{place.describe}: {modTimePeriodKey} must be an integer, got '{text}'"
  | .noDestination place => s!"{place.describe}: no destPath configured"
  | .destinationWithoutPath place => s!"{place.describe}: destPath has no path"

/-- The violations of a numeral property: it is missing, or no strict numeral
in its range. -/
def numeralViolations (place : Place) (property : String) (least greatest : Int)
    (refuse : Place → String → Violation) (p : Properties) :
    Except NumeralFault (List Violation) :=
  match p.text? property with
  | none => .ok [.missing place property]
  | some text => do
      match ← readStrictInteger text least greatest with
      | none => .ok [refuse place text]
      | some _ => .ok []

def replicationViolations (place : Place) (p : Properties) :
    Except NumeralFault (List Violation) :=
  numeralViolations place replicationKey 1 greatestReplication .badReplication p

def periodViolations (place : Place) (p : Properties) :
    Except NumeralFault (List Violation) :=
  numeralViolations place modTimePeriodKey leastPeriod greatestPeriod .badPeriod p

namespace Destination

def violations (policy : String) (d : Destination) : Except NumeralFault (List Violation) :=
  if d.path = "" then .ok [.destinationWithoutPath (.policy policy)]
  else replicationViolations (.destination policy d.path) d.properties

end Destination

def gather (check : α → Except ε (List β)) : List α → Except ε (List β)
  | [] => .ok []
  | a :: rest => do
      let here ← check a
      let more ← gather check rest
      .ok (here ++ more)

namespace Policy

def violations (p : Policy) : Except NumeralFault (List Violation) :=
  if p.sourcePath = "" then .ok [.noSourcePath]
  else do
    let place := .policy p.sourcePath
    let replication ← replicationViolations place p.properties
    let period ← periodViolations place p.properties
    let none_ := if p.destinations.isEmpty then [.noDestination place] else []
    let destinations ← gather (Destination.violations p.sourcePath) p.destinations
    .ok (replication ++ period ++ none_ ++ destinations)

end Policy

def violationsOf (policies : List Policy) : Except NumeralFault (List Violation) :=
  gather Policy.violations policies

end PolicyKeeper
