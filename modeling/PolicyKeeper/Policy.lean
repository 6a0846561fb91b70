import PolicyKeeper.Binary64
import PolicyKeeper.Entries
import PolicyKeeper.IntegerNumeral

/-!
# Policies

A policy says what is done with one source path: its own properties and the
destinations, each with properties of its own.  The source path is the name of
the policy.  Policies that were read together make a policy set, which counts
its generation.
-/

namespace PolicyKeeper

/-! ## Properties -/

/-- Named texts, each name once, in the order in which the names first came.
A name may stand without a text. -/
structure Properties where
  entries : List (String × Option String)
  distinct : (entries.map (·.1)).Nodup

namespace Properties

def empty : Properties := ⟨[], by simp⟩

instance : Inhabited Properties := ⟨empty⟩

def put (p : Properties) (name : String) (value : Option String) : Properties :=
  ⟨putEntry name value p.entries, nodup_keys_putEntry p.distinct⟩

def value? (p : Properties) (name : String) : Option (Option String) := p.entries.lookup name

def text? (p : Properties) (name : String) : Option String := (p.value? name).join

def ofList (entries : List (String × Option String)) : Properties :=
  entries.foldl (fun p (name, value) => p.put name value) empty

@[simp] theorem value?_put (p : Properties) (name other : String) (value : Option String) :
    (p.put name value).value? other = if other = name then some value else p.value? other :=
  lookup_putEntry

def sameAs (p q : Properties) : Bool :=
  p.entries.length = q.entries.length &&
    p.entries.all fun (name, value) => q.value? name = some value

end Properties

def replicationKey : String := "replication"

def modTimePeriodKey : String := "modTimePeriod"

/-! ## Typed properties -/

inductive PropertyFault
  | absent (name : String)
  | withoutText
  | numeral (fault : NumeralFault)
  deriving DecidableEq

def Properties.integer (p : Properties) (name : String) : Except PropertyFault Int :=
  match p.value? name with
  | none => .error (.absent name)
  | some none => .error .withoutText
  | some (some text) => (readInteger text).mapError .numeral

/-! ## Policies and policy sets -/

structure Destination where
  path : String
  properties : Properties

structure Policy where
  sourcePath : String
  properties : Properties
  destinations : List Destination

namespace Destination

def replication (d : Destination) : Except PropertyFault Int :=
  d.properties.integer replicationKey

def sameAs (d e : Destination) : Bool := d.path = e.path && d.properties.sameAs e.properties

end Destination

namespace Policy

def name (p : Policy) : String := p.sourcePath

def replication (p : Policy) : Except PropertyFault Int := p.properties.integer replicationKey

/-- The time window for modifications, in milliseconds. -/
def modTimePeriod (p : Policy) : Except PropertyFault Int :=
  p.properties.integer modTimePeriodKey

def sameDestinations : List Destination → List Destination → Bool
  | [], [] => true
  | d :: ds, e :: es => d.sameAs e && sameDestinations ds es
  | _, _ => false

def sameAs (p q : Policy) : Bool :=
  p.sourcePath = q.sourcePath && p.properties.sameAs q.properties &&
    sameDestinations p.destinations q.destinations

end Policy

structure PolicySet where
  policies : List Policy
  source : String
  loadedAt : Binary64
  generation : Int

namespace PolicySet

def empty (source : String) : PolicySet :=
  { policies := [], source, loadedAt := 0, generation := 0 }

def size (s : PolicySet) : Nat := s.policies.length

def names (s : PolicySet) : List String := s.policies.map (·.name)

def find? (s : PolicySet) (name : String) : Option Policy :=
  s.policies.find? (·.name = name)

def withGeneration (s : PolicySet) (generation : Int) : PolicySet := { s with generation }

@[simp] theorem policies_withGeneration (s : PolicySet) (generation : Int) :
    (s.withGeneration generation).policies = s.policies := rfl

end PolicySet

end PolicyKeeper
