import PolicyKeeper.Inclusion

/-!
# Policy files

Reading a policy document takes four steps: its markup, its includes, its
structure, the validity of its policies.  The first step that fails gives the
fault; nothing is returned until all policies are read and valid.
-/

namespace PolicyKeeper

inductive LoadFault
  | noFileGiven
  | missing (path : String)
  | unreadable (path : String) (fault : FileFault)
  | markup (source : String) (fault : MarkupFault)
  | inclusion (fault : InclusionFault)
  | build (fault : BuildFault)
  deriving DecidableEq

namespace LoadFault

def message : LoadFault → String
  | .noFileGiven =>
      "No hightide.config.file given in settings - " ++
        "the hightide service cannot run. Aborting...."
  | .missing path => s!"Configuration file {path} does not exist."
  | .unreadable path fault => s!"Configuration file {path} cannot be read: {fault.message}"
  | .markup source .malformed =>
      s!"Bad configuration file {source}: {MarkupFault.malformed.message}"
  | .markup _ fault => fault.message
  | .inclusion .withoutTarget => InclusionFault.withoutTarget.message
  | .inclusion .nestedTooDeep => InclusionFault.nestedTooDeep.message
  | .inclusion fault => s!"Bad configuration file: include failed: {fault.message}"
  | .build (.structural fault) => fault.message
  | .build (.invalid violations) => "; ".intercalate (violations.map Violation.message)
  | .build (.numeral fault) => fault.message

/-- Whether the fault is one that a policy file is expected to have; any other
interrupts the work that met it. -/
def isExpected : LoadFault → Bool
  | .markup _ .malformed => true
  | .markup _ _ => false
  | .inclusion .withoutTarget => false
  | .inclusion .nestedTooDeep => false
  | .build (.numeral _) => false
  | _ => true

end LoadFault

abbrev Load := Noted LoadNotice LoadFault

namespace PolicyFile

def expandIncludes (stack : CallStack) (store : FileStore τ) (includes : Bool) (base : String)
    (root : Element) : Load Element :=
  if includes then .ofExcept ((Inclusion.expand stack store base root).mapError .inclusion)
  else
    let (stripped, notices) := Inclusion.strip root
    ⟨notices, .ok stripped⟩

/-- The policy set of a document whose markup has been read. -/
def ofElement (stack : CallStack) (store : FileStore τ) (includes : Bool) (base source : String)
    (root : Element) : Load PolicySet := do
  let expanded ← expandIncludes stack store includes base root
  (PolicyDocument.policySet source expanded).mapFault .build

def parse (stack : CallStack) (store : FileStore τ) (includes : Bool) (base source : String)
    (document : String ⊕ Octets) : Load PolicySet := do
  let read := match document with
    | .inl text => Markup.readText text
    | .inr octets => Markup.readOctets octets
  let root ← .ofExcept (read.mapError (.markup source))
  ofElement stack store includes base source root

def load (stack : CallStack) (store : FileStore τ) (includes : Bool) (path : String) :
    Load PolicySet :=
  if !store.contains path then .fail (.missing path)
  else do
    Noted.note (.reading path)
    let octets ← .ofExcept ((store.read path).mapError (.unreadable path))
    let root ← .ofExcept ((Markup.readOctets octets).mapError (.markup path))
    ofElement stack store includes path path root

/-- The file that an include asks for and the store does not have. -/
def missingInclude? (store : FileStore τ) (includes : Bool) (path : String) : Option String :=
  match (load .endless store includes path).outcome with
  | .error (.inclusion (.file (.missing target))) => some target
  | _ => none

end PolicyFile

end PolicyKeeper
