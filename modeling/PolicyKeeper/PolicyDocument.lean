import PolicyKeeper.BlankCharacters
import PolicyKeeper.Element
import PolicyKeeper.LetterCase
import PolicyKeeper.Noted
import PolicyKeeper.PolicyValidity

/-!
# Policies in a document

The root element is a `configuration` of `srcPath` elements, one for each
policy.  Each has properties and `destPath` elements, which have properties
only.  Tags and attribute names match in any case and any namespace, and
remarks are passed over.  The first structural fault in document order rejects
the document; only then are the policies checked for validity.
-/

namespace PolicyKeeper

inductive LoadNotice
  | reading (path : String)
  | property (policy name value : String)
  | includeIgnored (target : Option String)
  deriving DecidableEq

inductive StructureFault
  | wrongRoot
  | notSource (tag : String)
  | sourceWithoutName
  | notPropertyOrDestination (policy tag : String)
  | destinationWithoutName (policy : String)
  | notProperty (tag : String)
  | incompleteProperty (owner : String)
  | repeatedSource (name : String)
  deriving DecidableEq

def StructureFault.message (fault : StructureFault) : String :=
  "Bad configuration file: " ++
    match fault with
    | .wrongRoot => "top-level element not <configuration>"
    | .notSource tag => s!"the top level item must be srcPath but found {tag}"
    | .sourceWithoutName => "srcPath node does not have a path"
    | .notPropertyOrDestination policy tag =>
        s!"expecting <property> or <destPath> for srcPath {policy} but found {tag}"
    | .destinationWithoutName policy =>
        s!"<destPath> under srcPath {policy} must have a 'name' attribute"
    | .notProperty tag => s!"<destPath> can have only <property> children but found {tag}"
    | .incompleteProperty owner => s!"all properties of {owner} must have name and value"
    | .repeatedSource name => s!"srcPath {name} is declared more than once"

inductive BuildFault
  | structural (fault : StructureFault)
  | invalid (violations : List Violation)
  | numeral (fault : NumeralFault)
  deriving DecidableEq

/-- What follows the last closing brace of a name, in lower case. -/
def localName (name : String) : String :=
  lowered (String.ofList ((name.toList.reverse.takeWhile (· ≠ '\x7d')).reverse))

namespace PolicyDocument

abbrev Build := Noted LoadNotice BuildFault

def refuse (fault : StructureFault) : Build α := .fail (.structural fault)

/-- The value of the first attribute whose local name is `name`, which must
not be empty. -/
def nameAttribute? (e : Element) : Option String :=
  match e.attributes.find? fun (name, _) => localName name = "name" with
  | some (_, "") => none
  | some (_, value) => some value
  | none => none

def lastText? (name : String) (children : List Element) : Option String :=
  (children.reverse.find? fun child => localName child.tag = name).map fun child =>
    trimmed child.text

def property (owner : String) (e : Element) : Build (String × String) :=
  match lastText? "name" e.children, lastText? "value" e.children with
  | some name, some value => pure (name, value)
  | _, _ => refuse (.incompleteProperty owner)

def addProperty (policy owner : String) (p : Properties) (e : Element) :
    Build Properties := do
  let (name, value) ← property owner e
  Noted.note (.property policy name value)
  pure (p.put name (some value))

def destinationProperties (policy path : String) (p : Properties) :
    List Element → Build Properties
  | [] => pure p
  | child :: rest =>
      let tag := localName child.tag
      if tag = "" then destinationProperties policy path p rest
      else if tag = "property" then do
        let p ← addProperty policy s!"destPath {path}" p child
        destinationProperties policy path p rest
      else refuse (.notProperty child.tag)

def destination (policy : String) (e : Element) : Build Destination :=
  match nameAttribute? e with
  | none => refuse (.destinationWithoutName policy)
  | some path => do
      let properties ← destinationProperties policy path .empty e.children
      pure { path, properties }

def policyChildren (name : String) (p : Properties) (destinations : List Destination) :
    List Element → Build (Properties × List Destination)
  | [] => pure (p, destinations)
  | child :: rest =>
      let tag := localName child.tag
      if tag = "" then policyChildren name p destinations rest
      else if tag = "property" then do
        let p ← addProperty name s!"srcPath {name}" p child
        policyChildren name p destinations rest
      else if tag = "destpath" then do
        let d ← destination name child
        policyChildren name p (destinations ++ [d]) rest
      else refuse (.notPropertyOrDestination name child.tag)

def policy (e : Element) : Build Policy :=
  match nameAttribute? e with
  | none => refuse .sourceWithoutName
  | some sourcePath => do
      let (properties, destinations) ← policyChildren sourcePath .empty [] e.children
      pure { sourcePath, properties, destinations }

/-- Reads policies after those already read; no name may come twice. -/
def policies (before : List Policy) : List Element → Build (List Policy)
  | [] => pure before
  | child :: rest =>
      let tag := localName child.tag
      if tag = "" then policies before rest
      else if tag = "srcpath" then do
        let p ← policy child
        if before.any (·.name = p.name) then refuse (.repeatedSource p.name)
        else policies (before ++ [p]) rest
      else refuse (.notSource child.tag)

def validate (policies : List Policy) : Build Unit :=
  match violationsOf policies with
  | .error fault => .fail (.numeral fault)
  | .ok [] => pure ()
  | .ok violations => .fail (.invalid violations)

def policySet (source : String) (root : Element) : Build PolicySet :=
  if localName root.tag ≠ "configuration" then refuse .wrongRoot
  else do
    let read ← policies [] root.children
    validate read
    pure { PolicySet.empty source with policies := read }

end PolicyDocument

end PolicyKeeper
