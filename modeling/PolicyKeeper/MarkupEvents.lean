import PolicyKeeper.MarkupPieces
import PolicyKeeper.MarkupDeclarations

/-!
# Content without references

The pieces of a document become events: a start with its complete attributes,
a text, an end.  A reference to an entity is replaced by the events of its
text, which must be balanced by itself.
-/

namespace PolicyKeeper

namespace Markup

inductive Event
  | start (name : String) (attributes : List (String × String))
  | text (s : List Char)
  | finish (name : String)
  deriving DecidableEq

def balanced (depth : Nat) : List Event → Bool
  | [] => depth = 0
  | .start .. :: rest => balanced (depth + 1) rest
  | .text _ :: rest => balanced depth rest
  | .finish _ :: rest =>
      match depth with
      | 0 => false
      | depth + 1 => balanced depth rest

namespace Declarations

def isTokenized (d : Declarations) (element name : String) : Bool :=
  match (d.attributesOf element).find? (·.name = name) with
  | some declaration => declaration.tokenized
  | none => false

def valuesOf (d : Declarations) (element : String) :
    List WrittenAttribute → Expansion (List (String × String))
  | [] => pure []
  | written :: rest => do
      let tokenized := d.isTokenized element written.name
      let value ← d.entities.attributeValue tokenized written.value
      let more ← valuesOf d element rest
      pure ((written.name, value) :: more)

def addDefaults (present : List (String × String)) :
    List AttributeDeclaration → List (String × String)
  | [] => present
  | declaration :: rest =>
      match declaration.default with
      | none => addDefaults present rest
      | some value =>
          if present.any (·.1 = declaration.name) then addDefaults present rest
          else addDefaults (present ++ [(declaration.name, value)]) rest

def completeAttributes (d : Declarations) (element : String)
    (written : List WrittenAttribute) : Expansion (List (String × String)) := do
  guard (written.map (·.name)).Nodup
  let values ← d.valuesOf element written
  pure (addDefaults values (d.attributesOf element))

def runEvents (events : String → Expansion (List Event)) :
    List Part → Expansion (List Event)
  | [] => pure []
  | .plain c :: rest => do
      let more ← runEvents events rest
      pure (joinText c more)
  | .numbered c :: rest => do
      let more ← runEvents events rest
      pure (joinText c more)
  | .entity name :: rest => do
      let here ← match predefined? name with
        | some c => pure [.text [c]]
        | none => events name
      let more ← runEvents events rest
      pure (here ++ more)
where
  joinText (c : Char) : List Event → List Event
    | .text s :: rest => .text (c :: s) :: rest
    | events => .text [c] :: events

def pieceEvents (d : Declarations) (events : String → Expansion (List Event)) :
    List Piece → Expansion (List Event)
  | [] => pure []
  | .run parts :: rest => do
      let here ← runEvents events parts
      let more ← pieceEvents d events rest
      pure (here ++ more)
  | .section s :: rest => do
      let more ← pieceEvents d events rest
      pure (.text s :: more)
  | .start name written closed :: rest => do
      let attributes ← d.completeAttributes name written
      let more ← pieceEvents d events rest
      pure (.start name attributes :: if closed then .finish name :: more else more)
  | .finish name :: rest => do
      let more ← pieceEvents d events rest
      pure (.finish name :: more)
  | .aside :: rest => pieceEvents d events rest

/-- The events of an entity.  `depth` bounds how many entities can be open
inside the present one, whose names are `entered`. -/
def entityEvents (d : Declarations) :
    Nat → List String → String → Expansion (List Event)
  | 0, _, _ => failure
  | depth + 1, entered, name =>
      match d.entities.find? name with
      | some (.internal text) => do
          guard (!entered.contains name)
          spend text.length
          let pieces ← (pieces? text : Option (List Piece))
          let events ← pieceEvents d (entityEvents d depth (name :: entered)) pieces
          guard (balanced 0 events)
          pure events
      | _ => failure

def documentEvents (d : Declarations) (pieces : List Piece) : Expansion (List Event) :=
  pieceEvents d (entityEvents d d.entities.definitions.length []) pieces

end Declarations

end Markup

end PolicyKeeper
