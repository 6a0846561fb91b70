import PolicyKeeper.Element
import PolicyKeeper.MarkupEvents
import PolicyKeeper.Namespaces

/-!
# Reading markup

A text is well formed when it has at most a version declaration, a document
type, one root element, and otherwise only comments, instructions and blanks.
Reading gives the tree of the root element; comments and instructions leave no
trace in it.
-/

namespace PolicyKeeper

namespace Markup

/-! ## The version declaration -/

/-- One setting of a version declaration, with the blanks before it: its name
and value, and what follows.  Blanks alone are no setting. -/
def scanSetting? (s : List Char) :
    Option (Option (List Char × List Char) × List Char) :=
  let rest := skipBlanks s
  if rest.isEmpty then some (none, [])
  else if rest.length = s.length then none
  else
    let name := rest.takeWhile fun c => c ≠ '=' && !isBlank c
    match skipBlanks (rest.drop name.length) with
    | '=' :: rest =>
        match skipBlanks rest with
        | mark :: rest =>
            if (mark = '"' || mark = '\'') && !name.isEmpty then
              (splitPast? [mark] rest).bind fun (value, rest) =>
                if value.all fun c => c.isAlphanum || c == '.' || c == '-' || c == '_' then
                  some (some (name, value), rest)
                else none
            else none
        | [] => none
    | _ => none

structure VersionDeclaration where
  encoding : Option String
  standalone : Bool

/-- What follows the version: the encoding and whether the document stands
alone, both optional and in this order. -/
def scanStandalone? (encoding : Option String) (s : List Char) : Option VersionDeclaration := do
  match ← scanSetting? s with
  | (none, _) => some { encoding, standalone := false }
  | (some (name, value), rest) =>
      guard (name = "standalone".toList ∧ rest.all isBlank)
      if value = "yes".toList then some { encoding, standalone := true }
      else if value = "no".toList then some { encoding, standalone := false }
      else none

def scanEncoding? (s : List Char) : Option VersionDeclaration := do
  match ← scanSetting? s with
  | (none, _) => some { encoding := none, standalone := false }
  | (some (name, value), rest) =>
      if name = "encoding".toList then
        guard (startsWithOneOf Char.isAlpha value)
        scanStandalone? (some (String.ofList value)) rest
      else scanStandalone? none s

def versionDeclaration? (s : List Char) : Option VersionDeclaration := do
  match ← scanSetting? s with
  | (some (name, _), rest) =>
      guard (name = "version".toList)
      scanEncoding? rest
  | (none, _) => none

def scanVersionDeclaration? (s : List Char) :
    Option (Option VersionDeclaration × List Char) :=
  match s with
  | '<' :: '?' :: rest =>
      match scanInstruction? rest with
      | some (['x', 'm', 'l'], body, rest) =>
          (versionDeclaration? body).map fun declaration => (some declaration, rest)
      | _ => some (none, s)
  | _ => some (none, s)

/-! ## The tree -/

/-- An element that is not finished: its name as written, its full name and
attributes, the namespaces in force, and its content so far in reverse. -/
structure OpenElement where
  written : String
  tag : String
  attributes : List (String × String)
  scope : Scope
  content : List Node

namespace OpenElement

def add (o : OpenElement) (node : Node) : OpenElement :=
  { o with content := node :: o.content }

def close (o : OpenElement) : Element :=
  { tag := o.tag, attributes := o.attributes, content := o.content.reverse }

def ofEvent? (scope : Scope) (name : String) (attributes : List (String × String)) :
    Option OpenElement := do
  let scope ← bindAll? scope attributes
  let tag ← elementName? scope name
  let attributes ← resolveAttributes? scope attributes
  some { written := name, tag, attributes, scope, content := [] }

end OpenElement

/-- The element that events build, given the open elements from the inside
out. -/
def buildFrom : List OpenElement → List Event → Option Element
  | _, [] => none
  | [], .start name attributes :: rest => do
      buildFrom [← OpenElement.ofEvent? initialScope name attributes] rest
  | [], _ :: _ => none
  | inner :: outer, .start name attributes :: rest => do
      let opened ← OpenElement.ofEvent? inner.scope name attributes
      buildFrom (opened :: inner :: outer) rest
  | inner :: outer, .text s :: rest =>
      buildFrom (inner.add (.text (String.ofList s)) :: outer) rest
  | inner :: outer, .finish name :: rest =>
      if name ≠ inner.written then none
      else
        match outer with
        | [] => if rest.isEmpty then some inner.close else none
        | next :: outer => buildFrom (next.add inner.close.toNode :: outer) rest

def splitRoot : Nat → List Piece → List Piece × List Piece
  | _, [] => ([], [])
  | depth, piece :: rest =>
      let further := fun depth =>
        let (root, after) := splitRoot depth rest
        (piece :: root, after)
      match piece with
      | .start _ _ false => further (depth + 1)
      | .start _ _ true => if depth = 0 then ([piece], rest) else further depth
      | .finish _ => if depth ≤ 1 then ([piece], rest) else further (depth - 1)
      | _ => further depth

def isBlankPiece : Piece → Bool
  | .aside => true
  | .run parts => parts.all fun
      | .plain c => isBlank c
      | _ => false
  | _ => false

def expandDocument (standalone : Bool) (tokens : List DeclarationToken)
    (pieces : List Piece) : Expansion (List Event) := do
  let d ← readDeclarations (.initial standalone) tokens
  d.documentEvents pieces

def read? (text : List Char) : Option Element := do
  let s := normalizeBreaks text
  guard (s.all isAllowed)
  let (version, s) ← scanVersionDeclaration? s
  let (tokens, s) ← declarationTokens? s
  let (root, after) := splitRoot 0 (← pieces? s)
  guard (after.all isBlankPiece)
  let (events, _) ← (expandDocument (version.any (·.standalone)) tokens root).run
    { document := text.length, replaced := 0 }
  buildFrom [] events

end Markup

end PolicyKeeper
