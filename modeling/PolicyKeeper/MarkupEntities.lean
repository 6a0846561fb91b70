import PolicyKeeper.MarkupParts

/-!
# Entities

An entity gives a name to a text.  References are replaced by the text, in
which references are replaced again.  An entity that is being replaced cannot
be referred to, so the replacement ends; and the text that comes out of
entities may not outgrow the document beyond measure.
-/

namespace PolicyKeeper

namespace Markup

inductive EntityDefinition
  | internal (text : List Char)
  /-- Kept outside the document, and never read. -/
  | external

structure Entities where
  definitions : List (String × EntityDefinition)
  /-- Some declarations were not read, so a name may be unknown. -/
  incomplete : Bool
  /-- The document declares that it depends on no declaration outside it. -/
  standalone : Bool

/-- The length of the document, and how much text entities have given so far. -/
structure Growth where
  document : Nat
  replaced : Nat

abbrev Expansion := StateT Growth Option

def growthAllowed : Nat := 8 * 1024 * 1024

def greatestRatio : Nat := 100

/-- Counts the text of an entity, and fails when all text together is both
large and many times the length of the document. -/
def spend (length : Nat) : Expansion Unit := do
  let growth ← get
  let replaced := growth.replaced + length
  set { growth with replaced }
  let total := growth.document + replaced
  guard (total < growthAllowed ∨ total ≤ greatestRatio * growth.document)

namespace Entities

def find? (entities : Entities) (name : String) : Option EntityDefinition :=
  entities.definitions.lookup name

def strict (entities : Entities) : Bool := !entities.incomplete || entities.standalone

/-- The value of an attribute, where every plain blank becomes a space; entities
are replaced by what `value` gives. -/
def expandParts (value : String → Expansion (List Char)) :
    List Part → Expansion (List Char)
  | [] => pure []
  | .plain c :: rest => do
      let more ← expandParts value rest
      pure ((if isBlank c then ' ' else c) :: more)
  | .numbered c :: rest => do
      let more ← expandParts value rest
      pure (c :: more)
  | .entity name :: rest => do
      let here ← match predefined? name with
        | some c => pure [c]
        | none => value name
      let more ← expandParts value rest
      pure (here ++ more)

/-- The value of an entity in an attribute.  `depth` bounds how many entities
can be open inside the present one, and `entered` are the names of those
around it. -/
def entityValue (entities : Entities) :
    Nat → List String → String → Expansion (List Char)
  | depth, entered, name =>
      match entities.find? name with
      | none => if entities.strict then failure else pure []
      | some .external => failure
      | some (.internal text) =>
          if entered.contains name then failure
          else
            match depth with
            | 0 => failure
            | depth + 1 => do
                spend text.length
                if text.contains '<' then failure
                else
                  let parts ← (parts? text : Option (List Part))
                  expandParts (entityValue entities depth (name :: entered)) parts

def foldSpaces (s : List Char) : List Char :=
  let folded := s.foldl (fun done c =>
    if c = ' ' && (done.head?.getD ' ') = ' ' then done else c :: done) []
  (folded.dropWhile (· = ' ')).reverse

def attributeValue (entities : Entities) (tokenized : Bool) (value : List Part) :
    Expansion String := do
  let s ← expandParts (entities.entityValue entities.definitions.length []) value
  pure (String.ofList (if tokenized then foldSpaces s else s))

end Entities

end Markup

end PolicyKeeper
