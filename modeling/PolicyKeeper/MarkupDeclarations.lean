import PolicyKeeper.MarkupEntities

/-!
# The declarations before the root element

A document may begin with a declaration of its version and with a document
type, which declares entities and attributes.  The declarations are cut into
tokens up to the root element, and the tokens are read by the grammar of
declarations.  Declarations outside the document are never read; once one of
them might change the meaning of those that follow, these are only checked.
-/

namespace PolicyKeeper

namespace Markup

/-! ## Tokens -/

inductive DeclarationToken
  | name (s : String)
  | joinedName (s : String)
  /-- Name characters and colons in an order that makes no name. -/
  | nameToken (s : String)
  | repeatedName (s : String)
  | hashName (s : String)
  | literal (s : List Char)
  | percent
  | outsideReference
  | openDeclaration (keyword : String)
  | closeDeclaration
  | openBracket
  | closeBracket
  | openGroup
  /-- The end of a group, with its mark of repetition. -/
  | closeGroup (repetition : Option Char)
  | comma
  | bar
  | aside
  deriving DecidableEq

def startsWithOneOf (p : Char → Bool) : List Char → Bool
  | [] => false
  | c :: _ => p c

def endsName (c : Char) : Bool :=
  isBlank c || c == '>' || c == ')' || c == ',' || c == '|' || c == '[' || c == '%'

def isColonName (c : Char) : Bool := c == ':' || isNameCharacter c

def nameTokenOf (s : List Char) : DeclarationToken :=
  let text := String.ofList s
  let before := s.takeWhile (· ≠ ':')
  let after := s.drop (before.length + 1)
  if !startsWithOneOf isNameStart s then .nameToken text
  else if before.length = s.length then .name text
  else if after.isEmpty || after.contains ':' then .nameToken text
  else .joinedName text

def scanNameToken? (s : List Char) : Option (DeclarationToken × List Char) :=
  let run := s.takeWhile isColonName
  let token := nameTokenOf run
  match s.dropWhile isColonName with
  | [] => none
  | c :: rest =>
      if run.isEmpty then none
      else if endsName c then some (token, c :: rest)
      else if c = '?' || c = '*' || c = '+' then
        match token with
        | .name text => some (.repeatedName text, rest)
        | .joinedName text => some (.repeatedName text, rest)
        | _ => none
      else none

def scanLiteral? (mark : Char) (s : List Char) : Option (DeclarationToken × List Char) := do
  let (content, rest) ← splitPast? [mark] s
  guard (startsWithOneOf (fun c => isBlank c || c == '>' || c == '%' || c == '[') rest)
  some (.literal content, rest)

def scanPercent? (s : List Char) : Option (DeclarationToken × List Char) :=
  if startsWithOneOf (fun c => isBlank c || c == '%') s then some (.percent, s)
  else do
    let (_, rest) ← scanName? s
    match rest with
    | ';' :: rest => some (.outsideReference, rest)
    | _ => none

def scanHashName? (s : List Char) : Option (DeclarationToken × List Char) := do
  let (name, rest) ← scanName? s
  guard (startsWithOneOf
    (fun c => isBlank c || c == ')' || c == '>' || c == '%' || c == '|') rest)
  some (.hashName (String.ofList name), rest)

def scanCloseGroup? : List Char → Option (DeclarationToken × List Char)
  | [] => none
  | c :: rest =>
      if c = '*' || c = '?' || c = '+' then some (.closeGroup (some c), rest)
      else if isBlank c || c = '>' || c = ',' || c = '|' || c = ')' then
        some (.closeGroup none, c :: rest)
      else none

def scanKeyword? (s : List Char) : Option (DeclarationToken × List Char) :=
  let isLetter := fun c : Char => c.isAlpha || c == '_'
  let keyword := s.takeWhile isLetter
  let rest := s.dropWhile isLetter
  let ended := match rest with
    | '%' :: more => startsWithOneOf (fun c => !isBlank c && c != '%') more
    | c :: _ => isBlank c
    | [] => false
  if !keyword.isEmpty && ended then
    some (.openDeclaration (String.ofList keyword), rest)
  else none

def scanDeclarationToken? : List Char → Option (DeclarationToken × List Char)
  | '<' :: '?' :: rest => (skipInstruction? rest).map (.aside, ·)
  | '<' :: '!' :: '-' :: '-' :: rest => (skipComment? rest).map (.aside, ·)
  | '<' :: '!' :: rest => scanKeyword? rest
  | '<' :: _ => none
  | '"' :: rest => scanLiteral? '"' rest
  | '\'' :: rest => scanLiteral? '\'' rest
  | '%' :: rest => scanPercent? rest
  | '#' :: rest => scanHashName? rest
  | '>' :: rest => some (.closeDeclaration, rest)
  | '[' :: rest => some (.openBracket, rest)
  | ']' :: ']' :: '>' :: _ => none
  | ']' :: rest => some (.closeBracket, rest)
  | '(' :: rest => some (.openGroup, rest)
  | ')' :: rest => scanCloseGroup? rest
  | ',' :: rest => some (.comma, rest)
  | '|' :: rest => some (.bar, rest)
  | s => scanNameToken? s

def startsElement : List Char → Bool
  | '<' :: c :: _ => isNameStart c
  | _ => false

/-- The tokens before the root element, if there are at most as many as a
bound, and the text from it on. -/
def declarationTokensWithin? :
    Nat → List Char → Option (List DeclarationToken × List Char)
  | bound, s =>
      let rest := skipBlanks s
      if startsElement rest then some ([], rest)
      else
        match bound with
        | 0 => none
        | bound + 1 => do
            let (token, more) ← scanDeclarationToken? rest
            let (tokens, element) ← declarationTokensWithin? bound more
            some (token :: tokens, element)

def declarationTokens? (s : List Char) : Option (List DeclarationToken × List Char) :=
  declarationTokensWithin? s.length s

/-! ## Grammar -/

structure AttributeDeclaration where
  name : String
  tokenized : Bool
  default : Option String

structure Declarations where
  entities : Entities
  attributes : List (String × List AttributeDeclaration)
  /-- Declarations still count; otherwise they are only checked. -/
  inForce : Bool

namespace Declarations

def initial (standalone : Bool) : Declarations :=
  { entities := { definitions := [], incomplete := false, standalone }
    attributes := []
    inForce := true }

def attributesOf (d : Declarations) (element : String) : List AttributeDeclaration :=
  (d.attributes.lookup element).getD []

def withIncomplete (d : Declarations) : Declarations :=
  { d with entities := { d.entities with incomplete := true } }

/-- A reference to declarations outside: what follows counts only in a
document that stands alone. -/
def passOutsideReference (d : Declarations) : Declarations :=
  { d.withIncomplete with inForce := d.entities.standalone }

/-- The first definition of a name counts, and the predefined ones stay. -/
def define (d : Declarations) (name : String) (definition : EntityDefinition) :
    Declarations :=
  if !d.inForce || (predefined? name).isSome || (d.entities.find? name).isSome then d
  else
    { d with entities :=
      { d.entities with definitions := d.entities.definitions ++ [(name, definition)] } }

/-- A declaration that gives a default or an identifier counts only if none
for the attribute came before. -/
def declareAttribute (d : Declarations) (element : String)
    (declaration : AttributeDeclaration) (isIdentifier : Bool) : Declarations :=
  let present := d.attributesOf element
  let repeated := (declaration.default.isSome || isIdentifier) &&
    present.any (·.name = declaration.name)
  if repeated then d
  else
    { d with attributes :=
        (element, present ++ [declaration]) ::
          d.attributes.filter fun (other, _) => other ≠ element }

end Declarations

def isPublicCharacter (c : Char) : Bool :=
  c.isAlphanum || c == ' ' || c == '\n' ||
    ['-', '\'', '(', ')', '+', ',', '.', '/', ':', '=', '?', ';', '!', '*', '#', '@', '$',
      '_', '%'].contains c

def outsideName? : List DeclarationToken → Option (List DeclarationToken)
  | .name "SYSTEM" :: .literal _ :: rest => some rest
  | .name "PUBLIC" :: .literal publicName :: .literal _ :: rest =>
      if publicName.all isPublicCharacter then some rest else none
  | _ => none

/-- The text of an entity: numbers are replaced, references to names stay. -/
def entityText? (literal : List Char) : Option (List Char) := do
  guard (!literal.contains '%')
  let parts ← parts? literal
  some (parts.flatMap fun
    | .plain c => [c]
    | .numbered c => [c]
    | .entity name => '&' :: name.toList ++ [';'])

def entityLiteral? (d : Declarations) (literal : List Char) : Option (List Char) :=
  if d.inForce then entityText? literal else some []

def entityDeclaration? (d : Declarations) :
    List DeclarationToken → Option (Declarations × List DeclarationToken)
  | .percent :: .name _ :: .literal text :: .closeDeclaration :: rest => do
      let _ ← entityLiteral? d text
      some (d, rest)
  | .percent :: .name _ :: rest => do
      match ← outsideName? rest with
      | .closeDeclaration :: rest => some (d, rest)
      | _ => none
  | .name name :: .literal text :: .closeDeclaration :: rest => do
      let text ← entityLiteral? d text
      some (d.define name (.internal text), rest)
  | .name name :: rest => do
      match ← outsideName? rest with
      | .closeDeclaration :: rest => some (d.define name .external, rest)
      | .name "NDATA" :: .name _ :: .closeDeclaration :: rest =>
          some (d.define name .external, rest)
      | _ => none
  | _ => none

def notationDeclaration? : List DeclarationToken → Option (List DeclarationToken)
  | .name _ :: .name "SYSTEM" :: .literal _ :: .closeDeclaration :: rest => some rest
  | .name _ :: .name "PUBLIC" :: .literal publicName :: .closeDeclaration :: rest =>
      if publicName.all isPublicCharacter then some rest else none
  | .name _ :: .name "PUBLIC" :: .literal publicName :: .literal _ :: .closeDeclaration ::
      rest => if publicName.all isPublicCharacter then some rest else none
  | _ => none

def mixedContent? : List DeclarationToken → Option (List DeclarationToken)
  | .closeGroup (some '*') :: .closeDeclaration :: rest => some rest
  | .bar :: .name _ :: rest => mixedContent? rest
  | .bar :: .joinedName _ :: rest => mixedContent? rest
  | _ => none

/-- Groups of elements.  The first argument tells whether an item is expected;
the second holds, from the inside out, the separator of each open group. -/
def groupedContent? :
    Bool → List (Option DeclarationToken) → List DeclarationToken →
      Option (List DeclarationToken)
  | _, [], .closeDeclaration :: rest => some rest
  | _, [], _ => none
  | true, open_, .openGroup :: rest => groupedContent? true (none :: open_) rest
  | true, open_, .name _ :: rest => groupedContent? false open_ rest
  | true, open_, .joinedName _ :: rest => groupedContent? false open_ rest
  | true, open_, .repeatedName _ :: rest => groupedContent? false open_ rest
  | false, _ :: outer, .closeGroup _ :: rest => groupedContent? false outer rest
  | false, separator :: outer, token :: rest =>
      if token = .comma ∨ token = .bar then
        if separator = none ∨ separator = some token then
          groupedContent? true (some token :: outer) rest
        else none
      else none
  | _, _, _ => none

def contentDeclaration? : List DeclarationToken → Option (List DeclarationToken)
  | .name "EMPTY" :: .closeDeclaration :: rest => some rest
  | .name "ANY" :: .closeDeclaration :: rest => some rest
  | .openGroup :: .hashName "PCDATA" :: .closeGroup none :: .closeDeclaration :: rest =>
      some rest
  | .openGroup :: .hashName "PCDATA" :: rest => mixedContent? rest
  | .openGroup :: rest => groupedContent? true [none] rest
  | _ => none

def elementDeclaration? : List DeclarationToken → Option (List DeclarationToken)
  | .name _ :: rest => contentDeclaration? rest
  | .joinedName _ :: rest => contentDeclaration? rest
  | _ => none

def choices? (accepts : DeclarationToken → Bool) :
    List DeclarationToken → Option (List DeclarationToken)
  | token :: .closeGroup none :: rest => if accepts token then some rest else none
  | token :: .bar :: rest => if accepts token then choices? accepts rest else none
  | _ => none

def isChoice : DeclarationToken → Bool
  | .name _ => true
  | .joinedName _ => true
  | .nameToken _ => true
  | _ => false

def isSimpleName : DeclarationToken → Bool
  | .name _ => true
  | _ => false

/-- Whether values are folded and whether the type is that of identifiers. -/
def attributeType? : List DeclarationToken → Option (Bool × Bool × List DeclarationToken)
  | .name "CDATA" :: rest => some (false, false, rest)
  | .name "ID" :: rest => some (true, true, rest)
  | .name "NOTATION" :: .openGroup :: rest =>
      (choices? isSimpleName rest).map fun rest => (true, false, rest)
  | .name type :: rest =>
      if ["IDREF", "IDREFS", "ENTITY", "ENTITIES", "NMTOKEN", "NMTOKENS"].contains type then
        some (true, false, rest)
      else none
  | .openGroup :: rest => (choices? isChoice rest).map fun rest => (true, false, rest)
  | _ => none

def defaultValue (d : Declarations) (tokenized : Bool) (literal : List Char) :
    Expansion (Option String) := do
  if d.inForce then
    guard (!literal.contains '<')
    let parts ← (parts? literal : Option (List Part))
    let value ← d.entities.attributeValue tokenized parts
    pure (some value)
  else pure none

def attributeName? : List DeclarationToken → Option (String × List DeclarationToken)
  | .name name :: rest => some (name, rest)
  | .joinedName name :: rest => some (name, rest)
  | _ => none

def attributeDeclarations (element : String) :
    Nat → Declarations → List DeclarationToken →
      Expansion (Declarations × List DeclarationToken)
  | _, d, .closeDeclaration :: rest => pure (d, rest)
  | 0, _, _ => failure
  | bound + 1, d, tokens => do
      let (name, rest) ← (attributeName? tokens : Option _)
      let (tokenized, isIdentifier, rest) ← (attributeType? rest : Option _)
      let (default, rest) ← match rest with
        | .hashName "IMPLIED" :: rest => pure (none, rest)
        | .hashName "REQUIRED" :: rest => pure (none, rest)
        | .hashName "FIXED" :: .literal text :: rest => do
            pure (← defaultValue d tokenized text, rest)
        | .literal text :: rest => do pure (← defaultValue d tokenized text, rest)
        | _ => failure
      let d :=
        if d.inForce then d.declareAttribute element { name, tokenized, default } isIdentifier
        else d
      attributeDeclarations element bound d rest

def attributesDeclaration (d : Declarations) (tokens : List DeclarationToken) :
    Expansion (Declarations × List DeclarationToken) := do
  let (element, rest) ← (attributeName? tokens : Option _)
  attributeDeclarations element rest.length d rest

def subset : Nat → Declarations → List DeclarationToken →
    Expansion (Declarations × List DeclarationToken)
  | _, d, .closeBracket :: rest => pure (d, rest)
  | 0, _, _ => failure
  | bound + 1, d, .aside :: rest => subset bound d rest
  | bound + 1, d, .outsideReference :: rest => subset bound d.passOutsideReference rest
  | bound + 1, d, .openDeclaration keyword :: rest => do
      let (d, rest) ←
        if keyword = "ENTITY" then (entityDeclaration? d rest : Option _)
        else if keyword = "ATTLIST" then attributesDeclaration d rest
        else if keyword = "ELEMENT" then
          ((elementDeclaration? rest).map (d, ·) : Option _)
        else if keyword = "NOTATION" then
          ((notationDeclaration? rest).map (d, ·) : Option _)
        else failure
      subset bound d rest
  | _, _, _ => failure

def documentTypeBody (d : Declarations) :
    List DeclarationToken → Expansion (List DeclarationToken × Declarations)
  | .closeDeclaration :: rest => pure (rest, d)
  | .openBracket :: rest => do
      let (d, rest) ← subset rest.length d rest
      match rest with
      | .closeDeclaration :: rest => pure (rest, d)
      | _ => failure
  | _ => failure

def documentType (d : Declarations) (tokens : List DeclarationToken) :
    Expansion (List DeclarationToken × Declarations) := do
  let (_, rest) ← (attributeName? tokens : Option _)
  match outsideName? rest with
  | some rest => documentTypeBody d.withIncomplete rest
  | none => documentTypeBody d rest

def readDeclarations (d : Declarations) (tokens : List DeclarationToken) :
    Expansion Declarations := do
  match tokens.dropWhile (· = .aside) with
  | [] => pure d
  | .openDeclaration "DOCTYPE" :: rest =>
      let (rest, d) ← documentType d rest
      if rest.all (· = .aside) then pure d else failure
  | _ => failure

end Markup

end PolicyKeeper
