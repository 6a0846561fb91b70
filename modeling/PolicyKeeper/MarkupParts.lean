import PolicyKeeper.HexDigits
import PolicyKeeper.MarkupCharacters
import PolicyKeeper.TextParts

/-!
# Characters and references

Between two marks a document holds characters and references.  A reference to
a number is replaced at once and its character is protected: it is never taken
for a blank that could be folded or for markup.  A reference to a name waits
for the entity of that name.
-/

namespace PolicyKeeper

namespace Markup

inductive Part
  | plain (c : Char)
  | numbered (c : Char)
  | entity (name : String)
  deriving DecidableEq

def decimalValue? (c : Char) : Option Nat := (hexValue? c).filter (· < 10)

/-- The number of a character reference; numbers beyond all characters stay
beyond them. -/
def referenceNumber? (base : Nat) (digit? : Char → Option Nat) : List Char → Option Nat
  | [] => none
  | digits =>
      (digits.mapM digit?).map fun values =>
        values.foldl (fun number value => min 0x110000 (base * number + value)) 0

def characterNumbered? (number : Nat) : Option Char :=
  if h : number.isValidChar then
    let c := Char.ofNatAux number h
    if isAllowed c then some c else none
  else none

def reference? : List Char → Option Part
  | '#' :: 'x' :: digits =>
      (referenceNumber? 16 hexValue? digits).bind characterNumbered? |>.map .numbered
  | '#' :: digits =>
      (referenceNumber? 10 decimalValue? digits).bind characterNumbered? |>.map .numbered
  | c :: rest =>
      if isNameStart c && rest.all isNameCharacter then
        some (.entity (String.ofList (c :: rest)))
      else none
  | [] => none

/-- Splits a run without marks into its parts.  The state holds, in reverse,
what has been read of an open reference. -/
def partsFrom : Option (List Char) → List Char → Option (List Part)
  | none, [] => some []
  | some _, [] => none
  | none, c :: rest =>
      if c = '&' then partsFrom (some []) rest
      else (partsFrom none rest).map (.plain c :: ·)
  | some held, c :: rest =>
      if c = ';' then do
        let part ← reference? held.reverse
        let parts ← partsFrom none rest
        some (part :: parts)
      else partsFrom (some (c :: held)) rest

def parts? (run : List Char) : Option (List Part) := partsFrom none run

def predefined? (name : String) : Option Char :=
  if name = "lt" then some '<'
  else if name = "gt" then some '>'
  else if name = "amp" then some '&'
  else if name = "quot" then some '"'
  else if name = "apos" then some '\''
  else none

def splitPast? (mark : List Char) : List Char → Option (List Char × List Char)
  | [] => if mark = [] then some ([], []) else none
  | c :: rest =>
      if mark.isPrefixOf (c :: rest) then some ([], (c :: rest).drop mark.length)
      else (splitPast? mark rest).map fun (before, after) => (c :: before, after)

def occursIn (mark s : List Char) : Bool := (splitPast? mark s).isSome

def skipBlanks (s : List Char) : List Char := s.dropWhile isBlank

def scanName? : List Char → Option (List Char × List Char)
  | [] => none
  | c :: rest =>
      if isNameStart c then
        some (c :: rest.takeWhile isNameCharacter, rest.dropWhile isNameCharacter)
      else none

def scanQualifiedName? (s : List Char) : Option (String × List Char) := do
  let (name, rest) ← scanName? s
  match rest with
  | ':' :: more =>
      let (inner, rest) ← scanName? more
      some (String.ofList (name ++ ':' :: inner), rest)
  | _ => some (String.ofList name, rest)

def skipComment? (s : List Char) : Option (List Char) := do
  let (_, rest) ← splitPast? ['-', '-'] s
  match rest with
  | '>' :: rest => some rest
  | _ => none

/-- The target of a processing instruction after its opening mark, what it
holds, and what follows it. -/
def scanInstruction? (s : List Char) : Option (List Char × List Char × List Char) := do
  let (target, rest) ← scanName? s
  match rest with
  | '?' :: '>' :: rest => some (target, [], rest)
  | c :: _ =>
      if isBlank c then
        let (body, rest) ← splitPast? ['?', '>'] rest
        some (target, body, rest)
      else none
  | [] => none

def skipInstruction? (s : List Char) : Option (List Char) := do
  let (target, _, rest) ← scanInstruction? s
  if target.map Char.toLower = ['x', 'm', 'l'] then none else some rest

end Markup

end PolicyKeeper
