import PolicyKeeper.CalendarTime
import PolicyKeeper.NumberNumeral
import PolicyKeeper.Octets
import PolicyKeeper.ShortestDecimal

/-!
# Values of outlines

A scalar stands for nothing, a switch, an integer, a number, a text, octets or
a date.  Collections hold values; the keys of mappings and the members of sets
are scalars, each once, where equal numbers count as one key whatever their
kind, and what is no number equals nothing.  A value has a text, in which
collections show the quoted texts of what they hold, unless an integer in it is
too long or it goes deeper than the stack.
-/

namespace PolicyKeeper

/-- Why a value has no text. -/
inductive ShowingFault
  | numeral (fault : NumeralFault)
  | nestedTooDeep
  deriving DecidableEq

def ShowingFault.message : ShowingFault → String
  | .numeral fault => fault.message
  | .nestedTooDeep => "nested too deep"

inductive ScalarValue
  | null
  | bool (b : Bool)
  | integer (n : Int)
  | number (x : Binary64)
  | text (s : String)
  | octets (s : Octets)
  | date (d : CalendarDate)
  | time (t : CalendarTime)

namespace ScalarValue

def fraction? : ScalarValue → Option (Int × Nat)
  | .bool b => some (if b then 1 else 0, 1)
  | .integer n => some (n, 1)
  | .number (.finite negative mantissa exponent) =>
      let numerator := mantissa * Nat.pow 2 exponent.toNat
      some (signed negative numerator, Nat.pow 2 (-exponent).toNat)
  | _ => none

def sameKey (a b : ScalarValue) : Bool :=
  match a, b with
  | .null, .null => true
  | .text s, .text t => s = t
  | .octets s, .octets t => s = t
  | .date d, .date e => d = e
  | .time t, .time u => t.sameAs u
  | .number (.infinite s), .number (.infinite t) => s = t
  | _, _ =>
      match a.fraction?, b.fraction? with
      | some (n, d), some (m, e) => n * e = m * d
      | _, _ => false

def plainText : ScalarValue → Except ShowingFault String
  | .null => .ok "None"
  | .bool b => .ok (if b then "True" else "False")
  | .integer n => (writeInteger n).mapError .numeral
  | .number x => .ok x.text
  | .text s => .ok s
  | .octets s => .ok (quotedOctets s)
  | .date d => .ok d.text
  | .time t => .ok t.text

def innerText : ScalarValue → Except ShowingFault String
  | .text s => .ok (quoted s)
  | .date d => .ok d.innerText
  | .time t => .ok t.innerText
  | s => s.plainText

def isEmpty : ScalarValue → Bool
  | .null => true
  | .bool b => !b
  | .integer n => n = 0
  | .number (.finite _ mantissa _) => mantissa = 0
  | .number _ => false
  | .text s => s = ""
  | .octets s => s.isEmpty
  | .date _ => false
  | .time _ => false

end ScalarValue

inductive CollectionKind
  | list
  | mapping
  | set
  deriving DecidableEq

inductive OutlineValue
  | scalar (s : ScalarValue)
  | list (items : List OutlineValue)
  | pairs (items : List (OutlineValue × OutlineValue))
  | mapping (entries : List (ScalarValue × OutlineValue))
  | set (members : List ScalarValue)
  /-- A collection that this place is inside of. -/
  | enclosing (kind : CollectionKind)
  /-- A collection that goes deeper than the stack, so that it cannot be shown. -/
  | bottomless

namespace OutlineValue

def joined (left right : String) (items : List String) : String :=
  left ++ ", ".intercalate items ++ right

def openBrace : String := "\x7b"

def closeBrace : String := "\x7d"

mutual

/-- The text of a value inside a collection. -/
def innerText : OutlineValue → Except ShowingFault String
  | .scalar s => s.innerText
  | .list items => do .ok (joined "[" "]" (← itemTexts items))
  | .pairs items => do .ok (joined "[" "]" (← pairTexts items))
  | .mapping entries => do .ok (joined openBrace closeBrace (← entryTexts entries))
  | .set members =>
      if members.isEmpty then .ok "set()"
      else do .ok (joined openBrace closeBrace (← members.mapM ScalarValue.innerText))
  | .enclosing .list => .ok "[...]"
  | .enclosing .mapping => .ok (openBrace ++ "..." ++ closeBrace)
  | .enclosing .set => .ok "set(...)"
  | .bottomless => .error .nestedTooDeep

def itemTexts : List OutlineValue → Except ShowingFault (List String)
  | [] => .ok []
  | item :: rest => do
      let text ← innerText item
      .ok (text :: (← itemTexts rest))

def pairTexts : List (OutlineValue × OutlineValue) → Except ShowingFault (List String)
  | [] => .ok []
  | (key, value) :: rest => do
      let key ← innerText key
      let value ← innerText value
      .ok (joined "(" ")" [key, value] :: (← pairTexts rest))

def entryTexts : List (ScalarValue × OutlineValue) → Except ShowingFault (List String)
  | [] => .ok []
  | (key, value) :: rest => do
      let key ← key.innerText
      let value ← innerText value
      .ok ((key ++ ": " ++ value) :: (← entryTexts rest))

end

/-- The text of a value by itself. -/
def text : OutlineValue → Except ShowingFault String
  | .scalar s => s.plainText
  | value => value.innerText

def isEmpty : OutlineValue → Bool
  | .scalar s => s.isEmpty
  | .list items => items.isEmpty
  | .pairs items => items.isEmpty
  | .mapping entries => entries.isEmpty
  | .set members => members.isEmpty
  | .enclosing _ => false
  | .bottomless => false

end OutlineValue

end PolicyKeeper
