import PolicyKeeper.QuotedText
import PolicyKeeper.ShortestDecimal

/-!
# JSON texts

A value is written without blanks and in ASCII: the keys of an object are in
alphabetical order, and characters beyond ASCII are written by their UTF-16
numbers.
-/

namespace PolicyKeeper

inductive JsonValue
  | null
  | bool (b : Bool)
  | integer (n : Int)
  | number (x : Binary64)
  | text (s : String)
  | list (items : List JsonValue)
  | object (entries : List (String × JsonValue))

namespace JsonValue

def unit (number : Nat) : List Char := '\\' :: 'u' :: hexDigits 4 number

def escaped (c : Char) : List Char :=
  let n := c.toNat
  if c = '"' || c = '\\' then ['\\', c]
  else if c = '\n' then ['\\', 'n']
  else if c = '\r' then ['\\', 'r']
  else if c = '\t' then ['\\', 't']
  else if n = 0x08 then ['\\', 'b']
  else if n = 0x0C then ['\\', 'f']
  else if 0x20 ≤ n && n < 0x80 then [c]
  else if n < 0x10000 then unit n
  else unit (0xD800 + (n - 0x10000) / 0x400) ++ unit (0xDC00 + (n - 0x10000) % 0x400)

def quotation (s : String) : List Char := '"' :: s.toList.flatMap escaped ++ ['"']

def numeral : Binary64 → List Char
  | .notANumber => "NaN".toList
  | .infinite negative => if negative then "-Infinity".toList else "Infinity".toList
  | x => x.text.toList

def separated : List (List Char) → List Char
  | [] => []
  | [part] => part
  | part :: rest => part ++ ',' :: separated rest

def openBrace : Char := Char.ofNat 0x7B

def closeBrace : Char := Char.ofNat 0x7D

mutual

def characters : JsonValue → List Char
  | .null => "null".toList
  | .bool b => if b then "true".toList else "false".toList
  | .integer n => (toString n).toList
  | .number x => numeral x
  | .text s => quotation s
  | .list items => '[' :: separated (itemCharacters items) ++ [']']
  | .object entries =>
      let written := (entryCharacters entries).mergeSort fun a b => decide (a.1 ≤ b.1)
      openBrace :: separated (written.map (·.2)) ++ [closeBrace]

def itemCharacters : List JsonValue → List (List Char)
  | [] => []
  | item :: rest => characters item :: itemCharacters rest

def entryCharacters : List (String × JsonValue) → List (String × List Char)
  | [] => []
  | (key, value) :: rest =>
      (key, quotation key ++ ':' :: characters value) :: entryCharacters rest

end

def write (value : JsonValue) : String := String.ofList value.characters

end JsonValue

end PolicyKeeper
