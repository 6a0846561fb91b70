import PolicyKeeper.HexDigits
import PolicyKeeper.PrintableCharacters

/-!
# Quoted text

A quotation stands between apostrophes, or between quotation marks when the
text holds an apostrophe and no quotation mark.  Characters that cannot be
seen are written by their number, with two, four or eight hexadecimal digits.
Octets are quoted in the same way after a letter `b`.
-/

namespace PolicyKeeper

def quoteFor (s : List Char) : Char :=
  if s.contains '\'' && !s.contains '"' then '"' else '\''

/-- A character of a quotation: the mark, the backslash and the three named
blanks are escaped by name, all else that `visible` refuses by number. -/
def quotedCharacter (visible : Char → Bool) (mark c : Char) : List Char :=
  if c = mark || c = '\\' then ['\\', c]
  else if c = '\t' then ['\\', 't']
  else if c = '\n' then ['\\', 'n']
  else if c = '\r' then ['\\', 'r']
  else if visible c then [c]
  else
    let n := c.toNat
    if n < 0x100 then '\\' :: 'x' :: hexDigits 2 n
    else if n < 0x10000 then '\\' :: 'u' :: hexDigits 4 n
    else '\\' :: 'U' :: hexDigits 8 n

def quotedWith (visible : Char → Bool) (s : List Char) : List Char :=
  let mark := quoteFor s
  mark :: s.flatMap (quotedCharacter visible mark) ++ [mark]

def quoted (text : String) : String :=
  String.ofList (quotedWith isPrintable text.toList)

def isVisibleAscii (c : Char) : Bool := 0x20 ≤ c.toNat && c.toNat < 0x7F

def quotedOctets (octets : List UInt8) : String :=
  String.ofList
    ('b' :: quotedWith isVisibleAscii (octets.map fun octet => Char.ofNat octet.toNat))

end PolicyKeeper
