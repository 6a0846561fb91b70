/-!
# Blank characters

Two readers of policy files disagree about what may stand around a text.
Property texts and switches lose every blank character of Unicode, the
separators U+001C to U+001F and the next-line mark included.  Numerals lose
only the six blanks of ASCII.
-/

namespace PolicyKeeper

def isBlank (c : Char) : Bool :=
  let n := c.toNat
  (0x09 ≤ n && n ≤ 0x0D) || (0x1C ≤ n && n ≤ 0x20) || n == 0x85 || n == 0xA0 ||
  n == 0x1680 || (0x2000 ≤ n && n ≤ 0x200A) || n == 0x2028 || n == 0x2029 ||
  n == 0x202F || n == 0x205F || n == 0x3000

def isAsciiBlank (c : Char) : Bool :=
  let n := c.toNat
  (0x09 ≤ n && n ≤ 0x0D) || n == 0x20

def dropTrailing (p : Char → Bool) (s : List Char) : List Char :=
  (s.reverse.dropWhile p).reverse

def trimWith (p : Char → Bool) (s : List Char) : List Char :=
  dropTrailing p (s.dropWhile p)

def trimmed (text : String) : String :=
  String.ofList (trimWith isBlank text.toList)

end PolicyKeeper
