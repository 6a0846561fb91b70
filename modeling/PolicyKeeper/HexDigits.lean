/-!
# Hexadecimal digits

Digits are read in both letter cases and written in small letters.
-/

namespace PolicyKeeper

def hexValue? (c : Char) : Option Nat :=
  let n := c.toNat
  if 0x30 ≤ n && n ≤ 0x39 then some (n - 0x30)
  else if 0x41 ≤ n && n ≤ 0x46 then some (n - 0x37)
  else if 0x61 ≤ n && n ≤ 0x66 then some (n - 0x57)
  else none

def hexDigit (value : Nat) : Char :=
  if value % 16 < 10 then Char.ofNat (0x30 + value % 16)
  else Char.ofNat (0x57 + value % 16)

def hexDigits : Nat → Nat → List Char
  | 0, _ => []
  | width + 1, value => hexDigits width (value / 16) ++ [hexDigit value]

end PolicyKeeper
