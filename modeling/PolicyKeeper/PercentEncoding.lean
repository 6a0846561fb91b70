import PolicyKeeper.HexDigits
import PolicyKeeper.Octets

/-!
# Percent encoding

In the path of a request, a percent sign and two hexadecimal digits stand for
an octet; the octets spell characters in UTF-8.  In writing, characters that
are not letters, digits or among the safe ones are replaced in this way.
-/

namespace PolicyKeeper

namespace Percent

def octet? (a b : Char) : Option UInt8 := do
  some (UInt8.ofNat (16 * (← hexValue? a) + (← hexValue? b)))

/-- The octets that a text spells; a percent sign that starts no escape stands
for itself. -/
def octets : List Char → Octets
  | [] => []
  | '%' :: a :: b :: rest =>
      match octet? a b with
      | some octet => octet :: octets rest
      | none => Utf8.encodeChar '%' ++ octets (a :: b :: rest)
  | c :: rest => Utf8.encodeChar c ++ octets rest
termination_by s => s.length

def decoded (s : List Char) : List Char := Utf8.decodeLeniently none [] (octets s)

def isUnreserved (c : Char) : Bool :=
  c.isAlphanum || c == '_' || c == '.' || c == '-' || c == '~'

def escaped (octet : UInt8) : List Char :=
  let digits := [hexDigit (octet.toNat / 16), hexDigit octet.toNat]
  '%' :: digits.map Char.toUpper

def encoded (safe : List Char) (s : List Char) : List Char :=
  s.flatMap fun c =>
    if isUnreserved c || safe.contains c then [c] else (Utf8.encodeChar c).flatMap escaped

end Percent

end PolicyKeeper
