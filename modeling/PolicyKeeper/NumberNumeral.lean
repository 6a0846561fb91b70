import PolicyKeeper.IntegerNumeral
import PolicyKeeper.Binary64

/-!
# Number numerals

A number is written with a sign at most, digits with at most one point among
them, and an exponent at most; or it is one of the words for infinity and for
no number, in any case.  Blanks around it and single underscores between its
digits are ignored.
-/

namespace PolicyKeeper

/-- The text without underscores, if each stands between two ASCII digits. -/
def dropDigitSeparators : Option Char → List Char → Option (List Char)
  | _, [] => some []
  | before, '_' :: rest =>
      let between := (before.any Char.isDigit) && (rest.head?.any Char.isDigit)
      if between then dropDigitSeparators (some '_') rest else none
  | _, c :: rest => (dropDigitSeparators (some c) rest).map (c :: ·)

/-- The exponent announced by a letter `e`; a letter that no digits follow is
not part of the numeral. -/
def splitExponent (s : List Char) : Int × List Char :=
  match s with
  | [] => (0, [])
  | mark :: rest =>
      let (negative, unsigned) := splitSign rest
      let digits := unsigned.takeWhile Char.isDigit
      if (mark == 'e' || mark == 'E') && !digits.isEmpty then
        (signed negative (numberOfDigits (digits.filterMap digitValue?)),
          unsigned.dropWhile Char.isDigit)
      else (0, s)

def splitFraction : List Char → List Char × List Char
  | '.' :: rest => rest.span Char.isDigit
  | s => ([], s)

def numberOf? (s : List Char) : Option Binary64 :=
  let (negative, unsigned) := splitSign s
  let word := String.ofList (unsigned.map Char.toLower)
  if word = "inf" ∨ word = "infinity" then some (.infinite negative)
  else if word = "nan" then some .notANumber
  else
    let (whole, afterWhole) := unsigned.span Char.isDigit
    let (fraction, afterFraction) := splitFraction afterWhole
    let digits := whole ++ fraction
    let (power, rest) := splitExponent afterFraction
    if digits.isEmpty || !rest.isEmpty then none
    else some (.ofDecimal negative (numberOfDigits (digits.filterMap digitValue?))
      (power - fraction.length))

def readNumber (text : String) : Except NumeralFault Binary64 :=
  match dropDigitSeparators none (trimWith isAsciiBlank (asciiNumeral text.toList)) with
  | none => .error (.notNumber text)
  | some s =>
      match numberOf? s with
      | none => .error (.notNumber text)
      | some number => .ok number

end PolicyKeeper
