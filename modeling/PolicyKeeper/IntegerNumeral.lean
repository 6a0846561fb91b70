import PolicyKeeper.BlankCharacters
import PolicyKeeper.DecimalDigits
import PolicyKeeper.QuotedText

/-!
# Integer numerals

A lenient numeral may stand between blanks, has at most one sign, and may set
single underscores between its digits.  A strict numeral is a sign at most and
digits, nothing else.  Both take decimal digits of any script, and both refuse
decimal numerals of more than 4300 digits.
-/

namespace PolicyKeeper

def digitLimit : Nat := 4300

inductive NumeralFault
  | notInteger (base : Nat) (text : String)
  | notNumber (text : String)
  | tooManyDigits (count : Nat)
  | tooLongToWrite
  | noCharacters
  deriving DecidableEq

namespace NumeralFault

def message : NumeralFault → String
  | .notInteger base text =>
      s!"invalid literal for int() with base {base}: " ++
        String.ofList ((quoted text).toList.take 200)
  | .notNumber text => "could not convert string to float: " ++ quoted text
  | .tooManyDigits count =>
      s!"Exceeds the limit ({digitLimit} digits) for integer string conversion: " ++
        s!"value has {count} digits; use sys.set_int_max_str_digits() to increase the limit"
  | .tooLongToWrite =>
      s!"Exceeds the limit ({digitLimit} digits) for integer string conversion"
  | .noCharacters => "string index out of range"

end NumeralFault

/-- The numeral in ASCII: digits of other scripts become ASCII digits, other
blanks a space, and any other character beyond ASCII a question mark.  A text
in ASCII stays as it is. -/
def asciiNumeral (s : List Char) : List Char :=
  if s.all (·.toNat < 0x80) then s
  else s.map fun c =>
    if c.toNat < 0x7F then c
    else if isBlank c then ' '
    else match digitValue? c with
      | some value => asciiDigit value
      | none => '?'

def splitSign : List Char → Bool × List Char
  | '-' :: rest => (true, rest)
  | '+' :: rest => (false, rest)
  | s => (false, s)

def digitIn? (base : Nat) (c : Char) : Option Nat :=
  let n := c.toNat
  let value? :=
    if 0x30 ≤ n && n ≤ 0x39 then some (n - 0x30)
    else if 0x61 ≤ n && n ≤ 0x7A then some (n - 0x57)
    else if 0x41 ≤ n && n ≤ 0x5A then some (n - 0x37)
    else none
  value?.filter (· < base)

def underscoresSeparate : List Char → Bool
  | [] => true
  | ['_'] => false
  | '_' :: '_' :: _ => false
  | _ :: rest => underscoresSeparate rest

def dropBaseMark (base : Nat) : List Char → List Char
  | '0' :: mark :: rest =>
      let announced :=
        base == 16 && (mark == 'x' || mark == 'X') ||
        base == 8 && (mark == 'o' || mark == 'O') ||
        base == 2 && (mark == 'b' || mark == 'B')
      if announced then
        match rest with
        | '_' :: more => more
        | _ => rest
      else '0' :: mark :: rest
  | s => s

def signed (negative : Bool) (magnitude : Nat) : Int :=
  if negative then -(magnitude : Int) else magnitude

def readIntegerIn (base : Nat) (text : String) : Except NumeralFault Int :=
  let refused := .error (.notInteger base text)
  let (negative, unsigned) := splitSign ((asciiNumeral text.toList).dropWhile isAsciiBlank)
  let body := dropBaseMark base unsigned
  let (numeral, rest) := body.span fun c => c == '_' || (digitIn? base c).isSome
  let digits := numeral.filterMap (digitIn? base)
  if numeral.head? == some '_' || !underscoresSeparate numeral || digits.isEmpty then refused
  else if base == 10 && digitLimit < digits.length then .error (.tooManyDigits digits.length)
  else if !rest.all isAsciiBlank then refused
  else .ok (signed negative (digits.foldl (fun number digit => base * number + digit) 0))

def readInteger (text : String) : Except NumeralFault Int := readIntegerIn 10 text

def strictDigits? (text : String) : Option (Bool × List Nat) :=
  let (negative, unsigned) := splitSign text.toList
  if unsigned.isEmpty then none
  else (unsigned.mapM digitValue?).map (negative, ·)

/-- The integer that a strict numeral spells, if it lies in the given range;
a numeral of any value fails when it is too long. -/
def readStrictInteger (text : String) (least greatest : Int) :
    Except NumeralFault (Option Int) :=
  match strictDigits? text with
  | none => .ok none
  | some (negative, digits) =>
      if digitLimit < digits.length then .error (.tooManyDigits digits.length)
      else
        let number := signed negative (numberOfDigits digits)
        .ok (if number < least || greatest < number then none else some number)

/-- A text that may be missing, and spells no integer then. -/
def readOptionalInteger (text : Option String) (least greatest : Int) :
    Except NumeralFault (Option Int) :=
  match text with
  | none => .ok none
  | some text => readStrictInteger text least greatest

def writeInteger (number : Int) : Except NumeralFault String :=
  let digits := decimalDigits number.natAbs
  if digitLimit < digits.length then .error .tooLongToWrite
  else .ok (String.ofList (if number < 0 then '-' :: digits else digits))

end PolicyKeeper
