import PolicyKeeper.Base64
import PolicyKeeper.OutlineTags
import PolicyKeeper.OutlineValue

/-!
# Scalars from their texts

The tag of a scalar decides how its text is read.  Underscores in numerals do
not count; integers may be in base two, eight, ten or sixteen, or in sixtieths
after colons, as may numbers.
-/

namespace PolicyKeeper

inductive ScalarFault
  | malformed
  | numeral (fault : NumeralFault)
  | notSwitch (word : String)
  | notDate
  /-- A mapping is to be a date, which is looked for where only a scalar has one. -/
  | dateInMapping
  /-- A power of sixty is too large to be a number. -/
  | beyondNumbers
  | calendar (fault : CalendarFault)
  deriving DecidableEq

namespace Outline

def withoutUnderscores (s : List Char) : List Char := s.filter (· ≠ '_')

def sixtieths (parts : List Int) : Int := parts.foldl (fun number part => 60 * number + part) 0

def readUnsigned (s : List Char) : Except NumeralFault Int :=
  match s with
  | [] => .error .noCharacters
  | ['0'] => .ok 0
  | '0' :: 'b' :: digits => readIntegerIn 2 (String.ofList digits)
  | '0' :: 'x' :: digits => readIntegerIn 16 (String.ofList digits)
  | '0' :: _ => readIntegerIn 8 (String.ofList s)
  | _ =>
      if s.contains ':' then do
        .ok (sixtieths (← (partsAt ':' s).mapM fun part => readInteger (String.ofList part)))
      else readInteger (String.ofList s)

def readOutlineInteger (text : String) : Except NumeralFault Int := do
  let s := withoutUnderscores text.toList
  if s.isEmpty then .error .noCharacters
  else
    let (negative, unsigned) := splitSign s
    let magnitude ← readUnsigned unsigned
    .ok (if negative then -magnitude else magnitude)

def negated : Binary64 → Binary64
  | .notANumber => .notANumber
  | .infinite negative => .infinite (!negative)
  | .finite negative mantissa exponent => .finite (!negative) mantissa exponent

/-- Adds parts of sixtieths, the last one first, each with its worth. -/
def addSixtieths : Nat → Binary64 → List Binary64 → Except ScalarFault Binary64
  | _, sum, [] => .ok sum
  | worth, sum, part :: rest =>
      match Binary64.ofNat worth with
      | .infinite _ => .error .beyondNumbers
      | factor => addSixtieths (worth * 60) (sum + part * factor) rest

def isNoNumber (s : List Char) : Bool := s = ".nan".toList

def readMagnitude (s : List Char) : Except ScalarFault Binary64 :=
  if s = ".inf".toList then .ok (.infinite false)
  else if isNoNumber s then .ok .notANumber
  else if s.contains ':' then do
    let parts ← (partsAt ':' s).mapM fun part =>
      (readNumber (String.ofList part)).mapError ScalarFault.numeral
    addSixtieths 1 (Binary64.zero false) parts.reverse
  else (readNumber (String.ofList s)).mapError .numeral

/-- The characters that count in a number. -/
def plainNumber (text : String) : List Char :=
  (withoutUnderscores text.toList).map Char.toLower

def readOutlineNumber (text : String) : Except ScalarFault Binary64 := do
  let s := plainNumber text
  if s.isEmpty then .error (.numeral .noCharacters)
  else
    let (negative, unsigned) := splitSign s
    let magnitude ← readMagnitude unsigned
    .ok (if negative then negated magnitude else magnitude)

def readSwitch (text : String) : Except ScalarFault Bool :=
  let word := String.ofList (text.toList.map Char.toLower)
  if ["yes", "true", "on"].contains word then .ok true
  else if ["no", "false", "off"].contains word then .ok false
  else .error (.notSwitch word)

def readOctets (text : String) : Except ScalarFault Octets :=
  if text.toList.all (·.toNat < 0x80) then
    match Base64.decode text.toList with
    | some octets => .ok octets
    | none => .error .malformed
  else .error .malformed

/-- The first six digits of a fraction, as microseconds. -/
def microseconds (fraction : List Char) : Nat :=
  let digits := fraction.take 6
  decimal (digits ++ List.replicate (6 - digits.length) '0')

def readDate (text : String) : Except ScalarFault ScalarValue :=
  match dateOf? (dropFinalBreak text.toList) with
  | none => .error .notDate
  | some written =>
      let date := CalendarDate.make written.year written.month written.day
      match written.time with
      | none => (date.map ScalarValue.date).mapError .calendar
      | some t =>
          let offset := t.zone.map fun (negative, hours, minutes) =>
            signed negative (hours * 3600 + minutes * 60)
          let time := CalendarTime.make date t.hour t.minute t.second
            (microseconds t.fraction) offset
          (time.map ScalarValue.time).mapError .calendar

def readScalar? (tag text : String) : Option (Except ScalarFault ScalarValue) :=
  if tag = Tag.null then some (.ok .null)
  else if tag = Tag.bool then some ((readSwitch text).map .bool)
  else if tag = Tag.integer then
    some (((readOutlineInteger text).map ScalarValue.integer).mapError .numeral)
  else if tag = Tag.number then
    some ((readOutlineNumber text).map .number)
  else if tag = Tag.octets then some ((readOctets text).map .octets)
  else if tag = Tag.timestamp then some (readDate text)
  else if tag = Tag.text then some (.ok (.text text))
  else none

end Outline

end PolicyKeeper
