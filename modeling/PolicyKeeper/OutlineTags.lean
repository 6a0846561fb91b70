import PolicyKeeper.TextParts

/-!
# Tags of plain scalars

A plain scalar has no tag of its own; its form tells what it stands for.  The
forms are those of switches, of integers in five notations, of numbers with a
point, of dates, of nothing, and of the two special keys.
-/

namespace PolicyKeeper

namespace Outline

namespace Tag

def standard (name : String) : String := "tag:yaml.org,2002:" ++ name

def null : String := standard "null"

def bool : String := standard "bool"

def integer : String := standard "int"

def number : String := standard "float"

def octets : String := standard "binary"

def timestamp : String := standard "timestamp"

def orderedMapping : String := standard "omap"

def pairs : String := standard "pairs"

def set : String := standard "set"

def text : String := standard "str"

def sequence : String := standard "seq"

def mapping : String := standard "map"

def merge : String := standard "merge"

def value : String := standard "value"

def outline : String := standard "yaml"

end Tag

/-! ## Forms -/

def dropSign : List Char → List Char
  | '+' :: rest => rest
  | '-' :: rest => rest
  | s => s

def isDigitOrLow (c : Char) : Bool := c.isDigit || c == '_'

def startsWithDigit : List Char → Bool
  | [] => false
  | c :: _ => c.isDigit

/-- Parts after colons: one digit, or two of which the first is below six. -/
def isSixtieth : List Char → Bool
  | [a] => a.isDigit
  | [a, b] => a.isDigit && a.toNat < 0x36 && b.isDigit
  | _ => false

def isBinaryDigit (c : Char) : Bool := c == '0' || c == '1' || c == '_'

def isOctalDigit (c : Char) : Bool := (0x30 ≤ c.toNat && c.toNat ≤ 0x37) || c == '_'

def isHexDigit (c : Char) : Bool :=
  c.isDigit || c == '_' || ('a' ≤ c && c ≤ 'f') || ('A' ≤ c && c ≤ 'F')

def isIntegerForm (s : List Char) : Bool :=
  match dropSign s with
  | [] => false
  | ['0'] => true
  | '0' :: 'b' :: digits => !digits.isEmpty && digits.all isBinaryDigit
  | '0' :: 'x' :: digits => !digits.isEmpty && digits.all isHexDigit
  | '0' :: digits => digits.all isOctalDigit
  | s =>
      match partsAt ':' s with
      | first :: more =>
          startsWithDigit first && first.all isDigitOrLow && more.all isSixtieth
      | [] => false

def isExponent : List Char → Bool
  | [] => true
  | e :: sign :: digits =>
      (e == 'e' || e == 'E') && (sign == '+' || sign == '-') && !digits.isEmpty &&
        digits.all Char.isDigit
  | _ => false

def isPointForm (s : List Char) : Bool :=
  let whole := s.takeWhile isDigitOrLow
  match s.drop whole.length with
  | '.' :: rest =>
      startsWithDigit whole && isExponent (rest.dropWhile isDigitOrLow)
  | _ => false

def isFractionForm : List Char → Bool
  | '.' :: rest => startsWithDigit rest && isExponent (rest.dropWhile isDigitOrLow)
  | _ => false

def isClockForm (s : List Char) : Bool :=
  let whole := s.takeWhile (· ≠ '.')
  match s.drop whole.length with
  | '.' :: rest =>
      match partsAt ':' whole with
      | first :: second :: more =>
          startsWithDigit first && first.all isDigitOrLow && (second :: more).all isSixtieth &&
            rest.all isDigitOrLow
      | _ => false
  | _ => false

def isNumberForm (s : List Char) : Bool :=
  let unsigned := dropSign s
  isPointForm unsigned || isFractionForm s || isClockForm unsigned ||
    [".inf", ".Inf", ".INF"].contains (String.ofList unsigned) ||
    [".nan", ".NaN", ".NAN"].contains (String.ofList s)

/-! ## Dates -/

/-- A date as written, with its time and the offset of its zone. -/
structure WrittenTime where
  hour : Nat
  minute : Nat
  second : Nat
  fraction : List Char
  /-- Whether the offset is negative, and its hours and minutes. -/
  zone : Option (Bool × Nat × Nat)

structure WrittenDate where
  year : Nat
  month : Nat
  day : Nat
  time : Option WrittenTime

def decimal (s : List Char) : Nat :=
  s.foldl (fun number c => 10 * number + (c.toNat - 0x30)) 0

def takeDigits? (least most : Nat) (s : List Char) : Option (List Char × List Char) :=
  let digits := (s.take most).takeWhile Char.isDigit
  if digits.length < least then none else some (digits, s.drop digits.length)

def expect? (c : Char) : List Char → Option (List Char)
  | [] => none
  | d :: rest => if d = c then some rest else none

def isDateBlank (c : Char) : Bool := c == ' ' || c == '\t'

def zoneOf? (s : List Char) : Option (Option (Bool × Nat × Nat)) :=
  match s.dropWhile isDateBlank with
  | [] => if s = [] then some none else none
  | ['Z'] => some (some (false, 0, 0))
  | sign :: rest => do
      guard (sign = '+' ∨ sign = '-')
      let (hours, rest) ← takeDigits? 1 2 rest
      let minutes ← match rest with
        | [] => some 0
        | ':' :: rest => do
            let (minutes, rest) ← takeDigits? 2 2 rest
            if rest.isEmpty then some (decimal minutes) else none
        | _ => none
      some (some (sign = '-', decimal hours, minutes))

def timeOf? (s : List Char) : Option WrittenTime := do
  let rest ← match s with
    | 'T' :: rest => some rest
    | 't' :: rest => some rest
    | c :: _ => if isDateBlank c then some (s.dropWhile isDateBlank) else none
    | [] => none
  let (hour, rest) ← takeDigits? 1 2 rest
  let (minute, rest) ← takeDigits? 2 2 (← expect? ':' rest)
  let (second, rest) ← takeDigits? 2 2 (← expect? ':' rest)
  let (fraction, rest) := match rest with
    | '.' :: rest => (rest.takeWhile Char.isDigit, rest.dropWhile Char.isDigit)
    | _ => ([], rest)
  let zone ← zoneOf? rest
  some { hour := decimal hour, minute := decimal minute, second := decimal second,
         fraction, zone }

def dateOf? (s : List Char) : Option WrittenDate := do
  let (year, rest) ← takeDigits? 4 4 s
  let (month, rest) ← takeDigits? 1 2 (← expect? '-' rest)
  let (day, rest) ← takeDigits? 1 2 (← expect? '-' rest)
  let time ← if rest.isEmpty then some none else (timeOf? rest).map some
  some { year := decimal year, month := decimal month, day := decimal day, time }

/-- A plain date without time has two digits for month and day. -/
def isDateForm (s : List Char) : Bool :=
  match dateOf? s with
  | none => false
  | some date => date.time.isSome || s.length = 10

/-! ## The tag -/

def switchWords : List String :=
  ["yes", "Yes", "YES", "no", "No", "NO", "true", "True", "TRUE", "false", "False", "FALSE",
    "on", "On", "ON", "off", "Off", "OFF"]

def nullWords : List String := ["~", "null", "Null", "NULL", ""]

def dropFinalBreak (s : List Char) : List Char :=
  if s.getLast? = some '\n' then s.dropLast else s

/-- The tag that the form of a plain scalar gives. -/
def Tag.ofPlain (text : String) : String :=
  let s := dropFinalBreak text.toList
  let word := String.ofList s
  if text ≠ "" && word = "" then Tag.text
  else if switchWords.contains word then Tag.bool
  else if isNumberForm s then Tag.number
  else if isIntegerForm s then Tag.integer
  else if word = "<<" then Tag.merge
  else if nullWords.contains word then Tag.null
  else if isDateForm s then Tag.timestamp
  else if word = "=" then Tag.value
  else if ["!", "&", "*"].contains word then Tag.outline
  else Tag.text

end Outline

end PolicyKeeper
