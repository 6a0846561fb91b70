import PolicyKeeper.Binary64

/-!
# Shortest decimal text

A number is written with the fewest digits that still read back as it, and of
those the ones nearest to it.  The candidates on a grid of `k` digits are the
two neighbours of the number; the first grid with a neighbour inside the
interval of reals that round to the number wins.
-/

namespace PolicyKeeper

namespace Binary64

/-- The reals that round to `mantissa * 2 ^ exponent`, as a lower end, the
number itself and an upper end over the common denominator. -/
structure Neighbourhood where
  lower : Nat
  centre : Nat
  upper : Nat
  denominator : Nat
  closed : Bool

def neighbourhood (mantissa : Nat) (exponent : Int) : Neighbourhood :=
  let narrow := mantissa = mantissaBound / 2 && leastExponent < exponent
  let scale := if 0 ≤ exponent then Nat.pow 2 exponent.toNat else 1
  { lower := (4 * mantissa - (if narrow then 1 else 2)) * scale
    centre := 4 * mantissa * scale
    upper := (4 * mantissa + 2) * scale
    denominator := 4 * (if 0 ≤ exponent then 1 else Nat.pow 2 (-exponent).toNat)
    closed := mantissa % 2 = 0 }

namespace Neighbourhood

/-- Whether `digits * 10 ^ power` rounds to the number. -/
def holds (b : Neighbourhood) (digits : Nat) (power : Int) : Bool :=
  let up := if 0 ≤ power then Nat.pow 10 power.toNat else 1
  let down := if 0 ≤ power then 1 else Nat.pow 10 (-power).toNat
  let value := digits * up * b.denominator
  if b.closed then b.lower * down ≤ value && value ≤ b.upper * down
  else b.lower * down < value && value < b.upper * down

/-- The number of digits before the decimal point; zero or negative when the
number is below one tenth and so on. -/
def decimalPoint (b : Neighbourhood) : Int :=
  if b.denominator ≤ b.centre then
    (Nat.toDigits 10 (b.centre / b.denominator)).length
  else
    let inverse := (b.denominator - 1) / b.centre
    1 - ((Nat.toDigits 10 inverse).length : Int)

/-- The neighbour on the grid of `power` that rounds to the number, the nearer
one if both do, the even one of two equally near. -/
def gridNeighbour? (b : Neighbourhood) (power : Int) : Option Nat :=
  let up := if 0 ≤ power then Nat.pow 10 power.toNat else 1
  let down := if 0 ≤ power then 1 else Nat.pow 10 (-power).toNat
  let number := b.centre * down
  let step := b.denominator * up
  let below := number / step
  let remainder := number % step
  match b.holds below power, b.holds (below + 1) power with
  | true, false => some below
  | false, true => some (below + 1)
  | false, false => none
  | true, true =>
      if 2 * remainder < step then some below
      else if step < 2 * remainder then some (below + 1)
      else some (below + below % 2)

end Neighbourhood

/-- The digits of the shortest decimal and its decimal point, trying grids of
more and more digits; at most 17 are ever needed. -/
def searchShortest (b : Neighbourhood) (point : Int) : Nat → Nat → List Char × Int
  | 0, tried =>
      let power := point - tried
      (Nat.toDigits 10 ((b.gridNeighbour? power).getD 0), point)
  | more + 1, tried =>
      match b.gridNeighbour? (point - tried) with
      | some digits =>
          let text := Nat.toDigits 10 digits
          (text, point - tried + text.length)
      | none => searchShortest b point more (tried + 1)

def withoutTrailingZeros (digits : List Char) : List Char :=
  (digits.reverse.dropWhile (· = '0')).reverse

def shortestDigits (mantissa : Nat) (exponent : Int) : List Char × Int :=
  let b := neighbourhood mantissa exponent
  let (digits, point) := searchShortest b b.decimalPoint 16 1
  (withoutTrailingZeros digits, point)

/-- How the digits are laid out: positional when the power of ten of the first
digit is from -4 to 15, otherwise with an exponent of two digits or more. -/
def layOut (digits : List Char) (point : Int) : List Char :=
  let power := point - 1
  if -4 ≤ power && power < 16 then
    if point ≤ 0 then
      '0' :: '.' :: (List.replicate (-point).toNat '0' ++ digits)
    else
      let count := point.toNat
      let whole := digits.take count ++ List.replicate (count - digits.length) '0'
      let fraction := digits.drop count
      whole ++ '.' :: (if fraction.isEmpty then ['0'] else fraction)
  else
    let magnitude := Nat.toDigits 10 power.natAbs
    let padded := if magnitude.length < 2 then '0' :: magnitude else magnitude
    let fraction := digits.drop 1
    digits.take 1 ++ (if fraction.isEmpty then [] else '.' :: fraction) ++
      'e' :: (if power < 0 then '-' else '+') :: padded

def text : Binary64 → String
  | .notANumber => "nan"
  | .infinite negative => if negative then "-inf" else "inf"
  | .finite negative mantissa exponent =>
      let body :=
        if mantissa = 0 then ['0', '.', '0']
        else
          let (digits, point) := shortestDigits mantissa exponent
          layOut digits point
      String.ofList (if negative then '-' :: body else body)

/-- The text with one decimal place; a half goes to the even digit. -/
def textWithTenths : Binary64 → String
  | .notANumber => "nan"
  | .infinite negative => if negative then "-inf" else "inf"
  | .finite negative mantissa exponent =>
      let (n, d) := if 0 ≤ exponent then (mantissa * Nat.pow 2 exponent.toNat, 1)
        else (mantissa, Nat.pow 2 (-exponent).toNat)
      let tenths := roundedQuotient (10 * n) d
      let body := Nat.toDigits 10 (tenths / 10) ++ '.' :: Nat.toDigits 10 (tenths % 10)
      String.ofList (if negative then '-' :: body else body)

end Binary64

end PolicyKeeper
