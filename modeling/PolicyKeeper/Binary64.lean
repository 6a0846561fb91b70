/-!
# Binary floating point of 64 bits

Times and intervals are numbers `m * 2 ^ e` with a mantissa of at most 53 bits
and an exponent from -1074 to 971, the two infinities, and one value that is
no number.  Every operation is the exact rational result rounded once, to the
nearest representable number, halves going to the even mantissa.
-/

namespace PolicyKeeper

inductive Binary64
  | notANumber
  | infinite (negative : Bool)
  | finite (negative : Bool) (mantissa : Nat) (exponent : Int)
  deriving DecidableEq, Repr

namespace Binary64

def leastExponent : Int := -1074

def greatestExponent : Int := 971

def mantissaBound : Nat := Nat.pow 2 53

def zero (negative : Bool) : Binary64 := .finite negative 0 leastExponent

/-- Numerator and denominator of `number / denominator / 2 ^ exponent`. -/
def scaledDown (number denominator : Nat) (exponent : Int) : Nat × Nat :=
  if 0 ≤ exponent then (number, denominator * Nat.pow 2 exponent.toNat)
  else (number * Nat.pow 2 (-exponent).toNat, denominator)

/-- The nearest integer to a quotient; a half goes to the even neighbour. -/
def roundedQuotient (number denominator : Nat) : Nat :=
  let quotient := number / denominator
  let remainder := number % denominator
  if 2 * remainder < denominator then quotient
  else if denominator < 2 * remainder then quotient + 1
  else quotient + quotient % 2

/-- The exponent at which a positive quotient has a mantissa of 53 bits, or the
least exponent when it is too small for that. -/
def exponentFor (number denominator : Nat) : Int :=
  let guess := max leastExponent
    ((Nat.log2 number : Int) - (Nat.log2 denominator : Int) - 53)
  let (n, d) := scaledDown number denominator guess
  if n / d < mantissaBound then guess else guess + 1

/-- The representable number nearest to a quotient of natural numbers. -/
def ofQuotient (negative : Bool) (number denominator : Nat) : Binary64 :=
  if number = 0 then zero negative
  else
    let exponent := exponentFor number denominator
    let (n, d) := scaledDown number denominator exponent
    let rounded := roundedQuotient n d
    let (mantissa, exponent) :=
      if rounded < mantissaBound then (rounded, exponent)
      else (rounded / 2, exponent + 1)
    if greatestExponent < exponent then .infinite negative
    else if mantissa = 0 then zero negative
    else .finite negative mantissa exponent

def ofInt (number : Int) : Binary64 := ofQuotient (number < 0) number.natAbs 1

def ofNat (number : Nat) : Binary64 := ofQuotient false number 1

instance (n : Nat) : OfNat Binary64 n := ⟨ofNat n⟩

/-- The representable number nearest to `digits * 10 ^ power`.  A power far
beyond the range of exponents decides by itself. -/
def ofDecimal (negative : Bool) (digits : Nat) (power : Int) : Binary64 :=
  let length : Int := (Nat.toDigits 10 digits).length
  if digits = 0 then zero negative
  else if 400 < length + power then .infinite negative
  else if length + power < -400 then zero negative
  else if 0 ≤ power then ofQuotient negative (digits * Nat.pow 10 power.toNat) 1
  else ofQuotient negative digits (Nat.pow 10 (-power).toNat)

def aligned (negative : Bool) (mantissa : Nat) (exponent least : Int) : Int :=
  let magnitude : Int := mantissa * Nat.pow 2 (exponent - least).toNat
  if negative then -magnitude else magnitude

def ofAligned (whenZero : Bool) (number : Int) (exponent : Int) : Binary64 :=
  if number = 0 then zero whenZero
  else if 0 ≤ exponent then
    ofQuotient (number < 0) (number.natAbs * Nat.pow 2 exponent.toNat) 1
  else ofQuotient (number < 0) number.natAbs (Nat.pow 2 (-exponent).toNat)

def add : Binary64 → Binary64 → Binary64
  | .notANumber, _ => .notANumber
  | _, .notANumber => .notANumber
  | .infinite s, .infinite t => if s = t then .infinite s else .notANumber
  | .infinite s, .finite .. => .infinite s
  | .finite .., .infinite t => .infinite t
  | .finite s m e, .finite t n f =>
      let least := min e f
      ofAligned (s && t) (aligned s m e least + aligned t n f least) least

def mul : Binary64 → Binary64 → Binary64
  | .notANumber, _ => .notANumber
  | _, .notANumber => .notANumber
  | .infinite s, .infinite t => .infinite (s != t)
  | .infinite s, .finite t n _ => if n = 0 then .notANumber else .infinite (s != t)
  | .finite s m _, .infinite t => if m = 0 then .notANumber else .infinite (s != t)
  | .finite s m e, .finite t n f =>
      let exponent := e + f
      if 0 ≤ exponent then ofQuotient (s != t) (m * n * Nat.pow 2 exponent.toNat) 1
      else ofQuotient (s != t) (m * n) (Nat.pow 2 (-exponent).toNat)

/-- Numeric order; nothing compares with the value that is no number, and the
two zeros are equal. -/
def le : Binary64 → Binary64 → Bool
  | .notANumber, _ => false
  | _, .notANumber => false
  | .infinite s, .infinite t => s || !t
  | .infinite s, .finite .. => s
  | .finite .., .infinite t => !t
  | .finite s m e, .finite t n f =>
      let least := min e f
      aligned s m e least ≤ aligned t n f least

instance : Add Binary64 := ⟨add⟩

instance : Mul Binary64 := ⟨mul⟩

instance : LE Binary64 := ⟨fun x y => le x y = true⟩

instance (x y : Binary64) : Decidable (x ≤ y) :=
  inferInstanceAs (Decidable (le x y = true))

theorem le_iff {x y : Binary64} : x ≤ y ↔ le x y = true := Iff.rfl

theorem not_notANumber_le (x : Binary64) : ¬ notANumber ≤ x := by
  simp [le_iff, le]

theorem not_le_notANumber (x : Binary64) : ¬ x ≤ notANumber := by
  cases x <;> simp [le_iff, le]

end Binary64

end PolicyKeeper
