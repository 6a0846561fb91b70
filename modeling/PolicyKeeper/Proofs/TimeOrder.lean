import Mathlib.Tactic
import PolicyKeeper.Binary64

/-!
# The order of times

Times that are numbers are ordered in a line, up to the two zeros.  Finite
numbers are compared over a common exponent, and any one that is low enough
gives the same answer.  The sum of a finite number and a number is a number, so
a comparison with a span added to a time is decided one way or the other.
-/

namespace PolicyKeeper

namespace Binary64

def IsFinite : Binary64 → Prop
  | .finite .. => True
  | _ => False

instance (x : Binary64) : Decidable x.IsFinite :=
  match x with
  | .finite .. => isTrue trivial
  | .infinite _ => isFalse id
  | .notANumber => isFalse id

instance : LT Binary64 := ⟨fun x y => x ≤ y ∧ ¬ y ≤ x⟩

theorem lt_iff {x y : Binary64} : x < y ↔ x ≤ y ∧ ¬ y ≤ x := Iff.rfl

instance (x y : Binary64) : Decidable (x < y) :=
  inferInstanceAs (Decidable (x ≤ y ∧ ¬ y ≤ x))

/-! ## Comparison over a common exponent -/

theorem aligned_lower {s : Bool} {m : Nat} {e least lower : Int} (hlower : lower ≤ least)
    (hleast : least ≤ e) :
    aligned s m e lower = aligned s m e least * 2 ^ (least - lower).toNat := by
  have hsplit : (e - lower).toNat = (e - least).toNat + (least - lower).toNat := by omega
  unfold aligned
  rw [hsplit]
  cases s with
  | false =>
      simp only [Bool.false_eq_true, if_false, Nat.pow_eq, Nat.cast_pow, Nat.cast_ofNat]
      ring
  | true =>
      simp only [if_true, Nat.pow_eq, Nat.cast_pow, Nat.cast_ofNat]
      ring

/-- Finite numbers compare over any exponent that is low enough. -/
theorem finite_le_finite_iff {s t : Bool} {m n : Nat} {e f lower : Int} (he : lower ≤ e)
    (hf : lower ≤ f) :
    finite s m e ≤ finite t n f ↔ aligned s m e lower ≤ aligned t n f lower := by
  have hleast : lower ≤ min e f := le_min he hf
  have hpositive : (0 : Int) < 2 ^ (min e f - lower).toNat := by positivity
  rw [aligned_lower hleast (min_le_left e f), aligned_lower hleast (min_le_right e f),
    mul_le_mul_iff_left₀ hpositive, le_iff]
  simp [le]

/-! ## The line of numbers -/

theorem le_trans {x y z : Binary64} (hxy : x ≤ y) (hyz : y ≤ z) : x ≤ z := by
  cases x with
  | notANumber => exact absurd hxy (not_notANumber_le y)
  | infinite s =>
      cases y with
      | notANumber => exact absurd hxy (not_le_notANumber _)
      | infinite t => cases t <;> cases z <;> simp_all [le_iff, le]
      | finite t n f => cases z <;> simp_all [le_iff, le]
  | finite s m e =>
      cases y with
      | notANumber => exact absurd hxy (not_le_notANumber _)
      | infinite t => cases z <;> simp_all [le_iff, le]
      | finite t n f =>
          cases z with
          | notANumber => exact absurd hyz (not_le_notANumber _)
          | infinite u => simpa [le_iff, le] using hyz
          | finite u o g =>
              have he : min e (min f g) ≤ e := by omega
              have hf : min e (min f g) ≤ f := by omega
              have hg : min e (min f g) ≤ g := by omega
              rw [finite_le_finite_iff he hf] at hxy
              rw [finite_le_finite_iff hf hg] at hyz
              rw [finite_le_finite_iff he hg]
              exact Int.le_trans hxy hyz

theorem le_total {x y : Binary64} (hx : x ≠ notANumber) (hy : y ≠ notANumber) :
    x ≤ y ∨ y ≤ x := by
  cases x with
  | notANumber => exact absurd rfl hx
  | infinite s =>
      cases y with
      | notANumber => exact absurd rfl hy
      | infinite t => cases s <;> cases t <;> simp [le_iff, le]
      | finite t n f => cases s <;> simp [le_iff, le]
  | finite s m e =>
      cases y with
      | notANumber => exact absurd rfl hy
      | infinite t => cases t <;> simp [le_iff, le]
      | finite t n f =>
          have he : min e f ≤ e := by omega
          have hf : min e f ≤ f := by omega
          rw [finite_le_finite_iff he hf, finite_le_finite_iff hf he]
          exact Int.le_total _ _

theorem le_refl_of_le {x y : Binary64} (hxy : x ≤ y) : y ≤ y := by
  have hy : y ≠ notANumber := by
    rintro rfl
    exact not_le_notANumber x hxy
  exact (le_total hy hy).elim id id

theorem le_refl_of_ge {x y : Binary64} (hxy : x ≤ y) : x ≤ x := by
  have hx : x ≠ notANumber := by
    rintro rfl
    exact not_notANumber_le y hxy
  exact (le_total hx hx).elim id id

theorem not_le_iff_lt {x y : Binary64} (hx : x ≠ notANumber) (hy : y ≠ notANumber) :
    ¬ x ≤ y ↔ y < x := by
  rw [lt_iff]
  constructor
  · intro hnot
    exact ⟨(le_total hx hy).resolve_left hnot, hnot⟩
  · rintro ⟨-, hnot⟩
    exact hnot

/-! ## Sums -/

theorem IsFinite.ne_notANumber {x : Binary64} (hx : x.IsFinite) : x ≠ notANumber := by
  rintro rfl
  exact hx

theorem ofQuotient_ne_notANumber (negative : Bool) (number denominator : Nat) :
    ofQuotient negative number denominator ≠ notANumber := by
  unfold ofQuotient zero
  simp only
  repeat' split
  all_goals simp

theorem ofAligned_ne_notANumber (whenZero : Bool) (number exponent : Int) :
    ofAligned whenZero number exponent ≠ notANumber := by
  unfold ofAligned
  split
  · simp [zero]
  · split
    · exact ofQuotient_ne_notANumber _ _ _
    · exact ofQuotient_ne_notANumber _ _ _

theorem add_notANumber (x : Binary64) : x + notANumber = notANumber := by
  show add x notANumber = notANumber
  cases x <;> rfl

theorem add_ne_notANumber {x y : Binary64} (hx : x.IsFinite) (hy : y ≠ notANumber) :
    x + y ≠ notANumber := by
  show add x y ≠ notANumber
  cases x with
  | notANumber => exact absurd hx id
  | infinite s => exact absurd hx id
  | finite s m e =>
      cases y with
      | notANumber => exact absurd rfl hy
      | infinite t => simp [add]
      | finite t n f => exact ofAligned_ne_notANumber _ _ _

end Binary64

end PolicyKeeper
