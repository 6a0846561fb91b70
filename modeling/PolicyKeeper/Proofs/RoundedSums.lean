import PolicyKeeper.Proofs.TimeOrder

/-!
# Rounded sums

A sum of times is the exact sum, rounded once.  Rounding goes to a neighbour on
the grid of multiples of a power of two on which the exact number has 53 bits.
A number of the format lies on that grid or is smaller than all that have 53
bits there, so rounding carries nothing across it, and a comparison with a
rounded sum tells how the exact sum compares.
-/

namespace PolicyKeeper

namespace Binary64

/-! ## Exact values -/

/-- The format has this number: its mantissa and its exponent fit. -/
def IsRepresentable : Binary64 → Prop
  | .finite _ m e => m < mantissaBound ∧ leastExponent ≤ e ∧ e ≤ greatestExponent
  | _ => True

instance (x : Binary64) : Decidable x.IsRepresentable :=
  match x with
  | .finite _ m e =>
      inferInstanceAs (Decidable (m < mantissaBound ∧ leastExponent ≤ e ∧ e ≤ greatestExponent))
  | .infinite _ => isTrue trivial
  | .notANumber => isTrue trivial

def signOf (negative : Bool) : ℚ := if negative then -1 else 1

/-- A finite number as a rational. -/
def value : Binary64 → ℚ
  | .finite negative m e => signOf negative * (m * 2 ^ e)
  | _ => 0

theorem value_eq_aligned {s : Bool} {m : Nat} {e lower : Int} (hlower : lower ≤ e) :
    value (finite s m e) = aligned s m e lower * 2 ^ lower := by
  have hshift : (2 : ℚ) ^ e = 2 ^ (e - lower).toNat * 2 ^ lower := by
    rw [← zpow_natCast, ← zpow_add₀ (by norm_num)]
    congr 1
    omega
  cases s with
  | false =>
      simp only [value, signOf, aligned, Bool.false_eq_true, if_false, Nat.pow_eq, hshift]
      push_cast
      ring
  | true =>
      simp only [value, signOf, aligned, if_true, Nat.pow_eq, hshift]
      push_cast
      ring

theorem le_iff_value_le {x y : Binary64} (hx : x.IsFinite) (hy : y.IsFinite) :
    x ≤ y ↔ x.value ≤ y.value := by
  cases x with
  | notANumber => exact absurd hx id
  | infinite s => exact absurd hx id
  | finite s m e =>
      cases y with
      | notANumber => exact absurd hy id
      | infinite t => exact absurd hy id
      | finite t n f =>
          have hpositive : (0 : ℚ) < 2 ^ min e f := by positivity
          rw [finite_le_finite_iff (min_le_left e f) (min_le_right e f),
            value_eq_aligned (min_le_left e f), value_eq_aligned (min_le_right e f),
            mul_le_mul_iff_left₀ hpositive, Int.cast_le]

theorem value_nonpositive (m : Nat) (e : Int) : value (finite true m e) ≤ 0 := by
  simp only [value, signOf, if_true, neg_mul, one_mul, Left.neg_nonpos_iff]
  positivity

theorem cast_lt_of_lt_mantissaBound {m : Nat} (hm : m < mantissaBound) : (m : ℚ) < 2 ^ 53 := by
  have hpower : m < 2 ^ 53 := hm
  exact_mod_cast hpower

theorem exists_opposite {b : Binary64} (hfinite : b.IsFinite) (hb : b.IsRepresentable) :
    ∃ c : Binary64, c.IsFinite ∧ c.IsRepresentable ∧ c.value = -b.value := by
  cases b with
  | notANumber => exact absurd hfinite id
  | infinite s => exact absurd hfinite id
  | finite s m e =>
      refine ⟨finite (!s) m e, trivial, hb, ?_⟩
      cases s <;> simp [value, signOf]

/-! ## The grid of a number -/

/-- The exponent of the grid on which a number has 53 bits, or of the finest
grid. -/
structure IsScale (exact : ℚ) (e : Int) : Prop where
  least : leastExponent ≤ e
  upper : exact < 2 ^ 53 * 2 ^ e
  lower : e = leastExponent ∨ 2 ^ 52 * 2 ^ e ≤ exact

theorem two_zpow_le {e f : Int} (hle : e ≤ f) : (2 : ℚ) ^ e ≤ 2 ^ f :=
  zpow_le_zpow_right₀ (by norm_num) hle

theorem two_pow_mul_zpow (n : Nat) (e : Int) : (2 : ℚ) ^ n * 2 ^ e = 2 ^ (n + e) := by
  rw [zpow_add₀ (by norm_num), zpow_natCast]

theorem log2_bounds {n : Nat} (hn : 0 < n) :
    (2 : ℚ) ^ (Nat.log2 n : Int) ≤ n ∧ (n : ℚ) < 2 ^ ((Nat.log2 n : Int) + 1) := by
  have hlower : 2 ^ Nat.log2 n ≤ n := Nat.log2_self_le (by omega)
  have hupper : n < 2 ^ (Nat.log2 n + 1) := Nat.lt_log2_self
  constructor
  · rw [zpow_natCast]
    exact_mod_cast hlower
  · have hcast : (2 : ℚ) ^ ((Nat.log2 n : Int) + 1) = ((2 ^ (Nat.log2 n + 1) : Nat) : ℚ) := by
      rw [← Nat.cast_succ, zpow_natCast]
      push_cast
      rfl
    rw [hcast]
    exact_mod_cast hupper

theorem quotient_bounds {n d : Nat} (hn : 0 < n) (hd : 0 < d) :
    (2 : ℚ) ^ ((Nat.log2 n : Int) - Nat.log2 d - 1) ≤ n / d ∧
      (n : ℚ) / d < 2 ^ ((Nat.log2 n : Int) - Nat.log2 d + 1) := by
  obtain ⟨hnlower, hnupper⟩ := log2_bounds hn
  obtain ⟨hdlower, hdupper⟩ := log2_bounds hd
  have hdpositive : (0 : ℚ) < d := by exact_mod_cast hd
  constructor
  · rw [le_div_iff₀ hdpositive]
    calc (2 : ℚ) ^ ((Nat.log2 n : Int) - Nat.log2 d - 1) * d
        ≤ 2 ^ ((Nat.log2 n : Int) - Nat.log2 d - 1) * 2 ^ ((Nat.log2 d : Int) + 1) := by gcongr
      _ = 2 ^ (Nat.log2 n : Int) := by
          rw [← zpow_add₀ (by norm_num)]
          congr 1
          ring
      _ ≤ n := hnlower
  · rw [div_lt_iff₀ hdpositive]
    calc (n : ℚ) < 2 ^ ((Nat.log2 n : Int) + 1) := hnupper
      _ = 2 ^ ((Nat.log2 n : Int) - Nat.log2 d + 1) * 2 ^ (Nat.log2 d : Int) := by
          rw [← zpow_add₀ (by norm_num)]
          congr 1
          ring
      _ ≤ 2 ^ ((Nat.log2 n : Int) - Nat.log2 d + 1) * d := by gcongr

theorem scaledDown_eq {n d : Nat} {e : Int} (hd : 0 < d) :
    0 < (scaledDown n d e).2 ∧
      ((scaledDown n d e).1 : ℚ) / (scaledDown n d e).2 = n / d / 2 ^ e := by
  have hdnonzero : (d : ℚ) ≠ 0 := by exact_mod_cast hd.ne'
  unfold scaledDown
  split
  next hnonnegative =>
    refine ⟨Nat.mul_pos hd (Nat.pow_pos (by norm_num)), ?_⟩
    have hpower : (2 : ℚ) ^ e = 2 ^ e.toNat := by
      rw [← zpow_natCast, Int.toNat_of_nonneg hnonnegative]
    rw [hpower, div_div]
    simp
  next hnegative =>
    refine ⟨hd, ?_⟩
    have hpower : (2 : ℚ) ^ e * 2 ^ (-e).toNat = 1 := by
      rw [← zpow_natCast, ← zpow_add₀ (by norm_num)]
      have hzero : e + ((-e).toNat : Int) = 0 := by omega
      rw [hzero, zpow_zero]
    rw [eq_div_iff (by positivity)]
    simp only [Nat.pow_eq]
    push_cast
    calc (n : ℚ) * 2 ^ (-e).toNat / d * 2 ^ e = n / d * (2 ^ e * 2 ^ (-e).toNat) := by ring
      _ = n / d := by rw [hpower, mul_one]

theorem scaledDown_div_lt_iff {n d : Nat} {e : Int} (hd : 0 < d) :
    (scaledDown n d e).1 / (scaledDown n d e).2 < mantissaBound ↔
      (n : ℚ) / d < 2 ^ 53 * 2 ^ e := by
  obtain ⟨hpositive, heq⟩ := scaledDown_eq (n := n) (e := e) hd
  have hscaled : (0 : ℚ) < (scaledDown n d e).2 := by exact_mod_cast hpositive
  rw [Nat.div_lt_iff_lt_mul hpositive, ← div_lt_iff₀ (by positivity : (0 : ℚ) < 2 ^ e), ← heq,
    div_lt_iff₀ hscaled, mantissaBound, Nat.pow_eq]
  norm_cast

theorem exponentFor_isScale {n d : Nat} (hn : 0 < n) (hd : 0 < d) :
    IsScale (n / d) (exponentFor n d) := by
  obtain ⟨hlower, hupper⟩ := quotient_bounds hn hd
  have hguess : (Nat.log2 n : Int) - Nat.log2 d - 53 ≤
      max leastExponent ((Nat.log2 n : Int) - Nat.log2 d - 53) := le_max_right _ _
  have hleast : leastExponent ≤ max leastExponent ((Nat.log2 n : Int) - Nat.log2 d - 53) :=
    le_max_left _ _
  have hchoice := max_choice leastExponent ((Nat.log2 n : Int) - Nat.log2 d - 53)
  unfold exponentFor
  generalize max leastExponent ((Nat.log2 n : Int) - Nat.log2 d - 53) = guess at *
  simp only [scaledDown_div_lt_iff hd]
  split
  next hfits =>
    refine ⟨hleast, hfits, hchoice.imp id ?_⟩
    rintro rfl
    rw [two_pow_mul_zpow]
    refine (two_zpow_le ?_).trans hlower
    push_cast
    omega
  next hexceeds =>
    refine ⟨by omega, ?_, .inr ?_⟩
    · rw [two_pow_mul_zpow]
      refine lt_of_lt_of_le hupper (two_zpow_le ?_)
      push_cast
      omega
    · rw [not_lt, two_pow_mul_zpow] at hexceeds
      rw [two_pow_mul_zpow]
      refine (two_zpow_le ?_).trans hexceeds
      push_cast
      omega

/-! ## Neighbours on a grid -/

theorem div_le_roundedQuotient (n d : Nat) : n / d ≤ roundedQuotient n d := by
  unfold roundedQuotient
  simp only
  split
  · exact le_rfl
  · split <;> omega

theorem roundedQuotient_le {n d k : Nat} (hd : 0 < d) (hle : n ≤ k * d) :
    roundedQuotient n d ≤ k := by
  have hquotient : n / d ≤ k := Nat.div_le_of_le_mul (by rwa [Nat.mul_comm] at hle)
  unfold roundedQuotient
  simp only
  by_cases hexact : n % d = 0
  · rw [if_pos (by omega)]
    exact hquotient
  · have hinside : n / d < k := by
      apply Nat.lt_of_mul_lt_mul_right (a := d)
      have hsplit := Nat.div_add_mod n d
      rw [Nat.mul_comm] at hsplit
      omega
    split
    · omega
    · split <;> omega

/-- A multiple of a power of two with no other between it and a number, on the
grid of the number. -/
structure IsNeighbour (exact : ℚ) (e : Int) (r : Nat) : Prop where
  scale : IsScale exact e
  above : ∀ k : Nat, (k : ℚ) * 2 ^ e ≤ exact → k ≤ r
  below : ∀ k : Nat, exact ≤ (k : ℚ) * 2 ^ e → r ≤ k

theorem roundedQuotient_isNeighbour {n d : Nat} (hn : 0 < n) (hd : 0 < d) :
    let e := exponentFor n d
    IsNeighbour (n / d) e (roundedQuotient (scaledDown n d e).1 (scaledDown n d e).2) := by
  intro e
  obtain ⟨hpositive, heq⟩ := scaledDown_eq (n := n) (e := e) hd
  have hscaled : (0 : ℚ) < (scaledDown n d e).2 := by exact_mod_cast hpositive
  have hpower : (0 : ℚ) < 2 ^ e := by positivity
  refine ⟨exponentFor_isScale hn hd, ?_, ?_⟩
  · intro k hk
    rw [← le_div_iff₀ hpower, ← heq, le_div_iff₀ hscaled] at hk
    have hquotient : k ≤ (scaledDown n d e).1 / (scaledDown n d e).2 := by
      rw [Nat.le_div_iff_mul_le hpositive]
      exact_mod_cast hk
    exact hquotient.trans (div_le_roundedQuotient _ _)
  · intro k hk
    rw [← div_le_iff₀ hpower, ← heq, div_le_iff₀ hscaled] at hk
    apply roundedQuotient_le hpositive
    exact_mod_cast hk

/-- A number of the format lies on a grid that is no finer, or is smaller than
all that have 53 bits on it. -/
theorem onGrid_or_lt {m : Nat} {f e : Int} (hm : m < mantissaBound) :
    (∃ k : Nat, (m : ℚ) * 2 ^ f = k * 2 ^ e) ∨ f < e ∧ (m : ℚ) * 2 ^ f < 2 ^ 52 * 2 ^ e := by
  rcases le_or_gt e f with hcoarser | hfiner
  · left
    refine ⟨m * 2 ^ (f - e).toNat, ?_⟩
    have hshift : (2 : ℚ) ^ f = 2 ^ (f - e).toNat * 2 ^ e := by
      rw [← zpow_natCast, ← zpow_add₀ (by norm_num)]
      congr 1
      omega
    rw [hshift]
    push_cast
    ring
  · right
    refine ⟨hfiner, ?_⟩
    have hbound := cast_lt_of_lt_mantissaBound hm
    calc (m : ℚ) * 2 ^ f < 2 ^ 53 * 2 ^ f := by gcongr
      _ = 2 ^ (((53 : Nat) : Int) + f) := two_pow_mul_zpow 53 f
      _ ≤ 2 ^ (((52 : Nat) : Int) + e) := two_zpow_le (by push_cast; omega)
      _ = 2 ^ 52 * 2 ^ e := (two_pow_mul_zpow 52 e).symm

namespace IsNeighbour

variable {exact : ℚ} {e : Int} {r : Nat} {b : Binary64}

theorem bits_le (h : IsNeighbour exact e r) (he : leastExponent < e) : 2 ^ 52 ≤ r := by
  apply h.above
  push_cast
  exact h.scale.lower.resolve_left he.ne'

theorem le_bound (h : IsNeighbour exact e r) : r ≤ mantissaBound := by
  have hcast : ((mantissaBound : Nat) : ℚ) = 2 ^ 53 := by norm_num [mantissaBound]
  apply h.below
  rw [hcast]
  exact h.scale.upper.le

theorem value_le (h : IsNeighbour exact e r) (hfinite : b.IsFinite) (hb : b.IsRepresentable)
    (hle : b.value ≤ exact) : b.value ≤ r * 2 ^ e := by
  cases b with
  | notANumber => exact absurd hfinite id
  | infinite s => exact absurd hfinite id
  | finite s m f =>
      obtain ⟨hm, hleast, -⟩ := hb
      cases s with
      | true =>
          have hmultiple : (0 : ℚ) ≤ r * 2 ^ e := by positivity
          exact (value_nonpositive m f).trans hmultiple
      | false =>
          simp only [value, signOf, Bool.false_eq_true, if_false, one_mul] at hle ⊢
          rcases onGrid_or_lt (e := e) (f := f) hm with ⟨k, hk⟩ | ⟨hfiner, hlt⟩
          · rw [hk] at hle ⊢
            have hkr := h.above k hle
            gcongr
          · have hbits : (2 : ℚ) ^ 52 ≤ r := by
              exact_mod_cast h.bits_le (lt_of_le_of_lt hleast hfiner)
            refine hlt.le.trans ?_
            gcongr

theorem le_value (h : IsNeighbour exact e r) (hpositive : 0 < exact) (hfinite : b.IsFinite)
    (hb : b.IsRepresentable) (hle : exact ≤ b.value) : r * 2 ^ e ≤ b.value := by
  cases b with
  | notANumber => exact absurd hfinite id
  | infinite s => exact absurd hfinite id
  | finite s m f =>
      obtain ⟨hm, hleast, -⟩ := hb
      cases s with
      | true =>
          have hnegative := value_nonpositive m f
          linarith
      | false =>
          simp only [value, signOf, Bool.false_eq_true, if_false, one_mul] at hle ⊢
          rcases onGrid_or_lt (e := e) (f := f) hm with ⟨k, hk⟩ | ⟨hfiner, hlt⟩
          · rw [hk] at hle ⊢
            have hrk := h.below k hle
            gcongr
          · have hbits := h.scale.lower.resolve_left (lt_of_le_of_lt hleast hfiner).ne'
            linarith

end IsNeighbour

/-! ## Rounding -/

/-- The least power of two beyond the format. -/
def overflow : ℚ := 2 ^ 53 * 2 ^ greatestExponent

theorem value_lt_overflow {b : Binary64} (hfinite : b.IsFinite) (hb : b.IsRepresentable) :
    b.value < overflow := by
  cases b with
  | notANumber => exact absurd hfinite id
  | infinite s => exact absurd hfinite id
  | finite s m f =>
      obtain ⟨hm, -, hgreatest⟩ := hb
      have hbound := cast_lt_of_lt_mantissaBound hm
      have hmagnitude : (m : ℚ) * 2 ^ f < overflow := by
        calc (m : ℚ) * 2 ^ f < 2 ^ 53 * 2 ^ f := by gcongr
          _ ≤ 2 ^ 53 * 2 ^ greatestExponent := by
              have hpower := two_zpow_le hgreatest
              gcongr
      have hnonnegative : (0 : ℚ) ≤ m * 2 ^ f := by positivity
      cases s with
      | false => simpa [value, signOf] using hmagnitude
      | true =>
          have hnegative := value_nonpositive m f
          linarith

/-- What a quotient is rounded to is its neighbour, or infinite where the
neighbour is beyond the format. -/
theorem ofQuotient_neighbour (negative : Bool) {n d : Nat} (hn : 0 < n) (hd : 0 < d) :
    ∃ e r, IsNeighbour ((n : ℚ) / d) e r ∧
      ((ofQuotient negative n d).IsFinite ∧
          (ofQuotient negative n d).value = signOf negative * (r * 2 ^ e) ∨
        ofQuotient negative n d = infinite negative ∧ overflow ≤ r * 2 ^ e) := by
  have hneighbour := roundedQuotient_isNeighbour hn hd
  refine ⟨_, _, hneighbour, ?_⟩
  unfold ofQuotient
  rw [if_neg hn.ne']
  simp only at hneighbour ⊢
  generalize exponentFor n d = e at *
  generalize roundedQuotient (scaledDown n d e).1 (scaledDown n d e).2 = r at *
  by_cases hsmall : r < mantissaBound
  · rw [if_pos hsmall]
    simp only
    split
    next hbeyond =>
      right
      have hbits : (2 : ℚ) ^ 52 ≤ r := by
        exact_mod_cast hneighbour.bits_le (by unfold greatestExponent leastExponent at *; omega)
      refine ⟨rfl, ?_⟩
      calc overflow = 2 ^ (((53 : Nat) : Int) + greatestExponent) := two_pow_mul_zpow 53 _
        _ ≤ 2 ^ (((52 : Nat) : Int) + e) := two_zpow_le (by push_cast; omega)
        _ = 2 ^ 52 * 2 ^ e := (two_pow_mul_zpow 52 e).symm
        _ ≤ r * 2 ^ e := by gcongr
    next =>
      left
      split
      next hzero => simp [zero, IsFinite, value, hzero]
      next => exact ⟨trivial, rfl⟩
  · have hbound : r = mantissaBound := by
      have hle := hneighbour.le_bound
      omega
    subst hbound
    have hhalf : mantissaBound / 2 = 2 ^ 52 := by norm_num [mantissaBound]
    have hvalue : ((mantissaBound : Nat) : ℚ) * 2 ^ e = 2 ^ 52 * 2 ^ (e + 1) := by
      rw [zpow_add₀ (by norm_num)]
      norm_num [mantissaBound]
      ring
    rw [if_neg hsmall, hhalf]
    simp only
    split
    next hbeyond =>
      right
      refine ⟨rfl, ?_⟩
      rw [hvalue, two_pow_mul_zpow]
      calc overflow = 2 ^ (((53 : Nat) : Int) + greatestExponent) := two_pow_mul_zpow 53 _
        _ ≤ 2 ^ (((52 : Nat) : Int) + (e + 1)) := two_zpow_le (by push_cast; omega)
    next =>
      left
      refine ⟨trivial, ?_⟩
      rw [hvalue]
      norm_num [value]

/-- Rounding carries nothing across a number of the format. -/
structure Rounds (exact : ℚ) (x : Binary64) : Prop where
  above : ∀ b : Binary64, b.IsFinite → b.IsRepresentable → b.value ≤ exact → b ≤ x
  below : ∀ b : Binary64, b.IsFinite → b.IsRepresentable → exact ≤ b.value → x ≤ b

theorem rounds_of_value_eq {exact : ℚ} {x : Binary64} (hx : x.IsFinite) (hvalue : x.value = exact) :
    Rounds exact x := by
  subst hvalue
  exact ⟨fun b hb _ hle => (le_iff_value_le hb hx).2 hle,
    fun b hb _ hle => (le_iff_value_le hx hb).2 hle⟩

theorem rounds_ofQuotient (negative : Bool) (n : Nat) {d : Nat} (hd : 0 < d) :
    Rounds (signOf negative * (n / d)) (ofQuotient negative n d) := by
  rcases Nat.eq_zero_or_pos n with rfl | hn
  · apply rounds_of_value_eq
    · simp [ofQuotient, zero, IsFinite]
    · simp [ofQuotient, zero, value]
  have hpositive : (0 : ℚ) < n / d := by positivity
  obtain ⟨e, r, hneighbour, hx⟩ := ofQuotient_neighbour negative hn hd
  generalize ofQuotient negative n d = x at *
  cases negative with
  | false =>
      simp only [signOf, Bool.false_eq_true, if_false, one_mul] at hx ⊢
      constructor
      · intro b hfinite hb hle
        have hbelow := hneighbour.value_le hfinite hb hle
        rcases hx with ⟨hxfinite, hvalue⟩ | ⟨rfl, -⟩
        · rw [le_iff_value_le hfinite hxfinite, hvalue]
          exact hbelow
        · cases b <;> simp_all [IsFinite, Binary64.le_iff, le]
      · intro b hfinite hb hle
        have habove := hneighbour.le_value hpositive hfinite hb hle
        rcases hx with ⟨hxfinite, hvalue⟩ | ⟨rfl, hoverflow⟩
        · rw [le_iff_value_le hxfinite hfinite, hvalue]
          exact habove
        · have hlt := value_lt_overflow hfinite hb
          linarith
  | true =>
      simp only [signOf, if_true, neg_mul, one_mul] at hx ⊢
      constructor
      · intro b hfinite hb hle
        obtain ⟨c, hcfinite, hc, hopposite⟩ := exists_opposite hfinite hb
        have habove := hneighbour.le_value hpositive hcfinite hc (by linarith)
        rcases hx with ⟨hxfinite, hvalue⟩ | ⟨rfl, hoverflow⟩
        · rw [le_iff_value_le hfinite hxfinite, hvalue]
          linarith
        · have hlt := value_lt_overflow hcfinite hc
          linarith
      · intro b hfinite hb hle
        obtain ⟨c, hcfinite, hc, hopposite⟩ := exists_opposite hfinite hb
        have hbelow := hneighbour.value_le hcfinite hc (by linarith)
        rcases hx with ⟨hxfinite, hvalue⟩ | ⟨rfl, -⟩
        · rw [le_iff_value_le hxfinite hfinite, hvalue]
          linarith
        · cases b <;> simp_all [IsFinite, Binary64.le_iff, le]

theorem signOf_mul_natAbs (number : Int) :
    signOf (number < 0) * (number.natAbs : ℚ) = number := by
  rcases lt_or_ge number 0 with hnegative | hnonnegative
  · have habs : ((number.natAbs : Int) : ℚ) = -number := by
      rw [Int.ofNat_natAbs_of_nonpos hnegative.le]
      push_cast
      rfl
    rw [Int.cast_natCast] at habs
    simp [signOf, hnegative, habs]
  · have habs : ((number.natAbs : Int) : ℚ) = number := by
      rw [Int.natAbs_of_nonneg hnonnegative]
    rw [Int.cast_natCast] at habs
    simp [signOf, not_lt.2 hnonnegative, habs]

theorem rounds_ofAligned (whenZero : Bool) (number exponent : Int) :
    Rounds (number * 2 ^ exponent) (ofAligned whenZero number exponent) := by
  unfold ofAligned
  split
  next hzero =>
    apply rounds_of_value_eq
    · simp [zero, IsFinite]
    · simp [zero, value, hzero]
  next =>
    have hsigned := signOf_mul_natAbs number
    split
    next hnonnegative =>
      have hpower : (2 : ℚ) ^ exponent = 2 ^ exponent.toNat := by
        rw [← zpow_natCast, Int.toNat_of_nonneg hnonnegative]
      have hrounds := rounds_ofQuotient (number < 0)
        (number.natAbs * Nat.pow 2 exponent.toNat) Nat.one_pos
      rw [Nat.pow_eq] at hrounds
      push_cast at hrounds
      rw [div_one, ← mul_assoc, hsigned, ← hpower] at hrounds
      exact hrounds
    next hnegative =>
      have hpower : (2 : ℚ) ^ exponent = (2 ^ (-exponent).toNat)⁻¹ := by
        rw [← zpow_natCast, ← zpow_neg]
        congr 1
        omega
      have hrounds := rounds_ofQuotient (number < 0) number.natAbs
        (Nat.pow_pos (n := (-exponent).toNat) (show 0 < 2 by norm_num))
      push_cast at hrounds
      rw [div_eq_mul_inv, ← mul_assoc, hsigned, ← hpower] at hrounds
      exact hrounds

/-- A sum is the exact one, rounded once. -/
theorem rounds_add {x y : Binary64} (hx : x.IsFinite) (hy : y.IsFinite) :
    Rounds (x.value + y.value) (x + y) := by
  cases x with
  | notANumber => exact absurd hx id
  | infinite s => exact absurd hx id
  | finite s m e =>
      cases y with
      | notANumber => exact absurd hy id
      | infinite t => exact absurd hy id
      | finite t n f =>
          have hrounds := rounds_ofAligned (s && t)
            (aligned s m e (min e f) + aligned t n f (min e f)) (min e f)
          push_cast at hrounds
          rw [add_mul, ← value_eq_aligned (min_le_left e f),
            ← value_eq_aligned (min_le_right e f)] at hrounds
          exact hrounds

/-! ## Spans of time -/

theorem le_add_of_nonneg {x y : Binary64} (hx : x.IsFinite) (hrepresentable : x.IsRepresentable)
    (hy : y.IsFinite) (hnonneg : 0 ≤ y.value) : x ≤ x + y :=
  (rounds_add hx hy).above x hx hrepresentable (by linarith)

theorem value_five : (5 : Binary64).value = 5 := by
  have hfive : (5 : Binary64) = finite false 5629499534213120 (-50) := by decide +kernel
  rw [hfive, value, signOf]
  norm_num

/-- The second time comes at most a span after the first, reckoned exactly. -/
def IsWithin (span : ℚ) (first second : Binary64) : Prop :=
  if first.IsFinite ∧ second.IsFinite then second.value ≤ first.value + span
  else second ≤ first

instance (span : ℚ) (first second : Binary64) : Decidable (IsWithin span first second) :=
  inferInstanceAs (Decidable (if first.IsFinite ∧ second.IsFinite then
    second.value ≤ first.value + span else second ≤ first))

variable {span : ℚ} {first second third : Binary64}

theorem isWithin_of_le (hspan : 0 ≤ span) (hle : second ≤ first) :
    IsWithin span first second := by
  unfold IsWithin
  split
  next hfinite =>
    have hvalue := (le_iff_value_le hfinite.2 hfinite.1).1 hle
    linarith
  next => exact hle

/-- Beyond a finite number there is nothing but infinity that is not finite. -/
theorem le_of_finite_le (hfirst : first.IsFinite) (hthird : third.IsFinite)
    (hle : first ≤ second) (hsecond : ¬ second.IsFinite) : third ≤ second := by
  cases first <;> cases second <;> cases third <;> simp_all [IsFinite, le_iff, le]

theorem le_of_le_finite (hfirst : first.IsFinite) (hthird : third.IsFinite)
    (hle : second ≤ first) (hsecond : ¬ second.IsFinite) : second ≤ third := by
  cases first <;> cases second <;> cases third <;> simp_all [IsFinite, le_iff, le]

theorem IsWithin.mono_first (h : IsWithin span first third) (hspan : 0 ≤ span)
    (hlater : first ≤ second) : IsWithin span second third := by
  by_cases hfinite : first.IsFinite ∧ third.IsFinite
  · rw [IsWithin, if_pos hfinite] at h
    by_cases hsecond : second.IsFinite
    · have hvalue := (le_iff_value_le hfinite.1 hsecond).1 hlater
      rw [IsWithin, if_pos ⟨hsecond, hfinite.2⟩]
      linarith
    · exact isWithin_of_le hspan (le_of_finite_le hfinite.1 hfinite.2 hlater hsecond)
  · rw [IsWithin, if_neg hfinite] at h
    exact isWithin_of_le hspan (le_trans h hlater)

theorem IsWithin.mono_second (h : IsWithin span first third) (hspan : 0 ≤ span)
    (hearlier : second ≤ third) : IsWithin span first second := by
  by_cases hfinite : first.IsFinite ∧ third.IsFinite
  · rw [IsWithin, if_pos hfinite] at h
    by_cases hsecond : second.IsFinite
    · have hvalue := (le_iff_value_le hsecond hfinite.2).1 hearlier
      rw [IsWithin, if_pos ⟨hfinite.1, hsecond⟩]
      linarith
    · exact isWithin_of_le hspan (le_of_le_finite hfinite.2 hfinite.1 hearlier hsecond)
  · rw [IsWithin, if_neg hfinite] at h
    exact isWithin_of_le hspan (le_trans hearlier h)

theorem le_infinite_add {x y : Binary64} (hfirst : ¬ first.IsFinite) (hy : y.IsFinite)
    (hle : x ≤ first) : x ≤ first + y := by
  cases first with
  | notANumber => exact absurd hle (not_le_notANumber x)
  | finite s m e => exact absurd trivial hfirst
  | infinite s =>
      cases y with
      | notANumber => exact absurd hy id
      | infinite t => exact absurd hy id
      | finite t n f => exact hle

/-- A number of the format that comes at most a span after another one does so
for the rounded sum as well. -/
theorem IsWithin.le_add {y : Binary64} (h : IsWithin y.value first second) (hy : y.IsFinite)
    (hrepresentable : second.IsRepresentable) : second ≤ first + y := by
  by_cases hfirst : first.IsFinite
  · by_cases hsecond : second.IsFinite
    · rw [IsWithin, if_pos ⟨hfirst, hsecond⟩] at h
      exact (rounds_add hfirst hy).above second hsecond hrepresentable h
    · rw [IsWithin, if_neg (fun hboth => hsecond hboth.2)] at h
      have hsum := add_ne_notANumber hfirst hy.ne_notANumber
      generalize first + y = sum at *
      cases first <;> cases second <;> cases sum <;> simp_all [IsFinite, le_iff, le]
  · rw [IsWithin, if_neg (fun hboth => hfirst hboth.1)] at h
    exact le_infinite_add hfirst hy h

end Binary64

end PolicyKeeper
