import Mathlib.Tactic.IntervalCases
import PolicyKeeper.PercentEncoding

/-!
# Percent encoding is undone by reading

A text that is percent-encoded is read back as it was, whichever characters but
the percent sign itself count as safe.  Reading forgives octets that are no
UTF-8, but the octets of a text are never among them.
-/

namespace PolicyKeeper

namespace Utf8

/-! ## Octets of one character -/

variable {done : List Char} {rest : Octets} {n : Nat}

theorem toNat_ofNat_of_lt (hn : n < 0x100) : (UInt8.ofNat n).toNat = n := by
  rw [UInt8.toNat_ofNat']
  exact Nat.mod_eq_of_lt hn

theorem announced?_two (hlow : 0xC2 ≤ n) (hhigh : n < 0xE0) :
    announced? (UInt8.ofNat n) 0 =
      some { lead := UInt8.ofNat n, start := 0, read := 1, missing := 1, least := 0x80
             greatest := 0xBF, value := n - 0xC0 } := by
  unfold announced?
  rw [toNat_ofNat_of_lt (by omega)]
  simp only [if_neg (Nat.not_lt.2 hlow), if_pos hhigh]

theorem announced?_three (hlow : 0xE0 ≤ n) (hhigh : n < 0xF0) :
    announced? (UInt8.ofNat n) 0 =
      some { lead := UInt8.ofNat n, start := 0, read := 1, missing := 2
             least := if n = 0xE0 then 0xA0 else 0x80
             greatest := if n = 0xED then 0x9F else 0xBF, value := n - 0xE0 } := by
  unfold announced?
  rw [toNat_ofNat_of_lt (by omega)]
  rw [if_neg (by omega), if_neg (by omega)]
  by_cases hfirst : n = 0xE0
  · subst hfirst
    rfl
  · rw [if_neg hfirst]
    by_cases hsurrogates : n = 0xED
    · subst hsurrogates
      rfl
    · simp only [if_neg hfirst, if_neg hsurrogates, if_pos hhigh]

theorem announced?_four (hlow : 0xF0 ≤ n) (hhigh : n < 0xF5) :
    announced? (UInt8.ofNat n) 0 =
      some { lead := UInt8.ofNat n, start := 0, read := 1, missing := 3
             least := if n = 0xF0 then 0x90 else 0x80
             greatest := if n = 0xF4 then 0x8F else 0xBF, value := n - 0xF0 } := by
  obtain rfl | rfl | rfl | rfl | rfl : n = 0xF0 ∨ n = 0xF1 ∨ n = 0xF2 ∨ n = 0xF3 ∨ n = 0xF4 := by
    omega
  all_goals rfl

theorem decodeLeniently_single (hn : n < 0x80) :
    decodeLeniently none done (UInt8.ofNat n :: rest) =
      decodeLeniently none (Char.ofNat n :: done) rest := by
  rw [decodeLeniently]
  simp only [toNat_ofNat_of_lt (Nat.lt_trans hn (by decide : 0x80 < 0x100)), if_pos hn]

theorem decodeLeniently_lead {p : Pending} (hlow : 0x80 ≤ n) (hhigh : n < 0x100)
    (hannounced : announced? (UInt8.ofNat n) 0 = some p) :
    decodeLeniently none done (UInt8.ofNat n :: rest) = decodeLeniently (some p) done rest := by
  rw [decodeLeniently]
  simp only [toNat_ofNat_of_lt hhigh, if_neg (Nat.not_lt.2 hlow), hannounced]

theorem decodeLeniently_last {p : Pending} (hn : n < 64) (hleast : p.least ≤ 0x80 + n)
    (hgreatest : 0x80 + n ≤ p.greatest) (hlast : p.missing = 1) :
    decodeLeniently (some p) done (UInt8.ofNat (0x80 + n) :: rest) =
      decodeLeniently none (Char.ofNat (64 * p.value + n) :: done) rest := by
  have hoctet : (UInt8.ofNat (0x80 + n)).toNat = 0x80 + n := toNat_ofNat_of_lt (by omega)
  have hvalue : 0x80 + n - 0x80 = n := Nat.add_sub_cancel_left 0x80 n
  rw [decodeLeniently]
  simp only [hoctet, hleast, hgreatest, decide_true, Bool.and_self, if_true, hvalue, hlast,
    Nat.le_refl]

theorem decodeLeniently_next {p : Pending} {missing : Nat} (hn : n < 64)
    (hleast : p.least ≤ 0x80 + n) (hgreatest : 0x80 + n ≤ p.greatest)
    (hmissing : p.missing = missing + 2) :
    decodeLeniently (some p) done (UInt8.ofNat (0x80 + n) :: rest) =
      decodeLeniently
        (some { p with
          missing := missing + 1, least := 0x80, greatest := 0xBF, value := 64 * p.value + n })
        done rest := by
  have hoctet : (UInt8.ofNat (0x80 + n)).toNat = 0x80 + n := toNat_ofNat_of_lt (by omega)
  have hvalue : 0x80 + n - 0x80 = n := Nat.add_sub_cancel_left 0x80 n
  have hmore : ¬ missing + 2 ≤ 1 := by omega
  rw [decodeLeniently]
  simp only [hoctet, hleast, hgreatest, decide_true, Bool.and_self, if_true, hvalue, hmissing,
    if_neg hmore]
  rfl

/-! ## Octets of a text -/

/-- No character is a surrogate, or beyond the last one. -/
theorem code_bounds (c : Char) : c.toNat < 0xD800 ∨ 0xDFFF < c.toNat ∧ c.toNat < 0x110000 :=
  c.valid

theorem decodeLeniently_encodeChar (c : Char) (done : List Char) (rest : Octets) :
    decodeLeniently none done (encodeChar c ++ rest) = decodeLeniently none (c :: done) rest := by
  have hbounds := code_bounds c
  have hcode : Char.ofNat c.toNat = c := Char.ofNat_toNat c
  unfold encodeChar
  simp only
  split
  next hone =>
    rw [List.singleton_append, decodeLeniently_single hone, hcode]
  next hone =>
    split
    next htwo =>
      have hlead : 0xC2 ≤ 0xC0 + c.toNat / 64 ∧ 0xC0 + c.toNat / 64 < 0xE0 := by omega
      have hvalue : 64 * (0xC0 + c.toNat / 64 - 0xC0) + c.toNat / 1 % 64 = c.toNat := by omega
      simp only [List.cons_append, List.nil_append]
      rw [decodeLeniently_lead (by omega) (by omega) (announced?_two hlead.1 hlead.2),
        decodeLeniently_last (by omega) (by simp only; omega) (by simp only; omega) rfl, hvalue,
        hcode]
    next htwo =>
      split
      next hthree =>
        have hlead : 0xE0 ≤ 0xE0 + c.toNat / 4096 ∧ 0xE0 + c.toNat / 4096 < 0xF0 := by omega
        have hvalue : 64 * (64 * (0xE0 + c.toNat / 4096 - 0xE0) + c.toNat / 64 % 64) +
            c.toNat / 1 % 64 = c.toNat := by omega
        simp only [List.cons_append, List.nil_append]
        -- The second octet keeps clear of shorter codes and of surrogates.
        rw [decodeLeniently_lead (by omega) (by omega) (announced?_three hlead.1 hlead.2),
          decodeLeniently_next (by omega) (by simp only; split <;> omega)
            (by simp only; split <;> omega) rfl,
          decodeLeniently_last (by omega) (by simp only; omega) (by simp only; omega) rfl, hvalue,
          hcode]
      next hthree =>
        have hlead : 0xF0 ≤ 0xF0 + c.toNat / 262144 ∧ 0xF0 + c.toNat / 262144 < 0xF5 := by omega
        have hvalue : 64 * (64 * (64 * (0xF0 + c.toNat / 262144 - 0xF0) + c.toNat / 4096 % 64) +
            c.toNat / 64 % 64) + c.toNat / 1 % 64 = c.toNat := by omega
        simp only [List.cons_append, List.nil_append]
        rw [decodeLeniently_lead (by omega) (by omega) (announced?_four hlead.1 hlead.2),
          decodeLeniently_next (by omega) (by simp only; split <;> omega)
            (by simp only; split <;> omega) rfl,
          decodeLeniently_next (by omega) (by simp only; omega) (by simp only; omega) rfl,
          decodeLeniently_last (by omega) (by simp only; omega) (by simp only; omega) rfl, hvalue,
          hcode]

theorem decodeLeniently_encode (s done : List Char) :
    decodeLeniently none done (encode s) = done.reverse ++ s := by
  induction s generalizing done with
  | nil => simp [encode, decodeLeniently]
  | cons c rest ih =>
      have hmore : encode (c :: rest) = encodeChar c ++ encode rest := List.flatMap_cons
      rw [hmore, decodeLeniently_encodeChar, ih, List.reverse_cons, List.append_assoc]
      rfl

end Utf8

namespace Percent

/-! ## Escapes -/

theorem hexValue?_upper : ∀ value < 16, hexValue? (hexDigit value).toUpper = some value := by
  decide

theorem hexDigit_mod (value : Nat) : hexDigit (value % 16) = hexDigit value := by
  unfold hexDigit
  rw [Nat.mod_mod]

theorem octet?_escaped (octet : UInt8) :
    octet? (hexDigit (octet.toNat / 16)).toUpper (hexDigit octet.toNat).toUpper = some octet := by
  have hbound : octet.toNat < 0x100 := octet.toNat_lt
  have hsum : 16 * (octet.toNat / 16) + octet.toNat % 16 = octet.toNat := by omega
  unfold octet?
  rw [← hexDigit_mod octet.toNat, hexValue?_upper _ (by omega), hexValue?_upper _ (by omega)]
  show some (UInt8.ofNat (16 * (octet.toNat / 16) + octet.toNat % 16)) = some octet
  rw [hsum, UInt8.ofNat_toNat]

theorem octets_escaped (octet : UInt8) (rest : List Char) :
    octets (escaped octet ++ rest) = octet :: octets rest := by
  have htext : escaped octet ++ rest =
      '%' :: (hexDigit (octet.toNat / 16)).toUpper :: (hexDigit octet.toNat).toUpper :: rest := rfl
  rw [htext, octets, octet?_escaped]

theorem octets_flatMap_escaped (spelled : Octets) (rest : List Char) :
    octets (spelled.flatMap escaped ++ rest) = spelled ++ octets rest := by
  induction spelled with
  | nil => rfl
  | cons octet more ih =>
      rw [List.flatMap_cons, List.append_assoc, octets_escaped, ih]
      rfl

theorem octets_cons_of_ne {c : Char} (hc : c ≠ '%') (rest : List Char) :
    octets (c :: rest) = Utf8.encodeChar c ++ octets rest := by
  rw [octets]
  rintro a b more rfl
  exact absurd rfl hc

/-! ## Encoded texts -/

variable {safe : List Char}

theorem encoded_cons (safe : List Char) (c : Char) (rest : List Char) :
    encoded safe (c :: rest) =
      (if isUnreserved c || safe.contains c then [c] else (Utf8.encodeChar c).flatMap escaped) ++
        encoded safe rest := List.flatMap_cons

theorem encoded_append (safe front back : List Char) :
    encoded safe (front ++ back) = encoded safe front ++ encoded safe back := List.flatMap_append

theorem octets_encoded (hsafe : '%' ∉ safe) (s : List Char) :
    octets (encoded safe s) = Utf8.encode s := by
  induction s with
  | nil => simp [encoded, Utf8.encode, octets]
  | cons c rest ih =>
      have hmore : Utf8.encode (c :: rest) = Utf8.encodeChar c ++ Utf8.encode rest :=
        List.flatMap_cons
      rw [encoded_cons, hmore]
      split
      next hkept =>
        have hc : c ≠ '%' := by
          rintro rfl
          have hreserved : isUnreserved '%' = false := by decide
          simp [hreserved, hsafe] at hkept
        rw [List.singleton_append, octets_cons_of_ne hc, ih]
      next => rw [octets_flatMap_escaped, ih]

/-- What is percent-encoded is read back. -/
theorem decoded_encoded (hsafe : '%' ∉ safe) (s : List Char) :
    decoded (encoded safe s) = s := by
  unfold decoded
  rw [octets_encoded hsafe, Utf8.decodeLeniently_encode]
  rfl

/-- An encoded text has no other characters than unreserved and safe ones and
percent signs. -/
theorem mem_encoded {s : List Char} {c : Char} (hmem : c ∈ encoded safe s) :
    isUnreserved c = true ∨ c ∈ safe ∨ c = '%' := by
  obtain ⟨original, -, hspelled⟩ := List.mem_flatMap.1 hmem
  split at hspelled
  next hkept =>
    obtain rfl := List.mem_singleton.1 hspelled
    rcases Bool.or_eq_true_iff.1 hkept with hunreserved | hsafe
    · exact .inl hunreserved
    · exact .inr (.inl (List.contains_iff_mem.1 hsafe))
  next =>
    obtain ⟨octet, -, hdigit⟩ := List.mem_flatMap.1 hspelled
    have hdigits : ∀ value, isUnreserved (hexDigit value).toUpper = true := by
      intro value
      have hsmall : ∀ value < 16, isUnreserved (hexDigit value).toUpper = true := by decide
      rw [← hexDigit_mod]
      exact hsmall _ (Nat.mod_lt value (by decide))
    simp only [escaped, List.map_cons, List.map_nil, List.mem_cons, List.not_mem_nil,
      or_false] at hdigit
    rcases hdigit with rfl | rfl | rfl
    · exact .inr (.inr rfl)
    · exact .inl (hdigits _)
    · exact .inl (hdigits _)

end Percent

end PolicyKeeper
