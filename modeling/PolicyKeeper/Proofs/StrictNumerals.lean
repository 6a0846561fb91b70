import PolicyKeeper.Proofs.NumeralAgreement

/-!
# Strict numerals

A strict numeral is a sign at most and decimal digits of any scripts, at least
one.  The strict reader gives the integer that it spells, if the digits are not
too many and the integer lies in the range, and gives nothing for any other
text.
-/

namespace PolicyKeeper

/-- The text is a sign at most, before digits with the given values, and spells
the integer. -/
def SpellsInteger (text : String) (digits : List Nat) (number : Int) : Prop :=
  ∃ sign s, text.toList = sign ++ s ∧ s ≠ [] ∧ SpellsDigits s digits ∧
    ((sign = [] ∨ sign = ['+']) ∧ number = numberOfDigits digits ∨
      sign = ['-'] ∧ number = -(numberOfDigits digits : Int))

theorem mapM_of_spellsDigits {s : List Char} {digits : List Nat}
    (hspells : SpellsDigits s digits) : s.mapM digitValue? = some digits := by
  induction hspells with
  | nil => rfl
  | cons hvalue _ ih =>
      rw [List.mapM_cons, hvalue, ih]
      rfl

/-- No sign is taken from a text that starts with a digit. -/
theorem splitSign_of_spellsDigits {s : List Char} {digits : List Nat}
    (hspells : SpellsDigits s digits) : splitSign s = (false, s) := by
  cases hspells with
  | nil => rfl
  | @cons c value rest more hvalue _ =>
      have hminus : c ≠ '-' := by
        rintro rfl
        have hnone : digitValue? '-' = none := by decide
        simp [hnone] at hvalue
      have hplus : c ≠ '+' := by
        rintro rfl
        have hnone : digitValue? '+' = none := by decide
        simp [hnone] at hvalue
      unfold splitSign
      split
      next heq => exact absurd (List.cons.inj heq).1 hminus
      next heq => exact absurd (List.cons.inj heq).1 hplus
      next => rfl

theorem strictDigits?_of_splitSign {text : String} {negative : Bool} {s : List Char}
    {digits : List Nat} (hsplit : splitSign text.toList = (negative, s)) (hs : s ≠ [])
    (hspells : SpellsDigits s digits) : strictDigits? text = some (negative, digits) := by
  unfold strictDigits?
  simp [hsplit, hs, mapM_of_spellsDigits hspells]

theorem strictDigits?_of_spells {text : String} {digits : List Nat} {number : Int}
    (hspells : SpellsInteger text digits number) :
    ∃ negative, strictDigits? text = some (negative, digits) ∧
      signed negative (numberOfDigits digits) = number := by
  obtain ⟨sign, s, htext, hs, hdigits, hsign⟩ := hspells
  rcases hsign with ⟨rfl | rfl, rfl⟩ | ⟨rfl, rfl⟩
  · have hsplit : splitSign text.toList = (false, s) := by
      rw [htext]
      exact splitSign_of_spellsDigits hdigits
    exact ⟨false, strictDigits?_of_splitSign hsplit hs hdigits, rfl⟩
  · have hsplit : splitSign text.toList = (false, s) := by
      rw [htext]
      rfl
    exact ⟨false, strictDigits?_of_splitSign hsplit hs hdigits, rfl⟩
  · have hsplit : splitSign text.toList = (true, s) := by
      rw [htext]
      rfl
    exact ⟨true, strictDigits?_of_splitSign hsplit hs hdigits, rfl⟩

theorem spells_of_strictDigits? {text : String} {negative : Bool} {digits : List Nat}
    (hstrict : strictDigits? text = some (negative, digits)) :
    SpellsInteger text digits (signed negative (numberOfDigits digits)) := by
  obtain ⟨sign, s, htext, hs, hdigits, hsign⟩ := strictDigits?_eq_some hstrict
  refine ⟨sign, s, htext, hs, hdigits, ?_⟩
  rcases hsign with ⟨hsign, rfl⟩ | ⟨hsign, rfl⟩ | ⟨hsign, rfl⟩
  · exact .inl ⟨.inl hsign, rfl⟩
  · exact .inl ⟨.inr hsign, rfl⟩
  · exact .inr ⟨hsign, rfl⟩

/-- The strict reader gives exactly the integer that a numeral spells. -/
theorem readStrictInteger_eq_some_iff {text : String} {least greatest number : Int} :
    readStrictInteger text least greatest = .ok (some number) ↔
      ∃ digits, SpellsInteger text digits number ∧ digits.length ≤ digitLimit ∧
        least ≤ number ∧ number ≤ greatest := by
  unfold readStrictInteger
  constructor
  · intro hread
    cases hstrict : strictDigits? text with
    | none => simp [hstrict] at hread
    | some found =>
        obtain ⟨negative, digits⟩ := found
        simp only [hstrict] at hread
        split at hread
        next => simp at hread
        next hlength =>
          have hspells := spells_of_strictDigits? hstrict
          rw [Except.ok.injEq] at hread
          split at hread
          next => simp at hread
          next hrange =>
            obtain rfl := Option.some.inj hread
            simp only [Bool.or_eq_true, decide_eq_true_eq, not_or, Int.not_lt] at hrange
            exact ⟨digits, hspells, Nat.le_of_not_lt hlength, hrange.1, hrange.2⟩
  · rintro ⟨digits, hspells, hlength, hleast, hgreatest⟩
    obtain ⟨negative, hstrict, hnumber⟩ := strictDigits?_of_spells hspells
    simp [hstrict, hnumber, Nat.not_lt.2 hlength, Int.not_lt.2 hleast, Int.not_lt.2 hgreatest]

theorem spellsInteger_iff {text : String} {digits : List Nat} {number : Int} :
    SpellsInteger text digits number ↔
      ∃ negative, strictDigits? text = some (negative, digits) ∧
        signed negative (numberOfDigits digits) = number := by
  constructor
  · exact strictDigits?_of_spells
  · rintro ⟨negative, hstrict, rfl⟩
    exact spells_of_strictDigits? hstrict

/-- The strict reader fails just for numerals of too many digits, in any range. -/
theorem readStrictInteger_eq_error_iff {text : String} {least greatest : Int}
    {fault : NumeralFault} :
    readStrictInteger text least greatest = .error fault ↔
      ∃ digits number, SpellsInteger text digits number ∧ digitLimit < digits.length ∧
        fault = .tooManyDigits digits.length := by
  simp only [spellsInteger_iff]
  unfold readStrictInteger
  cases hstrict : strictDigits? text with
  | none => simp
  | some found =>
      obtain ⟨negative, digits⟩ := found
      by_cases hlong : digitLimit < digits.length
      · simp [hlong, eq_comm]
      · simp [hlong]

/-- The strict reader gives nothing just for numerals out of the range, and for
what is no numeral. -/
theorem readStrictInteger_eq_none_iff {text : String} {least greatest : Int} :
    readStrictInteger text least greatest = .ok none ↔
      ∀ digits number, SpellsInteger text digits number →
        digits.length ≤ digitLimit ∧ ¬ (least ≤ number ∧ number ≤ greatest) := by
  unfold readStrictInteger
  cases hstrict : strictDigits? text with
  | none => simp [spellsInteger_iff, hstrict]
  | some found =>
      obtain ⟨negative, digits⟩ := found
      have honly (p : List Nat → Int → Prop) :
          (∀ others number, SpellsInteger text others number → p others number) ↔
            p digits (signed negative (numberOfDigits digits)) := by
        constructor
        · intro hall
          exact hall _ _ (spells_of_strictDigits? hstrict)
        · intro hp others number hspells
          obtain ⟨_, hother, rfl⟩ := strictDigits?_of_spells hspells
          obtain ⟨rfl, rfl⟩ := Prod.mk.inj (Option.some.inj (hstrict.symm.trans hother))
          exact hp
      rw [honly]
      by_cases hlong : digitLimit < digits.length
      · simp [hlong]
      · simp [if_neg hlong, Nat.le_of_not_lt hlong]

/-! ## What does not change the integer -/

theorem exists_spellsDigits {s : List Char} (hdigits : ∀ c ∈ s, isDecimalDigit c = true) :
    ∃ digits, SpellsDigits s digits := by
  induction s with
  | nil => exact ⟨[], .nil⟩
  | cons c rest ih =>
      rw [List.forall_mem_cons] at hdigits
      obtain ⟨value, hvalue⟩ := Option.isSome_iff_exists.1 hdigits.1
      obtain ⟨more, hmore⟩ := ih hdigits.2
      exact ⟨value :: more, .cons hvalue hmore⟩

theorem numberOfDigits_zeros (count : Nat) (digits : List Nat) :
    numberOfDigits (List.replicate count 0 ++ digits) = numberOfDigits digits := by
  have hzeros : numberOfDigits (List.replicate count 0) = 0 := by
    induction count with
    | zero => rfl
    | succ count ih =>
        rw [List.replicate_succ', numberOfDigits_append, ih]
        rfl
  rw [numberOfDigits_append, hzeros]
  rfl

theorem spellsDigits_zeros {zeros : List Char} (hzeros : ∀ c ∈ zeros, digitValue? c = some 0) :
    SpellsDigits zeros (List.replicate zeros.length 0) := by
  induction zeros with
  | nil => exact .nil
  | cons c rest ih =>
      rw [List.forall_mem_cons] at hzeros
      exact .cons hzeros.1 (ih hzeros.2)

/-- A sign and digits are taken apart again. -/
theorem strictDigits?_signed {sign s : List Char} {digits : List Nat}
    (hsign : sign = [] ∨ sign = ['+'] ∨ sign = ['-']) (hs : s ≠ [])
    (hspells : SpellsDigits s digits) :
    strictDigits? (String.ofList (sign ++ s)) = some (decide (sign = ['-']), digits) := by
  have hsplit : splitSign (sign ++ s) = (decide (sign = ['-']), s) := by
    rcases hsign with rfl | rfl | rfl
    · exact splitSign_of_spellsDigits hspells
    · rfl
    · rfl
  exact strictDigits?_of_splitSign (by rw [String.toList_ofList]; exact hsplit) hs hspells

theorem readStrictInteger_of_strictDigits? {text : String} {least greatest : Int}
    {negative : Bool} {digits : List Nat} (hstrict : strictDigits? text = some (negative, digits))
    (hlength : digits.length ≤ digitLimit) :
    readStrictInteger text least greatest =
      .ok (Option.guard (fun number => least ≤ number ∧ number ≤ greatest)
        (signed negative (numberOfDigits digits))) := by
  unfold readStrictInteger
  simp only [hstrict, if_neg (Nat.not_lt.2 hlength), Option.guard]
  congr 1
  by_cases hrange : least ≤ signed negative (numberOfDigits digits) ∧
      signed negative (numberOfDigits digits) ≤ greatest
  · simp [hrange, Int.not_lt.2 hrange.1, Int.not_lt.2 hrange.2]
  · have hout : signed negative (numberOfDigits digits) < least ∨
        greatest < signed negative (numberOfDigits digits) := by omega
    simp [hrange, hout]

/-- Zeros in front of the digits do not change the integer. -/
theorem readStrictInteger_zeros {sign zeros s : List Char} (least greatest : Int)
    (hsign : sign = [] ∨ sign = ['+'] ∨ sign = ['-'])
    (hzeros : ∀ c ∈ zeros, digitValue? c = some 0) (hs : s ≠ [])
    (hdigits : ∀ c ∈ s, isDecimalDigit c = true)
    (hlength : zeros.length + s.length ≤ digitLimit) :
    readStrictInteger (String.ofList (sign ++ (zeros ++ s))) least greatest =
      readStrictInteger (String.ofList (sign ++ s)) least greatest := by
  obtain ⟨digits, hspells⟩ := exists_spellsDigits hdigits
  have hcount : digits.length = s.length := hspells.length_eq.symm
  have hall : SpellsDigits (zeros ++ s) (List.replicate zeros.length 0 ++ digits) :=
    List.rel_append (spellsDigits_zeros hzeros) hspells
  have hne : zeros ++ s ≠ [] := by simp [hs]
  rw [readStrictInteger_of_strictDigits? (strictDigits?_signed hsign hne hall)
      (by rw [List.length_append, List.length_replicate]; omega),
    readStrictInteger_of_strictDigits? (strictDigits?_signed hsign hs hspells) (by omega),
    numberOfDigits_zeros]

/-- A plus sign in front of the digits does not change the integer. -/
theorem readStrictInteger_plus {s : List Char} (least greatest : Int)
    (hdigits : ∀ c ∈ s, isDecimalDigit c = true) :
    readStrictInteger (String.ofList ('+' :: s)) least greatest =
      readStrictInteger (String.ofList s) least greatest := by
  obtain ⟨digits, hspells⟩ := exists_spellsDigits hdigits
  have hstrict : strictDigits? (String.ofList ('+' :: s)) = strictDigits? (String.ofList s) := by
    unfold strictDigits?
    rw [String.toList_ofList, String.toList_ofList, splitSign_of_spellsDigits hspells]
    rfl
  unfold readStrictInteger
  rw [hstrict]

/-! ## Integers that are written -/

theorem digitValue?_of_isDigit {c : Char} (hc : c.isDigit = true) :
    digitValue? c = some (c.toNat - 0x30) := by
  have hrange : 0x30 ≤ c.toNat ∧ c.toNat ≤ 0x39 := by
    simpa [Char.isDigit, UInt32.le_iff_toNat_le] using hc
  simp [digitValue?, decimalZeros, hrange.1, hrange.2]

theorem spellsDigits_decimalDigits (number : Nat) :
    SpellsDigits (decimalDigits number) ((decimalDigits number).map fun c => c.toNat - 0x30) := by
  have hdigits : ∀ c ∈ decimalDigits number, c.isDigit = true :=
    fun _ => Nat.isDigit_of_mem_toDigits (by decide) (by decide)
  rw [SpellsDigits, List.forall₂_map_right_iff, List.forall₂_same]
  exact fun c hmem => digitValue?_of_isDigit (hdigits c hmem)

theorem numberOfDigits_decimalDigits (number : Nat) :
    numberOfDigits ((decimalDigits number).map fun c => c.toNat - 0x30) = number := by
  rw [numberOfDigits, List.foldl_map]
  exact Nat.ofDigitChars_toDigits (by decide) (by decide)

/-- An integer that can be written is read back. -/
theorem readStrictInteger_written {least greatest number : Int} {text : String}
    (hwritten : writeInteger number = .ok text) (hleast : least ≤ number)
    (hgreatest : number ≤ greatest) :
    readStrictInteger text least greatest = .ok (some number) := by
  unfold writeInteger at hwritten
  dsimp only at hwritten
  split at hwritten
  next => cases hwritten
  next hlength =>
    obtain rfl := Except.ok.inj hwritten
    refine readStrictInteger_eq_some_iff.2 ⟨_, ⟨if number < 0 then ['-'] else [], _, ?_,
      Nat.toDigits_ne_nil, spellsDigits_decimalDigits number.natAbs, ?_⟩, ?_, hleast, hgreatest⟩
    · rw [String.toList_ofList]
      split <;> rfl
    · rw [numberOfDigits_decimalDigits]
      by_cases hnegative : number < 0
      · simp only [hnegative, if_true]
        exact .inr ⟨trivial, by omega⟩
      · simp only [hnegative, if_false]
        exact .inl ⟨.inl trivial, by omega⟩
    · rw [List.length_map]
      exact Nat.le_of_not_lt hlength

/-- The strict reader gives an integer just where the text is a sign at most and
digits that spell it, not too many, and the integer lies in the range.  It fails
just for a numeral of too many digits, and gives nothing for all else.  So an
integer that is written is read back, zeros and a plus sign in front change
nothing, and the lenient reader gives the same integer. -/
theorem strict_reading_exact (value : Option String) (least greatest : Int) :
    (∀ number, readOptionalInteger value least greatest = .ok (some number) ↔
      ∃ text digits, value = some text ∧ SpellsInteger text digits number ∧
        digits.length ≤ digitLimit ∧ least ≤ number ∧ number ≤ greatest) ∧
    (∀ fault, readOptionalInteger value least greatest = .error fault ↔
      ∃ text digits number, value = some text ∧ SpellsInteger text digits number ∧
        digitLimit < digits.length ∧ fault = .tooManyDigits digits.length) ∧
    (readOptionalInteger value least greatest = .ok none ↔
      ∀ text digits number, value = some text → SpellsInteger text digits number →
        digits.length ≤ digitLimit ∧ ¬ (least ≤ number ∧ number ≤ greatest)) ∧
    (∀ number, least ≤ number → number ≤ greatest →
      (decimalDigits number.natAbs).length ≤ digitLimit →
      ∃ text, writeInteger number = .ok text ∧
        readOptionalInteger (some text) least greatest = .ok (some number)) ∧
    (∀ sign zeros s : List Char, sign = [] ∨ sign = ['+'] ∨ sign = ['-'] →
      (∀ c ∈ zeros, digitValue? c = some 0) → s ≠ [] → (∀ c ∈ s, isDecimalDigit c = true) →
      zeros.length + s.length ≤ digitLimit →
      readOptionalInteger (some (String.ofList (sign ++ (zeros ++ s)))) least greatest =
        readOptionalInteger (some (String.ofList (sign ++ s))) least greatest) ∧
    (∀ s : List Char, (∀ c ∈ s, isDecimalDigit c = true) →
      readOptionalInteger (some (String.ofList ('+' :: s))) least greatest =
        readOptionalInteger (some (String.ofList s)) least greatest) ∧
    ∀ number, readOptionalInteger value least greatest = .ok (some number) →
      ∃ text, value = some text ∧ readInteger text = .ok number := by
  refine ⟨?_, ?_, ?_, ?_, ?_, ?_, ?_⟩
  · intro number
    cases value with
    | none => simp [readOptionalInteger]
    | some text => simp [readOptionalInteger, readStrictInteger_eq_some_iff]
  · intro fault
    cases value with
    | none => simp [readOptionalInteger]
    | some text => simp [readOptionalInteger, readStrictInteger_eq_error_iff]
  · cases value with
    | none => simp [readOptionalInteger]
    | some text =>
        refine readStrictInteger_eq_none_iff.trans ⟨?_, ?_⟩
        · rintro hall _ digits number ⟨⟩ hspells
          exact hall digits number hspells
        · intro hall digits number
          exact hall text digits number rfl
  · intro number hleast hgreatest hlength
    have hwritten : writeInteger number = .ok (String.ofList
        (if number < 0 then '-' :: decimalDigits number.natAbs
          else decimalDigits number.natAbs)) := by
      simp [writeInteger, Nat.not_lt.2 hlength]
    exact ⟨_, hwritten, readStrictInteger_written hwritten hleast hgreatest⟩
  · intro sign zeros s hsign hzeros hs hdigits hlength
    exact readStrictInteger_zeros least greatest hsign hzeros hs hdigits hlength
  · intro s hdigits
    exact readStrictInteger_plus least greatest hdigits
  · intro number hread
    cases value with
    | none => cases hread
    | some text => exact ⟨text, rfl, (readInteger_of_readStrictInteger hread).1⟩

/-- Digits of two scripts with a zero in front. -/
theorem strict_reading_exact_mixed :
    (∃ text, writeInteger (-42) = .ok text ∧
      readOptionalInteger (some text) (-50) 50 = .ok (some (-42))) ∧
    readOptionalInteger (some (String.ofList ['-', '٠', '٤', '2'])) (-50) 50 =
      readOptionalInteger (some (String.ofList ['-', '٤', '2'])) (-50) 50 ∧
    readOptionalInteger (some (String.ofList ['+', '٤', '2'])) (-50) 50 =
      readOptionalInteger (some (String.ofList ['٤', '2'])) (-50) 50 ∧
    ∃ text, some "-٤2" = some text ∧ readInteger text = .ok (-42) := by
  obtain ⟨-, -, -, hwritten, hzeros, hplus, hlenient⟩ :=
    strict_reading_exact (some "-٤2") (-50) 50
  have hdigits : ∀ c ∈ ['٤', '2'], isDecimalDigit c = true := List.all_eq_true.1 (by decide)
  have hzero : ∀ c ∈ ['٠'], digitValue? c = some 0 := List.forall_mem_singleton.2 (by decide)
  refine ⟨hwritten (-42) (by decide) (by decide) (by decide +kernel), ?_, hplus _ hdigits, ?_⟩
  · exact hzeros ['-'] ['٠'] ['٤', '2'] (.inr (.inr rfl)) hzero (by simp) hdigits
      (by decide +kernel)
  · exact hlenient (-42) (by decide +kernel)

end PolicyKeeper
