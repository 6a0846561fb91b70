import PolicyKeeper.IntegerNumeral
import Mathlib.Data.List.Forall2
import Mathlib.Data.List.TakeDrop
import Mathlib.Data.List.TakeWhile
import Mathlib.Tactic.IntervalCases

/-!
# Strict and lenient numerals

A strict numeral is checked when a policy is read, and its text is read
leniently whenever the integer is wanted.  Every text that the strict reader
accepts is spelled back in ASCII without change of value, has nothing around
its digits, and so means the same integer to the lenient reader.
-/

namespace PolicyKeeper

theorem digitValue?_range {c : Char} {value : Nat}
    (hvalue : digitValue? c = some value) :
    ∃ start ∈ decimalZeros,
      start ≤ c.toNat ∧ c.toNat ≤ start + 9 ∧ value = c.toNat - start := by
  unfold digitValue? at hvalue
  obtain ⟨start, hfound, rfl⟩ := Option.map_eq_some_iff.1 hvalue
  have hrange := List.find?_some hfound
  simp only [Bool.and_eq_true, decide_eq_true_eq] at hrange
  exact ⟨start, List.mem_of_find?_eq_some hfound, hrange.1, hrange.2, rfl⟩

theorem isBlank_of_digitValue? {c : Char} {value : Nat}
    (hvalue : digitValue? c = some value) : isBlank c = false := by
  obtain ⟨start, hstart, hleast, hgreatest, -⟩ := digitValue?_range hvalue
  have hapart : ∀ start ∈ decimalZeros,
      start = 0x30 ∨ (0x660 ≤ start ∧ start + 9 < 0x1680) ∨
        (0x1680 < start ∧ start + 9 < 0x2000) ∨ 0x3000 < start := by
    decide
  have hcases := hapart start hstart
  rw [Bool.eq_false_iff]
  simp only [isBlank, ne_eq, Bool.or_eq_true, Bool.and_eq_true, decide_eq_true_eq, beq_iff_eq]
  omega

theorem toNat_asciiDigit {value : Nat} (hvalue : value ≤ 9) :
    (asciiDigit value).toNat = 0x30 + value := by
  interval_cases value <;> rfl

theorem digitIn?_asciiDigit {value : Nat} (hvalue : value ≤ 9) :
    digitIn? 10 (asciiDigit value) = some value := by
  interval_cases value <;> rfl

theorem eq_asciiDigit {c : Char} {value : Nat} (hvalue : digitValue? c = some value)
    (hascii : c.toNat < 0x80) : c = asciiDigit value := by
  obtain ⟨start, hstart, hleast, hgreatest, hdiff⟩ := digitValue?_range hvalue
  have hfirst : ∀ start ∈ decimalZeros, start = 0x30 ∨ 0x80 ≤ start := by decide
  have hzero : start = 0x30 := by
    rcases hfirst start hstart with hzero | hbeyond
    · exact hzero
    · omega
  subst hzero
  apply Char.toNat_inj.1
  rw [toNat_asciiDigit (digitValue?_le hvalue), hdiff]
  omega

/-- The characters are decimal digits with the given values. -/
abbrev SpellsDigits : List Char → List Nat → Prop :=
  List.Forall₂ fun c value => digitValue? c = some value

theorem spellsDigits_of_mapM {s : List Char} {digits : List Nat}
    (hdigits : s.mapM digitValue? = some digits) : SpellsDigits s digits := by
  induction s generalizing digits with
  | nil =>
      simp only [List.mapM_nil, Option.pure_def, Option.some.injEq] at hdigits
      subst digits
      exact .nil
  | cons c rest ih =>
      simp only [List.mapM_cons, Option.bind_eq_bind, Option.bind_eq_some_iff,
        Option.pure_def, Option.some.injEq] at hdigits
      obtain ⟨value, hvalue, more, hmore, rfl⟩ := hdigits
      exact .cons hvalue (ih hmore)

theorem SpellsDigits.le_nine {s : List Char} {digits : List Nat}
    (hspells : SpellsDigits s digits) : ∀ value ∈ digits, value ≤ 9 := by
  induction hspells with
  | nil => simp
  | cons hvalue _ ih =>
      intro value hmem
      rcases List.mem_cons.1 hmem with rfl | hrest
      · exact digitValue?_le hvalue
      · exact ih value hrest

theorem SpellsDigits.eq_map_of_ascii {s : List Char} {digits : List Nat}
    (hspells : SpellsDigits s digits) (hascii : ∀ c ∈ s, c.toNat < 0x80) :
    s = digits.map asciiDigit := by
  induction hspells with
  | nil => rfl
  | cons hvalue _ ih =>
      rw [List.map_cons, ← eq_asciiDigit hvalue (hascii _ List.mem_cons_self)]
      rw [← ih fun c hmem => hascii c (List.mem_cons_of_mem _ hmem)]

/-- Digits of any script become the digits of ASCII with the same values. -/
theorem asciiNumeral_append {sign s : List Char} {digits : List Nat}
    (hsign : sign = [] ∨ sign = ['+'] ∨ sign = ['-']) (hspells : SpellsDigits s digits) :
    asciiNumeral (sign ++ s) = sign ++ digits.map asciiDigit := by
  unfold asciiNumeral
  split
  next hall =>
    simp only [List.all_eq_true, List.mem_append, decide_eq_true_eq] at hall
    rw [← hspells.eq_map_of_ascii fun c hmem => hall c (.inr hmem)]
  next hbeyond =>
    clear hbeyond
    rw [List.map_append]
    congr 1
    · rcases hsign with rfl | rfl | rfl <;> rfl
    · induction hspells with
      | nil => rfl
      | @cons c value _ _ hvalue _ ih =>
          rw [List.map_cons, List.map_cons, ih, isBlank_of_digitValue? hvalue, hvalue]
          by_cases hsmall : c.toNat < 0x7F
          · rw [if_pos hsmall, ← eq_asciiDigit hvalue (by omega)]
          · simp [hsmall]

theorem splitSign_eq {s unsigned : List Char} {negative : Bool}
    (hsplit : splitSign s = (negative, unsigned)) :
    ∃ sign, s = sign ++ unsigned ∧
      (sign = [] ∧ negative = false ∨ sign = ['+'] ∧ negative = false ∨
        sign = ['-'] ∧ negative = true) := by
  unfold splitSign at hsplit
  split at hsplit
  next rest =>
    obtain ⟨rfl, rfl⟩ := Prod.mk.inj hsplit
    exact ⟨['-'], rfl, .inr (.inr ⟨rfl, rfl⟩)⟩
  next rest =>
    obtain ⟨rfl, rfl⟩ := Prod.mk.inj hsplit
    exact ⟨['+'], rfl, .inr (.inl ⟨rfl, rfl⟩)⟩
  next =>
    obtain ⟨rfl, rfl⟩ := Prod.mk.inj hsplit
    exact ⟨[], rfl, .inl ⟨rfl, rfl⟩⟩

/-! ## Digits of ASCII, read leniently -/

theorem splitSign_asciiDigit {value : Nat} (hvalue : value ≤ 9) (rest : List Char) :
    splitSign (asciiDigit value :: rest) = (false, asciiDigit value :: rest) := by
  interval_cases value <;> rfl

theorem isAsciiBlank_asciiDigit {value : Nat} (hvalue : value ≤ 9) :
    isAsciiBlank (asciiDigit value) = false := by
  interval_cases value <;> rfl

theorem asciiDigit_ne_underscore {value : Nat} (hvalue : value ≤ 9) :
    asciiDigit value ≠ '_' := by
  interval_cases value <;> decide

theorem splitSign_dropWhile_append {sign : List Char} {negative : Bool} {digits : List Nat}
    (hsign : sign = [] ∧ negative = false ∨ sign = ['+'] ∧ negative = false ∨
      sign = ['-'] ∧ negative = true)
    (hdigits : digits ≠ []) (hsmall : ∀ value ∈ digits, value ≤ 9) :
    splitSign ((sign ++ digits.map asciiDigit).dropWhile isAsciiBlank) =
      (negative, digits.map asciiDigit) := by
  rcases hsign with ⟨rfl, rfl⟩ | ⟨rfl, rfl⟩ | ⟨rfl, rfl⟩
  · obtain ⟨value, rest, rfl⟩ := List.exists_cons_of_ne_nil hdigits
    have hvalue : value ≤ 9 := hsmall value List.mem_cons_self
    rw [List.nil_append, List.map_cons,
      List.dropWhile_cons_of_neg (by simp [isAsciiBlank_asciiDigit hvalue])]
    exact splitSign_asciiDigit hvalue _
  · rfl
  · rfl

theorem underscoresSeparate_map_asciiDigit {digits : List Nat}
    (hsmall : ∀ value ∈ digits, value ≤ 9) :
    underscoresSeparate (digits.map asciiDigit) = true := by
  induction digits with
  | nil => rfl
  | cons value rest ih =>
      have hne := asciiDigit_ne_underscore (hsmall value List.mem_cons_self)
      rw [List.map_cons, underscoresSeparate]
      · exact ih fun other hmem => hsmall other (List.mem_cons_of_mem _ hmem)
      · intro heq _
        exact hne heq
      · intro _ heq _
        exact hne heq

theorem filterMap_digitIn? {digits : List Nat} (hsmall : ∀ value ∈ digits, value ≤ 9) :
    (digits.map asciiDigit).filterMap (digitIn? 10) = digits := by
  induction digits with
  | nil => rfl
  | cons value rest ih =>
      rw [List.map_cons,
        List.filterMap_cons_some (digitIn?_asciiDigit (hsmall value List.mem_cons_self))]
      rw [ih fun other hmem => hsmall other (List.mem_cons_of_mem _ hmem)]

theorem dropBaseMark_ten (s : List Char) : dropBaseMark 10 s = s := by
  unfold dropBaseMark
  split <;> simp

theorem span_map_asciiDigit {digits : List Nat} (hsmall : ∀ value ∈ digits, value ≤ 9) :
    (digits.map asciiDigit).span (fun c => c == '_' || (digitIn? 10 c).isSome) =
      (digits.map asciiDigit, []) := by
  have hall : ∀ c ∈ digits.map asciiDigit,
      (c == '_' || (digitIn? 10 c).isSome) = true := by
    intro c hmem
    obtain ⟨value, hvalue, rfl⟩ := List.mem_map.1 hmem
    simp [digitIn?_asciiDigit (hsmall value hvalue)]
  rw [List.span_eq_takeWhile_dropWhile, List.takeWhile_eq_self_iff.2 hall,
    List.dropWhile_eq_nil_iff.2 hall]

theorem readInteger_of_splitSign {text : String} {negative : Bool} {digits : List Nat}
    (hsplit : splitSign ((asciiNumeral text.toList).dropWhile isAsciiBlank) =
      (negative, digits.map asciiDigit))
    (hdigits : digits ≠ []) (hsmall : ∀ value ∈ digits, value ≤ 9)
    (hlength : digits.length ≤ digitLimit) :
    readInteger text = .ok (signed negative (numberOfDigits digits)) := by
  have hhead : ((digits.map asciiDigit).head? == some '_') = false := by
    obtain ⟨value, rest, rfl⟩ := List.exists_cons_of_ne_nil hdigits
    simpa using asciiDigit_ne_underscore (hsmall value List.mem_cons_self)
  unfold readInteger readIntegerIn
  simp only [hsplit, dropBaseMark_ten, span_map_asciiDigit hsmall, filterMap_digitIn? hsmall,
    hhead, underscoresSeparate_map_asciiDigit hsmall]
  simp [hdigits, Nat.not_lt.2 hlength, numberOfDigits]

theorem strictDigits?_eq_some {text : String} {negative : Bool} {digits : List Nat}
    (hstrict : strictDigits? text = some (negative, digits)) :
    ∃ sign s, text.toList = sign ++ s ∧ s ≠ [] ∧ SpellsDigits s digits ∧
      (sign = [] ∧ negative = false ∨ sign = ['+'] ∧ negative = false ∨
        sign = ['-'] ∧ negative = true) := by
  unfold strictDigits? at hstrict
  cases hsplit : splitSign text.toList with
  | mk found s =>
      simp only [hsplit] at hstrict
      split at hstrict
      next => simp at hstrict
      next hnonempty =>
        obtain ⟨values, hvalues, hpair⟩ := Option.map_eq_some_iff.1 hstrict
        obtain ⟨rfl, rfl⟩ := Prod.mk.inj hpair
        obtain ⟨sign, htext, hsign⟩ := splitSign_eq hsplit
        have hne : s ≠ [] := by simpa using hnonempty
        exact ⟨sign, s, htext, hne, spellsDigits_of_mapM hvalues, hsign⟩

theorem readInteger_of_strictDigits? {text : String} {negative : Bool} {digits : List Nat}
    (hstrict : strictDigits? text = some (negative, digits))
    (hlength : digits.length ≤ digitLimit) :
    readInteger text = .ok (signed negative (numberOfDigits digits)) := by
  obtain ⟨sign, s, htext, hne, hspells, hsign⟩ := strictDigits?_eq_some hstrict
  have hdigits : digits ≠ [] := by
    intro hnil
    subst hnil
    exact hne (List.forall₂_nil_right_iff.1 hspells)
  have hascii : asciiNumeral text.toList = sign ++ digits.map asciiDigit := by
    rw [htext]
    exact asciiNumeral_append (by tauto) hspells
  apply readInteger_of_splitSign _ hdigits hspells.le_nine hlength
  rw [hascii]
  exact splitSign_dropWhile_append hsign hdigits hspells.le_nine

/-- What the strict reader accepts lies in the range, and the lenient reader
gives the same integer. -/
theorem readInteger_of_readStrictInteger {text : String} {least greatest number : Int}
    (hread : readStrictInteger text least greatest = .ok (some number)) :
    readInteger text = .ok number ∧ least ≤ number ∧ number ≤ greatest := by
  unfold readStrictInteger at hread
  cases hstrict : strictDigits? text with
  | none => simp [hstrict] at hread
  | some found =>
      obtain ⟨negative, digits⟩ := found
      simp only [hstrict] at hread
      split at hread
      next => simp at hread
      next hlength =>
        simp only [Except.ok.injEq] at hread
        split at hread
        next => simp at hread
        next hrange =>
          obtain rfl := Option.some.inj hread
          simp only [Bool.or_eq_true, decide_eq_true_eq, not_or, Int.not_lt] at hrange
          exact ⟨readInteger_of_strictDigits? hstrict (Nat.le_of_not_lt hlength), hrange⟩

end PolicyKeeper
