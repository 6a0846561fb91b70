import Mathlib
import PolicyKeeper.DecimalDigits
import PolicyKeeper.MarkupParts

/-!
# Characters as they are spelled

A text can be spelled so that nothing in it is taken for markup: a character
that means only itself stands as it is, and any other is referred to by its
number.  A text that is spelled so is split into the same characters again.
-/

namespace PolicyKeeper

namespace Markup

/-! ## References to numbers -/

/-- Numbers that are kept below a bound at every digit are only cut off in the
end. -/
theorem foldl_bounded (values : List Nat) (start : Nat) :
    values.foldl (fun number value => min 0x110000 (10 * number + value)) (min 0x110000 start) =
      min 0x110000 (values.foldl (fun number value => 10 * number + value) start) := by
  induction values generalizing start with
  | nil => rfl
  | cons value rest ih =>
      rw [List.foldl_cons, List.foldl_cons, ← ih]
      congr 1
      omega

theorem decimalValue?_of_isDigit {c : Char} (hc : c.isDigit = true) :
    decimalValue? c = some (c.toNat - 0x30) := by
  have hrange : 0x30 ≤ c.toNat ∧ c.toNat ≤ 0x39 := by
    simpa [Char.isDigit, UInt32.le_iff_toNat_le] using hc
  have hvalue : hexValue? c = some (c.toNat - 0x30) := by
    simp [hexValue?, hrange]
  have hsmall : c.toNat - 0x30 < 10 := by omega
  rw [decimalValue?, hvalue, Option.filter_some, if_pos (by simpa using hsmall)]

theorem mapM_decimalValue? {digits : List Char} (hdigits : ∀ c ∈ digits, c.isDigit = true) :
    digits.mapM decimalValue? = some (digits.map fun c => c.toNat - 0x30) := by
  induction digits with
  | nil => rfl
  | cons c rest ih =>
      have hc := decimalValue?_of_isDigit (hdigits c List.mem_cons_self)
      have hrest := ih fun other hmem => hdigits other (List.mem_cons_of_mem c hmem)
      rw [List.mapM_cons, hc, hrest]
      rfl

theorem isDigit_of_mem_decimalDigits {number : Nat} {c : Char} (hc : c ∈ decimalDigits number) :
    c.isDigit = true :=
  Nat.isDigit_of_mem_toDigits (by decide) (by decide) hc

theorem referenceNumber?_decimalDigits (number : Nat) :
    referenceNumber? 10 decimalValue? (decimalDigits number) = some (min 0x110000 number) := by
  have hne : decimalDigits number ≠ [] := Nat.toDigits_ne_nil
  have hdigits : ∀ c ∈ decimalDigits number, c.isDigit = true :=
    fun _ => isDigit_of_mem_decimalDigits
  have hvalues := mapM_decimalValue? hdigits
  have hspelled : (decimalDigits number).foldl (fun n c => 10 * n + (c.toNat - 0x30)) 0 = number :=
    Nat.ofDigitChars_toDigits (by decide) (by decide)
  have hbounded := foldl_bounded ((decimalDigits number).map fun c => c.toNat - 0x30) 0
  rw [List.foldl_map, List.foldl_map, hspelled] at hbounded
  unfold referenceNumber?
  split
  next heq => exact absurd heq hne
  next =>
    rw [hvalues, Option.map_some, List.foldl_map]
    exact congrArg some hbounded

theorem characterNumbered?_toNat {c : Char} (hc : isAllowed c = true) :
    characterNumbered? c.toNat = some c := by
  have hvalid : c.toNat.isValidChar := c.valid
  have hsame : Char.ofNatAux c.toNat hvalid = c := by
    apply Char.ext
    rfl
  unfold characterNumbered?
  rw [dif_pos hvalid]
  simp [hsame, hc]

theorem reference?_decimalDigits {c : Char} (hc : isAllowed c = true) :
    reference? ('#' :: decimalDigits c.toNat) = some (.numbered c) := by
  have hnumber := referenceNumber?_decimalDigits c.toNat
  have hsmall : c.toNat < 0x110000 := by
    have hvalid : c.toNat.isValidChar := c.valid
    unfold Nat.isValidChar at hvalid
    omega
  rw [Nat.min_eq_right (by omega)] at hnumber
  unfold reference?
  split
  next digits heq =>
    -- a decimal numeral does not begin with the mark of the other base
    have hmem : 'x' ∈ decimalDigits c.toNat := by
      rw [(List.cons.inj heq).2]
      exact List.mem_cons_self
    have hdigit := isDigit_of_mem_decimalDigits hmem
    simp at hdigit
  next digits hnot heq =>
    rw [← (List.cons.inj heq).2, hnumber]
    simp [characterNumbered?_toNat hc]
  next hmark heq => exact (hmark (List.cons.inj heq).1.symm).elim
  next => contradiction

/-- A reference that is open is read at its end. -/
theorem partsFrom_open {s : List Char} (hs : ';' ∉ s) (held rest : List Char) :
    partsFrom (some held) (s ++ ';' :: rest) =
      (reference? (held.reverse ++ s)).bind fun part =>
        (partsFrom none rest).map (part :: ·) := by
  induction s generalizing held with
  | nil =>
      rw [List.nil_append, partsFrom, if_pos rfl, List.append_nil]
      cases reference? held.reverse with
      | none => rfl
      | some part => cases partsFrom none rest <;> rfl
  | cons c s ih =>
      rw [List.mem_cons, not_or] at hs
      rw [List.cons_append, partsFrom, if_neg (Ne.symm hs.1), ih hs.2]
      simp

/-! ## Spelling -/

/-- Characters that can mean something else than themselves. -/
def marks : List Char := ['<', '>', '&', ']', '"', '\'', '\r']

def isHarmless (c : Char) : Bool := isAllowed c && c ∉ marks

theorem isAllowed_of_isHarmless {c : Char} (hc : isHarmless c = true) : isAllowed c = true := by
  rw [isHarmless, Bool.and_eq_true] at hc
  exact hc.1

/-- ASCII letters and digits, and the marks of paths. -/
def isPathCharacter (c : Char) : Bool :=
  c.isAlphanum || c == '/' || c == '.' || c == '-' || c == '_'

/-- The blanks that lay a document out. -/
def isLayout (c : Char) : Bool := c == ' ' || c == '\t' || c == '\n'

theorem isHarmless_of_isPathCharacter {c : Char} (hc : isPathCharacter c = true) :
    isHarmless c = true := by
  have hrange : 0x2D ≤ c.toNat ∧ c.toNat ≤ 0x7A := by
    simp only [isPathCharacter, Char.isAlphanum, Char.isAlpha, Char.isUpper, Char.isLower,
      Char.isDigit, Bool.or_eq_true, Bool.and_eq_true, decide_eq_true_eq, beq_iff_eq, ge_iff_le,
      UInt32.le_iff_toNat_le] at hc
    have hcode : c.toNat = c.val.toNat := rfl
    rcases hc with ((((⟨hlow, hhigh⟩ | ⟨hlow, hhigh⟩) | ⟨hlow, hhigh⟩) | rfl) | rfl | rfl) | rfl
    all_goals simp at *
    all_goals omega
  have hallowed : isAllowed c = true := by
    simp only [isAllowed, Bool.or_eq_true, Bool.and_eq_true, decide_eq_true_eq]
    omega
  have hnone : marks.all (fun mark => !isPathCharacter mark) = true := by decide
  have hmark : c ∉ marks := by
    intro hmem
    have hnot := List.all_eq_true.1 hnone c hmem
    simp [hc] at hnot
  simp [isHarmless, hallowed, hmark]

theorem isHarmless_of_isLayout {c : Char} (hc : isLayout c = true) : isHarmless c = true := by
  simp only [isLayout, Bool.or_eq_true, beq_iff_eq] at hc
  rcases hc with (rfl | rfl) | rfl <;> decide

/-- The character itself, if it may stand bare, and otherwise its number. -/
def spelledCharacter (bare : Char → Bool) (c : Char) : List Char :=
  if bare c then [c] else '&' :: '#' :: decimalDigits c.toNat ++ [';']

def spelled (bare : Char → Bool) (s : List Char) : List Char :=
  s.flatMap (spelledCharacter bare)

theorem spelled_of_bare {bare : Char → Bool} {s : List Char} (hs : ∀ c ∈ s, bare c = true) :
    spelled bare s = s := by
  induction s with
  | nil => rfl
  | cons c rest ih =>
      have hrest := ih fun other hmem => hs other (.tail c hmem)
      unfold spelled at hrest
      rw [spelled, List.flatMap_cons, hrest, spelledCharacter, if_pos (hs c (.head rest))]
      rfl

theorem spelled_ne_nil {bare : Char → Bool} {s : List Char} (hs : s ≠ []) :
    spelled bare s ≠ [] := by
  obtain ⟨c, rest, rfl⟩ := List.exists_cons_of_ne_nil hs
  have hfirst : spelledCharacter bare c ≠ [] := by
    unfold spelledCharacter
    split <;> simp
  rw [spelled, List.flatMap_cons]
  exact List.append_ne_nil_of_left_ne_nil hfirst _

def partOf (bare : Char → Bool) (c : Char) : Part :=
  if bare c then .plain c else .numbered c

section

variable {bare : Char → Bool} (hbare : ∀ c, bare c = true → isHarmless c = true)

include hbare

theorem partsFrom_spelledCharacter {c : Char} (hc : isAllowed c = true) (rest : List Char) :
    partsFrom none (spelledCharacter bare c ++ rest) =
      (partsFrom none rest).map (partOf bare c :: ·) := by
  unfold spelledCharacter partOf
  by_cases hplain : bare c = true
  · have hmark : c ≠ '&' := by
      rintro rfl
      exact absurd (hbare '&' hplain) (by decide)
    rw [if_pos hplain, if_pos hplain, List.singleton_append, partsFrom, if_neg hmark]
  · have hdigits : ';' ∉ '#' :: decimalDigits c.toNat := by
      intro hmem
      rcases List.mem_cons.1 hmem with heq | hdigit
      · exact absurd heq (by decide)
      · exact absurd (isDigit_of_mem_decimalDigits hdigit) (by decide)
    have hread := partsFrom_open hdigits [] rest
    rw [List.reverse_nil, List.nil_append, reference?_decimalDigits hc, Option.bind_some] at hread
    rw [if_neg hplain, if_neg hplain, ← hread]
    simp [partsFrom]

theorem parts?_spelled {s : List Char} (hs : ∀ c ∈ s, isAllowed c = true) :
    parts? (spelled bare s) = some (s.map (partOf bare)) := by
  unfold parts? spelled
  induction s with
  | nil => rfl
  | cons c rest ih =>
      have hrest := ih fun other hmem => hs other (List.mem_cons_of_mem c hmem)
      rw [List.flatMap_cons, partsFrom_spelledCharacter hbare (hs c List.mem_cons_self), hrest]
      rfl

theorem harmless_of_mem_spelled {s : List Char} {c : Char} (hc : c ∈ spelled bare s) :
    c = '&' ∨ isHarmless c = true := by
  obtain ⟨origin, -, hmem⟩ := List.mem_flatMap.1 hc
  unfold spelledCharacter at hmem
  split at hmem
  next hplain =>
    rw [List.mem_singleton.1 hmem]
    exact .inr (hbare origin hplain)
  next =>
    simp only [List.cons_append, List.mem_cons, List.mem_append, List.not_mem_nil,
      or_false] at hmem
    rcases hmem with rfl | rfl | hdigit | rfl
    · exact .inl rfl
    · exact .inr (by decide)
    · have hpath : isPathCharacter c = true := by
        simp [isPathCharacter, Char.isAlphanum, isDigit_of_mem_decimalDigits hdigit]
      exact .inr (isHarmless_of_isPathCharacter hpath)
    · exact .inr (by decide)

theorem not_mem_spelled {s : List Char} {mark : Char} (hmark : mark ∈ marks)
    (hother : mark ≠ '&') : mark ∉ spelled bare s := by
  intro hmem
  rcases harmless_of_mem_spelled hbare hmem with heq | hharmless
  · exact hother heq
  · simp [isHarmless, hmark] at hharmless

theorem isAllowed_of_mem_spelled {s : List Char} {c : Char} (hc : c ∈ spelled bare s) :
    isAllowed c = true := by
  rcases harmless_of_mem_spelled hbare hc with rfl | hharmless
  · decide
  · exact isAllowed_of_isHarmless hharmless

end

end Markup

end PolicyKeeper
