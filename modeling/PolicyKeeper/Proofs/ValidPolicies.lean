import PolicyKeeper.Noted
import PolicyKeeper.PolicyValidity
import PolicyKeeper.Proofs.NumeralAgreement

/-!
# Valid policies

Checking policies comes to one of three things: no violation, some violations,
or a numeral of too many digits that is not even read.  Policies without
violations have every name, number and destination that is asked for, and the
numbers can be read back.
-/

namespace PolicyKeeper

/-! ## Checks on a list -/

theorem gather_eq_nil_iff {check : α → Except ε (List β)} {items : List α} :
    gather check items = .ok [] ↔ ∀ item ∈ items, check item = .ok [] := by
  induction items with
  | nil => simp [gather]
  | cons item rest ih =>
      simp only [gather, bind_eq_ok, Except.ok.injEq, List.append_eq_nil_iff,
        List.forall_mem_cons, ← ih]
      constructor
      · rintro ⟨here, hhere, more, hmore, rfl, rfl⟩
        exact ⟨hhere, hmore⟩
      · rintro ⟨hhere, hmore⟩
        exact ⟨[], hhere, [], hmore, rfl, rfl⟩

/-- A gathering fails when one of its checks does, whatever the others
find. -/
theorem gather_fails_iff {check : α → Except ε (List β)} {items : List α} :
    (∃ fault, gather check items = .error fault) ↔
      ∃ item ∈ items, ∃ fault, check item = .error fault := by
  induction items with
  | nil => simp [gather]
  | cons item rest ih =>
      rw [List.exists_mem_cons_iff, gather]
      apply bind_fails_iff
      intro here
      rw [← ih, bind_ok_fails_iff]

/-! ## Numeral properties -/

def IsOverlong (text : String) : Prop :=
  ∃ negative digits, strictDigits? text = some (negative, digits) ∧
    digitLimit < digits.length

theorem readStrictInteger_fails_iff {text : String} {least greatest : Int} :
    (∃ fault, readStrictInteger text least greatest = .error fault) ↔ IsOverlong text := by
  unfold readStrictInteger IsOverlong
  cases hstrict : strictDigits? text with
  | none => simp
  | some found =>
      obtain ⟨negative, digits⟩ := found
      by_cases hlong : digitLimit < digits.length
      · simp [hlong]
      · simp [hlong]

/-- A property that holds a strict numeral in a range, so that the integer can
be read back. -/
structure Properties.Spells (p : Properties) (property : String)
    (least greatest number : Int) : Prop where
  strict : ∃ text, p.text? property = some text ∧
    readStrictInteger text least greatest = .ok (some number)
  read : p.integer property = .ok number
  least_le : least ≤ number
  le_greatest : number ≤ greatest

theorem Properties.text?_eq_some {p : Properties} {name text : String} :
    p.text? name = some text ↔ p.value? name = some (some text) := by
  unfold Properties.text?
  cases p.value? name with
  | none => simp
  | some value => simp

theorem spells_of_readStrictInteger {p : Properties} {property text : String}
    {least greatest number : Int} (htext : p.text? property = some text)
    (hread : readStrictInteger text least greatest = .ok (some number)) :
    p.Spells property least greatest number := by
  obtain ⟨hlenient, hleast, hgreatest⟩ := readInteger_of_readStrictInteger hread
  have hvalue : p.integer property = .ok number := by
    unfold Properties.integer
    rw [Properties.text?_eq_some.1 htext]
    simp [hlenient]
  exact ⟨⟨text, htext, hread⟩, hvalue, hleast, hgreatest⟩

variable {place : Place} {property : String} {least greatest : Int}
  {refuse : Place → String → Violation} {p : Properties}

theorem numeralViolations_eq_nil_iff :
    numeralViolations place property least greatest refuse p = .ok [] ↔
      ∃ number, p.Spells property least greatest number := by
  unfold numeralViolations
  constructor
  · intro hnone
    cases htext : p.text? property with
    | none => simp [htext] at hnone
    | some text =>
        simp only [htext, bind_eq_ok] at hnone
        obtain ⟨found, hread, hend⟩ := hnone
        cases found with
        | none => simp at hend
        | some number => exact ⟨number, spells_of_readStrictInteger htext hread⟩
  · rintro ⟨number, hspells⟩
    obtain ⟨text, htext, hread⟩ := hspells.strict
    simp only [htext, hread]
    rfl

theorem numeralViolations_fails_iff :
    (∃ fault, numeralViolations place property least greatest refuse p = .error fault) ↔
      ∃ text, p.text? property = some text ∧ IsOverlong text := by
  unfold numeralViolations
  cases htext : p.text? property with
  | none => simp
  | some text =>
      rw [bind_fails_iff (fun found => ⟨fun hend => ?_, False.elim⟩), or_false,
        readStrictInteger_fails_iff]
      · simp
      · obtain ⟨fault, hend⟩ := hend
        cases found <;> simp at hend

/-! ## Policies -/

structure Destination.Valid (d : Destination) : Prop where
  path_ne : d.path ≠ ""
  replication : ∃ number, d.properties.Spells replicationKey 1 greatestReplication number

structure Policy.Valid (p : Policy) : Prop where
  name_ne : p.name ≠ ""
  replication : ∃ number, p.properties.Spells replicationKey 1 greatestReplication number
  period : ∃ number, p.properties.Spells modTimePeriodKey leastPeriod greatestPeriod number
  destinations_ne : p.destinations ≠ []
  destinations : ∀ d ∈ p.destinations, d.Valid

theorem Destination.violations_eq_nil_iff {policy : String} {d : Destination} :
    d.violations policy = .ok [] ↔ d.Valid := by
  unfold Destination.violations
  by_cases hpath : d.path = ""
  · simp only [hpath, if_true]
    constructor
    · intro hnone
      simp at hnone
    · intro hvalid
      exact absurd hpath hvalid.path_ne
  · simp only [hpath, if_false]
    unfold replicationViolations
    rw [numeralViolations_eq_nil_iff]
    exact ⟨fun hreplication => ⟨hpath, hreplication⟩, fun hvalid => hvalid.replication⟩

theorem Policy.violations_eq_nil_iff {p : Policy} : p.violations = .ok [] ↔ p.Valid := by
  unfold Policy.violations
  by_cases hname : p.sourcePath = ""
  · simp only [hname, if_true]
    constructor
    · intro hnone
      simp at hnone
    · intro hvalid
      exact absurd hname hvalid.name_ne
  · simp only [hname, if_false, bind_eq_ok, Except.ok.injEq, List.append_eq_nil_iff]
    constructor
    · rintro ⟨_, hreplication, _, hperiod, _, hdestinations, ⟨⟨rfl, rfl⟩, hsome⟩, rfl⟩
      refine ⟨hname, numeralViolations_eq_nil_iff.1 hreplication,
        numeralViolations_eq_nil_iff.1 hperiod, ?_, ?_⟩
      · intro hnil
        simp [hnil] at hsome
      · intro d hmem
        exact Destination.violations_eq_nil_iff.1 (gather_eq_nil_iff.1 hdestinations d hmem)
    · intro hvalid
      have hdestinations :
          gather (Destination.violations p.sourcePath) p.destinations = .ok [] := by
        apply gather_eq_nil_iff.2
        intro d hmem
        exact Destination.violations_eq_nil_iff.2 (hvalid.destinations d hmem)
      refine ⟨[], numeralViolations_eq_nil_iff.2 hvalid.replication, [],
        numeralViolations_eq_nil_iff.2 hvalid.period, [], hdestinations, ?_⟩
      simp [hvalid.destinations_ne]

theorem violationsOf_eq_nil_iff {policies : List Policy} :
    violationsOf policies = .ok [] ↔ ∀ p ∈ policies, p.Valid := by
  unfold violationsOf
  rw [gather_eq_nil_iff]
  simp only [Policy.violations_eq_nil_iff]

/-! ## Overlong numerals -/

/-- A property that is looked at holds an overlong numeral. -/
def Policy.HasOverlongNumeral (p : Policy) : Prop :=
  p.sourcePath ≠ "" ∧
    ((∃ text, p.properties.text? replicationKey = some text ∧ IsOverlong text) ∨
      (∃ text, p.properties.text? modTimePeriodKey = some text ∧ IsOverlong text) ∨
      ∃ d ∈ p.destinations, d.path ≠ "" ∧
        ∃ text, d.properties.text? replicationKey = some text ∧ IsOverlong text)

theorem Destination.violations_fails_iff {policy : String} {d : Destination} :
    (∃ fault, d.violations policy = .error fault) ↔
      d.path ≠ "" ∧
        ∃ text, d.properties.text? replicationKey = some text ∧ IsOverlong text := by
  unfold Destination.violations
  by_cases hpath : d.path = ""
  · simp [hpath]
  · simp only [hpath, if_false, ne_eq, not_false_eq_true, true_and]
    exact numeralViolations_fails_iff

theorem Policy.violations_fails_iff {p : Policy} :
    (∃ fault, p.violations = .error fault) ↔ p.HasOverlongNumeral := by
  unfold Policy.violations Policy.HasOverlongNumeral
  by_cases hname : p.sourcePath = ""
  · simp [hname]
  · simp only [hname, if_false, ne_eq, not_false_eq_true, true_and]
    refine (bind_fails_iff fun replication => ?_).trans
      (or_congr numeralViolations_fails_iff Iff.rfl)
    refine (bind_fails_iff fun period => ?_).trans
      (or_congr numeralViolations_fails_iff Iff.rfl)
    rw [bind_ok_fails_iff, gather_fails_iff]
    simp only [Destination.violations_fails_iff]

theorem violationsOf_fails_iff {policies : List Policy} :
    (∃ fault, violationsOf policies = .error fault) ↔
      ∃ p ∈ policies, p.HasOverlongNumeral := by
  unfold violationsOf
  rw [gather_fails_iff]
  simp only [Policy.violations_fails_iff]

end PolicyKeeper
