import PolicyKeeper.PolicyFile
import PolicyKeeper.Proofs.DocumentGrammar

/-!
# Reported violations

A policy has to meet some requirements, each of which comes with a complaint.
What is reported of a policy are the complaints of the requirements that it does
not meet, in order and nothing else.  Policies of which nothing is reported can
be read back as they were checked, and the report on several policies is made of
the reports on each.
-/

namespace PolicyKeeper

/-! ## Requirements -/

structure Requirement where
  met : Prop
  complaint : String

/-- The complaints of the requirements that are not met, in order. -/
inductive Complains : List Requirement → List String → Prop
  | nil : Complains [] []
  | met {r : Requirement} {rest : List Requirement} {said : List String}
      (hmet : r.met) (hrest : Complains rest said) : Complains (r :: rest) said
  | unmet {r : Requirement} {rest : List Requirement} {said : List String}
      (hunmet : ¬ r.met) (hrest : Complains rest said) :
      Complains (r :: rest) (r.complaint :: said)

theorem Complains.append {front back : List Requirement} {said more : List String}
    (hfront : Complains front said) (hback : Complains back more) :
    Complains (front ++ back) (said ++ more) := by
  induction hfront with
  | nil => exact hback
  | met hmet _ ih => exact .met hmet ih
  | unmet hunmet _ ih => exact .unmet hunmet ih

/-- Nothing is complained of when all requirements are met. -/
theorem Complains.eq_nil_iff {requirements : List Requirement} {said : List String}
    (hcomplains : Complains requirements said) :
    said = [] ↔ ∀ r ∈ requirements, r.met := by
  induction hcomplains with
  | nil => simp
  | met hmet _ ih => simp [hmet, ih]
  | unmet hunmet _ _ => simp [hunmet]

/-- The property has to be there, as a strict numeral in a range. -/
def Requirement.numeral (place property wanted : String) (least greatest : Int)
    (p : Properties) : Requirement where
  met := p.HasNumeral property least greatest
  complaint :=
    match p.text? property with
    | none => s!"{place}: missing {property}"
    | some text => s!"{place}: {property} must be {wanted}, got '{text}'"

def Requirement.replication (place : String) (p : Properties) : Requirement :=
  .numeral place "replication" "a positive integer" 1 (2 ^ 31 - 1) p

def Requirement.modTimePeriod (place : String) (p : Properties) : Requirement :=
  .numeral place "modTimePeriod" "an integer" (-(2 ^ 63)) (2 ^ 63 - 1) p

/-- A destination has to have a path; its replication is asked for under it. -/
def Destination.requirement (policy : String) (d : Destination) : Requirement :=
  if d.path = "" then { met := False, complaint := s!"policy {policy}: destPath has no path" }
  else .replication s!"policy {policy} destPath {d.path}" d.properties

/-- What is asked of a policy that has a source path. -/
def Policy.requirements (p : Policy) : List Requirement :=
  let place := s!"policy {p.sourcePath}"
  [.replication place p.properties, .modTimePeriod place p.properties,
    { met := p.destinations ≠ [], complaint := s!"{place}: no destPath configured" }] ++
      p.destinations.map (Destination.requirement p.sourcePath)

/-- Nothing is asked of a policy without a source path but to have one. -/
def Policy.Reports (p : Policy) (said : List String) : Prop :=
  if p.sourcePath = "" then said = ["policy has no srcPath"] else Complains p.requirements said

/-! ## Checks and complaints -/

theorem complains_numeralViolations {place : Place} {property wanted : String}
    {least greatest : Int} {refuse : Place → String → Violation} {p : Properties}
    (hshort : ¬ ∃ text, p.text? property = some text ∧ IsOverlong text)
    (hrefuse : ∀ text, (refuse place text).message =
      s!"{place.describe}: {property} must be {wanted}, got '{text}'") :
    ∃ found, numeralViolations place property least greatest refuse p = .ok found ∧
      Complains [.numeral place.describe property wanted least greatest p]
        (found.map Violation.message) := by
  cases hfound : numeralViolations place property least greatest refuse p with
  | error fault => exact absurd (numeralViolations_fails_iff.1 ⟨fault, hfound⟩) hshort
  | ok found =>
      refine ⟨found, rfl, ?_⟩
      by_cases hnumeral : p.HasNumeral property least greatest
      · have hnone : numeralViolations place property least greatest refuse p = .ok [] :=
          numeralViolations_eq_nil_iff.2 (Properties.hasNumeral_iff.1 hnumeral)
        obtain rfl := Except.ok.inj (hfound.symm.trans hnone)
        exact .met hnumeral .nil
      · have hcomplaint : found.map Violation.message =
            [(Requirement.numeral place.describe property wanted least greatest p).complaint] := by
          unfold numeralViolations at hfound
          unfold Requirement.numeral
          cases htext : p.text? property with
          | none =>
              simp only [htext, Except.ok.injEq] at hfound
              rw [← hfound]
              rfl
          | some text =>
              simp only [htext, bind_eq_ok] at hfound
              obtain ⟨number, hread, hend⟩ := hfound
              cases number with
              | some number =>
                  obtain ⟨digits, hspells⟩ := readStrictInteger_eq_some_iff.1 hread
                  exact absurd ⟨text, digits, number, htext, hspells⟩ hnumeral
              | none =>
                  rw [← Except.ok.inj hend, List.map_singleton, hrefuse]
        rw [hcomplaint]
        exact .unmet hnumeral .nil

theorem complains_replicationViolations (place : Place) {p : Properties}
    (hshort : ¬ ∃ text, p.text? replicationKey = some text ∧ IsOverlong text) :
    ∃ found, replicationViolations place p = .ok found ∧
      Complains [.replication place.describe p] (found.map Violation.message) := by
  apply complains_numeralViolations hshort
  intro text
  simp [← String.toList_inj, Violation.message, replicationKey, toString]

theorem complains_periodViolations (place : Place) {p : Properties}
    (hshort : ¬ ∃ text, p.text? modTimePeriodKey = some text ∧ IsOverlong text) :
    ∃ found, periodViolations place p = .ok found ∧
      Complains [.modTimePeriod place.describe p] (found.map Violation.message) := by
  apply complains_numeralViolations hshort
  intro text
  simp [← String.toList_inj, Violation.message, modTimePeriodKey, toString]

theorem complains_destination {policy : String} {d : Destination}
    (hshort : ¬ (d.path ≠ "" ∧
      ∃ text, d.properties.text? replicationKey = some text ∧ IsOverlong text)) :
    ∃ found, d.violations policy = .ok found ∧
      Complains [d.requirement policy] (found.map Violation.message) := by
  unfold Destination.violations Destination.requirement
  by_cases hpath : d.path = ""
  · rw [if_pos hpath, if_pos hpath]
    exact ⟨_, rfl, .unmet not_false .nil⟩
  · rw [if_neg hpath, if_neg hpath]
    exact complains_replicationViolations _ fun hoverlong => hshort ⟨hpath, hoverlong⟩

/-- What a gathering reports, when each of its checks reports on one requirement. -/
theorem complains_gather {check : α → Except ε (List Violation)} {asked : α → Requirement}
    {items : List α}
    (hchecks : ∀ item ∈ items, ∃ found, check item = .ok found ∧
      Complains [asked item] (found.map Violation.message)) :
    ∃ found, gather check items = .ok found ∧
      Complains (items.map asked) (found.map Violation.message) := by
  induction items with
  | nil => exact ⟨[], rfl, .nil⟩
  | cons item rest ih =>
      rw [List.forall_mem_cons] at hchecks
      obtain ⟨here, hhere, hfirst⟩ := hchecks.1
      obtain ⟨more, hmore, hrest⟩ := ih hchecks.2
      refine ⟨here ++ more, ?_, ?_⟩
      · rw [gather, hhere, hmore]
        rfl
      · rw [List.map_append]
        exact hfirst.append hrest

/-- A policy is reported on by the complaints of what it does not meet. -/
theorem Policy.reports_violations {p : Policy} (hshort : ¬ p.HasOverlongNumeral) :
    ∃ found, p.violations = .ok found ∧ p.Reports (found.map Violation.message) := by
  unfold Policy.violations Policy.Reports
  by_cases hname : p.sourcePath = ""
  · simp only [hname, if_true]
    exact ⟨_, rfl, rfl⟩
  · simp only [hname, if_false]
    obtain ⟨replication, hreplication, hfirst⟩ :=
      complains_replicationViolations (.policy p.sourcePath)
        fun hoverlong => hshort ⟨hname, .inl hoverlong⟩
    obtain ⟨period, hperiod, hsecond⟩ :=
      complains_periodViolations (.policy p.sourcePath)
        fun hoverlong => hshort ⟨hname, .inr (.inl hoverlong)⟩
    obtain ⟨destinations, hdestinations, hlast⟩ :
        ∃ found, gather (Destination.violations p.sourcePath) p.destinations = .ok found ∧
          Complains (p.destinations.map (Destination.requirement p.sourcePath))
            (found.map Violation.message) := by
      apply complains_gather
      intro d hmem
      exact complains_destination fun hoverlong => hshort ⟨hname, .inr (.inr ⟨d, hmem, hoverlong⟩)⟩
    have hthird : Complains
        [{ met := p.destinations ≠ [],
           complaint := s!"{Place.describe (.policy p.sourcePath)}: no destPath configured" }]
        ((if p.destinations.isEmpty then [.noDestination (.policy p.sourcePath)] else []).map
          Violation.message) := by
      cases hempty : p.destinations with
      | nil => exact .unmet (not_not_intro rfl) .nil
      | cons d rest => exact .met (List.cons_ne_nil d rest) .nil
    refine ⟨_, by rw [hreplication, hperiod, hdestinations]; rfl, ?_⟩
    simp only [List.map_append, List.append_assoc]
    exact hfirst.append (hsecond.append (hthird.append hlast))

theorem Destination.requirement_met_iff {policy : String} {d : Destination} :
    (d.requirement policy).met ↔
      d.path ≠ "" ∧ d.properties.HasNumeral "replication" 1 (2 ^ 31 - 1) := by
  unfold requirement
  by_cases hpath : d.path = ""
  · simp [hpath]
  · rw [if_neg hpath]
    exact ⟨fun hmet => ⟨hpath, hmet⟩, And.right⟩

theorem Policy.requirements_met_iff {p : Policy} :
    (∀ r ∈ p.requirements, r.met) ↔
      p.properties.HasNumeral "replication" 1 (2 ^ 31 - 1) ∧
        p.properties.HasNumeral "modTimePeriod" (-(2 ^ 63)) (2 ^ 63 - 1) ∧
        p.destinations ≠ [] ∧
        ∀ d ∈ p.destinations,
          d.path ≠ "" ∧ d.properties.HasNumeral "replication" 1 (2 ^ 31 - 1) := by
  simp only [requirements, List.forall_mem_append, List.forall_mem_cons, List.forall_mem_map,
    Destination.requirement_met_iff, List.not_mem_nil, false_imp_iff, implies_true, and_true,
    and_assoc]
  rfl

/-- Nothing is reported of a policy that has a source path and meets all that is
asked of it, and of no other. -/
theorem Policy.Reports.eq_nil_iff {p : Policy} {said : List String} (hreports : p.Reports said) :
    said = [] ↔ p.sourcePath ≠ "" ∧ ∀ r ∈ p.requirements, r.met := by
  unfold Reports at hreports
  by_cases hname : p.sourcePath = ""
  · rw [if_pos hname] at hreports
    simp [hreports, hname]
  · rw [if_neg hname] at hreports
    simp [hreports.eq_nil_iff, hname]

/-! ## Values of checked properties -/

/-- The value is the one that the strict reader gives for the property. -/
def Properties.ReadsAs (p : Properties) (property : String) (least greatest : Int)
    (value : Except PropertyFault Int) : Prop :=
  ∃ text number, p.text? property = some text ∧
    readStrictInteger text least greatest = .ok (some number) ∧ value = .ok number

theorem Properties.HasNumeral.readsAs {p : Properties} {property : String}
    {least greatest : Int} (hnumeral : p.HasNumeral property least greatest) :
    p.ReadsAs property least greatest (p.integer property) := by
  obtain ⟨number, hspells⟩ := Properties.hasNumeral_iff.1 hnumeral
  obtain ⟨text, htext, hstrict⟩ := hspells.strict
  exact ⟨text, number, htext, hstrict, hspells.read⟩

/-! ## Several policies -/

theorem gather_eq_ok_iff {check : α → Except ε (List β)} {items : List α} {all : List β} :
    gather check items = .ok all ↔
      ∃ each, List.Forall₂ (fun item found => check item = .ok found) items each ∧
        all = each.flatten := by
  induction items generalizing all with
  | nil => simp [gather, eq_comm]
  | cons item rest ih =>
      simp only [gather, bind_eq_ok, ih, Except.ok.injEq]
      constructor
      · rintro ⟨here, hhere, _, ⟨each, heach, rfl⟩, rfl⟩
        exact ⟨here :: each, .cons hhere heach, rfl⟩
      · rintro ⟨_, heach, rfl⟩
        cases heach with
        | cons hhere hrest => exact ⟨_, hhere, _, ⟨_, hrest, rfl⟩, rfl⟩

/-- What is said of several policies is what is said of each, one after the
other. -/
theorem PolicyDocument.validate_of_violations {policies : List Policy}
    {each : List (List Violation)}
    (heach : List.Forall₂ (fun p found => p.violations = .ok found) policies each) :
    (validate policies).outcome =
      if each.flatten = [] then .ok () else .error (.invalid each.flatten) := by
  have hall : violationsOf policies = .ok each.flatten := gather_eq_ok_iff.2 ⟨each, heach, rfl⟩
  unfold validate
  rw [hall]
  cases each.flatten with
  | nil => rfl
  | cons first rest => rfl

/-- If no numeral is overlong, nothing is said of a policy exactly when it has a
source path, its numerals and its destinations; then every value is read as it
was checked.  Otherwise each requirement that is not met is complained of once,
in order.  Several policies are accepted when nothing is said of any, and
refused with all that is said of them. -/
theorem violations_exact {policies : List Policy}
    (hshort : ∀ p ∈ policies, ¬ p.HasOverlongNumeral) :
    (∀ p ∈ policies, ∃ found, p.violations = .ok found ∧
      (found = [] ↔
        p.sourcePath ≠ "" ∧
          p.properties.HasNumeral "replication" 1 (2 ^ 31 - 1) ∧
          p.properties.HasNumeral "modTimePeriod" (-(2 ^ 63)) (2 ^ 63 - 1) ∧
          p.destinations ≠ [] ∧
          ∀ d ∈ p.destinations,
            d.path ≠ "" ∧ d.properties.HasNumeral "replication" 1 (2 ^ 31 - 1)) ∧
      (found = [] →
        p.properties.ReadsAs "replication" 1 (2 ^ 31 - 1) p.replication ∧
          p.properties.ReadsAs "modTimePeriod" (-(2 ^ 63)) (2 ^ 63 - 1) p.modTimePeriod ∧
          ∀ d ∈ p.destinations, d.properties.ReadsAs "replication" 1 (2 ^ 31 - 1) d.replication) ∧
      p.Reports (found.map Violation.message)) ∧
    ∃ each, List.Forall₂ (fun p found => p.violations = .ok found) policies each ∧
      let outcome := (PolicyDocument.validate policies).outcome
      (outcome = .ok () ↔ ∀ found ∈ each, found = []) ∧
      (outcome ≠ .ok () →
        outcome = .error (.invalid each.flatten) ∧
          (LoadFault.build (.invalid each.flatten)).message =
            "; ".intercalate (each.flatten.map Violation.message)) := by
  constructor
  · intro p hmem
    obtain ⟨found, hfound, hreports⟩ := Policy.reports_violations (hshort p hmem)
    have hnone := hreports.eq_nil_iff
    rw [List.map_eq_nil_iff, Policy.requirements_met_iff] at hnone
    refine ⟨found, hfound, hnone, ?_, hreports⟩
    intro hempty
    obtain ⟨-, hreplication, hperiod, -, hdestinations⟩ := hnone.1 hempty
    exact ⟨hreplication.readsAs, hperiod.readsAs, fun d hd => (hdestinations d hd).2.readsAs⟩
  · cases hall : violationsOf policies with
    | error fault =>
        obtain ⟨p, hmem, hoverlong⟩ := violationsOf_fails_iff.1 ⟨fault, hall⟩
        exact absurd hoverlong (hshort p hmem)
    | ok all =>
        obtain ⟨each, heach, -⟩ := gather_eq_ok_iff.1 hall
        refine ⟨each, heach, ?_⟩
        simp only [PolicyDocument.validate_of_violations heach, ← List.flatten_eq_nil_iff]
        by_cases hempty : each.flatten = []
        · simp [hempty]
        · simp only [hempty, if_false]
          exact ⟨by simp, fun _ => ⟨trivial, rfl⟩⟩

/-- Policies that break one requirement, several of them, or none. -/
def untidyPolicies : List Policy :=
  let asked := Properties.ofList [("replication", some "+٣"), ("modTimePeriod", some "-60")]
  let unread := Properties.ofList [("replication", some "0"), ("modTimePeriod", none)]
  [{ sourcePath := "", properties := unread, destinations := [] },
    { sourcePath := "/a", properties := unread
      destinations := [⟨"", .empty⟩, ⟨"d", asked⟩, ⟨"e", .empty⟩] },
    { sourcePath := "/b", properties := asked, destinations := [⟨"d", asked⟩] },
    { sourcePath := "/c", properties := asked, destinations := [] }]

theorem violations_exact_untidy :
    (∀ p ∈ untidyPolicies, ¬ p.HasOverlongNumeral) ∧
      ∃ violations,
        (PolicyDocument.validate untidyPolicies).outcome = .error (.invalid violations) ∧
        violations.map Violation.message =
          ["policy has no srcPath",
            "policy /a: replication must be a positive integer, got '0'",
            "policy /a: missing modTimePeriod",
            "policy /a: destPath has no path",
            "policy /a destPath e: missing replication",
            "policy /c: no destPath configured"] := by
  have hread : ∀ fault, violationsOf untidyPolicies ≠ .error fault := by
    intro fault hfault
    cases hfault
  have hshort : ∀ p ∈ untidyPolicies, ¬ p.HasOverlongNumeral := by
    intro p hmem hoverlong
    obtain ⟨fault, hfault⟩ := violationsOf_fails_iff.2 ⟨p, hmem, hoverlong⟩
    exact hread fault hfault
  obtain ⟨-, each, -, -, hrefused⟩ := violations_exact hshort
  have hunaccepted : (PolicyDocument.validate untidyPolicies).outcome ≠ .ok () := by
    intro haccepted
    cases haccepted
  obtain ⟨violations, hinvalid⟩ :
      ∃ violations,
        (PolicyDocument.validate untidyPolicies).outcome = .error (.invalid violations) :=
    ⟨each.flatten, (hrefused hunaccepted).1⟩
  refine ⟨hshort, violations, hinvalid, ?_⟩
  cases hinvalid
  decide

end PolicyKeeper
