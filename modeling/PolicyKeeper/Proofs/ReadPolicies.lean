import PolicyKeeper.PolicyDocument
import PolicyKeeper.Proofs.ValidPolicies

/-!
# What reading a document gives

A document that is accepted gives policies with distinct names, all of them
valid, so each is found by its name.  A document is refused for its structure,
for violations, or because a policy has an overlong numeral, and the last only
when its structure is in order.
-/

namespace PolicyKeeper

/-- Policies that can be published: each can be found by its name, and each is
valid. -/
structure PolicySet.Sound (s : PolicySet) : Prop where
  distinct : s.names.Nodup
  valid : ∀ p ∈ s.policies, p.Valid

theorem find?_of_nodup_names {policies : List Policy}
    (hdistinct : (policies.map (·.name)).Nodup) {p : Policy} (hmem : p ∈ policies) :
    policies.find? (·.name = p.name) = some p := by
  induction policies with
  | nil => simp at hmem
  | cons first rest ih =>
      rw [List.map_cons, List.nodup_cons] at hdistinct
      rcases List.mem_cons.1 hmem with rfl | hrest
      · simp
      · have hne : first.name ≠ p.name := by
          intro heq
          exact hdistinct.1 (heq ▸ List.mem_map_of_mem hrest)
        rw [List.find?_cons_of_neg (by simpa using hne)]
        exact ih hdistinct.2 hrest

theorem PolicySet.Sound.find? {s : PolicySet} (hsound : s.Sound) {p : Policy}
    (hmem : p ∈ s.policies) : s.find? p.name = some p :=
  find?_of_nodup_names hsound.distinct hmem

theorem PolicySet.sound_withGeneration {s : PolicySet} (hsound : s.Sound) (generation : Int) :
    (s.withGeneration generation).Sound :=
  ⟨hsound.distinct, hsound.valid⟩

namespace PolicyDocument

/-! ## Accepted documents -/

theorem nodup_names_of_policies {before read : List Policy} {children : List Element}
    (hread : (policies before children).outcome = .ok read)
    (hbefore : (before.map (·.name)).Nodup) : (read.map (·.name)).Nodup := by
  induction children generalizing before with
  | nil =>
      simp only [policies, Noted.outcome_pure, Except.ok.injEq] at hread
      exact hread ▸ hbefore
  | cons child rest ih =>
      unfold policies at hread
      simp only at hread
      split at hread
      next => exact ih hread hbefore
      next =>
        split at hread
        next =>
          obtain ⟨p, -, hrest⟩ := Noted.outcome_bind_eq_ok.1 hread
          split at hrest
          next => simp [refuse] at hrest
          next hnew =>
            apply ih hrest
            rw [List.map_append, List.nodup_append]
            refine ⟨hbefore, by simp, ?_⟩
            simpa using hnew
        next => simp [refuse] at hread

theorem validate_eq_ok_iff {read : List Policy} {done : Unit} :
    (validate read).outcome = .ok done ↔ ∀ p ∈ read, p.Valid := by
  rw [← violationsOf_eq_nil_iff]
  unfold validate
  split <;> simp_all

/-- A document is accepted when its structure is in order and all its policies
are valid; the set holds these policies. -/
theorem policySet_eq_ok_iff {source : String} {root : Element} {set : PolicySet} :
    (policySet source root).outcome = .ok set ↔
      localName root.tag = "configuration" ∧
        (policies [] root.children).outcome = .ok set.policies ∧
        (∀ p ∈ set.policies, p.Valid) ∧
        set = { PolicySet.empty source with policies := set.policies } := by
  unfold policySet
  split
  next hroot => simp [refuse, hroot]
  next hroot =>
    have hconfiguration : localName root.tag = "configuration" := by simpa using hroot
    simp only [Noted.outcome_bind_eq_ok, validate_eq_ok_iff, Noted.outcome_pure,
      Except.ok.injEq, hconfiguration, true_and]
    constructor
    · rintro ⟨read, hread, -, hvalid, rfl⟩
      exact ⟨hread, hvalid, rfl⟩
    · rintro ⟨hread, hvalid, hset⟩
      exact ⟨set.policies, hread, (), hvalid, hset.symm⟩

theorem sound_of_policySet {source : String} {root : Element} {set : PolicySet}
    (hset : (policySet source root).outcome = .ok set) : set.Sound := by
  obtain ⟨-, hread, hvalid, -⟩ := policySet_eq_ok_iff.1 hset
  exact ⟨nodup_names_of_policies hread List.nodup_nil, hvalid⟩

/-! ## Refused documents -/

/-- Work that fails for the structure of the document only. -/
def FailsByStructure (work : Build α) : Prop :=
  ∀ fault, work.outcome = .error fault → ∃ cause, fault = .structural cause

theorem failsByStructure_pure (value : α) : FailsByStructure (pure value) := by
  intro fault hfault
  simp at hfault

theorem failsByStructure_refuse (cause : StructureFault) :
    FailsByStructure (refuse cause : Build α) := by
  intro fault hfault
  simp only [refuse, Noted.outcome_fail, Except.error.injEq] at hfault
  exact ⟨cause, hfault.symm⟩

theorem FailsByStructure.bind {work : Build α} {next : α → Build β}
    (hwork : FailsByStructure work) (hnext : ∀ value, FailsByStructure (next value)) :
    FailsByStructure (work >>= next) := by
  intro fault hfault
  rcases Noted.outcome_bind_eq_error.1 hfault with hfirst | ⟨value, -, hlater⟩
  · exact hwork fault hfirst
  · exact hnext value fault hlater

theorem failsByStructure_addProperty (policy owner : String) (p : Properties) (e : Element) :
    FailsByStructure (addProperty policy owner p e) := by
  unfold addProperty
  apply FailsByStructure.bind
  · unfold property
    split
    · exact failsByStructure_pure _
    · exact failsByStructure_refuse _
  · intro ⟨name, value⟩
    apply FailsByStructure.bind
    · intro fault hfault
      simp at hfault
    · intro _
      exact failsByStructure_pure _

theorem failsByStructure_destinationProperties (policy path : String) (p : Properties)
    (children : List Element) :
    FailsByStructure (destinationProperties policy path p children) := by
  induction children generalizing p with
  | nil => exact failsByStructure_pure _
  | cons child rest ih =>
      unfold destinationProperties
      simp only
      split
      · exact ih p
      · split
        · exact FailsByStructure.bind (failsByStructure_addProperty _ _ _ _) fun more => ih more
        · exact failsByStructure_refuse _

theorem failsByStructure_destination (policy : String) (e : Element) :
    FailsByStructure (destination policy e) := by
  unfold destination
  split
  · exact failsByStructure_refuse _
  · exact FailsByStructure.bind (failsByStructure_destinationProperties _ _ _ _)
        fun _ => failsByStructure_pure _

theorem failsByStructure_policyChildren (name : String) (p : Properties)
    (destinations : List Destination) (children : List Element) :
    FailsByStructure (policyChildren name p destinations children) := by
  induction children generalizing p destinations with
  | nil => exact failsByStructure_pure _
  | cons child rest ih =>
      unfold policyChildren
      simp only
      split
      · exact ih p destinations
      · split
        · exact FailsByStructure.bind (failsByStructure_addProperty _ _ _ _)
              fun more => ih more destinations
        · split
          · exact FailsByStructure.bind (failsByStructure_destination _ _)
                fun d => ih p (destinations ++ [d])
          · exact failsByStructure_refuse _

theorem failsByStructure_policies (before : List Policy) (children : List Element) :
    FailsByStructure (policies before children) := by
  induction children generalizing before with
  | nil => exact failsByStructure_pure _
  | cons child rest ih =>
      unfold policies
      simp only
      split
      · exact ih before
      · split
        · apply FailsByStructure.bind
          · unfold policy
            split
            · exact failsByStructure_refuse _
            · exact FailsByStructure.bind (failsByStructure_policyChildren _ _ _ _)
                  fun _ => failsByStructure_pure _
          · intro p
            split
            · exact failsByStructure_refuse _
            · exact ih (before ++ [p])
        · exact failsByStructure_refuse _

theorem validate_numeral_iff {read : List Policy} :
    (∃ cause, (validate read).outcome = .error (.numeral cause)) ↔
      ∃ p ∈ read, p.HasOverlongNumeral := by
  rw [← violationsOf_fails_iff]
  unfold validate
  split <;> simp_all

/-- The numerals of a document are looked at when its structure is in order,
and then one overlong numeral is enough. -/
theorem policySet_numeral_iff {source : String} {root : Element} :
    (∃ cause, (policySet source root).outcome = .error (.numeral cause)) ↔
      localName root.tag = "configuration" ∧
        ∃ read, (policies [] root.children).outcome = .ok read ∧
          ∃ p ∈ read, p.HasOverlongNumeral := by
  unfold policySet
  split
  next hroot => simp [refuse, hroot]
  next hroot =>
    have hconfiguration : localName root.tag = "configuration" := by simpa using hroot
    simp only [Noted.outcome_bind_eq_error, Noted.outcome_pure, hconfiguration, true_and,
      ← validate_numeral_iff]
    constructor
    · rintro ⟨cause, hstructure | ⟨read, hread, hnumeral | ⟨_, -, hend⟩⟩⟩
      · obtain ⟨_, heq⟩ := failsByStructure_policies _ _ _ hstructure
        simp at heq
      · exact ⟨read, hread, cause, hnumeral⟩
      · simp at hend
    · rintro ⟨read, hread, cause, hnumeral⟩
      exact ⟨cause, .inr ⟨read, hread, .inl hnumeral⟩⟩

end PolicyDocument

end PolicyKeeper
