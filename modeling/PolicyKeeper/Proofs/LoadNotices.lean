import PolicyKeeper.LoadRecords
import PolicyKeeper.PolicyDocument

/-!
# What a load puts on record

A load puts on record what it reads, the properties that it finds, and the
directives that it passes over, each at a level of its own.  Building a policy
set finds properties and does nothing else that is put on record.
-/

namespace PolicyKeeper

/-! ## Records -/

def recordsAt (level : LogLevel) (notices : List LoadNotice) : List LogRecord :=
  (notices.map LoadNotice.record).filter (·.level = level)

theorem recordsAt_append (level : LogLevel) (front back : List LoadNotice) :
    recordsAt level (front ++ back) = recordsAt level front ++ recordsAt level back := by
  simp [recordsAt]

theorem recordsAt_of_forall {level : LogLevel} {notices : List LoadNotice}
    (h : ∀ notice ∈ notices, notice.record.level = level) :
    recordsAt level notices = notices.map LoadNotice.record := by
  apply List.filter_eq_self.2
  simpa using h

theorem recordsAt_eq_nil {level other : LogLevel} (hother : other ≠ level)
    {notices : List LoadNotice} (h : ∀ notice ∈ notices, notice.record.level = other) :
    recordsAt level notices = [] := by
  apply List.filter_eq_nil_iff.2
  intro record hmem
  obtain ⟨notice, hnotice, rfl⟩ := List.mem_map.1 hmem
  simpa [h notice hnotice] using hother

theorem Noted.forall_notices_bind {ν ε α β : Type} {p : ν → Prop} {work : Noted ν ε α}
    {next : α → Noted ν ε β} (hwork : ∀ notice ∈ work.notices, p notice)
    (hnext : ∀ value, ∀ notice ∈ (next value).notices, p notice) :
    ∀ notice ∈ (work >>= next).notices, p notice := by
  intro notice hmem
  change notice ∈ (Noted.bind work next).notices at hmem
  obtain ⟨notices, _ | value⟩ := work
  · exact hwork notice hmem
  · rcases List.mem_append.1 hmem with hfirst | hsecond
    · exact hwork notice hfirst
    · exact hnext value notice hsecond

namespace PolicyDocument

/-! ## Notices of building -/

/-- All that the work notices is for whoever looks into the details. -/
def IsDetailed (work : Build α) : Prop := ∀ notice ∈ work.notices, notice.record.level = .debug

theorem isDetailed_pure (value : α) : IsDetailed (pure value) := by
  intro notice hmem
  cases hmem

theorem isDetailed_refuse (fault : StructureFault) : IsDetailed (refuse fault : Build α) := by
  intro notice hmem
  cases hmem

theorem IsDetailed.bind {work : Build α} {next : α → Build β} (hwork : IsDetailed work)
    (hnext : ∀ value, IsDetailed (next value)) : IsDetailed (work >>= next) :=
  Noted.forall_notices_bind hwork hnext

theorem isDetailed_property (owner : String) (e : Element) : IsDetailed (property owner e) := by
  unfold property
  split
  next => exact isDetailed_pure _
  next => exact isDetailed_refuse _

theorem isDetailed_addProperty (policy owner : String) (p : Properties) (e : Element) :
    IsDetailed (addProperty policy owner p e) := by
  apply (isDetailed_property owner e).bind
  intro (name, value)
  have htold : IsDetailed (Noted.note (.property policy name value)) := by
    intro notice hmem
    obtain rfl := List.mem_singleton.1 hmem
    rfl
  exact htold.bind fun _ => isDetailed_pure _

theorem isDetailed_destinationProperties (policy path : String) (p : Properties)
    (children : List Element) : IsDetailed (destinationProperties policy path p children) := by
  induction children generalizing p with
  | nil => exact isDetailed_pure _
  | cons child rest ih =>
      unfold destinationProperties
      simp only
      split
      next => exact ih p
      next =>
        split
        next => exact (isDetailed_addProperty _ _ _ _).bind ih
        next => exact isDetailed_refuse _

theorem isDetailed_destination (policy : String) (e : Element) :
    IsDetailed (destination policy e) := by
  unfold destination
  split
  next => exact isDetailed_refuse _
  next path _ =>
    exact (isDetailed_destinationProperties policy path _ _).bind fun _ => isDetailed_pure _

theorem isDetailed_policyChildren (name : String) (p : Properties)
    (destinations : List Destination) (children : List Element) :
    IsDetailed (policyChildren name p destinations children) := by
  induction children generalizing p destinations with
  | nil => exact isDetailed_pure _
  | cons child rest ih =>
      unfold policyChildren
      simp only
      split
      next => exact ih p destinations
      next =>
        split
        next => exact (isDetailed_addProperty _ _ _ _).bind fun p => ih p destinations
        next =>
          split
          next =>
            exact (isDetailed_destination name child).bind fun d => ih p (destinations ++ [d])
          next => exact isDetailed_refuse _

theorem isDetailed_policy (e : Element) : IsDetailed (policy e) := by
  unfold policy
  split
  next => exact isDetailed_refuse _
  next name _ =>
    exact (isDetailed_policyChildren name _ _ _).bind fun (_, _) => isDetailed_pure _

theorem isDetailed_policies (before : List Policy) (children : List Element) :
    IsDetailed (policies before children) := by
  induction children generalizing before with
  | nil => exact isDetailed_pure _
  | cons child rest ih =>
      unfold policies
      simp only
      split
      next => exact ih before
      next =>
        split
        next =>
          apply (isDetailed_policy child).bind
          intro p
          split
          next => exact isDetailed_refuse _
          next => exact ih _
        next => exact isDetailed_refuse _

theorem isDetailed_validate (policies : List Policy) : IsDetailed (validate policies) := by
  unfold validate
  intro notice hmem
  split at hmem <;> cases hmem

/-- Building a policy set notices properties and nothing else. -/
theorem isDetailed_policySet (source : String) (root : Element) :
    IsDetailed (policySet source root) := by
  unfold policySet
  split
  next => exact isDetailed_refuse _
  next =>
    apply (isDetailed_policies _ _).bind
    intro read
    exact (isDetailed_validate read).bind fun _ => isDetailed_pure _

end PolicyDocument

end PolicyKeeper
