/-!
# Work that leaves notices

A piece of work ends in a value or a fault, and leaves notices on its way in
the order in which they arose.  What follows a fault leaves none.
-/

namespace PolicyKeeper

/-! ## Outcomes -/

@[simp] theorem ok_bind (value : α) (next : α → Except ε β) :
    ((.ok value : Except ε α) >>= next) = next value := rfl

@[simp] theorem error_bind (fault : ε) (next : α → Except ε β) :
    ((.error fault : Except ε α) >>= next) = .error fault := rfl

theorem bind_eq_ok {outcome : Except ε α} {next : α → Except ε β} {result : β} :
    (outcome >>= next) = .ok result ↔
      ∃ value, outcome = .ok value ∧ next value = .ok result := by
  cases outcome <;> simp [Bind.bind, Except.bind]

theorem bind_eq_error {outcome : Except ε α} {next : α → Except ε β} {fault : ε} :
    (outcome >>= next) = .error fault ↔
      outcome = .error fault ∨ ∃ value, outcome = .ok value ∧ next value = .error fault := by
  cases outcome <;> simp [Bind.bind, Except.bind]

/-- Two steps one after the other fail when one of them does, if the failure of
the second does not depend on what the first gives. -/
theorem bind_fails_iff {outcome : Except ε α} {next : α → Except ε β} {fails : Prop}
    (hnext : ∀ value, (∃ fault, next value = .error fault) ↔ fails) :
    (∃ fault, (outcome >>= next) = .error fault) ↔
      (∃ fault, outcome = .error fault) ∨ fails := by
  cases outcome with
  | error first => simp [Bind.bind, Except.bind]
  | ok value => simpa [Bind.bind, Except.bind] using hnext value

theorem bind_ok_fails_iff {outcome : Except ε α} {f : α → β} :
    (∃ fault, (outcome >>= fun value => .ok (f value)) = .error fault) ↔
      ∃ fault, outcome = .error fault := by
  cases outcome <;> simp [Bind.bind, Except.bind]

@[simp] theorem mapError_ok (f : ε → ε') (value : α) :
    (.ok value : Except ε α).mapError f = .ok value := rfl

@[simp] theorem mapError_error (f : ε → ε') (fault : ε) :
    (.error fault : Except ε α).mapError f = .error (f fault) := rfl

@[simp] theorem mapError_eq_ok {f : ε → ε'} {outcome : Except ε α} {value : α} :
    outcome.mapError f = .ok value ↔ outcome = .ok value := by
  cases outcome <;> simp

@[simp] theorem mapError_eq_error {f : ε → ε'} {outcome : Except ε α} {fault : ε'} :
    outcome.mapError f = .error fault ↔ ∃ cause, outcome = .error cause ∧ f cause = fault := by
  cases outcome <;> simp

theorem mapError_mapError (f : ε → ε') (g : ε' → ε'') (outcome : Except ε α) :
    (outcome.mapError f).mapError g = outcome.mapError fun fault => g (f fault) := by
  cases outcome <;> rfl

theorem mapError_bind (f : ε → ε') (outcome : Except ε α) (next : α → Except ε β) :
    (outcome >>= next).mapError f =
      (outcome.mapError f >>= fun value => (next value).mapError f) := by
  cases outcome <;> rfl

instance decidableOkAnd (outcome : Except ε α) (p : α → Prop) [DecidablePred p] :
    Decidable (∃ value, outcome = .ok value ∧ p value) :=
  match outcome with
  | .ok value => decidable_of_iff (p value) (by simp)
  | .error _ => isFalse (by simp)

/-! ## Work -/

structure Noted (ν ε α : Type) where
  notices : List ν
  outcome : Except ε α

namespace Noted

def pure (value : α) : Noted ν ε α := ⟨[], .ok value⟩

def fail (fault : ε) : Noted ν ε α := ⟨[], .error fault⟩

def note (notice : ν) : Noted ν ε Unit := ⟨[notice], .ok ()⟩

def ofExcept (outcome : Except ε α) : Noted ν ε α := ⟨[], outcome⟩

def bind (work : Noted ν ε α) (next : α → Noted ν ε β) : Noted ν ε β :=
  match work.outcome with
  | .error fault => ⟨work.notices, .error fault⟩
  | .ok value =>
      let rest := next value
      ⟨work.notices ++ rest.notices, rest.outcome⟩

instance : Monad (Noted ν ε) where
  pure := Noted.pure
  bind := Noted.bind

def mapFault (f : ε → ε') (work : Noted ν ε α) : Noted ν ε' α :=
  ⟨work.notices, work.outcome.mapError f⟩

def mapNotices (f : ν → ν') (work : Noted ν ε α) : Noted ν' ε α :=
  ⟨work.notices.map f, work.outcome⟩

@[simp] theorem bind_fail (fault : ε) (next : α → Noted ν ε β) :
    (fail fault : Noted ν ε α) >>= next = fail fault := rfl

@[simp] theorem pure_bind (value : α) (next : α → Noted ν ε β) :
    (Pure.pure value : Noted ν ε α) >>= next = next value := by
  show Noted.bind (Noted.pure value) next = next value
  simp [Noted.bind, Noted.pure]

theorem ofExcept_ok_bind (value : α) (next : α → Noted ν ε β) :
    ofExcept (.ok value) >>= next = next value :=
  pure_bind value next

theorem ofExcept_error_bind (fault : ε) (next : α → Noted ν ε β) :
    ofExcept (.error fault) >>= next = fail fault := rfl

theorem note_bind (notice : ν) (next : Unit → Noted ν ε β) :
    note notice >>= next = ⟨notice :: (next ()).notices, (next ()).outcome⟩ := rfl

theorem notices_bind_pure (work : Noted ν ε α) (f : α → β) :
    (work >>= fun value => Noted.pure (f value)).notices = work.notices := by
  show (Noted.bind work _).notices = _
  rcases work with ⟨notices, _ | value⟩
  · rfl
  · exact List.append_nil notices

@[simp] theorem bind_assoc (work : Noted ν ε α) (f : α → Noted ν ε β)
    (g : β → Noted ν ε γ) :
    work >>= f >>= g = work >>= fun value => f value >>= g := by
  show Noted.bind (Noted.bind work f) g = Noted.bind work fun value => Noted.bind (f value) g
  rcases work with ⟨notices, _ | value⟩
  · rfl
  · rcases h : f value with ⟨more, _ | value'⟩ <;>
      simp [Noted.bind, h, List.append_assoc]

/-! ## What work comes to -/

@[simp] theorem outcome_pure (value : α) :
    (Pure.pure value : Noted ν ε α).outcome = .ok value := rfl

@[simp] theorem outcome_fail (fault : ε) : (fail fault : Noted ν ε α).outcome = .error fault := rfl

@[simp] theorem outcome_note (notice : ν) : (note notice : Noted ν ε Unit).outcome = .ok () := rfl

@[simp] theorem outcome_ofExcept (outcome : Except ε α) :
    (ofExcept outcome : Noted ν ε α).outcome = outcome := rfl

@[simp] theorem outcome_mapFault (f : ε → ε') (work : Noted ν ε α) :
    (work.mapFault f).outcome = work.outcome.mapError f := rfl

@[simp] theorem outcome_mapNotices (f : ν → ν') (work : Noted ν ε α) :
    (work.mapNotices f).outcome = work.outcome := rfl

theorem outcome_bind (work : Noted ν ε α) (next : α → Noted ν ε β) :
    (work >>= next).outcome = work.outcome >>= fun value => (next value).outcome := by
  show (Noted.bind work next).outcome = _
  rcases work with ⟨notices, _ | value⟩ <;> rfl

theorem outcome_bind_eq_ok {work : Noted ν ε α} {next : α → Noted ν ε β} {result : β} :
    (work >>= next).outcome = .ok result ↔
      ∃ value, work.outcome = .ok value ∧ (next value).outcome = .ok result := by
  rw [outcome_bind, bind_eq_ok]

theorem outcome_bind_eq_error {work : Noted ν ε α} {next : α → Noted ν ε β} {fault : ε} :
    (work >>= next).outcome = .error fault ↔
      work.outcome = .error fault ∨
        ∃ value, work.outcome = .ok value ∧ (next value).outcome = .error fault := by
  rw [outcome_bind, bind_eq_error]

end Noted

end PolicyKeeper
