import PolicyKeeper.FileStore
import PolicyKeeper.Noted

/-!
# Paths that lead nowhere

A path without a null character leads nowhere because something on its way is
missing, is no directory, or has too long a name.  That something is a directory
is found only when it is read.
-/

namespace PolicyKeeper

variable {τ : Type}

namespace FileStore

variable {store : FileStore τ} {path : String} {fault : FileFault}

def wrongWays (path : String) : List FileFault :=
  [.missing path, .notDirectory path, .nameTooLong path]

theorem step_eq_error {component : String} {here : Standing τ}
    (hfault : store.step path component here = .error fault) : fault ∈ wrongWays path := by
  unfold step at hfault
  simp only at hfault
  repeat' split at hfault
  all_goals cases hfault
  all_goals simp [wrongWays]

theorem walk_eq_error {here : Standing τ} {components : List String}
    (hfault : store.walk path here components = .error fault) : fault ∈ wrongWays path := by
  induction components generalizing here with
  | nil => cases hfault
  | cons component rest ih =>
      rcases bind_eq_error.1 hfault with hstep | ⟨next, -, hrest⟩
      · exact step_eq_error hstep
      · exact ih hrest

theorem entry_eq_error (hfault : store.entry path = .error fault) :
    (fault = .nullCharacter ∧ path.toList.contains '\x00' = true) ∨ fault ∈ wrongWays path := by
  unfold entry at hfault
  split at hfault
  next hnull => exact .inl ⟨(Except.error.inj hfault).symm, hnull⟩
  next =>
    right
    split at hfault
    next =>
      obtain rfl := Except.error.inj hfault
      simp [wrongWays]
    next =>
      split at hfault
      next =>
        obtain rfl := Except.error.inj hfault
        simp [wrongWays]
      next =>
        rcases bind_eq_error.1 hfault with hwalk | ⟨reached, -, hend⟩
        · exact walk_eq_error hwalk
        · cases hend

theorem modified?_ne_nullCharacter (hpath : path.toList.contains '\x00' = false) :
    store.modified? path ≠ .error .nullCharacter := by
  intro hfault
  rcases bind_eq_error.1 hfault with hentry | ⟨found, -, hend⟩
  · rcases entry_eq_error hentry with ⟨-, hnull⟩ | hwrong
    · rw [hpath] at hnull
      cases hnull
    · simp [wrongWays] at hwrong
  · cases found <;> cases hend

theorem path_of_read {octets : Octets} (hread : store.read path = .ok octets) :
    path.toList.contains '\x00' = false := by
  obtain ⟨found, hentry, -⟩ := bind_eq_ok.1 hread
  unfold FileStore.entry at hentry
  split at hentry
  next => simp at hentry
  next hnull => simpa using hnull

/-- Something is at a path when it is read, or when it is a directory. -/
theorem contains_iff_read :
    store.contains path = true ↔
      (∃ octets, store.read path = .ok octets) ∨ store.read path = .error (.isDirectory path) := by
  unfold contains read
  cases hentry : store.entry path with
  | error fault =>
      have hother : fault ≠ .isDirectory path := by
        rintro rfl
        rcases entry_eq_error hentry with ⟨hnull, -⟩ | hwrong
        · cases hnull
        · simp [wrongWays] at hwrong
      simpa using hother
  | ok found => cases found <;> simp

theorem contains_congr {store' : FileStore τ} (hread : store'.read path = store.read path) :
    store'.contains path = store.contains path := by
  rw [Bool.eq_iff_iff, contains_iff_read, contains_iff_read, hread]

end FileStore

end PolicyKeeper
