import PolicyKeeper.Proofs.CheckCourses

/-!
# Failed attempts

An attempt fails when the time of the file cannot be read, or when the file is
due and cannot be loaded, and the fault is one that is expected.  The keeper is
marked from then on; only publishing takes the mark away.
-/

namespace PolicyKeeper

variable {τ : Type}

namespace Keeper

theorem lastAttemptFailed_obeyAll (k : Keeper τ) (commands : List Command) :
    (k.obeyAll commands).1.lastAttemptFailed = k.lastAttemptFailed := by
  obtain ⟨_, _, heq⟩ := obeyAll_eq k commands
  rw [heq]

theorem lastAttemptFailed_between (commands : List Command) (now : τ) (k : Keeper τ) :
    (k.between commands now).lastAttemptFailed = k.lastAttemptFailed :=
  lastAttemptFailed_obeyAll (k.attempted now) commands

theorem lastAttemptFailed_settleFault (k : Keeper τ) (fault : CheckFault) :
    (k.settleFault fault).1.lastAttemptFailed = (fault.isExpected || k.lastAttemptFailed) := by
  unfold settleFault
  split
  next hexpected => simp [hexpected]
  next hunexpected => simp [hunexpected]

/-! ## Findings -/

variable [Add τ] [LE τ] [OfNat τ 5] {stack : CallStack} {meanwhile : List Command}
  {store : FileStore τ} {now : τ} {k : Keeper τ} {fault : CheckFault}

/-- What a check finds wrong: it cannot read the time of the file, or the file
is due and cannot be loaded. -/
def Meets (stack : CallStack) (store : FileStore τ) (now : τ) (k : Keeper τ) : CheckFault → Prop
  | .file fault => store.modified? k.path = .error fault
  | .load fault => k.FileIsDue store now ∧
      (PolicyFile.load stack store k.settings.includes k.path).outcome = .error fault

def FindsNothing (store : FileStore τ) (now : τ) (k : Keeper τ) : Prop :=
  (∃ time, store.modified? k.path = .ok time) ∧ ¬ k.FileIsDue store now

/-- The check is an attempt that fails. -/
def Fails (stack : CallStack) (store : FileStore τ) (now : τ) (k : Keeper τ) : Prop :=
  k.Opens now ∧ ∃ fault, k.Meets stack store now fault ∧ fault.isExpected = true

theorem not_meets_of_loads {set : PolicySet} (hdue : k.FileIsDue store now)
    (hload : (PolicyFile.load stack store k.settings.includes k.path).outcome = .ok set) :
    ¬ k.Meets stack store now fault := by
  intro hmeets
  cases fault with
  | file cause =>
      obtain ⟨modified, htime, -⟩ := hdue
      exact absurd (htime.symm.trans hmeets) (by simp)
  | load cause => exact absurd (hload.symm.trans hmeets.2) (by simp)

theorem FindsNothing.not_meets (hnothing : k.FindsNothing store now) :
    ¬ k.Meets stack store now fault := by
  intro hmeets
  cases fault with
  | file cause =>
      obtain ⟨⟨time, htime⟩, -⟩ := hnothing
      exact absurd (htime.symm.trans hmeets) (by simp)
  | load cause => exact hnothing.2 hmeets.1

theorem Meets.unique {other : CheckFault} (hfault : k.Meets stack store now fault)
    (hother : k.Meets stack store now other) : other = fault := by
  cases fault with
  | file cause =>
      cases other with
      | file cause' => exact congrArg _ (Except.error.inj (hother.symm.trans hfault))
      | load cause' =>
          obtain ⟨⟨modified, htime, -⟩, -⟩ := hother
          exact absurd (htime.symm.trans hfault) (by simp)
  | load cause =>
      cases other with
      | file cause' =>
          obtain ⟨⟨modified, htime, -⟩, -⟩ := hfault
          exact absurd (htime.symm.trans hother) (by simp)
      | load cause' => exact congrArg _ (Except.error.inj (hother.2.symm.trans hfault.2))

theorem marks_settleFault_iff {k' : Keeper τ} (hmark : k'.lastAttemptFailed = k.lastAttemptFailed)
    (hopen : k.Opens now) (hmeets : k.Meets stack store now fault) :
    (k'.settleFault fault).1.lastAttemptFailed = true ↔
      k.Fails stack store now ∨
        k.lastAttemptFailed = true ∧ (k'.settleFault fault).2.2 ≠ .ok true := by
  have hfails : k.Fails stack store now ↔ fault.isExpected = true := by
    constructor
    · intro h
      obtain ⟨-, found, hfound, hexpected⟩ := h
      rwa [hmeets.unique hfound] at hexpected
    · intro hexpected
      exact ⟨hopen, fault, hmeets, hexpected⟩
  rw [lastAttemptFailed_settleFault, hmark, hfails, Bool.or_eq_true]
  simp [settleFault_ne_published]

variable [DecidableLE τ]

/-- An attempt that the keeper was not stopped in publishes, meets a fault or
finds nothing. -/
theorem attempt_cases (hopen : k.Opens now) (hstop : Command.stop ∉ meanwhile) :
    (k.checkWith stack meanwhile store now).outcome = .ok true ∨
      (∃ fault, k.Meets stack store now fault) ∨ k.FindsNothing store now := by
  cases checkWith_course stack meanwhile store now k with
  | gated hclosed => exact absurd hopen hclosed
  | nothingNew _ hdue htime => exact .inr (.inr ⟨htime, hdue⟩)
  | @noTime fault _ htime => exact .inr (.inl ⟨.file fault, htime⟩)
  | @unloaded fault _ hdue hload => exact .inr (.inl ⟨.load fault, hdue, hload⟩)
  | stopped _ _ _ hstopped =>
      have hrunning : (k.between meanwhile now).running = true :=
        obeyAll_running hstop hopen.1
      simp [hrunning] at hstopped
  | published _ _ _ _ _ houtcome => exact .inl houtcome

/-! ## The mark after a check -/

/-- A keeper is marked after a check that failed, and stays so until one
publishes. -/
theorem lastAttemptFailed_checkWith_iff :
    (k.checkWith stack meanwhile store now).keeper.lastAttemptFailed = true ↔
      k.Fails stack store now ∨ k.lastAttemptFailed = true ∧
        (k.checkWith stack meanwhile store now).outcome ≠ .ok true := by
  have hbetween := lastAttemptFailed_between meanwhile now k
  cases checkWith_course stack meanwhile store now k with
  | gated hclosed hkeeper _ houtcome => simp [hkeeper, houtcome, Fails, hclosed]
  | nothingNew _ hdue htime hkeeper houtcome =>
      have hnothing : k.FindsNothing store now := ⟨htime, hdue⟩
      simp [hkeeper, houtcome, Fails, hnothing.not_meets, attempted]
  | @noTime fault hopen htime hkeeper houtcome =>
      have hmeets : k.Meets stack store now (.file fault) := htime
      rw [hkeeper, houtcome]
      exact marks_settleFault_iff rfl hopen hmeets
  | @unloaded fault hopen hdue hload hkeeper houtcome =>
      have hmeets : k.Meets stack store now (.load fault) := ⟨hdue, hload⟩
      rw [hkeeper, houtcome]
      exact marks_settleFault_iff hbetween hopen hmeets
  | stopped _ hdue hload _ hkeeper houtcome =>
      simp [hkeeper, houtcome, Fails, not_meets_of_loads hdue hload, hbetween]
  | published _ hdue hload _ hkeeper houtcome =>
      simp [hkeeper, houtcome, Fails, not_meets_of_loads hdue hload, publish]

theorem lastAttemptFailed_of_nothing (hopen : k.Opens now)
    (hnothing : k.FindsNothing store now) :
    (k.checkWith stack meanwhile store now).keeper.lastAttemptFailed = k.lastAttemptFailed := by
  cases checkWith_course stack meanwhile store now k with
  | gated hclosed => exact absurd hopen hclosed
  | nothingNew _ _ _ hkeeper => rw [hkeeper]; rfl
  | @noTime fault _ htime =>
      have hmeets : k.Meets stack store now (.file fault) := htime
      exact absurd hmeets hnothing.not_meets
  | unloaded _ hdue | stopped _ hdue | published _ hdue => exact absurd hdue hnothing.2

theorem lastAttemptFailed_afterLoad {midway : Keeper τ}
    (hmidway : (k.checkWith stack meanwhile store now).afterLoad = some midway) :
    midway.lastAttemptFailed = k.lastAttemptFailed := by
  cases checkWith_course stack meanwhile store now k with
  | gated _ _ _ _ hafterLoad => simp [hafterLoad] at hmidway
  | nothingNew _ _ _ _ _ hafterLoad => simp [hafterLoad] at hmidway
  | noTime _ _ _ _ hafterLoad => simp [hafterLoad] at hmidway
  | unloaded _ _ _ _ _ hafterLoad | stopped _ _ _ _ _ _ hafterLoad
  | published _ _ _ _ _ _ hafterLoad =>
      rw [hafterLoad] at hmidway
      obtain rfl := Option.some.inj hmidway
      exact lastAttemptFailed_between meanwhile now k

end Keeper

end PolicyKeeper
