import PolicyKeeper.Check

/-!
# Courses of a check

A check is refused by the gate, or records the attempt and then finds nothing
new, meets a fault, or has a set loaded, which is published unless the keeper
was stopped meanwhile.  Only publishing changes what is shown; the gate, the
commands and the faults leave it alone.
-/

namespace PolicyKeeper

variable {τ : Type}

/-- The keepers show the same, whatever they are doing: the published set and
its generation, when it was loaded, and from which file. -/
structure Keeper.ShowsSame (k k' : Keeper τ) : Prop where
  path : k'.path = k.path
  settings : k'.settings = k.settings
  published : k'.published = k.published
  generation : k'.generation = k.generation
  lastSuccess : k'.lastSuccess = k.lastSuccess

namespace Keeper

theorem ShowsSame.refl (k : Keeper τ) : k.ShowsSame k := ⟨rfl, rfl, rfl, rfl, rfl⟩

theorem ShowsSame.trans {k k' k'' : Keeper τ} (h : k.ShowsSame k') (h' : k'.ShowsSame k'') :
    k.ShowsSame k'' :=
  ⟨h'.path.trans h.path, h'.settings.trans h.settings, h'.published.trans h.published,
    h'.generation.trans h.generation, h'.lastSuccess.trans h.lastSuccess⟩

/-! ## Commands -/

theorem obey_eq (k : Keeper τ) (command : Command) :
    ∃ running reloading, (k.obey command).1 = { k with running, reloading } := by
  cases command with
  | stop => exact ⟨_, _, rfl⟩
  | start =>
      unfold obey start
      simp only
      split
      · exact ⟨_, _, rfl⟩
      · split
        · exact ⟨_, _, rfl⟩
        · exact ⟨_, _, rfl⟩

theorem obeyAll_eq (k : Keeper τ) (commands : List Command) :
    ∃ running reloading, (k.obeyAll commands).1 = { k with running, reloading } := by
  induction commands generalizing k with
  | nil => exact ⟨k.running, k.reloading, rfl⟩
  | cons command rest ih =>
      obtain ⟨_, _, hfirst⟩ := obey_eq k command
      obtain ⟨running, reloading, hrest⟩ := ih (k.obey command).1
      refine ⟨running, reloading, ?_⟩
      show ((k.obey command).1.obeyAll rest).1 = _
      rw [hrest, hfirst]

theorem obeyAll_showsSame (k : Keeper τ) (commands : List Command) :
    k.ShowsSame (k.obeyAll commands).1 := by
  obtain ⟨running, reloading, heq⟩ := obeyAll_eq k commands
  rw [heq]
  exact ⟨rfl, rfl, rfl, rfl, rfl⟩

theorem obeyAll_running {k : Keeper τ} {commands : List Command}
    (hstop : Command.stop ∉ commands) (hrunning : k.running = true) :
    (k.obeyAll commands).1.running = true := by
  induction commands generalizing k with
  | nil => exact hrunning
  | cons command rest ih =>
      rw [List.mem_cons, not_or] at hstop
      show ((k.obey command).1.obeyAll rest).1.running = true
      apply ih hstop.2
      cases command with
      | stop => exact absurd rfl hstop.1
      | start =>
          unfold obey start
          simp only
          split
          · rfl
          · split <;> rfl

/-! ## The keeper within a check -/

def attempted (now : τ) (k : Keeper τ) : Keeper τ := { k with lastAttempt := now }

def between (meanwhile : List Command) (now : τ) (k : Keeper τ) : Keeper τ :=
  ((k.attempted now).obeyAll meanwhile).1

theorem attempted_showsSame (now : τ) (k : Keeper τ) : k.ShowsSame (k.attempted now) :=
  ⟨rfl, rfl, rfl, rfl, rfl⟩

theorem between_showsSame (meanwhile : List Command) (now : τ) (k : Keeper τ) :
    k.ShowsSame (k.between meanwhile now) :=
  (attempted_showsSame now k).trans (obeyAll_showsSame _ meanwhile)

/-! ## Faults -/

theorem settleFault_of_unexpected {k : Keeper τ} {fault : CheckFault}
    (hunexpected : fault.isExpected = false) :
    k.settleFault fault = (k, [], .error fault) := by
  unfold settleFault
  rw [if_neg (by simp [hunexpected])]

theorem settleFault_eq_error {k : Keeper τ} {fault found : CheckFault}
    (hfault : (k.settleFault fault).2.2 = .error found) :
    (k.settleFault fault).1 = k ∧ found = fault ∧ fault.isExpected = false := by
  unfold settleFault at hfault ⊢
  split at hfault
  next => simp at hfault
  next hunexpected =>
    rw [if_neg hunexpected]
    exact ⟨rfl, (Except.error.inj hfault).symm, by simpa using hunexpected⟩

theorem settleFault_showsSame (k : Keeper τ) (fault : CheckFault) :
    k.ShowsSame (k.settleFault fault).1 := by
  unfold settleFault
  split
  · exact ⟨rfl, rfl, rfl, rfl, rfl⟩
  · exact .refl k

theorem settleFault_running (k : Keeper τ) (fault : CheckFault) :
    (k.settleFault fault).1.running = k.running := by
  unfold settleFault
  split <;> rfl

theorem settleFault_lastAttemptFailed {k : Keeper τ} (fault : CheckFault)
    (hfailed : k.lastAttemptFailed = true) :
    (k.settleFault fault).1.lastAttemptFailed = true := by
  unfold settleFault
  split
  · rfl
  · exact hfailed

theorem settleFault_ne_published (k : Keeper τ) (fault : CheckFault) :
    (k.settleFault fault).2.2 ≠ .ok true := by
  unfold settleFault
  split <;> simp

variable [Add τ] [LE τ] [DecidableLE τ]

/-! ## The gate -/

theorem gate?_eq_some_iff {k attempting : Keeper τ} {now : τ} :
    k.gate? now = some attempting ↔
      k.running = true ∧ ¬ now ≤ k.lastAttempt + k.settings.reloadInterval ∧
        attempting = { k with lastAttempt := now } := by
  unfold gate?
  by_cases hrunning : k.running = true
  · by_cases hinterval : now ≤ k.lastAttempt + k.settings.reloadInterval
    · simp [hrunning, hinterval]
    · simp [hrunning, hinterval, eq_comm]
  · simp [hrunning]

theorem gate?_eq_none_iff {k : Keeper τ} {now : τ} :
    k.gate? now = none ↔
      ¬ (k.running = true ∧ ¬ now ≤ k.lastAttempt + k.settings.reloadInterval) := by
  unfold gate?
  by_cases hrunning : k.running = true
  · by_cases hinterval : now ≤ k.lastAttempt + k.settings.reloadInterval
    · simp [hrunning, hinterval]
    · simp [hrunning, hinterval]
  · simp [hrunning]

variable [OfNat τ 5]

/-! ## The examination -/

variable {stack : CallStack}

/-- A file that is new to the keeper and has been left alone long enough. -/
def FileIsDue (store : FileStore τ) (now : τ) (k : Keeper τ) : Prop :=
  ∃ modified, store.modified? k.path = .ok (some modified) ∧
    ¬ modified ≤ k.lastSuccess ∧ ¬ now ≤ modified + settleWindow

theorem wants_iff {k : Keeper τ} {now modified : τ} :
    k.wants now modified = true ↔
      ¬ modified ≤ k.lastSuccess ∧ ¬ now ≤ modified + settleWindow := by
  simp [wants]

theorem examine_of_due {k : Keeper τ} {store : FileStore τ} {now : τ}
    (hdue : k.FileIsDue store now) :
    k.examine stack store now =
      (.loaded (PolicyFile.load stack store k.settings.includes k.path).outcome,
        (PolicyFile.load stack store k.settings.includes k.path).notices.map .load) := by
  obtain ⟨modified, htime, hwanted⟩ := hdue
  unfold examine
  rw [htime]
  simp only
  rw [if_pos (wants_iff.2 hwanted)]

theorem examine_of_not_due (stack : CallStack) {k : Keeper τ} {store : FileStore τ} {now : τ}
    (hdue : ¬ k.FileIsDue store now) :
    k.examine stack store now = (.nothingNew, []) ∧ (∃ time, store.modified? k.path = .ok time) ∨
      ∃ fault, k.examine stack store now = (.noTime fault, []) ∧
        store.modified? k.path = .error fault := by
  unfold examine
  cases htime : store.modified? k.path with
  | error fault => exact .inr ⟨fault, rfl, rfl⟩
  | ok time =>
      cases time with
      | none => exact .inl ⟨rfl, none, rfl⟩
      | some modified =>
          have hunwanted : ¬ k.wants now modified = true := by
            intro hwanted
            exact hdue ⟨modified, htime, wants_iff.1 hwanted⟩
          simp only
          rw [if_neg hunwanted]
          exact .inl ⟨rfl, some modified, rfl⟩

theorem examine_congr {stack' : CallStack} {k : Keeper τ} {store : FileStore τ} {now : τ}
    (hload : k.FileIsDue store now →
      PolicyFile.load stack' store k.settings.includes k.path =
        PolicyFile.load stack store k.settings.includes k.path) :
    k.examine stack' store now = k.examine stack store now := by
  unfold examine
  cases htime : store.modified? k.path with
  | error fault => rfl
  | ok time =>
      cases time with
      | none => rfl
      | some modified =>
          simp only
          split
          next hwanted => rw [hload ⟨modified, htime, wants_iff.1 hwanted⟩]
          next => rfl

/-! ## The whole check -/

variable {meanwhile : List Command} {store : FileStore τ} {now : τ} {k attempting : Keeper τ}

theorem checkWith_of_gated (hgate : k.gate? now = none) :
    k.checkWith stack meanwhile store now =
      { keeper := k, loading := [], told := [], closing := [], outcome := .ok false
        afterLoad := none } := by
  unfold checkWith
  rw [hgate]

theorem checkWith_of_nothingNew (hgate : k.gate? now = some attempting)
    (hexamine : attempting.examine stack store now = (.nothingNew, [])) :
    k.checkWith stack meanwhile store now =
      { keeper := attempting, loading := [], told := [], closing := [], outcome := .ok false
        afterLoad := none } := by
  unfold checkWith
  rw [hgate]
  simp only [hexamine]
  rfl

theorem checkWith_of_noTime {fault : FileFault} (hgate : k.gate? now = some attempting)
    (hexamine : attempting.examine stack store now = (.noTime fault, [])) :
    k.checkWith stack meanwhile store now =
      { keeper := (attempting.settleFault (.file fault)).1, loading := [], told := []
        closing := (attempting.settleFault (.file fault)).2.1
        outcome := (attempting.settleFault (.file fault)).2.2, afterLoad := none } := by
  unfold checkWith
  rw [hgate]
  simp only [hexamine]
  rfl

theorem checkWith_of_due (hgate : k.gate? now = some attempting)
    (hdue : attempting.FileIsDue store now) :
    let work := PolicyFile.load stack store k.settings.includes k.path
    let between := attempting.obeyAll meanwhile
    k.checkWith stack meanwhile store now =
      { keeper := (between.1.settle now (.loaded work.outcome)).1
        loading := work.notices.map .load, told := between.2
        closing := (between.1.settle now (.loaded work.outcome)).2.1
        outcome := (between.1.settle now (.loaded work.outcome)).2.2
        afterLoad := some between.1 } := by
  obtain ⟨-, -, rfl⟩ := gate?_eq_some_iff.1 hgate
  unfold checkWith
  rw [hgate]
  simp only [examine_of_due hdue]

theorem checkWith_of_load_fails (meanwhile : List Command) {fault : LoadFault}
    (hgate : k.gate? now = some attempting) (hdue : attempting.FileIsDue store now)
    (hload : (PolicyFile.load stack store k.settings.includes k.path).outcome = .error fault) :
    let c := k.checkWith stack meanwhile store now
    let settled := (attempting.obeyAll meanwhile).1.settleFault (.load fault)
    c.keeper = settled.1 ∧ c.outcome = settled.2.2 ∧
      c.afterLoad = some (attempting.obeyAll meanwhile).1 := by
  simp only [checkWith_of_due hgate hdue, hload]
  exact ⟨rfl, rfl, trivial⟩

theorem checkWith_of_loads (meanwhile : List Command) {set : PolicySet}
    (hgate : k.gate? now = some attempting) (hdue : attempting.FileIsDue store now)
    (hload : (PolicyFile.load stack store k.settings.includes k.path).outcome = .ok set) :
    let c := k.checkWith stack meanwhile store now
    let between := (attempting.obeyAll meanwhile).1
    c.afterLoad = some between ∧
      (between.running = true ∧ c.keeper = between.publish now set ∧ c.outcome = .ok true ∨
        between.running = false ∧ c.keeper = between ∧ c.outcome = .ok false) := by
  simp only [checkWith_of_due hgate hdue, hload, settle]
  refine ⟨trivial, ?_⟩
  cases hrunning : (attempting.obeyAll meanwhile).1.running with
  | true => exact .inl ⟨rfl, rfl, rfl⟩
  | false => exact .inr ⟨rfl, rfl, rfl⟩

/-! ## The courses -/

def Opens (now : τ) (k : Keeper τ) : Prop :=
  k.running = true ∧ ¬ now ≤ k.lastAttempt + k.settings.reloadInterval

instance (now : τ) (k : Keeper τ) : Decidable (k.Opens now) :=
  inferInstanceAs (Decidable (_ ∧ ¬ _ ≤ _))

/-- How a check goes: it ends at the gate, with a file that is not due or whose
time cannot be read, with a file that cannot be loaded, or with a set, which is
for nothing if the keeper was stopped. -/
inductive Course (stack : CallStack) (meanwhile : List Command) (store : FileStore τ) (now : τ)
    (k : Keeper τ) (c : Checked τ) : Prop
  | gated (hclosed : ¬ k.Opens now) (hkeeper : c.keeper = k) (hnotices : c.notices = [])
      (houtcome : c.outcome = .ok false) (hafterLoad : c.afterLoad = none)
  | nothingNew (hopen : k.Opens now) (hdue : ¬ k.FileIsDue store now)
      (htime : ∃ time, store.modified? k.path = .ok time)
      (hkeeper : c.keeper = k.attempted now) (houtcome : c.outcome = .ok false)
      (hafterLoad : c.afterLoad = none)
  | noTime {fault : FileFault} (hopen : k.Opens now)
      (htime : store.modified? k.path = .error fault)
      (hkeeper : c.keeper = ((k.attempted now).settleFault (.file fault)).1)
      (houtcome : c.outcome = ((k.attempted now).settleFault (.file fault)).2.2)
      (hafterLoad : c.afterLoad = none)
  | unloaded {fault : LoadFault} (hopen : k.Opens now) (hdue : k.FileIsDue store now)
      (hload : (PolicyFile.load stack store k.settings.includes k.path).outcome = .error fault)
      (hkeeper : c.keeper = ((k.between meanwhile now).settleFault (.load fault)).1)
      (houtcome : c.outcome = ((k.between meanwhile now).settleFault (.load fault)).2.2)
      (hafterLoad : c.afterLoad = some (k.between meanwhile now))
  | stopped {set : PolicySet} (hopen : k.Opens now) (hdue : k.FileIsDue store now)
      (hload : (PolicyFile.load stack store k.settings.includes k.path).outcome = .ok set)
      (hrunning : (k.between meanwhile now).running = false)
      (hkeeper : c.keeper = k.between meanwhile now) (houtcome : c.outcome = .ok false)
      (hafterLoad : c.afterLoad = some (k.between meanwhile now))
  | published {set : PolicySet} (hopen : k.Opens now) (hdue : k.FileIsDue store now)
      (hload : (PolicyFile.load stack store k.settings.includes k.path).outcome = .ok set)
      (hrunning : (k.between meanwhile now).running = true)
      (hkeeper : c.keeper = (k.between meanwhile now).publish now set)
      (houtcome : c.outcome = .ok true)
      (hafterLoad : c.afterLoad = some (k.between meanwhile now))

/-- What a caller leaves of the stack counts in the load only, if there is one. -/
theorem checkWith_congr {stack' : CallStack}
    (hload : k.Opens now → k.FileIsDue store now →
      PolicyFile.load stack' store k.settings.includes k.path =
        PolicyFile.load stack store k.settings.includes k.path) :
    k.checkWith stack' meanwhile store now = k.checkWith stack meanwhile store now := by
  unfold checkWith
  cases hgate : k.gate? now with
  | none => rfl
  | some attempting =>
      obtain ⟨hrunning, hinterval, rfl⟩ := gate?_eq_some_iff.1 hgate
      have hexamine : (k.attempted now).examine stack' store now =
          (k.attempted now).examine stack store now :=
        examine_congr (hload ⟨hrunning, hinterval⟩)
      unfold attempted at hexamine
      simp only [hexamine]

theorem checkWith_course (stack : CallStack) (meanwhile : List Command) (store : FileStore τ)
    (now : τ) (k : Keeper τ) :
    k.Course stack meanwhile store now (k.checkWith stack meanwhile store now) := by
  cases hgate : k.gate? now with
  | none =>
      rw [checkWith_of_gated hgate]
      exact .gated (gate?_eq_none_iff.1 hgate) rfl rfl rfl rfl
  | some attempting =>
      obtain ⟨hrunning, hinterval, rfl⟩ := gate?_eq_some_iff.1 hgate
      have hopen : k.Opens now := ⟨hrunning, hinterval⟩
      by_cases hdue : k.FileIsDue store now
      · have hdue' : (k.attempted now).FileIsDue store now := hdue
        cases hload : (PolicyFile.load stack store k.settings.includes k.path).outcome with
        | error fault =>
            obtain ⟨hkeeper, houtcome, hafterLoad⟩ :=
              checkWith_of_load_fails meanwhile hgate hdue' hload
            exact .unloaded hopen hdue hload hkeeper houtcome hafterLoad
        | ok set =>
            obtain ⟨hafterLoad, hend⟩ := checkWith_of_loads meanwhile hgate hdue' hload
            rcases hend with ⟨hstill, hkeeper, houtcome⟩ | ⟨hstopped, hkeeper, houtcome⟩
            · exact .published hopen hdue hload hstill hkeeper houtcome hafterLoad
            · exact .stopped hopen hdue hload hstopped hkeeper houtcome hafterLoad
      · have hdue' : ¬ (k.attempted now).FileIsDue store now := hdue
        rcases examine_of_not_due stack hdue' with ⟨hexamine, htime⟩ | ⟨fault, hexamine, htime⟩
        · rw [checkWith_of_nothingNew hgate hexamine]
          exact .nothingNew hopen hdue htime rfl rfl rfl
        · rw [checkWith_of_noTime hgate hexamine]
          exact .noTime hopen htime rfl rfl rfl

/-- A check loads the file if the gate opens and the file is due. -/
theorem checkWith_loads_iff :
    (k.checkWith stack meanwhile store now).afterLoad.isSome = true ↔
      k.Opens now ∧ k.FileIsDue store now := by
  cases checkWith_course stack meanwhile store now k with
  | gated hclosed _ _ _ hafterLoad => simp [hafterLoad, hclosed]
  | nothingNew _ hdue _ _ _ hafterLoad => simp [hafterLoad, hdue]
  | noTime _ htime _ _ hafterLoad => simp [hafterLoad, FileIsDue, htime]
  | unloaded hopen hdue _ _ _ hafterLoad => simp [hafterLoad, hopen, hdue]
  | stopped hopen hdue _ _ _ _ hafterLoad => simp [hafterLoad, hopen, hdue]
  | published hopen hdue _ _ _ _ hafterLoad => simp [hafterLoad, hopen, hdue]

/-! ## What is shown after a check -/

/-- A check publishes what the file gives, or shows the same as before. -/
theorem checkWith_shows (stack : CallStack) (meanwhile : List Command) (store : FileStore τ)
    (now : τ) (k : Keeper τ) :
    let c := k.checkWith stack meanwhile store now
    (c.outcome ≠ .ok true ∧ k.ShowsSame c.keeper) ∨
      ∃ between set, c.outcome = .ok true ∧ k.ShowsSame between ∧
        (PolicyFile.load stack store k.settings.includes k.path).outcome = .ok set ∧
        c.keeper = between.publish now set := by
  have hbetween := between_showsSame meanwhile now k
  cases checkWith_course stack meanwhile store now k with
  | gated _ hkeeper _ houtcome =>
      left
      rw [hkeeper, houtcome]
      exact ⟨by simp, .refl k⟩
  | nothingNew _ _ _ hkeeper houtcome =>
      left
      rw [hkeeper, houtcome]
      exact ⟨by simp, attempted_showsSame now k⟩
  | noTime _ _ hkeeper houtcome =>
      left
      rw [hkeeper, houtcome]
      exact ⟨settleFault_ne_published _ _,
        (attempted_showsSame now k).trans (settleFault_showsSame _ _)⟩
  | unloaded _ _ _ hkeeper houtcome =>
      left
      rw [hkeeper, houtcome]
      exact ⟨settleFault_ne_published _ _, hbetween.trans (settleFault_showsSame _ _)⟩
  | stopped _ _ _ _ hkeeper houtcome =>
      left
      rw [hkeeper, houtcome]
      exact ⟨by simp, hbetween⟩
  | published _ _ hload _ hkeeper houtcome =>
      exact .inr ⟨_, _, houtcome, hbetween, hload, hkeeper⟩

theorem checkWith_afterLoad {midway : Keeper τ}
    (hmidway : (k.checkWith stack meanwhile store now).afterLoad = some midway) :
    k.ShowsSame midway := by
  have hbetween := between_showsSame meanwhile now k
  cases checkWith_course stack meanwhile store now k with
  | gated _ _ _ _ hafterLoad => simp [hafterLoad] at hmidway
  | nothingNew _ _ _ _ _ hafterLoad => simp [hafterLoad] at hmidway
  | noTime _ _ _ _ hafterLoad => simp [hafterLoad] at hmidway
  | unloaded _ _ _ _ _ hafterLoad | stopped _ _ _ _ _ _ hafterLoad
  | published _ _ _ _ _ _ hafterLoad =>
      rw [hafterLoad] at hmidway
      exact Option.some.inj hmidway ▸ hbetween

end Keeper

end PolicyKeeper
