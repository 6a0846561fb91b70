import PolicyKeeper.Proofs.PublishedPolicies
import PolicyKeeper.Proofs.Signals

/-!
# Failure streaks

A keeper marks a failed attempt until it publishes again.  The first failure of
such a streak is told, the publication that ends it is told as a recovery, and
nothing between them is.  An attempt that finds nothing to load does not end a
streak.
-/

namespace PolicyKeeper

variable {τ : Type}

namespace Deployment

theorem isMarked_of_establish {stack : CallStack} {store : FileStore τ} {settings : Settings τ}
    {now : τ} {keeper : Keeper τ}
    (hmade : (Keeper.establish stack store settings now).outcome = .ok keeper) :
    (⟨store, now, keeper⟩ : Deployment τ).isMarked = false := by
  obtain ⟨_, _, rfl⟩ := Keeper.establish_eq_ok hmade
  rfl

variable [Add τ] [LE τ] [DecidableLE τ] [OfNat τ 5] {d : Deployment τ} {action : Action τ}
  {actions : List (Action τ)}

/-! ## Streaks -/

theorem publishes_iff_outcome {stack : CallStack} {meanwhile : List Command} {now : τ}
    (hasked : d.checkAsked? action = some (stack, meanwhile, now)) :
    d.publishes action = true ↔
      (d.keeper.checkWith stack meanwhile d.store now).outcome = .ok true := by
  rw [publishes, checkMade?_of_asked hasked, Option.any_some, Checked.hasPublished_iff]

theorem isMarked_act_of_publishes (hpublishes : d.publishes action = true) :
    (d.act action).deployment.isMarked = false := by
  obtain ⟨_, _, _, _, _, _, _, _, hact⟩ := publishes_course hpublishes
  rw [hact]
  rfl

/-- What sets the mark: the deployment is marked after an action if the action
is one of these, or it was marked before and the action does not publish. -/
def SetsMark (fails : Deployment τ → Action τ → Prop) : Prop :=
  ∀ (d : Deployment τ) (action : Action τ), (d.act action).deployment.isMarked = true ↔
    fails d action ∨ d.isMarked = true ∧ d.publishes action = false

/-- The action makes a check that fails. -/
def Fails (d : Deployment τ) (action : Action τ) : Prop :=
  ∃ stack meanwhile now, d.checkAsked? action = some (stack, meanwhile, now) ∧
    d.keeper.Fails stack d.store now

theorem setsMark_fails : SetsMark (Fails : Deployment τ → Action τ → Prop) := by
  intro d action
  cases hasked : d.checkAsked? action with
  | none =>
      have hnone : d.checkMade? action = none := by
        rw [checkMade?_eq, hasked]
        rfl
      have hmark : (d.act action).deployment.isMarked = d.isMarked := by
        unfold isMarked
        rw [act_keeper_of_told hnone, Keeper.lastAttemptFailed_obeyAll]
      simp [hmark, Fails, hasked, publishes, hnone]
  | some ask =>
      obtain ⟨stack, meanwhile, now⟩ := ask
      have hfails : d.Fails action ↔ d.keeper.Fails stack d.store now := by
        simp [Fails, hasked]
      rw [act_of_checkMade (checkMade?_of_asked hasked), hfails, ← Bool.not_eq_true,
        publishes_iff_outcome hasked]
      exact Keeper.lastAttemptFailed_checkWith_iff

/-- Some action of the run failed, and no check has published since. -/
def InStreak (fails : Deployment τ → Action τ → Prop) (d : Deployment τ)
    (actions : List (Action τ)) : Prop :=
  ∃ front failing back, actions = front ++ failing :: back ∧ fails (d.after front) failing ∧
    ((d.after front).act failing).deployment.publications back = []

theorem inStreak_cons {fails : Deployment τ → Action τ → Prop} {rest : List (Action τ)} :
    d.InStreak fails (action :: rest) ↔
      fails d action ∧ (d.act action).deployment.publications rest = [] ∨
        (d.act action).deployment.InStreak fails rest := by
  constructor
  · rintro ⟨front, failing, back, hsplit, hfails, hnone⟩
    cases front with
    | nil =>
        obtain ⟨rfl, rfl⟩ := List.cons.inj hsplit
        exact .inl ⟨hfails, hnone⟩
    | cons first front =>
        obtain ⟨rfl, rfl⟩ := List.cons.inj hsplit
        exact .inr ⟨front, failing, back, rfl, hfails, hnone⟩
  · rintro (⟨hfails, hnone⟩ | ⟨front, failing, back, rfl, hfails, hnone⟩)
    · exact ⟨[], action, rest, rfl, hfails, hnone⟩
    · exact ⟨action :: front, failing, back, rfl, hfails, hnone⟩

/-- A deployment is marked in a streak, or when it was marked from the start and
nothing was published. -/
theorem isMarked_after_iff {fails : Deployment τ → Action τ → Prop} (hfails : SetsMark fails) :
    (d.after actions).isMarked = true ↔
      d.InStreak fails actions ∨ d.isMarked = true ∧ d.publications actions = [] := by
  induction actions generalizing d with
  | nil => simp [after, publications, InStreak]
  | cons action rest ih =>
      have hpublications : d.publications (action :: rest) = [] ↔
          d.publishes action = false ∧ (d.act action).deployment.publications rest = [] := by
        simp [publications]
      rw [after, ih, inStreak_cons, hfails, hpublications]
      grind

theorem isMarked_iff_inStreak {fails : Deployment τ → Action τ → Prop} (hfails : SetsMark fails)
    (hunmarked : d.isMarked = false) :
    (d.after actions).isMarked = true ↔ d.InStreak fails actions := by
  rw [isMarked_after_iff hfails]
  simp [hunmarked]

theorem setsMark_failure : SetsMark fun (d : Deployment τ) action =>
    .failure ∈ d.signalsOf action := by
  intro d action
  simp only [signalsOf_eq, failure_mem_signalsOfChange]
  cases hpublishes : d.publishes action with
  | true =>
      rw [isMarked_act_of_publishes hpublishes]
      simp
  | false =>
      have hkept : d.isMarked = true → (d.act action).deployment.isMarked = true := by
        intro hmarked
        exact (setsMark_fails d action).2 (.inr ⟨hmarked, hpublishes⟩)
      grind

theorem recovery_mem_signalsOf_iff :
    .recovery ∈ d.signalsOf action ↔ d.isMarked = true ∧ d.publishes action = true := by
  rw [signalsOf_eq, recovery_mem_signalsOfChange]
  cases hpublishes : d.publishes action with
  | true => simp [isMarked_act_of_publishes hpublishes]
  | false =>
      have hkept : d.isMarked = true → (d.act action).deployment.isMarked = true := by
        intro hmarked
        exact (setsMark_fails d action).2 (.inr ⟨hmarked, hpublishes⟩)
      grind

theorem lastAttemptFailed_of_shows {k : Keeper τ} (hshows : d.Shows k) :
    k.lastAttemptFailed = d.isMarked := by
  rcases hshows with rfl | ⟨action, c, hmade, hbetween⟩
  · rfl
  · obtain ⟨stack, meanwhile, now, rfl⟩ := checkMade?_eq_some hmade
    exact Keeper.lastAttemptFailed_afterLoad hbetween

theorem not_told_of_no_publication {first second : Action τ} {middle : List (Action τ)}
    (hfirst : .failure ∈ d.signalsOf first)
    (hnone : (d.act first).deployment.publications middle = []) :
    .failure ∉ ((d.act first).deployment.after middle).signalsOf second := by
  rw [signalsOf_eq, failure_mem_signalsOfChange] at hfirst ⊢
  have hmarked : ((d.act first).deployment.after middle).isMarked = true :=
    (isMarked_after_iff setsMark_failure).2 (.inr ⟨hfirst.2, hnone⟩)
  simp [hmarked]

/-- Along every run failures and recoveries are told in turn, a failure first,
and a keeper that is seen in any state is marked when one more failure than
recoveries was told so far; a check tells neither before it settles.  So there
is a publication between two failures that are told, and a recovery is told by
the first publication after one. -/
theorem failures_told_once {stack : CallStack} {store : FileStore τ} {settings : Settings τ}
    {now : τ} {keeper k : Keeper τ}
    (hmade : (Keeper.establish stack store settings now).outcome = .ok keeper)
    (actions : List (Action τ))
    (hshows : ((⟨store, now, keeper⟩ : Deployment τ).after actions).Shows k) :
    let start : Deployment τ := ⟨store, now, keeper⟩
    let reached := start.after actions
    let told := start.signals actions
    KeeperNotice.signals (Keeper.establish stack store settings now).notices = [] ∧
      told.IsChain (· ≠ ·) ∧ told.head? ≠ some .recovery ∧
      (k.lastAttemptFailed = true ↔ told.count .failure = told.count .recovery + 1) ∧
      (∀ action c, reached.checkMade? action = some c →
        KeeperNotice.signals (c.loading ++ c.told) = []) ∧
      (∀ first middle second, .failure ∈ reached.signalsOf first →
        .failure ∈ ((reached.act first).deployment.after middle).signalsOf second →
        (reached.act first).deployment.publications middle ≠ []) ∧
      (∀ action, .recovery ∈ reached.signalsOf action ↔
        reached.publishes action = true ∧
          start.InStreak (fun d failing => .failure ∈ d.signalsOf failing) actions) ∧
      ∀ (logger : String) (notice : ServiceNotice Binary64) (signal : Signal),
        notice.signal? = some signal →
        (notice.record logger).level = (if signal = .failure then .error else .info) ∧
          (notice.fault?.isSome ↔ signal = .failure) := by
  intro start reached told
  have hunmarked : start.isMarked = false := isMarked_of_establish hmade
  have hturns : Alternates false told reached.isMarked :=
    hunmarked ▸ alternates_signals start actions
  have hcount := hturns.count
  refine ⟨Keeper.signals_establish stack store settings now, hturns.isChain, ?_, ?_, ?_, ?_, ?_, ?_⟩
  · intro hhead
    simpa using hturns.head hhead
  · rw [lastAttemptFailed_of_shows hshows]
    show reached.isMarked = true ↔ _
    cases hmarked : reached.isMarked with
    | true => simpa [hmarked] using hcount
    | false =>
        simp only [hmarked, Bool.toNat_false, add_zero] at hcount
        simp [hcount]
  · intro action c hcheck
    obtain ⟨stack, meanwhile, at', rfl⟩ := checkMade?_eq_some hcheck
    obtain ⟨hloading, htold, -⟩ :=
      Keeper.signals_checkWith stack meanwhile reached.store at' reached.keeper
    rw [KeeperNotice.signals_append, hloading, htold]
    rfl
  · intro first middle second hfirst hsecond hnone
    exact not_told_of_no_publication hfirst hnone hsecond
  · intro action
    have hmarked : reached.isMarked = true ↔
        start.InStreak (fun d failing => .failure ∈ d.signalsOf failing) actions :=
      isMarked_iff_inStreak setsMark_failure hunmarked
    rw [recovery_mem_signalsOf_iff, hmarked, and_comm]
  · intro logger notice signal hsignal
    exact ServiceNotice.record_of_signal logger hsignal

/-- Fails twice, is repaired, and fails again. -/
def faltering : List (Action Binary64) :=
  [.remove "p.xml", .advance 100, .check none [] .endless, .advance 100,
    .turn false .endless, .check none [] .endless,
    .write "p.xml" (some (PolicyFile.sampleDocument "/b")) none, .advance 100,
    .check none [] .endless, .remove "p.xml", .advance 100, .check none [] .endless]

theorem failures_told_once_faltering :
    ∃ keeper,
      (Keeper.establish .endless PolicyFile.sampleStore sampleSettings 1000).outcome =
        .ok keeper ∧
      let start : Deployment Binary64 := ⟨PolicyFile.sampleStore, 1000, keeper⟩
      start.signals faltering = [.failure, .recovery, .failure] ∧
        (start.after faltering).keeper.lastAttemptFailed = true := by
  obtain ⟨keeper, hmade, hsignals⟩ :
      ∃ keeper,
        (Keeper.establish .endless PolicyFile.sampleStore sampleSettings 1000).outcome =
          .ok keeper ∧
        (⟨PolicyFile.sampleStore, 1000, keeper⟩ : Deployment Binary64).signals faltering =
          [.failure, .recovery, .failure] := by
    decide +kernel
  obtain ⟨-, -, -, hmarked, -⟩ := failures_told_once hmade faltering (.inl rfl)
  refine ⟨keeper, hmade, hsignals, hmarked.2 ?_⟩
  rw [hsignals]
  rfl

/-! ## The mark along a run -/

variable {stack : CallStack}

theorem isMarked_act_of_asked {meanwhile : List Command} {now : τ}
    (hasked : d.checkAsked? action = some (stack, meanwhile, now)) :
    (d.act action).deployment.isMarked =
      (d.keeper.checkWith stack meanwhile d.store now).keeper.lastAttemptFailed := by
  rw [act_of_checkMade (checkMade?_of_asked hasked)]
  rfl

theorem isMarked_act_of_nothing {meanwhile : List Command} {now : τ}
    (hasked : d.checkAsked? action = some (stack, meanwhile, now))
    (hopen : d.keeper.Opens now) (hnothing : d.keeper.FindsNothing d.store now) :
    (d.act action).deployment.isMarked = d.isMarked := by
  rw [isMarked_act_of_asked hasked, Keeper.lastAttemptFailed_of_nothing hopen hnothing]
  rfl

/-- A failure is told by the first action that fails after the keeper was made,
or after a publication. -/
theorem failure_mem_signalsOf_iff (hunmarked : d.isMarked = false) :
    .failure ∈ (d.after actions).signalsOf action ↔
      (d.after actions).Fails action ∧ ¬ d.InStreak Fails actions := by
  have hbefore : (d.after actions).isMarked = true ↔ d.InStreak Fails actions :=
    isMarked_iff_inStreak setsMark_fails hunmarked
  have hafter := setsMark_fails (d.after actions) action
  rw [signalsOf_eq, failure_mem_signalsOfChange, ← hbefore]
  cases hmarked : (d.after actions).isMarked with
  | true => simp
  | false => simp [hafter, hmarked]

/-- An attempt that ends in an expected fault marks the keeper, one that
publishes takes the mark away, and one that finds nothing to load leaves it.  So
a keeper seen in any state is marked exactly in a streak, and the failure that
begins the streak is told. -/
theorem marked_in_streaks {made : CallStack} {store : FileStore τ} {settings : Settings τ}
    {now : τ} {keeper : Keeper τ}
    (hmade : (Keeper.establish made store settings now).outcome = .ok keeper)
    (actions : List (Action τ)) :
    let start : Deployment τ := ⟨store, now, keeper⟩
    let reached := start.after actions
    (∀ action stack meanwhile moment,
      reached.checkAsked? action = some (stack, meanwhile, moment) →
      reached.keeper.Opens moment → Command.stop ∉ meanwhile →
      let marked := (reached.act action).deployment.keeper.status.lastAttemptFailed
      (reached.publishes action = true → marked = false) ∧
      (∀ fault, reached.keeper.Meets stack reached.store moment fault → fault.isExpected = true →
        marked = true) ∧
      (reached.keeper.FindsNothing reached.store moment →
        marked = reached.keeper.status.lastAttemptFailed) ∧
      (reached.publishes action = true ∨
        (∃ fault, reached.keeper.Meets stack reached.store moment fault) ∨
        reached.keeper.FindsNothing reached.store moment)) ∧
    (∀ k, reached.Shows k →
      (k.status.lastAttemptFailed = true ↔ start.InStreak Fails actions)) ∧
    ∀ action, .failure ∈ reached.signalsOf action ↔
      reached.Fails action ∧ ¬ start.InStreak Fails actions := by
  intro start reached
  have hunmarked : start.isMarked = false := isMarked_of_establish hmade
  refine ⟨?_, ?_, ?_⟩
  · intro action stack meanwhile moment hasked hopen hstop marked
    refine ⟨isMarked_act_of_publishes, ?_, isMarked_act_of_nothing hasked hopen, ?_⟩
    · intro fault hmeets hexpected
      have hfails : reached.Fails action :=
        ⟨stack, meanwhile, moment, hasked, hopen, fault, hmeets, hexpected⟩
      exact (setsMark_fails reached action).2 (.inl hfails)
    · rw [publishes_iff_outcome hasked]
      exact Keeper.attempt_cases hopen hstop
  · intro k hshows
    show k.lastAttemptFailed = true ↔ _
    rw [lastAttemptFailed_of_shows hshows]
    exact isMarked_iff_inStreak setsMark_fails hunmarked
  · intro action
    exact failure_mem_signalsOf_iff hunmarked

theorem marked_in_streaks_faltering :
    ∃ keeper,
      (Keeper.establish .endless PolicyFile.sampleStore sampleSettings 1000).outcome =
        .ok keeper ∧
      let start : Deployment Binary64 := ⟨PolicyFile.sampleStore, 1000, keeper⟩
      (start.after faltering).keeper.status.lastAttemptFailed = true ∧
        start.InStreak Fails faltering := by
  obtain ⟨keeper, hmade, hmarked⟩ :
      ∃ keeper,
        (Keeper.establish .endless PolicyFile.sampleStore sampleSettings 1000).outcome =
          .ok keeper ∧
        ((⟨PolicyFile.sampleStore, 1000, keeper⟩ : Deployment Binary64).after
          faltering).keeper.status.lastAttemptFailed = true := by
    decide +kernel
  obtain ⟨-, hstreak, -⟩ := marked_in_streaks hmade faltering
  exact ⟨keeper, hmade, hmarked, (hstreak _ (.inl rfl)).1 hmarked⟩

/-- The file is lost, and is put back as it was. -/
def restoring : List (Action Binary64) :=
  [.remove "p.xml", .advance 100, .check none [] .endless,
    .write "p.xml" (some (PolicyFile.sampleDocument "/a")) (some 900), .advance 100]

/-- An attempt that finds nothing wrong can leave the mark of an earlier one, and
the next failure is not told then. -/
theorem mark_outlives_failure :
    ∃ keeper,
      (Keeper.establish .endless PolicyFile.sampleStore sampleSettings 1000).outcome =
        .ok keeper ∧
      let reached :=
        (⟨PolicyFile.sampleStore, 1000, keeper⟩ : Deployment Binary64).after restoring
      let healthy := (reached.act (.check none [] .endless)).deployment
      let lost := healthy.after [.remove "p.xml", .advance 100]
      reached.keeper.Opens reached.clock ∧
        reached.keeper.FindsNothing reached.store reached.clock ∧
        healthy.keeper.status.lastAttemptFailed = true ∧
        lost.keeper.Opens lost.clock ∧
        lost.keeper.Meets .endless lost.store lost.clock (.file (.missing "p.xml")) ∧
        (lost.act (.check none [] .endless)).notices.length = 0 := by
  obtain ⟨keeper, hmade, hopen, htime, hrest⟩ :
      ∃ keeper,
        (Keeper.establish .endless PolicyFile.sampleStore sampleSettings 1000).outcome =
          .ok keeper ∧
        let reached :=
          (⟨PolicyFile.sampleStore, 1000, keeper⟩ : Deployment Binary64).after restoring
        let healthy := (reached.act (.check none [] .endless)).deployment
        let lost := healthy.after [.remove "p.xml", .advance 100]
        reached.keeper.Opens reached.clock ∧
          (reached.store.modified? reached.keeper.path = .ok (some 900) ∧
            (900 : Binary64) ≤ reached.keeper.lastSuccess) ∧
          healthy.keeper.status.lastAttemptFailed = true ∧
          lost.keeper.Opens lost.clock ∧
          lost.store.modified? lost.keeper.path = .error (.missing "p.xml") ∧
          (lost.act (.check none [] .endless)).notices.length = 0 := by
    decide +kernel
  refine ⟨keeper, hmade, hopen, ⟨⟨_, htime.1⟩, ?_⟩, hrest⟩
  intro hdue
  obtain ⟨modified, hmodified, hnew, -⟩ := hdue
  obtain rfl := Option.some.inj (Except.ok.inj (htime.1.symm.trans hmodified))
  exact hnew htime.2

end Deployment

end PolicyKeeper
