import PolicyKeeper.Proofs.PendingChanges
import PolicyKeeper.Proofs.StoppedKeepers

/-!
# Spaced checks

A check that the gate lets through is an attempt, whatever comes of it.  It is
made more than an interval after the last one and is then the last one itself,
so each attempt takes the last one further, also in a run whose clock goes back.
The last success is the time of an attempt that published, or the time at which
the keeper was made; it never comes after the last attempt.
-/

namespace PolicyKeeper

section

variable {τ : Type} [Add τ] [LE τ] [DecidableLE τ]

namespace Deployment

/-- The time of the check that an action makes, if the gate lets it through. -/
def attempt? (d : Deployment τ) (action : Action τ) : Option τ :=
  (d.checkAsked? action).bind fun (_, _, now) => if d.keeper.Opens now then some now else none

theorem attempt?_eq_some {d : Deployment τ} {action : Action τ} {now : τ} :
    d.attempt? action = some now ↔
      ∃ stack meanwhile, d.checkAsked? action = some (stack, meanwhile, now) ∧
        d.keeper.Opens now := by
  unfold attempt?
  rw [Option.bind_eq_some_iff]
  constructor
  · rintro ⟨⟨stack, meanwhile, later⟩, hasked, hopen⟩
    simp only [Option.ite_none_right_eq_some, Option.some.injEq] at hopen
    obtain ⟨hopen, rfl⟩ := hopen
    exact ⟨stack, meanwhile, hasked, hopen⟩
  · rintro ⟨stack, meanwhile, hasked, hopen⟩
    exact ⟨(stack, meanwhile, now), hasked, if_pos hopen⟩

end Deployment

variable [OfNat τ 5]

namespace Keeper

/-- A check leaves its own time as that of the last attempt if it is one. -/
theorem lastAttempt_checkWith (stack : CallStack) (meanwhile : List Command)
    (store : FileStore τ) (now : τ) (k : Keeper τ) :
    (k.checkWith stack meanwhile store now).keeper.lastAttempt =
      if k.Opens now then now else k.lastAttempt := by
  cases checkWith_course stack meanwhile store now k with
  | gated hclosed hkeeper => rw [hkeeper, if_neg hclosed]
  | nothingNew hopen _ _ hkeeper =>
      rw [hkeeper, if_pos hopen]
      rfl
  | noTime hopen _ hkeeper =>
      rw [hkeeper, if_pos hopen, settleFault_lastAttempt]
      rfl
  | unloaded hopen _ _ hkeeper =>
      rw [hkeeper, if_pos hopen, settleFault_lastAttempt, between_lastAttempt]
  | stopped hopen _ _ _ hkeeper => rw [hkeeper, if_pos hopen, between_lastAttempt]
  | published hopen _ _ _ hkeeper =>
      rw [hkeeper, if_pos hopen]
      exact between_lastAttempt meanwhile now k

theorem lastAttempt_afterLoad {stack : CallStack} {meanwhile : List Command}
    {store : FileStore τ} {now : τ} {k midway : Keeper τ}
    (hmidway : (k.checkWith stack meanwhile store now).afterLoad = some midway) :
    k.Opens now ∧ midway.lastAttempt = now := by
  cases checkWith_course stack meanwhile store now k with
  | gated _ _ _ _ hafterLoad => simp [hafterLoad] at hmidway
  | nothingNew _ _ _ _ _ hafterLoad => simp [hafterLoad] at hmidway
  | noTime _ _ _ _ hafterLoad => simp [hafterLoad] at hmidway
  | unloaded hopen _ _ _ _ hafterLoad | stopped hopen _ _ _ _ _ hafterLoad
  | published hopen _ _ _ _ _ hafterLoad =>
      rw [hafterLoad] at hmidway
      obtain rfl := Option.some.inj hmidway
      exact ⟨hopen, between_lastAttempt meanwhile now k⟩

end Keeper

namespace Deployment

/-! ## Attempts of a run -/

/-- The times of the checks that the gate lets through, in order. -/
def attempts (d : Deployment τ) : List (Action τ) → List τ
  | [] => []
  | action :: rest => (d.attempt? action).toList ++ (d.act action).deployment.attempts rest

/-- The times of the checks that publish, in order. -/
def successes (d : Deployment τ) : List (Action τ) → List τ
  | [] => []
  | action :: rest =>
      (if d.publishes action then (d.attempt? action).toList else []) ++
        (d.act action).deployment.successes rest

theorem act_settings (d : Deployment τ) (action : Action τ) :
    (d.act action).deployment.keeper.settings = d.keeper.settings := by
  rcases act_shows d action with ⟨-, hsame⟩ | ⟨_, _, _, -, hsame, -, hkeeper⟩
  · exact hsame.settings
  · rw [hkeeper]
    exact hsame.settings

theorem act_lastAttempt (d : Deployment τ) (action : Action τ) :
    (d.act action).deployment.keeper.lastAttempt =
      (d.attempt? action).getD d.keeper.lastAttempt := by
  cases hasked : d.checkAsked? action with
  | none =>
      have hnone : d.checkMade? action = none := by rw [checkMade?_eq, hasked]; rfl
      obtain ⟨commands, hkeeper⟩ := act_keeper_of_no_check hnone
      obtain ⟨_, _, heq⟩ := Keeper.obeyAll_eq d.keeper commands
      rw [hkeeper, heq, attempt?, hasked]
      rfl
  | some asked =>
      rw [act_of_checkMade (checkMade?_of_asked hasked), attempt?, hasked]
      obtain ⟨stack, meanwhile, now⟩ := asked
      show (d.keeper.checkWith stack meanwhile d.store now).keeper.lastAttempt = _
      rw [Keeper.lastAttempt_checkWith, Option.bind_some]
      by_cases hopen : d.keeper.Opens now
      · simp only [hopen, if_true, Option.getD_some]
      · simp only [hopen, if_false, Option.getD_none]

/-- Only an attempt publishes, and its time is that of the last success then. -/
theorem act_lastSuccess (d : Deployment τ) (action : Action τ) :
    (d.publishes action = false ∧
        (d.act action).deployment.keeper.lastSuccess = d.keeper.lastSuccess) ∨
      ∃ now, d.publishes action = true ∧ d.attempt? action = some now ∧
        (d.act action).deployment.keeper.lastSuccess = now := by
  cases hpublishes : d.publishes action with
  | true =>
      obtain ⟨stack, meanwhile, now, _, hasked, hopen, _, _, hact⟩ := publishes_course hpublishes
      refine .inr ⟨now, rfl, attempt?_eq_some.2 ⟨stack, meanwhile, hasked, hopen⟩, ?_⟩
      rw [hact]
      rfl
  | false =>
      rcases act_shows d action with ⟨-, hsame⟩ | ⟨_, _, _, htrue, -⟩
      · exact .inl ⟨rfl, hsame.lastSuccess⟩
      · exact absurd (hpublishes.symm.trans htrue) Bool.false_ne_true

theorem successes_sublist (d : Deployment τ) (actions : List (Action τ)) :
    (d.successes actions).Sublist (d.attempts actions) := by
  induction actions generalizing d with
  | nil => exact List.Sublist.slnil
  | cons action rest ih =>
      have hfirst : (if d.publishes action then (d.attempt? action).toList else []).Sublist
          (d.attempt? action).toList := by
        split
        · exact List.Sublist.refl _
        · exact List.nil_sublist _
      exact hfirst.append (ih _)

end Deployment

end

/-! ## Exact times -/

namespace Deployment

variable {d : Deployment ℚ} {action : Action ℚ} {actions : List (Action ℚ)} {interval now : ℚ}

theorem lt_of_attempt? (hinterval : d.keeper.settings.reloadInterval = interval)
    (hattempt : d.attempt? action = some now) : d.keeper.lastAttempt + interval < now := by
  obtain ⟨_, _, _, _, hlater⟩ := attempt?_eq_some.1 hattempt
  rw [← hinterval]
  exact lt_of_not_ge hlater

/-- Each attempt comes more than an interval after the one before it, the first
one after the last attempt before the run. -/
theorem isChain_attempts (hinterval : d.keeper.settings.reloadInterval = interval) :
    (d.keeper.lastAttempt :: d.attempts actions).IsChain fun earlier later =>
      earlier + interval < later := by
  induction actions generalizing d with
  | nil => exact List.IsChain.singleton _
  | cons action rest ih =>
      have hrest := ih ((congrArg Settings.reloadInterval (act_settings d action)).trans hinterval)
      rw [act_lastAttempt] at hrest
      rw [attempts]
      cases hattempt : d.attempt? action with
      | none =>
          rw [hattempt] at hrest
          exact hrest
      | some now =>
          rw [hattempt] at hrest
          exact List.IsChain.cons_cons (lt_of_attempt? hinterval hattempt) hrest

theorem pairwise_attempts (hpositive : 0 < interval)
    (hinterval : d.keeper.settings.reloadInterval = interval) :
    (d.attempts actions).Pairwise fun earlier later => earlier + interval < later := by
  have htrans : IsTrans ℚ fun earlier later => earlier + interval < later := by
    constructor
    intro first second third hfirst hsecond
    linarith
  exact (List.isChain_iff_pairwise.1 (isChain_attempts hinterval)).of_cons

/-- Every attempt takes the last one more than an interval further. -/
theorem lastAttempt_after (hinterval : d.keeper.settings.reloadInterval = interval) :
    d.keeper.lastAttempt + (d.attempts actions).length * interval ≤
        (d.after actions).keeper.lastAttempt ∧
      (d.attempts actions ≠ [] →
        d.keeper.lastAttempt + (d.attempts actions).length * interval <
          (d.after actions).keeper.lastAttempt) := by
  induction actions generalizing d with
  | nil => simp [attempts, after]
  | cons action rest ih =>
      obtain ⟨hrest, hstrict⟩ :=
        ih ((congrArg Settings.reloadInterval (act_settings d action)).trans hinterval)
      rw [act_lastAttempt] at hrest hstrict
      rw [attempts, after]
      cases hattempt : d.attempt? action with
      | none =>
          rw [hattempt] at hrest hstrict
          exact ⟨hrest, hstrict⟩
      | some now =>
          have hlater := lt_of_attempt? hinterval hattempt
          rw [hattempt, Option.getD_some] at hrest
          have hlength : ((((some now).toList ++
              (d.act action).deployment.attempts rest).length : ℕ) : ℚ) =
                1 + ((d.act action).deployment.attempts rest).length := by
            rw [List.length_append]
            push_cast
            rfl
          rw [hlength]
          constructor
          · linarith
          · intro _
            linarith

/-! ## The last success -/

theorem lastAttempt_le_act (hpositive : 0 < d.keeper.settings.reloadInterval) :
    d.keeper.lastAttempt ≤ (d.act action).deployment.keeper.lastAttempt := by
  rw [act_lastAttempt]
  cases hattempt : d.attempt? action with
  | none => exact le_refl _
  | some now =>
      have hlater := lt_of_attempt? rfl hattempt
      rw [Option.getD_some]
      linarith

theorem lastSuccess_le_act (hpositive : 0 < d.keeper.settings.reloadInterval)
    (horder : d.keeper.lastSuccess ≤ d.keeper.lastAttempt) :
    (d.act action).deployment.keeper.lastSuccess ≤
      (d.act action).deployment.keeper.lastAttempt := by
  rcases act_lastSuccess d action with ⟨-, hsuccess⟩ | ⟨now, -, hattempt, hsuccess⟩
  · rw [hsuccess]
    exact horder.trans (lastAttempt_le_act hpositive)
  · rw [hsuccess, act_lastAttempt, hattempt]
    exact le_refl _

theorem lastSuccess_le_after (hpositive : 0 < d.keeper.settings.reloadInterval)
    (horder : d.keeper.lastSuccess ≤ d.keeper.lastAttempt) :
    (d.after actions).keeper.lastSuccess ≤ (d.after actions).keeper.lastAttempt ∧
      0 < (d.after actions).keeper.settings.reloadInterval := by
  induction actions generalizing d with
  | nil => exact ⟨horder, hpositive⟩
  | cons action rest ih =>
      apply ih
      · rw [act_settings]
        exact hpositive
      · exact lastSuccess_le_act hpositive horder

theorem lastSuccess_le_of_shows {k : Keeper ℚ}
    (hpositive : 0 < d.keeper.settings.reloadInterval)
    (horder : d.keeper.lastSuccess ≤ d.keeper.lastAttempt) (hshows : d.Shows k) :
    k.lastSuccess ≤ k.lastAttempt := by
  rcases hshows with rfl | ⟨action, c, hmade, hmidway⟩
  · exact horder
  · obtain ⟨stack, meanwhile, now, rfl⟩ := checkMade?_eq_some hmade
    have hsuccess := (Keeper.checkWith_afterLoad hmidway).lastSuccess
    obtain ⟨⟨_, hlater⟩, hattempt⟩ := Keeper.lastAttempt_afterLoad hmidway
    rw [hsuccess, hattempt]
    have hnow := lt_of_not_ge hlater
    linarith

/-- With a positive interval the gate lets a check through only when more than
the interval is over since the one before, whatever times the checks are made
at and whatever they come to; so the number of attempts tells how far the last
one is from the time at which the keeper was made.  The last success does not
come after the last attempt in any keeper that is ever seen, and a check that
publishes leaves it more than five seconds after the time of its file. -/
theorem attempts_are_spaced {stack : CallStack} {store : FileStore ℚ} {settings : Settings ℚ}
    {made : ℚ} {keeper : Keeper ℚ}
    (hmade : (Keeper.establish stack store settings made).outcome = .ok keeper)
    (hinterval : 0 < settings.reloadInterval) (actions : List (Action ℚ)) :
    let start : Deployment ℚ := ⟨store, made, keeper⟩
    let d := start.after actions
    (start.attempts actions ≠ [] →
      made + (start.attempts actions).length * settings.reloadInterval < d.keeper.lastAttempt) ∧
    ((start.attempts actions).Pairwise fun earlier later =>
      earlier + settings.reloadInterval < later) ∧
    (∀ k, d.Shows k → k.lastSuccess ≤ k.lastAttempt) ∧
    ((start.successes actions).Pairwise fun earlier later =>
      earlier + settings.reloadInterval < later) ∧
    ∀ action, d.publishes action = true →
      ∃ modified, d.store.modified? d.keeper.path = .ok (some modified) ∧
        modified + 5 < (d.act action).deployment.keeper.lastSuccess := by
  intro start d
  obtain ⟨_, _, hkeeper⟩ := Keeper.establish_eq_ok hmade
  have hsettings : start.keeper.settings.reloadInterval = settings.reloadInterval := by
    rw [show start.keeper = keeper from rfl, hkeeper]
  have hattempt : start.keeper.lastAttempt = made := by
    rw [show start.keeper = keeper from rfl, hkeeper]
  have horder : start.keeper.lastSuccess ≤ start.keeper.lastAttempt := by
    rw [show start.keeper = keeper from rfl, hkeeper]
  have hpairwise : (start.attempts actions).Pairwise fun earlier later =>
      earlier + settings.reloadInterval < later := pairwise_attempts hinterval hsettings
  refine ⟨?_, hpairwise, ?_, hpairwise.sublist (successes_sublist start actions), ?_⟩
  · intro hsome
    have hlast := (lastAttempt_after hsettings).2 hsome
    rw [hattempt] at hlast
    exact hlast
  · intro k hshows
    rw [← hsettings] at hinterval
    obtain ⟨horderAfter, hpositive⟩ : d.keeper.lastSuccess ≤ d.keeper.lastAttempt ∧
        0 < d.keeper.settings.reloadInterval := lastSuccess_le_after hinterval horder
    exact lastSuccess_le_of_shows hpositive horderAfter hshows
  · intro action hpublishes
    obtain ⟨_, _, now, modified, _, htime, hsettled, _, hsuccess⟩ := settled_of_publishes hpublishes
    refine ⟨modified, fileTime?_eq_some.1 htime, ?_⟩
    rw [hsuccess]
    exact lt_of_not_ge hsettled

/-! ## Checks under a clock that goes back -/

def exactSettings : Settings ℚ :=
  { configFile := some "p.xml", reloadEnabled := true, reloadInterval := 10
    rescanInterval := 3600, includes := true }

def exactStore : FileStore ℚ :=
  FileStore.empty.write "p.xml" (.file (PolicyFile.sampleDocument "/a") 900)

def waveringChecks : List (Action ℚ) :=
  [.check (some (2021 / 2)) [] .endless, .check (some 1005) [] .endless,
    .check (some 1020) [] .endless,
    .write "p.xml" (some (PolicyFile.sampleDocument "/b")) (some 1012), .setClock 1030]

theorem attempts_are_spaced_wavering :
    ∃ keeper, (Keeper.establish .endless exactStore exactSettings 1000).outcome = .ok keeper ∧
      0 < exactSettings.reloadInterval ∧
      let start : Deployment ℚ := ⟨exactStore, 1000, keeper⟩
      let d := start.after waveringChecks
      start.attempts waveringChecks = [2021 / 2] ∧ 1000 + 10 < d.keeper.lastAttempt ∧
        d.keeper.lastSuccess ≤ d.keeper.lastAttempt ∧
        ∃ modified, d.store.modified? d.keeper.path = .ok (some modified) ∧
          modified + 5 < (d.act (.check none [] .endless)).deployment.keeper.lastSuccess := by
  have hinterval : 0 < exactSettings.reloadInterval := by decide +kernel
  obtain ⟨keeper, hmade, hattempts, hpublishes⟩ :
      ∃ keeper, (Keeper.establish .endless exactStore exactSettings 1000).outcome = .ok keeper ∧
        let start : Deployment ℚ := ⟨exactStore, 1000, keeper⟩
        start.attempts waveringChecks = [2021 / 2] ∧
          (start.after waveringChecks).publishes (.check none [] .endless) = true := by
    decide +kernel
  obtain ⟨hlast, -, horder, -, hsettled⟩ := attempts_are_spaced hmade hinterval waveringChecks
  have hcount := hlast (by rw [hattempts]; simp)
  rw [hattempts] at hcount
  have hlength : (1000 : ℚ) + ([2021 / 2] : List ℚ).length * exactSettings.reloadInterval =
      1000 + 10 := by
    simp [exactSettings]
  rw [hlength] at hcount
  exact ⟨keeper, hmade, hinterval, hattempts, hcount, horder _ (.inl rfl),
    hsettled _ hpublishes⟩

end Deployment

end PolicyKeeper
