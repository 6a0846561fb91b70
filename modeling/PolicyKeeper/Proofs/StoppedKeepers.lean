import PolicyKeeper.Proofs.CheckInterruptions

/-!
# Stopped keepers

A stop ends the background round and shuts the gate for checks, and nothing but
a start opens it again.  A stop that comes while a check has the file loaded
makes the check end without a publication.  So a stopped keeper stays as it is
until the next start.  The background round goes only while the keeper is
running and allows it, and a start changes nothing while the round goes.
-/

namespace PolicyKeeper

variable {τ : Type}

namespace Keeper

variable {k : Keeper τ}

/-! ## Commands to a stopped keeper -/

theorem obeyAll_append (k : Keeper τ) (front back : List Command) :
    (k.obeyAll (front ++ back)).1 = ((k.obeyAll front).1.obeyAll back).1 := by
  induction front generalizing k with
  | nil => rfl
  | cons command rest ih => exact ih (k.obey command).1

structure IsStopped (k : Keeper τ) : Prop where
  running : k.running = false
  reloading : k.reloading = false

theorem isStopped_stop (k : Keeper τ) : k.stop.1.IsStopped := ⟨rfl, rfl⟩

theorem IsStopped.stop_eq (h : k.IsStopped) : k.stop.1 = k := by
  have hrunning := h.running
  have hreloading := h.reloading
  cases k
  simp_all [stop]

theorem IsStopped.obeyAll {commands : List Command} (h : k.IsStopped)
    (hstart : Command.start ∉ commands) : (k.obeyAll commands).1 = k := by
  induction commands with
  | nil => rfl
  | cons command rest ih =>
      rw [List.mem_cons, not_or] at hstart
      cases command with
      | start => exact absurd rfl hstart.1
      | stop =>
          show (k.stop.1.obeyAll rest).1 = k
          rw [h.stop_eq]
          exact ih hstart.2

/-- A stop that no start follows leaves the keeper stopped. -/
theorem isStopped_between {front back : List Command} {now : τ}
    (hstart : Command.start ∉ back) :
    (k.between (front ++ .stop :: back) now).IsStopped := by
  have hstopped := isStopped_stop ((k.attempted now).obeyAll front).1
  have hbetween : k.between (front ++ .stop :: back) now =
      ((k.attempted now).obeyAll front).1.stop.1 := by
    unfold between
    rw [obeyAll_append]
    exact hstopped.obeyAll hstart
  rw [hbetween]
  exact hstopped

theorem IsStopped.settleFault (h : k.IsStopped) (fault : CheckFault) :
    (k.settleFault fault).1.IsStopped := by
  unfold Keeper.settleFault
  split
  · exact ⟨h.running, h.reloading⟩
  · exact h

theorem between_lastAttempt (commands : List Command) (now : τ) (k : Keeper τ) :
    (k.between commands now).lastAttempt = now := by
  obtain ⟨_, _, heq⟩ := obeyAll_eq (k.attempted now) commands
  have hbetween : k.between commands now = _ := heq
  rw [hbetween]
  rfl

theorem settleFault_lastAttempt (k : Keeper τ) (fault : CheckFault) :
    (k.settleFault fault).1.lastAttempt = k.lastAttempt := by
  unfold Keeper.settleFault
  split <;> rfl

theorem settleFault_eq_failed_iff {fault : CheckFault} :
    (k.settleFault fault).2.2 = .ok false ↔ fault.isExpected = true := by
  unfold Keeper.settleFault
  split
  next hexpected => simp [hexpected]
  next hunexpected => simp [hunexpected]

/-! ## The background round -/

/-- The background round goes only while the keeper runs and is not switched off. -/
def IsOrderly (k : Keeper τ) : Prop :=
  k.reloading = true → k.running = true ∧ k.settings.reloadEnabled = true

theorem IsOrderly.start_eq (h : k.IsOrderly) (hreloading : k.reloading = true) :
    k.start = (k, []) := by
  obtain ⟨hrunning, henabled⟩ := h hreloading
  cases k
  simp_all [start]

theorem IsOrderly.obey (h : k.IsOrderly) (command : Command) : (k.obey command).1.IsOrderly := by
  cases command with
  | stop =>
      intro hreloading
      simp [Keeper.obey, stop] at hreloading
  | start =>
      unfold Keeper.obey start
      simp only
      split
      next hdisabled =>
        intro hreloading
        exact ⟨rfl, (h hreloading).2⟩
      next henabled =>
        have hallowed : k.settings.reloadEnabled = true := by simpa using henabled
        split
        next =>
          intro _
          exact ⟨rfl, hallowed⟩
        next =>
          intro _
          exact ⟨rfl, hallowed⟩

theorem IsOrderly.obeyAll (h : k.IsOrderly) (commands : List Command) :
    (k.obeyAll commands).1.IsOrderly := by
  induction commands generalizing k with
  | nil => exact h
  | cons command rest ih => exact ih (h.obey command)

theorem IsOrderly.between (h : k.IsOrderly) (commands : List Command) (now : τ) :
    (k.between commands now).IsOrderly :=
  IsOrderly.obeyAll (k := k.attempted now) h commands

theorem IsOrderly.settleFault (h : k.IsOrderly) (fault : CheckFault) :
    (k.settleFault fault).1.IsOrderly := by
  unfold Keeper.settleFault
  split <;> exact h

variable [Add τ] [LE τ] [DecidableLE τ] [OfNat τ 5] {store : FileStore τ} {now : τ}

theorem IsOrderly.checkWith (h : k.IsOrderly) (stack : CallStack) (meanwhile : List Command)
    (store : FileStore τ) (now : τ) : (k.checkWith stack meanwhile store now).keeper.IsOrderly := by
  cases checkWith_course stack meanwhile store now k with
  | gated _ hkeeper =>
      rw [hkeeper]
      exact h
  | nothingNew _ _ _ hkeeper =>
      rw [hkeeper]
      exact h
  | noTime _ _ hkeeper =>
      rw [hkeeper]
      exact IsOrderly.settleFault (k := k.attempted now) h _
  | unloaded _ _ _ hkeeper =>
      rw [hkeeper]
      exact (h.between meanwhile now).settleFault _
  | stopped _ _ _ _ hkeeper =>
      rw [hkeeper]
      exact h.between meanwhile now
  | published _ _ _ _ hkeeper =>
      rw [hkeeper]
      exact h.between meanwhile now

/-! ## Checks that are stopped -/

theorem IsStopped.checkWith (h : k.IsStopped) (stack : CallStack) (meanwhile : List Command)
    (store : FileStore τ) (now : τ) :
    (k.checkWith stack meanwhile store now).keeper = k ∧
      (k.checkWith stack meanwhile store now).outcome = .ok false := by
  have hgate : k.gate? now = none := by
    rw [gate?_eq_none_iff]
    simp [h.running]
  rw [checkWith_of_gated hgate]
  exact ⟨rfl, rfl⟩

/-- How a check ends that was stopped while it had the file loaded. -/
theorem checkWith_of_stopped {stack : CallStack} {front back : List Command}
    (hstart : Command.start ∉ back)
    (hloads : (k.checkWith stack (front ++ .stop :: back) store now).afterLoad.isSome = true) :
    let c := k.checkWith stack (front ++ .stop :: back) store now
    c.outcome ≠ .ok true ∧
      (c.outcome = .ok false ↔
        ¬ ∃ fault, (PolicyFile.load stack store k.settings.includes k.path).outcome =
            .error fault ∧ fault.isExpected = false) ∧
      c.keeper.IsStopped ∧ k.ShowsSame c.keeper ∧ c.keeper.lastAttempt = now := by
  intro c
  -- The keeper is stopped from the end of the load on, whatever the load came to.
  have hstopped : (k.between (front ++ .stop :: back) now).IsStopped := isStopped_between hstart
  have hsame := between_showsSame (front ++ .stop :: back) now k
  have hattempt := between_lastAttempt (front ++ .stop :: back) now k
  cases checkWith_course stack (front ++ .stop :: back) store now k with
  | gated _ _ _ _ hafterLoad => simp [hafterLoad] at hloads
  | nothingNew _ _ _ _ _ hafterLoad => simp [hafterLoad] at hloads
  | noTime _ _ _ _ hafterLoad => simp [hafterLoad] at hloads
  | @unloaded fault _ _ hload hkeeper houtcome =>
      refine ⟨?_, ?_, ?_, ?_, ?_⟩
      · rw [houtcome]
        exact settleFault_ne_published _ _
      · have hfault : c.outcome = .ok false ↔ fault.isExpected = true := by
          rw [houtcome]
          exact settleFault_eq_failed_iff
        rw [hfault, hload]
        simp
      · rw [hkeeper]
        exact hstopped.settleFault _
      · rw [hkeeper]
        exact hsame.trans (settleFault_showsSame _ _)
      · rw [hkeeper, settleFault_lastAttempt]
        exact hattempt
  | stopped _ _ hload _ hkeeper houtcome =>
      refine ⟨?_, ?_, ?_, ?_, ?_⟩
      · simp [c, houtcome]
      · simp [c, houtcome, hload]
      · rw [hkeeper]
        exact hstopped
      · rw [hkeeper]
        exact hsame
      · rw [hkeeper]
        exact hattempt
  | published _ _ _ hrunning => simp [hstopped.running] at hrunning

end Keeper

namespace Deployment

/-- A keeper of the state: the one that it has, or one inside a check, which has
recorded the attempt and obeyed some commands. -/
def MayHold (d : Deployment τ) (k : Keeper τ) : Prop :=
  k = d.keeper ∨ ∃ commands now, k = d.keeper.between commands now

theorem isOrderly_of_mayHold {d : Deployment τ} {k : Keeper τ} (h : d.keeper.IsOrderly)
    (hholds : d.MayHold k) : k.IsOrderly := by
  rcases hholds with rfl | ⟨commands, now, rfl⟩
  · exact h
  · exact h.between commands now

variable [Add τ] [LE τ] [DecidableLE τ] [OfNat τ 5] {d : Deployment τ} {action : Action τ}

/-! ## Runs of a stopped keeper -/

theorem act_of_stopped (hstopped : d.keeper.IsStopped) (hstart : action ≠ .command .start) :
    (d.act action).deployment.keeper = d.keeper := by
  cases hmade : d.checkMade? action with
  | some c =>
      obtain ⟨stack, meanwhile, now, rfl⟩ := checkMade?_eq_some hmade
      rw [act_of_checkMade hmade]
      exact (hstopped.checkWith stack meanwhile d.store now).1
  | none =>
      rw [act_keeper_of_told hmade]
      apply hstopped.obeyAll
      intro htold
      cases action with
      | command c =>
          rw [commandsTold, List.mem_singleton] at htold
          exact hstart (by rw [htold])
      | write | remove | touch | setClock | advance | check | turn | request =>
          simp [commandsTold] at htold

theorem isStopped_act (hstopped : d.keeper.IsStopped) (hstart : action ≠ .command .start) :
    (d.act action).deployment.keeper.IsStopped := by
  rw [act_of_stopped hstopped hstart]
  exact hstopped

theorem outcome_of_stopped {c : Checked τ} (hstopped : d.keeper.IsStopped)
    (hmade : d.checkMade? action = some c) : c.outcome = .ok false := by
  obtain ⟨stack, meanwhile, now, rfl⟩ := checkMade?_eq_some hmade
  exact (hstopped.checkWith stack meanwhile d.store now).2

theorem publishes_of_stopped (hstopped : d.keeper.IsStopped) : d.publishes action = false := by
  unfold publishes
  cases hmade : d.checkMade? action with
  | none => rfl
  | some c => simp [Checked.hasPublished, outcome_of_stopped hstopped hmade]

theorem after_of_stopped {rest : List (Action τ)} (hstopped : d.keeper.IsStopped)
    (hstart : Action.command .start ∉ rest) : (d.after rest).keeper = d.keeper := by
  induction rest generalizing d with
  | nil => rfl
  | cons action rest ih =>
      rw [List.mem_cons, not_or] at hstart
      have hfirst : action ≠ .command .start := Ne.symm hstart.1
      rw [after, ih (isStopped_act hstopped hfirst) hstart.2, act_of_stopped hstopped hfirst]

theorem publications_of_stopped {rest : List (Action τ)} (hstopped : d.keeper.IsStopped)
    (hstart : Action.command .start ∉ rest) : d.publications rest = [] := by
  induction rest generalizing d with
  | nil => rfl
  | cons action rest ih =>
      rw [List.mem_cons, not_or] at hstart
      have hfirst : action ≠ .command .start := Ne.symm hstart.1
      rw [publications, publishes_of_stopped hstopped,
        ih (isStopped_act hstopped hfirst) hstart.2]
      rfl

/-- No run without a start changes the keeper, publishes, or makes a check that
ends in any other way than as a failure. -/
def StaysStopped (d : Deployment τ) : Prop :=
  ∀ rest, Action.command .start ∉ rest →
    (d.after rest).keeper = d.keeper ∧ d.publications rest = [] ∧
      ∀ action c, (d.after rest).checkMade? action = some c → c.outcome = .ok false

theorem staysStopped (hstopped : d.keeper.IsStopped) : d.StaysStopped := by
  intro rest hstart
  have hsame := after_of_stopped hstopped hstart
  refine ⟨hsame, publications_of_stopped hstopped hstart, ?_⟩
  intro action c hmade
  rw [← hsame] at hstopped
  exact outcome_of_stopped hstopped hmade

/-! ## The background round in a run -/

theorem isOrderly_act (h : d.keeper.IsOrderly) (action : Action τ) :
    (d.act action).deployment.keeper.IsOrderly := by
  cases hmade : d.checkMade? action with
  | some c =>
      obtain ⟨stack, meanwhile, now, rfl⟩ := checkMade?_eq_some hmade
      rw [act_of_checkMade hmade]
      exact h.checkWith stack meanwhile d.store now
  | none =>
      rw [act_keeper_of_told hmade]
      exact h.obeyAll _

theorem isOrderly_after (h : d.keeper.IsOrderly) (actions : List (Action τ)) :
    (d.after actions).keeper.IsOrderly := by
  induction actions generalizing d with
  | nil => exact h
  | cons action rest ih => exact ih (isOrderly_act h action)

/-- After a stop the keeper shows what it showed before, and stays as it is until
it is told to start.  So it does after a check that was stopped while it had the
file loaded; the check publishes nothing, and ends as a failure unless the load
met a fault that nobody expects.  In every state the background round goes only
while the keeper runs and is not switched off, and a start does nothing while it
goes. -/
theorem stopped_until_started {made : CallStack} {store : FileStore τ} {settings : Settings τ}
    {now : τ} {keeper : Keeper τ}
    (hmade : (Keeper.establish made store settings now).outcome = .ok keeper)
    (before : List (Action τ)) :
    let d := (⟨store, now, keeper⟩ : Deployment τ).after before
    let halted := (d.act (.command .stop)).deployment
    (halted.keeper.IsStopped ∧ d.keeper.ShowsSame halted.keeper ∧
      halted.keeper.lastAttempt = d.keeper.lastAttempt ∧ halted.StaysStopped) ∧
    (∀ action stack front back later c,
      d.checkAsked? action = some (stack, front ++ .stop :: back, later) →
      Command.start ∉ back →
      d.checkMade? action = some c → c.afterLoad.isSome = true →
      let stopped := (d.act action).deployment
      (c.outcome ≠ .ok true ∧
        (c.outcome = .ok false ↔
          ¬ ∃ fault, (PolicyFile.load stack d.store settings.includes
                (settings.configFile.getD "")).outcome = .error fault ∧
              fault.isExpected = false)) ∧
        stopped.keeper.IsStopped ∧ d.keeper.ShowsSame stopped.keeper ∧
        stopped.keeper.lastAttempt = later ∧ stopped.StaysStopped) ∧
    ∀ k, d.MayHold k → k.reloading = true →
      k.running = true ∧ k.settings.reloadEnabled = true ∧ k.start = (k, []) := by
  intro d halted
  refine ⟨?_, ?_, ?_⟩
  · have hstopped : halted.keeper.IsStopped := Keeper.isStopped_stop d.keeper
    exact ⟨hstopped, Keeper.obeyAll_showsSame d.keeper [.stop], rfl, staysStopped hstopped⟩
  · intro action stack front back later c hasked hstart hmadeCheck hloads stopped
    have hreflects : d.keeper.Reflects (settings.configFile.getD "") settings.includes _ :=
      reflects_after (Keeper.reflects_of_establish hmade) before
    have hcheck := checkMade?_of_asked hasked
    obtain rfl := Option.some.inj (hcheck.symm.trans hmadeCheck)
    obtain ⟨hnot, hended, hstopped, hsame, hattempt⟩ := Keeper.checkWith_of_stopped hstart hloads
    rw [hreflects.includes_eq, hreflects.path_eq] at hended
    have hkeeper : stopped = d.keptBy _ := act_of_checkMade hmadeCheck
    rw [hkeeper]
    exact ⟨⟨hnot, hended⟩, hstopped, hsame, hattempt, staysStopped hstopped⟩
  · intro k hholds hreloading
    have hstart : keeper.IsOrderly := by
      obtain ⟨_, _, rfl⟩ := Keeper.establish_eq_ok hmade
      intro hreloading
      simp at hreloading
    have horderly := isOrderly_of_mayHold (isOrderly_after hstart before) hholds
    obtain ⟨hrunning, henabled⟩ := horderly hreloading
    exact ⟨hrunning, henabled, horderly.start_eq hreloading⟩

/-! ## A check stopped over a file that interrupts it -/

theorem stopped_until_started_misdeclaring :
    ∃ keeper,
      (Keeper.establish .endless PolicyFile.sampleStore sampleSettings 1000).outcome =
        .ok keeper ∧
      let d := (⟨PolicyFile.sampleStore, 1000, keeper⟩ : Deployment Binary64).after misdeclaring
      let c := d.keeper.checkWith .endless [.stop] d.store 1110
      let stopped := (d.act (.check (some 1110) [.stop] .endless)).deployment
      c.outcome = .error (.load (.markup "p.xml" .severalOctets)) ∧ c.outcome ≠ .ok true ∧
        stopped.keeper.IsStopped ∧
        (stopped.after [.advance 100, .check none [] .endless, .turn false .endless]).keeper =
          stopped.keeper := by
  obtain ⟨keeper, hmade, hloads, houtcome⟩ :
      ∃ keeper,
        (Keeper.establish .endless PolicyFile.sampleStore sampleSettings 1000).outcome =
          .ok keeper ∧
        let d := (⟨PolicyFile.sampleStore, 1000, keeper⟩ : Deployment Binary64).after misdeclaring
        let c := d.keeper.checkWith .endless [.stop] d.store 1110
        c.afterLoad.isSome = true ∧
          c.outcome = .error (.load (.markup "p.xml" .severalOctets)) := by
    decide +kernel
  obtain ⟨-, hchecks, -⟩ := stopped_until_started hmade misdeclaring
  obtain ⟨⟨hnot, -⟩, hstopped, -, -, hstays⟩ :=
    hchecks (.check (some 1110) [.stop] .endless) .endless [] [] 1110 _ rfl (by simp) rfl hloads
  obtain ⟨hsame, -, -⟩ :=
    hstays [.advance 100, .check none [] .endless, .turn false .endless] (by simp)
  exact ⟨keeper, hmade, houtcome, hnot, hstopped, hsame⟩

end Deployment

end PolicyKeeper
