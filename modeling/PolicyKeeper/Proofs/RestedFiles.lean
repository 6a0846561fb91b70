import PolicyKeeper.Proofs.PublishedPolicies
import PolicyKeeper.Proofs.RoundedSums

/-!
# Files at rest

In a run that stamps the policy file with the time of its clock, what stands in
the place of the file has a time that does not come before the last writing or
touching.  A check loads the file only when the settle window after that time
is over.  So it never loads a file that was written or touched less than the
window ago, and nothing that a writer leaves behind between two writings which
are no further apart than that.
-/

namespace PolicyKeeper

namespace Deployment

section

variable {τ : Type} [Add τ] [LE τ] [DecidableLE τ] [OfNat τ 5]

/-- Whether an action makes a check that loads the policy file. -/
def loads (d : Deployment τ) (action : Action τ) : Bool :=
  (d.checkMade? action).any fun c => c.afterLoad.isSome

theorem loads_iff {d : Deployment τ} {action : Action τ} :
    d.loads action = true ↔
      ∃ stack meanwhile now, d.checkAsked? action = some (stack, meanwhile, now) ∧
        d.keeper.Opens now ∧ d.keeper.FileIsDue d.store now := by
  unfold loads
  rw [checkMade?_eq]
  cases d.checkAsked? action with
  | none => simp
  | some asked =>
      rw [Option.map_some, Option.any_some, Keeper.checkWith_loads_iff]
      constructor
      · intro hdue
        exact ⟨asked.1, asked.2.1, asked.2.2, rfl, hdue⟩
      · rintro ⟨stack, meanwhile, now, hasked, hdue⟩
        obtain rfl := Option.some.inj hasked
        exact hdue

theorem loads_of_publishes {d : Deployment τ} {action : Action τ}
    (hpublishes : d.publishes action = true) : d.loads action = true := by
  obtain ⟨stack, meanwhile, now, _, hasked, hopen, hdue, _, _⟩ := publishes_course hpublishes
  exact loads_iff.2 ⟨stack, meanwhile, now, hasked, hopen, hdue⟩

end

/-! ## Runs that stamp the file -/

/-- The clock shows numbers of the format and does not go back, and the policy
file is written and touched, and checks are made, at the time of the clock. -/
structure StampsFile (d : Deployment Binary64) (action : Action Binary64) : Prop where
  representable : d.clock.IsRepresentable
  ordered : d.clock ≤ (d.act action).deployment.clock
  stamp : ∀ time ∈ d.fileStamp? action, time = d.clock
  check : ∀ asked ∈ d.checkAsked? action, asked.2.2 = d.clock

theorem stampsFile_iff {d : Deployment Binary64} {action : Action Binary64} :
    d.StampsFile action ↔
      d.clock.IsRepresentable ∧ d.clock ≤ (d.act action).deployment.clock ∧
        (∀ time ∈ d.fileStamp? action, time = d.clock) ∧
        ∀ asked ∈ d.checkAsked? action, asked.2.2 = d.clock := by
  constructor
  · intro h
    exact ⟨h.representable, h.ordered, h.stamp, h.check⟩
  · rintro ⟨hrepresentable, hordered, hstamp, hcheck⟩
    exact ⟨hrepresentable, hordered, hstamp, hcheck⟩

instance (d : Deployment Binary64) : DecidablePred d.StampsFile :=
  fun _ => decidable_of_iff _ stampsFile_iff.symm

/-- Neither the clock nor the time of what stands in place of the policy file
comes before a time. -/
structure StandsSince (since : Binary64) (d : Deployment Binary64) : Prop where
  clock : since ≤ d.clock
  file : d.store.TimedAt (d.store.locationOf d.keeper.path) fun _ modified => since ≤ modified

variable {d : Deployment Binary64} {action : Action Binary64} {since written : Binary64}

theorem standsSince_act (h : d.StandsSince since) (hstamps : d.StampsFile action) :
    (d.act action).deployment.StandsSince since := by
  constructor
  · exact Binary64.le_trans h.clock hstamps.ordered
  · rw [act_path, locationOf_act]
    apply timedAt_act h.file
    intro time htime _
    rw [hstamps.stamp time htime]
    exact h.clock

theorem standsSince_of_stamp (hstamp : d.fileStamp? action = some written)
    (hstamps : d.StampsFile action) : (d.act action).deployment.StandsSince written := by
  have hclock : written = d.clock := hstamps.stamp written hstamp
  have hordered : written ≤ (d.act action).deployment.clock := by
    rw [hclock]
    exact hstamps.ordered
  have hsame : written ≤ written := by
    rw [hclock]
    exact Binary64.le_refl_of_ge hstamps.ordered
  constructor
  · exact hordered
  · rw [act_path, locationOf_act]
    exact timedAt_act_of_stamp hstamp fun _ => hsame

/-- A check loads a file that has settled. -/
theorem settled_of_loads (hstamps : d.StampsFile action) (hloads : d.loads action = true) :
    ∃ modified, d.store.modified? d.keeper.path = .ok (some modified) ∧
      ¬ Binary64.IsWithin 5 modified d.clock := by
  obtain ⟨_, _, now, hasked, _, modified, htime, _, hsettled⟩ := loads_iff.1 hloads
  have hnow : now = d.clock := hstamps.check _ hasked
  refine ⟨modified, htime, ?_⟩
  intro hwithin
  rw [← Binary64.value_five] at hwithin
  apply hsettled
  rw [hnow]
  exact hwithin.le_add (by decide) hstamps.representable

theorem not_isWithin_of_loads (h : d.StandsSince written) (hstamps : d.StampsFile action)
    (hloads : d.loads action = true) : ¬ Binary64.IsWithin 5 written d.clock := by
  obtain ⟨modified, htime, hsettled⟩ := settled_of_loads hstamps hloads
  obtain ⟨_, hlater⟩ := h.file.of_modified? htime
  intro hwithin
  exact hsettled (hwithin.mono_first (by norm_num) hlater)

/-! ## Writers that do not pause -/

/-- No more than a span passes from a time to the next writing of the policy
file, and from each writing to the next one. -/
def WritesSteadily (span : ℚ) (since : Binary64) (d : Deployment Binary64) :
    List (Action Binary64) → Prop
  | [] => True
  | action :: rest =>
      match d.fileStamp? action with
      | some time =>
          Binary64.IsWithin span since time ∧
            (d.act action).deployment.WritesSteadily span time rest
      | none => (d.act action).deployment.WritesSteadily span since rest

instance decideWritesSteadily (span : ℚ) :
    (since : Binary64) → (d : Deployment Binary64) → (actions : List (Action Binary64)) →
      Decidable (d.WritesSteadily span since actions)
  | _, _, [] => isTrue trivial
  | since, d, action :: rest =>
      let next := (d.act action).deployment
      match hstamp : d.fileStamp? action with
      | some time =>
          have := decideWritesSteadily span time next rest
          decidable_of_iff (Binary64.IsWithin span since time ∧ next.WritesSteadily span time rest)
            (by simp only [WritesSteadily, hstamp]; rfl)
      | none =>
          have := decideWritesSteadily span since next rest
          decidable_of_iff (next.WritesSteadily span since rest)
            (by simp only [WritesSteadily, hstamp]; rfl)

/-- Before a writing that comes within a span, the clock is within it. -/
theorem isWithin_clock {span : ℚ} {last : Action Binary64} {between : List (Action Binary64)}
    (hspan : 0 ≤ span) (hstamps : d.Throughout StampsFile (between ++ [last]))
    (hsteady : d.WritesSteadily span since (between ++ [last]))
    (hlast : (d.after between).fileStamp? last = some written) :
    Binary64.IsWithin span since d.clock := by
  induction between generalizing d with
  | nil =>
      have hclock : written = d.clock := hstamps.1.stamp written hlast
      have hlast' : d.fileStamp? last = some written := hlast
      simp only [List.nil_append, WritesSteadily, hlast'] at hsteady
      rw [← hclock]
      exact hsteady.1
  | cons action rest ih =>
      obtain ⟨hstampsFirst, hstampsRest⟩ := hstamps
      simp only [List.cons_append, WritesSteadily] at hsteady
      cases hstamp : d.fileStamp? action with
      | some time =>
          rw [hstamp] at hsteady
          rw [← hstampsFirst.stamp time hstamp]
          exact hsteady.1
      | none =>
          -- The clock has only gone on until that writing.
          rw [hstamp] at hsteady
          have hnext := ih hstampsRest hsteady hlast
          exact hnext.mono_second hspan hstampsFirst.ordered

/-- Nothing is loaded while a writer goes on without a pause. -/
theorem not_loads_of_writesSteadily {last : Action Binary64} {between : List (Action Binary64)}
    (h : d.StandsSince since) (hstamps : d.Throughout StampsFile (between ++ [last]))
    (hsteady : d.WritesSteadily 5 since (between ++ [last]))
    (hlast : (d.after between).fileStamp? last = some written) :
    d.Throughout (fun e action => e.loads action = false) between := by
  induction between generalizing d since with
  | nil => exact trivial
  | cons action rest ih =>
      have hwithin := isWithin_clock (by norm_num) hstamps hsteady hlast
      obtain ⟨hstampsFirst, hstampsRest⟩ := hstamps
      have hnot : d.loads action = false := by
        by_contra hloads
        rw [Bool.not_eq_false] at hloads
        exact not_isWithin_of_loads h hstampsFirst hloads hwithin
      refine ⟨hnot, ?_⟩
      simp only [List.cons_append, WritesSteadily] at hsteady
      cases hstamp : d.fileStamp? action with
      | some time =>
          rw [hstamp] at hsteady
          exact ih (standsSince_of_stamp hstamp hstampsFirst) hstampsRest hsteady.2 hlast
      | none =>
          rw [hstamp] at hsteady
          exact ih (standsSince_act h hstampsFirst) hstampsRest hsteady hlast

theorem standsSince_after {actions : List (Action Binary64)} (h : d.StandsSince since)
    (hstamps : d.Throughout StampsFile actions) : (d.after actions).StandsSince since := by
  induction actions generalizing d with
  | nil => exact h
  | cons action rest ih => exact ih (standsSince_act h hstamps.1) hstamps.2

theorem publications_of_not_loads {actions : List (Action Binary64)}
    (hnot : d.Throughout (fun e action => e.loads action = false) actions) :
    d.publications actions = [] := by
  induction actions generalizing d with
  | nil => rfl
  | cons action rest ih =>
      have hfirst : d.publishes action = false := by
        by_contra hpublishes
        rw [Bool.not_eq_false] at hpublishes
        exact absurd (loads_of_publishes hpublishes) (by simp [hnot.1])
      simp [publications, hfirst, ih hnot.2]

theorem policies_of_publishes (hpublishes : d.publishes action = true) :
    ∃ set, (PolicyFile.load .endless d.store d.keeper.settings.includes d.keeper.path).outcome =
        .ok set ∧
      (d.act action).deployment.keeper.published.policies = set.policies := by
  obtain ⟨_, _, _, set, _, _, _, hload, hact⟩ := publishes_course hpublishes
  refine ⟨set, PolicyFile.load_endless_of_ok hload, ?_⟩
  rw [hact]
  rfl

/-- In a run that stamps the policy file, a check that publishes loads what it
publishes, and a check that loads finds a file whose time, and whose last writing
or touching in the run, is more than five seconds ago.  From the first to the
last of any writings that are no more than five seconds apart, nothing is loaded
or published. -/
theorem loaded_at_rest {actions : List (Action Binary64)}
    (hstamps : d.Throughout StampsFile actions) :
    (∀ front check back, actions = front ++ check :: back →
      let e := d.after front
      (e.publishes check = true → e.loads check = true ∧
        ∃ set, (PolicyFile.load .endless e.store e.keeper.settings.includes
            e.keeper.path).outcome = .ok set ∧
          (e.act check).deployment.keeper.published.policies = set.policies) ∧
      (e.loads check = true →
        (∃ modified, e.store.modified? e.keeper.path = .ok (some modified) ∧
          ¬ Binary64.IsWithin 5 modified e.clock) ∧
        ∀ before rewrite between written, front = before ++ rewrite :: between →
          (d.after before).fileStamp? rewrite = some written →
          ¬ Binary64.IsWithin 5 written e.clock)) ∧
    ∀ before first between last back written,
      actions = before ++ first :: (between ++ last :: back) →
      (d.after before).fileStamp? first = some written →
      let next := ((d.after before).act first).deployment
      next.WritesSteadily 5 written (between ++ [last]) →
      ((next.after between).fileStamp? last).isSome = true →
      next.Throughout (fun e action => e.loads action = false) between ∧
        next.publications between = [] := by
  constructor
  · intro front check back hactions e
    rw [hactions] at hstamps
    obtain ⟨hstampsFront, hstampsCheck, _⟩ := throughout_append.1 hstamps
    constructor
    · intro hpublishes
      exact ⟨loads_of_publishes hpublishes, policies_of_publishes hpublishes⟩
    · intro hloads
      refine ⟨settled_of_loads hstampsCheck hloads, ?_⟩
      intro before rewrite between written hfront hwritten
      rw [hfront] at hstampsFront
      obtain ⟨_, hstampsRewrite, hstampsBetween⟩ := throughout_append.1 hstampsFront
      have hstands := standsSince_after (standsSince_of_stamp hwritten hstampsRewrite)
        hstampsBetween
      have hstate : e = (((d.after before).act rewrite).deployment).after between := by
        rw [show e = d.after front from rfl, hfront, after_append]
        rfl
      rw [← hstate] at hstands
      exact not_isWithin_of_loads hstands hstampsCheck hloads
  · intro before first between last back written hactions hwritten next hsteady hlast
    have hsplit : actions = before ++ first :: ((between ++ [last]) ++ back) := by
      rw [hactions]
      simp
    rw [hsplit] at hstamps
    obtain ⟨_, hstampsFirst, hstampsRest⟩ := throughout_append.1 hstamps
    obtain ⟨hstampsBetween, _⟩ := throughout_append.1 hstampsRest
    obtain ⟨again, hagain⟩ := Option.isSome_iff_exists.1 hlast
    have hstands : next.StandsSince written := standsSince_of_stamp hwritten hstampsFirst
    have hnot := not_loads_of_writesSteadily hstands hstampsBetween hsteady hagain
    exact ⟨hnot, publications_of_not_loads hnot⟩

/-! ## A file written in two parts -/

def halfWriting : Action Binary64 :=
  .write "p.xml" (some (PolicyFile.octetsOf ["<configuration>"])) none

def betweenHalves : List (Action Binary64) := [.advance 4, .check none [] .endless]

def wholeWriting : Action Binary64 :=
  .write "p.xml" (some (PolicyFile.sampleDocument "/b")) none

theorem loaded_at_rest_half :
    ∃ keeper,
      (Keeper.establish .endless PolicyFile.sampleStore sampleSettings 1000).outcome =
        .ok keeper ∧
      let start : Deployment Binary64 := ⟨PolicyFile.sampleStore, 1100, keeper⟩
      let next := (start.act halfWriting).deployment
      let e := next.after (betweenHalves ++ [wholeWriting, .advance 20])
      next.publications betweenHalves = [] ∧ e.publishes (.check none [] .endless) = true ∧
        ¬ Binary64.IsWithin 5 1100 e.clock ∧
        ∃ set, (PolicyFile.load .endless e.store e.keeper.settings.includes
            e.keeper.path).outcome = .ok set ∧
          (e.act (.check none [] .endless)).deployment.keeper.published.policies =
            set.policies := by
  obtain ⟨keeper, hmade, hstamps, hwritten, hsteady, hlast, hpublishes⟩ :
      ∃ keeper,
        (Keeper.establish .endless PolicyFile.sampleStore sampleSettings 1000).outcome =
          .ok keeper ∧
        let start : Deployment Binary64 := ⟨PolicyFile.sampleStore, 1100, keeper⟩
        let next := (start.act halfWriting).deployment
        start.Throughout StampsFile
            (halfWriting :: betweenHalves ++ [wholeWriting, .advance 20, .check none [] .endless]) ∧
          start.fileStamp? halfWriting = some 1100 ∧
          next.WritesSteadily 5 1100 (betweenHalves ++ [wholeWriting]) ∧
          ((next.after betweenHalves).fileStamp? wholeWriting).isSome = true ∧
          (next.after (betweenHalves ++ [wholeWriting, .advance 20])).publishes
            (.check none [] .endless) = true := by
    decide +kernel
  obtain ⟨hchecks, hwriters⟩ := loaded_at_rest hstamps
  obtain ⟨-, hnone⟩ :=
    hwriters [] halfWriting betweenHalves wholeWriting _ 1100 rfl hwritten hsteady hlast
  obtain ⟨hpublished, hrested⟩ :=
    hchecks (halfWriting :: betweenHalves ++ [wholeWriting, .advance 20])
      (.check none [] .endless) [] rfl
  obtain ⟨hloads, hset⟩ := hpublished hpublishes
  obtain ⟨-, hwrittenBefore⟩ := hrested hloads
  have hfar := hwrittenBefore [] halfWriting _ 1100 rfl hwritten
  exact ⟨keeper, hmade, hnone, hpublishes, hfar, hset⟩

end Deployment

end PolicyKeeper
