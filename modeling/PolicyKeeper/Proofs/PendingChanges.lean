import PolicyKeeper.Proofs.CheckAtomicity
import PolicyKeeper.Proofs.LoadDependence
import PolicyKeeper.Proofs.PublishedPolicies
import PolicyKeeper.Proofs.RoundedSums

/-!
# Pending changes

A change of the policy file is pending while the time of the file comes after
the last success.  Nothing but a check that publishes settles it, and that check
is the first one that is made in time, loads the file and is not stopped.  A
check that publishes comes later than the time of the file that it found, so it
leaves nothing pending, and each publication needs a new time of the file.
-/

namespace PolicyKeeper

namespace Deployment

section

variable {τ : Type}

/-- The time of the policy file, where there is one. -/
def fileTime? (d : Deployment τ) : Option τ :=
  match d.store.modified? d.keeper.path with
  | .ok time => time
  | .error _ => none

theorem fileTime?_eq_some {d : Deployment τ} {modified : τ} :
    d.fileTime? = some modified ↔ d.store.modified? d.keeper.path = .ok (some modified) := by
  unfold fileTime?
  cases d.store.modified? d.keeper.path <;> simp

def IsPending [LE τ] (d : Deployment τ) : Prop :=
  ∃ modified, d.fileTime? = some modified ∧ ¬ modified ≤ d.keeper.lastSuccess

instance [LE τ] [DecidableLE τ] (d : Deployment τ) : Decidable d.IsPending :=
  match htime : d.fileTime? with
  | some modified =>
      decidable_of_iff (¬ modified ≤ d.keeper.lastSuccess) (by simp [IsPending, htime])
  | none => isFalse (by simp [IsPending, htime])

/-- The files that a load of the policy file reads. -/
def filesRead (d : Deployment τ) : List String :=
  d.keeper.path :: PolicyFile.filesIncluded d.store d.keeper.settings.includes d.keeper.path

variable [Add τ] [LE τ] [DecidableLE τ] [OfNat τ 5]

/-! ## What a publication does -/

theorem pending_of_publishes {d : Deployment τ} {action : Action τ}
    (hpublishes : d.publishes action = true) : d.IsPending := by
  obtain ⟨_, _, _, _, _, _, hdue, _, _⟩ := publishes_course hpublishes
  obtain ⟨modified, htime, hnewer, _⟩ := hdue
  exact ⟨modified, fileTime?_eq_some.2 htime, hnewer⟩

/-- A publication is made at a time when the file has settled, and that time is
then the one of the last success. -/
theorem settled_of_publishes {d : Deployment τ} {action : Action τ}
    (hpublishes : d.publishes action = true) :
    ∃ stack meanwhile now modified, d.checkAsked? action = some (stack, meanwhile, now) ∧
      d.fileTime? = some modified ∧ ¬ now ≤ modified + Keeper.settleWindow ∧
      (d.act action).deployment.fileTime? = some modified ∧
      (d.act action).deployment.keeper.lastSuccess = now := by
  obtain ⟨stack, meanwhile, now, set, hasked, _, hdue, _, hact⟩ := publishes_course hpublishes
  obtain ⟨modified, htime, _, hsettled⟩ := hdue
  have hpath := act_path d action
  have hafter : (d.act action).deployment.fileTime? = some modified := by
    rw [fileTime?_eq_some, hpath, hact]
    exact htime
  have hsuccess : (d.act action).deployment.keeper.lastSuccess = now := by
    rw [hact]
    rfl
  exact ⟨stack, meanwhile, now, modified, hasked, fileTime?_eq_some.2 htime, hsettled, hafter,
    hsuccess⟩

/-- Actions that publish nothing leave alone what is shown. -/
theorem showsSame_after {d : Deployment τ} {actions : List (Action τ)}
    (hnone : d.publications actions = []) : d.keeper.ShowsSame (d.after actions).keeper := by
  induction actions generalizing d with
  | nil => exact .refl d.keeper
  | cons action rest ih =>
      obtain ⟨hfirst, hrest⟩ := List.append_eq_nil_iff.1 hnone
      rcases act_shows d action with ⟨-, hsame⟩ | ⟨_, _, _, hpublishes, -⟩
      · exact hsame.trans (ih hrest)
      · simp [hpublishes] at hfirst

/-! ## Files that are left alone -/

/-- The action leaves the time of the policy file and the contents of some files
as they are. -/
def LeavesAlone (files : List String) (d : Deployment τ) (action : Action τ) : Prop :=
  (d.act action).deployment.fileTime? = d.fileTime? ∧
    ∀ file ∈ files, (d.act action).deployment.store.read file = d.store.read file

theorem after_of_leavesAlone {d : Deployment τ} {files : List String}
    {actions : List (Action τ)} (hleaves : d.Throughout (LeavesAlone files) actions) :
    (d.after actions).fileTime? = d.fileTime? ∧
      ∀ file ∈ files, (d.after actions).store.read file = d.store.read file := by
  induction actions generalizing d with
  | nil => exact ⟨rfl, fun _ _ => rfl⟩
  | cons action rest ih =>
      obtain ⟨⟨htime, hread⟩, hrest⟩ := hleaves
      obtain ⟨htimeAfter, hreadAfter⟩ := ih hrest
      refine ⟨htimeAfter.trans htime, ?_⟩
      intro file hmem
      exact (hreadAfter file hmem).trans (hread file hmem)

/-- A load comes to the same as before the run that left its files alone. -/
theorem load_of_leavesAlone {d : Deployment τ} {actions : List (Action τ)} (stack : CallStack)
    (hleaves : d.Throughout (LeavesAlone d.filesRead) actions) (set : PolicySet) :
    (PolicyFile.load stack (d.after actions).store d.keeper.settings.includes
        d.keeper.path).outcome = .ok set ↔
      (PolicyFile.load stack d.store d.keeper.settings.includes d.keeper.path).outcome =
        .ok set := by
  obtain ⟨-, hread⟩ := after_of_leavesAlone hleaves
  apply PolicyFile.load_eq_ok_congr
  · exact hread _ List.mem_cons_self
  · intro file hmem
    exact hread file (List.mem_cons_of_mem _ hmem)

end

instance (files : List String) (d : Deployment Binary64) :
    DecidablePred (LeavesAlone files d) :=
  fun _ => inferInstanceAs (Decidable (_ ∧ ∀ file ∈ files, _))

/-! ## Counting publications -/

/-- The time of the policy file and the time of the check, where there are any,
are finite numbers, and the former one of the format. -/
def TimesAreFinite (d : Deployment Binary64) (action : Action Binary64) : Prop :=
  (∀ modified ∈ d.fileTime?, modified.IsFinite ∧ modified.IsRepresentable) ∧
    ∀ asked ∈ d.checkAsked? action, asked.2.2.IsFinite

instance (d : Deployment Binary64) : DecidablePred d.TimesAreFinite :=
  fun _ => inferInstanceAs (Decidable ((∀ modified ∈ d.fileTime?, _) ∧ ∀ asked ∈ _, _))

def renewsFileTime (d : Deployment Binary64) (action : Action Binary64) : Bool :=
  let later := (d.act action).deployment.fileTime?
  later.isSome && later ≠ d.fileTime?

/-- How many actions give the policy file a time that it did not have. -/
def renewals (d : Deployment Binary64) : List (Action Binary64) → Nat
  | [] => 0
  | action :: rest =>
      (if d.renewsFileTime action then 1 else 0) + (d.act action).deployment.renewals rest

variable {d : Deployment Binary64} {action : Action Binary64} {actions : List (Action Binary64)}
  {modified : Binary64}

/-- A check that comes after the settle window comes after the file. -/
theorem le_of_settled {now : Binary64} (hmodified : modified.IsFinite)
    (hrepresentable : modified.IsRepresentable) (hnow : now.IsFinite)
    (hsettled : ¬ now ≤ modified + Keeper.settleWindow) : modified ≤ now := by
  have hwindow : (5 : Binary64).IsFinite := by decide
  have hnonneg : 0 ≤ (5 : Binary64).value := by
    rw [Binary64.value_five]
    norm_num
  have hsum : modified ≤ modified + 5 :=
    Binary64.le_add_of_nonneg hmodified hrepresentable hwindow hnonneg
  have hafter : modified + 5 < now :=
    (Binary64.not_le_iff_lt hnow.ne_notANumber
      (Binary64.add_ne_notANumber hmodified hwindow.ne_notANumber)).1 hsettled
  exact Binary64.le_trans hsum hafter.1

theorem not_pending_after_publishes (htimes : d.TimesAreFinite action)
    (hpublishes : d.publishes action = true) : ¬ (d.act action).deployment.IsPending := by
  obtain ⟨_, _, now, modified, hasked, htime, hsettled, htimeAfter, hsuccess⟩ :=
    settled_of_publishes hpublishes
  obtain ⟨hfinite, hrepresentable⟩ := htimes.1 modified htime
  have hnow : now.IsFinite := htimes.2 _ hasked
  rintro ⟨found, hfound, hnewer⟩
  obtain rfl := Option.some.inj (htimeAfter.symm.trans hfound)
  rw [hsuccess] at hnewer
  exact hnewer (le_of_settled hfinite hrepresentable hnow hsettled)

theorem pending_of_not_publishes (hpublishes : d.publishes action = false)
    (hrenews : d.renewsFileTime action = false)
    (hpending : (d.act action).deployment.IsPending) : d.IsPending := by
  obtain ⟨modified, htime, hnewer⟩ := hpending
  have hsame : (d.act action).deployment.fileTime? = d.fileTime? := by
    simpa [renewsFileTime, htime] using hrenews
  have hshows : d.keeper.ShowsSame (d.act action).deployment.keeper := by
    rcases act_shows d action with ⟨_, hshows⟩ | ⟨_, _, _, htrue, _⟩
    · exact hshows
    · simp [hpublishes] at htrue
  rw [hshows.lastSuccess] at hnewer
  exact ⟨modified, hsame.symm.trans htime, hnewer⟩

/-- A publication settles the pending change, and only a new time of the file
makes another one. -/
theorem act_pending (htimes : d.TimesAreFinite action) :
    (if d.publishes action then 1 else 0) +
        (if (d.act action).deployment.IsPending then 1 else 0) ≤
      (if d.IsPending then 1 else 0) + if d.renewsFileTime action then 1 else 0 := by
  cases hpublishes : d.publishes action with
  | true =>
      have hbefore := pending_of_publishes hpublishes
      have hafter := not_pending_after_publishes htimes hpublishes
      rw [if_pos hbefore, if_neg hafter, if_pos rfl]
      omega
  | false =>
      cases hrenews : d.renewsFileTime action with
      | true =>
          rw [if_pos rfl, if_neg Bool.false_ne_true]
          split <;> omega
      | false =>
          have hkept := pending_of_not_publishes hpublishes hrenews
          by_cases hafter : (d.act action).deployment.IsPending
          · rw [if_pos hafter, if_pos (hkept hafter)]
            simp
          · rw [if_neg hafter]
            simp

/-- The sum over a run: what was published and what is pending at the end came
from what was pending at the start and from new times of the file. -/
theorem publications_pending (htimes : d.Throughout TimesAreFinite actions) :
    (d.publications actions).length + (if (d.after actions).IsPending then 1 else 0) ≤
      (if d.IsPending then 1 else 0) + d.renewals actions := by
  induction actions generalizing d with
  | nil => exact (Nat.zero_add _).le
  | cons action rest ih =>
      have hfirst := act_pending htimes.1
      have hrest := ih htimes.2
      have hlength : (d.publications (action :: rest)).length =
          (if d.publishes action then 1 else 0) +
            ((d.act action).deployment.publications rest).length := by
        rw [publications, List.length_append]
        cases d.publishes action <;> rfl
      rw [hlength, after, renewals]
      omega

theorem renewals_of_leavesAlone {files : List String}
    (hleaves : d.Throughout (LeavesAlone files) actions) : d.renewals actions = 0 := by
  induction actions generalizing d with
  | nil => rfl
  | cons action rest ih =>
      have hsame : d.renewsFileTime action = false := by
        simp [renewsFileTime, hleaves.1.1]
      rw [renewals, hsame, ih hleaves.2]
      rfl

theorem publications_le_one {files : List String} (htimes : d.Throughout TimesAreFinite actions)
    (hleaves : d.Throughout (LeavesAlone files) actions) :
    (d.publications actions).length ≤ 1 := by
  have hcount := publications_pending htimes
  rw [renewals_of_leavesAlone hleaves] at hcount
  have hpending : (if d.IsPending then 1 else 0) ≤ 1 := by split <;> omega
  omega

/-! ## The check that publishes -/

/-- A check that is made in time and not stopped publishes the pending change,
if the file loads. -/
theorem publishes_of_pending {stack : CallStack} {meanwhile : List Command} {later : Binary64}
    {set : PolicySet}
    (htime : d.fileTime? = some modified) (hpending : d.keeper.lastSuccess < modified)
    (hasked : d.checkAsked? action = some (stack, meanwhile, later)) (hstop : .stop ∉ meanwhile)
    (hrunning : d.keeper.running = true)
    (hinterval : d.keeper.lastAttempt + d.keeper.settings.reloadInterval < later)
    (hsettled : modified + Keeper.settleWindow < later)
    (hload : (PolicyFile.load stack d.store d.keeper.settings.includes d.keeper.path).outcome =
      .ok set) :
    (∃ c, d.checkMade? action = some c ∧ c.outcome = .ok true) ∧
      (d.act action).deployment.keeper.published.policies = set.policies := by
  have hmade := checkMade?_of_asked hasked
  have hopen : d.keeper.Opens later := ⟨hrunning, hinterval.2⟩
  have hdue : d.keeper.FileIsDue d.store later :=
    ⟨modified, fileTime?_eq_some.1 htime, hpending.2, hsettled.2⟩
  have houtcome := (Keeper.checkWith_publishes_iff hstop).2 ⟨⟨hopen, hdue⟩, set, hload⟩
  have hrenewed := Keeper.checkWith_renewedBy hstop houtcome hload
  refine ⟨⟨_, hmade, houtcome⟩, ?_⟩
  rw [act_of_checkMade hmade]
  show (d.keeper.checkWith stack meanwhile d.store later).keeper.published.policies = _
  rw [hrenewed.published, PolicySet.policies_withGeneration]

/-- A change of the policy file that is pending stays so until a check publishes
it, in every run that leaves the files of a load alone.  The first check made in
time, not stopped, whose load succeeds is the one that does, and no other check
of the run publishes.  So the generation counts no more than one publication for
each new time of the file. -/
theorem published_once {made : CallStack} {store : FileStore Binary64}
    {settings : Settings Binary64} {now : Binary64} {keeper : Keeper Binary64}
    (hmade : (Keeper.establish made store settings now).outcome = .ok keeper) :
    let start : Deployment Binary64 := ⟨store, now, keeper⟩
    (∀ before rest modified,
      let d := start.after before
      let e := d.after rest
      d.fileTime? = some modified → d.keeper.lastSuccess < modified →
      d.Throughout TimesAreFinite rest → d.Throughout (LeavesAlone d.filesRead) rest →
      (d.publications rest).length ≤ 1 ∧
        (d.publications rest = [] →
          (e.fileTime? = some modified ∧ e.keeper.lastSuccess < modified) ∧
          ∀ action stack meanwhile later set,
            e.checkAsked? action = some (stack, meanwhile, later) → .stop ∉ meanwhile →
            e.keeper.running = true →
            e.keeper.lastAttempt + e.keeper.settings.reloadInterval < later →
            modified + Keeper.settleWindow < later →
            (PolicyFile.load stack e.store settings.includes
              (settings.configFile.getD "")).outcome = .ok set →
            (∃ c, e.checkMade? action = some c ∧ c.outcome = .ok true) ∧
              (e.act action).deployment.keeper.published.policies = set.policies ∧
              (PolicyFile.load stack d.store settings.includes
                (settings.configFile.getD "")).outcome = .ok set)) ∧
    ∀ actions, (∀ modified ∈ start.fileTime?, modified ≤ now) →
      start.Throughout TimesAreFinite actions →
      (start.after actions).keeper.generation ≤ 1 + start.renewals actions := by
  intro start
  have hreflects : start.keeper.Reflects (settings.configFile.getD "") settings.includes
      [store] := Keeper.reflects_of_establish hmade
  constructor
  · intro before rest modified d e htime hpending htimes hleaves
    refine ⟨publications_le_one htimes hleaves, ?_⟩
    intro hnone
    have hshows : d.keeper.ShowsSame e.keeper := showsSame_after hnone
    have htime' : e.fileTime? = some modified := (after_of_leavesAlone hleaves).1.trans htime
    have hpending' : e.keeper.lastSuccess < modified := by
      rw [hshows.lastSuccess]
      exact hpending
    refine ⟨⟨htime', hpending'⟩, ?_⟩
    intro action stack meanwhile later set hasked hstop hrunning hinterval hsettled hload
    have hreflects : d.keeper.Reflects (settings.configFile.getD "") settings.includes _ :=
      reflects_after hreflects before
    have hsame := load_of_leavesAlone stack hleaves set
    rw [hreflects.path_eq, hreflects.includes_eq] at hsame
    have hload' : (PolicyFile.load stack e.store e.keeper.settings.includes
        e.keeper.path).outcome = .ok set := by
      rw [hshows.settings, hshows.path, hreflects.includes_eq, hreflects.path_eq]
      exact hload
    obtain ⟨hpublishes, hpolicies⟩ := publishes_of_pending htime' hpending' hasked hstop
      hrunning hinterval hsettled hload'
    exact ⟨hpublishes, hpolicies, hsame.1 hload⟩
  · intro actions hstart htimes
    -- Nothing is pending at the start, so that every publication has its renewal.
    have hcount := publications_pending htimes
    have hnotPending : ¬ start.IsPending := by
      rintro ⟨modified, htime, hnewer⟩
      obtain ⟨_, _, hkeeper⟩ := Keeper.establish_eq_ok hmade
      have hsuccess : start.keeper.lastSuccess = now := by
        rw [show start.keeper = keeper from rfl, hkeeper]
      rw [hsuccess] at hnewer
      exact hnewer (hstart modified htime)
    rw [if_neg hnotPending] at hcount
    have hgeneration := (reflects_after hreflects actions).generation_eq
    rw [List.length_append, List.length_singleton] at hgeneration
    omega

/-! ## A change that waits for the settle window -/

def rewritingOnce : List (Action Binary64) :=
  [.advance 100, .write "p.xml" (some (PolicyFile.sampleDocument "/b")) none]

def waiting : List (Action Binary64) :=
  [.advance 3, .check none [] .endless, .command .stop, .command .start, .advance 20]

theorem published_once_waiting :
    ∃ keeper,
      (Keeper.establish .endless PolicyFile.sampleStore sampleSettings 1000).outcome = .ok keeper ∧
      let start : Deployment Binary64 := ⟨PolicyFile.sampleStore, 1000, keeper⟩
      let e := (start.after rewritingOnce).after waiting
      e.keeper.lastSuccess < 1100 ∧
        (∃ c, e.checkMade? (.turn false .endless) = some c ∧ c.outcome = .ok true) ∧
        (e.act (.turn false .endless)).deployment.keeper.published.names = ["/b"] ∧
        (start.after (rewritingOnce ++ waiting)).keeper.generation ≤ 2 := by
  obtain ⟨keeper, hmade, htime, hpending, htimes, hleaves, hnone, hready, ⟨set, hload, hnames⟩,
      hold, hfinite, hcount⟩ :
      ∃ keeper,
        (Keeper.establish .endless PolicyFile.sampleStore sampleSettings 1000).outcome =
          .ok keeper ∧
        let start : Deployment Binary64 := ⟨PolicyFile.sampleStore, 1000, keeper⟩
        let d := start.after rewritingOnce
        let e := d.after waiting
        d.fileTime? = some 1100 ∧ d.keeper.lastSuccess < 1100 ∧
          d.Throughout TimesAreFinite waiting ∧
          d.Throughout (LeavesAlone d.filesRead) waiting ∧
          (d.publications waiting).length = 0 ∧
          ((e.keeper.reloading = true ∧ e.clock = 1123) ∧ e.keeper.running = true ∧
            e.keeper.lastAttempt + e.keeper.settings.reloadInterval < 1123 ∧
            (1100 : Binary64) + Keeper.settleWindow < 1123) ∧
          (∃ set, (PolicyFile.load .endless e.store true "p.xml").outcome = .ok set ∧
            set.names = ["/b"]) ∧
          (start.fileTime? = some 900 ∧ (900 : Binary64) ≤ 1000) ∧
          start.Throughout TimesAreFinite (rewritingOnce ++ waiting) ∧
          start.renewals (rewritingOnce ++ waiting) = 1 := by
    decide +kernel
  obtain ⟨hrest, hrun⟩ := published_once hmade
  obtain ⟨-, hstays⟩ := hrest rewritingOnce waiting 1100 htime hpending htimes hleaves
  obtain ⟨⟨-, hstill⟩, hnext⟩ := hstays (List.eq_nil_of_length_eq_zero hnone)
  obtain ⟨⟨hreloading, hclock⟩, hrunning, hinterval, hsettled⟩ := hready
  have hasked : ((Deployment.mk PolicyFile.sampleStore 1000 keeper).after rewritingOnce |>.after
      waiting).checkAsked? (.turn false .endless) = some (.endless, [], 1123) := by
    rw [checkAsked?, if_pos hreloading, if_neg Bool.false_ne_true, hclock]
  obtain ⟨hpublishes, hpolicies, -⟩ :=
    hnext (.turn false .endless) .endless [] 1123 set hasked (by simp) hrunning hinterval hsettled
      hload
  refine ⟨keeper, hmade, hstill, hpublishes, ?_, ?_⟩
  · rw [← hnames, PolicySet.names, PolicySet.names, hpolicies]
  · have hstart : ∀ modified ∈ (⟨PolicyFile.sampleStore, 1000, keeper⟩ : Deployment _).fileTime?,
        modified ≤ 1000 := by
      intro modified hmodified
      obtain rfl := Option.some.inj (hold.1.symm.trans hmodified)
      exact hold.2
    have hgeneration := hrun (rewritingOnce ++ waiting) hstart hfinite
    rw [hcount] at hgeneration
    exact hgeneration

end Deployment

end PolicyKeeper
