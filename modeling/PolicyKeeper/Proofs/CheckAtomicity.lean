import PolicyKeeper.Proofs.CheckCourses
import PolicyKeeper.Proofs.LoadOutcomes
import PolicyKeeper.Proofs.TimeOrder

/-!
# All or nothing

A check that nobody stops publishes exactly when the keeper is running, its
interval does not hold it up, its file is due and loads.  It then changes the
published set, the generation, the time of the last success and the mark of a
failure together; a check that does not publish changes none of them but the
mark.  A fault that is not expected leaves nothing behind but the time of the
attempt, so that the next check is made as usual.  An interval that is no number
is never over, and yet holds nothing up.
-/

namespace PolicyKeeper

namespace Keeper

section

variable {τ : Type}

/-- What a check that publishes a set makes of a keeper. -/
structure RenewedBy (k : Keeper τ) (set : PolicySet) (now : τ) (k' : Keeper τ) : Prop where
  path : k'.path = k.path
  settings : k'.settings = k.settings
  published : k'.published = set.withGeneration ((k.generation + 1 : Nat) : Int)
  generation : k'.generation = k.generation + 1
  lastAttempt : k'.lastAttempt = now
  lastSuccess : k'.lastSuccess = now
  lastAttemptFailed : k'.lastAttemptFailed = false
  running : k'.running = k.running

/-- The keeper differs in the time of its last attempt only, and in its
background round if it was told to start meanwhile. -/
def OnlyAttempted (k : Keeper τ) (meanwhile : List Command) (now : τ) (k' : Keeper τ) : Prop :=
  ∃ reloading, k' = { k with lastAttempt := now, reloading } ∧
    (meanwhile = [] → reloading = k.reloading)

variable {k : Keeper τ} {store : FileStore τ} {now : τ} {stack : CallStack}
  {meanwhile : List Command}

theorem OnlyAttempted.showsSame {k' : Keeper τ} (h : k.OnlyAttempted meanwhile now k') :
    k.ShowsSame k' := by
  obtain ⟨_, rfl, -⟩ := h
  exact ⟨rfl, rfl, rfl, rfl, rfl⟩

theorem OnlyAttempted.running {k' : Keeper τ} (h : k.OnlyAttempted meanwhile now k') :
    k'.running = k.running := by
  obtain ⟨_, rfl, -⟩ := h
  rfl

theorem OnlyAttempted.lastAttemptFailed {k' : Keeper τ} (h : k.OnlyAttempted meanwhile now k')
    (hfailed : k.lastAttemptFailed = true) : k'.lastAttemptFailed = true := by
  obtain ⟨_, rfl, -⟩ := h
  exact hfailed

/-- The keeper shows the same as before and runs or not as before, and a failure
stays marked. -/
structure Keeps (k k' : Keeper τ) : Prop where
  shown : k.ShowsSame k'
  running : k'.running = k.running
  lastAttemptFailed : k.lastAttemptFailed = true → k'.lastAttemptFailed = true

theorem OnlyAttempted.keeps {k' : Keeper τ} (h : k.OnlyAttempted meanwhile now k') : k.Keeps k' :=
  ⟨h.showsSame, h.running, h.lastAttemptFailed⟩

theorem Keeps.settleFault {k' : Keeper τ} (h : k.Keeps k') (fault : CheckFault) :
    k.Keeps (k'.settleFault fault).1 := by
  constructor
  · exact h.shown.trans (settleFault_showsSame k' fault)
  · rw [settleFault_running, h.running]
  · intro hfailed
    exact settleFault_lastAttemptFailed fault (h.lastAttemptFailed hfailed)

theorem attempted_onlyAttempted : k.OnlyAttempted meanwhile now (k.attempted now) :=
  ⟨k.reloading, rfl, fun _ => rfl⟩

theorem between_onlyAttempted (hstop : Command.stop ∉ meanwhile) (hrunning : k.running = true) :
    k.OnlyAttempted meanwhile now (k.between meanwhile now) := by
  have hstill : (k.between meanwhile now).running = true := obeyAll_running hstop hrunning
  obtain ⟨running, reloading, heq⟩ := obeyAll_eq (k.attempted now) meanwhile
  have hbetween : k.between meanwhile now = { k.attempted now with running, reloading } := heq
  refine ⟨reloading, ?_, ?_⟩
  · rw [hbetween] at hstill ⊢
    obtain rfl : running = true := hstill
    rw [← hrunning]
    rfl
  · rintro rfl
    exact (congrArg Keeper.reloading hbetween).symm

variable [Add τ] [LE τ] [DecidableLE τ] [OfNat τ 5]

theorem checkWith_publishes_iff (hstop : Command.stop ∉ meanwhile) :
    (k.checkWith stack meanwhile store now).outcome = .ok true ↔
      (k.Opens now ∧ k.FileIsDue store now) ∧
        ∃ set, (PolicyFile.load stack store k.settings.includes k.path).outcome = .ok set := by
  constructor
  · intro hpublished
    cases checkWith_course stack meanwhile store now k with
    | gated _ _ _ houtcome => simp [houtcome] at hpublished
    | nothingNew _ _ _ _ houtcome => simp [houtcome] at hpublished
    | noTime _ _ _ houtcome =>
        rw [houtcome] at hpublished
        exact absurd hpublished (settleFault_ne_published _ _)
    | unloaded _ _ _ _ houtcome =>
        rw [houtcome] at hpublished
        exact absurd hpublished (settleFault_ne_published _ _)
    | stopped _ _ _ _ _ houtcome => simp [houtcome] at hpublished
    | published hopen hdue hload => exact ⟨⟨hopen, hdue⟩, _, hload⟩
  · rintro ⟨⟨hopen, hdue⟩, set, hset⟩
    cases checkWith_course stack meanwhile store now k with
    | gated hclosed => exact absurd hopen hclosed
    | nothingNew _ hnotDue => exact absurd hdue hnotDue
    | noTime _ htime =>
        obtain ⟨modified, hmodified, -⟩ := hdue
        simp [hmodified] at htime
    | unloaded _ _ hload => simp [hset] at hload
    | stopped _ _ _ hrunning =>
        have hstill := obeyAll_running (k := k.attempted now) hstop hopen.1
        simp [between, hstill] at hrunning
    | published _ _ _ _ _ houtcome => exact houtcome

theorem checkWith_renewedBy {set : PolicySet} (hstop : Command.stop ∉ meanwhile)
    (hpublished : (k.checkWith stack meanwhile store now).outcome = .ok true)
    (hload : (PolicyFile.load stack store k.settings.includes k.path).outcome = .ok set) :
    k.RenewedBy set now (k.checkWith stack meanwhile store now).keeper := by
  cases checkWith_course stack meanwhile store now k with
  | gated _ _ _ houtcome => simp [houtcome] at hpublished
  | nothingNew _ _ _ _ houtcome => simp [houtcome] at hpublished
  | noTime _ _ _ houtcome =>
      rw [houtcome] at hpublished
      exact absurd hpublished (settleFault_ne_published _ _)
  | unloaded _ _ _ _ houtcome =>
      rw [houtcome] at hpublished
      exact absurd hpublished (settleFault_ne_published _ _)
  | stopped _ _ _ _ _ houtcome => simp [houtcome] at hpublished
  | published hopen _ hload' _ hkeeper =>
      obtain rfl : _ = set := Except.ok.inj (hload'.symm.trans hload)
      have hbetween : k.OnlyAttempted meanwhile now _ := between_onlyAttempted hstop hopen.1
      obtain ⟨reloading, heq, -⟩ := hbetween
      rw [hkeeper, heq]
      exact ⟨rfl, rfl, rfl, rfl, rfl, rfl, rfl, rfl⟩

theorem checkWith_keeps (hstop : Command.stop ∉ meanwhile)
    (hnot : (k.checkWith stack meanwhile store now).outcome ≠ .ok true) :
    k.Keeps (k.checkWith stack meanwhile store now).keeper := by
  have hattempted : k.OnlyAttempted meanwhile now (k.attempted now) := attempted_onlyAttempted
  cases checkWith_course stack meanwhile store now k with
  | gated _ hkeeper =>
      rw [hkeeper]
      exact ⟨.refl k, rfl, id⟩
  | nothingNew _ _ _ hkeeper =>
      rw [hkeeper]
      exact hattempted.keeps
  | noTime _ _ hkeeper =>
      rw [hkeeper]
      exact hattempted.keeps.settleFault _
  | unloaded hopen _ _ hkeeper =>
      have hbetween : k.OnlyAttempted meanwhile now _ := between_onlyAttempted hstop hopen.1
      rw [hkeeper]
      exact hbetween.keeps.settleFault _
  | stopped hopen _ _ _ hkeeper =>
      have hbetween : k.OnlyAttempted meanwhile now _ := between_onlyAttempted hstop hopen.1
      rw [hkeeper]
      exact hbetween.keeps
  | published _ _ _ _ _ houtcome => exact absurd houtcome hnot

theorem checkWith_interrupted {fault : CheckFault} (hstop : Command.stop ∉ meanwhile)
    (hfault : (k.checkWith stack meanwhile store now).outcome = .error fault) :
    k.OnlyAttempted meanwhile now (k.checkWith stack meanwhile store now).keeper := by
  cases checkWith_course stack meanwhile store now k with
  | gated _ _ _ houtcome => simp [houtcome] at hfault
  | nothingNew _ _ _ _ houtcome => simp [houtcome] at hfault
  | noTime _ _ hkeeper houtcome =>
      rw [houtcome] at hfault
      rw [hkeeper, (settleFault_eq_error hfault).1]
      exact attempted_onlyAttempted
  | unloaded hopen _ _ hkeeper houtcome =>
      rw [houtcome] at hfault
      rw [hkeeper, (settleFault_eq_error hfault).1]
      exact between_onlyAttempted hstop hopen.1
  | stopped _ _ _ _ _ houtcome => simp [houtcome] at hfault
  | published _ _ _ _ _ houtcome => simp [houtcome] at hfault

end

/-! ## In the words of the order of times -/

structure HasFiniteTimes (k : Keeper Binary64) : Prop where
  lastAttempt : k.lastAttempt.IsFinite
  lastSuccess : k.lastSuccess.IsFinite

/-- The interval since the last attempt is over, or it is no number: the gate asks
whether it still lasts, and such an interval does not. -/
def IntervalPassed (k : Keeper Binary64) (now : Binary64) : Prop :=
  k.settings.reloadInterval ≠ .notANumber → k.lastAttempt + k.settings.reloadInterval < now

structure Ready (k : Keeper Binary64) (store : FileStore Binary64) (now : Binary64) : Prop where
  running : k.running = true
  interval : k.IntervalPassed now
  file : ∃ modified, store.modified? k.path = .ok (some modified) ∧
    k.lastSuccess < modified ∧ modified + settleWindow < now

def HasFiniteFileTime (k : Keeper Binary64) (store : FileStore Binary64) : Prop :=
  ∀ modified, store.modified? k.path = .ok (some modified) → modified.IsFinite

variable {k : Keeper Binary64} {store : FileStore Binary64} {now : Binary64}
  {stack : CallStack} {meanwhile : List Command}

theorem opens_iff (hnow : now.IsFinite) (htimes : k.HasFiniteTimes) :
    k.Opens now ↔ k.running = true ∧ k.IntervalPassed now := by
  refine and_congr_right fun _ => ?_
  unfold IntervalPassed
  by_cases hnan : k.settings.reloadInterval = .notANumber
  · rw [hnan, Binary64.add_notANumber]
    simp [Binary64.not_le_notANumber]
  · have hsum := Binary64.add_ne_notANumber htimes.lastAttempt hnan
    rw [Binary64.not_le_iff_lt hnow.ne_notANumber hsum]
    simp [hnan]

theorem fileIsDue_iff (hnow : now.IsFinite) (htimes : k.HasFiniteTimes)
    (hfile : k.HasFiniteFileTime store) :
    k.FileIsDue store now ↔
      ∃ modified, store.modified? k.path = .ok (some modified) ∧
        k.lastSuccess < modified ∧ modified + settleWindow < now := by
  refine exists_congr fun modified => and_congr_right fun hread => ?_
  have hfinite := hfile modified hread
  have hsum := Binary64.add_ne_notANumber hfinite (show (5 : Binary64) ≠ .notANumber by decide)
  rw [Binary64.not_le_iff_lt hfinite.ne_notANumber htimes.lastSuccess.ne_notANumber,
    settleWindow, Binary64.not_le_iff_lt hnow.ne_notANumber hsum]

theorem checkWith_publishes_iff_ready (hstop : Command.stop ∉ meanwhile) (hnow : now.IsFinite)
    (htimes : k.HasFiniteTimes) (hfile : k.HasFiniteFileTime store) :
    (k.checkWith stack meanwhile store now).outcome = .ok true ↔
      k.Ready store now ∧
        ∃ set, (PolicyFile.load stack store k.settings.includes k.path).outcome = .ok set := by
  rw [checkWith_publishes_iff hstop, opens_iff hnow htimes, fileIsDue_iff hnow htimes hfile]
  constructor
  · rintro ⟨⟨⟨hrunning, hinterval⟩, hmodified⟩, hload⟩
    exact ⟨⟨hrunning, hinterval, hmodified⟩, hload⟩
  · rintro ⟨⟨hrunning, hinterval, hmodified⟩, hload⟩
    exact ⟨⟨⟨hrunning, hinterval⟩, hmodified⟩, hload⟩

/-- A check that nobody stops publishes if and only if it is ready and the file
loads, and whatever else it comes to, it leaves what is published alone. -/
theorem checkWith_all_or_nothing (hstop : Command.stop ∉ meanwhile) (hnow : now.IsFinite)
    (htimes : k.HasFiniteTimes) (hfile : k.HasFiniteFileTime store) :
    let c := k.checkWith stack meanwhile store now
    let load := (PolicyFile.load stack store k.settings.includes k.path).outcome
    (c.outcome = .ok true ↔ k.Ready store now ∧ ∃ set, load = .ok set) ∧
      (c.outcome = .ok true → ∃ set, load = .ok set ∧ k.RenewedBy set now c.keeper) ∧
      (c.outcome ≠ .ok true → k.Keeps c.keeper) ∧
      (¬ (k.running = true ∧ k.IntervalPassed now) →
        c.keeper = k ∧ c.notices = [] ∧ c.outcome = .ok false) ∧
      ∀ fault, c.outcome = .error fault →
        k.OnlyAttempted meanwhile now c.keeper ∧
        ∀ stack' later store' meanwhile', later.IsFinite → c.keeper.HasFiniteFileTime store' →
          Command.stop ∉ meanwhile' →
          ((c.keeper.checkWith stack' meanwhile' store' later).outcome = .ok true ↔
            c.keeper.Ready store' later ∧
              ∃ set,
                (PolicyFile.load stack' store' k.settings.includes k.path).outcome = .ok set) := by
  intro c load
  have hpublishes : c.outcome = .ok true ↔ k.Ready store now ∧ ∃ set, load = .ok set :=
    checkWith_publishes_iff_ready hstop hnow htimes hfile
  refine ⟨hpublishes, ?_, checkWith_keeps hstop, ?_, ?_⟩
  · intro hpublished
    obtain ⟨-, set, hload⟩ := hpublishes.1 hpublished
    exact ⟨set, hload, checkWith_renewedBy hstop hpublished hload⟩
  · intro hclosed
    rw [← opens_iff hnow htimes, Opens, ← gate?_eq_none_iff] at hclosed
    have hgated : c = _ := checkWith_of_gated hclosed
    rw [hgated]
    exact ⟨rfl, rfl, rfl⟩
  · intro fault hfault
    have hattempted : k.OnlyAttempted meanwhile now c.keeper := checkWith_interrupted hstop hfault
    refine ⟨hattempted, ?_⟩
    intro stack' later store' meanwhile' hlater hfile' hstop'
    have hsame := hattempted.showsSame
    have htimes' : c.keeper.HasFiniteTimes := by
      obtain ⟨reloading, heq, -⟩ := hattempted
      rw [heq]
      exact ⟨hnow, htimes.lastSuccess⟩
    have hnext : (c.keeper.checkWith stack' meanwhile' store' later).outcome = .ok true ↔ _ :=
      checkWith_publishes_iff_ready hstop' hlater htimes' hfile'
    rw [hsame.settings, hsame.path] at hnext
    exact hnext

/-! ## An interval that is no number -/

def unmeasuredSettings : Settings Binary64 :=
  { Settings.standard with configFile := some "p.xml", reloadInterval := .notANumber }

/-- Not every check that publishes is made later than the interval after the last
attempt. -/
theorem not_publishes_iff_interval_over :
    ¬ ∀ (store : FileStore Binary64) (settings : Settings Binary64) (made : Binary64)
        (k : Keeper Binary64), (establish .endless store settings made).outcome = .ok k →
        ∀ (files : FileStore Binary64) (now : Binary64),
          now.IsFinite → k.HasFiniteTimes → k.HasFiniteFileTime files →
          ((k.checkWith .endless [] files now).outcome = .ok true ↔
            (k.running = true ∧ k.lastAttempt + k.settings.reloadInterval < now ∧
              ∃ modified, files.modified? k.path = .ok (some modified) ∧
                k.lastSuccess < modified ∧ modified + settleWindow < now) ∧
            ∃ set,
              (PolicyFile.load .endless files k.settings.includes k.path).outcome = .ok set) := by
  intro hall
  obtain ⟨keeper, hmade, hpublished, hpath, hsuccess, hattempt, hinterval⟩ :
      ∃ keeper,
        (establish .endless PolicyFile.sampleStore unmeasuredSettings 800).outcome = .ok keeper ∧
        (keeper.checkWith .endless [] PolicyFile.sampleStore 1000).outcome = .ok true ∧
        keeper.path = "p.xml" ∧ keeper.lastSuccess = 800 ∧ keeper.lastAttempt = 800 ∧
        keeper.settings.reloadInterval = .notANumber := by
    decide +kernel
  have hnow : (1000 : Binary64).IsFinite := by decide +kernel
  have hmade800 : (800 : Binary64).IsFinite := by decide +kernel
  have hfile : keeper.HasFiniteFileTime PolicyFile.sampleStore := by
    intro modified hread
    have hmodified : PolicyFile.sampleStore.modified? "p.xml" = .ok (some 900) := by
      decide +kernel
    rw [hpath, hmodified] at hread
    obtain rfl := Option.some.inj (Except.ok.inj hread)
    decide +kernel
  have htimes : keeper.HasFiniteTimes := ⟨hattempt ▸ hmade800, hsuccess ▸ hmade800⟩
  obtain ⟨⟨-, hover, -⟩, -⟩ := (hall _ _ _ _ hmade _ _ hnow htimes hfile).1 hpublished
  rw [hattempt, hinterval] at hover
  exact absurd hover (by decide +kernel)

def sampleKeeper : Keeper Binary64 :=
  { path := "p.xml", settings := Settings.standard
    published := (PolicySet.empty "p.xml").withGeneration 1, generation := 1
    lastAttempt := 800, lastSuccess := 800, lastAttemptFailed := true, running := true
    reloading := false }

theorem checkWith_all_or_nothing_of_sample :
    let c := sampleKeeper.checkWith .endless [.start] PolicyFile.sampleStore 1000
    c.outcome = .ok true ∧ c.keeper.generation = 2 ∧ c.keeper.lastSuccess = 1000 := by
  have hmodified : PolicyFile.sampleStore.modified? sampleKeeper.path = .ok (some 900) := by
    decide +kernel
  have hfile : sampleKeeper.HasFiniteFileTime PolicyFile.sampleStore := by
    intro modified hread
    rw [hmodified] at hread
    obtain rfl := Option.some.inj (Except.ok.inj hread)
    decide +kernel
  have hready : sampleKeeper.Ready PolicyFile.sampleStore 1000 :=
    ⟨rfl, fun _ => by decide +kernel, 900, hmodified, by decide +kernel⟩
  obtain ⟨set, hload, -⟩ := PolicyFile.sampleStore_loads
  obtain ⟨hpublishes, hrenewed, -⟩ :=
    checkWith_all_or_nothing (k := sampleKeeper) (show Command.stop ∉ [.start] by decide)
      (show (1000 : Binary64).IsFinite by decide +kernel)
      ⟨by decide +kernel, by decide +kernel⟩ hfile
  have houtcome := hpublishes.2 ⟨hready, set, hload⟩
  obtain ⟨set, -, hkeeper⟩ := hrenewed houtcome
  exact ⟨houtcome, hkeeper.generation, hkeeper.lastSuccess⟩

end Keeper

end PolicyKeeper
