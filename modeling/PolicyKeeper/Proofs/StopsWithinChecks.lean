import PolicyKeeper.Proofs.StoppedKeepers

/-!
# Stops within a check

A check has two sections that nobody else comes into, the gate and the one in
which it settles what it found.  Between them it examines the file, and commands
may be obeyed at any point.  Wherever they come, the check ends as if they had
all come after the load, and since the last section asks only whether the keeper
is running then, the last command alone decides.  So a stop keeps the check from
publishing unless a start comes after it.
-/

namespace PolicyKeeper

variable {τ : Type}

/-! ## A check in pieces -/

/-- How far a check has got that went through the gate. -/
inductive Stage
  | passed
  | examined (finding : Finding)
  | ended (outcome : Except CheckFault Bool)

namespace Stage

def isExamined : Stage → Bool
  | .examined _ => true
  | .passed | .ended _ => false

def outcome? : Stage → Option (Except CheckFault Bool)
  | .ended outcome => some outcome
  | .passed | .examined _ => none

end Stage

inductive Move
  | proceeds
  | told (command : Command)

def Move.command? : Move → Option Command
  | .told command => some command
  | .proceeds => none

def commandsIn (moves : List Move) : List Command := moves.filterMap Move.command?

structure Scene (τ : Type) where
  keeper : Keeper τ
  /-- The time of the last success, as it was at the gate. -/
  seen : τ
  stage : Stage

namespace Scene

variable [Add τ] [LE τ] [DecidableLE τ] [OfNat τ 5]

def proceed (stack : CallStack) (store : FileStore τ) (now : τ) (s : Scene τ) : Scene τ :=
  match s.stage with
  | .passed =>
      let (finding, _) := { s.keeper with lastSuccess := s.seen }.examine stack store now
      { s with stage := .examined finding }
  | .examined finding =>
      let (keeper, _, outcome) := s.keeper.settle now finding
      { s with keeper, stage := .ended outcome }
  | .ended _ => s

def move (stack : CallStack) (store : FileStore τ) (now : τ) (s : Scene τ) : Move → Scene τ
  | .proceeds => s.proceed stack store now
  | .told command => { s with keeper := (s.keeper.obey command).1 }

def after (stack : CallStack) (store : FileStore τ) (now : τ) (s : Scene τ) :
    List Move → Scene τ
  | [] => s
  | m :: rest => (s.move stack store now m).after stack store now rest

end Scene

namespace Keeper

/-- A check that has just gone through the gate. -/
def enter? [Add τ] [LE τ] [DecidableLE τ] (now : τ) (k : Keeper τ) : Option (Scene τ) :=
  (k.gate? now).map fun attempting => ⟨attempting, attempting.lastSuccess, .passed⟩

variable {k : Keeper τ}

/-! ## The last command -/

theorem obey_running (command : Command) :
    (k.obey command).1.running = decide (command = .start) := by
  cases command with
  | stop => rfl
  | start =>
      unfold obey start
      simp only
      split
      · rfl
      · split <;> rfl

/-- Of several commands the last decides whether the keeper is running. -/
theorem obeyAll_running_iff {commands : List Command} (htold : commands ≠ []) :
    (k.obeyAll commands).1.running = true ↔ commands.getLast? = some .start := by
  obtain ⟨front, last, rfl⟩ := (List.eq_nil_or_concat' commands).resolve_left htold
  have hlast : (k.obeyAll (front ++ [last])).1 = ((k.obeyAll front).1.obey last).1 :=
    obeyAll_append k front [last]
  rw [hlast, obey_running, List.getLast?_concat]
  simp

theorem settleFault_outcome (k k' : Keeper τ) (fault : CheckFault) :
    (k.settleFault fault).2.2 = (k'.settleFault fault).2.2 := by
  unfold settleFault
  split <;> rfl

variable [Add τ] [LE τ] [DecidableLE τ] {now : τ}

theorem enter?_eq_some_iff {entered : Scene τ} :
    k.enter? now = some entered ↔
      k.Opens now ∧ entered = ⟨k.attempted now, k.lastSuccess, .passed⟩ := by
  unfold enter? Opens
  simp only [Option.map_eq_some_iff, gate?_eq_some_iff]
  constructor
  · rintro ⟨attempting, ⟨hrunning, hinterval, rfl⟩, rfl⟩
    exact ⟨⟨hrunning, hinterval⟩, rfl⟩
  · rintro ⟨⟨hrunning, hinterval⟩, rfl⟩
    exact ⟨_, ⟨hrunning, hinterval, rfl⟩, rfl⟩

variable [OfNat τ 5] {commands : List Command} {store : FileStore τ}

/-- Commands change nothing that the examination of the file asks for. -/
theorem examine_between (stack : CallStack) (commands : List Command) (store : FileStore τ)
    (now : τ) (k : Keeper τ) :
    { k.between commands now with lastSuccess := k.lastSuccess }.examine stack store now =
      (k.attempted now).examine stack store now := by
  obtain ⟨_, _, heq⟩ := obeyAll_eq (k.attempted now) commands
  have hbetween : k.between commands now = _ := heq
  rw [hbetween]
  rfl

theorem checkWith_published_iff (stack : CallStack) (commands : List Command)
    (store : FileStore τ) (now : τ) (k : Keeper τ) :
    (k.checkWith stack commands store now).outcome = .ok true ↔
      k.Opens now ∧ k.FileIsDue store now ∧
        (∃ set, (PolicyFile.load stack store k.settings.includes k.path).outcome = .ok set) ∧
        (k.between commands now).running = true := by
  cases checkWith_course stack commands store now k with
  | gated hclosed _ _ houtcome => simp [houtcome, hclosed]
  | nothingNew _ hdue _ _ houtcome => simp [houtcome, hdue]
  | noTime _ htime _ houtcome =>
      rw [houtcome]
      simp [FileIsDue, htime, settleFault_ne_published]
  | unloaded _ _ hload _ houtcome =>
      rw [houtcome]
      simp [hload, settleFault_ne_published]
  | stopped _ _ _ hrunning _ houtcome => simp [houtcome, hrunning]
  | published hopen hdue hload hrunning _ houtcome =>
      simp [houtcome, hopen, hdue, hload, hrunning]

end Keeper

/-! ## Every order of the moves -/

namespace Scene

variable [Add τ] [LE τ] [DecidableLE τ] [OfNat τ 5] {stack : CallStack} {store : FileStore τ}
  {now : τ} {k : Keeper τ} {commands : List Command} {s : Scene τ}

/-- A check of a keeper that has yet to settle what it finds, after some
commands. -/
structure IsOnItsWay (stack : CallStack) (store : FileStore τ) (now : τ) (k : Keeper τ)
    (commands : List Command) (s : Scene τ) : Prop where
  keeper : s.keeper = k.between commands now
  seen : s.seen = k.lastSuccess
  stage : s.stage = .passed ∨ s.stage = .examined ((k.attempted now).examine stack store now).1

theorem IsOnItsWay.told (h : IsOnItsWay stack store now k commands s) (command : Command) :
    IsOnItsWay stack store now k (commands ++ [command])
      (s.move stack store now (.told command)) := by
  refine ⟨?_, h.seen, h.stage⟩
  have hlast : k.between (commands ++ [command]) now =
      ((k.between commands now).obey command).1 :=
    Keeper.obeyAll_append (k.attempted now) commands [command]
  rw [hlast, ← h.keeper]
  rfl

theorem IsOnItsWay.examines (h : IsOnItsWay stack store now k commands s)
    (hpassed : s.stage = .passed) :
    IsOnItsWay stack store now k commands (s.move stack store now .proceeds) := by
  have hproceeds : s.move stack store now .proceeds =
      { s with stage := .examined ((k.attempted now).examine stack store now).1 } := by
    unfold move proceed
    rw [hpassed]
    simp only [h.keeper, h.seen, Keeper.examine_between]
  rw [hproceeds]
  exact ⟨h.keeper, h.seen, .inr rfl⟩

theorem after_of_ended {outcome : Except CheckFault Bool} (hended : s.stage = .ended outcome)
    (stack : CallStack) (store : FileStore τ) (now : τ) (moves : List Move) :
    (s.after stack store now moves).stage = .ended outcome := by
  induction moves generalizing s with
  | nil => exact hended
  | cons m rest ih =>
      apply ih
      cases m with
      | told command => exact hended
      | proceeds =>
          unfold move proceed
          rw [hended]
          exact hended

/-- A check that has yet to settle has gone through nothing but the commands. -/
theorem IsOnItsWay.after {moves : List Move} (h : IsOnItsWay stack store now k commands s)
    (hexamined : (s.after stack store now moves).stage.isExamined = true) :
    IsOnItsWay stack store now k (commands ++ commandsIn moves)
      (s.after stack store now moves) := by
  induction moves generalizing s commands with
  | nil =>
      rw [commandsIn, List.filterMap_nil, List.append_nil]
      exact h
  | cons m rest ih =>
      cases m with
      | told command =>
          have hrest := ih (h.told command) hexamined
          rw [List.append_assoc] at hrest
          exact hrest
      | proceeds =>
          rcases h.stage with hpassed | hfound
          · exact ih (h.examines hpassed) hexamined
          · obtain ⟨outcome, hended⟩ : ∃ outcome,
                (s.move stack store now .proceeds).stage = .ended outcome := by
              unfold move proceed
              rw [hfound]
              exact ⟨_, rfl⟩
            have hstays := after_of_ended hended stack store now rest
            rw [after, hstays] at hexamined
            cases hexamined

/-- The check ends as if the commands had all come after the load. -/
theorem IsOnItsWay.proceed (h : IsOnItsWay stack store now k commands s)
    (hexamined : s.stage.isExamined = true) (hopen : k.Opens now) :
    let closing := s.proceed stack store now
    let c := k.checkWith stack commands store now
    closing.stage.outcome? = some c.outcome ∧
      (c.outcome ≠ .ok true → k.ShowsSame closing.keeper) ∧
      (c.outcome = .ok true → closing.keeper = c.keeper) := by
  intro closing c
  have hfound : s.stage = .examined ((k.attempted now).examine stack store now).1 := by
    rcases h.stage with hpassed | hfound
    · simp [hpassed, Stage.isExamined] at hexamined
    · exact hfound
  have hclosing : closing =
      let settled :=
        (k.between commands now).settle now ((k.attempted now).examine stack store now).1
      { s with keeper := settled.1, stage := .ended settled.2.2 } := by
    simp only [closing, Scene.proceed, hfound, h.keeper]
  have hsame := Keeper.between_showsSame commands now k
  have hgate : k.gate? now = some (k.attempted now) :=
    Keeper.gate?_eq_some_iff.2 ⟨hopen.1, hopen.2, rfl⟩
  by_cases hdue : (k.attempted now).FileIsDue store now
  · have hc : k.checkWith stack commands store now = _ := Keeper.checkWith_of_due hgate hdue
    rw [Keeper.examine_of_due hdue] at hclosing
    have houtcome : closing.stage.outcome? = some c.outcome := by
      rw [hclosing]
      simp only [c, hc]
      rfl
    have hkeeper : closing.keeper = c.keeper := by
      rw [hclosing]
      simp only [c, hc]
      rfl
    refine ⟨houtcome, ?_, fun _ => hkeeper⟩
    intro hnot
    rw [hkeeper]
    rcases Keeper.checkWith_shows stack commands store now k with
      ⟨-, hshows⟩ | ⟨_, _, hpublished, -⟩
    · exact hshows
    · exact absurd hpublished hnot
  · rcases Keeper.examine_of_not_due stack hdue with ⟨hexamine, -⟩ | ⟨fault, hexamine, -⟩
    · have houtcome : c.outcome = .ok false := by
        simp only [c, Keeper.checkWith_of_nothingNew hgate hexamine]
      rw [houtcome, hclosing, hexamine]
      exact ⟨rfl, fun _ => hsame, by simp⟩
    · have houtcome : c.outcome = ((k.attempted now).settleFault (.file fault)).2.2 := by
        simp only [c, Keeper.checkWith_of_noTime hgate hexamine]
      rw [houtcome, Keeper.settleFault_outcome _ (k.between commands now), hclosing, hexamine]
      exact ⟨rfl, fun _ => hsame.trans (Keeper.settleFault_showsSame _ _),
        fun hpublished => absurd hpublished (Keeper.settleFault_ne_published _ _)⟩

end Scene

namespace Deployment

variable [Add τ] [LE τ] [DecidableLE τ] [OfNat τ 5]

/-- Whatever a check is told between its two sections, what is shown stays as it
was.  If it is told to stop, it publishes exactly when the file is due and loads
and a start is the last that it is told; it hands a fault on exactly when the
file is due and its load meets one that nobody expects. -/
theorem stop_within_check {made : CallStack} {store : FileStore τ} {settings : Settings τ}
    {now : τ} {keeper : Keeper τ}
    (hmade : (Keeper.establish made store settings now).outcome = .ok keeper)
    (before : List (Action τ)) {stack : CallStack} {later : τ} {entered : Scene τ}
    (hentered : ((⟨store, now, keeper⟩ : Deployment τ).after before).keeper.enter? later =
      some entered)
    {during : List Move} :
    let d := (⟨store, now, keeper⟩ : Deployment τ).after before
    let reached := entered.after stack d.store later during
    let path := settings.configFile.getD ""
    reached.stage.isExamined = true → Command.stop ∈ commandsIn during →
    let closing := reached.proceed stack d.store later
    d.keeper.ShowsSame reached.keeper ∧
      ∃ outcome, closing.stage.outcome? = some outcome ∧
        (outcome = .ok true ↔
          d.keeper.FileIsDue d.store later ∧
            (∃ set, (PolicyFile.load stack d.store settings.includes path).outcome = .ok set) ∧
            (commandsIn during).getLast? = some .start) ∧
        ((∃ fault, outcome = .error fault) ↔
          d.keeper.FileIsDue d.store later ∧
            ∃ fault, (PolicyFile.load stack d.store settings.includes path).outcome =
                .error fault ∧ fault.isExpected = false) ∧
        (outcome ≠ .ok true → d.keeper.ShowsSame closing.keeper) ∧
        (outcome = .ok true →
          ∃ set, (PolicyFile.load stack d.store settings.includes path).outcome = .ok set ∧
            closing.keeper.published = set.withGeneration (d.keeper.generation + 1)) := by
  intro d reached path hexamined hstop closing
  obtain ⟨hopen, rfl⟩ := Keeper.enter?_eq_some_iff.1 hentered
  have hreflects : d.keeper.Reflects path settings.includes _ :=
    reflects_after (Keeper.reflects_of_establish hmade) before
  have hentry : Scene.IsOnItsWay stack d.store later d.keeper []
      ⟨d.keeper.attempted later, d.keeper.lastSuccess, .passed⟩ := ⟨rfl, rfl, .inl rfl⟩
  have hway : Scene.IsOnItsWay stack d.store later d.keeper (commandsIn during) reached :=
    hentry.after hexamined
  obtain ⟨houtcome, hkept, hnew⟩ := hway.proceed hexamined hopen
  have htold : commandsIn during ≠ [] := List.ne_nil_of_mem hstop
  have hlast : (d.keeper.between (commandsIn during) later).running = true ↔
      (commandsIn during).getLast? = some .start := Keeper.obeyAll_running_iff htold
  have hpublished :=
    Keeper.checkWith_published_iff stack (commandsIn during) d.store later d.keeper
  rw [hreflects.includes_eq, hreflects.path_eq, hlast, and_iff_right hopen] at hpublished
  have hinterrupted : (∃ fault,
      (d.keeper.checkWith stack (commandsIn during) d.store later).outcome = .error fault) ↔ _ :=
    Keeper.checkWith_interrupted_iff hreflects.path_lacks_null
  rw [hreflects.includes_eq, hreflects.path_eq, and_iff_right hopen] at hinterrupted
  refine ⟨?_, _, houtcome, hpublished, hinterrupted, hkept, ?_⟩
  · rw [hway.keeper]
    exact Keeper.between_showsSame _ _ _
  · intro hpublishes
    rcases Keeper.checkWith_shows stack (commandsIn during) d.store later d.keeper with
      ⟨hnot, -⟩ | ⟨between, set, -, hsame, hload, hkeeper⟩
    · exact absurd hpublishes hnot
    · rw [hreflects.includes_eq, hreflects.path_eq] at hload
      refine ⟨set, hload, ?_⟩
      rw [hnew hpublishes, hkeeper, ← hsame.generation]
      rfl

/-! ## Stops that are taken back, that stand, and that come over a spoilt file -/

def restarting : List Move := [.proceeds, .told .stop, .told .start]

def halting : List Move := [.told .stop, .told .start, .proceeds, .told .stop]

def replacing : List (Action Binary64) :=
  [.write "p.xml" (some (PolicyFile.sampleDocument "/b")) (some 1100)]

theorem stop_within_check_replacing :
    ∃ keeper,
      (Keeper.establish .endless PolicyFile.sampleStore sampleSettings 1000).outcome =
        .ok keeper ∧
      let d := (⟨PolicyFile.sampleStore, 1000, keeper⟩ : Deployment Binary64).after replacing
      let spoilt :=
        (⟨PolicyFile.sampleStore, 1000, keeper⟩ : Deployment Binary64).after misdeclaring
      (∃ entered, d.keeper.enter? 1110 = some entered ∧
        let restarted :=
          (entered.after .endless d.store 1110 restarting).proceed .endless d.store 1110
        let halted := (entered.after .endless d.store 1110 halting).proceed .endless d.store 1110
        restarted.stage.outcome? = some (.ok true) ∧
          restarted.keeper.published.generation = 2 ∧
          halted.stage.outcome? = some (.ok false) ∧ d.keeper.ShowsSame halted.keeper) ∧
      ∃ entered, spoilt.keeper.enter? 1110 = some entered ∧
        let halted :=
          (entered.after .endless spoilt.store 1110 halting).proceed .endless spoilt.store 1110
        halted.stage.outcome? = some (.error (.load (.markup "p.xml" .severalOctets))) ∧
          ∃ fault, (PolicyFile.load .endless spoilt.store true "p.xml").outcome = .error fault ∧
            fault.isExpected = false := by
  obtain ⟨keeper, hmade, ⟨hopen, hgeneration, hrestarted, hhalted, hpublished, hunpublished⟩,
      hopen', hhalted', hinterrupted⟩ :
      ∃ keeper,
        (Keeper.establish .endless PolicyFile.sampleStore sampleSettings 1000).outcome =
          .ok keeper ∧
        let first : Deployment Binary64 := ⟨PolicyFile.sampleStore, 1000, keeper⟩
        let entered (d : Deployment Binary64) : Scene Binary64 :=
          ⟨d.keeper.attempted 1110, d.keeper.lastSuccess, .passed⟩
        (let d := first.after replacing
          let restarted := (entered d).after .endless d.store 1110 restarting
          let halted := (entered d).after .endless d.store 1110 halting
          d.keeper.Opens 1110 ∧ d.keeper.generation = 1 ∧
            restarted.stage.isExamined = true ∧ halted.stage.isExamined = true ∧
            (restarted.proceed .endless d.store 1110).stage.outcome? = some (.ok true) ∧
            (halted.proceed .endless d.store 1110).stage.outcome? = some (.ok false)) ∧
        let spoilt := first.after misdeclaring
        let halted := (entered spoilt).after .endless spoilt.store 1110 halting
        spoilt.keeper.Opens 1110 ∧ halted.stage.isExamined = true ∧
          (halted.proceed .endless spoilt.store 1110).stage.outcome? =
            some (.error (.load (.markup "p.xml" .severalOctets))) := by
    decide +kernel
  have hentered := Keeper.enter?_eq_some_iff.2 ⟨hopen, rfl⟩
  have hentered' := Keeper.enter?_eq_some_iff.2 ⟨hopen', rfl⟩
  obtain ⟨-, _, hended, -, -, -, hnew⟩ :=
    stop_within_check hmade replacing hentered hrestarted (by decide)
  obtain ⟨-, _, hstopped, -, -, hkept, -⟩ :=
    stop_within_check hmade replacing hentered hhalted (by decide)
  obtain ⟨-, _, hraised, -, hfaulty, -, -⟩ :=
    stop_within_check hmade misdeclaring hentered' hhalted' (by decide)
  obtain rfl := Option.some.inj (hended.symm.trans hpublished)
  obtain rfl := Option.some.inj (hstopped.symm.trans hunpublished)
  obtain rfl := Option.some.inj (hraised.symm.trans hinterrupted)
  refine ⟨keeper, hmade, ⟨_, hentered, hpublished, ?_, hunpublished, hkept (by simp)⟩,
    _, hentered', hinterrupted, (hfaulty.1 ⟨_, rfl⟩).2⟩
  obtain ⟨set, -, hset⟩ := hnew rfl
  rw [hset, hgeneration]
  rfl

end Deployment

end PolicyKeeper
