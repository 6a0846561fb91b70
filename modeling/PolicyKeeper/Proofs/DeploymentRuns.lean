import PolicyKeeper.Deployment
import PolicyKeeper.Proofs.CallStacks
import PolicyKeeper.Proofs.CheckCourses
import PolicyKeeper.Proofs.FileChanges

/-!
# Runs of a deployment

An action changes files or the clock, tells the keeper a command, or makes one
check, whoever asks for it; nothing else touches the keeper.  A run is followed
from state to state, and the checks that published are told by the files that
they found.
-/

namespace PolicyKeeper

variable {τ : Type}

def Request.asksForCheck (r : Request) : Bool :=
  let method := capitalized r.method
  method ≠ "OPTIONS" &&
    Route.ofRequest method (RequestTarget.ofText r.target).path = .endpoint .reload

def Checked.hasPublished (c : Checked τ) : Bool :=
  match c.outcome with
  | .ok published => published
  | .error _ => false

theorem Checked.hasPublished_iff {c : Checked τ} :
    c.hasPublished = true ↔ c.outcome = .ok true := by
  unfold Checked.hasPublished
  cases c.outcome <;> simp

variable [Add τ] [LE τ] [DecidableLE τ] [OfNat τ 5]

namespace Keeper

variable {stack : CallStack} {store : FileStore τ} {now : τ} {k : Keeper τ} {r : Request}

theorem turn?_of_idle (stack : CallStack) (stopping : Bool) (hidle : k.reloading = false) :
    k.turn? stack stopping store now = none := by
  unfold turn?
  rw [hidle]
  rfl

theorem turn?_of_reloading (stack : CallStack) (store : FileStore τ) (now : τ) (stopping : Bool)
    (hreloading : k.reloading = true) :
    ∃ t, k.turn? stack stopping store now = some t ∧
      t.keeper = (k.checkWith stack (if stopping then [.stop] else []) store now).keeper := by
  unfold turn?
  rw [hreloading]
  exact ⟨_, rfl, rfl⟩

theorem reply_keeper_of_asks (hasks : r.asksForCheck = true) :
    (k.reply stack store now r).keeper = (k.check stack store now).keeper := by
  simp only [Request.asksForCheck, ne_eq, Bool.and_eq_true, decide_eq_true_eq] at hasks
  unfold reply
  simp only [hasks.2, hasks.1, if_false, replyAt, replyToReload]
  split <;> rfl

theorem reply_keeper_of_not_asks (hasks : r.asksForCheck = false) :
    (k.reply stack store now r).keeper = k := by
  simp only [Request.asksForCheck, ne_eq, Bool.and_eq_false_imp, decide_eq_true_eq,
    decide_eq_false_iff_not] at hasks
  unfold reply
  simp only
  split
  next e hroute =>
    split
    next => rfl
    next hmethod =>
      cases e with
      | reload => exact absurd hroute (hasks hmethod)
      | health => rfl
      | policies => rfl
      | status => rfl
      | policy name => rfl
      | asset name => rfl
  next => rfl
  next => rfl
  next => rfl

end Keeper

namespace Deployment

/-! ## Checks of an action -/

/-- The stack, the commands and the time of the check that an action asks for. -/
def checkAsked? (d : Deployment τ) : Action τ → Option (CallStack × List Command × τ)
  | .check now meanwhile stack => some (stack, meanwhile, now.getD d.clock)
  | .turn stopping stack =>
      if d.keeper.reloading then some (stack, if stopping then [.stop] else [], d.clock) else none
  | .request r stack => if r.asksForCheck then some (stack, [], d.clock) else none
  | _ => none

/-- The check that an action makes, if it makes one. -/
def checkMade? (d : Deployment τ) : Action τ → Option (Checked τ)
  | .check now meanwhile stack =>
      some (d.keeper.checkWith stack meanwhile d.store (now.getD d.clock))
  | .turn stopping stack =>
      if d.keeper.reloading then
        some (d.keeper.checkWith stack (if stopping then [.stop] else []) d.store d.clock)
      else none
  | .request r stack =>
      if r.asksForCheck then some (d.keeper.check stack d.store d.clock) else none
  | _ => none

theorem checkMade?_eq (d : Deployment τ) (action : Action τ) :
    d.checkMade? action = (d.checkAsked? action).map fun (stack, meanwhile, now) =>
      d.keeper.checkWith stack meanwhile d.store now := by
  cases action with
  | check | write | remove | touch | setClock | advance | command => rfl
  | turn stopping stack =>
      simp only [checkMade?, checkAsked?]
      split <;> rfl
  | request r stack =>
      simp only [checkMade?, checkAsked?]
      split <;> rfl

theorem checkMade?_of_asked {d : Deployment τ} {action : Action τ} {stack : CallStack}
    {meanwhile : List Command} {now : τ}
    (hasked : d.checkAsked? action = some (stack, meanwhile, now)) :
    d.checkMade? action = some (d.keeper.checkWith stack meanwhile d.store now) := by
  rw [checkMade?_eq, hasked]
  rfl

theorem asked_of_checkMade? {d : Deployment τ} {action : Action τ} {c : Checked τ}
    (hmade : d.checkMade? action = some c) :
    ∃ stack meanwhile now, d.checkAsked? action = some (stack, meanwhile, now) ∧
      c = d.keeper.checkWith stack meanwhile d.store now := by
  rw [checkMade?_eq, Option.map_eq_some_iff] at hmade
  obtain ⟨⟨stack, meanwhile, now⟩, hasked, hcheck⟩ := hmade
  exact ⟨stack, meanwhile, now, hasked, hcheck.symm⟩

theorem checkMade?_eq_some {d : Deployment τ} {action : Action τ} {c : Checked τ}
    (hmade : d.checkMade? action = some c) :
    ∃ stack meanwhile now, c = d.keeper.checkWith stack meanwhile d.store now := by
  obtain ⟨stack, meanwhile, now, -, hcheck⟩ := asked_of_checkMade? hmade
  exact ⟨stack, meanwhile, now, hcheck⟩

/-- An action that makes a check leaves the keeper of the check, and the files
and the clock as they were. -/
theorem act_of_checkMade {d : Deployment τ} {action : Action τ} {c : Checked τ}
    (hmade : d.checkMade? action = some c) :
    (d.act action).deployment = d.keptBy c.keeper := by
  cases action with
  | check now meanwhile stack =>
      obtain rfl := Option.some.inj hmade
      rfl
  | turn stopping stack =>
      simp only [checkMade?] at hmade
      split at hmade
      next hreloading =>
        obtain rfl := Option.some.inj hmade
        obtain ⟨t, hturn, hkeeper⟩ :=
          Keeper.turn?_of_reloading stack d.store d.clock stopping hreloading
        simp only [act, turn, hturn, hkeeper]
      next => simp at hmade
  | request r stack =>
      simp only [checkMade?] at hmade
      split at hmade
      next hasks =>
        obtain rfl := Option.some.inj hmade
        exact congrArg d.keptBy (Keeper.reply_keeper_of_asks hasks)
      next => simp at hmade
  | write | remove | touch | setClock | advance | command => simp [checkMade?] at hmade

/-- The commands that an action tells the keeper by itself, without a check. -/
def commandsTold : Action τ → List Command
  | .command c => [c]
  | _ => []

theorem act_keeper_of_told {d : Deployment τ} {action : Action τ}
    (hnone : d.checkMade? action = none) :
    (d.act action).deployment.keeper = (d.keeper.obeyAll (commandsTold action)).1 := by
  cases action with
  | check now meanwhile stack => simp [checkMade?] at hnone
  | command c => rfl
  | turn stopping stack =>
      have hidle : d.keeper.reloading = false := by simpa [checkMade?] using hnone
      simp only [act, turn, Keeper.turn?_of_idle stack stopping hidle]
      rfl
  | request r stack =>
      have hasks : r.asksForCheck = false := by simpa [checkMade?] using hnone
      simp only [act, request, keptBy, commandsTold, Keeper.obeyAll]
      exact Keeper.reply_keeper_of_not_asks hasks
  | write | setClock | advance => rfl
  | remove path =>
      simp only [act, changeAt]
      split <;> rfl
  | touch path modified =>
      simp only [act, changeAt]
      split <;> rfl

/-- An action that makes no check tells the keeper commands at most. -/
theorem act_keeper_of_no_check {d : Deployment τ} {action : Action τ}
    (hnone : d.checkMade? action = none) :
    ∃ commands, (d.act action).deployment.keeper = (d.keeper.obeyAll commands).1 :=
  ⟨commandsTold action, act_keeper_of_told hnone⟩

/-! ## States of a run -/

def after (d : Deployment τ) : List (Action τ) → Deployment τ
  | [] => d
  | action :: rest => (d.act action).deployment.after rest

def publishes (d : Deployment τ) (action : Action τ) : Bool :=
  (d.checkMade? action).any Checked.hasPublished

/-- The files as they were at each check that published, in order. -/
def publications (d : Deployment τ) : List (Action τ) → List (FileStore τ)
  | [] => []
  | action :: rest =>
      (if d.publishes action then [d.store] else []) ++
        (d.act action).deployment.publications rest

/-- An action that publishes makes a check that finds the file due, and leaves
what it gives published. -/
theorem publishes_course {d : Deployment τ} {action : Action τ}
    (hpublishes : d.publishes action = true) :
    ∃ stack meanwhile now set, d.checkAsked? action = some (stack, meanwhile, now) ∧
      d.keeper.Opens now ∧ d.keeper.FileIsDue d.store now ∧
      (PolicyFile.load stack d.store d.keeper.settings.includes d.keeper.path).outcome = .ok set ∧
      (d.act action).deployment = d.keptBy ((d.keeper.between meanwhile now).publish now set) := by
  unfold publishes at hpublishes
  cases hmade : d.checkMade? action with
  | none => simp [hmade] at hpublishes
  | some c =>
      rw [hmade, Option.any_some, Checked.hasPublished_iff] at hpublishes
      obtain ⟨stack, meanwhile, now, hasked, rfl⟩ := asked_of_checkMade? hmade
      rw [act_of_checkMade hmade]
      cases Keeper.checkWith_course stack meanwhile d.store now d.keeper with
      | gated _ _ _ houtcome => simp [houtcome] at hpublishes
      | nothingNew _ _ _ _ houtcome => simp [houtcome] at hpublishes
      | noTime _ _ _ houtcome =>
          exact absurd (houtcome.symm.trans hpublishes) (Keeper.settleFault_ne_published _ _)
      | unloaded _ _ _ _ houtcome =>
          exact absurd (houtcome.symm.trans hpublishes) (Keeper.settleFault_ne_published _ _)
      | stopped _ _ _ _ _ houtcome => simp [houtcome] at hpublishes
      | published hopen hdue hload _ hkeeper =>
          exact ⟨stack, meanwhile, now, _, hasked, hopen, hdue, hload, congrArg d.keptBy hkeeper⟩

/-- What an action leaves to be seen: a new publication of what the policy file
gives, or the same as before. -/
theorem act_shows (d : Deployment τ) (action : Action τ) :
    (d.publishes action = false ∧ d.keeper.ShowsSame (d.act action).deployment.keeper) ∨
      ∃ between now set, d.publishes action = true ∧ d.keeper.ShowsSame between ∧
        (PolicyFile.load .endless d.store d.keeper.settings.includes
          d.keeper.path).outcome = .ok set ∧
        (d.act action).deployment.keeper = between.publish now set := by
  cases hmade : d.checkMade? action with
  | none =>
      obtain ⟨commands, hkeeper⟩ := act_keeper_of_no_check hmade
      left
      rw [hkeeper]
      exact ⟨by simp [publishes, hmade], Keeper.obeyAll_showsSame d.keeper commands⟩
  | some c =>
      obtain ⟨stack, meanwhile, now, rfl⟩ := checkMade?_eq_some hmade
      rw [act_of_checkMade hmade]
      have hpublishes : d.publishes action = true ↔
          (d.keeper.checkWith stack meanwhile d.store now).outcome = .ok true := by
        simp only [publishes, hmade, Option.any_some, Checked.hasPublished_iff]
      rcases Keeper.checkWith_shows stack meanwhile d.store now d.keeper with
        ⟨houtcome, hsame⟩ | ⟨between, set, houtcome, hsame, hload, hkeeper⟩
      · exact .inl ⟨Bool.eq_false_iff.2 (mt hpublishes.1 houtcome), hsame⟩
      · exact .inr ⟨between, now, set, hpublishes.2 houtcome, hsame,
          PolicyFile.load_endless_of_ok hload, hkeeper⟩

theorem act_path (d : Deployment τ) (action : Action τ) :
    (d.act action).deployment.keeper.path = d.keeper.path := by
  rcases act_shows d action with ⟨-, hsame⟩ | ⟨_, _, _, -, hsame, -, hkeeper⟩
  · exact hsame.path
  · rw [hkeeper]
    exact hsame.path

/-! ## The policy file under an action -/

theorem start_act (d : Deployment τ) (action : Action τ) :
    (d.act action).deployment.store.start = d.store.start := by
  cases action with
  | write path content modified => exact FileStore.start_write d.store path _
  | remove path =>
      simp only [act, changeAt]
      split <;> rfl
  | touch path modified =>
      simp only [act, changeAt]
      split
      next => exact FileStore.start_touch d.store path modified
      next => rfl
  | turn stopping stack =>
      simp only [act, turn]
      split <;> rfl
  | setClock | advance | check | command | request => rfl

theorem locationOf_act (d : Deployment τ) (action : Action τ) (path : String) :
    (d.act action).deployment.store.locationOf path = d.store.locationOf path :=
  FileStore.locationOf_congr (start_act d action) path

/-- The time under which an action writes or touches the policy file, if it does. -/
def fileStamp? (d : Deployment τ) : Action τ → Option τ
  | .write path _ modified =>
      if d.store.locationOf d.keeper.path = d.store.locationOf path then
        some (modified.getD d.clock)
      else none
  | .touch path modified =>
      if d.store.locationOf d.keeper.path = d.store.locationOf path ∧
          d.store.contains path = true then
        some modified
      else none
  | _ => none

/-- An action leaves what stands in place of the policy file as allowed, if it
does not write or touch it under any other time. -/
theorem timedAt_act {d : Deployment τ} {action : Action τ} {allows : Entry τ → τ → Prop}
    (h : d.store.TimedAt (d.store.locationOf d.keeper.path) allows)
    (hstamp : ∀ time ∈ d.fileStamp? action, ∀ entry, allows entry time) :
    (d.act action).deployment.store.TimedAt (d.store.locationOf d.keeper.path) allows := by
  cases action with
  | write path content modified =>
      have hnew : d.store.locationOf d.keeper.path = d.store.locationOf path →
          ∀ entry, allows entry (modified.getD d.clock) := by
        intro hplace
        apply hstamp
        simp [fileStamp?, hplace]
      apply FileStore.timedAt_write h
      intro hplace time htime
      cases content with
      | none =>
          obtain rfl := Option.some.inj htime
          exact hnew hplace _
      | some octets =>
          obtain rfl := Option.some.inj htime
          exact hnew hplace _
  | remove path =>
      simp only [act, changeAt]
      split
      next => exact FileStore.timedAt_remove h
      next => exact h
  | touch path modified =>
      simp only [act, changeAt]
      split
      next entry hentry =>
        apply FileStore.timedAt_touch h
        intro hplace
        apply hstamp
        simp [fileStamp?, hplace, FileStore.contains, hentry]
      next => exact h
  | setClock | advance | command => exact h
  | check now meanwhile stack => exact h
  | turn stopping stack =>
      simp only [act, turn]
      split <;> exact h
  | request r stack =>
      simp only [act, request, keptBy]
      exact h

/-- What an action writes or touches as the policy file stands there under the
time of that action. -/
theorem timedAt_act_of_stamp {d : Deployment τ} {action : Action τ} {time : τ}
    {allows : Entry τ → τ → Prop} (hstamp : d.fileStamp? action = some time)
    (hnew : ∀ entry, allows entry time) :
    (d.act action).deployment.store.TimedAt (d.store.locationOf d.keeper.path) allows := by
  cases action with
  | write path content modified =>
      simp only [fileStamp?] at hstamp
      split at hstamp
      next hplace =>
        rw [hplace]
        apply FileStore.timedAt_write_self
        intro found hfound
        have htime : found = time := by
          rw [← Option.some.inj hstamp]
          cases content <;> exact (Option.some.inj hfound).symm
        rw [htime]
        exact hnew _
      next => simp at hstamp
  | touch path modified =>
      simp only [fileStamp?] at hstamp
      split at hstamp
      next hplace =>
        obtain rfl := Option.some.inj hstamp
        simp only [act, changeAt]
        split
        next =>
          rw [hplace.1]
          exact FileStore.timedAt_touch_self hnew
        next hfault => simp [FileStore.contains, hfault] at hplace
      next => simp at hstamp
  | remove | setClock | advance | check | command | turn | request => simp [fileStamp?] at hstamp

/-! ## Runs in parts -/

theorem after_append (d : Deployment τ) (front back : List (Action τ)) :
    d.after (front ++ back) = (d.after front).after back := by
  induction front generalizing d with
  | nil => rfl
  | cons action rest ih => exact ih _

def Throughout (allows : Deployment τ → Action τ → Prop) (d : Deployment τ) :
    List (Action τ) → Prop
  | [] => True
  | action :: rest => allows d action ∧ (d.act action).deployment.Throughout allows rest

instance decideThroughout (allows : Deployment τ → Action τ → Prop)
    [∀ d, DecidablePred (allows d)] :
    (d : Deployment τ) → (actions : List (Action τ)) → Decidable (d.Throughout allows actions)
  | _, [] => isTrue trivial
  | d, action :: rest =>
      have := decideThroughout allows (d.act action).deployment rest
      inferInstanceAs (Decidable (allows d action ∧ _))

theorem throughout_append {allows : Deployment τ → Action τ → Prop} {d : Deployment τ}
    {front back : List (Action τ)} :
    d.Throughout allows (front ++ back) ↔
      d.Throughout allows front ∧ (d.after front).Throughout allows back := by
  induction front generalizing d with
  | nil => simp [Throughout, after]
  | cons action rest ih => simp only [List.cons_append, Throughout, after, ih, and_assoc]

end Deployment

end PolicyKeeper
