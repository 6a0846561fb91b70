import Mathlib.Data.List.Chain
import PolicyKeeper.Proofs.DeploymentRuns
import PolicyKeeper.Proofs.FailedAttempts
import PolicyKeeper.ServiceRecords

/-!
# Signals of failure and recovery

Of all that is noticed, two notices signal how the attempts go: that one failed,
and that one succeeded after failures.  A check signals how it changes the mark
of the keeper, and nothing else signals; so along a run failures and recoveries
take turns.
-/

namespace PolicyKeeper

variable {τ : Type}

/-! ## Signals -/

inductive Signal
  | failure
  | recovery
  deriving DecidableEq

def KeeperNotice.signal? : KeeperNotice τ → Option Signal
  | .failed _ _ => some .failure
  | .recovered _ => some .recovery
  | _ => none

def ServiceNotice.signal? : ServiceNotice τ → Option Signal
  | .keeper notice => notice.signal?
  | _ => none

def KeeperNotice.signals (notices : List (KeeperNotice τ)) : List Signal :=
  notices.filterMap KeeperNotice.signal?

def ServiceNotice.signals (notices : List (ServiceNotice τ)) : List Signal :=
  notices.filterMap ServiceNotice.signal?

/-- A failure is recorded as an error with what caused it, a recovery by the way. -/
theorem ServiceNotice.record_of_signal {notice : ServiceNotice Binary64} {signal : Signal}
    (logger : String) (hsignal : notice.signal? = some signal) :
    (notice.record logger).level = (if signal = .failure then .error else .info) ∧
      (notice.fault?.isSome ↔ signal = .failure) := by
  cases notice with
  | keeper notice =>
      cases notice with
      | failed path fault =>
          obtain rfl := Option.some.inj hsignal
          simp [ServiceNotice.record, KeeperNotice.record, ServiceNotice.fault?,
            KeeperNotice.fault?]
      | recovered path =>
          obtain rfl := Option.some.inj hsignal
          simp [ServiceNotice.record, KeeperNotice.record, ServiceNotice.fault?,
            KeeperNotice.fault?]
      | load | noFileGiven | reloaded | reloadDisabled | started | stopped | interrupted =>
          simp [ServiceNotice.signal?, KeeperNotice.signal?] at hsignal
  | checkedByHand | cannotStart | listening => simp [ServiceNotice.signal?] at hsignal

@[simp] theorem KeeperNotice.signals_append (front back : List (KeeperNotice τ)) :
    signals (front ++ back) = signals front ++ signals back :=
  List.filterMap_append

@[simp] theorem ServiceNotice.signals_append (front back : List (ServiceNotice τ)) :
    signals (front ++ back) = signals front ++ signals back :=
  List.filterMap_append

@[simp] theorem KeeperNotice.signals_load (notices : List LoadNotice) :
    signals (notices.map (.load : LoadNotice → KeeperNotice τ)) = [] := by
  simp [signals, List.filterMap_map, Function.comp_def, KeeperNotice.signal?]

@[simp] theorem ServiceNotice.signals_keeper (notices : List (KeeperNotice τ)) :
    signals (notices.map .keeper) = KeeperNotice.signals notices :=
  List.filterMap_map

/-- What a change of the mark is told by. -/
def signalsOfChange : Bool → Bool → List Signal
  | false, true => [.failure]
  | true, false => [.recovery]
  | _, _ => []

@[simp] theorem signalsOfChange_self (marked : Bool) : signalsOfChange marked marked = [] := by
  cases marked <;> rfl

theorem failure_mem_signalsOfChange {before after : Bool} :
    .failure ∈ signalsOfChange before after ↔ before = false ∧ after = true := by
  cases before <;> cases after <;> simp [signalsOfChange]

theorem recovery_mem_signalsOfChange {before after : Bool} :
    .recovery ∈ signalsOfChange before after ↔ before = true ∧ after = false := by
  cases before <;> cases after <;> simp [signalsOfChange]

/-! ## Signals in turn -/

/-- The signals take turns and lead from one state of the mark to another. -/
inductive Alternates : Bool → List Signal → Bool → Prop
  | none (marked : Bool) : Alternates marked [] marked
  | failure {rest : List Signal} {last : Bool} (hrest : Alternates true rest last) :
      Alternates false (.failure :: rest) last
  | recovery {rest : List Signal} {last : Bool} (hrest : Alternates false rest last) :
      Alternates true (.recovery :: rest) last

namespace Alternates

variable {first middle last : Bool} {front back signals : List Signal}

theorem append (hfront : Alternates first front middle) (hback : Alternates middle back last) :
    Alternates first (front ++ back) last := by
  induction hfront with
  | none => exact hback
  | failure _ ih => exact .failure (ih hback)
  | recovery _ ih => exact .recovery (ih hback)

theorem of_change (before after : Bool) :
    Alternates before (signalsOfChange before after) after := by
  cases before <;> cases after
  · exact .none false
  · exact .failure (.none true)
  · exact .recovery (.none false)
  · exact .none true

theorem head (h : Alternates first signals last) {signal : Signal}
    (hhead : signals.head? = some signal) : signal = if first then .recovery else .failure := by
  cases h with
  | none => simp at hhead
  | failure => exact (Option.some.inj hhead).symm
  | recovery => exact (Option.some.inj hhead).symm

theorem isChain (h : Alternates first signals last) : signals.IsChain (· ≠ ·) := by
  induction h with
  | none => exact .nil
  | failure hrest ih =>
      apply ih.cons
      intro signal hhead
      simp [hrest.head hhead]
  | recovery hrest ih =>
      apply ih.cons
      intro signal hhead
      simp [hrest.head hhead]

theorem count (h : Alternates first signals last) :
    signals.count .failure + first.toNat = signals.count .recovery + last.toNat := by
  induction h with
  | none => simp
  | failure _ ih =>
      simp only [List.count_cons, beq_iff_eq, reduceCtorEq, if_true, if_false,
        Bool.toNat_true, Bool.toNat_false] at ih ⊢
      omega
  | recovery _ ih =>
      simp only [List.count_cons, beq_iff_eq, reduceCtorEq, if_true, if_false,
        Bool.toNat_true, Bool.toNat_false] at ih ⊢
      omega

end Alternates

/-! ## Signals of a check -/

namespace Keeper

theorem signals_obey (k : Keeper τ) (command : Command) :
    KeeperNotice.signals (k.obey command).2 = [] := by
  cases command with
  | stop =>
      simp only [obey, stop]
      split <;> rfl
  | start =>
      simp only [obey, start]
      split
      · rfl
      · split <;> rfl

theorem signals_obeyAll (k : Keeper τ) (commands : List Command) :
    KeeperNotice.signals (k.obeyAll commands).2 = [] := by
  induction commands generalizing k with
  | nil => rfl
  | cons command rest ih =>
      show KeeperNotice.signals ((k.obey command).2 ++ ((k.obey command).1.obeyAll rest).2) = []
      rw [KeeperNotice.signals_append, signals_obey, ih, List.append_nil]

theorem signals_establish (stack : CallStack) (store : FileStore τ) (settings : Settings τ)
    (now : τ) :
    KeeperNotice.signals (establish stack store settings now).notices = [] := by
  unfold establish
  simp only
  split
  · rfl
  · rw [Noted.notices_bind_pure]
    exact KeeperNotice.signals_load _

theorem signals_settleFault (k : Keeper τ) (fault : CheckFault) :
    KeeperNotice.signals (k.settleFault fault).2.1 =
      signalsOfChange k.lastAttemptFailed (k.settleFault fault).1.lastAttemptFailed := by
  unfold settleFault
  split
  · cases k.lastAttemptFailed <;> rfl
  · rw [signalsOfChange_self]
    rfl

theorem signals_settle (now : τ) (k : Keeper τ) (finding : Finding) :
    KeeperNotice.signals (k.settle now finding).2.1 =
      signalsOfChange k.lastAttemptFailed (k.settle now finding).1.lastAttemptFailed := by
  cases finding with
  | nothingNew => exact (signalsOfChange_self _).symm
  | noTime fault => exact signals_settleFault k _
  | loaded outcome =>
      cases outcome with
      | error fault => exact signals_settleFault k _
      | ok set =>
          simp only [settle]
          split
          · exact (signalsOfChange_self _).symm
          · cases hmark : k.lastAttemptFailed <;> rfl

variable [Add τ] [LE τ] [DecidableLE τ] [OfNat τ 5]

/-- What a check notices before it settles holds no signal, and with what comes
then it tells how the check changes the mark. -/
theorem signals_checkWith (stack : CallStack) (meanwhile : List Command) (store : FileStore τ)
    (now : τ) (k : Keeper τ) :
    let c := k.checkWith stack meanwhile store now
    KeeperNotice.signals c.loading = [] ∧ KeeperNotice.signals c.told = [] ∧
      KeeperNotice.signals c.closing =
        signalsOfChange k.lastAttemptFailed c.keeper.lastAttemptFailed := by
  cases hgate : k.gate? now with
  | none =>
      rw [checkWith_of_gated hgate]
      exact ⟨rfl, rfl, (signalsOfChange_self _).symm⟩
  | some attempting =>
      obtain ⟨-, -, rfl⟩ := gate?_eq_some_iff.1 hgate
      by_cases hdue : (k.attempted now).FileIsDue store now
      · have hmark : (k.between meanwhile now).lastAttemptFailed = k.lastAttemptFailed :=
          lastAttemptFailed_between meanwhile now k
        simp only [checkWith_of_due hgate hdue]
        refine ⟨KeeperNotice.signals_load _, signals_obeyAll _ _, ?_⟩
        rw [signals_settle]
        exact congrArg (signalsOfChange · _) hmark
      · rcases examine_of_not_due stack hdue with ⟨hexamine, -⟩ | ⟨fault, hexamine, -⟩
        · rw [checkWith_of_nothingNew hgate hexamine]
          exact ⟨rfl, rfl, (signalsOfChange_self _).symm⟩
        · rw [checkWith_of_noTime hgate hexamine]
          exact ⟨rfl, rfl, signals_settleFault _ _⟩

theorem signals_check_notices (stack : CallStack) (meanwhile : List Command)
    (store : FileStore τ) (now : τ) (k : Keeper τ) :
    let c := k.checkWith stack meanwhile store now
    KeeperNotice.signals c.notices =
      signalsOfChange k.lastAttemptFailed c.keeper.lastAttemptFailed := by
  obtain ⟨hloading, htold, hclosing⟩ := signals_checkWith stack meanwhile store now k
  simp only [Checked.notices, KeeperNotice.signals_append, hloading, htold, hclosing,
    List.nil_append]

theorem signals_turn? {stack : CallStack} {stopping : Bool} {store : FileStore τ} {now : τ}
    {k : Keeper τ} {t : Turn τ} (hturn : k.turn? stack stopping store now = some t) :
    KeeperNotice.signals t.notices =
      signalsOfChange k.lastAttemptFailed t.keeper.lastAttemptFailed := by
  unfold turn? at hturn
  split at hturn
  next => simp at hturn
  next =>
    obtain ⟨hloading, htold, hclosing⟩ :=
      signals_checkWith stack (if stopping then [.stop] else []) store now k
    obtain rfl := Option.some.inj hturn
    generalize k.checkWith stack (if stopping then [.stop] else []) store now = c at *
    simp only [KeeperNotice.signals_append, hloading, htold, hclosing, List.nil_append,
      List.append_nil]
    cases c.outcome with
    | ok _ => exact List.append_nil _
    | error _ => exact List.append_nil _

theorem signals_reply (stack : CallStack) (store : FileStore τ) (now : τ) (k : Keeper τ)
    (r : Request) :
    ServiceNotice.signals (k.reply stack store now r).notices =
      signalsOfChange k.lastAttemptFailed (k.reply stack store now r).keeper.lastAttemptFailed := by
  have hquiet : ServiceNotice.signals ([] : List (ServiceNotice τ)) =
      signalsOfChange k.lastAttemptFailed k.lastAttemptFailed :=
    (signalsOfChange_self _).symm
  unfold reply
  simp only
  split
  next e _ =>
    split
    next => exact hquiet
    next =>
      cases e with
      | reload =>
          have hcheck := signals_check_notices stack [] store now k
          simp only [replyAt, replyToReload, check]
          split
          next =>
            rw [ServiceNotice.signals_append, ServiceNotice.signals_keeper, hcheck]
            exact List.append_nil _
          next => rw [ServiceNotice.signals_keeper, hcheck]
      | health | policies | status | policy | asset => exact hquiet
  next => exact hquiet
  next => exact hquiet
  next => exact hquiet

end Keeper

/-! ## Signals of a run -/

namespace Deployment

def isMarked (d : Deployment τ) : Bool := d.keeper.lastAttemptFailed

theorem signals_uneventful {d kept : Deployment τ} (hkept : kept.keeper = d.keeper)
    (outcome : Outcome τ) :
    ServiceNotice.signals (kept.uneventful outcome).notices =
      signalsOfChange d.isMarked (kept.uneventful outcome).deployment.isMarked := by
  have hmark : (kept.uneventful outcome).deployment.isMarked = d.isMarked :=
    congrArg Keeper.lastAttemptFailed hkept
  rw [hmark, signalsOfChange_self]
  rfl

theorem signals_changeAt (d : Deployment τ) (path : String)
    (change : FileStore τ → FileStore τ) :
    ServiceNotice.signals (d.changeAt path change).notices =
      signalsOfChange d.isMarked (d.changeAt path change).deployment.isMarked := by
  unfold changeAt
  split
  · exact signals_uneventful rfl _
  · exact signals_uneventful rfl _

variable [Add τ] [LE τ] [DecidableLE τ] [OfNat τ 5] {d : Deployment τ} {action : Action τ}
  {actions : List (Action τ)}

def signalsOf (d : Deployment τ) (action : Action τ) : List Signal :=
  ServiceNotice.signals (d.act action).notices

def signals (d : Deployment τ) (actions : List (Action τ)) : List Signal :=
  (d.run actions).flatMap fun event => ServiceNotice.signals event.notices

theorem signals_cons (d : Deployment τ) (action : Action τ) (rest : List (Action τ)) :
    d.signals (action :: rest) = d.signalsOf action ++ (d.act action).deployment.signals rest :=
  List.flatMap_cons

theorem signalsOf_eq (d : Deployment τ) (action : Action τ) :
    d.signalsOf action = signalsOfChange d.isMarked (d.act action).deployment.isMarked := by
  unfold signalsOf
  cases action with
  | write path content modified =>
      simp only [act, write]
      exact signals_uneventful rfl _
  | setClock now =>
      simp only [act]
      exact signals_uneventful rfl _
  | advance span =>
      simp only [act]
      exact signals_uneventful rfl _
  | remove path =>
      simp only [act]
      exact signals_changeAt d path _
  | touch path modified =>
      simp only [act]
      exact signals_changeAt d path _
  | check now meanwhile stack =>
      simp only [act, check, ServiceNotice.signals_keeper]
      exact Keeper.signals_check_notices stack meanwhile d.store _ d.keeper
  | command c =>
      have hmark : (d.keeper.obeyAll [c]).1.lastAttemptFailed = d.keeper.lastAttemptFailed :=
        Keeper.lastAttemptFailed_obeyAll d.keeper [c]
      simp only [act, command, ServiceNotice.signals_keeper, Keeper.signals_obey]
      exact (signalsOfChange_self _).symm.trans (congrArg (signalsOfChange _) hmark.symm)
  | turn stopping stack =>
      simp only [act, turn]
      split
      next => exact signals_uneventful rfl _
      next t hturn =>
        rw [ServiceNotice.signals_keeper]
        exact Keeper.signals_turn? hturn
  | request r stack =>
      simp only [act, request, keptBy, isMarked]
      exact Keeper.signals_reply stack d.store d.clock d.keeper r

theorem alternates_signals (d : Deployment τ) (actions : List (Action τ)) :
    Alternates d.isMarked (d.signals actions) (d.after actions).isMarked := by
  induction actions generalizing d with
  | nil => exact .none d.isMarked
  | cons action rest ih =>
      have hfirst : Alternates d.isMarked (d.signalsOf action)
          (d.act action).deployment.isMarked := by
        rw [signalsOf_eq]
        exact .of_change _ _
      rw [signals_cons]
      exact hfirst.append (ih _)

end Deployment

end PolicyKeeper
