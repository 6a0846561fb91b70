import PolicyKeeper.Keeper

/-!
# Checks

A check asks whether the policy file has a new content to publish.  It goes
through three sections.  The gate lets it through when the keeper is running
and the last attempt is more than an interval ago.  Then the file is examined:
it is loaded if it was modified after the last success and has been left alone
since, on the stack that the caller of the check leaves.  In the end the finding
is settled with the keeper, which may have been stopped or started meanwhile.  A
failure keeps the published set, and only the first failure of a streak is
noticed.
-/

namespace PolicyKeeper

inductive Finding
  /-- The file is the one that was loaded, or may still be written to. -/
  | nothingNew
  | noTime (fault : FileFault)
  | loaded (outcome : Except LoadFault PolicySet)

inductive Command
  | start
  | stop
  deriving DecidableEq

structure Checked (τ : Type) where
  keeper : Keeper τ
  loading : List (KeeperNotice τ)
  told : List (KeeperNotice τ)
  closing : List (KeeperNotice τ)
  /-- Whether a set was published, or the fault that was not expected. -/
  outcome : Except CheckFault Bool
  afterLoad : Option (Keeper τ)

def Checked.notices (c : Checked τ) : List (KeeperNotice τ) := c.loading ++ c.told ++ c.closing

structure Turn (τ : Type) where
  keeper : Keeper τ
  notices : List (KeeperNotice τ)
  afterLoad : Option (Keeper τ)

namespace Keeper

variable {τ : Type}

def obey (k : Keeper τ) : Command → Keeper τ × List (KeeperNotice τ)
  | .start => k.start
  | .stop => k.stop

def obeyAll (k : Keeper τ) : List Command → Keeper τ × List (KeeperNotice τ)
  | [] => (k, [])
  | command :: rest =>
      let (k, first) := k.obey command
      let (k, more) := k.obeyAll rest
      (k, first ++ more)

/-- Settles a fault: an expected one is a failure of the attempt, any other
goes to whoever made the check. -/
def settleFault (fault : CheckFault) (k : Keeper τ) :
    Keeper τ × List (KeeperNotice τ) × Except CheckFault Bool :=
  if fault.isExpected then
    ({ k with lastAttemptFailed := true },
      if k.lastAttemptFailed then [] else [.failed k.path fault], .ok false)
  else (k, [], .error fault)

def settle (now : τ) (k : Keeper τ) :
    Finding → Keeper τ × List (KeeperNotice τ) × Except CheckFault Bool
  | .nothingNew => (k, [], .ok false)
  | .noTime fault => k.settleFault (.file fault)
  | .loaded (.error fault) => k.settleFault (.load fault)
  | .loaded (.ok set) =>
      if !k.running then (k, [], .ok false)
      else
        let renewed := k.publish now set
        (renewed,
          (if k.lastAttemptFailed then [.recovered k.path] else []) ++
            [.reloaded set.size k.path renewed.generation],
          .ok true)

variable [Add τ] [LE τ] [DecidableLE τ]

def gate? (now : τ) (k : Keeper τ) : Option (Keeper τ) :=
  if !k.running then none
  else if now ≤ k.lastAttempt + k.settings.reloadInterval then none
  else some { k with lastAttempt := now }

variable [OfNat τ 5]

def wants (now : τ) (k : Keeper τ) (modified : τ) : Bool :=
  !(decide (modified ≤ k.lastSuccess) || decide (now ≤ modified + settleWindow))

/-- The middle section.  A file whose time is not known counts as one that was
just modified. -/
def examine (stack : CallStack) (store : FileStore τ) (now : τ) (k : Keeper τ) :
    Finding × List (KeeperNotice τ) :=
  match store.modified? k.path with
  | .error fault => (.noTime fault, [])
  | .ok none => (.nothingNew, [])
  | .ok (some modified) =>
      if k.wants now modified then
        let work := PolicyFile.load stack store k.settings.includes k.path
        (.loaded work.outcome, work.notices.map .load)
      else (.nothingNew, [])

def checkWith (stack : CallStack) (meanwhile : List Command) (store : FileStore τ) (now : τ)
    (k : Keeper τ) : Checked τ :=
  match k.gate? now with
  | none =>
      { keeper := k, loading := [], told := [], closing := [], outcome := .ok false
        afterLoad := none }
  | some attempting =>
      let (finding, loading) := attempting.examine stack store now
      let (between, told) :=
        match finding with
        | .loaded _ => attempting.obeyAll meanwhile
        | _ => (attempting, [])
      let afterLoad :=
        match finding with
        | .loaded _ => some between
        | _ => none
      let (keeper, closing, outcome) := between.settle now finding
      { keeper, loading, told, closing, outcome, afterLoad }

def check (stack : CallStack) (store : FileStore τ) (now : τ) (k : Keeper τ) : Checked τ :=
  k.checkWith stack [] store now

/-- One turn of the background round, if it is going.  No fault ends the round.
A stop that comes right after the load waits for the end of the turn. -/
def turn? (stack : CallStack) (stopping : Bool) (store : FileStore τ) (now : τ) (k : Keeper τ) :
    Option (Turn τ) :=
  if !k.reloading then none
  else
    let c := k.checkWith stack (if stopping then [.stop] else []) store now
    let interruption :=
      match c.outcome with
      | .ok _ => []
      | .error fault => [.interrupted k.path fault]
    some { keeper := c.keeper, notices := c.loading ++ c.closing ++ interruption ++ c.told
           afterLoad := c.afterLoad }

end Keeper

end PolicyKeeper
