import PolicyKeeper.Requests

/-!
# Deployments

A deployment is a keeper with the files that it reads and the clock that it is
told.  Whatever happens to it is one of a few actions, and what comes of an
action is seen by whoever did it.  Who has something checked leaves some of the
stack to it.
-/

namespace PolicyKeeper

structure Deployment (τ : Type) where
  store : FileStore τ
  clock : τ
  keeper : Keeper τ

inductive Action (τ : Type)
  /-- Writes a file, or makes a directory where there is no content. -/
  | write (path : String) (content : Option Octets) (modified : Option τ)
  | remove (path : String)
  | touch (path : String) (modified : τ)
  | setClock (now : τ)
  | advance (span : τ)
  /-- A check at a time, or else at the time of the clock. -/
  | check (now : Option τ) (meanwhile : List Command) (stack : CallStack)
  | command (c : Command)
  /-- A turn of the background round; it may be stopped right after the
  load. -/
  | turn (stopping : Bool) (stack : CallStack)
  | request (r : Request) (stack : CallStack)

inductive Outcome (τ : Type)
  | done
  | refused (fault : FileFault)
  | checked (outcome : Except CheckFault Bool)
  | noRound
  | turned
  | replied (response : Response τ)

structure Event (τ : Type) where
  deployment : Deployment τ
  notices : List (ServiceNotice τ)
  outcome : Outcome τ
  /-- The keeper just after the policy file was loaded, if it was. -/
  afterLoad : Option (Keeper τ)

namespace Deployment

variable {τ : Type}

def uneventful (d : Deployment τ) (outcome : Outcome τ) : Event τ :=
  { deployment := d, notices := [], outcome, afterLoad := none }

def keptBy (d : Deployment τ) (keeper : Keeper τ) : Deployment τ := { d with keeper }

def storing (d : Deployment τ) (store : FileStore τ) : Deployment τ := { d with store }

def changeAt (d : Deployment τ) (path : String) (change : FileStore τ → FileStore τ) : Event τ :=
  match d.store.entry path with
  | .ok _ => (d.storing (change d.store)).uneventful .done
  | .error fault => d.uneventful (.refused fault)

def write (d : Deployment τ) (path : String) (content : Option Octets) (modified : Option τ) :
    Event τ :=
  let time := modified.getD d.clock
  let entry := match content with
    | some octets => .file octets time
    | none => .directory (some time)
  (d.storing (d.store.write path entry)).uneventful .done

def command (d : Deployment τ) (c : Command) : Event τ :=
  let (keeper, told) := d.keeper.obey c
  { deployment := d.keptBy keeper, notices := told.map .keeper, outcome := .done
    afterLoad := none }

variable [Add τ] [LE τ] [DecidableLE τ] [OfNat τ 5]

def check (d : Deployment τ) (now : τ) (meanwhile : List Command) (stack : CallStack) :
    Event τ :=
  let c := d.keeper.checkWith stack meanwhile d.store now
  { deployment := d.keptBy c.keeper, notices := c.notices.map .keeper
    outcome := .checked c.outcome, afterLoad := c.afterLoad }

def turn (d : Deployment τ) (stopping : Bool) (stack : CallStack) : Event τ :=
  match d.keeper.turn? stack stopping d.store d.clock with
  | none => d.uneventful .noRound
  | some t =>
      { deployment := d.keptBy t.keeper, notices := t.notices.map .keeper, outcome := .turned
        afterLoad := t.afterLoad }

def request (d : Deployment τ) (r : Request) (stack : CallStack) : Event τ :=
  let reply := d.keeper.reply stack d.store d.clock r
  { deployment := d.keptBy reply.keeper, notices := reply.notices
    outcome := .replied reply.response, afterLoad := none }

def act (d : Deployment τ) : Action τ → Event τ
  | .write path content modified => d.write path content modified
  | .remove path => d.changeAt path (·.remove path)
  | .touch path modified => d.changeAt path (·.touch path modified)
  | .setClock now => { d with clock := now }.uneventful .done
  | .advance span => { d with clock := d.clock + span }.uneventful .done
  | .check now meanwhile stack => d.check (now.getD d.clock) meanwhile stack
  | .command c => d.command c
  | .turn stopping stack => d.turn stopping stack
  | .request r stack => d.request r stack

def run (d : Deployment τ) : List (Action τ) → List (Event τ)
  | [] => []
  | action :: rest =>
      let event := d.act action
      event :: run event.deployment rest

end Deployment

end PolicyKeeper
