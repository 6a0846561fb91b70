import PolicyKeeper.Check
import PolicyKeeper.RequestTarget

/-!
# Responses

What the service shows of its keeper: that it is alive, the published
policies or one of them, the bookkeeping of the checks, the outcome of a check
that was asked for.
-/

namespace PolicyKeeper

structure Status (τ : Type) where
  path : String
  generation : Int
  policyCount : Nat
  reloadEnabled : Bool
  reloadInterval : τ
  settleWindow : τ
  rescanInterval : τ
  lastAttempt : τ
  lastSuccess : τ
  lastAttemptFailed : Bool
  running : Bool
  reloading : Bool

def Keeper.status [OfNat τ 5] (k : Keeper τ) : Status τ :=
  { path := k.path
    generation := k.published.generation
    policyCount := k.published.size
    reloadEnabled := k.settings.reloadEnabled
    reloadInterval := k.settings.reloadInterval
    settleWindow := Keeper.settleWindow
    rescanInterval := k.settings.rescanInterval
    lastAttempt := k.lastAttempt
    lastSuccess := k.lastSuccess
    lastAttemptFailed := k.lastAttemptFailed
    running := k.running
    reloading := k.reloading }

inductive Content (τ : Type)
  | alive
  | policies (set : PolicySet)
  | status (s : Status τ)
  | checked (reloaded : Bool) (generation : Int)
  | policy (p : Policy)
  | noPolicy (name : String)

inductive Response (τ : Type)
  | content (c : Content τ)
  /-- A response without its content, where only that was left out. -/
  | bare (c : Content τ)
  | methods (allowed : List String)
  | moved (location : String)
  | notFound
  | notAllowed (allowed : List String)
  | failed

namespace Content

def code : Content τ → Nat
  | .noPolicy _ => 404
  | _ => 200

end Content

namespace Response

def code : Response τ → Nat
  | .content c => c.code
  | .bare c => c.code
  | .methods _ => 200
  | .moved _ => 308
  | .notFound => 404
  | .notAllowed _ => 405
  | .failed => 500

def mediaType : Response τ → String
  | .content _ => "application/json"
  | .bare _ => "application/json"
  | _ => "text/html"

def content? : Response τ → Option (Content τ)
  | .content c => some c
  | _ => none

def location? : Response τ → Option String
  | .moved location => some location
  | _ => none

def allowed? : Response τ → Option (List String)
  | .methods allowed => some allowed
  | .notAllowed allowed => some allowed
  | _ => none

end Response

end PolicyKeeper
