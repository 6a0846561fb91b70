import PolicyKeeper.LetterCase
import PolicyKeeper.Responses
import PolicyKeeper.Routes
import PolicyKeeper.ServiceNotices

/-!
# Requests

Requests show what the keeper holds.  Only the request for a check changes it;
a check that is interrupted by an unexpected fault is answered by a failure.
-/

namespace PolicyKeeper

structure Request where
  method : String
  target : String

def Request.ofLine? (line : String) : Option Request :=
  let (method, target) := Url.cut ' ' (trimmed line).toList
  match target with
  | some target => some { method := String.ofList method, target := String.ofList target }
  | none => none

structure Reply (τ : Type) where
  keeper : Keeper τ
  notices : List (ServiceNotice τ)
  response : Response τ

namespace Keeper

variable {τ : Type}

/-- The published policy of a name, which may be given without the slash in
front. -/
def policy? (k : Keeper τ) (name : String) : Option Policy :=
  (k.published.find? name).orElse fun _ => k.published.find? ("/" ++ name)

variable [Add τ] [LE τ] [DecidableLE τ] [OfNat τ 5]

def replyToReload (stack : CallStack) (store : FileStore τ) (now : τ) (k : Keeper τ) : Reply τ :=
  let c := k.check stack store now
  let notices := c.notices.map ServiceNotice.keeper
  match c.outcome with
  | .ok reloaded =>
      let generation := c.keeper.published.generation
      { keeper := c.keeper, notices := notices ++ [.checkedByHand reloaded generation]
        response := .content (.checked reloaded generation) }
  | .error _ => { keeper := c.keeper, notices, response := .failed }

def replyAt (stack : CallStack) (store : FileStore τ) (now : τ) (k : Keeper τ) :
    Endpoint → Reply τ
  | .health => { keeper := k, notices := [], response := .content .alive }
  | .policies => { keeper := k, notices := [], response := .content (.policies k.published) }
  | .status => { keeper := k, notices := [], response := .content (.status k.status) }
  | .reload => k.replyToReload stack store now
  | .policy name =>
      let content := (k.policy? name).elim (.noPolicy name) .policy
      { keeper := k, notices := [], response := .content content }
  | .asset _ => { keeper := k, notices := [], response := .notFound }

/-- A response as it is sent to a method: one method wants none of the
content. -/
def sentTo (method : String) : Response τ → Response τ
  | .content c => if method = "HEAD" then .bare c else .content c
  | response => response

def reply (stack : CallStack) (store : FileStore τ) (now : τ) (k : Keeper τ)
    (request : Request) : Reply τ :=
  let method := capitalized request.method
  let target := RequestTarget.ofText request.target
  let answered := fun response => { keeper := k, notices := [], response }
  match Route.ofRequest method target.path with
  | .endpoint e =>
      if method = "OPTIONS" then answered (.methods (Endpoint.allowed target.path))
      else
        let r := k.replyAt stack store now e
        { r with response := sentTo method r.response }
  | .elsewhere path => answered (.moved (RequestTarget.location path target.query))
  | .notAllowed methods => answered (.notAllowed methods)
  | .nowhere => answered .notFound

end Keeper

end PolicyKeeper
