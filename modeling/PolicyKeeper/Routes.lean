import PolicyKeeper.RequestTarget

/-!
# Routes

A path leads to the endpoints whose pattern it fits: one with a fixed path
comes before those that leave the rest of the path open.  The first endpoint
that takes the method of the request answers it.  Where there is none, the path
is tried again with pairs of slashes merged, and if that leads to an endpoint
the request is sent there.
-/

namespace PolicyKeeper

inductive Endpoint
  | health
  | policies
  | status
  | reload
  | policy (name : String)
  | asset (name : String)
  deriving DecidableEq

namespace Endpoint

def methods : Endpoint → List String
  | .reload => ["OPTIONS", "POST"]
  | _ => ["GET", "HEAD", "OPTIONS"]

def fixedPaths : List (String × Endpoint) :=
  [("/health", .health), ("/api/policies", .policies), ("/api/policies/status", .status),
    ("/api/policies/reload", .reload)]

/-- Whether a text can be the open rest of a path: it does not start with a
slash, and has no line break after its first character. -/
def isOpenPart : List Char → Bool
  | [] => false
  | c :: rest => c ≠ '/' && !rest.contains '\n'

def openPart? (start : String) (path : List Char) : Option String :=
  if start.toList.isPrefixOf path then
    let rest := path.drop start.length
    if isOpenPart rest then some (String.ofList rest) else none
  else none

def ofPath (path : List Char) : List Endpoint :=
  (fixedPaths.lookup (String.ofList path)).toList ++
    ((openPart? "/api/policies/" path).map policy).toList ++
    ((openPart? "/static/" path).map asset).toList

def find? (method : String) (path : List Char) : Option Endpoint :=
  (ofPath path).find? (·.methods.contains method)

/-- All methods of a path, also as it is with slashes merged, in alphabetical
order. -/
def allowed (path : List Char) : List String :=
  let taken := (ofPath path ++ ofPath (RequestTarget.mergeSlashes path)).flatMap methods
  ["GET", "HEAD", "OPTIONS", "POST"].filter taken.contains

end Endpoint

inductive Route
  | endpoint (e : Endpoint)
  | elsewhere (path : List Char)
  | notAllowed (methods : List String)
  | nowhere
  deriving DecidableEq

def Route.ofRequest (method : String) (path : List Char) : Route :=
  match Endpoint.find? method path with
  | some e => .endpoint e
  | none =>
      let merged := RequestTarget.mergeSlashes path
      match Endpoint.find? method merged with
      | some _ => .elsewhere merged
      | none =>
          let methods := Endpoint.allowed path
          if methods = [] then .nowhere else .notAllowed methods

end PolicyKeeper
