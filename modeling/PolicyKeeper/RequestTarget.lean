import PolicyKeeper.PercentEncoding
import PolicyKeeper.UrlReference

/-!
# Targets of requests

A target is a path, which may be percent-encoded, and a query.  The path has
exactly one slash in front, whatever the target has there.
-/

namespace PolicyKeeper

structure RequestTarget where
  path : List Char
  query : List Char
  deriving DecidableEq

namespace RequestTarget

def withOneSlash (path : List Char) : List Char := '/' :: path.dropWhile (· = '/')

/-- The target of a text; a scheme, an authority and a fragment do not
count. -/
def ofText (text : String) : RequestTarget :=
  let (_, rest) := Url.splitScheme "" (Url.cleaned text.toList)
  let rest :=
    match Url.splitAuthority rest with
    | .ok (_, rest) => rest
    | .error _ => rest
  let (rest, _) := Url.cut '#' rest
  let (path, query) := Url.cut '?' rest
  { path := withOneSlash (Percent.decoded path), query := query.getD [] }

def mergeSlashes : List Char → List Char
  | [] => []
  | '/' :: '/' :: rest => '/' :: mergeSlashes rest
  | c :: rest => c :: mergeSlashes rest

def safeInPath : List Char := "!$&'()*+,/:;=@".toList

def safeInQuery : List Char := "%!$&'()*+,/:;=?@".toList

def location (path query : List Char) : String :=
  String.ofList ("http://localhost".toList ++ Percent.encoded safeInPath path ++
    if query.isEmpty then [] else '?' :: Percent.encoded safeInQuery query)

end RequestTarget

end PolicyKeeper
