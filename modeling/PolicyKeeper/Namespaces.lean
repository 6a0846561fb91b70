/-!
# Namespaces

An attribute named `xmlns` gives an address to the names without prefix, one
named `xmlns:p` to the names with the prefix `p`, in its element and below.
The full form of a name in a namespace is the address in braces and the name.
-/

namespace PolicyKeeper

namespace Markup

def reservedPrefix : String := "xml"

def reservedAddress : String := "http://www.w3.org/XML/1998/namespace"

def declarationAddress : String := "http://www.w3.org/2000/xmlns/"

/-- The addresses in force, the latest first; the empty prefix is that of
names without prefix, and an empty address takes a binding back. -/
abbrev Scope := List (String × String)

def initialScope : Scope := [(reservedPrefix, reservedAddress)]

def splitName (name : String) : Option (String × String) :=
  let s := name.toList
  let before := s.takeWhile (· ≠ ':')
  if before.length = s.length then none
  else some (String.ofList before, String.ofList (s.drop (before.length + 1)))

def declaredPrefix? (name : String) : Option String :=
  if name = "xmlns" then some ""
  else
    match splitName name with
    | some ("xmlns", declared) => some declared
    | _ => none

def bind? (scope : Scope) (declared address : String) : Option Scope :=
  if declared = "xmlns" ∨ address = declarationAddress then none
  else if address = "" ∧ declared ≠ "" then none
  else if address.toList.contains '}' then none
  else if (declared = reservedPrefix) ≠ (address = reservedAddress) then none
  else some ((declared, address) :: scope)

def bindAll? (scope : Scope) : List (String × String) → Option Scope
  | [] => some scope
  | (name, value) :: rest =>
      match declaredPrefix? name with
      | none => bindAll? scope rest
      | some declared => do bindAll? (← bind? scope declared value) rest

def fullName (address name : String) : String :=
  if address = "" then name else "\x7b" ++ address ++ "\x7d" ++ name

def elementName? (scope : Scope) (name : String) : Option String :=
  match splitName name with
  | none => some (fullName ((scope.lookup "").getD "") name)
  | some (before, inner) => (scope.lookup before).map (fullName · inner)

/-- The full name of an attribute; one without prefix is in no namespace. -/
def fullAttributeName? (scope : Scope) (name : String) : Option String :=
  match splitName name with
  | none => some name
  | some (before, inner) => (scope.lookup before).map (fullName · inner)

def resolveAttributes? (scope : Scope) :
    List (String × String) → Option (List (String × String))
  | [] => some []
  | (name, value) :: rest => do
      let more ← resolveAttributes? scope rest
      if (declaredPrefix? name).isSome then some more
      else
        let name ← fullAttributeName? scope name
        if more.any (·.1 = name) then none else some ((name, value) :: more)

end Markup

end PolicyKeeper
