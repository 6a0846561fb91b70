import PolicyKeeper.Octets
import PolicyKeeper.QuotedText
import PolicyKeeper.UrlReference

/-!
# File stores

A file store holds files and directories by their places below the root.  One
of the directories is where relative paths start; it and those above it always
exist.  A path is walked component by component, and fails at the first one
that is missing or stands on a file.
-/

namespace PolicyKeeper

inductive FileFault
  | missing (path : String)
  | notDirectory (path : String)
  | isDirectory (path : String)
  | nameTooLong (path : String)
  | nullCharacter
  deriving DecidableEq

def FileFault.message : FileFault → String
  | .missing path => s!"[Errno 2] No such file or directory: {quoted path}"
  | .notDirectory path => s!"[Errno 20] Not a directory: {quoted path}"
  | .isDirectory path => s!"[Errno 21] Is a directory: {quoted path}"
  | .nameTooLong path => s!"[Errno 36] File name too long: {quoted path}"
  | .nullCharacter => "embedded null byte"

inductive Entry (τ : Type)
  | file (content : Octets) (modified : τ)
  | directory (modified : Option τ)

def Entry.isDirectory : Entry τ → Bool
  | .file .. => false
  | .directory _ => true

/-- The names on the way from the root. -/
abbrev Location := List String

structure FileStore (τ : Type) where
  entries : List (Location × Entry τ)
  /-- The directory where relative paths start. -/
  start : Location

namespace FileStore

def empty : FileStore τ := { entries := [], start := ["working directory"] }

instance : Inhabited (FileStore τ) := ⟨empty⟩

/-- Where a walk stands. -/
structure Standing (τ : Type) where
  location : Location
  entry : Entry τ

def atLocation? (store : FileStore τ) (location : Location) : Option (Entry τ) :=
  if location <+: store.start then some (.directory none) else store.entries.lookup location

def longestName : Nat := 255

def longestPath : Nat := 4095

def step (store : FileStore τ) (path component : String) (here : Standing τ) :
    Except FileFault (Standing τ) :=
  if !here.entry.isDirectory then .error (.notDirectory path)
  else if component = "" ∨ component = "." then .ok here
  else if component = ".." then
    .ok { location := here.location.dropLast, entry := .directory none }
  else if longestName < component.utf8ByteSize then .error (.nameTooLong path)
  else
    let location := here.location ++ [component]
    match store.atLocation? location with
    | some entry => .ok { location, entry }
    | none => .error (.missing path)

def walk (store : FileStore τ) (path : String) :
    Standing τ → List String → Except FileFault (Standing τ)
  | here, [] => .ok here
  | here, component :: rest => do walk store path (← store.step path component here) rest

def components (path : String) : List String :=
  (Url.segments path.toList).map String.ofList

/-- The directory where a path starts. -/
def startOf (store : FileStore τ) (path : String) : Location :=
  if path.startsWith "/" then [] else store.start

def entry (store : FileStore τ) (path : String) : Except FileFault (Entry τ) :=
  if path.toList.contains '\x00' then .error .nullCharacter
  else if path = "" then .error (.missing path)
  else if longestPath < path.utf8ByteSize then .error (.nameTooLong path)
  else do
    let start : Standing τ := { location := store.startOf path, entry := .directory none }
    let reached ← store.walk path start (components path)
    .ok reached.entry

def contains (store : FileStore τ) (path : String) : Bool :=
  match store.entry path with
  | .ok _ => true
  | .error _ => false

def read (store : FileStore τ) (path : String) : Except FileFault Octets := do
  match ← store.entry path with
  | .file content _ => .ok content
  | .directory _ => .error (.isDirectory path)

/-- When a file was modified; none for a directory of which it is not known. -/
def modified? (store : FileStore τ) (path : String) : Except FileFault (Option τ) := do
  match ← store.entry path with
  | .file _ modified => .ok (some modified)
  | .directory modified => .ok modified

/-! ## Changes -/

def put (location : Location) (entry : Entry τ) (store : FileStore τ) : FileStore τ :=
  let others := store.entries.filter fun (other, _) => other ≠ location
  { store with entries := (location, entry) :: others }

/-- The location that a path names when dots are taken away. -/
def locationOf (store : FileStore τ) (path : String) : Location :=
  (components path).foldl (fun location component =>
    if component = "" ∨ component = "." then location
    else if component = ".." then location.dropLast
    else location ++ [component]) (store.startOf path)

def ancestors (location : Location) : List Location :=
  (List.range location.length).map fun count => location.take count

/-- Puts an entry at a path, and directories above it where there are none. -/
def write (store : FileStore τ) (path : String) (entry : Entry τ) : FileStore τ :=
  let location := store.locationOf path
  let withParents := (ancestors location).foldl (fun store above =>
    if (store.atLocation? above).isSome then store
    else store.put above (.directory none)) store
  withParents.put location entry

def remove (store : FileStore τ) (path : String) : FileStore τ :=
  let location := store.locationOf path
  { store with entries := store.entries.filter fun (other, _) => !location.isPrefixOf other }

def touch (store : FileStore τ) (path : String) (modified : τ) : FileStore τ :=
  let location := store.locationOf path
  match store.atLocation? location with
  | some (.file content _) => store.put location (.file content modified)
  | some (.directory _) => store.put location (.directory (some modified))
  | none => store

end FileStore

end PolicyKeeper
