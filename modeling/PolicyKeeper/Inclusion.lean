import PolicyKeeper.FileStore
import PolicyKeeper.MarkupDocument
import PolicyKeeper.Noted
import PolicyKeeper.PolicyDocument
import PolicyKeeper.TextParts

/-!
# Inclusion

An include directive below the root of a document stands for another file: for
its root element, in which directives are replaced again, or for its text.
The target is resolved against the name of the including file.  A file cannot
include itself on any way, and no more than six files include one another in a
chain.  Directives are looked for in each element on a level of the stack of its
own, and a caller leaves only so much of the stack.  Where inclusion is switched
off, directives are taken out together with the text that follows them.
-/

namespace PolicyKeeper

inductive TextFault
  | unknownEncoding (name : String)
  | notTextEncoding (name : String)
  | decoding (fault : DecodingFault)
  deriving DecidableEq

def TextFault.message : TextFault → String
  | .unknownEncoding name => s!"unknown encoding: {name}"
  | .notTextEncoding name =>
      s!"'{name}' is not a text encoding; use codecs.open() to handle arbitrary codecs"
  | .decoding fault => fault.message

def MarkupFault.message : MarkupFault → String
  | .malformed => "<xml error>"
  | .unknownEncoding name => s!"unknown encoding: {name}"
  | .notTextEncoding name =>
      s!"'{name}' is not a text encoding; use codecs.decode() to handle arbitrary codecs"
  | .failingEncoding name .labels =>
      s!"decoding with '{name}' codec failed (UnicodeError: Unsupported error handling replace)"
  | .failingEncoding _ .encodedLabels =>
      "'ascii' codec can't decode byte 0x80 in position 82: ordinal not in range(128)"
  | .failingEncoding name .undefined =>
      s!"decoding with '{name}' codec failed (UnicodeError: undefined encoding)"
  | .severalOctets => "multi-byte encodings are not supported"

inductive InclusionFault
  | file (fault : FileFault)
  | url (fault : UrlFault)
  | markup (fault : MarkupFault)
  | text (fault : TextFault)
  | circular (target : String)
  | chainTooLong (target : String)
  | unknownKind (kind : String)
  | strayFallback
  /-- A directive names no file and there is none to start from. -/
  | withoutTarget
  /-- Elements are nested too deep for directives to be looked for on the stack
  that the caller left. -/
  | nestedTooDeep
  deriving DecidableEq

def includeTag : String := "\x7bhttp://www.w3.org/2001/XInclude\x7dinclude"

def fallbackTag : String := "\x7bhttp://www.w3.org/2001/XInclude\x7dfallback"

def InclusionFault.message : InclusionFault → String
  | .file fault => fault.message
  | .url fault => fault.message
  | .markup fault => fault.message
  | .text fault => fault.message
  | .circular target => s!"recursive include of {target}"
  | .chainTooLong target => s!"maximum xinclude depth reached when including file {target}"
  | .unknownKind kind => s!"unknown parse type in xi:include tag ({quoted kind})"
  | .strayFallback =>
      s!"xi:fallback tag must be child of xi:include ({quoted fallbackTag})"
  | .withoutTarget => "a path is required"
  | .nestedTooDeep => "elements are nested too deep"

namespace Inclusion

def longestChain : Nat := 6

/-- Where a directive stands: the file around it, if it has a name, the targets
of the directives around it, and the number of elements around it. -/
structure Surroundings where
  base : String
  targets : List String
  nesting : Nat

end Inclusion

/-- The stack that a caller leaves: whether it is used up at an element. -/
structure CallStack where
  isUsedUp : Inclusion.Surroundings → Element → Bool

namespace CallStack

/-- A stack that is never used up. -/
def endless : CallStack := ⟨fun _ _ => false⟩

/-- A stack with room for so many elements inside one another. -/
def ofRoom (room : Nat) : CallStack := ⟨fun here _ => room ≤ here.nesting⟩

end CallStack

namespace Inclusion

def target (here : Surroundings) (href : Option String) : Except InclusionFault String :=
  if here.base = "" then
    match href with
    | some href => .ok href
    | none => .error .withoutTarget
  else (Url.join here.base (href.getD "")).mapError .url

def loadElement (store : FileStore τ) (path : String) : Except InclusionFault Element := do
  let octets ← (store.read path).mapError .file
  (Markup.readOctets octets).mapError .markup

def decodeText (encoding : Option String) (octets : Octets) : Except TextFault (List Char) :=
  let name := match encoding with
    | some name => if name = "" then "UTF-8" else name
    | none => "UTF-8"
  match Encoding.ofName? name with
  | none => .error (.unknownEncoding name)
  | some .notText => .error (.notTextEncoding name)
  | some encoding => (encoding.decode octets).mapError .decoding

def loadText (store : FileStore τ) (path : String) (encoding : Option String) :
    Except InclusionFault String := do
  let octets ← (store.read path).mapError .file
  let s ← (decodeText encoding octets).mapError .text
  .ok (String.ofList (normalizeBreaks s))

/-- What a directive is replaced by; `loadRoot` gives the expanded root of a
target. -/
def replacement (store : FileStore τ)
    (loadRoot : Surroundings → String → Except InclusionFault Element)
    (here : Surroundings) (directive : Element) : Except InclusionFault Node := do
  let kind := (directive.attribute? "parse").getD "xml"
  let href := directive.attribute? "href"
  let resolved := target here href
  if kind = "xml" then
    let path ← resolved
    if here.targets.contains path then .error (.circular path)
    else .ok (← loadRoot here path).toNode
  else if kind = "text" then
    let path ← resolved
    .ok (.text (← loadText store path (directive.attribute? "encoding")))
  else
    match resolved with
    | .error (.url fault) => .error (.url fault)
    | _ => .error (.unknownKind kind)

mutual

def expandNode (stack : CallStack)
    (replace : Surroundings → Element → Except InclusionFault Node) (here : Surroundings) :
    Node → Except InclusionFault Node
  | .text s => .ok (.text s)
  | .remark => .ok .remark
  | .element tag attributes content => do
      if stack.isUsedUp here { tag, attributes, content } then .error .nestedTooDeep
      else if tag = includeTag then replace here { tag, attributes, content }
      else if tag = fallbackTag then .error .strayFallback
      else
        let content ← expandNodes stack replace { here with nesting := here.nesting + 1 } content
        .ok (.element tag attributes content)

def expandNodes (stack : CallStack)
    (replace : Surroundings → Element → Except InclusionFault Node) (here : Surroundings) :
    List Node → Except InclusionFault (List Node)
  | [] => .ok []
  | node :: rest => do
      let node ← expandNode stack replace here node
      let rest ← expandNodes stack replace here rest
      .ok (node :: rest)

end

/-- The element with the directives below it replaced, where a chain of `chain`
more files is allowed. -/
def expandWithin (stack : CallStack) (store : FileStore τ) :
    Nat → Surroundings → Element → Except InclusionFault Element
  | 0, here, e => do
      let tooLong := fun _ path => .error (.chainTooLong path)
      .ok { e with content := ← expandNodes stack (replacement store tooLong) here e.content }
  | chain + 1, here, e => do
      let loadRoot := fun here path => do
        let root ← loadElement store path
        let inside : Surroundings :=
          { base := path, targets := path :: here.targets, nesting := here.nesting + 1 }
        expandWithin stack store chain inside root
      .ok { e with content := ← expandNodes stack (replacement store loadRoot) here e.content }

def expand (stack : CallStack) (store : FileStore τ) (base : String) (e : Element) :
    Except InclusionFault Element :=
  expandWithin stack store longestChain { base, targets := [], nesting := 0 } e

/-! ## Without inclusion -/

/-- The content without directives and without the text after each. -/
def withoutDirectives : Bool → List Node → List Node
  | _, [] => []
  | afterDirective, .text s :: rest =>
      if afterDirective then withoutDirectives true rest
      else .text s :: withoutDirectives false rest
  | _, .remark :: rest => .remark :: withoutDirectives false rest
  | _, .element tag attributes content :: rest =>
      if tag = includeTag then withoutDirectives true rest
      else .element tag attributes content :: withoutDirectives false rest

def ignoredHere (content : List Node) : List LoadNotice :=
  (Element.elementsOf content).filterMap fun e =>
    if e.tag = includeTag then some (.includeIgnored (e.attribute? "href")) else none

mutual

def stripNode : Node → Node × List LoadNotice
  | .text s => (.text s, [])
  | .remark => (.remark, [])
  | .element tag attributes content =>
      let (stripped, notices) := stripNodes content
      (.element tag attributes (withoutDirectives false stripped),
        ignoredHere content ++ notices)

/-- Strips the elements among some nodes and keeps the directives, whose
content does not count. -/
def stripNodes : List Node → List Node × List LoadNotice
  | [] => ([], [])
  | .element tag attributes content :: rest =>
      let (more, later) := stripNodes rest
      if tag = includeTag then (.element tag attributes content :: more, later)
      else
        let (node, notices) := stripNode (.element tag attributes content)
        (node :: more, notices ++ later)
  | node :: rest =>
      let (more, later) := stripNodes rest
      (node :: more, later)

end

def strip (e : Element) : Element × List LoadNotice :=
  let (stripped, notices) := stripNodes e.content
  ({ e with content := withoutDirectives false stripped }, ignoredHere e.content ++ notices)

end Inclusion

end PolicyKeeper
