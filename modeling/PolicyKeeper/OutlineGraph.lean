import PolicyKeeper.OutlineTokenList
import PolicyKeeper.OutlineTags

/-!
# The graph of an outline

The tokens of an outline are read by its grammar into nodes: scalars,
sequences and mappings, each with a tag.  An alias leads back to the node of
its anchor, also from inside that node, so the nodes make a graph.
-/

namespace PolicyKeeper

namespace Outline

abbrev NodeId := Nat

inductive Shape
  | scalar (text : String)
  | sequence (items : List NodeId)
  | mapping (entries : List (NodeId × NodeId))

def Shape.isScalar : Shape → Bool
  | .scalar _ => true
  | _ => false

structure GraphNode where
  tag : String
  shape : Shape

instance : Inhabited GraphNode := ⟨{ tag := "", shape := .scalar "" }⟩

structure Graph where
  nodes : Array GraphNode
  root : Option NodeId

/-- The state of reading: tokens to come, the fault that ends them, the nodes
so far, the anchors and the handles of tags. -/
structure Reading where
  tokens : List Token
  fault : Option Fault
  nodes : Array GraphNode
  anchors : List (String × NodeId)
  handles : List (String × String)

abbrev Read := StateT Reading (Except Fault)

namespace Read

def fail (fault : Fault) : Read α := fun _ => .error fault

def malformed : Read α := fail .malformed

def peek : Read Token := fun r =>
  match r.tokens with
  | token :: _ => .ok (token, r)
  | [] => .error (r.fault.getD .malformed)

def skip : Read Unit := modify fun r => { r with tokens := r.tokens.tail }

def next : Read Token := do
  let token ← peek
  skip
  pure token

def sees (p : Token → Bool) : Read Bool := do
  pure (p (← peek))

def addNode (anchor : Option String) (node : GraphNode) : Read NodeId := fun r =>
  let id := r.nodes.size
  let anchors := match anchor with
    | some name => (name, id) :: r.anchors
    | none => r.anchors
  .ok (id, { r with nodes := r.nodes.push node, anchors })

def setShape (id : NodeId) (shape : Shape) : Read Unit :=
  modify fun r => { r with nodes := r.nodes.modify id fun node => { node with shape } }

def emptyNode : Read NodeId := addNode none { tag := Tag.ofPlain "", shape := .scalar "" }

end Read

def isBlockEntry (t : Token) : Bool := t = .blockEntry

def endsEntry (t : Token) : Bool := t = .blockEntry || t = .blockEnd

def endsIndentless (t : Token) : Bool :=
  t = .blockEntry || t = .key || t = .value || t = .blockEnd

def endsKeyOrValue (t : Token) : Bool := t = .key || t = .value || t = .blockEnd

structure NodeMarks where
  anchor : Option String
  tag : Option (Option String × String)

def anchorMark : Read (Option String) := do
  match ← Read.peek with
  | .anchor name => do
      Read.skip
      pure (some name)
  | _ => pure none

def tagMark : Read (Option (Option String × String)) := do
  match ← Read.peek with
  | .tag handle suffix => do
      Read.skip
      pure (some (handle, suffix))
  | _ => pure none

def nodeMarks : Read NodeMarks := do
  match ← anchorMark with
  | some name => pure { anchor := some name, tag := ← tagMark }
  | none =>
      match ← tagMark with
      | some tag => pure { anchor := ← anchorMark, tag := some tag }
      | none => pure { anchor := none, tag := none }

def fullTag : Option (Option String × String) → Read (Option String)
  | none => pure none
  | some (none, suffix) => pure (some suffix)
  | some (some handle, suffix) => do
      match (← get).handles.lookup handle with
      | some start => pure (some (start ++ suffix))
      | none => Read.malformed

def deepestNode : Nat := 490

/-- Tags for a node of a kind, where an unspecific tag counts as none. -/
def tagOr (default : String) : Option String → String
  | none => default
  | some "!" => default
  | some tag => tag

def scalarTag (text : String) (plain : Bool) : Option String → String
  | none => if plain then Tag.ofPlain text else Tag.text
  | some "!" => Tag.ofPlain text
  | some tag => tag

/-- Adds a sequence and then reads its items, which may lead back to it. -/
def readSequence (tag : String) (anchor : Option String) (items : Read (List NodeId)) :
    Read NodeId := do
  let id ← Read.addNode anchor { tag, shape := .sequence [] }
  let items ← items
  Read.setShape id (.sequence items)
  pure id

def readMapping (tag : String) (anchor : Option String)
    (entries : Read (List (NodeId × NodeId))) : Read NodeId := do
  let id ← Read.addNode anchor { tag, shape := .mapping [] }
  let entries ← entries
  Read.setShape id (.mapping entries)
  pure id

mutual

/-- Reads a node.  The first number bounds the recursion, the second is the
depth of the node. -/
def readNode (block indentless : Bool) : Nat → Nat → Read NodeId
  | 0, _ => Read.malformed
  | bound + 1, depth => do
      if deepestNode ≤ depth then Read.fail .nestedTooDeep
      match ← Read.peek with
      | .alias name => do
          Read.skip
          match (← get).anchors.lookup name with
          | some id => pure id
          | none => Read.malformed
      | _ => do
          let marks ← nodeMarks
          let tag ← fullTag marks.tag
          let anchor := marks.anchor
          match anchor with
          | some name =>
              if ((← get).anchors.lookup name).isSome then Read.malformed
          | none => pure ()
          let token ← Read.peek
          if indentless && token = .blockEntry then
            readSequence (tagOr Tag.sequence tag) anchor (readIndentless bound (depth + 1))
          else
            match token with
            | .scalar text plain => do
                Read.skip
                Read.addNode anchor { tag := scalarTag text plain tag, shape := .scalar text }
            | .flowSequenceStart => do
                Read.skip
                readSequence (tagOr Tag.sequence tag) anchor
                  (readFlowItems true bound (depth + 1))
            | .flowMappingStart => do
                Read.skip
                readMapping (tagOr Tag.mapping tag) anchor
                  (readFlowEntries true bound (depth + 1))
            | token =>
                if block && token = .blockSequenceStart then do
                  Read.skip
                  readSequence (tagOr Tag.sequence tag) anchor
                    (readBlockItems bound (depth + 1))
                else if block && token = .blockMappingStart then do
                  Read.skip
                  readMapping (tagOr Tag.mapping tag) anchor
                    (readBlockEntries bound (depth + 1))
                else if anchor.isSome || tag.isSome then
                  let implied := tag = none || tag = some "!"
                  let tag := if implied then Tag.ofPlain "" else tag.getD Tag.text
                  Read.addNode anchor { tag, shape := .scalar "" }
                else Read.malformed
termination_by structural bound => bound

def readBlockItems : Nat → Nat → Read (List NodeId)
  | 0, _ => Read.malformed
  | bound + 1, depth => do
      match ← Read.next with
      | .blockEnd => pure []
      | .blockEntry => do
          let item ←
            if ← Read.sees endsEntry then Read.emptyNode
            else readNode true false bound depth
          pure (item :: (← readBlockItems bound depth))
      | _ => Read.malformed
termination_by structural bound => bound

def readIndentless : Nat → Nat → Read (List NodeId)
  | 0, _ => Read.malformed
  | bound + 1, depth => do
      if ← Read.sees isBlockEntry then
        Read.skip
        let item ←
          if ← Read.sees endsIndentless then Read.emptyNode
          else readNode true false bound depth
        pure (item :: (← readIndentless bound depth))
      else pure []
termination_by structural bound => bound

def readBlockEntries : Nat → Nat → Read (List (NodeId × NodeId))
  | 0, _ => Read.malformed
  | bound + 1, depth => do
      match ← Read.next with
      | .blockEnd => pure []
      | .key => do
          let key ←
            if ← Read.sees endsKeyOrValue then Read.emptyNode
            else readNode true true bound depth
          let value ←
            if ← Read.sees (· = .value) then
              Read.skip
              if ← Read.sees endsKeyOrValue then Read.emptyNode
              else readNode true true bound depth
            else Read.emptyNode
          pure ((key, value) :: (← readBlockEntries bound depth))
      | _ => Read.malformed
termination_by structural bound => bound

def readFlowItems (first : Bool) : Nat → Nat → Read (List NodeId)
  | 0, _ => Read.malformed
  | bound + 1, depth => do
      if ← Read.sees (· = .flowSequenceEnd) then
        Read.skip
        pure []
      else
        if !first then
          if ← Read.sees (· = .flowEntry) then Read.skip else Read.malformed
        if ← Read.sees (· = .key) then
          Read.skip
          let item ← readMapping Tag.mapping none
            (readSingleEntry (· = .flowSequenceEnd) bound (depth + 1))
          pure (item :: (← readFlowItems false bound depth))
        else if ← Read.sees (· = .flowSequenceEnd) then
          Read.skip
          pure []
        else
          let item ← readNode false false bound depth
          pure (item :: (← readFlowItems false bound depth))
termination_by structural bound => bound

def readSingleEntry (ends : Token → Bool) : Nat → Nat → Read (List (NodeId × NodeId))
  | 0, _ => Read.malformed
  | bound + 1, depth => do
      let key ←
        if ← Read.sees fun t => t = .value || t = .flowEntry || ends t then Read.emptyNode
        else readNode false false bound depth
      let value ←
        if ← Read.sees (· = .value) then
          Read.skip
          if ← Read.sees fun t => t = .flowEntry || ends t then Read.emptyNode
          else readNode false false bound depth
        else Read.emptyNode
      pure [(key, value)]
termination_by structural bound => bound

def readFlowEntries (first : Bool) : Nat → Nat → Read (List (NodeId × NodeId))
  | 0, _ => Read.malformed
  | bound + 1, depth => do
      if ← Read.sees (· = .flowMappingEnd) then
        Read.skip
        pure []
      else
        if !first then
          if ← Read.sees (· = .flowEntry) then Read.skip else Read.malformed
        if ← Read.sees (· = .key) then
          Read.skip
          let entry ← readSingleEntry (· = .flowMappingEnd) bound depth
          pure (entry ++ (← readFlowEntries false bound depth))
        else if ← Read.sees (· = .flowMappingEnd) then
          Read.skip
          pure []
        else
          let key ← readNode false false bound depth
          let value ← Read.emptyNode
          pure ((key, value) :: (← readFlowEntries false bound depth))
termination_by structural bound => bound

end

/-! ## Documents -/

def defaultHandles : List (String × String) := [("!", "!"), ("!!", "tag:yaml.org,2002:")]

def readDirectives : Nat → Bool → List (String × String) → Read (List (String × String))
  | 0, _, _ => Read.malformed
  | bound + 1, versionGiven, handles => do
      match ← Read.peek with
      | .version major => do
          Read.skip
          if versionGiven || major ≠ 1 then Read.malformed
          else readDirectives bound true handles
      | .tagHandle handle start => do
          Read.skip
          if (handles.lookup handle).isSome then Read.malformed
          else readDirectives bound versionGiven ((handle, start) :: handles)
      | .otherDirective => do
          Read.skip
          readDirectives bound versionGiven handles
      | _ => pure (handles ++ defaultHandles)

def skipDocumentEnds : Nat → Read Unit
  | 0 => pure ()
  | bound + 1 => do
      if ← Read.sees (· = .documentEnd) then
        Read.skip
        skipDocumentEnds bound

def isDirective : Token → Bool
  | .version _ => true
  | .tagHandle .. => true
  | .otherDirective => true
  | _ => false

def readDocument (bound : Nat) : Read (Option NodeId) := do
  let token ← Read.peek
  if isDirective token || token = .documentStart || token = .streamEnd then
    if token = .streamEnd then return none
    let handles ← readDirectives bound false []
    if (← Read.next) ≠ .documentStart then Read.malformed
    modify fun r => { r with handles }
    let content ← Read.peek
    if isDirective content || content = .documentStart || content = .documentEnd ||
        content = .streamEnd then
      return some (← Read.emptyNode)
    return some (← readNode true false bound 0)
  else
    return some (← readNode true false bound 0)

/-- Nothing may follow the document but marks of its end. -/
def readStream (bound : Nat) : Read (Option NodeId) := do
  let root ← readDocument bound
  skipDocumentEnds bound
  if (← Read.next) ≠ .streamEnd then Read.malformed
  pure root

def graphOf (text : List Char) : Except Fault Graph := do
  let (tokens, fault) := tokensOf text
  let start : Reading :=
    { tokens, fault, nodes := #[], anchors := [], handles := defaultHandles }
  let (root, reading) ← (readStream (3 * tokens.length + 10)).run start
  .ok { nodes := reading.nodes, root }

end Outline

end PolicyKeeper
