import PolicyKeeper.OutlineGraph
import PolicyKeeper.OutlineScalars

/-!
# Values from the graph of an outline

Scalars have their value at once.  A collection is first there without
content, and is filled after all collections that were met before it; so a
collection can be inside itself, and the first fault in this order is the one
that counts.  In the end the graph is unfolded into a tree.  Mappings inside
mappings are followed from the root, and other values each from themselves;
what is met inside itself is marked.
-/

namespace PolicyKeeper

inductive OutlineFault
  | form (fault : Outline.Fault)
  | scalar (fault : ScalarFault)
  deriving DecidableEq

namespace Outline

/-- What a node stands for: a scalar, or the collection of a node. -/
inductive Referent
  | scalar (s : ScalarValue)
  | collection (id : NodeId)

inductive Collection
  | list (items : List Referent)
  | pairs (items : List (Referent × Referent))
  | mapping (entries : List (ScalarValue × Referent))
  | set (members : List ScalarValue)

instance : Inhabited Collection := ⟨.list []⟩

structure Building where
  nodes : Array GraphNode
  referents : Array (Option Referent)
  collections : Array Collection
  /-- The collections still to be filled, the next one last. -/
  waiting : List NodeId

abbrev Build := StateT Building (Except OutlineFault)

namespace Build

def fail (fault : OutlineFault) : Build α := fun _ => .error fault

def malformed : Build α := fail (.scalar .malformed)

def nodeAt (id : NodeId) : Build GraphNode := do
  pure ((← get).nodes.getD id default)

def setEntries (id : NodeId) (entries : List (NodeId × NodeId)) : Build Unit :=
  modify fun b => { b with
    nodes := b.nodes.modify id fun node => { node with shape := .mapping entries } }

def setTag (id : NodeId) (tag : String) : Build Unit :=
  modify fun b => { b with nodes := b.nodes.modify id fun node => { node with tag } }

def setCollection (id : NodeId) (c : Collection) : Build Unit :=
  modify fun b => { b with collections := b.collections.setIfInBounds id c }

def remember (id : NodeId) (r : Referent) : Build Referent := do
  modify fun b => { b with referents := b.referents.setIfInBounds id (some r) }
  pure r

end Build

/-- The text of a node that should be a scalar; a mapping may have one under
its key of a value. -/
def scalarText : Nat → NodeId → Build String
  | 0, _ => Build.fail (.form .nestedTooDeep)
  | bound + 1, id => do
      let node ← Build.nodeAt id
      match node.shape with
      | .scalar text => pure text
      | .sequence _ => Build.malformed
      | .mapping entries => do
          let nodes := (← get).nodes
          let marked := entries.find? fun (key, _) => (nodes.getD key default).tag = Tag.value
          match marked with
          | some (_, value) => scalarText bound value
          | none => Build.malformed

def isCollectionTag (tag : String) : Bool :=
  [Tag.orderedMapping, Tag.pairs, Tag.set, Tag.sequence, Tag.mapping].contains tag

def construct (id : NodeId) : Build Referent := do
  let b ← get
  match (b.referents.getD id none) with
  | some r => pure r
  | none => do
      let node ← Build.nodeAt id
      if isCollectionTag node.tag then
        modify fun b => { b with waiting := id :: b.waiting }
        Build.remember id (.collection id)
      else if (readScalar? node.tag "").isNone then Build.malformed
      else
        let text ← scalarText (b.nodes.size + 1) id
        if node.tag = Tag.timestamp && !node.shape.isScalar then
          Build.fail (.scalar .dateInMapping)
        else
          match readScalar? node.tag text with
          | some (.ok s) => Build.remember id (.scalar s)
          | some (.error fault) => Build.fail (.scalar fault)
          | none => Build.malformed

/-! ## Merging -/

def entriesOf (id : NodeId) : Build (List (NodeId × NodeId)) := do
  match (← Build.nodeAt id).shape with
  | .mapping entries => pure entries
  | _ => Build.malformed

/-- Puts the entries of merged mappings before those of a mapping.  Of several
merged mappings the first one comes last, so that its entries count. -/
def mergeInto : Nat → NodeId → Build Unit
  | 0, _ => pure ()
  | bound + 1, id => do
      let entries ← entriesOf id
      let nodes := (← get).nodes
      let tagOf := fun (key : NodeId) => (nodes.getD key default).tag
      let merges := entries.filter fun (key, _) => tagOf key = Tag.merge
      let own := entries.filter fun (key, _) => tagOf key ≠ Tag.merge
      Build.setEntries id own
      for (key, _) in own do
        if tagOf key = Tag.value then Build.setTag key Tag.text
      let merged ← merges.mapM fun (_, target) => do
        match (← Build.nodeAt target).shape with
        | .scalar _ => Build.malformed
        | .mapping _ => do
            mergeInto bound target
            entriesOf target
        | .sequence items => do
            let each ← items.mapM fun item => do
              let _ ← entriesOf item
              mergeInto bound item
              entriesOf item
            pure each.reverse.flatten
      if !merges.isEmpty then
        Build.setEntries id (merged.flatten ++ (← entriesOf id))

/-! ## Filling -/

/-- A key of a mapping.  No number equals itself, so one that stands for none is
known again by the node that it was read from, or by being the one value that
all words for no number have. -/
structure MappingKey where
  value : ScalarValue
  noNumberFrom : Option (Option NodeId)

def MappingKey.isSame (a b : MappingKey) : Bool :=
  a.value.sameKey b.value || (a.noNumberFrom.isSome && a.noNumberFrom = b.noNumberFrom)

def putKey (key : MappingKey) (value : α) : List (MappingKey × α) → List (MappingKey × α)
  | [] => [(key, value)]
  | (other, old) :: rest =>
      if other.isSame key then (other, value) :: rest
      else (other, old) :: putKey key value rest

def keyOf (id : NodeId) (value : ScalarValue) : Build MappingKey := do
  match value with
  | .number .notANumber => do
      let text ← scalarText ((← get).nodes.size + 1) id
      let isWord := isNoNumber (splitSign (plainNumber text)).2
      pure { value, noNumberFrom := some (if isWord then none else some id) }
  | _ => pure { value, noNumberFrom := none }

def mappingEntries (id : NodeId) : Build (List (ScalarValue × Referent)) := do
  let _ ← entriesOf id
  mergeInto ((← get).nodes.size + 1) id
  let entries ← entriesOf id
  let found ← entries.foldlM (fun done (key, value) => do
    match ← construct key with
    | .collection _ => Build.malformed
    | .scalar scalar => do
        let key ← keyOf key scalar
        let value ← construct value
        pure (putKey key value done)) []
  pure (found.map fun (key, value) => (key.value, value))

def pairItems (id : NodeId) : Build (List (Referent × Referent)) := do
  match (← Build.nodeAt id).shape with
  | .sequence items =>
      items.mapM fun item => do
        match ← entriesOf item with
        | [(key, value)] => do
            let key ← construct key
            let value ← construct value
            pure (key, value)
        | _ => Build.malformed
  | _ => Build.malformed

def fill (id : NodeId) : Build Unit := do
  let node ← Build.nodeAt id
  if node.tag = Tag.sequence then
    match node.shape with
    | .sequence items => do Build.setCollection id (.list (← items.mapM construct))
    | _ => Build.malformed
  else if node.tag = Tag.mapping then
    Build.setCollection id (.mapping (← mappingEntries id))
  else if node.tag = Tag.set then
    Build.setCollection id (.set ((← mappingEntries id).map (·.1)))
  else Build.setCollection id (.pairs (← pairItems id))

def fillAll : Nat → Build Unit
  | 0 => pure ()
  | rounds + 1 => do
      let waiting := (← get).waiting.reverse
      if waiting.isEmpty then return
      modify fun b => { b with waiting := [] }
      for id in waiting do fill id
      fillAll rounds

/-! ## Unfolding -/

def kindOf : Collection → CollectionKind
  | .list _ => .list
  | .pairs _ => .list
  | .mapping _ => .mapping
  | .set _ => .set

def unfold (collections : Array Collection) :
    Nat → List NodeId → Referent → OutlineValue
  | _, _, .scalar s => .scalar s
  | 0, _, .collection _ => .enclosing .list
  | bound + 1, inside, .collection id =>
      let c := collections.getD id default
      if inside.contains id then .enclosing (kindOf c)
      else
        let below := unfold collections bound (id :: inside)
        match c with
        | .list items => .list (items.map below)
        | .pairs items => .pairs (items.map fun (key, value) => (below key, below value))
        | .mapping entries => .mapping (entries.map fun (key, value) => (key, below value))
        | .set members => .set members

def unfoldMappings (collections : Array Collection) :
    Nat → List NodeId → Referent → OutlineValue
  | _, _, .scalar s => .scalar s
  | 0, _, .collection _ => .enclosing .mapping
  | bound + 1, inside, .collection id =>
      match collections.getD id default with
      | .mapping entries =>
          if inside.contains id then .enclosing .mapping
          else
            let below := unfoldMappings collections bound (id :: inside)
            .mapping (entries.map fun (key, value) => (key, below value))
      | _ => unfold collections (collections.size + 1) [] (.collection id)

/-- The value of a text; an empty text stands for nothing. -/
def valueOf (text : List Char) : Except OutlineFault OutlineValue := do
  let graph ← (graphOf text).mapError .form
  match graph.root with
  | none => .ok (.scalar .null)
  | some root => do
      let size := graph.nodes.size
      let start : Building :=
        { nodes := graph.nodes, referents := .replicate size none
          collections := .replicate size default, waiting := [] }
      let build : Build Referent := do
        let r ← construct root
        fillAll (size + 1)
        pure r
      let (r, b) ← build.run start
      .ok (unfoldMappings b.collections (size + 1) [] r)

end Outline

end PolicyKeeper
