import Mathlib.Data.List.Basic
import PolicyKeeper.Noted
import PolicyKeeper.SettingsFault

/-!
# Where the faults of an outline come from

Building the value of an outline fails in its form, at a mapping that is called
a date, or at a scalar.  The graph
changes while it is built: entries are merged, and keys become texts.  But
whatever scalar is read in the end, its text and its tag stand in the graph as
it was read, so a fault at a scalar is one of a node.
-/

namespace PolicyKeeper

namespace Outline

/-! ## Tags and texts of a graph -/

/-- The tag is one of a node, or the tag of texts. -/
def IsTagOf (nodes : Array GraphNode) (tag : String) : Prop :=
  tag = Tag.text ∨ ∃ id, (nodes.getD id default).tag = tag

def IsTextOf (nodes : Array GraphNode) (text : String) : Prop :=
  ∃ id, (nodes.getD id default).shape = .scalar text

/-- What a node may have become while the graph is built. -/
structure ComesFrom (nodes : Array GraphNode) (node : GraphNode) : Prop where
  tag : IsTagOf nodes node.tag
  text : ∀ text, node.shape = .scalar text → IsTextOf nodes text

def KeepsScalars (nodes : Array GraphNode) (b : Building) : Prop :=
  ∀ id, ComesFrom nodes (b.nodes.getD id default)

/-- A scalar of the graph cannot be read as its tag demands. -/
def RefusesScalar (nodes : Array GraphNode) (fault : ScalarFault) : Prop :=
  ∃ tag text, IsTagOf nodes tag ∧ IsTextOf nodes text ∧ readScalar? tag text = some (.error fault)

/-- Faults that may come up while a value is built. -/
def IsFaultOf (nodes : Array GraphNode) : OutlineFault → Prop
  | .form fault => fault = .nestedTooDeep
  | .scalar fault => fault ∈ [.malformed, .dateInMapping] ∨ RefusesScalar nodes fault

theorem keepsScalars_of_nodes_eq {nodes : Array GraphNode} {b : Building}
    (hnodes : b.nodes = nodes) : KeepsScalars nodes b := by
  subst hnodes
  intro id
  exact ⟨.inr ⟨id, rfl⟩, fun text htext => ⟨id, htext⟩⟩

theorem getD_modify {α : Type} (values : Array α) (place other : Nat) (change : α → α) (x : α) :
    (values.modify place change).getD other x = change (values.getD other x) ∨
      (values.modify place change).getD other x = values.getD other x := by
  rw [Array.getD_eq_getD_getElem?, Array.getD_eq_getD_getElem?, Array.getElem?_modify]
  split
  next =>
    cases values[other]? with
    | none => exact .inr rfl
    | some value => exact .inl rfl
  next => exact .inr rfl

/-! ## Work that keeps the scalars -/

section

variable {nodes : Array GraphNode} {α β : Type}

/-- The work keeps the scalars, and comes to a value that meets a condition or
to one of the faults of the graph. -/
def Sound (nodes : Array GraphNode) (q : α → Prop) (work : Build α) : Prop :=
  ∀ b, KeepsScalars nodes b →
    (∀ value b', work b = .ok (value, b') → KeepsScalars nodes b' ∧ q value) ∧
      ∀ fault, work b = .error fault → IsFaultOf nodes fault

variable {q : α → Prop} {work : Build α}

theorem sound_pure {value : α} (hvalue : q value) : Sound nodes q (pure value) := by
  intro b hb
  constructor
  · rintro _ _ hrun
    obtain ⟨rfl, rfl⟩ := Prod.mk.inj (Except.ok.inj hrun)
    exact ⟨hb, hvalue⟩
  · rintro _ hrun
    cases hrun

theorem Sound.bind {r : β → Prop} {next : α → Build β} (hwork : Sound nodes q work)
    (hnext : ∀ value, q value → Sound nodes r (next value)) :
    Sound nodes r (work >>= next) := by
  intro b hb
  have hrun : (work >>= next) b = (work b >>= fun (value, b') => next value b') := rfl
  obtain ⟨hok, herror⟩ := hwork b hb
  rw [hrun]
  constructor
  · intro value b' hend
    obtain ⟨⟨first, between⟩, hfirst, hrest⟩ := bind_eq_ok.1 hend
    obtain ⟨hbetween, hvalue⟩ := hok first between hfirst
    exact (hnext first hvalue between hbetween).1 value b' hrest
  · intro fault hend
    rcases bind_eq_error.1 hend with hfirst | ⟨⟨first, between⟩, hfirst, hrest⟩
    · exact herror fault hfirst
    · obtain ⟨hbetween, hvalue⟩ := hok first between hfirst
      exact (hnext first hvalue between hbetween).2 fault hrest

theorem sound_fail {fault : OutlineFault} (hfault : IsFaultOf nodes fault) :
    Sound nodes q (Build.fail fault) := by
  intro b _
  constructor
  · rintro _ _ hrun
    cases hrun
  · rintro _ hrun
    obtain rfl := Except.error.inj hrun
    exact hfault

theorem sound_malformed : Sound nodes q Build.malformed := sound_fail (.inl (by simp))

theorem sound_get : Sound nodes (KeepsScalars nodes) get := by
  intro b hb
  constructor
  · rintro _ _ hrun
    obtain ⟨rfl, rfl⟩ := Prod.mk.inj (Except.ok.inj hrun)
    exact ⟨hb, hb⟩
  · rintro _ hrun
    cases hrun

theorem sound_modify {change : Building → Building}
    (hchange : ∀ b, KeepsScalars nodes b → KeepsScalars nodes (change b)) :
    Sound nodes (fun _ => True) (modify change : Build Unit) := by
  intro b hb
  constructor
  · rintro _ _ hrun
    obtain ⟨-, rfl⟩ := Prod.mk.inj (Except.ok.inj hrun)
    exact ⟨hchange b hb, trivial⟩
  · rintro _ hrun
    cases hrun

/-! ## Work on lists -/

theorem sound_mapM {values : List α} {each : α → Build β}
    (heach : ∀ value ∈ values, Sound nodes (fun _ => True) (each value)) :
    Sound nodes (fun _ => True) (values.mapM each) := by
  induction values with
  | nil => exact sound_pure trivial
  | cons value rest ih =>
      rw [List.mapM_cons]
      apply (heach value (.head _)).bind
      intro first _
      apply (ih fun other hmem => heach other (.tail _ hmem)).bind
      intro more _
      exact sound_pure trivial

theorem sound_foldlM {values : List α} {each : β → α → Build β} {start : β}
    (heach : ∀ done value, Sound nodes (fun _ => True) (each done value)) :
    Sound nodes (fun _ => True) (values.foldlM each start) := by
  induction values generalizing start with
  | nil => exact sound_pure trivial
  | cons value rest ih =>
      rw [List.foldlM_cons]
      apply (heach start value).bind
      intro done _
      exact ih

theorem sound_forIn {values : List α} {each : α → β → Build (ForInStep β)} {start : β}
    (heach : ∀ value done, Sound nodes (fun _ => True) (each value done)) :
    Sound nodes (fun _ => True) (forIn values start each) := by
  induction values generalizing start with
  | nil => exact sound_pure trivial
  | cons value rest ih =>
      rw [List.forIn_cons]
      apply (heach value start).bind
      intro step _
      cases step with
      | done result => exact sound_pure trivial
      | yield result => exact ih

end

/-! ## Steps of building -/

section

variable {nodes : Array GraphNode}

theorem sound_nodeAt (id : NodeId) : Sound nodes (ComesFrom nodes) (Build.nodeAt id) := by
  apply sound_get.bind
  intro b hb
  exact sound_pure (hb id)

theorem sound_setEntries (id : NodeId) (entries : List (NodeId × NodeId)) :
    Sound nodes (fun _ => True) (Build.setEntries id entries) := by
  apply sound_modify
  intro b hb other
  rcases getD_modify b.nodes id other (fun node => { node with shape := .mapping entries })
    default with hnew | hold
  · show ComesFrom nodes ((b.nodes.modify id _).getD other default)
    rw [hnew]
    exact ⟨(hb other).tag, fun text htext => by cases htext⟩
  · show ComesFrom nodes ((b.nodes.modify id _).getD other default)
    rw [hold]
    exact hb other

theorem sound_setTag {id : NodeId} {tag : String} (htag : IsTagOf nodes tag) :
    Sound nodes (fun _ => True) (Build.setTag id tag) := by
  apply sound_modify
  intro b hb other
  show ComesFrom nodes ((b.nodes.modify id _).getD other default)
  rcases getD_modify b.nodes id other (fun node => { node with tag }) default with hnew | hold
  · rw [hnew]
    exact ⟨htag, (hb other).text⟩
  · rw [hold]
    exact hb other

theorem sound_setCollection (id : NodeId) (c : Collection) :
    Sound nodes (fun _ => True) (Build.setCollection id c) :=
  sound_modify fun _ hb => hb

theorem sound_remember (id : NodeId) (r : Referent) :
    Sound nodes (fun _ => True) (Build.remember id r) := by
  have hset : Sound nodes (fun _ => True) (modify fun b : Building =>
      { b with referents := b.referents.setIfInBounds id (some r) } : Build Unit) :=
    sound_modify fun _ hb => hb
  apply hset.bind
  intro _ _
  exact sound_pure trivial

theorem sound_scalarText (bound : Nat) (id : NodeId) :
    Sound nodes (IsTextOf nodes) (scalarText bound id) := by
  induction bound generalizing id with
  | zero => exact sound_fail rfl
  | succ bound ih =>
      apply (sound_nodeAt id).bind
      intro node hnode
      cases hshape : node.shape with
      | scalar text => exact sound_pure (hnode.text text hshape)
      | sequence items => exact sound_malformed
      | mapping entries =>
          apply sound_get.bind
          intro b _
          simp only
          split
          next value _ => exact ih value
          next => exact sound_malformed

theorem sound_construct (id : NodeId) : Sound nodes (fun _ => True) (construct id) := by
  apply sound_get.bind
  intro b _
  split
  next => exact sound_pure trivial
  next =>
    apply (sound_nodeAt id).bind
    intro node hnode
    split
    next =>
      have hwait : Sound nodes (fun _ => True) (modify fun b : Building =>
          { b with waiting := id :: b.waiting } : Build Unit) :=
        sound_modify fun _ hb => hb
      apply hwait.bind
      intro _ _
      exact sound_remember id _
    next =>
      split
      next => exact sound_malformed
      next =>
        apply (sound_scalarText _ id).bind
        intro text htext
        split
        next => exact sound_fail (.inl (by simp))
        next =>
          split
          next => exact sound_remember id _
          next fault hfault => exact sound_fail (.inr ⟨node.tag, text, hnode.tag, htext, hfault⟩)
          next => exact sound_malformed

theorem sound_entriesOf (id : NodeId) : Sound nodes (fun _ => True) (entriesOf id) := by
  apply (sound_nodeAt id).bind
  intro node _
  split
  next => exact sound_pure trivial
  next => exact sound_malformed

theorem sound_mergeInto (bound : Nat) (id : NodeId) :
    Sound nodes (fun _ => True) (mergeInto bound id) := by
  induction bound generalizing id with
  | zero => exact sound_pure trivial
  | succ bound ih =>
      apply (sound_entriesOf id).bind
      intro entries _
      apply sound_get.bind
      intro b _
      apply (sound_setEntries id _).bind
      intro _ _
      apply Sound.bind (q := fun _ => True)
      · apply sound_forIn
        intro (key, _) _
        dsimp only
        split
        next => exact (sound_setTag (.inl rfl)).bind fun _ _ => sound_pure trivial
        next => exact sound_pure trivial
      intro _ _
      apply Sound.bind (q := fun _ => True)
      · apply sound_mapM
        intro (_, target) _
        apply (sound_nodeAt target).bind
        intro node _
        split
        next => exact sound_malformed
        next => exact (ih target).bind fun _ _ => sound_entriesOf target
        next items _ =>
          apply Sound.bind (q := fun _ => True)
          · apply sound_mapM
            intro item _
            apply (sound_entriesOf item).bind
            intro _ _
            exact (ih item).bind fun _ _ => sound_entriesOf item
          intro _ _
          exact sound_pure trivial
      intro merged _
      split
      next =>
        apply (sound_entriesOf id).bind
        intro _ _
        exact sound_setEntries id _
      next => exact sound_pure trivial

theorem sound_keyOf (id : NodeId) (value : ScalarValue) :
    Sound nodes (fun _ => True) (keyOf id value) := by
  unfold keyOf
  split
  next =>
    apply sound_get.bind
    intro b _
    apply (sound_scalarText _ id).bind
    intro text _
    exact sound_pure trivial
  next => exact sound_pure trivial

theorem sound_mappingEntries (id : NodeId) :
    Sound nodes (fun _ => True) (mappingEntries id) := by
  apply (sound_entriesOf id).bind
  intro _ _
  apply sound_get.bind
  intro b _
  apply (sound_mergeInto _ id).bind
  intro _ _
  apply (sound_entriesOf id).bind
  intro entries _
  apply Sound.bind (q := fun _ => True)
  · apply sound_foldlM
    intro done (key, value)
    apply (sound_construct key).bind
    intro r _
    split
    next => exact sound_malformed
    next scalar =>
      apply (sound_keyOf key scalar).bind
      intro _ _
      exact (sound_construct value).bind fun _ _ => sound_pure trivial
  intro found _
  exact sound_pure trivial

theorem sound_pairItems (id : NodeId) : Sound nodes (fun _ => True) (pairItems id) := by
  apply (sound_nodeAt id).bind
  intro node _
  split
  next items _ =>
    apply sound_mapM
    intro item _
    apply (sound_entriesOf item).bind
    intro entries _
    split
    next key value =>
      apply (sound_construct key).bind
      intro _ _
      exact (sound_construct value).bind fun _ _ => sound_pure trivial
    next => exact sound_malformed
  next => exact sound_malformed

theorem sound_fill (id : NodeId) : Sound nodes (fun _ => True) (fill id) := by
  apply (sound_nodeAt id).bind
  intro node _
  split
  next =>
    split
    next items _ =>
      apply Sound.bind (sound_mapM fun item _ => sound_construct item)
      intro _ _
      exact sound_setCollection id _
    next => exact sound_malformed
  next =>
    split
    next => exact (sound_mappingEntries id).bind fun _ _ => sound_setCollection id _
    next =>
      split
      next => exact (sound_mappingEntries id).bind fun _ _ => sound_setCollection id _
      next => exact (sound_pairItems id).bind fun _ _ => sound_setCollection id _

theorem sound_fillAll (rounds : Nat) : Sound nodes (fun _ => True) (fillAll rounds) := by
  induction rounds with
  | zero => exact sound_pure trivial
  | succ rounds ih =>
      apply sound_get.bind
      intro b _
      dsimp only
      split
      next => exact sound_pure trivial
      next =>
        have hclear : Sound nodes (fun _ => True) (modify fun b : Building =>
            { b with waiting := [] } : Build Unit) :=
          sound_modify fun _ hb => hb
        apply hclear.bind
        intro _ _
        apply Sound.bind (q := fun _ => True)
        · apply sound_forIn
          intro waiting _
          exact (sound_fill waiting).bind fun _ _ => sound_pure trivial
        intro _ _
        exact ih

end

theorem readScalar?_text (s : String) : readScalar? Tag.text s = some (.ok (.text s)) := by
  have hothers : Tag.text ≠ Tag.null ∧ Tag.text ≠ Tag.bool ∧ Tag.text ≠ Tag.integer ∧
      Tag.text ≠ Tag.number ∧ Tag.text ≠ Tag.octets ∧ Tag.text ≠ Tag.timestamp := by decide
  unfold readScalar?
  simp only [hothers, if_false, if_true]

/-- A text is never refused, so the tag of what is refused is one of a node. -/
theorem RefusesScalar.of_node {nodes : Array GraphNode} {cause : ScalarFault}
    (h : RefusesScalar nodes cause) :
    ∃ id other s, (nodes.getD other default).shape = .scalar s ∧
      readScalar? (nodes.getD id default).tag s = some (.error cause) := by
  obtain ⟨tag, s, htag, ⟨other, htext⟩, hrefused⟩ := h
  rcases htag with rfl | ⟨id, rfl⟩
  · simp [readScalar?_text] at hrefused
  · exact ⟨id, other, s, htext, hrefused⟩

theorem fault_of_valueOf {text : List Char} {fault : OutlineFault}
    (hfault : valueOf text = .error fault) :
    (∃ form, fault = .form form) ∨
      ∃ graph cause, graphOf text = .ok graph ∧ fault = .scalar cause ∧
        (cause ∈ [.malformed, .dateInMapping] ∨ RefusesScalar graph.nodes cause) := by
  unfold valueOf at hfault
  rcases bind_eq_error.1 hfault with hgraph | ⟨graph, hgraph, hvalue⟩
  · obtain ⟨form, -, rfl⟩ := mapError_eq_error.1 hgraph
    exact .inl ⟨form, rfl⟩
  · rw [mapError_eq_ok] at hgraph
    split at hvalue
    next => cases hvalue
    next root _ =>
      have hbuild : Sound graph.nodes (fun _ => True) (do
          let r ← construct root
          fillAll (graph.nodes.size + 1)
          pure r) := by
        apply (sound_construct root).bind
        intro r _
        exact (sound_fillAll _).bind fun _ _ => sound_pure trivial
      rcases bind_eq_error.1 hvalue with hrun | ⟨_, -, hend⟩
      · have hsound := (hbuild _ (keepsScalars_of_nodes_eq rfl)).2 fault hrun
        cases fault with
        | form form => exact .inl ⟨form, rfl⟩
        | scalar cause => exact .inr ⟨graph, cause, hgraph, rfl, hsound⟩
      · cases hend

/-- An outline that is written properly has no value only if it names a
character that is none, or has an escaped number that cannot be held, or is
nested too deep, or calls a mapping a date, or if a scalar in it cannot be read
as the tag of a node demands. -/
theorem unexpected_of_valueOf {text : List Char} {fault : OutlineFault}
    (hfault : valueOf text = .error fault) (hunexpected : fault.isMalformed = false) :
    fault ∈ [.form .beyondCharacters, .form .beyondNumbers, .form .nestedTooDeep,
        .scalar .dateInMapping] ∨
      ∃ graph id other s cause, graphOf text = .ok graph ∧
        (graph.nodes.getD other default).shape = .scalar s ∧
        readScalar? (graph.nodes.getD id default).tag s = some (.error cause) ∧
        fault = .scalar cause := by
  rcases fault_of_valueOf hfault with ⟨form, rfl⟩ | ⟨graph, cause, hgraph, rfl, hcause⟩
  · cases form with
    | malformed => cases hunexpected
    | beyondCharacters | beyondNumbers | nestedTooDeep => exact .inl (by simp)
  · rcases hcause with hcause | hrefused
    · simp only [List.mem_cons, List.not_mem_nil, or_false] at hcause
      rcases hcause with rfl | rfl
      · cases hunexpected
      · exact .inl (by simp)
    · obtain ⟨id, other, s, htext, hread⟩ := hrefused.of_node
      exact .inr ⟨graph, id, other, s, cause, hgraph, htext, hread, rfl⟩

end Outline

end PolicyKeeper
