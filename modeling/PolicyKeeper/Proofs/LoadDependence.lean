import PolicyKeeper.Proofs.LoadOutcomes

/-!
# Files that a load reads

A load depends on its own file and on those that are included below it, however
far down, and on nothing else in the store.  Where two stores have the same
content for all of them, the load comes to the same on the same stack.
-/

namespace PolicyKeeper

variable {τ : Type}

namespace Inclusion

/-! ## Included files -/

mutual

def filesOfNode (files : Surroundings → Element → List String) (here : Surroundings) :
    Node → List String
  | .text _ => []
  | .remark => []
  | .element tag attributes content =>
      if tag = includeTag then files here { tag, attributes, content }
      else if tag = fallbackTag then []
      else filesOfNodes files { here with nesting := here.nesting + 1 } content

def filesOfNodes (files : Surroundings → Element → List String) (here : Surroundings) :
    List Node → List String
  | [] => []
  | node :: rest => filesOfNode files here node ++ filesOfNodes files here rest

end

/-- The files that are read for a directive; `rootFiles` gives those of an
included root. -/
def filesOfDirective (rootFiles : Surroundings → String → List String) (here : Surroundings)
    (directive : Element) : List String :=
  match target here (directive.attribute? "href") with
  | .error _ => []
  | .ok path =>
      let kind := (directive.attribute? "parse").getD "xml"
      if kind = "xml" then if here.targets.contains path then [] else rootFiles here path
      else if kind = "text" then [path]
      else []

/-- The files that are read for a target with its own directives, where a chain
of `chain` files is allowed. -/
def includedFiles (store : FileStore τ) : Nat → Surroundings → String → List String
  | 0, _, _ => []
  | chain + 1, here, path =>
      path :: match loadElement store path with
        | .error _ => []
        | .ok root =>
            filesOfNodes (filesOfDirective (includedFiles store chain)) (here.within path)
              root.content

def filesBelow (store : FileStore τ) (base : String) (e : Element) : List String :=
  let start := Place.start base e
  filesOfNodes (filesOfDirective (includedFiles store start.chain)) start.here start.nodes

/-! ## Agreement of expansions -/

/-- Directives are replaced the same way where the files read for them are the
same. -/
def AgreeOnFiles (store store' : FileStore τ) (files : Surroundings → Element → List String)
    (replace replace' : Surroundings → Element → Except InclusionFault Node) : Prop :=
  ∀ here directive, (∀ path ∈ files here directive, store'.read path = store.read path) →
    replace' here directive = replace here directive

variable {stack : CallStack} {store store' : FileStore τ}
  {files : Surroundings → Element → List String}
  {replace replace' : Surroundings → Element → Except InclusionFault Node}

mutual

theorem expandNode_congr (hagree : AgreeOnFiles store store' files replace replace') :
    ∀ (here : Surroundings) (node : Node),
      (∀ path ∈ filesOfNode files here node, store'.read path = store.read path) →
        expandNode stack replace' here node = expandNode stack replace here node
  | _, .text s, _ => rfl
  | _, .remark, _ => rfl
  | here, .element tag attributes content, hfiles => by
      unfold filesOfNode at hfiles
      unfold expandNode
      split
      next => rfl
      next =>
        split
        next htag =>
          rw [if_pos htag] at hfiles
          exact hagree here _ hfiles
        next htag =>
          rw [if_neg htag] at hfiles
          split
          next => rfl
          next hfallback =>
            rw [if_neg hfallback] at hfiles
            rw [expandNodes_congr hagree _ content hfiles]

theorem expandNodes_congr (hagree : AgreeOnFiles store store' files replace replace') :
    ∀ (here : Surroundings) (nodes : List Node),
      (∀ path ∈ filesOfNodes files here nodes, store'.read path = store.read path) →
        expandNodes stack replace' here nodes = expandNodes stack replace here nodes
  | _, [], _ => rfl
  | here, node :: rest, hfiles => by
      unfold filesOfNodes at hfiles
      rw [List.forall_mem_append] at hfiles
      unfold expandNodes
      rw [expandNode_congr hagree here node hfiles.1, expandNodes_congr hagree here rest hfiles.2]

end

theorem loadElement_congr {path : String} (hread : store'.read path = store.read path) :
    loadElement store' path = loadElement store path := by
  unfold loadElement
  rw [hread]

theorem loadText_congr {path : String} (hread : store'.read path = store.read path)
    (encoding : Option String) : loadText store' path encoding = loadText store path encoding := by
  unfold loadText
  rw [hread]

theorem replacement_congr {rootFiles : Surroundings → String → List String}
    {loadRoot loadRoot' : Surroundings → String → Except InclusionFault Element}
    (hroot : ∀ here path, (∀ file ∈ rootFiles here path, store'.read file = store.read file) →
      loadRoot' here path = loadRoot here path) :
    AgreeOnFiles store store' (filesOfDirective rootFiles) (replacement store loadRoot)
      (replacement store' loadRoot') := by
  intro here directive hfiles
  unfold filesOfDirective at hfiles
  unfold replacement
  cases htarget : target here (directive.attribute? "href") with
  | error fault =>
      simp only [htarget, error_bind]
  | ok path =>
      simp only [htarget] at hfiles ⊢
      split
      next hkind =>
        rw [if_pos hkind] at hfiles
        show (if _ then _ else _) = (if _ then _ else _)
        split
        next => rfl
        next hnew =>
          rw [if_neg hnew] at hfiles
          rw [hroot here path hfiles]
      next hkind =>
        rw [if_neg hkind] at hfiles
        split
        next htext =>
          rw [if_pos htext] at hfiles
          have hread := hfiles path (List.mem_singleton_self path)
          show (loadText store' path _ >>= _) = (loadText store path _ >>= _)
          rw [loadText_congr hread]
        next => rfl

theorem includedRoot_congr {chain : Nat} {here : Surroundings} {path : String}
    (hfiles : ∀ file ∈ includedFiles store chain here path, store'.read file = store.read file) :
    includedRoot stack store' chain here path = includedRoot stack store chain here path := by
  induction chain generalizing here path with
  | zero => rfl
  | succ chain ih =>
      unfold includedFiles at hfiles
      rw [List.forall_mem_cons] at hfiles
      obtain ⟨hread, hbelow⟩ := hfiles
      unfold includedRoot enter
      simp only [loadElement_congr hread, Nat.add_sub_cancel]
      cases hload : loadElement store path with
      | error fault => simp only [error_bind]
      | ok root =>
          simp only [hload] at hbelow
          simp only [ok_bind, expandWithin_eq]
          rw [expandNodes_congr (replacement_congr fun _ _ => ih) _ root.content hbelow]

/-- Expansions agree where all files that are read for one of them have the same
content for the other. -/
theorem expand_congr {base : String} {e : Element}
    (hfiles : ∀ path ∈ filesBelow store base e, store'.read path = store.read path) :
    expand stack store' base e = expand stack store base e := by
  have hagree : AgreeOnFiles store store' _
      (replacement store (includedRoot stack store longestChain))
      (replacement store' (includedRoot stack store' longestChain)) :=
    replacement_congr fun _ _ => includedRoot_congr
  have hcontent : expandNodes stack (replacement store' (includedRoot stack store' longestChain))
      ⟨base, [], 0⟩ e.content = _ := expandNodes_congr hagree ⟨base, [], 0⟩ e.content hfiles
  unfold expand
  rw [expandWithin_eq, expandWithin_eq, hcontent]

end Inclusion

namespace PolicyFile

def filesIncluded (store : FileStore τ) (includes : Bool) (path : String) : List String :=
  match includes, Inclusion.loadElement store path with
  | true, .ok root => Inclusion.filesBelow store path root
  | _, _ => []

variable {stack : CallStack} {store store' : FileStore τ} {includes : Bool} {path : String}

theorem expandIncludes_congr {octets : Octets} {root : Element}
    (hoctets : store.read path = .ok octets) (hroot : Markup.readOctets octets = .ok root)
    (hincluded : ∀ file ∈ filesIncluded store includes path,
      store'.read file = store.read file) :
    expandIncludes stack store' includes path root =
      expandIncludes stack store includes path root := by
  unfold expandIncludes
  cases includes with
  | false => simp only [Bool.false_eq_true, if_false]
  | true =>
      have hloaded : Inclusion.loadElement store path = .ok root :=
        bind_eq_ok.2 ⟨octets, mapError_eq_ok.2 hoctets, mapError_eq_ok.2 hroot⟩
      simp only [filesIncluded, hloaded] at hincluded
      simp only [if_true, Inclusion.expand_congr hincluded]

/-- Where the content is the same, the same load succeeds. -/
theorem load_eq_ok_congr {set : PolicySet} (hread : store'.read path = store.read path)
    (hincluded : ∀ file ∈ filesIncluded store includes path,
      store'.read file = store.read file) :
    (load stack store' includes path).outcome = .ok set ↔
      (load stack store includes path).outcome = .ok set := by
  constructor
  · intro hload
    obtain ⟨octets, root, expanded, hoctets, hroot, hexpanded, hset⟩ := load_eq_ok_iff.1 hload
    rw [hread] at hoctets
    rw [expandIncludes_congr hoctets hroot hincluded] at hexpanded
    exact load_eq_ok_iff.2 ⟨octets, root, expanded, hoctets, hroot, hexpanded, hset⟩
  · intro hload
    obtain ⟨octets, root, expanded, hoctets, hroot, hexpanded, hset⟩ := load_eq_ok_iff.1 hload
    rw [← expandIncludes_congr hoctets hroot hincluded] at hexpanded
    rw [← hread] at hoctets
    exact load_eq_ok_iff.2 ⟨octets, root, expanded, hoctets, hroot, hexpanded, hset⟩

/-- A load that succeeds does so wherever it finds the same content. -/
theorem load_of_sameContent {set : PolicySet}
    (hload : (load stack store includes path).outcome = .ok set)
    (hread : store'.read path = store.read path)
    (hincluded : ∀ file ∈ filesIncluded store includes path,
      store'.read file = store.read file) :
    (load stack store' includes path).outcome = .ok set :=
  (load_eq_ok_congr hread hincluded).2 hload

end PolicyFile

end PolicyKeeper
