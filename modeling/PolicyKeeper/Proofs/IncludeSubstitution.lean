import PolicyKeeper.Proofs.IncludeChains
import PolicyKeeper.Proofs.LoadOutcomes

/-!
# Inclusion as substitution

Expanding a document means putting in the place of each directive the root
element of the file that it names, with its own directives replaced.  A load
either does this throughout, and builds what comes of it, or it is refused as a
whole.  So where elements stand, in the document or in files of their own, does
not matter.
-/

namespace PolicyKeeper

variable {τ : Type} {store : FileStore τ} {stack : CallStack}

namespace Inclusion

/-! ## Substitution -/

/-- The second nodes are the first ones with each directive replaced by the root
of the file it names, whatever the number of files. -/
inductive Expands (store : FileStore τ) : List Node → List Node → Prop
  | nil : Expands store [] []
  | text {s : String} {rest rest' : List Node} (hrest : Expands store rest rest') :
      Expands store (.text s :: rest) (.text s :: rest')
  | remark {rest rest' : List Node} (hrest : Expands store rest rest') :
      Expands store (.remark :: rest) (.remark :: rest')
  | element {tag : String} {attributes : List (String × String)}
      {content content' rest rest' : List Node} (hplain : Place.IsPlain tag)
      (hcontent : Expands store content content') (hrest : Expands store rest rest') :
      Expands store (.element tag attributes content :: rest)
        (.element tag attributes content' :: rest')
  | directive {attributes : List (String × String)} {content content' rest rest' : List Node}
      {name : String} {root : Element}
      (hname : Element.attribute? ⟨includeTag, attributes, content⟩ "href" = some name)
      (hload : loadElement store name = .ok root)
      (hroot : Expands store root.content content') (hrest : Expands store rest rest') :
      Expands store (.element includeTag attributes content :: rest)
        (.element root.tag root.attributes content' :: rest')

namespace Expands

variable {nodes nodes' expanded other : List Node}

theorem unique (h : Expands store nodes expanded) (hother : Expands store nodes other) :
    other = expanded := by
  induction h generalizing other with
  | nil =>
      cases hother
      rfl
  | text _ ih =>
      cases hother with
      | text hrest => rw [ih hrest]
  | remark _ ih =>
      cases hother with
      | remark hrest => rw [ih hrest]
  | element hplain _ _ ihcontent ihrest =>
      cases hother with
      | element _ hcontent hrest => rw [ihcontent hcontent, ihrest hrest]
      | directive => exact absurd rfl hplain.1
  | directive hname hload _ _ ihroot ihrest =>
      cases hother with
      | element hplain => exact absurd rfl hplain.1
      | directive hname' hload' hroot hrest =>
          obtain rfl := Option.some.inj (hname.symm.trans hname')
          obtain rfl := Except.ok.inj (hload.symm.trans hload')
          rw [ihroot hroot, ihrest hrest]

end Expands

/-! ## Expansion is substitution -/

/-- What replaces a directive is the expanded root of the file it names. -/
def ReplacesByRoots (store : FileStore τ) (base : String)
    (replace : Surroundings → Element → Except InclusionFault Node) : Prop :=
  ∀ (here : Surroundings) (directive : Element) (node : Node), here.base = base →
    directive.tag = includeTag → IsPlainElement directive → replace here directive = .ok node →
    ∃ name root content, directive.attribute? "href" = some name ∧
      loadElement store name = .ok root ∧ Expands store root.content content ∧
      node = .element root.tag root.attributes content

section Replacing

variable {base : String} {replace : Surroundings → Element → Except InclusionFault Node}

mutual

theorem expands_of_expandNode (hreplace : ReplacesByRoots store base replace) :
    ∀ {here : Surroundings} {node node' : Node}, here.base = base →
      (∀ e ∈ metOf node, IsPlainElement e) → expandNode stack replace here node = .ok node' →
      ∀ {rest rest' : List Node}, Expands store rest rest' →
        Expands store (node :: rest) (node' :: rest')
  | _, .text s, _, _, _, hnode, _, _, hrest => by
      obtain rfl := Except.ok.inj hnode
      exact .text hrest
  | _, .remark, _, _, _, hnode, _, _, hrest => by
      obtain rfl := Except.ok.inj hnode
      exact .remark hrest
  | here, .element tag attributes content, node', hbase, hplain, hnode, rest, rest', hrest => by
      have hself := hplain ⟨tag, attributes, content⟩ (by simp [metOf])
      unfold expandNode at hnode
      split at hnode
      next => simp at hnode
      next =>
        split at hnode
        next htag =>
          subst htag
          obtain ⟨name, root, content', hname, hload, hroot, rfl⟩ :=
            hreplace here _ node' hbase rfl hself hnode
          exact .directive hname hload hroot hrest
        next htag =>
          have hinside : HasPlainDirectives content := by
            intro e hmem
            exact hplain e (by simp [metOf, htag, hmem])
          split at hnode
          next => simp at hnode
          next hfallback =>
            obtain ⟨content', hcontent, hend⟩ := bind_eq_ok.1 hnode
            obtain rfl := Except.ok.inj hend
            have hdeeper : { here with nesting := here.nesting + 1 }.base = base := hbase
            exact .element ⟨htag, hfallback⟩
              (expands_of_expandNodes hreplace hdeeper hinside hcontent) hrest

theorem expands_of_expandNodes (hreplace : ReplacesByRoots store base replace) :
    ∀ {here : Surroundings} {nodes nodes' : List Node}, here.base = base →
      HasPlainDirectives nodes → expandNodes stack replace here nodes = .ok nodes' →
      Expands store nodes nodes'
  | _, [], _, _, _, hnodes => by
      obtain rfl := Except.ok.inj hnodes
      exact .nil
  | here, node :: rest, nodes', hbase, hplain, hnodes => by
      unfold expandNodes at hnodes
      obtain ⟨node', hnode, hmore⟩ := bind_eq_ok.1 hnodes
      obtain ⟨rest', hrest, hend⟩ := bind_eq_ok.1 hmore
      obtain rfl := Except.ok.inj hend
      exact expands_of_expandNode hreplace hbase hplain.head hnode
        (expands_of_expandNodes hreplace hbase hplain.tail hrest)

end

end Replacing

/-- The roots that are included are expanded. -/
def IncludesExpanded (stack : CallStack) (store : FileStore τ) (length : Nat) : Prop :=
  ∀ (here : Surroundings) (name : String) (found : Element), IsFileName name →
    includedRoot stack store length here name = .ok found →
    ∃ root content, loadElement store name = .ok root ∧ Expands store root.content content ∧
      found = { root with content }

theorem replacesByRoots_of_includesExpanded {length : Nat} {base : String}
    (hroots : IncludesExpanded stack store length) (hbase : IsFileName base) :
    ReplacesByRoots store base (replacement store (includedRoot stack store length)) := by
  intro here directive node hhere htag hplain hreplaced
  obtain ⟨hkind, name, hname, hhref⟩ := hplain.name htag
  have hbase' : IsFileName here.base := hhere ▸ hbase
  rw [replacement_of_plain hbase' hname hkind hhref] at hreplaced
  split at hreplaced
  next => simp at hreplaced
  next =>
    obtain ⟨found, hfound, hnode⟩ := bind_eq_ok.1 hreplaced
    obtain ⟨root, content, hload, hcontent, rfl⟩ := hroots here name found hname hfound
    exact ⟨name, root, content, hhref, hload, hcontent, (Except.ok.inj hnode).symm⟩

theorem expands_of_includesExpanded (hstore : HoldsPlainDocuments store) {length : Nat}
    {here : Surroundings} {root expanded : Element} (hroots : IncludesExpanded stack store length)
    (hbase : IsFileName here.base) (hload : loadElement store here.base = .ok root)
    (hexpanded : expandWithin stack store length here root = .ok expanded) :
    ∃ content, Expands store root.content content ∧ expanded = { root with content } := by
  rw [expandWithin_eq] at hexpanded
  obtain ⟨content, hcontent, hend⟩ := bind_eq_ok.1 hexpanded
  refine ⟨content, ?_, (Except.ok.inj hend).symm⟩
  exact expands_of_expandNodes (replacesByRoots_of_includesExpanded hroots hbase) rfl
    (hstore.plain hbase hload) hcontent

theorem includesExpanded (stack : CallStack) (hstore : HoldsPlainDocuments store)
    (length : Nat) : IncludesExpanded stack store length := by
  induction length with
  | zero =>
      intro here name found _ hfound
      simp [includedRoot, enter] at hfound
  | succ length ih =>
      intro here name found hname hfound
      obtain ⟨root, hload, hexpanded⟩ := bind_eq_ok.1 hfound
      have hinside : IsFileName (here.within name).base := hname
      obtain ⟨content, hcontent, hfound⟩ :=
        expands_of_includesExpanded hstore ih hinside hload hexpanded
      exact ⟨root, content, hload, hcontent, hfound⟩

/-! ## Short chains -/

/-- Every chain of includes from a file is as short as it has to be, and all
files in it exist. -/
def HasShortChains (store : FileStore τ) (file : String) : Prop :=
  HasChainsWithin store longestChain file

/-- A document in a file with a plain name, beside other plain documents, whose
elements are not nested too deep to be gone through on the stack. -/
structure PlainSource (stack : CallStack) (store : FileStore τ) (file : String)
    (root : Element) : Prop where
  file_name : IsFileName file
  documents : HoldsPlainDocuments store
  root_eq : loadElement store file = .ok root
  nesting : ∀ place, Relation.ReflTransGen (Place.Leads stack store) (Place.start file root)
    place → ¬ place.IsTooDeep stack

namespace PlainSource

variable {file : String} {root : Element}

theorem of_expand {expanded : Element} (hfile : IsFileName file)
    (hstore : HoldsPlainDocuments store) (hload : loadElement store file = .ok root)
    (hexpanded : expand stack store file root = .ok expanded) :
    PlainSource stack store file root := by
  refine ⟨hfile, hstore, hload, ?_⟩
  intro place hreaches hdeep
  have hfault := expand_nestedTooDeep_iff.2 ⟨place, hreaches, hdeep⟩
  simp [hexpanded] at hfault

theorem expand_ne_nestedTooDeep (h : PlainSource stack store file root) :
    expand stack store file root ≠ .error .nestedTooDeep := by
  intro hdeep
  obtain ⟨place, hreaches, hplace⟩ := expand_nestedTooDeep_iff.1 hdeep
  exact h.nesting place hreaches hplace

theorem expand_of_shortChains (h : PlainSource stack store file root)
    (hchains : HasShortChains store file) :
    ∃ content, Expands store root.content content ∧
      expand stack store file root = .ok { root with content } := by
  cases hexpanded : expand stack store file root with
  | error fault =>
      obtain rfl :=
        eq_of_expand_eq_error h.documents h.file_name h.root_eq hchains hexpanded
      exact absurd hexpanded h.expand_ne_nestedTooDeep
  | ok expanded =>
      have hbase : IsFileName (Surroundings.mk file [] 0).base := h.file_name
      obtain ⟨content, hcontent, rfl⟩ :=
        expands_of_includesExpanded h.documents (includesExpanded stack h.documents _) hbase
          h.root_eq hexpanded
      exact ⟨content, hcontent, rfl⟩

theorem shortChains_of_expand (h : PlainSource stack store file root) {expanded : Element}
    (hexpanded : expand stack store file root = .ok expanded) : HasShortChains store file := by
  have hbase : IsFileName (Surroundings.mk file [] 0).base := h.file_name
  exact hasChainsWithin_of_expandWithin h.documents hbase h.root_eq hexpanded

end PlainSource

/-! ## Moved elements -/

/-- Some of the elements are moved into files of their own, and directives to
these files are in their places. -/
inductive Moved (store : FileStore τ) : List Node → List Node → Prop
  | nil : Moved store [] []
  | kept {rest rest' : List Node} (node : Node) (hrest : Moved store rest rest') :
      Moved store (node :: rest) (node :: rest')
  | moved {tag name : String} {attributes attributes' : List (String × String)}
      {content content' rest rest' : List Node} (hplain : Place.IsPlain tag)
      (hname : Element.attribute? ⟨includeTag, attributes', content'⟩ "href" = some name)
      (hload : loadElement store name = .ok ⟨tag, attributes, content⟩)
      (hrest : Moved store rest rest') :
      Moved store (.element tag attributes content :: rest)
        (.element includeTag attributes' content' :: rest')

/-- In a second store some elements of a document are moved into files of their
own, and the other files are kept. -/
structure MovesElements (store store' : FileStore τ) (file : String) (root root' : Element) :
    Prop where
  tag_eq : root'.tag = root.tag
  attributes_eq : root'.attributes = root.attributes
  moved : Moved store' root.content root'.content
  kept : ∀ name document, name ≠ file → loadElement store name = .ok document →
    loadElement store' name = .ok document

/-- What the directives among some nodes lead to is the same in both stores. -/
def AgreeBelow (store store' : FileStore τ) (nodes : List Node) : Prop :=
  ∀ directive ∈ metAmong nodes, directive.tag = includeTag →
    ∀ name, directive.attribute? "href" = some name →
      ∀ other document, Relation.ReflTransGen (Includes store) name other →
        loadElement store other = .ok document → loadElement store' other = .ok document

theorem AgreeBelow.of_subset {store' : FileStore τ} {nodes inside : List Node}
    (h : AgreeBelow store store' nodes) (hsubset : ∀ e ∈ metAmong inside, e ∈ metAmong nodes) :
    AgreeBelow store store' inside := by
  intro directive hmem
  exact h directive (hsubset directive hmem)

namespace Expands

variable {store' : FileStore τ} {nodes nodes' expanded : List Node}

theorem of_agree (h : Expands store nodes expanded) (hagree : AgreeBelow store store' nodes) :
    Expands store' nodes expanded := by
  induction h with
  | nil => exact .nil
  | text _ ih =>
      apply Expands.text
      apply ih
      apply hagree.of_subset
      intro e hmem
      simp [metAmong, hmem]
  | remark _ ih =>
      apply Expands.remark
      apply ih
      apply hagree.of_subset
      intro e hmem
      simp [metAmong, hmem]
  | element hplain _ _ ihcontent ihrest =>
      apply Expands.element hplain
      · apply ihcontent
        apply hagree.of_subset
        intro e hmem
        simp [metAmong, metOf, hplain.1, hmem]
      · apply ihrest
        apply hagree.of_subset
        intro e hmem
        simp [metAmong, hmem]
  | @directive attributes content _ rest _ name root hname hload _ _ ihroot ihrest =>
      have hself : (⟨includeTag, attributes, content⟩ : Element) ∈
          metAmong (.element includeTag attributes content :: rest) := by
        simp [metAmong, metOf]
      have hbelow := hagree _ hself rfl name hname
      apply Expands.directive hname (hbelow name root .refl hload)
      · apply ihroot
        intro directive hmem htag target htarget other document hreaches
        have hincludes : Includes store name target :=
          ⟨root, directive, hload, hmem, htag, htarget⟩
        exact hbelow other document (hreaches.head hincludes)
      · apply ihrest
        apply hagree.of_subset
        intro e hmem
        simp [metAmong, hmem]

theorem of_moved (hmoved : Moved store nodes nodes') (h : Expands store nodes expanded) :
    Expands store nodes' expanded := by
  induction hmoved generalizing expanded with
  | nil => exact h
  | kept node _ ih =>
      cases h with
      | text hrest => exact .text (ih hrest)
      | remark hrest => exact .remark (ih hrest)
      | element hplain hcontent hrest => exact .element hplain hcontent (ih hrest)
      | directive hname hload hroot hrest => exact .directive hname hload hroot (ih hrest)
  | moved hplain hname hload _ ih =>
      cases h with
      | element _ hcontent hrest => exact .directive hname hload hcontent (ih hrest)
      | directive => exact absurd rfl hplain.1

end Expands

/-- Where chains are bounded, a document does not depend on its own file. -/
theorem MovesElements.agreeBelow {store' : FileStore τ} {file : String} {root root' : Element}
    (h : MovesElements store store' file root root') (hload : loadElement store file = .ok root)
    (hchains : HasShortChains store file) : AgreeBelow store store' root.content := by
  intro directive hmem htag name hname other document hreaches
  have hincludes : Includes store file name := ⟨root, directive, hload, hmem, htag, hname⟩
  apply h.kept
  rintro rfl
  exact hchains.acyclic (.head' hincludes hreaches)

/-! ## Loads -/

theorem load_of_loadElement {file : String} {root : Element}
    (hload : loadElement store file = .ok root) :
    PolicyFile.load stack store true file =
      Noted.note (.reading file) >>= fun _ =>
        PolicyFile.ofElement stack store true file file root := by
  obtain ⟨octets, hread, hroot⟩ := read_of_loadElement hload
  have hcontains : store.contains file = true := by
    obtain ⟨entry, hentry, -⟩ := bind_eq_ok.1 hread
    simp [FileStore.contains, hentry]
  unfold PolicyFile.load
  simp only [hcontains, hread, hroot, mapError_ok, Noted.ofExcept_ok_bind, Bool.not_true,
    Bool.false_eq_true, if_false]

theorem load_of_expand {file : String} {root expanded : Element}
    (hload : loadElement store file = .ok root)
    (hexpanded : expand stack store file root = .ok expanded) :
    let built := PolicyDocument.policySet file expanded
    PolicyFile.load stack store true file =
      ⟨.reading file :: built.notices, built.outcome.mapError .build⟩ := by
  intro built
  have hbuilt : PolicyFile.ofElement stack store true file file root = built.mapFault .build := by
    unfold PolicyFile.ofElement PolicyFile.expandIncludes
    simp only [if_true, hexpanded, mapError_ok, Noted.ofExcept_ok_bind, built]
  rw [load_of_loadElement hload, Noted.note_bind, hbuilt]
  simp only [Noted.mapFault]

theorem load_of_expand_error {file : String} {root : Element} {fault : InclusionFault}
    (hload : loadElement store file = .ok root)
    (hfault : expand stack store file root = .error fault) :
    (PolicyFile.load stack store true file).outcome = .error (.inclusion fault) := by
  have hstopped : (PolicyFile.expandIncludes stack store true file root).outcome =
      .error (.inclusion fault) := by
    unfold PolicyFile.expandIncludes
    simp only [if_true, hfault, mapError_error, Noted.outcome_ofExcept]
  rw [load_of_loadElement hload, Noted.outcome_bind, Noted.outcome_note, ok_bind,
    PolicyFile.outcome_ofElement, hstopped, error_bind]

/-! ## Loads that substitute -/

/-- A plain document is loaded as the document without directives that it stands
for, if the chains of includes are short and end in files that exist.  If not,
it is refused, and no policy of it is returned.  It makes no difference whether
elements stand in the document or in files that it includes. -/
theorem substituted_or_refused {file : String} {root : Element}
    (h : PlainSource stack store file root) :
    (HasShortChains store file →
      ∃ content, Expands store root.content content ∧
        (∀ other, Expands store root.content other → other = content) ∧
        let built := PolicyDocument.policySet file { root with content }
        PolicyFile.load stack store true file =
          ⟨.reading file :: built.notices, built.outcome.mapError .build⟩) ∧
    (¬ HasShortChains store file →
      ∃ fault, (PolicyFile.load stack store true file).outcome = .error (.inclusion fault) ∧
        (LoadFault.inclusion fault).isExpected = true) ∧
    (∀ name, Relation.ReflTransGen (Includes store) file name →
      Relation.TransGen (Includes store) name name → ¬ HasShortChains store file) ∧
    ∀ (stack' : CallStack) (store' : FileStore τ) (root' : Element),
      PlainSource stack' store' file root' →
      MovesElements store store' file root root' → HasShortChains store file →
      HasShortChains store' file →
      PolicyFile.load stack' store' true file = PolicyFile.load stack store true file := by
  refine ⟨?_, ?_, ?_, ?_⟩
  · intro hchains
    obtain ⟨content, hcontent, hexpanded⟩ := h.expand_of_shortChains hchains
    refine ⟨content, hcontent, ?_, load_of_expand h.root_eq hexpanded⟩
    intro other hother
    exact hcontent.unique hother
  · intro hlong
    cases hexpanded : expand stack store file root with
    | ok expanded => exact absurd (h.shortChains_of_expand hexpanded) hlong
    | error fault =>
        refine ⟨fault, load_of_expand_error h.root_eq hexpanded, ?_⟩
        have hnamed : fault ≠ .withoutTarget := by
          rintro rfl
          exact expand_ne_withoutTarget stack store h.file_name.ne_empty root hexpanded
        have hshallow : fault ≠ .nestedTooDeep := by
          rintro rfl
          exact h.expand_ne_nestedTooDeep hexpanded
        cases fault <;> first | rfl | contradiction
  · intro name hreaches hcycle hchains
    exact hchains.acyclic_of_reaches hreaches hcycle
  · intro stack' store' root' h' hmoves hchains hchains'
    obtain ⟨content, hcontent, hexpanded⟩ := h.expand_of_shortChains hchains
    obtain ⟨content', hcontent', hexpanded'⟩ := h'.expand_of_shortChains hchains'
    have hmoved : Expands store' root'.content content :=
      .of_moved hmoves.moved (hcontent.of_agree (hmoves.agreeBelow h.root_eq hchains))
    obtain rfl := hmoved.unique hcontent'
    have hroots : ({ root' with content := content' } : Element) =
        { root with content := content' } := by
      rw [hmoves.tag_eq, hmoves.attributes_eq]
    rw [load_of_expand h'.root_eq hexpanded', load_of_expand h.root_eq hexpanded, hroots]

/-- Two policies in files of their own share a destination in a third file. -/
def sharingStore : FileStore Binary64 :=
  let namespaces := " xmlns:i='http://www.w3.org/2001/XInclude'>"
  let main := PolicyFile.octetsOf ["<configuration", namespaces,
    "<i:include href='a.xml'/><i:include href='b.xml'/></configuration>"]
  let policy := fun name => PolicyFile.octetsOf ["<srcPath name='", name, "'", namespaces,
    "<property><name>replication</name><value>2</value></property>",
    "<property><name>modTimePeriod</name><value>60</value></property>",
    "<i:include href='d.xml'/></srcPath>"]
  let destination := PolicyFile.octetsOf ["<destPath name='d'><property><name>replication</name>",
    "<value>1</value></property></destPath>"]
  [("p.xml", main), ("a.xml", policy "/a"), ("b.xml", policy "/b"), ("d.xml", destination)].foldl
    (fun store (name, octets) => store.write name (.file octets 900)) .empty

theorem sharingStore_documents : HoldsPlainDocuments sharingStore := by
  apply holdsPlainDocuments_of_entries
  decide +kernel

theorem sharingStore_source :
    ∃ root, PlainSource .endless sharingStore "p.xml" root ∧
      HasShortChains sharingStore "p.xml" := by
  obtain ⟨root, hload, expanded, hexpanded, -⟩ :
      ∃ root, loadElement sharingStore "p.xml" = .ok root ∧
        ∃ expanded, expand .endless sharingStore "p.xml" root = .ok expanded ∧ True := by
    decide +kernel
  have hsource : PlainSource .endless sharingStore "p.xml" root :=
    .of_expand (by decide) sharingStore_documents hload hexpanded
  exact ⟨root, hsource, hsource.shortChains_of_expand hexpanded⟩

theorem sharingStore_loads :
    ∃ set, (PolicyFile.load .endless sharingStore true "p.xml").outcome = .ok set ∧
      set.names = ["/a", "/b"] := by
  decide +kernel

theorem substituted_or_refused_sharing :
    ∃ root content set, PlainSource .endless sharingStore "p.xml" root ∧
      HasShortChains sharingStore "p.xml" ∧ Expands sharingStore root.content content ∧
      (PolicyFile.load .endless sharingStore true "p.xml").outcome =
        (PolicyDocument.policySet "p.xml" { root with content }).outcome.mapError .build ∧
      (PolicyFile.load .endless sharingStore true "p.xml").outcome = .ok set ∧
      set.names = ["/a", "/b"] := by
  obtain ⟨root, hsource, hchains⟩ := sharingStore_source
  obtain ⟨set, hset, hnames⟩ := sharingStore_loads
  obtain ⟨content, hcontent, -, hbuilt⟩ := (substituted_or_refused hsource).1 hchains
  refine ⟨root, content, set, hsource, hchains, hcontent, ?_, hset, hnames⟩
  rw [hbuilt]

end Inclusion

end PolicyKeeper
