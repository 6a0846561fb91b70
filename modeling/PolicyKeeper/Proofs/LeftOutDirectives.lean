import PolicyKeeper.Proofs.CallStacks
import PolicyKeeper.Proofs.FileFaults
import PolicyKeeper.Proofs.IncludeChains
import PolicyKeeper.Proofs.LoadNotices

/-!
# Directives that are left out

Where inclusion is switched off, a document means what is left of it without
its directives.  Each directive goes with all that is in it and with the text
that follows it, and each that does not stand in another one is warned of.
Nothing but the document is read, so a document without directives means the
same with inclusion and without.
-/

namespace PolicyKeeper

variable {τ : Type} {stack : CallStack}

def Node.isText : Node → Bool
  | .text _ => true
  | .element _ _ _ => false
  | .remark => false

namespace Inclusion

/-! ## Pruned trees -/

/-- The second nodes are the first ones without directives, at any depth.  The
text after an element belongs to it, and goes with it. -/
inductive Prunes : List Node → List Node → Prop
  | nil : Prunes [] []
  | text {s : String} {rest rest' : List Node} (hrest : Prunes rest rest') :
      Prunes (.text s :: rest) (.text s :: rest')
  | remark {rest rest' : List Node} (hrest : Prunes rest rest') :
      Prunes (.remark :: rest) (.remark :: rest')
  | element {tag : String} {attributes : List (String × String)}
      {content content' rest rest' : List Node} (htag : tag ≠ includeTag)
      (hcontent : Prunes content content') (hrest : Prunes rest rest') :
      Prunes (.element tag attributes content :: rest) (.element tag attributes content' :: rest')
  | directive {attributes : List (String × String)} {content rest rest' : List Node}
      (hrest : Prunes (rest.dropWhile Node.isText) rest') :
      Prunes (.element includeTag attributes content :: rest) rest'

theorem Prunes.unique {nodes pruned other : List Node} (h : Prunes nodes pruned)
    (hother : Prunes nodes other) : other = pruned := by
  induction h generalizing other with
  | nil =>
      cases hother
      rfl
  | text _ ih =>
      cases hother with
      | text hrest => rw [ih hrest]
  | remark _ ih =>
      cases hother with
      | remark hrest => rw [ih hrest]
  | element htag _ _ ihcontent ihrest =>
      cases hother with
      | element _ hcontent hrest => rw [ihcontent hcontent, ihrest hrest]
      | directive => exact absurd rfl htag
  | directive _ ih =>
      cases hother with
      | element htag => exact absurd rfl htag
      | directive hrest => exact ih hrest

/-- Directives are taken out one level after the other.  Right after one, texts
are passed over first. -/
theorem prunes_stripNodes : ∀ nodes : List Node,
    Prunes nodes (withoutDirectives false (stripNodes nodes).1) ∧
      Prunes (nodes.dropWhile Node.isText) (withoutDirectives true (stripNodes nodes).1)
  | [] => ⟨.nil, .nil⟩
  | .text s :: rest => by
      obtain ⟨hrest, hafter⟩ := prunes_stripNodes rest
      exact ⟨.text hrest, hafter⟩
  | .remark :: rest => by
      obtain ⟨hrest, -⟩ := prunes_stripNodes rest
      exact ⟨.remark hrest, .remark hrest⟩
  | .element tag attributes content :: rest => by
      obtain ⟨hrest, hafter⟩ := prunes_stripNodes rest
      obtain ⟨hcontent, -⟩ := prunes_stripNodes content
      by_cases htag : tag = includeTag
      · subst htag
        have hleft : ∀ after, withoutDirectives after
            (stripNodes (.element includeTag attributes content :: rest)).1 =
              withoutDirectives true (stripNodes rest).1 := by
          simp [stripNodes, withoutDirectives]
        rw [hleft, hleft]
        exact ⟨.directive hafter, .directive hafter⟩
      · have hkept : ∀ after, withoutDirectives after
            (stripNodes (.element tag attributes content :: rest)).1 =
              .element tag attributes (withoutDirectives false (stripNodes content).1) ::
                withoutDirectives false (stripNodes rest).1 := by
          simp [stripNodes, stripNode, withoutDirectives, htag]
        rw [hkept, hkept]
        exact ⟨.element htag hcontent hrest, .element htag hcontent hrest⟩

theorem prunes_strip (e : Element) : Prunes e.content (strip e).1.content :=
  (prunes_stripNodes e.content).1

theorem strip_of_prunes {e : Element} {content : List Node} (h : Prunes e.content content) :
    (strip e).1 = { e with content } := by
  show { e with content := (strip e).1.content } = { e with content }
  rw [h.unique (prunes_strip e)]

/-! ## What is warned of -/

/-- The directives that do not stand in another one, in document order. -/
def outermostDirectives (nodes : List Node) : List Element :=
  (metAmong nodes).filter (·.tag = includeTag)

def ignored (directive : Element) : LoadNotice := .includeIgnored (directive.attribute? "href")

/-- Notices come level by level, and not in document order. -/
theorem ignored_perm : ∀ nodes : List Node,
    (ignoredHere nodes ++ (stripNodes nodes).2).Perm ((outermostDirectives nodes).map ignored)
  | [] => .nil
  | .text s :: rest => ignored_perm rest
  | .remark :: rest => ignored_perm rest
  | .element tag attributes content :: rest => by
      have hrest := ignored_perm rest
      have hcontent := ignored_perm content
      by_cases htag : tag = includeTag
      · subst htag
        have hself : (outermostDirectives (.element includeTag attributes content :: rest)).map
            ignored = ignored ⟨includeTag, attributes, content⟩ ::
              (outermostDirectives rest).map ignored := by
          simp [outermostDirectives, metAmong, metOf]
        have hnotices : ignoredHere (.element includeTag attributes content :: rest) ++
            (stripNodes (.element includeTag attributes content :: rest)).2 =
              ignored ⟨includeTag, attributes, content⟩ ::
                (ignoredHere rest ++ (stripNodes rest).2) := by
          simp [ignoredHere, Element.elementsOf, stripNodes, ignored]
        rw [hself, hnotices]
        exact hrest.cons _
      · have hinside : (outermostDirectives (.element tag attributes content :: rest)).map ignored =
            (outermostDirectives content).map ignored ++
              (outermostDirectives rest).map ignored := by
          simp [outermostDirectives, metAmong, metOf, htag]
        have hnotices : ignoredHere (.element tag attributes content :: rest) ++
            (stripNodes (.element tag attributes content :: rest)).2 =
              ignoredHere rest ++ ((ignoredHere content ++ (stripNodes content).2) ++
                (stripNodes rest).2) := by
          simp [ignoredHere, Element.elementsOf, stripNodes, stripNode, htag]
        rw [hinside, hnotices]
        refine (List.perm_append_comm_assoc _ _ _).trans ?_
        exact hcontent.append hrest

theorem notices_strip_perm (e : Element) :
    (strip e).2.Perm ((outermostDirectives e.content).map ignored) := ignored_perm e.content

/-! ## Trees without directives -/

/-- No element is one that inclusion knows. -/
def IsPlainTree (nodes : List Node) : Prop := ∀ e ∈ metAmong nodes, Place.IsPlain e.tag

theorem isPlainTree_cons_element {tag : String} {attributes : List (String × String)}
    {content rest : List Node} :
    IsPlainTree (.element tag attributes content :: rest) ↔
      Place.IsPlain tag ∧ IsPlainTree content ∧ IsPlainTree rest := by
  unfold IsPlainTree
  by_cases htag : tag = includeTag
  · subst htag
    simp [metAmong, metOf, Place.IsPlain]
  · simp [metAmong, metOf, htag, or_imp, forall_and]

mutual

def heightOf : Node → Nat
  | .element _ _ content => height content + 1
  | .text _ => 0
  | .remark => 0

/-- The greatest number of elements that are nested in one another. -/
def height : List Node → Nat
  | [] => 0
  | node :: rest => max (heightOf node) (height rest)

end

@[simp] theorem height_cons_text (s : String) (rest : List Node) :
    height (.text s :: rest) = height rest := by
  rw [height, heightOf, Nat.zero_max]

@[simp] theorem height_cons_remark (rest : List Node) : height (.remark :: rest) = height rest := by
  rw [height, heightOf, Nat.zero_max]

@[simp] theorem height_cons_element (tag : String) (attributes : List (String × String))
    (content rest : List Node) :
    height (.element tag attributes content :: rest) = max (height content + 1) (height rest) := by
  rw [height, heightOf]

theorem IsPlainTree.prunes_self : ∀ {nodes : List Node}, IsPlainTree nodes → Prunes nodes nodes
  | [], _ => .nil
  | .text _ :: _, h => .text (prunes_self h)
  | .remark :: _, h => .remark (prunes_self h)
  | .element _ _ _ :: _, h => by
      obtain ⟨hself, hcontent, hrest⟩ := isPlainTree_cons_element.1 h
      exact .element hself.1 (prunes_self hcontent) (prunes_self hrest)

theorem IsPlainTree.expandNodes
    (replace : Surroundings → Element → Except InclusionFault Node) :
    ∀ {nodes : List Node} {here : Surroundings}, IsPlainTree nodes →
      stack.HasRoom (here.nesting + height nodes) →
      Inclusion.expandNodes stack replace here nodes = .ok nodes
  | [], _, _, _ => rfl
  | .text s :: rest, here, h, hroom => by
      have hrest : IsPlainTree rest := h
      rw [height_cons_text] at hroom
      rw [Inclusion.expandNodes, expandNode, ok_bind, expandNodes replace hrest hroom, ok_bind]
  | .remark :: rest, here, h, hroom => by
      have hrest : IsPlainTree rest := h
      rw [height_cons_remark] at hroom
      rw [Inclusion.expandNodes, expandNode, ok_bind, expandNodes replace hrest hroom, ok_bind]
  | .element tag attributes content :: rest, here, h, hroom => by
      obtain ⟨⟨hinclude, hfallback⟩, hcontent, hrest⟩ := isPlainTree_cons_element.1 h
      rw [height_cons_element] at hroom
      have hhere : stack.isUsedUp here ⟨tag, attributes, content⟩ = false :=
        hroom here _ (by omega)
      have hdeeper : stack.HasRoom (here.nesting + 1 + height content) := hroom.mono (by omega)
      have hbeside : stack.HasRoom (here.nesting + height rest) := hroom.mono (by omega)
      rw [Inclusion.expandNodes, expandNode, hhere, if_neg Bool.false_ne_true, if_neg hinclude,
        if_neg hfallback, expandNodes replace hcontent hdeeper, ok_bind, ok_bind,
        expandNodes replace hrest hbeside, ok_bind]

theorem IsPlainTree.expand {e : Element} (h : IsPlainTree e.content)
    (store : FileStore τ) (base : String) (hroom : stack.HasRoom (height e.content)) :
    Inclusion.expand stack store base e = .ok e := by
  unfold Inclusion.expand longestChain
  rw [expandWithin, h.expandNodes _ (by simpa using hroom)]
  rfl

theorem IsPlainTree.strip {e : Element} (h : IsPlainTree e.content) :
    Inclusion.strip e = (e, []) := by
  have hnone : outermostDirectives e.content = [] := by
    apply List.filter_eq_nil_iff.2
    intro directive hmem
    simpa using (h directive hmem).1
  have hquiet : (Inclusion.strip e).2 = [] := by
    have hperm := notices_strip_perm e
    rw [hnone] at hperm
    exact hperm.eq_nil
  exact Prod.ext (strip_of_prunes h.prunes_self) hquiet

end Inclusion

namespace Noted

theorem notices_mapFault {ν ε ε' α : Type} (f : ε → ε') (work : Noted ν ε α) :
    (work.mapFault f).notices = work.notices := rfl

theorem ok_bind {ν ε α β : Type} (notices : List ν) (value : α)
    (next : α → Noted ν ε β) :
    (⟨notices, .ok value⟩ : Noted ν ε α) >>= next =
      ⟨notices ++ (next value).notices, (next value).outcome⟩ := rfl

end Noted

namespace PolicyFile

/-! ## Work without inclusion -/

theorem load_of_read {store : FileStore τ} {includes : Bool} {path : String} {octets : Octets}
    {root : Element} (hread : store.read path = .ok octets)
    (hroot : Markup.readOctets octets = .ok root) :
    let rest := ofElement stack store includes path path root
    load stack store includes path = ⟨.reading path :: rest.notices, rest.outcome⟩ := by
  intro rest
  rw [load_of_octets hread, Noted.note_bind]
  simp only [parse, hroot, mapError_ok, Noted.ofExcept_ok_bind]
  rfl

/-- Reading the markup of a document. -/
def readDocument (document : String ⊕ Octets) : Except MarkupFault Element :=
  document.elim Markup.readText Markup.readOctets

theorem parse_eq (stack : CallStack) (store : FileStore τ) (includes : Bool)
    (base source : String) (document : String ⊕ Octets) :
    parse stack store includes base source document =
      (Noted.ofExcept ((readDocument document).mapError (.markup source)) >>= fun root =>
        ofElement stack store includes base source root) := by
  cases document <;> rfl

theorem parse_of_read {document : String ⊕ Octets} {root : Element}
    (hroot : readDocument document = .ok root) (stack : CallStack) (store : FileStore τ)
    (includes : Bool) (base source : String) :
    parse stack store includes base source document =
      ofElement stack store includes base source root := by
  rw [parse_eq, hroot, mapError_ok, Noted.ofExcept_ok_bind]

theorem ofElement_withoutInclusion (stack : CallStack) (store : FileStore τ)
    (base source : String) {root : Element} {content : List Node}
    (hpruned : Inclusion.Prunes root.content content) :
    let built := PolicyDocument.policySet source { root with content }
    ofElement stack store false base source root =
      ⟨(Inclusion.strip root).2 ++ built.notices, built.outcome.mapError .build⟩ := by
  unfold ofElement expandIncludes
  simp only [Bool.false_eq_true, if_false, ← Inclusion.strip_of_prunes hpruned, Noted.ok_bind,
    Noted.notices_mapFault, Noted.outcome_mapFault]

/-- The work builds the policies of what is left of a tree without its
directives, and warns of each outermost one. -/
structure LeavesOutDirectives (source : String) (root : Element) (work : Load PolicySet) :
    Prop where
  outcome_eq : ∀ content, Inclusion.Prunes root.content content →
    work.outcome =
      (PolicyDocument.policySet source { root with content }).outcome.mapError .build
  details_eq : ∀ content, Inclusion.Prunes root.content content →
    recordsAt .debug work.notices =
      recordsAt .debug (PolicyDocument.policySet source { root with content }).notices
  warnings : (recordsAt .warning work.notices).Perm
    ((Inclusion.outermostDirectives root.content).map fun directive =>
      { level := .warning, logger := "hightide.policy.loader"
        message := "XInclude disabled, ignoring include of " ++
          (directive.attribute? "href").getD "None" })

theorem leavesOut_ofElement (stack : CallStack) (store : FileStore τ) (base source : String)
    (root : Element) :
    LeavesOutDirectives source root (ofElement stack store false base source root) := by
  have hwarned : ∀ notice ∈ (Inclusion.strip root).2, notice.record.level = .warning := by
    intro notice hmem
    have hignored := (Inclusion.notices_strip_perm root).mem_iff.1 hmem
    obtain ⟨directive, -, rfl⟩ := List.mem_map.1 hignored
    rfl
  have hwork := fun content (hpruned : Inclusion.Prunes root.content content) =>
    ofElement_withoutInclusion stack store base source hpruned
  constructor
  · intro content hpruned
    rw [hwork content hpruned]
  · intro content hpruned
    rw [hwork content hpruned, recordsAt_append, recordsAt_eq_nil (by decide) hwarned,
      List.nil_append]
  · have hbuilt := PolicyDocument.isDetailed_policySet source
      { root with content := (Inclusion.strip root).1.content }
    rw [hwork _ (Inclusion.prunes_strip root), recordsAt_append,
      recordsAt_eq_nil (by decide) hbuilt, List.append_nil, recordsAt_of_forall hwarned]
    have hperm := (Inclusion.notices_strip_perm root).map LoadNotice.record
    rwa [List.map_map] at hperm

theorem LeavesOutDirectives.reading {source : String} {root : Element} {rest : Load PolicySet}
    (h : LeavesOutDirectives source root rest) (path : String) :
    LeavesOutDirectives source root ⟨.reading path :: rest.notices, rest.outcome⟩ := by
  constructor
  · exact h.outcome_eq
  · exact h.details_eq
  · exact h.warnings

/-- Without inclusion no file is read beside the document, and any stack will do. -/
theorem ofElement_withoutInclusion_congr (stack stack' : CallStack) (store store' : FileStore τ)
    (base base' source : String) (root : Element) :
    ofElement stack' store' false base' source root =
      ofElement stack store false base source root := by
  unfold ofElement expandIncludes
  simp only [Bool.false_eq_true, if_false]

theorem load_withoutInclusion_congr {store store' : FileStore τ} {path : String}
    (hread : store'.read path = store.read path) (stack stack' : CallStack) :
    load stack' store' false path = load stack store false path := by
  unfold load
  rw [hread, FileStore.contains_congr hread]
  simp only [ofElement_withoutInclusion_congr stack stack' store store' path path]

theorem parse_withoutInclusion_congr (stack stack' : CallStack) (store store' : FileStore τ)
    (base base' source : String) (document : String ⊕ Octets) :
    parse stack' store' false base' source document =
      parse stack store false base source document := by
  rw [parse_eq, parse_eq]
  simp only [ofElement_withoutInclusion_congr stack stack' store store' base base']

theorem expandIncludes_of_isPlainTree {root : Element}
    (hplain : Inclusion.IsPlainTree root.content)
    (hroom : stack.HasRoom (Inclusion.height root.content)) (store : FileStore τ)
    (includes : Bool) (base : String) :
    expandIncludes stack store includes base root = ⟨[], .ok root⟩ := by
  unfold expandIncludes
  split
  next =>
    rw [hplain.expand store base hroom]
    rfl
  next => rw [hplain.strip]

/-- Without inclusion a document means what is left of it without its directives,
whether it stands in a file or not, and no other file matters, nor does the
stack.  With inclusion a document that has no directives means the same, where
the stack has room for its elements. -/
theorem directives_are_left_out :
    (∀ nodes, ∃! content, Inclusion.Prunes nodes content) ∧
    (∀ (stack : CallStack) (store : FileStore τ) (path : String) (octets : Octets)
      (root : Element), store.read path = .ok octets → Markup.readOctets octets = .ok root →
      LeavesOutDirectives path root (load stack store false path)) ∧
    (∀ (stack : CallStack) (store : FileStore τ) (base source : String)
      (document : String ⊕ Octets) (root : Element), readDocument document = .ok root →
      LeavesOutDirectives source root (parse stack store false base source document)) ∧
    (∀ (stack stack' : CallStack) (store store' : FileStore τ) (path : String),
      store'.read path = store.read path →
      load stack' store' false path = load stack store false path) ∧
    (∀ (stack stack' : CallStack) (store store' : FileStore τ) (base base' source : String)
      (document : String ⊕ Octets), parse stack' store' false base' source document =
        parse stack store false base source document) ∧
    ∀ (stack : CallStack) (root : Element), Inclusion.IsPlainTree root.content →
      stack.HasRoom (Inclusion.height root.content) →
      (∀ (store : FileStore τ) (path : String) (octets : Octets), store.read path = .ok octets →
        Markup.readOctets octets = .ok root →
        load stack store true path = load stack store false path) ∧
      ∀ (store : FileStore τ) (base source : String) (document : String ⊕ Octets),
        readDocument document = .ok root →
        parse stack store true base source document =
          parse stack store false base source document := by
  refine ⟨?_, ?_, ?_, ?_, parse_withoutInclusion_congr, ?_⟩
  · intro nodes
    refine ⟨_, (Inclusion.prunes_stripNodes nodes).1, ?_⟩
    intro other hother
    exact (Inclusion.prunes_stripNodes nodes).1.unique hother
  · intro stack store path octets root hread hroot
    rw [load_of_read hread hroot]
    exact (leavesOut_ofElement stack store path path root).reading path
  · intro stack store base source document root hroot
    rw [parse_of_read hroot]
    exact leavesOut_ofElement stack store base source root
  · intro stack stack' store store' path hread
    exact load_withoutInclusion_congr hread stack stack'
  · intro stack root hplain hroom
    have hsame : ∀ (store : FileStore τ) (base source : String),
        ofElement stack store true base source root =
          ofElement stack store false base source root := by
      intro store base source
      unfold ofElement
      rw [expandIncludes_of_isPlainTree hplain hroom, expandIncludes_of_isPlainTree hplain hroom]
    constructor
    · intro store path octets hread hroot
      rw [load_of_read hread hroot, load_of_read hread hroot, hsame]
    · intro store base source document hroot
      rw [parse_of_read hroot, parse_of_read hroot, hsame]

/-- A policy with directives next to each other, in each other, and in its
destination. -/
def directedDocument : Octets :=
  octetsOf ["<configuration xmlns:i='http://www.w3.org/2001/XInclude'>",
    "<i:include href='a'/><i:include href='b'><i:include href='c'/></i:include>",
    "<srcPath name='/a'>",
    "<property><name>replication</name><value>2</value></property>",
    "<property><name>modTimePeriod</name><value>60</value></property>",
    "<destPath name='d'><property><name>replication</name><value>1<i:include/>0</value></property>",
    "</destPath></srcPath></configuration>"]

def directedStore : FileStore Binary64 :=
  sampleStore.write "d.xml" (.file directedDocument 900)

theorem directives_are_left_out_adjacent :
    (∃ set, (load .endless directedStore false "d.xml").outcome = .ok set ∧
        set.names = ["/a"]) ∧
      (∃ root, Markup.readOctets directedDocument = .ok root ∧
        (Inclusion.outermostDirectives root.content).map (·.attribute? "href") =
          [some "a", some "b", none] ∧
        LeavesOutDirectives "d.xml" root (load .endless directedStore false "d.xml")) ∧
      load (.ofRoom 900) directedStore true "p.xml" =
        load (.ofRoom 900) directedStore false "p.xml" := by
  obtain ⟨-, hload, -, -, -, hplain⟩ := directives_are_left_out (τ := Binary64)
  have hread : directedStore.read "d.xml" = .ok directedDocument := by decide +kernel
  obtain ⟨root, hroot, hdirectives⟩ : ∃ root, Markup.readOctets directedDocument = .ok root ∧
      (Inclusion.outermostDirectives root.content).map (·.attribute? "href") =
        [some "a", some "b", none] := by
    decide +kernel
  have hread' : directedStore.read "p.xml" = .ok (sampleDocument "/a") := by decide +kernel
  obtain ⟨root', hroot', hplain', hheight⟩ :
      ∃ root, Markup.readOctets (sampleDocument "/a") = .ok root ∧
        (∀ e ∈ Inclusion.metAmong root.content, e.tag ≠ includeTag ∧ e.tag ≠ fallbackTag) ∧
        Inclusion.height root.content ≤ 900 := by
    decide +kernel
  have hroom : (CallStack.ofRoom 900).HasRoom (Inclusion.height root'.content) :=
    (CallStack.hasRoom_ofRoom 900).mono hheight
  refine ⟨by decide +kernel, ⟨root, hroot, hdirectives, ?_⟩, ?_⟩
  · exact hload .endless directedStore "d.xml" _ root hread hroot
  · exact (hplain _ root' hplain' hroom).1 directedStore "p.xml" _ hread' hroot'

end PolicyFile

end PolicyKeeper
