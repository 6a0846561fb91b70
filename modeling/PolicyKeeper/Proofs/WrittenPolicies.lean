import PolicyKeeper.PolicyFile
import PolicyKeeper.Proofs.DocumentGrammar
import PolicyKeeper.Proofs.LeftOutDirectives
import PolicyKeeper.Proofs.WrittenDocuments

/-!
# Policies that are written are read back

The tree of a document describes the policies that it was made from, and there
is nothing in it to include.  So policies that are valid and have different
names come back from their document as they were, in order, with all their
properties and destinations.
-/

namespace PolicyKeeper

namespace PolicyDocument

open Markup (IsAllowedText)

/-! ## What the tree describes -/

theorem elementsOf_textNodes (s : String) : Element.elementsOf (textNodes s) = [] := by
  unfold textNodes
  split <;> rfl

theorem elementsOf_laidOut (layout : Layout) (depth : Nat) (children : List Element) :
    Element.elementsOf (laidOut layout depth children) = children := by
  unfold laidOut
  rw [Element.elementsOf_append, elementsOf_textNodes, List.append_nil]
  induction children with
  | nil => rfl
  | cons child rest ih =>
      rw [List.flatMap_cons, Element.elementsOf_append, Element.elementsOf_append,
        elementsOf_textNodes, ih]
      rfl

@[simp] theorem tag_leafElement (tag s : String) : (leafElement tag s).tag = tag := rfl

@[simp] theorem text_leafElement (tag s : String) : (leafElement tag s).text = s := by
  show Element.leadingText (textNodes s) = s
  unfold textNodes
  split
  next hempty =>
    rw [hempty]
    rfl
  next => simp [Element.leadingText]

theorem saysProperty_propertyElement {entry : String × Option String}
    (hname : IsPropertyText entry.1) (hvalue : IsPropertyText (entry.2.getD "")) :
    SaysProperty (propertyElement entry) (entry.1, entry.2.getD "") := by
  have hchildren : (propertyElement entry).children =
      [leafElement "name" entry.1, leafElement "value" (entry.2.getD "")] := rfl
  have hkinds : localName "name" = "name" ∧ localName "value" = "value" := by decide
  constructor
  · rw [hchildren, ← lastText?_eq_some]
    simp [lastText?, hkinds, hname.trimmed]
  · rw [hchildren, ← lastText?_eq_some]
    simp [lastText?, hkinds, hvalue.trimmed]

theorem putEntry_of_not_mem {key : String} {value : α} {entries : List (String × α)}
    (hkey : key ∉ entries.map (·.1)) : putEntry key value entries = entries ++ [(key, value)] := by
  induction entries with
  | nil => rfl
  | cons entry rest ih =>
      rw [List.map_cons, List.mem_cons, not_or] at hkey
      rw [putEntry, if_neg (Ne.symm hkey.1), ih hkey.2]
      rfl

/-- Properties with different names are put one after the other. -/
theorem entries_putAll {said : List (String × String)} {p : Properties}
    (hdistinct : (p.entries.map (·.1) ++ said.map (·.1)).Nodup) :
    (putAll p said).entries = p.entries ++ said.map fun (name, value) => (name, some value) := by
  induction said generalizing p with
  | nil => simp [putAll]
  | cons first rest ih =>
      have hnew : first.1 ∉ p.entries.map (·.1) := by
        intro hold
        exact (List.nodup_append.1 hdistinct).2.2 _ hold _ (.head _) rfl
      have hput : (p.put first.1 (some first.2)).entries = p.entries ++ [(first.1, some first.2)] :=
        putEntry_of_not_mem hnew
      have hrest : (putAll (p.put first.1 (some first.2)) rest).entries =
          (p.put first.1 (some first.2)).entries ++
            rest.map fun (name, value) => (name, some value) := by
        apply ih
        rw [hput]
        simpa using hdistinct
      rw [hput, List.append_assoc] at hrest
      exact hrest

theorem eq_of_entries {p q : Properties} (hentries : p.entries = q.entries) : p = q := by
  cases p
  cases q
  cases hentries
  rfl

/-- What is said of properties collects to them. -/
theorem putAll_entries {p : Properties} (h : AreWritten p) :
    putAll .empty (p.entries.map fun entry => (entry.1, entry.2.getD "")) = p := by
  have hkeys : (p.entries.map fun entry => (entry.1, entry.2.getD "")).map (·.1) =
      p.entries.map (·.1) := by simp
  have hsame : (p.entries.map fun entry => (entry.1, entry.2.getD "")).map
      (fun (name, value) => (name, some value)) = p.entries := by
    rw [List.map_map]
    refine (List.map_congr_left ?_).trans (List.map_id p.entries)
    intro entry hmem
    obtain ⟨value, hvalue, -⟩ := h.values entry hmem
    apply Prod.ext
    · rfl
    · simp [Option.mem_def.1 hvalue]
  have hdistinct : (Properties.empty.entries.map (·.1) ++
      (p.entries.map fun entry => (entry.1, entry.2.getD "")).map (·.1)).Nodup := by
    rw [hkeys]
    exact p.distinct
  apply eq_of_entries
  rw [entries_putAll hdistinct, hsame]
  rfl

theorem describesProperties_of_areWritten {p : Properties} (h : AreWritten p)
    {children : List Element}
    (hchildren : ofKind "property" children = p.entries.map propertyElement) :
    DescribesProperties children p := by
  refine ⟨p.entries.map fun entry => (entry.1, entry.2.getD ""), ?_, ?_⟩
  · rw [hchildren, List.forall₂_map_left_iff, List.forall₂_map_right_iff, List.forall₂_same]
    intro entry hmem
    exact saysProperty_propertyElement (h.names entry hmem) (h.text hmem)
  · exact collects_iff.2 (putAll_entries h).symm

/-! ## Kinds -/

theorem ofKind_append (kind : String) (front back : List Element) :
    ofKind kind (front ++ back) = ofKind kind front ++ ofKind kind back :=
  List.filter_append front back

theorem ofKind_eq_self {kind : String} {children : List Element}
    (hkind : ∀ child ∈ children, localName child.tag = kind) : ofKind kind children = children := by
  apply List.filter_eq_self.2
  intro child hmem
  simpa using hkind child hmem

theorem ofKind_eq_nil {kind : String} {children : List Element}
    (hkind : ∀ child ∈ children, localName child.tag ≠ kind) : ofKind kind children = [] := by
  apply List.filter_eq_nil_iff.2
  intro child hmem
  simpa using hkind child hmem

theorem localName_propertyElements (p : Properties) :
    ∀ child ∈ p.entries.map propertyElement, localName child.tag = "property" := by
  intro child hmem
  obtain ⟨entry, -, rfl⟩ := List.mem_map.1 hmem
  show localName "property" = "property"
  decide

theorem localName_destinationElements (layout : Layout) (destinations : List Destination) :
    ∀ child ∈ destinations.map (destinationElement layout), localName child.tag = "destpath" := by
  intro child hmem
  obtain ⟨d, -, rfl⟩ := List.mem_map.1 hmem
  show localName "destPath" = "destpath"
  decide

theorem localName_policyElements (layout : Layout) (policies : List Policy) :
    ∀ child ∈ policies.map (policyElement layout), localName child.tag = "srcpath" := by
  intro child hmem
  obtain ⟨p, -, rfl⟩ := List.mem_map.1 hmem
  show localName "srcPath" = "srcpath"
  decide

theorem isNamed_of_attributes {e : Element} {name : String} (hne : name ≠ "")
    (hattributes : e.attributes = [("name", name)]) : IsNamed e name := by
  have hkey : localName "name" = "name" := by decide
  exact ⟨hne, [], "name", [], hattributes, hkey, by simp⟩

theorem describesDestination_destinationElement (layout : Layout) {d : Destination}
    (hpath : d.path ≠ "") (hd : AreWritten d.properties) :
    DescribesDestination (destinationElement layout d) d := by
  have hchildren : (destinationElement layout d).children =
      d.properties.entries.map propertyElement := elementsOf_laidOut layout 2 _
  have hkinds := localName_propertyElements d.properties
  constructor
  · exact isNamed_of_attributes hpath rfl
  · rw [hchildren]
    intro child hmem _
    simp [hkinds child hmem]
  · rw [hchildren]
    exact describesProperties_of_areWritten hd (ofKind_eq_self hkinds)

theorem describesPolicy_policyElement (layout : Layout) {p : Policy} (hvalid : p.Valid)
    (hp : CanBeWritten p) : DescribesPolicy (policyElement layout p) p := by
  have hchildren : (policyElement layout p).children =
      p.properties.entries.map propertyElement ++
        p.destinations.map (destinationElement layout) := elementsOf_laidOut layout 1 _
  have hproperties := localName_propertyElements p.properties
  have hdestinations := localName_destinationElements layout p.destinations
  have hothers : ∀ child ∈ p.properties.entries.map propertyElement,
      localName child.tag ≠ "destpath" := by
    intro child hmem
    simp [hproperties child hmem]
  have hothers' : ∀ child ∈ p.destinations.map (destinationElement layout),
      localName child.tag ≠ "property" := by
    intro child hmem
    simp [hdestinations child hmem]
  constructor
  · exact isNamed_of_attributes hvalid.name_ne rfl
  · rw [hchildren]
    intro child hmem _
    rcases List.mem_append.1 hmem with hproperty | hdestination
    · simp [hproperties child hproperty]
    · simp [hdestinations child hdestination]
  · rw [hchildren]
    apply describesProperties_of_areWritten hp.properties
    rw [ofKind_append, ofKind_eq_self hproperties, ofKind_eq_nil hothers', List.append_nil]
  · rw [hchildren, ofKind_append, ofKind_eq_nil hothers, ofKind_eq_self hdestinations,
      List.nil_append, List.forall₂_map_left_iff, List.forall₂_same]
    intro d hmem
    have hpath := (hvalid.destinations d hmem).path_ne
    exact describesDestination_destinationElement layout hpath (hp.destinations d hmem)

/-- The tree of a document describes the policies that it was made from. -/
theorem describes_documentElement (layout : Layout) {policies : List Policy}
    (hdistinct : (policies.map (·.sourcePath)).Nodup) (hvalid : ∀ p ∈ policies, p.Valid)
    (hpolicies : ∀ p ∈ policies, CanBeWritten p) :
    Describes (documentElement layout policies) policies := by
  have hchildren : (documentElement layout policies).children =
      policies.map (policyElement layout) := elementsOf_laidOut layout 0 _
  have hkinds := localName_policyElements layout policies
  constructor
  · show localName "configuration" = "configuration"
    decide
  · rw [hchildren]
    intro child hmem _
    simp [hkinds child hmem]
  · rw [hchildren, ofKind_eq_self hkinds, List.forall₂_map_left_iff, List.forall₂_same]
    intro p hmem
    exact describesPolicy_policyElement layout (hvalid p hmem) (hpolicies p hmem)
  · exact hdistinct

end PolicyDocument

/-! ## Nothing to include -/

namespace Inclusion

open Markup (IsSimpleName Writable)

theorem isPlain_of_isSimpleName {tag : String} (htag : IsSimpleName tag) : Place.IsPlain tag := by
  constructor
  · rintro rfl
    exact absurd htag (by decide)
  · rintro rfl
    exact absurd htag (by decide)

theorem isPlainTree_of_writable {nodes : List Node} (hnodes : Writable nodes) :
    IsPlainTree nodes := by
  induction hnodes with
  | nil =>
      intro e hmem
      cases hmem
  | element htag _ _ _ ihcontent ihrest =>
      have hplain : Place.IsPlain _ := isPlain_of_isSimpleName htag
      exact isPlainTree_cons_element.2 ⟨hplain, ihcontent, ihrest⟩
  | text _ _ _ _ ih => exact ih

theorem height_append (front back : List Node) :
    height (front ++ back) = max (height front) (height back) := by
  induction front with
  | nil => simp [height]
  | cons node rest ih => rw [List.cons_append, height, height, ih, max_assoc]

theorem height_textNodes (s : String) : height (PolicyDocument.textNodes s) = 0 := by
  unfold PolicyDocument.textNodes
  split <;> simp [height, heightOf]

theorem height_laidOut_le (layout : PolicyDocument.Layout) (depth : Nat) {children : List Element}
    {greatest : Nat} (hchildren : ∀ child ∈ children, height child.content ≤ greatest) :
    height (PolicyDocument.laidOut layout depth children) ≤ greatest + 1 := by
  unfold PolicyDocument.laidOut
  rw [height_append, height_textNodes]
  induction children with
  | nil => simp [height]
  | cons child rest ih =>
      have hrest := ih fun other hmem => hchildren other (.tail _ hmem)
      have hchild := hchildren child (.head _)
      rw [List.flatMap_cons, height_append, height_append, height_textNodes, Element.toNode,
        height_cons_element, height]
      omega

end Inclusion

/-! ## Reading a document -/

theorem PolicyFile.outcome_expandIncludes_of_writable {e : Element}
    (hcontent : Markup.Writable e.content) {stack : CallStack}
    (hroom : stack.HasRoom (Inclusion.height e.content)) (store : FileStore τ) (includes : Bool)
    (base : String) : (PolicyFile.expandIncludes stack store includes base e).outcome = .ok e := by
  have hplain := Inclusion.isPlainTree_of_writable hcontent
  rw [PolicyFile.expandIncludes_of_isPlainTree hplain hroom]

theorem PolicyFile.outcome_parse_of_readText {stack : CallStack} {store : FileStore τ}
    {includes : Bool} {base text : String} {root expanded : Element} (source : String)
    (hread : Markup.readText text = .ok root)
    (hexpanded :
      (PolicyFile.expandIncludes stack store includes base root).outcome = .ok expanded) :
    (PolicyFile.parse stack store includes base source (.inl text)).outcome =
      (PolicyDocument.policySet source expanded).outcome.mapError .build := by
  unfold PolicyFile.parse
  simp only [hread, mapError_ok]
  rw [Noted.outcome_bind, Noted.outcome_ofExcept, ok_bind, PolicyFile.ofElement,
    Noted.outcome_bind, hexpanded, ok_bind, Noted.outcome_mapFault]

namespace PolicyDocument

theorem height_propertyElements_le (p : Properties) :
    ∀ child ∈ p.entries.map propertyElement, Inclusion.height child.content ≤ 1 := by
  intro child hmem
  obtain ⟨entry, -, rfl⟩ := List.mem_map.1 hmem
  simp [propertyElement, leafElement, Element.toNode, Inclusion.height, Inclusion.heightOf,
    Inclusion.height_textNodes]

theorem height_documentElement_le (layout : Layout) (policies : List Policy) :
    Inclusion.height (documentElement layout policies).content ≤ 4 := by
  apply Inclusion.height_laidOut_le
  intro child hmem
  obtain ⟨p, -, rfl⟩ := List.mem_map.1 hmem
  apply Inclusion.height_laidOut_le
  intro inner hinner
  rcases List.mem_append.1 hinner with hproperty | hdestination
  · have hone := height_propertyElements_le p.properties inner hproperty
    omega
  · obtain ⟨d, -, rfl⟩ := List.mem_map.1 hdestination
    exact Inclusion.height_laidOut_le layout 2 (height_propertyElements_le d.properties)

/-- Policies that are valid, have different source paths, and hold only texts
that can be written come back from their document, on every stack that has room
for a document of policies. -/
theorem written_policies_are_read {stack : CallStack} (hroom : stack.HasRoom 4)
    (store : FileStore τ) (includes : Bool) (base source : String) (layout : Layout)
    {policies : List Policy}
    (hdistinct : (policies.map (·.sourcePath)).Nodup)
    (hvalid : ∀ p ∈ policies, p.violations = .ok [])
    (hwritten : ∀ p ∈ policies, CanBeWritten p) :
    (PolicyFile.parse stack store includes base source
        (.inl (documentText layout policies))).outcome =
      .ok { PolicySet.empty source with policies } := by
  have hwritable := isWritable_documentElement layout hwritten
  have hread : Markup.readText (documentText layout policies) =
      .ok (documentElement layout policies) := by
    rw [documentText_eq layout hwritten]
    exact Markup.readText_written hwritable
  have hexpanded := PolicyFile.outcome_expandIncludes_of_writable hwritable.content
    (hroom.mono (height_documentElement_le layout policies)) store includes base
  have husable : ∀ p ∈ policies, p.Valid := fun p hmem =>
    Policy.violations_eq_nil_iff.1 (hvalid p hmem)
  have hdescribes := describes_documentElement layout hdistinct husable hwritten
  have hset : (policySet source (documentElement layout policies)).outcome =
      .ok { PolicySet.empty source with policies } := by
    obtain ⟨hroot, hpolicies⟩ := describes_iff.1 hdescribes
    exact policySet_eq_ok_iff.2 ⟨hroot, hpolicies, husable, rfl⟩
  rw [PolicyFile.outcome_parse_of_readText source hread hexpanded, hset]
  rfl

/-- A policy whose texts hold blanks, marks of markup and no characters at all. -/
def markedPolicy (sourcePath : String) : Policy where
  sourcePath := sourcePath
  properties := .ofList [("replication", some "+2"), ("modTimePeriod", some "-60"),
    ("", some ""), ("a note", some "1 < 2 &\r\n\"é\" ]]>")]
  destinations := [⟨" d\t'", .ofList [("replication", some "1")]⟩]

theorem written_policies_are_read_marked :
    (([markedPolicy "/<a>", markedPolicy "b "].map (·.sourcePath)).Nodup ∧
      (∀ p ∈ [markedPolicy "/<a>", markedPolicy "b "], p.violations = .ok []) ∧
      ∀ p ∈ [markedPolicy "/<a>", markedPolicy "b "], CanBeWritten p) ∧
    (PolicyFile.parse (.ofRoom 4) (FileStore.empty : FileStore Binary64) true "" "<string>"
      (.inl (documentText .compact [markedPolicy "/<a>", markedPolicy "b "]))).outcome =
        .ok { PolicySet.empty "<string>" with
          policies := [markedPolicy "/<a>", markedPolicy "b "] } := by
  have hdistinct : ([markedPolicy "/<a>", markedPolicy "b "].map (·.sourcePath)).Nodup := by
    decide +kernel
  have hvalid : ∀ p ∈ [markedPolicy "/<a>", markedPolicy "b "], p.violations = .ok [] := by
    decide +kernel
  have hwritten : ∀ p ∈ [markedPolicy "/<a>", markedPolicy "b "], CanBeWritten p := by
    decide +kernel
  exact ⟨⟨hdistinct, hvalid, hwritten⟩,
    written_policies_are_read (CallStack.hasRoom_ofRoom 4) FileStore.empty true "" "<string>"
      .compact hdistinct hvalid hwritten⟩

end PolicyDocument

end PolicyKeeper
