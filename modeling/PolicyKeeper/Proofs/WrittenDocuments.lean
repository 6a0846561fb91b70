import PolicyKeeper.PolicyDocument
import PolicyKeeper.Proofs.MarkupRoundTrip

/-!
# Documents as they are written

Policies are written down in the form in which documents are shown to users:
each property on a line, each element around the lines of what it contains.
Such a document is the writing of a tree that describes the policies.
-/

namespace PolicyKeeper

namespace PolicyDocument

open Markup (IsAllowedText IsSimpleName IsWritable AreWritable Writable escaped written)

/-! ## The text of a document -/

/-- The blanks before a tag, for each number of elements around it. -/
structure Layout where
  blanks : Nat → String
  isLayout : ∀ depth, ∀ c ∈ (blanks depth).toList, Markup.isLayout c = true

namespace Layout

/-- All on one line. -/
def compact : Layout := ⟨fun _ => "", by simp⟩

/-- Each tag on a line, two spaces deeper than the tag around it. -/
def indented : Layout where
  blanks depth := String.ofList ('\n' :: List.replicate (2 * depth) ' ')
  isLayout depth c hc := by
    rw [String.toList_ofList, List.mem_cons, List.mem_replicate] at hc
    rcases hc with rfl | ⟨-, rfl⟩ <;> decide

def inside (layout : Layout) (depth : Nat) (children : List (List Char)) : List Char :=
  children.flatMap (fun child => (layout.blanks (depth + 1)).toList ++ child) ++
    (layout.blanks depth).toList

end Layout

def propertyText (entry : String × Option String) : List Char :=
  "<property><name>".toList ++ escaped entry.1 ++ "</name><value>".toList ++
    escaped (entry.2.getD "") ++ "</value></property>".toList

def destinationText (layout : Layout) (d : Destination) : List Char :=
  "<destPath name=\"".toList ++ escaped d.path ++ "\">".toList ++
    layout.inside 2 (d.properties.entries.map propertyText) ++ "</destPath>".toList

def policyText (layout : Layout) (p : Policy) : List Char :=
  "<srcPath name=\"".toList ++ escaped p.sourcePath ++ "\">".toList ++
    layout.inside 1
      (p.properties.entries.map propertyText ++ p.destinations.map (destinationText layout)) ++
    "</srcPath>".toList

def documentText (layout : Layout) (policies : List Policy) : String :=
  String.ofList ("<configuration>".toList ++ layout.inside 0 (policies.map (policyText layout)) ++
    "</configuration>".toList)

/-- Each property is on one line. -/
example :
    documentText .indented
      [{ sourcePath := "/a b",
         properties := .ofList [("replication", some "3")],
         destinations := [⟨"/c", .ofList [("replication", some "2")]⟩] }] =
      "<configuration>\n  <srcPath name=\"/a&#32;b\">\n" ++
      "    <property><name>replication</name><value>3</value></property>\n" ++
      "    <destPath name=\"/c\">\n" ++
      "      <property><name>replication</name><value>2</value></property>\n" ++
      "    </destPath>\n  </srcPath>\n</configuration>" := by
  decide +kernel

/-! ## What can be written -/

/-- Markup can hold the text, and blanks are not taken from its ends. -/
structure IsPropertyText (s : String) : Prop where
  allowed : IsAllowedText s
  trimmed : trimmed s = s

instance (s : String) : Decidable (IsPropertyText s) :=
  decidable_of_iff (IsAllowedText s ∧ PolicyKeeper.trimmed s = s)
    ⟨fun ⟨hallowed, htrimmed⟩ => ⟨hallowed, htrimmed⟩, fun h => ⟨h.allowed, h.trimmed⟩⟩

/-- Every property has a text. -/
structure AreWritten (p : Properties) : Prop where
  names : ∀ entry ∈ p.entries, IsPropertyText entry.1
  values : ∀ entry ∈ p.entries, ∃ value ∈ entry.2, IsPropertyText value

instance (p : Properties) : Decidable (AreWritten p) :=
  decidable_of_iff ((∀ entry ∈ p.entries, IsPropertyText entry.1) ∧
      ∀ entry ∈ p.entries, ∃ value ∈ entry.2, IsPropertyText value)
    ⟨fun ⟨hnames, hvalues⟩ => ⟨hnames, hvalues⟩, fun h => ⟨h.names, h.values⟩⟩

theorem AreWritten.text {p : Properties} (h : AreWritten p) {entry : String × Option String}
    (hmem : entry ∈ p.entries) : IsPropertyText (entry.2.getD "") := by
  obtain ⟨value, hvalue, htext⟩ := h.values entry hmem
  rw [Option.mem_def.1 hvalue]
  exact htext

structure CanBeWritten (p : Policy) : Prop where
  path : IsAllowedText p.sourcePath
  properties : AreWritten p.properties
  paths : ∀ d ∈ p.destinations, IsAllowedText d.path
  destinations : ∀ d ∈ p.destinations, AreWritten d.properties

instance (p : Policy) : Decidable (CanBeWritten p) :=
  decidable_of_iff (IsAllowedText p.sourcePath ∧ AreWritten p.properties ∧
      (∀ d ∈ p.destinations, IsAllowedText d.path) ∧
      ∀ d ∈ p.destinations, AreWritten d.properties)
    ⟨fun ⟨hpath, hproperties, hpaths, hdestinations⟩ =>
      ⟨hpath, hproperties, hpaths, hdestinations⟩,
      fun h => ⟨h.path, h.properties, h.paths, h.destinations⟩⟩

/-! ## The tree of a document -/

def textNodes (s : String) : List Node := if s = "" then [] else [.text s]

def laidOut (layout : Layout) (depth : Nat) (children : List Element) : List Node :=
  children.flatMap (fun child => textNodes (layout.blanks (depth + 1)) ++ [child.toNode]) ++
    textNodes (layout.blanks depth)

def leafElement (tag s : String) : Element := ⟨tag, [], textNodes s⟩

def propertyElement (entry : String × Option String) : Element :=
  ⟨"property", [],
    [(leafElement "name" entry.1).toNode, (leafElement "value" (entry.2.getD "")).toNode]⟩

def destinationElement (layout : Layout) (d : Destination) : Element :=
  ⟨"destPath", [("name", d.path)], laidOut layout 2 (d.properties.entries.map propertyElement)⟩

def policyElement (layout : Layout) (p : Policy) : Element :=
  ⟨"srcPath", [("name", p.sourcePath)],
    laidOut layout 1
      (p.properties.entries.map propertyElement ++
        p.destinations.map (destinationElement layout))⟩

def documentElement (layout : Layout) (policies : List Policy) : Element :=
  ⟨"configuration", [], laidOut layout 0 (policies.map (policyElement layout))⟩

/-! ## The tree is what is written -/

theorem written_blanks (layout : Layout) (depth : Nat) :
    written (textNodes (layout.blanks depth)) = (layout.blanks depth).toList := by
  unfold textNodes
  split
  next hempty =>
    rw [hempty, written]
    rfl
  next =>
    have hblank := layout.isLayout depth
    have hall : (layout.blanks depth).toList.all Markup.isLayout = true := List.all_eq_true.2 hblank
    rw [written, written, List.append_nil, Markup.bareIn, if_pos hall]
    exact Markup.spelled_of_bare hblank

theorem trimmed_of_layout {s : String} (hs : s.toList.all Markup.isLayout = true) :
    trimmed s = "" := by
  have hblank : ∀ c ∈ s.toList, isBlank c = true := by
    intro c hc
    have hlayout := List.all_eq_true.1 hs c hc
    simp only [Markup.isLayout, Bool.or_eq_true, beq_iff_eq] at hlayout
    rcases hlayout with (rfl | rfl) | rfl <;> decide
  have hnone : s.toList.dropWhile isBlank = [] := List.dropWhile_eq_nil_iff.2 hblank
  rw [trimmed, trimWith, hnone]
  rfl

theorem written_text {s : String} (hs : IsPropertyText s) : written (textNodes s) = escaped s := by
  unfold textNodes
  split
  next hempty =>
    rw [hempty, written]
    rfl
  next hne =>
    have hnot : ¬ s.toList.all Markup.isLayout = true := by
      intro hall
      rw [← hs.trimmed, trimmed_of_layout hall] at hne
      exact hne rfl
    rw [written, written, List.append_nil, Markup.bareIn, if_neg hnot, escaped]

theorem written_laidOut (layout : Layout) (depth : Nat) (children : List Element) :
    written (laidOut layout depth children) =
      layout.inside depth (children.map fun child => written [child.toNode]) := by
  unfold laidOut Layout.inside
  rw [Markup.written_append, written_blanks]
  congr 1
  induction children with
  | nil => simp [written]
  | cons child rest ih =>
      rw [List.flatMap_cons, List.map_cons, List.flatMap_cons, Markup.written_append,
        Markup.written_append, written_blanks, ih]

theorem written_leafElement (tag : String) {s : String} (hs : IsPropertyText s) :
    written [(leafElement tag s).toNode] =
      Markup.startTag tag [] ++ escaped s ++ Markup.endTag tag := by
  rw [Markup.written_toNode, leafElement, written_text hs]

theorem written_propertyElement {entry : String × Option String} (hname : IsPropertyText entry.1)
    (hvalue : IsPropertyText (entry.2.getD "")) :
    written [(propertyElement entry).toNode] = propertyText entry := by
  have hopen : "<property><name>".toList =
      Markup.startTag "property" [] ++ Markup.startTag "name" [] := by rfl
  have hbetween : "</name><value>".toList =
      Markup.endTag "name" ++ Markup.startTag "value" [] := by rfl
  have hclose : "</value></property>".toList =
      Markup.endTag "value" ++ Markup.endTag "property" := by rfl
  have hcontent : written (propertyElement entry).content =
      written [(leafElement "name" entry.1).toNode] ++
        written [(leafElement "value" (entry.2.getD "")).toNode] :=
    Markup.written_append [_] [_]
  unfold propertyText
  rw [Markup.written_toNode, hcontent, written_leafElement "name" hname,
    written_leafElement "value" hvalue, hopen, hbetween, hclose]
  simp only [propertyElement, List.append_assoc]

/-- The start tag of an element that has a name only. -/
theorem startTag_name (tag name : String) :
    Markup.startTag tag [("name", name)] =
      '<' :: tag.toList ++ " name=\"".toList ++ escaped name ++ "\">".toList := by
  simp [Markup.startTag, Markup.attributeText]

theorem AreWritten.written_properties {p : Properties} (h : AreWritten p) :
    (p.entries.map propertyElement).map (fun child => written [child.toNode]) =
      p.entries.map propertyText := by
  rw [List.map_map]
  apply List.map_congr_left
  intro entry hmem
  exact written_propertyElement (h.names entry hmem) (h.text hmem)

theorem written_destinationElement (layout : Layout) {d : Destination}
    (hd : AreWritten d.properties) :
    written [(destinationElement layout d).toNode] = destinationText layout d := by
  have hopen : "<destPath name=\"".toList = '<' :: "destPath".toList ++ " name=\"".toList := by rfl
  have hclose : "</destPath>".toList = Markup.endTag "destPath" := by rfl
  unfold destinationText
  rw [Markup.written_toNode, destinationElement, written_laidOut, hd.written_properties,
    startTag_name, hopen, hclose]

theorem written_policyElement (layout : Layout) {p : Policy} (hp : CanBeWritten p) :
    written [(policyElement layout p).toNode] = policyText layout p := by
  have hopen : "<srcPath name=\"".toList = '<' :: "srcPath".toList ++ " name=\"".toList := by rfl
  have hclose : "</srcPath>".toList = Markup.endTag "srcPath" := by rfl
  have hdestinations : (p.destinations.map (destinationElement layout)).map
      (fun child => written [child.toNode]) = p.destinations.map (destinationText layout) := by
    rw [List.map_map]
    apply List.map_congr_left
    intro d hmem
    exact written_destinationElement layout (hp.destinations d hmem)
  unfold policyText
  rw [Markup.written_toNode, policyElement, written_laidOut, List.map_append,
    hp.properties.written_properties, hdestinations, startTag_name, hopen, hclose]

/-- The text of a document is the writing of its tree. -/
theorem documentText_eq (layout : Layout) {policies : List Policy}
    (hpolicies : ∀ p ∈ policies, CanBeWritten p) :
    documentText layout policies =
      String.ofList (written [(documentElement layout policies).toNode]) := by
  have hopen : "<configuration>".toList = Markup.startTag "configuration" [] := by rfl
  have hclose : "</configuration>".toList = Markup.endTag "configuration" := by rfl
  have hchildren : (policies.map (policyElement layout)).map
      (fun child => written [child.toNode]) = policies.map (policyText layout) := by
    rw [List.map_map]
    apply List.map_congr_left
    intro p hmem
    exact written_policyElement layout (hpolicies p hmem)
  unfold documentText
  rw [Markup.written_toNode, documentElement, written_laidOut, hchildren, hopen, hclose]

/-! ## The tree can be written -/

theorem writable_blanks_append (layout : Layout) (depth : Nat) {rest : List Node}
    (hrest : Writable rest) (hstart : ∀ s more, rest ≠ .text s :: more) :
    Writable (textNodes (layout.blanks depth) ++ rest) := by
  unfold textNodes
  split
  next => exact hrest
  next hne =>
    have hallowed : IsAllowedText (layout.blanks depth) := by
      intro c hc
      have hlayout := layout.isLayout depth c hc
      exact Markup.isAllowed_of_isHarmless (Markup.isHarmless_of_isLayout hlayout)
    exact .text hne hallowed hstart hrest

theorem writable_laidOut (layout : Layout) (depth : Nat) {children : List Element}
    (hchildren : ∀ child ∈ children, IsWritable child) :
    Writable (laidOut layout depth children) := by
  unfold laidOut
  induction children with
  | nil =>
      have hclosing := writable_blanks_append layout depth .nil (by simp)
      simpa using hclosing
  | cons child rest ih =>
      have hrest := ih fun other hmem => hchildren other (.tail _ hmem)
      have hchild := hchildren child (.head _)
      rw [List.flatMap_cons, List.append_assoc, List.append_assoc]
      apply writable_blanks_append
      · exact .element hchild.tag hchild.attributes hchild.content hrest
      · simp [Element.toNode]

theorem areWritable_nil : AreWritable [] := by
  constructor <;> simp

theorem areWritable_name {name : String} (hname : IsAllowedText name) :
    AreWritable [("name", name)] := by
  have hkey : IsSimpleName "name" := by decide
  constructor
  · simpa using hkey
  · simp
  · simpa using hname
  · simp

theorem isWritable_leafElement {tag s : String} (htag : IsSimpleName tag) (hs : IsAllowedText s) :
    IsWritable (leafElement tag s) := by
  have hcontent : Writable (textNodes s) := by
    unfold textNodes
    split
    next => exact .nil
    next hne => exact .text hne hs (by simp) .nil
  exact ⟨htag, areWritable_nil, hcontent⟩

theorem isWritable_propertyElement {entry : String × Option String}
    (hname : IsPropertyText entry.1) (hvalue : IsPropertyText (entry.2.getD "")) :
    IsWritable (propertyElement entry) := by
  have htag : IsSimpleName "property" := by decide
  have hnameTag : IsSimpleName "name" := by decide
  have hvalueTag : IsSimpleName "value" := by decide
  have hfirst := isWritable_leafElement hnameTag hname.allowed
  have hsecond := isWritable_leafElement hvalueTag hvalue.allowed
  refine ⟨htag, areWritable_nil, ?_⟩
  exact .element hfirst.tag hfirst.attributes hfirst.content
    (.element hsecond.tag hsecond.attributes hsecond.content .nil)

theorem AreWritten.isWritable {p : Properties} (h : AreWritten p) :
    ∀ child ∈ p.entries.map propertyElement, IsWritable child := by
  intro child hmem
  obtain ⟨entry, hentry, rfl⟩ := List.mem_map.1 hmem
  exact isWritable_propertyElement (h.names entry hentry) (h.text hentry)

theorem isWritable_destinationElement (layout : Layout) {d : Destination}
    (hpath : IsAllowedText d.path) (hd : AreWritten d.properties) :
    IsWritable (destinationElement layout d) := by
  have htag : IsSimpleName "destPath" := by decide
  exact ⟨htag, areWritable_name hpath, writable_laidOut layout 2 hd.isWritable⟩

theorem isWritable_policyElement (layout : Layout) {p : Policy} (hp : CanBeWritten p) :
    IsWritable (policyElement layout p) := by
  have htag : IsSimpleName "srcPath" := by decide
  refine ⟨htag, areWritable_name hp.path, writable_laidOut layout 1 ?_⟩
  intro child hmem
  rcases List.mem_append.1 hmem with hproperty | hdestination
  · exact hp.properties.isWritable child hproperty
  · obtain ⟨d, hd, rfl⟩ := List.mem_map.1 hdestination
    exact isWritable_destinationElement layout (hp.paths d hd) (hp.destinations d hd)

theorem isWritable_documentElement (layout : Layout) {policies : List Policy}
    (hpolicies : ∀ p ∈ policies, CanBeWritten p) :
    IsWritable (documentElement layout policies) := by
  have htag : IsSimpleName "configuration" := by decide
  refine ⟨htag, areWritable_nil, writable_laidOut layout 0 ?_⟩
  intro child hmem
  obtain ⟨p, hp, rfl⟩ := List.mem_map.1 hmem
  exact isWritable_policyElement layout (hpolicies p hp)

end PolicyDocument

end PolicyKeeper
