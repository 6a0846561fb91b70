import Mathlib.Data.List.Forall2
import Mathlib.Logic.Relation
import PolicyKeeper.LoadRecords
import PolicyKeeper.Proofs.LoadOutcomes

/-!
# Surface forms

How a tree is written does not matter: the case of its names and their
namespaces, remarks, attributes with other names than `name`, and children
where none are looked for.  Trees that differ in nothing else have one form, and
the reader sees no more of a tree than its form, except that it quotes a tag
that it refuses as it is written.
-/

namespace PolicyKeeper

namespace PolicyDocument

/-! ## Other ways of writing a tree -/

/-- The name is written in another case of its letters, or in a namespace. -/
inductive Respells : String → String → Prop
  | letterCase {name name' : String} (hcase : lowered name' = lowered name) :
      Respells name name'
  | inNamespace (address name : String) :
      Respells name ("\x7b" ++ address ++ "\x7d" ++ name)

/-- The node does not count below a tag: a remark, a text, an element in a
property that is neither name nor value, or any element in a name or value. -/
inductive DoesNotCount (tag : String) : Node → Prop
  | remark : DoesNotCount tag .remark
  | text (s : String) : DoesNotCount tag (.text s)
  | inProperty {kind : String} (attributes : List (String × String)) (content : List Node)
      (htag : localName tag = "property") (hkind : localName kind ∉ ["name", "value"]) :
      DoesNotCount tag (.element kind attributes content)
  | inText (kind : String) (attributes : List (String × String)) (content : List Node)
      (htag : localName tag ∈ ["name", "value"]) :
      DoesNotCount tag (.element kind attributes content)

/-- The second tree is the first one written in another way at one place.  The
text of an element is what stands before its first node of another kind, so a
node that comes in leaves it as it is. -/
inductive Restyles : Element → Element → Prop
  | tag {tag tag' : String} (attributes : List (String × String)) (content : List Node)
      (hname : Respells tag tag') :
      Restyles ⟨tag, attributes, content⟩ ⟨tag', attributes, content⟩
  | attributeName (tag : String) (front back : List (String × String)) (content : List Node)
      {name name' : String} (value : String) (hname : Respells name name') :
      Restyles ⟨tag, front ++ (name, value) :: back, content⟩
        ⟨tag, front ++ (name', value) :: back, content⟩
  | extraAttribute (tag : String) (front back : List (String × String)) (content : List Node)
      {name : String} (value : String) (hname : localName name ≠ "name") :
      Restyles ⟨tag, front ++ back, content⟩ ⟨tag, front ++ (name, value) :: back, content⟩
  | extraNode (tag : String) (attributes : List (String × String)) (front back : List Node)
      {extra : Node} (hextra : DoesNotCount tag extra)
      (htext : Element.leadingText (front ++ extra :: back) =
        Element.leadingText (front ++ back)) :
      Restyles ⟨tag, attributes, front ++ back⟩ ⟨tag, attributes, front ++ extra :: back⟩
  | within (tag : String) (attributes : List (String × String)) (front back : List Node)
      {child child' : Element} (hchild : Restyles child child') :
      Restyles ⟨tag, attributes, front ++ child.toNode :: back⟩
        ⟨tag, attributes, front ++ child'.toNode :: back⟩

/-! ## Local names -/

theorem toLower_eq_brace_iff {c : Char} : c.toLower = '\x7d' ↔ c = '\x7d' := by
  unfold Char.toLower
  split
  next hcapital =>
    -- The lower case of a capital ends with `z`, before the brace.
    have hfirst : 65 ≤ c.val.toNat := UInt32.le_iff_toNat_le.1 hcapital.1
    have hlast : c.val.toNat ≤ 90 := UInt32.le_iff_toNat_le.1 hcapital.2
    have hdistance : ('a'.val - 'A'.val).toNat = 32 := rfl
    have hbrace : '\x7d'.val.toNat = 125 := rfl
    constructor
    · intro heq
      have hcode : (c.val + ('a'.val - 'A'.val)).toNat = '\x7d'.val.toNat :=
        congrArg (fun d : Char => d.val.toNat) heq
      rw [UInt32.toNat_add, hdistance, hbrace] at hcode
      omega
    · rintro rfl
      rw [hbrace] at hlast
      omega
  next => exact Iff.rfl

/-- What follows the last brace is in lower case what follows it in the text in
lower case. -/
theorem localName_eq (name : String) :
    localName name =
      String.ofList (((lowered name).toList.reverse.takeWhile (· ≠ '\x7d')).reverse) := by
  have hbrace : ((fun c : Char => decide (c ≠ '\x7d')) ∘ Char.toLower) =
      fun c => decide (c ≠ '\x7d') := by
    funext c
    simp [toLower_eq_brace_iff]
  unfold localName lowered
  rw [String.toList_ofList, String.toList_ofList, ← List.map_reverse, List.takeWhile_map, hbrace,
    ← List.map_reverse]

theorem takeWhile_append_brace (front back : List Char) :
    (front ++ '\x7d' :: back).takeWhile (· ≠ '\x7d') = front.takeWhile (· ≠ '\x7d') := by
  induction front with
  | nil => rfl
  | cons c rest ih => rw [List.cons_append, List.takeWhile_cons, List.takeWhile_cons, ih]

theorem localName_inNamespace (address name : String) :
    localName ("\x7b" ++ address ++ "\x7d" ++ name) = localName name := by
  have hreversed : ("\x7b" ++ address ++ "\x7d" ++ name).toList.reverse =
      name.toList.reverse ++ '\x7d' :: ("\x7b" ++ address).toList.reverse := by
    simp
  unfold localName
  rw [hreversed, takeWhile_append_brace]

theorem Respells.localName_eq {name name' : String} (h : Respells name name') :
    localName name' = localName name := by
  cases h with
  | letterCase hcase => rw [PolicyDocument.localName_eq, hcase, ← PolicyDocument.localName_eq]
  | inNamespace address => exact localName_inNamespace address name

/-! ## Forms -/

/-- What counts of an element: its kind, its name, its text, and the elements in
it that are looked for. -/
inductive Form
  | mk (kind : String) (name : Option String) (text : String) (parts : List Form)

namespace Form

def kind : Form → String
  | .mk kind _ _ _ => kind

def text : Form → String
  | .mk _ _ text _ => text

end Form

/-- The parts that are looked for in an element of a kind. -/
def counted (kind : String) (parts : List Form) : List Form :=
  if kind = "property" then parts.filter (·.kind ∈ ["name", "value"])
  else if kind ∈ ["name", "value"] then []
  else parts

mutual

def formsOfNode : Node → List Form
  | .text _ => []
  | .remark => []
  | .element tag attributes content =>
      [.mk (localName tag) (nameAttribute? ⟨tag, attributes, content⟩)
        (Element.leadingText content) (counted (localName tag) (formsAmong content))]

def formsAmong : List Node → List Form
  | [] => []
  | node :: rest => formsOfNode node ++ formsAmong rest

end

def formOf (e : Element) : Form :=
  .mk (localName e.tag) (nameAttribute? e) e.text (counted (localName e.tag) (formsAmong e.content))

theorem kind_formOf (e : Element) : (formOf e).kind = localName e.tag := by
  rw [formOf, Form.kind]

theorem text_formOf (e : Element) : (formOf e).text = e.text := by
  rw [formOf, Form.text]

theorem formsOfNode_toNode (e : Element) : formsOfNode e.toNode = [formOf e] := by
  rw [Element.toNode, formsOfNode]
  rfl

theorem formsAmong_append (front back : List Node) :
    formsAmong (front ++ back) = formsAmong front ++ formsAmong back := by
  induction front with
  | nil => rfl
  | cons node rest ih => rw [List.cons_append, formsAmong, ih, formsAmong, List.append_assoc]

theorem formsAmong_eq (content : List Node) :
    formsAmong content = (Element.elementsOf content).map formOf := by
  induction content with
  | nil => rfl
  | cons node rest ih =>
      rw [formsAmong, ih]
      cases node with
      | text | remark => rfl
      | element tag attributes content =>
          have hfirst := formsOfNode_toNode ⟨tag, attributes, content⟩
          exact congrArg (· ++ _) hfirst

/-! ## Trees of one form -/

theorem nameAttribute?_eq (e : Element) :
    nameAttribute? e =
      ((e.attributes.find? fun entry => localName entry.1 = "name").map (·.2)).filter
        (· ≠ "") := by
  unfold nameAttribute?
  cases hfound : e.attributes.find? fun entry => localName entry.1 = "name" with
  | none => rfl
  | some found =>
      obtain ⟨key, value⟩ := found
      by_cases hvalue : value = ""
      · subst hvalue
        rfl
      · simp [hvalue, Option.filter]

theorem counted_of_doesNotCount {tag : String} {extra : Node} (hextra : DoesNotCount tag extra)
    (before after : List Form) :
    counted (localName tag) (before ++ (formsOfNode extra ++ after)) =
      counted (localName tag) (before ++ after) := by
  cases hextra with
  | remark | text => rw [formsOfNode, List.nil_append]
  | @inProperty kind attributes content htag hkind =>
      have hdropped : ((formsOfNode (.element kind attributes content)).filter
          fun part => part.kind ∈ ["name", "value"]) = [] := by
        rw [formsOfNode]
        exact List.filter_cons_of_neg (by simpa [Form.kind] using hkind)
      simp only [counted, htag, if_true, List.filter_append, hdropped, List.nil_append]
  | inText kind attributes content htag =>
      have hnot : localName tag ≠ "property" := by
        intro hproperty
        rw [hproperty] at htag
        exact absurd htag (by decide)
      simp only [counted, hnot, htag, if_false, if_true]

theorem leadingText_append_toNode (front back : List Node) (child child' : Element) :
    Element.leadingText (front ++ child'.toNode :: back) =
      Element.leadingText (front ++ child.toNode :: back) := by
  induction front with
  | nil => rfl
  | cons node rest ih =>
      cases node with
      | text s =>
          rw [List.cons_append, List.cons_append, Element.leadingText, Element.leadingText, ih]
      | remark | element => rfl

theorem Restyles.formOf_eq {e e' : Element} (h : Restyles e e') : formOf e' = formOf e := by
  induction h with
  | tag attributes content hname =>
      unfold formOf
      rw [hname.localName_eq]
      rfl
  | @attributeName tag front back content name name' value hname =>
      have hsame : nameAttribute? ⟨tag, front ++ (name', value) :: back, content⟩ =
          nameAttribute? ⟨tag, front ++ (name, value) :: back, content⟩ := by
        rw [nameAttribute?_eq, nameAttribute?_eq]
        by_cases hkey : localName name = "name"
        · rw [List.find?_append, List.find?_append]
          cases front.find? fun entry => localName entry.1 = "name" with
          | none => simp only [Option.none_or, List.find?_cons, hname.localName_eq, hkey,
              decide_true, Option.map_some]
          | some found => simp only [Option.some_or]
        · simp [List.find?_append, hname.localName_eq, hkey]
      unfold formOf
      rw [hsame]
      rfl
  | @extraAttribute tag front back content name value hname =>
      have hsame : nameAttribute? ⟨tag, front ++ (name, value) :: back, content⟩ =
          nameAttribute? ⟨tag, front ++ back, content⟩ := by
        rw [nameAttribute?_eq, nameAttribute?_eq]
        simp [List.find?_append, hname]
      unfold formOf
      rw [hsame]
      rfl
  | extraNode tag attributes front back hextra htext =>
      unfold formOf
      simp only [Element.text, htext, formsAmong_append, formsAmong, counted_of_doesNotCount hextra]
      rfl
  | @within tag attributes front back child child' hchild ih =>
      have htext := leadingText_append_toNode front back child child'
      unfold formOf
      simp only [Element.text, htext, formsAmong_append, formsAmong, formsOfNode_toNode, ih]
      rfl

theorem formOf_eq_of_restyled {e e' : Element} (h : Relation.EqvGen Restyles e e') :
    formOf e' = formOf e := by
  induction h with
  | rel e e' hstep => exact hstep.formOf_eq
  | refl e => rfl
  | symm e e' _ ih => exact ih.symm
  | trans e between e' _ _ hfirst hsecond => exact hsecond.trans hfirst

/-! ## Faults that quote a tag -/

end PolicyDocument

/-- The same fault with another tag quoted, if it quotes one. -/
def StructureFault.quoting (tag : String) : StructureFault → StructureFault
  | .notSource _ => .notSource tag
  | .notPropertyOrDestination policy _ => .notPropertyOrDestination policy tag
  | .notProperty _ => .notProperty tag
  | cause => cause

theorem StructureFault.message_quoting (cause : StructureFault) :
    (∃ said, ∀ tag, (cause.quoting tag).message = said ++ tag) ∨
      ∀ tag, cause.quoting tag = cause := by
  cases cause with
  | notSource =>
      left
      exact ⟨"Bad configuration file: " ++ "the top level item must be srcPath but found ",
        fun tag => String.append_assoc.symm⟩
  | notPropertyOrDestination policy =>
      left
      exact ⟨"Bad configuration file: " ++
        s!"expecting <property> or <destPath> for srcPath {policy} but found ",
        fun tag => String.append_assoc.symm⟩
  | notProperty =>
      left
      exact ⟨"Bad configuration file: " ++
        "<destPath> can have only <property> children but found ",
        fun tag => String.append_assoc.symm⟩
  | wrongRoot | sourceWithoutName | destinationWithoutName | incompleteProperty
  | repeatedSource => exact .inr fun _ => rfl

namespace PolicyDocument

/-- The faults are the same, but they may quote a tag in two spellings. -/
inductive QuoteAlike : BuildFault → BuildFault → Prop
  | same (fault : BuildFault) : QuoteAlike fault fault
  | respelled (cause : StructureFault) {tag tag' : String}
      (htag : localName tag' = localName tag) :
      QuoteAlike (.structural (cause.quoting tag)) (.structural (cause.quoting tag'))

theorem QuoteAlike.message_eq {fault fault' : BuildFault} (h : QuoteAlike fault fault') :
    ∃ said tag tag', localName tag' = localName tag ∧
      (LoadFault.build fault).message = said ++ tag ∧
      (LoadFault.build fault').message = said ++ tag' := by
  have hsame : ∀ fault : BuildFault, ∃ said tag tag', localName tag' = localName tag ∧
      (LoadFault.build fault).message = said ++ tag ∧
      (LoadFault.build fault).message = said ++ tag' :=
    fun fault => ⟨_, "", "", rfl, String.append_empty.symm, String.append_empty.symm⟩
  cases h with
  | same => exact hsame fault
  | @respelled cause tag tag' htag =>
      cases cause.message_quoting with
      | inl hquotes =>
          obtain ⟨said, hsaid⟩ := hquotes
          exact ⟨said, tag, tag', htag, hsaid tag, hsaid tag'⟩
      | inr hplain =>
          rw [hplain, hplain]
          exact hsame _

inductive SameOutcome : Except BuildFault α → Except BuildFault α → Prop
  | read (value : α) : SameOutcome (.ok value) (.ok value)
  | refused {fault fault' : BuildFault} (hfault : QuoteAlike fault fault') :
      SameOutcome (.error fault) (.error fault')

/-- The second work comes to the same as the first one, with the same notices. -/
structure ReadAlike (work work' : Build α) : Prop where
  notices : work'.notices = work.notices
  outcome : SameOutcome work.outcome work'.outcome

namespace ReadAlike

theorem refl (work : Build α) : ReadAlike work work := by
  refine ⟨rfl, ?_⟩
  cases work.outcome with
  | error fault => exact .refused (.same fault)
  | ok value => exact .read value

theorem bind {work work' : Build α} {next next' : α → Build β} (h : ReadAlike work work')
    (hnext : ∀ value, ReadAlike (next value) (next' value)) :
    ReadAlike (work >>= next) (work' >>= next') := by
  obtain ⟨notices, outcome⟩ := work
  obtain ⟨notices', outcome'⟩ := work'
  obtain ⟨rfl, houtcome⟩ := h
  cases houtcome with
  | refused hfault => exact ⟨rfl, .refused hfault⟩
  | read value => exact ⟨congrArg (notices' ++ ·) (hnext value).notices, (hnext value).outcome⟩

theorem refuse_quoting (cause : StructureFault) {tag tag' : String}
    (htag : localName tag' = localName tag) :
    ReadAlike (refuse (cause.quoting tag) : Build α) (refuse (cause.quoting tag')) :=
  ⟨rfl, .refused (.respelled cause htag)⟩

end ReadAlike

/-! ## The reader sees forms -/

/-- The elements have the same forms, one by one. -/
def SameForms (children children' : List Element) : Prop :=
  List.Forall₂ (fun child child' => formOf child' = formOf child) children children'

section

variable {e e' : Element}

theorem counted_eq_of_form (h : formOf e' = formOf e) :
    localName e'.tag = localName e.tag ∧ nameAttribute? e' = nameAttribute? e ∧
      counted (localName e.tag) (e'.children.map formOf) =
        counted (localName e.tag) (e.children.map formOf) := by
  rw [formOf, formOf, formsAmong_eq, formsAmong_eq] at h
  obtain ⟨htag, hname, -, hparts⟩ := Form.mk.inj h
  rw [htag] at hparts
  exact ⟨htag, hname, hparts⟩

theorem sameForms_of_form (h : formOf e' = formOf e)
    (hkind : localName e.tag ∉ ["property", "name", "value"]) :
    SameForms e.children e'.children := by
  obtain ⟨-, -, hparts⟩ := counted_eq_of_form h
  simp only [List.mem_cons, List.not_mem_nil, or_false, not_or] at hkind
  have hall : ∀ parts, counted (localName e.tag) parts = parts := by
    intro parts
    simp [counted, hkind]
  rw [hall, hall] at hparts
  have hsame : List.Forall₂ (fun form form' => form' = form) (e.children.map formOf)
      (e'.children.map formOf) := by
    rw [hparts]
    exact List.forall₂_refl _
  rwa [List.forall₂_map_left_iff, List.forall₂_map_right_iff] at hsame

theorem lastText?_eq (kind : String) (children : List Element) :
    lastText? kind children =
      ((children.map formOf).reverse.find? (·.kind = kind)).map fun form => trimmed form.text := by
  have hkind : ((fun form : Form => decide (form.kind = kind)) ∘ formOf) =
      fun child => decide (localName child.tag = kind) := by
    funext child
    simp only [Function.comp_apply, kind_formOf]
  have htext : ((fun form : Form => trimmed form.text) ∘ formOf) =
      fun child => trimmed child.text := by
    funext child
    simp only [Function.comp_apply, text_formOf]
  rw [← List.map_reverse, List.find?_map, Option.map_map, hkind, htext]
  rfl

theorem lastText?_eq_of_form (h : formOf e' = formOf e) (hproperty : localName e.tag = "property")
    {kind : String} (hkind : kind ∈ ["name", "value"]) :
    lastText? kind e'.children = lastText? kind e.children := by
  -- The parts that do not count are not of the kind.
  have hcounted : ∀ parts : List Form,
      (counted "property" parts).reverse.find? (·.kind = kind) =
        parts.reverse.find? (·.kind = kind) := by
    intro parts
    rw [counted, if_pos rfl, ← List.filter_reverse, List.find?_filter]
    congr 1
    funext part
    by_cases hpart : part.kind = kind
    · simp [hpart, hkind]
    · simp [hpart]
  obtain ⟨-, -, hparts⟩ := counted_eq_of_form h
  rw [hproperty] at hparts
  rw [lastText?_eq, lastText?_eq, ← hcounted, hparts, hcounted]

theorem addProperty_eq_of_form (h : formOf e' = formOf e)
    (hproperty : localName e.tag = "property") (policy owner : String) (p : Properties) :
    addProperty policy owner p e' = addProperty policy owner p e := by
  unfold addProperty property
  rw [lastText?_eq_of_form h hproperty (by decide), lastText?_eq_of_form h hproperty (by decide)]

end

theorem readAlike_destinationProperties {children children' : List Element}
    (h : SameForms children children') (policy path : String) (p : Properties) :
    ReadAlike (destinationProperties policy path p children)
      (destinationProperties policy path p children') := by
  induction h generalizing p with
  | nil => exact .refl _
  | @cons child child' rest rest' hchild _ ih =>
      unfold destinationProperties
      simp only [(counted_eq_of_form hchild).1]
      split_ifs with hempty hproperty
      · exact ih p
      · rw [addProperty_eq_of_form hchild hproperty]
        exact (ReadAlike.refl _).bind ih
      · exact .refuse_quoting (.notProperty "") (counted_eq_of_form hchild).1

theorem readAlike_destination {e e' : Element} (h : formOf e' = formOf e)
    (hkind : localName e.tag = "destpath") (policy : String) :
    ReadAlike (destination policy e) (destination policy e') := by
  have hchildren := sameForms_of_form h (by rw [hkind]; decide)
  unfold destination
  rw [(counted_eq_of_form h).2.1]
  cases nameAttribute? e with
  | none => exact .refl _
  | some path =>
      exact (readAlike_destinationProperties hchildren policy path .empty).bind fun _ => .refl _

theorem readAlike_policyChildren {children children' : List Element}
    (h : SameForms children children') (name : String) (p : Properties)
    (destinations : List Destination) :
    ReadAlike (policyChildren name p destinations children)
      (policyChildren name p destinations children') := by
  induction h generalizing p destinations with
  | nil => exact .refl _
  | @cons child child' rest rest' hchild _ ih =>
      unfold policyChildren
      simp only [(counted_eq_of_form hchild).1]
      split_ifs with hempty hproperty hdestination
      · exact ih p destinations
      · rw [addProperty_eq_of_form hchild hproperty]
        exact (ReadAlike.refl _).bind fun q => ih q destinations
      · exact (readAlike_destination hchild hdestination name).bind fun d =>
          ih p (destinations ++ [d])
      · exact .refuse_quoting (.notPropertyOrDestination name "") (counted_eq_of_form hchild).1

theorem readAlike_policy {e e' : Element} (h : formOf e' = formOf e)
    (hkind : localName e.tag = "srcpath") : ReadAlike (policy e) (policy e') := by
  have hchildren := sameForms_of_form h (by rw [hkind]; decide)
  unfold policy
  rw [(counted_eq_of_form h).2.1]
  cases nameAttribute? e with
  | none => exact .refl _
  | some name =>
      exact (readAlike_policyChildren hchildren name .empty []).bind fun _ => .refl _

theorem readAlike_policies {children children' : List Element}
    (h : SameForms children children') (before : List Policy) :
    ReadAlike (policies before children) (policies before children') := by
  induction h generalizing before with
  | nil => exact .refl _
  | @cons child child' rest rest' hchild _ ih =>
      unfold policies
      simp only [(counted_eq_of_form hchild).1]
      split_ifs with hempty hsource
      · exact ih before
      · apply (readAlike_policy hchild hsource).bind
        intro p
        split_ifs
        · exact .refl _
        · exact ih (before ++ [p])
      · exact .refuse_quoting (.notSource "") (counted_eq_of_form hchild).1

theorem readAlike_policySet {root root' : Element} (h : formOf root' = formOf root)
    (source : String) : ReadAlike (policySet source root) (policySet source root') := by
  unfold policySet
  rw [(counted_eq_of_form h).1]
  split_ifs with hroot
  · exact .refl _
  · rw [not_not] at hroot
    have hchildren := sameForms_of_form h (by rw [hroot]; decide)
    exact (readAlike_policies hchildren []).bind fun _ => .refl _

/-! ## Trees written in other ways -/

/-- However often a tree is written in another way, here or back, the reader
leaves the same notices and gives the same policies, or it refuses both trees
with the same message but for the spelling of a tag. -/
theorem restyled_trees_read_alike {root root' : Element}
    (h : Relation.EqvGen Restyles root root') (source : String) :
    (policySet source root').notices = (policySet source root).notices ∧
      ((∃ set, (policySet source root).outcome = .ok set ∧
          (policySet source root').outcome = .ok set) ∨
        ∃ fault fault', (policySet source root).outcome = .error fault ∧
          (policySet source root').outcome = .error fault' ∧ QuoteAlike fault fault' ∧
          ∃ said tag tag', localName tag' = localName tag ∧
            (LoadFault.build fault).message = said ++ tag ∧
            (LoadFault.build fault').message = said ++ tag') := by
  obtain ⟨hnotices, houtcome⟩ := readAlike_policySet (formOf_eq_of_restyled h) source
  refine ⟨hnotices, ?_⟩
  generalize (policySet source root).outcome = outcome at houtcome ⊢
  generalize (policySet source root').outcome = outcome' at houtcome ⊢
  cases houtcome with
  | read set => exact .inl ⟨set, rfl, rfl⟩
  | @refused fault fault' hfault =>
      exact .inr ⟨fault, fault', rfl, rfl, hfault, hfault.message_eq⟩

def plainTree : Element :=
  ⟨"configuration", [], [.element "srcPath" [("name", "/a")] [.element "dest" [] []]]⟩

def ornateTree : Element :=
  ⟨"CONFIGURATION", [("lang", "en")],
    [.remark, .element "srcPath" [("name", "/a")] [.element "\x7burn:a\x7ddest" [] []]]⟩

theorem restyled_trees_read_alike_plain_ornate :
    Relation.EqvGen Restyles plainTree ornateTree ∧
      (policySet "p.xml" ornateTree).notices = (policySet "p.xml" plainTree).notices ∧
      (policySet "p.xml" plainTree).outcome =
        .error (.structural (.notPropertyOrDestination "/a" "dest")) ∧
      (policySet "p.xml" ornateTree).outcome =
        .error (.structural (.notPropertyOrDestination "/a" "\x7burn:a\x7ddest")) := by
  have htag : Relation.EqvGen Restyles plainTree
      ⟨"CONFIGURATION", [], plainTree.content⟩ :=
    .rel _ _ (.tag [] _ (.letterCase (by decide)))
  have hattribute : Relation.EqvGen Restyles ⟨"CONFIGURATION", [], plainTree.content⟩
      ⟨"CONFIGURATION", [("lang", "en")], plainTree.content⟩ :=
    .rel _ _ (.extraAttribute _ [] [] _ "en" (by decide))
  have hremark : Relation.EqvGen Restyles
      ⟨"CONFIGURATION", [("lang", "en")], plainTree.content⟩
      ⟨"CONFIGURATION", [("lang", "en")], .remark :: plainTree.content⟩ :=
    .rel _ _ (.extraNode _ _ [] _ .remark rfl)
  have hnamespace : Relation.EqvGen Restyles
      ⟨"CONFIGURATION", [("lang", "en")], .remark :: plainTree.content⟩ ornateTree :=
    .rel _ _ (.within _ _ [.remark] []
      (.within _ _ [] [] (.tag [] [] (.inNamespace "urn:a" "dest"))))
  have hrestyled := ((htag.trans _ _ _ hattribute).trans _ _ _ hremark).trans _ _ _ hnamespace
  obtain ⟨hnotices, -⟩ := restyled_trees_read_alike hrestyled "p.xml"
  exact ⟨hrestyled, hnotices, by rfl, by rfl⟩

end PolicyDocument

end PolicyKeeper
