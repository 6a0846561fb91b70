import PolicyKeeper.Proofs.DocumentMarks

/-!
# First faults

The first fault of a document in document order decides what comes of reading
it.  Whatever follows the element of the fault may be changed, added or removed:
the marks up to the fault stay the same, and so do the fault that is reported
and the properties that are put on record.
-/

namespace PolicyKeeper

namespace PolicyDocument

/-! ## Trees that differ later -/

/-- The trees have the same element at a place, and are the same before it; what
follows it, among its own siblings and those of the elements around it, may
differ. -/
def SameThrough : List Nat → Element → Element → Prop
  | [], e, e' => e' = e
  | position :: place, e, e' =>
      e'.tag = e.tag ∧ e'.attributes = e.attributes ∧
        ∃ front child child' back back', front.length = position ∧
          e.content = front ++ child.toNode :: back ∧
          e'.content = front ++ child'.toNode :: back' ∧ SameThrough place child child'

/-- The marks up to one at a place depend on nothing that follows the place. -/
def KeepsMarks (inside : Element → List Located) : Prop :=
  ∀ ⦃e e' : Element⦄ ⦃front : List Located⦄ ⦃m : Located⦄, front ++ [m] <+: inside e →
    SameThrough m.place e e' → front ++ [m] <+: inside e'

/-- A beginning that ends with what is only in the middle ends in the middle. -/
theorem prefix_middle {before middle after front : List α} {m : α}
    (hstart : front ++ [m] <+: before ++ (middle ++ after)) (hbefore : m ∉ before)
    (hafter : m ∉ after) : ∃ within, front = before ++ within ∧ within ++ [m] <+: middle := by
  obtain ⟨rest, hsplit⟩ := hstart
  rw [List.append_assoc, List.singleton_append] at hsplit
  obtain ⟨within, hfront, hrest⟩ : ∃ within, front = before ++ within ∧
      middle ++ after = within ++ m :: rest := by
    rcases List.append_eq_append_iff.1 hsplit with ⟨more, hmore, hrest⟩ | ⟨within, hfront, hrest⟩
    · cases more with
      | nil => exact ⟨[], by simpa using hmore.symm, by simpa using hrest.symm⟩
      | cons first more =>
          obtain rfl := (List.cons.inj hrest).1
          exact absurd (by simp [hmore]) hbefore
    · exact ⟨within, hfront, hrest⟩
  refine ⟨within, hfront, ?_⟩
  rcases List.append_eq_append_iff.1 hrest with ⟨more, -, hlate⟩ | ⟨more, hmiddle, hlate⟩
  · exact absurd (by simp [hlate]) hafter
  · cases more with
    | nil =>
        rw [List.nil_append] at hlate
        exact absurd (by simp [← hlate]) hafter
    | cons first more =>
        obtain rfl := (List.cons.inj hlate).1
        exact ⟨more, by simp [hmiddle]⟩

/-! ## Marks among nodes -/

section

variable {inside : List Element → Element → List Located}

theorem among_toNode (inside : List Element → Element → List Located)
    (front middle back : List Node) (child : Element) :
    among inside front (middle ++ child.toNode :: back) =
      among inside front middle ++
        ((inside (Element.elementsOf (front ++ middle)) child).map
            (.below (front ++ middle).length) ++
          among inside (front ++ middle ++ [child.toNode]) back) := by
  induction middle generalizing front with
  | nil =>
      rw [List.append_nil]
      rfl
  | cons node rest ih =>
      cases node with
      | element => simp [among, ih]
      | text => simp [among, ih]
      | remark => simp [among, ih]

/-- A mark among nodes is one inside an element at a position. -/
theorem mem_among {front content : List Node} {m : Located}
    (hmem : m ∈ among inside front content) :
    ∃ middle child back, content = middle ++ child.toNode :: back ∧
      ∃ within ∈ inside (Element.elementsOf (front ++ middle)) child,
        m = within.below (front ++ middle).length := by
  induction content generalizing front with
  | nil => cases hmem
  | cons node rest ih =>
      have hlater : m ∈ among inside (front ++ [node]) rest →
          ∃ middle child back, node :: rest = middle ++ child.toNode :: back ∧
            ∃ within ∈ inside (Element.elementsOf (front ++ middle)) child,
              m = within.below (front ++ middle).length := by
        intro hrest
        obtain ⟨middle, child, back, rfl, within, hwithin, hm⟩ := ih hrest
        rw [List.append_assoc, List.singleton_append] at hwithin hm
        exact ⟨node :: middle, child, back, rfl, within, hwithin, hm⟩
      cases node with
      | text s => exact hlater hmem
      | remark => exact hlater hmem
      | element tag attributes content =>
          rcases List.mem_append.1 hmem with hfirst | hrest
          · obtain ⟨within, hwithin, rfl⟩ := List.mem_map.1 hfirst
            refine ⟨[], ⟨tag, attributes, content⟩, rest, rfl, within, ?_, ?_⟩
            · simpa using hwithin
            · simp
          · exact hlater hrest

theorem position_of_mem_among {front content : List Node} {m : Located} {position : Nat}
    {place : List Nat} (hmem : m ∈ among inside front content)
    (hplace : m.place = position :: place) :
    front.length ≤ position ∧ position < front.length + content.length := by
  obtain ⟨middle, child, back, rfl, within, -, rfl⟩ := mem_among hmem
  have hposition : (front ++ middle).length = position := (List.cons.inj hplace).1
  rw [List.length_append] at hposition
  simp only [List.length_append, List.length_cons]
  omega

/-- Marks among nodes are kept when those inside each element are. -/
theorem prefix_among (hinside : ∀ earlier, KeepsMarks (inside earlier)) {e e' : Element}
    {front : List Located} {m : Located} {position : Nat} {place : List Nat}
    (hstart : front ++ [m] <+: among inside [] e.content)
    (hplace : m.place = position :: place) (hsame : SameThrough m.place e e') :
    front ++ [m] <+: among inside [] e'.content := by
  rw [hplace] at hsame
  obtain ⟨-, -, before, child, child', back, back', hposition, hcontent, hcontent', hchild⟩ :=
    hsame
  rw [hcontent, among_toNode] at hstart
  rw [hcontent', among_toNode]
  have hbefore : m ∉ among inside [] before := by
    intro hmem
    have hrange := position_of_mem_among hmem hplace
    simp only [List.length_nil] at hrange
    omega
  have hafter : m ∉ among inside ([] ++ before ++ [child.toNode]) back := by
    intro hmem
    have hrange := position_of_mem_among hmem hplace
    simp only [List.nil_append, List.length_append, List.length_singleton] at hrange
    omega
  obtain ⟨within, rfl, hwithin⟩ := prefix_middle hstart hbefore hafter
  rw [List.append_assoc]
  apply (List.prefix_append_right_inj _).2
  -- Inside the element the marks are those of the child, one level up.
  obtain ⟨rest, hsplit⟩ := hwithin
  obtain ⟨front', rest', hchildMarks, hfront', -⟩ := List.map_eq_append_iff.1 hsplit.symm
  obtain ⟨within', last, rfl, hwithin', hlast⟩ := List.map_eq_append_iff.1 hfront'
  obtain ⟨m', rfl, rfl⟩ := List.map_eq_singleton_iff.1 hlast
  have hplace' : m'.place = place := (List.cons.inj hplace).2
  have hkept := hinside _ ⟨rest', hchildMarks.symm⟩ (hplace' ▸ hchild)
  have hlifted := hkept.map (Located.below ([] ++ before).length)
  rw [List.map_append, hwithin'] at hlifted
  exact hlifted.trans (List.prefix_append _ _)

end

/-! ## The marks of a document -/

section

variable {inside : Element → List Located} {place : List Nat} {e e' : Element} {m : Located}

theorem SameThrough.tag_eq (h : SameThrough place e e') : e'.tag = e.tag := by
  cases place with
  | nil => exact congrArg Element.tag h
  | cons => exact h.1

theorem SameThrough.attributes_eq (h : SameThrough place e e') : e'.attributes = e.attributes := by
  cases place with
  | nil => exact congrArg Element.attributes h
  | cons => exact h.2.1

theorem SameThrough.nameAttribute?_eq (h : SameThrough place e e') :
    nameAttribute? e' = nameAttribute? e := by
  unfold nameAttribute?
  rw [h.attributes_eq]

/-- A mark of the element itself has nothing in the element after it. -/
theorem keepsMarks_of_below
    (hbelow : ∀ {e e' : Element} {front : List Located} {m : Located} {position : Nat}
      {place : List Nat}, m.place = position :: place → front ++ [m] <+: inside e →
      SameThrough m.place e e' → front ++ [m] <+: inside e') : KeepsMarks inside := by
  intro e e' front m hstart hsame
  cases hplace : m.place with
  | nil =>
      rw [hplace] at hsame
      obtain rfl : e' = e := hsame
      exact hstart
  | cons position place => exact hbelow hplace hstart hsame

theorem mem_of_beginning {front found : List Located} (hstart : front ++ [m] <+: found) :
    m ∈ found := by
  apply hstart.subset
  simp

theorem keepsMarks_of_place (hplace : ∀ e, ∀ m ∈ inside e, m.place = []) : KeepsMarks inside := by
  apply keepsMarks_of_below
  intro e e' front m position place hbelow hstart
  rw [hplace e m (mem_of_beginning hstart)] at hbelow
  cases hbelow

theorem KeepsMarks.append {atEnd : Element → List Located} (hinside : KeepsMarks inside)
    (hend : ∀ e, ∀ m ∈ atEnd e, m.place = []) : KeepsMarks fun e => inside e ++ atEnd e := by
  apply keepsMarks_of_below
  intro e e' front m position place hplace hstart hsame
  have hnot : m ∉ atEnd e := by
    intro hmem
    rw [hend e m hmem] at hplace
    cases hplace
  obtain ⟨_, rfl, hwithin⟩ : ∃ within, front = [] ++ within ∧ within ++ [m] <+: inside e :=
    prefix_middle hstart List.not_mem_nil hnot
  exact (hinside hwithin hsame).trans (List.prefix_append _ _)

theorem place_of_mem_here {mark : Mark} (hmem : m ∈ here mark) : m.place = [] := by
  rw [List.mem_singleton.1 hmem]

theorem place_of_mem_propertyMarks {policy owner : String}
    (hmem : m ∈ propertyMarks policy owner e) : m.place = [] := by
  unfold propertyMarks at hmem
  split at hmem <;> exact place_of_mem_here hmem

theorem place_of_mem_repetitionMarks {earlier : List Element}
    (hmem : m ∈ repetitionMarks earlier e) : m.place = [] := by
  unfold repetitionMarks at hmem
  split at hmem
  next => cases hmem
  next =>
    split at hmem
    next => exact place_of_mem_here hmem
    next => cases hmem

theorem place_of_mem_destinationChildMarks {policy path : String}
    (hmem : m ∈ destinationChildMarks policy path e) : m.place = [] := by
  unfold destinationChildMarks at hmem
  simp only at hmem
  split_ifs at hmem
  · cases hmem
  · exact place_of_mem_propertyMarks hmem
  · exact place_of_mem_here hmem

theorem keepsMarks_namedMarks {unnamed : StructureFault}
    {inside : String → Element → List Located} (hinside : ∀ name, KeepsMarks (inside name)) :
    KeepsMarks (namedMarks unnamed inside) := by
  apply keepsMarks_of_below
  intro e e' front m position place hplace hstart hsame
  unfold namedMarks at hstart ⊢
  rw [hsame.nameAttribute?_eq]
  cases hname : nameAttribute? e with
  | none =>
      rw [hname] at hstart
      exact hstart
  | some name =>
      rw [hname] at hstart
      exact prefix_among (fun _ => hinside name) hstart hplace hsame

theorem keepsMarks_sourceChildMarks (name : String) : KeepsMarks (sourceChildMarks name) := by
  intro e e' front m hstart hsame
  have hdestination : KeepsMarks (destinationMarks name) :=
    keepsMarks_namedMarks fun path => keepsMarks_of_place fun _ _ =>
      place_of_mem_destinationChildMarks
  have hproperty : KeepsMarks (propertyMarks name s!"srcPath {name}") :=
    keepsMarks_of_place fun _ _ => place_of_mem_propertyMarks
  unfold sourceChildMarks at hstart ⊢
  simp only [hsame.tag_eq] at hstart ⊢
  split_ifs at hstart ⊢
  · exact hstart
  · exact hproperty hstart hsame
  · exact hdestination hstart hsame
  · exact hstart

theorem keepsMarks_topMarks (earlier : List Element) : KeepsMarks (topMarks earlier) := by
  intro e e' front m hstart hsame
  have hsource : KeepsMarks fun e => sourceMarks e ++ repetitionMarks earlier e :=
    (keepsMarks_namedMarks keepsMarks_sourceChildMarks).append fun _ _ =>
      place_of_mem_repetitionMarks
  unfold topMarks at hstart ⊢
  simp only [hsame.tag_eq] at hstart ⊢
  split_ifs at hstart ⊢
  · exact hstart
  · exact hsource hstart hsame
  · exact hstart

theorem keepsMarks_marks : KeepsMarks marks := by
  apply keepsMarks_of_below
  intro e e' front m position place hplace hstart hsame
  unfold marks at hstart ⊢
  rw [hsame.tag_eq]
  split_ifs at hstart ⊢
  · exact hstart
  · exact prefix_among keepsMarks_topMarks hstart hplace hsame

/-! ## The places of marks -/

theorem sameThrough_of_nil (hplace : m.place = []) : SameThrough m.place e e := by
  rw [hplace]
  rfl

theorem sameThrough_of_mem_among {inside : List Element → Element → List Located}
    (hinside : ∀ earlier child, ∀ m ∈ inside earlier child, SameThrough m.place child child)
    (hmem : m ∈ among inside [] e.content) : SameThrough m.place e e := by
  obtain ⟨middle, child, back, hcontent, within, hwithin, rfl⟩ := mem_among hmem
  exact ⟨rfl, rfl, middle, child, child, back, back, rfl, hcontent, hcontent,
    hinside _ _ _ hwithin⟩

theorem sameThrough_of_mem_namedMarks {unnamed : StructureFault}
    {inside : String → Element → List Located}
    (hinside : ∀ name child, ∀ m ∈ inside name child, SameThrough m.place child child)
    (hmem : m ∈ namedMarks unnamed inside e) : SameThrough m.place e e := by
  unfold namedMarks at hmem
  split at hmem
  next => exact sameThrough_of_nil (place_of_mem_here hmem)
  next name _ => exact sameThrough_of_mem_among (fun _ => hinside name) hmem

theorem sameThrough_of_mem_sourceChildMarks {name : String} (hmem : m ∈ sourceChildMarks name e) :
    SameThrough m.place e e := by
  unfold sourceChildMarks at hmem
  simp only at hmem
  split_ifs at hmem
  · cases hmem
  · exact sameThrough_of_nil (place_of_mem_propertyMarks hmem)
  · apply sameThrough_of_mem_namedMarks _ hmem
    intro path child m hwithin
    exact sameThrough_of_nil (place_of_mem_destinationChildMarks hwithin)
  · exact sameThrough_of_nil (place_of_mem_here hmem)

theorem sameThrough_of_mem_topMarks {earlier : List Element} (hmem : m ∈ topMarks earlier e) :
    SameThrough m.place e e := by
  unfold topMarks at hmem
  simp only at hmem
  split_ifs at hmem
  · cases hmem
  · rcases List.mem_append.1 hmem with hsource | hrepeated
    · exact sameThrough_of_mem_namedMarks
        (fun _ _ _ => sameThrough_of_mem_sourceChildMarks) hsource
    · exact sameThrough_of_nil (place_of_mem_repetitionMarks hrepeated)
  · exact sameThrough_of_nil (place_of_mem_here hmem)

/-- The place of a mark leads to an element. -/
theorem sameThrough_of_mem_marks {root : Element} (hmem : m ∈ marks root) :
    SameThrough m.place root root := by
  unfold marks at hmem
  split_ifs at hmem
  · exact sameThrough_of_nil (place_of_mem_here hmem)
  · exact sameThrough_of_mem_among (fun _ _ _ => sameThrough_of_mem_topMarks) hmem

end

/-! ## What the first fault decides -/

/-- The fault at a place is the first of the tree; some properties come before
it. -/
def IsFirstFault (root : Element) (front : List Located) (place : List Nat)
    (cause : StructureFault) : Prop :=
  HasNoFault front ∧ ∃ back, marks root = front ++ ⟨place, .fault cause⟩ :: back

/-- There is one record for each of some marks, in order. -/
def Recorded (found : List Located) (records : List LogRecord) : Prop :=
  List.Forall₂ (fun m record => m.mark.record? = some record) found records

theorem recorded_of_hasNoFault {found : List Located} (hfound : HasNoFault found) :
    Recorded found (found.filterMap (·.mark.record?)) := by
  induction found with
  | nil => exact .nil
  | cons m rest ih =>
      obtain ⟨hfirst, hrest⟩ := List.forall_mem_cons.1 hfound
      obtain ⟨place, ⟨policy, name, value⟩ | cause⟩ := m
      · exact .cons rfl (ih hrest)
      · exact absurd rfl (hfirst cause)

theorem exists_first_fault {found : List Located} (hfaulty : ¬ HasNoFault found) :
    ∃ front place cause, HasNoFault front ∧
      ∃ back, found = front ++ ⟨place, .fault cause⟩ :: back := by
  induction found with
  | nil => exact absurd (fun _ hmem => absurd hmem List.not_mem_nil) hfaulty
  | cons m rest ih =>
      obtain ⟨place, ⟨policy, name, value⟩ | cause⟩ := m
      · have hproperty : ∀ cause, Mark.property policy name value ≠ .fault cause := by simp
        have hrest : ¬ HasNoFault rest := fun hnone =>
          hfaulty (List.forall_mem_cons.2 ⟨hproperty, hnone⟩)
        obtain ⟨front, place', cause, hfront, back, rfl⟩ := ih hrest
        exact ⟨⟨place, .property policy name value⟩ :: front, place', cause,
          List.forall_mem_cons.2 ⟨hproperty, hfront⟩, back, rfl⟩
      · exact ⟨[], place, cause, fun _ hmem => absurd hmem List.not_mem_nil, rest, rfl⟩

namespace IsFirstFault

variable {root root' : Element} {front : List Located} {place : List Nat} {cause : StructureFault}

/-- The fault is that of an element of the tree. -/
theorem leads (h : IsFirstFault root front place cause) : SameThrough place root root := by
  obtain ⟨-, back, hmarks⟩ := h
  have hmem : ⟨place, .fault cause⟩ ∈ marks root := by simp [hmarks]
  exact sameThrough_of_mem_marks hmem

theorem of_sameThrough (h : IsFirstFault root front place cause)
    (hsame : SameThrough place root root') : IsFirstFault root' front place cause := by
  obtain ⟨hfront, back, hmarks⟩ := h
  have hstart : front ++ [⟨place, .fault cause⟩] <+: marks root := ⟨back, by simp [hmarks]⟩
  obtain ⟨back', hmarks'⟩ := keepsMarks_marks hstart hsame
  rw [List.append_assoc, List.singleton_append] at hmarks'
  exact ⟨hfront, back', hmarks'.symm⟩

theorem decides (h : IsFirstFault root front place cause) (source : String) :
    (policySet source root).outcome = .error (.structural cause) ∧
      (policySet source root).notices.map LoadNotice.record =
        front.filterMap (·.mark.record?) := by
  obtain ⟨hfront, back, hmarks⟩ := h
  exact policySet_of_first_fault hmarks hfront source

theorem not_describes (h : IsFirstFault root front place cause) :
    ¬ ∃ read, Describes root read := by
  obtain ⟨houtcome, -⟩ := h.decides ""
  exact policySet_structural_iff.1 ⟨cause, houtcome⟩

end IsFirstFault

/-- A tree describes policies unless it has a fault.  The first fault decides
what is reported and what is put on record, a record for each property before
it; a tree that is the same up to there, and has whatever it may have after it,
comes to the same.  Where there is no fault, all properties are put on record,
whether the policies are valid or not. -/
theorem first_fault_decides (source : String) (root : Element) :
    ((∃ front place cause, IsFirstFault root front place cause) ↔
      ¬ ∃ read, Describes root read) ∧
    (∀ front place cause, IsFirstFault root front place cause →
      SameThrough place root root ∧
      ∃ records, Recorded front records ∧
        ∀ root', SameThrough place root root' →
          (policySet source root').outcome = .error (.structural cause) ∧
          (policySet source root').notices.map LoadNotice.record = records) ∧
    ((∃ read, Describes root read) →
      Recorded (marks root) ((policySet source root).notices.map LoadNotice.record)) := by
  refine ⟨⟨?_, ?_⟩, ?_, ?_⟩
  · rintro ⟨front, place, cause, hfirst⟩
    exact hfirst.not_describes
  · intro hnone
    apply exists_first_fault
    intro hmarks
    exact hnone (policySet_of_hasNoFault hmarks source).1
  · intro front place cause hfirst
    refine ⟨hfirst.leads, _, recorded_of_hasNoFault hfirst.1, ?_⟩
    intro root' hsame
    exact (hfirst.of_sameThrough hsame).decides source
  · intro hdescribes
    have hmarks : HasNoFault (marks root) := by
      by_contra hfaulty
      obtain ⟨_, _, _, hfirst⟩ := exists_first_fault hfaulty
      exact IsFirstFault.not_describes hfirst hdescribes
    rw [(policySet_of_hasNoFault hmarks source).2]
    exact recorded_of_hasNoFault hmarks

/-! ## A name used twice -/

def saidOnce (name value : String) : Node :=
  .element "property" []
    [.element "name" [] [.text name], .element "value" [] [.text value]]

def ofPathA (content : List Node) : Element := ⟨"srcPath", [("name", "/a")], content⟩

/-- Two policies of the same name, with nodes after them. -/
def repeating (later : List Node) : Element :=
  let first := ofPathA [saidOnce "replication" "2", saidOnce "replication" "many"]
  ⟨"configuration", [],
    [.text " ", first.toNode, .remark] ++ (ofPathA [saidOnce "owner" "b"]).toNode :: later⟩

theorem first_fault_decides_repeating :
    ∃ records, records.map LogRecord.message =
        ["/a.replication = 2", "/a.replication = many", "/a.owner = b"] ∧
      ∀ root ∈ [repeating [], repeating [.element "srcPath" [] [], .element "other" [] []]],
        (policySet "p.xml" root).outcome = .error (.structural (.repeatedSource "/a")) ∧
          (policySet "p.xml" root).notices.map LoadNotice.record = records := by
  let front : List Located :=
    [⟨[1, 0], .property "/a" "replication" "2"⟩, ⟨[1, 1], .property "/a" "replication" "many"⟩,
      ⟨[3, 0], .property "/a" "owner" "b"⟩]
  have hfront : HasNoFault front := by simp [HasNoFault, front]
  have hmarks : marks (repeating []) = front ++ ⟨[3], .fault (.repeatedSource "/a")⟩ :: [] := by
    decide +kernel
  obtain ⟨-, hfirst, -⟩ := first_fault_decides "p.xml" (repeating [])
  obtain ⟨-, records, -, hsame⟩ := hfirst front [3] _ ⟨hfront, [], hmarks⟩
  have hlater : ∀ later, SameThrough [3] (repeating []) (repeating later) := by
    intro later
    exact ⟨rfl, rfl, _, _, _, [], later, rfl, rfl, rfl, rfl⟩
  refine ⟨records, ?_, ?_⟩
  · rw [← (hsame _ (hlater [])).2]
    decide +kernel
  · intro root hmem
    simp only [List.mem_cons, List.not_mem_nil, or_false] at hmem
    rcases hmem with rfl | rfl
    · exact hsame _ (hlater _)
    · exact hsame _ (hlater _)

end PolicyDocument

end PolicyKeeper
