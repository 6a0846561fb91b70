import PolicyKeeper.LoadRecords
import PolicyKeeper.Proofs.DocumentGrammar

/-!
# Marks in document order

In document order a tree has properties that are complete, and structural
faults; these are its marks, each with the place of its element.  A name that
was used before is marked at the end of its element, all other faults at the
beginning.  The reader goes through the marks: it notices the properties up to
the first fault, with which it ends.
-/

namespace PolicyKeeper

namespace PolicyDocument

inductive Mark
  | property (policy name value : String)
  | fault (cause : StructureFault)
  deriving DecidableEq

/-- A mark with the way to its element from the root, by positions among
nodes. -/
structure Located where
  place : List Nat
  mark : Mark
  deriving DecidableEq

def Located.below (position : Nat) (m : Located) : Located :=
  { m with place := position :: m.place }

def here (mark : Mark) : List Located := [⟨[], mark⟩]

/-! ## The marks of a tree -/

/-- The marks of nodes that come after others, by those inside an element, which
may depend on the elements before it. -/
def among (inside : List Element → Element → List Located) (front : List Node) :
    List Node → List Located
  | [] => []
  | .element tag attributes content :: rest =>
      (inside (Element.elementsOf front) ⟨tag, attributes, content⟩).map (.below front.length) ++
        among inside (front ++ [.element tag attributes content]) rest
  | .text s :: rest => among inside (front ++ [.text s]) rest
  | .remark :: rest => among inside (front ++ [.remark]) rest

def propertyMarks (policy owner : String) (e : Element) : List Located :=
  match lastText? "name" e.children, lastText? "value" e.children with
  | some name, some value => here (.property policy name value)
  | _, _ => here (.fault (.incompleteProperty owner))

/-- The marks of an element that must have a name. -/
def namedMarks (unnamed : StructureFault) (inside : String → Element → List Located)
    (e : Element) : List Located :=
  match nameAttribute? e with
  | none => here (.fault unnamed)
  | some name => among (fun _ => inside name) [] e.content

def destinationChildMarks (policy path : String) (child : Element) : List Located :=
  let tag := localName child.tag
  if tag = "" then []
  else if tag = "property" then propertyMarks policy s!"destPath {path}" child
  else here (.fault (.notProperty child.tag))

def destinationMarks (policy : String) : Element → List Located :=
  namedMarks (.destinationWithoutName policy) (destinationChildMarks policy)

def sourceChildMarks (name : String) (child : Element) : List Located :=
  let tag := localName child.tag
  if tag = "" then []
  else if tag = "property" then propertyMarks name s!"srcPath {name}" child
  else if tag = "destpath" then destinationMarks name child
  else here (.fault (.notPropertyOrDestination name child.tag))

def sourceMarks : Element → List Located := namedMarks .sourceWithoutName sourceChildMarks

def namesUsed (earlier : List Element) : List String :=
  (ofKind "srcpath" earlier).filterMap nameAttribute?

def repetitionMarks (earlier : List Element) (e : Element) : List Located :=
  match nameAttribute? e with
  | none => []
  | some name => if name ∈ namesUsed earlier then here (.fault (.repeatedSource name)) else []

def topMarks (earlier : List Element) (child : Element) : List Located :=
  let tag := localName child.tag
  if tag = "" then []
  else if tag = "srcpath" then sourceMarks child ++ repetitionMarks earlier child
  else here (.fault (.notSource child.tag))

def marks (root : Element) : List Located :=
  if localName root.tag ≠ "configuration" then here (.fault .wrongRoot)
  else among topMarks [] root.content

/-! ## Going through marks -/

def worked : List Located → Build Unit
  | [] => pure ()
  | ⟨_, .property policy name value⟩ :: rest => do
      Noted.note (.property policy name value)
      worked rest
  | ⟨_, .fault cause⟩ :: _ => refuse cause

theorem worked_append (front back : List Located) :
    worked (front ++ back) = worked front >>= fun _ => worked back := by
  induction front with
  | nil => exact (Noted.pure_bind () fun _ => worked back).symm
  | cons m rest ih =>
      obtain ⟨place, _ | cause⟩ := m
      · rw [List.cons_append, worked, worked, Noted.bind_assoc, ih]
      · rfl

@[simp] theorem worked_below (position : Nat) (front back : List Located) :
    worked (front.map (.below position) ++ back) = worked (front ++ back) := by
  induction front with
  | nil => rfl
  | cons m rest ih =>
      obtain ⟨place, _ | cause⟩ := m
      · simp only [List.map_cons, List.cons_append, Located.below, worked, ih]
      · rfl

/-- The work does what going through the marks does, and gives some value. -/
def Follows (work : Build α) (found : List Located) : Prop :=
  (work >>= fun _ => pure ()) = worked found

theorem follows_pure (value : α) : Follows (pure value) [] := Noted.pure_bind value _

theorem follows_refuse (cause : StructureFault) (rest : List Located) :
    Follows (refuse cause : Build α) (here (.fault cause) ++ rest) := rfl

theorem Follows.bind {work : Build α} {next : α → Build β} {front back : List Located}
    (hwork : Follows work front)
    (hnext : ∀ value, work.outcome = .ok value → Follows (next value) back) :
    Follows (work >>= next) (front ++ back) := by
  unfold Follows at hwork ⊢
  rw [worked_append, ← hwork, Noted.bind_assoc, Noted.bind_assoc]
  obtain ⟨notices, fault | value⟩ := work
  · rfl
  · have hvalue := hnext value rfl
    unfold Follows at hvalue
    show Noted.bind _ _ = Noted.bind _ _
    simp only [Noted.bind, hvalue, Noted.pure_bind]

theorem follows_below {work : Build α} {position : Nat} {front back : List Located} :
    Follows work (front.map (.below position) ++ back) ↔ Follows work (front ++ back) := by
  unfold Follows
  rw [worked_below]

/-! ## The reader and the marks -/

theorem follows_addProperty (policy owner : String) (p : Properties) (e : Element) :
    Follows (addProperty policy owner p e) (propertyMarks policy owner e) := by
  unfold addProperty property propertyMarks
  cases lastText? "name" e.children with
  | none => rfl
  | some name =>
      cases lastText? "value" e.children with
      | none => rfl
      | some value => rfl

theorem follows_destinationProperties (policy path : String) (p : Properties)
    (front content : List Node) :
    Follows (destinationProperties policy path p (Element.elementsOf content))
      (among (fun _ => destinationChildMarks policy path) front content) := by
  induction content generalizing p front with
  | nil => exact follows_pure p
  | cons node rest ih =>
      cases node with
      | text s => exact ih p _
      | remark => exact ih p _
      | element tag attributes content =>
          simp only [among, follows_below, Element.elementsOf, destinationProperties,
            destinationChildMarks]
          split_ifs
          · exact ih p _
          · exact (follows_addProperty policy _ p _).bind fun q _ => ih q _
          · exact follows_refuse _ _

theorem follows_destination (policy : String) (e : Element) :
    Follows (destination policy e) (destinationMarks policy e) := by
  unfold destination destinationMarks namedMarks
  cases nameAttribute? e with
  | none => rfl
  | some path =>
      simp only
      rw [← List.append_nil (among _ _ _)]
      exact (follows_destinationProperties policy path .empty [] e.content).bind
        fun _ _ => follows_pure _

theorem follows_policyChildren (name : String) (p : Properties)
    (destinations : List Destination) (front content : List Node) :
    Follows (policyChildren name p destinations (Element.elementsOf content))
      (among (fun _ => sourceChildMarks name) front content) := by
  induction content generalizing p destinations front with
  | nil => exact follows_pure (p, destinations)
  | cons node rest ih =>
      cases node with
      | text s => exact ih p destinations _
      | remark => exact ih p destinations _
      | element tag attributes content =>
          simp only [among, follows_below, Element.elementsOf, policyChildren, sourceChildMarks]
          split_ifs
          · exact ih p destinations _
          · exact (follows_addProperty name _ p _).bind fun q _ => ih q destinations _
          · exact (follows_destination name _).bind fun d _ => ih p (destinations ++ [d]) _
          · exact follows_refuse _ _

theorem follows_policy (e : Element) : Follows (policy e) (sourceMarks e) := by
  unfold policy sourceMarks namedMarks
  cases nameAttribute? e with
  | none => rfl
  | some name =>
      simp only
      rw [← List.append_nil (among _ _ _)]
      exact (follows_policyChildren name .empty [] [] e.content).bind fun _ _ => follows_pure _

theorem nameAttribute?_of_policy {e : Element} {p : Policy} (hread : (policy e).outcome = .ok p) :
    nameAttribute? e = some p.name :=
  nameAttribute?_eq_some.2 (policy_eq_ok_iff.1 hread).named

theorem any_name_iff {before : List Policy} {name : String} :
    before.any (·.name = name) = true ↔ name ∈ before.map (·.name) := by
  simp [List.any_eq_true]

/-- The policies already read have the names that were used. -/
theorem follows_policies {before : List Policy} {front content : List Node}
    (hnames : before.map (·.name) = namesUsed (Element.elementsOf front)) :
    Follows (policies before (Element.elementsOf content)) (among topMarks front content) := by
  induction content generalizing before front with
  | nil => exact follows_pure before
  | cons node rest ih =>
      cases node with
      | text s => exact ih (by simpa [Element.elementsOf] using hnames)
      | remark => exact ih (by simpa [Element.elementsOf] using hnames)
      | element tag attributes content =>
          have hlater : Element.elementsOf (front ++ [.element tag attributes content]) =
              Element.elementsOf front ++ [⟨tag, attributes, content⟩] := by
            rw [Element.elementsOf_append]
            rfl
          simp only [among, follows_below, Element.elementsOf, policies, topMarks]
          split_ifs with hempty hsource
          · apply ih
            rw [hlater, hnames]
            simp [namesUsed, ofKind, hempty]
          · rw [List.append_assoc]
            apply (follows_policy _).bind
            intro p hread
            have hname := nameAttribute?_of_policy hread
            simp only [repetitionMarks, hname, ← hnames, any_name_iff]
            split_ifs
            · exact follows_refuse _ _
            · apply ih
              rw [hlater, List.map_append, hnames]
              simp [namesUsed, ofKind, hsource, hname]
          · exact follows_refuse _ _

/-- The reading of a tree, which comes before any check for validity. -/
def reading (root : Element) : Build (List Policy) :=
  if localName root.tag ≠ "configuration" then refuse .wrongRoot else policies [] root.children

theorem follows_reading (root : Element) : Follows (reading root) (marks root) := by
  unfold reading marks
  split
  next => rfl
  next => exact follows_policies rfl

theorem reading_eq_ok_iff {root : Element} {read : List Policy} :
    (reading root).outcome = .ok read ↔ Describes root read := by
  rw [describes_iff]
  unfold reading
  by_cases hroot : localName root.tag = "configuration"
  · rw [if_neg (not_not_intro hroot), and_iff_right hroot]
  · simp [hroot, refuse]

/-! ## Up to the first fault -/

def Mark.record? : Mark → Option LogRecord
  | .property policy name value =>
      some
        { level := .debug, logger := "hightide.policy.loader"
          message := s!"{policy}.{name} = {value}" }
  | .fault _ => none

def HasNoFault (found : List Located) : Prop :=
  ∀ m ∈ found, ∀ cause, m.mark ≠ .fault cause

variable {found front back : List Located} {place : List Nat} {cause : StructureFault}

theorem worked_of_hasNoFault (hfound : HasNoFault found) :
    (worked found).outcome = .ok () ∧
      (worked found).notices.map LoadNotice.record = found.filterMap (·.mark.record?) := by
  induction found with
  | nil => exact ⟨rfl, rfl⟩
  | cons m rest ih =>
      obtain ⟨hfirst, hrest⟩ := List.forall_mem_cons.1 hfound
      obtain ⟨houtcome, hrecords⟩ := ih hrest
      obtain ⟨place, ⟨policy, name, value⟩ | cause⟩ := m
      · rw [worked, Noted.note_bind]
        refine ⟨houtcome, ?_⟩
        rw [List.map_cons, hrecords]
        rfl
      · exact absurd rfl (hfirst cause)

theorem worked_of_first_fault (hfront : HasNoFault front) (place : List Nat)
    (cause : StructureFault) (back : List Located) :
    let work := worked (front ++ ⟨place, .fault cause⟩ :: back)
    work.outcome = .error (.structural cause) ∧
      work.notices.map LoadNotice.record = front.filterMap (·.mark.record?) := by
  obtain ⟨houtcome, hrecords⟩ := worked_of_hasNoFault hfront
  simp only [worked_append, Noted.outcome_bind, houtcome]
  refine ⟨rfl, ?_⟩
  rw [← hrecords]
  cases hwork : worked front with
  | mk notices outcome =>
      obtain rfl : outcome = .ok () := by rw [← houtcome, hwork]
      show List.map _ (notices ++ []) = _
      rw [List.append_nil]

theorem Follows.notices_eq {work : Build α} (h : Follows work found) :
    work.notices = (worked found).notices := by
  rw [← h]
  exact (Noted.notices_bind_pure work fun _ => ()).symm

theorem Follows.outcome_eq_error_iff {work : Build α} {fault : BuildFault}
    (h : Follows work found) :
    work.outcome = .error fault ↔ (worked found).outcome = .error fault := by
  rw [← h, Noted.outcome_bind_eq_error]
  simp

theorem notices_bind_of_quiet {work : Build α} {next : α → Build β}
    (hquiet : ∀ value, (next value).notices = []) : (work >>= next).notices = work.notices := by
  show (Noted.bind work next).notices = _
  obtain ⟨notices, fault | value⟩ := work
  · rfl
  · show notices ++ (next value).notices = notices
    rw [hquiet, List.append_nil]

/-- The check for validity puts nothing on record. -/
theorem notices_policySet (source : String) (root : Element) :
    (policySet source root).notices = (reading root).notices := by
  have hquiet : ∀ read, (do
      validate read
      pure { PolicySet.empty source with policies := read } : Build PolicySet).notices = [] := by
    intro read
    rw [notices_bind_of_quiet fun _ => rfl]
    unfold validate
    split <;> rfl
  unfold policySet reading
  split
  next => rfl
  next => exact notices_bind_of_quiet hquiet

theorem policySet_of_reading_error {source : String} {root : Element} {fault : BuildFault}
    (hread : (reading root).outcome = .error fault) :
    (policySet source root).outcome = .error fault := by
  unfold reading at hread
  unfold policySet
  split at hread
  next hroot =>
    obtain rfl := Except.error.inj hread
    rw [if_pos hroot]
    rfl
  next hroot =>
    rw [if_neg hroot, Noted.outcome_bind, hread]
    rfl

/-- A tree is read up to its first fault, with which the work ends. -/
theorem policySet_of_first_fault {root : Element}
    (hmarks : marks root = front ++ ⟨place, .fault cause⟩ :: back) (hfront : HasNoFault front)
    (source : String) :
    (policySet source root).outcome = .error (.structural cause) ∧
      (policySet source root).notices.map LoadNotice.record =
        front.filterMap (·.mark.record?) := by
  have hfollows := follows_reading root
  rw [hmarks] at hfollows
  obtain ⟨houtcome, hrecords⟩ := worked_of_first_fault hfront place cause back
  constructor
  · exact policySet_of_reading_error (hfollows.outcome_eq_error_iff.2 houtcome)
  · rw [notices_policySet, hfollows.notices_eq]
    exact hrecords

theorem policySet_of_hasNoFault {root : Element} (hmarks : HasNoFault (marks root))
    (source : String) :
    (∃ read, Describes root read) ∧
      (policySet source root).notices.map LoadNotice.record =
        (marks root).filterMap (·.mark.record?) := by
  have hfollows := follows_reading root
  obtain ⟨houtcome, hrecords⟩ := worked_of_hasNoFault hmarks
  constructor
  · cases hread : (reading root).outcome with
    | ok read => exact ⟨read, reading_eq_ok_iff.1 hread⟩
    | error fault =>
        rw [hfollows.outcome_eq_error_iff, houtcome] at hread
        cases hread
  · rw [notices_policySet, hfollows.notices_eq]
    exact hrecords

end PolicyDocument

end PolicyKeeper
