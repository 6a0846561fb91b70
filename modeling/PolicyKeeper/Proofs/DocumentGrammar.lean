import Mathlib.Data.List.Induction
import PolicyKeeper.Proofs.ReadPolicies
import PolicyKeeper.Proofs.StrictNumerals

/-!
# The grammar of policy documents

A tree of elements describes policies when its elements are of the right kinds,
have their names, and say properties that are complete; the last word counts.
The reader accepts a tree if and only if it describes policies that can all be
used, and gives these policies.  It looks at the policies only when the whole
tree describes some.
-/

namespace PolicyKeeper

namespace PolicyDocument

/-! ## Properties that are said -/

/-- The names come in the order in which they were said first, and each has the
value that was said last. -/
structure Collects (said : List (String × String)) (p : Properties) : Prop where
  names : p.entries.map (·.1) = (said.map (·.1)).eraseDups
  values : ∀ name, p.value? name = (said.reverse.lookup name).map some

def putAll (p : Properties) (said : List (String × String)) : Properties :=
  said.foldl (fun p (name, value) => p.put name (some value)) p

theorem collects_putAll (said : List (String × String)) : Collects said (putAll .empty said) := by
  induction said using List.reverseRecOn with
  | nil => exact ⟨rfl, fun _ => rfl⟩
  | append_singleton said last ih =>
      have hlast : putAll .empty (said ++ [last]) =
          (putAll .empty said).put last.1 (some last.2) := by
        simp [putAll, List.foldl_append]
      rw [hlast]
      constructor
      · show (putEntry last.1 (some last.2) (putAll .empty said).entries).map (·.1) = _
        rw [keys_putEntry, ih.names, List.map_append, List.eraseDups_append]
        by_cases hold : last.1 ∈ said.map (·.1)
        · rw [if_pos (List.mem_eraseDups.2 hold)]
          simp [List.removeAll, hold]
        · rw [if_neg (mt List.mem_eraseDups.1 hold)]
          simp only [List.removeAll, List.map_cons, List.map_nil, List.filter_cons,
            List.elem_eq_mem, hold, decide_false, Bool.not_false, if_true, List.filter_nil]
          rfl
      · intro name
        rw [Properties.value?_put, ih.values, List.reverse_append, List.reverse_singleton,
          List.singleton_append, lookup_cons_eq]
        split <;> rfl

theorem collects_iff {said : List (String × String)} {p : Properties} :
    Collects said p ↔ p = putAll .empty said := by
  constructor
  · intro hcollects
    have hput := collects_putAll said
    have hentries : p.entries = (putAll .empty said).entries := by
      apply entries_eq_of_lookup p.distinct
      · rw [hcollects.names, hput.names]
      · intro name
        exact (hcollects.values name).trans (hput.values name).symm
    cases p
    cases hq : putAll .empty said
    simp_all
  · rintro rfl
    exact collects_putAll said

/-! ## The grammar -/

def ofKind (kind : String) (children : List Element) : List Element :=
  children.filter fun child => localName child.tag = kind

/-- All children that have a local name are of some kinds. -/
def OnlyKinds (kinds : List String) (children : List Element) : Prop :=
  ∀ child ∈ children, localName child.tag ≠ "" → localName child.tag ∈ kinds

/-- The first attribute with the local name `name` has the value, which is not
empty. -/
def IsNamed (e : Element) (name : String) : Prop :=
  name ≠ "" ∧ ∃ front key back, e.attributes = front ++ (key, name) :: back ∧
    localName key = "name" ∧ ∀ other ∈ front, localName other.1 ≠ "name"

/-- The last child of a kind has the text, blanks around it aside. -/
def LastText (kind : String) (children : List Element) (text : String) : Prop :=
  ∃ front child back, children = front ++ child :: back ∧ localName child.tag = kind ∧
    (∀ later ∈ back, localName later.tag ≠ kind) ∧ trimmed child.text = text

structure SaysProperty (e : Element) (said : String × String) : Prop where
  name : LastText "name" e.children said.1
  value : LastText "value" e.children said.2

def DescribesProperties (children : List Element) (p : Properties) : Prop :=
  ∃ said, List.Forall₂ SaysProperty (ofKind "property" children) said ∧ Collects said p

structure DescribesDestination (e : Element) (d : Destination) : Prop where
  named : IsNamed e d.path
  kinds : OnlyKinds ["property"] e.children
  properties : DescribesProperties e.children d.properties

structure DescribesPolicy (e : Element) (p : Policy) : Prop where
  named : IsNamed e p.sourcePath
  kinds : OnlyKinds ["property", "destpath"] e.children
  properties : DescribesProperties e.children p.properties
  destinations : List.Forall₂ DescribesDestination (ofKind "destpath" e.children) p.destinations

/-- The tree describes policies with distinct names, in order. -/
structure Describes (root : Element) (read : List Policy) : Prop where
  configuration : localName root.tag = "configuration"
  kinds : OnlyKinds ["srcpath"] root.children
  policies : List.Forall₂ DescribesPolicy (ofKind "srcpath" root.children) read
  distinct : (read.map (·.name)).Nodup

/-! ## Names and texts -/

theorem nameAttribute?_eq_some {e : Element} {name : String} :
    nameAttribute? e = some name ↔ IsNamed e name := by
  unfold nameAttribute?
  constructor
  · intro hname
    split at hname
    next => simp at hname
    next key value hvalue hfound =>
      obtain rfl := Option.some.inj hname
      obtain ⟨hkey, front, back, hsplit, hfront⟩ := List.find?_eq_some_iff_append.1 hfound
      refine ⟨?_, front, key, back, hsplit, by simpa using hkey, ?_⟩
      · rintro rfl
        exact hvalue rfl
      · intro other hmem
        simpa using hfront other hmem
    next => simp at hname
  · rintro ⟨hne, front, key, back, hsplit, hkey, hfront⟩
    have hfound : e.attributes.find? (fun (name, _) => localName name = "name") =
        some (key, name) := by
      apply List.find?_eq_some_iff_append.2
      refine ⟨by simpa using hkey, front, back, hsplit, ?_⟩
      intro other hmem
      simpa using hfront other hmem
    rw [hfound]
    split
    next heq =>
      obtain ⟨-, hempty⟩ := Prod.mk.inj (Option.some.inj heq)
      exact absurd hempty hne
    next heq =>
      obtain ⟨-, hvalue⟩ := Prod.mk.inj (Option.some.inj heq)
      rw [hvalue]
    next heq => simp at heq

theorem lastText?_eq_some {kind : String} {children : List Element} {text : String} :
    lastText? kind children = some text ↔ LastText kind children text := by
  unfold lastText? LastText
  rw [Option.map_eq_some_iff]
  constructor
  · rintro ⟨child, hfound, htext⟩
    obtain ⟨hkind, back, front, hsplit, hback⟩ := List.find?_eq_some_iff_append.1 hfound
    refine ⟨front.reverse, child, back.reverse, ?_, by simpa using hkind, ?_, htext⟩
    · rw [← List.reverse_reverse children, hsplit]
      simp
    · intro later hmem
      simpa using hback later (List.mem_reverse.1 hmem)
  · rintro ⟨front, child, back, hsplit, hkind, hback, htext⟩
    refine ⟨child, ?_, htext⟩
    apply List.find?_eq_some_iff_append.2
    refine ⟨by simpa using hkind, back.reverse, front.reverse, ?_, ?_⟩
    · rw [hsplit]
      simp
    · intro later hmem
      simpa using hback later (List.mem_reverse.1 hmem)

theorem property_eq_ok_iff {owner : String} {e : Element} {said : String × String} :
    (property owner e).outcome = .ok said ↔ SaysProperty e said := by
  have htexts : SaysProperty e said ↔
      lastText? "name" e.children = some said.1 ∧ lastText? "value" e.children = some said.2 := by
    rw [lastText?_eq_some, lastText?_eq_some]
    exact ⟨fun h => ⟨h.name, h.value⟩, fun h => ⟨h.1, h.2⟩⟩
  rw [htexts]
  unfold property
  split
  next name value hname hvalue =>
    rw [hname, hvalue, Noted.outcome_pure, Except.ok.injEq, Option.some.injEq, Option.some.injEq]
    exact Prod.ext_iff
  next hnot =>
    constructor
    · intro hsaid
      simp [refuse] at hsaid
    · rintro ⟨hname, hvalue⟩
      exact absurd hvalue (hnot _ _ hname)

theorem addProperty_eq_ok_iff {policy owner : String} {p q : Properties} {e : Element} :
    (addProperty policy owner p e).outcome = .ok q ↔
      ∃ said, SaysProperty e said ∧ p.put said.1 (some said.2) = q := by
  unfold addProperty
  rw [Noted.outcome_bind_eq_ok]
  simp only [property_eq_ok_iff, Noted.outcome_bind_eq_ok, Noted.outcome_note,
    Noted.outcome_pure, Except.ok.injEq, exists_const, true_and]

/-! ## Children in order -/

section

variable {kind : String} {kinds : List String} {child : Element} {rest : List Element}

theorem ofKind_cons :
    ofKind kind (child :: rest) =
      if localName child.tag = kind then child :: ofKind kind rest else ofKind kind rest := by
  simp [ofKind, List.filter_cons]

theorem onlyKinds_cons :
    OnlyKinds kinds (child :: rest) ↔
      (localName child.tag ≠ "" → localName child.tag ∈ kinds) ∧ OnlyKinds kinds rest :=
  List.forall_mem_cons

end

/-- What elements say, put to properties one after the other. -/
def Gathers (p : Properties) (elements : List Element) (q : Properties) : Prop :=
  ∃ said, List.Forall₂ SaysProperty elements said ∧ putAll p said = q

theorem gathers_nil {p q : Properties} : Gathers p [] q ↔ p = q := by
  simp [Gathers, putAll]

theorem gathers_cons {p q : Properties} {child : Element} {rest : List Element} :
    Gathers p (child :: rest) q ↔
      ∃ between, (∃ said, SaysProperty child said ∧ p.put said.1 (some said.2) = between) ∧
        Gathers between rest q := by
  constructor
  · rintro ⟨said, hall, hput⟩
    cases hall with
    | @cons _ first _ later hfirst hlater => exact ⟨_, ⟨first, hfirst, rfl⟩, later, hlater, hput⟩
  · rintro ⟨between, ⟨first, hfirst, rfl⟩, later, hlater, hput⟩
    have hall : List.Forall₂ SaysProperty (child :: rest) (first :: later) := .cons hfirst hlater
    exact ⟨first :: later, hall, hput⟩

theorem describesProperties_iff {children : List Element} {p : Properties} :
    DescribesProperties children p ↔ Gathers .empty (ofKind "property" children) p := by
  unfold DescribesProperties Gathers
  simp only [collects_iff, eq_comm]

theorem destinationProperties_eq_ok_iff {policy path : String} {p q : Properties}
    {children : List Element} :
    (destinationProperties policy path p children).outcome = .ok q ↔
      OnlyKinds ["property"] children ∧ Gathers p (ofKind "property" children) q := by
  induction children generalizing p with
  | nil => simp [destinationProperties, OnlyKinds, ofKind, gathers_nil]
  | cons child rest ih =>
      unfold destinationProperties
      simp only [onlyKinds_cons, ofKind_cons]
      by_cases hempty : localName child.tag = ""
      · simp [hempty, ih]
      · by_cases hproperty : localName child.tag = "property"
        · have hkind : localName child.tag ∈ ["property"] := by simp [hproperty]
          rw [if_neg hempty, if_pos hproperty, if_pos hproperty, Noted.outcome_bind_eq_ok,
            gathers_cons]
          simp only [addProperty_eq_ok_iff, ih]
          constructor
          · rintro ⟨between, hsaid, hkinds, hrest⟩
            exact ⟨⟨fun _ => hkind, hkinds⟩, between, hsaid, hrest⟩
          · rintro ⟨⟨-, hkinds⟩, between, hsaid, hrest⟩
            exact ⟨between, hsaid, hkinds, hrest⟩
        · simp [hempty, hproperty, refuse]

theorem destination_eq_ok_iff {policy : String} {e : Element} {d : Destination} :
    (destination policy e).outcome = .ok d ↔ DescribesDestination e d := by
  unfold destination
  constructor
  · intro hread
    split at hread
    next => simp [refuse] at hread
    next path hpath =>
      rw [Noted.outcome_bind_eq_ok] at hread
      obtain ⟨properties, hproperties, hend⟩ := hread
      obtain rfl := Except.ok.inj hend
      obtain ⟨hkinds, hgathers⟩ := destinationProperties_eq_ok_iff.1 hproperties
      constructor
      · exact nameAttribute?_eq_some.1 hpath
      · exact hkinds
      · exact describesProperties_iff.2 hgathers
  · intro h
    have hgathers := describesProperties_iff.1 h.properties
    have hproperties : (destinationProperties policy d.path .empty e.children).outcome =
        .ok d.properties :=
      destinationProperties_eq_ok_iff.2 ⟨h.kinds, hgathers⟩
    rw [nameAttribute?_eq_some.2 h.named]
    exact Noted.outcome_bind_eq_ok.2 ⟨d.properties, hproperties, rfl⟩

theorem policyChildren_eq_ok_iff {name : String} {p q : Properties}
    {before after : List Destination} {children : List Element} :
    (policyChildren name p before children).outcome = .ok (q, after) ↔
      OnlyKinds ["property", "destpath"] children ∧
        Gathers p (ofKind "property" children) q ∧
        ∃ more, List.Forall₂ DescribesDestination (ofKind "destpath" children) more ∧
          before ++ more = after := by
  induction children generalizing p before with
  | nil => simp [policyChildren, OnlyKinds, ofKind, gathers_nil]
  | cons child rest ih =>
      unfold policyChildren
      simp only [onlyKinds_cons, ofKind_cons]
      by_cases hempty : localName child.tag = ""
      · simp [hempty, ih]
      · by_cases hproperty : localName child.tag = "property"
        · have hnot : localName child.tag ≠ "destpath" := by simp [hproperty]
          have hkind : localName child.tag ∈ ["property", "destpath"] := by simp [hproperty]
          rw [if_neg hempty, if_pos hproperty, if_pos hproperty, if_neg hnot,
            Noted.outcome_bind_eq_ok, gathers_cons]
          simp only [addProperty_eq_ok_iff, ih]
          constructor
          · rintro ⟨between, hsaid, hkinds, hrest, hmore⟩
            exact ⟨⟨fun _ => hkind, hkinds⟩, ⟨between, hsaid, hrest⟩, hmore⟩
          · rintro ⟨⟨-, hkinds⟩, ⟨between, hsaid, hrest⟩, hmore⟩
            exact ⟨between, hsaid, hkinds, hrest, hmore⟩
        · by_cases hdestination : localName child.tag = "destpath"
          · have hkind : localName child.tag ∈ ["property", "destpath"] := by simp [hdestination]
            rw [if_neg hempty, if_neg hproperty, if_pos hdestination, if_neg hproperty,
              if_pos hdestination, Noted.outcome_bind_eq_ok]
            simp only [destination_eq_ok_iff, ih]
            constructor
            · rintro ⟨first, hfirst, hkinds, hrest, more, hmore, rfl⟩
              have hall : List.Forall₂ DescribesDestination (child :: ofKind "destpath" rest)
                  (first :: more) := .cons hfirst hmore
              exact ⟨⟨fun _ => hkind, hkinds⟩, hrest, first :: more, hall, by simp⟩
            · rintro ⟨⟨-, hkinds⟩, hrest, _, hall, rfl⟩
              cases hall with
              | @cons _ first _ more hfirst hmore =>
                  exact ⟨first, hfirst, hkinds, hrest, more, hmore, by simp⟩
          · simp [hempty, hproperty, hdestination, refuse]

theorem policy_eq_ok_iff {e : Element} {p : Policy} :
    (policy e).outcome = .ok p ↔ DescribesPolicy e p := by
  unfold policy
  constructor
  · intro hread
    split at hread
    next => simp [refuse] at hread
    next path hpath =>
      rw [Noted.outcome_bind_eq_ok] at hread
      obtain ⟨⟨properties, destinations⟩, hchildren, hend⟩ := hread
      obtain rfl := Except.ok.inj hend
      obtain ⟨hkinds, hgathers, more, hmore, rfl⟩ := policyChildren_eq_ok_iff.1 hchildren
      constructor
      · exact nameAttribute?_eq_some.1 hpath
      · exact hkinds
      · exact describesProperties_iff.2 hgathers
      · exact hmore
  · intro h
    have hgathers := describesProperties_iff.1 h.properties
    have hchildren : (policyChildren p.sourcePath .empty [] e.children).outcome =
        .ok (p.properties, p.destinations) :=
      policyChildren_eq_ok_iff.2 ⟨h.kinds, hgathers, p.destinations, h.destinations, rfl⟩
    rw [nameAttribute?_eq_some.2 h.named]
    exact Noted.outcome_bind_eq_ok.2 ⟨(p.properties, p.destinations), hchildren, rfl⟩

theorem nodup_names_append_one {before : List Policy} {p : Policy}
    (hbefore : (before.map (·.name)).Nodup) :
    ((before ++ [p]).map (·.name)).Nodup ↔ before.any (·.name = p.name) = false := by
  rw [List.map_append, List.nodup_append]
  simp [hbefore]

theorem policies_eq_ok_iff {before read : List Policy} {children : List Element}
    (hbefore : (before.map (·.name)).Nodup) :
    (policies before children).outcome = .ok read ↔
      OnlyKinds ["srcpath"] children ∧
        (∃ more, List.Forall₂ DescribesPolicy (ofKind "srcpath" children) more ∧
          before ++ more = read) ∧
        (read.map (·.name)).Nodup := by
  induction children generalizing before with
  | nil =>
      simp only [policies, OnlyKinds, ofKind, Noted.outcome_pure, Except.ok.injEq,
        List.filter_nil, List.forall₂_nil_left_iff, exists_eq_left, List.append_nil,
        List.not_mem_nil, false_imp_iff, implies_true, true_and]
      constructor
      · rintro rfl
        exact ⟨rfl, hbefore⟩
      · exact And.left
  | cons child rest ih =>
      unfold policies
      simp only [onlyKinds_cons, ofKind_cons]
      by_cases hempty : localName child.tag = ""
      · simp [hempty, ih hbefore]
      · by_cases hsource : localName child.tag = "srcpath"
        · have hkind : localName child.tag ∈ ["srcpath"] := by simp [hsource]
          rw [if_neg hempty, if_pos hsource, if_pos hsource, Noted.outcome_bind_eq_ok]
          simp only [policy_eq_ok_iff]
          constructor
          · rintro ⟨first, hfirst, hread⟩
            split at hread
            next => simp [refuse] at hread
            next hnew =>
              have hbefore' := (nodup_names_append_one (p := first) hbefore).2 (by simpa using hnew)
              obtain ⟨hkinds, ⟨more, hmore, rfl⟩, hdistinct⟩ := (ih hbefore').1 hread
              have hall : List.Forall₂ DescribesPolicy (child :: ofKind "srcpath" rest)
                  (first :: more) := .cons hfirst hmore
              exact ⟨⟨fun _ => hkind, hkinds⟩, ⟨first :: more, hall, by simp⟩, hdistinct⟩
          · rintro ⟨⟨-, hkinds⟩, ⟨_, hall, rfl⟩, hdistinct⟩
            cases hall with
            | @cons _ first _ more hfirst hmore =>
                have hsplit : (before ++ [first]) ++ more = before ++ first :: more := by simp
                have hbefore' : ((before ++ [first]).map (·.name)).Nodup := by
                  rw [← hsplit, List.map_append] at hdistinct
                  exact (List.nodup_append.1 hdistinct).1
                have hnew := (nodup_names_append_one hbefore).1 hbefore'
                refine ⟨first, hfirst, ?_⟩
                rw [hnew, if_neg Bool.false_ne_true]
                exact (ih hbefore').2 ⟨hkinds, ⟨more, hmore, hsplit⟩, hdistinct⟩
        · simp [hempty, hsource, refuse]

theorem describes_iff {root : Element} {read : List Policy} :
    Describes root read ↔
      localName root.tag = "configuration" ∧ (policies [] root.children).outcome = .ok read := by
  have hnone : (([] : List Policy).map (·.name)).Nodup := List.nodup_nil
  rw [policies_eq_ok_iff hnone]
  constructor
  · intro h
    exact ⟨h.configuration, h.kinds, ⟨read, h.policies, rfl⟩, h.distinct⟩
  · rintro ⟨hroot, hkinds, ⟨_, hpolicies, rfl⟩, hdistinct⟩
    exact ⟨hroot, hkinds, hpolicies, hdistinct⟩

end PolicyDocument

/-! ## Policies that can be used -/

/-- The property is a numeral of no more digits than are read, and its integer
lies in the range. -/
def Properties.HasNumeral (p : Properties) (property : String) (least greatest : Int) : Prop :=
  ∃ text digits number, p.text? property = some text ∧ SpellsInteger text digits number ∧
    digits.length ≤ digitLimit ∧ least ≤ number ∧ number ≤ greatest

structure Policy.IsUsable (p : Policy) : Prop where
  replication : p.properties.HasNumeral replicationKey 1 greatestReplication
  period : p.properties.HasNumeral modTimePeriodKey leastPeriod greatestPeriod
  destinations_ne : p.destinations ≠ []
  destinations : ∀ d ∈ p.destinations, d.properties.HasNumeral replicationKey 1 greatestReplication

theorem Properties.hasNumeral_iff {p : Properties} {property : String} {least greatest : Int} :
    p.HasNumeral property least greatest ↔ ∃ number, p.Spells property least greatest number := by
  constructor
  · rintro ⟨text, digits, number, htext, hspells, hlength, hrange⟩
    have hread := readStrictInteger_eq_some_iff.2 ⟨digits, hspells, hlength, hrange⟩
    exact ⟨number, spells_of_readStrictInteger htext hread⟩
  · rintro ⟨number, hspells⟩
    obtain ⟨text, htext, hread⟩ := hspells.strict
    obtain ⟨digits, hdigits, hlength, hrange⟩ := readStrictInteger_eq_some_iff.1 hread
    exact ⟨text, digits, number, htext, hdigits, hlength, hrange⟩

namespace PolicyDocument

theorem exists_of_forall₂_right {R : α → β → Prop} {front : List α} {back : List β}
    (hall : List.Forall₂ R front back) {b : β} (hmem : b ∈ back) : ∃ a, R a b := by
  induction hall with
  | nil => simp at hmem
  | cons hfirst _ ih =>
      rcases List.mem_cons.1 hmem with rfl | hrest
      · exact ⟨_, hfirst⟩
      · exact ih hrest

/-- The names of what is described are there, so that only the rest decides. -/
theorem valid_iff_isUsable {e : Element} {p : Policy} (h : DescribesPolicy e p) :
    p.Valid ↔ p.IsUsable := by
  constructor
  · intro hvalid
    constructor
    · exact Properties.hasNumeral_iff.2 hvalid.replication
    · exact Properties.hasNumeral_iff.2 hvalid.period
    · exact hvalid.destinations_ne
    · intro d hmem
      exact Properties.hasNumeral_iff.2 (hvalid.destinations d hmem).replication
  · intro husable
    constructor
    · exact h.named.1
    · exact Properties.hasNumeral_iff.1 husable.replication
    · exact Properties.hasNumeral_iff.1 husable.period
    · exact husable.destinations_ne
    · intro d hmem
      obtain ⟨_, hdescribes⟩ := exists_of_forall₂_right h.destinations hmem
      exact ⟨hdescribes.named.1, Properties.hasNumeral_iff.1 (husable.destinations d hmem)⟩

theorem all_valid_iff {root : Element} {read : List Policy} (h : Describes root read) :
    (∀ p ∈ read, p.Valid) ↔ ∀ p ∈ read, p.IsUsable := by
  refine forall₂_congr fun p hmem => ?_
  obtain ⟨_, hdescribes⟩ := exists_of_forall₂_right h.policies hmem
  exact valid_iff_isUsable hdescribes

/-! ## What is accepted, and what is refused for what -/

variable {source : String} {root : Element} {read : List Policy}

/-- A tree that describes policies is as good as they are. -/
theorem policySet_of_describes (h : Describes root read) :
    (policySet source root).outcome =
      (validate read).outcome >>= fun _ =>
        .ok { PolicySet.empty source with policies := read } := by
  obtain ⟨hroot, hread⟩ := describes_iff.1 h
  unfold policySet
  rw [if_neg (not_not_intro hroot), Noted.outcome_bind, hread, ok_bind, Noted.outcome_bind]
  rfl

theorem policySet_of_not_describes (source : String) (h : ¬ ∃ read, Describes root read) :
    ∃ cause, (policySet source root).outcome = .error (.structural cause) := by
  unfold policySet
  by_cases hroot : localName root.tag = "configuration"
  · rw [if_neg (not_not_intro hroot), Noted.outcome_bind]
    cases hread : (policies [] root.children).outcome with
    | ok read => exact absurd ⟨read, describes_iff.2 ⟨hroot, hread⟩⟩ h
    | error fault =>
        obtain ⟨cause, rfl⟩ := failsByStructure_policies _ _ fault hread
        exact ⟨cause, rfl⟩
  · rw [if_pos hroot]
    exact ⟨.wrongRoot, rfl⟩

theorem validate_invalid_iff :
    (∃ violations, (validate read).outcome = .error (.invalid violations)) ↔
      (∀ p ∈ read, ¬ p.HasOverlongNumeral) ∧ ¬ ∀ p ∈ read, p.Valid := by
  have hoverlong : (∀ p ∈ read, ¬ p.HasOverlongNumeral) ↔
      ¬ ∃ fault, violationsOf read = .error fault := by
    rw [violationsOf_fails_iff]
    push Not
    rfl
  rw [hoverlong, ← violationsOf_eq_nil_iff]
  unfold validate
  cases hfound : violationsOf read with
  | error fault => simp
  | ok violations =>
      cases violations with
      | nil => simp
      | cons first more => simp

theorem policySet_accepts_iff {set : PolicySet} :
    (policySet source root).outcome = .ok set ↔
      Describes root set.policies ∧ (∀ p ∈ set.policies, p.IsUsable) ∧
        set = { PolicySet.empty source with policies := set.policies } := by
  rw [policySet_eq_ok_iff, describes_iff]
  constructor
  · rintro ⟨hroot, hread, hvalid, hset⟩
    have husable := (all_valid_iff (describes_iff.2 ⟨hroot, hread⟩)).1 hvalid
    exact ⟨⟨hroot, hread⟩, husable, hset⟩
  · rintro ⟨⟨hroot, hread⟩, husable, hset⟩
    have hvalid := (all_valid_iff (describes_iff.2 ⟨hroot, hread⟩)).2 husable
    exact ⟨hroot, hread, hvalid, hset⟩

theorem policySet_structural_iff :
    (∃ cause, (policySet source root).outcome = .error (.structural cause)) ↔
      ¬ ∃ read, Describes root read := by
  constructor
  · rintro ⟨cause, hcause⟩ ⟨read, hdescribes⟩
    rw [policySet_of_describes hdescribes] at hcause
    unfold validate at hcause
    split at hcause <;> simp at hcause
  · exact policySet_of_not_describes source

theorem policySet_invalid_iff :
    (∃ violations, (policySet source root).outcome = .error (.invalid violations)) ↔
      ∃ read, Describes root read ∧ (∀ p ∈ read, ¬ p.HasOverlongNumeral) ∧
        ¬ ∀ p ∈ read, p.IsUsable := by
  constructor
  · rintro ⟨violations, hinvalid⟩
    by_cases hdescribes : ∃ read, Describes root read
    · obtain ⟨read, hread⟩ := hdescribes
      rw [policySet_of_describes hread, bind_eq_error] at hinvalid
      have hvalidate : (validate read).outcome = .error (.invalid violations) := by
        rcases hinvalid with hvalidate | ⟨_, -, hend⟩
        · exact hvalidate
        · simp at hend
      obtain ⟨hshort, hnot⟩ := validate_invalid_iff.1 ⟨violations, hvalidate⟩
      exact ⟨read, hread, hshort, mt (all_valid_iff hread).2 hnot⟩
    · obtain ⟨cause, hcause⟩ := policySet_of_not_describes source hdescribes
      simp [hinvalid] at hcause
  · rintro ⟨read, hread, hshort, hnot⟩
    obtain ⟨violations, hvalidate⟩ :=
      validate_invalid_iff.2 ⟨hshort, mt (all_valid_iff hread).1 hnot⟩
    exact ⟨violations, by rw [policySet_of_describes hread, hvalidate, error_bind]⟩

/-- A document is accepted if and only if it describes policies that can all be
used, and the set holds these in order.  It is refused for its structure when it
describes none, for violations when it describes some of which one cannot be
used, and otherwise only for an overlong numeral. -/
theorem policySet_described (source : String) (root : Element) :
    (∀ set, (policySet source root).outcome = .ok set ↔
      Describes root set.policies ∧ (∀ p ∈ set.policies, p.IsUsable) ∧
        set = { PolicySet.empty source with policies := set.policies }) ∧
    ((∃ cause, (policySet source root).outcome = .error (.structural cause)) ↔
      ¬ ∃ read, Describes root read) ∧
    ((∃ violations, (policySet source root).outcome = .error (.invalid violations)) ↔
      ∃ read, Describes root read ∧ (∀ p ∈ read, ¬ p.HasOverlongNumeral) ∧
        ¬ ∀ p ∈ read, p.IsUsable) ∧
    ((∃ cause, (policySet source root).outcome = .error (.numeral cause)) ↔
      ∃ read, Describes root read ∧ ∃ p ∈ read, p.HasOverlongNumeral) := by
  refine ⟨fun set => policySet_accepts_iff, policySet_structural_iff, policySet_invalid_iff, ?_⟩
  rw [policySet_numeral_iff]
  simp only [describes_iff]
  constructor
  · rintro ⟨hroot, read, hread, hoverlong⟩
    exact ⟨read, ⟨hroot, hread⟩, hoverlong⟩
  · rintro ⟨read, ⟨hroot, hread⟩, hoverlong⟩
    exact ⟨hroot, read, hread, hoverlong⟩

/-- Tags count in any case and namespace, and the last value of a name counts. -/
example :
    let text (tag s : String) := Node.element tag [] [.text s]
    let said (name value : String) := Node.element "\x7bns\x7dPROPERTY" []
      [text "NAME" name, .remark, text "value" "0", text "Value" value]
    let root : Element :=
      ⟨"\x7bns\x7dConfiguration", [], [.text " ",
        .element "srcPATH" [("other", ""), ("\x7bns\x7dName", "/a"), ("name", "/b")]
          [said "replication" " 2 ", said "replication" "+3", said "modTimePeriod" "-60",
            .element "\x7bns\x7d" [] [], .element "DestPath" [("name", "d")]
              [said " replication" "1"]]]⟩
    ∃ set, (policySet "p.xml" root).outcome = .ok set ∧ set.names = ["/a"] ∧
      set.policies.map (·.properties.text? "replication") = [some "+3"] := by
  decide +kernel

end PolicyDocument

end PolicyKeeper
