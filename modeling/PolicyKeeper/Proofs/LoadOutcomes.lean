import PolicyKeeper.PolicyFile
import PolicyKeeper.Proofs.DocumentEncodings
import PolicyKeeper.Proofs.InclusionFaults
import PolicyKeeper.Proofs.ReadPolicies

/-!
# Outcomes of a load

A load gives policies that can be published, or a fault.  Three things in a
file make the fault one that nobody expects: a declared encoding that is
refused, elements nested so deep that the stack is used up before directives are
found, and an overlong numeral in a policy.  Every other file is loaded or refused
in the ordinary way.
-/

namespace PolicyKeeper

namespace PolicyFile

variable {τ : Type} {stack : CallStack} {store : FileStore τ} {includes : Bool} {path : String}

/-- A load of a file that can be read parses its octets. -/
theorem load_of_octets {octets : Octets} (hread : store.read path = .ok octets) :
    load stack store includes path =
      (Noted.note (.reading path) >>= fun _ =>
        parse stack store includes path path (.inr octets)) := by
  have hcontains : store.contains path = true := by
    obtain ⟨entry, hentry, -⟩ := bind_eq_ok.1 hread
    simp [FileStore.contains, hentry]
  simp only [load, parse, hcontains, hread, Bool.not_true, Bool.false_eq_true, if_false,
    mapError_ok, Noted.ofExcept_ok_bind]

/-- The steps of a load, without what is noticed on the way. -/
theorem outcome_load (stack : CallStack) (store : FileStore τ) (includes : Bool) (path : String) :
    (load stack store includes path).outcome =
      if store.contains path then
        (store.read path).mapError (.unreadable path) >>= fun octets =>
          (Markup.readOctets octets).mapError (.markup path) >>= fun root =>
            (ofElement stack store includes path path root).outcome
      else .error (.missing path) := by
  unfold load
  cases hcontains : store.contains path with
  | false => rfl
  | true =>
      simp only [Bool.not_true, Bool.false_eq_true, if_false, if_true, Noted.outcome_bind,
        Noted.outcome_note, Noted.outcome_ofExcept]
      rfl

theorem outcome_ofElement (stack : CallStack) (store : FileStore τ) (includes : Bool)
    (base source : String) (root : Element) :
    (ofElement stack store includes base source root).outcome =
      ((expandIncludes stack store includes base root).outcome >>= fun expanded =>
        ((PolicyDocument.policySet source expanded).outcome).mapError .build) := by
  unfold ofElement
  simp only [Noted.outcome_bind, Noted.outcome_mapFault]

/-! ## Files that load -/

/-- What a file gives is the policy set of its root element, whose includes are
replaced. -/
theorem load_eq_ok_iff {set : PolicySet} :
    (load stack store includes path).outcome = .ok set ↔
      ∃ octets root expanded, store.read path = .ok octets ∧
        Markup.readOctets octets = .ok root ∧
        (expandIncludes stack store includes path root).outcome = .ok expanded ∧
        (PolicyDocument.policySet path expanded).outcome = .ok set := by
  rw [outcome_load]
  cases hcontains : store.contains path with
  | false =>
      have hunread : ∀ octets, store.read path ≠ .ok octets := by
        intro octets hread
        obtain ⟨entry, hentry, -⟩ := bind_eq_ok.1 hread
        simp [FileStore.contains, hentry] at hcontains
      simp [hunread]
  | true =>
      simp only [if_true, bind_eq_ok, mapError_eq_ok, outcome_ofElement]
      constructor
      · rintro ⟨octets, hread, root, hroot, expanded, hexpanded, hset⟩
        exact ⟨octets, root, expanded, hread, hroot, hexpanded, hset⟩
      · rintro ⟨octets, root, expanded, hread, hroot, hexpanded, hset⟩
        exact ⟨octets, hread, root, hroot, expanded, hexpanded, hset⟩

theorem sound_of_load {set : PolicySet}
    (hload : (load stack store includes path).outcome = .ok set) : set.Sound := by
  obtain ⟨_, _, _, -, -, -, hset⟩ := load_eq_ok_iff.1 hload
  exact PolicyDocument.sound_of_policySet hset

/-! ## A sample file -/

def octetsOf (lines : List String) : Octets :=
  lines.flatMap fun line => line.toUTF8.data.toList

def samplePolicy (name : String) : Octets :=
  octetsOf ["<srcPath name='", name, "'>",
    "<property><name>replication</name><value>2</value></property>",
    "<property><name>modTimePeriod</name><value>60</value></property>",
    "<destPath name='d'><property><name>replication</name>",
    "<value>1</value></property></destPath></srcPath>"]

def sampleDocument (name : String) : Octets :=
  octetsOf ["<configuration>"] ++ samplePolicy name ++ octetsOf ["</configuration>"]

def sampleStore : FileStore Binary64 :=
  FileStore.empty.write "p.xml" (.file (sampleDocument "/a") 900)

theorem sampleStore_loads :
    ∃ set, (load .endless sampleStore true "p.xml").outcome = .ok set ∧ set.names = ["/a"] := by
  decide +kernel

/-! ## Files that interrupt -/

/-- A file that makes a load end with a fault nobody expects. -/
inductive Interrupts (stack : CallStack) (store : FileStore τ) (includes : Bool)
    (path : String) : Prop
  | encoding {octets : Octets} {name : String} {fault : MarkupFault}
      (hread : store.read path = .ok octets)
      (hdeclared : Markup.declaredEncoding? octets = some name)
      (hrefuses : Markup.RefusesEncoding name fault)
  | tooDeep {octets : Octets} {root : Element} {place : Inclusion.Place}
      (hread : store.read path = .ok octets) (hroot : Markup.readOctets octets = .ok root)
      (hincludes : includes = true)
      (hreaches : Relation.ReflTransGen (Inclusion.Place.Leads stack store)
        (Inclusion.Place.start path root) place)
      (hdeep : place.IsTooDeep stack)
  | overlong {octets : Octets} {root expanded : Element} {read : List Policy} {p : Policy}
      (hread : store.read path = .ok octets) (hroot : Markup.readOctets octets = .ok root)
      (hexpanded : (expandIncludes stack store includes path root).outcome = .ok expanded)
      (hconfiguration : localName expanded.tag = "configuration")
      (hpolicies : (PolicyDocument.policies [] expanded.children).outcome = .ok read)
      (hmem : p ∈ read) (hoverlong : p.HasOverlongNumeral)

theorem path_ne_of_read {octets : Octets} (hread : store.read path = .ok octets) :
    path ≠ "" := by
  rintro rfl
  simp [FileStore.read_empty] at hread

/-- Replacing the includes of a file meets an unexpected fault only where
elements are nested too deep. -/
theorem expandIncludes_unexpected_iff {root : Element} {fault : LoadFault} (hpath : path ≠ "") :
    ((expandIncludes stack store includes path root).outcome = .error fault ∧
        fault.isExpected = false) ↔
      includes = true ∧ Inclusion.expand stack store path root = .error .nestedTooDeep ∧
        fault = .inclusion .nestedTooDeep := by
  unfold expandIncludes
  cases includes with
  | false => simp
  | true =>
      have hnamed := Inclusion.expand_ne_withoutTarget stack store hpath root
      simp only [if_true, Noted.outcome_ofExcept, mapError_eq_error, true_and]
      constructor
      · rintro ⟨⟨cause, hcause, rfl⟩, hunexpected⟩
        unfold LoadFault.isExpected at hunexpected
        split at hunexpected <;> simp_all
      · rintro ⟨hdeep, rfl⟩
        exact ⟨⟨_, hdeep, rfl⟩, rfl⟩

theorem interrupts_of_load {fault : LoadFault}
    (hfault : (load stack store includes path).outcome = .error fault)
    (hunexpected : fault.isExpected = false) : Interrupts stack store includes path := by
  rw [outcome_load] at hfault
  split at hfault
  next =>
    rcases bind_eq_error.1 hfault with hunread | ⟨octets, hread, hrest⟩
    · obtain ⟨cause, -, rfl⟩ := mapError_eq_error.1 hunread
      simp [LoadFault.isExpected] at hunexpected
    · rw [mapError_eq_ok] at hread
      rcases bind_eq_error.1 hrest with hmarkup | ⟨root, hroot, helement⟩
      · obtain ⟨cause, hcause, rfl⟩ := mapError_eq_error.1 hmarkup
        have hrefused : cause ≠ .malformed := by
          rintro rfl
          simp [LoadFault.isExpected] at hunexpected
        obtain ⟨name, hdeclared, hrefuses⟩ :=
          (Markup.readOctets_refuses_iff hrefused).1 hcause
        exact .encoding hread hdeclared hrefuses
      · rw [mapError_eq_ok] at hroot
        rw [outcome_ofElement] at helement
        rcases bind_eq_error.1 helement with hexpand | ⟨expanded, hexpanded, hbuild⟩
        · obtain ⟨hincludes, hdeep, -⟩ :=
            (expandIncludes_unexpected_iff (path_ne_of_read hread)).1 ⟨hexpand, hunexpected⟩
          obtain ⟨place, hreaches, hplace⟩ := Inclusion.expand_nestedTooDeep_iff.1 hdeep
          exact .tooDeep hread hroot hincludes hreaches hplace
        · obtain ⟨cause, hset, rfl⟩ := mapError_eq_error.1 hbuild
          cases cause with
          | structural cause => simp [LoadFault.isExpected] at hunexpected
          | invalid violations => simp [LoadFault.isExpected] at hunexpected
          | numeral cause =>
              obtain ⟨hconfiguration, read, hpolicies, p, hmem, hoverlong⟩ :=
                PolicyDocument.policySet_numeral_iff.1 ⟨cause, hset⟩
              exact .overlong hread hroot hexpanded hconfiguration hpolicies hmem hoverlong
  next =>
    obtain rfl := Except.error.inj hfault
    simp [LoadFault.isExpected] at hunexpected

theorem load_eq_error_of_read {octets : Octets} {fault : LoadFault}
    (hread : store.read path = .ok octets)
    (hrest : ((Markup.readOctets octets).mapError (.markup path) >>= fun root =>
      (ofElement stack store includes path path root).outcome) = .error fault) :
    (load stack store includes path).outcome = .error fault := by
  have hcontains : store.contains path = true := by
    obtain ⟨entry, hentry, -⟩ := bind_eq_ok.1 hread
    simp [FileStore.contains, hentry]
  rw [outcome_load, hcontains, hread]
  exact hrest

theorem load_of_interrupts (hinterrupts : Interrupts stack store includes path) :
    ∃ fault, (load stack store includes path).outcome = .error fault ∧
      fault.isExpected = false := by
  cases hinterrupts with
  | @encoding octets name fault hread hdeclared hrefuses =>
      have hrefused : fault ≠ .malformed := by
        rintro rfl
        cases hrefuses
      have hmarkup := (Markup.readOctets_refuses_iff hrefused).2 ⟨name, hdeclared, hrefuses⟩
      refine ⟨.markup path fault, load_eq_error_of_read hread ?_, ?_⟩
      · rw [hmarkup]
        rfl
      · cases hrefuses <;> rfl
  | tooDeep hread hroot hincludes hreaches hdeep =>
      have hexpand := Inclusion.expand_nestedTooDeep_iff.2 ⟨_, hreaches, hdeep⟩
      obtain ⟨hfault, hunexpected⟩ :=
        (expandIncludes_unexpected_iff (path_ne_of_read hread)).2 ⟨hincludes, hexpand, rfl⟩
      refine ⟨_, load_eq_error_of_read hread ?_, hunexpected⟩
      rw [hroot, bind_eq_error]
      refine .inr ⟨_, rfl, ?_⟩
      rw [outcome_ofElement, bind_eq_error]
      exact .inl hfault
  | overlong hread hroot hexpanded hconfiguration hpolicies hmem hoverlong =>
      obtain ⟨cause, hset⟩ :=
        PolicyDocument.policySet_numeral_iff.2 ⟨hconfiguration, _, hpolicies, _, hmem, hoverlong⟩
      refine ⟨.build (.numeral cause), load_eq_error_of_read hread ?_, rfl⟩
      rw [hroot, bind_eq_error]
      refine .inr ⟨_, rfl, ?_⟩
      rw [outcome_ofElement, bind_eq_error]
      refine .inr ⟨_, hexpanded, ?_⟩
      rw [hset]
      rfl

/-- The files that interrupt a load are exactly those three kinds. -/
theorem load_interrupted_iff :
    (∃ fault, (load stack store includes path).outcome = .error fault ∧
        fault.isExpected = false) ↔ Interrupts stack store includes path := by
  constructor
  · rintro ⟨fault, hfault, hunexpected⟩
    exact interrupts_of_load hfault hunexpected
  · exact load_of_interrupts

end PolicyFile

end PolicyKeeper
