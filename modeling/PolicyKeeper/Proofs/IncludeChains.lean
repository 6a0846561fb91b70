import Mathlib.Data.List.Chain
import PolicyKeeper.Proofs.FileChanges
import PolicyKeeper.Proofs.InclusionFaults
import PolicyKeeper.Proofs.SiblingNames

/-!
# Chains of includes

In documents whose directives name files plainly, what an expansion can go
through is known beforehand: the chains of files that include one another.  A
document can be expanded exactly when each chain from it is short and every
file in it exists; a cycle gives chains of any length.
-/

namespace PolicyKeeper

variable {τ : Type} {store : FileStore τ} {stack : CallStack}

namespace FileStore

/-- What is read is the content of a file in the store. -/
theorem mem_entries_of_read {path : String} {octets : Octets}
    (hread : store.read path = .ok octets) :
    ∃ location time, (location, Entry.file octets time) ∈ store.entries := by
  obtain ⟨found, hentry, hfile⟩ := bind_eq_ok.1 hread
  cases found with
  | directory _ => simp at hfile
  | file content time =>
      obtain rfl := Except.ok.inj hfile
      have hplace : store.atLocation? (store.locationOf path) = some (.file content time) :=
        atLocation?_of_entry hentry rfl
      unfold atLocation? at hplace
      split at hplace
      next => simp at hplace
      next =>
        obtain ⟨front, back, hentries, -⟩ := List.lookup_eq_some_iff.1 hplace
        exact ⟨store.locationOf path, time, by simp [hentries]⟩

end FileStore

namespace Inclusion

/-! ## Plain documents -/

mutual

/-- The elements of a node that a walk comes to, which does not go into a
directive. -/
def metOf : Node → List Element
  | .text _ => []
  | .remark => []
  | .element tag attributes content =>
      ⟨tag, attributes, content⟩ :: if tag = includeTag then [] else metAmong content

def metAmong : List Node → List Element
  | [] => []
  | node :: rest => metOf node ++ metAmong rest

end

/-- A directive stands for the root element of a file with a plain name. -/
def IsPlainElement (e : Element) : Prop :=
  e.tag ≠ fallbackTag ∧
    (e.tag = includeTag → (e.attribute? "parse").getD "xml" = "xml" ∧
      ∃ name ∈ e.attribute? "href", IsFileName name)

def HasPlainDirectives (nodes : List Node) : Prop := ∀ e ∈ metAmong nodes, IsPlainElement e

/-- All files with plain names are well formed, with plain directives. -/
def HoldsPlainDocuments (store : FileStore τ) : Prop :=
  ∀ name octets, IsFileName name → store.read name = .ok octets →
    ∃ root, Markup.readOctets octets = .ok root ∧ HasPlainDirectives root.content

instance (e : Element) : Decidable (IsPlainElement e) :=
  inferInstanceAs (Decidable (_ ∧ (_ → _ ∧ _)))

instance (nodes : List Node) : Decidable (HasPlainDirectives nodes) :=
  inferInstanceAs (Decidable (∀ e ∈ metAmong nodes, IsPlainElement e))

/-- The entry is a directory, or a file that holds a plain document. -/
def HoldsPlain : Entry τ → Prop
  | .file octets _ =>
      ∃ root, Markup.readOctets octets = .ok root ∧ HasPlainDirectives root.content
  | .directory _ => True

instance : (found : Entry τ) → Decidable (HoldsPlain found)
  | .file octets _ =>
      inferInstanceAs (Decidable (∃ root, Markup.readOctets octets = .ok root ∧
        HasPlainDirectives root.content))
  | .directory _ => inferInstanceAs (Decidable True)

theorem holdsPlainDocuments_of_entries (h : ∀ found ∈ store.entries, HoldsPlain found.2) :
    HoldsPlainDocuments store := by
  intro name octets _ hread
  obtain ⟨location, time, hmem⟩ := FileStore.mem_entries_of_read hread
  exact h _ hmem

theorem HasPlainDirectives.head {node : Node} {rest : List Node}
    (h : HasPlainDirectives (node :: rest)) : ∀ e ∈ metOf node, IsPlainElement e := by
  intro e hmem
  apply h
  simp [metAmong, hmem]

theorem HasPlainDirectives.tail {node : Node} {rest : List Node}
    (h : HasPlainDirectives (node :: rest)) : HasPlainDirectives rest := by
  intro e hmem
  apply h
  simp [metAmong, hmem]

theorem loadElement_of_read {name : String} {octets : Octets} {root : Element}
    (hread : store.read name = .ok octets) (hroot : Markup.readOctets octets = .ok root) :
    loadElement store name = .ok root := by
  simp [loadElement, hread, hroot]

theorem read_of_loadElement {name : String} {root : Element}
    (hload : loadElement store name = .ok root) :
    ∃ octets, store.read name = .ok octets ∧ Markup.readOctets octets = .ok root := by
  obtain ⟨octets, hread, hroot⟩ := bind_eq_ok.1 hload
  exact ⟨octets, mapError_eq_ok.1 hread, mapError_eq_ok.1 hroot⟩

theorem HoldsPlainDocuments.loads (hstore : HoldsPlainDocuments store) {name : String}
    (hname : IsFileName name) (hexists : ∃ octets, store.read name = .ok octets) :
    ∃ root, loadElement store name = .ok root := by
  obtain ⟨octets, hread⟩ := hexists
  obtain ⟨root, hroot, -⟩ := hstore name octets hname hread
  exact ⟨root, loadElement_of_read hread hroot⟩

theorem HoldsPlainDocuments.plain (hstore : HoldsPlainDocuments store) {name : String}
    {root : Element} (hname : IsFileName name) (hload : loadElement store name = .ok root) :
    HasPlainDirectives root.content := by
  obtain ⟨octets, hread, hroot⟩ := read_of_loadElement hload
  obtain ⟨found, hfound, hplain⟩ := hstore name octets hname hread
  obtain rfl := Except.ok.inj (hroot.symm.trans hfound)
  exact hplain

/-! ## Chains -/

/-- The document in a file has a directive that names the other one. -/
def Includes (store : FileStore τ) (file target : String) : Prop :=
  ∃ root directive, loadElement store file = .ok root ∧ directive ∈ metAmong root.content ∧
    directive.tag = includeTag ∧ directive.attribute? "href" = some target

/-- Every chain of includes from a file holds at most so many files more, all of
which exist. -/
def HasChainsWithin (store : FileStore τ) (length : Nat) (file : String) : Prop :=
  ∀ targets, List.IsChain (Includes store) (file :: targets) →
    targets.length ≤ length ∧ ∀ target ∈ targets, ∃ octets, store.read target = .ok octets

theorem HasChainsWithin.step {length : Nat} {file target : String}
    (h : HasChainsWithin store length file) (hincludes : Includes store file target) :
    ∃ fewer, length = fewer + 1 ∧ (∃ octets, store.read target = .ok octets) ∧
      HasChainsWithin store fewer target := by
  obtain ⟨hlength, hexists⟩ := h [target] (.cons_cons hincludes (.singleton _))
  obtain ⟨fewer, rfl⟩ : ∃ fewer, length = fewer + 1 := ⟨length - 1, by simp at hlength; omega⟩
  refine ⟨fewer, rfl, hexists target (List.mem_singleton.2 rfl), ?_⟩
  intro targets hchain
  obtain ⟨hlonger, hmore⟩ := h (target :: targets) (.cons_cons hincludes hchain)
  refine ⟨by simpa using hlonger, ?_⟩
  intro further hmem
  exact hmore further (List.mem_cons_of_mem _ hmem)

theorem HasChainsWithin.of_steps {length : Nat} {file : String}
    (h : ∀ target, Includes store file target →
      ∃ fewer, length = fewer + 1 ∧ (∃ octets, store.read target = .ok octets) ∧
        HasChainsWithin store fewer target) :
    HasChainsWithin store length file := by
  intro targets hchain
  cases targets with
  | nil => simp
  | cons target rest =>
      rw [List.isChain_cons_cons] at hchain
      obtain ⟨fewer, rfl, hexists, hrest⟩ := h target hchain.1
      obtain ⟨hlength, hmore⟩ := hrest rest hchain.2
      refine ⟨by simpa using hlength, ?_⟩
      intro further hmem
      rcases List.mem_cons.1 hmem with rfl | hmem
      · exact hexists
      · exact hmore further hmem

theorem HasChainsWithin.of_reaches {length : Nat} {file target : String}
    (h : HasChainsWithin store length file)
    (hreaches : Relation.TransGen (Includes store) file target) :
    ∃ fewer < length, HasChainsWithin store fewer target := by
  induction hreaches with
  | single hincludes =>
      obtain ⟨fewer, rfl, -, hfewer⟩ := h.step hincludes
      exact ⟨fewer, Nat.lt_succ_self fewer, hfewer⟩
  | tail _ hincludes ih =>
      obtain ⟨middle, hmiddle, hchains⟩ := ih
      obtain ⟨fewer, rfl, -, hfewer⟩ := hchains.step hincludes
      exact ⟨fewer, by omega, hfewer⟩

/-- Where chains are bounded, no file includes itself on any way. -/
theorem HasChainsWithin.acyclic {length : Nat} {file : String}
    (h : HasChainsWithin store length file) : ¬ Relation.TransGen (Includes store) file file := by
  induction length using Nat.strong_induction_on with
  | _ length ih =>
      intro hcycle
      obtain ⟨fewer, hfewer, hchains⟩ := h.of_reaches hcycle
      exact ih fewer hfewer hchains hcycle

theorem HasChainsWithin.acyclic_of_reaches {length : Nat} {file name : String}
    (h : HasChainsWithin store length file)
    (hreaches : Relation.ReflTransGen (Includes store) file name) :
    ¬ Relation.TransGen (Includes store) name name := by
  rcases Relation.reflTransGen_iff_eq_or_transGen.1 hreaches with rfl | hreaches
  · exact h.acyclic
  · obtain ⟨_, -, hchains⟩ := h.of_reaches hreaches
    exact hchains.acyclic

/-! ## Documents that expand -/

section Expanded

variable {replace : Surroundings → Element → Except InclusionFault Node}

mutual

/-- Every directive of nodes that were expanded was replaced where it stands. -/
theorem replaced_of_expandNode : ∀ {here : Surroundings} {node node' : Node},
    expandNode stack replace here node = .ok node' →
      ∀ directive ∈ metOf node, directive.tag = includeTag →
        ∃ nesting replaced, replace { here with nesting } directive = .ok replaced
  | _, .text s, _, _, _, hmem, _ => by simp [metOf] at hmem
  | _, .remark, _, _, _, hmem, _ => by simp [metOf] at hmem
  | here, .element tag attributes content, node', hnode, directive, hmem, htag => by
      unfold expandNode at hnode
      rw [metOf, List.mem_cons] at hmem
      split at hnode
      next => simp at hnode
      next =>
        split at hnode
        next hinclude =>
          rw [if_pos hinclude] at hmem
          rcases hmem with rfl | hmem
          · exact ⟨here.nesting, node', hnode⟩
          · simp at hmem
        next hinclude =>
          rw [if_neg hinclude] at hmem
          have hinside : directive ∈ metAmong content := by
            rcases hmem with rfl | hmem
            · exact absurd htag hinclude
            · exact hmem
          split at hnode
          next => simp at hnode
          next =>
            obtain ⟨content', hcontent, -⟩ := bind_eq_ok.1 hnode
            exact replaced_of_expandNodes hcontent directive hinside htag

theorem replaced_of_expandNodes : ∀ {here : Surroundings} {nodes nodes' : List Node},
    expandNodes stack replace here nodes = .ok nodes' →
      ∀ directive ∈ metAmong nodes, directive.tag = includeTag →
        ∃ nesting replaced, replace { here with nesting } directive = .ok replaced
  | _, [], _, _, _, hmem, _ => by simp [metAmong] at hmem
  | here, node :: rest, nodes', hnodes, directive, hmem, htag => by
      unfold expandNodes at hnodes
      obtain ⟨node', hnode, hmore⟩ := bind_eq_ok.1 hnodes
      obtain ⟨rest', hrest, -⟩ := bind_eq_ok.1 hmore
      rw [metAmong, List.mem_append] at hmem
      rcases hmem with hmem | hmem
      · exact replaced_of_expandNode hnode directive hmem htag
      · exact replaced_of_expandNodes hrest directive hmem htag

end

end Expanded

theorem target_of_isFileName {here : Surroundings} {name : String} (hbase : IsFileName here.base)
    (hname : IsFileName name) : target here (some name) = .ok name := by
  unfold target
  rw [if_neg hbase.ne_empty, Option.getD_some, Url.join_of_isFileName hbase hname]
  rfl

/-- A plain directive below a file stands for the root of the file that it names,
unless that file is around it. -/
theorem replacement_of_plain {loadRoot : Surroundings → String → Except InclusionFault Element}
    {here : Surroundings} {directive : Element} {name : String} (hbase : IsFileName here.base)
    (hname : IsFileName name) (hkind : (directive.attribute? "parse").getD "xml" = "xml")
    (hhref : directive.attribute? "href" = some name) :
    replacement store loadRoot here directive =
      if here.targets.contains name then .error (.circular name)
      else loadRoot here name >>= fun root => .ok root.toNode := by
  unfold replacement
  simp only [hkind, hhref, target_of_isFileName hbase hname, if_true, ok_bind]

/-- The name of a plain directive. -/
theorem IsPlainElement.name {directive : Element} (h : IsPlainElement directive)
    (htag : directive.tag = includeTag) :
    (directive.attribute? "parse").getD "xml" = "xml" ∧
      ∃ name, IsFileName name ∧ directive.attribute? "href" = some name := by
  obtain ⟨hkind, name, hhref, hname⟩ := h.2 htag
  exact ⟨hkind, name, hname, hhref⟩

/-- What a document that was expanded includes was expanded before. -/
theorem includedRoot_of_includes (hstore : HoldsPlainDocuments store) {length : Nat}
    {here : Surroundings} {root expanded : Element} {target : String}
    (hbase : IsFileName here.base) (hload : loadElement store here.base = .ok root)
    (hexpanded : expandWithin stack store length here root = .ok expanded)
    (hincludes : Includes store here.base target) :
    IsFileName target ∧ ∃ nesting root',
      includedRoot stack store length { here with nesting } target = .ok root' := by
  obtain ⟨root', directive, hload', hmem, htag, hhref⟩ := hincludes
  obtain rfl := Except.ok.inj (hload.symm.trans hload')
  obtain ⟨hkind, name, hname, hhref'⟩ :=
    (hstore.plain hbase hload directive hmem).name htag
  obtain rfl := Option.some.inj (hhref'.symm.trans hhref)
  rw [expandWithin_eq] at hexpanded
  obtain ⟨content, hcontent, -⟩ := bind_eq_ok.1 hexpanded
  obtain ⟨nesting, replaced, hreplaced⟩ := replaced_of_expandNodes hcontent directive hmem htag
  have hbase' : IsFileName { here with nesting }.base := hbase
  rw [replacement_of_plain hbase' hname hkind hhref] at hreplaced
  split at hreplaced
  next => simp at hreplaced
  next =>
    obtain ⟨root', hroot', -⟩ := bind_eq_ok.1 hreplaced
    exact ⟨hname, nesting, root', hroot'⟩

theorem hasChainsWithin_of_expandWithin (hstore : HoldsPlainDocuments store) {length : Nat}
    {here : Surroundings} {root expanded : Element} (hbase : IsFileName here.base)
    (hload : loadElement store here.base = .ok root)
    (hexpanded : expandWithin stack store length here root = .ok expanded) :
    HasChainsWithin store length here.base := by
  induction length generalizing here root expanded with
  | zero =>
      apply HasChainsWithin.of_steps
      intro target hincludes
      obtain ⟨-, nesting, root', hroot'⟩ :=
        includedRoot_of_includes hstore hbase hload hexpanded hincludes
      simp [includedRoot, enter] at hroot'
  | succ fewer ih =>
      apply HasChainsWithin.of_steps
      intro target hincludes
      obtain ⟨htarget, nesting, root', hroot'⟩ :=
        includedRoot_of_includes hstore hbase hload hexpanded hincludes
      obtain ⟨found, hfile, hfound⟩ := bind_eq_ok.1 hroot'
      obtain ⟨octets, hread, -⟩ := read_of_loadElement hfile
      have hinside : IsFileName (Surroundings.within { here with nesting } target).base := htarget
      exact ⟨fewer, rfl, ⟨octets, hread⟩, ih hinside hfile hfound⟩

/-! ## Places on the way -/

/-- A place stands in a file whose chains are short enough, and which the files
around it include. -/
structure Place.Stands (store : FileStore τ) (place : Place) : Prop where
  base : IsFileName place.here.base
  plain : HasPlainDirectives place.nodes
  origin : ∃ root, loadElement store place.here.base = .ok root ∧
    ∀ e ∈ metAmong place.nodes, e ∈ metAmong root.content
  chains : HasChainsWithin store place.chain place.here.base
  targets : ∀ target ∈ place.here.targets,
    Relation.ReflTransGen (Includes store) target place.here.base

namespace Place

variable {place place' : Place}

theorem stands_start (hstore : HoldsPlainDocuments store) {file : String} {root : Element}
    (hfile : IsFileName file) (hload : loadElement store file = .ok root)
    (hchains : HasChainsWithin store longestChain file) : (start file root).Stands store := by
  have horigin : ∃ found, loadElement store file = .ok found ∧
      ∀ e ∈ metAmong root.content, e ∈ metAmong found.content :=
    ⟨root, hload, fun _ hmem => hmem⟩
  exact ⟨hfile, hstore.plain hfile hload, horigin, hchains, by simp [start]⟩

/-- The next directive of a place names a file that exists and is not around the
place, and a chain may go on there. -/
theorem Stands.directive {chain : Nat} {here : Surroundings}
    {attributes : List (String × String)} {content rest : List Node}
    (h : (⟨chain, here, .element includeTag attributes content :: rest⟩ : Place).Stands store) :
    ∃ name fewer, IsFileName name ∧ chain = fewer + 1 ∧
      Includes store here.base name ∧ (∃ octets, store.read name = .ok octets) ∧
      HasChainsWithin store fewer name ∧ name ∉ here.targets ∧
      Element.attribute? ⟨includeTag, attributes, content⟩ "href" = some name ∧
      (Element.attribute? ⟨includeTag, attributes, content⟩ "parse").getD "xml" = "xml" := by
  have hmem : (⟨includeTag, attributes, content⟩ : Element) ∈
      metAmong (.element includeTag attributes content :: rest) := by
    simp [metAmong, metOf]
  obtain ⟨hkind, name, hname, hhref⟩ := (h.plain _ hmem).name rfl
  obtain ⟨root, hload, horigin⟩ := h.origin
  have hincludes : Includes store here.base name :=
    ⟨root, _, hload, horigin _ hmem, rfl, hhref⟩
  obtain ⟨fewer, hchain, hexists, hchains⟩ := h.chains.step hincludes
  refine ⟨name, fewer, hname, hchain, hincludes, hexists, hchains, ?_, hhref, hkind⟩
  intro haround
  exact h.chains.acyclic (.head' hincludes (h.targets name haround))

theorem Stands.of_leads (hstore : HoldsPlainDocuments store) (h : place.Stands store)
    (hleads : place.Leads stack store place') : place'.Stands store := by
  cases hleads with
  | past _ =>
      obtain ⟨root, hload, horigin⟩ := h.origin
      refine ⟨h.base, h.plain.tail, ⟨root, hload, ?_⟩, h.chains, h.targets⟩
      intro e hmem
      exact horigin e (by simp [metAmong, hmem])
  | @into chain here tag attributes content rest _ hplain =>
      have hinside :
          ∀ e ∈ metAmong content, e ∈ metAmong (.element tag attributes content :: rest) := by
        intro e hmem
        simp [metAmong, metOf, hplain.1, hmem]
      obtain ⟨root, hload, horigin⟩ := h.origin
      refine ⟨h.base, ?_, ⟨root, hload, ?_⟩, h.chains, h.targets⟩
      · intro e hmem
        exact h.plain e (hinside e hmem)
      · intro e hmem
        exact horigin e (hinside e hmem)
  | @included fewer here attributes content rest path root _ hnames hload =>
      obtain ⟨name, shorter, hname, hchain, hincludes, -, hchains, -, hhref, -⟩ := h.directive
      obtain rfl := Nat.succ.inj hchain
      have hpath : path = name := by
        apply hnames.path_eq
        rw [hhref]
        exact target_of_isFileName h.base hname
      subst hpath
      have horigin : ∃ found, loadElement store path = .ok found ∧
          ∀ e ∈ metAmong root.content, e ∈ metAmong found.content :=
        ⟨root, hload, fun _ hmem => hmem⟩
      refine ⟨hname, hstore.plain hname hload, horigin, hchains, ?_⟩
      intro target hmem
      rcases List.mem_cons.1 hmem with rfl | haround
      · exact .refl
      · exact (h.targets target haround).tail hincludes

/-- Such a place refuses its next node only if the stack is used up there. -/
theorem Stands.eq_of_refuses (h : place.Stands store) (hstore : HoldsPlainDocuments store)
    {fault : InclusionFault} (hrefuses : place.Refuses stack store fault) :
    fault = .nestedTooDeep := by
  cases hrefuses with
  | @stray chain here attributes content rest =>
      have hmem : (⟨fallbackTag, attributes, content⟩ : Element) ∈
          metAmong (.element fallbackTag attributes content :: rest) := by
        simp [metAmong, metOf]
      exact absurd rfl (h.plain _ hmem).1
  | nested => rfl
  | directive _ hfault =>
      obtain ⟨name, fewer, hname, rfl, -, hexists, -, hnew, hhref, hkind⟩ := h.directive
      obtain ⟨root, hload⟩ := hstore.loads hname hexists
      have hbase : IsFileName _ := h.base
      rw [replacement_of_plain hbase hname hkind hhref, if_neg (by simpa using hnew)] at hfault
      simp [enter, hload] at hfault

end Place

/-- With short chains only the end of the stack can stop an expansion. -/
theorem eq_of_expand_eq_error (hstore : HoldsPlainDocuments store) {file : String}
    {root : Element} {fault : InclusionFault} (hfile : IsFileName file)
    (hload : loadElement store file = .ok root)
    (hchains : HasChainsWithin store longestChain file)
    (hfault : expand stack store file root = .error fault) : fault = .nestedTooDeep := by
  obtain ⟨place, hreaches, hrefuses⟩ := expand_eq_error_iff.1 hfault
  have hstands : place.Stands store := by
    clear hrefuses
    induction hreaches with
    | refl => exact Place.stands_start hstore hfile hload hchains
    | tail _ hleads ih => exact ih.of_leads hstore hleads
  exact hstands.eq_of_refuses hstore hrefuses

end Inclusion

end PolicyKeeper
