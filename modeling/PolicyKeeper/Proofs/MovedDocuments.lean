import PolicyKeeper.Proofs.CallStacks
import PolicyKeeper.Proofs.IncludeChains
import PolicyKeeper.Proofs.SiblingFiles

/-!
# Documents in another directory

A document with the files that it includes can be moved: from the directory
where it stands to the starting directory.  If its name is read as a path, both
loads come to the same on a stack for which files have no names, apart from the
names of files.
-/

namespace PolicyKeeper

variable {τ : Type} {stack : CallStack}

/-- Whether the stack is used up depends on the element and on the number of
elements around it, not on the names of files. -/
def CallStack.IgnoresNames (stack : CallStack) : Prop :=
  ∀ (here here' : Inclusion.Surroundings) (e : Element), here'.nesting = here.nesting →
    stack.isUsedUp here' e = stack.isUsedUp here e

theorem CallStack.ignoresNames_ofRoom (room : Nat) : (ofRoom room).IgnoresNames := by
  intro here here' e hnesting
  simp only [ofRoom, hnesting]

/-- The same fault at a path in a directory. -/
def FileFault.below (directory : String) : FileFault → FileFault
  | .missing path => .missing (directory ++ path)
  | .notDirectory path => .notDirectory (directory ++ path)
  | .isDirectory path => .isDirectory (directory ++ path)
  | .nameTooLong path => .nameTooLong (directory ++ path)
  | .nullCharacter => .nullCharacter

def InclusionFault.below (directory : String) : InclusionFault → InclusionFault
  | .file fault => .file (fault.below directory)
  | .circular target => .circular (directory ++ target)
  | .chainTooLong target => .chainTooLong (directory ++ target)
  | fault => fault

/-- The same fault of a document at a path whose includes are in a directory. -/
def LoadFault.movedTo (path directory : String) : LoadFault → LoadFault
  | .markup _ fault => .markup path fault
  | .inclusion fault => .inclusion (fault.below directory)
  | fault => fault

namespace Inclusion

/-! ## Moved surroundings -/

/-- The same surroundings in a file of another name, where the files around it
are in a directory. -/
def Surroundings.moved (directory base : String) (here : Surroundings) : Surroundings :=
  { base, targets := here.targets.map (directory ++ ·), nesting := here.nesting }

/-- The directives among the nodes have targets of these names. -/
def NamesOnly (names : String → Prop) (nodes : List Node) : Prop :=
  ∀ e ∈ metAmong nodes, e.tag = includeTag →
    ∃ name, e.attribute? "href" = some name ∧ names name

section

variable {directory base base' : String} {names : String → Prop}
  {replace replace' : Surroundings → Element → Except InclusionFault Node}

/-- Directives with these names are replaced the same way, but for the directory
in a fault. -/
def ReplacesAlike (directory base base' : String) (names : String → Prop)
    (replace replace' : Surroundings → Element → Except InclusionFault Node) : Prop :=
  ∀ here directive name, here.base = base' → directive.attribute? "href" = some name →
    names name → replace (here.moved directory base) directive =
      (replace' here directive).mapError (.below directory)

mutual

theorem expandNode_moved (hstack : stack.IgnoresNames)
    (halike : ReplacesAlike directory base base' names replace replace') :
    ∀ (here : Surroundings) (node : Node), here.base = base' →
      (∀ e ∈ metOf node, e.tag = includeTag →
        ∃ name, e.attribute? "href" = some name ∧ names name) →
      expandNode stack replace (here.moved directory base) node =
        (expandNode stack replace' here node).mapError (.below directory)
  | _, .text s, _, _ => rfl
  | _, .remark, _, _ => rfl
  | here, .element tag attributes content, hbase, hnames => by
      unfold expandNode
      rw [metOf, List.forall_mem_cons] at hnames
      rw [hstack here (here.moved directory base) _ rfl]
      split
      next => rfl
      next =>
        split
        next htag =>
          obtain ⟨name, hhref, hname⟩ := hnames.1 htag
          exact halike here _ name hbase hhref hname
        next htag =>
          rw [if_neg htag] at hnames
          split
          next => rfl
          next =>
            have hcontent := expandNodes_moved hstack halike
              { here with nesting := here.nesting + 1 } content hbase hnames.2
            rw [mapError_bind]
            exact congrArg (· >>= _) hcontent

theorem expandNodes_moved (hstack : stack.IgnoresNames)
    (halike : ReplacesAlike directory base base' names replace replace') :
    ∀ (here : Surroundings) (nodes : List Node), here.base = base' → NamesOnly names nodes →
      expandNodes stack replace (here.moved directory base) nodes =
        (expandNodes stack replace' here nodes).mapError (.below directory)
  | _, [], _, _ => rfl
  | here, node :: rest, hbase, hnames => by
      unfold NamesOnly at hnames
      rw [metAmong, List.forall_mem_append] at hnames
      unfold expandNodes
      rw [expandNode_moved hstack halike here node hbase hnames.1,
        expandNodes_moved hstack halike here rest hbase hnames.2, mapError_bind]
      simp only [mapError_bind]
      rfl

end

end

/-! ## Moved files -/

section

variable {store store' : FileStore τ} {directory name : String}
  (hread : store.read (directory ++ name) = (store'.read name).mapError (.below directory))

include hread

theorem loadElement_moved :
    loadElement store (directory ++ name) =
      (loadElement store' name).mapError (.below directory) := by
  unfold loadElement
  simp only [hread, mapError_bind, mapError_mapError]
  rfl

theorem loadText_moved (encoding : Option String) :
    loadText store (directory ++ name) encoding =
      (loadText store' name encoding).mapError (.below directory) := by
  unfold loadText
  simp only [hread, mapError_bind, mapError_mapError]
  rfl

end

theorem contains_map_append (directory name : String) (targets : List String) :
    (targets.map (directory ++ ·)).contains (directory ++ name) = targets.contains name := by
  rw [Bool.eq_iff_iff]
  simp

/-- Names are resolved to files in the directory, starting from one file, and to
files of their own, starting from the other. -/
structure ResolvesAlike (directory base base' : String) (names : String → Prop) : Prop where
  base_ne : base ≠ ""
  base'_ne : base' ≠ ""
  join : ∀ name, names name → Url.join base name = .ok (directory ++ name)
  join' : ∀ name, names name → Url.join base' name = .ok name

section

variable {store store' : FileStore τ} {directory base base' : String} {names : String → Prop}

theorem replacesAlike_replacement
    {loadRoot loadRoot' : Surroundings → String → Except InclusionFault Element}
    (hresolves : ResolvesAlike directory base base' names)
    (hread : ∀ name, names name → store.read (directory ++ name) =
      (store'.read name).mapError (.below directory))
    (hroot : ∀ here name, names name → loadRoot (here.moved directory base) (directory ++ name) =
      (loadRoot' here name).mapError (.below directory)) :
    ReplacesAlike directory base base' names (replacement store loadRoot)
      (replacement store' loadRoot') := by
  intro here directive name hbase hhref hname
  have htarget : target (here.moved directory base) (some name) = .ok (directory ++ name) := by
    have hbase_ne : (here.moved directory base).base ≠ "" := hresolves.base_ne
    rw [target, if_neg hbase_ne]
    exact congrArg (Except.mapError _) (hresolves.join name hname)
  have htarget' : target here (some name) = .ok name := by
    rw [target, hbase, if_neg hresolves.base'_ne, Option.getD_some, hresolves.join' name hname]
    rfl
  unfold replacement
  simp only [hhref, htarget, htarget']
  split
  next =>
    simp only [ok_bind]
    have hcontains : (here.moved directory base).targets.contains (directory ++ name) =
        here.targets.contains name := contains_map_append directory name here.targets
    rw [hcontains]
    split
    next => rfl
    next => rw [hroot here name hname, mapError_bind]; rfl
  next =>
    split
    next =>
      simp only [ok_bind]
      rw [loadText_moved (hread name hname), mapError_bind]
      rfl
    next => rfl

end

/-! ## Moved documents -/

/-- The second store has copies of files beside a path of the first one, under
their plain names, or has nothing under a name where the first has no file.  The
directives in these files have such names again, and where there are any, the
name of the file is read as a path. -/
structure HasCopies (store store' : FileStore τ) (path : String) (names : String → Prop) :
    Prop where
  plain : ∀ name, names name → IsFileName name
  same : ∀ name, names name →
    (∃ octets, store.read (directoryOf path ++ name) = .ok octets ∧
      store'.read name = .ok octets) ∨
    store.read (directoryOf path ++ name) = .error (.missing (directoryOf path ++ name)) ∧
      store'.read name = .error (.missing name)
  closed : ∀ name root, names name → loadElement store' name = .ok root →
    NamesOnly names root.content
  readAsPath : ∀ name root, names name → loadElement store' name = .ok root →
    (∃ e ∈ metAmong root.content, e.tag = includeTag) →
      Url.IsReadAsPath (plainDirectoryOf path ++ name).toList

variable {store store' : FileStore τ} {path copy : String} {names : String → Prop}

theorem HasCopies.read_eq (h : HasCopies store store' path names) {octets : Octets}
    (hread : store.read path = .ok octets) (hpath : Url.IsReadAsPath path.toList) {name : String}
    (hname : names name) :
    store.read (plainDirectoryOf path ++ name) =
      (store'.read name).mapError (.below (plainDirectoryOf path)) := by
  have hplain := h.plain name hname
  rcases h.same name hname with ⟨content, hbeside, hcopy⟩ | ⟨hbeside, hcopy⟩
  · rw [FileStore.read_plainDirectoryOf hread hpath.below hplain hbeside, hcopy]
    rfl
  · rw [FileStore.missing_plainDirectoryOf hread hpath.below hplain hbeside, hcopy]
    rfl

theorem HasCopies.resolvesAlike (h : HasCopies store store' path names) {base copy : String}
    (hbase : Url.IsReadAsPath base.toList)
    (hdirectory : plainDirectoryOf base = plainDirectoryOf path) (hcopy : IsFileName copy) :
    ResolvesAlike (plainDirectoryOf path) base copy names where
  base_ne := by simpa using Url.ne_nil_of_isReadAsPath hbase
  base'_ne := hcopy.ne_empty
  join name hname := by
    rw [Url.join_of_isReadAsPath hbase (h.plain name hname), hdirectory]
  join' name hname := Url.join_of_isFileName hcopy (h.plain name hname)

/-- Where nodes have no directives, nothing is asked of those. -/
theorem expandNodes_of_namesOnly (hstack : stack.IgnoresNames) {directory : String}
    (base : String) (here : Surroundings) {nodes : List Node}
    {replace replace' : Surroundings → Element → Except InclusionFault Node}
    (hnames : NamesOnly names nodes)
    (halike : (∃ e ∈ metAmong nodes, e.tag = includeTag) →
      ReplacesAlike directory base here.base names replace replace') :
    expandNodes stack replace (here.moved directory base) nodes =
      (expandNodes stack replace' here nodes).mapError (.below directory) := by
  by_cases hsome : ∃ e ∈ metAmong nodes, e.tag = includeTag
  · exact expandNodes_moved hstack (halike hsome) here nodes rfl hnames
  · have hnone : NamesOnly (fun _ => False) nodes :=
      fun e hmem htag => absurd ⟨e, hmem, htag⟩ hsome
    have hvacuous : ReplacesAlike directory base here.base (fun _ => False) replace replace' :=
      fun _ _ _ _ _ hfalse => hfalse.elim
    exact expandNodes_moved hstack hvacuous here nodes rfl hnone

theorem includedRoot_moved (hstack : stack.IgnoresNames)
    (h : HasCopies store store' path names) {octets : Octets}
    (hread : store.read path = .ok octets) (hpath : Url.IsReadAsPath path.toList) (chain : Nat)
    (here : Surroundings) (base : String) {name : String} (hname : names name) :
    includedRoot stack store chain (here.moved (plainDirectoryOf path) base)
        (plainDirectoryOf path ++ name) =
      (includedRoot stack store' chain here name).mapError (.below (plainDirectoryOf path)) := by
  induction chain generalizing here base name with
  | zero => rfl
  | succ chain ih =>
      have hload := loadElement_moved (h.read_eq hread hpath hname)
      simp only [includedRoot, enter, Nat.add_sub_cancel, hload]
      cases hroot : loadElement store' name with
      | error fault => rfl
      | ok root =>
          simp only [mapError_ok, ok_bind]
          have hplain := h.plain name hname
          have hcontent := expandNodes_of_namesOnly hstack (plainDirectoryOf path ++ name)
            (here.within name) (h.closed name root hname hroot)
            fun hsome => replacesAlike_replacement
              (h.resolvesAlike (h.readAsPath name root hname hroot hsome)
                (plainDirectoryOf_plainDirectoryOf_append path hplain) hplain)
              (fun _ hother => h.read_eq hread hpath hother)
              (fun inner _ hother => ih inner (plainDirectoryOf path ++ name) hother)
          simp only [expandWithin_eq, mapError_bind]
          exact congrArg (· >>= _) hcontent

/-- A document that is read as a path expands to what its copy expands to, and
its faults are those of the copy, in its directory. -/
theorem expand_moved (hstack : stack.IgnoresNames) (h : HasCopies store store' path names)
    {octets : Octets}
    (hread : store.read path = .ok octets) (hpath : Url.IsReadAsPath path.toList)
    (hcopy : IsFileName copy) {root : Element} (hnames : NamesOnly names root.content) :
    expand stack store path root =
      (expand stack store' copy root).mapError (.below (plainDirectoryOf path)) := by
  have hresolves := h.resolvesAlike hpath rfl hcopy
  have halike := replacesAlike_replacement hresolves (fun _ hname => h.read_eq hread hpath hname)
    fun here name hname => includedRoot_moved hstack h hread hpath longestChain here path hname
  have hcontent := expandNodes_moved hstack halike ⟨copy, [], 0⟩ root.content rfl hnames
  unfold expand
  simp only [expandWithin_eq, mapError_bind]
  exact congrArg (· >>= _) hcontent

end Inclusion

/-! ## Moved loads -/

/-- A load comes to the same as the load of a copy: it leaves the same notices,
gives the same policies from a source of another name, or fails in the same way
with other names of files. -/
structure ComesToTheSame (path directory : String) (work work' : Load PolicySet) : Prop where
  notices : work.notices = work'.notices
  outcome : work.outcome =
    (work'.outcome.map fun set => { set with source := path }).mapError (.movedTo path directory)

theorem PolicyDocument.policySet_source (source source' : String) (root : Element) :
    (policySet source root).notices = (policySet source' root).notices ∧
      (policySet source root).outcome =
        (policySet source' root).outcome.map fun set => { set with source } := by
  unfold policySet
  split_ifs with hroot
  · exact ⟨rfl, rfl⟩
  · simp only [Bind.bind, Noted.bind]
    cases (policies [] root.children).outcome with
    | error fault => exact ⟨rfl, rfl⟩
    | ok read =>
        dsimp only
        cases (validate read).outcome <;> exact ⟨rfl, rfl⟩

namespace ComesToTheSame

variable {path directory : String}

theorem of_build {work work' : PolicyDocument.Build PolicySet}
    (hnotices : work.notices = work'.notices)
    (houtcome : work.outcome = work'.outcome.map fun set => { set with source := path }) :
    ComesToTheSame path directory (work.mapFault .build) (work'.mapFault .build) := by
  refine ⟨hnotices, ?_⟩
  rw [Noted.outcome_mapFault, Noted.outcome_mapFault, houtcome]
  cases work'.outcome <;> rfl

theorem bind {α : Type} {work work' : Load α} {next next' : α → Load PolicySet}
    (hnotices : work.notices = work'.notices)
    (houtcome : work.outcome = work'.outcome.mapError (.movedTo path directory))
    (hnext : ∀ value, ComesToTheSame path directory (next value) (next' value)) :
    ComesToTheSame path directory (work >>= next) (work' >>= next') := by
  obtain ⟨notices, outcome⟩ := work
  obtain ⟨notices', outcome'⟩ := work'
  obtain rfl : notices = notices' := hnotices
  obtain rfl : outcome = outcome'.mapError (.movedTo path directory) := houtcome
  cases outcome' with
  | error fault => exact ⟨rfl, rfl⟩
  | ok value => exact ⟨congrArg (notices ++ ·) (hnext value).notices, (hnext value).outcome⟩

end ComesToTheSame

namespace PolicyFile

variable {store store' : FileStore τ} {path copy : String} {names : String → Prop}

theorem comesToTheSame_expandIncludes (hstack : stack.IgnoresNames)
    (h : Inclusion.HasCopies store store' path names)
    (includes : Bool) {octets : Octets} (hread : store.read path = .ok octets)
    (hpath : Url.IsReadAsPath path.toList) (hcopy : IsFileName copy) {root : Element}
    (hnames : Inclusion.NamesOnly names root.content) :
    (expandIncludes stack store includes path root).notices =
        (expandIncludes stack store' includes copy root).notices ∧
      (expandIncludes stack store includes path root).outcome =
        (expandIncludes stack store' includes copy root).outcome.mapError
          (.movedTo path (plainDirectoryOf path)) := by
  unfold expandIncludes
  cases includes with
  | false =>
      rw [if_neg Bool.false_ne_true, if_neg Bool.false_ne_true]
      cases Inclusion.strip root
      exact ⟨rfl, rfl⟩
  | true =>
      have hmoved := Inclusion.expand_moved hstack h hread hpath hcopy hnames
      rw [if_pos rfl, if_pos rfl, hmoved, mapError_mapError]
      generalize Inclusion.expand stack store' copy root = outcome
      cases outcome <;> exact ⟨rfl, rfl⟩

theorem comesToTheSame_ofElement (hstack : stack.IgnoresNames)
    (h : Inclusion.HasCopies store store' path names)
    (includes : Bool) {octets : Octets} (hread : store.read path = .ok octets)
    (hpath : Url.IsReadAsPath path.toList) (hcopy : IsFileName copy) {root : Element}
    (hnames : Inclusion.NamesOnly names root.content) :
    ComesToTheSame path (plainDirectoryOf path) (ofElement stack store includes path path root)
      (ofElement stack store' includes copy copy root) := by
  obtain ⟨hnotices, houtcome⟩ :=
    comesToTheSame_expandIncludes hstack h includes hread hpath hcopy hnames
  refine .bind hnotices houtcome fun expanded => ?_
  obtain ⟨hsame, hset⟩ := PolicyDocument.policySet_source path copy expanded
  exact .of_build hsame hset

theorem comesToTheSame_parse (hstack : stack.IgnoresNames)
    (h : Inclusion.HasCopies store store' path names)
    (includes : Bool) {octets : Octets} (hread : store.read path = .ok octets)
    (hpath : Url.IsReadAsPath path.toList) (hcopy : IsFileName copy)
    (hnames : ∀ root, Markup.readOctets octets = .ok root →
      Inclusion.NamesOnly names root.content) :
    ComesToTheSame path (plainDirectoryOf path) (parse stack store includes path path (.inr octets))
      (parse stack store' includes copy copy (.inr octets)) := by
  unfold parse
  dsimp only
  cases hroot : Markup.readOctets octets with
  | error fault =>
      rw [mapError_error, mapError_error, Noted.ofExcept_error_bind, Noted.ofExcept_error_bind]
      exact ⟨rfl, rfl⟩
  | ok root =>
      rw [mapError_ok, mapError_ok, Noted.ofExcept_ok_bind, Noted.ofExcept_ok_bind]
      exact comesToTheSame_ofElement hstack h includes hread hpath hcopy (hnames root hroot)

/-- A document whose includes are plain names comes to the same as a copy of it
in the starting directory, if its name is read as a path: each name stands for
the file that is beside it.  The stack is one that does not know files by their
names. -/
theorem load_of_copies (hstack : stack.IgnoresNames)
    (h : Inclusion.HasCopies store store' path names) (includes : Bool)
    {octets : Octets} (hread : store.read path = .ok octets)
    (hpath : Url.IsReadAsPath path.toList) (hcopy : IsFileName copy)
    (hcopied : store'.read copy = .ok octets)
    (hnames : ∀ root, Markup.readOctets octets = .ok root →
      Inclusion.NamesOnly names root.content) :
    (∀ name, names name → ∃ target, Url.join path name = .ok target ∧
      store.locationOf target = store.locationOf (directoryOf path ++ name) ∧
      ∀ content, store.read (directoryOf path ++ name) = .ok content →
        store.read target = .ok content) ∧
    (∃ rest, (load stack store includes path).notices = .reading path :: rest ∧
      (load stack store' includes copy).notices = .reading copy :: rest) ∧
    (load stack store includes path).outcome =
      ((load stack store' includes copy).outcome.map fun set =>
        { set with source := path }).mapError (.movedTo path (plainDirectoryOf path)) := by
  obtain ⟨hnotices, houtcome⟩ :=
    comesToTheSame_parse hstack h includes hread hpath hcopy hnames
  rw [load_of_octets hread, load_of_octets hcopied, Noted.note_bind, Noted.note_bind]
  refine ⟨?_, ⟨_, rfl, congrArg (_ :: ·) hnotices.symm⟩, houtcome⟩
  intro name hname
  have hplain := h.plain name hname
  obtain ⟨hwritten, hmeant⟩ := FileStore.locationOf_beside store hpath.below hplain
  exact ⟨_, Url.join_of_isReadAsPath hpath hplain, hmeant.trans hwritten.symm,
    fun _ => FileStore.read_plainDirectoryOf hread hpath.below hplain⟩

def includingDocument : Octets :=
  octetsOf ["<configuration xmlns:i='http://www.w3.org/2001/XInclude'>",
    "<i:include href='x.xml'/></configuration>"]

def deepStore : FileStore Binary64 :=
  (FileStore.empty.write "/d/p.xml" (.file includingDocument 900)).write "/d/x.xml"
    (.file (samplePolicy "/a") 900)

def flatStore : FileStore Binary64 :=
  (FileStore.empty.write "p.xml" (.file includingDocument 900)).write "x.xml"
    (.file (samplePolicy "/a") 900)

theorem load_of_copies_deep :
    Url.IsReadAsPath "/d/./p.xml".toList ∧
      (load (.ofRoom 900) deepStore true "/d/./p.xml").outcome =
        ((load (.ofRoom 900) flatStore true "p.xml").outcome.map fun set =>
          { set with source := "/d/./p.xml" }).mapError
            (.movedTo "/d/./p.xml" (plainDirectoryOf "/d/./p.xml")) ∧
      ∃ set, (load (.ofRoom 900) deepStore true "/d/./p.xml").outcome = .ok set ∧
        set.names = ["/a"] := by
  have hpath : Url.IsReadAsPath "/d/./p.xml".toList := by decide +kernel
  have hread : deepStore.read "/d/./p.xml" = .ok includingDocument := by decide +kernel
  have hcopied : flatStore.read "p.xml" = .ok includingDocument := by decide +kernel
  have hbeside :
      deepStore.read (directoryOf "/d/./p.xml" ++ "x.xml") = .ok (samplePolicy "/a") := by
    decide +kernel
  have hbesideCopy : flatStore.read "x.xml" = .ok (samplePolicy "/a") := by decide +kernel
  have hincluded : ∃ root, Inclusion.loadElement flatStore "x.xml" = .ok root ∧
      ∀ e ∈ Inclusion.metAmong root.content, e.tag ≠ includeTag := by
    decide +kernel
  have hincluding : ∃ root, Markup.readOctets includingDocument = .ok root ∧
      ∀ e ∈ Inclusion.metAmong root.content, e.attribute? "href" = some "x.xml" := by
    decide +kernel
  have hcopies : Inclusion.HasCopies deepStore flatStore "/d/./p.xml" (· = "x.xml") := by
    obtain ⟨included, hload, hnone⟩ := hincluded
    refine ⟨?_, ?_, ?_, ?_⟩
    · rintro name rfl
      decide
    · rintro name rfl
      exact .inl ⟨_, hbeside, hbesideCopy⟩
    · rintro name root rfl hroot e hmem htag
      obtain rfl := Except.ok.inj (hload.symm.trans hroot)
      exact absurd htag (hnone e hmem)
    · rintro name root rfl hroot ⟨e, hmem, htag⟩
      obtain rfl := Except.ok.inj (hload.symm.trans hroot)
      exact absurd htag (hnone e hmem)
  have hnames : ∀ root, Markup.readOctets includingDocument = .ok root →
      Inclusion.NamesOnly (· = "x.xml") root.content := by
    obtain ⟨including, hload, hall⟩ := hincluding
    rintro root hroot e hmem -
    obtain rfl := Except.ok.inj (hload.symm.trans hroot)
    exact ⟨"x.xml", hall e hmem, rfl⟩
  have hplain : IsFileName "p.xml" := by decide
  have hstack := CallStack.ignoresNames_ofRoom 900
  exact ⟨hpath, (load_of_copies hstack hcopies true hread hpath hplain hcopied hnames).2.2,
    by decide +kernel⟩

end PolicyFile

end PolicyKeeper
