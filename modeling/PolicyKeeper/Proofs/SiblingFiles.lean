import PolicyKeeper.Proofs.FileChanges
import PolicyKeeper.Proofs.FileFaults
import PolicyKeeper.Proofs.SiblingNames

/-!
# Files beside a file

Where a file can be read, its directory can be walked.  If its dot segments stay
below the directory where its path starts, it leads to the same place without
them.  So a file beside it is found under both ways of writing the directory, or
under neither.
-/

namespace PolicyKeeper

variable {τ : Type}

namespace FileStore

variable {store : FileStore τ} {path : String}

/-! ## Ways through directories -/

/-- The names lead from a directory to the entry, through directories. -/
inductive LeadsTo (store : FileStore τ) (base : Location) : List String → Entry τ → Prop
  | start : LeadsTo store base [] (.directory none)
  | into {names : List String} {directory found : Entry τ} {name : String}
      (habove : LeadsTo store base names directory) (hdirectory : directory.isDirectory = true)
      (hname : IsEntryName name) (hlength : name.utf8ByteSize ≤ longestName)
      (hfound : store.atLocation? (base ++ names ++ [name]) = some found) :
      LeadsTo store base (names ++ [name]) found

theorem walk_append (store : FileStore τ) (path : String) (here : Standing τ)
    (front back : List String) :
    store.walk path here (front ++ back) =
      (store.walk path here front >>= fun between => store.walk path between back) := by
  induction front generalizing here with
  | nil => rfl
  | cons component rest ih =>
      rw [List.cons_append, walk, walk]
      cases store.step path component here with
      | error fault => rfl
      | ok next => exact ih next

theorem step_of_isEntryName {here : Standing τ} {name : String}
    (hdirectory : here.entry.isDirectory = true) (hname : IsEntryName name) :
    store.step path name here =
      if longestName < name.utf8ByteSize then .error (.nameTooLong path)
      else
        match store.atLocation? (here.location ++ [name]) with
        | some found => .ok { location := here.location ++ [name], entry := found }
        | none => .error (.missing path) := by
  obtain ⟨hempty, hdot, hdots⟩ := hname
  cases hfound : store.atLocation? (here.location ++ [name]) with
  | none => simp [step, hdirectory, hempty, hdot, hdots, hfound]
  | some found => simp [step, hdirectory, hempty, hdot, hdots, hfound]

theorem LeadsTo.walk_eq {base : Location} {names : List String} {found : Entry τ}
    (h : LeadsTo store base names found) (path : String) :
    store.walk path { location := base, entry := .directory none } names =
      .ok { location := base ++ names, entry := found } := by
  induction h with
  | start => simp [walk]
  | into habove hdirectory hname hlength hfound ih =>
      rw [walk_append, ih, ok_bind, walk, step_of_isEntryName hdirectory hname,
        if_neg (Nat.not_lt_of_le hlength), hfound, List.append_assoc]
      rfl

theorem LeadsTo.above {base : Location} {names : List String} {found : Entry τ}
    (h : LeadsTo store base names found) (hdeep : names ≠ []) :
    ∃ directory, LeadsTo store base names.dropLast directory ∧
      directory.isDirectory = true := by
  cases h with
  | start => exact absurd rfl hdeep
  | into habove hdirectory =>
      rw [List.dropLast_concat]
      exact ⟨_, habove, hdirectory⟩

/-- A walk stands where names lead, in a directory if they lead to one. -/
def Standing.IsReached (store : FileStore τ) (base : Location) (names : List String)
    (here : Standing τ) : Prop :=
  here.location = base ++ names ∧
    ∃ found, LeadsTo store base names found ∧ found.isDirectory = here.entry.isDirectory

theorem StepsFrom.eq_of_stays {here next : Standing τ} {component : String}
    (h : StepsFrom store here component next) (hstays : component = "" ∨ component = ".") :
    next = here := by
  cases h with
  | stays => rfl
  | rises => exact absurd hstays (by decide)
  | enters hname => exact absurd hstays (not_or.2 ⟨hname.1, hname.2.1⟩)

theorem StepsFrom.eq_of_rises {here next : Standing τ} (h : StepsFrom store here ".." next) :
    next = { location := here.location.dropLast, entry := .directory none } := by
  cases h with
  | stays hstays => exact absurd hstays (by decide)
  | rises => rfl
  | enters hname => exact absurd rfl hname.2.2

theorem Standing.IsReached.above {base : Location} {last : List Char} {done : List (List Char)}
    {here : Standing τ}
    (h : here.IsReached store base ((last :: done).reverse.map String.ofList)) :
    Standing.IsReached store base (done.reverse.map String.ofList)
      { location := here.location.dropLast, entry := .directory none } := by
  obtain ⟨hlocation, found, hleads, -⟩ := h
  obtain ⟨directory, habove, hdirectory⟩ := hleads.above (by simp)
  have hup : ((last :: done).reverse.map String.ofList).dropLast =
      done.reverse.map String.ofList := by simp
  rw [hup] at habove
  exact ⟨by simp [hlocation], directory, habove, hdirectory⟩

theorem Standing.IsReached.into {base : Location} {names : List String} {name : String}
    {here next : Standing τ} (h : here.IsReached store base names)
    (hdirectory : here.entry.isDirectory = true) (hname : IsEntryName name)
    (hsteps : StepsFrom store here name next) : next.IsReached store base (names ++ [name]) := by
  obtain ⟨hlocation, found, hleads, hsame⟩ := h
  cases hsteps with
  | stays hstays => exact absurd hstays (not_or.2 ⟨hname.1, hname.2.1⟩)
  | rises => exact absurd rfl hname.2.2
  | enters _ hlength hfound =>
      have habove : found.isDirectory = true := hsame.trans hdirectory
      rw [hlocation] at hfound
      exact ⟨by simp [hlocation], _, .into hleads habove hname hlength hfound, rfl⟩

theorem isEntryName_ofList {segment : List Char} (h : Url.IsName segment) :
    IsEntryName (String.ofList segment) := by
  obtain ⟨hempty, hdot, hdots⟩ := h
  refine ⟨?_, ?_, ?_⟩
  · simpa using hempty
  · intro heq
    exact hdot (by simpa using congrArg String.toList heq)
  · intro heq
    exact hdots (by simpa using congrArg String.toList heq)

/-- Segments that stay below the place where a walk starts lead it to the names
that are left of them without dots. -/
theorem isReached_walk {base : Location} {done dirs : List (List Char)} {here next : Standing τ}
    (hbelow : Url.staysBelow done.length dirs = true)
    (hhere : here.IsReached store base (done.reverse.map String.ofList))
    (hwalk : store.walk path here (dirs.map String.ofList) = .ok next) :
    next.IsReached store base
      ((Url.resolveDots done (dirs.filter (!·.isEmpty))).map String.ofList) := by
  induction dirs generalizing done here with
  | nil =>
      obtain rfl := Except.ok.inj hwalk
      exact hhere
  | cons dir rest ih =>
      obtain ⟨between, hstep, hrest⟩ := bind_eq_ok.1 hwalk
      obtain ⟨hdirectory, hsteps⟩ := stepsFrom_of_step hstep
      by_cases hempty : dir = []
      · subst hempty
        obtain rfl := hsteps.eq_of_stays (.inl rfl)
        exact ih hbelow hhere hrest
      rw [List.filter_cons_of_pos (by simpa using hempty), Url.resolveDots]
      rw [Url.staysBelow] at hbelow
      by_cases hdots : dir = ['.', '.']
      · subst hdots
        simp only [if_true] at hbelow ⊢
        obtain rfl := hsteps.eq_of_rises
        cases done with
        | nil => simp at hbelow
        | cons last done => exact ih (by simpa using hbelow) hhere.above hrest
      by_cases hdot : dir = ['.']
      · subst hdot
        simp only [or_true, if_true] at hbelow ⊢
        obtain rfl := hsteps.eq_of_stays (.inr rfl)
        exact ih hbelow hhere hrest
      simp only [hdots, hdot, hempty, or_self, if_false] at hbelow ⊢
      have hentry := isEntryName_ofList ⟨hempty, hdot, hdots⟩
      have hdeeper : done.reverse.map String.ofList ++ [String.ofList dir] =
          (dir :: done).reverse.map String.ofList := by simp
      have hinside := hhere.into hdirectory hentry hsteps
      rw [hdeeper] at hinside
      exact @ih (dir :: done) _ hbelow hinside hrest

/-! ## The directory of a file -/

theorem components_eq_of_segments {path : String} {dirs : List (List Char)} {name : List Char}
    (hpath : path.toList = Url.slashed dirs ++ name) (hdirs : ∀ dir ∈ dirs, '/' ∉ dir)
    (hname : '/' ∉ name) : components path = dirs.map String.ofList ++ [String.ofList name] := by
  rw [components, hpath, Url.segments_slashed_append hdirs hname]
  simp

theorem toList_directoryOf_append (path name : String) :
    (directoryOf path ++ name).toList =
      Url.slashed (Url.directorySegments path.toList) ++ name.toList := by
  rw [directoryOf, String.toList_append, String.toList_ofList]
  rfl

theorem toList_plainDirectoryOf_append (path name : String) :
    (plainDirectoryOf path ++ name).toList =
      Url.slashed (Url.withoutDots (Url.directorySegments path.toList)) ++ name.toList := by
  rw [plainDirectoryOf, String.toList_append, String.toList_ofList]
  rfl

theorem components_directoryOf_append (path : String) {name : String} (hname : IsFileName name) :
    components (directoryOf path ++ name) =
      (Url.directorySegments path.toList).map String.ofList ++ [name] := by
  have h := components_eq_of_segments (toList_directoryOf_append path name)
    (Url.not_mem_directorySegments _) hname.not_slash
  rwa [String.ofList_toList] at h

theorem components_plainDirectoryOf_append (path : String) {name : String}
    (hname : IsFileName name) :
    components (plainDirectoryOf path ++ name) =
      (Url.withoutDots (Url.directorySegments path.toList)).map String.ofList ++ [name] := by
  have h := components_eq_of_segments (toList_plainDirectoryOf_append path name)
    (Url.not_mem_withoutDots _) hname.not_slash
  rwa [String.ofList_toList] at h

theorem startsWith_slash_iff : path.startsWith "/" = true ↔ path.toList.head? = some '/' := by
  rw [String.startsWith_string_iff]
  cases path.toList with
  | nil => simp
  | cons c rest => simp [List.cons_prefix_cons, eq_comm]

theorem startOf_eq (store : FileStore τ) (path : String) :
    store.startOf path =
      if (Url.directorySegments path.toList).head? = some [] then [] else store.start := by
  unfold startOf
  simp only [startsWith_slash_iff, Url.head?_eq_slash_iff]

/-- What is written beside a path starts where the path does. -/
theorem startOf_beside (store : FileStore τ) (path : String) {name : String}
    (hname : IsFileName name) :
    store.startOf (directoryOf path ++ name) = store.startOf path ∧
      store.startOf (plainDirectoryOf path ++ name) = store.startOf path := by
  have hroot : (Url.withoutDots (Url.directorySegments path.toList)).head? = some [] ↔
      (Url.directorySegments path.toList).head? = some [] := by
    have hsame := Url.rootSegments_withoutDots (Url.directorySegments path.toList)
    unfold Url.rootSegments at hsame
    constructor
    · intro hhead
      by_contra hnot
      simp [hhead, hnot] at hsame
    · intro hhead
      by_contra hnot
      simp [hhead, hnot] at hsame
  constructor
  · rw [startOf_eq, startOf_eq, toList_directoryOf_append,
      Url.directorySegments_slashed_append (Url.not_mem_directorySegments _) hname.not_slash]
  · simp only [startOf_eq, toList_plainDirectoryOf_append,
      Url.directorySegments_slashed_append (Url.not_mem_withoutDots _) hname.not_slash, hroot]

/-- Taking dot segments away is what a walk does with them, as long as they stay
below the place where it starts. -/
theorem foldl_componentStep_eq (base : Location) {done dirs : List (List Char)}
    (hbelow : Url.staysBelow done.length dirs = true) :
    (dirs.map String.ofList).foldl componentStep (base ++ done.reverse.map String.ofList) =
      base ++ (Url.resolveDots done (dirs.filter (!·.isEmpty))).map String.ofList := by
  induction dirs generalizing done with
  | nil => rfl
  | cons dir rest ih =>
      rw [List.map_cons, List.foldl_cons]
      by_cases hempty : dir = []
      · subst hempty
        exact ih hbelow
      rw [List.filter_cons_of_pos (by simpa using hempty), Url.resolveDots]
      rw [Url.staysBelow] at hbelow
      by_cases hdots : dir = ['.', '.']
      · subst hdots
        simp only [if_true] at hbelow ⊢
        cases done with
        | nil => simp at hbelow
        | cons last done =>
            have hup : componentStep (base ++ (last :: done).reverse.map String.ofList) ".." =
                base ++ done.reverse.map String.ofList := by
              simp [componentStep]
            exact (congrArg (List.foldl _ · _) hup).trans (ih (by simpa using hbelow))
      by_cases hdot : dir = ['.']
      · subst hdot
        simp only [or_true, if_true] at hbelow ⊢
        exact ih hbelow
      have hentry := isEntryName_ofList ⟨hempty, hdot, hdots⟩
      simp only [hdots, hdot, hempty, or_self, if_false] at hbelow ⊢
      rw [← @ih (dir :: done) hbelow, componentStep_of_isEntryName hentry]
      simp

/-- The names of the directory of a path, from where the path starts. -/
def directoryNames (path : String) : List String :=
  (Url.plainSegments (Url.directorySegments path.toList)).map String.ofList

/-- The place of the directory of a path. -/
def directoryLocation (store : FileStore τ) (path : String) : Location :=
  store.startOf path ++ directoryNames path

theorem isEntryName_of_isFileName {name : String} (hname : IsFileName name) : IsEntryName name :=
  ⟨hname.ne_empty, hname.ne_dot, hname.ne_dots⟩

theorem map_withoutDots (path : String) :
    (Url.withoutDots (Url.directorySegments path.toList)).map String.ofList =
      (Url.rootSegments (Url.directorySegments path.toList)).map String.ofList ++
        directoryNames path := by
  rw [Url.withoutDots, List.map_append]
  rfl

theorem staysBelow_names {depth : Nat} {dirs : List (List Char)}
    (hdirs : ∀ dir ∈ dirs, Url.IsName dir) : Url.staysBelow depth dirs = true := by
  induction dirs generalizing depth with
  | nil => rfl
  | cons dir rest ih =>
      rw [List.forall_mem_cons] at hdirs
      obtain ⟨⟨hempty, hdot, hdots⟩, hrest⟩ := hdirs
      simp only [Url.staysBelow, hempty, hdot, hdots, or_self, if_false]
      exact ih hrest

theorem staysBelow_withoutDots (dirs : List (List Char)) :
    Url.staysBelow 0 (Url.withoutDots dirs) = true := by
  have hplain := @staysBelow_names 0 _ (@Url.isName_of_mem_plainSegments dirs)
  unfold Url.withoutDots Url.rootSegments
  split_ifs
  · exact hplain
  · exact hplain

theorem resolveDots_withoutDots (dirs : List (List Char)) :
    Url.resolveDots [] ((Url.withoutDots dirs).filter (!·.isEmpty)) = Url.plainSegments dirs := by
  have hplain : Url.plainSegments (Url.withoutDots dirs) = Url.plainSegments dirs := by
    have hnames := Url.withoutDots_withoutDots dirs
    rw [Url.withoutDots, Url.rootSegments_withoutDots, Url.withoutDots] at hnames
    exact List.append_cancel_left hnames
  exact hplain

/-- Both ways of writing a file beside a path lead to one location. -/
theorem locationOf_beside (store : FileStore τ)
    (hbelow : Url.staysBelow 0 (Url.directorySegments path.toList) = true) {name : String}
    (hname : IsFileName name) :
    store.locationOf (directoryOf path ++ name) = store.directoryLocation path ++ [name] ∧
      store.locationOf (plainDirectoryOf path ++ name) =
        store.directoryLocation path ++ [name] := by
  have hentry := componentStep_of_isEntryName (isEntryName_of_isFileName hname)
  obtain ⟨hwritten, hplain⟩ := startOf_beside store path hname
  have hdirectory := @foldl_componentStep_eq (store.startOf path) [] _ hbelow
  have hplainDirectory :=
    @foldl_componentStep_eq (store.startOf path) [] _
      (staysBelow_withoutDots (Url.directorySegments path.toList))
  rw [resolveDots_withoutDots] at hplainDirectory
  rw [locationOf_eq, locationOf_eq, hwritten, hplain, components_directoryOf_append _ hname,
    components_plainDirectoryOf_append _ hname, List.foldl_append, List.foldl_append]
  simp only [List.reverse_nil, List.map_nil, List.append_nil] at hdirectory hplainDirectory
  rw [hdirectory, hplainDirectory]
  exact ⟨hentry _, hentry _⟩

theorem components_eq (path : String) :
    ∃ last, components path = (Url.directorySegments path.toList).map String.ofList ++ [last] := by
  obtain ⟨dirs, last, hpath, hdirs, hlast⟩ := Url.exists_slashed_append path.toList
  rw [components_eq_of_segments hpath hdirs hlast, hpath,
    Url.directorySegments_slashed_append hdirs hlast]
  exact ⟨String.ofList last, rfl⟩

/-- A walk to a file comes through its directory. -/
theorem walk_directory_of_read {octets : Octets} (hread : store.read path = .ok octets)
    (hbelow : Url.staysBelow 0 (Url.directorySegments path.toList) = true) :
    ∃ entry directory,
      store.walk path { location := store.startOf path, entry := .directory none }
          ((Url.directorySegments path.toList).map String.ofList) =
        .ok { location := store.directoryLocation path, entry } ∧
      entry.isDirectory = true ∧
      LeadsTo store (store.startOf path) (directoryNames path) directory ∧
      directory.isDirectory = true := by
  obtain ⟨found, hentry, -⟩ := bind_eq_ok.1 hread
  obtain ⟨location, hwalk⟩ := walk_of_entry hentry
  obtain ⟨last, hcomponents⟩ := components_eq path
  rw [hcomponents, walk_append] at hwalk
  obtain ⟨⟨above, entry⟩, hdirs, hlast⟩ := bind_eq_ok.1 hwalk
  have hstart : ({ location := store.startOf path, entry := .directory none } :
      Standing τ).IsReached store (store.startOf path)
        (([] : List (List Char)).map String.ofList) :=
    ⟨(List.append_nil _).symm, _, .start, rfl⟩
  obtain ⟨hlocation, directory, hleads, hsame⟩ :=
    @isReached_walk _ _ _ _ [] _ _ _ hbelow hstart hdirs
  obtain rfl : above = store.directoryLocation path := hlocation
  obtain ⟨next, hstep, -⟩ := bind_eq_ok.1 hlast
  have hentry := (stepsFrom_of_step hstep).1
  exact ⟨entry, directory, hdirs, hentry, hleads, hsame.trans hentry⟩

/-! ## Files in a directory -/

theorem step_congr {path' component : String} {here next : Standing τ}
    (hstep : store.step path component here = .ok next) :
    store.step path' component here = .ok next := by
  unfold step at hstep ⊢
  dsimp only at hstep ⊢
  split_ifs at hstep ⊢
  · exact hstep
  · exact hstep
  · cases hfound : store.atLocation? (here.location ++ [component]) with
    | none => simp [hfound] at hstep
    | some found => simpa [hfound] using hstep

theorem walk_congr {path' : String} {here next : Standing τ} {rest : List String}
    (hwalk : store.walk path here rest = .ok next) :
    store.walk path' here rest = .ok next := by
  induction rest generalizing here with
  | nil => exact hwalk
  | cons component rest ih =>
      obtain ⟨between, hstep, hrest⟩ := bind_eq_ok.1 hwalk
      exact bind_eq_ok.2 ⟨between, step_congr hstep, ih hrest⟩

/-- What a name at the end of a path leads to, when the rest of the path leads to
a directory. -/
theorem entry_of_walk {name : String} {dirs : List String} {location : Location}
    {directory : Entry τ} (hcomponents : components path = dirs ++ [name])
    (hnull : path.toList.contains '\x00' = false)
    (hwalk : store.walk path { location := store.startOf path, entry := .directory none } dirs =
      .ok { location, entry := directory })
    (hdirectory : directory.isDirectory = true) (hname : IsEntryName name) :
    store.entry path =
      if longestPath < path.utf8ByteSize ∨ longestName < name.utf8ByteSize then
        .error (.nameTooLong path)
      else
        match store.atLocation? (location ++ [name]) with
        | some found => .ok found
        | none => .error (.missing path) := by
  have hempty : path ≠ "" := by
    rintro rfl
    have hsingle : dirs ++ [name] = [""] := hcomponents.symm
    have hlast : [name] <:+ [""] := ⟨dirs, hsingle⟩
    exact hname.1 (by simpa using hlast.subset List.mem_cons_self)
  have hstep := @step_of_isEntryName _ store path { location, entry := directory } name hdirectory
    hname
  unfold entry
  simp only [hnull, hempty, Bool.false_eq_true, if_false, hcomponents, walk_append, hwalk,
    ok_bind, walk, hstep]
  by_cases hlong : longestPath < path.utf8ByteSize
  · simp [hlong]
  · by_cases hlength : longestName < name.utf8ByteSize
    · simp [hlong, hlength]
    · cases store.atLocation? (location ++ [name]) <;> simp [hlong, hlength]

theorem locationOf_of_isEntryName {name : String} (hcomponents : components name = [name])
    (hname : IsEntryName name) (hrelative : name.startsWith "/" = false) :
    store.locationOf name = store.start ++ [name] := by
  have hstart : store.startOf name = store.start := by
    rw [startOf, hrelative, if_neg Bool.false_ne_true]
  unfold locationOf
  rw [hcomponents, hstart, List.foldl_cons, List.foldl_nil, if_neg (not_or.2 ⟨hname.1, hname.2.1⟩),
    if_neg hname.2.2]

/-- What is written at a name is read there. -/
theorem read_write {name : String} (hcomponents : components name = [name])
    (hnull : name.toList.contains '\x00' = false) (hname : IsEntryName name)
    (hrelative : name.startsWith "/" = false) (hlength : name.utf8ByteSize ≤ longestName)
    (store : FileStore τ) (content : Octets) (modified : τ) :
    (store.write name (.file content modified)).read name = .ok content := by
  obtain ⟨base, hwrite⟩ : ∃ base : FileStore τ, store.write name (.file content modified) =
      base.put (store.start ++ [name]) (.file content modified) := by
    rw [write, locationOf_of_isEntryName hcomponents hname hrelative]
    exact ⟨_, rfl⟩
  have hstart : base.start = store.start := by
    rw [← start_write store name (.file content modified), hwrite, start_put]
  have hbelow : ¬ store.start ++ [name] <+: base.start := by
    intro habove
    have hle := habove.length_le
    rw [hstart, List.length_append, List.length_singleton] at hle
    omega
  have hplace : (base.put (store.start ++ [name]) (.file content modified)).atLocation?
      (store.start ++ [name]) = some (.file content modified) := by
    rw [atLocation?_put, if_neg hbelow, if_pos rfl]
  have hfrom : (base.put (store.start ++ [name]) (.file content modified)).startOf name =
      store.start := by
    rw [startOf, hrelative, if_neg Bool.false_ne_true, start_put, hstart]
  have hwalk : (base.put (store.start ++ [name]) (.file content modified)).walk name
      { location := (base.put (store.start ++ [name]) (.file content modified)).startOf name
        entry := .directory none } [] =
        .ok { location := store.start, entry := .directory none } := by
    rw [hfrom]
    rfl
  have hshort : ¬ (longestPath < name.utf8ByteSize ∨ longestName < name.utf8ByteSize) := by
    simp only [longestName, longestPath] at hlength ⊢
    omega
  have hentry := entry_of_walk hcomponents hnull hwalk rfl hname
  rw [if_neg hshort, hplace] at hentry
  rw [hwrite, read, hentry]
  rfl

/-! ## Files beside a file -/

/-- What is found of a name in the directory of a path, when that directory is
written in one way or the other. -/
def FindsBeside (store : FileStore τ) (path name written : String) : Prop :=
  store.entry written =
    if longestPath < written.utf8ByteSize ∨ longestName < name.utf8ByteSize then
      .error (.nameTooLong written)
    else
      match store.atLocation? (store.directoryLocation path ++ [name]) with
      | some found => .ok found
      | none => .error (.missing written)

theorem not_null_of_sublist {directory : List Char} {name : String}
    (hdirectory : directory.Sublist path.toList) (hpath : path.toList.contains '\x00' = false)
    (hname : IsFileName name) :
    (String.ofList directory ++ name).toList.contains '\x00' = false := by
  have hfree : '\x00' ∉ path.toList := by simpa using hpath
  have hdirectoryFree : '\x00' ∉ directory := fun hmem => hfree (hdirectory.subset hmem)
  have hnameFree : '\x00' ∉ name.toList := hname.isUnmarked.not_mem (by decide)
  simp [hdirectoryFree, hnameFree]

theorem directoryText_sublist (path : List Char) : (Url.directoryText path).Sublist path := by
  obtain ⟨dirs, last, rfl, hdirs, hlast⟩ := Url.exists_slashed_append path
  rw [Url.directoryText, Url.directorySegments_slashed_append hdirs hlast]
  exact List.sublist_append_left _ _

theorem withoutDots_sublist (dirs : List (List Char)) : (Url.withoutDots dirs).Sublist dirs := by
  unfold Url.withoutDots Url.rootSegments
  split_ifs with hroot
  · cases dirs with
    | nil => simp at hroot
    | cons first rest =>
        obtain rfl : first = [] := by simpa using hroot
        exact (Url.plainSegments_sublist rest).cons_cons []
  · exact Url.plainSegments_sublist dirs

theorem plainDirectory_sublist (path : List Char) :
    (Url.plainDirectory path).Sublist (Url.directoryText path) :=
  (withoutDots_sublist _).flatMap _

/-- The directory without dot segments can be walked where its names lead to it. -/
theorem walk_withoutDots {written : String} {directory : Entry τ}
    (hleads : LeadsTo store (store.startOf path) (directoryNames path) directory) :
    store.walk written { location := store.startOf path, entry := .directory none }
        ((Url.withoutDots (Url.directorySegments path.toList)).map String.ofList) =
      .ok { location := store.directoryLocation path, entry := directory } := by
  rw [map_withoutDots, walk_append]
  have hroot : store.walk written { location := store.startOf path, entry := .directory none }
      ((Url.rootSegments (Url.directorySegments path.toList)).map String.ofList) =
        .ok { location := store.startOf path, entry := .directory none } := by
    unfold Url.rootSegments
    split_ifs <;> rfl
  rw [hroot]
  exact hleads.walk_eq written

theorem findsBeside {octets : Octets} (hread : store.read path = .ok octets)
    (hbelow : Url.staysBelow 0 (Url.directorySegments path.toList) = true) {name : String}
    (hname : IsFileName name) :
    FindsBeside store path name (directoryOf path ++ name) ∧
      FindsBeside store path name (plainDirectoryOf path ++ name) := by
  obtain ⟨entry, directory, hwalk, hentry, hleads, hdirectory⟩ :=
    walk_directory_of_read hread hbelow
  have hnull := path_of_read hread
  have hentryName := isEntryName_of_isFileName hname
  obtain ⟨hwritten, hplain⟩ := startOf_beside store path hname
  constructor
  · apply entry_of_walk (components_directoryOf_append path hname)
      (not_null_of_sublist (directoryText_sublist _) hnull hname) _ hentry hentryName
    rw [hwritten]
    exact walk_congr hwalk
  · apply entry_of_walk (components_plainDirectoryOf_append path hname)
      (not_null_of_sublist ((plainDirectory_sublist _).trans (directoryText_sublist _)) hnull hname)
      _ hdirectory hentryName
    rw [hplain]
    exact walk_withoutDots hleads

theorem size_plainDirectoryOf_le (path name : String) :
    (plainDirectoryOf path ++ name).utf8ByteSize ≤ (directoryOf path ++ name).utf8ByteSize := by
  rw [String.utf8ByteSize_append, String.utf8ByteSize_append]
  apply Nat.add_le_add_right
  rw [plainDirectoryOf, directoryOf, String.utf8ByteSize_ofList, String.utf8ByteSize_ofList]
  exact String.utf8Len_le_of_sublist (plainDirectory_sublist _)

theorem read_eq_ok_iff {content : Octets} :
    store.read path = .ok content ↔
      ∃ modified, store.entry path = .ok (.file content modified) := by
  unfold read
  cases store.entry path with
  | error fault => simp
  | ok found => cases found <;> simp

theorem read_eq_missing_iff :
    store.read path = .error (.missing path) ↔ store.entry path = .error (.missing path) := by
  unfold read
  cases store.entry path with
  | error fault => simp
  | ok found => cases found <;> simp

section

variable {octets : Octets} {name : String} (hread : store.read path = .ok octets)
  (hbelow : Url.staysBelow 0 (Url.directorySegments path.toList) = true)
  (hname : IsFileName name)

include hread hbelow hname

/-- A file beside a file that is found is also found without dot segments. -/
theorem read_plainDirectoryOf {content : Octets}
    (hbeside : store.read (directoryOf path ++ name) = .ok content) :
    store.read (plainDirectoryOf path ++ name) = .ok content := by
  obtain ⟨hwritten, hplain⟩ := findsBeside hread hbelow hname
  have hsize := size_plainDirectoryOf_le path name
  obtain ⟨modified, hentry⟩ := read_eq_ok_iff.1 hbeside
  rw [hwritten] at hentry
  split_ifs at hentry with hlong
  have hshort : ¬ (longestPath < (plainDirectoryOf path ++ name).utf8ByteSize ∨
      longestName < name.utf8ByteSize) := by omega
  rw [read_eq_ok_iff, hplain, if_neg hshort]
  refine ⟨modified, ?_⟩
  cases hplace : store.atLocation? (store.directoryLocation path ++ [name]) with
  | none => simp [hplace] at hentry
  | some other => simpa [hplace] using hentry

/-- A file beside a file that is missing is also missing without dot segments. -/
theorem missing_plainDirectoryOf
    (hbeside : store.read (directoryOf path ++ name) =
      .error (.missing (directoryOf path ++ name))) :
    store.read (plainDirectoryOf path ++ name) =
      .error (.missing (plainDirectoryOf path ++ name)) := by
  obtain ⟨hwritten, hplain⟩ := findsBeside hread hbelow hname
  have hsize := size_plainDirectoryOf_le path name
  rw [read_eq_missing_iff, hwritten] at hbeside
  split_ifs at hbeside with hlong
  · simp at hbeside
  have hshort : ¬ (longestPath < (plainDirectoryOf path ++ name).utf8ByteSize ∨
      longestName < name.utf8ByteSize) := by omega
  rw [read_eq_missing_iff, hplain, if_neg hshort]
  cases hplace : store.atLocation? (store.directoryLocation path ++ [name]) with
  | none => rfl
  | some other => simp [hplace] at hbeside

end

end FileStore

end PolicyKeeper
