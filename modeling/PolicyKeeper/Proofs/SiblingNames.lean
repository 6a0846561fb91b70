import PolicyKeeper.Proofs.FileNames

/-!
# Names beside a file

A plain name that is resolved against the name of a file comes to the directory
of the file without its dot segments, provided that the name of the file is read
as a path and nothing in its directory has a meaning in an address.
-/

namespace PolicyKeeper

namespace Url

/-! ## Segments -/

theorem segments_append_slash {segment : List Char} (hsegment : '/' ∉ segment)
    (rest : List Char) : segments (segment ++ '/' :: rest) = segment :: segments rest := by
  unfold segments
  induction segment with
  | nil => simp [partsAt]
  | cons c more ih =>
      rw [List.mem_cons, not_or] at hsegment
      rw [List.cons_append, partsAt, if_neg (Ne.symm hsegment.1), ih hsegment.2]

theorem segments_of_not_mem {segment : List Char} (hsegment : '/' ∉ segment) :
    segments segment = [segment] := by
  unfold segments
  induction segment with
  | nil => rfl
  | cons c more ih =>
      rw [List.mem_cons, not_or] at hsegment
      rw [partsAt, if_neg (Ne.symm hsegment.1), ih hsegment.2]

/-- The text of a directory: each segment with a slash behind it. -/
def slashed (dirs : List (List Char)) : List Char := dirs.flatMap (· ++ ['/'])

theorem slashed_cons (segment : List Char) (rest : List (List Char)) :
    slashed (segment :: rest) = segment ++ '/' :: slashed rest := by
  simp [slashed]

theorem segments_slashed_append {dirs : List (List Char)} (hdirs : ∀ dir ∈ dirs, '/' ∉ dir)
    {name : List Char} (hname : '/' ∉ name) : segments (slashed dirs ++ name) = dirs ++ [name] := by
  induction dirs with
  | nil => exact segments_of_not_mem hname
  | cons first rest ih =>
      rw [List.forall_mem_cons] at hdirs
      rw [slashed_cons, List.append_assoc, List.cons_append, segments_append_slash hdirs.1,
        ih hdirs.2]
      rfl

/-- A path is the text of its directory and a last segment. -/
theorem exists_slashed_append (path : List Char) :
    ∃ dirs name, path = slashed dirs ++ name ∧ (∀ dir ∈ dirs, '/' ∉ dir) ∧ '/' ∉ name := by
  induction path with
  | nil => exact ⟨[], [], rfl, by simp, by simp⟩
  | cons c rest ih =>
      obtain ⟨dirs, name, rfl, hdirs, hname⟩ := ih
      by_cases hslash : c = '/'
      · exact ⟨[] :: dirs, name, by simp [hslash, slashed_cons], by simpa using hdirs, hname⟩
      · cases dirs with
        | nil => exact ⟨[], c :: name, rfl, by simp, by simp [Ne.symm hslash, hname]⟩
        | cons first more =>
            rw [List.forall_mem_cons] at hdirs
            refine ⟨(c :: first) :: more, name, by simp [slashed_cons], ?_, hname⟩
            rw [List.forall_mem_cons]
            exact ⟨by simp [Ne.symm hslash, hdirs.1], hdirs.2⟩

theorem joinSegments_append (dirs : List (List Char)) (name : List Char) :
    joinSegments (dirs ++ [name]) = slashed dirs ++ name := by
  induction dirs with
  | nil => rfl
  | cons first rest ih =>
      have hmore : rest ++ [name] ≠ [] := by simp
      rw [List.cons_append, joinSegments, ih, slashed_cons, List.append_assoc, List.cons_append]
      exact hmore

/-! ## Directories -/

/-- The segments before the last one. -/
def directorySegments (path : List Char) : List (List Char) := (segments path).dropLast

/-- The directory of a path, as it is written. -/
def directoryText (path : List Char) : List Char := slashed (directorySegments path)

/-- The segments that are left when empty segments and dot segments are taken
away. -/
def plainSegments (dirs : List (List Char)) : List (List Char) :=
  resolveDots [] (dirs.filter (!·.isEmpty))

/-- The empty segment before the root, if the segments start there. -/
def rootSegments (dirs : List (List Char)) : List (List Char) :=
  if dirs.head? = some [] then [[]] else []

def withoutDots (dirs : List (List Char)) : List (List Char) :=
  rootSegments dirs ++ plainSegments dirs

/-- The directory of a path without dot segments. -/
def plainDirectory (path : List Char) : List Char := slashed (withoutDots (directorySegments path))

theorem directorySegments_slashed_append {dirs : List (List Char)}
    (hdirs : ∀ dir ∈ dirs, '/' ∉ dir) {name : List Char} (hname : '/' ∉ name) :
    directorySegments (slashed dirs ++ name) = dirs := by
  rw [directorySegments, segments_slashed_append hdirs hname, List.dropLast_concat]

theorem resolveDots_sublist (done rest : List (List Char)) :
    (resolveDots done rest).Sublist (done.reverse ++ rest) := by
  induction rest generalizing done with
  | nil => simp [resolveDots]
  | cons segment rest ih =>
      have hlater : ∀ done : List (List Char),
          (done.reverse ++ rest).Sublist (done.reverse ++ segment :: rest) :=
        fun done => (List.sublist_cons_self _ _).append_left _
      unfold resolveDots
      split_ifs with hdots hdot
      · have hfewer : done.tail.reverse.Sublist done.reverse := (List.tail_sublist done).reverse
        exact (ih done.tail).trans ((hfewer.append_right rest).trans (hlater done))
      · exact (ih done).trans (hlater done)
      · simpa using ih (segment :: done)

theorem plainSegments_sublist (dirs : List (List Char)) :
    (plainSegments dirs).Sublist dirs :=
  (resolveDots_sublist [] _).trans List.filter_sublist

/-- The segment is a name: not empty, and not made of dots that mean the directory
itself or the one above. -/
def IsName (segment : List Char) : Prop := segment ≠ [] ∧ segment ≠ ['.'] ∧ segment ≠ ['.', '.']

theorem resolveDots_names {done rest : List (List Char)} (hdone : ∀ dir ∈ done, IsName dir)
    (hrest : ∀ dir ∈ rest, dir ≠ []) : ∀ dir ∈ resolveDots done rest, IsName dir := by
  induction rest generalizing done with
  | nil =>
      intro dir hmem
      exact hdone dir (List.mem_reverse.1 hmem)
  | cons segment rest ih =>
      rw [List.forall_mem_cons] at hrest
      unfold resolveDots
      split_ifs with hdots hdot
      · exact ih (fun dir hmem => hdone dir (List.mem_of_mem_tail hmem)) hrest.2
      · exact ih hdone hrest.2
      · refine ih ?_ hrest.2
        rw [List.forall_mem_cons]
        exact ⟨⟨hrest.1, hdot, hdots⟩, hdone⟩

theorem isName_of_mem_plainSegments {dirs : List (List Char)} :
    ∀ dir ∈ plainSegments dirs, IsName dir := by
  apply resolveDots_names
  · simp
  · intro dir hmem
    simpa using (List.mem_filter.1 hmem).2

theorem resolveDots_of_names {done rest : List (List Char)} (hrest : ∀ dir ∈ rest, IsName dir) :
    resolveDots done rest = done.reverse ++ rest := by
  induction rest generalizing done with
  | nil => simp [resolveDots]
  | cons segment rest ih =>
      rw [List.forall_mem_cons] at hrest
      obtain ⟨⟨-, hdot, hdots⟩, hnames⟩ := hrest
      rw [resolveDots, if_neg hdots, if_neg hdot, ih hnames]
      simp

theorem plainSegments_of_names {dirs : List (List Char)} (hdirs : ∀ dir ∈ dirs, IsName dir) :
    plainSegments dirs = dirs := by
  have hkept : dirs.filter (!·.isEmpty) = dirs := by
    rw [List.filter_eq_self]
    intro dir hmem
    simpa using (hdirs dir hmem).1
  rw [plainSegments, hkept, resolveDots_of_names hdirs]
  rfl

theorem rootSegments_withoutDots (dirs : List (List Char)) :
    rootSegments (withoutDots dirs) = rootSegments dirs := by
  unfold withoutDots
  by_cases hroot : dirs.head? = some []
  · simp [rootSegments, hroot]
  · have hplain : (plainSegments dirs).head? ≠ some [] :=
      fun hhead => (isName_of_mem_plainSegments [] (List.mem_of_mem_head? hhead)).1 rfl
    simp [rootSegments, hroot, hplain]

theorem withoutDots_withoutDots (dirs : List (List Char)) :
    withoutDots (withoutDots dirs) = withoutDots dirs := by
  have hplain : plainSegments (withoutDots dirs) = plainSegments (plainSegments dirs) := by
    unfold withoutDots rootSegments
    split_ifs
    · rfl
    · rfl
  rw [withoutDots, rootSegments_withoutDots, hplain,
    plainSegments_of_names isName_of_mem_plainSegments, withoutDots]

theorem resolveDots_append_name {done rest : List (List Char)} {name : List Char}
    (hname : IsName name) :
    resolveDots done (rest ++ [name]) = resolveDots done rest ++ [name] := by
  induction rest generalizing done with
  | nil =>
      rw [List.nil_append, resolveDots_of_names (by simpa using hname)]
      rfl
  | cons segment rest ih =>
      rw [List.cons_append, resolveDots, resolveDots]
      split_ifs
      · exact ih
      · exact ih
      · exact ih

/-! ## Dots -/

/-- The segments never lead above the directory from which the one where they
start is some names down. -/
def staysBelow : Nat → List (List Char) → Bool
  | _, [] => true
  | depth, segment :: rest =>
      if segment = ['.', '.'] then 0 < depth && staysBelow (depth - 1) rest
      else if segment = [] ∨ segment = ['.'] then staysBelow depth rest
      else staysBelow (depth + 1) rest

/-- Segments that stay below a directory leave the way to it as it is. -/
theorem resolveDots_append_done {done : List (List Char)} (above : List (List Char))
    {rest : List (List Char)} (hbelow : staysBelow done.length rest = true) :
    resolveDots (done ++ above) (rest.filter (!·.isEmpty)) =
      above.reverse ++ resolveDots done (rest.filter (!·.isEmpty)) := by
  induction rest generalizing done with
  | nil => simp [resolveDots]
  | cons segment rest ih =>
      by_cases hempty : segment = []
      · subst hempty
        exact ih hbelow
      rw [List.filter_cons_of_pos (by simpa using hempty), resolveDots, resolveDots]
      rw [staysBelow] at hbelow
      by_cases hdots : segment = ['.', '.']
      · simp only [hdots, if_true] at hbelow ⊢
        cases done with
        | nil => simp at hbelow
        | cons last done => exact ih (by simpa using hbelow)
      by_cases hdot : segment = ['.']
      · simp only [hdot, or_true, if_true] at hbelow ⊢
        exact ih hbelow
      simp only [hdots, hdot, hempty, or_self, if_false] at hbelow ⊢
      exact @ih (segment :: done) hbelow

/-! ## Names that are read as paths -/

/-- The character ends the path of an address, or is passed over there. -/
def isAddressMark (c : Char) : Bool :=
  c == '?' || c == '#' || c == '\t' || c == '\r' || c == '\n'

/-- The character ends the last segment of a path in an address. -/
def endsSegment (c : Char) : Bool := c == '?' || c == '#' || c == ';'

/-- Nothing in the directory of a path has a meaning in an address or is passed
over there, and the path is not taken for a scheme or an authority.  Its dot
segments stay below the directory where it starts.  In a path without a directory
something is left of the name. -/
structure IsReadAsPath (path : List Char) : Prop where
  marks : ∀ c ∈ directoryText path, isAddressMark c = false
  start : ∀ c ∈ (directoryText path).head?, 0x20 < c.toNat
  scheme : (splitScheme "" (cleaned path)).1 = ""
  authority : ¬ ['/', '/'] <+: path
  below : staysBelow 0 (directorySegments path) = true
  named : directoryText path = [] → ∃ c ∈ (cleaned path).head?, endsSegment c = false

instance (path : List Char) : Decidable (IsReadAsPath path) :=
  decidable_of_iff
    ((directoryText path).all (fun c => !isAddressMark c) = true ∧
      (directoryText path).head?.all (fun c => 0x20 < c.toNat) = true ∧
      (splitScheme "" (cleaned path)).1 = "" ∧ ¬ ['/', '/'] <+: path ∧
      staysBelow 0 (directorySegments path) = true ∧
      (directoryText path = [] → (cleaned path).head?.any (fun c => !endsSegment c) = true))
    (by
      rw [List.all_eq_true, Option.all_eq_true, Option.any_eq_true]
      simp only [Bool.not_eq_true', decide_eq_true_eq]
      exact ⟨fun ⟨hmarks, hstart, hscheme, hauthority, hbelow, hnamed⟩ =>
          ⟨hmarks, hstart, hscheme, hauthority, hbelow, hnamed⟩,
        fun h => ⟨h.marks, h.start, h.scheme, h.authority, h.below, h.named⟩⟩)

example : IsReadAsPath "./a;b/../c d/p#1.xml".toList ∧ IsReadAsPath "/a/./b:c/p.xml".toList := by
  decide +kernel

example : ¬ IsReadAsPath "a#b/p.xml".toList ∧ ¬ IsReadAsPath "a?b/p.xml".toList ∧
    ¬ IsReadAsPath "c:d/p.xml".toList ∧ ¬ IsReadAsPath " a/p.xml".toList ∧
    ¬ IsReadAsPath "//p.xml".toList ∧ ¬ IsReadAsPath "/a/../../p.xml".toList := by
  decide +kernel

theorem splitScheme_of_empty {url : List Char} (hscheme : (splitScheme "" url).1 = "") :
    splitScheme "" url = ("", url) := by
  unfold splitScheme at hscheme ⊢
  cases hcut : cut ':' url with
  | mk before rest =>
      rw [hcut] at hscheme
      cases rest with
      | none => rfl
      | some rest =>
          dsimp only at hscheme ⊢
          split_ifs at hscheme ⊢ with hword
          · -- A scheme starts with a letter, so it is not empty.
            cases before with
            | nil => simp at hword
            | cons c more => simp at hscheme
          · rfl

section

variable {mark : Char} {s before : List Char} {after : Option (List Char)}

theorem cut_append {front : List Char} (hfront : mark ∉ front)
    (hcut : cut mark s = (before, after)) : cut mark (front ++ s) = (front ++ before, after) := by
  have hbefore : (front ++ s).takeWhile (· ≠ mark) = front ++ s.takeWhile (· ≠ mark) := by
    apply List.takeWhile_append_of_pos
    intro c hmem
    have hne : c ≠ mark := by
      rintro rfl
      exact hfront hmem
    simpa using hne
  unfold cut at hcut ⊢
  rw [hbefore]
  simp only [List.length_append, Nat.add_left_cancel_iff] at hcut ⊢
  split at hcut
  next hwhole =>
    obtain ⟨rfl, rfl⟩ := Prod.mk.inj hcut
    rw [if_pos hwhole]
  next hpart =>
    obtain ⟨rfl, rfl⟩ := Prod.mk.inj hcut
    rw [if_neg hpart, Nat.add_assoc, List.drop_append]
    simp

theorem cut_sublist (hcut : cut mark s = (before, after)) : before.Sublist s := by
  unfold cut at hcut
  dsimp only at hcut
  split at hcut
  next =>
    obtain ⟨rfl, -⟩ := Prod.mk.inj hcut
    exact List.Sublist.refl s
  next =>
    obtain ⟨rfl, -⟩ := Prod.mk.inj hcut
    exact List.takeWhile_sublist _

theorem eq_of_cut_none (hcut : cut mark s = (before, none)) : before = s := by
  unfold cut at hcut
  dsimp only at hcut
  split at hcut
  next => exact (congrArg Prod.fst hcut).symm
  next => simp at hcut

theorem head?_of_cut {c : Char} (hcut : cut mark s = (before, after)) (hc : s.head? = some c)
    (hne : c ≠ mark) : before.head? = some c := by
  cases s with
  | nil => simp at hc
  | cons first rest =>
      obtain rfl : first = c := by simpa using hc
      unfold cut at hcut
      simp only [List.takeWhile_cons, hne, ne_eq, not_false_eq_true, decide_true, if_true] at hcut
      split at hcut
      next =>
        obtain ⟨rfl, -⟩ := Prod.mk.inj hcut
        rfl
      next =>
        obtain ⟨rfl, -⟩ := Prod.mk.inj hcut
        rfl

end

theorem takeWhile_ne_slash {name : List Char} (hname : '/' ∉ name) :
    ∀ c ∈ name.reverse, decide (c ≠ '/') = true := by
  intro c hmem
  have hne : c ≠ '/' := by
    rintro rfl
    exact hname (List.mem_reverse.1 hmem)
  simpa using hne

theorem takeWhile_slashed_append (dirs : List (List Char)) {name : List Char}
    (hname : '/' ∉ name) : (slashed dirs ++ name).reverse.takeWhile (· ≠ '/') = name.reverse := by
  rw [List.reverse_append, List.takeWhile_append_of_pos (takeWhile_ne_slash hname)]
  -- The text of a directory ends with a slash.
  cases dirs.eq_nil_or_concat with
  | inl hnone => simp [hnone, slashed]
  | inr hlast =>
      obtain ⟨front, last, rfl⟩ := hlast
      simp [slashed]

theorem splitParameters_slashed_append (dirs : List (List Char)) {name segment : List Char}
    {parameters : Option (List Char)} (hname : '/' ∉ name)
    (hcut : cut ';' name = (segment, parameters)) :
    splitParameters (slashed dirs ++ name) = (slashed dirs ++ segment, parameters.getD []) := by
  unfold splitParameters
  simp only [takeWhile_slashed_append dirs hname, List.reverse_reverse, List.length_append,
    Nat.add_sub_cancel, List.take_left, hcut]
  cases parameters with
  | none => rw [eq_of_cut_none hcut, Option.getD_none]
  | some parameters => rfl

theorem cleaned_slashed_append {dirs : List (List Char)} {name : List Char}
    (hname : '/' ∉ name)
    (hmarks : ∀ c ∈ slashed dirs, isAddressMark c = false)
    (hstart : ∀ c ∈ (slashed dirs).head?, 0x20 < c.toNat) :
    ∃ rest, cleaned (slashed dirs ++ name) = slashed dirs ++ rest ∧ '/' ∉ rest := by
  have hslash : ∀ s : List Char, s.Sublist name → '/' ∉ s :=
    fun s hsublist hmem => hname (hsublist.subset hmem)
  cases hdirectory : slashed dirs with
  | nil =>
      refine ⟨cleaned name, rfl, hslash _ ?_⟩
      exact List.filter_sublist.trans (List.dropWhile_sublist _)
  | cons first more =>
      rw [hdirectory] at hmarks hstart
      have hvisible : (first :: more ++ name).dropWhile (·.toNat ≤ 0x20) =
          first :: more ++ name := by
        rw [List.cons_append]
        apply List.dropWhile_cons_of_neg
        simpa using hstart first rfl
      have hkept : (first :: more).filter (fun c => c ≠ '\t' && c ≠ '\r' && c ≠ '\n') =
          first :: more := by
        rw [List.filter_eq_self]
        intro c hmem
        have hc := hmarks c hmem
        simp only [isAddressMark, Bool.or_eq_false_iff, beq_eq_false_iff_ne] at hc
        simp [hc]
      refine ⟨name.filter fun c => c ≠ '\t' && c ≠ '\r' && c ≠ '\n', ?_,
        hslash _ List.filter_sublist⟩
      rw [cleaned, hvisible, List.filter_append, hkept]

theorem splitAuthority_of_not_double {url : List Char} (hsingle : ¬ ['/', '/'] <+: url) :
    splitAuthority url = .ok ([], url) := by
  unfold splitAuthority
  split
  next rest => exact absurd (List.prefix_append ['/', '/'] rest) hsingle
  next => rfl

/-- Whether two slashes begin a path is not seen from its name. -/
theorem not_double_append {front last rest : List Char} (hsingle : ¬ ['/', '/'] <+: front ++ last)
    (hrest : '/' ∉ rest) : ¬ ['/', '/'] <+: front ++ rest := by
  intro hdouble
  have hmem {more : List Char} (hstarts : '/' :: more <+: rest) : '/' ∈ rest :=
    hstarts.subset List.mem_cons_self
  match front with
  | [] => exact hrest (hmem hdouble)
  | [_] =>
      rw [List.singleton_append, List.cons_prefix_cons] at hdouble
      exact hrest (hmem hdouble.2)
  | first :: second :: more =>
      simp only [List.cons_append, List.cons_prefix_cons, List.nil_prefix, and_true]
        at hsingle hdouble
      exact hsingle hdouble

/-- Such a path is read as a path with the same directory. -/
theorem IsReadAsPath.split_eq {path : List Char} (h : IsReadAsPath path) :
    ∃ name parameters query fragment,
      split path "" = .ok { scheme := "", authority := []
                            path := directoryText path ++ name, parameters, query, fragment } ∧
        '/' ∉ name ∧ (directoryText path = [] → name ≠ []) := by
  obtain ⟨dirs, last, hpath, hdirs, hlast⟩ := exists_slashed_append path
  have hdirectory : directoryText path = slashed dirs := by
    rw [directoryText, hpath, directorySegments_slashed_append hdirs hlast]
  obtain ⟨hmarks, hstart, hscheme, hsingle, -, hnamed⟩ := h
  rw [hdirectory] at hmarks hstart hnamed ⊢
  have hmark : ∀ mark, isAddressMark mark = true → mark ∉ slashed dirs := by
    intro mark hmark hmem
    simp [hmarks mark hmem] at hmark
  obtain ⟨rest, hcleaned, hrest⟩ := cleaned_slashed_append hlast hmarks hstart
  rw [← hpath] at hcleaned
  rw [hpath] at hsingle
  have hauthority : splitAuthority (slashed dirs ++ rest) = .ok ([], slashed dirs ++ rest) :=
    splitAuthority_of_not_double (not_double_append hsingle hrest)
  cases hfragment : cut '#' rest with | mk beforeFragment fragment =>
  cases hquery : cut '?' beforeFragment with | mk beforeQuery query =>
  cases hsegment : cut ';' beforeQuery with | mk name parameters =>
  have hfragment' := cut_append (hmark '#' rfl) hfragment
  have hquery' := cut_append (hmark '?' rfl) hquery
  have hplain : '/' ∉ beforeQuery := by
    intro hmem
    exact hrest ((cut_sublist hfragment).subset ((cut_sublist hquery).subset hmem))
  have hparameters := splitParameters_slashed_append dirs hplain hsegment
  refine ⟨name, parameters.getD [], query.getD [], fragment.getD [], ?_, ?_, ?_⟩
  · unfold split
    rw [splitScheme_of_empty hscheme, hcleaned]
    simp only [hauthority, ok_bind, hfragment', hquery', hparameters]
    rfl
  · intro hmem
    exact hplain ((cut_sublist hsegment).subset hmem)
  · intro hnone
    obtain ⟨c, hhead, hc⟩ := hnamed hnone
    rw [hcleaned, hnone, List.nil_append] at hhead
    simp only [endsSegment, Bool.or_eq_false_iff, beq_eq_false_iff_ne] at hc
    have hkept : name.head? = some c :=
      head?_of_cut hsegment (head?_of_cut hquery (head?_of_cut hfragment hhead hc.1.2) hc.1.1) hc.2
    rintro rfl
    simp at hkept

/-! ## Joined paths -/

theorem dropInnerEmpty_append (first : List Char) (rest : List (List Char)) (name : List Char) :
    dropInnerEmpty (first :: rest ++ [name]) = first :: rest.filter (!·.isEmpty) ++ [name] := by
  rw [List.cons_append, dropInnerEmpty]
  simp

/-- The segments of a joined path: without empty segments, but for the one before
the root, and without dot segments. -/
theorem resolveDots_dropInnerEmpty {dirs : List (List Char)}
    (hbelow : staysBelow 0 dirs = true) {name : List Char} (hname : IsName name) :
    resolveDots [] (dropInnerEmpty (dirs ++ [name])) =
      withoutDots dirs ++ [name] := by
  cases dirs with
  | nil =>
      have hnames : ∀ dir ∈ [name], IsName dir := by simpa using hname
      exact @resolveDots_of_names [] _ hnames
  | cons first rest =>
      rw [dropInnerEmpty_append, resolveDots_append_name hname]
      congr 1
      by_cases hroot : first = []
      · subst hroot
        exact @resolveDots_append_done [] [[]] rest hbelow
      · have hhead : (first :: rest).head? ≠ some [] := by simpa using hroot
        have hkept : (first :: rest).filter (!·.isEmpty) = first :: rest.filter (!·.isEmpty) :=
          List.filter_cons_of_pos (by simpa using hroot)
        rw [withoutDots, rootSegments, if_neg hhead, plainSegments, hkept, List.nil_append]

theorem joinPaths_slashed_append {dirs : List (List Char)} {last name : List Char}
    (hdirs : ∀ dir ∈ dirs, '/' ∉ dir) (hbelow : staysBelow 0 dirs = true)
    (hlast : '/' ∉ last) (hnamed : dirs = [] → last ≠ []) (hslash : '/' ∉ name)
    (hname : IsName name) :
    joinPaths (slashed dirs ++ last) name = slashed (withoutDots dirs) ++ name := by
  have hhead : name.head? ≠ some '/' := fun hhead => hslash (List.mem_of_mem_head? hhead)
  have hall : dropInnerEmpty ((if (dirs ++ [last]).getLast? = some [] then dirs ++ [last]
      else (dirs ++ [last]).dropLast) ++ [name]) = dropInnerEmpty (dirs ++ [name]) := by
    split
    next hempty =>
      obtain rfl : last = [] := by simpa using hempty
      cases dirs with
      | nil => exact absurd rfl (hnamed rfl)
      | cons first rest =>
          rw [List.cons_append, dropInnerEmpty_append, dropInnerEmpty_append]
          simp
    next => rw [List.dropLast_concat]
  have hend : (dropInnerEmpty (dirs ++ [name])).getLast? = some name := by
    cases dirs with
    | nil => rfl
    | cons first rest => rw [dropInnerEmpty_append, List.getLast?_concat]
  unfold joinPaths
  simp only [segments_slashed_append hdirs hlast, segments_of_not_mem hslash, hhead, if_false, hall,
    hend, resolveDots_dropInnerEmpty hbelow hname]
  rw [if_neg (not_or.2 hname.2), joinSegments_append]
  simp [hname.1]

theorem joinParts_of_not_double {path : List Char} (hsingle : ¬ ['/', '/'] <+: path) :
    joinParts { scheme := "", authority := [], path, parameters := [], query := []
                fragment := [] } = path := by
  have hroot : ['/', '/'].isPrefixOf path = false := by
    rwa [← Bool.not_eq_true, List.isPrefixOf_iff_prefix]
  simp [joinParts, withMark, hroot]

theorem not_mem_directorySegments (path : List Char) :
    ∀ dir ∈ directorySegments path, '/' ∉ dir := by
  obtain ⟨dirs, last, rfl, hdirs, hlast⟩ := exists_slashed_append path
  rwa [directorySegments_slashed_append hdirs hlast]

theorem not_mem_plainSegments (path : List Char) :
    ∀ dir ∈ plainSegments (directorySegments path), '/' ∉ dir :=
  fun dir hmem => not_mem_directorySegments path dir ((plainSegments_sublist _).subset hmem)

theorem not_mem_withoutDots (path : List Char) :
    ∀ dir ∈ withoutDots (directorySegments path), '/' ∉ dir := by
  unfold withoutDots rootSegments
  intro dir hmem
  rcases List.mem_append.1 hmem with hroot | hplain
  · split_ifs at hroot
    · simp [List.mem_singleton.1 hroot]
    · simp at hroot
  · exact not_mem_plainSegments path dir hplain

/-- A path starts at the root exactly if its first segment is empty. -/
theorem head?_eq_slash_iff (path : List Char) :
    path.head? = some '/' ↔ (directorySegments path).head? = some [] := by
  obtain ⟨dirs, last, rfl, hdirs, hlast⟩ := exists_slashed_append path
  rw [directorySegments_slashed_append hdirs hlast]
  match dirs with
  | [] =>
      have hhead : last.head? ≠ some '/' := fun hhead => hlast (List.mem_of_mem_head? hhead)
      simpa [slashed] using hhead
  | [] :: rest => simp [slashed]
  | (c :: more) :: rest =>
      have hc : c ≠ '/' := by
        rintro rfl
        exact hdirs _ List.mem_cons_self List.mem_cons_self
      simp [slashed, hc]

theorem directorySegments_plainDirectory_append (path : List Char) {name : List Char}
    (hslash : '/' ∉ name) :
    directorySegments (plainDirectory path ++ name) = withoutDots (directorySegments path) :=
  directorySegments_slashed_append (not_mem_withoutDots path) hslash

/-- Without dot segments no two slashes stand at the start. -/
theorem not_double_plainDirectory_append (path : List Char) {name : List Char}
    (hslash : '/' ∉ name) : ¬ ['/', '/'] <+: plainDirectory path ++ name := by
  have hnames : ∀ dir ∈ plainSegments (directorySegments path), IsName dir :=
    isName_of_mem_plainSegments
  have hfree := not_mem_plainSegments path
  have hplain : (slashed (plainSegments (directorySegments path)) ++ name).head? ≠ some '/' := by
    cases hsegments : plainSegments (directorySegments path) with
    | nil => exact fun hhead => hslash (List.mem_of_mem_head? hhead)
    | cons first rest =>
        rw [hsegments, List.forall_mem_cons] at hnames hfree
        rw [slashed_cons, List.append_assoc, List.head?_append_of_ne_nil _ hnames.1.1]
        exact fun hhead => hfree.1 (List.mem_of_mem_head? hhead)
  have hhead {rest more : List Char} (hstarts : '/' :: more <+: rest) : rest.head? = some '/' := by
    obtain ⟨after, rfl⟩ := hstarts
    rfl
  unfold plainDirectory withoutDots rootSegments
  intro hdouble
  split_ifs at hdouble
  · rw [List.singleton_append, slashed_cons, List.nil_append, List.cons_append,
      List.cons_prefix_cons] at hdouble
    exact hplain (hhead hdouble.2)
  · exact hplain (hhead hdouble)

theorem ne_nil_of_isReadAsPath {path : List Char} (h : IsReadAsPath path) : path ≠ [] := by
  rintro rfl
  obtain ⟨c, hhead, -⟩ := h.named rfl
  simp [cleaned] at hhead

end Url

theorem IsFileName.not_slash {name : String} (h : IsFileName name) : '/' ∉ name.toList :=
  h.isUnmarked.not_mem (by decide)

theorem IsFileName.isName {name : String} (h : IsFileName name) : Url.IsName name.toList :=
  ⟨by simpa using h.ne_empty, fun heq => h.ne_dot (String.toList_inj.1 heq),
    fun heq => h.ne_dots (String.toList_inj.1 heq)⟩

/-- The directory of a path as it is written, with a slash at its end. -/
def directoryOf (path : String) : String := String.ofList (Url.directoryText path.toList)

/-- The directory of a path without dot segments. -/
def plainDirectoryOf (path : String) : String := String.ofList (Url.plainDirectory path.toList)

/-- A plain name is resolved to the file of that name in the directory of a path
that is read as one. -/
theorem Url.join_of_isReadAsPath {path name : String} (hpath : IsReadAsPath path.toList)
    (hname : IsFileName name) : Url.join path name = .ok (plainDirectoryOf path ++ name) := by
  obtain ⟨last, parameters, query, fragment, hsplit, hlast, hnamed⟩ := hpath.split_eq
  have hnamed' : directorySegments path.toList = [] → last ≠ [] := by
    intro hnone
    apply hnamed
    simp [directoryText, hnone, slashed]
  have hjoined : joinPaths (directoryText path.toList ++ last) name.toList =
      plainDirectory path.toList ++ name.toList :=
    joinPaths_slashed_append (not_mem_directorySegments _) hpath.below hlast hnamed'
      hname.not_slash hname.isName
  have hsingle : ¬ ['/', '/'] <+: plainDirectory path.toList ++ name.toList :=
    not_double_plainDirectory_append _ hname.not_slash
  have hlists : joinLists path.toList name.toList =
      .ok (plainDirectory path.toList ++ name.toList) := by
    unfold joinLists
    simp [ne_nil_of_isReadAsPath hpath, hname.isName.1, hsplit, hname.isUnmarked.split_eq,
      relativeSchemes, authoritySchemes, hjoined, joinParts_of_not_double hsingle]
  unfold join
  rw [hlists]
  show Except.ok (String.ofList (plainDirectory path.toList ++ name.toList)) = _
  rw [String.ofList_append, String.ofList_toList]
  rfl

theorem IsFileName.directorySegments_eq {name : String} (hname : IsFileName name) :
    Url.directorySegments name.toList = [] := by
  rw [Url.directorySegments, Url.segments_of_not_mem hname.not_slash]
  rfl

theorem IsFileName.isReadAsPath {name : String} (hname : IsFileName name) :
    Url.IsReadAsPath name.toList := by
  have hdirectory : Url.directoryText name.toList = [] := by
    rw [Url.directoryText, hname.directorySegments_eq]
    rfl
  have hscheme : Url.splitScheme "" name.toList = ("", name.toList) := by
    unfold Url.splitScheme
    rw [Url.cut_of_not_mem (hname.isUnmarked.not_mem (by decide))]
  refine ⟨?_, ?_, ?_, ?_, ?_, ?_⟩
  · simp [hdirectory]
  · simp [hdirectory]
  · rw [hname.isUnmarked.cleaned_eq, hscheme]
  · exact fun hdouble => hname.not_slash (hdouble.subset List.mem_cons_self)
  · rw [hname.directorySegments_eq]
    rfl
  · intro _
    rw [hname.isUnmarked.cleaned_eq]
    cases hletters : name.toList with
    | nil => exact absurd hletters hname.isName.1
    | cons c rest =>
        have hmem : c ∈ name.toList := by simp [hletters]
        have hends : Url.endsSegment c = false := by
          simp only [Url.endsSegment, Bool.or_eq_false_iff, beq_eq_false_iff_ne]
          refine ⟨⟨?_, ?_⟩, ?_⟩
          all_goals
            rintro rfl
            exact hname.isUnmarked.not_mem (by decide) hmem
        exact ⟨c, rfl, hends⟩

/-- A plain name is taken as it is, whatever plain name it is resolved against. -/
theorem Url.join_of_isFileName {base name : String} (hbase : IsFileName base)
    (hname : IsFileName name) : Url.join base name = .ok name := by
  have hnone : plainDirectoryOf base = "" := by
    rw [plainDirectoryOf, plainDirectory, hbase.directorySegments_eq]
    rfl
  rw [join_of_isReadAsPath hbase.isReadAsPath hname, hnone, String.empty_append]

/-- In a directory without dot segments a file has the same directory again. -/
theorem plainDirectoryOf_plainDirectoryOf_append (path : String) {name : String}
    (hname : IsFileName name) :
    plainDirectoryOf (plainDirectoryOf path ++ name) = plainDirectoryOf path := by
  have hplain : Url.plainDirectory (plainDirectoryOf path ++ name).toList =
      Url.plainDirectory path.toList := by
    rw [Url.plainDirectory, plainDirectoryOf, String.toList_append, String.toList_ofList,
      Url.directorySegments_plainDirectory_append _ hname.not_slash, Url.withoutDots_withoutDots]
    rfl
  exact congrArg String.ofList hplain

end PolicyKeeper
