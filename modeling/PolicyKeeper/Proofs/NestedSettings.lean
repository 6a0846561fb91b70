import Mathlib.Data.List.Induction
import PolicyKeeper.Proofs.OutlineEquality
import PolicyKeeper.Proofs.SettingsInterruptions

/-!
# Nested settings

The mapping of a settings file leads to values, and each has a name: the texts
of the keys on the way to it, joined by dots.  Reading the file comes to taking
these names in the order of the file, where the last value of a name counts, so
it makes no difference how the names are spread over mappings inside mappings.
-/

namespace PolicyKeeper

namespace NamedValues

/-! ## Values put one after the other -/

theorem update_append (known front back : NamedValues) :
    known.update (front ++ back) = (known.update front).update back := by
  simp [update, List.foldl_append]

theorem update_append_singleton (known front : NamedValues) (last : String × OutlineValue) :
    known.update (front ++ [last]) = putEntry last.1 last.2 (known.update front) := by
  rw [update_append]
  rfl

theorem nodup_update {known newer : NamedValues} (hdistinct : (known.map (·.1)).Nodup) :
    ((known.update newer).map (·.1)).Nodup := by
  induction newer generalizing known with
  | nil => exact hdistinct
  | cons entry rest ih => exact ih (nodup_keys_putEntry hdistinct)

/-- The last value of a name counts. -/
theorem lookup_update (known newer : NamedValues) (name : String) :
    (known.update newer).lookup name = (newer.reverse.lookup name).or (known.lookup name) := by
  induction newer using List.reverseRecOn with
  | nil => rfl
  | append_singleton front last ih =>
      rw [update_append_singleton, lookup_putEntry, ih, List.reverse_append, List.reverse_singleton,
        List.singleton_append, lookup_cons_eq]
      split <;> rfl

theorem putEntry_update {known newer : NamedValues} {name : String} {value : OutlineValue}
    (hold : name ∈ known.map (·.1)) (hnew : name ∉ newer.map (·.1)) :
    putEntry name value (known.update newer) =
      NamedValues.update (putEntry name value known) newer := by
  induction newer generalizing known with
  | nil => rfl
  | cons entry rest ih =>
      rw [List.map_cons, List.mem_cons, not_or] at hnew
      have hlater : name ∈ (putEntry entry.1 entry.2 known).map (·.1) :=
        mem_keys_putEntry.2 (.inr hold)
      show putEntry name value (NamedValues.update (putEntry entry.1 entry.2 known) rest) =
        NamedValues.update (putEntry entry.1 entry.2 (putEntry name value known)) rest
      rw [ih hlater hnew.2, putEntry_comm hnew.1 hold]

theorem update_putEntry {known below : NamedValues} {name : String} {value : OutlineValue}
    (hdistinct : (below.map (·.1)).Nodup) :
    known.update (putEntry name value below) = putEntry name value (known.update below) := by
  induction below generalizing known with
  | nil => rfl
  | cons entry rest ih =>
      obtain ⟨other, old⟩ := entry
      rw [List.map_cons, List.nodup_cons] at hdistinct
      by_cases hother : other = name
      · -- The name has its place already, so what comes later leaves its value alone.
        subst hother
        have hthere : other ∈ (putEntry other old known).map (·.1) :=
          mem_keys_putEntry.2 (.inl rfl)
        have hsame : putEntry other value ((other, old) :: rest) = (other, value) :: rest := by
          simp [putEntry]
        rw [hsame]
        show NamedValues.update (putEntry other value known) rest =
          putEntry other value (NamedValues.update (putEntry other old known) rest)
        rw [putEntry_update hthere hdistinct.1, putEntry_putEntry_same]
      · have hcons : putEntry name value ((other, old) :: rest) =
            (other, old) :: putEntry name value rest := by
          simp [putEntry, hother]
        rw [hcons]
        exact ih hdistinct.2

/-- It makes no difference whether values are first put together by themselves. -/
theorem update_update (known newer : NamedValues) :
    known.update (NamedValues.update [] newer) = known.update newer := by
  induction newer using List.reverseRecOn with
  | nil => rfl
  | append_singleton front last ih =>
      have hdistinct : ((NamedValues.update [] front).map (·.1)).Nodup :=
        nodup_update List.Pairwise.nil
      rw [update_append_singleton, update_append_singleton, update_putEntry hdistinct, ih]

end NamedValues

namespace SettingsFile

/-! ## What a mapping leads to -/

/-- The text of a key.  An integer of too many digits has none. -/
def keyText (key : ScalarValue) : String := key.plainText.toOption.getD ""

mutual

/-- The values that entries lead to and that are no mappings, in order, each with
the texts of the keys on the way to it. -/
def leaves : List (ScalarValue × OutlineValue) → List (List String × OutlineValue)
  | [] => []
  | entry :: rest => leavesAt entry ++ leaves rest

def leavesAt : ScalarValue × OutlineValue → List (List String × OutlineValue)
  | (key, value) => (leavesIn value).map fun (keys, leaf) => (keyText key :: keys, leaf)

def leavesIn : OutlineValue → List (List String × OutlineValue)
  | .mapping entries => leaves entries
  | value => [([], value)]

end

theorem leaves_mapping (key : ScalarValue) (inner rest : List (ScalarValue × OutlineValue)) :
    leaves ((key, .mapping inner) :: rest) =
      (leaves inner).map (fun (keys, leaf) => (keyText key :: keys, leaf)) ++ leaves rest :=
  rfl

theorem leaves_plain (key : ScalarValue) {value : OutlineValue}
    (hplain : ∀ inner, value ≠ .mapping inner) (rest : List (ScalarValue × OutlineValue)) :
    leaves ((key, value) :: rest) = ([keyText key], value) :: leaves rest := by
  cases value with
  | mapping inner => exact absurd rfl (hplain inner)
  | scalar | list | pairs | set | enclosing | bottomless => rfl

/-- What holds of entries when it holds of those in their mappings and of those
that follow. -/
theorem entries_induction {motive : List (ScalarValue × OutlineValue) → Prop}
    (nil : motive [])
    (mapping : ∀ key inner rest, motive inner → motive rest →
      motive ((key, .mapping inner) :: rest))
    (plain : ∀ key value rest, (∀ inner, value ≠ .mapping inner) → motive rest →
      motive ((key, value) :: rest)) :
    ∀ entries, motive entries
  | [] => nil
  | (key, .mapping inner) :: rest =>
      mapping key inner rest (entries_induction nil mapping plain inner)
        (entries_induction nil mapping plain rest)
  | (key, .scalar _) :: rest | (key, .list _) :: rest | (key, .pairs _) :: rest
  | (key, .set _) :: rest | (key, .enclosing _) :: rest | (key, .bottomless) :: rest =>
      plain key _ rest (by simp) (entries_induction nil mapping plain rest)

/-- The texts of keys joined by dots; empty ones in front do not count. -/
def dotted (keys : List String) : String := ".".intercalate (keys.dropWhile (· = ""))

def namedLeaves (entries : List (ScalarValue × OutlineValue)) : NamedValues :=
  (leaves entries).map fun (keys, value) => (dotted keys, value)

theorem plainText_eq_keyText {key : ScalarValue} (hwritable : ¬ key.HoldsUnwritable) :
    key.plainText = .ok (keyText key) := by
  rw [← ScalarValue.plainText_fails_iff] at hwritable
  unfold keyText
  cases htext : key.plainText with
  | ok text => rfl
  | error fault => exact absurd ⟨fault, htext⟩ hwritable

/-- The name of what a key leads to, below a name. -/
def under (above key : String) : String := if above = "" then key else above ++ "." ++ key

theorem nameBelow_eq {above : String} {key : ScalarValue} (hwritable : ¬ key.HoldsUnwritable) :
    nameBelow above key = .ok (under above (keyText key)) := by
  rw [nameBelow, plainText_eq_keyText hwritable]
  rfl

theorem foldl_under {above : String} (hnonempty : above ≠ "") (keys : List String) :
    keys.foldl under above = ".".intercalate (above :: keys) := by
  induction keys generalizing above with
  | nil => simp
  | cons key rest ih =>
      have hlonger : above ++ "." ++ key ≠ "" := by simp [hnonempty]
      rw [List.foldl_cons, under, if_neg hnonempty, ih hlonger, String.intercalate_cons_cons]
      cases rest with
      | nil => simp
      | cons next more =>
          rw [String.intercalate_cons_cons, String.intercalate_cons_cons]
          simp only [String.append_assoc]

theorem dotted_eq (keys : List String) : dotted keys = keys.foldl under "" := by
  unfold dotted
  induction keys with
  | nil => rfl
  | cons key rest ih =>
      by_cases hempty : key = ""
      · subst hempty
        exact ih
      · rw [List.dropWhile_cons_of_neg (by simpa using hempty), ← foldl_under hempty]
        rfl

/-! ## Flattening -/

theorem forall_hasName_mapping_cons {key : ScalarValue}
    {inner rest : List (ScalarValue × OutlineValue)} :
    (∀ entry ∈ (key, .mapping inner) :: rest, ¬ HasNoName entry) ↔
      ¬ key.HoldsUnwritable ∧ (∀ entry ∈ inner, ¬ HasNoName entry) ∧
        ∀ entry ∈ rest, ¬ HasNoName entry := by
  rw [List.forall_mem_cons, hasNoName_mapping, not_or, and_assoc]
  simp only [not_exists, not_and]

/-- A mapping inside a mapping adds its values as if they stood there one by
one. -/
theorem flattenInto_eq {above : String} {known : NamedValues}
    {entries : List (ScalarValue × OutlineValue)} (hnames : ∀ entry ∈ entries, ¬ HasNoName entry) :
    flattenInto above known entries =
      .ok (known.update ((leaves entries).map fun (keys, value) =>
        (keys.foldl under above, value))) := by
  induction above, known, entries using flattenInto.induct with
  | case1 above known => simp [flattenInto, leaves, NamedValues.update]
  | case2 above known key inner rest ihinner ihrest =>
      obtain ⟨hkey, hinner, hrest⟩ := forall_hasName_mapping_cons.1 hnames
      rw [flattenInto, nameBelow_eq hkey, ok_bind, ihinner _ hinner, ok_bind, ihrest _ hrest,
        NamedValues.update_update, leaves_mapping, List.map_append, NamedValues.update_append,
        List.map_map]
      rfl
  | case3 above known key rest => exact absurd .endless (hnames _ List.mem_cons_self)
  | case4 above known key value rest hmapping hendless ihrest =>
      rw [List.forall_mem_cons, hasNoName_of_plain hmapping hendless] at hnames
      rw [flattenInto, nameBelow_eq hnames.1, ok_bind, ihrest _ hnames.2,
        leaves_plain key hmapping]
      · rfl
      · exact hmapping
      · exact hendless

theorem flattened_eq {entries : List (ScalarValue × OutlineValue)}
    (hnames : ∀ entry ∈ entries, ¬ HasNoName entry) :
    flattened entries = .ok (NamedValues.update [] (namedLeaves entries)) := by
  rw [flattened, flattenInto_eq hnames, namedLeaves]
  simp only [dotted_eq]

/-! ## Names with an underscore -/

def renamedAll (renamings : List (String × String)) (values : NamedValues) : NamedValues :=
  renamings.foldl (fun values (former, name) => renamed former name values) values

/-- The former name that stands for a name. -/
def formerOf? (renamings : List (String × String)) (name : String) : Option String :=
  (renamings.find? fun (_, present) => present = name).map (·.1)

/-- The name with an underscore that stands for a name. -/
def formerName? (name : String) : Option String := formerOf? formerNames name

example : formerName? "hightide.rescan.interval" = some "hightide.rescan_interval" := by decide

theorem lookup_renamed {former name : String} {values : NamedValues} (hne : former ≠ name)
    (other : String) :
    (renamed former name values).lookup other =
      if other = former then none
      else if other = name then (values.lookup name).or (values.lookup former)
      else values.lookup other := by
  unfold renamed
  split
  next hnone =>
    by_cases hformer : other = former
    · rw [if_pos hformer, hformer, hnone]
    · rw [if_neg hformer]
      split
      next hname => rw [hname, hnone, Option.or_none]
      next => rfl
  next value hvalue =>
    have hothers : (dropEntry former values).lookup name = values.lookup name := by
      rw [lookup_dropEntry, if_neg (Ne.symm hne)]
    dsimp only
    rw [hothers]
    cases hpresent : values.lookup name with
    | some present =>
        rw [Option.isSome_some, if_pos rfl, lookup_dropEntry]
        by_cases hname : other = name
        · simp [hname, hpresent]
        · simp [hname]
    | none =>
        rw [Option.isSome_none, if_neg Bool.false_ne_true, lookup_putEntry, lookup_dropEntry]
        by_cases hname : other = name
        · simp [hname, Ne.symm hne, hvalue]
        · simp [hname]

theorem nodup_renamed {former name : String} {values : NamedValues}
    (hdistinct : (values.map (·.1)).Nodup) : ((renamed former name values).map (·.1)).Nodup := by
  unfold renamed
  split
  next => exact hdistinct
  next =>
    dsimp only
    split
    next => exact nodup_keys_dropEntry hdistinct
    next => exact nodup_keys_putEntry (nodup_keys_dropEntry hdistinct)

theorem formerOf?_cons (former present : String) (rest : List (String × String)) (name : String) :
    formerOf? ((former, present) :: rest) name =
      if present = name then some former else formerOf? rest name := by
  unfold formerOf?
  by_cases hname : present = name <;> simp [hname]

theorem formerOf?_eq_none {renamings : List (String × String)} {name : String}
    (hname : name ∉ renamings.map (·.2)) : formerOf? renamings name = none := by
  rw [formerOf?, Option.map_eq_none_iff, List.find?_eq_none]
  intro change hmem
  have hne : change.2 ≠ name := fun heq => hname (heq ▸ List.mem_map_of_mem hmem)
  simpa using hne

theorem mem_of_formerOf?_eq_some {renamings : List (String × String)} {name former : String}
    (hformer : formerOf? renamings name = some former) : former ∈ renamings.map (·.1) := by
  obtain ⟨change, hfound, rfl⟩ := Option.map_eq_some_iff.1 hformer
  exact List.mem_map_of_mem (List.mem_of_find?_eq_some hfound)

/-- No name is renamed twice, or to a name that is renamed. -/
theorem lookup_renamedAll {renamings : List (String × String)} {values : NamedValues}
    (hformers : (renamings.map (·.1)).Nodup) (hpresent : (renamings.map (·.2)).Nodup)
    (hapart : ∀ former ∈ renamings.map (·.1), former ∉ renamings.map (·.2)) (name : String) :
    (renamedAll renamings values).lookup name =
      if name ∈ renamings.map (·.1) then none
      else (values.lookup name).or
        ((formerOf? renamings name).bind fun former => values.lookup former) := by
  induction renamings generalizing values with
  | nil => simp [renamedAll, formerOf?]
  | cons change rest ih =>
      obtain ⟨former, present⟩ := change
      simp only [List.map_cons, List.nodup_cons] at hformers hpresent
      simp only [List.map_cons, List.mem_cons, not_or] at hapart
      obtain ⟨hne, hformer⟩ := hapart former (.inl rfl)
      have hothers : ∀ other ∈ rest.map (·.1), other ≠ present ∧ other ∉ rest.map (·.2) :=
        fun other hmem => hapart other (.inr hmem)
      have hrest := @ih (renamed former present values) hformers.2 hpresent.2
        fun other hmem => (hothers other hmem).2
      -- The later renamings touch neither of the two names, so the order does not matter.
      show (renamedAll rest (renamed former present values)).lookup name = _
      rw [hrest, lookup_renamed hne, formerOf?_cons]
      simp only [List.map_cons, List.mem_cons]
      by_cases hlater : name ∈ rest.map (·.1)
      · rw [if_pos hlater, if_pos (.inr hlater)]
      rw [if_neg hlater]
      by_cases hfirst : name = former
      · rw [if_pos hfirst, if_pos (.inl hfirst), formerOf?_eq_none (hfirst ▸ hformer)]
        rfl
      rw [if_neg hfirst, if_neg (not_or.2 ⟨hfirst, hlater⟩)]
      by_cases hname : name = present
      · rw [if_pos hname, if_pos hname.symm, formerOf?_eq_none (hname ▸ hpresent.1), hname]
        simp
      · rw [if_neg hname, if_neg (Ne.symm hname)]
        cases hold : formerOf? rest name with
        | none => rfl
        | some other =>
            have hmem := mem_of_formerOf?_eq_some hold
            have hother : other ≠ former := fun heq => hformers.1 (heq ▸ hmem)
            rw [Option.bind_some, Option.bind_some, lookup_renamed hne, if_neg hother,
              if_neg (hothers other hmem).1]

theorem nodup_renamedAll {renamings : List (String × String)} {values : NamedValues}
    (hdistinct : (values.map (·.1)).Nodup) : ((renamedAll renamings values).map (·.1)).Nodup := by
  induction renamings generalizing values with
  | nil => exact hdistinct
  | cons change rest ih => exact ih (nodup_renamed hdistinct)

/-- A value under a name with an underscore counts where there is none with a
dot. -/
theorem lookup_renamed_formerNames (values : NamedValues) (name : String) :
    (renamedAll formerNames values).lookup name =
      if name ∈ formerNames.map (·.1) then none
      else (values.lookup name).or ((formerName? name).bind fun former => values.lookup former) :=
  lookup_renamedAll (by decide) (by decide) (by decide) name

/-! ## Other mappings that lead to the same -/

/-- The value is a mapping, be it one that it is inside of. -/
inductive IsMapping : OutlineValue → Prop
  | mapping {entries : List (ScalarValue × OutlineValue)} : IsMapping (.mapping entries)
  | enclosing : IsMapping (.enclosing .mapping)

theorem not_isMapping_iff {value : OutlineValue} :
    ¬ IsMapping value ↔ (∀ inner, value ≠ .mapping inner) ∧ value ≠ .enclosing .mapping := by
  constructor
  · intro hplain
    refine ⟨?_, ?_⟩
    · rintro inner rfl
      exact hplain .mapping
    · rintro rfl
      exact hplain .enclosing
  · rintro ⟨hmapping, hendless⟩ (_ | _)
    · exact hmapping _ rfl
    · exact hendless rfl

theorem not_isMapping_of_mem_leaves {entries : List (ScalarValue × OutlineValue)}
    (hnames : ∀ entry ∈ entries, ¬ HasNoName entry) {leaf : List String × OutlineValue}
    (hmem : leaf ∈ leaves entries) : ¬ IsMapping leaf.2 := by
  induction entries using entries_induction generalizing leaf with
  | nil => cases hmem
  | mapping key inner rest ihinner ihrest =>
      obtain ⟨-, hinner, hrest⟩ := forall_hasName_mapping_cons.1 hnames
      rw [leaves_mapping, List.mem_append] at hmem
      rcases hmem with hmem | hmem
      · obtain ⟨⟨keys, value⟩, hbelow, rfl⟩ := List.mem_map.1 hmem
        have hvalue : ¬ IsMapping value := ihinner hinner hbelow
        exact hvalue
      · exact ihrest hrest hmem
  | plain key value rest hplain ihrest =>
      rw [List.forall_mem_cons] at hnames
      rw [leaves_plain key hplain, List.mem_cons] at hmem
      rcases hmem with rfl | hmem
      · refine not_isMapping_iff.2 ⟨hplain, ?_⟩
        rintro rfl
        exact hnames.1 .endless
      · exact ihrest hnames.2 hmem

theorem namedValues_mapping {path : String} {entries : List (ScalarValue × OutlineValue)}
    (hnames : ∀ entry ∈ entries, ¬ HasNoName entry) :
    namedValues path (.mapping entries) =
      .ok (renamedAll formerNames (NamedValues.update [] (namedLeaves entries))) := by
  unfold namedValues
  split
  next hempty =>
    obtain rfl := List.isEmpty_iff.1 hempty
    rfl
  next =>
    dsimp only
    rw [flattened_eq hnames]
    rfl

/-- The entries without the mappings that lead to no value. -/
def pruned : List (ScalarValue × OutlineValue) → List (ScalarValue × OutlineValue)
  | [] => []
  | (key, .mapping inner) :: rest =>
      if (leaves inner).isEmpty then pruned rest else (key, .mapping (pruned inner)) :: pruned rest
  | entry :: rest => entry :: pruned rest

theorem pruned_mapping (key : ScalarValue) (inner rest : List (ScalarValue × OutlineValue)) :
    pruned ((key, .mapping inner) :: rest) =
      if leaves inner = [] then pruned rest else (key, .mapping (pruned inner)) :: pruned rest := by
  rw [pruned]
  simp only [List.isEmpty_iff]

theorem pruned_plain (key : ScalarValue) {value : OutlineValue}
    (hplain : ∀ inner, value ≠ .mapping inner) (rest : List (ScalarValue × OutlineValue)) :
    pruned ((key, value) :: rest) = (key, value) :: pruned rest := by
  rw [pruned]
  intro other inner heq
  exact hplain inner (Prod.mk.inj heq).2

theorem leaves_pruned (entries : List (ScalarValue × OutlineValue)) :
    leaves (pruned entries) = leaves entries := by
  induction entries using entries_induction with
  | nil => rw [pruned]
  | mapping key inner rest ihinner ihrest =>
      rw [pruned_mapping, leaves_mapping]
      split
      next hempty =>
        rw [ihrest, hempty]
        rfl
      next => rw [leaves_mapping, ihinner, ihrest]
  | plain key value rest hplain ihrest =>
      rw [pruned_plain key hplain, leaves_plain key hplain, leaves_plain key hplain, ihrest]

theorem hasName_of_mem_pruned {entries : List (ScalarValue × OutlineValue)}
    (hnames : ∀ entry ∈ entries, ¬ HasNoName entry) :
    ∀ entry ∈ pruned entries, ¬ HasNoName entry := by
  induction entries using entries_induction with
  | nil => simp [pruned]
  | mapping key inner rest ihinner ihrest =>
      obtain ⟨hkey, hinner, hrest⟩ := forall_hasName_mapping_cons.1 hnames
      rw [pruned_mapping]
      split
      next => exact ihrest hrest
      next => exact forall_hasName_mapping_cons.2 ⟨hkey, ihinner hinner, ihrest hrest⟩
  | plain key value rest hplain ihrest =>
      rw [List.forall_mem_cons] at hnames
      rw [pruned_plain key hplain, List.forall_mem_cons]
      exact ⟨hnames.1, ihrest hnames.2⟩

/-- One mapping with all the values under their full names. -/
def oneLevel (values : NamedValues) : List (ScalarValue × OutlineValue) :=
  values.map fun (name, value) => (.text name, value)

theorem namedLeaves_oneLevel {values : NamedValues}
    (hvalues : ∀ entry ∈ values, ¬ IsMapping entry.2) : namedLeaves (oneLevel values) = values := by
  have hleaves : leaves (oneLevel values) = values.map fun (name, value) => ([name], value) := by
    induction values with
    | nil => rfl
    | cons entry rest ih =>
        obtain ⟨name, value⟩ := entry
        rw [List.forall_mem_cons] at hvalues
        show leaves ((.text name, value) :: oneLevel rest) = _
        rw [leaves_plain _ (not_isMapping_iff.1 hvalues.1).1, ih hvalues.2]
        rfl
  have hsame : ∀ name, dotted [name] = name := fun name => dotted_eq [name]
  rw [namedLeaves, hleaves, List.map_map]
  simp [Function.comp_def, hsame]

theorem hasName_of_mem_oneLevel {values : NamedValues}
    (hvalues : ∀ entry ∈ values, ¬ IsMapping entry.2) :
    ∀ entry ∈ oneLevel values, ¬ HasNoName entry := by
  intro entry hmem hentry
  obtain ⟨⟨name, value⟩, hvalue, rfl⟩ := List.mem_map.1 hmem
  obtain ⟨hmapping, hendless⟩ := not_isMapping_iff.1 (hvalues _ hvalue)
  cases (hasNoName_of_plain hmapping hendless).1 hentry

theorem not_holdsUnwritable_text (text : String) :
    ¬ (ScalarValue.text text).HoldsUnwritable := by
  rintro ⟨⟩

theorem hasName_text_scalar (name : String) (s : ScalarValue) :
    ¬ HasNoName (.text name, .scalar s) :=
  mt (hasNoName_of_plain (by simp) (by simp)).1 (not_holdsUnwritable_text name)

theorem distinct_oneLevel {values : NamedValues} (hdistinct : (values.map (·.1)).Nodup) :
    (oneLevel values).Pairwise fun first second => first.1.sameKey second.1 = false := by
  rw [oneLevel, List.pairwise_map]
  refine (List.pairwise_map.1 hdistinct).imp ?_
  intro first second hne
  exact decide_eq_false hne

/-! ## Files -/

/-- The file at a path is read as a mapping. -/
def ReadsAsMapping (store : FileStore τ) (path : String)
    (entries : List (ScalarValue × OutlineValue)) : Prop :=
  ∃ octets, store.read path = .ok octets ∧ outlineOf path octets = .ok (.mapping entries)

theorem read_of_readsAsMapping {store : FileStore τ} {path : String}
    {entries : List (ScalarValue × OutlineValue)} (hmapping : ReadsAsMapping store path entries) :
    read store path = namedValues path (.mapping entries) := by
  obtain ⟨octets, hread, houtline⟩ := hmapping
  rw [read, readWith, hread, mapError_ok, ok_bind, houtline, ok_bind]

/-- The values of a settings file are those that its mapping leads to, each
under the texts of the keys on the way, joined by dots.  The last value of a
name counts, and a value under a name with an underscore where there is none
under the name with a dot.  So no name with an underscore is left and no mapping
is a value, mappings that lead to no value add nothing, and one mapping with
all values under their full names gives the same. -/
theorem nested_settings_are_dotted {store : FileStore τ} {path : String}
    {entries : List (ScalarValue × OutlineValue)} (hmapping : ReadsAsMapping store path entries)
    (hnames : ∀ entry ∈ entries, ¬ HasNoName entry) :
    ∃ values, read store path = .ok values ∧ (values.map (·.1)).Nodup ∧
      (∀ name, values.lookup name =
        if name ∈ formerNames.map (·.1) then none
        else ((namedLeaves entries).reverse.lookup name).or
          ((formerName? name).bind fun former => (namedLeaves entries).reverse.lookup former)) ∧
      (∀ name value, (name, value) ∈ values →
        name ∉ formerNames.map (·.1) ∧ ¬ IsMapping value) ∧
      (∀ place, namedValues place (.mapping (pruned entries)) = .ok values) ∧
      (((namedLeaves entries).map (·.1)).Nodup →
        (oneLevel (namedLeaves entries)).Pairwise
          (fun first second => first.1.sameKey second.1 = false) ∧
        ∀ place, namedValues place (.mapping (oneLevel (namedLeaves entries))) = .ok values) := by
  have hplain : ∀ entry ∈ namedLeaves entries, ¬ IsMapping entry.2 := by
    intro entry hmem
    obtain ⟨⟨keys, value⟩, hleaf, rfl⟩ := List.mem_map.1 hmem
    exact not_isMapping_of_mem_leaves hnames hleaf
  have hupdate (name : String) : (NamedValues.update [] (namedLeaves entries)).lookup name =
      (namedLeaves entries).reverse.lookup name := by
    rw [NamedValues.lookup_update, List.lookup_nil, Option.or_none]
  have hdistinct : ((NamedValues.update [] (namedLeaves entries)).map (·.1)).Nodup :=
    NamedValues.nodup_update List.Pairwise.nil
  have hlookup (name : String) := lookup_renamed_formerNames
    (NamedValues.update [] (namedLeaves entries)) name
  simp only [hupdate] at hlookup
  refine ⟨_, ?_, nodup_renamedAll hdistinct, hlookup, ?_, ?_, ?_⟩
  · rw [read_of_readsAsMapping hmapping, namedValues_mapping hnames]
  · intro name value hmem
    have hfound := lookup_eq_some_of_mem (nodup_renamedAll hdistinct) hmem
    rw [hlookup] at hfound
    split at hfound
    next => cases hfound
    next hname =>
      refine ⟨hname, ?_⟩
      rcases Option.or_eq_some_iff.1 hfound with hvalue | ⟨-, hvalue⟩
      · exact hplain (name, value) (List.mem_reverse.1 (mem_of_lookup_eq_some hvalue))
      · obtain ⟨former, -, hvalue⟩ := Option.bind_eq_some_iff.1 hvalue
        exact hplain (former, value) (List.mem_reverse.1 (mem_of_lookup_eq_some hvalue))
  · intro place
    have hsame : namedLeaves (pruned entries) = namedLeaves entries := by
      rw [namedLeaves, leaves_pruned, namedLeaves]
    rw [namedValues_mapping (hasName_of_mem_pruned hnames), hsame]
  · intro hnodup
    refine ⟨distinct_oneLevel hnodup, fun place => ?_⟩
    rw [namedValues_mapping (hasName_of_mem_oneLevel hplain), namedLeaves_oneLevel hplain]

/-- Both spellings of one interval, one of another, and a mapping with nothing in
it. -/
def spelledTwice : List (ScalarValue × OutlineValue) :=
  [(.text "hightide", .mapping
      [(.text "config", .mapping
          [(.text "reload_interval", .scalar (.integer 30)), (.text "old", .mapping [])]),
        (.text "rescan_interval", .scalar (.integer 600))]),
    (.text "hightide.rescan.interval", .scalar (.integer 60))]

def spelledTwiceFile : FileStore Unit :=
  FileStore.empty.write "s.yaml"
    (.file (PolicyFile.octetsOf
      ["hightide:\n  config:\n    reload_interval: 30\n    old: \x7b\x7d\n",
        "  rescan_interval: 600\nhightide.rescan.interval: 60"]) ())

theorem nested_settings_are_dotted_spelledTwice :
    ∃ values, read spelledTwiceFile "s.yaml" = .ok values ∧
      values.lookup "hightide.rescan_interval" = none ∧
      values.lookup "hightide.rescan.interval" = some (.scalar (.integer 60)) ∧
      values.lookup "hightide.config.reload.interval" = some (.scalar (.integer 30)) ∧
      namedValues "t.yaml" (.mapping
        [(.text "hightide.config.reload_interval", .scalar (.integer 30)),
          (.text "hightide.rescan_interval", .scalar (.integer 600)),
          (.text "hightide.rescan.interval", .scalar (.integer 60))]) = .ok values := by
  have hread : ∃ octets, spelledTwiceFile.read "s.yaml" = .ok octets ∧
      outlineOf "s.yaml" octets = .ok (.mapping spelledTwice) := by
    decide +kernel
  have hnames : ∀ entry ∈ spelledTwice, ¬ HasNoName entry := by
    simp [spelledTwice, hasNoName_mapping, not_holdsUnwritable_text, hasName_text_scalar]
  obtain ⟨values, hvalues, -, hlookup, -, -, hflat⟩ := nested_settings_are_dotted hread hnames
  refine ⟨values, hvalues, ?_, ?_, ?_, (hflat (by decide)).2 "t.yaml"⟩
  · rw [hlookup]
    decide
  · rw [hlookup]
    decide
  · rw [hlookup]
    decide

end SettingsFile

end PolicyKeeper
