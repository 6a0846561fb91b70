import PolicyKeeper.Proofs.NestedSettings
import PolicyKeeper.Proofs.PositiveIntervals

/-!
# Where settings come from

Each setting is taken from its variable, else from the values of the settings
file under its own name, else under the name with an underscore that stands for
it, else it is the standard one.  Nothing else counts, so a value in the file
that a variable overrides does no harm.  A variable that is set to the empty
text counts as one that is not set, but for the variable that tells the path of
the settings file: there, the empty text hides the file.
-/

namespace PolicyKeeper

namespace SettingsFile

/-! ## The values of a file as they are spelled -/

/-- The values of an outline, under the names that they have there. -/
def spelledValues (path : String) (value : OutlineValue) : Except SettingsFault NamedValues :=
  if value.isEmpty then .ok []
  else
    match value with
    | .mapping entries => flattened entries
    | _ => .error (.notMapping path)

/-- The values of a settings file, under the names that they have there; none
where there is no such file. -/
def contents (store : FileStore τ) (path : String) : Except SettingsFault NamedValues :=
  if store.contains path then do
    let octets ← (store.read path).mapError .unreadable
    spelledValues path (← outlineOf path octets)
  else .ok []

theorem namedValues_eq_spelledValues (path : String) (value : OutlineValue) :
    namedValues path value =
      spelledValues path value >>= fun named => .ok (renamedAll formerNames named) := by
  unfold namedValues spelledValues
  split
  next => rfl
  next =>
    cases value with
    | mapping entries => rfl
    | scalar | list | pairs | set | enclosing | bottomless => rfl

theorem contents_of_readsAsMapping {store : FileStore τ} {path : String}
    {entries : List (ScalarValue × OutlineValue)} (hmapping : ReadsAsMapping store path entries)
    (hnames : ∀ entry ∈ entries, ¬ HasNoName entry) :
    contents store path = .ok (NamedValues.update [] (namedLeaves entries)) := by
  obtain ⟨octets, hread, houtline⟩ := hmapping
  have hcontains : store.contains path = true := FileStore.contains_iff_read.2 (.inl ⟨_, hread⟩)
  rw [contents, if_pos hcontains, hread, mapError_ok, ok_bind, houtline, ok_bind, spelledValues]
  split
  next hempty =>
    obtain rfl := List.isEmpty_iff.1 hempty
    rfl
  next => exact flattened_eq hnames

end SettingsFile

namespace Settings

open SettingsFile

variable {environment : Environment} {named : NamedValues}

theorem fileValues_eq_contents (store : FileStore τ) (path : String) :
    fileValues store path =
      contents store path >>= fun named => .ok (renamedAll formerNames named) := by
  unfold fileValues fileValuesWith contents SettingsFile.readWith
  split
  next => simp only [namedValues_eq_spelledValues, bind_assoc]
  next => rfl

/-! ## The value that counts for a setting -/

/-- The value of a setting: the text of its variable, else what stands in the
file under its name, else what stands there under the name with an underscore. -/
def chosen? (environment : Environment) (named : NamedValues) (setting : Setting) :
    Option OutlineValue :=
  ((override? environment setting).map fun text => .scalar (.text text)).or
    ((named.lookup setting.name).or
      ((formerName? setting.name).bind fun former => named.lookup former))

/-- Each setting by its own value, or the standard one. -/
def ofChoice (choice : Setting → Option OutlineValue) :
    Except SettingsFault (Settings Binary64) := do
  let configFile ← (choice .configFile).elim (.ok standard.configFile) readFileName
  let reloadEnabled ← (choice .reload).elim (.ok standard.reloadEnabled) (readSwitch .reload)
  let reloadInterval ←
    (choice .reloadInterval).elim (.ok standard.reloadInterval) (readSeconds .reloadInterval)
  let rescanInterval ←
    (choice .rescanInterval).elim (.ok standard.rescanInterval) (readSeconds .rescanInterval)
  let includes ← (choice .includes).elim (.ok standard.includes) (readSwitch .includes)
  .ok { configFile, reloadEnabled, reloadInterval, rescanInterval, includes }

theorem ofValues_overridden (values : NamedValues) :
    ofValues (overridden environment values) = ofChoice (effective? environment values) := by
  have hvalue {α : Type} (setting : Setting) (standard : α)
      (read : OutlineValue → Except SettingsFault α) :
      valueOr (overridden environment values) setting standard read =
        (effective? environment values setting).elim (.ok standard) read := by
    rw [valueOr_overridden]
    cases effective? environment values setting <;> rfl
  simp only [ofValues, ofChoice, hvalue]

theorem name_not_mem_formerNames (setting : Setting) :
    setting.name ∉ formerNames.map (·.1) := by
  cases setting <;> decide

theorem effective?_renamedAll :
    effective? environment (renamedAll formerNames named) = chosen? environment named := by
  funext setting
  rw [effective?, lookup_renamed_formerNames, if_neg (name_not_mem_formerNames setting), chosen?]

theorem load_eq_of_contents (store : FileStore τ) (given : String) :
    load store given environment =
      (contents store (path given environment) >>= fun named =>
        ofChoice (chosen? environment named) >>= checked) := by
  rw [load_eq, fileValues_eq_contents]
  cases contents store (path given environment) with
  | error fault => rfl
  | ok named => rw [ok_bind, ok_bind, ok_bind, ofValues_overridden, effective?_renamedAll]

/-- Only a value that counts, or an interval in the end, can be refused. -/
theorem refused_of_ofChoice {fault : SettingsFault}
    (hfault : (ofChoice (chosen? environment named) >>= checked) = .error fault) :
    (∃ setting value, chosen? environment named setting = some value ∧
        setting.refusal? value = some fault) ∨
      ∃ s, ofChoice (chosen? environment named) = .ok s ∧ s.notPositive ≠ [] ∧
        fault = .notPositive s.violations := by
  rcases bind_eq_error.1 hfault with hvalue | ⟨s, hs, hchecked⟩
  · rw [← effective?_renamedAll, ← ofValues_overridden, ← faultOf?_eq_some,
      faultOf?_overridden, effective?_renamedAll] at hvalue
    obtain ⟨setting, -, hrefused⟩ := List.exists_of_findSome?_eq_some hvalue
    obtain ⟨value, hchosen, hrefused⟩ := Option.bind_eq_some_iff.1 hrefused
    exact .inl ⟨setting, value, hchosen, hrefused⟩
  · unfold checked at hchecked
    split at hchecked
    next => cases hchecked
    next hintervals => exact .inr ⟨s, hs, hintervals, (Except.error.inj hchecked).symm⟩

/-! ## Values that do not count -/

/-- The name is one that a setting has in a file. -/
def IsNamed (setting : Setting) (name : String) : Prop :=
  name = setting.name ∨ formerName? setting.name = some name

instance (setting : Setting) (name : String) : Decidable (IsNamed setting name) :=
  inferInstanceAs (Decidable (_ ∨ _))

/-- Two files differ at most under names of no setting and under names of
settings that the environment overrides. -/
def DifferAside (environment : Environment) (named named' : NamedValues) : Prop :=
  ∀ name, named.lookup name ≠ named'.lookup name →
    ∀ setting, IsNamed setting name → override? environment setting ≠ none

theorem differAside_of_keys {named' : NamedValues}
    (hkeys : ∀ setting, ∀ name ∈ named.map (·.1) ++ named'.map (·.1), IsNamed setting name →
      override? environment setting ≠ none) : DifferAside environment named named' := by
  intro name hdiffer setting hnamed
  refine hkeys setting name ?_ hnamed
  by_contra habsent
  rw [List.mem_append, not_or] at habsent
  exact hdiffer ((lookup_eq_none_of_not_mem habsent.1).trans
    (lookup_eq_none_of_not_mem habsent.2).symm)

theorem chosen?_eq_of_differAside {named' : NamedValues}
    (haside : DifferAside environment named named') :
    chosen? environment named = chosen? environment named' := by
  funext setting
  cases hset : override? environment setting with
  | some text => simp [chosen?, hset]
  | none =>
      have hsame : ∀ name, IsNamed setting name → named.lookup name = named'.lookup name := by
        intro name hname
        by_contra hdiffer
        exact haside name hdiffer setting hname hset
      rw [chosen?, chosen?, hsame setting.name (.inl rfl)]
      cases hformer : formerName? setting.name with
      | none => rfl
      | some former => rw [Option.bind_some, Option.bind_some, hsame former (.inr hformer)]

/-- The environment overrides a settings file key by key.  Each setting is
computed from the text of its variable, else from its value in the file, else it
is the standard one.  What cannot be used is a value that counts, and two files
that differ only in values that do not count lead to the same settings or to the
same fault. -/
theorem environment_overrides_key_by_key {store : FileStore τ} {given : String}
    (hcontents : contents store (path given environment) = .ok named) :
    load store given environment = (ofChoice (chosen? environment named) >>= checked) ∧
    (∀ fault, load store given environment = .error fault →
      (∃ setting value, chosen? environment named setting = some value ∧
          setting.refusal? value = some fault) ∨
        ∃ s, ofChoice (chosen? environment named) = .ok s ∧ s.notPositive ≠ [] ∧
          fault = .notPositive s.violations) ∧
    ∀ (store' : FileStore τ) (given' : String) (named' : NamedValues),
      contents store' (path given' environment) = .ok named' →
      DifferAside environment named named' →
      load store' given' environment = load store given environment := by
  have hload : load store given environment =
      (ofChoice (chosen? environment named) >>= checked) := by
    rw [load_eq_of_contents, hcontents, ok_bind]
  refine ⟨hload, ?_, ?_⟩
  · intro fault hfault
    exact refused_of_ofChoice (hload ▸ hfault)
  · intro store' given' named' hcontents' haside
    rw [hload, load_eq_of_contents, hcontents', ok_bind, chosen?_eq_of_differAside haside]

/-- An interval that is no time, under the name with an underscore, and a key of
no setting. -/
def spoiltEntries : List (ScalarValue × OutlineValue) :=
  [(.text "hightide", .mapping
    [(.text "rescan_interval", .scalar (.text "never")), (.text "other", .scalar (.integer 1))])]

def spoiltValues : NamedValues :=
  [("hightide.rescan_interval", .scalar (.text "never")), ("hightide.other", .scalar (.integer 1))]

def spoiltFile : FileStore Unit :=
  FileStore.empty.write "s.yaml"
    (.file (PolicyFile.octetsOf ["hightide:\n  rescan_interval: never\n  other: 1"]) ())

theorem environment_overrides_key_by_key_spoilt :
    contents spoiltFile "s.yaml" = .ok spoiltValues ∧
    load spoiltFile "s.yaml" [("HIGHTIDE_RESCAN_INTERVAL", "7")] =
      load (.empty : FileStore Unit) "none.yaml" [("HIGHTIDE_RESCAN_INTERVAL", "7")] ∧
    ∃ s, load (.empty : FileStore Unit) "none.yaml" [("HIGHTIDE_RESCAN_INTERVAL", "7")] = .ok s ∧
      s.rescanInterval = 7 := by
  have hread : ∃ octets, spoiltFile.read "s.yaml" = .ok octets ∧
      outlineOf "s.yaml" octets = .ok (.mapping spoiltEntries) := by
    decide +kernel
  have hnames : ∀ entry ∈ spoiltEntries, ¬ HasNoName entry := by
    simp [spoiltEntries, hasNoName_mapping, not_holdsUnwritable_text, hasName_text_scalar]
  have hspoilt : contents spoiltFile "s.yaml" = .ok spoiltValues := by
    have hvalues : NamedValues.update [] (namedLeaves spoiltEntries) = spoiltValues := by
      decide +kernel
    rw [contents_of_readsAsMapping hread hnames, hvalues]
  have hgiven (given : String) (hgiven : given ≠ "") :
      path given [("HIGHTIDE_RESCAN_INTERVAL", "7")] = given := if_pos hgiven
  have hnone : contents (.empty : FileStore Unit)
      (path "none.yaml" [("HIGHTIDE_RESCAN_INTERVAL", "7")]) = .ok [] := by
    have habsent : (.empty : FileStore Unit).contains "none.yaml" = false := by decide +kernel
    rw [hgiven "none.yaml" (by decide), contents, habsent]
    rfl
  have haside : DifferAside [("HIGHTIDE_RESCAN_INTERVAL", "7")] [] spoiltValues := by
    apply differAside_of_keys
    intro setting
    cases setting <;> decide
  refine ⟨hspoilt, ?_, by decide +kernel⟩
  refine (environment_overrides_key_by_key hnone).2.2 spoiltFile "s.yaml" spoiltValues ?_ haside
  rw [hgiven "s.yaml" (by decide), hspoilt]

/-! ## Variables that are set to the empty text -/

def withoutBlanks (environment : Environment) : Environment :=
  environment.filter fun (_, text) => text ≠ ""

theorem lookup_withoutBlanks (hdistinct : (environment.map (·.1)).Nodup) (name : String) :
    (withoutBlanks environment).lookup name = (environment.lookup name).filter (· ≠ "") :=
  lookup_filter hdistinct

theorem override?_withoutBlanks (hdistinct : (environment.map (·.1)).Nodup) :
    override? (withoutBlanks environment) = override? environment := by
  funext setting
  rw [override?, override?, lookup_withoutBlanks hdistinct]
  simp

theorem ofValues_overridden_withoutBlanks (hdistinct : (environment.map (·.1)).Nodup)
    (values : NamedValues) :
    ofValues (overridden (withoutBlanks environment) values) =
      ofValues (overridden environment values) := by
  have heffective : effective? (withoutBlanks environment) values =
      effective? environment values := by
    funext setting
    rw [effective?, effective?, override?_withoutBlanks hdistinct]
  rw [ofValues_overridden, ofValues_overridden, heffective]

/-- No path is given, and the variable that tells one is set to the empty
text. -/
def HidesFile (given : String) (environment : Environment) : Prop :=
  given = "" ∧ environment.lookup "HIGHTIDE_SETTINGS_PATH" = some ""

theorem path_withoutBlanks {given : String} (hdistinct : (environment.map (·.1)).Nodup)
    (hshown : ¬ HidesFile given environment) :
    path given (withoutBlanks environment) = path given environment := by
  unfold path
  split
  next => rfl
  next hgiven =>
    rw [lookup_withoutBlanks hdistinct]
    cases hpath : environment.lookup "HIGHTIDE_SETTINGS_PATH" with
    | none => rfl
    | some told =>
        have htold : told ≠ "" := by
          rintro rfl
          exact hshown ⟨not_not.1 hgiven, hpath⟩
        simp [Option.filter, htold]

theorem path_of_hidesFile {given : String} (hhidden : HidesFile given environment) :
    path given environment = "" := by
  obtain ⟨rfl, htold⟩ := hhidden
  rw [path, if_neg (not_not.2 rfl), htold, Option.getD_some]

theorem path_withoutBlanks_of_hidesFile {given : String}
    (hdistinct : (environment.map (·.1)).Nodup) (hhidden : HidesFile given environment) :
    path given (withoutBlanks environment) = standardPath := by
  obtain ⟨rfl, htold⟩ := hhidden
  rw [path, if_neg (not_not.2 rfl), lookup_withoutBlanks hdistinct, htold]
  rfl

theorem load_of_absent {store : FileStore τ} {given : String}
    (habsent : store.contains (path given environment) = false) :
    load store given environment = (ofValues (overridden environment []) >>= checked) := by
  rw [load_eq, fileValues, fileValuesWith, habsent, if_neg Bool.false_ne_true, ok_bind]

theorem contains_empty_path (store : FileStore τ) : store.contains "" = false := by
  simp [FileStore.contains, FileStore.entry]

/-- Variables that are set to the empty text count as unset, with one exception.
Where no path is given, the empty text as the path of the settings file names no
file, so the settings are those of a store without a file at the standard path,
although that is where they would be read from without the variable. -/
theorem blank_variables_are_unset_but_for_path (store : FileStore τ) (given : String)
    (hdistinct : (environment.map (·.1)).Nodup) :
    (¬ HidesFile given environment →
      load store given (withoutBlanks environment) = load store given environment) ∧
    (HidesFile given environment →
      path given (withoutBlanks environment) = standardPath ∧
      ∀ bare : FileStore τ, bare.contains standardPath = false →
        load store given environment = load bare given (withoutBlanks environment)) := by
  refine ⟨?_, ?_⟩
  · intro hshown
    rw [load_eq, load_eq, path_withoutBlanks hdistinct hshown]
    simp only [ofValues_overridden_withoutBlanks hdistinct]
  · intro hhidden
    have hstandard := path_withoutBlanks_of_hidesFile hdistinct hhidden
    refine ⟨hstandard, ?_⟩
    intro bare hbare
    have hnowhere : store.contains (path given environment) = false := by
      rw [path_of_hidesFile hhidden, contains_empty_path]
    rw [load_of_absent hnowhere, load_of_absent (hstandard ▸ hbare),
      ofValues_overridden_withoutBlanks hdistinct]

/-- A settings file at the standard path, and a variable that hides it. -/
def standardFile : FileStore Unit :=
  FileStore.empty.write standardPath
    (.file (PolicyFile.octetsOf ["hightide.rescan_interval: 60"]) ())

def blankVariables : Environment := [("HIGHTIDE_SETTINGS_PATH", ""), ("HIGHTIDE_CONFIG_RELOAD", "")]

theorem blank_variables_are_unset_but_for_path_rescan :
    (∃ s, load standardFile "" blankVariables = .ok s ∧ s.rescanInterval = 3600) ∧
    (∃ s, load standardFile "" (withoutBlanks blankVariables) = .ok s ∧ s.rescanInterval = 60) ∧
    load standardFile standardPath (withoutBlanks blankVariables) =
      load standardFile standardPath blankVariables := by
  have hdistinct : (blankVariables.map (·.1)).Nodup := by decide
  have hhidden : HidesFile "" blankVariables := ⟨rfl, by decide⟩
  have hshown : ¬ HidesFile standardPath blankVariables := by
    rintro ⟨hgiven, -⟩
    exact absurd hgiven (by decide)
  have hread : ∃ octets, standardFile.read standardPath = .ok octets ∧
      outlineOf standardPath octets =
        .ok (.mapping [(.text "hightide.rescan_interval", .scalar (.integer 60))]) := by
    decide +kernel
  have hbare : (.empty : FileStore Unit).contains standardPath = false := by decide +kernel
  have hspelled := contents_of_readsAsMapping hread (by simp [hasName_text_scalar])
  obtain ⟨hstandard, hnowhere⟩ :=
    (blank_variables_are_unset_but_for_path standardFile "" hdistinct).2 hhidden
  refine ⟨?_, ?_, ?_⟩
  · rw [hnowhere .empty hbare]
    decide +kernel
  · rw [load_eq_of_contents, hstandard, hspelled, ok_bind]
    decide +kernel
  · exact (blank_variables_are_unset_but_for_path standardFile standardPath hdistinct).1 hshown

end Settings

end PolicyKeeper
