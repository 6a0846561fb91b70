import PolicyKeeper.Proofs.FileFaults
import PolicyKeeper.Proofs.LoadOutcomes
import PolicyKeeper.Proofs.OutlineFaults
import PolicyKeeper.Proofs.SettingValues

/-!
# What interrupts the reading of settings

Settings are read, or what is wrong with them is reported, unless the reading
is interrupted: the file cannot be taken in, its outline cannot be read for a
reason other than its form, a value has no name, or a value that comes first
among those of no use cannot even be refused.  This is so whatever reads the
outline.
-/

namespace PolicyKeeper

namespace SettingsFile

/-! ## Values without a name -/

/-- An entry leads to a value that cannot be named: to a mapping inside itself,
or past a key that has no text. -/
inductive HasNoName : ScalarValue × OutlineValue → Prop
  | key {key : ScalarValue} {value : OutlineValue} (hunwritable : key.HoldsUnwritable) :
      HasNoName (key, value)
  | endless {key : ScalarValue} : HasNoName (key, .enclosing .mapping)
  | within {key : ScalarValue} {inner : List (ScalarValue × OutlineValue)}
      {entry : ScalarValue × OutlineValue} (hmem : entry ∈ inner) (hentry : HasNoName entry) :
      HasNoName (key, .mapping inner)

theorem nameBelow_fails_iff {above : String} {key : ScalarValue} :
    (∃ fault, nameBelow above key = .error fault) ↔ key.HoldsUnwritable := by
  rw [← ScalarValue.plainText_fails_iff]
  unfold nameBelow
  cases key.plainText <;> simp

theorem nameBelow_interrupts {above : String} {key : ScalarValue} {fault : SettingsFault}
    (hfault : nameBelow above key = .error fault) : fault.isReported = false := by
  unfold nameBelow at hfault
  rcases bind_eq_error.1 hfault with htext | ⟨text, -, hend⟩
  · obtain ⟨cause, -, rfl⟩ := mapError_eq_error.1 htext
    rfl
  · cases hend

theorem hasNoName_mapping {key : ScalarValue} {inner : List (ScalarValue × OutlineValue)} :
    HasNoName (key, .mapping inner) ↔ key.HoldsUnwritable ∨ ∃ entry ∈ inner, HasNoName entry := by
  constructor
  · rintro (hunwritable | - | ⟨hmem, hentry⟩)
    · exact .inl hunwritable
    · exact .inr ⟨_, hmem, hentry⟩
  · rintro (hunwritable | ⟨entry, hmem, hentry⟩)
    · exact .key hunwritable
    · exact .within hmem hentry

theorem hasNoName_of_plain {key : ScalarValue} {value : OutlineValue}
    (hmapping : ∀ inner, value ≠ .mapping inner) (hendless : value ≠ .enclosing .mapping) :
    HasNoName (key, value) ↔ key.HoldsUnwritable := by
  constructor
  · rintro (hunwritable | - | ⟨hmem, hentry⟩)
    · exact hunwritable
    · exact absurd rfl hendless
    · exact absurd rfl (hmapping _)
  · exact .key

/-- Whether the entries have names depends neither on what is above them nor on
what is known already. -/
theorem flattenInto_fails_iff {above : String} {known : NamedValues}
    {entries : List (ScalarValue × OutlineValue)} :
    (∃ fault, flattenInto above known entries = .error fault) ↔
      ∃ entry ∈ entries, HasNoName entry := by
  induction above, known, entries using flattenInto.induct with
  | case1 above known => simp [flattenInto]
  | case2 above known key inner rest ihinner ihrest =>
      rw [flattenInto, bind_fails_iff fun name =>
        (bind_fails_iff fun below => ihrest below).trans (or_congr_left (ihinner name)),
        nameBelow_fails_iff]
      simp only [List.exists_mem_cons_iff, hasNoName_mapping, or_assoc]
  | case3 above known key rest =>
      have hendless : HasNoName (key, .enclosing .mapping) := .endless
      have hfails : ∀ _ : String,
          (∃ fault, (.error .endless : Except SettingsFault NamedValues) = .error fault) ↔ True :=
        fun _ => by simp
      rw [flattenInto, bind_fails_iff hfails]
      simp only [List.exists_mem_cons_iff, hendless, or_true, true_or]
  | case4 above known key value rest hmapping hendless ihrest =>
      rw [flattenInto, bind_fails_iff ihrest, nameBelow_fails_iff]
      · simp only [List.exists_mem_cons_iff, hasNoName_of_plain hmapping hendless]
      · exact hmapping
      · exact hendless

theorem flattenInto_interrupts {above : String} {known : NamedValues}
    {entries : List (ScalarValue × OutlineValue)} {fault : SettingsFault}
    (hfault : flattenInto above known entries = .error fault) : fault.isReported = false := by
  induction above, known, entries using flattenInto.induct with
  | case1 above known => simp [flattenInto] at hfault
  | case2 above known key inner rest ihinner ihrest =>
      rw [flattenInto] at hfault
      rcases bind_eq_error.1 hfault with hname | ⟨name, -, hfault⟩
      · exact nameBelow_interrupts hname
      rcases bind_eq_error.1 hfault with hinner | ⟨below, -, hrest⟩
      · exact ihinner name hinner
      · exact ihrest below hrest
  | case3 above known key rest =>
      rw [flattenInto] at hfault
      rcases bind_eq_error.1 hfault with hname | ⟨_, -, hend⟩
      · exact nameBelow_interrupts hname
      · obtain rfl := Except.error.inj hend
        rfl
  | case4 above known key value rest hmapping hendless ihrest =>
      rw [flattenInto] at hfault
      · rcases bind_eq_error.1 hfault with hname | ⟨name, -, hrest⟩
        · exact nameBelow_interrupts hname
        · exact ihrest name hrest
      · exact hmapping
      · exact hendless

theorem namedValues_interrupts_iff (path : String) {value : OutlineValue} :
    (∃ fault, namedValues path value = .error fault ∧ fault.isReported = false) ↔
      ∃ entries entry, value = .mapping entries ∧ entry ∈ entries ∧ HasNoName entry := by
  unfold namedValues
  constructor
  · rintro ⟨fault, hfault, hunreported⟩
    split at hfault
    next => cases hfault
    next =>
      split at hfault
      next entries _ =>
        obtain ⟨entry, hmem, hentry⟩ :=
          flattenInto_fails_iff.1 (bind_ok_fails_iff.1 ⟨fault, hfault⟩)
        exact ⟨entries, entry, rfl, hmem, hentry⟩
      next =>
        obtain rfl := Except.error.inj hfault
        cases hunreported
  · rintro ⟨entries, entry, rfl, hmem, hentry⟩
    have hnonempty : (OutlineValue.mapping entries).isEmpty = false :=
      List.isEmpty_eq_false_iff_exists_mem.2 ⟨entry, hmem⟩
    obtain ⟨fault, hfault⟩ : ∃ fault, flattened entries = .error fault :=
      flattenInto_fails_iff.2 ⟨entry, hmem, hentry⟩
    refine ⟨fault, ?_, flattenInto_interrupts hfault⟩
    simp [hnonempty, hfault]

end SettingsFile

namespace Settings

/-! ## Values that interrupt -/

theorem checked_interrupts_iff {read : Except SettingsFault (Settings Binary64)} :
    (∃ fault, (read >>= checked) = .error fault ∧ fault.isReported = false) ↔
      ∃ fault, read = .error fault ∧ fault.isReported = false := by
  cases read with
  | error fault => rfl
  | ok s =>
      constructor
      · rintro ⟨fault, hfault, hunreported⟩
        have hchecked : s.checked = .error fault := hfault
        unfold checked at hchecked
        split at hchecked
        next => cases hchecked
        next =>
          obtain rfl := Except.error.inj hchecked
          cases hunreported
      · rintro ⟨fault, hfault, -⟩
        cases hfault

/-- A setting has no value, or one that is of use. -/
def IsAccepted (environment : Environment) (values : NamedValues) (setting : Setting) : Prop :=
  ∀ value, effective? environment values setting = some value → setting.refusal? value = none

theorem effective_interrupts_iff {environment : Environment} {values : NamedValues}
    {setting : Setting} :
    (∃ fault, (effective? environment values setting).bind setting.refusal? = some fault ∧
        fault.isReported = false) ↔
      override? environment setting = none ∧
        ∃ value, values.lookup setting.name = some value ∧ setting.Overflows value := by
  unfold effective?
  cases hset : override? environment setting with
  | some text =>
      simp [Setting.refusal_interrupts_iff, Setting.not_overflows_text]
  | none =>
      cases values.lookup setting.name <;> simp [Setting.refusal_interrupts_iff]

/-- A setting that the environment leaves alone overflows, and none before it is
refused. -/
theorem ofValues_interrupts_iff {environment : Environment} {values : NamedValues} :
    (∃ fault, (ofValues (overridden environment values) >>= checked) = .error fault ∧
        fault.isReported = false) ↔
      ∃ before setting after value, Setting.all = before ++ setting :: after ∧
        (∀ earlier ∈ before, IsAccepted environment values earlier) ∧
        override? environment setting = none ∧
        values.lookup setting.name = some value ∧ setting.Overflows value := by
  rw [checked_interrupts_iff]
  simp only [← faultOf?_eq_some, faultOf?_overridden, List.findSome?_eq_some_iff]
  constructor
  · rintro ⟨fault, ⟨before, setting, after, hsettings, hrefused, hbefore⟩, hunreported⟩
    obtain ⟨hunset, value, hvalue, hoverflows⟩ :=
      effective_interrupts_iff.1 ⟨fault, hrefused, hunreported⟩
    refine ⟨before, setting, after, value, hsettings, ?_, hunset, hvalue, hoverflows⟩
    intro earlier hmem other hother
    simpa [hother] using hbefore earlier hmem
  · rintro ⟨before, setting, after, value, hsettings, hbefore, hunset, hvalue, hoverflows⟩
    obtain ⟨fault, hrefused, hunreported⟩ :=
      effective_interrupts_iff.2 ⟨hunset, value, hvalue, hoverflows⟩
    refine ⟨fault, ⟨before, setting, after, hsettings, hrefused, ?_⟩, hunreported⟩
    intro earlier hmem
    cases hother : effective? environment values earlier with
    | none => rfl
    | some other => exact hbefore earlier hmem other hother

/-! ## Files that interrupt -/

/-- What interrupts the reading of the settings at a path. -/
inductive Interrupts {τ : Type} (reader : OutlineReader) (store : FileStore τ) (path : String)
    (environment : Environment) : Prop
  | directory (hread : store.read path = .error (.isDirectory path)) :
      Interrupts reader store path environment
  /-- The outline cannot be read, and its reader does not say that it is malformed. -/
  | outline {octets : Octets} {fault : SettingsFault} (hread : store.read path = .ok octets)
      (hfault : reader path octets = .error fault) (hunreported : fault.isReported = false) :
      Interrupts reader store path environment
  | name {octets : Octets} {entries : List (ScalarValue × OutlineValue)}
      {entry : ScalarValue × OutlineValue} (hread : store.read path = .ok octets)
      (hvalue : reader path octets = .ok (.mapping entries)) (hmem : entry ∈ entries)
      (hnameless : SettingsFile.HasNoName entry) : Interrupts reader store path environment
  /-- The first value of no use stands in the file and cannot be refused. -/
  | value {values : NamedValues} {before after : List Setting} {setting : Setting}
      {value : OutlineValue} (hvalues : fileValuesWith reader store path = .ok values)
      (hsettings : Setting.all = before ++ setting :: after)
      (hbefore : ∀ earlier ∈ before, IsAccepted environment values earlier)
      (hunset : override? environment setting = none)
      (hvalue : values.lookup setting.name = some value) (hoverflows : setting.Overflows value) :
      Interrupts reader store path environment

theorem fileValuesWith_of_directory (reader : OutlineReader) {store : FileStore τ} {path : String}
    (hread : store.read path = .error (.isDirectory path)) :
    fileValuesWith reader store path = .error (.unreadable (.isDirectory path)) := by
  have hcontains : store.contains path = true := FileStore.contains_iff_read.2 (.inr hread)
  rw [fileValuesWith, if_pos hcontains, SettingsFile.readWith, hread]
  rfl

theorem fileValuesWith_of_read (reader : OutlineReader) {store : FileStore τ} {path : String}
    {octets : Octets} (hread : store.read path = .ok octets) :
    fileValuesWith reader store path =
      reader path octets >>= SettingsFile.namedValues path := by
  have hcontains : store.contains path = true := FileStore.contains_iff_read.2 (.inl ⟨_, hread⟩)
  rw [fileValuesWith, if_pos hcontains, SettingsFile.readWith, hread]
  rfl

theorem interrupts_of_fileValuesWith {reader : OutlineReader} {store : FileStore τ}
    {path : String} {fault : SettingsFault} (environment : Environment)
    (hfault : fileValuesWith reader store path = .error fault)
    (hunreported : fault.isReported = false) : Interrupts reader store path environment := by
  by_cases hcontains : store.contains path = true
  case neg => simp [fileValuesWith, hcontains] at hfault
  rcases FileStore.contains_iff_read.1 hcontains with ⟨octets, hread⟩ | hread
  case inr => exact .directory hread
  rw [fileValuesWith_of_read reader hread] at hfault
  rcases bind_eq_error.1 hfault with houtline | ⟨value, hvalue, hnamed⟩
  · exact .outline hread houtline hunreported
  · obtain ⟨entries, entry, rfl, hmem, hnameless⟩ :=
      (SettingsFile.namedValues_interrupts_iff path).1 ⟨fault, hnamed, hunreported⟩
    exact .name hread hvalue hmem hnameless

theorem loadWith_eq (reader : OutlineReader) (store : FileStore τ) (given : String)
    (environment : Environment) :
    loadWith reader store given environment =
      (fileValuesWith reader store (path given environment) >>= fun values =>
        ofValues (overridden environment values) >>= checked) := rfl

theorem load_eq (store : FileStore τ) (given : String) (environment : Environment) :
    load store given environment =
      (fileValues store (path given environment) >>= fun values =>
        ofValues (overridden environment values) >>= checked) := rfl

/-- Whatever reads the outline of the file, settings are read or it is reported
what is wrong with them, unless something interrupts the reading: these are all
the ways. -/
theorem loadWith_interrupts_iff (reader : OutlineReader) (store : FileStore τ) (given : String)
    (environment : Environment) :
    (∃ fault, loadWith reader store given environment = .error fault ∧
        fault.isReported = false) ↔
      Interrupts reader store (path given environment) environment := by
  rw [loadWith_eq]
  constructor
  · rintro ⟨fault, hfault, hunreported⟩
    rcases bind_eq_error.1 hfault with hfile | ⟨values, hvalues, hrest⟩
    · exact interrupts_of_fileValuesWith environment hfile hunreported
    · obtain ⟨before, setting, after, value, hsettings, hbefore, hunset, hvalue, hoverflows⟩ :=
        ofValues_interrupts_iff.1 ⟨fault, hrest, hunreported⟩
      exact .value hvalues hsettings hbefore hunset hvalue hoverflows
  · rintro (hread | ⟨hread, hfault, hunreported⟩ | ⟨hread, hvalue, hmem, hnameless⟩ |
      ⟨hvalues, hsettings, hbefore, hunset, hvalue, hoverflows⟩)
    case directory =>
      rw [fileValuesWith_of_directory reader hread]
      exact ⟨_, rfl, rfl⟩
    case outline =>
      rw [fileValuesWith_of_read reader hread, hfault]
      exact ⟨_, rfl, hunreported⟩
    case name =>
      rw [fileValuesWith_of_read reader hread, hvalue]
      obtain ⟨fault, hfault, hunreported⟩ :=
        (SettingsFile.namedValues_interrupts_iff (path given environment)).2
          ⟨_, _, rfl, hmem, hnameless⟩
      exact ⟨fault, bind_eq_error.2 (.inl hfault), hunreported⟩
    case value =>
      obtain ⟨fault, hfault, hunreported⟩ :=
        ofValues_interrupts_iff.2 ⟨_, _, _, _, hsettings, hbefore, hunset, hvalue, hoverflows⟩
      exact ⟨fault, by rw [hvalues, ok_bind, hfault], hunreported⟩

/-- A switch that is called one, but is none. -/
def misnamedSwitch : FileStore Unit :=
  FileStore.empty.write "s.yaml"
    (.file (PolicyFile.octetsOf ["hightide.config.reload: !!bool maybe"]) ())

theorem loadWith_interrupts_iff_misnamed :
    load misnamedSwitch "s.yaml" [] = .error (.outline "s.yaml" (.scalar (.notSwitch "maybe"))) ∧
      Interrupts SettingsFile.outlineOf misnamedSwitch "s.yaml" [] := by
  have hload : load misnamedSwitch "s.yaml" [] =
      .error (.outline "s.yaml" (.scalar (.notSwitch "maybe"))) :=
    faultOf?_eq_some.1 (by decide +kernel)
  exact ⟨hload,
    (loadWith_interrupts_iff SettingsFile.outlineOf misnamedSwitch "s.yaml" []).1
      ⟨_, hload, rfl⟩⟩

end Settings

/-! ## Outlines that interrupt -/

/-- The reading of an outline is interrupted only by octets that are no text, or
by what is written properly and has no value. -/
theorem SettingsFile.outlineOf_interrupts {path : String} {octets : Octets}
    {fault : SettingsFault} (hfault : outlineOf path octets = .error fault)
    (hunreported : fault.isReported = false) :
    (∃ cause, Utf8.decode octets = .error cause) ∨
      ∃ characters cause, Utf8.decode octets = .ok characters ∧ fault = .outline path cause ∧
        (cause ∈ [.form .beyondCharacters, .form .beyondNumbers, .form .nestedTooDeep,
            .scalar .dateInMapping] ∨
          ∃ graph id other s refusal,
            Outline.graphOf (normalizeBreaks characters) = .ok graph ∧
            (graph.nodes.getD other default).shape = .scalar s ∧
            Outline.readScalar? (graph.nodes.getD id default).tag s = some (.error refusal) ∧
            cause = .scalar refusal) := by
  unfold outlineOf at hfault
  rcases bind_eq_error.1 hfault with hdecode | ⟨characters, hdecoded, hvalue⟩
  · obtain ⟨cause, hcause, -⟩ := mapError_eq_error.1 hdecode
    exact .inl ⟨cause, hcause⟩
  · rw [mapError_eq_ok] at hdecoded
    obtain ⟨cause, hcause, rfl⟩ := mapError_eq_error.1 hvalue
    exact .inr ⟨characters, cause, hdecoded, rfl, Outline.unexpected_of_valueOf hcause hunreported⟩

end PolicyKeeper
