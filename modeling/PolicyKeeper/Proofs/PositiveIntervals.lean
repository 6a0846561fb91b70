import PolicyKeeper.Proofs.SettingsInterruptions
import PolicyKeeper.Proofs.TimeOrder

/-!
# Positive intervals

An interval is refused if it is zero or below.  What is left is positive, or it
is no number: such an interval is neither above zero nor at or below it, so a
value that is the word for no number is accepted.
-/

namespace PolicyKeeper

/-! ## The word for no number -/

theorem Binary64.ofDecimal_ne_notANumber (negative : Bool) (digits : Nat) (power : Int) :
    ofDecimal negative digits power ≠ notANumber := by
  unfold ofDecimal
  dsimp only
  split_ifs with hzero hhuge htiny hwhole
  · simp [zero]
  · simp
  · simp [zero]
  · exact ofQuotient_ne_notANumber _ _ _
  · exact ofQuotient_ne_notANumber _ _ _

/-- The text is the word for no number, in any case, with blanks around it or a
sign before it. -/
def IsNoNumberWord (text : String) : Prop :=
  ∃ s, dropDigitSeparators none (trimWith isAsciiBlank (asciiNumeral text.toList)) = some s ∧
    String.ofList ((splitSign s).2.map Char.toLower) = "nan"

theorem numberOf?_eq_notANumber_iff {s : List Char} :
    numberOf? s = some .notANumber ↔ String.ofList ((splitSign s).2.map Char.toLower) = "nan" := by
  unfold numberOf?
  dsimp only
  split_ifs with hinfinity hnan hnone
  · have hother : String.ofList ((splitSign s).2.map Char.toLower) ≠ "nan" := by
      rcases hinfinity with hword | hword <;> simp [hword]
    simp [hother]
  · simp [hnan]
  · simp [hnan]
  · simp [hnan, Binary64.ofDecimal_ne_notANumber]

theorem readNumber_eq_notANumber_iff {text : String} :
    readNumber text = .ok .notANumber ↔ IsNoNumberWord text := by
  unfold readNumber IsNoNumberWord
  split
  next hnone => simp [hnone]
  next s hs =>
    simp only [hs, Option.some.injEq, exists_eq_left', ← numberOf?_eq_notANumber_iff]
    cases numberOf? s <;> simp

namespace Settings

/-- The value says that it is no number. -/
inductive SaysNoNumber : OutlineValue → Prop
  | number : SaysNoNumber (.scalar (.number .notANumber))
  | text {text : String} (hword : IsNoNumberWord text) : SaysNoNumber (.scalar (.text text))
  | octets {octets : Octets} (hascii : octets.all (·.toNat < 0x80) = true)
      (hword : IsNoNumberWord
        (String.ofList (octets.map fun octet => Char.ofNat octet.toNat))) :
      SaysNoNumber (.scalar (.octets octets))

theorem refuseSeconds_ne_ok {setting : Setting} {value : OutlineValue} {seconds : Binary64} :
    refuseSeconds setting value ≠ .ok seconds := by
  intro hok
  obtain ⟨text, -, hend⟩ := bind_eq_ok.1 hok
  cases hend

theorem secondsOfText_eq_ok_iff {setting : Setting} {value : OutlineValue} {text : String}
    {seconds : Binary64} :
    secondsOfText setting value text = .ok seconds ↔ readNumber text = .ok seconds := by
  unfold secondsOfText
  cases readNumber text with
  | ok number => simp
  | error fault => simp [refuseSeconds_ne_ok]

theorem secondsOfInteger_ne_notANumber {n : Int} : secondsOfInteger n ≠ .ok .notANumber := by
  have hnumber : Binary64.ofInt n ≠ .notANumber := Binary64.ofQuotient_ne_notANumber _ _ _
  unfold secondsOfInteger
  split
  next => simp
  next => simpa using hnumber

theorem readSeconds_eq_notANumber_iff {setting : Setting} {value : OutlineValue} :
    readSeconds setting value = .ok .notANumber ↔ SaysNoNumber value := by
  constructor
  · intro hread
    unfold readSeconds at hread
    split at hread
    next b => cases b <;> exact absurd hread (by decide)
    next n => exact absurd hread secondsOfInteger_ne_notANumber
    next seconds =>
      obtain rfl := Except.ok.inj hread
      exact .number
    next text => exact .text (readNumber_eq_notANumber_iff.1 (secondsOfText_eq_ok_iff.1 hread))
    next octets =>
      split_ifs at hread with hascii
      · exact .octets hascii
          (readNumber_eq_notANumber_iff.1 (secondsOfText_eq_ok_iff.1 hread))
      · exact absurd hread refuseSeconds_ne_ok
    next => exact absurd hread refuseSeconds_ne_ok
  · intro hsays
    cases hsays with
    | number => rfl
    | text hword => exact secondsOfText_eq_ok_iff.2 (readNumber_eq_notANumber_iff.2 hword)
    | octets hascii hword =>
        rw [readSeconds, if_pos hascii]
        exact secondsOfText_eq_ok_iff.2 (readNumber_eq_notANumber_iff.2 hword)

/-! ## Intervals -/

/-- The interval that a setting is for. -/
def interval (s : Settings τ) : Setting → τ
  | .rescanInterval => s.rescanInterval
  | _ => s.reloadInterval

/-- The seconds that the value which counts for a setting comes to. -/
def secondsFor (environment : Environment) (values : NamedValues) (setting : Setting) :
    Except SettingsFault Binary64 :=
  match effective? environment values setting with
  | some value => readSeconds setting value
  | none => .ok (standard.interval setting)

variable {environment : Environment} {values : NamedValues}

theorem valueOr_overridden {α : Type} (setting : Setting) (standard : α)
    (read : OutlineValue → Except SettingsFault α) :
    valueOr (overridden environment values) setting standard read =
      match effective? environment values setting with
      | some value => read value
      | none => .ok standard := by
  have hall : setting ∈ Setting.all := by cases setting <;> decide
  rw [valueOr, overridden, lookup_foldl_overriddenBy]
  cases effective? environment values setting <;> simp only [hall, if_true]

theorem secondsFor_of_ofValues {s : Settings Binary64} {setting : Setting}
    (hinterval : setting.IsInterval) (hs : ofValues (overridden environment values) = .ok s) :
    secondsFor environment values setting = .ok (s.interval setting) := by
  unfold ofValues at hs
  obtain ⟨configFile, -, hs⟩ := bind_eq_ok.1 hs
  obtain ⟨reloadEnabled, -, hs⟩ := bind_eq_ok.1 hs
  obtain ⟨reloadInterval, hreload, hs⟩ := bind_eq_ok.1 hs
  obtain ⟨rescanInterval, hrescan, hs⟩ := bind_eq_ok.1 hs
  obtain ⟨includes, -, hs⟩ := bind_eq_ok.1 hs
  rw [valueOr_overridden] at hreload hrescan
  obtain rfl := Except.ok.inj hs
  rcases hinterval with rfl | rfl
  · exact hreload
  · exact hrescan

theorem secondsFor_eq_notANumber_iff {setting : Setting} :
    secondsFor environment values setting = .ok .notANumber ↔
      ∃ value, effective? environment values setting = some value ∧ SaysNoNumber value := by
  unfold secondsFor
  cases effective? environment values setting with
  | some value => simp [readSeconds_eq_notANumber_iff]
  | none =>
      have hstandard : standard.interval setting ≠ .notANumber := by cases setting <;> decide
      simp [hstandard]

theorem ofValues_of_isAccepted (haccepted : ∀ setting, IsAccepted environment values setting) :
    ∃ s, ofValues (overridden environment values) = .ok s := by
  have hnone : faultOf? (ofValues (overridden environment values)) = none := by
    rw [faultOf?_overridden, List.findSome?_eq_none_iff]
    intro setting _
    cases hvalue : effective? environment values setting with
    | none => rfl
    | some value => exact haccepted setting value hvalue
  cases hread : ofValues (overridden environment values) with
  | ok s => exact ⟨s, rfl⟩
  | error fault =>
      rw [hread] at hnone
      cases hnone

/-! ## The check of the intervals -/

theorem zero_lt_or_notANumber_iff {seconds : Binary64} :
    0 < seconds ∨ seconds = .notANumber ↔ ¬ seconds ≤ 0 := by
  have hzero : (0 : Binary64) ≠ .notANumber := by decide
  by_cases hnumber : seconds = .notANumber
  · rw [hnumber]
    exact ⟨fun _ => Binary64.not_notANumber_le 0, fun _ => .inr rfl⟩
  · rw [Binary64.not_le_iff_lt hnumber hzero, or_iff_left hnumber]

theorem checked_eq_ok_iff {s s' : Settings Binary64} :
    s.checked = .ok s' ↔ s = s' ∧ ∀ setting : Setting, setting.IsInterval →
      0 < s.interval setting ∨ s.interval setting = .notANumber := by
  have hboth : (∀ setting : Setting, setting.IsInterval → ¬ s.interval setting ≤ 0) ↔
      ¬ s.reloadInterval ≤ 0 ∧ ¬ s.rescanInterval ≤ 0 := by
    simp [Setting.IsInterval, interval]
  simp only [zero_lt_or_notANumber_iff]
  rw [hboth]
  unfold checked notPositive
  by_cases hreload : s.reloadInterval ≤ 0
  · simp [hreload]
  · by_cases hrescan : s.rescanInterval ≤ 0
    · simp [hrescan]
    · simp [hreload, hrescan]

theorem load_eq_ok_iff {store : FileStore τ} {given : String} {s : Settings Binary64} :
    load store given environment = .ok s ↔
      ∃ values, fileValues store (path given environment) = .ok values ∧
        ofValues (overridden environment values) = .ok s ∧
        ∀ setting : Setting, setting.IsInterval →
          0 < s.interval setting ∨ s.interval setting = .notANumber := by
  simp only [load_eq, bind_eq_ok, checked_eq_ok_iff]
  constructor
  · rintro ⟨values, hvalues, read, hread, rfl, hintervals⟩
    exact ⟨values, hvalues, hread, hintervals⟩
  · rintro ⟨values, hvalues, hread, hintervals⟩
    exact ⟨values, hvalues, s, hread, rfl, hintervals⟩

/-- The first setting with a value of no use has one that cannot even be
refused. -/
def OverflowsFirst (environment : Environment) (values : NamedValues) : Prop :=
  ∃ before setting after value, Setting.all = before ++ setting :: after ∧
    (∀ earlier ∈ before, IsAccepted environment values earlier) ∧
    override? environment setting = none ∧
    values.lookup setting.name = some value ∧ setting.Overflows value

/-- An interval of settings that are accepted is positive, or the value that
counts for it is the word for no number.  An interval that is zero or below, or
whose value is no time at all, makes the settings fail, and that is reported
unless a value overflows first.  Nothing else is asked of an interval. -/
theorem intervals_positive_or_no_number (store : FileStore τ) (given : String)
    (environment : Environment) {setting : Setting} (hinterval : setting.IsInterval) :
    (∀ s, load store given environment = .ok s →
      ∃ values, fileValues store (path given environment) = .ok values ∧
        secondsFor environment values setting = .ok (s.interval setting) ∧
        (0 < s.interval setting ∨ s.interval setting = .notANumber ∧
          ∃ value, effective? environment values setting = some value ∧ SaysNoNumber value)) ∧
    (∀ values, fileValues store (path given environment) = .ok values →
      (∀ seconds, secondsFor environment values setting = .ok seconds →
        ¬ 0 < seconds ∧ seconds ≠ .notANumber) →
      ∃ fault, load store given environment = .error fault ∧
        (fault.isReported = false ↔ OverflowsFirst environment values)) ∧
    ∀ values, fileValues store (path given environment) = .ok values →
      (∀ other, IsAccepted environment values other) →
      (∀ other seconds, other.IsInterval → secondsFor environment values other = .ok seconds →
        0 < seconds ∨ seconds = .notANumber) →
      ∃ s, load store given environment = .ok s := by
  refine ⟨?_, ?_, ?_⟩
  · intro s hs
    obtain ⟨values, hvalues, hread, hintervals⟩ := load_eq_ok_iff.1 hs
    have hseconds := secondsFor_of_ofValues hinterval hread
    refine ⟨values, hvalues, hseconds, (hintervals setting hinterval).imp_right ?_⟩
    intro hnumber
    rw [hnumber] at hseconds
    exact ⟨hnumber, secondsFor_eq_notANumber_iff.1 hseconds⟩
  · intro values hvalues hfails
    cases hload : load store given environment with
    | ok s =>
        obtain ⟨others, hothers, hread, hintervals⟩ := load_eq_ok_iff.1 hload
        obtain rfl := Except.ok.inj (hvalues.symm.trans hothers)
        obtain ⟨hnotPositive, hnumber⟩ := hfails _ (secondsFor_of_ofValues hinterval hread)
        exact absurd (hintervals setting hinterval) (not_or.2 ⟨hnotPositive, hnumber⟩)
    | error fault =>
        rw [load_eq, hvalues, ok_bind] at hload
        refine ⟨fault, rfl, ?_⟩
        unfold OverflowsFirst
        rw [← ofValues_interrupts_iff, hload]
        simp
  · intro values hvalues haccepted hpositive
    obtain ⟨s, hread⟩ := ofValues_of_isAccepted haccepted
    refine ⟨s, load_eq_ok_iff.2 ⟨values, hvalues, hread, ?_⟩⟩
    intro other hother
    exact hpositive other _ hother (secondsFor_of_ofValues hother hread)

/-- An interval of no number is accepted, one below zero is refused. -/
theorem intervals_positive_or_no_number_reload :
    Setting.reloadInterval.IsInterval ∧
    (∃ s values, load (FileStore.empty : FileStore Binary64) "s.yaml"
        [("HIGHTIDE_CONFIG_RELOAD_INTERVAL", "NaN")] = .ok s ∧
      secondsFor [("HIGHTIDE_CONFIG_RELOAD_INTERVAL", "NaN")] values .reloadInterval =
        .ok s.reloadInterval ∧ s.reloadInterval = .notANumber) ∧
    ∃ fault, load (FileStore.empty : FileStore Binary64) "s.yaml"
        [("HIGHTIDE_CONFIG_RELOAD_INTERVAL", "-1")] = .error fault ∧
      (fault.isReported = false ↔
        OverflowsFirst [("HIGHTIDE_CONFIG_RELOAD_INTERVAL", "-1")] []) := by
  have hreload : Setting.reloadInterval.IsInterval := .inl rfl
  have haccepted : ∃ s, load (FileStore.empty : FileStore Binary64) "s.yaml"
      [("HIGHTIDE_CONFIG_RELOAD_INTERVAL", "NaN")] = .ok s ∧ s.reloadInterval = .notANumber := by
    decide +kernel
  have habsent : (FileStore.empty : FileStore Binary64).contains "s.yaml" = false := by
    decide +kernel
  have hvalues : fileValues (FileStore.empty : FileStore Binary64) "s.yaml" = .ok [] := by
    simp [fileValues, fileValuesWith, habsent]
  have hbelow : ∃ seconds,
      secondsFor [("HIGHTIDE_CONFIG_RELOAD_INTERVAL", "-1")] [] .reloadInterval = .ok seconds ∧
        ¬ 0 < seconds ∧ seconds ≠ .notANumber := by
    decide +kernel
  refine ⟨hreload, ?_, ?_⟩
  · obtain ⟨s, hs, hnumber⟩ := haccepted
    obtain ⟨values, -, hseconds, -⟩ :=
      (intervals_positive_or_no_number .empty "s.yaml" _ hreload).1 s hs
    exact ⟨s, values, hs, hseconds, hnumber⟩
  · refine (intervals_positive_or_no_number .empty "s.yaml" _ hreload).2.1 [] hvalues ?_
    intro seconds hseconds
    obtain ⟨below, hread, hnotPositive⟩ := hbelow
    obtain rfl := Except.ok.inj (hread.symm.trans hseconds)
    exact hnotPositive

end Settings

end PolicyKeeper
