import Mathlib.Data.List.Basic
import PolicyKeeper.Noted
import PolicyKeeper.Settings

/-!
# Values of settings

A value is of use for a setting or not.  If it is not, that is reported, unless
the value cannot even be shown: an integer of too many digits has no text, nor
has a collection that goes deeper than the stack, nor anything that holds such a
one, and an integer can be too large for a time.  The first setting with a value
that is of no use decides.
-/

namespace PolicyKeeper

/-! ## Integers that are not written -/

def IsUnwritable (n : Int) : Prop := digitLimit < (decimalDigits n.natAbs).length

instance (n : Int) : Decidable (IsUnwritable n) := inferInstanceAs (Decidable (_ < _))

theorem writeInteger_fails_iff {n : Int} :
    (∃ fault, writeInteger n = .error fault) ↔ IsUnwritable n := by
  by_cases hlong : digitLimit < (decimalDigits n.natAbs).length
  · simp [writeInteger, IsUnwritable, hlong]
  · simp [writeInteger, IsUnwritable, hlong]

namespace ScalarValue

inductive HoldsUnwritable : ScalarValue → Prop
  | integer {n : Int} (hunwritable : IsUnwritable n) : HoldsUnwritable (.integer n)

theorem holdsUnwritable_integer {n : Int} : HoldsUnwritable (.integer n) ↔ IsUnwritable n := by
  constructor
  · rintro ⟨hunwritable⟩
    exact hunwritable
  · exact .integer

theorem plainText_fails_iff {s : ScalarValue} :
    (∃ fault, s.plainText = .error fault) ↔ s.HoldsUnwritable := by
  cases s with
  | integer n =>
      rw [holdsUnwritable_integer, ← writeInteger_fails_iff, plainText]
      simp
  | null | bool | number | text | octets | date | time =>
      constructor
      · rintro ⟨fault, hfault⟩
        cases hfault
      · rintro ⟨⟩

theorem innerText_fails_iff {s : ScalarValue} :
    (∃ fault, s.innerText = .error fault) ↔ s.HoldsUnwritable := by
  cases s with
  | text | date | time =>
      constructor
      · rintro ⟨fault, hfault⟩
        cases hfault
      · rintro ⟨⟩
  | integer | null | bool | number | octets =>
      unfold innerText
      exact plainText_fails_iff

end ScalarValue

namespace OutlineValue

/-- Somewhere in the value is an integer of too many digits, or a collection that
goes deeper than the stack. -/
inductive HoldsUnwritable : OutlineValue → Prop
  | scalar {s : ScalarValue} (hs : s.HoldsUnwritable) : HoldsUnwritable (.scalar s)
  | item {items : List OutlineValue} {item : OutlineValue} (hmem : item ∈ items)
      (hitem : HoldsUnwritable item) : HoldsUnwritable (.list items)
  | first {items : List (OutlineValue × OutlineValue)} {key value : OutlineValue}
      (hmem : (key, value) ∈ items) (hkey : HoldsUnwritable key) : HoldsUnwritable (.pairs items)
  | second {items : List (OutlineValue × OutlineValue)} {key value : OutlineValue}
      (hmem : (key, value) ∈ items) (hvalue : HoldsUnwritable value) :
      HoldsUnwritable (.pairs items)
  | key {entries : List (ScalarValue × OutlineValue)} {key : ScalarValue} {value : OutlineValue}
      (hmem : (key, value) ∈ entries) (hkey : key.HoldsUnwritable) :
      HoldsUnwritable (.mapping entries)
  | value {entries : List (ScalarValue × OutlineValue)} {key : ScalarValue} {value : OutlineValue}
      (hmem : (key, value) ∈ entries) (hvalue : HoldsUnwritable value) :
      HoldsUnwritable (.mapping entries)
  | member {members : List ScalarValue} {s : ScalarValue} (hmem : s ∈ members)
      (hs : s.HoldsUnwritable) : HoldsUnwritable (.set members)
  | bottomless : HoldsUnwritable .bottomless

/-! ## Values that have no text -/

theorem itemTexts_fails_iff {items : List OutlineValue} :
    (∃ fault, itemTexts items = .error fault) ↔
      ∃ item ∈ items, ∃ fault, innerText item = .error fault := by
  induction items with
  | nil => simp [itemTexts]
  | cons item rest ih =>
      rw [itemTexts, bind_fails_iff fun _ => bind_ok_fails_iff.trans ih]
      simp

theorem pairTexts_fails_iff {items : List (OutlineValue × OutlineValue)} :
    (∃ fault, pairTexts items = .error fault) ↔
      ∃ item ∈ items, (∃ fault, innerText item.1 = .error fault) ∨
        ∃ fault, innerText item.2 = .error fault := by
  induction items with
  | nil => simp [pairTexts]
  | cons item rest ih =>
      obtain ⟨key, value⟩ := item
      rw [pairTexts, bind_fails_iff fun _ => bind_fails_iff fun _ => bind_ok_fails_iff.trans ih]
      simp [or_assoc]

theorem entryTexts_fails_iff {entries : List (ScalarValue × OutlineValue)} :
    (∃ fault, entryTexts entries = .error fault) ↔
      ∃ entry ∈ entries, (∃ fault, entry.1.innerText = .error fault) ∨
        ∃ fault, innerText entry.2 = .error fault := by
  induction entries with
  | nil => simp [entryTexts]
  | cons entry rest ih =>
      obtain ⟨key, value⟩ := entry
      rw [entryTexts, bind_fails_iff fun _ => bind_fails_iff fun _ => bind_ok_fails_iff.trans ih]
      simp [or_assoc]

theorem memberTexts_fails_iff {members : List ScalarValue} :
    (∃ fault, members.mapM ScalarValue.innerText = .error fault) ↔
      ∃ s ∈ members, s.HoldsUnwritable := by
  induction members with
  | nil => simp [pure, Except.pure]
  | cons s rest ih =>
      have hcons : (s :: rest).mapM ScalarValue.innerText =
          (s.innerText >>= fun text =>
            rest.mapM ScalarValue.innerText >>= fun texts => .ok (text :: texts)) :=
        List.mapM_cons
      rw [hcons, bind_fails_iff fun _ => bind_ok_fails_iff.trans ih,
        ScalarValue.innerText_fails_iff]
      simp

theorem sizeOf_first_lt {α β : Type} [SizeOf α] [SizeOf β] (pair : α × β) :
    sizeOf pair.1 < sizeOf pair := by
  rw [Prod.mk.sizeOf_spec]
  omega

theorem sizeOf_second_lt {α β : Type} [SizeOf α] [SizeOf β] (pair : α × β) :
    sizeOf pair.2 < sizeOf pair := by
  rw [Prod.mk.sizeOf_spec]
  omega

theorem innerText_fails_iff : ∀ {value : OutlineValue},
    (∃ fault, value.innerText = .error fault) ↔ value.HoldsUnwritable
  | .scalar s => by
      rw [innerText, ScalarValue.innerText_fails_iff]
      exact ⟨.scalar, fun | .scalar hs => hs⟩
  | .list items => by
      have heach : ∀ item ∈ items,
          (∃ fault, item.innerText = .error fault) ↔ item.HoldsUnwritable :=
        fun item hmem => innerText_fails_iff
      rw [innerText, bind_ok_fails_iff, itemTexts_fails_iff]
      constructor
      · rintro ⟨item, hmem, hfails⟩
        exact .item hmem ((heach item hmem).1 hfails)
      · rintro (_ | ⟨hmem, hitem⟩)
        exact ⟨_, hmem, (heach _ hmem).2 hitem⟩
  | .pairs items => by
      have hfirst : ∀ item ∈ items,
          (∃ fault, item.1.innerText = .error fault) ↔ item.1.HoldsUnwritable :=
        fun item hmem => innerText_fails_iff
      have hsecond : ∀ item ∈ items,
          (∃ fault, item.2.innerText = .error fault) ↔ item.2.HoldsUnwritable :=
        fun item hmem => innerText_fails_iff
      rw [innerText, bind_ok_fails_iff, pairTexts_fails_iff]
      constructor
      · rintro ⟨item, hmem, hkey | hvalue⟩
        · exact .first hmem ((hfirst item hmem).1 hkey)
        · exact .second hmem ((hsecond item hmem).1 hvalue)
      · rintro (_ | _ | ⟨hmem, hkey⟩ | ⟨hmem, hvalue⟩)
        · exact ⟨_, hmem, .inl ((hfirst _ hmem).2 hkey)⟩
        · exact ⟨_, hmem, .inr ((hsecond _ hmem).2 hvalue)⟩
  | .mapping entries => by
      have hsecond : ∀ entry ∈ entries,
          (∃ fault, entry.2.innerText = .error fault) ↔ entry.2.HoldsUnwritable :=
        fun entry hmem => innerText_fails_iff
      rw [innerText, bind_ok_fails_iff, entryTexts_fails_iff]
      constructor
      · rintro ⟨entry, hmem, hkey | hvalue⟩
        · exact .key hmem (ScalarValue.innerText_fails_iff.1 hkey)
        · exact .value hmem ((hsecond entry hmem).1 hvalue)
      · rintro (_ | _ | _ | _ | ⟨hmem, hkey⟩ | ⟨hmem, hvalue⟩)
        · exact ⟨_, hmem, .inl (ScalarValue.innerText_fails_iff.2 hkey)⟩
        · exact ⟨_, hmem, .inr ((hsecond _ hmem).2 hvalue)⟩
  | .set members => by
      have hmembers : HoldsUnwritable (.set members) ↔ ∃ s ∈ members, s.HoldsUnwritable :=
        ⟨fun | .member hmem hs => ⟨_, hmem, hs⟩, fun ⟨_, hmem, hs⟩ => .member hmem hs⟩
      rw [innerText, hmembers]
      split
      next hempty => simp [List.isEmpty_iff.1 hempty]
      next => rw [bind_ok_fails_iff, memberTexts_fails_iff]
  | .enclosing kind => by
      constructor
      · rintro ⟨fault, hfault⟩
        cases kind <;> cases hfault
      · rintro ⟨⟩
  | .bottomless => ⟨fun _ => .bottomless, fun _ => ⟨.nestedTooDeep, rfl⟩⟩
decreasing_by
  · have hitem := List.sizeOf_lt_of_mem hmem
    simp
    omega
  · have hpair := List.sizeOf_lt_of_mem hmem
    have hpart := sizeOf_first_lt item
    simp
    omega
  · have hpair := List.sizeOf_lt_of_mem hmem
    have hpart := sizeOf_second_lt item
    simp
    omega
  · have hpair := List.sizeOf_lt_of_mem hmem
    have hpart := sizeOf_second_lt entry
    simp
    omega

theorem text_fails_iff {value : OutlineValue} :
    (∃ fault, value.text = .error fault) ↔ value.HoldsUnwritable := by
  cases value with
  | scalar s =>
      show (∃ fault, s.plainText = .error fault) ↔ _
      rw [ScalarValue.plainText_fails_iff]
      exact ⟨.scalar, fun | .scalar hs => hs⟩
  | list | pairs | mapping | set | enclosing | bottomless =>
      show (∃ fault, innerText _ = .error fault) ↔ _
      exact innerText_fails_iff

end OutlineValue

/-! ## Values of no use -/

def faultOf? {ε α : Type} : Except ε α → Option ε
  | .ok _ => none
  | .error fault => some fault

theorem faultOf?_eq_some {ε α : Type} {outcome : Except ε α} {fault : ε} :
    faultOf? outcome = some fault ↔ outcome = .error fault := by
  cases outcome <;> simp [faultOf?]

theorem faultOf?_bind {ε α β : Type} (outcome : Except ε α) (next : α → Except ε β)
    {later : Option ε} (hnext : ∀ value, faultOf? (next value) = later) :
    faultOf? (outcome >>= next) = (faultOf? outcome).or later := by
  cases outcome with
  | error fault => rfl
  | ok value => exact hnext value

namespace Setting

/-- What is wrong with a value for a setting. -/
def refusal? (setting : Setting) (value : OutlineValue) : Option SettingsFault :=
  match setting with
  | .configFile => faultOf? (Settings.readFileName value)
  | .reload => faultOf? (Settings.readSwitch .reload value)
  | .reloadInterval => faultOf? (Settings.readSeconds .reloadInterval value)
  | .rescanInterval => faultOf? (Settings.readSeconds .rescanInterval value)
  | .includes => faultOf? (Settings.readSwitch .includes value)

def IsInterval (setting : Setting) : Prop :=
  setting = .reloadInterval ∨ setting = .rescanInterval

/-- The value cannot even be refused: it has no text, or it is an integer
beyond all seconds. -/
inductive Overflows (setting : Setting) : OutlineValue → Prop
  | seconds {n : Int} {negative : Bool} (hinterval : setting.IsInterval)
      (hbeyond : Binary64.ofInt n = .infinite negative) : Overflows setting (.scalar (.integer n))
  | unwritable {value : OutlineValue} (hunwritable : value.HoldsUnwritable)
      (hshown : setting.IsInterval → ∀ n, value ≠ .scalar (.integer n)) : Overflows setting value

theorem overflows_integer_iff {setting : Setting} (hinterval : setting.IsInterval) {n : Int} :
    setting.Overflows (.scalar (.integer n)) ↔
      ∃ negative, Binary64.ofInt n = .infinite negative := by
  constructor
  · rintro (⟨-, hbeyond⟩ | ⟨-, hshown⟩)
    · exact ⟨_, hbeyond⟩
    · exact absurd rfl (hshown hinterval n)
  · rintro ⟨negative, hbeyond⟩
    exact .seconds hinterval hbeyond

theorem overflows_iff_holdsUnwritable {setting : Setting} {value : OutlineValue}
    (hshown : setting.IsInterval → ∀ n, value ≠ .scalar (.integer n)) :
    setting.Overflows value ↔ value.HoldsUnwritable := by
  constructor
  · rintro (⟨hinterval, -⟩ | ⟨hunwritable, -⟩)
    · exact absurd rfl (hshown hinterval _)
    · exact hunwritable
  · intro hunwritable
    exact .unwritable hunwritable hshown

end Setting

namespace Settings

theorem faultOf?_valueOr {α : Type} (values : NamedValues) (setting : Setting) (standard : α)
    (read : OutlineValue → Except SettingsFault α) :
    faultOf? (valueOr values setting standard read) =
      (values.lookup setting.name).bind fun value => faultOf? (read value) := by
  unfold valueOr
  cases values.lookup setting.name <;> rfl

theorem findSome?_cons_eq_or {α β : Type} (f : α → Option β) (first : α) (rest : List α) :
    (first :: rest).findSome? f = (f first).or (rest.findSome? f) := by
  rw [List.findSome?_cons]
  cases f first <;> rfl

/-- The first setting with a value of no use decides. -/
theorem faultOf?_ofValues (values : NamedValues) :
    faultOf? (ofValues values) =
      Setting.all.findSome? fun setting => (values.lookup setting.name).bind setting.refusal? := by
  unfold ofValues
  refine Eq.trans (faultOf?_bind _ _ fun configFile => faultOf?_bind _ _ fun reloadEnabled =>
    faultOf?_bind _ _ fun reloadInterval => faultOf?_bind _ _ fun rescanInterval =>
    faultOf?_bind _ _ fun includes => rfl) ?_
  simp only [faultOf?_valueOr, Setting.all, findSome?_cons_eq_or, List.findSome?_nil]
  rfl

/-! ## Faults that interrupt -/

theorem not_isUnwritable_zero : ¬ IsUnwritable 0 := by decide +kernel

theorem not_holdsUnwritable_of_isEmpty {value : OutlineValue} (hempty : value.isEmpty = true) :
    ¬ value.HoldsUnwritable := by
  rintro (@⟨s, hs⟩ | ⟨hmem, -⟩ | ⟨hmem, -⟩ | ⟨hmem, -⟩ | ⟨hmem, -⟩ | ⟨hmem, -⟩ | ⟨hmem, -⟩ | -)
  case scalar =>
    obtain ⟨hunwritable⟩ := hs
    obtain rfl := of_decide_eq_true hempty
    exact not_isUnwritable_zero hunwritable
  case bottomless => cases hempty
  all_goals
    obtain rfl := List.isEmpty_iff.1 hempty
    cases hmem

/-- Where a value is taken by its text, only a value without text interrupts. -/
theorem text_interrupts_iff {α : Type} {value : OutlineValue}
    {next : String → Except SettingsFault α}
    (hnext : ∀ text fault, next text = .error fault → fault.isReported = true) :
    (∃ fault, (value.text.mapError SettingsFault.unshown >>= next) = .error fault ∧
        fault.isReported = false) ↔ value.HoldsUnwritable := by
  rw [← OutlineValue.text_fails_iff]
  cases htext : value.text with
  | error cause => exact ⟨fun _ => ⟨cause, rfl⟩, fun _ => ⟨.unshown cause, rfl, rfl⟩⟩
  | ok text =>
      constructor
      · rintro ⟨fault, hfault, hunreported⟩
        rw [hnext text fault hfault] at hunreported
        cases hunreported
      · rintro ⟨fault, hfault⟩
        cases hfault

theorem readFileName_interrupts_iff {value : OutlineValue} :
    (∃ fault, readFileName value = .error fault ∧ fault.isReported = false) ↔
      value.HoldsUnwritable := by
  unfold readFileName
  split
  next hempty => simp [not_holdsUnwritable_of_isEmpty hempty]
  next =>
    have hnext : ∀ text fault, (.ok (some text) : Except SettingsFault (Option String)) =
        .error fault → fault.isReported = true := by
      rintro _ _ ⟨⟩
    rw [← text_interrupts_iff hnext]
    cases value.text <;> rfl

theorem readSwitch_interrupts_iff (setting : Setting) {value : OutlineValue} :
    (∃ fault, readSwitch setting value = .error fault ∧ fault.isReported = false) ↔
      value.HoldsUnwritable := by
  unfold readSwitch
  split
  next b =>
    constructor
    · rintro ⟨fault, hfault, -⟩
      cases hfault
    · rintro ⟨⟨⟩⟩
  next =>
    apply text_interrupts_iff
    intro text fault hfault
    dsimp only at hfault
    split at hfault
    next => cases hfault
    next =>
      split at hfault
      next => cases hfault
      next =>
        obtain rfl := Except.error.inj hfault
        rfl

theorem refuseSeconds_interrupts_iff {setting : Setting} {value : OutlineValue} :
    (∃ fault, refuseSeconds setting value = .error fault ∧ fault.isReported = false) ↔
      value.HoldsUnwritable := by
  apply text_interrupts_iff
  intro text fault hfault
  obtain rfl := Except.error.inj hfault
  rfl

theorem secondsOfText_interrupts {setting : Setting} {value : OutlineValue} {text : String}
    {fault : SettingsFault} (hfault : secondsOfText setting value text = .error fault)
    (hunreported : fault.isReported = false) : value.HoldsUnwritable := by
  unfold secondsOfText at hfault
  split at hfault
  next => cases hfault
  next => exact refuseSeconds_interrupts_iff.1 ⟨fault, hfault, hunreported⟩

theorem secondsOfInteger_interrupts_iff {n : Int} :
    (∃ fault, secondsOfInteger n = .error fault ∧ fault.isReported = false) ↔
      ∃ negative, Binary64.ofInt n = .infinite negative := by
  unfold secondsOfInteger
  constructor
  · rintro ⟨fault, hfault, -⟩
    split at hfault
    next negative hbeyond => exact ⟨negative, hbeyond⟩
    next => cases hfault
  · rintro ⟨negative, hbeyond⟩
    exact ⟨.beyondSeconds, by rw [hbeyond], rfl⟩

theorem readSeconds_interrupts_iff {setting : Setting} (hinterval : setting.IsInterval)
    {value : OutlineValue} :
    (∃ fault, readSeconds setting value = .error fault ∧ fault.isReported = false) ↔
      setting.Overflows value := by
  by_cases hinteger : ∃ n, value = .scalar (.integer n)
  · obtain ⟨n, rfl⟩ := hinteger
    rw [Setting.overflows_integer_iff hinterval]
    exact secondsOfInteger_interrupts_iff
  · rw [Setting.overflows_iff_holdsUnwritable fun _ n hn => hinteger ⟨n, hn⟩]
    unfold readSeconds
    split
    next b =>
      constructor
      · rintro ⟨fault, hfault, -⟩
        cases hfault
      · rintro ⟨⟨⟩⟩
    next n => exact absurd ⟨n, rfl⟩ hinteger
    next x =>
      constructor
      · rintro ⟨fault, hfault, -⟩
        cases hfault
      · rintro ⟨⟨⟩⟩
    next text =>
      constructor
      · rintro ⟨fault, hfault, hunreported⟩
        exact secondsOfText_interrupts hfault hunreported
      · rintro ⟨⟨⟩⟩
    next octets =>
      split
      next =>
        constructor
        · rintro ⟨fault, hfault, hunreported⟩
          exact secondsOfText_interrupts hfault hunreported
        · rintro ⟨⟨⟩⟩
      next => exact refuseSeconds_interrupts_iff
    next => exact refuseSeconds_interrupts_iff

end Settings

namespace Setting

/-- A value interrupts just where it cannot even be refused. -/
theorem refusal_interrupts_iff {setting : Setting} {value : OutlineValue} :
    (∃ fault, setting.refusal? value = some fault ∧ fault.isReported = false) ↔
      setting.Overflows value := by
  have hother (hnot : ¬ setting.IsInterval) : setting.Overflows value ↔ value.HoldsUnwritable :=
    overflows_iff_holdsUnwritable fun hinterval => absurd hinterval hnot
  cases setting with
  | configFile =>
      rw [hother (by rintro (h | h) <;> cases h), ← Settings.readFileName_interrupts_iff]
      simp only [refusal?, faultOf?_eq_some]
  | reload =>
      rw [hother (by rintro (h | h) <;> cases h), ← Settings.readSwitch_interrupts_iff .reload]
      simp only [refusal?, faultOf?_eq_some]
  | reloadInterval =>
      rw [← Settings.readSeconds_interrupts_iff (.inl rfl)]
      simp only [refusal?, faultOf?_eq_some]
  | rescanInterval =>
      rw [← Settings.readSeconds_interrupts_iff (.inr rfl)]
      simp only [refusal?, faultOf?_eq_some]
  | includes =>
      rw [hother (by rintro (h | h) <;> cases h), ← Settings.readSwitch_interrupts_iff .includes]
      simp only [refusal?, faultOf?_eq_some]

theorem not_overflows_text {setting : Setting} {text : String} :
    ¬ setting.Overflows (.scalar (.text text)) := by
  rintro (_ | ⟨hunwritable, -⟩)
  obtain ⟨⟨⟩⟩ := hunwritable

theorem name_inj {s t : Setting} (h : s.name = t.name) : s = t := by
  cases s <;> cases t <;> first | rfl | (exact absurd h (by decide))

end Setting

/-! ## Values of the environment -/

namespace Settings

/-- The text that the environment puts before any other value of a setting. -/
def override? (environment : Environment) (setting : Setting) : Option String :=
  (environment.lookup setting.variableName).filter (· ≠ "")

/-- The value that counts for a setting. -/
def effective? (environment : Environment) (values : NamedValues) (setting : Setting) :
    Option OutlineValue :=
  ((override? environment setting).map fun text => .scalar (.text text)).or
    (values.lookup setting.name)

variable {environment : Environment}

theorem lookup_overriddenBy (values : NamedValues) (s t : Setting) :
    (overriddenBy environment values s).lookup t.name =
      if t = s then effective? environment values t else values.lookup t.name := by
  have hname : t.name = s.name ↔ t = s := ⟨Setting.name_inj, congrArg _⟩
  unfold overriddenBy effective? override?
  by_cases hts : t = s
  · subst hts
    cases environment.lookup t.variableName with
    | none => simp
    | some text =>
        by_cases htext : text = ""
        · simp [htext, Option.filter]
        · simp [htext, Option.filter, lookup_putEntry]
  · cases environment.lookup s.variableName with
    | none => simp [hts]
    | some text =>
        by_cases htext : text = ""
        · simp [htext, hts]
        · simp [htext, hts, lookup_putEntry, hname]

theorem lookup_foldl_overriddenBy (settings : List Setting) (values : NamedValues) (t : Setting) :
    (settings.foldl (overriddenBy environment) values).lookup t.name =
      if t ∈ settings then effective? environment values t else values.lookup t.name := by
  induction settings generalizing values with
  | nil => simp
  | cons s rest ih =>
      have hagain : effective? environment (overriddenBy environment values s) t =
          effective? environment values t := by
        unfold effective?
        rw [lookup_overriddenBy]
        split
        next => simp [effective?, ← Option.or_assoc]
        next => rfl
      rw [List.foldl_cons, ih, hagain, lookup_overriddenBy]
      by_cases hrest : t ∈ rest
      · simp [hrest]
      · simp [hrest]

/-- The first setting with a value of no use decides, be it of the environment
or of the file. -/
theorem faultOf?_overridden (values : NamedValues) :
    faultOf? (ofValues (overridden environment values)) =
      Setting.all.findSome? fun setting =>
        (effective? environment values setting).bind setting.refusal? := by
  have hall (setting : Setting) : setting ∈ Setting.all := by cases setting <;> decide
  simp only [faultOf?_ofValues, overridden, lookup_foldl_overriddenBy, hall, if_true]

end Settings

end PolicyKeeper
