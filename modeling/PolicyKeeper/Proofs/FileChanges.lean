import PolicyKeeper.FileStore
import PolicyKeeper.Noted

/-!
# Changes of files

A path that leads to something whose time is known leads to the entry at its
location.  Writing, touching or removing something changes the entry at its
own location; elsewhere entries stay as they are, vanish, or are new directories
whose time is not known.
-/

namespace PolicyKeeper

variable {τ : Type}

def Entry.modified? : Entry τ → Option τ
  | .file _ modified => some modified
  | .directory modified => modified

namespace FileStore

variable {store : FileStore τ} {location : Location} {path : String} {found : Entry τ}

/-! ## Entries at locations -/

theorem lookup_filter_location (keeps : Location → Bool)
    (entries : List (Location × Entry τ)) (location : Location) :
    (entries.filter fun (other, _) => keeps other).lookup location =
      if keeps location then entries.lookup location else none := by
  induction entries with
  | nil => simp
  | cons first rest ih =>
      obtain ⟨other, entry⟩ := first
      by_cases hother : location = other
      · subst hother
        cases hkeeps : keeps location with
        | false => simp [hkeeps, ih]
        | true => simp [hkeeps]
      · have hne : (location == other) = false := beq_false_of_ne hother
        cases hkeeps : keeps other with
        | false => simp [hkeeps, ih, List.lookup_cons, hne]
        | true => simp [hkeeps, ih, List.lookup_cons, hne]

theorem atLocation?_put (store : FileStore τ) (place location : Location) (entry : Entry τ) :
    (store.put place entry).atLocation? location =
      if location <+: store.start then some (.directory none)
      else if location = place then some entry
      else store.atLocation? location := by
  unfold put atLocation?
  by_cases habove : location <+: store.start
  · simp [habove]
  · by_cases hplace : location = place
    · subst hplace
      simp [habove]
    · have hne : (location == place) = false := beq_false_of_ne hplace
      have hkept := lookup_filter_location (fun other => decide (other ≠ place)) store.entries
        location
      simp only [habove, hplace, if_false, List.lookup_cons, hne]
      rw [hkept]
      simp [hplace]

theorem atLocation?_of_above (habove : location <+: store.start) :
    store.atLocation? location = some (.directory none) := if_pos habove

theorem atLocation?_put_eq_some {place : Location} {entry : Entry τ}
    (hfound : (store.put place entry).atLocation? location = some found) :
    found = entry ∧ location = place ∨ store.atLocation? location = some found := by
  rw [atLocation?_put] at hfound
  split at hfound
  next habove =>
    right
    rw [atLocation?_of_above habove]
    exact hfound
  next =>
    split at hfound
    next hplace => exact .inl ⟨(Option.some.inj hfound).symm, hplace⟩
    next => exact .inr hfound

/-! ## Changes -/

@[simp] theorem start_put (location : Location) (entry : Entry τ) (store : FileStore τ) :
    (store.put location entry).start = store.start := rfl

@[simp] theorem start_write (store : FileStore τ) (path : String) (entry : Entry τ) :
    (store.write path entry).start = store.start := by
  have hparents : ∀ (parents : List Location) (store : FileStore τ),
      (parents.foldl (fun store above =>
        if (store.atLocation? above).isSome then store
        else store.put above (.directory none)) store).start = store.start := by
    intro parents
    induction parents with
    | nil => exact fun _ => rfl
    | cons above rest ih =>
        intro store
        rw [List.foldl_cons, ih]
        split <;> rfl
  exact hparents _ store

@[simp] theorem start_touch (store : FileStore τ) (path : String) (modified : τ) :
    (store.touch path modified).start = store.start := by
  unfold touch
  simp only
  split <;> rfl

/-- Paths name the same locations wherever they start in the same directory. -/
theorem locationOf_congr {store' : FileStore τ} (hstart : store'.start = store.start)
    (path : String) : store'.locationOf path = store.locationOf path := by
  unfold locationOf startOf
  rw [hstart]

theorem atLocation?_withParents {parents : List Location}
    (hfound : (parents.foldl (fun store above =>
        if (store.atLocation? above).isSome then store
        else store.put above (.directory none)) store).atLocation? location = some found) :
    found = .directory none ∨ store.atLocation? location = some found := by
  induction parents generalizing store with
  | nil => exact .inr hfound
  | cons above rest ih =>
      rw [List.foldl_cons] at hfound
      rcases ih hfound with hnew | hbefore
      · exact .inl hnew
      · split at hbefore
        next => exact .inr hbefore
        next =>
          rcases atLocation?_put_eq_some hbefore with ⟨hnew, -⟩ | hbefore
          · exact .inl hnew
          · exact .inr hbefore

theorem atLocation?_write {entry : Entry τ}
    (hfound : (store.write path entry).atLocation? location = some found) :
    (found = entry ∧ location = store.locationOf path) ∨ found = .directory none ∨
      store.atLocation? location = some found := by
  rcases atLocation?_put_eq_some hfound with hnew | hbefore
  · exact .inl hnew
  · exact .inr (atLocation?_withParents hbefore)

theorem atLocation?_remove (hfound : (store.remove path).atLocation? location = some found) :
    store.atLocation? location = some found := by
  unfold remove atLocation? at hfound
  unfold atLocation?
  split at hfound
  next habove =>
    rw [if_pos habove]
    exact hfound
  next habove =>
    have hkept := lookup_filter_location
      (fun other => !(store.locationOf path).isPrefixOf other) store.entries location
    rw [hkept] at hfound
    rw [if_neg habove]
    split at hfound
    next => exact hfound
    next => simp at hfound

theorem atLocation?_touch {modified : τ}
    (hfound : (store.touch path modified).atLocation? location = some found) :
    (found.modified? = some modified ∧ location = store.locationOf path) ∨
      store.atLocation? location = some found := by
  unfold touch at hfound
  simp only at hfound
  split at hfound
  next =>
    rcases atLocation?_put_eq_some hfound with ⟨rfl, hplace⟩ | hbefore
    · exact .inl ⟨rfl, hplace⟩
    · exact .inr hbefore
  next =>
    rcases atLocation?_put_eq_some hfound with ⟨rfl, hplace⟩ | hbefore
    · exact .inl ⟨rfl, hplace⟩
    · exact .inr hbefore
  next => exact .inr hfound

/-! ## Times at a location -/

/-- What stands at a location under a known time is as allowed. -/
def TimedAt (store : FileStore τ) (location : Location) (allows : Entry τ → τ → Prop) : Prop :=
  ∀ entry modified, store.atLocation? location = some entry →
    entry.modified? = some modified → allows entry modified

variable {allows : Entry τ → τ → Prop} {written : Entry τ} {time : τ}

theorem timedAt_write (h : store.TimedAt location allows)
    (hnew : location = store.locationOf path →
      ∀ modified, written.modified? = some modified → allows written modified) :
    (store.write path written).TimedAt location allows := by
  intro entry modified hentry hmodified
  rcases atLocation?_write hentry with ⟨rfl, hplace⟩ | rfl | hbefore
  · exact hnew hplace modified hmodified
  · simp [Entry.modified?] at hmodified
  · exact h entry modified hbefore hmodified

theorem timedAt_remove (h : store.TimedAt location allows) :
    (store.remove path).TimedAt location allows := by
  intro entry modified hentry hmodified
  exact h entry modified (atLocation?_remove hentry) hmodified

theorem timedAt_touch (h : store.TimedAt location allows)
    (hnew : location = store.locationOf path → ∀ entry, allows entry time) :
    (store.touch path time).TimedAt location allows := by
  intro entry modified hentry hmodified
  rcases atLocation?_touch hentry with ⟨htime, hplace⟩ | hbefore
  · rw [htime] at hmodified
    obtain rfl := Option.some.inj hmodified
    exact hnew hplace entry
  · exact h entry modified hbefore hmodified

theorem timedAt_put_self
    (hnew : ∀ modified, written.modified? = some modified → allows written modified) :
    (store.put location written).TimedAt location allows := by
  intro entry modified hentry hmodified
  rw [atLocation?_put] at hentry
  split at hentry
  next =>
    obtain rfl := Option.some.inj hentry
    simp [Entry.modified?] at hmodified
  next =>
    rw [if_pos rfl] at hentry
    obtain rfl := Option.some.inj hentry
    exact hnew modified hmodified

theorem timedAt_write_self
    (hnew : ∀ modified, written.modified? = some modified → allows written modified) :
    (store.write path written).TimedAt (store.locationOf path) allows :=
  timedAt_put_self hnew

theorem timedAt_touch_self (hnew : ∀ entry, allows entry time) :
    (store.touch path time).TimedAt (store.locationOf path) allows := by
  unfold touch
  simp only
  split
  next =>
    apply timedAt_put_self
    intro modified hmodified
    obtain rfl := Option.some.inj hmodified
    exact hnew _
  next =>
    apply timedAt_put_self
    intro modified hmodified
    obtain rfl := Option.some.inj hmodified
    exact hnew _
  next hnothing =>
    intro entry modified hentry
    simp [hnothing] at hentry

/-! ## Paths to entries -/

def componentStep (location : Location) (component : String) : Location :=
  if component = "" ∨ component = "." then location
  else if component = ".." then location.dropLast
  else location ++ [component]

theorem locationOf_eq (store : FileStore τ) (path : String) :
    store.locationOf path = (components path).foldl componentStep (store.startOf path) := rfl

/-- The component is the name of an entry: not empty, and no dots that mean the
directory itself or the one above. -/
def IsEntryName (component : String) : Prop :=
  component ≠ "" ∧ component ≠ "." ∧ component ≠ ".."

theorem componentStep_of_isEntryName {component : String} (hname : IsEntryName component)
    (location : Location) : componentStep location component = location ++ [component] := by
  obtain ⟨hempty, hdot, hdots⟩ := hname
  simp [componentStep, hempty, hdot, hdots]

/-- Where one component leads from a place. -/
inductive StepsFrom (store : FileStore τ) (here : Standing τ) : String → Standing τ → Prop
  | stays {component : String} (hstays : component = "" ∨ component = ".") :
      StepsFrom store here component here
  | rises :
      StepsFrom store here ".." { location := here.location.dropLast, entry := .directory none }
  | enters {component : String} {found : Entry τ} (hname : IsEntryName component)
      (hlength : component.utf8ByteSize ≤ longestName)
      (hfound : store.atLocation? (here.location ++ [component]) = some found) :
      StepsFrom store here component
        { location := here.location ++ [component], entry := found }

theorem stepsFrom_of_step {here next : Standing τ} {component : String}
    (hstep : store.step path component here = .ok next) :
    here.entry.isDirectory = true ∧ StepsFrom store here component next := by
  unfold step at hstep
  simp only at hstep
  split at hstep
  next => simp at hstep
  next hdirectory =>
    refine ⟨by simpa using hdirectory, ?_⟩
    split at hstep
    next hstays =>
      obtain rfl := Except.ok.inj hstep
      exact .stays hstays
    next hmoves =>
      rw [not_or] at hmoves
      split at hstep
      next hdots =>
        subst hdots
        obtain rfl := Except.ok.inj hstep
        exact .rises
      next hdots =>
        split at hstep
        next => simp at hstep
        next hlength =>
          split at hstep
          next found hfound =>
            obtain rfl := Except.ok.inj hstep
            exact .enters ⟨hmoves.1, hmoves.2, hdots⟩ (Nat.le_of_not_lt hlength) hfound
          next => simp at hstep

/-- Where a walk stands is the entry at its location, or a directory of which
no more is known. -/
def Standing.Holds (store : FileStore τ) (location : Location) (here : Standing τ) : Prop :=
  here.location = location ∧
    (here.entry = .directory none ∨ store.atLocation? location = some here.entry)

theorem holds_step {here next : Standing τ} {component : String}
    (hhere : here.Holds store location) (hstep : store.step path component here = .ok next) :
    next.Holds store (componentStep location component) := by
  obtain ⟨rfl, hentry⟩ := hhere
  cases (stepsFrom_of_step hstep).2 with
  | stays hstays =>
      rw [componentStep, if_pos hstays]
      exact ⟨rfl, hentry⟩
  | rises => exact ⟨rfl, .inl rfl⟩
  | enters hname hlength hfound =>
      rw [componentStep_of_isEntryName hname]
      exact ⟨rfl, .inr hfound⟩

theorem holds_walk {here next : Standing τ} {rest : List String}
    (hhere : here.Holds store location) (hwalk : store.walk path here rest = .ok next) :
    next.Holds store (rest.foldl componentStep location) := by
  induction rest generalizing here location with
  | nil =>
      obtain rfl := Except.ok.inj hwalk
      exact hhere
  | cons component rest ih =>
      obtain ⟨between, hstep, hrest⟩ := bind_eq_ok.1 hwalk
      exact ih (holds_step hhere hstep) hrest

theorem walk_of_entry (hentry : store.entry path = .ok found) :
    ∃ location, store.walk path { location := store.startOf path, entry := .directory none }
      (components path) = .ok { location, entry := found } := by
  unfold entry at hentry
  split at hentry
  next => simp at hentry
  next =>
    split at hentry
    next => simp at hentry
    next =>
      split at hentry
      next => simp at hentry
      next =>
        obtain ⟨reached, hwalk, hend⟩ := bind_eq_ok.1 hentry
        obtain rfl := Except.ok.inj hend
        exact ⟨reached.location, hwalk⟩

/-- A path that leads to something whose time is known leads to the entry at
its location. -/
theorem atLocation?_of_entry {modified : τ} (hentry : store.entry path = .ok found)
    (hmodified : found.modified? = some modified) :
    store.atLocation? (store.locationOf path) = some found := by
  have hknown : found ≠ .directory none := by
    rintro rfl
    simp [Entry.modified?] at hmodified
  obtain ⟨location, hwalk⟩ := walk_of_entry hentry
  have hstart : ({ location := store.startOf path, entry := .directory none } : Standing τ).Holds
      store (store.startOf path) := ⟨rfl, .inl rfl⟩
  have hholds := holds_walk hstart hwalk
  rw [← locationOf_eq] at hholds
  exact hholds.2.resolve_left hknown

theorem modified?_eq_some {modified : τ} :
    store.modified? path = .ok (some modified) ↔
      ∃ entry, store.entry path = .ok entry ∧ entry.modified? = some modified := by
  unfold modified?
  rw [bind_eq_ok]
  refine exists_congr fun entry => and_congr_right fun _ => ?_
  cases entry with
  | file content time => simp [Entry.modified?]
  | directory time => simp [Entry.modified?]

theorem TimedAt.of_modified? {allows : Entry τ → τ → Prop} {modified : τ}
    (h : store.TimedAt (store.locationOf path) allows)
    (htime : store.modified? path = .ok (some modified)) : ∃ entry, allows entry modified := by
  obtain ⟨entry, hentry, hmodified⟩ := modified?_eq_some.1 htime
  exact ⟨entry, h entry modified (atLocation?_of_entry hentry hmodified) hmodified⟩

end FileStore

end PolicyKeeper
