/-!
# Keyed entries

A list of entries, each key once.  A new value takes the place of the entry of
its key, or comes last when the key is new.
-/

namespace PolicyKeeper

/-- Puts an entry in the place of the entry of its key, or at the end. -/
def putEntry (key : String) (value : α) : List (String × α) → List (String × α)
  | [] => [(key, value)]
  | (other, old) :: rest =>
      if other = key then (key, value) :: rest else (other, old) :: putEntry key value rest

theorem mem_keys_putEntry {key k : String} {value : α} {entries : List (String × α)} :
    k ∈ (putEntry key value entries).map (·.1) ↔ k = key ∨ k ∈ entries.map (·.1) := by
  induction entries with
  | nil => simp [putEntry]
  | cons entry rest ih =>
    obtain ⟨other, old⟩ := entry
    by_cases h : other = key
    · simp [putEntry, h]
    · simp only [putEntry, h, if_false, List.map_cons, List.mem_cons, ih]
      grind

theorem nodup_keys_putEntry {key : String} {value : α} {entries : List (String × α)}
    (h : (entries.map (·.1)).Nodup) : ((putEntry key value entries).map (·.1)).Nodup := by
  induction entries with
  | nil => simp [putEntry]
  | cons entry rest ih =>
    obtain ⟨other, old⟩ := entry
    simp only [List.map_cons, List.nodup_cons] at h
    by_cases hkey : other = key
    · simp only [putEntry, hkey, if_true, List.map_cons, List.nodup_cons]
      exact hkey ▸ h
    · simp only [putEntry, hkey, if_false, List.map_cons, List.nodup_cons]
      refine ⟨fun hmem => ?_, ih h.2⟩
      rcases mem_keys_putEntry.1 hmem with heq | hold
      · exact hkey heq
      · exact h.1 hold

theorem lookup_putEntry {key k : String} {value : α} {entries : List (String × α)} :
    (putEntry key value entries).lookup k =
      if k = key then some value else entries.lookup k := by
  induction entries with
  | nil =>
    by_cases h : k = key
    · simp [putEntry, h]
    · simp [putEntry, List.lookup_cons, beq_false_of_ne h, h]
  | cons entry rest ih =>
    obtain ⟨other, old⟩ := entry
    by_cases hkey : other = key
    · subst hkey
      by_cases h : k = other
      · simp [putEntry, h]
      · simp [putEntry, List.lookup_cons, beq_false_of_ne h, h]
    · by_cases h : k = other
      · subst h
        simp [putEntry, hkey]
      · simp [putEntry, hkey, List.lookup_cons, beq_false_of_ne h, ih]

def dropEntry (key : String) (entries : List (String × α)) : List (String × α) :=
  entries.filter fun (other, _) => other ≠ key

theorem keys_putEntry {key : String} {value : α} {entries : List (String × α)} :
    (putEntry key value entries).map (·.1) =
      if key ∈ entries.map (·.1) then entries.map (·.1) else entries.map (·.1) ++ [key] := by
  induction entries with
  | nil => rfl
  | cons entry rest ih =>
      obtain ⟨other, old⟩ := entry
      by_cases hother : other = key
      · simp [putEntry, hother]
      · have hne : key ≠ other := Ne.symm hother
        simp only [putEntry, hother, if_false, List.map_cons, List.mem_cons, hne, false_or, ih]
        split <;> rfl

theorem lookup_cons_eq (key : String) (entry : String × α) (rest : List (String × α)) :
    (entry :: rest).lookup key = if key = entry.1 then some entry.2 else rest.lookup key := by
  obtain ⟨other, value⟩ := entry
  by_cases hkey : key = other
  · simp [hkey]
  · simp [List.lookup_cons, beq_false_of_ne hkey, hkey]

theorem lookup_eq_none_of_not_mem {key : String} {entries : List (String × α)}
    (hkey : key ∉ entries.map (·.1)) : entries.lookup key = none := by
  rw [List.lookup_eq_none_iff]
  intro entry hmem
  have hne : key ≠ entry.1 := fun heq => hkey (heq ▸ List.mem_map_of_mem hmem)
  exact bne_iff_ne.2 hne

/-- Entries are told apart by their keys in order and what is found for each. -/
theorem entries_eq_of_lookup {front back : List (String × α)}
    (hdistinct : (front.map (·.1)).Nodup) (hkeys : front.map (·.1) = back.map (·.1))
    (hlookup : ∀ key, front.lookup key = back.lookup key) : front = back := by
  induction front generalizing back with
  | nil => exact (List.map_eq_nil_iff.1 hkeys.symm).symm
  | cons entry rest ih =>
      cases back with
      | nil => simp at hkeys
      | cons entry' rest' =>
          rw [List.map_cons, List.nodup_cons] at hdistinct
          obtain ⟨hkey, hrest⟩ := List.cons.inj hkeys
          have hvalue := hlookup entry.1
          rw [lookup_cons_eq, lookup_cons_eq, if_pos rfl, if_pos hkey] at hvalue
          have hentry : entry = entry' := Prod.ext hkey (Option.some.inj hvalue)
          have hsame : rest = rest' := by
            apply ih hdistinct.2 hrest
            intro key
            by_cases hfirst : key = entry.1
            · have hmissing : key ∉ rest.map (·.1) := hfirst ▸ hdistinct.1
              have hmissing' : key ∉ rest'.map (·.1) := hrest ▸ hmissing
              rw [lookup_eq_none_of_not_mem hmissing, lookup_eq_none_of_not_mem hmissing']
            · have hfirst' : key ≠ entry'.1 := fun heq => hfirst (heq.trans hkey.symm)
              have hfound := hlookup key
              rw [lookup_cons_eq, lookup_cons_eq, if_neg hfirst, if_neg hfirst'] at hfound
              exact hfound
          rw [hentry, hsame]

theorem lookup_eq_some_of_mem {key : String} {value : α} {entries : List (String × α)}
    (hdistinct : (entries.map (·.1)).Nodup) (hmem : (key, value) ∈ entries) :
    entries.lookup key = some value := by
  induction entries with
  | nil => cases hmem
  | cons entry rest ih =>
      rw [List.map_cons, List.nodup_cons] at hdistinct
      rw [lookup_cons_eq]
      rcases List.mem_cons.1 hmem with rfl | hrest
      · rw [if_pos rfl]
      · have hkey : key ∈ rest.map (·.1) := List.mem_map_of_mem hrest
        have hne : key ≠ entry.1 := fun heq => hdistinct.1 (heq ▸ hkey)
        rw [if_neg hne, ih hdistinct.2 hrest]

theorem mem_of_lookup_eq_some {key : String} {value : α} {entries : List (String × α)}
    (hfound : entries.lookup key = some value) : (key, value) ∈ entries := by
  obtain ⟨front, back, rfl, -⟩ := List.lookup_eq_some_iff.1 hfound
  exact List.mem_append_right front List.mem_cons_self

/-- Where no key stands twice, an entry that is taken away hides no other. -/
theorem lookup_filter {key : String} {entries : List (String × α)} {keeps : String × α → Bool}
    (hdistinct : (entries.map (·.1)).Nodup) :
    (entries.filter keeps).lookup key =
      (entries.lookup key).filter fun value => keeps (key, value) := by
  induction entries with
  | nil => rfl
  | cons entry rest ih =>
      rw [List.map_cons, List.nodup_cons] at hdistinct
      rw [List.filter_cons, lookup_cons_eq]
      by_cases hkey : key = entry.1
      · subst hkey
        have hrest : (rest.filter keeps).lookup entry.1 = none := by
          rw [ih hdistinct.2, lookup_eq_none_of_not_mem hdistinct.1]
          rfl
        by_cases hkeeps : keeps entry = true
        · simp [hkeeps, lookup_cons_eq, Option.filter]
        · simp [hkeeps, hrest, Option.filter]
      · rw [if_neg hkey, ← ih hdistinct.2]
        split
        next => rw [lookup_cons_eq, if_neg hkey]
        next => rfl

theorem lookup_dropEntry {key k : String} {entries : List (String × α)} :
    (dropEntry key entries).lookup k = if k = key then none else entries.lookup k := by
  induction entries with
  | nil => simp [dropEntry]
  | cons entry rest ih =>
      have hrest : dropEntry key rest = rest.filter fun (other, _) => other ≠ key := rfl
      by_cases hentry : entry.1 = key
      · have hdrop : dropEntry key (entry :: rest) = dropEntry key rest := by
          simp [dropEntry, hentry]
        rw [hdrop, ih, lookup_cons_eq, hentry]
        split <;> rfl
      · have hkeep : dropEntry key (entry :: rest) = entry :: dropEntry key rest := by
          simp [dropEntry, hentry]
        rw [hkeep, lookup_cons_eq, lookup_cons_eq, ih]
        by_cases hk : k = entry.1
        · simp [hk, hentry]
        · simp [hk]

theorem nodup_keys_dropEntry {key : String} {entries : List (String × α)}
    (h : (entries.map (·.1)).Nodup) : ((dropEntry key entries).map (·.1)).Nodup :=
  List.Sublist.nodup (List.filter_sublist.map _) h

/-! ## Entries that are put one after the other -/

theorem putEntry_putEntry_same {key : String} {old value : α} {entries : List (String × α)} :
    putEntry key value (putEntry key old entries) = putEntry key value entries := by
  induction entries with
  | nil => simp [putEntry]
  | cons entry rest ih =>
      by_cases hkey : entry.1 = key
      · simp [putEntry, hkey]
      · simp [putEntry, hkey, ih]

/-- The value of a key that is there can be put before or after that of another. -/
theorem putEntry_comm {key other : String} {value value' : α} {entries : List (String × α)}
    (hne : key ≠ other) (hmem : key ∈ entries.map (·.1)) :
    putEntry key value (putEntry other value' entries) =
      putEntry other value' (putEntry key value entries) := by
  induction entries with
  | nil => cases hmem
  | cons entry rest ih =>
      by_cases hkey : entry.1 = key
      · subst hkey
        simp [putEntry, hne]
      · have hrest : key ∈ rest.map (·.1) := by
          simpa [Ne.symm hkey] using hmem
        by_cases hother : entry.1 = other
        · simp [putEntry, hother, Ne.symm hne]
        · simp [putEntry, hkey, hother, ih hrest]

end PolicyKeeper
