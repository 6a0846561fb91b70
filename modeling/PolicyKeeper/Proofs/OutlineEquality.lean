import PolicyKeeper.OutlineValue

/-!
# Equality of outline values

Outline values can be compared, part by part, so what an outline comes to can be
checked by computation.
-/

namespace PolicyKeeper

deriving instance DecidableEq for ScalarValue

namespace OutlineValue

mutual

def same : OutlineValue → OutlineValue → Bool
  | .scalar s, .scalar t => s == t
  | .list items, .list others => sameItems items others
  | .pairs items, .pairs others => samePairs items others
  | .mapping entries, .mapping others => sameEntries entries others
  | .set members, .set others => members == others
  | .enclosing kind, .enclosing other => kind == other
  | .bottomless, .bottomless => true
  | _, _ => false
termination_by structural value => value

def sameItems : List OutlineValue → List OutlineValue → Bool
  | [], [] => true
  | item :: rest, other :: others => same item other && sameItems rest others
  | _, _ => false
termination_by structural value => value

def samePair : OutlineValue × OutlineValue → OutlineValue × OutlineValue → Bool
  | (key, value), (key', value') => same key key' && same value value'
termination_by structural value => value

def samePairs : List (OutlineValue × OutlineValue) → List (OutlineValue × OutlineValue) → Bool
  | [], [] => true
  | item :: rest, other :: others => samePair item other && samePairs rest others
  | _, _ => false
termination_by structural value => value

def sameEntry : ScalarValue × OutlineValue → ScalarValue × OutlineValue → Bool
  | (key, value), (key', value') => key == key' && same value value'
termination_by structural value => value

def sameEntries : List (ScalarValue × OutlineValue) → List (ScalarValue × OutlineValue) → Bool
  | [], [] => true
  | entry :: rest, other :: others => sameEntry entry other && sameEntries rest others
  | _, _ => false
termination_by structural value => value

end

mutual

theorem same_iff : ∀ (value other : OutlineValue), same value other = true ↔ value = other
  | .scalar s, other => by cases other <;> simp [same]
  | .list items, other => by cases other <;> simp [same, sameItems_iff items]
  | .pairs items, other => by cases other <;> simp [same, samePairs_iff items]
  | .mapping entries, other => by cases other <;> simp [same, sameEntries_iff entries]
  | .set members, other => by cases other <;> simp [same]
  | .enclosing kind, other => by cases other <;> simp [same]
  | .bottomless, other => by cases other <;> simp [same]

theorem sameItems_iff : ∀ (items others : List OutlineValue),
    sameItems items others = true ↔ items = others
  | [], others => by cases others <;> simp [sameItems]
  | item :: rest, others => by
      cases others <;> simp [sameItems, same_iff item, sameItems_iff rest]

theorem samePair_iff : ∀ (item other : OutlineValue × OutlineValue),
    samePair item other = true ↔ item = other
  | (key, value), (key', value') => by simp [samePair, same_iff key, same_iff value]

theorem samePairs_iff : ∀ (items others : List (OutlineValue × OutlineValue)),
    samePairs items others = true ↔ items = others
  | [], others => by cases others <;> simp [samePairs]
  | item :: rest, others => by
      cases others <;> simp [samePairs, samePair_iff item, samePairs_iff rest]

theorem sameEntry_iff : ∀ (entry other : ScalarValue × OutlineValue),
    sameEntry entry other = true ↔ entry = other
  | (key, value), (key', value') => by simp [sameEntry, same_iff value]

theorem sameEntries_iff : ∀ (entries others : List (ScalarValue × OutlineValue)),
    sameEntries entries others = true ↔ entries = others
  | [], others => by cases others <;> simp [sameEntries]
  | entry :: rest, others => by
      cases others <;> simp [sameEntries, sameEntry_iff entry, sameEntries_iff rest]

end

instance : DecidableEq OutlineValue :=
  fun value other => decidable_of_iff (same value other = true) (same_iff value other)

example : OutlineValue.mapping [(.text "a", .list [.scalar (.integer 1)])] ≠ .mapping [] := by
  decide

end OutlineValue

end PolicyKeeper
