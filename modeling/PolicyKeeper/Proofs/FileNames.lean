import Mathlib
import PolicyKeeper.FileStore
import PolicyKeeper.Noted

/-!
# Plain file names

A plain file name is a name of its own in a directory, in letters and marks
that mean nothing in an address.  Read as an address it is a path and nothing
else.
-/

namespace PolicyKeeper

def isFileNameCharacter (c : Char) : Bool := c.isAlphanum || c == '.' || c == '-' || c == '_'

structure IsFileName (name : String) : Prop where
  ne_empty : name ≠ ""
  ne_dot : name ≠ "."
  ne_dots : name ≠ ".."
  characters : ∀ c ∈ name.toList, isFileNameCharacter c = true

instance (name : String) : Decidable (IsFileName name) :=
  decidable_of_iff
    (name ≠ "" ∧ name ≠ "." ∧ name ≠ ".." ∧ name.toList.all isFileNameCharacter = true)
    ⟨fun ⟨hempty, hdot, hdots, hall⟩ => ⟨hempty, hdot, hdots, List.all_eq_true.1 hall⟩,
      fun h => ⟨h.ne_empty, h.ne_dot, h.ne_dots, List.all_eq_true.2 h.characters⟩⟩

namespace Url

variable {s : List Char}

/-- The text holds none of the marks that divide an address. -/
def IsUnmarked (s : List Char) : Prop := ∀ c ∈ s, isFileNameCharacter c = true

theorem IsUnmarked.not_mem (hs : IsUnmarked s) {mark : Char}
    (hmark : isFileNameCharacter mark = false) : mark ∉ s := by
  intro hmem
  simp [hs mark hmem] at hmark

theorem cut_of_not_mem {mark : Char} (hmark : mark ∉ s) : cut mark s = (s, none) := by
  have hbefore : s.takeWhile (· ≠ mark) = s := by
    rw [List.takeWhile_eq_self_iff]
    intro c hmem
    have hne : c ≠ mark := by
      rintro rfl
      exact hmark hmem
    simpa using hne
  unfold cut
  rw [hbefore]
  simp

theorem not_blank_of_isFileNameCharacter {c : Char} (hc : isFileNameCharacter c = true) :
    0x20 < c.toNat := by
  simp only [isFileNameCharacter, Char.isAlphanum, Char.isAlpha, Char.isUpper, Char.isLower,
    Char.isDigit, Bool.or_eq_true, Bool.and_eq_true, decide_eq_true_eq, beq_iff_eq, ge_iff_le,
    UInt32.le_iff_toNat_le] at hc
  have hcode : c.toNat = c.val.toNat := rfl
  rcases hc with (((⟨hlow, -⟩ | ⟨hlow, -⟩) | ⟨hlow, -⟩) | rfl | rfl) | rfl
  all_goals simp at *
  all_goals omega

theorem cleaned_eq_self (hs : ∀ c ∈ s, 0x20 < c.toNat) : cleaned s = s := by
  have hstart : s.dropWhile (·.toNat ≤ 0x20) = s := by
    cases s with
    | nil => rfl
    | cons c rest =>
        have hc := hs c List.mem_cons_self
        rw [List.dropWhile_cons_of_neg]
        simpa using hc
  unfold cleaned
  rw [hstart, List.filter_eq_self]
  intro c hmem
  have hc := hs c hmem
  have htab : c ≠ '\t' := fun heq => absurd hc (by rw [heq]; decide)
  have hreturn : c ≠ '\r' := fun heq => absurd hc (by rw [heq]; decide)
  have hfeed : c ≠ '\n' := fun heq => absurd hc (by rw [heq]; decide)
  simp [htab, hreturn, hfeed]

theorem IsUnmarked.cleaned_eq (hs : IsUnmarked s) : cleaned s = s :=
  cleaned_eq_self fun c hmem => not_blank_of_isFileNameCharacter (hs c hmem)

theorem IsUnmarked.split_eq (hs : IsUnmarked s) :
    split s "" = .ok { scheme := "", authority := [], path := s, parameters := [], query := []
                       fragment := [] } := by
  have hscheme : splitScheme "" s = ("", s) := by
    unfold splitScheme
    rw [cut_of_not_mem (hs.not_mem (by decide))]
  have hauthority : splitAuthority s = .ok ([], s) := by
    unfold splitAuthority
    split
    next rest => exact absurd List.mem_cons_self (hs.not_mem (by decide))
    next => rfl
  have hparameters : splitParameters s = (s, []) := by
    have hlast : ';' ∉ (s.reverse.takeWhile (· ≠ '/')).reverse := by
      intro hmem
      have hreversed := (List.takeWhile_sublist _).subset (List.mem_reverse.1 hmem)
      exact hs.not_mem (by decide) (List.mem_reverse.1 hreversed)
    unfold splitParameters
    simp only [cut_of_not_mem hlast]
  have hfragment : cut '#' s = (s, none) := cut_of_not_mem (hs.not_mem (by decide))
  have hquery : cut '?' s = (s, none) := cut_of_not_mem (hs.not_mem (by decide))
  unfold split
  simp only [hs.cleaned_eq, hscheme, hauthority, ok_bind, hfragment, hquery, hparameters]
  simp [parameterSchemes]

end Url

theorem IsFileName.isUnmarked {name : String} (hname : IsFileName name) :
    Url.IsUnmarked name.toList := hname.characters

end PolicyKeeper
