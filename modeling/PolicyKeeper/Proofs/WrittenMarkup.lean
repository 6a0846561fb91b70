import PolicyKeeper.MarkupDocument
import PolicyKeeper.Proofs.SpelledParts

/-!
# Markup as it is written

Content is written with a tag at the start and at the end of each element,
around the writing of what it contains.  Blanks that only lay the content out
stand as they are; in other texts and in attributes, what could be taken for
markup is spelled.  What is written is cut into the pieces that were meant.
-/

namespace PolicyKeeper

namespace Markup

/-! ## Writing -/

def escaped (s : String) : List Char := spelled isPathCharacter s.toList

def attributeText (entry : String × String) : List Char :=
  ' ' :: entry.1.toList ++ '=' :: '"' :: escaped entry.2 ++ ['"']

def startTag (tag : String) (attributes : List (String × String)) : List Char :=
  '<' :: tag.toList ++ attributes.flatMap attributeText ++ ['>']

def endTag (tag : String) : List Char := '<' :: '/' :: tag.toList ++ ['>']

/-- The characters that stand bare in a text. -/
def bareIn (s : List Char) : Char → Bool := if s.all isLayout then isLayout else isPathCharacter

/-- How content is written; remarks are not. -/
def written : List Node → List Char
  | [] => []
  | .element tag attributes content :: rest =>
      startTag tag attributes ++ written content ++ endTag tag ++ written rest
  | .text s :: rest => spelled (bareIn s.toList) s.toList ++ written rest
  | .remark :: rest => written rest

theorem written_append (front back : List Node) :
    written (front ++ back) = written front ++ written back := by
  induction front with
  | nil => simp [written]
  | cons node rest ih => cases node <;> simp [written, ih]

theorem written_toNode (e : Element) :
    written [e.toNode] = startTag e.tag e.attributes ++ written e.content ++ endTag e.tag := by
  simp [Element.toNode, written]

def writtenAttribute (entry : String × String) : WrittenAttribute :=
  { name := entry.1, value := entry.2.toList.map (partOf isPathCharacter) }

/-- The pieces that the writing of content consists of. -/
def piecesOf : List Node → List Piece
  | [] => []
  | .element tag attributes content :: rest =>
      .start tag (attributes.map writtenAttribute) false :: piecesOf content ++
        .finish tag :: piecesOf rest
  | .text s :: rest => .run (s.toList.map (partOf (bareIn s.toList))) :: piecesOf rest
  | .remark :: rest => piecesOf rest

/-! ## What can be written -/

structure IsSimpleName (name : String) : Prop where
  ne_empty : name ≠ ""
  letters : ∀ c ∈ name.toList, c.isAlpha = true

instance (name : String) : Decidable (IsSimpleName name) :=
  decidable_of_iff (name ≠ "" ∧ name.toList.all Char.isAlpha = true)
    ⟨fun ⟨hne, hletters⟩ => ⟨hne, List.all_eq_true.1 hletters⟩,
      fun h => ⟨h.ne_empty, List.all_eq_true.2 h.letters⟩⟩

def IsAllowedText (s : String) : Prop := ∀ c ∈ s.toList, isAllowed c = true

instance (s : String) : Decidable (IsAllowedText s) :=
  decidable_of_iff (s.toList.all isAllowed = true) List.all_eq_true

structure AreWritable (attributes : List (String × String)) : Prop where
  names : ∀ entry ∈ attributes, IsSimpleName entry.1
  free : ∀ entry ∈ attributes, entry.1 ≠ "xmlns"
  values : ∀ entry ∈ attributes, IsAllowedText entry.2
  distinct : (attributes.map (·.1)).Nodup

theorem AreWritable.tail {entry : String × String} {rest : List (String × String)}
    (h : AreWritable (entry :: rest)) : AreWritable rest := by
  constructor
  · exact fun other hmem => h.names other (.tail _ hmem)
  · exact fun other hmem => h.free other (.tail _ hmem)
  · exact fun other hmem => h.values other (.tail _ hmem)
  · exact (List.nodup_cons.1 h.distinct).2

/-- Content without remarks, where no text is empty or stands beside another
text. -/
inductive Writable : List Node → Prop
  | nil : Writable []
  | element {tag : String} {attributes : List (String × String)} {content rest : List Node} :
      IsSimpleName tag → AreWritable attributes → Writable content → Writable rest →
        Writable (.element tag attributes content :: rest)
  | text {s : String} {rest : List Node} :
      s ≠ "" → IsAllowedText s → (∀ s' more, rest ≠ .text s' :: more) → Writable rest →
        Writable (.text s :: rest)

structure IsWritable (e : Element) : Prop where
  tag : IsSimpleName e.tag
  attributes : AreWritable e.attributes
  content : Writable e.content

/-! ## Runs up to a mark -/

section

variable {p : Char → Bool} {s : List Char} {mark : Char} (hs : ∀ c ∈ s, p c = true)
  (hmark : p mark = false) (rest : List Char)

include hs hmark

theorem takeWhile_append_mark : (s ++ mark :: rest).takeWhile p = s := by
  rw [List.takeWhile_append_of_pos hs, List.takeWhile_cons_of_neg (by simp [hmark])]
  exact List.append_nil s

theorem dropWhile_append_mark : (s ++ mark :: rest).dropWhile p = mark :: rest := by
  rw [List.dropWhile_append_of_pos hs, List.dropWhile_cons_of_neg (by simp [hmark])]

end

theorem decide_ne_of_not_mem {s : List Char} {mark : Char} (hs : mark ∉ s) :
    ∀ c ∈ s, decide (c ≠ mark) = true := by
  intro c hc
  rw [decide_eq_true_eq]
  rintro rfl
  exact hs hc

theorem splitPast?_append {mark : Char} {s : List Char} (hs : mark ∉ s) (rest : List Char) :
    splitPast? [mark] (s ++ mark :: rest) = some (s, rest) := by
  induction s with
  | nil => simp [splitPast?, List.isPrefixOf]
  | cons c s ih =>
      rw [List.mem_cons, not_or] at hs
      rw [List.cons_append, splitPast?, ih hs.2]
      simp [List.isPrefixOf, hs.1]

theorem occursIn_of_not_mem {first : Char} {more s : List Char} (hs : first ∉ s) :
    occursIn (first :: more) s = false := by
  unfold occursIn
  induction s with
  | nil => simp [splitPast?]
  | cons c s ih =>
      rw [List.mem_cons, not_or] at hs
      have hmore := ih hs.2
      rw [splitPast?]
      simpa [List.isPrefixOf, hs.1] using hmore

/-! ## Names -/

theorem isNameStart_of_isAlpha {c : Char} (hc : c.isAlpha = true) : isNameStart c = true := by
  simp [isNameStart, hc]

theorem isNameCharacter_of_isAlpha {c : Char} (hc : c.isAlpha = true) :
    isNameCharacter c = true := by
  simp [isNameCharacter, isNameStart_of_isAlpha hc]

theorem IsSimpleName.exists_cons {name : String} (h : IsSimpleName name) :
    ∃ c rest, name.toList = c :: rest ∧ c.isAlpha = true ∧
      ∀ other ∈ rest, other.isAlpha = true := by
  cases hname : name.toList with
  | nil => exact absurd (String.toList_eq_nil_iff.1 hname) h.ne_empty
  | cons c rest =>
      have hall := h.letters
      rw [hname] at hall
      exact ⟨c, rest, rfl, hall c List.mem_cons_self, fun other hmem => hall other (.tail c hmem)⟩

theorem scanQualifiedName?_append {name : String} (h : IsSimpleName name) {mark : Char}
    (hmark : isNameCharacter mark = false) (hcolon : mark ≠ ':') (rest : List Char) :
    scanQualifiedName? (name.toList ++ mark :: rest) = some (name, mark :: rest) := by
  obtain ⟨c, inner, hname, hc, hinner⟩ := h.exists_cons
  have hinside : ∀ other ∈ inner, isNameCharacter other = true :=
    fun other hmem => isNameCharacter_of_isAlpha (hinner other hmem)
  have htaken := takeWhile_append_mark hinside hmark rest
  have hleft := dropWhile_append_mark hinside hmark rest
  have hscan : scanName? (name.toList ++ mark :: rest) = some (name.toList, mark :: rest) := by
    rw [hname, List.cons_append, scanName?, if_pos (isNameStart_of_isAlpha hc), htaken, hleft]
  unfold scanQualifiedName?
  rw [hscan]
  simp [hcolon]

/-! ## Tags -/

theorem not_mem_escaped (s : String) {mark : Char} (hmark : mark ∈ marks) (hother : mark ≠ '&') :
    mark ∉ escaped s :=
  not_mem_spelled (fun _ => isHarmless_of_isPathCharacter) hmark hother

theorem parts?_escaped {s : String} (hs : IsAllowedText s) :
    parts? (escaped s) = some (s.toList.map (partOf isPathCharacter)) :=
  parts?_spelled (fun _ => isHarmless_of_isPathCharacter) hs

theorem ne_of_isAlpha {c mark : Char} (hc : c.isAlpha = true) (hmark : mark.isAlpha = false) :
    c ≠ mark := by
  rintro rfl
  simp [hc] at hmark

theorem isBlank_of_isAlpha {c : Char} (hc : c.isAlpha = true) : isBlank c = false := by
  have hspace : c ≠ ' ' := ne_of_isAlpha hc (by decide)
  have htab : c ≠ '\t' := ne_of_isAlpha hc (by decide)
  have hfeed : c ≠ '\n' := ne_of_isAlpha hc (by decide)
  have hreturn : c ≠ '\r' := ne_of_isAlpha hc (by decide)
  simp [isBlank, hspace, htab, hfeed, hreturn]

theorem scanAttributes?_attributeText {entry : String × String} (hname : IsSimpleName entry.1)
    (hvalue : IsAllowedText entry.2) (bound : Nat) (s : List Char) :
    scanAttributes? (bound + 1) (attributeText entry ++ s) =
      (scanAttributes? bound s).map fun (more, closed, rest) =>
        (writtenAttribute entry :: more, closed, rest) := by
  obtain ⟨c, inner, hchars, hc, -⟩ := hname.exists_cons
  obtain ⟨after, hafter⟩ : ∃ after, after = escaped entry.2 ++ '"' :: s := ⟨_, rfl⟩
  have htext : attributeText entry ++ s = ' ' :: (entry.1.toList ++ '=' :: '"' :: after) := by
    simp [attributeText, hafter]
  have hskip : skipBlanks (' ' :: (entry.1.toList ++ '=' :: '"' :: after)) =
      entry.1.toList ++ '=' :: '"' :: after := by
    rw [skipBlanks, List.dropWhile_cons_of_pos (by decide), hchars, List.cons_append,
      List.dropWhile_cons_of_neg (by simp [isBlank_of_isAlpha hc])]
  have hscan : scanQualifiedName? (entry.1.toList ++ '=' :: '"' :: after) =
      some (entry.1, '=' :: '"' :: after) :=
    scanQualifiedName?_append hname (by decide) (by decide) _
  have hequals : skipBlanks ('=' :: '"' :: after) = '=' :: '"' :: after := rfl
  have hquote : skipBlanks ('"' :: after) = '"' :: after := rfl
  have hquoted : splitPast? ['"'] after = some (escaped entry.2, s) := by
    rw [hafter]
    exact splitPast?_append (not_mem_escaped entry.2 (by decide) (by decide)) s
  have hmark : '<' ∉ escaped entry.2 := not_mem_escaped entry.2 (by decide) (by decide)
  rw [htext, scanAttributes?]
  · rw [hskip]
    split
    next heq =>
      rw [hchars] at heq
      exact absurd (List.cons.inj heq).1 (ne_of_isAlpha hc (by decide))
    next heq =>
      rw [hchars] at heq
      exact absurd (List.cons.inj heq).1 (ne_of_isAlpha hc (by decide))
    next =>
      simp only [hscan, Option.bind_eq_bind, Option.bind_some, hequals, hquote, hquoted,
        parts?_escaped hvalue]
      cases scanAttributes? bound s with
      | none => simp [hmark]
      | some found =>
          simp [hmark]
          rfl
  all_goals simp

theorem scanAttributes?_append {attributes : List (String × String)}
    (h : AreWritable attributes) {bound : Nat} (hbound : attributes.length < bound)
    (rest : List Char) :
    scanAttributes? bound (attributes.flatMap attributeText ++ '>' :: rest) =
      some (attributes.map writtenAttribute, false, rest) := by
  induction attributes generalizing bound with
  | nil =>
      cases bound with
      | zero => simp at hbound
      | succ bound => rfl
  | cons entry more ih =>
      cases bound with
      | zero => simp at hbound
      | succ bound =>
          have hname := h.names entry (.head _)
          have hvalue := h.values entry (.head _)
          have hfurther := ih h.tail (Nat.lt_of_succ_lt_succ hbound)
          rw [List.flatMap_cons, List.append_assoc, scanAttributes?_attributeText hname hvalue,
            hfurther]
          rfl

theorem not_mem_attributeText {entry : String × String} (hname : IsSimpleName entry.1) :
    '<' ∉ attributeText entry := by
  have hvalue : '<' ∉ escaped entry.2 := not_mem_escaped entry.2 (by decide) (by decide)
  have hkey : '<' ∉ entry.1.toList := by
    intro hmem
    exact absurd (hname.letters '<' hmem) (by decide)
  simp [attributeText, hkey, hvalue]

theorem length_le_flatMap_attributeText (attributes : List (String × String)) :
    attributes.length ≤ (attributes.flatMap attributeText).length := by
  induction attributes with
  | nil => simp
  | cons entry more ih =>
      rw [List.flatMap_cons, List.length_append, List.length_cons]
      have hone : 1 ≤ (attributeText entry).length := by simp [attributeText]
      omega

/-- There are enough characters before the next tag for all attributes. -/
theorem length_lt_takeWhile {attributes : List (String × String)}
    (h : AreWritable attributes) (rest : List Char) :
    attributes.length <
      ((attributes.flatMap attributeText ++ '>' :: rest).takeWhile (· ≠ '<')).length + 1 := by
  have hmark : '<' ∉ attributes.flatMap attributeText := by
    intro hmem
    obtain ⟨entry, hentry, hin⟩ := List.mem_flatMap.1 hmem
    exact not_mem_attributeText (h.names entry hentry) hin
  have hlength := length_le_flatMap_attributeText attributes
  rw [List.takeWhile_append_of_pos (decide_ne_of_not_mem hmark), List.length_append]
  omega

theorem scanPiece?_startTag {tag : String} {attributes : List (String × String)}
    (htag : IsSimpleName tag) (hattributes : AreWritable attributes) (rest : List Char) :
    scanPiece? (startTag tag attributes ++ rest) =
      some (.start tag (attributes.map writtenAttribute) false, rest) := by
  obtain ⟨after, hafter⟩ : ∃ after, after = attributes.flatMap attributeText ++ '>' :: rest :=
    ⟨_, rfl⟩
  have htext : startTag tag attributes ++ rest = '<' :: (tag.toList ++ after) := by
    simp [startTag, hafter]
  have hscan : scanQualifiedName? (tag.toList ++ after) = some (tag, after) := by
    rw [hafter]
    cases attributes with
    | nil => exact scanQualifiedName?_append htag (by decide) (by decide) _
    | cons entry more =>
        exact scanQualifiedName?_append htag (by decide) (by decide) _
  have hbound := length_lt_takeWhile hattributes rest
  have hread := scanAttributes?_append hattributes hbound rest
  have hstart : scanStartTag? (tag.toList ++ after) =
      some (.start tag (attributes.map writtenAttribute) false, rest) := by
    unfold scanStartTag?
    rw [hscan]
    simp only [Option.bind_eq_bind, Option.bind_some]
    rw [hafter, hread]
    rfl
  obtain ⟨c, inner, hchars, hc, -⟩ := htag.exists_cons
  rw [htext, ← hstart, hchars]
  have hslash : c ≠ '/' := ne_of_isAlpha hc (by decide)
  have hquestion : c ≠ '?' := ne_of_isAlpha hc (by decide)
  have hbang : c ≠ '!' := ne_of_isAlpha hc (by decide)
  show scanMarked? _ = _
  rw [List.cons_append, scanMarked?.eq_def]
  split
  next heq => exact absurd (List.cons.inj heq).1 hslash
  next heq => exact absurd (List.cons.inj heq).1 hquestion
  next heq => exact absurd (List.cons.inj heq).1 hbang
  next heq => exact absurd (List.cons.inj heq).1 hbang
  next => rfl

theorem scanPiece?_endTag {tag : String} (htag : IsSimpleName tag) (rest : List Char) :
    scanPiece? (endTag tag ++ rest) = some (.finish tag, rest) := by
  have htext : endTag tag ++ rest = '<' :: '/' :: (tag.toList ++ '>' :: rest) := by
    simp [endTag]
  have hscan : scanQualifiedName? (tag.toList ++ '>' :: rest) = some (tag, '>' :: rest) :=
    scanQualifiedName?_append htag (by decide) (by decide) rest
  have hclose : skipBlanks ('>' :: rest) = '>' :: rest := rfl
  rw [htext]
  show scanEndTag? (tag.toList ++ '>' :: rest) = _
  unfold scanEndTag?
  rw [hscan]
  simp only [Option.bind_eq_bind, Option.bind_some, hclose]

theorem bareIn_harmless (s : List Char) : ∀ c, bareIn s c = true → isHarmless c = true := by
  intro c hc
  unfold bareIn at hc
  split at hc
  · exact isHarmless_of_isLayout hc
  · exact isHarmless_of_isPathCharacter hc

/-- A text ends at the next tag. -/
theorem scanPiece?_text {s : String} (hne : s ≠ "") (hs : IsAllowedText s) (rest : List Char) :
    scanPiece? (spelled (bareIn s.toList) s.toList ++ '<' :: rest) =
      some (.run (s.toList.map (partOf (bareIn s.toList))), '<' :: rest) := by
  have hharmless := bareIn_harmless s.toList
  have hparts := parts?_spelled hharmless hs
  have hsection : ']' ∉ spelled (bareIn s.toList) s.toList :=
    not_mem_spelled hharmless (by decide) (by decide)
  have hmark : '<' ∉ spelled (bareIn s.toList) s.toList :=
    not_mem_spelled hharmless (by decide) (by decide)
  have hnil : spelled (bareIn s.toList) s.toList ≠ [] :=
    spelled_ne_nil (mt String.toList_eq_nil_iff.1 hne)
  generalize spelled (bareIn s.toList) s.toList = text at *
  have hbefore := decide_ne_of_not_mem hmark
  have hend : decide ('<' ≠ '<') = false := by decide
  have hrun := takeWhile_append_mark hbefore hend rest
  have hleft := dropWhile_append_mark hbefore hend rest
  unfold scanPiece?
  split
  next heq =>
    obtain ⟨c, more, rfl⟩ := List.exists_cons_of_ne_nil hnil
    have hfirst : c = '<' := (List.cons.inj heq).1
    exact absurd (hfirst ▸ List.mem_cons_self) hmark
  next =>
    simp only [hrun, hleft, occursIn_of_not_mem hsection, hparts]
    rfl

/-! ## Pieces -/

/-- Pieces can be cut from the front of a text, and then the rest is left. -/
inductive CutsTo : List Char → List Piece → List Char → Prop
  | done {s : List Char} : CutsTo s [] s
  | piece {s between rest : List Char} {piece : Piece} {more : List Piece} :
      scanPiece? s = some (piece, between) → between.length < s.length →
        CutsTo between more rest → CutsTo s (piece :: more) rest

theorem CutsTo.trans {s between rest : List Char} {front back : List Piece}
    (hfront : CutsTo s front between) (hback : CutsTo between back rest) :
    CutsTo s (front ++ back) rest := by
  induction hfront with
  | done => exact hback
  | piece hscan hshorter _ ih => exact .piece hscan hshorter (ih hback)

theorem CutsTo.one {s rest : List Char} {piece : Piece}
    (hscan : scanPiece? (s ++ rest) = some (piece, rest)) (hs : s ≠ []) :
    CutsTo (s ++ rest) [piece] rest := by
  have hlength : 0 < s.length := List.length_pos_iff.2 hs
  have hshorter : rest.length < (s ++ rest).length := by
    rw [List.length_append]
    omega
  exact .piece hscan hshorter .done

theorem piecesWithin?_of_cutsTo {s rest : List Char} {pieces : List Piece}
    (hcuts : CutsTo s pieces rest) (hrest : rest = []) {bound : Nat} (hbound : s.length ≤ bound) :
    piecesWithin? bound s = some pieces := by
  induction hcuts generalizing bound with
  | @done s =>
      rw [hrest]
      cases bound <;> rfl
  | @piece s between rest piece more hscan hshorter _ ih =>
      cases bound with
      | zero => omega
      | succ bound =>
          have hmore : piecesWithin? bound between = some more := ih hrest (by omega)
          cases s with
          | nil => simp at hshorter
          | cons c s =>
              rw [piecesWithin?, hscan]
              · simp [hmore]
              all_goals simp

theorem pieces?_of_cutsTo {s : List Char} {pieces : List Piece} (hcuts : CutsTo s pieces []) :
    pieces? s = some pieces :=
  piecesWithin?_of_cutsTo hcuts rfl (Nat.le_refl s.length)

theorem startTag_ne_nil (tag : String) (attributes : List (String × String)) :
    startTag tag attributes ≠ [] := by
  simp [startTag]

theorem endTag_ne_nil (tag : String) : endTag tag ≠ [] := by
  simp [endTag]

/-- Unless it begins with a text, what is written before a tag begins with one. -/
theorem exists_written_eq {nodes : List Node} (hnodes : Writable nodes)
    (hstart : ∀ s more, nodes ≠ .text s :: more) (after : List Char) :
    ∃ later, written nodes ++ '<' :: after = '<' :: later := by
  cases hnodes with
  | nil => exact ⟨after, by simp [written]⟩
  | element =>
      rw [written, startTag]
      exact ⟨_, rfl⟩
  | text => exact absurd rfl (hstart _ _)

/-- What is written is cut into the pieces that were meant. -/
theorem cutsTo_written {nodes : List Node} (hnodes : Writable nodes) (after : List Char) :
    CutsTo (written nodes ++ '<' :: after) (piecesOf nodes) ('<' :: after) := by
  induction hnodes generalizing after with
  | nil =>
      rw [written, piecesOf, List.nil_append]
      exact .done
  | @element tag attributes content rest htag hattributes hcontent hrest ihcontent ihrest =>
      have hend : endTag tag ++ (written rest ++ '<' :: after) =
          '<' :: ('/' :: tag.toList ++ ['>'] ++ (written rest ++ '<' :: after)) := rfl
      have hstart := CutsTo.one (scanPiece?_startTag htag hattributes
        (written content ++ (endTag tag ++ (written rest ++ '<' :: after)))) (startTag_ne_nil _ _)
      have hfinish := CutsTo.one (scanPiece?_endTag htag (written rest ++ '<' :: after))
        (endTag_ne_nil tag)
      have hinside := ihcontent ('/' :: tag.toList ++ ['>'] ++ (written rest ++ '<' :: after))
      rw [← hend] at hinside
      have hall := hstart.trans (hinside.trans (hfinish.trans (ihrest after)))
      simpa [written, piecesOf] using hall
  | @text s rest hne hs hstart hrest ih =>
      obtain ⟨later, hlater⟩ := exists_written_eq hrest hstart after
      have hscan := scanPiece?_text hne hs later
      rw [← hlater] at hscan
      have hnil : spelled (bareIn s.toList) s.toList ≠ [] :=
        spelled_ne_nil (mt String.toList_eq_nil_iff.1 hne)
      have hall := (CutsTo.one hscan hnil).trans (ih after)
      simpa [written, piecesOf] using hall

end Markup

end PolicyKeeper
