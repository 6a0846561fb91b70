import PolicyKeeper.Proofs.WrittenMarkup

/-!
# Written elements are read back

The pieces of what was written give back the events of the content, and these
build the content again.  So an element that can be written is what a reader
of its writing gets, whatever characters its texts and attributes hold.
-/

namespace PolicyKeeper

namespace Markup

/-- The events that content consists of. -/
def eventsOf : List Node → List Event
  | [] => []
  | .element tag attributes content :: rest =>
      .start tag attributes :: eventsOf content ++ .finish tag :: eventsOf rest
  | .text s :: rest => .text s.toList :: eventsOf rest
  | .remark :: rest => eventsOf rest

/-! ## Events of pieces -/

theorem not_isBlank_of_isPathCharacter {c : Char} (hc : isPathCharacter c = true) :
    isBlank c = false := by
  by_contra hblank
  simp only [isBlank, Bool.or_eq_true, beq_iff_eq, Bool.not_eq_false] at hblank
  rcases hblank with ((rfl | rfl) | rfl) | rfl <;> exact absurd hc (by decide)

theorem expandParts_partOf (value : String → Expansion (List Char)) (s : List Char) :
    Entities.expandParts value (s.map (partOf isPathCharacter)) = pure s := by
  induction s with
  | nil => rfl
  | cons c rest ih =>
      rw [List.map_cons, partOf]
      split
      next hc => simp [Entities.expandParts, ih, not_isBlank_of_isPathCharacter hc]
      next => simp [Entities.expandParts, ih]

section

variable (standalone : Bool) (element : String)

theorem valuesOf_written (attributes : List (String × String)) :
    (Declarations.initial standalone).valuesOf element (attributes.map writtenAttribute) =
      pure attributes := by
  induction attributes with
  | nil => rfl
  | cons entry rest ih =>
      have htokenized : (Declarations.initial standalone).isTokenized element entry.1 = false := rfl
      have hvalue : (Declarations.initial standalone).entities.attributeValue false
          (entry.2.toList.map (partOf isPathCharacter)) = pure entry.2 := by
        simp [Entities.attributeValue, expandParts_partOf]
      simp [Declarations.valuesOf, writtenAttribute, htokenized, hvalue, ih]

theorem completeAttributes_written {attributes : List (String × String)}
    (hdistinct : (attributes.map (·.1)).Nodup) :
    (Declarations.initial standalone).completeAttributes element
      (attributes.map writtenAttribute) = pure attributes := by
  have hnames : (attributes.map writtenAttribute).map (·.name) = attributes.map (·.1) := by
    simp [writtenAttribute]
  unfold Declarations.completeAttributes
  rw [hnames, valuesOf_written, guard, if_pos hdistinct]
  simp
  rfl

end

theorem runEvents_partOf_cons (events : String → Expansion (List Event)) (bare : Char → Bool)
    (c : Char) (parts : List Part) :
    Declarations.runEvents events (partOf bare c :: parts) =
      Declarations.runEvents events parts >>= fun more =>
        pure (Declarations.runEvents.joinText c more) := by
  unfold partOf
  split <;> rfl

/-- A run of characters is one text. -/
theorem runEvents_partOf (events : String → Expansion (List Event)) (bare : Char → Bool)
    {s : List Char} (hs : s ≠ []) :
    Declarations.runEvents events (s.map (partOf bare)) = pure [.text s] := by
  induction s with
  | nil => exact absurd rfl hs
  | cons c rest ih =>
      rw [List.map_cons, runEvents_partOf_cons]
      cases rest with
      | nil => rfl
      | cons next rest =>
          rw [ih (List.cons_ne_nil next rest)]
          rfl

theorem pieceEvents_append (standalone : Bool) (events : String → Expansion (List Event))
    {nodes : List Node} (hnodes : Writable nodes) (more : List Piece) :
    (Declarations.initial standalone).pieceEvents events (piecesOf nodes ++ more) =
      (Declarations.initial standalone).pieceEvents events more >>= fun later =>
        pure (eventsOf nodes ++ later) := by
  induction hnodes generalizing more with
  | nil => simp [piecesOf, eventsOf]
  | @element tag attributes content rest _ hattributes _ _ ihcontent ihrest =>
      simp [piecesOf, eventsOf, Declarations.pieceEvents,
        completeAttributes_written standalone tag hattributes.distinct, ihcontent, ihrest]
  | @text s rest hne hs hstart hrest ih =>
      have hnil : s.toList ≠ [] := mt String.toList_eq_nil_iff.1 hne
      simp [piecesOf, eventsOf, Declarations.pieceEvents, runEvents_partOf events _ hnil, ih]

/-! ## Names without namespaces -/

theorem splitName_of_isSimpleName {name : String} (h : IsSimpleName name) :
    splitName name = none := by
  have hbefore : name.toList.takeWhile (· ≠ ':') = name.toList := by
    rw [List.takeWhile_eq_self_iff]
    intro c hc
    have hne : c ≠ ':' := ne_of_isAlpha (h.letters c hc) (by decide)
    simpa using hne
  simp only [splitName, hbefore, if_true]

theorem declaredPrefix?_of_isSimpleName {name : String} (h : IsSimpleName name)
    (hfree : name ≠ "xmlns") : declaredPrefix? name = none := by
  rw [declaredPrefix?, if_neg hfree, splitName_of_isSimpleName h]

theorem bindAll?_of_areWritable {attributes : List (String × String)}
    (h : AreWritable attributes) (scope : Scope) : bindAll? scope attributes = some scope := by
  induction attributes with
  | nil => rfl
  | cons entry rest ih =>
      have hname := h.names entry (.head _)
      rw [bindAll?, declaredPrefix?_of_isSimpleName hname (h.free entry (.head _))]
      exact ih h.tail

theorem resolveAttributes?_of_areWritable {attributes : List (String × String)}
    (h : AreWritable attributes) (scope : Scope) :
    resolveAttributes? scope attributes = some attributes := by
  induction attributes with
  | nil => rfl
  | cons entry rest ih =>
      obtain ⟨key, value⟩ := entry
      have hname := h.names (key, value) (.head _)
      have hplain := declaredPrefix?_of_isSimpleName hname (h.free (key, value) (.head _))
      have hfull : fullAttributeName? scope key = some key := by
        rw [fullAttributeName?, splitName_of_isSimpleName hname]
      have hnew : rest.any (·.1 = key) = false := by
        have hkey : key ∉ rest.map (·.1) := (List.nodup_cons.1 h.distinct).1
        rw [List.any_eq_false]
        intro other hmem heq
        exact hkey (List.mem_map.2 ⟨other, hmem, of_decide_eq_true heq⟩)
      rw [resolveAttributes?, ih h.tail]
      simp only [Option.bind_eq_bind, Option.bind_some, hplain, hfull, hnew]
      rfl

theorem elementName?_of_isSimpleName {name : String} (h : IsSimpleName name) :
    elementName? initialScope name = some name := by
  rw [elementName?, splitName_of_isSimpleName h]
  rfl

/-! ## The tree of the events -/

def opened (tag : String) (attributes : List (String × String)) : OpenElement :=
  { written := tag, tag, attributes, scope := initialScope, content := [] }

theorem ofEvent?_of_areWritable {tag : String} {attributes : List (String × String)}
    (htag : IsSimpleName tag) (hattributes : AreWritable attributes) :
    OpenElement.ofEvent? initialScope tag attributes = some (opened tag attributes) := by
  unfold OpenElement.ofEvent?
  simp [bindAll?_of_areWritable hattributes, elementName?_of_isSimpleName htag,
    resolveAttributes?_of_areWritable hattributes, opened]

def OpenElement.addAll (o : OpenElement) (nodes : List Node) : OpenElement :=
  { o with content := nodes.reverse ++ o.content }

theorem OpenElement.addAll_cons (o : OpenElement) (node : Node) (rest : List Node) :
    (o.add node).addAll rest = o.addAll (node :: rest) := by
  simp [addAll, add]

theorem OpenElement.toNode_close_addAll (tag : String) (attributes : List (String × String))
    (content : List Node) :
    ((opened tag attributes).addAll content).close.toNode = .element tag attributes content := by
  simp [addAll, opened, close, Element.toNode]

/-- The events of content add it to the element that is open. -/
theorem buildFrom_append {nodes : List Node} (hnodes : Writable nodes) {inner : OpenElement}
    (hscope : inner.scope = initialScope) (outer : List OpenElement) (more : List Event) :
    buildFrom (inner :: outer) (eventsOf nodes ++ more) =
      buildFrom (inner.addAll nodes :: outer) more := by
  induction hnodes generalizing inner outer more with
  | nil => simp [eventsOf, OpenElement.addAll]
  | @element tag attributes content rest htag hattributes _ _ ihcontent ihrest =>
      have hopened := ofEvent?_of_areWritable htag hattributes
      have hinside : buildFrom (opened tag attributes :: inner :: outer)
          (eventsOf content ++ .finish tag :: (eventsOf rest ++ more)) =
            buildFrom ((opened tag attributes).addAll content :: inner :: outer)
              (.finish tag :: (eventsOf rest ++ more)) := ihcontent rfl (inner :: outer) _
      have hname : ¬ tag ≠ ((opened tag attributes).addAll content).written := not_not_intro rfl
      have hadded : (inner.add (.element tag attributes content)).scope = initialScope := hscope
      rw [buildFrom, if_neg hname, OpenElement.toNode_close_addAll, ihrest hadded,
        OpenElement.addAll_cons] at hinside
      rw [← hinside]
      simp [eventsOf, buildFrom, hscope, hopened]
  | @text s rest _ _ _ _ ih =>
      have hadded : (inner.add (.text s)).scope = initialScope := hscope
      rw [eventsOf, List.cons_append, buildFrom, String.ofList_toList, ih hadded,
        OpenElement.addAll_cons]

/-- The root ends after its own pieces. -/
theorem splitRoot_append {nodes : List Node} (hnodes : Writable nodes) (depth : Nat)
    (more : List Piece) :
    splitRoot (depth + 1) (piecesOf nodes ++ more) =
      (piecesOf nodes ++ (splitRoot (depth + 1) more).1, (splitRoot (depth + 1) more).2) := by
  induction hnodes generalizing depth more with
  | nil => simp [piecesOf]
  | @element tag attributes content rest _ _ _ _ ihcontent ihrest =>
      have hdeep : ¬ depth + 1 + 1 ≤ 1 := by omega
      simp [piecesOf, splitRoot, ihcontent, ihrest]
  | @text s rest _ _ _ _ ih =>
      simp [piecesOf, splitRoot, ih]

/-! ## Reading what was written -/

theorem normalizeBreaks_of_not_mem {s : List Char} (hs : '\r' ∉ s) : normalizeBreaks s = s := by
  induction s with
  | nil => rfl
  | cons c rest ih =>
      rw [List.mem_cons, not_or] at hs
      rw [normalizeBreaks.eq_def]
      split
      next heq => exact absurd heq (by simp)
      next heq => exact absurd (List.cons.inj heq).1.symm hs.1
      next heq => exact absurd (List.cons.inj heq).1.symm hs.1
      next heq =>
        obtain ⟨rfl, rfl⟩ := List.cons.inj heq
        rw [ih hs.2]

/-- Nothing in the text is changed or refused before markup is read. -/
def IsClean (s : List Char) : Prop := ∀ c ∈ s, isAllowed c = true ∧ c ≠ '\r'

instance (s : List Char) : Decidable (IsClean s) :=
  decidable_of_iff (s.all (fun c => isAllowed c && c ≠ '\r') = true) (by simp [IsClean])

theorem isClean_append {front back : List Char} :
    IsClean (front ++ back) ↔ IsClean front ∧ IsClean back :=
  List.forall_mem_append

theorem isClean_spelled {bare : Char → Bool} (hbare : ∀ c, bare c = true → isHarmless c = true)
    (s : List Char) : IsClean (spelled bare s) := by
  intro c hc
  have hreturn : '\r' ∉ spelled bare s := not_mem_spelled hbare (by decide) (by decide)
  refine ⟨isAllowed_of_mem_spelled hbare hc, ?_⟩
  rintro rfl
  exact hreturn hc

theorem IsSimpleName.isClean {name : String} (h : IsSimpleName name) : IsClean name.toList := by
  intro c hc
  have hletter := h.letters c hc
  have hpath : isPathCharacter c = true := by simp [isPathCharacter, Char.isAlphanum, hletter]
  have hallowed := isAllowed_of_isHarmless (isHarmless_of_isPathCharacter hpath)
  exact ⟨hallowed, ne_of_isAlpha hletter (by decide)⟩

theorem isClean_attributes {attributes : List (String × String)} (h : AreWritable attributes) :
    IsClean (attributes.flatMap attributeText) := by
  intro c hc
  obtain ⟨entry, hentry, hmem⟩ := List.mem_flatMap.1 hc
  have hname := (h.names entry hentry).isClean
  have hvalue := isClean_spelled (fun _ => isHarmless_of_isPathCharacter) entry.2.toList
  have hmarks : IsClean [' '] ∧ IsClean ['=', '"'] ∧ IsClean ['"'] := by decide
  have htext : attributeText entry =
      [' '] ++ entry.1.toList ++ ['=', '"'] ++ escaped entry.2 ++ ['"'] := by
    simp [attributeText]
  rw [htext] at hmem
  have hclean : IsClean ([' '] ++ entry.1.toList ++ ['=', '"'] ++ escaped entry.2 ++ ['"']) := by
    simp only [isClean_append]
    exact ⟨⟨⟨⟨hmarks.1, hname⟩, hmarks.2.1⟩, hvalue⟩, hmarks.2.2⟩
  exact hclean c hmem

theorem isClean_written {nodes : List Node} (hnodes : Writable nodes) :
    IsClean (written nodes) := by
  induction hnodes with
  | nil => simp [written, IsClean]
  | @element tag attributes content rest htag hattributes _ _ ihcontent ihrest =>
      have hmarks : IsClean ['<'] ∧ IsClean ['>'] ∧ IsClean ['<', '/'] := by decide
      have hstart : startTag tag attributes =
          ['<'] ++ tag.toList ++ attributes.flatMap attributeText ++ ['>'] := rfl
      have hend : endTag tag = ['<', '/'] ++ tag.toList ++ ['>'] := rfl
      rw [written, hstart, hend]
      simp only [isClean_append]
      exact ⟨⟨⟨⟨⟨⟨hmarks.1, htag.isClean⟩, isClean_attributes hattributes⟩, hmarks.2.1⟩, ihcontent⟩,
        ⟨hmarks.2.2, htag.isClean⟩, hmarks.2.1⟩, ihrest⟩
  | @text s rest _ _ _ _ ih =>
      rw [written, isClean_append]
      exact ⟨isClean_spelled (bareIn_harmless s.toList) s.toList, ih⟩

section

variable {e : Element} (h : IsWritable e)

include h

theorem pieces?_written : pieces? (written [e.toNode]) = some (piecesOf [e.toNode]) := by
  have hend : endTag e.tag = '<' :: ('/' :: e.tag.toList ++ ['>']) := rfl
  have hstart := CutsTo.one (scanPiece?_startTag h.tag h.attributes
    (written e.content ++ endTag e.tag)) (startTag_ne_nil _ _)
  have hfinish := CutsTo.one (scanPiece?_endTag h.tag []) (endTag_ne_nil e.tag)
  have hinside := cutsTo_written h.content ('/' :: e.tag.toList ++ ['>'])
  rw [← hend] at hinside
  rw [List.append_nil] at hfinish
  have hall := pieces?_of_cutsTo (hstart.trans (hinside.trans hfinish))
  simpa [Element.toNode, written, piecesOf] using hall

theorem splitRoot_written : splitRoot 0 (piecesOf [e.toNode]) = (piecesOf [e.toNode], []) := by
  simp [Element.toNode, piecesOf, splitRoot, splitRoot_append h.content]

theorem writable_toNode : Writable [e.toNode] := .element h.tag h.attributes h.content .nil

theorem expandDocument_written (standalone : Bool) :
    expandDocument standalone [] (piecesOf [e.toNode]) = pure (eventsOf [e.toNode]) := by
  have hevents := pieceEvents_append standalone
    ((Declarations.initial standalone).entityEvents 0 []) (writable_toNode h) []
  have hnone : (Declarations.initial standalone).pieceEvents
    ((Declarations.initial standalone).entityEvents 0 []) [] = pure [] := rfl
  have hread : readDeclarations (Declarations.initial standalone) [] =
    pure (Declarations.initial standalone) := rfl
  rw [List.append_nil, hnone, pure_bind, List.append_nil] at hevents
  rw [expandDocument, hread, pure_bind]
  exact hevents

theorem buildFrom_written : buildFrom [] (eventsOf [e.toNode]) = some e := by
  have hopened := ofEvent?_of_areWritable h.tag h.attributes
  have hinside : buildFrom [opened e.tag e.attributes] (eventsOf e.content ++ [.finish e.tag]) =
      buildFrom [(opened e.tag e.attributes).addAll e.content] [.finish e.tag] :=
    buildFrom_append h.content rfl [] _
  have hname : ¬ e.tag ≠ ((opened e.tag e.attributes).addAll e.content).written :=
    not_not_intro rfl
  have hclose : ((opened e.tag e.attributes).addAll e.content).close = e := by
    simp [OpenElement.addAll, OpenElement.close, opened]
  rw [buildFrom, if_neg hname, hclose] at hinside
  simpa [Element.toNode, eventsOf, buildFrom, hopened] using hinside

theorem read?_written : read? (written [e.toNode]) = some e := by
  have hclean := isClean_written (writable_toNode h)
  have hbreaks : normalizeBreaks (written [e.toNode]) = written [e.toNode] :=
    normalizeBreaks_of_not_mem fun hmem => (hclean _ hmem).2 rfl
  have hallowed : (written [e.toNode]).all isAllowed = true :=
    List.all_eq_true.2 fun c hmem => (hclean c hmem).1
  have hpieces := pieces?_written h
  obtain ⟨c, inner, hchars, hc, -⟩ := h.tag.exists_cons
  obtain ⟨s, hs⟩ : ∃ s, written [e.toNode] = '<' :: c :: s := by
    rw [Element.toNode, written, startTag, hchars]
    exact ⟨_, rfl⟩
  have hversion : scanVersionDeclaration? ('<' :: c :: s) = some (none, '<' :: c :: s) := by
    have hquestion : c ≠ '?' := ne_of_isAlpha hc (by decide)
    rw [scanVersionDeclaration?.eq_def]
    split
    next heq => exact absurd (List.cons.inj (List.cons.inj heq).2).1 hquestion
    next => rfl
  have htokens : declarationTokens? ('<' :: c :: s) = some ([], '<' :: c :: s) := by
    have hstarts : startsElement (skipBlanks ('<' :: c :: s)) = true := isNameStart_of_isAlpha hc
    rw [declarationTokens?, declarationTokensWithin?.eq_def]
    simp only [hstarts, if_true]
    rfl
  rw [hs] at hbreaks hallowed hpieces ⊢
  simp only [read?, hbreaks, hallowed, hversion, htokens, hpieces, splitRoot_written h,
    expandDocument_written h, Option.bind_eq_bind, Option.bind_some]
  exact buildFrom_written h

/-- An element that can be written is read back from its writing. -/
theorem readText_written : readText (String.ofList (written [e.toNode])) = .ok e := by
  have hmark : dropByteMark (written [e.toNode]) = written [e.toNode] := by
    rw [Element.toNode, written, startTag]
    rfl
  rw [readText, String.toList_ofList, hmark, read?_written h]
  rfl

end

end Markup

end PolicyKeeper
