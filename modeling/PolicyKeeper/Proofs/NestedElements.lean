import PolicyKeeper.Proofs.LeftOutDirectives
import PolicyKeeper.Proofs.PercentRoundTrip
import PolicyKeeper.Proofs.WrittenPolicies

/-!
# Nested elements

Directives are looked for in elements one inside another, and a document that
has none takes exactly so much room on the stack as its elements are nested.  So
a caller that leaves less room than another one may have the stack used up by a
document that the other one can load.
-/

namespace PolicyKeeper

variable {τ : Type} {room : Nat}

namespace Inclusion

/-- The search meets the end of the stack where the elements go deeper than the
room, and nothing stops it before. -/
theorem IsPlainTree.expandNodes_deep
    (replace : Surroundings → Element → Except InclusionFault Node) :
    ∀ {nodes : List Node} {here : Surroundings}, IsPlainTree nodes → here.nesting ≤ room →
      room < here.nesting + height nodes →
      Inclusion.expandNodes (.ofRoom room) replace here nodes = .error .nestedTooDeep
  | [], here, _, hroom, hdeep => by
      rw [height] at hdeep
      omega
  | .text s :: rest, here, h, hroom, hdeep => by
      have hrest : IsPlainTree rest := h
      rw [height_cons_text] at hdeep
      rw [Inclusion.expandNodes, expandNode, ok_bind, expandNodes_deep replace hrest hroom hdeep]
      rfl
  | .remark :: rest, here, h, hroom, hdeep => by
      have hrest : IsPlainTree rest := h
      rw [height_cons_remark] at hdeep
      rw [Inclusion.expandNodes, expandNode, ok_bind, expandNodes_deep replace hrest hroom hdeep]
      rfl
  | .element tag attributes content :: rest, here, h, hroom, hdeep => by
      obtain ⟨⟨hinclude, hfallback⟩, hcontent, hrest⟩ := isPlainTree_cons_element.1 h
      rw [height_cons_element] at hdeep
      rw [Inclusion.expandNodes, expandNode]
      rcases Nat.eq_or_lt_of_le hroom with hfull | hfree
      · have hused : (CallStack.ofRoom room).isUsedUp here ⟨tag, attributes, content⟩ = true :=
          decide_eq_true hfull.ge
        rw [if_pos hused]
        rfl
      · have hunused : (CallStack.ofRoom room).isUsedUp here ⟨tag, attributes, content⟩ = false :=
          CallStack.hasRoom_ofRoom room here _ hfree
        rw [hunused, if_neg Bool.false_ne_true, if_neg hinclude, if_neg hfallback]
        let inside : Surroundings := { here with nesting := here.nesting + 1 }
        have hnext : inside.nesting ≤ room := hfree
        by_cases hinside : room < inside.nesting + height content
        · rw [expandNodes_deep replace hcontent hnext hinside]
          rfl
        · have hshallow : (CallStack.ofRoom room).HasRoom (inside.nesting + height content) :=
            (CallStack.hasRoom_ofRoom room).mono (Nat.le_of_not_lt hinside)
          have hbeside : room < here.nesting + height rest := by
            have hnesting : inside.nesting = here.nesting + 1 := rfl
            omega
          rw [hcontent.expandNodes replace hshallow, ok_bind, ok_bind,
            expandNodes_deep replace hrest hroom hbeside]
          rfl

theorem IsPlainTree.expand_ofRoom {e : Element} (h : IsPlainTree e.content)
    (store : FileStore τ) (base : String) :
    Inclusion.expand (.ofRoom room) store base e =
      if height e.content ≤ room then .ok e else .error .nestedTooDeep := by
  split
  next hle => exact h.expand store base ((CallStack.hasRoom_ofRoom room).mono hle)
  next hdeep =>
    unfold Inclusion.expand longestChain
    rw [expandWithin, h.expandNodes_deep _ (Nat.zero_le room) (by simpa using hdeep)]
    rfl

end Inclusion

/-- A document without directives loads as if there were no includes, or uses
up the stack. -/
theorem PolicyFile.outcome_load_of_isPlainTree {store : FileStore τ} {path : String}
    {octets : Octets} {root : Element} (hread : store.read path = .ok octets)
    (hroot : Markup.readOctets octets = .ok root) (hplain : Inclusion.IsPlainTree root.content) :
    (load (.ofRoom room) store true path).outcome =
      if Inclusion.height root.content ≤ room then
        (PolicyDocument.policySet path root).outcome.mapError .build
      else .error (.inclusion .nestedTooDeep) := by
  have houtcome : (load (.ofRoom room) store true path).outcome =
      (ofElement (.ofRoom room) store true path path root).outcome := by
    rw [load_of_read hread hroot]
  rw [houtcome, outcome_ofElement]
  unfold expandIncludes
  rw [if_pos rfl, hplain.expand_ofRoom, Noted.outcome_ofExcept]
  split
  next => rw [mapError_ok, PolicyKeeper.ok_bind]
  next => rfl

/-! ## Octets of ASCII -/

def IsAscii (s : List Char) : Prop := ∀ c ∈ s, c.toNat < 0x80

instance (s : List Char) : Decidable (IsAscii s) :=
  decidable_of_iff (s.all (fun c => c.toNat < 0x80) = true) (by simp [IsAscii])

theorem isAscii_append {front back : List Char} :
    IsAscii (front ++ back) ↔ IsAscii front ∧ IsAscii back :=
  List.forall_mem_append

theorem isAscii_cons {c : Char} {rest : List Char} :
    IsAscii (c :: rest) ↔ c.toNat < 0x80 ∧ IsAscii rest :=
  List.forall_mem_cons

theorem ofNat_octet {c : Char} (hc : c.toNat < 0x80) :
    Char.ofNat (UInt8.ofNat c.toNat).toNat = c := by
  rw [Utf8.toNat_ofNat_of_lt (by omega), Char.ofNat_toNat]

namespace Utf8

theorem encode_cons {c : Char} (hc : c.toNat < 0x80) (rest : List Char) :
    encode (c :: rest) = UInt8.ofNat c.toNat :: encode rest := by
  rw [encode, List.flatMap_cons, encodeChar, if_pos hc]
  rfl

theorem decodeFrom_encode {s : List Char} (hs : IsAscii s) (place : Nat) (done : List Char) :
    decodeFrom place none done (encode s) = .ok (done.reverse ++ s) := by
  induction s generalizing place done with
  | nil => simp [encode, decodeFrom]
  | cons c rest ih =>
      obtain ⟨hc, hrest⟩ := isAscii_cons.1 hs
      have hoctet : (UInt8.ofNat c.toNat).toNat < 0x80 := by
        rwa [toNat_ofNat_of_lt (by omega)]
      rw [encode_cons hc, decodeFrom]
      simp only [hoctet, if_true, ofNat_octet hc, ih hrest]
      simp

end Utf8

theorem Encoding.latin_encode {s : List Char} (hs : IsAscii s) : latin (Utf8.encode s) = s := by
  induction s with
  | nil => rfl
  | cons c rest ih =>
      obtain ⟨hc, hrest⟩ := isAscii_cons.1 hs
      have htail : (Utf8.encode rest).map (fun octet => Char.ofNat octet.toNat) = rest := ih hrest
      rw [Utf8.encode_cons hc, latin, List.map_cons, ofNat_octet hc, htail]

namespace Markup

/-- What starts with a tag has no version declaration. -/
theorem documentCharacters_encode {c : Char} {rest : List Char} (hc : c.isAlpha = true)
    (hascii : IsAscii ('<' :: c :: rest)) :
    documentCharacters (Utf8.encode ('<' :: c :: rest)) = .ok ('<' :: c :: rest) := by
  obtain ⟨-, hafter⟩ := isAscii_cons.1 hascii
  obtain ⟨hcode, -⟩ := isAscii_cons.1 hafter
  have hoctets : Utf8.encode ('<' :: c :: rest) =
      0x3C :: UInt8.ofNat c.toNat :: Utf8.encode rest := by
    rw [Utf8.encode_cons (by decide), Utf8.encode_cons hcode]
    rfl
  have hgrouping : grouping (Utf8.encode ('<' :: c :: rest)) =
      (.single, Utf8.encode ('<' :: c :: rest)) := by
    have hsecond : UInt8.ofNat c.toNat ≠ 0x00 := by
      intro hzero
      have hnull : c = Char.ofNat 0 := by
        rw [← ofNat_octet hcode, hzero]
        rfl
      exact ne_of_isAlpha hc (by decide) hnull
    rw [hoctets, grouping.eq_def]
    split <;> simp_all
  obtain ⟨left, hversion⟩ : ∃ left,
      scanVersionDeclaration? (normalizeBreaks ('<' :: c :: rest)) = some (none, left) := by
    have hbreak : c ≠ '\r' := ne_of_isAlpha hc (by decide)
    have hquestion : c ≠ '?' := ne_of_isAlpha hc (by decide)
    have hnormal : normalizeBreaks ('<' :: c :: rest) = '<' :: c :: normalizeBreaks rest := by
      have hafterMark : normalizeBreaks (c :: rest) = c :: normalizeBreaks rest := by
        rw [normalizeBreaks.eq_def]
        split <;> simp_all
      rw [← hafterMark]
      rfl
    rw [hnormal, scanVersionDeclaration?.eq_def]
    split
    next heq => exact absurd (List.cons.inj (List.cons.inj heq).2).1 hquestion
    next => exact ⟨_, rfl⟩
  unfold documentCharacters
  rw [hgrouping]
  simp only [Encoding.latin_encode hascii, hversion]
  show singleCharacters none (Utf8.encode ('<' :: c :: rest)) = _
  unfold singleCharacters Utf8.decode
  rw [Utf8.decodeFrom_encode hascii]
  rfl

/-- What is written of an element in ASCII is read back from its octets. -/
theorem readOctets_written {e : Element} (h : IsWritable e)
    (hascii : IsAscii (written [e.toNode])) :
    readOctets (Utf8.encode (written [e.toNode])) = .ok e := by
  obtain ⟨c, inner, hchars, hc, -⟩ := h.tag.exists_cons
  obtain ⟨s, hs⟩ : ∃ s, written [e.toNode] = '<' :: c :: s := by
    rw [Element.toNode, written, startTag, hchars]
    exact ⟨_, rfl⟩
  have hcharacters : documentCharacters (Utf8.encode (written [e.toNode])) =
      .ok (written [e.toNode]) := by
    rw [hs] at hascii ⊢
    exact documentCharacters_encode hc hascii
  unfold readOctets
  rw [hcharacters, ok_bind, read?_written h]
  rfl

/-! ## Nested documents -/

/-- So many elements inside one another. -/
def nested : Nat → List Node
  | 0 => []
  | depth + 1 => [.element "x" [] (nested depth)]

def nestedElement (depth : Nat) : Element :=
  { tag := "configuration", attributes := [], content := nested depth }

def nestedDocument (depth : Nat) : Octets := Utf8.encode (written [(nestedElement depth).toNode])

theorem writable_nested (depth : Nat) : Writable (nested depth) := by
  induction depth with
  | zero => exact .nil
  | succ depth ih => exact .element (by decide) PolicyDocument.areWritable_nil ih .nil

theorem isAscii_nested (depth : Nat) : IsAscii (written (nested depth)) := by
  induction depth with
  | zero =>
      rw [nested, written]
      decide
  | succ depth ih =>
      have htags : IsAscii (startTag "x" []) ∧ IsAscii (endTag "x") := by decide +kernel
      rw [nested, written, written]
      simp only [isAscii_append]
      exact ⟨⟨⟨htags.1, ih⟩, htags.2⟩, by decide⟩

theorem height_nested (depth : Nat) : Inclusion.height (nested depth) = depth := by
  induction depth with
  | zero => rfl
  | succ depth ih =>
      rw [nested, Inclusion.height_cons_element, ih]
      rfl

theorem readOctets_nestedDocument (depth : Nat) :
    readOctets (nestedDocument depth) = .ok (nestedElement depth) := by
  have hwritable : IsWritable (nestedElement depth) :=
    ⟨show IsSimpleName "configuration" by decide, PolicyDocument.areWritable_nil,
      writable_nested depth⟩
  have htags : IsAscii (startTag "configuration" []) ∧ IsAscii (endTag "configuration") := by
    decide +kernel
  apply readOctets_written hwritable
  rw [written_toNode]
  simp only [isAscii_append]
  exact ⟨⟨htags.1, isAscii_nested depth⟩, htags.2⟩

end Markup

/-- A nested document is refused for what it holds, where the stack has room for
it, and uses the stack up where it has not. -/
theorem PolicyFile.outcome_load_nestedDocument {store : FileStore τ} {path : String} {depth : Nat}
    (hread : store.read path = .ok (Markup.nestedDocument (depth + 1))) :
    (load (.ofRoom room) store true path).outcome =
      .error (if depth + 1 ≤ room then .build (.structural (.notSource "x"))
        else .inclusion .nestedTooDeep) := by
  have hplain : Inclusion.IsPlainTree (Markup.nestedElement (depth + 1)).content :=
    Inclusion.isPlainTree_of_writable (Markup.writable_nested _)
  have hrefused : (PolicyDocument.policySet path (Markup.nestedElement (depth + 1))).outcome =
      .error (.structural (.notSource "x")) := by
    have hroot : ¬ localName "configuration" ≠ "configuration" := by decide
    have hlocal : localName "x" = "x" := by decide
    have hchildren : (Markup.nestedElement (depth + 1)).children =
        [⟨"x", [], Markup.nested depth⟩] := rfl
    have hread : PolicyDocument.policies [] [⟨"x", [], Markup.nested depth⟩] =
        PolicyDocument.refuse (.notSource "x") := by
      rw [PolicyDocument.policies]
      simp only [hlocal]
      rfl
    unfold PolicyDocument.policySet
    rw [hchildren, hread]
    exact congrArg Noted.outcome (if_neg hroot)
  have hheight : Inclusion.height (Markup.nestedElement (depth + 1)).content = depth + 1 :=
    Markup.height_nested _
  rw [outcome_load_of_isPlainTree hread (Markup.readOctets_nestedDocument _) hplain, hheight,
    hrefused, mapError_error]
  split <;> rfl

end PolicyKeeper
