import PolicyKeeper.MarkupDocument
import PolicyKeeper.Noted

/-!
# Encodings of documents

Octets are read as a document unless they are malformed or declare an encoding
that is refused: one that nobody knows, one that gives no text, or one that
takes several octets for a character and is not among the common ones.  The
declaration decides alone, before any of the characters after it is read.
-/

namespace PolicyKeeper

namespace Markup

def leadingText (octets : Octets) : List Char :=
  match grouping octets with
  | (.pairs order, rest) => leadingCharacters order rest
  | (.single, rest) => Encoding.latin rest

/-- The encoding in the version declaration of a document, if it has one that
can be read. -/
def declaredEncoding? (octets : Octets) : Option String :=
  match scanVersionDeclaration? (normalizeBreaks (leadingText octets)) with
  | some (some version, _) => version.encoding
  | _ => none

def upperName (name : String) : String := String.ofList (name.toList.map Char.toUpper)

/-- The encodings that every reader knows, in capital letters. -/
def commonEncodings : List String :=
  ["UTF-8", "ISO-8859-1", "US-ASCII", "UTF-16", "UTF-16BE", "UTF-16LE"]

def takesSeveralOctets : Encoding → Bool
  | .utf16 _ => true
  | .utf32 _ => true
  | .several _ => true
  | _ => false

/-- A name other than the common ones whose encoding cannot be used. -/
inductive RefusesEncoding (name : String) : MarkupFault → Prop
  | unknown (hcommon : upperName name ∉ commonEncodings)
      (hnone : Encoding.ofName? name = none) : RefusesEncoding name (.unknownEncoding name)
  | notText (hcommon : upperName name ∉ commonEncodings)
      (hnamed : Encoding.ofName? name = some .notText) :
      RefusesEncoding name (.notTextEncoding name)
  | failing {codec : FailingCodec} (hcommon : upperName name ∉ commonEncodings)
      (hnamed : Encoding.ofName? name = some (.failing codec)) :
      RefusesEncoding name (.failingEncoding name codec)
  | severalOctets {encoding : Encoding} (hcommon : upperName name ∉ commonEncodings)
      (hnamed : Encoding.ofName? name = some encoding)
      (hseveral : takesSeveralOctets encoding = true) : RefusesEncoding name .severalOctets

variable {fault : MarkupFault} {octets : Octets}

theorem declaredEncoding?_eq_some {name : String} :
    declaredEncoding? octets = some name ↔
      ∃ version rest,
        scanVersionDeclaration? (normalizeBreaks (leadingText octets)) =
          some (some version, rest) ∧
        version.encoding = some name := by
  unfold declaredEncoding?
  constructor
  · intro hdeclared
    split at hdeclared
    next version rest hscan => exact ⟨version, rest, hscan, hdeclared⟩
    next => simp at hdeclared
  · rintro ⟨version, rest, hscan, hencoding⟩
    rw [hscan]
    exact hencoding

theorem ofOption_eq_error {found : Option α} :
    ofOption found = .error fault ↔ found = none ∧ fault = .malformed := by
  cases found <;> simp [ofOption, eq_comm]

theorem ofOption_eq_ok {found : Option α} {value : α} :
    ofOption found = .ok value ↔ found = some value := by
  cases found <;> simp [ofOption]

theorem namedCharacters_refuses_iff {name : String} (hcommon : upperName name ∉ commonEncodings)
    (hfault : fault ≠ .malformed) :
    namedCharacters name octets = .error fault ↔ RefusesEncoding name fault := by
  constructor
  · intro hnamed
    unfold namedCharacters at hnamed
    split at hnamed
    next hnone =>
      obtain rfl := Except.error.inj hnamed
      exact .unknown hcommon hnone
    next hencoding =>
      obtain rfl := Except.error.inj hnamed
      exact .notText hcommon hencoding
    next hencoding =>
      obtain rfl := Except.error.inj hnamed
      exact .failing hcommon hencoding
    next hencoding =>
      obtain rfl := Except.error.inj hnamed
      exact .severalOctets hcommon hencoding rfl
    next hencoding =>
      obtain rfl := Except.error.inj hnamed
      exact .severalOctets hcommon hencoding rfl
    next hencoding =>
      obtain rfl := Except.error.inj hnamed
      exact .severalOctets hcommon hencoding rfl
    next =>
      simp only at hnamed
      split at hnamed
      · exact absurd (ofOption_eq_error.1 hnamed).2 hfault
      · exact absurd (Except.error.inj hnamed).symm hfault
    next => simp at hnamed
    next => exact absurd (ofOption_eq_error.1 hnamed).2 hfault
    next => exact absurd (ofOption_eq_error.1 hnamed).2 hfault
  · intro hrefuses
    unfold namedCharacters
    cases hrefuses with
    | unknown _ hnone => rw [hnone]
    | notText _ hnamed => rw [hnamed]
    | failing _ hnamed => rw [hnamed]
    | severalOctets _ hnamed hseveral =>
        rw [hnamed]
        unfold takesSeveralOctets at hseveral
        split at hseveral <;> simp at hseveral <;> rfl

theorem not_refusesEncoding_of_common {name : String} (hcommon : upperName name ∈ commonEncodings) :
    ¬ RefusesEncoding name fault := by
  intro hrefuses
  cases hrefuses <;> contradiction

theorem singleCharacters_refuses_iff {name : String} (hfault : fault ≠ .malformed) :
    singleCharacters (some name) octets = .error fault ↔ RefusesEncoding name fault := by
  by_cases hcommon : upperName name ∈ commonEncodings
  · refine iff_of_false ?_ (not_refusesEncoding_of_common hcommon)
    intro hsingle
    unfold singleCharacters at hsingle
    simp only at hsingle
    split at hsingle
    next => exact hfault (ofOption_eq_error.1 hsingle).2
    next => simp at hsingle
    next => exact hfault (ofOption_eq_error.1 hsingle).2
    next => exact hfault (Except.error.inj hsingle).symm
    next => exact hfault (Except.error.inj hsingle).symm
    next => exact hfault (Except.error.inj hsingle).symm
    next => simp_all [commonEncodings, upperName]
  · rw [← @namedCharacters_refuses_iff _ octets _ hcommon hfault]
    unfold singleCharacters
    simp only
    split <;> simp_all [commonEncodings, upperName]

theorem pairedDocument_refuses_iff {order : OctetOrder} (hfault : fault ≠ .malformed) :
    pairedDocument order octets = .error fault ↔
      ∃ version rest name,
        scanVersionDeclaration? (normalizeBreaks (leadingCharacters order octets)) =
          some (some version, rest) ∧
        version.encoding = some name ∧ RefusesEncoding name fault := by
  have hnotMalformed {found : Option (List Char)} : ofOption found ≠ .error fault := by
    intro hfound
    exact hfault (ofOption_eq_error.1 hfound).2
  unfold pairedDocument
  simp only [bind_eq_error, ofOption_eq_error, ofOption_eq_ok, hfault, and_false, false_or]
  constructor
  · rintro ⟨⟨version, rest⟩, hscan, hend⟩
    simp only at hend
    split at hend
    next => exact absurd hend hnotMalformed
    next name hname =>
      obtain ⟨version, rfl, hencoding⟩ := Option.bind_eq_some_iff.1 hname
      refine ⟨version, rest, name, hscan, hencoding, ?_⟩
      by_cases hcommon : upperName name ∈ commonEncodings
      · -- a common encoding is taken or does not fit the octets
        exfalso
        split at hend
        · exact hnotMalformed hend
        · split at hend
          · split at hend
            · exact hnotMalformed hend
            · exact hfault (Except.error.inj hend).symm
          · split at hend
            · split at hend
              · exact hnotMalformed hend
              · exact hfault (Except.error.inj hend).symm
            · split at hend
              · exact hfault (Except.error.inj hend).symm
              · simp_all [commonEncodings, upperName]
      · have hother := hcommon
        simp only [commonEncodings, upperName, List.mem_cons, List.not_mem_nil, or_false,
          not_or] at hother
        simp only [hother, if_false, List.contains_cons, List.contains_nil, beq_iff_eq,
          Bool.or_false, Bool.or_eq_true, or_false, bind_eq_error] at hend
        rcases hend with hnamed | ⟨_, -, hread⟩
        · exact (namedCharacters_refuses_iff hcommon hfault).1 hnamed
        · simp at hread
  · rintro ⟨version, rest, name, hscan, hencoding, hrefuses⟩
    refine ⟨(some version, rest), hscan, ?_⟩
    have hname : (some version).bind (·.encoding) = some name := hencoding
    simp only [hname]
    have hcommon : upperName name ∉ commonEncodings := by
      intro hcommon
      exact not_refusesEncoding_of_common hcommon hrefuses
    have hnamed {rest : Octets} : namedCharacters name rest = .error fault :=
      (namedCharacters_refuses_iff hcommon hfault).2 hrefuses
    simp only [commonEncodings, upperName, List.mem_cons, List.not_mem_nil, or_false,
      not_or] at hcommon
    simp [hcommon, hnamed, Bind.bind, Except.bind]

/-- A document is refused for its encoding exactly when it declares one that is
refused. -/
theorem documentCharacters_refuses_iff (hfault : fault ≠ .malformed) :
    documentCharacters octets = .error fault ↔
      ∃ name, declaredEncoding? octets = some name ∧ RefusesEncoding name fault := by
  simp only [declaredEncoding?_eq_some]
  unfold documentCharacters
  split
  next order rest hgrouping =>
    have hleading : leadingText octets = leadingCharacters order rest := by
      unfold leadingText
      rw [hgrouping]
    rw [pairedDocument_refuses_iff hfault, hleading]
    constructor
    · rintro ⟨version, later, name, hscan, hencoding, hrefuses⟩
      exact ⟨name, ⟨version, later, hscan, hencoding⟩, hrefuses⟩
    · rintro ⟨name, ⟨version, later, hscan, hencoding⟩, hrefuses⟩
      exact ⟨version, later, name, hscan, hencoding, hrefuses⟩
  next rest hgrouping =>
    have hleading : leadingText octets = Encoding.latin rest := by
      unfold leadingText
      rw [hgrouping]
    rw [hleading]
    simp only [bind_eq_error, ofOption_eq_error, ofOption_eq_ok, hfault, and_false, false_or]
    constructor
    · rintro ⟨⟨version, later⟩, hscan, hend⟩
      cases hname : version.bind (·.encoding) with
      | none =>
          simp only [hname] at hend
          exact absurd (ofOption_eq_error.1 hend).2 hfault
      | some name =>
          simp only [hname] at hend
          obtain ⟨version, rfl, hencoding⟩ := Option.bind_eq_some_iff.1 hname
          exact ⟨name, ⟨version, later, hscan, hencoding⟩,
            (singleCharacters_refuses_iff hfault).1 hend⟩
    · rintro ⟨name, ⟨version, later, hscan, hencoding⟩, hrefuses⟩
      refine ⟨(some version, later), hscan, ?_⟩
      have hname : (some version).bind (·.encoding) = some name := hencoding
      simp only [hname]
      exact (singleCharacters_refuses_iff hfault).2 hrefuses

/-- Any other document is read or is malformed. -/
theorem readOctets_refuses_iff (hfault : fault ≠ .malformed) :
    readOctets octets = .error fault ↔
      ∃ name, declaredEncoding? octets = some name ∧ RefusesEncoding name fault := by
  rw [← documentCharacters_refuses_iff hfault]
  unfold readOctets
  rw [bind_eq_error]
  constructor
  · rintro (hcharacters | ⟨characters, -, htree⟩)
    · exact hcharacters
    · exact absurd (ofOption_eq_error.1 htree).2 hfault
  · exact .inl

end Markup

end PolicyKeeper
