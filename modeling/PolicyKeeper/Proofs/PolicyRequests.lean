import PolicyKeeper.Proofs.FileNames
import PolicyKeeper.Proofs.PercentRoundTrip
import PolicyKeeper.Proofs.PublishedPolicies
import PolicyKeeper.Proofs.Routing
import PolicyKeeper.ResponseContent

/-!
# Policies by their paths

A policy whose source path starts with one slash can be asked for by it: the
path of the policies is followed by the source path, percent-encoded.  Three
things come before the policy: the fixed path of the bookkeeping, a line break
in the source path, and another policy whose name is the same without the
slash.
-/

namespace PolicyKeeper

namespace RequestTarget

/-- Marks that are neither unreserved nor safe do not come up in what is
encoded. -/
theorem not_mem_encoded {safe s : List Char} {mark : Char}
    (hreserved : Percent.isUnreserved mark = false) (hsafe : mark ∉ safe) (hmark : mark ≠ '%') :
    mark ∉ Percent.encoded safe s := by
  intro hmem
  rcases Percent.mem_encoded hmem with hunreserved | hmem | rfl
  · simp [hreserved] at hunreserved
  · exact hsafe hmem
  · exact hmark rfl

theorem visible_of_isUnreserved {c : Char} (hc : Percent.isUnreserved c = true) :
    0x20 < c.toNat := by
  by_cases htilde : c = '~'
  · subst htilde
    decide
  · apply Url.not_blank_of_isFileNameCharacter
    have hclass : (c.isAlphanum || c == '_' || c == '.' || c == '-') = true := by
      simpa [Percent.isUnreserved, htilde] using hc
    unfold isFileNameCharacter
    revert hclass
    cases c.isAlphanum <;> cases c == '_' <;> cases c == '.' <;> cases c == '-' <;> decide

/-- The path of a target is the one that was encoded. -/
theorem path_ofText_encoded {c : Char} {rest : List Char} (hc : Percent.isUnreserved c = true) :
    (ofText (String.ofList (Percent.encoded ['/'] ('/' :: c :: rest)))).path =
      '/' :: c :: rest := by
  have hslash : c ≠ '/' := by
    rintro rfl
    exact absurd hc (by decide)
  have hcleaned : Url.cleaned (Percent.encoded ['/'] ('/' :: c :: rest)) =
      Percent.encoded ['/'] ('/' :: c :: rest) := by
    apply Url.cleaned_eq_self
    intro other hmem
    rcases Percent.mem_encoded hmem with hunreserved | hsafe | rfl
    · exact visible_of_isUnreserved hunreserved
    · obtain rfl := List.mem_singleton.1 hsafe
      decide
    · decide
  have hstart : Percent.encoded ['/'] ('/' :: c :: rest) =
      '/' :: c :: Percent.encoded ['/'] rest := by
    rw [Percent.encoded_cons, Percent.encoded_cons, hc]
    rfl
  have hscheme : Url.cut ':' (Percent.encoded ['/'] ('/' :: c :: rest)) = (_, none) :=
    Url.cut_of_not_mem (not_mem_encoded (by decide) (by decide) (by decide))
  have hauthority : Url.splitAuthority (Percent.encoded ['/'] ('/' :: c :: rest)) =
      .ok ([], Percent.encoded ['/'] ('/' :: c :: rest)) := by
    rw [hstart]
    unfold Url.splitAuthority
    split
    next other heq =>
      simp only [List.cons.injEq, true_and] at heq
      exact absurd heq.1 hslash
    next => rfl
  have hfragment : Url.cut '#' (Percent.encoded ['/'] ('/' :: c :: rest)) = (_, none) :=
    Url.cut_of_not_mem (not_mem_encoded (by decide) (by decide) (by decide))
  have hquery : Url.cut '?' (Percent.encoded ['/'] ('/' :: c :: rest)) = (_, none) :=
    Url.cut_of_not_mem (not_mem_encoded (by decide) (by decide) (by decide))
  unfold ofText Url.splitScheme
  simp only [String.toList_ofList, hcleaned, hscheme, hauthority, hfragment, hquery]
  rw [Percent.decoded_encoded (by decide)]
  simp [withOneSlash, hslash]

end RequestTarget

/-- The request for the policy of a name. -/
def Request.forPolicy (name : String) : Request where
  method := "GET"
  target := "/api/policies" ++ String.ofList (Percent.encoded ['/'] name.toList)

theorem Request.path_forPolicy {name : String} {s : List Char} (hname : name.toList = '/' :: s) :
    (RequestTarget.ofText (forPolicy name).target).path = Endpoint.pathBelow s := by
  have hfixed : Percent.encoded ['/'] "/api/policies".toList = "/api/policies".toList := by
    decide
  have htarget : (forPolicy name).target =
      String.ofList (Percent.encoded ['/'] ("/api/policies".toList ++ '/' :: s)) := by
    rw [Percent.encoded_append, hfixed, ← hname, String.ofList_append, String.ofList_toList]
    rfl
  have hpath : "/api/policies".toList ++ '/' :: s = Endpoint.pathBelow s := by
    simp [Endpoint.pathBelow_eq]
  have hstart : Endpoint.pathBelow s = '/' :: 'a' :: ("pi/policies/".toList ++ s) := by
    simp [Endpoint.pathBelow_eq]
  rw [htarget, hpath, hstart]
  exact RequestTarget.path_ofText_encoded (by decide)

namespace Keeper

variable {τ : Type} {k : Keeper τ} {name : String} {c : Char} {rest : List Char}

theorem policy?_of_find? {p : Policy} (hname : name.toList = '/' :: c :: rest)
    (hfound : k.published.find? name = some p)
    (hshort : k.published.find? (String.ofList (c :: rest)) = none) :
    k.policy? (String.ofList (c :: rest)) = some p := by
  have hwhole : "/" ++ String.ofList (c :: rest) = name := by
    rw [← String.toList_inj, hname]
    simp
  unfold policy?
  rw [hshort, hwhole, hfound]
  rfl

variable [Add τ] [LE τ] [DecidableLE τ] [OfNat τ 5]

/-- A request that shows something leaves the keeper as it is. -/
theorem reply_forPolicy (stack : CallStack) (store : FileStore τ) (now : τ)
    (hname : name.toList = '/' :: c :: rest) (hc : c ≠ '/') :
    let short := String.ofList (c :: rest)
    k.reply stack store now (Request.forPolicy name) =
      { keeper := k, notices := []
        response :=
          if short = "status" then .content (.status k.status)
          else if '\n' ∈ rest then .notFound
          else .content ((k.policy? short).elim (.noPolicy short) .policy) } := by
  intro short
  have hmethod : capitalized (Request.forPolicy name).method = "GET" := by
    show capitalized "GET" = "GET"
    decide
  have hstatus : short = "status" ↔ c :: rest = "status".toList := by
    rw [← String.toList_inj, String.toList_ofList]
  have hoptions : ¬ "GET" = "OPTIONS" := by decide
  unfold reply
  simp only [hmethod, Request.path_forPolicy hname, Route.ofRequest_get_pathBelow hc, hstatus,
    if_neg hoptions]
  split_ifs
  · rfl
  · rfl
  · rfl

end Keeper

namespace Deployment

/-- Every keeper that is ever seen shows each policy under its source path, if
that starts with one slash.  It shows its own bookkeeping in place of the policy
whose path is the one of the bookkeeping, nothing if there is a line break in
the path, and the policy of the path without the slash if there is one. -/
theorem policy_shown_by_path {made : CallStack} {store : FileStore Binary64}
    {settings : Settings Binary64} {now : Binary64} {keeper k : Keeper Binary64}
    (hmade : (Keeper.establish made store settings now).outcome = .ok keeper)
    (actions : List (Action Binary64))
    (hshows : ((⟨store, now, keeper⟩ : Deployment Binary64).after actions).Shows k)
    (stack : CallStack) (files : FileStore Binary64) (clock : Binary64) {p : Policy}
    (hmem : p ∈ k.published.policies) {c : Char} {rest : List Char}
    (hname : p.name.toList = '/' :: c :: rest) (hc : c ≠ '/') :
    let short := String.ofList (c :: rest)
    let reply := k.reply stack files clock (Request.forPolicy p.name)
    reply.keeper = k ∧ reply.notices = [] ∧
      (short ≠ "status" → '\n' ∉ rest → k.published.find? short = none →
        reply.response.code = 200 ∧
        reply.response.content?.map Content.json =
          some (.object
            [("name", .text p.name), ("src_path", .text p.sourcePath),
              ("properties", .object (p.properties.entries.map fun (name, value) =>
                (name, value.elim .null .text))),
              ("destinations", .list (p.destinations.map fun d =>
                .object [("path", .text d.path), ("properties", .object
                  (d.properties.entries.map fun (name, value) =>
                    (name, value.elim .null .text)))]))])) ∧
      (short = "status" → reply.response = .content (.status k.status)) ∧
      ('\n' ∈ rest → reply.response = .notFound) ∧
      ∀ other, k.published.find? short = some other → short ≠ "status" → '\n' ∉ rest →
        reply.response = .content (.policy other) := by
  intro short reply
  have hreflects := reflects_of_shows
    (reflects_after (Keeper.reflects_of_establish hmade) actions) hshows
  have hfound : k.published.find? p.name = some p := hreflects.sound.find? hmem
  have hreply : reply = _ := Keeper.reply_forPolicy stack files clock hname hc
  have hresponse : reply.response =
      if short = "status" then .content (.status k.status)
      else if '\n' ∈ rest then .notFound
      else .content ((k.policy? short).elim (.noPolicy short) .policy) := by rw [hreply]
  refine ⟨by rw [hreply], by rw [hreply], ?_, ?_, ?_, ?_⟩
  · intro hstatus hbreak hshort
    have hshown : k.policy? short = some p := Keeper.policy?_of_find? hname hfound hshort
    rw [hresponse, if_neg hstatus, if_neg hbreak, hshown]
    exact ⟨rfl, rfl⟩
  · intro hstatus
    rw [hresponse, if_pos hstatus]
  · intro hbreak
    have hstatus : short ≠ "status" := by
      intro hshort
      have htext : c :: rest = "status".toList := by
        rw [← hshort]
        exact String.toList_ofList.symm
      exact Endpoint.ne_of_broken hbreak (by decide) htext
    rw [hresponse, if_neg hstatus, if_pos hbreak]
  · intro other hother hstatus hbreak
    have hshown : k.policy? short = some other := by
      unfold Keeper.policy?
      rw [hother]
      rfl
    rw [hresponse, if_neg hstatus, if_neg hbreak, hshown]
    rfl

/-- Policies, most of which have something before them under their paths. -/
def shadowedStore : FileStore Binary64 :=
  let names := ["/status", "a", "/a", "/b&#10;c", "/d é%"]
  FileStore.empty.write "p.xml"
    (.file (PolicyFile.octetsOf ["<configuration>"] ++ names.flatMap PolicyFile.samplePolicy ++
      PolicyFile.octetsOf ["</configuration>"]) 900)

theorem shadowedStore_keeps :
    ∃ keeper, (Keeper.establish .endless shadowedStore sampleSettings 1000).outcome = .ok keeper ∧
      keeper.published.names = ["/status", "a", "/a", "/b\nc", "/d é%"] ∧
      (∃ p ∈ keeper.published.policies, p.name = "/b\nc") ∧
      (∃ p ∈ keeper.published.policies, p.name = "/d é%") ∧
      (keeper.published.find? "a").isSome = true ∧
      (keeper.published.find? "d é%").isNone = true := by
  decide +kernel

theorem policy_shown_by_path_encoded :
    ∃ keeper, (Keeper.establish .endless shadowedStore sampleSettings 1000).outcome = .ok keeper ∧
      ∃ p ∈ keeper.published.policies, p.name = "/d é%" ∧
        (keeper.reply .endless shadowedStore 1000
          (Request.forPolicy p.name)).response.code = 200 := by
  obtain ⟨keeper, hmade, -, -, ⟨p, hmem, hname⟩, -, hshort⟩ := shadowedStore_keeps
  have hpath : p.name.toList = '/' :: 'd' :: [' ', 'é', '%'] := by
    rw [hname]
    decide
  have hshown :=
    policy_shown_by_path hmade [] (.inl rfl) .endless shadowedStore 1000 hmem hpath (by decide)
  have htext : String.ofList ('d' :: [' ', 'é', '%']) = "d é%" := by decide
  have hother : String.ofList ('d' :: [' ', 'é', '%']) ≠ "status" := by
    rw [htext]
    decide
  refine ⟨keeper, hmade, p, hmem, hname, ?_⟩
  exact (hshown.2.2.1 hother (by decide) (htext ▸ Option.isNone_iff_eq_none.1 hshort)).1

def shownFor (k : Keeper Binary64) (name : String) : Response Binary64 :=
  (k.reply .endless shadowedStore 1000 (Request.forPolicy name)).response

/-- Not every policy is shown under its path. -/
theorem policies_behind_others :
    ∃ keeper, (Keeper.establish .endless shadowedStore sampleSettings 1000).outcome = .ok keeper ∧
      keeper.published.names = ["/status", "a", "/a", "/b\nc", "/d é%"] ∧
      (¬ ∀ p ∈ keeper.published.policies, ∀ c rest, p.name.toList = '/' :: c :: rest → c ≠ '/' →
        (shownFor keeper p.name).code = 200 ∧
          (shownFor keeper p.name).content?.map Content.json = some p.json) ∧
      shownFor keeper "/status" = .content (.status keeper.status) ∧
      (∃ other, other.name = "a" ∧ shownFor keeper "/a" = .content (.policy other)) ∧
      shownFor keeper "/b\nc" = .notFound := by
  obtain ⟨keeper, hmade, hnames, ⟨p, hmem, hname⟩, -, hother, -⟩ := shadowedStore_keeps
  obtain ⟨other, hfound⟩ := Option.isSome_iff_exists.1 hother
  have hbroken : "/b\nc".toList = '/' :: 'b' :: ['\n', 'c'] := by decide
  have hstatus : "/status".toList = '/' :: 's' :: "tatus".toList := by decide
  have hsecond : "/a".toList = '/' :: 'a' :: [] := by decide
  have hshown : keeper.policy? (String.ofList ['a']) = some other := by
    have hshort : String.ofList ['a'] = "a" := by decide
    unfold Keeper.policy?
    rw [hshort, hfound]
    rfl
  have hnowhere : shownFor keeper "/b\nc" = .notFound := by
    unfold shownFor
    rw [Keeper.reply_forPolicy .endless shadowedStore 1000 hbroken (by decide)]
    rfl
  refine ⟨keeper, hmade, hnames, ?_, ?_, ⟨other, ?_, ?_⟩, hnowhere⟩
  · intro hall
    have hcode := (hall p hmem 'b' ['\n', 'c'] (hname ▸ hbroken) (by decide)).1
    rw [hname, hnowhere] at hcode
    exact absurd hcode (by decide)
  · unfold shownFor
    rw [Keeper.reply_forPolicy .endless shadowedStore 1000 hstatus (by decide)]
    rfl
  · have hnamed := List.find?_some hfound
    simpa using hnamed
  · unfold shownFor
    rw [Keeper.reply_forPolicy .endless shadowedStore 1000 hsecond (by decide), hshown]
    rfl

end Deployment

end PolicyKeeper
