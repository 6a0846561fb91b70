import PolicyKeeper.Proofs.WaysToCheck

/-!
# Requests that only read

A request leaves the keeper as it is unless it asks for a check, and then the
keeper is the one after the check.  How many slashes a target has in front does
not count.  What a request is shown comes from the set that is published at that
moment, and two states of a run that show the same generation show the same set.
-/

namespace PolicyKeeper

/-! ## Paths and the slashes in front -/

namespace RequestTarget

/-- The decoded path of a target, with whatever slashes it has in front. -/
def decodedPath (text : String) : List Char :=
  let (_, rest) := Url.splitScheme "" (Url.cleaned text.toList)
  let rest :=
    match Url.splitAuthority rest with
    | .ok (_, rest) => rest
    | .error _ => rest
  let (rest, _) := Url.cut '#' rest
  let (path, _) := Url.cut '?' rest
  Percent.decoded path

theorem path_ofText (text : String) :
    (ofText text).path = withOneSlash (decodedPath text) := by
  cases hauthority : Url.splitAuthority (Url.splitScheme "" (Url.cleaned text.toList)).2 with
  | error fault => simp only [ofText, decodedPath, hauthority]
  | ok parts => simp only [ofText, decodedPath, hauthority]

theorem withOneSlash_eq_iff {path rest : List Char} :
    withOneSlash path = '/' :: rest ↔ path.dropWhile (· = '/') = rest := by
  unfold withOneSlash
  rw [List.cons.injEq, and_iff_right rfl]

end RequestTarget

/-- A request asks for a check by its method and its path, whatever slashes the
path has in front. -/
theorem Request.asksForCheck_iff_decodedPath {r : Request} :
    r.asksForCheck = true ↔
      capitalized r.method = "POST" ∧
        (RequestTarget.decodedPath r.target).dropWhile (· = '/') =
          "api/policies/reload".toList := by
  have hpath : "/api/policies/reload".toList = '/' :: "api/policies/reload".toList := by decide
  rw [Request.asksForCheck_iff, RequestTarget.path_ofText, hpath,
    RequestTarget.withOneSlash_eq_iff]

namespace Endpoint

theorem eq_of_openPart? {start name : String} {path : List Char}
    (hopen : openPart? start path = some name) : path = start.toList ++ name.toList := by
  unfold openPart? at hopen
  split at hopen
  next hstarts =>
    simp only at hopen
    split at hopen
    next =>
      obtain ⟨rest, rfl⟩ := List.isPrefixOf_iff_prefix.1 hstarts
      have hname : String.ofList ((start.toList ++ rest).drop start.length) = name :=
        Option.some.inj hopen
      rw [← hname, String.toList_ofList, ← String.length_toList, List.drop_left]
    next => cases hopen
  next => cases hopen

/-- A policy is asked for by the rest of the path. -/
theorem path_of_policy_mem {path : List Char} {name : String} (hmem : .policy name ∈ ofPath path) :
    path = "/api/policies/".toList ++ name.toList := by
  unfold ofPath at hmem
  simp only [List.mem_append, Option.mem_toList, Option.map_eq_some_iff] at hmem
  rcases hmem with (hfixed | ⟨found, hopen, hname⟩) | ⟨_, _, hasset⟩
  · obtain ⟨front, back, hpaths, -⟩ := List.lookup_eq_some_iff.1 hfixed
    have hpath : (String.ofList path, policy name) ∈ fixedPaths := by simp [hpaths]
    simp [fixedPaths] at hpath
  · cases hname
    exact eq_of_openPart? hopen
  · cases hasset

end Endpoint

/-! ## Sets and generations -/

namespace Keeper

variable {τ : Type} {k k' : Keeper τ} {path : String} {includes : Bool}
  {loads : List (FileStore τ)}

/-- The published set is determined by the loads that it comes from. -/
theorem Reflects.published_eq (h : k.Reflects path includes loads)
    (h' : k'.Reflects path includes loads) : k'.published = k.published := by
  obtain ⟨store, set, hlast, hload, hpublished⟩ := h.origin
  obtain ⟨store', set', hlast', hload', hpublished'⟩ := h'.origin
  obtain rfl := Option.some.inj (hlast.symm.trans hlast')
  obtain rfl := Except.ok.inj (hload.symm.trans hload')
  rw [hpublished, hpublished']

theorem Reflects.published_generation (h : k.Reflects path includes loads) :
    k.published.generation = loads.length := by
  obtain ⟨_, _, -, -, hpublished⟩ := h.origin
  rw [hpublished]
  rfl

end Keeper

/-! ## What a request is shown -/

def Request.GetsFrom (r : Request) (e : Endpoint) : Prop :=
  capitalized r.method = "GET" ∧
    Route.ofRequest "GET" (RequestTarget.ofText r.target).path = .endpoint e

/-- The response shows of a keeper what the endpoint of a path has to show. -/
def Response.Shows (response : Response Binary64) (k : Keeper Binary64) (path : List Char) :
    Endpoint → Prop
  | .policies =>
      response.code = 200 ∧ response.content?.map Content.json =
        some (.object
          [("generation", .integer k.published.generation), ("source", .text k.published.source),
            ("policies", .list (k.published.policies.map Policy.json))])
  | .status =>
      response.code = 200 ∧ response.content?.map Content.json =
        some (.object
          [("config_file", .text k.path), ("generation", .integer k.published.generation),
            ("policy_count", .integer k.published.policies.length),
            ("reload_enabled", .bool k.settings.reloadEnabled),
            ("reload_interval", .number k.settings.reloadInterval), ("settle_window", .number 5),
            ("rescan_interval", .number k.settings.rescanInterval),
            ("last_attempt_time", .number k.lastAttempt),
            ("last_success_time", .number k.lastSuccess),
            ("last_attempt_failed", .bool k.lastAttemptFailed), ("running", .bool k.running),
            ("reloading", .bool k.reloading)])
  | .policy name =>
      path = "/api/policies/".toList ++ name.toList ∧
        ((∃ p ∈ k.published.policies, (p.name = name ∨ p.name = "/" ++ name) ∧
            response.code = 200 ∧ response.content?.map Content.json = some p.json) ∨
          (∀ p ∈ k.published.policies, p.name ≠ name ∧ p.name ≠ "/" ++ name) ∧
            response.code = 404)
  | .health | .reload | .asset _ => True

namespace Keeper

variable {τ : Type} {k : Keeper τ} {name : String} {p : Policy}

theorem policy?_eq_some (hfound : k.policy? name = some p) :
    p ∈ k.published.policies ∧ (p.name = name ∨ p.name = "/" ++ name) := by
  unfold policy? at hfound
  cases hwhole : k.published.find? name with
  | some first =>
      rw [hwhole] at hfound
      obtain rfl := Option.some.inj hfound
      have hname := List.find?_some hwhole
      exact ⟨List.mem_of_find?_eq_some hwhole, .inl (by simpa using hname)⟩
  | none =>
      rw [hwhole] at hfound
      have hname := List.find?_some hfound
      exact ⟨List.mem_of_find?_eq_some hfound, .inr (by simpa using hname)⟩

theorem policy?_eq_none (hmissing : k.policy? name = none) (hmem : p ∈ k.published.policies) :
    p.name ≠ name ∧ p.name ≠ "/" ++ name := by
  unfold policy? at hmissing
  cases hwhole : k.published.find? name with
  | some first =>
      rw [hwhole] at hmissing
      cases hmissing
  | none =>
      rw [hwhole] at hmissing
      have hfirst := List.find?_eq_none.1 hwhole p hmem
      have hsecond := List.find?_eq_none.1 hmissing p hmem
      exact ⟨by simpa using hfirst, by simpa using hsecond⟩

theorem reply_of_gets [Add τ] [LE τ] [DecidableLE τ] [OfNat τ 5] {r : Request} {e : Endpoint}
    (hgets : r.GetsFrom e) (stack : CallStack) (store : FileStore τ) (now : τ) (k : Keeper τ) :
    k.reply stack store now r = k.replyAt stack store now e := by
  obtain ⟨hmethod, hroute⟩ := hgets
  have hoptions : ¬ "GET" = "OPTIONS" := by decide
  have hhead : "GET" ≠ "HEAD" := by decide
  unfold reply
  simp only [hmethod, hroute, if_neg hoptions, sentTo_of_ne hhead]

theorem reply_shows {k : Keeper Binary64} {r : Request} {e : Endpoint} (hgets : r.GetsFrom e)
    (stack : CallStack) (store : FileStore Binary64) (now : Binary64) :
    (k.reply stack store now r).response.Shows k (RequestTarget.ofText r.target).path e := by
  rw [reply_of_gets hgets]
  cases e with
  | policies => exact ⟨rfl, rfl⟩
  | status => exact ⟨rfl, rfl⟩
  | health | reload | asset => trivial
  | policy name =>
      obtain ⟨hmem, -⟩ := Endpoint.mem_of_find? (Route.ofRequest_eq_endpoint_iff.1 hgets.2)
      refine ⟨Endpoint.path_of_policy_mem hmem, ?_⟩
      have hresponse : (k.replyAt stack store now (.policy name)).response =
          .content ((k.policy? name).elim (.noPolicy name) .policy) := rfl
      rw [hresponse]
      cases hfound : k.policy? name with
      | some p =>
          obtain ⟨hpublished, hname⟩ := policy?_eq_some hfound
          exact .inl ⟨p, hpublished, hname, rfl, rfl⟩
      | none => exact .inr ⟨fun p => policy?_eq_none hfound, rfl⟩

/-- A request for a check that succeeds tells the generation after it. -/
theorem replyToReload_of_code {k : Keeper Binary64} {path : String} {includes : Bool}
    {loads : List (FileStore Binary64)} (h : k.Reflects path includes loads)
    {stack : CallStack} {store : FileStore Binary64} {now : Binary64}
    (hcode : (k.replyToReload stack store now).response.code = 200) :
    ∃ reloaded generation, (k.check stack store now).outcome = .ok reloaded ∧
      generation = k.published.generation + (if reloaded then 1 else 0) ∧
      (k.check stack store now).keeper.published.generation = generation ∧
      (k.replyToReload stack store now).response.content?.map Content.json =
        some (.object [("reloaded", .bool reloaded), ("generation", .integer generation)]) := by
  cases houtcome : (k.check stack store now).outcome with
  | error fault =>
      simp [replyToReload, houtcome, Response.code] at hcode
  | ok reloaded =>
      refine ⟨reloaded, _, rfl, rfl, ?_⟩
      have hgeneration : (k.check stack store now).keeper.published.generation =
          k.published.generation + (if reloaded then 1 else 0) := by
        rcases checkWith_shows stack [] store now k with
          ⟨hnot, hsame⟩ | ⟨between, set, hpublished, hsame, -, hkeeper⟩
        · cases reloaded with
          | true => exact absurd houtcome hnot
          | false =>
              unfold check
              rw [hsame.published]
              exact (Int.add_zero _).symm
        · obtain rfl := Except.ok.inj (houtcome.symm.trans hpublished)
          have hcount : (between.publish now set).published.generation = between.generation + 1 :=
            rfl
          unfold check
          rw [hkeeper, hcount, hsame.generation, h.published_generation, h.generation_eq]
          rfl
      refine ⟨hgeneration, ?_⟩
      rw [← hgeneration]
      simp only [replyToReload, houtcome]
      rfl

end Keeper

namespace Deployment

/-- For every keeper that is ever seen: a request changes it only by asking for
a check, and then as the check does; if all is well the response tells whether
the check published, and counts the generation on by one if so.  The policies,
the bookkeeping and a policy are shown as they are published at that moment, and
two lists with the same generation show the same set. -/
theorem requests_only_read {made : CallStack} {store : FileStore Binary64}
    {settings : Settings Binary64} {now : Binary64} {keeper k : Keeper Binary64}
    (hmade : (Keeper.establish made store settings now).outcome = .ok keeper)
    (before : List (Action Binary64))
    (hshows : ((⟨store, now, keeper⟩ : Deployment Binary64).after before).Shows k)
    (stack : CallStack) (files : FileStore Binary64) (clock : Binary64) (r : Request) :
    let reached := (⟨store, now, keeper⟩ : Deployment Binary64).after before
    let reply := k.reply stack files clock r
    let checked := k.check stack files clock
    let asksForCheck := capitalized r.method = "POST" ∧
      (RequestTarget.decodedPath r.target).dropWhile (· = '/') = "api/policies/reload".toList
    (¬ asksForCheck → reply.keeper = k) ∧
      (asksForCheck → reply.keeper = checked.keeper ∧
        (reply.response.code = 200 →
          ∃ reloaded generation, checked.outcome = .ok reloaded ∧
            generation = k.published.generation + (if reloaded then 1 else 0) ∧
            reply.keeper.published.generation = generation ∧
            reply.response.content?.map Content.json =
              some (.object
                [("reloaded", .bool reloaded), ("generation", .integer generation)]))) ∧
      (∀ e, r.GetsFrom e → reply.response.Shows k (RequestTarget.ofText r.target).path e) ∧
      ∀ more k' stack' files' clock' r', (reached.after more).Shows k' →
        r.GetsFrom .policies → r'.GetsFrom .policies →
        ∃ set set', reply.response = .content (.policies set) ∧
          (k'.reply stack' files' clock' r').response = .content (.policies set') ∧
          (set'.generation = set.generation → set' = set) := by
  intro reached reply checked asksForCheck
  let path := settings.configFile.getD ""
  have hreached : reached.keeper.Reflects path settings.includes _ :=
    reflects_after (Keeper.reflects_of_establish hmade) before
  have hreflects := reflects_of_shows hreached hshows
  refine ⟨?_, ?_, fun e hgets => Keeper.reply_shows hgets stack files clock, ?_⟩
  · intro hnot
    have hasks : r.asksForCheck = false := by
      rw [← Bool.not_eq_true, Request.asksForCheck_iff_decodedPath]
      exact hnot
    exact Keeper.reply_keeper_of_not_asks hasks
  · intro hasked
    have hasks : r.asksForCheck = true := Request.asksForCheck_iff_decodedPath.2 hasked
    have hkeeper : reply.keeper = checked.keeper := Keeper.reply_keeper_of_asks hasks
    refine ⟨hkeeper, ?_⟩
    intro hcode
    rw [hkeeper]
    have hreply : reply = k.replyToReload stack files clock :=
      Keeper.reply_of_asks hasks stack files clock k
    rw [hreply] at hcode ⊢
    exact Keeper.replyToReload_of_code hreflects hcode
  · intro more k' stack' files' clock' r' hlater hgets hgets'
    refine ⟨k.published, k'.published, ?_, ?_, ?_⟩
    · exact congrArg Reply.response (Keeper.reply_of_gets hgets stack files clock k)
    · exact congrArg Reply.response (Keeper.reply_of_gets hgets' stack' files' clock' k')
    · intro hgeneration
      have hreflects' := reflects_of_shows (reflects_after hreached more) hlater
      -- No load came in between, as the generation counts them.
      have hnone : reached.publications more = [] := by
        rw [hreflects'.published_generation, hreflects.published_generation] at hgeneration
        have hlength := Int.ofNat.inj hgeneration
        rw [List.length_append] at hlength
        exact List.length_eq_zero_iff.1 (by omega)
      rw [hnone, List.append_nil] at hreflects'
      exact hreflects.published_eq hreflects'

/-! ## A check behind two slashes -/

def slashedRequest : Request := { method := "POST", target := "/%2Fapi/policies/reload" }

def listRequest : Request := { method := "GET", target := "/api/policies" }

theorem requests_only_read_slashed :
    ∃ keeper,
      (Keeper.establish .endless PolicyFile.sampleStore sampleSettings 1000).outcome =
        .ok keeper ∧
      (keeper.reply .endless rewrittenStore 1110 slashedRequest).keeper.published.generation = 2 ∧
      (keeper.reply .endless rewrittenStore 1110 slashedRequest).response.content?.map
          Content.json =
        some (.object [("reloaded", .bool true), ("generation", .integer 2)]) ∧
      (keeper.reply .endless rewrittenStore 1110 listRequest).keeper = keeper ∧
      (keeper.reply .endless rewrittenStore 1110 listRequest).response.Shows keeper
        "/api/policies".toList .policies := by
  obtain ⟨keeper, hmade, hcode, houtcome, hgeneration⟩ :
      ∃ keeper,
        (Keeper.establish .endless PolicyFile.sampleStore sampleSettings 1000).outcome =
          .ok keeper ∧
        (keeper.reply .endless rewrittenStore 1110 slashedRequest).response.code = 200 ∧
        (keeper.check .endless rewrittenStore 1110).outcome = .ok true ∧
        keeper.published.generation = 1 := by
    decide +kernel
  have hasks : capitalized slashedRequest.method = "POST" ∧
      (RequestTarget.decodedPath slashedRequest.target).dropWhile (· = '/') =
        "api/policies/reload".toList := by
    decide +kernel
  have hlists : listRequest.GetsFrom .policies := ⟨by decide, by decide +kernel⟩
  have hpath : (RequestTarget.ofText listRequest.target).path = "/api/policies".toList := by
    decide +kernel
  have hother : ¬ (capitalized listRequest.method = "POST" ∧
      (RequestTarget.decodedPath listRequest.target).dropWhile (· = '/') =
        "api/policies/reload".toList) := by
    decide +kernel
  obtain ⟨-, hchecks, -⟩ :=
    requests_only_read (k := keeper) hmade [] (.inl rfl) .endless rewrittenStore 1110 slashedRequest
  obtain ⟨hreads, -, hshown, -⟩ :=
    requests_only_read (k := keeper) hmade [] (.inl rfl) .endless rewrittenStore 1110 listRequest
  obtain ⟨reloaded, generation, hreloaded, hcount, hpublished, hjson⟩ := (hchecks hasks).2 hcode
  obtain rfl := Except.ok.inj (houtcome.symm.trans hreloaded)
  rw [hgeneration] at hcount
  subst hcount
  exact ⟨keeper, hmade, hpublished, hjson, hreads hother, hpath ▸ hshown _ hlists⟩

/-- The path alone does not tell which requests ask for a check. -/
theorem check_behind_slashes :
    ¬ ∀ (store : FileStore Binary64) (settings : Settings Binary64) (now : Binary64)
        (keeper : Keeper Binary64),
        (Keeper.establish .endless store settings now).outcome = .ok keeper →
        ∀ (before : List (Action Binary64)) (r : Request),
          let d := (⟨store, now, keeper⟩ : Deployment Binary64).after before
          ¬ (capitalized r.method = "POST" ∧
            RequestTarget.decodedPath r.target = "/api/policies/reload".toList) →
          (d.act (.request r .endless)).deployment.keeper = d.keeper := by
  intro hunchanged
  let before : List (Action Binary64) :=
    [.advance 100, .write "p.xml" (some (PolicyFile.sampleDocument "/b")) none, .advance 10]
  obtain ⟨keeper, hmade, hbefore, hafter⟩ :
      ∃ keeper,
        (Keeper.establish .endless PolicyFile.sampleStore sampleSettings 1000).outcome =
          .ok keeper ∧
        let d := (⟨PolicyFile.sampleStore, 1000, keeper⟩ : Deployment Binary64).after before
        d.keeper.generation = 1 ∧
          (d.act (.request slashedRequest .endless)).deployment.keeper.generation = 2 := by
    decide +kernel
  have hpath : ¬ (capitalized slashedRequest.method = "POST" ∧
      RequestTarget.decodedPath slashedRequest.target = "/api/policies/reload".toList) := by
    decide +kernel
  rw [hunchanged _ _ _ _ hmade before slashedRequest hpath, hbefore] at hafter
  cases hafter

end Deployment

end PolicyKeeper
