import PolicyKeeper.Proofs.CheckAtomicity
import PolicyKeeper.Proofs.CheckInterruptions
import PolicyKeeper.Proofs.NestedElements
import PolicyKeeper.Proofs.Routing
import PolicyKeeper.Proofs.SiblingFiles
import PolicyKeeper.ResponseContent
import PolicyKeeper.ServiceRecords

/-!
# Ways to make a check

A check is made by a call, by a turn of the background round, or by a request.
All three make the same check and leave the same behind; they differ in who is
told of it.  A fault that is not expected goes on to the caller, is put on
record by the round, which goes on, and is answered by a failure.
-/

namespace PolicyKeeper

/-- A request asks for a check by its method and its path, and by nothing else. -/
theorem Request.asksForCheck_iff {r : Request} :
    r.asksForCheck = true ↔
      capitalized r.method = "POST" ∧
        (RequestTarget.ofText r.target).path = "/api/policies/reload".toList := by
  unfold asksForCheck
  simp only [ne_eq, Bool.and_eq_true, decide_eq_true_eq, Route.ofRequest_eq_endpoint_iff]
  constructor
  · rintro ⟨hmethod, hfound⟩
    obtain ⟨hmem, htaken⟩ := Endpoint.mem_of_find? hfound
    have hpost : capitalized r.method = "POST" := by
      simpa [Endpoint.methods, hmethod] using htaken
    exact ⟨hpost, Endpoint.path_of_reload_mem hmem⟩
  · rintro ⟨hmethod, hpath⟩
    rw [hmethod, hpath]
    decide

namespace Keeper

/-! ## Checks that nobody disturbs -/

theorem settleFault_reloading {τ : Type} (k : Keeper τ) (fault : CheckFault) :
    (k.settleFault fault).1.reloading = k.reloading := by
  unfold settleFault
  split <;> rfl

theorem sentTo_of_ne {τ : Type} {method : String} (hmethod : method ≠ "HEAD")
    (response : Response τ) :
    sentTo method response = response := by
  cases response with
  | content c => exact if_neg hmethod
  | bare | methods | moved | notFound | notAllowed | failed => rfl

variable {τ : Type} [Add τ] [LE τ] [DecidableLE τ] [OfNat τ 5]

theorem told_check (stack : CallStack) (store : FileStore τ) (now : τ) (k : Keeper τ) :
    (k.check stack store now).told = [] := by
  unfold check
  cases hgate : k.gate? now with
  | none => rw [checkWith_of_gated hgate]
  | some attempting =>
      by_cases hdue : attempting.FileIsDue store now
      · rw [checkWith_of_due hgate hdue]
        rfl
      · rcases examine_of_not_due stack hdue with ⟨hexamine, -⟩ | ⟨fault, hexamine, -⟩
        · rw [checkWith_of_nothingNew hgate hexamine]
        · rw [checkWith_of_noTime hgate hexamine]

theorem notices_check (stack : CallStack) (store : FileStore τ) (now : τ) (k : Keeper τ) :
    (k.check stack store now).notices =
      (k.check stack store now).loading ++ (k.check stack store now).closing := by
  unfold Checked.notices
  rw [told_check, List.append_nil]

/-- The background round goes on as it was, however a check ends. -/
theorem reloading_check (stack : CallStack) (store : FileStore τ) (now : τ) (k : Keeper τ) :
    (k.check stack store now).keeper.reloading = k.reloading := by
  unfold check
  cases checkWith_course stack [] store now k with
  | gated _ hkeeper => rw [hkeeper]
  | nothingNew _ _ _ hkeeper | stopped _ _ _ _ hkeeper | published _ _ _ _ hkeeper =>
      rw [hkeeper]
      rfl
  | noTime _ _ hkeeper | unloaded _ _ _ hkeeper =>
      rw [hkeeper, settleFault_reloading]
      rfl

/-! ## A turn and a request -/

/-- What a turn notices beside its check. -/
def interruptions (path : String) : Except CheckFault Bool → List (KeeperNotice τ)
  | .ok _ => []
  | .error fault => [.interrupted path fault]

theorem turn?_of_going {k : Keeper τ} (hgoing : k.reloading = true) (stack : CallStack)
    (store : FileStore τ) (now : τ) :
    let c := k.check stack store now
    k.turn? stack false store now =
      some
        { keeper := c.keeper, notices := c.notices ++ interruptions k.path c.outcome
          afterLoad := c.afterLoad } := by
  intro c
  have hnotices : c.loading ++ c.closing ++ interruptions k.path c.outcome ++ c.told =
      c.notices ++ interruptions k.path c.outcome := by
    rw [told_check, List.append_nil, notices_check]
  unfold turn?
  rw [hgoing, ← hnotices]
  rfl

theorem reply_of_asks {r : Request} (hasks : r.asksForCheck = true) (stack : CallStack)
    (store : FileStore τ) (now : τ) (k : Keeper τ) :
    k.reply stack store now r = k.replyToReload stack store now := by
  obtain ⟨hmethod, hpath⟩ := Request.asksForCheck_iff.1 hasks
  have hroute : Route.ofRequest "POST" "/api/policies/reload".toList = .endpoint .reload := by
    decide
  have hoptions : ¬ "POST" = "OPTIONS" := by decide
  have hhead : "POST" ≠ "HEAD" := by decide
  unfold reply
  simp only [hmethod, hpath, hroute, if_neg hoptions, sentTo_of_ne hhead]
  rfl

end Keeper

/-! ## Three ways -/

namespace Deployment

section

variable {τ : Type} [Add τ] [LE τ] [DecidableLE τ] [OfNat τ 5] {stack : CallStack}
  {d : Deployment τ} {r : Request}

theorem act_call (stack : CallStack) (d : Deployment τ) :
    let c := d.keeper.check stack d.store d.clock
    d.act (.check none [] stack) =
      { deployment := d.keptBy c.keeper, notices := c.notices.map .keeper
        outcome := .checked c.outcome, afterLoad := c.afterLoad } := rfl

theorem act_turn (stack : CallStack) (hgoing : d.keeper.reloading = true) :
    let byCall := d.act (.check none [] stack)
    let outcome := (d.keeper.check stack d.store d.clock).outcome
    d.act (.turn false stack) =
      { byCall with
        notices := byCall.notices ++ (Keeper.interruptions d.keeper.path outcome).map .keeper
        outcome := .turned } := by
  rw [act_call]
  simp only [act, turn, Keeper.turn?_of_going hgoing, List.map_append]

theorem act_request (stack : CallStack) (hasks : r.asksForCheck = true) :
    let reply := d.keeper.replyToReload stack d.store d.clock
    d.act (.request r stack) =
      { deployment := d.keptBy reply.keeper, notices := reply.notices
        outcome := .replied reply.response, afterLoad := none } := by
  simp only [act, request]
  rw [Keeper.reply_of_asks hasks]

theorem act_request_of_ok (hasks : r.asksForCheck = true) {reloaded : Bool}
    (houtcome : (d.keeper.check stack d.store d.clock).outcome = .ok reloaded) :
    let byCall := d.act (.check none [] stack)
    let generation := byCall.deployment.keeper.published.generation
    d.act (.request r stack) =
      { deployment := byCall.deployment
        notices := byCall.notices ++ [.checkedByHand reloaded generation]
        outcome := .replied (.content (.checked reloaded generation)), afterLoad := none } := by
  rw [act_call, act_request stack hasks]
  simp only [Keeper.replyToReload, houtcome, keptBy]

theorem act_request_of_error (hasks : r.asksForCheck = true) {fault : CheckFault}
    (houtcome : (d.keeper.check stack d.store d.clock).outcome = .error fault) :
    let byCall := d.act (.check none [] stack)
    d.act (.request r stack) =
      { deployment := byCall.deployment, notices := byCall.notices
        outcome := .replied .failed, afterLoad := none } := by
  rw [act_call, act_request stack hasks]
  simp only [Keeper.replyToReload, houtcome]

/-- Callers whose loads come to the same make the same turn and get the same answer. -/
theorem act_turn_congr {stack' : CallStack}
    (hcheck : d.keeper.check stack' d.store d.clock = d.keeper.check stack d.store d.clock) :
    d.act (.turn false stack') = d.act (.turn false stack) := by
  have hturn : d.keeper.turn? stack' false d.store d.clock =
      d.keeper.turn? stack false d.store d.clock := by
    unfold Keeper.turn?
    rw [if_neg Bool.false_ne_true]
    unfold Keeper.check at hcheck
    rw [hcheck]
  simp only [act, turn, hturn]

theorem act_request_congr {stack' : CallStack} (hasks : r.asksForCheck = true)
    (hcheck : d.keeper.check stack' d.store d.clock = d.keeper.check stack d.store d.clock) :
    d.act (.request r stack') = d.act (.request r stack) := by
  rw [act_request stack' hasks, act_request stack hasks]
  simp only [Keeper.replyToReload, hcheck]

end

/-- While the background round goes, a turn of it, a call and a request lead to
the same state and notice the same of it, if what they leave of the stack makes
no difference to a load.  The request tells whether the check published, and the
generation after it.  If the check is interrupted, the caller meets the fault,
the round puts it on record and goes on, and the request fails. -/
theorem ways_to_check_agree {made : CallStack} {store : FileStore Binary64}
    {settings : Settings Binary64} {now : Binary64} {keeper : Keeper Binary64}
    (hmade : (Keeper.establish made store settings now).outcome = .ok keeper)
    (before : List (Action Binary64))
    (hgoing : ((⟨store, now, keeper⟩ : Deployment Binary64).after before).keeper.reloading = true)
    (files : FileStore Binary64) (clock : Binary64) (onCall onTurn onRequest : CallStack)
    (hloads : let reached := (⟨store, now, keeper⟩ : Deployment Binary64).after before
      reached.keeper.Opens clock → reached.keeper.FileIsDue files clock →
        ∀ stack ∈ [onTurn, onRequest],
          PolicyFile.load stack files settings.includes (settings.configFile.getD "") =
            PolicyFile.load onCall files settings.includes (settings.configFile.getD ""))
    {r : Request} (hmethod : capitalized r.method = "POST")
    (hpath : (RequestTarget.ofText r.target).path = "/api/policies/reload".toList) :
    let reached := (⟨store, now, keeper⟩ : Deployment Binary64).after before
    let d : Deployment Binary64 := ⟨files, clock, reached.keeper⟩
    let byCall := d.act (.check none [] onCall)
    let byRound := d.act (.turn false onTurn)
    let byRequest := d.act (.request r onRequest)
    let generation := byRequest.deployment.keeper.published.generation
    byRound.deployment = byCall.deployment ∧ byRequest.deployment = byCall.deployment ∧
      byCall.deployment.keeper.reloading = true ∧ byRound.outcome = .turned ∧
      ((∃ reloaded response, byCall.outcome = .checked (.ok reloaded) ∧
          byRound.notices = byCall.notices ∧
          byRequest.notices = byCall.notices ++ [.checkedByHand reloaded generation] ∧
          byRequest.outcome = .replied response ∧ response.code = 200 ∧
          response.content?.map Content.json =
            some (.object [("reloaded", .bool reloaded), ("generation", .integer generation)])) ∨
        ∃ fault notice response, byCall.outcome = .checked (.error fault) ∧
          byRound.notices = byCall.notices ++ [notice] ∧
          (∀ logger, notice.record logger =
            { level := .error, logger
              message := "Failed to reload config file " ++ settings.configFile.getD "" }) ∧
          notice.fault? = some fault ∧ byRequest.notices = byCall.notices ∧
          byRequest.outcome = .replied response ∧ response.code = 500) := by
  intro reached d byCall byRound byRequest generation
  have hasks : r.asksForCheck = true := Request.asksForCheck_iff.2 ⟨hmethod, hpath⟩
  have hreflects : reached.keeper.Reflects (settings.configFile.getD "") settings.includes _ :=
    reflects_after (Keeper.reflects_of_establish hmade) before
  have hchecks : ∀ stack ∈ [onTurn, onRequest],
      d.keeper.check stack d.store d.clock = d.keeper.check onCall d.store d.clock := by
    intro stack hmem
    apply Keeper.checkWith_congr
    rw [hreflects.includes_eq, hreflects.path_eq]
    intro hopen hdue
    exact hloads hopen hdue stack hmem
  have hround : byRound = _ :=
    (act_turn_congr (hchecks onTurn (by simp))).trans (act_turn onCall hgoing)
  have hasked : byRequest = d.act (.request r onCall) :=
    act_request_congr hasks (hchecks onRequest (by simp))
  have hgoes : byCall.deployment.keeper.reloading = true := by
    show (reached.keeper.check onCall files clock).keeper.reloading = true
    rw [Keeper.reloading_check, hgoing]
  refine ⟨by rw [hround], ?_⟩
  cases houtcome : (reached.keeper.check onCall files clock).outcome with
  | ok reloaded =>
      have hcall : byCall.outcome = .checked (.ok reloaded) := congrArg Outcome.checked houtcome
      have hquiet : byRound.notices = byCall.notices := by
        rw [hround, houtcome]
        exact List.append_nil _
      have hrequest : byRequest = _ := hasked.trans (act_request_of_ok hasks houtcome)
      have hsame : byRequest.deployment = byCall.deployment := by rw [hrequest]
      have hgeneration : byCall.deployment.keeper.published.generation = generation :=
        congrArg (fun reached => reached.keeper.published.generation) hsame.symm
      rw [hgeneration] at hrequest
      have htold : byRequest.notices = byCall.notices ++ [.checkedByHand reloaded generation] :=
        congrArg Event.notices hrequest
      have hreply : byRequest.outcome = .replied (.content (.checked reloaded generation)) :=
        congrArg Event.outcome hrequest
      exact ⟨hsame, hgoes, by rw [hround],
        .inl ⟨reloaded, _, hcall, hquiet, htold, hreply, rfl, rfl⟩⟩
  | error fault =>
      have hcall : byCall.outcome = .checked (.error fault) := congrArg Outcome.checked houtcome
      have hrecord : byRound.notices =
          byCall.notices ++ [.keeper (.interrupted reached.keeper.path fault)] := by
        rw [hround, houtcome]
        rfl
      have hrequest : byRequest = _ := hasked.trans (act_request_of_error hasks houtcome)
      have hsame : byRequest.deployment = byCall.deployment := by rw [hrequest]
      have htold : byRequest.notices = byCall.notices := by rw [hrequest]
      have hreply : byRequest.outcome = .replied .failed := congrArg Event.outcome hrequest
      refine ⟨hsame, hgoes, by rw [hround],
        .inr ⟨fault, _, _, hcall, hrecord, ?_, rfl, htold, hreply, rfl⟩⟩
      intro logger
      rw [← hreflects.path_eq]
      rfl

def reloadRequest : Request := { method := "POST", target := "/api/policies/reload" }

def rewrittenStore : FileStore Binary64 :=
  PolicyFile.sampleStore.write "p.xml" (.file (PolicyFile.sampleDocument "/b") 1100)

def misdeclaredStore : FileStore Binary64 :=
  PolicyFile.sampleStore.write "p.xml"
    (.file (PolicyFile.octetsOf ["<?xml version='1.0' encoding='utf-32'?>"]) 1100)

theorem ways_to_check_agree_rewriting :
    ∃ keeper,
      (Keeper.establish .endless PolicyFile.sampleStore sampleSettings 1000).outcome =
        .ok keeper ∧
      let reached :=
        (⟨PolicyFile.sampleStore, 1000, keeper⟩ : Deployment Binary64).after [.command .start]
      let byRequest :=
        (⟨rewrittenStore, 1110, reached.keeper⟩ : Deployment Binary64).act
          (.request reloadRequest (.ofRoom 975))
      let failing :=
        (⟨misdeclaredStore, 1110, reached.keeper⟩ : Deployment Binary64).act
          (.request reloadRequest (.ofRoom 975))
      (∃ response, byRequest.outcome = .replied response ∧ response.code = 200) ∧
        byRequest.deployment.keeper.published.generation = 2 ∧
        ∃ response, failing.outcome = .replied response ∧ response.code = 500 := by
  obtain ⟨keeper, hmade, hgoing, hpublishes, hgeneration, hinterrupted⟩ :
      ∃ keeper,
        (Keeper.establish .endless PolicyFile.sampleStore sampleSettings 1000).outcome =
          .ok keeper ∧
        let reached :=
          (⟨PolicyFile.sampleStore, 1000, keeper⟩ : Deployment Binary64).after [.command .start]
        reached.keeper.reloading = true ∧
          (reached.keeper.check (.ofRoom 986) rewrittenStore 1110).outcome = .ok true ∧
          (reached.keeper.check (.ofRoom 986) rewrittenStore 1110).keeper.published.generation =
            2 ∧
          (reached.keeper.check (.ofRoom 975) misdeclaredStore 1110).outcome =
            .error (.load (.markup "p.xml" .severalOctets)) := by
    decide +kernel
  have hmethod : capitalized reloadRequest.method = "POST" := by decide
  have hpath : (RequestTarget.ofText reloadRequest.target).path =
      "/api/policies/reload".toList := by decide +kernel
  have hloaded : ∀ room ∈ [986, 985, 975],
      ∃ set, (PolicyFile.load (.ofRoom room) rewrittenStore true "p.xml").outcome = .ok set ∧
        set.names = ["/b"] := by
    decide +kernel
  have hleft : ∀ room ∈ [986, 985, 975],
      (PolicyFile.load (.ofRoom room) rewrittenStore true "p.xml").outcome ≠
        .error (.inclusion .nestedTooDeep) := by
    intro room hmem hused
    obtain ⟨set, hset, -⟩ := hloaded room hmem
    cases hset.symm.trans hused
  have hloads : ∀ stack ∈ [CallStack.ofRoom 985, .ofRoom 975],
      PolicyFile.load stack rewrittenStore true "p.xml" =
        PolicyFile.load (.ofRoom 986) rewrittenStore true "p.xml" := by
    intro stack hstack
    simp only [List.mem_cons, List.not_mem_nil, or_false] at hstack
    rcases hstack with rfl | rfl
    · exact PolicyFile.load_eq_of_not_usedUp (hleft 986 (by decide)) (hleft 985 (by decide))
    · exact PolicyFile.load_eq_of_not_usedUp (hleft 986 (by decide)) (hleft 975 (by decide))
  have hrewritten := ways_to_check_agree hmade [.command .start] hgoing rewrittenStore 1110
    (.ofRoom 986) (.ofRoom 985) (.ofRoom 975) (fun _ _ => hloads) hmethod hpath
  have hmisdeclared := ways_to_check_agree hmade [.command .start] hgoing misdeclaredStore 1110
    (.ofRoom 975) (.ofRoom 975) (.ofRoom 975) (by simp) hmethod hpath
  refine ⟨keeper, hmade, ?_, ?_, ?_⟩
  · obtain ⟨-, -, -, -, ⟨_, response, -, -, -, hreply, hcode, -⟩ | ⟨_, _, _, hcall, -⟩⟩ :=
      hrewritten
    · exact ⟨response, hreply, hcode⟩
    · cases hpublishes.symm.trans (Outcome.checked.inj hcall)
  · rw [hrewritten.2.1]
    exact hgeneration
  · obtain ⟨-, -, -, -, ⟨_, _, hcall, -⟩ | ⟨_, _, response, -, -, -, -, -, hreply, hcode⟩⟩ :=
      hmisdeclared
    · cases hinterrupted.symm.trans (Outcome.checked.inj hcall)
    · exact ⟨response, hreply, hcode⟩

/-! ## A document at the end of the stack -/

def nestedStore : FileStore Binary64 :=
  PolicyFile.sampleStore.write "p.xml" (.file (Markup.nestedDocument 980) 1100)

theorem load_nestedStore (room : Nat) :
    (PolicyFile.load (.ofRoom room) nestedStore true "p.xml").outcome =
      .error (if 980 ≤ room then .build (.structural (.notSource "x"))
        else .inclusion .nestedTooDeep) := by
  have hread : nestedStore.read "p.xml" = .ok (Markup.nestedDocument 980) :=
    FileStore.read_write (by decide) (by decide) ⟨by decide, by decide, by decide⟩
      (by decide +kernel) (by decide) PolicyFile.sampleStore (Markup.nestedDocument 980) 1100
  exact PolicyFile.outcome_load_nestedDocument hread

/-- A document that goes as deep as the stack does for a call and for the round is
refused by these, which is a failed attempt.  A request has less room, meets the
end of the stack, and leaves no failed attempt behind. -/
theorem ways_to_check_part :
    ∃ keeper,
      (Keeper.establish .endless PolicyFile.sampleStore sampleSettings 1000).outcome =
        .ok keeper ∧
      let reached :=
        (⟨PolicyFile.sampleStore, 1000, keeper⟩ : Deployment Binary64).after [.command .start]
      let d : Deployment Binary64 := ⟨nestedStore, 1110, reached.keeper⟩
      let byCall := d.act (.check none [] (.ofRoom 986))
      let byRound := d.act (.turn false (.ofRoom 985))
      let byRequest := d.act (.request reloadRequest (.ofRoom 975))
      d.keeper.reloading = true ∧ byCall.outcome = .checked (.ok false) ∧
        byRound.deployment = byCall.deployment ∧
        byCall.deployment.keeper.lastAttemptFailed = true ∧
        byRequest.outcome = .replied .failed ∧
        byRequest.deployment.keeper.lastAttemptFailed = false ∧
        byRequest.deployment ≠ byCall.deployment := by
  obtain ⟨keeper, hmade, hgoing, hopen, hdue, hfile, hclear⟩ :
      ∃ keeper,
        (Keeper.establish .endless PolicyFile.sampleStore sampleSettings 1000).outcome =
          .ok keeper ∧
        let reached :=
          (⟨PolicyFile.sampleStore, 1000, keeper⟩ : Deployment Binary64).after [.command .start]
        reached.keeper.reloading = true ∧ reached.keeper.Opens 1110 ∧
          (nestedStore.modified? reached.keeper.path = .ok (some 1100) ∧
            ¬ (1100 : Binary64) ≤ reached.keeper.lastSuccess ∧
            ¬ (1110 : Binary64) ≤ 1100 + Keeper.settleWindow) ∧
          (reached.keeper.path = "p.xml" ∧ reached.keeper.settings.includes = true) ∧
          reached.keeper.lastAttemptFailed = false := by
    decide +kernel
  let d : Deployment Binary64 := ⟨nestedStore, 1110,
    ((⟨PolicyFile.sampleStore, 1000, keeper⟩ : Deployment Binary64).after [.command .start]).keeper⟩
  have hload (room : Nat) :
      (PolicyFile.load (.ofRoom room) d.store d.keeper.settings.includes d.keeper.path).outcome =
        .error (if 980 ≤ room then .build (.structural (.notSource "x"))
          else .inclusion .nestedTooDeep) := by
    rw [hfile.1, hfile.2]
    exact load_nestedStore room
  have hgate : d.keeper.gate? d.clock = some { d.keeper with lastAttempt := d.clock } :=
    Keeper.gate?_eq_some_iff.2 ⟨hopen.1, hopen.2, rfl⟩
  have hfileDue : d.keeper.FileIsDue d.store d.clock := ⟨1100, hdue⟩
  have hasks : reloadRequest.asksForCheck = true := by decide +kernel
  obtain ⟨hmarked, hrefused, -⟩ := Keeper.checkWith_of_load_fails [] hgate hfileDue (hload 986)
  obtain ⟨hkept, hinterrupted, -⟩ := Keeper.checkWith_of_load_fails [] hgate hfileDue (hload 975)
  have hleft (room : Nat) (hroom : 980 ≤ room) :
      (PolicyFile.load (.ofRoom room) d.store d.keeper.settings.includes d.keeper.path).outcome ≠
        .error (.inclusion .nestedTooDeep) := by
    rw [hload room, if_pos hroom]
    intro hsame
    cases hsame
  have hturn : d.keeper.check (.ofRoom 985) d.store d.clock =
      d.keeper.check (.ofRoom 986) d.store d.clock :=
    Keeper.checkWith_congr fun _ _ =>
      PolicyFile.load_eq_of_not_usedUp (hleft 986 (by decide)) (hleft 985 (by decide))
  have hround : (d.act (.turn false (.ofRoom 985))).deployment =
      (d.act (.check none [] (.ofRoom 986))).deployment := by
    have hgoes : d.keeper.reloading = true := hgoing
    rw [act_turn_congr hturn, act_turn _ hgoes]
  have hcalled :
      (d.act (.check none [] (.ofRoom 986))).deployment.keeper.lastAttemptFailed = true :=
    congrArg Keeper.lastAttemptFailed hmarked
  have hrequest := act_request_of_error hasks hinterrupted
  have hasked :
      (d.act (.request reloadRequest (.ofRoom 975))).deployment.keeper.lastAttemptFailed =
        false := by
    rw [hrequest]
    exact (congrArg Keeper.lastAttemptFailed hkept).trans hclear
  refine ⟨keeper, hmade, hgoing, congrArg Outcome.checked hrefused, hround, hcalled, ?_, hasked,
    ?_⟩
  · show (d.act (.request reloadRequest (.ofRoom 975))).outcome = .replied .failed
    rw [hrequest]
  · intro hequal
    have hsame := congrArg (fun left : Deployment Binary64 => left.keeper.lastAttemptFailed) hequal
    cases hasked.symm.trans (hsame.trans hcalled)

end Deployment

end PolicyKeeper
