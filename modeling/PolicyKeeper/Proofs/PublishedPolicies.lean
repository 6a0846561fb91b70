import PolicyKeeper.Proofs.DeploymentRuns
import PolicyKeeper.Proofs.FileFaults
import PolicyKeeper.Proofs.LoadOutcomes

/-!
# The published policies

A keeper shows what its policy file gave at the last of its loads that were
published, the first of which made it.  The generation counts these loads.  An
action either publishes what the file gives at that moment, and so adds one
load, or leaves what is shown alone; all states of a run keep to this, those in
the middle of a check included.
-/

namespace PolicyKeeper

variable {τ : Type} {stack : CallStack}

/-- The keeper shows the policies of its file as they were at the last of some
loads, which its generation counts. -/
structure Keeper.Reflects (k : Keeper τ) (path : String) (includes : Bool)
    (loads : List (FileStore τ)) : Prop where
  path_eq : k.path = path
  includes_eq : k.settings.includes = includes
  generation_eq : k.generation = loads.length
  origin : ∃ store set, loads.getLast? = some store ∧
    (PolicyFile.load .endless store includes path).outcome = .ok set ∧
    k.published = set.withGeneration loads.length

namespace Keeper

variable {k k' : Keeper τ} {path : String} {includes : Bool} {loads : List (FileStore τ)}

theorem Reflects.showsSame (h : k.Reflects path includes loads) (hsame : k.ShowsSame k') :
    k'.Reflects path includes loads := by
  obtain ⟨store, set, hlast, hload, hpublished⟩ := h.origin
  constructor
  · rw [hsame.path, h.path_eq]
  · rw [hsame.settings, h.includes_eq]
  · rw [hsame.generation, h.generation_eq]
  · exact ⟨store, set, hlast, hload, hsame.published.trans hpublished⟩

theorem Reflects.publish {set : PolicySet} {store : FileStore τ}
    (h : k.Reflects path includes loads)
    (hload : (PolicyFile.load .endless store includes path).outcome = .ok set) (now : τ) :
    (k.publish now set).Reflects path includes (loads ++ [store]) := by
  have hcount : k.generation + 1 = (loads ++ [store]).length := by
    rw [List.length_append, h.generation_eq, List.length_singleton]
  constructor
  · exact h.path_eq
  · exact h.includes_eq
  · exact hcount
  · refine ⟨store, set, List.getLast?_concat, hload, ?_⟩
    rw [← hcount]
    rfl

theorem Reflects.sound (h : k.Reflects path includes loads) : k.published.Sound := by
  obtain ⟨_, set, -, hload, hpublished⟩ := h.origin
  rw [hpublished]
  exact PolicySet.sound_withGeneration (PolicyFile.sound_of_load hload) _

/-- The path of a file that was loaded has no null character. -/
theorem Reflects.path_lacks_null (h : k.Reflects path includes loads) :
    k.path.toList.contains '\x00' = false := by
  obtain ⟨_, _, -, hload, -⟩ := h.origin
  obtain ⟨_, _, _, hread, -⟩ := PolicyFile.load_eq_ok_iff.1 hload
  rw [h.path_eq]
  exact FileStore.path_of_read hread

theorem getLast?_loads (store : FileStore τ) (publications : List (FileStore τ)) :
    ([store] ++ publications).getLast? = some (publications.getLast?.getD store) := by
  rw [List.getLast?_append, List.getLast?_singleton, Option.or_some]

theorem establish_eq_ok {store : FileStore τ} {settings : Settings τ} {now : τ}
    (hmade : (establish stack store settings now).outcome = .ok k) :
    ∃ set, (PolicyFile.load stack store settings.includes
        (settings.configFile.getD "")).outcome = .ok set ∧
      k =
        { path := settings.configFile.getD "", settings, published := set.withGeneration 1
          generation := 1, lastAttempt := now, lastSuccess := now, lastAttemptFailed := false
          running := true, reloading := false } := by
  unfold establish at hmade
  simp only at hmade
  split at hmade
  next =>
    obtain ⟨_, -, hend⟩ := Noted.outcome_bind_eq_ok.1 hmade
    simp at hend
  next =>
    obtain ⟨set, hload, hend⟩ := Noted.outcome_bind_eq_ok.1 hmade
    exact ⟨set, hload, (Except.ok.inj hend).symm⟩

theorem reflects_of_establish {store : FileStore τ} {settings : Settings τ} {now : τ}
    (hmade : (establish stack store settings now).outcome = .ok k) :
    k.Reflects (settings.configFile.getD "") settings.includes [store] := by
  obtain ⟨set, hload, rfl⟩ := establish_eq_ok hmade
  exact ⟨rfl, rfl, rfl, store, set, rfl, PolicyFile.load_endless_of_ok hload, rfl⟩

end Keeper

variable [Add τ] [LE τ] [DecidableLE τ] [OfNat τ 5]

namespace Deployment

variable {path : String} {includes : Bool} {loads : List (FileStore τ)}

theorem reflects_act {d : Deployment τ} (h : d.keeper.Reflects path includes loads)
    (action : Action τ) :
    (d.act action).deployment.keeper.Reflects path includes
      (loads ++ if d.publishes action then [d.store] else []) := by
  rcases act_shows d action with
    ⟨hpublishes, hsame⟩ | ⟨between, now, set, hpublishes, hsame, hload, hkeeper⟩
  · rw [hpublishes]
    simpa using h.showsSame hsame
  · rw [hpublishes, hkeeper]
    rw [h.path_eq, h.includes_eq] at hload
    exact (h.showsSame hsame).publish hload now

theorem reflects_after {d : Deployment τ} (h : d.keeper.Reflects path includes loads)
    (actions : List (Action τ)) :
    (d.after actions).keeper.Reflects path includes (loads ++ d.publications actions) := by
  induction actions generalizing d loads with
  | nil => simpa [after, publications] using h
  | cons action rest ih =>
      have hrest := ih (reflects_act h action)
      rw [List.append_assoc] at hrest
      exact hrest

/-- A keeper to be seen in a state: the one of the state, or one in the middle
of a check that an action makes. -/
def Shows (d : Deployment τ) (k : Keeper τ) : Prop :=
  k = d.keeper ∨ ∃ action c, d.checkMade? action = some c ∧ c.afterLoad = some k

theorem reflects_of_shows {d : Deployment τ} {k : Keeper τ}
    (h : d.keeper.Reflects path includes loads) (hshows : d.Shows k) :
    k.Reflects path includes loads := by
  rcases hshows with rfl | ⟨action, c, hmade, hbetween⟩
  · exact h
  · obtain ⟨stack, meanwhile, now, rfl⟩ := checkMade?_eq_some hmade
    exact h.showsSame (Keeper.checkWith_afterLoad hbetween)

/-- Every keeper that is ever seen shows the policies that its file gave when it
was made or, after that, at the last check that published.  The generation tells
how many loads were published, each policy is found by its name, and all are
valid. -/
theorem published_of_run {store : FileStore τ} {settings : Settings τ} {now : τ}
    {keeper k : Keeper τ}
    (hmade : (Keeper.establish stack store settings now).outcome = .ok keeper)
    (actions : List (Action τ))
    (hshows : ((⟨store, now, keeper⟩ : Deployment τ).after actions).Shows k) :
    let publications := (⟨store, now, keeper⟩ : Deployment τ).publications actions
    let origin := publications.getLast?.getD store
    k.generation = 1 + publications.length ∧
      k.published.generation = 1 + publications.length ∧
      (∃ set, (PolicyFile.load .endless origin settings.includes
          (settings.configFile.getD "")).outcome = .ok set ∧
        k.published.policies = set.policies) ∧
      k.published.names.Nodup ∧
      ∀ p ∈ k.published.policies, k.published.find? p.name = some p ∧ p.Valid := by
  intro publications origin
  have hreflects : k.Reflects (settings.configFile.getD "") settings.includes
      ([store] ++ publications) :=
    reflects_of_shows (reflects_after (Keeper.reflects_of_establish hmade) actions) hshows
  have hsound := hreflects.sound
  have hcount : ([store] ++ publications).length = 1 + publications.length :=
    List.length_append
  obtain ⟨last, set, hlast, hload, hpublished⟩ := hreflects.origin
  refine ⟨?_, ?_, ⟨set, ?_, ?_⟩, hsound.distinct, ?_⟩
  · rw [hreflects.generation_eq, hcount]
  · rw [hpublished, hcount]
    simp [PolicySet.withGeneration]
  · have horigin : origin = last :=
      Option.some.inj ((Keeper.getLast?_loads store publications).symm.trans hlast)
    rw [horigin]
    exact hload
  · rw [hpublished, PolicySet.policies_withGeneration]
  · intro p hmem
    exact ⟨hsound.find? hmem, hsound.valid p hmem⟩

/-! ## A file that is rewritten -/

def sampleSettings : Settings Binary64 := { Settings.standard with configFile := some "p.xml" }

def rewriting : List (Action Binary64) :=
  [.advance 100, .write "p.xml" (some (PolicyFile.sampleDocument "/b")) none, .advance 10,
    .check none [] .endless]

theorem published_of_run_rewriting :
    ∃ keeper,
      (Keeper.establish .endless PolicyFile.sampleStore sampleSettings 1000).outcome = .ok keeper ∧
      let reached := (⟨PolicyFile.sampleStore, 1000, keeper⟩ : Deployment Binary64).after rewriting
      reached.keeper.generation = 2 ∧
        ∀ p ∈ reached.keeper.published.policies,
          reached.keeper.published.find? p.name = some p ∧ p.Valid := by
  obtain ⟨keeper, hmade, hcount⟩ :
      ∃ keeper,
        (Keeper.establish .endless PolicyFile.sampleStore sampleSettings 1000).outcome =
          .ok keeper ∧
        ((⟨PolicyFile.sampleStore, 1000, keeper⟩ : Deployment Binary64).publications
          rewriting).length = 1 := by
    decide +kernel
  obtain ⟨hgeneration, -, -, -, hpolicies⟩ := published_of_run hmade rewriting (.inl rfl)
  refine ⟨keeper, hmade, ?_, hpolicies⟩
  rw [hgeneration, hcount]

end Deployment

end PolicyKeeper
