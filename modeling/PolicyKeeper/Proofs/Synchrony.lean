import PolicyKeeper.Proofs.FileChanges
import PolicyKeeper.Proofs.LoadDependence
import PolicyKeeper.Proofs.PublishedPolicies
import PolicyKeeper.Proofs.TimeOrder

/-!
# Synchrony with the policy file

In a run that keeps time, the policy file is either the one that was last
loaded or was modified after that load.  A check that passes the gate and finds
nothing new has therefore seen the file that was last loaded, and what is
published is what a load would give, as long as the included files have stayed
the same.  A check looks at the time of the policy file alone, and takes one
that does not come after the last load for old; so it misses what changes in an
included file, within the tick of the clock in which the file was loaded, or
under a time that was set back.
-/

namespace PolicyKeeper

/-! ## Files since a load -/

namespace FileStore

variable {τ : Type} [LE τ]

/-- An entry whose time is known is the one of the origin, or was modified since
then. -/
def SameOrNewer (origin store : FileStore τ) (location : Location) (since : τ) : Prop :=
  ∀ entry modified, store.atLocation? location = some entry →
    entry.modified? = some modified →
    origin.atLocation? location = some entry ∨ ¬ modified ≤ since

variable {origin store : FileStore τ} {location : Location} {since : τ} {path : String}

theorem sameOrNewer_refl (store : FileStore τ) (location : Location) (since : τ) :
    store.SameOrNewer store location since :=
  fun _ _ hentry _ => .inl hentry

theorem sameOrNewer_write {written : Entry τ} (h : origin.SameOrNewer store location since)
    (hnew : location = store.locationOf path →
      ∀ modified, written.modified? = some modified → ¬ modified ≤ since) :
    origin.SameOrNewer (store.write path written) location since := by
  apply timedAt_write h
  intro hplace modified hmodified
  exact .inr (hnew hplace modified hmodified)

theorem sameOrNewer_remove (h : origin.SameOrNewer store location since) :
    origin.SameOrNewer (store.remove path) location since :=
  timedAt_remove h

theorem sameOrNewer_touch {time : τ} (h : origin.SameOrNewer store location since)
    (hnew : location = store.locationOf path → ¬ time ≤ since) :
    origin.SameOrNewer (store.touch path time) location since := by
  apply timedAt_touch h
  intro hplace _
  exact .inr (hnew hplace)

/-- A file that is not newer has the content that it had in the origin. -/
theorem read_of_sameOrNewer {modified : τ} {octets : Octets}
    (h : origin.SameOrNewer store (store.locationOf path) since)
    (hstart : store.start = origin.start)
    (htime : store.modified? path = .ok (some modified)) (hold : modified ≤ since)
    (hread : origin.read path = .ok octets) : store.read path = .ok octets := by
  obtain ⟨entry, hentry, hmodified⟩ := modified?_eq_some.1 htime
  have horigin : origin.atLocation? (store.locationOf path) = some entry := by
    rcases h entry modified (atLocation?_of_entry hentry hmodified) hmodified with hsame | hnewer
    · exact hsame
    · exact absurd hold hnewer
  obtain ⟨loaded, hloaded, hcontent⟩ := bind_eq_ok.1 hread
  cases loaded with
  | directory time => simp at hcontent
  | file content time =>
      have hplace := atLocation?_of_entry hloaded rfl
      rw [← locationOf_congr hstart] at hplace
      obtain rfl : entry = .file content time := Option.some.inj (horigin.symm.trans hplace)
      unfold read
      rw [hentry]
      exact hcontent

/-- What was modified at a known time and has been left alone since. -/
def IsSettled [Add τ] [OfNat τ 5] (store : FileStore τ) (now : τ) (path : String) : Prop :=
  ∃ modified, store.modified? path = .ok (some modified) ∧
    ¬ now ≤ modified + Keeper.settleWindow

instance [Add τ] [OfNat τ 5] [DecidableLE τ] (store : FileStore τ) (now : τ) (path : String) :
    Decidable (store.IsSettled now path) :=
  match htime : store.modified? path with
  | .ok (some modified) =>
      decidable_of_iff (¬ now ≤ modified + Keeper.settleWindow) (by simp [IsSettled, htime])
  | .ok none => isFalse (by simp [IsSettled, htime])
  | .error _ => isFalse (by simp [IsSettled, htime])

end FileStore

namespace Deployment

section

variable {τ : Type} [LE τ]

/-- The keeper was last renewed from the origin, and the policy file is the same
since then or newer. -/
structure FollowsFile (origin : FileStore τ) (d : Deployment τ) : Prop where
  start : d.store.start = origin.start
  ordered : d.keeper.lastSuccess ≤ d.clock
  file : origin.SameOrNewer d.store (d.store.locationOf d.keeper.path) d.keeper.lastSuccess

theorem FollowsFile.showsSame {origin : FileStore τ} {d : Deployment τ} {k : Keeper τ}
    (h : d.FollowsFile origin) (hsame : d.keeper.ShowsSame k) :
    (d.keptBy k).FollowsFile origin := by
  obtain ⟨hstart, hordered, hfile⟩ := h
  rw [← hsame.lastSuccess] at hordered hfile
  rw [← hsame.path] at hfile
  exact ⟨hstart, hordered, hfile⟩

end

section

variable {τ : Type} [Add τ] [LE τ] [DecidableLE τ] [OfNat τ 5]

/-! ## Runs that keep time -/

/-- The clock does not go back, and files are written and checks are made at
the time of the clock. -/
def KeepsTime (d : Deployment τ) : Action τ → Prop
  | .write _ _ modified => modified.getD d.clock = d.clock
  | .setClock now => d.clock ≤ now
  | .advance span => d.clock ≤ d.clock + span
  | .check now _ _ => now.getD d.clock = d.clock
  | _ => True

instance [DecidableEq τ] (d : Deployment τ) : DecidablePred d.KeepsTime
  | .write _ _ modified => inferInstanceAs (Decidable (modified.getD d.clock = d.clock))
  | .setClock now => inferInstanceAs (Decidable (d.clock ≤ now))
  | .advance span => inferInstanceAs (Decidable (d.clock ≤ d.clock + span))
  | .check now _ _ => inferInstanceAs (Decidable (now.getD d.clock = d.clock))
  | .remove _ | .touch .. | .command _ | .turn .. | .request .. => isTrue trivial

/-- The policy file is not written in the tick of the clock in which it was last
loaded, and its time is not set back to that load or before. -/
def SparesLoad (d : Deployment τ) : Action τ → Prop
  | .write path _ _ => d.store.locationOf d.keeper.path = d.store.locationOf path →
      ¬ (d.clock ≤ d.keeper.lastSuccess ∧ d.keeper.lastSuccess ≤ d.clock)
  | .touch path modified => d.store.locationOf d.keeper.path = d.store.locationOf path →
      ¬ modified ≤ d.keeper.lastSuccess
  | _ => True

instance (d : Deployment τ) : DecidablePred d.SparesLoad
  | .write .. => inferInstanceAs (Decidable (_ → ¬ (_ ≤ _ ∧ _ ≤ _)))
  | .touch .. => inferInstanceAs (Decidable (_ → ¬ _ ≤ _))
  | .remove _ | .setClock _ | .advance _ | .check .. | .command _ | .turn .. | .request .. =>
      isTrue trivial

theorem checkMade?_of_keepsTime {d : Deployment τ} {action : Action τ} {c : Checked τ}
    (hkeeps : d.KeepsTime action) (hmade : d.checkMade? action = some c) :
    ∃ stack meanwhile, c = d.keeper.checkWith stack meanwhile d.store d.clock := by
  cases action with
  | check now meanwhile stack =>
      have htime : now.getD d.clock = d.clock := hkeeps
      refine ⟨stack, meanwhile, ?_⟩
      rw [← Option.some.inj hmade, htime]
  | turn stopping stack =>
      simp only [checkMade?] at hmade
      split at hmade
      · exact ⟨_, _, (Option.some.inj hmade).symm⟩
      · simp at hmade
  | request r stack =>
      simp only [checkMade?] at hmade
      split at hmade
      · exact ⟨_, _, (Option.some.inj hmade).symm⟩
      · simp at hmade
  | write | remove | touch | setClock | advance | command => simp [checkMade?] at hmade

end

variable {d : Deployment Binary64} {origin : FileStore Binary64} {action : Action Binary64}

theorem followsFile_write {written : Entry Binary64} {path : String}
    (h : d.FollowsFile origin) (hmodified : written.modified? = some d.clock)
    (hspares : d.store.locationOf d.keeper.path = d.store.locationOf path →
      ¬ (d.clock ≤ d.keeper.lastSuccess ∧ d.keeper.lastSuccess ≤ d.clock)) :
    (d.storing (d.store.write path written)).FollowsFile origin := by
  have hstart : (d.store.write path written).start = d.store.start := FileStore.start_write _ _ _
  have hplaces := FileStore.locationOf_congr hstart d.keeper.path
  refine ⟨hstart.trans h.start, h.ordered, ?_⟩
  simp only [storing, hplaces]
  apply FileStore.sameOrNewer_write h.file
  intro hplace modified htime hold
  rw [hmodified] at htime
  obtain rfl := Option.some.inj htime
  exact hspares hplace ⟨hold, h.ordered⟩

theorem followsFile_touch {path : String} {modified : Binary64} (h : d.FollowsFile origin)
    (hspares : d.store.locationOf d.keeper.path = d.store.locationOf path →
      ¬ modified ≤ d.keeper.lastSuccess) :
    (d.storing (d.store.touch path modified)).FollowsFile origin := by
  have hstart : (d.store.touch path modified).start = d.store.start := FileStore.start_touch _ _ _
  have hplaces := FileStore.locationOf_congr hstart d.keeper.path
  refine ⟨hstart.trans h.start, h.ordered, ?_⟩
  simp only [storing, hplaces]
  exact FileStore.sameOrNewer_touch h.file hspares

theorem followsFile_act_of_no_check (h : d.FollowsFile origin) (hkeeps : d.KeepsTime action)
    (hspares : d.SparesLoad action) (hnone : d.checkMade? action = none) :
    (d.act action).deployment.FollowsFile origin := by
  cases action with
  | check now meanwhile stack => simp [checkMade?] at hnone
  | write path content modified =>
      have htime : modified.getD d.clock = d.clock := hkeeps
      simp only [act, write, htime]
      cases content with
      | none => exact followsFile_write h rfl hspares
      | some octets => exact followsFile_write h rfl hspares
  | remove path =>
      simp only [act, changeAt]
      split
      next => exact ⟨h.start, h.ordered, FileStore.sameOrNewer_remove h.file⟩
      next => exact h
  | touch path modified =>
      simp only [act, changeAt]
      split
      next => exact followsFile_touch h hspares
      next => exact h
  | setClock now => exact ⟨h.start, Binary64.le_trans h.ordered hkeeps, h.file⟩
  | advance span => exact ⟨h.start, Binary64.le_trans h.ordered hkeeps, h.file⟩
  | command c => exact h.showsSame (Keeper.obeyAll_showsSame d.keeper [c])
  | turn stopping stack =>
      have hidle : d.keeper.reloading = false := by simpa [checkMade?] using hnone
      simp only [act, turn, Keeper.turn?_of_idle stack stopping hidle]
      exact h
  | request r stack =>
      have hasks : r.asksForCheck = false := by simpa [checkMade?] using hnone
      have hkeeper : (d.keeper.reply stack d.store d.clock r).keeper = d.keeper :=
        Keeper.reply_keeper_of_not_asks hasks
      simp only [act, request, hkeeper]
      exact h

/-- A check at the time of the clock makes the files as they are the origin, if
it publishes. -/
theorem followsFile_act_of_checkMade {c : Checked Binary64} (h : d.FollowsFile origin)
    (hkeeps : d.KeepsTime action) (hmade : d.checkMade? action = some c) :
    (d.act action).deployment.FollowsFile (if d.publishes action then d.store else origin) := by
  have hpublishes : d.publishes action = c.hasPublished := by
    simp only [publishes, hmade, Option.any_some]
  rw [act_of_checkMade hmade, hpublishes]
  obtain ⟨stack, meanwhile, rfl⟩ := checkMade?_of_keepsTime hkeeps hmade
  rcases Keeper.checkWith_shows stack meanwhile d.store d.clock d.keeper with
    ⟨hnot, hsame⟩ | ⟨between, set, houtcome, hsame, -, hkeeper⟩
  · rw [if_neg (mt Checked.hasPublished_iff.1 hnot)]
    exact h.showsSame hsame
  · rw [if_pos (Checked.hasPublished_iff.2 houtcome), hkeeper]
    exact ⟨rfl, Binary64.le_refl_of_le h.ordered, FileStore.sameOrNewer_refl _ _ _⟩

theorem followsFile_act (h : d.FollowsFile origin) (hkeeps : d.KeepsTime action)
    (hspares : d.SparesLoad action) :
    (d.act action).deployment.FollowsFile (if d.publishes action then d.store else origin) := by
  cases hmade : d.checkMade? action with
  | none =>
      have hpublishes : d.publishes action = false := by simp [publishes, hmade]
      rw [hpublishes]
      exact followsFile_act_of_no_check h hkeeps hspares hmade
  | some c => exact followsFile_act_of_checkMade h hkeeps hmade

theorem followsFile_after {actions : List (Action Binary64)} (h : d.FollowsFile origin)
    (hkeeps : d.Throughout KeepsTime actions) (hspares : d.Throughout SparesLoad actions) :
    (d.after actions).FollowsFile ((d.publications actions).getLast?.getD origin) := by
  induction actions generalizing d origin with
  | nil => exact h
  | cons action rest ih =>
      have hrest := ih (followsFile_act h hkeeps.1 hspares.1) hkeeps.2 hspares.2
      have horigin : (d.publications (action :: rest)).getLast?.getD origin =
          ((d.act action).deployment.publications rest).getLast?.getD
            (if d.publishes action then d.store else origin) := by
        simp only [publications, List.getLast?_append]
        cases (d.act action).deployment.publications rest |>.getLast? with
        | some last => rfl
        | none => cases d.publishes action <;> rfl
      rw [horigin]
      exact hrest

/-! ## What a check has seen -/

theorem followsFile_of_establish {stack : CallStack} {store : FileStore Binary64}
    {settings : Settings Binary64} {now modified : Binary64} {keeper : Keeper Binary64}
    (hmade : (Keeper.establish stack store settings now).outcome = .ok keeper)
    (hmodified : modified ≤ now) :
    (⟨store, now, keeper⟩ : Deployment Binary64).FollowsFile store := by
  obtain ⟨_, -, rfl⟩ := Keeper.establish_eq_ok hmade
  exact ⟨rfl, Binary64.le_refl_of_le hmodified, FileStore.sameOrNewer_refl _ _ _⟩

/-- In a run that keeps time and spares each load, a check that passes the gate
and neither fails nor is stopped leaves published what a load would give, if the
policy file has been left alone and, where the check did not publish, the files
that the last published load included read as they did then. -/
theorem published_of_check {made : CallStack} {store : FileStore Binary64}
    {settings : Settings Binary64} {now : Binary64} {keeper : Keeper Binary64}
    {actions : List (Action Binary64)} (stack : CallStack) (meanwhile : List Command)
    (hmade : (Keeper.establish made store settings now).outcome = .ok keeper)
    (hstart : ∃ modified,
      store.modified? (settings.configFile.getD "") = .ok (some modified) ∧ modified ≤ now)
    (hkeeps : (⟨store, now, keeper⟩ : Deployment Binary64).Throughout KeepsTime actions)
    (hspares : (⟨store, now, keeper⟩ : Deployment Binary64).Throughout SparesLoad actions) :
    let start : Deployment Binary64 := ⟨store, now, keeper⟩
    let d := start.after actions
    let origin := (start.publications actions).getLast?.getD store
    let path := settings.configFile.getD ""
    let c := d.keeper.checkWith stack meanwhile d.store d.clock
    d.keeper.Opens d.clock →
    (c.outcome = .ok true ∨ c.outcome = .ok false ∧ c.afterLoad = none) →
    d.store.IsSettled d.clock path →
    (c.outcome ≠ .ok true → ∀ file ∈ PolicyFile.filesIncluded origin settings.includes path,
      d.store.read file = origin.read file) →
    ∃ set, (PolicyFile.load .endless d.store settings.includes path).outcome = .ok set ∧
      c.keeper.published.policies = set.policies := by
  intro start d origin path c hopen hended hsettled hincluded
  obtain ⟨_, -, hmodified⟩ := hstart
  have hfollows : d.FollowsFile origin :=
    followsFile_after (followsFile_of_establish hmade hmodified) hkeeps hspares
  have hreflects : d.keeper.Reflects path settings.includes _ :=
    reflects_after (Keeper.reflects_of_establish hmade) actions
  obtain ⟨last, set, hlast, hload, hpublished⟩ := hreflects.origin
  obtain rfl : origin = last :=
    Option.some.inj ((Keeper.getLast?_loads store (start.publications actions)).symm.trans hlast)
  cases Keeper.checkWith_course stack meanwhile d.store d.clock d.keeper with
  | gated hclosed => exact absurd hopen hclosed
  | nothingNew _ hnotDue _ hkeeper houtcome =>
      -- The file is settled and still not due, so its time does not come after the last load.
      obtain ⟨modified, htime, hleft⟩ := hsettled
      have hold : modified ≤ d.keeper.lastSuccess := by
        by_contra hnewer
        exact hnotDue ⟨modified, hreflects.path_eq ▸ htime, hnewer, hleft⟩
      have hread : d.store.read path = origin.read path := by
        obtain ⟨octets, _, _, hread, -⟩ := PolicyFile.load_eq_ok_iff.1 hload
        have hfile := hfollows.file
        rw [hreflects.path_eq] at hfile
        rw [FileStore.read_of_sameOrNewer hfile hfollows.start htime hold hread, hread]
      have hsame := hincluded (by simp [c, houtcome])
      refine ⟨set, PolicyFile.load_of_sameContent hload hread hsame, ?_⟩
      show (d.keeper.checkWith stack meanwhile d.store d.clock).keeper.published.policies = _
      rw [hkeeper]
      show d.keeper.published.policies = _
      rw [hpublished, PolicySet.policies_withGeneration]
  | noTime _ htime =>
      obtain ⟨modified, hmodified, -⟩ := hsettled
      rw [hreflects.path_eq] at htime
      simp [path, hmodified] at htime
  | unloaded _ _ _ _ houtcome hafterLoad =>
      rcases hended with htrue | ⟨-, hnone⟩
      · exact absurd (houtcome.symm.trans htrue) (Keeper.settleFault_ne_published _ _)
      · simp [c, hafterLoad] at hnone
  | stopped _ _ _ _ _ houtcome hafterLoad =>
      rcases hended with htrue | ⟨-, hnone⟩
      · simp [c, houtcome] at htrue
      · simp [c, hafterLoad] at hnone
  | published _ _ hloaded _ hkeeper =>
      rw [hreflects.path_eq, hreflects.includes_eq] at hloaded
      refine ⟨_, PolicyFile.load_endless_of_ok hloaded, ?_⟩
      show (d.keeper.checkWith stack meanwhile d.store d.clock).keeper.published.policies = _
      rw [hkeeper]
      rfl

/-! ## Changes that are seen, and changes that are missed -/

def includingDocument : Octets :=
  PolicyFile.octetsOf ["<configuration xmlns:i=", "'http://www.w3.org/2001/XInclude'>",
    "<i:include href='a.xml'/>", "</configuration>"]

def includingStore : FileStore Binary64 :=
  (FileStore.empty.write "p.xml" (.file includingDocument 900)).write "a.xml"
    (.file (PolicyFile.samplePolicy "/a") 900)

def rewritingBoth : List (Action Binary64) :=
  [.advance 100, .write "a.xml" (some (PolicyFile.samplePolicy "/b")) none,
    .write "p.xml" (some includingDocument) none, .advance 10,
    .check none [] .endless, .advance 100]

theorem published_of_check_rewritingBoth :
    ∃ keeper,
      (Keeper.establish .endless includingStore sampleSettings 1000).outcome = .ok keeper ∧
      let d := (⟨includingStore, 1000, keeper⟩ : Deployment Binary64).after rewritingBoth
      let c := d.keeper.checkWith .endless [] d.store d.clock
      c.outcome = .ok false ∧ c.keeper.published.names = ["/b"] ∧
        ∃ set, (PolicyFile.load .endless d.store true "p.xml").outcome = .ok set ∧
          c.keeper.published.policies = set.policies := by
  obtain ⟨keeper, hmade, hkeeps, hspares, hopen, hended, hnames, hsettled, hincluded⟩ :
      ∃ keeper,
        (Keeper.establish .endless includingStore sampleSettings 1000).outcome = .ok keeper ∧
        let start : Deployment Binary64 := ⟨includingStore, 1000, keeper⟩
        let d := start.after rewritingBoth
        let origin := (start.publications rewritingBoth).getLast?.getD includingStore
        let c := d.keeper.checkWith .endless [] d.store d.clock
        start.Throughout KeepsTime rewritingBoth ∧ start.Throughout SparesLoad rewritingBoth ∧
          d.keeper.Opens d.clock ∧ (c.outcome = .ok false ∧ c.afterLoad.isNone = true) ∧
          c.keeper.published.names = ["/b"] ∧ d.store.IsSettled d.clock "p.xml" ∧
          ∀ file ∈ PolicyFile.filesIncluded origin true "p.xml",
            d.store.read file = origin.read file := by
    decide +kernel
  have hstart : ∃ modified,
      includingStore.modified? "p.xml" = .ok (some modified) ∧ modified ≤ 1000 :=
    ⟨900, by decide +kernel, by decide +kernel⟩
  have hload := published_of_check .endless [] hmade hstart hkeeps hspares hopen
    (.inr ⟨hended.1, Option.isNone_iff_eq_none.1 hended.2⟩) hsettled fun _ => hincluded
  exact ⟨keeper, hmade, hended.1, hnames, hload⟩

/-- After a run that keeps time, with all files that a load reads left alone, a
check that nothing holds up leaves the policy `/a` published where a load gives
the policy `/b`. -/
def MissesChange (store : FileStore Binary64) (actions : List (Action Binary64)) : Prop :=
  ∃ keeper, (Keeper.establish .endless store sampleSettings 1000).outcome = .ok keeper ∧
    let start : Deployment Binary64 := ⟨store, 1000, keeper⟩
    let d := start.after actions
    let c := d.keeper.checkWith .endless [] d.store d.clock
    start.Throughout KeepsTime actions ∧ d.keeper.Opens d.clock ∧
      (c.outcome = .ok false ∧ c.afterLoad.isNone = true) ∧
      (∀ file ∈ "p.xml" :: PolicyFile.filesIncluded d.store true "p.xml",
        d.store.IsSettled d.clock file) ∧
      c.keeper.published.names = ["/a"] ∧
      ∃ set, (PolicyFile.load .endless d.store true "p.xml").outcome = .ok set ∧ set.names = ["/b"]

def rewritingIncluded : List (Action Binary64) :=
  [.advance 100, .write "a.xml" (some (PolicyFile.samplePolicy "/b")) none, .advance 10]

def rewritingAtOnce : List (Action Binary64) :=
  [.write "p.xml" (some (PolicyFile.sampleDocument "/b")) none, .advance 100]

def rewritingBackdated : List (Action Binary64) :=
  [.advance 100, .write "p.xml" (some (PolicyFile.sampleDocument "/b")) none,
    .touch "p.xml" 900, .advance 10]

theorem changes_missed :
    MissesChange includingStore rewritingIncluded ∧
      MissesChange PolicyFile.sampleStore rewritingAtOnce ∧
      MissesChange PolicyFile.sampleStore rewritingBackdated := by
  unfold MissesChange
  decide +kernel

end Deployment

end PolicyKeeper
