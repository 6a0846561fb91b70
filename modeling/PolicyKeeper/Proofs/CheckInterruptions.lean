import PolicyKeeper.Proofs.FileFaults
import PolicyKeeper.Proofs.PublishedPolicies

/-!
# Interrupted checks

A fault that is not expected goes to whoever made the check.  The file's time
cannot give one, as the path of a keeper that was made leads somewhere in some
store; so it comes from a load, and that of one of the three kinds of file that
interrupt a load.  Any other file that cannot be used makes the check end as a
failure.
-/

namespace PolicyKeeper

variable {τ : Type} [Add τ] [LE τ] [DecidableLE τ] [OfNat τ 5]

namespace Keeper

variable {k : Keeper τ} {stack : CallStack} {meanwhile : List Command} {store : FileStore τ}
  {now : τ}

theorem checkWith_interrupted_iff (hpath : k.path.toList.contains '\x00' = false) :
    (∃ fault, (k.checkWith stack meanwhile store now).outcome = .error fault) ↔
      k.Opens now ∧ k.FileIsDue store now ∧
        ∃ fault, (PolicyFile.load stack store k.settings.includes k.path).outcome =
            .error fault ∧ fault.isExpected = false := by
  constructor
  · rintro ⟨fault, hfault⟩
    cases checkWith_course stack meanwhile store now k with
    | gated _ _ _ houtcome => simp [houtcome] at hfault
    | nothingNew _ _ _ _ houtcome => simp [houtcome] at hfault
    | @noTime cause _ htime _ houtcome =>
        rw [houtcome] at hfault
        obtain ⟨-, -, hunexpected⟩ := settleFault_eq_error hfault
        cases cause with
        | nullCharacter => exact absurd htime (FileStore.modified?_ne_nullCharacter hpath)
        | missing | notDirectory | isDirectory | nameTooLong =>
            simp [CheckFault.isExpected] at hunexpected
    | unloaded hopen hdue hload _ houtcome =>
        rw [houtcome] at hfault
        obtain ⟨-, -, hunexpected⟩ := settleFault_eq_error hfault
        exact ⟨hopen, hdue, _, hload, hunexpected⟩
    | stopped _ _ _ _ _ houtcome => simp [houtcome] at hfault
    | published _ _ _ _ _ houtcome => simp [houtcome] at hfault
  · rintro ⟨hopen, hdue, fault, hfault, hunexpected⟩
    cases checkWith_course stack meanwhile store now k with
    | gated hclosed => exact absurd hopen hclosed
    | nothingNew _ hnotDue => exact absurd hdue hnotDue
    | noTime _ htime =>
        obtain ⟨modified, hmodified, -⟩ := hdue
        simp [hmodified] at htime
    | unloaded _ _ hload _ houtcome =>
        obtain rfl := Except.error.inj (hfault.symm.trans hload)
        have hinterrupts : (CheckFault.load fault).isExpected = false := hunexpected
        rw [settleFault_of_unexpected hinterrupts] at houtcome
        exact ⟨_, houtcome⟩
    | stopped _ _ hload => simp [hfault] at hload
    | published _ _ hload => simp [hfault] at hload

/-- A file that cannot be used in one of the expected ways makes the check end
as a failure at most. -/
theorem checkWith_of_expected {fault : LoadFault} (hpath : k.path.toList.contains '\x00' = false)
    (hload : (PolicyFile.load stack store k.settings.includes k.path).outcome = .error fault)
    (hexpected : fault.isExpected = true) :
    (k.checkWith stack meanwhile store now).outcome = .ok false := by
  cases houtcome : (k.checkWith stack meanwhile store now).outcome with
  | error found =>
      obtain ⟨-, -, fault', hfault', hunexpected⟩ :=
        (checkWith_interrupted_iff hpath).1 ⟨found, houtcome⟩
      obtain rfl := Except.error.inj (hload.symm.trans hfault')
      simp [hexpected] at hunexpected
  | ok published =>
      cases published with
      | false => rfl
      | true =>
          rcases checkWith_shows stack meanwhile store now k with
            ⟨hnot, -⟩ | ⟨_, set, -, -, hset, -⟩
          · exact absurd houtcome hnot
          · simp [hload] at hset

end Keeper

/-- On any stack a load ends with an unexpected fault exactly for the files that
declare a refused encoding, are nested too deep for the stack, or have an
overlong numeral.  A check of a keeper in any state of a run hands a fault on
exactly when it comes to load such a file; any other file that cannot be used
makes it end as a failure. -/
theorem interrupted_iff :
    (∀ (stack : CallStack) (store : FileStore τ) (includes : Bool) (path : String),
      (∃ fault, (PolicyFile.load stack store includes path).outcome = .error fault ∧
          fault.isExpected = false) ↔
        PolicyFile.Interrupts stack store includes path) ∧
    ∀ (made : CallStack) (store : FileStore τ) (settings : Settings τ) (now : τ)
      (keeper : Keeper τ), (Keeper.establish made store settings now).outcome = .ok keeper →
      ∀ (actions : List (Action τ)) (stack : CallStack) (meanwhile : List Command) (later : τ),
        let d := (⟨store, now, keeper⟩ : Deployment τ).after actions
        let c := d.keeper.checkWith stack meanwhile d.store later
        let path := settings.configFile.getD ""
        ((∃ fault, c.outcome = .error fault) ↔
          d.keeper.Opens later ∧ d.keeper.FileIsDue d.store later ∧
            PolicyFile.Interrupts stack d.store settings.includes path) ∧
        ∀ fault, (PolicyFile.load stack d.store settings.includes path).outcome = .error fault →
          fault.isExpected = true → c.outcome = .ok false := by
  refine ⟨fun _ _ _ _ => PolicyFile.load_interrupted_iff, ?_⟩
  intro made store settings now keeper hmade actions stack meanwhile later d c path
  have hreflects : d.keeper.Reflects path settings.includes _ :=
    Deployment.reflects_after (Keeper.reflects_of_establish hmade) actions
  rw [← hreflects.path_eq, ← hreflects.includes_eq]
  rw [← PolicyFile.load_interrupted_iff]
  refine ⟨Keeper.checkWith_interrupted_iff hreflects.path_lacks_null, ?_⟩
  intro fault hload hexpected
  exact Keeper.checkWith_of_expected hreflects.path_lacks_null hload hexpected

def misdeclaring : List (Action Binary64) :=
  let document :=
    PolicyFile.octetsOf ["<?xml version='1.0' encoding='utf-32'?>", "<configuration/>"]
  [.write "p.xml" (some document) (some 1100)]

theorem interrupted_iff_misdeclaring :
    ∃ keeper,
      (Keeper.establish .endless PolicyFile.sampleStore Deployment.sampleSettings 1000).outcome =
        .ok keeper ∧
      let d := (⟨PolicyFile.sampleStore, 1000, keeper⟩ : Deployment Binary64).after misdeclaring
      (∃ fault, (d.keeper.checkWith .endless [] d.store 1110).outcome = .error fault) ∧
        PolicyFile.Interrupts .endless d.store true "p.xml" := by
  obtain ⟨keeper, hmade, hraises⟩ :
      ∃ keeper,
        (Keeper.establish .endless PolicyFile.sampleStore Deployment.sampleSettings 1000).outcome =
          .ok keeper ∧
        let d := (⟨PolicyFile.sampleStore, 1000, keeper⟩ : Deployment Binary64).after misdeclaring
        (d.keeper.checkWith .endless [] d.store 1110).outcome =
          .error (.load (.markup "p.xml" .severalOctets)) := by
    decide +kernel
  obtain ⟨hinterrupted, -⟩ := interrupted_iff.2 _ _ _ _ _ hmade misdeclaring .endless [] 1110
  exact ⟨keeper, hmade, ⟨_, hraises⟩, (hinterrupted.1 ⟨_, hraises⟩).2.2⟩

end PolicyKeeper
