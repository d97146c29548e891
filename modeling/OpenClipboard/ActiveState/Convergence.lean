import OpenClipboard.ActiveState.Network

/-!
# Convergence of the active-clipboard registers

Registers only move up.  They agree once everything sent has been processed,
provided that a clock reading names one content: a device that activates two
contents within one millisecond keeps the first in its register (the second
loses its strict compare-and-set) but broadcasts both under one key, and the
others keep whichever reaches them first.
-/

namespace OpenClipboard

open Transition

/-! ## Everything comes from an activation -/

/-- The register and the tasks of a device hold given activations. -/
structure Device.DrawnFrom
    (activations : List Activation) (device : Device) : Prop where
  register : ∀ activation,
    registerActivation device.register = some activation →
      activation ∈ activations
  tasks : ∀ pending ∈ device.tasks, pending.activation ∈ activations

variable {env : AdvanceEnv} {mobileConsumable : Bool} {action : Action}
  {world after : World}

namespace Device.DrawnFrom

variable {activations : List Activation} {device : Device}

theorem mono {more : List Activation}
    (drawn : device.DrawnFrom activations) (subset : activations ⊆ more) :
    device.DrawnFrom more where
  register activation held := subset (drawn.register activation held)
  tasks pending member := subset (drawn.tasks pending member)

theorem advanced {state : ActiveClipboardState} {after : Option RegisterRow}
    {result : Except ActiveClipboardRegisterError Bool}
    (drawn : device.DrawnFrom activations)
    (known : state.activation ∈ activations)
    (ran : advance env device.register state mobileConsumable =
      (result, after)) :
    ∀ activation, registerActivation after = some activation →
      activation ∈ activations := by
  intro activation held
  cases result with
  | error err =>
      rw [advance_error ran] at held
      exact drawn.register activation held
  | ok won =>
      rw [advance_ok ran] at held
      have offered : LastWriter.DrawnFrom
          {activation | activation ∈ activations}
          (LastWriter.offer Activation.key
            (registerActivation device.register) state.activation) :=
        LastWriter.DrawnFrom.offer Activation.key drawn.register known
      exact offered activation held

theorem receive
    {env : InboundEnv} {inbound : InboundActiveClipboardState}
    (drawn : device.DrawnFrom activations)
    (known : inbound.activation ∈ activations) :
    (device.receive env inbound).DrawnFrom activations where
  register activation held :=
    drawn.register activation (by simpa using held)
  tasks pending member := by
    rcases Device.mem_tasks_receive member with old | new
    · exact drawn.tasks pending old
    · exact new ▸ known

theorem writeOs
    {index : Nat} {succeeds : Bool} {after : Device}
    (drawn : device.DrawnFrom activations)
    (wrote : device.writeOs index succeeds = some after) :
    after.DrawnFrom activations where
  register activation held :=
    drawn.register activation (Device.writeOs_register wrote ▸ held)
  tasks pending member := by
    obtain ⟨earlier, present, same⟩ := Device.mem_tasks_writeOs wrote member
    exact same ▸ drawn.tasks earlier present

theorem converge {index : Nat} {converged : Device.Converged}
    (drawn : device.DrawnFrom activations)
    (ran : device.converge index env = some converged) :
    converged.pending.activation ∈ activations ∧
      converged.device.DrawnFrom activations := by
  obtain ⟨found, _, advanced, remaining, _⟩ := Device.converge_cases ran
  have known : converged.pending.activation ∈ activations :=
    drawn.tasks _ (List.mem_of_getElem? found)
  refine ⟨known, drawn.advanced known advanced, ?_⟩
  intro pending member
  rw [remaining] at member
  exact drawn.tasks pending (List.mem_of_mem_eraseIdx member)

theorem activate {self : DeviceId} {snapshotHash : String} {entryId : EntryId}
    (drawn : device.DrawnFrom activations)
    (known : ⟨snapshotHash, device.clock, self⟩ ∈ activations) :
    (device.activate self env mobileConsumable snapshotHash
      entryId).2.DrawnFrom activations where
  register := by
    obtain ⟨result, advanced⟩ := device.activate_advance self env
      mobileConsumable snapshotHash entryId
    refine drawn.advanced ?_ advanced
    exact known
  tasks pending member := drawn.tasks pending (by simpa using member)

end Device.DrawnFrom

/-- Whatever a world holds or has sent goes back to an activation in it. -/
structure Traced (world : World) : Prop where
  devices : ∀ id, (world.device id).DrawnFrom world.activations
  sent : ∀ announcement ∈ world.sent,
    announcement.state.activation ∈ world.activations

theorem traced_fresh (clock : DeviceId → Int) :
    Traced (World.fresh clock) where
  devices id := by
    constructor <;> simp [World.fresh, Device.fresh, registerActivation]
  sent := by simp [World.fresh]

theorem Traced.step {roster : List DeviceId} (traced : Traced world)
    (stepped : OpenClipboard.step roster world action = some after) :
    Traced after := by
  let drawn : DeviceId → Device → Prop := fun _ device =>
    device.DrawnFrom world.activations
  cases action with
  | tick id now =>
      simp only [OpenClipboard.step, Option.ite_none_right_eq_some,
        Option.some.injEq] at stepped
      obtain ⟨_, rfl⟩ := stepped
      refine ⟨World.forall_setDevice drawn traced.devices ?_, traced.sent⟩
      exact ⟨(traced.devices id).register, (traced.devices id).tasks⟩
  | activate id snapshotHash entryId mobileConsumable env =>
      simp only [OpenClipboard.step, Option.ite_none_right_eq_some,
        Option.some.injEq] at stepped
      obtain ⟨_, rfl⟩ := stepped
      set activated := (world.device id).activate id env mobileConsumable
        snapshotHash entryId
      have grows : world.activations ⊆
          activated.1.activation :: world.activations :=
        List.subset_cons_self _ _
      refine ⟨World.forall_setDevice
        (fun _ device => device.DrawnFrom
          (activated.1.activation :: world.activations))
        (fun other => (traced.devices other).mono grows)
        (((traced.devices id).mono grows).activate List.mem_cons_self), ?_⟩
      intro announcement member
      rcases List.mem_append.mp member with new | old
      · rw [(mem_announce_iff.mp new).2.1]
        exact List.mem_cons_self
      · exact grows (traced.sent announcement old)
  | deliver announcement env =>
      simp only [OpenClipboard.step, Option.ite_none_right_eq_some,
        Option.some.injEq] at stepped
      obtain ⟨⟨sent, _⟩, rfl⟩ := stepped
      exact ⟨World.forall_setDevice drawn traced.devices
        ((traced.devices announcement.target).receive
          (traced.sent announcement sent)), traced.sent⟩
  | writeOs id index succeeds =>
      simp only [OpenClipboard.step, Option.map_eq_some_iff] at stepped
      obtain ⟨device, wrote, rfl⟩ := stepped
      exact ⟨World.forall_setDevice drawn traced.devices
        ((traced.devices id).writeOs wrote), traced.sent⟩
  | converge id index env =>
      simp only [OpenClipboard.step, Option.map_eq_some_iff] at stepped
      obtain ⟨converged, ran, rfl⟩ := stepped
      obtain ⟨known, drawnAfter⟩ := (traced.devices id).converge ran
      refine ⟨World.forall_setDevice drawn traced.devices drawnAfter, ?_⟩
      intro announcement member
      rcases List.mem_append.mp member with new | old
      · rw [mem_rebroadcast new]
        exact known
      · exact traced.sent announcement old
  | reset id =>
      simp only [OpenClipboard.step, Option.some.injEq] at stepped
      subst stepped
      refine ⟨World.forall_setDevice drawn traced.devices ?_, traced.sent⟩
      exact ⟨by simp [resetRegister, registerActivation],
        (traced.devices id).tasks⟩

/-! ## Every activation is announced -/

/-- Each activation was made on the roster and has been announced to everyone
else on it. -/
def Announced (roster : List DeviceId) (world : World) : Prop :=
  ∀ activation ∈ world.activations, ∀ id ∈ roster,
    id ≠ activation.activatedBy →
      ∃ announcement ∈ world.sent,
        announcement.target = id ∧
          announcement.state.activation = activation

theorem step_activations {roster : List DeviceId}
    (stepped : step roster world action = some after) :
    world.sent ⊆ after.sent ∧
      (after.activations = world.activations ∨
        ∃ id snapshotHash entryId mobileConsumable env,
          action = .activate id snapshotHash entryId mobileConsumable env ∧
            after.activations =
              ⟨snapshotHash, (world.device id).clock, id⟩ ::
                world.activations ∧
            after.device id = ((world.device id).activate id env
              mobileConsumable snapshotHash entryId).2 ∧
            announce roster id ((world.device id).activate id env
              mobileConsumable snapshotHash entryId).1 ⊆ after.sent) := by
  cases action with
  | tick id now =>
      simp only [step, Option.ite_none_right_eq_some, Option.some.injEq]
        at stepped
      obtain ⟨_, rfl⟩ := stepped
      exact ⟨List.Subset.refl _, Or.inl rfl⟩
  | activate id snapshotHash entryId mobileConsumable env =>
      simp only [step, Option.ite_none_right_eq_some, Option.some.injEq]
        at stepped
      obtain ⟨_, rfl⟩ := stepped
      refine ⟨List.subset_append_right _ _, Or.inr
        ⟨id, snapshotHash, entryId, mobileConsumable, env, rfl, rfl, ?_,
          List.subset_append_left _ _⟩⟩
      simp [World.setDevice]
  | deliver announcement env =>
      simp only [step, Option.ite_none_right_eq_some, Option.some.injEq]
        at stepped
      obtain ⟨_, rfl⟩ := stepped
      exact ⟨List.Subset.refl _, Or.inl rfl⟩
  | writeOs id index succeeds =>
      simp only [step, Option.map_eq_some_iff] at stepped
      obtain ⟨device, _, rfl⟩ := stepped
      exact ⟨List.Subset.refl _, Or.inl rfl⟩
  | converge id index env =>
      simp only [step, Option.map_eq_some_iff] at stepped
      obtain ⟨converged, _, rfl⟩ := stepped
      exact ⟨List.subset_append_right _ _, Or.inl rfl⟩
  | reset id =>
      simp only [step, Option.some.injEq] at stepped
      subst stepped
      exact ⟨List.Subset.refl _, Or.inl rfl⟩

theorem Announced.step {roster : List DeviceId}
    (announced : Announced roster world)
    (stepped : OpenClipboard.step roster world action = some after) :
    Announced roster after := by
  obtain ⟨grows, same | ⟨self, snapshotHash, entryId, mobileConsumable, env,
    _, extended, _, addressed⟩⟩ := step_activations stepped
  · intro activation member id inRoster other
    obtain ⟨announcement, sent, found⟩ :=
      announced activation (same ▸ member) id inRoster other
    exact ⟨announcement, grows sent, found⟩
  · intro activation member id inRoster other
    rw [extended] at member
    rcases List.mem_cons.mp member with rfl | old
    · exact ⟨⟨self, id, _⟩, addressed
        (mem_announce_iff.mpr ⟨rfl, rfl, inRoster, other, other⟩), rfl, rfl⟩
    · obtain ⟨announcement, sent, found⟩ :=
        announced activation old id inRoster other
      exact ⟨announcement, grows sent, found⟩

/-! ## What has been settled is covered -/

/-- A settled announcement never ranks above its receiver's register. -/
def SettledCovered (world : World) : Prop :=
  ∀ receipt ∈ world.settled,
    (receipt.activation.key : WithBot _) ≤
      registerRank (world.device receipt.target).register

theorem step_settled {roster : List DeviceId} {receipt : Receipt}
    (stepped : step roster world action = some after)
    (member : receipt ∈ after.settled) :
    receipt ∈ world.settled ∨
      (receipt.activation.key : WithBot _) ≤
        registerRank (after.device receipt.target).register := by
  cases action with
  | tick id now =>
      simp only [step, Option.ite_none_right_eq_some, Option.some.injEq]
        at stepped
      obtain ⟨_, rfl⟩ := stepped
      exact Or.inl member
  | activate id snapshotHash entryId mobileConsumable env =>
      simp only [step, Option.ite_none_right_eq_some, Option.some.injEq]
        at stepped
      obtain ⟨_, rfl⟩ := stepped
      exact Or.inl member
  | deliver announcement env =>
      simp only [step, Option.ite_none_right_eq_some, Option.some.injEq]
        at stepped
      obtain ⟨_, rfl⟩ := stepped
      rcases List.mem_append.mp member with new | old
      · unfold settledByOutcome at new
        split at new
        · rename_i reason ignored
          rw [List.mem_singleton] at new
          subst new
          refine Or.inr ?_
          simp only [World.setDevice, Announcement.receipt,
            Function.update_self, Device.receive_register]
          exact handleOne_ignored ignored
        · cases new
        · cases new
      · exact Or.inl old
  | writeOs id index succeeds =>
      simp only [step, Option.map_eq_some_iff] at stepped
      obtain ⟨device, _, rfl⟩ := stepped
      exact Or.inl member
  | converge id index env =>
      simp only [step, Option.map_eq_some_iff] at stepped
      obtain ⟨converged, ran, rfl⟩ := stepped
      rcases List.mem_append.mp member with new | old
      · unfold settledByResult at new
        split at new
        · rename_i won succeeded
          rw [List.mem_singleton] at new
          subst new
          obtain ⟨_, _, advanced, _, _⟩ := Device.converge_cases ran
          rw [succeeded] at advanced
          refine Or.inr ?_
          simp only [World.setDevice, Function.update_self]
          rw [registerRank, advance_ok advanced]
          exact LastWriter.key_le_rank_offer _ _ _
        · cases new
      · exact Or.inl old
  | reset id =>
      simp only [step, Option.some.injEq] at stepped
      subst stepped
      exact Or.inl member

theorem SettledCovered.step {roster : List DeviceId}
    (covered : SettledCovered world) (admitted : noReset world action)
    (stepped : OpenClipboard.step roster world action = some after) :
    SettledCovered after := by
  intro receipt member
  rcases step_settled stepped member with old | new
  · exact (covered receipt old).trans
      (step_registerMove stepped admitted receipt.target).rank_le
  · exact new

/-! ## Clock readings that name one content -/

/-- The register storage answers: the database does not fail, and a consumable
reference can be sealed. -/
def AdvanceEnv.Works (env : AdvanceEnv) (state : ActiveClipboardState)
    (mobileConsumable : Bool) : Prop :=
  env.storageFailure = none ∧
    (sealConsumableRef env state mobileConsumable).toOption.isSome = true

theorem AdvanceEnv.Works.advance_ok {state : ActiveClipboardState}
    (works : env.Works state mobileConsumable) (current : Option RegisterRow) :
    ∃ won, (advance env current state mobileConsumable).1 = .ok won := by
  obtain ⟨stored, sealing⟩ := works
  unfold advance
  rw [stored]
  cases sealedRef : sealConsumableRef env state mobileConsumable with
  | error err =>
      rw [sealedRef] at sealing
      cases sealing
  | ok ciphertext =>
      by_cases wins : shouldAdvance current state = true
      · exact ⟨true, by simp [wins]⟩
      · exact ⟨false, by simp [wins]⟩

/-- No reset; and a local activation finds its register storage working and,
if the device has already activated at this clock reading, activates the same
content. -/
def distinctStamps (world : World) : Action → Prop
  | .activate id snapshotHash entryId mobileConsumable env =>
      env.Works ⟨snapshotHash, entryId, (world.device id).clock, id⟩
          mobileConsumable ∧
        ∀ earlier ∈ world.activations, earlier.activatedBy = id →
          earlier.activatedAtMs = (world.device id).clock →
            earlier.snapshotHash = snapshotHash
  | .reset _ => False
  | _ => True

instance (world : World) (action : Action) :
    Decidable (distinctStamps world action) :=
  match action with
  | .activate _ _ _ _ _ =>
      inferInstanceAs (Decidable ((_ = _ ∧ _ = _) ∧ _))
  | .reset _ => isFalse id
  | .tick _ _ => isTrue trivial
  | .deliver _ _ => isTrue trivial
  | .writeOs _ _ _ => isTrue trivial
  | .converge _ _ _ => isTrue trivial

theorem noReset_of_distinctStamps {world : World}
    (admitted : distinctStamps world action) : noReset world action := by
  cases action with
  | reset id => exact admitted
  | _ => trivial

/-- Every activation is covered by the register of the device that made it. -/
def OwnCovered (world : World) : Prop :=
  ∀ activation ∈ world.activations,
    (activation.key : WithBot _) ≤
      registerRank (world.device activation.activatedBy).register

def KeysDistinct (world : World) : Prop :=
  Set.InjOn Activation.key {activation | activation ∈ world.activations}

theorem OwnCovered.step {roster : List DeviceId} (covered : OwnCovered world)
    (admitted : distinctStamps world action)
    (stepped : OpenClipboard.step roster world action = some after) :
    OwnCovered after := by
  have raised : ∀ activation ∈ world.activations,
      (activation.key : WithBot _) ≤
        registerRank (after.device activation.activatedBy).register :=
    fun activation member => (covered activation member).trans
      (step_registerMove stepped (noReset_of_distinctStamps admitted)
        activation.activatedBy).rank_le
  obtain ⟨_, same | ⟨id, snapshotHash, entryId, mobileConsumable, env, rfl,
    extended, device, _⟩⟩ := step_activations stepped
  · intro activation member
    exact raised activation (same ▸ member)
  · intro activation member
    rw [extended] at member
    rcases List.mem_cons.mp member with rfl | old
    · obtain ⟨result, advanced⟩ := (world.device id).activate_advance id env
        mobileConsumable snapshotHash entryId
      obtain ⟨won, succeeded⟩ :=
        admitted.1.advance_ok (world.device id).register
      have won_eq : result = .ok won := by
        rw [← succeeded]
        exact (congrArg Prod.fst advanced).symm
      rw [won_eq] at advanced
      simp only [device]
      rw [registerRank, OpenClipboard.advance_ok advanced]
      exact LastWriter.key_le_rank_offer _ _ _
    · exact raised activation old

theorem KeysDistinct.step {roster : List DeviceId}
    (distinct : KeysDistinct world) (admitted : distinctStamps world action)
    (stepped : OpenClipboard.step roster world action = some after) :
    KeysDistinct after := by
  obtain ⟨_, same | ⟨id, snapshotHash, entryId, mobileConsumable, env, rfl,
    extended, _, _⟩⟩ := step_activations stepped
  · simpa only [KeysDistinct, same] using distinct
  · -- a new activation that shares a key with an old one is that old one
    have collides : ∀ earlier ∈ world.activations,
        earlier.key =
            Activation.key ⟨snapshotHash, (world.device id).clock, id⟩ →
          earlier = ⟨snapshotHash, (world.device id).clock, id⟩ := by
      intro earlier member sameKey
      obtain ⟨sameTime, sameDevice⟩ := Activation.key_eq_iff.mp sameKey
      have sameHash := admitted.2 earlier member sameDevice sameTime
      cases earlier
      simp_all
    intro left leftMember right rightMember sameKey
    simp only [extended, Set.mem_ofPred_eq, List.mem_cons]
      at leftMember rightMember
    rcases leftMember with rfl | leftOld
    · rcases rightMember with rfl | rightOld
      · rfl
      · exact (collides right rightOld sameKey.symm).symm
    · rcases rightMember with rfl | rightOld
      · exact collides left leftOld sameKey
      · exact distinct leftOld rightOld sameKey

/-- What holds in every state of a run with distinct stamps. -/
structure Converging (roster : List DeviceId) (world : World) : Prop where
  traced : Traced world
  announced : Announced roster world
  settled : SettledCovered world
  own : OwnCovered world
  distinct : KeysDistinct world

theorem converging_fresh
    (roster : List DeviceId) (clock : DeviceId → Int) :
    Converging roster (World.fresh clock) where
  traced := traced_fresh clock
  announced := by simp [Announced, World.fresh]
  settled := by simp [SettledCovered, World.fresh]
  own := by simp [OwnCovered, World.fresh]
  distinct := by simp [KeysDistinct, World.fresh]

theorem Converging.step {roster : List DeviceId}
    (converging : Converging roster world)
    (admitted : distinctStamps world action)
    (stepped : OpenClipboard.step roster world action = some after) :
    Converging roster after where
  traced := converging.traced.step stepped
  announced := converging.announced.step stepped
  settled :=
    converging.settled.step (noReset_of_distinctStamps admitted) stepped
  own := converging.own.step admitted stepped
  distinct := converging.distinct.step admitted stepped

theorem Converging.ofRun
    {roster : List DeviceId} {clock : DeviceId → Int} {world : World}
    (run : Run (OpenClipboard.step roster) distinctStamps
      (World.fresh clock) world) :
    Converging roster world :=
  run.preserves (converging_fresh roster clock)
    fun _ _ _ converging admitted stepped =>
      converging.step admitted stepped

/-! ## The three properties of a run -/

def RegistersRose (before after : World) : Prop :=
  ∀ id, registerRank (before.device id).register ≤
    registerRank (after.device id).register

def SameKeySameHash (world : World) : Prop :=
  ∀ left right leftRow rightRow,
    (world.device left).register = some leftRow →
      (world.device right).register = some rightRow →
        leftRow.activatedAtMs = rightRow.activatedAtMs →
          leftRow.activatedBy = rightRow.activatedBy →
            leftRow.snapshotHash = rightRow.snapshotHash

/-- Every announcement has been processed without a guard dropping it, and no
task is under way. -/
def Quiescent (roster : List DeviceId) (world : World) : Prop :=
  (∀ announcement ∈ world.sent, announcement.receipt ∈ world.settled) ∧
    ∀ id ∈ roster, (world.device id).tasks = []

/-- All registers on the roster hold the same activation. -/
def RegistersAgree (roster : List DeviceId) (world : World) : Prop :=
  ∀ left ∈ roster, ∀ right ∈ roster,
    registerActivation (world.device left).register =
      registerActivation (world.device right).register

theorem registersRose_of_run
    {roster : List DeviceId} {start finish : World}
    (run : Run (step roster) noReset start finish) :
    RegistersRose start finish :=
  run.relates (fun _ _ => le_refl _)
    (fun first second id => (first id).trans (second id))
    fun _ _ _ admitted stepped id =>
      (step_registerMove stepped admitted id).rank_le

theorem Converging.sameKeySameHash
    {roster : List DeviceId} {world : World}
    (converging : Converging roster world) : SameKeySameHash world := by
  intro left right leftRow rightRow leftHeld rightHeld sameTime sameDevice
  have leftKnown := (converging.traced.devices left).register
    leftRow.activation (by rw [leftHeld]; rfl)
  have rightKnown := (converging.traced.devices right).register
    rightRow.activation (by rw [rightHeld]; rfl)
  have same := converging.distinct leftKnown rightKnown
    (Activation.key_eq_iff.mpr ⟨sameTime, sameDevice⟩)
  exact congrArg Activation.snapshotHash same

theorem Converging.covers
    {roster : List DeviceId} {world : World}
    (converging : Converging roster world)
    (quiescent : Quiescent roster world)
    {id : DeviceId} (inRoster : id ∈ roster) :
    LastWriter.Covers Activation.key
      {activation | activation ∈ world.activations}
      (registerActivation (world.device id).register) := by
  intro activation member
  by_cases own : id = activation.activatedBy
  · exact own ▸ converging.own activation member
  · obtain ⟨announcement, sent, rfl, rfl⟩ :=
      converging.announced activation member id inRoster own
    exact converging.settled _ (quiescent.1 announcement sent)

theorem Converging.registersAgree
    {roster : List DeviceId} {world : World}
    (converging : Converging roster world)
    (quiescent : Quiescent roster world) : RegistersAgree roster world :=
  fun left leftIn right rightIn =>
    LastWriter.eq_of_covers Activation.key converging.distinct
      (converging.traced.devices left).register
      (converging.traced.devices right).register
      (converging.covers quiescent leftIn)
      (converging.covers quiescent rightIn)

/-- Registers rise in every run without a reset; in every run whose clock
readings name one content, equal keys carry equal content and all registers
agree once everything is processed. -/
theorem registersConverge (roster : List DeviceId) :
    (∀ start finish, Run (step roster) noReset start finish →
      RegistersRose start finish) ∧
    ∀ clock world,
      Run (step roster) distinctStamps (World.fresh clock) world →
        SameKeySameHash world ∧
          (Quiescent roster world → RegistersAgree roster world) :=
  ⟨fun _ _ run => registersRose_of_run run, fun _ _ run =>
    ⟨(Converging.ofRun run).sameKeySameHash,
      (Converging.ofRun run).registersAgree⟩⟩

/-! ## Two devices, one of which activates twice in a millisecond -/

namespace SameMillisecond

def laptop : DeviceId := { asStr := "laptop" }
def phone : DeviceId := { asStr := "phone" }
def roster : List DeviceId := [laptop, phone]

def storage : AdvanceEnv where
  cipher := .ok fun _ => .ok []
  storageFailure := none

/-- A receiver that holds every content and admits everything. -/
def ports : InboundEnv where
  isUnlocked := true
  loadFailure := none
  nowMs := 5
  memberRepo _ := .ok none
  findEntryIdBySnapshotHash hash := .ok (some ⟨hash⟩)
  isEntryAvailable := none
  pullClient := none
  pulledContentStore := none
  reconstruct _ := .ok { tsMs := 0, representations := [] }
  isMobileConsumable _ := false
  urlParse _ := none

def stamped (hash : String) : ActiveClipboardState where
  snapshotHash := hash
  entryId := ⟨hash⟩
  activatedAtMs := 5
  activatedBy := laptop

def announcement (hash : String) : Announcement where
  sender := laptop
  target := phone
  state := stamped hash

def activateOnLaptop (hash : String) : Action :=
  .activate laptop hash ⟨hash⟩ false storage

/-- The laptop activates `h1` and `h2` at one clock reading; `h2` reaches the
phone first. -/
def actions : List Action :=
  [activateOnLaptop "h1", activateOnLaptop "h2",
    .deliver (announcement "h2") ports, .writeOs phone 0 true,
    .converge phone 0 storage, .deliver (announcement "h1") ports]

/-- The same deliveries when the two activations are of one content. -/
def lawfulActions : List Action :=
  [activateOnLaptop "h1", activateOnLaptop "h1",
    .deliver (announcement "h1") ports, .writeOs phone 0 true,
    .converge phone 0 storage]

def start : World := World.fresh fun _ => 5

/-- What both registers hold and whether everything has been processed. -/
def summary (world : World) :
    Option ActiveClipboardState × Option ActiveClipboardState × Bool :=
  ((world.device laptop).register.map RegisterRow.load,
    (world.device phone).register.map RegisterRow.load,
    decide (∀ announcement ∈ world.sent,
        announcement.receipt ∈ world.settled) &&
      decide (∀ id ∈ roster, (world.device id).tasks = []))

theorem summary_actions :
    (execute (step roster) start actions).map summary =
      some (some (stamped "h1"), some (stamped "h2"), true) := by
  decide

end SameMillisecond

open SameMillisecond in
/-- Two activations of one device in one millisecond leave two registers with
one key and two contents, although everything sent has been processed. -/
theorem sameMillisecond_registers_diverge :
    ∃ world, Run (step roster) noReset (World.fresh fun _ => 5) world ∧
      Quiescent roster world ∧ ¬ SameKeySameHash world ∧
        ¬ RegistersAgree roster world := by
  obtain ⟨world, executed, seen⟩ := Option.map_eq_some_iff.mp summary_actions
  simp only [summary, Prod.mk.injEq, Option.map_eq_some_iff,
    Bool.and_eq_true, decide_eq_true_eq] at seen
  obtain ⟨⟨laptopRow, laptopHeld, laptopState⟩,
    ⟨phoneRow, phoneHeld, phoneState⟩, quiescent⟩ := seen
  refine ⟨world, Run.ofExecute (by decide) executed, quiescent, ?_, ?_⟩
  · intro sameKeySameHash
    have sameHash := sameKeySameHash laptop phone laptopRow phoneRow
      laptopHeld phoneHeld
      ((congrArg ActiveClipboardState.activatedAtMs laptopState).trans
        (congrArg ActiveClipboardState.activatedAtMs phoneState).symm)
      ((congrArg ActiveClipboardState.activatedBy laptopState).trans
        (congrArg ActiveClipboardState.activatedBy phoneState).symm)
    have contents : (stamped "h1").snapshotHash = (stamped "h2").snapshotHash :=
      (congrArg ActiveClipboardState.snapshotHash laptopState).symm.trans
        (sameHash.trans
          (congrArg ActiveClipboardState.snapshotHash phoneState))
    exact absurd contents (by decide)
  · intro agree
    have same := agree laptop (by decide) phone (by decide)
    simp only [laptopHeld, phoneHeld, registerActivation, Option.map_some,
      RegisterRow.activation, laptopState, phoneState] at same
    exact absurd same (by decide)

open SameMillisecond in
/-- A run with distinct stamps, ending in agreement. -/
theorem registersConverge_lawful_run :
    ∃ world, Run (step roster) distinctStamps (World.fresh fun _ => 5) world ∧
      SameKeySameHash world ∧ RegistersAgree roster world ∧
        RegistersRose (World.fresh fun _ => 5) world := by
  obtain ⟨world, executed, seen⟩ := Option.map_eq_some_iff.mp
    (show (execute (step roster) start lawfulActions).map summary =
        some (some (stamped "h1"), some (stamped "h1"), true) by decide)
  simp only [summary, Prod.mk.injEq, Bool.and_eq_true, decide_eq_true_eq]
    at seen
  have run : Run (step roster) distinctStamps (World.fresh fun _ => 5) world :=
    Run.ofExecute (by decide) executed
  have converged := (registersConverge roster).2 (fun _ => 5) world run
  exact ⟨world, run, converged.1, converged.2 seen.2.2,
    (registersConverge roster).1 _ world
      (run.weaken fun _ _ => noReset_of_distinctStamps)⟩

end OpenClipboard
