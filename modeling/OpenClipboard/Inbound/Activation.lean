import OpenClipboard.Inbound.ApplyInbound
import OpenClipboard.Library.Transition

/-!
# What deliveries do to the clipboard and the register

Complete deliveries are processed one after another, and every clipboard write
succeeds.  A delivery that no filter stops replaces what is on the clipboard
and offers its activation to the register; a filtered one does neither.
-/

namespace OpenClipboard.ApplyInbound

open ContentHash Transition

def isHeld (ports : InboundPorts) (existing : Option EntryId) : Bool :=
  existing.any (isEntryAvailable ports)

/-- A delivery whose ports all answer, and whose content is here in full.  It
is shown under `entryId`. -/
structure CompleteDelivery where
  ports : InboundPorts
  input : ApplyInboundInput
  envelope : Envelope
  existing : Option EntryId
  entryId : EntryId
  decoded : ports.decode input.plaintext = .ok envelope
  lookedUp : ports.findEntryIdBySnapshotHash input.snapshotHash = .ok existing
  written : ∀ snapshot intent, ports.write snapshot intent = .ok ()
  held : isHeld ports existing = true → existing = some entryId
  stored : isHeld ports existing = false → ∃ snapshot visibleKey,
    materializePayload ports input (existing.getD ports.newEntryId) envelope =
      some (.ok (snapshot, false)) ∧
    snapshot.meaningfulOriginKey ports.blake3 ports.readFile =
      some visibleKey ∧
    commit ports input existing (existing.getD ports.newEntryId) snapshot =
      .ok entryId

/-- The device, once the caches have dropped what they drop. -/
def afterEviction (ports : InboundPorts) (device : InboundDevice) :
    InboundDevice :=
  { device with
    recentSnapshotHashes :=
      RecentCache.evict device.recentSnapshotHashes ports.evictedHash
    recentVisibleContent :=
      RecentCache.evict device.recentVisibleContent ports.evictedVisible }

namespace CompleteDelivery

/-- The visible content, if the delivery is materialised at all. -/
def visibleKey (delivery : CompleteDelivery) : Option String :=
  match materializePayload delivery.ports delivery.input
      (delivery.existing.getD delivery.ports.newEntryId) delivery.envelope with
  | some (.ok (snapshot, _)) =>
      (snapshot.meaningfulOriginKey delivery.ports.blake3
        delivery.ports.readFile).join
  | _ => none

/-- Held content that cannot be rebuilt, or was activated a moment ago. -/
def staysHeld (delivery : CompleteDelivery) (device : InboundDevice) : Bool :=
  match delivery.ports.resurface with
  | none => true
  | some rebuild =>
      (isRecentHash delivery.ports delivery.input device).isSome ||
        !(rebuild delivery.entryId).isOk

/-- A filter stops the delivery: the one for held content, or the one for new
content that was applied a moment ago. -/
def isFiltered (delivery : CompleteDelivery) (device : InboundDevice) : Bool :=
  if isHeld delivery.ports delivery.existing then
    delivery.staysHeld (afterEviction delivery.ports device)
  else
    delivery.existing.isNone &&
      (findRecentDuplicate delivery.ports delivery.input delivery.visibleKey
        (afterEviction delivery.ports device)).isSome

/-- The activation that the delivery reports, with this device's entry. -/
def state (delivery : CompleteDelivery) : ActiveClipboardState where
  snapshotHash := delivery.input.snapshotHash
  entryId := delivery.entryId
  activatedAtMs := delivery.envelope.snapshot.tsMs
  activatedBy := delivery.input.fromDevice

def activation (delivery : CompleteDelivery) : Activation :=
  delivery.state.activation

/-- The register is wired, and neither its cipher nor its storage fails. -/
def registerAnswers (delivery : CompleteDelivery) : Bool :=
  match delivery.ports.activeRegister with
  | none => false
  | some env =>
      (sealConsumableRef env delivery.state
        (delivery.ports.isMobileConsumable delivery.entryId)).isOk &&
        env.storageFailure.isNone

end CompleteDelivery

/-- One delivery after another; what `execute` reports is not kept. -/
def deliver (device : InboundDevice) (delivery : CompleteDelivery) :
    Option InboundDevice :=
  (execute delivery.ports delivery.input device).map Prod.snd

namespace InboundDevice

def osHash (device : InboundDevice) : Option String :=
  device.osClipboard.map ClipboardContent.snapshotHash

def registerHash (device : InboundDevice) : Option String :=
  (registerActivation device.register).map Activation.snapshotHash

/-- The clipboard holds the content that the register names. -/
def InStep (device : InboundDevice) : Prop :=
  device.osHash = device.registerHash

end InboundDevice

/-! ## What one delivery does -/

section Register

variable {env : AdvanceEnv} {current : Option RegisterRow}
variable {state : ActiveClipboardState} {mobileConsumable : Bool}

theorem registerActivation_advance
    (sealingOk : (sealConsumableRef env state mobileConsumable).isOk = true)
    (storageOk : env.storageFailure.isNone = true) :
    registerActivation (advance env current state mobileConsumable).2 =
      LastWriter.offer Activation.key (registerActivation current)
        state.activation := by
  have answered : ∃ won, (advance env current state mobileConsumable).1 =
      .ok won := by
    unfold advance
    cases sealing : sealConsumableRef env state mobileConsumable with
    | error err =>
        rw [sealing] at sealingOk
        cases sealingOk
    | ok sealedRef =>
        rw [Option.isNone_iff_eq_none.mp storageOk]
        simp only
        split
        · exact ⟨true, rfl⟩
        · exact ⟨false, rfl⟩
  obtain ⟨won, isWon⟩ := answered
  exact advance_ok (Prod.ext isWon rfl)

theorem advance_unanswered
    (fails : ((sealConsumableRef env state mobileConsumable).isOk &&
      env.storageFailure.isNone) = false) :
    (advance env current state mobileConsumable).2 = current := by
  unfold advance
  cases sealing : sealConsumableRef env state mobileConsumable with
  | error err => rfl
  | ok sealedRef =>
      rw [sealing] at fails
      cases failure : env.storageFailure with
      | some message => rfl
      | none =>
          rw [failure] at fails
          cases fails

end Register

section Deliver

variable {device next : InboundDevice} {delivery : CompleteDelivery}

@[simp]
theorem afterEviction_register (ports : InboundPorts) :
    (afterEviction ports device).register = device.register := rfl

/-- What an activation makes of clipboard and register. -/
structure Activated (delivery : CompleteDelivery)
    (device next : InboundDevice) : Prop where
  osHash : next.osHash = some delivery.input.snapshotHash
  register : next.register =
    (advanceActiveRegister delivery.ports delivery.input delivery.entryId
      delivery.envelope.snapshot.tsMs device).register

theorem Activated.congr {other : InboundDevice}
    (activated : Activated delivery other next)
    (same : other.register = device.register) :
    Activated delivery device next := by
  refine ⟨activated.osHash, ?_⟩
  rw [activated.register]
  unfold advanceActiveRegister
  cases delivery.ports.activeRegister with
  | none => exact same
  | some env => rw [same]

theorem tsMs_of_materializePayload {ports : InboundPorts}
    {input : ApplyInboundInput} {entryId : EntryId} {envelope : Envelope}
    {snapshot : SystemClipboardSnapshot} {isPartial : Bool}
    (materialized : materializePayload ports input entryId envelope =
      some (.ok (snapshot, isPartial))) :
    snapshot.tsMs = envelope.snapshot.tsMs := by
  unfold materializePayload at materialized
  split at materialized
  · cases materialized
    rfl
  · split at materialized
    · cases materialized
    · split at materialized
      · cases materialized
      · simp only at materialized
        split at materialized
        · obtain ⟨actual, hashed, verified⟩ :=
            Option.map_eq_some_iff.mp materialized
          split at verified
          · cases verified
          · cases verified
            rfl
        · cases materialized
          rfl

theorem execute_held
    (held : isHeld delivery.ports delivery.existing = true) :
    deliver device delivery =
      some (resurfaceHeldEntry delivery.ports delivery.input delivery.entryId
        delivery.envelope.snapshot.tsMs
          (afterEviction delivery.ports device)).2 := by
  have isEntry := delivery.held held
  have isAvailable :
      isEntryAvailable delivery.ports delivery.entryId = true := by
    rw [isEntry] at held
    exact held
  unfold deliver execute
  simp only [delivery.decoded, delivery.lookedUp, isEntry, isAvailable]
  rfl

theorem execute_stored
    (notHeld : isHeld delivery.ports delivery.existing = false) :
    deliver device delivery =
      (applyContent delivery.ports delivery.input delivery.existing
        delivery.envelope (afterEviction delivery.ports device)).map
          Prod.snd := by
  unfold deliver execute
  simp only [delivery.decoded, delivery.lookedUp]
  cases found : delivery.existing with
  | none => rfl
  | some existing =>
      rw [found] at notHeld
      have isUnavailable :
          isEntryAvailable delivery.ports existing = false := notHeld
      simp only [isUnavailable]
      rfl

theorem resurfaceHeldEntry_stays
    (stays : delivery.staysHeld device = true) :
    (resurfaceHeldEntry delivery.ports delivery.input delivery.entryId
      delivery.envelope.snapshot.tsMs device).2 = device := by
  unfold CompleteDelivery.staysHeld at stays
  unfold resurfaceHeldEntry
  cases wired : delivery.ports.resurface with
  | none => rfl
  | some rebuild =>
      simp only [wired] at stays
      simp only
      split
      · rfl
      · rename_i notRecent
        cases rebuilt : rebuild delivery.entryId with
        | error message => rfl
        | ok snapshot =>
            rw [rebuilt] at stays
            have isRecent := (Bool.or_eq_true _ _).mp stays
            cases isRecent with
            | inl isRecent => exact absurd isRecent notRecent
            | inr fails => cases fails

theorem resurfaceHeldEntry_activated
    (activates : delivery.staysHeld device = false) :
    Activated delivery device
      (resurfaceHeldEntry delivery.ports delivery.input delivery.entryId
        delivery.envelope.snapshot.tsMs device).2 := by
  unfold CompleteDelivery.staysHeld at activates
  unfold resurfaceHeldEntry
  cases wired : delivery.ports.resurface with
  | none =>
      rw [wired] at activates
      cases activates
  | some rebuild =>
      simp only [wired, Bool.or_eq_false_iff] at activates
      cases rebuilt : rebuild delivery.entryId with
      | error message =>
          rw [rebuilt] at activates
          cases activates.2
      | ok snapshot =>
          simp only [activates.1, Bool.false_eq_true, if_false, rebuilt,
            delivery.written]
          constructor
          · unfold advanceActiveRegister
            split <;> rfl
          · unfold advanceActiveRegister
            split <;> rfl

theorem activated_activateApplied {snapshot : SystemClipboardSnapshot}
    {visibleKey : Option String}
    (sameTime : snapshot.tsMs = delivery.envelope.snapshot.tsMs) :
    Activated delivery device (activateApplied delivery.ports delivery.input
      delivery.entryId snapshot visibleKey device) := by
  unfold activateApplied writeOs
  rw [delivery.written, sameTime]
  refine ⟨rfl, ?_⟩
  unfold putOs advanceActiveRegister
  cases delivery.ports.activeRegister <;> rfl

theorem applyContent_complete
    (notHeld : isHeld delivery.ports delivery.existing = false) :
    (delivery.existing.isNone = true ∧
      (findRecentDuplicate delivery.ports delivery.input delivery.visibleKey
        device).isSome = true ∧
      (applyContent delivery.ports delivery.input delivery.existing
        delivery.envelope device).map Prod.snd = some device) ∨
    ((delivery.existing.isNone = false ∨
      (findRecentDuplicate delivery.ports delivery.input delivery.visibleKey
        device).isSome = false) ∧
      ∃ next, (applyContent delivery.ports delivery.input delivery.existing
          delivery.envelope device).map Prod.snd = some next ∧
        Activated delivery device next) := by
  obtain ⟨snapshot, visibleKey, materialized, keyed, committed⟩ :=
    delivery.stored notHeld
  have sameTime := tsMs_of_materializePayload materialized
  have sameKey : delivery.visibleKey = visibleKey := by
    unfold CompleteDelivery.visibleKey
    rw [materialized]
    simp only [keyed, Option.join_some]
  have storing : ∀ existing, delivery.existing = existing →
      (storeContent delivery.ports delivery.input existing
        (existing.getD delivery.ports.newEntryId) snapshot false visibleKey
        device).2 = activateApplied delivery.ports delivery.input
          delivery.entryId snapshot visibleKey device := by
    intro existing same
    rw [← same]
    unfold storeContent
    rw [committed]
    rfl
  unfold applyContent
  simp only [materialized, keyed]
  rw [sameKey]
  cases found : delivery.existing with
  | some existing =>
      apply Or.inr
      refine ⟨Or.inl rfl, ?_⟩
      dsimp only
      rw [if_neg Bool.false_ne_true]
      refine ⟨_, rfl, ?_⟩
      rw [storing (some existing) found]
      exact activated_activateApplied sameTime
  | none =>
      cases recent : findRecentDuplicate delivery.ports delivery.input
          visibleKey device with
      | some entryId =>
          apply Or.inl
          refine ⟨rfl, rfl, ?_⟩
          dsimp only
          rw [recent]
          rfl
      | none =>
          apply Or.inr
          refine ⟨Or.inr rfl, ?_⟩
          dsimp only
          rw [recent]
          refine ⟨_, rfl, ?_⟩
          rw [storing none found]
          exact activated_activateApplied sameTime

theorem deliver_filtered (filtered : delivery.isFiltered device = true) :
    deliver device delivery = some (afterEviction delivery.ports device) := by
  unfold CompleteDelivery.isFiltered at filtered
  split at filtered
  · rename_i held
    rw [execute_held held, resurfaceHeldEntry_stays filtered]
  · rename_i notHeld
    have notHeld' := Bool.eq_false_iff.mpr notHeld
    obtain ⟨isNew, isRecent⟩ := (Bool.and_eq_true _ _).mp filtered
    rw [execute_stored notHeld']
    rcases @applyContent_complete
        (afterEviction delivery.ports device) delivery notHeld' with
      ⟨_, _, skipped⟩ | ⟨passes, _⟩
    · exact skipped
    · cases passes with
      | inl isOld =>
          rw [isNew] at isOld
          cases isOld
      | inr notRecent =>
          rw [isRecent] at notRecent
          cases notRecent

theorem deliver_activated (passes : delivery.isFiltered device = false) :
    ∃ next, deliver device delivery = some next ∧
      Activated delivery device next := by
  unfold CompleteDelivery.isFiltered at passes
  split at passes
  · rename_i held
    refine ⟨_, execute_held held, ?_⟩
    exact (resurfaceHeldEntry_activated passes).congr rfl
  · rename_i notHeld
    have notHeld' := Bool.eq_false_iff.mpr notHeld
    rw [execute_stored notHeld']
    rcases @applyContent_complete
        (afterEviction delivery.ports device) delivery notHeld' with
      ⟨isNew, isRecent, _⟩ | ⟨_, next, stored, activated⟩
    · rw [isNew, isRecent] at passes
      cases passes
    · exact ⟨next, stored, activated.congr rfl⟩

theorem deliver_ne_none (device : InboundDevice)
    (delivery : CompleteDelivery) : deliver device delivery ≠ none := by
  intro failed
  cases filtered : delivery.isFiltered device with
  | true =>
      rw [deliver_filtered filtered] at failed
      cases failed
  | false =>
      obtain ⟨next, delivered, _⟩ := deliver_activated filtered
      rw [delivered] at failed
      cases failed

theorem Activated.offered (activated : Activated delivery device next)
    (answers : delivery.registerAnswers = true) :
    registerActivation next.register =
      LastWriter.offer Activation.key (registerActivation device.register)
        delivery.activation := by
  unfold CompleteDelivery.registerAnswers at answers
  rw [activated.register]
  unfold advanceActiveRegister
  cases wired : delivery.ports.activeRegister with
  | none =>
      rw [wired] at answers
      cases answers
  | some env =>
      simp only [wired, Bool.and_eq_true] at answers
      exact registerActivation_advance answers.1 answers.2

theorem Activated.unanswered (activated : Activated delivery device next)
    (fails : delivery.registerAnswers = false) :
    next.register = device.register := by
  unfold CompleteDelivery.registerAnswers at fails
  rw [activated.register]
  unfold advanceActiveRegister
  cases wired : delivery.ports.activeRegister with
  | none => rfl
  | some env =>
      simp only [wired] at fails
      exact advance_unanswered fails

end Deliver

/-! ## The clipboard and the register -/

/-- The delivery is filtered, or its activation wins against the register and
is recorded there, or it brings the content that the register names. -/
def keepsInStep (device : InboundDevice) (delivery : CompleteDelivery) : Prop :=
  delivery.isFiltered device = true ∨
    (delivery.registerAnswers = true ∧
      shouldAdvance device.register delivery.state = true) ∨
    device.registerHash = some delivery.input.snapshotHash

section InStep

variable {device next : InboundDevice} {delivery : CompleteDelivery}

theorem offer_activation (register : Option RegisterRow)
    (state : ActiveClipboardState) :
    LastWriter.offer Activation.key (registerActivation register)
        state.activation =
      if shouldAdvance register state then some state.activation
      else registerActivation register := by
  cases register with
  | none => rfl
  | some row =>
      have wins := shouldAdvance_some_iff row state
      simp only [registerActivation, Option.map_some, LastWriter.offer]
      by_cases newer : row.activation.key < state.activation.key
      · rw [if_pos newer, if_pos (wins.mpr newer)]
      · rw [if_neg newer, if_neg (fun won => newer (wins.mp won))]

theorem inStep_deliver (inStep : device.InStep)
    (delivered : deliver device delivery = some next) :
    next.InStep ↔ keepsInStep device delivery := by
  cases filtered : delivery.isFiltered device with
  | true =>
      rw [deliver_filtered filtered] at delivered
      cases delivered
      exact iff_of_true inStep (Or.inl filtered)
  | false =>
      obtain ⟨after, isAfter, activated⟩ := deliver_activated filtered
      rw [isAfter] at delivered
      cases delivered
      have names : next.InStep ↔
          next.registerHash = some delivery.input.snapshotHash := by
        unfold InboundDevice.InStep
        rw [activated.osHash]
        exact eq_comm
      rw [names]
      unfold keepsInStep
      rw [filtered]
      simp only [Bool.false_eq_true, false_or]
      cases answers : delivery.registerAnswers with
      | false =>
          have same : next.registerHash = device.registerHash := by
            unfold InboundDevice.registerHash
            rw [activated.unanswered answers]
          simp [same]
      | true =>
          have offered := activated.offered answers
          rw [CompleteDelivery.activation, offer_activation] at offered
          cases wins : shouldAdvance device.register delivery.state with
          | true =>
              rw [wins, if_pos rfl] at offered
              have taken : next.registerHash =
                  some delivery.input.snapshotHash := by
                unfold InboundDevice.registerHash
                rw [offered]
                rfl
              simp [taken]
          | false =>
              rw [wins] at offered
              have same : next.registerHash = device.registerHash := by
                unfold InboundDevice.registerHash
                rw [offered]
                rfl
              simp [same]

/-- Along any deliveries the clipboard holds what the register names after
each of them, exactly if each meets the condition where it arrives. -/
theorem clipboardFollowsRegister {start : InboundDevice}
    (inStep : start.InStep) (deliveries : List CompleteDelivery) :
    (∀ done finish, done <+: deliveries →
      Transition.execute deliver start done = some finish → finish.InStep) ↔
      Guarded deliver keepsInStep start deliveries := by
  apply @guarded_iff_history _ _ deliver keepsInStep
    (fun _ device => device.InStep) [] deliveries start
  · intro device delivery _ failed
    exact absurd failed (deliver_ne_none device delivery)
  · intro _ device delivery _ next holds delivered
    exact inStep_deliver holds delivered
  · exact inStep

end InStep

/-! ## The newest activation -/

/-- The delivery is offered to a register that answers, or it does not
supersede what the register holds. -/
def keepsNewest (device : InboundDevice) (delivery : CompleteDelivery) : Prop :=
  (delivery.isFiltered device = false ∧ delivery.registerAnswers = true) ∨
    shouldAdvance device.register delivery.state = false

/-- The supersedes-maximum of a register's value and of the activations of
deliveries; of equal keys the first. -/
def newest (initial : Option Activation) (deliveries : List CompleteDelivery) :
    Option Activation :=
  deliveries.foldl
    (fun newest delivery =>
      LastWriter.offer Activation.key newest delivery.activation) initial

section Newest

variable {device next : InboundDevice} {delivery : CompleteDelivery}

theorem offered_deliver (delivered : deliver device delivery = some next) :
    registerActivation next.register =
        LastWriter.offer Activation.key (registerActivation device.register)
          delivery.activation ↔
      keepsNewest device delivery := by
  have superseded : registerActivation device.register =
        LastWriter.offer Activation.key (registerActivation device.register)
          delivery.activation ↔
      shouldAdvance device.register delivery.state = false := by
    rw [CompleteDelivery.activation, offer_activation]
    cases wins : shouldAdvance device.register delivery.state with
    | false => simp
    | true =>
        simp only [if_true, Bool.true_eq_false, iff_false]
        intro same
        cases held : device.register with
        | none =>
            rw [held] at same
            cases same
        | some row =>
            rw [held] at same wins
            have newer := (shouldAdvance_some_iff row delivery.state).mp wins
            have sameActivation : row.activation = delivery.state.activation :=
              Option.some.inj same
            rw [sameActivation] at newer
            exact lt_irrefl _ newer
  unfold keepsNewest
  cases filtered : delivery.isFiltered device with
  | true =>
      rw [deliver_filtered filtered] at delivered
      cases delivered
      simp only [afterEviction_register, Bool.true_eq_false, false_and,
        false_or]
      exact superseded
  | false =>
      obtain ⟨after, isAfter, activated⟩ := deliver_activated filtered
      rw [isAfter] at delivered
      cases delivered
      cases answers : delivery.registerAnswers with
      | true => simp [activated.offered answers]
      | false =>
          rw [activated.unanswered answers]
          simp only [Bool.false_eq_true, and_false, false_or]
          exact superseded

/-- Along any deliveries the register holds the newest activation after each
of them, exactly if each meets the condition where it arrives. -/
theorem registerHoldsNewest (start : InboundDevice)
    (deliveries : List CompleteDelivery) :
    (∀ done finish, done <+: deliveries →
      Transition.execute deliver start done = some finish →
        registerActivation finish.register =
          newest (registerActivation start.register) done) ↔
      Guarded deliver keepsNewest start deliveries := by
  apply @guarded_iff_history _ _ deliver keepsNewest
    (fun done device => registerActivation device.register =
      newest (registerActivation start.register) done) [] deliveries start
  · intro device delivery _ failed
    exact absurd failed (deliver_ne_none device delivery)
  · intro done device delivery _ next holds delivered
    rw [newest, List.foldl_append, List.foldl_cons, List.foldl_nil, ← newest,
      ← holds]
    exact offered_deliver delivered
  · rfl

end Newest

/-! ## An older clip, and a clip copied again -/

instance (device : InboundDevice) (delivery : CompleteDelivery) :
    Decidable (keepsInStep device delivery) :=
  inferInstanceAs (Decidable (_ ∨ _ ∨ _))

namespace Sample

def tablet : DeviceId := { asStr := "tablet" }

def storage : AdvanceEnv where
  cipher := .error .notUnlocked
  storageFailure := none

def emptyDevice : InboundDevice := ⟨none, none, [], []⟩

def text (content : String) (tsMs : Int) : SystemClipboardSnapshot where
  tsMs := tsMs
  representations := [ObservedClipboardRepresentation.new "rep" "text"
    (some "text/plain") (Text.asBytes content)]

theorem meaningfulOriginKey_text (content : String) (tsMs : Int)
    (blake3 : Blake3) (readFile : PathBuf → Option (List UInt8)) :
    ∃ key, (text content tsMs).meaningfulOriginKey blake3 readFile =
      some key := by
  have notFile : isFileMimeOrFormat (some ⟨"text/plain"⟩) ⟨"text"⟩ = false := by
    decide
  have isPlain : isPlainTextMimeOrFormat (some ⟨"text/plain"⟩) ⟨"text"⟩ =
      true := by
    decide
  simp [SystemClipboardSnapshot.meaningfulOriginKey,
    SystemClipboardSnapshot.taggedHash, text,
    ObservedClipboardRepresentation.new, ObservedClipboardRepresentation.isFile,
    ObservedClipboardRepresentation.isPlainText,
    ObservedClipboardRepresentation.contentHash, notFile, isPlain]

def ports (nowMs : Nat) (snapshot : SystemClipboardSnapshot)
    (existing : Option EntryId) (entryId : EntryId) : InboundPorts where
  nowMs := nowMs
  evictedHash := fun _ => false
  evictedVisible := fun _ => false
  blake3 := fun bytes => ⟨_, length_filled bytes⟩
  readFile := fun _ => none
  decode := fun _ => .ok ⟨snapshot, [], none⟩
  findEntryIdBySnapshotHash := fun _ => .ok existing
  availability := none
  newEntryId := entryId
  blobMaterializer := none
  capture := fun entryId _ _ _ => .ok (some entryId)
  replace := fun entryId _ _ _ => .ok (some entryId)
  resurface := some fun _ => .ok snapshot
  write := fun _ _ => .ok ()
  activeRegister := some storage
  isMobileConsumable := fun _ => false

/-- The tablet sends the text under its own name; whether it is held already
the store says. -/
def delivery (nowMs : Nat) (content : String) (tsMs : Int) (isKnown : Bool) :
    CompleteDelivery where
  ports := ports nowMs (text content tsMs)
    (if isKnown then some ⟨content⟩ else none) ⟨content⟩
  input := ⟨tablet, content, [], .remotePush⟩
  envelope := ⟨text content tsMs, [], none⟩
  existing := if isKnown then some ⟨content⟩ else none
  entryId := ⟨content⟩
  decoded := rfl
  lookedUp := rfl
  written := fun _ _ => rfl
  held := by
    cases isKnown with
    | true => exact fun _ => rfl
    | false =>
        intro held
        cases held
  stored := by
    cases isKnown with
    | true =>
        intro notHeld
        cases notHeld
    | false =>
        intro notHeld
        obtain ⟨key, keyed⟩ := meaningfulOriginKey_text content tsMs _ _
        exact ⟨_, key, rfl, keyed, rfl⟩

end Sample

open Sample

/-- Two clips in the order they were activated. -/
theorem clipboardFollowsRegister_inOrder :
    ∃ finish, Transition.execute deliver emptyDevice
        [delivery 0 "first" 10 false, delivery 50 "second" 60 false] =
          some finish ∧
      finish.osHash = some "second" ∧ finish.InStep := by
  have ran : (Transition.execute deliver emptyDevice
      [delivery 0 "first" 10 false, delivery 50 "second" 60 false]).map
        InboundDevice.osHash = some (some "second") := by
    decide +kernel
  obtain ⟨finish, executed, onClipboard⟩ := Option.map_eq_some_iff.mp ran
  have guarded : Guarded deliver keepsInStep emptyDevice
      [delivery 0 "first" 10 false, delivery 50 "second" 60 false] := by
    decide +kernel
  have inStep : emptyDevice.InStep := rfl
  exact ⟨finish, executed, onClipboard,
    (clipboardFollowsRegister inStep _).mpr guarded _ finish List.prefix_rfl
      executed⟩

/-- A clip that was activated before the present one replaces it on the
clipboard, but not in the register. -/
theorem olderClip_replaces_clipboard :
    ¬ ∀ (start : InboundDevice) (deliveries : List CompleteDelivery) finish,
      start.InStep → Transition.execute deliver start deliveries = some finish →
        finish.InStep := by
  intro follows
  have ran : (Transition.execute deliver emptyDevice
      [delivery 0 "newer" 60 false, delivery 50 "older" 10 false]).map
        (fun device => (device.osHash, device.registerHash)) =
      some (some "older", some "newer") := by
    decide +kernel
  obtain ⟨finish, executed, seen⟩ := Option.map_eq_some_iff.mp ran
  have onClipboard : finish.osHash = some "older" := congrArg Prod.fst seen
  have inRegister : finish.registerHash = some "newer" := congrArg Prod.snd seen
  have inStep := follows emptyDevice _ finish rfl executed
  rw [InboundDevice.InStep, onClipboard, inRegister] at inStep
  exact absurd inStep (by decide)

/-- A clip copied again within the window, with another in between, is not
activated again. -/
theorem copiedAgain_is_swallowed :
    ¬ ∀ (start : InboundDevice) (deliveries : List CompleteDelivery) finish,
      Transition.execute deliver start deliveries = some finish →
        registerActivation finish.register =
          newest (registerActivation start.register) deliveries := by
  intro holds
  have ran : (Transition.execute deliver emptyDevice
      [delivery 0 "A" 10 false, delivery 50 "B" 60 false,
        delivery 100 "A" 110 true]).map
        (fun device => registerActivation device.register) =
      some (some ⟨"B", 60, tablet⟩) := by
    decide +kernel
  obtain ⟨finish, executed, isB⟩ := Option.map_eq_some_iff.mp ran
  have isNewest := holds emptyDevice _ finish executed
  rw [isB] at isNewest
  exact absurd isNewest (by decide +kernel)

end OpenClipboard.ApplyInbound
