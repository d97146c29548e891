import OpenClipboard.Library.Transition
import OpenClipboard.MobileSync.LatestDoc
import OpenClipboard.Storage.SealedColumns

/-!
# The content id of a put and of the next get

A put answers with the hash under which its content was delivered; a get answers
with the hash in the consumable reference of the register.  The register names
entries under the identities they are stored under, whatever happens to it.
-/

namespace OpenClipboard.MobileSync

open Transition ApplyInbound

/-- What seals and opens the consumable reference during one session. -/
structure ReferenceCipher where
  cipher : Sealing MasterKey Nonce
  hkdf : Hkdf
  profile : String
  postcard : ConsumableCodec
  masterKey : MasterKey

variable {nonce : Nonce} {reference : MobileConsumableRef} {row : RegisterRow}
  {existing : Option EntryId} {result : Except ApplyInboundError ApplyOutcome}

namespace ReferenceCipher

variable (keys : ReferenceCipher)

def sealRef (nonce : Nonce) (reference : MobileConsumableRef) :
    Option (List UInt8) :=
  sealConsumable keys.cipher keys.hkdf keys.profile keys.postcard
    (some keys.masterKey) nonce reference

/-- The reference that is loaded, and the column that is left. -/
def load (column : Option (List UInt8)) :
    Option (Option MobileConsumableRef) × Option (List UInt8) :=
  loadMobileConsumable keys.cipher keys.hkdf keys.profile keys.postcard
    (some keys.masterKey) column

/-- The port that seals for `advance` is this cipher. -/
def Seals (env : AdvanceEnv) : Prop :=
  ∀ sealing reference ciphertext, env.cipher = .ok sealing →
    sealing reference = .ok ciphertext →
      ∃ nonce, keys.sealRef nonce reference = some ciphertext

variable {keys}

theorem load_sealRef {ciphertext : List UInt8}
    (isSealed : keys.sealRef nonce reference = some ciphertext) :
    keys.load (some ciphertext) =
      (some (some reference), some ciphertext) := by
  unfold sealRef sealConsumable deriveSubkey at isSealed
  rw [Option.map_some, Option.map_some, Option.some.injEq] at isSealed
  subst isSealed
  have opened : (keys.cipher.decrypt
      (keys.hkdf keys.masterKey (Text.asBytes keys.profile)
        consumableHkdfInfo)
      (keys.cipher.encrypt
        (keys.hkdf keys.masterKey (Text.asBytes keys.profile)
          consumableHkdfInfo) nonce
        (keys.postcard.toVec reference) Aad.consumable)
      Aad.consumable).bind keys.postcard.fromBytes = some reference := by
    rw [keys.cipher.decrypt_encrypt, Option.bind_some,
      keys.postcard.fromBytes_toVec]
  unfold load loadMobileConsumable deriveSubkey
  simp only [Option.map_some, opened]

end ReferenceCipher

/-! ## The register -/

/-- What happens to the row: an activation, the backfill on unlock, a load that
discards what it cannot read, and a reset. -/
inductive RegisterAction where
  | advance (env : AdvanceEnv) (state : ActiveClipboardState)
      (mobileConsumable : Bool)
  | backfill (nonce : Nonce) (reference : MobileConsumableRef)
  | load
  | reset

section Register

variable (keys : ReferenceCipher) (identityOf : EntryId → Option String)

/-- `backfill_mobile_consumable_if_current`. -/
def backfillIfCurrent (nonce : Nonce) (reference : MobileConsumableRef)
    (row : RegisterRow) : RegisterRow :=
  if row.consumableRefCiphertext = none ∧
      row.snapshotHash = reference.snapshotHash ∧
      row.entryId = reference.entryId then
    { row with consumableRefCiphertext := keys.sealRef nonce reference }
  else
    row

def RegisterAction.step (register : Option RegisterRow) :
    RegisterAction → Option (Option RegisterRow)
  | .advance env state mobileConsumable =>
      some (OpenClipboard.advance env register state mobileConsumable).2
  | .backfill nonce reference =>
      some (register.map (backfillIfCurrent keys nonce reference))
  | .load => some (register.map fun row =>
      { row with
        consumableRefCiphertext :=
          (keys.load row.consumableRefCiphertext).2 })
  | .reset => some (resetRegister register)

/-- An activation names an entry under the identity it is stored under. -/
def RegisterAction.Faithful (_register : Option RegisterRow) :
    RegisterAction → Prop
  | .advance env state _ => keys.Seals env ∧
      identityOf state.entryId = some state.snapshotHash
  | _ => True

/-- So does the row, and so does its reference. -/
structure NamesStored (row : RegisterRow) : Prop where
  current : identityOf row.entryId = some row.snapshotHash
  consumable : ∀ reference,
    (keys.load row.consumableRefCiphertext).1 = some (some reference) →
      identityOf reference.entryId = some reference.snapshotHash

def RegisterNamesStored (register : Option RegisterRow) : Prop :=
  ∀ row, register = some row → NamesStored keys identityOf row

variable {keys identityOf}
variable {register : Option RegisterRow}

theorem load_none (keys : ReferenceCipher) :
    keys.load none = (some none, none) := rfl

theorem load_after (keys : ReferenceCipher) (column : Option (List UInt8)) :
    (keys.load column).2 = column ∨ (keys.load column).2 = none := by
  unfold ReferenceCipher.load loadMobileConsumable
  cases column with
  | none => exact Or.inl rfl
  | some ciphertext =>
      cases deriveSubkey keys.hkdf keys.profile (some keys.masterKey)
          consumableHkdfInfo with
      | none => exact Or.inl rfl
      | some key =>
          simp only
          split
          · exact Or.inl rfl
          · exact Or.inr rfl

theorem namesStored_without
    (current : identityOf row.entryId = some row.snapshotHash)
    (without : row.consumableRefCiphertext = none) :
    NamesStored keys identityOf row := by
  refine ⟨current, ?_⟩
  intro reference loads
  rw [without, load_none] at loads
  cases loads

theorem namesStored_sealed {ciphertext : List UInt8}
    (current : identityOf row.entryId = some row.snapshotHash)
    (named : identityOf reference.entryId = some reference.snapshotHash)
    (isSealed : keys.sealRef nonce reference = some ciphertext)
    (held : row.consumableRefCiphertext = some ciphertext) :
    NamesStored keys identityOf row := by
  refine ⟨current, ?_⟩
  intro loaded loads
  rw [held, ReferenceCipher.load_sealRef isSealed] at loads
  have same : reference = loaded :=
    Option.some.inj (Option.some.inj loads)
  rw [← same]
  exact named

theorem namesStored_advance {env : AdvanceEnv} {state : ActiveClipboardState}
    {mobileConsumable : Bool} (seals : keys.Seals env)
    (named : identityOf state.entryId = some state.snapshotHash)
    (before : RegisterNamesStored keys identityOf register) :
    RegisterNamesStored keys identityOf
      (advance env register state mobileConsumable).2 := by
  unfold advance
  cases isSealed : sealConsumableRef env state mobileConsumable with
  | error failure => exact before
  | ok sealedRef =>
      simp only
      cases env.storageFailure with
      | some message => exact before
      | none =>
          simp only
          split
          · intro row isRow
            cases isRow
            cases sealedRef with
            | some ciphertext =>
                -- The column holds the reference to the new entry.
                unfold sealConsumableRef at isSealed
                cases mobileConsumable with
                | false => cases isSealed
                | true =>
                    rw [if_pos rfl] at isSealed
                    cases isCipher : env.cipher with
                    | error failure =>
                        rw [isCipher] at isSealed
                        cases isSealed
                    | ok sealing =>
                        simp only [isCipher] at isSealed
                        cases sealedAs : sealing
                            ⟨state.snapshotHash, state.entryId⟩ with
                        | error message =>
                            rw [sealedAs] at isSealed
                            cases isSealed
                        | ok bytes =>
                            rw [sealedAs] at isSealed
                            cases isSealed
                            obtain ⟨nonce, isReference⟩ :=
                              seals _ _ _ isCipher sealedAs
                            apply namesStored_sealed named named isReference
                            cases register with
                            | none => rfl
                            | some row => rfl
            | none =>
                cases register with
                | none => exact namesStored_without named rfl
                | some row =>
                    -- The column keeps the reference it had.
                    exact ⟨named, (before row rfl).consumable⟩
          · exact before

theorem namesStored_backfill (before : NamesStored keys identityOf row) :
    NamesStored keys identityOf (backfillIfCurrent keys nonce reference row) := by
  unfold backfillIfCurrent
  by_cases isCurrent : row.consumableRefCiphertext = none ∧
      row.snapshotHash = reference.snapshotHash ∧
      row.entryId = reference.entryId
  · rw [if_pos isCurrent]
    obtain ⟨_, sameHash, sameEntry⟩ := isCurrent
    have named : identityOf reference.entryId =
        some reference.snapshotHash := by
      rw [← sameHash, ← sameEntry]
      exact before.current
    cases isSealed : keys.sealRef nonce reference with
    | none => exact namesStored_without before.current rfl
    | some ciphertext =>
        exact namesStored_sealed before.current named isSealed rfl
  · rw [if_neg isCurrent]
    exact before

theorem namesStored_step {after : Option RegisterRow} {action : RegisterAction}
    (before : RegisterNamesStored keys identityOf register)
    (faithful : action.Faithful keys identityOf register)
    (stepped : RegisterAction.step keys register action = some after) :
    RegisterNamesStored keys identityOf after := by
  cases action with
  | advance env state mobileConsumable =>
      cases stepped
      exact namesStored_advance faithful.1 faithful.2 before
  | backfill nonce reference =>
      cases stepped
      intro row isRow
      obtain ⟨old, isOld, isNew⟩ := Option.map_eq_some_iff.mp isRow
      rw [← isNew]
      exact namesStored_backfill (before old isOld)
  | load =>
      cases stepped
      intro row isRow
      obtain ⟨old, isOld, isNew⟩ := Option.map_eq_some_iff.mp isRow
      have named := before old isOld
      rw [← isNew]
      rcases load_after keys old.consumableRefCiphertext with
        kept | discarded
      · refine ⟨named.current, ?_⟩
        intro reference loads
        rw [kept] at loads
        exact named.consumable reference loads
      · exact namesStored_without named.current discarded
  | reset =>
      cases stepped
      intro row isRow
      cases isRow

theorem namesStored_run {finish : Option RegisterRow}
    (run : Run (RegisterAction.step keys)
      (fun row action => action.Faithful keys identityOf row) register finish)
    (before : RegisterNamesStored keys identityOf register) :
    RegisterNamesStored keys identityOf finish := by
  apply run.preserves before
  intro middle action after named faithful stepped
  exact namesStored_step named faithful stepped

end Register

/-! ## The put -/

structure KeepsIdentities (identityOf : EntryId → Option String)
    (ports : InboundPorts) : Prop where
  finds : ∀ hash entryId,
    ports.findEntryIdBySnapshotHash hash = .ok (some entryId) →
      identityOf entryId = some hash
  captures : ∀ newId source snapshot digest entryId,
    ports.capture newId source snapshot (some digest) = .ok (some entryId) →
      identityOf entryId = some (ContentHash.formatBlake3v1 digest)
  replaces : ∀ existing source snapshot digest entryId,
    ports.replace existing source snapshot (some digest) = .ok (some entryId) →
      identityOf entryId = some (ContentHash.formatBlake3v1 digest)

section Put

variable {keys : ReferenceCipher} {identityOf : EntryId → Option String}
variable {ports : InboundPorts} {input : ApplyInboundInput} {digest : Digest}
variable {device after : InboundDevice}

def outcomeEntry : ApplyOutcome → Option EntryId
  | .applied entryId => some entryId
  | .resurfaced _ existing _ => some existing
  | _ => none

structure Delivered (keys : ReferenceCipher)
    (identityOf : EntryId → Option String) (input : ApplyInboundInput)
    (result : Except ApplyInboundError ApplyOutcome)
    (after : InboundDevice) : Prop where
  register : RegisterNamesStored keys identityOf after.register
  entry : ∀ outcome entryId, result = .ok outcome →
    outcomeEntry outcome = some entryId →
      identityOf entryId = some input.snapshotHash

theorem register_advanceActiveRegister {entryId : EntryId}
    {activatedAtMs : Int}
    (seals : ∀ env, ports.activeRegister = some env → keys.Seals env)
    (named : identityOf entryId = some input.snapshotHash)
    (before : RegisterNamesStored keys identityOf device.register) :
    RegisterNamesStored keys identityOf
      (advanceActiveRegister ports input entryId activatedAtMs
        device).register := by
  unfold advanceActiveRegister
  cases wired : ports.activeRegister with
  | none => exact before
  | some env =>
      exact namesStored_advance (seals env wired) named before

theorem register_writeOs (snapshot : SystemClipboardSnapshot) :
    (writeOs ports input snapshot device).register = device.register := by
  unfold writeOs
  split <;> rfl

theorem delivered_resurfaceHeldEntry {existing : EntryId}
    {activatedAtMs : Int}
    (seals : ∀ env, ports.activeRegister = some env → keys.Seals env)
    (named : identityOf existing = some input.snapshotHash)
    (before : RegisterNamesStored keys identityOf device.register) :
    Delivered keys identityOf input
      (.ok (resurfaceHeldEntry ports input existing activatedAtMs device).1)
      (resurfaceHeldEntry ports input existing activatedAtMs device).2 := by
  have names : ∀ outcome entryId, outcomeEntry outcome = some entryId →
      (outcomeEntry outcome = some existing ∨ outcomeEntry outcome = none) →
        identityOf entryId = some input.snapshotHash := by
    intro outcome entryId isEntry known
    rcases known with isExisting | isNone
    · rw [isExisting] at isEntry
      cases isEntry
      exact named
    · rw [isNone] at isEntry
      cases isEntry
  have known : outcomeEntry (resurfaceHeldEntry ports input existing
      activatedAtMs device).1 = some existing ∨
        outcomeEntry (resurfaceHeldEntry ports input existing activatedAtMs
          device).1 = none := by
    unfold resurfaceHeldEntry
    simp only
    split
    · exact Or.inr rfl
    · split
      · exact Or.inr rfl
      · split
        · exact Or.inr rfl
        · split
          · exact Or.inl rfl
          · exact Or.inl rfl
  constructor
  · unfold resurfaceHeldEntry
    simp only
    split
    · exact before
    · split
      · exact before
      · split
        · exact before
        · split
          · exact before
          · exact register_advanceActiveRegister seals named before
  · intro outcome entryId isOutcome isEntry
    cases isOutcome
    exact names _ entryId isEntry known

theorem named_commit {newId stored : EntryId}
    {snapshot : SystemClipboardSnapshot}
    (keeps : KeepsIdentities identityOf ports)
    (isHash : input.snapshotHash = ContentHash.formatBlake3v1 digest)
    (committed : commit ports input existing newId snapshot = .ok stored) :
    identityOf stored = some input.snapshotHash := by
  have parses : SnapshotHash.parse input.snapshotHash = some digest := by
    rw [isHash]
    exact SnapshotHash.parse_formatBlake3v1 digest
  unfold commit at committed
  simp only [parses] at committed
  rw [isHash]
  cases existing with
  | none =>
      simp only at committed
      split at committed
      · cases committed
      · rename_i captured
        cases committed
        exact keeps.captures _ _ _ _ _ captured
      · cases committed
  | some existing =>
      simp only at committed
      split at committed
      · cases committed
      · rename_i replaced
        cases committed
        exact keeps.replaces _ _ _ _ _ replaced
      · cases committed

theorem delivered_storeContent {newId : EntryId}
    {snapshot : SystemClipboardSnapshot} {isPartial : Bool}
    {visibleKey : Option String} (keeps : KeepsIdentities identityOf ports)
    (seals : ∀ env, ports.activeRegister = some env → keys.Seals env)
    (isHash : input.snapshotHash = ContentHash.formatBlake3v1 digest)
    (before : RegisterNamesStored keys identityOf device.register) :
    Delivered keys identityOf input
      (storeContent ports input existing newId snapshot isPartial visibleKey
        device).1
      (storeContent ports input existing newId snapshot isPartial visibleKey
        device).2 := by
  unfold storeContent
  cases committed : commit ports input existing newId snapshot with
  | error failure =>
      refine ⟨before, ?_⟩
      intro outcome entryId isOutcome
      cases isOutcome
  | ok stored =>
      have named := named_commit keeps isHash committed
      have entry : ∀ outcome entryId,
          (Except.ok (.applied stored) :
            Except ApplyInboundError ApplyOutcome) = .ok outcome →
          outcomeEntry outcome = some entryId →
            identityOf entryId = some input.snapshotHash := by
        intro outcome entryId isOutcome isEntry
        cases isOutcome
        cases isEntry
        exact named
      simp only
      split
      · exact ⟨before, entry⟩
      · refine ⟨?_, entry⟩
        unfold activateApplied
        rw [register_writeOs]
        exact register_advanceActiveRegister seals named before

theorem delivered_of_storeContent {newId : EntryId}
    {snapshot : SystemClipboardSnapshot} {isPartial : Bool}
    {visibleKey : Option String} (keeps : KeepsIdentities identityOf ports)
    (seals : ∀ env, ports.activeRegister = some env → keys.Seals env)
    (isHash : input.snapshotHash = ContentHash.formatBlake3v1 digest)
    (before : RegisterNamesStored keys identityOf device.register)
    (isStored : storeContent ports input existing newId snapshot isPartial
      visibleKey device = (result, after)) :
    Delivered keys identityOf input result after := by
  have delivered : Delivered keys identityOf input
      (storeContent ports input existing newId snapshot isPartial visibleKey
        device).1
      (storeContent ports input existing newId snapshot isPartial visibleKey
        device).2 :=
    delivered_storeContent keeps seals isHash before
  rw [isStored] at delivered
  exact delivered

theorem delivered_applyContent {envelope : ApplyInbound.Envelope}
    (keeps : KeepsIdentities identityOf ports)
    (seals : ∀ env, ports.activeRegister = some env → keys.Seals env)
    (isHash : input.snapshotHash = ContentHash.formatBlake3v1 digest)
    (before : RegisterNamesStored keys identityOf device.register)
    (applied : applyContent ports input existing envelope device =
      some (result, after)) :
    Delivered keys identityOf input result after := by
  have skipped : ∀ outcome, outcomeEntry outcome = none →
      Delivered keys identityOf input (.ok outcome) device := by
    intro outcome isNone
    refine ⟨before, ?_⟩
    intro other entryId isOutcome isEntry
    cases isOutcome
    rw [isNone] at isEntry
    cases isEntry
  unfold applyContent at applied
  simp only at applied
  split at applied
  · cases applied
  · rename_i unfinished isEnd
    cases applied
    refine ⟨before, ?_⟩
    intro outcome entryId isOutcome isEntry
    subst isOutcome
    -- A delivery that ends here did not decode.
    have reason : ∃ reason, outcome = .decodeFailed reason := by
      unfold materializePayload at isEnd
      split at isEnd
      · cases isEnd
      · split at isEnd
        · cases isEnd
          exact ⟨_, rfl⟩
        · split at isEnd
          · cases isEnd
          · simp only at isEnd
            split at isEnd
            · obtain ⟨actual, _, verified⟩ := Option.map_eq_some_iff.mp isEnd
              split at verified <;> cases verified
            · cases isEnd
    obtain ⟨reason, isReason⟩ := reason
    rw [isReason] at isEntry
    cases isEntry
  · split at applied
    · cases applied
    · split at applied
      · cases applied
        exact skipped _ rfl
      · exact delivered_of_storeContent keeps seals isHash before
          (Option.some.inj applied)
    · split at applied
      · cases applied
        exact skipped _ rfl
      · exact delivered_of_storeContent keeps seals isHash before
          (Option.some.inj applied)

theorem delivered_execute (keeps : KeepsIdentities identityOf ports)
    (seals : ∀ env, ports.activeRegister = some env → keys.Seals env)
    (isHash : input.snapshotHash = ContentHash.formatBlake3v1 digest)
    (before : RegisterNamesStored keys identityOf device.register)
    (executed : ApplyInbound.execute ports input device = some (result, after))
    :
    Delivered keys identityOf input result after := by
  unfold ApplyInbound.execute at executed
  simp only at executed
  split at executed
  · cases executed
    refine ⟨before, ?_⟩
    intro outcome entryId isOutcome isEntry
    cases isOutcome
    cases isEntry
  · split at executed
    · cases executed
      refine ⟨before, ?_⟩
      intro outcome entryId isOutcome
      cases isOutcome
    · apply delivered_applyContent keeps seals isHash ?_ executed
      exact before
    · rename_i existing found
      split at executed
      · cases executed
        exact delivered_resurfaceHeldEntry seals (keeps.finds _ _ found) before
      · apply delivered_applyContent keeps seals isHash ?_ executed
        exact before

variable {mobile : MobilePorts} {source : String}
variable {snapshot : SystemClipboardSnapshot}
variable {describe : ApplyIncomingMobileClipError → String}

/-- The ports of a device whose store keeps identities and whose registers are
sealed with this cipher. -/
structure KeepsNames (keys : ReferenceCipher)
    (identityOf : EntryId → Option String) (mobile : MobilePorts) : Prop where
  store : KeepsIdentities identityOf mobile.inbound
  inbound : ∀ env, mobile.inbound.activeRegister = some env → keys.Seals env
  announce : ∀ announce, mobile.announce = some announce →
    keys.Seals announce.advance

theorem named_dispatchInbound
    {result : Except ApplyIncomingMobileClipError
      ApplyIncomingMobileClipOutcome}
    (keeps : KeepsNames keys identityOf mobile)
    (before : RegisterNamesStored keys identityOf device.register)
    (dispatched : dispatchInbound mobile source snapshot device =
      some (result, after)) :
    RegisterNamesStored keys identityOf after.register ∧
      (∀ entryId contentId, result = .ok (.applied entryId contentId) →
        identityOf entryId = some contentId) ∧
      ∀ outcome entryId digest, result = .ok outcome →
        activatedEntry outcome = some entryId →
        snapshot.snapshotHash mobile.inbound.blake3
          mobile.inbound.readFile = some digest →
          identityOf entryId = some (ContentHash.formatBlake3v1 digest) := by
  unfold dispatchInbound at dispatched
  split at dispatched
  · cases dispatched
    refine ⟨before, ?_, ?_⟩
    · intro entryId contentId isError
      cases isError
    · intro outcome entryId other isError
      cases isError
  · cases dispatched
  · cases dispatched
  · rename_i plaintext digest fromDevice _ isDigest _
    split at dispatched
    · cases dispatched
    · rename_i failure left executed
      cases dispatched
      have delivered := delivered_execute keeps.store keeps.inbound rfl before
        executed
      refine ⟨delivered.register, ?_, ?_⟩
      · intro entryId contentId isError
        cases isError
      · intro outcome entryId other isError
        cases isError
    · rename_i outcome left executed
      cases dispatched
      have delivered := delivered_execute keeps.store keeps.inbound rfl before
        executed
      refine ⟨delivered.register, ?_, ?_⟩
      · intro entryId contentId isApplied
        cases outcome with
        | applied stored =>
            cases isApplied
            exact delivered.entry _ _ rfl rfl
        | resurfaced => cases isApplied
        | duplicateSkipped => cases isApplied
        | decodeFailed => cases isApplied
      · intro mapped entryId other isMapped isActivated isOther
        rw [isDigest] at isOther
        cases isOther
        cases isMapped
        cases outcome with
        | applied stored =>
            cases isActivated
            exact delivered.entry _ _ rfl rfl
        | resurfaced hash existing osWriteSucceeded =>
            cases osWriteSucceeded with
            | true =>
                cases isActivated
                exact delivered.entry _ _ rfl rfl
            | false => cases isActivated
        | duplicateSkipped => cases isActivated
        | decodeFailed => cases isActivated

theorem named_announceActivation
    {outcome : Except ApplyIncomingMobileClipError
      ApplyIncomingMobileClipOutcome} {digest : Option Digest}
    (keeps : KeepsNames keys identityOf mobile)
    (before : RegisterNamesStored keys identityOf device.register)
    (named : ∀ applied entryId known, outcome = .ok applied →
      activatedEntry applied = some entryId → digest = some known →
        identityOf entryId = some (ContentHash.formatBlake3v1 known)) :
    RegisterNamesStored keys identityOf
      (announceActivation mobile digest outcome device).register := by
  unfold announceActivation
  split
  · rename_i announce applied wired
    split
    · rename_i entryId known isEntry
      exact namesStored_advance (keeps.announce announce wired)
        (named applied entryId known rfl isEntry rfl) before
    · exact before
  · exact before

theorem named_syncDoc {env : StagingEnv} {nowMs : Int} {repId : String}
    {doc : SyncDoc} {uploads : Uploads} {step : MobileStep}
    (keeps : KeepsNames keys identityOf mobile)
    (before : RegisterNamesStored keys identityOf device.register)
    (handled : syncDoc env mobile nowMs repId source describe doc uploads
      device = some step) :
    RegisterNamesStored keys identityOf step.device.register ∧
      ∀ entryId contentId, step.result = .ok (.applied entryId contentId) →
        identityOf entryId = some contentId := by
  unfold syncDoc at handled
  split at handled
  · cases handled
    exact ⟨before, fun _ _ isApplied => by cases isApplied⟩
  · cases handled
    exact ⟨before, fun _ _ isApplied => by cases isApplied⟩
  · obtain ⟨⟨result, left⟩, dispatched, isStep⟩ :=
      Option.map_eq_some_iff.mp handled
    rw [← isStep]
    obtain ⟨register, applied, activated⟩ :=
      named_dispatchInbound keeps before dispatched
    exact ⟨named_announceActivation keeps register activated, applied⟩

end Put

/-! ## The get -/

section Get

variable {keys : ReferenceCipher} {identityOf : EntryId → Option String}
variable {ports : MobileSyncSnapshotPorts} {rep : LatestPasteRepresentation}

theorem latest_of_reference
    (found : ∀ id entry, ports.sources.getEntry id = .ok (some entry) →
      entry.entryId = id)
    (isLatest : latestPreviewRepresentation ports = .ok (some rep)) :
    ∃ reference, ports.consumable = .ok (some reference) ∧
      rep.entryId = reference.entryId ∧
      rep.snapshotHash = reference.snapshotHash := by
  unfold latestPreviewRepresentation at isLatest
  obtain ⟨loaded, isLoaded, later⟩ := PartialMap.bind_eq_ok_iff.mp isLatest
  cases loaded with
  | none => cases later
  | some reference =>
      have isReference : ports.consumable = .ok (some reference) := by
        unfold loadMobileConsumableRef at isLoaded
        split at isLoaded
        · rename_i held
          cases isLoaded
          exact held
        · cases isLoaded
        · cases isLoaded
      refine ⟨reference, isReference, ?_⟩
      obtain ⟨entry, isEntry, later⟩ := PartialMap.bind_eq_ok_iff.mp later
      cases entry with
      | none => cases later
      | some entry =>
          obtain ⟨selection, _, later⟩ := PartialMap.bind_eq_ok_iff.mp later
          cases selection with
          | none => cases later
          | some selection =>
              obtain ⟨stored, _, later⟩ := PartialMap.bind_eq_ok_iff.mp later
              cases stored with
              | none => cases later
              | some stored =>
                  obtain ⟨served, isServed, later⟩ :=
                    PartialMap.bind_eq_ok_iff.mp later
                  cases later
                  have isId := found _ _ isEntry
                  have isRep : rep.entryId = ⟨entry.entryId⟩ ∧
                      rep.snapshotHash = reference.snapshotHash := by
                    unfold materialize at isServed
                    simp only at isServed
                    split at isServed
                    · cases isServed
                    · cases isServed
                      exact ⟨rfl, rfl⟩
                    · obtain ⟨bytes, _, isRep⟩ :=
                        PartialMap.map_eq_ok_iff.mp isServed
                      rw [← isRep]
                      exact ⟨rfl, rfl⟩
                  rw [isId] at isRep
                  exact isRep

end Get

/-! ## The round -/

/-- An applied document, the register before and after it, and a get that finds
the entry still the latest. -/
structure PutThenGet (env : StagingEnv) where
  keys : ReferenceCipher
  identityOf : EntryId → Option String
  mobile : MobilePorts
  keeps : KeepsNames keys identityOf mobile
  nowMs : Int
  repId : String
  source : String
  describe : ApplyIncomingMobileClipError → String
  doc : SyncDoc
  uploads : Uploads
  device : InboundDevice
  history : Run (RegisterAction.step keys)
    (fun row action => action.Faithful keys identityOf row) none
      device.register
  step : MobileStep
  handled : syncDoc env mobile nowMs repId source describe doc uploads device =
    some step
  entryId : EntryId
  contentId : String
  applied : step.result = .ok (.applied entryId contentId)
  register : Option RegisterRow
  later : Run (RegisterAction.step keys)
    (fun row action => action.Faithful keys identityOf row)
      step.device.register register
  latest : MobileSyncSnapshotPorts
  loads : ∀ reference, latest.consumable = .ok (some reference) →
    ∃ row, register = some row ∧
      (keys.load row.consumableRefCiphertext).1 = some (some reference)
  found : ∀ id entry, latest.sources.getEntry id = .ok (some entry) →
    entry.entryId = id
  rep : LatestPasteRepresentation
  isLatest : latestPreviewRepresentation latest = .ok (some rep)
  stays : rep.entryId = entryId

theorem PutThenGet.contentId_eq {env : StagingEnv} (round : PutThenGet env) :
    round.rep.snapshotHash = round.contentId := by
  have fresh : RegisterNamesStored round.keys round.identityOf none := by
    intro row isRow
    cases isRow
  have named := named_syncDoc round.keeps (namesStored_run round.history fresh)
    round.handled
  have stored := named.2 _ _ round.applied
  obtain ⟨reference, isReference, sameEntry, sameHash⟩ :=
    latest_of_reference round.found round.isLatest
  obtain ⟨row, isRow, loaded⟩ := round.loads reference isReference
  have isNamed := (namesStored_run round.later named.1 row isRow).consumable
    reference loaded
  rw [← sameEntry, round.stays, stored] at isNamed
  rw [sameHash]
  exact (Option.some.inj isNamed).symm

end OpenClipboard.MobileSync
