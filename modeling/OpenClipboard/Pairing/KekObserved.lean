import OpenClipboard.Library.Transition
import OpenClipboard.Pairing.SpaceAccess

/-!
# When the observed KEK is the keyslot's

The flag spares the probe of the keychain and the refresh at an unlock, on the
ground that the keychain holds the KEK of the keyslot.  Making keys, joining,
unlocking and resuming set it on that evidence.  The probe sets it on a KEK
that it does not try on the keyslot, and a reset that fails halfway keeps it
without a keyslot.
-/

namespace OpenClipboard.Pairing

variable {fresh : FreshKeys} {passphrase : List UInt8}
  {fault : Option SecureStorageError} {faults : SpaceFaults}
  {profile : CurrentProfile} {spaceId : SpaceId}

section KekObserved

variable (crypto : KeyCrypto)

namespace DeviceKeys

def kekUnwraps (keys : DeviceKeys) : Bool :=
  match keys.keyslot.held with
  | none => false
  | some slot =>
      match keys.keychain.find (kekKey slot.scope) with
      | none => false
      | some kek =>
          match unwrapMasterKey crypto kek slot.wrappedMasterKey with
          | some (.ok _) => true
          | _ => false

def Truthful (keys : DeviceKeys) : Prop :=
  keys.kekObserved = true → keys.kekUnwraps crypto = true

/-- Once locked, and with a keychain and a disk that work, the session resumes
without a passphrase. -/
def ResumesSilently (keys : DeviceKeys) (profile : CurrentProfile) : Prop :=
  ∀ spaceId,
    (keys.lock.tryResumeSession crypto spaceId profile .none).1 =
      some (.ok (some ⟨spaceId⟩))

structure FlagHonest (keys : DeviceKeys) : Prop where
  truthful : keys.Truthful crypto
  unlocked : ∀ spaceId passphrase profile faults active,
    (keys.unlockSpace crypto spaceId passphrase profile faults).1 =
        some (.ok active) →
      let after :=
        (keys.unlockSpace crypto spaceId passphrase profile faults).2
      after.kekObserved = false ∨ after.ResumesSilently crypto profile

def resetRemovesKeyslot (keys : DeviceKeys) (scope : KeyScope)
    (faults : SpaceFaults) : Bool :=
  keys.keyslot.held.any (·.scope == scope) && faults.loadKeyslot.isNone &&
    faults.deleteKeyslot != some .load &&
    faults.deleteKeyslot != some .removeFile

/-- What comes after the keyslot file fails: its directory stays, or the KEK
does. -/
def resetStops (keys : DeviceKeys) (faults : SpaceFaults) : Bool :=
  (keys.keyslot.isDirectory &&
    faults.deleteKeyslot == some .removeDirectory) ||
    faults.deleteKek.isSome

/-- The probe reads a KEK while that of the keyslot is not there, or the reset
fails between keyslot and flag. -/
def misleads (keys : DeviceKeys) : SpaceIntent → Bool
  | .verifyKeychainAccess (.ok scope) faults =>
      !keys.kekObserved && faults.loadKek.isNone &&
        (keys.keychain.find (kekKey scope)).isSome &&
        !keys.kekUnwraps crypto
  | .factoryReset (.ok scope) faults =>
      keys.kekObserved && keys.resetRemovesKeyslot scope faults &&
        keys.resetStops faults
  | _ => false

end DeviceKeys

/-! ## The KEK and the keyslot -/

variable {crypto} {keys : DeviceKeys} {slot : KeySlotFile} {kek : MasterKey}
variable {masterKey : MasterKey} {offered : OfferedKeys}

theorem DeviceKeys.kekUnwraps_of (isHeld : keys.keyslot.held = some slot)
    (isKek : keys.keychain.find (kekKey slot.scope) = some kek)
    (opens : unwrapMasterKey crypto kek slot.wrappedMasterKey =
      some (.ok masterKey)) :
    keys.kekUnwraps crypto = true := by
  simp only [kekUnwraps, isHeld, isKek, opens]

theorem DeviceKeys.kekUnwraps_iff :
    keys.kekUnwraps crypto = true ↔
      ∃ slot kek masterKey, keys.keyslot.held = some slot ∧
        keys.keychain.find (kekKey slot.scope) = some kek ∧
        unwrapMasterKey crypto kek slot.wrappedMasterKey =
          some (.ok masterKey) := by
  constructor
  · intro unwraps
    unfold kekUnwraps at unwraps
    split at unwraps
    · cases unwraps
    · rename_i slot isHeld
      split at unwraps
      · cases unwraps
      · rename_i kek isKek
        split at unwraps
        · rename_i masterKey opens
          exact ⟨slot, kek, masterKey, isHeld, isKek, opens⟩
        · cases unwraps
  · rintro ⟨slot, kek, masterKey, isHeld, isKek, opens⟩
    exact kekUnwraps_of isHeld isKek opens

theorem unwrapMasterKey_wrapMasterKey {nonce : Nonce} :
    unwrapMasterKey crypto kek (wrapMasterKey crypto kek masterKey nonce) =
      some (.ok masterKey) := by
  simp only [unwrapMasterKey, wrapMasterKey, Nonce.ofBytes_bytes,
    Option.map_some, crypto.aead.decrypt_encrypt, masterKeyFromBytes]
  rw [dif_pos masterKey.length_eq]

def OfferedKeys.Match (crypto : KeyCrypto) (offered : OfferedKeys) : Prop :=
  unwrapMasterKey crypto offered.kek offered.slot.wrappedMasterKey =
    some (.ok offered.masterKey)

theorem createKeys_match {scope : KeyScope}
    (created : createKeys crypto scope passphrase fresh = .ok offered) :
    offered.Match crypto := by
  unfold createKeys at created
  split at created
  · cases created
  · split at created
    · cases created
    · split at created
      · cases created
      · cases created
        exact unwrapMasterKey_wrapMasterKey

theorem openOffer_match {keyslotBlob passphrase : List UInt8}
    (opened : openOffer crypto keyslotBlob passphrase = some (.ok offered)) :
    offered.Match crypto := by
  unfold openOffer at opened
  split at opened
  · cases opened
  · split at opened
    · cases opened
    · split at opened
      · cases opened
      · rename_i kek _
        obtain ⟨unwrapped, opens, isOffered⟩ := Option.map_eq_some_iff.mp opened
        cases unwrapped with
        | error error => cases isOffered
        | ok masterKey =>
            cases isOffered
            exact opens

theorem KeySlotDisk.loadKeyslot_ok {disk : KeySlotDisk} {scope : KeyScope}
    {fault : Option LoadFault} (loaded : disk.loadKeyslot scope fault = .ok slot) :
    disk.held = some slot ∧ slot.scope = scope := by
  unfold loadKeyslot load at loaded
  cases isHeld : disk.held with
  | none => simp [isHeld] at loaded
  | some held =>
      cases fault with
      | some fault => simp [isHeld] at loaded
      | none =>
          by_cases sameScope : held.scope = scope
          · simp only [isHeld, ne_eq, sameScope, not_true_eq_false,
              if_false, Except.ok.injEq] at loaded
            rw [← loaded]
            exact ⟨rfl, sameScope⟩
          · simp [isHeld, sameScope] at loaded

theorem DeviceKeys.loadKek_ok {scope : KeyScope}
    (loaded : keys.loadKek scope fault = .ok kek) :
    keys.keychain.find (kekKey scope) = some kek := by
  unfold loadKek at loaded
  split at loaded
  · cases loaded
  · cases loaded
  · rename_i isKek
    cases loaded
    exact isKek

/-! ## What each intent does to the flag -/

theorem DeviceKeys.truthful_of_unobserved (unobserved : keys.kekObserved = false) :
    keys.Truthful crypto := by
  intro observed
  rw [unobserved] at observed
  cases observed

theorem DeviceKeys.truthful_replace {faults : StorageFaults}
    (isMatch : offered.Match crypto) (truthful : keys.Truthful crypto) :
    (keys.replace offered faults).2.Truthful crypto := by
  unfold replace storeKek
  cases faults.storeKek with
  | some error => exact truthful
  | none =>
      cases fails : keys.keyslot.storeFails faults.storeKeyslot with
      | true =>
          simp only [KeySlotDisk.store_of_fails fails]
          exact truthful_of_unobserved rfl
      | false =>
          simp only [KeySlotDisk.store_of_not_fails fails]
          intro observed
          exact kekUnwraps_of rfl Table.find_put_self isMatch

theorem DeviceKeys.truthful_doFirstTimeInit {scope : KeyScope}
    {passphrase : List UInt8} {fresh : FreshKeys} {faults : SpaceFaults}
    (truthful : keys.Truthful crypto) :
    (keys.doFirstTimeInit crypto scope passphrase fresh
      faults).2.Truthful crypto := by
  unfold doFirstTimeInit
  split
  · exact truthful
  · rename_i offered created
    have replaced := @truthful_replace crypto keys offered
      faults.toStorageFaults (createKeys_match created) truthful
    split
    · rename_i failed
      rw [failed] at replaced
      exact replaced
    · rename_i done
      rw [done] at replaced
      exact replaced

theorem DeviceKeys.truthful_initializeSpace (truthful : keys.Truthful crypto) :
    (keys.initializeSpace crypto spaceId passphrase profile fresh
      faults).2.Truthful crypto := by
  unfold initializeSpace
  split
  · exact truthful
  · exact truthful
  · split
    · exact truthful
    · rename_i _ scope
      have created := @truthful_doFirstTimeInit crypto keys scope passphrase
        fresh faults truthful
      split
      · rename_i failed
        rw [failed] at created
        exact created
      · rename_i done
        rw [done] at created
        exact created

theorem DeviceKeys.truthful_prepareJoinOffer {toVec : KeySlot → List UInt8}
    (truthful : keys.Truthful crypto) :
    (keys.prepareJoinOffer crypto toVec spaceId passphrase profile fresh
      faults).2.Truthful crypto := by
  unfold prepareJoinOffer
  split
  · exact truthful
  · split
    · exact truthful
    · rename_i _ scope
      have created := @truthful_doFirstTimeInit crypto keys scope passphrase
        fresh faults truthful
      split
      · split
        · exact truthful
        · exact truthful
      · split
        · rename_i failed
          rw [failed] at created
          exact created
        · rename_i done
          rw [done] at created
          exact created

theorem DeviceKeys.truthful_deriveMasterKeyForProof
    {keyslotBlob passphrase : List UInt8} {faults : StorageFaults}
    (truthful : keys.Truthful crypto) :
    (deriveMasterKeyForProof crypto keys keyslotBlob passphrase
      faults).2.Truthful crypto := by
  unfold deriveMasterKeyForProof
  split
  · exact truthful
  · exact truthful
  · rename_i offered opened
    have replaced := @truthful_replace crypto keys offered faults
      (openOffer_match opened) truthful
    split
    · rename_i failed
      rw [failed] at replaced
      exact replaced
    · rename_i done
      rw [done] at replaced
      exact replaced

/-- A keyslot that the passphrase opens is the one on disk, of the profile, and
its KEK unwraps it. -/
theorem openKeyslot_ok {held : Option KeySlotFile} {scope : KeyScope}
    (opened : openKeyslot crypto held scope passphrase =
      some (.ok (kek, masterKey))) :
    ∃ slot, held = some slot ∧ slot.scope = scope ∧
      unwrapMasterKey crypto kek slot.wrappedMasterKey =
        some (.ok masterKey) := by
  unfold openKeyslot at opened
  split at opened
  · cases opened
  · rename_i slot
    split at opened
    · cases opened
    · rename_i sameScope
      split at opened
      · cases opened
      · obtain ⟨unwrapped, opens, isOpened⟩ := Option.map_eq_some_iff.mp opened
        cases unwrapped with
        | error error => cases isOpened
        | ok masterKey =>
            cases isOpened
            exact ⟨slot, rfl, not_not.mp sameScope, opens⟩

/-- An unlock either leaves the keys as they were or opens the session, with
the keyslot that it was opened with and a flag that is clear or truthful. -/
theorem DeviceKeys.unlock_cases {scope : KeyScope} {passphrase : List UInt8}
    {refreshFault : Option SecureStorageError}
    (truthful : keys.Truthful crypto) :
    ((keys.unlock crypto scope passphrase refreshFault).1 ≠ some (.ok ()) ∧
        (keys.unlock crypto scope passphrase refreshFault).2 = keys) ∨
      ((keys.unlock crypto scope passphrase refreshFault).2.Truthful crypto ∧
        ∃ slot, slot.scope = scope ∧
          (keys.unlock crypto scope passphrase
            refreshFault).2.keyslot.held = some slot) := by
  unfold unlock
  cases opened : openKeyslot crypto keys.keyslot.held scope passphrase with
  | none => exact Or.inl ⟨nofun, rfl⟩
  | some result =>
      cases result with
      | error error => exact Or.inl ⟨nofun, rfl⟩
      | ok pair =>
          obtain ⟨slot, isHeld, sameScope, opens⟩ := openKeyslot_ok opened
          right
          by_cases observed : keys.kekObserved = true
          · simp only [if_pos observed]
            exact ⟨truthful, slot, sameScope, isHeld⟩
          · simp only [if_neg observed]
            cases refreshFault with
            | some error => exact ⟨truthful, slot, sameScope, isHeld⟩
            | none =>
                refine ⟨?_, slot, sameScope, isHeld⟩
                intro _
                refine @kekUnwraps_of crypto _ slot pair.1 pair.2 isHeld ?_
                  opens
                rw [sameScope]
                exact Table.find_put_self

theorem DeviceKeys.resumesSilently_of_unwraps {scope : KeyScope}
    (isHeld : keys.keyslot.held = some slot) (sameScope : slot.scope = scope)
    (unwraps : keys.kekUnwraps crypto = true) :
    keys.ResumesSilently crypto (.ok scope) := by
  obtain ⟨held, kek, masterKey, isOther, isKek, opens⟩ :=
    kekUnwraps_iff.mp unwraps
  rw [isHeld] at isOther
  cases isOther
  rw [sameScope] at isKek
  intro spaceId
  simp [tryResumeSession, lock, SpaceFaults.none, KeySlotDisk.keyslotExists,
    KeySlotDisk.loadKeyslot, KeySlotDisk.load, loadKek, isHeld, sameScope,
    isKek, opens]

theorem DeviceKeys.truthful_unlockSpace (truthful : keys.Truthful crypto) :
    (keys.unlockSpace crypto spaceId passphrase profile
      faults).2.Truthful crypto := by
  unfold unlockSpace
  split
  · exact truthful
  · exact truthful
  · split
    · exact truthful
    · split
      · exact truthful
      · rename_i _ scope _ _ _
        have kept : (keys.unlock crypto scope passphrase
            faults.storeKek).2.Truthful crypto := by
          rcases @unlock_cases crypto keys scope passphrase faults.storeKek
              truthful with ⟨_, same⟩ | ⟨kept, _⟩
          · rw [same]
            exact truthful
          · exact kept
        split
        · rename_i panicked
          rw [panicked] at kept
          exact kept
        · rename_i failed
          rw [failed] at kept
          exact kept
        · rename_i done
          rw [done] at kept
          exact kept

theorem DeviceKeys.flagHonest_of_truthful (truthful : keys.Truthful crypto) :
    keys.FlagHonest crypto := by
  refine ⟨truthful, ?_⟩
  intro spaceId passphrase profile faults active
  unfold unlockSpace
  split
  · nofun
  · nofun
  · split
    · nofun
    · split
      · nofun
      · rename_i _ scope _ _ _
        have stepped := @unlock_cases crypto keys scope passphrase
          faults.storeKek truthful
        split
        · nofun
        · nofun
        · rename_i after done
          intro _
          rw [done] at stepped
          rcases stepped with ⟨isOther, _⟩ | ⟨kept, slot, sameScope, isHeld⟩
          · exact absurd rfl isOther
          · by_cases observed : after.kekObserved = true
            · exact Or.inr (resumesSilently_of_unwraps isHeld sameScope
                (kept observed))
            · exact Or.inl (Bool.not_eq_true _ ▸ observed)

theorem DeviceKeys.flagHonest_iff :
    keys.FlagHonest crypto ↔ keys.Truthful crypto :=
  ⟨FlagHonest.truthful, flagHonest_of_truthful⟩

theorem DeviceKeys.truthful_tryResumeSession (truthful : keys.Truthful crypto) :
    (keys.tryResumeSession crypto spaceId profile
      faults).2.Truthful crypto := by
  unfold tryResumeSession
  split
  · exact truthful
  · split
    · exact truthful
    · exact truthful
    · split
      · exact truthful
      · split
        · exact truthful
        · exact truthful
        · rename_i _ scope _ _ slot kek loaded loadedKek
          split
          · exact truthful
          · exact truthful
          · rename_i masterKey opens
            intro _
            obtain ⟨isHeld, sameScope⟩ := KeySlotDisk.loadKeyslot_ok loaded
            apply kekUnwraps_of isHeld _ opens
            rw [sameScope]
            exact loadKek_ok loadedKek

/-! ## Where the flag misleads -/

theorem DeviceKeys.verifyKeychainAccess_keys {scope : KeyScope} :
    (keys.verifyKeychainAccess (.ok scope) faults).2 =
      { keys with kekObserved := keys.kekObserved ||
          (faults.loadKek.isNone &&
            (keys.keychain.find (kekKey scope)).isSome) } := by
  obtain ⟨keyslot, keychain, session, kekObserved⟩ := keys
  unfold verifyKeychainAccess loadKek
  cases kekObserved with
  | true => rfl
  | false =>
      cases faults.loadKek with
      | some error => cases error <;> rfl
      | none =>
          cases isKek : keychain.find (kekKey scope) with
          | none => simp [isKek]
          | some kek => simp [isKek]

theorem DeviceKeys.truthful_verifyKeychainAccess_iff
    (truthful : keys.Truthful crypto) :
    (keys.verifyKeychainAccess profile faults).2.Truthful crypto ↔
      keys.misleads crypto (.verifyKeychainAccess profile faults) = false := by
  cases profile with
  | error message =>
      have unchanged : (keys.verifyKeychainAccess (.error message)
          faults).2 = keys := by
        unfold verifyKeychainAccess
        split <;> rfl
      rw [unchanged]
      exact iff_of_true truthful rfl
  | ok scope =>
      rw [verifyKeychainAccess_keys]
      have sameUnwraps (observed : Bool) :
          { keys with kekObserved := observed }.kekUnwraps crypto =
            keys.kekUnwraps crypto := rfl
      simp only [Truthful, misleads, sameUnwraps]
      by_cases observed : keys.kekObserved = true
      · simp [observed, truthful observed]
      · simp [observed]

theorem DeviceKeys.kekUnwraps_of_missing (isMissing : keys.keyslot.held = none) :
    keys.kekUnwraps crypto = false := by
  simp only [kekUnwraps, isMissing]

theorem DeviceKeys.deleteKeyslot_of_removes {scope : KeyScope}
    (removes : keys.resetRemovesKeyslot scope faults = true) :
    keys.keyslot.deleteKeyslot scope faults.loadKeyslot faults.deleteKeyslot =
      if keys.keyslot.isDirectory &&
          faults.deleteKeyslot == some .removeDirectory then
        (.error .ioFailure, .directory none)
      else
        (.ok (), .missing) := by
  unfold resetRemovesKeyslot at removes
  simp only [Bool.and_eq_true, Option.any_eq_true, beq_iff_eq,
    Option.isNone_iff_eq_none, bne_iff_ne] at removes
  obtain ⟨⟨⟨⟨slot, isHeld, sameScope⟩, noFault⟩, loads⟩, removesFile⟩ := removes
  unfold KeySlotDisk.deleteKeyslot KeySlotDisk.load
  rw [isHeld, noFault]
  cases isFault : faults.deleteKeyslot with
  | none => simp [KeySlotDisk.delete, isHeld, sameScope]
  | some fault =>
      cases fault with
      | load => exact absurd isFault loads
      | removeFile => exact absurd isFault removesFile
      | removeDirectory =>
          by_cases isDirectory : keys.keyslot.isDirectory = true
          · simp [KeySlotDisk.delete, isHeld, sameScope, isDirectory]
          · simp [KeySlotDisk.delete, isHeld, sameScope, isDirectory]

theorem DeviceKeys.deleteKeyslot_of_not_removes {scope : KeyScope}
    (isHeld : keys.keyslot.held = some slot)
    (removes : keys.resetRemovesKeyslot scope faults = false) :
    (keys.keyslot.deleteKeyslot scope faults.loadKeyslot
        faults.deleteKeyslot).2 = keys.keyslot ∧
      (keys.keyslot.deleteKeyslot scope faults.loadKeyslot
        faults.deleteKeyslot).1 ≠ .ok () := by
  unfold KeySlotDisk.deleteKeyslot KeySlotDisk.load
  rw [isHeld]
  cases isFault : faults.loadKeyslot with
  | some fault => exact ⟨rfl, nofun⟩
  | none =>
      by_cases sameScope : slot.scope = scope
      · have fails : faults.deleteKeyslot = some .load ∨
            faults.deleteKeyslot = some .removeFile := by
          by_contra works
          rw [not_or] at works
          simp [resetRemovesKeyslot, isHeld, sameScope, isFault, works]
            at removes
        rcases fails with fails | fails
        · simp [fails, KeySlotDisk.delete, isHeld]
        · simp [fails, KeySlotDisk.delete, isHeld, sameScope]
      · cases faults.deleteKeyslot with
        | none => simp [KeySlotDisk.delete, isHeld, sameScope]
        | some fault =>
            cases fault <;> simp [KeySlotDisk.delete, isHeld, sameScope]

theorem DeviceKeys.unobserved_forgetKek {scope : KeyScope}
    (unobserved : keys.kekObserved = false) :
    (keys.forgetKek scope fault).2.kekObserved = false := by
  cases fault with
  | none => rfl
  | some error => exact unobserved

theorem DeviceKeys.truthful_forgetKek {scope : KeyScope}
    (truthful : keys.Truthful crypto) :
    (keys.forgetKek scope fault).2.Truthful crypto := by
  cases fault with
  | none => exact truthful_of_unobserved rfl
  | some error => exact truthful

theorem DeviceKeys.unobserved_factoryReset
    (unobserved : keys.kekObserved = false) :
    (keys.factoryReset profile faults).2.kekObserved = false := by
  unfold factoryReset
  split
  · exact unobserved
  · split
    · exact unobserved_forgetKek unobserved
    · exact unobserved_forgetKek unobserved
    · exact unobserved

theorem DeviceKeys.truthful_factoryReset_of_removes {scope : KeyScope}
    (observed : keys.kekObserved = true)
    (removes : keys.resetRemovesKeyslot scope faults = true) :
    (keys.factoryReset (.ok scope) faults).2.Truthful crypto ↔
      keys.resetStops faults = false := by
  unfold factoryReset
  simp only [deleteKeyslot_of_removes removes]
  by_cases stays : (keys.keyslot.isDirectory &&
      faults.deleteKeyslot == some .removeDirectory) = true
  · simp only [if_pos stays]
    apply iff_of_false
    · intro truthful
      have unwraps := truthful observed
      rw [kekUnwraps_of_missing rfl] at unwraps
      cases unwraps
    · simp [resetStops, stays]
  · simp only [if_neg stays]
    rw [Bool.not_eq_true] at stays
    cases isFault : faults.deleteKek with
    | none =>
        apply iff_of_true
        · exact truthful_of_unobserved rfl
        · simp [resetStops, stays, isFault]
    | some error =>
        apply iff_of_false
        · intro truthful
          have unwraps := truthful observed
          rw [kekUnwraps_of_missing rfl] at unwraps
          cases unwraps
        · simp [resetStops, stays, isFault]

theorem DeviceKeys.truthful_factoryReset_of_not_removes {scope : KeyScope}
    (isHeld : keys.keyslot.held = some slot) (truthful : keys.Truthful crypto)
    (removes : keys.resetRemovesKeyslot scope faults = false) :
    (keys.factoryReset (.ok scope) faults).2.Truthful crypto := by
  obtain ⟨sameDisk, fails⟩ := deleteKeyslot_of_not_removes isHeld removes
  unfold factoryReset
  simp only
  split
  · rename_i deleted
    rw [deleted] at fails
    exact absurd rfl fails
  · rename_i deleted
    rw [deleted] at sameDisk
    cases sameDisk
    exact truthful_forgetKek truthful
  · rename_i deleted
    rw [deleted] at sameDisk
    cases sameDisk
    exact truthful

theorem DeviceKeys.truthful_factoryReset_iff (truthful : keys.Truthful crypto) :
    (keys.factoryReset profile faults).2.Truthful crypto ↔
      keys.misleads crypto (.factoryReset profile faults) = false := by
  cases profile with
  | error message => exact iff_of_true truthful rfl
  | ok scope =>
      by_cases observed : keys.kekObserved = true
      · obtain ⟨slot, _, _, isHeld, _⟩ := kekUnwraps_iff.mp (truthful observed)
        cases removes : keys.resetRemovesKeyslot scope faults with
        | true =>
            rw [truthful_factoryReset_of_removes observed removes]
            simp [misleads, observed, removes]
        | false =>
            apply iff_of_true
            · exact truthful_factoryReset_of_not_removes isHeld truthful removes
            · simp [misleads, removes]
      · rw [Bool.not_eq_true] at observed
        apply iff_of_true
        · exact truthful_of_unobserved (unobserved_factoryReset observed)
        · simp [misleads, observed]

/-! ## Whole runs -/

/-- An intent carried out; none is refused. -/
def DeviceKeys.step (crypto : KeyCrypto) (toVec : KeySlot → List UInt8)
    (keys : DeviceKeys) (intent : SpaceIntent) : Option DeviceKeys :=
  some (keys.carryOut crypto toVec intent)

/-- From a truthful flag an intent leaves a truthful one unless it misleads. -/
theorem DeviceKeys.truthful_carryOut_iff {toVec : KeySlot → List UInt8}
    {intent : SpaceIntent} (truthful : keys.Truthful crypto) :
    (keys.carryOut crypto toVec intent).Truthful crypto ↔
      keys.misleads crypto intent = false := by
  cases intent with
  | initializeSpace spaceId passphrase profile fresh faults =>
      exact iff_of_true (truthful_initializeSpace truthful) rfl
  | unlock spaceId passphrase profile faults =>
      exact iff_of_true (truthful_unlockSpace truthful) rfl
  | lock => exact iff_of_true truthful rfl
  | tryResumeSession spaceId profile faults =>
      exact iff_of_true (truthful_tryResumeSession truthful) rfl
  | verifyKeychainAccess profile faults =>
      exact truthful_verifyKeychainAccess_iff truthful
  | prepareJoinOffer spaceId passphrase profile fresh faults =>
      exact iff_of_true (truthful_prepareJoinOffer truthful) rfl
  | deriveMasterKeyForProof offer passphrase faults =>
      exact iff_of_true (truthful_deriveMasterKeyForProof truthful) rfl
  | factoryReset profile faults => exact truthful_factoryReset_iff truthful

end KekObserved

/-! ## A KEK that drifted -/

namespace Drift

/-- A passphrase fills the KEK with its first byte. -/
def crypto : KeyCrypto where
  fromSlice _ := none
  hashPasswordInto _ passphrase _ :=
    .ok (sampleKey (passphrase.headD 0))
  aead := transparentAead
  hmac masterKey payload := masterKey.bytes ++ payload

def scope : KeyScope := ⟨"default"⟩

/-- The keyslot is wrapped under the new passphrase and the keychain holds the
KEK of the one before. -/
def keys : DeviceKeys where
  keyslot := .file {
    version := "V1"
    scope := scope
    kdf := .forInitialization
    salt := List.replicate 16 0
    wrappedMasterKey := wrapMasterKey crypto (sampleKey 2) (sampleKey 7)
      sampleNonce }
  keychain := (∅ : Table String MasterKey).put (kekKey scope) (sampleKey 1)
  session := none
  kekObserved := false

def probe : SpaceIntent := .verifyKeychainAccess (.ok scope) .none

def unlock : SpaceIntent := .unlock ⟨"space"⟩ [2] (.ok scope) .none

end Drift

end OpenClipboard.Pairing
