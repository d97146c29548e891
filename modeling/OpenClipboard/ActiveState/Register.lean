import OpenClipboard.Core.ActiveState

/-!
# The stored register and its compare-and-set

The register is one row.  `advance` replaces it in one transaction when the
incoming key supersedes the stored one; the shadow reference for limited
consumers is sealed before the transaction and only overwritten when the new
content is consumable.  Up to the local entry handle a successful `advance` is
an offer to a last-writer-wins register.
-/

namespace OpenClipboard

inductive ActiveClipboardRegisterError where
  | notUnlocked
  | storage (message : String)
  deriving DecidableEq, Repr

structure RegisterRow where
  snapshotHash : String
  entryId : EntryId
  activatedAtMs : Int
  activatedBy : DeviceId
  consumableRefCiphertext : Option (List UInt8)
  deriving DecidableEq, Repr

/-- What the cipher and the database answer to one `advance`. -/
structure AdvanceEnv where
  /-- `self.cipher()`, with the `seal` of the cipher it gives. -/
  cipher : Except ActiveClipboardRegisterError
    (MobileConsumableRef → Except String (List UInt8))
  /-- The error of the transaction, if it fails. -/
  storageFailure : Option String

namespace RegisterRow

/-- `LoadActiveClipboardPort::load` of the row. -/
def load (row : RegisterRow) : ActiveClipboardState where
  snapshotHash := row.snapshotHash
  entryId := row.entryId
  activatedAtMs := row.activatedAtMs
  activatedBy := row.activatedBy

def activation (row : RegisterRow) : Activation :=
  row.load.activation

end RegisterRow

def sealConsumableRef (env : AdvanceEnv) (state : ActiveClipboardState)
    (mobileConsumable : Bool) :
    Except ActiveClipboardRegisterError (Option (List UInt8)) :=
  if mobileConsumable then
    match env.cipher with
    | .error err => .error err
    | .ok sealing =>
        match sealing ⟨state.snapshotHash, state.entryId⟩ with
        | .error message => .error (.storage message)
        | .ok ciphertext => .ok (some ciphertext)
  else
    .ok none

/-- The comparison inside the transaction. -/
def shouldAdvance (current : Option RegisterRow)
    (state : ActiveClipboardState) : Bool :=
  match current with
  | none => true
  | some row =>
      decide (row.activatedAtMs < state.activatedAtMs) ||
        (state.activatedAtMs == row.activatedAtMs &&
          decide (row.activatedBy.asStr < state.activatedBy.asStr))

def advancedRow (current : Option RegisterRow) (state : ActiveClipboardState)
    (sealedRef : Option (List UInt8)) : RegisterRow where
  snapshotHash := state.snapshotHash
  entryId := state.entryId
  activatedAtMs := state.activatedAtMs
  activatedBy := state.activatedBy
  consumableRefCiphertext :=
    match current, sealedRef with
    | none, sealedRef => sealedRef
    | some _, some ciphertext => some ciphertext
    | some row, none => row.consumableRefCiphertext

/-- `AdvanceActiveClipboardPort::advance`: the result and the row after it. -/
def advance (env : AdvanceEnv) (current : Option RegisterRow)
    (state : ActiveClipboardState) (mobileConsumable : Bool) :
    Except ActiveClipboardRegisterError Bool × Option RegisterRow :=
  match sealConsumableRef env state mobileConsumable with
  | .error err => (.error err, current)
  | .ok sealedRef =>
      match env.storageFailure with
      | some message => (.error (.storage message), current)
      | none =>
          if shouldAdvance current state then
            (.ok true, some (advancedRow current state sealedRef))
          else
            (.ok false, current)

/-- `ResetActiveClipboardPort::reset`: drop the row whatever its key. -/
def resetRegister (_current : Option RegisterRow) : Option RegisterRow :=
  none

/-! ## What one `advance` does -/

def registerActivation (row : Option RegisterRow) : Option Activation :=
  row.map RegisterRow.activation

def registerRank (row : Option RegisterRow) : WithBot (Int ×ₗ String) :=
  LastWriter.rank Activation.key (registerActivation row)

theorem shouldAdvance_some_iff
    (row : RegisterRow) (state : ActiveClipboardState) :
    shouldAdvance (some row) state = true ↔
      row.activation.key < state.activation.key := by
  unfold shouldAdvance RegisterRow.activation RegisterRow.load
    Activation.key ActiveClipboardState.activation
  rw [Prod.Lex.toLex_lt_toLex]
  simp only [Bool.or_eq_true, Bool.and_eq_true, decide_eq_true_eq,
    beq_iff_eq, eq_comm (a := row.activatedAtMs)]

variable {current after : Option RegisterRow} {env : AdvanceEnv}
  {mobileConsumable : Bool} {state : ActiveClipboardState}

theorem advance_cases {result : Except ActiveClipboardRegisterError Bool}
    (advanced : advance env current state mobileConsumable =
      (result, after)) :
    (∃ err, result = .error err ∧ after = current) ∨
      (result = .ok true ∧ shouldAdvance current state = true ∧
        registerActivation after = some state.activation) ∨
      (result = .ok false ∧ shouldAdvance current state = false ∧
        after = current) := by
  unfold advance at advanced
  split at advanced
  · rename_i err _
    cases advanced
    exact Or.inl ⟨err, rfl, rfl⟩
  · split at advanced
    · rename_i message _
      cases advanced
      exact Or.inl ⟨.storage message, rfl, rfl⟩
    · split at advanced
      · rename_i wins
        cases advanced
        exact Or.inr (Or.inl ⟨rfl, wins, rfl⟩)
      · rename_i loses
        cases advanced
        exact Or.inr (Or.inr ⟨rfl, by simpa using loses, rfl⟩)

theorem advance_ok {mobileConsumable won : Bool}
    (advanced : advance env current state mobileConsumable =
      (.ok won, after)) :
    registerActivation after =
      LastWriter.offer Activation.key (registerActivation current)
        state.activation := by
  rcases advance_cases advanced with
    ⟨err, failed, _⟩ | ⟨_, wins, held⟩ | ⟨_, loses, kept⟩
  · cases failed
  · rw [held]
    cases current with
    | none => rfl
    | some row =>
        have newer := (shouldAdvance_some_iff row state).mp wins
        simp only [registerActivation, Option.map_some, LastWriter.offer]
        rw [if_pos newer]
  · rw [kept]
    cases current with
    | none => cases loses
    | some row =>
        have older : ¬ row.activation.key < state.activation.key := by
          rw [← shouldAdvance_some_iff, loses]
          simp
        simp only [registerActivation, Option.map_some, LastWriter.offer]
        rw [if_neg older]

theorem advance_error {err : ActiveClipboardRegisterError}
    (advanced : advance env current state mobileConsumable =
      (.error err, after)) :
    after = current := by
  rcases advance_cases advanced with
    ⟨_, _, kept⟩ | ⟨failed, _⟩ | ⟨failed, _⟩
  · exact kept
  · cases failed
  · cases failed

theorem registerRank_le_advance
    {result : Except ActiveClipboardRegisterError Bool}
    (advanced : advance env current state mobileConsumable =
      (result, after)) :
    registerRank current ≤ registerRank after := by
  cases result with
  | error err => rw [advance_error advanced]
  | ok won =>
      rw [registerRank, registerRank, advance_ok advanced]
      exact LastWriter.rank_le_offer _ _ _

end OpenClipboard
