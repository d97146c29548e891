import OpenClipboard.Outbound.Planner

/-!
# The self-write ledger

A programmatic write arms a record under the key of its content, and after it
has landed a fallback for the next change.  An observed change consumes the
record of its content and retires the fallback of the same write; without a
record it consumes the oldest fallback.  Instants are milliseconds.
-/

namespace OpenClipboard

inductive SelfWriteAttribution where
  | localWrite
  | remoteWrite
  deriving DecidableEq, Repr

inductive SelfWriteMatch where
  | byContent (key : String)
  | byNextChange (guardKey : String)
  deriving DecidableEq, Repr

structure ContentRecord where
  snapshotHash : String
  attribution : SelfWriteAttribution
  expiresAt : Nat
  deriving DecidableEq, Repr

structure NextChangeRecord where
  guardKey : String
  attribution : SelfWriteAttribution
  expiresAt : Nat
  deriving DecidableEq, Repr

structure OriginStore where
  nextChanges : List NextChangeRecord
  contentRecords : List ContentRecord
  deriving DecidableEq, Repr

def contentRecordMax : Nat := 256

def nextChangeMax : Nat := 64

def attributionToOrigin : SelfWriteAttribution → ClipboardChangeOrigin
  | .localWrite => .localRestore
  | .remoteWrite => .remotePush none

/-- Pop from the front until at most `max` are left. -/
def keepLatest {α : Type} (max : Nat) (records : List α) : List α :=
  records.drop (records.length - max)

def refreshFirst {α : Type} (isSame : α → Bool) (refresh : α → α) :
    List α → List α
  | [] => []
  | record :: rest =>
      if isSame record then
        refresh record :: rest
      else
        record :: refreshFirst isSame refresh rest

/-- Refresh a record that is there, or append and keep the latest. -/
def remember {α : Type} (isSame : α → Bool) (refresh : α → α) (max : Nat)
    (records : List α) (fresh : α) : List α :=
  if records.any isSame then
    refreshFirst isSame refresh records
  else
    keepLatest max (records ++ [fresh])

namespace OriginStore

def empty : OriginStore := ⟨[], []⟩

def pruneExpired (store : OriginStore) (now : Nat) : OriginStore where
  nextChanges := store.nextChanges.filter fun record =>
    decide (now ≤ record.expiresAt)
  contentRecords := store.contentRecords.filter fun record =>
    decide (now ≤ record.expiresAt)

def rememberContentRecord (records : List ContentRecord)
    (fresh : ContentRecord) : List ContentRecord :=
  remember
    (fun record => decide (record.snapshotHash = fresh.snapshotHash ∧
      record.attribution = fresh.attribution))
    (fun record => { record with expiresAt := fresh.expiresAt })
    contentRecordMax records fresh

/-- The same write arms its fallback once. -/
def rememberNextChange (records : List NextChangeRecord)
    (fresh : NextChangeRecord) : List NextChangeRecord :=
  remember
    (fun record => decide (record.guardKey = fresh.guardKey ∧
      record.attribution = fresh.attribution))
    (fun record => { record with expiresAt := fresh.expiresAt })
    nextChangeMax records fresh

def recordSelfWrite (store : OriginStore) (now : Nat)
    (matching : SelfWriteMatch) (attribution : SelfWriteAttribution)
    (ttl : Nat) : OriginStore :=
  let store := store.pruneExpired now
  match matching with
  | .byContent key => { store with
      contentRecords := rememberContentRecord store.contentRecords
        ⟨key, attribution, now + ttl⟩ }
  | .byNextChange guardKey => { store with
      nextChanges := rememberNextChange store.nextChanges
        ⟨guardKey, attribution, now + ttl⟩ }

/-- Drop the first fallback of the write that armed the record. -/
def retire (records : List NextChangeRecord) (key : String)
    (attribution : SelfWriteAttribution) : List NextChangeRecord :=
  records.eraseP fun record =>
    decide (record.guardKey = key ∧ record.attribution = attribution)

def attributeObservedChange (store : OriginStore) (now : Nat)
    (key : String) : ClipboardChangeOrigin × OriginStore :=
  let store := store.pruneExpired now
  match store.contentRecords.find? fun record =>
      decide (record.snapshotHash = key) with
  | some stored =>
      (attributionToOrigin stored.attribution, {
        nextChanges := retire store.nextChanges key stored.attribution
        contentRecords := store.contentRecords.eraseP fun record =>
          decide (record.snapshotHash = key) })
  | none =>
      match store.nextChanges with
      | stored :: rest =>
          (attributionToOrigin stored.attribution,
            { store with nextChanges := rest })
      | [] => (.localCapture, store)

/-! ## What the ledger holds -/

theorem mem_refreshFirst {α : Type} {isSame : α → Bool} {refresh : α → α}
    {records : List α} {record : α}
    (member : record ∈ refreshFirst isSame refresh records) :
    record ∈ records ∨ ∃ old ∈ records, isSame old = true ∧
      record = refresh old := by
  induction records with
  | nil => cases member
  | cons head tail inductionHypothesis =>
      unfold refreshFirst at member
      split at member
      · rename_i same
        cases List.mem_cons.mp member with
        | inl isHead =>
            exact Or.inr ⟨head, List.mem_cons_self, same, isHead⟩
        | inr inTail => exact Or.inl (List.mem_cons_of_mem head inTail)
      · cases List.mem_cons.mp member with
        | inl isHead =>
            rw [isHead]
            exact Or.inl List.mem_cons_self
        | inr inTail =>
            rcases inductionHypothesis inTail with old | ⟨old, isOld, same⟩
            · exact Or.inl (List.mem_cons_of_mem head old)
            · exact Or.inr ⟨old, List.mem_cons_of_mem head isOld, same⟩

theorem mem_remember {α : Type} {isSame : α → Bool} {refresh : α → α}
    {max : Nat} {records : List α} {fresh record : α}
    (member : record ∈ remember isSame refresh max records fresh) :
    record ∈ records ∨ record = fresh ∨
      ∃ old ∈ records, isSame old = true ∧ record = refresh old := by
  unfold remember at member
  split at member
  · rcases mem_refreshFirst member with old | refreshed
    · exact Or.inl old
    · exact Or.inr (Or.inr refreshed)
  · have appended := List.mem_of_mem_drop member
    cases List.mem_append.mp appended with
    | inl old => exact Or.inl old
    | inr isFresh => exact Or.inr (Or.inl (List.mem_singleton.mp isFresh))

section Ledger

variable {store : OriginStore} {now ttl : Nat} {key : String}
variable {attribution : SelfWriteAttribution}

theorem mem_contentRecords_recordSelfWrite {record : ContentRecord}
    (member : record ∈ (store.recordSelfWrite now (.byContent key) attribution
      ttl).contentRecords) :
    record ∈ store.contentRecords ∨
      (record.snapshotHash = key ∧ record.expiresAt = now + ttl) := by
  rcases mem_remember member with old | isFresh | ⟨old, isOld, same, refreshed⟩
  · exact Or.inl (List.mem_of_mem_filter old)
  · rw [isFresh]
    exact Or.inr ⟨rfl, rfl⟩
  · rw [refreshed]
    exact Or.inr ⟨(of_decide_eq_true same).1, rfl⟩

theorem mem_contentRecords_attribute {record : ContentRecord}
    (member : record ∈
      (store.attributeObservedChange now key).2.contentRecords) :
    record ∈ store.contentRecords := by
  unfold attributeObservedChange at member
  simp only at member
  split at member
  · exact List.mem_of_mem_filter (List.mem_of_mem_eraseP member)
  · split at member
    · exact List.mem_of_mem_filter member
    · exact List.mem_of_mem_filter member

/-- A change without a record of its content is local exactly if no fallback is
pending. -/
theorem attribute_localCapture_iff
    (unrecorded : ∀ record ∈ store.contentRecords, now ≤ record.expiresAt →
      record.snapshotHash ≠ key) :
    (store.attributeObservedChange now key).1 = .localCapture ↔
      (store.pruneExpired now).nextChanges = [] := by
  have noRecord : (store.pruneExpired now).contentRecords.find?
      (fun record => decide (record.snapshotHash = key)) = none := by
    apply List.find?_eq_none.mpr
    intro record member
    obtain ⟨isRecord, live⟩ := List.mem_filter.mp member
    simpa using unrecorded record isRecord (of_decide_eq_true live)
  unfold attributeObservedChange
  simp only [noRecord]
  cases pending : (store.pruneExpired now).nextChanges with
  | nil => simp
  | cons stored rest =>
      cases attributed : stored.attribution with
      | localWrite => simp [attributionToOrigin, attributed]
      | remoteWrite => simp [attributionToOrigin, attributed]

end Ledger

end OriginStore

end OpenClipboard
