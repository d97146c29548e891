import OpenClipboard.Core.ContentHash
import OpenClipboard.Library.StripedLock

/-!
# One entry for each content identity

Inbound deliveries and local captures look an entry up by its snapshot hash,
and then create, replace or keep it.  Both hold the coordinator's lock of that
hash from the lookup to the commit; every await in between is a step of its
own.
-/

namespace OpenClipboard.EntryIdentity

open ContentHash Transition StripedLock

/-- A row of `clipboard_event`.  Whether its content is partial is what the
materialisation said of it. -/
structure EventRow where
  eventId : String
  snapshotHash : String
  isPartial : Bool
  deriving DecidableEq, Repr

/-- `clipboard_event` in insertion order, and `clipboard_entry` as the event of
each entry. -/
structure Db where
  events : List EventRow
  entries : Table String String

namespace Db

def empty : Db := ⟨[], ∅⟩

def findEntryIdBySnapshotHash (db : Db) (snapshotHash : String) :
    Option String := do
  let row ← db.events.find? fun row => decide (row.snapshotHash = snapshotHash)
  let entry ← db.entries.rows.find? fun entry => decide (entry.2 = row.eventId)
  some entry.1

def insertEvent (db : Db) (row : EventRow) : Db :=
  { db with events := db.events ++ [row] }

def saveEntry (db : Db) (entryId eventId : String) : Db :=
  { db with entries := db.entries.put entryId eventId }

/-- Point the entry at a new event and drop the old one, in one transaction. -/
def replaceEntryContent (db : Db) (entryId : String) (row : EventRow) :
    Option Db :=
  (db.entries.find entryId).map fun oldEventId => {
    events := (db.events ++ [row]).filter fun old =>
      decide (old.eventId ≠ oldEventId)
    entries := db.entries.put entryId row.eventId }

/-- The primary keys of the two tables. -/
def isNewEvent (db : Db) (eventId : String) : Bool :=
  db.events.all fun row => decide (row.eventId ≠ eventId)

def isNewEntry (db : Db) (entryId : String) : Bool :=
  (db.entries.find entryId).isNone

end Db

/-- Who works on an identity: a decoded delivery under the hash of its header,
or a capture under its own hash. -/
inductive Source where
  | inbound (wireHash : String)
  | localCapture (snapshotHash : Digest)
  deriving DecidableEq, Repr

/-- A snapshot on its way to the store: whether files are missing, and its own
hash. -/
structure Content where
  isPartial : Bool
  recomputedHash : Digest
  deriving DecidableEq, Repr

/-- What a task does next, under the lock. -/
inductive Work where
  | lookup
  | check (existing : String)
  | materialise (existing : Option String)
  | recent (content : Content)
  | touch (existing : String)
  | insert (content : Content)
  | save (eventId : String) (isPartial : Bool)
  | replace (existing : String) (content : Content)
  deriving DecidableEq, Repr

inductive Outcome where
  | applied (entryId : String) (isPartial : Bool)
  | deduplicated (entryId : String)
  | duplicateSkipped
  | failed
  deriving DecidableEq, Repr

/-- What the environment answers: the port fails, the entry is available, the
materialisation ends, the content was applied a moment ago.  New ids are
unused. -/
inductive Move where
  | fail
  | lookup
  | availability (isAvailable : Bool)
  | materialised (content : Content)
  | recent (isDuplicate : Bool)
  | touch
  | commit (eventId : String)
  | save (entryId : String)
  deriving DecidableEq, Repr

namespace Source

/-- The identity whose lock the task takes. -/
def keyOf : Source → String
  | .inbound wireHash => wireHash
  | .localCapture snapshotHash => formatBlake3v1 snapshotHash

/-- The identity the content is stored under: the wire hash where it parses,
else the snapshot's own. -/
def persistedHash (content : Content) : Source → String
  | .inbound wireHash =>
      formatBlake3v1 ((SnapshotHash.parse wireHash).getD content.recomputedHash)
  | .localCapture snapshotHash => formatBlake3v1 snapshotHash

/-- After a lookup that found an entry or none. -/
def afterLookup : Source → Option String → Work
  | .inbound _, some existing => .check existing
  | .inbound _, none => .materialise none
  | .localCapture _, some existing => .touch existing
  | .localCapture snapshotHash, none => .insert ⟨false, snapshotHash⟩

/-- A capture whose lookup or touch failed is stored as new; a delivery
fails. -/
def afterFailure : Source → Work ⊕ Outcome
  | .inbound _ => .inr .failed
  | .localCapture snapshotHash => .inl (.insert ⟨false, snapshotHash⟩)

def row (source : Source) (content : Content) (eventId : String) : EventRow :=
  ⟨eventId, source.persistedHash content, content.isPartial⟩

end Source

/-- One await of `execute` or of `execute_with_origin`. -/
def advance (db : Db) (source : Source) :
    Work → Move → Option (Db × (Work ⊕ Outcome))
  | .lookup, .lookup =>
      some (db, .inl (source.afterLookup
        (db.findEntryIdBySnapshotHash source.keyOf)))
  | .lookup, .fail => some (db, source.afterFailure)
  | .check existing, .availability true =>
      some (db, .inr (.deduplicated existing))
  | .check existing, .availability false =>
      some (db, .inl (.materialise (some existing)))
  | .materialise none, .materialised content =>
      some (db, .inl (.recent content))
  | .materialise (some existing), .materialised content =>
      if content.isPartial then
        some (db, .inr .duplicateSkipped)
      else
        some (db, .inl (.replace existing content))
  | .recent _, .recent true => some (db, .inr .duplicateSkipped)
  | .recent content, .recent false => some (db, .inl (.insert content))
  | .touch existing, .touch =>
      if (db.entries.find existing).isSome then
        some (db, .inr (.deduplicated existing))
      else
        some (db, source.afterFailure)
  | .touch _, .fail => some (db, source.afterFailure)
  | .insert content, .commit eventId =>
      if db.isNewEvent eventId then
        some (db.insertEvent (source.row content eventId),
          .inl (.save eventId content.isPartial))
      else
        none
  | .save eventId isPartial, .save entryId =>
      if db.isNewEntry entryId then
        some (db.saveEntry entryId eventId, .inr (.applied entryId isPartial))
      else
        none
  | .replace existing content, .commit eventId =>
      if db.isNewEvent eventId then
        match db.replaceEntryContent existing (source.row content eventId) with
        | some replaced => some (replaced, .inr (.applied existing false))
        | none => some (db, .inr .failed)
      else
        none
  | .materialise _, .fail => some (db, .inr .failed)
  | .insert _, .fail => some (db, .inr .failed)
  | .save _ _, .fail => some (db, .inr .failed)
  | .replace _ _, .fail => some (db, .inr .failed)
  | _, _ => none

def code : Code Db Source Work Outcome Move where
  entry := fun _ => .lookup
  advance := advance

/-- Tasks that share a coordinator whose stripe of a hash is `stripeIndex`. -/
def step (stripeIndex : String → Nat) :
    State Nat Db Source Work Outcome → StripedLock.Action Nat Source Move →
      Option (State Nat Db Source Work Outcome) :=
  StripedLock.step code Source.keyOf stripeIndex

/-- The wire hash is the text its own digest is written as. -/
def isCanonical (wireHash : String) : Bool :=
  (SnapshotHash.parse wireHash).any fun digest =>
    decide (formatBlake3v1 digest = wireHash)

def admits : Source → Bool
  | .inbound wireHash => isCanonical wireHash
  | .localCapture _ => true

/-- The failures that no later step makes up for: of a capture's lookup and
touch, and between an event and its entry. -/
def allows : Source → Work → Move → Bool
  | .localCapture _, .lookup, .fail => false
  | _, .touch _, .fail => false
  | _, .save _ _, .fail => false
  | _, _, _ => true

/-! ## The store -/

/-- Each event has its own id and its own hash, and each entry an event of its
own. -/
structure Consistent (db : Db) : Prop where
  eventIds : (db.events.map EventRow.eventId).Nodup
  hashes : (db.events.map EventRow.snapshotHash).Nodup
  entryEvents : ∀ entryId eventId, db.entries.find entryId = some eventId →
    ∃ row ∈ db.events, row.eventId = eventId
  oneEntry : ∀ entryId other eventId, db.entries.find entryId = some eventId →
    db.entries.find other = some eventId → entryId = other

def HasContent (db : Db) (entryId : String) (row : EventRow) : Prop :=
  row ∈ db.events ∧ db.entries.find entryId = some row.eventId

/-- Every event of the hash has its entry. -/
def Settled (db : Db) (snapshotHash : String) : Prop :=
  ∀ row ∈ db.events, row.snapshotHash = snapshotHash →
    ∃ entryId, db.entries.find entryId = some row.eventId

def Unused (db : Db) (snapshotHash : String) : Prop :=
  ∀ row ∈ db.events, row.snapshotHash ≠ snapshotHash

/-- Rows of other hashes are as they were, and so are their entries. -/
structure SameElsewhere (snapshotHash : String) (before after : Db) : Prop where
  events : ∀ row, row.snapshotHash ≠ snapshotHash →
    (row ∈ after.events ↔ row ∈ before.events)
  entries : ∀ row ∈ before.events, row.snapshotHash ≠ snapshotHash →
    ∀ entryId, after.entries.find entryId = some row.eventId ↔
      before.entries.find entryId = some row.eventId

/-- Every entry keeps its id and its hash, and other content under it is
complete. -/
def Keeps (before after : Db) : Prop :=
  ∀ entryId row, HasContent before entryId row →
    ∃ next, HasContent after entryId next ∧
      next.snapshotHash = row.snapshotHash ∧
      (next = row ∨ next.isPartial = false)

section Store

variable {db : Db} {snapshotHash eventId entryId : String} {row other : EventRow}

theorem Consistent.row_ext (consistent : Consistent db) (isRow : row ∈ db.events)
    (isOther : other ∈ db.events) (same : row.eventId = other.eventId) :
    row = other :=
  List.inj_on_of_nodup_map consistent.eventIds isRow isOther same

theorem Consistent.row_of_hash (consistent : Consistent db)
    (isRow : row ∈ db.events) (isOther : other ∈ db.events)
    (same : row.snapshotHash = other.snapshotHash) : row = other :=
  List.inj_on_of_nodup_map consistent.hashes isRow isOther same

theorem Consistent.unique (consistent : Consistent db) {otherId : String}
    (first : HasContent db entryId row) (second : HasContent db otherId other)
    (same : row.snapshotHash = other.snapshotHash) : entryId = otherId := by
  have sameRow := consistent.row_of_hash first.1 second.1 same
  subst sameRow
  exact consistent.oneEntry entryId otherId row.eventId first.2 second.2

theorem Unused.settled (unused : Unused db snapshotHash) :
    Settled db snapshotHash :=
  fun row isRow sameHash => absurd sameHash (unused row isRow)

theorem hasContent_of_find
    (found : db.findEntryIdBySnapshotHash snapshotHash = some entryId) :
    ∃ row, HasContent db entryId row ∧ row.snapshotHash = snapshotHash := by
  unfold Db.findEntryIdBySnapshotHash at found
  obtain ⟨row, rowFound, later⟩ := Option.bind_eq_some_iff.mp found
  obtain ⟨entry, entryFound, isId⟩ := Option.bind_eq_some_iff.mp later
  have isRow := List.mem_of_find?_eq_some rowFound
  have hashed := List.find?_some rowFound
  have isEntry := List.mem_of_find?_eq_some entryFound
  have ofEvent := List.find?_some entryFound
  cases isId
  refine ⟨row, ⟨isRow, ?_⟩, of_decide_eq_true hashed⟩
  rw [← of_decide_eq_true ofEvent]
  exact Table.mem_rows_iff.mp isEntry

theorem unused_of_find (settled : Settled db snapshotHash)
    (missed : db.findEntryIdBySnapshotHash snapshotHash = none) :
    Unused db snapshotHash := by
  intro row isRow sameHash
  cases found : db.events.find? fun row =>
      decide (row.snapshotHash = snapshotHash) with
  | none =>
      have different := List.find?_eq_none.mp found row isRow
      exact different (decide_eq_true sameHash)
  | some first =>
      have isFirst := List.mem_of_find?_eq_some found
      have firstHash := List.find?_some found
      obtain ⟨entryId, held⟩ :=
        settled first isFirst (of_decide_eq_true firstHash)
      have isEntry := Table.mem_rows_iff.mpr held
      cases entryFound : db.entries.rows.find? fun entry =>
          decide (entry.2 = first.eventId) with
      | none =>
          have different := List.find?_eq_none.mp entryFound _ isEntry
          exact different (decide_eq_true rfl)
      | some entry =>
          simp [Db.findEntryIdBySnapshotHash, found, entryFound] at missed

theorem isNewEvent_iff :
    db.isNewEvent eventId = true ↔ ∀ row ∈ db.events, row.eventId ≠ eventId := by
  simp [Db.isNewEvent]

theorem isNewEntry_iff :
    db.isNewEntry entryId = true ↔ db.entries.find entryId = none := by
  simp [Db.isNewEntry]

end Store

/-! ### A new event -/

section InsertEvent

variable {db : Db} {row : EventRow}

theorem Consistent.insertEvent (consistent : Consistent db)
    (isNew : db.isNewEvent row.eventId = true)
    (unused : Unused db row.snapshotHash) : Consistent (db.insertEvent row) := by
  have isNew' := isNewEvent_iff.mp isNew
  constructor
  · simp only [Db.insertEvent, List.map_append, List.map_cons, List.map_nil]
    rw [← List.concat_eq_append]
    apply consistent.eventIds.concat
    intro member
    obtain ⟨old, isOld, same⟩ := List.mem_map.mp member
    exact isNew' old isOld same
  · simp only [Db.insertEvent, List.map_append, List.map_cons, List.map_nil]
    rw [← List.concat_eq_append]
    apply consistent.hashes.concat
    intro member
    obtain ⟨old, isOld, same⟩ := List.mem_map.mp member
    exact unused old isOld same
  · intro entryId eventId found
    obtain ⟨old, isOld, same⟩ := consistent.entryEvents entryId eventId found
    exact ⟨old, List.mem_append_left _ isOld, same⟩
  · exact consistent.oneEntry

theorem sameElsewhere_insertEvent :
    SameElsewhere row.snapshotHash db (db.insertEvent row) := by
  constructor
  · intro other different
    have notRow : other ≠ row := by
      intro same
      exact different (congrArg EventRow.snapshotHash same)
    simp [Db.insertEvent, notRow]
  · intro other isOther different entryId
    rfl

theorem keeps_insertEvent : Keeps db (db.insertEvent row) := by
  intro entryId old content
  exact ⟨old, ⟨List.mem_append_left _ content.1, content.2⟩, rfl, Or.inl rfl⟩

end InsertEvent

/-! ### Its entry -/

section SaveEntry

variable {db : Db} {row : EventRow} {entryId : String}

theorem Consistent.saveEntry (consistent : Consistent db)
    (isRow : row ∈ db.events)
    (noEntry : ∀ other, db.entries.find other ≠ some row.eventId) :
    Consistent (db.saveEntry entryId row.eventId) := by
  refine ⟨consistent.eventIds, consistent.hashes, ?_, ?_⟩
  · intro other eventId found
    rw [Db.saveEntry, Table.find_put] at found
    split at found
    · cases found
      exact ⟨row, isRow, rfl⟩
    · exact consistent.entryEvents other eventId found
  · intro first second eventId found foundSecond
    rw [Db.saveEntry, Table.find_put] at found foundSecond
    split at found
    · rename_i isFirst
      cases found
      split at foundSecond
      · rename_i isSecond
        exact isFirst.trans isSecond.symm
      · exact absurd foundSecond (noEntry second)
    · split at foundSecond
      · cases foundSecond
        exact absurd found (noEntry first)
      · exact consistent.oneEntry first second eventId found foundSecond

theorem Consistent.sameElsewhere_saveEntry (consistent : Consistent db)
    (isRow : row ∈ db.events) (isNew : db.entries.find entryId = none) :
    SameElsewhere row.snapshotHash db (db.saveEntry entryId row.eventId) := by
  constructor
  · intro other different
    rfl
  · intro other isOther different otherId
    rw [Db.saveEntry, Table.find_put]
    split
    · rename_i same
      rw [same, isNew]
      constructor
      · intro sameEvent
        have sameRow := consistent.row_ext isRow isOther
          (Option.some.inj sameEvent)
        exact absurd (congrArg EventRow.snapshotHash sameRow).symm different
      · intro held
        cases held
    · rfl

theorem keeps_saveEntry {eventId : String}
    (isNew : db.entries.find entryId = none) :
    Keeps db (db.saveEntry entryId eventId) := by
  intro otherId old content
  have different : otherId ≠ entryId := by
    intro same
    have found := content.2
    rw [same, isNew] at found
    cases found
  refine ⟨old, ⟨content.1, ?_⟩, rfl, Or.inl rfl⟩
  rw [Db.saveEntry, Table.find_put_of_ne different]
  exact content.2

end SaveEntry

/-! ### Other content under an entry -/

section ReplaceEntryContent

variable {db replaced : Db} {old row : EventRow} {entryId : String}

theorem replaceEntryContent_of_hasContent (content : HasContent db entryId old)
    (isNew : db.isNewEvent row.eventId = true) :
    db.replaceEntryContent entryId row = some {
      events := (db.events.filter fun other =>
        decide (other.eventId ≠ old.eventId)) ++ [row]
      entries := db.entries.put entryId row.eventId } := by
  have different : row.eventId ≠ old.eventId :=
    (isNewEvent_iff.mp isNew old content.1).symm
  unfold Db.replaceEntryContent
  rw [content.2, Option.map_some, List.filter_append]
  simp [different]

theorem Consistent.replaceEntryContent (consistent : Consistent db)
    (content : HasContent db entryId old)
    (isNew : db.isNewEvent row.eventId = true)
    (sameHash : row.snapshotHash = old.snapshotHash)
    (done : db.replaceEntryContent entryId row = some replaced) :
    Consistent replaced := by
  have isNew' := isNewEvent_iff.mp isNew
  rw [replaceEntryContent_of_hasContent content isNew] at done
  cases done
  have kept : ∀ {other}, other ∈ (db.events.filter fun other =>
      decide (other.eventId ≠ old.eventId)) ↔
        other ∈ db.events ∧ other.eventId ≠ old.eventId := by
    intro other
    simp
  constructor
  · simp only [List.map_append, List.map_cons, List.map_nil]
    rw [← List.concat_eq_append]
    apply List.Nodup.concat
    · intro member
      obtain ⟨other, isOther, same⟩ := List.mem_map.mp member
      exact isNew' other (kept.mp isOther).1 same
    · exact (List.filter_sublist.map _).nodup consistent.eventIds
  · simp only [List.map_append, List.map_cons, List.map_nil]
    rw [← List.concat_eq_append]
    apply List.Nodup.concat
    · intro member
      obtain ⟨other, isOther, same⟩ := List.mem_map.mp member
      have isOther' := kept.mp isOther
      have sameRow := consistent.row_of_hash isOther'.1 content.1
        (same.trans sameHash)
      exact isOther'.2 (congrArg EventRow.eventId sameRow)
    · exact (List.filter_sublist.map _).nodup consistent.hashes
  · intro other eventId found
    rw [Table.find_put] at found
    split at found
    · cases found
      exact ⟨row, List.mem_append_right _ (List.mem_singleton.mpr rfl), rfl⟩
    · rename_i different
      obtain ⟨otherRow, isOther, same⟩ :=
        consistent.entryEvents other eventId found
      refine ⟨otherRow, List.mem_append_left _ (kept.mpr ⟨isOther, ?_⟩), same⟩
      intro sameEvent
      rw [← same, sameEvent] at found
      exact different (consistent.oneEntry _ _ _ found content.2)
  · intro first second eventId found foundSecond
    have unheld : ∀ other, db.entries.find other ≠ some row.eventId := by
      intro other held
      obtain ⟨otherRow, isOther, same⟩ := consistent.entryEvents _ _ held
      exact isNew' otherRow isOther same
    rw [Table.find_put] at found foundSecond
    split at found
    · rename_i isFirst
      cases found
      split at foundSecond
      · rename_i isSecond
        exact isFirst.trans isSecond.symm
      · exact absurd foundSecond (unheld second)
    · split at foundSecond
      · cases foundSecond
        exact absurd found (unheld first)
      · exact consistent.oneEntry first second eventId found foundSecond

theorem Consistent.sameElsewhere_replaceEntryContent
    (consistent : Consistent db) (content : HasContent db entryId old)
    (isNew : db.isNewEvent row.eventId = true)
    (sameHash : row.snapshotHash = old.snapshotHash)
    (done : db.replaceEntryContent entryId row = some replaced) :
    SameElsewhere old.snapshotHash db replaced := by
  have isNew' := isNewEvent_iff.mp isNew
  rw [replaceEntryContent_of_hasContent content isNew] at done
  cases done
  have notOld : ∀ other ∈ db.events, other.snapshotHash ≠ old.snapshotHash →
      other.eventId ≠ old.eventId := by
    intro other isOther different same
    have sameRow := consistent.row_ext isOther content.1 same
    exact different (congrArg EventRow.snapshotHash sameRow)
  constructor
  · intro other different
    have notRow : other ≠ row := by
      intro same
      rw [same] at different
      exact different sameHash
    constructor
    · intro member
      cases List.mem_append.mp member with
      | inl kept => exact List.mem_of_mem_filter kept
      | inr isRow => exact absurd (List.mem_singleton.mp isRow) notRow
    · intro isOther
      apply List.mem_append_left
      exact List.mem_filter.mpr
        ⟨isOther, decide_eq_true (notOld other isOther different)⟩
  · intro other isOther different otherId
    rw [Table.find_put]
    split
    · rename_i same
      rw [same, content.2]
      constructor
      · intro sameEvent
        exact absurd (Option.some.inj sameEvent).symm (isNew' other isOther)
      · intro sameEvent
        exact absurd (Option.some.inj sameEvent).symm
          (notOld other isOther different)
    · rfl

theorem hasContent_replaceEntryContent (content : HasContent db entryId old)
    (isNew : db.isNewEvent row.eventId = true)
    (done : db.replaceEntryContent entryId row = some replaced) :
    HasContent replaced entryId row := by
  rw [replaceEntryContent_of_hasContent content isNew] at done
  cases done
  exact ⟨List.mem_append_right _ (List.mem_singleton.mpr rfl),
    Table.find_put_self⟩

theorem Consistent.keeps_replaceEntryContent (consistent : Consistent db)
    (content : HasContent db entryId old)
    (isNew : db.isNewEvent row.eventId = true)
    (sameHash : row.snapshotHash = old.snapshotHash)
    (isComplete : row.isPartial = false)
    (done : db.replaceEntryContent entryId row = some replaced) :
    Keeps db replaced := by
  have shown := hasContent_replaceEntryContent content isNew done
  rw [replaceEntryContent_of_hasContent content isNew] at done
  cases done
  intro otherId other otherContent
  by_cases same : otherId = entryId
  · subst same
    have sameRow : other = old := consistent.row_ext otherContent.1 content.1
      (Option.some.inj (otherContent.2.symm.trans content.2))
    subst sameRow
    exact ⟨row, shown, sameHash, Or.inr isComplete⟩
  · refine ⟨other, ⟨?_, ?_⟩, rfl, Or.inl rfl⟩
    · apply List.mem_append_left
      apply List.mem_filter.mpr
      refine ⟨otherContent.1, decide_eq_true ?_⟩
      intro sameEvent
      have held := otherContent.2
      rw [sameEvent] at held
      exact same (consistent.oneEntry _ _ _ held content.2)
    · rw [Table.find_put_of_ne same]
      exact otherContent.2

end ReplaceEntryContent

/-! ## What a task knows -/

structure Found (snapshotHash existing : String) (db : Db) : Prop where
  settled : Settled db snapshotHash
  content : ∃ row, HasContent db existing row ∧ row.snapshotHash = snapshotHash

/-- What a task knows of its own identity before each of its steps. -/
def Knows (source : Source) : Work → Db → Prop
  | .lookup, db => Settled db source.keyOf
  | .check existing, db => Found source.keyOf existing db
  | .materialise none, db => Unused db source.keyOf
  | .materialise (some existing), db => Found source.keyOf existing db
  | .recent _, db => Unused db source.keyOf
  | .touch existing, db => Found source.keyOf existing db
  | .insert _, db => Unused db source.keyOf
  | .save eventId isPartial, db =>
      (⟨eventId, source.keyOf, isPartial⟩ : EventRow) ∈ db.events ∧
        ∀ entryId, db.entries.find entryId ≠ some eventId
  | .replace existing content, db =>
      content.isPartial = false ∧ Found source.keyOf existing db

def Done (source : Source) : Outcome → Db → Prop
  | .applied entryId isPartial, db => ∃ row, HasContent db entryId row ∧
      row.snapshotHash = source.keyOf ∧
      (isPartial = false → row.isPartial = false)
  | .deduplicated entryId, db => ∃ row, HasContent db entryId row ∧
      row.snapshotHash = source.keyOf
  | .duplicateSkipped, _ => True
  | .failed, _ => True

theorem Done.keeps {source : Source} {outcome : Outcome} {before after : Db}
    (done : Done source outcome before) (keeps : Keeps before after) :
    Done source outcome after := by
  cases outcome with
  | applied entryId isPartial =>
      obtain ⟨row, shown, sameHash, isComplete⟩ := done
      obtain ⟨next, shownNext, nextHash, same⟩ := keeps entryId row shown
      refine ⟨next, shownNext, nextHash.trans sameHash, ?_⟩
      intro complete
      cases same with
      | inl same =>
          rw [same]
          exact isComplete complete
      | inr nextComplete => exact nextComplete
  | deduplicated entryId =>
      obtain ⟨row, shown, sameHash⟩ := done
      obtain ⟨next, shownNext, nextHash, same⟩ := keeps entryId row shown
      exact ⟨next, shownNext, nextHash.trans sameHash⟩
  | duplicateSkipped => trivial
  | failed => trivial

section Frame

variable {before after : Db} {snapshotHash other : String}

theorem SameElsewhere.settled (same : SameElsewhere snapshotHash before after)
    (different : other ≠ snapshotHash) (settled : Settled before other) :
    Settled after other := by
  intro row isRow sameHash
  have differs : row.snapshotHash ≠ snapshotHash := by
    rw [sameHash]
    exact different
  have wasRow := (same.events row differs).mp isRow
  obtain ⟨entryId, held⟩ := settled row wasRow sameHash
  exact ⟨entryId, (same.entries row wasRow differs entryId).mpr held⟩

theorem SameElsewhere.unused (same : SameElsewhere snapshotHash before after)
    (different : other ≠ snapshotHash) (unused : Unused before other) :
    Unused after other := by
  intro row isRow sameHash
  have differs : row.snapshotHash ≠ snapshotHash := by
    rw [sameHash]
    exact different
  exact unused row ((same.events row differs).mp isRow) sameHash

theorem SameElsewhere.found (same : SameElsewhere snapshotHash before after)
    (different : other ≠ snapshotHash) {entryId : String}
    (found : Found other entryId before) : Found other entryId after := by
  refine ⟨same.settled different found.settled, ?_⟩
  obtain ⟨row, shown, sameHash⟩ := found.content
  have differs : row.snapshotHash ≠ snapshotHash := by
    rw [sameHash]
    exact different
  exact ⟨row, ⟨(same.events row differs).mpr shown.1,
    (same.entries row shown.1 differs entryId).mpr shown.2⟩, sameHash⟩

theorem SameElsewhere.knows (same : SameElsewhere snapshotHash before after)
    {source : Source} {work : Work} (different : source.keyOf ≠ snapshotHash)
    (knows : Knows source work before) : Knows source work after := by
  cases work with
  | lookup => exact same.settled different knows
  | check existing => exact same.found different knows
  | materialise existing =>
      cases existing with
      | none => exact same.unused different knows
      | some existing => exact same.found different knows
  | recent content => exact same.unused different knows
  | touch existing => exact same.found different knows
  | insert content => exact same.unused different knows
  | save eventId isPartial =>
      obtain ⟨isRow, noEntry⟩ := knows
      refine ⟨(same.events _ different).mpr isRow, ?_⟩
      intro entryId held
      exact noEntry entryId ((same.entries _ isRow different entryId).mp held)
  | replace existing content => exact ⟨knows.1, same.found different knows.2⟩

end Frame

/-! ## One step -/

/-- What holds of an identity after a step of its task. -/
def Continues (source : Source) : Work ⊕ Outcome → Db → Prop
  | .inl work, db => Knows source work db
  | .inr outcome, db => Settled db source.keyOf ∧ Done source outcome db

structure Advanced (source : Source) (before after : Db)
    (next : Work ⊕ Outcome) : Prop where
  consistent : Consistent after
  sameElsewhere : SameElsewhere source.keyOf before after
  keeps : Keeps before after
  continues : Continues source next after

section Advance

variable {db after : Db} {source : Source} {work : Work} {move : Move}
variable {next : Work ⊕ Outcome}

theorem Advanced.unchanged (consistent : Consistent db)
    (continues : Continues source next db) : Advanced source db db next :=
  ⟨consistent, ⟨fun _ _ => Iff.rfl, fun _ _ _ _ => Iff.rfl⟩,
    fun _ row content => ⟨row, content, rfl, Or.inl rfl⟩, continues⟩

theorem persistedHash_of_admitted (content : Content)
    (isAdmitted : admits source = true) :
    source.persistedHash content = source.keyOf := by
  cases source with
  | localCapture snapshotHash => rfl
  | inbound wireHash =>
      obtain ⟨digest, parsed, written⟩ := (Option.any_eq_true _ _).mp isAdmitted
      simp only [Source.persistedHash, parsed, Option.getD_some]
      exact of_decide_eq_true written

theorem knows_afterLookup (knows : Knows source .lookup db) :
    Knows source
      (source.afterLookup (db.findEntryIdBySnapshotHash source.keyOf)) db := by
  cases lookedUp : db.findEntryIdBySnapshotHash source.keyOf with
  | none =>
      have unused := unused_of_find knows lookedUp
      cases source with
      | inbound wireHash => exact unused
      | localCapture snapshotHash => exact unused
  | some existing =>
      have found : Found source.keyOf existing db :=
        ⟨knows, hasContent_of_find lookedUp⟩
      cases source with
      | inbound wireHash => exact found
      | localCapture snapshotHash => exact found

theorem Found.deduplicated {existing : String}
    (found : Found source.keyOf existing db) :
    Continues source (.inr (.deduplicated existing)) db :=
  ⟨found.settled, found.content⟩

theorem Advanced.insert {content : Content} {eventId : String}
    (isAdmitted : admits source = true) (consistent : Consistent db)
    (unused : Unused db source.keyOf) (isNew : db.isNewEvent eventId = true) :
    Advanced source db (db.insertEvent (source.row content eventId))
      (.inl (.save eventId content.isPartial)) := by
  have hashed := persistedHash_of_admitted content isAdmitted
  have kept : Consistent (db.insertEvent (source.row content eventId)) := by
    apply consistent.insertEvent isNew
    rw [Source.row, hashed]
    exact unused
  have sameElsewhere : SameElsewhere (source.row content eventId).snapshotHash
      db (db.insertEvent (source.row content eventId)) :=
    sameElsewhere_insertEvent
  rw [Source.row, hashed] at kept sameElsewhere ⊢
  refine ⟨kept, sameElsewhere, keeps_insertEvent,
    List.mem_append_right _ (List.mem_singleton.mpr rfl), ?_⟩
  intro entryId held
  obtain ⟨row, isRow, same⟩ := consistent.entryEvents entryId eventId held
  exact isNewEvent_iff.mp isNew row isRow same

theorem Advanced.save {eventId entryId : String} {isPartial : Bool}
    (consistent : Consistent db)
    (knows : Knows source (.save eventId isPartial) db)
    (isNew : db.isNewEntry entryId = true) :
    Advanced source db (db.saveEntry entryId eventId)
      (.inr (.applied entryId isPartial)) := by
  obtain ⟨isRow, noEntry⟩ := knows
  have isNew' := isNewEntry_iff.mp isNew
  have shown : HasContent (db.saveEntry entryId eventId) entryId
      ⟨eventId, source.keyOf, isPartial⟩ := ⟨isRow, Table.find_put_self⟩
  refine ⟨consistent.saveEntry isRow noEntry,
    consistent.sameElsewhere_saveEntry isRow isNew', keeps_saveEntry isNew', ?_,
    ⟨_, shown, rfl, id⟩⟩
  intro other isOther sameHash
  have sameRow := consistent.row_of_hash isRow isOther sameHash.symm
  rw [← sameRow]
  exact ⟨entryId, shown.2⟩

theorem Advanced.replace {existing eventId : String} {content : Content}
    {replaced : Db} (isAdmitted : admits source = true)
    (consistent : Consistent db) (isComplete : content.isPartial = false)
    (found : Found source.keyOf existing db)
    (isNew : db.isNewEvent eventId = true)
    (done : db.replaceEntryContent existing (source.row content eventId) =
      some replaced) :
    Advanced source db replaced (.inr (.applied existing false)) := by
  have hashed : (source.row content eventId).snapshotHash = source.keyOf :=
    persistedHash_of_admitted content isAdmitted
  obtain ⟨old, shown, oldHash⟩ := found.content
  have sameHash := hashed.trans oldHash.symm
  have kept := consistent.replaceEntryContent shown isNew sameHash done
  have shownNow := hasContent_replaceEntryContent shown isNew done
  have sameElsewhere :=
    consistent.sameElsewhere_replaceEntryContent shown isNew sameHash done
  rw [oldHash] at sameElsewhere
  refine ⟨kept, sameElsewhere,
    consistent.keeps_replaceEntryContent shown isNew sameHash isComplete done,
    ?_, ⟨_, shownNow, hashed, fun _ => isComplete⟩⟩
  intro other isOther otherHash
  have sameRow := kept.row_of_hash shownNow.1 isOther
    (hashed.trans otherHash.symm)
  rw [← sameRow]
  exact ⟨existing, shownNow.2⟩

theorem advance_spec (isAdmitted : admits source = true)
    (isAllowed : allows source work move = true) (consistent : Consistent db)
    (knows : Knows source work db)
    (advanced : advance db source work move = some (after, next)) :
    Advanced source db after next := by
  revert advanced isAllowed knows
  fun_cases advance db source work move
  all_goals intro isAllowed knows advanced
  all_goals cases advanced
  -- the lookup, and its failure
  · exact Advanced.unchanged consistent (knows_afterLookup knows)
  · cases source with
    | inbound wireHash =>
        exact Advanced.unchanged consistent ⟨knows, trivial⟩
    | localCapture snapshotHash => cases isAllowed
  -- an entry was found: it is available, or not
  · exact Advanced.unchanged consistent knows.deduplicated
  · exact Advanced.unchanged consistent knows
  -- the content is here: nothing to replace, partial, complete
  · exact Advanced.unchanged consistent knows
  · exact Advanced.unchanged consistent ⟨knows.settled, trivial⟩
  · rename_i isComplete
    exact Advanced.unchanged consistent ⟨by simpa using isComplete, knows⟩
  -- it was applied a moment ago, or not
  · exact Advanced.unchanged consistent ⟨Unused.settled knows, trivial⟩
  · exact Advanced.unchanged consistent knows
  -- the touch of an entry, of a missing one, and its failure
  · exact Advanced.unchanged consistent knows.deduplicated
  · rename_i isMissing
    obtain ⟨row, shown, sameHash⟩ := knows.content
    rw [shown.2] at isMissing
    exact absurd rfl isMissing
  · cases source <;> cases isAllowed
  -- the commits
  · rename_i isNew
    exact Advanced.insert isAdmitted consistent knows isNew
  · rename_i isNew
    exact Advanced.save consistent knows isNew
  · rename_i isNew done
    exact Advanced.replace isAdmitted consistent knows.1 knows.2 isNew done
  · exact Advanced.unchanged consistent ⟨knows.2.settled, trivial⟩
  -- failures of a delivery or a commit
  · rename_i existing
    cases existing with
    | none => exact Advanced.unchanged consistent ⟨Unused.settled knows, trivial⟩
    | some existing => exact Advanced.unchanged consistent ⟨knows.settled, trivial⟩
  · exact Advanced.unchanged consistent ⟨Unused.settled knows, trivial⟩
  · cases source <;> cases isAllowed
  · exact Advanced.unchanged consistent ⟨knows.2.settled, trivial⟩

end Advance

/-! ## Every interleaving -/

def discipline : Discipline code Source.keyOf admits allows where
  globally := Consistent
  resource := fun snapshotHash db => Settled db snapshotHash
  assertion := Knows
  enter := fun _ _ settled => settled
  goOn := fun isAdmitted isAllowed consistent knows advanced =>
    have spec := advance_spec isAdmitted isAllowed consistent knows advanced
    ⟨spec.consistent, spec.continues⟩
  leave := fun isAdmitted isAllowed consistent knows advanced =>
    have spec := advance_spec isAdmitted isAllowed consistent knows advanced
    ⟨spec.consistent, spec.continues.1⟩
  resourceFrame := fun isAdmitted isAllowed consistent knows advanced =>
    (advance_spec isAdmitted isAllowed consistent knows
      advanced).sameElsewhere.settled
  assertionFrame := fun isAdmitted isAllowed consistent knows advanced =>
    (advance_spec isAdmitted isAllowed consistent knows
      advanced).sameElsewhere.knows

/-- A store that every hash has at most one entry in, and every event its
entry. -/
def Sound (db : Db) : Prop :=
  Consistent db ∧ ∀ snapshotHash, Settled db snapshotHash

theorem Keeps.trans {first second third : Db} (earlier : Keeps first second)
    (later : Keeps second third) : Keeps first third := by
  intro entryId row shown
  obtain ⟨middle, shownMiddle, middleHash, same⟩ := earlier entryId row shown
  obtain ⟨last, shownLast, lastHash, sameLast⟩ := later entryId middle shownMiddle
  refine ⟨last, shownLast, lastHash.trans middleHash, ?_⟩
  cases sameLast with
  | inr isComplete => exact Or.inr isComplete
  | inl isMiddle =>
      rw [isMiddle]
      exact same

/-- The states of a run that starts with nobody at work. -/
abbrev IdentityState := State Nat Db Source Work Outcome

def start (db : Db) : IdentityState := ⟨db, ∅⟩

/-- Every task is admitted, and makes only the moves allowed. -/
def permitted (state : IdentityState)
    (action : StripedLock.Action Nat Source Move) : Prop :=
  allowed admits allows state action = true

instance (state : IdentityState) (action : StripedLock.Action Nat Source Move) :
    Decidable (permitted state action) :=
  inferInstanceAs (Decidable (_ = true))

/-- In every interleaving an identity has at most one entry; an entry keeps its
id and its identity, content that takes another's place is complete, and a
delivery applied in full has completed the entry that was there before. -/
theorem oneEntryPerIdentity (stripeIndex : String → Nat) {db : Db}
    {middle finish : IdentityState} (sound : Sound db)
    (earlier : Run (step stripeIndex) permitted (start db) middle)
    (later : Run (step stripeIndex) permitted middle finish) :
    (∀ entryId other row otherRow, HasContent finish.world entryId row →
      HasContent finish.world other otherRow →
      row.snapshotHash = otherRow.snapshotHash → entryId = other) ∧
    (∀ entryId row, HasContent middle.world entryId row →
      ∃ next, HasContent finish.world entryId next ∧
        next.snapshotHash = row.snapshotHash ∧
        (next = row ∨ next.isPartial = false)) ∧
    (∀ task source applied entryId row,
      finish.tasks.find task =
        some (source, .finished (.applied applied false)) →
      HasContent middle.world entryId row →
      row.snapshotHash = source.keyOf →
        applied = entryId ∧ ∃ next, HasContent finish.world entryId next ∧
          next.snapshotHash = source.keyOf ∧ next.isPartial = false) := by
  have begins : Holds discipline stripeIndex (start db) :=
    Holds.start discipline sound.1 sound.2
  have holds := begins.run earlier
  have ends := holds.run later
  have consistent : Consistent finish.world := ends.globally
  have kept : Keeps middle.world finish.world := by
    apply holds.run_relates later
    · intro world entryId row shown
      exact ⟨row, shown, rfl, Or.inl rfl⟩
    · exact Keeps.trans
    · intro source work move world next isAdmitted isAllowed globally knows
        advanced
      exact (advance_spec isAdmitted isAllowed globally knows advanced).keeps
  have done : ∀ task source outcome,
      finish.tasks.find task = some (source, .finished outcome) →
        Done source outcome finish.world := by
    apply begins.run_finished Done (earlier.append later)
    · intro task source outcome found
      rw [start, Table.find_empty] at found
      cases found
    · intro source work move world next outcome isAdmitted isAllowed globally
        knows advanced
      exact (advance_spec isAdmitted isAllowed globally knows
        advanced).continues.2
    · intro source work move world next other outcome isAdmitted isAllowed
        globally knows advanced isDone
      exact isDone.keeps
        (advance_spec isAdmitted isAllowed globally knows advanced).keeps
  refine ⟨?_, kept, ?_⟩
  · intro entryId other row otherRow shown shownOther same
    exact consistent.unique shown shownOther same
  · intro task source applied entryId row found shown sameHash
    obtain ⟨final, shownFinal, finalHash, isComplete⟩ :=
      done task source _ found
    obtain ⟨next, shownNext, nextHash, same⟩ := kept entryId row shown
    have isEntry : applied = entryId :=
      consistent.unique shownFinal shownNext
        (finalHash.trans (nextHash.trans sameHash).symm)
    subst isEntry
    exact ⟨rfl, final, shownFinal, finalHash, isComplete rfl⟩

namespace Sample

def image : Digest := ⟨List.replicate 32 7, by decide⟩

def cancelledDelivery : List (StripedLock.Action Nat Source Move) :=
  [.spawn 0 (.inbound (formatBlake3v1 image)), .enter 0, .advance 0 .lookup,
    .advance 0 (.materialised ⟨true, image⟩), .advance 0 (.recent false),
    .advance 0 (.commit "event-1"), .advance 0 (.save "entry-1")]

/-- The image comes again, in full, while it is copied here. -/
def deliveryAndCapture : List (StripedLock.Action Nat Source Move) :=
  [.spawn 1 (.inbound (formatBlake3v1 image)), .spawn 2 (.localCapture image),
    .enter 1, .advance 1 .lookup, .advance 1 (.availability false),
    .advance 1 (.materialised ⟨false, image⟩), .advance 1 (.commit "event-2"),
    .enter 2, .advance 2 .lookup, .advance 2 .touch]

def cancelled : IdentityState :=
  (execute (step fun _ => 0) (start Db.empty) cancelledDelivery).getD
    (start Db.empty)

def failedLookup : List (StripedLock.Action Nat Source Move) :=
  [.spawn 0 (.localCapture image), .enter 0, .advance 0 .lookup,
    .advance 0 (.commit "event-1"), .advance 0 (.save "entry-1"),
    .spawn 1 (.localCapture image), .enter 1, .advance 1 .fail,
    .advance 1 (.commit "event-2"), .advance 1 (.save "entry-2")]

end Sample

open Sample

theorem sound_empty : Sound Db.empty := by
  refine ⟨⟨List.nodup_nil, List.nodup_nil, ?_, ?_⟩, ?_⟩
  · intro entryId eventId found
    rw [Db.empty, Table.find_empty] at found
    cases found
  · intro entryId other eventId found
    rw [Db.empty, Table.find_empty] at found
    cases found
  · intro snapshotHash row isRow
    cases isRow

/-- A cancelled delivery, and then the whole one beside a capture: one entry,
complete, under the id it had. -/
theorem oneEntryPerIdentity_completed :
    ∃ middle finish, Run (step fun _ => 0) permitted (start Db.empty) middle ∧
      Run (step fun _ => 0) permitted middle finish ∧
      HasContent middle.world "entry-1"
        ⟨"event-1", formatBlake3v1 image, true⟩ ∧
      HasContent finish.world "entry-1"
        ⟨"event-2", formatBlake3v1 image, false⟩ ∧
      ∀ entryId other row otherRow, HasContent finish.world entryId row →
        HasContent finish.world other otherRow →
        row.snapshotHash = otherRow.snapshotHash → entryId = other := by
  have isCancelled : (execute (step fun _ => 0) (start Db.empty)
      cancelledDelivery).isSome = true := by decide +kernel
  have executed : execute (step fun _ => 0) (start Db.empty)
      cancelledDelivery = some cancelled := by
    obtain ⟨middle, found⟩ := Option.isSome_iff_exists.mp isCancelled
    rw [cancelled, found, Option.getD_some]
  have earlier : Run (step fun _ => 0) permitted (start Db.empty) cancelled :=
    Run.ofExecute (by decide +kernel) executed
  have ran : (execute (step fun _ => 0) cancelled deliveryAndCapture).map
      (fun state =>
        (state.world.events, state.world.entries.find "entry-1")) =
      some ([⟨"event-2", formatBlake3v1 image, false⟩], some "event-2") := by
    decide +kernel
  obtain ⟨finish, executedLater, seen⟩ := Option.map_eq_some_iff.mp ran
  simp only [Prod.mk.injEq] at seen
  obtain ⟨events, entry⟩ := seen
  have later : Run (step fun _ => 0) permitted cancelled finish :=
    Run.ofExecute (by decide +kernel) executedLater
  refine ⟨cancelled, finish, earlier, later, ⟨by decide +kernel, by decide +kernel⟩,
    ⟨?_, entry⟩, (oneEntryPerIdentity (fun _ => 0) sound_empty earlier later).1⟩
  rw [events]
  exact List.mem_singleton.mpr rfl

/-- A capture whose lookup fails makes a second entry of its content. -/
theorem failedLookup_duplicates :
    ¬ ∀ (stripeIndex : String → Nat) (finish : IdentityState),
      Run (step stripeIndex) anyAction (start Db.empty) finish →
      ∀ entryId other row otherRow, HasContent finish.world entryId row →
        HasContent finish.world other otherRow →
        row.snapshotHash = otherRow.snapshotHash → entryId = other := by
  intro unique
  have ran : (execute (step fun _ => 0) (start Db.empty) failedLookup).map
      (fun state => (state.world.events,
        state.world.entries.find "entry-1", state.world.entries.find "entry-2")) =
      some ([⟨"event-1", formatBlake3v1 image, false⟩,
        ⟨"event-2", formatBlake3v1 image, false⟩],
          some "event-1", some "event-2") := by
    decide +kernel
  obtain ⟨finish, executed, seen⟩ := Option.map_eq_some_iff.mp ran
  simp only [Prod.mk.injEq] at seen
  obtain ⟨events, first, second⟩ := seen
  have run := Run.ofExecute (guarded_anyAction _ _ _) executed
  have same := unique _ finish run "entry-1" "entry-2"
    ⟨"event-1", formatBlake3v1 image, false⟩
    ⟨"event-2", formatBlake3v1 image, false⟩
    ⟨by simp [events], first⟩ ⟨by simp [events], second⟩ rfl
  exact absurd same (by decide)

end OpenClipboard.EntryIdentity
