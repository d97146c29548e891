import OpenClipboard.ClipboardWrite.LedgerExactness
import OpenClipboard.ClipboardWrite.OrderlySchedule
import Mathlib.Data.Fintype.EquivFin

/-!
# What a failed write leaves behind

A write that fails arms its content record and then takes it back as if its
echo had been observed.  Two ledgers are compared by what they attribute to
every later sequence of changes; this determines the attributions of their
fallbacks, and those of their records of each content.
-/

namespace OpenClipboard

open Transition

namespace OriginStore

/-- What the ledger attributes to a sequence of changes, each observed at an
instant. -/
def attributions (store : OriginStore) :
    List (Nat × String) → List ClipboardChangeOrigin
  | [] => []
  | (now, key) :: rest =>
      (store.attributeObservedChange now key).1 ::
        (store.attributeObservedChange now key).2.attributions rest

/-- The changes are in order of time, and none is before the instant. -/
def ComeAfter : Nat → List (Nat × String) → Prop
  | _, [] => True
  | earliest, (now, _) :: rest => earliest ≤ now ∧ ComeAfter now rest

/-- From an instant on, two ledgers attribute every sequence of changes alike. -/
def SameAttributions (now : Nat) (left right : OriginStore) : Prop :=
  ∀ changes, ComeAfter now changes →
    left.attributions changes = right.attributions changes

/-- The attributions of the records of a content, in order. -/
def attributionsOf (records : List ContentRecord) (key : String) :
    List SelfWriteAttribution :=
  (records.filter fun record => decide (record.snapshotHash = key)).map
    ContentRecord.attribution

/-! ## Records of one content -/

section Records

variable {records : List ContentRecord} {key : String}

theorem attributionsOf_append (first second : List ContentRecord)
    (key : String) :
    attributionsOf (first ++ second) key =
      attributionsOf first key ++ attributionsOf second key := by
  unfold attributionsOf
  rw [List.filter_append, List.map_append]

theorem attributionsOf_cons_self (record : ContentRecord)
    (rest : List ContentRecord) :
    attributionsOf (record :: rest) record.snapshotHash =
      record.attribution :: attributionsOf rest record.snapshotHash := by
  unfold attributionsOf
  rw [List.filter_cons, decide_eq_true rfl]
  rfl

theorem attributionsOf_cons_other {record : ContentRecord}
    (rest : List ContentRecord) (other : record.snapshotHash ≠ key) :
    attributionsOf (record :: rest) key = attributionsOf rest key := by
  unfold attributionsOf
  rw [List.filter_cons, decide_eq_false other]
  rfl

theorem attributionsOf_eq_nil_iff :
    attributionsOf records key = [] ↔
      ∀ record ∈ records, record.snapshotHash ≠ key := by
  unfold attributionsOf
  rw [List.map_eq_nil_iff, List.filter_eq_nil_iff]
  simp only [decide_eq_true_eq, ne_eq]

theorem attributionsOf_eraseP_self :
    attributionsOf (records.eraseP fun record =>
        decide (record.snapshotHash = key)) key =
      (attributionsOf records key).tail := by
  induction records with
  | nil => rfl
  | cons record rest inductionHypothesis =>
      by_cases isKey : record.snapshotHash = key
      · subst isKey
        rw [List.eraseP_cons, decide_eq_true rfl, attributionsOf_cons_self]
        rfl
      · rw [List.eraseP_cons, decide_eq_false isKey,
          attributionsOf_cons_other _ isKey, ← inductionHypothesis]
        exact attributionsOf_cons_other _ isKey

theorem attributionsOf_eraseP_other {other : String} (differs : other ≠ key) :
    attributionsOf (records.eraseP fun record =>
        decide (record.snapshotHash = key)) other =
      attributionsOf records other := by
  induction records with
  | nil => rfl
  | cons record rest inductionHypothesis =>
      by_cases isKey : record.snapshotHash = key
      · have notOther : record.snapshotHash ≠ other := fun same =>
          differs (same.symm.trans isKey)
        rw [List.eraseP_cons, decide_eq_true isKey,
          attributionsOf_cons_other _ notOther]
        rfl
      · rw [List.eraseP_cons, decide_eq_false isKey, cond_false]
        by_cases isOther : record.snapshotHash = other
        · subst isOther
          rw [attributionsOf_cons_self, attributionsOf_cons_self,
            inductionHypothesis]
        · rw [attributionsOf_cons_other _ isOther, inductionHypothesis,
            attributionsOf_cons_other _ isOther]

/-- The first record of a content is the one that a change consumes. -/
theorem find?_attribution :
    (records.find? fun record => decide (record.snapshotHash = key)).map
        ContentRecord.attribution =
      (attributionsOf records key).head? := by
  unfold attributionsOf
  rw [List.head?_map, List.head?_filter]

end Records

/-! ## Expired records -/

section Ledger

variable {store : OriginStore} {now later : Nat} {key : String}

theorem pruneExpired_pruneExpired (inOrder : now ≤ later) :
    (store.pruneExpired now).pruneExpired later =
      store.pruneExpired later := by
  unfold pruneExpired
  simp only [List.filter_filter, mk.injEq]
  constructor
  · apply List.filter_congr
    intro record _
    rw [← Bool.decide_and, decide_eq_decide]
    exact ⟨And.left, fun live => ⟨live, inOrder.trans live⟩⟩
  · apply List.filter_congr
    intro record _
    rw [← Bool.decide_and, decide_eq_decide]
    exact ⟨And.left, fun live => ⟨live, inOrder.trans live⟩⟩

theorem liveAt_pruneExpired : (store.pruneExpired now).LiveAt now := by
  constructor
  · intro record member
    exact of_decide_eq_true (List.mem_filter.mp member).2
  · intro record member
    exact of_decide_eq_true (List.mem_filter.mp member).2

theorem liveAt_attribute :
    (store.attributeObservedChange now key).2.LiveAt now := by
  have live : (store.pruneExpired now).LiveAt now := liveAt_pruneExpired
  unfold attributeObservedChange
  simp only
  split
  · refine ⟨fun record member => ?_, fun record member => ?_⟩
    · exact live.1 record (List.mem_of_mem_eraseP member)
    · exact live.2 record (List.mem_of_mem_eraseP member)
  · split
    · rename_i stored rest queue
      refine ⟨fun record member => ?_, live.2⟩
      exact live.1 record (queue ▸ List.mem_cons_of_mem stored member)
    · exact live

theorem sameAttributions_pruneExpired (inOrder : now ≤ later) :
    SameAttributions later (store.pruneExpired now) store := by
  intro changes comeAfter
  cases changes with
  | nil => rfl
  | cons change rest =>
      unfold attributions attributeObservedChange
      rw [pruneExpired_pruneExpired (inOrder.trans comeAfter.1)]

/-! ## What a change reads of a live ledger -/

def answer : Option SelfWriteAttribution → ClipboardChangeOrigin
  | some attribution => attributionToOrigin attribution
  | none => .localCapture

theorem answer_injective : Function.Injective answer := by
  intro first second same
  cases first with
  | none =>
      cases second with
      | none => rfl
      | some attribution => cases attribution <;> cases same
  | some first =>
      cases second with
      | none => cases first <;> cases same
      | some second =>
          cases first <;> cases second <;> first | rfl | cases same

/-- The attributions of the fallbacks, the oldest first. -/
def fallbackQueue (store : OriginStore) : List SelfWriteAttribution :=
  store.nextChanges.map NextChangeRecord.attribution

theorem attribute_of_recorded {attribution : SelfWriteAttribution}
    {rest : List SelfWriteAttribution} (live : store.LiveAt now)
    (recorded : attributionsOf store.contentRecords key =
      attribution :: rest) :
    store.attributeObservedChange now key =
      (answer (some attribution), {
        nextChanges := retire store.nextChanges key attribution
        contentRecords := store.contentRecords.eraseP fun record =>
          decide (record.snapshotHash = key) }) := by
  have found : (store.contentRecords.find? fun record =>
      decide (record.snapshotHash = key)).map ContentRecord.attribution =
        some attribution := by
    rw [find?_attribution, recorded]
    rfl
  obtain ⟨stored, isStored, same⟩ := Option.map_eq_some_iff.mp found
  subst same
  unfold attributeObservedChange
  simp only [pruneExpired_of_live live, isStored]
  rfl

theorem attribute_of_unrecorded (live : store.LiveAt now)
    (unrecorded : attributionsOf store.contentRecords key = []) :
    store.attributeObservedChange now key =
      (answer store.fallbackQueue.head?,
        { store with nextChanges := store.nextChanges.tail }) := by
  have notFound : (store.contentRecords.find? fun record =>
      decide (record.snapshotHash = key)) = none := by
    apply List.find?_eq_none.mpr
    intro record member
    simpa using attributionsOf_eq_nil_iff.mp unrecorded record member
  unfold attributeObservedChange
  simp only [pruneExpired_of_live live, notFound]
  rcases store with ⟨nextChanges, contentRecords⟩
  cases nextChanges with
  | nil => rfl
  | cons stored rest => rfl

end Ledger

/-! ## What the answers determine -/

section Answers

variable {left right : OriginStore} {now : Nat} {key : String}

theorem SameAttributions.attribute (same : SameAttributions now left right)
    (key : String) :
    (left.attributeObservedChange now key).1 =
        (right.attributeObservedChange now key).1 ∧
      SameAttributions now (left.attributeObservedChange now key).2
        (right.attributeObservedChange now key).2 := by
  have first := same [(now, key)] ⟨Nat.le_refl now, trivial⟩
  refine ⟨(List.cons.inj first).1, ?_⟩
  intro changes comeAfter
  have all := same ((now, key) :: changes) ⟨Nat.le_refl now, comeAfter⟩
  exact (List.cons.inj all).2

theorem exists_unrecorded (left right : List ContentRecord) :
    ∃ key, attributionsOf left key = [] ∧ attributionsOf right key = [] := by
  obtain ⟨key, isNew⟩ := Infinite.exists_notMem_finset
    ((left ++ right).map ContentRecord.snapshotHash).toFinset
  rw [List.mem_toFinset, List.mem_map] at isNew
  refine ⟨key, ?_, ?_⟩
  · apply attributionsOf_eq_nil_iff.mpr
    intro record member isKey
    exact isNew ⟨record, List.mem_append_left right member, isKey⟩
  · apply attributionsOf_eq_nil_iff.mpr
    intro record member isKey
    exact isNew ⟨record, List.mem_append_right left member, isKey⟩

theorem SameAttributions.fallbacks (same : SameAttributions now left right)
    (leftLive : left.LiveAt now) (rightLive : right.LiveAt now) :
    left.fallbackQueue = right.fallbackQueue ∧
      SameAttributions now { left with nextChanges := [] }
        { right with nextChanges := [] } := by
  obtain ⟨key, leftNew, rightNew⟩ :=
    exists_unrecorded left.contentRecords right.contentRecords
  rcases left with ⟨leftQueue, leftRecords⟩
  rcases right with ⟨rightQueue, rightRecords⟩
  induction leftQueue generalizing rightQueue with
  | nil =>
      cases rightQueue with
      | nil => exact ⟨rfl, same⟩
      | cons second more =>
          have sameAnswer := (same.attribute key).1
          rw [attribute_of_unrecorded leftLive leftNew,
            attribute_of_unrecorded rightLive rightNew] at sameAnswer
          cases answer_injective (by simpa only using sameAnswer)
  | cons first others inductionHypothesis =>
      obtain ⟨sameAnswer, rest⟩ := same.attribute key
      rw [attribute_of_unrecorded leftLive leftNew,
        attribute_of_unrecorded rightLive rightNew] at sameAnswer rest
      have sameHead := answer_injective (by simpa only using sameAnswer)
      cases rightQueue with
      | nil => cases sameHead
      | cons second more =>
          have leftStays : OriginStore.LiveAt ⟨others, leftRecords⟩ now :=
            ⟨fun record member => leftLive.1 record
              (List.mem_cons_of_mem first member), leftLive.2⟩
          have rightStays : OriginStore.LiveAt ⟨more, rightRecords⟩ now :=
            ⟨fun record member => rightLive.1 record
              (List.mem_cons_of_mem second member), rightLive.2⟩
          obtain ⟨sameTail, drained⟩ := inductionHypothesis leftStays leftNew
            more rightStays rightNew rest
          refine ⟨?_, drained⟩
          have sameFirst : first.attribution = second.attribution :=
            Option.some.inj sameHead
          unfold fallbackQueue at sameTail ⊢
          rw [List.map_cons, List.map_cons, sameFirst]
          exact congrArg _ sameTail

theorem SameAttributions.records_of_noFallback
    (same : SameAttributions now left right) (leftLive : left.LiveAt now)
    (rightLive : right.LiveAt now) (leftNone : left.nextChanges = [])
    (rightNone : right.nextChanges = []) (key : String) :
    attributionsOf left.contentRecords key =
      attributionsOf right.contentRecords key := by
  induction isLeft : attributionsOf left.contentRecords key
    generalizing left right with
  | nil =>
      cases isRight : attributionsOf right.contentRecords key with
      | nil => rfl
      | cons second more =>
          have sameAnswer := (same.attribute key).1
          rw [attribute_of_unrecorded leftLive isLeft,
            attribute_of_recorded rightLive isRight] at sameAnswer
          have sameHead := answer_injective (by simpa only using sameAnswer)
          unfold fallbackQueue at sameHead
          rw [leftNone] at sameHead
          cases sameHead
  | cons first others inductionHypothesis =>
      cases isRight : attributionsOf right.contentRecords key with
      | nil =>
          have sameAnswer := (same.attribute key).1
          rw [attribute_of_recorded leftLive isLeft,
            attribute_of_unrecorded rightLive isRight] at sameAnswer
          have sameHead := answer_injective (by simpa only using sameAnswer)
          unfold fallbackQueue at sameHead
          rw [rightNone] at sameHead
          cases sameHead
      | cons second more =>
          obtain ⟨sameAnswer, rest⟩ := same.attribute key
          have leftStays : (left.attributeObservedChange now key).2.LiveAt
              now := liveAt_attribute
          have rightStays : (right.attributeObservedChange now key).2.LiveAt
              now := liveAt_attribute
          rw [attribute_of_recorded leftLive isLeft] at sameAnswer rest leftStays
          rw [attribute_of_recorded rightLive isRight] at sameAnswer rest
          rw [attribute_of_recorded rightLive isRight] at rightStays
          have sameFirst : first = second :=
            Option.some.inj (answer_injective (by simpa only using sameAnswer))
          have leftTail : attributionsOf (left.contentRecords.eraseP
              fun record => decide (record.snapshotHash = key)) key =
                others := by
            rw [attributionsOf_eraseP_self, isLeft]
            rfl
          have rightTail : attributionsOf (right.contentRecords.eraseP
              fun record => decide (record.snapshotHash = key)) key =
                more := by
            rw [attributionsOf_eraseP_self, isRight]
            rfl
          have tails := inductionHypothesis rest leftStays rightStays
            (by rw [leftNone]; rfl) (by rw [rightNone]; rfl) leftTail
          rw [sameFirst, tails]
          exact congrArg _ rightTail

theorem SameAttributions.records (same : SameAttributions now left right)
    (leftLive : left.LiveAt now) (rightLive : right.LiveAt now)
    (key : String) :
    attributionsOf left.contentRecords key =
      attributionsOf right.contentRecords key := by
  have drained := (same.fallbacks leftLive rightLive).2
  exact drained.records_of_noFallback ⟨nofun, leftLive.2⟩ ⟨nofun, rightLive.2⟩
    rfl rfl key

end Answers

/-! ## Arming a record and taking it back -/

/-- The record of the content is armed when the call begins, and consumed when
the write has failed. -/
def afterFailedWrite (store : OriginStore) (began failed : Nat) (key : String)
    (intent : ClipboardWriteIntent) : OriginStore :=
  ((store.recordSelfWrite began (.byContent key) intent.attribution
    intent.echoBudget).attributeObservedChange failed key).2

/-- The armed record is the only one of its content and displaces no other, the
write that fails has no fallback pending, and the record is still there when it
is taken back, if a fallback could be taken in its place. -/
structure UnwindsExactly (store : OriginStore) (key : String)
    (intent : ClipboardWriteIntent) (duration : Nat) : Prop where
  unrecorded : ∀ record ∈ store.contentRecords, record.snapshotHash ≠ key
  room : store.contentRecords.length < contentRecordMax
  noFallback : ∀ record ∈ store.nextChanges,
    ¬ (record.guardKey = key ∧ record.attribution = intent.attribution)
  inTime : duration ≤ intent.echoBudget ∨ store.nextChanges = []

section FailedWrite

variable {store : OriginStore} {began failed : Nat} {key : String}
variable {intent : ClipboardWriteIntent}

theorem retire_of_absent {records : List NextChangeRecord}
    {attribution : SelfWriteAttribution}
    (absent : ∀ record ∈ records,
      ¬ (record.guardKey = key ∧ record.attribution = attribution)) :
    retire records key attribution = records := by
  unfold retire
  apply List.eraseP_of_forall_not
  intro record member same
  exact absent record member (of_decide_eq_true same)

/-- The records that are there when the write has failed. -/
def armedRecords (records : List ContentRecord) (failed : Nat)
    (armed : ContentRecord) : List ContentRecord :=
  (rememberContentRecord records armed).filter fun record =>
    decide (failed ≤ record.expiresAt)

theorem afterFailedWrite_eq (live : store.LiveAt began)
    (stillLive : store.LiveAt failed) :
    store.afterFailedWrite began failed key intent =
      ((⟨store.nextChanges, armedRecords store.contentRecords failed
        ⟨key, intent.attribution, began + intent.echoBudget⟩⟩ :
          OriginStore).attributeObservedChange failed key).2 := by
  have armed : store.recordSelfWrite began (.byContent key) intent.attribution
      intent.echoBudget = { store with
        contentRecords := rememberContentRecord store.contentRecords
          ⟨key, intent.attribution, began + intent.echoBudget⟩ } := by
    unfold recordSelfWrite
    simp only [pruneExpired_of_live live]
  have pending : store.nextChanges.filter
      (fun record => decide (failed ≤ record.expiresAt)) =
        store.nextChanges := by
    apply List.filter_eq_self.mpr
    intro record member
    exact decide_eq_true (stillLive.1 record member)
  unfold afterFailedWrite
  rw [armed]
  unfold attributeObservedChange armedRecords pruneExpired
  simp only [List.filter_filter, Bool.and_self, pending]

theorem liveAt_armedRecords {armed : ContentRecord}
    (stillLive : store.LiveAt failed) :
    OriginStore.LiveAt ⟨store.nextChanges,
      armedRecords store.contentRecords failed armed⟩ failed :=
  ⟨stillLive.1, fun _ member =>
    of_decide_eq_true (List.mem_filter.mp member).2⟩

theorem keepLatest_append {α : Type} {max : Nat} (records : List α) (fresh : α)
    (room : 0 < max) :
    keepLatest max (records ++ [fresh]) =
      records.drop (records.length + 1 - max) ++ [fresh] := by
  unfold keepLatest
  rw [List.length_append, List.length_singleton]
  exact List.drop_append_of_le_length (by omega)

theorem armedRecords_fresh {records : List ContentRecord}
    {armed : ContentRecord}
    (live : ∀ record ∈ records, failed ≤ record.expiresAt)
    (absent : ∀ record ∈ records, ¬ (record.snapshotHash = armed.snapshotHash ∧
      record.attribution = armed.attribution)) :
    armedRecords records failed armed =
      records.drop (records.length + 1 - contentRecordMax) ++
        if failed ≤ armed.expiresAt then [armed] else [] := by
  have notThere : (records.any fun record =>
      decide (record.snapshotHash = armed.snapshotHash ∧
        record.attribution = armed.attribution)) ≠ true := by
    rw [ne_eq, List.any_eq_true]
    rintro ⟨record, member, same⟩
    exact absent record member (of_decide_eq_true same)
  have allLive : (records.drop (records.length + 1 - contentRecordMax)).filter
      (fun record => decide (failed ≤ record.expiresAt)) =
        records.drop (records.length + 1 - contentRecordMax) := by
    apply List.filter_eq_self.mpr
    intro record member
    exact decide_eq_true (live record (List.mem_of_mem_drop member))
  unfold armedRecords rememberContentRecord remember
  rw [if_neg notThere, keepLatest_append records armed (by decide),
    List.filter_append, allLive, List.filter_cons, List.filter_nil]
  simp only [decide_eq_true_eq]

theorem attributionsOf_refreshFirst {isSame : ContentRecord → Bool}
    {expiresAt : Nat} (records : List ContentRecord) (key : String) :
    attributionsOf (refreshFirst isSame
        (fun record => { record with expiresAt := expiresAt }) records) key =
      attributionsOf records key := by
  induction records with
  | nil => rfl
  | cons record rest inductionHypothesis =>
      unfold refreshFirst
      split
      · unfold attributionsOf
        rw [List.filter_cons, List.filter_cons]
        split
        · rfl
        · rfl
      · by_cases isKey : record.snapshotHash = key
        · subst isKey
          rw [attributionsOf_cons_self, attributionsOf_cons_self,
            inductionHypothesis]
        · rw [attributionsOf_cons_other _ isKey,
            attributionsOf_cons_other _ isKey, inductionHypothesis]

theorem armedRecords_refreshed {records : List ContentRecord}
    {armed : ContentRecord}
    (isThere : ∃ record ∈ records, record.snapshotHash = armed.snapshotHash ∧
      record.attribution = armed.attribution) :
    (attributionsOf (armedRecords records failed armed) key).length ≤
      (attributionsOf records key).length := by
  obtain ⟨record, member, same⟩ := isThere
  have any : (records.any fun record =>
      decide (record.snapshotHash = armed.snapshotHash ∧
        record.attribution = armed.attribution)) = true :=
    List.any_eq_true.mpr ⟨record, member, decide_eq_true same⟩
  unfold armedRecords rememberContentRecord remember
  rw [if_pos any, ← attributionsOf_refreshFirst records key]
  unfold attributionsOf
  rw [List.length_map, List.length_map]
  exact (List.filter_sublist.filter _).length_le

theorem length_attributionsOf_drop (records : List ContentRecord) (count : Nat)
    (key : String) :
    (attributionsOf (records.drop count) key).length ≤
      (attributionsOf records key).length := by
  unfold attributionsOf
  rw [List.length_map, List.length_map]
  exact ((List.drop_sublist count records).filter _).length_le

theorem attribute_records (live : store.LiveAt failed) :
    attributionsOf (store.attributeObservedChange failed key).2.contentRecords
        key = (attributionsOf store.contentRecords key).tail ∧
      ∀ other, other ≠ key →
        attributionsOf
            (store.attributeObservedChange failed key).2.contentRecords other =
          attributionsOf store.contentRecords other := by
  cases isRecorded : attributionsOf store.contentRecords key with
  | nil =>
      rw [attribute_of_unrecorded live isRecorded]
      exact ⟨isRecorded, fun _ _ => rfl⟩
  | cons attribution rest =>
      rw [attribute_of_recorded live isRecorded]
      refine ⟨?_, fun other differs => attributionsOf_eraseP_other differs⟩
      simp only
      rw [attributionsOf_eraseP_self, isRecorded]

theorem afterFailedWrite_of_unwindsExactly (live : store.LiveAt began)
    (stillLive : store.LiveAt failed)
    (unwinds : store.UnwindsExactly key intent (failed - began)) :
    store.afterFailedWrite began failed key intent = store := by
  have unrecorded := attributionsOf_eq_nil_iff.mpr unwinds.unrecorded
  have absent : ∀ record ∈ store.contentRecords,
      ¬ (record.snapshotHash = key ∧
        record.attribution = intent.attribution) :=
    fun record member same => unwinds.unrecorded record member same.1
  have noneDropped :
      store.contentRecords.length + 1 - contentRecordMax = 0 :=
    Nat.sub_eq_zero_of_le unwinds.room
  have armed : armedRecords store.contentRecords failed
      ⟨key, intent.attribution, began + intent.echoBudget⟩ = _ :=
    armedRecords_fresh stillLive.2 absent
  have stillThere : OriginStore.LiveAt ⟨store.nextChanges,
      armedRecords store.contentRecords failed
        ⟨key, intent.attribution, began + intent.echoBudget⟩⟩ failed :=
    liveAt_armedRecords stillLive
  rw [noneDropped, List.drop_zero] at armed
  rw [afterFailedWrite_eq live stillLive]
  rw [armed] at stillThere ⊢
  by_cases inTime : failed ≤ began + intent.echoBudget
  · rw [if_pos inTime] at stillThere ⊢
    have recorded : attributionsOf (store.contentRecords ++
        [⟨key, intent.attribution, began + intent.echoBudget⟩]) key =
          [intent.attribution] := by
      rw [attributionsOf_append, unrecorded]
      exact attributionsOf_cons_self _ []
    rw [attribute_of_recorded stillThere recorded]
    simp only
    rw [retire_of_absent unwinds.noFallback, List.eraseP_append_right,
      List.eraseP_cons, decide_eq_true rfl]
    · rw [cond_true, List.append_nil]
    · intro record member
      simpa using unwinds.unrecorded record member
  · rw [if_neg inTime, List.append_nil] at stillThere ⊢
    have isEmpty : store.nextChanges = [] := by
      rcases unwinds.inTime with soon | isEmpty
      · omega
      · exact isEmpty
    rw [attribute_of_unrecorded stillThere unrecorded]
    rcases store with ⟨nextChanges, contentRecords⟩
    subst isEmpty
    rfl

theorem unrecorded_of_same (live : store.LiveAt began)
    (stillLive : store.LiveAt failed)
    (same : (attributionsOf
      (store.afterFailedWrite began failed key intent).contentRecords key) =
        attributionsOf store.contentRecords key) :
    attributionsOf store.contentRecords key = [] := by
  rw [afterFailedWrite_eq live stillLive,
    (attribute_records (liveAt_armedRecords stillLive)).1] at same
  simp only at same
  by_contra isRecorded
  have nonempty := List.length_pos_iff.mpr isRecorded
  have lengths := congrArg List.length same
  rw [List.length_tail] at lengths
  by_cases isThere : ∃ record ∈ store.contentRecords,
      record.snapshotHash = key ∧ record.attribution = intent.attribution
  · -- The record that is there is refreshed, and then it is gone.
    have noMore : (attributionsOf (armedRecords store.contentRecords failed
        ⟨key, intent.attribution, began + intent.echoBudget⟩) key).length ≤ _ :=
      armedRecords_refreshed isThere
    omega
  · have absent : ∀ record ∈ store.contentRecords,
        ¬ (record.snapshotHash = key ∧
          record.attribution = intent.attribution) :=
      fun record member both => isThere ⟨record, member, both⟩
    have armed : armedRecords store.contentRecords failed
        ⟨key, intent.attribution, began + intent.echoBudget⟩ = _ :=
      armedRecords_fresh stillLive.2 absent
    have notLonger := length_attributionsOf_drop store.contentRecords
      (store.contentRecords.length + 1 - contentRecordMax) key
    rw [armed, attributionsOf_append] at same lengths
    by_cases inTime : failed ≤ began + intent.echoBudget
    · -- The armed record comes last, and it is of another attribution.
      rw [if_pos inTime] at same
      have last : attributionsOf
          [⟨key, intent.attribution, began + intent.echoBudget⟩] key =
            [intent.attribution] := attributionsOf_cons_self _ []
      rw [last] at same
      cases left : attributionsOf (store.contentRecords.drop
          (store.contentRecords.length + 1 - contentRecordMax)) key with
      | nil =>
          rw [left] at same
          exact isRecorded same.symm
      | cons first others =>
          rw [left] at same
          have isAmong : intent.attribution ∈
              attributionsOf store.contentRecords key := by
            rw [← same]
            exact List.mem_append_right others (List.mem_singleton.mpr rfl)
          obtain ⟨record, member, isOurs⟩ := List.mem_map.mp isAmong
          obtain ⟨isThere, isKey⟩ := List.mem_filter.mp member
          exact absent record isThere ⟨of_decide_eq_true isKey, isOurs⟩
    · rw [if_neg inTime, List.length_append] at lengths
      have noneArmed : (attributionsOf [] key).length = 0 := rfl
      omega

theorem unwindsExactly_of_same (live : store.LiveAt began)
    (stillLive : store.LiveAt failed)
    (same : SameAttributions failed
      (store.afterFailedWrite began failed key intent) store) :
    store.UnwindsExactly key intent (failed - began) := by
  have afterLive : (store.afterFailedWrite began failed key intent).LiveAt
      failed := liveAt_attribute
  have sameRecords := same.records afterLive stillLive
  have sameQueue := (same.fallbacks afterLive stillLive).1
  have unrecorded := unrecorded_of_same live stillLive (sameRecords key)
  have isNew := attributionsOf_eq_nil_iff.mp unrecorded
  have absent : ∀ record ∈ store.contentRecords,
      ¬ (record.snapshotHash = key ∧
        record.attribution = intent.attribution) :=
    fun record member both => isNew record member both.1
  have armed : armedRecords store.contentRecords failed
      ⟨key, intent.attribution, began + intent.echoBudget⟩ = _ :=
    armedRecords_fresh stillLive.2 absent
  have stillThere : OriginStore.LiveAt ⟨store.nextChanges,
      armedRecords store.contentRecords failed
        ⟨key, intent.attribution, began + intent.echoBudget⟩⟩ failed :=
    liveAt_armedRecords stillLive
  rw [afterFailedWrite_eq live stillLive] at sameRecords sameQueue
  have noneKept : attributionsOf (store.contentRecords.drop
      (store.contentRecords.length + 1 - contentRecordMax)) key = [] := by
    apply attributionsOf_eq_nil_iff.mpr
    intro record member
    exact isNew record (List.mem_of_mem_drop member)
  have takesBack : failed ≤ began + intent.echoBudget →
      ∀ record ∈ store.nextChanges,
        ¬ (record.guardKey = key ∧ record.attribution = intent.attribution) := by
    intro inTime record member both
    have recorded : attributionsOf (armedRecords store.contentRecords failed
        ⟨key, intent.attribution, began + intent.echoBudget⟩) key =
          [intent.attribution] := by
      rw [armed, if_pos inTime, attributionsOf_append, noneKept]
      exact attributionsOf_cons_self _ []
    rw [attribute_of_recorded stillThere recorded] at sameQueue
    have lengths := congrArg List.length sameQueue
    unfold fallbackQueue retire at lengths
    rw [List.length_map, List.length_map,
      List.length_eraseP_of_mem member (decide_eq_true both)] at lengths
    have nonempty := List.length_pos_of_mem member
    omega
  have takesFallback : ¬ failed ≤ began + intent.echoBudget →
      store.nextChanges = [] := by
    intro late
    have noRecord : attributionsOf (armedRecords store.contentRecords failed
        ⟨key, intent.attribution, began + intent.echoBudget⟩) key = [] := by
      rw [armed, if_neg late, List.append_nil]
      exact noneKept
    rw [attribute_of_unrecorded stillThere noRecord] at sameQueue
    have lengths := congrArg List.length sameQueue
    unfold fallbackQueue at lengths
    simp only [List.length_map, List.length_tail] at lengths
    apply List.length_eq_zero_iff.mp
    omega
  refine ⟨isNew, ?_, ?_, ?_⟩
  · -- The oldest record would have been displaced.
    by_contra isFull
    cases isList : store.contentRecords with
    | nil =>
        rw [isList] at isFull
        exact isFull (by decide)
    | cons first rest =>
        have differs : first.snapshotHash ≠ key :=
          isNew first (isList ▸ List.mem_cons_self)
        have sameFirst := sameRecords first.snapshotHash
        rw [(attribute_records stillThere).2 _ differs, armed,
          attributionsOf_append] at sameFirst
        have noneArmed : attributionsOf
            (if failed ≤ began + intent.echoBudget then
              [⟨key, intent.attribution, began + intent.echoBudget⟩]
            else []) first.snapshotHash = [] := by
          apply attributionsOf_eq_nil_iff.mpr
          intro record member
          split at member
          · rw [List.mem_singleton.mp member]
            exact fun isKey => differs isKey.symm
          · cases member
        have displaced : store.contentRecords.length + 1 - contentRecordMax =
            (store.contentRecords.length - contentRecordMax) + 1 := by
          omega
        have shorter := length_attributionsOf_drop rest
          (store.contentRecords.length - contentRecordMax) first.snapshotHash
        rw [noneArmed, List.append_nil, displaced] at sameFirst
        rw [isList] at sameFirst shorter
        rw [List.drop_succ_cons, attributionsOf_cons_self] at sameFirst
        rw [sameFirst, List.length_cons] at shorter
        omega
  · by_cases inTime : failed ≤ began + intent.echoBudget
    · exact takesBack inTime
    · rw [takesFallback inTime]
      exact nofun
  · by_cases inTime : failed ≤ began + intent.echoBudget
    · left
      omega
    · right
      exact takesFallback inTime

theorem sameAttributions_afterFailedWrite_iff (live : store.LiveAt began)
    (stillLive : store.LiveAt failed) :
    SameAttributions failed (store.afterFailedWrite began failed key intent)
        store ↔
      store.UnwindsExactly key intent (failed - began) := by
  constructor
  · exact unwindsExactly_of_same live stillLive
  · intro unwinds changes _
    rw [afterFailedWrite_of_unwindsExactly live stillLive unwinds]

theorem afterFailedWrite_pruneExpired :
    (store.pruneExpired began).afterFailedWrite began failed key intent =
      store.afterFailedWrite began failed key intent := by
  unfold afterFailedWrite recordSelfWrite
  rw [pruneExpired_pruneExpired (Nat.le_refl began)]

end FailedWrite

end OriginStore

namespace EchoState

/-- A call of `write` that returns an error: the breaker refuses it, or the OS
write fails after some time. -/
def failingWrite (env : EchoEnv) (state : EchoState) (id : Nat)
    (snapshot : SystemClipboardSnapshot) (intent : ClipboardWriteIntent)
    (duration : Nat) : Option EchoState :=
  if state.circuitRefuses then
    state.beginWrite env id snapshot intent
  else
    execute (step env) state
      [.beginWrite id snapshot intent, .wait duration, .failWrite id,
        .unwindWrite id]

variable {env : EchoEnv} {state after : EchoState} {id duration : Nat}
variable {snapshot : SystemClipboardSnapshot} {intent : ClipboardWriteIntent}
variable {key : String}

theorem failingWrite_ledger
    (keyed : snapshot.originGuardKey env.blake3 env.readFile = some key)
    (failing : state.failingWrite env id snapshot intent duration =
      some after) :
    (state.circuitRefuses = true ∧ after = state) ∨
      (state.circuitRefuses = false ∧
        after.now = state.now + duration ∧
        after.ledger = state.ledger.afterFailedWrite state.now
          (state.now + duration) key intent) := by
  unfold failingWrite at failing
  split at failing
  · rename_i isOpen
    left
    refine ⟨isOpen, ?_⟩
    unfold beginWrite at failing
    rw [keyed] at failing
    cases isNew : state.writes.find id with
    | none =>
        rw [isNew] at failing
        simp only [isOpen, if_true] at failing
        exact (Option.some.inj failing).symm
    | some task =>
        rw [isNew] at failing
        cases failing
  · rename_i isClosed
    right
    refine ⟨Bool.eq_false_of_not_eq_true isClosed, ?_⟩
    cases isNew : state.writes.find id with
    | some task =>
        have refused : state.beginWrite env id snapshot intent = none := by
          unfold beginWrite
          rw [isNew]
        simp only [execute, step, refused] at failing
        cases failing
    | none =>
        have began : state.beginWrite env id snapshot intent =
            some (state.recorded id key intent) := by
          unfold beginWrite
          rw [isNew, keyed]
          exact if_neg isClosed
        have armed : (state.recorded id key intent).writes.find id =
            some ⟨key, intent, .recorded⟩ := Table.find_put_self
        simp only [execute, step, began, failWrite, unwindWrite, atStage,
          armed, if_true, setStage, Table.find_put_self] at failing
        rw [← Option.some.inj failing]
        exact ⟨rfl, rfl⟩

/-- While no pending record expires, a failed write leaves the ledger as it was
exactly if the breaker refused it or the record could be taken back. -/
theorem failedWrite_sameAttributions_iff
    (keyed : snapshot.originGuardKey env.blake3 env.readFile = some key)
    (failing : state.failingWrite env id snapshot intent duration = some after)
    (noneExpires : (state.ledger.pruneExpired state.now).LiveAt
      (state.now + duration)) :
    after.ledger.SameAttributions after.now state.ledger ↔
      state.circuitRefuses = true ∨
        (state.ledger.pruneExpired state.now).UnwindsExactly key intent
          duration := by
  rcases failingWrite_ledger keyed failing with ⟨isOpen, same⟩ |
      ⟨isClosed, isNow, isLedger⟩
  · subst same
    exact iff_of_true (fun _ _ => rfl) (Or.inl isOpen)
  · have notOpen : ¬ state.circuitRefuses = true := by
      rw [isClosed]
      decide
    have pruned : (state.ledger.pruneExpired state.now).SameAttributions
        (state.now + duration) state.ledger :=
      OriginStore.sameAttributions_pruneExpired (Nat.le_add_right _ _)
    have unwinds : _ ↔ (state.ledger.pruneExpired state.now).UnwindsExactly key
        intent (state.now + duration - state.now) :=
      OriginStore.sameAttributions_afterFailedWrite_iff
        OriginStore.liveAt_pruneExpired noneExpires
    rw [OriginStore.afterFailedWrite_pruneExpired, Nat.add_sub_cancel_left]
      at unwinds
    rw [or_iff_right notOpen, isNow, isLedger, ← unwinds]
    constructor
    · intro same changes comeAfter
      rw [same changes comeAfter, pruned changes comeAfter]
    · intro same changes comeAfter
      rw [same changes comeAfter, pruned changes comeAfter]

/-- A write of what nothing is pending for. -/
theorem failedFirstWrite_sameAttributions :
    ∃ after, fresh.failingWrite sampleEnv 0 (sampleText "a") .remotePush 100 =
        some after ∧
      after.ledger.SameAttributions after.now fresh.ledger := by
  have keyed : ((sampleText "a").originGuardKey sampleEnv.blake3
      sampleEnv.readFile).isSome = true := by
    decide +kernel
  have ran : (fresh.failingWrite sampleEnv 0 (sampleText "a") .remotePush
      100).isSome = true := by
    decide +kernel
  obtain ⟨key, isKey⟩ := Option.isSome_iff_exists.mp keyed
  obtain ⟨after, failing⟩ := Option.isSome_iff_exists.mp ran
  refine ⟨after, failing, ?_⟩
  apply (failedWrite_sameAttributions_iff isKey failing ⟨nofun, nofun⟩).mpr
  right
  exact ⟨nofun, by decide, nofun, Or.inr rfl⟩

def pushLanded : EchoState :=
  (execute (step sampleEnv) fresh
    [.beginWrite 0 (sampleText "a") .remotePush,
      .landWrite 0 (sampleText "a"), .armFallback 0]).getD fresh

def pushedKey : String :=
  ((sampleText "a").originGuardKey sampleEnv.blake3 sampleEnv.readFile).getD ""

/-- When a second push of the same content fails, the echo of the first is
attributed to the user. -/
theorem failedSecondPush_takesRecord :
    ¬ ∀ (env : EchoEnv) (state after : EchoState) (id duration : Nat)
      (snapshot : SystemClipboardSnapshot) (intent : ClipboardWriteIntent),
      state.failingWrite env id snapshot intent duration = some after →
      (state.ledger.pruneExpired state.now).LiveAt (state.now + duration) →
      after.ledger.SameAttributions after.now state.ledger := by
  intro unchanged
  have ran : (pushLanded.failingWrite sampleEnv 1 (sampleText "a") .remotePush
      100).map (fun after => (after.now,
        after.ledger.attributions [(100, pushedKey)])) =
      some (100, [.localCapture]) := by
    decide +kernel
  have noneExpires : (pushLanded.ledger.pruneExpired pushLanded.now).LiveAt
      (pushLanded.now + 100) := by
    decide +kernel
  have before : pushLanded.ledger.attributions [(100, pushedKey)] =
      [.remotePush none] := by
    decide +kernel
  obtain ⟨after, failing, seen⟩ := Option.map_eq_some_iff.mp ran
  obtain ⟨isNow, answered⟩ := Prod.mk.inj seen
  have same := unchanged _ _ _ _ _ _ _ failing noneExpires [(100, pushedKey)]
    ⟨isNow.le, trivial⟩
  rw [answered, before] at same
  cases same

end EchoState

end OpenClipboard
