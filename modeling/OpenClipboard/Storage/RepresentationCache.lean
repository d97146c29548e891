import Mathlib
import OpenClipboard.Library.Table
import OpenClipboard.Library.Transition

/-!
# The representation cache

Raw bytes wait in memory until they are written: a map, a queue of its keys
and a counter of its bytes.  A put evicts until both bounds hold again, the
oldest completed entry first and, when none is completed, the oldest one.
-/

namespace OpenClipboard.RepresentationCache

open Transition

inductive CacheEntryStatus where
  | pending
  | processing
  | completed
  deriving DecidableEq, Repr

structure CacheEntry where
  rawBytes : List UInt8
  status : CacheEntryStatus
  deriving DecidableEq, Repr

/-- The numbers are `usize`s. -/
structure Inner where
  entries : Table String CacheEntry
  queue : List String
  maxEntries : Nat
  maxBytes : Nat
  currentBytes : Nat

def usizeMax : Nat := 2 ^ 64 - 1

def saturatingAdd (left right : Nat) : Nat := min (left + right) usizeMax

namespace Inner

def new (maxEntries maxBytes : Nat) : Inner :=
  ⟨∅, [], maxEntries, maxBytes, 0⟩

def removeEntry (inner : Inner) (repId : String) : Inner :=
  match inner.entries.find repId with
  | some entry =>
      { inner with
        entries := inner.entries.remove repId
        currentBytes := inner.currentBytes - entry.rawBytes.length }
  | none => inner

def hasStatus (inner : Inner) (status : CacheEntryStatus) (repId : String) :
    Bool :=
  match inner.entries.find repId with
  | some entry => decide (entry.status = status)
  | none => false

def popOldestByStatus (inner : Inner) (status : CacheEntryStatus) :
    Option (String × Inner) :=
  match inner.queue.findIdx? (inner.hasStatus status) with
  | none => none
  | some pos =>
      inner.queue[pos]?.map fun repId =>
        (repId, { inner with queue := inner.queue.eraseIdx pos })

def overLimit (inner : Inner) : Bool :=
  inner.maxEntries < inner.entries.rows.length ||
    inner.maxBytes < inner.currentBytes

/-- One round of the eviction loop; `none` is its `break`. -/
def evictOne (inner : Inner) : Option Inner :=
  match inner.popOldestByStatus .completed with
  | some (evictedId, popped) => some (popped.removeEntry evictedId)
  | none =>
      match inner.queue with
      | evictedId :: later =>
          some ({ inner with queue := later }.removeEntry evictedId)
      | [] => none

/-- The loop for a number of rounds; `none` when it has not ended by then. -/
def evictLoop : Nat → Inner → Option Inner
  | 0, _ => none
  | rounds + 1, inner =>
      if inner.overLimit then
        match inner.evictOne with
        | some next => evictLoop rounds next
        | none => some inner
      else some inner

def evictIfNeeded (inner : Inner) : Option Inner :=
  inner.evictLoop (inner.queue.length + 1)

/-- `put`, up to its eviction. -/
def inserted (inner : Inner) (repId : String) (bytes : List UInt8) : Inner :=
  let removed := inner.removeEntry repId
  { removed with
    entries := removed.entries.put repId ⟨bytes, .pending⟩
    queue := removed.queue.filter (· ≠ repId) ++ [repId]
    currentBytes := saturatingAdd removed.currentBytes bytes.length }

def put (inner : Inner) (repId : String) (bytes : List UInt8) :
    Option Inner :=
  (inner.inserted repId bytes).evictIfNeeded

def get (inner : Inner) (repId : String) : Option (List UInt8) :=
  (inner.entries.find repId).map CacheEntry.rawBytes

def markAs (status : CacheEntryStatus) (inner : Inner) (repId : String) :
    Inner :=
  match inner.entries.find repId with
  | some entry =>
      { inner with
        entries := inner.entries.put repId { entry with status := status } }
  | none => inner

def markCompleted : Inner → String → Inner := markAs .completed

def markSpooling : Inner → String → Inner := markAs .processing

def markPending : Inner → String → Inner := markAs .pending

def remove (inner : Inner) (repId : String) : Inner :=
  let removed := inner.removeEntry repId
  { removed with queue := removed.queue.filter (· ≠ repId) }

end Inner

inductive Operation where
  | put (repId : String) (bytes : List UInt8)
  | get (repId : String)
  | markCompleted (repId : String)
  | markSpooling (repId : String)
  | markPending (repId : String)
  | remove (repId : String)
  deriving DecidableEq, Repr

/-- The cache after an operation; `none` is an eviction that does not end. -/
def perform (inner : Inner) : Operation → Option Inner
  | .put repId bytes => inner.put repId bytes
  | .get _ => some inner
  | .markCompleted repId => some (inner.markCompleted repId)
  | .markSpooling repId => some (inner.markSpooling repId)
  | .markPending repId => some (inner.markPending repId)
  | .remove repId => some (inner.remove repId)

/-! ## What the bookkeeping is about -/

def cachedBytes (entries : Table String CacheEntry) : Nat :=
  (entries.rows.map fun row => row.2.rawBytes.length).sum

/-- Both bounds hold. -/
def Within (maxEntries maxBytes : Nat) (entries : Table String CacheEntry) :
    Prop :=
  entries.rows.length ≤ maxEntries ∧ cachedBytes entries ≤ maxBytes

/-- The completed entries in the order of the queue, and the others after
them. -/
def Inner.evictionOrder (inner : Inner) : List String :=
  inner.queue.filter (inner.hasStatus .completed) ++
    inner.queue.filter fun repId => !inner.hasStatus .completed repId

/-- The counter and the queue are those of the entries. -/
structure Accounted (inner : Inner) : Prop where
  counted : inner.currentBytes = cachedBytes inner.entries
  listed : inner.queue.Perm inner.entries.keys

variable {inner : Inner} {entries : Table String CacheEntry}
  {entry : CacheEntry} {repId : String}

theorem Accounted.nodup (accounted : Accounted inner) :
    inner.queue.Nodup :=
  accounted.listed.nodup_iff.mpr inner.entries.keys_nodup

theorem Accounted.mem_queue_iff (accounted : Accounted inner) (repId : String) :
    repId ∈ inner.queue ↔ (inner.entries.find repId).isSome = true := by
  rw [accounted.listed.mem_iff]
  exact AList.lookup_isSome.symm

theorem Accounted.count_queue (accounted : Accounted inner) (repId : String) :
    inner.queue.count repId =
      if (inner.entries.find repId).isSome then 1 else 0 := by
  rw [accounted.nodup.count]
  simp only [accounted.mem_queue_iff]

theorem cachedBytes_remove (found : entries.find repId = some entry) :
    cachedBytes entries =
      entry.rawBytes.length + cachedBytes (entries.remove repId) := by
  unfold cachedBytes
  rw [((Table.rows_perm_remove found).map _).sum_eq, List.map_cons,
    List.sum_cons]

theorem cachedBytes_put (entries : Table String CacheEntry) (repId : String)
    (entry : CacheEntry) :
    cachedBytes (entries.put repId entry) =
      entry.rawBytes.length + cachedBytes (entries.remove repId) := by
  unfold cachedBytes
  rw [Table.rows_put, List.map_cons, List.sum_cons]

theorem keys_perm_remove (found : entries.find repId = some entry) :
    entries.keys.Perm (repId :: (entries.remove repId).keys) := by
  have permuted := (Table.rows_perm_remove found).map Prod.fst
  rw [List.map_cons, Table.keys_rows, Table.keys_rows] at permuted
  exact permuted

theorem keys_put (entries : Table String CacheEntry) (repId : String)
    (entry : CacheEntry) :
    (entries.put repId entry).keys = repId :: (entries.remove repId).keys := by
  rw [← Table.keys_rows, Table.rows_put, List.map_cons, Table.keys_rows]

theorem overLimit_eq_false_iff (accounted : Accounted inner) :
    inner.overLimit = false ↔
      Within inner.maxEntries inner.maxBytes inner.entries := by
  unfold Inner.overLimit Within
  rw [Bool.or_eq_false_iff, decide_eq_false_iff_not, decide_eq_false_iff_not,
    Nat.not_lt, Nat.not_lt, accounted.counted]

/-! ## Removing an entry -/

theorem removeEntry_of_found (found : inner.entries.find repId = some entry) :
    inner.removeEntry repId = { inner with
      entries := inner.entries.remove repId
      currentBytes := inner.currentBytes - entry.rawBytes.length } := by
  rw [Inner.removeEntry, found]

theorem removeEntry_of_absent (absent : inner.entries.find repId = none) :
    inner.removeEntry repId = inner := by
  rw [Inner.removeEntry, absent]

theorem Accounted.evict (accounted : Accounted inner) {later : List String}
    (isQueue : inner.queue.Perm (repId :: later)) :
    let next := { inner with queue := later }.removeEntry repId
    Accounted next ∧ next.entries = inner.entries.remove repId ∧
      next.queue = later ∧ next.maxEntries = inner.maxEntries ∧
      next.maxBytes = inner.maxBytes := by
  intro next
  have member : repId ∈ inner.queue :=
    isQueue.mem_iff.mpr List.mem_cons_self
  have isSome := (accounted.mem_queue_iff repId).mp member
  rcases Option.isSome_iff_exists.mp isSome with ⟨entry, found⟩
  have isNext : next = { inner with
      queue := later
      entries := inner.entries.remove repId
      currentBytes := inner.currentBytes - entry.rawBytes.length } :=
    removeEntry_of_found found
  rw [isNext]
  refine ⟨⟨?_, ?_⟩, rfl, rfl, rfl, rfl⟩
  · have total := cachedBytes_remove found
    have counted := accounted.counted
    show inner.currentBytes - entry.rawBytes.length =
      cachedBytes (inner.entries.remove repId)
    omega
  · have permuted : (repId :: later).Perm
        (repId :: (inner.entries.remove repId).keys) :=
      isQueue.symm.trans (accounted.listed.trans (keys_perm_remove found))
    exact permuted.cons_inv

theorem hasStatus_of_remove {inner next : Inner} {repId other : String}
    (isNext : next.entries = inner.entries.remove repId)
    (different : other ≠ repId) (status : CacheEntryStatus) :
    next.hasStatus status other = inner.hasStatus status other := by
  unfold Inner.hasStatus
  rw [isNext, Table.find_remove, if_neg different]

theorem evictionOrder_of_same {inner next : Inner}
    (same : ∀ other ∈ next.queue,
      next.hasStatus .completed other = inner.hasStatus .completed other) :
    next.evictionOrder = next.queue.filter (inner.hasStatus .completed) ++
      next.queue.filter fun repId => !inner.hasStatus .completed repId := by
  have others : ∀ other ∈ next.queue,
      (!next.hasStatus .completed other) =
        !inner.hasStatus .completed other := by
    intro other member
    rw [same other member]
  unfold Inner.evictionOrder
  rw [List.filter_congr same, List.filter_congr others]

/-! ## One round of the eviction -/

/-- The first item that passes a test, cut out of a list. -/
theorem findIdx?_split {α : Type} {test : α → Bool} {items : List α}
    {pos : Nat} (isFirst : items.findIdx? test = some pos) :
    ∃ before item after, items = before ++ item :: after ∧
      items[pos]? = some item ∧ items.eraseIdx pos = before ++ after ∧
      items.filter test = item :: after.filter test ∧
      (items.filter fun item => !test item) =
        (before ++ after).filter fun item => !test item := by
  induction items generalizing pos with
  | nil => cases isFirst
  | cons head tail inductionHypothesis =>
      rw [List.findIdx?_cons] at isFirst
      by_cases passes : test head = true
      · rw [if_pos passes, Option.some.injEq] at isFirst
        subst isFirst
        refine ⟨[], head, tail, rfl, rfl, rfl, ?_, ?_⟩
        · rw [List.filter_cons_of_pos passes]
        · rw [List.filter_cons_of_neg (by simp [passes]), List.nil_append]
      · rw [if_neg passes] at isFirst
        rcases Option.map_eq_some_iff.mp isFirst with ⟨earlier, inTail, rfl⟩
        rcases inductionHypothesis inTail with
          ⟨before, item, after, split, isHere, erased, kept, others⟩
        refine ⟨head :: before, item, after, ?_, ?_, ?_, ?_, ?_⟩
        · rw [split, List.cons_append]
        · rw [List.getElem?_cons_succ, isHere]
        · rw [List.eraseIdx_cons_succ, erased, List.cons_append]
        · rw [List.filter_cons_of_neg passes, kept]
        · rw [List.cons_append,
            List.filter_cons_of_pos (by simp [passes]), others,
            List.filter_cons_of_pos (by simp [passes])]

/-- A round evicts the first entry of the order. -/
theorem evictOne_spec (accounted : Accounted inner) {evictedId : String}
    {later : List String} (isOrder : inner.evictionOrder = evictedId :: later) :
    ∃ next, inner.evictOne = some next ∧ Accounted next ∧
      next.entries = inner.entries.remove evictedId ∧
      next.evictionOrder = later ∧ next.queue.Sublist inner.queue ∧
      next.queue.length + 1 = inner.queue.length ∧
      next.maxEntries = inner.maxEntries ∧ next.maxBytes = inner.maxBytes := by
  unfold Inner.evictionOrder at isOrder
  have nodup := accounted.nodup
  cases isFirst : inner.queue.findIdx? (inner.hasStatus .completed) with
  | some pos =>
      rcases findIdx?_split isFirst with
        ⟨before, item, after, split, isHere, erased, kept, others⟩
      rw [kept, List.cons_append, List.cons.injEq, others] at isOrder
      have isQueue : inner.queue.Perm (item :: (before ++ after)) := by
        rw [split]
        exact List.perm_middle
      rcases accounted.evict isQueue with
        ⟨stays, isRemoved, isLater, sameEntries, sameBytes⟩
      refine ⟨_, ?_, stays, ?_, ?_, ?_, ?_, sameEntries, sameBytes⟩
      · rw [Inner.evictOne, Inner.popOldestByStatus, isFirst]
        dsimp only
        rw [isHere, Option.map_some, erased]
      · rw [isRemoved, isOrder.1]
      · have unique := isQueue.nodup_iff.mp nodup
        rw [List.nodup_cons] at unique
        have same : ∀ other ∈
            ({ inner with queue := before ++ after }.removeEntry item).queue,
            ({ inner with queue := before ++ after }.removeEntry
              item).hasStatus .completed other =
                inner.hasStatus .completed other := by
          intro other member
          rw [isLater] at member
          apply hasStatus_of_remove isRemoved
          rintro rfl
          exact unique.1 member
        have noneBefore : before.filter (inner.hasStatus .completed) = [] := by
          have whole := kept
          rw [split, List.filter_append] at whole
          cases isBefore : before.filter (inner.hasStatus .completed) with
          | nil => rfl
          | cons first rest =>
              rw [isBefore, List.cons_append, List.cons.injEq] at whole
              have inBefore : first ∈ before := by
                apply List.mem_of_mem_filter
                rw [isBefore]
                exact List.mem_cons_self
              rw [whole.1] at inBefore
              exact absurd (List.mem_append_left after inBefore) unique.1
        rw [evictionOrder_of_same same, isLater, List.filter_append,
          noneBefore, List.nil_append]
        exact isOrder.2
      · rw [isLater, split]
        exact (List.Sublist.refl before).append
          (List.sublist_cons_self item after)
      · rw [isLater, split, List.length_append, List.length_append,
          List.length_cons]
        omega
  | none =>
      have noneCompleted : ∀ other ∈ inner.queue,
          inner.hasStatus .completed other = false := by
        intro other member
        have fails := List.findIdx?_eq_none_iff.mp isFirst other member
        simpa using fails
      have isNil : inner.queue.filter (inner.hasStatus .completed) = [] := by
        rw [List.filter_eq_nil_iff]
        intro other member
        rw [noneCompleted other member]
        exact Bool.false_ne_true
      have isAll : (inner.queue.filter fun other =>
          !inner.hasStatus .completed other) = inner.queue := by
        rw [List.filter_eq_self]
        intro other member
        rw [noneCompleted other member]
        rfl
      rw [isNil, isAll, List.nil_append] at isOrder
      have isQueue : inner.queue.Perm (evictedId :: later) := by
        rw [isOrder]
      rcases accounted.evict isQueue with
        ⟨stays, isRemoved, isLater, sameEntries, sameBytes⟩
      refine ⟨_, ?_, stays, isRemoved, ?_, ?_, ?_, sameEntries, sameBytes⟩
      · rw [Inner.evictOne, Inner.popOldestByStatus, isFirst]
        dsimp only
        rw [isOrder]
      · have unique := isQueue.nodup_iff.mp nodup
        rw [List.nodup_cons] at unique
        have same : ∀ other ∈
            ({ inner with queue := later }.removeEntry evictedId).queue,
            ({ inner with queue := later }.removeEntry
              evictedId).hasStatus .completed other =
                inner.hasStatus .completed other := by
          intro other member
          rw [isLater] at member
          apply hasStatus_of_remove isRemoved
          rintro rfl
          exact unique.1 member
        rw [evictionOrder_of_same same, isLater]
        rw [isOrder] at isNil isAll
        rw [List.filter_cons_of_neg (by
          rw [noneCompleted evictedId (by rw [isOrder]; simp)]
          exact Bool.false_ne_true)] at isNil
        rw [List.filter_cons_of_pos (by
          rw [noneCompleted evictedId (by rw [isOrder]; simp)]
          rfl)] at isAll
        rw [isNil, (List.cons.inj isAll).2, List.nil_append]
      · rw [isLater, isOrder]
        exact List.sublist_cons_self evictedId later
      · rw [isLater, isOrder, List.length_cons]

/-! ## The eviction -/

theorem length_evictionOrder (inner : Inner) :
    inner.evictionOrder.length = inner.queue.length := by
  unfold Inner.evictionOrder
  rw [List.length_append]
  exact (List.length_eq_length_filter_add _).symm

theorem within_of_queue_nil (accounted : Accounted inner)
    (isEmpty : inner.queue = []) (maxEntries maxBytes : Nat) :
    Within maxEntries maxBytes inner.entries := by
  have noKeys : inner.entries.keys = [] :=
    List.nil_perm.mp (isEmpty ▸ accounted.listed)
  have noRows : inner.entries.rows = [] := by
    rw [← Table.keys_rows] at noKeys
    exact List.map_eq_nil_iff.mp noKeys
  unfold Within cachedBytes
  rw [noRows]
  exact ⟨Nat.zero_le _, Nat.zero_le _⟩

/-- What an eviction comes to: the shortest start of the order that restores
the bounds is gone. -/
structure Evicts (inner next : Inner) : Prop where
  accounted : Accounted next
  within : Within inner.maxEntries inner.maxBytes next.entries
  sublist : next.queue.Sublist inner.queue
  sameEntries : next.maxEntries = inner.maxEntries
  sameBytes : next.maxBytes = inner.maxBytes
  shortest : ∃ count,
    next.entries =
      inner.entries.removeAll (inner.evictionOrder.take count) ∧
    ∀ fewer < count, ¬ Within inner.maxEntries inner.maxBytes
      (inner.entries.removeAll (inner.evictionOrder.take fewer))

theorem evictLoop_spec (accounted : Accounted inner) {rounds : Nat}
    (enough : inner.queue.length < rounds) :
    ∃ next, inner.evictLoop rounds = some next ∧ Evicts inner next := by
  induction rounds generalizing inner with
  | zero => exact absurd enough (Nat.not_lt_zero _)
  | succ rounds inductionHypothesis =>
      by_cases isOver : inner.overLimit = true
      · cases isOrder : inner.evictionOrder with
        | nil =>
            have isEmpty : inner.queue = [] := by
              have sameLength := length_evictionOrder inner
              rw [isOrder] at sameLength
              exact List.length_eq_zero_iff.mp sameLength.symm
            have within := within_of_queue_nil accounted isEmpty
              inner.maxEntries inner.maxBytes
            rw [(overLimit_eq_false_iff accounted).mpr within] at isOver
            cases isOver
        | cons evictedId later =>
            rcases evictOne_spec accounted isOrder with
              ⟨next, isNext, stays, isRemoved, isLater, shorter, oneLess,
                sameEntries, sameBytes⟩
            have fits : next.queue.length < rounds := by omega
            rcases inductionHypothesis stays fits with
              ⟨final, isFinal, evicts⟩
            rcases evicts.shortest with ⟨count, isRest, notBefore⟩
            rw [isLater, isRemoved] at isRest notBefore
            rw [sameEntries, sameBytes] at notBefore
            have within := evicts.within
            rw [sameEntries, sameBytes] at within
            refine ⟨final, ?_, evicts.accounted, within,
              evicts.sublist.trans shorter,
              evicts.sameEntries.trans sameEntries,
              evicts.sameBytes.trans sameBytes, count + 1, ?_, ?_⟩
            · rw [Inner.evictLoop, if_pos isOver, isNext]
              exact isFinal
            · rw [isOrder, List.take_succ_cons]
              exact isRest
            · intro fewer less
              rw [isOrder]
              cases fewer with
              | zero =>
                  intro already
                  rw [(overLimit_eq_false_iff accounted).mpr already] at isOver
                  cases isOver
              | succ fewer =>
                  rw [List.take_succ_cons]
                  exact notBefore fewer (Nat.lt_of_succ_lt_succ less)
      · have within := (overLimit_eq_false_iff accounted).mp
          (Bool.eq_false_of_not_eq_true isOver)
        refine ⟨inner, ?_, accounted, within, List.Sublist.refl _, rfl, rfl,
          0, rfl, ?_⟩
        · rw [Inner.evictLoop, if_neg isOver]
        · intro fewer less
          exact absurd less (Nat.not_lt_zero _)

/-! ## The operations -/

theorem accounted_new (maxEntries maxBytes : Nat) :
    Accounted (Inner.new maxEntries maxBytes) :=
  ⟨rfl, List.Perm.nil⟩

theorem remove_of_absent (absent : entries.find repId = none) :
    entries.remove repId = entries := by
  apply AList.ext
  exact List.kerase_of_notMem_keys (AList.lookup_eq_none.mp absent)

theorem filter_ne_of_notMem {items : List String} {item : String}
    (absent : item ∉ items) : items.filter (· ≠ item) = items := by
  rw [List.filter_eq_self]
  intro other member
  rw [decide_eq_true_eq]
  rintro rfl
  exact absent member

theorem Accounted.remove (accounted : Accounted inner) (repId : String) :
    Accounted (inner.remove repId) ∧
      (inner.remove repId).entries = inner.entries.remove repId ∧
      (inner.remove repId).maxEntries = inner.maxEntries ∧
      (inner.remove repId).maxBytes = inner.maxBytes := by
  cases found : inner.entries.find repId with
  | some entry =>
      have member : repId ∈ inner.queue :=
        (accounted.mem_queue_iff repId).mpr (by rw [found]; rfl)
      have isQueue : inner.queue.Perm
          (repId :: inner.queue.filter (· ≠ repId)) := by
        have isErased : inner.queue.filter (· ≠ repId) =
            inner.queue.erase repId := by
          rw [accounted.nodup.erase_eq_filter]
          congr 1
          funext other
          rw [Bool.eq_iff_iff, decide_eq_true_eq, bne_iff_ne]
        rw [isErased]
        exact List.perm_cons_erase member
      rcases accounted.evict isQueue with
        ⟨stays, isRemoved, _, sameEntries, sameBytes⟩
      have same : inner.remove repId =
          { inner with queue := inner.queue.filter (· ≠ repId) }.removeEntry
            repId := by
        have foundAlso : ({ inner with
            queue := inner.queue.filter (· ≠ repId) } : Inner).entries.find
              repId = some entry := found
        rw [Inner.remove, removeEntry_of_found found,
          removeEntry_of_found foundAlso]
      rw [same]
      exact ⟨stays, isRemoved, sameEntries, sameBytes⟩
  | none =>
      have absent : repId ∉ inner.queue := by
        rw [accounted.mem_queue_iff, found]
        exact Bool.false_ne_true
      have same : inner.remove repId = inner := by
        rw [Inner.remove, removeEntry_of_absent found,
          filter_ne_of_notMem absent]
      rw [same, remove_of_absent found]
      exact ⟨accounted, rfl, rfl, rfl⟩

/-- The new bytes lie in the address space beside those that are cached. -/
def Fits (inner : Inner) : Operation → Prop
  | .put _ bytes => cachedBytes inner.entries + bytes.length ≤ usizeMax
  | _ => True

theorem Accounted.inserted (accounted : Accounted inner) {bytes : List UInt8}
    (fits : Fits inner (.put repId bytes)) :
    Accounted (inner.inserted repId bytes) := by
  rcases accounted.remove repId with ⟨stays, isRemoved, _, _⟩
  have isInserted : inner.inserted repId bytes =
      { inner.remove repId with
        entries := (inner.remove repId).entries.put repId ⟨bytes, .pending⟩
        queue := (inner.remove repId).queue ++ [repId]
        currentBytes := saturatingAdd (inner.remove repId).currentBytes
          bytes.length } := rfl
  have removedTwice : ((inner.remove repId).entries.remove repId) =
      (inner.remove repId).entries := by
    apply remove_of_absent
    rw [isRemoved]
    exact Table.find_remove_self
  have fewer : cachedBytes (inner.remove repId).entries ≤
      cachedBytes inner.entries := by
    rw [isRemoved]
    cases found : inner.entries.find repId with
    | some entry =>
        have total := cachedBytes_remove found
        omega
    | none => rw [remove_of_absent found]
  have inSpace : cachedBytes inner.entries + bytes.length ≤ usizeMax := fits
  rw [isInserted]
  constructor
  · show saturatingAdd (inner.remove repId).currentBytes bytes.length =
      cachedBytes ((inner.remove repId).entries.put repId ⟨bytes, .pending⟩)
    rw [cachedBytes_put, removedTwice, saturatingAdd, stays.counted]
    show min (cachedBytes (inner.remove repId).entries + bytes.length)
      usizeMax = bytes.length + cachedBytes (inner.remove repId).entries
    omega
  · show ((inner.remove repId).queue ++ [repId]).Perm
      ((inner.remove repId).entries.put repId ⟨bytes, .pending⟩).keys
    rw [keys_put, removedTwice]
    have moved : ((inner.remove repId).queue ++ [repId]).Perm
        (repId :: (inner.remove repId).queue) := List.perm_append_singleton _ _
    exact moved.trans (stays.listed.cons repId)

theorem Accounted.markAs (accounted : Accounted inner)
    (status : CacheEntryStatus) (repId : String) :
    Accounted (inner.markAs status repId) ∧
      (inner.markAs status repId).queue = inner.queue ∧
      (inner.markAs status repId).maxEntries = inner.maxEntries ∧
      (inner.markAs status repId).maxBytes = inner.maxBytes := by
  cases found : inner.entries.find repId with
  | none =>
      have same : inner.markAs status repId = inner := by
        rw [Inner.markAs, found]
      rw [same]
      exact ⟨accounted, rfl, rfl, rfl⟩
  | some entry =>
      have isMarked : inner.markAs status repId = { inner with
          entries := inner.entries.put repId
            { entry with status := status } } := by
        rw [Inner.markAs, found]
      rw [isMarked]
      refine ⟨⟨?_, ?_⟩, rfl, rfl, rfl⟩
      · show inner.currentBytes = cachedBytes (inner.entries.put repId
          { entry with status := status })
        rw [cachedBytes_put, accounted.counted, cachedBytes_remove found]
      · show inner.queue.Perm (inner.entries.put repId
          { entry with status := status }).keys
        rw [keys_put]
        exact accounted.listed.trans (keys_perm_remove found)

theorem put_spec (accounted : Accounted inner) {bytes : List UInt8}
    (fits : Fits inner (.put repId bytes)) :
    ∃ next, inner.put repId bytes = some next ∧
      Evicts (inner.inserted repId bytes) next :=
  evictLoop_spec (accounted.inserted fits) (Nat.lt_succ_self _)

/-! ## Runs -/

/-- A cache, and the ids in the order of their last puts. -/
structure Traced where
  inner : Inner
  puts : List String

def Operation.trace : Operation → List String → List String
  | .put repId _, puts => puts.filter (· ≠ repId) ++ [repId]
  | _, puts => puts

def start (maxEntries maxBytes : Nat) : Traced :=
  ⟨Inner.new maxEntries maxBytes, []⟩

def step (traced : Traced) (operation : Operation) : Option Traced :=
  (perform traced.inner operation).map fun next =>
    ⟨next, operation.trace traced.puts⟩

/-- What holds of every reachable cache. -/
structure Sound (maxEntries maxBytes : Nat) (traced : Traced) : Prop where
  accounted : Accounted traced.inner
  inOrder : traced.inner.queue.Sublist traced.puts
  sameEntries : traced.inner.maxEntries = maxEntries
  sameBytes : traced.inner.maxBytes = maxBytes

theorem removeEntry_queue (inner : Inner) (repId : String) :
    (inner.removeEntry repId).queue = inner.queue := by
  cases found : inner.entries.find repId with
  | some entry => rw [removeEntry_of_found found]
  | none => rw [removeEntry_of_absent found]

theorem sound_start (maxEntries maxBytes : Nat) :
    Sound maxEntries maxBytes (start maxEntries maxBytes) :=
  ⟨accounted_new maxEntries maxBytes, List.Sublist.refl _, rfl, rfl⟩

theorem Sound.markAs {maxEntries maxBytes : Nat} {traced : Traced}
    (sound : Sound maxEntries maxBytes traced) (status : CacheEntryStatus)
    (repId : String) :
    Sound maxEntries maxBytes
      ⟨traced.inner.markAs status repId, traced.puts⟩ := by
  rcases sound.accounted.markAs status repId with
    ⟨stays, sameQueue, sameEntries, sameBytes⟩
  refine ⟨stays, ?_, sameEntries.trans sound.sameEntries,
    sameBytes.trans sound.sameBytes⟩
  rw [sameQueue]
  exact sound.inOrder

theorem sound_step {maxEntries maxBytes : Nat} {traced next : Traced}
    {operation : Operation} (sound : Sound maxEntries maxBytes traced)
    (fits : Fits traced.inner operation)
    (isNext : step traced operation = some next) :
    Sound maxEntries maxBytes next := by
  rcases Option.map_eq_some_iff.mp isNext with ⟨inner, performed, rfl⟩
  cases operation with
  | put repId bytes =>
      rcases put_spec sound.accounted fits with ⟨evicted, isPut, evicts⟩
      have same : inner = evicted := by
        have both : some inner = some evicted := performed.symm.trans isPut
        exact Option.some.inj both
      subst same
      rcases sound.accounted.remove repId with
        ⟨_, _, sameEntries, sameBytes⟩
      refine ⟨evicts.accounted, ?_,
        evicts.sameEntries.trans (sameEntries.trans sound.sameEntries),
        evicts.sameBytes.trans (sameBytes.trans sound.sameBytes)⟩
      apply evicts.sublist.trans
      show ((traced.inner.removeEntry repId).queue.filter (· ≠ repId) ++
        [repId]).Sublist (traced.puts.filter (· ≠ repId) ++ [repId])
      rw [removeEntry_queue]
      exact (sound.inOrder.filter _).append (List.Sublist.refl _)
  | get repId =>
      cases performed
      exact sound
  | markCompleted repId =>
      cases performed
      exact sound.markAs .completed repId
  | markSpooling repId =>
      cases performed
      exact sound.markAs .processing repId
  | markPending repId =>
      cases performed
      exact sound.markAs .pending repId
  | remove repId =>
      cases performed
      rcases sound.accounted.remove repId with
        ⟨stays, _, sameEntries, sameBytes⟩
      refine ⟨stays, ?_, sameEntries.trans sound.sameEntries,
        sameBytes.trans sound.sameBytes⟩
      show ((traced.inner.removeEntry repId).queue.filter (· ≠ repId)).Sublist
        traced.puts
      rw [removeEntry_queue]
      exact List.filter_sublist.trans sound.inOrder

/-- Operations whose bytes fit beside what is cached. -/
def InMemory (traced : Traced) (operation : Operation) : Prop :=
  Fits traced.inner operation

/-- The cache keeps its books in every run, and a put evicts the shortest
start of its order that restores both bounds. -/
theorem cacheKeepsItsBooks {maxEntries maxBytes : Nat} {traced : Traced}
    (reached : Run step InMemory (start maxEntries maxBytes) traced) :
    traced.inner.currentBytes = cachedBytes traced.inner.entries ∧
      (∀ repId, traced.inner.queue.count repId =
        if (traced.inner.entries.find repId).isSome then 1 else 0) ∧
      traced.inner.queue.Sublist traced.puts ∧
      (∀ operation, InMemory traced operation →
        (perform traced.inner operation).isSome = true) ∧
      ∀ repId bytes, InMemory traced (.put repId bytes) →
        let inserted := traced.inner.inserted repId bytes
        inserted.currentBytes = cachedBytes inserted.entries ∧
          ∃ next count, perform traced.inner (.put repId bytes) = some next ∧
            Within maxEntries maxBytes next.entries ∧
            next.entries =
              inserted.entries.removeAll (inserted.evictionOrder.take count) ∧
            ∀ fewer < count, ¬ Within maxEntries maxBytes
              (inserted.entries.removeAll
                (inserted.evictionOrder.take fewer)) := by
  have sound : Sound maxEntries maxBytes traced :=
    reached.preserves (sound_start maxEntries maxBytes)
      fun _ _ _ holds fits isNext => sound_step holds fits isNext
  have accounted := sound.accounted
  refine ⟨accounted.counted, accounted.count_queue, sound.inOrder, ?_, ?_⟩
  · intro operation fits
    cases operation with
    | put repId bytes =>
        rcases put_spec accounted fits with ⟨next, isPut, _⟩
        exact Option.isSome_iff_exists.mpr ⟨next, isPut⟩
    | get repId => rfl
    | markCompleted repId => rfl
    | markSpooling repId => rfl
    | markPending repId => rfl
    | remove repId => rfl
  · intro repId bytes fits inserted
    rcases put_spec accounted fits with ⟨next, isPut, evicts⟩
    rcases evicts.shortest with ⟨count, isRest, notBefore⟩
    rcases accounted.remove repId with ⟨_, _, sameEntries, sameBytes⟩
    have isEntries : inserted.maxEntries = maxEntries :=
      sameEntries.trans sound.sameEntries
    have isBytes : inserted.maxBytes = maxBytes :=
      sameBytes.trans sound.sameBytes
    have within := evicts.within
    rw [isEntries, isBytes] at within notBefore
    exact ⟨(accounted.inserted fits).counted, next, count, isPut, within,
      isRest, notBefore⟩

instance (inner : Inner) : ∀ operation, Decidable (Fits inner operation)
  | .put _ _ => inferInstanceAs (Decidable (_ ≤ _))
  | .get _ => isTrue trivial
  | .markCompleted _ => isTrue trivial
  | .markSpooling _ => isTrue trivial
  | .markPending _ => isTrue trivial
  | .remove _ => isTrue trivial

instance (traced : Traced) (operation : Operation) :
    Decidable (InMemory traced operation) :=
  inferInstanceAs (Decidable (Fits _ _))

/-- The second of two puts is completed before the third. -/
def Sample.operations : List Operation :=
  [.put "a" [1, 2, 3], .put "b" [4, 5, 6], .markCompleted "b",
    .put "c" [7, 8, 9]]

/-- The completed entry goes before the oldest one. -/
theorem cacheKeepsItsBooks_completedFirst :
    ∃ traced, execute step (start 2 8) Sample.operations = some traced ∧
      traced.inner.queue = ["a", "c"] ∧
      traced.inner.currentBytes = cachedBytes traced.inner.entries := by
  have inMemory : Guarded step InMemory (start 2 8) Sample.operations := by
    decide
  refine ⟨_, rfl, by decide, ?_⟩
  exact (cacheKeepsItsBooks (Run.ofExecute inMemory rfl)).1

end OpenClipboard.RepresentationCache
