import OpenClipboard.ClipboardWrite.SelfWriteLedger
import OpenClipboard.Library.Transition

/-!
# How exact the self-write ledger is

Every programmatic write echoes once, with the content that was written or with
one that the platform has made of it.  The ledger attributes every echo.  An
echo that was re-encoded leaves the record of its content behind, and takes the
oldest fallback, whichever write armed it.
-/

namespace OpenClipboard

open Transition

namespace OriginStore

/-! ## The two queues as keys -/

def contents (store : OriginStore) : List String :=
  store.contentRecords.map ContentRecord.snapshotHash

def fallbacks (store : OriginStore) : List String :=
  store.nextChanges.map NextChangeRecord.guardKey

/-- No record has expired. -/
def LiveAt (store : OriginStore) (now : Nat) : Prop :=
  (∀ record ∈ store.nextChanges, now ≤ record.expiresAt) ∧
    ∀ record ∈ store.contentRecords, now ≤ record.expiresAt

instance decidableLiveAt (store : OriginStore) (now : Nat) :
    Decidable (store.LiveAt now) :=
  inferInstanceAs (Decidable (_ ∧ _))

def AttributedTo (store : OriginStore) (attribution : SelfWriteAttribution) :
    Prop :=
  (∀ record ∈ store.nextChanges, record.attribution = attribution) ∧
    ∀ record ∈ store.contentRecords, record.attribution = attribution

section Spec

variable {store : OriginStore} {now ttl : Nat} {key : String}
variable {attribution : SelfWriteAttribution}

theorem pruneExpired_of_live (live : store.LiveAt now) :
    store.pruneExpired now = store := by
  have pending : store.nextChanges.filter
      (fun record => decide (now ≤ record.expiresAt)) = store.nextChanges := by
    apply List.filter_eq_self.mpr
    intro record member
    exact decide_eq_true (live.1 record member)
  have recorded : store.contentRecords.filter
      (fun record => decide (now ≤ record.expiresAt)) =
        store.contentRecords := by
    apply List.filter_eq_self.mpr
    intro record member
    exact decide_eq_true (live.2 record member)
  unfold pruneExpired
  rw [pending, recorded]

theorem keepLatest_of_room {α : Type} {max : Nat} {records : List α}
    (room : records.length ≤ max) : keepLatest max records = records := by
  unfold keepLatest
  rw [Nat.sub_eq_zero_of_le room]
  rfl

theorem remember_fresh {α : Type} {isSame : α → Bool} {refresh : α → α}
    {max : Nat} {records : List α} (fresh : α)
    (absent : ∀ record ∈ records, isSame record = false)
    (room : records.length < max) :
    remember isSame refresh max records fresh = records ++ [fresh] := by
  have notThere : records.any isSame ≠ true := by
    rw [ne_eq, List.any_eq_true]
    rintro ⟨record, member, same⟩
    rw [absent record member] at same
    cases same
  have short : (records ++ [fresh]).length ≤ max := by
    rw [List.length_append, List.length_singleton]
    omega
  unfold remember
  rw [if_neg notThere, keepLatest_of_room short]

theorem recordContent_fresh (live : store.LiveAt now)
    (absent : key ∉ store.contents)
    (room : store.contentRecords.length < contentRecordMax) :
    store.recordSelfWrite now (.byContent key) attribution ttl =
      { store with
        contentRecords := store.contentRecords ++
          [⟨key, attribution, now + ttl⟩] } := by
  unfold recordSelfWrite
  simp only [pruneExpired_of_live live]
  unfold rememberContentRecord
  rw [remember_fresh _ _ room]
  intro record member
  apply decide_eq_false
  rintro ⟨same, _⟩
  have isKey : record.snapshotHash = key := same
  exact absent (isKey ▸ List.mem_map_of_mem member)

theorem recordFallback_fresh (live : store.LiveAt now)
    (absent : key ∉ store.fallbacks)
    (room : store.nextChanges.length < nextChangeMax) :
    store.recordSelfWrite now (.byNextChange key) attribution ttl =
      { store with
        nextChanges := store.nextChanges ++
          [⟨key, attribution, now + ttl⟩] } := by
  unfold recordSelfWrite
  simp only [pruneExpired_of_live live]
  unfold rememberNextChange
  rw [remember_fresh _ _ room]
  intro record member
  apply decide_eq_false
  rintro ⟨same, _⟩
  have isKey : record.guardKey = key := same
  exact absent (isKey ▸ List.mem_map_of_mem member)

theorem eraseP_congr_mem {α : Type} {first second : α → Bool}
    {records : List α}
    (agree : ∀ record ∈ records, first record = second record) :
    records.eraseP first = records.eraseP second := by
  induction records with
  | nil => rfl
  | cons head tail inductionHypothesis =>
      have later := inductionHypothesis fun record member =>
        agree record (List.mem_cons_of_mem head member)
      rw [List.eraseP_cons, List.eraseP_cons, agree head List.mem_cons_self,
        later]

theorem map_eraseP_key {α : Type} (f : α → String) (records : List α)
    (key : String) :
    (records.eraseP fun record => decide (f record = key)).map f =
      (records.map f).erase key := by
  rw [List.erase_eq_eraseP, List.eraseP_map]
  congr 2
  funext record
  rw [Function.comp_apply, Bool.beq_eq_decide_eq, decide_eq_decide]
  exact eq_comm

theorem attribute_recorded (live : store.LiveAt now)
    (attributed : store.AttributedTo attribution)
    (isRecorded : key ∈ store.contents) :
    (store.attributeObservedChange now key).1 =
        attributionToOrigin attribution ∧
      (store.attributeObservedChange now key).2.contents =
        store.contents.erase key ∧
      (store.attributeObservedChange now key).2.fallbacks =
        store.fallbacks.erase key ∧
      (store.attributeObservedChange now key).2.AttributedTo attribution := by
  obtain ⟨record, member, isKey⟩ := List.mem_map.mp isRecorded
  have found : (store.contentRecords.find? fun record =>
      decide (record.snapshotHash = key)).isSome := by
    rw [List.find?_isSome]
    exact ⟨record, member, decide_eq_true isKey⟩
  obtain ⟨stored, isStored⟩ := Option.isSome_iff_exists.mp found
  have isOurs : stored.attribution = attribution :=
    attributed.2 stored (List.mem_of_find?_eq_some isStored)
  have retired : retire store.nextChanges key stored.attribution =
      store.nextChanges.eraseP fun record =>
        decide (record.guardKey = key) := by
    unfold retire
    apply eraseP_congr_mem
    intro record member
    rw [attributed.1 record member, isOurs]
    simp
  unfold attributeObservedChange
  simp only [pruneExpired_of_live live, isStored]
  refine ⟨congrArg attributionToOrigin isOurs, ?_, ?_, ?_, ?_⟩
  · exact map_eraseP_key ContentRecord.snapshotHash store.contentRecords key
  · unfold fallbacks
    simp only
    rw [retired]
    exact map_eraseP_key NextChangeRecord.guardKey store.nextChanges key
  · intro record member
    exact attributed.1 record (List.mem_of_mem_eraseP member)
  · intro record member
    exact attributed.2 record (List.mem_of_mem_eraseP member)

theorem attribute_unrecorded (live : store.LiveAt now)
    (attributed : store.AttributedTo attribution)
    (unrecorded : key ∉ store.contents) (pending : store.fallbacks ≠ []) :
    (store.attributeObservedChange now key).1 =
        attributionToOrigin attribution ∧
      (store.attributeObservedChange now key).2.contents = store.contents ∧
      (store.attributeObservedChange now key).2.fallbacks =
        store.fallbacks.tail ∧
      (store.attributeObservedChange now key).2.AttributedTo attribution := by
  have notFound : (store.contentRecords.find? fun record =>
      decide (record.snapshotHash = key)) = none := by
    apply List.find?_eq_none.mpr
    intro record member same
    exact unrecorded (of_decide_eq_true same ▸ List.mem_map_of_mem member)
  unfold attributeObservedChange
  simp only [pruneExpired_of_live live, notFound]
  cases queue : store.nextChanges with
  | nil =>
      unfold fallbacks at pending
      rw [queue] at pending
      exact (pending rfl).elim
  | cons first rest =>
      have isOurs : first.attribution = attribution :=
        attributed.1 first (queue ▸ List.mem_cons_self)
      refine ⟨congrArg attributionToOrigin isOurs, rfl, ?_, ?_, attributed.2⟩
      · unfold fallbacks
        rw [queue]
        rfl
      · intro record member
        exact attributed.1 record (queue ▸ List.mem_cons_of_mem first member)

end Spec

end OriginStore

/-! ## Writes and their echoes -/

/-- A programmatic write, and whether the platform re-encodes its content. -/
structure SelfWrite where
  key : String
  reencodes : Bool
  deriving DecidableEq, Repr

/-- The ledger, the writes whose echo is still to come, and every content
written so far. -/
structure LedgerRun where
  store : OriginStore
  awaited : List SelfWrite
  recorded : List String
  deriving DecidableEq, Repr

inductive LedgerEvent where
  /-- The content record is armed before the write, the fallback after it. -/
  | write (write : SelfWrite) (armed landed contentTtl fallbackTtl : Nat)
  /-- The echo of a write with the hash that was recorded. -/
  | verbatim (key : String) (now : Nat)
  /-- The echo of a write under a hash that was never recorded. -/
  | reencoded (key observed : String) (now : Nat)
  deriving DecidableEq, Repr

def LedgerEvent.IsVerbatim : LedgerEvent → Prop
  | .write _ _ _ _ _ => True
  | .verbatim _ _ => True
  | .reencoded _ _ _ => False

variable {write : SelfWrite} {event : LedgerEvent}

namespace LedgerRun

def start : LedgerRun := ⟨.empty, [], []⟩

section Runs

variable (attribution : SelfWriteAttribution)

/-- The ledger between the two records of a write. -/
def armContent (state : LedgerRun) (write : SelfWrite)
    (armed contentTtl : Nat) : OriginStore :=
  state.store.recordSelfWrite armed (.byContent write.key) attribution contentTtl

def step (state : LedgerRun) : LedgerEvent → Option LedgerRun
  | .write write armed landed contentTtl fallbackTtl =>
      some {
        store := (state.armContent attribution write armed
          contentTtl).recordSelfWrite landed (.byNextChange write.key)
            attribution fallbackTtl
        awaited := state.awaited ++ [write]
        recorded := state.recorded ++ [write.key] }
  | .verbatim key now =>
      if (⟨key, false⟩ : SelfWrite) ∈ state.awaited then
        some { state with
          store := (state.store.attributeObservedChange now key).2
          awaited := state.awaited.erase ⟨key, false⟩ }
      else
        none
  | .reencoded key observed now =>
      if (⟨key, true⟩ : SelfWrite) ∈ state.awaited ∧
          observed ∉ state.recorded then
        some { state with
          store := (state.store.attributeObservedChange now observed).2
          awaited := state.awaited.erase ⟨key, true⟩ }
      else
        none

/-- No record is expired or evicted. -/
def Undisturbed (state : LedgerRun) : LedgerEvent → Prop
  | .write write armed landed contentTtl _ =>
      state.store.LiveAt armed ∧
        (state.armContent attribution write armed contentTtl).LiveAt landed ∧
        state.store.contentRecords.length < contentRecordMax ∧
        state.store.nextChanges.length < nextChangeMax
  | .verbatim _ now => state.store.LiveAt now
  | .reencoded _ _ now => state.store.LiveAt now

instance decidableUndisturbed (state : LedgerRun) :
    ∀ event, Decidable (Undisturbed attribution state event)
  | .write _ _ _ _ _ => inferInstanceAs (Decidable (_ ∧ _ ∧ _ ∧ _))
  | .verbatim _ _ => OriginStore.decidableLiveAt _ _
  | .reencoded _ _ _ => OriginStore.decidableLiveAt _ _

def WritesOffRecord (state : LedgerRun) : LedgerEvent → Prop
  | .write write _ _ _ _ => write.key ∉ state.store.contents
  | .verbatim _ _ => True
  | .reencoded _ _ _ => True

instance decidableWritesOffRecord (state : LedgerRun) :
    ∀ event, Decidable (WritesOffRecord state event)
  | .write _ _ _ _ _ => inferInstanceAs (Decidable (_ ∉ _))
  | .verbatim _ _ => isTrue trivial
  | .reencoded _ _ _ => isTrue trivial

def AttributesEcho (state : LedgerRun) : LedgerEvent → Prop
  | .write _ _ _ _ _ => True
  | .verbatim key now =>
      (state.store.attributeObservedChange now key).1 =
        attributionToOrigin attribution
  | .reencoded _ observed now =>
      (state.store.attributeObservedChange now observed).1 =
        attributionToOrigin attribution

/-- A re-encoded echo does not take the fallback of a write that still awaits
its verbatim echo. -/
def TakesOwnFallback (state : LedgerRun) : LedgerEvent → Prop
  | .write _ _ _ _ _ => True
  | .verbatim _ _ => True
  | .reencoded _ _ _ => ∀ front, state.store.fallbacks.head? = some front →
      (⟨front, false⟩ : SelfWrite) ∉ state.awaited

end Runs

/-! ## What the records say of the writes -/

/-- Every awaited write is on record, and there is a fallback for each. -/
structure Sound (attribution : SelfWriteAttribution) (state : LedgerRun) :
    Prop where
  attributed : state.store.AttributedTo attribution
  contentsNodup : state.store.contents.Nodup
  fallbacksNodup : state.store.fallbacks.Nodup
  awaitedNodup : (state.awaited.map SelfWrite.key).Nodup
  onRecord : ∀ write ∈ state.awaited, write.key ∈ state.store.contents
  fallbackOnRecord : ∀ key ∈ state.store.fallbacks, key ∈ state.store.contents
  written : ∀ key ∈ state.store.contents, key ∈ state.recorded
  enough : state.awaited.length ≤ state.store.fallbacks.length

/-- A write has armed both of its records. -/
structure Wrote (attribution : SelfWriteAttribution) (before after : LedgerRun)
    (write : SelfWrite) : Prop where
  fresh : write.key ∉ before.store.contents
  contents : after.store.contents = before.store.contents ++ [write.key]
  fallbacks : after.store.fallbacks = before.store.fallbacks ++ [write.key]
  awaited : after.awaited = before.awaited ++ [write]
  recorded : after.recorded = before.recorded ++ [write.key]
  attributed : after.store.AttributedTo attribution

/-- A write has echoed and left these keys. -/
structure Echoed (attribution : SelfWriteAttribution) (before after : LedgerRun)
    (write : SelfWrite) (contents fallbacks : List String) : Prop where
  member : write ∈ before.awaited
  contents : after.store.contents = contents
  fallbacks : after.store.fallbacks = fallbacks
  awaited : after.awaited = before.awaited.erase write
  recorded : after.recorded = before.recorded
  attributed : after.store.AttributedTo attribution

section Steps

variable {attribution : SelfWriteAttribution} {before after : LedgerRun}

theorem sound_start : Sound attribution start where
  attributed := ⟨nofun, nofun⟩
  contentsNodup := List.nodup_nil
  fallbacksNodup := List.nodup_nil
  awaitedNodup := List.nodup_nil
  onRecord := nofun
  fallbackOnRecord := nofun
  written := nofun
  enough := Nat.le_refl 0

theorem wrote_of_step {armed landed contentTtl fallbackTtl : Nat}
    (sound : Sound attribution before)
    (undisturbed : Undisturbed attribution before
      (.write write armed landed contentTtl fallbackTtl))
    (fresh : write.key ∉ before.store.contents)
    (stepped : step attribution before
      (.write write armed landed contentTtl fallbackTtl) = some after) :
    Wrote attribution before after write := by
  obtain ⟨live, landedLive, contentRoom, fallbackRoom⟩ := undisturbed
  have content : before.armContent attribution write armed contentTtl = _ :=
    OriginStore.recordContent_fresh live fresh contentRoom
  have noFallback : write.key ∉
      (before.armContent attribution write armed contentTtl).fallbacks := by
    rw [content]
    exact fun pending => fresh (sound.fallbackOnRecord write.key pending)
  have pendingRoom : (before.armContent attribution write armed
      contentTtl).nextChanges.length < nextChangeMax := by
    rw [content]
    exact fallbackRoom
  have both : (before.armContent attribution write armed
      contentTtl).recordSelfWrite landed (.byNextChange write.key) attribution
        fallbackTtl = _ :=
    OriginStore.recordFallback_fresh landedLive noFallback pendingRoom
  rw [content] at both
  cases stepped
  refine ⟨fresh, ?_, ?_, rfl, rfl, ?_, ?_⟩
  · rw [content, both]
    simp [OriginStore.contents]
  · rw [content, both]
    simp [OriginStore.fallbacks]
  · rw [content, both]
    intro record member
    rcases List.mem_append.mp member with old | isNew
    · exact sound.attributed.1 record old
    · rw [List.mem_singleton.mp isNew]
  · rw [content, both]
    intro record member
    rcases List.mem_append.mp member with old | isNew
    · exact sound.attributed.2 record old
    · rw [List.mem_singleton.mp isNew]

theorem echoed_of_verbatim {key : String} {now : Nat}
    (sound : Sound attribution before) (live : before.store.LiveAt now)
    (stepped : step attribution before (.verbatim key now) = some after) :
    AttributesEcho attribution before (.verbatim key now) ∧
      Echoed attribution before after ⟨key, false⟩
        (before.store.contents.erase key)
        (before.store.fallbacks.erase key) := by
  unfold step at stepped
  simp only at stepped
  split at stepped
  · rename_i awaits
    cases stepped
    obtain ⟨isSelf, contents, fallbacks, attributed⟩ :=
      OriginStore.attribute_recorded live sound.attributed
        (sound.onRecord ⟨key, false⟩ awaits)
    exact ⟨isSelf, awaits, contents, fallbacks, rfl, rfl, attributed⟩
  · cases stepped

theorem echoed_of_reencoded {key observed : String} {now : Nat}
    (sound : Sound attribution before) (live : before.store.LiveAt now)
    (stepped : step attribution before (.reencoded key observed now) =
      some after) :
    AttributesEcho attribution before (.reencoded key observed now) ∧
      Echoed attribution before after ⟨key, true⟩ before.store.contents
        before.store.fallbacks.tail := by
  unfold step at stepped
  simp only at stepped
  split at stepped
  · rename_i enabled
    obtain ⟨awaits, neverRecorded⟩ := enabled
    cases stepped
    have unrecorded : observed ∉ before.store.contents :=
      fun isThere => neverRecorded (sound.written observed isThere)
    have pending : before.store.fallbacks ≠ [] := by
      intro empty
      have some := List.length_pos_of_mem awaits
      have enough := sound.enough
      rw [empty, List.length_nil] at enough
      omega
    obtain ⟨isSelf, contents, fallbacks, attributed⟩ :=
      OriginStore.attribute_unrecorded live sound.attributed unrecorded pending
    exact ⟨isSelf, awaits, contents, fallbacks, rfl, rfl, attributed⟩
  · cases stepped

theorem Sound.mem_erase (sound : Sound attribution before)
    {write other : SelfWrite} (member : write ∈ before.awaited) :
    other ∈ before.awaited.erase write ↔
      other ∈ before.awaited ∧ other.key ≠ write.key := by
  have nodup : before.awaited.Nodup := sound.awaitedNodup.of_map
  rw [nodup.mem_erase_iff]
  constructor
  · rintro ⟨differs, isAwaited⟩
    refine ⟨isAwaited, fun sameKey => differs ?_⟩
    exact List.inj_on_of_nodup_map sound.awaitedNodup isAwaited member sameKey
  · rintro ⟨isAwaited, differs⟩
    exact ⟨fun same => differs (same ▸ rfl), isAwaited⟩

theorem Echoed.length_awaited {contents fallbacks : List String}
    (echoed : Echoed attribution before after write contents fallbacks) :
    after.awaited.length + 1 = before.awaited.length := by
  have some := List.length_pos_of_mem echoed.member
  rw [echoed.awaited, List.length_erase_of_mem echoed.member]
  omega

theorem Wrote.sound (wrote : Wrote attribution before after write)
    (sound : Sound attribution before) : Sound attribution after := by
  have notAwaited : write.key ∉ before.awaited.map SelfWrite.key := by
    intro isAwaited
    obtain ⟨other, member, sameKey⟩ := List.mem_map.mp isAwaited
    exact wrote.fresh (sameKey ▸ sound.onRecord other member)
  have noFallback : write.key ∉ before.store.fallbacks :=
    fun pending => wrote.fresh (sound.fallbackOnRecord write.key pending)
  constructor
  · exact wrote.attributed
  · rw [wrote.contents]
    exact List.concat_eq_append ▸ sound.contentsNodup.concat wrote.fresh
  · rw [wrote.fallbacks]
    exact List.concat_eq_append ▸ sound.fallbacksNodup.concat noFallback
  · rw [wrote.awaited, List.map_append]
    exact List.concat_eq_append ▸ sound.awaitedNodup.concat notAwaited
  · intro other member
    rw [wrote.awaited] at member
    rw [wrote.contents]
    rcases List.mem_append.mp member with old | isNew
    · exact List.mem_append_left _ (sound.onRecord other old)
    · rw [List.mem_singleton.mp isNew]
      exact List.mem_append_right _ (List.mem_singleton_self _)
  · intro key member
    rw [wrote.fallbacks] at member
    rw [wrote.contents]
    rcases List.mem_append.mp member with old | isNew
    · exact List.mem_append_left _ (sound.fallbackOnRecord key old)
    · exact List.mem_append_right _ isNew
  · intro key member
    rw [wrote.contents] at member
    rw [wrote.recorded]
    rcases List.mem_append.mp member with old | isNew
    · exact List.mem_append_left _ (sound.written key old)
    · exact List.mem_append_right _ isNew
  · have enough := sound.enough
    rw [wrote.awaited, wrote.fallbacks, List.length_append, List.length_append,
      List.length_singleton, List.length_singleton]
    omega

theorem Echoed.sound {contents fallbacks : List String}
    (echoed : Echoed attribution before after write contents fallbacks)
    (sound : Sound attribution before) (contentsNodup : contents.Nodup)
    (fallbacksNodup : fallbacks.Nodup)
    (onRecord : ∀ other ∈ before.awaited.erase write, other.key ∈ contents)
    (fallbackOnRecord : ∀ key ∈ fallbacks, key ∈ contents)
    (shrinks : ∀ key ∈ contents, key ∈ before.store.contents)
    (enough : before.awaited.length ≤ fallbacks.length + 1) :
    Sound attribution after := by
  have oneFewer := echoed.length_awaited
  constructor
  · exact echoed.attributed
  · rw [echoed.contents]
    exact contentsNodup
  · rw [echoed.fallbacks]
    exact fallbacksNodup
  · rw [echoed.awaited]
    exact sound.awaitedNodup.sublist (List.erase_sublist.map _)
  · rw [echoed.awaited, echoed.contents]
    exact onRecord
  · rw [echoed.contents, echoed.fallbacks]
    exact fallbackOnRecord
  · rw [echoed.contents, echoed.recorded]
    exact fun key member => sound.written key (shrinks key member)
  · rw [echoed.fallbacks]
    omega

theorem Echoed.sound_verbatim {key : String}
    (echoed : Echoed attribution before after ⟨key, false⟩
      (before.store.contents.erase key) (before.store.fallbacks.erase key))
    (sound : Sound attribution before) : Sound attribution after := by
  apply echoed.sound sound
  · exact sound.contentsNodup.erase key
  · exact sound.fallbacksNodup.erase key
  · intro other member
    obtain ⟨isAwaited, differs⟩ := (sound.mem_erase echoed.member).mp member
    exact (List.mem_erase_of_ne differs).mpr (sound.onRecord other isAwaited)
  · intro other member
    obtain ⟨differs, isFallback⟩ :=
      sound.fallbacksNodup.mem_erase_iff.mp member
    exact (List.mem_erase_of_ne differs).mpr
      (sound.fallbackOnRecord other isFallback)
  · exact fun other => List.mem_of_mem_erase
  · have enough := sound.enough
    have atMostOne := List.le_length_erase (a := key)
      (l := before.store.fallbacks)
    omega

theorem Echoed.sound_reencoded {key : String}
    (echoed : Echoed attribution before after ⟨key, true⟩ before.store.contents
      before.store.fallbacks.tail)
    (sound : Sound attribution before) : Sound attribution after := by
  apply echoed.sound sound
  · exact sound.contentsNodup
  · exact sound.fallbacksNodup.tail
  · intro other member
    exact sound.onRecord other (List.mem_of_mem_erase member)
  · intro other member
    exact sound.fallbackOnRecord other (List.mem_of_mem_tail member)
  · exact fun other member => member
  · have enough := sound.enough
    rw [List.length_tail]
    omega

theorem sound_of_step (sound : Sound attribution before)
    (admitted : Undisturbed attribution before event ∧
      WritesOffRecord before event)
    (stepped : step attribution before event = some after) :
    Sound attribution after := by
  cases event with
  | write write armed landed contentTtl fallbackTtl =>
      exact (wrote_of_step sound admitted.1 admitted.2 stepped).sound sound
  | verbatim key now =>
      exact (echoed_of_verbatim sound admitted.1 stepped).2.sound_verbatim sound
  | reencoded key observed now =>
      exact (echoed_of_reencoded sound admitted.1 stepped).2.sound_reencoded
        sound

theorem attributesEcho (sound : Sound attribution before)
    (admitted : Undisturbed attribution before event ∧
      WritesOffRecord before event)
    (stepped : step attribution before event = some after) :
    AttributesEcho attribution before event := by
  cases event with
  | write write armed landed contentTtl fallbackTtl => trivial
  | verbatim key now =>
      exact (echoed_of_verbatim sound admitted.1 stepped).1
  | reencoded key observed now =>
      exact (echoed_of_reencoded sound admitted.1 stepped).1

/-! ## What stays behind -/

def RecordsAwaited (state : LedgerRun) : Prop :=
  ∀ key ∈ state.store.contents, key ∈ state.awaited.map SelfWrite.key

/-- There are as many fallbacks as awaited writes, and every write that awaits a
verbatim echo has its own. -/
def FallbacksAwaited (state : LedgerRun) : Prop :=
  state.store.fallbacks.length = state.awaited.length ∧
    ∀ write ∈ state.awaited, write.reencodes = false →
      write.key ∈ state.store.fallbacks

/-- A record stays behind where an echo was re-encoded. -/
theorem recordsAwaited_step (sound : Sound attribution before)
    (admitted : Undisturbed attribution before event ∧
      WritesOffRecord before event)
    (stepped : step attribution before event = some after) :
    RecordsAwaited after ↔ RecordsAwaited before ∧ event.IsVerbatim := by
  unfold RecordsAwaited
  cases event with
  | write write armed landed contentTtl fallbackTtl =>
      have wrote := wrote_of_step sound admitted.1 admitted.2 stepped
      rw [wrote.contents, wrote.awaited, List.map_append]
      constructor
      · intro awaited
        refine ⟨fun key member => ?_, trivial⟩
        rcases List.mem_append.mp
            (awaited key (List.mem_append_left _ member)) with old | isNew
        · exact old
        · rw [List.mem_singleton.mp isNew] at member
          exact (wrote.fresh member).elim
      · rintro ⟨awaited, _⟩ key member
        rcases List.mem_append.mp member with old | isNew
        · exact List.mem_append_left _ (awaited key old)
        · exact List.mem_append_right _ isNew
  | verbatim key now =>
      have echoed := (echoed_of_verbatim sound admitted.1 stepped).2
      rw [echoed.contents, echoed.awaited]
      constructor
      · intro awaited
        refine ⟨fun other member => ?_, trivial⟩
        by_cases same : other = key
        · rw [same]
          exact List.mem_map_of_mem echoed.member
        · have stays := awaited other ((List.mem_erase_of_ne same).mpr member)
          exact (List.erase_sublist.map _).subset stays
      · rintro ⟨awaited, _⟩ other member
        obtain ⟨differs, isRecorded⟩ :=
          sound.contentsNodup.mem_erase_iff.mp member
        obtain ⟨write, isAwaited, isKey⟩ :=
          List.mem_map.mp (awaited other isRecorded)
        rw [← isKey] at differs ⊢
        exact List.mem_map_of_mem
          ((sound.mem_erase echoed.member).mpr ⟨isAwaited, differs⟩)
  | reencoded key observed now =>
      have echoed := (echoed_of_reencoded sound admitted.1 stepped).2
      rw [echoed.contents, echoed.awaited]
      apply iff_of_false
      · intro awaited
        obtain ⟨write, member, sameKey⟩ := List.mem_map.mp
          (awaited key (sound.onRecord ⟨key, true⟩ echoed.member))
        exact ((sound.mem_erase echoed.member).mp member).2 sameKey
      · exact fun both => both.2

/-- A fallback stays behind where a re-encoded echo took that of a write whose
verbatim echo is still to come. -/
theorem fallbacksAwaited_step (sound : Sound attribution before)
    (admitted : Undisturbed attribution before event ∧
      WritesOffRecord before event)
    (stepped : step attribution before event = some after) :
    FallbacksAwaited after ↔
      FallbacksAwaited before ∧ TakesOwnFallback before event := by
  unfold FallbacksAwaited
  cases event with
  | write write armed landed contentTtl fallbackTtl =>
      have wrote := wrote_of_step sound admitted.1 admitted.2 stepped
      rw [wrote.fallbacks, wrote.awaited, List.length_append,
        List.length_append, List.length_singleton, List.length_singleton]
      constructor
      · rintro ⟨sameLength, own⟩
        refine ⟨⟨by omega, fun other member verbatim => ?_⟩, trivial⟩
        have isThere := own other (List.mem_append_left _ member) verbatim
        rcases List.mem_append.mp isThere with old | isNew
        · exact old
        · have onRecord := sound.onRecord other member
          rw [List.mem_singleton.mp isNew] at onRecord
          exact (wrote.fresh onRecord).elim
      · rintro ⟨⟨sameLength, own⟩, _⟩
        refine ⟨by omega, fun other member verbatim => ?_⟩
        rcases List.mem_append.mp member with old | isNew
        · exact List.mem_append_left _ (own other old verbatim)
        · rw [List.mem_singleton.mp isNew]
          exact List.mem_append_right _ (List.mem_singleton_self _)
  | verbatim key now =>
      have echoed := (echoed_of_verbatim sound admitted.1 stepped).2
      have oneFewer := echoed.length_awaited
      have enough := sound.enough
      rw [echoed.fallbacks]
      constructor
      · rintro ⟨sameLength, own⟩
        have hasOwn : key ∈ before.store.fallbacks := by
          by_contra missing
          rw [List.erase_of_not_mem missing] at sameLength
          omega
        have erased := List.length_erase_of_mem hasOwn
        refine ⟨⟨by omega, fun other member verbatim => ?_⟩, trivial⟩
        by_cases same : other.key = key
        · rw [same]
          exact hasOwn
        · have stays : other ∈ after.awaited := by
            rw [echoed.awaited]
            exact (sound.mem_erase echoed.member).mpr ⟨member, same⟩
          exact List.mem_of_mem_erase (own other stays verbatim)
      · rintro ⟨⟨sameLength, own⟩, _⟩
        have hasOwn : key ∈ before.store.fallbacks :=
          own ⟨key, false⟩ echoed.member rfl
        have erased := List.length_erase_of_mem hasOwn
        refine ⟨by omega, fun other member verbatim => ?_⟩
        rw [echoed.awaited] at member
        obtain ⟨isAwaited, differs⟩ := (sound.mem_erase echoed.member).mp member
        exact (List.mem_erase_of_ne differs).mpr (own other isAwaited verbatim)
  | reencoded key observed now =>
      have echoed := (echoed_of_reencoded sound admitted.1 stepped).2
      have oneFewer := echoed.length_awaited
      have enough := sound.enough
      rw [echoed.fallbacks]
      cases queue : before.store.fallbacks with
      | nil =>
          rw [queue, List.length_nil] at enough
          omega
      | cons front rest =>
          have nodup := sound.fallbacksNodup
          rw [queue] at nodup enough
          rw [List.length_cons] at enough
          simp only [List.tail_cons, List.length_cons, TakesOwnFallback, queue,
            List.head?_cons, Option.some.injEq, forall_eq']
          constructor
          · rintro ⟨sameLength, own⟩
            have stays : ∀ other ∈ before.awaited, other.reencodes = false →
                other.key ∈ rest := by
              intro other member verbatim
              apply own other _ verbatim
              rw [echoed.awaited]
              refine (List.mem_erase_of_ne ?_).mpr member
              rintro rfl
              cases verbatim
            refine ⟨⟨by omega, fun other member verbatim =>
              List.mem_cons_of_mem front (stays other member verbatim)⟩, ?_⟩
            intro isAwaited
            exact (List.nodup_cons.mp nodup).1
              (stays ⟨front, false⟩ isAwaited rfl)
          · rintro ⟨⟨sameLength, own⟩, notOurs⟩
            refine ⟨by omega, fun other member verbatim => ?_⟩
            rw [echoed.awaited] at member
            have isAwaited := List.mem_of_mem_erase member
            rcases List.mem_cons.mp (own other isAwaited verbatim) with
              isFront | inRest
            · have same : other = ⟨front, false⟩ := by
                cases other
                cases isFront
                cases verbatim
                rfl
              exact (notOurs (same ▸ isAwaited)).elim
            · exact inRest

end Steps

/-! ## Whole runs -/

section Runs

variable (attribution : SelfWriteAttribution)

/-- Every echo of the run is attributed, and after it the ledger holds nothing,
so whatever changes next is a local capture. -/
structure Exact (events : List LedgerEvent) (finish : LedgerRun) : Prop where
  attributes : Guarded (step attribution) (AttributesEcho attribution) start
    events
  empty : finish.store = .empty
  nextIsLocal : ∀ now key,
    (finish.store.attributeObservedChange now key).1 = .localCapture

variable {attribution} {events : List LedgerEvent} {finish : LedgerRun}

theorem store_eq_empty_iff {store : OriginStore} :
    store = .empty ↔ store.contents = [] ∧ store.fallbacks = [] := by
  unfold OriginStore.contents OriginStore.fallbacks
  rw [List.map_eq_nil_iff, List.map_eq_nil_iff]
  constructor
  · intro empty
    rw [empty]
    exact ⟨rfl, rfl⟩
  · rintro ⟨noContents, noFallbacks⟩
    cases store
    cases noContents
    cases noFallbacks
    rfl

section Finished

variable
  (admitted : Guarded (step attribution)
    (fun state event => Undisturbed attribution state event ∧
      WritesOffRecord state event) start events)
  (ran : execute (step attribution) start events = some finish)
include admitted ran

theorem sound_finish : Sound attribution finish :=
  (Run.ofExecute admitted ran).preserves sound_start
    fun _ _ _ sound here stepped => sound_of_step sound here stepped

theorem attributes_run :
    Guarded (step attribution) (AttributesEcho attribution) start events := by
  have always : True ↔ True ∧
      Guarded (step attribution) (AttributesEcho attribution) start events :=
    execute_iff_guarded
      (fun _ _ _ sound here stepped => sound_of_step sound here stepped)
      (fun _ _ _ sound here stepped =>
        iff_of_true trivial ⟨trivial, attributesEcho sound here stepped⟩)
      sound_start admitted ran
  exact (always.mp trivial).2

theorem contents_nil_iff (echoed : finish.awaited = []) :
    finish.store.contents = [] ↔ ∀ event ∈ events, event.IsVerbatim := by
  have stays : RecordsAwaited finish ↔ RecordsAwaited start ∧
      Guarded (step attribution) (fun _ event => event.IsVerbatim) start
        events :=
    execute_iff_guarded
      (fun _ _ _ sound here stepped => sound_of_step sound here stepped)
      (fun _ _ _ sound here stepped => recordsAwaited_step sound here stepped)
      sound_start admitted ran
  have atStart : RecordsAwaited start := nofun
  rw [guarded_iff_forall ran, and_iff_right atStart] at stays
  rw [← stays]
  unfold RecordsAwaited
  rw [echoed, List.map_nil]
  exact List.subset_nil.symm

theorem fallbacks_nil_iff (echoed : finish.awaited = []) :
    finish.store.fallbacks = [] ↔
      Guarded (step attribution) TakesOwnFallback start events := by
  have stays : FallbacksAwaited finish ↔ FallbacksAwaited start ∧
      Guarded (step attribution) TakesOwnFallback start events :=
    execute_iff_guarded
      (fun _ _ _ sound here stepped => sound_of_step sound here stepped)
      (fun _ _ _ sound here stepped =>
        fallbacksAwaited_step sound here stepped)
      sound_start admitted ran
  have atStart : FallbacksAwaited start := ⟨rfl, nofun⟩
  rw [and_iff_right atStart] at stays
  rw [← stays]
  unfold FallbacksAwaited
  rw [echoed, List.length_nil, List.length_eq_zero_iff]
  exact (and_iff_left nofun).symm

theorem unrelated_isLocal_iff {now : Nat} {key : String}
    (live : finish.store.LiveAt now) (unrelated : key ∉ finish.recorded) :
    (finish.store.attributeObservedChange now key).1 = .localCapture ↔
      finish.store.fallbacks = [] := by
  have sound := sound_finish admitted ran
  rw [OriginStore.attribute_localCapture_iff,
    OriginStore.pruneExpired_of_live live]
  · exact List.map_eq_nil_iff.symm
  · intro record member _ isKey
    exact unrelated (isKey ▸ sound.written _ (List.mem_map_of_mem member))

end Finished

theorem nextIsLocal_empty (now : Nat) (key : String) :
    (OriginStore.empty.attributeObservedChange now key).1 = .localCapture := rfl

end Runs

/-- Let programmatic writes of one attribution, none of a content still on
record, echo once each in any order, with no record expired or evicted.  Every
echo is attributed.  Once all have echoed, the ledger is exact if and only if no
echo was re-encoded, and an unrelated change is a local capture if and only if
no re-encoded echo took the fallback of a write whose verbatim echo was still to
come. -/
theorem exact_iff (attribution : SelfWriteAttribution)
    (events : List LedgerEvent) (finish : LedgerRun)
    (undisturbed : Guarded (step attribution) (Undisturbed attribution) start
      events)
    (offRecord : Guarded (step attribution) WritesOffRecord start events)
    (ran : execute (step attribution) start events = some finish)
    (echoed : finish.awaited = []) :
    Guarded (step attribution) (AttributesEcho attribution) start events ∧
      (Exact attribution events finish ↔
        ∀ event ∈ events, event.IsVerbatim) ∧
      ∀ now key, finish.store.LiveAt now → key ∉ finish.recorded →
        ((finish.store.attributeObservedChange now key).1 = .localCapture ↔
          Guarded (step attribution) TakesOwnFallback start events) := by
  have admitted := guarded_and.mpr ⟨undisturbed, offRecord⟩
  have attributes := attributes_run admitted ran
  have sound := sound_finish admitted ran
  refine ⟨attributes, ?_, ?_⟩
  · rw [← contents_nil_iff admitted ran echoed]
    constructor
    · intro exact
      exact (store_eq_empty_iff.mp exact.empty).1
    · intro noContents
      have noFallbacks : finish.store.fallbacks = [] := by
        apply List.eq_nil_iff_forall_not_mem.mpr
        intro key pending
        have onRecord := sound.fallbackOnRecord key pending
        rw [noContents] at onRecord
        cases onRecord
      have empty := store_eq_empty_iff.mpr ⟨noContents, noFallbacks⟩
      refine ⟨attributes, empty, ?_⟩
      rw [empty]
      exact nextIsLocal_empty
  · intro now key live unrelated
    rw [unrelated_isLocal_iff admitted ran live unrelated]
    exact fallbacks_nil_iff admitted ran echoed

/-! Two writes that echo in the other order leave nothing behind. -/

def verbatimEchoes : List LedgerEvent :=
  [.write ⟨"first", false⟩ 0 10 60000 60000,
    .write ⟨"second", false⟩ 20 30 60000 60000,
    .verbatim "second" 40, .verbatim "first" 50]

theorem verbatimEchoes_exact :
    Exact .remoteWrite verbatimEchoes
      ⟨.empty, [], ["first", "second"]⟩ := by
  have exactly := exact_iff .remoteWrite verbatimEchoes
    ⟨.empty, [], ["first", "second"]⟩ (by decide) (by decide) (by decide) rfl
  apply exactly.2.1.mpr
  intro event member
  simp only [verbatimEchoes, List.mem_cons, List.not_mem_nil, or_false] at member
  rcases member with rfl | rfl | rfl | rfl <;> trivial

/-! The second of two writes is re-encoded and echoes first: it takes the
fallback of the first, and its own is left for the next user copy. -/

def reencodedFirst : List LedgerEvent :=
  [.write ⟨"text", false⟩ 0 10 60000 60000,
    .write ⟨"image", true⟩ 20 30 60000 60000,
    .reencoded "image" "image as PNG" 40, .verbatim "text" 50]

theorem reencodedFirst_notExact :
    ¬ ∀ attribution events finish,
      Guarded (step attribution) (Undisturbed attribution) start events →
      execute (step attribution) start events = some finish →
      finish.awaited = [] →
        Exact attribution events finish := by
  intro always
  let leftover : LedgerRun :=
    ⟨⟨[⟨"image", .remoteWrite, 60030⟩], [⟨"image", .remoteWrite, 60020⟩]⟩, [],
      ["text", "image"]⟩
  have exact := always .remoteWrite reencodedFirst leftover (by decide)
    (by decide) rfl
  have isLocal := exact.nextIsLocal 60 "user copy"
  revert isLocal
  decide

end LedgerRun

end OpenClipboard
