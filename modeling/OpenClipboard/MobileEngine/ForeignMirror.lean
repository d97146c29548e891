import OpenClipboard.Library.Transition
import OpenClipboard.MobileEngine.Engine

/-!
# The reducer behind the foreign-function boundary

The boundary passes the state by value: each wrapper converts its arguments,
runs the reducer and converts the state back.  The conversions trim hashes and
give every document a size.  On trimmed hashes this changes a plan only where
two documents without a hash differ in nothing but sizes that become the same.
-/

namespace OpenClipboard.MobileEngine

open Transition

/-! ## The conversions -/

/-- Convert the staged entry; the other fields cross the boundary as they
are. -/
def RuntimeState.map {A B : Type} (f : A → B) (st : RuntimeState A) :
    RuntimeState B where
  state := st.state
  lastSyncedHash := st.lastSyncedHash
  lastSyncedContentId := st.lastSyncedContentId
  lastAppliedHash := st.lastAppliedHash
  loopEvents := st.loopEvents
  stagedServerHash := st.stagedServerHash
  stagedContentId := st.stagedContentId
  stagedEntry := st.stagedEntry.map f
  consecutiveFailures := st.consecutiveFailures
  nextAttemptMs := st.nextAttemptMs
  lastHistorySyncMs := st.lastHistorySyncMs

def GetSnapshot.map {A B : Type} (f : A → B) (snap : GetSnapshot A) :
    GetSnapshot B where
  autoApply := snap.autoApply
  autoPush := snap.autoPush
  serverEntry := snap.serverEntry.map f
  devicePresent := snap.devicePresent
  deviceHash := snap.deviceHash

/-- Convert the documents among the arguments of a call. -/
def ReducerCall.map {A B : Type} (f : A → B) : ReducerCall A → ReducerCall B
  | .planPreamble snap => .planPreamble snap
  | .planAfterServerGet snap => .planAfterServerGet (snap.map f)
  | .commitConverged serverHash serverContentId =>
      .commitConverged serverHash serverContentId
  | .commitApply hash contentId nowMs cfg =>
      .commitApply hash contentId nowMs cfg
  | .commitApplyFailed entry => .commitApplyFailed (f entry)
  | .commitStage entry => .commitStage (f entry)
  | .commitPush pushedHash contentId nowMs cfg =>
      .commitPush pushedHash contentId nowMs cfg
  | .commitPushSkipped => .commitPushSkipped
  | .commitConsentPush pushedHash nowMs cfg =>
      .commitConsentPush pushedHash nowMs cfg
  | .commitTickSuccess => .commitTickSuccess
  | .commitTickFailure kind backoffMs nowMs =>
      .commitTickFailure kind backoffMs nowMs
  | .commitHistorySyncDone nowMs => .commitHistorySyncDone nowMs
  | .markStagedApplied => .markStagedApplied
  | .acknowledgeLoopDetection => .acknowledgeLoopDetection
  | .resetRuntimeState => .resetRuntimeState
  | .handleActiveServerChanged => .handleActiveServerChanged
  | .handleNetworkRouteChanged => .handleNetworkRouteChanged

/-- `From<SyncRuntimeState> for se::SyncRuntimeState`. -/
def RuntimeState.intoProto (st : RuntimeState ClipboardMeta) :
    SyncRuntimeState :=
  st.map ClipboardMeta.intoProto

/-- `From<se::SyncRuntimeState> for SyncRuntimeState`. -/
def RuntimeState.fromProto (st : SyncRuntimeState) :
    RuntimeState ClipboardMeta :=
  st.map ClipboardMeta.fromProto

def ReducerCall.runForeign (casing : Uppercase)
    (st : RuntimeState ClipboardMeta) (call : ReducerCall ClipboardMeta) :
    RuntimeState ClipboardMeta × ReducerOutput :=
  let (after, output) :=
    (call.map ClipboardMeta.intoProto).run casing st.intoProto
  (.fromProto after, output)

/-! ## What the conversions collapse -/

/-- A document that went over the boundary and back. -/
def Clipboard.collapsed (entry : Clipboard) : Clipboard :=
  (ClipboardMeta.fromProto entry).intoProto

def collapsedSize (size : Option Int64) : Int64 := max (size.getD 0) 0

/-- The hash is absent, or neither blank nor padded: what the decoder and the
constructor leave. -/
def Clipboard.HashNormalized (entry : Clipboard) : Prop :=
  normalizeHash entry.hash = entry.hash

variable {entry : Clipboard} {call : ReducerCall Clipboard}
  {st : SyncRuntimeState}

theorem Clipboard.collapsed_eq (normalized : entry.HashNormalized) :
    entry.collapsed = { entry with size := some (collapsedSize entry.size) } := by
  have sameHash : normalizeHash entry.hash = entry.hash := normalized
  simp [Clipboard.collapsed, ClipboardMeta.fromProto, ClipboardMeta.intoProto,
    Clipboard.new, sameHash, collapsedSize]

theorem max_zero_idem (size : Int64) : max (max size 0) 0 = max size 0 := by
  simp only [max]
  split
  · simp
  · rfl

theorem ClipboardMeta.fromProto_collapsed (normalized : entry.HashNormalized) :
    ClipboardMeta.fromProto entry.collapsed =
      ClipboardMeta.fromProto entry := by
  rw [Clipboard.collapsed_eq normalized]
  simp [ClipboardMeta.fromProto, collapsedSize, max_zero_idem]

/-! ## Calls under a change of the documents -/

/-- A change of the documents that keeps their hash and content id. -/
structure KeepsIdentity (f : Clipboard → Clipboard) (entry : Clipboard) :
    Prop where
  hash : (f entry).hash = entry.hash
  contentId : (f entry).contentId = entry.contentId

section Map

variable {casing : Uppercase} {f : Clipboard → Clipboard}

def ReducerCall.entries {Entry : Type} : ReducerCall Entry → List Entry
  | .planAfterServerGet snap => snap.serverEntry.toList
  | .commitApplyFailed entry | .commitStage entry => [entry]
  | _ => []

theorem map_foldWatermark (st : SyncRuntimeState)
    (hash contentId : Option String) :
    foldWatermark casing (st.map f) hash contentId =
      (foldWatermark casing st hash contentId).map f := by
  simp only [foldWatermark]
  split <;> split <;> first | rfl | contradiction

theorem map_planPreamble (st : SyncRuntimeState) (snap : PreambleSnapshot) :
    planPreamble casing (st.map f) snap =
      ((planPreamble casing st snap).1.map f,
        (planPreamble casing st snap).2) := by
  simp only [planPreamble, map_foldWatermark]
  have sameState : (st.map f).state = st.state := rfl
  have sameAttempt : (st.map f).nextAttemptMs = st.nextAttemptMs := rfl
  have sameRecord : recordsLocal (st.map f) snap = recordsLocal st snap := rfl
  rw [sameState, sameAttempt, sameRecord]
  split
  · rfl
  · split
    · rfl
    · split <;> rfl

theorem map_advanceSynced (st : SyncRuntimeState)
    (hash contentId : Option String) :
    advanceSynced casing (st.map f) hash contentId =
      (advanceSynced casing st hash contentId).map f := by
  cases hash with
  | none => rfl
  | some hash =>
      simp only [advanceSynced]
      split <;> rfl

variable (casing f) in
theorem map_recordAndCheck (st : SyncRuntimeState)
    (direction : LoopDirection) (hash : Option String) (nowMs : Int)
    (cfg : SyncConfig) :
    recordAndCheck casing (st.map f) direction hash nowMs cfg =
      ((recordAndCheck casing st direction hash nowMs cfg).1.map f,
        (recordAndCheck casing st direction hash nowMs cfg).2) := by
  simp only [recordAndCheck]
  have sameEvents : (st.map f).loopEvents = st.loopEvents := rfl
  rw [sameEvents]
  split <;> rfl

theorem map_commitConverged (st : SyncRuntimeState) (serverHash : String)
    (serverContentId : Option String) :
    commitConverged casing (st.map f) serverHash serverContentId =
      (commitConverged casing st serverHash serverContentId).map f := by
  simp only [commitConverged, map_advanceSynced]
  rfl

theorem map_commitApply (st : SyncRuntimeState)
    (hash contentId : Option String) (nowMs : Int) (cfg : SyncConfig) :
    commitApply casing (st.map f) hash contentId nowMs cfg =
      ((commitApply casing st hash contentId nowMs cfg).1.map f,
        (commitApply casing st hash contentId nowMs cfg).2) := by
  simp only [commitApply, map_advanceSynced]
  exact map_recordAndCheck casing f
    { clearStaged (advanceSynced casing st hash contentId) with
      lastAppliedHash := upperNonempty casing hash
      state := .succeeded } _ _ _ _

theorem map_commitPush (st : SyncRuntimeState)
    (pushedHash contentId : Option String) (nowMs : Int) (cfg : SyncConfig) :
    commitPush casing (st.map f) pushedHash contentId nowMs cfg =
      ((commitPush casing st pushedHash contentId nowMs cfg).1.map f,
        (commitPush casing st pushedHash contentId nowMs cfg).2) := by
  simp only [commitPush, map_advanceSynced]
  cases nonemptyHash pushedHash with
  | none => rfl
  | some hash =>
      exact map_recordAndCheck casing f
        { advanceSynced casing st (some hash) contentId with
          state := .succeeded } _ _ _ _

theorem map_commitConsentPush (st : SyncRuntimeState)
    (pushedHash : Option String) (nowMs : Int) (cfg : SyncConfig) :
    commitConsentPush casing (st.map f) pushedHash nowMs cfg =
      ((commitConsentPush casing st pushedHash nowMs cfg).1.map f,
        (commitConsentPush casing st pushedHash nowMs cfg).2) := by
  have recorded := map_recordAndCheck casing f
    { advanceSynced casing st pushedHash none with
      lastAppliedHash := upperNonempty casing pushedHash }
    .pushed pushedHash nowMs cfg
  simp only [commitConsentPush, map_advanceSynced]
  refine (congrArg (fun recorded : SyncRuntimeState × Bool =>
    if recorded.2 then (recorded.1, true)
    else ({ recorded.1 with state := .succeeded, consecutiveFailures := 0 },
      false)) recorded).trans ?_
  simp only []
  split <;> rfl

theorem map_commitTickFailure (st : SyncRuntimeState) (kind : TickErrorKind)
    (backoffMs : Int → Int) (nowMs : Int) :
    commitTickFailure (st.map f) kind backoffMs nowMs =
      ((commitTickFailure st kind backoffMs nowMs).1.map f,
        (commitTickFailure st kind backoffMs nowMs).2) := by
  cases kind <;> rfl

theorem map_markStagedApplied (st : SyncRuntimeState) :
    markStagedApplied casing (st.map f) =
      ((markStagedApplied casing st).1.map f,
        (markStagedApplied casing st).2) := by
  have sameHash : (st.map f).stagedServerHash = st.stagedServerHash := rfl
  have sameContentId : (st.map f).stagedContentId = st.stagedContentId := rfl
  simp only [markStagedApplied, sameHash, sameContentId, map_advanceSynced]
  cases st.stagedServerHash <;> rfl

theorem map_parkStaged (st : SyncRuntimeState) (keeps : KeepsIdentity f entry) :
    parkStaged (st.map f) (f entry) = (parkStaged st entry).map f := by
  simp only [parkStaged, keeps.hash, keeps.contentId]
  rfl

theorem ReducerCall.run_map_state (st : SyncRuntimeState)
    (keeps : ∀ entry ∈ call.entries, KeepsIdentity f entry) :
    ((call.map f).run casing (st.map f)).1 =
      (call.run casing st).1.map f := by
  cases call with
  | planPreamble snap => exact congrArg Prod.fst (map_planPreamble st snap)
  | planAfterServerGet snap => rfl
  | commitConverged serverHash serverContentId =>
      exact map_commitConverged st _ _
  | commitApply hash contentId nowMs cfg =>
      exact congrArg Prod.fst (map_commitApply st _ _ _ _)
  | commitApplyFailed entry =>
      exact map_parkStaged st (keeps entry (List.mem_singleton_self entry))
  | commitStage entry =>
      have parked := map_parkStaged st
        (keeps entry (List.mem_singleton_self entry))
      exact congrArg (fun st : SyncRuntimeState =>
        { st with state := .hasNewUnwritten }) parked
  | commitPush pushedHash contentId nowMs cfg =>
      exact congrArg Prod.fst (map_commitPush st _ _ _ _)
  | commitConsentPush pushedHash nowMs cfg =>
      exact congrArg Prod.fst (map_commitConsentPush st _ _ _)
  | commitTickFailure kind backoffMs nowMs =>
      exact congrArg Prod.fst (map_commitTickFailure st _ _ _)
  | markStagedApplied => exact congrArg Prod.fst (map_markStagedApplied st)
  | commitPushSkipped | commitTickSuccess | commitHistorySyncDone _
  | acknowledgeLoopDetection | resetRuntimeState
  | handleActiveServerChanged | handleNetworkRouteChanged => rfl

theorem ReducerCall.run_map_output (st : SyncRuntimeState)
    (noPlan : ∀ snap, call ≠ .planAfterServerGet snap) :
    ((call.map f).run casing (st.map f)).2 = (call.run casing st).2 := by
  cases call with
  | planPreamble snap =>
      exact congrArg (fun done => ReducerOutput.preamble done.2)
        (map_planPreamble st snap)
  | planAfterServerGet snap => exact (noPlan snap rfl).elim
  | commitApply hash contentId nowMs cfg =>
      exact congrArg (fun done => ReducerOutput.committed done.2)
        (map_commitApply st hash contentId nowMs cfg)
  | commitPush pushedHash contentId nowMs cfg =>
      exact congrArg (fun done => ReducerOutput.committed done.2)
        (map_commitPush st pushedHash contentId nowMs cfg)
  | commitConsentPush pushedHash nowMs cfg =>
      exact congrArg (fun done => ReducerOutput.committed done.2)
        (map_commitConsentPush st pushedHash nowMs cfg)
  | commitTickFailure kind backoffMs nowMs =>
      exact congrArg (fun done => ReducerOutput.failed done.2)
        (map_commitTickFailure st kind backoffMs nowMs)
  | markStagedApplied =>
      exact congrArg (fun done => ReducerOutput.wasStaged done.2)
        (map_markStagedApplied st)
  | commitConverged _ _ | commitApplyFailed _ | commitStage _
  | commitPushSkipped | commitTickSuccess | commitHistorySyncDone _
  | acknowledgeLoopDetection | resetRuntimeState
  | handleActiveServerChanged | handleNetworkRouteChanged => rfl

theorem stagedEntry_run
    (staged : (call.run casing st).1.stagedEntry = some entry) :
    st.stagedEntry = some entry ∨ entry ∈ call.entries := by
  have ofSlot {after : SyncRuntimeState}
      (same : after.stagedSlot = st.stagedSlot)
      (isStaged : after.stagedEntry = some entry) :
      st.stagedEntry = some entry :=
    (congrArg StagedSlot.entry same).symm.trans isStaged
  cases call with
  | planPreamble snap =>
      exact .inl (ofSlot (planPreamble_stagedSlot casing st snap) staged)
  | commitPush pushedHash contentId nowMs cfg =>
      exact .inl (ofSlot (commitPush_stagedSlot casing st _ _ _ _) staged)
  | commitConsentPush pushedHash nowMs cfg =>
      exact .inl (ofSlot (commitConsentPush_stagedSlot casing st _ _ _) staged)
  | commitApply hash contentId nowMs cfg =>
      have emptied := congrArg StagedSlot.entry
        (commitApply_stagedSlot casing st hash contentId nowMs cfg)
      exact nomatch emptied.symm.trans staged
  | commitApplyFailed other | commitStage other =>
      cases staged
      exact .inr (List.mem_singleton_self entry)
  | commitTickFailure kind backoffMs nowMs =>
      cases kind <;> exact .inl staged
  | markStagedApplied =>
      simp only [ReducerCall.run, markStagedApplied] at staged
      cases isHash : st.stagedServerHash with
      | none =>
          rw [isHash] at staged
          exact .inl staged
      | some hash =>
          rw [isHash] at staged
          cases staged
  | commitConverged _ _ | resetRuntimeState | handleActiveServerChanged =>
      cases staged
  | planAfterServerGet _ | commitPushSkipped | commitTickSuccess
  | commitHistorySyncDone _ | acknowledgeLoopDetection
  | handleNetworkRouteChanged => exact .inl staged

end Map

/-! ## The plan on collapsed documents -/

/-- The documents differ in their content id and their size at most. -/
structure SameButForSize (a b : Clipboard) : Prop where
  kind : a.kind = b.kind
  hash : a.hash = b.hash
  text : a.text = b.text
  hasData : a.hasData = b.hasData
  dataName : a.dataName = b.dataName

/-- The plan compares two documents without a hash that differ only in sizes
which collapse to one. -/
def ReducerCall.ComparesCollapsed (st : SyncRuntimeState) :
    ReducerCall Clipboard → Prop
  | .planAfterServerGet snap =>
      ∃ entry staged, snap.serverEntry = some entry ∧
        st.stagedEntry = some staged ∧ isAlreadySynced entry st = false ∧
        (nonemptyContentId entry.contentId = none ∨
          nonemptyContentId st.stagedContentId = none) ∧
        nonemptyHash entry.hash = none ∧ SameButForSize staged entry ∧
        staged.size ≠ entry.size ∧
        collapsedSize staged.size = collapsedSize entry.size
  | _ => False

theorem clipboardEqIgnoringContentId_iff {a b : Clipboard} :
    clipboardEqIgnoringContentId a b = true ↔
      SameButForSize a b ∧ a.size = b.size := by
  simp only [clipboardEqIgnoringContentId, Bool.and_eq_true, beq_iff_eq]
  constructor
  · rintro ⟨⟨⟨⟨⟨kind, hash⟩, text⟩, hasData⟩, dataName⟩, size⟩
    exact ⟨⟨kind, hash, text, hasData, dataName⟩, size⟩
  · rintro ⟨⟨kind, hash, text, hasData, dataName⟩, size⟩
    exact ⟨⟨⟨⟨⟨kind, hash⟩, text⟩, hasData⟩, dataName⟩, size⟩

theorem clipboardEqIgnoringContentId_collapsed_iff {a b : Clipboard}
    (leftNormalized : a.HashNormalized) (rightNormalized : b.HashNormalized) :
    clipboardEqIgnoringContentId a.collapsed b.collapsed = true ↔
      SameButForSize a b ∧ collapsedSize a.size = collapsedSize b.size := by
  rw [clipboardEqIgnoringContentId_iff, Clipboard.collapsed_eq leftNormalized,
    Clipboard.collapsed_eq rightNormalized]
  apply and_congr
  · constructor
    · rintro ⟨kind, hash, text, hasData, dataName⟩
      exact ⟨kind, hash, text, hasData, dataName⟩
    · rintro ⟨kind, hash, text, hasData, dataName⟩
      exact ⟨kind, hash, text, hasData, dataName⟩
  · exact Option.some_inj

theorem keepsIdentity_collapsed (normalized : entry.HashNormalized) :
    KeepsIdentity Clipboard.collapsed entry where
  hash := by rw [Clipboard.collapsed_eq normalized]
  contentId := rfl

section Plan

variable {casing : Uppercase}

variable (casing) in
theorem planAfterServerGet_collapsed (st : SyncRuntimeState)
    {snap : ServerGetSnapshot}
    (normalized : ∀ entry, snap.serverEntry = some entry →
      entry.HashNormalized) :
    planAfterServerGet casing (st.map Clipboard.collapsed)
        (snap.map Clipboard.collapsed) =
        planAfterServerGet casing st snap ↔
      ∀ entry, snap.serverEntry = some entry →
        convergedHash snap = none → isAlreadySynced entry st = false →
          isAlreadyStaged (st.map Clipboard.collapsed) entry.collapsed =
            isAlreadyStaged st entry := by
  have sameConverged : convergedHash (snap.map Clipboard.collapsed) =
      convergedHash snap := by
    simp only [convergedHash, GetSnapshot.map]
    cases isEntry : snap.serverEntry with
    | none => rfl
    | some entry =>
        have keeps := keepsIdentity_collapsed (normalized entry isEntry)
        simp only [Option.map_some, Option.bind_some, keeps.hash]
  have samePush : planPush (st.map Clipboard.collapsed)
      (snap.map Clipboard.collapsed) = planPush st snap := rfl
  have sameApply : (snap.map Clipboard.collapsed).autoApply =
      snap.autoApply := rfl
  have mapped : (snap.map Clipboard.collapsed).serverEntry =
      snap.serverEntry.map Clipboard.collapsed := rfl
  simp only [planAfterServerGet, sameConverged, samePush, sameApply, mapped]
  cases convergedHash snap with
  | some hash => simp
  | none =>
      cases isEntry : snap.serverEntry with
      | none => simp
      | some entry =>
          have keeps := keepsIdentity_collapsed (normalized entry isEntry)
          have sameSynced :
              isAlreadySynced entry.collapsed (st.map Clipboard.collapsed) =
                isAlreadySynced entry st := by
            simp only [isAlreadySynced, keeps.hash, keeps.contentId]
            rfl
          simp only [Option.map_some, sameSynced]
          cases synced : isAlreadySynced entry st with
          | true => simp [synced]
          | false => simp [planServerNew, keeps.hash, synced]

theorem isAlreadyStaged_of_unidentified
    (unidentified : nonemptyContentId entry.contentId = none ∨
      nonemptyContentId st.stagedContentId = none) :
    isAlreadyStaged st entry =
      if (nonemptyHash entry.hash).isSome then
        st.stagedServerHash.any fun staged =>
          hashesEqual (some staged) entry.hash
      else
        st.stagedEntry.any fun staged =>
          clipboardEqIgnoringContentId staged entry := by
  unfold isAlreadyStaged
  rcases unidentified with noEntry | noStaged
  · rw [noEntry]
  · rw [noStaged]
    cases nonemptyContentId entry.contentId <;> rfl

theorem clipboardEq_collapsed_eq_iff {staged entry : Clipboard}
    (stagedNormalized : staged.HashNormalized)
    (normalized : entry.HashNormalized) :
    clipboardEqIgnoringContentId staged.collapsed entry.collapsed =
        clipboardEqIgnoringContentId staged entry ↔
      ¬(SameButForSize staged entry ∧ staged.size ≠ entry.size ∧
        collapsedSize staged.size = collapsedSize entry.size) := by
  rw [Bool.eq_iff_iff,
    clipboardEqIgnoringContentId_collapsed_iff stagedNormalized normalized,
    clipboardEqIgnoringContentId_iff]
  by_cases sameSize : staged.size = entry.size
  · simp [sameSize]
  · simp [sameSize]

/-- The staged check differs only on documents without a hash whose sizes
collapse to one. -/
theorem isAlreadyStaged_collapsed_iff (normalized : entry.HashNormalized)
    (stagedNormalized : ∀ staged, st.stagedEntry = some staged →
      staged.HashNormalized) :
    isAlreadyStaged (st.map Clipboard.collapsed) entry.collapsed =
        isAlreadyStaged st entry ↔
      ¬∃ staged, st.stagedEntry = some staged ∧
        (nonemptyContentId entry.contentId = none ∨
          nonemptyContentId st.stagedContentId = none) ∧
        nonemptyHash entry.hash = none ∧ SameButForSize staged entry ∧
        staged.size ≠ entry.size ∧
        collapsedSize staged.size = collapsedSize entry.size := by
  have keeps := keepsIdentity_collapsed normalized
  by_cases unidentified : nonemptyContentId entry.contentId = none ∨
      nonemptyContentId st.stagedContentId = none
  · have collapsedUnidentified :
        nonemptyContentId entry.collapsed.contentId = none ∨
          nonemptyContentId
            (st.map Clipboard.collapsed).stagedContentId = none := unidentified
    rw [isAlreadyStaged_of_unidentified unidentified,
      isAlreadyStaged_of_unidentified collapsedUnidentified, keeps.hash]
    cases hash : nonemptyHash entry.hash with
    | some hash =>
        simp [RuntimeState.map]
    | none =>
        simp only [Option.isSome_none, Bool.false_eq_true, if_false]
        cases isStaged : st.stagedEntry with
        | none => simp [RuntimeState.map, isStaged]
        | some staged =>
            have compared := clipboardEq_collapsed_eq_iff
              (stagedNormalized staged isStaged) normalized
            simpa [RuntimeState.map, isStaged, unidentified] using compared
  · obtain ⟨⟨a, ofEntry⟩, ⟨b, ofStaged⟩⟩ :=
      And.intro (Option.ne_none_iff_exists'.mp (not_or.mp unidentified).1)
        (Option.ne_none_iff_exists'.mp (not_or.mp unidentified).2)
    have identified :
        isAlreadyStaged (st.map Clipboard.collapsed) entry.collapsed =
          isAlreadyStaged st entry := by
      have sameContentId : (st.map Clipboard.collapsed).stagedContentId =
          st.stagedContentId := rfl
      simp only [isAlreadyStaged, keeps.contentId, sameContentId, ofEntry,
        ofStaged]
    simp [identified, ofEntry, ofStaged]

theorem ReducerCall.run_collapsed_output
    (normalized : ∀ entry ∈ call.entries, entry.HashNormalized)
    (stagedNormalized : ∀ staged, st.stagedEntry = some staged →
      staged.HashNormalized) :
    ((call.map Clipboard.collapsed).run casing
        (st.map Clipboard.collapsed)).2 = (call.run casing st).2 ↔
      ¬call.ComparesCollapsed st := by
  cases call with
  | planAfterServerGet snap =>
      have entryNormalized : ∀ entry, snap.serverEntry = some entry →
          entry.HashNormalized := fun entry isEntry =>
        normalized entry (by simp [ReducerCall.entries, isEntry])
      have planned := planAfterServerGet_collapsed casing st entryNormalized
      have sameRoute : ((ReducerCall.map Clipboard.collapsed
            (.planAfterServerGet snap)).run casing
              (st.map Clipboard.collapsed)).2 =
            (ReducerCall.run casing st (.planAfterServerGet snap)).2 ↔
          MobileEngine.planAfterServerGet casing
              (st.map Clipboard.collapsed) (snap.map Clipboard.collapsed) =
            MobileEngine.planAfterServerGet casing st snap := by
        simp [ReducerCall.map, ReducerCall.run]
      rw [sameRoute, planned]
      constructor
      · rintro same ⟨entry, staged, isEntry, isStaged, notSynced,
          unidentified, hashless, rest⟩
        have notConverged : convergedHash snap = none := by
          simp [convergedHash, isEntry, hashless]
        have sameCheck := same entry isEntry notConverged notSynced
        exact (isAlreadyStaged_collapsed_iff (entryNormalized entry isEntry)
          stagedNormalized).mp sameCheck
            ⟨staged, isStaged, unidentified, hashless, rest⟩
      · intro differs entry isEntry _ notSynced
        refine (isAlreadyStaged_collapsed_iff (entryNormalized entry isEntry)
          stagedNormalized).mpr ?_
        rintro ⟨staged, isStaged, rest⟩
        exact differs ⟨entry, staged, isEntry, isStaged, notSynced, rest⟩
  | _ =>
      refine iff_of_true (ReducerCall.run_map_output st ?_) not_false
      intro snap isPlan
      cases isPlan

end Plan

/-! ## Runs on both sides -/

def outputs (casing : Uppercase) (st : SyncRuntimeState) :
    List (ReducerCall Clipboard) → List ReducerOutput
  | [] => []
  | call :: rest =>
      (call.run casing st).2 :: outputs casing (call.run casing st).1 rest

/-- The outputs of the wrappers, each given the state the last one returned. -/
def foreignOutputs (casing : Uppercase) (st : RuntimeState ClipboardMeta) :
    List (ReducerCall ClipboardMeta) → List ReducerOutput
  | [] => []
  | call :: rest =>
      (call.runForeign casing st).2 ::
        foreignOutputs casing (call.runForeign casing st).1 rest

def afterCalls (casing : Uppercase) (st : SyncRuntimeState)
    (calls : List (ReducerCall Clipboard)) : SyncRuntimeState :=
  calls.foldl (fun st call => (call.run casing st).1) st

/-- The state after a list of wrappers. -/
def afterForeign (casing : Uppercase) (st : RuntimeState ClipboardMeta)
    (calls : List (ReducerCall ClipboardMeta)) :
    RuntimeState ClipboardMeta :=
  calls.foldl (fun st call => (call.runForeign casing st).1) st

def ReducerCall.step (casing : Uppercase) (st : SyncRuntimeState)
    (call : ReducerCall Clipboard) : Option SyncRuntimeState :=
  some (call.run casing st).1

def StagedNormalized (st : SyncRuntimeState) : Prop :=
  ∀ staged, st.stagedEntry = some staged → staged.HashNormalized

section Runs

variable {casing : Uppercase}

theorem StagedNormalized.run (normalized : StagedNormalized st)
    (entries : ∀ entry ∈ call.entries, entry.HashNormalized) :
    StagedNormalized (call.run casing st).1 := by
  intro staged isStaged
  rcases stagedEntry_run isStaged with before | listed
  · exact normalized staged before
  · exact entries staged listed

theorem ReducerCall.map_map_eq (call : ReducerCall Clipboard) :
    (call.map ClipboardMeta.fromProto).map ClipboardMeta.intoProto =
      call.map Clipboard.collapsed := by
  cases call with
  | planAfterServerGet snap =>
      simp only [ReducerCall.map, GetSnapshot.map, Option.map_map]
      rfl
  | _ => rfl

theorem RuntimeState.intoProto_fromProto (st : SyncRuntimeState) :
    (RuntimeState.fromProto st).intoProto = st.map Clipboard.collapsed := by
  simp only [RuntimeState.intoProto, RuntimeState.fromProto,
    RuntimeState.map, Option.map_map]
  rfl

theorem RuntimeState.fromProto_collapsed (normalized : StagedNormalized st) :
    RuntimeState.fromProto (st.map Clipboard.collapsed) =
      RuntimeState.fromProto st := by
  simp only [RuntimeState.fromProto, RuntimeState.map]
  cases isStaged : st.stagedEntry with
  | none => rfl
  | some staged =>
      simp [ClipboardMeta.fromProto_collapsed (normalized staged isStaged)]

theorem ReducerCall.runForeign_state (stagedNormalized : StagedNormalized st)
    (normalized : ∀ entry ∈ call.entries, entry.HashNormalized) :
    ((call.map ClipboardMeta.fromProto).runForeign casing
        (.fromProto st)).1 =
      .fromProto (call.run casing st).1 := by
  have keeps : ∀ entry ∈ call.entries,
      KeepsIdentity Clipboard.collapsed entry := fun entry listed =>
    keepsIdentity_collapsed (normalized entry listed)
  simp only [ReducerCall.runForeign, ReducerCall.map_map_eq,
    RuntimeState.intoProto_fromProto]
  rw [ReducerCall.run_map_state st keeps]
  exact RuntimeState.fromProto_collapsed (stagedNormalized.run normalized)

/-- Its output is the reducer's unless the plan compares documents whose sizes
collapse to one. -/
theorem ReducerCall.runForeign_output (stagedNormalized : StagedNormalized st)
    (normalized : ∀ entry ∈ call.entries, entry.HashNormalized) :
    ((call.map ClipboardMeta.fromProto).runForeign casing
        (.fromProto st)).2 = (call.run casing st).2 ↔
      ¬call.ComparesCollapsed st := by
  simp only [ReducerCall.runForeign, ReducerCall.map_map_eq,
    RuntimeState.intoProto_fromProto]
  exact ReducerCall.run_collapsed_output normalized stagedNormalized

theorem afterForeign_fromProto (stagedNormalized : StagedNormalized st)
    {calls : List (ReducerCall Clipboard)}
    (normalized : ∀ call ∈ calls, ∀ entry ∈ call.entries,
      entry.HashNormalized) :
    afterForeign casing (.fromProto st)
        (calls.map (ReducerCall.map ClipboardMeta.fromProto)) =
      .fromProto (afterCalls casing st calls) := by
  induction calls generalizing st with
  | nil => rfl
  | cons call rest inductionHypothesis =>
      have here := normalized call List.mem_cons_self
      have later : ∀ other ∈ rest, ∀ entry ∈ other.entries,
          entry.HashNormalized := fun other member =>
        normalized other (List.mem_cons_of_mem call member)
      simp only [List.map_cons, afterForeign, afterCalls, List.foldl_cons]
      rw [ReducerCall.runForeign_state stagedNormalized here]
      exact inductionHypothesis (stagedNormalized.run here) later

theorem foreignOutputs_eq_iff (stagedNormalized : StagedNormalized st)
    {calls : List (ReducerCall Clipboard)}
    (normalized : ∀ call ∈ calls, ∀ entry ∈ call.entries,
      entry.HashNormalized) :
    foreignOutputs casing (.fromProto st)
        (calls.map (ReducerCall.map ClipboardMeta.fromProto)) =
        outputs casing st calls ↔
      Guarded (ReducerCall.step casing)
        (fun st call => ¬call.ComparesCollapsed st) st calls := by
  induction calls generalizing st with
  | nil => exact iff_of_true rfl trivial
  | cons call rest inductionHypothesis =>
      have here := normalized call List.mem_cons_self
      have later : ∀ other ∈ rest, ∀ entry ∈ other.entries,
          entry.HashNormalized := fun other member =>
        normalized other (List.mem_cons_of_mem call member)
      simp only [List.map_cons, foreignOutputs, outputs, List.cons.injEq,
        Guarded, ReducerCall.step]
      apply and_congr
      · exact ReducerCall.runForeign_output stagedNormalized here
      · rw [ReducerCall.runForeign_state stagedNormalized here]
        exact inductionHypothesis (stagedNormalized.run here) later

end Runs

/-- A wrapper is the reducer between the conversions, for every state and call.
Along every run on documents with normalized hashes the returned states are the
converted ones, and the outputs are the reducer's exactly if no plan compares
two documents without a hash whose sizes collapse to one. -/
theorem foreignMirrors_iff (casing : Uppercase)
    {calls : List (ReducerCall Clipboard)}
    (normalized : ∀ call ∈ calls, ∀ entry ∈ call.entries,
      entry.HashNormalized) :
    (∀ st call, ReducerCall.runForeign casing st call =
        (.fromProto ((call.map ClipboardMeta.intoProto).run casing
          st.intoProto).1,
          ((call.map ClipboardMeta.intoProto).run casing st.intoProto).2)) ∧
      afterForeign casing .default
          (calls.map (ReducerCall.map ClipboardMeta.fromProto)) =
        .fromProto (afterCalls casing .default calls) ∧
      (foreignOutputs casing .default
          (calls.map (ReducerCall.map ClipboardMeta.fromProto)) =
          outputs casing .default calls ↔
        Guarded (ReducerCall.step casing)
          (fun st call => ¬call.ComparesCollapsed st) .default calls) := by
  have fresh : StagedNormalized RuntimeState.default := nofun
  refine ⟨fun st call => rfl, ?_, ?_⟩
  · exact afterForeign_fromProto fresh normalized
  · exact foreignOutputs_eq_iff fresh normalized

namespace PhoneSample

def described (hash : Option String) (size : Option Int64) : Clipboard where
  kind := .text
  hash := hash
  contentId := none
  text := "H"
  hasData := false
  dataName := none
  size := size

def plansFor (entry : Clipboard) : ReducerCall Clipboard :=
  .planAfterServerGet ⟨false, false, some entry, true, some "AB"⟩

/-- Once something was pushed, a text without hash and size is staged; the
server then gives its size as zero. -/
def sizeAppears : List (ReducerCall Clipboard) :=
  [.commitPush (some "AA") none 1000 ⟨30000, 3⟩,
    .commitStage (described none none), plansFor (described none (some 0))]

theorem described_normalized :
    (described (some "AB") (some 1)).HashNormalized := by
  have same : normalizeHash (some "AB") = some "AB" := by
    decide +kernel
  exact same

def hashed : List (ReducerCall Clipboard) :=
  [.commitStage (described (some "AB") (some 1))]

theorem foreignMirrors_iff_hashed :
    afterForeign casing .default
          (hashed.map (ReducerCall.map ClipboardMeta.fromProto)) =
        .fromProto (afterCalls casing .default hashed) ∧
      (foreignOutputs casing .default
          (hashed.map (ReducerCall.map ClipboardMeta.fromProto)) =
          outputs casing .default hashed ↔
        Guarded (ReducerCall.step casing)
          (fun st call => ¬call.ComparesCollapsed st) .default hashed) := by
  refine (foreignMirrors_iff casing ?_).2
  intro call listed entry member
  rw [List.mem_singleton.mp listed] at member
  rw [List.mem_singleton.mp member]
  exact described_normalized

/-- Behind the boundary the second answer counts as staged already; and a
padded hash counts as the device's own. -/
theorem conversions_change_plans :
    outputs casing .default sizeAppears =
        [.committed false, .nothing, .route (.serverNew ⟨false, false⟩)] ∧
      foreignOutputs casing .default
          (sizeAppears.map (ReducerCall.map ClipboardMeta.fromProto)) =
        [.committed false, .nothing, .route (.serverNew ⟨true, false⟩)] ∧
      outputs casing .default [plansFor (described (some " AB ") (some 1))] =
        [.route (.serverNew ⟨false, false⟩)] ∧
      foreignOutputs casing .default
          [(plansFor (described (some " AB ") (some 1))).map
            ClipboardMeta.fromProto] =
        [.route (.converged "AB")] := by
  decide +kernel

end PhoneSample

end OpenClipboard.MobileEngine
