import OpenClipboard.MobileEngine.Reducer

/-!
# Runs of the reducer

One action is one call that changes the runtime state: a function of the
reducer, or the engine's own fold of the persisted pair.  The lemmas say once
what each action does to the two halves of the watermark and to the three
parts of the staged slot.
-/

namespace OpenClipboard.MobileEngine

/-- A call of a function of the reducer, for either form of the documents. -/
inductive ReducerCall (Entry : Type)
  | planPreamble (snap : PreambleSnapshot)
  | planAfterServerGet (snap : GetSnapshot Entry)
  | commitConverged (serverHash : String) (serverContentId : Option String)
  | commitApply (hash contentId : Option String) (nowMs : Int)
      (cfg : SyncConfig)
  | commitApplyFailed (entry : Entry)
  | commitStage (entry : Entry)
  | commitPush (pushedHash contentId : Option String) (nowMs : Int)
      (cfg : SyncConfig)
  | commitPushSkipped
  | commitConsentPush (pushedHash : Option String) (nowMs : Int)
      (cfg : SyncConfig)
  | commitTickSuccess
  | commitTickFailure (kind : TickErrorKind) (backoffMs : Int → Int)
      (nowMs : Int)
  | commitHistorySyncDone (nowMs : Int)
  | markStagedApplied
  | acknowledgeLoopDetection
  | resetRuntimeState
  | handleActiveServerChanged
  | handleNetworkRouteChanged

/-- What a call gives back besides the state. -/
inductive ReducerOutput
  | nothing
  | preamble (plan : Preamble)
  | route (route : ServerRoute)
  | committed (tripped : Bool)
  | failed (outcome : TickFailureOutcome)
  | wasStaged (staged : Bool)
  deriving DecidableEq

variable (casing : Uppercase)

def ReducerCall.run (st : SyncRuntimeState) :
    ReducerCall Clipboard → SyncRuntimeState × ReducerOutput
  | .planPreamble snap =>
      let (st, plan) := MobileEngine.planPreamble casing st snap
      (st, .preamble plan)
  | .planAfterServerGet snap =>
      (st, .route (MobileEngine.planAfterServerGet casing st snap))
  | .commitConverged serverHash serverContentId =>
      (MobileEngine.commitConverged casing st serverHash serverContentId,
        .nothing)
  | .commitApply hash contentId nowMs cfg =>
      let (st, tripped) :=
        MobileEngine.commitApply casing st hash contentId nowMs cfg
      (st, .committed tripped)
  | .commitApplyFailed entry =>
      (MobileEngine.commitApplyFailed st entry, .nothing)
  | .commitStage entry => (MobileEngine.commitStage st entry, .nothing)
  | .commitPush pushedHash contentId nowMs cfg =>
      let (st, tripped) :=
        MobileEngine.commitPush casing st pushedHash contentId nowMs cfg
      (st, .committed tripped)
  | .commitPushSkipped => (MobileEngine.commitPushSkipped st, .nothing)
  | .commitConsentPush pushedHash nowMs cfg =>
      let (st, tripped) :=
        MobileEngine.commitConsentPush casing st pushedHash nowMs cfg
      (st, .committed tripped)
  | .commitTickSuccess => (MobileEngine.commitTickSuccess st, .nothing)
  | .commitTickFailure kind backoffMs nowMs =>
      let (st, outcome) :=
        MobileEngine.commitTickFailure st kind backoffMs nowMs
      (st, .failed outcome)
  | .commitHistorySyncDone nowMs =>
      (MobileEngine.commitHistorySyncDone st nowMs, .nothing)
  | .markStagedApplied =>
      let (st, staged) := MobileEngine.markStagedApplied casing st
      (st, .wasStaged staged)
  | .acknowledgeLoopDetection =>
      (MobileEngine.acknowledgeLoopDetection st, .nothing)
  | .resetRuntimeState => (MobileEngine.resetRuntimeState st, .nothing)
  | .handleActiveServerChanged =>
      (MobileEngine.handleActiveServerChanged st, .nothing)
  | .handleNetworkRouteChanged =>
      (MobileEngine.handleNetworkRouteChanged st, .nothing)

inductive RuntimeAction
  | reducer (call : ReducerCall Clipboard)
  | fold (persistedHash persistedContentId : Option String)

def RuntimeAction.apply (st : SyncRuntimeState) :
    RuntimeAction → SyncRuntimeState
  | .reducer call => (call.run casing st).1
  | .fold hash contentId => foldWatermark casing st hash contentId

def runActions (st : SyncRuntimeState) (actions : List RuntimeAction) :
    SyncRuntimeState :=
  actions.foldl (RuntimeAction.apply casing) st

/-! ## The watermark -/

/-- The identity of some content: its hash and its content id. -/
structure Identity where
  hash : Option String
  contentId : Option String
  deriving DecidableEq

def Identity.kept (identity : Identity) : Identity where
  hash := identity.hash.map casing.toUppercase
  contentId := nonemptyContentId identity.contentId

def RuntimeState.watermark {Entry : Type} (st : RuntimeState Entry) :
    Identity where
  hash := st.lastSyncedHash
  contentId := st.lastSyncedContentId

def ReducerCall.commits (st : SyncRuntimeState) :
    ReducerCall Clipboard → Option Identity
  | .commitConverged serverHash serverContentId =>
      some ⟨some serverHash, serverContentId⟩
  | .commitApply hash contentId _ _ => some ⟨hash, contentId⟩
  | .commitPush pushedHash contentId _ _ => some ⟨pushedHash, contentId⟩
  | .commitConsentPush pushedHash _ _ => some ⟨pushedHash, none⟩
  | .markStagedApplied => some ⟨st.stagedServerHash, st.stagedContentId⟩
  | _ => none

def RuntimeAction.folds (st : SyncRuntimeState) :
    RuntimeAction → Option Identity
  | .reducer (.planPreamble snap) =>
      if (planPreamble casing st snap).2.proceed = .toNetwork then
        some ⟨snap.persistedSyncedHash, snap.persistedSyncedContentId⟩
      else
        none
  | .fold hash contentId => some ⟨hash, contentId⟩
  | _ => none

inductive WatermarkChange
  | keep
  | moveTo (identity : Identity)
  | clear
  deriving DecidableEq

def WatermarkChange.apply (before : Identity) : WatermarkChange → Identity
  | .keep => before
  | .moveTo identity => identity.kept casing
  | .clear => ⟨none, none⟩

/-- A commit of content without a hash moves nothing. -/
def Identity.commitChange (identity : Identity) : WatermarkChange :=
  if (nonemptyHash identity.hash).isSome then .moveTo identity else .keep

/-- A fold moves the watermark where a half differs. -/
def Identity.foldChange (persisted before : Identity) : WatermarkChange :=
  if !hashesEqual persisted.hash before.hash ||
      nonemptyContentId persisted.contentId !=
        nonemptyContentId before.contentId then
    .moveTo persisted
  else
    .keep

def RuntimeAction.change (st : SyncRuntimeState) (action : RuntimeAction) :
    WatermarkChange :=
  match action.folds casing st with
  | some persisted => persisted.foldChange st.watermark
  | none =>
      match action with
      | .reducer .handleActiveServerChanged => .clear
      | .reducer call => ((call.commits st).map Identity.commitChange).getD .keep
      | .fold _ _ => .keep

variable {casing}

theorem nonemptyContentId_idem (id : Option String) :
    nonemptyContentId (nonemptyContentId id) = nonemptyContentId id := by
  simp [nonemptyContentId, Option.filter_filter]

theorem Identity.commitChange_nonempty (identity before : Identity) :
    (Identity.commitChange
        ⟨identity.hash, nonemptyContentId identity.contentId⟩).apply casing
        before =
      identity.commitChange.apply casing before := by
  unfold Identity.commitChange
  split
  · simp [WatermarkChange.apply, Identity.kept, nonemptyContentId_idem]
  · rfl

theorem advanceSynced_watermark {Entry : Type} (st : RuntimeState Entry)
    (hash contentId : Option String) :
    (advanceSynced casing st hash contentId).watermark =
      (Identity.commitChange ⟨hash, contentId⟩).apply casing st.watermark := by
  cases hash with
  | none => rfl
  | some hash =>
      by_cases blank : hash = ""
      · simp [advanceSynced, Identity.commitChange, nonemptyHash, blank,
          WatermarkChange.apply]
      · simp [advanceSynced, Identity.commitChange, nonemptyHash, blank,
          WatermarkChange.apply, RuntimeState.watermark, Identity.kept]

theorem foldWatermark_watermark {Entry : Type} (st : RuntimeState Entry)
    (hash contentId : Option String) :
    (foldWatermark casing st hash contentId).watermark =
      (Identity.foldChange ⟨hash, contentId⟩ st.watermark).apply casing
        st.watermark := by
  by_cases differs : (!hashesEqual hash st.lastSyncedHash ||
      nonemptyContentId contentId !=
        nonemptyContentId st.lastSyncedContentId) = true
  · have moved : Identity.foldChange ⟨hash, contentId⟩ st.watermark =
        .moveTo ⟨hash, contentId⟩ := if_pos differs
    simp only [foldWatermark, if_pos differs, moved]
    rfl
  · have kept : Identity.foldChange ⟨hash, contentId⟩ st.watermark = .keep :=
      if_neg differs
    simp only [foldWatermark, if_neg differs, kept]
    rfl

@[simp]
theorem recordAndCheck_watermark {Entry : Type} (st : RuntimeState Entry)
    (direction : LoopDirection) (hash : Option String) (nowMs : Int)
    (cfg : SyncConfig) :
    (recordAndCheck casing st direction hash nowMs cfg).1.watermark =
      st.watermark := by
  simp only [recordAndCheck]
  split <;> rfl

theorem commitConverged_watermark (st : SyncRuntimeState)
    (serverHash : String) (serverContentId : Option String) :
    (commitConverged casing st serverHash serverContentId).watermark =
      (Identity.commitChange ⟨some serverHash, serverContentId⟩).apply casing
        st.watermark :=
  advanceSynced_watermark st _ _

theorem commitPush_watermark (st : SyncRuntimeState)
    (pushedHash contentId : Option String) (nowMs : Int) (cfg : SyncConfig) :
    (commitPush casing st pushedHash contentId nowMs cfg).1.watermark =
      (Identity.commitChange ⟨pushedHash, contentId⟩).apply casing
        st.watermark := by
  simp only [commitPush]
  cases nonempty : nonemptyHash pushedHash with
  | none =>
      simp [Identity.commitChange, nonempty, WatermarkChange.apply,
        RuntimeState.watermark]
  | some hash =>
      have sameHash : pushedHash = some hash :=
        (Option.filter_eq_some_iff.mp nonempty).1
      rw [sameHash, ← advanceSynced_watermark]
      exact recordAndCheck_watermark _ _ _ _ _

theorem commitConsentPush_watermark (st : SyncRuntimeState)
    (pushedHash : Option String) (nowMs : Int) (cfg : SyncConfig) :
    (commitConsentPush casing st pushedHash nowMs cfg).1.watermark =
      (Identity.commitChange ⟨pushedHash, none⟩).apply casing
        st.watermark := by
  rw [← advanceSynced_watermark]
  simp only [commitConsentPush]
  split <;> exact recordAndCheck_watermark _ _ _ _ _

theorem commitApply_watermark (st : SyncRuntimeState)
    (hash contentId : Option String) (nowMs : Int) (cfg : SyncConfig) :
    (commitApply casing st hash contentId nowMs cfg).1.watermark =
      (Identity.commitChange ⟨hash, contentId⟩).apply casing
        st.watermark := by
  rw [← advanceSynced_watermark]
  exact recordAndCheck_watermark _ _ _ _ _

theorem markStagedApplied_watermark (st : SyncRuntimeState) :
    (markStagedApplied casing st).1.watermark =
      (Identity.commitChange
        ⟨st.stagedServerHash, st.stagedContentId⟩).apply casing
          st.watermark := by
  rw [← advanceSynced_watermark]
  simp only [markStagedApplied]
  cases st.stagedServerHash with
  | none => rfl
  | some hash => rfl

theorem planPreamble_watermark (st : SyncRuntimeState)
    (snap : PreambleSnapshot) :
    (planPreamble casing st snap).1.watermark =
      if (planPreamble casing st snap).2.proceed = .toNetwork then
        (foldWatermark casing st snap.persistedSyncedHash
          snap.persistedSyncedContentId).watermark
      else
        st.watermark := by
  simp only [planPreamble]
  split
  · rfl
  · split
    · rfl
    · split <;> rfl

theorem RuntimeAction.apply_watermark (st : SyncRuntimeState)
    (action : RuntimeAction) :
    (action.apply casing st).watermark =
      (action.change casing st).apply casing st.watermark := by
  cases action with
  | fold hash contentId => exact foldWatermark_watermark st hash contentId
  | reducer call =>
      cases call with
      | planPreamble snap =>
          refine (planPreamble_watermark st snap).trans ?_
          by_cases reaches :
              (planPreamble casing st snap).2.proceed = .toNetwork
          · simp only [RuntimeAction.change, RuntimeAction.folds, reaches,
              if_true]
            exact foldWatermark_watermark st _ _
          · simp only [RuntimeAction.change, RuntimeAction.folds, reaches,
              if_false, ReducerCall.commits]
            rfl
      | commitConverged serverHash serverContentId =>
          exact commitConverged_watermark st _ _
      | commitApply hash contentId nowMs cfg =>
          exact commitApply_watermark st _ _ _ _
      | commitPush pushedHash contentId nowMs cfg =>
          exact commitPush_watermark st _ _ _ _
      | commitConsentPush pushedHash nowMs cfg =>
          exact commitConsentPush_watermark st _ _ _
      | markStagedApplied => exact markStagedApplied_watermark st
      | commitTickFailure kind backoffMs nowMs => cases kind <;> rfl
      | planAfterServerGet _ | commitApplyFailed _ | commitStage _
      | commitPushSkipped | commitTickSuccess | commitHistorySyncDone _
      | acknowledgeLoopDetection | resetRuntimeState
      | handleActiveServerChanged | handleNetworkRouteChanged => rfl

theorem RuntimeAction.change_of_commits {st : SyncRuntimeState}
    {call : ReducerCall Clipboard} {committed : Identity}
    (commits : call.commits st = some committed) :
    RuntimeAction.change casing st (.reducer call) =
      committed.commitChange := by
  cases call with
  | commitConverged | commitApply | commitPush | commitConsentPush
  | markStagedApplied =>
      cases commits
      rfl
  | _ => cases commits

/-! ## The staged slot -/

structure StagedSlot (Entry : Type) where
  serverHash : Option String
  contentId : Option String
  entry : Option Entry

def RuntimeState.stagedSlot {Entry : Type} (st : RuntimeState Entry) :
    StagedSlot Entry where
  serverHash := st.stagedServerHash
  contentId := st.stagedContentId
  entry := st.stagedEntry

/-- All three parts come from one entry, or all of them are empty. -/
inductive StagedTogether : StagedSlot Clipboard → Prop
  | empty : StagedTogether ⟨none, none, none⟩
  | staged (entry : Clipboard) :
      StagedTogether
        ⟨entry.hash, nonemptyContentId entry.contentId, some entry⟩

variable (casing)

theorem StagedTogether.parts {st : SyncRuntimeState} {entry : Clipboard}
    (together : StagedTogether st.stagedSlot)
    (isStaged : st.stagedEntry = some entry) :
    st.stagedServerHash = entry.hash ∧
      st.stagedContentId = nonemptyContentId entry.contentId := by
  generalize slotEq : st.stagedSlot = slot at together
  cases together with
  | empty =>
      have noEntry : st.stagedEntry = none := congrArg StagedSlot.entry slotEq
      rw [noEntry] at isStaged
      cases isStaged
  | staged other =>
      have isOther : st.stagedEntry = some other :=
        congrArg StagedSlot.entry slotEq
      rw [isOther] at isStaged
      cases isStaged
      exact ⟨congrArg StagedSlot.serverHash slotEq,
        congrArg StagedSlot.contentId slotEq⟩

@[simp]
theorem foldWatermark_stagedSlot {Entry : Type} (st : RuntimeState Entry)
    (hash contentId : Option String) :
    (foldWatermark casing st hash contentId).stagedSlot = st.stagedSlot := by
  simp only [foldWatermark]
  split <;> rfl

@[simp]
theorem advanceSynced_stagedSlot {Entry : Type} (st : RuntimeState Entry)
    (hash contentId : Option String) :
    (advanceSynced casing st hash contentId).stagedSlot = st.stagedSlot := by
  cases hash with
  | none => rfl
  | some hash =>
      simp only [advanceSynced]
      split <;> rfl

@[simp]
theorem recordAndCheck_stagedSlot {Entry : Type} (st : RuntimeState Entry)
    (direction : LoopDirection) (hash : Option String) (nowMs : Int)
    (cfg : SyncConfig) :
    (recordAndCheck casing st direction hash nowMs cfg).1.stagedSlot =
      st.stagedSlot := by
  simp only [recordAndCheck]
  split <;> rfl

@[simp]
theorem commitPush_stagedSlot (st : SyncRuntimeState)
    (pushedHash contentId : Option String) (nowMs : Int) (cfg : SyncConfig) :
    (commitPush casing st pushedHash contentId nowMs cfg).1.stagedSlot =
      st.stagedSlot := by
  simp only [commitPush]
  split
  · rfl
  · refine (recordAndCheck_stagedSlot casing _ _ _ _ _).trans ?_
    exact advanceSynced_stagedSlot casing st _ _

theorem commitConsentPush_stagedSlot (st : SyncRuntimeState)
    (pushedHash : Option String) (nowMs : Int) (cfg : SyncConfig) :
    (commitConsentPush casing st pushedHash nowMs cfg).1.stagedSlot =
      st.stagedSlot := by
  have recorded := recordAndCheck_stagedSlot casing
    { advanceSynced casing st pushedHash none with
      lastAppliedHash := upperNonempty casing pushedHash }
    .pushed pushedHash nowMs cfg
  have advanced := advanceSynced_stagedSlot casing st pushedHash
    none
  simp only [commitConsentPush]
  split <;> exact recorded.trans advanced

@[simp]
theorem commitApply_stagedSlot (st : SyncRuntimeState)
    (hash contentId : Option String) (nowMs : Int) (cfg : SyncConfig) :
    (commitApply casing st hash contentId nowMs cfg).1.stagedSlot =
      ⟨none, none, none⟩ :=
  recordAndCheck_stagedSlot casing _ _ _ _ _

theorem planPreamble_stagedSlot (st : SyncRuntimeState)
    (snap : PreambleSnapshot) :
    (planPreamble casing st snap).1.stagedSlot = st.stagedSlot := by
  simp only [planPreamble]
  split
  · rfl
  · split
    · rfl
    · split
      · rfl
      · exact foldWatermark_stagedSlot casing st _ _

theorem StagedTogether.apply {st : SyncRuntimeState}
    (together : StagedTogether st.stagedSlot) (action : RuntimeAction) :
    StagedTogether (action.apply casing st).stagedSlot := by
  cases action with
  | fold hash contentId =>
      simpa only [RuntimeAction.apply, foldWatermark_stagedSlot] using together
  | reducer call =>
      cases call with
      | planPreamble snap =>
          have same := planPreamble_stagedSlot casing st snap
          exact same ▸ together
      | commitPush pushedHash contentId nowMs cfg =>
          have same := commitPush_stagedSlot casing st pushedHash
            contentId nowMs cfg
          exact same ▸ together
      | commitConsentPush pushedHash nowMs cfg =>
          have same := commitConsentPush_stagedSlot casing st
            pushedHash nowMs cfg
          exact same ▸ together
      | commitApply hash contentId nowMs cfg =>
          have emptied := commitApply_stagedSlot casing st hash
            contentId nowMs cfg
          exact emptied ▸ .empty
      | commitApplyFailed entry | commitStage entry => exact .staged entry
      | commitConverged _ _ | resetRuntimeState
      | handleActiveServerChanged => exact .empty
      | commitTickFailure kind backoffMs nowMs => cases kind <;> exact together
      | markStagedApplied =>
          simp only [RuntimeAction.apply, ReducerCall.run, markStagedApplied]
          cases st.stagedServerHash with
          | none => exact together
          | some hash => exact .empty
      | planAfterServerGet _ | commitPushSkipped | commitTickSuccess
      | commitHistorySyncDone _ | acknowledgeLoopDetection
      | handleNetworkRouteChanged => exact together

end OpenClipboard.MobileEngine
