import OpenClipboard.MobileEngine.Engine

/-!
# What one tick can do

A plan is inverted into the facts that led to it, and a routed tick into the
nine ways it can end.  Every invariant of the engine is read off these cases.
-/

namespace OpenClipboard.MobileEngine

variable {casing : Uppercase}

/-! ## Plans -/

section Plans

variable {st : SyncRuntimeState} {snap : ServerGetSnapshot}

theorem planAfterServerGet_eq_converged {serverHash : String} :
    planAfterServerGet casing st snap = .converged serverHash ↔
      ∃ hash, convergedHash snap = some hash ∧
        casing.toUppercase hash = serverHash := by
  simp only [planAfterServerGet]
  cases convergedHash snap with
  | some hash => simp
  | none =>
      cases snap.serverEntry with
      | none => simp
      | some entry => cases synced : isAlreadySynced entry st <;> simp [synced]

theorem planAfterServerGet_eq_serverNew {plan : ServerNewPlan} :
    planAfterServerGet casing st snap = .serverNew plan ↔
      convergedHash snap = none ∧ ∃ entry, snap.serverEntry = some entry ∧
        isAlreadySynced entry st = false ∧
          planServerNew st snap.autoApply entry = plan := by
  simp only [planAfterServerGet]
  cases convergedHash snap with
  | some hash => simp
  | none =>
      cases snap.serverEntry with
      | none => simp
      | some entry => cases synced : isAlreadySynced entry st <;> simp [synced]

theorem planAfterServerGet_eq_push {decision : PushDecision} :
    planAfterServerGet casing st snap = .push decision ↔
      convergedHash snap = none ∧
        (∀ entry, snap.serverEntry = some entry →
          isAlreadySynced entry st = true) ∧
        planPush st snap = decision := by
  simp only [planAfterServerGet]
  cases convergedHash snap with
  | some hash => simp
  | none =>
      cases snap.serverEntry with
      | none => simp
      | some entry => cases synced : isAlreadySynced entry st <;> simp [synced]

theorem planPush_eq_doPush :
    planPush st snap = .doPush ↔
      snap.autoPush = true ∧ snap.devicePresent = true ∧
        hashesEqual snap.deviceHash st.lastSyncedHash = false ∧
          hashesEqual snap.deviceHash st.lastAppliedHash = false := by
  simp only [planPush]
  cases snap.autoPush
  · simp
  · cases snap.devicePresent
    · simp
    · cases hashesEqual snap.deviceHash st.lastSyncedHash
      · cases hashesEqual snap.deviceHash st.lastAppliedHash <;> simp
      · simp

end Plans

/-! ## Routed ticks -/

@[simp]
theorem Engine.whileRequesting_runtime (engine : Engine)
    (env : Surroundings) :
    (engine.whileRequesting env).runtime = engine.runtime := rfl

@[simp]
theorem Engine.whileRequesting_server (engine : Engine)
    (env : Surroundings) :
    (engine.whileRequesting env).server = engine.server := rfl

@[simp]
theorem Engine.whileRequesting_withRuntime (engine : Engine)
    (env : Surroundings) :
    (engine.whileRequesting env).withRuntime engine.runtime =
      engine.whileRequesting env := rfl

@[simp]
theorem Engine.withRuntime_runtime (engine : Engine)
    (runtime : SyncRuntimeState) :
    (engine.withRuntime runtime).runtime = runtime := rfl

@[simp]
theorem Engine.failTick_watermark (engine : Engine) (env : Surroundings)
    (error : SyncError) :
    (engine.failTick env error).runtime.watermark =
      engine.runtime.watermark := by
  cases error <;> rfl

@[simp]
theorem Engine.failTick_stagedSlot (engine : Engine) (env : Surroundings)
    (error : SyncError) :
    (engine.failTick env error).runtime.stagedSlot =
      engine.runtime.stagedSlot := by
  cases error <;> rfl

@[simp]
theorem Engine.persistAndSucceed_watermark (engine : Engine)
    (env : Surroundings) (runtime : SyncRuntimeState) :
    (engine.persistAndSucceed env runtime).runtime.watermark =
      runtime.watermark := rfl

@[simp]
theorem Engine.persistAndSucceed_stagedSlot (engine : Engine)
    (env : Surroundings) (runtime : SyncRuntimeState) :
    (engine.persistAndSucceed env runtime).runtime.stagedSlot =
      runtime.stagedSlot := rfl

/-- The ways a routed tick can end, from the engine that has folded. -/
inductive Engine.Routes (casing : Uppercase) (engine : Engine)
    (env : Surroundings) (req : RouteRequest) : Tick → Prop
  | requestFailed (error : SyncError) :
      env.getLatestEntry engine.server = .error error →
      engine.Routes casing env req
        ⟨engine.failTick env error, .failed error, []⟩
  | converged (entry : Option Clipboard) (serverHash : String) :
      env.getLatestEntry engine.server = .ok entry →
      planAfterServerGet casing engine.runtime (req.snapshot entry) =
        .converged serverHash →
      engine.Routes casing env req
        ⟨engine.persistAndSucceed env
          (commitConverged casing engine.runtime serverHash
            (entry.bind Clipboard.contentId)),
          .upToDate .converged, []⟩
  | alreadyStaged (entry : Clipboard) (plan : ServerNewPlan) :
      env.getLatestEntry engine.server = .ok (some entry) →
      planAfterServerGet casing engine.runtime (req.snapshot (some entry)) =
        .serverNew plan →
      plan.alreadyStaged = true →
      engine.Routes casing env req
        ⟨engine.withRuntime (commitTickSuccess engine.runtime),
          .staged (stagedPreviewFromProto entry), []⟩
  | staged (entry : Clipboard) (plan : ServerNewPlan) :
      env.getLatestEntry engine.server = .ok (some entry) →
      planAfterServerGet casing engine.runtime (req.snapshot (some entry)) =
        .serverNew plan →
      plan.willApply = false →
      engine.Routes casing env req
        ⟨engine.withRuntime
          (commitTickSuccess (commitStage engine.runtime entry)),
          .staged (stagedPreviewFromProto entry), []⟩
  | applied (entry : Clipboard) (plan : ServerNewPlan)
      (content : LocalContent) :
      env.getLatestEntry engine.server = .ok (some entry) →
      planAfterServerGet casing engine.runtime (req.snapshot (some entry)) =
        .serverNew plan →
      plan.willApply = true →
      env.fetchContent engine.server entry = .ok content →
      engine.Routes casing env req
        ⟨engine.persistAndSucceed env
          (commitApply casing engine.runtime entry.hash entry.contentId
            env.now engine.cfg).1,
          if (commitApply casing engine.runtime entry.hash entry.contentId
            env.now engine.cfg).2 then .loopDetected
          else .applied content (syncedMetaFromProto entry), []⟩
  | applyFailed (entry : Clipboard) (plan : ServerNewPlan)
      (error : SyncError) :
      env.getLatestEntry engine.server = .ok (some entry) →
      planAfterServerGet casing engine.runtime (req.snapshot (some entry)) =
        .serverNew plan →
      env.fetchContent engine.server entry = .error error →
      engine.Routes casing env req
        ⟨(engine.withRuntime
          (commitApplyFailed engine.runtime entry)).failTick env error,
          .failed error, []⟩
  | put (entry : Option Clipboard) (job : PushJob)
      (contentId : Option String) :
      env.getLatestEntry engine.server = .ok entry →
      planAfterServerGet casing engine.runtime (req.snapshot entry) =
        .push .doPush →
      req.pushJob = some job →
      env.putClipboard engine.server (.fromProto job.entry) job.payload =
        .ok contentId →
      engine.Routes casing env req
        ⟨engine.persistAndSucceed env
          (commitPush casing engine.runtime job.entry.hash contentId env.now
            engine.cfg).1,
          if (commitPush casing engine.runtime job.entry.hash contentId
            env.now engine.cfg).2 then .loopDetected
          else .uploaded (syncedMetaFromProto job.entry), [job]⟩
  | putFailed (entry : Option Clipboard) (job : PushJob)
      (error : SyncError) :
      env.getLatestEntry engine.server = .ok entry →
      planAfterServerGet casing engine.runtime (req.snapshot entry) =
        .push .doPush →
      req.pushJob = some job →
      engine.Routes casing env req
        ⟨engine.failTick env error, .failed error, [job]⟩
  | skipped (entry : Option Clipboard) (decision : PushDecision)
      (reason : UpToDateReason) :
      env.getLatestEntry engine.server = .ok entry →
      planAfterServerGet casing engine.runtime (req.snapshot entry) =
        .push decision →
      reason ≠ .converged →
      engine.Routes casing env req (engine.skipPush reason)

variable {engine : Engine} {env : Surroundings} {req : RouteRequest}

theorem Engine.handleServerNew_routes {entry : Clipboard} {plan : ServerNewPlan}
    (asked : env.getLatestEntry engine.server = .ok (some entry))
    (planned : planAfterServerGet casing engine.runtime
      (req.snapshot (some entry)) = .serverNew plan) :
    engine.Routes casing env req
      (engine.handleServerNew casing env plan entry) := by
  unfold Engine.handleServerNew
  by_cases already : plan.alreadyStaged = true
  · rw [if_pos already]
    exact .alreadyStaged entry plan asked planned already
  · rw [if_neg already]
    cases willApply : plan.willApply with
    | false => exact .staged entry plan asked planned willApply
    | true =>
        cases fetched : env.fetchContent engine.server entry with
        | ok content =>
            exact .applied entry plan content asked planned willApply fetched
        | error error =>
            exact .applyFailed entry plan error asked planned fetched

theorem Engine.doPush_routes {entry : Option Clipboard} {job : PushJob}
    (asked : env.getLatestEntry engine.server = .ok entry)
    (planned : planAfterServerGet casing engine.runtime
      (req.snapshot entry) = .push .doPush) (isJob : req.pushJob = some job) :
    engine.Routes casing env req (engine.doPush casing env job) := by
  unfold Engine.doPush
  cases answered : env.putClipboard engine.server (.fromProto job.entry)
      job.payload with
  | ok contentId => exact .put entry job contentId asked planned isJob answered
  | error error => exact .putFailed entry job error asked planned isJob

theorem Engine.followRoute_routes {entry : Option Clipboard}
    (asked : env.getLatestEntry engine.server = .ok entry) :
    engine.Routes casing env req
      (engine.followRoute casing env req entry) := by
  unfold Engine.followRoute
  cases planned : planAfterServerGet casing engine.runtime
      (req.snapshot entry) with
  | converged serverHash => exact .converged entry serverHash asked planned
  | serverNew plan =>
      obtain ⟨_, serverEntry, isEntry, _⟩ :=
        planAfterServerGet_eq_serverNew.mp planned
      cases isEntry
      exact Engine.handleServerNew_routes asked planned
  | push decision =>
      cases decision with
      | doPush =>
          cases isJob : req.pushJob with
          | none => exact .skipped entry _ _ asked planned nofun
          | some job => exact Engine.doPush_routes asked planned isJob
      | skipConsentMode | skipNoDevice | skipAlreadySynced
      | skipSelfWritten =>
          cases req.pushJob <;>
            exact .skipped entry _ _ asked planned nofun

variable (casing) in
theorem Engine.runRoute_routes (engine : Engine) (env : Surroundings)
    (req : RouteRequest) :
    (engine.whileRequesting env).Routes casing env req
      (engine.runRoute casing env req) := by
  simp only [Engine.runRoute]
  generalize engine.whileRequesting env = engine
  cases asked : env.getLatestEntry engine.server with
  | error error => exact .requestFailed error asked
  | ok entry => exact Engine.followRoute_routes asked

/-! ## Applying the staged entry -/

/-- The ways an `apply_staged` can end. -/
inductive Engine.AppliesStaged (casing : Uppercase) (engine : Engine)
    (env : Surroundings) : Tick → Prop
  | nothingStaged :
      engine.runtime.stagedEntry = none →
      engine.AppliesStaged casing env (engine.stopped
        (.failed (.invalidInput "apply_staged called with nothing staged")))
  | fetchFailed (entry : Clipboard) (error : SyncError) :
      engine.runtime.stagedEntry = some entry →
      env.fetchContent engine.server entry = .error error →
      engine.AppliesStaged casing env
        ⟨(engine.whileRequesting env).failTick env error, .failed error, []⟩
  | hashless (entry : Clipboard) (content : LocalContent) :
      engine.runtime.stagedEntry = some entry →
      env.fetchContent engine.server entry = .ok content →
      engine.runtime.stagedServerHash = none →
      engine.AppliesStaged casing env
        ((engine.whileRequesting env).stopped (.failed
          (.internal "mark_staged_applied no-op despite a staged entry")))
  | applied (entry : Clipboard) (content : LocalContent) (hash : String) :
      engine.runtime.stagedEntry = some entry →
      env.fetchContent engine.server entry = .ok content →
      engine.runtime.stagedServerHash = some hash →
      engine.AppliesStaged casing env
        ⟨(engine.whileRequesting env).persistAndSucceed env
            (markStagedApplied casing engine.runtime).1,
          .applied content (syncedMetaFromProto entry), []⟩

variable (casing) in
theorem Engine.applyStaged_applies (engine : Engine) (env : Surroundings) :
    engine.AppliesStaged casing env (engine.applyStaged casing env) := by
  cases isStaged : engine.runtime.stagedEntry with
  | none =>
      simp only [Engine.applyStaged, isStaged]
      exact .nothingStaged isStaged
  | some entry =>
      cases fetched : env.fetchContent engine.server entry with
      | error error =>
          simp only [Engine.applyStaged, isStaged,
            Engine.whileRequesting_server, fetched]
          exact .fetchFailed entry error isStaged fetched
      | ok content =>
          cases isHash : engine.runtime.stagedServerHash with
          | none =>
              have ended : engine.AppliesStaged casing env _ :=
                .hashless entry content isStaged fetched isHash
              simpa [Engine.applyStaged, isStaged, fetched,
                markStagedApplied, isHash] using ended
          | some hash =>
              have ended : engine.AppliesStaged casing env _ :=
                .applied entry content hash isStaged fetched isHash
              simpa [Engine.applyStaged, isStaged, fetched,
                markStagedApplied, isHash] using ended

end OpenClipboard.MobileEngine
