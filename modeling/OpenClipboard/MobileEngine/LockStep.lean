import OpenClipboard.MobileEngine.Ticks

/-!
# The watermark in lock-step

Both halves of the watermark always come from one committed or folded identity,
and the three parts of the staged slot from one staged entry.  A step is any
call of the reducer or of the engine, in any order.
-/

namespace OpenClipboard.MobileEngine

/-- A call of the reducer, the fold, or a call of the engine. -/
inductive MobileAction
  | runtime (action : RuntimeAction)
  | engine (call : EngineCall)

def MobileAction.perform (casing : Uppercase) (ports : PublishPorts)
    (engine : Engine) : MobileAction → Engine
  | .runtime action => engine.withRuntime (action.apply casing engine.runtime)
  | .engine call => call.perform casing ports engine

def Engine.runMobile (casing : Uppercase) (ports : PublishPorts)
    (engine : Engine) (actions : List MobileAction) : Engine :=
  actions.foldl (MobileAction.perform casing ports) engine

/-! ## The identities a step works on -/

/-- What a step may fold, what it may commit, and whether it empties the
watermark. -/
structure Sources where
  folded : List Identity
  committed : List Identity
  clears : Bool

/-- What the step does to the watermark: it keeps it, empties it, or takes over
one identity as a whole, a committed one only with its hash. -/
inductive Sources.Moves (casing : Uppercase) (sources : Sources)
    (before : Identity) : Identity → Prop
  | kept : sources.Moves casing before before
  | cleared : sources.clears = true → sources.Moves casing before ⟨none, none⟩
  | folded (identity : Identity) : identity ∈ sources.folded →
      sources.Moves casing before (identity.kept casing)
  | committed (identity : Identity) : identity ∈ sources.committed →
      (nonemptyHash identity.hash).isSome = true →
      sources.Moves casing before (identity.kept casing)

def RuntimeAction.sources (casing : Uppercase) (st : SyncRuntimeState)
    (action : RuntimeAction) : Sources where
  folded := (action.folds casing st).toList
  committed :=
    match action with
    | .reducer call => (call.commits st).toList
    | .fold _ _ => []
  clears :=
    match action with
    | .reducer .handleActiveServerChanged => true
    | _ => false

/-- The identity of a server entry; when the device holds it as well, its hash
is passed on in uppercase. -/
def Clipboard.identities (casing : Uppercase) (entry : Clipboard) :
    List Identity :=
  [⟨entry.hash, entry.contentId⟩,
    ⟨entry.hash.map casing.toUppercase, entry.contentId⟩]

def Engine.persistedIdentity (engine : Engine) (env : Surroundings) :
    Identity where
  hash := loadText engine.store lastSyncedHashKey
  contentId := loadText (writeAll engine.store env.betweenReads)
    lastSyncedContentIdKey

def Surroundings.answeredIdentities (casing : Uppercase)
    (env : Surroundings) (server : ServerConfig) : List Identity :=
  match env.getLatestEntry server with
  | .ok (some entry) => entry.identities casing
  | _ => []

/-- The identity of what a push puts: its own hash with the content id that the
server returns for it. -/
def Surroundings.putIdentities (env : Surroundings) (server : ServerConfig)
    (job : PushJob) : List Identity :=
  match env.putClipboard server (.fromProto job.entry) job.payload with
  | .ok contentId => [⟨job.entry.hash, contentId⟩]
  | .error _ => []

def EngineCall.sources (casing : Uppercase) (ports : PublishPorts)
    (engine : Engine) : EngineCall → Sources
  | .push env content =>
      match buildPushEntry ports content with
      | .error _ => ⟨[], [], false⟩
      | .ok job =>
          ⟨[engine.persistedIdentity env],
            env.answeredIdentities casing engine.server ++
              env.putIdentities engine.server job, false⟩
  | .pull env _ _ =>
      ⟨[engine.persistedIdentity env],
        env.answeredIdentities casing engine.server, false⟩
  | .applyStaged _ =>
      ⟨[], (engine.runtime.stagedEntry.map (Clipboard.identities casing)).getD
        [], false⟩
  | .setServer server _ => ⟨[], [], !sameServer engine.server server⟩
  | _ => ⟨[], [], false⟩

/-- The identities a step works on. -/
def MobileAction.sources (casing : Uppercase) (ports : PublishPorts)
    (engine : Engine) : MobileAction → Sources
  | .runtime action => action.sources casing engine.runtime
  | .engine call => call.sources casing ports engine

variable {env : Surroundings} {engine : Engine} {req : RouteRequest}

section Steps

variable {casing : Uppercase} {ports : PublishPorts}

theorem Identity.moves_commitChange {identity other : Identity}
    (moves : identity.commitChange = .moveTo other) :
    identity = other ∧ (nonemptyHash identity.hash).isSome = true := by
  unfold Identity.commitChange at moves
  split at moves
  · rename_i hashed
    cases moves
    exact ⟨rfl, hashed⟩
  · cases moves

theorem Identity.eq_of_foldChange {persisted before other : Identity}
    (moves : persisted.foldChange before = .moveTo other) :
    persisted = other := by
  unfold Identity.foldChange at moves
  split at moves <;> cases moves
  rfl

theorem Identity.commitChange_ne_clear (identity : Identity) :
    identity.commitChange ≠ .clear := by
  unfold Identity.commitChange
  split <;> simp

theorem Identity.foldChange_ne_clear (persisted before : Identity) :
    persisted.foldChange before ≠ .clear := by
  unfold Identity.foldChange
  split <;> simp

theorem Sources.moves_commitChange {sources : Sources} {identity : Identity}
    (listed : identity ∈ sources.committed) (before : Identity) :
    sources.Moves casing before
      (identity.commitChange.apply casing before) := by
  cases change : identity.commitChange with
  | keep => exact .kept
  | clear => exact (identity.commitChange_ne_clear change).elim
  | moveTo other =>
      obtain ⟨same, hashed⟩ := Identity.moves_commitChange change
      rw [same] at listed hashed
      exact .committed other listed hashed

theorem Sources.moves_foldChange {sources : Sources} {persisted : Identity}
    (listed : persisted ∈ sources.folded) (before : Identity) :
    sources.Moves casing before
      ((persisted.foldChange before).apply casing before) := by
  cases change : persisted.foldChange before with
  | keep => exact .kept
  | clear => exact (persisted.foldChange_ne_clear before change).elim
  | moveTo other =>
      rw [Identity.eq_of_foldChange change] at listed
      exact .folded other listed

theorem RuntimeAction.moves (st : SyncRuntimeState) (action : RuntimeAction) :
    (action.sources casing st).Moves casing st.watermark
      (action.apply casing st).watermark := by
  rw [RuntimeAction.apply_watermark]
  cases action with
  | fold hash contentId =>
      exact Sources.moves_foldChange List.mem_cons_self st.watermark
  | reducer call =>
      cases commits : call.commits st with
      | some committed =>
          rw [RuntimeAction.change_of_commits commits]
          apply Sources.moves_commitChange
          simp [RuntimeAction.sources, commits]
      | none =>
          cases call with
          | planPreamble snap =>
              unfold RuntimeAction.change
              cases folds : RuntimeAction.folds casing st
                  (.reducer (.planPreamble snap)) with
              | none => exact .kept
              | some persisted =>
                  apply Sources.moves_foldChange
                  simp [RuntimeAction.sources, folds]
          | handleActiveServerChanged => exact .cleared rfl
          | _ => first | exact .kept | cases commits

/-! ## Calls of the engine -/

theorem Sources.Moves.mono {first second : Sources} {before after : Identity}
    (moves : first.Moves casing before after)
    (folded : ∀ identity ∈ first.folded, identity ∈ second.folded)
    (committed : ∀ identity ∈ first.committed, identity ∈ second.committed)
    (clears : first.clears = true → second.clears = true) :
    second.Moves casing before after := by
  cases moves with
  | kept => exact .kept
  | cleared emptied => exact .cleared (clears emptied)
  | folded identity listed => exact .folded identity (folded _ listed)
  | committed identity listed hashed =>
      exact .committed identity (committed _ listed) hashed

theorem Sources.Moves.trans {sources : Sources}
    {before middle after : Identity}
    (first : sources.Moves casing before middle)
    (second : sources.Moves casing middle after) :
    sources.Moves casing before after := by
  cases second with
  | kept => exact first
  | cleared emptied => exact .cleared emptied
  | folded identity listed => exact .folded identity listed
  | committed identity listed hashed =>
      exact .committed identity listed hashed

theorem convergedHash_eq_some {snap : ServerGetSnapshot} {hash : String}
    (converged : convergedHash snap = some hash) :
    ∃ entry, snap.serverEntry = some entry ∧ entry.hash = some hash := by
  unfold convergedHash at converged
  cases isEntry : snap.serverEntry with
  | none =>
      rw [isEntry] at converged
      cases converged
  | some entry =>
      rw [isEntry] at converged
      refine ⟨entry, rfl, ?_⟩
      cases isHash : nonemptyHash entry.hash with
      | none => simp [isHash] at converged
      | some serverHash =>
          have same : serverHash = hash := by
            revert converged
            simp only [Option.bind_some, isHash]
            split
            · rename_i isServer _
              cases isServer
              split <;> simp
            · simp
          rw [← same]
          exact (Option.filter_eq_some_iff.mp isHash).1

theorem answeredIdentities_eq {server : ServerConfig} {entry : Clipboard}
    (asked : env.getLatestEntry server = .ok (some entry)) :
    env.answeredIdentities casing server = entry.identities casing := by
  simp only [Surroundings.answeredIdentities, asked]

theorem Engine.Routes.moves {tick : Tick}
    (routes : engine.Routes casing env req tick) :
    (Sources.mk [] (env.answeredIdentities casing engine.server ++
        (req.pushJob.map (env.putIdentities engine.server)).getD [])
      false).Moves casing engine.runtime.watermark
        tick.engine.runtime.watermark := by
  cases routes with
  | requestFailed error asked =>
      rw [Engine.failTick_watermark]
      exact .kept
  | converged entry serverHash asked planned =>
      obtain ⟨hash, isConverged, isUpper⟩ :=
        planAfterServerGet_eq_converged.mp planned
      obtain ⟨serverEntry, isEntry, isHash⟩ := convergedHash_eq_some isConverged
      have isEntry : entry = some serverEntry := isEntry
      subst isEntry isUpper
      rw [Engine.persistAndSucceed_watermark, commitConverged_watermark]
      apply Sources.moves_commitChange
      rw [answeredIdentities_eq asked]
      apply List.mem_append_left
      simp [Clipboard.identities, isHash]
  | alreadyStaged entry plan asked planned already => exact .kept
  | staged entry plan asked planned willNot => exact .kept
  | applied entry plan content asked planned will fetched =>
      rw [Engine.persistAndSucceed_watermark, commitApply_watermark]
      apply Sources.moves_commitChange
      rw [answeredIdentities_eq asked]
      exact List.mem_append_left _ List.mem_cons_self
  | applyFailed entry plan error asked planned fetched =>
      rw [Engine.failTick_watermark]
      exact .kept
  | put entry job contentId asked planned isJob answered =>
      rw [Engine.persistAndSucceed_watermark, commitPush_watermark]
      apply Sources.moves_commitChange
      apply List.mem_append_right
      simp [isJob, Surroundings.putIdentities, answered]
  | putFailed entry job error asked planned isJob =>
      rw [Engine.failTick_watermark]
      exact .kept
  | skipped entry decision reason asked planned flows => exact .kept

variable (casing) in
theorem Engine.foldPersistedWatermark_watermark (engine : Engine)
    (env : Surroundings) :
    (engine.foldPersistedWatermark casing env).runtime.watermark =
      ((engine.persistedIdentity env).foldChange
        engine.runtime.watermark).apply casing engine.runtime.watermark :=
  foldWatermark_watermark engine.runtime _ _

theorem Engine.moves_foldThenRoute {sources : Sources}
    (persisted : engine.persistedIdentity env ∈ sources.folded)
    (committed : ∀ identity ∈
      env.answeredIdentities casing engine.server ++
        (req.pushJob.map (env.putIdentities engine.server)).getD [],
      identity ∈ sources.committed) :
    sources.Moves casing engine.runtime.watermark
      ((engine.foldPersistedWatermark casing env).runRoute casing env
        req).engine.runtime.watermark := by
  have first : sources.Moves casing engine.runtime.watermark
      (engine.foldPersistedWatermark casing env).runtime.watermark := by
    rw [Engine.foldPersistedWatermark_watermark]
    exact Sources.moves_foldChange persisted _
  have routes := Engine.runRoute_routes casing
    (engine.foldPersistedWatermark casing env) env req
  exact first.trans (routes.moves.mono nofun committed nofun)

theorem EngineCall.moves (together : StagedTogether engine.runtime.stagedSlot)
    (call : EngineCall) :
    (call.sources casing ports engine).Moves casing engine.runtime.watermark
      (call.perform casing ports engine).runtime.watermark := by
  cases call with
  | push env content =>
      simp only [EngineCall.sources, EngineCall.perform, Engine.push]
      cases buildPushEntry ports content with
      | error error => exact .kept
      | ok job =>
          cases pausedOutcome
              (engine.foldPersistedWatermark casing env).runtime with
          | some outcome =>
              simp only [Engine.stopped]
              rw [Engine.foldPersistedWatermark_watermark]
              exact Sources.moves_foldChange List.mem_cons_self _
          | none =>
              apply Engine.moves_foldThenRoute List.mem_cons_self
              exact fun identity listed => listed
  | pull env trigger deviceHash =>
      have folded : (EngineCall.sources casing ports engine
            (.pull env trigger deviceHash)).Moves casing
          engine.runtime.watermark
          (engine.foldPersistedWatermark casing env).runtime.watermark := by
        rw [Engine.foldPersistedWatermark_watermark]
        exact Sources.moves_foldChange List.mem_cons_self _
      simp only [EngineCall.perform, Engine.pull]
      cases pausedOutcome
          (engine.foldPersistedWatermark casing env).runtime with
      | some outcome => exact folded
      | none =>
          simp only []
          split
          · exact folded
          · split
            · exact folded
            · apply Engine.moves_foldThenRoute List.mem_cons_self
              simp [EngineCall.sources]
  | applyStaged env =>
      have applies := Engine.applyStaged_applies casing engine env
      simp only [EngineCall.perform]
      generalize engine.applyStaged casing env = tick at applies ⊢
      cases applies with
      | nothingStaged isStaged => exact .kept
      | fetchFailed entry error isStaged fetched =>
          rw [Engine.failTick_watermark]
          exact .kept
      | hashless entry content isStaged fetched isHash => exact .kept
      | applied entry content hash isStaged fetched isHash =>
          obtain ⟨sameHash, sameContentId⟩ := together.parts isStaged
          rw [Engine.persistAndSucceed_watermark, markStagedApplied_watermark,
            sameHash, sameContentId,
            Identity.commitChange_nonempty ⟨entry.hash, entry.contentId⟩]
          apply Sources.moves_commitChange
          simp [EngineCall.sources, isStaged, Clipboard.identities]
  | setServer server betweenRemoves =>
      simp only [EngineCall.perform, Engine.setServer]
      cases same : sameServer engine.server server with
      | true => exact .kept
      | false => exact .cleared (by simp [EngineCall.sources, same])
  | handleNetworkRouteChanged | setSettings _ | acknowledgeLoopDetected
  | otherProcess _ => exact .kept

/-! ## The staged slot -/

theorem Engine.Routes.stagedTogether {tick : Tick}
    (routes : engine.Routes casing env req tick)
    (together : StagedTogether engine.runtime.stagedSlot) :
    StagedTogether tick.engine.runtime.stagedSlot := by
  cases routes with
  | requestFailed error asked =>
      rw [Engine.failTick_stagedSlot]
      exact together
  | converged entry serverHash asked planned => exact .empty
  | alreadyStaged entry plan asked planned already => exact together
  | staged entry plan asked planned willNot => exact .staged entry
  | applied entry plan content asked planned will fetched =>
      rw [Engine.persistAndSucceed_stagedSlot, commitApply_stagedSlot]
      exact .empty
  | applyFailed entry plan error asked planned fetched =>
      rw [Engine.failTick_stagedSlot]
      exact .staged entry
  | put entry job contentId asked planned isJob answered =>
      rw [Engine.persistAndSucceed_stagedSlot, commitPush_stagedSlot]
      exact together
  | putFailed entry job error asked planned isJob =>
      rw [Engine.failTick_stagedSlot]
      exact together
  | skipped entry decision reason asked planned flows => exact together

theorem Engine.AppliesStaged.stagedTogether {tick : Tick}
    (applies : engine.AppliesStaged casing env tick)
    (together : StagedTogether engine.runtime.stagedSlot) :
    StagedTogether tick.engine.runtime.stagedSlot := by
  cases applies with
  | nothingStaged isStaged => exact together
  | fetchFailed entry error isStaged fetched =>
      rw [Engine.failTick_stagedSlot]
      exact together
  | hashless entry content isStaged fetched isHash => exact together
  | applied entry content hash isStaged fetched isHash =>
      rw [Engine.persistAndSucceed_stagedSlot]
      exact together.apply casing (.reducer .markStagedApplied)

theorem EngineCall.stagedTogether
    (together : StagedTogether engine.runtime.stagedSlot) (call : EngineCall) :
    StagedTogether (call.perform casing ports engine).runtime.stagedSlot := by
  have folded (env : Surroundings) : StagedTogether
      (engine.foldPersistedWatermark casing env).runtime.stagedSlot :=
    (foldWatermark_stagedSlot casing engine.runtime _ _).symm ▸ together
  have routed (env : Surroundings) (req : RouteRequest) : StagedTogether
      ((engine.foldPersistedWatermark casing env).runRoute casing env
        req).engine.runtime.stagedSlot :=
    (Engine.runRoute_routes casing _ env req).stagedTogether (folded env)
  cases call with
  | push env content =>
      simp only [EngineCall.perform, Engine.push]
      cases buildPushEntry ports content with
      | error error => exact together
      | ok job =>
          simp only []
          split
          · exact folded env
          · exact routed env _
  | pull env trigger deviceHash =>
      simp only [EngineCall.perform, Engine.pull]
      split
      · exact folded env
      · split
        · exact folded env
        · split
          · exact folded env
          · exact routed env _
  | applyStaged env =>
      exact (Engine.applyStaged_applies casing engine env).stagedTogether
        together
  | setServer server betweenRemoves =>
      simp only [EngineCall.perform, Engine.setServer]
      cases sameServer engine.server server with
      | true => exact together
      | false => exact .empty
  | handleNetworkRouteChanged | setSettings _ | acknowledgeLoopDetected
  | otherProcess _ => exact together

/-! ## Runs -/

variable (casing ports) in
theorem MobileAction.moves (together : StagedTogether engine.runtime.stagedSlot)
    (action : MobileAction) :
    (action.sources casing ports engine).Moves casing
      engine.runtime.watermark
      (action.perform casing ports engine).runtime.watermark := by
  cases action with
  | runtime action => exact action.moves engine.runtime
  | engine call => exact call.moves together

theorem MobileAction.stagedTogether
    (together : StagedTogether engine.runtime.stagedSlot)
    (action : MobileAction) :
    StagedTogether (action.perform casing ports engine).runtime.stagedSlot := by
  cases action with
  | runtime action => exact together.apply casing action
  | engine call => exact call.stagedTogether together

variable (casing ports) in
theorem Engine.runMobile_stagedTogether
    (together : StagedTogether engine.runtime.stagedSlot)
    (actions : List MobileAction) :
    StagedTogether
      (engine.runMobile casing ports actions).runtime.stagedSlot := by
  induction actions generalizing engine with
  | nil => exact together
  | cons action rest inductionHypothesis =>
      exact inductionHypothesis (action.stagedTogether together)

theorem Engine.runMobile_snoc (engine : Engine)
    (actions : List MobileAction) (last : MobileAction) :
    engine.runMobile casing ports (actions ++ [last]) =
      last.perform casing ports (engine.runMobile casing ports actions) := by
  simp [Engine.runMobile, List.foldl_append]

/-- The watermark is empty, or a step of the run folded or committed it as a
whole; a committed identity has a hash. -/
def StemsFromOneIdentity (casing : Uppercase) (ports : PublishPorts)
    (start : Engine) (actions : List MobileAction) (watermark : Identity) :
    Prop :=
  watermark = ⟨none, none⟩ ∨
    ∃ before action after identity, actions = before ++ action :: after ∧
      watermark = identity.kept casing ∧
        let sources := action.sources casing ports
          (start.runMobile casing ports before)
        identity ∈ sources.folded ∨
          identity ∈ sources.committed ∧
            (nonemptyHash identity.hash).isSome = true

theorem StemsFromOneIdentity.snoc {start : Engine}
    {actions : List MobileAction} {watermark : Identity}
    (stems : StemsFromOneIdentity casing ports start actions watermark)
    (last : MobileAction) :
    StemsFromOneIdentity casing ports start (actions ++ [last])
      watermark := by
  rcases stems with isEmpty | ⟨before, action, after, identity, isRun, rest⟩
  · exact .inl isEmpty
  · refine .inr ⟨before, action, after ++ [last], identity, ?_, rest⟩
    rw [isRun, List.append_assoc, List.cons_append]

theorem Engine.runMobile_stems {start : Engine}
    (fresh : start.runtime.watermark = ⟨none, none⟩)
    (together : StagedTogether start.runtime.stagedSlot)
    (actions : List MobileAction) :
    StemsFromOneIdentity casing ports start actions
      (start.runMobile casing ports actions).runtime.watermark := by
  induction actions using List.reverseRecOn with
  | nil => exact .inl fresh
  | append_singleton actions last inductionHypothesis =>
      have here := Engine.runMobile_stagedTogether casing ports together
        actions
      have moves := MobileAction.moves casing ports here last
      rw [Engine.runMobile_snoc]
      generalize isAfter :
        (last.perform casing ports
          (start.runMobile casing ports actions)).runtime.watermark = after
        at moves
      cases moves with
      | kept => exact inductionHypothesis.snoc last
      | cleared emptied => exact .inl rfl
      | folded identity listed =>
          exact .inr ⟨actions, last, [], identity, rfl, rfl, .inl listed⟩
      | committed identity listed hashed =>
          exact .inr
            ⟨actions, last, [], identity, rfl, rfl, .inr ⟨listed, hashed⟩⟩

end Steps

end OpenClipboard.MobileEngine
