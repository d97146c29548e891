import OpenClipboard.MobileEngine.LockStep
import OpenClipboard.MobileEngine.SyncedContent

/-!
# The watermark in memory and in the store

A push or a pull folds the persisted pair first and saves the pair after a
commit, so that memory and store agree when it ends.  Another process can break
that only by writing the keys while the call runs.
-/

namespace OpenClipboard.MobileEngine

open Text

/-- The watermark in memory is the persisted one: the hash up to ASCII case, an
empty content id being none. -/
def Engine.InStep (engine : Engine) : Prop :=
  hashesEqual (loadText engine.store lastSyncedHashKey)
      engine.runtime.lastSyncedHash = true ∧
    nonemptyContentId (loadText engine.store lastSyncedContentIdKey) =
      nonemptyContentId engine.runtime.lastSyncedContentId

instance (engine : Engine) : Decidable engine.InStep :=
  inferInstanceAs (Decidable (_ ∧ _))

def StoreWrite.key : StoreWrite → String
  | .set key _ => key
  | .remove key => key

/-- No write touches the key. -/
def Untouched (writes : List StoreWrite) (key : String) : Prop :=
  ∀ write ∈ writes, write.key ≠ key

/-- No other process writes the watermark while the call runs. -/
structure Surroundings.Undisturbed (env : Surroundings) : Prop where
  hash : Untouched (env.betweenReads ++ env.duringRequests ++
    env.betweenWrites) lastSyncedHashKey
  contentId : Untouched (env.betweenReads ++ env.duringRequests ++
    env.betweenWrites) lastSyncedContentIdKey

/-- The persisted hash keeps its identity under `to_uppercase`. -/
def Engine.PersistedKeepsCase (casing : Uppercase) (engine : Engine) : Prop :=
  ∀ hash, loadText engine.store lastSyncedHashKey = some hash →
    KeepsCase casing hash

def SyncOutcome.Saved : SyncOutcome → Prop
  | .uploaded _ | .applied _ _ | .upToDate .converged => True
  | _ => False

/-! ## The store -/

theorem hashKey_ne_contentIdKey :
    lastSyncedHashKey ≠ lastSyncedContentIdKey := by
  decide

theorem loadText_writeAll (store : KeyValueStore) {writes : List StoreWrite}
    {key : String} (untouched : Untouched writes key) :
    loadText (writeAll store writes) key = loadText store key := by
  induction writes generalizing store with
  | nil => rfl
  | cons write rest inductionHypothesis =>
      have notHere : write.key ≠ key := untouched write List.mem_cons_self
      have later : Untouched rest key := fun other member =>
        untouched other (List.mem_cons_of_mem write member)
      refine (inductionHypothesis (write.apply store) later).trans ?_
      cases write with
      | set written value =>
          have different : key ≠ written := Ne.symm notHere
          simp only [loadText, StoreWrite.apply]
          rw [Table.find_put_of_ne different]
      | remove removed =>
          have different : key ≠ removed := Ne.symm notHere
          simp only [loadText, StoreWrite.apply]
          rw [Table.find_remove, if_neg different]

theorem loadText_saveText_self (store : KeyValueStore) (key : String)
    (text : Option String) :
    loadText (saveText store key text) key = text := by
  cases text with
  | none => simp [loadText, saveText]
  | some text => simp [loadText, saveText]

theorem loadText_saveText_of_ne (store : KeyValueStore) {key other : String}
    (different : other ≠ key) (text : Option String) :
    loadText (saveText store key text) other = loadText store other := by
  cases text with
  | none =>
      simp only [loadText, saveText]
      rw [Table.find_remove, if_neg different]
  | some text =>
      simp only [loadText, saveText]
      rw [Table.find_put_of_ne different]

theorem Untouched.append_left {first second : List StoreWrite} {key : String}
    (untouched : Untouched (first ++ second) key) : Untouched first key :=
  fun write member => untouched write (List.mem_append_left second member)

theorem Untouched.append_right {first second : List StoreWrite}
    {key : String} (untouched : Untouched (first ++ second) key) :
    Untouched second key :=
  fun write member => untouched write (List.mem_append_right first member)

section Calls

variable {casing : Uppercase} {ports : PublishPorts}

/-! ## Saving and folding -/

theorem Engine.inStep_persistAndSucceed (engine : Engine)
    {env : Surroundings} (runtime : SyncRuntimeState)
    (untouched : Untouched env.betweenWrites lastSyncedHashKey) :
    (engine.persistAndSucceed env runtime).InStep := by
  have hashSaved : loadText (engine.persistAndSucceed env runtime).store
      lastSyncedHashKey = runtime.lastSyncedHash := by
    refine (loadText_saveText_of_ne _ hashKey_ne_contentIdKey _).trans ?_
    refine (loadText_writeAll _ untouched).trans ?_
    exact loadText_saveText_self _ _ _
  have contentIdSaved : loadText (engine.persistAndSucceed env runtime).store
      lastSyncedContentIdKey = runtime.lastSyncedContentId :=
    loadText_saveText_self _ _ _
  refine ⟨?_, ?_⟩
  · rw [hashSaved]
    exact hashesEqual_refl runtime.lastSyncedHash
  · rw [contentIdSaved]
    rfl

variable (casing) in
theorem Engine.fold_agrees {engine : Engine} (env : Surroundings)
    (keepsCase : engine.PersistedKeepsCase casing) :
    let folded := (engine.foldPersistedWatermark casing env).runtime.watermark
    hashesEqual (engine.persistedIdentity env).hash folded.hash = true ∧
      nonemptyContentId (engine.persistedIdentity env).contentId =
        nonemptyContentId folded.contentId := by
  intro folded
  have isFolded : folded =
      ((engine.persistedIdentity env).foldChange
        engine.runtime.watermark).apply casing engine.runtime.watermark :=
    Engine.foldPersistedWatermark_watermark casing engine env
  unfold Identity.foldChange at isFolded
  split at isFolded
  · rw [isFolded]
    constructor
    · have keeps : ∀ hash, (engine.persistedIdentity env).hash = some hash →
          KeepsCase casing hash := keepsCase
      cases isHash : (engine.persistedIdentity env).hash with
      | none => simp [WatermarkChange.apply, Identity.kept, isHash, hashesEqual]
      | some hash =>
          simp only [WatermarkChange.apply, Identity.kept, isHash,
            Option.map_some]
          exact keeps hash isHash
    · exact (nonemptyContentId_idem _).symm
  · rename_i same
    rw [isFolded]
    simpa [WatermarkChange.apply, bne] using same

theorem Engine.inStep_of_kept {engine after : Engine} {env : Surroundings}
    (undisturbed : env.Undisturbed)
    (keepsCase : engine.PersistedKeepsCase casing)
    (sameWatermark : after.runtime.watermark =
      (engine.foldPersistedWatermark casing env).runtime.watermark)
    (sameStore : after.store =
        (engine.foldPersistedWatermark casing env).store ∨
      after.store = ((engine.foldPersistedWatermark casing
        env).whileRequesting env).store) :
    after.InStep := by
  obtain ⟨hashAgrees, contentIdAgrees⟩ :=
    Engine.fold_agrees casing env keepsCase
  have readHash : loadText after.store lastSyncedHashKey =
      (engine.persistedIdentity env).hash := by
    have first := undisturbed.hash.append_left
    rcases sameStore with same | same
    · rw [same]
      exact loadText_writeAll _ first.append_left
    · rw [same]
      refine (loadText_writeAll _ first.append_right).trans ?_
      exact loadText_writeAll _ first.append_left
  have readContentId : loadText after.store lastSyncedContentIdKey =
      (engine.persistedIdentity env).contentId := by
    have first := undisturbed.contentId.append_left
    rcases sameStore with same | same
    · rw [same]
      rfl
    · rw [same]
      exact loadText_writeAll _ first.append_right
  have isHash := congrArg Identity.hash sameWatermark
  have isContentId := congrArg Identity.contentId sameWatermark
  refine ⟨?_, ?_⟩
  · rw [readHash]
    exact (congrArg (hashesEqual _) isHash).trans hashAgrees
  · rw [readContentId]
    exact contentIdAgrees.trans (congrArg nonemptyContentId isContentId).symm

theorem Engine.Routes.saves_or_keeps {engine : Engine} {env : Surroundings}
    {req : RouteRequest} {tick : Tick}
    (routes : engine.Routes casing env req tick) :
    (∃ runtime, tick.engine = engine.persistAndSucceed env runtime) ∨
      (tick.engine.runtime.watermark = engine.runtime.watermark ∧
        tick.engine.store = engine.store ∧ ¬tick.outcome.Saved) := by
  cases routes with
  | requestFailed error asked =>
      exact .inr ⟨Engine.failTick_watermark engine env error, rfl, id⟩
  | converged entry serverHash asked planned => exact .inl ⟨_, rfl⟩
  | alreadyStaged entry plan asked planned already => exact .inr ⟨rfl, rfl, id⟩
  | staged entry plan asked planned willNot => exact .inr ⟨rfl, rfl, id⟩
  | applied entry plan content asked planned will fetched =>
      exact .inl ⟨_, rfl⟩
  | applyFailed entry plan error asked planned fetched =>
      exact .inr ⟨Engine.failTick_watermark _ env error, rfl, id⟩
  | put entry job contentId asked planned isJob answered =>
      exact .inl ⟨_, rfl⟩
  | putFailed entry job error asked planned isJob =>
      exact .inr ⟨Engine.failTick_watermark engine env error, rfl, id⟩
  | skipped entry decision reason asked planned notConverged =>
      refine .inr ⟨rfl, rfl, ?_⟩
      cases reason with
      | converged => exact (notConverged rfl).elim
      | _ => exact id

/-- What holds right after a push or a pull that has folded. -/
def Tick.Shared (casing : Uppercase) (engine : Engine) (env : Surroundings)
    (tick : Tick) : Prop :=
  (env.Undisturbed → engine.PersistedKeepsCase casing →
      tick.engine.InStep) ∧
    (tick.outcome.Saved → Untouched env.betweenWrites lastSyncedHashKey →
      tick.engine.InStep)

theorem Engine.shared_stopped (engine : Engine) (env : Surroundings)
    {outcome : SyncOutcome} (notSaved : ¬outcome.Saved) :
    ((engine.foldPersistedWatermark casing env).stopped outcome).Shared
      casing engine env := by
  constructor
  · intro undisturbed keepsCase
    exact Engine.inStep_of_kept undisturbed keepsCase rfl (.inl rfl)
  · intro saved
    exact (notSaved saved).elim

theorem Engine.shared_runRoute (engine : Engine) (env : Surroundings)
    (req : RouteRequest) :
    ((engine.foldPersistedWatermark casing env).runRoute casing env
      req).Shared casing engine env := by
  have routes := Engine.runRoute_routes casing
    (engine.foldPersistedWatermark casing env) env req
  rcases routes.saves_or_keeps with ⟨runtime, isSaved⟩ |
    ⟨sameWatermark, sameStore, notSaved⟩
  · constructor
    · intro undisturbed _
      rw [isSaved]
      exact Engine.inStep_persistAndSucceed _ runtime
        undisturbed.hash.append_right
    · intro _ untouched
      rw [isSaved]
      exact Engine.inStep_persistAndSucceed _ runtime untouched
  · constructor
    · intro undisturbed keepsCase
      exact Engine.inStep_of_kept undisturbed keepsCase sameWatermark
        (.inr sameStore)
    · intro saved
      exact (notSaved saved).elim

theorem Engine.shared_push (engine : Engine) (env : Surroundings)
    {content : LocalContent} {job : PushJob}
    (built : buildPushEntry ports content = .ok job) :
    (engine.push casing ports env content).Shared casing engine env := by
  simp only [Engine.push, built]
  cases paused : pausedOutcome
      (engine.foldPersistedWatermark casing env).runtime with
  | some outcome =>
      apply Engine.shared_stopped
      unfold pausedOutcome at paused
      split at paused <;> cases paused <;> exact id
  | none => exact Engine.shared_runRoute engine env _

theorem Engine.shared_pull (engine : Engine) (env : Surroundings)
    (trigger : PullTrigger) (deviceHash : Option String) :
    (engine.pull casing env trigger deviceHash).Shared casing engine env := by
  simp only [Engine.pull]
  cases paused : pausedOutcome
      (engine.foldPersistedWatermark casing env).runtime with
  | some outcome =>
      apply Engine.shared_stopped
      unfold pausedOutcome at paused
      split at paused <;> cases paused <;> exact id
  | none =>
      simp only []
      split
      · exact Engine.shared_stopped engine env id
      · split
        · exact Engine.shared_stopped engine env id
        · exact Engine.shared_runRoute engine env _

theorem Engine.setServer_clears (engine : Engine) {server : ServerConfig}
    {betweenRemoves : List StoreWrite}
    (different : sameServer engine.server server = false)
    (untouched : Untouched betweenRemoves lastSyncedHashKey) :
    let changed := engine.setServer server betweenRemoves
    changed.runtime.watermark = ⟨none, none⟩ ∧
      loadText changed.store lastSyncedHashKey = none ∧
      loadText changed.store lastSyncedContentIdKey = none := by
  simp only [Engine.setServer, different]
  refine ⟨rfl, ?_, ?_⟩
  · refine (loadText_saveText_of_ne _ hashKey_ne_contentIdKey none).trans ?_
    refine (loadText_writeAll _ untouched).trans ?_
    exact loadText_saveText_self engine.store lastSyncedHashKey none
  · exact loadText_saveText_self _ lastSyncedContentIdKey none

end Calls

/-- After every run of calls and writes of other processes: a pull, or a push
of content that can be built, ends with memory and store in step if no other
process writes the keys while it runs and the persisted hash keeps its identity
under `to_uppercase`; a call that saves ends in step whatever was written
before it saved; and a change of the server empties both. -/
theorem watermarkShared (casing : Uppercase) (ports : PublishPorts)
    (start : Engine) (calls : List EngineCall) :
    let engine := start.runCalls casing ports calls
    (∀ env content job, buildPushEntry ports content = .ok job →
        (engine.push casing ports env content).Shared casing engine env) ∧
      (∀ env trigger deviceHash,
        (engine.pull casing env trigger deviceHash).Shared casing engine
          env) ∧
      ∀ server betweenRemoves, sameServer engine.server server = false →
        Untouched betweenRemoves lastSyncedHashKey →
        let changed := engine.setServer server betweenRemoves
        changed.runtime.watermark = ⟨none, none⟩ ∧
          loadText changed.store lastSyncedHashKey = none ∧
          loadText changed.store lastSyncedContentIdKey = none := by
  intro engine
  refine ⟨?_, ?_, ?_⟩
  · intro env content job built
    exact engine.shared_push env built
  · intro env trigger deviceHash
    exact engine.shared_pull env trigger deviceHash
  · intro server betweenRemoves different untouched
    exact engine.setServer_clears different untouched

namespace PhoneSample

def saves (hash : String) : StoreWrite := .set lastSyncedHashKey (asBytes hash)

/-- No request reaches the server; meanwhile another process writes. -/
def offline (writes : List StoreWrite) : Surroundings :=
  { answering (textDocument "B" (some "BB") none) with
    getLatest := fun _ => .error (.network "unreachable")
    duringRequests := writes }

/-- Another process writes while a pull waits for the server; it wrote before a
push that cannot be built; or it wrote a hash that `to_uppercase` changes
beyond ASCII case. -/
theorem watermark_outOfStep :
    ¬(phone.pull casing (offline [saves "AA"]) .explicit none).engine.InStep ∧
      ¬((phone.runCalls casing ports [.otherProcess (saves "AA")]).push casing
        ports (offline []) ⟨.group, "", none, none⟩).engine.InStep ∧
      ¬((phone.runCalls casing ports [.otherProcess (saves "ß")]).pull casing
        (offline []) .explicit none).engine.InStep := by
  decide +kernel

end PhoneSample

end OpenClipboard.MobileEngine
