import OpenClipboard.Library.Transition
import OpenClipboard.MobileEngine.LockStep
import OpenClipboard.MobileEngine.SyncedContent

/-!
# No stale clobber

A push should put the device's content only where it is news to both sides and
the server holds nothing unsynced.  The one way past the check is a server
document without a hash, met before anything was synced: an absent hash equals
the absent watermark.
-/

namespace OpenClipboard.MobileEngine

open Transition

/-- The watermark names the entry: by content id where both have one, else by
its hash. -/
def Identity.Names (watermark : Identity) (entry : Clipboard) : Prop :=
  match nonemptyContentId entry.contentId,
      nonemptyContentId watermark.contentId with
  | some a, some b => a = b
  | _, _ => entry.hash.isSome = true ∧
      hashesEqual entry.hash watermark.hash = true

/-- What a put may rely on: the device's hash is neither the synced nor the
applied one, and the server answered with nothing, with a synced entry or with
the device's own content. -/
def Surroundings.MayPut (env : Surroundings) (folded : Engine)
    (job : PushJob) : Prop :=
  hashesEqual job.entry.hash folded.runtime.lastSyncedHash = false ∧
    hashesEqual job.entry.hash folded.runtime.lastAppliedHash = false ∧
    ∃ latest, env.getLatestEntry folded.server = .ok latest ∧
      ∀ entry, latest = some entry →
        folded.runtime.watermark.Names entry ∨
          hashesEqual entry.hash job.entry.hash = true

def EngineCall.PutsSafely (casing : Uppercase) (ports : PublishPorts)
    (engine : Engine) : EngineCall → Prop
  | .push env content =>
      ∀ job ∈ (engine.push casing ports env content).puts,
        env.MayPut (engine.foldPersistedWatermark casing env) job
  | _ => True

/-- A push of content that is not the engine's own, while the server holds a
document without a hash that no content id settles, and nothing has been
synced. -/
def EngineCall.MeetsHashless (ports : PublishPorts) (engine : Engine) :
    EngineCall → Prop
  | .push env content =>
      ∃ job entry, buildPushEntry ports content = .ok job ∧
        pausedOutcome engine.runtime = none ∧
        env.getLatestEntry engine.server = .ok (some entry) ∧
        entry.hash = none ∧ (engine.persistedIdentity env).hash = none ∧
        (nonemptyContentId entry.contentId = none ∨
          nonemptyContentId (engine.persistedIdentity env).contentId =
            none) ∧
        hashesEqual job.entry.hash engine.runtime.lastAppliedHash = false
  | _ => False

variable {content : LocalContent} {job : PushJob} {engine : Engine}
  {env : Surroundings} {req : RouteRequest}

section Puts

variable {casing : Uppercase} {ports : PublishPorts}

/-! ## What the fold leaves -/

theorem hashesEqual_none_right {hash : Option String} :
    hashesEqual hash none = true ↔ hash = none := by
  cases hash <;> simp [hashesEqual]

theorem hashesEqual_none_left {hash : Option String} :
    hashesEqual none hash = true ↔ hash = none := by
  cases hash <;> simp [hashesEqual]

theorem Engine.folded_watermark_cases (casing : Uppercase) (engine : Engine)
    (env : Surroundings) :
    let folded := (engine.foldPersistedWatermark casing env).runtime.watermark
    folded = (engine.persistedIdentity env).kept casing ∨
      hashesEqual (engine.persistedIdentity env).hash folded.hash = true ∧
        nonemptyContentId (engine.persistedIdentity env).contentId =
          nonemptyContentId folded.contentId := by
  intro folded
  have isFolded : folded =
      ((engine.persistedIdentity env).foldChange
        engine.runtime.watermark).apply casing engine.runtime.watermark :=
    Engine.foldPersistedWatermark_watermark casing engine env
  unfold Identity.foldChange at isFolded
  split at isFolded
  · exact .inl isFolded
  · rename_i same
    refine .inr ?_
    rw [isFolded]
    simpa [WatermarkChange.apply, bne] using same

variable (casing) in
theorem Engine.folded_hash_eq_none_iff (engine : Engine)
    (env : Surroundings) :
    (engine.foldPersistedWatermark casing env).runtime.lastSyncedHash =
        none ↔
      (engine.persistedIdentity env).hash = none := by
  rcases Engine.folded_watermark_cases casing engine env with
    taken | ⟨sameHash, _⟩
  · have isHash := congrArg Identity.hash taken
    simp only [RuntimeState.watermark, Identity.kept] at isHash
    rw [isHash, Option.map_eq_none_iff]
  · simp only [RuntimeState.watermark] at sameHash
    constructor
    · intro isNone
      rw [isNone] at sameHash
      exact hashesEqual_none_right.mp sameHash
    · intro isNone
      rw [isNone] at sameHash
      exact hashesEqual_none_left.mp sameHash

theorem Engine.folded_contentId (engine : Engine) (env : Surroundings) :
    nonemptyContentId
        (engine.foldPersistedWatermark casing
          env).runtime.lastSyncedContentId =
      nonemptyContentId (engine.persistedIdentity env).contentId := by
  rcases Engine.folded_watermark_cases casing engine env with
    taken | ⟨_, sameContentId⟩
  · have isContentId := congrArg Identity.contentId taken
    simp only [RuntimeState.watermark, Identity.kept] at isContentId
    rw [isContentId, nonemptyContentId_idem]
  · exact sameContentId.symm

@[simp]
theorem foldWatermark_lastAppliedHash {Entry : Type} (st : RuntimeState Entry)
    (hash contentId : Option String) :
    (foldWatermark casing st hash contentId).lastAppliedHash =
      st.lastAppliedHash := by
  simp only [foldWatermark]
  split <;> rfl

theorem Engine.folded_pausedOutcome (engine : Engine) (env : Surroundings) :
    pausedOutcome (engine.foldPersistedWatermark casing env).runtime =
      pausedOutcome engine.runtime := by
  have sameState : (engine.foldPersistedWatermark casing env).runtime.state =
      engine.runtime.state := by
    simp only [Engine.foldPersistedWatermark, foldWatermark]
    split <;> rfl
  simp only [pausedOutcome, sameState]

/-! ## When a push puts -/

theorem publishText_hash (ports : PublishPorts) (text : String) :
    (publishText ports text).1.hash =
      some (ports.sha256HexUpper (Text.asBytes text)) := by
  unfold publishText
  simp only []
  split <;> rfl

theorem buildPushEntry_hash (built : buildPushEntry ports content = .ok job) :
    ∃ hash, job.entry.hash = some hash := by
  unfold buildPushEntry at built
  split at built
  · cases built
    exact ⟨_, publishText_hash ports content.text⟩
  · split at built
    · cases built
    · cases built
      exact ⟨_, rfl⟩
  · split at built
    · cases built
    · split at built
      · cases built
      · cases built
        exact ⟨_, rfl⟩
  · cases built

theorem Engine.Routes.puts {tick : Tick}
    (routes : engine.Routes casing env req tick) (puts : job ∈ tick.puts) :
    req.pushJob = some job ∧ ∃ latest,
      env.getLatestEntry engine.server = .ok latest ∧
        planAfterServerGet casing engine.runtime (req.snapshot latest) =
          .push .doPush := by
  cases routes with
  | put entry planned contentId asked isPlanned isJob answered =>
      rw [List.mem_singleton.mp puts]
      exact ⟨isJob, entry, asked, isPlanned⟩
  | putFailed entry planned error asked isPlanned isJob =>
      rw [List.mem_singleton.mp puts]
      exact ⟨isJob, entry, asked, isPlanned⟩
  | requestFailed | converged | alreadyStaged | staged | applied
  | applyFailed | skipped => cases puts

theorem Engine.doPush_puts (engine : Engine) (env : Surroundings)
    (job : PushJob) : (engine.doPush casing env job).puts = [job] := by
  unfold Engine.doPush
  split <;> rfl

def Engine.pushRequest (engine : Engine) (job : PushJob) : RouteRequest where
  autoApply := engine.settings.autoApply
  autoPush := true
  deviceHash := job.entry.hash
  devicePresent := true
  pushJob := some job

theorem Engine.push_of_built (built : buildPushEntry ports content = .ok job)
    (unpaused : pausedOutcome engine.runtime = none) :
    engine.push casing ports env content =
      (engine.foldPersistedWatermark casing env).runRoute casing env
        (engine.pushRequest job) := by
  simp only [Engine.push, built, Engine.folded_pausedOutcome, unpaused]
  rfl

theorem Engine.runRoute_puts {latest : Option Clipboard}
    (isJob : req.pushJob = some job)
    (asked : env.getLatestEntry engine.server = .ok latest)
    (planned : planAfterServerGet casing engine.runtime
      (req.snapshot latest) = .push .doPush) :
    (engine.runRoute casing env req).puts = [job] := by
  simp only [Engine.runRoute, Engine.whileRequesting_server, asked,
    Engine.followRoute, Engine.whileRequesting_runtime, planned, isJob]
  exact Engine.doPush_puts _ env job

/-! ## The law -/

/-- The reducer's check is the law's, except where the answer has no hash and
nothing is synced. -/
theorem isAlreadySynced_iff {st : SyncRuntimeState} {entry : Clipboard} :
    isAlreadySynced entry st = true ↔
      st.watermark.Names entry ∨
        (nonemptyContentId entry.contentId = none ∨
            nonemptyContentId st.lastSyncedContentId = none) ∧
          entry.hash = none ∧ st.lastSyncedHash = none := by
  simp only [isAlreadySynced, Identity.Names, RuntimeState.watermark]
  cases nonemptyContentId entry.contentId with
  | none =>
      cases entry.hash with
      | none => simp [hashesEqual_none_left]
      | some hash => simp
  | some a =>
      cases nonemptyContentId st.lastSyncedContentId with
      | none =>
          cases entry.hash with
          | none => simp [hashesEqual_none_left]
          | some hash => simp
      | some b => simp

theorem convergedHash_hashless {entry : Clipboard}
    (hashless : entry.hash = none) :
    convergedHash (req.snapshot (some entry)) = none := by
  simp [convergedHash, RouteRequest.snapshot, hashless, nonemptyHash]

/-- A put is safe unless the push met an unsettled document without a hash. -/
theorem mayPut_of_put
    (settled : ¬(EngineCall.push env content).MeetsHashless ports engine)
    (puts : job ∈ (engine.push casing ports env content).puts) :
    env.MayPut (engine.foldPersistedWatermark casing env) job := by
  cases built : buildPushEntry ports content with
  | error error =>
      simp only [Engine.push, built, Engine.stopped] at puts
      cases puts
  | ok pushed =>
      cases unpaused : pausedOutcome engine.runtime with
      | some outcome =>
          simp only [Engine.push, built, Engine.folded_pausedOutcome,
            unpaused, Engine.stopped] at puts
          cases puts
      | none =>
          rw [Engine.push_of_built built unpaused] at puts
          have routes := Engine.runRoute_routes casing
            (engine.foldPersistedWatermark casing env) env
            (engine.pushRequest pushed)
          obtain ⟨isJob, latest, asked, planned⟩ := routes.puts puts
          cases isJob
          obtain ⟨_, synced, pushes⟩ := planAfterServerGet_eq_push.mp planned
          obtain ⟨_, _, notSynced, notApplied⟩ := planPush_eq_doPush.mp pushes
          refine ⟨notSynced, notApplied, latest, asked, ?_⟩
          intro entry isEntry
          rcases isAlreadySynced_iff.mp (synced entry isEntry) with
            names | ⟨unsettled, hashless, fresh⟩
          · exact .inl names
          · refine (settled ⟨job, entry, built, unpaused, ?_⟩).elim
            have fresh := (Engine.folded_hash_eq_none_iff casing engine env).mp fresh
            rw [Engine.whileRequesting_runtime, Engine.folded_contentId]
              at unsettled
            have applied : (engine.foldPersistedWatermark casing
                env).runtime.lastAppliedHash =
                engine.runtime.lastAppliedHash :=
              foldWatermark_lastAppliedHash engine.runtime _ _
            rw [isEntry] at asked
            refine ⟨asked, hashless, fresh, unsettled, ?_⟩
            rw [← applied]
            exact notApplied

variable (casing) in
theorem not_mayPut_of_meets
    (meets : (EngineCall.push env content).MeetsHashless ports engine) :
    ∃ job ∈ (engine.push casing ports env content).puts,
      ¬env.MayPut (engine.foldPersistedWatermark casing env) job := by
  obtain ⟨job, entry, built, unpaused, asked, hashless, fresh, unsettled,
    notApplied⟩ := meets
  obtain ⟨hash, isHash⟩ := buildPushEntry_hash built
  have memoryFresh :=
    (Engine.folded_hash_eq_none_iff casing engine env).mpr fresh
  have notSynced : hashesEqual job.entry.hash
      (engine.foldPersistedWatermark casing env).runtime.lastSyncedHash =
        false := by
    rw [memoryFresh, isHash]
    rfl
  have applied : (engine.foldPersistedWatermark casing
      env).runtime.lastAppliedHash = engine.runtime.lastAppliedHash :=
    foldWatermark_lastAppliedHash engine.runtime _ _
  have unsettledInMemory : nonemptyContentId entry.contentId = none ∨
      nonemptyContentId (engine.foldPersistedWatermark casing
        env).runtime.lastSyncedContentId = none := by
    rw [Engine.folded_contentId]
    exact unsettled
  have planned : planAfterServerGet casing
      (engine.foldPersistedWatermark casing env).runtime
      ((engine.pushRequest job).snapshot (some entry)) = .push .doPush := by
    refine planAfterServerGet_eq_push.mpr
      ⟨convergedHash_hashless hashless, ?_, ?_⟩
    · intro other isOther
      cases isOther
      exact isAlreadySynced_iff.mpr
        (.inr ⟨unsettledInMemory, hashless, memoryFresh⟩)
    · refine planPush_eq_doPush.mpr ⟨rfl, rfl, notSynced, ?_⟩
      rw [applied]
      exact notApplied
  refine ⟨job, ?_, ?_⟩
  · have askedFolded : env.getLatestEntry
        (engine.foldPersistedWatermark casing env).server =
          .ok (some entry) := asked
    rw [Engine.push_of_built built unpaused,
      Engine.runRoute_puts rfl askedFolded planned]
    exact List.mem_singleton_self job
  · rintro ⟨_, _, latest, isLatest, safe⟩
    have isAsked : env.getLatestEntry engine.server = .ok latest := isLatest
    rw [asked] at isAsked
    cases isAsked
    rcases safe entry rfl with names | equal
    · have isSynced := isAlreadySynced_iff.mpr (.inl names)
      unfold Identity.Names at names
      split at names
      · rename_i a b isEntry isMemory
        rcases unsettledInMemory with none | none
        · rw [isEntry] at none
          cases none
        · have memory := isMemory
          simp only [RuntimeState.watermark] at memory
          rw [memory] at none
          cases none
      · rw [hashless] at names
        cases names.1
    · rw [hashless, isHash] at equal
      cases equal

theorem putsSafely_iff (engine : Engine) (call : EngineCall) :
    call.PutsSafely casing ports engine ↔
      ¬call.MeetsHashless ports engine := by
  cases call with
  | push env content =>
      constructor
      · intro safe meets
        obtain ⟨job, puts, unsafePut⟩ := not_mayPut_of_meets casing meets
        exact unsafePut (safe job puts)
      · intro settled job puts
        exact mayPut_of_put settled puts
  | _ => exact iff_of_true trivial not_false

end Puts

/-- In every run of calls, every put is safe exactly if no push meets a
document without a hash before anything was synced. -/
theorem noStaleClobber_iff (casing : Uppercase) (ports : PublishPorts)
    (start : Engine) (calls : List EngineCall) :
    Guarded (EngineCall.step casing ports)
        (fun engine call => call.PutsSafely casing ports engine) start calls ↔
      Guarded (EngineCall.step casing ports)
        (fun engine call => ¬call.MeetsHashless ports engine) start calls := by
  have agree : (fun (engine : Engine) (call : EngineCall) =>
        call.PutsSafely casing ports engine) =
      fun engine call => ¬call.MeetsHashless ports engine := by
    funext engine call
    exact propext (putsSafely_iff engine call)
  rw [agree]

namespace PhoneSample

/-- The server holds a text without a hash that the phone has never seen; the
phone's first push puts over it. -/
theorem firstPush_overwrites_hashless :
    ((phone.push casing ports (answering (textDocument "unseen" none none))
      textOfH).puts.map fun job => job.entry.text) = ["H"] ∧
    ¬phone.runtime.watermark.Names
      (textDocument "unseen" none none).intoProto := by
  constructor
  · decide +kernel
  · rintro ⟨hashed, _⟩
    cases hashed

end PhoneSample

end OpenClipboard.MobileEngine
