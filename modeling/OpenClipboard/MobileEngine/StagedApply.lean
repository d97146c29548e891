import OpenClipboard.MobileEngine.LockStep
import OpenClipboard.MobileEngine.LoopPause

/-!
# Applying a staged entry

The engine looks at the staged entry and the reducer at the staged hash.  In
every state that calls can reach both come from one entry, and so the apply
goes through exactly for an entry with a hash.
-/

namespace OpenClipboard.MobileEngine

/-- The content is handed over, nothing is staged any more, and the watermark
is that of the entry and names a content. -/
structure Tick.AppliesEntry (casing : Uppercase) (entry : Clipboard)
    (content : LocalContent) (tick : Tick) : Prop where
  handedOver : tick.outcome = .applied content (syncedMetaFromProto entry)
  emptied : tick.engine.runtime.stagedSlot = ⟨none, none, none⟩
  advanced : tick.engine.runtime.watermark =
    Identity.kept casing ⟨entry.hash, entry.contentId⟩
  names : (nonemptyHash tick.engine.runtime.watermark.hash).isSome = true

/-- The error that the engine takes to be impossible. -/
def SyncOutcome.noOpDespiteStaged : SyncOutcome :=
  .failed (.internal "mark_staged_applied no-op despite a staged entry")

section Apply

variable {casing : Uppercase} {engine : Engine} {env : Surroundings}
variable {entry : Clipboard} {content : LocalContent} {hash : String}

theorem nonemptyHash_isSome_iff {hash : Option String} :
    (nonemptyHash hash).isSome = true ↔
      ∃ text, hash = some text ∧ text ≠ "" := by
  unfold nonemptyHash
  cases hash with
  | none => simp
  | some text => simp [Option.filter]

theorem toUppercase_empty (casing : Uppercase) : casing.toUppercase "" = "" :=
  rfl

theorem toUppercase_ne_empty (nonempty : hash ≠ "") :
    casing.toUppercase hash ≠ "" := by
  intro isEmpty
  have noChars : hash.toList.flatMap casing.map = [] := by
    have chars := congrArg String.toList isEmpty
    rw [Uppercase.toUppercase, String.toList_ofList] at chars
    exact chars
  apply nonempty
  apply String.toList_inj.mp
  cases isList : hash.toList with
  | nil => rfl
  | cons first rest =>
      rw [isList, List.flatMap_cons] at noChars
      exact (casing.nonempty first (List.append_eq_nil_iff.mp noChars).1).elim

theorem Engine.applyStaged_of_noHash
    (isStaged : engine.runtime.stagedEntry = some entry)
    (fetched : env.fetchContent engine.server entry = .ok content)
    (noHash : engine.runtime.stagedServerHash = none) :
    (engine.applyStaged casing env).outcome = .noOpDespiteStaged := by
  simp [Engine.applyStaged, isStaged, fetched, markStagedApplied, noHash,
    Engine.stopped, SyncOutcome.noOpDespiteStaged]

theorem Engine.applyStaged_of_hash
    (isStaged : engine.runtime.stagedEntry = some entry)
    (fetched : env.fetchContent engine.server entry = .ok content)
    (isHash : engine.runtime.stagedServerHash = some hash) :
    (engine.applyStaged casing env).outcome =
        .applied content (syncedMetaFromProto entry) ∧
      (engine.applyStaged casing env).engine.runtime.stagedSlot =
        ⟨none, none, none⟩ ∧
      (hash ≠ "" →
        (engine.applyStaged casing env).engine.runtime.watermark =
          Identity.kept casing ⟨some hash, engine.runtime.stagedContentId⟩) := by
  have ended : engine.applyStaged casing env =
      ⟨(engine.whileRequesting env).persistAndSucceed env
          (markStagedApplied casing engine.runtime).1,
        .applied content (syncedMetaFromProto entry), []⟩ := by
    simp [Engine.applyStaged, isStaged, fetched, markStagedApplied, isHash]
  rw [ended]
  refine ⟨rfl, ?_, ?_⟩
  · simp only [Engine.persistAndSucceed_stagedSlot, markStagedApplied, isHash]
    rfl
  · intro nonempty
    simp only [Engine.persistAndSucceed_watermark, markStagedApplied, isHash,
      advanceSynced, if_neg nonempty]
    rfl

/-- In every state that calls can reach, an entry that is staged and can be
fetched is applied exactly if it has a hash, and without one the apply ends in
the error that the engine takes to be impossible. -/
theorem applyStaged_appliesEntry_iff (casing : Uppercase)
    (ports : PublishPorts) (server : ServerConfig) (cfg : SyncConfig)
    (settings : SyncSettings) (store : KeyValueStore)
    (actions : List MobileAction) (env : Surroundings)
    (reached : (Engine.new server cfg settings store).runMobile casing ports
      actions = engine)
    (isStaged : engine.runtime.stagedEntry = some entry)
    (fetched : env.fetchContent engine.server entry = .ok content) :
    ((engine.applyStaged casing env).AppliesEntry casing entry content ↔
        (nonemptyHash entry.hash).isSome = true) ∧
      ((engine.applyStaged casing env).outcome = .noOpDespiteStaged ↔
        entry.hash = none) := by
  have emptySlot : StagedTogether
      (Engine.new server cfg settings store).runtime.stagedSlot := .empty
  have together : StagedTogether engine.runtime.stagedSlot := by
    rw [← reached]
    exact Engine.runMobile_stagedTogether casing ports emptySlot actions
  obtain ⟨sameHash, sameContentId⟩ := together.parts isStaged
  constructor
  · constructor
    · intro applies
      have named := applies.names
      rw [applies.advanced] at named
      obtain ⟨upper, isUpper, nonempty⟩ := nonemptyHash_isSome_iff.mp named
      obtain ⟨hash, isHash, same⟩ := Option.map_eq_some_iff.mp isUpper
      apply nonemptyHash_isSome_iff.mpr
      refine ⟨hash, isHash, ?_⟩
      intro isEmpty
      rw [isEmpty, toUppercase_empty] at same
      exact nonempty same.symm
    · intro hashed
      obtain ⟨hash, isHash, nonempty⟩ := nonemptyHash_isSome_iff.mp hashed
      rw [isHash] at sameHash
      obtain ⟨handedOver, emptied, advances⟩ :=
        Engine.applyStaged_of_hash isStaged fetched sameHash
      have advanced := advances nonempty
      rw [sameContentId] at advanced
      refine ⟨handedOver, emptied, ?_, ?_⟩
      · rw [advanced, isHash]
        unfold Identity.kept
        rw [nonemptyContentId_idem]
      · rw [advanced]
        apply nonemptyHash_isSome_iff.mpr
        exact ⟨casing.toUppercase hash, rfl, toUppercase_ne_empty nonempty⟩
  · constructor
    · intro failed
      by_contra hashed
      obtain ⟨hash, isHash⟩ := Option.ne_none_iff_exists'.mp hashed
      rw [isHash] at sameHash
      rw [(Engine.applyStaged_of_hash isStaged fetched sameHash).1] at failed
      cases failed
    · intro noHash
      rw [noHash] at sameHash
      exact Engine.applyStaged_of_noHash isStaged fetched sameHash

end Apply

namespace PhoneSample

/-- Under manual apply, a document of the server is staged. -/
def manually : Engine :=
  phone.runMobile casing ports
    [.engine (.setSettings ⟨false⟩), .engine (pulls z)]

def unhashed : ClipboardMeta := textDocument "Z" none none

/-- A document without a hash is staged under auto-apply too. -/
def unhashedAfterZ : List EngineCall := [pulls z, pulls unhashed]

def hashless : Engine := phone.runCalls casing ports unhashedAfterZ

theorem manually_applies :
    ∃ entry content, manually.runtime.stagedEntry = some entry ∧
      (manually.applyStaged casing (answering z)).AppliesEntry casing entry
        content := by
  have staged : manually.runtime.stagedEntry.map (fun entry =>
      (entry.hash, (answering z).fetchContent manually.server entry)) =
        some (some "ZZ", .ok ⟨.text, "Z", none, none⟩) := by
    decide +kernel
  obtain ⟨entry, isStaged, seen⟩ := Option.map_eq_some_iff.mp staged
  obtain ⟨isHash, fetched⟩ := Prod.mk.inj seen
  have hashed : (nonemptyHash entry.hash).isSome = true := by
    rw [isHash]
    decide
  exact ⟨entry, _, isStaged, (applyStaged_appliesEntry_iff casing ports server
    cfg ⟨true⟩ ∅ _ (answering z) rfl isStaged fetched).1.mpr hashed⟩

theorem hashless_notApplied :
    ¬ ∀ (casing : Uppercase) (ports : PublishPorts) (server : ServerConfig)
      (cfg : SyncConfig) (settings : SyncSettings) (store : KeyValueStore)
      (calls : List EngineCall) (env : Surroundings) (entry : Clipboard)
      (content : LocalContent),
      let engine := (Engine.new server cfg settings store).runCalls casing ports
        calls
      engine.runtime.stagedEntry = some entry →
      env.fetchContent engine.server entry = .ok content →
      (engine.applyStaged casing env).AppliesEntry casing entry content := by
  intro applies
  have staged : hashless.runtime.stagedEntry.map (fun entry =>
      (answering unhashed).fetchContent hashless.server entry) =
        some (.ok ⟨.text, "Z", none, none⟩) := by
    decide +kernel
  have outcome : (hashless.applyStaged casing (answering unhashed)).outcome =
      .noOpDespiteStaged := by
    decide +kernel
  obtain ⟨entry, isStaged, fetched⟩ := Option.map_eq_some_iff.mp staged
  have applied := applies casing ports server cfg ⟨true⟩ ∅ unhashedAfterZ
    (answering unhashed) entry _ isStaged fetched
  have handedOver : (hashless.applyStaged casing (answering unhashed)).outcome =
      _ := applied.handedOver
  rw [outcome] at handedOver
  cases handedOver

end PhoneSample

end OpenClipboard.MobileEngine
