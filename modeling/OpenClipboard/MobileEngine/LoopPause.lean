import OpenClipboard.Library.Transition
import OpenClipboard.MobileEngine.Ticks

/-!
# The pause of the loop guard

Once the loop guard has tripped, the engine should stay paused until the user
acknowledges or another server becomes active.  Every call checks for the
pause, except that applying a staged entry does not.
-/

namespace OpenClipboard.MobileEngine

open Transition

/-- The user acknowledges, or the server changes to a different one. -/
def EngineCall.Resumes (engine : Engine) : EngineCall → Prop
  | .acknowledgeLoopDetected => True
  | .setServer server _ => sameServer engine.server server = false
  | _ => False

/-- A tick that uploads no clipboard and hands none to the device. -/
def Tick.MovesNothing (tick : Tick) : Prop :=
  tick.puts = [] ∧
    match tick.outcome with
    | .uploaded _ | .applied _ _ => False
    | _ => True

def EngineCall.StaysPaused (casing : Uppercase) (ports : PublishPorts)
    (engine : Engine) (call : EngineCall) : Prop :=
  (call.perform casing ports engine).runtime.state = .loopDetected ∧
    ∀ tick, call.tick casing ports engine = some tick → tick.MovesNothing

/-- The call applies a staged entry: its content arrives, or its request fails
other than by being cancelled. -/
def EngineCall.AppliesStaged (engine : Engine) : EngineCall → Prop
  | .applyStaged env =>
      match engine.runtime.stagedEntry with
      | none => False
      | some entry =>
          match env.fetchContent engine.server entry with
          | .ok _ => engine.runtime.stagedServerHash.isSome = true
          | .error error => error ≠ .cancelled
  | _ => False

variable {engine : Engine}

section Gates

variable {casing : Uppercase} {ports : PublishPorts}

@[simp]
theorem foldWatermark_state {Entry : Type} (st : RuntimeState Entry)
    (hash contentId : Option String) :
    (foldWatermark casing st hash contentId).state = st.state := by
  simp only [foldWatermark]
  split <;> rfl

theorem pausedOutcome_foldPersistedWatermark
    (paused : engine.runtime.state = .loopDetected) (env : Surroundings) :
    pausedOutcome (engine.foldPersistedWatermark casing env).runtime =
      some .loopDetected := by
  simp [pausedOutcome, Engine.foldPersistedWatermark, paused]

theorem Engine.stopped_movesNothing {outcome : SyncOutcome}
    (notUploaded : ∀ uploaded, outcome ≠ .uploaded uploaded)
    (notApplied : ∀ content applied, outcome ≠ .applied content applied) :
    (engine.stopped outcome).MovesNothing := by
  refine ⟨rfl, ?_⟩
  cases outcome with
  | uploaded uploaded => exact (notUploaded uploaded rfl).elim
  | applied content applied => exact (notApplied content applied rfl).elim
  | staged _ | upToDate _ | backingOff _ | loopDetected | failed _ => trivial

theorem staysPaused_push (paused : engine.runtime.state = .loopDetected)
    (env : Surroundings) (content : LocalContent) :
    (EngineCall.push env content).StaysPaused casing ports engine := by
  have pushed : ∃ (stoppedEngine : Engine) (outcome : SyncOutcome),
      engine.push casing ports env content =
        stoppedEngine.stopped outcome ∧
      stoppedEngine.runtime.state = .loopDetected ∧
      (outcome = .loopDetected ∨ ∃ error, outcome = .failed error) := by
    simp only [Engine.push]
    cases buildPushEntry ports content with
    | error error => exact ⟨engine, _, rfl, paused, .inr ⟨error, rfl⟩⟩
    | ok job =>
        simp only [pausedOutcome_foldPersistedWatermark paused]
        refine ⟨_, _, rfl, ?_, .inl rfl⟩
        simp [Engine.foldPersistedWatermark, paused]
  obtain ⟨stoppedEngine, outcome, isStopped, stays, isOutcome⟩ := pushed
  constructor
  · simp only [EngineCall.perform, isStopped]
    exact stays
  · intro tick isTick
    simp only [EngineCall.tick, isStopped, Option.some.injEq] at isTick
    rw [← isTick]
    apply Engine.stopped_movesNothing
    · rcases isOutcome with rfl | ⟨error, rfl⟩ <;> simp
    · rcases isOutcome with rfl | ⟨error, rfl⟩ <;> simp

theorem staysPaused_pull (paused : engine.runtime.state = .loopDetected)
    (env : Surroundings) (trigger : PullTrigger) (deviceHash : Option String) :
    (EngineCall.pull env trigger deviceHash).StaysPaused casing ports
      engine := by
  have pulled : engine.pull casing env trigger deviceHash =
      (engine.foldPersistedWatermark casing env).stopped .loopDetected := by
    simp only [Engine.pull, pausedOutcome_foldPersistedWatermark paused]
  constructor
  · simp only [EngineCall.perform, pulled]
    simp [Engine.stopped, Engine.foldPersistedWatermark, paused]
  · intro tick isTick
    simp only [EngineCall.tick, pulled, Option.some.injEq] at isTick
    rw [← isTick]
    exact Engine.stopped_movesNothing (by simp) (by simp)

/-- A failed request ends the pause unless it was cancelled. -/
theorem failTick_state_eq_loopDetected_iff
    (paused : engine.runtime.state = .loopDetected) (env : Surroundings)
    (error : SyncError) :
    (engine.failTick env error).runtime.state = .loopDetected ↔
      error = .cancelled := by
  cases error <;>
    simp [Engine.failTick, Engine.withRuntime, syncErrorToTickKind,
      commitTickFailure, paused]

theorem staysPaused_applyStaged_iff
    (paused : engine.runtime.state = .loopDetected) (env : Surroundings) :
    (EngineCall.applyStaged env).StaysPaused casing ports engine ↔
      ¬(EngineCall.applyStaged env).AppliesStaged engine := by
  simp only [EngineCall.StaysPaused, EngineCall.perform, EngineCall.tick,
    EngineCall.AppliesStaged, Engine.applyStaged, Option.some.injEq,
    forall_eq']
  cases engine.runtime.stagedEntry with
  | none =>
      simp only [not_false_eq_true, iff_true]
      exact ⟨paused, Engine.stopped_movesNothing (by simp) (by simp)⟩
  | some entry =>
      simp only [Engine.whileRequesting_server,
        Engine.whileRequesting_runtime]
      have stillPaused : (engine.whileRequesting env).runtime.state =
        .loopDetected := paused
      cases fetched : env.fetchContent engine.server entry with
      | error error =>
          simp only [not_not]
          rw [failTick_state_eq_loopDetected_iff stillPaused]
          exact and_iff_left ⟨rfl, trivial⟩
      | ok content =>
          cases isStaged : engine.runtime.stagedServerHash with
          | none =>
              simp only [markStagedApplied, isStaged]
              simp only [Option.isSome_none, Bool.false_eq_true,
                not_false_eq_true, iff_true, Bool.not_false, if_true]
              exact ⟨paused, Engine.stopped_movesNothing (by simp) (by simp)⟩
          | some hash =>
              simp [markStagedApplied, isStaged, Tick.MovesNothing]

theorem staysPaused_of_noTick {call : EngineCall}
    (stays : (call.perform casing ports engine).runtime.state = .loopDetected)
    (noTick : call.tick casing ports engine = none) :
    call.StaysPaused casing ports engine := by
  refine ⟨stays, ?_⟩
  intro tick isTick
  rw [noTick] at isTick
  cases isTick

theorem staysPaused_iff {call : EngineCall}
    (paused : engine.runtime.state = .loopDetected)
    (unresumed : ¬call.Resumes engine) :
    call.StaysPaused casing ports engine ↔ ¬call.AppliesStaged engine := by
  cases call with
  | push env content =>
      exact iff_of_true (staysPaused_push paused env content) not_false
  | pull env trigger deviceHash =>
      exact iff_of_true (staysPaused_pull paused env trigger deviceHash)
        not_false
  | applyStaged env => exact staysPaused_applyStaged_iff paused env
  | setServer server betweenRemoves =>
      have same : sameServer engine.server server = true := by
        simpa [EngineCall.Resumes] using unresumed
      refine iff_of_true (staysPaused_of_noTick ?_ rfl) not_false
      simpa [EngineCall.perform, Engine.setServer, same] using paused
  | acknowledgeLoopDetected => exact (unresumed trivial).elim
  | handleNetworkRouteChanged | setSettings _ | otherProcess _ =>
      exact iff_of_true (staysPaused_of_noTick paused rfl) not_false

end Gates

/-- Along every run in which nobody acknowledges and the server stays, the
engine stays paused and moves no clipboard exactly if no call applies a staged
entry. -/
theorem loopPauseAbsorbing_iff (casing : Uppercase) (ports : PublishPorts)
    {engine : Engine} (paused : engine.runtime.state = .loopDetected)
    {calls : List EngineCall}
    (unresumed : Guarded (EngineCall.step casing ports)
      (fun engine call => ¬call.Resumes engine) engine calls) :
    Guarded (EngineCall.step casing ports)
        (fun engine call => call.StaysPaused casing ports engine) engine
        calls ↔
      Guarded (EngineCall.step casing ports)
        (fun engine call => ¬call.AppliesStaged engine) engine calls := by
  apply guarded_congr (fun engine => engine.runtime.state = .loopDetected)
    ?_ ?_ paused unresumed
  · intro engine call paused unresumed
    exact staysPaused_iff paused unresumed
  · intro engine call next _ stays stepped
    cases stepped
    exact stays.1

namespace PhoneSample

def h : ClipboardMeta := textDocument "H" (some hashOfH) none

def b : ClipboardMeta := textDocument "B" (some "BB") none

def z : ClipboardMeta := textDocument "Z" (some "ZZ") none

def pulls (document : ClipboardMeta) : EngineCall :=
  .pull (answering document) .explicit none

/-- One text goes back and forth four times; another one is staged before the
last push. -/
def pingPong : List EngineCall :=
  [pulls h, pulls b, .push (answering b) textOfH, pulls b, pulls h, pulls b,
    .setSettings ⟨false⟩, pulls z, .push (answering b) textOfH]

def tripped : Engine := phone.runCalls casing ports pingPong

/-- Whether the engine is paused, and what applying the staged entry does. -/
def stagedReport (engine : Engine) : SyncState × SyncState × SyncOutcome :=
  let tick := engine.applyStaged casing (answering b)
  (engine.runtime.state, tick.engine.runtime.state, tick.outcome)

theorem stagedReport_tripped :
    stagedReport tripped =
      (.loopDetected, .succeeded,
        .applied ⟨.text, "Z", none, none⟩
          ⟨.text, some "ZZ", none, some "Z", some 1⟩) := by
  decide +kernel

theorem tripped_paused : tripped.runtime.state = .loopDetected := by
  have report := stagedReport_tripped
  simp only [stagedReport, Prod.mk.injEq] at report
  exact report.1

/-- An explicit pull in the pause. -/
theorem loopPauseAbsorbing_iff_pull :
    Guarded (EngineCall.step casing ports)
        (fun engine call => call.StaysPaused casing ports engine) tripped
        [pulls z] ↔
      Guarded (EngineCall.step casing ports)
        (fun engine call => ¬call.AppliesStaged engine) tripped [pulls z] :=
  loopPauseAbsorbing_iff casing ports tripped_paused ⟨not_false, trivial⟩

/-- In the pause the staged text is handed to the device, and the pause is
over. -/
theorem stagedEntry_ends_pause :
    tripped.runtime.state = .loopDetected ∧
      (tripped.applyStaged casing (answering b)).engine.runtime.state =
        .succeeded ∧
      (tripped.applyStaged casing (answering b)).outcome =
        .applied ⟨.text, "Z", none, none⟩
          ⟨.text, some "ZZ", none, some "Z", some 1⟩ := by
  have report := stagedReport_tripped
  simp only [stagedReport, Prod.mk.injEq] at report
  exact report

end PhoneSample

end OpenClipboard.MobileEngine
