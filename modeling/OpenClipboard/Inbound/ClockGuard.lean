import OpenClipboard.Inbound.Activation

/-!
# Activations from the future

Announcements and payloads reach one register.  An announcement is compared
with the clock before anything is done for it; a payload activates its content
under whatever instant its envelope names.  The state keeps a record of every
advance an inbound path has made, with the reading of the clock it was
processed at.
-/

namespace OpenClipboard.ApplyInbound

open ContentHash Transition

/-- A detached task, with the clock reading of the filter that let it pass. -/
structure AnnouncedTask where
  processedAtMs : Int
  pending : PendingTask
  deriving DecidableEq, Repr

/-- An advance of the register, with the clock reading of its processing. -/
structure InboundAdvance where
  processedAtMs : Int
  activation : Activation
  deriving DecidableEq, Repr

structure InboundHost where
  device : InboundDevice
  tasks : List AnnouncedTask
  advances : List InboundAdvance
  deriving DecidableEq, Repr

/-- One step of the traffic.  The steps of a task may come between any
others, and so may what the user activates. -/
inductive InboundTraffic where
  | announcement (env : InboundEnv) (inbound : InboundActiveClipboardState)
  | taskWrite (index : Nat) (succeeds : Bool)
  | taskConverge (index : Nat) (env : AdvanceEnv)
  | payload (clockMs : Int) (ports : InboundPorts) (input : ApplyInboundInput)
  | localActivation (env : AdvanceEnv) (mobileConsumable : Bool) (nowMs : Int)
      (currentDeviceId : DeviceId) (snapshotHash : String) (entryId : EntryId)

def advanceMade (processedAtMs : Int) (before after : Option RegisterRow) :
    Option InboundAdvance :=
  if registerActivation after = registerActivation before then
    none
  else
    (registerActivation after).map fun activation => ⟨processedAtMs, activation⟩

namespace InboundHost

def start (device : InboundDevice) : InboundHost := ⟨device, [], []⟩

/-- What an inbound path leaves of the device, its advance recorded. -/
def settle (processedAtMs : Int) (device : InboundDevice)
    (host : InboundHost) : InboundHost :=
  { host with
    device := device
    advances := host.advances ++
      (advanceMade processedAtMs host.device.register device.register).toList }

/-- Handle an announcement; a scheduled task joins the detached ones. -/
def announce (env : InboundEnv) (inbound : InboundActiveClipboardState)
    (host : InboundHost) : InboundHost :=
  match handleOne env host.device.register inbound with
  | .scheduled task =>
      { host with tasks := host.tasks ++
        [⟨env.nowMs, ⟨inbound.peerDeviceId, task, false⟩⟩] }
  | .dropped _ => host
  | .ignored _ => host

def taskWrite (index : Nat) (succeeds : Bool) (host : InboundHost) :
    Option InboundHost :=
  match host.tasks[index]? with
  | none => none
  | some announced =>
      if announced.pending.written then
        none
      else if succeeds then
        some { host with
          device := { host.device with
            osClipboard := some ⟨announced.pending.task.snapshot,
              announced.pending.task.state.snapshotHash⟩ }
          tasks := host.tasks.set index ⟨announced.processedAtMs,
            { announced.pending with written := true }⟩ }
      else
        some { host with tasks := host.tasks.eraseIdx index }

def taskConverge (index : Nat) (env : AdvanceEnv) (host : InboundHost) :
    Option InboundHost :=
  match host.tasks[index]? with
  | none => none
  | some announced =>
      if announced.pending.written then
        some (({ host with tasks := host.tasks.eraseIdx index }).settle
          announced.processedAtMs
          { host.device with
            register := (advance env host.device.register
              announced.pending.task.state
              announced.pending.task.mobileConsumable).2 })
      else
        none

def step (host : InboundHost) : InboundTraffic → Option InboundHost
  | .announcement env inbound => some (host.announce env inbound)
  | .taskWrite index succeeds => host.taskWrite index succeeds
  | .taskConverge index env => host.taskConverge index env
  | .payload clockMs ports input =>
      (execute ports input host.device).map fun result =>
        host.settle clockMs result.2
  | .localActivation env mobileConsumable nowMs currentDeviceId snapshotHash
      entryId =>
      some { host with
        device := { host.device with
          register := (advanceLocal env mobileConsumable nowMs currentDeviceId
            host.device.register snapshotHash entryId).2 } }

/-- No inbound path has advanced the register to an instant that was further
ahead than the tolerance when it was processed. -/
def RespectsClock (host : InboundHost) : Prop :=
  ∀ made ∈ host.advances,
    made.activation.activatedAtMs ≤
      made.processedAtMs + futureTimestampToleranceMs

/-- The detached tasks have passed the filter. -/
def TasksInTime (host : InboundHost) : Prop :=
  ∀ announced ∈ host.tasks,
    announced.pending.activation.activatedAtMs ≤
      announced.processedAtMs + futureTimestampToleranceMs

end InboundHost

/-! ## Which payloads activate -/

section Payload

variable (ports : InboundPorts) (input : ApplyInboundInput)

/-- A payload that comes to the register: content that is held and can be
shown again, or content that is stored in full. -/
inductive Activates (device : InboundDevice) : Envelope → EntryId → Prop
  | resurfaced {envelope : Envelope} {existing : EntryId}
      {rebuild : EntryId → Except String SystemClipboardSnapshot}
      {snapshot : SystemClipboardSnapshot}
      (decoded : ports.decode input.plaintext = .ok envelope)
      (lookedUp : ports.findEntryIdBySnapshotHash input.snapshotHash =
        .ok (some existing))
      (held : isEntryAvailable ports existing = true)
      (wired : ports.resurface = some rebuild)
      (notRecent : isRecentHash ports input device = none)
      (rebuilt : rebuild existing = .ok snapshot)
      (written : ports.write snapshot input.resurfaceIntent = .ok ()) :
      Activates device envelope existing
  | stored {envelope : Envelope} {existing : Option EntryId}
      {snapshot : SystemClipboardSnapshot} {visibleKey : Option String}
      {entryId : EntryId}
      (decoded : ports.decode input.plaintext = .ok envelope)
      (lookedUp : ports.findEntryIdBySnapshotHash input.snapshotHash =
        .ok existing)
      (notHeld : isHeld ports existing = false)
      (materialized : materializePayload ports input
        (existing.getD ports.newEntryId) envelope =
          some (.ok (snapshot, false)))
      (keyed : snapshot.meaningfulOriginKey ports.blake3 ports.readFile =
        some visibleKey)
      (notRecent : existing = none →
        findRecentDuplicate ports input visibleKey device = none)
      (committed : commit ports input existing
        (existing.getD ports.newEntryId) snapshot = .ok entryId) :
      Activates device envelope entryId

def offeredState (envelope : Envelope) (entryId : EntryId) :
    ActiveClipboardState where
  snapshotHash := input.snapshotHash
  entryId := entryId
  activatedAtMs := envelope.snapshot.tsMs
  activatedBy := input.fromDevice

/-- A register that answers and holds something older. -/
def Takes (env : AdvanceEnv) (register : Option RegisterRow)
    (state : ActiveClipboardState) (mobileConsumable : Bool) : Prop :=
  (sealConsumableRef env state mobileConsumable).isOk = true ∧
    env.storageFailure = none ∧ shouldAdvance register state = true

/-- A payload that activates its content, and whose envelope names a newer
instant than the register, further ahead than the tolerance. -/
def ActivatesAhead (clockMs : Int) (device : InboundDevice) : Prop :=
  ∃ envelope entryId env,
    Activates ports input (afterEviction ports device) envelope entryId ∧
    ports.activeRegister = some env ∧
    Takes env device.register (offeredState input envelope entryId)
      (ports.isMobileConsumable entryId) ∧
    clockMs + futureTimestampToleranceMs < envelope.snapshot.tsMs

end Payload

def activatesInTime (host : InboundHost) : InboundTraffic → Prop
  | .payload clockMs ports input =>
      ¬ ActivatesAhead ports input clockMs host.device
  | _ => True

/-! ## What a payload does to the register -/

variable {entryId : EntryId} {snapshot : SystemClipboardSnapshot}
  {visibleKey : Option String} {envelope : Envelope} {existing : Option EntryId}
  {result : Except ApplyInboundError ApplyOutcome × InboundDevice}
  {traffic : InboundTraffic}

section Execute

variable {ports : InboundPorts} {input : ApplyInboundInput}
variable {device after : InboundDevice}

@[simp]
theorem writeOs_register (snapshot : SystemClipboardSnapshot) :
    (writeOs ports input snapshot device).register = device.register := by
  unfold writeOs
  split <;> rfl

theorem advanceActiveRegister_congr {other : InboundDevice}
    {activatedAtMs : Int} (same : other.register = device.register) :
    (advanceActiveRegister ports input entryId activatedAtMs other).register =
      (advanceActiveRegister ports input entryId activatedAtMs
        device).register := by
  unfold advanceActiveRegister
  split
  · exact same
  · simp only [same]

theorem activateApplied_register {stored : EntryId} :
    (activateApplied ports input stored snapshot visibleKey device).register =
      (advanceActiveRegister ports input stored snapshot.tsMs
        device).register := by
  unfold activateApplied
  rw [writeOs_register]
  exact advanceActiveRegister_congr rfl

theorem execute_eq_resurface (device : InboundDevice) {existing : EntryId}
    (decoded : ports.decode input.plaintext = .ok envelope)
    (lookedUp : ports.findEntryIdBySnapshotHash input.snapshotHash =
      .ok (some existing)) (held : isEntryAvailable ports existing = true) :
    (execute ports input device).map Prod.snd =
      some (resurfaceHeldEntry ports input existing envelope.snapshot.tsMs
        (afterEviction ports device)).2 := by
  unfold execute
  simp only [decoded, lookedUp, held, if_true]
  rfl

theorem execute_eq_applyContent
    (decoded : ports.decode input.plaintext = .ok envelope)
    (lookedUp : ports.findEntryIdBySnapshotHash input.snapshotHash =
      .ok existing) (notHeld : isHeld ports existing = false) :
    execute ports input device =
      applyContent ports input existing envelope
        (afterEviction ports device) := by
  unfold execute
  simp only [decoded, lookedUp]
  cases existing with
  | none => rfl
  | some existing =>
      have unavailable : isEntryAvailable ports existing = false := notHeld
      simp only [unavailable]
      rfl

theorem storeContent_full {entryId stored : EntryId}
    (committed : commit ports input existing entryId snapshot = .ok stored) :
    (storeContent ports input existing entryId snapshot false visibleKey
      device).2.register =
        (advanceActiveRegister ports input stored snapshot.tsMs
          device).register := by
  unfold storeContent
  rw [committed]
  exact activateApplied_register

theorem Activates.register
    (activates : Activates ports input (afterEviction ports device) envelope
      entryId) :
    (execute ports input device).map (fun result => result.2.register) =
      some (advanceActiveRegister ports input entryId envelope.snapshot.tsMs
        device).register := by
  cases activates with
  | resurfaced decoded lookedUp held wired notRecent rebuilt written =>
      have resurfaces := execute_eq_resurface device decoded lookedUp held
      have passes : (isRecentHash ports input
          (afterEviction ports device)).isSome = false := by
        rw [notRecent]
        rfl
      have isActivated : (resurfaceHeldEntry ports input entryId
          envelope.snapshot.tsMs (afterEviction ports device)).2.register =
            (advanceActiveRegister ports input entryId envelope.snapshot.tsMs
              device).register := by
        unfold resurfaceHeldEntry
        simp only [wired, passes, rebuilt, written, Bool.false_eq_true,
          if_false]
        exact advanceActiveRegister_congr rfl
      have mapped := congrArg (Option.map InboundDevice.register) resurfaces
      rw [Option.map_map, Option.map_some, isActivated] at mapped
      exact mapped
  | @stored existing snapshot visibleKey _ decoded lookedUp notHeld
      materialized keyed notRecent committed =>
      have sameTime := tsMs_of_materializePayload materialized
      have storing : (storeContent ports input existing
          (existing.getD ports.newEntryId) snapshot false visibleKey
            (afterEviction ports device)).2.register =
              (advanceActiveRegister ports input entryId
                envelope.snapshot.tsMs device).register := by
        rw [storeContent_full committed, sameTime]
        exact advanceActiveRegister_congr rfl
      rw [execute_eq_applyContent decoded lookedUp notHeld]
      unfold applyContent
      simp only [materialized, keyed]
      cases existing with
      | none =>
          simp only [notRecent rfl, Option.map_some]
          exact congrArg some storing
      | some existing =>
          simp only [Bool.false_eq_true, if_false, Option.map_some]
          exact congrArg some storing

theorem resurfaceHeldEntry_register {existing : EntryId} {activatedAtMs : Int}
    (changed : (resurfaceHeldEntry ports input existing activatedAtMs
      device).2.register ≠ device.register) :
    ∃ rebuild snapshot, ports.resurface = some rebuild ∧
      isRecentHash ports input device = none ∧
      rebuild existing = .ok snapshot ∧
      ports.write snapshot input.resurfaceIntent = .ok () := by
  unfold resurfaceHeldEntry at changed
  cases wired : ports.resurface with
  | none =>
      rw [wired] at changed
      exact absurd rfl changed
  | some rebuild =>
      simp only [wired] at changed
      by_cases isRecent : (isRecentHash ports input device).isSome = true
      · rw [if_pos isRecent] at changed
        exact absurd rfl changed
      · rw [if_neg isRecent] at changed
        cases rebuilt : rebuild existing with
        | error message =>
            rw [rebuilt] at changed
            exact absurd rfl changed
        | ok snapshot =>
            simp only [rebuilt] at changed
            cases written : ports.write snapshot input.resurfaceIntent with
            | error message =>
                rw [written] at changed
                exact absurd rfl changed
            | ok done =>
                exact ⟨rebuild, snapshot, rfl, by simpa using isRecent,
                  rebuilt, written⟩

theorem storeContent_register {isPartial : Bool}
    (changed : (storeContent ports input existing entryId snapshot isPartial
      visibleKey device).2.register ≠ device.register) :
    isPartial = false ∧ ∃ stored,
      commit ports input existing entryId snapshot = .ok stored := by
  unfold storeContent at changed
  cases committed : commit ports input existing entryId snapshot with
  | error err =>
      rw [committed] at changed
      exact absurd rfl changed
  | ok stored =>
      simp only [committed] at changed
      cases isPartial with
      | true => exact absurd rfl changed
      | false => exact ⟨rfl, stored, rfl⟩

theorem applyContent_register
    (applied : applyContent ports input existing envelope device = some result)
    (changed : result.2.register ≠ device.register) :
    ∃ snapshot visibleKey stored,
      materializePayload ports input (existing.getD ports.newEntryId) envelope =
        some (.ok (snapshot, false)) ∧
      snapshot.meaningfulOriginKey ports.blake3 ports.readFile =
        some visibleKey ∧
      (existing = none →
        findRecentDuplicate ports input visibleKey device = none) ∧
      commit ports input existing (existing.getD ports.newEntryId) snapshot =
        .ok stored := by
  unfold applyContent at applied
  simp only at applied
  split at applied
  · cases applied
  · cases applied
    exact absurd rfl changed
  · rename_i snapshot isPartial materialized
    split at applied
    · cases applied
    · rename_i visibleKey keyed
      split at applied
      · cases applied
        exact absurd rfl changed
      · rename_i notRecent
        cases applied
        obtain ⟨isFull, stored, committed⟩ := storeContent_register changed
        rw [isFull] at materialized
        exact ⟨snapshot, visibleKey, stored, materialized, keyed,
          fun _ => notRecent, committed⟩
    · rename_i visibleKey existing keyed
      split at applied
      · cases applied
        exact absurd rfl changed
      · cases applied
        obtain ⟨isFull, stored, committed⟩ := storeContent_register changed
        rw [isFull] at materialized
        refine ⟨snapshot, visibleKey, stored, materialized, keyed, ?_,
          committed⟩
        intro isNone
        cases isNone

theorem activates_of_execute
    (executed : execute ports input device = some result)
    (changed : result.2.register ≠ device.register) :
    ∃ envelope entryId,
      Activates ports input (afterEviction ports device) envelope entryId := by
  cases decoded : ports.decode input.plaintext with
  | error reason =>
      unfold execute at executed
      simp only [decoded] at executed
      cases executed
      exact absurd rfl changed
  | ok envelope =>
      cases lookedUp : ports.findEntryIdBySnapshotHash input.snapshotHash with
      | error message =>
          unfold execute at executed
          simp only [decoded, lookedUp] at executed
          cases executed
          exact absurd rfl changed
      | ok found =>
          cases isHere : isHeld ports found with
          | true =>
              cases found with
              | none => cases isHere
              | some existing =>
                  have resurfaces := execute_eq_resurface device
                    decoded lookedUp isHere
                  rw [executed, Option.map_some, Option.some.injEq]
                    at resurfaces
                  rw [resurfaces] at changed
                  obtain ⟨rebuild, snapshot, wired, notRecent, rebuilt,
                    written⟩ := resurfaceHeldEntry_register changed
                  exact ⟨envelope, existing, .resurfaced decoded lookedUp
                    isHere wired notRecent rebuilt written⟩
          | false =>
              rw [execute_eq_applyContent decoded lookedUp isHere] at executed
              obtain ⟨snapshot, visibleKey, stored, materialized, keyed,
                notRecent, committed⟩ := applyContent_register executed changed
              exact ⟨envelope, stored, .stored decoded lookedUp isHere
                materialized keyed notRecent committed⟩

end Execute

/-! ## What a step records -/

section Advance

variable {env : AdvanceEnv} {register : Option RegisterRow}
variable {state : ActiveClipboardState} {mobileConsumable : Bool}

theorem Takes.activation (takes : Takes env register state mobileConsumable) :
    registerActivation (advance env register state mobileConsumable).2 =
      some state.activation := by
  obtain ⟨sealing, storage, wins⟩ := takes
  rw [registerActivation_advance sealing (by rw [storage]; rfl),
    offer_activation, if_pos wins]

theorem Takes.changes (takes : Takes env register state mobileConsumable) :
    registerActivation (advance env register state mobileConsumable).2 ≠
      registerActivation register := by
  rw [takes.activation]
  intro same
  cases register with
  | none => cases same
  | some row =>
      have newer := (shouldAdvance_some_iff row state).mp takes.2.2
      have isState : state.activation = row.activation := Option.some.inj same
      rw [isState] at newer
      exact absurd newer (lt_irrefl _)

theorem takes_of_changed
    (changed : registerActivation (advance env register state
      mobileConsumable).2 ≠ registerActivation register) :
    Takes env register state mobileConsumable := by
  by_cases answers : ((sealConsumableRef env state mobileConsumable).isOk &&
      env.storageFailure.isNone) = true
  · obtain ⟨sealing, storage⟩ := (Bool.and_eq_true _ _).mp answers
    refine ⟨sealing, Option.isNone_iff_eq_none.mp storage, ?_⟩
    by_contra loses
    rw [registerActivation_advance sealing storage, offer_activation,
      if_neg loses] at changed
    exact changed rfl
  · rw [advance_unanswered (Bool.eq_false_iff.mpr answers)] at changed
    exact absurd rfl changed

end Advance

namespace InboundHost

variable {host next : InboundHost}

theorem respectsClock_settle (processedAtMs : Int) (device : InboundDevice) :
    (host.settle processedAtMs device).RespectsClock ↔
      host.RespectsClock ∧
        ∀ activation, registerActivation device.register = some activation →
          registerActivation device.register ≠
            registerActivation host.device.register →
          activation.activatedAtMs ≤
            processedAtMs + futureTimestampToleranceMs := by
  have recorded : ∀ made, made ∈ (advanceMade processedAtMs
      host.device.register device.register).toList ↔
        registerActivation device.register ≠
            registerActivation host.device.register ∧
          ∃ activation, registerActivation device.register = some activation ∧
            made = ⟨processedAtMs, activation⟩ := by
    intro made
    unfold advanceMade
    rw [Option.mem_toList]
    split
    · rename_i same
      simp [same]
    · rename_i changed
      rw [Option.map_eq_some_iff]
      constructor
      · rintro ⟨activation, held, rfl⟩
        exact ⟨changed, activation, held, rfl⟩
      · rintro ⟨_, activation, held, rfl⟩
        exact ⟨activation, held, rfl⟩
  unfold settle RespectsClock
  simp only [List.mem_append]
  constructor
  · intro respects
    refine ⟨fun made member => respects made (Or.inl member), ?_⟩
    intro activation held changed
    exact respects ⟨processedAtMs, activation⟩
      (Or.inr ((recorded _).mpr ⟨changed, activation, held, rfl⟩))
  · rintro ⟨earlier, inTime⟩ made member
    rcases member with old | new
    · exact earlier made old
    · obtain ⟨changed, activation, held, rfl⟩ := (recorded made).mp new
      exact inTime activation held changed

theorem respectsClock_payload {clockMs : Int} {ports : InboundPorts}
    {input : ApplyInboundInput}
    (executed : execute ports input host.device = some result)
    (respects : host.RespectsClock) :
    (host.settle clockMs result.2).RespectsClock ↔
      ¬ ActivatesAhead ports input clockMs host.device := by
  rw [respectsClock_settle]
  constructor
  · rintro ⟨_, inTime⟩ ⟨envelope, entryId, env, activates, wired, takes, ahead⟩
    have isAfter := activates.register
    rw [executed, Option.map_some, Option.some.injEq] at isAfter
    unfold advanceActiveRegister at isAfter
    simp only [wired] at isAfter
    have held := takes.activation
    have changes := takes.changes
    have sameRow : result.2.register = (advance env host.device.register
        (offeredState input envelope entryId)
          (ports.isMobileConsumable entryId)).2 := isAfter
    rw [← sameRow] at held changes
    have isInTime := inTime _ held changes
    exact absurd ahead (not_lt.mpr isInTime)
  · intro notAhead
    refine ⟨respects, ?_⟩
    intro activation held changed
    have rowChanged : result.2.register ≠ host.device.register := by
      intro same
      rw [same] at changed
      exact changed rfl
    obtain ⟨envelope, entryId, activates⟩ :=
      activates_of_execute executed rowChanged
    have isAfter := activates.register
    rw [executed, Option.map_some, Option.some.injEq] at isAfter
    unfold advanceActiveRegister at isAfter
    cases wired : ports.activeRegister with
    | none =>
        simp only [wired] at isAfter
        exact absurd isAfter rowChanged
    | some env =>
        simp only [wired] at isAfter
        have sameRow : result.2.register = (advance env host.device.register
            (offeredState input envelope entryId)
              (ports.isMobileConsumable entryId)).2 := isAfter
        rw [sameRow] at changed held
        have takes := takes_of_changed changed
        rw [takes.activation, Option.some.injEq] at held
        rw [← held]
        by_contra late
        exact notAhead ⟨envelope, entryId, env, activates, wired, takes,
          not_le.mp late⟩

/-! ## Runs -/

theorem tasksInTime_announce {env : InboundEnv}
    {inbound : InboundActiveClipboardState} (inTime : host.TasksInTime) :
    (host.announce env inbound).TasksInTime := by
  unfold announce
  split
  · rename_i task scheduled
    intro announced member
    rcases List.mem_append.mp member with old | new
    · exact inTime announced old
    · rw [List.mem_singleton] at new
      rw [new]
      exact handleOne_inTime scheduled
  · exact inTime
  · exact inTime

theorem announce_advances {env : InboundEnv}
    {inbound : InboundActiveClipboardState} :
    (host.announce env inbound).advances = host.advances := by
  unfold announce
  split <;> rfl

theorem taskWrite_kept {index : Nat} {succeeds : Bool}
    (wrote : host.taskWrite index succeeds = some next)
    (inTime : host.TasksInTime) :
    next.TasksInTime ∧ next.advances = host.advances := by
  unfold taskWrite at wrote
  split at wrote
  · cases wrote
  · rename_i announced found
    have present := List.mem_of_getElem? found
    split at wrote
    · cases wrote
    · split at wrote
      · cases wrote
        refine ⟨?_, rfl⟩
        intro other member
        rcases List.mem_or_eq_of_mem_set member with old | new
        · exact inTime other old
        · rw [new]
          exact inTime announced present
      · cases wrote
        exact ⟨fun other member =>
          inTime other (List.mem_of_mem_eraseIdx member), rfl⟩

theorem taskConverge_kept {index : Nat} {env : AdvanceEnv}
    (converged : host.taskConverge index env = some next)
    (inTime : host.TasksInTime) :
    next.TasksInTime ∧ (host.RespectsClock → next.RespectsClock) := by
  unfold taskConverge at converged
  split at converged
  · cases converged
  · rename_i announced found
    have present := List.mem_of_getElem? found
    split at converged
    · cases converged
      refine ⟨fun other member =>
        inTime other (List.mem_of_mem_eraseIdx member), ?_⟩
      intro respects
      rw [respectsClock_settle]
      refine ⟨respects, ?_⟩
      intro activation held changed
      rw [(takes_of_changed changed).activation, Option.some.injEq] at held
      rw [← held]
      exact inTime announced present
    · cases converged

theorem tasksInTime_step (stepped : host.step traffic = some next)
    (inTime : host.TasksInTime) :
    next.TasksInTime := by
  cases traffic with
  | announcement env inbound =>
      cases stepped
      exact tasksInTime_announce inTime
  | taskWrite index succeeds => exact (taskWrite_kept stepped inTime).1
  | taskConverge index env => exact (taskConverge_kept stepped inTime).1
  | payload clockMs ports input =>
      obtain ⟨result, _, isNext⟩ := Option.map_eq_some_iff.mp stepped
      rw [← isNext]
      exact inTime
  | localActivation env mobileConsumable nowMs currentDeviceId snapshotHash
      entryId =>
      cases stepped
      exact inTime

theorem respectsClock_step (stepped : host.step traffic = some next)
    (inTime : host.TasksInTime) (respects : host.RespectsClock) :
    next.RespectsClock ↔ activatesInTime host traffic := by
  cases traffic with
  | announcement env inbound =>
      cases stepped
      apply iff_of_true _ trivial
      unfold RespectsClock
      rw [announce_advances]
      exact respects
  | taskWrite index succeeds =>
      apply iff_of_true _ trivial
      unfold RespectsClock
      rw [(taskWrite_kept stepped inTime).2]
      exact respects
  | taskConverge index env =>
      exact iff_of_true ((taskConverge_kept stepped inTime).2 respects) trivial
  | payload clockMs ports input =>
      obtain ⟨result, executed, isNext⟩ := Option.map_eq_some_iff.mp stepped
      rw [← isNext]
      exact respectsClock_payload executed respects
  | localActivation env mobileConsumable nowMs currentDeviceId snapshotHash
      entryId =>
      cases stepped
      exact iff_of_true respects trivial

theorem activatesInTime_of_disabled (disabled : host.step traffic = none) :
    activatesInTime host traffic := by
  cases traffic with
  | payload clockMs ports input =>
      rintro ⟨envelope, entryId, env, activates, _⟩
      have isAfter := activates.register
      rw [Option.map_eq_none_iff.mp disabled] at isAfter
      cases isAfter
  | announcement env inbound => trivial
  | taskWrite index succeeds => trivial
  | taskConverge index env => trivial
  | localActivation env mobileConsumable nowMs currentDeviceId snapshotHash
      entryId => trivial

/-- Along any traffic every advance respects the clock, exactly if no payload
activates content ahead of it where it arrives. -/
theorem respectsClock_iff (device : InboundDevice)
    (traffic : List InboundTraffic) :
    (∀ done finish, done <+: traffic →
      Transition.execute step (start device) done = some finish →
        finish.RespectsClock) ↔
      Guarded step activatesInTime (start device) traffic := by
  have startsInTime : (start device).TasksInTime := by
    intro announced member
    cases member
  have inTime : ∀ done finish,
      Transition.execute step (start device) done = some finish →
        finish.TasksInTime := by
    intro done finish executed
    have run := Run.ofExecute (guarded_anyAction step _ done) executed
    exact run.preserves startsInTime fun before action after held _ stepped =>
      tasksInTime_step stepped held
  have throughout := @guarded_iff_history _ _ step activatesInTime
    (fun _ host => host.TasksInTime ∧ host.RespectsClock) [] traffic
    (start device)
    (fun _ _ _ disabled => activatesInTime_of_disabled disabled)
    (by
      rintro _ host action _ next ⟨held, respects⟩ stepped
      have still := tasksInTime_step stepped held
      rw [← respectsClock_step stepped held respects]
      exact ⟨And.right, fun nextRespects => ⟨still, nextRespects⟩⟩)
    ⟨startsInTime, fun made member => by cases member⟩
  rw [← throughout]
  constructor
  · intro respects done finish isPrefix executed
    exact ⟨inTime done finish executed,
      respects done finish isPrefix executed⟩
  · intro both done finish isPrefix executed
    exact (both done finish isPrefix executed).2

end InboundHost

namespace Sample

theorem desktop_bounded : "desktop".utf8ByteSize ≤ deviceIdMaxBytes := by
  decide

/-- A tablet whose clock is an hour ahead sends a text at 1000, and the user
activates something a minute later. -/
def fastClock : List InboundTraffic :=
  [.payload 1000 (ports 0 (text "tablet text" 3601000) none ⟨"tablet text"⟩)
      ⟨tablet, "tablet text", [], .remotePush⟩,
    .localActivation storage false 61000 ⟨"desktop", desktop_bounded⟩
      "own text" ⟨"own text"⟩]

end Sample

open Sample in
/-- The text is activated ahead of the clock and outlives what the user
activates. -/
theorem fastClock_pins_register :
    ¬ ∀ (device : InboundDevice) (traffic : List InboundTraffic) finish,
      Transition.execute InboundHost.step (InboundHost.start device) traffic =
        some finish → finish.RespectsClock := by
  intro respects
  have ran : (Transition.execute InboundHost.step
      (InboundHost.start emptyDevice) fastClock).map
        (fun host => (registerActivation host.device.register,
          host.advances)) =
      some (some ⟨"tablet text", 3601000, tablet⟩,
        [⟨1000, ⟨"tablet text", 3601000, tablet⟩⟩]) := by
    decide +kernel
  obtain ⟨finish, executed, seen⟩ := Option.map_eq_some_iff.mp ran
  have made : finish.advances =
      [⟨1000, ⟨"tablet text", 3601000, tablet⟩⟩] := congrArg Prod.snd seen
  have inTime := respects emptyDevice fastClock finish executed
    ⟨1000, ⟨"tablet text", 3601000, tablet⟩⟩
    (by rw [made]; exact List.mem_cons_self)
  exact absurd inTime (by decide)

end OpenClipboard.ApplyInbound
