import OpenClipboard.Delivery.Dispatch
import OpenClipboard.Library.Transition

/-!
# Dispatches whose drains overlap

Any number of dispatches are under way, each with its own drain, and their
steps interleave in any order.  The repository keeps the result recorded last,
whichever dispatch it is from.  Where no dispatch starts while an earlier one
owes the result of a common peer, that is the result of the last dispatch.
-/

namespace OpenClipboard.Delivery

open Transition

/-! ## Steps -/

namespace DispatchPass

/-- The result of one task is joined: in the foreground it is folded and kept
for later, in the drain it is kept until it is recorded. -/
def settle (deviceId : DeviceId) (taskEnd : TaskEnd) (nowMs : Int)
    (pass : DispatchPass) : Option DispatchPass :=
  let processed := classifyDispatchResult deviceId taskEnd pass.entryId nowMs
  if deviceId ∈ pass.inFlight then
    match pass.phase with
    | .foreground =>
        some { pass with
          inFlight := pass.inFlight.erase deviceId
          settled := pass.settled ++ [processed]
          unrecorded := pass.unrecorded ++ processed.deliveryRecord.toList }
    | .flushing => none
    | .background =>
        if pass.unrecorded.isEmpty then
          some { pass with
            inFlight := pass.inFlight.erase deviceId
            unrecorded := processed.deliveryRecord.toList }
        else
          none
  else
    none

/-- The deadline passes, or every task has been joined. -/
def deadline (pass : DispatchPass) : Option DispatchPass :=
  if pass.phase = .foreground then
    some { pass with phase := .flushing }
  else
    none

/-- `execute` answers and leaves the rest to its drain. -/
def finish (nowMs : Int) (pass : DispatchPass) : Option DispatchPass :=
  if pass.phase = .flushing ∧ pass.unrecorded = [] then
    some { pass with
      phase := .background
      outcome := some (pass.report nowMs) }
  else
    none

end DispatchPass

/-- The dispatches in the order they started, and what was recorded, by which
of them. -/
structure DeliveryWorld where
  table : EntryDeliveryTable
  passes : List DispatchPass
  recorded : List (Nat × EntryDeliveryRecord)

inductive DeliveryAction where
  | dispatch (env : DispatchEnv) (input : DispatchClipboardEntryInput)
  | settle (index : Nat) (deviceId : DeviceId) (taskEnd : TaskEnd)
      (nowMs : Int)
  | deadline (index : Nat)
  | flush (index : Nat) (failure : Option EntryDeliveryError)
  | finish (index : Nat) (nowMs : Int)

namespace DeliveryWorld

def start (table : EntryDeliveryTable) : DeliveryWorld := ⟨table, [], []⟩

/-- Let one dispatch take a step of its own. -/
def onPass (index : Nat) (act : DispatchPass → Option DispatchPass)
    (world : DeliveryWorld) : Option DeliveryWorld :=
  (world.passes[index]?).bind fun pass => (act pass).map fun after =>
    { world with passes := world.passes.set index after }

/-- Which dispatch recorded what, if the database took it. -/
def logAttempt (failure : Option EntryDeliveryError) (index : Nat)
    (record : EntryDeliveryRecord)
    (recorded : List (Nat × EntryDeliveryRecord)) :
    List (Nat × EntryDeliveryRecord) :=
  match failure with
  | some _ => recorded
  | none => recorded ++ [(index, record)]

/-- `DeliveryRecorder::flush` on the next record; its errors are only
warnings. -/
def flush (index : Nat) (failure : Option EntryDeliveryError)
    (world : DeliveryWorld) : Option DeliveryWorld :=
  match world.passes[index]? with
  | none => none
  | some pass =>
      if pass.phase = .foreground then
        none
      else
        match pass.unrecorded with
        | [] => none
        | record :: rest =>
            some {
              table := recordAttempt failure record world.table
              passes := world.passes.set index { pass with unrecorded := rest }
              recorded :=
                logAttempt failure index record world.recorded }

def step (world : DeliveryWorld) : DeliveryAction → Option DeliveryWorld
  | .dispatch env input =>
      match execute env input with
      | .error _ => some world
      | .ok pass => some { world with passes := world.passes ++ [pass] }
  | .settle index deviceId taskEnd nowMs =>
      world.onPass index (DispatchPass.settle deviceId taskEnd nowMs)
  | .deadline index => world.onPass index DispatchPass.deadline
  | .flush index failure => world.flush index failure
  | .finish index nowMs => world.onPass index (DispatchPass.finish nowMs)

/-- The last record about a pair. -/
def latest (recorded : List (Nat × EntryDeliveryRecord))
    (key : EntryId × DeviceId) : Option EntryDeliveryRecord :=
  recorded.foldl
    (fun found write => if write.2.key = key then some write.2 else found) none

/-- Every row is the last one recorded for its pair. -/
def HoldsLatest (initial : EntryDeliveryTable) (world : DeliveryWorld) : Prop :=
  ∀ key, world.table.find key =
    ((latest world.recorded key).map EntryDeliveryRecord.newRow).or
      (initial.find key)

/-- Every outcome accounts for all the peers of its dispatch. -/
def OutcomesAddUp (world : DeliveryWorld) : Prop :=
  ∀ pass ∈ world.passes, ∀ outcome, pass.outcome = some outcome →
    outcome.accounted = pass.candidates.length

/-- After a dispatch has recorded that an entry was delivered to a peer, no
earlier one records a result for the two. -/
def DeliveredStays (world : DeliveryWorld) : Prop :=
  world.recorded.Pairwise fun earlier later =>
    earlier.2.status = .delivered → later.2.key = earlier.2.key →
      earlier.1 ≤ later.1

end DeliveryWorld

/-- The result of a peer has yet to be recorded. -/
def DispatchPass.Owes (pass : DispatchPass) (deviceId : DeviceId) : Prop :=
  deviceId ∈ pass.inFlight ∨
    ∃ record ∈ pass.unrecorded, record.targetDeviceId = deviceId

/-- No earlier dispatch of the entry owes the result of a peer of this one. -/
def DeliveryWorld.Alone (world : DeliveryWorld) (pass : DispatchPass) : Prop :=
  ∀ earlier ∈ world.passes, pass.entryId.isSome = true →
    earlier.entryId = pass.entryId → ∀ deviceId ∈ pass.candidates,
      ¬ earlier.Owes deviceId

def startsAlone (world : DeliveryWorld) : DeliveryAction → Prop
  | .dispatch env input =>
      ∀ pass ∈ (execute env input).toOption, world.Alone pass
  | _ => True

instance decidableOwes (pass : DispatchPass) (deviceId : DeviceId) :
    Decidable (pass.Owes deviceId) :=
  inferInstanceAs (Decidable (_ ∨ _))

instance decidableAlone (world : DeliveryWorld) (pass : DispatchPass) :
    Decidable (world.Alone pass) :=
  inferInstanceAs (Decidable (∀ earlier ∈ world.passes, _))

instance decidableStartsAlone (world : DeliveryWorld) :
    ∀ action, Decidable (startsAlone world action)
  | .dispatch env input =>
      inferInstanceAs
        (Decidable (∀ pass ∈ (execute env input).toOption, world.Alone pass))
  | .settle _ _ _ _ => isTrue trivial
  | .deadline _ => isTrue trivial
  | .flush _ _ => isTrue trivial
  | .finish _ _ => isTrue trivial

/-! ## The last result recorded -/

variable {index : Nat} {action : DeliveryAction} {deviceId : DeviceId}
  {nowMs : Int} {taskEnd : TaskEnd}

namespace DeliveryWorld

variable {world next : DeliveryWorld} {initial : EntryDeliveryTable}

theorem latest_append (recorded : List (Nat × EntryDeliveryRecord))
    (write : Nat × EntryDeliveryRecord) (key : EntryId × DeviceId) :
    latest (recorded ++ [write]) key =
      if write.2.key = key then some write.2 else latest recorded key := by
  unfold latest
  rw [List.foldl_append]
  rfl

theorem HoldsLatest.recordAttempt {record : EntryDeliveryRecord}
    {passes : List DispatchPass} (holds : world.HoldsLatest initial) :
    HoldsLatest initial {
      table := Delivery.recordAttempt none record world.table
      passes := passes
      recorded := world.recorded ++ [(index, record)] } := by
  intro key
  have found : (Delivery.recordAttempt none record world.table).find key =
      if key = record.key then some record.newRow else world.table.find key :=
    Table.find_put
  rw [found, latest_append]
  by_cases same : key = record.key
  · simp [same]
  · rw [if_neg same, if_neg (Ne.symm same)]
    exact holds key

theorem onPass_some {act : DispatchPass → Option DispatchPass}
    (acted : world.onPass index act = some next) :
    ∃ pass after, world.passes[index]? = some pass ∧ act pass = some after ∧
      next = { world with passes := world.passes.set index after } := by
  obtain ⟨pass, found, rest⟩ := Option.bind_eq_some_iff.mp acted
  obtain ⟨after, isAfter, isNext⟩ := Option.map_eq_some_iff.mp rest
  exact ⟨pass, after, found, isAfter, isNext.symm⟩

theorem flush_some {failure : Option EntryDeliveryError}
    (flushed : world.flush index failure = some next) :
    ∃ pass record rest, world.passes[index]? = some pass ∧
      pass.unrecorded = record :: rest ∧
      next = {
        table := Delivery.recordAttempt failure record world.table
        passes := world.passes.set index { pass with unrecorded := rest }
        recorded := logAttempt failure index record world.recorded } := by
  unfold flush at flushed
  split at flushed
  · cases flushed
  · rename_i pass found
    split at flushed
    · cases flushed
    · split at flushed
      · cases flushed
      · rename_i record rest isNext
        cases flushed
        exact ⟨pass, record, rest, found, isNext, rfl⟩

theorem holdsLatest_step (stepped : world.step action = some next)
    (holds : world.HoldsLatest initial) : next.HoldsLatest initial := by
  have ofPass : ∀ {index act}, world.onPass index act = some next →
      next.HoldsLatest initial := by
    intro index act acted
    obtain ⟨_, _, _, _, isNext⟩ := onPass_some acted
    rw [isNext]
    exact holds
  cases action with
  | dispatch env input =>
      unfold step at stepped
      simp only at stepped
      split at stepped <;> cases stepped <;> exact holds
  | settle index deviceId taskEnd nowMs => exact ofPass stepped
  | deadline index => exact ofPass stepped
  | finish index nowMs => exact ofPass stepped
  | flush index failure =>
      obtain ⟨pass, record, rest, _, _, isNext⟩ := flush_some stepped
      rw [isNext]
      cases failure with
      | some err => exact holds
      | none => exact holds.recordAttempt

/-! ## The outcomes -/

end DeliveryWorld

namespace DispatchPass

variable {pass after : DispatchPass}

/-- Until it answers, a dispatch has settled what is no longer in flight; its
answer accounts for every peer. -/
structure Counted (pass : DispatchPass) : Prop where
  candidates : pass.phase ≠ .background →
    pass.settled.length + pass.inFlight.length = pass.candidates.length
  outcome : ∀ outcome, pass.outcome = some outcome →
    outcome.accounted = pass.candidates.length

theorem accounted_report (nowMs : Int) :
    (pass.report nowMs).accounted =
      pass.settled.length + pass.inFlight.length := by
  have buckets : ∀ settled : List ProcessedDispatchResult,
      (settled.countP fun processed => processed.bucket = .accepted) +
        (settled.countP fun processed => processed.bucket = .duplicate) +
        (settled.countP fun processed => processed.bucket = .offline) +
        ((settled.countP fun processed => processed.bucket = .errored) +
          (settled.countP fun processed => processed.bucket = .panicked)) =
        settled.length := by
    intro settled
    induction settled with
    | nil => rfl
    | cons head tail inductionHypothesis =>
        simp only [List.countP_cons, List.length_cons]
        cases isBucket : head.bucket <;> simp <;> omega
  unfold report DispatchOutcome.accounted countOf
  have total := buckets pass.settled
  simp only
  omega

theorem Counted.settle (counted : pass.Counted)
    (settled : pass.settle deviceId taskEnd nowMs = some after) :
    after.Counted := by
  unfold DispatchPass.settle at settled
  simp only at settled
  split at settled
  · rename_i member
    split at settled
    · rename_i isForeground
      cases settled
      refine ⟨?_, counted.outcome⟩
      intro _
      have before := counted.candidates (by rw [isForeground]; decide)
      have erased := List.length_erase_of_mem member
      have positive := List.length_pos_of_mem member
      simp only [List.length_append, List.length_cons, List.length_nil]
      omega
    · cases settled
    · rename_i isBackground
      split at settled
      · cases settled
        exact ⟨fun notBackground => absurd isBackground notBackground,
          counted.outcome⟩
      · cases settled
  · cases settled

theorem Counted.deadline (counted : pass.Counted)
    (passed : pass.deadline = some after) : after.Counted := by
  unfold DispatchPass.deadline at passed
  split at passed
  · rename_i isForeground
    cases passed
    exact ⟨fun _ => counted.candidates (by rw [isForeground]; decide),
      counted.outcome⟩
  · cases passed

theorem Counted.finish (counted : pass.Counted)
    (finished : pass.finish nowMs = some after) : after.Counted := by
  unfold DispatchPass.finish at finished
  split at finished
  · rename_i isFlushing
    cases finished
    refine ⟨fun notBackground => absurd rfl notBackground, ?_⟩
    intro outcome isOutcome
    cases isOutcome
    rw [accounted_report]
    exact counted.candidates (by rw [isFlushing.1]; decide)
  · cases finished

theorem counted_execute {env : DispatchEnv}
    {input : DispatchClipboardEntryInput}
    (executed : execute env input = .ok pass) : pass.Counted := by
  unfold execute at executed
  split at executed
  · cases executed
  · cases executed
  · split at executed
    · cases executed
    · rename_i candidates _
      split at executed
      · rename_i isEmpty
        cases executed
        refine ⟨fun notBackground => absurd rfl notBackground, ?_⟩
        intro outcome isOutcome
        cases isOutcome
        rw [accounted_report]
        simp
      · cases executed
        refine ⟨fun _ => by simp, ?_⟩
        intro outcome isOutcome
        cases isOutcome

end DispatchPass

namespace DeliveryWorld

theorem passes_step {own : DispatchPass → Prop} {world next : DeliveryWorld}
    (stepped : world.step action = some next)
    (started : ∀ env input pass, execute env input = .ok pass → own pass)
    (settles : ∀ pass deviceId taskEnd nowMs after, own pass →
      pass.settle deviceId taskEnd nowMs = some after → own after)
    (deadlines : ∀ pass after, own pass → pass.deadline = some after →
      own after)
    (finishes : ∀ pass nowMs after, own pass →
      pass.finish nowMs = some after → own after)
    (flushes : ∀ pass record rest, own pass →
      pass.unrecorded = record :: rest → own { pass with unrecorded := rest })
    (holds : ∀ pass ∈ world.passes, own pass) :
    ∀ pass ∈ next.passes, own pass := by
  have replaced : ∀ {index : Nat} {pass after : DispatchPass},
      world.passes[index]? = some pass → (own pass → own after) →
        ∀ other ∈ world.passes.set index after, own other := by
    intro index pass after found keeps other member
    rcases List.mem_or_eq_of_mem_set member with old | new
    · exact holds other old
    · rw [new]
      exact keeps (holds pass (List.mem_of_getElem? found))
  have ofPass : ∀ {index act}, world.onPass index act = some next →
      (∀ pass after, own pass → act pass = some after → own after) →
        ∀ pass ∈ next.passes, own pass := by
    intro index act acted keeps
    obtain ⟨pass, after, found, isAfter, isNext⟩ := onPass_some acted
    rw [isNext]
    exact replaced found fun isOwn => keeps pass after isOwn isAfter
  cases action with
  | dispatch env input =>
      unfold step at stepped
      simp only at stepped
      split at stepped
      · cases stepped
        exact holds
      · rename_i pass executed
        cases stepped
        intro other member
        rcases List.mem_append.mp member with old | new
        · exact holds other old
        · rw [List.mem_singleton] at new
          rw [new]
          exact started env input pass executed
  | settle index deviceId taskEnd nowMs =>
      exact ofPass stepped fun pass after isOwn =>
        settles pass deviceId taskEnd nowMs after isOwn
  | deadline index => exact ofPass stepped deadlines
  | finish index nowMs =>
      exact ofPass stepped fun pass after isOwn =>
        finishes pass nowMs after isOwn
  | flush index failure =>
      obtain ⟨pass, record, rest, found, isNextRecord, isNext⟩ :=
        flush_some stepped
      rw [isNext]
      exact replaced found fun isOwn =>
        flushes pass record rest isOwn isNextRecord

theorem counted_step {world next : DeliveryWorld}
    (stepped : world.step action = some next)
    (counted : ∀ pass ∈ world.passes, pass.Counted) :
    ∀ pass ∈ next.passes, pass.Counted :=
  passes_step stepped
    (fun _ _ _ executed => DispatchPass.counted_execute executed)
    (fun _ _ _ _ _ before settled => before.settle settled)
    (fun _ _ before passed => before.deadline passed)
    (fun _ _ _ before finished => before.finish finished)
    (fun _ _ _ before _ => ⟨before.candidates, before.outcome⟩)
    counted

end DeliveryWorld

/-! ## The order of the records of a pair -/

namespace DispatchPass

variable {pass after : DispatchPass}

/-- What is owed is a result of the dispatch. -/
structure OwesItsOwn (pass : DispatchPass) : Prop where
  inFlight : ∀ deviceId ∈ pass.inFlight, deviceId ∈ pass.candidates
  unrecorded : ∀ record ∈ pass.unrecorded,
    pass.entryId = some record.entryId ∧
      record.targetDeviceId ∈ pass.candidates

/-- A step of a dispatch takes on no new debt. -/
structure Continues (pass after : DispatchPass) : Prop where
  entryId : after.entryId = pass.entryId
  candidates : after.candidates = pass.candidates
  owes : ∀ deviceId, after.Owes deviceId → pass.Owes deviceId

theorem owesItsOwn_execute {env : DispatchEnv}
    {input : DispatchClipboardEntryInput}
    (executed : execute env input = .ok pass) : pass.OwesItsOwn := by
  unfold execute at executed
  split at executed
  · cases executed
  · cases executed
  · split at executed
    · cases executed
    · simp only at executed
      split at executed <;> cases executed
      · exact ⟨fun _ member => member, fun _ member => by cases member⟩
      · exact ⟨fun _ member => member, fun _ member => by cases member⟩

theorem settle_some (settled : pass.settle deviceId taskEnd nowMs = some after)
    :
    deviceId ∈ pass.inFlight ∧
      after.entryId = pass.entryId ∧
      after.candidates = pass.candidates ∧
      after.inFlight = pass.inFlight.erase deviceId ∧
      ∀ record ∈ after.unrecorded, record ∈ pass.unrecorded ∨
        (classifyDispatchResult deviceId taskEnd pass.entryId
          nowMs).deliveryRecord = some record := by
  unfold settle at settled
  simp only at settled
  split at settled
  · rename_i member
    split at settled
    · cases settled
      refine ⟨member, rfl, rfl, rfl, ?_⟩
      intro record inRecords
      rcases List.mem_append.mp inRecords with old | new
      · exact Or.inl old
      · exact Or.inr (Option.mem_toList.mp new)
    · cases settled
    · split at settled
      · cases settled
        refine ⟨member, rfl, rfl, rfl, ?_⟩
        intro record inRecords
        exact Or.inr (Option.mem_toList.mp inRecords)
      · cases settled
  · cases settled

theorem OwesItsOwn.settle (own : pass.OwesItsOwn)
    (settled : pass.settle deviceId taskEnd nowMs = some after) :
    after.OwesItsOwn := by
  obtain ⟨member, sameEntry, sameCandidates, erased, records⟩ :=
    settle_some settled
  constructor
  · intro other inFlight
    rw [erased] at inFlight
    rw [sameCandidates]
    exact own.inFlight other (List.mem_of_mem_erase inFlight)
  · intro record inRecords
    rw [sameEntry, sameCandidates]
    rcases records record inRecords with old | new
    · exact own.unrecorded record old
    · obtain ⟨isEntry, isDevice⟩ := key_of_classifyDispatchResult new
      rw [← isDevice]
      exact ⟨isEntry, own.inFlight deviceId member⟩

theorem Continues.settle
    (settled : pass.settle deviceId taskEnd nowMs = some after) :
    pass.Continues after := by
  obtain ⟨member, sameEntry, sameCandidates, erased, records⟩ :=
    settle_some settled
  refine ⟨sameEntry, sameCandidates, ?_⟩
  rintro other (inFlight | ⟨record, inRecords, isOther⟩)
  · rw [erased] at inFlight
    exact Or.inl (List.mem_of_mem_erase inFlight)
  · rcases records record inRecords with old | new
    · exact Or.inr ⟨record, old, isOther⟩
    · rw [← isOther, ← (key_of_classifyDispatchResult new).2]
      exact Or.inl member

theorem Continues.deadline (passed : pass.deadline = some after) :
    pass.Continues after := by
  unfold DispatchPass.deadline at passed
  split at passed
  · cases passed
    exact ⟨rfl, rfl, fun _ owed => owed⟩
  · cases passed

theorem Continues.finish
    (finished : pass.finish nowMs =
    some after) : pass.Continues after := by
  unfold DispatchPass.finish at finished
  split at finished
  · cases finished
    exact ⟨rfl, rfl, fun _ owed => owed⟩
  · cases finished

theorem Continues.flush {record : EntryDeliveryRecord}
    {rest : List EntryDeliveryRecord}
    (isNext : pass.unrecorded = record :: rest) :
    pass.Continues { pass with unrecorded := rest } := by
  refine ⟨rfl, rfl, ?_⟩
  rintro deviceId (inFlight | ⟨other, inRest, isDevice⟩)
  · exact Or.inl inFlight
  · refine Or.inr ⟨other, ?_, isDevice⟩
    rw [isNext]
    exact List.mem_cons_of_mem record inRest

theorem OwesItsOwn.same (own : pass.OwesItsOwn)
    (sameEntry : after.entryId = pass.entryId)
    (sameCandidates : after.candidates = pass.candidates)
    (sameInFlight : after.inFlight = pass.inFlight)
    (fewer : ∀ record ∈ after.unrecorded, record ∈ pass.unrecorded) :
    after.OwesItsOwn := by
  constructor
  · rw [sameInFlight, sameCandidates]
    exact own.inFlight
  · intro record inRecords
    rw [sameEntry, sameCandidates]
    exact own.unrecorded record (fewer record inRecords)

end DispatchPass

namespace DeliveryWorld

variable {world next : DeliveryWorld}

theorem owesItsOwn_step (stepped : world.step action = some next)
    (own : ∀ pass ∈ world.passes, pass.OwesItsOwn) :
    ∀ pass ∈ next.passes, pass.OwesItsOwn := by
  refine passes_step stepped
    (fun _ _ _ executed => DispatchPass.owesItsOwn_execute executed)
    (fun _ _ _ _ _ before settled => before.settle settled) ?_ ?_ ?_ own
  · intro pass after before passed
    unfold DispatchPass.deadline at passed
    split at passed <;> cases passed
    exact before.same rfl rfl rfl fun _ member => member
  · intro pass nowMs after before finished
    unfold DispatchPass.finish at finished
    split at finished <;> cases finished
    exact before.same rfl rfl rfl fun _ member => member
  · intro pass record rest before isNext
    refine before.same rfl rfl rfl ?_
    intro other member
    rw [isNext]
    exact List.mem_cons_of_mem record member

/-- A dispatch owes no result of a peer of a later one of its entry, and the
records of a pair are in the order of their dispatches. -/
structure Ordered (world : DeliveryWorld) : Prop where
  owned : ∀ write ∈ world.recorded, ∃ pass,
    world.passes[write.1]? = some pass ∧
      pass.entryId = some write.2.entryId ∧
      write.2.targetDeviceId ∈ pass.candidates
  settledBefore : ∀ (index laterIndex : Nat) (pass later : DispatchPass)
    (entryId : EntryId), index < laterIndex →
    world.passes[index]? = some pass →
    world.passes[laterIndex]? = some later →
    pass.entryId = some entryId → later.entryId = some entryId →
      ∀ deviceId ∈ later.candidates, ¬ pass.Owes deviceId
  inOrder : world.recorded.Pairwise fun earlier later =>
    later.2.key = earlier.2.key → earlier.1 ≤ later.1

theorem Ordered.continues {pass after : DispatchPass}
    {table : EntryDeliveryTable} (ordered : world.Ordered)
    (found : world.passes[index]? = some pass)
    (continues : pass.Continues after) :
    Ordered {
      table := table
      passes := world.passes.set index after
      recorded := world.recorded } := by
  have back : ∀ (other : Nat) (later : DispatchPass),
      (world.passes.set index after)[other]? = some later →
        ∃ before : DispatchPass, world.passes[other]? = some before ∧
          before.Continues later := by
    intro other later isLater
    rw [List.getElem?_set] at isLater
    split at isLater
    · rename_i same
      subst same
      split at isLater
      · cases isLater
        exact ⟨pass, found, continues⟩
      · cases isLater
    · exact ⟨later, isLater, rfl, rfl, fun _ owed => owed⟩
  have forth : ∀ (other : Nat) (before : DispatchPass),
      world.passes[other]? = some before →
        ∃ later, (world.passes.set index after)[other]? = some later ∧
          before.Continues later := by
    intro other before isBefore
    by_cases same : index = other
    · subst same
      rw [found] at isBefore
      cases isBefore
      refine ⟨after, ?_, continues⟩
      rw [List.getElem?_set_self]
      exact (List.getElem?_eq_some_iff.mp found).1
    · refine ⟨before, ?_, rfl, rfl, fun _ owed => owed⟩
      rw [List.getElem?_set_ne same]
      exact isBefore
  refine ⟨?_, ?_, ordered.inOrder⟩
  · intro write member
    obtain ⟨before, isBefore, isEntry, isPeer⟩ := ordered.owned write member
    obtain ⟨later, isLater, carries⟩ := forth _ before isBefore
    refine ⟨later, isLater, ?_, ?_⟩
    · rw [carries.entryId]
      exact isEntry
    · rw [carries.candidates]
      exact isPeer
  · intro first second one other entryId inOrder isOne isOther ofOne ofOther
      deviceId isPeer owes
    obtain ⟨oneBefore, wasOne, oneCarries⟩ := back first one isOne
    obtain ⟨otherBefore, wasOther, otherCarries⟩ := back second other isOther
    rw [oneCarries.entryId] at ofOne
    rw [otherCarries.entryId] at ofOther
    rw [otherCarries.candidates] at isPeer
    exact ordered.settledBefore first second oneBefore otherBefore entryId
      inOrder wasOne wasOther ofOne ofOther deviceId isPeer
      (oneCarries.owes deviceId owes)

theorem Ordered.dispatch {pass : DispatchPass} (ordered : world.Ordered)
    (alone : world.Alone pass) :
    Ordered { world with passes := world.passes ++ [pass] } := by
  refine ⟨?_, ?_, ordered.inOrder⟩
  · intro write member
    obtain ⟨before, isBefore, rest⟩ := ordered.owned write member
    refine ⟨before, ?_, rest⟩
    have inside := (List.getElem?_eq_some_iff.mp isBefore).1
    rw [List.getElem?_append_left inside]
    exact isBefore
  · intro first second one other entryId inOrder isOne isOther ofOne ofOther
      deviceId isPeer
    have secondInside := (List.getElem?_eq_some_iff.mp isOther).1
    simp only [List.length_append, List.length_cons, List.length_nil]
      at secondInside
    have firstInside : first < world.passes.length := by omega
    simp only at isOne isOther
    rw [List.getElem?_append_left firstInside] at isOne
    by_cases isOld : second < world.passes.length
    · rw [List.getElem?_append_left isOld] at isOther
      exact ordered.settledBefore first second one other entryId inOrder isOne
        isOther ofOne ofOther deviceId isPeer
    · have isLast : second = world.passes.length := by omega
      rw [isLast, List.getElem?_concat_length] at isOther
      cases isOther
      have hasEntry : pass.entryId.isSome = true := by
        rw [ofOther]
        rfl
      exact alone one (List.mem_of_getElem? isOne) hasEntry
        (ofOne.trans ofOther.symm) deviceId isPeer

theorem Ordered.record {pass : DispatchPass} {record : EntryDeliveryRecord}
    (ordered : world.Ordered) (own : pass.OwesItsOwn)
    (found : world.passes[index]? = some pass) (owed : record ∈ pass.unrecorded)
    :
    Ordered { world with recorded := world.recorded ++ [(index, record)] } := by
  obtain ⟨isEntry, isPeer⟩ := own.unrecorded record owed
  refine ⟨?_, ordered.settledBefore, ?_⟩
  · intro write member
    rcases List.mem_append.mp member with old | new
    · exact ordered.owned write old
    · rw [List.mem_singleton] at new
      rw [new]
      exact ⟨pass, found, isEntry, isPeer⟩
  · simp only
    rw [List.pairwise_append]
    refine ⟨ordered.inOrder, List.pairwise_singleton _ _, ?_⟩
    intro earlier member later isLater sameKey
    rw [List.mem_singleton] at isLater
    subst isLater
    by_contra notBefore
    -- The earlier record is of a dispatch that started later, so this one
    -- owed nothing to the peer any more.
    obtain ⟨other, isOther, ofOther, itsPeer⟩ := ordered.owned earlier member
    obtain ⟨sameEntry, samePeer⟩ := Prod.mk.inj sameKey
    rw [← sameEntry] at ofOther
    rw [← samePeer] at itsPeer
    exact ordered.settledBefore index earlier.1 pass other record.entryId
      (not_le.mp notBefore) found isOther isEntry ofOther
      record.targetDeviceId itsPeer (Or.inr ⟨record, owed, rfl⟩)

theorem ordered_step (stepped : world.step action = some next)
    (alone : startsAlone world action)
    (own : ∀ pass ∈ world.passes, pass.OwesItsOwn) (ordered : world.Ordered) :
    next.Ordered := by
  have ofPass : ∀ {index act}, world.onPass index act = some next →
      (∀ pass after, act pass = some after → pass.Continues after) →
        next.Ordered := by
    intro index act acted continues
    obtain ⟨pass, after, found, isAfter, isNext⟩ := onPass_some acted
    rw [isNext]
    exact ordered.continues found (continues pass after isAfter)
  cases action with
  | dispatch env input =>
      unfold step at stepped
      unfold startsAlone at alone
      cases executed : execute env input with
      | error err =>
          simp only [executed] at stepped
          cases stepped
          exact ordered
      | ok pass =>
          simp only [executed] at stepped
          cases stepped
          exact ordered.dispatch (alone pass (by rw [executed]; rfl))
  | settle index deviceId taskEnd nowMs =>
      exact ofPass stepped fun _ _ settled => .settle settled
  | deadline index => exact ofPass stepped fun _ _ passed => .deadline passed
  | finish index nowMs =>
      exact ofPass stepped fun _ _ finished => .finish finished
  | flush index failure =>
      obtain ⟨pass, record, rest, found, isNextRecord, isNext⟩ :=
        flush_some stepped
      rw [isNext]
      have itsOwn := own pass (List.mem_of_getElem? found)
      have continues := DispatchPass.Continues.flush isNextRecord
      cases failure with
      | some err => exact ordered.continues found continues
      | none =>
          have owed : record ∈ pass.unrecorded := by
            rw [isNextRecord]
            exact List.mem_cons_self
          exact (ordered.record itsOwn found owed).continues found continues

/-! ## Whole runs -/

theorem holdsLatest_start (table : EntryDeliveryTable) :
    (start table).HoldsLatest table := by
  intro key
  rfl

theorem ordered_start (table : EntryDeliveryTable) :
    (start table).Ordered := by
  refine ⟨?_, ?_, List.Pairwise.nil⟩
  · intro write member
    cases member
  · intro index laterIndex pass later entryId _ isPass
    cases isPass

/-- The result recorded last is the one kept, every outcome accounts for the
peers of its dispatch, and where each dispatch starts alone no result of an
earlier one comes after a delivery. -/
theorem deliveryStatus_holds {table : EntryDeliveryTable}
    {actions : List DeliveryAction} {finish : DeliveryWorld}
    (executed : Transition.execute step (start table) actions = some finish) :
    finish.HoldsLatest table ∧ finish.OutcomesAddUp ∧
      (Guarded step startsAlone (start table) actions →
        finish.DeliveredStays) := by
  have run := Run.ofExecute (guarded_anyAction step _ actions) executed
  have latestHolds : finish.HoldsLatest table :=
    run.preserves (holdsLatest_start table)
      fun _ _ _ holds _ stepped => holdsLatest_step stepped holds
  have counted : ∀ pass ∈ finish.passes, pass.Counted :=
    @Run.preserves _ _ _ _ _ _ (fun world => ∀ pass ∈ world.passes,
        pass.Counted) run
      (fun _ member => absurd member List.not_mem_nil)
      fun _ _ _ holds _ stepped => counted_step stepped holds
  refine ⟨latestHolds, fun pass member => (counted pass member).outcome, ?_⟩
  intro guarded
  have ordered := @Run.preserves _ _ _ _ _ _
    (fun world => (∀ pass ∈ world.passes, pass.OwesItsOwn) ∧ world.Ordered)
    (Run.ofExecute guarded executed)
    ⟨fun _ member => absurd member List.not_mem_nil, ordered_start table⟩
    fun _ _ _ holds alone stepped =>
      ⟨owesItsOwn_step stepped holds.1,
        ordered_step stepped alone holds.1 holds.2⟩
  apply ordered.2.inOrder.imp
  intro earlier later inOrder _ sameKey
  exact inOrder sameKey

end DeliveryWorld

namespace Sample

def phone : DeviceId := { asStr := "handset" }

def env : DispatchEnv where
  encrypt := .ok
  localDevice := { asStr := "desktop" }
  peerAddresses := .ok [phone]
  memberRepo := fun _ => .ok none
  nowMs := 0

def input : DispatchClipboardEntryInput where
  plaintext := []
  snapshotHash := "blake3v1:text"
  categories := .empty
  entryId := some ⟨"entry"⟩
  targetFilter := none

def accepted : TaskEnd := .finished .online (.ok .accepted)

def unreachable : TaskEnd := .finished .unknown (.error .offline)

/-- A send to a peer that cannot be reached, and a resend that can. -/
def sentTwice : List DeliveryAction :=
  [.dispatch env input, .settle 0 phone unreachable 100, .deadline 0,
    .flush 0 none, .finish 0 110,
    .dispatch env input, .settle 1 phone accepted 200, .deadline 1,
    .flush 1 none, .finish 1 210]

/-- The resend starts, and is accepted, while the send is still dialing. -/
def resentWhileDialing : List DeliveryAction :=
  [.dispatch env input, .deadline 0, .finish 0 5000,
    .dispatch env input, .settle 1 phone accepted 5100, .deadline 1,
    .flush 1 none, .finish 1 5110,
    .settle 0 phone unreachable 5200, .flush 0 none]

end Sample

open Sample in
theorem sentTwice_stays_delivered :
    ∃ finish, Transition.execute DeliveryWorld.step (DeliveryWorld.start ∅)
        sentTwice = some finish ∧
      finish.recorded.map (fun write => write.2.status) =
        [.unreachable, .delivered] ∧
      finish.OutcomesAddUp ∧ finish.DeliveredStays := by
  have ran : (Transition.execute DeliveryWorld.step (DeliveryWorld.start ∅)
      sentTwice).map (fun world =>
        world.recorded.map fun write => write.2.status) =
      some [.unreachable, .delivered] := by
    decide +kernel
  obtain ⟨finish, executed, statuses⟩ := Option.map_eq_some_iff.mp ran
  have guarded : Guarded DeliveryWorld.step startsAlone
      (DeliveryWorld.start ∅) sentTwice := by
    decide +kernel
  obtain ⟨_, addUp, stays⟩ := DeliveryWorld.deliveryStatus_holds executed
  exact ⟨finish, executed, statuses, addUp, stays guarded⟩

open Sample in
/-- The send finds the peer unreachable after the resend has delivered. -/
theorem resentWhileDialing_overwrites :
    ¬ ∀ (table : EntryDeliveryTable) (actions : List DeliveryAction) finish,
      Transition.execute DeliveryWorld.step (DeliveryWorld.start table)
        actions = some finish → finish.DeliveredStays := by
  intro stays
  have ran : (Transition.execute DeliveryWorld.step (DeliveryWorld.start ∅)
      resentWhileDialing).map DeliveryWorld.recorded =
      some [(1, ⟨⟨"entry"⟩, phone, .delivered, none, 5100⟩),
        (0, ⟨⟨"entry"⟩, phone, .unreachable, none, 5200⟩)] := by
    decide +kernel
  obtain ⟨finish, executed, recorded⟩ := Option.map_eq_some_iff.mp ran
  have inOrder := stays ∅ resentWhileDialing finish executed
  rw [DeliveryWorld.DeliveredStays, recorded, List.pairwise_pair] at inOrder
  exact absurd (inOrder rfl rfl) (by decide)

end OpenClipboard.Delivery
