import OpenClipboard.MobileEngine.Ticks
import Mathlib.Data.List.Sort

/-!
# What the loop guard reports

Over a run of recorded syncs the buffer of the guard is the part of the history
that lies in the window, and the guard trips exactly on the direction changes of
one content there.
-/

namespace OpenClipboard.MobileEngine

structure SyncEvent where
  direction : LoopDirection
  hash : Option String
  atMillis : Int
  deriving DecidableEq

section Guard

variable {Entry : Type} (casing : Uppercase) (cfg : SyncConfig)

def SyncEvent.recorded (event : SyncEvent) : Option LoopGuardEvent :=
  (nonemptyHash event.hash).map fun hash =>
    ⟨casing.toUppercase hash, event.direction, event.atMillis⟩

def SyncEvent.check (st : RuntimeState Entry) (event : SyncEvent) :
    RuntimeState Entry × Bool :=
  recordAndCheck casing st event.direction event.hash event.atMillis cfg

/-- The state after a run of syncs. -/
def recordAll (st : RuntimeState Entry) (events : List SyncEvent) :
    RuntimeState Entry :=
  events.foldl (fun st event => (event.check casing cfg st).1) st

/-- The syncs that have a hash, with the case folded. -/
def history (events : List SyncEvent) : List LoopGuardEvent :=
  events.filterMap (SyncEvent.recorded casing)

/-- The direction changes of a content among its own syncs in the window that
ends at an instant. -/
def flipsOf (events : List LoopGuardEvent) (hash : String)
    (windowMs ending : Int) : Int :=
  flips (events.filter fun event =>
    decide (event.hash = hash ∧ ending - windowMs ≤ event.atMillis))

/-- The buffer after a history: the last sync, and what was in its window. -/
def bufferOf (windowMs : Int) (events : List LoopGuardEvent) :
    List LoopGuardEvent :=
  match events.getLast? with
  | none => []
  | some latest =>
      events.dropLast.filter (fun event =>
        decide (latest.atMillis - windowMs ≤ event.atMillis)) ++ [latest]

def InOrderOfTime (events : List LoopGuardEvent) : Prop :=
  events.Pairwise fun earlier later => earlier.atMillis ≤ later.atMillis

end Guard

section Buffer

variable {casing : Uppercase} {windowMs : Int}
variable {events : List LoopGuardEvent} {latest : LoopGuardEvent}

theorem record_eq (buffer : List LoopGuardEvent) (event : SyncEvent) :
    record casing buffer event.direction event.hash event.atMillis windowMs =
      match event.recorded casing with
      | none => buffer
      | some latest =>
          buffer.filter (fun other =>
            decide (latest.atMillis - windowMs ≤ other.atMillis)) ++
              [latest] := by
  unfold record SyncEvent.recorded nonemptyHash
  cases event.hash with
  | none => rfl
  | some hash =>
      by_cases isEmpty : hash = ""
      · simp [isEmpty, Option.filter]
      · simp [isEmpty, Option.filter]

theorem bufferOf_snoc (events : List LoopGuardEvent) (latest : LoopGuardEvent) :
    bufferOf windowMs (events ++ [latest]) =
      events.filter (fun event =>
        decide (latest.atMillis - windowMs ≤ event.atMillis)) ++ [latest] := by
  unfold bufferOf
  rw [List.getLast?_append, List.getLast?_singleton, Option.some_or,
    List.dropLast_concat]

theorem bufferOf_evict (inOrder : InOrderOfTime (events ++ [latest])) :
    (bufferOf windowMs events).filter (fun event =>
        decide (latest.atMillis - windowMs ≤ event.atMillis)) =
      events.filter fun event =>
        decide (latest.atMillis - windowMs ≤ event.atMillis) := by
  induction events using List.reverseRecOn with
  | nil => rfl
  | append_singleton earlier last _ =>
      have notLater : last.atMillis ≤ latest.atMillis :=
        (List.pairwise_append.mp inOrder).2.2 last
          (List.mem_append_right earlier (List.mem_singleton.mpr rfl)) latest
          (List.mem_singleton.mpr rfl)
      rw [bufferOf_snoc, List.filter_append, List.filter_append,
        List.filter_filter]
      congr 1
      apply List.filter_congr
      intro event _
      rw [← Bool.decide_and, decide_eq_decide]
      constructor
      · exact And.left
      · intro inside
        exact ⟨inside, by omega⟩

theorem bufferOf_sublist (windowMs : Int) (events : List LoopGuardEvent) :
    (bufferOf windowMs events).Sublist events := by
  induction events using List.reverseRecOn with
  | nil => exact List.Sublist.refl []
  | append_singleton earlier last _ =>
      rw [bufferOf_snoc]
      exact List.filter_sublist.append (List.Sublist.refl [last])

end Buffer

section Run

variable {Entry : Type} {casing : Uppercase} {cfg : SyncConfig}
variable {st : RuntimeState Entry}

theorem check_loopEvents (event : SyncEvent) :
    (event.check casing cfg st).1.loopEvents =
      record casing st.loopEvents event.direction event.hash event.atMillis
        cfg.loopWindowMs := by
  unfold SyncEvent.check recordAndCheck
  simp only
  split
  · rfl
  · rfl

theorem check_trips (event : SyncEvent) :
    (event.check casing cfg st).2 =
      tripped (event.check casing cfg st).1.loopEvents
        cfg.loopFlipThreshold := by
  rw [check_loopEvents]
  unfold SyncEvent.check recordAndCheck
  simp only
  split
  · rename_i trips
    exact trips.symm
  · rename_i quiet
    exact (Bool.eq_false_of_not_eq_true quiet).symm

theorem history_snoc (events : List SyncEvent) (event : SyncEvent) :
    history casing (events ++ [event]) =
      history casing events ++ (event.recorded casing).toList := by
  unfold history
  rw [List.filterMap_append]
  cases isRecorded : event.recorded casing with
  | none =>
      rw [List.filterMap_cons_none isRecorded]
      rfl
  | some latest =>
      rw [List.filterMap_cons_some isRecorded]
      rfl

/-- The buffer is the part of the history in the window of its last sync. -/
theorem loopEvents_recordAll (fresh : st.loopEvents = [])
    (events : List SyncEvent)
    (inOrder : InOrderOfTime (history casing events)) :
    (recordAll casing cfg st events).loopEvents =
      bufferOf cfg.loopWindowMs (history casing events) := by
  induction events using List.reverseRecOn with
  | nil => exact fresh
  | append_singleton earlier event inductionHypothesis =>
      have stepped : (recordAll casing cfg st (earlier ++ [event])).loopEvents =
          record casing (recordAll casing cfg st earlier).loopEvents
            event.direction event.hash event.atMillis cfg.loopWindowMs := by
        unfold recordAll
        rw [List.foldl_append]
        exact check_loopEvents event
      rw [history_snoc] at inOrder ⊢
      have before : InOrderOfTime (history casing earlier) :=
        (List.pairwise_append.mp inOrder).1
      rw [stepped, inductionHypothesis before, record_eq]
      cases isRecorded : event.recorded casing with
      | none =>
          rw [Option.toList_none, List.append_nil]
      | some latest =>
          rw [isRecorded] at inOrder
          simp only [Option.toList_some] at inOrder ⊢
          rw [bufferOf_snoc, bufferOf_evict inOrder]

end Run

section Trips

variable {windowMs threshold : Int} {events : List LoopGuardEvent}
variable {latest : LoopGuardEvent}

theorem flips_nonneg (events : List LoopGuardEvent) : 0 ≤ flips events := by
  induction events with
  | nil => exact Int.le_refl 0
  | cons first rest inductionHypothesis =>
      cases rest with
      | nil => exact Int.le_refl 0
      | cons second others =>
          unfold flips
          split
          · omega
          · omega

theorem tripped_iff (inOrder : InOrderOfTime events) :
    tripped events threshold = true ↔
      ∃ event ∈ events, threshold ≤
        flips (events.filter fun other => other.hash = event.hash) := by
  unfold tripped
  rw [List.any_eq_true]
  apply exists_congr
  intro event
  apply and_congr_right
  intro _
  have sorted : List.Pairwise (fun left right : LoopGuardEvent =>
      left.atMillis ≤ right.atMillis)
        (events.filter fun other => other.hash = event.hash) :=
    inOrder.sublist List.filter_sublist
  simp only [decide_eq_true_eq, sorted.insertionSort_eq]

theorem flips_bufferOf (inOrder : InOrderOfTime (events ++ [latest]))
    (hash : String) :
    flips ((bufferOf windowMs (events ++ [latest])).filter fun event =>
        event.hash = hash) =
      flipsOf (events ++ [latest]) hash windowMs latest.atMillis := by
  rw [bufferOf_snoc]
  unfold flipsOf
  by_cases isWindow : 0 ≤ windowMs
  · have inside : latest.atMillis - windowMs ≤ latest.atMillis := by omega
    have kept : [latest] = [latest].filter (fun event =>
        decide (latest.atMillis - windowMs ≤ event.atMillis)) := by
      rw [List.filter_cons, decide_eq_true inside]
      rfl
    rw [kept, ← List.filter_append, ← kept, List.filter_filter]
    congr 2
    funext event
    rw [Bool.decide_and]
  · -- Not even the last sync is in the window.
    have outside : ∀ event ∈ events,
        ¬ latest.atMillis - windowMs ≤ event.atMillis := by
      intro event member
      have notLater : event.atMillis ≤ latest.atMillis :=
        (List.pairwise_append.mp inOrder).2.2 event member latest
          (List.mem_singleton.mpr rfl)
      omega
    have evicted : events.filter (fun event =>
        decide (latest.atMillis - windowMs ≤ event.atMillis)) = [] := by
      apply List.filter_eq_nil_iff.mpr
      intro event member
      simpa using outside event member
    have empty : (events ++ [latest]).filter (fun event =>
        decide (event.hash = hash ∧
          latest.atMillis - windowMs ≤ event.atMillis)) = [] := by
      apply List.filter_eq_nil_iff.mpr
      intro event member both
      have inside := (of_decide_eq_true both).2
      rcases List.mem_append.mp member with earlier | isLatest
      · exact outside event earlier inside
      · rw [List.mem_singleton.mp isLatest] at inside
        omega
    rw [evicted, empty, List.nil_append, List.filter_cons]
    split
    · rfl
    · rfl

/-- The buffer trips exactly if a content of the history changes direction often
enough in the window. -/
theorem tripped_bufferOf_iff (inOrder : InOrderOfTime (events ++ [latest])) :
    tripped (bufferOf windowMs (events ++ [latest])) threshold = true ↔
      ∃ event ∈ events ++ [latest], threshold ≤
        flipsOf (events ++ [latest]) event.hash windowMs latest.atMillis := by
  have isSublist := bufferOf_sublist windowMs (events ++ [latest])
  rw [tripped_iff (inOrder.sublist isSublist)]
  constructor
  · rintro ⟨event, member, enough⟩
    rw [flips_bufferOf inOrder] at enough
    exact ⟨event, isSublist.subset member, enough⟩
  · rintro ⟨event, member, enough⟩
    by_cases isBuffered : ∃ other ∈ bufferOf windowMs (events ++ [latest]),
        other.hash = event.hash
    · obtain ⟨other, isThere, sameHash⟩ := isBuffered
      refine ⟨other, isThere, ?_⟩
      rw [flips_bufferOf inOrder, sameHash]
      exact enough
    · -- Nothing of the content is left, and no threshold is below zero.
      have none_left : (bufferOf windowMs (events ++ [latest])).filter
          (fun other => other.hash = event.hash) = [] := by
        apply List.filter_eq_nil_iff.mpr
        intro other isThere same
        exact isBuffered ⟨other, isThere, of_decide_eq_true same⟩
      rw [← flips_bufferOf inOrder, none_left] at enough
      have isLast : latest ∈ bufferOf windowMs (events ++ [latest]) := by
        rw [bufferOf_snoc]
        exact List.mem_append_right _ (List.mem_singleton.mpr rfl)
      refine ⟨latest, isLast, ?_⟩
      exact le_trans enough (flips_nonneg _)

end Trips

theorem inOrderOfTime_history {casing : Uppercase} {events : List SyncEvent}
    (inOrder : events.Pairwise fun earlier later =>
      earlier.atMillis ≤ later.atMillis) :
    InOrderOfTime (history casing events) := by
  apply inOrder.filterMap
  intro earlier later notLater earlierRecorded isEarlier laterRecorded isLater
  obtain ⟨_, _, sameEarlier⟩ := Option.map_eq_some_iff.mp isEarlier
  obtain ⟨_, _, sameLater⟩ := Option.map_eq_some_iff.mp isLater
  rw [← sameEarlier, ← sameLater]
  exact notLater

/-- Along every run of syncs in the order of time, the guard reports a trip
exactly if some content has changed direction often enough in the window that
ends at the latest sync with a hash. -/
theorem guardTrips_iff {Entry : Type} {casing : Uppercase} {cfg : SyncConfig}
    {st : RuntimeState Entry} (fresh : st.loopEvents = [])
    {events : List SyncEvent} {last : SyncEvent}
    (inOrder : (events ++ [last]).Pairwise fun earlier later =>
      earlier.atMillis ≤ later.atMillis) :
    (last.check casing cfg (recordAll casing cfg st events)).2 = true ↔
      ∃ latest, (history casing (events ++ [last])).getLast? = some latest ∧
        ∃ event ∈ history casing (events ++ [last]),
          cfg.loopFlipThreshold ≤
            flipsOf (history casing (events ++ [last])) event.hash
              cfg.loopWindowMs latest.atMillis := by
  have inHistory : InOrderOfTime (history casing (events ++ [last])) :=
    inOrderOfTime_history inOrder
  have buffer : (last.check casing cfg
      (recordAll casing cfg st events)).1.loopEvents =
        bufferOf cfg.loopWindowMs (history casing (events ++ [last])) := by
    rw [← loopEvents_recordAll fresh _ inHistory]
    unfold recordAll
    rw [List.foldl_append]
    rfl
  rw [check_trips, buffer]
  generalize history casing (events ++ [last]) = syncs at inHistory
  induction syncs using List.reverseRecOn with
  | nil =>
      constructor
      · intro trips
        cases trips
      · rintro ⟨_, isLatest, _⟩
        cases isLatest
  | append_singleton earlier latest _ =>
      rw [tripped_bufferOf_iff inHistory]
      constructor
      · intro trips
        exact ⟨latest, List.getLast?_concat, trips⟩
      · rintro ⟨other, isOther, trips⟩
        rw [List.getLast?_concat] at isOther
        cases isOther
        exact trips

namespace PhoneSample

/-- A text comes, goes, comes and goes, in either case of its hash. -/
def backAndForth : List SyncEvent :=
  [⟨.pulled, some "aa", 0⟩, ⟨.pushed, some "AA", 1000⟩,
    ⟨.pulled, some "aa", 2000⟩]

def goesAgain : SyncEvent := ⟨.pushed, some "AA", 3000⟩

def unhashedLater : SyncEvent := ⟨.pushed, none, 3600000⟩

theorem backAndForth_trips :
    (goesAgain.check casing cfg
      (recordAll casing cfg phone.runtime backAndForth)).2 = true := by
  have inOrder : (backAndForth ++ [goesAgain]).Pairwise fun earlier later =>
      earlier.atMillis ≤ later.atMillis := by
    decide
  apply (guardTrips_iff rfl inOrder).mpr
  refine ⟨⟨"AA", .pushed, 3000⟩, by decide +kernel,
    ⟨"AA", .pushed, 3000⟩, by decide +kernel, by decide +kernel⟩

/-- A sync without a hash repeats the report, an hour later. -/
theorem unhashedLater_trips :
    ¬ ∀ (casing : Uppercase) (cfg : SyncConfig) (st : SyncRuntimeState)
      (events : List SyncEvent) (last : SyncEvent),
      st.loopEvents = [] →
      ((events ++ [last]).Pairwise fun earlier later =>
        earlier.atMillis ≤ later.atMillis) →
      ((last.check casing cfg (recordAll casing cfg st events)).2 = true ↔
        ∃ event ∈ history casing (events ++ [last]),
          cfg.loopFlipThreshold ≤
            flipsOf (history casing (events ++ [last])) event.hash
              cfg.loopWindowMs last.atMillis) := by
  intro exactly
  have inOrder : (backAndForth ++ [goesAgain] ++ [unhashedLater]).Pairwise
      fun earlier later => earlier.atMillis ≤ later.atMillis := by
    decide
  have trips : (unhashedLater.check casing cfg (recordAll casing cfg
      phone.runtime (backAndForth ++ [goesAgain]))).2 = true := by
    decide +kernel
  have enough := (exactly casing cfg phone.runtime _ _ rfl inOrder).mp trips
  revert enough
  decide +kernel

end PhoneSample

end OpenClipboard.MobileEngine
