import OpenClipboard.ActiveState.Convergence

/-!
# The register as a replica of what was advanced into it

Every device advances the same states in its own order.  The register then ends
at a greatest one; two orders agree on it exactly if the greatest states carry
one content.
-/

namespace OpenClipboard

open LastWriter

/-- An `advance` that the storage answers. -/
structure RegisterCall where
  env : AdvanceEnv
  state : ActiveClipboardState
  mobileConsumable : Bool
  works : env.Works state mobileConsumable

/-- The row after the calls, and how many of them returned true. -/
def advanceEach (row : Option RegisterRow) :
    List RegisterCall → Option RegisterRow × Nat
  | [] => (row, 0)
  | call :: rest =>
      match advance call.env row call.state call.mobileConsumable with
      | (.ok true, after) =>
          ((advanceEach after rest).1, (advanceEach after rest).2 + 1)
      | (_, after) => advanceEach after rest

/-- The states that supersede everything before them. -/
def strictMaxima (earlier : List ActiveClipboardState) :
    List ActiveClipboardState → List ActiveClipboardState
  | [] => []
  | state :: rest =>
      if earlier.all fun other => state.supersedes other then
        state :: strictMaxima (earlier ++ [state]) rest
      else
        strictMaxima (earlier ++ [state]) rest

/-- The calls advance each of the states, and nothing else. -/
def AdvancesAll (states : List ActiveClipboardState)
    (calls : List RegisterCall) : Prop :=
  ∀ state, state ∈ calls.map RegisterCall.state ↔ state ∈ states

/-- No state supersedes it. -/
def IsGreatest (states : List ActiveClipboardState)
    (state : ActiveClipboardState) : Prop :=
  state ∈ states ∧ ∀ other ∈ states, other.supersedes state = false

/-- Any two orders end alike, at a greatest state, after as many successful
calls as there were strict maxima. -/
structure Replicates (states : List ActiveClipboardState) : Prop where
  agree : ∀ first second, AdvancesAll states first → AdvancesAll states second →
    registerActivation (advanceEach none first).1 =
      registerActivation (advanceEach none second).1
  greatest : ∀ calls, AdvancesAll states calls → states ≠ [] →
    ∃ state, IsGreatest states state ∧
      registerActivation (advanceEach none calls).1 = some state.activation
  counted : ∀ calls, AdvancesAll states calls →
    (advanceEach none calls).2 =
      (strictMaxima [] (calls.map RegisterCall.state)).length

/-! ## The register after a list of calls -/

def activationsOf (states : List ActiveClipboardState) : Set Activation :=
  fun activation => ∃ state ∈ states, state.activation = activation

/-- The register holds a greatest one of what came before. -/
structure Summarises (row : Option RegisterRow)
    (earlier : List ActiveClipboardState) : Prop where
  drawn : DrawnFrom (activationsOf earlier) (registerActivation row)
  covers : LastWriter.Covers Activation.key (activationsOf earlier)
    (registerActivation row)

theorem summarises_none : Summarises none [] := by
  constructor
  · intro activation held
    cases held
  · rintro activation ⟨state, member, _⟩
    cases member

variable {row : Option RegisterRow} {earlier : List ActiveClipboardState}
variable {states : List ActiveClipboardState} {state : ActiveClipboardState}

theorem mem_activationsOf (member : state ∈ states) :
    state.activation ∈ activationsOf states :=
  ⟨state, member, rfl⟩

theorem Summarises.shouldAdvance_iff (summary : Summarises row earlier) :
    shouldAdvance row state = true ↔
      (earlier.all fun other => state.supersedes other) = true := by
  rw [List.all_eq_true]
  cases row with
  | none =>
      apply iff_of_true rfl
      intro other member
      have covered := summary.covers other.activation
        (mem_activationsOf member)
      have empty : rank Activation.key (registerActivation none) = ⊥ := rfl
      rw [empty, le_bot_iff] at covered
      cases covered
  | some held =>
      rw [shouldAdvance_some_iff]
      constructor
      · intro newer other member
        rw [ActiveClipboardState.supersedes_iff]
        have covered := summary.covers other.activation
          (mem_activationsOf member)
        exact lt_of_le_of_lt (WithBot.coe_le_coe.mp covered) newer
      · intro newest
        obtain ⟨other, member, same⟩ := summary.drawn held.activation rfl
        have newer := (ActiveClipboardState.supersedes_iff state other).mp
          (newest other member)
        unfold ActiveClipboardState.key at newer
        rw [same] at newer
        exact newer

theorem Summarises.afterCall {call : RegisterCall} {after : Option RegisterRow}
    {won : Bool} (summary : Summarises row earlier)
    (advanced : advance call.env row call.state call.mobileConsumable =
      (.ok won, after)) :
    Summarises after (earlier ++ [call.state]) := by
  have subset : activationsOf earlier ⊆
      activationsOf (earlier ++ [call.state]) := by
    rintro activation ⟨state, member, same⟩
    exact ⟨state, List.mem_append_left _ member, same⟩
  have offered : call.state.activation ∈
      activationsOf (earlier ++ [call.state]) :=
    mem_activationsOf (by simp)
  constructor
  · rw [advance_ok advanced]
    apply DrawnFrom.offer _ _ offered
    intro activation held
    exact subset (summary.drawn activation held)
  · rw [advance_ok advanced]
    rintro activation ⟨state, member, same⟩
    rcases List.mem_append.mp member with old | new
    · exact (summary.covers activation ⟨state, old, same⟩).trans
        (rank_le_offer _ _ _)
    · rw [← same, List.mem_singleton.mp new]
      exact key_le_rank_offer _ _ _

theorem advance_won {call : RegisterCall} {after : Option RegisterRow}
    {result : Except ActiveClipboardRegisterError Bool}
    (advanced : advance call.env row call.state call.mobileConsumable =
      (result, after)) :
    result = .ok (shouldAdvance row call.state) := by
  obtain ⟨won, isWon⟩ := call.works.advance_ok row
  rw [advanced] at isWon
  simp only at isWon
  subst isWon
  rcases advance_cases advanced with
    ⟨err, failed, _⟩ | ⟨isTrue, wins, _⟩ | ⟨isFalse, loses, _⟩
  · cases failed
  · rw [isTrue, wins]
  · rw [isFalse, loses]

theorem Summarises.afterCalls {calls : List RegisterCall}
    (summary : Summarises row earlier) :
    Summarises (advanceEach row calls).1
        (earlier ++ calls.map RegisterCall.state) ∧
      (advanceEach row calls).2 =
        (strictMaxima earlier (calls.map RegisterCall.state)).length := by
  induction calls generalizing row earlier with
  | nil =>
      rw [List.map_nil, List.append_nil]
      exact ⟨summary, rfl⟩
  | cons call rest inductionHypothesis =>
      cases advanced : advance call.env row call.state
          call.mobileConsumable with
      | mk result after =>
          have isResult := advance_won advanced
          subst isResult
          have onward := inductionHypothesis (summary.afterCall advanced)
          rw [List.append_assoc, List.singleton_append] at onward
          rw [List.map_cons, strictMaxima, advanceEach, advanced]
          cases wins : shouldAdvance row call.state with
          | true =>
              rw [if_pos (summary.shouldAdvance_iff.mp wins)]
              simp only
              rw [List.length_cons, onward.2]
              exact ⟨onward.1, rfl⟩
          | false =>
              rw [if_neg]
              · exact onward
              · rw [← summary.shouldAdvance_iff, wins]
                exact Bool.false_ne_true

theorem summarises_of_advancesAll {calls : List RegisterCall}
    (advances : AdvancesAll states calls) :
    Summarises (advanceEach none calls).1 states := by
  have summary : Summarises (advanceEach none calls).1
      ([] ++ calls.map RegisterCall.state) :=
    summarises_none.afterCalls.1
  constructor
  · intro activation held
    obtain ⟨state, member, same⟩ := summary.drawn activation held
    exact ⟨state, (advances state).mp member, same⟩
  · rintro activation ⟨state, member, same⟩
    exact summary.covers activation ⟨state, (advances state).mpr member, same⟩

theorem Summarises.exists_greatest (summary : Summarises row states)
    (nonempty : states ≠ []) :
    ∃ state, IsGreatest states state ∧
      registerActivation row = some state.activation := by
  cases held : registerActivation row with
  | none =>
      obtain ⟨state, member⟩ := List.exists_mem_of_ne_nil states nonempty
      have covered := summary.covers _ (mem_activationsOf member)
      rw [held, rank_none, le_bot_iff] at covered
      cases covered
  | some activation =>
      obtain ⟨state, member, same⟩ := summary.drawn activation held
      refine ⟨state, ⟨member, ?_⟩, by rw [same]⟩
      intro other otherMember
      rw [Bool.eq_false_iff, ne_eq, ActiveClipboardState.supersedes_iff,
        not_lt]
      have covered := summary.covers _ (mem_activationsOf otherMember)
      rw [held, rank_some, WithBot.coe_le_coe] at covered
      unfold ActiveClipboardState.key
      rw [same]
      exact covered

theorem IsGreatest.key_eq {first second : ActiveClipboardState}
    (firstGreatest : IsGreatest states first)
    (secondGreatest : IsGreatest states second) : first.key = second.key := by
  have notBelow : ∀ {one other : ActiveClipboardState},
      IsGreatest states one → IsGreatest states other →
        other.key ≤ one.key := by
    intro one other oneGreatest otherGreatest
    have notNewer := oneGreatest.2 other otherGreatest.1
    rwa [Bool.eq_false_iff, ne_eq, ActiveClipboardState.supersedes_iff,
      not_lt] at notNewer
  exact le_antisymm (notBelow secondGreatest firstGreatest)
    (notBelow firstGreatest secondGreatest)

/-- A call of content that no limited consumer can read. -/
def RegisterCall.plain (state : ActiveClipboardState) : RegisterCall where
  env := ⟨.error .notUnlocked, none⟩
  state := state
  mobileConsumable := false
  works := ⟨rfl, rfl⟩

theorem advanceEach_greatest_first (greatest : IsGreatest states state) :
    registerActivation (advanceEach none
      ((state :: states).map RegisterCall.plain)).1 =
        some state.activation := by
  have stays : ∀ (row : RegisterRow) (rest : List ActiveClipboardState),
      row.activation = state.activation → (∀ other ∈ rest, other ∈ states) →
        registerActivation (advanceEach (some row)
          (rest.map RegisterCall.plain)).1 = some state.activation := by
    intro row rest isState
    induction rest with
    | nil =>
        intro _
        rw [← isState]
        rfl
    | cons other rest inductionHypothesis =>
        intro known
        have loses : shouldAdvance (some row) other = false := by
          rw [Bool.eq_false_iff, ne_eq, shouldAdvance_some_iff, isState]
          have notNewer := greatest.2 other (known other List.mem_cons_self)
          rwa [Bool.eq_false_iff, ne_eq,
            ActiveClipboardState.supersedes_iff] at notNewer
        have kept : advance (RegisterCall.plain other).env (some row)
            (RegisterCall.plain other).state
              (RegisterCall.plain other).mobileConsumable =
            (.ok false, some row) := by
          unfold advance
          have noRef : sealConsumableRef (RegisterCall.plain other).env
              (RegisterCall.plain other).state
                (RegisterCall.plain other).mobileConsumable = .ok none := rfl
          rw [noRef]
          exact if_neg (by rw [show (RegisterCall.plain other).state = other
            from rfl, loses]; exact Bool.false_ne_true)
        rw [List.map_cons, advanceEach, kept]
        exact inductionHypothesis fun later member =>
          known later (List.mem_cons_of_mem other member)
  exact stays _ states rfl fun _ member => member

/-- The register is a replica of the states exactly if those that no other
supersedes carry one content. -/
theorem replicates_iff (states : List ActiveClipboardState) :
    Replicates states ↔
      ∀ first second, IsGreatest states first → IsGreatest states second →
        first.snapshotHash = second.snapshotHash := by
  constructor
  · intro replicates first second firstGreatest secondGreatest
    have advances : ∀ state, state ∈ states →
        AdvancesAll states ((state :: states).map RegisterCall.plain) := by
      intro state member other
      rw [List.map_map]
      have plainState : RegisterCall.state ∘ RegisterCall.plain = id := rfl
      rw [plainState, List.map_id, List.mem_cons]
      constructor
      · rintro (isState | inStates)
        · rw [isState]
          exact member
        · exact inStates
      · exact Or.inr
    have agree := replicates.agree _ _ (advances first firstGreatest.1)
      (advances second secondGreatest.1)
    rw [advanceEach_greatest_first firstGreatest,
      advanceEach_greatest_first secondGreatest, Option.some.injEq] at agree
    exact congrArg Activation.snapshotHash agree
  · intro oneContent
    refine ⟨?_, ?_, ?_⟩
    · intro first second firstAdvances secondAdvances
      have firstSummary := summarises_of_advancesAll firstAdvances
      have secondSummary := summarises_of_advancesAll secondAdvances
      by_cases isEmpty : states = []
      · subst isEmpty
        have empty : ∀ {row : Option RegisterRow}, Summarises row [] →
            registerActivation row = none := by
          intro row summary
          cases held : registerActivation row with
          | none => rfl
          | some activation =>
              obtain ⟨state, member, _⟩ := summary.drawn activation held
              cases member
        rw [empty firstSummary, empty secondSummary]
      · obtain ⟨one, oneGreatest, isOne⟩ := firstSummary.exists_greatest isEmpty
        obtain ⟨other, otherGreatest, isOther⟩ :=
          secondSummary.exists_greatest isEmpty
        have sameHash := oneContent one other oneGreatest otherGreatest
        obtain ⟨sameMs, sameDevice⟩ :=
          Activation.key_eq_iff.mp (oneGreatest.key_eq otherGreatest)
        rw [isOne, isOther]
        unfold ActiveClipboardState.activation at sameMs sameDevice ⊢
        simp only at sameMs sameDevice
        rw [sameHash, sameMs, sameDevice]
    · intro calls advances nonempty
      exact (summarises_of_advancesAll advances).exists_greatest nonempty
    · intro calls advances
      exact summarises_none.afterCalls.2

namespace Replica.Sample

def alpha : DeviceId := { asStr := "alpha" }

/-- Two contents that one device activates within a millisecond. -/
def sameMillisecond : List ActiveClipboardState :=
  [⟨"blake3v1:one", ⟨"entry-1"⟩, 1000, alpha⟩,
    ⟨"blake3v1:two", ⟨"entry-2"⟩, 1000, alpha⟩]

end Replica.Sample

open Replica.Sample in
/-- The register keeps whichever of the two came first. -/
theorem sameMillisecond_keepsFirst :
    ([sameMillisecond, sameMillisecond.reverse].map fun order =>
      (registerActivation (advanceEach none
        (order.map RegisterCall.plain)).1).map Activation.snapshotHash) =
      [some "blake3v1:one", some "blake3v1:two"] ∧
    ¬ Replicates sameMillisecond := by
  have kept : ([sameMillisecond, sameMillisecond.reverse].map fun order =>
      (registerActivation (advanceEach none
        (order.map RegisterCall.plain)).1).map Activation.snapshotHash) =
      [some "blake3v1:one", some "blake3v1:two"] := by
    decide +kernel
  refine ⟨kept, ?_⟩
  intro replicates
  have agree := replicates.agree (sameMillisecond.map RegisterCall.plain)
    (sameMillisecond.reverse.map RegisterCall.plain)
    (by
      intro state
      rw [List.map_map]
      exact Iff.of_eq (congrArg (state ∈ ·) (List.map_id sameMillisecond)))
    (by
      intro state
      rw [List.map_map]
      have same := congrArg (state ∈ ·) (List.map_id sameMillisecond.reverse)
      exact (Iff.of_eq same).trans List.mem_reverse)
  have different := congrArg (Option.map Activation.snapshotHash) agree
  simp only [List.map_cons, List.map_nil, List.cons.injEq, and_true] at kept
  rw [kept.1, kept.2] at different
  exact absurd different (by decide)

end OpenClipboard
