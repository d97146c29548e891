import Mathlib.Data.List.Basic

/-!
# Programs that can be cut off

A program is a sequence of operations on a state.  Besides what it returns and
the state it ends in, it tells the states it passes on the way: those are the
states it leaves behind when it is cut off.  `Meets` is its weakest
precondition, with a condition for each of the three ways to end.
-/

namespace OpenClipboard

/-- What a program does from one state. -/
structure Passage (σ ε α : Type) where
  result : Except ε α
  final : σ
  passed : List σ

def Interruptible (σ ε α : Type) : Type :=
  σ → Passage σ ε α

namespace Interruptible

variable {σ ε α β : Type}

def yields (value : α) : Interruptible σ ε α :=
  fun state => ⟨.ok value, state, []⟩

def fail (error : ε) : Interruptible σ ε α :=
  fun state => ⟨.error error, state, []⟩

def andThen (program : Interruptible σ ε α)
    (next : α → Interruptible σ ε β) : Interruptible σ ε β :=
  fun state =>
    match (program state).result with
    | .error error =>
        ⟨.error error, (program state).final, (program state).passed⟩
    | .ok value =>
        let rest := next value (program state).final
        ⟨rest.result, rest.final, (program state).passed ++ rest.passed⟩

instance : Monad (Interruptible σ ε) where
  pure := yields
  bind := andThen

/-- Read the state. -/
def look : Interruptible σ ε σ :=
  fun state => ⟨.ok state, state, []⟩

/-- An operation that passes the given states before it has its effect. -/
def passing (between : σ → List σ) (effect : σ → σ) :
    Interruptible σ ε Unit :=
  fun state => ⟨.ok (), effect state, state :: between state⟩

/-- An operation that has its effect at once. -/
def atomic (effect : σ → σ) : Interruptible σ ε Unit :=
  passing (fun _ => []) effect

def forEach (body : α → Interruptible σ ε Unit) :
    List α → Interruptible σ ε Unit
  | [] => yields ()
  | item :: rest => andThen (body item) fun _ => forEach body rest

/-- The state left behind by a program that is cut off at the given state it
passes, or not at all. -/
def leaves (program : Interruptible σ ε α) (state : σ) : Option Nat → Option σ
  | none => some (program state).final
  | some stop => (program state).passed[stop]?

/-- From `before`, the program returns, fails and is cut off as stated. -/
structure Meets (program : Interruptible σ ε α) (before : σ)
    (returns : α → σ → Prop) (fails : ε → σ → Prop)
    (stops : σ → Prop) : Prop where
  returned : ∀ value, (program before).result = .ok value →
    returns value (program before).final
  failed : ∀ error, (program before).result = .error error →
    fails error (program before).final
  stopped : ∀ state ∈ (program before).passed, stops state

section Rules

variable {program : Interruptible σ ε α} {before : σ}
variable {returns weaker : α → σ → Prop} {next : α → Interruptible σ ε β}
variable {fails : ε → σ → Prop} {stops : σ → Prop}

theorem Meets.mono (meets : Meets program before returns fails stops)
    (implies : ∀ value state, returns value state → weaker value state) :
    Meets program before weaker fails stops where
  returned := fun value isValue => implies _ _ (meets.returned value isValue)
  failed := meets.failed
  stopped := meets.stopped

/-- A program that does not fail meets any condition on failures. -/
theorem Meets.ofUnfailing {also : σ → Prop}
    (meets : Meets program before returns (fun _ _ => False) stops)
    (implies : ∀ state, stops state → also state) :
    Meets program before returns fails also where
  returned := meets.returned
  failed := fun error isError => (meets.failed error isError).elim
  stopped := fun state passed => implies state (meets.stopped state passed)

theorem meets_pure {value : α} (holds : returns value before) :
    Meets (pure value : Interruptible σ ε α) before returns fails stops where
  returned := by
    intro other isOther
    cases isOther
    exact holds
  failed := by
    intro error isError
    cases isError
  stopped := by
    intro state member
    cases member

theorem meets_fail {error : ε} (holds : fails error before) :
    Meets (fail error : Interruptible σ ε α) before returns fails stops where
  returned := by
    intro value isValue
    cases isValue
  failed := by
    intro other isOther
    cases isOther
    exact holds
  stopped := by
    intro state member
    cases member

theorem meets_look {returns : σ → σ → Prop} (holds : returns before before) :
    Meets (look : Interruptible σ ε σ) before returns fails stops where
  returned := by
    intro other isOther
    cases isOther
    exact holds
  failed := by
    intro error isError
    cases isError
  stopped := by
    intro state member
    cases member

theorem meets_passing {returns : Unit → σ → Prop} {between : σ → List σ}
    {effect : σ → σ}
    (holds : returns () (effect before)) (here : stops before)
    (onTheWay : ∀ state ∈ between before, stops state) :
    Meets (passing between effect : Interruptible σ ε Unit) before returns
      fails stops where
  returned := by
    intro value isValue
    cases isValue
    exact holds
  failed := by
    intro error isError
    cases isError
  stopped := by
    intro state member
    rcases List.mem_cons.mp member with isHere | isBetween
    · rw [isHere]
      exact here
    · exact onTheWay state isBetween

theorem meets_atomic {returns : Unit → σ → Prop} {effect : σ → σ}
    (holds : returns () (effect before)) (here : stops before) :
    Meets (atomic effect : Interruptible σ ε Unit) before returns fails
      stops := by
  apply meets_passing holds here
  intro state member
  cases member

theorem meets_bind {returns : β → σ → Prop}
    (meets : Meets program before
      (fun value middle => Meets (next value) middle returns fails stops)
      fails stops) :
    Meets (program >>= next) before returns fails stops := by
  change Meets (andThen program next) before returns fails stops
  cases isResult : (program before).result with
  | error error =>
      have passage : andThen program next before =
          ⟨.error error, (program before).final, (program before).passed⟩ := by
        simp only [andThen, isResult]
      constructor
      · intro value isValue
        rw [passage] at isValue
        cases isValue
      · intro other isOther
        rw [passage] at isOther ⊢
        cases isOther
        exact meets.failed error isResult
      · intro state member
        rw [passage] at member
        exact meets.stopped state member
  | ok value =>
      have later := meets.returned value isResult
      have passage : andThen program next before =
          ⟨(next value (program before).final).result,
            (next value (program before).final).final,
            (program before).passed ++
              (next value (program before).final).passed⟩ := by
        simp only [andThen, isResult]
      constructor
      · intro other isOther
        rw [passage] at isOther ⊢
        exact later.returned other isOther
      · intro error isError
        rw [passage] at isError ⊢
        exact later.failed error isError
      · intro state member
        rw [passage] at member
        rcases List.mem_append.mp member with early | late
        · exact meets.stopped state early
        · exact later.stopped state late

/-- What holds of the items done so far, kept by each further item, holds of
all of them in the end. -/
theorem meets_forEach {body : α → Interruptible σ ε Unit} {items : List α}
    (holds : List α → σ → Prop) (initially : holds [] before)
    (stepwise : ∀ done item rest state, items = done ++ item :: rest →
      holds done state →
        Meets (body item) state (fun _ => holds (done ++ [item])) fails
          stops) :
    Meets (forEach body items) before (fun _ => holds items) fails stops := by
  induction items generalizing holds before with
  | nil => exact meets_pure initially
  | cons item rest inductionHypothesis =>
      apply meets_bind
      apply (stepwise [] item rest before rfl initially).mono
      intro _ middle held
      apply inductionHypothesis (fun done => holds (item :: done)) held
      intro done other others state isRest doneHolds
      exact stepwise (item :: done) other others state
        (by rw [isRest]; rfl) doneHolds

theorem Meets.of_leaves {after : σ} {stop : Option Nat}
    (meets : Meets program before returns fails stops)
    (left : program.leaves before stop = some after) :
    (stop = none ∧ ∃ value, (program before).result = .ok value ∧
        returns value after) ∨
      (stop = none ∧ ∃ error, (program before).result = .error error ∧
        fails error after) ∨
      (stop ≠ none ∧ stops after) := by
  cases stop with
  | none =>
      cases left
      cases isResult : (program before).result with
      | error error =>
          exact .inr (.inl ⟨rfl, error, rfl, meets.failed error isResult⟩)
      | ok value => exact .inl ⟨rfl, value, rfl, meets.returned value isResult⟩
  | some stop =>
      refine .inr (.inr ⟨Option.some_ne_none stop, ?_⟩)
      exact meets.stopped after (List.mem_of_getElem? left)

end Rules

end Interruptible

end OpenClipboard
