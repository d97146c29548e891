import Mathlib.Order.Basic

/-!
# Guarded runs of a partial transition function

A system is a partial step function `step : σ → α → Option σ`.  A run is
*guarded* when every action it takes satisfies a predicate in the state it is
taken from; the unrestricted runs are those guarded by `anyAction`.  The rules
below package the induction over runs: what one step preserves, a whole run
preserves.
-/

namespace OpenClipboard.Transition

universe u v

variable {σ : Type u} {α : Type v}

/-- The guard that admits every action. -/
def anyAction : σ → α → Prop := fun _ _ => True

/-- The states reached from `start` by actions that satisfy `guard` where they
are taken. -/
inductive Run
    (step : σ → α → Option σ) (guard : σ → α → Prop) (start : σ) :
    σ → Prop
  | refl : Run step guard start start
  | tail {before after : σ} (action : α) :
      Run step guard start before →
      guard before action →
      step before action = some after →
      Run step guard start after

/-- Run a list of actions, stopping at the first that is not enabled. -/
def execute (step : σ → α → Option σ) (start : σ) : List α → Option σ
  | [] => some start
  | action :: rest =>
      match step start action with
      | none => none
      | some next => execute step next rest

/-- Every action of the list satisfies the guard where it is taken. -/
def Guarded
    (step : σ → α → Option σ) (guard : σ → α → Prop) : σ → List α → Prop
  | _, [] => True
  | state, action :: rest =>
      guard state action ∧
        match step state action with
        | none => True
        | some next => Guarded step guard next rest

instance decidableGuarded
    (step : σ → α → Option σ) (guard : σ → α → Prop)
    [decideGuard : ∀ state action, Decidable (guard state action)] :
    ∀ (state : σ) (actions : List α),
      Decidable (Guarded step guard state actions)
  | _, [] => isTrue trivial
  | state, action :: rest =>
      match decideGuard state action, decided : step state action with
      | isFalse refused, _ => isFalse fun guarded => refused guarded.1
      | isTrue admitted, none =>
          isTrue ⟨admitted, by rw [decided]; trivial⟩
      | isTrue admitted, some next =>
          match decidableGuarded step guard next rest with
          | isTrue guarded =>
              isTrue ⟨admitted, by rw [decided]; exact guarded⟩
          | isFalse refused =>
              isFalse fun both => refused (by
                have later := both.2
                rw [decided] at later
                exact later)

theorem guarded_anyAction (step : σ → α → Option σ) (state : σ)
    (actions : List α) : Guarded step anyAction state actions := by
  induction actions generalizing state with
  | nil => trivial
  | cons action rest inductionHypothesis =>
      refine ⟨trivial, ?_⟩
      cases stepped : step state action with
      | none => trivial
      | some next => exact inductionHypothesis next

variable {actions : List α}

/-- A list whose every action satisfies a condition on actions is guarded by
that condition. -/
theorem guarded_of_forall (step : σ → α → Option σ) {condition : α → Prop}
    (state : σ) (satisfied : ∀ action ∈ actions, condition action) :
    Guarded step (fun _ action => condition action) state actions := by
  induction actions generalizing state with
  | nil => trivial
  | cons action rest inductionHypothesis =>
      refine ⟨satisfied action List.mem_cons_self, ?_⟩
      cases stepped : step state action with
      | none => trivial
      | some next =>
          exact inductionHypothesis next fun other member =>
            satisfied other (List.mem_cons_of_mem action member)

/-- Two guards guard the same lists where they agree in every state of an
invariant that the first one keeps. -/
theorem guarded_congr {step : σ → α → Option σ}
    {allowed first second : σ → α → Prop} (invariant : σ → Prop)
    (agree : ∀ state action, invariant state → allowed state action →
      (first state action ↔ second state action))
    (kept : ∀ state action next, invariant state → first state action →
      step state action = some next → invariant next) {state : σ}
    (holds : invariant state) (all : Guarded step allowed state actions) :
    Guarded step first state actions ↔ Guarded step second state actions := by
  induction actions generalizing state with
  | nil => exact Iff.rfl
  | cons action rest inductionHypothesis =>
      have same := agree state action holds all.1
      simp only [Guarded, ← same]
      apply and_congr_right
      intro isFirst
      cases stepped : step state action with
      | none => exact Iff.rfl
      | some next =>
          have later := all.2
          rw [stepped] at later
          exact inductionHypothesis
            (kept state action next holds isFirst stepped) later

/-- In a list that runs to its end, a guard on actions is one on all of them. -/
theorem guarded_iff_forall {step : σ → α → Option σ} {condition : α → Prop}
    {state finish : σ} (ran : execute step state actions = some finish) :
    Guarded step (fun _ action => condition action) state actions ↔
      ∀ action ∈ actions, condition action := by
  constructor
  · intro guarded
    induction actions generalizing state with
    | nil => exact nofun
    | cons head rest inductionHypothesis =>
        cases stepped : step state head with
        | none => simp [execute, stepped] at ran
        | some next =>
            simp only [execute, stepped] at ran
            have later := guarded.2
            rw [stepped] at later
            intro action member
            rcases List.mem_cons.mp member with isHead | inRest
            · rw [isHead]
              exact guarded.1
            · exact inductionHypothesis ran later action inRest
  · exact guarded_of_forall step state

theorem guarded_and {step : σ → α → Option σ} {first second : σ → α → Prop}
    {state : σ} :
    Guarded step (fun state action => first state action ∧ second state action)
        state actions ↔
      Guarded step first state actions ∧ Guarded step second state actions := by
  induction actions generalizing state with
  | nil => exact ⟨fun _ => ⟨trivial, trivial⟩, fun _ => trivial⟩
  | cons action rest inductionHypothesis =>
      simp only [Guarded]
      cases step state action with
      | none => simp only [and_true]
      | some next =>
          simp only [inductionHypothesis]
          exact and_and_and_comm

/-- Where an admitted step reaches a good state exactly from a good state and
under its guard, a list of actions reaches one exactly from a good state and
guarded throughout. -/
theorem execute_iff_guarded {step : σ → α → Option σ}
    {allowed guard : σ → α → Prop} {invariant good : σ → Prop}
    (kept : ∀ before action after, invariant before → allowed before action →
      step before action = some after → invariant after)
    (stepwise : ∀ before action after, invariant before →
      allowed before action → step before action = some after →
        (good after ↔ good before ∧ guard before action)) {start finish : σ}
    (holds : invariant start) (all : Guarded step allowed start actions)
    (ran : execute step start actions = some finish) :
    good finish ↔ good start ∧ Guarded step guard start actions := by
  induction actions generalizing start with
  | nil =>
      cases ran
      exact (and_iff_left trivial).symm
  | cons action rest inductionHypothesis =>
      cases stepped : step start action with
      | none => simp [execute, stepped] at ran
      | some next =>
          simp only [execute, stepped] at ran
          have later := all.2
          rw [stepped] at later
          have keeps := kept start action next holds all.1 stepped
          rw [inductionHypothesis keeps later ran,
            stepwise start action next holds all.1 stepped]
          simp only [Guarded, stepped]
          exact and_assoc

theorem execute_append (step : σ → α → Option σ) (start : σ)
    (first second : List α) :
    execute step start (first ++ second) =
      (execute step start first).bind fun middle =>
        execute step middle second := by
  induction first generalizing start with
  | nil => rfl
  | cons action rest inductionHypothesis =>
      rw [List.cons_append]
      cases stepped : step start action with
      | none => simp only [execute, stepped, Option.bind_none]
      | some next =>
          simp only [execute, stepped]
          exact inductionHypothesis next

/-- Where an enabled action keeps a property of what was done and of the state
exactly if its guard holds, the property holds at every point of a list of
actions exactly if the list is guarded. -/
theorem guarded_iff_history {step : σ → α → Option σ} {guard : σ → α → Prop}
    {holds : List α → σ → Prop} {past actions : List α} {start : σ}
    (disabled : ∀ state, ∀ action ∈ actions, step state action = none →
      guard state action)
    (stepwise : ∀ done state, ∀ action ∈ actions, ∀ next, holds done state →
      step state action = some next →
        (holds (done ++ [action]) next ↔ guard state action))
    (initially : holds past start) :
    (∀ done finish, done <+: actions →
      execute step start done = some finish → holds (past ++ done) finish) ↔
      Guarded step guard start actions := by
  induction actions generalizing past start with
  | nil =>
      constructor
      · intro throughout
        trivial
      · intro guarded done finish isPrefix executed
        rw [List.prefix_nil.mp isPrefix] at executed ⊢
        cases executed
        rw [List.append_nil]
        exact initially
  | cons action rest inductionHypothesis =>
      have here := List.mem_cons_self (a := action) (l := rest)
      cases stepped : step start action with
      | none =>
          apply iff_of_true
          · intro done finish isPrefix executed
            cases done with
            | nil =>
                cases executed
                rw [List.append_nil]
                exact initially
            | cons head tail =>
                obtain ⟨same, inRest⟩ := List.cons_prefix_cons.mp isPrefix
                subst same
                simp only [execute, stepped] at executed
                cases executed
          · refine ⟨disabled start action here stepped, ?_⟩
            rw [stepped]
            trivial
      | some next =>
          have atHead := stepwise past start action here next initially stepped
          have later : holds (past ++ [action]) next →
              ((∀ done finish, done <+: rest →
                execute step next done = some finish →
                  holds (past ++ [action] ++ done) finish) ↔
                Guarded step guard next rest) :=
            inductionHypothesis
              (fun state other member =>
                disabled state other (List.mem_cons_of_mem action member))
              (fun done state other member =>
                stepwise done state other (List.mem_cons_of_mem action member))
          have runs : ∀ done, execute step start (action :: done) =
              execute step next done := by
            intro done
            simp only [execute, stepped]
          have guards : Guarded step guard start (action :: rest) ↔
              guard start action ∧ Guarded step guard next rest := by
            simp only [Guarded, stepped]
          rw [guards]
          constructor
          · intro throughout
            have first := throughout [action] next
              ((List.prefix_cons_inj action).mpr List.nil_prefix)
              (by rw [runs]; rfl)
            refine ⟨atHead.mp first, (later first).mp ?_⟩
            intro done finish isPrefix executed
            have whole := throughout (action :: done) finish
              ((List.prefix_cons_inj action).mpr isPrefix)
              (by rw [runs]; exact executed)
            simpa using whole
          · rintro ⟨admitted, guarded⟩ done finish isPrefix executed
            have first := atHead.mpr admitted
            cases done with
            | nil =>
                cases executed
                rw [List.append_nil]
                exact initially
            | cons head tail =>
                obtain ⟨same, inRest⟩ := List.cons_prefix_cons.mp isPrefix
                subst same
                rw [runs] at executed
                have whole :=
                  (later first).mpr guarded tail finish inRest executed
                simpa using whole

namespace Run

variable {step : σ → α → Option σ} {guard : σ → α → Prop}
  {start middle finish : σ}

theorem append
    (first : Run step guard start middle)
    (second : Run step guard middle finish) :
    Run step guard start finish := by
  induction second with
  | refl => exact first
  | tail action _ admitted stepped inductionHypothesis =>
      exact Run.tail action inductionHypothesis admitted stepped

/-- A property of the start that every admitted step preserves holds wherever
a guarded run ends. -/
theorem preserves
    {invariant : σ → Prop}
    (run : Run step guard start finish)
    (initially : invariant start)
    (stepwise : ∀ before action after,
      invariant before → guard before action →
        step before action = some after → invariant after) :
    invariant finish := by
  induction run with
  | refl => exact initially
  | tail action _ admitted stepped inductionHypothesis =>
      exact stepwise _ action _ inductionHypothesis admitted stepped

/-- A reflexive and transitive relation that every step respects relates the
two ends of a run. -/
theorem relates
    {related : σ → σ → Prop}
    (run : Run step guard start finish)
    (reflexive : ∀ state, related state state)
    (transitive : ∀ {first second third},
      related first second → related second third → related first third)
    (stepwise : ∀ before action after,
      guard before action →
        step before action = some after → related before after) :
    related start finish := by
  induction run with
  | refl => exact reflexive start
  | tail action _ admitted stepped inductionHypothesis =>
      exact transitive inductionHypothesis
        (stepwise _ action _ admitted stepped)

/-- A run stays a run under a weaker guard. -/
theorem weaken
    {weaker : σ → α → Prop}
    (run : Run step guard start finish)
    (implies : ∀ state action, guard state action → weaker state action) :
    Run step weaker start finish := by
  induction run with
  | refl => exact Run.refl
  | tail action _ admitted stepped inductionHypothesis =>
      exact Run.tail action inductionHypothesis
        (implies _ action admitted) stepped

/-- A successful execution of a guarded list of actions is a guarded run. -/
theorem ofExecute
    {actions : List α}
    (guarded : Guarded step guard start actions)
    (executed : execute step start actions = some finish) :
    Run step guard start finish := by
  induction actions generalizing start with
  | nil =>
      simp only [execute, Option.some.injEq] at executed
      subst executed
      exact Run.refl
  | cons action rest inductionHypothesis =>
      cases stepped : step start action with
      | none => simp [execute, stepped] at executed
      | some next =>
          simp only [execute, stepped] at executed
          have restGuarded := guarded.2
          rw [stepped] at restGuarded
          exact append
            (Run.tail action Run.refl guarded.1 stepped)
            (inductionHypothesis restGuarded executed)

end Run

end OpenClipboard.Transition
