import OpenClipboard.Library.Table
import OpenClipboard.Library.Transition

/-!
# Tasks under a striped lock

Tasks work on a shared world.  Each belongs to a key, and works only while it
holds the lock of its key's stripe.  A discipline says what holds of a key that
nobody works on and what a task knows of its own key at each point of its work;
a step that keeps to its own key then keeps all of it.
-/

namespace OpenClipboard.StripedLock

open Transition

universe u v w

/-- Where a task is. -/
inductive Stage (Work Outcome : Type v) where
  | waiting
  | holding (work : Work)
  | finished (outcome : Outcome)

/-- A task that has no further work gives the lock back. -/
def Stage.ofNext {Work Outcome : Type v} : Work ⊕ Outcome → Stage Work Outcome
  | .inl work => .holding work
  | .inr outcome => .finished outcome

/-- What a task does while it holds the lock. -/
structure Code (World : Type u) (Source Work Outcome Move : Type v) where
  entry : Source → Work
  advance : World → Source → Work → Move → Option (World × (Work ⊕ Outcome))

structure State (Id World : Type u) (Source Work Outcome : Type v) where
  world : World
  tasks : Table Id (Source × Stage Work Outcome)

inductive Action (Id : Type u) (Source Move : Type v) where
  | spawn (id : Id) (source : Source)
  | enter (id : Id)
  | advance (id : Id) (move : Move)

section Step

variable {Id World : Type u} {Source Work Outcome Move Key : Type v}
variable {Stripe : Type w} [DecidableEq Id] [DecidableEq Stripe]
variable (code : Code World Source Work Outcome Move)
variable (keyOf : Source → Key) (stripe : Key → Stripe)

/-- Nobody holds the stripe. -/
def isFree (tasks : Table Id (Source × Stage Work Outcome)) (held : Stripe) :
    Bool :=
  tasks.rows.all fun entry =>
    match entry.2.2 with
    | .holding _ => decide (stripe (keyOf entry.2.1) ≠ held)
    | _ => true

def step (state : State Id World Source Work Outcome) :
    Action Id Source Move → Option (State Id World Source Work Outcome)
  | .spawn id source =>
      if (state.tasks.find id).isSome then
        none
      else
        some { state with tasks := state.tasks.put id (source, .waiting) }
  | .enter id =>
      match state.tasks.find id with
      | some (source, .waiting) =>
          if isFree keyOf stripe state.tasks (stripe (keyOf source)) then
            some { state with
              tasks := state.tasks.put id (source, .holding (code.entry source)) }
          else
            none
      | _ => none
  | .advance id move =>
      match state.tasks.find id with
      | some (source, .holding work) =>
          (code.advance state.world source work move).map fun next => {
            world := next.1
            tasks := state.tasks.put id (source, Stage.ofNext next.2) }
      | _ => none

/-- Which tasks may start, and which moves they may make. -/
def allowed (admits : Source → Bool) (allows : Source → Work → Move → Bool)
    (state : State Id World Source Work Outcome) :
    Action Id Source Move → Bool
  | .spawn _ source => admits source
  | .enter _ => true
  | .advance id move =>
      match state.tasks.find id with
      | some (source, .holding work) => allows source work move
      | _ => true

/-! ## Disciplines -/

/-- `globally` holds of the world at any time, `resource` of a key that nobody
works on, `assertion` of the world around a task at its work. -/
structure Discipline (admits : Source → Bool)
    (allows : Source → Work → Move → Bool) where
  globally : World → Prop
  resource : Key → World → Prop
  assertion : Source → Work → World → Prop
  enter : ∀ {source world}, admits source = true → globally world →
    resource (keyOf source) world → assertion source (code.entry source) world
  goOn : ∀ {source work move world after next}, admits source = true →
    allows source work move = true → globally world →
    assertion source work world →
    code.advance world source work move = some (after, .inl next) →
      globally after ∧ assertion source next after
  leave : ∀ {source work move world after outcome}, admits source = true →
    allows source work move = true → globally world →
    assertion source work world →
    code.advance world source work move = some (after, .inr outcome) →
      globally after ∧ resource (keyOf source) after
  resourceFrame : ∀ {source work move world after next key},
    admits source = true → allows source work move = true → globally world →
    assertion source work world →
    code.advance world source work move = some (after, next) →
    key ≠ keyOf source → resource key world → resource key after
  assertionFrame : ∀ {source work move world after next other otherWork},
    admits source = true → allows source work move = true → globally world →
    assertion source work world →
    code.advance world source work move = some (after, next) →
    keyOf other ≠ keyOf source →
    assertion other otherWork world → assertion other otherWork after

end Step

section Rule

variable {Id World : Type u} {Source Work Outcome Move Key : Type v}
variable {Stripe : Type w} [DecidableEq Id] [DecidableEq Stripe]
variable {code : Code World Source Work Outcome Move}
variable {keyOf : Source → Key} {stripe : Key → Stripe}
variable {admits : Source → Bool} {allows : Source → Work → Move → Bool}

/-- What a discipline keeps. -/
structure Holds (discipline : Discipline code keyOf admits allows)
    (stripe : Key → Stripe) (state : State Id World Source Work Outcome) :
    Prop where
  globally : discipline.globally state.world
  admitted : ∀ id source stage, state.tasks.find id = some (source, stage) →
    admits source = true
  exclusive : ∀ id source work otherId other otherWork,
    state.tasks.find id = some (source, .holding work) →
    state.tasks.find otherId = some (other, .holding otherWork) →
    stripe (keyOf source) = stripe (keyOf other) → id = otherId
  resource : ∀ key, (∀ id source work,
      state.tasks.find id = some (source, .holding work) →
        keyOf source ≠ key) →
    discipline.resource key state.world
  assertion : ∀ id source work,
    state.tasks.find id = some (source, .holding work) →
      discipline.assertion source work state.world

variable {discipline : Discipline code keyOf admits allows}
variable {state after : State Id World Source Work Outcome}

theorem isFree_iff {tasks : Table Id (Source × Stage Work Outcome)}
    {held : Stripe} :
    isFree keyOf stripe tasks held = true ↔
      ∀ id source work, tasks.find id = some (source, .holding work) →
        stripe (keyOf source) ≠ held := by
  unfold isFree
  rw [List.all_eq_true]
  constructor
  · intro free id source work found
    have atEntry := free (id, source, .holding work)
      (Table.mem_rows_iff.mpr found)
    exact of_decide_eq_true atEntry
  · intro free entry isEntry
    obtain ⟨id, source, stage⟩ := entry
    have found := Table.mem_rows_iff.mp isEntry
    cases stage with
    | waiting => rfl
    | finished outcome => rfl
    | holding work => exact decide_eq_true (free id source work found)

omit [DecidableEq Stripe] in
/-- A new task waits. -/
theorem Holds.spawn (holds : Holds discipline stripe state) {id : Id}
    {source : Source} (isAdmitted : admits source = true)
    (isNew : state.tasks.find id = none) :
    Holds discipline stripe
      { state with tasks := state.tasks.put id (source, .waiting) } := by
  have old : ∀ {otherId other work},
      (state.tasks.put id (source, Stage.waiting)).find otherId =
        some (other, .holding work) →
      state.tasks.find otherId = some (other, .holding work) := by
    intro otherId other work found
    rw [Table.find_put] at found
    split at found
    · cases found
    · exact found
  refine ⟨holds.globally, ?_, ?_, ?_, ?_⟩
  · intro otherId other stage found
    rw [Table.find_put] at found
    split at found
    · cases found
      exact isAdmitted
    · exact holds.admitted otherId other stage found
  · intro firstId first work otherId other otherWork found foundOther
    exact holds.exclusive firstId first work otherId other otherWork (old found)
      (old foundOther)
  · intro key unheld
    apply holds.resource key
    intro otherId other work found
    apply unheld otherId other work
    have different : otherId ≠ id := by
      intro same
      rw [same, isNew] at found
      cases found
    rw [Table.find_put_of_ne different]
    exact found
  · intro otherId other work found
    exact holds.assertion otherId other work (old found)

/-- A task that enters takes over what holds of its key. -/
theorem Holds.enter (holds : Holds discipline stripe state) {id : Id}
    {source : Source}
    (waits : state.tasks.find id = some (source, .waiting))
    (free : isFree keyOf stripe state.tasks (stripe (keyOf source)) = true) :
    Holds discipline stripe { state with
      tasks := state.tasks.put id (source, .holding (code.entry source)) } := by
  have free' := isFree_iff.mp free
  have unheld : ∀ otherId other work,
      state.tasks.find otherId = some (other, .holding work) →
        keyOf other ≠ keyOf source := by
    intro otherId other work found same
    exact free' otherId other work found (congrArg stripe same)
  have isAdmitted := holds.admitted id source .waiting waits
  refine ⟨holds.globally, ?_, ?_, ?_, ?_⟩
  · intro otherId other stage found
    rw [Table.find_put] at found
    split at found
    · cases found
      exact isAdmitted
    · exact holds.admitted otherId other stage found
  · intro firstId first work otherId other otherWork found foundOther sameStripe
    rw [Table.find_put] at found foundOther
    split at found
    · rename_i isFirst
      cases found
      split at foundOther
      · rename_i isOther
        exact isFirst.trans isOther.symm
      · exact absurd sameStripe.symm
          (free' otherId other otherWork foundOther)
    · split at foundOther
      · cases foundOther
        exact absurd sameStripe (free' firstId first work found)
      · exact holds.exclusive firstId first work otherId other otherWork found
          foundOther sameStripe
  · intro key unheldAfter
    apply holds.resource key
    intro otherId other work found
    apply unheldAfter otherId other work
    have different : otherId ≠ id := by
      intro same
      rw [same, waits] at found
      cases found
    rw [Table.find_put_of_ne different]
    exact found
  · intro otherId other work found
    rw [Table.find_put] at found
    split at found
    · cases found
      exact discipline.enter isAdmitted holds.globally
        (holds.resource (keyOf source) unheld)
    · exact holds.assertion otherId other work found

omit [DecidableEq Stripe] in
/-- A step keeps to its own key. -/
theorem Holds.advance (holds : Holds discipline stripe state) {id : Id}
    {source : Source} {work : Work} {move : Move} {world : World}
    {next : Work ⊕ Outcome}
    (works : state.tasks.find id = some (source, .holding work))
    (isAllowed : allows source work move = true)
    (advanced : code.advance state.world source work move =
      some (world, next)) :
    Holds discipline stripe {
      world := world
      tasks := state.tasks.put id (source, Stage.ofNext next) } := by
  have isAdmitted := holds.admitted id source _ works
  have knows := holds.assertion id source work works
  have others : ∀ {otherId other otherWork}, otherId ≠ id →
      state.tasks.find otherId = some (other, .holding otherWork) →
        keyOf other ≠ keyOf source := by
    intro otherId other otherWork different found same
    exact different (holds.exclusive otherId other otherWork id source work
      found works (congrArg stripe same))
  have otherAssertion : ∀ {otherId other otherWork}, otherId ≠ id →
      state.tasks.find otherId = some (other, .holding otherWork) →
        discipline.assertion other otherWork world := by
    intro otherId other otherWork different found
    exact discipline.assertionFrame isAdmitted isAllowed holds.globally knows
      advanced (others different found)
      (holds.assertion otherId other otherWork found)
  have otherResource : ∀ {key}, key ≠ keyOf source →
      (∀ otherId other otherWork, otherId ≠ id →
        state.tasks.find otherId = some (other, .holding otherWork) →
          keyOf other ≠ key) →
      discipline.resource key world := by
    intro key different unheld
    apply discipline.resourceFrame isAdmitted isAllowed holds.globally knows
      advanced different
    apply holds.resource key
    intro otherId other otherWork found
    by_cases same : otherId = id
    · rw [same, works] at found
      cases found
      exact different.symm
    · exact unheld otherId other otherWork same found
  cases next with
  | inl nextWork =>
      obtain ⟨globally, assertion⟩ := discipline.goOn isAdmitted isAllowed
        holds.globally knows advanced
      refine ⟨globally, ?_, ?_, ?_, ?_⟩
      · intro otherId other stage found
        rw [Table.find_put] at found
        split at found
        · cases found
          exact isAdmitted
        · exact holds.admitted otherId other stage found
      · intro firstId first firstWork otherId other otherWork found foundOther
          sameStripe
        rw [Table.find_put] at found foundOther
        split at found
        · rename_i isFirst
          cases found
          split at foundOther
          · rename_i isOther
            exact isFirst.trans isOther.symm
          · rw [isFirst]
            exact holds.exclusive id source work otherId other otherWork works
              foundOther sameStripe
        · split at foundOther
          · rename_i isOther
            cases foundOther
            rw [isOther]
            exact holds.exclusive firstId first firstWork id source work found
              works sameStripe
          · exact holds.exclusive firstId first firstWork otherId other
              otherWork found foundOther sameStripe
      · intro key unheld
        apply otherResource
        · have here := unheld id source nextWork Table.find_put_self
          exact here.symm
        · intro otherId other otherWork different found
          apply unheld otherId other otherWork
          show (Table.put _ _ _).find otherId = _
          rw [Table.find_put_of_ne different]
          exact found
      · intro otherId other otherWork found
        rw [Table.find_put] at found
        split at found
        · cases found
          exact assertion
        · rename_i different
          exact otherAssertion different found
  | inr outcome =>
      obtain ⟨globally, resource⟩ := discipline.leave isAdmitted isAllowed
        holds.globally knows advanced
      have old : ∀ {otherId other otherWork},
          (state.tasks.put id (source, Stage.finished outcome)).find otherId =
            some (other, .holding otherWork) →
          otherId ≠ id ∧
            state.tasks.find otherId = some (other, .holding otherWork) := by
        intro otherId other otherWork found
        rw [Table.find_put] at found
        split at found
        · cases found
        · rename_i different
          exact ⟨different, found⟩
      refine ⟨globally, ?_, ?_, ?_, ?_⟩
      · intro otherId other stage found
        rw [Table.find_put] at found
        split at found
        · cases found
          exact isAdmitted
        · exact holds.admitted otherId other stage found
      · intro firstId first firstWork otherId other otherWork found foundOther
        exact holds.exclusive firstId first firstWork otherId other otherWork
          (old found).2 (old foundOther).2
      · intro key unheld
        by_cases same : key = keyOf source
        · rw [same]
          exact resource
        · apply otherResource same
          intro otherId other otherWork different found
          apply unheld otherId other otherWork
          show (Table.put _ _ _).find otherId = _
          rw [Table.find_put_of_ne different]
          exact found
      · intro otherId other otherWork found
        exact otherAssertion (old found).1 (old found).2

/-- What a step does. -/
theorem step_cases {action : Action Id Source Move}
    (stepped : step code keyOf stripe state action = some after) :
    (∃ id source, action = .spawn id source ∧ state.tasks.find id = none ∧
      after = { state with tasks := state.tasks.put id (source, .waiting) }) ∨
    (∃ id source, action = .enter id ∧
      state.tasks.find id = some (source, .waiting) ∧
      isFree keyOf stripe state.tasks (stripe (keyOf source)) = true ∧
      after = { state with
        tasks := state.tasks.put id (source, .holding (code.entry source)) }) ∨
    (∃ id move source work next, action = .advance id move ∧
      state.tasks.find id = some (source, .holding work) ∧
      code.advance state.world source work move = some next ∧
      after = {
        world := next.1
        tasks := state.tasks.put id (source, Stage.ofNext next.2) }) := by
  cases action with
  | spawn id source =>
      simp only [step] at stepped
      split at stepped
      · cases stepped
      · rename_i isNew
        apply Or.inl
        exact ⟨id, source, rfl, by simpa using isNew,
          (Option.some.inj stepped).symm⟩
  | enter id =>
      simp only [step] at stepped
      split at stepped
      · rename_i source found
        split at stepped
        · rename_i free
          exact Or.inr (Or.inl ⟨id, source, rfl, found, free,
            (Option.some.inj stepped).symm⟩)
        · cases stepped
      · cases stepped
  | advance id move =>
      simp only [step] at stepped
      split at stepped
      · rename_i source work found
        obtain ⟨next, advanced, same⟩ := Option.map_eq_some_iff.mp stepped
        exact Or.inr (Or.inr ⟨id, move, source, work, next, rfl, found, advanced,
          same.symm⟩)
      · cases stepped

theorem Holds.keeps (holds : Holds discipline stripe state)
    {action : Action Id Source Move}
    (isAllowed : allowed admits allows state action = true)
    (stepped : step code keyOf stripe state action = some after) :
    Holds discipline stripe after := by
  rcases step_cases stepped with
    ⟨id, source, rfl, isNew, rfl⟩ |
    ⟨id, source, rfl, waits, free, rfl⟩ |
    ⟨id, move, source, work, next, rfl, works, advanced, rfl⟩
  · exact holds.spawn isAllowed isNew
  · exact holds.enter waits free
  · simp only [allowed, works] at isAllowed
    exact holds.advance works isAllowed advanced

/-- A run that keeps to the discipline keeps what it says. -/
theorem Holds.run (holds : Holds discipline stripe state)
    (run : Run (step code keyOf stripe)
      (fun before action => allowed admits allows before action = true) state
      after) :
    Holds discipline stripe after := by
  apply run.preserves holds
  intro before action next held isAllowed stepped
  exact held.keeps isAllowed stepped

/-- What every move of a task does to the world, a run does. -/
theorem Holds.run_relates (holds : Holds discipline stripe state)
    {related : World → World → Prop}
    (run : Run (step code keyOf stripe)
      (fun before action => allowed admits allows before action = true) state
      after)
    (reflexive : ∀ world, related world world)
    (transitive : ∀ {first second third},
      related first second → related second third → related first third)
    (moves : ∀ {source work move world next}, admits source = true →
      allows source work move = true → discipline.globally world →
      discipline.assertion source work world →
      code.advance world source work move = some next →
        related world next.1) :
    related state.world after.world := by
  have both : Holds discipline stripe after ∧
      related state.world after.world := by
    apply run.preserves
    · exact ⟨holds, reflexive state.world⟩
    · rintro before action next ⟨held, sofar⟩ isAllowed stepped
      refine ⟨held.keeps isAllowed stepped, transitive sofar ?_⟩
      rcases step_cases stepped with
        ⟨id, source, rfl, isNew, rfl⟩ |
        ⟨id, source, rfl, waits, free, rfl⟩ |
        ⟨id, move, source, work, made, rfl, works, advanced, rfl⟩
      · exact reflexive _
      · exact reflexive _
      · simp only [allowed, works] at isAllowed
        exact moves (held.admitted id source _ works) isAllowed held.globally
          (held.assertion id source work works) advanced
  exact both.2

/-- What a task leaves behind, and every move of another leaves alone, is
there for every task that has finished. -/
theorem Holds.run_finished (holds : Holds discipline stripe state)
    (done : Source → Outcome → World → Prop)
    (run : Run (step code keyOf stripe)
      (fun before action => allowed admits allows before action = true) state
      after)
    (initially : ∀ id source outcome,
      state.tasks.find id = some (source, .finished outcome) →
        done source outcome state.world)
    (leaves : ∀ {source work move world next outcome}, admits source = true →
      allows source work move = true → discipline.globally world →
      discipline.assertion source work world →
      code.advance world source work move = some (next, .inr outcome) →
        done source outcome next)
    (stays : ∀ {source work move world next other outcome},
      admits source = true → allows source work move = true →
      discipline.globally world → discipline.assertion source work world →
      code.advance world source work move = some next →
      done other outcome world → done other outcome next.1) :
    ∀ id source outcome, after.tasks.find id = some (source, .finished outcome) →
      done source outcome after.world := by
  have both : Holds discipline stripe after ∧ ∀ id source outcome,
      after.tasks.find id = some (source, .finished outcome) →
        done source outcome after.world := by
    apply run.preserves
    · exact ⟨holds, initially⟩
    · rintro before action next ⟨held, sofar⟩ isAllowed stepped
      refine ⟨held.keeps isAllowed stepped, ?_⟩
      intro other otherSource outcome found
      rcases step_cases stepped with
        ⟨id, source, rfl, isNew, rfl⟩ |
        ⟨id, source, rfl, waits, free, rfl⟩ |
        ⟨id, move, source, work, made, rfl, works, advanced, rfl⟩
      · rw [Table.find_put] at found
        split at found
        · cases found
        · exact sofar other otherSource outcome found
      · rw [Table.find_put] at found
        split at found
        · cases found
        · exact sofar other otherSource outcome found
      · simp only [allowed, works] at isAllowed
        have isAdmitted := held.admitted id source _ works
        have knows := held.assertion id source work works
        rw [Table.find_put] at found
        split at found
        · obtain ⟨world, further⟩ := made
          cases further with
          | inl next => cases found
          | inr finished =>
              cases found
              exact leaves isAdmitted isAllowed held.globally knows advanced
        · exact stays isAdmitted isAllowed held.globally knows advanced
            (sofar other otherSource outcome found)
  exact both.2

omit [DecidableEq Stripe] in
/-- Nobody works at first. -/
theorem Holds.start (discipline : Discipline code keyOf admits allows)
    {world : World} (globally : discipline.globally world)
    (resource : ∀ key, discipline.resource key world) :
    Holds discipline stripe
      ({ world := world, tasks := ∅ } :
        State Id World Source Work Outcome) := by
  refine ⟨globally, ?_, ?_, ?_, ?_⟩
  · intro id source stage found
    rw [Table.find_empty] at found
    cases found
  · intro id source work otherId other otherWork found
    rw [Table.find_empty] at found
    cases found
  · intro key unheld
    exact resource key
  · intro id source work found
    rw [Table.find_empty] at found
    cases found

end Rule

end OpenClipboard.StripedLock
