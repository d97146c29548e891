import Mathlib.Data.List.Forall2
import Mathlib.Data.List.Perm.Basic

/-!
# Partial functions

`List.mapM` in `Option`: it succeeds exactly if the function does on every
element, and its result holds the values in order.  A sequence of steps that
may fail succeeds exactly if each step does.
-/

namespace OpenClipboard.PartialMap

universe u v

variable {α : Type u} {β : Type v} {f : α → Option β}

variable {values : List β} {elements : List α}

theorem mapM_cons_eq_some_iff {head : α} {tail : List α} :
    (head :: tail).mapM f = some values ↔
      ∃ first rest, f head = some first ∧ tail.mapM f = some rest ∧
        values = first :: rest := by
  rw [List.mapM_cons]
  cases f head with
  | none => simp
  | some first =>
      cases tail.mapM f with
      | none => simp
      | some rest => simp [eq_comm]

/-- The result relates every element to its value. -/
theorem mapM_eq_some_iff :
    elements.mapM f = some values ↔
      List.Forall₂ (fun element value => f element = some value)
        elements values := by
  induction elements generalizing values with
  | nil => simp [eq_comm]
  | cons head tail inductionHypothesis =>
      rw [mapM_cons_eq_some_iff]
      constructor
      · rintro ⟨first, rest, here, later, rfl⟩
        exact List.Forall₂.cons here (inductionHypothesis.mp later)
      · intro related
        cases related with
        | cons here later =>
            exact ⟨_, _, here, inductionHypothesis.mpr later, rfl⟩

theorem mapM_id_map (f : α → Option β) (elements : List α) :
    (elements.map f).mapM id = elements.mapM f := by
  induction elements with
  | nil => rfl
  | cons head tail inductionHypothesis =>
      rw [List.map_cons, List.mapM_cons, List.mapM_cons, inductionHypothesis]
      rfl

/-- A permutation of partial values is as defined as they are. -/
theorem mapM_id_perm
    {left right : List (Option α)} (permuted : left.Perm right)
    {values : List α}
    (defined : right.mapM id = some values) :
    ∃ others, left.mapM id = some others ∧ others.Perm values := by
  have pointwise := mapM_eq_some_iff.mp defined
  obtain ⟨others, related, reordered⟩ :=
    List.perm_comp_forall₂ permuted pointwise
  exact ⟨others, mapM_eq_some_iff.mpr related, reordered⟩

theorem exists_mapM_of_forall
    (defined : ∀ element ∈ elements, (f element).isSome) :
    ∃ values, elements.mapM f = some values := by
  induction elements with
  | nil => exact ⟨[], rfl⟩
  | cons head tail inductionHypothesis =>
      obtain ⟨first, here⟩ :=
        Option.isSome_iff_exists.mp (defined head List.mem_cons_self)
      obtain ⟨rest, later⟩ := inductionHypothesis fun element member =>
        defined element (List.mem_cons_of_mem head member)
      exact ⟨first :: rest,
        mapM_cons_eq_some_iff.mpr ⟨first, rest, here, later, rfl⟩⟩

/-- The values are the values of the elements. -/
theorem mem_of_mapM (mapped : elements.mapM f = some values) {value : β} :
    value ∈ values ↔ ∃ element ∈ elements, f element = some value := by
  induction elements generalizing values with
  | nil =>
      cases mapped
      simp
  | cons head tail inductionHypothesis =>
      obtain ⟨first, rest, here, later, rfl⟩ := mapM_cons_eq_some_iff.mp mapped
      simp [inductionHypothesis later, here, eq_comm]

/-- Every right-hand element is related to a left-hand one. -/
theorem exists_of_forall₂ {γ : Type v} {related : α → γ → Prop}
    {values : List γ} (pointwise : List.Forall₂ related elements values)
    {value : γ} (member : value ∈ values) :
    ∃ element ∈ elements, related element value := by
  induction pointwise with
  | nil => cases member
  | cons here _ inductionHypothesis =>
      rcases List.mem_cons.mp member with rfl | later
      · exact ⟨_, List.mem_cons_self, here⟩
      · obtain ⟨element, inElements, isRelated⟩ := inductionHypothesis later
        exact ⟨element, List.mem_cons_of_mem _ inElements, isRelated⟩

/-! ## Steps that may fail -/

section Steps

variable {ε : Type u} {γ δ : Type v}

variable {step : Except ε γ}

theorem bind_eq_ok_iff {next : γ → Except ε δ} {result : δ} :
    step.bind next = .ok result ↔
      ∃ value, step = .ok value ∧ next value = .ok result := by
  cases step with
  | error err => simp [Except.bind]
  | ok value => simp [Except.bind]

theorem map_eq_ok_iff {f : γ → δ} {result : δ} :
    step.map f = .ok result ↔ ∃ value, step = .ok value ∧ f value = result := by
  cases step with
  | error err => simp [Except.map]
  | ok value => simp [Except.map]

theorem toOption_eq_some_iff {value : γ} :
    step.toOption = some value ↔ step = .ok value := by
  cases step <;> simp [Except.toOption]

theorem mapM_cons_eq_ok_iff
    {step : γ → Except ε δ} {head : γ} {tail : List γ} {values : List δ} :
    (head :: tail).mapM step = .ok values ↔
      ∃ first rest, step head = .ok first ∧ tail.mapM step = .ok rest ∧
        values = first :: rest := by
  rw [List.mapM_cons]
  cases step head with
  | error err => simp [bind, Except.bind]
  | ok first =>
      cases tail.mapM step with
      | error err => simp [bind, Except.bind]
      | ok rest => simp [bind, Except.bind, pure, Except.pure, eq_comm]

/-- The result relates every element to what its step gives. -/
theorem mapM_eq_ok_iff
    {step : γ → Except ε δ} {elements : List γ} {values : List δ} :
    elements.mapM step = .ok values ↔
      List.Forall₂ (fun element value => step element = .ok value)
        elements values := by
  induction elements generalizing values with
  | nil => simp [pure, Except.pure, eq_comm]
  | cons head tail inductionHypothesis =>
      rw [mapM_cons_eq_ok_iff]
      constructor
      · intro split
        obtain ⟨first, rest, here, later, rfl⟩ := split
        exact List.Forall₂.cons here (inductionHypothesis.mp later)
      · intro related
        cases related with
        | cons here later =>
            exact ⟨_, _, here, inductionHypothesis.mpr later, rfl⟩

end Steps

end OpenClipboard.PartialMap
