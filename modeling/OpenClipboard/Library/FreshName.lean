import Mathlib.Data.Finset.Card

/-!
# Searching a free name

Candidates are numbered; the search tries them in order, at most a given number
of them, and takes the first one that is free.  It finds a free candidate
whenever there are more candidates to try than names in use.
-/

namespace OpenClipboard.FreshName

universe u

variable {α : Type u} (candidate : Nat → α) (taken : α → Bool)

/-- The first free one of `tries` candidates from `start` on. -/
def search : Nat → Nat → Option α
  | 0, _ => none
  | tries + 1, start =>
      if taken (candidate start) then search tries (start + 1)
      else some (candidate start)

variable {candidate taken}

/-- What the search finds is a free candidate. -/
theorem search_eq_some
    {tries start : Nat} {name : α}
    (found : search candidate taken tries start = some name) :
    taken name = false ∧ ∃ index, start ≤ index ∧ name = candidate index := by
  induction tries generalizing start with
  | zero => cases found
  | succ tries inductionHypothesis =>
      rw [search] at found
      by_cases isTaken : taken (candidate start) = true
      · rw [if_pos isTaken] at found
        rcases inductionHypothesis found with ⟨free, index, later, isIndex⟩
        exact ⟨free, index, by omega, isIndex⟩
      · rw [if_neg isTaken] at found
        cases found
        exact ⟨by simpa using isTaken, start, Nat.le_refl start, rfl⟩

/-- A search that finds nothing has tried every candidate. -/
theorem taken_of_search_eq_none
    {tries start : Nat} (nothing : search candidate taken tries start = none)
    {index : Nat} (fromStart : start ≤ index)
    (tried : index < start + tries) :
    taken (candidate index) = true := by
  induction tries generalizing start with
  | zero => omega
  | succ tries inductionHypothesis =>
      rw [search] at nothing
      by_cases isTaken : taken (candidate start) = true
      · rw [if_pos isTaken] at nothing
        by_cases isStart : index = start
        · rw [isStart]
          exact isTaken
        · exact inductionHypothesis nothing (by omega) (by omega)
      · rw [if_neg isTaken] at nothing
        cases nothing

/-- With more candidates than names in use the search succeeds. -/
theorem isSome_search
    [DecidableEq α] (injective : Function.Injective candidate)
    {used : List α} (inUse : ∀ name, taken name = true → name ∈ used)
    {tries start : Nat} (enough : used.length < tries) :
    (search candidate taken tries start).isSome = true := by
  by_contra notFound
  have nothing : search candidate taken tries start = none := by
    simpa using notFound
  let tried := (Finset.range tries).image fun offset =>
    candidate (start + offset)
  have allUsed : tried ⊆ used.toFinset := by
    intro name member
    rcases Finset.mem_image.mp member with ⟨offset, inRange, isName⟩
    have below := Finset.mem_range.mp inRange
    have isTaken : taken (candidate (start + offset)) = true :=
      taken_of_search_eq_none nothing (by omega) (by omega)
    rw [← isName]
    exact List.mem_toFinset.mpr (inUse _ isTaken)
  have manyTried : tried.card = tries := by
    have distinct : Function.Injective fun offset =>
        candidate (start + offset) := by
      intro left right same
      have sameIndex := injective same
      omega
    rw [Finset.card_image_of_injective _ distinct, Finset.card_range]
  have fewUsed := (Finset.card_le_card allUsed).trans
    (List.toFinset_card_le used)
  omega

end OpenClipboard.FreshName
