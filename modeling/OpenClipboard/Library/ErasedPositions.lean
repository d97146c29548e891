import Mathlib.Data.List.Dedup
import Mathlib.Data.List.Sort

/-!
# Erasing positions of a list

Positions are erased one after another, the largest first, so that the ones
still to come keep their meaning.  What is left are the items whose positions
were not named, whatever the order and the repetitions of the list of
positions.
-/

namespace OpenClipboard.ErasedPositions

universe u

variable {α : Type u}

/-- The items whose positions, counted from `start`, are not gone. -/
def kept (gone : List Nat) (start : Nat) (items : List α) : List α :=
  ((items.zipIdx start).filter fun numbered =>
    decide (numbered.2 ∉ gone)).map Prod.fst

/-- The positions in falling order, each of them once. -/
def falling (positions : List Nat) : List Nat :=
  ((positions.insertionSort (· ≤ ·)).dedup).reverse

/-- Sort the positions, and erase from the largest down. -/
def erase (items : List α) (positions : List Nat) : List α :=
  (falling positions).foldl (fun left position =>
    if position < left.length then left.eraseIdx position else left) items

theorem kept_cons (gone : List Nat) (start : Nat) (item : α)
    (rest : List α) :
    kept gone start (item :: rest) =
      if start ∈ gone then kept gone (start + 1) rest
      else item :: kept gone (start + 1) rest := by
  unfold kept
  rw [List.zipIdx_cons, List.filter_cons]
  by_cases isGone : start ∈ gone
  · simp [isGone]
  · simp [isGone]

theorem kept_of_lt {gone : List Nat} {start : Nat}
    (below : ∀ position ∈ gone, position < start) (items : List α) :
    kept gone start items = items := by
  induction items generalizing start with
  | nil => rfl
  | cons item rest inductionHypothesis =>
      have notGone : start ∉ gone := by
        intro isGone
        have smaller := below start isGone
        omega
      have later : ∀ position ∈ gone, position < start + 1 := by
        intro position member
        have smaller := below position member
        omega
      rw [kept_cons, if_neg notGone, inductionHypothesis later]

theorem kept_congr {gone other : List Nat}
    (same : ∀ position, position ∈ gone ↔ position ∈ other) (start : Nat)
    (items : List α) : kept gone start items = kept other start items := by
  unfold kept
  simp only [same]

/-- Erasing the largest position first leaves the others where they are. -/
theorem kept_eraseIdx {gone : List Nat} {largest start : Nat}
    (fromStart : start ≤ largest)
    (below : ∀ position ∈ gone, position < largest) (items : List α) :
    kept gone start (items.eraseIdx (largest - start)) =
      kept (largest :: gone) start items := by
  induction items generalizing start with
  | nil => rfl
  | cons item rest inductionHypothesis =>
      by_cases isLargest : start = largest
      · have afterAll : ∀ position ∈ largest :: gone,
            position < start + 1 := by
          intro position member
          rcases List.mem_cons.mp member with isHead | inGone
          · omega
          · have smaller := below position inGone
            omega
        have restBelow : ∀ position ∈ gone, position < start := by
          rw [isLargest]
          exact below
        rw [kept_cons, if_pos (by rw [isLargest]; exact List.mem_cons_self),
          kept_of_lt afterAll, isLargest, Nat.sub_self, List.eraseIdx_zero,
          List.tail_cons, ← isLargest, kept_of_lt restBelow]
      · have isPositive : largest - start = (largest - (start + 1)) + 1 := by
          omega
        have sameHead : start ∈ largest :: gone ↔ start ∈ gone := by
          rw [List.mem_cons]
          constructor
          · rintro (isHead | inGone)
            · exact absurd isHead isLargest
            · exact inGone
          · exact Or.inr
        rw [isPositive, List.eraseIdx_cons_succ, kept_cons, kept_cons,
          inductionHypothesis (by omega)]
        simp only [sameHead]

theorem foldl_eraseIdx_eq_kept {positions : List Nat}
    (isFalling : positions.Pairwise (· > ·)) (items : List α) :
    positions.foldl (fun left position =>
      if position < left.length then left.eraseIdx position else left) items =
        kept positions 0 items := by
  induction positions generalizing items with
  | nil => exact (kept_of_lt (by simp) items).symm
  | cons largest rest inductionHypothesis =>
      rcases List.pairwise_cons.mp isFalling with ⟨below, restFalling⟩
      have guarded : (if largest < items.length then items.eraseIdx largest
          else items) = items.eraseIdx largest := by
        split
        · rfl
        · rename_i beyond
          exact (List.eraseIdx_of_length_le (by omega)).symm
      rw [List.foldl_cons, guarded, inductionHypothesis restFalling,
        ← kept_eraseIdx (Nat.zero_le largest) below, Nat.sub_zero]

theorem mem_falling {positions : List Nat} {position : Nat} :
    position ∈ falling positions ↔ position ∈ positions := by
  unfold falling
  rw [List.mem_reverse, List.mem_dedup, List.mem_insertionSort]

theorem pairwise_falling (positions : List Nat) :
    (falling positions).Pairwise (· > ·) := by
  unfold falling
  rw [List.pairwise_reverse]
  have sorted : (positions.insertionSort (· ≤ ·)).dedup.Pairwise (· ≤ ·) :=
    (List.pairwise_insertionSort (· ≤ ·) positions).sublist
      (List.dedup_sublist _)
  have distinct := List.nodup_dedup (positions.insertionSort (· ≤ ·))
  exact (sorted.and distinct).imp fun both =>
    lt_of_le_of_ne both.1 both.2

/-- Exactly the items at the other positions are left. -/
theorem erase_eq_kept (items : List α) (positions : List Nat) :
    erase items positions = kept positions 0 items := by
  unfold erase
  rw [foldl_eraseIdx_eq_kept (pairwise_falling positions)]
  exact kept_congr (fun _ => mem_falling) 0 items

end OpenClipboard.ErasedPositions
