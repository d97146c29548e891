import Mathlib.Data.List.Infix

/-!
# Occurrences of a pattern

The first and the last position at which a pattern occurs in a list.  A
pattern whose first item does not come back in it occurs on one side or the
other of every place where that item stands.
-/

namespace OpenClipboard.Occurrence

universe u

variable {α : Type u} [DecidableEq α]

/-- The position of the first occurrence. -/
def find (pattern : List α) : List α → Option Nat
  | [] => if pattern = [] then some 0 else none
  | item :: rest =>
      if pattern <+: item :: rest then some 0
      else (find pattern rest).map (· + 1)

/-- The position of the last occurrence. -/
def rfind (pattern : List α) : List α → Option Nat
  | [] => if pattern = [] then some 0 else none
  | item :: rest =>
      match rfind pattern rest with
      | some position => some (position + 1)
      | none => if pattern <+: item :: rest then some 0 else none

variable {pattern left right : List α}

theorem rfind_eq_none_iff :
    rfind pattern right = none ↔ ¬ pattern <:+: right := by
  induction right with
  | nil =>
      rw [rfind, List.infix_nil]
      by_cases isEmpty : pattern = []
      · simp [isEmpty]
      · simp [isEmpty]
  | cons item rest inductionHypothesis =>
      rw [rfind, List.infix_cons_iff]
      cases isLast : rfind pattern rest with
      | some position =>
          have occurs : pattern <:+: rest := by
            by_contra absent
            rw [inductionHypothesis.mpr absent] at isLast
            cases isLast
          simp [occurs]
      | none =>
          have absent := inductionHypothesis.mp isLast
          by_cases isHere : pattern <+: item :: rest
          · simp [isHere]
          · simp [isHere, absent]

theorem rfind_append {position : Nat}
    (isLast : rfind pattern right = some position) :
    rfind pattern (left ++ right) = some (left.length + position) := by
  induction left with
  | nil => rw [List.nil_append, isLast, List.length_nil, Nat.zero_add]
  | cons item left inductionHypothesis =>
      rw [List.cons_append, rfind, inductionHypothesis]
      simp only [List.length_cons, Option.some.injEq]
      omega

theorem find_of_prefix (isHere : pattern <+: right) :
    find pattern right = some 0 := by
  cases right with
  | nil => rw [find, if_pos (List.prefix_nil.mp isHere)]
  | cons item rest => rw [find, if_pos isHere]

/-! ## Patterns that start once -/

section Anchored

variable {first : α} {rest : List α}

omit [DecidableEq α] in
theorem prefix_of_prefix_append (once : first ∉ rest) (nonempty : left ≠ [])
    (isHere : first :: rest <+: left ++ first :: right) :
    first :: rest <+: left := by
  obtain ⟨behind, spelled⟩ := isHere
  rcases List.append_eq_append_iff.mp spelled with
    ⟨later, inLeft, _⟩ | ⟨beyond, split, isNext⟩
  · rw [inLeft]
    exact List.prefix_append (first :: rest) later
  · cases beyond with
    | nil =>
        rw [List.append_nil] at split
        rw [split]
    | cons item beyond =>
        have isFirst : first = item := (List.cons.inj isNext).1
        cases left with
        | nil => exact absurd rfl nonempty
        | cons head left =>
            have inRest : first ∈ rest := by
              rw [(List.cons.inj split).2, ← isFirst]
              simp
            exact absurd inRest once

omit [DecidableEq α] in
theorem infix_append_cons_iff (once : first ∉ rest) :
    first :: rest <:+: left ++ first :: right ↔
      first :: rest <:+: left ∨ first :: rest <:+: first :: right := by
  induction left with
  | nil =>
      rw [List.nil_append, List.infix_nil]
      simp
  | cons item left inductionHypothesis =>
      have inLonger : first :: rest <:+: item :: left ↔
          first :: rest <+: item :: left ∨ first :: rest <:+: left :=
        List.infix_cons_iff
      rw [List.cons_append, List.infix_cons_iff, inductionHypothesis, inLonger]
      constructor
      · rintro (isHere | inLeft | inRight)
        · exact Or.inl (Or.inl (prefix_of_prefix_append once
            (List.cons_ne_nil item left) isHere))
        · exact Or.inl (Or.inr inLeft)
        · exact Or.inr inRight
      · rintro ((isHere | inLeft) | inRight)
        · have longer : first :: rest <+: (item :: left) ++ first :: right :=
            isHere.trans (List.prefix_append _ _)
          exact Or.inl longer
        · exact Or.inr (Or.inl inLeft)
        · exact Or.inr (Or.inr inRight)

omit [DecidableEq α] in
theorem infix_of_infix_append {skipped : List α} (absent : first ∉ skipped)
    (occurs : first :: rest <:+: skipped ++ right) :
    first :: rest <:+: right := by
  induction skipped with
  | nil => exact occurs
  | cons item skipped inductionHypothesis =>
      rw [List.mem_cons, not_or] at absent
      rw [List.cons_append, List.infix_cons_iff] at occurs
      rcases occurs with isHere | later
      · exact absurd (List.cons_prefix_cons.mp isHere).1 absent.1
      · exact inductionHypothesis absent.2 later

/-- The search passes over a text in which the pattern does not occur. -/
theorem find_append_cons (once : first ∉ rest)
    (absent : ¬ first :: rest <:+: left) :
    find (first :: rest) (left ++ first :: right) =
      (find (first :: rest) (first :: right)).map (left.length + ·) := by
  induction left with
  | nil => simp
  | cons item left inductionHypothesis =>
      have notHere : ¬ first :: rest <+: (item :: left) ++ first :: right := by
        intro isHere
        apply absent
        exact (prefix_of_prefix_append once (List.cons_ne_nil item left)
          isHere).isInfix
      have later : ¬ first :: rest <:+: left := by
        intro occurs
        exact absent (List.infix_cons_iff.mpr (Or.inr occurs))
      rw [List.cons_append] at notHere ⊢
      rw [find, if_neg notHere, inductionHypothesis later, Option.map_map]
      congr 1
      funext position
      simp only [Function.comp_apply, List.length_cons]
      omega

/-- An occurrence is the last one when none begins after its first item. -/
theorem rfind_self_append (once : first ∉ rest)
    (absent : ¬ first :: rest <:+: right) :
    rfind (first :: rest) (first :: rest ++ right) = some 0 := by
  have noneAfter : rfind (first :: rest) (rest ++ right) = none := by
    rw [rfind_eq_none_iff]
    intro occurs
    exact absent (infix_of_infix_append once occurs)
  rw [List.cons_append, rfind, noneAfter]
  exact if_pos (List.prefix_append (first :: rest) right)

end Anchored

end OpenClipboard.Occurrence
