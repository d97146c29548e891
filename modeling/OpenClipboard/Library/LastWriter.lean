import Mathlib

/-!
# Last-writer-wins registers over a linear order of keys

A register holds at most one value.  Offering a value replaces the stored one
exactly when its key is strictly greater, so the rank of a register (the key
it holds, or bottom) only grows and is the maximum of everything offered.
Registers drawn from one set of values on which the key is injective agree as
soon as their ranks do.
-/

namespace OpenClipboard.LastWriter

universe u v

variable {υ : Type u} {κ : Type v} (key : υ → κ)

/-- The key a register holds, `⊥` when it is empty. -/
def rank (stored : Option υ) : WithBot κ :=
  match stored with
  | none => ⊥
  | some current => (key current : WithBot κ)

@[simp]
theorem rank_none : rank key none = ⊥ := rfl

@[simp]
theorem rank_some (value : υ) : rank key (some value) = key value := rfl

/-- The register holds one of the given values, if it holds anything. -/
def DrawnFrom (values : Set υ) (stored : Option υ) : Prop :=
  ∀ value, stored = some value → value ∈ values

variable {values : Set υ} {stored : Option υ}

/-- Equal ranks mean equal values where keys determine values. -/
theorem eq_of_rank_eq {first second : Option υ}
    (injective : Set.InjOn key values) (firstDrawn : DrawnFrom values first)
    (secondDrawn : DrawnFrom values second)
    (sameRank : rank key first = rank key second) :
    first = second := by
  cases first with
  | none =>
      cases second with
      | none => rfl
      | some value => simp at sameRank
  | some left =>
      cases second with
      | none => simp at sameRank
      | some right =>
          have sameKey : key left = key right := by simpa using sameRank
          rw [injective (firstDrawn left rfl) (secondDrawn right rfl) sameKey]

variable [LinearOrder κ]

/-- Keep the value with the strictly greater key; a tie keeps what is stored. -/
def offer (stored : Option υ) (offered : υ) : Option υ :=
  match stored with
  | none => some offered
  | some current =>
      if key current < key offered then some offered else some current

theorem rank_offer (stored : Option υ) (offered : υ) :
    rank key (offer key stored offered) =
      max (rank key stored) (key offered) := by
  cases stored with
  | none => simp [offer]
  | some current =>
      by_cases newer : key current < key offered
      · simp [offer, newer, max_eq_right (WithBot.coe_le_coe.mpr newer.le)]
      · simp [offer, newer,
          max_eq_left (WithBot.coe_le_coe.mpr (not_lt.mp newer))]

theorem rank_le_offer (stored : Option υ) (offered : υ) :
    rank key stored ≤ rank key (offer key stored offered) := by
  rw [rank_offer]
  exact le_max_left _ _

theorem key_le_rank_offer (stored : Option υ) (offered : υ) :
    (key offered : WithBot κ) ≤ rank key (offer key stored offered) := by
  rw [rank_offer]
  exact le_max_right _ _

theorem offer_eq_of_lt {offered : υ} (newer : rank key stored < key offered) :
    offer key stored offered = some offered := by
  cases stored with
  | none => rfl
  | some current => exact if_pos (WithBot.coe_lt_coe.mp newer)

theorem offer_eq_of_le {offered : υ}
    (covered : (key offered : WithBot κ) ≤ rank key stored) :
    offer key stored offered = stored := by
  cases stored with
  | none => exact absurd covered (WithBot.bot_lt_coe _).not_ge
  | some current => exact if_neg (WithBot.coe_le_coe.mp covered).not_gt

/-- An offer leaves either the old value or the offered one. -/
theorem offer_eq_or (stored : Option υ) (offered : υ) :
    offer key stored offered = stored ∨
      offer key stored offered = some offered := by
  cases stored with
  | none => exact Or.inr rfl
  | some current =>
      by_cases newer : key current < key offered
      · exact Or.inr (by simp [offer, newer])
      · exact Or.inl (by simp [offer, newer])

/-- The register ranks at least as high as every given value. -/
def Covers (values : Set υ) (stored : Option υ) : Prop :=
  ∀ value ∈ values, (key value : WithBot κ) ≤ rank key stored

theorem DrawnFrom.offer {offered : υ} (drawn : DrawnFrom values stored)
    (member : offered ∈ values) :
    DrawnFrom values (offer key stored offered) := by
  intro value held
  rcases offer_eq_or key stored offered with kept | taken
  · exact drawn value (kept ▸ held)
  · rw [taken] at held
    cases held
    exact member

/-- Two registers drawn from the same values agree once each has been offered
all of them. -/
theorem eq_of_covers {first second : Option υ}
    (injective : Set.InjOn key values) (firstDrawn : DrawnFrom values first)
    (secondDrawn : DrawnFrom values second)
    (firstCovers : Covers key values first)
    (secondCovers : Covers key values second) :
    first = second := by
  have bounded : ∀ {low high : Option υ},
      DrawnFrom values low → Covers key values high →
        rank key low ≤ rank key high := by
    intro low high drawn covers
    cases low with
    | none => exact bot_le
    | some value => exact covers value (drawn value rfl)
  exact eq_of_rank_eq key injective firstDrawn secondDrawn
    (le_antisymm (bounded firstDrawn secondCovers)
      (bounded secondDrawn firstCovers))

end OpenClipboard.LastWriter
