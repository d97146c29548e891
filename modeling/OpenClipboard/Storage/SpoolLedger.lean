import Mathlib
import OpenClipboard.Library.Table

/-!
# The ledger of the spool

What the spool keeps in memory about the files in its directory, in the order
they were written, and what a write evicts from it.
-/

namespace OpenClipboard

namespace Spool

/-! ## The ledger -/

def entryBytes (entries : Table String Nat) : Nat :=
  (entries.rows.map Prod.snd).sum

theorem entryBytes_remove {entries : Table String Nat} {repId : String}
    {size : Nat} (found : entries.find repId = some size) :
    entryBytes entries = size + entryBytes (entries.remove repId) := by
  unfold entryBytes
  rw [((Table.rows_perm_remove found).map Prod.snd).sum_eq, List.map_cons,
    List.sum_cons]

theorem entryBytes_put {entries : Table String Nat} {repId : String}
    {size : Nat} (absent : entries.find repId = none) :
    entryBytes (entries.put repId size) = size + entryBytes entries := by
  unfold entryBytes
  rw [Table.rows_put_of_absent absent, List.map_cons, List.sum_cons]

/-- `SpoolState`: the entries, the last one written first, and the total that
is kept beside them. -/
structure SpoolState where
  entries : Table String Nat
  totalBytes : Nat
  exactly : totalBytes = entryBytes entries

namespace SpoolState

theorem new_exactly : 0 = entryBytes ∅ := rfl

def new : SpoolState := ⟨∅, 0, new_exactly⟩

section Operations

variable (state : SpoolState) (repId : String)

theorem exactly_remove {size : Nat}
    (found : state.entries.find repId = some size) :
    state.totalBytes - size = entryBytes (state.entries.remove repId) := by
  rw [state.exactly, entryBytes_remove found, Nat.add_sub_cancel_left]

def unregister : SpoolState :=
  match found : state.entries.find repId with
  | some oldSize =>
      ⟨state.entries.remove repId, state.totalBytes - oldSize,
        state.exactly_remove repId found⟩
  | none => state

theorem find_unregister (other : String) :
    (state.unregister repId).entries.find other =
      if other = repId then none else state.entries.find other := by
  unfold unregister
  split
  · exact Table.find_remove
  · rename_i absent
    by_cases same : other = repId
    · rw [if_pos same, same, absent]
    · rw [if_neg same]

theorem unregister_total :
    (state.unregister repId).totalBytes =
      state.totalBytes - (state.entries.find repId).getD 0 := by
  unfold unregister
  split
  · rename_i oldSize found
    have isOld : (state.entries.find repId).getD 0 = oldSize := by
      rw [found, Option.getD_some]
    rw [isOld]
  · rename_i absent
    rw [absent, Option.getD_none, Nat.sub_zero]

theorem size_le_total : (state.entries.find repId).getD 0 ≤ state.totalBytes := by
  cases found : state.entries.find repId with
  | none => exact Nat.zero_le _
  | some size =>
      rw [Option.getD_some, state.exactly, entryBytes_remove found]
      exact Nat.le_add_right _ _

theorem exactly_put (size : Nat) :
    (state.unregister repId).totalBytes + size =
      entryBytes ((state.unregister repId).entries.put repId size) := by
  have absent : (state.unregister repId).entries.find repId = none := by
    rw [find_unregister, if_pos rfl]
  rw [entryBytes_put absent, (state.unregister repId).exactly, Nat.add_comm]

/-- The last one written, also where it was there before. -/
def register (size : Nat) : SpoolState :=
  ⟨(state.unregister repId).entries.put repId size,
    (state.unregister repId).totalBytes + size, state.exactly_put repId size⟩

theorem find_register (size : Nat) (other : String) :
    (state.register repId size).entries.find other =
      if other = repId then some size else state.entries.find other := by
  unfold register
  rw [Table.find_put, find_unregister]
  by_cases same : other = repId
  · rw [if_pos same, if_pos same]
  · rw [if_neg same, if_neg same, if_neg same]

theorem register_total (size : Nat) :
    (state.register repId size).totalBytes =
      state.totalBytes - (state.entries.find repId).getD 0 + size := by
  rw [← unregister_total]
  rfl

theorem find_of_oldest {excludeId : Option String} {victim : String × Nat}
    (found : state.entries.rows.reverse.find?
      (fun entry => decide (excludeId ≠ some entry.1)) = some victim) :
    state.entries.find victim.1 = some victim.2 := by
  apply Table.mem_rows_iff.mp
  exact List.mem_reverse.mp (List.mem_of_find?_eq_some found)

/-- The oldest entry but the one excluded, and the ledger without it. -/
def popOldestExcept (excludeId : Option String) :
    Option ((String × Nat) × SpoolState) :=
  match found : state.entries.rows.reverse.find? fun entry =>
      decide (excludeId ≠ some entry.1) with
  | none => none
  | some victim =>
      some (victim, ⟨state.entries.remove victim.1,
        state.totalBytes - victim.2,
        state.exactly_remove victim.1 (state.find_of_oldest found)⟩)

end Operations

theorem popOldestExcept_cases (state : SpoolState) (repId : String) :
    (∃ victim after, state.popOldestExcept (some repId) = some (victim, after) ∧
      victim.1 ≠ repId ∧ state.entries.find victim.1 = some victim.2 ∧
      (∀ other, after.entries.find other =
        if other = victim.1 then none else state.entries.find other) ∧
      state.totalBytes = victim.2 + after.totalBytes ∧
      state.entries.rows.length = after.entries.rows.length + 1) ∨
    (state.popOldestExcept (some repId) = none ∧
      ∀ other, other ≠ repId → state.entries.find other = none) := by
  unfold popOldestExcept
  split
  · rename_i noneFound
    refine Or.inr ⟨rfl, ?_⟩
    intro other different
    rw [List.find?_eq_none] at noneFound
    by_contra tracked
    rcases Option.ne_none_iff_exists'.mp tracked with ⟨size, found⟩
    have member := List.mem_reverse.mpr (Table.mem_rows_iff.mpr found)
    have isExcluded := noneFound _ member
    simp only [ne_eq, Option.some.injEq, decide_not, Bool.not_eq_true',
      decide_eq_false_iff_not, not_not] at isExcluded
    exact different isExcluded.symm
  · rename_i victim isOldest
    have found := state.find_of_oldest isOldest
    refine Or.inl ⟨victim, _, rfl, ?_, found, ?_, ?_, ?_⟩
    · have differs := List.find?_some isOldest
      simp only [ne_eq, Option.some.injEq, decide_eq_true_eq] at differs
      exact fun same => differs same.symm
    · intro other
      exact Table.find_remove
    · have atMost : victim.2 ≤ state.totalBytes := by
        rw [state.exactly, entryBytes_remove found]
        exact Nat.le_add_right _ _
      exact (Nat.add_sub_cancel' atMost).symm
    · rw [(Table.rows_perm_remove found).length_eq]
      rfl

/-! ## Planning the evictions of a write -/

/-- Pop the oldest entries until the running total fits, or there is nothing
else to pop. -/
def popUntilWithin (maxBytes : Nat) (incomingId : String) :
    Nat → Nat → SpoolState → List String × SpoolState
  | 0, _, state => ([], state)
  | fuel + 1, runningTotal, state =>
      if runningTotal ≤ maxBytes then
        ([], state)
      else
        match state.popOldestExcept (some incomingId) with
        | none => ([], state)
        | some (victim, after) =>
            let rest := popUntilWithin maxBytes incomingId fuel
              (runningTotal - victim.2) after
            (victim.1 :: rest.1, rest.2)

def planEviction (maxBytes : Nat) (incomingId : String) (incomingSize : Nat)
    (state : SpoolState) : List String × SpoolState :=
  let projectedTotal := state.totalBytes -
    (state.entries.find incomingId).getD 0 + incomingSize
  popUntilWithin maxBytes incomingId (state.entries.rows.length + 1)
    projectedTotal state

/-- The victims are distinct entries other than the incoming one, and exactly
they are gone. -/
structure Popped (state : SpoolState) (incomingId : String)
    (victims : List String) (after : SpoolState) : Prop where
  notIncoming : incomingId ∉ victims
  tracked : ∀ victim ∈ victims, state.entries.find victim ≠ none
  distinct : victims.Nodup
  find : ∀ other, after.entries.find other =
    if other ∈ victims then none else state.entries.find other

theorem Popped.refl (state : SpoolState) (incomingId : String) :
    Popped state incomingId [] state :=
  ⟨List.not_mem_nil, nofun, List.nodup_nil, fun other => by simp⟩

theorem popUntilWithin_popped (maxBytes : Nat) (incomingId : String)
    (fuel runningTotal : Nat) (state : SpoolState) :
    Popped state incomingId
      (popUntilWithin maxBytes incomingId fuel runningTotal state).1
      (popUntilWithin maxBytes incomingId fuel runningTotal state).2 := by
  induction fuel generalizing runningTotal state with
  | zero => exact Popped.refl state incomingId
  | succ fuel inductionHypothesis =>
      rw [popUntilWithin]
      split
      · exact Popped.refl state incomingId
      · rcases state.popOldestExcept_cases incomingId with
          ⟨victim, after, popped, notIncoming, wasThere, find, _, _⟩ |
            ⟨popped, _⟩
        · rw [popped]
          have rest := inductionHypothesis (runningTotal - victim.2) after
          refine ⟨?_, ?_, ?_, ?_⟩
          · intro isVictim
            rcases List.mem_cons.mp isVictim with isFirst | isLater
            · exact notIncoming isFirst.symm
            · exact rest.notIncoming isLater
          · intro other isVictim
            rcases List.mem_cons.mp isVictim with isFirst | isLater
            · rw [isFirst, wasThere]
              exact Option.some_ne_none _
            · have stillThere := rest.tracked other isLater
              rw [find] at stillThere
              split at stillThere
              · exact absurd rfl stillThere
              · exact stillThere
          · refine List.nodup_cons.mpr ⟨?_, rest.distinct⟩
            intro again
            have stillThere := rest.tracked victim.1 again
            rw [find, if_pos rfl] at stillThere
            exact stillThere rfl
          · intro other
            rw [rest.find, find]
            by_cases isLater : other ∈ (popUntilWithin maxBytes incomingId
                fuel (runningTotal - victim.2) after).1
            · rw [if_pos isLater, if_pos (List.mem_cons_of_mem _ isLater)]
            · rw [if_neg isLater]
              by_cases isFirst : other = victim.1
              · rw [if_pos isFirst, isFirst, if_pos List.mem_cons_self]
              · rw [if_neg isFirst, if_neg]
                rw [List.mem_cons, not_or]
                exact ⟨isFirst, isLater⟩
        · rw [popped]
          exact Popped.refl state incomingId

theorem total_of_only {state : SpoolState} {repId : String}
    (only : ∀ other, other ≠ repId → state.entries.find other = none) :
    state.totalBytes = (state.entries.find repId).getD 0 := by
  have isEmpty : (state.unregister repId).entries.rows = [] := by
    rw [List.eq_nil_iff_forall_not_mem]
    rintro ⟨other, size⟩ member
    have found := Table.mem_rows_iff.mp member
    rw [find_unregister] at found
    split at found
    · cases found
    · rename_i different
      rw [only other different] at found
      cases found
  have isZero : (state.unregister repId).totalBytes = 0 := by
    rw [(state.unregister repId).exactly]
    unfold entryBytes
    rw [isEmpty]
    rfl
  have upTo := state.size_le_total repId
  rw [unregister_total] at isZero
  omega

/-- After the evictions the incoming bytes fit in the place of what was there
under their id. -/
theorem popUntilWithin_total {maxBytes incomingSize : Nat}
    {incomingId : String} (fits : incomingSize ≤ maxBytes)
    (fuel runningTotal : Nat) (state : SpoolState)
    (enough : state.entries.rows.length < fuel)
    (isRunning : runningTotal = state.totalBytes -
      (state.entries.find incomingId).getD 0 + incomingSize) :
    (popUntilWithin maxBytes incomingId fuel runningTotal state).2.totalBytes -
        (state.entries.find incomingId).getD 0 + incomingSize ≤ maxBytes := by
  induction fuel generalizing runningTotal state with
  | zero => omega
  | succ fuel inductionHypothesis =>
      rw [popUntilWithin]
      split
      · rename_i within
        rw [isRunning] at within
        exact within
      · rcases state.popOldestExcept_cases incomingId with
          ⟨victim, after, popped, notIncoming, wasThere, find, total, shorter⟩ |
            ⟨popped, only⟩
        · rw [popped]
          have sameIncoming : after.entries.find incomingId =
              state.entries.find incomingId := by
            rw [find, if_neg (Ne.symm notIncoming)]
          have upTo := after.size_le_total incomingId
          rw [← sameIncoming] at isRunning ⊢
          exact inductionHypothesis _ _ (by omega) (by omega)
        · rw [popped]
          simp only
          rw [total_of_only only]
          omega

theorem planEviction_popped (maxBytes : Nat) (incomingId : String)
    (incomingSize : Nat) (state : SpoolState) :
    Popped state incomingId
      (planEviction maxBytes incomingId incomingSize state).1
      (planEviction maxBytes incomingId incomingSize state).2 :=
  popUntilWithin_popped _ _ _ _ _

theorem planEviction_total {maxBytes incomingSize : Nat} {incomingId : String}
    (state : SpoolState) (fits : incomingSize ≤ maxBytes) :
    (planEviction maxBytes incomingId incomingSize state).2.totalBytes -
        (state.entries.find incomingId).getD 0 + incomingSize ≤ maxBytes :=
  popUntilWithin_total fits _ _ _ (Nat.lt_succ_self _) rfl

end SpoolState

end Spool

end OpenClipboard
