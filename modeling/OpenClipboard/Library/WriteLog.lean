import Mathlib.Data.List.Induction

/-!
# Logs of blind writes

A store is read cell by cell.  A statement writes some cells, each with a
content that does not depend on the store, and leaves the others alone.  Two
logs leave the same content in a cell as soon as their last writes to it
agree.
-/

namespace OpenClipboard

universe u v w x

/-- Statements that write cells of a store blindly.  `effect` answers `none`
for a cell that the statement leaves alone. -/
structure BlindWrites (Store : Type u) (Statement : Type v) (Cell : Type w)
    (Content : Type x) where
  read : Store → Cell → Content
  perform : Store → Statement → Store
  effect : Statement → Cell → Option Content
  read_perform : ∀ store statement cell,
    read (perform store statement) cell =
      (effect statement cell).getD (read store cell)

namespace BlindWrites

variable {Store : Type u} {Statement : Type v} {Cell : Type w}
  {Content : Type x}
variable (writes : BlindWrites Store Statement Cell Content)

/-- Perform a log in its order. -/
def replay (log : List Statement) (store : Store) : Store :=
  log.foldl writes.perform store

def lastWrite (log : List Statement) (cell : Cell) : Option Content :=
  log.foldl (fun last statement => (writes.effect statement cell).or last) none

/-- Two stores that read alike in every cell. -/
def Alike (first second : Store) : Prop :=
  ∀ cell, writes.read first cell = writes.read second cell

theorem replay_append (first second : List Statement) (store : Store) :
    writes.replay (first ++ second) store =
      writes.replay second (writes.replay first store) :=
  List.foldl_append

@[simp]
theorem lastWrite_append_singleton (log : List Statement)
    (statement : Statement) (cell : Cell) :
    writes.lastWrite (log ++ [statement]) cell =
      (writes.effect statement cell).or (writes.lastWrite log cell) := by
  simp [lastWrite]

theorem lastWrite_append (first second : List Statement) (cell : Cell) :
    writes.lastWrite (first ++ second) cell =
      (writes.lastWrite second cell).or (writes.lastWrite first cell) := by
  induction second using List.reverseRecOn with
  | nil => simp [lastWrite]
  | append_singleton past statement inductionHypothesis =>
      rw [← List.append_assoc, lastWrite_append_singleton,
        inductionHypothesis, lastWrite_append_singleton, Option.or_assoc]

/-- A cell that no statement of a log writes has no last write. -/
theorem lastWrite_eq_none {log : List Statement} {cell : Cell}
    (untouched : ∀ statement ∈ log, writes.effect statement cell = none) :
    writes.lastWrite log cell = none := by
  induction log using List.reverseRecOn with
  | nil => rfl
  | append_singleton past statement inductionHypothesis =>
      rw [lastWrite_append_singleton,
        untouched statement (List.mem_append_right past List.mem_cons_self),
        Option.none_or]
      exact inductionHypothesis fun other member =>
        untouched other (List.mem_append_left _ member)

/-- A cell holds what was last written to it. -/
theorem read_replay (log : List Statement) (store : Store) (cell : Cell) :
    writes.read (writes.replay log store) cell =
      (writes.lastWrite log cell).getD (writes.read store cell) := by
  induction log using List.reverseRecOn with
  | nil => rfl
  | append_singleton past statement inductionHypothesis =>
      have step : writes.replay (past ++ [statement]) store =
          writes.perform (writes.replay past store) statement := by
        rw [replay_append]
        rfl
      rw [step, writes.read_perform, inductionHypothesis,
        lastWrite_append_singleton]
      cases writes.effect statement cell <;> rfl

variable {writes} {first second third : Store}

theorem Alike.refl (store : Store) : writes.Alike store store :=
  fun _ => rfl

theorem Alike.replay (alike : writes.Alike first second)
    (log : List Statement) :
    writes.Alike (writes.replay log first) (writes.replay log second) := by
  intro cell
  rw [writes.read_replay, writes.read_replay, alike cell]

end BlindWrites

end OpenClipboard
