import Mathlib.Data.List.AList

/-!
# Tables

A table maps keys to rows; it is Mathlib's association list with unique keys.
Inserting a list of rows and erasing a list of keys are iterated; a lookup
sees the last row inserted for its key and no erased one.
-/

namespace OpenClipboard

universe u v

/-- A finite table with a primary key. -/
abbrev Table (Key : Type u) (Row : Type v) := AList fun _ : Key => Row

namespace Table

variable {Key : Type u} {Row : Type v} [DecidableEq Key]

/-- The row under a key. -/
def find (table : Table Key Row) (key : Key) : Option Row :=
  AList.lookup key table

/-- Insert or overwrite. -/
def put (table : Table Key Row) (key : Key) (row : Row) : Table Key Row :=
  AList.insert key row table

def remove (table : Table Key Row) (key : Key) : Table Key Row :=
  AList.erase key table

def removeAll (table : Table Key Row) (keys : List Key) : Table Key Row :=
  keys.foldl remove table

/-- Remove the rows whose key satisfies a predicate. -/
def removeWhere (table : Table Key Row) (chosen : Key → Bool) :
    Table Key Row :=
  table.removeAll (table.keys.filter chosen)

/-- Insert or overwrite a row for each item of a list. -/
def putEach {α : Type u} (keyOf : α → Key) (rowOf : α → Row)
    (table : Table Key Row) (items : List α) : Table Key Row :=
  items.foldl (fun filled item => filled.put (keyOf item) (rowOf item)) table

def rows (table : Table Key Row) : List (Key × Row) :=
  table.entries.map fun entry => (entry.1, entry.2)

variable {table : Table Key Row} {key other : Key} {row : Row}

@[simp]
theorem find_empty : (∅ : Table Key Row).find key = none :=
  AList.lookup_empty key

@[simp]
theorem find_put_self : (table.put key row).find key = some row :=
  AList.lookup_insert table

theorem find_put_of_ne (different : other ≠ key) :
    (table.put key row).find other = table.find other :=
  AList.lookup_insert_ne different

theorem find_put :
    (table.put key row).find other =
      if other = key then some row else table.find other := by
  by_cases same : other = key
  · subst same
    rw [if_pos rfl, find_put_self]
  · rw [if_neg same, find_put_of_ne same]

@[simp]
theorem find_remove_self : (table.remove key).find key = none :=
  AList.lookup_erase key table

theorem find_remove :
    (table.remove key).find other =
      if other = key then none else table.find other := by
  by_cases same : other = key
  · subst same
    rw [if_pos rfl, find_remove_self]
  · rw [if_neg same]
    exact AList.lookup_erase_ne same

theorem find_removeAll (keys : List Key) :
    (table.removeAll keys).find other =
      if other ∈ keys then none else table.find other := by
  induction keys generalizing table with
  | nil => simp [removeAll]
  | cons head tail inductionHypothesis =>
      have step : (table.removeAll (head :: tail)).find other =
          ((table.remove head).removeAll tail).find other := rfl
      rw [step, inductionHypothesis, find_remove]
      by_cases inTail : other ∈ tail
      · simp [inTail]
      · by_cases same : other = head
        · simp [same]
        · simp [inTail, same]

theorem find_removeWhere (chosen : Key → Bool) :
    (table.removeWhere chosen).find other =
      if chosen other then none else table.find other := by
  have absent : other ∉ table.keys → table.find other = none :=
    fun notKey => AList.lookup_eq_none.mpr notKey
  rw [removeWhere, find_removeAll]
  by_cases isChosen : chosen other = true
  · by_cases isKey : other ∈ table.keys
    · simp [isChosen, isKey]
    · simp [isChosen, isKey, absent isKey]
  · simp [isChosen]

section PutEach

variable {α : Type u} {keyOf : α → Key} {rowOf : α → Row} {items : List α}

theorem find_putEach_of_not_mem (absent : key ∉ items.map keyOf) :
    (table.putEach keyOf rowOf items).find key = table.find key := by
  induction items generalizing table with
  | nil => rfl
  | cons head tail inductionHypothesis =>
      rw [List.map_cons, List.mem_cons, not_or] at absent
      have step : (table.putEach keyOf rowOf (head :: tail)).find key =
          ((table.put (keyOf head) (rowOf head)).putEach keyOf rowOf
            tail).find key := rfl
      rw [step, inductionHypothesis absent.2, find_put_of_ne absent.1]

/-- With distinct keys each item has its row. -/
theorem find_putEach_of_mem {item : α} (distinct : (items.map keyOf).Nodup)
    (member : item ∈ items) :
    (table.putEach keyOf rowOf items).find (keyOf item) =
      some (rowOf item) := by
  induction items generalizing table with
  | nil => cases member
  | cons head tail inductionHypothesis =>
      rw [List.map_cons, List.nodup_cons] at distinct
      have step : (table.putEach keyOf rowOf (head :: tail)).find (keyOf item) =
          ((table.put (keyOf head) (rowOf head)).putEach keyOf rowOf
            tail).find (keyOf item) := rfl
      rw [step]
      cases List.mem_cons.mp member with
      | inl isHead =>
          subst isHead
          rw [find_putEach_of_not_mem distinct.1, find_put_self]
      | inr inTail => exact inductionHypothesis distinct.2 inTail

/-- Every key of a list gets the same row. -/
theorem find_putEach_id {keys : List Key} :
    (table.putEach id (fun _ => row) keys).find key =
      if key ∈ keys then some row else table.find key := by
  induction keys generalizing table with
  | nil => simp [putEach]
  | cons head tail inductionHypothesis =>
      have step : (table.putEach id (fun _ => row) (head :: tail)).find key =
          ((table.put head row).putEach id (fun _ => row) tail).find key := rfl
      rw [step, inductionHypothesis, find_put]
      by_cases inTail : key ∈ tail
      · simp [inTail]
      · by_cases same : key = head
        · simp [same]
        · simp [inTail, same]

end PutEach

theorem mem_rows_iff : (key, row) ∈ table.rows ↔ table.find key = some row := by
  have listed : (key, row) ∈ table.rows ↔
      Sigma.mk key row ∈ table.entries := by
    constructor
    · intro member
      obtain ⟨entry, inEntries, same⟩ := List.mem_map.mp member
      cases same
      exact inEntries
    · intro member
      exact List.mem_map.mpr ⟨_, member, rfl⟩
  rw [listed]
  exact AList.mem_lookup_iff.symm

/-- A key has one row or none. -/
theorem countP_rows :
    table.rows.countP (fun entry => entry.1 = key) =
      if (table.find key).isSome then 1 else 0 := by
  have counted : table.rows.countP (fun entry => entry.1 = key) =
      table.keys.count key := by
    unfold rows AList.keys List.keys List.count
    rw [List.countP_map, List.countP_map]
    exact List.countP_congr fun entry _ => by simp
  have found : (table.find key).isSome = true ↔ key ∈ table.keys :=
    AList.lookup_isSome
  rw [counted, List.Nodup.count table.keys_nodup]
  simp only [found]

theorem rows_perm_remove (found : table.find key = some row) :
    table.rows.Perm ((key, row) :: (table.remove key).rows) := by
  have listed : Sigma.mk key row ∈ table.entries := AList.mem_lookup_iff.mp found
  rcases List.exists_of_kerase (List.mem_keys_of_mem listed) with
    ⟨other, before, after, notBefore, isSplit, erased⟩
  have same : other = row := by
    have otherListed : Sigma.mk key other ∈ table.entries := by
      rw [isSplit]
      exact List.mem_append_right _ List.mem_cons_self
    have otherFound := AList.mem_lookup_iff.mpr otherListed
    unfold find at found
    rw [found] at otherFound
    cases otherFound
    rfl
  have removed : (table.remove key).entries = before ++ after := erased
  unfold rows
  rw [removed, isSplit, same, List.map_append, List.map_append, List.map_cons]
  exact List.perm_middle

/-- A row that is put is the first one. -/
theorem rows_put :
    (table.put key row).rows = (key, row) :: (table.remove key).rows := by
  unfold rows put remove
  rw [AList.entries_insert, List.map_cons]
  rfl

theorem rows_put_of_absent (absent : table.find key = none) :
    (table.put key row).rows = (key, row) :: table.rows := by
  have notThere : key ∉ table := AList.lookup_eq_none.mp absent
  unfold rows put
  rw [AList.entries_insert_of_notMem notThere, List.map_cons]

omit [DecidableEq Key] in
theorem keys_rows : table.rows.map Prod.fst = table.keys := by
  unfold rows AList.keys List.keys
  rw [List.map_map]
  rfl

end Table

end OpenClipboard
