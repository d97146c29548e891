import Mathlib.Data.List.Pairwise
import Mathlib.Order.Lattice

/-!
# Maps in the order of their keys

Entries of a map are listed in the order of the keys, each key once, so that
two maps with the same entries are equal.
-/

namespace OpenClipboard

@[ext]
structure SortedMap (κ α : Type) [LinearOrder κ] where
  entries : List (κ × α)
  sorted : entries.Pairwise fun left right => left.1 < right.1

namespace SortedMap

variable {κ α : Type} [LinearOrder κ]

instance [DecidableEq α] : DecidableEq (SortedMap κ α) := fun left right =>
  decidable_of_iff (left.entries = right.entries) SortedMap.ext_iff.symm

instance : EmptyCollection (SortedMap κ α) where
  emptyCollection := ⟨[], List.Pairwise.nil⟩

/-- The entries below a key, the entry, and the entries above. -/
def insertEntry (entries : List (κ × α)) (key : κ) (value : α) :
    List (κ × α) :=
  entries.filter (fun entry => entry.1 < key) ++
    (key, value) :: entries.filter fun entry => key < entry.1

theorem sorted_insertEntry {entries : List (κ × α)}
    (sorted : entries.Pairwise fun left right => left.1 < right.1)
    (key : κ) (value : α) :
    (insertEntry entries key value).Pairwise fun left right =>
      left.1 < right.1 := by
  have below : ∀ entry ∈ entries.filter fun entry => entry.1 < key,
      entry.1 < key := by
    intro entry member
    exact of_decide_eq_true (List.mem_filter.mp member).2
  have above : ∀ entry ∈ entries.filter fun entry => key < entry.1,
      key < entry.1 := by
    intro entry member
    exact of_decide_eq_true (List.mem_filter.mp member).2
  apply List.pairwise_append.mpr
  refine ⟨sorted.filter _, ?_, ?_⟩
  · exact List.pairwise_cons.mpr ⟨above, sorted.filter _⟩
  · intro left isLeft right isRight
    rcases List.mem_cons.mp isRight with isEntry | isAbove
    · rw [isEntry]
      exact below left isLeft
    · exact lt_trans (below left isLeft) (above right isAbove)

/-- The value of a key that is present is replaced. -/
def insert (map : SortedMap κ α) (key : κ) (value : α) : SortedMap κ α where
  entries := insertEntry map.entries key value
  sorted := sorted_insertEntry map.sorted key value

/-- Later entries replace earlier ones. -/
def ofList (entries : List (κ × α)) : SortedMap κ α :=
  entries.foldl (fun map entry => map.insert entry.1 entry.2) ∅

theorem insert_of_below {map : SortedMap κ α} {key : κ} (value : α)
    (below : ∀ entry ∈ map.entries, entry.1 < key) :
    (map.insert key value).entries = map.entries ++ [(key, value)] := by
  have all : map.entries.filter (fun entry => entry.1 < key) = map.entries := by
    rw [List.filter_eq_self]
    exact fun entry member => decide_eq_true (below entry member)
  have noneAbove : map.entries.filter (fun entry => key < entry.1) = [] := by
    rw [List.filter_eq_nil_iff]
    intro entry member isAbove
    exact lt_asymm (below entry member) (of_decide_eq_true isAbove)
  have entries : (map.insert key value).entries =
      insertEntry map.entries key value := rfl
  rw [entries, insertEntry, all, noneAbove]

theorem foldl_insert {map : SortedMap κ α} {entries : List (κ × α)}
    (sorted : (map.entries ++ entries).Pairwise fun left right =>
      left.1 < right.1) :
    (entries.foldl (fun map entry => map.insert entry.1 entry.2) map).entries =
      map.entries ++ entries := by
  induction entries generalizing map with
  | nil => exact (List.append_nil _).symm
  | cons entry rest inductionHypothesis =>
      have below : ∀ other ∈ map.entries, other.1 < entry.1 := by
        intro other member
        exact (List.pairwise_append.mp sorted).2.2 other member entry
          List.mem_cons_self
      have inserted := insert_of_below entry.2 below
      rw [List.append_cons] at sorted
      rw [List.foldl_cons, inductionHypothesis]
      · rw [inserted, List.append_assoc]
        rfl
      · rw [inserted]
        exact sorted

theorem entries_ofList {entries : List (κ × α)}
    (sorted : entries.Pairwise fun left right => left.1 < right.1) :
    (ofList entries).entries = entries :=
  foldl_insert sorted

/-- A map is restored from its entries. -/
theorem ofList_entries (map : SortedMap κ α) : ofList map.entries = map := by
  apply SortedMap.ext
  exact entries_ofList map.sorted

end SortedMap

end OpenClipboard
