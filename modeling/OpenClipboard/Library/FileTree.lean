import Mathlib

/-!
# Trees with named children and their traversal

A tree is a leaf or a directory of named subtrees.  Its members are its leaves
and its empty directories, each with the names on the way to it; the other
directories are implied by them.  A breadth-first traversal that handles the
entries of each directory in any order visits exactly the members.
-/

namespace OpenClipboard.FileTree

universe u v

/-- A leaf, or a directory of named subtrees. -/
inductive Tree (ν : Type u) (φ : Type v) where
  | leaf (payload : φ)
  | directory (entries : List (ν × Tree ν φ))

namespace Tree

variable {ν : Type u} {φ : Type v}

mutual

/-- The number of directories, the tree itself included. -/
def directoryCount : Tree ν φ → Nat
  | .leaf _ => 0
  | .directory entries => 1 + directoryCountIn entries
termination_by structural tree => tree

def directoryCountIn : List (ν × Tree ν φ) → Nat
  | [] => 0
  | (_, tree) :: rest => directoryCount tree + directoryCountIn rest
termination_by structural entries => entries

end

mutual

/-- Leaves and empty directories, each with its path. -/
def members : Tree ν φ → List (List ν × Option φ)
  | .leaf payload => [([], some payload)]
  | .directory entries =>
      if entries.isEmpty then [([], none)] else membersIn entries
termination_by structural tree => tree

def membersIn : List (ν × Tree ν φ) → List (List ν × Option φ)
  | [] => []
  | (name, tree) :: rest =>
      (members tree).map (fun member => (name :: member.1, member.2)) ++
        membersIn rest
termination_by structural entries => entries

end

/-- Induction in which a directory may assume the property of every entry. -/
theorem entryInduction
    {motive : Tree ν φ → Prop}
    (leaf : ∀ payload, motive (.leaf payload))
    (directory : ∀ entries : List (ν × Tree ν φ),
      (∀ entry ∈ entries, motive entry.2) → motive (.directory entries)) :
    ∀ tree, motive tree
  | .leaf payload => leaf payload
  | .directory entries =>
      directory entries fun entry member => by
        have smaller : sizeOf entry.2 < 1 + sizeOf entries := by
          have inList := List.sizeOf_lt_of_mem member
          cases entry
          simp_all only [Prod.mk.sizeOf_spec]
          omega
        exact entryInduction leaf directory entry.2
termination_by tree => sizeOf tree

theorem membersIn_eq_flatMap (entries : List (ν × Tree ν φ)) :
    membersIn entries = entries.flatMap fun entry =>
      (members entry.2).map fun member =>
        (entry.1 :: member.1, member.2) := by
  induction entries with
  | nil => rfl
  | cons head tail inductionHypothesis =>
      rw [membersIn, inductionHypothesis, List.flatMap_cons]

theorem directoryCountIn_eq_sum (entries : List (ν × Tree ν φ)) :
    directoryCountIn entries =
      (entries.map fun entry => directoryCount entry.2).sum := by
  induction entries with
  | nil => rfl
  | cons head tail inductionHypothesis =>
      rw [directoryCountIn, inductionHypothesis, List.map_cons,
        List.sum_cons]

/-- Every tree has a member. -/
theorem members_ne_nil (tree : Tree ν φ) : members tree ≠ [] := by
  induction tree using entryInduction with
  | leaf payload => simp [members]
  | directory entries inductionHypothesis =>
      cases entries with
      | nil => simp [members]
      | cons head tail =>
          have headMembers := inductionHypothesis head List.mem_cons_self
          simp [members, membersIn, headMembers]

/-- A leaf inside a directory has a name on its path. -/
theorem path_ne_nil_of_leaf
    {entries : List (ν × Tree ν φ)} {path : List ν} {payload : φ}
    (member : (path, some payload) ∈ members (.directory entries)) :
    path ≠ [] := by
  rw [members] at member
  split at member
  · simp at member
  · rw [membersIn_eq_flatMap] at member
    obtain ⟨entry, _, below⟩ := List.mem_flatMap.mp member
    obtain ⟨inner, _, spelled⟩ := List.mem_map.mp below
    simp only [Prod.mk.injEq] at spelled
    rw [← spelled.1]
    exact List.cons_ne_nil _ _

/-- A directory of leaves only is one whose members all sit directly in it. -/
theorem entries_leaves_iff (entries : List (ν × Tree ν φ)) :
    (entries ≠ [] ∧ ∀ entry ∈ entries, ∃ payload, entry.2 = .leaf payload) ↔
      ∀ member ∈ members (.directory entries),
        member.2 ≠ none ∧ member.1.length < 2 := by
  constructor
  · rintro ⟨nonempty, leaves⟩ member inMembers
    rw [members, if_neg (by simpa using nonempty),
      membersIn_eq_flatMap] at inMembers
    obtain ⟨entry, inEntries, below⟩ := List.mem_flatMap.mp inMembers
    obtain ⟨payload, isLeaf⟩ := leaves entry inEntries
    rw [isLeaf, members] at below
    simp only [List.map_cons, List.map_nil, List.mem_singleton] at below
    subst below
    simp
  · intro direct
    have nonempty : entries ≠ [] := by
      rintro rfl
      exact (direct ([], none) (by simp [members])).1 rfl
    refine ⟨nonempty, fun entry inEntries => ?_⟩
    obtain ⟨name, tree⟩ := entry
    cases tree with
    | leaf payload => exact ⟨payload, rfl⟩
    | directory inner =>
        obtain ⟨deeper, inDeeper⟩ := List.exists_mem_of_ne_nil _
          (members_ne_nil (.directory inner))
        have inMembers : (name :: deeper.1, deeper.2) ∈
            members (.directory entries) := by
          rw [members, if_neg (by simpa using nonempty),
            membersIn_eq_flatMap]
          exact List.mem_flatMap.mpr
            ⟨_, inEntries, List.mem_map.mpr ⟨deeper, inDeeper, rfl⟩⟩
        obtain ⟨present, short⟩ := direct _ inMembers
        obtain ⟨path, payload⟩ := deeper
        cases payload with
        | none => exact absurd rfl present
        | some payload =>
            have named := path_ne_nil_of_leaf inDeeper
            have positive := List.length_pos_iff.mpr named
            simp only [List.length_cons] at short
            omega

/-! ## Looking up a path -/

section Find

variable [DecidableEq ν]

/-- The subtree at a path; among entries of one name the first counts. -/
def find : Tree ν φ → List ν → Option (Tree ν φ)
  | tree, [] => some tree
  | .leaf _, _ :: _ => none
  | .directory entries, name :: rest =>
      match entries.find? fun entry => entry.1 == name with
      | none => none
      | some entry => find entry.2 rest

mutual

/-- No directory lists a name twice. -/
def uniqueNames : Tree ν φ → Bool
  | .leaf _ => true
  | .directory entries =>
      decide (entries.map Prod.fst).Nodup && uniqueNamesIn entries
termination_by structural tree => tree

def uniqueNamesIn : List (ν × Tree ν φ) → Bool
  | [] => true
  | (_, tree) :: rest => uniqueNames tree && uniqueNamesIn rest
termination_by structural entries => entries

end

variable {entries : List (ν × Tree ν φ)} {entry : ν × Tree ν φ}

theorem uniqueNames_of_mem (unique : uniqueNamesIn entries = true)
    (member : entry ∈ entries) :
    uniqueNames entry.2 = true := by
  induction entries with
  | nil => cases member
  | cons head tail inductionHypothesis =>
      rw [uniqueNamesIn, Bool.and_eq_true] at unique
      rcases List.mem_cons.mp member with rfl | inTail
      · exact unique.1
      · exact inductionHypothesis unique.2 inTail

theorem find?_of_nodup (unique : (entries.map Prod.fst).Nodup)
    (member : entry ∈ entries) :
    (entries.find? fun tested => tested.1 == entry.1) = some entry := by
  induction entries with
  | nil => cases member
  | cons head tail inductionHypothesis =>
      rw [List.map_cons, List.nodup_cons] at unique
      rcases List.mem_cons.mp member with rfl | inTail
      · simp
      · have differs : head.1 ≠ entry.1 := fun same =>
          unique.1 (same ▸ List.mem_map_of_mem inTail)
        rw [List.find?_cons_of_neg (by simpa using differs)]
        exact inductionHypothesis unique.2 inTail

/-- What a listing shows is what the extended path shows. -/
theorem find_entry {tree : Tree ν φ} (unique : uniqueNames tree = true)
    {path : List ν} (found : find tree path = some (.directory entries))
    (member : entry ∈ entries) :
    find tree (path ++ [entry.1]) = some entry.2 := by
  induction path generalizing tree with
  | nil =>
      simp only [find, Option.some.injEq] at found
      subst found
      rw [uniqueNames, Bool.and_eq_true, decide_eq_true_eq] at unique
      simp [find, find?_of_nodup unique.1 member]
  | cons name rest inductionHypothesis =>
      cases tree with
      | leaf payload => simp [find] at found
      | directory listing =>
          rw [uniqueNames, Bool.and_eq_true] at unique
          rw [List.cons_append, find]
          rw [find] at found
          split at found
          · cases found
          · rename_i inner isInner
            exact inductionHypothesis (uniqueNames_of_mem unique.2
              (List.mem_of_find?_eq_some isInner)) found

end Find

/-! ## Breadth-first traversal -/

/-- The leaves among the entries of one directory. -/
def leavesOf (entries : List (ν × Tree ν φ)) : List (ν × φ) :=
  entries.filterMap fun entry =>
    match entry.2 with
    | .leaf payload => some (entry.1, payload)
    | .directory _ => none

/-- The subdirectories among the entries of one directory. -/
def directoriesOf (entries : List (ν × Tree ν φ)) :
    List (ν × List (ν × Tree ν φ)) :=
  entries.filterMap fun entry =>
    match entry.2 with
    | .leaf _ => none
    | .directory inner => some (entry.1, inner)

/-- A directory waiting to be read, with the path to it. -/
abbrev Waiting (ν : Type u) (φ : Type v) :=
  List ν × List (ν × Tree ν φ)

/-- Emit the leaves of the first waiting directory, put its subdirectories at
the end of the queue; an empty directory is emitted itself. -/
def breadthFirst
    (arrange : List (ν × Tree ν φ) → List (ν × Tree ν φ)) :
    Nat → List (Waiting ν φ) → List (List ν × Option φ)
  | 0, _ => []
  | _ + 1, [] => []
  | fuel + 1, (path, entries) :: queue =>
      if entries.isEmpty then
        (path, none) :: breadthFirst arrange fuel queue
      else
        (leavesOf (arrange entries)).map
            (fun leaf => (path ++ [leaf.1], some leaf.2)) ++
          breadthFirst arrange fuel
            (queue ++ (directoriesOf (arrange entries)).map
              fun inner => (path ++ [inner.1], inner.2))

def waitingMembers (waiting : Waiting ν φ) : List (List ν × Option φ) :=
  (members (.directory waiting.2)).map fun member =>
    (waiting.1 ++ member.1, member.2)

/-- How many directories a queue still has to read. -/
def queueCount (queue : List (Waiting ν φ)) : Nat :=
  (queue.map fun waiting => directoryCount (.directory waiting.2)).sum

theorem directoryCountIn_perm
    {left right : List (ν × Tree ν φ)} (permutation : left.Perm right) :
    directoryCountIn left = directoryCountIn right := by
  rw [directoryCountIn_eq_sum, directoryCountIn_eq_sum]
  exact (permutation.map _).sum_nat

theorem queueCount_directoriesOf
    (path : List ν) (entries : List (ν × Tree ν φ)) :
    queueCount ((directoriesOf entries).map fun inner =>
        (path ++ [inner.1], inner.2)) =
      directoryCountIn entries := by
  induction entries with
  | nil => rfl
  | cons head tail inductionHypothesis =>
      obtain ⟨name, tree⟩ := head
      cases tree with
      | leaf payload =>
          simpa [directoriesOf, directoryCountIn, directoryCount]
            using inductionHypothesis
      | directory inner =>
          have tailCount := inductionHypothesis
          simp only [queueCount, directoriesOf, List.map_map] at tailCount
          simp [queueCount, directoriesOf, directoryCountIn, tailCount]

/-- The members of a directory are its leaves and what is below its
subdirectories. -/
theorem membersIn_perm (entries : List (ν × Tree ν φ)) :
    (membersIn entries).Perm
      ((leavesOf entries).map (fun leaf => ([leaf.1], some leaf.2)) ++
        (directoriesOf entries).flatMap fun inner =>
          (members (.directory inner.2)).map fun member =>
            (inner.1 :: member.1, member.2)) := by
  induction entries with
  | nil => exact List.Perm.refl _
  | cons head tail inductionHypothesis =>
      obtain ⟨name, tree⟩ := head
      cases tree with
      | leaf payload =>
          simpa [membersIn, members, leavesOf, directoriesOf]
            using inductionHypothesis
      | directory inner =>
          rw [membersIn]
          have moved := (List.Perm.append_left
            ((members (.directory inner)).map fun member =>
              (name :: member.1, member.2)) inductionHypothesis).trans
            (List.perm_append_comm_assoc _ _ _)
          simpa [leavesOf, directoriesOf] using moved

theorem membersIn_perm_of_perm
    {left right : List (ν × Tree ν φ)} (permutation : left.Perm right) :
    (membersIn left).Perm (membersIn right) := by
  rw [membersIn_eq_flatMap, membersIn_eq_flatMap]
  exact permutation.flatMap_right _

/-- With fuel for every directory of the queue, the traversal visits exactly
the members below it. -/
theorem breadthFirst_perm
    {arrange : List (ν × Tree ν φ) → List (ν × Tree ν φ)}
    (rearranges : ∀ entries, (arrange entries).Perm entries)
    {fuel : Nat} {queue : List (Waiting ν φ)}
    (enough : queueCount queue ≤ fuel) :
    (breadthFirst arrange fuel queue).Perm
      (queue.flatMap waitingMembers) := by
  induction fuel generalizing queue with
  | zero =>
      cases queue with
      | nil => exact List.Perm.refl _
      | cons head tail =>
          simp [queueCount, directoryCount] at enough
  | succ fuel inductionHypothesis =>
      cases queue with
      | nil => exact List.Perm.refl _
      | cons head tail =>
          obtain ⟨path, entries⟩ := head
          have spent : directoryCountIn entries + queueCount tail ≤ fuel := by
            simp only [queueCount, List.map_cons, List.sum_cons,
              directoryCount] at enough ⊢
            omega
          by_cases none : entries.isEmpty = true
          · have tailVisited := inductionHypothesis
              (show queueCount tail ≤ fuel by omega)
            have empty : entries = [] := List.isEmpty_iff.mp none
            subst empty
            simpa [breadthFirst, waitingMembers, members] using tailVisited
          · have arranged := rearranges entries
            have queued : queueCount
                (tail ++ (directoriesOf (arrange entries)).map
                  fun inner => (path ++ [inner.1], inner.2)) ≤ fuel := by
              have inner := queueCount_directoriesOf path (arrange entries)
              rw [directoryCountIn_perm arranged] at inner
              simp only [queueCount, List.map_append,
                List.sum_append] at inner spent ⊢
              omega
            have rest := inductionHypothesis queued
            have below :
                (waitingMembers (path, entries)).Perm
                  ((leavesOf (arrange entries)).map
                      (fun leaf => (path ++ [leaf.1], some leaf.2)) ++
                    ((directoriesOf (arrange entries)).map
                      fun inner => (path ++ [inner.1], inner.2)).flatMap
                        waitingMembers) := by
              have unordered := ((membersIn_perm_of_perm arranged).symm.trans
                (membersIn_perm (arrange entries))).map
                  fun member => (path ++ member.1, member.2)
              simpa [waitingMembers, members, none, List.flatMap_map,
                List.map_flatMap, Function.comp_def] using unordered
            rw [breadthFirst, if_neg none, List.flatMap_cons]
            refine (List.Perm.append_left _ rest).trans ?_
            rw [List.flatMap_append]
            refine List.Perm.trans ?_ (List.Perm.append_right _ below.symm)
            rw [List.append_assoc]
            exact List.Perm.append_left _ List.perm_append_comm

end Tree

end OpenClipboard.FileTree
