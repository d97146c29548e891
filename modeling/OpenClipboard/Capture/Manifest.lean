import OpenClipboard.Capture.Traversal

/-!
# Complete manifests

A manifest without excluded lines is the result of a traversal that reached
every root and of hashing that succeeded for every file.  Its lines are the
lines that are no files, one line for each selected file, and the numbered
members of each selected directory.
-/

namespace OpenClipboard

open FileTree Text

/-- The members of a directory in the order the traversal visits them. -/
def visits : FsTree → List Visit
  | .leaf _ => []
  | .directory listing =>
      Tree.breadthFirst sortByFileName
        (Tree.directoryCount (.directory listing) + 1) [([], listing)]

theorem visits_perm (listing : List (Component × FsTree)) :
    (visits (.directory listing)).Perm
      (Tree.members (.directory listing)) := by
  have enough : Tree.queueCount [(([] : List Component), listing)] ≤
      Tree.directoryCount (.directory listing) + 1 := by
    simp [Tree.queueCount]
  have visited := Tree.breadthFirst_perm sortByFileName_perm enough
  simpa [visits, Tree.waitingMembers] using visited

theorem visits_ne_nil (listing : List (Component × FsTree)) :
    visits (.directory listing) ≠ [] := by
  intro none
  have permutation := visits_perm listing
  rw [none] at permutation
  exact Tree.members_ne_nil (.directory listing) permutation.symm.eq_nil

variable {root : TopLevelFileMember} {roots : List TopLevelFileMember}

section Manifest

variable (unicode : UnicodeNormalization) (fs : FileSystem)

def rootVisits (root : TopLevelFileMember) : Option (List Visit) :=
  match fs.lookup root.path with
  | some (.directory listing) => some (visits (.directory listing))
  | _ => none

def rootExecutable (root : TopLevelFileMember) : Bool :=
  match fs.lookup root.path with
  | some (.leaf (.file executable _ _)) => executable
  | _ => false

/-- How many line indexes a root takes from the shared numbering. -/
def rootSpan (root : TopLevelFileMember) : Nat :=
  ((rootVisits fs root).map List.length).getD 0

def rootLines (root : TopLevelFileMember) (next : Int) :
    List PendingFileSetLine :=
  match rootVisits fs root with
  | some visited => numbered unicode root next visited
  | none => [pendingFlatFile unicode root (rootExecutable fs root)]

/-- The pending lines of all roots, numbered from `next` on. -/
def pendingLines :
    List TopLevelFileMember → Int → List PendingFileSetLine
  | [], _ => []
  | root :: rest, next =>
      rootLines unicode fs root next ++
        pendingLines rest (next + rootSpan fs root)

/-- The root is a directory whose members can be visited, or else has one line
of its own. -/
def RootReached (root : TopLevelFileMember) : Prop :=
  match fs.lookup root.path with
  | some (.directory listing) =>
      ∀ visit ∈ visits (.directory listing), Visitable visit
  | some (.leaf (.file _ _ _)) => True
  | some (.leaf .inaccessible) => True
  | none => True
  | _ => False

variable {unicode fs}
variable {caps : FileSetCaps}

theorem expandDirectory_ok {tree : FsTree} {state after : TraversalState}
    {members : List PendingFileSetLine}
    (expanded : expandDirectory unicode root caps tree state =
      .ok (members, after)) :
    ∃ listing, tree = .directory listing ∧
      members = numbered unicode root state.nextLineIndex (visits tree) ∧
      after.nextLineIndex = state.nextLineIndex + members.length ∧
      ∀ visit ∈ visits tree, Visitable visit := by
  have located : [(⟨root.path, "", tree⟩ : QueuedDirectory)] =
      [(([] : List Component), tree)].map (queuedAt unicode root) := rfl
  rw [expandDirectory, located] at expanded
  obtain ⟨waiting, single, membersEq, nextEq, visitable⟩ :=
    expandQueue_ok (by simp) expanded
  cases waiting with
  | nil => simp at single
  | cons head rest =>
      cases rest with
      | cons second more => simp at single
      | nil =>
          obtain ⟨names, listing⟩ := head
          simp only [List.map_cons, List.map_nil, ofWaiting, List.cons.injEq,
            Prod.mk.injEq, and_true] at single
          obtain ⟨rfl, rfl⟩ := single
          exact ⟨listing, rfl, membersEq, nextEq, visitable⟩

theorem traverseRoots_complete {state : TraversalState}
    {pending : List PendingFileSetLine}
    (traversed : traverseRoots unicode fs caps roots state =
      (pending, none)) :
    pending = pendingLines unicode fs roots state.nextLineIndex ∧
      ∀ root ∈ roots, RootReached fs root := by
  induction roots generalizing state pending with
  | nil =>
      cases traversed
      simp [pendingLines]
  | cons root rest inductionHypothesis =>
      -- a root with one line of its own takes no line index
      have flat : ∀ (line : PendingFileSetLine) (size : Nat),
          rootLines unicode fs root state.nextLineIndex = [line] →
          rootSpan fs root = 0 → RootReached fs root →
          (if (state.admits size caps).2 = true then
              ([line], some (ExpansionFailure.sizeCapExceeded, rest))
            else
              (line :: (traverseRoots unicode fs caps rest
                  (state.admits size caps).1).1,
                (traverseRoots unicode fs caps rest
                  (state.admits size caps).1).2)) = (pending, none) →
          pending = pendingLines unicode fs (root :: rest)
              state.nextLineIndex ∧
            ∀ tested ∈ root :: rest, RootReached fs tested := by
        intro line size single noSpan reached result
        split at result
        · cases result
        · cases later : traverseRoots unicode fs caps rest
              (state.admits size caps).1 with
          | mk found failure =>
              rw [later] at result
              simp only [Prod.mk.injEq] at result
              obtain ⟨rfl, rfl⟩ := result
              obtain ⟨foundEq, restReached⟩ := inductionHypothesis later
              refine ⟨?_, List.forall_mem_cons.mpr ⟨reached, restReached⟩⟩
              rw [pendingLines, single, noSpan, foundEq]
              simp [TraversalState.admits]
      rw [traverseRoots] at traversed
      cases shown : fs.lookup root.path with
      | none =>
          simp only [shown] at traversed
          exact flat _ _ (by simp [rootLines, rootVisits, rootExecutable,
              shown, pendingMissingFile])
            (by simp [rootSpan, rootVisits, shown])
            (by simp [RootReached, shown]) traversed
      | some tree =>
          simp only [shown] at traversed
          cases tree with
          | directory listing =>
              simp only at traversed
              cases expanded : expandDirectory unicode root caps
                  (.directory listing) state with
              | error err =>
                  rw [expanded] at traversed
                  cases traversed
              | ok result =>
                  obtain ⟨members, after⟩ := result
                  rw [expanded] at traversed
                  obtain ⟨_, _, membersEq, nextEq, visitable⟩ :=
                    expandDirectory_ok expanded
                  cases later : traverseRoots unicode fs caps rest after with
                  | mk found failure =>
                      simp only [later, Prod.mk.injEq] at traversed
                      obtain ⟨rfl, rfl⟩ := traversed
                      obtain ⟨foundEq, restReached⟩ :=
                        inductionHypothesis later
                      refine ⟨?_, List.forall_mem_cons.mpr
                        ⟨by simpa [RootReached, shown] using visitable,
                          restReached⟩⟩
                      have span : (members.length : Int) =
                          rootSpan fs root := by
                        simp [rootSpan, rootVisits, shown, membersEq]
                      rw [pendingLines, foundEq, nextEq, span, membersEq]
                      simp [rootLines, rootVisits, shown]
          | leaf leaf =>
              cases leaf with
              | symlink => cases traversed
              | special => cases traversed
              | unlistable =>
                  have refused : ∀ members after,
                      expandDirectory unicode root caps (.leaf .unlistable)
                        state ≠ .ok (members, after) := by
                    intro members after expanded
                    obtain ⟨_, impossible, _⟩ := expandDirectory_ok expanded
                    cases impossible
                  simp only at traversed
                  split at traversed
                  · cases traversed
                  · rename_i members after expanded
                    exact absurd expanded (refused members after)
              | inaccessible =>
                  exact flat _ _ (by simp [rootLines, rootVisits,
                      rootExecutable, shown, pendingMissingFile])
                    (by simp [rootSpan, rootVisits, shown])
                    (by simp [RootReached, shown]) traversed
              | file executable readable content =>
                  exact flat _ _ (by simp [rootLines, rootVisits,
                      rootExecutable, shown])
                    (by simp [rootSpan, rootVisits, shown])
                    (by simp [RootReached, shown]) traversed

theorem traverseRoots_failure
    {roots unreached : List TopLevelFileMember} {state : TraversalState}
    {pending : List PendingFileSetLine} {failure : ExpansionFailure}
    (traversed : traverseRoots unicode fs caps roots state =
      (pending, some (failure, unreached))) :
    pending ≠ [] := by
  induction roots generalizing state pending with
  | nil => cases traversed
  | cons root rest inductionHypothesis =>
      rw [traverseRoots] at traversed
      simp only at traversed
      split at traversed
      case h_1 => cases traversed; simp
      case h_5 => cases traversed; simp
      case h_2 | h_3 =>
        -- the failure is in the directory or after it
        split at traversed
        · cases traversed
          simp
        · simp only [Prod.mk.injEq] at traversed
          obtain ⟨rfl, later⟩ := traversed
          have laterNonempty := inductionHypothesis (Prod.ext rfl later)
          simp [laterNonempty]
      case h_4 | h_6 | h_7 =>
        split at traversed
        · cases traversed
          simp
        · simp only [Prod.mk.injEq] at traversed
          obtain ⟨rfl, _⟩ := traversed
          simp

theorem sortByLineIndex_perm (lines : List EntryFileSetLine) :
    (sortByLineIndex lines).Perm lines :=
  List.perm_insertionSort _ lines

private theorem not_hasExcluded
    {lines : List EntryFileSetLine} {excluded : EntryFileSetLine}
    (complete : (EntryFileSet.mk lines).hasExcluded = false)
    (member : excluded ∈ lines) : excluded.kind.isExcluded = false := by
  have none := List.any_eq_false.mp complete excluded member
  simpa using none

variable {blake3 : Blake3}

theorem buildFileMemberLines_complete {otherLines : List EntryFileSetLine}
    {topLevelCount : Int}
    (complete : (EntryFileSet.mk (buildFileMemberLines unicode fs blake3 roots
      otherLines topLevelCount caps)).hasExcluded = false) :
    buildFileMemberLines unicode fs blake3 roots otherLines topLevelCount
        caps =
      sortByLineIndex (otherLines ++
        (pendingLines unicode fs roots topLevelCount).map
          (classifyPending fs blake3)) ∧
      (∀ root ∈ roots, RootReached fs root) ∧
      ∀ pending ∈ pendingLines unicode fs roots topLevelCount,
        (classifyPending fs blake3 pending).kind.isExcluded = false := by
  have included := fun (line : EntryFileSetLine) member =>
    @not_hasExcluded _ line complete member
  unfold buildFileMemberLines at included ⊢
  by_cases tooMany : 0 < caps.maxMemberCount ∧
      caps.maxMemberCount < roots.length
  · -- every root would be excluded, and there is at least one
    simp only [if_pos tooMany] at included
    obtain ⟨root, inRoots⟩ := List.exists_mem_of_length_pos
      (show 0 < roots.length by omega)
    have refused := included (excludedRootLine unicode root .sizeCapExceeded)
      ((sortByLineIndex_perm _).mem_iff.mpr
        (List.mem_append_right _ (List.mem_map_of_mem inRoots)))
    cases refused
  · simp only [if_neg tooMany] at included ⊢
    cases traversed : traverseRoots unicode fs caps roots
        { nextLineIndex := topLevelCount } with
    | mk pending failure =>
        simp only [traversed] at included ⊢
        cases failure with
        | some failed =>
            obtain ⟨reason, unreached⟩ := failed
            obtain ⟨line, inPending⟩ := List.exists_mem_of_ne_nil _
              (traverseRoots_failure traversed)
            have refused := included
              (excludePending reason.excludeReason line)
              ((sortByLineIndex_perm _).mem_iff.mpr
                (List.mem_append_right _ (List.mem_map_of_mem
                  (List.mem_append_left _ inPending))))
            cases refused
        | none =>
            obtain ⟨pendingEq, reached⟩ := traverseRoots_complete traversed
            simp only at included pendingEq ⊢
            subst pendingEq
            refine ⟨rfl, reached, ?_⟩
            intro line inPending
            exact included _ ((sortByLineIndex_perm _).mem_iff.mpr
              (List.mem_append_right _ (List.mem_map_of_mem inPending)))

/-! ## Pending lines of a sequence of roots -/

/-- How many line indexes a sequence of roots takes. -/
def spans (fs : FileSystem) (roots : List TopLevelFileMember) : Nat :=
  (roots.map (rootSpan fs)).sum

theorem pendingLines_append
    (before after : List TopLevelFileMember) (next : Int) :
    pendingLines unicode fs (before ++ after) next =
      pendingLines unicode fs before next ++
        pendingLines unicode fs after (next + spans fs before) := by
  induction before generalizing next with
  | nil => simp [pendingLines, spans]
  | cons root rest inductionHypothesis =>
      rw [List.cons_append, pendingLines, inductionHypothesis, pendingLines,
        List.append_assoc]
      simp [spans, Int.add_assoc]

theorem mem_pendingLines {next : Int} {pending : PendingFileSetLine} :
    pending ∈ pendingLines unicode fs roots next ↔
      ∃ before root after, roots = before ++ root :: after ∧
        pending ∈ rootLines unicode fs root (next + spans fs before) := by
  constructor
  · intro member
    induction roots generalizing next with
    | nil => cases member
    | cons root rest inductionHypothesis =>
        rcases List.mem_append.mp member with here | later
        · exact ⟨[], root, rest, rfl, by simpa [spans] using here⟩
        · obtain ⟨before, found, after, rfl, inLines⟩ :=
            inductionHypothesis later
          refine ⟨root :: before, found, after, rfl, ?_⟩
          simpa [spans, Int.add_assoc] using inLines
  · rintro ⟨before, root, after, rfl, inLines⟩
    rw [pendingLines_append, pendingLines]
    exact List.mem_append_right _ (List.mem_append_left _ inLines)

theorem mem_numbered {next : Int} {visited : List Visit}
    {pending : PendingFileSetLine} :
    pending ∈ numbered unicode root next visited ↔
      ∃ (position : Nat) (visit : Visit),
        visited[position]? = some visit ∧
          pending = visitLine unicode root (next + position) visit := by
  induction visited generalizing next with
  | nil => simp [numbered]
  | cons head tail inductionHypothesis =>
      rw [numbered, List.mem_cons, inductionHypothesis]
      constructor
      · rintro (rfl | ⟨position, visit, found, rfl⟩)
        · exact ⟨0, head, rfl, by simp⟩
        · refine ⟨position + 1, visit, by simpa using found, ?_⟩
          congr 1
          push_cast
          omega
      · rintro ⟨position, visit, found, rfl⟩
        cases position with
        | zero =>
            simp only [List.getElem?_cons_zero, Option.some.injEq] at found
            subst found
            exact Or.inl (by simp)
        | succ position =>
            refine Or.inr ⟨position, visit, by simpa using found, ?_⟩
            congr 1
            push_cast
            omega

theorem rootLines_length_of_directory {next : Int} {visited : List Visit}
    (directory : rootVisits fs root = some visited) :
    (rootLines unicode fs root next).length = rootSpan fs root := by
  simp [rootLines, rootSpan, directory]

end Manifest

end OpenClipboard
