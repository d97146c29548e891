import OpenClipboard.Capture.Selection

/-!
# Every root has a line

Whether the traversal completes, exceeds a cap or fails, the manifest has a
line for every selected root: the lines found for it, the line the traversal
stopped at, or the line of a root that was not reached.
-/

namespace OpenClipboard

open FileTree Text

variable {root : TopLevelFileMember}

section Coverage

variable {unicode : UnicodeNormalization} {fs : FileSystem} {blake3 : Blake3}
variable {caps : FileSetCaps}

/-! ## Lines of one root -/

/-- The line at which the loop over a directory stops is one of the root. -/
theorem expandEntries_error {directory : PathBuf} {relative : String}
    {entries : List (Component × FsTree)} {state : TraversalState}
    {failure : ExpansionFailure} {marker : PendingFileSetLine}
    (refused : expandEntries unicode root caps directory relative entries
      state = .error (failure, marker)) :
    marker.memberLocation.rootIndex = root.rootIndex := by
  induction entries generalizing state with
  | nil => cases refused
  | cons head tail inductionHypothesis =>
      obtain ⟨fileName, tree⟩ := head
      unfold expandEntries at refused
      split at refused
      · cases refused
        rfl
      · simp only at refused
        cases tree with
        | directory inner =>
            simp only at refused
            split at refused
            · rename_i err tailExpanded
              cases refused
              exact inductionHypothesis tailExpanded
            · cases refused
        | leaf leaf =>
            cases leaf with
            | unlistable =>
                simp only at refused
                split at refused
                · rename_i err tailExpanded
                  cases refused
                  exact inductionHypothesis tailExpanded
                · cases refused
            | inaccessible => cases refused; rfl
            | symlink => cases refused; rfl
            | special => cases refused; rfl
            | file executable readable content =>
                simp only at refused
                split at refused
                · cases refused
                  rfl
                · split at refused
                  · rename_i err tailExpanded
                    cases refused
                    exact inductionHypothesis tailExpanded
                  · cases refused

theorem expandQueue_error {fuel : Nat} {queue : List QueuedDirectory}
    {state : TraversalState} {failure : ExpansionFailure}
    {marker : PendingFileSetLine}
    (refused : expandQueue unicode root caps fuel queue state =
      .error (failure, marker)) :
    marker.memberLocation.rootIndex = root.rootIndex := by
  induction fuel generalizing queue state with
  | zero =>
      cases queue with
      | nil => cases refused
      | cons head rest =>
          cases refused
          rfl
  | succ fuel inductionHypothesis =>
      cases queue with
      | nil => cases refused
      | cons head rest =>
          unfold expandQueue at refused
          split at refused
          · cases refused
            rfl
          · simp only at refused
            split at refused
            · split at refused
              · cases refused
                rfl
              · split at refused
                · rename_i err restExpanded
                  cases refused
                  exact inductionHypothesis restExpanded
                · cases refused
            · split at refused
              · rename_i err entriesExpanded
                cases refused
                exact expandEntries_error entriesExpanded
              · split at refused
                · rename_i err restExpanded
                  cases refused
                  exact inductionHypothesis restExpanded
                · cases refused

theorem expandDirectory_member {tree : FsTree} {state after : TraversalState}
    {members : List PendingFileSetLine}
    (expanded : expandDirectory unicode root caps tree state =
      .ok (members, after)) :
    ∃ pending ∈ members,
      pending.memberLocation.rootIndex = root.rootIndex := by
  obtain ⟨listing, rfl, rfl, _, _⟩ := expandDirectory_ok expanded
  obtain ⟨visit, inVisits⟩ := List.exists_mem_of_ne_nil _
    (visits_ne_nil listing)
  obtain ⟨position, found⟩ := List.mem_iff_getElem?.mp inVisits
  exact ⟨_, mem_numbered.mpr ⟨position, visit, found, rfl⟩, rfl⟩

/-! ## All roots -/

/-- Some line belongs to the root. -/
def Covers (lines : List PendingFileSetLine) (root : TopLevelFileMember) :
    Prop :=
  ∃ pending ∈ lines, pending.memberLocation.rootIndex = root.rootIndex

theorem Covers.append_right {lines later : List PendingFileSetLine}
    (covered : Covers later root) : Covers (lines ++ later) root := by
  obtain ⟨pending, member, index⟩ := covered
  exact ⟨pending, List.mem_append_right _ member, index⟩

def unreachedRoots :
    Option (ExpansionFailure × List TopLevelFileMember) →
      List TopLevelFileMember
  | some (_, unreached) => unreached
  | none => []

/-- The root has a line in what the traversal returns, or is returned as not
reached. -/
def Accounted
    (result : List PendingFileSetLine ×
      Option (ExpansionFailure × List TopLevelFileMember))
    (root : TopLevelFileMember) : Prop :=
  Covers result.1 root ∨ root ∈ unreachedRoots result.2

theorem traverseRoots_accounted
    (roots : List TopLevelFileMember) (state : TraversalState) :
    ∀ root ∈ roots,
      Accounted (traverseRoots unicode fs caps roots state) root := by
  induction roots generalizing state with
  | nil => simp
  | cons first rest inductionHypothesis =>
      -- the first root has lines, the later ones are accounted for
      have proceeded : ∀ (lines : List PendingFileSetLine)
          (after : TraversalState), Covers lines first →
          ∀ root ∈ first :: rest,
            Accounted (lines ++ (traverseRoots unicode fs caps rest after).1,
              (traverseRoots unicode fs caps rest after).2) root := by
        intro lines after covered root member
        rcases List.mem_cons.mp member with rfl | inRest
        · obtain ⟨pending, inLines, index⟩ := covered
          exact Or.inl ⟨pending, List.mem_append_left _ inLines, index⟩
        · rcases inductionHypothesis after root inRest with found | unreached
          · exact Or.inl found.append_right
          · exact Or.inr unreached
      -- the traversal stops at the first root
      have stopped : ∀ (line : PendingFileSetLine) (failure : ExpansionFailure),
          line.memberLocation.rootIndex = first.rootIndex →
          ∀ root ∈ first :: rest,
            Accounted ([line], some (failure, rest)) root := by
        intro line failure index root member
        rcases List.mem_cons.mp member with rfl | inRest
        · exact Or.inl ⟨line, List.mem_singleton.mpr rfl, index⟩
        · exact Or.inr inRest
      have flat : ∀ (line : PendingFileSetLine) (size : Nat),
          line.memberLocation.rootIndex = first.rootIndex →
          ∀ root ∈ first :: rest,
            Accounted (if (state.admits size caps).2 = true then
                ([line], some (ExpansionFailure.sizeCapExceeded, rest))
              else
                (line :: (traverseRoots unicode fs caps rest
                    (state.admits size caps).1).1,
                  (traverseRoots unicode fs caps rest
                    (state.admits size caps).1).2)) root := by
        intro line size index
        by_cases exceeded : (state.admits size caps).2 = true
        · rw [if_pos exceeded]
          exact stopped line _ index
        · rw [if_neg exceeded]
          exact proceeded [line] _ ⟨line, List.mem_singleton.mpr rfl, index⟩
      have expansionFailed : ∀ (tree : FsTree) (failure : ExpansionFailure)
          (marker : PendingFileSetLine),
          expandDirectory unicode first caps tree state =
              .error (failure, marker) →
            ∀ root ∈ first :: rest,
              Accounted ([marker], some (failure, rest)) root := by
        intro tree failure marker expanded
        exact stopped marker failure (expandQueue_error expanded)
      rw [traverseRoots]
      cases fs.lookup first.path with
      | none => exact flat _ _ rfl
      | some tree =>
          cases tree with
          | directory listing =>
              simp only
              split
              · exact expansionFailed _ _ _ ‹_›
              · exact proceeded _ _ (expandDirectory_member ‹_›)
          | leaf leaf =>
              cases leaf with
              | symlink => exact stopped _ _ rfl
              | special => exact stopped _ _ rfl
              | unlistable =>
                  simp only
                  split
                  · exact expansionFailed _ _ _ ‹_›
                  · exact proceeded _ _ (expandDirectory_member ‹_›)
              | inaccessible => exact flat _ _ rfl
              | file executable readable content => exact flat _ _ rfl

theorem buildFileMemberLines_covers
    (roots : List TopLevelFileMember) (otherLines : List EntryFileSetLine)
    (topLevelCount : Int) :
    ∀ root ∈ roots,
      ∃ line ∈ buildFileMemberLines unicode fs blake3 roots otherLines
          topLevelCount caps,
        line.memberLocation.map FileSetMemberLocation.rootIndex =
          some root.rootIndex := by
  intro root member
  unfold buildFileMemberLines
  by_cases tooMany : 0 < caps.maxMemberCount ∧
      caps.maxMemberCount < roots.length
  · rw [if_pos tooMany]
    exact ⟨excludedRootLine unicode root .sizeCapExceeded,
      (sortByLineIndex_perm _).mem_iff.mpr
        (List.mem_append_right _ (List.mem_map_of_mem member)), rfl⟩
  · rw [if_neg tooMany]
    have covered : Accounted (traverseRoots unicode fs caps roots
        { nextLineIndex := topLevelCount }) root :=
      traverseRoots_accounted roots _ root member
    cases traversed : traverseRoots unicode fs caps roots
        { nextLineIndex := topLevelCount } with
    | mk pending failure =>
        rw [traversed] at covered
        simp only
        cases failure with
        | none =>
            rcases covered with ⟨line, inPending, index⟩ | impossible
            · exact ⟨classifyPending fs blake3 line,
                (sortByLineIndex_perm _).mem_iff.mpr
                  (List.mem_append_right _ (List.mem_map_of_mem inPending)),
                by rw [← index]; rfl⟩
            · cases impossible
        | some failed =>
            obtain ⟨reason, unreached⟩ := failed
            rcases covered with ⟨line, inPending, index⟩ | later
            · exact ⟨excludePending reason.excludeReason line,
                (sortByLineIndex_perm _).mem_iff.mpr
                  (List.mem_append_right _ (List.mem_map_of_mem
                    (List.mem_append_left _ inPending))),
                by rw [← index]; rfl⟩
            · exact ⟨excludePending reason.excludeReason
                  (pendingUnreached unicode root),
                (sortByLineIndex_perm _).mem_iff.mpr
                  (List.mem_append_right _ (List.mem_map_of_mem
                    (List.mem_append_right _ (List.mem_map_of_mem later)))),
                rfl⟩

end Coverage

end OpenClipboard
