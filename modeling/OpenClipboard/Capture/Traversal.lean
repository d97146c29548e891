import OpenClipboard.Capture.EntryFileSet

/-!
# What a complete traversal yields

A directory expansion that succeeds has visited the members of the directory
breadth first, each once, and has numbered them consecutively.  A traversal
that reaches every root yields one line for a file and the numbered members
for a directory; directories share one numbering.
-/

namespace OpenClipboard

open FileTree Text

abbrev Visit := List Component × Option FsLeaf

def FsLeaf.isRegular : FsLeaf → Bool
  | .file _ _ _ => true
  | _ => false

section Traversal

variable (unicode : UnicodeNormalization)

def nameText (name : Component) : String :=
  unicode.nfc (toStringLossy name.bytes)

def relativeText (names : List Component) : String :=
  names.foldl (fun text name => extendRelative text (nameText unicode name)) ""

def PathBuf.pushAll (path : PathBuf) (names : List Component) : PathBuf :=
  names.foldl PathBuf.push path

def visitKind : Option FsLeaf → FileSetMemberKind
  | none => .emptyDirectory
  | some (.file executable _ _) => memberKind executable
  | some _ => .file

def visitText (visit : Visit) : String :=
  match visit.2 with
  | none => directoryRelativePath (relativeText unicode visit.1)
  | some _ => relativeText unicode visit.1

def visitLine (root : TopLevelFileMember) (lineIndex : Int) (visit : Visit) :
    PendingFileSetLine :=
  directoryMember root lineIndex (visitText unicode visit) (visitKind visit.2)
    (visit.2.map fun _ => root.path.pushAll visit.1)

def numbered (root : TopLevelFileMember) :
    Int → List Visit → List PendingFileSetLine
  | _, [] => []
  | next, visit :: rest =>
      visitLine unicode root next visit :: numbered root (next + 1) rest

@[simp]
theorem numbered_length
    (root : TopLevelFileMember) (next : Int) (visits : List Visit) :
    (numbered unicode root next visits).length = visits.length := by
  induction visits generalizing next with
  | nil => rfl
  | cons head tail inductionHypothesis =>
      simp [numbered, inductionHypothesis]

theorem numbered_append
    (root : TopLevelFileMember) (next : Int) (first second : List Visit) :
    numbered unicode root next (first ++ second) =
      numbered unicode root next first ++
        numbered unicode root (next + first.length) second := by
  induction first generalizing next with
  | nil => simp [numbered]
  | cons head tail inductionHypothesis =>
      have shifted : next + 1 + (tail.length : Int) =
          next + ((head :: tail).length : Int) := by
        simp only [List.length_cons]
        omega
      rw [List.cons_append, numbered, inductionHypothesis, shifted]
      rfl

/-- What the traversal has checked of a visited member. -/
def Visitable (visit : Visit) : Prop :=
  (∀ name ∈ visit.1, name.toStr.isSome = true) ∧
    ∀ leaf ∈ visit.2, leaf.isRegular = true

/-- A directory of the queue at a given path below the root. -/
def queuedAt (root : TopLevelFileMember) (located : List Component × FsTree) :
    QueuedDirectory where
  path := root.path.pushAll located.1
  relative := relativeText unicode located.1
  tree := located.2

theorem relativeText_snoc (names : List Component) (name : Component) :
    relativeText unicode (names ++ [name]) =
      extendRelative (relativeText unicode names) (nameText unicode name) := by
  simp [relativeText]

theorem PathBuf.pushAll_snoc
    (path : PathBuf) (names : List Component) (name : Component) :
    path.pushAll (names ++ [name]) = (path.pushAll names).push name := by
  simp [PathBuf.pushAll]

/-! ## One directory -/

def notRegular (entries : List (Component × FsTree)) :
    List (Component × FsTree) :=
  entries.filter fun entry =>
    match entry.2 with
    | .leaf leaf => !leaf.isRegular
    | .directory _ => true

def regularFiles (entries : List (Component × FsTree)) :
    List (Component × FsLeaf) :=
  entries.filterMap fun entry =>
    match entry.2 with
    | .leaf leaf => if leaf.isRegular then some (entry.1, leaf) else none
    | .directory _ => none

variable {unicode}
variable {root : TopLevelFileMember} {caps : FileSetCaps}

theorem expandEntries_ok
    {names : List Component} {entries : List (Component × FsTree)}
    {state after : TraversalState} {found : List PendingFileSetLine}
    {queued : List QueuedDirectory}
    (expanded : expandEntries unicode root caps (root.path.pushAll names)
      (relativeText unicode names) entries state = .ok (found, queued, after)) :
    found = numbered unicode root state.nextLineIndex
        ((regularFiles entries).map fun file =>
          (names ++ [file.1], some file.2)) ∧
      queued = (notRegular entries).map (fun entry =>
        queuedAt unicode root (names ++ [entry.1], entry.2)) ∧
      after.nextLineIndex = state.nextLineIndex + found.length ∧
      ∀ entry ∈ entries, entry.1.toStr.isSome = true := by
  induction entries generalizing state after found queued with
  | nil =>
      cases expanded
      simp [regularFiles, notRegular, numbered]
  | cons head tail inductionHypothesis =>
      obtain ⟨fileName, tree⟩ := head
      unfold expandEntries at expanded
      cases decoded : fileName.toStr with
      | none =>
          rw [decoded] at expanded
          cases expanded
      | some name =>
          rw [decoded] at expanded
          have lossy : nameText unicode fileName = unicode.nfc name := by
            rw [nameText, toStringLossy_of_fromUtf8 decoded]
          have located : extendRelative (relativeText unicode names)
              (unicode.nfc name) =
                relativeText unicode (names ++ [fileName]) := by
            rw [relativeText_snoc, lossy]
          simp only [located, ← PathBuf.pushAll_snoc] at expanded
          -- what remains to be shown once the tail has been queued behind
          have enqueued : ∀ (found' : List PendingFileSetLine)
              (queued' : List QueuedDirectory) (after' : TraversalState),
              expandEntries unicode root caps (root.path.pushAll names)
                  (relativeText unicode names) tail state =
                .ok (found', queued', after') →
              notRegular ((fileName, tree) :: tail) =
                (fileName, tree) :: notRegular tail →
              regularFiles ((fileName, tree) :: tail) = regularFiles tail →
              found' = found → after' = after →
              (⟨root.path.pushAll (names ++ [fileName]),
                relativeText unicode (names ++ [fileName]), tree⟩ ::
                  queued') = queued →
              found = numbered unicode root state.nextLineIndex
                  ((regularFiles ((fileName, tree) :: tail)).map fun file =>
                    (names ++ [file.1], some file.2)) ∧
                queued = (notRegular ((fileName, tree) :: tail)).map
                  (fun entry =>
                    queuedAt unicode root (names ++ [entry.1], entry.2)) ∧
                after.nextLineIndex =
                  state.nextLineIndex + found.length ∧
                ∀ entry ∈ (fileName, tree) :: tail,
                  entry.1.toStr.isSome = true := by
            rintro found' queued' after' tailExpanded kept skipped rfl rfl rfl
            obtain ⟨foundEq, queuedEq, nextEq, decodable⟩ :=
              inductionHypothesis tailExpanded
            refine ⟨by rw [skipped]; exact foundEq, ?_, nextEq, ?_⟩
            · rw [kept, List.map_cons, queuedEq]
              rfl
            · intro entry member
              rcases List.mem_cons.mp member with rfl | inTail
              · simp [decoded]
              · exact decodable entry inTail
          cases tree with
          | directory inner =>
              simp only at expanded
              split at expanded
              · cases expanded
              · rename_i members rest next tailExpanded
                cases expanded
                exact enqueued _ _ _ tailExpanded rfl rfl rfl rfl rfl
          | leaf leaf =>
              cases leaf with
              | inaccessible => cases expanded
              | symlink => cases expanded
              | special => cases expanded
              | unlistable =>
                  simp only at expanded
                  split at expanded
                  · cases expanded
                  · rename_i members rest next tailExpanded
                    cases expanded
                    exact enqueued _ _ _ tailExpanded rfl rfl rfl rfl rfl
              | file executable readable content =>
                  simp only at expanded
                  split at expanded
                  · cases expanded
                  · split at expanded
                    · cases expanded
                    · rename_i members rest next tailExpanded
                      cases expanded
                      obtain ⟨foundEq, queuedEq, nextEq, decodable⟩ :=
                        inductionHypothesis tailExpanded
                      refine ⟨?_, queuedEq, ?_, ?_⟩
                      · rw [foundEq]
                        rfl
                      · rw [nextEq]
                        simp only [TraversalState.admits,
                          TraversalState.takeLineIndex, List.length_cons]
                        omega
                      · intro entry member
                        rcases List.mem_cons.mp member with rfl | inTail
                        · simp [decoded]
                        · exact decodable entry inTail

/-! ## The queue -/

/-- A waiting directory of the library's traversal as a located tree. -/
def ofWaiting (waiting : Tree.Waiting Component FsLeaf) :
    List Component × FsTree :=
  (waiting.1, .directory waiting.2)

theorem queued_directories
    {names : List Component} {entries : List (Component × FsTree)}
    {waiting : List (Tree.Waiting Component FsLeaf)}
    (directories :
      (notRegular entries).map (fun entry => (names ++ [entry.1], entry.2)) =
        waiting.map ofWaiting) :
    waiting = (Tree.directoriesOf entries).map
        (fun inner => (names ++ [inner.1], inner.2)) ∧
      regularFiles entries = Tree.leavesOf entries ∧
      ∀ file ∈ Tree.leavesOf entries, file.2.isRegular = true := by
  induction entries generalizing waiting with
  | nil =>
      have none : waiting = [] := by
        simpa [notRegular] using directories.symm
      subst none
      simp [Tree.directoriesOf, regularFiles, Tree.leavesOf]
  | cons head tail inductionHypothesis =>
      obtain ⟨name, tree⟩ := head
      cases tree with
      | directory inner =>
          cases waiting with
          | nil => simp [notRegular] at directories
          | cons first later =>
              simp only [notRegular, List.filter_cons_of_pos, List.map_cons,
                List.cons.injEq] at directories
              obtain ⟨here, below⟩ := directories
              obtain ⟨laterEq, files, regular⟩ := inductionHypothesis below
              simp only [ofWaiting, Prod.mk.injEq, Tree.directory.injEq]
                at here
              refine ⟨?_, ?_, ?_⟩
              · rw [laterEq]
                simp [Tree.directoriesOf, here.1, here.2]
              · simpa [regularFiles, Tree.leavesOf] using files
              · simpa [Tree.leavesOf] using regular
      | leaf leaf =>
          by_cases regularLeaf : leaf.isRegular = true
          · have below : (notRegular tail).map
                (fun entry => (names ++ [entry.1], entry.2)) =
                  waiting.map ofWaiting := by
              simpa [notRegular, regularLeaf] using directories
            obtain ⟨waitingEq, files, regular⟩ := inductionHypothesis below
            refine ⟨?_, ?_, ?_⟩
            · simpa [Tree.directoriesOf] using waitingEq
            · simp only [regularFiles, Tree.leavesOf] at files ⊢
              simp [regularLeaf, files]
            · simp only [Tree.leavesOf] at regular ⊢
              simpa [regularLeaf] using regular
          · cases waiting with
            | nil => simp [notRegular, regularLeaf] at directories
            | cons first later =>
                simp [notRegular, regularLeaf, ofWaiting] at directories

theorem sortByFileName_perm (entries : List (Component × FsTree)) :
    (sortByFileName entries).Perm entries :=
  List.perm_insertionSort _ entries

theorem sortByFileName_isEmpty (entries : List (Component × FsTree)) :
    (sortByFileName entries).isEmpty = entries.isEmpty := by
  cases entries with
  | nil => rfl
  | cons head tail =>
      have sameLength :=
        (sortByFileName_perm (head :: tail)).length_eq
      cases sorted : sortByFileName (head :: tail) with
      | nil => simp [sorted] at sameLength
      | cons _ _ => rfl

theorem expandQueue_ok
    {fuel : Nat} {located : List (List Component × FsTree)}
    {state after : TraversalState} {members : List PendingFileSetLine}
    (decodable : ∀ item ∈ located, ∀ name ∈ item.1, name.toStr.isSome = true)
    (expanded : expandQueue unicode root caps fuel
      (located.map (queuedAt unicode root)) state = .ok (members, after)) :
    ∃ waiting : List (Tree.Waiting Component FsLeaf),
      located = waiting.map ofWaiting ∧
        members = numbered unicode root state.nextLineIndex
          (Tree.breadthFirst sortByFileName fuel waiting) ∧
        after.nextLineIndex = state.nextLineIndex + members.length ∧
        ∀ visit ∈ Tree.breadthFirst sortByFileName fuel waiting,
          Visitable visit := by
  induction fuel generalizing located state after members with
  | zero =>
      cases located with
      | nil =>
          cases expanded
          exact ⟨[], rfl, rfl, by simp, by simp [Tree.breadthFirst]⟩
      | cons head rest => cases expanded
  | succ fuel inductionHypothesis =>
      cases located with
      | nil =>
          cases expanded
          exact ⟨[], rfl, rfl, by simp, by simp [Tree.breadthFirst]⟩
      | cons head rest =>
          obtain ⟨names, tree⟩ := head
          have namesDecodable := decodable _ List.mem_cons_self
          have restDecodable := fun item member =>
            decodable item (List.mem_cons_of_mem (names, tree) member)
          rw [List.map_cons, expandQueue] at expanded
          cases tree with
          | leaf leaf => cases expanded
          | directory listing =>
              simp only [queuedAt] at expanded
              rw [sortByFileName_isEmpty] at expanded
              by_cases empty : listing.isEmpty = true
              · -- an empty directory is a member itself
                rw [if_pos empty] at expanded
                split at expanded
                · cases expanded
                · split at expanded
                  · cases expanded
                  · rename_i later next restExpanded
                    cases expanded
                    obtain ⟨waiting, restEq, laterEq, nextEq, visitable⟩ :=
                      inductionHypothesis restDecodable restExpanded
                    refine ⟨(names, listing) :: waiting, ?_, ?_, ?_, ?_⟩
                    · rw [restEq]
                      rfl
                    · rw [Tree.breadthFirst, if_pos empty, laterEq]
                      rfl
                    · rw [nextEq]
                      simp only [TraversalState.admits,
                        TraversalState.takeLineIndex, List.length_cons]
                      omega
                    · intro visit member
                      rw [Tree.breadthFirst, if_pos empty] at member
                      rcases List.mem_cons.mp member with rfl | inRest
                      · exact ⟨namesDecodable, by simp⟩
                      · exact visitable visit inRest
              · -- its files are members, its directories join the queue
                rw [if_neg empty] at expanded
                split at expanded
                · cases expanded
                · rename_i found queued next entriesExpanded
                  split at expanded
                  · cases expanded
                  · rename_i later last restExpanded
                    cases expanded
                    obtain ⟨foundEq, queuedEq, nextEq, entriesDecodable⟩ :=
                      expandEntries_ok entriesExpanded
                    have requeued : List.map (queuedAt unicode root) rest ++
                        queued =
                        (rest ++ (notRegular (sortByFileName listing)).map
                          fun entry => (names ++ [entry.1], entry.2)).map
                            (queuedAt unicode root) := by
                      rw [queuedEq, List.map_append, List.map_map]
                      rfl
                    rw [requeued] at restExpanded
                    obtain ⟨waiting, splitEq, laterEq, lastEq, visitable⟩ :=
                      inductionHypothesis (by
                        intro item member name inNames
                        rcases List.mem_append.mp member with old | new
                        · exact restDecodable item old name inNames
                        · obtain ⟨entry, inEntries, rfl⟩ :=
                            List.mem_map.mp new
                          rcases List.mem_append.mp inNames with inOld | inNew
                          · exact namesDecodable name inOld
                          · rw [List.mem_singleton] at inNew
                            subst inNew
                            exact entriesDecodable entry
                              (List.mem_of_mem_filter inEntries))
                        restExpanded
                    obtain ⟨restWaiting, innerWaiting, rfl, restEq, innerEq⟩ :=
                      List.map_eq_append_iff.mp splitEq.symm
                    obtain ⟨innerWaitingEq, filesEq, regular⟩ :=
                      queued_directories innerEq.symm
                    have unfolded : Tree.breadthFirst sortByFileName
                        (fuel + 1) ((names, listing) :: restWaiting) =
                          (Tree.leavesOf (sortByFileName listing)).map
                            (fun leaf => (names ++ [leaf.1], some leaf.2)) ++
                          Tree.breadthFirst sortByFileName fuel
                            (restWaiting ++ innerWaiting) := by
                      rw [Tree.breadthFirst, if_neg empty, innerWaitingEq]
                    have foundLength : found.length =
                        ((Tree.leavesOf (sortByFileName listing)).map
                          fun leaf => ((names ++ [leaf.1], some leaf.2) :
                            Visit)).length := by
                      rw [foundEq, numbered_length, filesEq]
                    refine ⟨(names, listing) :: restWaiting, ?_, ?_, ?_, ?_⟩
                    · rw [List.map_cons, restEq]
                      rfl
                    · rw [unfolded, numbered_append, ← foundLength, ← nextEq,
                        ← laterEq, ← filesEq, ← foundEq]
                    · rw [lastEq, nextEq, List.length_append]
                      omega
                    · intro visit member
                      rw [unfolded] at member
                      rcases List.mem_append.mp member with here | later
                      · obtain ⟨file, inLeaves, rfl⟩ := List.mem_map.mp here
                        refine ⟨?_, ?_⟩
                        · intro name inNames
                          rcases List.mem_append.mp inNames with old | new
                          · exact namesDecodable name old
                          · rw [List.mem_singleton] at new
                            subst new
                            obtain ⟨entry, inEntries, isFile⟩ :=
                              List.mem_filterMap.mp inLeaves
                            have sameName : entry.1 = file.1 := by
                              split at isFile
                              · cases isFile
                                rfl
                              · cases isFile
                            rw [← sameName]
                            exact entriesDecodable entry inEntries
                        · intro leaf isLeaf
                          cases isLeaf
                          exact regular file inLeaves
                      · exact visitable visit later

end Traversal

end OpenClipboard
