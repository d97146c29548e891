import OpenClipboard.History.Sweeps

/-!
# Deletions stay in the cache

A path is compared with the cache directory component by component, and `..` is
a component; the operating system follows it.  Deletions stay inside the cache
exactly if no stored list names a place by such a detour out of it.
-/

namespace OpenClipboard.History

open Relation

/-! ## Confined removals -/

section Confined

variable (cacheDir : Location)

def Inside (location : Location) : Prop :=
  cacheDir <+: location ∧ location ≠ cacheDir

instance decidableInside (location : Location) :
    Decidable (Inside cacheDir location) :=
  inferInstanceAs (Decidable (_ ∧ _))

/-- A file inside the cache, or an empty directory inside it, is removed. -/
def ConfinedRemoval (before after : Disk) : Prop :=
  ∃ location, Inside cacheDir location ∧ after = before.without location ∧
    (before.isFile location = true ∨
      before.node location = some .directory ∧ before.children location = [])

def Confined : Disk → Disk → Prop := ReflTransGen (ConfinedRemoval cacheDir)

end Confined

variable {cacheDir : Location}

variable {location : Location} {components : List Component} {name : Name}
  {path : OsPath} {before : Location} {passed passedBefore : List Location}

theorem ne_nil_of_inside (inside : Inside cacheDir location) :
    location ≠ [] := by
  rintro rfl
  exact inside.2 (List.prefix_nil.mp inside.1).symm

theorem Confined.node_eq {before after : Disk}
    (confined : Confined cacheDir before after)
    (outside : ¬ Inside cacheDir location) :
    after.node location = before.node location := by
  induction confined with
  | refl => rfl
  | tail _ removal inductionHypothesis =>
      obtain ⟨removed, inside, isAfter, _⟩ := removal
      rw [isAfter, Disk.node_without (ne_nil_of_inside inside),
        inductionHypothesis, if_neg]
      intro isBelow
      apply outside
      refine ⟨inside.1.trans isBelow, ?_⟩
      intro isCacheDir
      apply inside.2
      rw [isCacheDir] at isBelow
      exact List.IsPrefix.eq_of_length isBelow
        (Nat.le_antisymm isBelow.length_le inside.1.length_le)

/-! ## Where a path leads -/

/-- The locations that a path passes, and where it ends. -/
def route : Location → List Component → Option (List Location × Location)
  | here, [] => some ([], here)
  | here, component :: rest =>
      if component.isParent then
        (route here.dropLast rest).map fun onward =>
          (here :: onward.1, onward.2)
      else
        match Name.ofComponent component with
        | some name =>
            (route (here ++ [name]) rest).map fun onward =>
              (here :: onward.1, onward.2)
        | none => none

/-- A walk takes the route, if there is a directory wherever it passes. -/
theorem walk_eq_some_iff {disk : Disk} {here location : Location} :
    disk.walk here components = some location ↔
      ∃ passed, route here components = some (passed, location) ∧
        ∀ place ∈ passed, disk.node place = some .directory := by
  induction components generalizing here with
  | nil =>
      simp [Disk.walk, route]
  | cons component rest inductionHypothesis =>
      rw [Disk.walk, route]
      by_cases isDirectory : disk.node here = some .directory
      · rw [if_pos isDirectory]
        by_cases isParent : component.isParent = true
        · rw [if_pos isParent, if_pos isParent, inductionHypothesis]
          simp [isDirectory]
        · rw [if_neg isParent, if_neg isParent]
          cases Name.ofComponent component with
          | none => simp
          | some name =>
              simp only
              rw [inductionHypothesis]
              simp [isDirectory]
      · rw [if_neg isDirectory]
        constructor
        · intro impossible
          cases impossible
        · rintro ⟨passed, isRoute, directories⟩
          have passes : here ∈ passed := by
            by_cases isParent : component.isParent = true
            · rw [if_pos isParent] at isRoute
              obtain ⟨onward, _, same⟩ := Option.map_eq_some_iff.mp isRoute
              cases same
              exact List.mem_cons_self
            · rw [if_neg isParent] at isRoute
              split at isRoute
              · obtain ⟨onward, _, same⟩ := Option.map_eq_some_iff.mp isRoute
                cases same
                exact List.mem_cons_self
              · cases isRoute
          exact absurd (directories here passes) isDirectory

theorem mem_of_route {here location : Location} {passed : List Location}
    (isRoute : route here components = some (passed, location))
    {place : Location}
    (reached : place ++ [name] ∈ passed ∨ place ++ [name] = location) :
    place ++ [name] <+: here ∨ place ∈ passed := by
  induction components generalizing here passed with
  | nil =>
      cases isRoute
      rcases reached with inPassed | isLocation
      · cases inPassed
      · rw [isLocation]
        exact Or.inl (List.prefix_refl _)
  | cons component rest inductionHypothesis =>
      have onward : ∀ next, (place ++ [name] <+: next →
            place ++ [name] <+: here ∨ place = here) →
          (∃ later, route next rest = some (later, location) ∧
            passed = here :: later) →
            place ++ [name] <+: here ∨ place ∈ passed := by
        rintro next back ⟨later, isLater, isPassed⟩
        subst isPassed
        have reachedLater : place ++ [name] = here ∨
            place ++ [name] <+: next ∨ place ∈ later := by
          rcases reached with inPassed | isLocation
          · rcases List.mem_cons.mp inPassed with isHere | inLater
            · exact Or.inl isHere
            · exact Or.inr (inductionHypothesis isLater (Or.inl inLater))
          · exact Or.inr (inductionHypothesis isLater (Or.inr isLocation))
        rcases reachedLater with isHere | isNext | inLater
        · rw [isHere]
          exact Or.inl (List.prefix_refl _)
        · rcases back isNext with above | isHere
          · exact Or.inl above
          · rw [isHere]
            exact Or.inr List.mem_cons_self
        · exact Or.inr (List.mem_cons_of_mem _ inLater)
      rw [route] at isRoute
      split at isRoute
      · obtain ⟨later, isLater, same⟩ := Option.map_eq_some_iff.mp isRoute
        cases same
        apply onward here.dropLast
        · intro above
          exact Or.inl (above.trans (List.dropLast_prefix here))
        · exact ⟨_, isLater, rfl⟩
      · split at isRoute
        · rename_i step _
          obtain ⟨later, isLater, same⟩ := Option.map_eq_some_iff.mp isRoute
          cases same
          apply onward (here ++ [step])
          · intro above
            rcases List.prefix_concat_iff.mp above with isAll | shorter
            · exact Or.inr (List.append_inj_left' isAll rfl)
            · exact Or.inl shorter
          · exact ⟨_, isLater, rfl⟩
        · cases isRoute

theorem route_concat {front : List Component} {last : Component}
    {here location : Location} {passed : List Location}
    (isRoute : route here (front ++ [last]) = some (passed, location)) :
    ∃ passedBefore before, route here front = some (passedBefore, before) ∧
      passed = passedBefore ++ [before] ∧
        (last.isParent = true ∧ location = before.dropLast ∨
          last.isParent = false ∧ ∃ name, location = before ++ [name]) := by
  induction front generalizing here passed with
  | nil =>
      rw [List.nil_append, route] at isRoute
      refine ⟨[], here, rfl, ?_⟩
      split at isRoute
      · rename_i isParent
        cases isRoute
        exact ⟨rfl, Or.inl ⟨isParent, rfl⟩⟩
      · rename_i notParent
        split at isRoute
        · rename_i name _
          cases isRoute
          exact ⟨rfl, Or.inr ⟨by simpa using notParent, name, rfl⟩⟩
        · cases isRoute
  | cons component rest inductionHypothesis =>
      rw [List.cons_append, route] at isRoute
      rw [route]
      split at isRoute
      · rename_i isParent
        rw [if_pos isParent]
        obtain ⟨onward, isOnward, same⟩ := Option.map_eq_some_iff.mp isRoute
        cases same
        obtain ⟨passedBefore, before, isBefore, isPassed, ends⟩ :=
          inductionHypothesis isOnward
        rw [isBefore, isPassed]
        exact ⟨here :: passedBefore, before, rfl, rfl, ends⟩
      · rename_i notParent
        rw [if_neg notParent]
        split at isRoute
        · obtain ⟨onward, isOnward, same⟩ := Option.map_eq_some_iff.mp isRoute
          cases same
          obtain ⟨passedBefore, before, isBefore, isPassed, ends⟩ :=
            inductionHypothesis isOnward
          rw [isBefore, isPassed]
          exact ⟨here :: passedBefore, before, rfl, rfl, ends⟩
        · cases isRoute

theorem eq_of_resolve_path {disk : Disk} {location found : Location}
    (resolved : disk.resolve location.path = some found) :
    found = location := by
  have spelled : ∀ (names : List Name) here,
      disk.walk here (names.map Name.component) = some found →
        found = here ++ names := by
    intro names
    induction names with
    | nil =>
        intro here walked
        cases walked
        exact (List.append_nil _).symm
    | cons name rest inductionHypothesis =>
        intro here walked
        have isName : Name.ofComponent name.component = some name := by
          unfold Name.ofComponent
          rw [dif_pos ⟨name.notParent, name.noNul⟩]
        rw [List.map_cons, Disk.walk] at walked
        split at walked
        · rw [if_neg (by simp [name.notParent]), isName] at walked
          rw [inductionHypothesis _ walked, List.append_assoc]
          rfl
        · cases walked
  unfold Disk.resolve Location.path at resolved
  rw [if_pos (by simp [PathBuf.isAbsolute])] at resolved
  exact spelled location [] resolved

theorem resolve_eq_some {disk : Disk} {path : PathBuf}
    (resolved : disk.resolve path = some location) :
    path.isAbsolute = true ∧ ∃ passed,
      route [] path.components = some (passed, location) ∧
        ∀ place ∈ passed, disk.node place = some .directory := by
  unfold Disk.resolve at resolved
  split at resolved
  · rename_i absolute
    exact ⟨absolute, walk_eq_some_iff.mp resolved⟩
  · cases resolved

/-! ## Paths that leave the cache -/

section Leaving

variable (cacheDir : Location)

/-- The parent of the path is another spelling of the cache directory. -/
def respellsCacheDir (path : PathBuf) (passed : List Location)
    (location : Location) : Bool :=
  match path.parent with
  | none => false
  | some parent =>
      decide (location.dropLast = cacheDir) &&
        decide (parent ≠ cacheDir.path) && parent.startsWith cacheDir.path &&
          parent.fileName.isSome &&
            passed.all fun place => !decide (Inside cacheDir place)

/-- The path can name a file outside the cache, or the last file of the cache
directory under another spelling of it. -/
def leavesCache (path : OsPath) : Bool :=
  match route [] path.path.components with
  | none => false
  | some (passed, location) =>
      !path.namesDirectory && path.path.isAbsolute &&
        decide (location ≠ []) && decide (location ∉ passed) &&
          (!decide (Inside cacheDir location) ||
            respellsCacheDir cacheDir path.path passed location)

end Leaving

/-! ## Confined deletions -/

theorem confined_file {disk : Disk} (inside : Inside cacheDir location)
    (isFile : disk.isFile location = true) :
    Confined cacheDir disk (disk.without location) :=
  ReflTransGen.single ⟨location, inside, rfl, Or.inl isFile⟩

theorem confined_directory {disk : Disk} (inside : Inside cacheDir location)
    (isDirectory : disk.node location = some .directory)
    (isEmpty : disk.children location = []) :
    Confined cacheDir disk (disk.without location) :=
  ReflTransGen.single
    ⟨location, inside, rfl, Or.inr ⟨isDirectory, isEmpty⟩⟩

theorem mem_passed_of_route {passed : List Location} {location place : Location}
    (isRoute : route [] components = some (passed, location))
    (reached : place ++ [name] ∈ passed ∨ place ++ [name] = location) :
    place ∈ passed := by
  rcases mem_of_route isRoute reached with above | inPassed
  · have impossible := List.prefix_nil.mp above
    simp at impossible
  · exact inPassed

structure RemovedFile (disk : Disk) (path : OsPath) (after : Disk)
    (passed passedBefore : List Location) (before : Location) (name : Name) :
    Prop where
  isRoute : route [] path.path.components = some (passed, before ++ [name])
  absolute : path.path.isAbsolute = true
  bare : path.namesDirectory = false
  directories : ∀ place ∈ passed, disk.node place = some .directory
  isFile : disk.isFile (before ++ [name]) = true
  isAfter : after = disk.without (before ++ [name])
  isPassed : passed = passedBefore ++ [before]
  parentRoute : route [] path.path.components.dropLast =
    some (passedBefore, before)
  isParent : path.path.parent =
    some { path.path with components := path.path.components.dropLast }

theorem removedFile_of_removeFile {disk after : Disk}
    (removed : disk.removeFile path = some after) :
    ∃ passed passedBefore before name,
      RemovedFile disk path after passed passedBefore before name := by
  obtain ⟨location, resolved, isFile, bare, isAfter⟩ :=
    Disk.removeFile_eq_some_iff.mp removed
  obtain ⟨absolute, passed, isRoute, directories⟩ := resolve_eq_some resolved
  have notPassed : location ∉ passed := by
    intro inPassed
    obtain ⟨_, _, isNode⟩ := Disk.isFile_iff.mp isFile
    rw [directories location inPassed] at isNode
    cases isNode
  have someComponents : path.path.components ≠ [] := by
    intro isEmpty
    rw [isEmpty] at isRoute
    cases isRoute
    cases isFile
  have split := List.dropLast_append_getLast someComponents
  have isParent : path.path.parent =
      some { path.path with components := path.path.components.dropLast } := by
    unfold PathBuf.parent
    rw [if_neg (by simpa using someComponents)]
  rw [← split] at isRoute
  obtain ⟨passedBefore, before, parentRoute, isPassed, ends⟩ :=
    route_concat isRoute
  rw [split] at isRoute
  rcases ends with ⟨_, isUp⟩ | ⟨_, name, isDown⟩
  · -- A path that ends in `..` ends where it has passed.
    exfalso
    apply notPassed
    by_cases isRoot : before = []
    · rw [isUp, isRoot, isPassed, isRoot]
      simp
    · have beforeSplit := List.dropLast_append_getLast isRoot
      have here : before.dropLast ++ [before.getLast isRoot] ∈ passed := by
        rw [beforeSplit, isPassed]
        simp
      rw [isUp]
      exact mem_passed_of_route isRoute (Or.inl here)
  · subst isDown
    exact ⟨passed, passedBefore, before, name, isRoute, absolute, bare,
      directories, isFile, isAfter, isPassed, parentRoute, isParent⟩

theorem RemovedFile.notPassed {disk after : Disk}
    (removal : RemovedFile disk path after passed passedBefore before name) :
    before ++ [name] ∉ passed := by
  intro inPassed
  obtain ⟨_, _, isNode⟩ := Disk.isFile_iff.mp removal.isFile
  rw [removal.directories _ inPassed] at isNode
  cases isNode

theorem RemovedFile.resolve_parent {disk after : Disk}
    (removal : RemovedFile disk path after passed passedBefore before name)
    {parent : PathBuf} {found : Location}
    (isParent : path.path.parent = some parent)
    (resolved : after.resolve parent = some found) : found = before := by
  rw [removal.isParent] at isParent
  cases isParent
  obtain ⟨_, passed', isRoute, _⟩ := resolve_eq_some resolved
  rw [removal.parentRoute] at isRoute
  cases isRoute
  rfl

theorem inside_concat (inside : Inside cacheDir (before ++ [name])) :
    before = cacheDir ∨ Inside cacheDir before := by
  rcases List.prefix_concat_iff.mp inside.1 with isAll | shorter
  · exact absurd isAll.symm inside.2
  · by_cases same : before = cacheDir
    · exact Or.inl same
    · exact Or.inr ⟨shorter, same⟩

/-- What was passed inside a directory keeps it from being empty. -/
theorem RemovedFile.occupied {disk after : Disk} {before place : Location}
    (removal : RemovedFile disk path after passed passedBefore before name)
    (inPassed : place ∈ passed) (inside : Inside before place) :
    after.children before ≠ [] := by
  intro isEmpty
  have isDirectory := removal.directories place inPassed
  obtain ⟨rest, isPlace⟩ := inside.1
  cases rest with
  | nil =>
      apply inside.2
      rw [← isPlace, List.append_nil]
  | cons first deeper =>
      have spelled : before ++ [first] ++ deeper = place := by
        rw [← isPlace]
        simp
      have child : disk.node (before ++ [first]) ≠ none := by
        apply Disk.node_ne_none_of_append
        rw [spelled, isDirectory]
        exact Option.some_ne_none _
      have gone := Disk.children_eq_nil_iff.mp isEmpty first
      rw [removal.isAfter,
        Disk.node_without (Disk.ne_nil_of_isFile removal.isFile)] at gone
      split at gone
      · rename_i isBelow
        have absent := Disk.node_below_file removal.isFile
          (isBelow.trans ⟨deeper, spelled⟩) (by
            rintro rfl
            exact removal.notPassed inPassed)
        rw [isDirectory] at absent
        cases absent
      · exact child gone

theorem removeCacheFile_confined {disk : Disk} {faults : DeleteFaults}
    (stays : leavesCache cacheDir path = false) :
    Confined cacheDir disk (removeCacheFile cacheDir faults disk path) := by
  unfold removeCacheFile
  split
  · exact ReflTransGen.refl
  · rename_i after removed
    have removed' : disk.removeFile path = some after := by
      split at removed
      · cases removed
      · exact removed
    obtain ⟨passed, passedBefore, before, name, removal⟩ :=
      removedFile_of_removeFile removed'
    unfold leavesCache at stays
    rw [removal.isRoute] at stays
    have below : before ++ [name] ≠ [] := Disk.ne_nil_of_isFile removal.isFile
    simp only [removal.bare, removal.absolute, removal.notPassed, below,
      ne_eq, not_false_eq_true, decide_true, Bool.not_false, Bool.true_and,
      Bool.or_eq_false_iff, Bool.not_eq_false', decide_eq_true_eq] at stays
    obtain ⟨inside, notRespelled⟩ := stays
    have file : Confined cacheDir disk after := by
      rw [removal.isAfter]
      exact confined_file inside removal.isFile
    rw [removal.isParent]
    simp only
    split
    · rename_i attempted
      cases isRemoved : after.removeDir { path.path with
          components := path.path.components.dropLast } with
      | none => exact file
      | some last =>
          obtain ⟨found, resolved, named, isDirectory, isEmpty, isLast⟩ :=
            Disk.removeDir_eq_some isRemoved
          have isBefore := removal.resolve_parent removal.isParent resolved
          subst isBefore
          rw [Option.getD_some, isLast]
          refine ReflTransGen.trans file ?_
          apply confined_directory _ isDirectory isEmpty
          rcases inside_concat inside with isCacheDir | insideDir
          · exfalso
            subst isCacheDir
            unfold respellsCacheDir at notRespelled
            rw [removal.isParent] at notRespelled
            simp only [List.dropLast_concat, decide_true, attempted.1,
              attempted.2.1, named, Bool.and_true, Bool.true_and,
              ne_eq, not_false_eq_true, List.all_eq_false,
              Bool.not_eq_true, Bool.not_eq_false', decide_eq_true_eq]
              at notRespelled
            obtain ⟨place, inPassed, insidePlace⟩ := notRespelled
            exact removal.occupied inPassed insidePlace isEmpty
          · exact insideDir
    · exact file

/-! ## The deletions -/

def StaysInCache (fileUrlPath : FileUrlPath) (cacheDir : Location)
    (store : HistoryStore) : Prop :=
  ∀ entry ∈ store.entries, ∀ path ∈ shownPaths fileUrlPath cacheDir
    (store.representationsOf entry.eventId), leavesCache cacheDir path = false

section Deletions

variable {fileUrlPath : FileUrlPath} {faults : DeleteFaults} {env : SweepEnv}
variable {store : HistoryStore}

theorem StaysInCache.of_shrinks {before after : HistoryStore}
    (stays : StaysInCache fileUrlPath cacheDir before)
    (shrinks : Shrinks before after) :
    StaysInCache fileUrlPath cacheDir after := by
  intro entry member path shown
  rcases shrinks.representations entry.eventId with same | gone
  · rw [same] at shown
    exact stays entry (shrinks.entries.subset member) path shown
  · rw [gone] at shown
    cases shown

theorem removeCacheFiles_confined {paths : List OsPath} {disk : Disk}
    (stay : ∀ path ∈ paths, leavesCache cacheDir path = false) :
    Confined cacheDir disk (removeCacheFiles cacheDir faults disk paths) := by
  induction paths generalizing disk with
  | nil => exact ReflTransGen.refl
  | cons path rest inductionHypothesis =>
      have first : Confined cacheDir disk
          (removeCacheFile cacheDir faults disk path) :=
        removeCacheFile_confined (stay path List.mem_cons_self)
      have later : Confined cacheDir
          (removeCacheFile cacheDir faults disk path)
          (removeCacheFiles cacheDir faults disk (path :: rest)) :=
        inductionHypothesis fun other member =>
          stay other (List.mem_cons_of_mem path member)
      exact ReflTransGen.trans first later

theorem deleteEntry_confined {entryId : String}
    (stays : StaysInCache fileUrlPath cacheDir store) :
    Confined cacheDir store.disk
      (deleteEntry fileUrlPath cacheDir faults entryId store).2.disk := by
  rw [deleteEntry_disk]
  split
  · rename_i entry _ found
    unfold cleanUpCacheFiles
    split
    · exact ReflTransGen.refl
    · have member := (HistoryStore.getEntry_eq_some found).1
      exact removeCacheFiles_confined (stays entry member)
  · exact ReflTransGen.refl

theorem deleteEach_confined {counts : DeleteCounts} {entryIds : List String}
    (stays : StaysInCache fileUrlPath cacheDir store) :
    Confined cacheDir store.disk
      (deleteEach fileUrlPath cacheDir env counts store
        entryIds).2.disk := by
  induction entryIds generalizing counts store with
  | nil => exact ReflTransGen.refl
  | cons entryId rest inductionHypothesis =>
      have first : Confined cacheDir store.disk
          (deleteEntry fileUrlPath cacheDir (env.deleteFaults entryId) entryId
            store).2.disk := deleteEntry_confined stays
      have stillStays : StaysInCache fileUrlPath cacheDir
          (deleteEntry fileUrlPath cacheDir (env.deleteFaults entryId) entryId
            store).2 := stays.of_shrinks deleteEntry_shrinks
      rw [deleteEach]
      split
      · rename_i after isAfter
        rw [isAfter] at first stillStays
        exact ReflTransGen.trans first (inductionHypothesis stillStays)
      · rename_i after isAfter
        rw [isAfter] at first stillStays
        exact ReflTransGen.trans first (inductionHypothesis stillStays)

/-! ### The sweep of expired files -/

theorem inside_of_mem_children {disk : Disk} {dir : Location}
    {child : Location × FsNode} (inCache : cacheDir <+: dir)
    (isChild : child ∈ disk.children dir) : Inside cacheDir child.1 := by
  obtain ⟨name, isName, _⟩ := Disk.mem_children_iff.mp isChild
  rw [isName]
  refine ⟨inCache.trans (List.prefix_append dir [name]), ?_⟩
  intro same
  have longer := inCache.length_le
  have sameLength := congrArg List.length same
  rw [List.length_append, List.length_singleton] at sameLength
  omega

theorem inside_of_mem_collectExpired {retentionMs : Int} {disk : Disk}
    {depth : Nat} {dir location : Location} {sizeBytes : Nat}
    (inCache : cacheDir <+: dir)
    (member : (location, sizeBytes) ∈
      collectExpired env retentionMs disk depth dir) :
    Inside cacheDir location := by
  induction depth generalizing dir with
  | zero => cases member
  | succ depth inductionHypothesis =>
      rw [collectExpired] at member
      split at member
      · cases member
      · obtain ⟨child, isChild, inChild⟩ := List.mem_flatMap.mp member
        have inside := inside_of_mem_children inCache isChild
        cases isNode : child.2 with
        | directory =>
            rw [isNode] at inChild
            exact inductionHypothesis inside.1 inChild
        | file size modifiedUnixMs =>
            rw [isNode] at inChild
            simp only at inChild
            split at inChild
            · cases inChild
            · split at inChild
              · rw [List.mem_singleton] at inChild
                cases inChild
                exact inside
              · cases inChild

theorem removeLocation_confined {disk after : Disk}
    (inside : Inside cacheDir location)
    (removed : disk.removeFile location.osPath = some after) :
    Confined cacheDir disk after := by
  obtain ⟨found, resolved, isFile, _, isAfter⟩ :=
    Disk.removeFile_eq_some_iff.mp removed
  have same := eq_of_resolve_path resolved
  subst same
  rw [isAfter]
  exact confined_file inside isFile

theorem sweepExpiredFile_confined {index : Table PathBuf String}
    {sweep : TtlSweep} {file : Location × Nat}
    (inside : Inside cacheDir file.1)
    (stays : StaysInCache fileUrlPath cacheDir sweep.store) :
    Confined cacheDir sweep.store.disk
        (sweepExpiredFile fileUrlPath cacheDir env index sweep
          file).store.disk ∧
      StaysInCache fileUrlPath cacheDir
        (sweepExpiredFile fileUrlPath cacheDir env index sweep
          file).store := by
  unfold sweepExpiredFile
  split
  · rename_i entryId _
    have first : Confined cacheDir sweep.store.disk
        (deleteEntry fileUrlPath cacheDir (env.deleteFaults entryId) entryId
          sweep.store).2.disk := deleteEntry_confined stays
    have stillStays : StaysInCache fileUrlPath cacheDir
        (deleteEntry fileUrlPath cacheDir (env.deleteFaults entryId) entryId
          sweep.store).2 := stays.of_shrinks deleteEntry_shrinks
    split
    · exact ⟨ReflTransGen.refl, stays⟩
    · split
      · rename_i after isAfter
        rw [isAfter] at first stillStays
        exact ⟨first, stillStays⟩
      · rename_i after isAfter
        rw [isAfter] at first stillStays
        exact ⟨first, stillStays⟩
  · split
    · split
      · rename_i after isAfter
        refine ⟨?_, stays⟩
        apply removeLocation_confined inside
        split at isAfter
        · cases isAfter
        · exact isAfter
      · exact ⟨ReflTransGen.refl, stays⟩
    · exact ⟨ReflTransGen.refl, stays⟩

theorem sweepExpiredFiles_confined {index : Table PathBuf String}
    {files : List (Location × Nat)} {sweep : TtlSweep}
    (inside : ∀ file ∈ files, Inside cacheDir file.1)
    (stays : StaysInCache fileUrlPath cacheDir sweep.store) :
    Confined cacheDir sweep.store.disk
      (files.foldl (sweepExpiredFile fileUrlPath cacheDir env index)
        sweep).store.disk := by
  induction files generalizing sweep with
  | nil => exact ReflTransGen.refl
  | cons file rest inductionHypothesis =>
      obtain ⟨first, stillStays⟩ :
          Confined cacheDir sweep.store.disk
              (sweepExpiredFile fileUrlPath cacheDir env index sweep
                file).store.disk ∧
            StaysInCache fileUrlPath cacheDir
              (sweepExpiredFile fileUrlPath cacheDir env index sweep
                file).store :=
        sweepExpiredFile_confined (inside file List.mem_cons_self) stays
      have later := inductionHypothesis
        (fun other member => inside other (List.mem_cons_of_mem file member))
        stillStays
      exact ReflTransGen.trans first later

theorem removeIfEmpty_confined {disk : Disk} {child : Location × FsNode}
    (inside : Inside cacheDir child.1) :
    Confined cacheDir disk (removeIfEmpty env disk child) := by
  unfold removeIfEmpty
  split
  · cases removed : disk.removeDir child.1.path with
    | none => exact ReflTransGen.refl
    | some after =>
        obtain ⟨found, resolved, _, isDirectory, isEmpty, isAfter⟩ :=
          Disk.removeDir_eq_some removed
        have same := eq_of_resolve_path resolved
        subst same
        rw [Option.getD_some, isAfter]
        exact confined_directory inside isDirectory isEmpty
  · exact ReflTransGen.refl

theorem cleanupEmptyDirs_confined {disk : Disk} :
    Confined cacheDir disk (cleanupEmptyDirs cacheDir env disk) := by
  have each : ∀ (children : List (Location × FsNode)) (disk : Disk),
      (∀ child ∈ children, Inside cacheDir child.1) →
        Confined cacheDir disk
          (children.foldl (removeIfEmpty env) disk) := by
    intro children
    induction children with
    | nil => exact fun disk _ => ReflTransGen.refl
    | cons child rest inductionHypothesis =>
        intro disk inside
        have first : Confined cacheDir disk (removeIfEmpty env disk child) :=
          removeIfEmpty_confined (inside child List.mem_cons_self)
        have later := inductionHypothesis (removeIfEmpty env disk child)
          fun other member => inside other (List.mem_cons_of_mem child member)
        exact ReflTransGen.trans first later
  unfold cleanupEmptyDirs
  split
  · exact ReflTransGen.refl
  · apply each
    intro child isChild
    exact inside_of_mem_children (List.prefix_refl cacheDir) isChild

theorem runFileCacheTtl_confined {retentionHours : Nat}
    {result : CleanupResult}
    (stays : StaysInCache fileUrlPath cacheDir store) :
    Confined cacheDir store.disk
      (runFileCacheTtl fileUrlPath cacheDir env retentionHours result
        store).2.disk := by
  unfold runFileCacheTtl
  split
  · exact ReflTransGen.refl
  · split
    · exact ReflTransGen.refl
    · split
      · exact ReflTransGen.refl
      · have inside : ∀ file ∈ collectExpiredFiles cacheDir env
            (retentionHours * 3600 * 1000) store.disk,
            Inside cacheDir file.1 := fun file member =>
          inside_of_mem_collectExpired (List.prefix_refl cacheDir) member
        have start : StaysInCache fileUrlPath cacheDir
            (TtlSweep.mk store [] result).store := stays
        exact ReflTransGen.trans (sweepExpiredFiles_confined inside start)
          cleanupEmptyDirs_confined

theorem Deletion.run_confined (deletion : Deletion)
    (stays : StaysInCache fileUrlPath cacheDir store) :
    Confined cacheDir store.disk
      (deletion.run fileUrlPath cacheDir store).disk := by
  cases deletion with
  | entry faults entryId => exact deleteEntry_confined stays
  | fileCacheTtl env retentionHours result =>
      exact runFileCacheTtl_confined stays
  | quota env quotaBytes skipPinned baselineWritten counts =>
      unfold Deletion.run runQuota
      simp only
      split
      · exact ReflTransGen.refl
      · split
        · exact ReflTransGen.refl
        · split
          · exact ReflTransGen.refl
          · split <;> exact ReflTransGen.refl
          · split
            · exact ReflTransGen.refl
            · exact deleteEach_confined stays
  | retention env policy hashOrder =>
      unfold Deletion.run enforceRetention
      simp only
      split
      · exact deleteEach_confined stays
      · exact ReflTransGen.refl
  | missingFiles env =>
      unfold Deletion.run reconcileMissingFiles
      simp only
      split
      · exact ReflTransGen.refl
      · exact deleteEach_confined stays

end Deletions

/-! ## A disk that a path leaves the cache on -/

theorem exists_disk_of_route {passed : List Location}
    (isRoute : route [] components = some (passed, location))
    (fresh : location ∉ passed) (below : location ≠ []) :
    ∃ disk : Disk, ∀ other, disk.node other =
      if other = location then some (.file 0 none)
      else if other ∈ [] :: passed then some .directory
      else none := by
  let nodes : Table Location FsNode :=
    ((∅ : Table Location FsNode).putEach id (fun _ => .directory)
      passed).put location (.file 0 none)
  have finds : ∀ other, nodes.find other =
      if other = location then some (.file 0 none)
      else if other ∈ passed then some .directory
      else none := by
    intro other
    rw [Table.find_put, Table.find_putEach_id, Table.find_empty]
    congr
  have parents : ∀ parent name node,
      nodes.find (parent ++ [name]) = some node →
        parent = [] ∨ nodes.find parent = some .directory := by
    intro parent name node found
    rw [finds] at found ⊢
    have reached : parent ++ [name] ∈ passed ∨ parent ++ [name] = location := by
      by_cases isEnd : parent ++ [name] = location
      · exact Or.inr isEnd
      · rw [if_neg isEnd] at found
        by_cases inPassed : parent ++ [name] ∈ passed
        · exact Or.inl inPassed
        · rw [if_neg inPassed] at found
          cases found
    have inPassed := mem_passed_of_route isRoute reached
    have notEnd : parent ≠ location := by
      rintro rfl
      exact fresh inPassed
    rw [if_neg notEnd, if_pos inPassed]
    exact Or.inr rfl
  refine ⟨⟨nodes, parents⟩, ?_⟩
  intro other
  by_cases isRoot : other = []
  · rw [isRoot, Disk.node_nil, if_neg below.symm, if_pos List.mem_cons_self]
  · rw [Disk.node_of_ne isRoot, finds]
    simp only [List.mem_cons, isRoot, false_or]

theorem node_without_eq_none {disk : Disk} {location other : Location}
    (absent : disk.node other = none) :
    (disk.without location).node other = none := by
  by_cases isRoot : other = []
  · rw [isRoot] at absent
    cases absent
  · rw [Disk.node_of_ne isRoot] at absent ⊢
    have found := disk.find_remove_below location other
    rw [absent, ite_self] at found
    exact found

theorem removeCacheFile_of_removed {disk after : Disk} {faults : DeleteFaults}
    {other : Location} (tried : faults.removeFile path = false)
    (removed : disk.removeFile path = some after)
    (gone : after.node other = none) :
    (removeCacheFile cacheDir faults disk path).node other = none := by
  unfold removeCacheFile
  rw [tried, if_neg Bool.false_ne_true, removed]
  simp only
  split
  · exact gone
  · rename_i parent _
    split
    · cases isRemoved : after.removeDir parent with
      | none => exact gone
      | some last =>
          obtain ⟨location, _, _, _, _, isLast⟩ :=
            Disk.removeDir_eq_some isRemoved
          rw [Option.getD_some, isLast]
          exact node_without_eq_none gone
    · exact gone

theorem removeCacheFile_eq_none {disk : Disk} {faults : DeleteFaults}
    {other : Location} (absent : disk.node other = none) :
    (removeCacheFile cacheDir faults disk path).node other = none := by
  cases tried : faults.removeFile path with
  | true =>
      unfold removeCacheFile
      rw [tried, if_pos rfl]
      exact absent
  | false =>
      cases removed : disk.removeFile path with
      | none =>
          unfold removeCacheFile
          rw [tried, if_neg Bool.false_ne_true, removed]
          exact absent
      | some after =>
          obtain ⟨location, _, _, _, isAfter⟩ :=
            Disk.removeFile_eq_some_iff.mp removed
          apply removeCacheFile_of_removed tried removed
          rw [isAfter]
          exact node_without_eq_none absent

/-- Every other file is kept back by an error. -/
def DeleteFaults.allBut (path : OsPath) : DeleteFaults :=
  { DeleteFaults.none with removeFile := fun other => decide (other ≠ path) }

theorem removeCacheFiles_allBut {paths : List OsPath} {disk : Disk}
    (member : path ∈ paths)
    (gone : (removeCacheFile cacheDir (.allBut path) disk path).node location =
      none) :
    (removeCacheFiles cacheDir (.allBut path) disk paths).node location =
      none := by
  have stays : ∀ (rest : List OsPath) (disk : Disk),
      disk.node location = none →
        (removeCacheFiles cacheDir (.allBut path) disk rest).node location =
          none := by
    intro rest
    induction rest with
    | nil => exact fun disk absent => absent
    | cons head tail inductionHypothesis =>
        intro disk absent
        exact inductionHypothesis _ (removeCacheFile_eq_none absent)
  induction paths with
  | nil => cases member
  | cons head tail inductionHypothesis =>
      by_cases same : head = path
      · subst same
        exact stays tail _ gone
      · have inTail : path ∈ tail := by
          rcases List.mem_cons.mp member with isHead | inTail
          · exact absurd isHead.symm same
          · exact inTail
        have kept : removeCacheFile cacheDir (.allBut path) disk head =
            disk := by
          unfold removeCacheFile
          rw [if_pos]
          exact decide_eq_true same
        unfold removeCacheFiles
        rw [List.foldl_cons, kept]
        exact inductionHypothesis inTail

theorem RemovedFile.removeDir_parent {disk after : Disk}
    (removal : RemovedFile disk path after passed passedBefore before name)
    (named : PathBuf.fileName { path.path with
      components := path.path.components.dropLast } ≠ none)
    (onlyFile : ∀ child, disk.node (before ++ [child]) ≠ none →
      child = name) :
    before ≠ [] ∧ after.removeDir { path.path with
      components := path.path.components.dropLast } =
        some (after.without before) := by
  have below : before ++ [name] ≠ [] := Disk.ne_nil_of_isFile removal.isFile
  have directories : ∀ place ∈ passed, after.node place = some .directory := by
    intro place inPassed
    rw [removal.isAfter, Disk.node_without below, if_neg]
    · exact removal.directories place inPassed
    · intro isBelow
      have absent := Disk.node_below_file removal.isFile isBelow (by
        rintro rfl
        exact removal.notPassed inPassed)
      rw [removal.directories place inPassed] at absent
      cases absent
  have resolved : after.resolve { path.path with
      components := path.path.components.dropLast } = some before := by
    unfold Disk.resolve
    rw [if_pos]
    · apply walk_eq_some_iff.mpr
      refine ⟨passedBefore, removal.parentRoute, ?_⟩
      intro place member
      apply directories
      rw [removal.isPassed]
      exact List.mem_append_left _ member
    · exact removal.absolute
  have isDirectory : after.node before = some .directory := by
    apply directories
    rw [removal.isPassed]
    exact List.mem_append_right _ (List.mem_singleton_self _)
  have isEmpty : after.children before = [] := by
    apply Disk.children_eq_nil_iff.mpr
    intro child
    rw [removal.isAfter, Disk.node_without below]
    by_cases isFile : child = name
    · rw [if_pos (isFile ▸ List.prefix_refl _)]
    · rw [ite_eq_left_iff]
      intro _
      by_contra occupied
      exact isFile (onlyFile child occupied)
  constructor
  · unfold PathBuf.fileName at named
    simp only at named
    cases isLast : path.path.components.dropLast.getLast? with
    | none =>
        rw [isLast] at named
        exact absurd rfl named
    | some last =>
        rw [isLast] at named
        have notParent : last.isParent ≠ true := by
          intro isParent
          simp only [if_pos isParent] at named
          exact named rfl
        obtain ⟨front, isFront⟩ := List.getLast?_eq_some_iff.mp isLast
        have isRoute := removal.parentRoute
        rw [isFront] at isRoute
        obtain ⟨_, above, _, _, ends⟩ := route_concat isRoute
        rcases ends with ⟨isParent, _⟩ | ⟨_, deeper, isDown⟩
        · exact absurd isParent notParent
        · rw [isDown]
          simp
  · unfold Disk.removeDir
    obtain ⟨last, isLast⟩ := Option.ne_none_iff_exists'.mp named
    rw [isLast, resolved]
    exact if_pos ⟨isDirectory, isEmpty⟩

theorem exists_disk_of_leavesCache (leaves : leavesCache cacheDir path = true) :
    ∃ (disk : Disk) (location : Location), ¬ Inside cacheDir location ∧
      disk.node location ≠ none ∧
        (removeCacheFile cacheDir (.allBut path) disk path).node location =
          none := by
  unfold leavesCache at leaves
  split at leaves
  · cases leaves
  · rename_i passed location isRoute
    simp only [Bool.and_eq_true, Bool.or_eq_true, Bool.not_eq_true',
      decide_eq_true_eq, decide_eq_false_iff_not] at leaves
    obtain ⟨⟨⟨⟨bare, absolute⟩, below⟩, fresh⟩, escapes⟩ := leaves
    obtain ⟨disk, isDisk⟩ := exists_disk_of_route isRoute fresh below
    have isFile : disk.isFile location = true := by
      apply Disk.isFile_iff.mpr
      refine ⟨0, none, ?_⟩
      rw [isDisk, if_pos rfl]
    have directories : ∀ place ∈ passed,
        disk.node place = some .directory := by
      intro place inPassed
      have notEnd : place ≠ location := by
        rintro rfl
        exact fresh inPassed
      rw [isDisk, if_neg notEnd, if_pos (List.mem_cons_of_mem _ inPassed)]
    have resolved : disk.resolve path.path = some location := by
      unfold Disk.resolve
      rw [if_pos absolute]
      exact walk_eq_some_iff.mpr ⟨passed, isRoute, directories⟩
    have removed : disk.removeFile path = some (disk.without location) :=
      Disk.removeFile_eq_some_iff.mpr
        ⟨location, resolved, isFile, bare, rfl⟩
    have tried : (DeleteFaults.allBut path).removeFile path = false := by
      simp [DeleteFaults.allBut]
    by_cases inside : Inside cacheDir location
    · -- The file is inside: the path respells the cache directory.
      have respells := escapes.resolve_left (not_not_intro inside)
      obtain ⟨passed', passedBefore, before, name, removal⟩ :=
        removedFile_of_removeFile removed
      have sameRoute := removal.isRoute
      rw [isRoute] at sameRoute
      cases sameRoute
      unfold respellsCacheDir at respells
      rw [removal.isParent] at respells
      simp only [Bool.and_eq_true, decide_eq_true_eq, List.dropLast_concat,
        List.all_eq_true, Bool.not_eq_true', decide_eq_false_iff_not]
        at respells
      obtain ⟨⟨⟨⟨isCacheDir, different⟩, isCachePath⟩, named⟩, outside⟩ :=
        respells
      subst isCacheDir
      have onlyFile : ∀ child, disk.node (before ++ [child]) ≠ none →
          child = name := by
        intro child occupied
        by_contra isOther
        apply occupied
        rw [isDisk, if_neg (by simpa using isOther), if_neg]
        intro inPassed
        rcases List.mem_cons.mp inPassed with isRoot | inPassed
        · simp at isRoot
        · apply outside _ inPassed
          refine ⟨List.prefix_append before [child], ?_⟩
          simp
      obtain ⟨isBelow, removedDir⟩ :=
        removal.removeDir_parent (Option.isSome_iff_ne_none.mp named) onlyFile
      refine ⟨disk, before, fun isInside => isInside.2 rfl, ?_, ?_⟩
      · rw [directories before (by rw [removal.isPassed]; simp)]
        exact Option.some_ne_none _
      · have attempted : { path.path with
              components := path.path.components.dropLast } ≠ before.path ∧
            PathBuf.startsWith { path.path with
              components := path.path.components.dropLast } before.path =
                true ∧
            (DeleteFaults.allBut path).removeDir { path.path with
              components := path.path.components.dropLast } = false :=
          ⟨different, isCachePath, rfl⟩
        unfold removeCacheFile
        rw [tried, if_neg Bool.false_ne_true, removed]
        simp only [removal.isParent]
        rw [if_pos attempted, removedDir, Option.getD_some,
          Disk.node_without isBelow, if_pos (List.prefix_refl _)]
    · refine ⟨disk, location, inside, ?_, ?_⟩
      · rw [isDisk, if_pos rfl]
        exact Option.some_ne_none _
      · apply removeCacheFile_of_removed tried removed
        rw [Disk.node_without below, if_pos (List.prefix_refl _)]

/-- Whatever is on the disk, no deletion removes a file outside the cache, or a
directory that is not empty or not inside it, if and only if no list that the
entries show names a path that leaves the cache. -/
theorem deletions_confined_iff (fileUrlPath : FileUrlPath)
    (cacheDir : Location) (store : HistoryStore) :
    (∀ (disk : Disk) (deletion : Deletion),
      Confined cacheDir disk
        (deletion.run fileUrlPath cacheDir { store with disk := disk }).disk) ↔
      StaysInCache fileUrlPath cacheDir store := by
  constructor
  · intro confined entry member path shown
    by_contra leaves
    rw [Bool.not_eq_false] at leaves
    obtain ⟨disk, location, outside, occupied, gone⟩ :=
      exists_disk_of_leavesCache leaves
    have removal := confined disk (.entry (.allBut path) entry.entryId)
    have found : HistoryStore.getEntry { store with disk := disk }
        entry.entryId = some entry :=
      HistoryStore.getEntry_of_mem member
    have isAfter : (Deletion.run fileUrlPath cacheDir { store with disk := disk }
        (.entry (.allBut path) entry.entryId)).disk =
          removeCacheFiles cacheDir (.allBut path) disk
            (shownPaths fileUrlPath cacheDir
              (store.representationsOf entry.eventId)) := by
      unfold Deletion.run
      simp only
      rw [deleteEntry_disk, found]
      rfl
    rw [isAfter] at removal
    have same := removal.node_eq outside
    rw [removeCacheFiles_allBut shown gone] at same
    exact occupied same.symm
  · intro stays disk deletion
    have onDisk : StaysInCache fileUrlPath cacheDir
        { store with disk := disk } := stays
    exact deletion.run_confined onDisk

/-! ## A list with a detour -/

namespace Sample

def cacheName : Name :=
  ⟨⟨[0x63], by decide, by decide, by decide⟩, by decide, by decide⟩

def noteName : Name :=
  ⟨⟨[0x6E], by decide, by decide, by decide⟩, by decide, by decide⟩

/-- The cache `/c`, and beside it the file `/n`. -/
def disk : Disk where
  nodes := ((∅ : Table Location FsNode).put [noteName] (.file 3 none)).put
    [cacheName] .directory
  parents := by
    intro location name node found
    left
    rw [Table.find_put, Table.find_put, Table.find_empty] at found
    by_cases isCache : location ++ [name] = [cacheName]
    · simpa using congrArg List.length isCache
    · rw [if_neg isCache] at found
      by_cases isNote : location ++ [name] = [noteName]
      · simpa using congrArg List.length isNote
      · rw [if_neg isNote] at found
        cases found

def detour : List UInt8 := Text.asBytes "/c/../n"

def files : StoredRepresentation :=
  .ofCapture 65536 "files" ⟨"files"⟩ (some ⟨"text/uri-list"⟩) detour

def store : HistoryStore where
  entries := [⟨"entry", "event", 0, false⟩]
  events := [⟨"event", "hash"⟩]
  representations := (∅ : Table String (List StoredRepresentation)).put "event"
    [files]
  selections := ["entry"]
  searchIndex := []
  blobTags := []
  quotaBaseline := .absent
  disk := disk
  entryIds := by decide

end Sample

open Sample in
/-- The file beside the cache is deleted with the entry. -/
theorem detour_leavesCache :
    ¬ ∀ (fileUrlPath : FileUrlPath) (cacheDir : Location)
      (store : HistoryStore) (deletion : Deletion),
      Confined cacheDir store.disk
        (deletion.run fileUrlPath cacheDir store).disk := by
  intro confined
  have removal := confined (fun _ => none) [cacheName] store
    (.entry .none "entry")
  have outside : ¬ Inside [cacheName] [noteName] := by decide
  have same := removal.node_eq outside
  revert same
  decide +kernel

end OpenClipboard.History
