import OpenClipboard.Inbound.DirectorySet

/-!
# What a failed directory set leaves behind

Every error exit has its own leftovers: placeholders that were not cleared yet,
a copy that was not completed, a root whose source could not be removed.  The
entries after a failed call are worked out for each of them, and compared with
the entries before.
-/

namespace OpenClipboard.DirectorySet

open InboundMaterialize InboundTargets

variable {destinations : List Destination} {path : EntryPath}
  {chosen : List Destination} {position : Nat} {after : Entries}
  {result : Except String Unit} {roots : List DirectoryRoot}
  {rest : List Destination} {err : String} {staged : List StagedFile}
  {digests : List (Nat × Digest)}

namespace DirectoryCall

variable {call : DirectoryCall} {before : Entries}

theorem fails_iff {step : Step} :
    call.fails step = true ↔ call.failing = some step :=
  decide_eq_true_iff

/-! ## Placeholders -/

def reservedPaths (destinations : List Destination) : List EntryPath :=
  pathsOf (destinations.filter Destination.isReserved)

def placed (destinations : List Destination) (entries : Entries) : Entries :=
  fun path =>
    if path ∈ reservedPaths destinations then some (.file []) else entries path

theorem placed_of_unreserved
    (unreserved : ∀ destination ∈ destinations,
      destination.isReserved = false) :
    placed destinations before = before := by
  have none : destinations.filter Destination.isReserved = [] := by
    rw [List.filter_eq_nil_iff]
    intro destination member
    rw [unreserved destination member]
    decide
  funext path
  unfold placed reservedPaths pathsOf
  rw [none]
  rfl

theorem mem_reservedPaths_append {destination : Destination} :
    path ∈ reservedPaths (destinations ++ [destination]) ↔
      path ∈ reservedPaths destinations ∨
        (destination.isReserved = true ∧ destination.path = path) := by
  unfold reservedPaths pathsOf
  rw [List.filter_append, List.map_append, List.mem_append]
  by_cases isReserved : destination.isReserved = true
  · have swap : path = destination.path ↔ destination.path = path := eq_comm
    simp [isReserved, swap]
  · simp [isReserved]

theorem placed_append_reserved (destinations : List Destination)
    (root : DirectoryRoot) (path : EntryPath) :
    placed (destinations ++ [⟨root, path, true⟩]) before =
      Function.update (placed destinations before) path (some (.file [])) := by
  funext tested
  unfold placed
  by_cases isPath : tested = path
  · rw [isPath, Function.update_self,
      if_pos (mem_reservedPaths_append.mpr (Or.inr ⟨rfl, rfl⟩))]
  · have sameMembers : tested ∈
        reservedPaths (destinations ++ [⟨root, path, true⟩]) ↔
          tested ∈ reservedPaths destinations := by
      rw [mem_reservedPaths_append]
      exact or_iff_left fun isNew => isPath isNew.2.symm
    rw [Function.update_of_ne isPath]
    exact if_congr sameMembers rfl rfl

theorem placed_append_unreserved (destinations : List Destination)
    (root : DirectoryRoot) (path : EntryPath) :
    placed (destinations ++ [⟨root, path, false⟩]) before =
      placed destinations before := by
  funext tested
  unfold placed
  have sameMembers : tested ∈
      reservedPaths (destinations ++ [⟨root, path, false⟩]) ↔
        tested ∈ reservedPaths destinations := by
    rw [mem_reservedPaths_append]
    exact or_iff_left fun isNew => Bool.false_ne_true isNew.1
  exact if_congr sameMembers rfl rfl

theorem mem_pathsOf_of_reserved (member : path ∈ reservedPaths destinations) :
    path ∈ pathsOf destinations := by
  rcases List.mem_map.mp member with ⟨destination, inReserved, isPath⟩
  rw [← isPath]
  exact List.mem_map_of_mem (List.mem_of_mem_filter inReserved)

/-- Placeholders where nothing was show, unless there are none. -/
theorem placed_eq_iff
    (absent : ∀ destination ∈ destinations, before destination.path = none) :
    placed destinations before = before ↔
      ∀ destination ∈ destinations, destination.isReserved = false := by
  constructor
  · intro same destination member
    by_contra isReserved
    have inReserved : destination.path ∈ reservedPaths destinations :=
      List.mem_map_of_mem (List.mem_filter.mpr
        ⟨member, by simpa using isReserved⟩)
    have atPath := congrFun same destination.path
    unfold placed at atPath
    rw [if_pos inReserved, absent destination member] at atPath
    cases atPath
  · exact placed_of_unreserved

/-! ## Choosing destinations -/

theorem reserveTarget_eq_some
    (isWon : call.reserveTarget (placed chosen before) position = some path) :
    before path = none := by
  unfold reserveTarget at isWon
  rcases Option.filter_eq_some_iff.mp isWon with ⟨_, isFree⟩
  unfold placed at isFree
  split at isFree
  · cases isFree
  · exact Option.isNone_iff_eq_none.mp isFree

theorem resolveRootPath_eq_some {name : Segment}
    (isResolved : call.resolveRootPath (placed chosen before) (pathsOf chosen)
      name = some path) :
    before path = none ∧ path ∉ pathsOf chosen := by
  have free : path ∉ pathsOf chosen ∧ placed chosen before path = none := by
    unfold resolveRootPath at isResolved
    dsimp only at isResolved
    split at isResolved
    · rcases FreshName.search_eq_some isResolved with ⟨isFree, _⟩
      simpa using isFree
    · rename_i isFree
      cases isResolved
      simpa using isFree
  refine ⟨?_, free.1⟩
  have isFree := free.2
  unfold placed at isFree
  split at isFree
  · cases isFree
  · exact isFree

/-- Choosing adds placeholders and nothing else, at paths where nothing was;
no two destinations are the same. -/
theorem chooseFrom_spec {chosen final : List Destination}
    (absent : ∀ destination ∈ chosen, before destination.path = none)
    (distinct : (pathsOf chosen).Nodup)
    (isChosen : call.chooseFrom chosen (placed chosen before) roots =
      (result, final, after)) :
    after = placed final before ∧
      (∀ destination ∈ final, before destination.path = none) ∧
      (result = .ok () → (pathsOf final).Nodup) := by
  induction roots generalizing chosen with
  | nil =>
      cases isChosen
      exact ⟨rfl, absent, fun _ => distinct⟩
  | cons root rest inductionHypothesis =>
      rw [chooseFrom] at isChosen
      have snoc : ∀ {path : EntryPath} {isReserved : Bool},
          before path = none →
            ∀ destination ∈ chosen ++ [⟨root, path, isReserved⟩],
              before destination.path = none := by
        intro path isReserved isAbsent destination member
        rcases List.mem_append.mp member with earlier | isNew
        · exact absent destination earlier
        · rw [List.mem_singleton.mp isNew]
          exact isAbsent
      have snocDistinct : ∀ {path : EntryPath} {isReserved : Bool},
          path ∉ pathsOf chosen →
            (pathsOf (chosen ++ [⟨root, path, isReserved⟩])).Nodup := by
        intro path isReserved isNew
        unfold pathsOf at isNew distinct ⊢
        rw [List.map_append, List.nodup_append]
        refine ⟨distinct, List.nodup_singleton _, ?_⟩
        intro earlier inChosen other isOther same
        rw [List.map_singleton, List.mem_singleton] at isOther
        rw [same, isOther] at inChosen
        exact isNew inChosen
      split at isChosen
      · rename_i path isWon
        have isAbsent := reserveTarget_eq_some isWon
        dsimp only at isChosen
        rw [← placed_append_reserved chosen root path] at isChosen
        split at isChosen
        · cases isChosen
          refine ⟨rfl, snoc isAbsent, ?_⟩
          intro isOk
          cases isOk
        · rename_i isNew
          exact inductionHypothesis (snoc isAbsent) (snocDistinct isNew)
            isChosen
      · split at isChosen
        · cases isChosen
          exact ⟨rfl, absent, fun _ => distinct⟩
        · split at isChosen
          · cases isChosen
            exact ⟨rfl, absent, fun _ => distinct⟩
          · rename_i path isResolved
            rcases resolveRootPath_eq_some isResolved with ⟨isAbsent, isNew⟩
            rw [← placed_append_unreserved chosen root path] at isChosen
            exact inductionHypothesis (snoc isAbsent) (snocDistinct isNew)
              isChosen

/-! ## Clearing placeholders -/

theorem reservedPaths_cons_of_unreserved {destination : Destination}
    (unreserved : destination.isReserved = false) :
    reservedPaths (destination :: rest) = reservedPaths rest := by
  unfold reservedPaths
  rw [List.filter_cons_of_neg (by rw [unreserved]; decide)]

theorem placed_cons_of_unreserved {destination : Destination}
    (unreserved : destination.isReserved = false) :
    placed (destination :: rest) before = placed rest before := by
  funext path
  unfold placed
  rw [reservedPaths_cons_of_unreserved unreserved]

theorem reservedPaths_cons_of_reserved {destination : Destination}
    (isReserved : destination.isReserved = true) :
    reservedPaths (destination :: rest) =
      destination.path :: reservedPaths rest := by
  unfold reservedPaths pathsOf
  rw [List.filter_cons_of_pos isReserved, List.map_cons]

theorem update_placed_cons {destination : Destination}
    (isReserved : destination.isReserved = true)
    (isNew : destination.path ∉ pathsOf rest)
    (isAbsent : before destination.path = none) :
    Function.update (placed (destination :: rest) before) destination.path
      none = placed rest before := by
  funext path
  have notLater : destination.path ∉ reservedPaths rest :=
    mt mem_pathsOf_of_reserved isNew
  by_cases isPath : path = destination.path
  · rw [isPath, Function.update_self]
    unfold placed
    rw [if_neg notLater, isAbsent]
  · rw [Function.update_of_ne isPath]
    unfold placed
    have sameMembers : path ∈ reservedPaths (destination :: rest) ↔
        path ∈ reservedPaths rest := by
      rw [reservedPaths_cons_of_reserved isReserved, List.mem_cons]
      exact or_iff_right isPath
    exact if_congr sameMembers rfl rfl

theorem placed_at_absent (isNew : path ∉ pathsOf rest)
    (isAbsent : before path = none) :
    placed rest before path = none := by
  unfold placed
  rw [if_neg (mt mem_pathsOf_of_reserved isNew), isAbsent]

inductive ClearFailure (call : DirectoryCall) (before : Entries)
    (position : Nat) (destination : Destination) (rest : List Destination) :
    Entries → Prop where
  | placeholder
      (isReserved : destination.isReserved = true)
      (isStep : call.failing = some (.clearPlaceholder position)) :
      ClearFailure call before position destination rest
        (placed (destination :: rest) before)
  | check
      (isStep : call.failing = some (.destinationCheck position)) :
      ClearFailure call before position destination rest (placed rest before)

theorem checkDestination_cases {destination : Destination}
    (isNew : destination.path ∉ pathsOf rest)
    (isAbsent : before destination.path = none)
    (isChecked : call.checkDestination position destination
      (placed rest before) = (result, after)) :
    (result = .ok () ∧ after = placed rest before) ∨
      ((∃ err, result = .error err) ∧
        ClearFailure call before position destination rest after) := by
  unfold checkDestination at isChecked
  split at isChecked
  · rename_i isStep
    cases isChecked
    exact Or.inr ⟨⟨_, rfl⟩, .check (fails_iff.mp isStep)⟩
  · rw [placed_at_absent isNew isAbsent] at isChecked
    cases isChecked
    exact Or.inl ⟨rfl, rfl⟩

theorem clearOne_cases {destination : Destination}
    (isNew : destination.path ∉ pathsOf rest)
    (isAbsent : before destination.path = none)
    (isCleared : call.clearOne position destination
      (placed (destination :: rest) before) = (result, after)) :
    (result = .ok () ∧ after = placed rest before) ∨
      ((∃ err, result = .error err) ∧
        ClearFailure call before position destination rest after) := by
  unfold clearOne at isCleared
  by_cases isReserved : destination.isReserved = true
  · have stands : placed (destination :: rest) before destination.path =
        some (.file []) := by
      unfold placed
      rw [reservedPaths_cons_of_reserved isReserved,
        if_pos List.mem_cons_self]
    rw [stands] at isCleared
    dsimp only at isCleared
    split at isCleared
    · rename_i isStep
      cases isCleared
      exact Or.inr ⟨⟨_, rfl⟩,
        .placeholder isReserved (fails_iff.mp isStep)⟩
    · rw [update_placed_cons isReserved isNew isAbsent] at isCleared
      exact checkDestination_cases isNew isAbsent isCleared
  · rw [placed_cons_of_unreserved (by simpa using isReserved),
      placed_at_absent isNew isAbsent] at isCleared
    exact checkDestination_cases isNew isAbsent isCleared

theorem clearFrom_cases (distinct : (pathsOf destinations).Nodup)
    (absent : ∀ destination ∈ destinations, before destination.path = none)
    (isCleared : call.clearFrom position (placed destinations before)
      destinations = (result, after)) :
    (result = .ok () ∧ after = before) ∨
      ((∃ err, result = .error err) ∧ ∃ done destination rest,
        destinations = done ++ destination :: rest ∧
          ClearFailure call before (position + done.length) destination rest
            after) := by
  induction destinations generalizing position with
  | nil =>
      cases isCleared
      exact Or.inl ⟨rfl, placed_of_unreserved (by simp)⟩
  | cons destination rest inductionHypothesis =>
      unfold pathsOf at distinct
      rcases List.nodup_cons.mp distinct with ⟨isNew, restDistinct⟩
      have isAbsent := absent destination List.mem_cons_self
      rw [clearFrom] at isCleared
      generalize isOne : call.clearOne position destination
        (placed (destination :: rest) before) = one at isCleared
      rcases one with ⟨oneResult, oneAfter⟩
      rcases clearOne_cases isNew isAbsent isOne with
        ⟨isOk, isRest⟩ | ⟨⟨err, isError⟩, failure⟩
      · rw [isOk, isRest] at isCleared
        rcases inductionHypothesis restDistinct
            (fun later member => absent later (List.mem_cons_of_mem _ member))
            isCleared with
          whole | ⟨isError, done, failed, others, isSplit, failure⟩
        · exact Or.inl whole
        · right
          refine ⟨isError, destination :: done, failed, others, ?_, ?_⟩
          · rw [isSplit]
            rfl
          · rw [List.length_cons,
              show position + (done.length + 1) =
                position + 1 + done.length by omega]
            exact failure
      · rw [isError] at isCleared
        cases isCleared
        exact Or.inr ⟨⟨err, rfl⟩, [], destination, rest, rfl, failure⟩

/-! ## Promoting -/

/-- Where the roots of another device were copied to. -/
def hiddenPaths (call : DirectoryCall) (promoted : List Destination) :
    List EntryPath :=
  (promoted.zipIdx.filter fun numbered => call.crossDevice numbered.2).map
    fun numbered => hidden numbered.1.path

theorem mem_hiddenPaths_append {promoted : List Destination}
    {destination : Destination} :
    path ∈ call.hiddenPaths (promoted ++ [destination]) ↔
      path ∈ call.hiddenPaths promoted ∨
        (call.crossDevice promoted.length = true ∧
          path = hidden destination.path) := by
  unfold hiddenPaths
  rw [List.zipIdx_append, List.filter_append, List.map_append,
    List.mem_append]
  by_cases isCross : call.crossDevice promoted.length = true
  · simp [isCross]
  · simp [isCross]

theorem mem_pathsOf_append {promoted : List Destination}
    {destination : Destination} :
    path ∈ pathsOf (promoted ++ [destination]) ↔
      path ∈ pathsOf promoted ∨ path = destination.path := by
  unfold pathsOf
  rw [List.map_append, List.mem_append, List.map_singleton,
    List.mem_singleton]

theorem hidden_injective : Function.Injective hidden := by
  intro left right same
  have sameParent := congrArg EntryPath.parent same
  have sameName := congrArg (fun path => path.name.toList) same
  simp only [hidden, String.toList_append] at sameParent sameName
  have sameRest := List.append_cancel_left sameName
  cases left
  cases right
  simp only [EntryPath.mk.injEq]
  exact ⟨sameParent, String.toList_injective sameRest⟩

/-- The only changes outside the destinations are at the hidden paths. -/
def Settled (call : DirectoryCall) (before : Entries)
    (promoted : List Destination) (entries : Entries) : Prop :=
  ∀ path, path ∉ pathsOf promoted → entries path =
    if path ∈ call.hiddenPaths promoted then none else before path

inductive PromotionFailure (call : DirectoryCall) (position : Nat)
    (destination : Destination) (entries : Entries) : Entries → Prop where
  | hiddenCheck
      (isStep : call.failing = some (.hiddenCheck position)) :
      PromotionFailure call position destination entries entries
  | clearHidden
      (isStep : call.failing = some (.clearHidden position)) :
      PromotionFailure call position destination entries entries
  | copy
      (isStep : call.failing = some (.copy position)) :
      PromotionFailure call position destination entries
        (Function.update entries (hidden destination.path) call.residue)
  | secondRename
      (isStep : call.failing = some (.secondRename position)) :
      PromotionFailure call position destination entries
        (Function.update entries (hidden destination.path) none)
  | removeSource (content : Entry)
      (isStep : call.failing = some (.removeSource position)) :
      PromotionFailure call position destination entries
        (Function.update
          (Function.update entries (hidden destination.path) none)
          destination.path (some content))

theorem promoteRoot_cases {destination : Destination}
    {staged left : List StagedFile} {entries after : Entries}
    (isPromoted : call.promoteRoot position destination staged entries =
      (result, left, after)) :
    (result = .ok () ∧ ∃ content,
      (call.crossDevice position = false ∧
        after = Function.update entries destination.path (some content)) ∨
      (call.crossDevice position = true ∧
        after = Function.update
          (Function.update entries (hidden destination.path) none)
          destination.path (some content))) ∨
      ((∃ err, result = .error err) ∧ call.crossDevice position = true ∧
        PromotionFailure call position destination entries after) := by
  unfold promoteRoot at isPromoted
  dsimp only at isPromoted
  simp only [Function.update_idem] at isPromoted
  by_cases isCross : call.crossDevice position = true
  · rw [if_pos isCross] at isPromoted
    split at isPromoted
    · rename_i isStep
      cases isPromoted
      exact Or.inr ⟨⟨_, rfl⟩, isCross, .hiddenCheck (fails_iff.mp isStep)⟩
    · split at isPromoted
      · rename_i isStep
        cases isPromoted
        have stepFails := ((Bool.and_eq_true _ _).mp isStep).2
        exact Or.inr ⟨⟨_, rfl⟩, isCross,
          .clearHidden (fails_iff.mp stepFails)⟩
      · split at isPromoted
        · rename_i isStep
          cases isPromoted
          exact Or.inr ⟨⟨_, rfl⟩, isCross, .copy (fails_iff.mp isStep)⟩
        · split at isPromoted
          · rename_i isStep
            cases isPromoted
            exact Or.inr ⟨⟨_, rfl⟩, isCross,
              .secondRename (fails_iff.mp isStep)⟩
          · split at isPromoted
            · rename_i isStep
              cases isPromoted
              exact Or.inr ⟨⟨_, rfl⟩, isCross,
                .removeSource _ (fails_iff.mp isStep)⟩
            · cases isPromoted
              exact Or.inl ⟨rfl, _, Or.inr ⟨isCross, rfl⟩⟩
  · rw [if_neg isCross] at isPromoted
    cases isPromoted
    exact Or.inl ⟨rfl, _, Or.inl ⟨by simpa using isCross, rfl⟩⟩

theorem settled_hidden {promoted : List Destination} {destination : Destination}
    {entries : Entries} (settled : Settled call before promoted entries)
    (isCross : call.crossDevice promoted.length = true)
    (notPromoted : path ∉ pathsOf promoted) :
    Function.update entries (hidden destination.path) none path =
      if path ∈ call.hiddenPaths (promoted ++ [destination]) then none
      else before path := by
  by_cases isHidden : path = hidden destination.path
  · rw [isHidden, Function.update_self,
      if_pos (mem_hiddenPaths_append.mpr (Or.inr ⟨isCross, rfl⟩))]
  · have sameMembers : path ∈ call.hiddenPaths (promoted ++ [destination]) ↔
        path ∈ call.hiddenPaths promoted := by
      rw [mem_hiddenPaths_append]
      exact or_iff_left fun isNew => isHidden isNew.2
    rw [Function.update_of_ne isHidden, settled path notPromoted]
    exact (if_congr sameMembers rfl rfl).symm

theorem settled_append {promoted : List Destination}
    {destination : Destination} {entries after : Entries} {content : Entry}
    (settled : Settled call before promoted entries)
    (isAfter :
      (call.crossDevice promoted.length = false ∧
        after = Function.update entries destination.path (some content)) ∨
      (call.crossDevice promoted.length = true ∧
        after = Function.update
          (Function.update entries (hidden destination.path) none)
          destination.path (some content))) :
    Settled call before (promoted ++ [destination]) after := by
  intro path notPromoted
  rcases not_or.mp (mt mem_pathsOf_append.mpr notPromoted) with
    ⟨notEarlier, notThis⟩
  rcases isAfter with ⟨notCross, isAfter⟩ | ⟨isCross, isAfter⟩
  · have sameMembers : path ∈ call.hiddenPaths (promoted ++ [destination]) ↔
        path ∈ call.hiddenPaths promoted := by
      rw [mem_hiddenPaths_append, notCross]
      exact or_iff_left fun isNew => Bool.false_ne_true isNew.1
    rw [isAfter, Function.update_of_ne notThis, settled path notEarlier]
    exact (if_congr sameMembers rfl rfl).symm
  · rw [isAfter, Function.update_of_ne notThis]
    exact settled_hidden settled isCross notEarlier

/-- A failed promotion has settled the roots before the one that fails, and
rolls these back. -/
theorem promoteFrom_error {promoted destinations : List Destination}
    {entries after : Entries} (settled : Settled call before promoted entries)
    (isPromoted : call.promoteFrom promoted staged entries destinations =
      (.error err, after)) :
    ∃ done destination rest settledEntries failedEntries,
      promoted ++ destinations = done ++ destination :: rest ∧
        Settled call before done settledEntries ∧
        call.crossDevice done.length = true ∧
        PromotionFailure call done.length destination settledEntries
          failedEntries ∧
        after = rollBack done failedEntries := by
  induction destinations generalizing promoted staged entries with
  | nil => cases isPromoted
  | cons destination rest inductionHypothesis =>
      rw [promoteFrom] at isPromoted
      generalize isOne : call.promoteRoot promoted.length destination staged
        entries = one at isPromoted
      rcases one with ⟨result, left, oneAfter⟩
      rcases promoteRoot_cases isOne with
        ⟨isOk, content, isAfter⟩ | ⟨⟨oneErr, isError⟩, isCross, failure⟩
      · rw [isOk] at isPromoted
        have later := inductionHypothesis (settled_append settled isAfter)
          isPromoted
        rw [List.append_assoc] at later
        exact later
      · rw [isError] at isPromoted
        cases isPromoted
        exact ⟨promoted, destination, rest, entries, oneAfter, rfl, settled,
          isCross, failure, rfl⟩

theorem foldl_remove_apply (paths : List EntryPath) (entries : Entries)
    (path : EntryPath) :
    paths.foldl (fun left removed => Function.update left removed none) entries
      path = if path ∈ paths then none else entries path := by
  induction paths generalizing entries with
  | nil => rfl
  | cons first rest inductionHypothesis =>
      rw [List.foldl_cons, inductionHypothesis]
      by_cases inRest : path ∈ rest
      · rw [if_pos inRest, if_pos (List.mem_cons_of_mem _ inRest)]
      · rw [if_neg inRest]
        by_cases isFirst : path = first
        · rw [isFirst, Function.update_self, if_pos List.mem_cons_self]
        · have notMember : path ∉ first :: rest := by
            rw [List.mem_cons, not_or]
            exact ⟨isFirst, inRest⟩
          rw [Function.update_of_ne isFirst, if_neg notMember]

theorem rollBack_apply (promoted : List Destination) (entries : Entries)
    (path : EntryPath) :
    rollBack promoted entries path =
      if path ∈ pathsOf promoted then none else entries path := by
  unfold rollBack
  rw [foldl_remove_apply]
  exact if_congr List.mem_reverse rfl rfl

/-! ## After the rollback -/

/-- Nothing stood where the copies of these roots go. -/
def HiddenFree (call : DirectoryCall) (before : Entries)
    (promoted : List Destination) : Prop :=
  ∀ path ∈ call.hiddenPaths promoted, before path = none

theorem rollBack_eq_iff {promoted : List Destination}
    {removed : List EntryPath} {entries : Entries}
    (settled : ∀ path, path ∉ pathsOf promoted → entries path =
      if path ∈ removed then none else before path)
    (absent : ∀ destination ∈ promoted, before destination.path = none) :
    rollBack promoted entries = before ↔
      ∀ path ∈ removed, before path = none := by
  have absentAt : ∀ path ∈ pathsOf promoted, before path = none := by
    intro path member
    rcases List.mem_map.mp member with ⟨destination, inPromoted, isPath⟩
    rw [← isPath]
    exact absent destination inPromoted
  constructor
  · intro same path isRemoved
    by_cases isPromoted : path ∈ pathsOf promoted
    · exact absentAt path isPromoted
    · have atPath := congrFun same path
      rw [rollBack_apply, if_neg isPromoted, settled path isPromoted,
        if_pos isRemoved] at atPath
      exact atPath.symm
  · intro free
    funext path
    rw [rollBack_apply]
    by_cases isPromoted : path ∈ pathsOf promoted
    · rw [if_pos isPromoted, absentAt path isPromoted]
    · rw [if_neg isPromoted, settled path isPromoted]
      by_cases isRemoved : path ∈ removed
      · rw [if_pos isRemoved, free path isRemoved]
      · rw [if_neg isRemoved]

theorem hidden_not_mem_hiddenPaths {promoted : List Destination}
    (isNew : path ∉ pathsOf promoted) :
    hidden path ∉ call.hiddenPaths promoted := by
  intro member
  rcases List.mem_map.mp member with ⟨numbered, isNumbered, sameHidden⟩
  have inPromoted : numbered.1 ∈ promoted :=
    List.fst_mem_of_mem_zipIdx (List.mem_of_mem_filter isNumbered)
  apply isNew
  rw [← hidden_injective sameHidden]
  exact List.mem_map_of_mem inPromoted

section Failed

variable {promoted : List Destination} {destination : Destination}
  {entries : Entries}

/-- What a copy leaves behind stays, unless a root was promoted there. -/
theorem rollBack_copied_iff
    (settled : Settled call before promoted entries)
    (absent : ∀ destination ∈ promoted, before destination.path = none)
    (isNew : destination.path ∉ pathsOf promoted) :
    rollBack promoted
        (Function.update entries (hidden destination.path) call.residue) =
          before ↔
      call.HiddenFree before promoted ∧
        (hidden destination.path ∈ pathsOf promoted ∨
          call.residue = before (hidden destination.path)) := by
  have wholeIff := rollBack_eq_iff settled absent
  generalize isHidden : hidden destination.path = hiddenPath
  have notRemoved : hiddenPath ∉ call.hiddenPaths promoted := by
    rw [← isHidden]
    exact hidden_not_mem_hiddenPaths isNew
  by_cases isPromoted : hiddenPath ∈ pathsOf promoted
  · have same : rollBack promoted
        (Function.update entries hiddenPath call.residue) =
          rollBack promoted entries := by
      funext path
      rw [rollBack_apply, rollBack_apply]
      by_cases atHidden : path = hiddenPath
      · rw [atHidden, if_pos isPromoted, if_pos isPromoted]
      · rw [Function.update_of_ne atHidden]
    rw [same, wholeIff]
    exact ⟨fun free => ⟨free, Or.inl isPromoted⟩, fun both => both.1⟩
  · have atHidden : rollBack promoted entries hiddenPath =
        before hiddenPath := by
      rw [rollBack_apply, if_neg isPromoted, settled hiddenPath isPromoted,
        if_neg notRemoved]
    have moved : rollBack promoted
        (Function.update entries hiddenPath call.residue) =
          Function.update (rollBack promoted entries) hiddenPath
            call.residue := by
      funext path
      rw [rollBack_apply]
      by_cases isPath : path = hiddenPath
      · rw [isPath, if_neg isPromoted, Function.update_self,
          Function.update_self]
      · rw [Function.update_of_ne isPath, Function.update_of_ne isPath,
          rollBack_apply]
    rw [moved]
    constructor
    · intro same
      have residue := congrFun same hiddenPath
      rw [Function.update_self] at residue
      refine ⟨wholeIff.mp ?_, Or.inr residue⟩
      rw [← same, residue, ← atHidden, Function.update_eq_self]
    · rintro ⟨free, inPromoted | residue⟩
      · exact absurd inPromoted isPromoted
      · rw [wholeIff.mpr free, residue, Function.update_eq_self]

theorem rollBack_renamed_iff
    (settled : Settled call before promoted entries)
    (absent : ∀ destination ∈ promoted, before destination.path = none)
    (isCross : call.crossDevice promoted.length = true) :
    rollBack promoted
        (Function.update entries (hidden destination.path) none) = before ↔
      call.HiddenFree before (promoted ++ [destination]) := by
  apply rollBack_eq_iff _ absent
  intro path notPromoted
  exact settled_hidden settled isCross notPromoted

theorem rollBack_kept {content : Entry}
    (isNew : destination.path ∉ pathsOf promoted)
    (isAbsent : before destination.path = none) :
    rollBack promoted
      (Function.update entries destination.path (some content)) ≠ before := by
  intro same
  have atPath := congrFun same destination.path
  rw [rollBack_apply, if_neg isNew, Function.update_self, isAbsent] at atPath
  cases atPath

end Failed

/-! ## When nothing is left -/

/-- The failures from the first cleared placeholder on that leave the entries
as they were. -/
def HarmlessPromotion (call : DirectoryCall) (chosen : List Destination)
    (before : Entries) : Prop :=
  match call.failing with
  | some (.destinationCheck position) =>
      ∀ later ∈ chosen.drop (position + 1), later.isReserved = false
  | some (.hiddenCheck position) =>
      call.HiddenFree before (chosen.take position)
  | some (.clearHidden position) =>
      call.HiddenFree before (chosen.take position)
  | some (.copy position) =>
      call.HiddenFree before (chosen.take position) ∧
        ∃ destination, chosen[position]? = some destination ∧
          (hidden destination.path ∈ pathsOf (chosen.take position) ∨
            call.residue = before (hidden destination.path))
  | some (.secondRename position) =>
      call.HiddenFree before (chosen.take (position + 1))
  | _ => False

theorem clearFailure_iff {done rest : List Destination}
    {destination : Destination}
    (absent : ∀ other ∈ done ++ destination :: rest, before other.path = none)
    (failure : ClearFailure call before done.length destination rest after) :
    after = before ↔
      call.HarmlessPromotion (done ++ destination :: rest) before := by
  unfold HarmlessPromotion
  have restAbsent : ∀ other ∈ destination :: rest,
      before other.path = none :=
    fun other member => absent other (List.mem_append_right _ member)
  cases failure with
  | placeholder isReserved isStep =>
      rw [isStep, placed_eq_iff restAbsent]
      constructor
      · intro unreserved
        have isFalse := unreserved destination List.mem_cons_self
        rw [isReserved] at isFalse
        cases isFalse
      · intro impossible
        exact impossible.elim
  | check isStep =>
      rw [isStep, placed_eq_iff fun other member =>
        restAbsent other (List.mem_cons_of_mem _ member)]
      dsimp only
      rw [show (done ++ destination :: rest).drop (done.length + 1) = rest by
        simp]

theorem promotionFailure_iff {done rest : List Destination}
    {destination : Destination} {entries after : Entries}
    (absent : ∀ other ∈ done ++ destination :: rest, before other.path = none)
    (distinct : (pathsOf (done ++ destination :: rest)).Nodup)
    (settled : Settled call before done entries)
    (isCross : call.crossDevice done.length = true)
    (failure : PromotionFailure call done.length destination entries after) :
    rollBack done after = before ↔
      call.HarmlessPromotion (done ++ destination :: rest) before := by
  have doneAbsent : ∀ other ∈ done, before other.path = none :=
    fun other member => absent other (List.mem_append_left _ member)
  have isAbsent : before destination.path = none :=
    absent destination (List.mem_append_right _ List.mem_cons_self)
  have isNew : destination.path ∉ pathsOf done := by
    unfold pathsOf at distinct ⊢
    rw [List.map_append, List.nodup_append] at distinct
    intro member
    exact distinct.2.2 _ member _ List.mem_cons_self rfl
  have taken : (done ++ destination :: rest).take done.length = done :=
    List.take_left
  have takenNext : (done ++ destination :: rest).take (done.length + 1) =
      done ++ [destination] := by
    simp [List.take_append]
  have there : (done ++ destination :: rest)[done.length]? =
      some destination := by
    simp
  unfold HarmlessPromotion
  cases failure with
  | hiddenCheck isStep =>
      rw [isStep]
      dsimp only
      rw [taken]
      exact rollBack_eq_iff settled doneAbsent
  | clearHidden isStep =>
      rw [isStep]
      dsimp only
      rw [taken]
      exact rollBack_eq_iff settled doneAbsent
  | copy isStep =>
      rw [isStep]
      dsimp only
      rw [taken, there, rollBack_copied_iff settled doneAbsent isNew]
      simp
  | secondRename isStep =>
      rw [isStep]
      dsimp only
      rw [takenNext]
      exact rollBack_renamed_iff settled doneAbsent isCross
  | removeSource content isStep =>
      rw [isStep]
      exact iff_of_false (rollBack_kept isNew isAbsent) not_false

/-! ## The set is finished -/

theorem digestOf_isSome {index : Nat} {digest : Digest}
    (inserted : (index, digest) ∈ digests) :
    ∃ found, digestOf digests index = some found := by
  have isFound : (digests.reverse.find? fun inserted =>
      inserted.1 = index).isSome = true := by
    rw [List.find?_isSome]
    exact ⟨(index, digest), List.mem_reverse.mpr inserted, by simp⟩
  rcases Option.isSome_iff_exists.mp isFound with ⟨found, isThere⟩
  unfold digestOf
  rw [isThere]
  exact ⟨found.2, rfl⟩

theorem stageFrom_digests {staged after : List StagedFile}
    {digests final : List (Nat × Digest)} {members : List InboundFileSetMember}
    (isStaged : call.stageFrom position staged digests members =
      (.ok final, after)) :
    digests ⊆ final ∧
      ∀ member ∈ members, member.HasDigest (digestOf final) := by
  induction members generalizing position staged digests with
  | nil =>
      cases isStaged
      exact ⟨List.Subset.refl _, by simp⟩
  | cons member rest inductionHypothesis =>
      rw [stageFrom] at isStaged
      split at isStaged
      · cases isStaged
      · split at isStaged
        · cases isStaged
        · split at isStaged
          · rename_i isEmpty
            rcases inductionHypothesis isStaged with ⟨kept, later⟩
            refine ⟨kept, ?_⟩
            intro other inMembers
            rcases List.mem_cons.mp inMembers with isFirst | inRest
            · rw [isFirst]
              exact Or.inl isEmpty
            · exact later other inRest
          · cases isStaged
          · rename_i index isIndex _
            split at isStaged
            · cases isStaged
            · dsimp only at isStaged
              split at isStaged
              · cases isStaged
              · rcases inductionHypothesis isStaged with ⟨kept, later⟩
                rcases List.append_subset.mp kept with ⟨earlier, isNew⟩
                refine ⟨earlier, ?_⟩
                intro other inMembers
                rcases List.mem_cons.mp inMembers with isFirst | inRest
                · rw [isFirst]
                  rcases digestOf_isSome (isNew List.mem_cons_self) with
                    ⟨found, isFound⟩
                  exact Or.inr ⟨index, found, isIndex, isFound⟩
                · exact later other inRest

theorem buildStaging_digests
    (isBuilt : call.buildStaging = (.ok (roots, digests), staged)) :
    ∀ member ∈ call.manifest.members,
      member.HasDigest (digestOf digests) := by
  unfold buildStaging at isBuilt
  split at isBuilt
  · cases isBuilt
  · split at isBuilt
    · cases isBuilt
    · split at isBuilt
      · cases isBuilt
      · rename_i isStaged
        cases isBuilt
        exact (stageFrom_digests isStaged).2

theorem exists_rewritten (uriList : String)
    {reps : List ObservedClipboardRepresentation}
    (inMemory : ∀ rep ∈ reps, rep.inlineBytes.isSome = true) :
    ∃ rewritten, reps.mapM (rewriteOrFail uriList) = .ok rewritten := by
  induction reps with
  | nil => exact ⟨[], rfl⟩
  | cons rep rest inductionHypothesis =>
      have here : ∃ first, rewriteOrFail uriList rep = .ok first := by
        unfold rewriteOrFail
        split
        · rw [setInlineBytes_of_inMemory (inMemory rep List.mem_cons_self)]
          exact ⟨_, rfl⟩
        · exact ⟨rep, rfl⟩
      rcases here with ⟨first, isFirst⟩
      rcases inductionHypothesis fun other member =>
          inMemory other (List.mem_cons_of_mem _ member) with
        ⟨others, areOthers⟩
      exact ⟨first :: others, PartialMap.mapM_cons_eq_ok_iff.mpr
        ⟨first, others, isFirst, areOthers, rfl⟩⟩

theorem exists_finish (chosen : List Destination)
    (nonempty : call.manifest.members ≠ [])
    (haveDigests : ∀ member ∈ call.manifest.members,
      member.HasDigest (digestOf digests)) :
    ∃ result, call.finish chosen digests = .ok result := by
  unfold finish
  rcases exists_fileSetComponent call.blake3 nonempty haveDigests with
    ⟨component, isComponent⟩
  rw [isComponent]
  dsimp only
  rcases exists_rewritten (String.join ((pathsOf chosen).map fun path =>
      call.fileUrl path ++ "\n")) call.inMemory with ⟨reps, areReps⟩
  rw [areReps]
  exact ⟨_, rfl⟩

/-! ## The whole call -/

theorem buildAndPromote_digests
    (isBuilt : call.buildAndPromote before = (.ok (chosen, digests), after)) :
    ∀ member ∈ call.manifest.members,
      member.HasDigest (digestOf digests) := by
  unfold buildAndPromote at isBuilt
  split at isBuilt
  · cases isBuilt
  · rename_i isStaged
    split at isBuilt
    · cases isBuilt
    · split at isBuilt
      · cases isBuilt
      · split at isBuilt
        · cases isBuilt
        · split at isBuilt
          · cases isBuilt
          · cases isBuilt
            exact buildStaging_digests isStaged

/-- The failures after the staging directory was created that leave the
entries as they were. -/
def HarmlessBuild (call : DirectoryCall) (before : Entries) : Prop :=
  match call.buildStaging with
  | (.error _, _) => True
  | (.ok (roots, _), _) =>
      call.failing = some .createManaged ∨
        match call.chooseFrom [] before roots with
        | (.error _, chosen, _) =>
            ∀ destination ∈ chosen, destination.isReserved = false
        | (.ok (), chosen, _) => call.HarmlessPromotion chosen before

theorem clearFrom_error_iff
    (absent : ∀ destination ∈ chosen, before destination.path = none)
    (distinct : (pathsOf chosen).Nodup)
    (isFailed : call.clearFrom 0 (placed chosen before) chosen =
      (.error err, after)) :
    after = before ↔ call.HarmlessPromotion chosen before := by
  rcases clearFrom_cases distinct absent isFailed with
    ⟨isOk, _⟩ | ⟨_, done, destination, rest, isSplit, failure⟩
  · cases isOk
  · rw [isSplit] at absent ⊢
    rw [Nat.zero_add] at failure
    exact clearFailure_iff absent failure

theorem clearFrom_ok
    (absent : ∀ destination ∈ chosen, before destination.path = none)
    (distinct : (pathsOf chosen).Nodup)
    (isCleared : call.clearFrom 0 (placed chosen before) chosen =
      (.ok (), after)) :
    after = before := by
  rcases clearFrom_cases distinct absent isCleared with
    ⟨_, isBefore⟩ | ⟨⟨err, isError⟩, _⟩
  · exact isBefore
  · cases isError

theorem promoteFrom_error_iff
    (absent : ∀ destination ∈ chosen, before destination.path = none)
    (distinct : (pathsOf chosen).Nodup)
    (isFailed : call.promoteFrom [] staged before chosen =
      (.error err, after)) :
    after = before ↔ call.HarmlessPromotion chosen before := by
  have settled : Settled call before [] before := by
    intro path _
    exact (if_neg List.not_mem_nil).symm
  rcases promoteFrom_error settled isFailed with
    ⟨done, destination, rest, entries, failed, isSplit, doneSettled, isCross,
      failure, isAfter⟩
  rw [List.nil_append] at isSplit
  rw [isSplit] at absent distinct ⊢
  rw [isAfter]
  exact promotionFailure_iff absent distinct doneSettled isCross failure

theorem chooseFrom_nil_spec
    (isChosen : call.chooseFrom [] before roots = (result, chosen, after)) :
    after = placed chosen before ∧
      (∀ destination ∈ chosen, before destination.path = none) ∧
        (result = .ok () → (pathsOf chosen).Nodup) := by
  have none : ∀ destination ∈ ([] : List Destination),
      before destination.path = none := by
    simp
  have isPlaced : placed [] before = before := placed_of_unreserved (by simp)
  rw [← isPlaced] at isChosen
  exact chooseFrom_spec none List.nodup_nil isChosen

theorem buildAndPromote_error_iff
    (isFailed : call.buildAndPromote before = (.error err, after)) :
    after = before ↔ call.HarmlessBuild before := by
  unfold buildAndPromote at isFailed
  unfold HarmlessBuild
  generalize call.buildStaging = built at isFailed ⊢
  rcases built with ⟨stagingError | ⟨roots, digests⟩, staged⟩
  · cases isFailed
    exact iff_of_true rfl trivial
  dsimp only at isFailed ⊢
  by_cases isManaged : call.failing = some .createManaged
  · rw [if_pos (fails_iff.mpr isManaged)] at isFailed
    cases isFailed
    exact iff_of_true rfl (Or.inl isManaged)
  rw [if_neg (mt fails_iff.mp isManaged)] at isFailed
  rw [or_iff_right isManaged]
  generalize isChosen : call.chooseFrom [] before roots = choice
    at isFailed ⊢
  rcases choice with ⟨result, chosen, reserved⟩
  rcases chooseFrom_nil_spec isChosen with ⟨isPlaced, absent, distinct⟩
  cases result with
  | error chooseError =>
      cases isFailed
      rw [isPlaced]
      exact placed_eq_iff absent
  | ok =>
      have isNodup := distinct rfl
      dsimp only at isFailed ⊢
      rw [isPlaced] at isFailed
      generalize isCleared : call.clearFrom 0 (placed chosen before) chosen =
        clearing at isFailed
      rcases clearing with ⟨clearError | _, cleared⟩
      · cases isFailed
        exact clearFrom_error_iff absent isNodup isCleared
      · rw [clearFrom_ok absent isNodup isCleared] at isFailed
        dsimp only at isFailed
        generalize isPromoted : call.promoteFrom [] staged before chosen =
          promotion at isFailed
        rcases promotion with ⟨promoteError | _, promoted⟩
        · cases isFailed
          exact promoteFrom_error_iff absent isNodup isPromoted
        · cases isFailed

/-- Nothing that the call created is left, and what stood before it still
stands. -/
structure Atomic (before after : Disk) : Prop where
  created : ∀ path, before.entries path = none → after.entries path = none
  untouched : ∀ path entry, before.entries path = some entry →
    after.entries path = some entry
  stagingGone : before.staging = none → after.staging = none
  stagedKept : ∀ file ∈ before.staging.getD [],
    file ∈ after.staging.getD []

theorem Atomic.refl (disk : Disk) : Atomic disk disk :=
  ⟨fun _ absent => absent, fun _ _ stands => stands, fun gone => gone,
    fun _ member => member⟩

theorem atomic_withoutStaging_iff {before : Disk} {entries : Entries} :
    Atomic before ⟨none, entries⟩ ↔
      before.staging.getD [] = [] ∧ entries = before.entries := by
  constructor
  · intro atomic
    constructor
    · apply List.eq_nil_iff_forall_not_mem.mpr
      intro file member
      exact List.not_mem_nil (atomic.stagedKept file member)
    · funext path
      cases stands : before.entries path with
      | none => exact atomic.created path stands
      | some entry => exact atomic.untouched path entry stands
  · rintro ⟨noFiles, sameEntries⟩
    refine ⟨?_, ?_, fun _ => rfl, ?_⟩
    · intro path absent
      rw [← absent, ← sameEntries]
    · intro path entry stands
      rw [← stands, ← sameEntries]
    · rw [noFiles]
      simp

/-- The failures after which nothing is left: those before anything was
touched, and, where no files of an earlier call were staged, those after which
every phase leaves the entries as they were. -/
def Harmless (call : DirectoryCall) (before : Disk) : Prop :=
  call.manifest.members = [] ∨ call.failing = some .stagingExists ∨
    (before.staging.isSome = true ∧ call.failing = some .clearStaging) ∨
      (before.staging.getD [] = [] ∧
        (call.failing = some .createStaging ∨
          call.HarmlessBuild before.entries))

theorem materializeDirectory_atomic_iff {before after : Disk} {err : String}
    (isFailed : call.materializeDirectory before = (.error err, after)) :
    Atomic before after ↔ call.Harmless before := by
  unfold materializeDirectory at isFailed
  unfold Harmless
  by_cases isEmpty : call.manifest.members = []
  · rw [if_pos (List.isEmpty_iff.mpr isEmpty)] at isFailed
    cases isFailed
    exact iff_of_true (Atomic.refl before) (Or.inl isEmpty)
  rw [if_neg (mt List.isEmpty_iff.mp isEmpty)] at isFailed
  rw [or_iff_right isEmpty]
  by_cases isExists : call.failing = some .stagingExists
  · rw [if_pos (fails_iff.mpr isExists)] at isFailed
    cases isFailed
    exact iff_of_true (Atomic.refl before) (Or.inl isExists)
  rw [if_neg (mt fails_iff.mp isExists)] at isFailed
  rw [or_iff_right isExists]
  by_cases isClear : before.staging.isSome = true ∧
      call.failing = some .clearStaging
  · rw [if_pos ((Bool.and_eq_true _ _).mpr
      ⟨isClear.1, fails_iff.mpr isClear.2⟩)] at isFailed
    cases isFailed
    exact iff_of_true (Atomic.refl before) (Or.inl isClear)
  have notClear : ¬(before.staging.isSome &&
      call.fails .clearStaging) = true := by
    intro both
    rcases (Bool.and_eq_true _ _).mp both with ⟨isStale, isStep⟩
    exact isClear ⟨isStale, fails_iff.mp isStep⟩
  rw [if_neg notClear] at isFailed
  rw [or_iff_right isClear]
  by_cases isCreate : call.failing = some .createStaging
  · rw [if_pos (fails_iff.mpr isCreate)] at isFailed
    cases isFailed
    rw [atomic_withoutStaging_iff]
    exact and_congr_right fun _ => iff_of_true rfl (Or.inl isCreate)
  rw [if_neg (mt fails_iff.mp isCreate)] at isFailed
  rw [or_iff_right isCreate]
  generalize isBuilt : call.buildAndPromote before.entries = built at isFailed
  rcases built with ⟨result, entries⟩
  cases result with
  | error buildError =>
      cases isFailed
      rw [atomic_withoutStaging_iff]
      exact and_congr_right fun _ => buildAndPromote_error_iff isBuilt
  | ok parts =>
      rcases parts with ⟨chosen, digests⟩
      have haveDigests := buildAndPromote_digests isBuilt
      rcases exists_finish chosen isEmpty haveDigests with
        ⟨finished, isFinished⟩
      dsimp only at isFailed
      rw [isFinished] at isFailed
      cases isFailed

namespace Sample

/-- A directory `d` whose only member is a file `e`. -/
def manifest : InboundFileSetManifest where
  members := [{
    rootIndex := 0
    rootName := "d"
    rootIsFile := false
    relativePath := "e"
    kind := .file
    blobRefIndex := some 0 }]

def delivery : Delivery where
  receiverEntryId := "e"
  blobRefs := [⟨[], "s", none, none, 1, none⟩]
  manifest := some manifest
  fewMembers := by
    intro sent isSent
    cases isSent
    decide

def digest (bytes : List UInt8) : Digest :=
  ⟨(bytes ++ List.replicate 32 0).take 32, length_filled bytes⟩

/-- The save directory is on another device than the cache. -/
def received (failing : Step) : DirectoryCall where
  materializer := ⟨.unix, fun _ => none, "/", ["cache"]⟩
  delivery := delivery
  manifest := manifest
  isSent := rfl
  blake3 := digest
  snapshot := ⟨0, [], [], none⟩
  inMemory := fun _ member => absurd member List.not_mem_nil
  fetched := fun _ => ([], digest [])
  answer := fun _ => some ⟨⟨.absolute "/", ["save"]⟩, "d"⟩
  crossDevice := fun _ => true
  residue := none
  failing := some failing
  stepError := fun _ => "failed"
  fileUrl := fun _ => "file:///save/d"
  newId := "n"

def nothing : Disk :=
  ⟨none, fun _ => none⟩

theorem failedFetch_atomic :
    ∃ after, (received (.fetch 0)).materializeDirectory nothing =
      (.error "failed", after) ∧ Atomic nothing after := by
  have isFailed : (received (.fetch 0)).materializeDirectory nothing =
      (.error "failed", ⟨none, fun _ => none⟩) := by
    rfl
  refine ⟨_, isFailed, (materializeDirectory_atomic_iff isFailed).mpr ?_⟩
  right; right; right
  refine ⟨rfl, Or.inr ?_⟩
  have isStaged : (received (.fetch 0)).buildStaging =
      (.error "failed", []) := by
    rfl
  unfold HarmlessBuild
  rw [isStaged]
  trivial

/-- The root stays where it was promoted to when its source is not removed. -/
theorem failedRemoval_not_atomic :
    ∃ after, (received (.removeSource 0)).materializeDirectory nothing =
      (.error "failed", after) ∧ ¬ Atomic nothing after := by
  refine ⟨_, rfl, ?_⟩
  intro atomic
  have gone := atomic.created ⟨⟨.absolute "/", ["save"]⟩, "d"⟩ rfl
  exact absurd gone (by decide +kernel)

end Sample

end DirectoryCall

end OpenClipboard.DirectorySet
