import OpenClipboard.Search.Projection
import OpenClipboard.Search.Rebuild

/-!
# Collecting the entries of a rebuild

A rebuild reads the list of entries page by page, each page at its own moment,
projects what it finds and hands the result to the index.  The list may change
between two pages, a page may fail to load and an entry may fail to project.
-/

namespace OpenClipboard.Search

open Transition

structure BuiltEntry where
  entry : IndexedEntry
  counted : ∀ statement ∈ entry.statements, statement.violatesCheck = false

/-- The store at the moment a page is loaded: the list, newest first, whether
the query fails, and what projecting a listed entry gives. -/
structure StoreView where
  stored : List ClipboardEntry
  listFails : Bool
  project : ClipboardEntry → Option BuiltEntry
  distinct : (stored.map ClipboardEntry.entryId).Nodup
  newestFirst : stored.Pairwise fun earlier later =>
    later.activeTimeMs ≤ earlier.activeTimeMs
  keepsId : ∀ entry built, project entry = some built →
    built.entry.document.entryId = entry.entryId

def batchSize : Nat := 200

def StoreView.listEntries (view : StoreView) (limit offset : Nat) :
    Option (List ClipboardEntry) :=
  if view.listFails then none else some ((view.stored.drop offset).take limit)

/-- The loop over the pages; it goes on as long as there are views.  A page
that fails to load ends it as a short page does. -/
def collectFrom (offset : Nat) : List StoreView → Option (List BuiltEntry)
  | [] => none
  | view :: later =>
      match view.listEntries batchSize offset with
      | none => some []
      | some batch =>
          if batch.length < batchSize then
            some (batch.filterMap view.project)
          else
            (collectFrom (offset + batchSize) later).map fun rest =>
              batch.filterMap view.project ++ rest

/-- The views in which the loop loads a page, each with its offset. -/
def viewsRead (offset : Nat) : List StoreView → List (Nat × StoreView)
  | [] => []
  | view :: later =>
      (offset, view) ::
        match view.listEntries batchSize offset with
        | none => []
        | some batch =>
            if batch.length < batchSize then
              []
            else
              viewsRead (offset + batchSize) later

def statusReady : String := "ready"
def statusUnavailable : String := "unavailable"

/-- The status after a rebuild: ready if the search key was derived and the
index has come to the end of its own rebuild. -/
def statusAfter (keyDerived : Bool) (finish : IndexWorld) : String :=
  if keyDerived && decide (finish.phase = .finished) then
    statusReady
  else
    statusUnavailable

/-! ## What is collected -/

/-- The entry stands within the page that is loaded at the offset. -/
def OnPage (entryId : EntryId) (offset : Nat) (view : StoreView) : Prop :=
  view.listFails = false ∧ ∃ position entry,
    offset ≤ position ∧ position < offset + batchSize ∧
      view.stored[position]? = some entry ∧ entry.entryId = entryId

def StoredThroughout (views : List StoreView) (entryId : EntryId) : Prop :=
  ∀ read ∈ viewsRead 0 views,
    entryId ∈ read.2.stored.map ClipboardEntry.entryId

/-- The entry projects in every view that lists it. -/
def Projects (views : List StoreView) (entryId : EntryId) : Prop :=
  ∀ read ∈ viewsRead 0 views, ∀ entry ∈ read.2.stored,
    entry.entryId = entryId → (read.2.project entry).isSome = true

/-- Each entry that is stored throughout and projects stands, at some page
load that succeeds, within that page. -/
def PagesCover (views : List StoreView) : Prop :=
  (collectFrom 0 views).isSome = true →
    ∀ entryId, StoredThroughout views entryId → Projects views entryId →
      ∃ read ∈ viewsRead 0 views, OnPage entryId read.1 read.2

def collectedIds (collected : List BuiltEntry) : List EntryId :=
  collected.map fun built => built.entry.document.entryId

variable {offset : Nat} {view : StoreView} {views : List StoreView}
  {entries : List IndexedEntry}

theorem mem_page_iff {stored : List ClipboardEntry} {entry : ClipboardEntry} :
    entry ∈ (stored.drop offset).take batchSize ↔
      ∃ position, offset ≤ position ∧ position < offset + batchSize ∧
        stored[position]? = some entry := by
  rw [List.mem_iff_getElem?]
  constructor
  · rintro ⟨index, found⟩
    rw [List.getElem?_take] at found
    split at found
    · rename_i inBatch
      rw [List.getElem?_drop] at found
      exact ⟨offset + index, by omega, by omega, found⟩
    · cases found
  · rintro ⟨position, notBefore, notAfter, found⟩
    refine ⟨position - offset, ?_⟩
    have inBatch : position - offset < batchSize := by omega
    have here : offset + (position - offset) = position := by omega
    rw [List.getElem?_take, if_pos inBatch, List.getElem?_drop, here]
    exact found

theorem onPage_iff {entryId : EntryId} :
    OnPage entryId offset view ↔
      ∃ batch, view.listEntries batchSize offset = some batch ∧
        ∃ entry ∈ batch, entry.entryId = entryId := by
  unfold OnPage StoreView.listEntries
  cases view.listFails with
  | true => simp
  | false =>
      constructor
      · rintro ⟨_, position, entry, notBefore, notAfter, found, named⟩
        exact ⟨_, rfl, entry,
          mem_page_iff.mpr ⟨position, notBefore, notAfter, found⟩, named⟩
      · rintro ⟨batch, loaded, entry, inBatch, named⟩
        cases loaded
        obtain ⟨position, notBefore, notAfter, found⟩ :=
          mem_page_iff.mp inBatch
        exact ⟨rfl, position, entry, notBefore, notAfter, found, named⟩

theorem mem_projected_iff {batch : List ClipboardEntry} {entryId : EntryId} :
    entryId ∈ collectedIds (batch.filterMap view.project) ↔
      ∃ entry ∈ batch, entry.entryId = entryId ∧
        (view.project entry).isSome = true := by
  unfold collectedIds
  simp only [List.mem_map, List.mem_filterMap]
  constructor
  · rintro ⟨built, ⟨entry, inBatch, projected⟩, named⟩
    refine ⟨entry, inBatch, ?_, ?_⟩
    · rw [← view.keepsId entry built projected]
      exact named
    · rw [projected]
      rfl
  · rintro ⟨entry, inBatch, named, projects⟩
    obtain ⟨built, projected⟩ := Option.isSome_iff_exists.mp projects
    refine ⟨built, ⟨entry, inBatch, projected⟩, ?_⟩
    rw [view.keepsId entry built projected]
    exact named

/-- What is collected of an entry whose projection never fails: it is there
exactly if some page has it. -/
theorem mem_collectedIds_iff {collected : List BuiltEntry} {entryId : EntryId}
    (ended : collectFrom offset views = some collected)
    (projects : ∀ read ∈ viewsRead offset views, ∀ entry ∈ read.2.stored,
      entry.entryId = entryId → (read.2.project entry).isSome = true) :
    entryId ∈ collectedIds collected ↔
      ∃ read ∈ viewsRead offset views, OnPage entryId read.1 read.2 := by
  induction views generalizing offset collected with
  | nil => cases ended
  | cons view later inductionHypothesis =>
      unfold collectFrom at ended
      unfold viewsRead at projects ⊢
      cases loaded : view.listEntries batchSize offset with
      | none =>
          rw [loaded] at ended
          cases ended
          simp [collectedIds, onPage_iff, loaded]
      | some batch =>
          simp only [loaded] at ended projects ⊢
          have inStore : ∀ entry ∈ batch, entry ∈ view.stored := by
            intro entry inBatch
            unfold StoreView.listEntries at loaded
            split at loaded
            · cases loaded
            · cases loaded
              exact List.mem_of_mem_drop (List.mem_of_mem_take inBatch)
          have here : entryId ∈ collectedIds (batch.filterMap view.project) ↔
              OnPage entryId offset view := by
            rw [mem_projected_iff, onPage_iff]
            constructor
            · rintro ⟨entry, inBatch, named, _⟩
              exact ⟨batch, loaded, entry, inBatch, named⟩
            · rintro ⟨other, again, entry, inBatch, named⟩
              rw [loaded] at again
              cases again
              exact ⟨entry, inBatch, named, projects (offset, view)
                List.mem_cons_self entry (inStore entry inBatch) named⟩
          split at ended
          · rename_i short
            cases ended
            rw [here]
            simp [short]
          · rename_i full
            simp only [full, if_false] at projects ⊢
            obtain ⟨rest, collectedLater, joined⟩ :=
              Option.map_eq_some_iff.mp ended
            have fromLater := inductionHypothesis collectedLater
              fun read member => projects read (List.mem_cons_of_mem _ member)
            have parted : entryId ∈ collectedIds collected ↔
                entryId ∈ collectedIds (batch.filterMap view.project) ∨
                  entryId ∈ collectedIds rest := by
              rw [← joined]
              unfold collectedIds
              rw [List.map_append, List.mem_append]
            rw [parted, here, fromLater]
            simp only [List.mem_cons, exists_eq_or_imp]

/-! ### Pages of a list that only moves back -/

/-- Where the entry stands in the list; past its end if it is not there. -/
def StoreView.position (view : StoreView) (entryId : EntryId) : Nat :=
  (view.stored.map ClipboardEntry.entryId).idxOf entryId

theorem onPage_of_position {entryId : EntryId} (loads : view.listFails = false)
    (stored : entryId ∈ view.stored.map ClipboardEntry.entryId)
    (notBefore : offset ≤ view.position entryId)
    (notAfter : view.position entryId < offset + batchSize) :
    OnPage entryId offset view := by
  have found := List.getElem?_idxOf stored
  rw [List.getElem?_map] at found
  obtain ⟨entry, isThere, named⟩ := Option.map_eq_some_iff.mp found
  exact ⟨loads, view.position entryId, entry, notBefore, notAfter, isThere,
    named⟩

/-- No deletion ahead of the entry carries it from beyond a page to before the
next one. -/
def NeverCrosses (entryId : EntryId) (reads : List (Nat × StoreView)) : Prop :=
  reads.IsChain fun earlier later =>
    earlier.1 + batchSize ≤ earlier.2.position entryId →
      later.1 ≤ later.2.position entryId

theorem exists_onPage_of_neverCrosses {collected : List BuiltEntry}
    {entryId : EntryId} (ended : collectFrom offset views = some collected)
    (loads : ∀ read ∈ viewsRead offset views, read.2.listFails = false)
    (stored : ∀ read ∈ viewsRead offset views,
      entryId ∈ read.2.stored.map ClipboardEntry.entryId)
    (steady : NeverCrosses entryId (viewsRead offset views))
    (notBefore : ∀ read ∈ (viewsRead offset views).head?,
      offset ≤ read.2.position entryId) :
    ∃ read ∈ viewsRead offset views, OnPage entryId read.1 read.2 := by
  induction views generalizing offset collected with
  | nil => cases ended
  | cons view later inductionHypothesis =>
      have first : (offset, view) ∈ viewsRead offset (view :: later) :=
        List.mem_cons_self
      have here := stored _ first
      have loaded : view.listFails = false := loads _ first
      have ahead := notBefore (offset, view) rfl
      by_cases onThis : view.position entryId < offset + batchSize
      · exact ⟨_, first, onPage_of_position loaded here ahead onThis⟩
      · -- The entry stands beyond a full page, so the loop goes on.
        have beyond : offset + batchSize ≤ view.position entryId := by omega
        have inList : view.position entryId < view.stored.length := by
          have bounded := List.idxOf_lt_length_of_mem here
          rw [List.length_map] at bounded
          exact bounded
        have full : ¬ ((view.stored.drop offset).take batchSize).length <
            batchSize := by
          rw [List.length_take, List.length_drop]
          omega
        have page : view.listEntries batchSize offset =
            some ((view.stored.drop offset).take batchSize) := by
          unfold StoreView.listEntries
          rw [loaded]
          rfl
        unfold collectFrom at ended
        unfold viewsRead at loads stored steady ⊢
        simp only [page, full, if_false] at ended loads stored steady ⊢
        obtain ⟨rest, collectedLater, _⟩ := Option.map_eq_some_iff.mp ended
        have atNext : ∀ read ∈ (viewsRead (offset + batchSize) later).head?,
            offset + batchSize ≤ read.2.position entryId := by
          intro read isNext
          have sameOffset : read.1 = offset + batchSize := by
            cases later with
            | nil => cases isNext
            | cons next others =>
                cases isNext
                rfl
          have crossed := List.IsChain.rel_head? steady isNext beyond
          rw [sameOffset] at crossed
          exact crossed
        obtain ⟨read, isLater, onIt⟩ := inductionHypothesis collectedLater
          (fun read member => loads read (List.mem_cons_of_mem _ member))
          (fun read member => stored read (List.mem_cons_of_mem _ member))
          steady.tail atNext
        exact ⟨read, List.mem_cons_of_mem _ isLater, onIt⟩

def Generation.HasDocument (generation : Generation) (entryId : EntryId) :
    Prop :=
  (generation.documents.find entryId).isSome = true

def LiveWrite.Removes (entryId : EntryId) (write : LiveWrite) : Prop :=
  .deleteDocument entryId ∈ write.statements

/-- A step of the rebuild after the collection, or of a live write that does
not remove the entry. -/
def KeepsDocument (entryId : EntryId) : IndexAction → Prop
  | .begin => False
  | .collect _ => False
  | .call write => .deleteDocument entryId ∉ write.statements
  | _ => True

/-- Whatever else is written while the rebuild goes on, short of a removal of
the entry, a rebuild that gets to its end leaves each entry that is stored
throughout and projects in the active index, once. -/
def IndexesEverything (views : List StoreView) : Prop :=
  ∀ keyDerived targetVersion collected world actions finish,
    collectFrom 0 views = some collected →
    world.phase = .collecting (collected.map BuiltEntry.entry) →
    execute (IndexWorld.step targetVersion) world actions = some finish →
    statusAfter keyDerived finish = statusReady →
    ∀ entryId, StoredThroughout views entryId → Projects views entryId →
      (∀ write ∈ world.writes, ¬ write.Removes entryId) →
      (∀ action ∈ actions, KeepsDocument entryId action) →
        finish.active.documents.rows.countP (fun row => row.1 = entryId) = 1

section Document

variable {generation : Generation} {entryId : EntryId}

theorem Generation.HasDocument.perform {statement : Statement}
    (has : generation.HasDocument entryId)
    (keeps : statement ≠ .deleteDocument entryId) :
    (statement.perform generation).HasDocument entryId := by
  cases statement with
  | putDocument row =>
      unfold HasDocument Statement.perform
      rw [Table.find_put]
      split
      · rfl
      · exact has
  | deleteDocument other =>
      unfold HasDocument Statement.perform
      rw [Table.find_remove, if_neg (fun same => keeps (by rw [same]))]
      exact has
  | _ => exact has

theorem Generation.HasDocument.replay {statements : List Statement}
    (has : generation.HasDocument entryId)
    (keeps : .deleteDocument entryId ∉ statements) :
    (indexWrites.replay statements generation).HasDocument entryId := by
  induction statements generalizing generation with
  | nil => exact has
  | cons statement rest inductionHypothesis =>
      rw [List.mem_cons, not_or] at keeps
      exact inductionHypothesis (has.perform (Ne.symm keeps.1)) keeps.2

theorem hasDocument_putDocument (row : SearchDocumentRow) :
    ((Statement.putDocument row).perform generation).HasDocument
      row.entryId := by
  unfold Generation.HasDocument Statement.perform
  rw [Table.find_put_self]
  rfl

theorem mem_entryStatements_iff {document : SearchDocument}
    {postings : List SearchPosting} {row : SearchDocumentRow} :
    .putDocument row ∈ entryStatements document postings ↔
      row = SearchDocumentRow.fromDomain document := by
  simp [entryStatements]

theorem deleteDocument_not_mem_entryStatements {document : SearchDocument}
    {postings : List SearchPosting} :
    .deleteDocument entryId ∉ entryStatements document postings := by
  simp [entryStatements]

theorem countP_documents_eq_one_iff :
    generation.documents.rows.countP (fun row => row.1 = entryId) = 1 ↔
      generation.HasDocument entryId := by
  rw [Table.countP_rows]
  unfold Generation.HasDocument
  split
  · rename_i has
    exact iff_of_true rfl has
  · rename_i hasNot
    exact iff_of_false Nat.zero_ne_one hasNot

end Document

/-! ### No collected entry is lost -/

def indexedIds (entries : List IndexedEntry) : List EntryId :=
  entries.map fun entry => entry.document.entryId

def EntryOnItsWay (entryId : EntryId) (world : IndexWorld) : Prop :=
  match world.phase with
  | .collecting entries => entryId ∈ indexedIds entries
  | .blocked entries => entryId ∈ indexedIds entries
  | .created entries => entryId ∈ indexedIds entries
  | .staging remaining entries =>
      .deleteDocument entryId ∉ remaining ∧
        ((∃ staging, world.staging = some staging ∧
            staging.HasDocument entryId) ∨
          (∃ row, row.entryId = entryId ∧ .putDocument row ∈ remaining) ∨
          entryId ∈ indexedIds entries)
  | .finalized => world.active.HasDocument entryId
  | .unregistered succeeded =>
      succeeded = true → world.active.HasDocument entryId
  | .finished => world.active.HasDocument entryId
  | _ => True

section OnItsWay

variable {entryId : EntryId} {world next : IndexWorld}

theorem keeps_inherited {before after : List LiveWrite}
    (inherits : IndexWorld.Inherits before after)
    (keeps : ∀ write ∈ before, ¬ write.Removes entryId) :
    ∀ write ∈ after, ¬ write.Removes entryId := by
  intro write member removes
  obtain ⟨earlier, wasThere, fewer⟩ := inherits write member
  exact keeps earlier wasThere (fewer removes)

theorem EntryOnItsWay.ofActive (onItsWay : EntryOnItsWay entryId world)
    (samePhase : next.phase = world.phase)
    (sameStaging : next.staging = world.staging)
    (kept : world.active.HasDocument entryId →
      next.active.HasDocument entryId) : EntryOnItsWay entryId next := by
  unfold EntryOnItsWay at onItsWay ⊢
  rw [samePhase, sameStaging]
  split
  all_goals rename_i phase
  all_goals simp only [phase] at onItsWay
  all_goals first
    | exact onItsWay
    | exact kept onItsWay
    | exact fun succeeded => kept (onItsWay succeeded)

theorem EntryOnItsWay.ofStaging (onItsWay : EntryOnItsWay entryId world)
    (samePhase : next.phase = world.phase)
    (sameActive : next.active = world.active)
    (kept : ∀ staging, world.staging = some staging →
      staging.HasDocument entryId → ∃ written,
        next.staging = some written ∧ written.HasDocument entryId) :
    EntryOnItsWay entryId next := by
  unfold EntryOnItsWay at onItsWay ⊢
  rw [samePhase, sameActive]
  split
  all_goals rename_i phase
  all_goals simp only [phase] at onItsWay
  all_goals try exact onItsWay
  · refine ⟨onItsWay.1, ?_⟩
    rcases onItsWay.2 with ⟨staging, stands, has⟩ | rest
    · exact .inl (kept staging stands has)
    · exact .inr rest

theorem EntryOnItsWay.stage {fails : Bool}
    (onItsWay : EntryOnItsWay entryId world)
    (stepped : world.stage fails = some next) :
    EntryOnItsWay entryId next := by
  unfold IndexWorld.stage at stepped
  split at stepped
  · rename_i statement remaining entries phase
    simp only [EntryOnItsWay, phase, List.mem_cons, not_or] at onItsWay
    obtain ⟨⟨notHere, notLater⟩, place⟩ := onItsWay
    split at stepped
    · cases stepped
      trivial
    · rename_i staged isStaged
      cases stepped
      obtain ⟨staging, stands, rfl⟩ := IndexWorld.stageStatement_cases isStaged
      refine ⟨notLater, ?_⟩
      rcases place with ⟨before, wasThere, has⟩ | ⟨row, named, here | later⟩ |
        collected
      · rw [stands] at wasThere
        cases wasThere
        exact .inl ⟨_, rfl, has.perform (Ne.symm notHere)⟩
      · subst here
        rw [← named]
        exact .inl ⟨_, rfl, hasDocument_putDocument row⟩
      · exact .inr (.inl ⟨row, named, later⟩)
      · exact .inr (.inr collected)
  · rename_i entry entries phase
    simp only [EntryOnItsWay, phase] at onItsWay
    cases stepped
    refine ⟨deleteDocument_not_mem_entryStatements, ?_⟩
    rcases onItsWay.2 with staged | ⟨row, _, inNone⟩ | collected
    · exact .inl staged
    · cases inNone
    · rcases List.mem_cons.mp collected with here | later
      · exact .inr (.inl ⟨SearchDocumentRow.fromDomain entry.document,
          here.symm, mem_entryStatements_iff.mpr rfl⟩)
      · exact .inr (.inr later)
  · cases stepped

theorem EntryOnItsWay.step {targetVersion : String} {action : IndexAction}
    (onItsWay : EntryOnItsWay entryId world)
    (keeps : ∀ write ∈ world.writes, ¬ write.Removes entryId)
    (admitted : KeepsDocument entryId action)
    (stepped : IndexWorld.step targetVersion world action = some next) :
    EntryOnItsWay entryId next := by
  cases action with
  | call write =>
      cases stepped
      exact onItsWay
  | activeWrite index fails =>
      obtain ⟨samePhase, sameStaging, _, _, statements, written, _, issued⟩ :=
        IndexWorld.activeWrite_cases stepped
      apply onItsWay.ofActive samePhase sameStaging
      intro has
      rw [written]
      apply has.replay
      intro removed
      obtain ⟨write, underWay, among⟩ := issued _ removed
      exact keeps write underWay among
  | mirror index fails =>
      obtain ⟨samePhase, sameActive, _, _, _, staged⟩ :=
        IndexWorld.mirror_cases stepped
      apply onItsWay.ofStaging samePhase sameActive
      intro staging stands has
      rcases staged with same | ⟨before, statement, wasThere, written, write,
        underWay, among⟩
      · exact ⟨staging, same.trans stands, has⟩
      · rw [stands] at wasThere
        cases wasThere
        refine ⟨_, written, has.perform ?_⟩
        intro removes
        subst removes
        exact keeps write underWay among
  | begin => exact admitted.elim
  | collect entry => exact admitted.elim
  | block nowMs =>
      simp only [IndexWorld.step] at stepped
      split at stepped
      · rename_i entries phase
        cases stepped
        simpa only [EntryOnItsWay, phase] using onItsWay
      · cases stepped
  | createTables fails =>
      simp only [IndexWorld.step] at stepped
      split at stepped
      · rename_i entries phase
        split at stepped
        · cases stepped
          trivial
        · cases stepped
          simpa only [EntryOnItsWay, phase] using onItsWay
      · cases stepped
  | register =>
      simp only [IndexWorld.step] at stepped
      split at stepped
      · rename_i entries phase
        cases stepped
        simp only [EntryOnItsWay, phase] at onItsWay
        exact ⟨List.not_mem_nil, .inr (.inr onItsWay)⟩
      · cases stepped
  | stage fails => exact onItsWay.stage stepped
  | finalize completedAtMs fails =>
      simp only [IndexWorld.step] at stepped
      split at stepped
      · rename_i staging phase stands
        split at stepped
        · cases stepped
          trivial
        · cases stepped
          simp only [EntryOnItsWay, phase] at onItsWay
          rcases onItsWay.2 with ⟨before, wasThere, has⟩ | ⟨row, _, inNone⟩ |
            inNone
          · rw [stands] at wasThere
            cases wasThere
            exact has
          · cases inNone
          · cases inNone
      · cases stepped
  | unregister =>
      simp only [IndexWorld.step] at stepped
      split at stepped
      · cases stepped
        exact fun failed => absurd failed Bool.false_ne_true
      · rename_i phase
        cases stepped
        simp only [EntryOnItsWay, phase] at onItsWay
        exact fun _ => onItsWay
      · cases stepped
  | dropTables =>
      simp only [IndexWorld.step] at stepped
      split at stepped
      · rename_i succeeded phase
        cases stepped
        simp only [EntryOnItsWay, phase] at onItsWay
        cases succeeded with
        | false => trivial
        | true => exact onItsWay rfl
      · cases stepped

theorem keeps_step {targetVersion : String} {action : IndexAction}
    (keeps : ∀ write ∈ world.writes, ¬ write.Removes entryId)
    (admitted : KeepsDocument entryId action)
    (stepped : IndexWorld.step targetVersion world action = some next) :
    ∀ write ∈ next.writes, ¬ write.Removes entryId := by
  cases action with
  | call write =>
      cases stepped
      intro later member
      rcases List.mem_append.mp member with wasThere | isNew
      · exact keeps later wasThere
      · rw [List.mem_singleton] at isNew
        subst isNew
        exact admitted
  | activeWrite index fails =>
      obtain ⟨_, _, _, inherits, _⟩ := IndexWorld.activeWrite_cases stepped
      exact keeps_inherited inherits keeps
  | mirror index fails =>
      obtain ⟨_, _, _, inherits, _⟩ := IndexWorld.mirror_cases stepped
      exact keeps_inherited inherits keeps
  | _ =>
      have sameWrites := IndexWorld.writes_of_rebuildStep rfl stepped
      rw [sameWrites]
      exact keeps

end OnItsWay

theorem statusAfter_eq_ready {keyDerived : Bool} {finish : IndexWorld}
    (ready : statusAfter keyDerived finish = statusReady) :
    finish.phase = .finished := by
  unfold statusAfter at ready
  split at ready
  · rename_i both
    simp only [Bool.and_eq_true, decide_eq_true_eq] at both
    exact both.2
  · exact absurd ready (by decide)

theorem hasDocument_of_collected {targetVersion : String} {entryId : EntryId}
    {world finish : IndexWorld} {actions : List IndexAction}
    (phase : world.phase = .collecting entries)
    (collected : entryId ∈ indexedIds entries)
    (keeps : ∀ write ∈ world.writes, ¬ write.Removes entryId)
    (admitted : ∀ action ∈ actions, KeepsDocument entryId action)
    (executed : execute (IndexWorld.step targetVersion) world actions =
      some finish) (finished : finish.phase = .finished) :
    finish.active.HasDocument entryId := by
  have starts : EntryOnItsWay entryId world := by
    simpa only [EntryOnItsWay, phase] using collected
  have run := Run.ofExecute (guarded_of_forall _ world admitted) executed
  have both : EntryOnItsWay entryId finish ∧
      ∀ write ∈ finish.writes, ¬ write.Removes entryId :=
    @Run.preserves _ _ _ _ _ _
      (fun state => EntryOnItsWay entryId state ∧
        ∀ write ∈ state.writes, ¬ write.Removes entryId)
      run ⟨starts, keeps⟩
      fun before action after held keepsIt stepped =>
        ⟨held.1.step held.2 keepsIt stepped,
          keeps_step held.2 keepsIt stepped⟩
  have arrived := both.1
  simp only [EntryOnItsWay, finished] at arrived
  exact arrived

/-! ### A rebuild that nothing disturbs -/

def stagingSteps (entries : List IndexedEntry) : List IndexAction :=
  entries.flatMap fun entry =>
    .stage false :: List.replicate entry.statements.length (.stage false)

/-- The steps of a rebuild after the collection, none of which fails. -/
def undisturbed (entries : List IndexedEntry) : List IndexAction :=
  [.block 0, .createTables false, .register] ++ stagingSteps entries ++
    [.finalize 0 false, .unregister, .dropTables]

section Undisturbed

variable {targetVersion : String} {world : IndexWorld}
  {staging : Generation}

theorem execute_statements {remaining : List Statement}
    {entries : List IndexedEntry}
    (phase : world.phase = .staging remaining entries)
    (stands : world.staging = some staging)
    (counted : ∀ statement ∈ remaining, statement.violatesCheck = false) :
    ∃ finish, execute (IndexWorld.step targetVersion) world
        (List.replicate remaining.length (.stage false)) = some finish ∧
      finish.phase = .staging [] entries ∧
      finish.staging = some (indexWrites.replay remaining staging) := by
  induction remaining generalizing world staging with
  | nil => exact ⟨world, rfl, phase, stands⟩
  | cons statement rest inductionHypothesis =>
      have passes := counted statement List.mem_cons_self
      have stepped : IndexWorld.step targetVersion world (.stage false) =
          some { world with
            staging := some (statement.perform staging)
            stagedLog := world.stagedLog ++ [statement]
            phase := .staging rest entries } := by
        simp [IndexWorld.step, IndexWorld.stage, IndexWorld.stageStatement,
          phase, stands, passes]
      obtain ⟨finish, executed, last, written⟩ :=
        @inductionHypothesis { world with
            staging := some (statement.perform staging)
            stagedLog := world.stagedLog ++ [statement]
            phase := .staging rest entries } _ rfl rfl
          fun other member => counted other (List.mem_cons_of_mem _ member)
      refine ⟨finish, ?_, last, written⟩
      rw [List.length_cons, List.replicate_succ]
      simp only [execute, stepped]
      exact executed

theorem execute_stagingSteps {entries : List IndexedEntry}
    (phase : world.phase = .staging [] entries)
    (stands : world.staging = some staging)
    (counted : ∀ entry ∈ entries, ∀ statement ∈ entry.statements,
      statement.violatesCheck = false) :
    ∃ finish, execute (IndexWorld.step targetVersion) world
        (stagingSteps entries) = some finish ∧
      finish.phase = .staging [] [] ∧
      finish.staging = some (indexWrites.replay
        (entries.flatMap IndexedEntry.statements) staging) := by
  induction entries generalizing world staging with
  | nil => exact ⟨world, rfl, phase, stands⟩
  | cons entry rest inductionHypothesis =>
      have stepped : IndexWorld.step targetVersion world (.stage false) =
          some { world with phase := .staging entry.statements rest } := by
        simp [IndexWorld.step, IndexWorld.stage, phase]
      obtain ⟨middle, staged, between, written⟩ :=
        @execute_statements targetVersion
          { world with phase := .staging entry.statements rest } staging
          entry.statements rest rfl stands (counted entry List.mem_cons_self)
      obtain ⟨finish, executed, last, all⟩ :=
        inductionHypothesis between written
          fun other member => counted other (List.mem_cons_of_mem _ member)
      refine ⟨finish, ?_, last, ?_⟩
      · have parts : stagingSteps (entry :: rest) =
            .stage false ::
              (List.replicate entry.statements.length (.stage false) ++
                stagingSteps rest) := by
          simp [stagingSteps]
        rw [parts]
        simp only [execute, stepped]
        rw [execute_append, staged]
        exact executed
      · rw [all, List.flatMap_cons, indexWrites.replay_append]

theorem execute_undisturbed {entries : List IndexedEntry}
    (phase : world.phase = .collecting entries)
    (counted : ∀ entry ∈ entries, ∀ statement ∈ entry.statements,
      statement.violatesCheck = false) :
    ∃ finish, execute (IndexWorld.step targetVersion) world
        (undisturbed entries) = some finish ∧
      finish.phase = .finished ∧
      finish.active = indexWrites.replay
        (entries.flatMap IndexedEntry.statements) Generation.empty := by
  -- The run is cut at the first and after the last staged statement.
  obtain ⟨registered, opened, registeredPhase, tables⟩ :
      ∃ registered, execute (IndexWorld.step targetVersion) world
          [.block 0, .createTables false, .register] = some registered ∧
        registered.phase = .staging [] entries ∧
        registered.staging = some Generation.empty := by
    simp [execute, IndexWorld.step, phase]
  obtain ⟨staged, executed, stagedPhase, written⟩ :=
    @execute_stagingSteps targetVersion _ _ _ registeredPhase tables counted
  obtain ⟨finish, closed, finished, active⟩ :
      ∃ finish, execute (IndexWorld.step targetVersion) staged
          [.finalize 0 false, .unregister, .dropTables] = some finish ∧
        finish.phase = .finished ∧
        finish.active = indexWrites.replay
          (entries.flatMap IndexedEntry.statements) Generation.empty := by
    simp [execute, IndexWorld.step, IndexWorld.finalizeRebuild, stagedPhase,
      written]
  refine ⟨finish, ?_, finished, active⟩
  unfold undisturbed
  rw [execute_append, execute_append, opened, Option.bind_some, executed]
  exact closed

end Undisturbed

theorem collected_of_hasDocument {entryId : EntryId}
    (has : (indexWrites.replay (entries.flatMap IndexedEntry.statements)
      Generation.empty).HasDocument entryId) :
    entryId ∈ indexedIds entries := by
  by_contra notCollected
  have untouched : ∀ statement ∈ entries.flatMap IndexedEntry.statements,
      indexWrites.effect statement (.document entryId) = none := by
    intro statement member
    obtain ⟨entry, isEntry, inEntry⟩ := List.mem_flatMap.mp member
    have different : entry.document.entryId ≠ entryId :=
      fun same => notCollected (List.mem_map.mpr ⟨entry, isEntry, same⟩)
    cases statement with
    | putDocument row =>
        have itsRow := mem_entryStatements_iff.mp inEntry
        have otherRow : entryId ≠ row.entryId := by
          rw [itsRow]
          exact Ne.symm different
        exact if_neg otherRow
    | deleteDocument other =>
        exact absurd inEntry deleteDocument_not_mem_entryStatements
    | _ => rfl
  have empty := indexWrites.read_replay
    (entries.flatMap IndexedEntry.statements) Generation.empty
    (.document entryId)
  rw [indexWrites.lastWrite_eq_none untouched] at empty
  have absent : indexWrites.read Generation.empty (.document entryId) =
      none := Generation.read_empty (.document entryId)
  rw [Option.getD_none, absent] at empty
  have noRow := Option.map_eq_none_iff.mp empty
  unfold Generation.HasDocument at has
  rw [noRow] at has
  cases has

def IndexWorld.quiet (entries : List IndexedEntry) : IndexWorld where
  active := Generation.empty
  staging := none
  indexMeta := ⟨"", false, none, none⟩
  registered := false
  phase := .collecting entries
  writes := []
  stagedLog := []
  issuedLog := []

theorem keepsDocument_undisturbed {entryId : EntryId} :
    ∀ action ∈ undisturbed entries, KeepsDocument entryId action := by
  intro action member
  simp only [undisturbed, stagingSteps, List.mem_append, List.mem_cons,
    List.mem_flatMap, List.mem_replicate, List.not_mem_nil, or_false]
    at member
  rcases member with ((rfl | rfl | rfl) | ⟨entry, _, rfl | ⟨_, rfl⟩⟩) |
    rfl | rfl | rfl
  all_goals trivial

theorem indexedIds_map_entry (collected : List BuiltEntry) :
    indexedIds (collected.map BuiltEntry.entry) = collectedIds collected := by
  simp [indexedIds, collectedIds]

/-- A rebuild indexes everything exactly if its pages cover the entries that
are stored throughout. -/
theorem indexesEverything_iff (views : List StoreView) :
    IndexesEverything views ↔ PagesCover views := by
  constructor
  · intro indexes ended entryId stored projects
    obtain ⟨collected, collects⟩ := Option.isSome_iff_exists.mp ended
    have counted : ∀ entry ∈ collected.map BuiltEntry.entry,
        ∀ statement ∈ entry.statements, statement.violatesCheck = false := by
      intro entry member
      obtain ⟨built, _, same⟩ := List.mem_map.mp member
      rw [← same]
      exact built.counted
    obtain ⟨finish, executed, finished, active⟩ :=
      @execute_undisturbed "" (IndexWorld.quiet
        (collected.map BuiltEntry.entry)) _ rfl counted
    have ready : statusAfter true finish = statusReady := by
      simp [statusAfter, finished]
    have once := indexes true "" collected _ _ finish collects rfl executed
      ready entryId stored projects (fun write member => by cases member)
      keepsDocument_undisturbed
    rw [countP_documents_eq_one_iff, active] at once
    have isCollected := collected_of_hasDocument once
    rw [indexedIds_map_entry] at isCollected
    exact (mem_collectedIds_iff collects projects).mp isCollected
  · intro covered keyDerived targetVersion collected world actions finish
      collects phase executed ready entryId stored projects keeps admitted
    rw [countP_documents_eq_one_iff]
    have onPage := covered (by rw [collects]; rfl) entryId stored projects
    have isCollected := (mem_collectedIds_iff collects projects).mpr onPage
    rw [← indexedIds_map_entry] at isCollected
    exact hasDocument_of_collected phase isCollected keeps admitted executed
      (statusAfter_eq_ready ready)

namespace Sample

def projectNote (entry : ClipboardEntry) : Option BuiltEntry :=
  some {
    entry := ⟨{ note with entryId := entry.entryId }, []⟩
    counted := by
      intro statement member
      simp [IndexedEntry.statements, entryStatements, note] at member
      rcases member with rfl | rfl | rfl <;> rfl }

def listed : ClipboardEntry := ⟨⟨"e1"⟩, "v1", 10, 10, .text, false⟩

/-- A store of one entry whose list cannot be read. -/
def unreadable : StoreView where
  stored := [listed]
  listFails := true
  project := projectNote
  distinct := List.nodup_singleton _
  newestFirst := List.pairwise_singleton _ _
  keepsId := by
    intro entry built projected
    cases projected
    rfl

def readable : StoreView := { unreadable with listFails := false }

/-- A rebuild whose first page fails to load ends ready, with nothing in the
index. -/
theorem unreadable_emptiesIndex : ¬ IndexesEverything [unreadable] := by
  intro indexes
  obtain ⟨finish, executed, finished, active⟩ :=
    @execute_undisturbed "" (IndexWorld.quiet []) [] rfl
      (fun entry member => by cases member)
  have once := indexes true "" [] _ _ finish rfl rfl executed
    (by simp [statusAfter, finished]) listed.entryId
    (by
      intro read isRead
      cases List.mem_singleton.mp isRead
      exact List.mem_cons_self)
    (by
      intro read isRead entry _ _
      cases List.mem_singleton.mp isRead
      rfl)
    (fun write member => by cases member) keepsDocument_undisturbed
  rw [active] at once
  exact absurd once (by decide)

end Sample

end OpenClipboard.Search
