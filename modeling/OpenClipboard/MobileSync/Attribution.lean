import OpenClipboard.Inbound.Activation
import OpenClipboard.MobileSync.TwoStep

/-!
# Every upload is attributed, and closed

What waits under a name is the last upload under that name.  So a document takes
its own phone's upload unless another phone's waits there, and a transfer stays
open only where its upload was displaced.
-/

namespace OpenClipboard.MobileSync

open Text Transition

/-! ## What waits is known -/

variable {buffered : BufferedFile} {name : String} {upload : UploadRecord}
  {order : MapOrder}

namespace MobileWorld

variable {env : StagingEnv} {world next : MobileWorld}

/-- What waits under a name is the last upload under that name, with its bytes
staged. -/
structure IsKnown (env : StagingEnv) (world : MobileWorld) (name : String)
    (buffered : BufferedFile) (upload : UploadRecord) : Prop where
  newest : world.opened.find? (fun other => decide (other.dataName = name)) =
    some upload
  transfer : upload.transferId = buffered.transferId
  isUrl : IsFileUrlText buffered.staged.uri
  reads : readByUri env buffered.staged.uri world.uploads.files =
    .ok upload.bytes

/-- The transfers are told apart, what waits is known, and no call closes it
yet. -/
structure Consistent (env : StagingEnv) (world : MobileWorld) : Prop where
  distinct : world.opened.Pairwise fun left right =>
    left.transferId ≠ right.transferId
  known : ∀ name buffered, Table.find world.uploads.buffer name =
    some buffered → ∃ upload, world.IsKnown env name buffered upload
  unclosed : ∀ name buffered, Table.find world.uploads.buffer name =
    some buffered → ∀ call ∈ world.calls,
      call.transferId ≠ buffered.transferId
  called : ∀ call ∈ world.calls, ∃ upload ∈ world.opened,
    upload.transferId = call.transferId

theorem IsKnown.member (known : world.IsKnown env name buffered upload) :
    upload ∈ world.opened ∧ upload.dataName = name :=
  ⟨List.mem_of_find?_eq_some known.newest,
    by simpa using List.find?_some known.newest⟩

theorem Consistent.eq_of_transferId (consistent : Consistent env world)
    {left right : UploadRecord} (isLeft : left ∈ world.opened)
    (isRight : right ∈ world.opened)
    (same : left.transferId = right.transferId) : left = right := by
  by_contra different
  have symmetric : Std.Symm fun left right : UploadRecord =>
      left.transferId ≠ right.transferId :=
    ⟨fun _ _ differ => Ne.symm differ⟩
  exact consistent.distinct.forall isLeft isRight different same

theorem Consistent.name_eq (consistent : Consistent env world)
    {name other : String} {buffered otherBuffered : BufferedFile}
    (found : Table.find world.uploads.buffer name = some buffered)
    (otherFound : Table.find world.uploads.buffer other =
      some otherBuffered)
    (same : buffered.transferId = otherBuffered.transferId) :
    name = other := by
  obtain ⟨upload, known⟩ := consistent.known _ _ found
  obtain ⟨otherUpload, otherKnown⟩ := consistent.known _ _ otherFound
  have sameUpload : upload = otherUpload := by
    apply consistent.eq_of_transferId known.member.1 otherKnown.member.1
    rw [known.transfer, otherKnown.transfer, same]
  rw [← known.member.2, ← otherKnown.member.2, sameUpload]

theorem Consistent.waiting_eq (consistent : Consistent env world)
    {doc : SyncDoc} (isName : doc.dataName = some name)
    (found : Table.find world.uploads.buffer name = some buffered)
    (known : world.IsKnown env name buffered upload) :
    world.waiting doc = some upload := by
  unfold waiting
  rw [isName, Option.bind_some, found, Option.bind_some]
  cases isFound : world.opened.find? fun other =>
      decide (other.transferId = buffered.transferId) with
  | none =>
      have absent := List.find?_eq_none.mp isFound upload known.member.1
      rw [decide_eq_true known.transfer] at absent
      exact absurd rfl absent
  | some other =>
      have sameTransfer : other.transferId = buffered.transferId := by
        simpa using List.find?_some isFound
      rw [consistent.eq_of_transferId (List.mem_of_find?_eq_some isFound)
        known.member.1 (sameTransfer.trans known.transfer.symm)]

theorem IsKnown.lastOwn_eq_iff (known : world.IsKnown env name buffered upload)
    (phone : Phone) :
    world.lastOwn phone name = some upload ↔ upload.device = phone := by
  constructor
  · intro isOwn
    have isMine := List.find?_some isOwn
    rw [Bool.and_eq_true, decide_eq_true_eq] at isMine
    exact isMine.1
  · intro isMine
    obtain ⟨holds, early, late, isSplit, before⟩ :=
      List.find?_eq_some_iff_append.mp known.newest
    apply List.find?_eq_some_iff_append.mpr
    refine ⟨?_, early, late, isSplit, ?_⟩
    · rw [Bool.and_eq_true]
      exact ⟨decide_eq_true isMine, holds⟩
    · intro other member
      have otherName := before other member
      rw [Bool.not_eq_true'] at otherName ⊢
      rw [Bool.and_eq_false_iff]
      exact Or.inr otherName

/-! ## A body -/

/-- What a body leaves. -/
structure Buffers (env : StagingEnv) (order : MapOrder) (phone : Phone)
    (upload : FileUpload) (staged : StagedFile)
    (world next : MobileWorld) : Prop where
  fresh : world.IsFresh env upload
  isUrl : IsFileUrlText staged.uri
  files : next.uploads.files = world.uploads.files.put
    (resolveWritePath env upload).path.path upload.bytes
  reads : readByUri env staged.uri next.uploads.files = .ok upload.bytes
  buffer : next.uploads.buffer = world.uploads.buffer.store order.firstKey
    upload.dataName ⟨upload.mime, staged, upload.transferId⟩
  opened : next.opened = ⟨phone, upload.dataName, upload.transferId,
    upload.bytes⟩ :: world.opened
  calls : next.calls = world.calls
  docs : next.docs = world.docs

theorem buffers_of_step {phone : Phone} {upload : FileUpload}
    (stepped : world.step env (.bufferFile order phone upload) = some next) :
    ∃ staged, Buffers env order phone upload staged world next := by
  unfold step at stepped
  simp only at stepped
  split at stepped
  · rename_i fresh
    split at stepped
    · cases stepped
    · rename_i uploads puts
      cases stepped
      obtain ⟨staged, files, isStaged, isPending⟩ := Uploaded.putFile_eq_ok puts
      obtain ⟨isUrl, isFiles⟩ := stageFile_isUrl isStaged
      have reads := (readByUri_stageFile env isStaged).1
      refine ⟨staged, fresh, isUrl, ?_, ?_, ?_, rfl, rfl, rfl⟩
      · rw [isPending, ← isFiles]
        rfl
      · rw [isPending]
        exact reads
      · rw [isPending]
        rfl
  · cases stepped

theorem find_store {name other : String} {file found : BufferedFile}
    {buffer : IncomingMobileBuffer}
    (isFound : Table.find (buffer.store order.firstKey name file) other =
      some found) :
    (other = name ∧ found = file) ∨
      (other ≠ name ∧ Table.find buffer other = some found) := by
  have puts : ∀ left : IncomingMobileBuffer,
      Table.find (left.put name file) other = some found →
      (other ≠ name → Table.find left other = some found →
        Table.find buffer other = some found) →
      (other = name ∧ found = file) ∨
        (other ≠ name ∧ Table.find buffer other = some found) := by
    intro left isPut earlier
    by_cases same : other = name
    · rw [same, Table.find_put_self, Option.some.injEq] at isPut
      exact Or.inl ⟨same, isPut.symm⟩
    · rw [Table.find_put_of_ne same] at isPut
      exact Or.inr ⟨same, earlier same isPut⟩
  unfold IncomingMobileBuffer.store at isFound
  split at isFound
  · split at isFound
    · rename_i victim _
      apply puts _ isFound
      intro _ isLeft
      rw [Table.find_remove] at isLeft
      split at isLeft
      · cases isLeft
      · exact isLeft
    · exact puts _ isFound fun _ isLeft => isLeft
  · exact puts _ isFound fun _ isLeft => isLeft

theorem Consistent.bufferFile {phone : Phone} {upload : FileUpload}
    {staged : StagedFile} (consistent : Consistent env world)
    (buffers : Buffers env order phone upload staged world next) :
    Consistent env next := by
  constructor
  · rw [buffers.opened, List.pairwise_cons]
    refine ⟨?_, consistent.distinct⟩
    intro old member same
    exact buffers.fresh.1 old member same.symm
  · intro name buffered found
    rw [buffers.buffer] at found
    rcases find_store found with ⟨isName, isFile⟩ | ⟨otherName, old⟩
    · refine ⟨⟨phone, upload.dataName, upload.transferId, upload.bytes⟩, ?_⟩
      rw [isFile]
      constructor
      · rw [buffers.opened, isName]
        exact List.find?_cons_of_pos (decide_eq_true rfl)
      · rfl
      · exact buffers.isUrl
      · exact buffers.reads
    · obtain ⟨oldUpload, known⟩ := consistent.known _ _ old
      refine ⟨oldUpload, ?_, known.transfer, known.isUrl, ?_⟩
      · rw [buffers.opened, List.find?_cons_of_neg]
        · exact known.newest
        · rw [decide_eq_true_eq]
          exact fun same => otherName same.symm
      · rw [buffers.files]
        exact readByUri_put buffers.fresh.2 known.reads
  · intro name buffered found call member
    rw [buffers.calls] at member
    rw [buffers.buffer] at found
    rcases find_store found with ⟨_, isFile⟩ | ⟨_, old⟩
    · obtain ⟨oldUpload, isOld, sameTransfer⟩ := consistent.called call member
      rw [isFile, ← sameTransfer]
      exact buffers.fresh.1 oldUpload isOld
    · exact consistent.unclosed _ _ old call member
  · intro call member
    rw [buffers.calls] at member
    obtain ⟨oldUpload, isOld, sameTransfer⟩ := consistent.called call member
    refine ⟨oldUpload, ?_, sameTransfer⟩
    rw [buffers.opened]
    exact List.mem_cons_of_mem _ isOld

theorem not_isClosed {calls : List LifecycleCall} {transferId : String}
    (unclosed : ∀ call ∈ calls, call.transferId ≠ transferId) :
    ¬ IsClosed calls transferId := by
  rintro (⟨entryId, peerId, isLink, _⟩ | ⟨peerId, detail, isFail⟩)
  · exact unclosed _ isLink rfl
  · exact unclosed _ isFail rfl

theorem not_orderly_of_displaced (consistent : Consistent env world)
    (found : Table.find world.uploads.buffer name = some buffered)
    (sameCalls : next.calls = world.calls)
    (kept : ∀ upload ∈ world.opened, upload ∈ next.opened)
    (displaced : ∀ later, Table.find next.uploads.buffer name = some later →
      later.transferId ≠ buffered.transferId) :
    ¬ next.Orderly := by
  intro orderly
  obtain ⟨upload, known⟩ := consistent.known _ _ found
  rcases orderly.transfers upload (kept _ known.member.1) with
    closed | ⟨later, isLater, sameTransfer⟩
  · rw [known.transfer, sameCalls] at closed
    exact not_isClosed (consistent.unclosed _ _ found) closed
  · rw [known.member.2] at isLater
    apply displaced later isLater
    rw [sameTransfer, known.transfer]

/-- A body keeps the order exactly if it displaces nothing. -/
theorem orderly_bufferFile_iff {phone : Phone} {upload : FileUpload}
    {staged : StagedFile} (consistent : Consistent env world)
    (orderly : world.Orderly)
    (buffers : Buffers env order phone upload staged world next) :
    next.Orderly ↔ Table.find world.uploads.buffer upload.dataName = none ∧
      world.uploads.buffer.keys.length < maxBufferedFiles := by
  have kept : ∀ old ∈ world.opened, old ∈ next.opened := by
    intro old member
    rw [buffers.opened]
    exact List.mem_cons_of_mem _ member
  have self : Table.find next.uploads.buffer upload.dataName =
      some ⟨upload.mime, staged, upload.transferId⟩ := by
    rw [buffers.buffer]
    exact IncomingMobileBuffer.find_store_self
  constructor
  · intro after
    by_contra displaces
    rw [not_and_or, not_lt] at displaces
    cases found : Table.find world.uploads.buffer upload.dataName with
    | some old =>
        apply not_orderly_of_displaced consistent found buffers.calls kept ?_
          after
        intro later isLater
        rw [self, Option.some.injEq] at isLater
        rw [← isLater]
        obtain ⟨oldUpload, known⟩ := consistent.known _ _ found
        have differ := buffers.fresh.1 oldUpload known.member.1
        rw [known.transfer] at differ
        exact differ.symm
    | none =>
        -- The buffer is full, and drops the key that it lists first.
        have full : maxBufferedFiles ≤ world.uploads.buffer.keys.length := by
          rcases displaces with waits | full
          · exact absurd found waits
          · exact full
        have hasKeys : world.uploads.buffer.keys.length ≠ 0 := by
          unfold maxBufferedFiles at full
          omega
        obtain ⟨victim, isVictim⟩ :=
          Option.isSome_iff_exists.mp (order.nonempty _ hasKeys)
        obtain ⟨old, isOld⟩ :=
          Option.isSome_iff_exists.mp (order.isKey _ _ isVictim)
        apply not_orderly_of_displaced consistent isOld buffers.calls kept ?_
          after
        intro later isLater
        have isNew : upload.dataName ∉ world.uploads.buffer.keys :=
          AList.lookup_eq_none.mp found
        have different : victim ≠ upload.dataName := by
          intro same
          rw [same, found] at isOld
          cases isOld
        rw [buffers.buffer, IncomingMobileBuffer.store, if_pos ⟨full, isNew⟩,
          isVictim] at isLater
        simp only [Table.find_put_of_ne different, Table.find_remove_self]
          at isLater
        cases isLater
  · rintro ⟨free, room⟩
    have isPut : next.uploads.buffer = world.uploads.buffer.put
        upload.dataName ⟨upload.mime, staged, upload.transferId⟩ := by
      rw [buffers.buffer, IncomingMobileBuffer.store, if_neg]
      rintro ⟨full, _⟩
      omega
    constructor
    · rw [buffers.docs]
      exact orderly.docs
    · intro other member
      rw [buffers.opened, List.mem_cons] at member
      rcases member with isNew | isOld
      · rw [isNew]
        exact Or.inr ⟨_, self, rfl⟩
      · rw [buffers.calls]
        rcases orderly.transfers other isOld with closed | ⟨old, isPending, same⟩
        · exact Or.inl closed
        · refine Or.inr ⟨old, ?_, same⟩
          have different : other.dataName ≠ upload.dataName := by
            intro sameName
            rw [sameName, free] at isPending
            cases isPending
          rw [isPut, Table.find_put_of_ne different]
          exact isPending

end MobileWorld

namespace MobileWorld

variable {env : StagingEnv} {world next : MobileWorld}

/-! ## A document -/

section Document

variable {ports : MobilePorts} {nowMs : Int} {repId : String}
  {describe : ApplyIncomingMobileClipError → String} {phone : Phone}
  {doc : SyncDoc} {done : MobileStep}

/-- What a document does to the transfers: nothing, or it takes what waits
under its name and closes it. -/
inductive DocTakes (world : MobileWorld) (doc : SyncDoc)
    (done : MobileStep) (record : DocRecord) : Prop
  | nothing (uploads : done.uploads = world.uploads)
      (lifecycle : done.lifecycle = [])
      (attributed : record.Attributed)
      (absent : doc.isTwoStep = true → world.waiting doc = none)
  | upload (name : String) (buffered : BufferedFile) (upload : UploadRecord)
      (isTwoStep : doc.isTwoStep = true)
      (isName : doc.dataName = some name)
      (found : Table.find world.uploads.buffer name = some buffered)
      (isWaiting : world.waiting doc = some upload)
      (uploads : done.uploads = { world.uploads with
        buffer := Table.remove world.uploads.buffer name })
      (closes : IsClosed done.lifecycle buffered.transferId)
      (only : ∀ call ∈ done.lifecycle,
        call.transferId = buffered.transferId)
      (content : record.content = some upload.bytes)
      (isTaken : record.taken = some upload)

theorem docTakes_oneStep (isOneStep : doc.isTwoStep = false)
    (handled : syncDoc env ports nowMs repId phone.id describe doc
      world.uploads world.device = some done) :
    DocTakes world doc done
      (world.recordOf env nowMs repId phone doc done) := by
  have isOne : ∀ {holds : Prop}, doc.isTwoStep = true → holds := by
    intro holds isTwo
    rw [isOneStep] at isTwo
    cases isTwo
  obtain ⟨sameUploads, noTransfer⟩ := buildSnapshot_oneStep env nowMs repId
    world.uploads isOneStep
  cases builds : buildSnapshot env nowMs repId doc world.uploads with
  | mk result after =>
      rw [builds] at sameUploads noTransfer
      cases result with
      | ok built =>
          obtain ⟨uploads, _, lifecycle⟩ := syncDoc_of_built builds handled
          rw [noTransfer built rfl] at lifecycle
          exact .nothing (uploads.trans sameUploads) lifecycle isOne isOne
      | error failure =>
          have untouched : done.uploads = after ∧ done.lifecycle = [] := by
            unfold syncDoc at handled
            rw [builds] at handled
            cases failure with
            | decode reason =>
                cases handled
                exact ⟨rfl, rfl⟩
            | internal message =>
                cases handled
                exact ⟨rfl, rfl⟩
          exact .nothing (untouched.1.trans sameUploads) untouched.2 isOne
            isOne

theorem docTakes_miss (isTwoStep : doc.isTwoStep = true)
    (absent : (doc.dataName.bind fun name =>
      Table.find world.uploads.buffer name) = none)
    (handled : syncDoc env ports nowMs repId phone.id describe doc
      world.uploads world.device = some done) :
    DocTakes world doc done
      (world.recordOf env nowMs repId phone doc done) := by
  obtain ⟨reason, fails⟩ := buildSnapshot_miss env nowMs repId isTwoStep absent
  have isDone := syncDoc_of_decode fails handled
  have noContent :
      (world.recordOf env nowMs repId phone doc done).content = none := by
    unfold recordOf
    rw [fails]
    rfl
  refine .nothing ?_ ?_ ?_ ?_
  · rw [isDone]
  · rw [isDone]
  · intro _
    refine Or.inr ⟨noContent, reason, ?_⟩
    rw [isDone]
    rfl
  · intro _
    unfold waiting
    rw [absent]
    rfl

theorem docTakes_hit (consistent : Consistent env world)
    (isTwoStep : doc.isTwoStep = true) (isName : doc.dataName = some name)
    (found : Table.find world.uploads.buffer name = some buffered)
    (handled : syncDoc env ports nowMs repId phone.id describe doc
      world.uploads world.device = some done) :
    DocTakes world doc done
      (world.recordOf env nowMs repId phone doc done) := by
  obtain ⟨upload, known⟩ := consistent.known _ _ found
  obtain ⟨built, builds, isTransfer, isContent⟩ := buildSnapshot_hit nowMs
    repId isTwoStep isName found known.isUrl known.reads
  obtain ⟨uploads, notBuffered, lifecycle⟩ := syncDoc_of_built builds handled
  rw [isTransfer] at lifecycle
  obtain ⟨closes, only⟩ := finalizeTransfer_closes phone.id
    buffered.transferId describe notBuffered
  have isWaiting := consistent.waiting_eq isName found known
  refine .upload name buffered upload isTwoStep isName found isWaiting
    uploads ?_ ?_ ?_ isWaiting
  · rw [lifecycle]
    exact closes
  · rw [lifecycle]
    exact only
  · unfold recordOf
    rw [builds, uploads]
    exact isContent

theorem docTakes_of_syncDoc (consistent : Consistent env world)
    (handled : syncDoc env ports nowMs repId phone.id describe doc
      world.uploads world.device = some done) :
    DocTakes world doc done
      (world.recordOf env nowMs repId phone doc done) := by
  by_cases isTwoStep : doc.isTwoStep = true
  · cases isName : doc.dataName with
    | none =>
        apply docTakes_miss isTwoStep ?_ handled
        rw [isName]
        rfl
    | some name =>
        cases found : Table.find world.uploads.buffer name with
        | none =>
            apply docTakes_miss isTwoStep ?_ handled
            rw [isName, Option.bind_some, found]
        | some buffered =>
            exact docTakes_hit consistent isTwoStep isName found handled
  · rw [Bool.not_eq_true] at isTwoStep
    exact docTakes_oneStep isTwoStep handled

/-- The state after a document. -/
def afterDoc (env : StagingEnv) (world : MobileWorld) (nowMs : Int)
    (repId : String) (phone : Phone) (doc : SyncDoc)
    (done : MobileStep) : MobileWorld where
  uploads := done.uploads
  device := done.device
  opened := world.opened
  calls := world.calls ++ done.lifecycle
  docs := world.recordOf env nowMs repId phone doc done :: world.docs

theorem Consistent.afterDoc (consistent : Consistent env world)
    (takes : DocTakes world doc done
      (world.recordOf env nowMs repId phone doc done)) :
    Consistent env (world.afterDoc env nowMs repId phone doc done) := by
  cases takes with
  | nothing uploads lifecycle attributed absent =>
      have sameCalls : (world.afterDoc env nowMs repId phone doc done).calls =
          world.calls := by
        unfold MobileWorld.afterDoc
        rw [lifecycle, List.append_nil]
      have sameUploads :
          (world.afterDoc env nowMs repId phone doc done).uploads =
            world.uploads := uploads
      constructor
      · exact consistent.distinct
      · intro name buffered found
        rw [sameUploads] at found
        obtain ⟨upload, known⟩ := consistent.known _ _ found
        refine ⟨upload, known.newest, known.transfer, known.isUrl, ?_⟩
        rw [sameUploads]
        exact known.reads
      · intro name buffered found call member
        rw [sameUploads] at found
        rw [sameCalls] at member
        exact consistent.unclosed _ _ found call member
      · intro call member
        rw [sameCalls] at member
        exact consistent.called call member
  | upload name buffered upload isTwoStep isName found isWaiting uploads
      closes only content isTaken =>
      obtain ⟨mine, mineKnown⟩ := consistent.known _ _ found
      have sameUploads :
          (world.afterDoc env nowMs repId phone doc done).uploads =
            { world.uploads with
              buffer := Table.remove world.uploads.buffer name } := uploads
      have remains : ∀ other left, Table.find
          (world.afterDoc env nowMs repId phone doc done).uploads.buffer
            other = some left →
          other ≠ name ∧ Table.find world.uploads.buffer other =
            some left := by
        intro other left isLeft
        rw [sameUploads, Table.find_remove] at isLeft
        split at isLeft
        · cases isLeft
        · rename_i different
          exact ⟨different, isLeft⟩
      constructor
      · exact consistent.distinct
      · intro other left isLeft
        obtain ⟨otherUpload, known⟩ :=
          consistent.known _ _ (remains other left isLeft).2
        refine ⟨otherUpload, known.newest, known.transfer, known.isUrl, ?_⟩
        rw [sameUploads]
        exact known.reads
      · intro other left isLeft call member
        obtain ⟨different, before⟩ := remains other left isLeft
        rcases List.mem_append.mp member with old | new
        · exact consistent.unclosed _ _ before call old
        · rw [only call new]
          intro same
          exact different (consistent.name_eq before found same.symm)
      · intro call member
        rcases List.mem_append.mp member with old | new
        · exact consistent.called call old
        · refine ⟨mine, mineKnown.member.1, ?_⟩
          rw [only call new, mineKnown.transfer]

theorem isClosed_mono {calls more : List LifecycleCall} {transferId : String}
    (closed : IsClosed calls transferId)
    (included : ∀ call ∈ calls, call ∈ more) : IsClosed more transferId := by
  rcases closed with ⟨entryId, peerId, isLink, isComplete⟩ |
    ⟨peerId, detail, isFail⟩
  · exact Or.inl ⟨entryId, peerId, included _ isLink, included _ isComplete⟩
  · exact Or.inr ⟨peerId, detail, included _ isFail⟩

theorem orderly_afterDoc_iff (consistent : Consistent env world)
    (orderly : world.Orderly)
    (takes : DocTakes world doc done
      (world.recordOf env nowMs repId phone doc done)) :
    (world.afterDoc env nowMs repId phone doc done).Orderly ↔
      (doc.isTwoStep = true →
        ∀ upload, world.waiting doc = some upload →
          upload.device = phone) := by
  have transfers : ∀ upload ∈ world.opened,
      IsClosed (world.calls ++ done.lifecycle) upload.transferId ∨
        (world.afterDoc env nowMs repId phone doc done).IsPending upload := by
    intro upload member
    rcases orderly.transfers upload member with closed | pending
    · exact Or.inl (isClosed_mono closed fun call isCall =>
        List.mem_append_left _ isCall)
    · obtain ⟨left, isLeft, sameTransfer⟩ := pending
      cases takes with
      | nothing uploads lifecycle attributed absent =>
          refine Or.inr ⟨left, ?_, sameTransfer⟩
          change Table.find done.uploads.buffer upload.dataName = some left
          rw [uploads]
          exact isLeft
      | upload name buffered taken isTwoStep isName found isWaiting uploads
          closes only content isTaken =>
          by_cases sameName : upload.dataName = name
          · rw [sameName, found, Option.some.injEq] at isLeft
            rw [← sameTransfer, ← isLeft]
            exact Or.inl (isClosed_mono closes fun call isCall =>
              List.mem_append_right _ isCall)
          · refine Or.inr ⟨left, ?_, sameTransfer⟩
            change Table.find done.uploads.buffer upload.dataName = some left
            rw [uploads, Table.find_remove, if_neg sameName]
            exact isLeft
  have attributed_iff : (world.recordOf env nowMs repId phone doc
      done).Attributed ↔ (doc.isTwoStep = true →
        ∀ upload, world.waiting doc = some upload →
          upload.device = phone) := by
    cases takes with
    | nothing uploads lifecycle attributed absent =>
        apply iff_of_true attributed
        intro isTwoStep upload isWaiting
        rw [absent isTwoStep] at isWaiting
        cases isWaiting
    | upload name buffered taken isTwoStep isName found isWaiting uploads
        closes only content isTaken =>
        obtain ⟨mine, known⟩ := consistent.known _ _ found
        have isMine : mine = taken := by
          have waits := consistent.waiting_eq isName found known
          rw [isWaiting, Option.some.injEq] at waits
          exact waits.symm
        have isOwn : (world.recordOf env nowMs repId phone doc done).own =
            some taken ↔ taken.device = phone := by
          rw [← isMine]
          unfold recordOf
          rw [isName]
          exact known.lastOwn_eq_iff phone
        constructor
        · intro attributed _ upload waits
          rw [isWaiting, Option.some.injEq] at waits
          rw [← waits]
          rcases attributed isTwoStep with
            ⟨own, hasOwn, sameTaken, _⟩ | ⟨noContent, _⟩
          · rw [isTaken, Option.some.injEq] at sameTaken
            rw [← sameTaken] at hasOwn
            exact isOwn.mp hasOwn
          · rw [content] at noContent
            cases noContent
        · intro own _
          exact Or.inl ⟨taken, isOwn.mpr (own isTwoStep taken isWaiting),
            isTaken, content⟩
  rw [← attributed_iff]
  constructor
  · intro after
    exact after.docs _ List.mem_cons_self
  · intro attributed
    constructor
    · intro record member
      rcases List.mem_cons.mp member with isNew | isOld
      · rw [isNew]
        exact attributed
      · exact orderly.docs record isOld
    · exact transfers

end Document

/-! ## Runs -/

theorem step_syncDoc {ports : MobilePorts} {nowMs : Int} {repId : String}
    {describe : ApplyIncomingMobileClipError → String} {phone : Phone}
    {doc : SyncDoc} (stepped : world.step env
      (.syncDoc ports nowMs repId describe phone doc) = some next) :
    ∃ done, syncDoc env ports nowMs repId phone.id describe doc world.uploads
      world.device = some done ∧
        next = world.afterDoc env nowMs repId phone doc done := by
  unfold step at stepped
  obtain ⟨done, handled, isNext⟩ := Option.map_eq_some_iff.mp stepped
  exact ⟨done, handled, isNext.symm⟩

theorem Consistent.step (consistent : Consistent env world)
    {event : MobileEvent} (stepped : world.step env event = some next) :
    Consistent env next := by
  cases event with
  | bufferFile order phone upload =>
      obtain ⟨staged, buffers⟩ := buffers_of_step stepped
      exact consistent.bufferFile buffers
  | syncDoc ports nowMs repId describe phone doc =>
      obtain ⟨done, handled, isNext⟩ := step_syncDoc stepped
      rw [isNext]
      exact consistent.afterDoc (docTakes_of_syncDoc consistent handled)

theorem orderly_step_iff (consistent : Consistent env world)
    (orderly : world.Orderly) {event : MobileEvent}
    (stepped : world.step env event = some next) :
    next.Orderly ↔ world.Fits env event := by
  have occurs : (world.step env event).isSome = true := by
    rw [stepped]
    rfl
  cases event with
  | bufferFile order phone upload =>
      obtain ⟨staged, buffers⟩ := buffers_of_step stepped
      rw [orderly_bufferFile_iff consistent orderly buffers]
      exact ⟨fun fits _ => fits, fun fits => fits occurs⟩
  | syncDoc ports nowMs repId describe phone doc =>
      obtain ⟨done, handled, isNext⟩ := step_syncDoc stepped
      rw [isNext, orderly_afterDoc_iff consistent orderly
        (docTakes_of_syncDoc consistent handled)]
      exact ⟨fun fits _ => fits, fun fits => fits occurs⟩

theorem consistent_start (files : Table PathBuf (List UInt8))
    (device : ApplyInbound.InboundDevice) :
    Consistent env (start files device) := by
  have nothing : ∀ name, Table.find (start files device).uploads.buffer name =
      none := fun name => Table.find_empty
  constructor
  · exact List.Pairwise.nil
  · intro name buffered found
    rw [nothing] at found
    cases found
  · intro name buffered found
    rw [nothing] at found
    cases found
  · intro call member
    cases member

theorem orderly_start (files : Table PathBuf (List UInt8))
    (device : ApplyInbound.InboundDevice) : (start files device).Orderly := by
  constructor
  · intro record member
    cases member
  · intro upload member
    cases member

end MobileWorld

namespace Sample

def listOrder : MapOrder where
  firstKey buffer := buffer.keys.head?
  isKey buffer key isFirst := by
    rw [Table.find, AList.lookup_isSome]
    exact List.mem_of_head? isFirst
  nonempty buffer hasKeys := by
    cases isKeys : buffer.keys with
    | nil => rw [isKeys] at hasKeys; exact absurd rfl hasKeys
    | cons key keys => rfl

def ownPhone : Phone := ⟨"did_one", by decide +kernel⟩

def otherPhone : Phone := ⟨"did_two", by decide +kernel⟩

def announcedList : SystemClipboardSnapshot :=
  (oneRepresentation 0 "rep" "files" "text/uri-list"
    (Text.asBytes "file:///cache/report.pdf\n") none).snapshot

def mobilePorts : MobilePorts where
  inbound := ApplyInbound.Sample.ports 0 announcedList none ⟨"entry"⟩
  encode _ := .ok []
  announce := none

/-- One phone puts a report, and another sends the document. -/
def mixedUp : List MobileEvent :=
  [.bufferFile listOrder ownPhone (report "one"),
    .syncDoc mobilePorts 0 "rep" (fun _ => "") otherPhone
      ⟨.file, "report.pdf", some "report.pdf"⟩]

/-- What a document took and handed on, and whether it was applied. -/
structure Taken where
  own : Option UploadRecord
  taken : Option UploadRecord
  content : Option (List UInt8)
  isApplied : Bool
  deriving DecidableEq

def takenOf (record : DocRecord) : Taken where
  own := record.own
  taken := record.taken
  content := record.content
  isApplied :=
    match record.result with
    | .ok (.applied _ _) => true
    | _ => false

def run (events : List MobileEvent) : Option MobileWorld :=
  execute (MobileWorld.step stagingEnv)
    (MobileWorld.start ∅ ApplyInbound.Sample.emptyDevice) events

end Sample

end OpenClipboard.MobileSync
