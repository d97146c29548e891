import OpenClipboard.MobileSync.StagingSessions

/-!
# Isolation of the staging sessions

A session keeps its file to itself as long as no other upload begins at its
path while it has one, and no operation that puts an end to an upload fails.
-/

namespace OpenClipboard.StagingSessions

open Transition MobileSync

/-! ## What holds between the steps -/

/-- The upload has a file under its path, or is about to remove it. -/
def Phase.Claims : Phase → Prop
  | .createDir _ | .createFile | .writeFile _ | .removeDir | .aborted
  | .failed _ => False
  | _ => True

/-- The handle refers to the file under the upload's path, which holds what
was appended unless a write has failed. -/
structure Upload.Holds (disk : Disk) (upload : Upload) (file : File) :
    Prop where
  named : disk.names.find upload.path = some file.inode
  holds : upload.broken = false → file.pending = none →
    disk.data.find file.inode = some upload.appended ∧
      file.offset = upload.appended.length

theorem Upload.Holds.goto {disk : Disk} {upload : Upload} {file : File}
    (holds : upload.Holds disk file) (next : Phase) :
    (upload.goto next).Holds disk file :=
  ⟨holds.named, holds.holds⟩

def Upload.Keeps (disk : Disk) (upload : Upload) : Prop :=
  match upload.phase with
  | .insertSession file | .opened file => upload.Holds disk file
  | .flush file => upload.Holds disk file ∧ upload.broken = false
  | .syncAll file =>
      upload.Holds disk file ∧ upload.broken = false ∧ file.pending = none
  | .finalized _ => disk.read upload.path = some upload.appended
  | .staged _ bytes => disk.read upload.path = some bytes
  | .lost _ => False
  | _ => True

theorem Upload.Keeps.of_confined {before after : Disk} {path : PathBuf}
    {upload : Upload} (keeps : upload.Keeps before)
    (confined : Disk.Confined before after path)
    (different : upload.path ≠ path) : upload.Keeps after := by
  have holds : ∀ file, upload.Holds before file → upload.Holds after file := by
    intro file isFile
    refine ⟨?_, ?_⟩
    · rw [confined.names _ different]
      exact isFile.named
    · rw [confined.data _ _ different isFile.named]
      exact isFile.holds
  unfold Upload.Keeps at keeps ⊢
  cases isPhase : upload.phase with
  | insertSession file =>
      rw [isPhase] at keeps
      exact holds file keeps
  | opened file =>
      rw [isPhase] at keeps
      exact holds file keeps
  | flush file =>
      rw [isPhase] at keeps
      exact ⟨holds file keeps.1, keeps.2⟩
  | syncAll file =>
      rw [isPhase] at keeps
      exact ⟨holds file keeps.1, keeps.2⟩
  | finalized staged =>
      rw [isPhase] at keeps
      show after.read upload.path = some upload.appended
      rw [confined.read different]
      exact keeps
  | staged staged bytes =>
      rw [isPhase] at keeps
      show after.read upload.path = some bytes
      rw [confined.read different]
      exact keeps
  | lost message =>
      rw [isPhase] at keeps
      exact keeps
  | _ => trivial

structure Sound (staging : Staging) : Prop where
  valid : staging.disk.Valid
  keeps : ∀ token upload, staging.uploads.find token = some upload →
    upload.Keeps staging.disk
  apart : ∀ token other upload otherUpload,
    staging.uploads.find token = some upload →
      staging.uploads.find other = some otherUpload →
        upload.phase.Claims → otherUpload.phase.Claims →
          upload.path = otherUpload.path → token = other
  owned : ∀ path inode, staging.disk.names.find path = some inode →
    ∃ token upload, staging.uploads.find token = some upload ∧
      upload.phase.Claims ∧ upload.path = path

/-- No other upload has the path. -/
def Free (staging : Staging) (token : String) (path : PathBuf) : Prop :=
  ∀ other upload, other ≠ token →
    staging.uploads.find other = some upload → upload.phase.Claims →
      upload.path ≠ path

section Updates

variable {before : Staging} {token : String} {upload next : Upload}

theorem Sound.quiet (sound : Sound before)
    (known : ∀ found, before.uploads.find token = some found →
      found.path = next.path ∧ (found.phase.Claims → next.phase.Claims))
    (claimed : next.phase.Claims → ∃ found,
      before.uploads.find token = some found ∧ found.phase.Claims)
    (keeps : next.Keeps before.disk) :
    Sound (before.update token before.disk next) := by
  refine ⟨sound.valid, ?_, ?_, ?_⟩
  · intro other otherUpload isOther
    change (before.uploads.put token next).find other = _ at isOther
    rw [Table.find_put] at isOther
    split at isOther
    · cases isOther
      exact keeps
    · exact sound.keeps other otherUpload isOther
  · -- The claims are those before the step, on the same paths.
    have earlier : ∀ other otherUpload,
        (before.uploads.put token next).find other = some otherUpload →
          otherUpload.phase.Claims →
            ∃ found, before.uploads.find other = some found ∧
              found.phase.Claims ∧ found.path = otherUpload.path := by
      intro other otherUpload isOther claims
      rw [Table.find_put] at isOther
      split at isOther
      · rename_i same
        cases isOther
        rcases claimed claims with ⟨found, isFound, foundClaims⟩
        rw [same]
        exact ⟨found, isFound, foundClaims, (known found isFound).1⟩
      · exact ⟨otherUpload, isOther, claims, rfl⟩
    intro first second firstUpload secondUpload isFirst isSecond firstClaims
      secondClaims samePath
    rcases earlier first firstUpload isFirst firstClaims with
      ⟨firstFound, isFirstFound, firstHas, firstPath⟩
    rcases earlier second secondUpload isSecond secondClaims with
      ⟨secondFound, isSecondFound, secondHas, secondPath⟩
    apply sound.apart first second firstFound secondFound isFirstFound
      isSecondFound firstHas secondHas
    rw [firstPath, secondPath]
    exact samePath
  · intro path inode named
    rcases sound.owned path inode named with
      ⟨other, otherUpload, isOther, claims, isPath⟩
    by_cases same : other = token
    · subst same
      rcases known otherUpload isOther with ⟨samePath, stillClaims⟩
      exact ⟨other, next, Table.find_put_self, stillClaims claims,
        samePath ▸ isPath⟩
    · refine ⟨other, otherUpload, ?_, claims, isPath⟩
      show (before.uploads.put token next).find other = some otherUpload
      rw [Table.find_put_of_ne same]
      exact isOther

theorem Sound.acts {disk : Disk} (sound : Sound before)
    (free : Free before token next.path)
    (confined : Disk.Confined before.disk disk next.path)
    (known : ∀ found, before.uploads.find token = some found →
      found.path = next.path)
    (keeps : next.Keeps disk)
    (owns : disk.names.find next.path = none ∨ next.phase.Claims) :
    Sound (before.update token disk next) := by
  have others : ∀ other otherUpload, other ≠ token →
      (before.uploads.put token next).find other = some otherUpload →
        before.uploads.find other = some otherUpload := by
    intro other otherUpload different isOther
    rw [Table.find_put_of_ne different] at isOther
    exact isOther
  refine ⟨confined.valid, ?_, ?_, ?_⟩
  · intro other otherUpload isOther
    by_cases same : other = token
    · change (before.uploads.put token next).find other = _ at isOther
      rw [same, Table.find_put_self] at isOther
      cases isOther
      exact keeps
    · have found := others other otherUpload same isOther
      have kept := sound.keeps other otherUpload found
      by_cases claims : otherUpload.phase.Claims
      · exact kept.of_confined confined
          (free other otherUpload same found claims)
      · unfold Upload.Keeps
        cases isPhase : otherUpload.phase with
        | createDir body => trivial
        | createFile => trivial
        | writeFile bytes => trivial
        | removeDir => trivial
        | aborted => trivial
        | failed message => trivial
        | _ =>
            rw [isPhase] at claims
            exact absurd trivial claims
  · intro first second firstUpload secondUpload isFirst isSecond firstClaims
      secondClaims samePath
    by_cases firstOwn : first = token
    · by_cases secondOwn : second = token
      · rw [firstOwn, secondOwn]
      · change (before.uploads.put token next).find first = _ at isFirst
        rw [firstOwn, Table.find_put_self] at isFirst
        cases isFirst
        exact absurd samePath.symm (free second secondUpload secondOwn
          (others second secondUpload secondOwn isSecond) secondClaims)
    · by_cases secondOwn : second = token
      · change (before.uploads.put token next).find second = _ at isSecond
        rw [secondOwn, Table.find_put_self] at isSecond
        cases isSecond
        exact absurd samePath (free first firstUpload firstOwn
          (others first firstUpload firstOwn isFirst) firstClaims)
      · exact sound.apart first second firstUpload secondUpload
          (others first firstUpload firstOwn isFirst)
          (others second secondUpload secondOwn isSecond)
          firstClaims secondClaims samePath
  · intro path inode named
    by_cases same : path = next.path
    · rcases owns with absent | claims
      · change disk.names.find path = some inode at named
        rw [same, absent] at named
        cases named
      · exact ⟨token, next, Table.find_put_self, claims, same.symm⟩
    · change disk.names.find path = some inode at named
      rw [confined.names path same] at named
      rcases sound.owned path inode named with
        ⟨other, otherUpload, isOther, claims, isPath⟩
      have different : other ≠ token := by
        rintro rfl
        exact same (isPath.symm.trans (known otherUpload isOther))
      refine ⟨other, otherUpload, ?_, claims, isPath⟩
      show (before.uploads.put token next).find other = some otherUpload
      rw [Table.find_put_of_ne different]
      exact isOther

theorem Sound.free_of_claims (sound : Sound before)
    (found : before.uploads.find token = some upload)
    (claims : upload.phase.Claims) : Free before token upload.path := by
  intro other otherUpload different isOther otherClaims samePath
  exact different (sound.apart other token otherUpload upload isOther found
    otherClaims claims samePath)

theorem Sound.absent_of_free (sound : Sound before)
    (found : before.uploads.find token = some upload)
    (noClaim : ¬ upload.phase.Claims) (free : Free before token upload.path) :
    before.disk.names.find upload.path = none := by
  cases named : before.disk.names.find upload.path with
  | none => rfl
  | some inode =>
      rcases sound.owned upload.path inode named with
        ⟨other, otherUpload, isOther, claims, isPath⟩
      by_cases same : other = token
      · rw [same, found] at isOther
        cases isOther
        exact absurd claims noClaim
      · exact absurd isPath (free other otherUpload same isOther claims)

end Updates

/-! ## Undisturbed steps -/

/-- The operation neither meets another upload's file nor is a removal, a flush,
a sync or a conversion to a URL that fails. -/
def Steady (env : StagingEnv) (staging : Staging) (token : String)
    (upload : Upload) (fault : Option Fault) : Phase → Prop
  | .createFile => fault = none → Free staging token upload.path
  | .writeFile _ => Free staging token upload.path ∧
      (fault = none → stagedFile env upload ≠ none)
  | .removeFile | .removePartial _ => fault = none
  | .flush file => file.pending = none ∧ fault = none
  | .syncAll _ => fault = none ∧ stagedFile env upload ≠ none
  | _ => True

/-- Steady operations; and no session is finalized after an append that has
failed. -/
def Undisturbed (env : StagingEnv) (staging : Staging) : Action → Prop
  | .advance token fault => ∀ upload,
      staging.uploads.find token = some upload →
        Steady env staging token upload fault upload.phase
  | .finalizeStage token => ∀ upload,
      staging.uploads.find token = some upload → upload.broken = false
  | _ => True

section Guarded

variable {env : StagingEnv} {before : Staging} {token : String}
variable {upload : Upload}

theorem Upload.Holds.read {disk : Disk} {file : File}
    (holds : upload.Holds disk file) (unbroken : upload.broken = false)
    (settled : file.pending = none) :
    disk.read upload.path = some upload.appended := by
  unfold Disk.read
  rw [holds.named]
  exact (holds.holds unbroken settled).1

theorem read_create_writeAt {disk : Disk} {path : PathBuf}
    (bytes : List UInt8) (valid : disk.Valid)
    (absent : disk.names.find path = none) :
    Disk.Confined disk ((disk.create path).2.writeAt (disk.create path).1 0
      bytes) path ∧
    ((disk.create path).2.writeAt (disk.create path).1 0 bytes).read path =
      some bytes := by
  rcases Disk.confined_create valid absent with ⟨confined, named, isEmpty⟩
  refine ⟨confined.trans (Disk.confined_writeAt confined.valid named), ?_⟩
  unfold Disk.read
  rw [show ((disk.create path).2.writeAt (disk.create path).1 0 bytes).names =
    (disk.create path).2.names from rfl, named]
  show ((disk.create path).2.data.put (disk.create path).1 _).find
    (disk.create path).1 = some bytes
  rw [Table.find_put_self, isEmpty]
  exact congrArg some (Disk.overwrite_at_end [] bytes)

theorem Sound.goto {next : Phase} (sound : Sound before)
    (found : before.uploads.find token = some upload)
    (claims : upload.phase.Claims ↔ next.Claims)
    (keeps : (upload.goto next).Keeps before.disk) :
    Sound (before.update token before.disk (upload.goto next)) := by
  apply sound.quiet _ _ keeps
  · intro other isOther
    rw [found] at isOther
    cases isOther
    exact ⟨rfl, claims.mp⟩
  · intro claimed
    exact ⟨upload, found, claims.mpr claimed⟩

theorem Sound.acts_goto {next : Upload} {disk : Disk} (sound : Sound before)
    (found : before.uploads.find token = some upload)
    (samePath : next.path = upload.path)
    (free : Free before token upload.path)
    (confined : Disk.Confined before.disk disk upload.path)
    (keeps : next.Keeps disk)
    (owns : disk.names.find upload.path = none ∨ next.phase.Claims) :
    Sound (before.update token disk next) := by
  rw [← samePath] at free confined owns
  apply sound.acts free confined _ keeps owns
  intro other isOther
  rw [found] at isOther
  cases isOther
  exact samePath.symm

theorem sound_advance {fault : Option Fault} {next : Disk × Upload}
    (sound : Sound before)
    (found : before.uploads.find token = some upload)
    (steady : Steady env before token upload fault upload.phase)
    (stepped :
      advance env before.disk upload fault upload.phase = some next) :
    Sound (before.update token next.1 next.2) := by
  have keeps := sound.keeps token upload found
  unfold Upload.Keeps at keeps
  cases isPhase : upload.phase with
  | createDir body =>
      rw [isPhase] at stepped
      have noClaim : ¬ upload.phase.Claims := by
        rw [isPhase]
        exact id
      cases fault with
      | some failure =>
          cases stepped
          exact sound.goto found (iff_of_false noClaim id) trivial
      | none =>
          cases body with
          | none =>
              cases stepped
              exact sound.goto found (iff_of_false noClaim id) trivial
          | some bytes =>
              cases stepped
              exact sound.goto found (iff_of_false noClaim id) trivial
  | createFile =>
      rw [isPhase] at stepped steady
      have noClaim : ¬ upload.phase.Claims := by
        rw [isPhase]
        exact id
      cases fault with
      | some failure =>
          cases stepped
          exact sound.goto found (iff_of_false noClaim id) trivial
      | none =>
          cases stepped
          have free := steady rfl
          rcases Disk.confined_create sound.valid
            (sound.absent_of_free found noClaim free) with
            ⟨confined, named, isEmpty⟩
          refine sound.acts_goto found rfl free confined ?_ (Or.inr trivial)
          exact ⟨named, fun _ _ => ⟨isEmpty, rfl⟩⟩
  | insertSession file =>
      rw [isPhase] at stepped keeps
      cases stepped
      refine sound.goto found ?_ (Upload.Holds.goto keeps (.opened file))
      rw [isPhase]
      exact Iff.rfl
  | opened file =>
      rw [isPhase] at stepped
      cases stepped
  | flush file =>
      rw [isPhase] at stepped steady keeps
      rcases steady with ⟨settled, rfl⟩
      simp only [advance, settled, Option.some.injEq] at stepped
      subst stepped
      refine sound.goto found ?_ ⟨keeps.1.goto _, keeps.2, settled⟩
      rw [isPhase]
      exact Iff.rfl
  | syncAll file =>
      rw [isPhase] at stepped steady keeps
      rcases steady with ⟨rfl, converts⟩
      rcases Option.ne_none_iff_exists'.mp converts with ⟨staged, isStaged⟩
      simp only [advance, isStaged, Option.some.injEq] at stepped
      subst stepped
      refine sound.goto found ?_ (keeps.1.read keeps.2.1 keeps.2.2)
      rw [isPhase]
      exact Iff.rfl
  | finalized done =>
      rw [isPhase] at stepped
      cases stepped
  | lost message =>
      rw [isPhase] at keeps
      exact keeps.elim
  | removeFile =>
      rw [isPhase] at stepped steady
      cases steady
      cases stepped
      have free := sound.free_of_claims found (by rw [isPhase]; trivial)
      exact sound.acts_goto found rfl free
        (Disk.confined_remove sound.valid) trivial
        (Or.inl Disk.remove_absent)
  | removeDir =>
      rw [isPhase] at stepped
      cases stepped
      refine sound.goto found ?_ trivial
      rw [isPhase]
      exact Iff.rfl
  | aborted =>
      rw [isPhase] at stepped
      cases stepped
  | writeFile bytes =>
      rw [isPhase] at stepped steady
      have noClaim : ¬ upload.phase.Claims := by
        rw [isPhase]
        exact id
      rcases steady with ⟨free, converts⟩
      have absent := sound.absent_of_free found noClaim free
      cases fault with
      | none =>
          rcases Option.ne_none_iff_exists'.mp (converts rfl) with
            ⟨staged, isStaged⟩
          simp only [advance, isStaged, Option.some.injEq] at stepped
          subst stepped
          rcases read_create_writeAt bytes sound.valid absent with
            ⟨confined, isRead⟩
          exact sound.acts_goto found rfl free confined isRead
            (Or.inr trivial)
      | some failure =>
          cases isLeft : failure.left with
          | none =>
              simp only [advance, isLeft, Option.some.injEq] at stepped
              subst stepped
              exact sound.acts_goto found rfl free
                (Disk.Confined.refl sound.valid) trivial (Or.inr trivial)
          | some written =>
              simp only [advance, isLeft, Option.some.injEq] at stepped
              subst stepped
              rcases read_create_writeAt (bytes.take written) sound.valid
                absent with ⟨confined, _⟩
              exact sound.acts_goto found rfl free confined trivial
                (Or.inr trivial)
  | removePartial message =>
      rw [isPhase] at stepped steady
      cases steady
      cases stepped
      have free := sound.free_of_claims found (by rw [isPhase]; trivial)
      exact sound.acts_goto found rfl free
        (Disk.confined_remove sound.valid) trivial
        (Or.inl Disk.remove_absent)
  | staged done bytes =>
      rw [isPhase] at stepped
      cases stepped
  | failed message =>
      rw [isPhase] at stepped
      cases stepped

theorem sound_appendChunk {file : File} {chunk : List UInt8}
    {fault : Option Fault} (sound : Sound before)
    (found : before.uploads.find token = some upload)
    (isOpen : upload.phase = .opened file) :
    Sound (before.update token
      (appendChunk before.disk upload file chunk fault).1
      (appendChunk before.disk upload file chunk fault).2) := by
  have holds := sound.keeps token upload found
  unfold Upload.Keeps at holds
  rw [isOpen] at holds
  have claims : upload.phase.Claims := by
    rw [isOpen]
    trivial
  have free := sound.free_of_claims found claims
  have written : ∀ bytes, Disk.Confined before.disk
      (before.disk.writeAt file.inode file.offset bytes) upload.path :=
    fun bytes => Disk.confined_writeAt sound.valid holds.named
  cases isPending : file.pending with
  | some message =>
      simp only [appendChunk, isPending]
      refine sound.acts_goto found rfl free (Disk.Confined.refl sound.valid)
        ?_ (Or.inr trivial)
      exact ⟨holds.named, nofun⟩
  | none =>
      cases fault with
      | none =>
          simp only [appendChunk, isPending]
          refine sound.acts_goto found rfl free (written chunk) ?_
            (Or.inr trivial)
          refine ⟨holds.named, ?_⟩
          intro unbroken _
          rcases holds.holds unbroken isPending with ⟨isData, isOffset⟩
          constructor
          · show (before.disk.data.put file.inode _).find file.inode = _
            rw [Table.find_put_self, isData, isOffset]
            exact congrArg some (Disk.overwrite_at_end _ _)
          · show file.offset + chunk.length = (upload.appended ++ chunk).length
            rw [isOffset, List.length_append]
      | some failure =>
          simp only [appendChunk, isPending]
          refine sound.acts_goto found ?_ free (written _) ?_ ?_
          · split <;> rfl
          · split
            · exact ⟨holds.named, fun _ settled => nomatch settled⟩
            · exact ⟨holds.named, nofun⟩
          · right
            split <;> trivial

theorem Sound.consume (sound : Sound before) (consumed : List String) :
    Sound { before with consumed := consumed } :=
  ⟨sound.valid, sound.keeps, sound.apart, sound.owned⟩

theorem sound_begin {body : Option (List UInt8)} {scopeId dataName : String}
    (sound : Sound before) (isNew : before.uploads.find token = none) :
    Sound (before.update token before.disk
      (beginUpload env scopeId dataName body)) := by
  refine sound.quiet ?_ (absurd · id) trivial
  intro found isFound
  rw [isNew] at isFound
  cases isFound

theorem sound_step {action : Action} {after : Staging}
    (sound : Sound before) (undisturbed : Undisturbed env before action)
    (stepped : step env before action = some after) : Sound after := by
  cases action with
  | beginStage token scopeId dataName =>
      cases isNew : before.uploads.find token with
      | some upload => simp [step, isNew] at stepped
      | none =>
          simp only [step, isNew, Option.some.injEq] at stepped
          subst stepped
          exact sound_begin sound isNew
  | stageFile token scopeId dataName bytes =>
      cases isNew : before.uploads.find token with
      | some upload => simp [step, isNew] at stepped
      | none =>
          simp only [step, isNew, Option.some.injEq] at stepped
          subst stepped
          exact sound_begin sound isNew
  | advance token fault =>
      cases found : before.uploads.find token with
      | none => simp [step, found] at stepped
      | some upload =>
          simp only [step, found, Option.map_eq_some_iff] at stepped
          rcases stepped with ⟨next, isNext, rfl⟩
          exact sound_advance sound found (undisturbed upload found) isNext
  | appendStageChunk token chunk fault =>
      simp only [step] at stepped
      split at stepped
      · rename_i resolved file appended broken found
        split at stepped
        · cases stepped
          exact sound
        · cases stepped
          exact sound_appendChunk sound found rfl
      · cases stepped
        exact sound
  | finalizeStage token =>
      simp only [step] at stepped
      split at stepped
      · rename_i resolved file appended broken found
        cases stepped
        have holds : Upload.Holds before.disk
            ⟨resolved, .opened file, appended, broken⟩ file :=
          sound.keeps token _ found
        have unbroken : broken = false := undisturbed _ found
        have moved : Sound (before.update token before.disk
            ⟨resolved, .flush file, appended, broken⟩) :=
          sound.goto found Iff.rfl ⟨holds.goto (.flush file), unbroken⟩
        exact moved.consume (token :: before.consumed)
      · cases stepped
        exact sound
  | abortStage token =>
      simp only [step] at stepped
      split at stepped
      · rename_i resolved file appended broken found
        cases stepped
        have moved : Sound (before.update token before.disk
            ⟨resolved, .removeFile, appended, broken⟩) :=
          sound.goto found Iff.rfl trivial
        exact moved.consume (token :: before.consumed)
      · cases stepped
        exact sound

end Guarded

/-! ## What holds in every run -/

/-- The handle of the session was consumed. -/
def Phase.Spent : Phase → Prop
  | .flush _ | .syncAll _ | .finalized _ | .lost _ | .removeFile | .removeDir
  | .aborted => True
  | _ => False

structure Managed (env : StagingEnv) (staging : Staging) : Prop where
  uploads : ∀ token upload, staging.uploads.find token = some upload →
    ∃ scopeId dataName, upload.resolved = managedPath env scopeId dataName
  files : ∀ path, staging.disk.names.find path ≠ none →
    ∃ scopeId dataName, path = (managedPath env scopeId dataName).path.path
  once : staging.consumed.Nodup
  spent : ∀ token ∈ staging.consumed, ∃ upload,
    staging.uploads.find token = some upload ∧ upload.phase.Spent

theorem names_create {disk : Disk} {path other : PathBuf}
    (named : (disk.create path).2.names.find other ≠ none) :
    other = path ∨ disk.names.find other ≠ none := by
  by_cases same : other = path
  · exact Or.inl same
  · right
    unfold Disk.create at named
    split at named
    · exact named
    · change (disk.names.put path disk.used).find other ≠ none at named
      rw [Table.find_put_of_ne same] at named
      exact named

theorem names_remove {disk : Disk} {path other : PathBuf}
    (named : (disk.remove path).names.find other ≠ none) :
    disk.names.find other ≠ none := by
  change (disk.names.remove path).find other ≠ none at named
  rw [Table.find_remove] at named
  split at named
  · exact absurd rfl named
  · exact named

/-- An operation names no file but the upload's own, and a consumed handle
stays consumed. -/
structure Frame (disk : Disk) (upload : Upload) (next : Disk × Upload) :
    Prop where
  resolved : next.2.resolved = upload.resolved
  names : ∀ other, next.1.names.find other ≠ none →
    other = upload.path ∨ disk.names.find other ≠ none
  spent : upload.phase.Spent → next.2.phase.Spent

section Frames

variable {env : StagingEnv} {disk : Disk} {upload : Upload}
variable {fault : Option Fault} {next : Disk × Upload}

theorem Frame.goto {phase : Phase} (stays : upload.phase.Spent → phase.Spent) :
    Frame disk upload (disk, upload.goto phase) :=
  ⟨rfl, fun _ named => Or.inr named, stays⟩

theorem frame_advance
    (stepped : advance env disk upload fault upload.phase = some next) :
    Frame disk upload next := by
  cases isPhase : upload.phase with
  | createDir body =>
      rw [isPhase] at stepped
      have stays : ∀ phase : Phase, upload.phase.Spent → phase.Spent := by
        intro phase spent
        rw [isPhase] at spent
        exact spent.elim
      simp only [advance] at stepped
      split at stepped <;> cases stepped <;> exact Frame.goto (stays _)
  | createFile =>
      rw [isPhase] at stepped
      have stays : ∀ phase : Phase, upload.phase.Spent → phase.Spent := by
        intro phase spent
        rw [isPhase] at spent
        exact spent.elim
      simp only [advance] at stepped
      split at stepped
      · cases stepped
        exact Frame.goto (stays _)
      · cases stepped
        exact ⟨rfl, fun _ named => names_create named, stays _⟩
  | insertSession file =>
      rw [isPhase] at stepped
      cases stepped
      apply Frame.goto
      rw [isPhase]
      exact id
  | flush file =>
      rw [isPhase] at stepped
      simp only [advance] at stepped
      split at stepped <;> cases stepped <;>
        exact Frame.goto fun _ => trivial
  | syncAll file =>
      rw [isPhase] at stepped
      simp only [advance] at stepped
      split at stepped <;> cases stepped <;>
        exact Frame.goto fun _ => trivial
  | removeFile =>
      rw [isPhase] at stepped
      simp only [advance] at stepped
      split at stepped
      · cases stepped
        exact Frame.goto fun _ => trivial
      · cases stepped
        exact ⟨rfl, fun _ named => Or.inr (names_remove named),
          fun _ => trivial⟩
  | removeDir =>
      rw [isPhase] at stepped
      cases stepped
      exact Frame.goto fun _ => trivial
  | writeFile bytes =>
      rw [isPhase] at stepped
      have stays : ∀ phase : Phase, upload.phase.Spent → phase.Spent := by
        intro phase spent
        rw [isPhase] at spent
        exact spent.elim
      simp only [advance] at stepped
      split at stepped
      · split at stepped
        · cases stepped
          exact Frame.goto (stays _)
        · cases stepped
          exact ⟨rfl, fun _ named => names_create named, stays _⟩
      · cases stepped
        exact ⟨rfl, fun _ named => names_create named, stays _⟩
  | removePartial message =>
      rw [isPhase] at stepped
      have stays : ∀ phase : Phase, upload.phase.Spent → phase.Spent := by
        intro phase spent
        rw [isPhase] at spent
        exact spent.elim
      simp only [advance] at stepped
      split at stepped
      · cases stepped
        exact Frame.goto (stays _)
      · cases stepped
        exact ⟨rfl, fun _ named => Or.inr (names_remove named), stays _⟩
  | opened file =>
      rw [isPhase] at stepped
      cases stepped
  | finalized staged =>
      rw [isPhase] at stepped
      cases stepped
  | lost message =>
      rw [isPhase] at stepped
      cases stepped
  | aborted =>
      rw [isPhase] at stepped
      cases stepped
  | staged done bytes =>
      rw [isPhase] at stepped
      cases stepped
  | failed message =>
      rw [isPhase] at stepped
      cases stepped

theorem frame_appendChunk {file : File} {chunk : List UInt8}
    (isOpen : upload.phase = .opened file) :
    Frame disk upload (appendChunk disk upload file chunk fault) := by
  have stays : ∀ phase : Phase, upload.phase.Spent → phase.Spent := by
    intro phase spent
    rw [isOpen] at spent
    exact spent.elim
  unfold appendChunk
  split
  · exact ⟨rfl, fun _ named => Or.inr named, stays _⟩
  · exact ⟨rfl, fun _ named => Or.inr named, stays _⟩
  · refine ⟨?_, fun _ named => Or.inr named, stays _⟩
    dsimp only
    split <;> rfl

end Frames

section Runs

variable {env : StagingEnv} {before after : Staging} {token : String}
variable {upload : Upload}

theorem Managed.update {disk : Disk} {next : Upload}
    (managed : Managed env before)
    (isResolved : ∃ scopeId dataName,
      next.resolved = managedPath env scopeId dataName)
    (names : ∀ other, disk.names.find other ≠ none →
      other = next.path ∨ before.disk.names.find other ≠ none)
    (spent : token ∈ before.consumed → next.phase.Spent) :
    Managed env (before.update token disk next) := by
  refine ⟨?_, ?_, managed.once, ?_⟩
  · intro other otherUpload isOther
    change (before.uploads.put token next).find other = _ at isOther
    rw [Table.find_put] at isOther
    split at isOther
    · cases isOther
      exact isResolved
    · exact managed.uploads other otherUpload isOther
  · intro path named
    rcases names path named with isOwn | known
    · rcases isResolved with ⟨scopeId, dataName, isManaged⟩
      refine ⟨scopeId, dataName, ?_⟩
      rw [isOwn, Upload.path, isManaged]
    · exact managed.files path known
  · intro other member
    by_cases same : other = token
    · subst same
      exact ⟨next, Table.find_put_self, spent member⟩
    · rcases managed.spent other member with ⟨found, isFound, isSpent⟩
      refine ⟨found, ?_, isSpent⟩
      show (before.uploads.put token next).find other = some found
      rw [Table.find_put_of_ne same]
      exact isFound

theorem Managed.frame {next : Disk × Upload} (managed : Managed env before)
    (found : before.uploads.find token = some upload)
    (frame : Frame before.disk upload next) :
    Managed env (before.update token next.1 next.2) := by
  apply managed.update
  · rw [frame.resolved]
    exact managed.uploads token upload found
  · intro other named
    have samePath : next.2.path = upload.path := by
      unfold Upload.path
      rw [frame.resolved]
    rw [samePath]
    exact frame.names other named
  · intro member
    rcases managed.spent token member with ⟨other, isOther, isSpent⟩
    rw [found] at isOther
    cases isOther
    exact frame.spent isSpent

theorem Managed.begin {body : Option (List UInt8)} {scopeId dataName : String}
    (managed : Managed env before)
    (isNew : before.uploads.find token = none) :
    Managed env (before.update token before.disk
      (beginUpload env scopeId dataName body)) := by
  have isResolved : ∃ scope name,
      (beginUpload env scopeId dataName body).resolved =
        managedPath env scope name := ⟨scopeId, dataName, rfl⟩
  apply managed.update isResolved fun _ named => Or.inr named
  intro member
  rcases managed.spent token member with ⟨other, isOther, _⟩
  rw [isNew] at isOther
  cases isOther

theorem Managed.consume {next : Phase} (managed : Managed env before)
    (found : before.uploads.find token = some upload)
    (unspent : ¬ upload.phase.Spent) (spends : next.Spent) :
    Managed env { before.update token before.disk (upload.goto next) with
      consumed := token :: before.consumed } := by
  have updated : Managed env
      (before.update token before.disk (upload.goto next)) :=
    managed.frame found (Frame.goto fun _ => spends)
  refine ⟨updated.uploads, updated.files, ?_, ?_⟩
  · apply List.nodup_cons.mpr
    refine ⟨?_, managed.once⟩
    intro member
    rcases managed.spent token member with ⟨other, isOther, isSpent⟩
    rw [found] at isOther
    cases isOther
    exact unspent isSpent
  · intro other member
    rcases List.mem_cons.mp member with isToken | inRest
    · rw [isToken]
      exact ⟨upload.goto next, Table.find_put_self, spends⟩
    · exact updated.spent other inRest

theorem managed_step {action : Action} (managed : Managed env before)
    (stepped : step env before action = some after) : Managed env after := by
  cases action with
  | beginStage token scopeId dataName =>
      cases isNew : before.uploads.find token with
      | some upload => simp [step, isNew] at stepped
      | none =>
          simp only [step, isNew, Option.some.injEq] at stepped
          subst stepped
          exact managed.begin isNew
  | stageFile token scopeId dataName bytes =>
      cases isNew : before.uploads.find token with
      | some upload => simp [step, isNew] at stepped
      | none =>
          simp only [step, isNew, Option.some.injEq] at stepped
          subst stepped
          exact managed.begin isNew
  | advance token fault =>
      cases found : before.uploads.find token with
      | none => simp [step, found] at stepped
      | some upload =>
          simp only [step, found, Option.map_eq_some_iff] at stepped
          rcases stepped with ⟨next, isNext, rfl⟩
          exact managed.frame found (frame_advance isNext)
  | appendStageChunk token chunk fault =>
      simp only [step] at stepped
      split at stepped
      · rename_i resolved file appended broken found
        split at stepped
        · cases stepped
          exact managed
        · cases stepped
          exact managed.frame found (frame_appendChunk rfl)
      · cases stepped
        exact managed
  | finalizeStage token =>
      simp only [step] at stepped
      split at stepped
      · rename_i resolved file appended broken found
        cases stepped
        have consumed : Managed env
            { before.update token before.disk
                ⟨resolved, .flush file, appended, broken⟩ with
              consumed := token :: before.consumed } :=
          managed.consume found id trivial
        exact consumed
      · cases stepped
        exact managed
  | abortStage token =>
      simp only [step] at stepped
      split at stepped
      · rename_i resolved file appended broken found
        cases stepped
        have consumed : Managed env
            { before.update token before.disk
                ⟨resolved, .removeFile, appended, broken⟩ with
              consumed := token :: before.consumed } :=
          managed.consume found id trivial
        exact consumed
      · cases stepped
        exact managed

theorem managed_empty : Managed env Staging.empty := by
  refine ⟨?_, ?_, List.nodup_nil, ?_⟩
  · intro token upload found
    have nothing : Staging.empty.uploads.find token = none := Table.find_empty
    rw [nothing] at found
    cases found
  · intro path named
    exact absurd Table.find_empty named
  · intro token member
    exact absurd member List.not_mem_nil

theorem sound_empty : Sound Staging.empty := by
  have noUpload : ∀ token, Staging.empty.uploads.find token = none :=
    fun _ => Table.find_empty
  have noFile : ∀ path, Staging.empty.disk.names.find path = none :=
    fun _ => Table.find_empty
  refine ⟨⟨?_, ?_⟩, ?_, ?_, ?_⟩
  · intro path inode named
    rw [noFile path] at named
    cases named
  · intro path other inode named
    rw [noFile path] at named
    cases named
  · intro token upload found
    rw [noUpload token] at found
    cases found
  · intro token other upload otherUpload found
    rw [noUpload token] at found
    cases found
  · intro path inode named
    rw [noFile path] at named
    cases named

end Runs

/-! ## Isolation -/

/-- The call has ended without a file to show for it. -/
def Phase.Unsuccessful : Phase → Prop
  | .lost _ | .aborted | .failed _ => True
  | _ => False

structure Isolated (staging : Staging) : Prop where
  /-- A finalized session's file holds what was appended to it. -/
  finalized : ∀ token upload staged,
    staging.uploads.find token = some upload →
      upload.phase = .finalized staged →
        staging.disk.read upload.path = some upload.appended
  /-- So does that of an open one whose writes have not failed. -/
  opened : ∀ token upload file,
    staging.uploads.find token = some upload →
      upload.phase = .opened file → upload.broken = false →
        file.pending = none →
          staging.disk.read upload.path = some upload.appended
  staged : ∀ token upload staged bytes,
    staging.uploads.find token = some upload →
      upload.phase = .staged staged bytes →
        staging.disk.read upload.path = some bytes
  /-- Every file belongs to one call, and that call has neither been aborted
  nor failed. -/
  owned : ∀ path, staging.disk.names.find path ≠ none →
    ∃ token upload, staging.uploads.find token = some upload ∧
      upload.path = path ∧ ¬ upload.phase.Unsuccessful ∧
      ∀ other otherUpload, staging.uploads.find other = some otherUpload →
        otherUpload.phase.Claims → otherUpload.path = path → other = token

theorem Sound.isolated {staging : Staging} (sound : Sound staging) :
    Isolated staging := by
  constructor
  · intro token upload staged found isPhase
    have keeps := sound.keeps token upload found
    unfold Upload.Keeps at keeps
    rw [isPhase] at keeps
    exact keeps
  · intro token upload file found isPhase unbroken settled
    have keeps := sound.keeps token upload found
    unfold Upload.Keeps at keeps
    rw [isPhase] at keeps
    exact Upload.Holds.read keeps unbroken settled
  · intro token upload staged bytes found isPhase
    have keeps := sound.keeps token upload found
    unfold Upload.Keeps at keeps
    rw [isPhase] at keeps
    exact keeps
  · intro path named
    rcases Option.ne_none_iff_exists'.mp named with ⟨inode, isInode⟩
    rcases sound.owned path inode isInode with
      ⟨token, upload, found, claims, isPath⟩
    refine ⟨token, upload, found, isPath, ?_, ?_⟩
    · have keeps := sound.keeps token upload found
      unfold Upload.Keeps at keeps
      intro ended
      cases isPhase : upload.phase with
      | lost message =>
          rw [isPhase] at keeps
          exact keeps
      | aborted =>
          rw [isPhase] at claims
          exact claims
      | failed message =>
          rw [isPhase] at claims
          exact claims
      | _ =>
          rw [isPhase] at ended
          exact ended
    · intro other otherUpload isOther otherClaims otherPath
      exact sound.apart other token otherUpload upload isOther found
        otherClaims claims (otherPath.trans isPath.symm)

/-- In any interleaving the files are below the staging root and a handle is
consumed at most once; where no step is disturbed, the sessions are isolated. -/
theorem isolated_of_undisturbed {env : StagingEnv} {actions : List Action}
    {staging : Staging}
    (ran : execute (step env) Staging.empty actions = some staging) :
    (∀ path, staging.disk.names.find path ≠ none →
      StrictlyBelow (stagingRoot env).path path) ∧
    staging.consumed.Nodup ∧
    (Guarded (step env) (Undisturbed env) Staging.empty actions →
      Isolated staging) := by
  have any := guarded_anyAction (step env) Staging.empty actions
  have managed : Managed env staging :=
    (Run.ofExecute any ran).preserves managed_empty
      fun _ _ _ managed _ stepped => managed_step managed stepped
  refine ⟨?_, managed.once, ?_⟩
  · intro path named
    rcases managed.files path named with ⟨scopeId, dataName, isManaged⟩
    rw [isManaged]
    exact managedPath_below env scopeId dataName
  · intro undisturbed
    have sound : Sound staging :=
      (Run.ofExecute undisturbed ran).preserves sound_empty
        fun _ _ _ sound here stepped => sound_step sound here stepped
    exact sound.isolated

namespace Sample

def notePath : PathBuf :=
  PathBuf.fromText "/cache/mobile_inbound/one/note.txt"

def noteUrl : String := "file:///cache/mobile_inbound/one/note.txt"

def urls : FileUrls where
  fromFilePath path := if path = notePath then some noteUrl else none
  parse uri := if uri = noteUrl then some ⟨"file", notePath⟩ else none
  isFileUrl path uri isUri := by
    split at isUri
    · cases isUri
      decide +kernel
    · cases isUri
  noWhitespace path uri isUri := by
    split at isUri
    · cases isUri
      intro c member
      have clean : noteUrl.toList.all (fun c => !Text.isWhitespace c) = true :=
        by decide +kernel
      have notWhitespace := List.all_eq_true.mp clean c member
      rwa [Bool.not_eq_true'] at notWhitespace
    · cases isUri
  parse_fromFilePath path uri isUri := by
    split at isUri
    · rename_i isNote
      cases isUri
      rw [if_pos rfl, isNote]
    · cases isUri

def env : StagingEnv where
  cacheRoot := ⟨PathBuf.fromText "/cache", by decide +kernel,
    by decide +kernel⟩
  urls := urls

/-- A note, opened, written and handed to `finalize_stage`. -/
def written : List Action :=
  [.beginStage "note" "one" "note.txt", .advance "note" none,
    .advance "note" none, .advance "note" none,
    .appendStageChunk "note" [1, 2] none, .appendStageChunk "note" [3] none,
    .finalizeStage "note"]

def isFinalized (staging : Staging) : Bool :=
  match staging.uploads.find "note" with
  | some ⟨_, .finalized staged, [1, 2, 3], false⟩ => staged.uri == noteUrl
  | _ => false

end Sample

/-- The note is finalized. -/
theorem isolated_of_undisturbed_note : ∃ staging,
    execute (step Sample.env) Staging.empty
      (Sample.written ++ [.advance "note" none, .advance "note" none]) =
        some staging ∧
    Sample.isFinalized staging = true ∧
    (∀ path, staging.disk.names.find path ≠ none →
      StrictlyBelow (stagingRoot Sample.env).path path) ∧
    staging.consumed.Nodup ∧
    (Guarded (step Sample.env) (Undisturbed Sample.env) Staging.empty
        (Sample.written ++ [.advance "note" none, .advance "note" none]) →
      Isolated staging) := by
  cases ran : execute (step Sample.env) Staging.empty
      (Sample.written ++ [.advance "note" none, .advance "note" none]) with
  | none =>
      have runs : (execute (step Sample.env) Staging.empty (Sample.written ++
        [.advance "note" none, .advance "note" none])).isSome = true := by
        decide +kernel
      rw [ran] at runs
      cases runs
  | some staging =>
      have ended : (execute (step Sample.env) Staging.empty (Sample.written ++
          [.advance "note" none, .advance "note" none])).all
            Sample.isFinalized = true := by
        decide +kernel
      rw [ran] at ended
      exact ⟨staging, rfl, ended, isolated_of_undisturbed ran⟩

/-- The flush of a finalize fails: the session is gone, and its file stays. -/
theorem failedFinalize_leavesFile : ∃ staging,
    execute (step Sample.env) Staging.empty (Sample.written ++
      [.advance "note" (some ⟨"disk full", none, false⟩)]) = some staging ∧
    ¬ Isolated staging := by
  refine ⟨_, rfl, ?_⟩
  intro isolated
  rcases isolated.owned (managedPath Sample.env "one" "note.txt").path.path
    nofun with ⟨token, upload, isUpload, _, successful, _⟩
  have member := Table.mem_rows_iff.mpr isUpload
  cases List.mem_singleton.mp member
  exact successful trivial

end OpenClipboard.StagingSessions
