import OpenClipboard.ConfigMigration.PendingImport

/-!
# An import that is cut off

Until the marker is gone, what a boot has not copied yet is still staged, and
an import that was cut off starts again.  That fails only where the clean-up
has taken a member the apply needs and left the marker.
-/

namespace OpenClipboard.ConfigMigration

open Interruptible

/-! ## Staging -/

variable {left : Disk} {written : List (String × List UInt8)} {member : String}
  {bytes : List UInt8} {dest : LivePath} {path : LivePath} {file : SecretsFile}

section Staging

variable {formats : Formats} {order : DirectoryOrder} {disk : Disk}

structure OnlyStaging (before after : Disk) : Prop where
  marker : after.marker = before.marker
  live : after.live = before.live
  secrets : after.secrets = before.secrets

theorem meets_removeStagingDir {ε : Type} {returns : Unit → Disk → Prop}
    {fails : ε → Disk → Prop} {stops : Disk → Prop}
    (whole : ∀ left, OnlyStaging disk left →
      (∀ member, left.staging.find member = none) → returns () left)
    (partly : ∀ left, OnlyStaging disk left →
      (∀ member, left.staging.find member = disk.staging.find member ∨
        left.staging.find member = none) → stops left) :
    Meets (removeStagingDir order) disk returns fails stops := by
  apply meets_bind
  apply meets_look
  let holds (removed : List String) (left : Disk) : Prop :=
    OnlyStaging disk left ∧ ∀ member, left.staging.find member =
      if member ∈ removed then none else disk.staging.find member
  have loop : Meets (forEach (fun member => atomic (Disk.removeStaging member))
      (order.list disk.staging.keys)) disk
      (fun _ => holds (order.list disk.staging.keys)) fails stops := by
    apply meets_forEach holds
    · exact ⟨⟨rfl, rfl, rfl⟩, fun _ => rfl⟩
    · intro removed member rest left isSplit held
      apply meets_atomic
      · refine ⟨⟨held.1.marker, held.1.live, held.1.secrets⟩, ?_⟩
        intro other
        have isLeft : (left.removeStaging member).staging.find other =
            if other = member then none else left.staging.find other :=
          Table.find_remove
        rw [isLeft, held.2 other]
        by_cases same : other = member
        · simp [same]
        · simp [same]
      · apply partly left held.1
        intro other
        rw [held.2 other]
        by_cases isRemoved : other ∈ removed
        · simp [isRemoved]
        · simp [isRemoved]
  apply loop.mono
  intro _ left held
  apply whole left held.1
  intro member
  rw [held.2 member]
  by_cases listed : member ∈ order.list disk.staging.keys
  · rw [if_pos listed]
  · rw [if_neg listed]
    have absent : member ∉ disk.staging.keys := by
      intro present
      exact listed ((order.perm _).mem_iff.mpr present)
    exact AList.lookup_eq_none.mpr absent

/-- What a completed write leaves: the whole archive, and the marker. -/
structure Written (formats : Formats) (archive : BundleArchive)
    (marker : PendingImportMarker) (before after : Disk) : Prop where
  marker : after.marker = some (formats.marker.toVec marker)
  staging : ∀ member, after.staging.find member = archive.find member
  live : after.live = before.live
  secrets : after.secrets = before.secrets

/-- What a write that fails or is cut off leaves: no marker, or nothing done. -/
structure Unwritten (before after : Disk) : Prop where
  marker : after.marker = none ∨ after = before
  live : after.live = before.live
  secrets : after.secrets = before.secrets

variable {archive : BundleArchive} {marker : PendingImportMarker}

/-- The members written so far, over a directory that was empty. -/
structure PartlyWritten (archive : BundleArchive) (before : Disk)
    (written : List (String × List UInt8)) (left : Disk) : Prop where
  marker : left.marker = none
  staging : ∀ member, left.staging.find member =
    if member ∈ written.map Prod.fst then archive.find member else none
  live : left.live = before.live
  secrets : left.secrets = before.secrets

theorem PartlyWritten.unwritten
    (partly : PartlyWritten archive disk written left) :
    Unwritten disk left where
  marker := .inl partly.marker
  live := partly.live
  secrets := partly.secrets

theorem nested_of_blocks (partly : PartlyWritten archive disk written left)
    (isMember : (archive.find member).isSome = true)
    (blocked : left.blocksMember member = true) : ¬ Unnested archive := by
  have archived : ∀ key ∈ left.staging.keys, key ∈ archive.keys := by
    intro key isKey
    have found : (left.staging.find key).isSome = true :=
      AList.lookup_isSome.mpr isKey
    rw [partly.staging key] at found
    apply AList.lookup_isSome.mp
    split at found
    · exact found
    · cases found
  have isKey : member ∈ archive.keys := AList.lookup_isSome.mp isMember
  intro unnested
  rcases Bool.or_eq_true_iff.mp blocked with isDirectory | isBelow
  · obtain ⟨key, inStaging, isPrefix⟩ := List.any_eq_true.mp isDirectory
    exact unnested member isKey key (archived key inStaging)
      (List.isPrefixOf_iff_prefix.mp isPrefix)
  · obtain ⟨key, inStaging, isPrefix⟩ := List.any_eq_true.mp isBelow
    exact unnested key (archived key inStaging) member isKey
      (List.isPrefixOf_iff_prefix.mp isPrefix)

theorem meets_writeMember {entry : String × List UInt8}
    (isMember : entry ∈ inKeyOrder archive)
    (partly : PartlyWritten archive disk written left) :
    Meets (writeMember entry) left
      (fun _ => PartlyWritten archive disk (written ++ [entry]))
      (fun _ left => Unwritten disk left ∧ ¬ Unnested archive)
      (Unwritten disk) := by
  have found := mem_inKeyOrder.mp isMember
  apply meets_bind
  apply meets_look
  by_cases blocked : left.blocksMember entry.1 = true
  · rw [if_pos blocked]
    apply meets_fail
    refine ⟨partly.unwritten, ?_⟩
    exact nested_of_blocks partly (Option.isSome_of_eq_some found) blocked
  · rw [if_neg blocked]
    apply meets_writing
    · refine ⟨partly.marker, ?_, partly.live, partly.secrets⟩
      intro member
      have isPut : (left.putStaging entry.1 entry.2).staging.find member =
          if member = entry.1 then some entry.2
          else left.staging.find member :=
        Table.find_put
      rw [isPut, partly.staging member]
      by_cases same : member = entry.1
      · subst same
        simp [found]
      · simp only [same, if_false, List.map_append, List.mem_append,
          List.map_cons, List.map_nil, List.mem_singleton, or_false]
    · exact partly.unwritten
    · intro part
      exact ⟨.inl partly.marker, partly.live, partly.secrets⟩

theorem partlyWritten_all
    (partly : PartlyWritten archive disk (inKeyOrder archive) left)
    (member : String) :
    left.staging.find member = archive.find member := by
  rw [partly.staging member]
  by_cases isMember : member ∈ (inKeyOrder archive).map Prod.fst
  · rw [if_pos isMember]
  · rw [if_neg isMember]
    cases found : archive.find member with
    | none => rfl
    | some bytes =>
        have listed := mem_inKeyOrder.mpr found
        exact absurd (List.mem_map_of_mem listed) isMember

theorem meets_writeStaging :
    Meets (writeStaging formats order archive marker) disk
      (fun _ => Written formats archive marker disk)
      (fun _ left => Unwritten disk left ∧ ¬ Unnested archive)
      (Unwritten disk) := by
  have untouched : Unwritten disk disk := ⟨.inr rfl, rfl, rfl⟩
  have afterMarker : ∀ start : Disk, start.marker = none →
      start.live = disk.live → start.secrets = disk.secrets →
      Meets (do
        removeStagingDir order
        forEach writeMember (inKeyOrder archive)
        writing Disk.putMarkerTmp (formats.marker.toVec marker)
        atomic Disk.renameMarkerTmp) start
        (fun _ => Written formats archive marker disk)
        (fun _ left => Unwritten disk left ∧ ¬ Unnested archive)
        (Unwritten disk) := by
    intro start noMarker live secrets
    apply meets_bind
    apply meets_removeStagingDir
    · intro left only cleared
      have empty : PartlyWritten archive disk [] left := by
        refine ⟨only.marker.trans noMarker, ?_, only.live.trans live,
          only.secrets.trans secrets⟩
        intro member
        rw [cleared member]
        rfl
      apply meets_bind
      apply (meets_forEach _ empty ?_).mono
      · intro _ unpacked partly
        apply meets_bind
        apply meets_writing
        · apply meets_atomic
          · exact {
              marker := rfl
              staging := fun member => partlyWritten_all partly member
              live := partly.live
              secrets := partly.secrets }
          · exact ⟨.inl partly.marker, partly.live, partly.secrets⟩
        · exact partly.unwritten
        · intro part
          exact ⟨.inl partly.marker, partly.live, partly.secrets⟩
      · intro written entry rest current isSplit partly
        apply meets_writeMember _ partly
        rw [isSplit]
        exact List.mem_append_right written List.mem_cons_self
    · intro left only removed
      exact ⟨.inl (only.marker.trans noMarker), only.live.trans live,
        only.secrets.trans secrets⟩
  apply meets_bind
  apply meets_look
  by_cases hasMarker : disk.marker.isSome = true
  · rw [if_pos hasMarker]
    apply meets_bind
    apply meets_atomic
    · exact afterMarker disk.removeMarker rfl rfl rfl
    · exact untouched
  · rw [if_neg hasMarker]
    exact afterMarker disk
      (Option.not_isSome_iff_eq_none.mp hasMarker) rfl rfl

end Staging

/-! ## Applying -/

def neededMembers : List String :=
  secretsMember :: requiredMembers

/-- An import that is staged and not applied to its end: whatever is not as it
shall be is still in the staging directory, and so is what the apply needs. -/
structure Pending (formats : Formats) (archive : BundleArchive)
    (base : Contents) (disk : Disk) : Prop where
  marker : ∃ marker, disk.marker = some (formats.marker.toVec marker) ∧
    marker.schemaVer = pendingImportSchemaVer
  staged : ∀ member, disk.staging.find member = archive.find member ∨
    disk.staging.find member = none
  needed : ∀ member ∈ neededMembers,
    disk.staging.find member = archive.find member
  files : ∀ path, path.isSidecar = false →
    (∃ member, memberOf path = some member ∧
      (disk.staging.find member).isSome = true) ∨
    disk.live.find path = (installed formats archive base).file path
  secrets : ∀ key, secretOf formats archive key = none →
    disk.secrets.find key = base.secret key

section Applying

variable {formats : Formats} {archive : BundleArchive} {base : Contents}
variable {boot : Boot} {order : DirectoryOrder} {start disk : Disk}

/-- The live files at the paths that are done are the installed ones. -/
structure Copied (formats : Formats) (archive : BundleArchive)
    (base : Contents) (start : Disk) (isDone : LivePath → Prop)
    (disk : Disk) : Prop where
  pending : Pending formats archive base disk
  staging : disk.staging = start.staging
  secrets : ∀ key, disk.secrets.find key =
    (installed formats archive base).secret key
  landed : ∀ path, isDone path →
    disk.live.find path = (installed formats archive base).file path

theorem Pending.putLive (pending : Pending formats archive base disk)
    (isMember : memberOf dest = some member)
    (staged : (disk.staging.find member).isSome = true) :
    Pending formats archive base (disk.putLive dest bytes) where
  marker := pending.marker
  staged := pending.staged
  needed := pending.needed
  files := by
    intro path notSidecar
    by_cases same : path = dest
    · subst same
      exact .inl ⟨member, isMember, staged⟩
    · have unchanged : (disk.putLive dest bytes).live.find path =
          disk.live.find path :=
        Table.find_put_of_ne same
      rw [unchanged]
      exact pending.files path notSidecar
  secrets := pending.secrets

theorem Pending.removeLive (pending : Pending formats archive base disk)
    (isSidecar : path.isSidecar = true) :
    Pending formats archive base (disk.removeLive path) where
  marker := pending.marker
  staged := pending.staged
  needed := pending.needed
  files := by
    intro other notSidecar
    have different : other ≠ path := by
      intro same
      rw [same, isSidecar] at notSidecar
      cases notSidecar
    have unchanged : (disk.removeLive path).live.find other =
        disk.live.find other := by
      have isFind : (disk.removeLive path).live.find other =
          if other = path then none else disk.live.find other :=
        Table.find_remove
      rw [isFind, if_neg different]
    rw [unchanged]
    exact pending.files other notSidecar
  secrets := pending.secrets

theorem Pending.putSecret {key : String}
    (pending : Pending formats archive base disk)
    (isSecret : secretOf formats archive key = some bytes) :
    Pending formats archive base (disk.putSecret key bytes) where
  marker := pending.marker
  staged := pending.staged
  needed := pending.needed
  files := pending.files
  secrets := by
    intro other notSecret
    have different : other ≠ key := by
      intro same
      rw [same, isSecret] at notSecret
      cases notSecret
    have unchanged : (disk.putSecret key bytes).secrets.find other =
        disk.secrets.find other :=
      Table.find_put_of_ne different
    rw [unchanged]
    exact pending.secrets other notSecret

theorem memberOf_sidecar (isMember : memberOf path = some member) :
    path.isSidecar = false := by
  cases path <;> first | rfl | cases isMember

theorem installed_file (isMember : memberOf path = some member)
    (found : archive.find member = some bytes) :
    (installed formats archive base).file path = some bytes := by
  simp [installed, memberOf_sidecar isMember, isMember, found]

variable {isDone : LivePath → Prop}

theorem meets_copyMember
    (copied : Copied formats archive base start isDone disk)
    (isMember : memberOf dest = some member)
    (staged : (start.staging.find member).isSome = true) :
    Meets (copyMember member dest) disk
      (fun _ => Copied formats archive base start
        (fun path => isDone path ∨ path = dest))
      (fun _ _ => False) (Pending formats archive base) := by
  rw [← copied.staging] at staged
  obtain ⟨bytes, found⟩ := Option.isSome_iff_exists.mp staged
  apply meets_bind
  apply meets_look
  rw [found]
  apply meets_writing
  · refine ⟨copied.pending.putLive isMember staged, copied.staging,
      copied.secrets, ?_⟩
    intro path isPath
    by_cases same : path = dest
    · subst same
      have isArchived : archive.find member = some bytes := by
        rcases copied.pending.staged member with same | absent
        · rw [← same, found]
        · rw [found] at absent
          cases absent
      rw [installed_file isMember isArchived]
      exact Table.find_put_self
    · have unchanged : (disk.putLive dest bytes).live.find path =
          disk.live.find path :=
        Table.find_put_of_ne same
      rw [unchanged]
      exact copied.landed path (isPath.resolve_right same)
  · exact copied.pending
  · intro part
    exact copied.pending.putLive isMember staged

theorem meets_removeSidecar
    (copied : Copied formats archive base start isDone disk)
    (isSidecar : path.isSidecar = true) :
    Meets (atomic (Disk.removeLive path)) disk
      (fun _ => Copied formats archive base start
        (fun other => isDone other ∨ other = path))
      (fun _ _ => False : PendingImportError → Disk → Prop)
      (Pending formats archive base) := by
  apply meets_atomic
  · refine ⟨copied.pending.removeLive isSidecar, copied.staging,
      copied.secrets, ?_⟩
    intro other isOther
    have isFind : (disk.removeLive path).live.find other =
        if other = path then none else disk.live.find other :=
      Table.find_remove
    rw [isFind]
    by_cases same : other = path
    · subst same
      simp [installed, isSidecar]
    · rw [if_neg same]
      exact copied.landed other (isOther.resolve_right same)
  · exact copied.pending

theorem Copied.weaken {isOther : LivePath → Prop}
    (copied : Copied formats archive base start isDone disk)
    (implies : ∀ path, isOther path → isDone path) :
    Copied formats archive base start isOther disk where
  pending := copied.pending
  staging := copied.staging
  secrets := copied.secrets
  landed := fun path isPath => copied.landed path (implies path isPath)

theorem mem_dirMembers {directory : String} {entry : String × FileName} :
    entry ∈ dirMembers order directory disk ↔
      entry.1 = memberUnder directory entry.2 ∧
        (disk.staging.find entry.1).isSome = true := by
  have isKey : entry.1 ∈ order.list disk.staging.keys ↔
      (disk.staging.find entry.1).isSome = true := by
    rw [(order.perm _).mem_iff]
    exact (AList.lookup_isSome (a := entry.1)).symm
  rw [← isKey]
  constructor
  · intro listed
    obtain ⟨member, isListed, isEntry⟩ := List.mem_filterMap.mp listed
    obtain ⟨file, isFile, same⟩ := Option.map_eq_some_iff.mp isEntry
    subst same
    exact ⟨fileUnder_eq_some_iff.mp isFile, isListed⟩
  · rintro ⟨isMember, isListed⟩
    apply List.mem_filterMap.mpr
    refine ⟨entry.1, isListed, ?_⟩
    rw [fileUnder_eq_some_iff.mpr isMember]
    rfl

theorem meets_copyDirMembers {directory : String} {dest : FileName → LivePath}
    (copied : Copied formats archive base start isDone disk)
    (isMember : ∀ file,
      memberOf (dest file) = some (memberUnder directory file)) :
    Meets (copyDirMembers order directory dest) disk
      (fun _ => Copied formats archive base start
        (fun path => isDone path ∨ ∃ file, path = dest file ∧
          (start.staging.find (memberUnder directory file)).isSome = true))
      (fun _ _ => False) (Pending formats archive base) := by
  apply meets_bind
  apply meets_look
  let holds (finished : List (String × FileName)) : Disk → Prop :=
    Copied formats archive base start
      (fun path => isDone path ∨ ∃ entry ∈ finished, path = dest entry.2)
  have loop : Meets (forEach
      (fun entry : String × FileName => copyMember entry.1 (dest entry.2))
      (dirMembers order directory disk)) disk
      (fun _ => holds (dirMembers order directory disk))
      (fun _ _ => False) (Pending formats archive base) := by
    apply meets_forEach holds
    · apply copied.weaken
      rintro path (already | ⟨entry, isEntry, _⟩)
      · exact already
      · cases isEntry
    · intro finished entry rest left isSplit held
      have listed : entry ∈ dirMembers order directory disk := by
        rw [isSplit]
        exact List.mem_append_right finished List.mem_cons_self
      obtain ⟨isPath, staged⟩ := mem_dirMembers.mp listed
      rw [copied.staging] at staged
      apply (meets_copyMember held (by rw [isMember, isPath]) staged).mono
      intro _ next copiedNext
      apply copiedNext.weaken
      rintro path (already | ⟨other, isOther, samePath⟩)
      · exact .inl (.inl already)
      · rcases List.mem_append.mp isOther with earlier | isLast
        · exact .inl (.inr ⟨other, earlier, samePath⟩)
        · rw [List.mem_singleton.mp isLast] at samePath
          exact .inr samePath
  apply loop.mono
  intro _ left held
  apply held.weaken
  rintro path (already | ⟨file, samePath, staged⟩)
  · exact .inl already
  · refine .inr ⟨(memberUnder directory file, file), ?_, samePath⟩
    apply mem_dirMembers.mpr
    rw [copied.staging]
    exact ⟨rfl, staged⟩

theorem isStagedDirectory_eq_false
    (staged : ∀ member, disk.staging.find member = archive.find member ∨
      disk.staging.find member = none)
    (noDirectory : ∀ other ∈ archive.keys,
      ¬ (member ++ "/").toList <+: other.toList) :
    disk.isStagedDirectory member = false := by
  apply List.any_eq_false.mpr
  intro other isKey isPrefix
  have found : (disk.staging.find other).isSome = true :=
    AList.lookup_isSome.mpr isKey
  apply noDirectory other
  · apply AList.lookup_isSome.mp
    rcases staged other with same | absent
    · exact (congrArg Option.isSome same).symm.trans found
    · rw [absent] at found
      cases found
  · exact List.isPrefixOf_iff_prefix.mp isPrefix

theorem meets_copyMemberIfPresent
    (copied : Copied formats archive base start isDone disk)
    (isMember : memberOf dest = some member)
    (noDirectory : ∀ other ∈ archive.keys,
      ¬ (member ++ "/").toList <+: other.toList) :
    Meets (copyMemberIfPresent member dest) disk
      (fun _ => Copied formats archive base start
        (fun path => isDone path ∨ path = dest ∧
          (start.staging.find member).isSome = true))
      (fun _ _ => False) (Pending formats archive base) := by
  apply meets_bind
  apply meets_look
  have isExists : disk.stagedExists member =
      (start.staging.find member).isSome := by
    unfold Disk.stagedExists
    rw [isStagedDirectory_eq_false copied.pending.staged noDirectory,
      Bool.or_false, copied.staging]
  rw [isExists]
  by_cases staged : (start.staging.find member).isSome = true
  · rw [if_pos staged]
    apply (meets_copyMember copied isMember staged).mono
    intro _ left held
    apply held.weaken
    rintro path (already | ⟨samePath, _⟩)
    · exact .inl already
    · exact .inr samePath
  · rw [if_neg staged]
    apply meets_pure
    apply copied.weaken
    rintro path (already | ⟨_, isStaged⟩)
    · exact already
    · exact absurd isStaged staged

theorem meets_copyMembers (order : DirectoryOrder)
    (copied : Copied formats archive base start (fun _ => False) disk)
    (required : ∀ member ∈ requiredMembers,
      (start.staging.find member).isSome = true)
    (noDirectory : ∀ member ∈ archive.keys,
      ¬ (settingsMember ++ "/").toList <+: member.toList) :
    Meets (copyMembers order) disk
      (fun _ => Copied formats archive base start (fun _ => True))
      (fun _ _ => False) (Pending formats archive base) := by
  have hasDb := required dbMember (by simp [requiredMembers])
  have hasKeyslot := required keyslotMember (by simp [requiredMembers])
  have hasDeviceId := required deviceIdMember (by simp [requiredMembers])
  have hasSetupStatus := required setupStatusMember (by simp [requiredMembers])
  apply meets_bind
  apply (meets_copyMember copied rfl hasDb).mono
  intro _ disk copied
  apply meets_bind
  apply meets_bind
  apply (meets_removeSidecar copied rfl).mono
  intro _ disk copied
  apply (meets_removeSidecar copied rfl).mono
  intro _ disk copied
  apply meets_bind
  apply (meets_copyMember copied rfl hasKeyslot).mono
  intro _ disk copied
  apply meets_bind
  apply (meets_copyMember copied rfl hasDeviceId).mono
  intro _ disk copied
  apply meets_bind
  apply (meets_copyMember copied rfl hasSetupStatus).mono
  intro _ disk copied
  apply meets_bind
  apply (meets_copyDirMembers copied (fun _ => rfl)).mono
  intro _ disk copied
  apply meets_bind
  apply (meets_copyMemberIfPresent copied rfl noDirectory).mono
  intro _ disk copied
  apply (meets_copyDirMembers copied (fun _ => rfl)).mono
  intro _ disk copied
  refine ⟨copied.pending, copied.staging, copied.secrets, ?_⟩
  intro path _
  -- A path that was not copied has no staged member, so it is as it shall be.
  have unstaged : ∀ member, memberOf path = some member →
      path.isSidecar = false →
      ((start.staging.find member).isSome = true →
        disk.live.find path = (installed formats archive base).file path) →
      disk.live.find path = (installed formats archive base).file path := by
    intro member isMember notSidecar whenStaged
    rcases copied.pending.files path notSidecar with
      ⟨other, isOther, staged⟩ | already
    · rw [isMember] at isOther
      cases isOther
      rw [copied.staging] at staged
      exact whenStaged staged
    · exact already
  cases path with
  | db => exact copied.landed _ (by simp)
  | dbWal => exact copied.landed _ (by simp)
  | dbShm => exact copied.landed _ (by simp)
  | keyslot => exact copied.landed _ (by simp)
  | deviceId => exact copied.landed _ (by simp)
  | setupStatus => exact copied.landed _ (by simp)
  | settings =>
      apply unstaged settingsMember rfl rfl
      intro staged
      exact copied.landed _ (by simp [staged])
  | irohIdentity file =>
      apply unstaged _ rfl rfl
      intro staged
      exact copied.landed _ (by simp [staged])
  | uiState file =>
      apply unstaged _ rfl rfl
      intro staged
      exact copied.landed _ (by simp [staged])
  | dataRoot file =>
      rcases copied.pending.files (.dataRoot file) rfl with
        ⟨member, isMember, _⟩ | already
      · cases isMember
      · exact already

/-- Where setting the secrets ends: at the last, unless one does not decode or
is refused. -/
structure SecretsWritten (formats : Formats) (archive : BundleArchive)
    (base : Contents) (boot : Boot) (entries : List (String × String))
    (start : Disk) (landed : Bool) (left : Disk) : Prop where
  pending : Pending formats archive base left
  staging : left.staging = start.staging
  secrets : landed = true → ∀ key, left.secrets.find key =
    (installed formats archive base).secret key
  landed_iff : landed = true ↔ ∀ entry ∈ entries,
    (formats.base64.decode entry.2).isSome = true ∧
      boot.refuses entry.1 = false

theorem meets_writeSecrets (boot : Boot) {entries : List (String × String)}
    (isFile : secretsFileOf formats archive = some file)
    (pending : Pending formats archive base disk)
    (isStaging : disk.staging = start.staging)
    (listed : ∀ entry ∈ entries, file.secrets.find entry.1 = some entry.2)
    (others : ∀ key, key ∉ entries.map Prod.fst →
      disk.secrets.find key = (installed formats archive base).secret key) :
    Meets (writeSecrets formats boot entries) disk
      (SecretsWritten formats archive base boot entries start)
      (fun _ _ => False) (Pending formats archive base) := by
  induction entries generalizing disk with
  | nil =>
      apply meets_pure
      refine ⟨pending, isStaging, ?_, ?_⟩
      · exact fun _ key => others key List.not_mem_nil
      · simp
  | cons entry rest inductionHypothesis =>
      obtain ⟨key, b64⟩ := entry
      have isListed : file.secrets.find key = some b64 :=
        listed (key, b64) List.mem_cons_self
      have stopsHere : ¬ ((formats.base64.decode b64).isSome = true ∧
            boot.refuses key = false) →
          Meets (pure false : Interruptible Disk PendingImportError Bool) disk
            (SecretsWritten formats archive base boot ((key, b64) :: rest)
              start)
            (fun _ _ => False) (Pending formats archive base) := by
        intro fails
        apply meets_pure
        refine ⟨pending, isStaging, by simp, ?_⟩
        constructor
        · intro impossible
          cases impossible
        · intro all
          exact absurd (all (key, b64) List.mem_cons_self) fails
      unfold writeSecrets
      cases decoded : formats.base64.decode b64 with
      | none =>
          simp only [decodeSecretValue, decoded]
          apply stopsHere
          simp [decoded]
      | some bytes =>
          simp only [decodeSecretValue, decoded]
          by_cases refused : boot.refuses key = true
          · rw [if_pos refused]
            apply stopsHere
            simp [refused]
          · rw [if_neg refused]
            have isSecret : secretOf formats archive key = some bytes := by
              simp [secretOf, isFile, isListed, decoded]
            have restListed : ∀ other ∈ rest,
                file.secrets.find other.1 = some other.2 :=
              fun other inRest => listed other (List.mem_cons_of_mem _ inRest)
            have restOthers : ∀ other, other ∉ rest.map Prod.fst →
                (disk.putSecret key bytes).secrets.find other =
                  (installed formats archive base).secret other := by
              intro other notInRest
              have isPut : (disk.putSecret key bytes).secrets.find other =
                  if other = key then some bytes
                  else disk.secrets.find other :=
                Table.find_put
              rw [isPut]
              by_cases same : other = key
              · subst same
                simp [installed, isSecret]
              · rw [if_neg same]
                apply others
                simp only [List.map_cons, List.mem_cons, not_or]
                exact ⟨same, notInRest⟩
            apply meets_bind
            apply meets_atomic
            · apply (inductionHypothesis (pending.putSecret isSecret)
                isStaging restListed restOthers).mono
              intro landed left written
              refine ⟨written.pending, written.staging, written.secrets, ?_⟩
              rw [written.landed_iff, List.forall_mem_cons, decoded]
              simp [refused]
            · exact pending

/-- The import ran to its end: the marker is gone and everything is as it shall
be. -/
structure Applied (formats : Formats) (archive : BundleArchive)
    (base : Contents) (disk : Disk) : Prop where
  marker : disk.marker = none
  contents : disk.contents = installed formats archive base

theorem contents_eq_installed
    (copied : Copied formats archive base start (fun _ => True) disk) :
    disk.contents = installed formats archive base := by
  apply Contents.ext
  · exact funext fun path => copied.landed path trivial
  · exact funext copied.secrets

/-- What a boot that is cut off leaves: the marker, and an import that is
pending still unless a member that the apply needs is gone. -/
structure CutOff (formats : Formats) (archive : BundleArchive)
    (base : Contents) (before left : Disk) : Prop where
  marker : left.marker.isSome = true
  pending : (∀ member ∈ neededMembers,
      left.staging.find member = before.staging.find member) →
    Pending formats archive base left

theorem Pending.cutOff {before : Disk}
    (pending : Pending formats archive base disk) :
    CutOff formats archive base before disk where
  marker := by
    obtain ⟨marker, isMarker, _⟩ := pending.marker
    rw [isMarker]
    rfl
  pending := fun _ => pending

theorem meets_cleanUp
    (copied : Copied formats archive base start (fun _ => True) disk) :
    Meets (do removeStagingDir order; atomic Disk.removeMarker) disk
      (fun _ => Applied formats archive base)
      (fun _ _ => False : PendingImportError → Disk → Prop)
      (CutOff formats archive base start) := by
  have isInstalled := contents_eq_installed copied
  have cutOff : ∀ left, OnlyStaging disk left →
      (∀ member, left.staging.find member = disk.staging.find member ∨
        left.staging.find member = none) →
      CutOff formats archive base start left := by
    intro left only removed
    constructor
    · rw [only.marker]
      have whole : CutOff formats archive base start disk :=
        copied.pending.cutOff
      exact whole.marker
    intro needed
    refine ⟨?_, ?_, ?_, ?_, ?_⟩
    · rw [only.marker]
      exact copied.pending.marker
    · intro member
      rcases removed member with same | gone
      · rw [same]
        exact copied.pending.staged member
      · exact .inr gone
    · intro member isNeeded
      rw [needed member isNeeded, ← copied.staging]
      exact copied.pending.needed member isNeeded
    · intro path _
      rw [only.live]
      exact .inr (copied.landed path trivial)
    · rw [only.secrets]
      exact copied.pending.secrets
  apply meets_bind
  apply meets_removeStagingDir
  · intro left only cleared
    apply meets_atomic
    · refine ⟨rfl, ?_⟩
      rw [← isInstalled]
      unfold Disk.contents Disk.removeMarker
      rw [only.live, only.secrets]
    · exact cutOff left only fun member => .inr (cleared member)
  · exact cutOff

theorem meets_apply_of_secrets (boot : Boot) {returns : Unit → Disk → Prop}
    {fails : PendingImportError → Disk → Prop} {stops : Disk → Prop}
    (isFile : secretsFileOf formats archive = some file)
    (pending : Pending formats archive base disk)
    (cut : ∀ left, Pending formats archive base left → stops left)
    (onward : ∀ landed left,
      SecretsWritten formats archive base boot (inKeyOrder file.secrets) disk
        landed left →
      Meets (if landed then do
          copyMembers boot.order
          removeStagingDir boot.order
          atomic Disk.removeMarker
        else pure ()) left returns fails stops) :
    Meets (applyPendingImport formats boot) disk returns fails stops := by
  obtain ⟨marker, isMarker, isCurrent⟩ := pending.marker
  have isRead : readSecrets formats disk = .ok file := by
    obtain ⟨bytes, found, parsed⟩ := Option.bind_eq_some_iff.mp isFile
    have staged := pending.needed secretsMember (by simp [neededMembers])
    simp only [readSecrets, staged, found, parsed]
  have listed : ∀ entry ∈ inKeyOrder file.secrets,
      file.secrets.find entry.1 = some entry.2 :=
    fun entry isEntry => mem_inKeyOrder.mp isEntry
  have others : ∀ key, key ∉ (inKeyOrder file.secrets).map Prod.fst →
      disk.secrets.find key = (installed formats archive base).secret key := by
    intro key notSecret
    have noSecret : secretOf formats archive key = none := by
      have absent : file.secrets.find key = none := by
        cases found : file.secrets.find key with
        | none => rfl
        | some b64 =>
            have isListed := mem_inKeyOrder.mpr found
            exact absurd (List.mem_map_of_mem isListed) notSecret
      simp [secretOf, isFile, absent]
    rw [pending.secrets key noSecret]
    simp [installed, noSecret]
  have secretsWritten :=
    meets_writeSecrets boot isFile pending rfl listed others
  apply meets_bind
  apply meets_look
  simp only [isMarker, formats.marker.fromSlice_toVec, isCurrent, isRead,
    ne_eq, not_true_eq_false, if_false]
  apply meets_bind
  exact (secretsWritten.ofUnfailing cut).mono onward

theorem decodes_iff (isFile : secretsFileOf formats archive = some file) :
    Decodes formats archive ↔ ∀ entry ∈ inKeyOrder file.secrets,
      (formats.base64.decode entry.2).isSome = true := by
  constructor
  · intro decodes entry isEntry
    exact decodes file entry.1 entry.2 isFile (mem_inKeyOrder.mp isEntry)
  · intro all other key b64 isOther found
    rw [isFile] at isOther
    cases isOther
    exact all (key, b64) (mem_inKeyOrder.mpr found)

theorem SecretsWritten.copied {landed : Bool}
    (written : SecretsWritten formats archive base boot
      (inKeyOrder file.secrets) disk landed left) (isLanded : landed = true) :
    Copied formats archive base disk (fun _ => False) left where
  pending := written.pending
  staging := written.staging
  secrets := written.secrets isLanded
  landed := fun _ impossible => impossible.elim

theorem meets_applyPendingImport (boot : Boot)
    (applicable : Applicable formats archive)
    (pending : Pending formats archive base disk) :
    Meets (applyPendingImport formats boot) disk
      (fun _ left =>
        (Decodes formats archive ∧ Applied formats archive base left) ∨
        (Pending formats archive base left ∧
          (Decodes formats archive → ∃ key, boot.refuses key = true)))
      (fun _ _ => False) (CutOff formats archive base disk) := by
  obtain ⟨file, isFile⟩ := applicable.parses
  apply meets_apply_of_secrets boot isFile pending
  · exact fun left stillPending => stillPending.cutOff
  intro landed left written
  cases landed with
  | false =>
      apply meets_pure
      refine .inr ⟨written.pending, ?_⟩
      intro decodes
      by_contra noRefusal
      have all : ∀ entry ∈ inKeyOrder file.secrets,
          (formats.base64.decode entry.2).isSome = true ∧
            boot.refuses entry.1 = false := by
        intro entry isEntry
        refine ⟨(decodes_iff isFile).mp decodes entry isEntry, ?_⟩
        apply Bool.eq_false_of_not_eq_true
        exact fun refused => noRefusal ⟨entry.1, refused⟩
      exact Bool.false_ne_true (written.landed_iff.mpr all)
  | true =>
      have decodes : Decodes formats archive := by
        apply (decodes_iff isFile).mpr
        intro entry isEntry
        exact (written.landed_iff.mp rfl entry isEntry).1
      have required : ∀ member ∈ requiredMembers,
          (disk.staging.find member).isSome = true := by
        intro member isRequired
        rw [pending.needed member (List.mem_cons_of_mem _ isRequired)]
        exact applicable.required decodes member isRequired
      have membersCopied := meets_copyMembers boot.order (written.copied rfl)
        required (applicable.settings decodes)
      apply meets_bind
      refine (membersCopied.ofUnfailing ?_).mono ?_
      · exact fun left stillPending => stillPending.cutOff
      intro _ copiedAll allCopied
      exact (meets_cleanUp allCopied).mono
        fun _ _ applied => .inl ⟨decodes, applied⟩

theorem meets_apply_of_noSetupStatus (boot : Boot)
    (isFile : secretsFileOf formats archive = some file)
    (pending : Pending formats archive base disk)
    (decodes : Decodes formats archive)
    (accepts : ∀ key, boot.refuses key = false)
    (present : ∀ member ∈ [dbMember, keyslotMember, deviceIdMember],
      (disk.staging.find member).isSome = true)
    (missing : disk.staging.find setupStatusMember = none) :
    Meets (applyPendingImport formats boot) disk (fun _ _ => False)
      (fun error _ => error = .copyMember) (fun _ => True) := by
  apply meets_apply_of_secrets boot isFile pending
  · exact fun _ _ => trivial
  intro landed left written
  have isLanded : landed = true := by
    apply written.landed_iff.mpr
    intro entry isEntry
    exact ⟨(decodes_iff isFile).mp decodes entry isEntry, accepts entry.1⟩
  have copied := written.copied isLanded
  have hasDb := present dbMember (by simp)
  have hasKeyslot := present keyslotMember (by simp)
  have hasDeviceId := present deviceIdMember (by simp)
  have anywhere : ∀ left, Pending formats archive base left → True :=
    fun _ _ => trivial
  rw [if_pos isLanded]
  apply meets_bind
  apply meets_bind
  apply ((meets_copyMember copied rfl hasDb).ofUnfailing anywhere).mono
  intro _ disk copied
  apply meets_bind
  apply meets_bind
  apply ((meets_removeSidecar copied rfl).ofUnfailing anywhere).mono
  intro _ disk copied
  apply ((meets_removeSidecar copied rfl).ofUnfailing anywhere).mono
  intro _ disk copied
  apply meets_bind
  apply ((meets_copyMember copied rfl hasKeyslot).ofUnfailing anywhere).mono
  intro _ disk copied
  apply meets_bind
  apply ((meets_copyMember copied rfl hasDeviceId).ofUnfailing anywhere).mono
  intro _ disk copied
  apply meets_bind
  apply meets_bind
  apply meets_look
  rw [copied.staging, missing]
  exact meets_fail rfl

end Applying

end OpenClipboard.ConfigMigration
