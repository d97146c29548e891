import OpenClipboard.ConfigMigration.Export
import OpenClipboard.Library.PartialMap

/-!
# What an exported bundle holds

A successful export read every file it was asked for, and the archive it seals
has them under their members.
-/

namespace OpenClipboard.ConfigMigration

open Pairing PartialMap

/-- What the export read is what is there. -/
structure Collects (env : ExportEnv) (disk : Disk) (collected : Collected) :
    Prop where
  db : env.snapshot = .ok collected.db
  kek : disk.secrets.find (profileKekKey env.profileId) = some collected.kek
  irohIdentity : ∀ entry, entry ∈ collected.irohIdentity ↔
    ∃ file, entry.1 = memberUnder irohIdentityPrefix file ∧
      disk.live.find (.irohIdentity file) = some entry.2
  keyslot : disk.live.find .keyslot = some collected.keyslot
  deviceId : disk.live.find .deviceId = some collected.deviceId
  setupStatus : disk.live.find .setupStatus = collected.setupStatus
  settings : disk.live.find .settings = collected.settings
  uiState : collected.uiState = uiStateFiles.map fun file =>
    (memberUnder uiStatePrefix file, disk.live.find (.dataRoot file))

section Inversion

variable {libraries : Libraries} {env : ExportEnv} {disk : Disk}

theorem readOptional_eq_ok {path : LivePath} {bytes : Option (List UInt8)}
    (read : readOptional env disk path = .ok bytes) :
    disk.live.find path = bytes := by
  unfold readOptional at read
  split at read
  · cases read
  · cases read
    rfl

theorem readRequired_eq_ok {path : LivePath} {bytes : List UInt8}
    (read : readRequired env disk path = .ok bytes) :
    disk.live.find path = some bytes := by
  unfold readRequired at read
  split at read
  · rename_i found
    cases read
    exact found
  · cases read

theorem mem_irohIdentityFiles {file : FileName} :
    file ∈ irohIdentityFiles disk ↔
      (disk.live.find (.irohIdentity file)).isSome = true := by
  constructor
  · intro listed
    obtain ⟨⟨path, bytes⟩, isRow, isFile⟩ := List.mem_filterMap.mp listed
    have found := Table.mem_rows_iff.mp isRow
    cases path with
    | irohIdentity other =>
        cases isFile
        rw [found]
        rfl
    | _ => cases isFile
  · intro present
    obtain ⟨bytes, found⟩ := Option.isSome_iff_exists.mp present
    exact List.mem_filterMap.mpr
      ⟨(.irohIdentity file, bytes), Table.mem_rows_iff.mpr found, rfl⟩

theorem mapM_eq_ok {α β ε : Type} {f : α → Except ε β} {items : List α}
    {results : List β} (read : items.mapM f = .ok results) :
    (∀ result, result ∈ results ↔ ∃ item ∈ items, f item = .ok result) ∧
      ∀ item ∈ items, ∃ result, f item = .ok result := by
  induction items generalizing results with
  | nil =>
      cases read
      simp
  | cons item rest inductionHypothesis =>
      rw [List.mapM_cons] at read
      obtain ⟨first, isFirst, others⟩ := bind_eq_ok_iff.mp read
      obtain ⟨later, isLater, isResults⟩ := bind_eq_ok_iff.mp others
      cases isResults
      obtain ⟨members, each⟩ := inductionHypothesis isLater
      constructor
      · intro result
        rw [List.mem_cons, members, List.exists_mem_cons_iff, isFirst,
          Except.ok.injEq, eq_comm]
      · rw [List.forall_mem_cons]
        exact ⟨⟨first, isFirst⟩, each⟩

theorem collectIrohIdentityFiles_eq_ok {files : List (String × List UInt8)}
    (read : collectIrohIdentityFiles env disk = .ok files)
    (entry : String × List UInt8) :
    entry ∈ files ↔ ∃ file, entry.1 = memberUnder irohIdentityPrefix file ∧
      disk.live.find (.irohIdentity file) = some entry.2 := by
  obtain ⟨members, each⟩ := mapM_eq_ok read
  rw [members entry]
  constructor
  · rintro ⟨file, _, isEntry⟩
    obtain ⟨bytes, isRead, same⟩ := map_eq_ok_iff.mp isEntry
    subst same
    exact ⟨file, rfl, readRequired_eq_ok isRead⟩
  · rintro ⟨file, isMember, found⟩
    have listed : file ∈ irohIdentityFiles disk :=
      mem_irohIdentityFiles.mpr (Option.isSome_of_eq_some found)
    obtain ⟨result, isResult⟩ := each file listed
    obtain ⟨bytes, isRead, isPair⟩ := map_eq_ok_iff.mp isResult
    have found' := readRequired_eq_ok isRead
    rw [found] at found'
    refine ⟨file, listed, ?_⟩
    rw [isResult, ← isPair, Except.ok.injEq]
    exact Prod.ext isMember.symm (Option.some.inj found').symm

theorem collectUiState_eq_ok {files : List (String × Option (List UInt8))}
    (read : collectUiState env disk = .ok files) :
    files = uiStateFiles.map fun file =>
      (memberUnder uiStatePrefix file, disk.live.find (.dataRoot file)) := by
  unfold collectUiState at read
  generalize uiStateFiles = names at read ⊢
  induction names generalizing files with
  | nil =>
      cases read
      rfl
  | cons name rest inductionHypothesis =>
      rw [List.mapM_cons] at read
      obtain ⟨first, isFirst, others⟩ := bind_eq_ok_iff.mp read
      obtain ⟨later, isLater, isFiles⟩ := bind_eq_ok_iff.mp others
      cases isFiles
      obtain ⟨bytes, isRead, same⟩ := map_eq_ok_iff.mp isFirst
      rw [← same, ← readOptional_eq_ok isRead, inductionHypothesis isLater]
      rfl

theorem mapError_eq_ok {α ε δ : Type} {result : Except ε α} {f : ε → δ}
    {value : α} (isOk : result.mapError f = .ok value) : result = .ok value := by
  cases result with
  | error error => cases isOk
  | ok found =>
      cases isOk
      rfl

theorem collectSecrets_eq_ok {kek : Option (List UInt8)}
    (read : collectSecrets env disk = .ok kek) :
    disk.secrets.find (profileKekKey env.profileId) = kek := by
  unfold collectSecrets at read
  split at read
  · cases read
  · cases read
    rfl

theorem requireKek_eq_ok {kek : Option (List UInt8)} {bytes : List UInt8}
    {key : MasterKey} (read : requireKek kek = .ok (bytes, key)) :
    kek = some bytes ∧ masterKeyFromBytes bytes = some key := by
  cases kek with
  | none => cases read
  | some found =>
      cases isKey : masterKeyFromBytes found with
      | none =>
          simp only [requireKek, isKey] at read
          cases read
      | some master =>
          simp only [requireKek, isKey] at read
          cases read
          exact ⟨rfl, isKey⟩

theorem sealArchive_eq_ok {key : MasterKey} {salt : Salt} {kdf : Argon2Params}
    {archive : BundleArchive} {bundle : List UInt8}
    (isSealed : sealArchive libraries env key salt kdf archive = .ok bundle) :
    ∃ tarBytes nonce, toTarBytes libraries.tar archive = .ok tarBytes ∧
      bundle = sealWithKey libraries.crypto key salt kdf nonce tarBytes := by
  unfold sealArchive at isSealed
  split at isSealed
  · cases isSealed
  · cases isSealed
  · rename_i tarBytes nonce isTar _
    cases isSealed
    exact ⟨tarBytes, nonce, isTar, rfl⟩

structure Exports (libraries : Libraries) (env : ExportEnv) (disk : Disk)
    (bundle : List UInt8) where
  collected : Collected
  key : MasterKey
  salt : Salt
  kdf : Argon2Params
  fingerprint : String
  tarBytes : List UInt8
  nonce : Nonce
  collects : Collects env disk collected
  isKey : masterKeyFromBytes collected.kek = some key
  isKdf : parseKeyslotKdf libraries collected.keyslot = .ok (salt, kdf)
  isTar : toTarBytes libraries.tar (addManifest libraries env fingerprint
    (collected.members libraries env)) = .ok tarBytes
  isBundle : bundle = sealWithKey libraries.crypto key salt kdf nonce tarBytes

theorem exports_of_exportBundle {bundle : List UInt8}
    (exported : exportBundle libraries env disk = .ok bundle) :
    Nonempty (Exports libraries env disk bundle) := by
  unfold exportBundle at exported
  obtain ⟨db, isDb, exported⟩ := bind_eq_ok_iff.mp exported
  obtain ⟨kek, isKek, exported⟩ := bind_eq_ok_iff.mp exported
  obtain ⟨⟨kekBytes, key⟩, isKey, exported⟩ := bind_eq_ok_iff.mp exported
  obtain ⟨irohIdentity, isIdentity, exported⟩ := bind_eq_ok_iff.mp exported
  obtain ⟨keyslot, isKeyslot, exported⟩ := bind_eq_ok_iff.mp exported
  obtain ⟨⟨salt, kdf⟩, isKdf, exported⟩ := bind_eq_ok_iff.mp exported
  obtain ⟨deviceId, isDeviceId, exported⟩ := bind_eq_ok_iff.mp exported
  obtain ⟨setupStatus, isSetupStatus, exported⟩ := bind_eq_ok_iff.mp exported
  obtain ⟨settings, isSettings, exported⟩ := bind_eq_ok_iff.mp exported
  obtain ⟨fingerprint, isFingerprint, exported⟩ := bind_eq_ok_iff.mp exported
  obtain ⟨uiState, isUiState, exported⟩ := bind_eq_ok_iff.mp exported
  obtain ⟨tarBytes, nonce, isTar, isBundle⟩ := sealArchive_eq_ok exported
  obtain ⟨isSome, isMaster⟩ := requireKek_eq_ok isKey
  exact ⟨{
    collected := ⟨db, kekBytes, irohIdentity, keyslot, deviceId, setupStatus,
      settings, uiState⟩
    key := key
    salt := salt
    kdf := kdf
    fingerprint := fingerprint
    tarBytes := tarBytes
    nonce := nonce
    collects := {
      db := mapError_eq_ok isDb
      kek := (collectSecrets_eq_ok isKek).trans isSome
      irohIdentity := collectIrohIdentityFiles_eq_ok isIdentity
      keyslot := readRequired_eq_ok isKeyslot
      deviceId := readRequired_eq_ok isDeviceId
      setupStatus := readOptional_eq_ok isSetupStatus
      settings := readOptional_eq_ok isSettings
      uiState := collectUiState_eq_ok isUiState }
    isKey := isMaster
    isKdf := isKdf
    isTar := isTar
    isBundle := isBundle }⟩

end Inversion

/-! ## The members of the archive -/

section Members

variable {libraries : Libraries} {env : ExportEnv} {disk : Disk}
variable {collected : Collected} {archive : BundleArchive} {member : String}

theorem find_insertOptional {key : String} {value : Option (List UInt8)} :
    (insertOptional archive (key, value)).find member =
      if member = key then value.or (archive.find member)
      else archive.find member := by
  cases value with
  | none => simp [insertOptional]
  | some bytes => simp [insertOptional, Table.find_put]

theorem find_putIdentity (collects : Collects env disk collected) :
    (archive.putEach Prod.fst Prod.snd collected.irohIdentity).find member =
      ((fileUnder irohIdentityPrefix member).bind fun file =>
        disk.live.find (.irohIdentity file)).or (archive.find member) := by
  cases isFile : fileUnder irohIdentityPrefix member with
  | none =>
      have absent : member ∉ collected.irohIdentity.map Prod.fst := by
        intro listed
        obtain ⟨entry, isEntry, same⟩ := List.mem_map.mp listed
        obtain ⟨file, isMember, _⟩ := (collects.irohIdentity entry).mp isEntry
        rw [← same, fileUnder_eq_some_iff.mpr isMember] at isFile
        cases isFile
      rw [Table.find_putEach_of_not_mem absent]
      rfl
  | some file =>
      have isMember := fileUnder_eq_some_iff.mp isFile
      rw [Option.bind_some]
      cases found : disk.live.find (.irohIdentity file) with
      | none =>
          have absent : member ∉ collected.irohIdentity.map Prod.fst := by
            intro listed
            obtain ⟨entry, isEntry, same⟩ := List.mem_map.mp listed
            obtain ⟨other, isOther, present⟩ :=
              (collects.irohIdentity entry).mp isEntry
            rw [same, isMember] at isOther
            rw [← memberUnder_injective isOther, found] at present
            cases present
          rw [Table.find_putEach_of_not_mem absent]
          rfl
      | some bytes =>
          have listed : (member, bytes) ∈ collected.irohIdentity :=
            (collects.irohIdentity _).mpr ⟨file, isMember, found⟩
          rw [find_putEach_of_agree (List.mem_map_of_mem listed)]
          · rfl
          · intro entry isEntry sameKey
            obtain ⟨other, isOther, present⟩ :=
              (collects.irohIdentity entry).mp isEntry
            rw [sameKey, isMember] at isOther
            rw [← memberUnder_injective isOther, found] at present
            exact (Option.some.inj present).symm

def carriedSecrets (libraries : Libraries) (env : ExportEnv)
    (collected : Collected) : SecretsFile :=
  SecretsFile.fromRaw libraries.formats.base64
    [(profileKekKey env.profileId, collected.kek)]

/-- What the bundle holds under a member other than the manifest. -/
def heldMember (libraries : Libraries) (env : ExportEnv) (disk : Disk)
    (collected : Collected) (member : String) : Option (List UInt8) :=
  if member = dbMember then some collected.db
  else if member = keyslotMember then some collected.keyslot
  else if member = deviceIdMember then some collected.deviceId
  else if member = setupStatusMember then collected.setupStatus
  else if member = settingsMember then collected.settings
  else if member = secretsMember then
    some (libraries.formats.secrets.toVec
      (carriedSecrets libraries env collected))
  else
    ((fileUnder uiStatePrefix member).bind fun file =>
      if file ∈ uiStateFiles then disk.live.find (.dataRoot file)
      else none).or
    ((fileUnder irohIdentityPrefix member).bind fun file =>
      disk.live.find (.irohIdentity file))

def fixedMembers : List String :=
  [dbMember, keyslotMember, deviceIdMember, setupStatusMember, settingsMember,
    secretsMember]

theorem fileUnder_fixed (isFixed : member ∈ manifestMember :: fixedMembers) :
    fileUnder uiStatePrefix member = none ∧
      fileUnder irohIdentityPrefix member = none := by
  have all : ∀ fixed ∈ manifestMember :: fixedMembers,
      fileUnder uiStatePrefix fixed = none ∧
        fileUnder irohIdentityPrefix fixed = none := by
    decide +kernel
  exact all member isFixed

theorem find_foldl_uiState (collects : Collects env disk collected) :
    (collected.uiState.foldl insertOptional archive).find member =
      ((fileUnder uiStatePrefix member).bind fun file =>
        if file ∈ uiStateFiles then disk.live.find (.dataRoot file)
        else none).or (archive.find member) := by
  rw [collects.uiState]
  generalize uiStateFiles = files
  induction files using List.reverseRecOn with
  | nil => cases fileUnder uiStatePrefix member <;> simp
  | append_singleton files last inductionHypothesis =>
      rw [List.map_append, List.foldl_append]
      simp only [List.map_cons, List.map_nil, List.foldl_cons, List.foldl_nil]
      rw [find_insertOptional, inductionHypothesis]
      by_cases isLast : member = memberUnder uiStatePrefix last
      · rw [if_pos isLast, fileUnder_eq_some_iff.mpr isLast]
        simp only [Option.bind_some, List.mem_append, List.mem_singleton,
          or_true, if_true]
        by_cases earlier : last ∈ files
        · simp only [earlier, if_true]
          cases disk.live.find (.dataRoot last) <;> simp
        · simp [earlier]
      · rw [if_neg isLast]
        cases isFile : fileUnder uiStatePrefix member with
        | none => rfl
        | some file =>
            have different : file ≠ last := by
              intro same
              rw [← same] at isLast
              exact isLast (fileUnder_eq_some_iff.mp isFile)
            simp [different]

theorem find_members (collects : Collects env disk collected) :
    (collected.members libraries env).find member =
      heldMember libraries env disk collected member := by
  unfold Collected.members
  simp only
  rw [find_foldl_uiState collects, find_putIdentity collects, Table.find_put,
    find_insertOptional, find_insertOptional, Table.find_put, Table.find_put,
    Table.find_put, Table.find_empty]
  by_cases isFixed : member ∈ fixedMembers
  · obtain ⟨noUi, noIdentity⟩ :=
      fileUnder_fixed (List.mem_cons_of_mem manifestMember isFixed)
    rw [noUi, noIdentity]
    simp only [fixedMembers, List.mem_cons, List.not_mem_nil, or_false]
      at isFixed
    rcases isFixed with rfl | rfl | rfl | rfl | rfl | rfl
    all_goals
      simp [heldMember, dbMember, keyslotMember, deviceIdMember,
        setupStatusMember, settingsMember, secretsMember, carriedSecrets]
  · simp only [fixedMembers, List.mem_cons, List.not_mem_nil, or_false, not_or]
      at isFixed
    simp [heldMember, isFixed]

theorem find_archive (collects : Collects env disk collected)
    (fingerprint : String) :
    (addManifest libraries env fingerprint
        (collected.members libraries env)).find member =
      if member = manifestMember then
        some (libraries.manifest.toVec (makeManifest env fingerprint
          (BundleArchive.memberPaths
            ((collected.members libraries env).put manifestMember
              (libraries.manifest.toVec (makeManifest env fingerprint
                (BundleArchive.memberPaths
                  (collected.members libraries env))))))))
      else heldMember libraries env disk collected member := by
  unfold addManifest
  simp only
  rw [Table.find_put, Table.find_put, find_members collects]
  by_cases isManifest : member = manifestMember
  · rw [if_pos isManifest, if_pos isManifest]
  · rw [if_neg isManifest, if_neg isManifest, if_neg isManifest]

/-- A member of a bundle: a fixed one, or a file of one of the two
directories. -/
inductive BundleMember : String → Prop where
  | fixed {member : String} (listed : member ∈ manifestMember :: fixedMembers) :
      BundleMember member
  | uiState (file : FileName) : BundleMember (memberUnder uiStatePrefix file)
  | irohIdentity (file : FileName) :
      BundleMember (memberUnder irohIdentityPrefix file)

theorem bundleMember_of_mem_keys (collects : Collects env disk collected)
    {fingerprint : String}
    (isKey : member ∈ (addManifest libraries env fingerprint
      (collected.members libraries env)).keys) :
    BundleMember member := by
  have present : ((addManifest libraries env fingerprint
      (collected.members libraries env)).find member).isSome = true :=
    AList.lookup_isSome.mpr isKey
  by_cases listed : member ∈ manifestMember :: fixedMembers
  · exact .fixed listed
  · rw [find_archive collects] at present
    simp only [fixedMembers, List.mem_cons, List.not_mem_nil, or_false, not_or]
      at listed
    simp only [heldMember, listed, if_false] at present
    cases isUi : fileUnder uiStatePrefix member with
    | some file =>
        rw [fileUnder_eq_some_iff.mp isUi]
        exact .uiState file
    | none =>
        cases isIdentity : fileUnder irohIdentityPrefix member with
        | some file =>
            rw [fileUnder_eq_some_iff.mp isIdentity]
            exact .irohIdentity file
        | none =>
            rw [isUi, isIdentity] at present
            cases present

theorem BundleMember.safe (isMember : BundleMember member) :
    SafeMember member := by
  cases isMember with
  | fixed listed =>
      have all : ∀ fixed ∈ manifestMember :: fixedMembers, SafeMember fixed := by
        decide +kernel
      exact all member listed
  | uiState file =>
      let directory : FileName :=
        ⟨"ui-state", by decide, by decide, by decide, by decide⟩
      have isStart : uiStatePrefix = directory.text ++ "/" := by decide
      exact safeMember_under isStart file
  | irohIdentity file =>
      let directory : FileName :=
        ⟨"iroh-identity", by decide, by decide, by decide, by decide⟩
      have isStart : irohIdentityPrefix = directory.text ++ "/" := by decide
      exact safeMember_under isStart file

theorem count_memberUnder (directory : String) (file : FileName) :
    (memberUnder directory file).toList.count '/' =
      directory.toList.count '/' := by
  rw [memberUnder, String.toList_append, List.count_append,
    List.count_eq_zero.mpr file.noSeparator, Nat.add_zero]

theorem BundleMember.count_le_one (isMember : BundleMember member) :
    member.toList.count '/' ≤ 1 := by
  cases isMember with
  | fixed listed =>
      have all : ∀ fixed ∈ manifestMember :: fixedMembers,
          fixed.toList.count '/' ≤ 1 := by
        decide +kernel
      exact all member listed
  | uiState file =>
      rw [count_memberUnder]
      decide +kernel
  | irohIdentity file =>
      rw [count_memberUnder]
      decide +kernel

def topLevelMembers : List String :=
  [manifestMember, settingsMember, secretsMember]

theorem BundleMember.topLevel (isMember : BundleMember member)
    (noSeparator : member.toList.count '/' = 0) :
    member ∈ topLevelMembers := by
  cases isMember with
  | fixed listed =>
      have all : ∀ fixed ∈ manifestMember :: fixedMembers,
          fixed.toList.count '/' = 0 → fixed ∈ topLevelMembers := by
        decide +kernel
      exact all member listed noSeparator
  | uiState file =>
      rw [count_memberUnder] at noSeparator
      exact absurd noSeparator (by decide +kernel)
  | irohIdentity file =>
      rw [count_memberUnder] at noSeparator
      exact absurd noSeparator (by decide +kernel)

theorem not_prefix_memberUnder {start directory : String} {file : FileName}
    (apart : ¬ start.toList <+: directory.toList)
    (apart' : ¬ directory.toList <+: start.toList) :
    ¬ start.toList <+: (memberUnder directory file).toList := by
  intro isPrefix
  have isDirectory : directory.toList <+: (memberUnder directory file).toList := by
    rw [memberUnder, String.toList_append]
    exact List.prefix_append _ _
  rcases List.prefix_or_prefix_of_prefix isPrefix isDirectory with first | second
  · exact apart first
  · exact apart' second

theorem BundleMember.not_below {directory : String}
    (isMember : BundleMember member) (topLevel : directory ∈ topLevelMembers) :
    ¬ (directory ++ "/").toList <+: member.toList := by
  cases isMember with
  | fixed listed =>
      have all : ∀ top ∈ topLevelMembers,
          ∀ fixed ∈ manifestMember :: fixedMembers,
            ¬ (top ++ "/").toList <+: fixed.toList := by
        decide +kernel
      exact all directory topLevel member listed
  | uiState file =>
      have all : ∀ top ∈ topLevelMembers,
          ¬ (top ++ "/").toList <+: uiStatePrefix.toList ∧
            ¬ uiStatePrefix.toList <+: (top ++ "/").toList := by
        decide +kernel
      exact not_prefix_memberUnder (all directory topLevel).1
        (all directory topLevel).2
  | irohIdentity file =>
      have all : ∀ top ∈ topLevelMembers,
          ¬ (top ++ "/").toList <+: irohIdentityPrefix.toList ∧
            ¬ irohIdentityPrefix.toList <+: (top ++ "/").toList := by
        decide +kernel
      exact not_prefix_memberUnder (all directory topLevel).1
        (all directory topLevel).2

theorem unnested_of_bundleMember
    (isBundle : ∀ member ∈ archive.keys, BundleMember member) :
    Unnested archive := by
  intro key isKey other isOther isPrefix
  have counted := isPrefix.sublist.count_le '/'
  rw [String.toList_append, List.count_append] at counted
  have slash : ("/" : String).toList.count '/' = 1 := by decide
  have small := (isBundle other isOther).count_le_one
  have noSeparator : key.toList.count '/' = 0 := by omega
  have topLevel := (isBundle key isKey).topLevel noSeparator
  exact (isBundle other isOther).not_below topLevel isPrefix

end Members

end OpenClipboard.ConfigMigration
