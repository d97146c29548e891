import OpenClipboard.ConfigMigration.ExportedMembers

/-!
# From one installation to another

A bundle that was exported, staged and applied leaves the members of the source
where the program reads them, within what the reader and the applier admit.
-/

namespace OpenClipboard.ConfigMigration

open Pairing Interruptible PartialMap

def exportedFile (env : ExportEnv) (source : Disk) :
    LivePath → Option (List UInt8)
  | .db => env.snapshot.toOption
  | .dbWal => none
  | .dbShm => none
  | .uiState _ => none
  | .dataRoot file =>
      if file ∈ uiStateFiles then source.live.find (.dataRoot file) else none
  | path => source.live.find path

def bootWith (order : DirectoryOrder) : Boot where
  refuses _ := false
  order := order

/-- The staging succeeds, the next boot applies the import to its end, and what
the export took from a live path is there. -/
def RoundTrips (libraries : Libraries) (env : ExportEnv) (source target : Disk)
    (passphrase bundle : List UInt8) (nowMs : Int)
    (order bootOrder : DirectoryOrder) : Prop :=
  ∃ staged, stageImport libraries passphrase bundle order nowMs target =
      .ok staged ∧
    ∃ final, applyPendingImport libraries.formats (bootWith bootOrder) staged =
        final ∧
      final.result = .ok () ∧ final.final.marker = none ∧
      ∀ path bytes, exportedFile env source path = some bytes →
        final.final.live.find path = some bytes

/-- The passphrase opens the keyslot with the KEK. -/
structure Unwraps (libraries : Libraries) (source : Disk)
    (passphrase : List UInt8) (slot : KeySlotFile) (kek : MasterKey) :
    Prop where
  keyslot : ∃ bytes, source.live.find .keyslot = some bytes ∧
    libraries.keyslotFromSlice bytes = some slot
  derives : deriveKekArgon2id libraries.crypto passphrase slot.salt slot.kdf =
    .ok kek
  opens : ∃ masterKey, unwrapMasterKey libraries.crypto kek
    slot.wrappedMasterKey = some (.ok masterKey)

/-- The keychain has the KEK of the keyslot, the reader admits the keyslot's
parameters and the size of the bundle, the setup status travels with it, and
the UI-state files are what the target has already. -/
structure Portable (env : ExportEnv) (source target : Disk)
    (bundle : List UInt8) (slot : KeySlotFile) (kek : MasterKey) : Prop where
  keychain : source.secrets.find (profileKekKey env.profileId) =
    some kek.bytes
  kdf : Argon2Params.inRange slot.kdf.params = true
  size : bundle.length ≤ headerLen + maxSealedLen
  setupStatus : (source.live.find .setupStatus).isSome = true
  uiState : ∀ file ∈ uiStateFiles, ∀ bytes,
    source.live.find (.dataRoot file) = some bytes →
      target.live.find (.dataRoot file) = some bytes

section RoundTrip

variable {libraries : Libraries} {env : ExportEnv} {source target : Disk}
variable {passphrase bundle : List UInt8} {nowMs : Int}
variable {order bootOrder : DirectoryOrder} {slot : KeySlotFile}
variable {kek : MasterKey}

def Exports.archive (exports : Exports libraries env source bundle) :
    BundleArchive :=
  addManifest libraries env exports.fingerprint
    (exports.collected.members libraries env)

theorem Exports.kdf_eq (exports : Exports libraries env source bundle)
    (unwraps : Unwraps libraries source passphrase slot kek) :
    exports.salt.bytes = slot.salt ∧ exports.kdf = slot.kdf.params := by
  obtain ⟨bytes, found, parsed⟩ := unwraps.keyslot
  have isKeyslot : exports.collected.keyslot = bytes := by
    rw [exports.collects.keyslot] at found
    exact Option.some.inj found
  have isKdf := exports.isKdf
  simp only [parseKeyslotKdf, isKeyslot, parsed] at isKdf
  split at isKdf
  · cases isKdf
  · split at isKdf
    · cases isKdf
    · rename_i salt isSalt
      have samePair := Prod.mk.inj (Except.ok.inj isKdf)
      rw [← samePair.1, ← samePair.2]
      exact ⟨Salt.ofBytes_eq_some isSalt, rfl⟩

theorem Exports.derives (exports : Exports libraries env source bundle)
    (unwraps : Unwraps libraries source passphrase slot kek) :
    deriveKey libraries.crypto passphrase exports.salt exports.kdf =
      .ok kek := by
  obtain ⟨isSalt, isKdf⟩ := exports.kdf_eq unwraps
  have derives := unwraps.derives
  unfold deriveKekArgon2id at derives
  split at derives
  · cases derives
  · unfold deriveKey
    rw [isSalt, isKdf, derives]

theorem Exports.keychain_iff (exports : Exports libraries env source bundle) :
    source.secrets.find (profileKekKey env.profileId) = some kek.bytes ↔
      kek = exports.key := by
  have isKey := exports.isKey
  unfold masterKeyFromBytes at isKey
  split at isKey
  case isFalse => cases isKey
  case isTrue sized =>
    rw [exports.collects.kek, ← Option.some.inj isKey, Option.some.injEq]
    constructor
    · intro sameBytes
      obtain ⟨bytes, isLength⟩ := kek
      simp only [sameBytes]
    · intro same
      rw [same]

theorem Exports.length_bundle (exports : Exports libraries env source bundle)
    (expands : ∀ key nonce plaintext aad, plaintext.length ≤
      (libraries.crypto.aead.encrypt key nonce plaintext aad).length) :
    headerLen + exports.tarBytes.length ≤ bundle.length := by
  have isLength := congrArg List.length exports.isBundle
  unfold sealWithKey at isLength
  simp only [List.length_append, encodeHeader_length] at isLength
  rw [isLength]
  exact Nat.add_le_add_left (expands _ _ _ _) headerLen

/-- The bundle opens to what the export sealed exactly within the reader's
limits and under its key. -/
theorem Exports.openBundle_iff (exports : Exports libraries env source bundle)
    (unwraps : Unwraps libraries source passphrase slot kek) :
    (openBundle libraries.crypto passphrase bundle = .ok exports.tarBytes ∨
      ∃ error, openBundle libraries.crypto passphrase bundle = .error error) ∧
    (openBundle libraries.crypto passphrase bundle = .ok exports.tarBytes ↔
      Argon2Params.inRange slot.kdf.params = true ∧
        bundle.length ≤ headerLen + maxSealedLen ∧ kek = exports.key) := by
  have opened : openBundle libraries.crypto passphrase bundle =
      if Argon2Params.inRange exports.kdf = false then
        .error (kdfOutOfRange exports.kdf)
      else if headerLen + maxSealedLen < bundle.length then
        .error oversizePayload
      else if kek = exports.key then .ok exports.tarBytes
      else .error .invalidOrCorrupt := by
    have isSealed := exports.isBundle
    have sealedOpens := openBundle_sealWithKey exports.key exports.nonce
      exports.tarBytes (exports.derives unwraps)
    rw [← isSealed] at sealedOpens
    exact sealedOpens
  rw [opened, (exports.kdf_eq unwraps).2]
  rw [← Nat.not_lt]
  cases inRange : Argon2Params.inRange slot.kdf.params with
  | false => simp
  | true =>
      by_cases oversize : headerLen + maxSealedLen < bundle.length
      · simp [oversize]
      · by_cases sameKey : kek = exports.key
        · simp [oversize, sameKey]
        · simp [oversize, sameKey]

theorem Exports.openArchive_eq_ok
    (exports : Exports libraries env source bundle)
    (opened : openBundle libraries.crypto passphrase bundle =
      .ok exports.tarBytes)
    (fits : exports.tarBytes.length ≤ maxArchiveBytes) :
    ∃ restored, openArchive libraries passphrase bundle = .ok restored ∧
      ∀ member, restored.find member = exports.archive.find member := by
  have safe : ∀ member ∈ exports.archive.keys, SafeMember member :=
    fun member isKey =>
      (bundleMember_of_mem_keys exports.collects isKey).safe
  obtain ⟨restored, isRestored, same⟩ :=
    fromTarBytes_toTarBytes exports.isTar safe fits
  refine ⟨restored, ?_, same⟩
  have isManifest : ∃ manifest, restored.find manifestMember =
      some (libraries.manifest.toVec manifest) ∧
      manifest.schemaVer = manifestSchemaVer := by
    rw [same, find_archive exports.collects, if_pos rfl]
    exact ⟨_, rfl, rfl⟩
  obtain ⟨manifest, isFound, isCurrent⟩ := isManifest
  unfold openArchive
  rw [opened]
  simp [Except.mapError, isRestored, bind, Except.bind, isFound,
    libraries.manifest.fromSlice_toVec, isCurrent]

theorem stageImport_eq_ok (order : DirectoryOrder) (nowMs : Int)
    (target : Disk) {archive : BundleArchive}
    (opened : openArchive libraries passphrase bundle = .ok archive)
    (unnested : Unnested archive) :
    ∃ staged marker, stageImport libraries passphrase bundle order nowMs
        target = .ok staged ∧
      Written libraries.formats archive marker target staged ∧
      marker.schemaVer = pendingImportSchemaVer := by
  have writes : Meets (writeStaging libraries.formats order archive
      (importMarker libraries.formats archive nowMs)) target
      (fun _ => Written libraries.formats archive
        (importMarker libraries.formats archive nowMs) target)
      (fun _ left => Unwritten target left ∧ ¬ Unnested archive)
      (Unwritten target) :=
    meets_writeStaging
  unfold stageImport
  rw [opened]
  simp only [bind, Except.bind]
  cases isResult : (writeStaging libraries.formats order archive
      (importMarker libraries.formats archive nowMs) target).result with
  | error error => exact absurd unnested (writes.failed error isResult).2
  | ok value => exact ⟨_, _, rfl, writes.returned value isResult, rfl⟩

/-- What the sealed archive installs at each live path. -/
theorem Exports.find_memberOf (exports : Exports libraries env source bundle)
    {path : LivePath} {member : String} (isMember : memberOf path = some member)
    (notUiState : ∀ file, path ≠ .uiState file) :
    exports.archive.find member = exportedFile env source path := by
  have collects := exports.collects
  unfold Exports.archive
  rw [find_archive collects]
  cases path with
  | db =>
      cases isMember
      simp [dbMember, manifestMember, heldMember, exportedFile, collects.db,
        Except.toOption]
  | dbWal => cases isMember
  | dbShm => cases isMember
  | keyslot =>
      cases isMember
      simp [dbMember, keyslotMember, manifestMember, heldMember, exportedFile,
        collects.keyslot]
  | deviceId =>
      cases isMember
      simp [dbMember, keyslotMember, deviceIdMember, manifestMember,
        heldMember, exportedFile, collects.deviceId]
  | setupStatus =>
      cases isMember
      simp [dbMember, keyslotMember, deviceIdMember, setupStatusMember,
        manifestMember, heldMember, exportedFile, collects.setupStatus]
  | settings =>
      cases isMember
      simp [dbMember, keyslotMember, deviceIdMember, setupStatusMember,
        settingsMember, manifestMember, heldMember, exportedFile,
        collects.settings]
  | irohIdentity file =>
      cases isMember
      have isFile : fileUnder irohIdentityPrefix
          (memberUnder irohIdentityPrefix file) = some file :=
        fileUnder_eq_some_iff.mpr rfl
      have notFixed : memberUnder irohIdentityPrefix file ∉
          manifestMember :: fixedMembers := by
        intro isFixed
        rw [(fileUnder_fixed isFixed).2] at isFile
        cases isFile
      have notUi : fileUnder uiStatePrefix
          (memberUnder irohIdentityPrefix file) = none := by
        cases isUi : fileUnder uiStatePrefix
            (memberUnder irohIdentityPrefix file) with
        | none => rfl
        | some other =>
            have samePath := fileUnder_eq_some_iff.mp isUi
            have isPrefix : uiStatePrefix.toList <+:
                (memberUnder irohIdentityPrefix file).toList := by
              rw [samePath, memberUnder, String.toList_append]
              exact List.prefix_append _ _
            exact absurd isPrefix
              (not_prefix_memberUnder (by decide) (by decide))
      simp only [fixedMembers, List.mem_cons, List.not_mem_nil, or_false,
        not_or] at notFixed
      simp [heldMember, notFixed, notUi, isFile, exportedFile]
  | uiState file => exact absurd rfl (notUiState file)
  | dataRoot file => cases isMember

theorem Exports.secretsFileOf (exports : Exports libraries env source bundle) :
    secretsFileOf libraries.formats exports.archive =
      some (carriedSecrets libraries env exports.collected) := by
  have found : exports.archive.find secretsMember =
      some (libraries.formats.secrets.toVec
        (carriedSecrets libraries env exports.collected)) := by
    unfold Exports.archive
    rw [find_archive exports.collects]
    simp [dbMember, keyslotMember, deviceIdMember, setupStatusMember,
      settingsMember, secretsMember, manifestMember, heldMember]
  unfold ConfigMigration.secretsFileOf
  rw [found, Option.bind_some, libraries.formats.secrets.fromSlice_toVec]

theorem Exports.decodes (exports : Exports libraries env source bundle) :
    Decodes libraries.formats exports.archive := by
  intro file key b64 isFile found
  rw [exports.secretsFileOf] at isFile
  cases isFile
  have isPut : (carriedSecrets libraries env exports.collected).secrets.find
      key = if key = profileKekKey env.profileId then
        some (libraries.formats.base64.encode exports.collected.kek)
      else none :=
    Table.find_put
  rw [isPut] at found
  split at found
  · cases found
    rw [libraries.formats.base64.decode_encode]
    rfl
  · cases found

section Applied

variable {archive : BundleArchive}

theorem secretsFileOf_congr {other : BundleArchive} {formats : Formats}
    (same : ∀ member, archive.find member = other.find member) :
    ConfigMigration.secretsFileOf formats archive =
      ConfigMigration.secretsFileOf formats other := by
  unfold ConfigMigration.secretsFileOf
  rw [same]

theorem decodes_congr {other : BundleArchive} {formats : Formats}
    (same : ∀ member, archive.find member = other.find member)
    (decodes : Decodes formats other) : Decodes formats archive := by
  intro file key b64 isFile found
  rw [secretsFileOf_congr same] at isFile
  exact decodes file key b64 isFile found

theorem Exports.bundleMember (exports : Exports libraries env source bundle)
    (same : ∀ member, archive.find member = exports.archive.find member) :
    ∀ member ∈ archive.keys, BundleMember member := by
  intro member isKey
  have present : (archive.find member).isSome = true :=
    AList.lookup_isSome.mpr isKey
  rw [same] at present
  exact bundleMember_of_mem_keys exports.collects
    (AList.lookup_isSome.mp present)

theorem Exports.applicable (exports : Exports libraries env source bundle)
    (same : ∀ member, archive.find member = exports.archive.find member)
    (setupStatus : (source.live.find .setupStatus).isSome = true) :
    Applicable libraries.formats archive where
  parses := ⟨_, (secretsFileOf_congr same).trans exports.secretsFileOf⟩
  required := by
    intro _ member isRequired
    rw [same]
    simp only [requiredMembers, List.mem_cons, List.not_mem_nil, or_false]
      at isRequired
    have found : ∀ path, memberOf path = some member →
        (∀ file, path ≠ .uiState file) →
        (exportedFile env source path).isSome = true →
          (exports.archive.find member).isSome = true := by
      intro path isMember notUiState present
      rw [exports.find_memberOf isMember notUiState]
      exact present
    rcases isRequired with rfl | rfl | rfl | rfl
    · apply found .db rfl (by simp)
      simp [exportedFile, exports.collects.db, Except.toOption]
    · apply found .keyslot rfl (by simp)
      simp [exportedFile, exports.collects.keyslot]
    · apply found .deviceId rfl (by simp)
      simp [exportedFile, exports.collects.deviceId]
    · exact found .setupStatus rfl (by simp) setupStatus
  settings := by
    intro _ member isKey
    have isTop : settingsMember ∈ topLevelMembers := by
      simp [topLevelMembers]
    exact (exports.bundleMember same member isKey).not_below isTop

theorem Exports.applied (bootOrder : DirectoryOrder)
    (exports : Exports libraries env source bundle)
    (same : ∀ member, archive.find member = exports.archive.find member)
    {staged : Disk} {marker : PendingImportMarker}
    (written : Written libraries.formats archive marker target staged)
    (isCurrent : marker.schemaVer = pendingImportSchemaVer)
    (setupStatus : (source.live.find .setupStatus).isSome = true) :
    (applyPendingImport libraries.formats (bootWith bootOrder)
        staged).result = .ok () ∧
      Applied libraries.formats archive target.contents
        (applyPendingImport libraries.formats (bootWith bootOrder)
          staged).final := by
  have applicable := exports.applicable same setupStatus
  have pending := written.pending isCurrent
  obtain ⟨isOk, finished⟩ := returned_of_meets
    (meets_applyPendingImport (bootWith bootOrder) applicable pending)
  refine ⟨isOk, ?_⟩
  rcases finished with ⟨_, applied⟩ | ⟨_, heldUp⟩
  · exact applied
  · obtain ⟨key, refused⟩ := heldUp (decodes_congr same exports.decodes)
    cases refused

/-- Without the setup status the apply fails. -/
theorem Exports.notApplied (exports : Exports libraries env source bundle)
    (same : ∀ member, archive.find member = exports.archive.find member)
    {staged : Disk} {marker : PendingImportMarker}
    (written : Written libraries.formats archive marker target staged)
    (isCurrent : marker.schemaVer = pendingImportSchemaVer)
    (noSetupStatus : source.live.find .setupStatus = none) :
    (applyPendingImport libraries.formats (bootWith bootOrder)
      staged).result ≠ .ok () := by
  have pending := written.pending isCurrent
  have isFile := (secretsFileOf_congr same).trans exports.secretsFileOf
  have found : ∀ path member, memberOf path = some member →
      (∀ file, path ≠ .uiState file) →
        staged.staging.find member = exportedFile env source path := by
    intro path member isMember notUiState
    rw [written.staging, same, exports.find_memberOf isMember notUiState]
  have hasDb : (staged.staging.find dbMember).isSome = true := by
    rw [found .db dbMember rfl (by simp)]
    simp [exportedFile, exports.collects.db, Except.toOption]
  have hasKeyslot : (staged.staging.find keyslotMember).isSome = true := by
    rw [found .keyslot keyslotMember rfl (by simp)]
    simp [exportedFile, exports.collects.keyslot]
  have hasDeviceId : (staged.staging.find deviceIdMember).isSome = true := by
    rw [found .deviceId deviceIdMember rfl (by simp)]
    simp [exportedFile, exports.collects.deviceId]
  have present : ∀ member ∈ [dbMember, keyslotMember, deviceIdMember],
      (staged.staging.find member).isSome = true := by
    intro member isPresent
    simp only [List.mem_cons, List.not_mem_nil, or_false] at isPresent
    rcases isPresent with rfl | rfl | rfl
    · exact hasDb
    · exact hasKeyslot
    · exact hasDeviceId
  have missing : staged.staging.find setupStatusMember = none := by
    rw [found .setupStatus setupStatusMember rfl (by simp)]
    exact noSetupStatus
  have fails := meets_apply_of_noSetupStatus (bootWith bootOrder) isFile pending
    (decodes_congr same exports.decodes) (fun _ => rfl) present missing
  intro isOk
  exact fails.returned () isOk

/-- What is installed is what was exported, but the UI-state files are those of
the target. -/
theorem Exports.installed_iff (exports : Exports libraries env source bundle)
    (same : ∀ member, archive.find member = exports.archive.find member) :
    (∀ path bytes, exportedFile env source path = some bytes →
      (installed libraries.formats archive target.contents).file path =
        some bytes) ↔
    ∀ file ∈ uiStateFiles, ∀ bytes,
      source.live.find (.dataRoot file) = some bytes →
        target.live.find (.dataRoot file) = some bytes := by
  constructor
  · intro all file listed bytes found
    have isExported : exportedFile env source (.dataRoot file) = some bytes := by
      simp [exportedFile, listed, found]
    have kept := all (.dataRoot file) bytes isExported
    simpa [installed, LivePath.isSidecar, memberOf, Disk.contents] using kept
  · intro uiState path bytes isExported
    have copied : ∀ member, memberOf path = some member →
        (∀ file, path ≠ .uiState file) →
        (installed libraries.formats archive target.contents).file path =
          some bytes := by
      intro member isMember notUiState
      apply installed_file isMember
      rw [same, exports.find_memberOf isMember notUiState]
      exact isExported
    cases path with
    | dbWal => cases isExported
    | dbShm => cases isExported
    | uiState file => cases isExported
    | dataRoot file =>
        simp only [exportedFile] at isExported
        split at isExported
        · rename_i listed
          have kept := uiState file listed bytes isExported
          simpa [installed, LivePath.isSidecar, memberOf, Disk.contents]
            using kept
        · cases isExported
    | _ => exact copied _ rfl (by simp)

end Applied

end RoundTrip

namespace Sample

open Text Framing

def buildFrames : List (String × List UInt8) → List UInt8
  | [] => []
  | member :: rest =>
      frame (asBytes member.1) ++ (frame member.2 ++ buildFrames rest)

def readFrames : Nat → List UInt8 → List (Option TarEntry)
  | 0, _ => []
  | _, [] => []
  | fuel + 1, bytes =>
      match (do
        let (name, afterName) ← unframe bytes
        let (contents, rest) ← unframe afterName
        let text ← fromUtf8 name
        return (text, contents, rest)) with
      | none => [none]
      | some (text, contents, rest) =>
          some ⟨PathBuf.fromText text, contents.length, contents⟩ ::
            readFrames fuel rest

theorem length_frame (bytes : List UInt8) :
    bytes.length + 1 ≤ (frame bytes).length := by
  induction bytes with
  | nil => simp [frame]
  | cons byte bytes inductionHypothesis =>
      simp only [frame, List.length_cons]
      omega

theorem readFrames_buildFrames {members : List (String × List UInt8)}
    (fuel : Nat) (enough : members.length ≤ fuel) :
    readFrames fuel (buildFrames members) = members.map fun member =>
      some ⟨PathBuf.fromText member.1, member.2.length, member.2⟩ := by
  induction members generalizing fuel with
  | nil => cases fuel <;> rfl
  | cons member rest inductionHypothesis =>
      rw [List.length_cons] at enough
      obtain ⟨less, isFuel⟩ := Nat.exists_eq_add_of_lt enough
      have later := inductionHypothesis (rest.length + less)
        (Nat.le_add_right _ _)
      rw [isFuel]
      cases isBytes : buildFrames (member :: rest) with
      | nil =>
          have long := length_frame (asBytes member.1)
          have isLength := congrArg List.length isBytes
          simp only [buildFrames, List.length_append, List.length_nil]
            at isLength
          omega
      | cons first bytes =>
          rw [readFrames, ← isBytes]
          · simp [buildFrames, later]
          · intro empty
            cases empty

theorem length_buildFrames (members : List (String × List UInt8)) :
    (members.map fun member => member.2.length).sum + members.length ≤
      (buildFrames members).length := by
  induction members with
  | nil => simp
  | cons member rest inductionHypothesis =>
      have long := length_frame member.2
      simp only [buildFrames, List.length_append, List.map_cons, List.sum_cons,
        List.length_cons]
      omega

/-- An archive format that frames every member. -/
def tarCrate : TarCrate where
  setPath _ := true
  build := buildFrames
  entries bytes := readFrames bytes.length bytes
  entries_build members _ := by
    have long := length_buildFrames members
    exact readFrames_buildFrames _ (by omega)
  length_build members _ := by
    have long := length_buildFrames members
    omega

deriving instance Encodable for ManifestSourceMode
deriving instance Encodable for BundleManifest

def kekFile : SecretsFile where
  secrets := Table.put ∅ "kek:v1:profile:default"
    "AQEBAQEBAQEBAQEBAQEBAQEBAQEBAQEBAQEBAQEBAQE="

def kekText : List UInt8 :=
  asBytes ("\x7b\n  \"secrets\": \x7b\n" ++
    "    \"kek:v1:profile:default\": " ++
    "\"AQEBAQEBAQEBAQEBAQEBAQEBAQEBAQEBAQEBAQEBAQE=\"\n  \x7d\n\x7d")

def exportEnv : ExportEnv where
  appVersion := "0.9.0"
  sourceMode := .installed
  profileId := "default"
  snapshot := .ok [1, 1]
  fingerprint := some none
  nowMs := 1700000000000
  nonce := some sampleNonce
  storageFails := false
  unreadable _ := false

def installation (uiState : List FileName) : Disk where
  staging := ∅
  marker := none
  markerTmp := none
  live := (Table.putEach Prod.fst Prod.snd ∅ [(.db, [1, 1]), (.keyslot, [2]),
    (.deviceId, [3]), (.setupStatus, [4]), (.settings, [5]),
    (.irohIdentity ⟨"key", by decide, by decide, by decide, by decide⟩, [6])]
    : Table LivePath (List UInt8)).putEach LivePath.dataRoot (fun _ => [7])
      uiState
  secrets := Table.put ∅ "kek:v1:profile:default" (sampleKey 1).bytes

def slot : KeySlotFile where
  version := "V1"
  scope := ⟨"default"⟩
  kdf := ⟨"Argon2id", ⟨131072, 3, 4⟩⟩
  salt := List.replicate 16 0
  wrappedMasterKey := ⟨"V1", "XChaCha20Poly1305", sampleNonce.bytes,
    transparentAead.encrypt (sampleKey 1) sampleNonce (sampleKey 7).bytes [],
    none⟩

/-- Every passphrase derives the same key. -/
def crypto : KeyCrypto where
  fromSlice _ := none
  hashPasswordInto _ _ _ := .ok (sampleKey 1)
  aead := transparentAead
  hmac masterKey payload := masterKey.bytes ++ payload

def carried (uiState : List FileName) : List String :=
  ["db/uniclipboard.db", "iroh-identity/key", "manifest.json", "secrets.json",
    "settings.json"] ++ uiState.map (memberUnder uiStatePrefix) ++
    ["vault/.setup_status", "vault/device_id.txt", "vault/keyslot.json"]

def manifest (uiState : List FileName) : BundleManifest where
  schemaVer := 1
  appVersion := "0.9.0"
  sourceMode := .installed
  createdAtUnixMs := 1700000000000
  profileId := "default"
  deviceFingerprint := ""
  included := carried uiState

def manifestText (uiState : List FileName) : List UInt8 :=
  0x7b :: asBytes ("\n  \"schema_ver\": 1,\n" ++
    "  \"app_version\": \"0.9.0\",\n" ++
    "  \"source_mode\": \"installed\",\n" ++
    "  \"created_at_unix_ms\": 1700000000000,\n" ++
    "  \"profile_id\": \"default\",\n" ++
    "  \"device_fingerprint\": \"\",\n" ++
    "  \"included\": [\n    " ++
    ",\n    ".intercalate ((carried uiState).map
      fun member => "\"" ++ member ++ "\"") ++
    "\n  ]\n\x7d")

def sameRows : DecidableEq SecretsFile := fun left right =>
  decidable_of_iff (left.secrets.entries = right.secrets.entries) <| by
    constructor
    · intro sameEntries
      cases left
      cases right
      exact congrArg SecretsFile.mk (AList.ext sameEntries)
    · intro same
      rw [same]

theorem manifestText_not_zeros (uiState : List FileName) :
    (manifestText uiState).all (· = 0) = false := by
  simp [manifestText]

def libraries (uiState : List FileName) : Libraries where
  crypto := crypto
  tar := tarCrate
  formats := {
    marker := SerdeJson.ofText marker markerText markerText_not_zeros
    secrets := @SerdeJson.ofText _ sameRows _ kekFile kekText (by decide +kernel)
    base64 := Base64.ofText (sampleKey 1).bytes
      "AQEBAQEBAQEBAQEBAQEBAQEBAQEBAQEBAQEBAQEBAQE=" (by decide +kernel) }
  manifest := SerdeJson.ofText (manifest uiState) (manifestText uiState)
    (manifestText_not_zeros uiState)
  keyslotFromSlice bytes := if bytes = [2] then some slot else none

def bundle (uiState : List FileName) : List UInt8 :=
  match exportBundle (libraries uiState) exportEnv (installation uiState) with
  | .ok bytes => bytes
  | .error _ => []






theorem installation_exports (uiState : List FileName)
    (isOk : (exportBundle (libraries uiState) exportEnv
      (installation uiState)).toOption.isSome = true) :
    exportBundle (libraries uiState) exportEnv (installation uiState) =
      .ok (bundle uiState) := by
  unfold bundle
  cases isResult : exportBundle (libraries uiState) exportEnv
      (installation uiState) with
  | ok bytes => rfl
  | error error =>
      rw [isResult] at isOk
      cases isOk

theorem transparentAead_expands (key : MasterKey) (nonce : Nonce)
    (plaintext aad : List UInt8) :
    plaintext.length ≤
      (transparentAead.encrypt key nonce plaintext aad).length := by
  simp only [transparentAead, Aead.transparent, List.length_append]
  omega

theorem installation_unwraps (uiState : List FileName)
    (isKeyslot : (installation uiState).live.find .keyslot = some [2]) :
    Unwraps (libraries uiState) (installation uiState) (asBytes "passphrase")
      slot (sampleKey 1) where
  keyslot := ⟨[2], isKeyslot, rfl⟩
  derives := rfl
  opens := by
    have opened : unwrapMasterKey crypto (sampleKey 1)
        slot.wrappedMasterKey = some (.ok (sampleKey 7)) := by
      decide +kernel
    exact ⟨sampleKey 7, opened⟩

end Sample

end OpenClipboard.ConfigMigration
