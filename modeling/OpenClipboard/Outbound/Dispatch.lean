import OpenClipboard.Outbound.Publish

/-!
# Sending an entry

The dispatch of a capture and the assembly of a payload for a resend or a pull
run the same steps: resolve the files, read their sizes, plan, publish, and
stamp the identity.  They differ in their origin and in where they check that
the planner kept every member.
-/

namespace OpenClipboard

open Text PartialMap

structure OutboundPayload where
  snapshot : SystemClipboardSnapshot
  blobRefs : List V3BlobRef
  fileSetManifest : Option InboundFileSetManifest
  deriving DecidableEq, Repr

/-! ## Shared steps -/

/-- What a resolution hands on; an excluded set hands on nothing. -/
structure ResolvedFiles where
  paths : List PathBuf
  fromManifest : Bool
  directoryMembers : Option (List DirectoryMemberSource)
  deriving DecidableEq, Repr

def OutboundFileSetResolution.resolvedFiles :
    OutboundFileSetResolution → Option ResolvedFiles
  | .notFileClass => some ⟨[], false, none⟩
  | .manifest paths _ => some ⟨paths, true, none⟩
  | .directorySyncable paths members => some ⟨paths, true, some members⟩
  | .fallback paths => some ⟨paths, false, none⟩
  | .excluded _ _ _ => none

/-- Read the sizes; a member of a manifest without metadata stops the send,
any other file is left out. -/
def fileCandidates (metadata : PathBuf → Option Nat) (fromManifest : Bool) :
    List PathBuf → Option (List FileCandidate)
  | [] => some []
  | path :: rest =>
      match metadata path with
      | some size =>
          (fileCandidates metadata fromManifest rest).map (⟨path, size⟩ :: ·)
      | none =>
          if fromManifest then
            none
          else
            fileCandidates metadata fromManifest rest

def stampFileIdentity (blake3 : Blake3)
    (manifest : Option InboundFileSetManifest) (digests : List Digest)
    (snapshot : SystemClipboardSnapshot) :
    Except String SystemClipboardSnapshot :=
  match manifest with
  | some manifest =>
      (computeFileSetComponent blake3 manifest fun index =>
          digests[index]?).map fun component =>
        { snapshot with
          fileContentDigests := []
          fileSetV1Component := some component }
  | none =>
      if digests.isEmpty then
        .ok snapshot
      else
        .ok { snapshot with fileContentDigests := digests }

variable {candidates : List FileCandidate} {paths : List PathBuf}

section Candidates

variable {metadata : PathBuf → Option Nat}

theorem fileCandidates_manifest_iff :
    fileCandidates metadata true paths = some candidates ↔
      List.Forall₂ (fun path (candidate : FileCandidate) =>
        candidate.path = path ∧ metadata path = some candidate.size)
        paths candidates := by
  induction paths generalizing candidates with
  | nil => simp [fileCandidates, eq_comm]
  | cons path rest inductionHypothesis =>
      rw [fileCandidates]
      constructor
      · intro found
        split at found
        · rename_i size isSize
          obtain ⟨later, isLater, rfl⟩ := Option.map_eq_some_iff.mp found
          exact List.Forall₂.cons ⟨rfl, isSize⟩
            (inductionHypothesis.mp isLater)
        · rw [if_pos rfl] at found
          cases found
      · intro pointwise
        cases pointwise with
        | cons here later =>
            rename_i candidate candidates
            obtain ⟨rfl, isSize⟩ := here
            rw [isSize]
            simp only [inductionHypothesis.mpr later]
            rfl

theorem exists_fileCandidates (readable : ∀ path ∈ paths, metadata path ≠ none)
    :
    ∃ candidates, fileCandidates metadata true paths = some candidates := by
  induction paths with
  | nil => exact ⟨[], rfl⟩
  | cons path rest inductionHypothesis =>
      obtain ⟨size, isSize⟩ :=
        Option.ne_none_iff_exists'.mp (readable path List.mem_cons_self)
      obtain ⟨later, isLater⟩ := inductionHypothesis fun other member =>
        readable other (List.mem_cons_of_mem path member)
      rw [fileCandidates, isSize, isLater]
      exact ⟨_, rfl⟩

theorem candidates_path
    (found : fileCandidates metadata true paths = some candidates) :
    candidates.map FileCandidate.path = paths := by
  have pointwise := fileCandidates_manifest_iff.mp found
  induction pointwise with
  | nil => rfl
  | cons here later inductionHypothesis =>
      rw [List.map_cons, here.1,
        inductionHypothesis (fileCandidates_manifest_iff.mpr later)]

theorem mem_candidates
    (found : fileCandidates metadata true paths = some candidates)
    {candidate : FileCandidate} (member : candidate ∈ candidates) :
    candidate.path ∈ paths ∧
      metadata candidate.path = some candidate.size := by
  obtain ⟨path, inPaths, rfl, isSize⟩ :=
    exists_of_forall₂ (fileCandidates_manifest_iff.mp found) member
  exact ⟨inPaths, isSize⟩

theorem candidates_size
    (found : fileCandidates metadata true paths = some candidates) :
    candidates.map FileCandidate.size = paths.filterMap metadata := by
  have pointwise := fileCandidates_manifest_iff.mp found
  induction pointwise with
  | nil => rfl
  | cons here later inductionHypothesis =>
      rw [List.map_cons, List.filterMap_cons, here.2,
        inductionHypothesis (fileCandidates_manifest_iff.mpr later)]

end Candidates

section Send

variable (urlParse : UrlParse) (blake3 : Blake3)
variable (gateway : OutboundBlobPublishGateway)
variable (settings : SettingsLoad) (metadata : PathBuf → Option Nat)
variable (loaded : FileSetLoad)

/-! ## Dispatching a capture -/

inductive DispatchStop where
  | skipped (reason : String)
  | failed (err : String)
  deriving DecidableEq, Repr

def orSkip {α : Type} (reason : String) : Option α → Except DispatchStop α
  | some value => .ok value
  | none => .error (.skipped reason)

def orFail {α : Type} (step : Except String α) : Except DispatchStop α :=
  step.mapError .failed

/-- Peers cannot read a local path. -/
def stripLocalFiles (snapshot : SystemClipboardSnapshot) :
    SystemClipboardSnapshot :=
  { snapshot with
    representations := snapshot.representations.filter fun rep =>
      rep.localPath.isNone }

/-- The transfer manifest of a directory set, all of whose files must have been
planned. -/
def dispatchManifest (resolved : ResolvedFiles) (files : List FileSyncIntent) :
    Except DispatchStop (Option InboundFileSetManifest) :=
  match resolved.directoryMembers with
  | none => .ok none
  | some members =>
      if files.length ≠ resolved.paths.length then
        .error (.skipped "file_set_member_unavailable")
      else
        (orFail (buildTransferManifest members files)).map some

/-- `ClipboardOutboundDispatcher::dispatch_capture`, up to the payload that is
handed to the fan-out. -/
def dispatchCapture (origin : ClipboardChangeOrigin)
    (snapshot : SystemClipboardSnapshot) :
    Except DispatchStop OutboundPayload :=
  if origin.isRemotePush then
    .error (.skipped "remote_push_echo")
  else
    let stripped := stripLocalFiles snapshot
    let resolution :=
      if origin = .localCapture then
        resolveOutboundFileSet urlParse loaded stripped
      else
        .notFileClass
    (orSkip "file_set_excluded" resolution.resolvedFiles).bind fun resolved =>
    (orSkip "file_set_member_unavailable"
      (fileCandidates metadata resolved.fromManifest
        resolved.paths)).bind fun candidates =>
    let plan := OutboundSyncPlanner.plan settings stripped origin candidates
      resolved.paths.length
    (orSkip "planner_suppressed" plan.clipboard).bind fun planned =>
    (orFail (publishFileBlobRefs gateway plan.files)).bind fun files =>
    (orFail (publishOversizedInlineBlobRefs gateway blake3
      planned)).bind fun images =>
    (dispatchManifest resolved plan.files).bind fun manifest =>
    (orFail (stampFileIdentity blake3 manifest files.2
      images.1)).map fun stamped => {
        snapshot := stamped
        blobRefs := files.1 ++ images.2
        fileSetManifest := manifest }

/-! ## Assembling a payload -/

inductive OutboundPayloadError where
  | unavailable
  | publish (err : String)
  | internal (err : String)
  deriving DecidableEq, Repr

def orUnavailable {α : Type} : Option α → Except OutboundPayloadError α
  | some value => .ok value
  | none => .error .unavailable

/-- The planner must have kept every member of a manifest. -/
def requireEveryMember (resolved : ResolvedFiles)
    (files : List FileSyncIntent) : Except OutboundPayloadError Unit :=
  if resolved.fromManifest = true ∧ files.length ≠ resolved.paths.length then
    .error .unavailable
  else
    .ok ()

def assembledManifest (resolved : ResolvedFiles)
    (files : List FileSyncIntent) :
    Except OutboundPayloadError (Option InboundFileSetManifest) :=
  match resolved.directoryMembers with
  | none => .ok none
  | some members =>
      ((buildTransferManifest members files).mapError .internal).map some

/-- `assemble_outbound_payload`, for a resend and for serving a pull. -/
def assembleOutboundPayload (snapshot : SystemClipboardSnapshot) :
    Except OutboundPayloadError OutboundPayload :=
  let resolution := resolveOutboundFileSet urlParse loaded snapshot
  (orUnavailable resolution.resolvedFiles).bind fun resolved =>
  (orUnavailable (fileCandidates metadata resolved.fromManifest
    resolved.paths)).bind fun candidates =>
  let plan := OutboundSyncPlanner.plan settings snapshot .resend candidates
    resolved.paths.length
  (orUnavailable plan.clipboard).bind fun planned =>
  (requireEveryMember resolved plan.files).bind fun _ =>
  ((publishFileBlobRefs gateway plan.files).mapError .publish).bind
    fun files =>
  (assembledManifest resolved plan.files).bind fun manifest =>
  ((stampFileIdentity blake3 manifest files.2 planned).mapError
    .internal).bind fun stamped =>
  ((publishOversizedInlineBlobRefs gateway blake3 stamped).mapError
    .publish).map fun images => {
      snapshot := images.1
      blobRefs := files.1 ++ images.2
      fileSetManifest := manifest }

/-! ## When the steps succeed -/

variable {urlParse blake3 gateway settings metadata loaded}

@[simp]
theorem orSkip_eq_ok_iff
    {α : Type} {reason : String} {step : Option α} {value : α} :
    orSkip reason step = .ok value ↔ step = some value := by
  cases step with
  | none => simp [orSkip]
  | some found => simp [orSkip]

@[simp]
theorem orFail_eq_ok_iff
    {α : Type} {step : Except String α} {value : α} :
    orFail step = .ok value ↔ step = .ok value := by
  cases step with
  | error err => simp [orFail, Except.mapError]
  | ok found => simp [orFail, Except.mapError]

@[simp]
theorem orUnavailable_eq_ok_iff
    {α : Type} {step : Option α} {value : α} :
    orUnavailable step = .ok value ↔ step = some value := by
  cases step with
  | none => simp [orUnavailable]
  | some found => simp [orUnavailable]

theorem mapError_eq_ok_iff
    {ε ε' α : Type} {f : ε → ε'} {step : Except ε α} {value : α} :
    step.mapError f = .ok value ↔ step = .ok value := by
  cases step with
  | error err => simp [Except.mapError]
  | ok found => simp [Except.mapError]

theorem dispatchCapture_eq_ok_iff
    {snapshot : SystemClipboardSnapshot} {payload : OutboundPayload} :
    dispatchCapture urlParse blake3 gateway settings metadata loaded
        .localCapture snapshot = .ok payload ↔
      ∃ resolved, (resolveOutboundFileSet urlParse loaded
          (stripLocalFiles snapshot)).resolvedFiles = some resolved ∧
        ∃ candidates, fileCandidates metadata resolved.fromManifest
            resolved.paths = some candidates ∧
          ∃ planned, (OutboundSyncPlanner.plan settings
              (stripLocalFiles snapshot) .localCapture candidates
              resolved.paths.length).clipboard = some planned ∧
            ∃ files, publishFileBlobRefs gateway (OutboundSyncPlanner.plan
                settings (stripLocalFiles snapshot) .localCapture candidates
                resolved.paths.length).files = .ok files ∧
              ∃ images, publishOversizedInlineBlobRefs gateway blake3
                  planned = .ok images ∧
                ∃ manifest, dispatchManifest resolved
                    (OutboundSyncPlanner.plan settings
                      (stripLocalFiles snapshot) .localCapture candidates
                      resolved.paths.length).files = .ok manifest ∧
                  ∃ stamped, stampFileIdentity blake3 manifest files.2
                      images.1 = .ok stamped ∧
                    ⟨stamped, files.1 ++ images.2, manifest⟩ = payload := by
  simp only [dispatchCapture, ClipboardChangeOrigin.isRemotePush,
    Bool.false_eq_true, if_false, if_true, bind_eq_ok_iff, map_eq_ok_iff,
    orSkip_eq_ok_iff, orFail_eq_ok_iff]

theorem assembleOutboundPayload_eq_ok_iff
    {snapshot : SystemClipboardSnapshot} {payload : OutboundPayload} :
    assembleOutboundPayload urlParse blake3 gateway settings metadata loaded
        snapshot = .ok payload ↔
      ∃ resolved, (resolveOutboundFileSet urlParse loaded
          snapshot).resolvedFiles = some resolved ∧
        ∃ candidates, fileCandidates metadata resolved.fromManifest
            resolved.paths = some candidates ∧
          ∃ planned, (OutboundSyncPlanner.plan settings snapshot .resend
              candidates resolved.paths.length).clipboard = some planned ∧
            ∃ checked, requireEveryMember resolved
                (OutboundSyncPlanner.plan settings snapshot .resend
                  candidates resolved.paths.length).files = .ok checked ∧
              ∃ files, publishFileBlobRefs gateway (OutboundSyncPlanner.plan
                  settings snapshot .resend candidates
                  resolved.paths.length).files = .ok files ∧
                ∃ manifest, assembledManifest resolved
                    (OutboundSyncPlanner.plan settings snapshot .resend
                      candidates resolved.paths.length).files =
                        .ok manifest ∧
                  ∃ stamped, stampFileIdentity blake3 manifest files.2
                      planned = .ok stamped ∧
                    ∃ images, publishOversizedInlineBlobRefs gateway blake3
                        stamped = .ok images ∧
                      ⟨images.1, files.1 ++ images.2, manifest⟩ =
                        payload := by
  simp only [assembleOutboundPayload, bind_eq_ok_iff, map_eq_ok_iff,
    orUnavailable_eq_ok_iff, mapError_eq_ok_iff]

end Send

end OpenClipboard
