import OpenClipboard.Core.Snapshot

/-!
# The outbound sync planner

The planner decides from the settings and the origin which of the candidate
files are sent, and whether anything is sent at all.
-/

namespace OpenClipboard

inductive ClipboardChangeOrigin where
  | localCapture
  | localRestore
  | remotePush (fromDevice : Option String)
  | resend
  deriving DecidableEq, Repr

def ClipboardChangeOrigin.isRemotePush : ClipboardChangeOrigin → Bool
  | .remotePush _ => true
  | _ => false

structure FileSyncSettings where
  fileSyncEnabled : Bool
  maxFileSize : Nat
  deriving DecidableEq, Repr

abbrev SettingsLoad := Except String FileSyncSettings

structure FileCandidate where
  path : PathBuf
  size : Nat
  deriving DecidableEq, Repr

structure FileSyncIntent where
  path : PathBuf
  filename : String
  size : Nat
  deriving DecidableEq, Repr

structure OutboundSyncPlan where
  clipboard : Option SystemClipboardSnapshot
  files : List FileSyncIntent
  deriving DecidableEq, Repr

namespace OutboundSyncPlanner

def isUserInitiated : ClipboardChangeOrigin → Bool
  | .localCapture => true
  | .resend => true
  | _ => false

/-- A resend bypasses the size cap. -/
def isEligible (settings : FileSyncSettings) (origin : ClipboardChangeOrigin)
    (candidate : FileCandidate) : Bool :=
  origin == .resend || decide (candidate.size ≤ settings.maxFileSize)

def intentOf (candidate : FileCandidate) : FileSyncIntent where
  path := candidate.path
  filename := (candidate.path.fileName.map fun name =>
    toStringLossy name.bytes).getD ""
  size := candidate.size

def plan (settings : SettingsLoad) (snapshot : SystemClipboardSnapshot)
    (origin : ClipboardChangeOrigin) (fileCandidates : List FileCandidate)
    (extractedPathsCount : Nat) : OutboundSyncPlan :=
  if origin.isRemotePush then
    { clipboard := none, files := [] }
  else
    match settings with
    | .error _ => { clipboard := some snapshot, files := [] }
    | .ok settings =>
        let fileSyncAttempted :=
          isUserInitiated origin && settings.fileSyncEnabled
        let eligibleFiles :=
          if fileSyncAttempted then
            (fileCandidates.filter (isEligible settings origin)).map intentOf
          else
            []
        if fileSyncAttempted && decide (0 < extractedPathsCount) &&
            eligibleFiles.isEmpty then
          { clipboard := none, files := [] }
        else
          { clipboard := some snapshot, files := eligibleFiles }

section Plan

variable {settings : FileSyncSettings} {snapshot : SystemClipboardSnapshot}
variable {origin : ClipboardChangeOrigin} {candidates : List FileCandidate}
variable {count : Nat}

theorem plan_of_unloaded
    {err : String} (notRemote : origin.isRemotePush = false) :
    plan (.error err) snapshot origin candidates count =
      ⟨some snapshot, []⟩ := by
  simp [plan, notRemote]

theorem plan_of_disabled
    (notRemote : origin.isRemotePush = false)
    (disabled : settings.fileSyncEnabled = false) :
    plan (.ok settings) snapshot origin candidates count =
      ⟨some snapshot, []⟩ := by
  simp [plan, notRemote, disabled]

theorem plan_of_enabled
    (userInitiated : isUserInitiated origin = true)
    (enabled : settings.fileSyncEnabled = true) :
    plan (.ok settings) snapshot origin candidates count =
      if 0 < count ∧ candidates.filter (isEligible settings origin) = [] then
        ⟨none, []⟩
      else
        ⟨some snapshot,
          (candidates.filter (isEligible settings origin)).map intentOf⟩ := by
  have notRemote : origin.isRemotePush = false := by
    cases origin with
    | remotePush fromDevice => cases userInitiated
    | localCapture => rfl
    | localRestore => rfl
    | resend => rfl
  simp [plan, notRemote, userInitiated, enabled]

theorem plan_of_notUserInitiated
    (notRemote : origin.isRemotePush = false)
    (notUserInitiated : isUserInitiated origin = false) :
    plan (.ok settings) snapshot origin candidates count =
      ⟨some snapshot, []⟩ := by
  simp [plan, notRemote, notUserInitiated]

theorem plan_of_noFiles
    (settings : SettingsLoad) (notRemote : origin.isRemotePush = false) :
    plan settings snapshot origin [] 0 = ⟨some snapshot, []⟩ := by
  cases settings with
  | error err => exact plan_of_unloaded notRemote
  | ok loaded => simp [plan, notRemote]

theorem plan_cases
    (settings : SettingsLoad) (snapshot : SystemClipboardSnapshot)
    (origin : ClipboardChangeOrigin) (candidates : List FileCandidate)
    (count : Nat) :
    (∃ keeps : FileCandidate → Bool,
        (plan settings snapshot origin candidates count).files =
          (candidates.filter keeps).map intentOf) ∧
      ∀ planned, (plan settings snapshot origin candidates
        count).clipboard = some planned → planned = snapshot := by
  have nothing : ∃ keeps : FileCandidate → Bool, ([] : List FileSyncIntent) =
      (candidates.filter keeps).map intentOf :=
    ⟨fun _ => false, by simp⟩
  by_cases remote : origin.isRemotePush = true
  · have isNothing : plan settings snapshot origin candidates count =
        ⟨none, []⟩ := by
      simp [plan, remote]
    rw [isNothing]
    exact ⟨nothing, by simp⟩
  · rw [Bool.not_eq_true] at remote
    cases settings with
    | error err =>
        rw [plan_of_unloaded remote]
        exact ⟨nothing, by simp⟩
    | ok loaded =>
        by_cases enabled : loaded.fileSyncEnabled = true
        · by_cases userInitiated : isUserInitiated origin = true
          · rw [plan_of_enabled userInitiated enabled]
            split
            · exact ⟨nothing, by simp⟩
            · exact ⟨⟨isEligible loaded origin, rfl⟩, by simp⟩
          · rw [Bool.not_eq_true] at userInitiated
            rw [plan_of_notUserInitiated remote userInitiated]
            exact ⟨nothing, by simp⟩
        · rw [Bool.not_eq_true] at enabled
          rw [plan_of_disabled remote enabled]
          exact ⟨nothing, by simp⟩

end Plan

end OutboundSyncPlanner

/-! ## The files that a plan keeps -/

section KeptFiles

variable {settings : SettingsLoad} {snapshot : SystemClipboardSnapshot}
variable {origin : ClipboardChangeOrigin}

theorem plan_complete
    {candidates : List FileCandidate} {count : Nat}
    (sameLength : (OutboundSyncPlanner.plan settings snapshot origin
      candidates count).files.length = candidates.length) :
    (OutboundSyncPlanner.plan settings snapshot origin candidates
        count).files.map FileSyncIntent.path =
      candidates.map FileCandidate.path := by
  obtain ⟨⟨keeps, filesEq⟩, _⟩ :=
    OutboundSyncPlanner.plan_cases settings snapshot origin candidates count
  rw [filesEq, List.length_map] at sameLength
  have allKept := List.filter_sublist.eq_of_length sameLength
  rw [filesEq, allKept, List.map_map]
  rfl

/-- The planner keeps every file of a captured set, or none and suppresses the
send. -/
def KeepsSet (settings : SettingsLoad) (sizes : List Nat) : Prop :=
  match settings with
  | .error _ => sizes = []
  | .ok settings =>
      if settings.fileSyncEnabled then
        (∀ size ∈ sizes, size ≤ settings.maxFileSize) ∨
          ∀ size ∈ sizes, settings.maxFileSize < size
      else
        sizes = []

theorem keepsSet_iff
    (settings : SettingsLoad) (snapshot : SystemClipboardSnapshot)
    (candidates : List FileCandidate) :
    KeepsSet settings (candidates.map FileCandidate.size) ↔
      (OutboundSyncPlanner.plan settings snapshot .localCapture candidates
          candidates.length).clipboard = none ∨
        (OutboundSyncPlanner.plan settings snapshot .localCapture candidates
          candidates.length).files.length = candidates.length := by
  have notRemote : ClipboardChangeOrigin.localCapture.isRemotePush = false :=
    rfl
  have emptySizes : candidates.map FileCandidate.size = [] ↔
      ([] : List FileSyncIntent).length = candidates.length := by
    rw [List.map_eq_nil_iff, List.length_nil, ← List.length_eq_zero_iff,
      eq_comm]
  cases settings with
  | error err =>
      rw [OutboundSyncPlanner.plan_of_unloaded notRemote]
      simp only [KeepsSet, emptySizes, reduceCtorEq, false_or]
  | ok loaded =>
      by_cases enabled : loaded.fileSyncEnabled = true
      · rw [OutboundSyncPlanner.plan_of_enabled rfl enabled]
        have eligible_iff : ∀ candidate : FileCandidate,
            OutboundSyncPlanner.isEligible loaded .localCapture candidate =
                true ↔ candidate.size ≤ loaded.maxFileSize := by
          intro candidate
          simp [OutboundSyncPlanner.isEligible]
        have none_iff : candidates.filter
            (OutboundSyncPlanner.isEligible loaded .localCapture) = [] ↔
              ∀ size ∈ candidates.map FileCandidate.size,
                loaded.maxFileSize < size := by
          simp [List.filter_eq_nil_iff, eligible_iff]
        have all_iff : ((candidates.filter (OutboundSyncPlanner.isEligible
            loaded .localCapture)).map
              OutboundSyncPlanner.intentOf).length = candidates.length ↔
              ∀ size ∈ candidates.map FileCandidate.size,
                size ≤ loaded.maxFileSize := by
          rw [List.length_map, List.length_filter_eq_length_iff]
          simp [eligible_iff]
        rw [KeepsSet, if_pos enabled, ← none_iff, ← all_iff]
        by_cases suppressed : 0 < candidates.length ∧ candidates.filter
            (OutboundSyncPlanner.isEligible loaded .localCapture) = []
        · rw [if_pos suppressed]
          simp [suppressed.2]
        · rw [if_neg suppressed]
          simp only [reduceCtorEq, false_or]
          constructor
          · rintro (all | none)
            · exact all
            · have noCandidate : candidates.length = 0 := by
                by_contra positive
                exact suppressed ⟨by omega, none⟩
              simp [none, noCandidate]
          · exact Or.inl
      · rw [Bool.not_eq_true] at enabled
        rw [OutboundSyncPlanner.plan_of_disabled notRemote enabled]
        simp only [KeepsSet, enabled, Bool.false_eq_true, if_false,
          emptySizes, reduceCtorEq, false_or]

def KeepsFile (settings : SettingsLoad) (size : Nat) : Prop :=
  ∃ loaded, settings = .ok loaded ∧ loaded.fileSyncEnabled = true ∧
    size ≤ loaded.maxFileSize

theorem mem_plan_files
    {candidates : List FileCandidate} {count : Nat} {file : FileSyncIntent}
    (planned : file ∈ (OutboundSyncPlanner.plan settings snapshot
      .localCapture candidates count).files) :
    ∃ candidate ∈ candidates, candidate.path = file.path ∧
      KeepsFile settings candidate.size := by
  have notRemote : ClipboardChangeOrigin.localCapture.isRemotePush = false :=
    rfl
  cases settings with
  | error err =>
      rw [OutboundSyncPlanner.plan_of_unloaded notRemote] at planned
      cases planned
  | ok loaded =>
      by_cases enabled : loaded.fileSyncEnabled = true
      · rw [OutboundSyncPlanner.plan_of_enabled rfl enabled] at planned
        split at planned
        · cases planned
        · obtain ⟨candidate, kept, rfl⟩ := List.mem_map.mp planned
          obtain ⟨member, eligible⟩ := List.mem_filter.mp kept
          refine ⟨candidate, member, rfl, loaded, rfl, enabled, ?_⟩
          simpa [OutboundSyncPlanner.isEligible] using eligible
      · rw [Bool.not_eq_true] at enabled
        rw [OutboundSyncPlanner.plan_of_disabled notRemote enabled] at planned
        cases planned

theorem plan_files_of_kept
    {candidates : List FileCandidate} {candidate : FileCandidate}
    (member : candidate ∈ candidates)
    (kept : KeepsFile settings candidate.size) :
    ∃ file ∈ (OutboundSyncPlanner.plan settings snapshot .localCapture
      candidates candidates.length).files, file.path = candidate.path := by
  obtain ⟨loaded, rfl, enabled, small⟩ := kept
  have eligible : candidate ∈ candidates.filter
      (OutboundSyncPlanner.isEligible loaded .localCapture) :=
    List.mem_filter.mpr ⟨member, by
      simpa [OutboundSyncPlanner.isEligible] using small⟩
  rw [OutboundSyncPlanner.plan_of_enabled rfl enabled,
    if_neg fun suppressed => List.ne_nil_of_mem eligible suppressed.2]
  exact ⟨_, List.mem_map_of_mem eligible, rfl⟩

end KeptFiles

end OpenClipboard
