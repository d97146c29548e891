import OpenClipboard.ConfigMigration.Resumption
import OpenClipboard.Core.Text
import OpenClipboard.Library.Transition

/-!
# Imports over any number of boots

A daemon stages an import, boots apply it, and any of them may be cut off.
-/

namespace OpenClipboard.ConfigMigration

open Interruptible Transition

/-- The marker of `stage_import`. -/
def importMarker (formats : Formats) (archive : BundleArchive)
    (stagedAtUnixMs : Int) : PendingImportMarker where
  schemaVer := pendingImportSchemaVer
  stagingDir := stagingDirName
  hasKek := (secretsFileOf formats archive).any fun file =>
    file.secrets.keys.any fun key => key.startsWith "kek:v1:profile:"
  stagedAtUnixMs := stagedAtUnixMs

/-- A machine with an installation on its disk, and what the live files and
secrets shall be once no import is pending: those of an uninterrupted
application of the last import whose marker was written, or those the
installation had when a later import began and wrote none. -/
structure Machine where
  disk : Disk
  running : Bool
  promised : Contents

/-- No import is pending, and the daemon runs. -/
def Machine.start (disk : Disk) : Machine where
  disk := disk
  running := true
  promised := disk.contents

/-- What happens to the machine: the daemon stages an import, or the machine
boots.  Either is cut off at a state it passes, or not at all. -/
inductive ImportEvent where
  | stage (archive : BundleArchive) (stagedAtUnixMs : Int)
      (order : DirectoryOrder) (stop : Option Nat)
  | boot (boot : Boot) (stop : Option Nat)

section Machine

variable (formats : Formats)

/-- What an uninterrupted application of the staged import makes of the
installation. -/
def uninterrupted (disk : Disk) : Contents :=
  (applyPendingImport formats Boot.plain disk).final.contents

def returnsOk {σ ε : Type} (program : Interruptible σ ε Unit) (state : σ) :
    Bool :=
  match (program state).result with
  | .ok _ => true
  | .error _ => false

/-- The write of an import runs to its end. -/
def stages (disk : Disk) (archive : BundleArchive) (stagedAtUnixMs : Int)
    (order : DirectoryOrder) (stop : Option Nat) : Bool :=
  stop.isNone && returnsOk (writeStaging formats order archive
    (importMarker formats archive stagedAtUnixMs)) disk

def promisedAfter (machine : Machine) (left : Disk) (written : Bool) :
    Contents :=
  if written then uninterrupted formats left
  else if left.marker.isNone then machine.disk.contents
  else machine.promised

def Machine.step (machine : Machine) : ImportEvent → Option Machine
  | .stage archive stagedAtUnixMs order stop =>
      if machine.running then
        ((writeStaging formats order archive
          (importMarker formats archive stagedAtUnixMs)).leaves machine.disk
            stop).map fun left =>
          { disk := left
            running := stop.isNone
            promised := promisedAfter formats machine left
              (stages formats machine.disk archive stagedAtUnixMs order
                stop) }
      else
        none
  | .boot boot stop =>
      ((applyPendingImport formats boot).leaves machine.disk stop).map
        fun left =>
          { machine with
            disk := left
            running := stop.isNone &&
              returnsOk (applyPendingImport formats boot) machine.disk }

/-- An import that is written to its end can be applied, and no boot is cut off
after its clean-up has removed a member that the apply needs and before it has
removed the marker. -/
def OutsideCleanUp (machine : Machine) : ImportEvent → Prop
  | .stage archive _ _ stop => stop = none → Applicable formats archive
  | .boot boot stop => ∀ left,
      (applyPendingImport formats boot).leaves machine.disk stop = some left →
      left.marker.isSome = true → ∀ member ∈ neededMembers,
        left.staging.find member = machine.disk.staging.find member

end Machine

section CrashSafety

variable {formats : Formats} {machine next : Machine} {event : ImportEvent}

/-- No import is pending, or one that a boot can take up. -/
inductive Resumable (formats : Formats) (machine : Machine) : Prop where
  | idle (noMarker : machine.disk.marker = none)
      (contents : machine.disk.contents = machine.promised)
  | pending {archive : BundleArchive} {base : Contents}
      (applicable : Applicable formats archive)
      (pending : Pending formats archive base machine.disk)
      (promised : Decodes formats archive →
        machine.promised = installed formats archive base)

theorem meets_apply_of_noMarker {boot : Boot} {disk : Disk}
    (noMarker : disk.marker = none) :
    Meets (applyPendingImport formats boot) disk (fun _ left => left = disk)
      (fun _ _ => False) (fun _ => False) := by
  apply meets_bind
  apply meets_look
  simp only [noMarker]
  exact meets_pure rfl

theorem returned_of_meets {σ ε : Type} {program : Interruptible σ ε Unit}
    {before : σ} {returns : Unit → σ → Prop} {stops : σ → Prop}
    (meets : Meets program before returns (fun _ _ => False) stops) :
    (program before).result = .ok () ∧ returns () (program before).final := by
  cases isResult : (program before).result with
  | error error => exact (meets.failed error isResult).elim
  | ok value => exact ⟨rfl, meets.returned value isResult⟩

theorem uninterrupted_eq {archive : BundleArchive} {base : Contents}
    {disk : Disk} (applicable : Applicable formats archive)
    (pending : Pending formats archive base disk)
    (decodes : Decodes formats archive) :
    uninterrupted formats disk = installed formats archive base := by
  have applies := meets_applyPendingImport Boot.plain applicable pending
  rcases (returned_of_meets applies).2 with
    ⟨_, applied⟩ | ⟨_, heldUp⟩
  · exact applied.contents
  · obtain ⟨key, refused⟩ := heldUp decodes
    cases refused

theorem Written.pending {archive : BundleArchive} {before after : Disk}
    {marker : PendingImportMarker}
    (written : Written formats archive marker before after)
    (isCurrent : marker.schemaVer = pendingImportSchemaVer) :
    Pending formats archive before.contents after where
  marker := ⟨marker, written.marker, isCurrent⟩
  staged := fun member => .inl (written.staging member)
  needed := fun member _ => written.staging member
  files := by
    intro path notSidecar
    cases isMember : memberOf path with
    | none =>
        right
        rw [written.live]
        simp [installed, notSidecar, isMember, Disk.contents]
    | some member =>
        cases found : archive.find member with
        | none =>
            right
            rw [written.live]
            simp [installed, notSidecar, isMember, found, Disk.contents]
        | some bytes =>
            left
            refine ⟨member, rfl, ?_⟩
            rw [written.staging member, found]
            rfl
  secrets := by
    intro key _
    rw [written.secrets]
    rfl

theorem Unwritten.contents {before after : Disk}
    (unwritten : Unwritten before after) :
    after.contents = before.contents := by
  unfold Disk.contents
  rw [unwritten.live, unwritten.secrets]

theorem resumable_of_unwritten {left : Disk}
    (resumable : Resumable formats machine)
    (unwritten : Unwritten machine.disk left)
    (isNext : next.disk = left)
    (promised : next.promised = promisedAfter formats machine left false) :
    Resumable formats next := by
  subst isNext
  by_cases noMarker : next.disk.marker = none
  · apply Resumable.idle noMarker
    rw [promised, unwritten.contents]
    simp [promisedAfter, noMarker]
  · have same := unwritten.marker.resolve_left noMarker
    have isPromised : next.promised = machine.promised := by
      rw [promised]
      simp [promisedAfter, noMarker]
    rw [same] at noMarker
    cases resumable with
    | idle absent _ => exact absurd absent noMarker
    | pending applicable pending promise =>
        rw [← same] at pending
        rw [← isPromised] at promise
        exact Resumable.pending applicable pending promise

theorem resumable_of_step (resumable : Resumable formats machine)
    (outside : OutsideCleanUp formats machine event)
    (stepped : machine.step formats event = some next) :
    Resumable formats next := by
  cases event with
  | stage archive stagedAtUnixMs order stop =>
      have running : machine.running = true := by
        by_contra notRunning
        simp [Machine.step, notRunning] at stepped
      simp only [Machine.step, running, if_true] at stepped
      obtain ⟨left, leaves, isNext⟩ := Option.map_eq_some_iff.mp stepped
      rcases meets_writeStaging.of_leaves leaves with
        ⟨isWhole, _, isOk, written⟩ | ⟨isWhole, _, isError, unwritten, _⟩ |
        ⟨isCut, unwritten⟩
      · subst isWhole isNext
        have applicable := outside rfl
        have pending := written.pending rfl
        apply Resumable.pending applicable pending
        intro decodes
        have whole : stages formats machine.disk archive stagedAtUnixMs order
            none = true := by
          simp [stages, returnsOk, isOk]
        rw [whole]
        exact uninterrupted_eq applicable pending decodes
      · subst isNext
        apply resumable_of_unwritten resumable unwritten rfl
        have failed : stages formats machine.disk archive stagedAtUnixMs order
            stop = false := by
          simp [stages, returnsOk, isError]
        rw [failed]
      · subst isNext
        apply resumable_of_unwritten resumable unwritten rfl
        have cut : stages formats machine.disk archive stagedAtUnixMs order
            stop = false := by
          simp [stages, isCut]
        rw [cut]
  | boot boot stop =>
      obtain ⟨left, leaves, isNext⟩ := Option.map_eq_some_iff.mp stepped
      subst isNext
      cases resumable with
      | idle noMarker contents =>
          rcases (meets_apply_of_noMarker noMarker).of_leaves leaves with
            ⟨_, _, _, same⟩ | ⟨_, _, _, impossible⟩ | ⟨_, impossible⟩
          · subst same
            exact Resumable.idle noMarker contents
          · exact impossible.elim
          · exact impossible.elim
      | pending applicable pending promised =>
          have applies := meets_applyPendingImport boot applicable pending
          rcases applies.of_leaves leaves with
            ⟨_, _, _, ⟨decodes, applied⟩ | ⟨stillPending, _⟩⟩ |
            ⟨_, _, _, impossible⟩ | ⟨_, cutOff⟩
          · apply Resumable.idle applied.marker
            rw [applied.contents, promised decodes]
          · exact Resumable.pending applicable stillPending promised
          · exact impossible.elim
          · have needed := outside left leaves cutOff.marker
            exact Resumable.pending applicable (cutOff.pending needed) promised

end CrashSafety

/-! ## A boot that is cut off -/

namespace Sample

open Text

def secretsFile : SecretsFile where
  secrets := Table.put ∅ "kek:v1:profile:default" "BQ=="

def secretsText : List UInt8 :=
  asBytes ("\x7b\n  \"secrets\": \x7b\n" ++
    "    \"kek:v1:profile:default\": \"BQ==\"\n  \x7d\n\x7d")

def marker : PendingImportMarker where
  schemaVer := 1
  stagingDir := "import-staging"
  hasKek := true
  stagedAtUnixMs := 1700000000000

def markerText : List UInt8 :=
  asBytes ("\x7b\n  \"schema_ver\": 1,\n" ++
    "  \"staging_dir\": \"import-staging\",\n" ++
    "  \"has_kek\": true,\n" ++
    "  \"staged_at_unix_ms\": 1700000000000\n\x7d")

theorem markerText_not_zeros : markerText.all (· = 0) = false := by
  decide +kernel

def formats : Formats where
  marker := SerdeJson.ofText marker markerText markerText_not_zeros
  secrets := SerdeJson.ofText secretsFile secretsText (by decide +kernel)
  base64 := Base64.ofText [5] "BQ==" (by decide +kernel)

def archive : BundleArchive :=
  Table.putEach Prod.fst Prod.snd ∅ [
    (manifestMember, [0]), (dbMember, [1, 1]), (keyslotMember, [2]),
    (deviceIdMember, [3]), (setupStatusMember, [4]),
    (secretsMember, secretsText)]

/-- An installation with a database that was not closed. -/
def disk : Disk where
  staging := ∅
  marker := none
  markerTmp := none
  live := Table.putEach Prod.fst Prod.snd ∅ [(.db, [9]), (.dbWal, [9])]
  secrets := ∅

def staged : Disk :=
  (writeStaging formats DirectoryOrder.asMade archive marker disk).final

def cutOff (stop : Nat) : Disk :=
  (applyPendingImport formats Boot.plain staged).passed.getD stop staged

theorem archive_applicable : Applicable formats archive where
  parses := by
    have staged : archive.find secretsMember = some secretsText := by
      decide +kernel
    have parsed : formats.secrets.fromSlice secretsText =
        some secretsFile := by
      simp [formats, SerdeJson.ofText]
    exact ⟨secretsFile, Option.bind_eq_some_iff.mpr ⟨_, staged, parsed⟩⟩
  required := fun _ => by decide +kernel
  settings := fun _ => by decide +kernel

def stagedMachine : Machine where
  disk := staged
  running := true
  promised := uninterrupted formats staged

def cutOffMachine (stop : Nat) : Machine where
  disk := cutOff stop
  running := false
  promised := uninterrupted formats staged

theorem stage_step :
    (Machine.start disk).step formats
      (.stage archive 1700000000000 DirectoryOrder.asMade none) =
        some stagedMachine := by
  have isMarker : importMarker formats archive 1700000000000 = marker := by
    decide +kernel
  have isWritten : stages formats disk archive 1700000000000
      DirectoryOrder.asMade none = true := by
    decide +kernel
  simp only [Machine.step, Machine.start, promisedAfter, isWritten, isMarker]
  rfl

theorem cutOff_step {stop : Nat}
    (inside : stop < (applyPendingImport formats Boot.plain
      staged).passed.length) :
    stagedMachine.step formats (.boot Boot.plain (some stop)) =
      some (cutOffMachine stop) := by
  have isCut : (applyPendingImport formats Boot.plain).leaves staged
      (some stop) = some (cutOff stop) := by
    unfold cutOff
    rw [List.getD_eq_getElem?_getD]
    change (applyPendingImport formats Boot.plain staged).passed[stop]? = _
    rw [List.getElem?_eq_getElem inside]
    rfl
  simp only [Machine.step, stagedMachine, isCut]
  rfl

end Sample

end OpenClipboard.ConfigMigration
