import OpenClipboard.ActiveState.Device
import OpenClipboard.Core.WriteGuard
import OpenClipboard.Outbound.Publish

/-!
# One inbound delivery

`execute` decodes a delivery, looks its hash up, re-activates content that is
held, and else materialises, stores and activates it.  Two caches of what was
applied a moment ago stop repeated deliveries.  The detached clipboard write is
taken to end before the next delivery; what a delivery does to the store is
answered by the ports.
-/

namespace OpenClipboard.ApplyInbound

open ContentHash

/-- A byte-identical frame within this many milliseconds is one clip. -/
def rapidDuplicateWindow : Nat := 200

/-- The same visible content under another hash. -/
def visibleDuplicateWindow : Nat := 2000

/-- A cache of entries by key, the latest first, each with the instant it was
inserted at. -/
abbrev RecentCache := List (String × EntryId × Nat)

namespace RecentCache

/-- An entry is there until its time to live is over. -/
def get (cache : RecentCache) (ttl now : Nat) (key : String) : Option EntryId :=
  match cache.find? fun entry => decide (entry.1 = key) with
  | some (_, entryId, insertedAt) =>
      if now < insertedAt + ttl then some entryId else none
  | none => none

def insert (cache : RecentCache) (now : Nat) (key : String)
    (entryId : EntryId) : RecentCache :=
  (key, entryId, now) :: cache

/-- What the cache drops to keep within its capacity. -/
def evict (cache : RecentCache) (evicted : String → Bool) : RecentCache :=
  cache.filter fun entry => !evicted entry.1

end RecentCache

structure Envelope where
  snapshot : SystemClipboardSnapshot
  blobRefs : List V3BlobRef
  fileSetManifest : Option InboundFileSetManifest
  deriving DecidableEq, Repr

/-- What the materialiser makes of the representations; it leaves the
timestamp. -/
structure MaterializeResult where
  representations : List ObservedClipboardRepresentation
  fileContentDigests : List Digest
  fileSetV1Component : Option Digest
  isPartial : Bool
  deriving DecidableEq, Repr

def MaterializeResult.snapshot (result : MaterializeResult) (tsMs : Int) :
    SystemClipboardSnapshot where
  tsMs := tsMs
  representations := result.representations
  fileContentDigests := result.fileContentDigests
  fileSetV1Component := result.fileSetV1Component

structure ApplyInboundInput where
  fromDevice : DeviceId
  snapshotHash : String
  plaintext : List UInt8
  resurfaceIntent : ClipboardWriteIntent
  deriving DecidableEq, Repr

inductive ApplyOutcome where
  | applied (entryId : EntryId)
  | resurfaced (snapshotHash : String) (existingEntryId : EntryId)
      (osWriteSucceeded : Bool)
  | duplicateSkipped (snapshotHash : String) (existingEntryId : EntryId)
  | decodeFailed (reason : String)
  deriving DecidableEq, Repr

inductive ApplyInboundError where
  | dedupQuery (message : String)
  | capture (message : String)
  | internal (message : String)
  deriving DecidableEq, Repr

/-- What the ports and the clock answer to one delivery. -/
structure InboundPorts where
  nowMs : Nat
  evictedHash : String → Bool
  evictedVisible : String → Bool
  blake3 : Blake3
  readFile : PathBuf → Option (List UInt8)
  decode : List UInt8 → Except String Envelope
  findEntryIdBySnapshotHash : String → Except String (Option EntryId)
  availability : Option (EntryId → Except String Bool)
  newEntryId : EntryId
  blobMaterializer : Option (DeviceId → EntryId → Envelope →
    Except String MaterializeResult)
  capture : EntryId → DeviceId → SystemClipboardSnapshot → Option Digest →
    Except String (Option EntryId)
  replace : EntryId → DeviceId → SystemClipboardSnapshot → Option Digest →
    Except String (Option EntryId)
  resurface : Option (EntryId → Except String SystemClipboardSnapshot)
  write : SystemClipboardSnapshot → ClipboardWriteIntent → Except String Unit
  activeRegister : Option AdvanceEnv
  isMobileConsumable : EntryId → Bool

structure InboundDevice where
  register : Option RegisterRow
  osClipboard : Option ClipboardContent
  recentSnapshotHashes : RecentCache
  recentVisibleContent : RecentCache
  deriving DecidableEq, Repr

section Execute

variable (ports : InboundPorts) (input : ApplyInboundInput)

/-- `AdvanceActiveClipboardPort::advance`, whose error is swallowed. -/
def advanceActiveRegister (entryId : EntryId) (activatedAtMs : Int)
    (device : InboundDevice) : InboundDevice :=
  match ports.activeRegister with
  | none => device
  | some env =>
      let state : ActiveClipboardState := {
        snapshotHash := input.snapshotHash
        entryId := entryId
        activatedAtMs := activatedAtMs
        activatedBy := input.fromDevice }
      { device with
        register := (advance env device.register state
          (ports.isMobileConsumable entryId)).2 }

/-- The clipboard holds what was written, under the hash of the delivery. -/
def putOs (snapshot : SystemClipboardSnapshot) (device : InboundDevice) :
    InboundDevice :=
  { device with osClipboard := some ⟨snapshot, input.snapshotHash⟩ }

/-- The detached write, whose failure is only logged. -/
def writeOs (snapshot : SystemClipboardSnapshot) (device : InboundDevice) :
    InboundDevice :=
  match ports.write snapshot .remotePush with
  | .ok () => putOs input snapshot device
  | .error _ => device

def isRecentHash (device : InboundDevice) : Option EntryId :=
  RecentCache.get device.recentSnapshotHashes rapidDuplicateWindow ports.nowMs
    input.snapshotHash

def findRecentDuplicate (visibleKey : Option String) (device : InboundDevice) :
    Option EntryId :=
  match isRecentHash ports input device with
  | some entryId => some entryId
  | none => visibleKey.bind fun key =>
      RecentCache.get device.recentVisibleContent visibleDuplicateWindow
        ports.nowMs key

def rememberRecentInbound (visibleKey : Option String) (entryId : EntryId)
    (device : InboundDevice) : InboundDevice :=
  { device with
    recentSnapshotHashes := RecentCache.insert device.recentSnapshotHashes
      ports.nowMs input.snapshotHash entryId
    recentVisibleContent :=
      match visibleKey with
      | some key => RecentCache.insert device.recentVisibleContent ports.nowMs
          key entryId
      | none => device.recentVisibleContent }

/-- Without the port, and when the query fails, a match counts as held. -/
def isEntryAvailable (entryId : EntryId) : Bool :=
  match ports.availability with
  | none => true
  | some availability =>
      match availability entryId with
      | .ok isAvailable => isAvailable
      | .error _ => true

/-- Re-activate content that the device holds: the clipboard first, and then
the register. -/
def resurfaceHeldEntry (existing : EntryId) (activatedAtMs : Int)
    (device : InboundDevice) : ApplyOutcome × InboundDevice :=
  let skipped := ApplyOutcome.duplicateSkipped input.snapshotHash existing
  match ports.resurface with
  | none => (skipped, device)
  | some rebuild =>
      if (isRecentHash ports input device).isSome then
        (skipped, device)
      else
        match rebuild existing with
        | .error _ => (skipped, device)
        | .ok snapshot =>
            match ports.write snapshot input.resurfaceIntent with
            | .error _ =>
                (.resurfaced input.snapshotHash existing false, device)
            | .ok () =>
                (.resurfaced input.snapshotHash existing true,
                  advanceActiveRegister ports input existing activatedAtMs
                    (rememberRecentInbound ports input none existing
                      (putOs input snapshot device)))

def verifyFileSetIdentity (actual : Digest) : Except String Unit :=
  if formatBlake3v1 actual = input.snapshotHash then
    .ok ()
  else
    .error ("directory file-set identity mismatch: expected " ++
      input.snapshotHash ++ ", got " ++ formatBlake3v1 actual)

/-- The content of the envelope, and whether it is partial; or how the delivery
ends without it. -/
def materializePayload (entryId : EntryId) (envelope : Envelope) :
    Option (Except (Except ApplyInboundError ApplyOutcome)
      (SystemClipboardSnapshot × Bool)) :=
  if envelope.blobRefs.isEmpty && envelope.fileSetManifest.isNone then
    some (.ok (envelope.snapshot, false))
  else
    match ports.blobMaterializer with
    | none => some (.error (.ok (.decodeFailed
        "payload contains blob refs but no blob materializer is wired")))
    | some materialize =>
        match materialize input.fromDevice entryId envelope with
        | .error message =>
            some (.error (.error (.internal ("blob materialize: " ++ message))))
        | .ok result =>
            let snapshot := result.snapshot envelope.snapshot.tsMs
            if envelope.fileSetManifest.isSome then
              (snapshot.snapshotHash ports.blake3 ports.readFile).map
                fun actual =>
                  match verifyFileSetIdentity input actual with
                  | .error message => .error (.error (.internal message))
                  | .ok () => .ok (snapshot, result.isPartial)
            else
              some (.ok (snapshot, result.isPartial))

/-- Store the content: replace what a partial entry shows, or create. -/
def commit (existing : Option EntryId) (entryId : EntryId)
    (snapshot : SystemClipboardSnapshot) :
    Except ApplyInboundError EntryId :=
  let authoritativeHash := SnapshotHash.parse input.snapshotHash
  let result := match existing with
    | some existing =>
        ports.replace existing input.fromDevice snapshot authoritativeHash
    | none => ports.capture entryId input.fromDevice snapshot authoritativeHash
  match result with
  | .error message => .error (.capture message)
  | .ok (some stored) => .ok stored
  | .ok none => .error (.internal
      (match existing with
      | some _ => "replace returned None for RemotePush origin (unexpected)"
      | none => "capture returned None for RemotePush origin (unexpected)"))

/-- Activate what was stored: the register first, and then the clipboard. -/
def activateApplied (stored : EntryId) (snapshot : SystemClipboardSnapshot)
    (visibleKey : Option String) (device : InboundDevice) : InboundDevice :=
  writeOs ports input snapshot
    (advanceActiveRegister ports input stored snapshot.tsMs
      (rememberRecentInbound ports input visibleKey stored device))

/-- A partial entry is stored but not activated. -/
def storeContent (existing : Option EntryId) (entryId : EntryId)
    (snapshot : SystemClipboardSnapshot) (isPartial : Bool)
    (visibleKey : Option String) (device : InboundDevice) :
    Except ApplyInboundError ApplyOutcome × InboundDevice :=
  match commit ports input existing entryId snapshot with
  | .error err => (.error err, device)
  | .ok stored =>
      if isPartial then
        (.ok (.applied stored), device)
      else
        (.ok (.applied stored),
          activateApplied ports input stored snapshot visibleKey device)

def applyContent (existing : Option EntryId) (envelope : Envelope)
    (device : InboundDevice) :
    Option (Except ApplyInboundError ApplyOutcome × InboundDevice) :=
  let entryId := existing.getD ports.newEntryId
  match materializePayload ports input entryId envelope with
  | none => none
  | some (.error result) => some (result, device)
  | some (.ok (snapshot, isPartial)) =>
      match snapshot.meaningfulOriginKey ports.blake3 ports.readFile, existing
      with
      | none, _ => none
      | some visibleKey, none =>
          match findRecentDuplicate ports input visibleKey device with
          | some recent =>
              some (.ok (.duplicateSkipped input.snapshotHash recent), device)
          | none => some (storeContent ports input none entryId snapshot
              isPartial visibleKey device)
      | some visibleKey, some existing =>
          if isPartial then
            some (.ok (.duplicateSkipped input.snapshotHash existing), device)
          else
            some (storeContent ports input (some existing) entryId snapshot
              isPartial visibleKey device)

/-- One delivery; `none` is a panic. -/
def execute (device : InboundDevice) :
    Option (Except ApplyInboundError ApplyOutcome × InboundDevice) :=
  let device := { device with
    recentSnapshotHashes :=
      RecentCache.evict device.recentSnapshotHashes ports.evictedHash
    recentVisibleContent :=
      RecentCache.evict device.recentVisibleContent ports.evictedVisible }
  match ports.decode input.plaintext with
  | .error reason => some (.ok (.decodeFailed reason), device)
  | .ok envelope =>
      match ports.findEntryIdBySnapshotHash input.snapshotHash with
      | .error message => some (.error (.dedupQuery message), device)
      | .ok none => applyContent ports input none envelope device
      | .ok (some existing) =>
          if isEntryAvailable ports existing then
            let (outcome, after) := resurfaceHeldEntry ports input existing
              envelope.snapshot.tsMs device
            some (.ok outcome, after)
          else
            applyContent ports input (some existing) envelope device

end Execute

end OpenClipboard.ApplyInbound
