import OpenClipboard.Library.Table
import OpenClipboard.MobileEngine.Actions

/-!
# The mobile sync engine

The engine keeps one runtime state and shares its watermark with other
processes through a key-value store.  A lock serialises the calls, so a call is
one transition of the engine; what the server answers, the clock and what other
processes write to the store while the call runs are its environment.
-/

namespace OpenClipboard.MobileEngine

open Text

structure ServerConfig where
  baseUrl : String
  username : String
  password : String
  deriving DecidableEq

def sameServer (a b : ServerConfig) : Bool :=
  a.baseUrl == b.baseUrl && a.username == b.username &&
    a.password == b.password

inductive SyncError
  | notInitialized
  | invalidInput (reason : String)
  | network (reason : String)
  | unauthorized
  | notFound
  | serverError (status : Nat)
  | protocolError (status : Nat)
  | decodingFailed (reason : String)
  | cancelled
  | internal (reason : String)
  deriving DecidableEq

def syncErrorToTickKind : SyncError → TickErrorKind
  | .unauthorized => .authFailed
  | .cancelled => .cancelled
  | .network _ => .networkUnreachable
  | .notInitialized | .invalidInput _ | .notFound | .serverError _
  | .protocolError _ | .decodingFailed _ | .internal _ => .otherSyncError

structure LocalContent where
  kind : ClipboardKind
  text : String
  dataName : Option String
  payload : Option (List UInt8)
  deriving DecidableEq

structure SyncSettings where
  autoApply : Bool

inductive PullTrigger
  | routine
  | explicit
  | sseHello
  | sseResync
  | sseUpdate (contentId : String)
  deriving DecidableEq

inductive UpToDateReason
  | alreadySynced
  | selfWritten
  | converged
  | noLocalChange
  | sseShortCircuit
  | consentMode
  deriving DecidableEq

structure SyncedMeta where
  kind : ClipboardKind
  hash : Option String
  contentId : Option String
  text : Option String
  size : Option Int64
  deriving DecidableEq

structure StagedPreview where
  kind : ClipboardKind
  text : String
  size : Option Int64
  deriving DecidableEq

inductive SyncOutcome
  | uploaded (uploaded : SyncedMeta)
  | applied (content : LocalContent) (applied : SyncedMeta)
  | staged (preview : StagedPreview)
  | upToDate (reason : UpToDateReason)
  | backingOff (retryAfterMs : Int)
  | loopDetected
  | failed (error : SyncError)
  deriving DecidableEq

def syncedMetaFromProto (entry : Clipboard) : SyncedMeta where
  kind := entry.kind
  hash := entry.hash
  contentId := entry.contentId
  text := some entry.text
  size := entry.size

def stagedPreviewFromProto (entry : Clipboard) : StagedPreview where
  kind := entry.kind
  text := entry.text
  size := entry.size

/-! ## The shared store -/

abbrev KeyValueStore := Table String (List UInt8)

def lastSyncedHashKey : String := "last_synced_hash"

def lastSyncedContentIdKey : String := "last_synced_content_id"

inductive StoreWrite
  | set (key : String) (value : List UInt8)
  | remove (key : String)

def StoreWrite.apply (store : KeyValueStore) : StoreWrite → KeyValueStore
  | .set key value => store.put key value
  | .remove key => store.remove key

def writeAll (store : KeyValueStore) (writes : List StoreWrite) :
    KeyValueStore :=
  writes.foldl StoreWrite.apply store

/-- A stored text; bytes that are not UTF-8 count as absent. -/
def loadText (store : KeyValueStore) (key : String) : Option String :=
  (store.find key).bind fromUtf8

/-- Store a text, or remove the key. -/
def saveText (store : KeyValueStore) (key : String) :
    Option String → KeyValueStore
  | some text => store.put key (asBytes text)
  | none => store.remove key

/-! ## The engine -/

/-- `EngineState`, with the store it shares. -/
structure Engine where
  server : ServerConfig
  settings : SyncSettings
  cfg : SyncConfig
  runtime : SyncRuntimeState
  store : KeyValueStore

def Engine.new (server : ServerConfig) (cfg : SyncConfig)
    (settings : SyncSettings) (store : KeyValueStore) : Engine where
  server := server
  settings := settings
  cfg := cfg
  runtime := .default
  store := store

/-- What a call meets: the clock, the jittered backoff, the answers of the
client, and the writes of other processes between the two reads of the
watermark, from there to the first write, and between the two writes. -/
structure Surroundings where
  now : Int
  backoffMs : Int → Int
  getLatest : ServerConfig → Except SyncError ClipboardMeta
  getFile : ServerConfig → String → Except SyncError (List UInt8)
  putClipboard : ServerConfig → ClipboardMeta → Option (List UInt8) →
    Except SyncError (Option String)
  betweenReads : List StoreWrite
  duringRequests : List StoreWrite
  betweenWrites : List StoreWrite

/-- A document and its payload, on their way to the server. -/
structure PushJob where
  entry : Clipboard
  payload : Option (List UInt8)

/-- What a call leaves behind: the engine, its answer, and the documents it
asked the client to put. -/
structure Tick where
  engine : Engine
  outcome : SyncOutcome
  puts : List PushJob

def extensionOf (name : String) : Option String :=
  (split name '.').getLast?.filter fun piece => piece ≠ ""

def buildPushEntry (ports : PublishPorts) (content : LocalContent) :
    Except SyncError PushJob :=
  match content.kind with
  | .text =>
      let (entry, payload) := publishText ports content.text
      .ok ⟨entry, payload⟩
  | .image =>
      match content.payload with
      | none =>
          .error (.invalidInput "Image content requires payload bytes")
      | some bytes =>
          let ext := (content.dataName.bind extensionOf).getD "png"
          let (entry, payload) := publishImage ports bytes ext
          .ok ⟨entry, some payload⟩
  | .file =>
      match content.payload with
      | none => .error (.invalidInput "File content requires payload bytes")
      | some bytes =>
          match content.dataName with
          | none => .error (.invalidInput "File content requires data_name")
          | some name =>
              let (entry, payload) := publishFile ports name bytes
              .ok ⟨entry, some payload⟩
  | .group => .error (.invalidInput "Group content cannot be pushed")

def pausedOutcome (runtime : SyncRuntimeState) : Option SyncOutcome :=
  match runtime.state with
  | .authFailed => some (.failed .unauthorized)
  | .loopDetected => some .loopDetected
  | _ => none

def pushSkipReason : PushDecision → UpToDateReason
  | .skipConsentMode => .consentMode
  | .skipNoDevice => .noLocalChange
  | .skipAlreadySynced => .alreadySynced
  | .skipSelfWritten => .selfWritten
  | .doPush => .noLocalChange

namespace Surroundings

variable (env : Surroundings)

/-- `get_latest_entry`: an empty server answers not found. -/
def getLatestEntry (server : ServerConfig) :
    Except SyncError (Option Clipboard) :=
  match env.getLatest server with
  | .ok document => .ok (some document.intoProto)
  | .error .notFound => .ok none
  | .error error => .error error

def fetchContent (server : ServerConfig) (entry : Clipboard) :
    Except SyncError LocalContent :=
  let content (payload : Option (List UInt8)) : LocalContent :=
    ⟨entry.kind, entry.text, entry.dataName, payload⟩
  if entry.hasData then
    match entry.dataName with
    | none =>
        .error (.decodingFailed "server entry has_data but no data_name")
    | some name =>
        match env.getFile server name with
        | .ok bytes => .ok (content (some bytes))
        | .error error => .error error
  else
    .ok (content none)

end Surroundings

structure RouteRequest where
  autoApply : Bool
  autoPush : Bool
  deviceHash : Option String
  devicePresent : Bool
  pushJob : Option PushJob

/-- What the plan reads once the server has answered. -/
def RouteRequest.snapshot (req : RouteRequest) (entry : Option Clipboard) :
    ServerGetSnapshot :=
  ⟨req.autoApply, req.autoPush, entry, req.devicePresent, req.deviceHash⟩

namespace Engine

variable (casing : Uppercase) (ports : PublishPorts)
variable (engine : Engine) (env : Surroundings)

def foldPersistedWatermark : Engine :=
  let persistedHash := loadText engine.store lastSyncedHashKey
  let store := writeAll engine.store env.betweenReads
  let persistedContentId := loadText store lastSyncedContentIdKey
  { engine with
    store := store
    runtime :=
      foldWatermark casing engine.runtime persistedHash persistedContentId }

def persistWatermark : Engine :=
  let store := saveText engine.store lastSyncedHashKey
    engine.runtime.lastSyncedHash
  let store := writeAll store env.betweenWrites
  { engine with
    store := saveText store lastSyncedContentIdKey
      engine.runtime.lastSyncedContentId }

/-- Other processes write while the requests of a call are under way. -/
def whileRequesting : Engine :=
  { engine with store := writeAll engine.store env.duringRequests }

def withRuntime (runtime : SyncRuntimeState) : Engine :=
  { engine with runtime := runtime }

def failTick (error : SyncError) : Engine :=
  engine.withRuntime (commitTickFailure engine.runtime
    (syncErrorToTickKind error) env.backoffMs env.now).1

/-- Save the watermark after a commit, then drop the backoff. -/
def persistAndSucceed (runtime : SyncRuntimeState) : Engine :=
  let saved := (engine.withRuntime runtime).persistWatermark env
  saved.withRuntime (commitTickSuccess saved.runtime)

def doPush (job : PushJob) : Tick :=
  match env.putClipboard engine.server (.fromProto job.entry) job.payload with
  | .ok contentId =>
      let (runtime, tripped) := commitPush casing engine.runtime
        job.entry.hash contentId env.now engine.cfg
      { engine := engine.persistAndSucceed env runtime
        outcome :=
          if tripped then .loopDetected
          else .uploaded (syncedMetaFromProto job.entry)
        puts := [job] }
  | .error error =>
      { engine := engine.failTick env error
        outcome := .failed error
        puts := [job] }

def handleServerNew (plan : ServerNewPlan) (serverEntry : Clipboard) :
    Tick :=
  if plan.alreadyStaged then
    { engine := engine.withRuntime (commitTickSuccess engine.runtime)
      outcome := .staged (stagedPreviewFromProto serverEntry)
      puts := [] }
  else if !plan.willApply then
    let staged := commitStage engine.runtime serverEntry
    { engine := engine.withRuntime (commitTickSuccess staged)
      outcome := .staged (stagedPreviewFromProto serverEntry)
      puts := [] }
  else
    match env.fetchContent engine.server serverEntry with
    | .ok content =>
        let (runtime, tripped) := commitApply casing engine.runtime
          serverEntry.hash serverEntry.contentId env.now engine.cfg
        { engine := engine.persistAndSucceed env runtime
          outcome :=
            if tripped then .loopDetected
            else .applied content (syncedMetaFromProto serverEntry)
          puts := [] }
    | .error error =>
        let parked := commitApplyFailed engine.runtime serverEntry
        { engine := (engine.withRuntime parked).failTick env error
          outcome := .failed error
          puts := [] }

/-- A routed call that flows nothing. -/
def skipPush (reason : UpToDateReason) : Tick where
  engine := engine.withRuntime
    (commitTickSuccess (commitPushSkipped engine.runtime))
  outcome := .upToDate reason
  puts := []

def followRoute (req : RouteRequest) (entry : Option Clipboard) : Tick :=
  match planAfterServerGet casing engine.runtime (req.snapshot entry) with
  | .converged serverHash =>
      let contentId := entry.bind Clipboard.contentId
      { engine := engine.persistAndSucceed env
          (commitConverged casing engine.runtime serverHash contentId)
        outcome := .upToDate .converged
        puts := [] }
  | .serverNew plan =>
      match entry with
      | none =>
          { engine := engine
            outcome := .failed
              (.internal "ServerNew route without a server entry")
            puts := [] }
      | some serverEntry => engine.handleServerNew casing env plan serverEntry
  | .push decision =>
      match decision, req.pushJob with
      | .doPush, some job => engine.doPush casing env job
      | decision, some _ => engine.skipPush (pushSkipReason decision)
      | _, none => engine.skipPush .alreadySynced

def runRoute (req : RouteRequest) : Tick :=
  let engine := engine.whileRequesting env
  match env.getLatestEntry engine.server with
  | .error error =>
      { engine := engine.failTick env error
        outcome := .failed error
        puts := [] }
  | .ok entry => engine.followRoute casing env req entry

/-- A call that stops before any request. -/
def stopped (outcome : SyncOutcome) : Tick where
  engine := engine
  outcome := outcome
  puts := []

def push (content : LocalContent) : Tick :=
  match buildPushEntry ports content with
  | .error error => engine.stopped (.failed error)
  | .ok job =>
      let engine := engine.foldPersistedWatermark casing env
      match pausedOutcome engine.runtime with
      | some outcome => engine.stopped outcome
      | none =>
          engine.runRoute casing env
            { autoApply := engine.settings.autoApply
              autoPush := true
              deviceHash := job.entry.hash
              devicePresent := true
              pushJob := some job }

/-- The content id of a server event that the watermark already has. -/
def shortCircuits (trigger : PullTrigger) : Bool :=
  match trigger with
  | .sseUpdate contentId =>
      nonemptyContentId (some contentId) ==
          nonemptyContentId engine.runtime.lastSyncedContentId &&
        (nonemptyContentId (some contentId)).isSome
  | _ => false

/-- The rest of the backoff window, for a routine call inside it. -/
def backingOff (trigger : PullTrigger) (now : Int) : Option Int :=
  if trigger = .routine then
    (engine.runtime.nextAttemptMs.filter (now < ·)).map (· - now)
  else
    none

def pull (trigger : PullTrigger) (currentDeviceHash : Option String) :
    Tick :=
  let engine := engine.foldPersistedWatermark casing env
  match pausedOutcome engine.runtime with
  | some outcome => engine.stopped outcome
  | none =>
      if engine.shortCircuits trigger then
        engine.stopped (.upToDate .sseShortCircuit)
      else
        match engine.backingOff trigger env.now with
        | some retryAfterMs => engine.stopped (.backingOff retryAfterMs)
        | none =>
            engine.runRoute casing env
              { autoApply := engine.settings.autoApply
                autoPush := false
                deviceHash := currentDeviceHash
                devicePresent := currentDeviceHash.isSome
                pushJob := none }

def applyStaged : Tick :=
  match engine.runtime.stagedEntry with
  | none =>
      engine.stopped
        (.failed (.invalidInput "apply_staged called with nothing staged"))
  | some entry =>
      let engine := engine.whileRequesting env
      match env.fetchContent engine.server entry with
      | .error error =>
          { engine := engine.failTick env error
            outcome := .failed error
            puts := [] }
      | .ok content =>
          let (runtime, wasStaged) := markStagedApplied casing engine.runtime
          if !wasStaged then
            (engine.withRuntime runtime).stopped (.failed
              (.internal "mark_staged_applied no-op despite a staged entry"))
          else
            { engine := engine.persistAndSucceed env runtime
              outcome := .applied content (syncedMetaFromProto entry)
              puts := [] }

/-- `set_server`; other processes may write between the two removals. -/
def setServer (server : ServerConfig) (betweenRemoves : List StoreWrite) :
    Engine :=
  if !sameServer engine.server server then
    let store := writeAll (engine.store.remove lastSyncedHashKey)
      betweenRemoves
    { engine with
      server := server
      runtime := handleActiveServerChanged engine.runtime
      store := store.remove lastSyncedContentIdKey }
  else
    { engine with server := server }

end Engine

/-! ## Calls -/

inductive EngineCall
  | push (env : Surroundings) (content : LocalContent)
  | pull (env : Surroundings) (trigger : PullTrigger)
      (currentDeviceHash : Option String)
  | applyStaged (env : Surroundings)
  | setServer (server : ServerConfig) (betweenRemoves : List StoreWrite)
  | handleNetworkRouteChanged
  | setSettings (settings : SyncSettings)
  | acknowledgeLoopDetected
  | otherProcess (write : StoreWrite)

namespace EngineCall

variable (casing : Uppercase) (ports : PublishPorts)

/-- The answer of a call that has one. -/
def tick (engine : Engine) : EngineCall → Option Tick
  | .push env content => some (engine.push casing ports env content)
  | .pull env trigger currentDeviceHash =>
      some (engine.pull casing env trigger currentDeviceHash)
  | .applyStaged env => some (engine.applyStaged casing env)
  | _ => none

/-- The engine after a call. -/
def perform (engine : Engine) : EngineCall → Engine
  | .push env content => (engine.push casing ports env content).engine
  | .pull env trigger currentDeviceHash =>
      (engine.pull casing env trigger currentDeviceHash).engine
  | .applyStaged env => (engine.applyStaged casing env).engine
  | .setServer server betweenRemoves =>
      engine.setServer server betweenRemoves
  | .handleNetworkRouteChanged =>
      engine.withRuntime (MobileEngine.handleNetworkRouteChanged engine.runtime)
  | .setSettings settings => { engine with settings := settings }
  | .acknowledgeLoopDetected =>
      engine.withRuntime (acknowledgeLoopDetection engine.runtime)
  | .otherProcess write => { engine with store := write.apply engine.store }

end EngineCall

def EngineCall.step (casing : Uppercase) (ports : PublishPorts)
    (engine : Engine) (call : EngineCall) : Option Engine :=
  some (call.perform casing ports engine)

def Engine.runCalls (casing : Uppercase) (ports : PublishPorts)
    (engine : Engine) (calls : List EngineCall) : Engine :=
  calls.foldl (EngineCall.perform casing ports) engine

namespace PhoneSample

/-- Uppercase on ASCII, and the letter whose uppercase has two. -/
def casing : Uppercase where
  map c := if c = 'ß' then ['S', 'S'] else [c.toUpper]
  ascii c isAscii := by
    have different : c ≠ 'ß' := by
      intro same
      rw [same] at isAscii
      exact absurd isAscii (by decide)
    rw [if_neg different]
  nonempty c := by
    split <;> simp

/-- The hash of the text `H`. -/
def hashOfH : String :=
  "44BD7AE60F478FAE1061E11A7739F4B94D1DAF917982D33B6FC8A01A63F89C21"

/-- The phone publishes no other text. -/
def ports : PublishPorts where
  graphemes text := text.toList.map fun c => String.ofList [c]
  sha256HexUpper _ := hashOfH

def server : ServerConfig := ⟨"http://192.168.1.5:42720", "phone", "secret"⟩

def cfg : SyncConfig := ⟨30000, 3⟩

def textDocument (text : String) (hash contentId : Option String) :
    ClipboardMeta where
  kind := .text
  text := text
  dataName := none
  hasData := false
  size := 1
  hash := hash
  contentId := contentId

/-- The server answers with a document and accepts what is put. -/
def answering (document : ClipboardMeta) : Surroundings where
  now := 1000
  backoffMs := fun _ => 5000
  getLatest _ := .ok document
  getFile _ _ := .error .notFound
  putClipboard _ _ _ := .ok none
  betweenReads := []
  duringRequests := []
  betweenWrites := []

def textOfH : LocalContent := ⟨.text, "H", none, none⟩

/-- An engine that has just started. -/
def phone : Engine := .new server cfg ⟨true⟩ ∅

end PhoneSample

end OpenClipboard.MobileEngine
