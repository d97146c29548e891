import OpenClipboard.Core.WriteGuard

/-!
# The clipboard watcher's dedup

Every observed snapshot goes through the guards of `emitWithDedupAt`: the
repeated key, the burst of same-size images, the storm of images that cannot be
decoded, and the window after a file copy.  What passes is sent to the channel,
and only then the guards remember it.  Instants are milliseconds.
-/

namespace OpenClipboard

open Text ContentHash

def fileDedupWindow : Nat := 500

def imageStormMaxGap : Nat := 5000

def imageBurstBreakerWindow : Nat := 1500

def imageBurstSizeTolerancePercent : Int := 1

def meaningfulRededupWindow : Nat := 2000

def maxFingerprintDecodeBytes : Nat := 64 * 1024 * 1024

structure ImageBurst where
  at_ : Nat
  size : Int
  latched : Bool
  deriving DecidableEq, Repr

/-- The state of the guards. -/
structure ClipboardWatcher where
  lastMeaningful : Option (String × Nat)
  lastFileEmitTime : Option Nat
  lastImageSeen : Option (Nat × Int)
  imageBurst : Option ImageBurst
  deriving DecidableEq, Repr

/-- Decoded pixels, four bytes each. -/
structure RgbaImage where
  width : UInt32
  height : UInt32
  raw : List UInt8
  deriving DecidableEq, Repr

def UInt32.toLeBytes (value : UInt32) : List UInt8 :=
  [value.toUInt8, (value >>> 8).toUInt8, (value >>> 16).toUInt8,
    (value >>> 24).toUInt8]

def opaquePixels : List UInt8 → List UInt8
  | red :: green :: blue :: _ :: rest =>
      red :: green :: blue :: 0xFF :: opaquePixels rest
  | rest => rest

section Watcher

-- `loadFromMemory` is the image decoder
variable (blake3 : Blake3) (readFile : PathBuf → Option (List UInt8))
variable (loadFromMemory : List UInt8 → Option RgbaImage)

/-- The identity of the decoded colours; none for what is empty, too large or
cannot be decoded. -/
def stableImageFingerprint (bytes : List UInt8) : Option String :=
  if bytes.isEmpty || decide (maxFingerprintDecodeBytes < bytes.length) then
    none
  else
    (loadFromMemory bytes).map fun image =>
      hexEncode (blake3 (UInt32.toLeBytes image.width ++
        UInt32.toLeBytes image.height ++ opaquePixels image.raw)).bytes

def approxSameImageSize (left right : Int) : Bool :=
  decide (((left - right).natAbs : Int) * 100 ≤
    max left right * imageBurstSizeTolerancePercent)

def snapshotHasFiles (snapshot : SystemClipboardSnapshot) : Bool :=
  snapshot.representations.any ObservedClipboardRepresentation.isFile

def isImageKey (key : String) : Bool :=
  startsWith key "image:"

/-- The fingerprint stands in for the hash of an image that can be decoded. -/
def imageFingerprint (snapshot : SystemClipboardSnapshot)
    (rawKey : Option String) : Option String :=
  if rawKey.any isImageKey then
    snapshot.primaryImageInlineBytes.bind
      (stableImageFingerprint blake3 loadFromMemory)
  else
    none

def currentDedupeKey (rawKey fingerprint : Option String) : Option String :=
  match rawKey, fingerprint with
  | some key, some fingerprint =>
      if isImageKey key then some ("image:" ++ fingerprint) else rawKey
  | _, _ => rawKey

namespace ClipboardWatcher

def new : ClipboardWatcher := ⟨none, none, none, none⟩

/-- The same key as the last one: for good if it is an image's, and within the
window otherwise. -/
def isRepeatedKey (watcher : ClipboardWatcher) (key : Option String)
    (now : Nat) : Bool :=
  match key, watcher.lastMeaningful with
  | some key, some (lastKey, lastAt) =>
      decide (lastKey = key) &&
        (isImageKey key || decide (now - lastAt < meaningfulRededupWindow))
  | _, _ => false

/-- Where the burst breaker stands with an image of this size: the burst that
goes on, if there is one. -/
def ongoingBurst (watcher : ClipboardWatcher) (size : Int) (now : Nat) :
    Option ImageBurst :=
  watcher.imageBurst.filter fun burst =>
    approxSameImageSize burst.size size &&
      decide (now - burst.at_ < imageBurstBreakerWindow)

/-- An image of the same size as the last, within the gap. -/
def isImageStorm (watcher : ClipboardWatcher) (size : Int) (now : Nat) : Bool :=
  watcher.lastImageSeen.any fun seen =>
    decide (seen.2 = size) && decide (now - seen.1 < imageStormMaxGap)

def isRapidFileEvent (watcher : ClipboardWatcher)
    (snapshot : SystemClipboardSnapshot) (now : Nat) : Bool :=
  snapshotHasFiles snapshot &&
    watcher.lastFileEmitTime.any fun last =>
      decide (now - last < fileDedupWindow)

/-- Whether the snapshot is sent, and the guards afterwards; `none` is the
panic of the key.  `hasRoom` tells that the channel takes it. -/
def emitWithDedupAt (watcher : ClipboardWatcher)
    (snapshot : SystemClipboardSnapshot) (now : Nat) (hasRoom : Bool) :
    Option (Bool × ClipboardWatcher) :=
  (snapshot.meaningfulOriginKey blake3 readFile).map fun rawKey =>
    let isImage := rawKey.any isImageKey
    let fingerprint := imageFingerprint blake3 loadFromMemory snapshot rawKey
    let key := currentDedupeKey rawKey fingerprint
    let burstSize :=
      if fingerprint.isSome then snapshot.primaryImageSizeBytes else none
    let burst := burstSize.bind fun size => watcher.ongoingBurst size now
    let imageSize :=
      if isImage && fingerprint.isNone then
        snapshot.primaryImageSizeBytes
      else
        none
    if watcher.isRepeatedKey key now then
      (false, watcher)
    else
      match burst.filter ImageBurst.latched, imageSize with
      | some _, _ =>
          (false, { watcher with
            imageBurst := burstSize.map fun size => ⟨now, size, true⟩ })
      | none, imageSize =>
          if imageSize.any fun size => watcher.isImageStorm size now then
            (false, { watcher with
              lastImageSeen := imageSize.map fun size => (now, size) })
          else if watcher.isRapidFileEvent snapshot now then
            (false, watcher)
          else if !hasRoom then
            (false, watcher)
          else
            (true, {
              lastMeaningful :=
                match key with
                | some key => some (key, now)
                | none => watcher.lastMeaningful
              lastFileEmitTime :=
                if key.any fun key => startsWith key "files:" then
                  some now
                else
                  watcher.lastFileEmitTime
              lastImageSeen := imageSize.map fun size => (now, size)
              imageBurst :=
                match burstSize with
                | some size => some ⟨now, size, burst.isSome⟩
                | none => if isImage then watcher.imageBurst else none })

end ClipboardWatcher

end Watcher

end OpenClipboard
