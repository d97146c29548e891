import OpenClipboard.Core.Text
import OpenClipboard.Library.ByteReader

/-!
# The V3 binary payload

Timestamp, number of representations, and for each of them its format, its
optional MIME type and its data, every one behind its length.  Writer and reader
check the same maximum lengths.
-/

namespace OpenClipboard

open ByteReader PartialMap Text

structure BinaryRepresentation where
  formatId : String
  mime : Option String
  data : List UInt8
  deriving DecidableEq, Repr

structure ClipboardBinaryPayload where
  tsMs : Int
  representations : List BinaryRepresentation
  deriving DecidableEq, Repr

namespace ClipboardBinaryPayload

def maxRepresentations : Nat := 1024
def maxFormatIdLen : Nat := 1024
def maxMimeLen : Nat := 1024
def maxDataLen : Nat := 268435456

/-- The error of `read_exact` at the end of the input. -/
def unexpectedEof : String := "failed to fill whole buffer"

/-! ## Writing -/

/-- `i64::to_le_bytes`. -/
def writeI64 (value : Int) : List UInt8 :=
  LittleEndian.encode 8 (value % 18446744073709551616).toNat

/-- Bytes behind their length, if it is within the maximum; it then fits the
width. -/
def writeBounded (width max : Nat) (label : String) (bytes : List UInt8) :
    Except String (List UInt8) :=
  if max < bytes.length then
    .error s!"{label} length {bytes.length} exceeds maximum {max}"
  else
    .ok (LittleEndian.encode width bytes.length ++ bytes)

def writeFormatId (formatId : String) : Except String (List UInt8) :=
  writeBounded 2 maxFormatIdLen "format_id" (asBytes formatId)

def writeMime : Option String → Except String (List UInt8)
  | some mime => do
      let bytes ← writeBounded 2 maxMimeLen "mime" (asBytes mime)
      .ok (1 :: bytes)
  | none => .ok [0]

def writeData (data : List UInt8) : Except String (List UInt8) :=
  writeBounded 4 maxDataLen "data" data

def writeRepresentation (rep : BinaryRepresentation) :
    Except String (List UInt8) := do
  let formatId ← writeFormatId rep.formatId
  let mime ← writeMime rep.mime
  let data ← writeData rep.data
  .ok (formatId ++ (mime ++ data))

def encodeTo (payload : ClipboardBinaryPayload) :
    Except String (List UInt8) :=
  if maxRepresentations < payload.representations.length then
    .error (s!"representation count {payload.representations.length}" ++
      s!" exceeds maximum {maxRepresentations}")
  else do
    let representations ← writeAll writeRepresentation payload.representations
    .ok (writeI64 payload.tsMs ++
      (LittleEndian.encode 2 payload.representations.length ++
        representations))

/-! ## Reading

The text of an encoding error is that of the standard library. -/

/-- `i64::from_le_bytes`. -/
def decodeI64 (number : Nat) : Int :=
  if number < 9223372036854775808 then number
  else number - 18446744073709551616

def readBounded (width max : Nat) (label : String) :
    Reader String (List UInt8) := do
  let length ← readNat unexpectedEof width
  require (length ≤ max) s!"{label}_len {length} exceeds maximum {max}"
  readExact unexpectedEof length

section Decode

variable (utf8Error : List UInt8 → String)

/-- `String::from_utf8`. -/
def readUtf8 (label : String) (bytes : List UInt8) : Reader String String :=
  match fromUtf8 bytes with
  | some text => pure text
  | none => throw ("invalid UTF-8 in " ++ label ++ ": " ++ utf8Error bytes)

def readFormatId : Reader String String := do
  let bytes ← readBounded 2 maxFormatIdLen "format_id"
  readUtf8 utf8Error "format_id" bytes

def readMime : Reader String (Option String) := do
  let hasMime ← readNat unexpectedEof 1
  match hasMime with
  | 1 => do
      let bytes ← readBounded 2 maxMimeLen "mime"
      some <$> readUtf8 utf8Error "mime" bytes
  | 0 => pure none
  | other => throw s!"invalid has_mime flag: expected 0 or 1, got {other}"

def readData : Reader String (List UInt8) :=
  readBounded 4 maxDataLen "data"

def readRepresentation : Reader String BinaryRepresentation := do
  let formatId ← readFormatId utf8Error
  let mime ← readMime utf8Error
  let data ← readData
  pure ⟨formatId, mime, data⟩

def decodeFrom : Reader String ClipboardBinaryPayload := do
  let tsMs ← decodeI64 <$> readNat unexpectedEof 8
  let count ← readNat unexpectedEof 2
  require (count ≤ maxRepresentations)
    s!"rep_count {count} exceeds maximum {maxRepresentations}"
  let representations ← times (readRepresentation utf8Error) count
  pure ⟨tsMs, representations⟩

end Decode

/-! ## What is written is read -/

/-- A timestamp of 64 bits. -/
def IsI64 (value : Int) : Prop :=
  -9223372036854775808 ≤ value ∧ value < 9223372036854775808

theorem reads_writeI64 {value : Int} (isI64 : IsI64 value) (failure : String) :
    Reads (decodeI64 <$> readNat failure 8) (writeI64 value) value := by
  obtain ⟨low, high⟩ := isI64
  have small : (value % 18446744073709551616).toNat < 256 ^ 8 := by
    norm_num
    omega
  have read := (Reads.readNat failure small).map decodeI64
  have isValue : decodeI64 (value % 18446744073709551616).toNat = value := by
    unfold decodeI64
    split <;> omega
  rw [isValue] at read
  exact read

theorem writeBounded_eq_ok {width max : Nat} {label : String}
    {content bytes : List UInt8}
    (written : writeBounded width max label content = .ok bytes) :
    content.length ≤ max ∧
      bytes = LittleEndian.encode width content.length ++ content := by
  unfold writeBounded at written
  split at written
  · cases written
  · rename_i short
    cases written
    exact ⟨not_lt.mp short, rfl⟩

theorem reads_writeBounded {width max : Nat} {label : String}
    {content bytes : List UInt8} (fits : max < 256 ^ width)
    (written : writeBounded width max label content = .ok bytes) :
    Reads (readBounded width max label) bytes content := by
  obtain ⟨short, isBytes⟩ := writeBounded_eq_ok written
  rw [isBytes]
  have length := Reads.readNat unexpectedEof (lt_of_le_of_lt short fits)
  apply length.bind
  apply Reads.after (Reads.require short)
  exact Reads.readExact unexpectedEof rfl

variable (utf8Error : List UInt8 → String)

theorem reads_asBytes (label text : String) :
    Reads (readUtf8 utf8Error label (asBytes text)) [] text := by
  unfold readUtf8
  rw [fromUtf8_asBytes]
  exact Reads.pure text

theorem reads_writeFormatId {formatId : String} {bytes : List UInt8}
    (written : writeFormatId formatId = .ok bytes) :
    Reads (readFormatId utf8Error) bytes formatId := by
  have content := reads_writeBounded (by decide) written
  have text := content.bind (reads_asBytes utf8Error "format_id" formatId)
  rw [List.append_nil] at text
  exact text

theorem reads_writeMime {mime : Option String} {bytes : List UInt8}
    (written : writeMime mime = .ok bytes) :
    Reads (readMime utf8Error) bytes mime := by
  have flag : ∀ value < 256, Reads (readNat unexpectedEof 1)
      [UInt8.ofNat value] value := fun value small =>
    Reads.readNat unexpectedEof (by simpa using small)
  cases mime with
  | none =>
      cases written
      exact (flag 0 (by decide)).bind (Reads.pure none)
  | some mime =>
      obtain ⟨content, isContent, isBytes⟩ := bind_eq_ok_iff.mp written
      cases isBytes
      have read := reads_writeBounded (by decide) isContent
      have text := (reads_asBytes utf8Error "mime" mime).map some
      have both : Reads (do
            let bytes ← readBounded 2 maxMimeLen "mime"
            some <$> readUtf8 utf8Error "mime" bytes)
          (content ++ []) (some mime) :=
        read.bind text
      rw [List.append_nil] at both
      exact (flag 1 (by decide)).bind both

theorem reads_writeRepresentation {rep : BinaryRepresentation}
    {bytes : List UInt8} (written : writeRepresentation rep = .ok bytes) :
    Reads (readRepresentation utf8Error) bytes rep := by
  obtain ⟨formatId, isFormatId, written⟩ := bind_eq_ok_iff.mp written
  obtain ⟨mime, isMime, written⟩ := bind_eq_ok_iff.mp written
  obtain ⟨data, isData, isBytes⟩ := bind_eq_ok_iff.mp written
  cases isBytes
  apply (reads_writeFormatId utf8Error isFormatId).bind
  apply (reads_writeMime utf8Error isMime).bind
  have read : Reads readData data rep.data :=
    reads_writeBounded (by decide) isData
  exact read.result (BinaryRepresentation.mk rep.formatId rep.mime)

theorem reads_encodeTo {payload : ClipboardBinaryPayload} {bytes : List UInt8}
    (isI64 : IsI64 payload.tsMs) (encoded : payload.encodeTo = .ok bytes) :
    Reads (decodeFrom utf8Error) bytes payload := by
  unfold encodeTo at encoded
  split at encoded
  · cases encoded
  · rename_i few
    obtain ⟨reps, areReps, isBytes⟩ := bind_eq_ok_iff.mp encoded
    cases isBytes
    have small : payload.representations.length < 256 ^ 2 := by
      unfold maxRepresentations at few
      norm_num
      omega
    have count := Reads.readNat unexpectedEof small
    have each : Reads (times (readRepresentation utf8Error)
          payload.representations.length) reps
        (payload.representations.map id) :=
      Reads.times areReps fun rep _ piece written =>
        reads_writeRepresentation utf8Error written
    rw [List.map_id] at each
    apply (reads_writeI64 isI64 unexpectedEof).bind
    apply count.bind
    apply Reads.after (Reads.require (not_lt.mp few))
    exact each.result (ClipboardBinaryPayload.mk payload.tsMs)

end ClipboardBinaryPayload

end OpenClipboard
