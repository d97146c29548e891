import OpenClipboard.ActiveState.ApplyInbound
import OpenClipboard.ActiveState.ServePull
import OpenClipboard.Library.ByteReader
import OpenClipboard.Pairing.Sponsor

/-!
# A pull over one stream

The requester writes the hash, the holder answers with what it serves, and
either direction may break off.  What the requester returns is what the holder
served, whole, or one of its errors.
-/

namespace OpenClipboard.PullWire

open ByteReader LittleEndian Text
open Pairing (IdentityFingerprint Members)

def activePullMagic : Nat := 0xC2
def maxSnapshotHashLen : Nat := 1024
def maxEnvelopeLen : Nat := 16 * 1024 * 1024

inductive PullResponse where
  | envelope (bytes : List UInt8)
  | notAvailable
  | locked
  | internal
  deriving DecidableEq, Repr

inductive PullWireError where
  | badMagic (got expected : Nat)
  | snapshotHashTooLong (len max : Nat)
  | snapshotHashNotUtf8
  | envelopeTooLong (len max : Nat)
  | unknownStatus (got : Nat)
  | io (reason : String)
  deriving DecidableEq, Repr

/-- `{:02X}`. -/
def hexByte (byte : Nat) : String :=
  (String.ofList [ContentHash.hexDigit (byte / 16),
    ContentHash.hexDigit (byte % 16)]).toUpper

def PullWireError.message : PullWireError → String
  | badMagic got expected =>
      s!"bad magic byte: got 0x{hexByte got} (expected 0x{hexByte expected})"
  | snapshotHashTooLong len max =>
      s!"snapshot hash length {len} exceeds maximum {max}"
  | snapshotHashNotUtf8 => "snapshot hash bytes are not valid UTF-8"
  | envelopeTooLong len max =>
      s!"envelope length {len} exceeds maximum {max}"
  | unknownStatus got => s!"unknown response status byte 0x{hexByte got}"
  | io reason => s!"stream io: {reason}"

def toBeBytes (width value : Nat) : List UInt8 :=
  (encode width value).reverse

def writeRequest (snapshotHash : String) :
    Except PullWireError (List UInt8) :=
  let bytes := asBytes snapshotHash
  if bytes.length > maxSnapshotHashLen then
    .error (.snapshotHashTooLong (min bytes.length 65535) maxSnapshotHashLen)
  else
    .ok (encode 1 activePullMagic ++ (toBeBytes 2 bytes.length ++ bytes))

def writeResponse : PullResponse → Except PullWireError (List UInt8)
  | .envelope bytes =>
      if bytes.length > maxEnvelopeLen then
        .error (.envelopeTooLong (min bytes.length 4294967295) maxEnvelopeLen)
      else
        .ok (encode 1 0 ++ (toBeBytes 4 bytes.length ++ bytes))
  | .notAvailable => .ok (encode 1 1)
  | .locked => .ok (encode 1 2)
  | .internal => .ok (encode 1 3)

section Reading

variable (reason : String)

def fromBeBytes (width : Nat) : Reader PullWireError Nat :=
  (fun bytes => decode bytes.reverse) <$> readExact (.io reason) width

def readRequest : Reader PullWireError String := do
  let magic ← readNat (.io reason) 1
  require (magic = activePullMagic) (.badMagic magic activePullMagic)
  let len ← fromBeBytes reason 2
  require (len ≤ maxSnapshotHashLen)
    (.snapshotHashTooLong len maxSnapshotHashLen)
  let body ← readExact (.io reason) len
  match fromUtf8 body with
  | some snapshotHash => pure snapshotHash
  | none => throw .snapshotHashNotUtf8

def readResponse : Reader PullWireError PullResponse := do
  let status ← readNat (.io reason) 1
  match status with
  | 0 => do
      let len ← fromBeBytes reason 4
      require (len ≤ maxEnvelopeLen) (.envelopeTooLong len maxEnvelopeLen)
      PullResponse.envelope <$> readExact (.io reason) len
  | 1 => pure .notAvailable
  | 2 => pure .locked
  | 3 => pure .internal
  | _ => throw (.unknownStatus status)

end Reading

/-! ## Holder and requester -/

/-- The first member whose fingerprint is that of the remote endpoint. -/
def resolveDevice (derived : Except String IdentityFingerprint)
    (members : Except String Members) : Option DeviceId :=
  match derived, members with
  | .ok fingerprint, .ok rows =>
      (rows.entries.find? fun row =>
        decide (row.2.identityFingerprint = fingerprint)).map Sigma.fst
  | _, _ => none

def toResponse :
    Except ActiveClipboardPullServeError (List UInt8) → PullResponse
  | .ok envelope => .envelope envelope
  | .error .notAvailable => .notAvailable
  | .error .notUnlocked => .locked
  | .error (.internal _) => .internal

/-- What the holder writes before it lets the connection go. -/
def accept (reason : String) (device : Option DeviceId)
    (served : String → Except ActiveClipboardPullServeError (List UInt8))
    (received : List UInt8) : List UInt8 :=
  match device with
  | none => []
  | some _ =>
      match readRequest reason received with
      | .error _ => []
      | .ok (snapshotHash, _) =>
          match writeResponse (toResponse (served snapshotHash)) with
          | .error _ => []
          | .ok frame => frame

def fromResponse :
    PullResponse → Except ActiveClipboardPullClientError (List UInt8)
  | .envelope bytes => .ok bytes
  | _ => .error .notAvailable

inductive LinkFault where
  | unresolved
  | dial
  | openBi (err : String)
  | requestWrite (reason : String)
  | finish (err : String)
  deriving DecidableEq, Repr

/-- What the network does with one exchange: how many bytes get through in
either direction, and what a read reports where they end. -/
structure Link where
  inTime : Bool
  fault : Option LinkFault
  requestArrives : Nat
  responseArrives : Nat
  reason : String

def exchange (link : Link) (holder : List UInt8 → List UInt8)
    (snapshotHash : String) :
    Except ActiveClipboardPullClientError (List UInt8) :=
  match link.fault, writeRequest snapshotHash with
  | some .unresolved, _ => .error .unreachable
  | some .dial, _ => .error .unreachable
  | some (.openBi err), _ => .error (.io s!"open_bi: {err}")
  | _, .error err => .error (.io s!"request write: {err.message}")
  | some (.requestWrite reason), .ok _ =>
      .error (.io s!"request write: {(PullWireError.io reason).message}")
  | some (.finish err), .ok _ => .error (.io s!"send.finish: {err}")
  | none, .ok request =>
      match readResponse link.reason
        ((holder (request.take link.requestArrives)).take
          link.responseArrives) with
      | .error err => .error (.io s!"response read: {err.message}")
      | .ok (response, _) => fromResponse response

/-- `pull`, of a holder that knows the requester as a device or not. -/
def pull (link : Link) (device : Option DeviceId)
    (served : String → Except ActiveClipboardPullServeError (List UInt8))
    (snapshotHash : String) :
    Except ActiveClipboardPullClientError (List UInt8) :=
  if link.inTime then
    exchange link (accept link.reason device served) snapshotHash
  else
    .error .unreachable

/-! ## The frames -/

variable {reason : String} {bytes rest : List UInt8}

theorem fromBeBytes_eq_ok_iff {width value : Nat} :
    fromBeBytes reason width bytes = .ok (value, rest) ↔
      value < 256 ^ width ∧ bytes = toBeBytes width value ++ rest := by
  unfold fromBeBytes
  rw [read_map_iff]
  constructor
  · rintro ⟨digits, isRead, isValue⟩
    obtain ⟨length, isBytes⟩ := readExact_eq_ok_iff.mp isRead
    rw [← List.length_reverse] at length
    subst isValue length
    refine ⟨decode_lt _, ?_⟩
    unfold toBeBytes
    rw [encode_decode, List.reverse_reverse, isBytes]
  · rintro ⟨small, isBytes⟩
    refine ⟨toBeBytes width value, readExact_eq_ok_iff.mpr ⟨?_, isBytes⟩, ?_⟩
    · rw [toBeBytes, List.length_reverse, encode_length]
    · rw [toBeBytes, List.reverse_reverse, decode_encode small]

theorem inverts_readRequest : Inverts (readRequest reason) writeRequest := by
  intro bytes snapshotHash rest
  unfold readRequest writeRequest
  simp only [read_bind_iff, readNat_eq_ok_iff, read_require_iff,
    fromBeBytes_eq_ok_iff, readExact_eq_ok_iff]
  constructor
  · rintro ⟨magic, _, ⟨_, isBytes⟩, _, _, ⟨isMagic, same⟩, len, _,
      ⟨_, isLen⟩, _, _, ⟨short, same'⟩, body, _, ⟨length, isBody⟩, read⟩
    cases decoded : fromUtf8 body with
    | none =>
        rw [decoded] at read
        exact absurd read throw_ne_ok
    | some text =>
        rw [decoded] at read
        obtain ⟨isText, isRest⟩ := read_pure_iff.mp read
        rw [isText, asBytes_of_fromUtf8 decoded, length, if_neg (by omega)]
        refine ⟨_, rfl, ?_⟩
        rw [isBytes, ← same, isLen, ← same', isBody, isMagic, isRest]
        simp only [List.append_assoc]
  · rintro ⟨front, written, isBytes⟩
    split at written
    · cases written
    · rename_i short
      cases written
      have small : (asBytes snapshotHash).length < 256 ^ 2 := by
        unfold maxSnapshotHashLen at short
        omega
      refine ⟨activePullMagic, _, ⟨by decide, ?_⟩, (), _, ⟨rfl, rfl⟩,
        (asBytes snapshotHash).length, _, ⟨small, rfl⟩, (), _,
        ⟨by omega, rfl⟩, asBytes snapshotHash, rest, ⟨rfl, rfl⟩, ?_⟩
      · rw [isBytes]
        simp only [List.append_assoc]
      · rw [fromUtf8_asBytes]
        exact read_pure_iff.mpr ⟨rfl, rfl⟩

theorem inverts_readResponse :
    Inverts (readResponse reason) writeResponse := by
  intro bytes response rest
  unfold readResponse
  rw [read_bind_iff]
  constructor
  · rintro ⟨status, middle, isStatus, read⟩
    obtain ⟨_, isBytes⟩ := readNat_eq_ok_iff.mp isStatus
    split at read
    · simp only [read_bind_iff, read_map_iff, read_require_iff,
        fromBeBytes_eq_ok_iff, readExact_eq_ok_iff] at read
      obtain ⟨len, _, ⟨_, isLen⟩, _, _, ⟨short, same⟩, body, ⟨length, isBody⟩,
        isResponse⟩ := read
      subst isResponse
      unfold writeResponse
      dsimp only
      rw [length, if_neg (by omega)]
      refine ⟨_, rfl, ?_⟩
      rw [isBytes, isLen, ← same, isBody]
      simp only [List.append_assoc]
    iterate 3
      obtain ⟨isResponse, isRest⟩ := read_pure_iff.mp read
      subst isResponse isRest
      exact ⟨_, rfl, isBytes⟩
    exact absurd read throw_ne_ok
  · rintro ⟨front, written, isBytes⟩
    have statusRead : ∀ {status : Nat} {back : List UInt8}, status < 256 →
        readNat (PullWireError.io reason) 1 (encode 1 status ++ back) =
          .ok (status, back) := fun small =>
      readNat_eq_ok_iff.mpr ⟨small, rfl⟩
    rw [isBytes]
    cases response with
    | envelope content =>
        unfold writeResponse at written
        dsimp only at written
        split at written
        · cases written
        · rename_i short
          cases written
          rw [List.append_assoc]
          refine ⟨0, _, statusRead (by decide), ?_⟩
          simp only [read_bind_iff, read_map_iff, read_require_iff,
            fromBeBytes_eq_ok_iff, readExact_eq_ok_iff]
          have small : content.length < 256 ^ 4 := by
            unfold maxEnvelopeLen at short
            omega
          exact ⟨content.length, _, ⟨small, List.append_assoc _ _ _⟩, (), _,
            ⟨by omega, rfl⟩, content, ⟨rfl, rfl⟩, rfl⟩
    | notAvailable =>
        cases written
        exact ⟨1, rest, statusRead (by decide), rfl⟩
    | locked =>
        cases written
        exact ⟨2, rest, statusRead (by decide), rfl⟩
    | internal =>
        cases written
        exact ⟨3, rest, statusRead (by decide), rfl⟩

def PullResponse.wireLength : PullResponse → Nat
  | .envelope bytes => 5 + bytes.length
  | _ => 1

theorem PullResponse.wireLength_pos (response : PullResponse) :
    0 < response.wireLength := by
  cases response with
  | envelope bytes => exact Nat.add_pos_left (by decide) _
  | _ => exact Nat.one_pos

def PullResponse.Fits : PullResponse → Prop
  | .envelope bytes => bytes.length ≤ maxEnvelopeLen
  | _ => True

theorem fits_of_writeResponse {response : PullResponse} {frame : List UInt8}
    (written : writeResponse response = .ok frame) :
    response.Fits ∧ frame.length = response.wireLength := by
  cases response with
  | envelope content =>
      unfold writeResponse at written
      dsimp only at written
      split at written
      · cases written
      · rename_i short
        cases written
        refine ⟨not_lt.mp short, ?_⟩
        simp only [toBeBytes, List.length_append, List.length_reverse,
          encode_length, PullResponse.wireLength]
        omega
  | _ =>
      cases written
      exact ⟨trivial, rfl⟩

theorem PullResponse.Fits.written {response : PullResponse}
    (fits : response.Fits) : ∃ frame, writeResponse response = .ok frame := by
  cases response with
  | envelope content =>
      unfold writeResponse
      dsimp only
      rw [if_neg (not_lt.mpr fits)]
      exact ⟨_, rfl⟩
  | _ => exact ⟨_, rfl⟩

/-! ## The exchange -/

/-- Neither direction breaks off before its frame ends, and the holder knows
the requester. -/
structure Exchanged (link : Link) (device : Option DeviceId)
    (snapshotHash : String) (answerLength : Nat) : Prop where
  inTime : link.inTime = true
  connected : link.fault = none
  known : device.isSome = true
  short : (asBytes snapshotHash).length ≤ maxSnapshotHashLen
  requestArrives : 3 + (asBytes snapshotHash).length ≤ link.requestArrives
  responseArrives : answerLength ≤ link.responseArrives

variable {link : Link} {device : Option DeviceId} {snapshotHash : String}
variable {served : String →
  Except ActiveClipboardPullServeError (List UInt8)}

/-- The requester reads the holder's answer, and reads it to its end. -/
theorem read_accept_iff {response : PullResponse} {request : List UInt8}
    {sent arrives : Nat} (written : writeRequest snapshotHash = .ok request) :
    readResponse reason ((accept reason device served
        (request.take sent)).take arrives) = .ok (response, rest) ↔
      device.isSome = true ∧ request.length ≤ sent ∧
        response = toResponse (served snapshotHash) ∧ rest = [] ∧
        ∃ frame, writeResponse response = .ok frame ∧
          frame.length ≤ arrives := by
  have nothing : ¬ readResponse reason [] = .ok (response, rest) := by
    intro read
    obtain ⟨front, isFront, isNil⟩ := (inverts_readResponse _ _ _).mp read
    have length := (fits_of_writeResponse isFront).2
    rw [(List.append_eq_nil_iff.mp isNil.symm).1] at length
    exact response.wireLength_pos.ne length
  unfold accept
  cases device with
  | none => simp [nothing]
  | some device =>
      dsimp only
      cases read : readRequest reason (request.take sent) with
      | error err =>
          have broken : ¬ request.length ≤ sent := by
            intro enough
            have whole : readRequest reason (request.take sent) =
                .ok (snapshotHash, []) :=
              (inverts_readRequest.take_eq_ok_iff written).mpr
                ⟨rfl, rfl, enough⟩
            rw [read] at whole
            cases whole
          simp [nothing, broken]
      | ok pair =>
          obtain ⟨isHash, _, enough⟩ :=
            (inverts_readRequest.take_eq_ok_iff written).mp read
          dsimp only
          rw [isHash]
          cases answered : writeResponse (toResponse (served snapshotHash)) with
          | error err =>
              rw [List.take_nil]
              constructor
              · exact fun read => absurd read nothing
              · rintro ⟨_, _, isResponse, _, frame, isFrame, _⟩
                rw [isResponse, answered] at isFrame
                cases isFrame
          | ok frame =>
              dsimp only
              rw [inverts_readResponse.take_eq_ok_iff answered]
              constructor
              · rintro ⟨isResponse, isRest, arrived⟩
                rw [isResponse]
                exact ⟨rfl, enough, rfl, isRest, frame, answered, arrived⟩
              · rintro ⟨_, _, isResponse, isRest, other, isOther, arrived⟩
                rw [isResponse, answered] at isOther
                cases isOther
                exact ⟨isResponse, isRest, arrived⟩

theorem writeRequest_ok_of_short
    (short : (asBytes snapshotHash).length ≤ maxSnapshotHashLen) :
    ∃ request, writeRequest snapshotHash = .ok request ∧
      request.length = 3 + (asBytes snapshotHash).length := by
  unfold writeRequest
  dsimp only
  rw [if_neg (by omega)]
  refine ⟨_, rfl, ?_⟩
  simp only [toBeBytes, List.length_append, List.length_reverse, encode_length]
  omega

theorem short_of_writeRequest {request : List UInt8}
    (written : writeRequest snapshotHash = .ok request) :
    (asBytes snapshotHash).length ≤ maxSnapshotHashLen := by
  unfold writeRequest at written
  dsimp only at written
  split at written
  · cases written
  · omega

/-- The holder's answer is written and gets through. -/
def Answered (link : Link) (device : Option DeviceId) (snapshotHash : String)
    (response : PullResponse) : Prop :=
  response.Fits ∧ Exchanged link device snapshotHash response.wireLength

/-- A pull gives the holder's answer, or fails as the network does. -/
theorem pull_cases :
    Answered link device snapshotHash (toResponse (served snapshotHash)) ∧
        pull link device served snapshotHash =
          fromResponse (toResponse (served snapshotHash)) ∨
      ¬ Answered link device snapshotHash
          (toResponse (served snapshotHash)) ∧
        (pull link device served snapshotHash = .error .unreachable ∨
          ∃ message,
            pull link device served snapshotHash = .error (.io message)) := by
  by_cases answered : Answered link device snapshotHash
      (toResponse (served snapshotHash))
  · left
    refine ⟨answered, ?_⟩
    obtain ⟨fits, exchanged⟩ := answered
    obtain ⟨frame, isFrame⟩ := fits.written
    obtain ⟨request, isRequest, length⟩ :=
      writeRequest_ok_of_short exchanged.short
    have read : readResponse link.reason ((accept link.reason device served
        (request.take link.requestArrives)).take link.responseArrives) =
          .ok (toResponse (served snapshotHash), []) :=
      (read_accept_iff isRequest).mpr ⟨exchanged.known,
        length ▸ exchanged.requestArrives, rfl, rfl, frame, isFrame,
        (fits_of_writeResponse isFrame).2 ▸ exchanged.responseArrives⟩
    unfold pull exchange
    rw [if_pos exchanged.inTime, exchanged.connected, isRequest]
    dsimp only
    rw [read]
  · right
    refine ⟨answered, ?_⟩
    unfold pull
    split
    · rename_i inTime
      unfold exchange
      split
      · exact .inl rfl
      · exact .inl rfl
      · exact .inr ⟨_, rfl⟩
      · exact .inr ⟨_, rfl⟩
      · exact .inr ⟨_, rfl⟩
      · exact .inr ⟨_, rfl⟩
      · rename_i request connected isRequest
        split
        · exact .inr ⟨_, rfl⟩
        · rename_i response rest read
          obtain ⟨known, requestArrives, isResponse, _, frame, isFrame,
            responseArrives⟩ := (read_accept_iff isRequest).mp read
          have short := short_of_writeRequest isRequest
          obtain ⟨other, isOther, length⟩ := writeRequest_ok_of_short short
          rw [isRequest, Except.ok.injEq] at isOther
          rw [isOther, length] at requestArrives
          obtain ⟨fits, wireLength⟩ := fits_of_writeResponse isFrame
          rw [wireLength] at responseArrives
          rw [isResponse] at fits responseArrives
          exact absurd ⟨fits, inTime, connected, known, short,
            requestArrives, responseArrives⟩ answered
    · exact .inl rfl

theorem pull_eq_fromResponse_iff (link : Link) (device : Option DeviceId)
    (served : String → Except ActiveClipboardPullServeError (List UInt8))
    (snapshotHash : String) (other : PullResponse) :
    pull link device served snapshotHash = fromResponse other ↔
      fromResponse (toResponse (served snapshotHash)) = fromResponse other ∧
        Answered link device snapshotHash
          (toResponse (served snapshotHash)) := by
  rcases pull_cases with ⟨answered, pulled⟩ | ⟨unanswered, failed⟩
  · rw [pulled]
    exact (and_iff_left answered).symm
  · refine iff_of_false ?_ fun both => unanswered both.2
    rcases failed with unreachable | ⟨message, io⟩
    · rw [unreachable]
      cases other <;> exact nofun
    · rw [io]
      cases other <;> exact nofun

/-- Whatever the network does, what is pulled is what the holder serves, and
it is pulled exactly if both frames get through and neither is over its bound;
a holder that cannot serve is told from one that cannot be reached. -/
theorem pull_answers :
    (∀ envelope, pull link device served snapshotHash = .ok envelope ↔
      served snapshotHash = .ok envelope ∧
        envelope.length ≤ maxEnvelopeLen ∧
        Exchanged link device snapshotHash (5 + envelope.length)) ∧
    (pull link device served snapshotHash = .error .notAvailable ↔
      (∃ err, served snapshotHash = .error err) ∧
        Exchanged link device snapshotHash 1) := by
  constructor
  · intro envelope
    have pulled := pull_eq_fromResponse_iff link device served snapshotHash
      (.envelope envelope)
    refine pulled.trans ?_
    cases answer : served snapshotHash with
    | ok content =>
        constructor
        · rintro ⟨same, fits, exchanged⟩
          cases same
          exact ⟨rfl, fits, exchanged⟩
        · rintro ⟨same, fits, exchanged⟩
          cases same
          exact ⟨rfl, fits, exchanged⟩
    | error err =>
        refine iff_of_false ?_ fun all => nomatch all.1
        cases err <;> exact fun both => nomatch both.1
  · have pulled := pull_eq_fromResponse_iff link device served snapshotHash
      .notAvailable
    refine pulled.trans ?_
    cases answer : served snapshotHash with
    | ok content =>
        refine iff_of_false (fun both => nomatch both.1) ?_
        rintro ⟨⟨err, isError⟩, _⟩
        cases isError
    | error err =>
        cases err
        all_goals
          constructor
          · exact fun both => ⟨⟨_, rfl⟩, both.2.2⟩
          · exact fun both => ⟨rfl, trivial, both.2⟩

end OpenClipboard.PullWire
