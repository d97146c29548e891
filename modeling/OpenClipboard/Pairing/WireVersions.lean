import OpenClipboard.Pairing.Wire

/-!
# Frames of other versions

A frame of another version is refused for its version exactly if its body
parses in the current layout.  A frame of an earlier version in which a later
one added a field ends before that field, and is refused as malformed.
-/

namespace OpenClipboard.Pairing.Wire

open Postcard Postcard.Format Text

/-! ## Earlier layouts -/

/-- The body as a version lays it out: the second added the address blobs and
the third the person id. -/
def bodyAt (version : UInt8) : WireBody → List UInt8
  | .request request =>
      index.write 0 ++ (text.write request.invitationCode ++
        (text.write request.deviceId ++ (text.write request.deviceName ++
          (text.write request.identityFingerprint ++
            (bytes.write request.nonce ++
              if version < 2 then
                []
              else
                bytes.write request.transportAddressBlob)))))
  | .confirm confirm =>
      index.write 3 ++ (text.write confirm.spaceId ++
        (text.write confirm.senderDeviceId ++
          (text.write confirm.senderDeviceName ++
            (text.write confirm.senderIdentityFingerprint ++
              if version < 2 then
                []
              else
                bytes.write confirm.transportAddressBlob ++
                  if version < 3 then
                    []
                  else
                    (option text).write confirm.sponsorSpacePersonId))))
  | body => wireBody.write body

def frameAt (version : UInt8) (message : PairingSessionMessage) : List UInt8 :=
  version :: bodyAt version (toWire message)

def gainsField (version : UInt8) : PairingSessionMessage → Bool
  | .request _ => version < 2
  | .confirm _ => version < 3
  | _ => false

section Versions

variable {uuid : UuidParser} {version : UInt8} {rest : List UInt8}
variable {message : PairingSessionMessage}

theorem bodyAt_of_not_gainsField (gains : gainsField version message = false) :
    bodyAt version (toWire message) = wireBody.write (toWire message) := by
  cases message with
  | request request =>
      have notFirst : ¬ version < 2 := by simpa [gainsField] using gains
      simp only [toWire, bodyAt, if_neg notFirst]
      rfl
  | confirm confirm =>
      have isCurrent : ¬ version < 3 := by simpa [gainsField] using gains
      have notFirst : ¬ version < 2 := by
        rw [UInt8.lt_iff_toNat_lt] at isCurrent ⊢
        exact fun first => isCurrent (first.trans (by decide))
      simp only [toWire, bodyAt, if_neg notFirst, if_neg isCurrent]
      rfl
  | keyslotOffer offer => rfl
  | challengeResponse response => rfl
  | reject reason => rfl

/-! ## What the decoder says of another version -/

theorem decode_of_other (other : version ≠ wireVersion) :
    decode uuid (version :: rest) =
      match wireBody.read rest with
      | .error error => some (.error (.postcard error))
      | .ok _ => some (.error (.unsupportedVersion version wireVersion)) := by
  have readEnvelope : wireEnvelope.read (version :: rest) =
      match wireBody.read rest with
      | .error error => .error error
      | .ok (body, later) => .ok (⟨version, body⟩, later) := by
    show (wireBody.read rest >>= fun read => _) >>= _ = _
    cases wireBody.read rest with
    | error error => rfl
    | ok read => rfl
  rw [decode, readEnvelope]
  cases wireBody.read rest with
  | error error => rfl
  | ok read => exact if_pos other

theorem decode_unsupported_iff (other : version ≠ wireVersion) :
    decode uuid (version :: rest) =
        some (.error (.unsupportedVersion version wireVersion)) ↔
      ∃ front back body, wireBody.Lays front body ∧ rest = front ++ back := by
  rw [decode_of_other other, ← wireBody.exists_read_iff]
  cases wireBody.read rest with
  | error error => simp
  | ok read => simp

theorem read_bodyAt_of_gainsField (inMemory : InMemory message)
    (gains : gainsField version message = true) :
    wireBody.read (bodyAt version (toWire message)) =
      .error .deserializeUnexpectedEnd := by
  cases message with
  | request request =>
      have isFirst : version < 2 := by simpa [gainsField] using gains
      simp only [InMemory, lengths, List.forall_mem_cons] at inMemory
      obtain ⟨code, id, name, nonce, _, _⟩ := inMemory
      simp only [toWire, bodyAt, if_pos isFirst]
      apply read_enum_of_error rfl (fits_bodyIndex (toWire (.request request)))
      apply read_embed_of_error
      apply read_embed_of_error
      apply read_pair_of_error code
      apply read_pair_of_error id
      apply read_pair_of_error name
      apply read_pair_of_error (fits_asDisplay _)
      apply read_pair_of_error nonce
      rfl
  | confirm confirm =>
      have isEarlier : version < 3 := by simpa [gainsField] using gains
      simp only [InMemory, lengths, List.forall_mem_cons] at inMemory
      obtain ⟨spaceId, id, name, blob, _⟩ := inMemory
      simp only [toWire, bodyAt, if_pos isEarlier]
      apply read_enum_of_error rfl (fits_bodyIndex (toWire (.confirm confirm)))
      apply read_embed_of_error
      apply read_embed_of_error
      apply read_pair_of_error spaceId
      apply read_pair_of_error id
      apply read_pair_of_error name
      apply read_pair_of_error (fits_asDisplay _)
      by_cases isFirst : version < 2
      · rw [if_pos isFirst]
        rfl
      · rw [if_neg isFirst]
        apply read_pair_of_error blob
        rfl
  | keyslotOffer offer => cases gains
  | challengeResponse response => cases gains
  | reject reason => cases gains

theorem decode_frameAt (other : version ≠ wireVersion)
    (inMemory : InMemory message) :
    decode uuid (frameAt version message) =
      some (.error (if gainsField version message then
        .postcard .deserializeUnexpectedEnd
      else
        .unsupportedVersion version wireVersion)) := by
  rw [frameAt, decode_of_other other]
  by_cases gains : gainsField version message = true
  · rw [if_pos gains, read_bodyAt_of_gainsField inMemory gains]
  · rw [if_neg gains, bodyAt_of_not_gainsField (Bool.not_eq_true _ ▸ gains)]
    have read := wireBody.read_write (fits_toWire inMemory) []
    rw [List.append_nil] at read
    rw [read]

end Versions

/-- Every message decodes to itself.  A frame of another version is refused for
its version exactly if its rest starts with a body in the current layout, and
a frame of an earlier layout exactly if no later version added a field to its
message. -/
theorem wireCodec_exact (uuid : UuidParser) :
    (∀ message, InMemory message →
      decode uuid (encode message) = some (.ok message)) ∧
    (∀ version rest, version ≠ wireVersion →
      (decode uuid (version :: rest) =
          some (.error (.unsupportedVersion version wireVersion)) ↔
        ∃ front back body, wireBody.Lays front body ∧ rest = front ++ back)) ∧
    (∀ version message, version = 1 ∨ version = 2 → InMemory message →
      (decode uuid (frameAt version message) =
          some (.error (.unsupportedVersion version wireVersion)) ↔
        gainsField version message = false)) := by
  refine ⟨fun _ => decode_encode, fun _ _ => decode_unsupported_iff, ?_⟩
  intro version message earlier inMemory
  have other : version ≠ wireVersion := by
    rcases earlier with rfl | rfl
    · decide
    · decide
  rw [decode_frameAt other inMemory]
  cases gainsField version message with
  | true => simp
  | false => simp

/-! ## A confirmation of the second version -/

namespace Sample

/-- Takes the hexadecimal digits of sixteen bytes, wherever the hyphens are. -/
def parseStr (text : String) : Except String Uuid :=
  match ContentHash.hexDecode (text.toList.filter (· ≠ '-')) with
  | none => .error "invalid character"
  | some bytes =>
      if sized : bytes.length = 16 then
        .ok ⟨bytes, sized⟩
      else
        .error "invalid length"

theorem filter_hexEncode (bytes : List UInt8) :
    (ContentHash.hexEncode bytes).toList.filter (· ≠ '-') =
      (ContentHash.hexEncode bytes).toList := by
  have noHyphen : ∀ value < 16, ContentHash.hexDigit value ≠ '-' := by decide
  apply List.filter_eq_self.mpr
  intro c member
  rw [ContentHash.hexEncode, String.toList_ofList] at member
  obtain ⟨byte, _, isDigit⟩ := List.mem_flatMap.mp member
  have small := byte.toNat_lt
  rw [decide_eq_true_eq]
  rcases List.mem_pair.mp isDigit with rfl | rfl
  · exact noHyphen _ (by omega)
  · exact noHyphen _ (by omega)

theorem parseStr_display (id : Uuid) : parseStr id.display = .ok id := by
  obtain ⟨bytes, sized⟩ := id
  have inParts : bytes.take 4 ++ (bytes.drop 4).take 2 ++
      (bytes.drop 6).take 2 ++ (bytes.drop 8).take 2 ++
        (bytes.drop 10).take 6 = bytes := by
    have whole : (bytes.drop 10).take 6 = bytes.drop 10 := by
      apply List.take_of_length_le
      rw [List.length_drop]
      omega
    rw [whole]
    simp only [← List.take_add]
    exact List.take_append_drop 10 bytes
  have isHex : (Uuid.display ⟨bytes, sized⟩).toList.filter (· ≠ '-') =
      (ContentHash.hexEncode bytes).toList := by
    simp only [Uuid.display, String.toList_append, List.filter_append,
      filter_hexEncode]
    have hyphen : "-".toList.filter (· ≠ '-') = [] := by decide
    rw [hyphen]
    simp only [ContentHash.hexEncode, String.toList_ofList, List.append_nil,
      List.drop_zero, ← List.flatMap_append, inParts]
  rw [parseStr, isHex, ContentHash.hexDecode_hexEncode]
  exact dif_pos sized

def uuid : UuidParser := ⟨parseStr, parseStr_display⟩

theorem fingerprint_wellFormed : "ABCDEFGHIJKLMNOP".length = 16 ∧
    "ABCDEFGHIJKLMNOP".toList.all Char.isAlphanum = true := by
  decide

theorem sevens_length : (List.replicate 16 (7 : UInt8)).length = 16 :=
  List.length_replicate

def confirm : PairingSessionMessage := .confirm {
  spaceId := ⟨"space"⟩
  senderDeviceId := { asStr := "sponsor" }
  senderDeviceName := "Desk"
  senderIdentityFingerprint := ⟨"ABCDEFGHIJKLMNOP", fingerprint_wellFormed⟩
  transportAddressBlob := [1, 2]
  sponsorSpacePersonId := some ⟨List.replicate 16 7, sevens_length⟩ }

def response : PairingSessionMessage := .challengeResponse ⟨[3]⟩

end Sample

/-- A frame of the second version that is refused as malformed. -/
theorem secondConfirm_malformed :
    ¬ ∀ (uuid : UuidParser) (version : UInt8) (message : PairingSessionMessage),
      version = 1 ∨ version = 2 → InMemory message →
      decode uuid (frameAt version message) =
        some (.error (.unsupportedVersion version wireVersion)) := by
  intro refused
  have inMemory : InMemory Sample.confirm := by decide +kernel
  have other := refused Sample.uuid 2 Sample.confirm (Or.inr rfl) inMemory
  rw [decode_frameAt (by decide) inMemory] at other
  cases other

theorem confirm_roundTrip :
    decode Sample.uuid (encode Sample.confirm) = some (.ok Sample.confirm) ∧
      decode Sample.uuid (frameAt 2 Sample.response) =
        some (.error (.unsupportedVersion 2 wireVersion)) := by
  have exactly := wireCodec_exact Sample.uuid
  constructor
  · exact exactly.1 Sample.confirm (by decide +kernel)
  · exact (exactly.2.2 2 Sample.response (Or.inr rfl) (by decide +kernel)).mpr
      rfl

end OpenClipboard.Pairing.Wire
