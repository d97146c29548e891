import OpenClipboard.Wire.PayloadCodec

/-!
# Envelopes that come back

Field by field the reader allows what the writer has written, so an envelope
decodes to what it was encoded from, with the ids of the receiver and with MIME
types in RFC shape only.
-/

namespace OpenClipboard.PayloadCodec

open ByteReader ClipboardBinaryPayload PartialMap Text

/-- The numbers of a reference are of 64 and 32 bits. -/
structure RefInRange (blobRef : V3BlobRef) : Prop where
  sizeBytes : blobRef.sizeBytes < 256 ^ 8
  representationIndex : ∀ index, blobRef.representationIndex = some index →
    index < 256 ^ 4

structure MemberInRange (member : InboundFileSetMember) : Prop where
  rootIndex : member.rootIndex < 256 ^ 4
  blobRefIndex : ∀ index, member.blobRefIndex = some index → index < 256 ^ 4

/-! ## Fields -/

theorem reads_byte (failure : String) {value : Nat} (small : value < 256) :
    Reads (readNat failure 1) [UInt8.ofNat value] value :=
  Reads.readNat failure (by simpa using small)

theorem reads_writeOptionalU32 (label : String) {value : Option Nat}
    (small : ∀ number, value = some number → number < 256 ^ 4) :
    Reads (readOptionalU32 label) (writeOptionalU32 value) value := by
  cases value with
  | none =>
      have marker := reads_byte (cutOff (label ++ " marker"))
        (show noneU32Marker < 256 by decide)
      exact marker.bind (Reads.pure none)
  | some number =>
      have marker := reads_byte (cutOff (label ++ " marker"))
        (show someU32Marker < 256 by decide)
      have field := Reads.readNat (cutOff label) (small number rfl)
      exact marker.bind (field.map some)

theorem reads_writeBytesU32 {value bytes : List UInt8} {label : String}
    (written : writeBytesU32 value label = .ok bytes) :
    Reads (readBytesU32 label) bytes value := by
  obtain ⟨short, isBytes⟩ := writeBounded_eq_ok written
  rw [isBytes]
  have small : value.length < 256 ^ 4 :=
    lt_of_le_of_lt short (by decide)
  apply (Reads.readNat (cutOff label) small).bind
  apply Reads.after (Reads.require short)
  exact Reads.readExact (cutOff label) rfl

variable (utf8Error : List UInt8 → String)

theorem writeStringU16_eq_ok {value label : String} {bytes : List UInt8}
    (written : writeStringU16 value label = .ok bytes) :
    (asBytes value).length < noneStringLen ∧
      (asBytes value).length ≤ maxBlobRefStringLen ∧
      bytes = LittleEndian.encode 2 (asBytes value).length ++ asBytes value := by
  unfold writeStringU16 at written
  simp only at written
  split at written
  · cases written
  · rename_i short
    cases written
    exact ⟨by omega, by omega, rfl⟩

theorem reads_text (label value : String)
    (short : (asBytes value).length ≤ maxBlobRefStringLen) :
    Reads (readText utf8Error label (asBytes value).length) (asBytes value)
      value := by
  apply Reads.after (Reads.require short)
  have content : Reads (readExact (cutOff label) (asBytes value).length)
      (asBytes value) (asBytes value) :=
    Reads.readExact (cutOff label) rfl
  have text := content.bind (reads_asBytes utf8Error label value)
  rw [List.append_nil] at text
  exact text

theorem reads_writeStringU16 {value label : String} {bytes : List UInt8}
    (written : writeStringU16 value label = .ok bytes) :
    Reads (readStringU16 utf8Error label) bytes value := by
  obtain ⟨isString, short, isBytes⟩ := writeStringU16_eq_ok written
  rw [isBytes]
  have small : (asBytes value).length < 256 ^ 2 :=
    isString.trans (by decide)
  apply (Reads.readNat (cutOff label) small).bind
  exact reads_text utf8Error label value short

theorem reads_writeOptionalStringU16 {value : Option String} {label : String}
    {bytes : List UInt8}
    (written : writeOptionalStringU16 value label = .ok bytes) :
    Reads (readOptionalStringU16 utf8Error label) bytes value := by
  cases value with
  | none =>
      cases written
      have mark := Reads.readNat (cutOff label)
        (show noneStringLen < 256 ^ 2 by decide)
      have absent : Reads
          (if noneStringLen = noneStringLen then pure none
            else some <$> readText utf8Error label noneStringLen) [] none := by
        rw [if_pos rfl]
        exact Reads.pure none
      exact mark.bind absent
  | some value =>
      obtain ⟨isString, short, isBytes⟩ := writeStringU16_eq_ok written
      rw [isBytes]
      have small : (asBytes value).length < 256 ^ 2 :=
        isString.trans (by decide)
      apply (Reads.readNat (cutOff label) small).bind
      rw [if_neg (Nat.ne_of_lt isString)]
      exact (reads_text utf8Error label value short).map some

/-! ## Blob references -/

theorem reads_writeBlobRef {blobRef : V3BlobRef} {bytes : List UInt8}
    (inRange : RefInRange blobRef) (written : writeBlobRef blobRef = .ok bytes) :
    Reads (readBlobRef utf8Error) bytes blobRef := by
  obtain ⟨ticket, isTicket, written⟩ := bind_eq_ok_iff.mp written
  obtain ⟨entryId, isEntryId, written⟩ := bind_eq_ok_iff.mp written
  obtain ⟨filename, isFilename, written⟩ := bind_eq_ok_iff.mp written
  obtain ⟨mime, isMime, isBytes⟩ := bind_eq_ok_iff.mp written
  cases isBytes
  apply (reads_writeBytesU32 isTicket).bind
  apply (reads_writeStringU16 utf8Error isEntryId).bind
  apply (reads_writeOptionalStringU16 utf8Error isFilename).bind
  apply (reads_writeOptionalStringU16 utf8Error isMime).bind
  apply (Reads.readNat (cutOff "size_bytes") inRange.sizeBytes).bind
  exact (reads_writeOptionalU32 "representation_index"
    inRange.representationIndex).result
      (V3BlobRef.mk blobRef.ticket blobRef.entryId blobRef.filename blobRef.mime
        blobRef.sizeBytes)

theorem reads_writeBlobRefsExtension {blobRefs : List V3BlobRef}
    {bytes : List UInt8} (inRange : ∀ blobRef ∈ blobRefs, RefInRange blobRef)
    (written : writeBlobRefsExtension blobRefs = .ok bytes) :
    Reads (readBlobRefsTrailer utf8Error) bytes blobRefs := by
  unfold writeBlobRefsExtension at written
  split at written
  · cases written
  · rename_i few
    obtain ⟨refs, areRefs, isBytes⟩ := bind_eq_ok_iff.mp written
    cases isBytes
    have small : blobRefs.length < 256 ^ 2 :=
      lt_of_le_of_lt (not_lt.mp few) (by decide)
    have each : Reads (times (readBlobRef utf8Error) blobRefs.length) refs
        (blobRefs.map id) :=
      Reads.times areRefs fun blobRef member piece written =>
        reads_writeBlobRef utf8Error (inRange blobRef member) written
    rw [List.map_id] at each
    apply (Reads.readExact _ rfl).bind
    apply Reads.after (Reads.require rfl)
    apply (Reads.readNat (cutOff "blob_ref_count") small).bind
    exact Reads.after (Reads.require (not_lt.mp few)) each

theorem writeBlobRefsExtension_ne_nil {blobRefs : List V3BlobRef}
    {bytes : List UInt8}
    (written : writeBlobRefsExtension blobRefs = .ok bytes) : bytes ≠ [] := by
  unfold writeBlobRefsExtension at written
  split at written
  · cases written
  · obtain ⟨refs, _, isBytes⟩ := bind_eq_ok_iff.mp written
    cases isBytes
    exact List.append_ne_nil_of_left_ne_nil (by decide) _

/-- The trailer is told from its absence by its first byte. -/
theorem readBlobRefsExtension_written {blobRefs : List V3BlobRef}
    {bytes : List UInt8} (inRange : ∀ blobRef ∈ blobRefs, RefInRange blobRef)
    (written : writeBlobRefsExtension blobRefs = .ok bytes)
    (rest : List UInt8) :
    readBlobRefsExtensionWithRemainder utf8Error (bytes ++ rest) =
      .ok (blobRefs, rest) := by
  have nonempty : bytes ++ rest ≠ [] :=
    List.append_ne_nil_of_left_ne_nil
      (writeBlobRefsExtension_ne_nil written) rest
  unfold readBlobRefsExtensionWithRemainder
  rw [if_neg nonempty]
  exact reads_writeBlobRefsExtension utf8Error inRange written rest

/-! ## The manifest -/

theorem reads_kindByte (kind : FileSetMemberKind) :
    Reads readKind [UInt8.ofNat (kindByte kind)] kind := by
  have small : kindByte kind < 256 := by cases kind <;> decide
  apply (reads_byte _ small).bind
  cases kind <;> exact Reads.pure _

theorem reads_rootIsFile (rootIsFile : Bool) :
    Reads readRootIsFile [UInt8.ofNat rootIsFile.toNat] rootIsFile := by
  have small : rootIsFile.toNat < 256 := by cases rootIsFile <;> decide
  apply (reads_byte _ small).bind
  cases rootIsFile <;> exact Reads.pure _

theorem reads_writeMember {member : InboundFileSetMember} {bytes : List UInt8}
    (inRange : MemberInRange member) (written : writeMember member = .ok bytes) :
    Reads (readMember utf8Error) bytes member := by
  obtain ⟨rootName, isRootName, written⟩ := bind_eq_ok_iff.mp written
  obtain ⟨relativePath, isRelativePath, isBytes⟩ := bind_eq_ok_iff.mp written
  cases isBytes
  apply (reads_kindByte member.kind).bind
  apply (reads_rootIsFile member.rootIsFile).bind
  apply (Reads.readNat (cutOff "root_index") inRange.rootIndex).bind
  apply (reads_writeStringU16 utf8Error isRootName).bind
  apply (reads_writeStringU16 utf8Error isRelativePath).bind
  exact (reads_writeOptionalU32 "blob_ref_index" inRange.blobRefIndex).result
    (InboundFileSetMember.mk member.rootIndex member.rootName member.rootIsFile
      member.relativePath member.kind)

theorem readFileSetExtension_written {manifest : InboundFileSetManifest}
    {bytes : List UInt8}
    (inRange : ∀ member ∈ manifest.members, MemberInRange member)
    (written : writeFileSetExtension manifest = .ok bytes) :
    readFileSetExtension utf8Error bytes = .ok (some manifest) := by
  unfold writeFileSetExtension at written
  split at written
  · cases written
  · rename_i inside
    obtain ⟨members, areMembers, isBytes⟩ := bind_eq_ok_iff.mp written
    cases isBytes
    have few : manifest.members.length ≤ maxBlobRefs := by
      by_contra many
      exact inside (Or.inr (not_le.mp many))
    have atLeastOne : 0 < manifest.members.length := by
      apply List.length_pos_of_ne_nil
      intro empty
      exact inside (Or.inl empty)
    have small : manifest.members.length < 256 ^ 2 :=
      lt_of_le_of_lt few (by decide)
    have each : Reads (times (readMember utf8Error) manifest.members.length)
        members (manifest.members.map id) :=
      Reads.times areMembers fun member isMember piece written =>
        reads_writeMember utf8Error (inRange member isMember) written
    rw [List.map_id] at each
    have trailer : Reads (readFileSetTrailer utf8Error)
        (fileSetMagic ++
          (LittleEndian.encode 2 manifest.members.length ++ members))
        manifest := by
      apply (Reads.readExact _ rfl).bind
      apply Reads.after (Reads.require rfl)
      apply (Reads.readNat (cutOff "directory_member_count") small).bind
      apply Reads.after (Reads.require ⟨atLeastOne, few⟩)
      exact each.map InboundFileSetManifest.mk
    have read := trailer []
    rw [List.append_nil] at read
    have nonempty : fileSetMagic ++
        (LittleEndian.encode 2 manifest.members.length ++ members) ≠ [] :=
      List.append_ne_nil_of_left_ne_nil (by decide) _
    unfold readFileSetExtension
    rw [if_neg nonempty, read]
    rfl

/-! ## The envelope -/

def receivedCopy (newId : Nat → String) (index : Nat)
    (rep : ObservedClipboardRepresentation) :
    ObservedClipboardRepresentation where
  id := newId index
  formatId := rep.formatId
  mime := normalizeWireMime (rep.mime.map MimeType.asStr)
  source := rep.source

/-- The receiver's copy of a snapshot: the same timestamp and the same
representations in order, nothing stamped yet. -/
def receivedSnapshot (newId : Nat → String)
    (snapshot : SystemClipboardSnapshot) : SystemClipboardSnapshot where
  tsMs := snapshot.tsMs
  representations := snapshot.representations.mapIdx (receivedCopy newId)

theorem mapError_eq_ok {ε ε' α : Type} {f : ε → ε'} {first : Except ε α}
    {value : α} : first.mapError f = .ok value ↔ first = .ok value := by
  cases first with
  | error failure => exact iff_of_false nofun nofun
  | ok other =>
      constructor
      · intro same
        cases same
        rfl
      · intro same
        cases same
        rfl

theorem receivedRepresentation_binary {newId : Nat → String} {index : Nat}
    {rep : ObservedClipboardRepresentation} {binary : BinaryRepresentation}
    (isBinary : binaryRepresentation rep = .ok binary) :
    receivedRepresentation newId index binary = receivedCopy newId index rep := by
  unfold binaryRepresentation at isBinary
  split at isBinary
  · rename_i bytes isInline
    cases isBinary
    unfold ObservedClipboardRepresentation.inlineBytes at isInline
    split at isInline
    · rename_i content source
      cases isInline
      unfold receivedRepresentation receivedCopy
      rw [source]
    · cases isInline
  · cases isBinary

theorem mapIdx_received {newId : Nat → String}
    {reps : List ObservedClipboardRepresentation}
    {binaries : List BinaryRepresentation}
    (pointwise : List.Forall₂
      (fun rep binary => binaryRepresentation rep = .ok binary) reps binaries) :
    binaries.mapIdx (receivedRepresentation newId) =
      reps.mapIdx (receivedCopy newId) := by
  induction pointwise generalizing newId with
  | nil => rfl
  | cons here _ inductionHypothesis =>
      rw [List.mapIdx_cons, List.mapIdx_cons,
        receivedRepresentation_binary here]
      congr 1
      exact inductionHypothesis

section Envelope

variable {blake3 : Blake3} {readFile : PathBuf → Option (List UInt8)}
variable {snapshot : SystemClipboardSnapshot}
variable {bytes : List UInt8} {snapshotHash : String}

theorem decodeFrom_encoded (isI64 : IsI64 snapshot.tsMs)
    (encoded : encodeSnapshotToV3Bytes blake3 readFile snapshot =
      .ok (bytes, snapshotHash)) (newId : Nat → String) :
    ∃ payload : ClipboardBinaryPayload, payload.tsMs = snapshot.tsMs ∧
      payload.representations.mapIdx (receivedRepresentation newId) =
        snapshot.representations.mapIdx (receivedCopy newId) ∧
      ∀ trailer, decodeFrom utf8Error (bytes ++ trailer) =
        .ok (payload, trailer) := by
  obtain ⟨reps, areReps, encoded⟩ := bind_eq_ok_iff.mp encoded
  obtain ⟨envelope, isEnvelope, done⟩ := bind_eq_ok_iff.mp encoded
  have isBytes : envelope = bytes := by
    cases hashed : snapshot.snapshotHash blake3 readFile with
    | none =>
        rw [hashed] at done
        cases done
    | some digest =>
        rw [hashed] at done
        cases done
        rfl
  subst isBytes
  have pointwise := mapM_eq_ok_iff.mp areReps
  refine ⟨⟨snapshot.tsMs, reps⟩, rfl, mapIdx_received pointwise, ?_⟩
  exact reads_encodeTo utf8Error isI64 (mapError_eq_ok.mp isEnvelope)

variable (newId : Nat → String) in
theorem decode_encoded (isI64 : IsI64 snapshot.tsMs)
    (encoded : encodeSnapshotToV3Bytes blake3 readFile snapshot =
      .ok (bytes, snapshotHash))
    {trailer trailing : List UInt8} {blobRefs : List V3BlobRef}
    {manifest : Option InboundFileSetManifest}
    (refs : readBlobRefsExtensionWithRemainder utf8Error trailer =
      .ok (blobRefs, trailing))
    (members : readFileSetExtension utf8Error trailing = .ok manifest) :
    decodeV3BytesToSnapshotBlobRefsAndFileSet utf8Error newId
        (bytes ++ trailer) =
      .ok (receivedSnapshot newId snapshot, blobRefs, manifest) := by
  obtain ⟨payload, sameTs, sameReps, decoded⟩ :=
    decodeFrom_encoded utf8Error isI64 encoded newId
  unfold decodeV3BytesToSnapshotBlobRefsAndFileSet
  rw [decoded trailer]
  simp only
  rw [refs]
  show (readFileSetExtension utf8Error trailing >>= _) = _
  rw [members, sameTs, sameReps]
  rfl

theorem readBlobRefsExtension_nil :
    readBlobRefsExtensionWithRemainder utf8Error [] = .ok ([], []) := rfl

theorem readFileSetExtension_nil :
    readFileSetExtension utf8Error [] = .ok none := rfl

end Envelope

/-- Whatever one of the three encoders makes of a snapshot of inline
representations, its blob references and its manifest decodes to the same
timestamp, the same representations in order with their MIME types normalised,
the same references and the same manifest. -/
theorem decode_encodedEnvelope (blake3 : Blake3)
    (readFile : PathBuf → Option (List UInt8))
    (utf8Error : List UInt8 → String) (newId : Nat → String)
    (snapshot : SystemClipboardSnapshot) (blobRefs : List V3BlobRef)
    (manifest : InboundFileSetManifest) (isI64 : IsI64 snapshot.tsMs)
    (refsInRange : ∀ blobRef ∈ blobRefs, RefInRange blobRef)
    (membersInRange : ∀ member ∈ manifest.members, MemberInRange member)
    (bytes : List UInt8) (snapshotHash : String) :
    (encodeSnapshotToV3Bytes blake3 readFile snapshot =
          .ok (bytes, snapshotHash) →
        decodeV3BytesToSnapshotBlobRefsAndFileSet utf8Error newId bytes =
          .ok (receivedSnapshot newId snapshot, [], none)) ∧
      (encodeSnapshotWithBlobRefsToV3Bytes blake3 readFile snapshot blobRefs =
          .ok (bytes, snapshotHash) →
        decodeV3BytesToSnapshotBlobRefsAndFileSet utf8Error newId bytes =
          .ok (receivedSnapshot newId snapshot, blobRefs, none)) ∧
      (encodeSnapshotWithBlobRefsAndFileSetToV3Bytes blake3 readFile snapshot
          blobRefs manifest = .ok (bytes, snapshotHash) →
        decodeV3BytesToSnapshotBlobRefsAndFileSet utf8Error newId bytes =
          .ok (receivedSnapshot newId snapshot, blobRefs, some manifest)) := by
  refine ⟨?_, ?_, ?_⟩
  · intro encoded
    have decoded := decode_encoded utf8Error newId isI64 encoded
      (readBlobRefsExtension_nil utf8Error)
      (readFileSetExtension_nil utf8Error)
    rw [List.append_nil] at decoded
    exact decoded
  · intro encoded
    obtain ⟨⟨envelope, hash⟩, isEnvelope, encoded⟩ := bind_eq_ok_iff.mp encoded
    simp only at encoded
    split at encoded
    · rename_i noRefs
      cases encoded
      have decoded := decode_encoded utf8Error newId isI64 isEnvelope
        (readBlobRefsExtension_nil utf8Error)
        (readFileSetExtension_nil utf8Error)
      rw [List.append_nil, ← List.isEmpty_iff.mp noRefs] at decoded
      exact decoded
    · obtain ⟨trailer, isTrailer, done⟩ := bind_eq_ok_iff.mp encoded
      cases done
      have refs := readBlobRefsExtension_written utf8Error refsInRange
        (mapError_eq_ok.mp isTrailer) []
      rw [List.append_nil] at refs
      exact decode_encoded utf8Error newId isI64 isEnvelope refs
        (readFileSetExtension_nil utf8Error)
  · intro encoded
    obtain ⟨⟨envelope, hash⟩, isEnvelope, encoded⟩ := bind_eq_ok_iff.mp encoded
    obtain ⟨refs, areRefs, encoded⟩ := bind_eq_ok_iff.mp encoded
    obtain ⟨members, areMembers, done⟩ := bind_eq_ok_iff.mp encoded
    cases done
    exact decode_encoded utf8Error newId isI64 isEnvelope
      (readBlobRefsExtension_written utf8Error refsInRange
        (mapError_eq_ok.mp areRefs) members)
      (readFileSetExtension_written utf8Error membersInRange
        (mapError_eq_ok.mp areMembers))

namespace Sample

def blake3 : Blake3 := fun bytes =>
  ⟨(bytes ++ List.replicate 32 0).take 32, length_filled bytes⟩

def noFiles (_ : PathBuf) : Option (List UInt8) := none

/-- A text, and an image under a name of its platform. -/
def snapshot : SystemClipboardSnapshot where
  tsMs := -1
  representations :=
    [.new "a" "text" (some "text/plain") (asBytes "hello"),
      .new "b" "public.png" (some "public.png") [1, 2]]

def blobRefs : List V3BlobRef :=
  [⟨[7], "entry", none, some "image/png", 65537, some 1⟩]

def manifest : InboundFileSetManifest :=
  ⟨[⟨0, "root", false, "a/b", .executable, some 0⟩,
    ⟨0, "root", false, "c", .emptyDirectory, none⟩]⟩

end Sample

open Sample in
theorem sample_returns :
    ∃ bytes snapshotHash,
      encodeSnapshotWithBlobRefsAndFileSetToV3Bytes blake3 noFiles snapshot
          blobRefs manifest = .ok (bytes, snapshotHash) ∧
        decodeV3BytesToSnapshotBlobRefsAndFileSet (fun _ => "") (fun _ => "new")
            bytes =
          .ok (receivedSnapshot (fun _ => "new") snapshot, blobRefs,
            some manifest) := by
  have encodes : (encodeSnapshotWithBlobRefsAndFileSetToV3Bytes blake3 noFiles
      snapshot blobRefs manifest).toOption.isSome = true := by
    decide +kernel
  obtain ⟨⟨bytes, snapshotHash⟩, isEncoded⟩ :=
    Option.isSome_iff_exists.mp encodes
  have encoded := toOption_eq_some_iff.mp isEncoded
  have refsInRange : ∀ blobRef ∈ blobRefs, RefInRange blobRef := by
    intro blobRef member
    rw [List.mem_singleton.mp member]
    exact ⟨by decide, by simp⟩
  have membersInRange : ∀ member ∈ manifest.members, MemberInRange member := by
    intro member isMember
    simp only [manifest, List.mem_cons, List.not_mem_nil, or_false] at isMember
    rcases isMember with rfl | rfl
    · exact ⟨by decide, by simp⟩
    · exact ⟨by decide, by simp⟩
  refine ⟨bytes, snapshotHash, encoded, ?_⟩
  exact (decode_encodedEnvelope blake3 noFiles (fun _ => "") (fun _ => "new")
    snapshot
    blobRefs manifest (by unfold IsI64; decide) refsInRange membersInRange bytes
    snapshotHash).2.2 encoded

end OpenClipboard.PayloadCodec
