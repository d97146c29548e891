import OpenClipboard.Wire.ClipboardPayloadV3

/-!
# The V3 payload is a prefix code

Field by field the reader returns only what the writer would have written in
the bytes taken.  So the decoder inverts the encoder in both directions, and an
encoded payload tells where it ends.
-/

namespace OpenClipboard.ClipboardBinaryPayload

open ByteReader PartialMap Text

/-! ## Fields -/

theorem takes_readBounded {width max : Nat} (readLabel label : String) :
    Takes (readBounded width max readLabel) (writeBounded width max label) := by
  intro bytes content rest read
  obtain ⟨length, middle, isLength, read⟩ := read_bind_iff.mp read
  obtain ⟨_, same, checked, read⟩ := read_bind_iff.mp read
  obtain ⟨short, isSame⟩ := read_require_iff.mp checked
  obtain ⟨isContent, isMiddle⟩ := readExact_eq_ok_iff.mp read
  obtain ⟨_, isBytes⟩ := readNat_eq_ok_iff.mp isLength
  refine ⟨LittleEndian.encode width content.length ++ content, ?_, ?_⟩
  · unfold writeBounded
    rw [if_neg (by omega)]
  · rw [isBytes, ← isSame, isMiddle, isContent, List.append_assoc]

variable (utf8Error : List UInt8 → String)

theorem readUtf8_eq_ok_iff {label text : String}
    {content bytes rest : List UInt8} :
    readUtf8 utf8Error label content bytes = .ok (text, rest) ↔
      content = asBytes text ∧ rest = bytes := by
  unfold readUtf8
  cases decoded : fromUtf8 content with
  | none =>
      constructor
      · intro thrown
        exact absurd thrown throw_ne_ok
      · rintro ⟨isText, _⟩
        rw [isText, fromUtf8_asBytes] at decoded
        cases decoded
  | some other =>
      have isContent := asBytes_of_fromUtf8 decoded
      rw [read_pure_iff, ← isContent, asBytes_injective.eq_iff]
      exact and_congr_left' eq_comm

theorem takes_readFormatId :
    Takes (readFormatId utf8Error) writeFormatId := by
  intro bytes formatId rest read
  obtain ⟨content, middle, isContent, read⟩ := read_bind_iff.mp read
  obtain ⟨isText, isRest⟩ := (readUtf8_eq_ok_iff utf8Error).mp read
  subst isText isRest
  exact takes_readBounded "format_id" "format_id" bytes _ _ isContent

theorem takes_readMime : Takes (readMime utf8Error) writeMime := by
  intro bytes mime rest read
  obtain ⟨flag, middle, isFlag, read⟩ := read_bind_iff.mp read
  obtain ⟨_, isBytes⟩ := readNat_eq_ok_iff.mp isFlag
  split at read
  · obtain ⟨content, last, isContent, read⟩ :=
      read_bind_iff.mp read
    obtain ⟨text, isText, isMime⟩ := read_map_iff.mp read
    obtain ⟨isAsBytes, isRest⟩ := (readUtf8_eq_ok_iff utf8Error).mp isText
    subst isMime isAsBytes isRest
    obtain ⟨front, written, isMiddle⟩ :=
      takes_readBounded "mime" "mime" middle _ _ isContent
    refine ⟨1 :: front, ?_, ?_⟩
    · exact bind_eq_ok_iff.mpr ⟨front, written, rfl⟩
    · rw [isBytes, isMiddle]
      rfl
  · obtain ⟨isMime, isRest⟩ := read_pure_iff.mp read
    subst isMime isRest
    exact ⟨[0], rfl, isBytes⟩
  · exact absurd read throw_ne_ok

theorem takes_readRepresentation :
    Takes (readRepresentation utf8Error) writeRepresentation := by
  intro bytes rep rest read
  obtain ⟨formatId, first, isFormatId, read⟩ :=
    read_bind_iff.mp read
  obtain ⟨mime, second, isMime, read⟩ := read_bind_iff.mp read
  obtain ⟨data, third, isData, read⟩ := read_bind_iff.mp read
  obtain ⟨isRep, isRest⟩ := read_pure_iff.mp read
  subst isRep isRest
  obtain ⟨front, writtenFormatId, isBytes⟩ :=
    takes_readFormatId utf8Error bytes formatId first isFormatId
  obtain ⟨middle, writtenMime, isFirst⟩ :=
    takes_readMime utf8Error first mime second isMime
  obtain ⟨back, writtenData, isSecond⟩ :=
    takes_readBounded "data" "data" second data rest isData
  refine ⟨front ++ (middle ++ back), ?_, ?_⟩
  · apply bind_eq_ok_iff.mpr
    refine ⟨front, writtenFormatId, ?_⟩
    apply bind_eq_ok_iff.mpr
    refine ⟨middle, writtenMime, ?_⟩
    apply bind_eq_ok_iff.mpr
    exact ⟨back, writtenData, rfl⟩
  · rw [isBytes, isFirst, isSecond]
    simp only [List.append_assoc]

/-! ## The payload -/

theorem writeI64_decodeI64 {number : Nat} (small : number < 256 ^ 8) :
    IsI64 (decodeI64 number) ∧
      writeI64 (decodeI64 number) = LittleEndian.encode 8 number := by
  norm_num at small
  have same : (decodeI64 number % 18446744073709551616).toNat = number := by
    unfold decodeI64
    split <;> omega
  constructor
  · unfold IsI64 decodeI64
    split <;> omega
  · unfold writeI64
    rw [same]

theorem encodeTo_of_decodeFrom {payload : ClipboardBinaryPayload}
    {bytes rest : List UInt8}
    (decoded : decodeFrom utf8Error bytes = .ok (payload, rest)) :
    IsI64 payload.tsMs ∧ ∃ front, payload.encodeTo = .ok front ∧
      bytes = front ++ rest := by
  obtain ⟨tsMs, first, isTsMs, read⟩ := read_bind_iff.mp decoded
  obtain ⟨count, second, isCount, read⟩ := read_bind_iff.mp read
  obtain ⟨_, third, checked, read⟩ := read_bind_iff.mp read
  obtain ⟨reps, last, areReps, read⟩ := read_bind_iff.mp read
  obtain ⟨isPayload, isRest⟩ := read_pure_iff.mp read
  obtain ⟨few, isThird⟩ := read_require_iff.mp checked
  subst isPayload isRest isThird
  obtain ⟨number, isNumber, isDecoded⟩ := read_map_iff.mp isTsMs
  obtain ⟨numberSmall, isBytes⟩ := readNat_eq_ok_iff.mp isNumber
  obtain ⟨_, isFirst⟩ := readNat_eq_ok_iff.mp isCount
  obtain ⟨length, front, written, isThird⟩ :=
    (takes_readRepresentation utf8Error).times areReps
  obtain ⟨isI64, rewritten⟩ := writeI64_decodeI64 numberSmall
  subst isDecoded
  refine ⟨isI64, writeI64 (decodeI64 number) ++
    (LittleEndian.encode 2 reps.length ++ front), ?_, ?_⟩
  · unfold encodeTo
    rw [if_neg (by simp only; omega)]
    exact bind_eq_ok_iff.mpr ⟨front, written, rfl⟩
  · rw [isBytes, isFirst, isThird, rewritten, length]
    simp only [List.append_assoc]

/-- The decoder succeeds exactly on the encodings, followed by anything, and
leaves what follows.  So two inputs that decode to the same payload and leave
the same rest are the same, and no encoding continues another one. -/
theorem decodeFrom_isPrefixCode :
    (∀ (payload : ClipboardBinaryPayload) (bytes rest : List UInt8),
      decodeFrom utf8Error bytes = .ok (payload, rest) ↔
        IsI64 payload.tsMs ∧ ∃ front, payload.encodeTo = .ok front ∧
          bytes = front ++ rest) ∧
    (∀ (payload : ClipboardBinaryPayload) (first second rest : List UInt8),
      decodeFrom utf8Error first = .ok (payload, rest) →
      decodeFrom utf8Error second = .ok (payload, rest) →
        first = second) ∧
    (∀ (one other : ClipboardBinaryPayload) (first second : List UInt8),
      IsI64 one.tsMs → one.encodeTo = .ok first →
      IsI64 other.tsMs → other.encodeTo = .ok second →
        first <+: second → one = other ∧ first = second) := by
  refine ⟨?_, ?_, ?_⟩
  · intro payload bytes rest
    constructor
    · exact encodeTo_of_decodeFrom utf8Error
    · rintro ⟨isI64, front, encoded, isBytes⟩
      rw [isBytes]
      exact reads_encodeTo utf8Error isI64 encoded rest
  · intro payload first second rest isFirst isSecond
    obtain ⟨_, front, encoded, spelled⟩ :=
      encodeTo_of_decodeFrom utf8Error isFirst
    obtain ⟨_, front', encoded', spelled'⟩ :=
      encodeTo_of_decodeFrom utf8Error isSecond
    rw [encoded] at encoded'
    cases encoded'
    rw [spelled, spelled']
  · rintro one other first second oneI64 isFirst otherI64 isSecond ⟨more, same⟩
    have ofOne := reads_encodeTo utf8Error oneI64 isFirst more
    have ofOther := reads_encodeTo utf8Error otherI64 isSecond []
    rw [List.append_nil, ← same, ofOne] at ofOther
    cases ofOther
    rw [List.append_nil] at same
    exact ⟨rfl, same⟩

def oneByte : ClipboardBinaryPayload := ⟨-2, [⟨"text", none, [0x61]⟩]⟩

def oneByteEncoded : List UInt8 :=
  [0xFE, 0xFF, 0xFF, 0xFF, 0xFF, 0xFF, 0xFF, 0xFF, 1, 0, 4, 0, 0x74, 0x65,
    0x78, 0x74, 0, 1, 0, 0, 0, 0x61]

theorem oneByte_decodes :
    decodeFrom (fun _ => "") (oneByteEncoded ++ [9]) = .ok (oneByte, [9]) := by
  apply ((decodeFrom_isPrefixCode fun _ => "").1 oneByte _ [9]).mpr
  refine ⟨⟨by decide, by decide⟩, oneByteEncoded, ?_, rfl⟩
  decide

end OpenClipboard.ClipboardBinaryPayload
