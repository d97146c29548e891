import OpenClipboard.Library.LittleEndian
import OpenClipboard.Library.PartialMap

/-!
# Readers of bytes

A reader takes a value off the front of some bytes, or fails.  It *reads* the
bytes that a writer has made of a value if it takes exactly these bytes and
returns the value, whatever follows them.  What is written piece by piece is
read piece by piece.  A reader *takes* what a writer writes if it returns no
value without taking what the writer makes of it.
-/

namespace OpenClipboard.ByteReader

universe u v

abbrev Reader (ε : Type) (α : Type) := StateT (List UInt8) (Except ε) α

variable {ε α β : Type}

/-- The bytes are taken off and the value is returned. -/
def Reads (reader : Reader ε α) (bytes : List UInt8) (value : α) : Prop :=
  ∀ rest, reader (bytes ++ rest) = .ok (value, rest)

/-- The next `count` bytes, if there are that many. -/
def readExact (failure : ε) (count : Nat) : Reader ε (List UInt8) := fun bytes =>
  if bytes.length < count then
    .error failure
  else
    .ok (bytes.take count, bytes.drop count)

/-- A number of `width` bytes. -/
def readNat (failure : ε) (width : Nat) : Reader ε Nat :=
  LittleEndian.decode <$> readExact failure width

/-- Go on only if the condition holds. -/
def require (condition : Prop) [Decidable condition] (failure : ε) :
    Reader ε Unit :=
  if condition then pure () else throw failure

/-- The same reader over and over. -/
def times (reader : Reader ε α) : Nat → Reader ε (List α)
  | 0 => pure []
  | count + 1 => do
      let first ← reader
      let others ← times reader count
      pure (first :: others)

/-- What a writer makes of some values, one after the other. -/
def writeAll (write : α → Except ε (List UInt8)) :
    List α → Except ε (List UInt8)
  | [] => .ok []
  | value :: others => do
      let first ← write value
      let rest ← writeAll write others
      .ok (first ++ rest)

namespace Reads

theorem pure (value : α) :
    Reads (Pure.pure value : Reader ε α) [] value :=
  fun _ => rfl

/-- One piece after the other. -/
theorem bind {reader : Reader ε α} {next : α → Reader ε β}
    {front back : List UInt8} {value : α} {result : β}
    (first : Reads reader front value) (second : Reads (next value) back result) :
    Reads (reader >>= next) (front ++ back) result := by
  intro rest
  have front := first (back ++ rest)
  have later := second rest
  rw [← List.append_assoc] at front
  show (reader _ >>= fun read => next read.1 read.2) = _
  rw [front]
  exact later

/-- A step that takes no bytes. -/
theorem after {reader : Reader ε α} {next : α → Reader ε β}
    {bytes : List UInt8} {value : α} {result : β}
    (first : Reads reader [] value) (second : Reads (next value) bytes result) :
    Reads (reader >>= next) bytes result :=
  first.bind second

/-- The value at the end. -/
theorem map {reader : Reader ε α} {bytes : List UInt8} {value : α}
    (f : α → β) (read : Reads reader bytes value) :
    Reads (f <$> reader) bytes (f value) := by
  intro rest
  show (reader _ >>= fun read => Except.ok (f read.1, read.2)) = _
  rw [read rest]
  rfl

/-- The value at the end of a sequence. -/
theorem result {reader : Reader ε α} {bytes : List UInt8} {value : α}
    (read : Reads reader bytes value) (f : α → β) :
    Reads (reader >>= fun value => Pure.pure (f value)) bytes (f value) := by
  intro rest
  show (reader _ >>= fun read => Except.ok (f read.1, read.2)) = _
  rw [read rest]
  rfl

theorem require {condition : Prop} [Decidable condition] {failure : ε}
    (holds : condition) :
    Reads (ByteReader.require condition failure) [] () := by
  unfold ByteReader.require
  rw [if_pos holds]
  exact Reads.pure ()

theorem readExact (failure : ε) {bytes : List UInt8} {count : Nat}
    (length : bytes.length = count) :
    Reads (ByteReader.readExact failure count) bytes bytes := by
  intro rest
  have enough : ¬ (bytes ++ rest).length < count := by
    rw [List.length_append]
    omega
  unfold ByteReader.readExact
  rw [if_neg enough, List.take_left' length, List.drop_left' length]

theorem readNat (failure : ε) {width value : Nat}
    (small : value < 256 ^ width) :
    Reads (ByteReader.readNat failure width) (LittleEndian.encode width value)
      value := by
  have read := Reads.map LittleEndian.decode
    (Reads.readExact failure (LittleEndian.encode_length width value))
  rw [LittleEndian.decode_encode small] at read
  exact read

/-- What was written of every value is read as what each of them reads as. -/
theorem times {reader : Reader ε β} {write : α → Except ε (List UInt8)}
    {become : α → β} {values : List α} {bytes : List UInt8}
    (written : writeAll write values = .ok bytes)
    (each : ∀ value ∈ values, ∀ piece, write value = .ok piece →
      Reads reader piece (become value)) :
    Reads (ByteReader.times reader values.length) bytes
      (values.map become) := by
  induction values generalizing bytes with
  | nil =>
      cases written
      exact Reads.pure []
  | cons value others inductionHypothesis =>
      obtain ⟨front, isFront, done⟩ := PartialMap.bind_eq_ok_iff.mp written
      obtain ⟨back, isBack, isBytes⟩ := PartialMap.bind_eq_ok_iff.mp done
      cases isBytes
      have here := each value List.mem_cons_self front isFront
      have later := inductionHypothesis isBack fun other member =>
        each other (List.mem_cons_of_mem value member)
      exact here.bind (later.result (become value :: ·))

end Reads

/-! ## What a reader has taken -/

/-- Whatever is returned, the bytes taken are what the writer makes of it. -/
def Takes (reader : Reader ε α) (write : α → Except ε (List UInt8)) : Prop :=
  ∀ bytes value rest, reader bytes = .ok (value, rest) →
    ∃ front, write value = .ok front ∧ bytes = front ++ rest

section Inversion

variable {reader : Reader ε α} {bytes rest : List UInt8}

theorem read_bind_iff {next : α → Reader ε β} {result : β} :
    (reader >>= next) bytes = .ok (result, rest) ↔
      ∃ value middle, reader bytes = .ok (value, middle) ∧
        next value middle = .ok (result, rest) := by
  have unfolded : (reader >>= next) bytes =
      (reader bytes).bind fun read => next read.1 read.2 := rfl
  rw [unfolded, PartialMap.bind_eq_ok_iff]
  constructor
  · rintro ⟨⟨value, middle⟩, first, second⟩
    exact ⟨value, middle, first, second⟩
  · rintro ⟨value, middle, first, second⟩
    exact ⟨(value, middle), first, second⟩

theorem read_map_iff {f : α → β} {result : β} :
    (f <$> reader) bytes = .ok (result, rest) ↔
      ∃ value, reader bytes = .ok (value, rest) ∧ result = f value := by
  have unfolded : (f <$> reader) bytes =
      (reader bytes).bind fun read => Except.ok (f read.1, read.2) := rfl
  rw [unfolded, PartialMap.bind_eq_ok_iff]
  constructor
  · rintro ⟨⟨value, middle⟩, first, same⟩
    cases same
    exact ⟨value, first, rfl⟩
  · rintro ⟨value, first, same⟩
    subst same
    exact ⟨(value, rest), first, rfl⟩

theorem read_pure_iff {value result : α} :
    (pure value : Reader ε α) bytes = .ok (result, rest) ↔
      result = value ∧ rest = bytes := by
  have unfolded : (pure value : Reader ε α) bytes = .ok (value, bytes) := rfl
  rw [unfolded, Except.ok.injEq, Prod.mk.injEq, eq_comm,
    @eq_comm _ bytes rest]

theorem throw_ne_ok {failure : ε} {result : α} :
    (throw failure : Reader ε α) bytes ≠ .ok (result, rest) := by
  have unfolded : (throw failure : Reader ε α) bytes = .error failure := rfl
  rw [unfolded]
  exact nofun

theorem read_require_iff {condition : Prop} [Decidable condition]
    {failure : ε} {done : Unit} :
    require condition failure bytes = .ok (done, rest) ↔
      condition ∧ rest = bytes := by
  unfold require
  by_cases holds : condition
  · rw [if_pos holds, read_pure_iff]
    exact ⟨fun both => ⟨holds, both.2⟩, fun both => ⟨rfl, both.2⟩⟩
  · rw [if_neg holds]
    constructor
    · intro thrown
      exact absurd thrown throw_ne_ok
    · intro both
      exact absurd both.1 holds

theorem readExact_eq_ok_iff {failure : ε} {count : Nat} {value : List UInt8} :
    readExact failure count bytes = .ok (value, rest) ↔
      value.length = count ∧ bytes = value ++ rest := by
  constructor
  · intro read
    unfold readExact at read
    split at read
    · cases read
    · rename_i enough
      cases read
      refine ⟨?_, (List.take_append_drop count bytes).symm⟩
      rw [List.length_take]
      omega
  · rintro ⟨length, isBytes⟩
    rw [isBytes]
    exact Reads.readExact failure length rest

theorem readNat_eq_ok_iff {failure : ε} {width value : Nat} :
    readNat failure width bytes = .ok (value, rest) ↔
      value < 256 ^ width ∧
        bytes = LittleEndian.encode width value ++ rest := by
  constructor
  · intro read
    obtain ⟨digits, isRead, isValue⟩ := read_map_iff.mp read
    obtain ⟨length, isBytes⟩ := readExact_eq_ok_iff.mp isRead
    subst isValue
    rw [← length]
    refine ⟨LittleEndian.decode_lt digits, ?_⟩
    rw [LittleEndian.encode_decode]
    exact isBytes
  · rintro ⟨small, isBytes⟩
    rw [isBytes]
    exact Reads.readNat failure small rest

/-- The reader returns a value exactly of what the writer makes of it. -/
def Inverts (reader : Reader ε α) (write : α → Except ε (List UInt8)) : Prop :=
  ∀ bytes value rest, reader bytes = .ok (value, rest) ↔
    ∃ front, write value = .ok front ∧ bytes = front ++ rest

/-- Of what was written and broke off nothing is returned. -/
theorem Inverts.take_eq_ok_iff {write : α → Except ε (List UInt8)}
    (inverts : Inverts reader write) {value result : α} {frame : List UInt8}
    (written : write value = .ok frame) {count : Nat} :
    reader (frame.take count) = .ok (result, rest) ↔
      result = value ∧ rest = [] ∧ frame.length ≤ count := by
  constructor
  · intro read
    obtain ⟨front, isFront, isTaken⟩ := (inverts _ _ _).mp read
    -- The reader would go on reading the same value off the whole frame.
    have whole : frame = front ++ (rest ++ frame.drop count) := by
      rw [← List.append_assoc, ← isTaken, List.take_append_drop]
    have asValue := (inverts frame value []).mpr
      ⟨frame, written, (List.append_nil frame).symm⟩
    have asResult := (inverts frame _ _).mpr ⟨front, isFront, whole⟩
    rw [asValue, Except.ok.injEq, Prod.mk.injEq] at asResult
    obtain ⟨isRest, isDropped⟩ := List.append_eq_nil_iff.mp asResult.2.symm
    exact ⟨asResult.1.symm, isRest, List.drop_eq_nil_iff.mp isDropped⟩
  · rintro ⟨isValue, isRest, enough⟩
    rw [isValue, isRest, List.take_of_length_le enough]
    exact (inverts _ _ _).mpr ⟨frame, written, (List.append_nil frame).symm⟩

/-- What was read over and over was written one after the other. -/
theorem Takes.times {write : α → Except ε (List UInt8)}
    (takes : Takes reader write) {count : Nat} {values : List α}
    (read : ByteReader.times reader count bytes = .ok (values, rest)) :
    values.length = count ∧ ∃ front, writeAll write values = .ok front ∧
      bytes = front ++ rest := by
  induction count generalizing bytes values with
  | zero =>
      obtain ⟨isEmpty, isRest⟩ := read_pure_iff.mp read
      subst isEmpty
      exact ⟨rfl, [], rfl, isRest.symm⟩
  | succ count inductionHypothesis =>
      obtain ⟨first, middle, isFirst, read⟩ := read_bind_iff.mp read
      obtain ⟨others, last, areOthers, read⟩ := read_bind_iff.mp read
      obtain ⟨isValues, isRest⟩ := read_pure_iff.mp read
      subst isValues isRest
      obtain ⟨front, isFront, isBytes⟩ := takes bytes first middle isFirst
      obtain ⟨length, back, isBack, isMiddle⟩ := inductionHypothesis areOthers
      refine ⟨congrArg Nat.succ length, front ++ back, ?_, ?_⟩
      · apply PartialMap.bind_eq_ok_iff.mpr
        refine ⟨front, isFront, ?_⟩
        apply PartialMap.bind_eq_ok_iff.mpr
        exact ⟨back, isBack, rfl⟩
      · rw [isBytes, isMiddle, List.append_assoc]

end Inversion

end OpenClipboard.ByteReader
