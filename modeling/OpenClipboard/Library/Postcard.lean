import OpenClipboard.Core.Text
import OpenClipboard.Library.ByteReader

/-!
# The postcard format

Values stand one after the other, without names: a length or an index is a
varint, bytes and texts stand behind their length, the fields of a structure
in their order and a variant behind its index.  A format pairs a writer with
its reader and says what layouts the reader takes for which value.  These are
more than the writer makes, since a varint may be longer than it has to be.
-/

namespace OpenClipboard.Postcard

open ByteReader Text

inductive Error where
  | deserializeUnexpectedEnd
  | deserializeBadVarint
  | deserializeBadUtf8
  | deserializeBadOption
  | serdeDeCustom
  deriving DecidableEq, Repr

/-! ## Varints -/

/-- The most bytes that a varint has, and the largest last byte of so many. -/
structure VarintWidth where
  max : Nat
  maxOfLastByte : Nat

def VarintWidth.u32 : VarintWidth := ⟨5, 15⟩

def VarintWidth.usize : VarintWidth := ⟨10, 1⟩

/-- What is above the largest number of the width. -/
def VarintWidth.bound (width : VarintWidth) : Nat :=
  128 ^ (width.max - 1) * (width.maxOfLastByte + 1)

/-- Seven bits a byte, the lowest first, in at most so many bytes. -/
def writeVarint : Nat → Nat → List UInt8
  | 0, _ => []
  | left + 1, value =>
      if value < 128 then
        [UInt8.ofNat value]
      else
        UInt8.ofNat (value % 128 + 128) :: writeVarint left (value / 128)

def readByte : Reader Error UInt8 := fun bytes =>
  match bytes with
  | [] => .error .deserializeUnexpectedEnd
  | byte :: rest => .ok (byte, rest)

def readVarint (maxOfLastByte : Nat) : Nat → Reader Error Nat
  | 0 => throw .deserializeBadVarint
  | left + 1 => do
      let byte ← readByte
      if byte.toNat < 128 then
        if left = 0 ∧ maxOfLastByte < byte.toNat then
          throw .deserializeBadVarint
        else
          pure byte.toNat
      else
        let high ← readVarint maxOfLastByte left
        pure (byte.toNat - 128 + 128 * high)

/-- The bytes of a number, of which there are at most so many: all but the last
have their highest bit set. -/
inductive IsVarint (maxOfLastByte : Nat) : Nat → List UInt8 → Nat → Prop
  | last {left : Nat} {byte : UInt8} :
      byte.toNat < 128 → (left = 0 → byte.toNat ≤ maxOfLastByte) →
      IsVarint maxOfLastByte (left + 1) [byte] byte.toNat
  | more {left value : Nat} {byte : UInt8} {bytes : List UInt8} :
      128 ≤ byte.toNat → IsVarint maxOfLastByte left bytes value →
      IsVarint maxOfLastByte (left + 1) (byte :: bytes)
        (byte.toNat - 128 + 128 * value)

section Varint

variable {maxOfLastByte left value : Nat} {bytes rest : List UInt8}

theorem readByte_eq_ok_iff {byte : UInt8} :
    readByte bytes = .ok (byte, rest) ↔ bytes = byte :: rest := by
  cases bytes with
  | nil => simp [readByte]
  | cons first others => simp [readByte]

/-- The reader takes exactly the varints. -/
theorem readVarint_eq_ok_iff :
    readVarint maxOfLastByte left bytes = .ok (value, rest) ↔
      ∃ front, IsVarint maxOfLastByte left front value ∧
        bytes = front ++ rest := by
  induction left generalizing bytes value with
  | zero =>
      constructor
      · intro read
        exact absurd read throw_ne_ok
      · rintro ⟨front, isVarint, _⟩
        cases isVarint
  | succ left inductionHypothesis =>
      unfold readVarint
      rw [read_bind_iff]
      constructor
      · rintro ⟨byte, middle, isByte, read⟩
        rw [readByte_eq_ok_iff.mp isByte]
        split at read
        · rename_i small
          split at read
          · exact absurd read throw_ne_ok
          · rename_i fits
            obtain ⟨isValue, isRest⟩ := read_pure_iff.mp read
            subst isValue isRest
            refine ⟨[byte], .last small ?_, rfl⟩
            intro noneLeft
            by_contra large
            exact fits ⟨noneLeft, by omega⟩
        · rename_i large
          obtain ⟨high, last, isHigh, read⟩ := read_bind_iff.mp read
          obtain ⟨isValue, isRest⟩ := read_pure_iff.mp read
          subst isValue isRest
          obtain ⟨front, isVarint, isMiddle⟩ := inductionHypothesis.mp isHigh
          refine ⟨byte :: front, .more (by omega) isVarint, ?_⟩
          rw [isMiddle, List.cons_append]
      · rintro ⟨front, isVarint, isBytes⟩
        cases isVarint with
        | last small fits =>
            rename_i byte
            refine ⟨byte, rest, readByte_eq_ok_iff.mpr isBytes, ?_⟩
            have allowed : ¬ (left = 0 ∧ maxOfLastByte < byte.toNat) := by
              rintro ⟨noneLeft, tooLarge⟩
              have fitting := fits noneLeft
              omega
            rw [if_pos small, if_neg allowed]
            exact read_pure_iff.mpr ⟨rfl, rfl⟩
        | more large isVarint =>
            rename_i high byte back
            refine ⟨byte, back ++ rest, readByte_eq_ok_iff.mpr isBytes, ?_⟩
            rw [if_neg (by omega)]
            apply read_bind_iff.mpr
            exact ⟨high, rest, inductionHypothesis.mpr ⟨back, isVarint, rfl⟩,
              read_pure_iff.mpr ⟨rfl, rfl⟩⟩

/-- What is written is a varint if the number fits. -/
theorem isVarint_writeVarint
    (fits : value < 128 ^ left * (maxOfLastByte + 1))
    (sevenBits : maxOfLastByte < 128) :
    IsVarint maxOfLastByte (left + 1) (writeVarint (left + 1) value) value := by
  induction left generalizing value with
  | zero =>
      have small : value < 128 := by omega
      have same : (UInt8.ofNat value).toNat = value := by
        rw [UInt8.toNat_ofNat']
        omega
      rw [writeVarint, if_pos small]
      have isLast := @IsVarint.last maxOfLastByte 0 (UInt8.ofNat value)
      rw [same] at isLast
      exact isLast small (fun _ => by omega)
  | succ left inductionHypothesis =>
      rw [writeVarint]
      by_cases small : value < 128
      · have same : (UInt8.ofNat value).toNat = value := by
          rw [UInt8.toNat_ofNat']
          omega
        rw [if_pos small]
        have isLast := @IsVarint.last maxOfLastByte (left + 1)
          (UInt8.ofNat value)
        rw [same] at isLast
        exact isLast small nofun
      · rw [if_neg small]
        have isByte : (UInt8.ofNat (value % 128 + 128)).toNat =
            value % 128 + 128 := by
          rw [UInt8.toNat_ofNat']
          omega
        have fitsHigh : value / 128 < 128 ^ left * (maxOfLastByte + 1) := by
          rw [Nat.div_lt_iff_lt_mul (by decide)]
          calc value < 128 ^ (left + 1) * (maxOfLastByte + 1) := fits
            _ = 128 ^ left * (maxOfLastByte + 1) * 128 := by ring
        have isMore := IsVarint.more
          (show 128 ≤ (UInt8.ofNat (value % 128 + 128)).toNat by omega)
          (inductionHypothesis fitsHigh)
        have whole : (UInt8.ofNat (value % 128 + 128)).toNat - 128 +
            128 * (value / 128) = value := by
          omega
        rw [whole] at isMore
        exact isMore

end Varint

/-! ## Formats -/

structure Format (α : Type) where
  write : α → List UInt8
  read : Reader Error α
  /-- The layouts that are read as the value. -/
  Lays : List UInt8 → α → Prop
  /-- The values that can be read back. -/
  Fits : α → Prop
  read_eq_ok_iff : ∀ {bytes rest value}, read bytes = .ok (value, rest) ↔
    ∃ front, Lays front value ∧ bytes = front ++ rest
  lays_write : ∀ {value}, Fits value → Lays (write value) value

namespace Format

variable {α β : Type}

theorem read_write (format : Format α) {value : α} (fits : format.Fits value)
    (rest : List UInt8) :
    format.read (format.write value ++ rest) = .ok (value, rest) :=
  format.read_eq_ok_iff.mpr ⟨_, format.lays_write fits, rfl⟩

/-- A reader succeeds exactly on what starts with a layout. -/
theorem exists_read_iff (format : Format α) {bytes : List UInt8} :
    (∃ read, format.read bytes = .ok read) ↔
      ∃ front rest value, format.Lays front value ∧ bytes = front ++ rest := by
  constructor
  · rintro ⟨⟨value, rest⟩, read⟩
    obtain ⟨front, lays, isBytes⟩ := format.read_eq_ok_iff.mp read
    exact ⟨front, rest, value, lays, isBytes⟩
  · rintro ⟨front, rest, value, lays, isBytes⟩
    exact ⟨(value, rest), format.read_eq_ok_iff.mpr ⟨front, lays, isBytes⟩⟩

def byte : Format UInt8 where
  write value := [value]
  read := readByte
  Lays layout value := layout = [value]
  Fits _ := True
  read_eq_ok_iff := by
    intro bytes rest value
    rw [readByte_eq_ok_iff]
    simp
  lays_write _ := rfl

/-- An index or a length. -/
def varint (width : VarintWidth) (sevenBits : width.maxOfLastByte < 128)
    (nonempty : 0 < width.max) : Format Nat where
  write := writeVarint width.max
  read := readVarint width.maxOfLastByte width.max
  Lays := IsVarint width.maxOfLastByte width.max
  Fits value := value < width.bound
  read_eq_ok_iff := readVarint_eq_ok_iff
  lays_write := by
    intro value fits
    obtain ⟨left, isMax⟩ := Nat.exists_eq_succ_of_ne_zero nonempty.ne'
    unfold VarintWidth.bound at fits
    rw [isMax] at fits ⊢
    exact isVarint_writeVarint fits sevenBits

def index : Format Nat := varint .u32 (by decide) (by decide)

def length : Format Nat := varint .usize (by decide) (by decide)

/-- `Vec<u8>`. -/
def bytes : Format (List UInt8) where
  write content := length.write content.length ++ content
  read := do
    let count ← length.read
    readExact .deserializeUnexpectedEnd count
  Lays layout content :=
    ∃ front, length.Lays front content.length ∧ layout = front ++ content
  Fits content := content.length < 2 ^ 64
  read_eq_ok_iff := by
    intro bytes rest content
    rw [read_bind_iff]
    constructor
    · rintro ⟨count, middle, isCount, read⟩
      obtain ⟨front, lays, isBytes⟩ := length.read_eq_ok_iff.mp isCount
      obtain ⟨sized, isMiddle⟩ := readExact_eq_ok_iff.mp read
      refine ⟨front ++ content, ⟨front, ?_, rfl⟩, ?_⟩
      · rw [sized]
        exact lays
      · rw [isBytes, isMiddle, List.append_assoc]
    · rintro ⟨layout, ⟨front, lays, isLayout⟩, isBytes⟩
      refine ⟨content.length, content ++ rest, ?_, ?_⟩
      · apply length.read_eq_ok_iff.mpr
        exact ⟨front, lays, by rw [isBytes, isLayout, List.append_assoc]⟩
      · exact readExact_eq_ok_iff.mpr ⟨rfl, rfl⟩
  lays_write := by
    intro content fits
    exact ⟨_, length.lays_write fits, rfl⟩

/-- `String`. -/
def text : Format String where
  write text := bytes.write (asBytes text)
  read := do
    let content ← bytes.read
    match fromUtf8 content with
    | none => throw .deserializeBadUtf8
    | some text => pure text
  Lays layout text := bytes.Lays layout (asBytes text)
  Fits text := bytes.Fits (asBytes text)
  read_eq_ok_iff := by
    intro input rest text
    rw [read_bind_iff]
    constructor
    · rintro ⟨content, middle, isContent, read⟩
      cases isText : fromUtf8 content with
      | none =>
          rw [isText] at read
          exact absurd read throw_ne_ok
      | some decoded =>
          rw [isText] at read
          obtain ⟨same, isRest⟩ := read_pure_iff.mp read
          subst same isRest
          rw [asBytes_of_fromUtf8 isText]
          exact bytes.read_eq_ok_iff.mp isContent
    · intro lays
      refine ⟨asBytes text, rest, bytes.read_eq_ok_iff.mpr lays, ?_⟩
      rw [fromUtf8_asBytes]
      exact read_pure_iff.mpr ⟨rfl, rfl⟩
  lays_write := bytes.lays_write

def option (format : Format α) : Format (Option α) where
  write
    | none => [0]
    | some value => 1 :: format.write value
  read := do
    let tag ← readByte
    if tag = 0 then
      pure none
    else if tag = 1 then
      some <$> format.read
    else
      throw .deserializeBadOption
  Lays layout
    | none => layout = [0]
    | some value => ∃ back, format.Lays back value ∧ layout = 1 :: back
  Fits value := ∀ present ∈ value, format.Fits present
  read_eq_ok_iff := by
    intro bytes rest value
    rw [read_bind_iff]
    constructor
    · rintro ⟨tag, middle, isTag, read⟩
      rw [readByte_eq_ok_iff.mp isTag]
      split at read
      · rename_i isNone
        obtain ⟨same, isRest⟩ := read_pure_iff.mp read
        subst same isRest isNone
        exact ⟨[0], rfl, rfl⟩
      · split at read
        · rename_i isSome
          obtain ⟨present, isPresent, same⟩ := read_map_iff.mp read
          obtain ⟨back, lays, isMiddle⟩ := format.read_eq_ok_iff.mp isPresent
          subst same isSome
          refine ⟨1 :: back, ⟨back, lays, rfl⟩, ?_⟩
          rw [isMiddle, List.cons_append]
        · exact absurd read throw_ne_ok
    · rintro ⟨layout, lays, isBytes⟩
      cases value with
      | none =>
          subst lays
          exact ⟨0, rest, readByte_eq_ok_iff.mpr isBytes,
            read_pure_iff.mpr ⟨rfl, rfl⟩⟩
      | some present =>
          obtain ⟨back, laysBack, isLayout⟩ := lays
          subst isLayout
          refine ⟨1, back ++ rest, readByte_eq_ok_iff.mpr isBytes, ?_⟩
          rw [if_neg (by decide), if_pos rfl]
          apply read_map_iff.mpr
          exact ⟨present, format.read_eq_ok_iff.mpr ⟨back, laysBack, rfl⟩, rfl⟩
  lays_write := by
    intro value fits
    cases value with
    | none => rfl
    | some present => exact ⟨_, format.lays_write (fits present rfl), rfl⟩

/-- Two fields, one after the other. -/
def pair (first : Format α) (second : Format β) : Format (α × β) where
  write both := first.write both.1 ++ second.write both.2
  read := do
    let left ← first.read
    let right ← second.read
    pure (left, right)
  Lays layout both := ∃ front back, first.Lays front both.1 ∧
    second.Lays back both.2 ∧ layout = front ++ back
  Fits both := first.Fits both.1 ∧ second.Fits both.2
  read_eq_ok_iff := by
    intro bytes rest both
    rw [read_bind_iff]
    constructor
    · rintro ⟨left, middle, isLeft, read⟩
      obtain ⟨right, last, isRight, read⟩ := read_bind_iff.mp read
      obtain ⟨same, isRest⟩ := read_pure_iff.mp read
      obtain ⟨front, laysFront, isBytes⟩ := first.read_eq_ok_iff.mp isLeft
      obtain ⟨back, laysBack, isMiddle⟩ := second.read_eq_ok_iff.mp isRight
      subst same isRest
      refine ⟨front ++ back, ⟨front, back, laysFront, laysBack, rfl⟩, ?_⟩
      rw [isBytes, isMiddle, List.append_assoc]
    · rintro ⟨layout, ⟨front, back, laysFront, laysBack, isLayout⟩, isBytes⟩
      refine ⟨both.1, back ++ rest, ?_, ?_⟩
      · apply first.read_eq_ok_iff.mpr
        exact ⟨front, laysFront, by rw [isBytes, isLayout, List.append_assoc]⟩
      · apply read_bind_iff.mpr
        exact ⟨both.2, rest, second.read_eq_ok_iff.mpr ⟨back, laysBack, rfl⟩,
          read_pure_iff.mpr ⟨rfl, rfl⟩⟩
  lays_write fits :=
    ⟨_, _, first.lays_write fits.1, second.lays_write fits.2, rfl⟩

/-- A structure made of its fields, or a variant of its payload. -/
def embed (format : Format β) (make : β → α) (partsOf : α → Option β)
    (make_partsOf : ∀ value parts, partsOf value = some parts →
      make parts = value) : Format α where
  write value := ((partsOf value).map format.write).getD []
  read := make <$> format.read
  Lays layout value := ∃ parts, format.Lays layout parts ∧ value = make parts
  Fits value := ∃ parts, partsOf value = some parts ∧ format.Fits parts
  read_eq_ok_iff := by
    intro bytes rest value
    rw [read_map_iff]
    constructor
    · rintro ⟨parts, isParts, same⟩
      obtain ⟨front, lays, isBytes⟩ := format.read_eq_ok_iff.mp isParts
      exact ⟨front, ⟨parts, lays, same⟩, isBytes⟩
    · rintro ⟨front, ⟨parts, lays, same⟩, isBytes⟩
      exact ⟨parts, format.read_eq_ok_iff.mpr ⟨front, lays, isBytes⟩, same⟩
  lays_write := by
    rintro value ⟨parts, areParts, fits⟩
    rw [areParts]
    exact ⟨parts, format.lays_write fits, (make_partsOf value parts areParts).symm⟩

/-- A variant without a payload. -/
def constant (only : α) : Format α where
  write _ := []
  read := pure only
  Lays layout value := layout = [] ∧ value = only
  Fits value := value = only
  read_eq_ok_iff := by
    intro bytes rest value
    rw [read_pure_iff]
    constructor
    · rintro ⟨same, isRest⟩
      exact ⟨[], ⟨rfl, same⟩, isRest.symm⟩
    · rintro ⟨front, ⟨isEmpty, same⟩, isBytes⟩
      rw [isBytes, isEmpty]
      exact ⟨same, rfl⟩
  lays_write same := ⟨rfl, same⟩

/-- An enumeration; every variant is a format of the values that are it. -/
def enum (variantIndex : α → Nat) (variants : List (Format α)) : Format α where
  write value := index.write (variantIndex value) ++
    ((variants[variantIndex value]?).map fun variant =>
      variant.write value).getD []
  read := do
    let variant ← index.read
    match variants[variant]? with
    | none => throw .serdeDeCustom
    | some variant => variant.read
  Lays layout value := ∃ position variant front back,
    variants[position]? = some variant ∧ index.Lays front position ∧
      variant.Lays back value ∧ layout = front ++ back
  Fits value := index.Fits (variantIndex value) ∧
    ∃ variant, variants[variantIndex value]? = some variant ∧
      variant.Fits value
  read_eq_ok_iff := by
    intro bytes rest value
    rw [read_bind_iff]
    constructor
    · rintro ⟨position, middle, isPosition, read⟩
      obtain ⟨front, laysFront, isBytes⟩ := index.read_eq_ok_iff.mp isPosition
      cases isVariant : variants[position]? with
      | none =>
          rw [isVariant] at read
          exact absurd read throw_ne_ok
      | some variant =>
          rw [isVariant] at read
          obtain ⟨back, laysBack, isMiddle⟩ := variant.read_eq_ok_iff.mp read
          refine ⟨front ++ back, ⟨position, variant, front, back, isVariant,
            laysFront, laysBack, rfl⟩, ?_⟩
          rw [isBytes, isMiddle, List.append_assoc]
    · rintro ⟨layout, ⟨position, variant, front, back, isVariant, laysFront,
        laysBack, isLayout⟩, isBytes⟩
      refine ⟨position, back ++ rest, ?_, ?_⟩
      · apply index.read_eq_ok_iff.mpr
        exact ⟨front, laysFront, by rw [isBytes, isLayout, List.append_assoc]⟩
      · rw [isVariant]
        exact variant.read_eq_ok_iff.mpr ⟨back, laysBack, rfl⟩
  lays_write := by
    rintro value ⟨fitsIndex, variant, isVariant, fits⟩
    rw [isVariant]
    exact ⟨_, variant, _, _, isVariant, index.lays_write fitsIndex,
      variant.lays_write fits, rfl⟩

/-! ### Where a reader fails -/

variable {error : Error}

theorem read_pair_of_error {first : Format α} {second : Format β} {left : α}
    {bytes : List UInt8} (fits : first.Fits left)
    (fails : second.read bytes = .error error) :
    (first.pair second).read (first.write left ++ bytes) = .error error := by
  show (first.read _ >>= fun read => _) = _
  rw [first.read_write fits]
  show (second.read _ >>= fun read => _) = _
  rw [fails]
  rfl

theorem read_embed_of_error {format : Format β} {make : β → α}
    {partsOf : α → Option β}
    {make_partsOf : ∀ value parts, partsOf value = some parts →
      make parts = value}
    {bytes : List UInt8} (fails : format.read bytes = .error error) :
    (format.embed make partsOf make_partsOf).read bytes = .error error := by
  show (format.read _ >>= fun read => _) = _
  rw [fails]
  rfl

theorem read_enum_of_error {variantIndex : α → Nat}
    {variants : List (Format α)} {position : Nat} {variant : Format α}
    {bytes : List UInt8} (isVariant : variants[position]? = some variant)
    (fits : index.Fits position) (fails : variant.read bytes = .error error) :
    (enum variantIndex variants).read (index.write position ++ bytes) =
      .error error := by
  show (index.read _ >>= fun read => _) = _
  rw [index.read_write fits]
  show (match variants[position]? with
    | none => throw Error.serdeDeCustom
    | some variant => variant.read) bytes = _
  rw [isVariant]
  exact fails

end Format

end OpenClipboard.Postcard
