import Mathlib.Data.List.DropRight
import Mathlib.Data.List.Infix

/-!
# Text operations of the standard library

The string operations the clipboard code calls, on Unicode scalar values.
Each keeps the standard library's name; all of them work on the character list
so that closed instances evaluate.
-/

namespace OpenClipboard.Text

/-- `char::is_whitespace`: the Unicode `White_Space` property. -/
def isWhitespace (c : Char) : Bool :=
  let code := c.toNat
  (0x09 ≤ code && code ≤ 0x0D) || code == 0x20 || code == 0x85 ||
    code == 0xA0 || code == 0x1680 || (0x2000 ≤ code && code ≤ 0x200A) ||
    code == 0x2028 || code == 0x2029 || code == 0x202F || code == 0x205F ||
    code == 0x3000

/-- Drop whitespace at both ends of a character list. -/
def trimChars (chars : List Char) : List Char :=
  (chars.dropWhile isWhitespace).rdropWhile isWhitespace

def trim (text : String) : String :=
  String.ofList (trimChars text.toList)

def toAsciiLowercase (text : String) : String :=
  String.ofList (text.toList.map Char.toLower)

def eqIgnoreAsciiCase (left right : String) : Bool :=
  left.toList.map Char.toLower == right.toList.map Char.toLower

/-- `str::starts_with` with a string pattern. -/
def startsWith (text pattern : String) : Bool :=
  pattern.toList.isPrefixOf text.toList

/-- `str::contains` with a string pattern. -/
def contains (text pattern : String) : Bool :=
  decide (pattern.toList <:+: text.toList)

/-- `str::split` with a character pattern. -/
def split (text : String) (separator : Char) : List String :=
  (text.toList.splitOn separator).map String.ofList

def stripCarriageReturn (line : List Char) : List Char :=
  if line.getLast? = some '\r' then line.dropLast else line

/-- `str::lines`: every line is ended by `\n` or `\r\n`, except that the last
one may be unterminated, and is then kept as it is unless it is empty. -/
def lines (text : String) : List String :=
  let pieces := text.toList.splitOn '\n'
  let terminated := pieces.dropLast.map stripCarriageReturn
  let unterminated :=
    match pieces.getLast? with
    | none | some [] => []
    | some line => [line]
  (terminated ++ unterminated).map String.ofList

def asBytes (text : String) : List UInt8 :=
  text.toUTF8.data.toList

def fromUtf8 (bytes : List UInt8) : Option String :=
  String.fromUTF8? ⟨bytes.toArray⟩

@[simp]
theorem fromUtf8_asBytes (text : String) :
    fromUtf8 (asBytes text) = some text := by
  have restored : (⟨(asBytes text).toArray⟩ : ByteArray) = text.toUTF8 := by
    simp [asBytes]
  rw [fromUtf8, restored, String.fromUTF8?,
    dif_pos (by simpa using text.isValidUTF8)]
  simp [String.fromUTF8]

theorem asBytes_injective : Function.Injective asBytes := by
  intro left right sameBytes
  have decoded := congrArg fromUtf8 sameBytes
  simpa using decoded

theorem asBytes_append (left right : String) :
    asBytes (left ++ right) = asBytes left ++ asBytes right := by
  simp [asBytes, String.toByteArray_append]

variable {text : String} {c : Char}

theorem separator_mem_asBytes (member : '/' ∈ text.toList) :
    0x2F ∈ asBytes text := by
  obtain ⟨before, after, spelled⟩ := List.append_of_mem member
  have split : text =
      String.ofList before ++ ("/" ++ String.ofList after) := by
    apply String.toList_injective
    simp [spelled]
  have slash : asBytes "/" = [0x2F] := by decide
  rw [split, asBytes_append, asBytes_append, slash]
  simp

theorem asBytes_eq_flatMap (text : String) :
    asBytes text = text.toList.flatMap String.utf8EncodeChar := by
  have encoded : text.toUTF8 = text.toList.utf8Encode :=
    String.utf8Encode_toList.symm
  rw [asBytes, encoded, List.utf8Encode]
  simp

private theorem ascii_ne_of_large {byte : UInt8} {value : Nat}
    (ascii : byte.toNat < 128) (large : 128 ≤ value) (fits : value < 256) :
    byte ≠ UInt8.ofNat value := by
  intro same
  have sameNat := congrArg UInt8.toNat same
  rw [UInt8.toNat_ofNat'] at sameNat
  omega

theorem toNat_of_mem_utf8EncodeChar {byte : UInt8} (ascii : byte.toNat < 128)
    (member : byte ∈ String.utf8EncodeChar c) :
    c.toNat = byte.toNat := by
  unfold String.utf8EncodeChar at member
  simp only at member
  split at member
  · rw [List.mem_singleton] at member
    have sameNat := congrArg UInt8.toNat member
    rw [UInt8.toNat_ofNat'] at sameNat
    have code : c.toNat = c.val.toNat := rfl
    omega
  · split at member
    · simp only [List.mem_cons, List.not_mem_nil, or_false] at member
      rcases member with first | second
      · exact absurd first (ascii_ne_of_large ascii (by omega) (by omega))
      · exact absurd second (ascii_ne_of_large ascii (by omega) (by omega))
    · split at member
      · simp only [List.mem_cons, List.not_mem_nil, or_false] at member
        rcases member with first | second | third
        · exact absurd first (ascii_ne_of_large ascii (by omega) (by omega))
        · exact absurd second (ascii_ne_of_large ascii (by omega) (by omega))
        · exact absurd third (ascii_ne_of_large ascii (by omega) (by omega))
      · simp only [List.mem_cons, List.not_mem_nil, or_false] at member
        rcases member with first | second | third | fourth
        · exact absurd first (ascii_ne_of_large ascii (by omega) (by omega))
        · exact absurd second (ascii_ne_of_large ascii (by omega) (by omega))
        · exact absurd third (ascii_ne_of_large ascii (by omega) (by omega))
        · exact absurd fourth (ascii_ne_of_large ascii (by omega) (by omega))

theorem separator_mem_utf8EncodeChar (member : 0x2F ∈ String.utf8EncodeChar c) :
    c = '/' := by
  have code := toNat_of_mem_utf8EncodeChar (by decide) member
  exact Char.toNat_inj.mp code

theorem exists_char_of_mem_asBytes {byte : UInt8} (ascii : byte.toNat < 128)
    (member : byte ∈ asBytes text) :
    ∃ c ∈ text.toList, c.toNat = byte.toNat := by
  rw [asBytes_eq_flatMap] at member
  obtain ⟨c, inText, encoded⟩ := List.mem_flatMap.mp member
  exact ⟨c, inText, toNat_of_mem_utf8EncodeChar ascii encoded⟩

theorem separator_mem_asBytes_iff (text : String) :
    0x2F ∈ asBytes text ↔ '/' ∈ text.toList := by
  constructor
  · intro member
    rw [asBytes_eq_flatMap] at member
    obtain ⟨c, inText, encoded⟩ := List.mem_flatMap.mp member
    rwa [separator_mem_utf8EncodeChar encoded] at inText
  · exact separator_mem_asBytes

@[simp]
theorem contains_separator_iff (text : String) :
    contains text "/" = true ↔ '/' ∈ text.toList := by
  rw [contains, decide_eq_true_eq]
  exact List.singleton_infix_iff '/' text.toList

theorem asBytes_of_fromUtf8 {bytes : List UInt8}
    (decoded : fromUtf8 bytes = some text) :
    asBytes text = bytes := by
  unfold fromUtf8 String.fromUTF8? at decoded
  split at decoded
  · simp only [Option.some.injEq] at decoded
    subst decoded
    simp [asBytes, String.fromUTF8]
  · cases decoded

/-! ## Texts without whitespace -/

theorem noWhitespace_of_printable (low : 0x21 ≤ c.toNat) (high : c.toNat ≤ 0x7E) :
    isWhitespace c = false := by
  simp only [isWhitespace, Bool.or_eq_false_iff, Bool.and_eq_false_iff,
    decide_eq_false_iff_not, beq_eq_false_iff_ne]
  omega

theorem noWhitespace_of_isDigit (digit : c.isDigit = true) :
    isWhitespace c = false := by
  rw [Char.isDigit_iff_toNat] at digit
  have zero : '0'.toNat = 0x30 := by decide
  have nine : '9'.toNat = 0x39 := by decide
  exact noWhitespace_of_printable (by omega) (by omega)

theorem printable_of_isAlphanum (isAlphanum : c.isAlphanum = true) :
    0x21 ≤ c.toNat ∧ c.toNat ≤ 0x7E := by
  delta Char.isAlphanum Char.isAlpha Char.isUpper Char.isLower at isAlphanum
  simp only [Char.isDigit, Bool.or_eq_true, Bool.and_eq_true,
    decide_eq_true_eq, UInt32.le_iff_toNat_le, Char.reduceVal,
    UInt32.reduceToNat] at isAlphanum
  have isValue : c.val.toNat = c.toNat := rfl
  omega

theorem trim_of_ends
    (first : ∀ c, text.toList.head? = some c → isWhitespace c = false)
    (last : ∀ c, text.toList.getLast? = some c → isWhitespace c = false) :
    trim text = text := by
  unfold trim trimChars
  have front : text.toList.dropWhile isWhitespace = text.toList := by
    rw [List.dropWhile_eq_self_iff]
    intro nonempty
    rw [first _ (by rw [List.head?_eq_getElem?, List.getElem?_eq_getElem])]
    decide
  have back : text.toList.rdropWhile isWhitespace = text.toList := by
    rw [List.rdropWhile_eq_self_iff]
    intro nonempty
    rw [last _ (List.getLast?_eq_some_getLast nonempty)]
    decide
  rw [front, back, String.ofList_toList]

theorem trim_of_noWhitespace
    (noWhitespace : ∀ c ∈ text.toList, isWhitespace c = false) :
    trim text = text := by
  apply trim_of_ends
  · intro c first
    exact noWhitespace c (List.mem_of_head? first)
  · intro c last
    exact noWhitespace c (List.mem_of_getLast? last)

theorem lines_of_noWhitespace (nonempty : text ≠ "")
    (noWhitespace : ∀ c ∈ text.toList, isWhitespace c = false) :
    lines text = [text] := by
  have onePiece : text.toList.splitOn '\n' = [text.toList] := by
    apply List.splitOnP_eq_singleton
    intro c member
    rw [beq_eq_false_iff_ne]
    intro isNewline
    have notSpace := noWhitespace c member
    rw [isNewline] at notSpace
    exact absurd notSpace (by decide)
  have notEmpty : text.toList ≠ [] := by
    intro isEmpty
    exact nonempty (String.toList_eq_nil_iff.mp isEmpty)
  unfold lines
  rw [onePiece]
  cases isChars : text.toList with
  | nil => exact absurd isChars notEmpty
  | cons first rest =>
      have isText : String.ofList (first :: rest) = text := by
        rw [← isChars, String.ofList_toList]
      simp [isText]

end OpenClipboard.Text
