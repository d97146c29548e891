import Mathlib.Data.List.Dedup
import Mathlib.Data.List.Lex
import Mathlib.Data.List.Sort
import OpenClipboard.Core.Text

/-!
# File paths

A path is what `std::path::Path` compares: what it starts with, and its other
components.  A component is a byte string; it need not be UTF-8.
-/

namespace OpenClipboard

open Text

abbrev OsString := List UInt8

/-- One normal or `..` component of a path. -/
structure Component where
  bytes : OsString
  nonempty : bytes ≠ []
  noSeparator : 0x2F ∉ bytes
  notCurrent : bytes ≠ [0x2E]
  deriving DecidableEq, Repr

/-- The root directory, a leading `.`, or neither. -/
inductive PathStart where
  | root
  | current
  | bare
  deriving DecidableEq, Repr

structure PathBuf where
  start : PathStart
  components : List Component
  deriving DecidableEq, Repr

/-! ## Lossy decoding -/

/-- `0x80..=0xBF`. -/
def isContinuation (byte : UInt8) : Bool :=
  0x80 ≤ byte && byte ≤ 0xBF

/-- The admitted second byte of a three or four byte sequence. -/
def isSecond (first second : UInt8) : Bool :=
  if first = 0xE0 then 0xA0 ≤ second && second ≤ 0xBF
  else if first = 0xED then 0x80 ≤ second && second ≤ 0x9F
  else if first = 0xF0 then 0x90 ≤ second && second ≤ 0xBF
  else if first = 0xF4 then 0x80 ≤ second && second ≤ 0x8F
  else isContinuation second

/-- How many bytes one replacement character stands for: the longest start of
a well-formed sequence, and at least one byte. -/
def invalidLength : OsString → Nat
  | first :: second :: rest =>
      if 0xE0 ≤ first && first ≤ 0xF4 && isSecond first second then
        match rest with
        | third :: _ =>
            if 0xF0 ≤ first && isContinuation third then 3 else 2
        | [] => 2
      else 1
  | _ => 1

/-- The first character of a byte string, with the number of its bytes. -/
def firstChar (bytes : OsString) : Option (Char × Nat) :=
  [1, 2, 3, 4].findSome? fun width =>
    match fromUtf8 (bytes.take width) with
    | some text =>
        match text.toList with
        | [c] => some (c, width)
        | _ => none
    | none => none

/-- Decode a byte string of at most `fuel` bytes, replacing what is invalid. -/
def lossyChars : Nat → OsString → List Char
  | 0, _ => []
  | _, [] => []
  | fuel + 1, bytes =>
      match firstChar bytes with
      | some (c, width) => c :: lossyChars fuel (bytes.drop width)
      | none =>
          Char.ofNat 0xFFFD :: lossyChars fuel (bytes.drop (invalidLength bytes))

def toStringLossy (bytes : OsString) : String :=
  match fromUtf8 bytes with
  | some text => text
  | none => String.ofList (lossyChars bytes.length bytes)

variable {bytes : OsString}

theorem toStringLossy_of_fromUtf8 {text : String}
    (decoded : fromUtf8 bytes = some text) :
    toStringLossy bytes = text := by
  simp [toStringLossy, decoded]

theorem noSeparator_of_fromUtf8 {text : String} (noSeparator : 0x2F ∉ bytes)
    (decoded : fromUtf8 bytes = some text) :
    '/' ∉ text.toList := by
  intro member
  apply noSeparator
  rw [← asBytes_of_fromUtf8 decoded]
  exact separator_mem_asBytes member

theorem firstChar_ne_separator {c : Char} {width : Nat}
    (noSeparator : 0x2F ∉ bytes) (decoded : firstChar bytes = some (c, width)) :
    c ≠ '/' := by
  obtain ⟨tested, _, found⟩ := List.exists_of_findSome?_eq_some decoded
  have prefixClean : 0x2F ∉ bytes.take tested :=
    fun member => noSeparator (List.mem_of_mem_take member)
  split at found
  · rename_i text prefixDecoded
    split at found
    · rename_i only spelled
      cases found
      have clean := noSeparator_of_fromUtf8 prefixClean prefixDecoded
      rintro rfl
      simp [spelled] at clean
    · cases found
  · cases found

theorem lossyChars_noSeparator {fuel : Nat} (noSeparator : 0x2F ∉ bytes) :
    '/' ∉ lossyChars fuel bytes := by
  induction fuel generalizing bytes with
  | zero => simp [lossyChars]
  | succ fuel inductionHypothesis =>
      have dropped : ∀ width, '/' ∉ lossyChars fuel (bytes.drop width) :=
        fun width => inductionHypothesis
          fun member => noSeparator (List.mem_of_mem_drop member)
      cases bytes with
      | nil => simp [lossyChars]
      | cons first rest =>
          rw [lossyChars]
          split
          · rename_i c width decoded
            have differs := firstChar_ne_separator noSeparator decoded
            rw [List.mem_cons, not_or]
            exact ⟨Ne.symm differs, dropped width⟩
          · rw [List.mem_cons, not_or]
            exact ⟨by decide, dropped _⟩
          · intro absurdEmpty
            cases absurdEmpty

theorem toStringLossy_noSeparator (noSeparator : 0x2F ∉ bytes) :
    '/' ∉ (toStringLossy bytes).toList := by
  unfold toStringLossy
  split
  · rename_i text decoded
    exact noSeparator_of_fromUtf8 noSeparator decoded
  · simpa using lossyChars_noSeparator noSeparator

theorem toStringLossy_ne_empty (nonempty : bytes ≠ []) :
    toStringLossy bytes ≠ "" := by
  unfold toStringLossy
  split
  · rename_i text decoded
    rintro rfl
    exact nonempty (asBytes_of_fromUtf8 decoded).symm
  · cases bytes with
    | nil => exact absurd rfl nonempty
    | cons first rest =>
        intro emptyText
        have noChars := congrArg String.toList emptyText
        rw [String.toList_ofList, List.length_cons, lossyChars] at noChars
        · split at noChars <;> cases noChars
        · intro absurdEmpty
          cases absurdEmpty

/-! ## Components and paths -/

namespace Component

/-- A byte string is a component unless it is empty, `.`, or holds a `/`. -/
def ofBytes (bytes : OsString) : Option Component :=
  if valid : bytes ≠ [] ∧ 0x2F ∉ bytes ∧ bytes ≠ [0x2E] then
    some ⟨bytes, valid.1, valid.2.1, valid.2.2⟩
  else
    none

@[simp]
theorem ofBytes_bytes (component : Component) :
    ofBytes component.bytes = some component := by
  simp [ofBytes, component.nonempty, component.noSeparator,
    component.notCurrent]

/-- `Component::ParentDir`. -/
def isParent (component : Component) : Bool :=
  component.bytes == [0x2E, 0x2E]

def toStr (component : Component) : Option String :=
  fromUtf8 component.bytes

end Component

namespace PathBuf

def isAbsolute (path : PathBuf) : Bool :=
  path.start == .root

/-- The bytes of the path, `/` between components. -/
def asOsStr (path : PathBuf) : OsString :=
  let components := path.components.map Component.bytes
  match path.start with
  | .root => 0x2F :: List.intercalate [0x2F] components
  | .current => List.intercalate [0x2F] ([0x2E] :: components)
  | .bare => List.intercalate [0x2F] components

def startOf : List OsString → PathStart
  | [] :: _ :: _ => .root
  | [0x2E] :: _ => .current
  | _ => .bare

/-- Parse bytes as a path: empty components carry no meaning, nor does `.`
after the start. -/
def ofOsStr (bytes : OsString) : PathBuf where
  start := startOf (bytes.splitOn 0x2F)
  components := (bytes.splitOn 0x2F).filterMap Component.ofBytes

/-- `PathBuf::from` on text. -/
def fromText (text : String) : PathBuf :=
  ofOsStr (asBytes text)

/-- `Path::display().to_string()`, also `Path::to_string_lossy`. -/
def display (path : PathBuf) : String :=
  toStringLossy path.asOsStr

/-- `Path::join`: an absolute right operand replaces the left one. -/
def join (path extension : PathBuf) : PathBuf :=
  if extension.isAbsolute || (path.start == .bare && path.components.isEmpty)
  then
    extension
  else
    { path with components := path.components ++ extension.components }

/-- Append one component. -/
def push (path : PathBuf) (component : Component) : PathBuf :=
  { path with components := path.components ++ [component] }

/-- `Path::file_name`: the last component, unless it is `..`. -/
def fileName (path : PathBuf) : Option Component :=
  match path.components.getLast? with
  | some last => if last.isParent then none else some last
  | none => none

/-! ### Order -/

/-- `Component` in the order of its variants, normal components bytewise. -/
def componentKey (component : Component) : List Nat :=
  if component.isParent then [2] else 3 :: component.bytes.map UInt8.toNat

def startKey : PathStart → List (List Nat)
  | .root => [[0]]
  | .current => [[1]]
  | .bare => []

/-- What `Path`'s comparison goes by. -/
def key (path : PathBuf) : List (List Nat) :=
  startKey path.start ++ path.components.map componentKey

/-- `paths.sort(); paths.dedup()`. -/
def sortDedup (paths : List PathBuf) : List PathBuf :=
  (paths.insertionSort fun left right => left.key ≤ right.key).dedup

end PathBuf

end OpenClipboard
