import Mathlib
import OpenClipboard.Core.Text

/-!
# The tokenizer of the search index

A text is cut at word boundaries, at separators and where the case changes; the
pieces, with their prefixes, are the tags of an indexed text, and those of a
query without them.  The tables of Unicode are a parameter.
-/

namespace OpenClipboard.Search

/-- What the tokenizer asks of Unicode. -/
structure UnicodeText where
  nfkc : String → String
  toLowercase : String → String
  unicodeWords : String → List String
  isLowercase : Char → Bool
  isUppercase : Char → Bool
  disjoint : ∀ c, isUppercase c = true → isLowercase c = false

namespace SearchTokenizer

def prefixMinLen : Nat := 3

def prefixMaxLen : Nat := 32

/-! ## Splitting where the case changes -/

section CamelCase

variable (unicode : UnicodeText)

def hasCamelCase : List Char → Bool
  | previous :: c :: rest =>
      (unicode.isLowercase previous && unicode.isUppercase c) ||
        hasCamelCase (c :: rest)
  | _ => false

/-- `String::len`, in bytes. -/
def byteLength (chars : List Char) : Nat :=
  (chars.map Char.utf8Size).sum

/-- The parts of what is left, after the part that is being collected. -/
def splitCamelCaseFrom : List Char → List Char → List (List Char)
  | current, [] => if current.isEmpty then [] else [current]
  | current, ch :: rest =>
      let prevLower := current.getLast?.any unicode.isLowercase
      let nextLower := rest.head?.any unicode.isLowercase
      let prevUpper := current.getLast?.any unicode.isUppercase
      if unicode.isUppercase ch && !current.isEmpty &&
          (prevLower || (prevUpper && nextLower && 1 < byteLength current)) then
        if prevUpper && nextLower && 1 < byteLength current then
          -- The last character collected starts the new part.
          current.dropLast ::
            splitCamelCaseFrom (current.getLast?.toList ++ [ch]) rest
        else
          current :: splitCamelCaseFrom [ch] rest
      else
        splitCamelCaseFrom (current ++ [ch]) rest

def splitCamelCaseOriginal (text : String) : List String :=
  (splitCamelCaseFrom unicode [] text.toList).map String.ofList

end CamelCase

/-! ## The pieces of a text -/

def isSeparator (c : Char) : Bool :=
  c == '_' || c == '-' || c == '.' || c == '/'

def containsSeparator (text : String) : Bool :=
  text.toList.any isSeparator

def splitOnSeparators (text : String) : List String :=
  ((text.toList.splitOnP isSeparator).filter fun part =>
    !part.isEmpty).map String.ofList

def inRange (low high : Nat) (c : Char) : Bool :=
  low ≤ c.toNat && c.toNat ≤ high

def isCjk (c : Char) : Bool :=
  inRange 0x4E00 0x9FFF c || inRange 0x3400 0x4DBF c ||
    inRange 0xF900 0xFAFF c || inRange 0x20000 0x2A6DF c ||
      inRange 0x3040 0x309F c || inRange 0x30A0 0x30FF c ||
        inRange 0xAC00 0xD7AF c

/-- A single character is kept if it is a digit or CJK. -/
def shouldKeepToken (token : String) : Bool :=
  match token.toList with
  | [c] => !c.isAlpha && (isCjk c || c.isDigit)
  | _ => true

def windows : List Char → List String
  | first :: second :: rest =>
      String.ofList [first, second] :: windows (second :: rest)
  | _ => []

/-- The bigrams of what is left, after the run that is being collected. -/
def bigramsFrom : List Char → List Char → List String
  | run, [] => windows run
  | run, c :: rest =>
      if isCjk c then bigramsFrom (run ++ [c]) rest
      else windows run ++ bigramsFrom [] rest

def cjkBigrams (text : String) : List String :=
  bigramsFrom [] text.toList

def prefixTokens (token : String) : List String :=
  if token.length ≤ prefixMinLen ∨ prefixMaxLen < token.length then []
  else (List.range' prefixMinLen (token.length - prefixMinLen)).map fun size =>
    String.ofList (token.toList.take size)

section Tokenize

variable (unicode : UnicodeText)

/-- The candidates: the whole of an identifier, the words, the parts between
changes of case and separators, and those between separators. -/
def candidateTokens (raw : String) : List String :=
  let nfkcOriginal := unicode.nfkc raw
  let lowered := unicode.toLowercase nfkcOriginal
  let isIdentifierLike := containsSeparator lowered ||
    hasCamelCase unicode nfkcOriginal.toList
  (if isIdentifierLike then [lowered] else []) ++
    (unicode.unicodeWords lowered).filter (fun word => !word.isEmpty) ++
      (((splitCamelCaseOriginal unicode nfkcOriginal).flatMap
        splitOnSeparators).map unicode.toLowercase).filter
          (fun part => !part.isEmpty) ++
        splitOnSeparators lowered

def keptTokens (raw : String) : List String :=
  (candidateTokens unicode raw).filter shouldKeepToken

/-- The tokens so far, and all that were met. -/
structure Collected where
  result : List String
  seen : List String

def Collected.push (state : Collected) (token : String) : Collected :=
  if token ∈ state.seen then state
  else ⟨state.result ++ [token], token :: state.seen⟩

def Collected.addToken (state : Collected) (token : String) : Collected :=
  if token ∈ state.seen then
    state
  else
    match cjkBigrams token with
    | [] => ⟨state.result ++ [token], token :: state.seen⟩
    | bigrams =>
        bigrams.foldl Collected.push ⟨state.result, token :: state.seen⟩

def Collected.addPrefixes (state : Collected) (token : String) : Collected :=
  if (cjkBigrams token).isEmpty then
    (prefixTokens token).foldl Collected.push state
  else
    state

def baseTokens (raw : String) : Collected :=
  (cjkBigrams (unicode.toLowercase (unicode.nfkc raw))).foldl Collected.push
    ((keptTokens unicode raw).foldl Collected.addToken ⟨[], []⟩)

def tokenizeSegmentInner (raw : String) (withPrefixes : Bool) : List String :=
  if raw.isEmpty then
    []
  else if withPrefixes then
    ((baseTokens unicode raw).result.foldl Collected.addPrefixes
      (baseTokens unicode raw)).result
  else
    (baseTokens unicode raw).result

/-- The tags of an indexed text. -/
def tokenizeSegment (raw : String) : List String :=
  tokenizeSegmentInner unicode raw true

/-- The tags of a query. -/
def tokenizeSegmentNoPrefix (raw : String) : List String :=
  tokenizeSegmentInner unicode raw false

end Tokenize

/-! ## Where the parts of a split meet -/

section Boundaries

variable {unicode : UnicodeText}

/-- An upper-case letter after an upper-case one and before a lower-case one:
the last of a run, where a capitalised word begins. -/
def AcronymEnds (unicode : UnicodeText) (chars : List Char) (position : Nat) :
    Prop :=
  ∃ before previous last next after,
    chars = before ++ previous :: last :: next :: after ∧
      position = before.length + 1 ∧ unicode.isUppercase previous = true ∧
        unicode.isUppercase last = true ∧ unicode.isLowercase next = true

/-- Some of the parts end before the position, and the others begin there. -/
def IsBoundary (parts : List (List Char)) (position : Nat) : Prop :=
  ∃ front back, parts = front ++ back ∧ front.flatten.length = position

theorem flatten_splitCamelCaseFrom (current rest : List Char) :
    (splitCamelCaseFrom unicode current rest).flatten = current ++ rest := by
  induction rest generalizing current with
  | nil =>
      rw [splitCamelCaseFrom]
      by_cases isEmpty : current = []
      · simp [isEmpty]
      · simp [isEmpty]
  | cons ch rest inductionHypothesis =>
      rw [splitCamelCaseFrom]
      split
      · rename_i splits
        split
        · rw [List.flatten_cons, inductionHypothesis]
          have nonempty : current ≠ [] := by
            intro isEmpty
            simp [isEmpty] at splits
          rw [List.getLast?_eq_some_getLast nonempty, Option.toList_some,
            ← List.append_assoc, ← List.append_assoc,
            List.dropLast_append_getLast nonempty, List.append_assoc,
            List.singleton_append]
        · rw [List.flatten_cons, inductionHypothesis, List.singleton_append]
      · rw [inductionHypothesis, List.append_assoc, List.singleton_append]

theorem next_of_acronymEnds {front rest : List Char} {last next : Char}
    (ends : AcronymEnds unicode (front ++ last :: next :: rest) front.length) :
    unicode.isLowercase next = true := by
  rcases ends with
    ⟨before, previous, _, found, after, isSplit, isPosition, _, _, isLower⟩
  have sameLength : front.length = (before ++ [previous]).length := by
    rw [isPosition, List.length_append, List.length_singleton]
  rw [List.append_cons before] at isSplit
  have sameTail := List.append_inj_right isSplit sameLength
  simp only [List.cons.injEq] at sameTail
  rw [sameTail.2.1]
  exact isLower

theorem previous_of_acronymEnds {front rest : List Char} {previous : Char}
    (ends : AcronymEnds unicode (front ++ previous :: rest)
      (front.length + 1)) :
    unicode.isUppercase previous = true := by
  rcases ends with
    ⟨before, found, _, _, after, isSplit, isPosition, isUpper, _, _⟩
  have sameLength : front.length = before.length := by omega
  have sameTail := List.append_inj_right isSplit sameLength
  simp only [List.cons.injEq] at sameTail
  rw [sameTail.1]
  exact isUpper

theorem acronymEnds_lt {chars : List Char} {position : Nat}
    (ends : AcronymEnds unicode chars position) :
    position < chars.length := by
  rcases ends with ⟨before, previous, last, next, after, isSplit, isPosition, _⟩
  rw [isSplit, isPosition, List.length_append]
  simp only [List.length_cons]
  omega

theorem isBoundary_cons {part : List Char} {parts : List (List Char)}
    {position : Nat} (boundary : IsBoundary (part :: parts) position)
    (inside : position ≠ 0) :
    ∃ later, IsBoundary parts later ∧ position = part.length + later := by
  rcases boundary with ⟨front, back, isSplit, isPosition⟩
  cases front with
  | nil =>
      rw [List.flatten_nil, List.length_nil] at isPosition
      exact absurd isPosition.symm inside
  | cons first front =>
      rw [List.cons_append, List.cons.injEq] at isSplit
      refine ⟨front.flatten.length, ⟨front, back, isSplit.2, rfl⟩, ?_⟩
      rw [← isPosition, List.flatten_cons, List.length_append, isSplit.1]

/-- No split is where a capitalised word begins after an acronym: there is one
after a lower-case letter, and one before the last two upper-case letters. -/
theorem not_acronymEnds_of_isBoundary (before : List Char)
    {current rest : List Char} {position : Nat}
    (boundary : IsBoundary (splitCamelCaseFrom unicode current rest) position)
    (inside : position ≠ 0) :
    ¬ AcronymEnds unicode (before ++ current ++ rest)
      (before.length + position) := by
  induction rest generalizing before current position with
  | nil =>
      intro ends
      have short := acronymEnds_lt ends
      rw [splitCamelCaseFrom] at boundary
      split at boundary
      · rcases boundary with ⟨front, back, isSplit, isPosition⟩
        rw [(List.append_eq_nil_iff.mp isSplit.symm).1] at isPosition
        exact inside isPosition.symm
      · rcases isBoundary_cons boundary inside with
          ⟨later, ⟨front, back, isSplit, isLater⟩, isPosition⟩
        rw [(List.append_eq_nil_iff.mp isSplit.symm).1] at isLater
        rw [List.append_nil, List.length_append] at short
        omega
  | cons ch rest inductionHypothesis =>
      intro ends
      rw [splitCamelCaseFrom] at boundary
      split at boundary
      · rename_i splits
        simp only [Bool.and_eq_true, Bool.or_eq_true, Bool.not_eq_true',
          List.isEmpty_eq_false_iff] at splits
        rcases splits with ⟨⟨isUpper, nonempty⟩, cause⟩
        have isLast := List.dropLast_append_getLast nonempty
        rw [List.getLast?_eq_some_getLast nonempty] at boundary cause
        split at boundary
        · rcases isBoundary_cons boundary inside with
            ⟨later, isLater, isPosition⟩
          have sameChars : before ++ current ++ ch :: rest =
              before ++ current.dropLast ++
                (some (current.getLast nonempty)).toList ++ [ch] ++ rest := by
            nth_rewrite 1 [← isLast]
            simp
          by_cases atOnce : later = 0
          · rw [sameChars] at ends
            rw [isPosition, atOnce, Nat.add_zero, ← List.length_append] at ends
            simp only [Option.toList_some, List.append_assoc,
              List.singleton_append] at ends
            rw [← List.append_assoc] at ends
            have isLower := next_of_acronymEnds ends
            rw [unicode.disjoint ch isUpper] at isLower
            cases isLower
          · have notThere := inductionHypothesis
              (before ++ current.dropLast) isLater atOnce
            apply notThere
            rw [List.length_append, Nat.add_assoc, ← isPosition]
            rw [sameChars] at ends
            simpa using ends
        · rename_i notRun
          have prevLower : unicode.isLowercase (current.getLast nonempty) =
              true := by
            rcases cause with isLower | isRun
            · simpa using isLower
            · simp [isRun] at notRun
          rcases isBoundary_cons boundary inside with
            ⟨later, isLater, isPosition⟩
          by_cases atOnce : later = 0
          · have sameChars : before ++ current ++ ch :: rest =
                before ++ current.dropLast ++
                  current.getLast nonempty :: ch :: rest := by
              nth_rewrite 1 [← isLast]
              simp
            have sameLength : before.length + position =
                (before ++ current.dropLast).length + 1 := by
              have positive := List.length_pos_of_ne_nil nonempty
              rw [isPosition, atOnce, List.length_append,
                List.length_dropLast]
              omega
            rw [sameChars, sameLength] at ends
            have prevUpper := previous_of_acronymEnds ends
            rw [unicode.disjoint _ prevUpper] at prevLower
            cases prevLower
          · have notThere := inductionHypothesis (before ++ current)
              isLater atOnce
            apply notThere
            rw [List.length_append, Nat.add_assoc, ← isPosition]
            simpa using ends
      · have notThere := inductionHypothesis before boundary inside
        apply notThere
        simpa using ends

/-- The parts are the text, and every capitalised word that follows an acronym
begins a part, exactly if there is no such word. -/
theorem splitsAcronyms_iff (unicode : UnicodeText) (text : String) :
    (String.join (splitCamelCaseOriginal unicode text) = text ∧
        ∀ position, AcronymEnds unicode text.toList position →
          IsBoundary ((splitCamelCaseOriginal unicode text).map String.toList)
            position) ↔
      ∀ position, ¬ AcronymEnds unicode text.toList position := by
  have asLists : (splitCamelCaseOriginal unicode text).map String.toList =
      splitCamelCaseFrom unicode [] text.toList := by
    unfold splitCamelCaseOriginal
    rw [List.map_map]
    apply List.map_id''
    intro part
    exact String.toList_ofList
  have isWhole : String.join (splitCamelCaseOriginal unicode text) = text := by
    apply String.toList_injective
    rw [String.toList_join, List.flatMap_def, asLists, flatten_splitCamelCaseFrom,
      List.nil_append]
  rw [asLists]
  constructor
  · rintro ⟨_, splits⟩ position ends
    have boundary := splits position ends
    have inside : position ≠ 0 := by
      rcases ends with ⟨before, _, _, _, _, _, isPosition, _⟩
      omega
    have notThere := not_acronymEnds_of_isBoundary [] boundary inside
    rw [List.nil_append, List.nil_append, List.length_nil, Nat.zero_add]
      at notThere
    exact notThere ends
  · intro none
    exact ⟨isWhole, fun position ends => absurd ends (none position)⟩

end Boundaries

theorem notLower_of_isUpper (c : Char) (isUpper : c.isUpper = true) :
    c.isLower = false := by
  simp only [Char.isUpper, Char.isLower] at isUpper ⊢
  grind

/-- Unicode as far as ASCII goes, with the words of letters, digits and full
stops. -/
def asciiText : UnicodeText where
  nfkc := id
  toLowercase text := String.ofList (text.toList.map Char.toLower)
  unicodeWords text := ((text.toList.splitOnP fun c =>
    !(c.isAlphanum || c == '.')).filter fun word =>
      !word.isEmpty).map String.ofList
  isLowercase := Char.isLower
  isUppercase := Char.isUpper
  disjoint := notLower_of_isUpper

theorem htmlParser_splitsEarly :
    splitCamelCaseOriginal asciiText "HTMLParser" = ["HTM", "LParser"] ∧
      ¬ (String.join (splitCamelCaseOriginal asciiText "HTMLParser") =
          "HTMLParser" ∧
        ∀ position, AcronymEnds asciiText "HTMLParser".toList position →
          IsBoundary ((splitCamelCaseOriginal asciiText "HTMLParser").map
            String.toList) position) := by
  have isSplit : splitCamelCaseOriginal asciiText "HTMLParser" =
      ["HTM", "LParser"] := by
    decide +kernel
  refine ⟨isSplit, ?_⟩
  rintro ⟨_, splits⟩
  have ends : AcronymEnds asciiText "HTMLParser".toList 4 :=
    ⟨"HTM".toList, 'L', 'P', 'a', "rser".toList, by decide +kernel⟩
  rcases splits 4 ends with ⟨front, back, isParts, isPosition⟩
  rw [isSplit] at isParts
  simp only [List.map_cons, List.map_nil] at isParts
  rcases front with _ | ⟨first, _ | ⟨second, more⟩⟩
  · cases isPosition
  · simp only [List.cons_append, List.cons.injEq] at isParts
    rw [← isParts.1] at isPosition
    revert isPosition
    decide +kernel
  · simp only [List.cons_append, List.cons.injEq] at isParts
    rw [← isParts.1, ← isParts.2.1] at isPosition
    simp at isPosition

end SearchTokenizer

end OpenClipboard.Search
