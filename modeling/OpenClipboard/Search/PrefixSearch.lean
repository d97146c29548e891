import OpenClipboard.Search.Tokenizer

/-!
# Which prefixes of a token are found

A query is found if all of its tags are tags of the text.  The tags of a text
without CJK runs are its pieces and their prefixes, but those of the query are
only its pieces: a piece that the query cuts short, or that the text does not
cut out, is not among them.
-/

namespace OpenClipboard.Search.SearchTokenizer

/-! ## Bigrams -/

theorem mem_windows {run : List Char} {bigram : String}
    (member : bigram ∈ windows run) :
    ∃ first ∈ run, ∃ second ∈ run, bigram = String.ofList [first, second] := by
  induction run with
  | nil => cases member
  | cons first rest inductionHypothesis =>
      cases rest with
      | nil => cases member
      | cons second others =>
          rw [windows] at member
          rcases List.mem_cons.mp member with isFirst | isLater
          · exact ⟨first, List.mem_cons_self, second,
              List.mem_cons_of_mem first List.mem_cons_self, isFirst⟩
          · rcases inductionHypothesis isLater with
              ⟨left, inLeft, right, inRight, isBigram⟩
            exact ⟨left, List.mem_cons_of_mem first inLeft, right,
              List.mem_cons_of_mem first inRight, isBigram⟩

theorem mem_bigramsFrom {run chars : List Char} {bigram : String}
    (isRun : ∀ c ∈ run, isCjk c = true)
    (member : bigram ∈ bigramsFrom run chars) :
    ∃ first second, isCjk first = true ∧ isCjk second = true ∧
      bigram = String.ofList [first, second] := by
  have ofWindows : ∀ {some : List Char}, (∀ c ∈ some, isCjk c = true) →
      bigram ∈ windows some → ∃ first second, isCjk first = true ∧
        isCjk second = true ∧ bigram = String.ofList [first, second] := by
    intro some allCjk inWindows
    rcases mem_windows inWindows with
      ⟨first, inFirst, second, inSecond, isBigram⟩
    exact ⟨first, second, allCjk first inFirst, allCjk second inSecond,
      isBigram⟩
  induction chars generalizing run with
  | nil => exact ofWindows isRun member
  | cons c rest inductionHypothesis =>
      rw [bigramsFrom] at member
      split at member
      · rename_i cjk
        apply inductionHypothesis _ member
        intro other inRun
        rcases List.mem_append.mp inRun with inOld | isNew
        · exact isRun other inOld
        · rw [List.mem_singleton.mp isNew]
          exact cjk
      · rcases List.mem_append.mp member with inWindows | inLater
        · exact ofWindows isRun inWindows
        · exact inductionHypothesis (by simp) inLater

theorem cjkBigrams_of_mem {text bigram : String}
    (member : bigram ∈ cjkBigrams text) : cjkBigrams bigram ≠ [] := by
  rcases mem_bigramsFrom (by simp) member with
    ⟨first, second, isFirst, isSecond, isBigram⟩
  rw [isBigram]
  unfold cjkBigrams
  rw [String.toList_ofList]
  simp [bigramsFrom, isFirst, isSecond, windows]

/-! ## Collecting tokens -/

variable {tokens : List String}

namespace Collected

/-- Of the tokens without bigrams the result has all that were met. -/
def Tracks (state : Collected) : Prop :=
  ∀ token, cjkBigrams token = [] →
    (token ∈ state.seen ↔ token ∈ state.result)

variable {state : Collected} {token tested : String}

theorem Tracks.push (tracks : state.Tracks) : (state.push token).Tracks := by
  intro other plain
  unfold Collected.push
  split
  · exact tracks other plain
  · dsimp only
    rw [List.mem_cons, List.mem_append, List.mem_singleton,
      tracks other plain, or_comm]

theorem mem_push (tracks : state.Tracks) (plain : cjkBigrams tested = []) :
    tested ∈ (state.push token).result ↔
      tested ∈ state.result ∨ tested = token := by
  unfold Collected.push
  split
  · rename_i isSeen
    constructor
    · exact Or.inl
    · rintro (isOld | isToken)
      · exact isOld
      · rw [isToken] at plain ⊢
        exact (tracks token plain).mp isSeen
  · rw [List.mem_append, List.mem_singleton]

theorem Tracks.pushAll (tracks : state.Tracks) :
    (tokens.foldl Collected.push state).Tracks := by
  induction tokens generalizing state with
  | nil => exact tracks
  | cons token rest inductionHypothesis =>
      exact inductionHypothesis tracks.push

theorem mem_pushAll (tracks : state.Tracks) (plain : cjkBigrams tested = []) :
    tested ∈ (tokens.foldl Collected.push state).result ↔
      tested ∈ state.result ∨ tested ∈ tokens := by
  induction tokens generalizing state with
  | nil => simp
  | cons token rest inductionHypothesis =>
      rw [List.foldl_cons, inductionHypothesis tracks.push,
        mem_push tracks plain, List.mem_cons, or_assoc]

theorem mem_pushBigrams {text : String} (tracks : state.Tracks)
    (plain : cjkBigrams tested = []) :
    tested ∈ ((cjkBigrams text).foldl Collected.push state).result ↔
      tested ∈ state.result := by
  rw [mem_pushAll tracks plain]
  apply or_iff_left
  intro member
  exact cjkBigrams_of_mem member plain

theorem Tracks.seen (tracks : state.Tracks) (cjk : cjkBigrams token ≠ []) :
    (Collected.mk state.result (token :: state.seen)).Tracks := by
  intro other plain
  dsimp only
  rw [List.mem_cons, tracks other plain]
  apply or_iff_right
  intro isToken
  rw [isToken] at plain
  exact cjk plain

theorem addToken_of_new (isNew : token ∉ state.seen)
    (cjk : cjkBigrams token ≠ []) :
    state.addToken token = (cjkBigrams token).foldl Collected.push
      ⟨state.result, token :: state.seen⟩ := by
  unfold Collected.addToken
  rw [if_neg isNew]
  split
  · rename_i none
    exact absurd none cjk
  · rfl

theorem addToken_of_plain (plain : cjkBigrams token = []) :
    state.addToken token = state.push token := by
  unfold Collected.addToken Collected.push
  rw [plain]

theorem Tracks.addToken (tracks : state.Tracks) :
    (state.addToken token).Tracks := by
  by_cases plain : cjkBigrams token = []
  · rw [addToken_of_plain plain]
    exact tracks.push
  · by_cases isSeen : token ∈ state.seen
    · unfold Collected.addToken
      rw [if_pos isSeen]
      exact tracks
    · rw [addToken_of_new isSeen plain]
      exact (tracks.seen plain).pushAll

theorem mem_addToken (tracks : state.Tracks) (plain : cjkBigrams tested = []) :
    tested ∈ (state.addToken token).result ↔
      tested ∈ state.result ∨ tested = token := by
  by_cases tokenPlain : cjkBigrams token = []
  · rw [addToken_of_plain tokenPlain]
    exact mem_push tracks plain
  · have differs : tested ≠ token := by
      intro isToken
      rw [isToken] at plain
      exact tokenPlain plain
    rw [or_iff_left differs]
    by_cases isSeen : token ∈ state.seen
    · unfold Collected.addToken
      rw [if_pos isSeen]
    · rw [addToken_of_new isSeen tokenPlain]
      exact mem_pushBigrams (tracks.seen tokenPlain) plain

theorem Tracks.addTokens (tracks : state.Tracks) :
    (tokens.foldl Collected.addToken state).Tracks := by
  induction tokens generalizing state with
  | nil => exact tracks
  | cons token rest inductionHypothesis =>
      exact inductionHypothesis tracks.addToken

theorem mem_addTokens (tracks : state.Tracks) (plain : cjkBigrams tested = []) :
    tested ∈ (tokens.foldl Collected.addToken state).result ↔
      tested ∈ state.result ∨ tested ∈ tokens := by
  induction tokens generalizing state with
  | nil => simp
  | cons token rest inductionHypothesis =>
      rw [List.foldl_cons, inductionHypothesis tracks.addToken,
        mem_addToken tracks plain, List.mem_cons, or_assoc]

theorem Tracks.addPrefixes (tracks : state.Tracks) :
    (state.addPrefixes token).Tracks := by
  unfold Collected.addPrefixes
  split
  · exact tracks.pushAll
  · exact tracks

theorem mem_addPrefixesAll (tracks : state.Tracks)
    (plain : cjkBigrams tested = []) :
    tested ∈ (tokens.foldl Collected.addPrefixes state).result ↔
      tested ∈ state.result ∨ ∃ token ∈ tokens, cjkBigrams token = [] ∧
        tested ∈ prefixTokens token := by
  induction tokens generalizing state with
  | nil => simp
  | cons token rest inductionHypothesis =>
      have here : tested ∈ (state.addPrefixes token).result ↔
          tested ∈ state.result ∨ (cjkBigrams token = [] ∧
            tested ∈ prefixTokens token) := by
        unfold Collected.addPrefixes
        by_cases tokenPlain : cjkBigrams token = []
        · rw [if_pos (List.isEmpty_iff.mpr tokenPlain),
            mem_pushAll tracks plain]
          simp [tokenPlain]
        · rw [if_neg (mt List.isEmpty_iff.mp tokenPlain)]
          simp [tokenPlain]
      rw [List.foldl_cons, inductionHypothesis tracks.addPrefixes, here,
        or_assoc]
      simp

end Collected

/-! ## The tags -/

theorem mem_prefixTokens {token tested : String} :
    tested ∈ prefixTokens token ↔
      token.length ≤ prefixMaxLen ∧ prefixMinLen ≤ tested.length ∧
        tested.toList <+: token.toList ∧ tested ≠ token := by
  unfold prefixTokens
  split
  · rename_i excluded
    constructor
    · intro impossible
      cases impossible
    · rintro ⟨short, long, begins, differs⟩
      exfalso
      apply differs
      have notLonger := begins.length_le
      rw [String.length_toList, String.length_toList] at notLonger
      have sameLength : tested.toList.length = token.toList.length := by
        rw [String.length_toList, String.length_toList]
        omega
      exact String.toList_injective (begins.eq_of_length sameLength)
  · rename_i expanded
    rw [not_or, Nat.not_le, Nat.not_lt] at expanded
    rw [List.mem_map]
    constructor
    · rintro ⟨size, inSizes, isTested⟩
      rw [List.mem_range'_1] at inSizes
      have sizeShort : size < token.toList.length := by
        rw [String.length_toList]
        omega
      have isTaken : tested.toList = token.toList.take size := by
        rw [← isTested, String.toList_ofList]
      have isSize : tested.length = size := by
        rw [← String.length_toList, isTaken, List.length_take]
        omega
      refine ⟨expanded.2, by omega, ?_, ?_⟩
      · rw [isTaken]
        exact List.take_prefix size token.toList
      · intro same
        rw [same, ← String.length_toList] at isSize
        omega
    · rintro ⟨short, long, begins, differs⟩
      refine ⟨tested.length, ?_, ?_⟩
      · rw [List.mem_range'_1]
        have notLonger := begins.length_le
        rw [String.length_toList, String.length_toList] at notLonger
        have notSame : tested.length ≠ token.length := by
          intro sameLength
          apply differs
          apply String.toList_injective
          apply begins.eq_of_length
          rw [String.length_toList, String.length_toList, sameLength]
        omega
      · apply String.toList_injective
        rw [String.toList_ofList, ← String.length_toList]
        exact (List.prefix_iff_eq_take.mp begins).symm

variable {unicode : UnicodeText}

/-- A piece of the text, or at least three characters from the beginning of one
that has at most 32. -/
def HasPiece (unicode : UnicodeText) (raw tag : String) : Prop :=
  ∃ piece ∈ keptTokens unicode raw, cjkBigrams piece = [] ∧
    (tag = piece ∨ piece.length ≤ prefixMaxLen ∧ prefixMinLen ≤ tag.length ∧
      tag.toList <+: piece.toList)

theorem tracks_baseTokens (raw : String) : (baseTokens unicode raw).Tracks := by
  have start : (Collected.mk [] []).Tracks := fun _ _ => Iff.rfl
  exact start.addTokens.pushAll

theorem mem_baseTokens {raw tested : String}
    (plain : cjkBigrams tested = []) :
    tested ∈ (baseTokens unicode raw).result ↔
      tested ∈ keptTokens unicode raw := by
  have start : (Collected.mk [] []).Tracks := fun _ _ => Iff.rfl
  unfold baseTokens
  rw [Collected.mem_pushBigrams start.addTokens plain,
    Collected.mem_addTokens start plain]
  simp

theorem mem_tokenizeSegmentNoPrefix {raw tested : String}
    (nonempty : raw ≠ "") (plain : cjkBigrams tested = []) :
    tested ∈ tokenizeSegmentNoPrefix unicode raw ↔
      tested ∈ keptTokens unicode raw := by
  unfold tokenizeSegmentNoPrefix tokenizeSegmentInner
  rw [if_neg (by simpa using nonempty), if_neg Bool.false_ne_true]
  exact mem_baseTokens plain

theorem mem_tokenizeSegment {raw tested : String} (nonempty : raw ≠ "")
    (plain : cjkBigrams tested = []) :
    tested ∈ tokenizeSegment unicode raw ↔ HasPiece unicode raw tested := by
  unfold tokenizeSegment tokenizeSegmentInner
  rw [if_neg (by simpa using nonempty), if_pos rfl,
    Collected.mem_addPrefixesAll (tracks_baseTokens raw) plain,
    mem_baseTokens plain]
  constructor
  · rintro (isPiece | ⟨piece, isToken, piecePlain, isPrefix⟩)
    · exact ⟨tested, isPiece, plain, Or.inl rfl⟩
    · rcases mem_prefixTokens.mp isPrefix with ⟨short, long, begins, _⟩
      exact ⟨piece, (mem_baseTokens piecePlain).mp isToken, piecePlain,
        Or.inr ⟨short, long, begins⟩⟩
  · rintro ⟨piece, isPiece, piecePlain, same | ⟨short, long, begins⟩⟩
    · rw [same]
      exact Or.inl isPiece
    · by_cases same : tested = piece
      · rw [same]
        exact Or.inl isPiece
      · exact Or.inr ⟨piece, (mem_baseTokens piecePlain).mpr isPiece,
          piecePlain, mem_prefixTokens.mpr ⟨short, long, begins, same⟩⟩

theorem HasPiece.begins {raw token start : String}
    (isPiece : HasPiece unicode raw token)
    (short : token.length ≤ prefixMaxLen) (long : prefixMinLen ≤ start.length)
    (begins : start.toList <+: token.toList) : HasPiece unicode raw start := by
  rcases isPiece with
    ⟨piece, isKept, plain, same | ⟨pieceShort, _, tokenBegins⟩⟩
  · rw [same] at short begins
    exact ⟨piece, isKept, plain, Or.inr ⟨short, long, begins⟩⟩
  · exact ⟨piece, isKept, plain, Or.inr
      ⟨pieceShort, long, begins.trans tokenBegins⟩⟩

/-- A file name in a sentence: its extension is no part of the text. -/
def sentence : String := "open main.rs now"

end OpenClipboard.Search.SearchTokenizer
