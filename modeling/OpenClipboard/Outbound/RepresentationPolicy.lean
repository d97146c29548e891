import OpenClipboard.Core.ImageFile
import OpenClipboard.Outbound.SnapshotFromEntry
import Mathlib.Data.List.Sort
import Mathlib.Data.Prod.Lex
import Mathlib.Data.String.Basic

/-!
# Which representation stands for a capture

Of the usable representations of a snapshot one is shown as its preview and
one is pasted by default: the first by score, size, format and id.
-/

namespace OpenClipboard

open Text

inductive RepKind where
  | fileList
  | image
  | richText
  | plainText
  | uri
  | unknown
  deriving DecidableEq, Repr

inductive SelectionTarget where
  | uiPreview
  | defaultPaste
  deriving DecidableEq, Repr

inductive PolicyError where
  | noUsableRepresentation
  deriving DecidableEq, Repr

namespace SelectRepresentationPolicyV1

def inlinePreviewMaxBytes : Int := 256 * 1024

def isUsable (rep : ObservedClipboardRepresentation) : Bool :=
  if rep.sizeBytes ≤ 0 then false else true

def classify (rep : ObservedClipboardRepresentation) : RepKind :=
  match rep.mime with
  | none => .unknown
  | some mime =>
      if eqIgnoreAsciiCase mime.asStr "text/uri-list" ||
          startsWith mime.asStr "text/uri-list" then
        .fileList
      else if startsWith mime.asStr "image/" then
        .image
      else if eqIgnoreAsciiCase mime.asStr "text/html" ||
          eqIgnoreAsciiCase mime.asStr "text/rtf" then
        .richText
      else if eqIgnoreAsciiCase mime.asStr "text/plain" ||
          startsWith mime.asStr "text/" then
        .plainText
      else if contains mime.asStr "uri" || contains mime.asStr "url" then
        .uri
      else if eqIgnoreAsciiCase rep.formatId.asStr "files" ||
          contains rep.formatId.asStr "uri-list" then
        .fileList
      else
        .unknown

/-- The pixels that a capture read from a copied image file. -/
def isImageFromFile (rep : ObservedClipboardRepresentation) : Bool :=
  eqIgnoreAsciiCase rep.formatId.asStr "image-from-file"

def score (rep : ObservedClipboardRepresentation) (kind : RepKind)
    (target : SelectionTarget) : Nat :=
  match target, kind with
  | .uiPreview, .image =>
      if isImageFromFile rep ∧ rep.sizeBytes ≤ inlinePreviewMaxBytes then 100
      else 80
  | .uiPreview, .fileList => 95
  | .uiPreview, .plainText => 90
  | .uiPreview, .richText => 70
  | .uiPreview, .uri => 60
  | .uiPreview, .unknown => 10
  | .defaultPaste, .image => if isImageFromFile rep then 30 else 70
  | .defaultPaste, .fileList => 100
  | .defaultPaste, .richText => 90
  | .defaultPaste, .plainText => 80
  | .defaultPaste, .uri => 60
  | .defaultPaste, .unknown => 10

section Select

variable (urlParse : UrlParse)

def fileListRepresentsSinglePreviewableImage
    (rep : ObservedClipboardRepresentation) : Bool :=
  if classify rep ≠ .fileList then
    false
  else
    match rep.inlineBytes.bind fromUtf8 with
    | none => false
    | some text =>
        let paths := (((lines text).map trim).filter (· ≠ "")).filterMap
          fun line => (urlParse line).bind Url.toFilePath
        match paths with
        | [path] =>
            (path.extension.bind fromUtf8).any fun extension =>
              ["png", "jpg", "jpeg", "gif", "webp", "bmp", "tif",
                "tiff"].contains (toAsciiLowercase extension)
        | _ => false

variable (snapshot : SystemClipboardSnapshot) (target : SelectionTarget)

/-- The score that the sort goes by. -/
def rank (rep : ObservedClipboardRepresentation) : Nat :=
  if target = .uiPreview ∧ classify rep = .image ∧
      snapshot.representations.any
        (fileListRepresentsSinglePreviewableImage urlParse) then
    100
  else
    score rep (classify rep) target

/-- The score downwards, then the size, the format and the id upwards. -/
def sortKey (rep : ObservedClipboardRepresentation) :
    ℕᵒᵈ ×ₗ ℤ ×ₗ String ×ₗ String :=
  toLex (OrderDual.toDual (rank urlParse snapshot target rep),
    toLex (rep.sizeBytes, toLex (rep.formatId.asStr, rep.id)))

def usable : List ObservedClipboardRepresentation :=
  snapshot.representations.filter isUsable

/-- The usable representations, the best first. -/
def ranked : List ObservedClipboardRepresentation :=
  (usable snapshot).insertionSort fun left right =>
    sortKey urlParse snapshot target left ≤
      sortKey urlParse snapshot target right

def selectOne : Option ObservedClipboardRepresentation :=
  (ranked urlParse snapshot target).head?

def select : Except PolicyError ClipboardSelection :=
  match selectOne urlParse snapshot .uiPreview,
      selectOne urlParse snapshot .defaultPaste with
  | some preview, some paste => .ok {
      primaryRepId := paste.id
      secondaryRepIds := ((usable snapshot).filter
        (·.id ≠ paste.id)).map ObservedClipboardRepresentation.id
      previewRepId := preview.id
      pasteRepId := paste.id }
  | _, _ => .error .noUsableRepresentation

end Select

/-! ## What the sort puts first -/

section Ranked

variable {urlParse : UrlParse} {snapshot other : SystemClipboardSnapshot}
  {target : SelectionTarget} {rep : ObservedClipboardRepresentation}
  {selection : ClipboardSelection}

theorem ranked_perm :
    (ranked urlParse snapshot target).Perm (usable snapshot) :=
  List.perm_insertionSort _ _

theorem ranked_sorted : (ranked urlParse snapshot target).Pairwise
    fun left right => sortKey urlParse snapshot target left ≤
      sortKey urlParse snapshot target right :=
  haveI : Std.Total fun left right : ObservedClipboardRepresentation =>
      sortKey urlParse snapshot target left ≤
        sortKey urlParse snapshot target right :=
    ⟨fun _ _ => le_total _ _⟩
  haveI : IsTrans ObservedClipboardRepresentation fun left right =>
      sortKey urlParse snapshot target left ≤
        sortKey urlParse snapshot target right :=
    ⟨fun _ _ _ => le_trans⟩
  List.pairwise_insertionSort _ _

/-- What is chosen is usable, and nothing usable ranks above it. -/
theorem selectOne_spec
    (chosen : selectOne urlParse snapshot target = some rep) :
    rep ∈ usable snapshot ∧
      ∀ rival ∈ usable snapshot, rank urlParse snapshot target rival ≤
        rank urlParse snapshot target rep := by
  obtain ⟨rest, isRanked⟩ := List.head?_eq_some_iff.mp chosen
  have sorted : (ranked urlParse snapshot target).Pairwise _ := ranked_sorted
  have listed : ∀ {one}, one ∈ usable snapshot ↔ one ∈ rep :: rest := by
    intro one
    rw [← isRanked]
    exact ranked_perm.mem_iff.symm
  rw [isRanked, List.pairwise_cons] at sorted
  refine ⟨listed.mpr (List.mem_cons_self ..), ?_⟩
  intro rival isUsable
  rcases List.mem_cons.mp (listed.mp isUsable) with isRep | isLater
  · rw [isRep]
  · exact OrderDual.toDual_le_toDual.mp
      (Prod.Lex.monotone_fst _ _ (sorted.1 rival isLater))

theorem selectOne_eq_none_iff :
    selectOne urlParse snapshot target = none ↔ usable snapshot = [] := by
  rw [selectOne, List.head?_eq_none_iff]
  constructor
  · intro isEmpty
    exact List.perm_nil.mp (isEmpty ▸ ranked_perm.symm)
  · intro isEmpty
    exact List.perm_nil.mp (isEmpty ▸ ranked_perm)

theorem select_eq_ok (selected : select urlParse snapshot = .ok selection) :
    ∃ preview paste,
      selectOne urlParse snapshot .uiPreview = some preview ∧
        selectOne urlParse snapshot .defaultPaste = some paste ∧
          selection = {
            primaryRepId := paste.id
            secondaryRepIds := ((usable snapshot).filter
              (·.id ≠ paste.id)).map ObservedClipboardRepresentation.id
            previewRepId := preview.id
            pasteRepId := paste.id } := by
  unfold select at selected
  split at selected
  · rename_i preview paste isPreview isPaste
    cases selected
    exact ⟨preview, paste, isPreview, isPaste, rfl⟩
  · cases selected

theorem select_refuses_iff :
    select urlParse snapshot = .error .noUsableRepresentation ↔
      usable snapshot = [] := by
  constructor
  · intro refused
    by_contra isSome
    have chosen : ∀ target, ∃ rep,
        selectOne urlParse snapshot target = some rep := fun target =>
      Option.ne_none_iff_exists'.mp (mt selectOne_eq_none_iff.mp isSome)
    obtain ⟨preview, isPreview⟩ := chosen .uiPreview
    obtain ⟨paste, isPaste⟩ := chosen .defaultPaste
    rw [select, isPreview, isPaste] at refused
    cases refused
  · intro isEmpty
    rw [select, selectOne_eq_none_iff.mpr isEmpty]

end Ranked

namespace PolicySample

/-- The pixels of a copied image file. -/
def pixels : ObservedClipboardRepresentation :=
  .new "1" "image-from-file" (some "image/png") [0x89]

/-- Bytes in a format of an application's own. -/
def custom : ObservedClipboardRepresentation :=
  .new "2" "app.private" (some "application/x-app") [1, 2]

def snapshot : SystemClipboardSnapshot := ⟨0, [pixels, custom], [], none⟩

def urlParse : UrlParse := fun _ => none

theorem select_snapshot :
    select urlParse snapshot = .ok ⟨"1", "1", "1", ["2"]⟩ := by
  decide +kernel

end PolicySample

/-! ## The laws of the selection -/

section Laws

variable {urlParse : UrlParse} {snapshot other : SystemClipboardSnapshot}
  {target : SelectionTarget} {rep : ObservedClipboardRepresentation}
  {selection : ClipboardSelection}

/-- The same answer, in whatever order the other representations are named. -/
def SameChoice : Except PolicyError ClipboardSelection →
    Except PolicyError ClipboardSelection → Prop
  | .ok left, .ok right =>
      left.secondaryRepIds.Perm right.secondaryRepIds ∧
        left = { right with secondaryRepIds := left.secondaryRepIds }
  | .error left, .error right => left = right
  | _, _ => False

theorem sortKey_of_perm
    (same : snapshot.representations.Perm other.representations) :
    sortKey urlParse snapshot target = sortKey urlParse other target := by
  funext rep
  unfold sortKey rank
  rw [same.any_eq]

theorem selectOne_of_perm
    (same : snapshot.representations.Perm other.representations)
    (distinct : (snapshot.representations.map
      ObservedClipboardRepresentation.id).Nodup) :
    selectOne urlParse snapshot target = selectOne urlParse other target := by
  have sameKey : sortKey urlParse snapshot target = _ := sortKey_of_perm same
  have sameUsable : (usable snapshot).Perm (usable other) := same.filter _
  have sameRanked : ranked urlParse snapshot target =
      ranked urlParse other target := by
    apply List.Perm.eq_of_pairwise _ ranked_sorted
      (sameKey ▸ ranked_sorted)
      ((ranked_perm.trans sameUsable).trans ranked_perm.symm)
    intro left right isLeft isRight below above
    have sameId : left.id = right.id :=
      congrArg (fun key => (ofLex (ofLex (ofLex key).2).2).2)
        (le_antisymm below above)
    have inLeft := List.mem_of_mem_filter (ranked_perm.mem_iff.mp isLeft)
    have inRight := same.mem_iff.mpr
      (List.mem_of_mem_filter (ranked_perm.mem_iff.mp isRight))
    exact List.inj_on_of_nodup_map distinct inLeft inRight sameId
  rw [selectOne, selectOne, sameRanked]

/-- The order in which the representations come decides nothing. -/
theorem select_ignoresOrder
    (same : snapshot.representations.Perm other.representations)
    (distinct : (snapshot.representations.map
      ObservedClipboardRepresentation.id).Nodup) :
    SameChoice (select urlParse snapshot) (select urlParse other) := by
  unfold select
  rw [← selectOne_of_perm same distinct, ← selectOne_of_perm same distinct]
  split
  · exact ⟨((same.filter _).filter _).map _, rfl⟩
  · rfl

theorem select_ignoresOrder_sample :
    SameChoice (select PolicySample.urlParse PolicySample.snapshot)
      (select PolicySample.urlParse
        ⟨0, [PolicySample.custom, PolicySample.pixels], [], none⟩) :=
  select_ignoresOrder (List.Perm.swap _ _ _) (by decide)

theorem nodup_eraseDups (names : List String) : names.eraseDups.Nodup := by
  induction length : names.length using Nat.strong_induction_on
    generalizing names with
  | _ size inductionHypothesis =>
      cases names with
      | nil => exact List.nodup_nil
      | cons name rest =>
          rw [List.eraseDups_cons, List.nodup_cons, List.mem_eraseDups]
          refine ⟨by simp, inductionHypothesis _ ?_ _ rfl⟩
          have shorter := List.length_filter_le (fun other => !other == name)
            rest
          rw [List.length_cons] at length
          omega

theorem mem_candidateIds (selected : select urlParse snapshot = .ok selection)
    {name : String} : name ∈ candidateIds selection ↔
      name ∈ (usable snapshot).map ObservedClipboardRepresentation.id := by
  obtain ⟨preview, paste, isPreview, isPaste, rfl⟩ := select_eq_ok selected
  have pasted := (selectOne_spec isPaste).1
  have previewed := (selectOne_spec isPreview).1
  simp only [candidateIds, List.mem_eraseDups, List.mem_cons, List.mem_map,
    List.mem_filter, decide_eq_true_eq]
  constructor
  · rintro (rfl | rfl | rfl | ⟨other, ⟨isOther, _⟩, rfl⟩)
    · exact ⟨paste, pasted, rfl⟩
    · exact ⟨paste, pasted, rfl⟩
    · exact ⟨preview, previewed, rfl⟩
    · exact ⟨other, isOther, rfl⟩
  · rintro ⟨other, isOther, rfl⟩
    by_cases same : other.id = paste.id
    · exact Or.inl same
    · exact Or.inr (Or.inr (Or.inr ⟨other, ⟨isOther, same⟩, rfl⟩))

/-- What is sent of a capture by its selection is every usable representation,
each once and the pasted one first; there is no selection only where nothing
is usable. -/
theorem select_offersUsable
    (distinct : (snapshot.representations.map
      ObservedClipboardRepresentation.id).Nodup) :
    (∀ selection, select urlParse snapshot = .ok selection →
      (candidateIds selection).Perm
          ((usable snapshot).map ObservedClipboardRepresentation.id) ∧
        (candidateIds selection).head? = some selection.pasteRepId) ∧
      (select urlParse snapshot = .error .noUsableRepresentation ↔
        usable snapshot = []) := by
  refine ⟨?_, select_refuses_iff⟩
  intro selection selected
  have once : ((usable snapshot).map
      ObservedClipboardRepresentation.id).Nodup :=
    distinct.sublist (List.filter_sublist.map _)
  refine ⟨(List.perm_ext_iff_of_nodup (nodup_eraseDups _) once).mpr
    fun _ => mem_candidateIds selected, ?_⟩
  obtain ⟨_, _, _, _, rfl⟩ := select_eq_ok selected
  rw [candidateIds, List.eraseDups_cons]
  rfl

theorem select_offersUsable_sample :
    (candidateIds ⟨"1", "1", "1", ["2"]⟩).Perm
      ((usable PolicySample.snapshot).map ObservedClipboardRepresentation.id) :=
  ((select_offersUsable (by decide)).1 _ PolicySample.select_snapshot).1

/-- The pixels of an image file are pasted only where all that is usable
beside them is of no known kind, or such pixels too. -/
theorem select_pastesPixelsLast
    (distinct : (snapshot.representations.map
      ObservedClipboardRepresentation.id).Nodup)
    (selected : select urlParse snapshot = .ok selection)
    (isRep : rep ∈ snapshot.representations)
    (pasted : selection.pasteRepId = rep.id)
    (isImage : classify rep = .image) (fromFile : isImageFromFile rep = true) :
    ∀ rival ∈ usable snapshot, classify rival = .unknown ∨
      classify rival = .image ∧ isImageFromFile rival = true := by
  obtain ⟨preview, paste, _, isPaste, rfl⟩ := select_eq_ok selected
  obtain ⟨isUsable, best⟩ := selectOne_spec isPaste
  have same : paste = rep :=
    List.inj_on_of_nodup_map distinct (List.mem_of_mem_filter isUsable) isRep
      pasted
  intro rival isRival
  have below := best rival isRival
  rw [same] at below
  simp only [rank, reduceCtorEq, false_and, if_false, isImage, score,
    fromFile, if_true] at below
  cases kind : classify rival with
  | unknown => exact Or.inl rfl
  | image =>
      apply Or.inr
      by_cases isPixels : isImageFromFile rival = true
      · exact ⟨rfl, isPixels⟩
      · simp [kind, isPixels] at below
  | _ => simp [kind] at below

theorem select_pastesPixelsLast_sample :
    classify PolicySample.custom = .unknown ∨
      classify PolicySample.custom = .image ∧
        isImageFromFile PolicySample.custom = true :=
  select_pastesPixelsLast (by decide) PolicySample.select_snapshot
    (List.mem_cons_self ..) rfl (by decide +kernel) (by decide +kernel)
    PolicySample.custom (by decide +kernel)

end Laws

end SelectRepresentationPolicyV1

end OpenClipboard
