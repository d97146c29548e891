import OpenClipboard.Core.Snapshot

/-!
# Content categories of a snapshot

Every representation with a non-zero size contributes the first category that
matches in the order file, image, rich text, link, text; a text payload that
is one URL contributes `link` as well.  A gate admits a set when every
category in it is allowed, so the empty set is always admitted.
-/

namespace OpenClipboard

inductive ClipboardContentCategory where
  | file
  | image
  | text
  | richText
  | link
  deriving DecidableEq, Repr

/-- Per-device content-type preferences. -/
structure ContentTypes where
  text : Bool
  image : Bool
  link : Bool
  file : Bool
  codeSnippet : Bool
  richText : Bool
  deriving DecidableEq, Repr

namespace ClipboardContentCategory

def allowedBy (contentTypes : ContentTypes) :
    ClipboardContentCategory → Bool
  | .file => contentTypes.file
  | .image => contentTypes.image
  | .text => contentTypes.text
  | .richText => contentTypes.richText
  | .link => contentTypes.link

/-- All categories, in the order the set iterates them. -/
def all : List ClipboardContentCategory :=
  [.file, .image, .text, .richText, .link]

@[simp]
theorem mem_all (category : ClipboardContentCategory) : category ∈ all := by
  cases category <;> decide

/-- The position of the category's flag. -/
def bit : ClipboardContentCategory → Nat
  | .file => 0
  | .image => 1
  | .text => 2
  | .richText => 3
  | .link => 4

end ClipboardContentCategory

structure ClipboardContentCategorySet where
  flags : BitVec 8
  deriving DecidableEq, Repr

namespace ClipboardContentCategorySet

def empty : ClipboardContentCategorySet := ⟨0⟩

/-- The flag of a category. -/
def has (set : ClipboardContentCategorySet)
    (category : ClipboardContentCategory) : Bool :=
  set.flags.getLsbD category.bit

def insert (set : ClipboardContentCategorySet)
    (category : ClipboardContentCategory) : ClipboardContentCategorySet :=
  ⟨set.flags ||| (1 <<< category.bit)⟩

def insertAll (set : ClipboardContentCategorySet)
    (categories : List ClipboardContentCategory) :
    ClipboardContentCategorySet :=
  categories.foldl insert set

def isEmpty (set : ClipboardContentCategorySet) : Bool :=
  set.flags == 0

/-- The categories present, in stable order. -/
def iter (set : ClipboardContentCategorySet) : List ClipboardContentCategory :=
  ClipboardContentCategory.all.filter set.has

/-- And-of-allowed: the empty set passes, otherwise every category present
must be allowed. -/
def allowedBy (set : ClipboardContentCategorySet)
    (contentTypes : ContentTypes) : Bool :=
  if set.isEmpty then
    true
  else
    set.iter.all (ClipboardContentCategory.allowedBy contentTypes)

def ofRepresentation (urlParse : UrlParse)
    (rep : ObservedClipboardRepresentation) : List ClipboardContentCategory :=
  if rep.sizeBytes = 0 then []
  else if rep.isFile then [.file]
  else if rep.isImage then [.image]
  else if rep.isRichText then [.richText]
  else if rep.isLink then [.link]
  else if rep.isPlainText || rep.isAnyText then
    if rep.isLinkContent urlParse then [.text, .link] else [.text]
  else []

def fromSnapshot (urlParse : UrlParse) (snapshot : SystemClipboardSnapshot) :
    ClipboardContentCategorySet :=
  snapshot.representations.foldl
    (fun set rep => set.insertAll (ofRepresentation urlParse rep)) empty

/-! ## Membership -/

@[simp]
theorem has_empty (category : ClipboardContentCategory) :
    empty.has category = false := by
  simp [has, empty]

theorem has_insert
    (set : ClipboardContentCategorySet)
    (inserted tested : ClipboardContentCategory) :
    (set.insert inserted).has tested = true ↔
      tested = inserted ∨ set.has tested = true := by
  cases inserted <;> cases tested <;>
    simp [has, insert, ClipboardContentCategory.bit]

theorem has_insertAll
    (set : ClipboardContentCategorySet)
    (categories : List ClipboardContentCategory)
    (tested : ClipboardContentCategory) :
    (set.insertAll categories).has tested = true ↔
      tested ∈ categories ∨ set.has tested = true := by
  induction categories generalizing set with
  | nil => simp [insertAll]
  | cons head tail inductionHypothesis =>
      have step : set.insertAll (head :: tail) =
          (set.insert head).insertAll tail := rfl
      rw [step, inductionHypothesis, has_insert, List.mem_cons]
      tauto

private theorem has_foldl
    (urlParse : UrlParse) (set : ClipboardContentCategorySet)
    (reps : List ObservedClipboardRepresentation)
    (tested : ClipboardContentCategory) :
    (reps.foldl
        (fun set rep => set.insertAll (ofRepresentation urlParse rep))
        set).has tested = true ↔
      (∃ rep ∈ reps, tested ∈ ofRepresentation urlParse rep) ∨
        set.has tested = true := by
  induction reps generalizing set with
  | nil => simp
  | cons head tail inductionHypothesis =>
      rw [List.foldl_cons, inductionHypothesis, has_insertAll]
      simp only [List.mem_cons, exists_eq_or_imp]
      rw [← or_assoc, or_comm (b := tested ∈ ofRepresentation urlParse head)]

theorem has_fromSnapshot
    (urlParse : UrlParse) (snapshot : SystemClipboardSnapshot)
    (tested : ClipboardContentCategory) :
    (fromSnapshot urlParse snapshot).has tested = true ↔
      ∃ rep ∈ snapshot.representations,
        tested ∈ ofRepresentation urlParse rep := by
  rw [fromSnapshot, has_foldl]
  simp

theorem allowedBy_iff
    (set : ClipboardContentCategorySet) (contentTypes : ContentTypes) :
    set.allowedBy contentTypes = true ↔
      ∀ category, set.has category = true →
        category.allowedBy contentTypes = true := by
  unfold allowedBy
  by_cases noneSet : set.isEmpty = true
  · rw [if_pos noneSet]
    have noFlags : set.flags = 0 := by simpa [isEmpty] using noneSet
    simp [has, noFlags]
  · rw [if_neg noneSet]
    simp only [iter, List.all_eq_true, List.mem_filter,
      ClipboardContentCategory.mem_all, true_and]

def denyOnly (denied : ClipboardContentCategory) : ContentTypes where
  text := denied != .text
  image := denied != .image
  link := denied != .link
  file := denied != .file
  codeSnippet := true
  richText := denied != .richText

@[simp]
theorem allowedBy_denyOnly (denied category : ClipboardContentCategory) :
    category.allowedBy (denyOnly denied) = (denied != category) := by
  cases category <;> rfl

/-- One set is admitted whenever another is, under every preference, exactly
when its categories are among the other's. -/
theorem allowedBy_imp_iff_subset (seen real : ClipboardContentCategorySet) :
    (∀ contentTypes, seen.allowedBy contentTypes = true →
        real.allowedBy contentTypes = true) ↔
      ∀ category, real.has category = true →
        seen.has category = true := by
  simp only [allowedBy_iff]
  constructor
  · intro implies category present
    by_contra absent
    have admitted := implies (denyOnly category) (by
      intro other otherSeen
      rw [allowedBy_denyOnly, bne_iff_ne]
      rintro rfl
      exact absent otherSeen) category present
    simp at admitted
  · intro subset contentTypes admitted category present
    exact admitted category (subset category present)

end ClipboardContentCategorySet

end OpenClipboard
