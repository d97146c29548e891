import OpenClipboard.MobileEngine.Ticks

/-!
# Content that is already synced

After a commit, a server answer with the committed content should not be
planned as new.  The watermark keeps the Unicode uppercase of the hash and the
comparison ignores the case of ASCII letters only, so the law holds for the
hashes on which the two agree.
-/

namespace OpenClipboard.MobileEngine

open Text

/-! ## Hashes up to case -/

theorem hashesEqual_some_iff {left right : String} :
    hashesEqual (some left) (some right) = true ↔
      left.toList.map Char.toLower = right.toList.map Char.toLower := by
  simp [hashesEqual, eqIgnoreAsciiCase]

theorem hashesEqual_refl (hash : Option String) :
    hashesEqual hash hash = true := by
  cases hash with
  | none => rfl
  | some hash => exact hashesEqual_some_iff.mpr rfl

theorem hashesEqual_trans {first second third : Option String}
    (left : hashesEqual first second = true)
    (right : hashesEqual second third = true) :
    hashesEqual first third = true := by
  cases second with
  | none =>
      cases first with
      | none => exact right
      | some _ => cases left
  | some second =>
      cases first with
      | none => cases left
      | some first =>
          cases third with
          | none => cases right
          | some third =>
              rw [hashesEqual_some_iff] at left right ⊢
              exact left.trans right

/-- The hash keeps its identity in the watermark: its Unicode uppercase differs
from it in the case of ASCII letters only. -/
def KeepsCase (casing : Uppercase) (hash : String) : Prop :=
  hashesEqual (some hash) (some (casing.toUppercase hash)) = true

/-! ## The law -/

/-- A server entry with the content: the same content id, or, where either
side has none, the same hash. -/
def Identity.SameContent (identity : Identity) (entry : Clipboard) : Prop :=
  match nonemptyContentId entry.contentId,
      nonemptyContentId identity.contentId with
  | some a, some b => a = b
  | _, _ => hashesEqual entry.hash identity.hash = true

def WatermarkStays (casing : Uppercase) (st : SyncRuntimeState)
    (later : List RuntimeAction) : Prop :=
  ∀ done, done <+: later →
    (runActions casing st done).watermark = st.watermark

/-- No answer with the content is planned as new. -/
def NeverNew (casing : Uppercase) (st : SyncRuntimeState)
    (identity : Identity) : Prop :=
  ∀ (snap : ServerGetSnapshot) (entry : Clipboard),
    snap.serverEntry = some entry → identity.SameContent entry →
      ∀ plan, planAfterServerGet casing st snap ≠ .serverNew plan

variable {contentId : Option String} {hash : String} {st : SyncRuntimeState}

section Laws

variable {casing : Uppercase}

theorem watermark_after_commit {call : ReducerCall Clipboard}
    (commits : call.commits st = some ⟨some hash, contentId⟩)
    (nonempty : hash ≠ "") :
    (RuntimeAction.apply casing st (.reducer call)).watermark =
      ⟨some (casing.toUppercase hash), nonemptyContentId contentId⟩ := by
  have change : RuntimeAction.change casing st (.reducer call) =
      .moveTo ⟨some hash, contentId⟩ := by
    rw [RuntimeAction.change_of_commits commits]
    simp [Identity.commitChange, nonemptyHash, nonempty]
  rw [RuntimeAction.apply_watermark, change]
  rfl

theorem isAlreadySynced_of_sameContent {entry : Clipboard}
    (watermark : st.watermark =
      ⟨some (casing.toUppercase hash), nonemptyContentId contentId⟩)
    (keepsCase : KeepsCase casing hash)
    (same : Identity.SameContent ⟨some hash, contentId⟩ entry) :
    isAlreadySynced entry st = true := by
  have isHash : st.lastSyncedHash = some (casing.toUppercase hash) :=
    congrArg Identity.hash watermark
  have isContentId : st.lastSyncedContentId = nonemptyContentId contentId :=
    congrArg Identity.contentId watermark
  simp only [Identity.SameContent] at same
  simp only [isAlreadySynced, isHash, isContentId, nonemptyContentId_idem]
  cases ofEntry : nonemptyContentId entry.contentId with
  | none =>
      rw [ofEntry] at same
      exact hashesEqual_trans same keepsCase
  | some a =>
      rw [ofEntry] at same
      cases ofContent : nonemptyContentId contentId with
      | none =>
          rw [ofContent] at same
          exact hashesEqual_trans same keepsCase
      | some b =>
          rw [ofContent] at same
          exact beq_iff_eq.mpr same

/-- An answer that carries the hash alone, while the device shows nothing. -/
def bareAnswer (hash : String) : ServerGetSnapshot where
  autoApply := false
  autoPush := false
  serverEntry := some
    { kind := .text
      hash := some hash
      contentId := none
      text := ""
      hasData := false
      dataName := none
      size := none }
  devicePresent := false
  deviceHash := none

theorem planAfterServerGet_bareAnswer
    (watermark : st.watermark =
      ⟨some (casing.toUppercase hash), nonemptyContentId contentId⟩)
    (losesCase : ¬KeepsCase casing hash) :
    ∃ plan, planAfterServerGet casing st (bareAnswer hash) =
      .serverNew plan := by
  have isHash : st.lastSyncedHash = some (casing.toUppercase hash) :=
    congrArg Identity.hash watermark
  refine ⟨_, planAfterServerGet_eq_serverNew.mpr ⟨?_, _, rfl, ?_, rfl⟩⟩
  · simp only [convergedHash, bareAnswer]
    split <;> simp_all [nonemptyHash]
  · rw [KeepsCase, Bool.not_eq_true] at losesCase
    simp only [isAlreadySynced, isHash]
    exact losesCase

end Laws

/-- In every reachable state, after a commit of content with a non-empty hash,
and for as long as nothing moves the watermark, no answer with that content is
planned as new, exactly if the hash keeps its identity under `to_uppercase`. -/
theorem syncedStaysSynced_iff (casing : Uppercase)
    (before : List RuntimeAction) (call : ReducerCall Clipboard)
    {hash : String} {contentId : Option String}
    (commits : call.commits (runActions casing .default before) =
      some ⟨some hash, contentId⟩)
    (nonempty : hash ≠ "") :
    let committed := RuntimeAction.apply casing
      (runActions casing .default before) (.reducer call)
    (∀ later, WatermarkStays casing committed later →
      NeverNew casing (runActions casing committed later)
        ⟨some hash, contentId⟩) ↔
      KeepsCase casing hash := by
  intro committed
  have watermark : committed.watermark =
      ⟨some (casing.toUppercase hash), nonemptyContentId contentId⟩ :=
    watermark_after_commit commits nonempty
  constructor
  · intro neverNew
    by_contra losesCase
    obtain ⟨plan, isNew⟩ := planAfterServerGet_bareAnswer watermark losesCase
    have stays : WatermarkStays casing committed [] := by
      intro done isPrefix
      rw [List.prefix_nil.mp isPrefix]
      rfl
    refine neverNew [] stays (bareAnswer hash) _ rfl ?_ plan isNew
    exact hashesEqual_refl (some hash)
  · intro keepsCase later stays snap entry isEntry same plan isNew
    obtain ⟨_, other, isOther, notSynced, _⟩ :=
      planAfterServerGet_eq_serverNew.mp isNew
    rw [isEntry] at isOther
    cases isOther
    have still := (stays later (List.prefix_refl later)).trans watermark
    rw [isAlreadySynced_of_sameContent still keepsCase same] at notSynced
    cases notSynced

namespace PhoneSample

def appliesText (hash : String) : ReducerCall Clipboard :=
  .commitApply (some hash) none 1000 cfg

theorem syncedStaysSynced_iff_text :
    (∀ later,
      WatermarkStays casing
        (RuntimeAction.apply casing .default (.reducer (appliesText "AB")))
        later →
      NeverNew casing
        (runActions casing
          (RuntimeAction.apply casing .default
            (.reducer (appliesText "AB"))) later)
        ⟨some "AB", none⟩) ↔
      KeepsCase casing "AB" :=
  syncedStaysSynced_iff casing [] (appliesText "AB") rfl (by decide)

/-- The hash `ß` is kept as `SS`: right after it was applied, the same answer
is new again. -/
theorem syncedText_plannedAsNew :
    planAfterServerGet casing
      (RuntimeAction.apply casing .default (.reducer (appliesText "ß")))
      (bareAnswer "ß") = .serverNew ⟨false, false⟩ := by
  decide +kernel

end PhoneSample

end OpenClipboard.MobileEngine
