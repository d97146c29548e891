import OpenClipboard.ClipboardWrite.Watcher
import OpenClipboard.Library.Transition

/-!
# What the watcher lets through

The watcher over a sequence of observations in which every send succeeds.  Each
guard mutes what repeats something recent, but a guard that returns early leaves
the memory of the others as it was.
-/

namespace OpenClipboard

open ContentHash Transition

structure Observation where
  snapshot : SystemClipboardSnapshot
  now : Nat
  deriving DecidableEq, Repr

/-- The watcher, when it last observed the clipboard, and the keys of what it
has emitted, the latest first. -/
structure WatcherRun where
  watcher : ClipboardWatcher
  lastSeen : Nat
  emitted : List (Option String)
  deriving DecidableEq, Repr

section Watcher

variable (blake3 : Blake3) (readFile : PathBuf → Option (List UInt8))
variable (loadFromMemory : List UInt8 → Option RgbaImage)

def observedKey (snapshot : SystemClipboardSnapshot) :
    Option (Option String) :=
  (snapshot.meaningfulOriginKey blake3 readFile).map fun rawKey =>
    currentDedupeKey rawKey
      (imageFingerprint blake3 loadFromMemory snapshot rawKey)

def decodedSize (snapshot : SystemClipboardSnapshot)
    (rawKey : Option String) : Option Int :=
  if (imageFingerprint blake3 loadFromMemory snapshot rawKey).isSome then
    snapshot.primaryImageSizeBytes
  else
    none

def undecodedSize (snapshot : SystemClipboardSnapshot)
    (rawKey : Option String) : Option Int :=
  if rawKey.any isImageKey &&
      (imageFingerprint blake3 loadFromMemory snapshot rawKey).isNone then
    snapshot.primaryImageSizeBytes
  else
    none

namespace WatcherRun

def fresh : WatcherRun := ⟨ClipboardWatcher.new, 0, []⟩

def observe (run : WatcherRun) (seen : Observation) : Option WatcherRun :=
  match observedKey blake3 readFile loadFromMemory seen.snapshot,
    run.watcher.emitWithDedupAt blake3 readFile loadFromMemory seen.snapshot
      seen.now true with
  | some key, some (isEmitted, watcher) =>
      some ⟨watcher, seen.now,
        if isEmitted then key :: run.emitted else run.emitted⟩
  | _, _ => none

end WatcherRun

end Watcher

/-! ## What one observation does -/

section Observation

variable {blake3 : Blake3} {readFile : PathBuf → Option (List UInt8)}
variable {loadFromMemory : List UInt8 → Option RgbaImage}
variable {watcher : ClipboardWatcher} {snapshot : SystemClipboardSnapshot}
variable {rawKey : Option String} {now : Nat}

/-- What an emission leaves behind. -/
structure Emits (watcher after : ClipboardWatcher) (key : Option String)
    (burstSize : Option Int) (now : Nat) : Prop where
  meaningful : after.lastMeaningful =
    match key with
    | some key => some (key, now)
    | none => watcher.lastMeaningful
  fileEmit : after.lastFileEmitTime = some now ∨
    after.lastFileEmitTime = watcher.lastFileEmitTime
  imageSeen : ∀ seen, after.lastImageSeen = some seen → seen.1 = now
  burst : ∀ size, burstSize = some size → after.imageBurst =
    some ⟨now, size, (watcher.ongoingBurst size now).isSome⟩
  noBurst : burstSize = none → after.imageBurst = watcher.imageBurst ∨
    after.imageBurst = none

/-- A snapshot is muted as a repetition, by the burst breaker, as a storm or as
a file event that comes too soon, or it is emitted. -/
theorem emitWithDedupAt_cases {isEmitted : Bool} {after : ClipboardWatcher}
    (keyed : snapshot.meaningfulOriginKey blake3 readFile = some rawKey)
    (observed : watcher.emitWithDedupAt blake3 readFile loadFromMemory snapshot
      now true = some (isEmitted, after)) :
    let key := currentDedupeKey rawKey
      (imageFingerprint blake3 loadFromMemory snapshot rawKey)
    let burstSize := decodedSize blake3 loadFromMemory snapshot rawKey
    watcher.isRepeatedKey key now = true ∧ isEmitted = false ∧
        after = watcher ∨
      watcher.isRepeatedKey key now = false ∧
        ((∃ size burst, burstSize = some size ∧
            watcher.ongoingBurst size now = some burst ∧
            burst.latched = true ∧ isEmitted = false ∧
            after = { watcher with imageBurst := some ⟨now, size, true⟩ }) ∨
          (∃ size, watcher.isImageStorm size now = true ∧
            burstSize = none ∧ isEmitted = false ∧
            after = { watcher with lastImageSeen := some (now, size) }) ∨
          (watcher.isRapidFileEvent snapshot now = true ∧ isEmitted = false ∧
            after = watcher) ∨
          (∀ size burst, burstSize = some size →
              watcher.ongoingBurst size now = some burst →
                burst.latched = false) ∧
            isEmitted = true ∧ Emits watcher after key burstSize now) := by
  intro key burstSize
  unfold ClipboardWatcher.emitWithDedupAt at observed
  rw [keyed, Option.map_some, Option.some.injEq] at observed
  have isBurstSize : decodedSize blake3 loadFromMemory snapshot rawKey =
      burstSize := rfl
  have stormOnly : undecodedSize blake3 loadFromMemory snapshot rawKey ≠ none →
      burstSize = none := by
    intro isUndecoded
    unfold undecodedSize at isUndecoded
    have noFingerprint : (imageFingerprint blake3 loadFromMemory snapshot
        rawKey).isSome = false := by
      by_contra decoded
      apply isUndecoded
      rw [if_neg]
      simp_all
    exact if_neg (by rw [noFingerprint]; decide)
  simp only [← decodedSize.eq_def, ← undecodedSize.eq_def] at observed
  rw [isBurstSize] at observed
  generalize undecodedSize blake3 loadFromMemory snapshot rawKey = stormSize
    at observed stormOnly
  change (if watcher.isRepeatedKey key now = true then _ else _) = _
    at observed
  by_cases repeated : watcher.isRepeatedKey key now = true
  · rw [if_pos repeated] at observed
    cases observed
    exact Or.inl ⟨repeated, rfl, rfl⟩
  · right
    refine ⟨Bool.eq_false_of_not_eq_true repeated, ?_⟩
    rw [if_neg repeated] at observed
    split at observed
    · rename_i burst filtered
      left
      obtain ⟨ongoing, isLatched⟩ := Option.filter_eq_some_iff.mp filtered
      obtain ⟨size, isSize, isOngoing⟩ := Option.bind_eq_some_iff.mp ongoing
      rw [isSize] at observed
      cases observed
      exact ⟨size, burst, isSize, isOngoing, isLatched, rfl, rfl⟩
    · rename_i stormSize _ _ filtered
      right
      have unlatched : ∀ size burst, burstSize = some size →
          watcher.ongoingBurst size now = some burst →
            burst.latched = false := by
        intro size burst isSize isOngoing
        have ongoing : (burstSize.bind fun size =>
            watcher.ongoingBurst size now) = some burst := by
          rw [isSize]
          exact isOngoing
        have notLatched := Option.filter_eq_none_iff.mp filtered burst ongoing
        exact Bool.eq_false_of_not_eq_true notLatched
      split at observed
      · rename_i isStorm
        left
        cases stormSize with
        | none => cases isStorm
        | some size =>
            cases observed
            exact ⟨size, isStorm, stormOnly (Option.some_ne_none size), rfl,
              rfl⟩
      · right
        split at observed
        · rename_i isRapid
          cases observed
          exact Or.inl ⟨isRapid, rfl, rfl⟩
        · right
          rw [if_neg (by decide)] at observed
          cases observed
          refine ⟨unlatched, rfl, rfl, ?_, ?_, ?_, ?_⟩
          · simp only
            split
            · exact Or.inl rfl
            · exact Or.inr rfl
          · intro seen isSeen
            obtain ⟨size, _, same⟩ := Option.map_eq_some_iff.mp isSeen
            rw [← same]
          · intro size isSize
            rw [isSize]
            rfl
          · intro isNone
            rw [isNone]
            simp only
            split
            · exact Or.inl rfl
            · exact Or.inr rfl

theorem isRepeatedKey_iff {key : Option String} :
    watcher.isRepeatedKey key now = true ↔
      ∃ name lastAt, key = some name ∧
        watcher.lastMeaningful = some (name, lastAt) ∧
          (isImageKey name = true ∨ now - lastAt < meaningfulRededupWindow) := by
  unfold ClipboardWatcher.isRepeatedKey
  cases key with
  | none => simp
  | some name =>
      cases watcher.lastMeaningful with
      | none => simp
      | some last =>
          simp only [Bool.and_eq_true, Bool.or_eq_true, decide_eq_true_eq,
            Option.some.injEq]
          constructor
          · rintro ⟨same, recent⟩
            subst same
            exact ⟨last.1, last.2, rfl, rfl, recent⟩
          · rintro ⟨_, lastAt, same, isLast, recent⟩
            subst same
            rw [isLast]
            exact ⟨rfl, recent⟩

variable {run next : WatcherRun} {seen : Observation}

theorem observe_eq_some
    (stepped : run.observe blake3 readFile loadFromMemory seen = some next) :
    ∃ rawKey isEmitted after,
      seen.snapshot.meaningfulOriginKey blake3 readFile = some rawKey ∧
      run.watcher.emitWithDedupAt blake3 readFile loadFromMemory seen.snapshot
        seen.now true = some (isEmitted, after) ∧
      next = ⟨after, seen.now,
        if isEmitted then
          currentDedupeKey rawKey (imageFingerprint blake3 loadFromMemory
            seen.snapshot rawKey) :: run.emitted
        else
          run.emitted⟩ := by
  unfold WatcherRun.observe at stepped
  split at stepped
  · rename_i key isEmitted after isKey observed
    obtain ⟨rawKey, keyed, same⟩ := Option.map_eq_some_iff.mp isKey
    cases stepped
    subst same
    exact ⟨rawKey, isEmitted, after, keyed, observed, rfl⟩
  · cases stepped

/-! ## What the guards remember -/

/-- The last meaningful key that was emitted, and no instant after the last
observation. -/
structure Remembers (run : WatcherRun) : Prop where
  meaningful : run.watcher.lastMeaningful.map Prod.fst =
    run.emitted.findSome? id
  meaningfulAt : ∀ last, run.watcher.lastMeaningful = some last →
    last.2 ≤ run.lastSeen
  fileEmitAt : ∀ last, run.watcher.lastFileEmitTime = some last →
    last ≤ run.lastSeen
  imageSeenAt : ∀ last, run.watcher.lastImageSeen = some last →
    last.1 ≤ run.lastSeen
  burstAt : ∀ burst, run.watcher.imageBurst = some burst →
    burst.at_ ≤ run.lastSeen

theorem remembers_fresh : Remembers WatcherRun.fresh where
  meaningful := rfl
  meaningfulAt := nofun
  fileEmitAt := nofun
  imageSeenAt := nofun
  burstAt := nofun

/-- The clock does not run backwards. -/
def InOrder (run : WatcherRun) (seen : Observation) : Prop :=
  run.lastSeen ≤ seen.now

instance decidableInOrder (run : WatcherRun) (seen : Observation) :
    Decidable (InOrder run seen) :=
  Nat.decLe _ _

theorem Remembers.later {lastSeen : Nat} (remembers : Remembers run)
    (later : run.lastSeen ≤ lastSeen) :
    Remembers ⟨run.watcher, lastSeen, run.emitted⟩ where
  meaningful := remembers.meaningful
  meaningfulAt := fun last isLast =>
    (remembers.meaningfulAt last isLast).trans later
  fileEmitAt := fun last isLast =>
    (remembers.fileEmitAt last isLast).trans later
  imageSeenAt := fun last isLast =>
    (remembers.imageSeenAt last isLast).trans later
  burstAt := fun burst isBurst =>
    (remembers.burstAt burst isBurst).trans later

theorem Remembers.step (remembers : Remembers run)
    (inOrder : InOrder run seen)
    (stepped : run.observe blake3 readFile loadFromMemory seen = some next) :
    Remembers next := by
  have kept := remembers.later inOrder
  obtain ⟨rawKey, isEmitted, after, keyed, observed, isNext⟩ :=
    observe_eq_some stepped
  rcases emitWithDedupAt_cases keyed observed with ⟨_, muted, same⟩ |
      ⟨_, ⟨size, _, _, _, _, muted, same⟩ | ⟨size, _, _, muted, same⟩ |
        ⟨_, muted, same⟩ | ⟨_, sent, emits⟩⟩
  · subst muted same
    rw [isNext]
    exact kept
  · subst muted same
    rw [isNext]
    refine ⟨kept.meaningful, kept.meaningfulAt, kept.fileEmitAt,
      kept.imageSeenAt, ?_⟩
    intro burst isBurst
    cases isBurst
    exact Nat.le_refl _
  · subst muted same
    rw [isNext]
    refine ⟨kept.meaningful, kept.meaningfulAt, kept.fileEmitAt, ?_,
      kept.burstAt⟩
    intro last isLast
    cases isLast
    exact Nat.le_refl _
  · subst muted same
    rw [isNext]
    exact kept
  · subst sent
    rw [isNext, if_pos rfl]
    have isMeaningful := emits.meaningful
    refine ⟨?_, ?_, ?_, ?_, ?_⟩
    · simp only
      rw [isMeaningful, List.findSome?_cons]
      cases currentDedupeKey rawKey (imageFingerprint blake3 loadFromMemory
          seen.snapshot rawKey) with
      | none => exact kept.meaningful
      | some key => rfl
    · intro last isLast
      simp only at isLast
      rw [isMeaningful] at isLast
      split at isLast
      · cases isLast
        exact Nat.le_refl _
      · exact kept.meaningfulAt last isLast
    · intro last isLast
      simp only at isLast
      rcases emits.fileEmit with isNow | same
      · rw [isNow] at isLast
        cases isLast
        exact Nat.le_refl _
      · rw [same] at isLast
        exact kept.fileEmitAt last isLast
    · intro last isLast
      exact (emits.imageSeen last isLast).le
    · intro burst isBurst
      simp only at isBurst
      cases isSize : decodedSize blake3 loadFromMemory seen.snapshot rawKey with
      | some size =>
          rw [emits.burst size isSize] at isBurst
          cases isBurst
          exact Nat.le_refl _
      | none =>
          rcases emits.noBurst isSize with same | isNone
          · rw [same] at isBurst
            exact kept.burstAt burst isBurst
          · rw [isNone] at isBurst
            cases isBurst

/-! ## After every window -/

/-- What comes after every window is muted only as the image that was emitted
last among what has a key. -/
theorem late_muted_iff (remembers : Remembers run)
    (late : run.lastSeen + imageStormMaxGap ≤ seen.now)
    (stepped : run.observe blake3 readFile loadFromMemory seen = some next) :
    next.emitted = run.emitted ↔
      ∃ key, isImageKey key = true ∧
        observedKey blake3 readFile loadFromMemory seen.snapshot =
          some (some key) ∧
        run.emitted.findSome? id = some key := by
  have gap : imageStormMaxGap = 5000 := rfl
  obtain ⟨rawKey, isEmitted, after, keyed, observed, isNext⟩ :=
    observe_eq_some stepped
  have isObserved : observedKey blake3 readFile loadFromMemory seen.snapshot =
      some (currentDedupeKey rawKey (imageFingerprint blake3 loadFromMemory
        seen.snapshot rawKey)) := by
    unfold observedKey
    rw [keyed]
    rfl
  have repeats : run.watcher.isRepeatedKey (currentDedupeKey rawKey
        (imageFingerprint blake3 loadFromMemory seen.snapshot rawKey))
          seen.now = true ↔
      ∃ key, isImageKey key = true ∧
        observedKey blake3 readFile loadFromMemory seen.snapshot =
          some (some key) ∧
        run.emitted.findSome? id = some key := by
    rw [isRepeatedKey_iff, isObserved, ← remembers.meaningful]
    constructor
    · rintro ⟨key, lastAt, isKey, isLast, isImage | recent⟩
      · refine ⟨key, isImage, congrArg some isKey, ?_⟩
        rw [isLast]
        rfl
      · have before := remembers.meaningfulAt _ isLast
        unfold meaningfulRededupWindow at recent
        simp only at before
        omega
    · rintro ⟨key, isImage, isKey, isLast⟩
      obtain ⟨last, isThere, same⟩ := Option.map_eq_some_iff.mp isLast
      subst same
      exact ⟨last.1, last.2, Option.some.inj isKey, isThere, Or.inl isImage⟩
  rw [← repeats, isNext]
  rcases emitWithDedupAt_cases keyed observed with ⟨repeated, muted, _⟩ |
      ⟨fresh, ⟨size, burst, _, ongoing, _⟩ | ⟨size, isStorm, _⟩ |
        ⟨isRapid, _⟩ | ⟨_, sent, _⟩⟩
  · subst muted
    exact iff_of_true rfl repeated
  · -- The burst is over.
    obtain ⟨isBurst, inWindow⟩ := Option.filter_eq_some_iff.mp ongoing
    have before := remembers.burstAt burst isBurst
    rw [Bool.and_eq_true, decide_eq_true_eq] at inWindow
    have recent := inWindow.2
    unfold imageBurstBreakerWindow at recent
    omega
  · -- So is the storm.
    exfalso
    unfold ClipboardWatcher.isImageStorm at isStorm
    cases isSeen : run.watcher.lastImageSeen with
    | none =>
        rw [isSeen] at isStorm
        cases isStorm
    | some last =>
        rw [isSeen] at isStorm
        have before := remembers.imageSeenAt last isSeen
        simp only [Option.any_some, Bool.and_eq_true, decide_eq_true_eq]
          at isStorm
        omega
  · exfalso
    unfold ClipboardWatcher.isRapidFileEvent at isRapid
    cases isFile : run.watcher.lastFileEmitTime with
    | none =>
        rw [isFile] at isRapid
        simp at isRapid
    | some last =>
        rw [isFile] at isRapid
        have before := remembers.fileEmitAt last isFile
        simp only [Option.any_some, Bool.and_eq_true, decide_eq_true_eq]
          at isRapid
        have recent := isRapid.2
        unfold fileDedupWindow at recent
        omega
  · subst sent
    apply iff_of_false
    · rw [if_pos rfl]
      exact List.cons_ne_self _ _
    · rw [fresh]
      decide

/-- A snapshot that comes after every window is muted as something other than
the image emitted last exactly if the last one emitted had no key and the image
is the one emitted last before those. -/
theorem lateMuting_iff
    (ran : Run (WatcherRun.observe blake3 readFile loadFromMemory) InOrder
      WatcherRun.fresh run)
    (late : run.lastSeen + imageStormMaxGap ≤ seen.now)
    (stepped : run.observe blake3 readFile loadFromMemory seen = some next) :
    (next.emitted = run.emitted →
        ∃ key, isImageKey key = true ∧
          observedKey blake3 readFile loadFromMemory seen.snapshot =
            some (some key) ∧
          run.emitted.head? = some (some key)) ↔
      ¬ ∃ key, isImageKey key = true ∧
          observedKey blake3 readFile loadFromMemory seen.snapshot =
            some (some key) ∧
          run.emitted.head? = some none ∧
          run.emitted.findSome? id = some key := by
  have remembers : Remembers run :=
    ran.preserves remembers_fresh fun _ _ _ remembers inOrder stepped =>
      remembers.step inOrder stepped
  rw [late_muted_iff remembers late stepped]
  constructor
  · rintro justLast ⟨key, isImage, isKey, isNone, isEarlier⟩
    obtain ⟨_, _, _, isLast⟩ := justLast ⟨key, isImage, isKey, isEarlier⟩
    rw [isNone] at isLast
    cases isLast
  · rintro noEarlier ⟨key, isImage, isKey, isEarlier⟩
    refine ⟨key, isImage, isKey, ?_⟩
    cases isEmitted : run.emitted with
    | nil =>
        rw [isEmitted] at isEarlier
        cases isEarlier
    | cons last rest =>
        cases last with
        | none =>
            exfalso
            apply noEarlier
            refine ⟨key, isImage, isKey, ?_, isEarlier⟩
            rw [isEmitted]
            rfl
        | some lastKey =>
            rw [isEmitted] at isEarlier
            cases isEarlier
            rfl

end Observation

namespace WatcherRun.Sample

/-- The first 32 bytes. -/
def blake3 : Blake3 := fun bytes =>
  ⟨(bytes ++ List.replicate 32 0).take 32, length_filled bytes⟩

def noFiles (_ : PathBuf) : Option (List UInt8) := none

/-- Every image has one row. -/
def loadFromMemory (bytes : List UInt8) : Option RgbaImage :=
  some ⟨1, 1, bytes⟩

def image (colour : UInt8) : SystemClipboardSnapshot where
  tsMs := 0
  representations := [.new "image" "public.png" (some "image/png")
    [colour, colour, colour, 0]]
  fileContentDigests := []

def unkeyed : SystemClipboardSnapshot where
  tsMs := 0
  representations := [.new "other" "other" none [1]]
  fileContentDigests := []

/-- Observe a list of snapshots, each at its instant. -/
def after (seen : List Observation) : Option WatcherRun :=
  execute (WatcherRun.observe blake3 noFiles loadFromMemory) WatcherRun.fresh
    seen

def imageLast : WatcherRun :=
  (after [⟨image 1, 0⟩]).getD WatcherRun.fresh

def unkeyedLast : WatcherRun :=
  (after [⟨image 1, 0⟩, ⟨unkeyed, 10000⟩]).getD WatcherRun.fresh

end WatcherRun.Sample

open WatcherRun.Sample in
/-- The image that was just emitted is muted. -/
theorem imageAgain_isLast :
    ∃ key, isImageKey key = true ∧
      observedKey blake3 noFiles loadFromMemory (image 1) = some (some key) ∧
      imageLast.emitted.head? = some (some key) := by
  have executed : after [⟨image 1, 0⟩] = some imageLast := by decide +kernel
  have ran : Run (WatcherRun.observe blake3 noFiles loadFromMemory) InOrder
      WatcherRun.fresh imageLast :=
    Run.ofExecute (by decide +kernel) executed
  have stepped : imageLast.observe blake3 noFiles loadFromMemory
      ⟨image 1, 10000⟩ =
        some ⟨imageLast.watcher, 10000, imageLast.emitted⟩ := by
    decide +kernel
  apply (lateMuting_iff ran (by decide) stepped).mpr
  · rintro ⟨_, _, _, isNone, _⟩
    revert isNone
    decide +kernel
  · rfl

open WatcherRun.Sample in
/-- An image is copied again after what has no key, and muted. -/
theorem imageAfterUnkeyed_muted :
    ¬ ∀ (blake3 : Blake3) (readFile : PathBuf → Option (List UInt8))
      (loadFromMemory : List UInt8 → Option RgbaImage) (run next : WatcherRun)
      (seen : Observation),
      Run (WatcherRun.observe blake3 readFile loadFromMemory) InOrder
        WatcherRun.fresh run →
      run.lastSeen + imageStormMaxGap ≤ seen.now →
      run.observe blake3 readFile loadFromMemory seen = some next →
      next.emitted = run.emitted →
        ∃ key, isImageKey key = true ∧
          observedKey blake3 readFile loadFromMemory seen.snapshot =
            some (some key) ∧
          run.emitted.head? = some (some key) := by
  intro justLast
  have executed : after [⟨image 1, 0⟩, ⟨unkeyed, 10000⟩] =
      some unkeyedLast := by
    decide +kernel
  have stepped : unkeyedLast.observe blake3 noFiles loadFromMemory
      ⟨image 1, 20000⟩ =
        some ⟨unkeyedLast.watcher, 20000, unkeyedLast.emitted⟩ := by
    decide +kernel
  have ran : Run (WatcherRun.observe blake3 noFiles loadFromMemory) InOrder
      WatcherRun.fresh unkeyedLast :=
    Run.ofExecute (by decide +kernel) executed
  obtain ⟨key, _, _, isLast⟩ := justLast blake3 noFiles loadFromMemory
    unkeyedLast _ ⟨image 1, 20000⟩ ran (by decide) stepped rfl
  have isNone : unkeyedLast.emitted.head? = some none := by decide +kernel
  rw [isNone] at isLast
  cases isLast

section Observation

variable {blake3 : Blake3} {readFile : PathBuf → Option (List UInt8)}
variable {loadFromMemory : List UInt8 → Option RgbaImage}
variable {watcher : ClipboardWatcher} {snapshot : SystemClipboardSnapshot}
variable {rawKey : Option String} {now : Nat}
variable {run next : WatcherRun} {seen : Observation}

/-! ## Storms of images -/

def IsDecodable (blake3 : Blake3) (readFile : PathBuf → Option (List UInt8))
    (loadFromMemory : List UInt8 → Option RgbaImage)
    (snapshot : SystemClipboardSnapshot) : Prop :=
  ∀ rawKey, snapshot.meaningfulOriginKey blake3 readFile = some rawKey →
    (decodedSize blake3 loadFromMemory snapshot rawKey).isSome = true

instance decidableIsDecodable (blake3 : Blake3)
    (readFile : PathBuf → Option (List UInt8))
    (loadFromMemory : List UInt8 → Option RgbaImage)
    (snapshot : SystemClipboardSnapshot) :
    Decidable (IsDecodable blake3 readFile loadFromMemory snapshot) :=
  inferInstanceAs (Decidable (∀ rawKey ∈
    snapshot.meaningfulOriginKey blake3 readFile,
      (decodedSize blake3 loadFromMemory snapshot rawKey).isSome = true))

/-- Each image comes within the window of the one before it, with about its
size. -/
def Follows (earlier later : Observation) : Prop :=
  earlier.now ≤ later.now ∧
    later.now - earlier.now < imageBurstBreakerWindow ∧
      (earlier.snapshot.primaryImageSizeBytes.any fun size =>
        later.snapshot.primaryImageSizeBytes.any fun laterSize =>
          approxSameImageSize size laterSize) = true

instance decidableFollows (earlier later : Observation) :
    Decidable (Follows earlier later) :=
  inferInstanceAs (Decidable (_ ∧ _ ∧ _))

def ImageStorm (blake3 : Blake3) (readFile : PathBuf → Option (List UInt8))
    (loadFromMemory : List UInt8 → Option RgbaImage)
    (storm : List Observation) : Prop :=
  (∀ seen ∈ storm, IsDecodable blake3 readFile loadFromMemory seen.snapshot) ∧
    storm.IsChain Follows

/-- The snapshot has the key that was emitted last. -/
def Repeats (blake3 : Blake3) (readFile : PathBuf → Option (List UInt8))
    (loadFromMemory : List UInt8 → Option RgbaImage) (run : WatcherRun)
    (seen : Observation) : Prop :=
  ∀ rawKey, seen.snapshot.meaningfulOriginKey blake3 readFile = some rawKey →
    run.watcher.isRepeatedKey (currentDedupeKey rawKey
      (imageFingerprint blake3 loadFromMemory seen.snapshot rawKey))
        seen.now = true

def ContinuesBurst (blake3 : Blake3)
    (readFile : PathBuf → Option (List UInt8))
    (loadFromMemory : List UInt8 → Option RgbaImage) (run : WatcherRun)
    (seen : Observation) : Prop :=
  ∀ rawKey, seen.snapshot.meaningfulOriginKey blake3 readFile = some rawKey →
    ∀ size, decodedSize blake3 loadFromMemory seen.snapshot rawKey =
      some size → (run.watcher.ongoingBurst size seen.now).isSome = true

def Steady (blake3 : Blake3) (readFile : PathBuf → Option (List UInt8))
    (loadFromMemory : List UInt8 → Option RgbaImage) (run : WatcherRun)
    (seen : Observation) : Prop :=
  Repeats blake3 readFile loadFromMemory run seen ∨
    ContinuesBurst blake3 readFile loadFromMemory run seen

instance decidableSteady (blake3 : Blake3)
    (readFile : PathBuf → Option (List UInt8))
    (loadFromMemory : List UInt8 → Option RgbaImage) (run : WatcherRun)
    (seen : Observation) :
    Decidable (Steady blake3 readFile loadFromMemory run seen) :=
  inferInstanceAs (Decidable ((∀ rawKey ∈
      seen.snapshot.meaningfulOriginKey blake3 readFile,
        run.watcher.isRepeatedKey (currentDedupeKey rawKey
          (imageFingerprint blake3 loadFromMemory seen.snapshot rawKey))
            seen.now = true) ∨
    ∀ rawKey ∈ seen.snapshot.meaningfulOriginKey blake3 readFile,
      ∀ size ∈ decodedSize blake3 loadFromMemory seen.snapshot rawKey,
        (run.watcher.ongoingBurst size seen.now).isSome = true))

/-- Only the first image that does not have the key emitted last may start a new
burst. -/
def StartsOneBurst (blake3 : Blake3)
    (readFile : PathBuf → Option (List UInt8))
    (loadFromMemory : List UInt8 → Option RgbaImage) (run : WatcherRun) :
    List Observation → Prop
  | [] => True
  | seen :: rest =>
      ∀ next, run.observe blake3 readFile loadFromMemory seen = some next →
        (Repeats blake3 readFile loadFromMemory run seen ∧
          StartsOneBurst blake3 readFile loadFromMemory next rest) ∨
        Guarded (WatcherRun.observe blake3 readFile loadFromMemory)
          (Steady blake3 readFile loadFromMemory) next rest

/-- How many more images of a burst the breaker lets through. -/
def ClipboardWatcher.slack (watcher : ClipboardWatcher) : Nat :=
  match watcher.imageBurst with
  | some burst => if burst.latched then 0 else 1
  | none => 0

theorem slack_le_one : watcher.slack ≤ 1 := by
  unfold ClipboardWatcher.slack
  split
  · split <;> omega
  · omega

theorem steady_step
    (decodable : IsDecodable blake3 readFile loadFromMemory seen.snapshot)
    (steady : Steady blake3 readFile loadFromMemory run seen)
    (stepped : run.observe blake3 readFile loadFromMemory seen = some next) :
    next.emitted.length + next.watcher.slack ≤
      run.emitted.length + run.watcher.slack := by
  obtain ⟨rawKey, isEmitted, after, keyed, observed, isNext⟩ :=
    observe_eq_some stepped
  obtain ⟨size, isSize⟩ := Option.isSome_iff_exists.mp (decodable rawKey keyed)
  rcases emitWithDedupAt_cases keyed observed with ⟨_, muted, same⟩ |
      ⟨fresh, ⟨_, burst, _, ongoing, isLatched, muted, same⟩ |
        ⟨_, _, isNone, _⟩ | ⟨_, muted, same⟩ | ⟨unlatched, sent, emits⟩⟩
  · subst muted same
    rw [isNext]
    exact Nat.le_refl _
  · subst muted same
    rw [isNext]
    exact Nat.le_add_right _ _
  · rw [isSize] at isNone
    cases isNone
  · subst muted same
    rw [isNext]
    exact Nat.le_refl _
  · subst sent
    rcases steady with repeated | continues
    · rw [repeated rawKey keyed] at fresh
      cases fresh
    · have isOngoing := continues rawKey keyed size isSize
      obtain ⟨burst, ongoing⟩ := Option.isSome_iff_exists.mp isOngoing
      have isBurst := (Option.filter_eq_some_iff.mp ongoing).1
      have before : run.watcher.slack = 1 := by
        unfold ClipboardWatcher.slack
        rw [isBurst]
        simp [unlatched size burst isSize ongoing]
      have behind : after.slack = 0 := by
        unfold ClipboardWatcher.slack
        rw [emits.burst size isSize, isOngoing]
        rfl
      rw [isNext, before, if_pos rfl, List.length_cons]
      simp only
      omega

theorem emitted_le
    (stepped : run.observe blake3 readFile loadFromMemory seen = some next) :
    next.emitted.length + next.watcher.slack ≤ run.emitted.length + 2 := by
  obtain ⟨rawKey, isEmitted, after, _, _, isNext⟩ := observe_eq_some stepped
  have few : after.slack ≤ 1 := slack_le_one
  rw [isNext]
  cases isEmitted with
  | false =>
      rw [if_neg Bool.false_ne_true]
      simp only
      omega
  | true =>
      rw [if_pos rfl, List.length_cons]
      simp only
      omega

theorem repeats_step
    (repeated : Repeats blake3 readFile loadFromMemory run seen)
    (stepped : run.observe blake3 readFile loadFromMemory seen = some next) :
    next.emitted = run.emitted := by
  obtain ⟨rawKey, isEmitted, after, keyed, observed, isNext⟩ :=
    observe_eq_some stepped
  rcases emitWithDedupAt_cases keyed observed with ⟨_, muted, _⟩ | ⟨fresh, _⟩
  · rw [isNext, muted]
    rfl
  · rw [repeated rawKey keyed] at fresh
    cases fresh

theorem steady_run {storm : List Observation} {finish : WatcherRun}
    (decodable : ∀ seen ∈ storm,
      IsDecodable blake3 readFile loadFromMemory seen.snapshot)
    (steady : Guarded (WatcherRun.observe blake3 readFile loadFromMemory)
      (Steady blake3 readFile loadFromMemory) run storm)
    (ran : execute (WatcherRun.observe blake3 readFile loadFromMemory) run
      storm = some finish) :
    finish.emitted.length + finish.watcher.slack ≤
      run.emitted.length + run.watcher.slack := by
  induction storm generalizing run with
  | nil =>
      cases ran
      exact Nat.le_refl _
  | cons seen rest inductionHypothesis =>
      cases stepped : run.observe blake3 readFile loadFromMemory seen with
      | none => simp [execute, stepped] at ran
      | some next =>
          simp only [execute, stepped] at ran
          have later := steady.2
          rw [stepped] at later
          have here := steady_step (decodable seen List.mem_cons_self)
            steady.1 stepped
          exact (inductionHypothesis (fun other member =>
            decodable other (List.mem_cons_of_mem seen member)) later
              ran).trans here

theorem oneBurst_emitted {storm : List Observation} {finish : WatcherRun}
    (decodable : ∀ seen ∈ storm,
      IsDecodable blake3 readFile loadFromMemory seen.snapshot)
    (oneBurst : StartsOneBurst blake3 readFile loadFromMemory run storm)
    (ran : execute (WatcherRun.observe blake3 readFile loadFromMemory) run
      storm = some finish) :
    finish.emitted.length ≤ run.emitted.length + 2 := by
  induction storm generalizing run with
  | nil =>
      cases ran
      exact Nat.le_add_right _ 2
  | cons seen rest inductionHypothesis =>
      cases stepped : run.observe blake3 readFile loadFromMemory seen with
      | none => simp [execute, stepped] at ran
      | some next =>
          simp only [execute, stepped] at ran
          have others : ∀ other ∈ rest, IsDecodable blake3 readFile
              loadFromMemory other.snapshot := fun other member =>
            decodable other (List.mem_cons_of_mem seen member)
          rcases oneBurst next stepped with ⟨repeated, later⟩ | steady
          · rw [← repeats_step repeated stepped]
            exact inductionHypothesis others later ran
          · have first := emitted_le stepped
            have later := steady_run others steady ran
            omega

/-- At most two images of a storm are emitted if only the first of them that
does not have the key emitted last starts a burst. -/
theorem imageStorm_atMostTwo {storm : List Observation} {finish : WatcherRun}
    (isStorm : ImageStorm blake3 readFile loadFromMemory storm)
    (oneBurst : StartsOneBurst blake3 readFile loadFromMemory run storm)
    (ran : execute (WatcherRun.observe blake3 readFile loadFromMemory) run
      storm = some finish) :
    finish.emitted.length ≤ run.emitted.length + 2 :=
  oneBurst_emitted isStorm.1 oneBurst ran

end Observation

namespace WatcherRun.Sample

/-- Three images, one each second. -/
def churning : List Observation :=
  [⟨image 1, 0⟩, ⟨image 2, 1000⟩, ⟨image 3, 2000⟩]

/-- Each image twice. -/
def repeating : List Observation :=
  [⟨image 1, 0⟩, ⟨image 1, 1000⟩, ⟨image 2, 2000⟩, ⟨image 2, 3000⟩,
    ⟨image 3, 4000⟩]

end WatcherRun.Sample

open WatcherRun.Sample in
theorem churning_atMostTwo :
    ((after churning).getD WatcherRun.fresh).emitted.length ≤ 0 + 2 := by
  have isStorm : ImageStorm blake3 noFiles loadFromMemory churning := by
    constructor
    · decide +kernel
    · decide +kernel
  have oneBurst : StartsOneBurst blake3 noFiles loadFromMemory
      WatcherRun.fresh churning := by
    intro next stepped
    right
    have isNext : WatcherRun.fresh.observe blake3 noFiles loadFromMemory
        ⟨image 1, 0⟩ = some imageLast := by
      decide +kernel
    rw [isNext] at stepped
    cases stepped
    decide +kernel
  have executed : after churning =
      some ((after churning).getD WatcherRun.fresh) := by
    decide +kernel
  exact imageStorm_atMostTwo isStorm oneBurst executed

open WatcherRun.Sample in
/-- A frame that repeats the last one does not prolong the burst, and the next
image starts another. -/
theorem repeating_emitsThree :
    ¬ ∀ (blake3 : Blake3) (readFile : PathBuf → Option (List UInt8))
      (loadFromMemory : List UInt8 → Option RgbaImage)
      (storm : List Observation) (finish : WatcherRun),
      ImageStorm blake3 readFile loadFromMemory storm →
      execute (WatcherRun.observe blake3 readFile loadFromMemory)
        WatcherRun.fresh storm = some finish →
      finish.emitted.length ≤ 2 := by
  intro atMostTwo
  have isStorm : ImageStorm blake3 noFiles loadFromMemory repeating := by
    constructor
    · decide +kernel
    · decide +kernel
  have executed : after repeating =
      some ((after repeating).getD WatcherRun.fresh) := by
    decide +kernel
  have two := atMostTwo _ _ _ _ _ isStorm executed
  revert two
  decide +kernel

end OpenClipboard
