import OpenClipboard.History.Sweeps

/-!
# What the retention policy evicts

Which entries the rules of a policy condemn, on unbounded ages, against the
entries that the enforcement selects.
-/

namespace OpenClipboard.History

variable {entry : ClipboardEntry} {rule : RetentionRule}

section Law

variable (nowMs : Int) (candidates : List ClipboardEntry)
variable (rules : List RetentionRule) (evaluation : RuleEvaluation)
variable (skipPinned : Bool)

/-! ## The law -/

/-- The entries that the rules are about. -/
def nonExempt : List ClipboardEntry :=
  if skipPinned then candidates.filter fun entry => !entry.isFavorited
  else candidates

def newestFirst : List ClipboardEntry :=
  (nonExempt candidates skipPinned).insertionSort fun left right =>
    right.createdAtMs ≤ left.createdAtMs

/-- The age is above the maximum, or enough newer entries are kept. -/
def Condemns (entry : ClipboardEntry) : RetentionRule → Prop
  | .byAge maxAgeMs => (maxAgeMs : Int) < nowMs - entry.createdAtMs
  | .byCount maxItems =>
      entry ∈ (newestFirst candidates skipPinned).drop maxItems
  | _ => False

/-- Some rule, or every rule. -/
def Combined (holds : RetentionRule → Prop) : Prop :=
  match evaluation with
  | .anyMatch => ∃ rule ∈ rules, holds rule
  | .allMatch => ∀ rule ∈ rules, holds rule

structure RetentionLaw : Prop where
  exactly : ∀ entry ∈ nonExempt candidates skipPinned,
    entry.entryId ∈ selectEntriesToEvictForRetention candidates rules
        evaluation skipPinned nowMs ↔
      Combined rules evaluation (Condemns nowMs candidates skipPinned entry)
  onlyNonExempt : ∀ entryId ∈ selectEntriesToEvictForRetention candidates
    rules evaluation skipPinned nowMs,
      ∃ entry ∈ nonExempt candidates skipPinned, entry.entryId = entryId
  olderToo : ∀ entry ∈ nonExempt candidates skipPinned,
    entry.entryId ∈ selectEntriesToEvictForRetention candidates rules
        evaluation skipPinned nowMs →
      ∀ older ∈ nonExempt candidates skipPinned,
        older.createdAtMs < entry.createdAtMs →
          older.entryId ∈ selectEntriesToEvictForRetention candidates rules
            evaluation skipPinned nowMs
  limit : evaluation = .anyMatch → ∀ maxItems, .byCount maxItems ∈ rules →
    ((nonExempt candidates skipPinned).filter fun entry =>
      decide (entry.entryId ∉ selectEntriesToEvictForRetention candidates rules
        evaluation skipPinned nowMs)).length ≤ maxItems

/-! ## What the enforcement selects -/

/-- As the enforcement compares them. -/
def Evicts (entry : ClipboardEntry) : RetentionRule → Prop
  | .byAge maxAgeMs =>
      entry.createdAtMs < saturatingSub nowMs (asI64 maxAgeMs)
  | .byCount maxItems =>
      entry ∈ (newestFirst candidates skipPinned).drop maxItems
  | _ => False

variable {nowMs candidates rules evaluation skipPinned}

theorem mem_newestFirst :
    entry ∈ newestFirst candidates skipPinned ↔
      entry ∈ nonExempt candidates skipPinned := by
  unfold newestFirst
  exact List.mem_insertionSort _

theorem newestFirst_pairwise : (newestFirst candidates skipPinned).Pairwise
    fun left right => right.createdAtMs ≤ left.createdAtMs := by
  have total : Std.Total fun left right : ClipboardEntry =>
      right.createdAtMs ≤ left.createdAtMs :=
    ⟨fun left right => le_total right.createdAtMs left.createdAtMs⟩
  have isTrans : IsTrans ClipboardEntry fun left right =>
      right.createdAtMs ≤ left.createdAtMs :=
    ⟨fun _ _ _ first second => second.trans first⟩
  exact List.pairwise_insertionSort _ _

theorem nonExempt_sublist :
    (nonExempt candidates skipPinned).Sublist candidates := by
  unfold nonExempt
  split
  · exact List.filter_sublist
  · exact List.Sublist.refl _

theorem mem_ruleSet (entryId : String) (supported : rule.isSupported = true) :
    ∃ set, ruleSet nowMs (newestFirst candidates skipPinned) rule = some set ∧
      (entryId ∈ set ↔ ∃ entry ∈ nonExempt candidates skipPinned,
        entry.entryId = entryId ∧
          Evicts nowMs candidates skipPinned entry rule) := by
  cases rule with
  | byAge maxAgeMs =>
      refine ⟨_, rfl, ?_⟩
      simp only [List.mem_map, List.mem_filter, decide_eq_true_eq, Evicts,
        mem_newestFirst]
      constructor
      · rintro ⟨entry, ⟨member, old⟩, named⟩
        exact ⟨entry, member, named, old⟩
      · rintro ⟨entry, member, named, old⟩
        exact ⟨entry, ⟨member, old⟩, named⟩
  | byCount maxItems =>
      refine ⟨_, rfl, ?_⟩
      simp only [List.mem_map, Evicts]
      constructor
      · rintro ⟨entry, dropped, named⟩
        have member := mem_newestFirst.mp (List.mem_of_mem_drop dropped)
        exact ⟨entry, member, named, dropped⟩
      · rintro ⟨entry, _, named, dropped⟩
        exact ⟨entry, dropped, named⟩
  | byContentType maxAgeMs => cases supported
  | byTotalSize maxBytes => cases supported
  | sensitive maxAgeMs => cases supported

theorem mem_combineRuleSets {sets : List (List String)} {entryId : String}
    (nonempty : sets ≠ []) :
    entryId ∈ combineRuleSets evaluation sets ↔
      match evaluation with
      | .anyMatch => ∃ set ∈ sets, entryId ∈ set
      | .allMatch => ∀ set ∈ sets, entryId ∈ set := by
  cases sets with
  | nil => exact absurd rfl nonempty
  | cons first rest =>
      cases evaluation with
      | anyMatch =>
          rw [combineRuleSets, List.mem_dedup, List.mem_flatten]
      | allMatch =>
          rw [combineRuleSets, List.mem_filter]
          simp

theorem Combined.congr {holds alike : RetentionRule → Prop}
    (same : ∀ rule ∈ rules, (holds rule ↔ alike rule)) :
    Combined rules evaluation holds ↔ Combined rules evaluation alike := by
  cases evaluation with
  | anyMatch =>
      exact exists_congr fun rule => and_congr_right fun member =>
        same rule member
  | allMatch =>
      exact forall_congr' fun rule => forall_congr' fun member =>
        same rule member

section Selection

variable (nonempty : rules ≠ [])
variable (supported : ∀ rule ∈ rules, rule.isSupported = true)

include nonempty supported

theorem mem_selectEntriesToEvict {entryId : String} :
    entryId ∈ selectEntriesToEvictForRetention candidates rules evaluation
        skipPinned nowMs ↔
      Combined rules evaluation fun rule =>
        ∃ entry ∈ nonExempt candidates skipPinned, entry.entryId = entryId ∧
          Evicts nowMs candidates skipPinned entry rule := by
  have isSelection : selectEntriesToEvictForRetention candidates rules
      evaluation skipPinned nowMs = combineRuleSets evaluation
        (rules.filterMap (ruleSet nowMs (newestFirst candidates skipPinned))) :=
    rfl
  have someSet : rules.filterMap
      (ruleSet nowMs (newestFirst candidates skipPinned)) ≠ [] := by
    rcases List.exists_mem_of_ne_nil rules nonempty with ⟨rule, member⟩
    have hasSet : ∃ set, ruleSet nowMs (newestFirst candidates skipPinned)
        rule = some set := by
      rcases mem_ruleSet entryId (supported rule member) with ⟨set, isSet, _⟩
      exact ⟨set, isSet⟩
    rcases hasSet with ⟨set, isSet⟩
    exact List.ne_nil_of_mem (List.mem_filterMap.mpr ⟨rule, member, isSet⟩)
  rw [isSelection, mem_combineRuleSets someSet]
  cases evaluation with
  | anyMatch =>
      constructor
      · rintro ⟨set, isSet, inSet⟩
        rcases List.mem_filterMap.mp isSet with ⟨rule, member, isRule⟩
        rcases mem_ruleSet entryId (supported rule member) with
          ⟨same, isSame, spec⟩
        rw [isSame, Option.some.injEq] at isRule
        rw [← isRule] at inSet
        exact ⟨rule, member, spec.mp inSet⟩
      · rintro ⟨rule, member, evicts⟩
        rcases mem_ruleSet entryId (supported rule member) with
          ⟨set, isSet, spec⟩
        exact ⟨set, List.mem_filterMap.mpr ⟨rule, member, isSet⟩,
          spec.mpr evicts⟩
  | allMatch =>
      constructor
      · intro inAll rule member
        rcases mem_ruleSet entryId (supported rule member) with
          ⟨set, isSet, spec⟩
        exact spec.mp (inAll set
          (List.mem_filterMap.mpr ⟨rule, member, isSet⟩))
      · intro evicts set isSet
        rcases List.mem_filterMap.mp isSet with ⟨rule, member, isRule⟩
        rcases mem_ruleSet entryId (supported rule member) with
          ⟨same, isSame, spec⟩
        rw [isSame, Option.some.injEq] at isRule
        rw [← isRule]
        exact spec.mpr (evicts rule member)

variable (distinct : (candidates.map ClipboardEntry.entryId).Nodup)

include distinct

theorem isSelected_iff (member : entry ∈ nonExempt candidates skipPinned) :
    entry.entryId ∈ selectEntriesToEvictForRetention candidates rules
        evaluation skipPinned nowMs ↔
      Combined rules evaluation
        (Evicts nowMs candidates skipPinned entry) := by
  rw [mem_selectEntriesToEvict nonempty supported]
  apply Combined.congr
  intro rule _
  constructor
  · rintro ⟨other, otherMember, named, evicts⟩
    have same : other = entry := List.inj_on_of_nodup_map distinct
      (nonExempt_sublist.subset otherMember) (nonExempt_sublist.subset member)
      named
    rw [← same]
    exact evicts
  · intro evicts
    exact ⟨entry, member, rfl, evicts⟩

/-- Under each rule an entry takes the older ones with it. -/
theorem selectsOlder {entry older : ClipboardEntry}
    (member : entry ∈ nonExempt candidates skipPinned)
    (selected : entry.entryId ∈ selectEntriesToEvictForRetention candidates
      rules evaluation skipPinned nowMs)
    (olderMember : older ∈ nonExempt candidates skipPinned)
    (isOlder : older.createdAtMs < entry.createdAtMs) :
    older.entryId ∈ selectEntriesToEvictForRetention candidates rules
      evaluation skipPinned nowMs := by
  have evictsOlder : ∀ rule, Evicts nowMs candidates skipPinned entry rule →
      Evicts nowMs candidates skipPinned older rule := by
    intro rule evicts
    cases rule with
    | byAge maxAgeMs => exact isOlder.trans evicts
    | byCount maxItems =>
        have sorted : (newestFirst candidates skipPinned).Pairwise
            fun left right => right.createdAtMs ≤ left.createdAtMs :=
          newestFirst_pairwise
        have isThere := mem_newestFirst.mpr olderMember
        rw [← List.take_append_drop maxItems
          (newestFirst candidates skipPinned)] at sorted isThere
        rcases List.mem_append.mp isThere with kept | dropped
        · have notOlder := (List.pairwise_append.mp sorted).2.2 older kept
            entry evicts
          exact absurd isOlder (Int.not_lt.mpr notOlder)
        · exact dropped
    | byContentType maxAgeMs => exact evicts
    | byTotalSize maxBytes => exact evicts
    | sensitive maxAgeMs => exact evicts
  rw [isSelected_iff nonempty supported distinct member] at selected
  rw [isSelected_iff nonempty supported distinct olderMember]
  cases evaluation with
  | anyMatch =>
      rcases selected with ⟨rule, isRule, evicts⟩
      exact ⟨rule, isRule, evictsOlder rule evicts⟩
  | allMatch =>
      intro rule isRule
      exact evictsOlder rule (selected rule isRule)

theorem kept_le_maxItems {maxItems : Nat} (anyMatch : evaluation = .anyMatch)
    (isRule : .byCount maxItems ∈ rules) :
    ((nonExempt candidates skipPinned).filter fun entry =>
      decide (entry.entryId ∉ selectEntriesToEvictForRetention candidates rules
        evaluation skipPinned nowMs)).length ≤ maxItems := by
  have sameKept : ((newestFirst candidates skipPinned).filter fun entry =>
      decide (entry.entryId ∉ selectEntriesToEvictForRetention candidates rules
        evaluation skipPinned nowMs)).Perm
      ((nonExempt candidates skipPinned).filter fun entry =>
        decide (entry.entryId ∉ selectEntriesToEvictForRetention candidates
          rules evaluation skipPinned nowMs)) :=
    (List.perm_insertionSort _ _).filter _
  have droppedGo : ((newestFirst candidates skipPinned).drop maxItems).filter
      (fun entry => decide (entry.entryId ∉ selectEntriesToEvictForRetention
        candidates rules evaluation skipPinned nowMs)) = [] := by
    rw [List.filter_eq_nil_iff]
    intro entry dropped
    have member := mem_newestFirst.mp (List.mem_of_mem_drop dropped)
    rw [decide_eq_true_eq, not_not,
      isSelected_iff nonempty supported distinct member, anyMatch]
    exact ⟨_, isRule, dropped⟩
  rw [← sameKept.length_eq]
  nth_rewrite 1 [← List.take_append_drop maxItems
    (newestFirst candidates skipPinned)]
  rw [List.filter_append, droppedGo, List.append_nil]
  exact (List.length_filter_le _ _).trans (List.length_take_le _ _)

end Selection

/-! ## Durations that do not fit -/

/-- The milliseconds of the duration are above `i64::MAX`. -/
def IsLong : RetentionRule → Prop
  | .byAge maxAgeMs => 9223372036854775808 ≤ maxAgeMs
  | _ => False

variable (nowMs) in
def AboveLowBits (entry : ClipboardEntry) : RetentionRule → Prop
  | .byAge maxAgeMs =>
      entry.createdAtMs < saturatingSub nowMs (asI64 maxAgeMs)
  | _ => False

variable (nowMs candidates rules evaluation skipPinned) in
/-- A rule whose duration fits decides about the entry, or what is left of the
other durations decides as they do. -/
def LongRulesAgree (entry : ClipboardEntry) : Prop :=
  match evaluation with
  | .anyMatch =>
      (∃ rule ∈ rules, ¬ IsLong rule ∧
        Condemns nowMs candidates skipPinned entry rule) ∨
      ((∃ rule ∈ rules, IsLong rule ∧ AboveLowBits nowMs entry rule) ↔
        ∃ rule ∈ rules, IsLong rule ∧
          Condemns nowMs candidates skipPinned entry rule)
  | .allMatch =>
      (∃ rule ∈ rules, ¬ IsLong rule ∧
        ¬ Condemns nowMs candidates skipPinned entry rule) ∨
      ((∀ rule ∈ rules, IsLong rule → AboveLowBits nowMs entry rule) ↔
        ∀ rule ∈ rules, IsLong rule →
          Condemns nowMs candidates skipPinned entry rule)

/-- A time is an `i64`. -/
def IsI64 (value : Int) : Prop :=
  -9223372036854775808 ≤ value ∧ value < 9223372036854775808

theorem evicts_iff_condemns (isNow : IsI64 nowMs)
    (isCreated : IsI64 entry.createdAtMs) (fits : ¬ IsLong rule) :
    Evicts nowMs candidates skipPinned entry rule ↔
      Condemns nowMs candidates skipPinned entry rule := by
  cases rule with
  | byAge maxAgeMs =>
      have exactly : asI64 maxAgeMs = maxAgeMs := by
        unfold IsLong at fits
        unfold asI64
        rw [Int.bmod_eq_of_le (by omega) (by omega)]
      unfold IsI64 at isNow isCreated
      simp only [Evicts, Condemns, exactly, saturatingSub]
      omega
  | byCount maxItems => exact Iff.rfl
  | byContentType maxAgeMs => exact Iff.rfl
  | byTotalSize maxBytes => exact Iff.rfl
  | sensitive maxAgeMs => exact Iff.rfl

theorem evicts_iff_aboveLowBits (isLong : IsLong rule) :
    Evicts nowMs candidates skipPinned entry rule ↔
      AboveLowBits nowMs entry rule := by
  cases rule with
  | byAge maxAgeMs => exact Iff.rfl
  | byCount maxItems => cases isLong
  | byContentType maxAgeMs => cases isLong
  | byTotalSize maxBytes => cases isLong
  | sensitive maxAgeMs => cases isLong

theorem or_iff_or_left {first second third : Prop} :
    (first ∨ second ↔ first ∨ third) ↔ first ∨ (second ↔ third) := by
  tauto

theorem exists_split (holds : RetentionRule → Prop) :
    (∃ rule ∈ rules, holds rule) ↔
      (∃ rule ∈ rules, ¬ IsLong rule ∧ holds rule) ∨
        ∃ rule ∈ rules, IsLong rule ∧ holds rule := by
  constructor
  · rintro ⟨rule, member, isSo⟩
    by_cases isLong : IsLong rule
    · exact Or.inr ⟨rule, member, isLong, isSo⟩
    · exact Or.inl ⟨rule, member, isLong, isSo⟩
  · rintro (⟨rule, member, _, isSo⟩ | ⟨rule, member, _, isSo⟩)
    · exact ⟨rule, member, isSo⟩
    · exact ⟨rule, member, isSo⟩

theorem forall_split (holds : RetentionRule → Prop) :
    (∀ rule ∈ rules, holds rule) ↔
      (∀ rule ∈ rules, ¬ IsLong rule → holds rule) ∧
        ∀ rule ∈ rules, IsLong rule → holds rule := by
  constructor
  · intro isSo
    exact ⟨fun rule member _ => isSo rule member,
      fun rule member _ => isSo rule member⟩
  · rintro ⟨short, long⟩ rule member
    by_cases isLong : IsLong rule
    · exact long rule member isLong
    · exact short rule member isLong

theorem combined_iff_longRulesAgree (isNow : IsI64 nowMs)
    (isCreated : IsI64 entry.createdAtMs) :
    (Combined rules evaluation (Evicts nowMs candidates skipPinned entry) ↔
        Combined rules evaluation
          (Condemns nowMs candidates skipPinned entry)) ↔
      LongRulesAgree nowMs candidates rules evaluation skipPinned entry := by
  have short : ∀ rule, ¬ IsLong rule →
      (Evicts nowMs candidates skipPinned entry rule ↔
        Condemns nowMs candidates skipPinned entry rule) :=
    fun _ => evicts_iff_condemns isNow isCreated
  have long : ∀ rule, IsLong rule →
      (Evicts nowMs candidates skipPinned entry rule ↔
        AboveLowBits nowMs entry rule) :=
    fun _ => evicts_iff_aboveLowBits
  cases evaluation with
  | anyMatch =>
      have sameShort : (∃ rule ∈ rules, ¬ IsLong rule ∧
          Evicts nowMs candidates skipPinned entry rule) ↔
          ∃ rule ∈ rules, ¬ IsLong rule ∧
            Condemns nowMs candidates skipPinned entry rule :=
        exists_congr fun rule => and_congr_right fun _ =>
          and_congr_right (short rule)
      have sameLong : (∃ rule ∈ rules, IsLong rule ∧
          Evicts nowMs candidates skipPinned entry rule) ↔
          ∃ rule ∈ rules, IsLong rule ∧ AboveLowBits nowMs entry rule :=
        exists_congr fun rule => and_congr_right fun _ =>
          and_congr_right (long rule)
      unfold Combined LongRulesAgree
      simp only
      rw [exists_split (Evicts nowMs candidates skipPinned entry),
        exists_split (Condemns nowMs candidates skipPinned entry), sameShort,
        sameLong]
      exact or_iff_or_left
  | allMatch =>
      have sameShort : (∀ rule ∈ rules, ¬ IsLong rule →
          Evicts nowMs candidates skipPinned entry rule) ↔
          ¬ ∃ rule ∈ rules, ¬ IsLong rule ∧
            ¬ Condemns nowMs candidates skipPinned entry rule := by
        push Not
        exact forall_congr' fun rule => forall_congr' fun _ =>
          forall_congr' (short rule)
      have sameShort' : (∀ rule ∈ rules, ¬ IsLong rule →
          Condemns nowMs candidates skipPinned entry rule) ↔
          ¬ ∃ rule ∈ rules, ¬ IsLong rule ∧
            ¬ Condemns nowMs candidates skipPinned entry rule := by
        push Not
        exact Iff.rfl
      have sameLong : (∀ rule ∈ rules, IsLong rule →
          Evicts nowMs candidates skipPinned entry rule) ↔
          ∀ rule ∈ rules, IsLong rule → AboveLowBits nowMs entry rule :=
        forall_congr' fun rule => forall_congr' fun _ =>
          forall_congr' (long rule)
      unfold Combined LongRulesAgree
      simp only
      rw [forall_split (Evicts nowMs candidates skipPinned entry),
        forall_split (Condemns nowMs candidates skipPinned entry), sameShort,
        sameShort', sameLong, and_congr_right_iff, or_iff_not_imp_left]

/-- The entries that the enforcement selects are those that the rules condemn
exactly if none of them hangs on a duration that does not fit. -/
theorem retentionLaw_iff (nonempty : rules ≠ [])
    (supported : ∀ rule ∈ rules, rule.isSupported = true)
    (distinct : (candidates.map ClipboardEntry.entryId).Nodup)
    (isNow : IsI64 nowMs)
    (areCreated : ∀ entry ∈ candidates, IsI64 entry.createdAtMs) :
    RetentionLaw nowMs candidates rules evaluation skipPinned ↔
      ∀ entry ∈ nonExempt candidates skipPinned,
        LongRulesAgree nowMs candidates rules evaluation skipPinned entry := by
  have isSelected : ∀ entry ∈ nonExempt candidates skipPinned,
      (entry.entryId ∈ selectEntriesToEvictForRetention candidates rules
          evaluation skipPinned nowMs ↔
        Combined rules evaluation
          (Evicts nowMs candidates skipPinned entry)) :=
    fun _ => isSelected_iff nonempty supported distinct
  constructor
  · intro law entry member
    have isCreated := areCreated entry (nonExempt_sublist.subset member)
    rw [← combined_iff_longRulesAgree isNow isCreated,
      ← isSelected entry member]
    exact law.exactly entry member
  · intro agree
    refine {
      exactly := ?_
      onlyNonExempt := ?_
      olderToo := ?_
      limit := ?_ }
    · intro entry member
      have isCreated := areCreated entry (nonExempt_sublist.subset member)
      rw [isSelected entry member, combined_iff_longRulesAgree isNow isCreated]
      exact agree entry member
    · intro entryId selected
      rw [mem_selectEntriesToEvict nonempty supported] at selected
      rcases List.exists_mem_of_ne_nil rules nonempty with ⟨some, isRule⟩
      cases evaluation with
      | anyMatch =>
          rcases selected with ⟨_, _, entry, member, named, _⟩
          exact ⟨entry, member, named⟩
      | allMatch =>
          rcases selected some isRule with ⟨entry, member, named, _⟩
          exact ⟨entry, member, named⟩
    · intro entry member selected older olderMember isOlder
      exact selectsOlder nonempty supported distinct member selected
        olderMember isOlder
    · intro anyMatch maxItems isRule
      exact kept_le_maxItems nonempty supported distinct anyMatch isRule

end Law

/-! ## A policy of 292 million years -/

namespace Sample

def yesterdaysEntry : ClipboardEntry :=
  ⟨"yesterday", "event-1", 1767700800000, false⟩

def favorite : ClipboardEntry :=
  ⟨"favorite", "event-2", 1700000000000, true⟩

def todaysEntry : ClipboardEntry :=
  ⟨"today", "event-3", 1767787100000, false⟩

theorem areCreated : ∀ entry ∈ [yesterdaysEntry, favorite, todaysEntry],
    IsI64 entry.createdAtMs := by
  simp [IsI64, yesterdaysEntry, favorite, todaysEntry]

end Sample

open Sample

/-- Half a day, and at most one entry. -/
theorem halfDay_retentionLaw :
    RetentionLaw 1767787200000 [yesterdaysEntry, favorite, todaysEntry]
      [.byAge 43200000, .byCount 1] .allMatch true := by
  apply (retentionLaw_iff (by decide) (by decide) (by decide)
    (by simp [IsI64]) areCreated).mpr
  intro entry _
  right
  simp [IsLong]

/-- 9223372036854776 seconds, in milliseconds, are negative as an `i64`: the
entry of a minute ago is deleted. -/
theorem longDuration_not_retentionLaw :
    ¬ RetentionLaw 1767787200000 [todaysEntry] [.byAge 9223372036854776000]
      .anyMatch true := by
  intro law
  have selected : todaysEntry.entryId ∈ selectEntriesToEvictForRetention
      [todaysEntry] [.byAge 9223372036854776000] .anyMatch true
        1767787200000 := by
    decide
  rcases (law.exactly todaysEntry (by decide)).mp selected with
    ⟨rule, isRule, condemned⟩
  rw [List.mem_singleton] at isRule
  rw [isRule] at condemned
  exact absurd condemned (by simp [Condemns, todaysEntry])

end OpenClipboard.History
