import OpenClipboard.ActiveState.Register
import OpenClipboard.Library.Table
import OpenClipboard.Library.Transition

/-!
# The shadow reference of the register

Next to the register's content stands a sealed reference that limited consumers
read.  An advance overwrites it only with a reference of its own, a backfill
fills it only while it is empty, and a load clears it when it cannot be opened.
A load reads and clears in two steps, and everything else may come between.
-/

namespace OpenClipboard

open Transition

/-- What the cipher and the database answer to the rest of one load. -/
structure OpenEnv where
  /-- `self.cipher()`, with the `open` of the cipher it gives. -/
  cipher : Except ActiveClipboardRegisterError
    (List UInt8 → Except String MobileConsumableRef)
  clearFails : Bool

def sealReference (env : AdvanceEnv) (reference : MobileConsumableRef) :
    Except ActiveClipboardRegisterError (List UInt8) :=
  match env.cipher with
  | .error err => .error err
  | .ok sealing =>
      match sealing reference with
      | .error message => .error (.storage message)
      | .ok ciphertext => .ok ciphertext

def RegisterRow.awaits (row : RegisterRow) (reference : MobileConsumableRef) :
    Prop :=
  row.consumableRefCiphertext = none ∧
    row.snapshotHash = reference.snapshotHash ∧
    row.entryId = reference.entryId

instance decidableAwaits (row : RegisterRow)
    (reference : MobileConsumableRef) : Decidable (row.awaits reference) :=
  inferInstanceAs (Decidable (_ ∧ _ ∧ _))

def backfillMobileConsumableIfCurrent (env : AdvanceEnv)
    (current : Option RegisterRow) (reference : MobileConsumableRef) :
    Except ActiveClipboardRegisterError Bool × Option RegisterRow :=
  match sealReference env reference with
  | .error err => (.error err, current)
  | .ok ciphertext =>
      match env.storageFailure, current with
      | some message, current => (.error (.storage message), current)
      | none, none => (.ok false, none)
      | none, some row =>
          if row.awaits reference then
            (.ok true,
              some { row with consumableRefCiphertext := some ciphertext })
          else
            (.ok false, some row)

def shadowColumn (row : Option RegisterRow) : Option (List UInt8) :=
  row.bind RegisterRow.consumableRefCiphertext

/-- Clear the column if it still holds the bytes that could not be opened. -/
def clearUnreadable (row : Option RegisterRow) (ciphertext : List UInt8) :
    Option RegisterRow :=
  row.map fun row =>
    if row.consumableRefCiphertext = some ciphertext then
      { row with consumableRefCiphertext := none }
    else
      row

/-- The rest of `load_mobile_consumable`, once it has read a ciphertext. -/
def openShadow (env : OpenEnv) (row : Option RegisterRow)
    (ciphertext : List UInt8) :
    Except ActiveClipboardRegisterError (Option MobileConsumableRef) ×
      Option RegisterRow :=
  match env.cipher with
  | .error err => (.error err, row)
  | .ok opening =>
      match opening ciphertext with
      | .ok reference => (.ok (some reference), row)
      | .error _ =>
          (.ok none,
            if env.clearFails then row else clearUnreadable row ciphertext)

/-! ## Histories -/

/-- What a step did to the row. -/
inductive ShadowEvent where
  | advanced (state : ActiveClipboardState) (ciphertext : Option (List UInt8))
  | backfilled (row : RegisterRow) (reference : MobileConsumableRef)
      (ciphertext : List UInt8)
  | discarded
  | reset
  | kept
  deriving DecidableEq, Repr

/-- A reference that was put into the shadow, and the activation of the row it
was put there for. -/
structure CarriedRef where
  reference : MobileConsumableRef
  ciphertext : List UInt8
  activation : Activation
  deriving DecidableEq, Repr

/-- The reference carried last, unless it was discarded or the register reset
since; the latest event comes first. -/
def latestCarried : List ShadowEvent → Option CarriedRef
  | [] => none
  | .advanced state (some ciphertext) :: _ =>
      some ⟨⟨state.snapshotHash, state.entryId⟩, ciphertext, state.activation⟩
  | .backfilled row reference ciphertext :: _ =>
      some ⟨reference, ciphertext, row.activation⟩
  | .discarded :: _ => none
  | .reset :: _ => none
  | .advanced _ none :: earlier => latestCarried earlier
  | .kept :: earlier => latestCarried earlier

/-- The row, what the loads under way have read, and what has happened. -/
structure RegisterWorld where
  row : Option RegisterRow
  reads : Table Nat (List UInt8)
  log : List ShadowEvent

inductive RegisterAction where
  | advance (env : AdvanceEnv) (state : ActiveClipboardState)
      (mobileConsumable : Bool)
  | backfill (env : AdvanceEnv) (reference : MobileConsumableRef)
  | beginLoad (id : Nat)
  | finishLoad (id : Nat) (env : OpenEnv)
  | reset (storageFailure : Option String)

namespace RegisterWorld

def fresh : RegisterWorld := ⟨none, ∅, []⟩

def note (world : RegisterWorld) (row : Option RegisterRow)
    (event : ShadowEvent) : RegisterWorld :=
  { world with row := row, log := event :: world.log }

def advanceStep (world : RegisterWorld) (env : AdvanceEnv)
    (state : ActiveClipboardState) (mobileConsumable : Bool) : RegisterWorld :=
  match advance env world.row state mobileConsumable,
    sealConsumableRef env state mobileConsumable with
  | (.ok true, row), .ok sealedRef => world.note row (.advanced state sealedRef)
  | (_, row), _ => world.note row .kept

def backfillStep (world : RegisterWorld) (env : AdvanceEnv)
    (reference : MobileConsumableRef) : RegisterWorld :=
  match backfillMobileConsumableIfCurrent env world.row reference, world.row,
    sealReference env reference with
  | (.ok true, after), some row, .ok ciphertext =>
      world.note after (.backfilled row reference ciphertext)
  | (_, after), _, _ => world.note after .kept

/-- A load that has read nothing is over. -/
def beginLoadStep (world : RegisterWorld) (id : Nat) : RegisterWorld :=
  match shadowColumn world.row with
  | none => world
  | some ciphertext => { world with reads := world.reads.put id ciphertext }

def finishLoadStep (world : RegisterWorld) (id : Nat) (env : OpenEnv) :
    Option RegisterWorld :=
  (world.reads.find id).map fun ciphertext =>
    let after := (openShadow env world.row ciphertext).2
    { world with
      row := after
      reads := world.reads.remove id
      log := (if after = world.row then .kept else .discarded) :: world.log }

def step (world : RegisterWorld) : RegisterAction → Option RegisterWorld
  | .advance env state mobileConsumable =>
      some (world.advanceStep env state mobileConsumable)
  | .backfill env reference => some (world.backfillStep env reference)
  | .beginLoad id =>
      match world.reads.find id with
      | some _ => none
      | none => some (world.beginLoadStep id)
  | .finishLoad id env => world.finishLoadStep id env
  | .reset (some _) => some (world.note world.row .kept)
  | .reset none => some (world.note (resetRegister world.row) .reset)

def carried (world : RegisterWorld) : Option CarriedRef :=
  latestCarried world.log

end RegisterWorld

/-! ## What one step does -/

inductive ShadowEvent.Records (before : Option RegisterRow) :
    ShadowEvent → Option RegisterRow → Prop
  | advanced (state : ActiveClipboardState) (sealedRef : Option (List UInt8)) :
      shouldAdvance before state = true →
      ShadowEvent.Records before (.advanced state sealedRef)
        (some (advancedRow before state sealedRef))
  | backfilled (row : RegisterRow) (reference : MobileConsumableRef)
      (ciphertext : List UInt8) :
      before = some row → row.awaits reference →
      ShadowEvent.Records before (.backfilled row reference ciphertext)
        (some { row with consumableRefCiphertext := some ciphertext })
  | discarded (row : RegisterRow) :
      before = some row →
      ShadowEvent.Records before .discarded
        (some { row with consumableRefCiphertext := none })
  | reset : ShadowEvent.Records before .reset none
  | kept : ShadowEvent.Records before .kept before

/-- What may put a reference into the shadow: a winning advance of consumable
content, or a backfill of the current row, if that has none. -/
def RegisterAction.Carries (row : Option RegisterRow)
    (reference : MobileConsumableRef) : RegisterAction → Prop
  | .advance _ state mobileConsumable =>
      mobileConsumable = true ∧ shouldAdvance row state = true ∧
        reference = ⟨state.snapshotHash, state.entryId⟩
  | .backfill _ filled =>
      reference = filled ∧ ∃ current, row = some current ∧
        current.awaits filled
  | _ => False

/-- An advance that loses, or a backfill of what is not current or has a
shadow. -/
def RegisterAction.Loses (row : Option RegisterRow) : RegisterAction → Prop
  | .advance _ state _ => shouldAdvance row state = false
  | .backfill _ reference =>
      ∀ current, row = some current → ¬ current.awaits reference
  | _ => False

section Step

variable {world next : RegisterWorld} {action : RegisterAction}
variable {current after : Option RegisterRow} {state : ActiveClipboardState}
variable {env : AdvanceEnv} {mobileConsumable : Bool}

theorem advance_true
    (won : advance env current state mobileConsumable = (.ok true, after)) :
    ∃ sealedRef, sealConsumableRef env state mobileConsumable =
        .ok sealedRef ∧
      shouldAdvance current state = true ∧
      after = some (advancedRow current state sealedRef) := by
  unfold advance at won
  cases isSealed : sealConsumableRef env state mobileConsumable with
  | error err =>
      rw [isSealed] at won
      cases won
  | ok sealedRef =>
      rw [isSealed] at won
      simp only at won
      cases fails : env.storageFailure with
      | some message =>
          rw [fails] at won
          cases won
      | none =>
          rw [fails] at won
          simp only at won
          by_cases wins : shouldAdvance current state = true
          · rw [if_pos wins] at won
            cases won
            exact ⟨sealedRef, rfl, wins, rfl⟩
          · rw [if_neg wins] at won
            cases won

theorem sealConsumableRef_some {ciphertext : List UInt8}
    (isSealed : sealConsumableRef env state mobileConsumable =
      .ok (some ciphertext)) :
    mobileConsumable = true := by
  unfold sealConsumableRef at isSealed
  cases mobileConsumable with
  | true => rfl
  | false => cases isSealed

theorem advanceStep_cases :
    (∃ sealedRef, shouldAdvance world.row state = true ∧
        (∀ ciphertext, sealedRef = some ciphertext →
          mobileConsumable = true) ∧
        world.advanceStep env state mobileConsumable =
          world.note (some (advancedRow world.row state sealedRef))
            (.advanced state sealedRef)) ∨
      world.advanceStep env state mobileConsumable =
        world.note world.row .kept := by
  unfold RegisterWorld.advanceStep
  cases answered : advance env world.row state mobileConsumable with
  | mk result row =>
      by_cases won : result = .ok true
      · subst won
        obtain ⟨sealedRef, isSealed, wins, isAfter⟩ := advance_true answered
        left
        refine ⟨sealedRef, wins, ?_, ?_⟩
        · intro ciphertext isCiphertext
          rw [isCiphertext] at isSealed
          exact sealConsumableRef_some isSealed
        · rw [isSealed, isAfter]
      · right
        have same : row = world.row := by
          rcases advance_cases answered with
            ⟨_, _, kept⟩ | ⟨isWon, _⟩ | ⟨_, _, kept⟩
          · exact kept
          · exact (won isWon).elim
          · exact kept
        rw [same]
        split
        · rename_i isWon _
          cases isWon
          exact (won rfl).elim
        · rename_i samePair _
          cases samePair
          rfl

theorem backfillStep_cases {reference : MobileConsumableRef} :
    (∃ row ciphertext, world.row = some row ∧ row.awaits reference ∧
        world.backfillStep env reference =
          world.note (some { row with
              consumableRefCiphertext := some ciphertext })
            (.backfilled row reference ciphertext)) ∨
      world.backfillStep env reference = world.note world.row .kept := by
  unfold RegisterWorld.backfillStep backfillMobileConsumableIfCurrent
  cases sealReference env reference with
  | error err => exact Or.inr rfl
  | ok ciphertext =>
      cases env.storageFailure with
      | some message => exact Or.inr rfl
      | none =>
          cases isRow : world.row with
          | none => exact Or.inr rfl
          | some row =>
              simp only
              by_cases awaits : row.awaits reference
              · rw [if_pos awaits]
                exact Or.inl ⟨row, ciphertext, rfl, awaits, rfl⟩
              · rw [if_neg awaits]
                exact Or.inr rfl

theorem openShadow_cases (openEnv : OpenEnv) (row : Option RegisterRow)
    (ciphertext : List UInt8) :
    (openShadow openEnv row ciphertext).2 = row ∨
      ∃ current, row = some current ∧
        (openShadow openEnv row ciphertext).2 =
          some { current with consumableRefCiphertext := none } := by
  unfold openShadow
  split
  · exact Or.inl rfl
  · split
    · exact Or.inl rfl
    · simp only
      split
      · exact Or.inl rfl
      · unfold clearUnreadable
        cases row with
        | none => exact Or.inl rfl
        | some current =>
            rw [Option.map_some]
            split
            · exact Or.inr ⟨current, rfl, rfl⟩
            · exact Or.inl rfl

/-- A step leaves the row and the history, or records what it did to the row;
only what may carry a reference does, and what loses keeps the row. -/
theorem step_cases (stepped : world.step action = some next) :
    (next.row = world.row ∧ next.log = world.log) ∨
      ∃ event, next.log = event :: world.log ∧
        event.Records world.row next.row ∧
        (∀ carried, latestCarried (event :: world.log) = some carried →
          latestCarried world.log = some carried ∨
            action.Carries world.row carried.reference) ∧
        (action.Loses world.row → event = .kept) := by
  cases action with
  | advance env state mobileConsumable =>
      cases stepped
      right
      rcases advanceStep_cases with ⟨sealedRef, wins, consumable, same⟩ | same
      · rw [same]
        refine ⟨_, rfl, .advanced state sealedRef wins, ?_, ?_⟩
        · intro carried isCarried
          cases sealedRef with
          | none => exact Or.inl isCarried
          | some ciphertext =>
              cases isCarried
              exact Or.inr ⟨consumable ciphertext rfl, wins, rfl⟩
        · intro loses
          have lost : shouldAdvance world.row state = false := loses
          rw [wins] at lost
          cases lost
      · rw [same]
        exact ⟨_, rfl, .kept, fun _ isCarried => Or.inl isCarried, fun _ => rfl⟩
  | backfill env reference =>
      cases stepped
      right
      rcases backfillStep_cases with
        ⟨row, ciphertext, isRow, awaits, same⟩ | same
      · rw [same]
        refine ⟨_, rfl, .backfilled row reference ciphertext isRow awaits, ?_,
          ?_⟩
        · intro carried isCarried
          cases isCarried
          exact Or.inr ⟨rfl, row, isRow, awaits⟩
        · intro loses
          exact (loses row isRow awaits).elim
      · rw [same]
        exact ⟨_, rfl, .kept, fun _ isCarried => Or.inl isCarried, fun _ => rfl⟩
  | beginLoad id =>
      left
      simp only [RegisterWorld.step] at stepped
      split at stepped
      · cases stepped
      · cases stepped
        unfold RegisterWorld.beginLoadStep
        split
        · exact ⟨rfl, rfl⟩
        · exact ⟨rfl, rfl⟩
  | finishLoad id openEnv =>
      right
      obtain ⟨ciphertext, _, same⟩ := Option.map_eq_some_iff.mp stepped
      rw [← same]
      rcases openShadow_cases openEnv world.row ciphertext with
        isSame | ⟨row, isRow, isCleared⟩
      · simp only
        rw [if_pos isSame, isSame]
        exact ⟨_, rfl, .kept, fun _ isCarried => Or.inl isCarried, nofun⟩
      · simp only
        split
        · rename_i isSame
          rw [isSame]
          exact ⟨_, rfl, .kept, fun _ isCarried => Or.inl isCarried, nofun⟩
        · rw [isCleared]
          exact ⟨_, rfl, .discarded row isRow, nofun, nofun⟩
  | reset storageFailure =>
      right
      cases storageFailure with
      | some message =>
          cases stepped
          exact ⟨_, rfl, .kept, fun _ isCarried => Or.inl isCarried, nofun⟩
      | none =>
          cases stepped
          exact ⟨_, rfl, .reset, nofun, nofun⟩

end Step

/-! ## Over whole runs -/

/-- The shadow holds what was carried last, for a row no newer than the one that
is current, and every backfill was of a row that awaited it. -/
structure HoldsLatest (world : RegisterWorld) : Prop where
  column : shadowColumn world.row =
    world.carried.map CarriedRef.ciphertext
  notNewer : ∀ carried, world.carried = some carried →
    ∃ row, world.row = some row ∧
      carried.activation.key ≤ row.activation.key
  awaited : ∀ row reference ciphertext,
    ShadowEvent.backfilled row reference ciphertext ∈ world.log →
      row.awaits reference

theorem holdsLatest_fresh : HoldsLatest RegisterWorld.fresh where
  column := rfl
  notNewer := nofun
  awaited := nofun

section Run

variable {world next : RegisterWorld} {action : RegisterAction}
variable {event : ShadowEvent}

theorem advancedRow_activation (current : Option RegisterRow)
    (state : ActiveClipboardState) (sealedRef : Option (List UInt8)) :
    (advancedRow current state sealedRef).activation = state.activation :=
  rfl

theorem advancedRow_shadow (current : Option RegisterRow)
    (state : ActiveClipboardState) (sealedRef : Option (List UInt8)) :
    (advancedRow current state sealedRef).consumableRefCiphertext =
      sealedRef.or (shadowColumn current) := by
  cases current with
  | none => cases sealedRef <;> rfl
  | some row => cases sealedRef <;> rfl

theorem HoldsLatest.step (holds : HoldsLatest world)
    (isLog : next.log = event :: world.log)
    (records : event.Records world.row next.row) : HoldsLatest next := by
  have earlier : ∀ row reference ciphertext,
      ShadowEvent.backfilled row reference ciphertext ∈ next.log →
        event ≠ .backfilled row reference ciphertext →
          row.awaits reference := by
    intro row reference ciphertext member other
    rw [isLog] at member
    rcases List.mem_cons.mp member with isEvent | before
    · exact (other isEvent.symm).elim
    · exact holds.awaited row reference ciphertext before
  have isCarried : next.carried = latestCarried (event :: world.log) :=
    congrArg latestCarried isLog
  generalize isAfter : next.row = after at records
  cases records with
  | advanced state sealedRef wins =>
      refine ⟨?_, ?_, fun row reference ciphertext member =>
        earlier row reference ciphertext member nofun⟩
      · rw [isCarried, isAfter]
        have column : shadowColumn (some (advancedRow world.row state
            sealedRef)) = sealedRef.or (shadowColumn world.row) :=
          advancedRow_shadow world.row state sealedRef
        rw [column]
        cases sealedRef with
        | none =>
            rw [Option.none_or]
            exact holds.column
        | some ciphertext => rfl
      · intro carried isLatest
        refine ⟨_, isAfter, ?_⟩
        rw [advancedRow_activation]
        rw [isCarried] at isLatest
        cases sealedRef with
        | none =>
            obtain ⟨row, isRow, notNewer⟩ := holds.notNewer carried isLatest
            rw [isRow] at wins
            exact notNewer.trans ((shouldAdvance_some_iff row state).mp wins).le
        | some ciphertext =>
            cases isLatest
            exact le_rfl
  | backfilled row reference ciphertext isRow awaits =>
      refine ⟨?_, ?_, ?_⟩
      · rw [isCarried, isAfter]
        rfl
      · intro carried isLatest
        rw [isCarried] at isLatest
        cases isLatest
        exact ⟨_, isAfter, le_rfl⟩
      · intro other otherRef otherBytes member
        by_cases same : ShadowEvent.backfilled row reference ciphertext =
            .backfilled other otherRef otherBytes
        · cases same
          exact awaits
        · exact earlier other otherRef otherBytes member same
  | discarded row isRow =>
      refine ⟨?_, ?_, fun row reference ciphertext member =>
        earlier row reference ciphertext member nofun⟩
      · rw [isCarried, isAfter]
        rfl
      · intro carried isLatest
        rw [isCarried] at isLatest
        cases isLatest
  | reset =>
      refine ⟨?_, ?_, fun row reference ciphertext member =>
        earlier row reference ciphertext member nofun⟩
      · rw [isCarried, isAfter]
        rfl
      · intro carried isLatest
        rw [isCarried] at isLatest
        cases isLatest
  | kept =>
      refine ⟨?_, ?_, fun row reference ciphertext member =>
        earlier row reference ciphertext member nofun⟩
      · rw [isCarried, isAfter]
        exact holds.column
      · intro carried isLatest
        rw [isCarried] at isLatest
        rw [isAfter]
        exact holds.notNewer carried isLatest

theorem HoldsLatest.of_same (holds : HoldsLatest world)
    (sameRow : next.row = world.row) (sameLog : next.log = world.log) :
    HoldsLatest next := by
  have sameCarried : next.carried = world.carried :=
    congrArg latestCarried sameLog
  refine ⟨?_, ?_, ?_⟩
  · rw [sameRow, sameCarried]
    exact holds.column
  · rw [sameRow, sameCarried]
    exact holds.notNewer
  · rw [sameLog]
    exact holds.awaited

theorem HoldsLatest.replaced (holds : HoldsLatest world)
    (records : event.Records world.row next.row) {before after : CarriedRef}
    (isBefore : world.carried = some before)
    (isAfter : latestCarried (event :: world.log) = some after) :
    after = before ∨ before.activation.key < after.activation.key := by
  obtain ⟨row, isRow, notNewer⟩ := holds.notNewer before isBefore
  have unchanged (same : latestCarried (event :: world.log) = world.carried) :
      after = before := by
    rw [isAfter, isBefore] at same
    exact Option.some.inj same
  generalize next.row = written at records
  cases records with
  | advanced state sealedRef wins =>
      cases sealedRef with
      | none => exact Or.inl (unchanged rfl)
      | some ciphertext =>
          cases isAfter
          right
          rw [isRow] at wins
          exact notNewer.trans_lt ((shouldAdvance_some_iff row state).mp wins)
  | backfilled filled reference ciphertext isFilled awaits =>
      -- A row that has a shadow awaits none.
      exfalso
      have column := holds.column
      rw [isBefore, isFilled] at column
      have isEmpty : shadowColumn (some filled) = none := awaits.1
      rw [isEmpty] at column
      cases column
  | discarded _ _ => cases isAfter
  | reset => cases isAfter
  | kept => exact Or.inl (unchanged rfl)

end Run

/-- Along every run the shadow is empty or the reference that was carried last
and neither discarded nor reset away since; only a winning advance with a
reference or a backfill of a current row without one puts a reference there,
none is replaced by an older one, and what loses leaves the row. -/
theorem shadow_holdsLatest (actions : List RegisterAction)
    (world : RegisterWorld)
    (executed : execute RegisterWorld.step RegisterWorld.fresh actions =
      some world) :
    shadowColumn world.row = world.carried.map CarriedRef.ciphertext ∧
      (∀ row reference ciphertext,
        ShadowEvent.backfilled row reference ciphertext ∈ world.log →
          row.awaits reference) ∧
      ∀ action next, world.step action = some next →
        (∀ carried, next.carried = some carried →
          world.carried = some carried ∨
            action.Carries world.row carried.reference) ∧
        (∀ before after, world.carried = some before →
          next.carried = some after →
            after = before ∨ before.activation.key < after.activation.key) ∧
        (action.Loses world.row → next.row = world.row) := by
  have ran : Run RegisterWorld.step anyAction RegisterWorld.fresh world :=
    Run.ofExecute (guarded_anyAction _ _ _) executed
  have holds : HoldsLatest world := by
    apply ran.preserves holdsLatest_fresh
    intro before action after holds _ stepped
    rcases step_cases stepped with
      ⟨sameRow, sameLog⟩ | ⟨event, isLog, records, _⟩
    · exact holds.of_same sameRow sameLog
    · exact holds.step isLog records
  refine ⟨holds.column, holds.awaited, ?_⟩
  intro action next stepped
  rcases step_cases stepped with ⟨sameRow, sameLog⟩ |
      ⟨event, isLog, records, carries, keeps⟩
  · have sameCarried : next.carried = world.carried :=
      congrArg latestCarried sameLog
    rw [sameCarried]
    refine ⟨fun _ isCarried => Or.inl isCarried, ?_, fun _ => sameRow⟩
    intro before after isBefore isAfter
    rw [isBefore] at isAfter
    exact Or.inl (Option.some.inj isAfter).symm
  · have isCarried : next.carried = latestCarried (event :: world.log) :=
      congrArg latestCarried isLog
    rw [isCarried]
    refine ⟨carries, ?_, ?_⟩
    · intro before after isBefore isAfter
      exact holds.replaced records isBefore isAfter
    · intro loses
      rw [keeps loses] at records
      generalize next.row = written at records ⊢
      cases records
      rfl

namespace RegisterWorld.Sample

def state (hash entry : String) (activatedAtMs : Int) :
    ActiveClipboardState where
  snapshotHash := hash
  entryId := ⟨entry⟩
  activatedAtMs := activatedAtMs
  activatedBy := ⟨"desk", by decide⟩

/-- A cipher that seals to the same bytes whatever the reference is. -/
def sealsTo (ciphertext : List UInt8) : AdvanceEnv where
  cipher := .ok fun _ => .ok ciphertext
  storageFailure := none

def opensNothing : OpenEnv where
  cipher := .ok fun _ => .error "open failed"
  clearFails := false

/-- A load reads a reference that it cannot open, and another advance wins
before it clears what it has read. -/
def discardRace : List RegisterAction :=
  [.advance (sealsTo [1]) (state "first" "entry-first" 1) true, .beginLoad 0,
    .advance (sealsTo [2]) (state "next" "entry-next" 2) true,
    .finishLoad 0 opensNothing]

end RegisterWorld.Sample

open RegisterWorld.Sample in
theorem discardRace_keepsNext :
    ∃ world, execute RegisterWorld.step RegisterWorld.fresh discardRace =
        some world ∧
      shadowColumn world.row = some [2] ∧
      world.carried.map CarriedRef.reference =
        some ⟨"next", ⟨"entry-next"⟩⟩ := by
  have ran : (execute RegisterWorld.step RegisterWorld.fresh discardRace).map
      RegisterWorld.carried =
        some (some ⟨⟨"next", ⟨"entry-next"⟩⟩, [2],
          (state "next" "entry-next" 2).activation⟩) := by
    decide
  obtain ⟨world, executed, carried⟩ := Option.map_eq_some_iff.mp ran
  have column := (shadow_holdsLatest discardRace world executed).1
  rw [carried] at column
  exact ⟨world, executed, column, by rw [carried]; rfl⟩

end OpenClipboard
