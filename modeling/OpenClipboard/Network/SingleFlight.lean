import OpenClipboard.Library.Table
import OpenClipboard.Library.Transition

/-!
# Single-flight dialling

Concurrent dispatches to one device share one dial.  The first takes the
device's slot, dials, removes the slot and broadcasts what came of it; the
others wait for the broadcast.  No guard object removes the slot of a leader
that is aborted.
-/

namespace OpenClipboard.ClipboardDispatch

open Transition

universe u

abbrev DialResult (Connection : Type u) := Except String Connection

variable {Connection : Type u}

/-- How far a dispatch has come in `dial_single_flight`. -/
inductive Phase (Connection : Type u) where
  | lookup
  | dial
  | markOffline (err : String)
  | removeSlot (result : DialResult Connection)
  | send (result : DialResult Connection)
  | recv (leader : Nat)
  | led (result : DialResult Connection)
  | followed (leader : Nat) (result : DialResult Connection)
  | aborted (stopped : Phase Connection)

structure Call (Connection : Type u) where
  target : String
  phase : Phase Connection

/-- A channel is known by the call that made it, so a slot holds a call.
`failed` and `marked` record the failed dials and the runs of `mark_offline`. -/
structure Adapter (Connection : Type u) where
  inFlightDials : Table String Nat
  calls : Table Nat (Call Connection)
  failed : List (Nat × String)
  marked : List (Nat × String)

def Adapter.empty : Adapter Connection := ⟨∅, ∅, [], []⟩

def Adapter.goto (adapter : Adapter Connection) (call : Nat) (target : String)
    (phase : Phase Connection) : Adapter Connection :=
  { adapter with calls := adapter.calls.put call ⟨target, phase⟩ }

/-- The dispatch is past its last step. -/
def Phase.Over : Phase Connection → Bool
  | .led _ | .followed _ _ | .aborted _ => true
  | _ => false

/-- Every sender of the channel is dropped: the leader's and the slot's. -/
def Adapter.closed (adapter : Adapter Connection) (leader : Nat) : Bool :=
  (match adapter.calls.find leader with
    | some call => call.phase.Over
    | none => true) &&
  adapter.inFlightDials.rows.all fun slot => slot.2 != leader

def lostLeader : String :=
  "single-flight follower lost leader broadcast: channel closed"

/-- One step of a dispatch; `outcome` is what a dial comes to.  A follower
waits while nothing is sent and a sender is left. -/
def advance (adapter : Adapter Connection) (call : Nat) (target : String)
    (outcome : DialResult Connection) :
    Phase Connection → Option (Adapter Connection)
  | .lookup =>
      match adapter.inFlightDials.find target with
      | some leader => some (adapter.goto call target (.recv leader))
      | none =>
          some ({ adapter with
            inFlightDials := adapter.inFlightDials.put target call }.goto
              call target .dial)
  | .dial =>
      match outcome with
      | .error err =>
          some ({ adapter with
            failed := (call, target) :: adapter.failed }.goto
              call target (.markOffline err))
      | .ok connection =>
          some (adapter.goto call target (.removeSlot (.ok connection)))
  | .markOffline err =>
      some ({ adapter with
        marked := (call, target) :: adapter.marked }.goto
          call target (.removeSlot (.error err)))
  | .removeSlot result =>
      some ({ adapter with
        inFlightDials := adapter.inFlightDials.remove target }.goto
          call target (.send result))
  | .send result => some (adapter.goto call target (.led result))
  | .recv leader =>
      match adapter.calls.find leader with
      | some ⟨_, .led result⟩ =>
          some (adapter.goto call target (.followed leader result))
      | _ =>
          if adapter.closed leader then
            some (adapter.goto call target
              (.followed leader (.error lostLeader)))
          else none
  | .led _ | .followed _ _ | .aborted _ => none

/-- The phases in which a dispatch awaits something; nothing is awaited between
the removal of the slot and the broadcast. -/
def Phase.Awaits : Phase Connection → Bool
  | .lookup | .dial | .markOffline _ | .removeSlot _ | .recv _ => true
  | _ => false

inductive Action (Connection : Type u) where
  | dispatch (call : Nat) (target : String)
  | advance (call : Nat) (outcome : DialResult Connection)
  | abort (call : Nat)

def step (adapter : Adapter Connection) :
    Action Connection → Option (Adapter Connection)
  | .dispatch call target =>
      match adapter.calls.find call with
      | some _ => none
      | none => some (adapter.goto call target .lookup)
  | .advance call outcome =>
      match adapter.calls.find call with
      | some ⟨target, phase⟩ => advance adapter call target outcome phase
      | none => none
  | .abort call =>
      match adapter.calls.find call with
      | some ⟨target, phase⟩ =>
          if phase.Awaits then
            some (adapter.goto call target (.aborted phase))
          else none
      | none => none

/-! ## What holds between the steps -/

/-- The dispatch has put its slot and has not removed it. -/
def Phase.HoldsSlot : Phase Connection → Prop
  | .dial | .markOffline _ | .removeSlot _ => True
  | .aborted stopped => stopped.HoldsSlot
  | _ => False

/-- A subscriber of the dispatch can still hear of it, or waits at its slot. -/
def Phase.Subscribed : Phase Connection → Prop
  | .send _ | .led _ => True
  | phase => phase.HoldsSlot

def isError : DialResult Connection → Nat
  | .error _ => 1
  | .ok _ => 0

def Phase.failures : Phase Connection → Nat
  | .markOffline _ => 1
  | .removeSlot result | .send result | .led result => isError result
  | .aborted stopped => stopped.failures
  | _ => 0

/-- Its runs of `mark_offline`. -/
def Phase.marks : Phase Connection → Nat
  | .removeSlot result | .send result | .led result => isError result
  | .aborted stopped => stopped.marks
  | _ => 0

/-- A number read off the dispatch, if it is one to the device. -/
def Adapter.tally (adapter : Adapter Connection)
    (count : Phase Connection → Nat) (entry : Nat × String) : Nat :=
  match adapter.calls.find entry.1 with
  | some call => if call.target = entry.2 then count call.phase else 0
  | none => 0

structure Sound (adapter : Adapter Connection) : Prop where
  slots : ∀ target call, adapter.inFlightDials.find target = some call ↔
    ∃ phase, adapter.calls.find call = some ⟨target, phase⟩ ∧ phase.HoldsSlot
  subscribed : ∀ call target leader,
    adapter.calls.find call = some ⟨target, .recv leader⟩ →
      ∃ phase, adapter.calls.find leader = some ⟨target, phase⟩ ∧
        phase.Subscribed
  verdicts : ∀ call target leader result,
    adapter.calls.find call = some ⟨target, .followed leader result⟩ →
      adapter.calls.find leader = some ⟨target, .led result⟩
  failures : ∀ entry,
    adapter.failed.count entry = adapter.tally Phase.failures entry
  marks : ∀ entry,
    adapter.marked.count entry = adapter.tally Phase.marks entry

theorem sound_empty : Sound (Adapter.empty : Adapter Connection) := by
  have noCall : ∀ call,
      (Adapter.empty : Adapter Connection).calls.find call = none :=
    fun _ => Table.find_empty
  constructor
  · intro target call
    constructor
    · intro found
      have noSlot : (Adapter.empty : Adapter Connection).inFlightDials.find
          target = none := Table.find_empty
      rw [noSlot] at found
      cases found
    · rintro ⟨phase, called, _⟩
      rw [noCall call] at called
      cases called
  · intro call target leader called
    rw [noCall call] at called
    cases called
  · intro call target leader result called
    rw [noCall call] at called
    cases called
  · intro entry
    unfold Adapter.tally
    rw [noCall entry.1]
    rfl
  · intro entry
    unfold Adapter.tally
    rw [noCall entry.1]
    rfl

/-- One dispatch goes from a phase to the next; what else there is stays. -/
structure Moved (call : Nat) (target : String) (phase next : Phase Connection)
    (before after : Adapter Connection) : Prop where
  called : before.calls.find call = some ⟨target, phase⟩
  calls : after.calls = before.calls.put call ⟨target, next⟩
  slotsElsewhere : ∀ other leader, leader ≠ call →
    (after.inFlightDials.find other = some leader ↔
      before.inFlightDials.find other = some leader)
  slotsOwn : ∀ other, after.inFlightDials.find other = some call ↔
    other = target ∧ next.HoldsSlot
  notLed : ∀ result, phase ≠ .led result
  stays : phase.Subscribed → next.Subscribed
  receives : ∀ leader, next = .recv leader →
    ∃ lead, before.calls.find leader = some ⟨target, lead⟩ ∧
      lead.Subscribed
  follows : ∀ leader result, next = .followed leader result →
    before.calls.find leader = some ⟨target, .led result⟩
  failuresElsewhere : ∀ entry, entry ≠ (call, target) →
    after.failed.count entry = before.failed.count entry
  failuresOwn : after.failed.count (call, target) = next.failures
  marksElsewhere : ∀ entry, entry ≠ (call, target) →
    after.marked.count entry = before.marked.count entry
  marksOwn : after.marked.count (call, target) = next.marks

variable {call : Nat} {target : String} {phase next : Phase Connection}
variable {before after : Adapter Connection}

namespace Moved

theorem find_own (moved : Moved call target phase next before after) :
    after.calls.find call = some ⟨target, next⟩ := by
  rw [moved.calls]
  exact Table.find_put_self

theorem find_other (moved : Moved call target phase next before after)
    {other : Nat} (different : other ≠ call) :
    after.calls.find other = before.calls.find other := by
  rw [moved.calls]
  exact Table.find_put_of_ne different

theorem tally_own (moved : Moved call target phase next before after)
    (count : Phase Connection → Nat) :
    after.tally count (call, target) = count next := by
  unfold Adapter.tally
  rw [moved.find_own]
  exact if_pos rfl

theorem tally_other (moved : Moved call target phase next before after)
    (count : Phase Connection → Nat) {entry : Nat × String}
    (different : entry ≠ (call, target)) :
    after.tally count entry = before.tally count entry := by
  unfold Adapter.tally
  by_cases same : entry.1 = call
  · have isOther : ¬ target = entry.2 := by
      intro sameTarget
      exact different (Prod.ext same sameTarget.symm)
    rw [same, moved.find_own, moved.called]
    exact (if_neg isOther).trans (if_neg isOther).symm
  · rw [moved.find_other same]

theorem sound (moved : Moved call target phase next before after)
    (isSound : Sound before) : Sound after := by
  constructor
  · intro other leader
    by_cases same : leader = call
    · subst same
      rw [moved.slotsOwn, moved.find_own]
      constructor
      · rintro ⟨rfl, holds⟩
        exact ⟨next, rfl, holds⟩
      · rintro ⟨found, isFound, holds⟩
        cases isFound
        exact ⟨rfl, holds⟩
    · rw [moved.slotsElsewhere other leader same, moved.find_other same]
      exact isSound.slots other leader
  · -- A leader that has moved is still one to wait for.
    have stays : ∀ leader device lead,
        before.calls.find leader = some ⟨device, lead⟩ → lead.Subscribed →
          ∃ later, after.calls.find leader = some ⟨device, later⟩ ∧
            later.Subscribed := by
      intro leader device lead called subscribed
      by_cases same : leader = call
      · subst same
        rw [moved.called] at called
        cases called
        exact ⟨next, moved.find_own, moved.stays subscribed⟩
      · rw [moved.find_other same]
        exact ⟨lead, called, subscribed⟩
    intro other device leader called
    by_cases same : other = call
    · subst same
      rw [moved.find_own] at called
      cases called
      rcases moved.receives leader rfl with ⟨lead, isLead, subscribed⟩
      exact stays leader target lead isLead subscribed
    · rw [moved.find_other same] at called
      rcases isSound.subscribed other device leader called with
        ⟨lead, isLead, subscribed⟩
      exact stays leader device lead isLead subscribed
  · have stays : ∀ leader device result,
        before.calls.find leader = some ⟨device, .led result⟩ →
          after.calls.find leader = some ⟨device, .led result⟩ := by
      intro leader device result called
      have different : leader ≠ call := by
        rintro rfl
        rw [moved.called] at called
        cases called
        exact moved.notLed result rfl
      rw [moved.find_other different]
      exact called
    intro other device leader result called
    by_cases same : other = call
    · subst same
      rw [moved.find_own] at called
      cases called
      exact stays leader target result (moved.follows leader result rfl)
    · rw [moved.find_other same] at called
      exact stays leader device result
        (isSound.verdicts other device leader result called)
  · intro entry
    by_cases same : entry = (call, target)
    · rw [same, moved.failuresOwn, moved.tally_own]
    · rw [moved.failuresElsewhere entry same, moved.tally_other _ same]
      exact isSound.failures entry
  · intro entry
    by_cases same : entry = (call, target)
    · rw [same, moved.marksOwn, moved.tally_own]
    · rw [moved.marksElsewhere entry same, moved.tally_other _ same]
      exact isSound.marks entry

end Moved

namespace Sound

variable (isSound : Sound before)
  (called : before.calls.find call = some ⟨target, phase⟩)
include isSound called

theorem slots_own (other : String) :
    before.inFlightDials.find other = some call ↔
      other = target ∧ phase.HoldsSlot := by
  rw [isSound.slots, called]
  constructor
  · rintro ⟨found, isFound, holds⟩
    cases isFound
    exact ⟨rfl, holds⟩
  · rintro ⟨rfl, holds⟩
    exact ⟨phase, rfl, holds⟩

theorem failures_own :
    before.failed.count (call, target) = phase.failures := by
  rw [isSound.failures, Adapter.tally, called]
  exact if_pos rfl

theorem marks_own :
    before.marked.count (call, target) = phase.marks := by
  rw [isSound.marks, Adapter.tally, called]
  exact if_pos rfl

theorem moved_goto (next : Phase Connection)
    (sameSlot : phase.HoldsSlot ↔ next.HoldsSlot)
    (notLed : ∀ result, phase ≠ .led result)
    (stays : phase.Subscribed → next.Subscribed)
    (receives : ∀ leader, next = .recv leader →
      ∃ lead, before.calls.find leader = some ⟨target, lead⟩ ∧
        lead.Subscribed)
    (follows : ∀ leader result, next = .followed leader result →
      before.calls.find leader = some ⟨target, .led result⟩)
    (sameFailures : phase.failures = next.failures)
    (sameMarks : phase.marks = next.marks) :
    Moved call target phase next before (before.goto call target next) where
  called := called
  calls := rfl
  slotsElsewhere _ _ _ := Iff.rfl
  slotsOwn other := by
    rw [← sameSlot]
    exact isSound.slots_own called other
  notLed := notLed
  stays := stays
  receives := receives
  follows := follows
  failuresElsewhere _ _ := rfl
  failuresOwn := (isSound.failures_own called).trans sameFailures
  marksElsewhere _ _ := rfl
  marksOwn := (isSound.marks_own called).trans sameMarks

end Sound

theorem not_closed {leader : Nat} {lead : Phase Connection}
    (isSound : Sound before)
    (isLead : before.calls.find leader = some ⟨target, lead⟩)
    (subscribed : lead.Subscribed) (notLed : ∀ result, lead ≠ .led result) :
    before.closed leader = false := by
  unfold Adapter.closed
  rw [isLead, Bool.and_eq_false_iff]
  cases isOver : lead.Over with
  | false => exact Or.inl isOver
  | true =>
      refine Or.inr ?_
      have holds : lead.HoldsSlot := by
        cases lead with
        | led result => exact absurd rfl (notLed result)
        | followed other result => exact absurd subscribed id
        | aborted stopped => exact subscribed
        | lookup => cases isOver
        | dial => cases isOver
        | markOffline err => cases isOver
        | removeSlot result => cases isOver
        | send result => cases isOver
        | recv other => cases isOver
      have inSlot := (isSound.slots target leader).mpr ⟨lead, isLead, holds⟩
      rw [List.all_eq_false]
      refine ⟨(target, leader), Table.mem_rows_iff.mpr inSlot, ?_⟩
      rw [bne_self_eq_false]
      exact Bool.false_ne_true

theorem advance_moved {outcome : DialResult Connection} (isSound : Sound before)
    (called : before.calls.find call = some ⟨target, phase⟩)
    (stepped : advance before call target outcome phase = some after) :
    ∃ next, Moved call target phase next before after ∧
      ∀ stopped, next ≠ .aborted stopped := by
  have ownSlot := isSound.slots_own called
  have ownFailures := isSound.failures_own called
  have ownMarks := isSound.marks_own called
  cases phase with
  | lookup =>
      simp only [advance] at stepped
      cases isSlot : before.inFlightDials.find target with
      | some leader =>
          rw [isSlot] at stepped
          cases stepped
          rcases (isSound.slots target leader).mp isSlot with
            ⟨lead, isLead, holds⟩
          have subscribed : lead.Subscribed := by
            cases lead with
            | send result => trivial
            | led result => trivial
            | _ => exact holds
          refine ⟨.recv leader, isSound.moved_goto called _ Iff.rfl nofun
            (absurd · id) ?_ nofun rfl rfl, nofun⟩
          intro other isOther
          cases isOther
          exact ⟨lead, isLead, subscribed⟩
      | none =>
          rw [isSlot] at stepped
          cases stepped
          refine ⟨.dial, ⟨called, rfl, ?_, ?_, nofun, fun _ => trivial, nofun,
            nofun, fun _ _ => rfl, ownFailures, fun _ _ => rfl, ownMarks⟩,
            nofun⟩
          · intro other leader different
            show (before.inFlightDials.put target call).find other = _ ↔ _
            by_cases same : other = target
            · rw [same, Table.find_put_self, isSlot]
              constructor
              · intro isCall
                exact absurd (Option.some.inj isCall).symm different
              · exact nofun
            · rw [Table.find_put_of_ne same]
          · intro other
            show (before.inFlightDials.put target call).find other = _ ↔ _
            by_cases same : other = target
            · rw [same, Table.find_put_self]
              exact iff_of_true rfl ⟨rfl, trivial⟩
            · rw [Table.find_put_of_ne same, ownSlot]
              constructor
              · rintro ⟨isTarget, _⟩
                exact absurd isTarget same
              · rintro ⟨isTarget, _⟩
                exact absurd isTarget same
  | dial =>
      cases outcome with
      | error err =>
          cases stepped
          refine ⟨.markOffline err, ⟨called, rfl, fun _ _ _ => Iff.rfl, ownSlot,
            nofun, fun _ => trivial, nofun, nofun, ?_, ?_, fun _ _ => rfl,
            ownMarks⟩, nofun⟩
          · intro entry different
            exact List.count_cons_of_ne different.symm
          · show ((call, target) :: before.failed).count (call, target) = 1
            rw [List.count_cons_self, ownFailures]
            rfl
      | ok connection =>
          cases stepped
          exact ⟨.removeSlot (.ok connection), isSound.moved_goto called _
            Iff.rfl nofun (fun _ => trivial) nofun nofun rfl rfl, nofun⟩
  | markOffline err =>
      cases stepped
      refine ⟨.removeSlot (.error err), ⟨called, rfl, fun _ _ _ => Iff.rfl,
        ownSlot, nofun, fun _ => trivial, nofun, nofun, fun _ _ => rfl,
        ownFailures, ?_, ?_⟩, nofun⟩
      · intro entry different
        exact List.count_cons_of_ne different.symm
      · show ((call, target) :: before.marked).count (call, target) = 1
        rw [List.count_cons_self, ownMarks]
        rfl
  | removeSlot result =>
      cases stepped
      refine ⟨.send result, ⟨called, rfl, ?_, ?_, nofun, fun _ => trivial,
        nofun, nofun, fun _ _ => rfl, ownFailures, fun _ _ => rfl, ownMarks⟩,
        nofun⟩
      · intro other leader different
        show (before.inFlightDials.remove target).find other = _ ↔ _
        rw [Table.find_remove]
        by_cases same : other = target
        · rw [if_pos same, same, (ownSlot target).mpr ⟨rfl, trivial⟩]
          constructor
          · exact nofun
          · intro isCall
            exact absurd (Option.some.inj isCall).symm different
        · rw [if_neg same]
      · intro other
        show (before.inFlightDials.remove target).find other = _ ↔ _
        rw [Table.find_remove]
        by_cases same : other = target
        · rw [if_pos same]
          exact iff_of_false nofun fun own => own.2
        · rw [if_neg same, ownSlot]
          exact iff_of_false (fun own => same own.1) fun own => own.2
  | send result =>
      cases stepped
      exact ⟨.led result, isSound.moved_goto called _ Iff.rfl nofun
        (fun _ => trivial) nofun nofun rfl rfl, nofun⟩
  | recv leader =>
      rcases isSound.subscribed call target leader called with
        ⟨lead, isLead, subscribed⟩
      by_cases isLed : ∃ result, lead = .led result
      · rcases isLed with ⟨result, rfl⟩
        simp only [advance, isLead] at stepped
        cases stepped
        refine ⟨.followed leader result, isSound.moved_goto called _ Iff.rfl
          nofun (absurd · id) nofun ?_ rfl rfl, nofun⟩
        intro other verdict isVerdict
        cases isVerdict
        exact isLead
      · have notLed : ∀ result, lead ≠ .led result :=
          fun result same => isLed ⟨result, same⟩
        have waits : advance before call target outcome (.recv leader) =
            none := by
          have isOpen := not_closed isSound isLead subscribed notLed
          cases lead with
          | led result => exact absurd rfl (notLed result)
          | _ => simp only [advance, isLead, isOpen, Bool.false_eq_true,
              if_false]
        rw [waits] at stepped
        cases stepped
  | led result => cases stepped
  | followed leader result => cases stepped
  | aborted stopped => cases stepped

theorem abort_moved (isSound : Sound before)
    (called : before.calls.find call = some ⟨target, phase⟩)
    (awaits : phase.Awaits = true) :
    Moved call target phase (.aborted phase) before
      (before.goto call target (.aborted phase)) := by
  refine isSound.moved_goto called _ Iff.rfl ?_ ?_ nofun nofun rfl rfl
  · rintro result rfl
    cases awaits
  · intro subscribed
    cases phase with
    | send result => cases awaits
    | led result => cases awaits
    | _ => exact subscribed

theorem sound_dispatch (isSound : Sound before)
    (isNew : before.calls.find call = none) :
    Sound (before.goto call target .lookup) := by
  have isOwn : (before.goto call target .lookup).calls.find call =
      some ⟨target, .lookup⟩ := Table.find_put_self
  have elsewhere : ∀ other, other ≠ call →
      (before.goto call target .lookup).calls.find other =
        before.calls.find other :=
    fun other different => Table.find_put_of_ne different
  have known : ∀ other entry, before.calls.find other = some entry →
      (before.goto call target .lookup).calls.find other = some entry := by
    intro other entry called
    have different : other ≠ call := by
      rintro rfl
      rw [isNew] at called
      cases called
    rw [elsewhere other different]
    exact called
  have tally : ∀ count : Phase Connection → Nat, count .lookup = 0 →
      ∀ entry, (before.goto call target .lookup).tally count entry =
        before.tally count entry := by
    intro count isZero entry
    unfold Adapter.tally
    by_cases same : entry.1 = call
    · rw [same, isOwn, isNew]
      by_cases isTarget : target = entry.2
      · exact (if_pos isTarget).trans isZero
      · exact if_neg isTarget
    · rw [elsewhere entry.1 same]
  constructor
  · intro other leader
    rw [show (before.goto call target .lookup).inFlightDials =
      before.inFlightDials from rfl, isSound.slots]
    by_cases same : leader = call
    · subst same
      rw [isOwn, isNew]
      constructor
      · rintro ⟨found, isFound, _⟩
        cases isFound
      · rintro ⟨found, isFound, holds⟩
        cases isFound
        exact absurd holds id
    · rw [elsewhere leader same]
  · intro other device leader called
    by_cases same : other = call
    · subst same
      rw [isOwn] at called
      cases called
    · rw [elsewhere other same] at called
      rcases isSound.subscribed other device leader called with
        ⟨lead, isLead, subscribed⟩
      exact ⟨lead, known leader _ isLead, subscribed⟩
  · intro other device leader result called
    by_cases same : other = call
    · subst same
      rw [isOwn] at called
      cases called
    · rw [elsewhere other same] at called
      exact known leader _ (isSound.verdicts other device leader result called)
  · intro entry
    rw [tally _ rfl]
    exact isSound.failures entry
  · intro entry
    rw [tally _ rfl]
    exact isSound.marks entry

/-! ## Leaders that are aborted -/

/-- No dispatch was aborted while it held a slot. -/
def SlotsOwned (adapter : Adapter Connection) : Prop :=
  ∀ call target stopped,
    adapter.calls.find call = some ⟨target, .aborted stopped⟩ →
      ¬ stopped.HoldsSlot

/-- The action aborts no dispatch that holds a slot. -/
def SparesLeaders (adapter : Adapter Connection) :
    Action Connection → Prop
  | .abort call => ∀ target phase,
      adapter.calls.find call = some ⟨target, phase⟩ → ¬ phase.HoldsSlot
  | _ => True

theorem slotsOwned_empty :
    SlotsOwned (Adapter.empty : Adapter Connection) := by
  intro call target stopped called
  have noCall : (Adapter.empty : Adapter Connection).calls.find call = none :=
    Table.find_empty
  rw [noCall] at called
  cases called

theorem slotsOwned_put {entry : Call Connection}
    (notAborted : ∀ device stopped, before.calls.find call ≠
      some ⟨device, .aborted stopped⟩)
    (isCalls : after.calls = before.calls.put call entry) :
    SlotsOwned after ↔ SlotsOwned before ∧
      ∀ target stopped, entry = ⟨target, .aborted stopped⟩ →
        ¬ stopped.HoldsSlot := by
  unfold SlotsOwned
  rw [isCalls]
  constructor
  · intro owned
    constructor
    · intro other device stopped called
      have different : other ≠ call := by
        rintro rfl
        exact notAborted device stopped called
      apply owned other device stopped
      rw [Table.find_put_of_ne different]
      exact called
    · rintro device stopped rfl
      exact owned call device stopped Table.find_put_self
  · rintro ⟨owned, own⟩ other device stopped called
    by_cases same : other = call
    · rw [same, Table.find_put_self] at called
      exact own device stopped (Option.some.inj called)
    · rw [Table.find_put_of_ne same] at called
      exact owned other device stopped called

theorem step_spec {action : Action Connection} (isSound : Sound before)
    (stepped : step before action = some after) :
    Sound after ∧
      (SlotsOwned after ↔ SlotsOwned before ∧ SparesLeaders before action) := by
  cases action with
  | dispatch call target =>
      cases isCall : before.calls.find call with
      | some entry => simp [step, isCall] at stepped
      | none =>
          simp only [step, isCall, Option.some.injEq] at stepped
          subst stepped
          refine ⟨sound_dispatch isSound isCall, ?_⟩
          rw [slotsOwned_put (by rw [isCall]; nofun) rfl]
          exact and_congr_right fun _ => iff_of_true nofun trivial
  | advance call outcome =>
      cases isCall : before.calls.find call with
      | none => simp [step, isCall] at stepped
      | some entry =>
          rcases entry with ⟨target, phase⟩
          simp only [step, isCall] at stepped
          rcases advance_moved isSound isCall stepped with
            ⟨next, moved, notAborted⟩
          refine ⟨moved.sound isSound, ?_⟩
          have running : ∀ device stopped, before.calls.find call ≠
              some ⟨device, .aborted stopped⟩ := by
            intro device stopped isAborted
            rw [isCall] at isAborted
            cases isAborted
            cases stepped
          rw [slotsOwned_put running moved.calls]
          apply and_congr_right
          intro _
          apply iff_of_true _ trivial
          intro device stopped same
          cases same
          exact absurd rfl (notAborted stopped)
  | abort call =>
      cases isCall : before.calls.find call with
      | none => simp [step, isCall] at stepped
      | some entry =>
          rcases entry with ⟨target, phase⟩
          by_cases awaits : phase.Awaits = true
          · simp only [step, isCall, awaits, if_true,
              Option.some.injEq] at stepped
            subst stepped
            have moved := abort_moved isSound isCall awaits
            refine ⟨moved.sound isSound, ?_⟩
            have running : ∀ device stopped, before.calls.find call ≠
                some ⟨device, .aborted stopped⟩ := by
              intro device stopped isAborted
              rw [isCall] at isAborted
              cases isAborted
              cases awaits
            rw [slotsOwned_put running moved.calls]
            apply and_congr_right
            intro _
            constructor
            · intro own device found isFound
              rw [isCall] at isFound
              cases isFound
              exact own target phase rfl
            · intro spared device stopped same
              cases same
              exact spared target phase isCall
          · simp [step, isCall, awaits] at stepped

/-! ## Dialling as a whole -/

structure SingleFlight (adapter : Adapter Connection) : Prop where
  /-- At most one dial of a device is in progress. -/
  oneDial : ∀ target first second,
    adapter.calls.find first = some ⟨target, .dial⟩ →
      adapter.calls.find second = some ⟨target, .dial⟩ → first = second
  /-- A follower returns what its leader has returned. -/
  sameVerdict : ∀ call target leader result,
    adapter.calls.find call = some ⟨target, .followed leader result⟩ →
      adapter.calls.find leader = some ⟨target, .led result⟩
  /-- `mark_offline` runs once for each failed dial, after it. -/
  markedOnce : ∀ entry ∈ adapter.failed, adapter.marked.count entry = 1 ∨
    ∃ err, adapter.calls.find entry.1 = some ⟨entry.2, .markOffline err⟩
  markedFailed : ∀ entry ∈ adapter.marked,
    entry ∈ adapter.failed ∧ adapter.marked.count entry = 1
  /-- A slot belongs to a leader that is still running. -/
  slotRuns : ∀ target call, adapter.inFlightDials.find target = some call →
    ∃ phase, adapter.calls.find call = some ⟨target, phase⟩ ∧
      phase.Over = false
  /-- A follower waits for a leader that is still running, or can go on with
  its verdict. -/
  served : ∀ call target leader,
    adapter.calls.find call = some ⟨target, .recv leader⟩ →
      ∃ phase, adapter.calls.find leader = some ⟨target, phase⟩ ∧
        (phase.Over = false ∨ ∃ result, phase = .led result)

theorem isError_le_one (result : DialResult Connection) :
    isError result ≤ 1 := by
  cases result with
  | error err => exact le_rfl
  | ok connection => exact Nat.zero_le 1

theorem marks_le_failures (phase : Phase Connection) :
    phase.marks ≤ phase.failures ∧ phase.failures ≤ 1 := by
  induction phase with
  | markOffline err => exact ⟨Nat.zero_le 1, le_rfl⟩
  | removeSlot result => exact ⟨le_rfl, isError_le_one result⟩
  | send result => exact ⟨le_rfl, isError_le_one result⟩
  | led result => exact ⟨le_rfl, isError_le_one result⟩
  | aborted stopped inductionHypothesis => exact inductionHypothesis
  | _ => exact ⟨le_rfl, Nat.zero_le 1⟩

theorem marks_eq_failures {phase : Phase Connection}
    (free : ¬ phase.HoldsSlot) : phase.marks = phase.failures := by
  induction phase with
  | markOffline err => exact absurd trivial free
  | aborted stopped inductionHypothesis => exact inductionHypothesis free
  | _ => rfl

theorem exists_of_tally {adapter : Adapter Connection}
    {count : Phase Connection → Nat} {entry : Nat × String}
    (positive : 0 < adapter.tally count entry) :
    ∃ phase, adapter.calls.find entry.1 = some ⟨entry.2, phase⟩ ∧
      ∀ other, adapter.tally other entry = other phase := by
  cases isCall : adapter.calls.find entry.1 with
  | none =>
      rw [Adapter.tally, isCall] at positive
      exact absurd positive (lt_irrefl 0)
  | some call =>
      rcases call with ⟨target, phase⟩
      by_cases isTarget : target = entry.2
      · subst isTarget
        refine ⟨phase, rfl, ?_⟩
        intro other
        rw [Adapter.tally, isCall]
        exact if_pos rfl
      · have isZero : adapter.tally count entry = 0 := by
          rw [Adapter.tally, isCall]
          exact if_neg isTarget
        rw [isZero] at positive
        exact absurd positive (lt_irrefl 0)

variable {adapter : Adapter Connection}

theorem over_of_holdsSlot {phase : Phase Connection}
    (owned : SlotsOwned adapter)
    (called : adapter.calls.find call = some ⟨target, phase⟩)
    (holds : phase.HoldsSlot) : phase.Over = false := by
  cases phase with
  | aborted stopped => exact absurd holds (owned call target stopped called)
  | led result => exact absurd holds id
  | followed leader result => exact absurd holds id
  | _ => rfl

theorem singleFlight_iff_slotsOwned (isSound : Sound adapter) :
    SingleFlight adapter ↔ SlotsOwned adapter := by
  constructor
  · intro single call target stopped called holds
    have inSlot := (isSound.slots target call).mpr
      ⟨.aborted stopped, called, holds⟩
    rcases single.slotRuns target call inSlot with ⟨phase, isPhase, running⟩
    rw [called] at isPhase
    cases isPhase
    cases running
  · intro owned
    constructor
    · intro target first second isFirst isSecond
      have firstSlot := (isSound.slots target first).mpr
        ⟨.dial, isFirst, trivial⟩
      have secondSlot := (isSound.slots target second).mpr
        ⟨.dial, isSecond, trivial⟩
      rw [firstSlot] at secondSlot
      exact Option.some.inj secondSlot
    · exact isSound.verdicts
    · intro entry failed
      have positive : 0 < adapter.tally Phase.failures entry := by
        rw [← isSound.failures]
        exact List.count_pos_iff.mpr failed
      rcases exists_of_tally positive with ⟨phase, called, tallies⟩
      rw [tallies] at positive
      have once : phase.failures = 1 :=
        le_antisymm (marks_le_failures phase).2 positive
      rw [isSound.marks, tallies]
      cases phase with
      | markOffline err => exact Or.inr ⟨err, called⟩
      | aborted stopped =>
          left
          rw [← once]
          exact marks_eq_failures (owned entry.1 entry.2 stopped called)
      | _ => exact Or.inl once
    · intro entry marked
      have positive : 0 < adapter.tally Phase.marks entry := by
        rw [← isSound.marks]
        exact List.count_pos_iff.mpr marked
      rcases exists_of_tally positive with ⟨phase, called, tallies⟩
      rw [tallies] at positive
      have bounds := marks_le_failures phase
      rw [← List.count_pos_iff, isSound.failures, isSound.marks, tallies,
        tallies]
      exact ⟨by omega, by omega⟩
    · intro target call inSlot
      rcases (isSound.slots target call).mp inSlot with ⟨phase, called, holds⟩
      exact ⟨phase, called, over_of_holdsSlot owned called holds⟩
    · intro call target leader called
      rcases isSound.subscribed call target leader called with
        ⟨phase, isLead, subscribed⟩
      refine ⟨phase, isLead, ?_⟩
      cases phase with
      | led result => exact Or.inr ⟨result, rfl⟩
      | send result => exact Or.inl rfl
      | _ => exact Or.inl (over_of_holdsSlot owned isLead subscribed)

/-- In any interleaving, dialling is single-flight exactly if no dispatch was
aborted between putting its slot and removing it. -/
theorem singleFlight_iff {actions : List (Action Connection)}
    (ran : execute step Adapter.empty actions = some adapter) :
    SingleFlight adapter ↔
      Guarded step SparesLeaders Adapter.empty actions := by
  have any := guarded_anyAction step (Adapter.empty : Adapter Connection)
    actions
  have isSound : Sound adapter :=
    (Run.ofExecute any ran).preserves sound_empty
      fun _ _ _ sound _ stepped => (step_spec sound stepped).1
  rw [singleFlight_iff_slotsOwned isSound]
  have stays : SlotsOwned adapter ↔
      SlotsOwned (Adapter.empty : Adapter Connection) ∧
        Guarded step SparesLeaders Adapter.empty actions :=
    execute_iff_guarded
      (fun _ _ _ sound _ stepped => (step_spec sound stepped).1)
      (fun _ _ _ sound _ stepped => (step_spec sound stepped).2)
      sound_empty any ran
  rw [and_iff_right slotsOwned_empty] at stays
  exact stays

namespace Sample

def failedDial : List (Action Unit) :=
  [.dispatch 0 "phone", .advance 0 (.ok ()), .dispatch 1 "phone",
    .advance 1 (.ok ()), .advance 0 (.error "timeout"), .advance 0 (.ok ()),
    .advance 0 (.ok ()), .advance 0 (.ok ()), .advance 1 (.ok ())]

def abortedDial : List (Action Unit) :=
  [.dispatch 0 "phone", .advance 0 (.ok ()), .abort 0, .dispatch 1 "phone",
    .advance 1 (.ok ())]

end Sample

theorem singleFlight_iff_failedDial : ∃ adapter,
    execute step Adapter.empty Sample.failedDial = some adapter ∧
      adapter.marked = [(0, "phone")] ∧
      (SingleFlight adapter ↔
        Guarded step SparesLeaders Adapter.empty Sample.failedDial) :=
  ⟨_, rfl, rfl, singleFlight_iff rfl⟩

/-- The slot stays with nobody to complete it, and the next dispatch waits. -/
theorem abortedLeader_blocks : ∃ adapter,
    execute step Adapter.empty Sample.abortedDial = some adapter ∧
      ¬ SingleFlight adapter ∧
      ∀ outcome, step adapter (.advance 1 outcome) = none := by
  refine ⟨_, rfl, ?_, fun _ => rfl⟩
  intro single
  rcases single.slotRuns "phone" 0 rfl with ⟨phase, called, running⟩
  cases called
  cases running

end OpenClipboard.ClipboardDispatch
