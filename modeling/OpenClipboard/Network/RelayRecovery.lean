import OpenClipboard.Library.Transition

/-!
# The watchdog of the home relay

While no home relay is connected, the watchdog nudges the endpoint: first after
a grace period, then after gaps that double up to a bound.  Times and durations
are in milliseconds of a monotonic clock.
-/

namespace OpenClipboard.RelayRecovery

open Transition

structure RecoveryPolicy where
  grace : Nat
  initialBackoff : Nat
  maxBackoff : Nat

inductive Action where
  | idle
  | wait (delay : Nat)
  | nudge (delay : Nat)
  deriving DecidableEq, Repr

structure RecoveryState where
  unhealthySince : Option Nat
  lastNudge : Option Nat
  nextGap : Nat

def RecoveryState.new (policy : RecoveryPolicy) : RecoveryState :=
  ⟨none, none, policy.initialBackoff⟩

/-- The state after an observation, and what the driver is to do. -/
def RecoveryState.observe (policy : RecoveryPolicy) (state : RecoveryState)
    (healthy : Bool) (now : Nat) : RecoveryState × Action :=
  if healthy then
    (.new policy, .idle)
  else
    let since := state.unhealthySince.getD now
    if now - since < policy.grace then
      ({ state with unhealthySince := some since },
        .wait (policy.grace - (now - since)))
    else
      match state.lastNudge with
      | none => (⟨some since, some now, state.nextGap⟩, .nudge state.nextGap)
      | some last =>
          if now - last < state.nextGap then
            ({ state with unhealthySince := some since },
              .wait (state.nextGap - (now - last)))
          else
            let gap := min (state.nextGap * 2) policy.maxBackoff
            (⟨some since, some now, gap⟩, .nudge gap)

/-- The driver, with the nudges of the present outage, the latest first, and
the time of its last observation. -/
structure Driver where
  state : RecoveryState
  nudges : List Nat
  clock : Nat

def start (policy : RecoveryPolicy) : Driver := ⟨.new policy, [], 0⟩

structure Observation where
  healthy : Bool
  now : Nat

def Driver.fold (driver : Driver) (now : Nat)
    (observed : RecoveryState × Action) : Driver where
  state := observed.1
  nudges :=
    match observed.2 with
    | .idle => []
    | .wait _ => driver.nudges
    | .nudge _ => now :: driver.nudges
  clock := now

/-- One turn of the loop. -/
def step (policy : RecoveryPolicy) (driver : Driver)
    (observation : Observation) : Option Driver :=
  if observation.now < driver.clock then
    none
  else
    some (driver.fold observation.now
      (driver.state.observe policy observation.healthy observation.now))

/-- The gap after so many doublings. -/
def gapAfter (policy : RecoveryPolicy) : Nat → Nat
  | 0 => policy.initialBackoff
  | doublings + 1 => min (gapAfter policy doublings * 2) policy.maxBackoff

/-- The first nudge waits for the grace period, each later one for the gap
since the one before. -/
def Paced (policy : RecoveryPolicy) (since : Nat) : List Nat → Prop
  | [] => True
  | [first] => since + policy.grace ≤ first
  | later :: before :: earlier =>
      before + gapAfter policy earlier.length ≤ later ∧
        Paced policy since (before :: earlier)

/-- The nudges of the outage account for the state. -/
inductive Accounts (policy : RecoveryPolicy) : Driver → Prop
  | calm (clock : Nat) : Accounts policy ⟨.new policy, [], clock⟩
  | waiting {since clock : Nat} (begun : since ≤ clock) :
      Accounts policy ⟨⟨some since, none, gapAfter policy 0⟩, [], clock⟩
  | nudging {since last clock : Nat} {earlier : List Nat}
      (graced : since + policy.grace ≤ last) (past : last ≤ clock)
      (paced : Paced policy since (last :: earlier)) :
      Accounts policy ⟨⟨some since, some last,
        gapAfter policy earlier.length⟩, last :: earlier, clock⟩

variable {policy : RecoveryPolicy} {driver next : Driver}
  {observation : Observation}

theorem observe_unnudged (policy : RecoveryPolicy) (since now : Nat) :
    RecoveryState.observe policy ⟨some since, none, gapAfter policy 0⟩ false
        now =
      if now - since < policy.grace then
        (⟨some since, none, gapAfter policy 0⟩,
          .wait (policy.grace - (now - since)))
      else
        (⟨some since, some now, gapAfter policy 0⟩,
          .nudge (gapAfter policy 0)) := rfl

theorem observe_nudged (policy : RecoveryPolicy) (since last gap now : Nat) :
    RecoveryState.observe policy ⟨some since, some last, gap⟩ false now =
      if now - since < policy.grace then
        (⟨some since, some last, gap⟩, .wait (policy.grace - (now - since)))
      else if now - last < gap then
        (⟨some since, some last, gap⟩, .wait (gap - (now - last)))
      else
        (⟨some since, some now, min (gap * 2) policy.maxBackoff⟩,
          .nudge (min (gap * 2) policy.maxBackoff)) := rfl

theorem accounts_step (accounts : Accounts policy driver)
    (stepped : step policy driver observation = some next) :
    Accounts policy next := by
  obtain ⟨healthy, now⟩ := observation
  unfold step at stepped
  split at stepped
  · cases stepped
  · rename_i inOrder
    cases stepped
    cases healthy with
    | true => exact .calm now
    | false =>
        cases accounts with
        | calm clock =>
            have fresh : RecoveryState.observe policy (.new policy) false now =
                _ := observe_unnudged policy now now
            simp only [fresh]
            split
            · exact .waiting (Nat.le_refl now)
            · rename_i graced
              have first : now + policy.grace ≤ now := by omega
              have paced : Paced policy now [now] := first
              exact .nudging first (Nat.le_refl now) paced
        | @waiting since clock begun =>
            simp only [observe_unnudged]
            simp only at inOrder
            split
            · exact .waiting (by omega)
            · have first : since + policy.grace ≤ now := by omega
              have paced : Paced policy since [now] := first
              exact .nudging first (Nat.le_refl now) paced
        | @nudging since last clock earlier graced past paced =>
            simp only [observe_nudged]
            simp only at inOrder
            split
            · exact .nudging graced (by omega) paced
            · split
              · exact .nudging graced (by omega) paced
              · have distant : Paced policy since (now :: last :: earlier) :=
                  ⟨by omega, paced⟩
                exact .nudging (by omega) (Nat.le_refl now) distant

theorem accounts_of_run
    (run : Run (step policy) anyAction (start policy) driver) :
    Accounts policy driver :=
  run.preserves (.calm 0) fun _ _ _ accounts _ stepped =>
    accounts_step accounts stepped

/-- In every run the nudges of an outage keep their distances. -/
theorem nudges_paced (run : Run (step policy) anyAction (start policy) driver) :
    ∀ since ∈ driver.state.unhealthySince,
      Paced policy since driver.nudges := by
  intro since isSince
  cases accounts_of_run run with
  | calm clock => trivial
  | waiting begun => trivial
  | nudging graced past paced =>
      cases isSince
      exact paced

theorem nudges_paced_outage :
    Paced ⟨20, 15, 120⟩ 5 [40, 25] := by
  have run : Run (step ⟨20, 15, 120⟩) anyAction (start ⟨20, 15, 120⟩)
      ⟨⟨some 5, some 40, 30⟩, [40, 25], 40⟩ :=
    ((Run.refl.tail ⟨false, 5⟩ trivial rfl).tail ⟨false, 25⟩ trivial rfl).tail
      ⟨false, 40⟩ trivial rfl
  exact nudges_paced run 5 rfl

theorem nudges_unnudged_iff {since later : Nat} :
    (∃ gap, (RecoveryState.observe policy ⟨some since, none,
      gapAfter policy 0⟩ false later).2 = .nudge gap) ↔
        ¬ later - since < policy.grace := by
  rw [observe_unnudged]
  split
  · simp [*]
  · simp [*]

theorem nudges_nudged_iff {since last gap later : Nat} :
    (∃ next, (RecoveryState.observe policy ⟨some since, some last, gap⟩ false
      later).2 = .nudge next) ↔
        ¬ later - since < policy.grace ∧ ¬ later - last < gap := by
  rw [observe_nudged]
  split
  · simp [*]
  · split
    · simp [*]
    · simp [*]

/-- The delay that an action comes with. -/
def Action.delay : Action → Option Nat
  | .idle => none
  | .wait delay | .nudge delay => some delay

theorem delay_unnudged {since now delay later : Nat} (begun : since ≤ now)
    (inOrder : now ≤ later)
    (delayed : (RecoveryState.observe policy ⟨some since, none,
      gapAfter policy 0⟩ false now).2.delay = some delay) :
    (∃ gap, ((RecoveryState.observe policy ⟨some since, none,
      gapAfter policy 0⟩ false now).1.observe policy false later).2 =
        .nudge gap) ↔ now + delay ≤ later := by
  rw [observe_unnudged] at delayed ⊢
  split at delayed
  · rename_i early
    cases delayed
    rw [if_pos early, nudges_unnudged_iff]
    omega
  · rename_i graced
    cases delayed
    rw [if_neg graced, nudges_nudged_iff]
    omega

/-- The delay that comes with a wait or a nudge is exactly the time to the next
nudge, as long as no relay is connected. -/
theorem observe_delay
    (run : Run (step policy) anyAction (start policy) driver)
    {now delay later : Nat} (ticked : driver.clock ≤ now)
    (inOrder : now ≤ later)
    (delayed : (driver.state.observe policy false now).2.delay = some delay) :
    (∃ gap, ((driver.state.observe policy false now).1.observe policy false
      later).2 = .nudge gap) ↔ now + delay ≤ later := by
  cases accounts_of_run run with
  | calm clock => exact delay_unnudged (Nat.le_refl now) inOrder delayed
  | waiting begun =>
      exact delay_unnudged (Nat.le_trans begun ticked) inOrder delayed
  | @nudging since last clock earlier graced past paced =>
      simp only at ticked
      simp only [observe_nudged] at delayed ⊢
      have afterGrace : ¬ now - since < policy.grace := by omega
      rw [if_neg afterGrace] at delayed ⊢
      split at delayed
      · rename_i soon
        cases delayed
        rw [if_pos soon, nudges_nudged_iff]
        omega
      · rename_i distant
        cases delayed
        rw [if_neg distant, nudges_nudged_iff]
        omega

/-- The watchdog that has just started waits for its grace period. -/
theorem observe_delay_start :
    ∃ gap, (((start ⟨20, 15, 120⟩).state.observe ⟨20, 15, 120⟩ false
      5).1.observe ⟨20, 15, 120⟩ false 25).2 = .nudge gap :=
  (observe_delay Run.refl (by decide) (by decide) rfl).mpr (Nat.le_refl 25)

end OpenClipboard.RelayRecovery
