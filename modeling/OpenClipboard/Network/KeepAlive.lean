import OpenClipboard.Network.Presence

/-!
# The keep-alive of the paired peers

A ticker dials the peers whose turn it is.  Each failure in a row puts the
next dial of a peer off for longer, and after the third it sleeps: from then on
only the fallback ticker or its own arrival wakes it.  Times are in
milliseconds.
-/

namespace OpenClipboard.KeepAlive

open Transition Presence

def backoffLadder : List Nat := [25000, 60000, 300000]

def sleepAfterFailures : Nat := 3

/-- The wait after so many failures in a row. -/
def backoffAfter (failures : Nat) : Nat := backoffLadder.getD failures 0

inductive BackoffState where
  | active (consecutiveFailures nextDialAt : Nat)
  | sleeping
  deriving DecidableEq, Repr

namespace BackoffState

def readyNow (now : Nat) : BackoffState := .active 0 now

def ready (now : Nat) : BackoffState → Bool
  | .active _ nextDialAt => decide (nextDialAt ≤ now)
  | .sleeping => false

def isSleeping : BackoffState → Bool
  | .active _ _ => false
  | .sleeping => true

def onSuccess (now : Nat) : BackoffState := .active 0 (now + backoffAfter 0)

def onFailure (now : Nat) : BackoffState → BackoffState
  | .active consecutiveFailures _ =>
      let failures := consecutiveFailures + 1
      if sleepAfterFailures ≤ failures then .sleeping
      else .active failures (now + backoffAfter failures)
  | .sleeping => .sleeping

def reset (now : Nat) : BackoffState := .active 0 (now + backoffAfter 0)

end BackoffState

abbrev Backoff := Table String BackoffState

/-- A dial as it is joined, with the clock at that time; without an end where
its task panicked or was cancelled. -/
structure Joined where
  device : String
  ended : Option (Except PresenceError Presence.ReachabilityState)
  observedAt : Nat

/-! ## The worker -/

/-- One turn of the loop over the joined dials. -/
def update (backoff : Backoff) (joined : Joined) : Backoff :=
  match joined.ended, backoff.find joined.device with
  | none, _ => backoff
  | some _, none => backoff
  | some (.ok .online), some _ =>
      backoff.put joined.device (.onSuccess joined.observedAt)
  | some _, some entry =>
      backoff.put joined.device (entry.onFailure joined.observedAt)

def dispatchDialsAndUpdate (backoff : Backoff) (joined : List Joined) :
    Backoff :=
  joined.foldl update backoff

/-- What is kept of the peers that are still paired. -/
def refreshPeerList (backoff : Backoff) (peers : List String) : Backoff :=
  backoff.removeWhere fun device => !peers.contains device

/-- The entry of a peer, made ready where there is none. -/
def orReadyNow (now : Nat) (backoff : Backoff) (device : String) :
    BackoffState :=
  (backoff.find device).getD (.readyNow now)

/-- The peers that are due, with every peer entered on the way. -/
def collectDue (now : Nat) : List String → Backoff → Backoff × List String
  | [], backoff => (backoff, [])
  | device :: rest, backoff =>
      let entry := orReadyNow now backoff device
      let later := collectDue now rest (backoff.put device entry)
      (later.1, if entry.ready now then device :: later.2 else later.2)

def sleepingPeers (backoff : Backoff) (peers : List String) : List String :=
  peers.filter fun device =>
    ((backoff.find device).map BackoffState.isSleeping).getD false

/-- The backoff after a presence event, and the peer to dial at once. -/
def applyPresenceEvent (backoff : Backoff) (deviceId state : String)
    (now : Nat) : Backoff × Option String :=
  if state ≠ "online" then
    (backoff, none)
  else
    (backoff.put deviceId (.reset now), some deviceId)

/-- A dial of the base ticker, with the clock when the pass began. -/
structure BaseDial extends Joined where
  startedAt : Nat

/-- The worker between two turns of its loop, with the dials of the base ticker
so far, the latest first. -/
structure Worker where
  backoff : Backoff
  dials : List BaseDial

/-- What the loop selects: a tick, with the peers that the listing gives and
the dials as they are joined, or a presence event. -/
inductive Action where
  | tick (peers : Option (List String)) (now : Nat) (joined : List Joined)
  | fallbackTick (peers : Option (List String)) (joined : List Joined)
  | presence (deviceId state : String) (now : Nat)

/-- One turn of the loop; the dials joined are those of the peers dialed. -/
def step (worker : Worker) : Action → Option Worker
  | .tick none _ _ => some worker
  | .tick (some peers) now joined =>
      let due := collectDue now peers (refreshPeerList worker.backoff peers)
      if (joined.map Joined.device).isPerm due.2 then
        some {
          backoff := dispatchDialsAndUpdate due.1 joined
          dials := joined.reverse.map (fun one => ⟨one, now⟩) ++ worker.dials }
      else
        none
  | .fallbackTick none _ => some worker
  | .fallbackTick (some peers) joined =>
      let backoff := refreshPeerList worker.backoff peers
      if (joined.map Joined.device).isPerm (sleepingPeers backoff peers) then
        some { worker with backoff := dispatchDialsAndUpdate backoff joined }
      else
        none
  | .presence deviceId state now =>
      some { worker with
        backoff := (applyPresenceEvent worker.backoff deviceId state now).1 }

/-! ## One pass over the peers -/

section Pass

variable {now : Nat} {backoff : Backoff} {peers : List String}
  {joined : List Joined} {peer : String} {one : Joined}

theorem find_collectDue : (collectDue now peers backoff).1.find peer =
    if peer ∈ peers then some (orReadyNow now backoff peer)
    else backoff.find peer := by
  induction peers generalizing backoff with
  | nil => rfl
  | cons device rest inductionHypothesis =>
      rw [collectDue, inductionHypothesis, orReadyNow, Table.find_put]
      by_cases same : peer = device
      · subst same
        simp
      · simp [same, orReadyNow]

theorem mem_collectDue : peer ∈ (collectDue now peers backoff).2 ↔
    peer ∈ peers ∧ (orReadyNow now backoff peer).ready now = true := by
  induction peers generalizing backoff with
  | nil => simp [collectDue]
  | cons device rest inductionHypothesis =>
      have later : (orReadyNow now
          (backoff.put device (orReadyNow now backoff device)) peer) =
          orReadyNow now backoff peer := by
        rw [orReadyNow, Table.find_put]
        split
        · rename_i same
          rw [same, Option.getD_some]
        · rfl
      rw [collectDue]
      by_cases same : peer = device
      · subst same
        split
        · rename_i isReady
          simp [isReady]
        · rename_i notReady
          simp [inductionHypothesis, later, notReady]
      · split
        · simp [inductionHypothesis, later, same]
        · simp [inductionHypothesis, later, same]

theorem collectDue_sublist :
    (collectDue now peers backoff).2.Sublist peers := by
  induction peers generalizing backoff with
  | nil => exact List.Sublist.slnil
  | cons device rest inductionHypothesis =>
      rw [collectDue]
      split
      · exact inductionHypothesis.cons_cons device
      · exact inductionHypothesis.cons device

theorem find_dispatch_of_not_mem (absent : peer ∉ joined.map Joined.device) :
    (dispatchDialsAndUpdate backoff joined).find peer =
      backoff.find peer := by
  induction joined generalizing backoff with
  | nil => rfl
  | cons first rest inductionHypothesis =>
      rw [List.map_cons, List.mem_cons, not_or] at absent
      rw [dispatchDialsAndUpdate, List.foldl_cons]
      refine (inductionHypothesis absent.2).trans ?_
      unfold update
      split
      · rfl
      · rfl
      · exact Table.find_put_of_ne absent.1
      · exact Table.find_put_of_ne absent.1

/-- No answer came of a dial. -/
def Unanswered (one : Joined) : Prop :=
  one.ended ≠ none ∧ one.ended ≠ some (.ok .online)

theorem find_update (unanswered : Unanswered one) :
    (update backoff one).find one.device =
      (backoff.find one.device).map (·.onFailure one.observedAt) := by
  unfold update
  split
  · rename_i isNone
    exact absurd isNone unanswered.1
  · rename_i missing
    simp [missing]
  · rename_i isOnline _
    exact absurd isOnline unanswered.2
  · rename_i entry _ _ found
    simp [found]

theorem find_dispatch (once : (joined.map Joined.device).Nodup)
    (member : one ∈ joined) (unanswered : Unanswered one) :
    (dispatchDialsAndUpdate backoff joined).find one.device =
      (backoff.find one.device).map (·.onFailure one.observedAt) := by
  induction joined generalizing backoff with
  | nil => cases member
  | cons first rest inductionHypothesis =>
      rw [List.map_cons, List.nodup_cons] at once
      rw [dispatchDialsAndUpdate, List.foldl_cons]
      rcases List.mem_cons.mp member with rfl | isLater
      · exact (find_dispatch_of_not_mem once.1).trans (find_update unanswered)
      · refine (inductionHypothesis once.2 isLater).trans ?_
        have different : one.device ≠ first.device := by
          intro same
          exact once.1 (same ▸ List.mem_map_of_mem isLater)
        have untouched : (dispatchDialsAndUpdate backoff [first]).find
            one.device = backoff.find one.device :=
          find_dispatch_of_not_mem (by simpa using different)
        rw [← untouched]
        rfl

theorem filter_dials (once : (joined.map Joined.device).Nodup)
    (member : one ∈ joined) :
    joined.filter (fun other => other.device = one.device) = [one] := by
  induction joined with
  | nil => cases member
  | cons first rest inductionHypothesis =>
      rw [List.map_cons, List.nodup_cons] at once
      rcases List.mem_cons.mp member with rfl | isLater
      · rw [List.filter_cons_of_pos (by simp), List.cons_inj_right,
          List.filter_eq_nil_iff]
        intro other isOther same
        exact once.1 (of_decide_eq_true same ▸ List.mem_map_of_mem isOther)
      · rw [List.filter_cons_of_neg, inductionHypothesis once.2 isLater]
        intro same
        exact once.1 (of_decide_eq_true same ▸ List.mem_map_of_mem isLater)

theorem filter_baseDials (once : (joined.map Joined.device).Nodup)
    (member : one ∈ joined) :
    (joined.reverse.map fun one => (⟨one, now⟩ : BaseDial)).filter
      (fun dial => dial.device = one.device) = [⟨one, now⟩] := by
  rw [List.filter_map, List.filter_reverse]
  exact congrArg (List.map _ ∘ List.reverse) (filter_dials once member)

theorem filter_baseDials_of_not_mem
    (absent : peer ∉ joined.map Joined.device) :
    (joined.reverse.map fun one => (⟨one, now⟩ : BaseDial)).filter
      (fun dial => dial.device = peer) = [] := by
  rw [List.filter_eq_nil_iff]
  intro dial isDial same
  obtain ⟨one, member, rfl⟩ := List.mem_map.mp isDial
  exact absent (List.mem_map.mpr
    ⟨one, List.mem_reverse.mp member, of_decide_eq_true same⟩)

end Pass

/-! ## A peer that does not answer -/

/-- The dials of the base ticker to a peer, the latest first. -/
def Worker.dialsOf (worker : Worker) (peer : String) : List BaseDial :=
  worker.dials.filter fun dial => dial.device = peer

/-- The peer stays paired, and is listed once; no dial of it is answered, and
it does not come by itself. -/
def Silent (peer : String) (_ : Worker) : Action → Prop
  | .tick peers _ joined | .fallbackTick peers joined =>
      (∀ listed ∈ peers, listed.Nodup ∧ peer ∈ listed) ∧
        ∀ one ∈ joined, one.device = peer → Unanswered one
  | .presence deviceId state _ => deviceId = peer → state ≠ "online"

/-- The entry of a peer after the dials that it left unanswered, where its next
dial was set for `first` if it had an entry. -/
def standing (first : Option Nat) : List BaseDial → Option BackoffState
  | [] => first.map (BackoffState.active 0)
  | last :: earlier =>
      let failures := earlier.length + 1
      some (if sleepAfterFailures ≤ failures then .sleeping
        else .active failures (last.observedAt + backoffAfter failures))

/-- Every dial waits for the time that the one before it set. -/
def Paced (first : Option Nat) : List BaseDial → Prop
  | [] => True
  | [dial] => ∀ due ∈ first, due ≤ dial.startedAt
  | later :: before :: earlier =>
      before.observedAt + backoffAfter (earlier.length + 1) ≤
        later.startedAt ∧ Paced first (before :: earlier)

/-- The dials to a peer account for its entry. -/
structure Accounts (first : Option Nat) (dials : List BaseDial)
    (entry : Option BackoffState) : Prop where
  few : dials.length ≤ sleepAfterFailures
  paced : Paced first dials
  stands : entry = standing first dials

section Silence

variable {first : Option Nat} {dials : List BaseDial} {now : Nat}
  {entry : Option BackoffState} {one : Joined} {peer : String}
  {worker next : Worker} {action : Action}

theorem Accounts.dialed (accounts : Accounts first dials entry)
    (isReady : (entry.getD (.readyNow now)).ready now = true) :
    Accounts first (⟨one, now⟩ :: dials)
      (some ((entry.getD (.readyNow now)).onFailure one.observedAt)) := by
  obtain ⟨few, paced, rfl⟩ := accounts
  cases dials with
  | nil =>
      cases first with
      | none => exact ⟨by simp [sleepAfterFailures], by simp [Paced], rfl⟩
      | some due =>
          exact ⟨by simp [sleepAfterFailures],
            by simpa [Paced, standing, BackoffState.ready] using isReady, rfl⟩
  | cons last earlier =>
      simp only [standing, Option.getD_some] at isReady ⊢
      split at isReady
      · cases isReady
      · rename_i awake
        rw [if_neg awake]
        refine ⟨?_, ⟨of_decide_eq_true isReady, paced⟩, rfl⟩
        rw [List.length_cons, List.length_cons]
        omega

theorem Accounts.skipped (accounts : Accounts first dials entry)
    (notReady : (entry.getD (.readyNow now)).ready now ≠ true) :
    Accounts first dials (some (entry.getD (.readyNow now))) := by
  have isSome : entry ≠ none := by
    intro missing
    rw [missing] at notReady
    exact notReady (by simp [BackoffState.readyNow, BackoffState.ready])
  obtain ⟨found, isFound⟩ := Option.ne_none_iff_exists'.mp isSome
  rw [isFound] at accounts ⊢
  exact accounts

theorem find_refreshPeerList (backoff : Backoff) {listed : List String}
    (paired : peer ∈ listed) :
    (refreshPeerList backoff listed).find peer = backoff.find peer := by
  rw [refreshPeerList, Table.find_removeWhere, if_neg (by simpa using paired)]

theorem tick_silent {listed : List String} {joined : List Joined}
    (once : listed.Nodup) (paired : peer ∈ listed)
    (silent : ∀ one ∈ joined, one.device = peer → Unanswered one)
    (stepped : step worker (.tick (some listed) now joined) = some next)
    (accounts : Accounts first (worker.dialsOf peer)
      (worker.backoff.find peer)) :
    Accounts first (next.dialsOf peer) (next.backoff.find peer) := by
  simp only [step] at stepped
  split at stepped
  · rename_i areDue
    cases stepped
    have same := find_refreshPeerList worker.backoff paired
    have sameDials := List.isPerm_iff.mp areDue
    have distinct : (joined.map Joined.device).Nodup :=
      sameDials.nodup_iff.mpr (collectDue_sublist.nodup once)
    have entered : (collectDue now listed
        (refreshPeerList worker.backoff listed)).1.find peer =
        some ((worker.backoff.find peer).getD (.readyNow now)) := by
      rw [find_collectDue, if_pos paired, orReadyNow, same]
    simp only [Worker.dialsOf, List.filter_append]
    by_cases isDialed : peer ∈ joined.map Joined.device
    · obtain ⟨one, member, rfl⟩ := List.mem_map.mp isDialed
      have isReady := (mem_collectDue.mp (sameDials.mem_iff.mp isDialed)).2
      rw [orReadyNow, same] at isReady
      rw [find_dispatch distinct member (silent one member rfl), entered,
        filter_baseDials distinct member]
      exact accounts.dialed isReady
    · have notReady : ((worker.backoff.find peer).getD
          (.readyNow now)).ready now ≠ true := by
        intro isReady
        apply isDialed
        apply sameDials.mem_iff.mpr
        rw [mem_collectDue, orReadyNow, same]
        exact ⟨paired, isReady⟩
      rw [find_dispatch_of_not_mem isDialed, entered,
        filter_baseDials_of_not_mem isDialed]
      exact accounts.skipped notReady
  · cases stepped

theorem fallbackTick_silent {listed : List String} {joined : List Joined}
    (once : listed.Nodup) (paired : peer ∈ listed)
    (silent : ∀ one ∈ joined, one.device = peer → Unanswered one)
    (stepped : step worker (.fallbackTick (some listed) joined) = some next) :
    next.dialsOf peer = worker.dialsOf peer ∧
      next.backoff.find peer = worker.backoff.find peer := by
  simp only [step] at stepped
  split at stepped
  · rename_i areDue
    cases stepped
    refine ⟨rfl, ?_⟩
    have same := find_refreshPeerList worker.backoff paired
    have sameDials := List.isPerm_iff.mp areDue
    have distinct : (joined.map Joined.device).Nodup :=
      sameDials.nodup_iff.mpr (List.filter_sublist.nodup once)
    by_cases isDialed : peer ∈ joined.map Joined.device
    · have sleeps := (List.mem_filter.mp (sameDials.mem_iff.mp isDialed)).2
      obtain ⟨one, member, rfl⟩ := List.mem_map.mp isDialed
      rw [find_dispatch distinct member (silent one member rfl), same]
      rw [same] at sleeps
      cases found : worker.backoff.find one.device with
      | none => rfl
      | some entry =>
          cases entry with
          | active failures nextDialAt =>
              rw [found] at sleeps
              cases sleeps
          | sleeping => rfl
    · rw [find_dispatch_of_not_mem isDialed, same]
  · cases stepped

theorem step_silent (silent : Silent peer worker action)
    (stepped : step worker action = some next)
    (accounts : Accounts first (worker.dialsOf peer)
      (worker.backoff.find peer)) :
    Accounts first (next.dialsOf peer) (next.backoff.find peer) := by
  cases action with
  | tick peers now joined =>
      cases peers with
      | none =>
          cases stepped
          exact accounts
      | some listed =>
          obtain ⟨once, paired⟩ := silent.1 listed rfl
          exact tick_silent once paired silent.2 stepped accounts
  | fallbackTick peers joined =>
      cases peers with
      | none =>
          cases stepped
          exact accounts
      | some listed =>
          obtain ⟨once, paired⟩ := silent.1 listed rfl
          obtain ⟨dials, entry⟩ :=
            fallbackTick_silent once paired silent.2 stepped
          rw [dials, entry]
          exact accounts
  | presence deviceId state now =>
      cases stepped
      unfold applyPresenceEvent
      split
      · exact accounts
      · rename_i isOnline
        have different : peer ≠ deviceId := by
          intro same
          exact isOnline (silent same.symm)
        have untouched : (worker.backoff.put deviceId (.reset now)).find peer =
            worker.backoff.find peer := Table.find_put_of_ne different
        simp only
        rw [untouched]
        exact accounts

end Silence

/-- Until a peer answers or comes by itself, the base ticker dials it three
times at most, each time no sooner than the failure before allows, and its
entry is the one that these dials leave. -/
theorem silentPeer_isPaced {backoff : Backoff} {peer : String}
    {first : Option Nat} {finish : Worker}
    (unfailed : backoff.find peer = first.map (BackoffState.active 0))
    (run : Run step (Silent peer) ⟨backoff, []⟩ finish) :
    Accounts first (finish.dialsOf peer) (finish.backoff.find peer) :=
  run.preserves ⟨by simp [Worker.dialsOf], trivial, unfailed⟩
    fun _ _ _ accounts silent stepped => step_silent silent stepped accounts

theorem silentPeer_isPaced_failedOnce :
    Accounts none [⟨⟨"peer", some (.error (.internal "down")), 5⟩, 0⟩]
      (some (.active 1 60005)) := by
  have silent : Silent "peer" ⟨∅, []⟩ (.tick (some ["peer"]) 0
      [⟨"peer", some (.error (.internal "down")), 5⟩]) := by
    simp [Silent, Unanswered]
  exact silentPeer_isPaced rfl (Run.refl.tail _ silent rfl)

end OpenClipboard.KeepAlive
