import OpenClipboard.ClipboardWrite.EchoSuppression

/-!
# Orderly schedules

Writes that take their turn: a write begins after the echo of the last one has
been attributed, no echo is dropped by the watcher or attributed before its
write has armed the fallback, and no user copy comes between the fallback and
the echo.  Then a fallback is pending only while the echo it waits for is on
its way, and no user copy meets it.
-/

namespace OpenClipboard

open ContentHash Transition

namespace OriginStore

variable {store : OriginStore} {now expiresAt ttl : Nat}
variable {key guardKey : String} {attribution : SelfWriteAttribution}

theorem pruneExpired_nextChanges_nil (noFallback : store.nextChanges = []) :
    (store.pruneExpired now).nextChanges = [] := by
  unfold pruneExpired
  rw [noFallback]
  rfl

theorem recordSelfWrite_content_nil (noFallback : store.nextChanges = []) :
    (store.recordSelfWrite now (.byContent key) attribution ttl).nextChanges =
      [] :=
  pruneExpired_nextChanges_nil noFallback

theorem recordSelfWrite_fallback_nil (noFallback : store.nextChanges = []) :
    (store.recordSelfWrite now (.byNextChange guardKey) attribution
      ttl).nextChanges = [⟨guardKey, attribution, now + ttl⟩] := by
  unfold recordSelfWrite
  simp only [pruneExpired_nextChanges_nil noFallback]
  rfl

theorem attribute_nextChanges_nil (noFallback : store.nextChanges = []) :
    (store.attributeObservedChange now key).2.nextChanges = [] := by
  have pruned : (store.pruneExpired now).nextChanges = [] :=
    pruneExpired_nextChanges_nil noFallback
  unfold attributeObservedChange
  simp only [pruned]
  split
  · rfl
  · exact pruned

theorem attribute_nextChanges_armed
    (armed : store.nextChanges = [⟨guardKey, attribution, expiresAt⟩])
    (isOwn : ∀ record ∈ (store.pruneExpired now).contentRecords.find?
        (fun record => decide (record.snapshotHash = key)),
      record.snapshotHash = guardKey ∧ record.attribution = attribution) :
    (store.attributeObservedChange now key).2.nextChanges = [] := by
  by_cases live : now ≤ expiresAt
  · have pruned : (store.pruneExpired now).nextChanges =
        [⟨guardKey, attribution, expiresAt⟩] := by
      unfold pruneExpired
      rw [armed]
      simp [live]
    unfold attributeObservedChange
    simp only [pruned]
    split
    · rename_i record found
      obtain ⟨sameKey, sameAttribution⟩ := isOwn record found
      have isKey : record.snapshotHash = key := by
        have satisfies := List.find?_some found
        simpa using satisfies
      have same : guardKey = key ∧ attribution = record.attribution :=
        ⟨sameKey.symm.trans isKey, sameAttribution.symm⟩
      simp [retire, same]
    · rfl
  · have pruned : (store.pruneExpired now).nextChanges = [] := by
      unfold pruneExpired
      rw [armed]
      simp [live]
    unfold attributeObservedChange
    simp only [pruned]
    split
    · rfl
    · exact pruned

end OriginStore

def ChangeAuthor.writeId : ChangeAuthor → Option Nat
  | .user => none
  | .write id => some id

variable {id : Nat} {task : WriteTask} {event : ObservedChange}

namespace EchoState

def echoes (state : EchoState) : List Nat :=
  (state.events ++ state.changes).filterMap fun change => change.author.writeId

def AllFinished (state : EchoState) : Prop :=
  ∀ id task, state.writes.find id = some task → task.stage = .finished

variable (env : EchoEnv)

/-- The writes take their turn. -/
def Orderly (state : EchoState) : EchoAction → Prop
  | .beginWrite _ _ _ => state.AllFinished ∧ state.echoes = []
  | .observe => ∀ change ∈ state.changes.head?, change.author ≠ .user →
      (state.watch env change).map Prod.fst = some true
  | .attributeNext => ∀ event ∈ state.events.head?,
      match event.author with
      | .user => ∀ id ∈ state.echoes, ∀ task ∈ state.writes.find id,
          task.stage ≠ .finished
      | .write id => event.snapshot.representations ≠ [] ∧
          ∀ task ∈ state.writes.find id, task.stage = .finished ∧
            ∀ key ∈ event.snapshot.originGuardKey env.blake3 env.readFile,
              ∀ record ∈
                  (state.ledger.pruneExpired state.now).contentRecords.find?
                    (fun record => decide (record.snapshotHash = key)),
                record.snapshotHash = task.guardKey ∧
                  record.attribution = task.intent.attribution
  | _ => True

def OthersFinished (state : EchoState) (id : Nat) : Prop :=
  ∀ other task, other ≠ id → state.writes.find other = some task →
    task.stage = .finished

/-- How far the only write in flight has come: a fallback is pending only while
its echo is on its way. -/
inductive Phase (state : EchoState) : Prop
  | idle :
      state.AllFinished → state.echoes = [] →
      state.ledger.nextChanges = [] → Phase state
  | writing (id : Nat) :
      state.OthersFinished id →
      (∀ task, state.writes.find id = some task → task.stage ≠ .landed) →
      state.echoes = [] → state.ledger.nextChanges = [] → Phase state
  | landed (id : Nat) (task : WriteTask) :
      state.writes.find id = some task → task.stage = .landed →
      state.OthersFinished id → state.echoes = [id] →
      state.ledger.nextChanges = [] → Phase state
  | armed (id : Nat) (task : WriteTask) (expiresAt : Nat) :
      state.writes.find id = some task → state.AllFinished →
      state.echoes = [id] →
      state.ledger.nextChanges =
        [⟨task.guardKey, task.intent.attribution, expiresAt⟩] →
      Phase state

variable {env} {state next : EchoState} {action : EchoAction}

/-! ## One write in flight -/

theorem AllFinished.othersFinished (allFinished : state.AllFinished)
    (id : Nat) : state.OthersFinished id :=
  fun other task _ found => allFinished other task found

theorem OthersFinished.put (others : state.OthersFinished id)
    (stored : next.writes = state.writes.put id task) :
    next.OthersFinished id := by
  intro other otherTask different found
  rw [stored, Table.find_put_of_ne different] at found
  exact others other otherTask different found

theorem OthersFinished.finish (others : state.OthersFinished id)
    (stored : next.writes = state.writes.put id task)
    (finished : task.stage = .finished) : next.AllFinished := by
  intro other otherTask found
  rw [stored, Table.find_put] at found
  split at found
  · rw [← Option.some.inj found]
    exact finished
  · rename_i different
    exact others other otherTask different found

theorem Phase.of_notLanded (phase : state.Phase)
    (found : state.writes.find id = some task)
    (unfinished : task.stage ≠ .finished) (notLanded : task.stage ≠ .landed) :
    state.OthersFinished id ∧ state.echoes = [] ∧
      state.ledger.nextChanges = [] := by
  cases phase with
  | idle allFinished noEcho noFallback =>
      exact absurd (allFinished id task found) unfinished
  | writing current others _ noEcho noFallback =>
      by_cases same : id = current
      · rw [same]
        exact ⟨others, noEcho, noFallback⟩
      · exact absurd (others id task same found) unfinished
  | landed current landedTask isTask hasLanded others _ _ =>
      by_cases same : id = current
      · subst same
        rw [found] at isTask
        cases isTask
        exact absurd hasLanded notLanded
      · exact absurd (others id task same found) unfinished
  | armed _ _ _ _ allFinished _ _ =>
      exact absurd (allFinished id task found) unfinished

theorem Phase.of_landed (phase : state.Phase)
    (found : state.writes.find id = some task)
    (hasLanded : task.stage = .landed) :
    state.OthersFinished id ∧ state.echoes = [id] ∧
      state.ledger.nextChanges = [] := by
  have unfinished : task.stage ≠ .finished := by
    rw [hasLanded]
    decide
  cases phase with
  | idle allFinished _ _ =>
      exact absurd (allFinished id task found) unfinished
  | writing current others notLanded _ _ =>
      by_cases same : id = current
      · subst same
        exact absurd hasLanded (notLanded task found)
      · exact absurd (others id task same found) unfinished
  | landed current landedTask isTask _ others oneEcho noFallback =>
      by_cases same : id = current
      · rw [same]
        exact ⟨others, oneEcho, noFallback⟩
      · exact absurd (others id task same found) unfinished
  | armed _ _ _ _ allFinished _ _ =>
      exact absurd (allFinished id task found) unfinished

theorem Phase.congr (phase : state.Phase)
    (sameWrites : next.writes = state.writes)
    (sameEchoes : next.echoes = state.echoes)
    (sameFallbacks : next.ledger.nextChanges = state.ledger.nextChanges) :
    next.Phase := by
  cases phase with
  | idle allFinished noEcho noFallback =>
      apply Phase.idle
      · unfold AllFinished
        rw [sameWrites]
        exact allFinished
      · rw [sameEchoes]
        exact noEcho
      · rw [sameFallbacks]
        exact noFallback
  | writing id others notLanded noEcho noFallback =>
      apply Phase.writing id
      · unfold OthersFinished
        rw [sameWrites]
        exact others
      · rw [sameWrites]
        exact notLanded
      · rw [sameEchoes]
        exact noEcho
      · rw [sameFallbacks]
        exact noFallback
  | landed id task found hasLanded others oneEcho noFallback =>
      apply Phase.landed id task
      · rw [sameWrites]
        exact found
      · exact hasLanded
      · unfold OthersFinished
        rw [sameWrites]
        exact others
      · rw [sameEchoes]
        exact oneEcho
      · rw [sameFallbacks]
        exact noFallback
  | armed id task expiresAt found allFinished oneEcho oneFallback =>
      apply Phase.armed id task expiresAt
      · rw [sameWrites]
        exact found
      · unfold AllFinished
        rw [sameWrites]
        exact allFinished
      · rw [sameEchoes]
        exact oneEcho
      · rw [sameFallbacks]
        exact oneFallback

theorem echoes_append_user {snapshot : SystemClipboardSnapshot}
    (sameEvents : next.events = state.events)
    (copied : next.changes = state.changes ++ [⟨snapshot, .user⟩]) :
    next.echoes = state.echoes := by
  unfold echoes
  rw [sameEvents, copied, ← List.append_assoc, List.filterMap_append]
  exact List.append_nil _

theorem echoes_append_write {snapshot : SystemClipboardSnapshot}
    (sameEvents : next.events = state.events)
    (landed : next.changes = state.changes ++ [⟨snapshot, .write id⟩]) :
    next.echoes = state.echoes ++ [id] := by
  unfold echoes
  rw [sameEvents, landed, ← List.append_assoc, List.filterMap_append]
  rfl

theorem echoes_observe (orderly : Orderly env state .observe)
    (stepped : state.observe env = some next) : next.echoes = state.echoes := by
  obtain ⟨change, rest, isEmitted, watcher, pending, watched, same⟩ :=
    observe_eq_some stepped
  rw [same]
  unfold echoes
  simp only [pending]
  by_cases isUser : change.author = .user
  · cases isEmitted with
    | true => simp
    | false => simp [isUser, ChangeAuthor.writeId]
  · have emitted : isEmitted = true := by
      have passes := orderly change (by rw [pending]; rfl) isUser
      rw [watched] at passes
      exact Option.some.inj passes
    simp [emitted]

theorem echoes_of_head {rest : List ObservedChange}
    (pending : state.events = event :: rest) (taken : next.events = rest)
    (sameChanges : next.changes = state.changes) :
    state.echoes = event.author.writeId.toList ++ next.echoes := by
  unfold echoes
  rw [pending, taken, sameChanges, List.cons_append, List.filterMap_cons]
  cases event.author with
  | user => rfl
  | write id => rfl

theorem Phase.nextChanges_of_user (phase : state.Phase)
    (orderly : Orderly env state .attributeNext)
    (isHead : event ∈ state.events.head?) (isUser : event.author = .user) :
    state.ledger.nextChanges = [] := by
  cases phase with
  | idle _ _ noFallback => exact noFallback
  | writing _ _ _ _ noFallback => exact noFallback
  | landed _ _ _ _ _ _ noFallback => exact noFallback
  | armed id task _ found allFinished oneEcho _ =>
      have waits := orderly event isHead
      rw [isUser] at waits
      have isEcho : id ∈ state.echoes := by
        rw [oneEcho]
        exact List.mem_singleton_self id
      exact absurd (allFinished id task found) (waits id isEcho task found)

theorem Phase.noPendingFallback (phase : state.Phase)
    (orderly : Orderly env state action) :
    noPendingFallback env state action := by
  cases action with
  | attributeNext =>
      intro event isHead isUser _ key _ _
      apply OriginStore.pruneExpired_nextChanges_nil
      exact phase.nextChanges_of_user orderly isHead isUser
  | _ => trivial

/-- The echo of the write that is armed consumes its fallback. -/
theorem Phase.attribute_echo (phase : state.Phase)
    (orderly : Orderly env state .attributeNext)
    (stepped : state.attributeNext env = some next)
    (isHead : event ∈ state.events.head?) (isEcho : event.author = .write id) :
    next.Phase := by
  obtain ⟨first, rest, pending, taken⟩ := attributeNext_eq_some stepped
  have same : first = event := by
    rw [pending] at isHead
    exact Option.some.inj isHead
  subst same
  have turn := orderly first isHead
  rw [isEcho] at turn
  obtain ⟨nonempty, ownTask⟩ := turn
  rcases taken with ⟨isEmpty, _⟩ | ⟨_, key, keyed, same⟩
  · exact absurd isEmpty nonempty
  have heads : state.echoes = id :: next.echoes := by
    rw [echoes_of_head pending (by rw [same] : next.events = rest)
      (by rw [same]), isEcho]
    rfl
  cases phase with
  | idle _ noEcho _ =>
      rw [noEcho] at heads
      exact absurd heads.symm (List.cons_ne_nil id _)
  | writing _ _ _ noEcho _ =>
      rw [noEcho] at heads
      exact absurd heads.symm (List.cons_ne_nil id _)
  | landed current task found hasLanded _ oneEcho _ =>
      rw [oneEcho] at heads
      obtain ⟨sameId, _⟩ := List.cons.inj heads
      subst sameId
      have finished := (ownTask task found).1
      rw [hasLanded] at finished
      cases finished
  | armed current task expiresAt found allFinished oneEcho oneFallback =>
      rw [oneEcho] at heads
      obtain ⟨sameId, noEcho⟩ := List.cons.inj heads
      subst sameId
      apply Phase.idle
      · unfold AllFinished
        rw [same]
        exact allFinished
      · exact noEcho.symm
      · rw [same]
        apply OriginStore.attribute_nextChanges_armed oneFallback
        exact (ownTask task found).2 key keyed

theorem Phase.attribute_user (phase : state.Phase)
    (orderly : Orderly env state .attributeNext)
    (stepped : state.attributeNext env = some next)
    (isHead : event ∈ state.events.head?) (isUser : event.author = .user) :
    next.Phase := by
  have noFallback := phase.nextChanges_of_user orderly isHead isUser
  obtain ⟨first, rest, pending, taken⟩ := attributeNext_eq_some stepped
  have same : first = event := by
    rw [pending] at isHead
    exact Option.some.inj isHead
  subst same
  have sameEchoes : next.events = rest → next.changes = state.changes →
      next.echoes = state.echoes := by
    intro isRest sameChanges
    rw [echoes_of_head pending isRest sameChanges, isUser]
    rfl
  rcases taken with ⟨_, same⟩ | ⟨_, key, _, same⟩
  · apply phase.congr
    · rw [same]
    · exact sameEchoes (by rw [same]) (by rw [same])
    · rw [same]
  · apply phase.congr
    · rw [same]
    · exact sameEchoes (by rw [same]) (by rw [same])
    · rw [same, noFallback]
      exact OriginStore.attribute_nextChanges_nil noFallback

theorem Phase.step (phase : state.Phase) (orderly : Orderly env state action)
    (stepped : state.step env action = some next) : next.Phase := by
  cases action with
  | wait duration =>
      cases stepped
      exact phase.congr rfl rfl rfl
  | userCopy snapshot =>
      cases stepped
      exact phase.congr rfl (echoes_append_user rfl rfl) rfl
  | beginWrite id snapshot intent =>
      obtain ⟨allFinished, noEcho⟩ := orderly
      rcases beginWrite_eq_some stepped with same | ⟨guardKey, _, same⟩
      · rw [same]
        exact phase
      · have noFallback : state.ledger.nextChanges = [] := by
          cases phase with
          | idle _ _ noFallback => exact noFallback
          | writing _ _ _ _ noFallback => exact noFallback
          | landed _ _ _ _ _ _ noFallback => exact noFallback
          | armed _ _ _ _ _ oneEcho _ =>
              rw [noEcho] at oneEcho
              cases oneEcho
        rw [same]
        apply Phase.writing id
        · exact (allFinished.othersFinished id).put rfl
        · intro task found
          rw [recorded, Table.find_put_self] at found
          rw [← Option.some.inj found]
          exact fun isLanded => nomatch isLanded
        · exact noEcho
        · exact OriginStore.recordSelfWrite_content_nil noFallback
  | landWrite id echo =>
      obtain ⟨task, found, isRecorded, same⟩ := atStage_eq_some stepped
      obtain ⟨others, noEcho, noFallback⟩ := phase.of_notLanded found
        (by rw [isRecorded]; decide) (by rw [isRecorded]; decide)
      apply Phase.landed id { task with stage := .landed }
      · rw [same]
        exact Table.find_put_self
      · rfl
      · apply others.put
        rw [same]
        rfl
      · have appended : next.echoes = state.echoes ++ [id] := by
          apply echoes_append_write
          · rw [same]
            rfl
          · rw [same]
        rw [appended, noEcho]
        rfl
      · rw [same]
        exact noFallback
  | failWrite id =>
      obtain ⟨task, found, isRecorded, same⟩ := atStage_eq_some stepped
      obtain ⟨others, noEcho, noFallback⟩ := phase.of_notLanded found
        (by rw [isRecorded]; decide) (by rw [isRecorded]; decide)
      rw [same]
      apply Phase.writing id
      · exact others.put rfl
      · intro failedTask isFailed
        rw [setStage, Table.find_put_self] at isFailed
        rw [← Option.some.inj isFailed]
        exact fun isLanded => nomatch isLanded
      · exact noEcho
      · exact noFallback
  | unwindWrite id =>
      obtain ⟨task, found, hasFailed, same⟩ := atStage_eq_some stepped
      obtain ⟨others, noEcho, noFallback⟩ := phase.of_notLanded found
        (by rw [hasFailed]; decide) (by rw [hasFailed]; decide)
      have finished : ({ task with stage := .finished } : WriteTask).stage =
          .finished := rfl
      apply Phase.idle
      · apply others.finish _ finished
        rw [same]
        rfl
      · rw [same]
        exact noEcho
      · rw [same]
        exact OriginStore.attribute_nextChanges_nil noFallback
  | armFallback id =>
      obtain ⟨task, found, hasLanded, same⟩ := atStage_eq_some stepped
      obtain ⟨others, oneEcho, noFallback⟩ := phase.of_landed found hasLanded
      rw [same]
      apply Phase.armed id { task with stage := .finished }
        (state.now + task.intent.echoBudget)
      · exact Table.find_put_self
      · exact others.finish rfl rfl
      · exact oneEcho
      · exact OriginStore.recordSelfWrite_fallback_nil noFallback
  | observe =>
      have sameEchoes := echoes_observe orderly stepped
      obtain ⟨change, rest, isEmitted, watcher, _, _, same⟩ :=
        observe_eq_some stepped
      apply phase.congr
      · rw [same]
      · exact sameEchoes
      · rw [same]
  | attributeNext =>
      obtain ⟨event, rest, pending, _⟩ := attributeNext_eq_some stepped
      have isHead : event ∈ state.events.head? := by
        rw [pending]
        rfl
      cases author : event.author with
      | user => exact phase.attribute_user orderly stepped isHead author
      | write id => exact phase.attribute_echo orderly stepped isHead author

theorem fresh_phase : fresh.Phase := by
  apply Phase.idle
  · intro id task found
    rw [fresh, Table.find_empty] at found
    cases found
  · rfl
  · rfl

theorem allLocal_of_orderly {finish : EchoState}
    (run : Run (step env) (Orderly env) fresh finish) : finish.AllLocal := by
  have kept : finish.Phase ∧ finish.Tracked ∧ finish.AllLocal := by
    apply run.preserves ⟨fresh_phase, fresh_tracked, fresh_allLocal⟩
    intro before action after ⟨phase, tracked, allLocal⟩ orderly stepped
    refine ⟨phase.step orderly stepped, tracked.step stepped, ?_⟩
    apply (allLocal_step_iff tracked allLocal stepped).mpr
    exact phase.noPendingFallback orderly
  exact kept.2.2

/-- A user copy whose content was not just written counts as a local capture
exactly as long as it finds no pending fallback, and so in every orderly
schedule. -/
theorem userCopiesStayLocal (env : EchoEnv) (actions : List EchoAction) :
    ((∀ done finish, done <+: actions →
        execute (step env) fresh done = some finish → finish.AllLocal) ↔
      Guarded (step env) (EchoState.noPendingFallback env) fresh actions) ∧
    ∀ finish, Run (step env) (Orderly env) fresh finish → finish.AllLocal :=
  ⟨allLocal_iff_noPendingFallback actions, fun _ run =>
    allLocal_of_orderly run⟩

/-! ## A push of what is on the clipboard -/

instance (state : EchoState) (action : EchoAction) :
    Decidable (EchoState.noPendingFallback env state action) := by
  cases action <;> unfold EchoState.noPendingFallback <;> infer_instance

def sampleEnv : EchoEnv where
  blake3 := fun bytes => ⟨bytes.takeD 32 0, List.takeD_length 32 bytes 0⟩
  readFile := fun _ => none
  loadFromMemory := fun _ => none
  channelCapacity := 64
  cooldown := 30000

def sampleText (content : String) : SystemClipboardSnapshot where
  tsMs := 0
  representations := [ObservedClipboardRepresentation.new "rep" "text"
    (some "text/plain") (Text.asBytes content)]

/-- A push whose echo is attributed before the user copies. -/
def pushThenCopy : List EchoAction :=
  [.beginWrite 0 (sampleText "pushed") .remotePush,
    .landWrite 0 (sampleText "pushed"), .armFallback 0, .observe,
    .attributeNext, .userCopy (sampleText "copied"), .observe, .attributeNext]

theorem userCopiesStayLocal_pushThenCopy :
    ∃ finish, execute (step sampleEnv) fresh pushThenCopy = some finish ∧
      finish.attributed = [⟨.write 0, true, .remotePush none⟩,
        ⟨.user, false, .localCapture⟩] ∧
      finish.AllLocal := by
  have ran : (execute (step sampleEnv) fresh pushThenCopy).map
      EchoState.attributed = some [⟨.write 0, true, .remotePush none⟩,
        ⟨.user, false, .localCapture⟩] := by
    decide +kernel
  obtain ⟨finish, executed, attributed⟩ := Option.map_eq_some_iff.mp ran
  have guarded : Guarded (step sampleEnv)
      (EchoState.noPendingFallback sampleEnv) fresh pushThenCopy := by
    decide +kernel
  exact ⟨finish, executed, attributed,
    (userCopiesStayLocal sampleEnv pushThenCopy).1.mpr guarded _ finish
      List.prefix_rfl executed⟩

/-- The watcher drops the echo of a push of what is on the clipboard, and the
fallback of the push swallows the next copy. -/
theorem pushOfSameText_swallows_copy :
    ¬ ∀ (env : EchoEnv) (actions : List EchoAction) finish,
      execute (step env) fresh actions = some finish → finish.AllLocal := by
  intro holds
  have ran : (execute (step sampleEnv) fresh
      [.userCopy (sampleText "same"), .observe, .attributeNext, .wait 100,
        .beginWrite 0 (sampleText "same") .remotePush,
        .landWrite 0 (sampleText "same"), .armFallback 0, .observe, .wait 100,
        .userCopy (sampleText "copied"), .observe, .attributeNext]).map
        EchoState.attributed = some [⟨.user, false, .localCapture⟩,
          ⟨.user, false, .remotePush none⟩] := by
    decide +kernel
  obtain ⟨finish, executed, attributed⟩ := Option.map_eq_some_iff.mp ran
  have allLocal := holds sampleEnv _ finish executed
  unfold AllLocal at allLocal
  rw [attributed] at allLocal
  have swallowed := allLocal ⟨.user, false, .remotePush none⟩
    (List.mem_cons_of_mem _ List.mem_cons_self) rfl rfl
  cases swallowed

end EchoState

end OpenClipboard
