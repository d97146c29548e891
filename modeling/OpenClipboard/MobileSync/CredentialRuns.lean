import OpenClipboard.MobileSync.Credentials
import OpenClipboard.Library.Base64Text
import OpenClipboard.Library.Table
import OpenClipboard.Library.Transition

/-!
# Calls on the registered devices

A registration looks its username up and saves later; an update reads its
device, looks its username up and writes later.  Between two steps of a call any
other call may take its own.
-/

namespace OpenClipboard.MobileSync

open Text Transition

inductive CredentialCall where
  | saving (device : MobileDevice) (password : String)
  | loaded (input : UpdateInput) (device : MobileDevice)
  | writing (device : MobileDevice) (plaintext : Option String)
  deriving DecidableEq, Repr

/-- The rows, the calls in flight by task, and the password that the last
successful registration or password change of a device reported. -/
structure CredentialWorld where
  rows : MobileDeviceRows
  inFlight : Table Nat CredentialCall
  passwords : Table String String

inductive CredentialAction where
  | register (task : Nat) (input : RegisterInput) (env : RegisterEnv)
  | save (task : Nat) (rendered : Bool)
  | loadForUpdate (task : Nat) (input : UpdateInput)
  | prepareUpdate (task : Nat) (env : UpdateEnv)
  | write (task : Nat)
  | storageFails (task : Nat)
  | revoke (deviceId : String)
  | authenticate (header : String)

namespace CredentialWorld

def start : CredentialWorld := ⟨[], ∅, ∅⟩

variable (hasher : PasswordHasher) (world : CredentialWorld)

/-- Store the step that the call takes next. -/
def suspend (task : Nat) (call : CredentialCall) : CredentialWorld :=
  { world with inFlight := world.inFlight.put task call }

def finish (task : Nat) : CredentialWorld :=
  { world with inFlight := world.inFlight.remove task }

/-- The end of a registration; once saved, the device stays even where its
connect URI or its QR code cannot be rendered. -/
def saved (device : MobileDevice) (password : String) (rendered : Bool) :
    CredentialWorld :=
  match world.rows.save device with
  | .error _ => world
  | .ok rows =>
      { world with
        rows := rows
        passwords :=
          if rendered then world.passwords.put device.deviceId password
          else world.passwords }

/-- The end of an update. -/
def written (device : MobileDevice) (plaintext : Option String) :
    CredentialWorld :=
  match world.rows.update device with
  | .error _ => world
  | .ok (false, _) => world
  | .ok (true, rows) =>
      { world with
        rows := rows
        passwords :=
          match plaintext with
          | some password => world.passwords.put device.deviceId password
          | none => world.passwords }

def step : CredentialAction → Option CredentialWorld
  | .register task input env =>
      match world.inFlight.find task with
      | some _ => none
      | none =>
          match prepareRegistration hasher world.rows input env with
          | .error _ => some world
          | .ok (device, password) =>
              some (world.suspend task (.saving device password))
  | .save task rendered =>
      match world.inFlight.find task with
      | some (.saving device password) =>
          some ((world.saved device password rendered).finish task)
      | _ => none
  | .loadForUpdate task input =>
      match world.inFlight.find task with
      | some _ => none
      | none =>
          match world.rows.findByDeviceId input.deviceId with
          | none => some world
          | some device => some (world.suspend task (.loaded input device))
  | .prepareUpdate task env =>
      match world.inFlight.find task with
      | some (.loaded input device) =>
          match prepareUpdate hasher world.rows input env device with
          | .error _ => some (world.finish task)
          | .ok (edited, plaintext) =>
              some (world.suspend task (.writing edited plaintext))
      | _ => none
  | .write task =>
      match world.inFlight.find task with
      | some (.writing device plaintext) =>
          some ((world.written device plaintext).finish task)
      | _ => none
  | .storageFails task =>
      match world.inFlight.find task with
      | some _ => some (world.finish task)
      | none => none
  | .revoke deviceId =>
      some { world with
        rows := (world.rows.delete deviceId).2
        passwords := world.passwords.remove deviceId }
  | .authenticate _ => some world

/-- A header passes exactly if it names a registered device and the password
that its last successful registration or password change reported. -/
def AcceptsLastPasswords (base64 : Base64) : Prop :=
  ∀ header, (∃ device, authenticate base64 hasher world.rows header =
      .ok device) ↔
    ∃ username password,
      parseBasicHeader base64 header = some (username, password) ∧
        ∃ device ∈ world.rows, device.username = username ∧
          world.passwords.find device.deviceId = some password

def UsernamesUnique : Prop :=
  (world.rows.map MobileDevice.username).Nodup

/-- A saved registration is also reported, and an update that keeps the
password writes back a hash of the password that its row has. -/
def Fits : CredentialAction → Prop
  | .save task rendered => ∀ device password rows,
      world.inFlight.find task = some (.saving device password) →
        world.rows.save device = .ok rows → rendered = true
  | .write task => ∀ device rows,
      world.inFlight.find task = some (.writing device none) →
        world.rows.update device = .ok (true, rows) →
          ∀ row ∈ world.rows, row.deviceId = device.deviceId →
            ∀ password, hasher.verify password device.passwordHash =
              hasher.verify password row.passwordHash
  | _ => True

end CredentialWorld

/-! ## What the calls keep -/

variable {device : MobileDevice} {password : String} {plaintext : Option String}

section Steps

variable {hasher : PasswordHasher} {base64 : Base64}

def CredentialCall.Sound (hasher : PasswordHasher) : CredentialCall → Prop
  | .saving device password => HasCredential hasher device password
  | .loaded _ device => ∃ old, HasCredential hasher device old
  | .writing device plaintext =>
      ∃ old, HasCredential hasher device (plaintext.getD old)

/-- What every run keeps. -/
structure CredentialWorld.Kept (hasher : PasswordHasher)
    (world : CredentialWorld) : Prop where
  ids : (world.rows.map MobileDevice.deviceId).Nodup
  unique : world.UsernamesUnique
  rows : ∀ row ∈ world.rows, ∃ password, HasCredential hasher row password
  inFlight : ∀ task call, world.inFlight.find task = some call →
    call.Sound hasher
  known : ∀ deviceId password, world.passwords.find deviceId = some password →
    ∃ row ∈ world.rows, row.deviceId = deviceId

/-- The password of every row is the one that was reported for it. -/
def CredentialWorld.Remembers (hasher : PasswordHasher)
    (world : CredentialWorld) : Prop :=
  ∀ row ∈ world.rows, ∀ password, HasCredential hasher row password →
    world.passwords.find row.deviceId = some password

theorem authenticate_eq_ok_iff {rows : MobileDeviceRows} {header : String} :
    authenticate base64 hasher rows header = .ok device ↔
      ∃ username password,
        parseBasicHeader base64 header = some (username, password) ∧
          rows.findByUsername username = some device ∧
            hasher.verify password device.passwordHash = .ok true := by
  unfold authenticate
  constructor
  · intro accepted
    split at accepted
    · cases accepted
    · rename_i username password parsed
      split at accepted
      · cases accepted
      · rename_i found isFound
        split at accepted
        · rename_i verified
          cases accepted
          exact ⟨username, password, parsed, isFound, verified⟩
        · cases accepted
        · cases accepted
        · cases accepted
  · rintro ⟨username, password, parsed, found, verified⟩
    simp only [parsed, found, verified]

variable {world next : CredentialWorld}

theorem acceptsLastPasswords_iff (kept : world.Kept hasher) :
    world.AcceptsLastPasswords hasher base64 ↔ world.Remembers hasher := by
  constructor
  · intro accepts row member password credential
    obtain ⟨nonempty, noColon⟩ := validateUsernameShape_eq_ok credential.1
    have parsed : parseBasicHeader base64
        (basicHeader base64 row.username password) =
          some (row.username, password) :=
      parseBasicHeader_basicHeader nonempty noColon
    have found := MobileDeviceRows.findByUsername_eq_some kept.unique member rfl
    have verified : hasher.verify password row.passwordHash = .ok true := by
      rw [credential.verify, decide_eq_true rfl]
    obtain ⟨username, tried, isParsed, other, isOther, named, reported⟩ :=
      (accepts _).mp ⟨row, authenticate_eq_ok_iff.mpr
        ⟨_, _, parsed, found, verified⟩⟩
    rw [parsed] at isParsed
    cases isParsed
    have same := List.inj_on_of_nodup_map kept.unique isOther member named
    rw [same] at reported
    exact reported
  · intro remembers header
    constructor
    · rintro ⟨device, accepted⟩
      obtain ⟨username, password, parsed, found, verified⟩ :=
        authenticate_eq_ok_iff.mp accepted
      obtain ⟨member, named⟩ := MobileDeviceRows.mem_of_findByUsername found
      obtain ⟨stored, credential⟩ := kept.rows device member
      rw [credential.verify] at verified
      have same : password = stored := by simpa using verified
      refine ⟨username, password, parsed, device, member, named, ?_⟩
      rw [same]
      exact remembers device member stored credential
    · rintro ⟨username, password, parsed, device, member, named, reported⟩
      obtain ⟨stored, credential⟩ := kept.rows device member
      have same := remembers device member stored credential
      rw [reported, Option.some.injEq] at same
      refine ⟨device, authenticate_eq_ok_iff.mpr
        ⟨username, password, parsed, ?_, ?_⟩⟩
      · exact MobileDeviceRows.findByUsername_eq_some kept.unique member named
      · rw [credential.verify, decide_eq_true same]

/-! ### Suspended and finished calls -/

theorem kept_suspend {task : Nat} {call : CredentialCall}
    (kept : world.Kept hasher) (sound : call.Sound hasher) :
    (world.suspend task call).Kept hasher := by
  refine ⟨kept.ids, kept.unique, kept.rows, ?_, kept.known⟩
  intro other held isHeld
  unfold CredentialWorld.suspend at isHeld
  simp only [Table.find_put] at isHeld
  split at isHeld
  · cases isHeld
    exact sound
  · exact kept.inFlight other held isHeld

theorem kept_finish {task : Nat} (kept : world.Kept hasher) :
    (world.finish task).Kept hasher := by
  refine ⟨kept.ids, kept.unique, kept.rows, ?_, kept.known⟩
  intro other held isHeld
  unfold CredentialWorld.finish at isHeld
  simp only [Table.find_remove] at isHeld
  split at isHeld
  · cases isHeld
  · exact kept.inFlight other held isHeld

/-! ### The end of a registration -/

theorem kept_saved {rendered : Bool} (kept : world.Kept hasher)
    (credential : HasCredential hasher device password) :
    (world.saved device password rendered).Kept hasher := by
  unfold CredentialWorld.saved
  cases isSaved : world.rows.save device with
  | error error => exact kept
  | ok rows =>
      obtain ⟨isRows, freshId, freshName⟩ :=
        MobileDeviceRows.save_eq_ok isSaved
      subst isRows
      constructor
      · simp only [List.map_append, List.map_cons, List.map_nil]
        refine List.Nodup.append kept.ids (List.nodup_singleton _) ?_
        intro deviceId member isNew
        obtain ⟨row, isRow, isId⟩ := List.mem_map.mp member
        exact freshId row isRow (isId.trans (List.mem_singleton.mp isNew))
      · unfold CredentialWorld.UsernamesUnique
        simp only [List.map_append, List.map_cons, List.map_nil]
        refine List.Nodup.append kept.unique (List.nodup_singleton _) ?_
        intro username member isNew
        obtain ⟨row, isRow, isName⟩ := List.mem_map.mp member
        exact freshName row isRow (isName.trans (List.mem_singleton.mp isNew))
      · intro row member
        rcases List.mem_append.mp member with old | new
        · exact kept.rows row old
        · rw [List.mem_singleton.mp new]
          exact ⟨password, credential⟩
      · exact kept.inFlight
      · intro deviceId reported isReported
        by_cases isDevice : deviceId = device.deviceId
        · exact ⟨device, List.mem_append_right _ (List.mem_singleton_self _),
            isDevice.symm⟩
        · have before : world.passwords.find deviceId = some reported := by
            simp only at isReported
            split at isReported
            · rwa [Table.find_put_of_ne isDevice] at isReported
            · exact isReported
          obtain ⟨row, member, isRow⟩ := kept.known _ _ before
          exact ⟨row, List.mem_append_left _ member, isRow⟩

theorem remembers_saved_iff {rendered : Bool} (kept : world.Kept hasher)
    (remembers : world.Remembers hasher)
    (credential : HasCredential hasher device password) :
    (world.saved device password rendered).Remembers hasher ↔
      ∀ rows, world.rows.save device = .ok rows → rendered = true := by
  unfold CredentialWorld.saved
  cases isSaved : world.rows.save device with
  | error error => simpa using remembers
  | ok rows =>
      obtain ⟨isRows, freshId, _⟩ := MobileDeviceRows.save_eq_ok isSaved
      subst isRows
      constructor
      · intro after _ _
        by_contra unrendered
        have reported := after device
          (List.mem_append_right _ (List.mem_singleton_self _)) password
          credential
        simp only [if_neg unrendered] at reported
        obtain ⟨row, member, isRow⟩ := kept.known _ _ reported
        exact freshId row member isRow
      · intro isRendered row member stored isStored
        simp only [if_pos (isRendered _ rfl)]
        rcases List.mem_append.mp member with old | new
        · rw [Table.find_put_of_ne (freshId row old)]
          exact remembers row old stored isStored
        · rw [List.mem_singleton.mp new] at isStored ⊢
          rw [Table.find_put_self, isStored.unique credential]

/-! ### The end of an update -/

/-- A row after an update. -/
def MobileDevice.rewritten (device row : MobileDevice) : MobileDevice :=
  if row.deviceId = device.deviceId then
    { row with
      label := device.label
      username := device.username
      passwordHash := device.passwordHash }
  else
    row

theorem MobileDevice.rewritten_deviceId {device row : MobileDevice} :
    (device.rewritten row).deviceId = row.deviceId := by
  unfold MobileDevice.rewritten
  split <;> rfl

theorem MobileDevice.rewritten_of_ne {device row : MobileDevice}
    (other : row.deviceId ≠ device.deviceId) : device.rewritten row = row :=
  if_neg other

theorem hasCredential_rewritten_iff {device row : MobileDevice}
    (same : row.deviceId = device.deviceId) :
    HasCredential hasher (device.rewritten row) password ↔
      HasCredential hasher device password := by
  unfold MobileDevice.rewritten HasCredential
  rw [if_pos same]

theorem written_eq {rows : MobileDeviceRows}
    (updated : world.rows.update device = .ok (true, rows)) :
    world.written device plaintext =
      { world with
        rows := world.rows.map device.rewritten
        passwords :=
          match plaintext with
          | some password => world.passwords.put device.deviceId password
          | none => world.passwords } := by
  have isRows := (MobileDeviceRows.update_eq_ok updated).2.2
  unfold CredentialWorld.written
  simp only [updated]
  rw [isRows]
  rfl

theorem written_of_not_updated
    (unchanged : ∀ rows, world.rows.update device ≠ .ok (true, rows)) :
    world.written device plaintext = world := by
  unfold CredentialWorld.written
  split
  · rfl
  · rfl
  · rename_i rows updated
    exact absurd updated (unchanged rows)

theorem kept_written {old : String} (kept : world.Kept hasher)
    (credential : HasCredential hasher device (plaintext.getD old)) :
    (world.written device plaintext).Kept hasher := by
  by_cases updates : ∃ rows, world.rows.update device = .ok (true, rows)
  · obtain ⟨rows, updated⟩ := updates
    obtain ⟨⟨present, isPresent, isDevice⟩, noCollision, _⟩ :=
      MobileDeviceRows.update_eq_ok updated
    rw [written_eq updated]
    have sameIds : (world.rows.map device.rewritten).map
        MobileDevice.deviceId = world.rows.map MobileDevice.deviceId := by
      rw [List.map_map]
      apply List.map_congr_left
      intro row _
      exact MobileDevice.rewritten_deviceId
    constructor
    · rw [sameIds]
      exact kept.ids
    · unfold CredentialWorld.UsernamesUnique
      rw [List.map_map]
      apply List.Nodup.map_on _ (List.Nodup.of_map _ kept.ids)
      intro first isFirst second isSecond sameName
      simp only [Function.comp_apply] at sameName
      by_cases firstIs : first.deviceId = device.deviceId
      · by_cases secondIs : second.deviceId = device.deviceId
        · exact List.inj_on_of_nodup_map kept.ids isFirst isSecond
            (firstIs.trans secondIs.symm)
        · rw [MobileDevice.rewritten_of_ne secondIs] at sameName
          unfold MobileDevice.rewritten at sameName
          rw [if_pos firstIs] at sameName
          exact absurd sameName.symm (noCollision second isSecond secondIs)
      · rw [MobileDevice.rewritten_of_ne firstIs] at sameName
        by_cases secondIs : second.deviceId = device.deviceId
        · unfold MobileDevice.rewritten at sameName
          rw [if_pos secondIs] at sameName
          exact absurd sameName (noCollision first isFirst firstIs)
        · rw [MobileDevice.rewritten_of_ne secondIs] at sameName
          exact List.inj_on_of_nodup_map kept.unique isFirst isSecond sameName
    · intro row member
      obtain ⟨before, isBefore, isRow⟩ := List.mem_map.mp member
      subst isRow
      by_cases same : before.deviceId = device.deviceId
      · exact ⟨_, (hasCredential_rewritten_iff same).mpr credential⟩
      · rw [MobileDevice.rewritten_of_ne same]
        exact kept.rows before isBefore
    · exact kept.inFlight
    · intro deviceId reported isReported
      have before : ∃ row ∈ world.rows, row.deviceId = deviceId := by
        by_cases same : deviceId = device.deviceId
        · exact ⟨present, isPresent, isDevice.trans same.symm⟩
        · cases plaintext with
          | none => exact kept.known _ _ isReported
          | some password =>
              simp only [Table.find_put_of_ne same] at isReported
              exact kept.known _ _ isReported
      obtain ⟨row, member, isRow⟩ := before
      exact ⟨device.rewritten row, List.mem_map_of_mem member,
        MobileDevice.rewritten_deviceId.trans isRow⟩
  · rw [written_of_not_updated (not_exists.mp updates)]
    exact kept

theorem remembers_written_iff {old : String}
    (remembers : world.Remembers hasher) (kept : world.Kept hasher)
    (credential : HasCredential hasher device (plaintext.getD old)) :
    (world.written device plaintext).Remembers hasher ↔
      ∀ rows, plaintext = none →
        world.rows.update device = .ok (true, rows) →
          ∀ row ∈ world.rows, row.deviceId = device.deviceId →
            ∀ password, hasher.verify password device.passwordHash =
              hasher.verify password row.passwordHash := by
  by_cases updates : ∃ rows, world.rows.update device = .ok (true, rows)
  · obtain ⟨rows, updated⟩ := updates
    rw [written_eq updated]
    constructor
    · intro after _ isNone _ row member same password
      subst isNone
      obtain ⟨stored, isStored⟩ := kept.rows row member
      have before := remembers row member stored isStored
      have now := after (device.rewritten row) (List.mem_map_of_mem member) old
        ((hasCredential_rewritten_iff same).mpr credential)
      rw [MobileDevice.rewritten_deviceId] at now
      have unchanged : stored = old := by
        simpa using before.symm.trans now
      rw [isStored.verify, credential.verify, unchanged]
      rfl
    · intro sameHash row member stored isStored
      obtain ⟨before, isBefore, isRow⟩ := List.mem_map.mp member
      subst isRow
      rw [MobileDevice.rewritten_deviceId]
      by_cases same : before.deviceId = device.deviceId
      · have isNew := ((hasCredential_rewritten_iff same).mp isStored).unique
          credential
        cases plaintext with
        | some password =>
            rw [same, isNew]
            exact Table.find_put_self
        | none =>
            obtain ⟨kept', isKept⟩ := kept.rows before isBefore
            have agree := sameHash _ rfl updated before isBefore same kept'
            rw [isKept.verify, credential.verify] at agree
            have unchanged : kept' = old := by simpa using agree
            rw [isNew]
            rw [unchanged] at isKept
            exact remembers before isBefore old isKept
      · rw [MobileDevice.rewritten_of_ne same] at isStored
        have found := remembers before isBefore stored isStored
        cases plaintext with
        | none => exact found
        | some password =>
            exact (Table.find_put_of_ne same).trans found
  · rw [written_of_not_updated (not_exists.mp updates)]
    apply iff_of_true remembers
    intro rows _ updated
    exact absurd ⟨rows, updated⟩ updates

/-! ### Revocation -/

theorem kept_revoke {deviceId : String} (kept : world.Kept hasher) :
    ({ world with
      rows := (world.rows.delete deviceId).2
      passwords := world.passwords.remove deviceId } :
      CredentialWorld).Kept hasher := by
  have sub : (world.rows.delete deviceId).2.Sublist world.rows :=
    List.filter_sublist
  refine ⟨kept.ids.sublist (sub.map _), kept.unique.sublist (sub.map _), ?_,
    kept.inFlight, ?_⟩
  · intro row member
    exact kept.rows row (sub.subset member)
  · intro other reported isReported
    simp only [Table.find_remove] at isReported
    split at isReported
    · cases isReported
    · rename_i different
      obtain ⟨row, member, isRow⟩ := kept.known _ _ isReported
      refine ⟨row, List.mem_filter.mpr ⟨member, ?_⟩, isRow⟩
      rw [isRow]
      exact decide_eq_true different

theorem remembers_revoke {deviceId : String}
    (remembers : world.Remembers hasher) :
    ({ world with
      rows := (world.rows.delete deviceId).2
      passwords := world.passwords.remove deviceId } :
      CredentialWorld).Remembers hasher := by
  intro row member password credential
  obtain ⟨before, isOther⟩ := List.mem_filter.mp member
  have different : row.deviceId ≠ deviceId := of_decide_eq_true isOther
  simp only [Table.find_remove, if_neg different]
  exact remembers row before password credential

/-! ### Steps -/

theorem credentialStep {action : CredentialAction}
    (kept : world.Kept hasher) (stepped : world.step hasher action = some next) :
    next.Kept hasher ∧
      (world.Remembers hasher →
        (next.Remembers hasher ↔ world.Fits hasher action)) := by
  cases action with
  | register task input env =>
      unfold CredentialWorld.step at stepped
      simp only at stepped
      split at stepped
      · cases stepped
      · split at stepped
        · cases stepped
          exact ⟨kept, fun remembers => iff_of_true remembers trivial⟩
        · rename_i device password prepared
          cases stepped
          exact ⟨kept_suspend kept (prepareRegistration_credential prepared),
            fun remembers => iff_of_true remembers trivial⟩
  | save task rendered =>
      unfold CredentialWorld.step at stepped
      simp only at stepped
      split at stepped
      · rename_i device password found
        cases stepped
        have credential := kept.inFlight task _ found
        refine ⟨kept_finish (kept_saved kept credential), ?_⟩
        intro remembers
        refine Iff.trans (remembers_saved_iff kept remembers credential) ?_
        constructor
        · intro reported other otherPassword rows isOther isSaved
          rw [found] at isOther
          cases isOther
          exact reported rows isSaved
        · intro reported rows isSaved
          exact reported device password rows found isSaved
      · cases stepped
  | loadForUpdate task input =>
      unfold CredentialWorld.step at stepped
      simp only at stepped
      split at stepped
      · cases stepped
      · split at stepped
        · cases stepped
          exact ⟨kept, fun remembers => iff_of_true remembers trivial⟩
        · rename_i device found
          cases stepped
          exact ⟨kept_suspend kept (kept.rows device
              (MobileDeviceRows.mem_of_findByDeviceId found)),
            fun remembers => iff_of_true remembers trivial⟩
  | prepareUpdate task env =>
      unfold CredentialWorld.step at stepped
      simp only at stepped
      split at stepped
      · rename_i input device found
        obtain ⟨old, credential⟩ := kept.inFlight task _ found
        split at stepped
        · cases stepped
          exact ⟨kept_finish kept,
            fun remembers => iff_of_true remembers trivial⟩
        · rename_i edited plaintext prepared
          cases stepped
          exact ⟨kept_suspend kept
              ⟨old, prepareUpdate_credential credential prepared⟩,
            fun remembers => iff_of_true remembers trivial⟩
      · cases stepped
  | write task =>
      unfold CredentialWorld.step at stepped
      simp only at stepped
      split at stepped
      · rename_i device plaintext found
        cases stepped
        obtain ⟨old, credential⟩ := kept.inFlight task _ found
        refine ⟨kept_finish (kept_written kept credential), ?_⟩
        intro remembers
        have writes := remembers_written_iff remembers kept credential
        refine Iff.trans writes ?_
        constructor
        · intro sameHash other rows isOther updated
          rw [found] at isOther
          cases isOther
          exact sameHash rows rfl updated
        · intro sameHash rows isNone updated
          subst isNone
          exact sameHash device rows found updated
      · cases stepped
  | storageFails task =>
      unfold CredentialWorld.step at stepped
      simp only at stepped
      split at stepped
      · cases stepped
        exact ⟨kept_finish kept,
          fun remembers => iff_of_true remembers trivial⟩
      · cases stepped
  | revoke deviceId =>
      cases stepped
      exact ⟨kept_revoke kept,
        fun remembers => iff_of_true (remembers_revoke remembers) trivial⟩
  | authenticate header =>
      cases stepped
      exact ⟨kept, fun remembers => iff_of_true remembers trivial⟩

theorem kept_start : CredentialWorld.start.Kept hasher := by
  constructor
  · exact List.nodup_nil
  · exact List.nodup_nil
  · intro row member
    cases member
  · intro task call found
    have absent : CredentialWorld.start.inFlight.find task = none :=
      Table.find_empty
    rw [absent] at found
    cases found
  · intro deviceId password found
    have absent : CredentialWorld.start.passwords.find deviceId = none :=
      Table.find_empty
    rw [absent] at found
    cases found

end Steps

/-- At every point of a run usernames are unique and headers are accepted as
they should, exactly if every step fits. -/
theorem credentialsKept_iff (hasher : PasswordHasher) (base64 : Base64)
    (actions : List CredentialAction) :
    (∀ done world, done <+: actions →
      execute (CredentialWorld.step hasher) .start done = some world →
        world.UsernamesUnique ∧ world.AcceptsLastPasswords hasher base64) ↔
      Guarded (CredentialWorld.step hasher) (CredentialWorld.Fits hasher)
        .start actions := by
  have runs := @guarded_iff_history _ _ (CredentialWorld.step hasher)
    (CredentialWorld.Fits hasher)
    (fun _ world => world.Kept hasher ∧ world.Remembers hasher) [] actions
    .start ?disabled ?stepwise ?initially
  case disabled =>
    intro world action _ disabled
    cases action with
    | save task rendered =>
        intro device password rows found
        unfold CredentialWorld.step at disabled
        simp only [found] at disabled
        cases disabled
    | write task =>
        intro device rows found
        unfold CredentialWorld.step at disabled
        simp only [found] at disabled
        cases disabled
    | register task input env => trivial
    | loadForUpdate task input => trivial
    | prepareUpdate task env => trivial
    | storageFails task => trivial
    | revoke deviceId => trivial
    | authenticate header => trivial
  case stepwise =>
    intro _ world action _ next holds stepped
    obtain ⟨kept, remembers⟩ := credentialStep holds.1 stepped
    rw [← remembers holds.2]
    exact and_iff_right kept
  case initially =>
    refine ⟨kept_start, ?_⟩
    intro row member
    cases member
  rw [← runs]
  have kept : ∀ done world,
      execute (CredentialWorld.step hasher) .start done = some world →
        world.Kept hasher := by
    intro done world executed
    apply (Run.ofExecute (guarded_anyAction _ _ done) executed).preserves
      kept_start
    intro before action after isKept _ stepped
    exact (credentialStep isKept stepped).1
  constructor
  · intro throughout done world isPrefix executed
    have isKept := kept done world executed
    exact ⟨isKept, (acceptsLastPasswords_iff isKept).mp
      (throughout done world isPrefix executed).2⟩
  · intro throughout done world isPrefix executed
    obtain ⟨isKept, remembers⟩ := throughout done world isPrefix executed
    exact ⟨isKept.unique, (acceptsLastPasswords_iff isKept).mpr remembers⟩

namespace Sample

def standardBase64 : Base64 where
  encode bytes := String.ofList (Base64Text.encode bytes)
  decode text := Base64Text.decode text.toList
  decode_encode bytes := by
    rw [String.toList_ofList]
    exact Base64Text.decode_encode bytes
  noWhitespace bytes c member := by
    rw [String.toList_ofList] at member
    rcases Base64Text.mem_encode bytes c member with isDigit | isPad
    · have digits : Base64Text.alphabet.all (fun c => !isWhitespace c) =
          true := by decide +kernel
      simpa using List.all_eq_true.mp digits c isDigit
    · rw [isPad]
      decide
  nonempty bytes someBytes := by
    rw [String.toList_ofList]
    exact Base64Text.encode_ne_nil someBytes

def plainHasher : PasswordHasher where
  hash _ password := "$plain$" ++ password
  verify password hashed := .ok (decide ("$plain$" ++ password = hashed))
  verify_hash salt hashed password := by simp

def minted : MintedCredentials where
  username := "mobile_1"
  password := "generated"
  salt := []
  deviceId := "did_1"
  shape := by decide +kernel

/-- A phone is registered; its label is edited while its password is
changed. -/
def labelEdit : List CredentialAction :=
  [.register 0 ⟨"Phone", none, some "first password"⟩
      ⟨.ok true, .ok (), minted, [], none⟩,
    .save 0 true,
    .loadForUpdate 1 ⟨"did_1", some "Desk phone", none, .keep⟩,
    .loadForUpdate 2 ⟨"did_1", none, none, .custom "second password"⟩,
    .prepareUpdate 2 ⟨minted, [], none⟩,
    .write 2,
    .prepareUpdate 1 ⟨minted, [], none⟩,
    .write 1]

end Sample

open Sample in
/-- All calls have succeeded, the second password is refused and the first one
is accepted. -/
theorem labelEdit_restoresPassword :
    (execute (CredentialWorld.step plainHasher) .start labelEdit).map
      (fun world =>
        (["first password", "second password"].map fun password =>
          (authenticate standardBase64 plainHasher world.rows
            (basicHeader standardBase64 "mobile_1" password)).toOption.map
              MobileDevice.label)) =
      some [some "Desk phone", none] ∧
    ¬ ∀ done world, done <+: labelEdit →
      execute (CredentialWorld.step plainHasher) .start done = some world →
        world.UsernamesUnique ∧
          world.AcceptsLastPasswords plainHasher standardBase64 := by
  have accepted :
      (execute (CredentialWorld.step plainHasher) .start labelEdit).map
      (fun world =>
        (["first password", "second password"].map fun password =>
          (authenticate standardBase64 plainHasher world.rows
            (basicHeader standardBase64 "mobile_1" password)).toOption.map
              MobileDevice.label)) =
      some [some "Desk phone", none] := by
    decide +kernel
  have reported :
      (execute (CredentialWorld.step plainHasher) .start labelEdit).map
      (fun world => world.rows.map fun row =>
        (row.username, world.passwords.find row.deviceId)) =
      some [("mobile_1", some "second password")] := by
    decide +kernel
  refine ⟨accepted, ?_⟩
  intro claimed
  obtain ⟨world, executed, answers⟩ := Option.map_eq_some_iff.mp accepted
  rw [executed, Option.map_some, Option.some.injEq] at reported
  have rowReported : ("mobile_1", some "second password") ∈
      world.rows.map fun row =>
        (row.username, world.passwords.find row.deviceId) := by
    rw [reported]
    exact List.mem_singleton_self _
  obtain ⟨row, member, isRow⟩ := List.mem_map.mp rowReported
  rw [Prod.mk.injEq] at isRow
  have parsed : parseBasicHeader standardBase64
      (basicHeader standardBase64 "mobile_1" "second password") =
        some ("mobile_1", "second password") :=
    parseBasicHeader_basicHeader (by decide) (by decide)
  obtain ⟨device, authenticated⟩ :=
    ((claimed labelEdit world (List.prefix_refl _) executed).2 _).mpr
      ⟨_, _, parsed, row, member, isRow.1, isRow.2⟩
  have refused := (List.cons.inj (List.cons.inj answers).2).1
  simp only [authenticated] at refused
  cases refused

end OpenClipboard.MobileSync
