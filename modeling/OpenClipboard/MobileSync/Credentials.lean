import Mathlib.Data.List.Nodup
import OpenClipboard.Core.Text
import OpenClipboard.Library.PartialMap

/-!
# Registered devices and their credentials

The rows of `mobile_device`, the operations of its repository, and what the
calls on a device do between them.
-/

namespace OpenClipboard.MobileSync

open Text

/-- A row of `mobile_device`. -/
structure MobileDevice where
  deviceId : String
  label : String
  username : String
  passwordHash : String
  deriving DecidableEq, Repr

inductive MobileDeviceError where
  | alreadyExists (deviceId : String)
  | usernameCollision
  | storage (message : String)
  deriving DecidableEq, Repr

inductive PasswordHasherError where
  | invalidPhc (message : String)
  | internal (message : String)
  deriving DecidableEq, Repr

structure PasswordHasher where
  hash : List UInt8 → String → String
  verify : String → String → Except PasswordHasherError Bool
  verify_hash : ∀ salt hashed password,
    verify password (hash salt hashed) = .ok (decide (password = hashed))

/-! ## The repository -/

abbrev MobileDeviceRows := List MobileDevice

namespace MobileDeviceRows

variable (rows : MobileDeviceRows)

def findByUsername (username : String) : Option MobileDevice :=
  rows.find? fun row => decide (row.username = username)

def findByDeviceId (deviceId : String) : Option MobileDevice :=
  rows.find? fun row => decide (row.deviceId = deviceId)

/-- `save`: both columns are unique. -/
def save (device : MobileDevice) : Except MobileDeviceError MobileDeviceRows :=
  if rows.any fun row => decide (row.deviceId = device.deviceId) then
    .error (.alreadyExists device.deviceId)
  else if rows.any fun row => decide (row.username = device.username) then
    .error .usernameCollision
  else
    .ok (rows ++ [device])

/-- `delete`, with whether there was a row. -/
def delete (deviceId : String) : Bool × MobileDeviceRows :=
  (rows.any fun row => decide (row.deviceId = deviceId),
    rows.filter fun row => decide (row.deviceId ≠ deviceId))

/-- `update_mobile_device`: label, username and hash at once, and whether there
was a row. -/
def update (device : MobileDevice) :
    Except MobileDeviceError (Bool × MobileDeviceRows) :=
  if rows.any fun row => decide (row.deviceId = device.deviceId) then
    if rows.any fun row => decide (row.deviceId ≠ device.deviceId) &&
        decide (row.username = device.username) then
      .error .usernameCollision
    else
      .ok (true, rows.map fun row =>
        if row.deviceId = device.deviceId then
          { row with
            label := device.label
            username := device.username
            passwordHash := device.passwordHash }
        else
          row)
  else
    .ok (false, rows)

end MobileDeviceRows

/-! ## Validation -/

def maxLabelLen : Nat := 64
def minUsernameLen : Nat := 6
def maxUsernameLen : Nat := 32
def minPasswordLen : Nat := 8
def maxPasswordLen : Nat := 256

inductive RegisterMobileShortcutDeviceError where
  | labelEmpty
  | labelTooLong
  | lanListenerDisabled
  | usernameTaken (username : String)
  | usernameTooShort (minimum got : Nat)
  | usernameTooLong (maximum got : Nat)
  | usernameMustStartWithLetter
  | usernameContainsForbiddenChars
  | passwordTooShort (minimum : Nat)
  | passwordTooLong (maximum : Nat)
  | passwordHashFailed (message : String)
  | persistenceFailed (message : String)
  | qrRenderFailed (message : String)
  | settingsLoadFailed (message : String)
  | noLanInterfaceAvailable
  | lanInterfaceProbeFailed (message : String)
  deriving DecidableEq, Repr

def validateLabel (label : String) :
    Except RegisterMobileShortcutDeviceError String :=
  if (trim label).isEmpty then
    .error .labelEmpty
  else if maxLabelLen < (trim label).length then
    .error .labelTooLong
  else
    .ok (trim label)

/-- Letters, digits and underscores, and a letter first. -/
def validateUsernameShape (username : String) :
    Except RegisterMobileShortcutDeviceError Unit :=
  if username.length < minUsernameLen then
    .error (.usernameTooShort minUsernameLen username.length)
  else if maxUsernameLen < username.length then
    .error (.usernameTooLong maxUsernameLen username.length)
  else if !(username.toList.head?.any Char.isAlpha) then
    .error .usernameMustStartWithLetter
  else if !(username.toList.all fun c => c.isAlphanum || c == '_') then
    .error .usernameContainsForbiddenChars
  else
    .ok ()

def validatePasswordLength (password : String) :
    Except RegisterMobileShortcutDeviceError Unit :=
  if password.length < minPasswordLen then
    .error (.passwordTooShort minPasswordLen)
  else if maxPasswordLen < password.length then
    .error (.passwordTooLong maxPasswordLen)
  else
    .ok ()

/-! ## Registration -/

/-- What the minter makes; it hashes the password itself. -/
structure MintedCredentials where
  username : String
  password : String
  salt : List UInt8
  deviceId : String
  shape : validateUsernameShape username = .ok ()

structure RegisterInput where
  label : String
  username : Option String
  password : Option String
  deriving DecidableEq, Repr

/-- What the ports answer to a registration: the settings, the addresses to
advertise, the minter and the hashing of a password of the user's own. -/
structure RegisterEnv where
  lanListenEnabled : Except String Bool
  advertiseUrls : Except RegisterMobileShortcutDeviceError Unit
  minted : MintedCredentials
  salt : List UInt8
  hashFails : Option PasswordHasherError

def translateHasherError : PasswordHasherError →
    RegisterMobileShortcutDeviceError
  | .invalidPhc message => .passwordHashFailed ("invalid phc: " ++ message)
  | .internal message => .passwordHashFailed message

section Calls

variable (hasher : PasswordHasher)

def hashPassword (salt : List UInt8) (fails : Option PasswordHasherError)
    (password : String) :
    Except RegisterMobileShortcutDeviceError String :=
  match fails with
  | some error => .error (translateHasherError error)
  | none => .ok (hasher.hash salt password)

/-- The username of the user's own choice, where no device has it, else the
minted one. -/
def registeredUsername (rows : MobileDeviceRows)
    (minted : MintedCredentials) (custom : Option String) :
    Except RegisterMobileShortcutDeviceError String :=
  match custom with
  | none => .ok minted.username
  | some username =>
      match rows.findByUsername username with
      | some _ => .error (.usernameTaken username)
      | none => .ok username

def registeredPassword (env : RegisterEnv) (custom : Option String) :
    Except RegisterMobileShortcutDeviceError (String × String) :=
  match custom with
  | none => .ok (env.minted.password,
      hasher.hash env.minted.salt env.minted.password)
  | some password => do
      let passwordHash ← hashPassword hasher env.salt env.hashFails password
      return (password, passwordHash)

/-- Check what the user chose, if anything. -/
def validateCustom
    (validate : String → Except RegisterMobileShortcutDeviceError Unit) :
    Option String → Except RegisterMobileShortcutDeviceError Unit
  | some chosen => validate chosen
  | none => .ok ()

def requireLanListener :
    Except String Bool → Except RegisterMobileShortcutDeviceError Unit
  | .error message => .error (.settingsLoadFailed message)
  | .ok false => .error .lanListenerDisabled
  | .ok true => .ok ()

/-- The registration up to its save: the device and its password. -/
def prepareRegistration (rows : MobileDeviceRows) (input : RegisterInput)
    (env : RegisterEnv) :
    Except RegisterMobileShortcutDeviceError (MobileDevice × String) := do
  let label ← validateLabel input.label
  validateCustom validateUsernameShape (input.username.map trim)
  validateCustom validatePasswordLength input.password
  requireLanListener env.lanListenEnabled
  env.advertiseUrls
  let username ← registeredUsername rows env.minted (input.username.map trim)
  let credential ← registeredPassword hasher env input.password
  return (⟨env.minted.deviceId, label, username, credential.2⟩, credential.1)

/-! ## Update -/

inductive MobileDevicePasswordEdit where
  | keep
  | autoGenerate
  | custom (password : String)
  deriving DecidableEq, Repr

structure UpdateInput where
  deviceId : String
  label : Option String
  username : Option String
  password : MobileDevicePasswordEdit
  deriving DecidableEq, Repr

structure UpdateEnv where
  minted : MintedCredentials
  salt : List UInt8
  hashFails : Option PasswordHasherError

def editLabel (device : MobileDevice) :
    Option String → Except RegisterMobileShortcutDeviceError String
  | some label => validateLabel label
  | none => .ok device.label

def ensureUsernameAvailable (rows : MobileDeviceRows)
    (currentId username : String) :
    Except RegisterMobileShortcutDeviceError Unit :=
  match rows.findByUsername username with
  | some existing =>
      if existing.deviceId ≠ currentId then
        .error (.usernameTaken username)
      else
        .ok ()
  | none => .ok ()

def editUsername (rows : MobileDeviceRows) (device : MobileDevice) :
    Option String → Except RegisterMobileShortcutDeviceError (String × Bool)
  | none => .ok (device.username, false)
  | some username => do
      validateUsernameShape (trim username)
      if trim username ≠ device.username then do
        ensureUsernameAvailable rows device.deviceId (trim username)
        return (trim username, true)
      else
        return (device.username, false)

/-- A new username needs a new password. -/
def passwordMode (usernameChanged : Bool) (edit : MobileDevicePasswordEdit) :
    MobileDevicePasswordEdit :=
  if usernameChanged && decide (edit = .keep) then .autoGenerate else edit

/-- The device to be written, and its password where it is a new one. -/
def editPassword (env : UpdateEnv) (mode : MobileDevicePasswordEdit)
    (device : MobileDevice) :
    Except RegisterMobileShortcutDeviceError
      (MobileDevice × Option String) :=
  match mode with
  | .keep => .ok (device, none)
  | .autoGenerate =>
      .ok ({ device with
          passwordHash := hasher.hash env.minted.salt env.minted.password },
        some env.minted.password)
  | .custom password => do
      validatePasswordLength password
      let passwordHash ← hashPassword hasher env.salt env.hashFails password
      return ({ device with passwordHash := passwordHash }, some password)

/-- The update from the device that it read up to its write. -/
def prepareUpdate (rows : MobileDeviceRows) (input : UpdateInput)
    (env : UpdateEnv) (device : MobileDevice) :
    Except RegisterMobileShortcutDeviceError
      (MobileDevice × Option String) := do
  let label ← editLabel device input.label
  let username ← editUsername rows device input.username
  editPassword hasher env (passwordMode username.2 input.password)
    { device with label := label, username := username.1 }

end Calls

/-! ## Authentication -/

/-- The standard alphabet of the `base64` crate. -/
structure Base64 where
  encode : List UInt8 → String
  decode : String → Option (List UInt8)
  decode_encode : ∀ bytes, decode (encode bytes) = some bytes
  noWhitespace : ∀ bytes, ∀ c ∈ (encode bytes).toList,
    isWhitespace c = false
  nonempty : ∀ bytes, bytes ≠ [] → (encode bytes).toList ≠ []

/-- `splitn(2, …)`: what comes before the first separator, and what comes after
it. -/
def splitOnce (isSeparator : Char → Bool) (chars : List Char) :
    List Char × Option (List Char) :=
  (chars.takeWhile fun c => !isSeparator c,
    match chars.dropWhile fun c => !isSeparator c with
    | [] => none
    | _ :: rest => some rest)

def parseBasicHeader (base64 : Base64) (header : String) :
    Option (String × String) :=
  match splitOnce isWhitespace (trim header).toList with
  | (_, none) => none
  | (scheme, some payload) =>
      if eqIgnoreAsciiCase (String.ofList scheme) "basic" then
        ((base64.decode (trim (String.ofList payload))).bind fromUtf8).bind
          fun decoded =>
            match splitOnce (fun c => decide (c = ':')) decoded.toList with
            | (_, none) => none
            | (username, some password) =>
                if username.isEmpty then none
                else some (String.ofList username, String.ofList password)
      else
        none

inductive AuthenticateBasicAuthError where
  | invalidCredentials
  | persistenceFailed (message : String)
  | internal (message : String)
  deriving DecidableEq, Repr

/-- `AuthenticateBasicAuthUseCase::execute`, less the verification that only
takes its time. -/
def authenticate (base64 : Base64) (hasher : PasswordHasher)
    (rows : MobileDeviceRows) (header : String) :
    Except AuthenticateBasicAuthError MobileDevice :=
  match parseBasicHeader base64 header with
  | none => .error .invalidCredentials
  | some (username, password) =>
      match rows.findByUsername username with
      | none => .error .invalidCredentials
      | some device =>
          match hasher.verify password device.passwordHash with
          | .ok true => .ok device
          | .ok false => .error .invalidCredentials
          | .error (.invalidPhc _) => .error .invalidCredentials
          | .error (.internal message) => .error (.internal message)

/-! ## What the calls write -/

variable {custom : Option String} {username : String}

section Credentials

variable {hasher : PasswordHasher}

/-- A valid username and a hash of the password. -/
def HasCredential (hasher : PasswordHasher) (device : MobileDevice)
    (password : String) : Prop :=
  validateUsernameShape device.username = .ok () ∧
    ∃ salt, device.passwordHash = hasher.hash salt password

theorem HasCredential.verify {device : MobileDevice} {password tried : String}
    (credential : HasCredential hasher device password) :
    hasher.verify tried device.passwordHash =
      .ok (decide (tried = password)) := by
  obtain ⟨_, salt, isHash⟩ := credential
  rw [isHash, hasher.verify_hash]

theorem HasCredential.unique {device : MobileDevice} {one other : String}
    (first : HasCredential hasher device one)
    (second : HasCredential hasher device other) : one = other := by
  have same : hasher.verify one device.passwordHash =
      .ok (decide (one = one)) := first.verify
  rw [second.verify] at same
  simpa using same

theorem registeredUsername_shape {rows : MobileDeviceRows}
    {minted : MintedCredentials}
    (shape : ∀ chosen, custom = some chosen →
      validateUsernameShape chosen = .ok ())
    (registered : registeredUsername rows minted custom = .ok username) :
    validateUsernameShape username = .ok () := by
  unfold registeredUsername at registered
  cases custom with
  | none =>
      cases registered
      exact minted.shape
  | some chosen =>
      simp only at registered
      split at registered
      · cases registered
      · cases registered
        exact shape _ rfl

theorem hashPassword_eq_ok {salt : List UInt8}
    {fails : Option PasswordHasherError} {password passwordHash : String}
    (hashed : hashPassword hasher salt fails password = .ok passwordHash) :
    passwordHash = hasher.hash salt password := by
  unfold hashPassword at hashed
  split at hashed
  · cases hashed
  · cases hashed
    rfl

theorem registeredPassword_eq_ok {env : RegisterEnv}
    {credential : String × String}
    (registered : registeredPassword hasher env custom = .ok credential) :
    ∃ salt, credential.2 = hasher.hash salt credential.1 := by
  unfold registeredPassword at registered
  cases custom with
  | none =>
      cases registered
      exact ⟨_, rfl⟩
  | some password =>
      obtain ⟨passwordHash, hashed, isCredential⟩ :=
        PartialMap.bind_eq_ok_iff.mp registered
      cases isCredential
      exact ⟨_, hashPassword_eq_ok hashed⟩

theorem prepareRegistration_credential {rows : MobileDeviceRows}
    {input : RegisterInput} {env : RegisterEnv} {device : MobileDevice}
    {password : String}
    (prepared : prepareRegistration hasher rows input env =
      .ok (device, password)) :
    HasCredential hasher device password := by
  unfold prepareRegistration at prepared
  obtain ⟨label, _, named⟩ := PartialMap.bind_eq_ok_iff.mp prepared
  obtain ⟨_, shape, checked⟩ := PartialMap.bind_eq_ok_iff.mp named
  obtain ⟨_, _, lengthChecked⟩ := PartialMap.bind_eq_ok_iff.mp checked
  obtain ⟨_, _, listening⟩ := PartialMap.bind_eq_ok_iff.mp lengthChecked
  obtain ⟨_, _, advertised⟩ := PartialMap.bind_eq_ok_iff.mp listening
  obtain ⟨username, isUsername, usernamed⟩ :=
    PartialMap.bind_eq_ok_iff.mp advertised
  obtain ⟨credential, isCredential, isDevice⟩ :=
    PartialMap.bind_eq_ok_iff.mp usernamed
  cases isDevice
  refine ⟨registeredUsername_shape ?_ isUsername,
    registeredPassword_eq_ok isCredential⟩
  intro chosen isChosen
  rw [isChosen] at shape
  exact shape

theorem editUsername_shape {rows : MobileDeviceRows} {device : MobileDevice}
    {username : String × Bool}
    (shape : validateUsernameShape device.username = .ok ())
    (edited : editUsername rows device custom = .ok username) :
    validateUsernameShape username.1 = .ok () := by
  unfold editUsername at edited
  cases custom with
  | none =>
      cases edited
      exact shape
  | some chosen =>
      obtain ⟨_, isShape, renamed⟩ := PartialMap.bind_eq_ok_iff.mp edited
      split at renamed
      · obtain ⟨_, _, isUsername⟩ := PartialMap.bind_eq_ok_iff.mp renamed
        cases isUsername
        exact isShape
      · cases renamed
        exact shape

theorem prepareUpdate_credential {rows : MobileDeviceRows}
    {input : UpdateInput} {env : UpdateEnv} {device edited : MobileDevice}
    {old : String} {plaintext : Option String}
    (credential : HasCredential hasher device old)
    (prepared : prepareUpdate hasher rows input env device =
      .ok (edited, plaintext)) :
    HasCredential hasher edited (plaintext.getD old) := by
  unfold prepareUpdate at prepared
  obtain ⟨label, _, labelled⟩ := PartialMap.bind_eq_ok_iff.mp prepared
  obtain ⟨username, isUsername, written⟩ :=
    PartialMap.bind_eq_ok_iff.mp labelled
  have shape := editUsername_shape credential.1 isUsername
  unfold editPassword at written
  split at written
  · cases written
    exact ⟨shape, credential.2⟩
  · cases written
    exact ⟨shape, _, rfl⟩
  · obtain ⟨_, _, checked⟩ := PartialMap.bind_eq_ok_iff.mp written
    obtain ⟨passwordHash, hashed, isEdited⟩ :=
      PartialMap.bind_eq_ok_iff.mp checked
    cases isEdited
    exact ⟨shape, _, hashPassword_eq_ok hashed⟩

end Credentials

/-! ## The header of a password -/

theorem splitOnce_append {isSeparator : Char → Bool} {front back : List Char}
    {separator : Char} (isFront : ∀ c ∈ front, isSeparator c = false)
    (separates : isSeparator separator = true) :
    splitOnce isSeparator (front ++ separator :: back) =
      (front, some back) := by
  have kept : ∀ c ∈ front, (!isSeparator c) = true := by
    intro c member
    rw [isFront c member]
    rfl
  unfold splitOnce
  rw [List.takeWhile_append_of_pos kept, List.dropWhile_append_of_pos kept]
  simp [separates]

/-- The header that a client sends for a username and a password. -/
def basicHeader (base64 : Base64) (username password : String) : String :=
  "Basic " ++ base64.encode (asBytes (username ++ ":" ++ password))

theorem parseBasicHeader_basicHeader {base64 : Base64}
    {username password : String} (nonempty : username.toList ≠ [])
    (noColon : ':' ∉ username.toList) :
    parseBasicHeader base64 (basicHeader base64 username password) =
      some (username, password) := by
  have someBytes : asBytes (username ++ ":" ++ password) ≠ [] := by
    intro isEmpty
    have noText : username ++ ":" ++ password = "" :=
      asBytes_injective (isEmpty.trans rfl)
    simp at noText
  have payload :=
    base64.noWhitespace (asBytes (username ++ ":" ++ password))
  have somePayload := base64.nonempty _ someBytes
  have header : (basicHeader base64 username password).toList =
      "Basic".toList ++ ' ' ::
        (base64.encode (asBytes (username ++ ":" ++ password))).toList := by
    unfold basicHeader
    rw [String.toList_append]
    rfl
  have trimmed : trim (basicHeader base64 username password) =
      basicHeader base64 username password := by
    apply trim_of_ends
    · intro c isFirst
      rw [header] at isFirst
      cases isFirst
      rfl
    · intro c isLast
      rw [header] at isLast
      apply payload
      rw [List.getLast?_append_of_ne_nil _ (List.cons_ne_nil _ _),
        List.getLast?_cons_of_ne_nil somePayload] at isLast
      exact List.mem_of_getLast? isLast
  have scheme : splitOnce isWhitespace
      (basicHeader base64 username password).toList =
        ("Basic".toList,
          some (base64.encode
            (asBytes (username ++ ":" ++ password))).toList) := by
    rw [header]
    apply splitOnce_append
    · intro c member
      have letters : "Basic".toList.all (fun c => !isWhitespace c) = true := by
        decide +kernel
      simpa using List.all_eq_true.mp letters c member
    · decide
  have decoded : splitOnce (fun c => decide (c = ':'))
      (username ++ ":" ++ password).toList =
        (username.toList, some password.toList) := by
    rw [String.toList_append, String.toList_append, List.append_assoc]
    apply splitOnce_append
    · intro c member
      apply decide_eq_false
      intro isColon
      exact noColon (isColon ▸ member)
    · decide
  have isBasic : eqIgnoreAsciiCase (String.ofList "Basic".toList) "basic" =
      true := by decide +kernel
  have payloadTrimmed : trim (base64.encode
      (asBytes (username ++ ":" ++ password))) =
        base64.encode (asBytes (username ++ ":" ++ password)) := by
    apply trim_of_ends
    · intro c isFirst
      exact payload c (List.mem_of_mem_head? isFirst)
    · intro c isLast
      exact payload c (List.mem_of_getLast? isLast)
  have someName : username.toList.isEmpty = false := by
    rw [← Bool.not_eq_true, List.isEmpty_iff]
    exact nonempty
  unfold parseBasicHeader
  rw [trimmed, scheme]
  simp only
  rw [if_pos isBasic]
  simp only [String.ofList_toList, payloadTrimmed, base64.decode_encode,
    fromUtf8_asBytes, Option.bind_some, decoded, someName, Bool.false_eq_true,
    if_false]

theorem validateUsernameShape_eq_ok
    (shape : validateUsernameShape username = .ok ()) :
    username.toList ≠ [] ∧ ':' ∉ username.toList := by
  unfold validateUsernameShape at shape
  split at shape
  · cases shape
  · rename_i long
    split at shape
    · cases shape
    · split at shape
      · cases shape
      · split at shape
        · cases shape
        · rename_i allowed
          constructor
          · intro isEmpty
            apply long
            rw [← String.length_toList, isEmpty]
            decide
          · intro member
            simp only [Bool.not_eq_true', Bool.not_eq_false] at allowed
            have colon := List.all_eq_true.mp allowed ':' member
            exact absurd colon (by decide)

/-! ## The rows -/

namespace MobileDeviceRows

variable {rows after : MobileDeviceRows} {device : MobileDevice}

theorem mem_of_findByUsername
    (found : rows.findByUsername username = some device) :
    device ∈ rows ∧ device.username = username := by
  unfold findByUsername at found
  have named := List.find?_some found
  exact ⟨List.mem_of_find?_eq_some found, of_decide_eq_true named⟩

theorem mem_of_findByDeviceId {deviceId : String}
    (found : rows.findByDeviceId deviceId = some device) : device ∈ rows := by
  unfold findByDeviceId at found
  exact List.mem_of_find?_eq_some found

theorem findByUsername_eq_some (unique : (rows.map MobileDevice.username).Nodup)
    (member : device ∈ rows) (named : device.username = username) :
    rows.findByUsername username = some device := by
  unfold findByUsername
  cases found : rows.find? fun row => decide (row.username = username) with
  | none =>
      have absent := List.find?_eq_none.mp found device member
      exact absurd (decide_eq_true named) absent
  | some other =>
      have named' := List.find?_some found
      have same := List.inj_on_of_nodup_map unique
        (List.mem_of_find?_eq_some found) member
        ((of_decide_eq_true named').trans named.symm)
      rw [same]

theorem save_eq_ok (saved : rows.save device = .ok after) :
    after = rows ++ [device] ∧
      (∀ row ∈ rows, row.deviceId ≠ device.deviceId) ∧
      ∀ row ∈ rows, row.username ≠ device.username := by
  unfold save at saved
  split at saved
  · cases saved
  · rename_i freshId
    split at saved
    · cases saved
    · rename_i freshName
      cases saved
      simp only [List.any_eq_true, decide_eq_true_eq, not_exists,
        not_and] at freshId freshName
      exact ⟨rfl, freshId, freshName⟩

theorem update_eq_ok (updated : rows.update device = .ok (true, after)) :
    (∃ row ∈ rows, row.deviceId = device.deviceId) ∧
      (∀ row ∈ rows, row.deviceId ≠ device.deviceId →
        row.username ≠ device.username) ∧
      after = rows.map fun row =>
        if row.deviceId = device.deviceId then
          { row with
            label := device.label
            username := device.username
            passwordHash := device.passwordHash }
        else
          row := by
  unfold update at updated
  split at updated
  · rename_i present
    split at updated
    · cases updated
    · rename_i noCollision
      cases updated
      simp only [List.any_eq_true, decide_eq_true_eq] at present
      refine ⟨present, ?_, rfl⟩
      intro row member other sameName
      apply noCollision
      rw [List.any_eq_true]
      exact ⟨row, member, by simp [other, sameName]⟩
  · cases updated

end MobileDeviceRows

end OpenClipboard.MobileSync
