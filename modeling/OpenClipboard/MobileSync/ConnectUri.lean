import OpenClipboard.Core.Path
import OpenClipboard.Library.Base64Text
import OpenClipboard.Library.SortedMap
import OpenClipboard.MobileSync.LatestDoc

/-!
# The connect URI

A QR code carries the candidate addresses of the desktop, the credentials and
a few options, as JSON in the query of a URI.  `serde_json`, the `url` crate
and the error texts of both are parameters.
-/

namespace OpenClipboard.ConnectUri

open Text
open MobileSync (percentDecode)

/-- `serde_json::Value`, the members of an object as they are written. -/
inductive Value where
  | null
  | bool (value : Bool)
  | integer (value : Int)
  | float (text : String)
  | string (text : String)
  | array (items : List Value)
  | object (members : List (String × Value))

structure ConnectPayload where
  v : Nat
  url : String
  urls : List String
  user : String
  pwd : String
  o : SortedMap String String
  deriving DecidableEq

structure ConnectUriOther where
  label : Option String
  did : Option String
  proto : Option String
  install : Option String
  deriving DecidableEq, Repr

inductive ConnectUriError where
  | invalidScheme
  | unsupportedVersion
  | unsupportedService
  | payloadDecodeFailed (message : String)
  | missingField (field : String)
  | invalidUrl
  | uriTooLong (len max : Nat)
  deriving DecidableEq, Repr

def scheme : String := "uniclipboard"

def host : String := "connect"

def envelopeVersion : Nat := 1

def service : String := "mobile-sync"

def payloadVersion : Nat := 1

def uriMaxLen : Nat := 2000

/-! ## The payload as JSON -/

/-- The fields in the order in which they are declared. -/
def fieldNames : List String := ["v", "url", "urls", "user", "pwd", "o"]

/-- The derived `Serialize`; empty candidates and options are left out. -/
def ConnectPayload.serialize (payload : ConnectPayload) : Value :=
  .object <|
    [("v", .integer payload.v), ("url", .string payload.url)] ++
    (if payload.urls.isEmpty then []
      else [("urls", .array (payload.urls.map .string))]) ++
    [("user", .string payload.user), ("pwd", .string payload.pwd)] ++
    (if payload.o.entries.isEmpty then []
      else [("o", .object (payload.o.entries.map fun entry =>
        (entry.1, .string entry.2)))])

/-- `u.starts_with("http://") || u.starts_with("https://")`. -/
def isHttpUrl (url : String) : Bool :=
  startsWith url "http://" || startsWith url "https://"

namespace Value

def asString : Value → Option String
  | .string text => some text
  | _ => none

def asU32 : Value → Option Nat
  | .integer value =>
      if 0 ≤ value ∧ value.toNat < 4294967296 then some value.toNat else none
  | _ => none

/-- The fields of a struct, in an object or by position in an array; no field
is written twice, and nothing follows the last position. -/
def fields (names : List String) : Value → Option (String → Option Value)
  | .object members =>
      if names.all fun name =>
          (members.filter fun member => member.1 = name).length ≤ 1 then
        some fun name =>
          (members.find? fun member => member.1 = name).map Prod.snd
      else
        none
  | .array items =>
      if items.length ≤ names.length then
        some fun name => items[names.idxOf name]?
      else
        none
  | _ => none

/-- `#[serde(default)]`. -/
def orDefault {α : Type} (default : α) (read : Value → Option α) :
    Option Value → Option α
  | none => some default
  | some value => read value

end Value

def deLenientStringMap : Value → SortedMap String String
  | .object members =>
      .ofList ((SortedMap.ofList members).entries.filterMap fun member =>
        member.2.asString.map fun text => (member.1, text))
  | _ => ∅

def deLenientUrlList : Value → List String
  | .array items =>
      ((items.filterMap Value.asString).map trim).filter isHttpUrl
  | _ => []

/-- The derived `Deserialize`. -/
def ConnectPayload.deserialize (value : Value) : Option ConnectPayload := do
  let field ← value.fields fieldNames
  let v ← (field "v").bind Value.asU32
  let url ← Value.orDefault "" Value.asString (field "url")
  let urls ← Value.orDefault [] (some ∘ deLenientUrlList) (field "urls")
  let user ← Value.orDefault "" Value.asString (field "user")
  let pwd ← Value.orDefault "" Value.asString (field "pwd")
  let o ← Value.orDefault ∅ (some ∘ deLenientStringMap) (field "o")
  some { v, url, urls, user, pwd, o }

/-! ## The libraries -/

structure UrlParts where
  scheme : String
  host : Option String
  query : Option String
  deriving DecidableEq, Repr

def isPlainQueryChar (c : Char) : Bool :=
  c.isAlphanum || c == '-' || c == '_' || c == '=' || c == '&'

structure Crates where
  toString : ConnectPayload → Except String String
  fromSlice : List UInt8 → Option Value
  jsonErrorText : List UInt8 → String
  decodeErrorText : String → String
  urlParse : String → Option UrlParts
  fromSlice_toString : ∀ payload text, toString payload = .ok text →
    fromSlice (asBytes text) = some payload.serialize
  fromSlice_nil : fromSlice [] = none
  urlParse_plain : ∀ query : String,
    query.toList.all isPlainQueryChar = true →
    urlParse (scheme ++ "://" ++ host ++ "?" ++ query) =
      some ⟨scheme, some host, some query⟩

section Codec

variable (crates : Crates)

/-! ## Building -/

def ConnectUriOther.intoMap (other : ConnectUriOther) :
    SortedMap String String :=
  let insertSome (key : String) (value : Option String)
      (map : SortedMap String String) : SortedMap String String :=
    match value with
    | some value => map.insert key value
    | none => map
  insertSome "proto" other.proto <| insertSome "label" other.label <|
    insertSome "install" other.install <| insertSome "did" other.did ∅

def formatQuery (p : String) : String :=
  "v=" ++ envelopeVersion.repr ++ "&svc=" ++ service ++ "&p=" ++ p

/-- `format!("{SCHEME}://{HOST}?v={ENVELOPE_VERSION}&svc={SERVICE}&p={p}")`. -/
def formatUri (p : String) : String :=
  scheme ++ "://" ++ host ++ "?" ++ formatQuery p

/-- A single candidate is not listed. -/
def builtPayload (baseUrl : String) (candidateUrls : List String)
    (username password : String) (other : ConnectUriOther) :
    ConnectPayload where
  v := payloadVersion
  url := baseUrl
  urls := if 1 < candidateUrls.length then candidateUrls else []
  user := username
  pwd := password
  o := other.intoMap

def buildMobileSyncConnectUri (candidateUrls : List String)
    (username password : String) (other : ConnectUriOther) :
    Except ConnectUriError String :=
  match candidateUrls with
  | [] => .error (.missingField "url")
  | baseUrl :: _ =>
      if baseUrl = "" then .error (.missingField "url")
      else if username = "" then .error (.missingField "user")
      else if password = "" then .error (.missingField "pwd")
      else if !candidateUrls.all isHttpUrl then .error .invalidUrl
      else
        let payload :=
          builtPayload baseUrl candidateUrls username password other
        match crates.toString payload with
        | .error message =>
            .error (.payloadDecodeFailed ("serialize: " ++ message))
        | .ok json =>
            let p := String.ofList (Base64Text.encodeUrlSafe (asBytes json))
            let uri := formatUri p
            if uriMaxLen < uri.utf8ByteSize then
              .error (.uriTooLong uri.utf8ByteSize uriMaxLen)
            else
              .ok uri

/-! ## Parsing -/

/-- A name or a value of a query: `+` is a space, `%HH` a byte. -/
def decodePart (part : List Char) : String :=
  toStringLossy (percentDecode (asBytes (String.ofList (part.map fun c =>
    if c = '+' then ' ' else c))))

/-- A sequence without `=` has an empty value. -/
def decodeSequence (sequence : List Char) : String × String :=
  (decodePart (sequence.takeWhile fun c => c ≠ '='),
    decodePart ((sequence.dropWhile fun c => c ≠ '=').drop 1))

def queryPairs (query : String) : List (String × String) :=
  ((query.toList.splitOn '&').filter fun sequence => !sequence.isEmpty).map
    decodeSequence

/-- A later pair replaces an earlier one. -/
def lastPair (pairs : List (String × String)) (key : String) :
    Option String :=
  ((pairs.filter fun pair => pair.1 = key).getLast?).map Prod.snd

/-- `str::parse` to `u32`. -/
def parseU32 (text : String) : Option Nat :=
  let digits : List Char := match text.toList with
    | '+' :: digits => digits
    | digits => digits
  let value : Nat :=
    digits.foldl (fun value c => 10 * value + (c.toNat - 48)) 0
  if digits ≠ [] ∧ digits.all Char.isDigit ∧ value < 4294967296 then
    some value
  else
    none

def checkPayload (payload : ConnectPayload) :
    Except ConnectUriError ConnectPayload :=
  if payload.v ≠ payloadVersion then .error .unsupportedVersion
  else if payload.url = "" then .error (.missingField "url")
  else if payload.user = "" then .error (.missingField "user")
  else if payload.pwd = "" then .error (.missingField "pwd")
  else if !isHttpUrl payload.url then .error .invalidUrl
  else .ok payload

def decodePayload (p : String) : Except ConnectUriError ConnectPayload :=
  match Base64Text.decodeUrlSafe p.toList with
  | none => .error
      (.payloadDecodeFailed ("base64url: " ++ crates.decodeErrorText p))
  | some jsonBytes =>
      match (crates.fromSlice jsonBytes).bind ConnectPayload.deserialize with
      | none => .error
          (.payloadDecodeFailed ("json: " ++ crates.jsonErrorText jsonBytes))
      | some payload => checkPayload payload

def parseMobileSyncConnectUri (qrText : String) :
    Except ConnectUriError ConnectPayload :=
  match crates.urlParse (trim qrText) with
  | none => .error .invalidScheme
  | some uri =>
      if uri.scheme ≠ scheme then .error .invalidScheme
      else if uri.host ≠ some host then .error .invalidScheme
      else
        let pairs := queryPairs (uri.query.getD "")
        match (lastPair pairs "v").bind parseU32 with
        | none => .error .unsupportedVersion
        | some envelopeV =>
            if envelopeV ≠ envelopeVersion then .error .unsupportedVersion
            else if lastPair pairs "svc" ≠ some service then
              .error .unsupportedService
            else
              match (lastPair pairs "p").filter (fun p => p ≠ "") with
              | none => .error (.payloadDecodeFailed "p missing or empty")
              | some p => decodePayload crates p

end Codec

end OpenClipboard.ConnectUri
