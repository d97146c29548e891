import OpenClipboard.Library.TextCode
import OpenClipboard.MobileSync.ConnectUri

/-!
# What a connect URI returns

The payload that was built comes back from its URI; only the candidates have
been trimmed on the way.
-/

namespace OpenClipboard.ConnectUri

open Text
open MobileSync (percentDecode)

/-! ## Candidates -/

theorem trim_of_leading {first : List Char} (rest : List Char)
    (nonempty : first ≠ []) (noSpace : ∀ c ∈ first, isWhitespace c = false) :
    ∃ kept, trimChars (first ++ rest) = first ++ kept := by
  have front : (first ++ rest).dropWhile isWhitespace = first ++ rest := by
    cases first with
    | nil => exact absurd rfl nonempty
    | cons c first =>
        apply List.dropWhile_cons_of_neg
        rw [noSpace c List.mem_cons_self]
        exact Bool.false_ne_true
  have reversed : first.reverse.dropWhile isWhitespace = first.reverse := by
    rw [List.dropWhile_eq_self_iff]
    intro inside
    rw [noSpace _ (List.mem_reverse.mp (List.getElem_mem _))]
    exact Bool.false_ne_true
  refine ⟨(rest.reverse.dropWhile isWhitespace).reverse, ?_⟩
  unfold trimChars List.rdropWhile
  rw [front, List.reverse_append, List.dropWhile_append]
  by_cases blank : (rest.reverse.dropWhile isWhitespace).isEmpty = true
  · rw [if_pos blank, reversed, List.isEmpty_iff.mp blank,
      List.reverse_reverse]
    simp
  · rw [if_neg blank, List.reverse_append, List.reverse_reverse]

theorem startsWith_trim {url scheme : String} (nonempty : scheme ≠ "")
    (noSpace : ∀ c ∈ scheme.toList, isWhitespace c = false)
    (starts : startsWith url scheme = true) :
    startsWith (trim url) scheme = true := by
  obtain ⟨rest, isUrl⟩ := List.isPrefixOf_iff_prefix.mp starts
  have notNil : scheme.toList ≠ [] := by
    intro isNil
    exact nonempty (String.toList_eq_nil_iff.mp isNil)
  obtain ⟨kept, isTrimmed⟩ := trim_of_leading rest notNil noSpace
  unfold startsWith trim
  rw [String.toList_ofList, ← isUrl, isTrimmed]
  exact List.isPrefixOf_iff_prefix.mpr (List.prefix_append _ _)

theorem isHttpUrl_trim {url : String} (isHttp : isHttpUrl url = true) :
    isHttpUrl (trim url) = true := by
  unfold isHttpUrl at isHttp ⊢
  rw [Bool.or_eq_true] at isHttp ⊢
  rcases isHttp with plain | secure
  · exact Or.inl (startsWith_trim (by decide) (by simp [isWhitespace]) plain)
  · exact Or.inr (startsWith_trim (by decide) (by simp [isWhitespace]) secure)

theorem deLenientUrlList_written {urls : List String}
    (areHttp : urls.all isHttpUrl = true) :
    deLenientUrlList (.array (urls.map .string)) = urls.map trim := by
  have strings : (urls.map Value.string).filterMap Value.asString = urls := by
    rw [List.filterMap_map]
    exact List.filterMap_some
  have allKept : (urls.map trim).filter isHttpUrl = urls.map trim := by
    rw [List.filter_eq_self]
    intro url member
    obtain ⟨written, isWritten, isTrimmed⟩ := List.mem_map.mp member
    rw [← isTrimmed]
    exact isHttpUrl_trim (List.all_eq_true.mp areHttp written isWritten)
  unfold deLenientUrlList
  simp only
  rw [strings, allKept]

/-! ## Options -/

theorem deLenientStringMap_written (map : SortedMap String String) :
    deLenientStringMap (.object (map.entries.map fun entry =>
      (entry.1, .string entry.2))) = map := by
  have sorted : (map.entries.map fun entry =>
      (entry.1, Value.string entry.2)).Pairwise
        fun left right => left.1 < right.1 :=
    List.pairwise_map.mpr map.sorted
  unfold deLenientStringMap
  simp only
  rw [SortedMap.entries_ofList sorted, List.filterMap_map]
  have strings : map.entries.filterMap ((fun member =>
      member.2.asString.map fun text => (member.1, text)) ∘ fun entry =>
        (entry.1, Value.string entry.2)) = map.entries := by
    exact List.filterMap_some
  rw [strings]
  exact SortedMap.ofList_entries map

/-! ## The payload -/

def ConnectPayload.trimmed (payload : ConnectPayload) : ConnectPayload :=
  { payload with urls := payload.urls.map trim }

theorem asU32_integer {value : Nat} (fits : value < 4294967296) :
    Value.asU32 (.integer value) = some value := by
  have small : 0 ≤ (value : Int) ∧ (value : Int).toNat < 4294967296 := by
    omega
  unfold Value.asU32
  simp only
  rw [if_pos small, Int.toNat_natCast]

theorem deserialize_serialize {payload : ConnectPayload}
    (fits : payload.v < 4294967296)
    (areHttp : payload.urls.all isHttpUrl = true) :
    ConnectPayload.deserialize payload.serialize = some payload.trimmed := by
  have version := asU32_integer fits
  have urls := deLenientUrlList_written areHttp
  have options := deLenientStringMap_written payload.o
  by_cases noUrls : payload.urls = []
  · by_cases noOptions : payload.o.entries = []
    · have written : payload.serialize =
          .object [("v", .integer payload.v), ("url", .string payload.url),
            ("user", .string payload.user), ("pwd", .string payload.pwd)] := by
        simp [ConnectPayload.serialize, noUrls, noOptions]
      have isEmpty : payload.o = ∅ := SortedMap.ext noOptions
      rw [written]
      simp [ConnectPayload.deserialize, Value.fields, fieldNames, version,
        Value.orDefault, Value.asString, ConnectPayload.trimmed,
        noUrls, isEmpty]
    · have written : payload.serialize =
          .object [("v", .integer payload.v), ("url", .string payload.url),
            ("user", .string payload.user), ("pwd", .string payload.pwd),
            ("o", .object (payload.o.entries.map fun entry =>
              (entry.1, .string entry.2)))] := by
        simp [ConnectPayload.serialize, noUrls, noOptions]
      rw [written]
      simp [ConnectPayload.deserialize, Value.fields, fieldNames, version,
        Value.orDefault, Value.asString, ConnectPayload.trimmed,
        noUrls, options]
  · by_cases noOptions : payload.o.entries = []
    · have written : payload.serialize =
          .object [("v", .integer payload.v), ("url", .string payload.url),
            ("urls", .array (payload.urls.map .string)),
            ("user", .string payload.user), ("pwd", .string payload.pwd)] := by
        simp [ConnectPayload.serialize, noUrls, noOptions]
      have isEmpty : payload.o = ∅ := SortedMap.ext noOptions
      rw [written]
      simp [ConnectPayload.deserialize, Value.fields, fieldNames, version,
        Value.orDefault, Value.asString, ConnectPayload.trimmed,
        urls, isEmpty]
    · have written : payload.serialize =
          .object [("v", .integer payload.v), ("url", .string payload.url),
            ("urls", .array (payload.urls.map .string)),
            ("user", .string payload.user), ("pwd", .string payload.pwd),
            ("o", .object (payload.o.entries.map fun entry =>
              (entry.1, .string entry.2)))] := by
        simp [ConnectPayload.serialize, noUrls, noOptions]
      rw [written]
      simp [ConnectPayload.deserialize, Value.fields, fieldNames, version,
        Value.orDefault, Value.asString, ConnectPayload.trimmed,
        urls, options]

/-! ## The query -/

theorem isPlainQueryChar_of_mem {c : Char}
    (isDigit : c ∈ Base64Text.urlSafeAlphabet) :
    isPlainQueryChar c = true := by
  have each : Base64Text.urlSafeAlphabet.all isPlainQueryChar = true := by
    decide +kernel
  exact List.all_eq_true.mp each c isDigit

theorem noWhitespace_of_isPlainQueryChar {c : Char}
    (plain : isPlainQueryChar c = true) : isWhitespace c = false := by
  simp only [isPlainQueryChar, Bool.or_eq_true, beq_iff_eq] at plain
  rcases plain with (((isAlphanum | rfl) | rfl) | rfl) | rfl
  · have bounds := printable_of_isAlphanum isAlphanum
    exact noWhitespace_of_printable bounds.1 bounds.2
  · decide
  · decide
  · decide
  · decide

theorem meaningless_of_mem {c : Char}
    (isDigit : c ∈ Base64Text.urlSafeAlphabet) :
    c ≠ '&' ∧ c ≠ '=' ∧ c ≠ '+' ∧ c ≠ '%' := by
  have each : (Base64Text.urlSafeAlphabet.all fun c =>
      c ≠ '&' ∧ c ≠ '=' ∧ c ≠ '+' ∧ c ≠ '%') = true := by
    decide +kernel
  exact of_decide_eq_true (List.all_eq_true.mp each c isDigit)

theorem percentDecode_of_absent {bytes : List UInt8}
    (absent : 0x25 ∉ bytes) : percentDecode bytes = bytes := by
  induction bytes with
  | nil => rfl
  | cons byte rest inductionHypothesis =>
      have notPercent : byte ≠ 0x25 := by
        intro isPercent
        apply absent
        rw [isPercent]
        exact List.mem_cons_self
      have later : 0x25 ∉ rest :=
        fun member => absent (List.mem_cons_of_mem _ member)
      have kept : percentDecode (byte :: rest) =
          byte :: percentDecode rest := by
        conv_lhs => unfold percentDecode
        simp only [notPercent, if_false]
      rw [kept, inductionHypothesis later]

theorem decodePart_plain {part : List Char}
    (plain : ∀ c ∈ part, c ≠ '+' ∧ c ≠ '%') :
    decodePart part = String.ofList part := by
  have noPlus : (part.map fun c => if c = '+' then ' ' else c) = part := by
    have each : ∀ c ∈ part, (if c = '+' then ' ' else c) = id c :=
      fun c member => if_neg (plain c member).1
    rw [List.map_congr_left each, List.map_id]
  have noPercent : 0x25 ∉ asBytes (String.ofList part) := by
    intro member
    obtain ⟨c, inPart, code⟩ :=
      exists_char_of_mem_asBytes (by decide) member
    rw [String.toList_ofList] at inPart
    exact (plain c inPart).2 (Char.toNat_inj.mp code)
  unfold decodePart
  rw [noPlus, percentDecode_of_absent noPercent]
  exact toStringLossy_of_fromUtf8 (fromUtf8_asBytes _)

theorem decodeSequence_plain {name value : List Char}
    (noEquals : ∀ c ∈ name, c ≠ '=')
    (plainName : ∀ c ∈ name, c ≠ '+' ∧ c ≠ '%')
    (plainValue : ∀ c ∈ value, c ≠ '+' ∧ c ≠ '%') :
    decodeSequence (name ++ '=' :: value) =
      (String.ofList name, String.ofList value) := by
  have before : (name ++ '=' :: value).takeWhile (fun c => c ≠ '=') = name := by
    rw [List.takeWhile_append_of_pos]
    · simp
    · exact fun c member => decide_eq_true (noEquals c member)
  have after : (name ++ '=' :: value).dropWhile (fun c => c ≠ '=') =
      '=' :: value := by
    rw [List.dropWhile_append_of_pos]
    · simp
    · exact fun c member => decide_eq_true (noEquals c member)
  unfold decodeSequence
  rw [before, after, List.drop_one, List.tail_cons,
    decodePart_plain plainName, decodePart_plain plainValue]

theorem toList_formatQuery (digits : List Char) :
    (formatQuery (String.ofList digits)).toList =
      (['v'] ++ '=' :: ['1']) ++ '&' ::
        ((['s', 'v', 'c'] ++ '=' :: service.toList) ++ '&' ::
          (['p'] ++ '=' :: digits)) := by
  have version : envelopeVersion.repr = "1" := by decide
  unfold formatQuery
  rw [version]
  simp [service]

variable {digits : List Char} {candidateUrls : List String}

theorem splitOn_formatQuery
    (areDigits : ∀ c ∈ digits, c ∈ Base64Text.urlSafeAlphabet) :
    (formatQuery (String.ofList digits)).toList.splitOn '&' =
      [['v'] ++ '=' :: ['1'], ['s', 'v', 'c'] ++ '=' :: service.toList,
        ['p'] ++ '=' :: digits] := by
  have first : ∀ c ∈ ['v'] ++ '=' :: ['1'], (c == '&') = false := by simp
  have second : ∀ c ∈ ['s', 'v', 'c'] ++ '=' :: service.toList,
      (c == '&') = false := by
    simp [service]
  have last : ∀ c ∈ ['p'] ++ '=' :: digits, (c == '&') = false := by
    intro c member
    rw [List.mem_append, List.mem_singleton, List.mem_cons] at member
    rw [beq_eq_false_iff_ne]
    rcases member with isName | isEquals | isDigit
    · rw [isName]
      decide
    · rw [isEquals]
      decide
    · exact (meaningless_of_mem (areDigits c isDigit)).1
  rw [toList_formatQuery]
  unfold List.splitOn
  rw [List.splitOnP_append_cons_of_forall_mem first '&' (by decide),
    List.splitOnP_append_cons_of_forall_mem second '&' (by decide),
    List.splitOnP_eq_singleton last]

theorem queryPairs_formatQuery
    (areDigits : ∀ c ∈ digits, c ∈ Base64Text.urlSafeAlphabet) :
    queryPairs (formatQuery (String.ofList digits)) =
      [("v", "1"), ("svc", service), ("p", String.ofList digits)] := by
  have plainDigits : ∀ c ∈ digits, c ≠ '+' ∧ c ≠ '%' :=
    fun c member => (meaningless_of_mem (areDigits c member)).2.2
  have first : decodeSequence (['v'] ++ '=' :: ['1']) = ("v", "1") :=
    decodeSequence_plain (by simp) (by simp) (by simp)
  have second : decodeSequence (['s', 'v', 'c'] ++ '=' :: service.toList) =
      ("svc", service) := by
    rw [decodeSequence_plain (by simp) (by simp) (by simp [service]),
      String.ofList_toList]
  have last : decodeSequence (['p'] ++ '=' :: digits) =
      ("p", String.ofList digits) :=
    decodeSequence_plain (by simp) (by simp) plainDigits
  unfold queryPairs
  rw [splitOn_formatQuery areDigits]
  rw [← first, ← second, ← last]
  rfl

/-! ## The URI -/

variable {crates : Crates}

theorem isPlain_formatQuery
    (areDigits : ∀ c ∈ digits, c ∈ Base64Text.urlSafeAlphabet) :
    (formatQuery (String.ofList digits)).toList.all isPlainQueryChar =
      true := by
  have plain : digits.all isPlainQueryChar = true := by
    rw [List.all_eq_true]
    exact fun c member => isPlainQueryChar_of_mem (areDigits c member)
  have fixed : (['v'] ++ '=' :: ['1'] ++ '&' ::
      (['s', 'v', 'c'] ++ '=' :: service.toList) ++ '&' ::
        (['p'] ++ ['='])).all isPlainQueryChar = true := by
    decide +kernel
  have split : (formatQuery (String.ofList digits)).toList =
      (['v'] ++ '=' :: ['1'] ++ '&' ::
        (['s', 'v', 'c'] ++ '=' :: service.toList) ++ '&' ::
          (['p'] ++ ['='])) ++ digits := by
    rw [toList_formatQuery]
    simp
  rw [split, List.all_append, fixed, plain]
  rfl

theorem trim_formatUri
    (areDigits : ∀ c ∈ digits, c ∈ Base64Text.urlSafeAlphabet) :
    trim (formatUri (String.ofList digits)) =
      formatUri (String.ofList digits) := by
  apply trim_of_noWhitespace
  intro c member
  unfold formatUri at member
  rw [String.toList_append, List.mem_append] at member
  rcases member with isFixed | inQuery
  · have each : ∀ c ∈ (scheme ++ "://" ++ host ++ "?").toList,
        isWhitespace c = false := by
      simp [scheme, host, isWhitespace]
    exact each c isFixed
  · have plain := List.all_eq_true.mp (isPlain_formatQuery areDigits) c inQuery
    exact noWhitespace_of_isPlainQueryChar plain

theorem parse_formatUri (nonempty : digits ≠ [])
    (areDigits : ∀ c ∈ digits, c ∈ Base64Text.urlSafeAlphabet) :
    parseMobileSyncConnectUri crates (formatUri (String.ofList digits)) =
      decodePayload crates (String.ofList digits) := by
  have parsed := crates.urlParse_plain _ (isPlain_formatQuery areDigits)
  have notEmpty : String.ofList digits ≠ "" := by
    intro isEmpty
    apply nonempty
    have noDigits := congrArg String.toList isEmpty
    rw [String.toList_ofList] at noDigits
    exact noDigits
  have version : parseU32 "1" = some 1 := by decide
  unfold parseMobileSyncConnectUri
  rw [trim_formatUri areDigits]
  unfold formatUri
  rw [parsed]
  simp only [Option.getD_some, queryPairs_formatQuery areDigits]
  simp [lastPair, version, envelopeVersion, notEmpty, Option.filter_some]

theorem decodePayload_written {payload : ConnectPayload} {json : String}
    (written : crates.toString payload = .ok json)
    (fits : payload.v < 4294967296)
    (areHttp : payload.urls.all isHttpUrl = true) :
    decodePayload crates
        (String.ofList (Base64Text.encodeUrlSafe (asBytes json))) =
      checkPayload payload.trimmed := by
  have parsed : (crates.fromSlice (asBytes json)).bind
      ConnectPayload.deserialize = some payload.trimmed := by
    rw [crates.fromSlice_toString payload json written, Option.bind_some]
    exact deserialize_serialize fits areHttp
  unfold decodePayload
  rw [String.toList_ofList, Base64Text.decodeUrlSafe_encodeUrlSafe]
  simp only [parsed]

theorem asBytes_ne_nil {payload : ConnectPayload} {json : String}
    (written : crates.toString payload = .ok json) : asBytes json ≠ [] := by
  intro isNil
  have parsed := crates.fromSlice_toString payload json written
  rw [isNil, crates.fromSlice_nil] at parsed
  cases parsed

theorem checkPayload_ok {payload : ConnectPayload}
    (version : payload.v = payloadVersion) (url : payload.url ≠ "")
    (user : payload.user ≠ "") (pwd : payload.pwd ≠ "")
    (isHttp : isHttpUrl payload.url = true) :
    checkPayload payload = .ok payload := by
  simp [checkPayload, version, url, user, pwd, isHttp]

theorem build_eq_ok {username password : String} {other : ConnectUriOther}
    {uri : String}
    (built : buildMobileSyncConnectUri crates candidateUrls username password
      other = .ok uri) :
    ∃ baseUrl json, candidateUrls.head? = some baseUrl ∧ baseUrl ≠ "" ∧
      username ≠ "" ∧ password ≠ "" ∧ candidateUrls.all isHttpUrl = true ∧
      crates.toString (builtPayload baseUrl candidateUrls username password
        other) = .ok json ∧
      uri = formatUri (String.ofList
        (Base64Text.encodeUrlSafe (asBytes json))) := by
  cases candidateUrls with
  | nil => cases built
  | cons baseUrl rest =>
      unfold buildMobileSyncConnectUri at built
      simp only at built
      split at built
      · cases built
      case isFalse isUrl =>
      split at built
      · cases built
      case isFalse isUser =>
      split at built
      · cases built
      case isFalse isPassword =>
      split at built
      · cases built
      case isFalse areHttp =>
      rw [Bool.not_eq_true, Bool.not_eq_false'] at areHttp
      cases written : crates.toString (builtPayload baseUrl (baseUrl :: rest)
          username password other) with
      | error message =>
          rw [written] at built
          cases built
      | ok json =>
          rw [written] at built
          simp only at built
          split at built
          · cases built
          · exact ⟨baseUrl, json, rfl, isUrl, isUser, isPassword, areHttp,
              written, (Except.ok.inj built).symm⟩

theorem all_listed (areHttp : candidateUrls.all isHttpUrl = true) :
    (if 1 < candidateUrls.length then candidateUrls else []).all
      isHttpUrl = true := by
  by_cases several : 1 < candidateUrls.length
  · rw [if_pos several, areHttp]
  · rw [if_neg several]
    rfl

theorem parse_built {username password : String} {other : ConnectUriOther}
    {uri : String}
    (built : buildMobileSyncConnectUri crates candidateUrls username password
      other = .ok uri) :
    ∃ baseUrl, candidateUrls.head? = some baseUrl ∧
      parseMobileSyncConnectUri crates uri =
        .ok (builtPayload baseUrl candidateUrls username password
          other).trimmed := by
  obtain ⟨baseUrl, json, isFirst, isUrl, isUser, isPassword, areHttp, written,
    isUri⟩ := build_eq_ok built
  have nonempty := Base64Text.encodeUrlSafe_ne_nil (asBytes_ne_nil written)
  have isHttp : isHttpUrl baseUrl = true :=
    List.all_eq_true.mp areHttp baseUrl (List.mem_of_head? isFirst)
  have version : payloadVersion < 4294967296 := by decide
  refine ⟨baseUrl, isFirst, ?_⟩
  rw [isUri, parse_formatUri nonempty
      (fun c member => Base64Text.mem_encodeUrlSafe member),
    decodePayload_written written version (all_listed areHttp)]
  exact checkPayload_ok rfl isUrl isUser isPassword isHttp

/-- What the builder is given is what the parser returns, with these
candidates when there are several. -/
structure Returns (payload : ConnectPayload) (candidateUrls : List String)
    (username password : String) (other : ConnectUriOther)
    (urls : List String) : Prop where
  url : candidateUrls.head? = some payload.url
  urls : payload.urls = if candidateUrls.length = 1 then [] else urls
  urls_empty : payload.urls = [] ↔ candidateUrls.length = 1
  user : payload.user = username
  pwd : payload.pwd = password
  options : payload.o = other.intoMap

/-! ## A candidate with a trailing space -/

namespace Sample

def candidates : List String :=
  ["https://host.example", "http://192.168.1.5:42720 "]

def noOptions : ConnectUriOther := ⟨none, none, none, none⟩

def payload : ConnectPayload :=
  builtPayload "https://host.example" candidates "phone" "secret" noOptions

def json : String :=
  "\x7b\"v\":1,\"url\":\"https://host.example\"," ++
    "\"urls\":[\"https://host.example\",\"http://192.168.1.5:42720 \"]," ++
    "\"user\":\"phone\",\"pwd\":\"secret\"\x7d"

@[reducible]
def payloadCode : Encodable ConnectPayload :=
  Encodable.ofLeftInjection
    (fun payload => (payload.v, payload.url, payload.urls, payload.user,
      payload.pwd, payload.o.entries))
    (fun fields =>
      if sorted : fields.2.2.2.2.2.Pairwise fun left right => left.1 < right.1
      then some ⟨fields.1, fields.2.1, fields.2.2.1, fields.2.2.2.1,
        fields.2.2.2.2.1, ⟨fields.2.2.2.2.2, sorted⟩⟩
      else none)
    fun payload => dif_pos payload.o.sorted

/-- Another payload is written as that many spaces. -/
def blankText (payload : ConnectPayload) : String :=
  String.ofList (List.replicate (payloadCode.encode payload + 1) ' ')

def parseJson (bytes : List UInt8) : Option Value :=
  if bytes = asBytes json then some payload.serialize
  else if bytes = [] then none
  else (payloadCode.decode (bytes.length - 1)).map ConnectPayload.serialize

def parseUrl (text : String) : Option UrlParts :=
  let fixed := (scheme ++ "://" ++ host ++ "?").toList
  if fixed.isPrefixOf text.toList then
    some {
      scheme := scheme
      host := some host
      query := some (String.ofList (text.toList.drop fixed.length)) }
  else
    none

theorem asBytes_blankText (written : ConnectPayload) :
    asBytes (blankText written) =
      List.replicate (payloadCode.encode written + 1) 0x20 := by
  have space : String.utf8EncodeChar ' ' = [0x20] := by decide
  unfold blankText
  rw [asBytes_eq_flatMap, String.toList_ofList]
  induction payloadCode.encode written + 1 with
  | zero => rfl
  | succ count inductionHypothesis =>
      rw [List.replicate_succ, List.flatMap_cons, space, inductionHypothesis]
      rfl

theorem parseJson_written (written : ConnectPayload) (text : String)
    (isText : Except.ok (if written = payload then json else
      blankText written) = (Except.ok text : Except String String)) :
    parseJson (asBytes text) = some written.serialize := by
  have sameText := Except.ok.inj isText
  by_cases isPayload : written = payload
  · rw [if_pos isPayload] at sameText
    unfold parseJson
    rw [← sameText, if_pos rfl, isPayload]
  · rw [if_neg isPayload] at sameText
    have isBlank := asBytes_blankText written
    have notJson : asBytes (blankText written) ≠ asBytes json := by
      intro same
      have first : (asBytes json).head? = some 0x7b := by decide +kernel
      rw [← same, isBlank, List.replicate_succ] at first
      have sameByte : (some 0x20 : Option UInt8) = some 0x7b := first
      exact absurd sameByte (by decide)
    have notEmpty : asBytes (blankText written) ≠ [] := by
      rw [isBlank, List.replicate_succ]
      exact List.cons_ne_nil _ _
    unfold parseJson
    rw [← sameText, if_neg notJson, if_neg notEmpty, isBlank,
      List.length_replicate, Nat.add_sub_cancel, payloadCode.encodek]
    rfl

theorem parseUrl_plain (query : String) :
    parseUrl (scheme ++ "://" ++ host ++ "?" ++ query) =
      some ⟨scheme, some host, some query⟩ := by
  have split : (scheme ++ "://" ++ host ++ "?" ++ query).toList =
      (scheme ++ "://" ++ host ++ "?").toList ++ query.toList :=
    String.toList_append
  unfold parseUrl
  simp only
  rw [split, if_pos, List.drop_left, String.ofList_toList]
  exact List.isPrefixOf_iff_prefix.mpr (List.prefix_append _ _)

def library : Crates where
  toString written :=
    .ok (if written = payload then json else blankText written)
  fromSlice := parseJson
  jsonErrorText _ := ""
  decodeErrorText _ := ""
  urlParse := parseUrl
  fromSlice_toString := parseJson_written
  fromSlice_nil := by decide +kernel
  urlParse_plain query _ := parseUrl_plain query

def uri : String :=
  formatUri (String.ofList (Base64Text.encodeUrlSafe (asBytes json)))

theorem candidates_build :
    buildMobileSyncConnectUri library candidates "phone" "secret" noOptions =
      .ok uri := by
  decide +kernel

theorem candidates_differ : candidates.map trim ≠ candidates := by
  decide +kernel

end Sample

/-- With several candidates, each of them trimmed. -/
theorem connectUri_returns {crates : Crates} {candidateUrls : List String}
    {username password : String} {other : ConnectUriOther} {uri : String}
    (built : buildMobileSyncConnectUri crates candidateUrls username password
      other = .ok uri) :
    ∃ payload, parseMobileSyncConnectUri crates uri = .ok payload ∧
      Returns payload candidateUrls username password other
        (candidateUrls.map trim) := by
  obtain ⟨baseUrl, isFirst, parsed⟩ := parse_built built
  have positive : 0 < candidateUrls.length :=
    List.length_pos_of_mem (List.mem_of_head? isFirst)
  have listed : (builtPayload baseUrl candidateUrls username password
      other).trimmed.urls =
        if candidateUrls.length = 1 then [] else candidateUrls.map trim := by
    unfold ConnectPayload.trimmed builtPayload
    by_cases single : candidateUrls.length = 1
    · rw [if_neg (by omega), if_pos single]
      rfl
    · rw [if_pos (by omega), if_neg single]
  refine ⟨_, parsed, ?_⟩
  constructor
  · exact isFirst
  · exact listed
  · rw [listed]
    by_cases single : candidateUrls.length = 1
    · rw [if_pos single]
      exact iff_of_true rfl single
    · rw [if_neg single]
      apply iff_of_false _ single
      intro isNil
      rw [List.map_eq_nil_iff] at isNil
      rw [isNil] at positive
      cases positive
  · rfl
  · rfl
  · rfl

theorem connectUri_returns_paddedCandidate :
    ∃ payload, parseMobileSyncConnectUri Sample.library Sample.uri =
        .ok payload ∧
      Returns payload Sample.candidates "phone" "secret" Sample.noOptions
        (Sample.candidates.map trim) :=
  connectUri_returns Sample.candidates_build

/-- What was built from a padded candidate does not come back. -/
theorem paddedCandidate_returns_trimmed :
    buildMobileSyncConnectUri Sample.library Sample.candidates "phone"
        "secret" Sample.noOptions = .ok Sample.uri ∧
      ¬∃ payload, parseMobileSyncConnectUri Sample.library Sample.uri =
          .ok payload ∧
        Returns payload Sample.candidates "phone" "secret" Sample.noOptions
          Sample.candidates := by
  refine ⟨Sample.candidates_build, ?_⟩
  intro returned
  obtain ⟨payload, isPayload, exact⟩ := returned
  obtain ⟨baseUrl, _, parsed⟩ := parse_built Sample.candidates_build
  rw [parsed] at isPayload
  have same := Except.ok.inj isPayload
  have isTrimmed : Sample.candidates.map trim = Sample.candidates := by
    have urls := exact.urls
    rw [← same] at urls
    exact urls
  exact Sample.candidates_differ isTrimmed

end OpenClipboard.ConnectUri
