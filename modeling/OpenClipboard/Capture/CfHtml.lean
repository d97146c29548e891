import OpenClipboard.Core.Path
import OpenClipboard.Library.Occurrence
import Mathlib.Tactic.IntervalCases

/-!
# CF_HTML payloads

Windows writes HTML with a wrapper around the fragment and a header of
`key:value` lines before the wrapper.  The reader cuts out what the header's
byte offsets delimit; the wrappers, however many, are stripped from it.
-/

namespace OpenClipboard.CfHtml

open Text

def startMarker : String := "<!--StartFragment-->"

def endMarker : String := "<!--EndFragment-->"

/-- Strip every outer wrapper, returning the inner fragment payload. -/
def stripCfHtmlWrapper (html : String) : String :=
  match Occurrence.rfind startMarker.toList html.toList with
  | none => html
  | some startIdx =>
      let inner := html.toList.drop (startIdx + startMarker.toList.length)
      match Occurrence.find endMarker.toList inner with
      | none => html
      | some endOffset => String.ofList (inner.take endOffset)

/-! ## The header -/

/-- `usize::from_str`. -/
def parseUsize (digits : String) : Option Nat :=
  let unsigned :=
    match digits.toList with
    | '+' :: rest => rest
    | chars => chars
  if unsigned = [] then none
  else
    unsigned.foldlM (fun value c =>
      let next := value * 10 + (c.toNat - 48)
      if c.isDigit ∧ next < 2 ^ 64 then some next else none) 0

/-- Drop leading zeros, but not the last byte. -/
def dropPadding : List UInt8 → List UInt8
  | first :: second :: rest =>
      if first = 0x30 then dropPadding (second :: rest)
      else first :: second :: rest
  | value => value

def parseZeroPaddedAsciiUsize (value : List UInt8) : Option Nat :=
  (fromUtf8 (dropPadding value)).bind parseUsize

/-- What the scan of the header has found. -/
structure Offsets where
  startHtml : Option Nat
  endHtml : Option Nat
  deriving DecidableEq, Repr

/-- `line.strip_suffix(b"\r")`, or the line. -/
def stripReturn (line : List UInt8) : List UInt8 :=
  if line.getLast? = some 0x0D then line.dropLast else line

def Offsets.readField (found : Offsets) (key value : List UInt8) : Offsets :=
  if key = asBytes "StartHTML" then
    match parseZeroPaddedAsciiUsize value with
    | some offset => { found with startHtml := some offset }
    | none => found
  else if key = asBytes "EndHTML" then
    match parseZeroPaddedAsciiUsize value with
    | some offset => { found with endHtml := some offset }
    | none => found
  else found

/-- The scan ends at a line without a colon, or when it has both offsets. -/
def scanHeader : List (List UInt8) → Offsets → Offsets
  | [], found => found
  | rawLine :: later, found =>
      let line := stripReturn rawLine
      match line.findIdx? (· == 0x3A) with
      | none => found
      | some colon =>
          let found := found.readField (line.take colon) (line.drop (colon + 1))
          if found.startHtml.isSome && found.endHtml.isSome then found
          else scanHeader later found

def parseCfHtmlOffsets (bytes : List UInt8) : Option (Nat × Nat) :=
  match scanHeader (bytes.splitOn 0x0A) ⟨none, none⟩ with
  | ⟨some start, some stop⟩ => some (start, stop)
  | _ => none

/-- `&bytes[start..stop]`; `none` is the panic. -/
def slice (bytes : List UInt8) (start stop : Nat) : Option (List UInt8) :=
  if start ≤ stop ∧ stop ≤ bytes.length then
    some ((bytes.drop start).take (stop - start))
  else none

/-- What is returned; `none` is a panic. -/
def readCfHtmlPayloadFromBytes (bytes : List UInt8) :
    Option (Option String) :=
  if bytes = [] then some none
  else
    let offsets := (parseCfHtmlOffsets bytes).getD (0, bytes.length)
    let start := min offsets.1 bytes.length
    let stop := max (min offsets.2 bytes.length) start
    (slice bytes start stop).map fun payload => some (toStringLossy payload)

/-! ## The wrapper -/

def wrapperHeader : String := "<html>\r\n<body>\r\n" ++ startMarker

def wrapperFooter : String := endMarker ++ "\r\n</body>\r\n</html>"

def setHtml (fragment : String) : String :=
  wrapperHeader ++ fragment ++ wrapperFooter

structure MarkerFree (fragment : String) : Prop where
  startFree : contains fragment startMarker = false
  endFree : contains fragment endMarker = false

/-- A fragment within its innermost markers, and no start marker after it. -/
def Wraps (fragment text : String) : Prop :=
  ∃ before after : List Char,
    text.toList = before ++ (startMarker.toList ++
      (fragment.toList ++ (endMarker.toList ++ after))) ∧
    ¬ startMarker.toList <:+: endMarker.toList ++ after

private def startRest : List Char := "!--StartFragment-->".toList

private def endRest : List Char := "!--EndFragment-->".toList

private theorem startMarker_toList : startMarker.toList = '<' :: startRest := by
  decide

private theorem endMarker_toList : endMarker.toList = '<' :: endRest := by
  decide

private theorem startRest_once : '<' ∉ startRest := by
  decide

private theorem endRest_once : '<' ∉ endRest := by
  decide

theorem wraps_setHtml (fragment : String) : Wraps fragment (setHtml fragment) := by
  refine ⟨"<html>\r\n<body>\r\n".toList, "\r\n</body>\r\n</html>".toList, ?_, ?_⟩
  · simp only [setHtml, wrapperHeader, wrapperFooter, String.toList_append,
      List.append_assoc]
  · decide

theorem Wraps.setHtml {fragment text : String} (wrapped : Wraps fragment text) :
    Wraps fragment (setHtml text) := by
  obtain ⟨before, after, spelled, onlyBefore⟩ := wrapped
  have footer : wrapperFooter.toList =
      '<' :: (endRest ++ "\r\n</body>\r\n</html>".toList) := by
    decide
  refine ⟨wrapperHeader.toList ++ before, after ++ wrapperFooter.toList, ?_, ?_⟩
  · simp only [CfHtml.setHtml, String.toList_append, spelled, List.append_assoc]
  · rw [← List.append_assoc, footer, startMarker_toList,
      Occurrence.infix_append_cons_iff startRest_once, not_or,
      ← startMarker_toList]
    exact ⟨onlyBefore, by decide⟩

theorem wraps_iterate (fragment : String) (layers : Nat) :
    Wraps fragment (setHtml^[layers + 1] fragment) := by
  induction layers with
  | zero => exact wraps_setHtml fragment
  | succ layers inductionHypothesis =>
      rw [Function.iterate_succ_apply']
      exact inductionHypothesis.setHtml

theorem stripCfHtmlWrapper_of_free {fragment : String}
    (free : MarkerFree fragment) : stripCfHtmlWrapper fragment = fragment := by
  have absent : Occurrence.rfind startMarker.toList fragment.toList = none := by
    rw [Occurrence.rfind_eq_none_iff]
    exact of_decide_eq_false free.startFree
  rw [stripCfHtmlWrapper, absent]

theorem stripCfHtmlWrapper_of_wraps {fragment text : String}
    (free : MarkerFree fragment) (wrapped : Wraps fragment text) :
    stripCfHtmlWrapper text = fragment := by
  obtain ⟨before, after, spelled, onlyBefore⟩ := wrapped
  have startAbsent : ¬ startMarker.toList <:+:
      fragment.toList ++ (endMarker.toList ++ after) := by
    rw [endMarker_toList, List.cons_append, startMarker_toList,
      Occurrence.infix_append_cons_iff startRest_once, not_or,
      ← List.cons_append, ← endMarker_toList, ← startMarker_toList]
    exact ⟨of_decide_eq_false free.startFree, onlyBefore⟩
  have isLast : Occurrence.rfind startMarker.toList text.toList =
      some before.length := by
    have isHere := Occurrence.rfind_self_append startRest_once
      (startMarker_toList ▸ startAbsent)
    rw [← startMarker_toList] at isHere
    rw [spelled]
    exact Occurrence.rfind_append isHere
  have inner : text.toList.drop (before.length + startMarker.toList.length) =
      fragment.toList ++ (endMarker.toList ++ after) := by
    rw [spelled, ← List.append_assoc, ← List.length_append]
    exact List.drop_left
  have isFirst : Occurrence.find endMarker.toList
      (fragment.toList ++ (endMarker.toList ++ after)) =
        some fragment.toList.length := by
    have isHere : Occurrence.find endMarker.toList (endMarker.toList ++ after) =
        some 0 := Occurrence.find_of_prefix (List.prefix_append _ _)
    have absent : ¬ endMarker.toList <:+: fragment.toList :=
      of_decide_eq_false free.endFree
    rw [endMarker_toList] at isHere absent ⊢
    rw [List.cons_append] at isHere ⊢
    rw [Occurrence.find_append_cons endRest_once absent, isHere]
    rfl
  rw [stripCfHtmlWrapper, isLast]
  dsimp only
  rw [inner, isFirst]
  dsimp only
  rw [List.take_left, String.ofList_toList]

theorem stripCfHtmlWrapper_iterate {fragment : String}
    (free : MarkerFree fragment) (layers : Nat) :
    stripCfHtmlWrapper (setHtml^[layers] fragment) = fragment := by
  cases layers with
  | zero => exact stripCfHtmlWrapper_of_free free
  | succ layers =>
      exact stripCfHtmlWrapper_of_wraps free (wraps_iterate fragment layers)

/-! ## Offsets in decimal -/

def decimalValue (value : List UInt8) : Nat :=
  value.foldl (fun total digit => total * 10 + (digit.toNat - 48)) 0

/-- A decimal text, zero padded or not. -/
structure Writes (value : List UInt8) (offset : Nat) : Prop where
  nonempty : value ≠ []
  digits : ∀ byte ∈ value, 0x30 ≤ byte ∧ byte ≤ 0x39
  decimal : decimalValue value = offset

variable {value : List UInt8} {start stop : Nat}

theorem Writes.dropPadding {offset : Nat} (written : Writes value offset) :
    Writes (dropPadding value) offset := by
  induction value using CfHtml.dropPadding.induct with
  | case1 second rest inductionHypothesis =>
      rw [CfHtml.dropPadding, if_pos rfl]
      apply inductionHypothesis
      refine ⟨List.cons_ne_nil second rest, ?_, ?_⟩
      · intro byte member
        exact written.digits byte (List.mem_cons_of_mem _ member)
      · exact written.decimal
  | case2 first second rest isDigit =>
      rw [CfHtml.dropPadding, if_neg isDigit]
      exact written
  | case3 value short =>
      rw [CfHtml.dropPadding.eq_2 value short]
      exact written

private def digitChar (byte : UInt8) : Char := Char.ofNat byte.toNat

private theorem digit_cases {byte : UInt8}
    (isDigit : 0x30 ≤ byte ∧ byte ≤ 0x39) :
    byte ∈ ([0x30, 0x31, 0x32, 0x33, 0x34, 0x35, 0x36, 0x37, 0x38, 0x39] :
      List UInt8) := by
  obtain ⟨low, high⟩ := isDigit
  rw [UInt8.le_iff_toNat_le] at low high
  have lowNat : (0x30 : UInt8).toNat = 48 := rfl
  have highNat : (0x39 : UInt8).toNat = 57 := rfl
  rw [lowNat] at low
  rw [highNat] at high
  have spelled : byte = UInt8.ofNat byte.toNat := by simp
  rw [spelled]
  generalize byte.toNat = number at low high
  interval_cases number <;> decide

private theorem digitChar_spec {byte : UInt8}
    (isDigit : 0x30 ≤ byte ∧ byte ≤ 0x39) :
    String.utf8EncodeChar (digitChar byte) = [byte] ∧
      (digitChar byte).isDigit = true ∧ digitChar byte ≠ '+' ∧
      (digitChar byte).toNat = byte.toNat := by
  have listed := digit_cases isDigit
  revert byte
  simp only [List.mem_cons, List.not_mem_nil, or_false]
  rintro byte - (rfl | rfl | rfl | rfl | rfl | rfl | rfl | rfl | rfl | rfl) <;>
    decide

private theorem fromUtf8_digits
    (digits : ∀ byte ∈ value, 0x30 ≤ byte ∧ byte ≤ 0x39) :
    fromUtf8 value = some (String.ofList (value.map digitChar)) := by
  have encoded : asBytes (String.ofList (value.map digitChar)) = value := by
    rw [asBytes_eq_flatMap, String.toList_ofList, List.flatMap_map]
    induction value with
    | nil => rfl
    | cons byte rest inductionHypothesis =>
        rw [List.flatMap_cons, (digitChar_spec (digits byte (by simp))).1,
          inductionHypothesis fun other member =>
            digits other (List.mem_cons_of_mem _ member)]
        rfl
  rw [← encoded, fromUtf8_asBytes, encoded]

private theorem foldlM_digits
    (digits : ∀ byte ∈ value, 0x30 ≤ byte ∧ byte ≤ 0x39) (total : Nat)
    (fits : value.foldl (fun total digit => total * 10 + (digit.toNat - 48))
      total < 2 ^ 64) :
    (value.map digitChar).foldlM (fun value c =>
        let next := value * 10 + (c.toNat - 48)
        if c.isDigit ∧ next < 2 ^ 64 then some next else none) total =
      some (value.foldl (fun total digit => total * 10 + (digit.toNat - 48))
        total) := by
  induction value generalizing total with
  | nil => rfl
  | cons byte rest inductionHypothesis =>
      have spec := digitChar_spec (digits byte (by simp))
      have later : ∀ other ∈ rest, 0x30 ≤ other ∧ other ≤ 0x39 :=
        fun other member => digits other (List.mem_cons_of_mem _ member)
      rw [List.foldl_cons] at fits ⊢
      have grows : ∀ (bytes : List UInt8) (start : Nat),
          start ≤ bytes.foldl
            (fun total digit => total * 10 + (digit.toNat - 48)) start := by
        intro bytes
        induction bytes with
        | nil => intro start; exact Nat.le_refl start
        | cons head tail tailHypothesis =>
            intro start
            rw [List.foldl_cons]
            exact Nat.le_trans (by omega) (tailHypothesis _)
      have nextFits : total * 10 + (byte.toNat - 48) < 2 ^ 64 :=
        Nat.lt_of_le_of_lt (grows rest _) fits
      rw [List.map_cons, List.foldlM_cons]
      dsimp only
      rw [spec.2.2.2, if_pos ⟨spec.2.1, nextFits⟩]
      exact inductionHypothesis later _ fits

theorem Writes.parse {offset : Nat} (written : Writes value offset)
    (fits : offset < 2 ^ 64) :
    parseZeroPaddedAsciiUsize value = some offset := by
  have trimmed := written.dropPadding
  rw [parseZeroPaddedAsciiUsize, fromUtf8_digits trimmed.digits,
    Option.bind_some, parseUsize, String.toList_ofList]
  generalize CfHtml.dropPadding value = kept at trimmed
  cases kept with
  | nil => exact absurd rfl trimmed.nonempty
  | cons byte rest =>
      have notPlus := (digitChar_spec (trimmed.digits byte (by simp))).2.2.1
      have unsigned : (match (byte :: rest).map digitChar with
          | '+' :: rest => rest
          | chars => chars) = (byte :: rest).map digitChar := by
        rw [List.map_cons]
        split
        · rename_i sign
          exact absurd (List.cons.inj sign).1 notPlus
        · rfl
      dsimp only
      rw [unsigned, if_neg (by simp)]
      have total := trimmed.decimal
      rw [decimalValue] at total
      rw [foldlM_digits trimmed.digits 0 (by rw [total]; exact fits), total]

/-! ## Buffers -/

/-- A `key:value` line; it ends in a line feed, with or without a return. -/
structure HeaderField where
  key : List UInt8
  value : List UInt8
  crlf : Bool
  keyColon : 0x3A ∉ key
  keyLine : 0x0A ∉ key
  valueLine : 0x0A ∉ value

def HeaderField.line (field : HeaderField) : List UInt8 :=
  field.key ++ 0x3A :: (field.value ++ if field.crlf then [0x0D] else [])

/-- A header and what comes after it. -/
def render (fields : List HeaderField) (body : List UInt8) : List UInt8 :=
  fields.flatMap (fun field => field.line ++ [0x0A]) ++ body

/-- Every field with this key writes this offset, and there is one. -/
structure States (fields : List HeaderField) (key : String) (offset : Nat) :
    Prop where
  stated : ∃ field ∈ fields, field.key = asBytes key
  written : ∀ field ∈ fields, field.key = asBytes key →
    Writes field.value offset

/-- The offsets of the header delimit a document; the buffer is one in
memory. -/
structure Delimits (fields : List HeaderField) (body : List UInt8)
    (start stop : Nat) (document : String) : Prop where
  startHtml : States fields "StartHTML" start
  endHtml : States fields "EndHTML" stop
  ordered : start ≤ stop
  inBuffer : stop ≤ (render fields body).length
  addressed : (render fields body).length < 2 ^ 64
  delimited : ((render fields body).drop start).take (stop - start) =
    asBytes document

theorem splitOn_render (fields : List HeaderField) (body : List UInt8) :
    (render fields body).splitOn 0x0A =
      fields.map HeaderField.line ++ body.splitOn 0x0A := by
  induction fields with
  | nil => rfl
  | cons field later inductionHypothesis =>
      have isSplit : render (field :: later) body =
          field.line ++ 0x0A :: render later body := by
        simp [render]
      have oneLine : ∀ byte ∈ field.line, (byte == (0x0A : UInt8)) = false := by
        intro byte member
        rw [beq_eq_false_iff_ne]
        rintro rfl
        rw [HeaderField.line, List.mem_append, List.mem_cons,
          List.mem_append] at member
        rcases member with inKey | isColon | inValue | isReturn
        · exact field.keyLine inKey
        · exact absurd isColon (by decide)
        · exact field.valueLine inValue
        · cases isCrlf : field.crlf with
          | true => rw [isCrlf] at isReturn; exact absurd isReturn (by decide)
          | false => rw [isCrlf] at isReturn; exact absurd isReturn (by decide)
      rw [isSplit, List.map_cons, List.cons_append, ← inductionHypothesis]
      exact List.splitOnP_append_cons_of_forall_mem oneLine 0x0A (by decide) _

theorem stripReturn_line (field : HeaderField) :
    ∃ value, stripReturn field.line = field.key ++ 0x3A :: value ∧
      (field.value.getLast? ≠ some 0x0D → value = field.value) := by
  cases isCrlf : field.crlf with
  | true =>
      refine ⟨field.value, ?_, fun _ => rfl⟩
      have spelled : field.line =
          (field.key ++ 0x3A :: field.value) ++ [0x0D] := by
        simp [HeaderField.line, isCrlf]
      rw [stripReturn, spelled, List.getLast?_concat, if_pos rfl,
        List.dropLast_concat]
  | false =>
      have spelled : field.line = field.key ++ 0x3A :: field.value := by
        simp [HeaderField.line, isCrlf]
      rw [spelled]
      rcases List.eq_nil_or_concat field.value with isEmpty | ⟨before, last, isLast⟩
      · refine ⟨[], ?_, fun _ => isEmpty.symm⟩
        rw [isEmpty, stripReturn, List.getLast?_concat, if_neg (by decide)]
      · have whole : field.key ++ 0x3A :: field.value =
            (field.key ++ 0x3A :: before) ++ [last] := by
          simp [isLast]
        by_cases isReturn : last = 0x0D
        · refine ⟨before, ?_, ?_⟩
          · rw [whole, stripReturn, List.getLast?_concat,
              if_pos (by rw [isReturn]), List.dropLast_concat]
          · intro notReturn
            rw [isLast, List.concat_eq_append, List.getLast?_concat,
              isReturn] at notReturn
            exact absurd rfl notReturn
        · refine ⟨field.value, ?_, fun _ => rfl⟩
          rw [whole, stripReturn, List.getLast?_concat,
            if_neg (by simpa using isReturn)]

theorem Writes.getLast?_ne {offset : Nat} (written : Writes value offset) :
    value.getLast? ≠ some 0x0D := by
  intro isReturn
  have isDigit := written.digits 0x0D (List.mem_of_getLast? isReturn)
  exact absurd isDigit.1 (by decide)

theorem scanHeader_line (field : HeaderField) (later : List (List UInt8))
    (found : Offsets) :
    ∃ value, (field.value.getLast? ≠ some 0x0D → value = field.value) ∧
      scanHeader (field.line :: later) found =
        let next := found.readField field.key value
        if next.startHtml.isSome && next.endHtml.isSome then next
        else scanHeader later next := by
  obtain ⟨value, isLine, isValue⟩ := stripReturn_line field
  refine ⟨value, isValue, ?_⟩
  have colon : (field.key ++ 0x3A :: value).findIdx? (· == 0x3A) =
      some field.key.length := by
    have notInKey : field.key.findIdx? (· == 0x3A) = none := by
      rw [List.findIdx?_eq_none_iff]
      intro byte member
      rw [beq_eq_false_iff_ne]
      rintro rfl
      exact field.keyColon member
    rw [List.findIdx?_append, notInKey]
    simp [List.findIdx?_cons]
  have isKey : (field.key ++ 0x3A :: value).take field.key.length =
      field.key := List.take_left
  have isRest : (field.key ++ 0x3A :: value).drop (field.key.length + 1) =
      value := by
    simp
  rw [scanHeader, isLine]
  dsimp only
  rw [colon]
  dsimp only
  rw [isKey, isRest]

/-- What has been found of the two offsets is right. -/
structure Agrees (found : Offsets) (start stop : Nat) : Prop where
  startRight : found.startHtml = none ∨ found.startHtml = some start
  endRight : found.endHtml = none ∨ found.endHtml = some stop

theorem keys_differ : asBytes "StartHTML" ≠ asBytes "EndHTML" := by
  decide

theorem Agrees.readField {found : Offsets} {field : HeaderField}
    (agrees : Agrees found start stop)
    (startWritten : field.key = asBytes "StartHTML" →
      Writes field.value start)
    (endWritten : field.key = asBytes "EndHTML" → Writes field.value stop)
    (startFits : start < 2 ^ 64) (stopFits : stop < 2 ^ 64)
    (isValue : field.value.getLast? ≠ some 0x0D → value = field.value) :
    let next := found.readField field.key value
    Agrees next start stop ∧
      (field.key = asBytes "StartHTML" ∨ found.startHtml = some start →
        next.startHtml = some start) ∧
      (field.key = asBytes "EndHTML" ∨ found.endHtml = some stop →
        next.endHtml = some stop) := by
  intro next
  by_cases isStart : field.key = asBytes "StartHTML"
  · have written := startWritten isStart
    have notEnd : field.key ≠ asBytes "EndHTML" := by
      rw [isStart]
      exact keys_differ
    have isNext : next = { found with startHtml := some start } := by
      show found.readField field.key value = _
      rw [Offsets.readField, if_pos isStart, isValue written.getLast?_ne,
        written.parse startFits]
    rw [isNext]
    refine ⟨⟨Or.inr rfl, agrees.endRight⟩, fun _ => rfl, ?_⟩
    rintro (isEnd | already)
    · exact absurd isEnd notEnd
    · exact already
  · by_cases isEnd : field.key = asBytes "EndHTML"
    · have written := endWritten isEnd
      have isNext : next = { found with endHtml := some stop } := by
        show found.readField field.key value = _
        rw [Offsets.readField, if_neg isStart, if_pos isEnd,
          isValue written.getLast?_ne, written.parse stopFits]
      rw [isNext]
      refine ⟨⟨agrees.startRight, Or.inr rfl⟩, ?_, fun _ => rfl⟩
      rintro (startKey | already)
      · exact absurd startKey isStart
      · exact already
    · have isNext : next = found := by
        show found.readField field.key value = _
        rw [Offsets.readField, if_neg isStart, if_neg isEnd]
      rw [isNext]
      refine ⟨agrees, ?_, ?_⟩
      · rintro (startKey | already)
        · exact absurd startKey isStart
        · exact already
      · rintro (endKey | already)
        · exact absurd endKey isEnd
        · exact already

variable {fields : List HeaderField}

theorem scanHeader_fields
    (startWritten : ∀ field ∈ fields, field.key = asBytes "StartHTML" →
      Writes field.value start)
    (endWritten : ∀ field ∈ fields, field.key = asBytes "EndHTML" →
      Writes field.value stop) (startFits : start < 2 ^ 64)
    (stopFits : stop < 2 ^ 64) (rest : List (List UInt8)) {found : Offsets}
    (agrees : Agrees found start stop)
    (missing : (found.startHtml.isSome && found.endHtml.isSome) = false)
    (startAhead : found.startHtml = some start ∨
      ∃ field ∈ fields, field.key = asBytes "StartHTML")
    (endAhead : found.endHtml = some stop ∨
      ∃ field ∈ fields, field.key = asBytes "EndHTML") :
    scanHeader (fields.map HeaderField.line ++ rest) found =
      ⟨some start, some stop⟩ := by
  induction fields generalizing found with
  | nil =>
      rcases startAhead with startFound | ⟨field, none, _⟩
      · rcases endAhead with endFound | ⟨field, none, _⟩
        · rw [startFound, endFound] at missing
          cases missing
        · cases none
      · cases none
  | cons field later inductionHypothesis =>
      obtain ⟨value, isValue, isScan⟩ :=
        scanHeader_line field (later.map HeaderField.line ++ rest) found
      have next := agrees.readField (startWritten field (by simp))
        (endWritten field (by simp)) startFits stopFits isValue
      dsimp only at isScan next
      rw [List.map_cons, List.cons_append, isScan]
      generalize found.readField field.key value = read at next ⊢
      rcases next with ⟨nextAgrees, startRead, endRead⟩
      have startLater : read.startHtml = some start ∨
          ∃ other ∈ later, other.key = asBytes "StartHTML" := by
        rcases startAhead with already | ⟨other, member, isKey⟩
        · exact Or.inl (startRead (Or.inr already))
        · rcases List.mem_cons.mp member with rfl | inLater
          · exact Or.inl (startRead (Or.inl isKey))
          · exact Or.inr ⟨other, inLater, isKey⟩
      have endLater : read.endHtml = some stop ∨
          ∃ other ∈ later, other.key = asBytes "EndHTML" := by
        rcases endAhead with already | ⟨other, member, isKey⟩
        · exact Or.inl (endRead (Or.inr already))
        · rcases List.mem_cons.mp member with rfl | inLater
          · exact Or.inl (endRead (Or.inl isKey))
          · exact Or.inr ⟨other, inLater, isKey⟩
      by_cases both : (read.startHtml.isSome && read.endHtml.isSome) = true
      · rw [if_pos both]
        rw [Bool.and_eq_true, Option.isSome_iff_ne_none,
          Option.isSome_iff_ne_none] at both
        have startIs := nextAgrees.startRight.resolve_left both.1
        have endIs := nextAgrees.endRight.resolve_left both.2
        cases read with
        | mk startHtml endHtml =>
            dsimp only at startIs endIs
            rw [startIs, endIs]
      · rw [if_neg both]
        apply inductionHypothesis
        · intro other member
          exact startWritten other (List.mem_cons_of_mem _ member)
        · intro other member
          exact endWritten other (List.mem_cons_of_mem _ member)
        · exact nextAgrees
        · exact Bool.eq_false_of_not_eq_true both
        · exact startLater
        · exact endLater

theorem Delimits.parse {body : List UInt8} {document : String}
    (delimits : Delimits fields body start stop document) :
    parseCfHtmlOffsets (render fields body) = some (start, stop) := by
  have stopFits := Nat.lt_of_le_of_lt delimits.inBuffer delimits.addressed
  have startFits := Nat.lt_of_le_of_lt delimits.ordered stopFits
  have found : scanHeader (fields.map HeaderField.line ++
      body.splitOn 0x0A) ⟨none, none⟩ = ⟨some start, some stop⟩ :=
    scanHeader_fields delimits.startHtml.written delimits.endHtml.written
      startFits stopFits _ ⟨Or.inl rfl, Or.inl rfl⟩ rfl
      (Or.inr delimits.startHtml.stated) (Or.inr delimits.endHtml.stated)
  rw [parseCfHtmlOffsets, splitOn_render, found]

theorem readCfHtmlPayloadFromBytes_of_delimits {body : List UInt8}
    {document : String} (delimits : Delimits fields body start stop document) :
    readCfHtmlPayloadFromBytes (render fields body) = some (some document) := by
  have nonempty : render fields body ≠ [] := by
    intro isEmpty
    have none := delimits.parse
    rw [isEmpty] at none
    exact absurd none (by simp [parseCfHtmlOffsets, scanHeader, stripReturn])
  have inBuffer := delimits.inBuffer
  have ordered := delimits.ordered
  have startMin : min start (render fields body).length = start := by omega
  have stopMin : max (min stop (render fields body).length) start = stop := by
    omega
  rw [readCfHtmlPayloadFromBytes, if_neg nonempty, delimits.parse]
  dsimp only [Option.getD_some]
  rw [startMin, stopMin, slice, if_pos ⟨ordered, inBuffer⟩,
    delimits.delimited, Option.map_some,
    toStringLossy_of_fromUtf8 (fromUtf8_asBytes document)]

/-- The reader returns the lossy decoding of a part of the buffer. -/
def ReturnsSubRange (bytes : List UInt8) : Prop :=
  ∃ start stop, start ≤ stop ∧ stop ≤ bytes.length ∧
    readCfHtmlPayloadFromBytes bytes =
      some (some (toStringLossy ((bytes.drop start).take (stop - start))))

theorem returnsSubRange {bytes : List UInt8} (nonempty : bytes ≠ []) :
    ReturnsSubRange bytes := by
  generalize isOffsets :
    (parseCfHtmlOffsets bytes).getD (0, bytes.length) = offsets
  have inBounds : min offsets.1 bytes.length ≤
      max (min offsets.2 bytes.length) (min offsets.1 bytes.length) ∧
      max (min offsets.2 bytes.length) (min offsets.1 bytes.length) ≤
        bytes.length := by
    omega
  refine ⟨min offsets.1 bytes.length,
    max (min offsets.2 bytes.length) (min offsets.1 bytes.length),
    inBounds.1, inBounds.2, ?_⟩
  rw [readCfHtmlPayloadFromBytes, if_neg nonempty, isOffsets]
  dsimp only
  rw [slice, if_pos inBounds, Option.map_some]

/-- Wrappers do not accumulate, and the reader never fails on a buffer that
has a byte. -/
theorem wrappersNeverAccumulate :
    (∀ (fragment : String) (layers : Nat), MarkerFree fragment →
      (∀ (fields : List HeaderField) (body : List UInt8) (start stop : Nat),
        Delimits fields body start stop (setHtml^[layers] fragment) →
        (readCfHtmlPayloadFromBytes (render fields body)).map
          (Option.map stripCfHtmlWrapper) = some (some fragment)) ∧
      stripCfHtmlWrapper (stripCfHtmlWrapper (setHtml^[layers] fragment)) =
        stripCfHtmlWrapper (setHtml^[layers] fragment)) ∧
    ∀ bytes : List UInt8, bytes ≠ [] → ReturnsSubRange bytes := by
  refine ⟨?_, fun bytes nonempty => returnsSubRange nonempty⟩
  intro fragment layers free
  have stripped := stripCfHtmlWrapper_iterate free layers
  constructor
  · intro fields body start stop delimits
    rw [readCfHtmlPayloadFromBytes_of_delimits delimits, Option.map_some,
      Option.map_some, stripped]
  · rw [stripped]
    exact stripCfHtmlWrapper_of_free free

namespace Sample

def startField : HeaderField where
  key := asBytes "StartHTML"
  value := asBytes "0028"
  crlf := true
  keyColon := by decide
  keyLine := by decide
  valueLine := by decide

def endField : HeaderField where
  key := asBytes "EndHTML"
  value := asBytes "101"
  crlf := false
  keyColon := by decide
  keyLine := by decide
  valueLine := by decide

theorem startField_writes : Writes startField.value 28 := by
  have digits : (startField.value.all fun byte =>
      0x30 ≤ byte ∧ byte ≤ 0x39) = true := by
    decide
  constructor
  · decide
  · intro byte member
    exact of_decide_eq_true (List.all_eq_true.mp digits byte member)
  · decide +kernel

theorem endField_writes : Writes endField.value 101 := by
  have digits : (endField.value.all fun byte =>
      0x30 ≤ byte ∧ byte ≤ 0x39) = true := by
    decide
  constructor
  · decide
  · intro byte member
    exact of_decide_eq_true (List.all_eq_true.mp digits byte member)
  · decide +kernel

theorem fields_delimit :
    Delimits [startField, endField] (asBytes (setHtml "x")) 28 101
      (setHtml^[1] "x") where
  startHtml := by
    refine ⟨⟨startField, by simp, rfl⟩, ?_⟩
    intro field member isStart
    rcases List.mem_pair.mp member with rfl | rfl
    · exact startField_writes
    · exact absurd isStart.symm keys_differ
  endHtml := by
    refine ⟨⟨endField, by simp, rfl⟩, ?_⟩
    intro field member isEnd
    rcases List.mem_pair.mp member with rfl | rfl
    · exact absurd isEnd keys_differ
    · exact endField_writes
  ordered := by decide
  inBuffer := by decide +kernel
  addressed := by decide +kernel
  delimited := by decide +kernel

end Sample

theorem wrappersNeverAccumulate_oneLayer :
    (readCfHtmlPayloadFromBytes
      (render [Sample.startField, Sample.endField]
        (asBytes (setHtml "x")))).map (Option.map stripCfHtmlWrapper) =
      some (some "x") ∧
    ReturnsSubRange [0xE6] := by
  have free : MarkerFree "x" := ⟨by decide, by decide⟩
  constructor
  · exact (wrappersNeverAccumulate.1 "x" 1 free).1 _ _ 28 101
      Sample.fields_delimit
  · exact wrappersNeverAccumulate.2 [0xE6] (by decide)

/-- An empty buffer has no payload. -/
theorem emptyBuffer_returnsNone :
    ¬ ∀ bytes : List UInt8, ReturnsSubRange bytes := by
  intro always
  obtain ⟨start, stop, _, _, isText⟩ := always []
  rw [readCfHtmlPayloadFromBytes, if_pos rfl] at isText
  cases isText

end OpenClipboard.CfHtml
