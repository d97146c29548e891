import Mathlib.Data.List.Basic

/-!
# Base 64 text

The standard alphabet with padding: every three bytes become four digits, and a
last group of one or two bytes is filled up with `=`.
-/

namespace OpenClipboard.Base64Text

def alphabet : List Char :=
  "ABCDEFGHIJKLMNOPQRSTUVWXYZabcdefghijklmnopqrstuvwxyz0123456789+/".toList

/-- The digit of a value below 64. -/
def digit (value : Nat) : Char := alphabet.getD value '='

def value (c : Char) : Option Nat :=
  if c ∈ alphabet then some (alphabet.idxOf c) else none

def encode : List UInt8 → List Char
  | [] => []
  | [a] => [digit (a.toNat / 4), digit (a.toNat % 4 * 16), '=', '=']
  | [a, b] =>
      [digit (a.toNat / 4), digit (a.toNat % 4 * 16 + b.toNat / 16),
        digit (b.toNat % 16 * 4), '=']
  | a :: b :: c :: rest =>
      digit (a.toNat / 4) :: digit (a.toNat % 4 * 16 + b.toNat / 16) ::
        digit (b.toNat % 16 * 4 + c.toNat / 64) :: digit (c.toNat % 64) ::
          encode rest

/-- A last group of two digits. -/
def decodeOne (w x : Char) : Option (List UInt8) := do
  let w ← value w
  let x ← value x
  if x % 16 = 0 then some [UInt8.ofNat (w * 4 + x / 16)] else none

/-- A last group of three digits. -/
def decodeTwo (w x y : Char) : Option (List UInt8) := do
  let w ← value w
  let x ← value x
  let y ← value y
  if y % 4 = 0 then
    some [UInt8.ofNat (w * 4 + x / 16), UInt8.ofNat (x % 16 * 16 + y / 4)]
  else
    none

/-- A group of four digits. -/
def decodeThree (w x y z : Char) : Option (List UInt8) := do
  let w ← value w
  let x ← value x
  let y ← value y
  let z ← value z
  some [UInt8.ofNat (w * 4 + x / 16), UInt8.ofNat (x % 16 * 16 + y / 4),
    UInt8.ofNat (y % 4 * 64 + z)]

/-- Padding is required, and is found at the end only. -/
def decode : List Char → Option (List UInt8)
  | [] => some []
  | w :: x :: y :: z :: rest =>
      if rest = [] ∧ z = '=' then
        if y = '=' then decodeOne w x else decodeTwo w x y
      else
        (decodeThree w x y z).bind fun group => (decode rest).map (group ++ ·)
  | _ => none

theorem value_digit {n : Nat} (small : n < 64) : value (digit n) = some n := by
  have each : ∀ n < 64, value (digit n) = some n := by decide +kernel
  exact each n small

theorem digit_ne_pad {n : Nat} (small : n < 64) : digit n ≠ '=' := by
  have each : ∀ n < 64, digit n ≠ '=' := by decide +kernel
  exact each n small

theorem ofNat_eq {byte : UInt8} {n : Nat} (same : n = byte.toNat) :
    UInt8.ofNat n = byte := by
  rw [same]
  exact UInt8.ofNat_toNat

/-- Decoding undoes encoding. -/
theorem decode_encode (bytes : List UInt8) :
    decode (encode bytes) = some bytes := by
  fun_induction encode bytes with
  | case1 => rfl
  | case2 a =>
      have aBound := a.toNat_lt
      have first : value (digit (a.toNat / 4)) = some (a.toNat / 4) :=
        value_digit (by omega)
      have second : value (digit (a.toNat % 4 * 16)) =
          some (a.toNat % 4 * 16) := value_digit (by omega)
      have whole : UInt8.ofNat (a.toNat / 4 * 4 + a.toNat % 4 * 16 / 16) = a :=
        ofNat_eq (by omega)
      have canonical : a.toNat % 4 * 16 % 16 = 0 := by omega
      simp only [decode, decodeOne, first, second, canonical, whole, and_self,
        if_true, Option.bind_eq_bind, Option.bind_some]
  | case3 a b =>
      have aBound := a.toNat_lt
      have bBound := b.toNat_lt
      have first : value (digit (a.toNat / 4)) = some (a.toNat / 4) :=
        value_digit (by omega)
      have second : value (digit (a.toNat % 4 * 16 + b.toNat / 16)) =
          some (a.toNat % 4 * 16 + b.toNat / 16) := value_digit (by omega)
      have third : value (digit (b.toNat % 16 * 4)) =
          some (b.toNat % 16 * 4) := value_digit (by omega)
      have unpadded : digit (b.toNat % 16 * 4) ≠ '=' :=
        digit_ne_pad (by omega)
      have one : UInt8.ofNat (a.toNat / 4 * 4 +
          (a.toNat % 4 * 16 + b.toNat / 16) / 16) = a := ofNat_eq (by omega)
      have two : UInt8.ofNat ((a.toNat % 4 * 16 + b.toNat / 16) % 16 * 16 +
          b.toNat % 16 * 4 / 4) = b := ofNat_eq (by omega)
      have canonical : b.toNat % 16 * 4 % 4 = 0 := by omega
      simp only [decode, decodeTwo, first, second, third, unpadded, canonical,
        one, two, and_self, if_true, if_false, Option.bind_eq_bind,
        Option.bind_some]
  | case4 a b c rest inductionHypothesis =>
      have aBound := a.toNat_lt
      have bBound := b.toNat_lt
      have cBound := c.toNat_lt
      have first : value (digit (a.toNat / 4)) = some (a.toNat / 4) :=
        value_digit (by omega)
      have second : value (digit (a.toNat % 4 * 16 + b.toNat / 16)) =
          some (a.toNat % 4 * 16 + b.toNat / 16) := value_digit (by omega)
      have third : value (digit (b.toNat % 16 * 4 + c.toNat / 64)) =
          some (b.toNat % 16 * 4 + c.toNat / 64) := value_digit (by omega)
      have fourth : value (digit (c.toNat % 64)) = some (c.toNat % 64) :=
        value_digit (by omega)
      have unpadded : digit (c.toNat % 64) ≠ '=' := digit_ne_pad (by omega)
      have one : UInt8.ofNat (a.toNat / 4 * 4 +
          (a.toNat % 4 * 16 + b.toNat / 16) / 16) = a := ofNat_eq (by omega)
      have two : UInt8.ofNat ((a.toNat % 4 * 16 + b.toNat / 16) % 16 * 16 +
          (b.toNat % 16 * 4 + c.toNat / 64) / 4) = b := ofNat_eq (by omega)
      have three : UInt8.ofNat ((b.toNat % 16 * 4 + c.toNat / 64) % 4 * 64 +
          c.toNat % 64) = c := ofNat_eq (by omega)
      simp only [decode, decodeThree, first, second, third, fourth, unpadded,
        one, two, three, and_false, if_false, Option.bind_eq_bind,
        Option.bind_some, inductionHypothesis, Option.map_some,
        List.cons_append, List.nil_append]

theorem digit_mem (n : Nat) : digit n ∈ alphabet ∨ digit n = '=' := by
  unfold digit
  rw [List.getD_eq_getElem?_getD]
  cases found : alphabet[n]? with
  | none => exact Or.inr rfl
  | some c => exact Or.inl (List.mem_of_getElem? found)

theorem mem_encode (bytes : List UInt8) :
    ∀ c ∈ encode bytes, c ∈ alphabet ∨ c = '=' := by
  fun_induction encode bytes with
  | case1 =>
      intro c member
      cases member
  | case2 a => simp [digit_mem]
  | case3 a b => simp [digit_mem]
  | case4 a b c rest inductionHypothesis =>
      intro d member
      simp only [List.mem_cons] at member
      rcases member with rfl | rfl | rfl | rfl | later
      · exact digit_mem _
      · exact digit_mem _
      · exact digit_mem _
      · exact digit_mem _
      · exact inductionHypothesis d later

theorem encode_ne_nil {bytes : List UInt8} (nonempty : bytes ≠ []) :
    encode bytes ≠ [] := by
  fun_cases encode bytes with
  | case1 => exact absurd rfl nonempty
  | case2 a => exact List.cons_ne_nil _ _
  | case3 a b => exact List.cons_ne_nil _ _
  | case4 a b c rest => exact List.cons_ne_nil _ _

/-! ## The URL-safe alphabet, without padding -/

def toUrlSafe (c : Char) : Char :=
  if c = '+' then '-' else if c = '/' then '_' else c

def ofUrlSafe (c : Char) : Char :=
  if c = '-' then '+' else if c = '_' then '/' else c

def urlSafeAlphabet : List Char := alphabet.map toUrlSafe

def encodeUrlSafe (bytes : List UInt8) : List Char :=
  ((encode bytes).filter fun c => c ≠ '=').map toUrlSafe

/-- What a text of so many digits is filled up with. -/
def padding (digits : Nat) : List Char :=
  List.replicate ((4 - digits % 4) % 4) '='

def decodeUrlSafe (text : List Char) : Option (List UInt8) :=
  if text.all fun c => c ∈ urlSafeAlphabet then
    decode (text.map ofUrlSafe ++ padding text.length)
  else
    none

theorem ofUrlSafe_toUrlSafe {c : Char} (isDigit : c ∈ alphabet) :
    ofUrlSafe (toUrlSafe c) = c := by
  have each : (alphabet.all fun c => ofUrlSafe (toUrlSafe c) = c) = true := by
    decide +kernel
  exact of_decide_eq_true (List.all_eq_true.mp each c isDigit)

theorem digits_mem {bytes : List UInt8} {c : Char}
    (member : c ∈ (encode bytes).filter fun c => c ≠ '=') : c ∈ alphabet := by
  rw [List.mem_filter, decide_eq_true_eq] at member
  rcases mem_encode bytes c member.1 with isDigit | isPad
  · exact isDigit
  · exact absurd isPad member.2

theorem mem_encodeUrlSafe {bytes : List UInt8} {c : Char}
    (member : c ∈ encodeUrlSafe bytes) : c ∈ urlSafeAlphabet := by
  obtain ⟨digit, isDigit, isSafe⟩ := List.mem_map.mp member
  rw [← isSafe]
  exact List.mem_map_of_mem (digits_mem isDigit)

theorem padding_add_four (digits : Nat) :
    padding (digits + 4) = padding digits := by
  unfold padding
  rw [Nat.add_mod_right]

/-- The padding is all that is lost. -/
theorem digits_append_padding (bytes : List UInt8) :
    ((encode bytes).filter fun c => c ≠ '=') ++
        padding ((encode bytes).filter fun c => c ≠ '=').length =
      encode bytes := by
  fun_induction encode bytes with
  | case1 => rfl
  | case2 a =>
      have aBound := a.toNat_lt
      have first := digit_ne_pad (show a.toNat / 4 < 64 by omega)
      have second := digit_ne_pad (show a.toNat % 4 * 16 < 64 by omega)
      simp [first, second, padding]
  | case3 a b =>
      have aBound := a.toNat_lt
      have bBound := b.toNat_lt
      have first := digit_ne_pad (show a.toNat / 4 < 64 by omega)
      have second := digit_ne_pad
        (show a.toNat % 4 * 16 + b.toNat / 16 < 64 by omega)
      have third := digit_ne_pad (show b.toNat % 16 * 4 < 64 by omega)
      simp [first, second, third, padding]
  | case4 a b c rest inductionHypothesis =>
      have aBound := a.toNat_lt
      have bBound := b.toNat_lt
      have cBound := c.toNat_lt
      have first := digit_ne_pad (show a.toNat / 4 < 64 by omega)
      have second := digit_ne_pad
        (show a.toNat % 4 * 16 + b.toNat / 16 < 64 by omega)
      have third := digit_ne_pad
        (show b.toNat % 16 * 4 + c.toNat / 64 < 64 by omega)
      have fourth := digit_ne_pad (show c.toNat % 64 < 64 by omega)
      simp only [List.filter_cons, first, second, third, fourth,
        ne_eq, not_false_eq_true, decide_true, if_true, List.cons_append,
        List.length_cons, padding_add_four]
      rw [inductionHypothesis]

theorem map_ofUrlSafe_encodeUrlSafe (bytes : List UInt8) :
    (encodeUrlSafe bytes).map ofUrlSafe =
      (encode bytes).filter fun c => c ≠ '=' := by
  unfold encodeUrlSafe
  rw [List.map_map]
  have each : ∀ c ∈ (encode bytes).filter fun c => c ≠ '=',
      (ofUrlSafe ∘ toUrlSafe) c = id c :=
    fun c member => ofUrlSafe_toUrlSafe (digits_mem member)
  rw [List.map_congr_left each, List.map_id]

/-- Decoding undoes encoding here as well. -/
theorem decodeUrlSafe_encodeUrlSafe (bytes : List UInt8) :
    decodeUrlSafe (encodeUrlSafe bytes) = some bytes := by
  have isSafe : ((encodeUrlSafe bytes).all fun c => c ∈ urlSafeAlphabet) =
      true := by
    rw [List.all_eq_true]
    intro c member
    exact decide_eq_true (mem_encodeUrlSafe member)
  have sameLength : (encodeUrlSafe bytes).length =
      ((encode bytes).filter fun c => c ≠ '=').length := by
    unfold encodeUrlSafe
    rw [List.length_map]
  unfold decodeUrlSafe
  rw [if_pos isSafe, map_ofUrlSafe_encodeUrlSafe, sameLength,
    digits_append_padding]
  exact decode_encode bytes

theorem encodeUrlSafe_ne_nil {bytes : List UInt8} (nonempty : bytes ≠ []) :
    encodeUrlSafe bytes ≠ [] := by
  intro isNil
  have decoded := decodeUrlSafe_encodeUrlSafe bytes
  rw [isNil] at decoded
  have isEmpty : some [] = some bytes := decoded
  exact nonempty (Option.some.inj isEmpty).symm

end OpenClipboard.Base64Text
