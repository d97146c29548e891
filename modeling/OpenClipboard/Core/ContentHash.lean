import Mathlib.Data.List.Lex
import Mathlib.Data.List.Sort
import OpenClipboard.Core.Text

/-!
# Content identity hashing

The formulas of the content-hash crate over an arbitrary `blake3`.  A digest
is 32 bytes; digests are ordered bytewise, and every aggregate sorts its
digests first, so it depends on them as a multiset only.
-/

namespace OpenClipboard

open Text

structure Digest where
  bytes : List UInt8
  length_eq : bytes.length = 32
  deriving DecidableEq, Repr

namespace Digest

/-- The bytes as numbers, compared lexicographically. -/
def key (digest : Digest) : List Nat :=
  digest.bytes.map UInt8.toNat

theorem key_injective : Function.Injective key := by
  intro left right sameKey
  have sameBytes : left.bytes = right.bytes :=
    List.map_injective_iff.mpr (fun _ _ => UInt8.toNat.inj) sameKey
  cases left
  cases right
  simp_all

instance : LinearOrder Digest :=
  LinearOrder.lift' key key_injective

end Digest

/-- The third-party hash function. -/
abbrev Blake3 := List UInt8 → Digest

theorem length_filled (bytes : List UInt8) :
    ((bytes ++ List.replicate 32 0).take 32).length = 32 := by
  rw [List.length_take, List.length_append, List.length_replicate]
  omega

/-- `sort_unstable` on digests; equal digests are indistinguishable. -/
def sortDigests (digests : List Digest) : List Digest :=
  digests.insertionSort (· ≤ ·)

theorem sortDigests_perm (digests : List Digest) :
    (sortDigests digests).Perm digests :=
  List.perm_insertionSort _ digests

theorem sortDigests_eq_iff {left right : List Digest} :
    sortDigests left = sortDigests right ↔ left.Perm right := by
  constructor
  · intro sameSorted
    exact (sortDigests_perm left).symm.trans
      (sameSorted ▸ sortDigests_perm right)
  · intro permutation
    exact List.Perm.eq_of_pairwise'
      (List.pairwise_insertionSort _ left) (List.pairwise_insertionSort _ right)
      ((sortDigests_perm left).trans
        (permutation.trans (sortDigests_perm right).symm))

namespace ContentHash

def fileContentPrefix : List UInt8 := asBytes "file-content|"
def fileSetMemberV1Prefix : List UInt8 := asBytes "file-set-member-v1|"
def fileSetV1Prefix : List UInt8 := asBytes "file-set-v1|"
def snapshotHashPrefix : List UInt8 := asBytes "snapshot-hash-v1|"

section Formulas

variable (blake3 : Blake3)

def contentHash (bytes : List UInt8) : Digest :=
  blake3 bytes

/-- Hash the sorted digests under a domain-separation prefix. -/
def aggregate (domain : List UInt8) (digests : List Digest) : Digest :=
  blake3 (domain ++ (sortDigests digests).flatMap Digest.bytes)

/-- What a file list contributes in place of its path text. -/
def fileContentWrapper (digests : List Digest) : Digest :=
  aggregate blake3 fileContentPrefix digests

def fileSetMemberV1
    (rootName relativePath kindTag : String) (fileDigest : Option Digest) :
    Digest :=
  blake3 <| fileSetMemberV1Prefix ++ asBytes rootName ++ [0] ++
    asBytes relativePath ++ [0] ++ asBytes kindTag ++ [0] ++
    (fileDigest.map Digest.bytes).getD []

def fileSetV1Wrapper (leaves : List Digest) : Digest :=
  aggregate blake3 fileSetV1Prefix leaves

/-- The cross-device identity of a list of representation hashes. -/
def snapshotHash (repHashes : List Digest) : Digest :=
  aggregate blake3 snapshotHashPrefix repHashes

theorem aggregate_perm
    {domain : List UInt8} {left right : List Digest}
    (permutation : left.Perm right) :
    aggregate blake3 domain left = aggregate blake3 domain right := by
  rw [aggregate, aggregate, sortDigests_eq_iff.mpr permutation]

/-- What `aggregate` hashes. -/
def aggregateInput (domain : List UInt8) (digests : List Digest) :
    List UInt8 :=
  domain ++ (sortDigests digests).flatMap Digest.bytes

theorem flatMap_bytes_injective :
    Function.Injective fun digests : List Digest =>
      digests.flatMap Digest.bytes := by
  intro left right same
  induction left generalizing right with
  | nil =>
      cases right with
      | nil => rfl
      | cons head tail =>
          have sameLength := congrArg List.length same
          simp only [List.flatMap_nil, List.flatMap_cons, List.length_nil,
            List.length_append, head.length_eq] at sameLength
          omega
  | cons head tail inductionHypothesis =>
      cases right with
      | nil =>
          have sameLength := congrArg List.length same
          simp only [List.flatMap_nil, List.flatMap_cons, List.length_nil,
            List.length_append, head.length_eq] at sameLength
          omega
      | cons other rest =>
          simp only [List.flatMap_cons] at same
          obtain ⟨sameHead, sameTail⟩ := List.append_inj same
            (head.length_eq.trans other.length_eq.symm)
          cases head
          cases other
          cases sameHead
          rw [inductionHypothesis sameTail]

/-- Without a collision between the two inputs, equal aggregates are of the
same digests. -/
theorem aggregate_eq_iff {domain : List UInt8} {left right : List Digest}
    (collisionFree : Set.InjOn blake3
      {aggregateInput domain left, aggregateInput domain right}) :
    aggregate blake3 domain left = aggregate blake3 domain right ↔
      left.Perm right := by
  constructor
  · intro same
    have sameInput : aggregateInput domain left =
        aggregateInput domain right :=
      collisionFree (Or.inl rfl) (Or.inr rfl) same
    have sameBytes := List.append_cancel_left sameInput
    exact sortDigests_eq_iff.mp (flatMap_bytes_injective sameBytes)
  · exact aggregate_perm blake3

end Formulas

def hexDigit (value : Nat) : Char :=
  if value < 10 then Char.ofNat (48 + value) else Char.ofNat (87 + value)

def hexEncode (bytes : List UInt8) : String :=
  String.ofList <| bytes.flatMap fun byte =>
    [hexDigit (byte.toNat / 16), hexDigit (byte.toNat % 16)]

/-- The value of a hexadecimal digit of either case. -/
def hexValue (c : Char) : Option Nat :=
  if '0'.toNat ≤ c.toNat ∧ c.toNat ≤ '9'.toNat then
    some (c.toNat - '0'.toNat)
  else if 'a'.toNat ≤ c.toNat ∧ c.toNat ≤ 'f'.toNat then
    some (c.toNat - 'a'.toNat + 10)
  else if 'A'.toNat ≤ c.toNat ∧ c.toNat ≤ 'F'.toNat then
    some (c.toNat - 'A'.toNat + 10)
  else
    none

def hexDecode : List Char → Option (List UInt8)
  | [] => some []
  | [_] => none
  | high :: low :: rest => do
      let highValue ← hexValue high
      let lowValue ← hexValue low
      let bytes ← hexDecode rest
      some (UInt8.ofNat (16 * highValue + lowValue) :: bytes)

/-- The wire form `blake3v1:<hex>` of a digest. -/
def formatBlake3v1 (digest : Digest) : String :=
  "blake3v1:" ++ hexEncode digest.bytes

theorem hexDigit_inj : ∀ left < 16, ∀ right < 16,
    hexDigit left = hexDigit right → left = right := by
  decide

theorem hexEncode_injective : Function.Injective hexEncode := by
  intro left right same
  have sameChars := String.ofList_injective same
  clear same
  induction left generalizing right with
  | nil =>
      cases right with
      | nil => rfl
      | cons head tail => cases sameChars
  | cons head tail inductionHypothesis =>
      cases right with
      | nil => cases sameChars
      | cons other rest =>
          simp only [List.flatMap_cons, List.cons_append, List.nil_append,
            List.cons.injEq] at sameChars
          obtain ⟨high, low, later⟩ := sameChars
          have sameHigh : head.toNat / 16 = other.toNat / 16 :=
            hexDigit_inj _ (by have := head.toNat_lt; omega) _
              (by have := other.toNat_lt; omega) high
          have sameLow : head.toNat % 16 = other.toNat % 16 :=
            hexDigit_inj _ (Nat.mod_lt _ (by decide)) _
              (Nat.mod_lt _ (by decide)) low
          have sameHead : head = other := UInt8.toNat.inj (by omega)
          rw [sameHead, inductionHypothesis later]

theorem formatBlake3v1_injective : Function.Injective formatBlake3v1 := by
  intro left right same
  unfold formatBlake3v1 at same
  have sameHex : hexEncode left.bytes = hexEncode right.bytes := by
    have sameList := congrArg String.toList same
    rw [String.toList_append, String.toList_append] at sameList
    exact String.toList_injective (List.append_cancel_left sameList)
  have sameBytes := hexEncode_injective sameHex
  cases left
  cases right
  cases sameBytes
  rfl

theorem hexValue_hexDigit : ∀ value < 16, hexValue (hexDigit value) = some value := by
  decide

theorem hexDecode_hexEncode (bytes : List UInt8) :
    hexDecode (hexEncode bytes).toList = some bytes := by
  unfold hexEncode
  rw [String.toList_ofList]
  induction bytes with
  | nil => rfl
  | cons head tail inductionHypothesis =>
      have small := head.toNat_lt
      rw [List.flatMap_cons]
      simp only [List.cons_append, List.nil_append, hexDecode]
      rw [hexValue_hexDigit (head.toNat / 16) (by omega),
        hexValue_hexDigit (head.toNat % 16) (by omega), inductionHypothesis]
      have whole : 16 * (head.toNat / 16) + head.toNat % 16 = head.toNat := by
        omega
      simp only [Option.bind_eq_bind, Option.bind_some, whole,
        UInt8.ofNat_toNat]

end ContentHash

namespace SnapshotHash

open ContentHash

/-- `SnapshotHash::parse`: only `blake3v1:` and the hexadecimal form of 32
bytes, in either case. -/
def parse (text : String) : Option Digest :=
  match text.toList.dropWhile (· ≠ ':') with
  | [] => none
  | _ :: hexPart =>
      if text.toList.takeWhile (· ≠ ':') = "blake3v1".toList then
        (hexDecode hexPart).bind fun bytes =>
          if length_eq : bytes.length = 32 then some ⟨bytes, length_eq⟩ else none
      else
        none

@[simp]
theorem parse_formatBlake3v1 (digest : Digest) :
    parse (formatBlake3v1 digest) = some digest := by
  have chars : (formatBlake3v1 digest).toList =
      "blake3v1".toList ++ ':' :: (hexEncode digest.bytes).toList := by
    unfold formatBlake3v1
    rw [String.toList_append]
    rfl
  have algorithm : ∀ c ∈ "blake3v1".toList, decide (c ≠ ':') = true := by
    simp
  unfold parse
  rw [chars, List.dropWhile_append_of_pos algorithm,
    List.takeWhile_append_of_pos algorithm]
  simp [hexDecode_hexEncode, digest.length_eq]

end SnapshotHash

end OpenClipboard
