import OpenClipboard.Library.Sealing
import Mathlib.Data.List.Basic

/-!
# An ideal AEAD after some encryptions

Against an adversary who chooses the ciphertexts an ideal AEAD opens what it
has encrypted so far, under the key, the nonce and the associated data it was
encrypted with, and nothing else.  What has been encrypted is a list of issues.
-/

namespace OpenClipboard

universe u v

/-- One call of `encrypt`. -/
structure Issue (Key : Type u) (Nonce : Type v) where
  key : Key
  nonce : Nonce
  aad : List UInt8
  plaintext : List UInt8
  deriving DecidableEq

structure IdealAead (Key : Type u) (Nonce : Type v) where
  encrypt : Key → Nonce → List UInt8 → List UInt8 → List UInt8
  decrypt : Key → Nonce → List UInt8 → List UInt8 → Option (List UInt8)
  issued : List (Issue Key Nonce)
  opens : ∀ issue ∈ issued,
    decrypt issue.key issue.nonce
        (encrypt issue.key issue.nonce issue.plaintext issue.aad) issue.aad =
      some issue.plaintext
  authentic : ∀ key nonce ciphertext aad plaintext,
    decrypt key nonce ciphertext aad = some plaintext →
      ⟨key, nonce, aad, plaintext⟩ ∈ issued ∧
        ciphertext = encrypt key nonce plaintext aad

namespace IdealAead

variable {Key : Type u} {Nonce : Type v} [DecidableEq Key] [DecidableEq Nonce]

/-- The ideal AEAD over an encryption: it looks ciphertexts up among those it
has issued. -/
def ofIssued
    (encrypt : Key → Nonce → List UInt8 → List UInt8 → List UInt8)
    (injective : ∀ key nonce aad plaintext other,
      encrypt key nonce plaintext aad = encrypt key nonce other aad →
        plaintext = other)
    (issued : List (Issue Key Nonce)) : IdealAead Key Nonce where
  encrypt := encrypt
  decrypt key nonce ciphertext aad :=
    (issued.find? fun issue =>
      decide (issue.key = key ∧ issue.nonce = nonce ∧ issue.aad = aad ∧
        encrypt key nonce issue.plaintext aad = ciphertext)).map
          Issue.plaintext
  issued := issued
  opens issue member := by
    have found : (issued.find? fun other =>
        decide (other.key = issue.key ∧ other.nonce = issue.nonce ∧
          other.aad = issue.aad ∧
          encrypt issue.key issue.nonce other.plaintext issue.aad =
            encrypt issue.key issue.nonce issue.plaintext
              issue.aad)).isSome := by
      rw [List.find?_isSome]
      exact ⟨issue, member, by simp⟩
    obtain ⟨other, isOther⟩ := Option.isSome_iff_exists.mp found
    have matching := List.find?_some isOther
    simp only [decide_eq_true_eq] at matching
    rw [isOther, Option.map_some, injective _ _ _ _ _ matching.2.2.2]
  authentic key nonce ciphertext aad plaintext opened := by
    obtain ⟨issue, found, isPlaintext⟩ := Option.map_eq_some_iff.mp opened
    have matching := List.find?_some found
    simp only [decide_eq_true_eq] at matching
    obtain ⟨sameKey, sameNonce, sameAad, sameCiphertext⟩ := matching
    subst sameKey sameNonce sameAad isPlaintext
    exact ⟨List.mem_of_find?_eq_some found, sameCiphertext.symm⟩

end IdealAead

end OpenClipboard
