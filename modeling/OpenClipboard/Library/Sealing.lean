import Mathlib.Logic.Basic

/-!
# Authenticated encryption with associated data

A sealing turns a plaintext into bytes that open under the same key and the
same associated data, and under no other.  It is obtained from an AEAD, which
keeps its nonce apart, and an envelope that frames nonce and ciphertext.
-/

namespace OpenClipboard

universe u v

/-- An AEAD: what it encrypts opens, and only under what it was made with. -/
structure Aead (Key : Type u) (Nonce : Type v) where
  encrypt : Key → Nonce → List UInt8 → List UInt8 → List UInt8
  decrypt : Key → Nonce → List UInt8 → List UInt8 → Option (List UInt8)
  decrypt_encrypt : ∀ key nonce plaintext aad,
    decrypt key nonce (encrypt key nonce plaintext aad) aad = some plaintext
  authentic : ∀ key nonce plaintext aad key' nonce' aad' other,
    decrypt key' nonce' (encrypt key nonce plaintext aad) aad' = some other →
      key' = key ∧ aad' = aad

/-- A frame for nonce and ciphertext, which may also show the associated
data. -/
structure Envelope (Nonce : Type v) where
  wrap : Nonce → List UInt8 → List UInt8 → List UInt8
  unwrap : List UInt8 → Option (Nonce × List UInt8)
  unwrap_wrap : ∀ nonce aad ciphertext,
    unwrap (wrap nonce aad ciphertext) = some (nonce, ciphertext)

/-- Authenticated encryption to a single byte string. -/
structure Sealing (Key : Type u) (Nonce : Type v) where
  encrypt : Key → Nonce → List UInt8 → List UInt8 → List UInt8
  decrypt : Key → List UInt8 → List UInt8 → Option (List UInt8)
  decrypt_encrypt : ∀ key nonce plaintext aad,
    decrypt key (encrypt key nonce plaintext aad) aad = some plaintext
  authentic : ∀ key nonce plaintext aad key' aad' other,
    decrypt key' (encrypt key nonce plaintext aad) aad' = some other →
      key' = key ∧ aad' = aad

/-- Frame what an AEAD encrypts. -/
def Aead.sealing {Key : Type u} {Nonce : Type v} (aead : Aead Key Nonce)
    (envelope : Envelope Nonce) : Sealing Key Nonce where
  encrypt key nonce plaintext aad :=
    envelope.wrap nonce aad (aead.encrypt key nonce plaintext aad)
  decrypt key bytes aad :=
    (envelope.unwrap bytes).bind fun opened =>
      aead.decrypt key opened.1 opened.2 aad
  decrypt_encrypt key nonce plaintext aad := by
    rw [envelope.unwrap_wrap, Option.bind_some]
    exact aead.decrypt_encrypt key nonce plaintext aad
  authentic key nonce plaintext aad key' aad' other opened := by
    rw [envelope.unwrap_wrap, Option.bind_some] at opened
    exact aead.authentic key nonce plaintext aad key' nonce aad' other opened

/-! ## A transparent AEAD -/

namespace Framing

/-- Bytes with a mark before each and after the last. -/
def frame : List UInt8 → List UInt8
  | [] => [0]
  | byte :: rest => 1 :: byte :: frame rest

/-- The first frame and what follows it. -/
def unframe : List UInt8 → Option (List UInt8 × List UInt8)
  | 0 :: rest => some ([], rest)
  | 1 :: byte :: rest =>
      (unframe rest).map fun opened => (byte :: opened.1, opened.2)
  | _ => none

@[simp]
theorem unframe_frame_append (bytes rest : List UInt8) :
    unframe (frame bytes ++ rest) = some (bytes, rest) := by
  induction bytes with
  | nil => rfl
  | cons byte bytes inductionHypothesis =>
      show (unframe (frame bytes ++ rest)).map _ = _
      rw [inductionHypothesis]
      rfl

end Framing

open Framing in
/-- The AEAD that hides nothing: it writes the key and the associated data
before the plaintext and looks for them again.  Sample runs are evaluated
with it. -/
def Aead.transparent {Key : Type u} {Nonce : Type v}
    (keyBytes : Key → List UInt8) (injective : Function.Injective keyBytes) :
    Aead Key Nonce where
  encrypt key _ plaintext aad :=
    frame (keyBytes key) ++ (frame aad ++ plaintext)
  decrypt key _ ciphertext aad :=
    (unframe ciphertext).bind fun outer =>
      (unframe outer.2).bind fun inner =>
        if outer.1 = keyBytes key ∧ inner.1 = aad then some inner.2 else none
  decrypt_encrypt key nonce plaintext aad := by
    simp
  authentic key nonce plaintext aad key' nonce' aad' other opened := by
    simp only [unframe_frame_append, Option.bind_some,
      Option.ite_none_right_eq_some] at opened
    exact ⟨injective opened.1.1.symm, opened.1.2.symm⟩

namespace Sealing

variable {Key : Type u} {Nonce : Type v} {cipher : Sealing Key Nonce}
variable {key key' : Key} {nonce : Nonce}
variable {plaintext other aad aad' : List UInt8}

/-- Sealed bytes open to their plaintext under their key, and to nothing under
another one. -/
theorem decrypt_encrypt_eq_some_iff :
    cipher.decrypt key' (cipher.encrypt key nonce plaintext aad) aad' =
        some other ↔
      key' = key ∧ aad' = aad ∧ plaintext = other := by
  constructor
  · intro opened
    obtain ⟨sameKey, sameAad⟩ :=
      cipher.authentic key nonce plaintext aad key' aad' other opened
    subst sameKey sameAad
    rw [cipher.decrypt_encrypt, Option.some.injEq] at opened
    exact ⟨rfl, rfl, opened⟩
  · intro same
    obtain ⟨rfl, rfl, rfl⟩ := same
    exact cipher.decrypt_encrypt _ _ _ _

end Sealing

end OpenClipboard
