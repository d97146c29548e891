import Mathlib.Logic.Encodable.Basic
import Mathlib.Logic.Equiv.List

/-!
# Texts as numbers

Bytes, characters and texts are countable, so that a format can be given by
the text of one value and stay injective on the others.
-/

namespace OpenClipboard

instance encodableByte : Encodable UInt8 :=
  Encodable.ofLeftInverse UInt8.toNat UInt8.ofNat fun _ => UInt8.ofNat_toNat

instance encodableChar : Encodable Char :=
  Encodable.ofLeftInverse Char.toNat Char.ofNat Char.ofNat_toNat

instance encodableText : Encodable String :=
  Encodable.ofLeftInverse String.toList String.ofList fun _ =>
    String.ofList_toList

end OpenClipboard
