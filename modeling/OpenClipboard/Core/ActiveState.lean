import Mathlib.Data.Prod.Lex
import Mathlib.Data.String.Basic
import OpenClipboard.Library.LastWriter

/-!
# The active-clipboard register value

Which content is the active clipboard, as a last-writer-wins value ordered by
`(activated_at_ms, activated_by)`.  The entry id is a per-device handle and is
part of neither the order nor the cross-device identity.
-/

namespace OpenClipboard

def deviceIdMaxBytes : Nat := 64

/-- A device id never exceeds 64 bytes. -/
structure DeviceId where
  asStr : String
  bounded : asStr.utf8ByteSize ≤ deviceIdMaxBytes := by decide
  deriving DecidableEq, Repr

theorem DeviceId.asStr_injective : Function.Injective DeviceId.asStr := by
  intro left right sameText
  cases left
  cases right
  simp_all

structure EntryId where
  asStr : String
  deriving DecidableEq, Repr

structure ActiveClipboardState where
  snapshotHash : String
  entryId : EntryId
  activatedAtMs : Int
  activatedBy : DeviceId
  deriving DecidableEq, Repr

/-- The content reference a limited consumer can read. -/
structure MobileConsumableRef where
  snapshotHash : String
  entryId : EntryId
  deriving DecidableEq, Repr

/-- An activation event as every device sees it, without the local handle. -/
structure Activation where
  snapshotHash : String
  activatedAtMs : Int
  activatedBy : DeviceId
  deriving DecidableEq, Repr

namespace Activation

def key (activation : Activation) : Int ×ₗ String :=
  toLex (activation.activatedAtMs, activation.activatedBy.asStr)

theorem key_eq_iff {left right : Activation} :
    left.key = right.key ↔
      left.activatedAtMs = right.activatedAtMs ∧
        left.activatedBy = right.activatedBy := by
  rw [key, key, toLex_inj, Prod.mk.injEq, DeviceId.asStr_injective.eq_iff]

end Activation

namespace ActiveClipboardState

/-- Forget the local entry handle. -/
def activation (state : ActiveClipboardState) : Activation where
  snapshotHash := state.snapshotHash
  activatedAtMs := state.activatedAtMs
  activatedBy := state.activatedBy

def key (state : ActiveClipboardState) : Int ×ₗ String :=
  state.activation.key

/-- Whether `self` wins over `current`. -/
def supersedes (self current : ActiveClipboardState) : Bool :=
  match compare self.activatedAtMs current.activatedAtMs with
  | .gt => true
  | .lt => false
  | .eq => decide (current.activatedBy.asStr < self.activatedBy.asStr)

def isSameActivation (self other : ActiveClipboardState) : Bool :=
  self.snapshotHash == other.snapshotHash &&
    self.activatedAtMs == other.activatedAtMs &&
    self.activatedBy == other.activatedBy

theorem supersedes_iff (self current : ActiveClipboardState) :
    self.supersedes current = true ↔ current.key < self.key := by
  unfold supersedes key Activation.key activation
  rw [Prod.Lex.toLex_lt_toLex]
  rcases lt_trichotomy self.activatedAtMs current.activatedAtMs with
    earlier | same | later
  · rw [compare_lt_iff_lt.mpr earlier]
    simp [earlier.not_gt, earlier.ne']
  · rw [compare_eq_iff_eq.mpr same]
    simp [same]
  · rw [compare_gt_iff_gt.mpr later]
    simp [later]

theorem isSameActivation_iff (self other : ActiveClipboardState) :
    self.isSameActivation other = true ↔
      self.activation = other.activation := by
  simp [isSameActivation, activation, and_assoc]

end ActiveClipboardState

end OpenClipboard
