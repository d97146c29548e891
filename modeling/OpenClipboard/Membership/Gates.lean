import OpenClipboard.Core.ActiveState
import OpenClipboard.Core.Category

/-!
# Per-device sync preferences

The send gate and the receive gate read one member record.  Both have a
device-level switch and a content-type filter, and both let traffic pass when
the record is missing or cannot be read.
-/

namespace OpenClipboard

structure MemberSyncPreferences where
  sendEnabled : Bool
  receiveEnabled : Bool
  sendContentTypes : ContentTypes
  receiveContentTypes : ContentTypes
  deriving DecidableEq, Repr

def ContentTypes.default : ContentTypes := ⟨true, true, true, true, true, true⟩

def MemberSyncPreferences.default : MemberSyncPreferences :=
  ⟨true, true, .default, .default⟩

structure SpaceMember where
  deviceId : DeviceId
  syncPreferences : MemberSyncPreferences
  deriving DecidableEq, Repr

/-- `MemberRepositoryPort::get`. -/
abbrev MemberRepository := DeviceId → Except String (Option SpaceMember)

namespace MemberSendGate

/-- `send_enabled` and then `send_content_types`. -/
def isSendAllowed (memberRepo : MemberRepository) (peer : DeviceId)
    (categories : ClipboardContentCategorySet) : Bool :=
  match memberRepo peer with
  | .ok (some member) =>
      if !member.syncPreferences.sendEnabled then
        false
      else
        categories.allowedBy member.syncPreferences.sendContentTypes
  | .ok none => true
  | .error _ => true

end MemberSendGate

namespace MemberReceiveGate

/-- Stage 1: the device-level switch. -/
def isReceiveAllowed (memberRepo : MemberRepository) (peer : DeviceId) :
    Bool :=
  match memberRepo peer with
  | .ok (some member) => member.syncPreferences.receiveEnabled
  | .ok none => true
  | .error _ => true

/-- Stage 2: the content-type filter. -/
def isReceiveCategoryAllowed (memberRepo : MemberRepository) (peer : DeviceId)
    (categories : ClipboardContentCategorySet) : Bool :=
  match memberRepo peer with
  | .ok (some member) =>
      categories.allowedBy member.syncPreferences.receiveContentTypes
  | .ok none => true
  | .error _ => true

end MemberReceiveGate

end OpenClipboard
