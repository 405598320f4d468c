import Chip8.HostError
import Chip8.KeyLatch
import Chip8.Log

/-!
# Devices

What the host asks of the outside world.  A device is any type with the
operations of one of these classes; an operation may fail, and also a failing
one may change the device.
-/

namespace Chip8

/-- Where the host learns which keys are held. -/
class InputDevice (Input : Type) where
  /-- The keys held now. -/
  poll : Input → Except IoError KeyMask × Input
  /-- Whether the user has asked to stop. -/
  quitRequested : Input → Bool
  /-- What the next poll reports to the log. -/
  pollRecords : Input → List Record := fun _ => []

/-- Where the host shows the screen, in its packed form. -/
class DisplayDevice (Display : Type) where
  draw : Display → List UInt8 → Except IoError Unit × Display

/-- Where the host makes the tone heard. -/
class SoundDevice (Sound : Type) where
  start : Sound → Except String Unit × Sound
  stop : Sound → Except String Unit × Sound

/-! ## Choosing between devices

One of two devices is a device.  This lets the kind of a device be chosen when
the program runs. -/

section Choice

variable {Left Right : Type}

/-- Carry out an operation on whichever device is there. -/
def onEither {Result : Type} (onLeft : Left → Result × Left) (onRight : Right → Result × Right) :
    Left ⊕ Right → Result × (Left ⊕ Right)
  | .inl device =>
      let (result, device) := onLeft device
      (result, .inl device)
  | .inr device =>
      let (result, device) := onRight device
      (result, .inr device)

instance [InputDevice Left] [InputDevice Right] : InputDevice (Left ⊕ Right) where
  poll := onEither InputDevice.poll InputDevice.poll
  quitRequested := Sum.elim InputDevice.quitRequested InputDevice.quitRequested
  pollRecords := Sum.elim InputDevice.pollRecords InputDevice.pollRecords

instance [DisplayDevice Left] [DisplayDevice Right] : DisplayDevice (Left ⊕ Right) where
  draw device frame :=
    onEither (DisplayDevice.draw · frame) (DisplayDevice.draw · frame) device

instance [SoundDevice Left] [SoundDevice Right] : SoundDevice (Left ⊕ Right) where
  start := onEither SoundDevice.start SoundDevice.start
  stop := onEither SoundDevice.stop SoundDevice.stop

end Choice

end Chip8
