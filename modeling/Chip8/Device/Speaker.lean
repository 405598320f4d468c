import Chip8.Device

/-!
# Sound

A speaker plays the frequency it was last given, or nothing if that was zero.
A beeper turns it on and off, and does not bother it with what it is doing
already.
-/

namespace Chip8

/-- The speaker.  It counts how often it was contacted, which decides whether
it fails, and remembers the frequencies it accepted. -/
structure Speaker where
  fails : Nat → Bool
  contacts : Nat := 0
  tones : List Nat := []

namespace Speaker

/-- Why a contact fails. -/
def failure : String := "no speaker"

def play (speaker : Speaker) (frequency : Nat) : Except String Unit × Speaker :=
  if speaker.fails speaker.contacts then
    (.error failure, { speaker with contacts := speaker.contacts + 1 })
  else
    (.ok (), { speaker with
      contacts := speaker.contacts + 1
      tones := speaker.tones ++ [frequency] })

end Speaker

/-- A speaker, and whether it was last told to sound. -/
structure Beeper where
  speaker : Speaker
  isBeeping : Bool := false

namespace Beeper

def pitch : Nat := 2093

/-- Tell the speaker to sound, unless it does. -/
def start (beeper : Beeper) : Except String Unit × Beeper :=
  if beeper.isBeeping then
    (.ok (), beeper)
  else
    match beeper.speaker.play pitch with
    | (.error reason, speaker) => (.error reason, { beeper with speaker := speaker })
    | (.ok (), speaker) => (.ok (), ⟨speaker, true⟩)

/-- Tell the speaker to be silent, unless it is. -/
def stop (beeper : Beeper) : Except String Unit × Beeper :=
  if beeper.isBeeping then
    match beeper.speaker.play 0 with
    | (.error reason, speaker) => (.error reason, { beeper with speaker := speaker })
    | (.ok (), speaker) => (.ok (), ⟨speaker, false⟩)
  else
    (.ok (), beeper)

instance : SoundDevice Beeper where
  start := start
  stop := stop

end Beeper

/-- No sound at all; what was asked for is counted. -/
structure Mute where
  starts : Nat := 0
  stops : Nat := 0
  deriving DecidableEq

instance : SoundDevice Mute where
  start mute := (.ok (), { mute with starts := mute.starts + 1 })
  stop mute := (.ok (), { mute with stops := mute.stops + 1 })

end Chip8
