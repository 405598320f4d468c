import Chip8.Device

/-!
# Scripted devices

Devices without a world behind them: input that is laid down in advance, and
displays that only remember what they were asked to draw.
-/

namespace Chip8

/-- Plays back key masks, one for each poll, and then holds no key.  It never
asks to stop. -/
structure MaskPlayback where
  masks : List KeyMask
  deriving DecidableEq

instance : InputDevice MaskPlayback where
  poll playback := (.ok (playback.masks.headD 0), ⟨playback.masks.tail⟩)
  quitRequested _ := false

/-- Plays back the outcomes of polls, then holds no key, and asks to stop once
no outcome is left. -/
structure InputScript where
  outcomes : List (Except IoError KeyMask)

instance : InputDevice InputScript where
  poll script := (script.outcomes.headD (.ok 0), ⟨script.outcomes.tail⟩)
  quitRequested script := script.outcomes.isEmpty

/-- Remembers the frames drawn, in order. -/
structure FrameRecorder where
  frames : List (List UInt8) := []
  deriving DecidableEq

def FrameRecorder.frameBytes : Nat := 256

instance : DisplayDevice FrameRecorder where
  draw recorder frame := (.ok (), ⟨recorder.frames ++ [frame]⟩)

/-- Draws a number of frames and then breaks for good. -/
structure BreakingDisplay where
  framesLeft : Nat
  deriving DecidableEq

instance : DisplayDevice BreakingDisplay where
  draw display _ :=
    match display.framesLeft with
    | 0 => (.error (.device "display broke"), display)
    | left + 1 => (.ok (), ⟨left⟩)

end Chip8
