/-!
# Timers

Two counters that go down by one with every tick and stop at zero.  The
machine sounds while the second one is running.
-/

namespace Chip8

/-- The delay timer and the sound timer. -/
structure Timers where
  delay : UInt8 := 0
  sound : UInt8 := 0
  deriving DecidableEq

namespace Timers

/-- One less, but never below zero. -/
def countDown (timer : UInt8) : UInt8 :=
  if timer = 0 then 0 else timer - 1

def tick (timers : Timers) : Timers where
  delay := countDown timers.delay
  sound := countDown timers.sound

def isSounding (timers : Timers) : Bool :=
  timers.sound ≠ 0

/-- The timers after a number of ticks.  Once both stand still, they stay so. -/
def tickTimes (timers : Timers) : Nat → Timers
  | 0 => timers
  | count + 1 => if timers = {} then timers else timers.tick.tickTimes count

theorem tickTimes_rest (count : Nat) : tickTimes {} count = {} := by
  cases count <;> rfl

@[simp] theorem tickTimes_succ (timers : Timers) (count : Nat) :
    timers.tickTimes (count + 1) = timers.tick.tickTimes count := by
  rw [tickTimes]
  split
  · next hrest =>
    subst hrest
    exact (tickTimes_rest count).symm
  · rfl

theorem toNat_countDown (timer : UInt8) : (countDown timer).toNat = timer.toNat - 1 := by
  unfold countDown
  split
  · next hzero => simp [hzero]
  · next hpositive =>
    have hle : 1 ≤ timer := by
      simp only [UInt8.le_iff_toNat_le, UInt8.toNat_one]
      have hne : timer.toNat ≠ 0 := fun h => hpositive (UInt8.toNat_inj.mp h)
      omega
    rw [UInt8.toNat_sub_of_le _ _ hle]
    rfl

end Timers

end Chip8
