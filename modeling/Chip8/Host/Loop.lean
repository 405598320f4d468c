import Chip8.Host.Tick

/-!
# The main loop

Ticks follow each other until the user asks to stop, the limit is reached or a
tick fails.  Whatever the reason, the tone is then turned off.
-/

namespace Chip8.Host

variable {Input Display Sound Store : Type}
variable [InputDevice Input] [DisplayDevice Display] [SoundDevice Sound] [FileStore Store]

/-- How many ticks are left before the loop has to stop.  Without a limit it
stops once there are `2 ^ 64` ticks, the first count that no word of 64 bits
holds, so that every run of the loop comes to an end. -/
def ticksLeft (host : Host Input Display Sound Store) : Nat :=
  match host.config.maxTicks with
  | some limit => limit - host.ticks
  | none => UInt64.size - host.ticks

/-- Run ticks, at most `count` of them.  The wish to stop is looked at before
the limit is. -/
def runTicks (host : Host Input Display Sound Store) : Nat → Outcome Input Display Sound Store
  | 0 =>
      if InputDevice.quitRequested host.input then host.done
      else (host.note fun _ => [⟨.debug, "tick limit reached"⟩]).done
  | count + 1 =>
      if InputDevice.quitRequested host.input then
        host.done
      else
        match host.runTick with
        | ⟨.ok (), host⟩ => host.runTicks count
        | ⟨.error error, host⟩ => host.failed error

/-- Turn the tone off if it is on. -/
def silence (host : Host Input Display Sound Store) : Outcome Input Display Sound Store :=
  if host.sounding then host.setTone false else host.done

/-- Tell the log how fast the host is going to run. -/
def announce (host : Host Input Display Sound Store) : Host Input Display Sound Store :=
  host.note fun _ => [⟨.info,
    "running at " ++ Nat.repr host.config.instructionsPerTick ++ " instructions per tick, "
      ++ Nat.repr host.config.tickRate ++ " ticks/s"⟩]

/-- Run until something ends the run, and return the number of ticks counted so
far.  If the tone cannot be turned off, that is the error of the run. -/
def mainLoop (host : Host Input Display Sound Store) :
    Except HostError Nat × Host Input Display Sound Store :=
  let run := host.announce.runTicks host.ticksLeft
  let silenced := run.host.silence
  match silenced.result with
  | .error error => (.error error, silenced.host)
  | .ok () =>
      let host := silenced.host.note fun _ =>
        [⟨.info, "stopped after " ++ Nat.repr silenced.host.ticks ++ " ticks"⟩]
      (run.result.map fun _ => host.ticks, host)

end Chip8.Host
