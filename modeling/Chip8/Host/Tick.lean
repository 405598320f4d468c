import Chip8.Host

/-!
# One tick

A tick polls the keys, runs instructions, counts the timers down, turns the
tone on or off, shows the screen if it may have changed and saves the flags if
they were stored to.  The first stage that fails ends the tick.
-/

namespace Chip8.Host

variable {Input Display Sound Store : Type}

/-- Ask which keys are held, and tell the machine. -/
def pollKeys [InputDevice Input] (host : Host Input Display Sound Store) :
    Outcome Input Display Sound Store :=
  let host := host.note fun _ => InputDevice.pollRecords host.input
  match InputDevice.poll host.input with
  | (.error error, input) => { host with input := input }.failed (.io error)
  | (.ok mask, input) =>
      let host := host.note fun _ => host.machine.keyRecords mask
      { host with input := input, machine := host.machine.setKeys mask }.done

/-- Run up to `count` instructions, until the machine waits for a key or fails. -/
def runInstructions (host : Host Input Display Sound Store) :
    Nat → Outcome Input Display Sound Store
  | 0 => host.done
  | count + 1 =>
      if host.machine.isWaiting then
        host.done
      else
        let host := host.note fun _ => host.machine.stepRecords
        match host.machine.step with
        | .error fault =>
            host.failed (.engine fault host.machine.counter host.machine.word)
        | .ok machine => { host with machine := machine }.runInstructions count

/-- Count the timers down, and the tick itself. -/
def countTick (host : Host Input Display Sound Store) : Outcome Input Display Sound Store :=
  { host with machine := host.machine.tick, ticks := host.ticks + 1 }.done

/-- Turn the tone on or off.  If the device fails, the host goes on to believe
that nothing has changed. -/
def setTone [SoundDevice Sound] (host : Host Input Display Sound Store) (on : Bool) :
    Outcome Input Display Sound Store :=
  match if on then SoundDevice.start host.sound else SoundDevice.stop host.sound with
  | (.error reason, sound) => { host with sound := sound }.failed (.sound reason)
  | (.ok (), sound) => { host with sound := sound, sounding := on }.done

/-- Make the tone follow the sound timer. -/
def adjustTone [SoundDevice Sound] (host : Host Input Display Sound Store) :
    Outcome Input Display Sound Store :=
  if host.machine.isSounding = host.sounding then host.done
  else host.setTone host.machine.isSounding

/-- Show the screen if it may have changed. -/
def showScreen [DisplayDevice Display] (host : Host Input Display Sound Store) :
    Outcome Input Display Sound Store :=
  if host.machine.screen.dirty then
    match DisplayDevice.draw host.display host.machine.screen.bytes with
    | (.error error, display) => { host with display := display }.failed (.io error)
    | (.ok (), display) =>
        { host with display := display, machine := host.machine.acknowledgeScreen }.done
  else
    host.done

/-- Save the flags if they were stored to and there is a place for them. -/
def keepFlags [FileStore Store] (host : Host Input Display Sound Store) :
    Outcome Input Display Sound Store :=
  if host.machine.flags.dirty then
    match host.config.flagsPath with
    | none => { host with machine := host.machine.acknowledgeFlags }.done
    | some path =>
        match FlagFile.save host.files path host.machine.flags.packed with
        | (.error error, files) => { host with files := files }.failed error
        | (.ok (), files) =>
            let host := host.note fun _ => [⟨.info, "saved flags to " ++ path⟩]
            { host with files := files, machine := host.machine.acknowledgeFlags }.done
  else
    host.done

/-- The work of one tick. -/
def runTick [InputDevice Input] [DisplayDevice Display] [SoundDevice Sound] [FileStore Store]
    (host : Host Input Display Sound Store) : Outcome Input Display Sound Store :=
  host.pollKeys
    |>.andThen (fun host => host.runInstructions host.config.instructionsPerTick)
    |>.andThen countTick
    |>.andThen adjustTone
    |>.andThen showScreen
    |>.andThen keepFlags

end Chip8.Host
