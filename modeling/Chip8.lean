import Chip8.Device.Script
import Chip8.Main
import Chip8.Raw.Checked
import Chip8.Raw.FrameBuffer
import Chip8.Raw.Memory
import Chip8.Raw.Parts
import Chip8.Raw.Instruction
import Chip8.Raw.Machine
import Chip8.Raw.View
import Chip8.Proofs.Instruction.Patterns
import Chip8.Proofs.Raw.Words
import Chip8.Proofs.Memory.Blocks
import Chip8.Proofs.Raw.Checked
import Chip8.Proofs.Raw.Memory
import Chip8.Proofs.Raw.Parts
import Chip8.Proofs.Raw.FrameBuffer
import Chip8.Proofs.Raw.Simulation
import Chip8.Proofs.Raw.Failure
import Chip8.Proofs.Abstract.Machine
import Chip8.Proofs.Abstract.Abstraction
import Chip8.Proofs.Abstract.Refinement
import Chip8.Proofs.Host.Driving
import Chip8.Proofs.Machine.Marking
import Chip8.Proofs.FileStore.Lawful
import Chip8.Proofs.Host.Calls
import Chip8.Proofs.Host.TickLimit
import Chip8.Proofs.Host.Observed
import Chip8.Proofs.Host.Pending
import Chip8.Proofs.Host.Frames
import Chip8.Proofs.Host.SavedFlags
import Chip8.Proofs.Host.Refusals
import Chip8.Proofs.Host.LastFlags
import Chip8.Proofs.Host.EngineErrors
import Chip8.Proofs.Host.Tone
import Chip8.Proofs.Machine.Stacking
import Chip8.Proofs.Raw.Drawings
import Chip8.Proofs.Raw.Returns
import Chip8.Proofs.Raw.KeyWait
import Chip8.Proofs.Raw.Events
import Chip8.Proofs.Raw.Marks
import Chip8.Proofs.Raw.SideBySide
import Chip8.Proofs.Raw.Adjustments
import Chip8.Proofs.Raw.Exchanges
import Chip8.Proofs.Raw.RandomBytes
import Chip8.Proofs.Raw.Bookkeeping
import Chip8.Proofs.Raw.Locality
import Chip8.Proofs.Machine.FlagTrace
import Chip8.Proofs.Raw.FlagStores
import Chip8.Proofs.Session.Persistence
import Chip8.Proofs.Machine.Moving
import Chip8.Proofs.Raw.Alignment
import Chip8.Proofs.Raw.Redraws
import Chip8.Proofs.Raw.SpriteHits
import Chip8.Proofs.Device.KeyWindow
import Chip8.Proofs.Raw.Encoding
import Chip8.Proofs.FlagFile.Saving
import Chip8.Proofs.Raw.MemoryStores
import Chip8.Proofs.Device.Pictures
import Chip8.Proofs.Raw.Reloading
import Chip8.Proofs.Raw.Countdown
import Chip8.Proofs.Instruction.Disassembly
import Chip8.Proofs.Device.SpeakerTurns
import Chip8.Proofs.Raw.DrawnBytes
import Chip8.Proofs.Raw.BoundedStack
