import Mathlib.Data.Set.Basic
import Chip8.Proofs.Raw.Drawings
import Chip8.Proofs.Raw.Events
import Chip8.Proofs.Raw.KeyWait
import Chip8.Proofs.Raw.SideBySide

/-!
# Cells that are never read

Two machines that differ in some cells of memory do the same until one of these cells is
read: the two at the counter, those of a sprite, or those that registers are loaded from.
Cells that are overwritten in the meantime hold the same on both machines from then on, so
the cells to look out for become fewer.  Bytes of a program that are neither carried out
nor read as data therefore never show.
-/

namespace Chip8.Raw

/-! ## What is read and what is overwritten -/

/-- How many cells from the index on the instruction at a word reads: `DXYN` reads N and
`FX65` reads X + 1. -/
def cellsRead (word : UInt16) : Nat :=
  if word.toNat / 0x1000 = 0xD then word.toNat % 0x10
  else if word.toNat / 0x1000 = 0xF ∧ word.toNat % 0x100 = 0x65 then
    word.toNat / 0x100 % 0x10 + 1
  else 0

/-- How many cells from the index on the instruction at a word overwrites: `FX33` does so
to three and `FX55` to X + 1. -/
def cellsWritten (word : UInt16) : Nat :=
  if word.toNat / 0x1000 = 0xF ∧ word.toNat % 0x100 = 0x33 then 3
  else if word.toNat / 0x1000 = 0xF ∧ word.toNat % 0x100 = 0x55 then
    word.toNat / 0x100 % 0x10 + 1
  else 0

/-- The next step reads a cell: the machine does not wait for a key, and the cell is one
of the two at the counter or one that the instruction there reads. -/
def Machine.Reads (machine : Machine) (address : Address) : Prop :=
  machine.keys.isWaiting = false ∧
    ((addressOf machine.counter).InBlock 2 address ∨ ∃ word, machine.word = .ok word ∧
      (addressOf machine.index).InBlock (cellsRead word) address)

/-- The next step overwrites a cell. -/
def Machine.Overwrites (machine : Machine) (address : Address) : Prop :=
  machine.keys.isWaiting = false ∧ ∃ word, machine.word = .ok word ∧
    (addressOf machine.index).InBlock (cellsWritten word) address

/-- Those of some cells that none of the steps has overwritten. -/
def spared (cells : Set Address) (events : List Event) : Set Address :=
  { address | address ∈ cells ∧
    ∀ event ∈ events, event.call = .step → ¬ event.before.Overwrites address }

/-- The machines are the same apart from some cells of memory. -/
structure Machine.SameOutside (cells : Set Address) (first second : Machine) : Prop where
  rest : second = { first with memory := second.memory }
  memory : ∀ address, address ∉ cells → second.memory.read address = first.memory.read address

namespace Machine

variable {first second : Machine} {cells : Set Address} {call : Machine.Call}
  {calls : List Machine.Call}

/-! ## Words and instructions -/

/-- The bytes that an instruction stores at the index. -/
def written (machine : Chip8.Machine) : Chip8.Instruction → List UInt8
  | .storeDigits x => Chip8.Machine.decimalDigits (machine.register x)
  | .storeRegisters x => machine.registersUpTo x
  | _ => []

/-- The words that overwrite cells are those of the instructions that store. -/
theorem cellsWritten_eq (machine : Chip8.Machine) (word : UInt16) :
    cellsWritten word = (Instruction.decode? word).elim 0 fun instruction =>
      (written machine instruction).length := by
  unfold cellsWritten
  split
  case isTrue hdigits =>
    rw [Instruction.decode?_transfer hdigits.1, hdigits.2]
    rfl
  case isFalse hdigits =>
    split
    case isTrue hstores =>
      rw [Instruction.decode?_transfer hstores.1, hstores.2]
      exact (machine.length_registersUpTo (lastDigit (word.toNat / 0x100))).symm
    case isFalse hstores =>
      cases hdecode : Instruction.decode? word with
      | none => rfl
      | some instruction =>
          have hword := Instruction.encodeNat_of_decode? hdecode
          cases instruction
          case storeDigits x =>
            rw [← hword] at hdigits
            exact absurd ⟨Instruction.byteWord_lead 0xF x (by decide),
              Instruction.byteWord_low 0xF x (by decide)⟩ hdigits
          case storeRegisters x =>
            rw [← hword] at hstores
            exact absurd ⟨Instruction.byteWord_lead 0xF x (by decide),
              Instruction.byteWord_low 0xF x (by decide)⟩ hstores
          all_goals rfl

theorem cellsRead_draw {word : UInt16} {x y : Register} {height : Fin 16}
    (hdecode : Instruction.decode? word = some (.draw x y height)) :
    cellsRead word = height.val := by
  have hword := Instruction.encodeNat_of_decode? hdecode
  have hlead : word.toNat / 0x1000 = 0xD := by
    rw [← hword]
    exact Instruction.registerWord_lead 0xD x y height.isLt
  unfold cellsRead
  rw [if_pos hlead, ← hword]
  exact Instruction.registerWord_last 0xD x y height.isLt

theorem cellsRead_loadRegisters {word : UInt16} {x : Register}
    (hdecode : Instruction.decode? word = some (.loadRegisters x)) :
    cellsRead word = x.val + 1 := by
  have hword := Instruction.encodeNat_of_decode? hdecode
  have hlead : word.toNat / 0x1000 = 0xF := by
    rw [← hword]
    exact Instruction.byteWord_lead 0xF x (by decide)
  have hlow : word.toNat % 0x100 = 0x65 := by
    rw [← hword]
    exact Instruction.byteWord_low 0xF x (by decide)
  unfold cellsRead
  rw [if_neg (by omega), if_pos ⟨hlead, hlow⟩, ← hword]
  exact congrArg (· + 1) (Instruction.byteWord_x 0xF x (by decide))

/-! ## Machines that differ in some cells -/

namespace SameOutside

/-- Whatever is not read from memory is the same. -/
theorem same {Part : Type} (hsame : SameOutside cells first second) (part : Machine → Part)
    (hpart : ∀ machine memory, part { machine with memory := memory } = part machine) :
    part second = part first := by
  rw [hsame.rest, hpart]

/-- A change that leaves memory alone and does not look at it. -/
theorem map (hsame : SameOutside cells first second) (change : Machine → Machine)
    (hchange : ∀ machine memory,
      change { machine with memory := memory } = { change machine with memory := memory })
    (hmemory : ∀ machine, (change machine).memory = machine.memory) :
    SameOutside cells (change first) (change second) := by
  refine ⟨?_, ?_⟩
  · rw [hmemory second, ← hchange, ← hsame.rest]
  · intro address houtside
    rw [hmemory, hmemory]
    exact hsame.memory address houtside

theorem mono (hsame : SameOutside cells first second) {larger : Set Address}
    (hlarger : cells ⊆ larger) : SameOutside larger first second :=
  ⟨hsame.rest, fun address houtside => hsame.memory address fun hcell => houtside (hlarger hcell)⟩

end SameOutside

theorem frame_sameOutside (cells : Set Address) : Frame (SameOutside cells) where
  registers hsame := hsame.same registers fun _ _ => rfl
  counter hsame := hsame.same counter fun _ _ => rfl
  index hsame := hsame.same index fun _ _ => rfl
  keys hsame := hsame.same keys fun _ _ => rfl
  random hsame := hsame.same random fun _ _ => rfl
  delay hsame := hsame.same (fun machine => machine.timers.delay) fun _ _ => rfl
  withRegisters hsame registers :=
    hsame.map (fun machine => { machine with registers := registers }) (fun _ _ => rfl) fun _ => rfl
  withCounter hsame counter :=
    hsame.map (fun machine => { machine with counter := counter }) (fun _ _ => rfl) fun _ => rfl
  withIndex hsame index :=
    hsame.map (fun machine => { machine with index := index }) (fun _ _ => rfl) fun _ => rfl
  withKeys hsame keys :=
    hsame.map (fun machine => { machine with keys := keys }) (fun _ _ => rfl) fun _ => rfl
  withRandom hsame random :=
    hsame.map (fun machine => { machine with random := random }) (fun _ _ => rfl) fun _ => rfl
  withDelay hsame delay :=
    hsame.map (fun machine => { machine with timers := { machine.timers with delay := delay } })
      (fun _ _ => rfl) fun _ => rfl
  withSound hsame sound :=
    hsame.map (fun machine => { machine with timers := { machine.timers with sound := sound } })
      (fun _ _ => rfl) fun _ => rfl

/-! ## One instruction -/

/-- An instruction does the same on both machines if it reads none of the cells in which
they differ and stores nothing. -/
theorem SameOutside.execute (hsame : SameOutside cells first second)
    {instruction : Chip8.Instruction}
    (hdecode : Instruction.decode? first.view.word = some instruction)
    (hstores : written first.view instruction = [])
    (hunread : ∀ address ∈ cells,
      ¬ (addressOf first.index).InBlock (cellsRead first.view.word) address) :
    Alike (SameOutside cells) (first.execute (stored instruction))
      (second.execute (stored instruction)) := by
  have hregister := (frame_sameOutside cells).register hsame
  have hblock : second.memory.readBlock (addressOf second.index) (cellsRead first.view.word)
      = first.memory.readBlock (addressOf first.index) (cellsRead first.view.word) := by
    rw [hsame.same index fun _ _ => rfl]
    apply Memory.readBlock_congr
    intro address hinside
    exact hsame.memory address fun hcell => hunread address hcell hinside
  have hfirst : ∀ values, SameOutside cells
      { first with registers := (first.view.setFirstRegisters values).registers }
      { second with registers := (second.view.setFirstRegisters values).registers } := by
    intro values
    exact hsame.map
      (fun machine => { machine with
        registers := (machine.view.setFirstRegisters values).registers })
      (fun _ _ => rfl) fun _ => rfl
  cases instruction
  case clearScreen =>
    exact .done _ (hsame.map (fun machine => { machine with display := machine.display.clear })
      (fun _ _ => rfl) fun _ => rfl)
  case returnToCaller =>
    have hpop : second.stack.pop = first.stack.pop :=
      hsame.same (fun machine => machine.stack.pop) fun _ _ => rfl
    simp only [stored, InstructionForm.map, Machine.execute, hpop]
    refine (Alike.refl first.stack.pop).bind fun result popped _ hpopped => ?_
    subst hpopped
    exact .done _ (hsame.map (fun machine => { machine with stack := popped })
      (fun _ _ => rfl) fun _ => rfl)
  case call target =>
    have hpush : second.stack.push ((second.counter + 2) &&& addressMask)
        = first.stack.push ((first.counter + 2) &&& addressMask) :=
      hsame.same (fun machine => machine.stack.push ((machine.counter + 2) &&& addressMask))
        fun _ _ => rfl
    simp only [stored, InstructionForm.map, Machine.execute, hpush]
    refine (Alike.refl (first.stack.push _)).bind fun result pushed _ hpushed => ?_
    subst hpushed
    exact .done _ (hsame.map (fun machine => { machine with stack := pushed })
      (fun _ _ => rfl) fun _ => rfl)
  case draw x y height =>
    obtain ⟨drawn, collision, hdrawn, hview⟩ := drawSprite_eq first x y height
    obtain ⟨other, found, hother, hotherView⟩ := drawSprite_eq second x y height
    have hscreen : second.view.screen = first.view.screen :=
      hsame.same (fun machine => machine.view.screen) fun _ _ => rfl
    have hsprite : second.view.memory.readBlock second.view.index height.val
        = first.view.memory.readBlock first.view.index height.val := by
      rw [cellsRead_draw hdecode] at hblock
      exact hblock
    rw [hscreen, hregister, hregister, hsprite, ← hview, Prod.mk.injEq] at hotherView
    obtain ⟨hdisplay, rfl⟩ := hotherView
    have hshown : other = drawn := FrameBuffer.view_injective hdisplay
    subst hshown
    simp only [stored, InstructionForm.map, Machine.execute, hdrawn, hother]
    exact .done _ (hsame.map (fun machine =>
      { withRegister { machine with display := other } .vF (if found then 1 else 0) with
        drawnBytes := UInt32.ofNat
          (min (UInt32.size - 1) (machine.drawnBytes.toNat + height.val)) })
      (fun _ _ => rfl) fun _ => rfl)
  case loadRegisters x =>
    rw [cellsRead_loadRegisters hdecode] at hblock
    rw [execute_loadRegisters, execute_loadRegisters, hblock]
    exact .done _ (hfirst _)
  case saveFlags x =>
    have hsave : second.flags.save (second.view.registersUpTo x)
        = first.flags.save (first.view.registersUpTo x) :=
      hsame.same (fun machine => machine.flags.save (machine.view.registersUpTo x)) fun _ _ => rfl
    rw [execute_saveFlags, execute_saveFlags, hsave]
    cases first.flags.save (first.view.registersUpTo x) with
    | error fault => exact .done _ hsame
    | ok flags =>
        exact .done _ (hsame.map (fun machine => { machine with flags := flags })
          (fun _ _ => rfl) fun _ => rfl)
  case restoreFlags x =>
    have hrestore : second.flags.restore (x.val + 1) = first.flags.restore (x.val + 1) :=
      hsame.same (fun machine => machine.flags.restore (x.val + 1)) fun _ _ => rfl
    rw [execute_restoreFlags, execute_restoreFlags, hrestore]
    cases first.flags.restore (x.val + 1) with
    | error fault => exact .done _ hsame
    | ok values => exact .done _ (hfirst values)
  case storeDigits x => contradiction
  case storeRegisters x =>
    have hlength := congrArg List.length hstores
    rw [written, Chip8.Machine.length_registersUpTo] at hlength
    contradiction
  all_goals exact (frame_sameOutside cells).execute hsame trivial

/-- A block that is stored on both machines leaves no difference in its own cells. -/
theorem SameOutside.withBlock (hsame : SameOutside cells first second) (start : Address)
    {data : List UInt8} (hlength : data.length ≤ 4096) :
    SameOutside { address | address ∈ cells ∧ ¬ start.InBlock data.length address }
      { first with memory := first.memory.writeBlock start data }
      { second with memory := second.memory.writeBlock start data } := by
  refine ⟨?_, ?_⟩
  · exact congrArg (fun machine : Machine =>
      { machine with memory := second.memory.writeBlock start data }) hsame.rest
  · intro address houtside
    apply Memory.read_writeBlock_congr hlength
    intro hkept
    exact hsame.memory address fun hcell => houtside ⟨hcell, hkept⟩

/-- What an instruction stores is the same on both machines. -/
theorem SameOutside.execute_stores (hsame : SameOutside cells first second)
    {instruction : Chip8.Instruction} (hstores : written first.view instruction ≠ []) :
    Alike (SameOutside { address | address ∈ cells ∧
        ¬ (addressOf first.index).InBlock (written first.view instruction).length address })
      (first.execute (stored instruction)) (second.execute (stored instruction)) := by
  have hindex : addressOf second.index = addressOf first.index :=
    hsame.same (fun machine => addressOf machine.index) fun _ _ => rfl
  cases instruction
  case storeDigits x =>
    have hdigits : Chip8.Machine.decimalDigits (second.view.register x)
        = Chip8.Machine.decimalDigits (first.view.register x) :=
      congrArg Chip8.Machine.decimalDigits ((frame_sameOutside cells).register hsame x)
    rw [execute_storeDigits, execute_storeDigits, hindex, hdigits]
    exact .done _ (hsame.withBlock _ (by decide : (3 : Nat) ≤ 4096))
  case storeRegisters x =>
    have hvalues : second.view.registersUpTo x = first.view.registersUpTo x :=
      hsame.same (fun machine => machine.view.registersUpTo x) fun _ _ => rfl
    rw [execute_storeRegisters, execute_storeRegisters, hindex, hvalues]
    have hlength : (first.view.registersUpTo x).length ≤ 4096 := by
      rw [Chip8.Machine.length_registersUpTo]
      omega
    exact .done _ (hsame.withBlock _ hlength)
  all_goals exact absurd rfl hstores

/-! ## One call -/

theorem reads_iff {machine : Machine} {address : Address} : machine.Reads address ↔
    machine.keys.isWaiting = false ∧ (machine.view.counter.InBlock 2 address ∨
      machine.view.index.InBlock (cellsRead machine.view.word) address) := by
  simp only [Reads, word_eq, Except.ok.injEq, exists_eq_left']
  rfl

theorem cellsRead_le (word : UInt16) : cellsRead word ≤ 4096 := by
  unfold cellsRead
  split
  · omega
  · split
    · omega
    · omega

theorem cellsWritten_le (word : UInt16) : cellsWritten word ≤ 4096 := by
  unfold cellsWritten
  split
  · omega
  · split
    · omega
    · omega

instance (machine : Machine) (address : Address) : Decidable (machine.Reads address) :=
  decidable_of_iff (machine.keys.isWaiting = false ∧
      (machine.view.counter.distance address < 2 ∨
        machine.view.index.distance address < cellsRead machine.view.word)) <| by
    rw [reads_iff, Address.inBlock_iff (by decide), Address.inBlock_iff (cellsRead_le _)]

theorem overwrites_iff {machine : Machine} {address : Address} : machine.Overwrites address ↔
    machine.keys.isWaiting = false ∧
      machine.view.index.InBlock (cellsWritten machine.view.word) address := by
  simp only [Overwrites, word_eq, Except.ok.injEq, exists_eq_left']
  rfl

/-- Nothing is overwritten unless an instruction stores. -/
theorem not_overwrites {machine : Machine}
    (hnone : machine.keys.isWaiting = false → cellsWritten machine.view.word = 0)
    (address : Address) : ¬ machine.Overwrites address := by
  rw [overwrites_iff]
  rintro ⟨hfree, place, hplace, -⟩
  rw [hnone hfree] at hplace
  exact absurd hplace (Nat.not_lt_zero place)

/-- The word at the counter is the same on both machines if its bytes are. -/
theorem SameOutside.word (hsame : SameOutside cells first second)
    (hunread : ∀ address ∈ cells, ¬ first.view.counter.InBlock 2 address) :
    second.view.word = first.view.word := by
  have hcounter : second.view.counter = first.view.counter :=
    hsame.same (fun machine => machine.view.counter) fun _ _ => rfl
  have hbyte : ∀ place < 2, second.memory.read (first.view.counter.offset place)
      = first.memory.read (first.view.counter.offset place) := by
    intro place hplace
    exact hsame.memory _ fun hcell => hunread _ hcell ⟨place, hplace, rfl⟩
  have hhigh := hbyte 0 (by decide)
  rw [Address.offset_zero] at hhigh
  show second.memory.word second.view.counter = first.memory.word first.view.counter
  rw [hcounter, Memory.word, Memory.word, hhigh, hbyte 1 (by decide)]

/-- A step that reads none of the cells in which the machines differ does the same on
both, and they differ at most in those of the cells that it does not overwrite. -/
theorem SameOutside.step (hsame : SameOutside cells first second)
    (hunread : ∀ address ∈ cells, ¬ first.Reads address) :
    Alike (SameOutside { address | address ∈ cells ∧ ¬ first.Overwrites address })
      first.step second.step := by
  have hcellsWritten := cellsWritten_eq first.view first.view.word
  refine (frame_sameOutside cells).step hsame (frame_sameOutside _) ?_ ?_ ?_
  · intro hfree
    apply hsame.word
    intro address hcell hinside
    exact hunread address hcell (reads_iff.mpr ⟨hfree, .inl hinside⟩)
  · intro hnone
    refine hsame.mono fun address hcell => ⟨hcell, not_overwrites (fun hfree => ?_) address⟩
    rw [hcellsWritten, hnone hfree]
    rfl
  · intro instruction hfree hdecode
    have hlength : cellsWritten first.view.word = (written first.view instruction).length := by
      rw [hcellsWritten, hdecode]
      rfl
    by_cases hstores : written first.view instruction = []
    · have hblock : ∀ address ∈ cells,
          ¬ (addressOf first.index).InBlock (cellsRead first.view.word) address :=
        fun address hcell hinside => hunread address hcell (reads_iff.mpr ⟨hfree, .inr hinside⟩)
      refine (hsame.execute hdecode hstores hblock).mono fun _ _ hlater => ?_
      refine hlater.mono fun address hcell => ⟨hcell, not_overwrites (fun _ => ?_) address⟩
      rw [hlength, hstores]
      rfl
    · refine (hsame.execute_stores hstores).mono fun _ _ hlater => hlater.mono ?_
      rintro address ⟨hcell, houtside⟩
      refine ⟨hcell, fun hoverwrites => ?_⟩
      have hinside := (overwrites_iff.mp hoverwrites).2
      rw [hlength] at hinside
      exact houtside hinside

/-- Those of some cells that a call does not overwrite. -/
def keptBy (machine : Machine) (call : Machine.Call) (cells : Set Address) : Set Address :=
  { address | address ∈ cells ∧ (call = .step → ¬ machine.Overwrites address) }

/-- A call that reads none of the cells does the same on both machines. -/
theorem SameOutside.answer (hsame : SameOutside cells first second)
    (hcall : call = .step ∨ call = .tick ∨ ∃ mask, call = .setKeys mask)
    (hunread : call = .step → ∀ address ∈ cells, ¬ first.Reads address) :
    Alike (SameOutside (first.keptBy call cells)) (first.answer call) (second.answer call) := by
  rcases hcall with rfl | rfl | ⟨mask, rfl⟩
  · refine (hsame.step (hunread rfl)).mono fun _ _ hlater => hlater.mono ?_
    rintro address ⟨hcell, hkept⟩
    exact ⟨hcell, fun _ => hkept⟩
  · refine .done _ ((hsame.map tick (fun _ _ => rfl) fun _ => rfl).mono ?_)
    exact fun address hcell => ⟨hcell, nofun⟩
  · refine ((frame_sameOutside cells).answer_setKeys hsame mask).mono fun _ _ hlater => ?_
    exact hlater.mono fun address hcell => ⟨hcell, nofun⟩

/-! ## Several calls -/

theorem spared_cons (cells : Set Address) (event : Event) (events : List Event) :
    spared cells (event :: events)
      = spared (event.before.keptBy event.call cells) events := by
  ext address
  constructor
  · rintro ⟨hcell, hkept⟩
    rw [List.forall_mem_cons] at hkept
    exact ⟨⟨hcell, hkept.1⟩, hkept.2⟩
  · rintro ⟨⟨hcell, hfirst⟩, hlater⟩
    exact ⟨hcell, List.forall_mem_cons.mpr ⟨hfirst, hlater⟩⟩

/-- No step in the course of some calls reads one of the cells before it is
overwritten. -/
def Unread (cells : Set Address) (machine : Machine) (calls : List Machine.Call) : Prop :=
  ∀ earlier later, calls = earlier ++ .step :: later →
    ∀ events now, machine.run earlier = .ok (events, now) →
      ∀ address ∈ spared cells events, ¬ now.Reads address

/-- At each point in the course of some calls, the same has happened to both machines, and
they differ at most in those of the cells that have not been overwritten. -/
def RunAlike (cells : Set Address) (first second : Machine) (calls : List Machine.Call) : Prop :=
  ∀ earlier, earlier <+: calls → ∀ events now, first.run earlier = .ok (events, now) →
    ∃ others other, second.run earlier = .ok (others, other) ∧
      others.map Event.result = events.map Event.result ∧
      SameOutside (spared cells events) now other

theorem SameOutside.run (hsame : SameOutside cells first second) (hcalls : Plays calls)
    (hunread : Unread cells first calls) {events : List Event} {last : Machine}
    (hrun : first.run calls = .ok (events, last)) :
    ∃ others other, second.run calls = .ok (others, other) ∧
      others.map Event.result = events.map Event.result ∧
      SameOutside (spared cells events) last other := by
  induction calls generalizing first second cells events with
  | nil =>
      cases hrun
      exact ⟨[], second, rfl, rfl, hsame.mono fun address hcell => ⟨hcell, by simp⟩⟩
  | cons call rest ih =>
      obtain ⟨result, next, later, hanswer, hlater, rfl⟩ := run_cons_cases hrun
      have hrest : Plays rest := fun other hother => hcalls other (List.mem_cons_of_mem call hother)
      have hfirst : call = .step → ∀ address ∈ cells, ¬ first.Reads address := by
        rintro rfl address hcell
        exact hunread [] rest rfl [] first rfl address ⟨hcell, by simp⟩
      have halike := hsame.answer (hcalls call List.mem_cons_self) hfirst
      rw [hanswer] at halike
      generalize hother : second.answer call = attempt at halike
      cases halike with
      | @done _ _ other hnext =>
          have hunreadLater : Unread (first.keptBy call cells) next rest := by
            intro earlier remaining hsplit past now hpast address hcell
            refine hunread (call :: earlier) remaining (by rw [hsplit]; rfl) _ now
              (run_cons hanswer hpast) address ?_
            rw [spared_cons]
            exact hcell
          obtain ⟨others, otherLast, hotherRun, hresults, hlast⟩ :=
            ih hnext hrest hunreadLater hlater
          refine ⟨_, otherLast, run_cons hother hotherRun, congrArg (result :: ·) hresults, ?_⟩
          rw [spared_cons]
          exact hlast

/-! ## Bytes of a program -/

theorem load_eq {program : List UInt8} (hfits : program.length ≤ Memory.maxProgramLength)
    (seed initialFlags : UInt64) :
    load program seed initialFlags = .ok (.ok {
      memory := Memory.fresh.writeBlock Memory.programStart program
      registers := Vector.replicate 16 0
      counter := programAddress
      index := 0
      stack := .empty
      timers := {}
      display := .blank
      flags := .ofPacked initialFlags
      keys := {}
      random := { seed := seed }
      drawnBytes := 0 }) := by
  rw [load, freshMemory_eq, ok_bind, loadProgram_eq, Memory.loadProgram, if_pos hfits]
  rfl

/-- Programs of one length give machines that differ where the programs do. -/
theorem sameOutside_of_load {program other : List UInt8} {seed initialFlags : UInt64}
    {fresh : Machine} (hload : load program seed initialFlags = .ok (.ok fresh))
    (hlength : other.length = program.length)
    (hdiffer : ∀ place, program[place]? ≠ other[place]? →
      Memory.programStart.offset place ∈ cells) :
    ∃ second, load other seed initialFlags = .ok (.ok second) ∧
      SameOutside cells fresh second := by
  have hfits : program.length ≤ Memory.maxProgramLength := by
    obtain ⟨-, htyped⟩ := wellFormed_of_load hload
    by_contra hlong
    rw [Chip8.Machine.load, Memory.loadProgram, if_neg hlong] at htyped
    contradiction
  have hotherFits : other.length ≤ Memory.maxProgramLength := hlength ▸ hfits
  have hcells : Memory.maxProgramLength ≤ 4096 := by decide
  rw [load_eq hfits] at hload
  cases hload
  refine ⟨_, load_eq hotherFits seed initialFlags, rfl, ?_⟩
  intro address houtside
  have hbyte : program[Memory.programStart.distance address]?
      = other[Memory.programStart.distance address]? := by
    by_contra hne
    have hcell := hdiffer _ hne
    rw [Address.offset_distance] at hcell
    exact houtside hcell
  rw [Memory.read_writeBlock _ _ other (hotherFits.trans hcells),
    Memory.read_writeBlock _ _ program (hfits.trans hcells), List.getD_eq_getElem?_getD,
    List.getD_eq_getElem?_getD, hbyte]

/-- Cells that are not read never show.  Two machines that differ in some cells of memory
give the same results, as long as no step of the first one reads a cell of them that has
not been overwritten by then, and at each point they differ at most in such cells.  In
particular the bytes of a program that are neither carried out nor read as data can be
any others. -/
theorem unread_cells_stay_hidden (cells : Set Address) {calls : List Machine.Call}
    (hcalls : Plays calls) :
    (∀ first second : Machine, first.SameOutside cells second → Unread cells first calls →
      RunAlike cells first second calls ∧
        (first.WellFormed → ∃ events last, first.run calls = .ok (events, last))) ∧
      ∀ program other seed initialFlags fresh,
        load program seed initialFlags = .ok (.ok fresh) → other.length = program.length →
        (∀ place, program[place]? ≠ other[place]? →
          Memory.programStart.offset place ∈ cells) →
        Unread cells fresh calls →
        ∃ second events last, load other seed initialFlags = .ok (.ok second) ∧
          fresh.run calls = .ok (events, last) ∧ RunAlike cells fresh second calls := by
  have hgeneral : ∀ first second : Machine, first.SameOutside cells second →
      Unread cells first calls → RunAlike cells first second calls := by
    intro first second hsame hunread earlier hprefix events now hrun
    obtain ⟨rest, rfl⟩ := hprefix
    have hplays : Plays earlier := fun call hcall => hcalls call (List.mem_append_left rest hcall)
    refine hsame.run hplays ?_ hrun
    intro before later hsplit
    exact hunread before (later ++ rest) (by rw [hsplit, List.append_assoc, List.cons_append])
  refine ⟨?_, ?_⟩
  · intro first second hsame hunread
    refine ⟨hgeneral first second hsame hunread, fun hfirst => ?_⟩
    obtain ⟨events, last, hrun, -⟩ := exists_run hfirst calls
    exact ⟨events, last, hrun⟩
  · intro program other seed initialFlags fresh hload hlength hdiffer hunread
    obtain ⟨second, hsecond, hsame⟩ := sameOutside_of_load hload hlength hdiffer
    obtain ⟨events, last, hrun, -⟩ := exists_run (wellFormed_of_load hload).1 calls
    exact ⟨second, events, last, hsecond, hrun, hgeneral fresh second hsame hunread⟩

/-- Two programs that differ in the byte at `0x206`, where both of them store V0. -/
theorem unread_cells_stay_hidden_store : ∃ (fresh second last other : Machine)
    (events others : List Event),
    load [0xA2, 0x06, 0xF0, 0x55, 0x12, 0x04, 0x11] 0 0 = .ok (.ok fresh) ∧
      load [0xA2, 0x06, 0xF0, 0x55, 0x12, 0x04, 0x22] 0 0 = .ok (.ok second) ∧
      fresh.run [.step, .step] = .ok (events, last) ∧
      second.run [.step, .step] = .ok (others, other) ∧
      others.map Event.result = events.map Event.result ∧
      last.SameOutside (spared { address | address = Memory.programStart.offset 6 } events)
        other := by
  have hreads : ∃ fresh, load [0xA2, 0x06, 0xF0, 0x55, 0x12, 0x04, 0x11] 0 0 = .ok (.ok fresh) ∧
      ∃ first middle, fresh.run [.step] = .ok (first, middle) ∧
        ¬ fresh.Reads (Memory.programStart.offset 6) ∧
        ¬ middle.Reads (Memory.programStart.offset 6) := by
    decide +kernel
  obtain ⟨fresh, hload, first, middle, hfirst, hunreadFirst, hunreadSecond⟩ := hreads
  have hunread : Unread { address | address = Memory.programStart.offset 6 } fresh
      [.step, .step] := by
    rintro earlier later hsplit events now hrun address ⟨rfl, -⟩
    -- nothing or one step comes before
    rcases earlier with _ | ⟨call, _ | ⟨other, rest⟩⟩
    · cases hrun
      exact hunreadFirst
    · obtain ⟨rfl, -⟩ := List.cons.inj hsplit
      rw [hfirst] at hrun
      cases hrun
      exact hunreadSecond
    · simp at hsplit
  have hdiffer : ∀ place : Nat, ([0xA2, 0x06, 0xF0, 0x55, 0x12, 0x04, 0x11] : List UInt8)[place]?
      ≠ ([0xA2, 0x06, 0xF0, 0x55, 0x12, 0x04, 0x22] : List UInt8)[place]? →
      Memory.programStart.offset place ∈ { address | address = Memory.programStart.offset 6 } := by
    intro place hne
    have hset : ([0xA2, 0x06, 0xF0, 0x55, 0x12, 0x04, 0x22] : List UInt8)
        = [0xA2, 0x06, 0xF0, 0x55, 0x12, 0x04, 0x11].set 6 0x22 := rfl
    by_cases hplace : place = 6
    · rw [hplace]
      rfl
    · rw [hset, List.getElem?_set_ne (Ne.symm hplace)] at hne
      exact absurd rfl hne
  obtain ⟨second, events, last, hsecond, hrun, halike⟩ :=
    (unread_cells_stay_hidden _ (by simp [Plays])).2 _
      [0xA2, 0x06, 0xF0, 0x55, 0x12, 0x04, 0x22] 0 0 fresh hload rfl hdiffer hunread
  obtain ⟨others, other, hother, hresults, hsame⟩ := halike _ List.prefix_rfl events last hrun
  exact ⟨fresh, second, last, other, events, others, hload, hsecond, hrun, hother, hresults, hsame⟩

end Machine

end Chip8.Raw
