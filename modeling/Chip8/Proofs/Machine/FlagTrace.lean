import Chip8.Proofs.FlagFile.RoundTrip
import Chip8.Proofs.Machine.Marking

/-!
# Where flags come from

A flag holds the byte that the last `FX75` to reach it has stored there, or what it held
to begin with.  This is followed along the machines whose instructions are carried out
one after the other: each has the flags that the one before it leaves, and what happens
to the machine in between does not matter.
-/

namespace Chip8

namespace FlagRegisters

/-! ## Flags in one number -/

/-- The low bytes of a number are shifted out. -/
theorem littleEndian_shiftRight (bytes : List UInt8) (count : Nat) :
    littleEndian bytes >>> (8 * count) = littleEndian (bytes.drop count) := by
  induction bytes generalizing count with
  | nil => simp [littleEndian]
  | cons byte rest ih =>
      cases count with
      | zero => rfl
      | succ count =>
          have hbyte := byte.toNat_lt
          have hrest : (byte.toNat + 256 * littleEndian rest) >>> 8 = littleEndian rest := by
            rw [Nat.shiftRight_eq_div_pow]
            omega
          calc littleEndian (byte :: rest) >>> (8 * (count + 1))
              = (byte.toNat + 256 * littleEndian rest) >>> 8 >>> (8 * count) := by
                rw [littleEndian, ← Nat.shiftRight_add, Nat.mul_succ, Nat.add_comm 8]
            _ = littleEndian (rest.drop count) := by rw [hrest, ih]
            _ = littleEndian ((byte :: rest).drop (count + 1)) := by rw [List.drop_succ_cons]

theorem byteOf_packed (flags : FlagRegisters) (position : Fin 8) :
    byteOf flags.packed position = flags.bytes.get position := by
  have hbound : littleEndian flags.bytes.toList < UInt64.size := by
    have hnone := littleEndian_shiftRight flags.bytes.toList 8
    rw [List.drop_eq_nil_of_le (Nat.le_of_eq flags.bytes.length_toList), littleEndian,
      Nat.shiftRight_eq_div_pow] at hnone
    rw [UInt64.size]
    omega
  have hlt : position.val < flags.bytes.toList.length := by
    rw [Vector.length_toList]
    exact position.isLt
  have hbyte := (flags.bytes.get position).toNat_lt
  rw [byteOf, packed, UInt64.toNat_ofNat_of_lt' hbound, littleEndian_shiftRight,
    List.drop_eq_getElem_cons hlt, littleEndian]
  apply UInt8.toNat_inj.mp
  rw [UInt8.toNat_ofNat']
  show ((flags.bytes.get position).toNat + 256 * _) % 2 ^ 8 = _
  omega

theorem packed_ofPacked (packed : UInt64) : (ofPacked packed).packed = packed := by
  rw [FlagRegisters.packed, FlagFile.littleEndian_ofPacked, UInt64.ofNat_toNat]

/-- The register that is stored in a flag and restored from it. -/
def registerOf (position : Fin 8) : Register :=
  position.castLE (by decide)

theorem byte_of_save {flags saved : FlagRegisters} {values : List UInt8}
    (hsave : flags.save values = .ok saved) (position : Fin 8) :
    saved.bytes.get position = values.getD position (flags.bytes.get position) := by
  unfold save at hsave
  split at hsave
  · cases hsave
    exact Vector.getElem_ofFn position.isLt
  · contradiction

end FlagRegisters

namespace Machine

open FlagRegisters (registerOf)

variable {machine next : Machine}

/-! ## One instruction -/

/-- The byte that the next step stores in a flag, if it is an `FX75` that succeeds and
reaches so far. -/
def storedIn? (machine : Machine) (position : Fin 8) : Option UInt8 :=
  if machine.isWaiting then none
  else
    match Instruction.decode? machine.word with
    | some (.saveFlags x) =>
        if position.val ≤ x.val ∧ x.val ≤ 7 then some (machine.register (registerOf position))
        else none
    | _ => none

theorem storedIn?_of_not_stores (hstores : ¬ machine.StoresFlags) (position : Fin 8) :
    machine.storedIn? position = none := by
  unfold storedIn?
  split
  · rfl
  · next hwaiting =>
    split
    · next x hdecode =>
      refine if_neg ?_
      rintro ⟨-, hx⟩
      exact hstores ⟨eq_false_of_ne_true hwaiting, .saveFlags x, hdecode, hx⟩
    · rfl

theorem byte_registersUpTo (machine : Machine) (x : Register) (position : Fin 8) (byte : UInt8) :
    (machine.registersUpTo x).getD position byte
      = if position.val ≤ x.val then machine.register (registerOf position) else byte := by
  rw [registersUpTo, List.getD_eq_getElem?_getD, List.getElem?_take]
  split
  · next hlt =>
    rw [if_pos (Nat.le_of_lt_succ hlt), List.getElem?_eq_getElem (by simp; omega)]
    rfl
  · next hle =>
    rw [if_neg (fun hx => hle (Nat.lt_succ_of_le hx))]
    rfl

/-- A step stores in a flag what it stores, and keeps the flag if it stores nothing there. -/
theorem flag_of_step (hstep : machine.step = .ok next) (position : Fin 8) :
    next.flags.bytes.get position
      = (machine.storedIn? position).getD (machine.flags.bytes.get position) := by
  rcases flagsMark.of_step hstep with ⟨hstores, -⟩ | ⟨hnone, hsame⟩
  · obtain ⟨hwaiting, instruction, hdecode, hstores⟩ := hstores
    cases instruction
    case saveFlags x =>
      have hx : x.val ≤ 7 := hstores
      rw [step, hwaiting, if_neg Bool.false_ne_true, hdecode] at hstep
      obtain ⟨saved, hsave, rfl⟩ := execute_saveFlags_ok.mp hstep
      have hbyte := FlagRegisters.byte_of_save hsave position
      rw [byte_registersUpTo] at hbyte
      rw [storedIn?, hwaiting, if_neg Bool.false_ne_true, hdecode]
      simp only [hx, and_true]
      refine hbyte.trans ?_
      split
      · rfl
      · rfl
    all_goals exact hstores.elim
  · have hsame : next.flags = machine.flags := hsame
    rw [storedIn?_of_not_stores hnone, hsame]
    rfl

theorem register_advance (machine : Machine) (y : Register) :
    machine.advance.register y = machine.register y := rfl

theorem register_setFirstRegisters (machine : Machine) (values : List UInt8) (y : Register) :
    (machine.setFirstRegisters values).register y = values.getD y (machine.register y) :=
  Vector.getElem_ofFn y.isLt

/-- `FX85` takes the first registers from the flags, and leaves the others alone. -/
theorem step_restoreFlags {x : Register} (hnext : machine.NextIs (· = .restoreFlags x))
    (hx : x.val ≤ 7) :
    ∃ next, machine.step = .ok next ∧
      (∀ position : Fin 8, position.val ≤ x.val →
        next.register (registerOf position) = machine.flags.bytes.get position) ∧
      ∀ y : Register, x < y → next.register y = machine.register y := by
  obtain ⟨instruction, rfl, hstep⟩ := hnext.step_eq
  have hrestore : machine.flags.restore (x.val + 1)
      = .ok (machine.flags.bytes.toList.take (x.val + 1)) := if_pos (by omega)
  have hregister : ∀ y : Register,
      (machine.setFirstRegisters (machine.flags.bytes.toList.take (x.val + 1))).advance.register y
        = (if y.val < x.val + 1 then machine.flags.bytes.toList[y.val]? else none).getD
            (machine.register y) := by
    intro y
    rw [← List.getElem?_take, ← List.getD_eq_getElem?_getD, register_advance,
      register_setFirstRegisters]
  refine ⟨_, hstep.trans (by rw [execute, hrestore]), ?_, ?_⟩
  · intro position hposition
    have hlt : position.val < x.val + 1 := Nat.lt_succ_of_le hposition
    rw [hregister, registerOf, Fin.val_castLE, if_pos hlt,
      List.getElem?_eq_getElem (by rw [Vector.length_toList]; exact position.isLt)]
    rfl
  · intro y hy
    rw [hregister, if_neg (Nat.not_lt.mpr hy)]
    rfl

/-! ## One instruction after the other -/

/-- The byte that was last stored in a flag by one of some machines. -/
def lastStored? (position : Fin 8) (machines : List Machine) : Option UInt8 :=
  machines.reverse.findSome? (·.storedIn? position)

theorem lastStored?_cons (position : Fin 8) (machine : Machine) (rest : List Machine) :
    lastStored? position (machine :: rest)
      = (lastStored? position rest).or (machine.storedIn? position) := by
  simp [lastStored?, List.findSome?_append]

/-- What becomes of flags while machines carry out their next instructions, each with the
flags that the one before it leaves. -/
inductive FlagTrace : Vector UInt8 8 → List Machine → Vector UInt8 8 → Prop
  | nil (flags : Vector UInt8 8) : FlagTrace flags [] flags
  | cons {first left last : Vector UInt8 8} {machine : Machine} {rest : List Machine}
      (hflags : machine.flags.bytes = first)
      (hleft : ∀ position : Fin 8,
        left.get position = (machine.storedIn? position).getD (first.get position))
      (hrest : FlagTrace left rest last) : FlagTrace first (machine :: rest) last

namespace FlagTrace

variable {first middle last : Vector UInt8 8} {past future : List Machine}

theorem append (hpast : FlagTrace first past middle) (hfuture : FlagTrace middle future last) :
    FlagTrace first (past ++ future) last := by
  induction hpast with
  | nil flags => exact hfuture
  | cons hflags hleft _ ih => exact .cons hflags hleft (ih hfuture)

theorem of_append (hall : FlagTrace first (past ++ future) last) :
    ∃ middle, FlagTrace first past middle ∧ FlagTrace middle future last := by
  induction past generalizing first with
  | nil => exact ⟨first, .nil first, hall⟩
  | cons machine past ih =>
      cases hall with
      | cons hflags hleft hrest =>
          obtain ⟨middle, hpast, hfuture⟩ := ih hrest
          exact ⟨middle, .cons hflags hleft hpast, hfuture⟩

/-- In the end, a flag holds what was last stored in it. -/
theorem last_eq (hall : FlagTrace first past last) (position : Fin 8) :
    last.get position = (lastStored? position past).getD (first.get position) := by
  induction hall with
  | nil flags => rfl
  | @cons first left last machine rest hflags hleft hrest ih =>
      calc last.get position
          = (lastStored? position rest).getD (left.get position) := ih
        _ = (lastStored? position rest).getD
              ((machine.storedIn? position).getD (first.get position)) := by rw [hleft]
        _ = (lastStored? position (machine :: rest)).getD (first.get position) := by
              rw [lastStored?_cons, Option.getD_or]

/-- So it does for each of the machines. -/
theorem flag_eq (hall : FlagTrace first (past ++ machine :: future) last) (position : Fin 8) :
    machine.flags.bytes.get position = (lastStored? position past).getD (first.get position) := by
  obtain ⟨middle, hpast, hfuture⟩ := hall.of_append
  cases hfuture with
  | cons hflags _ _ =>
      rw [hflags]
      exact hpast.last_eq position

end FlagTrace

theorem flagTrace_attempts (machine : Machine) (done count : Nat) :
    FlagTrace machine.flags.bytes (machine.attempts count)
      (machine.stepsFrom done count).machine.flags.bytes := by
  induction count generalizing machine done with
  | zero => exact .nil _
  | succ count ih =>
      by_cases hwaiting : machine.isWaiting = true
      · rw [attempts, if_pos hwaiting, stepsFrom_of_waiting hwaiting]
        exact .nil _
      · rw [attempts, if_neg hwaiting, stepsFrom]
        cases hstep : machine.step with
        | error fault =>
            -- what fails stores nothing
            have hnone : ¬ machine.StoresFlags := fun hstores =>
              flagsMark.step_ne_error hstores fault hstep
            refine .cons rfl ?_ (.nil _)
            intro position
            rw [storedIn?_of_not_stores hnone]
            rfl
        | ok next => exact .cons rfl (flag_of_step hstep) (ih next (done + 1))

end Machine

end Chip8
