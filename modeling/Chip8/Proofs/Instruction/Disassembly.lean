import Mathlib.Algebra.Group.Nat.Defs
import Mathlib.Data.List.Nodup
import Chip8.Instruction.Assembly
import Chip8.Proofs.Instruction.Patterns

/-!
# Reading assembly text back

The text of an instruction is a mnemonic and its operands, with blanks between them.  A
reader gets the instruction back in three stages:

* Neither mnemonics nor operands contain a blank, so the text falls apart into them.
* An operand is known by its text, since the five kinds of operands differ in the first
  character, the number of characters, or whether they are decimal.
* A mnemonic is shared by up to thirteen instructions, but no two of them have operands of
  the same kinds in the same order.

What gets lost is the `Y` of the two shifts, which has no part in the text.
-/

namespace Chip8.Text

/-! ## Hexadecimal digits -/

theorem digitChar_inj : ∀ {first second : Nat}, first < 16 → second < 16 →
    Nat.digitChar first = Nat.digitChar second → first = second := by
  have hdigits : ∀ first second : Fin 16,
      Nat.digitChar first = Nat.digitChar second → first = second := by decide
  intro first second hfirst hsecond hsame
  exact congrArg Fin.val (hdigits ⟨first, hfirst⟩ ⟨second, hsecond⟩ hsame)

/-- Digits of the same number of places are those of one number only. -/
theorem hexDigits_inj {width first second : Nat} (hfirst : first < 16 ^ width)
    (hsecond : second < 16 ^ width) (hsame : hexDigits width first = hexDigits width second) :
    first = second := by
  induction width generalizing first second with
  | zero =>
      rw [Nat.pow_zero] at hfirst hsecond
      omega
  | succ width ih =>
      rw [Nat.pow_succ] at hfirst hsecond
      obtain ⟨hhigh, hlast⟩ := List.append_inj' hsame rfl
      have hhigh : first / 16 = second / 16 := ih (by omega) (by omega) hhigh
      have hlast : first % 16 = second % 16 :=
        digitChar_inj (Nat.mod_lt _ (by decide)) (Nat.mod_lt _ (by decide))
          (List.singleton_inj.mp hlast)
      omega

theorem blank_notMem_hexDigits (width value : Nat) : ' ' ∉ hexDigits width value := by
  have hdigit : ∀ digit : Fin 16, ' ' ≠ Nat.digitChar digit := by decide
  induction width generalizing value with
  | zero => exact List.not_mem_nil
  | succ width ih =>
      unfold hexDigits
      rw [List.mem_append, List.mem_singleton]
      rintro (hhigh | hlast)
      · exact ih _ hhigh
      · exact hdigit ⟨value % 16, Nat.mod_lt _ (by decide)⟩ hlast

theorem nibble_injective : Function.Injective nibble := by
  intro first second hsame
  have hchars : ∀ first second : Fin 16,
      (Nat.digitChar first).toUpper = (Nat.digitChar second).toUpper → first = second := by
    decide
  exact hchars first second (String.singleton_inj.mp hsame)

end Chip8.Text

namespace Chip8

/-! ## Operands -/

/-- What an operand can stand for besides a number. -/
inductive Symbol where
  | index
  | indexedCells
  | delayTimer
  | soundTimer
  | key
  | glyph
  | decimalDigits
  | flags

namespace Symbol

def text : Symbol → String
  | index => "I"
  | indexedCells => "[I]"
  | delayTimer => "DT"
  | soundTimer => "ST"
  | key => "K"
  | glyph => "F"
  | decimalDigits => "B"
  | flags => "R"

def all : List Symbol :=
  [index, indexedCells, delayTimer, soundTimer, key, glyph, decimalDigits, flags]

theorem mem_all (symbol : Symbol) : symbol ∈ all := by
  cases symbol <;> simp [all]

theorem text_inj {first second : Symbol} (hsame : first.text = second.text) :
    first = second := by
  have hnodup : (all.map text).Nodup := by decide
  exact List.inj_on_of_nodup_map hnodup (mem_all first) (mem_all second) hsame

end Symbol

/-- One operand of a line of assembly. -/
inductive Operand where
  | register (x : Register)
  | byte (value : UInt8)
  | address (target : Address)
  | height (rows : Fin 16)
  | symbol (what : Symbol)

namespace Operand

open Instruction (registerText byteText addressText)

def text : Operand → String
  | register x => registerText x
  | byte value => byteText value
  | address target => addressText target
  | height rows => Nat.repr rows
  | symbol what => what.text

/-- What operands are told apart by, before their values are. -/
inductive Kind where
  | register
  | byte
  | address
  | height
  | symbol
  deriving DecidableEq

def kind : Operand → Kind
  | register _ => .register
  | byte _ => .byte
  | address _ => .address
  | height _ => .height
  | symbol _ => .symbol

/-- The kind of operand that a text is of: registers begin with `V`, bytes have four
characters and addresses five, and of all others only heights are decimal numbers. -/
def kindOfText (text : String) : Kind :=
  if text.toList.head? = some 'V' then .register
  else if text.toList.length = 4 then .byte
  else if text.toList.length = 5 then .address
  else if text.toList.all Char.isDigit then .height
  else .symbol

theorem toList_byteText (value : UInt8) :
    (byteText value).toList = '0' :: 'x' :: Text.hexDigits 2 value.toNat := by
  simp [byteText, Text.hex]

theorem toList_addressText (target : Address) :
    (addressText target).toList = '0' :: 'x' :: Text.hexDigits 3 target := by
  simp [addressText, Text.hex]

theorem kindOfText_text (operand : Operand) : kindOfText operand.text = operand.kind := by
  cases operand with
  | register x =>
      have hregister : ∀ x : Register, kindOfText (registerText x) = .register := by decide
      exact hregister x
  | byte value => simp [text, kind, kindOfText, toList_byteText]
  | address target => simp [text, kind, kindOfText, toList_addressText]
  | height rows =>
      have hheight : ∀ rows : Fin 16, kindOfText (Nat.repr rows) = .height := by decide
      exact hheight rows
  | symbol what => cases what <;> decide

/-- An operand is known by its text. -/
theorem text_injective : Function.Injective text := by
  intro first second hsame
  have hkind : first.kind = second.kind := by
    rw [← kindOfText_text, hsame, kindOfText_text]
  cases first with
  | register x =>
      cases second <;> try contradiction
      case register y =>
      have hsame : Text.nibble x = Text.nibble y := (String.append_right_inj "V").mp hsame
      rw [Text.nibble_injective hsame]
  | byte value =>
      cases second <;> try contradiction
      case byte other =>
      have hchars : (byteText value).toList = (byteText other).toList := congrArg _ hsame
      rw [toList_byteText, toList_byteText] at hchars
      have hdigits := List.tail_eq_of_cons_eq (List.tail_eq_of_cons_eq hchars)
      rw [UInt8.toNat_inj.mp (Text.hexDigits_inj value.toNat_lt other.toNat_lt hdigits)]
  | address target =>
      cases second <;> try contradiction
      case address other =>
      have hchars : (addressText target).toList = (addressText other).toList := congrArg _ hsame
      rw [toList_addressText, toList_addressText] at hchars
      have hdigits := List.tail_eq_of_cons_eq (List.tail_eq_of_cons_eq hchars)
      rw [Fin.ext (Text.hexDigits_inj target.isLt other.isLt hdigits)]
  | height rows =>
      cases second <;> try contradiction
      case height other =>
      have hheights : ∀ rows other : Fin 16, Nat.repr rows = Nat.repr other → rows = other := by
        decide
      rw [hheights rows other hsame]
  | symbol what =>
      cases second <;> try contradiction
      case symbol other =>
      rw [Symbol.text_inj hsame]

theorem blank_notMem_text (operand : Operand) : ' ' ∉ operand.text.toList := by
  cases operand with
  | register x =>
      have hregister : ∀ x : Register, ' ' ∉ (registerText x).toList := by decide
      exact hregister x
  | byte value => simp [text, toList_byteText, Text.blank_notMem_hexDigits]
  | address target => simp [text, toList_addressText, Text.blank_notMem_hexDigits]
  | height rows =>
      have hheight : ∀ rows : Fin 16, ' ' ∉ (Nat.repr rows).toList := by decide
      exact hheight rows
  | symbol what => cases what <;> decide

end Operand

/-! ## Mnemonics -/

inductive Mnemonic where
  | cls | ret | jp | call | se | sne | ld | add | or | and | xor | sub | shr | subn | shl
  | rnd | drw | skp | sknp

namespace Mnemonic

def text : Mnemonic → String
  | cls => "CLS"
  | ret => "RET"
  | jp => "JP"
  | call => "CALL"
  | se => "SE"
  | sne => "SNE"
  | ld => "LD"
  | add => "ADD"
  | or => "OR"
  | and => "AND"
  | xor => "XOR"
  | sub => "SUB"
  | shr => "SHR"
  | subn => "SUBN"
  | shl => "SHL"
  | rnd => "RND"
  | drw => "DRW"
  | skp => "SKP"
  | sknp => "SKNP"

def all : List Mnemonic :=
  [cls, ret, jp, call, se, sne, ld, add, or, and, xor, sub, shr, subn, shl, rnd, drw, skp, sknp]

theorem mem_all (mnemonic : Mnemonic) : mnemonic ∈ all := by
  cases mnemonic <;> simp [all]

theorem text_inj {first second : Mnemonic} (hsame : first.text = second.text) :
    first = second := by
  have hnodup : (all.map text).Nodup := by decide
  exact List.inj_on_of_nodup_map hnodup (mem_all first) (mem_all second) hsame

theorem blank_notMem_text (mnemonic : Mnemonic) : ' ' ∉ mnemonic.text.toList := by
  cases mnemonic <;> decide

end Mnemonic

namespace Instruction

/-! ## The parts of a line -/

def mnemonic : Instruction → Mnemonic
  | .clearScreen => .cls
  | .returnToCaller => .ret
  | .jump _ | .jumpByV0 _ => .jp
  | .call _ => .call
  | .skipIfByte _ _ | .skipIfEqual _ _ => .se
  | .skipUnlessByte _ _ | .skipUnlessEqual _ _ => .sne
  | .setByte _ _ | .copy _ _ | .setIndex _ | .readDelay _ | .awaitKey _ | .setDelay _
  | .setSound _ | .locateGlyph _ | .storeDigits _ | .storeRegisters _ | .loadRegisters _
  | .saveFlags _ | .restoreFlags _ => .ld
  | .addByte _ _ | .add _ _ | .addToIndex _ => .add
  | .or _ _ => .or
  | .and _ _ => .and
  | .xor _ _ => .xor
  | .subtract _ _ => .sub
  | .shiftRight _ _ => .shr
  | .subtractFrom _ _ => .subn
  | .shiftLeft _ _ => .shl
  | .random _ _ => .rnd
  | .draw _ _ _ => .drw
  | .skipIfHeld _ => .skp
  | .skipUnlessHeld _ => .sknp

def operands : Instruction → List Operand
  | .clearScreen | .returnToCaller => []
  | .jump target | .call target => [.address target]
  | .skipIfByte x byte | .skipUnlessByte x byte | .setByte x byte | .addByte x byte
  | .random x byte => [.register x, .byte byte]
  | .skipIfEqual x y | .copy x y | .or x y | .and x y | .xor x y | .add x y | .subtract x y
  | .subtractFrom x y | .skipUnlessEqual x y => [.register x, .register y]
  | .shiftRight x _ | .shiftLeft x _ | .skipIfHeld x | .skipUnlessHeld x => [.register x]
  | .setIndex target => [.symbol .index, .address target]
  | .jumpByV0 base => [.register Register.v0, .address base]
  | .draw x y height => [.register x, .register y, .height height]
  | .readDelay x => [.register x, .symbol .delayTimer]
  | .awaitKey x => [.register x, .symbol .key]
  | .setDelay x => [.symbol .delayTimer, .register x]
  | .setSound x => [.symbol .soundTimer, .register x]
  | .addToIndex x => [.symbol .index, .register x]
  | .locateGlyph x => [.symbol .glyph, .register x]
  | .storeDigits x => [.symbol .decimalDigits, .register x]
  | .storeRegisters x => [.symbol .indexedCells, .register x]
  | .loadRegisters x => [.register x, .symbol .indexedCells]
  | .saveFlags x => [.symbol .flags, .register x]
  | .restoreFlags x => [.register x, .symbol .flags]

/-- Operands as they stand in a line: a comma follows each one but the last. -/
def punctuated : List Operand → List String
  | [] => []
  | [last] => [last.text]
  | operand :: next :: rest => (operand.text ++ ",") :: punctuated (next :: rest)

/-- The words of a line, between which there are blanks. -/
def lineWords (instruction : Instruction) : List String :=
  instruction.mnemonic.text :: punctuated instruction.operands

theorem assembly_eq (instruction : Instruction) :
    instruction.assembly = " ".intercalate instruction.lineWords := by
  have hv0 : registerText Register.v0 = "V0" := by decide
  apply String.toList_inj.mp
  cases instruction
  all_goals simp [assembly, twoOperands, lineWords, mnemonic, operands, punctuated,
    Mnemonic.text, Operand.text, Symbol.text, hv0]

/-! ## The text falls apart -/

theorem punctuated_ne_nil (operand : Operand) (rest : List Operand) :
    punctuated (operand :: rest) ≠ [] := by
  cases rest with
  | nil => exact List.cons_ne_nil _ _
  | cons next rest => exact List.cons_ne_nil _ _

theorem punctuated_inj {first second : List Operand}
    (hsame : punctuated first = punctuated second) : first = second := by
  induction first using punctuated.induct generalizing second with
  | case1 =>
      cases second with
      | nil => rfl
      | cons operand rest => exact absurd hsame.symm (punctuated_ne_nil operand rest)
  | case2 last =>
      rcases second with _ | ⟨other, _ | ⟨next, rest⟩⟩
      · exact absurd hsame (punctuated_ne_nil last [])
      · rw [Operand.text_injective (List.singleton_inj.mp hsame)]
      · exact absurd (List.cons.inj hsame).2.symm (punctuated_ne_nil next rest)
  | case3 operand next rest ih =>
      rcases second with _ | ⟨other, _ | ⟨next', rest'⟩⟩
      · exact absurd hsame (punctuated_ne_nil operand (next :: rest))
      · exact absurd (List.cons.inj hsame).2 (punctuated_ne_nil next rest)
      · obtain ⟨htext, hrest⟩ := List.cons.inj hsame
        rw [Operand.text_injective ((String.append_left_inj ",").mp htext), ih hrest]

theorem blank_notMem_punctuated (operands : List Operand) :
    ∀ word ∈ punctuated operands, ' ' ∉ word.toList := by
  induction operands using punctuated.induct with
  | case1 => simp [punctuated]
  | case2 last => simp [punctuated, Operand.blank_notMem_text]
  | case3 operand next rest ih =>
      unfold punctuated
      rw [List.forall_mem_cons]
      exact ⟨by simp [Operand.blank_notMem_text], ih⟩

/-- Instructions with one text have the same mnemonic and the same operands. -/
theorem parts_of_assembly {first second : Instruction}
    (hsame : first.assembly = second.assembly) :
    first.mnemonic = second.mnemonic ∧ first.operands = second.operands := by
  have hsplit : ∀ instruction : Instruction,
      instruction.assembly.toList.splitOn ' ' = instruction.lineWords.map String.toList := by
    intro instruction
    rw [assembly_eq, String.toList_intercalate]
    refine List.splitOn_intercalate ' ' ?_ (by simp [lineWords])
    rw [List.forall_mem_map]
    exact List.forall_mem_cons.mpr
      ⟨instruction.mnemonic.blank_notMem_text, blank_notMem_punctuated instruction.operands⟩
  have hwords : first.lineWords = second.lineWords := by
    apply List.map_injective_iff.mpr fun _ _ => String.toList_injective
    rw [← hsplit, ← hsplit, hsame]
  obtain ⟨hmnemonic, hoperands⟩ := List.cons.inj hwords
  exact ⟨Mnemonic.text_inj hmnemonic, punctuated_inj hoperands⟩

/-! ## Instructions with one text -/

/-- The instruction that a mnemonic and operands are written for.  A shift is read as one
whose `Y` is its `X`. -/
def ofParts? : Mnemonic → List Operand → Option Instruction
  | .cls, [] => some .clearScreen
  | .ret, [] => some .returnToCaller
  | .jp, [.address target] => some (.jump target)
  | .jp, [.register _, .address base] => some (.jumpByV0 base)
  | .call, [.address target] => some (.call target)
  | .se, [.register x, .byte byte] => some (.skipIfByte x byte)
  | .se, [.register x, .register y] => some (.skipIfEqual x y)
  | .sne, [.register x, .byte byte] => some (.skipUnlessByte x byte)
  | .sne, [.register x, .register y] => some (.skipUnlessEqual x y)
  | .ld, [.register x, .byte byte] => some (.setByte x byte)
  | .ld, [.register x, .register y] => some (.copy x y)
  | .ld, [.symbol .index, .address target] => some (.setIndex target)
  | .ld, [.register x, .symbol .delayTimer] => some (.readDelay x)
  | .ld, [.register x, .symbol .key] => some (.awaitKey x)
  | .ld, [.symbol .delayTimer, .register x] => some (.setDelay x)
  | .ld, [.symbol .soundTimer, .register x] => some (.setSound x)
  | .ld, [.symbol .glyph, .register x] => some (.locateGlyph x)
  | .ld, [.symbol .decimalDigits, .register x] => some (.storeDigits x)
  | .ld, [.symbol .indexedCells, .register x] => some (.storeRegisters x)
  | .ld, [.register x, .symbol .indexedCells] => some (.loadRegisters x)
  | .ld, [.symbol .flags, .register x] => some (.saveFlags x)
  | .ld, [.register x, .symbol .flags] => some (.restoreFlags x)
  | .add, [.register x, .byte byte] => some (.addByte x byte)
  | .add, [.register x, .register y] => some (.add x y)
  | .add, [.symbol .index, .register x] => some (.addToIndex x)
  | .or, [.register x, .register y] => some (.or x y)
  | .and, [.register x, .register y] => some (.and x y)
  | .xor, [.register x, .register y] => some (.xor x y)
  | .sub, [.register x, .register y] => some (.subtract x y)
  | .shr, [.register x] => some (.shiftRight x x)
  | .subn, [.register x, .register y] => some (.subtractFrom x y)
  | .shl, [.register x] => some (.shiftLeft x x)
  | .rnd, [.register x, .byte mask] => some (.random x mask)
  | .drw, [.register x, .register y, .height height] => some (.draw x y height)
  | .skp, [.register x] => some (.skipIfHeld x)
  | .sknp, [.register x] => some (.skipUnlessHeld x)
  | _, _ => none

/-- The instruction without a `Y` that has no part in its text. -/
def asWritten : Instruction → Instruction
  | .shiftRight x _ => .shiftRight x x
  | .shiftLeft x _ => .shiftLeft x x
  | instruction => instruction

theorem ofParts?_parts (instruction : Instruction) :
    ofParts? instruction.mnemonic instruction.operands = some instruction.asWritten := by
  cases instruction <;> rfl

/-- Two shifts of one register in one direction.  Their `Y` may differ. -/
inductive SameShift : Instruction → Instruction → Prop where
  | right (x y y' : Register) : SameShift (.shiftRight x y) (.shiftRight x y')
  | left (x y y' : Register) : SameShift (.shiftLeft x y) (.shiftLeft x y')

theorem SameShift.symm {first second : Instruction} (hshift : SameShift first second) :
    SameShift second first := by
  cases hshift with
  | right x y y' => exact .right x y' y
  | left x y y' => exact .left x y' y

theorem SameShift.trans {first second third : Instruction} (hshift : SameShift first second)
    (hnext : SameShift second third) : SameShift first third := by
  cases hshift with
  | right x y y' =>
      cases hnext
      exact .right x y _
  | left x y y' =>
      cases hnext
      exact .left x y _

theorem asWritten_cases (instruction : Instruction) :
    instruction = instruction.asWritten ∨ SameShift instruction instruction.asWritten := by
  unfold asWritten
  split
  · exact .inr (.right _ _ _)
  · exact .inr (.left _ _ _)
  · exact .inl rfl

/-- Two instructions have one text if and only if they are the same, but for the `Y` of a
shift. -/
theorem assembly_eq_iff {first second : Instruction} :
    first.assembly = second.assembly ↔ first = second ∨ SameShift first second := by
  constructor
  · intro hsame
    obtain ⟨hmnemonic, hoperands⟩ := parts_of_assembly hsame
    have hwritten : first.asWritten = second.asWritten := by
      apply Option.some.inj
      calc some first.asWritten
          = ofParts? first.mnemonic first.operands := (ofParts?_parts first).symm
        _ = ofParts? second.mnemonic second.operands := by rw [hmnemonic, hoperands]
        _ = some second.asWritten := ofParts?_parts second
    have hfirst := first.asWritten_cases
    rw [hwritten] at hfirst
    rcases hfirst with hfirst | hfirst
    · rcases second.asWritten_cases with hsecond | hsecond
      · exact .inl (hfirst.trans hsecond.symm)
      · rw [← hfirst] at hsecond
        exact .inr hsecond.symm
    · rcases second.asWritten_cases with hsecond | hsecond
      · rw [← hsecond] at hfirst
        exact .inr hfirst
      · exact .inr (hfirst.trans hsecond.symm)
  · rintro (rfl | hshift)
    · rfl
    · cases hshift <;> rfl

/-! ## Words with one text -/

/-- Both words are `8XY6`, or both are `8XYE`, and they agree but for their `Y`. -/
structure ShiftsAlike (first second : UInt16) : Prop where
  lead : first.toNat / 0x1000 = 0x8
  high : first.toNat / 0x100 = second.toNat / 0x100
  last : first.toNat % 0x10 = second.toNat % 0x10
  shift : first.toNat % 0x10 = 0x6 ∨ first.toNat % 0x10 = 0xE

section Words

variable {first second : UInt16} {one other : Instruction}

theorem eq_iff_words (hfirst : decode? first = some one) (hsecond : decode? second = some other) :
    one = other ↔ first = second := by
  constructor
  · rintro rfl
    apply UInt16.toNat_inj.mp
    rw [← encodeNat_of_decode? hfirst, ← encodeNat_of_decode? hsecond]
  · rintro rfl
    exact Option.some.inj (hfirst.symm.trans hsecond)

theorem sameShift_iff_words (hfirst : decode? first = some one)
    (hsecond : decode? second = some other) : SameShift one other ↔ ShiftsAlike first second := by
  constructor
  · intro hshift
    cases hshift with
    | right x y y' =>
        have hone : registerWord 0x8 x y 0x6 = first.toNat := encodeNat_of_decode? hfirst
        have hother : registerWord 0x8 x y' 0x6 = second.toNat := encodeNat_of_decode? hsecond
        unfold registerWord at hone hother
        exact ⟨by omega, by omega, by omega, .inl (by omega)⟩
    | left x y y' =>
        have hone : registerWord 0x8 x y 0xE = first.toNat := encodeNat_of_decode? hfirst
        have hother : registerWord 0x8 x y' 0xE = second.toNat := encodeNat_of_decode? hsecond
        unfold registerWord at hone hother
        exact ⟨by omega, by omega, by omega, .inr (by omega)⟩
  · rintro ⟨hlead, hhigh, hlast, hshift⟩
    have hlead' : second.toNat / 0x1000 = 0x8 := by omega
    rw [decode?_arithmetic hlead] at hfirst
    rw [decode?_arithmetic hlead', ← hhigh, ← hlast] at hsecond
    rcases hshift with hright | hleft
    · rw [hright] at hfirst hsecond
      cases hfirst
      cases hsecond
      exact .right _ _ _
    · rw [hleft] at hfirst hsecond
      cases hfirst
      cases hsecond
      exact .left _ _ _

/-- The text of an instruction identifies it, although mnemonics are shared.  Words have the
same text if and only if they stand for one instruction, so that they are the same word, or
for two shifts that agree but for the `Y`, which shifts ignore. -/
theorem assembly_identifies (hfirst : decode? first = some one)
    (hsecond : decode? second = some other) :
    (one.assembly = other.assembly ↔ one = other ∨ SameShift one other) ∧
      (one.assembly = other.assembly ↔ first = second ∨ ShiftsAlike first second) := by
  refine ⟨assembly_eq_iff, ?_⟩
  calc one.assembly = other.assembly
      ↔ one = other ∨ SameShift one other := assembly_eq_iff
    _ ↔ first = second ∨ ShiftsAlike first second :=
        or_congr (eq_iff_words hfirst hsecond) (sameShift_iff_words hfirst hsecond)

end Words

/-- The `Y` of a shift is lost.  Loading a byte and loading a key are told apart. -/
theorem assembly_identifies_shifts :
    (decode? 0x8126 = some (.shiftRight 0x1 0x2) ∧ decode? 0x81F6 = some (.shiftRight 0x1 0xF) ∧
      assembly (.shiftRight 0x1 0x2) = assembly (.shiftRight 0x1 0xF)) ∧
    (decode? 0x610A = some (.setByte 0x1 0x0A) ∧ decode? 0xF10A = some (.awaitKey 0x1) ∧
      assembly (.setByte 0x1 0x0A) ≠ assembly (.awaitKey 0x1)) := by
  have hshift : decode? 0x8126 = some (.shiftRight 0x1 0x2) := by decide
  have hother : decode? 0x81F6 = some (.shiftRight 0x1 0xF) := by decide
  have hbyte : decode? 0x610A = some (.setByte 0x1 0x0A) := by decide
  have hkey : decode? 0xF10A = some (.awaitKey 0x1) := by decide
  refine ⟨⟨hshift, hother, ?_⟩, hbyte, hkey, ?_⟩
  · exact (assembly_identifies hshift hother).1.mpr (.inr (.right 0x1 0x2 0xF))
  · intro hsame
    rcases (assembly_identifies hbyte hkey).2.mp hsame with hwords | halike
    · exact absurd hwords (by decide)
    · exact absurd halike.lead (by decide)

end Instruction

end Chip8
