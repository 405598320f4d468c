import Chip8.Proofs.FileStore.Lawful

/-!
# Saved flags take the place of the file

Whatever a path leads to, saving flags there either fails as the write fails or leaves a
file that holds their text and nothing else.  The text is the compact one: an object with
the list of the eight bytes in decimal, the lowest first.  It is read back as the same flags,
so that what is loaded depends on the last save only and not on what the file held before.
-/

namespace Chip8.FlagFile

/-- The eight bytes of a number in decimal, the lowest first, in an object without blanks. -/
def compactText (packed : UInt64) : String :=
  "\x7b\"flags\":[" ++
    ",".intercalate
      ((List.range 8).map fun place => Nat.repr (packed.toNat >>> (8 * place) % 256)) ++
    "]\x7d"

theorem commaSeparated_eq_intercalate (bytes : List UInt8) :
    commaSeparated bytes = ",".intercalate (bytes.map fun byte => Nat.repr byte.toNat) := by
  induction bytes with
  | nil => simp [commaSeparated]
  | cons byte later ih =>
      cases later with
      | nil => simp [commaSeparated]
      | cons next later =>
          rw [commaSeparated, ih, List.map_cons, List.map_cons, List.map_cons,
            String.intercalate_cons_cons]
          exact List.cons_ne_nil _ _

/-- The text that is written is the compact one. -/
theorem render_eq_compactText (packed : UInt64) : render packed = compactText packed := by
  have hbytes : (FlagRegisters.ofPacked packed).bytes.toList
      = (List.range 8).map (FlagRegisters.byteOf packed) := rfl
  rw [render, compactText, commaSeparated_eq_intercalate, hbytes, List.map_map]
  simp only [Function.comp_def, FlagRegisters.byteOf, UInt8.toNat_ofNat', Nat.reducePow]

example : compactText 0x0807060504030201 = "\x7b\"flags\":[1,2,3,4,5,6,7,8]\x7d" := by
  decide

variable {Store : Type} [FileStore Store] {files changed : Store} {path : String}
  {packed : UInt64}

/-- The file holds the compact text of the flags and nothing else, and the flags are loaded
from it. -/
structure HoldsOnly (files : Store) (path : String) (packed : UInt64) : Prop where
  read : FileStore.read files path = .ok (compactText packed).toUTF8
  load : load files path = .ok packed

/-- To save flags is to write their compact text, and it fails if and only if this fails. -/
theorem save_eq (files : Store) (path : String) (packed : UInt64) :
    save files path packed
      = ((FileStore.write files path (compactText packed).toUTF8).1.mapError .io,
          (FileStore.write files path (compactText packed).toUTF8).2) := by
  rw [save, render_eq_compactText]
  cases FileStore.write files path (compactText packed).toUTF8 with
  | mk result written =>
      cases result with
      | error error => rfl
      | ok done => rfl

theorem holdsOnly_of_save [LawfulFileStore Store]
    (hsave : save files path packed = (.ok (), changed)) : HoldsOnly changed path packed where
  read := by
    rcases save_cases hsave with ⟨error, -, hresult⟩ | ⟨hwrite, -⟩
    · contradiction
    · rw [← render_eq_compactText]
      exact LawfulFileStore.read_of_write hwrite
  load := load_of_save hsave

/-- Whatever a path leads to, saving flags writes their compact text there and fails only as
the write does.  If it succeeds, the file holds this text and the flags are loaded from it,
and so for any flags that are saved over them later. -/
theorem saved_flags_replace_file [LawfulFileStore Store] (files : Store) (path : String)
    (packed : UInt64) :
    (save files path packed
      = ((FileStore.write files path (compactText packed).toUTF8).1.mapError .io,
          (FileStore.write files path (compactText packed).toUTF8).2)) ∧
    ∀ saved, save files path packed = (.ok (), saved) →
      HoldsOnly saved path packed ∧
        ∀ later resaved, save saved path later = (.ok (), resaved) →
          HoldsOnly resaved path later := by
  refine ⟨save_eq files path packed, ?_⟩
  intro saved hsave
  refine ⟨holdsOnly_of_save hsave, ?_⟩
  intro later resaved hlater
  exact holdsOnly_of_save hlater

/-- A file that holds no flags at all, and less text than is written, is replaced; then a
shorter text takes the place of a longer one. -/
theorem saved_flags_replace_file_twice : ∃ saved resaved : FileTable,
    save ⟨[("flags.json", .ok "[".toUTF8)]⟩ "flags.json" 0xFF07060504030201 = (.ok (), saved) ∧
      save saved "flags.json" 0 = (.ok (), resaved) ∧
      HoldsOnly saved "flags.json" 0xFF07060504030201 ∧ HoldsOnly resaved "flags.json" 0 := by
  obtain ⟨-, hsaved⟩ := saved_flags_replace_file (⟨[("flags.json", .ok "[".toUTF8)]⟩ : FileTable)
    "flags.json" 0xFF07060504030201
  obtain ⟨hfirst, hlater⟩ := hsaved _ rfl
  exact ⟨_, _, rfl, rfl, hfirst, hlater 0 _ rfl⟩

end Chip8.FlagFile
