import Chip8.FileTable
import Chip8.FlagFile.Storage
import Chip8.Proofs.FlagFile.RoundTrip

/-!
# Files are read back

What is asked of files by those who keep something in them: that a write that
succeeds is what later reads find.  Both kinds of files in memory do this, and
on such files the flag registers that were saved are loaded again.
-/

namespace Chip8

/-- A file that was written is read back as it was written. -/
class LawfulFileStore (Store : Type) [FileStore Store] : Prop where
  read_of_write : ∀ {files changed : Store} {path : String} {content : ByteArray},
    FileStore.write files path content = (.ok (), changed) →
      FileStore.read changed path = .ok content

/-! ## Trees -/

namespace FileTree

variable {tree : FileTree}

/-- A new file stands in nobody's way, unless it takes the place of a directory. -/
theorem follow_insert {place : List String} (hplace : tree.lookup? place ≠ some .directory)
    (content : ByteArray) {start last : List String} {components : List String}
    (hfollow : tree.follow start components = .ok last) :
    (tree.insert place (.file content)).follow start components = .ok last := by
  induction components generalizing start with
  | nil => exact hfollow
  | cons component rest ih =>
      rw [follow] at hfollow ⊢
      -- only directories are passed on the way, so the new file is not on it
      cases hentry : tree.lookup? start with
      | none => simp [hentry] at hfollow
      | some entry =>
          cases entry with
          | file other => simp [hentry] at hfollow
          | directory =>
              have hne : start ≠ place := by
                rintro rfl
                exact hplace hentry
              rw [lookup?_insert_of_ne tree _ hne, hentry]
              simp only [hentry] at hfollow ⊢
              split at hfollow
              · contradiction
              · next hlength =>
                rw [if_neg hlength]
                exact ih hfollow

/-- Slashes behind the last name lead to a directory. -/
theorem lookup?_of_follow_append {start last : List String} {components : List String}
    (hfollow : tree.follow start (components ++ [""]) = .ok last) :
    tree.lookup? last = some .directory := by
  induction components generalizing start with
  | nil =>
      rw [List.nil_append, follow] at hfollow
      split at hfollow
      · contradiction
      · contradiction
      · next hentry =>
        split at hfollow
        · contradiction
        · simp only [follow, enter, true_or, if_true, Except.ok.injEq] at hfollow
          exact hfollow ▸ hentry
  | cons component rest ih =>
      rw [List.cons_append, follow] at hfollow
      split at hfollow
      · contradiction
      · contradiction
      · split at hfollow
        · contradiction
        · exact ih hfollow

/-- Where a new file may be put, it is found again. -/
theorem resolve_insert {path : String} {place : List String}
    (hresolve : tree.resolveNew path = .ok place) (hplace : tree.lookup? place ≠ some .directory)
    (content : ByteArray) :
    (tree.insert place (.file content)).resolve path = .ok place := by
  unfold resolveNew at hresolve
  unfold resolve
  cases hcomponents : components path with
  | error error => simp [hcomponents] at hresolve
  | ok components =>
      simp only [hcomponents] at hresolve ⊢
      split at hresolve
      · exact absurd (lookup?_of_follow_append hresolve) hplace
      · exact follow_insert hplace content hresolve

instance : LawfulFileStore FileTree where
  read_of_write := by
    intro files changed path content hwrite
    simp only [FileStore.write, write] at hwrite
    cases hresolve : files.resolveNew path with
    | error error => simp [hresolve] at hwrite
    | ok place =>
        have hplace : files.lookup? place ≠ some .directory := by
          intro hdirectory
          simp [hresolve, hdirectory] at hwrite
        have hchanged : changed = files.insert place (.file content) := by
          simp only [hresolve] at hwrite
          exact (Prod.mk.inj hwrite).2.symm
        have hnonempty : place ≠ [] := by
          rintro rfl
          exact hplace rfl
        subst hchanged
        simp only [FileStore.read, read, resolve_insert hresolve hplace content,
          lookup?_insert_self files _ hnonempty]

end FileTree

/-! ## Tables -/

instance : LawfulFileStore FileTable where
  read_of_write := by
    intro files changed path content hwrite
    simp only [FileStore.write, FileTable.write] at hwrite
    split at hwrite
    · obtain ⟨-, rfl⟩ := Prod.mk.inj hwrite
      simp [FileStore.read, FileTable.read]
    · obtain ⟨-, rfl⟩ := Prod.mk.inj hwrite
      simp [FileStore.read, FileTable.read]
    · exact absurd (Prod.mk.inj hwrite).1 (by simp)

/-! ## Flags -/

namespace FlagFile

variable {Store : Type} [FileStore Store] {files changed : Store} {path : String}
  {packed : UInt64}

/-- To save flags is to write them, and it fails as writing does. -/
theorem save_cases {result : Except HostError Unit}
    (hsave : save files path packed = (result, changed)) :
    (∃ error, FileStore.write files path (render packed).toUTF8 = (.error error, changed) ∧
        result = .error (.io error)) ∨
      (FileStore.write files path (render packed).toUTF8 = (.ok (), changed) ∧
        result = .ok ()) := by
  unfold save at hsave
  split at hsave
  · next error written hwrite =>
    cases hsave
    exact .inl ⟨error, hwrite, rfl⟩
  · next written hwrite =>
    cases hsave
    exact .inr ⟨hwrite, rfl⟩

/-- Flags that were saved are loaded again. -/
theorem load_of_save [LawfulFileStore Store]
    (hsave : save files path packed = (.ok (), changed)) : load changed path = .ok packed := by
  have htext : String.fromUTF8? (render packed).toUTF8 = some (render packed) :=
    dif_pos (render packed).isValidUTF8
  rcases save_cases hsave with ⟨error, -, hresult⟩ | ⟨hwrite, -⟩
  · contradiction
  · rw [load, readText, LawfulFileStore.read_of_write hwrite]
    simp only [htext, parse_render]

/-- What is loaded from a file depends on nothing but what is read from it. -/
theorem load_congr (hsame : FileStore.read changed path = FileStore.read files path) :
    load changed path = load files path := by
  rw [load, load, readText, readText, hsame]

/-- The file holds flags: its text stands for them.  A file that is not there holds zeros. -/
def Holds (files : Store) (path : String) (packed : UInt64) : Prop :=
  (FileStore.read files path = .error .missing ∧ packed = 0) ∨
    ∃ content text, FileStore.read files path = .ok content ∧
      String.fromUTF8? content = some text ∧ parse text = .ok packed

theorem holds_of_load (hload : load files path = .ok packed) : Holds files path packed := by
  unfold load readText at hload
  cases hread : FileStore.read files path with
  | error error =>
      rw [hread] at hload
      cases error
      case missing => exact .inl ⟨hread, (Except.ok.inj hload).symm⟩
      all_goals contradiction
  | ok content =>
      rw [hread] at hload
      cases htext : String.fromUTF8? content with
      | none => simp [htext] at hload
      | some text =>
          simp only [htext] at hload
          split at hload
          · contradiction
          · next parsed hparse =>
            exact .inr ⟨content, text, hread, htext, Except.ok.inj hload ▸ hparse⟩

end FlagFile

end Chip8
