import NameSieve.Pipeline
import NameSieve.Proofs.FileSystem.Files
import NameSieve.Proofs.Table.RoundTrip

/-!
# Tables in files

Saving and loading at the level of file systems.  At a writable path a rectangular table is saved
for certain, and the file then holds what the writer made of it (`save_of_writable`); so what a
load finds there is decided by the format alone.

**`load_save`** is the round trip: a table that was saved is loaded again, save for the two
exceptions that lie in the format.
-/

namespace NameSieve.Table

lemma load_eq_ok {files : FileSystem} {path : Path} {table : Table} :
    Table.load files path = .ok table
      ↔ ∃ bytes, files.contentOf path = .ok bytes ∧ read bytes = .ok table := by
  rw [Table.load]
  cases held : files.contentOf path with
  | error e => simp
  | ok bytes =>
      cases found : read bytes with
      | error e => simp [found]
      | ok other => simp [found]

/-- **What a saving without a failure has done**, step by step. -/
lemma save_eq_ok {table : Table} {files after : FileSystem} {path : Path} :
    table.save files path = ⟨after, none⟩
      ↔ ∃ made, files.createDirectories path.parentSteps = ⟨made, none⟩ ∧
          made.putFile path table.write.bytes = .ok after ∧ table.write.failure = none := by
  constructor
  · intro saved
    rw [save] at saved
    split at saved
    · cases (Saved.mk.inj saved).2
    · next made created =>
        split at saved
        · cases (Saved.mk.inj saved).2
        · next put =>
            obtain ⟨rfl, whole⟩ := Saved.mk.inj saved
            exact ⟨made, created, put, Option.map_eq_none_iff.mp whole⟩
  · rintro ⟨made, created, put, whole⟩
    simp only [save, created, put, whole, Option.map_none]

/-- What has been saved without a failure stands in the file. -/
lemma contentOf_of_save {table : Table} {files after : FileSystem} {path : Path}
    (saved : table.save files path = ⟨after, none⟩) :
    after.contentOf path = .ok table.write.bytes := by
  obtain ⟨made, -, put, -⟩ := save_eq_ok.mp saved
  exact FileSystem.contentOf_of_putFile put

/-- **What saving at a writable path does**: the file holds what the writer has left, also if the
writer did not come to the end, which is then all that went wrong. -/
lemma save_eq_of_writable {files : FileSystem} {path : Path} (writable : files.Writable path)
    (table : Table) :
    ∃ after, table.save files path
        = ⟨after, table.write.failure.map fun e => .table (.write e)⟩ ∧
      after.contentOf path = .ok table.write.bytes := by
  obtain ⟨made, after, created, put, held⟩ := writable.putFile table.write.bytes
  exact ⟨after, by simp only [save, created, put], held⟩

/-- **A rectangular table is saved at any writable path.** -/
lemma save_of_writable {table : Table} (rectangular : table.Rectangular) {files : FileSystem}
    {path : Path} (writable : files.Writable path) :
    ∃ after, table.save files path = ⟨after, none⟩ ∧
      after.contentOf path = .ok table.write.bytes := by
  have whole : table.write.failure = none := by rw [write_eq rectangular]
  obtain ⟨after, saved, held⟩ := save_eq_of_writable writable table
  rw [whole, Option.map_none] at saved
  exact ⟨after, saved, held⟩

/-- **The round trip through a file.**  A rectangular table is saved at every writable path, and is
loaded from there again just if it has a column and does not open with a byte order mark. -/
theorem load_save {table : Table} {files : FileSystem} {path : Path}
    (rectangular : table.Rectangular) (writable : files.Writable path) :
    ∃ after, table.save files path = ⟨after, none⟩ ∧
      (Table.load after path = .ok table ↔ table.header ≠ [] ∧ ¬table.OpensWithMark) := by
  obtain ⟨after, saved, held⟩ := save_of_writable rectangular writable
  refine ⟨after, saved, ?_⟩
  rw [load_eq_ok, ← read_write_eq_iff rectangular]
  constructor
  · rintro ⟨bytes, held', found⟩
    obtain rfl := Except.ok.inj (held.symm.trans held')
    exact found
  · intro found
    exact ⟨_, held, found⟩

/-- Commas, quotes, line ends, marks and empty fields on the way through a file. -/
theorem load_save_special :
    (Table.mk ["\uFEFF,", ""] [["\"", "\r\n"], ["\uFEFF", ""]]).Rectangular ∧
      FileSystem.empty.Writable ⟨"/out/names.csv"⟩ ∧
      ∃ after, (Table.mk ["\uFEFF,", ""] [["\"", "\r\n"], ["\uFEFF", ""]]).save
          FileSystem.empty ⟨"/out/names.csv"⟩ = ⟨after, none⟩ ∧
        Table.load after ⟨"/out/names.csv"⟩
          = .ok ⟨["\uFEFF,", ""], [["\"", "\r\n"], ["\uFEFF", ""]]⟩ := by
  have rectangular : (Table.mk ["\uFEFF,", ""] [["\"", "\r\n"], ["\uFEFF", ""]]).Rectangular := by
    decide
  have writable : FileSystem.empty.Writable ⟨"/out/names.csv"⟩ :=
    ⟨⟨[(["out"], .directory)]⟩, ⟨[(["out", "names.csv"], .file []), (["out"], .directory)]⟩,
      by decide +kernel, by rfl⟩
  obtain ⟨after, saved, back⟩ := load_save rectangular writable
  refine ⟨rectangular, writable, after, saved, back.mpr ⟨nofun, ?_⟩⟩
  rintro ⟨field, first, -, plain⟩
  obtain rfl := Option.some.inj first
  exact plain ',' (by decide) (by decide)

end NameSieve.Table
