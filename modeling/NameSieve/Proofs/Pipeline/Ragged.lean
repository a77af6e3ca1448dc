import NameSieve.Proofs.Pipeline.Storage
import NameSieve.Proofs.Table.Torn

/-!
# Ragged tables in files

Only rectangular tables can be saved.  The writer finds out that a table is ragged when it has
written everything before the first row that does not fit, and leaves a file that ends within that
row.  Whoever loads such a file does not get the torn row: the load fails at it, or, where nothing
of the row is left to see, the rows before it are all there is.

**`save_ragged`** is the account of both.
-/

namespace NameSieve.Table

/-- **Saving a table of any shape** at a writable path succeeds just if the table is rectangular.
Otherwise it fails with the two lengths at the first row that does not fit, and the file holds what
a saving of the table up to that row would have left, and behind it what is left of the row.  If
the table has columns and the file does not open with a byte order mark, the row is not loaded as
data: the load ends before it where nothing is left of it, and fails at it otherwise. -/
theorem save_ragged {files : FileSystem} {path : Path} (writable : files.Writable path)
    (table : Table) :
    ((∃ after, table.save files path = ⟨after, none⟩) ↔ table.Rectangular) ∧
    (¬table.Rectangular → ∃ i row, table.FirstMisfit i row) ∧
    ∀ i row, table.FirstMisfit i row → ∃ after whole finished torn,
      table.save files path
        = ⟨after, some (.table (.write ⟨table.header.length, row.length⟩))⟩ ∧
      (table.upTo i).save files path = ⟨whole, none⟩ ∧
      whole.contentOf path = .ok finished ∧
      after.contentOf path = .ok (finished ++ torn) ∧
      LeftOf row torn ∧
      (table.header ≠ [] → ¬Format.byteOrderMark <+: finished ++ torn →
        Table.load after path
          = if row = [] ∨ row = [""] then .ok (table.upTo i)
            else .error (.table (.read (.unequalLengths
              ⟨i + 1, 1 + finished.count Format.lineFeed, finished.length⟩ table.header.length
              row.length)))) := by
  obtain ⟨after, saved, held⟩ := save_eq_of_writable writable table
  refine ⟨?_, exists_firstMisfit, ?_⟩
  · rw [← write_failure_eq_none]
    constructor
    · rintro ⟨other, saved'⟩
      obtain ⟨-, -, -, whole⟩ := save_eq_ok.mp saved'
      exact whole
    · intro whole
      rw [whole, Option.map_none] at saved
      exact ⟨after, saved⟩
  · intro i row first
    have written := write_of_firstMisfit first
    obtain ⟨whole, saved', held'⟩ := save_of_writable first.upTo_rectangular writable
    rw [written, Option.map_some] at saved
    refine ⟨after, whole, _, _, saved, saved', held', by rw [held, written],
      leftOf_tornRecord row, fun columns unmarked => ?_⟩
    have read := read_torn first columns (by rwa [written])
    rw [Table.load, held]
    simp only [read]
    split_ifs <;> rfl

/-- A table with a row that is too long and ends in a quote, and another row behind it. -/
def ragged : Table :=
  ⟨["a", "b"], [["1", "2"], ["x", "", "z\""], ["late"]]⟩

/-- The long row is torn off between two quotes, and found to be long all the same. -/
theorem save_ragged_quoted :
    FileSystem.empty.Writable ⟨"/out.csv"⟩ ∧ ragged.FirstMisfit 1 ["x", "", "z\""] ∧
      ∃ after,
        ragged.save FileSystem.empty ⟨"/out.csv"⟩ = ⟨after, some (.table (.write ⟨2, 3⟩))⟩ ∧
        after.contentOf ⟨"/out.csv"⟩ = .ok (Utf8.encode "a,b\n1,2\nx,,\"z\"\"") ∧
        Table.load after ⟨"/out.csv"⟩
          = .error (.table (.read (.unequalLengths ⟨2, 3, 8⟩ 2 3))) := by
  have writable : FileSystem.empty.Writable ⟨"/out.csv"⟩ :=
    ⟨FileSystem.empty, ⟨[(["out.csv"], .file [])]⟩, by decide +kernel, by decide +kernel⟩
  have first : ragged.FirstMisfit 1 ["x", "", "z\""] := ⟨rfl, by decide, by decide⟩
  obtain ⟨after, whole, finished, torn, saved, saved', held', held, left, loaded⟩ :=
    (save_ragged writable ragged).2.2 1 _ first
  have upTo : (ragged.upTo 1).save FileSystem.empty ⟨"/out.csv"⟩
      = ⟨⟨[(["out.csv"], .file (Utf8.encode "a,b\n1,2\n"))]⟩, none⟩ := by
    decide +kernel
  obtain ⟨rfl, -⟩ := Saved.mk.inj (saved'.symm.trans upTo)
  have content : FileSystem.contentOf ⟨[(["out.csv"], .file (Utf8.encode "a,b\n1,2\n"))]⟩
      ⟨"/out.csv"⟩ = .ok (Utf8.encode "a,b\n1,2\n") := by
    decide +kernel
  obtain rfl := Except.ok.inj (held'.symm.trans content)
  obtain rfl : torn = Utf8.encode "x,,\"z\"\"" := by
    rw [LeftOf, if_neg (by decide)] at left
    exact List.append_cancel_right (left.trans (by decide +kernel))
  refine ⟨writable, first, after, saved, held.trans (by decide +kernel), ?_⟩
  refine (loaded (by decide) (by decide +kernel)).trans ?_
  decide +kernel

end NameSieve.Table
