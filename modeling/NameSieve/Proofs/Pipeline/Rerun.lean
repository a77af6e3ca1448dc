import NameSieve.Proofs.Pipeline.Steps
import NameSieve.Proofs.Pipeline.Storage
import NameSieve.Proofs.Sieve.Again

/-!
# Running twice

A run that succeeds leaves a table which a second run by the same request has nothing to do with:
the table is rectangular since it was read, its column is where it was, and every axis spares what
is left.  All that stands between the two runs is the file.

**`run_again`** is idempotence at the level of files: the second run repeats the file of the first
byte for byte, just if that does not open with a byte order mark.  If it does, the mark is lost on
the way, and what the second run writes is shorter (`write_rerun_lt`).
-/

namespace NameSieve.Pipeline

open Table

/-- **The mark is lost on the way**: what is read from a file that opens with one is written in
fewer bytes, and sieving does not make up for it. -/
lemma write_rerun_lt {table other : Table} (rectangular : table.Rectangular)
    (marked : table.OpensWithMark) (back : read table.write.bytes = .ok other)
    (request : Request) (column : Nat) :
    (other.outcomeAt request column).table.write.bytes.length < table.write.bytes.length := by
  obtain ⟨found, instead, shorter⟩ := read_write_of_opensWithMark rectangular marked
  obtain rfl : found = other := Except.ok.inj (instead.symm.trans back)
  calc (found.outcomeAt request column).table.write.bytes.length
      ≤ found.write.bytes.length :=
        write_outcomeAt_length_le request column (rectangular_of_read instead)
    _ < table.write.bytes.length := shorter

/-- **Running twice.**  A run that succeeds leaves some content at its output.  A second run by the
same request, from there to any writable path, succeeds with the rows that were kept as its total,
drops nothing, and leaves the same content, just if that does not open with a byte order mark.

The content is what the first run left, so this says something also of a second run that writes
its file over the one it reads. -/
theorem run_again {files after : FileSystem} {input first second : Path} {request : Request}
    {trace : List String} {outcome : Outcome}
    (ran : run files input first request = ⟨after, trace, .ok outcome⟩)
    (writable : after.Writable second) :
    ∃ content, after.contentOf first = .ok content ∧
      ((∃ final lines again,
          run after first second request = ⟨final, lines, .ok again⟩ ∧
          again.total = outcome.summary.kept ∧
          again.excluded = request.axes.toList.map (fun axis => ⟨axis, 0⟩) ∧
          final.contentOf second = .ok content)
        ↔ ¬Format.byteOrderMark <+: content) := by
  obtain ⟨table, column, loaded, here, rfl, saved, -⟩ := run_eq_ok.mp ran
  obtain ⟨bytes, -, accepted⟩ := load_eq_ok.mp loaded
  have rectangular : (table.outcomeAt request column).table.Rectangular :=
    (rectangular_of_read accepted).outcomeAt request column
  have held := contentOf_of_save saved
  refine ⟨_, held, ?_⟩
  rw [mark_isPrefix_write]
  constructor
  · rintro ⟨final, lines, again, reran, -, -, same⟩ marked
    obtain ⟨other, place, reloaded, -, rfl, resaved, -⟩ := run_eq_ok.mp reran
    obtain ⟨content, held', back⟩ := load_eq_ok.mp reloaded
    obtain rfl := Except.ok.inj (held.symm.trans held')
    have shorter := write_rerun_lt rectangular marked back request place
    have written := Except.ok.inj ((contentOf_of_save resaved).symm.trans same)
    rw [written] at shorter
    exact Nat.lt_irrefl _ shorter
  · intro unmarked
    have columns : table.header ≠ [] := by
      intro none
      have present := here.1
      rw [none] at present
      cases present
    have reloaded : Table.load after first = .ok (table.outcomeAt request column).table :=
      load_eq_ok.mpr ⟨_, held, read_write rectangular columns unmarked⟩
    obtain ⟨sameTable, nothing⟩ := table.outcomeAt_again request column
    obtain ⟨final, resaved, same⟩ := save_of_writable rectangular writable
    have resaved' : ((table.outcomeAt request column).table.outcomeAt request column).table.save
        after second = ⟨final, none⟩ := by rw [sameTable, resaved]
    exact ⟨final, _, _, run_eq_ok.mpr ⟨_, column, reloaded, here, rfl, resaved', rfl⟩, rfl,
      nothing, same⟩

/-- A file with a blank line, needless quotes and no end to its last line. -/
def untidy : FileSystem :=
  ⟨[(["in.csv"], .file (Utf8.encode "n,fq_name\r\n1,_a\r\n\n\"2\",b"))]⟩

/-- The same files after a first run. -/
def tidied : FileSystem :=
  ⟨[(["out", "first.csv"], .file (Utf8.encode "n,fq_name\n2,b\n")), (["out"], .directory),
    (["in.csv"], .file (Utf8.encode "n,fq_name\r\n1,_a\r\n\n\"2\",b"))]⟩

/-- The first run puts the file in order, and the second finds it so. -/
theorem run_again_tidied :
    ∃ trace outcome,
      run untidy ⟨"/in.csv"⟩ ⟨"/out/first.csv"⟩ ⟨"fq_name", AxisSet.ofList Axis.all⟩
        = ⟨tidied, trace, .ok outcome⟩ ∧
      tidied.Writable ⟨"/second.csv"⟩ ∧
      ∃ final lines again,
        run tidied ⟨"/out/first.csv"⟩ ⟨"/second.csv"⟩ ⟨"fq_name", AxisSet.ofList Axis.all⟩
          = ⟨final, lines, .ok again⟩ ∧
        again.total = 1 ∧
        again.excluded = [⟨.privateName, 0⟩, ⟨.stdlib, 0⟩, ⟨.dunder, 0⟩] ∧
        final.contentOf ⟨"/second.csv"⟩ = .ok (Utf8.encode "n,fq_name\n2,b\n") := by
  obtain ⟨trace, ran⟩ : ∃ trace,
      run untidy ⟨"/in.csv"⟩ ⟨"/out/first.csv"⟩ ⟨"fq_name", AxisSet.ofList Axis.all⟩
        = ⟨tidied, trace, .ok (outcomeAt ⟨["n", "fq_name"], [["1", "_a"], ["2", "b"]]⟩
            ⟨"fq_name", AxisSet.ofList Axis.all⟩ 1)⟩ := by
    refine ⟨_, run_eq_ok.mpr ⟨_, 1, ?_, ⟨rfl, by decide⟩, rfl, ?_, rfl⟩⟩
    · decide +kernel
    · decide +kernel
  have writable : tidied.Writable ⟨"/second.csv"⟩ :=
    ⟨tidied, tidied.set ["second.csv"] (.file []), by decide +kernel, by decide +kernel⟩
  have held : tidied.contentOf ⟨"/out/first.csv"⟩ = .ok (Utf8.encode "n,fq_name\n2,b\n") := by
    decide +kernel
  obtain ⟨content, held', same⟩ := run_again ran writable
  obtain rfl := Except.ok.inj (held.symm.trans held')
  obtain ⟨final, lines, again, reran, total, excluded, kept⟩ := same.mpr (by decide +kernel)
  refine ⟨trace, _, ran, writable, final, lines, again, reran, total.trans ?_, excluded.trans ?_,
    kept⟩
  · decide +kernel
  · decide +kernel

end NameSieve.Pipeline
