import NameSieve.Proofs.FileSystem.Directories
import NameSieve.Proofs.Pipeline.Steps
import NameSieve.Proofs.Pipeline.Storage
import NameSieve.Proofs.Sieve.Again

/-!
# What a run changes

A run loads, sieves and saves, in this order, and only the last step touches the file system.  So
what goes wrong before leaves everything as it was (`run_of_refused`, `run_of_absent`), and what
is written was made from the files as they stood at the begin, also where a run writes over the file
that it reads.

A table may be refused by the writer halfway, with a torn record in its file; but this does not
happen to a run.  `FromFile` are the tables that come from a file by any number of sieves, and they
are all rectangular (`FromFile.rectangular`).

**`run_effects`** is the account of a run's effects.
-/

namespace NameSieve

/-! ## Tables that come from files -/

namespace Table

/-- **A table from a file**: one that has been read, or what a sieve has left of such a table. -/
inductive FromFile : Table → Prop
  | read {bytes : Bytes} {table : Table} (accepted : Table.read bytes = .ok table) : FromFile table
  | sieve {table : Table} {request : Request} {outcome : Outcome} (origin : FromFile table)
      (sieved : table.sieve request = .ok outcome) : FromFile outcome.table

/-- **Tables from files are rectangular**, however often they have been sieved. -/
lemma FromFile.rectangular {table : Table} (origin : table.FromFile) : table.Rectangular := by
  induction origin with
  | read accepted => exact rectangular_of_read accepted
  | sieve _ sieved ih =>
      obtain ⟨column, -, rfl⟩ := exists_of_sieve_eq_ok sieved
      exact ih.outcomeAt _ column

lemma fromFile_of_load {files : FileSystem} {path : Path} {table : Table}
    (loaded : Table.load files path = .ok table) : table.FromFile := by
  obtain ⟨bytes, -, accepted⟩ := load_eq_ok.mp loaded
  exact .read accepted

lemma load_ne_write (files : FileSystem) (path : Path) (e : WriteError) :
    Table.load files path ≠ .error (.table (.write e)) := by
  rw [Table.load]
  split
  · simp
  · split <;> simp

/-! ## Saving -/

/-- What is saved is placed at its path. -/
lemma placed_of_save {table : Table} {before after : FileSystem} {path : Path}
    (saved : table.save before path = ⟨after, none⟩) :
    before.Placed after path table.write.bytes := by
  obtain ⟨made, created, put, -⟩ := save_eq_ok.mp saved
  exact FileSystem.placed_of_putFile created put

/-- The writer does not stop in a rectangular table. -/
lemma save_failure_ne_write {table : Table} (rectangular : table.Rectangular)
    (files : FileSystem) (path : Path) (e : WriteError) :
    (table.save files path).failure ≠ some (.table (.write e)) := by
  rw [save]
  split
  · simp
  · split
    · simp
    · simp [write_eq rectangular]

end Table

/-! ## Runs -/

namespace Pipeline

open Table

variable {files : FileSystem} {input : Path} {request : Request} {table : Table}

/-- **The writer does not stop a run**: what a run saves comes from a file. -/
lemma run_ne_write {output : Path} (e : WriteError) :
    (run files input output request).result ≠ .error (.table (.write e)) := by
  intro failed
  cases loaded : Table.load files input with
  | error cause =>
      rw [run_of_refused loaded] at failed
      obtain rfl := Except.error.inj failed
      exact load_ne_write files input e loaded
  | ok table =>
      cases sieved : table.sieve request with
      | error missing =>
          simp only [run, loaded, sieved] at failed
          cases failed
      | ok outcome =>
          have rectangular := ((fromFile_of_load loaded).sieve sieved).rectangular
          have result := (run_of_sieved loaded sieved output).2
          rw [failed] at result
          cases refused : (outcome.table.save files output).failure with
          | none =>
              rw [refused] at result
              cases result
          | some cause =>
              rw [refused] at result
              obtain rfl := Except.error.inj result
              exact save_failure_ne_write rectangular files output e refused

/-! ## Effects -/

/-- **The effects of a run.**  A run that cannot load its table, or does not find its column, says
so and changes nothing.  A run that succeeds places the whole text of the sieved table at its
output, made from the input as it stood before; so the content is the same at any other path, also
if the output is the input.  It is never the writer that stops a run, as tables from files are
rectangular. -/
theorem run_effects (files : FileSystem) (input output : Path) (request : Request) :
    (∀ e, Table.load files input = .error e →
      (run files input output request).result = .error e ∧
        (run files input output request).files = files) ∧
    (∀ table, Table.load files input = .ok table → request.column ∉ table.header →
      (run files input output request).result = .error (.missingColumn ⟨request.column⟩) ∧
        (run files input output request).files = files) ∧
    (∀ outcome, (run files input output request).result = .ok outcome →
      ∃ table, Table.load files input = .ok table ∧ table.sieve request = .ok outcome ∧
        outcome.table.write.failure = none ∧
        files.Placed (run files input output request).files output outcome.table.write.bytes ∧
        ∀ fresh, files.Writable fresh →
          (run files input fresh request).result = .ok outcome ∧
            (run files input fresh request).files.contentOf fresh
              = (run files input output request).files.contentOf output) ∧
    (∀ e, (run files input output request).result ≠ .error (.table (.write e))) ∧
    ∀ table, FromFile table → table.Rectangular := by
  refine ⟨?_, ?_, ?_, ?_, fun _ => FromFile.rectangular⟩
  · intro e refused
    rw [run_of_refused refused]
    exact ⟨rfl, rfl⟩
  · intro table loaded absent
    rw [run_of_absent loaded absent]
    exact ⟨rfl, rfl⟩
  · intro outcome ran
    obtain ⟨table, loaded, sieved, saved⟩ := exists_of_run_eq_ok ran
    have rectangular : outcome.table.Rectangular :=
      ((fromFile_of_load loaded).sieve sieved).rectangular
    have placed := placed_of_save saved
    refine ⟨table, loaded, sieved, by rw [write_eq rectangular], placed, fun fresh writable => ?_⟩
    obtain ⟨after, saved', held⟩ := save_of_writable rectangular writable
    obtain ⟨changed, result⟩ := run_of_sieved loaded sieved fresh
    rw [saved'] at changed result
    exact ⟨result, by rw [changed, held, placed.holds]⟩
  · exact run_ne_write

/-- A directory with a table, which is not written as the writer would, and with another file. -/
def shelf : FileSystem :=
  ⟨[(["w"], .directory),
    (["w", "in.csv"], .file (Utf8.encode "fq_name\r\n_a\r\n\"pkg\"")),
    (["w", "notes"], .file (Utf8.encode "kept"))]⟩

/-- A request that only private names are to go. -/
def clearing : Request :=
  ⟨"fq_name", AxisSet.ofList [.privateName]⟩

/-- What is left of the table then. -/
def cleared : Outcome :=
  ⟨⟨["fq_name"], [["pkg"]]⟩, 2, "fq_name", 0, [⟨⟨.privateName, 1⟩, 2⟩]⟩

/-- Runs without a file, without a column, over their own input, and to a directory that is
missing. -/
theorem run_effects_inPlace :
    Table.load shelf ⟨"/w/none.csv"⟩ = .error (.table (.file .notFound)) ∧
    (run shelf ⟨"/w/none.csv"⟩ ⟨"/w/new/out.csv"⟩ clearing).result
      = .error (.table (.file .notFound)) ∧
    (run shelf ⟨"/w/none.csv"⟩ ⟨"/w/new/out.csv"⟩ clearing).files = shelf ∧
    (run shelf ⟨"/w/in.csv"⟩ ⟨"/w/notes"⟩ ⟨"name", .empty⟩).result
      = .error (.missingColumn ⟨"name"⟩) ∧
    (run shelf ⟨"/w/in.csv"⟩ ⟨"/w/notes"⟩ ⟨"name", .empty⟩).files = shelf ∧
    (run shelf ⟨"/w/in.csv"⟩ ⟨"/w/in.csv"⟩ clearing).result = .ok cleared ∧
    shelf.Placed (run shelf ⟨"/w/in.csv"⟩ ⟨"/w/in.csv"⟩ clearing).files ⟨"/w/in.csv"⟩
      (Utf8.encode "fq_name\npkg\n") ∧
    (run shelf ⟨"/w/in.csv"⟩ ⟨"/w/in.csv"⟩ clearing).files.contentOf ⟨"/w/notes"⟩
      = .ok (Utf8.encode "kept") ∧
    shelf.Writable ⟨"/w/new/out.csv"⟩ ∧
    (run shelf ⟨"/w/in.csv"⟩ ⟨"/w/new/out.csv"⟩ clearing).result = .ok cleared ∧
    (run shelf ⟨"/w/in.csv"⟩ ⟨"/w/new/out.csv"⟩ clearing).files.contentOf ⟨"/w/new/out.csv"⟩
      = .ok (Utf8.encode "fq_name\npkg\n") ∧
    (run shelf ⟨"/w/in.csv"⟩ ⟨"/w/new/out.csv"⟩ clearing).files.contentOf ⟨"/w/in.csv"⟩
      = .ok (Utf8.encode "fq_name\r\n_a\r\n\"pkg\"") := by
  have noFile : Table.load shelf ⟨"/w/none.csv"⟩ = .error (.table (.file .notFound)) := by
    decide +kernel
  have table : Table.load shelf ⟨"/w/in.csv"⟩ = .ok ⟨["fq_name"], [["_a"], ["pkg"]]⟩ := by
    decide +kernel
  obtain ⟨refused, unchanged⟩ :=
    (run_effects shelf ⟨"/w/none.csv"⟩ ⟨"/w/new/out.csv"⟩ clearing).1 _ noFile
  obtain ⟨absent, unchanged'⟩ :=
    (run_effects shelf ⟨"/w/in.csv"⟩ ⟨"/w/notes"⟩ ⟨"name", .empty⟩).2.1 _ table (by decide)
  have ran : (run shelf ⟨"/w/in.csv"⟩ ⟨"/w/in.csv"⟩ clearing).result = .ok cleared := by
    decide +kernel
  have writable : shelf.Writable ⟨"/w/new/out.csv"⟩ :=
    ⟨shelf.set ["w", "new"] .directory,
      (shelf.set ["w", "new"] .directory).set ["w", "new", "out.csv"] (.file []),
      by decide +kernel, by decide +kernel⟩
  obtain ⟨-, -, -, -, placed, elsewhere⟩ :=
    (run_effects shelf ⟨"/w/in.csv"⟩ ⟨"/w/in.csv"⟩ clearing).2.2.1 cleared ran
  obtain ⟨ran', same⟩ := elsewhere _ writable
  have written : cleared.table.write.bytes = Utf8.encode "fq_name\npkg\n" := by decide +kernel
  rw [written] at placed
  refine ⟨noFile, refused, unchanged, absent, unchanged', ran, placed, ?_, writable, ran',
    same.trans placed.holds, ?_⟩
  · decide +kernel
  · decide +kernel

end Pipeline

end NameSieve
