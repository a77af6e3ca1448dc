import NameSieve.Proofs.Pipeline.Steps
import NameSieve.Proofs.Pipeline.Storage
import NameSieve.Proofs.Sieve.Again
import NameSieve.Proofs.Table.Spelled

/-!
# Runs on many spellings of a table

What a run does hangs on the table that it loads, and not on how the file spells it
(`run_eq_of_load`).  So two files that spell the same table cannot be told apart by what is made of
them, and all the differences between them are gone from the output.

**`run_of_spelled`** collects what follows for a table and a request.
-/

namespace NameSieve

/-- **The file at a path spells the table.** -/
def Table.SpelledAt (table : Table) (files : FileSystem) (path : Path) : Prop :=
  ∃ bytes, files.contentOf path = .ok bytes ∧ table.Spelled bytes

namespace Pipeline

open Table
open Format (FieldText FileText carriageReturn comma doubleQuotes isLineEnd lineFeed quote)

variable {files : FileSystem} {input input' : Path} {table : Table} {request : Request}

lemma load_of_spelledAt (rectangular : table.Rectangular) (spelled : table.SpelledAt files input) :
    Table.load files input = .ok table := by
  obtain ⟨bytes, held, spelled⟩ := spelled
  exact load_eq_ok.mpr ⟨bytes, held, read_of_spelled rectangular spelled⟩

/-- From the same table a run goes the same way, and leaves the same files. -/
lemma run_eq_of_load (loaded : Table.load files input = .ok table)
    (loaded' : Table.load files input' = .ok table) (output : Path) :
    (run files input output request).result = (run files input' output request).result ∧
      (run files input output request).files = (run files input' output request).files := by
  cases sieved : table.sieve request with
  | error missing => simp only [run, loaded, loaded', sieved, and_self]
  | ok outcome =>
      obtain ⟨changed, result⟩ := run_of_sieved loaded sieved output
      obtain ⟨changed', result'⟩ := run_of_sieved loaded' sieved output
      rw [changed, changed', result, result']
      exact ⟨rfl, rfl⟩

/-- **A run hangs on the table and not on its spelling.**  Every spelling of a rectangular table is
read as that table.  If the column is missing, a run says so for every spelling.  Otherwise there is
one outcome and one content, which is tidy, and a run from any spelling to any writable path ends
with that outcome and leaves that content there.  And from two files of one file system, the result
and the files that a run leaves are the same at every output, writable or not. -/
theorem run_of_spelled {table : Table} (rectangular : table.Rectangular) (request : Request) :
    (∀ bytes, table.Spelled bytes → read bytes = .ok table) ∧
    (request.column ∉ table.header → ∀ files input output, table.SpelledAt files input →
      (run files input output request).result = .error (.missingColumn ⟨request.column⟩)) ∧
    (request.column ∈ table.header → ∃ outcome content,
      table.sieve request = .ok outcome ∧ Format.TidyFile outcome.table.records content ∧
      ∀ files input output, table.SpelledAt files input → files.Writable output →
        (run files input output request).result = .ok outcome ∧
          (run files input output request).files.contentOf output = .ok content) ∧
    ∀ files input input' output, table.SpelledAt files input → table.SpelledAt files input' →
      (run files input output request).result = (run files input' output request).result ∧
        (run files input output request).files = (run files input' output request).files := by
  refine ⟨fun bytes spelled => read_of_spelled rectangular spelled, ?absent, ?present, ?twice⟩
  case absent =>
    intro absent files input output spelled
    rw [run_of_absent (load_of_spelledAt rectangular spelled) absent]
  case present =>
    intro present
    obtain ⟨column, first⟩ := exists_firstColumn present
    have sieved := sieve_eq_ok first
    have rectangular' := rectangular.outcomeAt request column
    have columns : (table.outcomeAt request column).table.header ≠ [] := List.ne_nil_of_mem present
    refine ⟨_, _, sieved, write_tidy rectangular' columns, ?_⟩
    intro files input output spelled writable
    obtain ⟨changed, result⟩ :=
      run_of_sieved (load_of_spelledAt rectangular spelled) sieved output
    obtain ⟨after, saved, held⟩ := save_of_writable rectangular' writable
    rw [changed, result, saved]
    exact ⟨rfl, held⟩
  case twice =>
    intro files input input' output spelled spelled'
    exact run_eq_of_load (load_of_spelledAt rectangular spelled)
      (load_of_spelledAt rectangular spelled') output

/-- A table with a field that needs its quotes. -/
def quotedPair : Table :=
  ⟨["n", "fq_name"], [["1", "_a"], ["2,", "b"]]⟩

/-- A text in quotes. -/
def inQuotes (text : String) : Bytes :=
  quote :: (doubleQuotes (Utf8.encode text) ++ [quote])

/-- The table spelled twice: with few quotes and no end, and with a mark, blank lines and bare
carriage returns. -/
def spelledTwice : FileSystem :=
  ⟨[(["a.csv"], .file (Utf8.encode "n,fq_name\r\n1,_a\r\n\n\"2,\",b")),
    (["b.csv"], .file (Utf8.encode "\uFEFF\n\"n\",fq_name\r1,_a\r\"2,\",\"b\"\n\n"))]⟩

lemma inQuotes_text (text : String) : FieldText (Utf8.encode text) (inQuotes text) :=
  .quoted _

lemma quotedPair_spelledAt_few : quotedPair.SpelledAt spelledTwice ⟨"/a.csv"⟩ := by
  have blank : ∀ byte ∈ [lineFeed], isLineEnd byte := List.forall_mem_singleton.mpr (by decide)
  have blanks : ∀ byte ∈ [lineFeed, lineFeed], isLineEnd byte :=
    List.forall_mem_cons.mpr ⟨by decide, blank⟩
  have spells : FileText quotedPair.records
      ((Utf8.encode "n" ++ comma :: Utf8.encode "fq_name") ++ carriageReturn :: ([lineFeed] ++
        ((Utf8.encode "1" ++ comma :: Utf8.encode "_a")
          ++ carriageReturn :: ([lineFeed, lineFeed] ++
            (inQuotes "2," ++ comma :: Utf8.encode "b"))))) :=
    .cons (.cons (.bare (by decide)) (.last (.bare (by decide)))) (by decide) (by decide) blank
      (.cons (.cons (.bare (by decide)) (.last (.bare (by decide)))) (by decide) (by decide) blanks
        (.last (.cons (inQuotes_text "2,") (.last (.bare (by decide)))) (by decide)))
  exact ⟨_, by decide +kernel, .unmarked (List.forall_mem_nil _) spells (by decide)⟩

lemma quotedPair_spelledAt_many : quotedPair.SpelledAt spelledTwice ⟨"/b.csv"⟩ := by
  have none : ∀ byte ∈ ([] : Bytes), isLineEnd byte := List.forall_mem_nil _
  have blank : ∀ byte ∈ [lineFeed], isLineEnd byte := List.forall_mem_singleton.mpr (by decide)
  have spells : FileText quotedPair.records
      ((inQuotes "n" ++ comma :: Utf8.encode "fq_name") ++ carriageReturn :: ([] ++
        ((Utf8.encode "1" ++ comma :: Utf8.encode "_a") ++ carriageReturn :: ([] ++
          ((inQuotes "2," ++ comma :: inQuotes "b") ++ lineFeed :: ([lineFeed] ++ [])))))) :=
    .cons (.cons (inQuotes_text "n") (.last (.bare (by decide)))) (by decide) (by decide) none
      (.cons (.cons (.bare (by decide)) (.last (.bare (by decide)))) (by decide) (by decide) none
        (.cons (.cons (inQuotes_text "2,") (.last (inQuotes_text "b"))) (by decide) (by decide)
          blank .nil))
  exact ⟨_, by decide +kernel, .marked blank spells⟩

/-- No names that are private or dunder. -/
def noHidden : Request :=
  ⟨"fq_name", AxisSet.ofList [.privateName, .dunder]⟩

/-- From both spellings the same is left, and it is tidy. -/
theorem run_of_spelled_twice :
    quotedPair.Rectangular ∧ quotedPair.SpelledAt spelledTwice ⟨"/a.csv"⟩ ∧
      quotedPair.SpelledAt spelledTwice ⟨"/b.csv"⟩ ∧ spelledTwice.Writable ⟨"/out.csv"⟩ ∧
      ∃ outcome, outcome.table = ⟨["n", "fq_name"], [["2,", "b"]]⟩ ∧
        ∀ input, input = ⟨"/a.csv"⟩ ∨ input = ⟨"/b.csv"⟩ →
          (run spelledTwice input ⟨"/out.csv"⟩ noHidden).result = .ok outcome ∧
            (run spelledTwice input ⟨"/out.csv"⟩ noHidden).files.contentOf ⟨"/out.csv"⟩
              = .ok (Utf8.encode "n,fq_name\n\"2,\",b\n") := by
  have rectangular : quotedPair.Rectangular := by decide
  have spelled := quotedPair_spelledAt_few
  have spelled' := quotedPair_spelledAt_many
  have writable : spelledTwice.Writable ⟨"/out.csv"⟩ :=
    ⟨spelledTwice, spelledTwice.set ["out.csv"] (.file []), by decide +kernel, by decide +kernel⟩
  obtain ⟨-, -, kept, -⟩ := run_of_spelled rectangular noHidden
  obtain ⟨outcome, content, sieved, -, runs⟩ := kept (by decide)
  have left : (run spelledTwice ⟨"/a.csv"⟩ ⟨"/out.csv"⟩ noHidden).files.contentOf ⟨"/out.csv"⟩
      = .ok (Utf8.encode "n,fq_name\n\"2,\",b\n") := by
    decide +kernel
  obtain rfl := Except.ok.inj ((runs _ _ _ spelled writable).2.symm.trans left)
  have survivors : outcome.table = ⟨["n", "fq_name"], [["2,", "b"]]⟩ := by
    have sieved' : quotedPair.sieve noHidden = .ok (quotedPair.outcomeAt noHidden 1) := by
      decide +kernel
    obtain rfl := Except.ok.inj (sieved'.symm.trans sieved)
    decide +kernel
  refine ⟨rectangular, spelled, spelled', writable, outcome, survivors, ?_⟩
  rintro input (rfl | rfl)
  · exact runs _ _ _ spelled writable
  · exact runs _ _ _ spelled' writable

end Pipeline

end NameSieve
