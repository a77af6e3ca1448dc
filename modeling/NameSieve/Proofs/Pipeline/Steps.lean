import NameSieve.Pipeline
import NameSieve.Proofs.Sieve.Account

/-!
# The steps of a run

A run loads a table, sieves it and saves what is left.  It ends at the first step that fails:
`run_of_refused` and `run_of_absent` are the ends before the saving, and behind the sieve a run is
what saving makes of it (`run_of_sieved`).

**`run_eq_ok`** takes a run that succeeds apart into its steps, and puts it together from them.
-/

namespace NameSieve.Pipeline

open Table

/-! ## Where a run ends -/

section Ends

variable {files : FileSystem} {input : Path} {request : Request} {table : Table}

lemma run_of_refused {e : Error} (refused : Table.load files input = .error e) (output : Path)
    (request : Request) : run files input output request = ⟨files, [], .error e⟩ := by
  rw [run, refused]

lemma run_of_absent (loaded : Table.load files input = .ok table)
    (absent : request.column ∉ table.header) (output : Path) :
    run files input output request
      = ⟨files, [readLine table.size input], .error (.missingColumn ⟨request.column⟩)⟩ := by
  simp only [run, loaded, sieve_eq_error absent]

/-- Behind a sieve a run is what saving makes of it. -/
lemma run_of_sieved {outcome : Outcome} (loaded : Table.load files input = .ok table)
    (sieved : table.sieve request = .ok outcome) (output : Path) :
    (run files input output request).files = (outcome.table.save files output).files ∧
      (run files input output request).result
        = (outcome.table.save files output).failure.elim (.ok outcome) .error := by
  simp only [run, loaded, sieved]
  split
  · next saved => simp only [saved, Option.elim_some, and_self]
  · next saved => simp only [saved, Option.elim_none, and_self]

end Ends

/-! ## Runs that succeed -/

/-- **What a run that succeeds has done.** -/
lemma run_eq_ok {files after : FileSystem} {input output : Path} {request : Request}
    {trace : List String} {outcome : Outcome} :
    run files input output request = ⟨after, trace, .ok outcome⟩
      ↔ ∃ table column, Table.load files input = .ok table ∧
          table.FirstColumn request.column column ∧ table.outcomeAt request column = outcome ∧
          outcome.table.save files output = ⟨after, none⟩ ∧
          readLine table.size input :: outcome.trace ++ [wroteLine outcome.table.size output]
            = trace := by
  constructor
  · intro ran
    rw [run] at ran
    split at ran
    · cases (Run.mk.inj ran).2.2
    · next table loaded =>
        cases found : table.columnIndex? request.column with
        | none =>
            rw [sieve_eq_error (columnIndex?_eq_none.mp found)] at ran
            cases (Run.mk.inj ran).2.2
        | some column =>
            have first := columnIndex?_eq_some.mp found
            simp only [sieve_eq_ok first] at ran
            split at ran
            · cases (Run.mk.inj ran).2.2
            · next saved =>
                obtain ⟨rfl, lines, same⟩ := Run.mk.inj ran
                obtain rfl := Except.ok.inj same
                exact ⟨table, column, loaded, first, rfl, saved, lines⟩
  · rintro ⟨table, column, loaded, first, rfl, saved, rfl⟩
    simp only [run, loaded, sieve_eq_ok first, saved]

/-- A run that succeeds has loaded, sieved and saved. -/
lemma exists_of_run_eq_ok {files : FileSystem} {input output : Path} {request : Request}
    {outcome : Outcome} (ran : (run files input output request).result = .ok outcome) :
    ∃ table, Table.load files input = .ok table ∧ table.sieve request = .ok outcome ∧
      outcome.table.save files output = ⟨(run files input output request).files, none⟩ := by
  cases whole : run files input output request with
  | mk after trace result =>
      rw [whole] at ran
      obtain rfl : result = .ok outcome := ran
      obtain ⟨table, column, loaded, first, rfl, saved, -⟩ := run_eq_ok.mp whole
      exact ⟨table, loaded, sieve_eq_ok first, saved⟩

end NameSieve.Pipeline
