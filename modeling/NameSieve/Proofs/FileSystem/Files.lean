import Mathlib.Tactic
import NameSieve.FileSystem.Basic

/-!
# Files that are put and read

A file that has been put at a path is what is read there: `contentOf_of_putFile`.  The one danger
is that the new file stands in the way of the path itself, and it does not: a path leads through
directories only, and a file is never put in the place of one (`walk_set_file`).

`Writable` says of a path that a file can be put there, after the missing directories on the way
have been made.  Whether it can does not hang on what the file is to hold (`putFile_eq_ok`).
-/

namespace NameSieve.FileSystem

/-! ## Entries -/

lemma entry?_set_self (files : FileSystem) {place : Place} (below : place ≠ []) (entry : Entry) :
    entry? (files.set place entry) place = some entry := by
  unfold entry?
  rw [if_neg (by simpa using below), set, List.lookup_cons_self]

lemma entry?_set_of_ne (files : FileSystem) {place other : Place} (differ : other ≠ place)
    (entry : Entry) : entry? (files.set place entry) other = files.entry? other := by
  have found : ∀ entries : List (Place × Entry),
      (entries.filter fun e => e.1 ≠ place).lookup other = entries.lookup other := by
    intro entries
    induction entries with
    | nil => rfl
    | cons first rest ih =>
        obtain ⟨here, held⟩ := first
        by_cases same : here = place
        · have elsewhere : (other == here) = false := by simpa [same] using differ
          rw [List.filter_cons_of_neg (by simpa using same), ih, List.lookup_cons, elsewhere]
        · rw [List.filter_cons_of_pos (by simpa using same), List.lookup_cons, List.lookup_cons, ih]
  have elsewhere : (other == place) = false := by simpa using differ
  unfold entry?
  rw [set, List.lookup_cons, elsewhere, found]

/-! ## Walking -/

lemma requireDirectory_eq_ok {files : FileSystem} {place : Place} :
    files.requireDirectory place = .ok () ↔ files.entry? place = some .directory := by
  rw [requireDirectory]
  split
  · next h => simp [h]
  · next h => simp [h]
  · next h => simp [h]

lemma walk_cons {files : FileSystem} {place : Place} {segment : String} {rest : List String}
    (here : files.entry? place = some .directory) :
    files.walk place (segment :: rest) = files.walk (follow place segment) rest := by
  rw [walk, requireDirectory_eq_ok.mpr here]

/-- A walk that arrives has gone through a directory. -/
lemma directory_of_walk_cons {files : FileSystem} {place arrived : Place} {segment : String}
    {rest : List String} (walked : files.walk place (segment :: rest) = .ok arrived) :
    files.entry? place = some .directory ∧
      files.walk (follow place segment) rest = .ok arrived := by
  rw [walk] at walked
  split at walked
  · cases walked
  · next h => exact ⟨requireDirectory_eq_ok.mp h, walked⟩

/-- A walk goes on where another has arrived. -/
lemma walk_append {files : FileSystem} {place arrived : Place} {segments : List String}
    (walked : files.walk place segments = .ok arrived) (more : List String) :
    files.walk place (segments ++ more) = files.walk arrived more := by
  induction segments generalizing place with
  | nil =>
      obtain rfl := Except.ok.inj walked
      rfl
  | cons segment rest ih =>
      obtain ⟨here, walked⟩ := directory_of_walk_cons walked
      rw [List.cons_append, walk_cons here, ih walked]

/-- **A new file is in nobody's way**: a walk leads through directories, and the file does not take
the place of one. -/
lemma walk_set_file {files : FileSystem} {place arrived file : Place} {segments : List String}
    (walked : files.walk place segments = .ok arrived)
    (noDirectory : files.entry? file ≠ some .directory) (content : Bytes) :
    (files.set file (.file content)).walk place segments = .ok arrived := by
  induction segments generalizing place with
  | nil => exact walked
  | cons segment rest ih =>
      obtain ⟨here, walked⟩ := directory_of_walk_cons walked
      have differ : place ≠ file := by
        rintro rfl
        exact noDirectory here
      rw [walk_cons ((entry?_set_of_ne files differ _).trans here), ih walked]

/-! ## Putting a file -/

/-- The place for a new entry is a name in a directory that the path leads to. -/
lemma newPlace_eq_some {files : FileSystem} {segments : List String} {place : Place}
    (found : files.newPlace segments = .ok (some place)) :
    ∃ directory last, segments = segments.dropLast ++ [last] ∧
      files.walk [] segments.dropLast = .ok directory ∧
      files.entry? directory = some .directory ∧ follow directory last = place ∧ place ≠ [] := by
  rw [newPlace] at found
  split at found
  · cases found
  · next last hlast =>
      split at found
      · cases found
      · next directory walked =>
          split at found
          · cases found
          · next here =>
              split_ifs at found with dots
              · cases found
              · obtain rfl := Option.some.inj (Except.ok.inj found)
                obtain ⟨noDot, noDots⟩ := not_or.mp dots
                refine ⟨directory, last, ?_, walked, requireDirectory_eq_ok.mp here, ?_, by simp⟩
                · exact (List.dropLast_append_getLast? last hlast).symm
                · rw [follow, if_neg noDot, if_neg noDots]

/-- A file can be put at the path, and then stands at the place. -/
structure Opens (files : FileSystem) (path : Path) (place : Place) : Prop where
  found : files.newPlace path.segments = .ok (some place)
  noDirectory : files.entry? place ≠ some .directory
  noSlash : path.hasSlash = false

/-- **What putting a file does**, and that it does not hang on the content whether it can be
done. -/
lemma putFile_eq_ok {files final : FileSystem} {path : Path} {content : Bytes} :
    files.putFile path content = .ok final
      ↔ ∃ place, files.Opens path place ∧ files.set place (.file content) = final := by
  constructor
  · intro put
    rw [putFile] at put
    split at put
    · cases put
    · cases put
    · next place found =>
        split_ifs at put with refused
        obtain ⟨noDirectory, noSlash⟩ := not_or.mp refused
        exact ⟨place, ⟨found, noDirectory, eq_false_of_ne_true noSlash⟩, Except.ok.inj put⟩
  · rintro ⟨place, ⟨found, noDirectory, noSlash⟩, rfl⟩
    have accepted : ¬(files.entry? place = some .directory ∨ path.hasSlash = true) :=
      not_or.mpr ⟨noDirectory, ne_true_of_eq_false noSlash⟩
    simp only [putFile, found, if_neg accepted]

/-- **What has been put is what is read.** -/
theorem contentOf_of_putFile {files final : FileSystem} {path : Path} {content : Bytes}
    (put : files.putFile path content = .ok final) : final.contentOf path = .ok content := by
  obtain ⟨place, ⟨found, noDirectory, noSlash⟩, rfl⟩ := putFile_eq_ok.mp put
  obtain ⟨directory, last, hsegments, walked, here, hplace, below⟩ := newPlace_eq_some found
  have differ : directory ≠ place := by
    rintro rfl
    exact noDirectory here
  have arrives : (files.set place (.file content)).walk [] path.segments = .ok place := by
    rw [hsegments, walk_append (walk_set_file walked noDirectory content),
      walk_cons ((entry?_set_of_ne files differ _).trans here), hplace, walk]
  have leads : (files.set place (.file content)).find path.segments = .ok (.file content) := by
    rw [find, arrives]
    simp only [entry?_set_self files below]
  rw [contentOf, leads]
  simp [noSlash]

/-! ## Writable paths -/

/-- **A path is writable** if the directories on the way to it can be made and an empty file can be
put there. -/
def Writable (files : FileSystem) (path : Path) : Prop :=
  ∃ made final, files.createDirectories path.parentSteps = ⟨made, none⟩ ∧
    made.putFile path [] = .ok final

/-- At a writable path any content can be put, and is read there afterwards. -/
lemma Writable.putFile {files : FileSystem} {path : Path} (writable : files.Writable path)
    (content : Bytes) :
    ∃ made final, files.createDirectories path.parentSteps = ⟨made, none⟩ ∧
      made.putFile path content = .ok final ∧ final.contentOf path = .ok content := by
  obtain ⟨made, empty, hmade, put⟩ := writable
  obtain ⟨place, opens, -⟩ := putFile_eq_ok.mp put
  have put' : made.putFile path content = .ok (made.set place (.file content)) :=
    putFile_eq_ok.mpr ⟨place, opens, rfl⟩
  exact ⟨made, _, hmade, put', contentOf_of_putFile put'⟩

end NameSieve.FileSystem
