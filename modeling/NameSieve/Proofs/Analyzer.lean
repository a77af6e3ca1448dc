import Mathlib.Data.List.Nodup
import Mathlib.Data.List.Perm.Basic
import Mathlib.Tactic
import NameSieve.Analyzer

/-!
# Looking analyzers up

A lookup accepts a name that stands at exactly one position of a registry.  What it has to go by is
the list of all analyzers of that name, and of that list three things are told.

* `named_eq_singleton`: it has one member if one position carries the name, and that is the
  analyzer there.
* `names_named`: the names in it are copies of the name looked for, as many as the registry has.
* `find_of_perm`: reordering a registry reorders it, which changes neither a single member nor a
  number of copies.

**`find_resolves`** is the law of lookups, with what follows for a whole registry: its names are
all resolved if no two are the same, and only then.
-/

namespace NameSieve.Analyzer

variable {registry : List Analyzer} {name : String} {analyzer first : Analyzer}

/-! ## Positions of a name -/

/-- **The one position** of a registry that carries the name. -/
def OnlyAt (registry : List Analyzer) (name : String) (position : Nat) : Prop :=
  ∀ other, (names registry)[other]? = some name ↔ other = position

/-- An analyzer of the name leaves no place for another one. -/
lemma onlyAt_cons_of_eq (same : first.name = name) {position : Nat} :
    OnlyAt (first :: registry) name position ↔ position = 0 ∧ name ∉ names registry := by
  have here : (names (first :: registry))[0]? = some name := congrArg some same
  constructor
  · intro only
    obtain rfl : 0 = position := (only 0).mp here
    refine ⟨rfl, fun member => ?_⟩
    obtain ⟨other, carries⟩ := List.mem_iff_getElem?.mp member
    exact Nat.succ_ne_zero other ((only (other + 1)).mp carries)
  · rintro ⟨rfl, absent⟩ other
    cases other with
    | zero => exact iff_of_true here rfl
    | succ other =>
        refine iff_of_false (fun carries => absent ?_) (Nat.succ_ne_zero other)
        exact List.mem_iff_getElem?.mpr ⟨other, carries⟩

/-- An analyzer of another name only moves the position. -/
lemma onlyAt_cons_of_ne (differ : first.name ≠ name) {position : Nat} :
    OnlyAt (first :: registry) name position
      ↔ ∃ before, position = before + 1 ∧ OnlyAt registry name before := by
  have notHere : (names (first :: registry))[0]? ≠ some name :=
    fun here => differ (Option.some.inj here)
  constructor
  · intro only
    cases position with
    | zero => exact absurd ((only 0).mpr rfl) notHere
    | succ before =>
        exact ⟨before, rfl, fun other => (only (other + 1)).trans Nat.succ_inj⟩
  · rintro ⟨before, rfl, only⟩ other
    cases other with
    | zero => exact iff_of_false notHere (Nat.succ_ne_zero before).symm
    | succ other => exact (only other).trans Nat.succ_inj.symm

/-- A position carries the name of the analyzer there. -/
lemma getElem?_names {position : Nat} : (names registry)[position]? = some name
    ↔ ∃ analyzer, registry[position]? = some analyzer ∧ analyzer.name = name := by
  rw [names, List.getElem?_map, Option.map_eq_some_iff]

/-- Some position is the one that carries the name if exactly one does. -/
lemma exists_onlyAt : (∃ position, OnlyAt registry name position)
    ↔ ∃! position : Nat, (names registry)[position]? = some name := by
  refine exists_congr fun position => ⟨fun only => ?_, fun ⟨here, unique⟩ other => ?_⟩
  · exact ⟨(only position).mpr rfl, fun other => (only other).mp⟩
  · exact ⟨unique other, fun same => same ▸ here⟩

/-! ## Analyzers of one name -/

lemma named_cons_of_eq (same : first.name = name) :
    named (first :: registry) name = first :: named registry name :=
  List.filter_cons_of_pos (beq_iff_eq.mpr same)

lemma named_cons_of_ne (differ : first.name ≠ name) :
    named (first :: registry) name = named registry name :=
  List.filter_cons_of_neg fun same => differ (beq_iff_eq.mp same)

lemma named_eq_nil : named registry name = [] ↔ name ∉ names registry := by
  simp [named, names]

/-- **One analyzer has the name** if one position carries it, and it is the one that stands
there. -/
lemma named_eq_singleton :
    named registry name = [analyzer]
      ↔ ∃ position, registry[position]? = some analyzer ∧ OnlyAt registry name position := by
  induction registry with
  | nil => simp [named]
  | cons first rest ih =>
      by_cases same : first.name = name
      · rw [named_cons_of_eq same, List.cons.injEq, named_eq_nil]
        simp [onlyAt_cons_of_eq same]
      · rw [named_cons_of_ne same, ih]
        simp [onlyAt_cons_of_ne same]

/-- **Copies of the name**, as many as the registry has. -/
lemma names_named :
    names (named registry name) = List.replicate ((names registry).count name) name := by
  induction registry with
  | nil => rfl
  | cons first rest ih =>
      have names_cons : names (first :: rest) = first.name :: names rest := rfl
      by_cases same : first.name = name
      · rw [named_cons_of_eq same, names_cons, same, List.count_cons_self, List.replicate_succ,
          ← ih, ← same]
        rfl
      · rw [named_cons_of_ne same, names_cons, List.count_cons_of_ne same, ih]

lemma length_named : (named registry name).length = (names registry).count name := by
  rw [← List.length_map Analyzer.name, ← names, names_named, List.length_replicate]

/-! ## Lookups -/

lemma find_eq_ok : find registry name = .ok analyzer ↔ named registry name = [analyzer] := by
  rw [find]
  split
  · next found matched => simp [matched]
  · next several => exact ⟨nofun, fun single => absurd single (several analyzer)⟩

/-- **A lookup that succeeds** has found the analyzer at the one position of the name. -/
lemma find_eq_ok_iff_onlyAt : find registry name = .ok analyzer
    ↔ ∃ position : Nat, registry[position]? = some analyzer ∧ OnlyAt registry name position :=
  find_eq_ok.trans named_eq_singleton

lemma exists_find_iff_onlyAt : (∃ analyzer, find registry name = .ok analyzer)
    ↔ ∃ position, OnlyAt registry name position := by
  constructor
  · rintro ⟨analyzer, found⟩
    obtain ⟨position, -, only⟩ := find_eq_ok_iff_onlyAt.mp found
    exact ⟨position, only⟩
  · rintro ⟨position, only⟩
    obtain ⟨analyzer, stands, -⟩ := getElem?_names.mp ((only position).mpr rfl)
    exact ⟨analyzer, find_eq_ok_iff_onlyAt.mpr ⟨position, stands, only⟩⟩

/-- **A name that does not stand there exactly once** is refused, with as many copies of it as
there are. -/
lemma find_eq_error (several : (names registry).count name ≠ 1) :
    find registry name = .error ⟨name, List.replicate ((names registry).count name) name⟩ := by
  rw [find]
  split
  · next found matched =>
      refine absurd ?_ several
      rw [← length_named, matched, List.length_singleton]
  · rw [names_named]

lemma exists_find_eq_ok :
    (∃ analyzer, find registry name = .ok analyzer) ↔ (names registry).count name = 1 := by
  simp only [find_eq_ok, ← length_named, List.length_eq_one_iff]

/-- **The order of a registry does not matter** to a lookup. -/
lemma find_of_perm {other : List Analyzer} (perm : other.Perm registry) :
    find other name = find registry name := by
  have counts : (names other).count name = (names registry).count name :=
    (perm.map Analyzer.name).count_eq name
  by_cases once : (names registry).count name = 1
  · obtain ⟨analyzer, found⟩ := exists_find_eq_ok.mpr once
    have members : (named other name).Perm (named registry name) := perm.filter _
    rw [find_eq_ok.mp found, List.perm_singleton] at members
    rw [found, find_eq_ok.mpr members]
  · rw [find_eq_error once, find_eq_error (counts ▸ once), counts]

/-! ## Whole registries -/

/-- All names are resolved if no two are the same, and only then. -/
lemma resolved_iff_nodup :
    (∀ name ∈ names registry, ∃ analyzer, find registry name = .ok analyzer)
      ↔ (names registry).Nodup := by
  simp only [exists_find_eq_ok, List.nodup_iff_count_eq_one]

/-- In a registry of different names each position is the only one of its name. -/
lemma onlyAt_of_nodup (distinct : (names registry).Nodup) {position : Nat}
    (here : (names registry)[position]? = some name) : OnlyAt registry name position := by
  intro other
  refine ⟨fun there => ?_, fun same => same ▸ here⟩
  obtain ⟨inside, -⟩ := List.getElem?_eq_some_iff.mp there
  exact (List.getElem?_inj inside distinct).mp (there.trans here.symm)

/-- **The law of lookups.**  A lookup finds the analyzer at the one position that carries the name.
If not exactly one does, it fails with the name and with as many copies of it as there are, which
is never one.  The order of the registry does not matter.  And the names of a registry are all
resolved if and only if no two are the same; then a lookup takes each name back to the analyzer
that it stands with. -/
theorem find_resolves (registry : List Analyzer) (name : String) :
    ((∃ analyzer, find registry name = .ok analyzer)
      ↔ ∃! position : Nat, (names registry)[position]? = some name) ∧
    (∀ analyzer, find registry name = .ok analyzer ↔
      ∃ position : Nat, registry[position]? = some analyzer ∧
        ∀ other : Nat, (names registry)[other]? = some name ↔ other = position) ∧
    ((¬∃! position : Nat, (names registry)[position]? = some name) →
      (names registry).count name ≠ 1 ∧
      find registry name = .error ⟨name, List.replicate ((names registry).count name) name⟩) ∧
    (∀ other : List Analyzer, other.Perm registry → find other name = find registry name) ∧
    ((∀ own ∈ names registry, ∃ analyzer, find registry own = .ok analyzer)
      ↔ (names registry).Nodup) ∧
    ((names registry).Nodup → ∀ (position : Nat) (own : String),
      (names registry)[position]? = some own →
      ∃ analyzer, registry[position]? = some analyzer ∧ find registry own = .ok analyzer) := by
  refine ⟨exists_find_iff_onlyAt.trans exists_onlyAt, fun analyzer => find_eq_ok_iff_onlyAt, ?_,
    fun other => find_of_perm, resolved_iff_nodup, ?_⟩
  · intro several
    rw [← exists_onlyAt, ← exists_find_iff_onlyAt, exists_find_eq_ok] at several
    exact ⟨several, find_eq_error several⟩
  · intro distinct position own here
    obtain ⟨analyzer, stands, -⟩ := getElem?_names.mp here
    have only := onlyAt_of_nodup distinct here
    exact ⟨analyzer, stands, find_eq_ok_iff_onlyAt.mpr ⟨position, stands, only⟩⟩

/-- No two of the analyzers that are available have the same name, and so the eighth name is taken
back to the eighth analyzer, also if the list is reversed. -/
theorem find_resolves_available :
    (names available).Nodup ∧ (names available)[7]? = some "python-dependencies" ∧
    available.reverse.Perm available ∧
    find available.reverse "python-dependencies"
      = .ok ⟨"python-dependencies", "import_statements_data.csv", .python⟩ := by
  have distinct : (names available).Nodup := by decide
  have here : (names available)[7]? = some "python-dependencies" := by decide
  have perm : available.reverse.Perm available := List.reverse_perm available
  obtain ⟨-, -, -, reordered, -, resolved⟩ := find_resolves available "python-dependencies"
  obtain ⟨analyzer, stands, found⟩ := resolved distinct 7 "python-dependencies" here
  have eighth : available[7]?
      = some ⟨"python-dependencies", "import_statements_data.csv", .python⟩ := rfl
  obtain rfl := Option.some.inj (eighth.symm.trans stands)
  exact ⟨distinct, here, perm, (reordered available.reverse perm).trans found⟩

end NameSieve.Analyzer
