import NameSieve.Command.Filter
import NameSieve.Proofs.AxisSet
import NameSieve.Proofs.Command.Arguments
import NameSieve.Proofs.Pipeline.Steps
import NameSieve.Proofs.Report

/-!
# The command and the run

The command that sieves a file does not call `Pipeline.run`, since it has to report between the
steps.  It does the same to the files all the same, and what it reports is what the outcome of the
run has to report.

* `Job.AskedBy` says of some arguments that they ask for a job, and `reply_eq_perform` that the
  command then does this job, whatever the order of the arguments.
* `perform_of_refused`, `perform_of_absent` and `perform_of_sieved` tell how the job goes; they are
  the counterparts of the lemmas on the steps of a run.

**`reply_agrees`** sets the reply to the arguments beside the run.
-/

namespace NameSieve.FilterCommand

/-! ## Asking for a job -/

/-- The name of the flag that enables an axis. -/
def flagOf : Axis → String
  | .privateName => "filter-private-names"
  | .stdlib => "filter-stdlib-names"
  | .dunder => "filter-dunder-names"

/-- The settings of a job.  The column may be named, and the command may be told to be verbose. -/
def Job.settings (job : Job) (namesColumn isVerbose : Bool) : List (String × String) :=
  [("input", job.input), ("output", job.output)]
    ++ (if namesColumn then [("column-name", job.request.column)] else [])
    ++ job.request.axes.toList.map (fun axis => (flagOf axis, ""))
    ++ (if job.asJson then [("json", "")] else [])
    ++ (if isVerbose then [("verbose", "")] else [])

/-- **The arguments ask for the job**: they give its settings in some order, with one flag for each
axis of the request.  A column that is not named is the default, and no path is an empty text, as
the command takes none for a path. -/
def Job.AskedBy (job : Job) (arguments : List String) : Prop :=
  ∃ namesColumn isVerbose, (namesColumn = false → job.request.column = defaultColumn) ∧
    usage.Gives arguments (job.settings namesColumn isVerbose)

/-- The settings of the command can be told from each other. -/
lemma usage_distinct :
    ∀ setting ∈ usage.settings, setting.DistinctIn (versionFlag :: usage.settings) := by
  intro setting member
  simp only [usage, List.mem_cons, List.not_mem_nil, or_false] at member
  rcases member with rfl | rfl | rfl | rfl | rfl | rfl | rfl | rfl
  all_goals
    refine ⟨rfl, ?_, by decide, by decide, by decide⟩
    intro c short
    cases short
  -- only one of them has a letter
  exact ⟨by decide, rfl⟩

/-- The name of a flag for an axis is no other setting's. -/
lemma flagOf_notMem (axis : Axis) :
    flagOf axis ∉ ["input", "output", "column-name", "json", "verbose"] := by
  cases axis <;> decide

lemma flagOf_injective : Function.Injective flagOf := by
  intro a b same
  cases a <;> cases b <;> first | rfl | exact absurd same (by decide)

section Settings

variable (job : Job) (namesColumn isVerbose : Bool)

lemma names_settings :
    (job.settings namesColumn isVerbose).map Prod.fst
      = ["input", "output"] ++ (if namesColumn then ["column-name"] else [])
        ++ job.request.axes.toList.map flagOf ++ (if job.asJson then ["json"] else [])
        ++ (if isVerbose then ["verbose"] else []) := by
  cases namesColumn <;> cases isVerbose <;> cases h : job.asJson <;> simp [Job.settings, h]

/-- No setting is given twice. -/
lemma settings_once : ((job.settings namesColumn isVerbose).map Prod.fst).Nodup := by
  have all : (["input", "output"] ++ ["column-name"] ++ Axis.all.map flagOf ++ ["json"]
      ++ ["verbose"]).Nodup := by decide
  have optional : ∀ (given : Bool) (name : String),
      (if given then [name] else []).Sublist [name] := by
    intro given name
    cases given <;> simp
  have axes : job.request.axes.toList.Sublist Axis.all := by
    rw [AxisSet.toList_eq_filter_all]
    exact List.filter_sublist
  rw [names_settings]
  exact all.sublist (((((List.Sublist.refl _).append (optional _ _)).append
    (axes.map flagOf)).append (optional _ _)).append (optional _ _))

lemma flagOf_mem_names {axis : Axis} :
    flagOf axis ∈ (job.settings namesColumn isVerbose).map Prod.fst
      ↔ axis ∈ job.request.axes.toList := by
  have other := flagOf_notMem axis
  simp only [List.mem_cons, List.not_mem_nil, or_false, not_or] at other
  rw [names_settings]
  cases namesColumn <;> cases isVerbose <;> cases job.asJson <;>
    simp [other, flagOf_injective.eq_iff]

lemma json_mem_names :
    "json" ∈ (job.settings namesColumn isVerbose).map Prod.fst ↔ job.asJson = true := by
  have other : ∀ axis, flagOf axis ≠ "json" := fun axis same =>
    flagOf_notMem axis (by simp [same])
  rw [names_settings]
  cases namesColumn <;> cases isVerbose <;> cases job.asJson <;> simp [other]

lemma column_mem_names :
    "column-name" ∈ (job.settings namesColumn isVerbose).map Prod.fst ↔ namesColumn = true := by
  have other : ∀ axis, flagOf axis ≠ "column-name" := fun axis same =>
    flagOf_notMem axis (by simp [same])
  rw [names_settings]
  cases namesColumn <;> cases isVerbose <;> cases job.asJson <;> simp [other]

end Settings

/-- The flags of a request enable its axes. -/
lemma request_eq (request : Request) {isPrivate isStdlib isDunder : Bool}
    (privateName : isPrivate = true ↔ .privateName ∈ request.axes.toList)
    (stdlib : isStdlib = true ↔ .stdlib ∈ request.axes.toList)
    (dunder : isDunder = true ↔ .dunder ∈ request.axes.toList) :
    ((Request.withAxisIf { column := request.column } .privateName isPrivate).withAxisIf
      .stdlib isStdlib).withAxisIf .dunder isDunder = request := by
  refine Request.eq_of_mem_iff (by simp only [Request.withAxisIf_column]) fun axis => ?_
  simp only [Request.mem_withAxisIf, privateName, stdlib, dunder]
  cases axis <;> simp [AxisSet.empty]

/-- **The settings of a job are read as the job.** -/
lemma job?_of_perm {job : Job} {namesColumn isVerbose : Bool} {found : Arguments}
    (default : namesColumn = false → job.request.column = defaultColumn)
    (given : found.settings.Perm (job.settings namesColumn isVerbose)) :
    job? found = some job := by
  have once : (found.settings.map Prod.fst).Nodup :=
    (given.map Prod.fst).nodup_iff.mpr (settings_once job namesColumn isVerbose)
  have has : ∀ name, found.has name = true
      ↔ name ∈ (job.settings namesColumn isVerbose).map Prod.fst :=
    fun name => Arguments.has_iff.trans (given.map Prod.fst).mem_iff
  have value : ∀ {name value}, (name, value) ∈ job.settings namesColumn isVerbose →
      found.value? name = some value :=
    fun member => Arguments.value?_of_mem once (given.mem_iff.mpr member)
  have input : found.value? "input" = some job.input := value (by simp [Job.settings])
  have output : found.value? "output" = some job.output := value (by simp [Job.settings])
  have column : (found.value? "column-name").getD defaultColumn = job.request.column := by
    cases namesColumn with
    | true =>
        have named : found.value? "column-name" = some job.request.column :=
          value (by simp [Job.settings])
        rw [named, Option.getD_some]
    | false =>
        have absent : found.has "column-name" = false := by
          rw [Bool.eq_false_iff, ne_eq, has, column_mem_names]
          exact Bool.false_ne_true
        rw [Arguments.has, Option.isSome_eq_false_iff, Option.isNone_iff_eq_none] at absent
        rw [Arguments.value?, absent, Option.getD_none, default rfl]
  have axis : ∀ axis, found.has (flagOf axis) = true ↔ axis ∈ job.request.axes.toList :=
    fun axis => (has _).trans (flagOf_mem_names job namesColumn isVerbose)
  have request := request_eq job.request (axis .privateName) (axis .stdlib) (axis .dunder)
  have asJson : found.has "json" = job.asJson := by
    rw [Bool.eq_iff_iff, has, json_mem_names]
  simp only [flagOf] at request
  simp only [job?, input, output, column, request, asJson]
  rfl

/-! ## Doing the job -/

/-- **What is asked for is done**, in whatever order it is asked for. -/
lemma reply_eq_perform (around : Surroundings) {job : Job} {arguments : List String}
    (asked : job.AskedBy arguments) : reply around arguments = perform around job := by
  obtain ⟨namesColumn, isVerbose, default, gives⟩ := asked
  obtain ⟨found, read, given⟩ :=
    Arguments.read_of_gives usage_distinct gives (settings_once job namesColumn isVerbose)
  simp only [reply, read, job?_of_perm default given]

variable {around : Surroundings} {job : Job}

/-- The path that the job reads. -/
def Job.source (around : Surroundings) (job : Job) : Path :=
  around.directory.join job.input

/-- The path that the job writes. -/
def Job.target (around : Surroundings) (job : Job) : Path :=
  around.directory.join job.output

/-- **The run beside the job.** -/
def Job.run (around : Surroundings) (job : Job) : Pipeline.Run :=
  Pipeline.run around.files (job.source around) (job.target around) job.request

/-- The lines of a text. -/
def lines (texts : List String) : String :=
  String.join (texts.map line)

lemma perform_of_refused {e : Error}
    (refused : Table.load around.files (job.source around) = .error e) :
    (perform around job).code = 1 ∧ (perform around job).output = "" ∧
      (perform around job).files = around.files := by
  rw [Job.source] at refused
  unfold perform
  simp only [refused]
  exact ⟨rfl, rfl, rfl⟩

lemma perform_of_absent {table : Table}
    (loaded : Table.load around.files (job.source around) = .ok table)
    (absent : job.request.column ∉ table.header) :
    (perform around job).code = 1 ∧ (perform around job).output = opening around job table ∧
      (perform around job).files = around.files := by
  rw [Job.source] at loaded
  unfold perform
  simp only [loaded, Table.sieve_eq_error absent]
  exact ⟨rfl, rfl, rfl⟩

/-- Behind the sieve the report is complete, and the rest is saving. -/
lemma perform_of_sieved {table : Table} {outcome : Outcome}
    (loaded : Table.load around.files (job.source around) = .ok table)
    (sieved : table.sieve job.request = .ok outcome) :
    ((perform around job).code = 0
        ↔ (outcome.table.save around.files (job.target around)).failure = none) ∧
      (perform around job).output = opening around job table ++ closing job outcome ∧
      (perform around job).files = (outcome.table.save around.files (job.target around)).files := by
  rw [Job.source] at loaded
  rw [Job.target]
  unfold perform
  simp only [loaded, sieved]
  split
  · next saved =>
      simp only [saved]
      exact ⟨by simp [Reply.failed], rfl, rfl⟩
  · next saved =>
      simp only [saved]
      exact ⟨by simp [Reply.succeeded], rfl, rfl⟩

/-! ## The texts -/

lemma opening_of_json (asJson : job.asJson = true) (around : Surroundings) (table : Table) :
    opening around job table = "" := by
  rw [opening, if_pos asJson]

lemma opening_of_plain (plain : job.asJson = false) (noColor : around.hasColor = false)
    (table : Table) : opening around job table = line (receivedLine table.size) := by
  rw [opening, plain, if_neg Bool.false_ne_true, Surroundings.bold, Surroundings.styled, noColor,
    if_neg Bool.false_ne_true]

/-- The two parts of the plain report are its lines. -/
lemma report_of_plain (plain : job.asJson = false) (noColor : around.hasColor = false)
    {table : Table} {outcome : Outcome} (sieved : table.sieve job.request = .ok outcome) :
    opening around job table ++ closing job outcome = lines outcome.report := by
  obtain ⟨column, -, rfl⟩ := Table.exists_of_sieve_eq_ok sieved
  rw [opening_of_plain plain noColor, closing, plain, if_neg Bool.false_ne_true, lines,
    Outcome.report, List.map_cons, String.join_cons, List.map_map]
  rfl

lemma report_of_json (asJson : job.asJson = true) (around : Surroundings) (table : Table)
    (outcome : Outcome) :
    opening around job table ++ closing job outcome
      = line (Summary.text ⟨outcome.total, outcome.table.rows.length, outcome.excluded⟩) := by
  rw [opening_of_json asJson, closing, if_pos asJson, String.empty_append, Summary.pretty_json]
  rfl

/-! ## The command and the run -/

/-- **What is printed**, by how far the job comes: nothing if there is no table, what the table
gives if it has no such column, and else what the outcome gives, whatever becomes of the saving. -/
structure Prints (around : Surroundings) (job : Job) (output : String)
    (received : Table → String) (account : Outcome → String) : Prop where
  refused : ∀ e, Table.load around.files (job.source around) = .error e → output = ""
  absent : ∀ table, Table.load around.files (job.source around) = .ok table →
    job.request.column ∉ table.header → output = received table
  sieved : ∀ table outcome, Table.load around.files (job.source around) = .ok table →
    table.sieve job.request = .ok outcome → output = account outcome
  succeeded : ∀ outcome, (job.run around).result = .ok outcome → output = account outcome

lemma perform_prints {received : Table → String} {account : Outcome → String}
    (opens : ∀ table, opening around job table = received table)
    (reports : ∀ table outcome, table.sieve job.request = .ok outcome →
      opening around job table ++ closing job outcome = account outcome) :
    Prints around job (perform around job).output received account where
  refused _ refused := (perform_of_refused refused).2.1
  absent table loaded absent := (perform_of_absent loaded absent).2.1.trans (opens table)
  sieved table outcome loaded sieved :=
    (perform_of_sieved loaded sieved).2.1.trans (reports table outcome sieved)
  succeeded outcome ran := by
    obtain ⟨table, loaded, sieved, -⟩ := Pipeline.exists_of_run_eq_ok ran
    exact (perform_of_sieved loaded sieved).2.1.trans (reports table outcome sieved)

/-- The job succeeds with the run, and does the same to the files. -/
lemma perform_run (around : Surroundings) (job : Job) :
    ((perform around job).code = 0 ↔ ∃ outcome, (job.run around).result = .ok outcome) ∧
      (perform around job).files = (job.run around).files := by
  cases loaded : Table.load around.files (job.source around) with
  | error e =>
      obtain ⟨code, -, files⟩ := perform_of_refused loaded
      rw [Job.run, Pipeline.run_of_refused loaded, code, files]
      simp
  | ok table =>
      by_cases present : job.request.column ∈ table.header
      · obtain ⟨column, first⟩ := Table.exists_firstColumn present
        have sieved := Table.sieve_eq_ok first
        obtain ⟨code, -, files⟩ := perform_of_sieved loaded sieved
        obtain ⟨changed, result⟩ := Pipeline.run_of_sieved loaded sieved (job.target around)
        rw [Job.run, code, files, changed, result]
        refine ⟨?_, rfl⟩
        cases (Table.save _ around.files (job.target around)).failure <;> simp
      · obtain ⟨code, -, files⟩ := perform_of_absent loaded present
        rw [Job.run, Pipeline.run_of_absent loaded present, code, files]
        simp

/-- **The command agrees with the run.**  Asked for a job in whatever order, the command exits
with 0 just if the run succeeds, and leaves the same files in any case.  What it prints is the
report of the outcome, or the text of a summary of its counts, as far as the job comes. -/
theorem reply_agrees (around : Surroundings) {job : Job} {arguments : List String}
    (asked : job.AskedBy arguments) :
    ((reply around arguments).code = 0 ↔ ∃ outcome, (job.run around).result = .ok outcome) ∧
    (reply around arguments).files = (job.run around).files ∧
    (job.asJson = false → around.hasColor = false →
      Prints around job (reply around arguments).output
        (fun table => line (receivedLine table.size)) (fun outcome => lines outcome.report)) ∧
    (job.asJson = true →
      Prints around job (reply around arguments).output
        (fun _ => "") (fun outcome =>
          line (Summary.text ⟨outcome.total, outcome.table.rows.length, outcome.excluded⟩))) := by
  rw [reply_eq_perform around asked]
  obtain ⟨code, files⟩ := perform_run around job
  refine ⟨code, files, fun plain noColor => ?_, fun asJson => ?_⟩
  · exact perform_prints (opening_of_plain plain noColor)
      fun _ _ sieved => report_of_plain plain noColor sieved
  · exact perform_prints (opening_of_json asJson around)
      fun table outcome _ => report_of_json asJson around table outcome

/-- A directory with one file, which has a row for each of two axes. -/
def lone : Surroundings where
  files := ⟨[(["w"], .directory),
    (["w", "in.csv"], .file (Utf8.encode "fq_name\n_a\nb.__c__\npkg\n"))]⟩
  directory := ⟨"/w"⟩
  hasColor := false

/-- A job that can be done up to the saving, as the file stands in the way of its output. -/
def blockedJob : Job :=
  ⟨"in.csv", "in.csv/out.csv", ⟨"fq_name", AxisSet.ofList [.privateName, .dunder]⟩, false⟩

/-- Flags, a letter and both kinds of values, in no special order. -/
def scrambled : List String :=
  ["--filter-dunder-names", "--output=in.csv/out.csv", "-v", "--filter-private-names", "--input",
    "in.csv"]

lemma blockedJob_askedBy : blockedJob.AskedBy scrambled := by
  refine ⟨false, true, fun _ => rfl,
    [("filter-dunder-names", ""), ("output", "in.csv/out.csv"), ("verbose", ""),
      ("filter-private-names", ""), ("input", "in.csv")],
    [["--filter-dunder-names"], ["--output=in.csv/out.csv"], ["-v"], ["--filter-private-names"],
      ["--input", "in.csv"]], by decide, rfl, ?_⟩
  refine .cons ⟨{ name := "filter-dunder-names" }, by simp [usage], rfl, .flag rfl⟩
    (.cons ⟨{ name := "output", accepts := some isFilled }, by simp [usage], rfl,
      .joined rfl (by decide)⟩
    (.cons ⟨{ name := "verbose", letter := some 'v' }, by simp [usage], rfl, .letter rfl rfl⟩
    (.cons ⟨{ name := "filter-private-names" }, by simp [usage], rfl, .flag rfl⟩
    (.cons ⟨{ name := "input", accepts := some isFilled }, by simp [usage], rfl,
      .apart rfl (by decide) (by decide)⟩ .nil))))

/-- A job that makes the directory for its output. -/
def jsonJob : Job :=
  ⟨"in.csv", "new/out.csv", ⟨"fq_name", AxisSet.ofList [.privateName, .dunder]⟩, true⟩

/-- The same in another order, with a name for the column. -/
def reordered : List String :=
  ["--json", "--column-name", "fq_name", "--filter-private-names", "--output=new/out.csv",
    "--filter-dunder-names", "--input=in.csv"]

lemma jsonJob_askedBy : jsonJob.AskedBy reordered := by
  refine ⟨true, false, nofun,
    [("json", ""), ("column-name", "fq_name"), ("filter-private-names", ""),
      ("output", "new/out.csv"), ("filter-dunder-names", ""), ("input", "in.csv")],
    [["--json"], ["--column-name", "fq_name"], ["--filter-private-names"],
      ["--output=new/out.csv"], ["--filter-dunder-names"], ["--input=in.csv"]],
    by decide, rfl, ?_⟩
  refine .cons ⟨{ name := "json" }, by simp [usage], rfl, .flag rfl⟩
    (.cons ⟨{ name := "column-name", accepts := some fun _ => true }, by simp [usage], rfl,
      .apart rfl rfl (by decide)⟩
    (.cons ⟨{ name := "filter-private-names" }, by simp [usage], rfl, .flag rfl⟩
    (.cons ⟨{ name := "output", accepts := some isFilled }, by simp [usage], rfl,
      .joined rfl (by decide)⟩
    (.cons ⟨{ name := "filter-dunder-names" }, by simp [usage], rfl, .flag rfl⟩
    (.cons ⟨{ name := "input", accepts := some isFilled }, by simp [usage], rfl,
      .joined rfl (by decide)⟩ .nil)))))

/-- What both jobs come to. -/
def thinned : Outcome :=
  ⟨⟨["fq_name"], [["pkg"]]⟩, 3, "fq_name", 0, [⟨⟨.privateName, 1⟩, 3⟩, ⟨⟨.dunder, 1⟩, 2⟩]⟩

/-- The report stands, although the first run fails in the end; the second succeeds, and its counts
are printed as JSON. -/
theorem reply_agrees_blocked :
    (blockedJob.AskedBy scrambled ∧
      (blockedJob.run lone).result = .error (.io (.file .alreadyExists)) ∧
      (reply lone scrambled).code ≠ 0 ∧
      (reply lone scrambled).output
        = "Received 3 FQ names.\nFiltered 1 private names.\nFiltered 1 dunder names.\n") ∧
    jsonJob.AskedBy reordered ∧
      (jsonJob.run lone).result = .ok thinned ∧
      (reply lone reordered).code = 0 ∧
      (reply lone reordered).files.contentOf ⟨"/w/new/out.csv"⟩
        = .ok (Utf8.encode "fq_name\npkg\n") ∧
      (reply lone reordered).output
        = "\x7b\n  \"total\": 3,\n  \"kept\": 1,\n  \"excluded\": [\n"
          ++ "    \x7b\n      \"axis\": \"private\",\n      \"removed\": 1\n    \x7d,\n"
          ++ "    \x7b\n      \"axis\": \"dunder\",\n      \"removed\": 1\n    \x7d\n"
          ++ "  ]\n\x7d\n" := by
  constructor
  · obtain ⟨code, -, plain, -⟩ := reply_agrees lone blockedJob_askedBy
    have failed : (blockedJob.run lone).result = .error (.io (.file .alreadyExists)) := by
      decide +kernel
    have loaded : Table.load lone.files (blockedJob.source lone)
        = .ok ⟨["fq_name"], [["_a"], ["b.__c__"], ["pkg"]]⟩ := by decide +kernel
    have sieved : (Table.mk ["fq_name"] [["_a"], ["b.__c__"], ["pkg"]]).sieve blockedJob.request
        = .ok thinned := by decide +kernel
    refine ⟨blockedJob_askedBy, failed, ?_, ?_⟩
    · intro zero
      obtain ⟨outcome, succeeded⟩ := code.mp zero
      rw [failed] at succeeded
      cases succeeded
    · rw [(plain rfl rfl).sieved _ _ loaded sieved]
      decide +kernel
  · obtain ⟨code, files, -, json⟩ := reply_agrees lone jsonJob_askedBy
    have ran : (jsonJob.run lone).result = .ok thinned := by decide +kernel
    refine ⟨jsonJob_askedBy, ran, code.mpr ⟨thinned, ran⟩, ?_, ?_⟩
    · rw [files]
      decide +kernel
    · rw [(json rfl).succeeded thinned ran]
      decide +kernel

end NameSieve.FilterCommand
