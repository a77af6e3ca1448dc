import NameSieve.Json

/-!
# The registry of analyzers

An analyzer has a name, a file that it writes, and the language that it works on.  A registry is
a list of analyzers; `Analyzer.find` looks a name up, and accepts exactly one match.
-/

namespace NameSieve

/-- The language of the sources that an analyzer works on. -/
inductive Language where
  | kotlin
  | python
deriving DecidableEq

namespace Language

def label : Language → String
  | kotlin => "kotlin"
  | python => "python"

def ofLabel? (word : String) : Option Language :=
  [kotlin, python].find? fun language => language.label == word

end Language

structure Analyzer where
  name : String
  outputFile : String
  language : Language
deriving DecidableEq

namespace Analyzer

def json (analyzer : Analyzer) : Json :=
  .object [("name", .string analyzer.name), ("output_file", .string analyzer.outputFile),
    ("language", .string analyzer.language.label)]

def available : List Analyzer := [
  ⟨"kotlin-dependencies", "import_directives_data.csv", .kotlin⟩,
  ⟨"kotlin-clones", "method_data.txt", .kotlin⟩,
  ⟨"kotlin-ranges", "ranges_data.csv", .kotlin⟩,
  ⟨"kotlin-project-tags", "project_tags_data.csv", .kotlin⟩,
  ⟨"kotlin-gradle-dependencies", "gradle_dependencies_data.csv", .kotlin⟩,
  ⟨"kotlin-gradle-properties", "gradle_properties_data.csv", .kotlin⟩,
  ⟨"kotlin-gradle-plugins", "gradle_plugins_data.csv", .kotlin⟩,
  ⟨"python-dependencies", "import_statements_data.csv", .python⟩,
  ⟨"python-call-expressions-analysis", "call_expressions_data.csv", .python⟩]

def names (registry : List Analyzer) : List String :=
  registry.map name

def named (registry : List Analyzer) (name : String) : List Analyzer :=
  registry.filter fun analyzer => analyzer.name == name

/-- Why a name was not resolved: the name, and the names of what was found instead of exactly one
analyzer. -/
structure LookupError where
  name : String
  found : List String
deriving DecidableEq

/-- The one analyzer of a registry that has the name. -/
def find (registry : List Analyzer) (name : String) : Except LookupError Analyzer :=
  match named registry name with
  | [analyzer] => .ok analyzer
  | others => .error ⟨name, names others⟩

end Analyzer

end NameSieve
