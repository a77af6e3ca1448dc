import Mathlib.Tactic
import NameSieve.Report

/-!
# The text of a summary

A summary is written by way of a JSON value, on lines of their own for its members and for those of
its exclusions.  This file says what the text is, blanks and line breaks included.

* `Exclusion.text`, `exclusionsText` and `Summary.text` are the text, told without the value.
* `quote_of_plain`: a text without special characters stands between quotes as it is.  So do the
  names of the members and the labels of the axes.

**`Summary.pretty_json`** says that this text is what is written.
-/

namespace NameSieve

open Json

/-! ## The text -/

/-- The text of an exclusion, from the line break before it on. -/
def Exclusion.text (exclusion : Exclusion) : String :=
  "\n    \x7b\n      \"axis\": \"" ++ exclusion.axis.label ++ "\",\n      \"removed\": "
    ++ toString exclusion.removed ++ "\n    \x7d"

/-- The texts of exclusions, with commas between them. -/
def exclusionsText : List Exclusion → String
  | [] => ""
  | [exclusion] => exclusion.text
  | exclusion :: rest => exclusion.text ++ "," ++ exclusionsText rest

/-- **The text of a summary**: the rows received, the rows kept, and a list of what each enabled
axis removed. -/
def Summary.text (summary : Summary) : String :=
  "\x7b\n  \"total\": " ++ toString summary.total ++ ",\n  \"kept\": " ++ toString summary.kept
    ++ ",\n  \"excluded\": "
    ++ (if summary.excluded = [] then "[]" else "[" ++ exclusionsText summary.excluded ++ "\n  ]")
    ++ "\n\x7d"

/-! ## Quoted texts -/

lemma quote_of_plain {text : String} (plain : text.toList.all fun c => escapeChar c = [c]) :
    quote text = "\"" ++ text ++ "\"" := by
  have alone : ∀ c ∈ text.toList, escapeChar c = [c] := by simpa using plain
  have kept : text.toList.flatMap escapeChar = text.toList :=
    (List.flatMap_congr alone).trans (List.flatMap_singleton' _)
  rw [quote, kept, String.ofList_append, ← List.singleton_append, String.ofList_append,
    String.ofList_toList]

lemma quote_label (axis : Axis) : quote axis.label = "\"" ++ axis.label ++ "\"" :=
  quote_of_plain (by cases axis <;> decide)

/-! ## What is written -/

lemma newline_zero : newline 0 = "\n" := by
  decide +kernel

lemma newline_one : newline 1 = "\n  " := by
  decide +kernel

lemma newline_two : newline 2 = "\n    " := by
  decide +kernel

lemma newline_three : newline 3 = "\n      " := by
  decide +kernel

lemma Exclusion.pretty_json (exclusion : Exclusion) :
    newline 2 ++ prettyAt 2 exclusion.json = exclusion.text := by
  have axis : quote "axis" = "\"" ++ "axis" ++ "\"" := quote_of_plain (by decide)
  have removed : quote "removed" = "\"" ++ "removed" ++ "\"" := quote_of_plain (by decide)
  rw [json, prettyAt, prettyMembers, prettyMembers, prettyAt, Json.nat, prettyAt, newline_two,
    newline_three, axis, removed, quote_label]
  · unfold text
    generalize exclusion.axis.label = label
    generalize toString exclusion.removed = count
    rw [← String.toList_inj]
    simp only [String.toList_append, List.append_assoc]
    rfl
  · exact List.cons_ne_nil _ _

lemma prettyItems_exclusions (excluded : List Exclusion) :
    prettyItems 2 (excluded.map Exclusion.json) = exclusionsText excluded := by
  induction excluded with
  | nil => rfl
  | cons exclusion rest ih =>
      cases rest with
      | nil => exact exclusion.pretty_json
      | cons other rest =>
          rw [List.map_cons] at ih ⊢
          rw [List.map_cons, prettyItems, ih, exclusion.pretty_json]
          · rfl
          · exact List.cons_ne_nil _ _

/-- What is empty stays on its line. -/
lemma prettyAt_exclusions (excluded : List Exclusion) :
    prettyAt 1 (.array (excluded.map Exclusion.json))
      = if excluded = [] then "[]" else "[" ++ exclusionsText excluded ++ "\n  ]" := by
  cases excluded with
  | nil => rfl
  | cons exclusion rest =>
      have close : "\n  ]" = "\n  " ++ "]" := by decide +kernel
      rw [if_neg (List.cons_ne_nil _ _), ← prettyItems_exclusions, List.map_cons, prettyAt,
        newline_one, close, ← String.append_assoc]

/-- **A summary is written as its text.** -/
theorem Summary.pretty_json (summary : Summary) : summary.json.pretty = summary.text := by
  have total : quote "total" = "\"" ++ "total" ++ "\"" := quote_of_plain (by decide)
  have kept : quote "kept" = "\"" ++ "kept" ++ "\"" := quote_of_plain (by decide)
  have excluded : quote "excluded" = "\"" ++ "excluded" ++ "\"" := quote_of_plain (by decide)
  rw [pretty, json, prettyAt, prettyMembers, prettyMembers, prettyMembers, prettyAt_exclusions,
    Json.nat, Json.nat, prettyAt, prettyAt, newline_zero, newline_one, total, kept, excluded]
  · unfold text
    generalize toString summary.total = total
    generalize toString summary.kept = kept
    generalize (if summary.excluded = [] then _ else _) = excluded
    rw [← String.toList_inj]
    simp only [String.toList_append, List.append_assoc]
    rfl
  · exact List.cons_ne_nil _ _
  · exact List.cons_ne_nil _ _

end NameSieve
