import Mathlib.Data.List.DropRight
import Mathlib.Tactic
import NameSieve.Chart
import NameSieve.Proofs.Number.Layout
import NameSieve.Proofs.Text.Split

/-!
# The layout of a drawn chart

A chart is drawn line by line, the heading first.  Each line has the label in a column as wide as
the widest label, then a bar between two blanks, and then the rest: the label of the numbers, or a
run of `#`, a blank and the number.

* `InColumns` says that of one line, and `inColumns_heading` and `inColumns_barLine` of those that
  are drawn.
* `readChart` goes the other way.  It knows only the width of the column, and so is not misled by a
  label that has a separator or a run of `#` in it; `readChart_render` says what it finds.

**`render_layout`** is the layout of the whole text, and what follows for texts that are the same.
-/

namespace NameSieve.Chart

open Binary64 (isPlainText_plainText)

/-! ## The column of labels -/

/-- The labels of the first column: the heading's and those of the bars. -/
def labels (chart : Chart) : List String :=
  chart.xLabel :: chart.bars.map Prod.fst

/-- **The column is as wide as the widest label.** -/
lemma isGreatest_labelWidth (chart : Chart) :
    IsGreatest {size | ∃ label ∈ chart.labels, label.length = size} chart.labelWidth := by
  have widest : (chart.labels.map String.length).max? = some chart.labelWidth := by
    rw [labels, List.map_cons, List.max?_cons', List.map_map]
    rfl
  obtain ⟨attained, bound⟩ := List.max?_eq_some_iff.mp widest
  refine ⟨List.mem_map.mp attained, ?_⟩
  rintro size ⟨label, member, rfl⟩
  exact bound _ (List.mem_map_of_mem member)

lemma length_le_labelWidth {chart : Chart} {label : String} (member : label ∈ chart.labels) :
    label.toList.length ≤ chart.labelWidth := by
  rw [String.length_toList]
  exact (isGreatest_labelWidth chart).2 ⟨label, member, rfl⟩

/-! ## One line -/

/-- **A line in columns**: the first holds a label and behind it only blanks, then comes a bar
between two blanks, and then the rest. -/
structure InColumns (column : Nat) (label rest line : List Char) : Prop where
  label : ∃ blanks, line.take column = label ++ List.replicate blanks ' '
  separator : (line.drop column).take 3 = [' ', '|', ' ']
  rest : line.drop (column + 3) = rest

/-- A line that is put together from columns. -/
lemma inColumns_padLabel {column : Nat} {label : String} (fits : label.toList.length ≤ column)
    (rest : List Char) :
    InColumns column label.toList rest ((padLabel column label ++ " | ").toList ++ rest) := by
  have padded : (padLabel column label).toList
      = label.toList ++ List.replicate (column - label.length) ' ' := by
    rw [padLabel, String.toList_append, String.toList_ofList]
  have filled : (padLabel column label).toList.length = column := by
    rw [padded, List.length_append, List.length_replicate, ← String.length_toList]
    omega
  have line : (padLabel column label ++ " | ").toList ++ rest
      = (padLabel column label).toList ++ ([' ', '|', ' '] ++ rest) := by
    rw [String.toList_append, List.append_assoc]
    rfl
  rw [line]
  constructor
  · exact ⟨column - label.length, by rw [List.take_left' filled, padded]⟩
  · rw [List.drop_left' filled]
    rfl
  · rw [← List.drop_drop, List.drop_left' filled]
    rfl

/-- What is drawn of a number: its bar, a blank, and its digits. -/
def barText (length : Nat) (number : List Char) : List Char :=
  List.replicate length '#' ++ ' ' :: number

section Lines

variable {chart : Chart} (width : Nat)

lemma barLine_toList (chart : Chart) (bar : Bar) : (chart.barLine width bar).toList
    = (padLabel chart.labelWidth bar.1 ++ " | ").toList
      ++ barText (barLength (peak chart.bars) width bar.2) bar.2.plainText.toList := by
  rw [barLine, barText, String.toList_append, String.toList_append, String.toList_append,
    String.toList_ofList, List.append_assoc, List.append_assoc]
  rfl

lemma inColumns_heading (chart : Chart) :
    InColumns chart.labelWidth chart.xLabel.toList chart.yLabel.toList chart.heading.toList := by
  rw [heading, String.toList_append]
  exact inColumns_padLabel (length_le_labelWidth (List.mem_cons_self ..)) _

lemma inColumns_barLine {bar : Bar} (member : bar ∈ chart.bars) :
    InColumns chart.labelWidth bar.1.toList
      (barText (barLength (peak chart.bars) width bar.2) bar.2.plainText.toList)
      (chart.barLine width bar).toList := by
  rw [barLine_toList]
  refine inColumns_padLabel (length_le_labelWidth ?_) _
  exact List.mem_cons_of_mem _ (List.mem_map_of_mem member)

end Lines

/-! ## The lines of a text -/

/-- No label of the chart has a line feed in it. -/
structure OnLines (chart : Chart) : Prop where
  yLabel : '\n' ∉ chart.yLabel.toList
  labels : ∀ label ∈ chart.labels, '\n' ∉ label.toList

lemma render_toList (chart : Chart) (width : Nat) : (chart.render width).toList
    = ((chart.lines width).map String.toList).flatMap (· ++ ['\n']) := by
  rw [render, String.toList_join, List.flatMap_map, List.flatMap_map]
  refine List.flatMap_congr fun line _ => ?_
  rw [String.toList_append]
  rfl

lemma lineFeed_notMem_padLabel {column : Nat} {label : String} (absent : '\n' ∉ label.toList) :
    '\n' ∉ (padLabel column label ++ " | ").toList := by
  rw [padLabel, String.toList_append, String.toList_append, String.toList_ofList]
  simp [absent]

lemma lineFeed_notMem_barText (length : Nat) (value : Binary64) :
    '\n' ∉ barText length value.plainText.toList := by
  have number : '\n' ∉ value.plainText.toList := by
    intro here
    exact absurd (isPlainText_plainText value '\n' here) (by decide)
  simp [barText, number]

/-- **No line is broken.** -/
lemma lineFeed_notMem_lines {chart : Chart} (onLines : chart.OnLines) (width : Nat) :
    ∀ line ∈ (chart.lines width).map String.toList, '\n' ∉ line := by
  obtain ⟨xLabel, barLabels⟩ := List.forall_mem_cons.mp onLines.labels
  rw [lines, List.map_cons, List.forall_mem_cons]
  constructor
  · rw [heading, String.toList_append, List.mem_append]
    exact not_or.mpr ⟨lineFeed_notMem_padLabel xLabel, onLines.yLabel⟩
  · rw [List.map_map, List.forall_mem_map]
    intro bar member
    have label := barLabels _ (List.mem_map_of_mem member)
    rw [Function.comp_apply, barLine_toList, List.mem_append]
    exact not_or.mpr ⟨lineFeed_notMem_padLabel label, lineFeed_notMem_barText _ _⟩

/-! ## Reading a chart -/

/-- What is found on the line of a bar. -/
structure BarFound where
  /-- The label, without blanks at its end. -/
  label : List Char
  length : Nat
  number : List Char
deriving DecidableEq

/-- What is found in the text of a chart. -/
structure ChartFound where
  xLabel : List Char
  yLabel : List Char
  bars : List BarFound
deriving DecidableEq

/-- A label without the blanks at its end. -/
def trimBlanks (label : List Char) : List Char :=
  label.rdropWhile (· = ' ')

def readLabel (column : Nat) (line : List Char) : List Char :=
  trimBlanks (line.take column)

def readBar (column : Nat) (line : List Char) : BarFound :=
  let rest := line.drop (column + 3)
  ⟨readLabel column line, (rest.takeWhile (· = '#')).length, (rest.dropWhile (· = '#')).tail⟩

/-- What the lines of a chart say, the width of the column of labels being known. -/
def readLines (column : Nat) : List (List Char) → Option ChartFound
  | [] => none
  | heading :: bars =>
      some ⟨readLabel column heading, heading.drop (column + 3), bars.map (readBar column)⟩

/-- What the text of a chart says: its last line is closed as all others are. -/
def readChart (column : Nat) (text : String) : Option ChartFound :=
  readLines column (Text.splitOn '\n' text.toList).dropLast

/-- What there is to find of a chart. -/
def found (chart : Chart) (width : Nat) : ChartFound where
  xLabel := trimBlanks chart.xLabel.toList
  yLabel := chart.yLabel.toList
  bars := chart.bars.map fun bar =>
    ⟨trimBlanks bar.1.toList, barLength (peak chart.bars) width bar.2, bar.2.plainText.toList⟩

lemma trimBlanks_append (label : List Char) (blanks : Nat) :
    trimBlanks (label ++ List.replicate blanks ' ') = trimBlanks label := by
  induction blanks with
  | zero => rw [List.replicate_zero, List.append_nil]
  | succ blanks ih =>
      rw [List.replicate_succ', ← List.append_assoc, trimBlanks,
        List.rdropWhile_concat_pos _ _ _ (by decide), ← trimBlanks, ih]

section Reading

variable {column : Nat} {label rest line : List Char}

lemma readLabel_of_inColumns (columns : InColumns column label rest line) :
    readLabel column line = trimBlanks label := by
  obtain ⟨blanks, padded⟩ := columns.label
  rw [readLabel, padded, trimBlanks_append]

/-- The run of `#` ends at the blank, whatever the number looks like. -/
lemma readBar_of_inColumns {length : Nat} {number : List Char}
    (columns : InColumns column label (barText length number) line) :
    readBar column line = ⟨trimBlanks label, length, number⟩ := by
  have run : ∀ c ∈ List.replicate length '#', decide (c = '#') = true := by
    intro c member
    exact decide_eq_true (List.mem_replicate.mp member).2
  simp only [readBar, readLabel_of_inColumns columns, columns.rest, barText,
    List.takeWhile_append_of_pos run, List.dropWhile_append_of_pos run]
  simp

end Reading

/-- **What is drawn can be read**: from the text and the width of its column. -/
lemma readChart_render {chart : Chart} (onLines : chart.OnLines) (width : Nat) :
    readChart chart.labelWidth (chart.render width) = some (chart.found width) := by
  rw [readChart, render_toList, Text.splitOn_flatMap '\n' (lineFeed_notMem_lines onLines width),
    List.dropLast_concat, lines, List.map_cons, readLines, found,
    readLabel_of_inColumns (inColumns_heading chart), (inColumns_heading chart).rest, List.map_map,
    List.map_map]
  congr 2
  refine List.map_congr_left fun bar member => ?_
  exact readBar_of_inColumns (inColumns_barLine width member)

/-! ## The whole text -/

/-- **The layout of a chart.**  The column of labels is as wide as the widest of them.  The text is
made of closed lines, one for the heading and one for each bar, in order, none of them broken; all
have their labels in the column, and the separator behind it.  From the text and the width of the
column everything can be read again but the blanks at the ends of labels; so charts with one text
and one width of the column are drawn from the same labels, lengths and numbers. -/
theorem render_layout (chart : Chart) (width : Nat) (onLines : chart.OnLines) :
    IsGreatest {size | ∃ label ∈ chart.labels, label.length = size} chart.labelWidth ∧
    (∃ heading barLines,
      (chart.render width).toList = (heading :: barLines).flatMap (· ++ ['\n']) ∧
      (∀ line ∈ heading :: barLines, '\n' ∉ line) ∧
      InColumns chart.labelWidth chart.xLabel.toList chart.yLabel.toList heading ∧
      List.Forall₂ (fun bar line => ∃ length, InColumns chart.labelWidth bar.1.toList
        (List.replicate length '#' ++ ' ' :: bar.2.plainText.toList) line) chart.bars barLines) ∧
    readChart chart.labelWidth (chart.render width) = some (chart.found width) ∧
    ∀ (other : Chart) (otherWidth : Nat), other.OnLines → other.labelWidth = chart.labelWidth →
      other.render otherWidth = chart.render width →
      other.found otherWidth = chart.found width := by
  refine ⟨isGreatest_labelWidth chart, ?_, readChart_render onLines width, ?_⟩
  · refine ⟨chart.heading.toList, (chart.bars.map (chart.barLine width)).map String.toList,
      render_toList chart width, lineFeed_notMem_lines onLines width, inColumns_heading chart, ?_⟩
    rw [List.map_map, List.forall₂_map_right_iff, List.forall₂_same]
    intro bar member
    exact ⟨barLength (peak chart.bars) width bar.2, inColumns_barLine width member⟩
  · intro other otherWidth otherOnLines column text
    have here := readChart_render onLines width
    rw [← column, ← text, readChart_render otherOnLines otherWidth] at here
    exact Option.some.inj here

/-- Labels that look like what stands behind them, one with a blank at its end. -/
def lookalike : Chart :=
  ⟨"é", "y | #", [("a | ## 7", ⟨false, 0x4024000000000000, by decide⟩),
    ("# ", ⟨false, 0x4014000000000000, by decide⟩)]⟩

/-- They are not taken for it, in the column of eight characters. -/
theorem render_layout_lookalike :
    lookalike.OnLines ∧
    lookalike.render 4 = "é        | y | #\na | ## 7 | #### 10\n#        | ## 5\n" ∧
    readChart 8 (lookalike.render 4) = some ⟨"é".toList, "y | #".toList,
      [⟨"a | ## 7".toList, 4, "10".toList⟩, ⟨"#".toList, 2, "5".toList⟩]⟩ := by
  have onLines : lookalike.OnLines := ⟨by decide, by decide⟩
  obtain ⟨-, -, read, -⟩ := render_layout lookalike 4 onLines
  have column : lookalike.labelWidth = 8 := by decide
  have found : lookalike.found 4 = ⟨"é".toList, "y | #".toList,
      [⟨"a | ## 7".toList, 4, "10".toList⟩, ⟨"#".toList, 2, "5".toList⟩]⟩ := by
    decide +kernel
  rw [column, found] at read
  exact ⟨onLines, by decide +kernel, read⟩

end NameSieve.Chart
