import NameSieve.Error
import NameSieve.Json
import NameSieve.Number.Decimal
import NameSieve.Number.Layout
import NameSieve.Text.Basic

/-!
# Bar charts

A chart shows one column of labels against one column of numbers, the greatest number first.

* `Chart.ofBars` sorts bars by the total order of numbers, downwards; equal numbers keep their
  order.
* `Chart.ofBytes` takes the bars from two columns of a file, record by record, so that a field that
  is no number is found before a malformed row behind it.
* `render` draws the chart.  The bar of the greatest number is as wide as asked for, the other bars
  are scaled to it, and numbers that are not positive have no bar.
-/

namespace NameSieve

/-- A bar: its label and its number. -/
abbrev Bar : Type :=
  String × Binary64

structure Chart where
  xLabel : String
  yLabel : String
  /-- The bars, from the top. -/
  bars : List Bar
deriving DecidableEq

namespace Chart

/-! ## Making charts -/

def ofBars (xLabel yLabel : String) (bars : List Bar) : Chart :=
  ⟨xLabel, yLabel, bars.mergeSort fun a b => decide (b.2.rank ≤ a.2.rank)⟩

/-- The bar of a row with a number: its label, and the number in the other column, around which
blanks do not matter. -/
def barOf (x y : Nat) (yLabel : String) (number : Nat) (row : List String) : Except Error Bar :=
  let text := row[y]?.getD ""
  match Binary64.ofText? (Text.trim text.toList) with
  | some value => .ok (row[x]?.getD "", value)
  | none => .error (.invalidNumber text yLabel number)

/-- The bars of some records, the first of which has a number, below a header of so many columns.
Each record is read and made a bar before the next is looked at. -/
def barsOf (columns x y : Nat) (yLabel : String) :
    Nat → List Format.RawRecord → Except Error (List Bar)
  | _, [] => .ok []
  | number, record :: rest =>
      match Table.readRow columns number record with
      | .error cause => .error (.table (.read cause))
      | .ok row =>
          match barOf x y yLabel number row with
          | .error e => .error e
          | .ok bar =>
              match barsOf columns x y yLabel (number + 1) rest with
              | .error e => .error e
              | .ok bars => .ok (bar :: bars)

/-- The first column of a header that has a name. -/
def column (header : List String) (name : String) : Except Error Nat :=
  match header.findIdx? (· == name) with
  | some index => .ok index
  | none => .error (.missingColumn ⟨name⟩)

/-- The chart of two columns of a file. -/
def ofBytes (bytes : Bytes) (xLabel yLabel : String) : Except Error Chart :=
  match Table.readHeader bytes with
  | .error cause => .error (.table (.read cause))
  | .ok header =>
      match column header xLabel with
      | .error e => .error e
      | .ok x =>
          match column header yLabel with
          | .error e => .error e
          | .ok y =>
              match barsOf header.length x y yLabel 1 (Format.records bytes).tail with
              | .error e => .error e
              | .ok bars => .ok (ofBars xLabel yLabel bars)

/-! ## Drawing charts -/

/-- The greatest magnitude of a positive number among some bars, or zero. -/
def peak : List Bar → Nat
  | [] => 0
  | bar :: rest => if bar.2.isPositive then max bar.2.magnitude (peak rest) else peak rest

/-- The length of the bar of a number below a peak: the part of the width that the number is of
the peak, rounded at each step as numbers are. -/
def barLength (peak width : Nat) (value : Binary64) : Nat :=
  if value.isPositive && decide (0 < peak) then
    Binary64.toCount
      (Binary64.product (Binary64.quotient value.magnitude peak) (Binary64.ofNat width))
  else 0

/-- The width of the column of labels: that of the widest label, the heading included. -/
def labelWidth (chart : Chart) : Nat :=
  (chart.bars.map fun bar => bar.1.length).foldl max chart.xLabel.length

/-- A label with blanks up to a width. -/
def padLabel (width : Nat) (label : String) : String :=
  label ++ String.ofList (List.replicate (width - label.length) ' ')

def heading (chart : Chart) : String :=
  padLabel chart.labelWidth chart.xLabel ++ " | " ++ chart.yLabel

/-- The line of a bar. -/
def barLine (chart : Chart) (width : Nat) (bar : Bar) : String :=
  padLabel chart.labelWidth bar.1 ++ " | "
    ++ String.ofList (List.replicate (barLength (peak chart.bars) width bar.2) '#')
    ++ " " ++ bar.2.plainText

def lines (chart : Chart) (width : Nat) : List String :=
  chart.heading :: chart.bars.map (chart.barLine width)

def render (chart : Chart) (width : Nat) : String :=
  String.join ((chart.lines width).map (· ++ "\n"))

def json (chart : Chart) : Json :=
  .object [("x_label", .string chart.xLabel), ("y_label", .string chart.yLabel),
    ("bars", .array (chart.bars.map fun bar =>
      .array [.string bar.1, .number bar.2.dataText]))]

end Chart

end NameSieve
