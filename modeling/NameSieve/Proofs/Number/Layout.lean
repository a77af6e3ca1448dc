import Mathlib.Tactic
import NameSieve.Number.Layout

/-!
# What numbers are written with

A number in the plain layout is written with digits and with few other characters: a point, a
sign, and the letters of the words for the infinities and the NaNs.  **`isPlainText_plainText`**
says so for every number; in particular no number breaks a line or has a blank in it.
-/

namespace NameSieve.Binary64

/-- A character of the plain layout. -/
def IsPlainChar (c : Char) : Prop :=
  c.isDigit ∨ c ∈ ['.', '-', 'i', 'n', 'f', 'N', 'a']

instance (c : Char) : Decidable (IsPlainChar c) :=
  inferInstanceAs (Decidable (c.isDigit ∨ c ∈ ['.', '-', 'i', 'n', 'f', 'N', 'a']))

def IsPlainText (text : List Char) : Prop :=
  ∀ c ∈ text, IsPlainChar c

instance (text : List Char) : Decidable (IsPlainText text) :=
  List.decidableBAll IsPlainChar text

lemma isPlainText_cons {c : Char} {text : List Char} :
    IsPlainText (c :: text) ↔ IsPlainChar c ∧ IsPlainText text :=
  List.forall_mem_cons

lemma isPlainText_append {text more : List Char} :
    IsPlainText (text ++ more) ↔ IsPlainText text ∧ IsPlainText more :=
  List.forall_mem_append

lemma isPlainText_zeros (count : Nat) : IsPlainText (zeros count) := by
  intro c member
  rw [(List.mem_replicate.mp member).2]
  decide

/-- The digits of a decimal number stay digits when the zeros behind them are dropped. -/
lemma isPlainText_digits (grid : Grid) : IsPlainText grid.digits.digits := by
  intro c member
  have written : c ∈ Nat.toDigits 10 grid.count := by
    rw [Grid.digits, dropLastZeros, List.mem_reverse] at member
    exact List.mem_reverse.mp ((List.dropWhile_sublist _).subset member)
  exact .inl (Nat.isDigit_of_mem_toDigits (by decide) le_rfl written)

/-- Wherever the point stands, only zeros are added to the digits. -/
lemma isPlainText_plain {d : Digits} (digits : IsPlainText d.digits) : IsPlainText d.plain := by
  have zero : IsPlainChar '0' := by decide
  have point : IsPlainChar '.' := by decide
  rw [Digits.plain]
  split_ifs
  · rw [Digits.fraction, List.cons_append, List.cons_append, isPlainText_cons, isPlainText_cons,
      isPlainText_append]
    exact ⟨zero, point, isPlainText_zeros _, digits⟩
  · rw [Digits.mixed, isPlainText_append, isPlainText_cons]
    exact ⟨fun c member => digits c (List.mem_of_mem_take member), point,
      fun c member => digits c (List.mem_of_mem_drop member)⟩
  · rw [Digits.whole, isPlainText_append]
    exact ⟨digits, isPlainText_zeros _⟩

lemma isPlainText_signed (x : Binary64) {text : List Char} (plain : IsPlainText text) :
    IsPlainText (x.signed text).toList := by
  rw [signed, String.toList_ofList]
  split_ifs
  · exact isPlainText_cons.mpr ⟨by decide, plain⟩
  · exact plain

/-- **The characters of a number** in the plain layout. -/
theorem isPlainText_plainText (x : Binary64) : IsPlainText x.plainText.toList := by
  rw [plainText]
  split_ifs
  · decide
  · exact isPlainText_signed x (by decide)
  · exact isPlainText_signed x (isPlainText_zeros 1)
  · exact isPlainText_signed x (isPlainText_plain (isPlainText_digits _))

end NameSieve.Binary64
