import Mathlib.Tactic
import NameSieve.Text.Basic

/-!
# Cut lists

What there is to say about `consHead` and `splitOn` without knowing what is cut.

* `foldr_consHead` puts a whole list in front of the first piece.
* `splitOn_append_cons`: what stands on the two sides of a separator is cut on its own.
* `splitOn_flatMap` cuts a text of closed lines into its lines.
* **`splitOn_isPrefix_splitOn`**: the pieces of one list begin those of another exactly when the
  list with a separator behind it begins the other with a separator behind it.  The closing
  separator is what keeps a piece from being taken for a longer one.
-/

namespace NameSieve.Text

variable {α : Type} {a b : α} {pieces others : List (List α)}

/-- A list put in front of a first piece, item by item. -/
lemma foldr_consHead (front first : List α) (rest : List (List α)) :
    front.foldr consHead (first :: rest) = (front ++ first) :: rest := by
  induction front with
  | nil => rfl
  | cons a front ih => rw [List.foldr_cons, ih, consHead, List.cons_append]

lemma consHead_ne_nil : consHead a pieces ≠ [] := by
  cases pieces <;> simp [consHead]

/-- Two first pieces grow by the same item, or neither list of pieces begins the other. -/
lemma consHead_isPrefix_consHead (hpieces : pieces ≠ []) (hothers : others ≠ []) :
    consHead a pieces <+: consHead b others ↔ a = b ∧ pieces <+: others := by
  obtain ⟨first, rest, rfl⟩ := List.exists_cons_of_ne_nil hpieces
  obtain ⟨first', rest', rfl⟩ := List.exists_cons_of_ne_nil hothers
  simp only [consHead, List.cons_prefix_cons, List.cons.injEq, and_assoc]

lemma consHead_append (hpieces : pieces ≠ []) :
    consHead a (pieces ++ others) = consHead a pieces ++ others := by
  obtain ⟨first, rest, rfl⟩ := List.exists_cons_of_ne_nil hpieces
  rfl

/-- A first piece that has grown is not empty. -/
lemma nil_cons_not_isPrefix_consHead : ¬([] :: pieces) <+: consHead a others := by
  cases others <;> simp [consHead, List.cons_prefix_cons]

lemma consHead_not_isPrefix_nil_cons : ¬consHead a pieces <+: [] :: others := by
  cases pieces <;> simp [consHead, List.cons_prefix_cons]

variable [DecidableEq α] (separator : α)

lemma splitOn_ne_nil (items : List α) : splitOn separator items ≠ [] := by
  cases items with
  | nil => simp [splitOn]
  | cons a rest =>
      rw [splitOn]
      split
      · simp
      · exact consHead_ne_nil

/-- A list without separators is its own single piece. -/
lemma splitOn_eq_singleton {items : List α} (absent : separator ∉ items) :
    splitOn separator items = [items] := by
  induction items with
  | nil => rfl
  | cons a rest ih =>
      obtain ⟨differ, absent⟩ := not_or.mp (mt List.mem_cons.mpr absent)
      rw [splitOn, if_neg fun same => differ same.symm, ih absent, consHead]

/-- **The two sides of a separator are cut on their own.** -/
theorem splitOn_append_cons (items others : List α) :
    splitOn separator (items ++ separator :: others)
      = splitOn separator items ++ splitOn separator others := by
  induction items with
  | nil => simp [splitOn]
  | cons a items ih =>
      rw [List.cons_append, splitOn, splitOn, ih]
      split_ifs
      · rfl
      · exact consHead_append (splitOn_ne_nil separator items)

/-- Lists that are each closed by a separator are the pieces, with nothing behind the last one. -/
lemma splitOn_flatMap {lines : List (List α)} (absent : ∀ line ∈ lines, separator ∉ line) :
    splitOn separator (lines.flatMap (· ++ [separator])) = lines ++ [[]] := by
  induction lines with
  | nil => rfl
  | cons line rest ih =>
      obtain ⟨here, absent⟩ := List.forall_mem_cons.mp absent
      rw [List.flatMap_cons, List.append_assoc, List.singleton_append, splitOn_append_cons,
        splitOn_eq_singleton separator here, ih absent, List.singleton_append, List.cons_append]

/-- **Pieces at the begin are items at the begin**, once both lists are closed by a separator. -/
theorem splitOn_isPrefix_splitOn (items others : List α) :
    splitOn separator items <+: splitOn separator others
      ↔ items ++ [separator] <+: others ++ [separator] := by
  induction items generalizing others with
  | nil =>
      cases others with
      | nil => simp
      | cons b others =>
          rw [splitOn, splitOn, List.nil_append, List.cons_append, List.cons_prefix_cons]
          split_ifs with hb
          · simp [hb, List.cons_prefix_cons]
          · have differ : separator ≠ b := fun same => hb same.symm
            simp [nil_cons_not_isPrefix_consHead, differ]
  | cons a items ih =>
      cases others with
      | nil =>
          have tooLong : ¬(a :: items) ++ [separator] <+: [] ++ [separator] := by
            intro h
            have shorter := h.length_le
            simp at shorter
          rw [iff_false_right tooLong, splitOn, splitOn]
          split_ifs with ha
          · simp [List.cons_prefix_cons, splitOn_ne_nil]
          · exact consHead_not_isPrefix_nil_cons
      | cons b others =>
          rw [List.cons_append, List.cons_append, List.cons_prefix_cons, ← ih others, splitOn,
            splitOn]
          split_ifs with ha hb hb
          · simp [ha, hb, List.cons_prefix_cons]
          · have differ : a ≠ b := fun same => hb (same ▸ ha)
            simp [nil_cons_not_isPrefix_consHead, differ]
          · have differ : a ≠ b := fun same => ha (same ▸ hb)
            simp [consHead_not_isPrefix_nil_cons, differ]
          · exact consHead_isPrefix_consHead (splitOn_ne_nil _ _) (splitOn_ne_nil _ _)

end NameSieve.Text
