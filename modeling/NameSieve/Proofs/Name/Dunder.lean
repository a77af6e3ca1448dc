import Mathlib.Tactic
import NameSieve.Name

/-!
# Dunder texts

A text is dunder if it opens with two underscores and has two more before its first line feed.
`closesDunder` searches for the closing pair step by step.  `Closes` says without a search where
such a pair may stand: behind any text on one line.

* `closesDunder_iff` is the search, which misses no position: `closes_cons` tells how the pair may
  stand at the first character or behind it.
* `isDunderChars_iff` puts the opening pair in front.  The two pairs may touch, but the closing one
  is looked for behind the opening one only.
* What the shape gives: a text behind the closing pair is free (`isDunderChars_append`), and so is
  all that stands behind the first line feed (`isDunderChars_firstLine`).

**`isDunder_iff_closed`** is the shape with what follows from it.
-/

namespace NameSieve.Name

/-! ## The closing pair -/

/-- **Two underscores stand behind some text without a line feed.** -/
def Closes (text : List Char) : Prop :=
  ∃ middle rest, '\n' ∉ middle ∧ text = middle ++ '_' :: '_' :: rest

lemma Closes.append {text : List Char} (closes : Closes text) (more : List Char) :
    Closes (text ++ more) := by
  obtain ⟨middle, rest, onLine, rfl⟩ := closes
  exact ⟨middle, rest ++ more, onLine, by simp⟩

lemma Closes.two_le_length {text : List Char} (closes : Closes text) : 2 ≤ text.length := by
  obtain ⟨middle, rest, -, rfl⟩ := closes
  rw [List.length_append, List.length_cons, List.length_cons]
  omega

/-- The pair stands at the first character, or behind one that is no line feed. -/
lemma closes_cons {c : Char} {text : List Char} :
    Closes (c :: text) ↔ (c = '_' ∧ text.head? = some '_') ∨ (c ≠ '\n' ∧ Closes text) := by
  constructor
  · rintro ⟨middle, rest, onLine, split⟩
    cases middle with
    | nil =>
        obtain ⟨rfl, rfl⟩ := List.cons.inj split
        exact Or.inl ⟨rfl, rfl⟩
    | cons first middle =>
        obtain ⟨rfl, rfl⟩ := List.cons.inj split
        obtain ⟨here, onLine⟩ := not_or.mp (mt List.mem_cons.mpr onLine)
        exact Or.inr ⟨Ne.symm here, middle, rest, onLine, rfl⟩
  · rintro (⟨rfl, head⟩ | ⟨here, middle, rest, onLine, rfl⟩)
    · obtain ⟨rest, rfl⟩ := List.head?_eq_some_iff.mp head
      exact ⟨[], rest, List.not_mem_nil, rfl⟩
    · exact ⟨c :: middle, rest, List.not_mem_cons_of_ne_of_not_mem here.symm onLine, rfl⟩

/-- **The search finds the pair wherever it stands.**  The induction is on the text, with the cases
of the search. -/
lemma closesDunder_iff {text : List Char} : closesDunder text ↔ Closes text := by
  fun_induction closesDunder text with
  | case1 =>
      refine iff_of_false Bool.false_ne_true fun closes => ?_
      exact absurd closes.two_le_length (by decide)
  | case2 c =>
      refine iff_of_false Bool.false_ne_true fun closes => ?_
      exact absurd closes.two_le_length (by simp)
  | case3 d rest =>
      refine iff_of_false Bool.false_ne_true fun closes => ?_
      rcases closes_cons.mp closes with ⟨underscore, -⟩ | ⟨differ, -⟩
      · exact absurd underscore (by decide)
      · exact differ rfl
  | case4 c d rest differ ih =>
      rw [closes_cons, ← ih, and_iff_right differ]
      simp

/-! ## Dunder texts -/

/-- **A dunder text by its shape.** -/
lemma isDunderChars_iff {text : List Char} :
    isDunderChars text ↔ ∃ body, text = '_' :: '_' :: body ∧ Closes body := by
  unfold isDunderChars
  split
  · next body => simp [closesDunder_iff]
  · next other =>
      refine iff_of_false Bool.false_ne_true ?_
      rintro ⟨body, shape, -⟩
      exact other body shape

lemma isDunderChars_append {text : List Char} (dunder : isDunderChars text) (more : List Char) :
    isDunderChars (text ++ more) := by
  obtain ⟨body, rfl, closes⟩ := isDunderChars_iff.mp dunder
  exact isDunderChars_iff.mpr ⟨body ++ more, rfl, closes.append more⟩

/-- There is room for two pairs that do not overlap. -/
lemma four_le_length_of_isDunderChars {text : List Char} (dunder : isDunderChars text) :
    4 ≤ text.length := by
  obtain ⟨body, rfl, closes⟩ := isDunderChars_iff.mp dunder
  have two := closes.two_le_length
  rw [List.length_cons, List.length_cons]
  omega

/-- What stands before the first line feed. -/
def firstLine (text : List Char) : List Char :=
  text.takeWhile (· ≠ '\n')

lemma firstLine_append {front : List Char} (onLine : '\n' ∉ front) (text : List Char) :
    firstLine (front ++ text) = front ++ firstLine text := by
  refine List.takeWhile_append_of_pos fun c member => ?_
  rw [decide_eq_true_eq]
  rintro rfl
  exact onLine member

/-- **The first line decides.**  The closing pair stands on it, and behind it all is free. -/
lemma isDunderChars_firstLine (text : List Char) :
    isDunderChars (firstLine text) = isDunderChars text := by
  rw [Bool.eq_iff_iff]
  constructor
  · intro dunder
    rw [← List.takeWhile_append_dropWhile (p := (· ≠ '\n')) (l := text)]
    exact isDunderChars_append dunder _
  · intro dunder
    obtain ⟨body, rfl, middle, rest, onLine, rfl⟩ := isDunderChars_iff.mp dunder
    have line : firstLine (('_' :: '_' :: (middle ++ ['_', '_'])) ++ rest)
        = ('_' :: '_' :: (middle ++ ['_', '_'])) ++ firstLine rest :=
      firstLine_append (by simp [onLine]) rest
    refine isDunderChars_iff.mpr ⟨_, ?_, middle, firstLine rest, onLine, rfl⟩
    simpa using line

/-- **Dunder names by their shape.**  A name is dunder just if it is two underscores, some text on
one line, two more underscores, and any text behind them.  So it is the first line of a name that
decides, a dunder name stays one with anything behind it, and none is shorter than its two pairs. -/
theorem isDunder_iff_closed (name : String) :
    (isDunder name ↔ ∃ middle rest : String,
      '\n' ∉ middle.toList ∧ name = "__" ++ middle ++ "__" ++ rest) ∧
    (∀ other : String, firstLine other.toList = firstLine name.toList →
      isDunder other = isDunder name) ∧
    (isDunder name → ∀ more : String, isDunder (name ++ more)) ∧
    (isDunder name → 4 ≤ name.length) := by
  refine ⟨?_, ?_, ?_, ?_⟩
  · rw [isDunder, isDunderChars_iff]
    constructor
    · rintro ⟨body, shape, middle, rest, onLine, rfl⟩
      refine ⟨String.ofList middle, String.ofList rest, by rwa [String.toList_ofList], ?_⟩
      rw [← String.toList_inj, shape]
      simp
    · rintro ⟨middle, rest, onLine, rfl⟩
      exact ⟨middle.toList ++ '_' :: '_' :: rest.toList, by simp, middle.toList, rest.toList,
        onLine, rfl⟩
  · intro other same
    rw [isDunder, isDunder, ← isDunderChars_firstLine, same, isDunderChars_firstLine]
  · intro dunder more
    rw [isDunder, String.toList_append]
    exact isDunderChars_append dunder more.toList
  · intro dunder
    rw [← String.length_toList]
    exact four_le_length_of_isDunderChars dunder

/-- The two pairs may touch, and behind the first line there is nothing that counts. -/
theorem isDunder_iff_closed_touching :
    isDunder "____" ∧ isDunder ("____" ++ "\n.x") ∧
      isDunder "__a\n__" = isDunder "__a\nb" ∧ 4 ≤ "____".length := by
  obtain ⟨shape, -, more, long⟩ := isDunder_iff_closed "____"
  obtain ⟨-, line, -, -⟩ := isDunder_iff_closed "__a\nb"
  have dunder : isDunder "____" := shape.mpr ⟨"", "", by decide, by decide⟩
  exact ⟨dunder, more dunder "\n.x", line "__a\n__" (by decide), long dunder⟩

/-- Three underscores are no two pairs, and a pair on a later line does not close. -/
example : isDunder "___" = false ∧ isDunder "__a\n__" = false ∧ isDunder "__a__b" = true := by
  decide

end NameSieve.Name
