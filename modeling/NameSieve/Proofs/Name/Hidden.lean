import NameSieve.Name
import NameSieve.Proofs.Text.Split

/-!
# Hidden segments

The three questions that are asked of a name overlap in a way that none of them shows.

* `isStdlib_iff` reads the registry by whole segments: a name is registered if the segments of
  some entry begin its own.
* `isPrivateSegments_or_hasDunder` is the law of the two other questions: where the `_thread`
  exemption is out of reach, they cover the hidden segments between them, since what privacy
  leaves to the dunder segments is hidden as well.
* `isStdlib_of_thread` is why the exemption does not matter in the end: the registry itself holds
  `_thread`.

**`isPlain_iff`** draws them together.
-/

namespace NameSieve.Name

/-! ## The registry by segments -/

/-- A registered name, told by whole segments. -/
lemma isStdlib_iff {name : String} :
    isStdlib name ↔
      ∃ entry ∈ stdlibModules, segments entry.toList <+: segments name.toList := by
  simp only [isStdlib, stdlibMarks, List.any_map, List.any_eq_true, Function.comp_apply,
    List.isPrefixOf_iff_prefix, closed, segments, Text.splitOn_isPrefix_splitOn]

/-- The members of `_thread` are registered, as it is an entry itself. -/
lemma isStdlib_of_thread {name : String} {rest : List (List Char)}
    (first : segments name.toList = threadModule :: rest) : isStdlib name := by
  refine isStdlib_iff.mpr ⟨"_thread", by decide, ?_⟩
  have single : segments "_thread".toList = [threadModule] :=
    Text.splitOn_eq_singleton '.' (by decide)
  rw [first, single]
  exact ⟨rest, rfl⟩

/-! ## Privacy and dunder segments -/

lemma startsHidden_iff {segment : List Char} : startsHidden segment ↔ segment.head? = some '_' := by
  unfold startsHidden
  split
  · simp
  · next other =>
      cases segment with
      | nil => simp
      | cons c rest =>
          have differ : c ≠ '_' := fun same => other rest (by rw [same])
          simp [differ]

/-- A dunder segment begins with an underscore, and so does a private one. -/
lemma startsHidden_of_isDunderChars {segment : List Char} (dunder : isDunderChars segment) :
    startsHidden segment := by
  unfold isDunderChars at dunder
  split at dunder
  · rfl
  · cases dunder

/-- A segment is hidden if it is private or dunder, however loosely it closes. -/
lemma isPrivateSegment_or_isDunderChars (segment : List Char) :
    (isPrivateSegment segment || isDunderChars segment) = startsHidden segment := by
  cases dunder : isDunderChars segment with
  | false => simp [isPrivateSegment, dunder]
  | true => simp [startsHidden_of_isDunderChars dunder]

/-- **Private and dunder names together** are the names with a hidden segment, save for those that
the exemption takes out. -/
lemma isPrivateSegments_or_hasDunder {first : List Char} {rest : List (List Char)}
    (other : first ≠ threadModule) :
    (isPrivateSegments (first :: rest) || (first :: rest).any isDunderChars)
      = (first :: rest).any startsHidden := by
  rw [isPrivateSegments, if_neg other, Bool.eq_iff_iff, Bool.or_eq_true]
  simp only [List.any_eq_true, ← isPrivateSegment_or_isDunderChars, Bool.or_eq_true, and_or_left,
    exists_or]

/-! ## Plain names -/

/-- **A plain name**: no segment begins with an underscore, and no entry of the registry begins
it. -/
def IsPlain (name : String) : Prop :=
  (∀ segment ∈ segments name.toList, segment.head? ≠ some '_') ∧
    ∀ entry ∈ stdlibModules, ¬segments entry.toList <+: segments name.toList

instance (name : String) : Decidable (IsPlain name) :=
  inferInstanceAs (Decidable (_ ∧ _))

/-- The three questions find fault with a name just if it is not plain. -/
lemma isPlain_iff {name : String} :
    IsPlain name ↔ isPrivate name = false ∧ isStdlib name = false ∧ hasDunder name = false := by
  have hidden : (∀ segment ∈ segments name.toList, segment.head? ≠ some '_')
      ↔ (segments name.toList).any startsHidden = false := by
    simp only [List.any_eq_false, startsHidden_iff, ne_eq]
  have registered : (∀ entry ∈ stdlibModules, ¬segments entry.toList <+: segments name.toList)
      ↔ isStdlib name = false := by
    rw [← Bool.not_eq_true, isStdlib_iff]
    simp only [not_exists, not_and]
  rw [IsPlain, hidden, registered, isPrivate, hasDunder]
  obtain ⟨first, rest, hsegments⟩ :=
    List.exists_cons_of_ne_nil (Text.splitOn_ne_nil '.' name.toList)
  change segments name.toList = first :: rest at hsegments
  by_cases thread : first = threadModule
  · -- both sides fail: the exemption covers registered names only
    have std : isStdlib name = true := isStdlib_of_thread (thread ▸ hsegments)
    simp [std]
  · rw [hsegments, ← isPrivateSegments_or_hasDunder thread, Bool.or_eq_false_iff]
    exact and_right_comm.trans and_assoc

end NameSieve.Name
