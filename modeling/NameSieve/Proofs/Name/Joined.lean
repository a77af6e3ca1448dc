import NameSieve.Proofs.Name.Hidden

/-!
# Names joined by a dot

Two names with a dot between them make a name, whose segments are those of the one followed by
those of the other (`segments_joined`).  What is asked of the whole can mostly be told from the two.

* **The registry** looks at the first two segments of a name and no further
  (`isStdlib_of_take_two`), as no entry is longer, and what a name has in it its members have too
  (`isStdlib_joined`).
* **Dunder segments** are looked for on both sides (`hasDunder_joined`).
* **Privacy** is exempted by the first segment of the whole alone (`isPrivate_joined`): a `_thread`
  behind the dot is a private segment, though it would have exempted the name that it begins.

`isStdlib_by_segments` and `isPrivate_hasDunder_joined` are the laws in full.
-/

namespace NameSieve.Name

open Text (splitOn_append_cons splitOn_eq_singleton splitOn_ne_nil)

lemma toList_joined (name member : String) :
    (name ++ "." ++ member).toList = name.toList ++ '.' :: member.toList := by
  simp

/-- **The segments of a joined name** are those of its two sides. -/
lemma segments_joined (name member : String) :
    segments (name ++ "." ++ member).toList = segments name.toList ++ segments member.toList := by
  rw [toList_joined]
  exact splitOn_append_cons '.' name.toList member.toList

/-! ## The registry -/

/-- No registered module lies deeper than in a package. -/
lemma segments_length_le_two : ∀ entry ∈ stdlibModules, (segments entry.toList).length ≤ 2 := by
  decide +kernel

/-- **Two segments decide** whether a name is registered. -/
lemma isStdlib_of_take_two {name other : String}
    (same : (segments name.toList).take 2 = (segments other.toList).take 2) :
    isStdlib name = isStdlib other := by
  have short : ∀ (name : String), ∀ entry ∈ stdlibModules,
      (segments entry.toList <+: segments name.toList
        ↔ segments entry.toList <+: (segments name.toList).take 2) := by
    intro name entry member
    rw [List.prefix_take_iff, and_iff_left (segments_length_le_two entry member)]
  rw [Bool.eq_iff_iff, isStdlib_iff, isStdlib_iff]
  constructor
  · rintro ⟨entry, member, begins⟩
    exact ⟨entry, member, by rwa [short _ _ member, ← same, ← short _ _ member]⟩
  · rintro ⟨entry, member, begins⟩
    exact ⟨entry, member, by rwa [short _ _ member, same, ← short _ _ member]⟩

/-- The members of a registered name are registered. -/
lemma isStdlib_joined {name : String} (registered : isStdlib name) (member : String) :
    isStdlib (name ++ "." ++ member) := by
  obtain ⟨entry, listed, begins⟩ := isStdlib_iff.mp registered
  rw [isStdlib_iff]
  refine ⟨entry, listed, ?_⟩
  rw [segments_joined]
  exact begins.trans (List.prefix_append _ _)

/-- **The registry goes by whole segments.**  A name is registered if the segments of some entry
begin its own; so are then all its members.  Only the first two segments of a name matter: of two
with a dot between them it is known already, whatever comes behind. -/
theorem isStdlib_by_segments (name member : String) :
    (isStdlib name ↔ ∃ entry ∈ stdlibModules, segments entry.toList <+: segments name.toList) ∧
    (isStdlib name → isStdlib (name ++ "." ++ member)) ∧
    (∀ other, (segments name.toList).take 2 = (segments other.toList).take 2 →
      isStdlib name = isStdlib other) ∧
    ('.' ∉ name.toList → '.' ∉ member.toList → ∀ rest,
      isStdlib (name ++ "." ++ member) = isStdlib (name ++ "." ++ member ++ "." ++ rest)) := by
  refine ⟨isStdlib_iff, fun registered => isStdlib_joined registered member,
    fun other => isStdlib_of_take_two, ?_⟩
  intro single single' rest
  apply isStdlib_of_take_two
  have first : segments name.toList = [name.toList] := splitOn_eq_singleton '.' single
  have second : segments member.toList = [member.toList] := splitOn_eq_singleton '.' single'
  rw [segments_joined (name ++ "." ++ member), segments_joined, first, second]
  rfl

/-- A package as a whole, with an empty segment behind it, and a package by a submodule. -/
theorem isStdlib_by_segments_packages :
    isStdlib "xml" ∧ isStdlib "xml." ∧ isStdlib "xmlrpc.client" = isStdlib "xmlrpc.client.._x" ∧
      isStdlib "xmlrpc.client.a" = isStdlib "xmlrpc.client.b.c" := by
  have package : isStdlib "xml" := isStdlib_iff.mpr ⟨"xml", by decide, List.prefix_rfl⟩
  obtain ⟨-, members, -, -⟩ := isStdlib_by_segments "xml" ""
  obtain ⟨-, -, -, deeper⟩ := isStdlib_by_segments "xmlrpc" "client"
  obtain ⟨-, -, begins, -⟩ := isStdlib_by_segments "xmlrpc.client.a" ""
  exact ⟨package, members package, deeper (by decide) (by decide) "._x",
    begins "xmlrpc.client.b.c" (by decide +kernel)⟩

/-! ## Privacy and dunder segments -/

/-- The first segment of the name is `_thread`. -/
def InThread (name : String) : Prop :=
  (segments name.toList).head? = some threadModule

instance (name : String) : Decidable (InThread name) :=
  inferInstanceAs (Decidable (_ = _))

/-- Every name has a first segment. -/
lemma segments_eq_cons (name : String) : ∃ first rest, segments name.toList = first :: rest :=
  List.exists_cons_of_ne_nil (splitOn_ne_nil '.' name.toList)

lemma isPrivate_of_inThread {name : String} (exempt : InThread name) : isPrivate name = false := by
  obtain ⟨first, rest, hsegments⟩ := segments_eq_cons name
  rw [InThread, hsegments, List.head?_cons, Option.some.injEq] at exempt
  rw [isPrivate, hsegments, isPrivateSegments, if_pos exempt]

lemma isPrivate_of_not_inThread {name : String} (outside : ¬InThread name) :
    isPrivate name = (segments name.toList).any isPrivateSegment := by
  obtain ⟨first, rest, hsegments⟩ := segments_eq_cons name
  rw [InThread, hsegments, List.head?_cons, Option.some.injEq] at outside
  rw [isPrivate, hsegments, isPrivateSegments, if_neg outside]

/-- Where no exemption is made, `_thread` is a segment with an underscore like others. -/
lemma any_isPrivateSegment (name : String) :
    (segments name.toList).any isPrivateSegment = (isPrivate name || decide (InThread name)) := by
  by_cases exempt : InThread name
  · have thread : isPrivateSegment threadModule := by decide
    obtain ⟨rest, hsegments⟩ := List.head?_eq_some_iff.mp exempt
    simp [exempt, hsegments, thread]
  · simp [exempt, isPrivate_of_not_inThread exempt]

lemma inThread_joined (name member : String) :
    InThread (name ++ "." ++ member) ↔ InThread name := by
  obtain ⟨first, rest, hsegments⟩ := segments_eq_cons name
  rw [InThread, InThread, segments_joined, hsegments]
  rfl

lemma hasDunder_joined (name member : String) :
    hasDunder (name ++ "." ++ member) = (hasDunder name || hasDunder member) := by
  rw [hasDunder, segments_joined, List.any_append]
  rfl

/-- **Privacy of a joined name.**  Only the exemption of the first name counts for the whole; the
member loses its own. -/
lemma isPrivate_joined (name member : String) :
    isPrivate (name ++ "." ++ member)
      = if InThread name then false
        else isPrivate name || isPrivate member || decide (InThread member) := by
  split_ifs with exempt
  · exact isPrivate_of_inThread ((inThread_joined name member).mpr exempt)
  · have outside := mt (inThread_joined name member).mp exempt
    rw [isPrivate_of_not_inThread outside, segments_joined, List.any_append,
      ← isPrivate_of_not_inThread exempt, any_isPrivateSegment member, Bool.or_assoc]

/-- The segments behind the first may stand in any order. -/
lemma axes_of_perm {name other : String}
    (first : (segments other.toList).head? = (segments name.toList).head?)
    (rest : (segments other.toList).tail.Perm (segments name.toList).tail) :
    isPrivate other = isPrivate name ∧ hasDunder other = hasDunder name := by
  have all : (segments other.toList).Perm (segments name.toList) := by
    obtain ⟨head, tail, hname⟩ := segments_eq_cons name
    obtain ⟨head', tail', hother⟩ := segments_eq_cons other
    rw [hname, hother, List.head?_cons, List.head?_cons, Option.some.injEq] at first
    rw [hname, hother, List.tail_cons, List.tail_cons] at rest
    rw [hname, hother, first]
    exact rest.cons head
  refine ⟨?_, all.any_eq⟩
  by_cases exempt : InThread name
  · have exempt' : InThread other := first.trans exempt
    rw [isPrivate_of_inThread exempt, isPrivate_of_inThread exempt']
  · have outside : ¬InThread other := fun inside => exempt (first.symm.trans inside)
    rw [isPrivate_of_not_inThread exempt, isPrivate_of_not_inThread outside, all.any_eq]

/-- **How the two axes are put together.**  A joined name has the dunder segments of its two sides,
and is private like them, save for the exemption, which is made by the first segment of the whole.
Outside `_thread` the two axes together find the segments that begin with an underscore, and no
axis minds the order of the segments behind the first. -/
theorem isPrivate_hasDunder_joined (name member : String) :
    hasDunder (name ++ "." ++ member) = (hasDunder name || hasDunder member) ∧
    isPrivate (name ++ "." ++ member)
      = (if InThread name then false
        else isPrivate name || isPrivate member || decide (InThread member)) ∧
    (¬InThread name → ((isPrivate name || hasDunder name) = true ↔
      ∃ segment ∈ segments name.toList, segment.head? = some '_')) ∧
    ∀ other, (segments other.toList).head? = (segments name.toList).head? →
      (segments other.toList).tail.Perm (segments name.toList).tail →
      isPrivate other = isPrivate name ∧ hasDunder other = hasDunder name := by
  refine ⟨hasDunder_joined name member, isPrivate_joined name member, ?_, fun _ => axes_of_perm⟩
  intro outside
  obtain ⟨first, rest, hsegments⟩ := segments_eq_cons name
  have other : first ≠ threadModule := by
    rintro rfl
    exact outside (by rw [InThread, hsegments, List.head?_cons])
  rw [isPrivate, hasDunder, hsegments, isPrivateSegments_or_hasDunder other, List.any_eq_true]
  simp only [startsHidden_iff]

/-- Behind the first segment `_thread` is private, in whatever order the segments stand. -/
theorem isPrivate_hasDunder_joined_nested :
    isPrivate "_thread" = false ∧ isPrivate "pkg._thread" = true ∧
      (isPrivate "pkg._thread" || hasDunder "pkg._thread") = true ∧
      isPrivate "pkg.__all__._thread" = isPrivate "pkg._thread.__all__" ∧
      hasDunder "pkg.__all__._thread" = hasDunder "pkg._thread.__all__" := by
  have outside : ¬InThread "pkg" := by decide +kernel
  have inside : InThread "_thread" := by decide +kernel
  obtain ⟨-, pair, -, -⟩ := isPrivate_hasDunder_joined "pkg" "_thread"
  rw [if_neg outside, decide_eq_true inside, Bool.or_true] at pair
  obtain ⟨-, -, hidden, -⟩ := isPrivate_hasDunder_joined "pkg._thread" ""
  obtain ⟨-, -, -, order⟩ := isPrivate_hasDunder_joined "pkg._thread.__all__" ""
  refine ⟨isPrivate_of_inThread inside, pair, ?_,
    order "pkg.__all__._thread" (by decide +kernel) (by decide +kernel)⟩
  exact (hidden (by decide +kernel)).mpr ⟨"_thread".toList, by decide +kernel, by decide⟩

end NameSieve.Name
