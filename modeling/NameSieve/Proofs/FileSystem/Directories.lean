import NameSieve.Proofs.FileSystem.Files

/-!
# Directories on the way to a file

Before a file is put at a path, the directories on the way are made as far as they are missing.
Without links a path leads to one place only, whatever the file system holds (`leadsTo`), and so the
places on the way can be named beforehand: those that the segments lead through.

* `Grown` says how a file system changes by directories that are made along some segments: what was
  there stays, and what is new is a directory on the way.
* `createDirectories_along` holds of making directories even if that fails halfway; once it has
  succeeded, the way is there.

**`placed_of_putFile`** draws the two steps together: by a file that is `Placed` at a path nothing
else changes but the directories on the way to it.
-/

namespace NameSieve.FileSystem

/-! ## Where segments lead -/

/-- The place that segments lead to, provided that there is a way. -/
def leadsTo (place : Place) (segments : List String) : Place :=
  segments.foldl follow place

/-- The places that segments lead through, from the root to the last one. -/
def LeadsThrough (segments : List String) (place : Place) : Prop :=
  ∃ front, front <+: segments ∧ leadsTo [] front = place

/-- There is a directory at every place that the segments lead through. -/
def HasDirectories (files : FileSystem) (segments : List String) : Prop :=
  ∀ place, LeadsThrough segments place → files.entry? place = some .directory

lemma leadsTo_concat (place : Place) (segments : List String) (last : String) :
    leadsTo place (segments ++ [last]) = follow (leadsTo place segments) last := by
  rw [leadsTo, List.foldl_append, List.foldl_cons, List.foldl_nil, leadsTo]

lemma LeadsThrough.mono {segments : List String} {place : Place}
    (through : LeadsThrough segments place) (more : List String) :
    LeadsThrough (segments ++ more) place := by
  obtain ⟨front, isFront, leads⟩ := through
  exact ⟨front, isFront.trans (List.prefix_append _ _), leads⟩

lemma leadsThrough_self (segments : List String) : LeadsThrough segments (leadsTo [] segments) :=
  ⟨segments, List.prefix_rfl, rfl⟩

/-- One more segment leads through one more place. -/
lemma leadsThrough_concat {segments : List String} {last : String} {place : Place} :
    LeadsThrough (segments ++ [last]) place
      ↔ LeadsThrough segments place ∨ place = leadsTo [] (segments ++ [last]) := by
  constructor
  · rintro ⟨front, isFront, rfl⟩
    rcases List.prefix_concat_iff.mp isFront with rfl | isFront
    · exact Or.inr rfl
    · exact Or.inl ⟨front, isFront, rfl⟩
  · rintro (through | rfl)
    · exact through.mono [last]
    · exact leadsThrough_self _

/-- A walk arrives where the segments lead, and on the way it has met directories only. -/
lemma walk_eq_ok {files : FileSystem} {place arrived : Place} {segments : List String}
    (walked : files.walk place segments = .ok arrived)
    (here : files.entry? arrived = some .directory) :
    leadsTo place segments = arrived ∧
      ∀ front, front <+: segments → files.entry? (leadsTo place front) = some .directory := by
  induction segments generalizing place with
  | nil =>
      obtain rfl := Except.ok.inj walked
      refine ⟨rfl, fun front isFront => ?_⟩
      rw [List.prefix_nil.mp isFront]
      exact here
  | cons segment rest ih =>
      obtain ⟨begin, walked⟩ := directory_of_walk_cons walked
      obtain ⟨arrives, onTheWay⟩ := ih walked
      refine ⟨arrives, fun front isFront => ?_⟩
      rcases List.prefix_cons_iff.mp isFront with rfl | ⟨front, rfl, isFront'⟩
      · exact begin
      · exact onTheWay front isFront'

lemma hasDirectories_of_walk {files : FileSystem} {arrived : Place} {segments : List String}
    (walked : files.walk [] segments = .ok arrived)
    (here : files.entry? arrived = some .directory) : files.HasDirectories segments := by
  rintro place ⟨front, isFront, rfl⟩
  exact (walk_eq_ok walked here).2 front isFront

lemma hasDirectories_of_isDirectory {files : FileSystem} {segments : List String}
    (directory : files.isDirectory segments = true) : files.HasDirectories segments := by
  rw [isDirectory, find] at directory
  split at directory
  · next found =>
      split at found
      · cases found
      · next arrived walked =>
          split at found
          · next entry here =>
              obtain rfl := Except.ok.inj found
              exact hasDirectories_of_walk walked here
          · cases found
  · cases directory

/-- A new entry stands where the segments lead, in a directory at the end of a way. -/
lemma leadsTo_of_newPlace {files : FileSystem} {segments : List String} {place : Place}
    (found : files.newPlace segments = .ok (some place)) :
    leadsTo [] segments = place ∧ place ≠ [] ∧
      ∃ last, segments = segments.dropLast ++ [last] ∧
        files.HasDirectories segments.dropLast := by
  obtain ⟨directory, last, hsegments, walked, here, hplace, below⟩ := newPlace_eq_some found
  refine ⟨?_, below, last, hsegments, hasDirectories_of_walk walked here⟩
  rw [hsegments, leadsTo_concat, (walk_eq_ok walked here).1, hplace]

/-! ## Growth -/

/-- **A file system grows** along segments: what was there stays as it was, and what is new is a
directory at a place that the segments lead through. -/
structure Grown (before after : FileSystem) (segments : List String) : Prop where
  kept : ∀ place entry, before.entry? place = some entry → after.entry? place = some entry
  new : ∀ place, before.entry? place = none → after.entry? place = none ∨
    after.entry? place = some .directory ∧ LeadsThrough segments place

section Growth

variable {before middle after : FileSystem} {segments : List String}

lemma Grown.refl (files : FileSystem) (segments : List String) : files.Grown files segments :=
  ⟨fun _ _ held => held, fun _ nothing => Or.inl nothing⟩

lemma Grown.mono (grown : before.Grown after segments) (more : List String) :
    before.Grown after (segments ++ more) where
  kept := grown.kept
  new place nothing := (grown.new place nothing).imp_right fun ⟨made, through⟩ =>
    ⟨made, through.mono more⟩

lemma Grown.trans (first : before.Grown middle segments) (second : middle.Grown after segments) :
    before.Grown after segments where
  kept place entry held := second.kept place entry (first.kept place entry held)
  new place nothing := by
    rcases first.new place nothing with still | ⟨made, through⟩
    · exact second.new place still
    · exact Or.inr ⟨second.kept place .directory made, through⟩

/-- The way that was there is still there. -/
lemma Grown.hasDirectories {others : List String} (grown : before.Grown after segments)
    (way : before.HasDirectories others) : after.HasDirectories others :=
  fun place through => grown.kept place .directory (way place through)

/-- Besides the places on the way nothing changes. -/
lemma Grown.entry?_eq (grown : before.Grown after segments) {place : Place}
    (aside : ¬LeadsThrough segments place) : after.entry? place = before.entry? place := by
  cases held : before.entry? place with
  | some entry => exact grown.kept place entry held
  | none =>
      rcases grown.new place held with nothing | ⟨-, through⟩
      · exact nothing
      · exact absurd through aside

end Growth

/-! ## Making directories -/

section Making

variable {files changed : FileSystem} {segments : List String}

lemma grown_of_makeDirectory (made : files.makeDirectory segments = .ok changed) :
    files.Grown changed segments ∧ changed.HasDirectories segments := by
  rw [makeDirectory] at made
  split at made
  · cases made
  · cases made
  · next place found =>
      split at made
      · cases made
      · next nothing =>
          obtain rfl := Except.ok.inj made
          obtain ⟨leads, below, last, hsegments, way⟩ := leadsTo_of_newPlace found
          have grown : files.Grown (files.set place .directory) segments := by
            constructor
            · intro other entry held
              have differ : other ≠ place := by
                rintro rfl
                rw [nothing] at held
                cases held
              rw [entry?_set_of_ne files differ, held]
            · intro other held
              by_cases same : other = place
              · subst same
                exact Or.inr ⟨entry?_set_self files below _, leads ▸ leadsThrough_self segments⟩
              · exact Or.inl ((entry?_set_of_ne files same _).trans held)
          refine ⟨grown, ?_⟩
          intro other through
          rw [hsegments, leadsThrough_concat] at through
          rcases through with before | rfl
          · exact grown.hasDirectories way other before
          · rw [← hsegments, leads]
            exact entry?_set_self files below _

/-- **What comes of making directories** along segments: the file system grows along them, also if
that fails before the end; and if it does not fail, the directories are there. -/
structure Change.Along (change : Change) (files : FileSystem) (segments : List String) : Prop where
  grown : files.Grown change.files segments
  way : change.refusal = none → change.files.HasDirectories segments

lemma Change.Along.after {middle : FileSystem} {change : Change}
    (along : change.Along middle segments) (grown : files.Grown middle segments) :
    change.Along files segments :=
  ⟨grown.trans along.grown, along.way⟩

lemma along_of_makeDirectory (made : files.makeDirectory segments = .ok changed) :
    Change.Along ⟨changed, none⟩ files segments :=
  ⟨(grown_of_makeDirectory made).1, fun _ => (grown_of_makeDirectory made).2⟩

lemma tolerate_along (files : FileSystem) (segments : List String) (e : FileError) :
    (files.tolerate segments e).Along files segments := by
  rw [tolerate]
  split
  · next directory => exact ⟨Grown.refl files _, fun _ => hasDirectories_of_isDirectory directory⟩
  · exact ⟨Grown.refl files _, nofun⟩

/-- The induction is on the segments, last first, as the directories are tried. -/
lemma createReversed_along (files : FileSystem) (reversed : List String) :
    (files.createReversed reversed).Along files reversed.reverse := by
  induction reversed with
  | nil =>
      refine ⟨Grown.refl files [], fun _ => ?_⟩
      rintro place ⟨front, isFront, rfl⟩
      rw [List.prefix_nil.mp isFront]
      rfl
  | cons last before ih =>
      have grown : files.Grown (files.createReversed before).files (last :: before).reverse := by
        rw [List.reverse_cons]
        exact ih.grown.mono [last]
      rw [createReversed]
      split
      · next made => exact along_of_makeDirectory made
      · split
        · next created =>
            rw [created] at grown
            exact ⟨grown, nofun⟩
        · next created =>
            rw [created] at grown
            split
            · next made => exact (along_of_makeDirectory made).after grown
            · exact (tolerate_along _ _ _).after grown
      · exact tolerate_along _ _ _

/-- **Making directories** adds directories on the way, and nothing else. -/
theorem createDirectories_along (files : FileSystem) (segments : List String) :
    (files.createDirectories segments).Along files segments := by
  have along := files.createReversed_along segments.reverse
  rwa [List.reverse_reverse] at along

end Making

end NameSieve.FileSystem

/-! ## Files and the way to them -/

namespace NameSieve.Path

/-- The place that a path leads to. -/
def place (path : Path) : Place :=
  FileSystem.leadsTo [] path.segments

/-- The places of the directories on the way to a path. -/
def LeadsThrough (path : Path) (place : Place) : Prop :=
  FileSystem.LeadsThrough path.parentSteps place

end NameSieve.Path

namespace NameSieve.FileSystem

/-- **A file is placed at a path**: it is there, on the way to it there are directories, of which
none took the place of a file, and elsewhere nothing has changed. -/
structure Placed (before after : FileSystem) (path : Path) (content : Bytes) : Prop where
  holds : after.contentOf path = .ok content
  file : after.entry? path.place = some (.file content)
  noDirectory : before.entry? path.place ≠ some .directory
  through : ∀ place, path.LeadsThrough place → after.entry? place = some .directory ∧
    (before.entry? place = none ∨ before.entry? place = some .directory)
  elsewhere : ∀ place, place ≠ path.place → ¬path.LeadsThrough place →
    after.entry? place = before.entry? place

/-- **Making the directories on the way and putting the file** places it there. -/
theorem placed_of_putFile {before made after : FileSystem} {path : Path} {content : Bytes}
    (created : before.createDirectories path.parentSteps = ⟨made, none⟩)
    (put : made.putFile path content = .ok after) : before.Placed after path content := by
  have along := before.createDirectories_along path.parentSteps
  rw [created] at along
  obtain ⟨place, opens, rfl⟩ := putFile_eq_ok.mp put
  obtain ⟨leads, below, -⟩ := leadsTo_of_newPlace opens.found
  have here : path.place = place := leads
  constructor
  · exact contentOf_of_putFile put
  · rw [here, entry?_set_self made below]
  · intro held
    rw [here] at held
    exact opens.noDirectory (along.grown.kept place .directory held)
  · intro other through
    have directory : made.entry? other = some .directory := along.way rfl other through
    have differ : other ≠ place := by
      rintro rfl
      exact opens.noDirectory directory
    refine ⟨(entry?_set_of_ne made differ _).trans directory, ?_⟩
    cases held : before.entry? other with
    | none => exact Or.inl rfl
    | some entry => exact Or.inr ((along.grown.kept other entry held).symm.trans directory)
  · intro other differ aside
    rw [here] at differ
    rw [entry?_set_of_ne made differ, along.grown.entry?_eq aside]

end NameSieve.FileSystem
