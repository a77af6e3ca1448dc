import Mathlib.Tactic
import NameSieve.Support

/-!
# Support without an order

The classifiers of a package are read one after another, and the reading may end before the last
of them.  Yet it does not matter in which order they stand: the support hangs only on which
declarations are among them.

* `ofDeclared` tells the support from a set of declarations, by what is in the set.
* `conclude_of_declared` and `conclude_of_idle` are the one step of the reading: a classifier
  decides, is noted in the evidence (`Evidence.note`), or is passed over.
* `conclude_eq_ofDeclared` is the invariant of the reading: wherever it stands, the support is that
  of the declarations which the evidence holds, together with those still to come.
* `Counts` is said of a classifier that changes the support of some list; `counts_iff` finds it in
  the classifier alone.

**`ofClassifiers_eq_ofDeclared`** says it of whole lists.
-/

namespace NameSieve.Support

/-! ## Support by sets -/

/-- Some of the classifiers has the declaration. -/
def Declares (classifiers : List String) (declared : Declared) : Prop :=
  ∃ classifier ∈ classifiers, Declared.ofText? classifier = some declared

instance (classifiers : List String) : DecidablePred (Declares classifiers) :=
  fun declared => inferInstanceAs
    (Decidable (∃ classifier ∈ classifiers, Declared.ofText? classifier = some declared))

/-- **The support that follows from a set of declarations**: that of a version that excludes the
others, version 3 before version 2, or else that of the versions that are declared. -/
def ofDeclared (declares : Declared → Prop) [DecidablePred declares] : Support :=
  if declares ⟨.three, true⟩ then python3
  else if declares ⟨.two, true⟩ then python2
  else if (∃ only, declares ⟨.two, only⟩) ∧ ∃ only, declares ⟨.three, only⟩ then python2And3
  else if ∃ only, declares ⟨.two, only⟩ then python2
  else if ∃ only, declares ⟨.three, only⟩ then python3
  else undefined

section Sets

variable {declares others : Declared → Prop} [DecidablePred declares] [DecidablePred others]

lemma ofDeclared_congr (same : ∀ declared, declares declared ↔ others declared) :
    ofDeclared declares = ofDeclared others := by
  obtain rfl : declares = others := funext fun declared => propext (same declared)
  congr

/-- A classifier that allows version 3 only decides, whatever else is declared. -/
lemma ofDeclared_of_onlyThree (only : declares ⟨.three, true⟩) : ofDeclared declares = python3 :=
  if_pos only

end Sets

lemma declares_cons {classifier : String} {rest : List String} {declared : Declared} :
    Declares (classifier :: rest) declared
      ↔ Declared.ofText? classifier = some declared ∨ Declares rest declared := by
  simp [Declares]

/-! ## Evidence -/

/-- The evidence holds a declaration.  There is no place in it for the one that decides. -/
def Evidence.holds (evidence : Evidence) : Declared → Bool
  | ⟨.two, false⟩ => evidence.two
  | ⟨.two, true⟩ => evidence.onlyTwo
  | ⟨.three, false⟩ => evidence.three
  | ⟨.three, true⟩ => false

lemma Evidence.support_eq_ofDeclared (evidence : Evidence) :
    evidence.support = ofDeclared fun declared => evidence.holds declared := by
  obtain ⟨two, three, onlyTwo⟩ := evidence
  cases two <;> cases three <;> cases onlyTwo <;> decide

/-! ## One classifier -/

/-- The evidence with one more declaration, which does not decide. -/
def Evidence.note (evidence : Evidence) : Declared → Evidence
  | ⟨.two, false⟩ => { evidence with two := true }
  | ⟨.two, true⟩ => { evidence with onlyTwo := true }
  | ⟨.three, _⟩ => { evidence with three := true }

/-- What is noted is held, and nothing else is new. -/
lemma Evidence.holds_note {evidence : Evidence} {found : Declared}
    (undecided : found ≠ ⟨.three, true⟩) (declared : Declared) :
    (evidence.note found).holds declared ↔ evidence.holds declared ∨ found = declared := by
  rcases found with ⟨_ | _, _ | _⟩ <;> rcases declared with ⟨_ | _, _ | _⟩ <;>
    simp_all [note, holds]

/-- A classifier that declares something either decides or is noted. -/
lemma conclude_of_declared {classifier : String} {found : Declared}
    (here : Declared.ofText? classifier = some found) (evidence : Evidence) (rest : List String) :
    conclude evidence (classifier :: rest)
      = if found = ⟨.three, true⟩ then python3 else conclude (evidence.note found) rest := by
  rw [conclude, here]
  rcases found with ⟨_ | _, _ | _⟩ <;> rfl

/-- A classifier that declares nothing is passed over. -/
lemma conclude_of_idle {classifier : String} (idle : Declared.ofText? classifier = none)
    (evidence : Evidence) (rest : List String) :
    conclude evidence (classifier :: rest) = conclude evidence rest := by
  rw [conclude, idle]

/-- A classifier may be put for another that declares the same. -/
lemma conclude_of_same {classifier other : String}
    (same : Declared.ofText? other = Declared.ofText? classifier) (evidence : Evidence)
    (rest : List String) :
    conclude evidence (other :: rest) = conclude evidence (classifier :: rest) := by
  rw [conclude, conclude, same]

/-! ## The reading -/

/-- What is read first may be any list: two ends that conclude alike from all evidence conclude
alike behind it. -/
lemma conclude_append_congr {back others : List String}
    (same : ∀ evidence, conclude evidence others = conclude evidence back) (front : List String)
    (evidence : Evidence) :
    conclude evidence (front ++ others) = conclude evidence (front ++ back) := by
  induction front generalizing evidence with
  | nil => exact same evidence
  | cons classifier front ih =>
      rw [List.cons_append, List.cons_append]
      cases here : Declared.ofText? classifier with
      | none => rw [conclude_of_idle here, conclude_of_idle here, ih]
      | some found => rw [conclude_of_declared here, conclude_of_declared here, ih]

/-- **The invariant of the reading.**  The induction is on the classifiers that are left, over any
evidence: a classifier that does not decide only moves its declaration into the evidence. -/
theorem conclude_eq_ofDeclared (evidence : Evidence) (classifiers : List String) :
    conclude evidence classifiers
      = ofDeclared fun declared => evidence.holds declared ∨ Declares classifiers declared := by
  induction classifiers generalizing evidence with
  | nil =>
      rw [conclude, evidence.support_eq_ofDeclared]
      exact ofDeclared_congr fun declared => by simp [Declares]
  | cons classifier rest ih =>
      cases here : Declared.ofText? classifier with
      | none =>
          rw [conclude_of_idle here, ih]
          refine ofDeclared_congr fun declared => ?_
          rw [declares_cons, here, or_iff_right (Option.some_ne_none declared).symm]
      | some found =>
          rw [conclude_of_declared here]
          split_ifs with decides
          · have only : Declares (classifier :: rest) ⟨.three, true⟩ :=
              declares_cons.mpr (Or.inl (decides ▸ here))
            exact (ofDeclared_of_onlyThree (Or.inr only)).symm
          · rw [ih]
            refine ofDeclared_congr fun declared => ?_
            rw [Evidence.holds_note decides, declares_cons, here, Option.some.injEq, or_assoc]

/-! ## Whole lists -/

lemma ofClassifiers_eq (classifiers : List String) :
    ofClassifiers classifiers = ofDeclared (Declares classifiers) := by
  rw [ofClassifiers, conclude_eq_ofDeclared]
  refine ofDeclared_congr fun declared => ?_
  rcases declared with ⟨_ | _, _ | _⟩ <;> simp [Evidence.holds, Evidence.none]

/-- Of the classifiers only those count that declare something, and each of them once. -/
lemma ofClassifiers_congr {classifiers others : List String}
    (same : ∀ classifier, Declared.ofText? classifier ≠ none →
      (classifier ∈ others ↔ classifier ∈ classifiers)) :
    ofClassifiers others = ofClassifiers classifiers := by
  rw [ofClassifiers_eq, ofClassifiers_eq]
  refine ofDeclared_congr fun declared => exists_congr fun classifier => ?_
  refine and_congr_left fun found => same classifier ?_
  rw [found]
  exact Option.some_ne_none declared

/-- **A classifier counts** if there is a list whose support it changes. -/
def Counts (classifier : String) : Prop :=
  ∃ front back, ofClassifiers (front ++ classifier :: back) ≠ ofClassifiers (front ++ back)

/-- What declares something counts, even on its own, and nothing else does. -/
lemma counts_iff {classifier : String} :
    Counts classifier ↔ ∃ found, Declared.ofText? classifier = some found := by
  constructor
  · rintro ⟨front, back, changes⟩
    by_contra idle
    have nothing : Declared.ofText? classifier = none :=
      Option.eq_none_iff_forall_ne_some.mpr fun found here => idle ⟨found, here⟩
    exact changes (conclude_append_congr (fun evidence => conclude_of_idle nothing evidence back)
      front Evidence.none)
  · rintro ⟨found, here⟩
    refine ⟨[], [], ?_⟩
    rw [List.nil_append, ofClassifiers, conclude_of_declared here]
    rcases found with ⟨_ | _, _ | _⟩ <;> decide

/-- **Support hangs on the set of declarations only.**  It is told from the set, however the
classifiers stand in their list.  So it is the same for every other list with the same classifiers
among those that declare something: for the list in another order, with another copy of one of
its classifiers anywhere, and with or without a classifier that declares nothing. -/
theorem ofClassifiers_eq_ofDeclared (classifiers : List String) :
    ofClassifiers classifiers = ofDeclared (Declares classifiers) ∧
    (∀ others, (∀ classifier, Declared.ofText? classifier ≠ none →
        (classifier ∈ others ↔ classifier ∈ classifiers)) →
      ofClassifiers others = ofClassifiers classifiers) ∧
    (∀ others, others.Perm classifiers → ofClassifiers others = ofClassifiers classifiers) ∧
    ∀ front back classifier, front ++ back = classifiers →
      classifier ∈ classifiers ∨ Declared.ofText? classifier = none →
      ofClassifiers (front ++ classifier :: back) = ofClassifiers classifiers := by
  refine ⟨ofClassifiers_eq classifiers, fun _ => ofClassifiers_congr, ?_, ?_⟩
  · intro others reordered
    exact ofClassifiers_congr fun classifier _ => reordered.mem_iff
  · rintro front back classifier rfl idle
    refine ofClassifiers_congr fun other declares => ?_
    rw [List.perm_middle.mem_iff, List.mem_cons, or_iff_right_of_imp]
    rintro rfl
    exact idle.resolve_right declares

/-- Version 2 alone, nothing, version 3 among others, and version 3 alone. -/
def sundry : List String := [
  "Programming Language :: Python :: 2 :: Only",
  "Topic :: Internet",
  "Programming Language :: Python :: 3.9",
  "Programming Language :: Python :: 3 :: Only"]

/-- What comes last decides, and it may as well come first, or twice, or before what declares
nothing; without it the first decides. -/
theorem ofClassifiers_eq_ofDeclared_sundry :
    ofClassifiers sundry = python3 ∧
    sundry.reverse.Perm sundry ∧ ofClassifiers sundry.reverse = python3 ∧
    "Programming Language :: Python :: 3 :: Only" ∈ sundry ∧
    ofClassifiers (sundry.take 1 ++ "Programming Language :: Python :: 3 :: Only" :: sundry.drop 1)
      = python3 ∧
    Declared.ofText? "Programming Language :: Python :: 2 only" = none ∧
    ofClassifiers (sundry.take 3 ++ "Programming Language :: Python :: 2 only" :: sundry.drop 3)
      = python3 ∧
    ofClassifiers (sundry.take 3) = python2 ∧
    ofClassifiers ["Programming Language :: Python :: 3", "Programming Language :: Python :: 2.7"]
      = python2And3 ∧
    ofClassifiers (sundry.drop 1).dropLast = python3 ∧
    ofClassifiers ["Topic :: Internet"] = undefined := by
  obtain ⟨bySet, -, reordered, inserted⟩ := ofClassifiers_eq_ofDeclared sundry
  have decided : ofClassifiers sundry = python3 := bySet.trans (by decide +kernel)
  have perm : sundry.reverse.Perm sundry := List.reverse_perm sundry
  have member : "Programming Language :: Python :: 3 :: Only" ∈ sundry := by decide
  have nothing : Declared.ofText? "Programming Language :: Python :: 2 only" = none := by
    decide +kernel
  refine ⟨decided, perm, (reordered _ perm).trans decided, member, ?_, nothing, ?_, ?_, ?_, ?_, ?_⟩
  · exact (inserted _ _ _ (List.take_append_drop 1 sundry) (Or.inl member)).trans decided
  · exact (inserted _ _ _ (List.take_append_drop 3 sundry) (Or.inr nothing)).trans decided
  all_goals exact (ofClassifiers_eq_ofDeclared _).1.trans (by decide +kernel)

end NameSieve.Support
