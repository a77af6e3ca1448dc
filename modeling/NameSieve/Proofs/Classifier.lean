import Mathlib.Tactic
import NameSieve.Proofs.Support

/-!
# The grammar of classifiers

Which texts are classifiers about versions is a matter of grammar, and the reader in
`NameSieve.Classifier` need not be looked at to tell.  A `Reading` is a text taken apart: the major
version, the further numbers, whether the mark stands behind them, and the blanks at the end.

* **Blanks and digits** are apart (`Text.isBlank_eq_false_of_isDigit`), and neither is a dot.  That
  is what keeps the parts of a reading from running into each other.
* **The reader** goes through the parts in their order.  `ending?_eq_some` and `numbers?_eq_some`
  say what it finds from the end and from the numbers on, `ofText?_eq_some` from the beginning on.
* **One reading.**  The numbers end where neither a dot nor a digit follows
  (`numbersText_append_inj`), so a text has no two readings (`Reading.text_injective`).
* **Blanks at the end** belong to the last part.  As the character in front of them is none
  (`Reading.exists_core`), it is the same with more of them (`ofText?_append_blanks`).

**`counts_by_grammar`** puts this together with what a classifier does to the support of a package.
-/

namespace NameSieve

/-! ## Blanks and digits -/

/-- Two tables have no character in common if no run of the one reaches into a run of the other. -/
lemma CharRanges.contains_eq_false {ranges others : CharRanges}
    (apart : ∀ range ∈ ranges, ∀ other ∈ others, range.2 < other.1 ∨ other.2 < range.1)
    {c : Char} (here : ranges.contains c) : others.contains c = false := by
  obtain ⟨range, member, within⟩ := List.any_eq_true.mp here
  refine List.any_eq_false.mpr fun other listed within' => ?_
  rw [Bool.and_eq_true, decide_eq_true_eq, decide_eq_true_eq] at within within'
  have := apart range member other listed
  omega

lemma Text.isBlank_eq_false_of_isDigit {c : Char} (digit : Text.isDigit c) :
    Text.isBlank c = false := by
  have apart : ∀ range ∈ Text.digitRanges, ∀ other ∈ Text.blankRanges,
      range.2 < other.1 ∨ other.2 < range.1 := by
    decide +kernel
  exact CharRanges.contains_eq_false apart digit

lemma Text.isDigit_eq_false_of_isBlank {c : Char} (blank : Text.isBlank c) :
    Text.isDigit c = false := by
  by_contra digit
  rw [Bool.not_eq_false] at digit
  exact absurd (Text.isBlank_eq_false_of_isDigit digit) (by simp [blank])

namespace Declared

/-! ## Readings -/

/-- The digit of a major version. -/
def majorDigit : Major → Char
  | .two => '2'
  | .three => '3'

/-- A further number: decimal digits of any script, at least one. -/
def IsNumber (number : List Char) : Prop :=
  number ≠ [] ∧ ∀ c ∈ number, Text.isDigit c

/-- All characters are white space. -/
def Blanks (blanks : List Char) : Prop :=
  ∀ c ∈ blanks, Text.isBlank c

-- both are decided along the list; characters themselves are too many to go through
instance (number : List Char) : Decidable (IsNumber number) :=
  decidable_of_iff (number ≠ [] ∧ number.all Text.isDigit) (and_congr_right' List.all_eq_true)

instance (blanks : List Char) : Decidable (Blanks blanks) :=
  decidable_of_iff (blanks.all Text.isBlank) List.all_eq_true

/-- Further numbers, each behind a dot. -/
def numbersText (numbers : List (List Char)) : List Char :=
  numbers.flatMap fun number => '.' :: number

/-- What stands behind the numbers: the mark or nothing, and then the blanks. -/
def endText (only : Bool) (blanks : List Char) : List Char :=
  (if only then " :: Only".toList else []) ++ blanks

/-- **A classifier about versions, taken apart.** -/
@[ext]
structure Reading where
  major : Major
  /-- The digits of the numbers behind the major version. -/
  numbers : List (List Char)
  /-- Does the mark stand behind the numbers? -/
  only : Bool
  /-- The white space at the end. -/
  blanks : List Char
  isNumber : ∀ number ∈ numbers, IsNumber number
  isBlank : Blanks blanks

namespace Reading

/-- The text behind the fixed beginning. -/
def tail (reading : Reading) : List Char :=
  majorDigit reading.major :: (numbersText reading.numbers ++ endText reading.only reading.blanks)

/-- **The text that is taken apart.** -/
def text (reading : Reading) : String :=
  "Programming Language :: Python :: " ++ String.ofList reading.tail

/-- What the classifier declares. -/
def declared (reading : Reading) : Declared :=
  ⟨reading.major, reading.only⟩

end Reading

/-! ## The end -/

lemma after?_eq_some {start text rest : List Char} :
    after? start text = some rest ↔ text = start ++ rest := by
  fun_induction after? start text with
  | case1 text => rw [Option.some.injEq, List.nil_append]
  | case2 c start => simp
  | case3 start c text ih => rw [ih, List.cons_append, List.cons.injEq, and_iff_right rfl]
  | case4 c start d text differ => simp [Ne.symm differ]

lemma endText_true (blanks : List Char) : endText true blanks = onlyMark ++ blanks := rfl

lemma endText_false (blanks : List Char) : endText false blanks = blanks := rfl

lemma all_isBlank {blanks : List Char} : blanks.all Text.isBlank ↔ Blanks blanks :=
  List.all_eq_true

/-- **The reader finds the mark or not, and then blanks alone.** -/
lemma ending?_eq_some {text : List Char} {only : Bool} :
    ending? text = some only ↔ ∃ blanks, Blanks blanks ∧ text = endText only blanks := by
  unfold ending?
  split
  · next rest marked =>
      rw [after?_eq_some.mp marked]
      cases only with
      | true =>
          simp only [Option.ite_none_right_eq_some, and_true, all_isBlank, endText_true,
            List.append_cancel_left_eq, exists_eq_right']
      | false =>
          -- the mark has colons, so it is no blanks
          have colon : ¬Blanks (onlyMark ++ rest) := fun blank =>
            absurd (blank ':' (List.mem_append_left _ (by decide))) (by decide)
          simp [endText_false, colon]
  · next unmarked =>
      cases only with
      | true =>
          have other : ∀ blanks, text ≠ endText true blanks := fun blanks marked =>
            absurd (after?_eq_some.mpr marked) (unmarked ▸ Option.some_ne_none blanks).symm
          simp [other]
      | false =>
          simp only [Option.ite_none_right_eq_some, and_true, all_isBlank, endText_false,
            exists_eq_right']

/-! ## The numbers -/

/-- The numbers are over: neither a dot nor a digit comes next. -/
def Stops (text : List Char) : Prop :=
  ∀ c, text.head? = some c → c ≠ '.' ∧ Text.isDigit c = false

lemma stops_endText {only : Bool} {blanks : List Char} (blank : Blanks blanks) :
    Stops (endText only blanks) := by
  intro c head
  cases only with
  | true =>
      obtain rfl : ' ' = c := Option.some.inj head
      decide
  | false =>
      have here : Text.isBlank c := blank c (List.mem_of_head? head)
      refine ⟨?_, Text.isDigit_eq_false_of_isBlank here⟩
      rintro rfl
      exact absurd here (by decide)

lemma numbersText_cons (number : List Char) (rest : List (List Char)) (text : List Char) :
    numbersText (number :: rest) ++ text = '.' :: (number ++ (numbersText rest ++ text)) := by
  rw [numbersText, List.flatMap_cons, List.append_assoc, List.cons_append]
  rfl

lemma ne_dot_of_isDigit {c : Char} (digit : Text.isDigit c) : c ≠ '.' := by
  rintro rfl
  exact absurd digit (by decide)

/-- Without a dot a character goes on with a number or begins the end. -/
lemma numbers?_cons {c : Char} (noDot : c ≠ '.') (inNumber : Bool) (rest : List Char) :
    numbers? inNumber (c :: rest)
      = if inNumber && Text.isDigit c then numbers? true rest else ending? (c :: rest) :=
  numbers?.eq_2 inNumber c rest fun _ _ dot _ => noDot dot

lemma numbers?_of_stops {inNumber : Bool} {text : List Char} (stops : Stops text) :
    numbers? inNumber text = ending? text := by
  cases text with
  | nil => rfl
  | cons c rest =>
      obtain ⟨noDot, noDigit⟩ := stops c rfl
      rw [numbers?_cons noDot, noDigit, Bool.and_false, if_neg Bool.false_ne_true]

lemma numbers?_digits {digits : List Char} (all : ∀ c ∈ digits, Text.isDigit c)
    (text : List Char) : numbers? true (digits ++ text) = numbers? true text := by
  induction digits with
  | nil => rfl
  | cons c digits ih =>
      obtain ⟨here, all⟩ := List.forall_mem_cons.mp all
      rw [List.cons_append, numbers?_cons (ne_dot_of_isDigit here), here, Bool.and_true,
        if_pos rfl, ih all]

/-- **Well-formed numbers are read to their end.** -/
lemma numbers?_numbersText {numbers : List (List Char)}
    (isNumber : ∀ number ∈ numbers, IsNumber number) {text : List Char} (stops : Stops text)
    (inNumber : Bool) : numbers? inNumber (numbersText numbers ++ text) = ending? text := by
  induction numbers generalizing inNumber with
  | nil => exact numbers?_of_stops stops
  | cons number rest ih =>
      obtain ⟨⟨nonempty, digits⟩, others⟩ := List.forall_mem_cons.mp isNumber
      obtain ⟨c, number, rfl⟩ := List.exists_cons_of_ne_nil nonempty
      obtain ⟨here, digits⟩ := List.forall_mem_cons.mp digits
      rw [numbersText_cons, List.cons_append, numbers?.eq_1, if_pos here, numbers?_digits digits]
      exact ih others true

/-- **What is read are well-formed numbers.**  The induction is on the reader's steps.  Inside a
number more digits of it may come first. -/
lemma exists_of_numbers? {inNumber : Bool} {text : List Char} {only : Bool}
    (found : numbers? inNumber text = some only) :
    ∃ digits numbers blanks, (inNumber = false → digits = []) ∧ (∀ c ∈ digits, Text.isDigit c) ∧
      (∀ number ∈ numbers, IsNumber number) ∧ Blanks blanks ∧
      text = digits ++ (numbersText numbers ++ endText only blanks) := by
  fun_induction numbers? inNumber text with
  | case1 inNumber d rest digit ih =>
      obtain ⟨digits, numbers, blanks, -, all, others, blank, rfl⟩ := ih found
      have number : IsNumber (d :: digits) :=
        ⟨List.cons_ne_nil d digits, List.forall_mem_cons.mpr ⟨digit, all⟩⟩
      refine ⟨[], (d :: digits) :: numbers, blanks, fun _ => rfl, by simp, ?_, blank, ?_⟩
      · exact List.forall_mem_cons.mpr ⟨number, others⟩
      · rw [List.nil_append, numbersText_cons, List.cons_append]
  | case2 => cases found
  | case3 inNumber c rest _ digit ih =>
      obtain ⟨digits, numbers, blanks, -, all, isNumber, blank, rfl⟩ := ih found
      obtain ⟨inside, digit⟩ := (Bool.and_eq_true _ _).mp digit
      refine ⟨c :: digits, numbers, blanks, fun outside => ?_, ?_, isNumber, blank, rfl⟩
      · exact absurd outside (by simp [inside])
      · exact List.forall_mem_cons.mpr ⟨digit, all⟩
  | case4 inNumber c rest =>
      obtain ⟨blanks, blank, split⟩ := ending?_eq_some.mp found
      exact ⟨[], [], blanks, fun _ => rfl, by simp, by simp, blank, split⟩
  | case5 inNumber =>
      obtain ⟨blanks, blank, split⟩ := ending?_eq_some.mp found
      exact ⟨[], [], blanks, fun _ => rfl, by simp, by simp, blank, split⟩

lemma numbers?_eq_some {text : List Char} {only : Bool} :
    numbers? false text = some only ↔ ∃ numbers blanks, (∀ number ∈ numbers, IsNumber number) ∧
      Blanks blanks ∧ text = numbersText numbers ++ endText only blanks := by
  constructor
  · intro found
    obtain ⟨digits, numbers, blanks, outside, -, isNumber, blank, split⟩ := exists_of_numbers? found
    rw [outside rfl, List.nil_append] at split
    exact ⟨numbers, blanks, isNumber, blank, split⟩
  · rintro ⟨numbers, blanks, isNumber, blank, rfl⟩
    rw [numbers?_numbersText isNumber (stops_endText blank)]
    exact ending?_eq_some.mpr ⟨blanks, blank, rfl⟩

/-! ## Whole classifiers -/

/-- What is read behind a major version makes a reading with it. -/
lemma exists_reading (major : Major) {rest : List Char} {declared : Declared}
    (found : (numbers? false rest).map (⟨major, ·⟩) = some declared) :
    ∃ reading : Reading, reading.tail = majorDigit major :: rest ∧ reading.declared = declared := by
  obtain ⟨only, here, rfl⟩ := Option.map_eq_some_iff.mp found
  obtain ⟨numbers, blanks, isNumber, blank, rfl⟩ := numbers?_eq_some.mp here
  exact ⟨⟨major, numbers, only, blanks, isNumber, blank⟩, rfl, rfl⟩

lemma major?_eq_some {text : List Char} {declared : Declared} :
    major? text = some declared
      ↔ ∃ reading : Reading, reading.tail = text ∧ reading.declared = declared := by
  constructor
  · intro found
    unfold major? at found
    split at found
    · exact exists_reading .two found
    · exact exists_reading .three found
    · cases found
  · rintro ⟨⟨major, numbers, only, blanks, isNumber, blank⟩, rfl, rfl⟩
    have here : numbers? false (numbersText numbers ++ endText only blanks) = some only :=
      numbers?_eq_some.mpr ⟨numbers, blanks, isNumber, blank, rfl⟩
    cases major <;> exact Option.map_eq_some_iff.mpr ⟨only, here, rfl⟩

lemma toList_append_ofList (start : String) (rest : List Char) :
    (start ++ String.ofList rest).toList = start.toList ++ rest := by
  rw [String.toList_append, String.toList_ofList]

lemma Reading.text_toList (reading : Reading) : reading.text.toList = opening ++ reading.tail :=
  toList_append_ofList _ reading.tail

/-- **The reader accepts the grammar**, and declares what stands in the parts. -/
theorem ofText?_eq_some {classifier : String} {declared : Declared} :
    ofText? classifier = some declared
      ↔ ∃ reading : Reading, reading.text = classifier ∧ reading.declared = declared := by
  rw [ofText?, Option.bind_eq_some_iff]
  constructor
  · rintro ⟨rest, begins, found⟩
    obtain ⟨reading, rfl, declares⟩ := major?_eq_some.mp found
    refine ⟨reading, String.toList_inj.mp ?_, declares⟩
    rw [reading.text_toList, after?_eq_some.mp begins]
  · rintro ⟨reading, rfl, declares⟩
    exact ⟨reading.tail, after?_eq_some.mpr reading.text_toList,
      major?_eq_some.mpr ⟨reading, rfl, declares⟩⟩

/-! ## One reading -/

/-- A run of digits ends where no digit follows. -/
lemma takeWhile_digits {digits text : List Char} (all : ∀ c ∈ digits, Text.isDigit c)
    (ends : ∀ c, text.head? = some c → Text.isDigit c = false) :
    (digits ++ text).takeWhile Text.isDigit = digits := by
  rw [List.takeWhile_append_of_pos all]
  cases text with
  | nil => simp
  | cons c text => simp [ends c rfl]

/-- No digit follows a number, whatever the next part is. -/
lemma head?_numbersText {numbers : List (List Char)} {text : List Char} (stops : Stops text)
    {c : Char} (head : (numbersText numbers ++ text).head? = some c) : Text.isDigit c = false := by
  cases numbers with
  | nil => exact (stops c head).2
  | cons number rest =>
      obtain rfl : '.' = c := Option.some.inj head
      decide

/-- **The numbers are told from the text**, and so is what stands behind them.  The induction is on
the numbers of the one text; a dot says whether the other has a number left. -/
lemma numbersText_append_inj {numbers others : List (List Char)}
    (isNumber : ∀ number ∈ numbers, IsNumber number)
    (isNumber' : ∀ number ∈ others, IsNumber number)
    {text text' : List Char} (stops : Stops text) (stops' : Stops text')
    (same : numbersText numbers ++ text = numbersText others ++ text') :
    numbers = others ∧ text = text' := by
  induction numbers generalizing others with
  | nil =>
      cases others with
      | nil => exact ⟨rfl, same⟩
      | cons number others =>
          rw [numbersText_cons] at same
          exact absurd rfl (stops _ (congrArg List.head? same)).1
  | cons number numbers ih =>
      cases others with
      | nil =>
          rw [numbersText_cons] at same
          exact absurd rfl (stops' _ (congrArg List.head? same.symm)).1
      | cons number' others =>
          obtain ⟨⟨-, digits⟩, isNumber⟩ := List.forall_mem_cons.mp isNumber
          obtain ⟨⟨-, digits'⟩, isNumber'⟩ := List.forall_mem_cons.mp isNumber'
          rw [numbersText_cons, numbersText_cons, List.cons.injEq] at same
          have first : number = number' := by
            rw [← takeWhile_digits digits fun _ => head?_numbersText stops, same.2,
              takeWhile_digits digits' fun _ => head?_numbersText stops']
          rw [first, List.append_cancel_left_eq] at same
          obtain ⟨rest, ends⟩ := ih isNumber isNumber' same.2
          exact ⟨by rw [first, rest], ends⟩

/-- The mark and the blanks are told from the text; what the reader finds is the mark. -/
lemma endText_inj {only only' : Bool} {blanks blanks' : List Char} (blank : Blanks blanks)
    (blank' : Blanks blanks') (same : endText only blanks = endText only' blanks') :
    only = only' ∧ blanks = blanks' := by
  have found : ending? (endText only blanks) = some only := ending?_eq_some.mpr ⟨blanks, blank, rfl⟩
  have found' : ending? (endText only' blanks') = some only' :=
    ending?_eq_some.mpr ⟨blanks', blank', rfl⟩
  obtain rfl : only = only' := Option.some.inj (by rw [← found, ← found', same])
  exact ⟨rfl, List.append_cancel_left same⟩

lemma majorDigit_injective : Function.Injective majorDigit
  | .two, .two, _ => rfl
  | .three, .three, _ => rfl
  | .two, .three, same => absurd same (by decide)
  | .three, .two, same => absurd same (by decide)

/-- **No text has two readings.** -/
theorem Reading.text_injective : Function.Injective Reading.text := by
  intro reading other same
  have tails : reading.tail = other.tail := by
    have whole := congrArg String.toList same
    rwa [text_toList, text_toList, List.append_cancel_left_eq] at whole
  obtain ⟨majors, behind⟩ := List.cons.inj tails
  obtain ⟨numbers, ends⟩ := numbersText_append_inj reading.isNumber other.isNumber
    (stops_endText reading.isBlank) (stops_endText other.isBlank) behind
  obtain ⟨only, blanks⟩ := endText_inj reading.isBlank other.isBlank ends
  exact Reading.ext (majorDigit_injective majors) numbers only blanks

/-! ## Blanks at the end -/

/-- The reading with other blanks at the end. -/
def Reading.withBlanks (reading : Reading) (blanks : List Char) (isBlank : Blanks blanks) :
    Reading :=
  { reading with blanks := blanks, isBlank := isBlank }

/-- The numbers end with a digit, and so does the major version in front of none. -/
lemma exists_last_digit (major : Major) {numbers : List (List Char)}
    (isNumber : ∀ number ∈ numbers, IsNumber number) :
    ∃ front last, Text.isBlank last = false ∧
      majorDigit major :: numbersText numbers = front ++ [last] := by
  obtain rfl | ⟨others, number, rfl⟩ := List.eq_nil_or_concat' numbers
  · exact ⟨[], majorDigit major, by cases major <;> decide, rfl⟩
  · obtain ⟨nonempty, digits⟩ := isNumber number (by simp)
    obtain ⟨front, last, rfl⟩ := (List.eq_nil_or_concat' number).resolve_left nonempty
    refine ⟨majorDigit major :: (numbersText others ++ '.' :: front), last, ?_, ?_⟩
    · exact Text.isBlank_eq_false_of_isDigit (digits last (by simp))
    · simp [numbersText]

/-- **In front of its blanks a reading ends with another character**, the same for all blanks. -/
lemma Reading.exists_core (reading : Reading) :
    ∃ front last, Text.isBlank last = false ∧ ∀ blanks isBlank,
      (reading.withBlanks blanks isBlank).text.toList = front ++ last :: blanks := by
  obtain ⟨front, last, visible, digits⟩ := exists_last_digit reading.major reading.isNumber
  cases mark : reading.only with
  | true =>
      refine ⟨opening ++ (front ++ last :: " :: Onl".toList), 'y', by decide, fun blanks _ => ?_⟩
      have marked : endText true blanks = " :: Onl".toList ++ 'y' :: blanks := by
        rw [endText_true, List.append_cons]
        exact congrArg (· ++ blanks) (by decide)
      rw [text_toList, tail, withBlanks, mark, marked, ← List.cons_append, digits]
      simp only [List.append_assoc, List.cons_append, List.nil_append]
  | false =>
      refine ⟨opening ++ front, last, visible, fun blanks _ => ?_⟩
      rw [text_toList, tail, withBlanks, mark, endText_false, ← List.cons_append, digits]
      simp only [List.append_assoc, List.cons_append, List.nil_append]

/-- Blanks that are added belong to the reading. -/
lemma Reading.exists_append (reading : Reading) {blanks : String} (blank : Blanks blanks.toList) :
    ∃ longer : Reading, longer.text = reading.text ++ blanks ∧
      longer.declared = reading.declared := by
  obtain ⟨front, last, -, whole⟩ := reading.exists_core
  have isBlank : Blanks (reading.blanks ++ blanks.toList) :=
    List.forall_mem_append.mpr ⟨reading.isBlank, blank⟩
  refine ⟨reading.withBlanks _ isBlank, String.toList_inj.mp ?_, rfl⟩
  have here : reading.text.toList = front ++ last :: reading.blanks := whole _ reading.isBlank
  rw [whole, String.toList_append, here, List.append_assoc, List.cons_append]

/-- **Blanks that are taken away** were of the reading, as the character in front of its blanks is
none of them. -/
lemma Reading.exists_of_append {reading : Reading} {classifier blanks : String}
    (blank : Blanks blanks.toList) (same : reading.text = classifier ++ blanks) :
    ∃ shorter : Reading, shorter.text = classifier ∧ shorter.declared = reading.declared := by
  obtain ⟨front, last, visible, whole⟩ := reading.exists_core
  have hidden : last ∉ blanks.toList := fun member => by simp [blank last member] at visible
  have here : reading.text.toList = front ++ last :: reading.blanks := whole _ reading.isBlank
  rw [same, String.toList_append] at here
  rcases List.append_eq_append_iff.mp here with ⟨missing, -, split⟩ | ⟨kept, front', split⟩
  · exact absurd (split ▸ by simp) hidden
  · cases kept with
    | nil =>
        rw [List.nil_append] at split
        exact absurd (split ▸ List.mem_cons_self ..) hidden
    | cons c kept =>
        obtain ⟨rfl, blanks'⟩ := List.cons.inj split
        have isBlank : Blanks kept := fun c member =>
          reading.isBlank c (blanks' ▸ List.mem_append_left _ member)
        refine ⟨reading.withBlanks kept isBlank, String.toList_inj.mp ?_, rfl⟩
        rw [whole, front']

/-- **Blanks at the end do not matter.** -/
theorem ofText?_append_blanks (classifier : String) {blanks : String}
    (blank : Blanks blanks.toList) : ofText? (classifier ++ blanks) = ofText? classifier := by
  ext declared
  rw [ofText?_eq_some, ofText?_eq_some]
  constructor
  · rintro ⟨reading, same, rfl⟩
    exact reading.exists_of_append blank same
  · rintro ⟨reading, rfl, rfl⟩
    exact reading.exists_append blank

end Declared

/-! ## What counts -/

namespace Support

open Declared (Blanks Reading ofText?)

/-- **Classifiers count by their grammar.**  A classifier counts for the support of a package just
if it can be read as the fixed beginning, a major version, numbers behind dots, perhaps the mark,
and blanks.  It can be read so in one way at most.  What stands in the parts is what it declares,
and the support of a package is told from that: the reading decides for version 3 alone or is noted
in the evidence.  Blanks at the end change nothing of this. -/
theorem counts_by_grammar (classifier : String) :
    (Counts classifier ↔ ∃ reading : Reading, reading.text = classifier) ∧
    (∀ reading other : Reading, reading.text = classifier → other.text = classifier →
      other = reading) ∧
    (∀ reading : Reading, reading.text = classifier →
      ofText? classifier = some reading.declared ∧
      ∀ evidence rest, conclude evidence (classifier :: rest)
        = if reading.declared = ⟨.three, true⟩ then python3
          else conclude (evidence.note reading.declared) rest) ∧
    ∀ blanks : String, Blanks blanks.toList →
      (Counts (classifier ++ blanks) ↔ Counts classifier) ∧
      ofText? (classifier ++ blanks) = ofText? classifier ∧
      ∀ front back, ofClassifiers (front ++ (classifier ++ blanks) :: back)
        = ofClassifiers (front ++ classifier :: back) := by
  refine ⟨?_, ?_, ?_, ?_⟩
  · rw [counts_iff]
    constructor
    · rintro ⟨found, here⟩
      obtain ⟨reading, same, -⟩ := Declared.ofText?_eq_some.mp here
      exact ⟨reading, same⟩
    · rintro ⟨reading, same⟩
      exact ⟨reading.declared, Declared.ofText?_eq_some.mpr ⟨reading, same, rfl⟩⟩
  · intro reading other same same'
    exact Reading.text_injective (same'.trans same.symm)
  · intro reading same
    have here : ofText? classifier = some reading.declared :=
      Declared.ofText?_eq_some.mpr ⟨reading, same, rfl⟩
    exact ⟨here, conclude_of_declared here⟩
  · intro blanks blank
    have same := Declared.ofText?_append_blanks classifier blank
    refine ⟨by rw [counts_iff, counts_iff, same], same, fun front back => ?_⟩
    exact conclude_append_congr (fun evidence => conclude_of_same same evidence back) front
      Evidence.none

/-- A reading with numbers in two scripts, the mark, and a line feed at the end. -/
def mixedReading : Reading :=
  ⟨.three, [['٣', '1'], ['0']], true, [' ', '\n'], by decide +kernel, by decide +kernel⟩

lemma mixedReading_text :
    mixedReading.text = "Programming Language :: Python :: 3.٣1.0 :: Only \n" := by
  decide +kernel

/-- The mark decides behind numbers in any script, with one line feed behind it or with more. -/
theorem counts_by_grammar_mixed :
    Counts "Programming Language :: Python :: 3.٣1.0 :: Only \n" ∧
      mixedReading.withBlanks " \n".toList (by decide +kernel) = mixedReading ∧
      ofText? ("Programming Language :: Python :: 3.٣1.0 :: Only \n" ++ "\t\n")
        = some ⟨.three, true⟩ ∧
      conclude ⟨true, false, true⟩ ["Programming Language :: Python :: 3.٣1.0 :: Only \n"]
        = python3 := by
  obtain ⟨counts, unique, reads, blanks⟩ :=
    counts_by_grammar "Programming Language :: Python :: 3.٣1.0 :: Only \n"
  obtain ⟨found, decides⟩ := reads mixedReading mixedReading_text
  obtain ⟨-, kept, -⟩ := blanks "\t\n" (by decide +kernel)
  refine ⟨counts.mpr ⟨mixedReading, mixedReading_text⟩, ?_, kept.trans found, ?_⟩
  · exact unique mixedReading _ mixedReading_text (by decide +kernel)
  · exact (decides ⟨true, false, true⟩ []).trans (if_pos rfl)

/-- A dot without a digit, blanks inside a number, text behind the mark, and half of the mark. -/
example : ∀ tail ∈ ["3.", "3. 1", "3 .1", "3 :: Only.", "3 :: Onl", "33", ""],
    ofText? ("Programming Language :: Python :: " ++ tail) = none := by
  decide +kernel

end Support

end NameSieve
