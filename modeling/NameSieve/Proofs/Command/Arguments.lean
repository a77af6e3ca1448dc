import Mathlib.Data.List.TakeWhile
import Mathlib.Tactic
import NameSieve.Command.Arguments

/-!
# Settings in any order

A setting can be spelled in several ways, and the settings of a command can be given in any order.
`Usage.Gives` says of some arguments that they give settings, however they are spelled and ordered.

The reader goes through the arguments once.  One step of it takes the words of one setting and adds
that to those before (`readFrom_spelled`), and so it finds all that are given, each at its value:
**`read_of_gives`**.
-/

namespace NameSieve

/-! ## Spellings -/

/-- **The words that give a setting a value.**  A flag, which has the empty value, is given by its
name or by its letter.  Another value stands behind an equals sign, or it is a word of its own if
that is not taken for a setting. -/
inductive Setting.Spells (setting : Setting) : String → List String → Prop
  | flag (isFlag : setting.accepts = none) : Spells setting "" ["--" ++ setting.name]
  | letter (isFlag : setting.accepts = none) {c : Char} (short : setting.letter = some c) :
      Spells setting "" [String.ofList ['-', c]]
  | joined {accepts : String → Bool} {value : String} (takes : setting.accepts = some accepts)
      (good : accepts value = true) : Spells setting value ["--" ++ setting.name ++ "=" ++ value]
  | apart {accepts : String → Bool} {value : String} (takes : setting.accepts = some accepts)
      (good : accepts value = true) (bare : Arguments.isDashed value = false) :
      Spells setting value ["--" ++ setting.name, value]

/-- **The arguments give the settings**, which are names with values: they are spellings of these,
in some order. -/
def Usage.Gives (usage : Usage) (arguments : List String) (given : List (String × String)) : Prop :=
  ∃ order words, order.Perm given ∧ arguments = words.flatten ∧
    List.Forall₂ (fun pair words => ∃ setting ∈ usage.settings,
      setting.name = pair.1 ∧ setting.Spells pair.2 words) order words

/-- Among some settings this one is told by its name, which can be told from a value, and by its
letter. -/
structure Setting.DistinctIn (setting : Setting) (settings : List Setting) : Prop where
  byName : settings.find? (fun other => other.name == setting.name) = some setting
  byLetter : ∀ c, setting.letter = some c →
    c ≠ '-' ∧ settings.find? (fun other => other.letter == some c) = some setting
  isNamed : setting.name.toList ≠ []
  noEquals : '=' ∉ setting.name.toList
  notVersion : setting.name ≠ versionFlag.name

/-- The letters of such a name, of which none is an equals sign. -/
lemma Setting.DistinctIn.letters {setting : Setting} {settings : List Setting}
    (distinct : setting.DistinctIn settings) :
    ∃ c cs, String.ofList (c :: cs) = setting.name ∧ setting.name.toList = c :: cs ∧
      '=' ∉ c :: cs := by
  obtain ⟨c, cs, named⟩ := List.exists_cons_of_ne_nil distinct.isNamed
  exact ⟨c, cs, by rw [← named, String.ofList_toList], named, named ▸ distinct.noEquals⟩

namespace Arguments

/-! ## One setting -/

section Step

variable {setting : Setting} {arguments : Arguments}

/-- The arguments with one more setting. -/
def push (arguments : Arguments) (name value : String) : Arguments :=
  { arguments with settings := (name, value) :: arguments.settings }

lemma addSetting_of_new {name : String} (new : arguments.has name = false) (value : String) :
    arguments.addSetting name value = .ok (arguments.push name value) := by
  rw [addSetting, new, if_neg Bool.false_ne_true, push]

lemma addFlag_of_new (isFlag : setting.accepts = none)
    (notVersion : setting.name ≠ versionFlag.name) (new : arguments.has setting.name = false) :
    arguments.addFlag setting = .ok (arguments.push setting.name "") := by
  rw [addFlag, isFlag, if_neg (by simp), if_neg notVersion, addSetting_of_new new]

lemma addValue_of_new {accepts : String → Bool} {value : String}
    (takes : setting.accepts = some accepts) (good : accepts value = true)
    (new : arguments.has setting.name = false) :
    arguments.addValue setting value = .ok (arguments.push setting.name value) := by
  simp only [addValue, takes, good, if_true, addSetting_of_new new]

end Step

/-! ## Words behind dashes -/

section Words

variable {name : List Char} (noEquals : '=' ∉ name)

include noEquals

lemma differs_of_noEquals : ∀ c ∈ name, decide (c ≠ '=') = true := by
  intro c member
  exact decide_eq_true fun same => noEquals (same ▸ member)

lemma takeWhile_name : name.takeWhile (· ≠ '=') = name :=
  List.takeWhile_eq_self_iff.mpr (differs_of_noEquals noEquals)

lemma dropWhile_name : name.dropWhile (· ≠ '=') = [] :=
  List.dropWhile_eq_nil_iff.mpr (differs_of_noEquals noEquals)

lemma takeWhile_name_equals (value : List Char) :
    (name ++ '=' :: value).takeWhile (· ≠ '=') = name := by
  rw [List.takeWhile_append_of_pos (differs_of_noEquals noEquals)]
  simp

lemma dropWhile_name_equals (value : List Char) :
    (name ++ '=' :: value).dropWhile (· ≠ '=') = '=' :: value := by
  rw [List.dropWhile_append_of_pos (differs_of_noEquals noEquals)]
  simp

end Words

lemma isDashed_of_toList {word : String} {c : Char} {cs : List Char}
    (spelled : word.toList = '-' :: c :: cs) : isDashed word = true := by
  rw [isDashed, spelled]
  rfl

/-! ## Reading -/

section Reading

variable {usage : Usage} {setting : Setting} {arguments : Arguments}
  (distinct : setting.DistinctIn usage.settings) (new : arguments.has setting.name = false)
  (rest : List String)

include distinct new

lemma readFrom_flag (isFlag : setting.accepts = none) :
    readFrom usage arguments false (("--" ++ setting.name) :: rest)
      = readFrom usage (arguments.push setting.name "") false rest := by
  obtain ⟨c, cs, name, named, noEquals⟩ := distinct.letters
  have spelled : ("--" ++ setting.name).toList = '-' :: '-' :: c :: cs := by
    rw [String.toList_append, named]
    rfl
  have added := addFlag_of_new isFlag distinct.notVersion new
  simp only [readFrom, isDashed_of_toList spelled, spelled, takeWhile_name noEquals,
    dropWhile_name noEquals, name, distinct.byName, isFlag, added]
  rfl

lemma readFrom_joined {accepts : String → Bool} {value : String}
    (takes : setting.accepts = some accepts) (good : accepts value = true) :
    readFrom usage arguments false (("--" ++ setting.name ++ "=" ++ value) :: rest)
      = readFrom usage (arguments.push setting.name value) false rest := by
  obtain ⟨c, cs, name, named, noEquals⟩ := distinct.letters
  have spelled : ("--" ++ setting.name ++ "=" ++ value).toList
      = '-' :: '-' :: c :: (cs ++ '=' :: value.toList) := by
    simp only [String.toList_append, named, List.append_assoc]
    rfl
  have added := addValue_of_new takes good new
  have before := takeWhile_name_equals noEquals value.toList
  have behind := dropWhile_name_equals noEquals value.toList
  rw [List.cons_append] at before behind
  simp only [readFrom, isDashed_of_toList spelled, spelled, before, behind, name, distinct.byName,
    String.ofList_toList, added]
  rfl

lemma readFrom_apart {accepts : String → Bool} {value : String}
    (takes : setting.accepts = some accepts) (good : accepts value = true)
    (bare : isDashed value = false) :
    readFrom usage arguments false (("--" ++ setting.name) :: value :: rest)
      = readFrom usage (arguments.push setting.name value) false rest := by
  obtain ⟨c, cs, name, named, noEquals⟩ := distinct.letters
  have spelled : ("--" ++ setting.name).toList = '-' :: '-' :: c :: cs := by
    rw [String.toList_append, named]
    rfl
  have added := addValue_of_new takes good new
  rw [readFrom]
  simp only [isDashed_of_toList spelled, spelled, takeWhile_name noEquals,
    dropWhile_name noEquals, name, distinct.byName, takes, added, bare]
  rfl

lemma readFrom_letter {c : Char} (isFlag : setting.accepts = none)
    (short : setting.letter = some c) :
    readFrom usage arguments false (String.ofList ['-', c] :: rest)
      = readFrom usage (arguments.push setting.name "") false rest := by
  obtain ⟨noDash, byLetter⟩ := distinct.byLetter c short
  have spelled : (String.ofList ['-', c]).toList = ['-', c] := String.toList_ofList
  have added := addFlag_of_new isFlag distinct.notVersion new
  have letters : addLetters usage.settings arguments [c]
      = .ok (arguments.push setting.name "") := by
    simp only [addLetters, byLetter, added]
  rw [readFrom, isDashed_of_toList spelled, if_neg (by simp), spelled]
  split
  · next same => exact absurd (List.cons.inj (List.cons.inj same).2).1 noDash
  · next same => exact absurd (List.cons.inj (List.cons.inj same).2).1 noDash
  · rw [List.tail_cons, letters]

/-- **One step of the reader** takes the words of one setting. -/
lemma readFrom_spelled {value : String} {words : List String}
    (spelled : setting.Spells value words) :
    readFrom usage arguments false (words ++ rest)
      = readFrom usage (arguments.push setting.name value) false rest := by
  cases spelled with
  | flag isFlag => exact readFrom_flag distinct new rest isFlag
  | letter isFlag short => exact readFrom_letter distinct new rest isFlag short
  | joined takes good => exact readFrom_joined distinct new rest takes good
  | apart takes good bare => exact readFrom_apart distinct new rest takes good bare

end Reading

/-! ## Looking settings up -/

lemma has_push (arguments : Arguments) (name value other : String) :
    (arguments.push name value).has other = (other == name || arguments.has other) := by
  rw [has, push, List.lookup_cons]
  cases other == name <;> rfl

lemma has_iff {arguments : Arguments} {name : String} :
    arguments.has name = true ↔ name ∈ arguments.settings.map Prod.fst := by
  rw [has, List.lookup_isSome_iff, List.mem_map]
  refine exists_congr fun pair => and_congr_right fun _ => ?_
  rw [beq_iff_eq, eq_comm]

/-- A setting that is given once has the value that is given. -/
lemma value?_of_mem {arguments : Arguments} {name value : String}
    (once : (arguments.settings.map Prod.fst).Nodup)
    (member : (name, value) ∈ arguments.settings) : arguments.value? name = some value := by
  obtain ⟨before, behind, settings⟩ := List.mem_iff_append.mp member
  rw [value?, List.lookup_eq_some_iff]
  refine ⟨before, behind, settings, fun pair hpair => ?_⟩
  rw [settings, List.map_append, List.map_cons] at once
  rw [bne_iff_ne]
  rintro rfl
  exact (List.nodup_append.mp once).2.2 _ (List.mem_map_of_mem hpair) _ List.mem_cons_self rfl

/-! ## All arguments -/

lemma readFrom_flatten {usage : Usage} {settings : List Setting}
    (distinct : ∀ setting ∈ settings, setting.DistinctIn usage.settings)
    {order : List (String × String)} {words : List (List String)}
    (spelled : List.Forall₂ (fun pair words => ∃ setting ∈ settings,
      setting.name = pair.1 ∧ setting.Spells pair.2 words) order words)
    (once : (order.map Prod.fst).Nodup) {arguments : Arguments}
    (new : ∀ pair ∈ order, arguments.has pair.1 = false) :
    readFrom usage arguments false words.flatten
      = .ok { arguments with settings := order.reverse ++ arguments.settings } := by
  induction spelled generalizing arguments with
  | nil => rfl
  | @cons pair first order more head tail ih =>
      obtain ⟨setting, member, named, spells⟩ := head
      obtain ⟨newHead, newTail⟩ := List.forall_mem_cons.mp new
      rw [List.map_cons, List.nodup_cons] at once
      have newTail' : ∀ later ∈ order, (arguments.push pair.1 pair.2).has later.1 = false := by
        intro later hlater
        have differ : later.1 ≠ pair.1 := by
          intro same
          exact once.1 (same ▸ List.mem_map_of_mem hlater)
        rw [has_push, newTail later hlater, beq_false_of_ne differ, Bool.or_false]
      have step := readFrom_spelled (distinct setting member) (named ▸ newHead) more.flatten spells
      rw [List.flatten_cons, step, named, ih once.2 newTail']
      simp only [push, List.reverse_cons, List.append_assoc, List.cons_append, List.nil_append]

/-- **Arguments that give some settings are read as these**, if none is given twice. -/
theorem read_of_gives {usage : Usage} {arguments : List String} {given : List (String × String)}
    (distinct : ∀ setting ∈ usage.settings, setting.DistinctIn (versionFlag :: usage.settings))
    (gives : usage.Gives arguments given) (once : (given.map Prod.fst).Nodup) :
    ∃ found, read usage arguments = .ok found ∧ found.settings.Perm given := by
  obtain ⟨order, words, permuted, rfl, spelled⟩ := gives
  have once' : (order.map Prod.fst).Nodup := (permuted.map Prod.fst).nodup_iff.mpr once
  refine ⟨_, readFrom_flatten distinct spelled once' fun _ _ => rfl, ?_⟩
  rw [List.append_nil]
  exact (List.reverse_perm order).trans permuted

end Arguments

end NameSieve
