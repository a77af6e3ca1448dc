import Mathlib.Logic.Relation
import Mathlib.Tactic
import NameSieve.Script.Classifiers

/-!
# The leaves of a setup script

Of a module only its *leaves* declare classifiers: the expression statements and plain assignments
that stand at the top or under conditions.  Which condition they stand under does not matter, and
all other statements might as well be missing.

* `Expr.Contributes` says what the value of a leaf contributes, without a word about how it is
  collected; `Expr.contributes_iff` compares the two.
* `Rewrites` are the changes to a module that should make no difference, at any depth under
  conditions, and `classifiersOf_of_rewrites` says that they make none.
* `rewrites_leavesOf`: by such changes every module comes down to its leaves, in their order.

**`classifiersOf_eq_leaves`** draws them together.
-/

namespace NameSieve.Script

/-! ## What a value contributes -/

/-- The string constants among some expressions, in their order. -/
inductive TextsAmong : List Expr → List String → Prop where
  | nil : TextsAmong [] []
  | text (text : String) {rest : List Expr} {texts : List String} (more : TextsAmong rest texts) :
      TextsAmong (.constant (.text text) :: rest) (text :: texts)
  | other {item : Expr} {rest : List Expr} {texts : List String}
      (noText : ∀ text, item ≠ .constant (.text text)) (more : TextsAmong rest texts) :
      TextsAmong (item :: rest) texts

namespace Expr

/-- A list or a tuple of some items. -/
inductive Lists : Expr → List Expr → Prop where
  | list (items : List Expr) : Lists (.list items) items
  | tuple (items : List Expr) : Lists (.tuple items) items

/-- A call of the name `setup`, or of an attribute called so, with some keyword arguments. -/
inductive SetupCall : Expr → List (Option String × Expr) → Prop where
  | named (arguments : List Expr) (keywords : List (Option String × Expr)) :
      SetupCall (.call (.name "setup") arguments keywords) keywords
  | member (value : Expr) (arguments : List Expr) (keywords : List (Option String × Expr)) :
      SetupCall (.call (.attribute value "setup") arguments keywords) keywords

end Expr

/-- **What a keyword argument contributes**: the string constants of a list or tuple of
classifiers, or nothing. -/
inductive KeywordContributes : Option String × Expr → List String → Prop where
  | classifiers {value : Expr} {items : List Expr} {texts : List String}
      (lists : value.Lists items) (among : TextsAmong items texts) :
      KeywordContributes (some "classifiers", value) texts
  | other {name : Option String} {value : Expr}
      (differs : name = some "classifiers" → ∀ items, ¬value.Lists items) :
      KeywordContributes (name, value) []

/-- **What a value contributes**: as a setup call all that its keyword arguments do, and otherwise
nothing. -/
inductive Expr.Contributes : Expr → List String → Prop where
  | setup {value : Expr} {keywords : List (Option String × Expr)} {found : List (List String)}
      (call : value.SetupCall keywords) (each : List.Forall₂ KeywordContributes keywords found) :
      Contributes value found.flatten
  | other {value : Expr} (noCall : ∀ keywords, ¬value.SetupCall keywords) : Contributes value []

/-! ### How it is collected -/

lemma text?_eq_some {item : Expr} {text : String} :
    item.text? = some text ↔ item = .constant (.text text) := by
  constructor
  · intro found
    unfold Expr.text? at found
    split at found
    · rw [Option.some.inj found]
    · cases found
  · rintro rfl
    rfl

lemma textsAmong_iff {items : List Expr} {texts : List String} :
    TextsAmong items texts ↔ items.filterMap Expr.text? = texts := by
  constructor
  · intro among
    induction among with
    | nil => rfl
    | text text _ ih => rw [List.filterMap_cons_some (text?_eq_some.mpr rfl), ih]
    | other noText _ ih =>
        have skipped := Option.eq_none_iff_forall_ne_some.mpr fun text found =>
          noText text (text?_eq_some.mp found)
        rw [List.filterMap_cons_none skipped, ih]
  · rintro rfl
    induction items with
    | nil => exact .nil
    | cons item rest ih =>
        cases found : item.text? with
        | none =>
            rw [List.filterMap_cons_none found]
            refine .other (fun text same => ?_) ih
            rw [text?_eq_some.mpr same] at found
            cases found
        | some text =>
            rw [List.filterMap_cons_some found, text?_eq_some.mp found]
            exact .text text ih

lemma Expr.Lists.items_eq {value : Expr} {items : List Expr} (lists : value.Lists items) :
    value.items = items := by
  cases lists <;> rfl

lemma Expr.items_of_not_lists {value : Expr} (noItems : ∀ items, ¬value.Lists items) :
    value.items = [] := by
  unfold Expr.items
  split
  · next items => exact absurd (.list items) (noItems items)
  · next items => exact absurd (.tuple items) (noItems items)
  · rfl

lemma KeywordContributes.collected {keyword : Option String × Expr} {texts : List String}
    (contributes : KeywordContributes keyword texts) : keywordClassifiers keyword = texts := by
  cases contributes with
  | classifiers lists among =>
      rw [keywordClassifiers, if_pos rfl, lists.items_eq, textsAmong_iff.mp among]
  | @other name value differs =>
      cases name with
      | none => rfl
      | some name =>
          rw [keywordClassifiers]
          split_ifs with here
          · rw [Expr.items_of_not_lists (differs (congrArg some here)), List.filterMap_nil]
          · rfl

/-- Every keyword argument contributes what is collected from it. -/
lemma keywordContributes_iff {keyword : Option String × Expr} {texts : List String} :
    KeywordContributes keyword texts ↔ keywordClassifiers keyword = texts := by
  refine ⟨KeywordContributes.collected, ?_⟩
  rintro rfl
  obtain ⟨name, value⟩ := keyword
  by_cases lists : name = some "classifiers" ∧ ∃ items, value.Lists items
  · obtain ⟨rfl, items, lists⟩ := lists
    rw [keywordClassifiers, if_pos rfl, lists.items_eq]
    exact .classifiers lists (textsAmong_iff.mpr rfl)
  · have nothing : KeywordContributes (name, value) [] :=
      .other fun here items isList => lists ⟨here, items, isList⟩
    rwa [nothing.collected]

lemma Expr.isSetup_iff {function : Expr} :
    function.isSetup = true
      ↔ function = .name "setup" ∨ ∃ value, function = .attribute value "setup" := by
  constructor
  · intro isSetup
    unfold Expr.isSetup at isSetup
    split at isSetup
    · exact Or.inl (congrArg Expr.name (eq_of_beq isSetup))
    · next value attr => exact Or.inr ⟨value, congrArg (Expr.attribute value) (eq_of_beq isSetup)⟩
    · cases isSetup
  · rintro (rfl | ⟨value, rfl⟩) <;> rfl

lemma Expr.setupCall_iff {value : Expr} {keywords : List (Option String × Expr)} :
    value.SetupCall keywords
      ↔ ∃ function arguments, value = .call function arguments keywords ∧ function.isSetup := by
  constructor
  · intro call
    cases call with
    | named arguments => exact ⟨_, arguments, rfl, rfl⟩
    | member value arguments => exact ⟨_, arguments, rfl, rfl⟩
  · rintro ⟨function, arguments, rfl, isSetup⟩
    rcases Expr.isSetup_iff.mp isSetup with rfl | ⟨value, rfl⟩
    · exact .named arguments keywords
    · exact .member value arguments keywords

lemma Expr.Contributes.collected {value : Expr} {texts : List String}
    (contributes : value.Contributes texts) : value.classifiers = texts := by
  cases contributes with
  | @setup keywords found call each =>
      obtain ⟨function, arguments, rfl, isSetup⟩ := Expr.setupCall_iff.mp call
      have collected : keywords.map keywordClassifiers = found := by
        rw [← List.forall₂_eq_eq_eq, List.forall₂_map_left_iff]
        exact each.imp fun _ _ => KeywordContributes.collected
      rw [Expr.classifiers, if_pos isSetup, List.flatMap_def, collected]
  | other noCall =>
      unfold Expr.classifiers
      split
      · next function arguments keywords =>
          refine if_neg fun isSetup => noCall keywords ?_
          exact Expr.setupCall_iff.mpr ⟨function, arguments, rfl, isSetup⟩
      · rfl

/-- **Every value contributes what is collected from it**, and nothing else. -/
theorem Expr.contributes_iff {value : Expr} {texts : List String} :
    value.Contributes texts ↔ value.classifiers = texts := by
  refine ⟨Expr.Contributes.collected, ?_⟩
  rintro rfl
  by_cases call : ∃ keywords, value.SetupCall keywords
  · obtain ⟨keywords, call⟩ := call
    have contributes : value.Contributes (keywords.map keywordClassifiers).flatten := by
      refine .setup call ?_
      rw [List.forall₂_map_right_iff, List.forall₂_same]
      exact fun keyword _ => keywordContributes_iff.mpr rfl
    rwa [contributes.collected]
  · have nothing : value.Contributes [] := .other fun keywords isCall => call ⟨keywords, isCall⟩
    rwa [nothing.collected]

/-! ## Leaves -/

/-- The value of an expression statement or of a plain assignment. -/
def Stmt.value? : Stmt → Option Expr
  | .expr value => some value
  | .assign _ value => some value
  | _ => none

/-- The statement is a leaf: it has a value. -/
def Stmt.IsLeaf (statement : Stmt) : Prop :=
  ∃ value, statement.value? = some value

/-- The statement is neither an expression statement, nor a plain assignment, nor a condition. -/
def Stmt.Idle (statement : Stmt) : Prop :=
  statement.value? = none ∧ ∀ test body orelse, statement ≠ .ifElse test body orelse

mutual

/-- The leaves of a statement: itself, or those of its branches, or none. -/
def Stmt.leaves : Stmt → List Stmt
  | .expr value => [.expr value]
  | .assign targets value => [.assign targets value]
  | .ifElse _ body orelse => leavesOf body ++ leavesOf orelse
  | _ => []

/-- **The leaves of some statements**, in the order in which they stand. -/
def leavesOf : List Stmt → List Stmt
  | [] => []
  | statement :: rest => statement.leaves ++ leavesOf rest

end

/-- **Changes that make no difference**: a condition gives way to its branches, the first before
the second; a statement that is no leaf and no condition goes, or becomes another such statement;
and all this among other statements, and in the branches of a condition. -/
inductive Rewrites : List Stmt → List Stmt → Prop where
  | unfold (test : Expr) (body orelse : List Stmt) :
      Rewrites [.ifElse test body orelse] (body ++ orelse)
  | delete {statement : Stmt} (idle : statement.Idle) : Rewrites [statement] []
  | exchange {statement other : Stmt} (idle : statement.Idle) (idle' : other.Idle) :
      Rewrites [statement] [other]
  | among (front back : List Stmt) {some others : List Stmt} (rewrites : Rewrites some others) :
      Rewrites (front ++ some ++ back) (front ++ others ++ back)
  | body (test : Expr) {some others : List Stmt} (orelse : List Stmt)
      (rewrites : Rewrites some others) :
      Rewrites [.ifElse test some orelse] [.ifElse test others orelse]
  | orelse (test : Expr) (body : List Stmt) {some others : List Stmt}
      (rewrites : Rewrites some others) :
      Rewrites [.ifElse test body some] [.ifElse test body others]

/-! ### What is collected from them -/

lemma classifiersOf_eq_flatMap (statements : List Stmt) :
    classifiersOf statements = statements.flatMap Stmt.classifiers := by
  induction statements with
  | nil => rfl
  | cons statement rest ih => rw [classifiersOf, ih, List.flatMap_cons]

lemma classifiersOf_append (statements others : List Stmt) :
    classifiersOf (statements ++ others) = classifiersOf statements ++ classifiersOf others := by
  simp only [classifiersOf_eq_flatMap, List.flatMap_append]

lemma classifiersOf_singleton (statement : Stmt) :
    classifiersOf [statement] = statement.classifiers := by
  rw [classifiersOf_eq_flatMap, List.flatMap_singleton]

lemma Stmt.classifiers_of_value? {statement : Stmt} {value : Expr}
    (holds : statement.value? = some value) : statement.classifiers = value.classifiers := by
  unfold Stmt.value? at holds
  split at holds
  · obtain rfl := Option.some.inj holds
    rfl
  · obtain rfl := Option.some.inj holds
    rfl
  · cases holds

lemma Stmt.Idle.classifiers_eq {statement : Stmt} (idle : statement.Idle) :
    statement.classifiers = [] := by
  obtain ⟨noValue, noCondition⟩ := idle
  cases statement with
  | expr value => cases noValue
  | assign targets value => cases noValue
  | ifElse test body orelse => exact absurd rfl (noCondition test body orelse)
  | _ => rfl

/-- **The changes make no difference**: the induction is on the place of the change. -/
theorem classifiersOf_of_rewrites {statements others : List Stmt}
    (rewrites : Rewrites statements others) : classifiersOf others = classifiersOf statements := by
  induction rewrites with
  | unfold test body orelse => rw [classifiersOf_singleton, classifiersOf_append, Stmt.classifiers]
  | delete idle => rw [classifiersOf_singleton, idle.classifiers_eq, classifiersOf]
  | exchange idle idle' =>
      rw [classifiersOf_singleton, classifiersOf_singleton, idle.classifiers_eq,
        idle'.classifiers_eq]
  | among front back _ ih => simp only [classifiersOf_append, ih]
  | body test orelse _ ih => simp only [classifiersOf_singleton, Stmt.classifiers, ih]
  | orelse test body _ ih => simp only [classifiersOf_singleton, Stmt.classifiers, ih]

/-! ### What they lead to -/

/-- Any number of changes, one after another. -/
abbrev RewritesTo : List Stmt → List Stmt → Prop :=
  Relation.ReflTransGen Rewrites

lemma RewritesTo.append {front front' back back' : List Stmt} (first : RewritesTo front front')
    (second : RewritesTo back back') : RewritesTo (front ++ back) (front' ++ back') := by
  have left : RewritesTo (front ++ back) (front' ++ back) :=
    first.lift (· ++ back) fun _ _ rewrites => by simpa using rewrites.among [] back
  have right : RewritesTo (front' ++ back) (front' ++ back') :=
    second.lift (front' ++ ·) fun _ _ rewrites => by simpa using rewrites.among front' []
  exact left.trans right

mutual

lemma Stmt.rewrites_leaves (statement : Stmt) : RewritesTo [statement] statement.leaves := by
  cases statement with
  | expr value => exact .refl
  | assign targets value => exact .refl
  | ifElse test body orelse =>
      rw [Stmt.leaves]
      exact .head (.unfold test body orelse)
        ((rewrites_leavesOf body).append (rewrites_leavesOf orelse))
  | _ => exact .single (.delete ⟨rfl, nofun⟩)

/-- **By such changes statements come down to their leaves.** -/
theorem rewrites_leavesOf (statements : List Stmt) :
    RewritesTo statements (leavesOf statements) := by
  cases statements with
  | nil => exact .refl
  | cons statement rest =>
      rw [leavesOf]
      exact (Stmt.rewrites_leaves statement).append (rewrites_leavesOf rest)

end

/-! ## Whole modules -/

mutual

lemma Stmt.isLeaf_of_mem_leaves (statement : Stmt) : ∀ leaf ∈ statement.leaves, leaf.IsLeaf := by
  cases statement with
  | expr value => exact List.forall_mem_singleton.mpr ⟨value, rfl⟩
  | assign targets value => exact List.forall_mem_singleton.mpr ⟨value, rfl⟩
  | ifElse test body orelse =>
      rw [Stmt.leaves, List.forall_mem_append]
      exact ⟨isLeaf_of_mem_leavesOf body, isLeaf_of_mem_leavesOf orelse⟩
  | _ => exact List.forall_mem_nil _

lemma isLeaf_of_mem_leavesOf (statements : List Stmt) :
    ∀ leaf ∈ leavesOf statements, leaf.IsLeaf := by
  cases statements with
  | nil => exact List.forall_mem_nil _
  | cons statement rest =>
      rw [leavesOf, List.forall_mem_append]
      exact ⟨Stmt.isLeaf_of_mem_leaves statement, isLeaf_of_mem_leavesOf rest⟩

end

/-- What a leaf contributes: what its value does. -/
def Stmt.Contributes (leaf : Stmt) (texts : List String) : Prop :=
  ∃ value, leaf.value? = some value ∧ value.Contributes texts

lemma Stmt.contributes_iff {leaf : Stmt} (isLeaf : leaf.IsLeaf) {texts : List String} :
    leaf.Contributes texts ↔ leaf.classifiers = texts := by
  obtain ⟨value, holds⟩ := isLeaf
  rw [Stmt.classifiers_of_value? holds, ← Expr.contributes_iff]
  constructor
  · rintro ⟨other, holds', contributes⟩
    obtain rfl := Option.some.inj (holds.symm.trans holds')
    exact contributes
  · exact fun contributes => ⟨value, holds, contributes⟩

lemma forall₂_contributes_iff {leaves : List Stmt} (areLeaves : ∀ leaf ∈ leaves, leaf.IsLeaf)
    {contributions : List (List String)} :
    List.Forall₂ Stmt.Contributes leaves contributions
      ↔ leaves.map Stmt.classifiers = contributions := by
  induction leaves generalizing contributions with
  | nil => simp [eq_comm]
  | cons leaf rest ih =>
      obtain ⟨isLeaf, areLeaves⟩ := List.forall_mem_cons.mp areLeaves
      cases contributions with
      | nil => simp
      | cons first more =>
          rw [List.forall₂_cons, Stmt.contributes_iff isLeaf, ih areLeaves, List.map_cons,
            List.cons.injEq]

/-- **A module declares what its leaves contribute**, in their order, and nothing else.  Each leaf
has its contribution.  A module comes down to its leaves by changes that make no difference: by
unfolding conditions, whatever they ask, and by leaving out whatever is no leaf.  And a script
whose tree is the module is read to declare the same. -/
theorem classifiersOf_eq_leaves (module : List Stmt) :
    (∃ contributions, List.Forall₂ Stmt.Contributes (leavesOf module) contributions) ∧
    (∀ contributions, List.Forall₂ Stmt.Contributes (leavesOf module) contributions →
      classifiersOf module = contributions.flatten) ∧
    RewritesTo module (leavesOf module) ∧
    (∀ other, RewritesTo module other → classifiersOf other = classifiersOf module) ∧
    ∀ source, parse? source = some module → classifiers? source = some (classifiersOf module) := by
  have noDifference : ∀ other, RewritesTo module other →
      classifiersOf other = classifiersOf module := by
    intro other rewrites
    induction rewrites with
    | refl => rfl
    | tail _ last ih => rw [classifiersOf_of_rewrites last, ih]
  have areLeaves := isLeaf_of_mem_leavesOf module
  refine ⟨⟨_, (forall₂_contributes_iff areLeaves).mpr rfl⟩, ?_, rewrites_leavesOf module,
    noDifference, ?_⟩
  · intro contributions contribute
    rw [← noDifference _ (rewrites_leavesOf module), classifiersOf_eq_flatMap, List.flatMap_def,
      (forall₂_contributes_iff areLeaves).mp contribute]
  · intro source parsed
    rw [classifiers?, parsed, Option.map_some]

/-- A call with some value for its classifiers. -/
def callWith (function value : Expr) : Expr :=
  .call function [] [(some "classifiers", value)]

/-- Calls under conditions and at the top, one of them with the keyword twice; a call of another
name; and a call in the body of a class. -/
def nested : List Stmt := [
  .ifElse (.name "x")
    [.ifElse (.name "y")
      [.expr (callWith (.attribute (.name "s") "setup")
        (.tuple [.constant (.text "a"), .name "b", .constant (.text "c")]))]
      [.assign [.name "z"] (callWith (.name "setup") (.list [.constant (.text "d")]))]]
    [.expr (callWith (.name "print") (.list [.constant (.text "e")]))],
  .classDef [] "setup" [] [] []
    [.expr (callWith (.name "setup") (.list [.constant (.text "f")]))],
  .expr (.call (.name "setup") [] [(some "name", .constant (.text "g")),
    (some "classifiers", .name "h"), (some "classifiers", .list [.constant (.text "i")])])]

lemma nested_contributes :
    List.Forall₂ Stmt.Contributes (leavesOf nested) [["a", "c"], ["d"], [], ["i"]] := by
  have first : (callWith (.attribute (.name "s") "setup")
      (.tuple [.constant (.text "a"), .name "b", .constant (.text "c")])).Contributes
        [["a", "c"]].flatten :=
    .setup (.member _ _ _)
      (.cons (.classifiers (.tuple _) (.text "a" (.other nofun (.text "c" .nil)))) .nil)
  have second : (callWith (.name "setup") (.list [.constant (.text "d")])).Contributes
      [["d"]].flatten :=
    .setup (.named _ _) (.cons (.classifiers (.list _) (.text "d" .nil)) .nil)
  have third : (callWith (.name "print") (.list [.constant (.text "e")])).Contributes [] := by
    refine .other fun keywords call => ?_
    obtain ⟨function, arguments, same, isSetup⟩ := Expr.setupCall_iff.mp call
    obtain ⟨rfl, -⟩ := Expr.call.inj same
    exact absurd isSetup (by decide)
  have last : (Expr.call (.name "setup") [] [(some "name", .constant (.text "g")),
      (some "classifiers", .name "h"),
      (some "classifiers", .list [.constant (.text "i")])]).Contributes [[], [], ["i"]].flatten :=
    .setup (.named _ _) (.cons (.other fun same => absurd same (by decide))
      (.cons (.other fun _ _ lists => nomatch lists)
        (.cons (.classifiers (.list _) (.text "i" .nil)) .nil)))
  exact .cons ⟨_, rfl, first⟩ (.cons ⟨_, rfl, second⟩ (.cons ⟨_, rfl, third⟩
    (.cons ⟨_, rfl, last⟩ .nil)))

/-- The text of a script with a condition and a function. -/
def script : String :=
  "if x:\n  s.setup(classifiers=('a', b, 'c'))\nelif y:\n  z = setup(classifiers=['d'])\n"
    ++ "def setup():\n  setup(classifiers=['e'])\n"

/-- What is declared is what stands in the leaves; the same module without the class and without
its conditions declares as much.  Of the text of a script all this is read. -/
theorem classifiersOf_eq_leaves_nested :
    classifiersOf nested = ["a", "c", "d", "i"] ∧
    RewritesTo nested (leavesOf nested) ∧
    (leavesOf nested).length = 4 ∧
    classifiersOf (leavesOf nested) = ["a", "c", "d", "i"] ∧
    ∃ module, parse? script = some module ∧ classifiersOf module = ["a", "c", "d"] := by
  obtain ⟨-, together, leaves, noDifference, -⟩ := classifiersOf_eq_leaves nested
  have declared : classifiersOf nested = ["a", "c", "d", "i"] := together _ nested_contributes
  have isScript : (parse? script).isSome := by decide +kernel
  obtain ⟨module, parsed⟩ := Option.isSome_iff_exists.mp isScript
  obtain ⟨-, -, -, -, read⟩ := classifiersOf_eq_leaves module
  have found : classifiers? script = some ["a", "c", "d"] := by decide +kernel
  exact ⟨declared, leaves, rfl, (noDifference _ leaves).trans declared, module, parsed,
    Option.some.inj ((read script parsed).symm.trans found)⟩

end NameSieve.Script
