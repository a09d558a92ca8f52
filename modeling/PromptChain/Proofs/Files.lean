/-
**Paths, places and patterns.**

A path that is a directory, a slash and one more step comes apart as it was put together
(`splitLast_join`, `Path.ofRawText_join`), and leads to a place in that directory
(`Tree.locate_join`, `Tree.locate_joinText`). A path still leads where it led as long as no directory is
lost (`Tree.locate_mono`), which holds when directories are made and when files are put where there was
none (`Tree.makeDirectories_located`, `Tree.keeps_put`). A pattern that is a text, a star and a text stands
for the names that start and end so (`Wild.matchesAll_star_iff`). From this, the names that such a pattern
finds in a directory (`glob_join`).
-/

import PromptChain.Files.Glob
import PromptChain.Proofs.Text

namespace PromptChain.Files

/-! ### A directory and one more step -/

/-- A directory by a text that does not end in a slash. -/
structure IsStem (stem : String) : Prop where
  someText : stem.toList ≠ []
  unclosed : stem.toList.getLast? ≠ some '/'

section Join

variable {stem name : String}

theorem toList_join : (stem ++ "/" ++ name).toList = stem.toList ++ '/' :: name.toList := by
  simp [String.toList_append]

theorem relative_of_oneStep (oneStep : '/' ∉ name.toList) :
    ¬ (name.toList.head? == some '/') = true := by
  intro isHead
  exact oneStep (List.mem_of_mem_head? (beq_iff_eq.mp isHead))

theorem joinText_stem (isStem : IsStem stem) (oneStep : '/' ∉ name.toList) :
    joinText stem name = stem ++ "/" ++ name := by
  have unclosed : ¬ (stem == "" || stem.toList.getLast? == some '/') = true := by
    rw [Bool.or_eq_true, beq_iff_eq, beq_iff_eq]
    rintro (rfl | isLast)
    · exact isStem.someText rfl
    · exact isStem.unclosed isLast
  rw [joinText, if_neg (relative_of_oneStep oneStep), if_neg unclosed]

theorem joinText_slash (oneStep : '/' ∉ name.toList) :
    joinText (stem ++ "/") name = stem ++ "/" ++ name := by
  have closed : (stem ++ "/" == "" || (stem ++ "/").toList.getLast? == some '/') = true := by
    simp [String.toList_append]
  rw [joinText, if_neg (relative_of_oneStep oneStep), if_pos closed]

/-- **The parts of a path are found again.** -/
theorem splitLast_join (isStem : IsStem stem) (oneStep : '/' ∉ name.toList) :
    splitLast (stem ++ "/" ++ name) = (stem, name) := by
  have isLast : ((stem ++ "/" ++ name).toList.reverse.takeWhile (· != '/')).reverse = name.toList := by
    rw [toList_join, List.reverse_append, List.reverse_cons, List.append_assoc, List.singleton_append,
      List.takeWhile_append_of_pos, List.takeWhile_cons_of_neg (by simp), List.append_nil,
      List.reverse_reverse]
    intro c isChar
    rw [bne_iff_ne]
    rintro rfl
    exact oneStep (List.mem_reverse.mp isChar)
  have isDirectory : (stem ++ "/" ++ name).toList.take
      ((stem ++ "/" ++ name).length - name.toList.length) = stem.toList ++ ['/'] := by
    have same : stem.toList ++ '/' :: name.toList = (stem.toList ++ ['/']) ++ name.toList := by simp
    rw [← String.length_toList, toList_join, same, List.length_append, Nat.add_sub_cancel,
      List.take_left]
  have isShorter : ((stem.toList ++ ['/']).reverse.dropWhile (· == '/')).reverse = stem.toList := by
    rw [List.reverse_append, List.reverse_singleton, List.singleton_append,
      List.dropWhile_cons_of_pos (by simp)]
    cases reversed : stem.toList.reverse with
    | nil => exact absurd (List.reverse_eq_nil_iff.mp reversed) isStem.someText
    | cons c rest =>
      have unclosed : ¬ (c == '/') = true := by
        intro isSlash
        refine isStem.unclosed ?_
        rw [← List.head?_reverse, reversed, beq_iff_eq.mp isSlash]
        rfl
      rw [List.dropWhile_cons_of_neg (p := (· == '/')) unclosed, ← reversed, List.reverse_reverse]
  have someText : ¬ stem.toList.isEmpty = true := by
    rw [List.isEmpty_iff]
    exact isStem.someText
  simp only [splitLast, isLast, isDirectory, isShorter, if_neg someText, String.ofList_toList]

namespace Path

/-- The root of a text is that of a longer one, unless a slash is put to its last slash. -/
theorem takeRoot_append {text rest : List Char}
    (apart : text = [] ∨ text.getLast? = some '/' → rest.head? ≠ some '/') :
    takeRoot (text ++ rest) = ((takeRoot text).1, (takeRoot text).2 ++ rest) := by
  fun_cases takeRoot text with
  | case1 after => rfl
  | case2 after noThird | case3 after _ noThird =>
    cases after with
    | nil => cases rest <;> simp_all [takeRoot]
    | cons c after =>
      have noSlash : c ≠ '/' := fun isSlash => noThird after (by rw [isSlash])
      simp [takeRoot, noSlash]
  | case4 _ _ _ noFirst =>
    cases text with
    | nil => cases rest <;> simp_all [takeRoot]
    | cons c after =>
      have noSlash : c ≠ '/' := fun isSlash => noFirst after (by rw [isSlash])
      simp [takeRoot, noSlash]

theorem takeRoot_stem (isStem : IsStem stem) (rest : List Char) :
    takeRoot (stem.toList ++ rest) = ((takeRoot stem.toList).1, (takeRoot stem.toList).2 ++ rest) :=
  takeRoot_append fun closed => absurd closed (not_or.mpr ⟨isStem.someText, isStem.unclosed⟩)

theorem getLast?_takeRoot {text : List Char} (unclosed : text.getLast? ≠ some '/') :
    (takeRoot text).2.getLast? ≠ some '/' := by
  fun_cases takeRoot text <;> grind [List.getLast?_cons]

theorem stepsOf_join (text : List Char) {step : List Char} (someText : step ≠ [])
    (oneStep : '/' ∉ step) :
    stepsOf (text ++ '/' :: step) = stepsOf text ++ [String.ofList step] := by
  have kept : [step].filter (fun part => !part.isEmpty) = [step] := by simpa using someText
  rw [stepsOf, Text.splitOnChar_eq_splitOn, List.splitOn_append_cons_self,
    List.splitOn_eq_singleton oneStep, List.filter_append, kept, List.map_append, stepsOf,
    Text.splitOnChar_eq_splitOn]
  rfl

theorem stepsOf_closed (text : List Char) : stepsOf (text ++ ['/']) = stepsOf text := by
  rw [stepsOf, Text.splitOnChar_eq_splitOn, List.splitOn_append_cons_self, List.filter_append,
    stepsOf, Text.splitOnChar_eq_splitOn]
  simp

/-- The root and the steps of what does not end in a slash. -/
theorem ofRawText_stem (isStem : IsStem stem) :
    ofRawText stem = ⟨(takeRoot stem.toList).1, stepsOf (takeRoot stem.toList).2⟩ := by
  have unclosed : ¬ ((takeRoot stem.toList).2.getLast? == some '/') = true := by
    rw [beq_iff_eq]
    exact getLast?_takeRoot isStem.unclosed
  simp only [ofRawText, if_neg unclosed, List.append_nil]

/-- The path of a directory and one more step. -/
theorem ofRawText_join (isStem : IsStem stem) (someName : name.toList ≠ [])
    (oneStep : '/' ∉ name.toList) :
    ofRawText (stem ++ "/" ++ name)
      = ⟨(ofRawText stem).root, (ofRawText stem).steps ++ [name]⟩ := by
  have joined : IsStem (stem ++ "/" ++ name) := by
    refine ⟨by simp, ?_⟩
    rw [toList_join, List.getLast?_append_of_ne_nil _ (List.cons_ne_nil _ _),
      List.getLast?_cons_of_ne_nil someName]
    intro isLast
    exact oneStep (List.mem_of_getLast? isLast)
  rw [ofRawText_stem joined, ofRawText_stem isStem, toList_join,
    takeRoot_stem isStem, stepsOf_join _ someName oneStep,
    String.ofList_toList]

/-- A slash at the end asks for a directory. -/
theorem ofRawText_slash (isStem : IsStem stem) :
    ofRawText (stem ++ "/") = ⟨(ofRawText stem).root, (ofRawText stem).steps ++ ["."]⟩ := by
  have isText : (stem ++ "/").toList = stem.toList ++ ['/'] := by simp [String.toList_append]
  have closed : ((takeRoot stem.toList).2 ++ ['/']).getLast? == some '/' := by simp
  rw [ofRawText_stem isStem]
  simp only [ofRawText, isText, takeRoot_stem isStem, stepsOf_closed, if_pos closed]

/-- What follows the root of a path that ends in a slash is nothing, or ends in one. -/
theorem takeRoot_closed {text : List Char} (closed : text = [] ∨ text.getLast? = some '/') :
    (takeRoot text).2 = [] ∨ ∃ steps, (takeRoot text).2 = steps ++ ['/'] := by
  rw [← List.getLast?_eq_some_iff]
  rcases closed with rfl | isLast
  · exact Or.inl rfl
  · fun_cases takeRoot text with
    | case1 after | case2 after | case3 after => cases after <;> simp_all
    | case4 => exact Or.inr isLast

/-- The path of a directory whose text ends in a slash, and that of one more step. -/
theorem ofRawText_closed (closed : stem.toList = [] ∨ stem.toList.getLast? = some '/')
    (someName : name.toList ≠ []) (oneStep : '/' ∉ name.toList) :
    ∃ root steps, (ofRawText stem = ⟨root, steps⟩ ∨ ofRawText stem = ⟨root, steps ++ ["."]⟩) ∧
      ofRawText (stem ++ name) = ⟨root, steps ++ [name]⟩ := by
  have noSlash : name.toList.head? ≠ some '/' := fun isFirst => oneStep (List.mem_of_head? isFirst)
  have isOpen (text : List Char) : ¬ ((text ++ name.toList).getLast? == some '/') = true := by
    rw [List.getLast?_append_of_ne_nil _ someName, beq_iff_eq]
    exact fun isLast => oneStep (List.mem_of_getLast? isLast)
  refine ⟨(takeRoot stem.toList).1, stepsOf (takeRoot stem.toList).2, ?_⟩
  simp only [ofRawText, String.toList_append, takeRoot_append fun _ => noSlash, if_neg (isOpen _),
    List.append_nil]
  rcases takeRoot_closed closed with isNil | ⟨steps, isSteps⟩
  · have isName : stepsOf name.toList = [name] := by
      rw [stepsOf, Text.splitOnChar_eq_splitOn, List.splitOn_eq_singleton oneStep]
      simp [someName]
    rw [isNil, List.nil_append, isName]
    exact ⟨Or.inl rfl, rfl⟩
  · have isName : stepsOf (steps ++ ['/'] ++ name.toList) = stepsOf steps ++ [name] := by
      rw [List.append_assoc, List.singleton_append, stepsOf_join _ someName oneStep, String.ofList_toList]
    rw [isSteps, isName, stepsOf_closed]
    exact ⟨Or.inr (by simp), rfl⟩

end Path

end Join

/-! ### Places in a tree -/

namespace Tree

variable {tree before after : Tree} {here place : Place} {entry : Entry} {now : Int}

/-- Some steps and more are followed one part after the other. -/
theorem follow_append (tree : Tree) (here : Place) (first second : List String) :
    tree.follow here (first ++ second)
      = (tree.follow here first).bind fun place => tree.follow place second := by
  induction first generalizing here with
  | nil => rfl
  | cons step rest ih =>
    simp only [List.cons_append, follow]
    split_ifs
    · rfl
    · rfl
    · exact ih here
    · rfl
    · exact ih here.dropLast
    · rfl
    · exact ih (here ++ [step])

theorem locate_append (tree : Tree) (here : Place) (root : String) (first second : List String) :
    tree.locate here ⟨root, first ++ second⟩
      = (tree.locate here ⟨root, first⟩).bind fun place => tree.follow place second := by
  simp only [locate, follow_append]
  split_ifs <;> rfl

/-- **One more step leads into a directory**, if it is not too long. -/
theorem locate_join {stem name : String} (isStem : IsStem stem)
    (located : tree.locate here (.ofRawText stem) = .ok place) (isDirectory : tree.isDirectory place)
    (someName : name.toList ≠ []) (oneStep : '/' ∉ name.toList) (noPoint : name ≠ ".")
    (noParent : name ≠ "..") :
    tree.locate here (.ofRawText (stem ++ "/" ++ name))
      = if longestName < name.utf8ByteSize then .error .nameTooLong else .ok (place ++ [name]) := by
  rw [Path.ofRawText_join isStem someName oneStep, locate_append, located]
  simp [Except.bind, follow, isDirectory, noPoint, noParent]

/-- A point at the end of a path stays where it is. -/
theorem locate_of_point {root : String} {steps : List String}
    (located : tree.locate here ⟨root, steps ++ ["."]⟩ = .ok place) :
    tree.locate here ⟨root, steps⟩ = .ok place := by
  rw [locate_append] at located
  cases before : tree.locate here ⟨root, steps⟩ with
  | error issue => simp [before, Except.bind] at located
  | ok first =>
    by_cases isDirectory : tree.isDirectory first = true
    · simpa [before, Except.bind, follow, isDirectory] using located
    · simp [before, Except.bind, follow, isDirectory] at located

/-- What a path with a slash at its end names is named without it too. -/
theorem locate_of_slash {stem : String} (isStem : IsStem stem)
    (located : tree.locate here (.ofRawText (stem ++ "/")) = .ok place) :
    tree.locate here (.ofRawText stem) = .ok place := by
  rw [Path.ofRawText_slash isStem] at located
  exact locate_of_point located

/-- **One more step leads into a directory**, however its path ends. -/
theorem locate_joinText {base name : String} (located : tree.locate here (.ofRawText base) = .ok place)
    (isDirectory : tree.isDirectory place) (someName : name.toList ≠ []) (oneStep : '/' ∉ name.toList)
    (noPoint : name ≠ ".") (noParent : name ≠ "..") :
    tree.locate here (.ofRawText (joinText base name))
      = if longestName < name.utf8ByteSize then .error .nameTooLong else .ok (place ++ [name]) := by
  by_cases closed : base.toList = [] ∨ base.toList.getLast? = some '/'
  · have isClosed : (base == "" || base.toList.getLast? == some '/') = true := by
      simpa [String.toList_eq_nil_iff] using closed
    obtain ⟨root, steps, isBase, isPath⟩ := Path.ofRawText_closed closed someName oneStep
    have reached : tree.locate here ⟨root, steps⟩ = .ok place := by
      rcases isBase with isBase | isBase
      · rw [← isBase, located]
      · rw [isBase] at located
        exact locate_of_point located
    rw [joinText, if_neg (relative_of_oneStep oneStep), if_pos isClosed, isPath, locate_append, reached]
    simp [Except.bind, follow, isDirectory, noPoint, noParent]
  · rw [not_or] at closed
    have isStem : IsStem base := ⟨closed.1, closed.2⟩
    rw [joinText_stem isStem oneStep]
    exact locate_join isStem located isDirectory someName oneStep noPoint noParent

/-- A tree with all directories of another one. -/
def Keeps (before after : Tree) : Prop := ∀ place, before.isDirectory place → after.isDirectory place

theorem follow_mono (keeps : Keeps before after) {steps : List String}
    (followed : before.follow here steps = .ok place) :
    after.follow here steps = .ok place := by
  induction steps generalizing here with
  | nil => exact followed
  | cons step rest ih =>
    rw [follow] at followed ⊢
    by_cases isDirectory : before.isDirectory here = true
    · simp only [isDirectory, keeps here isDirectory, Bool.not_true, Bool.false_eq_true, if_false]
        at followed ⊢
      split_ifs at followed ⊢ with isPoint isParent isEmpty isLong
      · exact ih followed
      · exact ih followed
      · exact ih followed
    · simp [isDirectory] at followed

/-- **A path leads where it led**, as long as no directory is lost. -/
theorem locate_mono (keeps : Keeps before after) {path : Path} (located : before.locate here path = .ok place) :
    after.locate here path = .ok place := by
  rw [locate] at located ⊢
  by_cases isRelative : (path.root == "") = true
  · rw [if_pos isRelative] at located ⊢
    exact follow_mono keeps located
  · rw [if_neg isRelative] at located ⊢
    by_cases hasRoot : before.isDirectory rootPlace = true
    · rw [if_pos hasRoot] at located
      rw [if_pos (keeps rootPlace hasRoot)]
      exact follow_mono keeps located
    · rw [if_neg hasRoot] at located
      contradiction

/-! ### What is put into a tree -/

/-- An entry is replaced where it stands. -/
theorem find?_replace (entries : List Entry) (entry : Entry) (place : Place) :
    (entries.map fun other => if other.place == entry.place then entry else other).find?
        (fun other => other.place == place)
      = (entries.find? fun other => other.place == place).map fun other =>
          if entry.place = place then entry else other := by
  rw [List.find?_map]
  have samePlace : ((fun other : Entry => other.place == place) ∘ fun other =>
      if other.place == entry.place then entry else other) = fun other => other.place == place := by
    funext other
    by_cases same : other.place = entry.place <;> simp [same]
  rw [samePlace]
  cases found : entries.find? fun other => other.place == place with
  | none => rfl
  | some other =>
    have atPlace : other.place = place := by simpa using List.find?_some found
    rw [Option.map_some, Option.map_some, atPlace]
    by_cases same : entry.place = place
    · rw [if_pos same, if_pos (beq_iff_eq.mpr same.symm)]
    · rw [if_neg same, if_neg (by simpa using Ne.symm same)]

/-- **What is at a place** after something was put there or elsewhere. -/
theorem entry?_put (tree : Tree) (entry : Entry) (place : Place) :
    Tree.entry? (tree.put entry) place = if entry.place = place then some entry else tree.entry? place := by
  rw [put]
  split_ifs with isThere isPlace isPlace
  · rw [ entry?, find?_replace]
    subst isPlace
    obtain ⟨other, found⟩ := Option.isSome_iff_exists.mp
      (List.find?_isSome.mpr (List.any_eq_true.mp isThere))
    rw [found, Option.map_some, if_pos rfl]
  · rw [ entry?, find?_replace, entry?]
    simp only [if_neg isPlace, Option.map_id']
  · subst isPlace
    have isNew : tree.entries.find? (fun other => other.place == entry.place) = none := by
      rw [← Option.not_isSome_iff_eq_none, List.find?_isSome, ← List.any_eq_true]
      exact isThere
    simp [ entry?, isNew]
  · simp [ entry?, isPlace]

theorem isDirectory_put_self (isDirectory : entry.content.isNone) :
    (tree.put entry).isDirectory entry.place := by
  rw [Tree.isDirectory, entry?_put, if_pos rfl]
  simp [isDirectory]

/-- **No directory is lost** unless a file is put in its place. -/
theorem keeps_put (noLoss : entry.content.isNone ∨ tree.isDirectory entry.place = false) :
    Keeps tree (tree.put entry) := by
  intro place isDirectory
  by_cases same : entry.place = place
  · subst same
    rcases noLoss with isNone | noDirectory
    · exact isDirectory_put_self isNone
    · rw [isDirectory] at noDirectory
      contradiction
  · rw [Tree.isDirectory, entry?_put, if_neg same]
    exact isDirectory

theorem put_of_entry?_eq_none (isNew : tree.entry? entry.place = none) :
    tree.put entry = ⟨tree.entries ++ [entry]⟩ := by
  have absent : ¬ (tree.entries.any fun other => other.place == entry.place) = true := by
    rw [List.any_eq_true, ← List.find?_isSome, Option.not_isSome_iff_eq_none]
    exact isNew
  rw [put, if_neg absent]

/-! ### Directories that were made -/

/-- A directory that was made is where its path leads. -/
theorem makeDirectory_located {path : Path} (made : before.makeDirectory here path now = .ok after) :
    ∃ place, after.locate here path = .ok place ∧ after.isDirectory place := by
  rw [makeDirectory] at made
  cases located : before.locate here path with
  | error issue => simp [located] at made
  | ok place =>
    simp only [located] at made
    split_ifs at made with isDirectory isFile noParent
    · obtain rfl := Except.ok.inj made
      exact ⟨place, located, isDirectory⟩
    · obtain rfl := Except.ok.inj made
      exact ⟨place, locate_mono (keeps_put (.inl rfl)) located, isDirectory_put_self rfl⟩

/-- The last directory of several is made by itself. -/
theorem makeEach_last {last : String} {paths : List String}
    (made : before.makeEach here now (paths ++ [last]) = .ok after) :
    ∃ between : Tree, between.makeDirectory here (.ofRawText last) now = .ok after := by
  induction paths generalizing before with
  | nil =>
    rw [List.nil_append, makeEach] at made
    cases first : before.makeDirectory here (.ofRawText last) now with
    | error issue => simp [first] at made
    | ok between =>
      simp only [first, makeEach] at made
      obtain rfl := Except.ok.inj made
      exact ⟨before, first⟩
  | cons path paths ih =>
    rw [List.cons_append, makeEach] at made
    cases first : before.makeDirectory here (.ofRawText path) now with
    | error issue =>
      simp only [first] at made
      split_ifs at made
      exact ih made
    | ok between =>
      simp only [first] at made
      exact ih made

/-- **The directory of a path is there** after it was made. -/
theorem makeDirectories_located {path : String} (made : before.makeDirectories here path now = .ok after) :
    ∃ place, after.locate here (.ofRawText path) = .ok place ∧ after.isDirectory place := by
  rw [makeDirectories] at made
  split_ifs at made
  rw [ancestry, List.map_append, List.map_singleton, String.ofList_toList] at made
  obtain ⟨between, last⟩ := makeEach_last made
  exact makeDirectory_located last

end Tree

/-! ### Patterns with a star -/

namespace Wild

/-- A character that stands for itself in a pattern. -/
def IsPlain (c : Char) : Prop := c ≠ '*' ∧ c ≠ '?' ∧ c ≠ '['

theorem readFrom_plain {text : List Char} (plain : ∀ c ∈ text, IsPlain c) (fuel : Nat)
    (rest : List Char) :
    readFrom (text.length + fuel) (text ++ rest) = text.map char ++ readFrom fuel rest := by
  induction text with
  | nil => simp
  | cons c text ih =>
    obtain ⟨noStar, noMark, noBracket⟩ := plain c List.mem_cons_self
    rw [List.length_cons, Nat.add_right_comm, List.cons_append, readFrom,
      ih (List.forall_mem_cons.mp plain).2, List.map_cons, List.cons_append]
    · exact noStar
    · exact noMark
    · exact noBracket

theorem mem_endings {text ending : List Char} : ending ∈ endings text ↔ ending <:+ text := by
  induction text with
  | nil => simp [endings]
  | cons c text ih => rw [endings, List.mem_cons, ih, List.suffix_cons_iff]

/-- Characters stand for the start of a text. -/
theorem matchesAll_chars (chars : List Char) (pieces : List Wild) (text : List Char) :
    matchesAll (chars.map char ++ pieces) text = true
      ↔ ∃ rest, text = chars ++ rest ∧ matchesAll pieces rest = true := by
  induction chars generalizing text with
  | nil => simp
  | cons c chars ih =>
    cases text with
    | nil => simp [matchesAll]
    | cons d text =>
      rw [List.map_cons, List.cons_append, matchesAll, Bool.and_eq_true, ih, accepts, beq_iff_eq]
      · constructor
        · rintro ⟨rfl, rest, rfl, matched⟩
          exact ⟨rest, rfl, matched⟩
        · rintro ⟨rest, same, matched⟩
          obtain ⟨rfl, rfl⟩ := List.cons.inj same
          exact ⟨rfl, rest, rfl, matched⟩
      · simp

/-- **A text, a star and a text** stand for what starts and ends so. -/
theorem matchesAll_star_iff {start tail text : String} (plainStart : ∀ c ∈ start.toList, IsPlain c)
    (plainTail : ∀ c ∈ tail.toList, IsPlain c) :
    matchesAll (ofText (start ++ "*" ++ tail)) text.toList = true
      ↔ ∃ middle, text.toList = start.toList ++ middle ++ tail.toList := by
  have pieces : ofText (start ++ "*" ++ tail) = start.toList.map char ++ many :: tail.toList.map char := by
    have isText : (start ++ "*" ++ tail).toList = start.toList ++ '*' :: (tail.toList ++ []) := by
      simp [String.toList_append]
    rw [ofText, ← String.length_toList, isText, List.length_append, readFrom_plain plainStart,
      List.length_cons, readFrom, List.length_append, readFrom_plain plainTail]
    simp [readFrom]
  have isTail (rest : List Char) :
      matchesAll (tail.toList.map char) rest = true ↔ rest = tail.toList := by
    rw [← List.append_nil (tail.toList.map char), matchesAll_chars]
    constructor
    · rintro ⟨after, rfl, nothing⟩
      rw [List.isEmpty_iff.mp nothing, List.append_nil]
    · rintro rfl
      exact ⟨[], (List.append_nil _).symm, rfl⟩
  rw [pieces, matchesAll_chars]
  constructor
  · rintro ⟨rest, whole, matched⟩
    obtain ⟨ending, member, isEnding⟩ := List.any_eq_true.mp matched
    obtain ⟨middle, rfl⟩ := mem_endings.mp member
    rw [isTail] at isEnding
    exact ⟨middle, by rw [whole, isEnding, List.append_assoc]⟩
  · rintro ⟨middle, whole⟩
    refine ⟨middle ++ tail.toList, by rw [whole, List.append_assoc], List.any_eq_true.mpr ?_⟩
    exact ⟨tail.toList, mem_endings.mpr (List.suffix_append _ _), (isTail _).mpr rfl⟩

end Wild

/-! ### What is found -/

/-- The names of what stands in a directory. -/
def Tree.childNames (tree : Tree) (place : Place) : List String :=
  (tree.childrenOf place).filterMap fun entry => entry.place.getLast?

/-- **A pattern in a directory finds names of that directory.** -/
theorem glob_join {tree : Tree} {here place : Place} {stem pattern : String} (isStem : IsStem stem)
    (noWildcard : hasWildcard stem = false) (wildcard : hasWildcard pattern = true)
    (oneStep : '/' ∉ pattern.toList) (located : tree.locate here (.ofRawText stem) = .ok place) :
    glob tree here (stem ++ "/" ++ pattern)
      = ((tree.childNames place).filter (isFoundBy pattern)).map (joinText stem) := by
  have inWhole : hasWildcard (stem ++ "/" ++ pattern) = true := by
    rw [hasWildcard, toList_join, List.any_append, List.any_cons]
    rw [hasWildcard] at wildcard
    simp [wildcard]
  have names : namesIn tree here stem false = tree.childNames place := by
    simp [namesIn, located, Tree.childNames]
  simp [glob, globFrom, inWhole, splitLast_join isStem oneStep, noWildcard, wildcard, names]

end PromptChain.Files
