/-
**The first arm that matches wins, and binds what it found.**

`Pattern.Matches` says when a pattern matches an answer, `Pattern.Tears` that the match of a regular
expression has a torn group, and `Pattern.Binds` what a match binds: names, and for each the part of the
answer that it holds. `Pattern.bindings?_cases` is the specification of one arm. All of it holds for every
table of character names and for both rules by which a possessive repetition goes on (`Regex.Dialect`).

Main statement: `firstMatch_dispatches`. `tornArm_gives_no_match` is why a match can fail.
-/

import PromptChain.Proofs.Captures
import PromptChain.Proofs.Spans
import PromptChain.Proofs.Text

namespace PromptChain

open Regex

/-! ### What patterns match and bind -/

/-- A literal is equal to the answer without the blanks around it; a regular expression is found in the
answer. -/
def Pattern.Matches (dialect : Dialect) (answer : String) : Pattern → Prop
  | .literal text ignoreCase => literalHolds text ignoreCase (Text.trimmed answer) = true
  | .regex source flags _ => ∃ compiled, compileRegex source flags dialect = .ok compiled ∧
    (compiled.search answer.toList.toArray).isSome = true

/-- A group of the match was left before the place where it was last entered. -/
def Pattern.Tears (dialect : Dialect) (answer : String) : Pattern → Prop
  | .literal _ _ => False
  | .regex source flags _ => ∃ compiled found, compileRegex source flags dialect = .ok compiled ∧
    compiled.search answer.toList.toArray = some found ∧ found.isTorn compiled = true

/-- A value is what stands between two places of an answer. -/
def IsPart (answer : String) (first last : Nat) (value : String) : Prop :=
  ∃ before after, answer.toList = before ++ value.toList ++ after ∧ before.length = first ∧
    first + value.toList.length = last

/-- A value is an answer without the blanks around it. -/
def IsStripped (answer value : String) : Prop :=
  (∃ before after, answer.toList = before ++ value.toList ++ after ∧
    (∀ c ∈ before ++ after, Text.isBlank c = true)) ∧
  (∀ c ∈ value.toList.head?, Text.isBlank c = false) ∧ ∀ c ∈ value.toList.getLast?, Text.isBlank c = false

/-- A value is what a group holds; that is nothing if the group took no part in the match. -/
def HoldsGroup (answer : String) (found : Found) (index : Nat) (value : String) : Prop :=
  (∀ first last, found.final.span? index = some (first, last) → IsPart answer first last value) ∧
    (found.final.span? index = none → value = "")

/-- The bindings of a match: the whole match, each group by its number, and each named group by its name.
A place of the end before that of the start holds nothing. -/
structure ExactBindings (answer : String) (pattern : Compiled) (found : Found) (bindings : Bindings) : Prop where
  distinct : (Assoc.keys bindings).Nodup
  names : ∀ name, name ∈ Assoc.keys bindings ↔
    (∃ index ≤ pattern.groupCount, name = captureName index) ∨ name ∈ Assoc.keys pattern.groupNames
  whole : captureName 0 ∉ Assoc.keys pattern.groupNames → ∃ value,
    Assoc.get? bindings (captureName 0) = some value ∧
      IsPart answer found.start (max found.start found.finish) value
  numbered : ∀ index < pattern.groupCount, captureName (index + 1) ∉ Assoc.keys pattern.groupNames →
    ∃ value, Assoc.get? bindings (captureName (index + 1)) = some value ∧
      HoldsGroup answer found (index + 1) value
  named : ∀ name ∈ Assoc.keys pattern.groupNames, ∃ index value, (name, index) ∈ pattern.groupNames ∧
    Assoc.get? bindings name = some value ∧ HoldsGroup answer found index value
  parts : ∀ name value, (name, value) ∈ bindings → value.toList <:+: answer.toList

/-- What a pattern binds when it matches. -/
def Pattern.Binds (dialect : Dialect) (answer : String) (bindings : Bindings) : Pattern → Prop
  | .literal _ _ => ∃ value, bindings = [("M0", value)] ∧ IsStripped answer value
  | .regex source flags _ => ∃ compiled found, compileRegex source flags dialect = .ok compiled ∧
    compiled.search answer.toList.toArray = some found ∧ ExactBindings answer compiled found bindings

/-! ### Parts of an answer -/

theorem isStripped_trimmed (answer : String) : IsStripped answer (Text.trimmed answer) := by
  unfold IsStripped Text.trimmed Text.trim
  rw [String.toList_ofList]
  generalize shape : Text.trimStart answer.toList = text
  have ends : text = Text.trimEnd text ++ (text.reverse.takeWhile Text.isBlank).reverse := by
    rw [Text.trimEnd, Text.dropEndWhile, ← List.reverse_append, List.takeWhile_append_dropWhile,
      List.reverse_reverse]
  refine ⟨⟨answer.toList.takeWhile Text.isBlank, (text.reverse.takeWhile Text.isBlank).reverse, ?_, ?_⟩, ?_, ?_⟩
  · rw [List.append_assoc, ← ends, ← shape, Text.trimStart, List.takeWhile_append_dropWhile]
  · intro c member
    rcases List.mem_append.mp member with early | late
    · exact List.mem_takeWhile_imp early
    · exact List.mem_takeWhile_imp (List.mem_reverse.mp late)
  · intro c isFirst
    have first : text.head? = some c := by
      rw [ends, List.head?_append, isFirst]
      rfl
    exact Text.stops_dropWhile Text.isBlank answer.toList c (by rw [← Text.trimStart, shape]; exact first)
  · intro c isLast
    rw [Text.trimEnd, Text.dropEndWhile, List.getLast?_reverse] at isLast
    exact Text.stops_dropWhile Text.isBlank text.reverse c isLast

theorem isPart_slice {answer : String} {first last : Nat} (ordered : first ≤ last)
    (inside : last ≤ answer.toList.length) :
    IsPart answer first last (slice answer.toList.toArray first last) := by
  have between : (slice answer.toList.toArray first last).toList
      = (answer.toList.drop first).take (last - first) := by
    simp [slice]
  have behind : answer.toList.drop last = (answer.toList.drop first).drop (last - first) := by
    rw [List.drop_drop, Nat.add_sub_cancel' ordered]
  refine ⟨answer.toList.take first, answer.toList.drop last, ?_, List.length_take_of_le (by omega), ?_⟩
  · rw [between, behind, List.append_assoc, List.take_append_drop, List.take_append_drop]
  · rw [between, List.length_take, List.length_drop]
    omega

theorem IsPart.isInfix {answer value : String} {first last : Nat} (part : IsPart answer first last value) :
    value.toList <:+: answer.toList := by
  obtain ⟨before, after, whole, _⟩ := part
  exact ⟨before, after, whole.symm⟩

theorem HoldsGroup.isInfix {answer value : String} {found : Found} {index : Nat}
    (holds : HoldsGroup answer found index value) : value.toList <:+: answer.toList := by
  cases span : found.final.span? index with
  | none => rw [holds.2 span]; exact List.nil_infix
  | some span => exact (holds.1 _ _ (by rw [span])).isInfix

section Found

variable {answer : String} {pattern : Compiled} {found : Found}
  (isMatch : pattern.search answer.toList.toArray = some found)

include isMatch

theorem isPart_text :
    IsPart answer found.start (max found.start found.finish) (found.text answer.toList.toArray) := by
  obtain ⟨start, finish, _⟩ := Compiled.search_inside isMatch
  by_cases ordered : found.start ≤ found.finish
  · rw [Nat.max_eq_right ordered]
    exact isPart_slice ordered finish
  · -- The end lies before the start, so nothing is between them.
    have nothing : found.text answer.toList.toArray = slice answer.toList.toArray found.start found.start := by
      simp [Found.text, slice, Nat.sub_eq_zero_of_le (Nat.le_of_not_le ordered)]
    rw [Nat.max_eq_left (Nat.le_of_not_le ordered), nothing]
    exact isPart_slice (Nat.le_refl _) start

theorem holdsGroup_group (index : Nat) :
    HoldsGroup answer found index (found.group answer.toList.toArray index) := by
  obtain ⟨_, _, inside⟩ := Compiled.search_inside isMatch
  constructor
  · intro first last span
    obtain ⟨ordered, bound⟩ := inside.span span
    rw [Found.group, span]
    exact isPart_slice ordered bound
  · intro noSpan
    rw [Found.group, noSpan]

/-- **A regular expression binds exactly** the whole match and its groups. -/
theorem exactBindings_regexBindings :
    ExactBindings answer pattern found (regexBindings pattern answer.toList.toArray found) := by
  have apart := distinct_numberedBindings pattern answer.toList.toArray found
  have distinct := (binds_regexBindings pattern answer.toList.toArray found).distinct
  generalize isNamed : pattern.groupNames.map (fun entry =>
    (entry.1, found.group answer.toList.toArray entry.2)) = named
  have value : ∀ name, Assoc.get? (regexBindings pattern answer.toList.toArray found) name
      = (Assoc.get? named.reverse name).or
        (Assoc.get? (numberedBindings pattern answer.toList.toArray found) name) := by
    intro name
    rw [← Assoc.get?_setAll_reverse, ← isNamed]
    rfl
  have names : ∀ name, name ∈ Assoc.keys pattern.groupNames ↔ (Assoc.get? named.reverse name).isSome = true := by
    intro name
    rw [← Assoc.mem_keys_iff, ← isNamed, Assoc.keys, Assoc.keys, List.map_reverse, List.mem_reverse,
      List.map_map]
    rfl
  have unnamed : ∀ name held, name ∉ Assoc.keys pattern.groupNames →
      (name, held) ∈ numberedBindings pattern answer.toList.toArray found →
      Assoc.get? (regexBindings pattern answer.toList.toArray found) name = some held := by
    intro name held isNew isNumbered
    rw [names, Option.not_isSome_iff_eq_none] at isNew
    rw [value, isNew, Option.none_or]
    exact (Assoc.mem_iff_get? apart _ _).mp isNumbered
  have groups : ∀ name held, Assoc.get? named.reverse name = some held →
      ∃ index, (name, index) ∈ pattern.groupNames ∧ HoldsGroup answer found index held := by
    intro name held isHeld
    have member := List.mem_reverse.mp (Assoc.mem_of_get? isHeld)
    rw [← isNamed] at member
    obtain ⟨entry, isEntry, same⟩ := List.mem_map.mp member
    obtain ⟨rfl, rfl⟩ := Prod.mk.inj same
    exact ⟨entry.2, isEntry, holdsGroup_group isMatch entry.2⟩
  refine ⟨distinct, fun name => ?_, fun isNew => ?_, fun index bound isNew => ?_, fun name named => ?_,
    fun name held isBinding => ?_⟩
  · rw [Assoc.mem_keys_iff, value, Option.isSome_or, Bool.or_eq_true, ← names, ← Assoc.mem_keys_iff, or_comm,
      keys_numberedBindings, List.mem_cons, List.mem_map]
    refine or_congr_left ⟨?_, ?_⟩
    · rintro (rfl | ⟨index, isIndex, rfl⟩)
      · exact ⟨0, Nat.zero_le _, rfl⟩
      · exact ⟨index + 1, List.mem_range.mp isIndex, rfl⟩
    · rintro ⟨index, bound, rfl⟩
      cases index with
      | zero => exact Or.inl rfl
      | succ index => exact Or.inr ⟨index, List.mem_range.mpr bound, rfl⟩
  · exact ⟨_, unnamed _ _ isNew List.mem_cons_self, isPart_text isMatch⟩
  · refine ⟨_, unnamed _ _ isNew (List.mem_cons_of_mem _ ?_), holdsGroup_group isMatch (index + 1)⟩
    exact List.mem_map.mpr ⟨index, List.mem_range.mpr bound, rfl⟩
  · obtain ⟨held, isHeld⟩ := Option.isSome_iff_exists.mp ((names name).mp named)
    obtain ⟨index, isEntry, holds⟩ := groups name held isHeld
    exact ⟨index, held, isEntry, by rw [value, isHeld, Option.some_or], holds⟩
  · rw [Assoc.mem_iff_get? distinct, value, Option.or_eq_some_iff] at isBinding
    rcases isBinding with isHeld | ⟨_, isNumbered⟩
    · obtain ⟨_, _, holds⟩ := groups name held isHeld
      exact holds.isInfix
    · rcases List.mem_cons.mp (Assoc.mem_of_get? isNumbered) with isWhole | isGroup
      · cases isWhole
        exact (isPart_text isMatch).isInfix
      · obtain ⟨index, _, same⟩ := List.mem_map.mp isGroup
        cases same
        exact (holdsGroup_group isMatch (index + 1)).isInfix

end Found

/-! ### One arm -/

/-- **A pattern does not match, or its match is torn, or it binds exactly what it found.** -/
theorem Pattern.bindings?_cases (dialect : Dialect) (pattern : Pattern) (answer : String) :
    (pattern.bindings? answer dialect = .ok none ∧ ¬ pattern.Matches dialect answer) ∨
    pattern.Matches dialect answer ∧
      ((∃ torn, pattern.bindings? answer dialect = .error torn ∧ pattern.Tears dialect answer) ∨
        ∃ bindings, pattern.bindings? answer dialect = .ok (some bindings) ∧ ¬ pattern.Tears dialect answer ∧
          pattern.Binds dialect answer bindings) := by
  cases pattern with
  | literal text ignoreCase =>
    by_cases holds : literalHolds text ignoreCase (Text.trimmed answer) = true
    · refine Or.inr ⟨holds, Or.inr ⟨_, ?_, id, _, rfl, isStripped_trimmed answer⟩⟩
      rw [bindings?, if_pos holds]
      rfl
    · exact Or.inl ⟨by rw [bindings?, if_neg holds], holds⟩
  | regex source flags delimiter =>
    cases compiles : compileRegex source flags dialect with
    | error failure =>
      refine Or.inl ⟨by simp only [bindings?, compiles], ?_⟩
      rintro ⟨compiled, wrong, _⟩
      cases compiles.symm.trans wrong
    | ok compiled =>
      cases search : compiled.search answer.toList.toArray with
      | none =>
        refine Or.inl ⟨by simp only [bindings?, compiles, Compiled.find, search, Option.map_none], ?_⟩
        rintro ⟨other, same, isMatch⟩
        cases compiles.symm.trans same
        rw [search] at isMatch
        cases isMatch
      | some found =>
        refine Or.inr ⟨⟨compiled, compiles, by rw [search]; rfl⟩, ?_⟩
        cases tears : found.isTorn compiled with
        | true =>
          refine Or.inl ⟨{}, ?_, compiled, found, compiles, search, tears⟩
          simp only [bindings?, compiles, Compiled.find, search, tears, if_true]
        | false =>
          refine Or.inr ⟨_, ?_, ?_, compiled, found, compiles, search, exactBindings_regexBindings search⟩
          · simp only [bindings?, compiles, Compiled.find, search, tears, Bool.false_eq_true, if_false,
              Option.map_some]
          · rintro ⟨other, otherFound, same, sameFound, torn⟩
            cases compiles.symm.trans same
            cases search.symm.trans sameFound
            rw [tears] at torn
            cases torn

/-! ### The first arm that matches -/

/-- An arm matches, and none before it does. -/
structure IsFirst (dialect : Dialect) (answer : String) (arms : List Arm) (index : Nat) (arm : Arm) : Prop where
  isArm : arms[index]? = some arm
  matched : arm.pattern.Matches dialect answer
  first : ∀ earlier < index, ∀ other, arms[earlier]? = some other → ¬ other.pattern.Matches dialect answer

theorem IsFirst.unique {dialect : Dialect} {answer : String} {arms : List Arm} {index other : Nat}
    {arm found : Arm}
    (isFirst : IsFirst dialect answer arms index arm) (isFirstToo : IsFirst dialect answer arms other found) :
    index = other ∧ arm = found := by
  rcases Nat.lt_trichotomy index other with before | rfl | behind
  · exact absurd isFirst.matched (isFirstToo.first index before arm isFirst.isArm)
  · exact ⟨rfl, Option.some.inj (isFirst.isArm.symm.trans isFirstToo.isArm)⟩
  · exact absurd isFirstToo.matched (isFirst.first other behind found isFirstToo.isArm)

/-- What the arms from an index on give. -/
theorem firstMatchFrom_cases (dialect : Dialect) (answer : String) (index : Nat) (arms : List Arm) :
    (firstMatchFrom answer index arms dialect = .ok none ∧ ∀ arm ∈ arms, ¬ arm.pattern.Matches dialect answer) ∨
      ∃ place arm, IsFirst dialect answer arms place arm ∧
        ((∃ torn, firstMatchFrom answer index arms dialect = .error torn ∧ arm.pattern.Tears dialect answer) ∨
          ∃ bindings, firstMatchFrom answer index arms dialect = .ok (some ⟨index + place, arm, bindings⟩) ∧
            ¬ arm.pattern.Tears dialect answer ∧ arm.pattern.Binds dialect answer bindings) := by
  induction arms generalizing index with
  | nil => exact Or.inl ⟨rfl, by simp⟩
  | cons arm arms ih =>
    have first : arm.pattern.Matches dialect answer → IsFirst dialect answer (arm :: arms) 0 arm :=
      fun matched => ⟨rfl, matched, fun earlier before => absurd before (Nat.not_lt_zero _)⟩
    rcases arm.pattern.bindings?_cases dialect answer with
      ⟨missed, noMatch⟩ | ⟨matched, ⟨torn, failed, tears⟩ | ⟨bindings, found, whole, binds⟩⟩
    · have later : firstMatchFrom answer index (arm :: arms) dialect
          = firstMatchFrom answer (index + 1) arms dialect := by
        rw [firstMatchFrom, missed]
      rw [later]
      rcases ih (index + 1) with ⟨none_found, noneMatches⟩ | ⟨place, other, isFirst, found⟩
      · exact Or.inl ⟨none_found, List.forall_mem_cons.mpr ⟨noMatch, noneMatches⟩⟩
      · refine Or.inr ⟨place + 1, other, ⟨isFirst.isArm, isFirst.matched, fun earlier before => ?_⟩, ?_⟩
        · cases earlier with
          | zero => exact fun same isArm => Option.some.inj isArm ▸ noMatch
          | succ earlier => exact isFirst.first earlier (Nat.lt_of_succ_lt_succ before)
        · rw [Nat.add_comm place 1, ← Nat.add_assoc]
          exact found
    · exact Or.inr ⟨0, arm, first matched, Or.inl ⟨torn, by rw [firstMatchFrom, failed], tears⟩⟩
    · exact Or.inr ⟨0, arm, first matched, Or.inr ⟨bindings, by rw [firstMatchFrom, found]; rfl, whole, binds⟩⟩

/-- **The first arm that matches wins, with exact bindings**, in every dialect. No match is given exactly when
no arm matches. Else the first arm that matches is given with its index and what its pattern binds, unless a
group of its match is torn, and then the match fails. -/
theorem firstMatch_dispatches (dialect : Dialect) (answer : String) (arms : List Arm) :
    (firstMatch answer arms dialect = .ok none ↔ ∀ arm ∈ arms, ¬ arm.pattern.Matches dialect answer) ∧
    (∀ index arm, IsFirst dialect answer arms index arm → ¬ arm.pattern.Tears dialect answer →
      ∃ bindings, firstMatch answer arms dialect = .ok (some ⟨index, arm, bindings⟩) ∧
        arm.pattern.Binds dialect answer bindings) ∧
    ∀ index arm, IsFirst dialect answer arms index arm → arm.pattern.Tears dialect answer →
      ∃ torn, firstMatch answer arms dialect = .error torn := by
  rcases firstMatchFrom_cases dialect answer 0 arms with ⟨noMatch, none⟩ | ⟨place, arm, isFirst, found⟩
  · have noFirst : ∀ index arm, ¬ IsFirst dialect answer arms index arm :=
      fun index arm isFirst => none arm (List.mem_of_getElem? isFirst.isArm) isFirst.matched
    exact ⟨⟨fun _ => none, fun _ => noMatch⟩, fun index arm isFirst => absurd isFirst (noFirst index arm),
      fun index arm isFirst => absurd isFirst (noFirst index arm)⟩
  · have matched : ¬ ∀ arm ∈ arms, ¬ arm.pattern.Matches dialect answer :=
      fun none => none arm (List.mem_of_getElem? isFirst.isArm) isFirst.matched
    rw [Nat.zero_add] at found
    refine ⟨⟨fun noMatch => ?_, fun none => absurd none matched⟩, ?_, ?_⟩
    · rcases found with ⟨torn, failed, _⟩ | ⟨bindings, found, _⟩
      · cases noMatch.symm.trans failed
      · cases noMatch.symm.trans found
    · intro index other isFirstToo whole
      obtain ⟨rfl, rfl⟩ := isFirst.unique isFirstToo
      rcases found with ⟨torn, failed, tears⟩ | ⟨bindings, found, _, binds⟩
      · exact absurd tears whole
      · exact ⟨bindings, found, binds⟩
    · intro index other isFirstToo tears
      obtain ⟨rfl, rfl⟩ := isFirst.unique isFirstToo
      rcases found with ⟨torn, failed, _⟩ | ⟨bindings, found, whole, _⟩
      · exact ⟨torn, failed⟩
      · exact absurd tears whole

/-- An arm whose pattern enters its inner group once more and then goes on without it. -/
def tornArm : Arm := ⟨.regex "((x)|y)*+" "" .slash, .shell "l", 1⟩

/-- The pattern can be used and the arm is the first that matches, but the match fails. -/
def TornFails (dialect : Dialect) : Prop :=
  tornArm.pattern.failure?.isNone = true ∧ IsFirst dialect "xyy" [tornArm] 0 tornArm ∧
    ¬ ∃ found, firstMatch "xyy" [tornArm] dialect = .ok found

theorem tornFails {dialect : Dialect}
    (isFound : ((compileRegex "((x)|y)*+" "" dialect).toOption.any fun compiled =>
      (compiled.search "xyy".toList.toArray).isSome) = true)
    (fails : (firstMatch "xyy" [tornArm] dialect).isOk = false) : TornFails dialect := by
  refine ⟨by decide +kernel, ⟨rfl, ?_, fun earlier before => absurd before (Nat.not_lt_zero _)⟩, ?_⟩
  · cases compiles : compileRegex "((x)|y)*+" "" dialect with
    | error failure => rw [compiles] at isFound; cases isFound
    | ok compiled =>
      rw [compiles] at isFound
      exact ⟨compiled, compiles, isFound⟩
  · rintro ⟨found, isOk⟩
    rw [isOk] at fails
    cases fails

/-- **A match that fails**, whichever way a possessive repetition goes on: a group is torn. -/
theorem tornArm_gives_no_match :
    TornFails .standard ∧ TornFails { Dialect.standard with goesBack := true } :=
  ⟨tornFails (by decide +kernel) (by decide +kernel), tornFails (by decide +kernel) (by decide +kernel)⟩

end PromptChain
