/-
**A search stays inside its text.**

Every place that a match comes to, and every mark of a group, is at most the size of the text
(`State.Inside`). A node hands such states to what follows it and gets such states back, also from ways
that fail (`Node.run_inside`): a failed way leaves its place behind, and a possessive repetition goes on
there.

Main statement: `Compiled.search_inside`.
-/

import PromptChain.Regex.Search

namespace PromptChain.Regex

/-- The places of a state lie inside a text of some size. -/
structure State.Inside (size : Nat) (s : State) : Prop where
  pointer : s.pointer ≤ size
  marks : ∀ place, some place ∈ s.marks → place ≤ size

/-- A way of matching that ends inside the text, whether it succeeds or not. -/
def Way.Inside (size : Nat) : Way → Prop
  | .ok s | .error s => s.Inside size

/-- A continuation that stays inside the text. -/
def Rest.Inside (size : Nat) (rest : Rest) : Prop :=
  ∀ {position s}, position ≤ size → s.Inside size → Way.Inside size (rest position s)

/-- A part that stays inside the text if what follows it does. -/
def Part.Inside (size : Nat) (part : Part) : Prop :=
  ∀ {position s rest}, position ≤ size → s.Inside size → Rest.Inside size rest →
    Way.Inside size (part position s rest)

variable {size position : Nat} {s earlier : State} {rest : Rest} {body : Part}

/-! ### States -/

theorem State.Inside.pointTo (inside : s.Inside size) (bound : position ≤ size) :
    (s.pointTo position).Inside size := ⟨bound, inside.marks⟩

/-- A mark set inside the text keeps the state inside. -/
theorem State.Inside.mark (inside : s.Inside size) (index : Nat) (bound : position ≤ size) :
    (s.mark index position).Inside size := by
  unfold State.mark
  split
  · refine ⟨inside.pointer, fun place isMark => ?_⟩
    rcases List.mem_or_eq_of_mem_set isMark with before | same
    · exact inside.marks place before
    · exact Option.some.inj same ▸ bound
  · refine ⟨inside.pointer, fun place isMark => ?_⟩
    simp only [List.mem_append, List.mem_replicate, List.mem_singleton, reduceCtorEq, and_false, or_false]
      at isMark
    rcases isMark with before | same
    · exact inside.marks place before
    · exact Option.some.inj same ▸ bound

/-- Going back to the marks of an earlier state stays inside. -/
theorem State.Inside.backTo (inside : s.Inside size) (insideEarlier : earlier.Inside size) (within : Bool) :
    (s.backTo within earlier).Inside size := by
  refine ⟨inside.pointer, fun place isMark => ?_⟩
  simp only [State.backTo] at isMark
  split at isMark
  · exact insideEarlier.marks place isMark
  · exact inside.marks place (List.mem_of_mem_take isMark)

/-- What a group holds lies inside the text. -/
theorem State.Inside.span (inside : s.Inside size) {index first last : Nat}
    (found : s.span? index = some (first, last)) : first ≤ last ∧ last ≤ size := by
  obtain ⟨isSpan, ordered⟩ := Option.filter_eq_some_iff.mp found
  refine ⟨by simpa using ordered, ?_⟩
  unfold State.marks? at isSpan
  split at isSpan
  · rename_i isLast
    cases isSpan
    exact inside.marks last (List.mem_of_getElem? isLast)
  · cases isSpan

theorem Way.Inside.of_ok {way : Way} (inside : way.Inside size) (found : way = .ok s) : s.Inside size := by
  subst found
  exact inside

theorem Way.Inside.of_error {way : Way} (inside : way.Inside size) (found : way = .error s) : s.Inside size := by
  subst found
  exact inside

/-- What is done to a failed way keeps it inside if it keeps states inside. -/
theorem Way.Inside.mapError {way : Way} (inside : way.Inside size) {change : State → State}
    (changed : ∀ s : State, s.Inside size → (change s).Inside size) : Way.Inside size (way.mapError change) := by
  cases way with
  | ok done => exact inside
  | error left => exact changed left inside

theorem Way.Inside.failingAt {way : Way} (inside : way.Inside size) (bound : position ≤ size) :
    (way.failingAt position).Inside size := inside.mapError fun _ inside => inside.pointTo bound

theorem Rest.none_inside : Rest.none.Inside size := fun bound inside => inside.pointTo bound

/-! ### Repetition of one character -/

/-- A run of characters ends inside the text. -/
theorem add_countRun_le (subject : Array Char) (test : CharTest) (limit : Nat) {position : Nat}
    (bound : position ≤ subject.size) : position + countRun subject test position limit ≤ subject.size := by
  induction limit generalizing position with
  | zero => exact bound
  | succ limit ih =>
    unfold countRun
    split
    · rename_i c found
      obtain ⟨before, _⟩ := Array.getElem?_eq_some_iff.mp found
      split
      · have next := @ih (position + 1) before
        omega
      · exact bound
    · exact bound

/-- A run that is counted is left at its end or before. -/
theorem CharTest.placeAfter_le (test : CharTest) (position count : Nat) :
    test.placeAfter position count ≤ position + count := by
  unfold CharTest.placeAfter
  split
  · split
    · exact Nat.le_refl _
    · exact Nat.le_add_right ..
  · exact Nat.le_add_right ..

/-- Ever shorter runs are offered to what follows; each ends inside the text. -/
theorem offerDown_inside (subject : Array Char) (within : Bool) (next : Lead) (least : Nat)
    (saved : earlier.Inside size) (stays : rest.Inside size) {count : Nat} (bound : position + count ≤ size)
    (inside : s.Inside size) :
    (offerDown subject within next least position earlier rest count s).Inside size := by
  have tried : ∀ {here : Nat} {s : State}, here ≤ size → s.Inside size → Way.Inside size
      (if next.mayFollow subject here then
        (rest here (s.pointTo here)).mapError fun left => left.backTo within earlier
      else .error s) := by
    intro here s bound inside
    split
    · exact (stays bound (inside.pointTo bound)).mapError fun _ left => left.backTo saved within
    · exact inside
  fun_induction offerDown subject within next least position earlier rest count s with
  | case1 => exact inside
  | case2 count s _ here left done found => exact (tried bound inside).of_ok found
  | case3 s left _ here way found => exact (tried bound inside).of_error found
  | case4 s left count _ here way found ih =>
    exact ih (Nat.le_of_succ_le bound) ((tried bound inside).of_error found)

/-- Ever longer runs are offered to what follows; each ends inside the text. -/
theorem offerUp_inside (subject : Array Char) (test : CharTest) (within : Bool)
    (saved : earlier.Inside subject.size) (stays : rest.Inside subject.size) {more : Nat}
    (bound : position ≤ subject.size) (inside : s.Inside subject.size) :
    (offerUp subject test within earlier rest more position s).Inside subject.size := by
  have after : ∀ {position : Nat} {s left : State}, position ≤ subject.size → s.Inside subject.size →
      rest position (s.pointTo position) = .error left →
      ((left.backTo within earlier).pointTo
        (test.placeAfter position (countRun subject test position 1))).Inside subject.size := by
    intro position s left bound inside found
    have place := test.placeAfter_le position (countRun subject test position 1)
    exact (((stays bound (inside.pointTo bound)).of_error found).backTo saved within).pointTo
      (Nat.le_trans place (add_countRun_le subject test 1 bound))
  fun_induction offerUp subject test within earlier rest more position s with
  | case1 more position s done found => exact (stays bound (inside.pointTo bound)).of_ok found
  | case2 position s left found => exact after bound inside found
  | case3 position s left found => exact after bound inside found
  | case4 position s left found count next more some_read ih =>
    have room := add_countRun_le subject test 1 bound
    exact ih (by omega) (after bound inside found)

/-- The repetition of one character stays inside, whichever way it repeats. -/
theorem repeatTest_inside (subject : Array Char) (test : CharTest) (mode : RepeatMode) (least : Nat)
    (most : Option Nat) (within : Bool) (next : Lead) :
    Part.Inside subject.size (repeatTest subject test mode least most within next) := by
  intro position s rest bound inside stays
  have room := fun limit => add_countRun_le subject test limit bound
  have read := fun limit => inside.pointTo (Nat.le_trans (test.placeAfter_le position _) (room limit))
  unfold repeatTest
  dsimp only
  split
  · exact inside
  · cases mode with
    | greedy =>
      dsimp only
      split
      · exact read _
      · exact offerDown_inside subject within next least (read _) stays (room _) (read _)
    | «lazy» =>
      dsimp only
      split
      · exact read _
      · exact offerUp_inside subject test within (read _) stays (room _) (read _)
    | possessive goesBack =>
      dsimp only
      split
      · exact read _
      · exact stays (room _) (read _)

/-! ### Repetition of a node -/

/-- As many rounds as there can be: each round hands an inside state to the next. -/
theorem repeatGreedy_inside (within : body.Inside size) (least : Nat) (most : Option Nat)
    (stays : rest.Inside size) (fuel count : Nat) (last : Option Nat) :
    Rest.Inside size (repeatGreedy body least most rest fuel count last) := by
  induction fuel generalizing count last with
  | zero => exact stays
  | succ fuel ih =>
    intro position s bound inside
    have here := inside.pointTo bound
    unfold repeatGreedy
    split
    · exact (within bound here (ih _ _)).failingAt bound
    · split
      · have round := within bound here (ih (count + 1) (some position))
        split
        · rename_i found
          exact round.of_ok found
        · exact (stays bound here).failingAt bound
      · exact (stays bound here).failingAt bound

theorem repeatLazy_inside (within : body.Inside size) (least : Nat) (most : Option Nat) (nested : Bool)
    (stays : rest.Inside size) (fuel count : Nat) (last : Option Nat) :
    Rest.Inside size (repeatLazy body least most nested rest fuel count last) := by
  induction fuel generalizing count last with
  | zero => exact stays
  | succ fuel ih =>
    intro position s bound inside
    have here := inside.pointTo bound
    unfold repeatLazy
    split
    · exact (within bound here (ih _ _)).failingAt bound
    · have ended := stays bound here
      split
      · rename_i found
        exact ended.of_ok found
      · rename_i left found
        have back := ((ended.of_error found).backTo inside nested).pointTo bound
        dsimp only
        split
        · exact (within bound back (ih _ _)).failingAt bound
        · exact back

/-- A round that fails leaves its place, which is inside, to what follows the rounds. -/
theorem repeatPossessive_inside (within : body.Inside size) (least : Nat) (most : Option Nat)
    (goesBack : Bool) (bound : position ≤ size) (fuel count : Nat) (last : Option Nat)
    (inside : s.Inside size) :
    (repeatPossessive body least most goesBack position fuel count last s).Inside size := by
  induction fuel generalizing count last s with
  | zero => exact inside
  | succ fuel ih =>
    have round := within inside.pointer inside Rest.none_inside
    unfold repeatPossessive
    split
    · split
      · rename_i found
        exact ih _ _ (round.of_ok found)
      · rename_i found
        exact (round.of_error found).pointTo bound
    · split
      · split
        · rename_i found
          exact ih _ _ (round.of_ok found)
        · rename_i found
          cases goesBack with
          | true => exact inside
          | false =>
            -- The round that failed leaves its place, and the marks are those before it.
            exact ⟨(round.of_error found).pointer, inside.marks⟩
      · exact inside

/-! ### Nodes -/

/-- What a group holds, found once more, ends inside the text. -/
theorem matchAgain_le (subject : Array Char) (rule : CaseRule) {source position count last : Nat}
    (bound : position ≤ subject.size) (found : matchAgain subject rule source position count = some last) :
    last ≤ subject.size := by
  fun_induction matchAgain subject rule source position count with
  | case1 => exact Option.some.inj found ▸ bound
  | case2 source position count a b isThere _ same ih =>
    exact ih (Array.getElem?_eq_some_iff.mp isThere).1 found
  | case3 => cases found
  | case4 => cases found

/-- A look behind starts earlier, so it starts inside. -/
theorem lookAround_inside (within : body.Inside size) (width : Nat) (negated nested : Bool) :
    Part.Inside size (lookAround body width negated nested) := by
  intro position s rest bound inside stays
  have start : position - width ≤ size := Nat.le_trans (Nat.sub_le ..) bound
  have looked := within start (inside.pointTo start) Rest.none_inside
  unfold lookAround
  split
  · split
    · exact stays bound inside
    · exact inside
  · dsimp only
    split
    · rename_i found
      exact stays bound (looked.of_ok found)
    · rename_i found
      exact stays bound ((looked.of_error found).backTo inside nested)
    · rename_i found
      exact looked.of_ok found
    · rename_i found
      exact looked.of_error found

/-- **A node stays inside the text** if what follows it does. -/
theorem Node.run_inside (subject : Array Char) (node : Node) (nested : Bool) (next : Lead) :
    Part.Inside subject.size (node.run subject nested next) := by
  induction node generalizing nested next with
  | empty => exact fun bound inside stays => stays bound inside
  | one test =>
    intro position s rest bound inside stays
    unfold Node.run
    split
    · rename_i c found
      split
      · exact stays (Array.getElem?_eq_some_iff.mp found).1 inside
      · exact inside
    · exact inside
  | seq first second ihFirst ihSecond =>
    exact fun bound inside stays =>
      ihFirst _ _ bound inside fun bound inside => ihSecond _ _ bound inside stays
  | alt first second ihFirst ihSecond =>
    intro position s rest bound inside stays
    have back := fun left (leftInside : State.Inside subject.size left) => leftInside.backTo inside nested
    have afterFirst : Way.Inside subject.size (if first.lead.mayStart subject position then
        (first.run subject nested .other position (s.pointTo position) rest).mapError
          fun left => left.backTo nested s
        else .error s) := by
      split
      · exact (ihFirst _ _ bound (inside.pointTo bound) stays).mapError back
      · exact inside
    unfold Node.run
    dsimp only
    split
    · rename_i found
      exact afterFirst.of_ok found
    · rename_i left found
      have leftInside := afterFirst.of_error found
      split
      · exact (ihSecond _ _ bound (leftInside.pointTo bound) stays).mapError back
      · exact leftInside
  | anchor kind =>
    intro position s rest bound inside stays
    unfold Node.run
    split
    · exact stays bound inside
    · exact inside
  | rep mode least most body ih =>
    intro position s rest bound inside stays
    unfold Node.run
    split
    · exact repeatTest_inside subject _ mode least most nested next bound inside stays
    · dsimp only
      cases mode with
      | greedy => exact repeatGreedy_inside (ih _ _) least most stays _ _ _ bound inside
      | «lazy» => exact repeatLazy_inside (ih _ _) least most nested stays _ _ _ bound inside
      | possessive goesBack =>
        have rounds := repeatPossessive_inside (ih nested .other) least most goesBack bound
          (least + subject.size + 2) 0 none (inside.pointTo bound)
        dsimp only
        split
        · rename_i found
          have ended := rounds.of_ok found
          exact stays ended.pointer ended
        · rename_i found
          exact rounds.of_error found
  | scope body ih => exact ih nested next
  | flagged body ih => exact ih nested next
  | capture index body ih =>
    exact fun bound inside stays => ih _ _ bound (inside.mark _ bound)
      fun bound inside => stays bound (inside.mark _ bound)
  | atomic body ih =>
    intro position s rest bound inside stays
    have tried := ih nested .other bound (inside.pointTo bound) Rest.none_inside
    unfold Node.run
    split
    · rename_i found
      have ended := tried.of_ok found
      exact stays ended.pointer ended
    · rename_i found
      exact (tried.of_error found).pointTo bound
  | backref rule index =>
    intro position s rest bound inside stays
    unfold Node.run
    split
    · split
      · rename_i found
        exact stays (matchAgain_le subject rule bound found) inside
      · exact inside
    · exact inside
  | conditional index yes no ihYes ihNo =>
    intro position s rest bound inside stays
    unfold Node.run
    split
    · exact ihYes _ _ bound inside stays
    · exact ihNo _ _ bound inside stays
  | lookahead negated body ih => exact lookAround_inside (ih _ _) 0 negated nested
  | lookbehind least most negated body ih => exact lookAround_inside (ih _ _) least negated nested

/-! ### Searching -/

/-- A match from a place inside the text, and its groups, lie inside. -/
theorem Compiled.matchAt?_inside {pattern : Compiled} {subject : Array Char} (bound : position ≤ subject.size)
    {found : Found} (isMatch : pattern.matchAt? subject position = some found) :
    found.start ≤ subject.size ∧ found.finish ≤ subject.size ∧ found.final.Inside subject.size := by
  have ran := pattern.root.run_inside subject false .other bound
    (s := { pointer := position, marks := [] }) ⟨bound, by simp⟩ Rest.none_inside
  unfold Compiled.matchAt? at isMatch
  split at isMatch
  · split at isMatch
    · rename_i final ended
      cases isMatch
      have inside := ran.of_ok ended
      exact ⟨bound, inside.pointer, inside⟩
    · cases isMatch
  · cases isMatch

/-- **A match lies inside the text**, and so do the marks of its groups. -/
theorem Compiled.search_inside {pattern : Compiled} {subject : Array Char} {found : Found}
    (isMatch : pattern.search subject = some found) :
    found.start ≤ subject.size ∧ found.finish ≤ subject.size ∧ found.final.Inside subject.size := by
  have reached : ∀ {position remaining : Nat}, position + remaining ≤ subject.size →
      searchFrom subject pattern position remaining = some found →
      found.start ≤ subject.size ∧ found.finish ≤ subject.size ∧ found.final.Inside subject.size := by
    intro position remaining room isMatch
    fun_induction searchFrom subject pattern position remaining with
    | case1 position remaining first here =>
      cases isMatch
      exact Compiled.matchAt?_inside (by omega) here
    | case2 => cases isMatch
    | case3 position missing remaining ih => exact ih (by omega) isMatch
  unfold Compiled.search at isMatch
  split at isMatch
  · cases isMatch
  · refine reached ?_ isMatch
    unfold Compiled.lastStart
    split
    · omega
    · omega

end PromptChain.Regex
