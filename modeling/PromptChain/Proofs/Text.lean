/-
**Laws of texts: lines, runs of characters, and trimming.**

* `unlines_lines`, `lines_unlines`: cutting a text into lines and putting lines together undo each
  other, on lines that hold no newline;
* `takeWhile_append_stops`, `dropWhile_append_stops`: a run of characters ends where the next one fails
  the test;
* `trimEnd_eq_self_iff`: the texts that trimming at the end leaves as they are.
-/

import Mathlib.Data.List.DropRight
import Mathlib.Data.List.TakeWhile
import PromptChain.Text.Blank
import PromptChain.Text.Dedent

namespace PromptChain.Text

variable {text rest : List Char} {test : Char → Bool}

/-! ### Lines -/

theorem splitOnChar_eq_splitOn (separator : Char) (text : List Char) :
    splitOnChar separator text = text.splitOn separator := by
  induction text with
  | nil => rfl
  | cons c rest ih =>
    rw [splitOnChar, List.splitOn_cons_eq_if_modifyHead, ih]
    by_cases same : c = separator
    · rw [if_pos same, if_pos (beq_iff_eq.mpr same)]
    · rw [if_neg same, if_neg (by simpa using same)]
      cases parts : rest.splitOn separator with
      | nil => exact absurd parts (List.splitOn_ne_nil separator rest)
      | cons part parts => rfl

theorem joinWith_eq_intercalate (separator : List Char) (parts : List (List Char)) :
    joinWith separator parts = separator.intercalate parts := by
  fun_induction joinWith separator parts with
  | case1 => rfl
  | case2 part => exact List.intercalate_singleton.symm
  | case3 part next parts ih => rw [List.intercalate_cons_cons, ih]

theorem unlines_eq_intercalate (parts : List (List Char)) :
    unlines parts = ['\n'].intercalate parts :=
  joinWith_eq_intercalate _ _

@[simp]
theorem unlines_singleton (part : List Char) : unlines [part] = part := rfl

theorem unlines_cons_cons (part next : List Char) (parts : List (List Char)) :
    unlines (part :: next :: parts) = part ++ '\n' :: unlines (next :: parts) := by
  simp [unlines, joinWith]

/-- **Lines put together again are the text.** -/
@[simp]
theorem unlines_lines (text : List Char) : unlines (lines text) = text := by
  rw [unlines_eq_intercalate, lines, splitOnChar_eq_splitOn, List.intercalate_splitOn]

@[simp]
theorem lines_ne_nil (text : List Char) : lines text ≠ [] := by
  rw [lines, splitOnChar_eq_splitOn]
  exact List.splitOn_ne_nil _ _

/-- **A text put together from lines has these lines.** -/
theorem lines_unlines {parts : List (List Char)} (whole : ∀ part ∈ parts, '\n' ∉ part)
    (some_line : parts ≠ []) : lines (unlines parts) = parts := by
  rw [unlines_eq_intercalate, lines, splitOnChar_eq_splitOn,
    List.splitOn_intercalate _ whole some_line]

/-- A part holds no separator. -/
theorem separator_notMem_of_mem_splitOnChar {separator : Char} {part : List Char}
    (member : part ∈ splitOnChar separator text) : separator ∉ part := by
  induction text generalizing part with
  | nil =>
    rw [splitOnChar, List.mem_singleton] at member
    rw [member]
    exact List.not_mem_nil
  | cons c rest ih =>
    rw [splitOnChar] at member
    by_cases same : c = separator
    · rw [if_pos same] at member
      rcases List.mem_cons.mp member with rfl | later
      · exact List.not_mem_nil
      · exact ih later
    · rw [if_neg same] at member
      cases parts : splitOnChar separator rest with
      | nil =>
        rw [parts, List.mem_singleton] at member
        rw [member, List.mem_singleton]
        exact Ne.symm same
      | cons first others =>
        rw [parts] at member ih
        rcases List.mem_cons.mp member with rfl | later
        · exact List.not_mem_cons_of_ne_of_not_mem (Ne.symm same) (ih List.mem_cons_self)
        · exact ih (List.mem_cons_of_mem _ later)

/-- A line holds no newline. -/
theorem newline_notMem_of_mem_lines {line : List Char} (member : line ∈ lines text) :
    '\n' ∉ line :=
  separator_notMem_of_mem_splitOnChar member

/-- A text without newlines is its only line. -/
theorem lines_eq_singleton (flat : '\n' ∉ text) : lines text = [text] := by
  rw [lines, splitOnChar_eq_splitOn, List.splitOn_eq_singleton flat]

/-- A text with one line holds no newline. -/
theorem newline_notMem_iff (text : List Char) : '\n' ∉ text ↔ (lines text).length ≤ 1 := by
  constructor
  · intro flat
    rw [lines_eq_singleton flat]
    exact Nat.le_refl 1
  · intro short member
    cases parts : lines text with
    | nil => exact lines_ne_nil text parts
    | cons line others =>
      rw [parts, List.length_cons] at short
      have only : others = [] := List.eq_nil_of_length_eq_zero (by omega)
      have joined := unlines_lines text
      rw [parts, only, unlines_singleton] at joined
      have inLine : line ∈ lines text := by rw [parts]; exact List.mem_cons_self
      exact newline_notMem_of_mem_lines inLine (by rw [joined]; exact member)

/-! ### Runs of characters -/

/-- A text at which a run of characters that pass a test ends. -/
def Stops (test : Char → Bool) (text : List Char) : Prop := ∀ c ∈ text.head?, test c = false

theorem Stops.nil (test : Char → Bool) : Stops test [] := by
  intro c member
  cases member

theorem Stops.cons {c : Char} (fails : test c = false) (text : List Char) :
    Stops test (c :: text) := by
  intro d member
  cases member
  exact fails

theorem stops_dropWhile (test : Char → Bool) (text : List Char) :
    Stops test (text.dropWhile test) := by
  intro c member
  have found := List.head?_dropWhile_not test text
  rw [Option.mem_def.mp member] at found
  simpa using found

theorem takeWhile_of_stops (stops : Stops test text) :
    text.takeWhile test = [] := by
  cases text with
  | nil => rfl
  | cons c text => exact List.takeWhile_cons_of_neg (by simp [stops c rfl])

theorem dropWhile_of_stops (stops : Stops test text) :
    text.dropWhile test = text := by
  cases text with
  | nil => rfl
  | cons c text => exact List.dropWhile_cons_of_neg (by simp [stops c rfl])

/-- **A run ends where the next character fails the test**: what the run takes. -/
theorem takeWhile_append_stops {run : List Char} (passes : ∀ c ∈ run, test c = true) (stops : Stops test rest) :
    (run ++ rest).takeWhile test = run := by
  rw [List.takeWhile_append_of_pos passes, takeWhile_of_stops stops, List.append_nil]

/-- **A run ends where the next character fails the test**: what the run leaves. -/
theorem dropWhile_append_stops {run : List Char} (passes : ∀ c ∈ run, test c = true) (stops : Stops test rest) :
    (run ++ rest).dropWhile test = rest := by
  rw [List.dropWhile_append_of_pos passes, dropWhile_of_stops stops]

/-- A run that ends inside a text does not look behind it. -/
theorem dropWhile_append_of_exists (rest : List Char) (ends : ∃ c ∈ text, test c = false) :
    (text ++ rest).dropWhile test = text.dropWhile test ++ rest := by
  rw [List.dropWhile_append]
  obtain ⟨c, member, fails⟩ := ends
  have left : text.dropWhile test ≠ [] := by
    intro none_left
    have passes := List.dropWhile_eq_nil_iff.mp none_left c member
    rw [fails] at passes
    cases passes
  rw [if_neg (by simpa using left)]

theorem takeWhile_append_of_exists (rest : List Char) (ends : ∃ c ∈ text, test c = false) :
    (text ++ rest).takeWhile test = text.takeWhile test := by
  have both := List.takeWhile_append_dropWhile (p := test) (l := text ++ rest)
  rw [dropWhile_append_of_exists rest ends, ← List.append_assoc] at both
  exact List.append_cancel_right ((List.append_cancel_right both).trans List.takeWhile_append_dropWhile.symm)

/-- A run that stops behind a text takes nothing from there. -/
theorem takeWhile_append_of_stops (stops : Stops test rest) (text : List Char) :
    (text ++ rest).takeWhile test = text.takeWhile test := by
  rw [List.takeWhile_append]
  split
  · rename_i whole
    rw [takeWhile_of_stops stops, List.append_nil]
    exact ((List.takeWhile_prefix test).eq_of_length whole).symm
  · rfl

theorem dropWhile_append_of_stops (stops : Stops test rest) (text : List Char) :
    (text ++ rest).dropWhile test = text.dropWhile test ++ rest := by
  rw [List.dropWhile_append]
  split
  · rename_i empty
    rw [dropWhile_of_stops stops, List.isEmpty_iff.mp empty, List.nil_append]
  · rfl

/-! ### Trimming -/

theorem dropEndWhile_eq_rdropWhile (test : Char → Bool) (text : List Char) :
    dropEndWhile test text = text.rdropWhile test := rfl

/-- Trimming the end leaves a text as it is when its last character is not blank. -/
theorem trimEnd_eq_self_iff (text : List Char) :
    trimEnd text = text ↔ ∀ c ∈ text.getLast?, isBlank c = false := by
  rw [trimEnd, dropEndWhile_eq_rdropWhile, List.rdropWhile_eq_self_iff]
  constructor
  · intro ends c member
    have last := List.mem_getLast?_eq_getLast member
    obtain ⟨nonempty, rfl⟩ := last
    simpa using ends nonempty
  · intro ends nonempty
    simpa using ends _ (List.getLast?_eq_some_getLast nonempty)

/-- The end of a blank text is all of it. -/
theorem trimEnd_eq_nil_iff (text : List Char) : trimEnd text = [] ↔ isBlankText text = true := by
  rw [trimEnd, dropEndWhile_eq_rdropWhile, List.rdropWhile_eq_nil_iff, isBlankText,
    List.all_eq_true]

theorem length_trimEnd_le (text : List Char) : (trimEnd text).length ≤ text.length :=
  (List.rdropWhile_prefix (p := isBlank) text).length_le

/-- A text that trimming leaves as it is starts with no blank. -/
theorem trimStart_eq_self_of_trim (trimmed : trim text = text) :
    trimStart text = text := by
  have short : text.length ≤ (trimStart text).length := by
    calc text.length = (trim text).length := by rw [trimmed]
      _ ≤ (trimStart text).length := length_trimEnd_le _
  exact (List.dropWhile_suffix isBlank).eq_of_length_le short

/-- A text that trimming leaves as it is ends with no blank. -/
theorem trimEnd_eq_self_of_trim (trimmed : trim text = text) :
    trimEnd text = text := by
  have start := trimStart_eq_self_of_trim trimmed
  rw [trim, start] at trimmed
  exact trimmed

end PromptChain.Text
