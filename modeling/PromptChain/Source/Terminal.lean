/-
**The words of a source.**

A `Terminal` is a kind of word, and `Terminal.lexeme?` cuts a word of that kind off the front of a
text. `Terminal.lexeme?_append`: the word and what follows it make up the text, and the word is not
empty.
-/

import PromptChain.Layout

namespace PromptChain.Source

open Text

inductive Terminal where
  /-- A metadata key with its value, which may go on over indented lines. -/
  | entry
  | slashRegex
  | subject
  | parenRegex
  | string
  | name
  | blank
  | shell
  | comment
  | matchWord
  | arrow
  | comma
  | openBrace
  | closeBrace
deriving DecidableEq

/-- A word and what follows it. -/
abbrev Cut := Option (List Char × List Char)

def Cut.push (c : Char) (cut : Cut) : Cut := cut.map fun (word, rest) => (c :: word, rest)

def fixed (word text : List Char) : Cut := (dropPrefix? text word).map fun rest => (word, rest)

/-- The blanks between words. -/
def isLayout (c : Char) : Bool :=
  c == ' ' || c == '\t' || c == '\x0c' || c == '\r' || c == '\n'

/-! ### Words with an end of their own -/

/-- The rest of a string literal, with its closing quote. A backslash takes the next character with
it; a string ends on its line. -/
def stringTail : List Char → Cut
  | [] => none
  | '"' :: rest => some (['"'], rest)
  | '\\' :: c :: rest => if c = '\n' then none else ((stringTail rest).push c).push '\\'
  | c :: rest => if c = '\n' || c = '\\' then none else (stringTail rest).push c

/-- The rest of a regular expression between slashes, with its closing slash. -/
def slashTail : List Char → Cut
  | [] => none
  | '/' :: rest => some (['/'], rest)
  | '\\' :: c :: rest => if c = '\n' then none else ((slashTail rest).push c).push '\\'
  | c :: rest => if c = '\n' || c = '\\' then none else (slashTail rest).push c

def arrowFollows (text : List Char) : Bool :=
  (dropPrefix? (text.dropWhile isTabOrSpace) ['=', '>']).isSome

/-- The rest of a parenthesised regular expression: up to the first parenthesis that an arrow
follows, on the same line. -/
def parenTail : List Char → Cut
  | [] => none
  | c :: rest =>
    if c = ')' && arrowFollows rest then some ([c], rest)
    else if c = '\n' then none
    else (parenTail rest).push c

/-- The rest of a shell command, with its closing backtick. -/
def shellTail : List Char → Cut
  | [] => none
  | c :: rest => if c = '\x60' then some ([c], rest) else (shellTail rest).push c

/-- The letters behind a regular expression between slashes. -/
def isFlagLetter (c : Char) : Bool := c == 'i' || c == 'm' || c == 's' || c == 'x'

/-- A word with the longest run of characters behind it that pass a test, at most so many. -/
def extend (test : Char → Bool) (cut : Cut) : Cut :=
  cut.map fun (word, rest) => (word ++ rest.takeWhile test, rest.dropWhile test)

/-- A string literal may have one letter behind it, which makes it ignore case. -/
def stringFlag : List Char × List Char → List Char × List Char
  | (word, 'i' :: rest) => (word ++ ['i'], rest)
  | other => other

/-! ### Metadata entries -/

def opensMatch : List Char → Bool
  | '{' :: rest =>
    match dropPrefix? (rest.dropWhile isBlank) "match".toList with
    | some after => !(after.head?.any fun c => isWordCode c.toNat)
    | none => false
  | _ => false

/-- The lines that continue a metadata value: blank lines before another line, and indented lines
that neither open the match block nor start with a known key. -/
def continuation (text : List Char) : List Char × List Char :=
  match text with
  | '\n' :: rest =>
    let blanks := rest.takeWhile isTabOrSpace
    let after := rest.dropWhile isTabOrSpace
    if after.head? = some '\n' then
      let more := continuation after
      ('\n' :: blanks ++ more.1, more.2)
    else if blanks.isEmpty || opensMatch after || startsKnownKey after then ([], text)
    else
      let more := continuation (after.dropWhile (· != '\n'))
      ('\n' :: blanks ++ after.takeWhile (· != '\n') ++ more.1, more.2)
  | _ => ([], text)
termination_by text.length
decreasing_by
  · exact Nat.lt_succ_of_le (length_dropWhile_le _ _)
  · exact Nat.lt_succ_of_le
      (Nat.le_trans (length_dropWhile_le _ _) (length_dropWhile_le _ _))

/-- A metadata entry: a key, a colon, the rest of the line and the lines that continue it. -/
def entryWord (text : List Char) : Cut :=
  match text with
  | [] => none
  | c :: rest =>
    if isExportStart c then
      let key := c :: rest.takeWhile isExportChar
      let afterKey := rest.dropWhile isExportChar
      let blanks := afterKey.takeWhile isTabOrSpace
      match afterKey.dropWhile isTabOrSpace with
      | ':' :: value =>
        let more := continuation (value.dropWhile (· != '\n'))
        some (key ++ blanks ++ ':' :: value.takeWhile (· != '\n') ++ more.1, more.2)
      | _ => none
    else none

/-! ### All words -/

/-- Cuts a word of a kind off the front of a text. -/
def Terminal.lexeme? (terminal : Terminal) (text : List Char) : Cut :=
  match terminal, text with
  | .entry, _ => entryWord text
  | .slashRegex, '/' :: '/' :: _ => none
  | .slashRegex, '/' :: rest => extend isFlagLetter ((slashTail rest).push '/')
  | .subject, '$' :: c :: rest =>
    if isExportStart c then
      some ('$' :: c :: rest.takeWhile isExportChar, rest.dropWhile isExportChar)
    else none
  | .parenRegex, '(' :: rest => (parenTail rest).push '('
  | .string, '"' :: rest => ((stringTail rest).push '"').map stringFlag
  | .name, c :: rest =>
    if isExportChar c then some (c :: rest.takeWhile isExportChar, rest.dropWhile isExportChar)
    else none
  | .blank, c :: rest =>
    if isLayout c then some (c :: rest.takeWhile isLayout, rest.dropWhile isLayout) else none
  | .shell, c :: rest => if c = '\x60' then (shellTail rest).push c else none
  | .comment, '#' :: rest => some ('#' :: rest.takeWhile (· != '\n'), rest.dropWhile (· != '\n'))
  | .matchWord, _ => fixed "match".toList text
  | .arrow, _ => fixed "=>".toList text
  | .comma, _ => fixed [','] text
  | .openBrace, _ => fixed ['{'] text
  | .closeBrace, _ => fixed ['}'] text
  | _, _ => none

/-! ### What words are cut from -/

theorem Cut.push_eq_some {c : Char} {cut : Cut} {word rest : List Char}
    (pushed : cut.push c = some (word, rest)) : ∃ inner, cut = some (inner, rest) ∧ word = c :: inner := by
  cases cut with
  | none => cases pushed
  | some taken => cases pushed; exact ⟨_, rfl, rfl⟩

/-- What a cut must be: the word is not empty, and with the rest it makes up the text. -/
def Splits (cut : Cut) (text : List Char) : Prop :=
  ∀ word rest, cut = some (word, rest) → word ≠ [] ∧ word ++ rest = text

namespace Splits

variable {cut : Cut} {text : List Char}

theorem none (text : List Char) : Splits none text := nofun

/-- A character with the run behind it. -/
theorem run (c : Char) (test : Char → Bool) (text : List Char) :
    Splits (some (c :: text.takeWhile test, text.dropWhile test)) (c :: text) := by
  rintro word rest ⟨⟩
  exact ⟨List.cons_ne_nil _ _, congrArg (c :: ·) List.takeWhile_append_dropWhile⟩

theorem single (c : Char) (text : List Char) : Splits (some ([c], text)) (c :: text) := by
  rintro word rest ⟨⟩
  exact ⟨List.cons_ne_nil _ _, rfl⟩

theorem push (splits : Splits cut text) (c : Char) : Splits (cut.push c) (c :: text) := by
  intro word rest pushed
  obtain ⟨inner, taken, rfl⟩ := Cut.push_eq_some pushed
  exact ⟨List.cons_ne_nil _ _, congrArg (c :: ·) (splits inner rest taken).2⟩

/-- A word that takes some of what follows it. -/
theorem map {change : List Char × List Char → List Char × List Char} (splits : Splits cut text)
    (grows : ∀ word rest, word <+: (change (word, rest)).1 ∧
      (change (word, rest)).1 ++ (change (word, rest)).2 = word ++ rest) : Splits (cut.map change) text := by
  intro word rest found
  obtain ⟨⟨inner, after⟩, taken, same⟩ := Option.map_eq_some_iff.mp found
  obtain ⟨nonempty, whole⟩ := splits inner after taken
  obtain ⟨longer, sameWhole⟩ := grows inner after
  rw [same] at longer sameWhole
  exact ⟨fun empty => nonempty (List.prefix_nil.mp (empty ▸ longer)), sameWhole.trans whole⟩

theorem extend (splits : Splits cut text) (test : Char → Bool) : Splits (extend test cut) text :=
  splits.map fun word rest => ⟨List.prefix_append _ _, by simp [List.takeWhile_append_dropWhile]⟩

theorem stringFlag (splits : Splits cut text) : Splits (cut.map stringFlag) text := by
  refine splits.map fun word rest => ?_
  unfold Source.stringFlag
  split
  · rename_i same
    cases same
    simp
  · simp

end Splits

theorem stringTail_splits (text : List Char) : Splits (stringTail text) text := by
  fun_induction stringTail text with
  | case1 => exact .none _
  | case2 rest => exact Splits.single _ _
  | case3 => exact .none _
  | case4 c rest _ ih => exact (ih.push c).push '\\'
  | case5 => exact .none _
  | case6 c rest _ _ _ ih => exact ih.push c

theorem slashTail_splits (text : List Char) : Splits (slashTail text) text := by
  fun_induction slashTail text with
  | case1 => exact .none _
  | case2 rest => exact Splits.single _ _
  | case3 => exact .none _
  | case4 c rest _ ih => exact (ih.push c).push '\\'
  | case5 => exact .none _
  | case6 c rest _ _ _ ih => exact ih.push c

theorem parenTail_splits (text : List Char) : Splits (parenTail text) text := by
  fun_induction parenTail text with
  | case1 => exact .none _
  | case2 => exact Splits.single _ _
  | case3 => exact .none _
  | case4 c rest _ _ ih => exact ih.push c

theorem shellTail_splits (text : List Char) : Splits (shellTail text) text := by
  fun_induction shellTail text with
  | case1 => exact .none _
  | case2 => exact Splits.single _ _
  | case3 c rest _ ih => exact ih.push c

theorem dropPrefix?_append {text start rest : List Char}
    (found : dropPrefix? text start = some rest) : start ++ rest = text := by
  fun_induction dropPrefix? text start with
  | case1 => simp_all
  | case2 => simp at found
  | case3 c text start ih => simp_all
  | case4 => simp at found

theorem fixed_splits {fixedWord : List Char} (nonempty : fixedWord ≠ []) (text : List Char) :
    Splits (fixed fixedWord text) text := by
  intro word rest found
  obtain ⟨after, taken, same⟩ := Option.map_eq_some_iff.mp found
  cases same
  exact ⟨nonempty, dropPrefix?_append taken⟩

theorem continuation_append (text : List Char) :
    (continuation text).1 ++ (continuation text).2 = text := by
  fun_induction continuation text with
  | case1 rest blanks after _ more ih =>
    simp only [List.cons_append, List.append_assoc]
    simp [more, ih, blanks, after, List.takeWhile_append_dropWhile]
  | case2 => rfl
  | case3 rest blanks after _ _ more ih =>
    simp [more, ih, blanks, after, List.takeWhile_append_dropWhile]
  | case4 => rfl

theorem entryWord_splits (text : List Char) : Splits (entryWord text) text := by
  unfold entryWord
  split
  · exact .none _
  · split
    · dsimp only
      split
      · rename_i value colon
        rintro word rest ⟨⟩
        refine ⟨by simp, ?_⟩
        simp only [List.cons_append, List.append_assoc, continuation_append,
          List.takeWhile_append_dropWhile]
        rw [← colon, List.takeWhile_append_dropWhile, List.takeWhile_append_dropWhile]
      · exact .none _
    · exact .none _

/-- **A word is not empty, and with what follows it makes up the text.** -/
theorem Terminal.lexeme?_splits (terminal : Terminal) (text : List Char) :
    Splits (terminal.lexeme? text) text := by
  unfold Terminal.lexeme?
  split
  · exact entryWord_splits _
  · exact .none _
  · exact ((slashTail_splits _).push '/').extend _
  · split
    · exact (Splits.run _ _ _).push '$'
    · exact .none _
  · exact (parenTail_splits _).push '('
  · exact ((stringTail_splits _).push '"').stringFlag
  · split
    · exact .run _ _ _
    · exact .none _
  · split
    · exact .run _ _ _
    · exact .none _
  · split
    · exact (shellTail_splits _).push _
    · exact .none _
  · exact .run _ _ _
  · exact fixed_splits (by decide) _
  · exact fixed_splits (by decide) _
  · exact fixed_splits (by decide) _
  · exact fixed_splits (by decide) _
  · exact fixed_splits (by decide) _
  · exact .none _

/-- What follows a word is shorter than the text. -/
theorem Terminal.lexeme?_length {terminal : Terminal} {text word rest : List Char}
    (found : terminal.lexeme? text = some (word, rest)) : rest.length < text.length := by
  obtain ⟨nonempty, whole⟩ := terminal.lexeme?_splits text word rest found
  have positive := List.length_pos_iff.mpr nonempty
  rw [← whole, List.length_append]
  omega

end PromptChain.Source
