/-
**Written words are cut off a text as they were written.**

For each kind of word, `Terminal.lexeme?` cuts the written form off the front of a text, in full and not
beyond, whatever follows, as long as what follows cannot go on with the word: `lexeme?_name`,
`lexeme?_string`, `lexeme?_slash`, `lexeme?_paren`, `lexeme?_shell`, `lexeme?_entry`. What the words stand
for is read back from them: `literalPattern_formatPattern`, `slashParts_formatPattern`,
`entryOf_formatEntry`.

Main statement: `formatPattern_literal_lossless`.
-/

import PromptChain.Proofs.MetadataText
import PromptChain.Proofs.WellFormed

namespace PromptChain.Source

open Text

variable {c : Char} {rest : List Char} {key text : String}

/-! ### Classes of characters -/

theorem isExportChar_of_start (start : isExportStart c = true) : isExportChar c = true := by
  rw [isExportChar, start]
  rfl

/-- A letter, a digit or a low line, by its code. -/
theorem isExportChar_iff (c : Char) :
    isExportChar c = true ↔ (65 ≤ c.toNat ∧ c.toNat ≤ 90) ∨ (97 ≤ c.toNat ∧ c.toNat ≤ 122) ∨
      c.toNat = 95 ∨ (48 ≤ c.toNat ∧ c.toNat ≤ 57) := by
  have underscore : c = '_' ↔ c.toNat = 95 := by
    rw [← Char.toNat_inj]
    rfl
  simp only [isExportChar, isExportStart, Bool.or_eq_true, Bool.and_eq_true, decide_eq_true_eq,
    beq_iff_eq, underscore, Char.le_def, UInt32.le_iff_toNat_le]
  change (((65 ≤ c.toNat ∧ c.toNat ≤ 90) ∨ (97 ≤ c.toNat ∧ c.toNat ≤ 122)) ∨ c.toNat = 95) ∨
    (48 ≤ c.toNat ∧ c.toNat ≤ 57) ↔ _
  tauto

/-- A character of a name is none of the other signs. -/
theorem ne_of_isExportChar {d : Char} (inName : isExportChar c = true) (other : isExportChar d = false) :
    c ≠ d := by
  rintro rfl
  rw [inName] at other
  cases other

theorem isBlank_of_isExportChar (inName : isExportChar c = true) : isBlank c = false := by
  rw [isExportChar_iff] at inName
  simp only [isBlank, isBlankCode, inRanges, blankRanges, List.any_cons, List.any_nil,
    Bool.or_eq_false_iff, Bool.and_eq_false_iff, decide_eq_false_iff_not, and_true]
  omega

theorem isLayout_isBlank (layout : isLayout c = true) : isBlank c = true := by
  simp only [isLayout, Bool.or_eq_true, beq_iff_eq] at layout
  rcases layout with (((rfl | rfl) | rfl) | rfl) | rfl
  · decide
  · decide
  · decide
  · decide
  · decide

theorem isLayout_of_isExportChar (inName : isExportChar c = true) :
    isLayout c = false := by
  by_contra layout
  have blank := isLayout_isBlank (by simpa using layout)
  rw [isBlank_of_isExportChar inName] at blank
  cases blank

/-! ### Names, marks and keywords -/

/-- A name ends where no character of a name follows. -/
theorem lexeme?_name {word : List Char} (isName : IsName word) (ends : Stops isExportChar rest) :
    Terminal.name.lexeme? (word ++ rest) = some (word, rest) := by
  obtain ⟨nonempty, passes⟩ := isName
  cases word with
  | nil => exact absurd rfl nonempty
  | cons c word =>
    have inWord : ∀ d ∈ word, isExportChar d = true :=
      (List.forall_mem_cons.mp passes).2
    rw [List.cons_append, Terminal.lexeme?, if_pos (passes c List.mem_cons_self),
      takeWhile_append_stops inWord ends, dropWhile_append_stops inWord ends]

/-- The variable of a match block ends where no character of a name follows. -/
theorem lexeme?_subject {word : List Char} (isSubject : IsSubject word) (ends : Stops isExportChar rest) :
    Terminal.subject.lexeme? ('$' :: (word ++ rest)) = some ('$' :: word, rest) := by
  obtain ⟨⟨first, isFirst, start⟩, passes⟩ := isSubject
  cases word with
  | nil => cases isFirst
  | cons c word =>
    cases isFirst
    have inWord : ∀ d ∈ word, isExportChar d = true :=
      (List.forall_mem_cons.mp passes).2
    rw [List.cons_append, Terminal.lexeme?, if_pos start, takeWhile_append_stops inWord ends,
      dropWhile_append_stops inWord ends]

theorem dropPrefix?_self (word rest : List Char) : dropPrefix? (word ++ rest) word = some rest := by
  induction word with
  | nil => cases rest <;> rfl
  | cons c word ih => simpa [dropPrefix?] using ih

theorem fixed_append (word rest : List Char) : fixed word (word ++ rest) = some (word, rest) := by
  rw [fixed, dropPrefix?_self]
  rfl

theorem lexeme?_matchWord (rest : List Char) :
    Terminal.matchWord.lexeme? ('m' :: 'a' :: 't' :: 'c' :: 'h' :: rest)
      = some (['m', 'a', 't', 'c', 'h'], rest) := fixed_append ['m', 'a', 't', 'c', 'h'] rest

theorem lexeme?_arrow (rest : List Char) :
    Terminal.arrow.lexeme? ('=' :: '>' :: rest) = some (['=', '>'], rest) :=
  fixed_append ['=', '>'] rest

theorem lexeme?_comma (rest : List Char) :
    Terminal.comma.lexeme? (',' :: rest) = some ([','], rest) := fixed_append [','] rest

theorem lexeme?_openBrace (rest : List Char) :
    Terminal.openBrace.lexeme? ('{' :: rest) = some (['{'], rest) := fixed_append ['{'] rest

theorem lexeme?_closeBrace (rest : List Char) :
    Terminal.closeBrace.lexeme? ('}' :: rest) = some (['}'], rest) := fixed_append ['}'] rest

/-! ### String literals -/

/-- **How a character is written in a string literal**: behind a backslash, by a letter that stands for
it, or as it is. -/
theorem escapeLiteralChar_cases (c : Char) :
    (∃ letter, escapeLiteralChar c = ['\\', letter] ∧ letter ≠ '\n' ∧ letter ≠ '\r' ∧
        literalEscape letter = c) ∨
      (escapeLiteralChar c = [c] ∧ c ≠ '\\' ∧ c ≠ '"' ∧ c ≠ '\n' ∧ c ≠ '\r') := by
  unfold escapeLiteralChar
  split
  case h_1 => exact Or.inl ⟨'\\', rfl, by decide, by decide, rfl⟩
  case h_2 => exact Or.inl ⟨'"', rfl, by decide, by decide, rfl⟩
  case h_3 => exact Or.inl ⟨'n', rfl, by decide, by decide, rfl⟩
  case h_4 => exact Or.inl ⟨'t', rfl, by decide, by decide, rfl⟩
  case h_5 => exact Or.inl ⟨'r', rfl, by decide, by decide, rfl⟩
  case h_6 backslash quote newline _ carriage =>
    exact Or.inr ⟨rfl, backslash, quote, newline, carriage⟩

/-- **A string literal ends at its closing quote and not before.** -/
theorem stringTail_escaped (text rest : List Char) :
    stringTail (text.flatMap escapeLiteralChar ++ '"' :: rest)
      = some (text.flatMap escapeLiteralChar ++ ['"'], rest) := by
  induction text with
  | nil => rfl
  | cons c text ih =>
    rw [List.flatMap_cons, List.append_assoc]
    obtain ⟨letter, written, notNewline, _, _⟩ | ⟨written, notBackslash, notQuote, notNewline, _⟩ :=
      escapeLiteralChar_cases c
    · rw [written, List.cons_append, List.cons_append, List.nil_append, stringTail,
        if_neg notNewline, ih]
      rfl
    · rw [written, List.singleton_append, stringTail, if_neg (by simp [notNewline, notBackslash]), ih]
      · rfl
      · exact notQuote
      · intro d rest same _
        exact notBackslash same

/-- The characters of a string literal stand for the text. -/
theorem unescapeLiteral_escaped (text : List Char) :
    unescapeLiteral (text.flatMap escapeLiteralChar) = text := by
  induction text with
  | nil => rfl
  | cons c text ih =>
    rw [List.flatMap_cons]
    obtain ⟨letter, written, _, _, meaning⟩ | ⟨written, notBackslash, _⟩ := escapeLiteralChar_cases c
    · rw [written, List.cons_append, List.cons_append, List.nil_append, unescapeLiteral, ih, meaning]
    · rw [written, List.singleton_append, unescapeLiteral, ih]
      intro d rest same _
      exact notBackslash same

/-- The letter behind a string literal that ignores case. -/
def caseFlag (ignoreCase : Bool) : List Char := if ignoreCase then ['i'] else []

theorem toList_formatPattern_literal (text : String) (ignoreCase : Bool) :
    (formatPattern (.literal text ignoreCase)).toList
      = '"' :: (text.toList.flatMap escapeLiteralChar ++ '"' :: caseFlag ignoreCase) := by
  rw [formatPattern, String.toList_ofList, List.cons_append]
  rfl

theorem stringFlag_stops (word : List Char) (ends : Stops (· == 'i') rest) :
    stringFlag (word, rest) = (word, rest) := by
  unfold stringFlag
  split
  · rename_i same
    cases same
    exact absurd (ends 'i' rfl) (by decide)
  · rfl

/-- **A string literal is cut off in full**, with the letter behind it. -/
theorem lexeme?_string (text : String) (ignoreCase : Bool) (ends : Stops (· == 'i') rest) :
    Terminal.string.lexeme? ((formatPattern (.literal text ignoreCase)).toList ++ rest)
      = some ((formatPattern (.literal text ignoreCase)).toList, rest) := by
  rw [toList_formatPattern_literal, List.cons_append, List.append_assoc, List.cons_append,
    Terminal.lexeme?, stringTail_escaped]
  cases ignoreCase with
  | true => simp [Cut.push, stringFlag, caseFlag]
  | false => simp [Cut.push, stringFlag_stops _ ends, caseFlag]

/-- **The pattern of a string literal is read back.** -/
theorem literalPattern_formatPattern (text : String) (ignoreCase : Bool) :
    literalPattern (formatPattern (.literal text ignoreCase)).toList = .literal text ignoreCase := by
  rw [toList_formatPattern_literal]
  have flagged : (('"' :: (text.toList.flatMap escapeLiteralChar ++ '"' :: caseFlag ignoreCase)).getLast?
      == some 'i') = ignoreCase := by
    rw [← List.cons_append, List.getLast?_append_of_ne_nil _ (List.cons_ne_nil _ _)]
    cases ignoreCase <;> rfl
  have size : ('"' :: (text.toList.flatMap escapeLiteralChar ++ '"' :: caseFlag ignoreCase)).length
      - (if ignoreCase then 3 else 2) = (text.toList.flatMap escapeLiteralChar).length := by
    cases ignoreCase <;> simp [caseFlag]
  unfold literalPattern
  simp only [flagged, size, List.drop_succ_cons, List.drop_zero, List.take_left,
    unescapeLiteral_escaped, String.ofList_toList]

/-- A string literal stays on its line, whatever its text holds. -/
theorem ne_of_mem_formatPattern {ignoreCase : Bool}
    (member : c ∈ (formatPattern (.literal text ignoreCase)).toList) : c ≠ '\n' ∧ c ≠ '\r' := by
  rw [toList_formatPattern_literal, List.mem_cons, List.mem_append, List.mem_cons,
    List.mem_flatMap] at member
  obtain rfl | ⟨d, _, written⟩ | rfl | flag := member
  · decide
  · obtain ⟨letter, escape, notNewline, notReturn, _⟩ | ⟨plain, _, _, notNewline, notReturn⟩ :=
      escapeLiteralChar_cases d
    · rw [escape, List.mem_cons, List.mem_singleton] at written
      obtain rfl | rfl := written
      · decide
      · exact ⟨notNewline, notReturn⟩
    · rw [plain, List.mem_singleton] at written
      exact written ▸ ⟨notNewline, notReturn⟩
  · decide
  · cases ignoreCase with
    | true => exact List.mem_singleton.mp flag ▸ by decide
    | false => cases flag

/-- The characters that are written behind a backslash, and the letters for them. -/
def literalEscapes : List (Char × Char) :=
  [('\\', '\\'), ('"', '"'), ('\n', 'n'), ('\t', 't'), ('\r', 'r')]

/-- One escape, put in wherever its character stands. -/
def putEscape (text : List Char) (escape : Char × Char) : List Char :=
  text.flatMap fun c => if c = escape.1 then ['\\', escape.2] else [c]

/-- **The escapes can be put in one after the other**, as backslashes come first. -/
theorem foldl_putEscape (text : List Char) :
    literalEscapes.foldl putEscape text = text.flatMap escapeLiteralChar := by
  simp only [literalEscapes, List.foldl_cons, List.foldl_nil, putEscape, List.flatMap_assoc]
  refine List.flatMap_congr fun c _ => ?_
  fun_cases escapeLiteralChar c with
  | case6 _ backslash quote newline tab carriage =>
    simp [if_neg backslash, if_neg quote, if_neg newline, if_neg tab, if_neg carriage]
  | _ => rfl

/-- **String literals are lossless.** Whatever the text holds, its word is the text with the escapes put
in, on one line; it is cut off before a blank in full and not beyond, and the same literal is built. -/
theorem formatPattern_literal_lossless (text : String) (ignoreCase : Bool) (c : Char) (rest : List Char)
    (blank : isBlank c = true) (origin : Option String) (place : Place) :
    (formatPattern (.literal text ignoreCase)).toList
        = '"' :: (literalEscapes.foldl putEscape text.toList ++ '"' :: caseFlag ignoreCase) ∧
      Terminal.string.lexeme? ((formatPattern (.literal text ignoreCase)).toList ++ c :: rest)
        = some ((formatPattern (.literal text ignoreCase)).toList, c :: rest) ∧
      '\n' ∉ (formatPattern (.literal text ignoreCase)).toList ∧
      '\r' ∉ (formatPattern (.literal text ignoreCase)).toList ∧
      buildPattern origin ⟨.string, (formatPattern (.literal text ignoreCase)).toList, place⟩
        = .ok (.literal text ignoreCase) := by
  have ends : Stops (· == 'i') (c :: rest) := by
    refine Stops.cons ?_ rest
    rw [beq_eq_false_iff_ne]
    rintro rfl
    exact absurd blank (by decide)
  refine ⟨?_, lexeme?_string text ignoreCase ends,
    fun member => (ne_of_mem_formatPattern member).1 rfl,
    fun member => (ne_of_mem_formatPattern member).2 rfl,
    congrArg Except.ok (literalPattern_formatPattern text ignoreCase)⟩
  rw [foldl_putEscape, toList_formatPattern_literal]

theorem formatPattern_literal_lossless_backslashes :
    isBlank ' ' = true ∧
      Terminal.string.lexeme? "\"\\\\n\\\"\\r\\\\\" i".toList
        = some ("\"\\\\n\\\"\\r\\\\\"".toList, [' ', 'i']) ∧
      buildPattern none ⟨.string, "\"\\\\n\\\"\\r\\\\\"".toList, .first⟩
        = .ok (.literal "\\n\"\r\\" false) := by
  obtain ⟨_, cut, _, _, built⟩ :=
    formatPattern_literal_lossless "\\n\"\r\\" false ' ' ['i'] (by decide) none .first
  exact ⟨by decide, cut, built⟩

/-! ### Regular expressions between slashes -/

/-- **A regular expression ends at its closing slash and not before.** -/
theorem slashTail_body {body : List Char} (isBody : isSlashBody body = true) (rest : List Char) :
    slashTail (body ++ '/' :: rest) = some (body ++ ['/'], rest) := by
  fun_induction isSlashBody body with
  | case1 => rfl
  | case2 c body ih =>
    rw [Bool.and_eq_true, bne_iff_ne] at isBody
    rw [List.cons_append, List.cons_append, slashTail, if_neg isBody.1, ih isBody.2]
    rfl
  | case3 c body notEscape ih =>
    simp only [Bool.and_eq_true, bne_iff_ne] at isBody
    obtain ⟨⟨⟨notSlash, notBackslash⟩, notNewline⟩, later⟩ := isBody
    rw [List.cons_append, slashTail, if_neg (by simp [notNewline, notBackslash]), ih later]
    · rfl
    · exact notSlash
    · intro d more same _
      exact notBackslash same

theorem toList_formatPattern_slash (source flags : String) :
    (formatPattern (.regex source flags .slash)).toList
      = '/' :: (source.toList ++ '/' :: flags.toList) := by
  simp [formatPattern]

/-- A body does not start with a slash. -/
theorem head?_ne_slash {body : List Char} (isBody : isSlashBody body = true) :
    body.head? ≠ some '/' := by
  intro slash
  cases body with
  | nil => cases slash
  | cons c body =>
    cases slash
    rw [isSlashBody] at isBody
    · simp at isBody
    · intro d more same _
      cases same

/-- **A regular expression between slashes is cut off in full**, with the letters behind it. -/
theorem lexeme?_slash {source flags : String} (nonempty : source.toList ≠ [])
    (isBody : isSlashBody source.toList = true) (letters : ∀ c ∈ flags.toList, isFlagLetter c = true)
    (ends : Stops isFlagLetter rest) :
    Terminal.slashRegex.lexeme? ((formatPattern (.regex source flags .slash)).toList ++ rest)
      = some ((formatPattern (.regex source flags .slash)).toList, rest) := by
  rw [toList_formatPattern_slash, List.cons_append, List.append_assoc, List.cons_append]
  have notSlash : ∀ more, source.toList ++ '/' :: (flags.toList ++ rest) = '/' :: more → False := by
    intro more same
    have head := head?_ne_slash isBody
    rw [← List.head?_append_of_ne_nil _ nonempty, same] at head
    exact head rfl
  rw [Terminal.lexeme?, slashTail_body isBody]
  · simp only [Cut.push, Option.map_some, extend, takeWhile_append_stops letters ends,
      dropWhile_append_stops letters ends]
    simp
  · exact notSlash

theorem slash_notMem_of_letters {flags : List Char} (letters : ∀ c ∈ flags, isFlagLetter c = true) :
    ∀ c ∈ flags.reverse, (c != '/') = true := by
  intro c member
  rw [bne_iff_ne]
  rintro rfl
  have letter := letters _ (List.mem_reverse.mp member)
  revert letter
  decide

/-- **The source and the letters of a regular expression are read back.** -/
theorem slashParts_formatPattern {source flags : String}
    (letters : ∀ c ∈ flags.toList, isFlagLetter c = true) :
    slashParts (formatPattern (.regex source flags .slash)).toList = (source, flags) := by
  rw [toList_formatPattern_slash]
  have tail : (('/' :: (source.toList ++ '/' :: flags.toList)).reverse.takeWhile (· != '/')).reverse
      = flags.toList := by
    rw [List.reverse_cons, List.reverse_append, List.reverse_cons, List.append_assoc,
      List.append_assoc, takeWhile_append_stops (slash_notMem_of_letters letters),
      List.reverse_reverse]
    exact Stops.cons (by decide) _
  have size : ('/' :: (source.toList ++ '/' :: flags.toList)).length - 2 - flags.toList.length
      = source.toList.length := by
    simp only [List.length_cons, List.length_append]
    omega
  unfold slashParts
  simp only [tail, size, List.drop_succ_cons, List.drop_zero, List.take_left, String.ofList_toList]

/-! ### Regular expressions in parentheses -/

/-- What follows an arrow's place is settled before the next parenthesis. -/
theorem arrowFollows_append_paren (text rest : List Char) :
    arrowFollows (text ++ ')' :: rest) = arrowFollows (text ++ [')']) := by
  have apart : ∀ more : List Char, ∀ c ∈ (')' :: more).head?, c ∉ ['=', '>'] := by
    intro more c member
    cases member
    decide
  unfold arrowFollows
  by_cases inside : ∃ c ∈ text, isTabOrSpace c = false
  · rw [dropWhile_append_of_exists _ inside, dropWhile_append_of_exists _ inside,
      dropPrefix?_append_apart (apart rest), dropPrefix?_append_apart (apart [])]
    cases dropPrefix? (text.dropWhile isTabOrSpace) ['=', '>'] <;> rfl
  · have passes : ∀ c ∈ text, isTabOrSpace c = true := by
      intro c member
      by_contra fails
      exact inside ⟨c, member, by simpa using fails⟩
    rw [dropWhile_append_stops passes (Stops.cons (by decide) _),
      dropWhile_append_stops passes (Stops.cons (by decide) _)]
    rfl

/-- **A regular expression in parentheses ends at its last one.** -/
theorem parenTail_inner {inner : List Char} (flat : '\n' ∉ inner)
    (unclosed : ∀ before after, inner = before ++ ')' :: after → arrowFollows (after ++ [')']) = false)
    (arrow : arrowFollows rest = true) :
    parenTail (inner ++ ')' :: rest) = some (inner ++ [')'], rest) := by
  induction inner with
  | nil => simp [parenTail, arrow]
  | cons c inner ih =>
    have notNewline : c ≠ '\n' := fun same => flat (same ▸ List.mem_cons_self)
    have goesOn : (decide (c = ')') && arrowFollows (inner ++ ')' :: rest)) = false := by
      by_cases paren : c = ')'
      · rw [arrowFollows_append_paren, unclosed [] inner (by rw [paren]; rfl), Bool.and_false]
      · simp [paren]
    rw [List.cons_append, parenTail, goesOn, if_neg (by simp), if_neg notNewline, ih]
    · rfl
    · exact fun member => flat (List.mem_cons_of_mem _ member)
    · intro before after split
      exact unclosed (c :: before) after (by rw [split]; rfl)

/-- **A regular expression in parentheses is cut off in full** before an arrow. -/
theorem lexeme?_paren {source : List Char} (isSource : IsParenSource source)
    (arrow : arrowFollows rest = true) :
    Terminal.parenRegex.lexeme? (source ++ rest) = some (source, rest) := by
  obtain ⟨inner, rfl⟩ := isSource.delimited
  have flat : '\n' ∉ inner := fun member =>
    isSource.flat (List.mem_cons_of_mem _ (List.mem_append_left _ member))
  have unclosed : ∀ before after, inner = before ++ ')' :: after →
      arrowFollows (after ++ [')']) = false := by
    intro before after split
    exact isSource.unclosed ('(' :: before) (after ++ [')']) (by rw [split]; simp)
  rw [List.cons_append, List.append_assoc, List.singleton_append, Terminal.lexeme?,
    parenTail_inner flat unclosed arrow]
  rfl

/-! ### Commands -/

/-- **A command is cut off in full**: it ends at its closing backtick. -/
theorem lexeme?_shell {command : List Char} (closed : '\x60' ∉ command) :
    Terminal.shell.lexeme? ('\x60' :: (command ++ '\x60' :: rest))
      = some ('\x60' :: (command ++ ['\x60']), rest) := by
  have tail : shellTail (command ++ '\x60' :: rest) = some (command ++ ['\x60'], rest) := by
    induction command with
    | nil => rfl
    | cons c command ih =>
      have other : c ≠ '\x60' := fun same => closed (same ▸ List.mem_cons_self)
      rw [List.cons_append, shellTail, if_neg other,
        ih fun member => closed (List.mem_cons_of_mem _ member)]
      rfl
  rw [Terminal.lexeme?, if_pos rfl, tail]
  rfl

/-! ### Metadata entries -/

/-- The known keys are names that do not start with a digit. -/
theorem isSubject_of_known (known : key ∈ metadataKeys) : IsSubject key.toList := by
  simp only [metadataKeys, List.mem_cons, List.not_mem_nil, or_false] at known
  rcases known with rfl | rfl | rfl | rfl
  · exact ⟨⟨'d', rfl, by decide⟩, List.all_eq_true.mp rfl⟩
  · exact ⟨⟨'d', rfl, by decide⟩, List.all_eq_true.mp rfl⟩
  · exact ⟨⟨'e', rfl, by decide⟩, List.all_eq_true.mp rfl⟩
  · exact ⟨⟨'h', rfl, by decide⟩, List.all_eq_true.mp rfl⟩

/-- **An entry is its key, a colon, the rest of the line and the lines that continue it.** -/
theorem entryWord_key {key : List Char} (isKey : IsSubject key) (value : List Char) :
    entryWord (key ++ ':' :: value) =
      some (key ++ ':' :: (value.takeWhile (· != '\n')
          ++ (continuation (value.dropWhile (· != '\n'))).1),
        (continuation (value.dropWhile (· != '\n'))).2) := by
  obtain ⟨⟨first, isFirst, start⟩, passes⟩ := isKey
  cases key with
  | nil => cases isFirst
  | cons c key =>
    cases isFirst
    have inKey : ∀ d ∈ key, isExportChar d = true :=
      (List.forall_mem_cons.mp passes).2
    have colon : Stops isExportChar (':' :: value) := Stops.cons (by decide) _
    have noBlanks : (':' :: value).takeWhile isTabOrSpace = [] :=
      List.takeWhile_cons_of_neg (by decide)
    have stay : (':' :: value).dropWhile isTabOrSpace = ':' :: value :=
      List.dropWhile_cons_of_neg (by decide)
    rw [List.cons_append, entryWord]
    simp only [start, if_true, takeWhile_append_stops inKey colon, dropWhile_append_stops inKey colon,
      noBlanks, stay]
    simp

/-- The value of an entry as it is written behind the colon. -/
def writtenValue (text : List Char) : List Char :=
  if needsBlock text then ' ' :: '|' :: blockText (lines text) else ' ' :: text

theorem toList_formatEntry (key text : String) :
    (formatEntry key text).toList = key.toList ++ ':' :: writtenValue text.toList := by
  unfold formatEntry writtenValue
  split
  · rw [blockText_eq_below, ← newline_cons_unlines (by simp)]
    simp
  · rw [String.toList_append, String.toList_append, List.append_assoc]
    rfl

/-- A text that stays on the line of its key has one line. -/
theorem flat_of_keyLine {text : List Char} (onLine : needsBlock text = false) : '\n' ∉ text := by
  unfold needsBlock at onLine
  simp only [Bool.or_eq_false_iff, decide_eq_false_iff_not, Nat.not_lt] at onLine
  exact (newline_notMem_iff text).mpr onLine.1.1.1.1

/-- **An entry that is closed early** is cut off before the line that closes its block. -/
theorem lexeme?_entry_block (known : key ∈ metadataKeys) (needs : needsBlock text.toList = true)
    (opening : Opening rest) :
    ∃ taken left, lines text.toList = taken ++ left ∧ (left = [] ↔ StaysOpen (lines text.toList)) ∧
      (∀ line ∈ left.head?, isBlankText line = false) ∧
      Terminal.entry.lexeme? ((formatEntry key text).toList ++ '\n' :: rest)
        = some (key.toList ++ ':' :: ' ' :: '|' :: blockText taken,
          blockText left ++ '\n' :: rest) := by
  obtain ⟨taken, left, split, read, open_iff, solid⟩ := continuation_blockText (lines text.toList)
    (fun line member => newline_notMem_of_mem_lines member) opening
  refine ⟨taken, left, split, open_iff, solid, ?_⟩
  have ends := lineEnd_blockText (lines text.toList) rest
  rw [toList_formatEntry, List.append_assoc, List.cons_append, Terminal.lexeme?,
    entryWord_key (isSubject_of_known known), writtenValue, needs, if_pos rfl,
    show (' ' :: '|' :: blockText (lines text.toList)) ++ '\n' :: rest
      = [' ', '|'] ++ (blockText (lines text.toList) ++ '\n' :: rest) from rfl,
    takeWhile_append_stops (List.all_eq_true.mp rfl) ends,
    dropWhile_append_stops (List.all_eq_true.mp rfl) ends, read]
  rfl

/-- **An entry is cut off in full** when no line of its block closes it. -/
theorem lexeme?_entry (known : key ∈ metadataKeys) (kept : KeptByLayout text.toList) (opening : Opening rest) :
    Terminal.entry.lexeme? ((formatEntry key text).toList ++ '\n' :: rest)
      = some ((formatEntry key text).toList, '\n' :: rest) := by
  cases needs : needsBlock text.toList with
  | false =>
    have onLine : ∀ c ∈ ' ' :: text.toList, (c != '\n') = true := by
      intro c member
      rw [bne_iff_ne]
      rintro rfl
      rcases List.mem_cons.mp member with wrong | member
      · exact absurd wrong (by decide)
      · exact flat_of_keyLine needs member
    have ended : continuation ('\n' :: rest) = ([], '\n' :: rest) :=
      continuation_flush (stops_indent_of_solid opening.solid) (stops_newline_of_solid opening.solid)
    rw [toList_formatEntry, List.append_assoc, List.cons_append, Terminal.lexeme?,
      entryWord_key (isSubject_of_known known), writtenValue, needs, if_neg (by simp),
      takeWhile_append_stops onLine (LineEnd.cons rest),
      dropWhile_append_stops onLine (LineEnd.cons rest), ended, List.append_nil]
  | true =>
    obtain ⟨taken, left, split, open_iff, _, cut⟩ := lexeme?_entry_block known needs opening
    rw [open_iff.mpr (kept.resolve_left (by simp [needs])).stays] at split cut
    rw [List.append_nil] at split
    rw [cut, toList_formatEntry, writtenValue, needs, if_pos rfl, split]
    rfl

theorem colon_free {key : List Char} (isKey : IsSubject key) : ∀ c ∈ key, (c != ':') = true := by
  intro c member
  rw [bne_iff_ne]
  exact ne_of_isExportChar (isKey.2 c member) (by decide)

/-- The key of an entry is what stands before its colon. -/
theorem entryKey_append {key : List Char} (isKey : IsSubject key) (value : List Char) :
    entryKey (key ++ ':' :: value) = String.ofList key := by
  have solid : ∀ c ∈ key, isBlank c = false :=
    fun c member => isBlank_of_isExportChar (isKey.2 c member)
  have trimmed : trim key = key := by
    rw [trim, trimStart, show key.dropWhile isBlank = key from
      dropWhile_of_stops fun c member =>
        solid c (List.mem_of_mem_head? member), trimEnd_eq_self_iff]
    exact fun c member => solid c (List.mem_of_mem_getLast? member)
  rw [entryKey, takeWhile_append_stops (colon_free isKey) (Stops.cons (by decide) _), trimmed]

/-- The value of an entry is what stands behind its colon. -/
theorem valueText_append {key : List Char} (isKey : IsSubject key) (value : List Char) :
    ((key ++ ':' :: value).dropWhile (· != ':')).drop 1 = value := by
  rw [dropWhile_append_stops (colon_free isKey) (Stops.cons (by decide) _)]
  rfl

theorem needsBlock_nil : needsBlock [] = false := by decide

/-- The value that is kept is the value that is read. -/
theorem entryText_writtenValue {text : List Char} (kept : KeptByLayout text) :
    entryText (writtenValue text) = text := by
  unfold writtenValue
  cases needs : needsBlock text with
  | false => exact entryText_keyLine needs
  | true =>
    have back := kept.resolve_left (by simp [needs])
    have nonempty : text ≠ [] := by
      rintro rfl
      rw [needsBlock_nil] at needs
      cases needs
    rw [if_pos rfl, entryText_block fun line member => newline_notMem_of_mem_lines member]
    exact (readBlock_eq_iff nonempty).mpr ⟨back.ends, back.first, back.last, back.flush, back.plain⟩

/-- **A metadata entry is read back from its word.** -/
theorem entryOf_formatEntry (known : key ∈ metadataKeys) (kept : KeptByLayout text.toList) (place : Place) :
    entryOf ⟨.entry, (formatEntry key text).toList, place⟩ = ⟨key, text, place.line, place.column⟩ := by
  have isKey := isSubject_of_known known
  unfold entryOf
  simp only [toList_formatEntry, entryKey_append isKey, valueText_append isKey,
    entryText_writtenValue kept, String.ofList_toList]

end PromptChain.Source
