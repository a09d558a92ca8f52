/-
**Reading a pattern.**

`compile` turns the text of a pattern into a tree, or says what is wrong with it and where. The
reader sees the pattern as tokens, a token being one character or a backslash with the character
after it, and always knows the next one; a backslash at the very end is refused as soon as it comes
next. Problems of the whole tree (the width of a look-behind) are found after reading, in the order of
the tree (`Node.problem?`).
-/

import PromptChain.Text.Blank
import PromptChain.Text.CharName
import PromptChain.Text.Digits
import PromptChain.Text.Identifiers
import PromptChain.Text.Integer
import PromptChain.Regex.Basic
import PromptChain.Regex.Problem

namespace PromptChain.Regex

open PromptChain.Text

/-! ### Tokens -/

/-- One character, or a backslash with the character after it. -/
inductive Token where
  | plain (c : Char)
  | escaped (c : Char)
deriving DecidableEq

def Token.text : Token → List Char
  | .plain c => [c]
  | .escaped c => ['\\', c]

/-- What an engine may settle for itself. Its releases differ in both. -/
structure Dialect where
  /-- The character of a name. -/
  charNamed? : String → Option Nat
  /-- Whether a possessive repetition goes on where a round that failed began. -/
  goesBack : Bool

/-- The engine of the program: it knows a few alphabets by name. -/
def Dialect.standard : Dialect := ⟨Text.charNamed?, false⟩

/-- What the reader knows: the engine it reads for, the next token, the position after it, the text
after it, the flags of the whole pattern, and the groups seen so far. -/
structure ReadState where
  dialect : Dialect
  next : Option Token
  index : Nat
  rest : List Char
  flags : Flags
  /-- The width of each group, first group first; a group that is still open has none. -/
  widths : List (Option (Nat × Nat))
  names : List (String × Nat)
  /-- The number that the next group had when the outermost look-behind began. -/
  lookbehind : Option Nat
  /-- The groups that conditions ask for by number, with the place of the first such condition. -/
  conditions : List (Nat × Nat)

abbrev Reader := StateT ReadState (Except Failure)

def ReadState.position (s : ReadState) : Nat :=
  s.index - (s.next.elim 0 fun token => token.text.length)

def failAt {α : Type} (position : Nat) (problem : Problem) : Reader α :=
  throw (.malformed problem (some position))

/-- Fails a number of characters before the next token. -/
def failBack {α : Type} (offset : Nat) (problem : Problem) : Reader α := do
  failAt ((← get).position - offset) problem

def advance : Reader Unit := do
  let s ← get
  match s.rest with
  | [] => set { s with next := none }
  | ['\\'] => failAt s.index .escapeAtEnd
  | '\\' :: c :: rest =>
    set { s with next := some (.escaped c), index := s.index + 2, rest := rest }
  | c :: rest => set { s with next := some (.plain c), index := s.index + 1, rest := rest }

def take : Reader (Option Token) := do
  let token := (← get).next
  advance
  return token

/-- Passes the next token if it is the given character. -/
def accept (c : Char) : Reader Bool := do
  if (← get).next = some (.plain c) then
    advance
    return true
  return false

/-- Passes at most so many characters of a class. -/
def takeWhile (test : Char → Bool) : Nat → Reader (List Char)
  | 0 => return []
  | count + 1 => do
    match (← get).next with
    | some (.plain c) =>
      if test c then
        advance
        return c :: (← takeWhile test count)
      return []
    | _ => return []

/-- The text up to a closing character, which is passed; `what` names what stands there. -/
def takeUntil (closer : Char) (what : String) : Nat → List Char → Reader (List Char)
  | 0, _ => throw (.malformed .unexpectedEnd none)
  | fuel + 1, found => do
    match ← take with
    | none =>
      if found.isEmpty then failBack 0 (.missing what)
      else failBack found.length (.unterminatedName closer)
    | some token =>
      if token = .plain closer then
        if found.isEmpty then failBack 1 (.missing what) else return found
      else takeUntil closer what fuel (found ++ token.text)

def takeName (closer : Char) (what : String) : Reader String := do
  return String.ofList (← takeUntil closer what ((← get).rest.length + 2) [])

/-! ### Characters -/

def isPlainDigit (c : Char) : Bool := '0' ≤ c && c ≤ '9'

def isOctalDigit (c : Char) : Bool := '0' ≤ c && c ≤ '7'

def isHexDigit (c : Char) : Bool :=
  isPlainDigit c || ('a' ≤ c && c ≤ 'f') || ('A' ≤ c && c ≤ 'F')

def isPlainLetter (c : Char) : Bool := ('a' ≤ c && c ≤ 'z') || ('A' ≤ c && c ≤ 'Z')

def hexValue (c : Char) : Nat :=
  if isPlainDigit c then c.toNat - 0x30
  else if 'a' ≤ c && c ≤ 'f' then c.toNat - 0x57 else c.toNat - 0x37

def numberOf (base : Nat) (digits : List Char) : Nat :=
  digits.foldl (fun value c => value * base + hexValue c) 0

def escapeText (letter : Char) (digits : List Char) : String :=
  String.ofList ('\\' :: letter :: digits)

/-- An escape by `count` hexadecimal digits. -/
def readHexEscape (letter : Char) (count : Nat) : Reader Nat := do
  let digits ← takeWhile isHexDigit count
  let text := escapeText letter digits
  if digits.length != count then failBack (digits.length + 2) (.incompleteEscape text)
  let code := numberOf 16 digits
  if code > 0x10ffff then failBack (digits.length + 2) (.badEscape text)
  return code

def readNamedEscape : Reader Nat := do
  if !(← accept '{') then failBack 0 (.missing "\x7b")
  let name ← takeName '}' "character name"
  match (← get).dialect.charNamed? name with
  | some code => return code
  | none => failBack (name.length + 4) (.unknownCharacterName name)

/-- The character of an escape that stands for a control character or for the backslash. -/
def controlEscape? : Char → Option Nat
  | 'a' => some 7
  | 'b' => some 8
  | 'f' => some 12
  | 'n' => some 10
  | 'r' => some 13
  | 't' => some 9
  | 'v' => some 11
  | '\\' => some 0x5c
  | _ => none

def categoryEscape? : Char → Option (Category × Bool)
  | 'd' => some (.digit, false)
  | 'D' => some (.digit, true)
  | 's' => some (.space, false)
  | 'S' => some (.space, true)
  | 'w' => some (.word, false)
  | 'W' => some (.word, true)
  | _ => none

/-- An escape that is written by letter and means one character wherever it stands. -/
def readLetterEscape? (letter : Char) : Reader (Option Nat) := do
  match letter with
  | 'x' => return some (← readHexEscape letter 2)
  | 'u' => return some (← readHexEscape letter 4)
  | 'U' => return some (← readHexEscape letter 8)
  | 'N' => return some (← readNamedEscape)
  | _ => return none

/-- A character that stands for itself behind a backslash. -/
def readSelfEscape (c : Char) : Reader Nat := do
  if isPlainLetter c || isPlainDigit c then failBack 2 (.badEscape (escapeText c []))
  return c.toNat

def octalEscape (digits : List Char) : Reader Nat := do
  let code := numberOf 8 digits
  if code > 0o377 then
    failBack (digits.length + 1) (.octalTooLarge (String.ofList ('\\' :: digits)))
  return code

def readSetEscape (flags : Flags) (c : Char) : Reader Member := do
  match controlEscape? c with
  | some code => return .single code
  | none =>
    match categoryEscape? c with
    | some (kind, negated) => return .category kind negated flags.ascii
    | none =>
      match ← readLetterEscape? c with
      | some code => return .single code
      | none =>
        if isOctalDigit c then
          return .single (← octalEscape (c :: (← takeWhile isOctalDigit 2)))
        return .single (← readSelfEscape c)

/-! ### Groups -/

def ReadState.nextGroup (s : ReadState) : Nat := s.widths.length + 1

def ReadState.isClosed (s : ReadState) (index : Nat) : Bool :=
  index != 0 && ((s.widths[index - 1]?).bind id).isSome

/-- Inside a look-behind only groups closed before it can be asked for. -/
def checkLookbehind (index : Nat) : Reader Unit := do
  let s ← get
  match s.lookbehind with
  | none => return ()
  | some bound =>
    if !s.isClosed index then failBack 0 .openGroupReference
    if index ≥ bound then failBack 0 .lookbehindGroupReference

def openGroup (name : Option String) : Reader Nat := do
  let s ← get
  let index := s.nextGroup
  match name with
  | none => set { s with widths := s.widths ++ [none] }
  | some name =>
    match s.names.lookup name with
    | some earlier => failBack (name.length + 1) (.redefinedGroup name index earlier)
    | none => set { s with widths := s.widths ++ [none], names := s.names ++ [(name, index)] }
  return index

def ReadState.groupWidth (s : ReadState) (index : Nat) : Nat × Nat :=
  (((s.widths[index - 1]?).bind id).getD (0, 0))

def closeGroup (index : Nat) (body : Node) : Reader Unit := do
  modify fun s => { s with widths := s.widths.set (index - 1) (some (body.width s.groupWidth)) }

def checkGroupName (name : String) : Reader Unit := do
  if !isIdentifier name.toList then failBack (name.length + 1) (.badGroupName name)

/-- A reference to a group by number, `back` characters before the next token. -/
def readBackref (flags : Flags) (index back : Nat) : Reader Node := do
  if !(← get).isClosed index then failBack back .openGroupReference
  checkLookbehind index
  return .backref flags.caseRule index

def readEscape (flags : Flags) (c : Char) : Reader Node := do
  let single (code : Nat) : Node := .one (.single flags.caseRule false code)
  match c with
  | 'A' => return .anchor .textStart
  | 'Z' => return .anchor .textEnd
  | 'b' => return .anchor (.boundary flags.ascii false)
  | 'B' => return .anchor (.boundary flags.ascii true)
  | '0' => return single (numberOf 8 (← takeWhile isOctalDigit 2))
  | _ =>
    match categoryEscape? c with
    | some (kind, negated) =>
      return .one (.set flags.caseRule false [.category kind negated flags.ascii])
    | none =>
      match controlEscape? c with
      | some code => return single code
      | none =>
        match ← readLetterEscape? c with
        | some code => return single code
        | none =>
          if !isPlainDigit c then return single (← readSelfEscape c)
          let second ← takeWhile isPlainDigit 1
          let octal := isOctalDigit c && second.any isOctalDigit
          let third ← takeWhile isOctalDigit (if octal then 1 else 0)
          let digits := c :: second ++ third
          if third.length = 1 then return single (← octalEscape digits)
          let index := numberOf 10 digits
          if index < (← get).nextGroup then readBackref flags index (digits.length + 1)
          else failBack digits.length (.invalidGroupReference index)

/-! ### Character sets -/

/-- One end of a range, or a member of its own. -/
def readSetItem (flags : Flags) : Token → Reader Member
  | .plain c => return .single c.toNat
  | .escaped c => readSetEscape flags c

def readRange (first last : Member) (firstText lastText : List Char) : Reader Member := do
  let refuse : Reader Member :=
    failBack (firstText.length + 1 + lastText.length)
      (.badRange (String.ofList firstText) (String.ofList lastText))
  match first, last with
  | .single low, .single high => if high < low then refuse else return .range low high
  | _, _ => refuse

/-- The members of a set up to its bracket; `start` is where the set began. -/
def readSetMembers (flags : Flags) (start : Nat) : Nat → List Member → Reader (List Member)
  | 0, _ => throw (.malformed .unexpectedEnd none)
  | fuel + 1, members => do
    match ← take with
    | none => failAt start .unterminatedSet
    | some token =>
      if token = .plain ']' && !members.isEmpty then return members
      let item ← readSetItem flags token
      if !(← accept '-') then readSetMembers flags start fuel (members ++ [item])
      else
        match ← take with
        | none => failAt start .unterminatedSet
        | some (.plain ']') => return members ++ [item, .single '-'.toNat]
        | some other =>
          let last ← readSetItem flags other
          let range ← readRange item last token.text other.text
          readSetMembers flags start fuel (members ++ [range])

def withoutRepeats (members : List Member) : List Member :=
  members.foldl (fun kept member => if kept.contains member then kept else kept ++ [member]) []

/-- A character set; a set of one character is that character. -/
def readSet (flags : Flags) : Reader Node := do
  let start := (← get).position - 1
  let negated ← accept '^'
  let members ← readSetMembers flags start ((← get).rest.length + 3) []
  match withoutRepeats members with
  | [.single code] => return .one (.single flags.caseRule negated code)
  | members => return .one (.set flags.caseRule negated members)

/-! ### Repetition -/

/-- Counts from here on are refused. -/
def repeatLimit : Nat := 4294967295

/-- A count as it is written. -/
def countOf (digits : List Char) : Reader Nat := do
  if digits.length > digitLimit then throw (.repetitionTooLong digits.length)
  let count := numberOf 10 digits
  if count ≥ repeatLimit then throw .repetitionTooLarge
  return count

/-- The bounds of a counted repetition; none if the brace stands for itself. -/
def readBounds : Reader (Option (Nat × Option Nat)) := do
  let here ← get
  if here.next = some (.plain '}') then return none
  let low ← takeWhile isPlainDigit (here.rest.length + 1)
  let high ← if ← accept ',' then takeWhile isPlainDigit (here.rest.length + 1) else pure low
  if !(← accept '}') then
    set here
    return none
  let least ← countOf low
  if high.isEmpty then return some (least, none)
  let most ← countOf high
  if most < least then failAt here.position .repeatBoundsSwapped
  return some (least, some most)

/-- Repeats the last item; `start` is where the repetition is written. -/
def readRepeat (start : Nat) (least : Nat) (most : Option Nat) (items : List Node) :
    Reader (List Node) := do
  match items.getLast? with
  | none => failAt start .nothingToRepeat
  | some (.anchor _) => failAt start .nothingToRepeat
  | some (.rep _ _ _ _) => failAt start .multipleRepeat
  | some item =>
    let body := match item with
      | .scope body => body
      | other => other
    let mode ← do
      if ← accept '?' then pure RepeatMode.lazy
      else if ← accept '+' then pure (RepeatMode.possessive (← get).dialect.goesBack)
      else pure RepeatMode.greedy
    return items.dropLast ++ [.rep mode least most body]

/-! ### Flags inside a pattern -/

def flagOf? : Char → Option Flags
  | 'i' => some { ignoreCase := true }
  | 'm' => some { multiline := true }
  | 's' => some { dotAll := true }
  | 'x' => some { verbose := true }
  | 'a' => some { ascii := true }
  | 'u' => some { unicode := true }
  | 't' => some { template := true }
  | _ => none

/-- Whether a letter names a flag, the one for locales included. -/
def isFlagLetter (c : Char) : Bool := c == 'L' || (flagOf? c).isSome

/-- Flags that are turned on, starting with a letter; gives the character that ended them. -/
def readAddedFlags : Nat → Char → Flags → Reader (Flags × Char)
  | 0, _, _ => throw (.malformed .unexpectedEnd none)
  | fuel + 1, letter, flags => do
    match flagOf? letter with
    | none => failBack 0 .localeFlag
    | some flag =>
      let flags := flags.union flag
      if flags.ascii && flags.unicode && (flag.ascii || flag.unicode) then
        failBack 0 .alphabetFlagsClash
      match ← take with
      | none => failBack 0 .missingFlagEnd
      | some (.plain c) =>
        if c = ')' || c = '-' || c = ':' then return (flags, c)
        if isFlagLetter c then readAddedFlags fuel c flags
        else failBack 1 (if Text.isLetter c then .unknownFlag else .missingFlagEnd)
      | some (.escaped _) => failBack 2 .missingFlagEnd

/-- Flags that are turned off, starting with a letter, up to the colon. -/
def readDroppedFlags : Nat → Char → Flags → Reader Flags
  | 0, _, _ => throw (.malformed .unexpectedEnd none)
  | fuel + 1, letter, flags => do
    match flagOf? letter with
    | none => failBack 0 .alphabetFlagOff
    | some flag =>
      if flag.ascii || flag.unicode then failBack 0 .alphabetFlagOff
      let flags := flags.union flag
      match ← take with
      | none => failBack 0 .missingColon
      | some (.plain c) =>
        if c = ':' then return flags
        if isFlagLetter c then readDroppedFlags fuel c flags
        else failBack 1 (if Text.isLetter c then .unknownFlag else .missingColon)
      | some (.escaped _) => failBack 2 .missingColon

/-- The flags of a group, added and dropped, or none if they were for the whole pattern. -/
def readFlags (letter : Char) : Reader (Option (Flags × Flags)) := do
  let fuel := (← get).rest.length + 3
  let (added, closer) ← if letter = '-' then pure ({}, '-') else readAddedFlags fuel letter {}
  if closer = ')' then
    modify fun s => { s with flags := s.flags.union added }
    return none
  if added.template then failBack 1 .globalFlagOn
  let dropped ← do
    if closer = '-' then
      match ← take with
      | none => failBack 0 .missingFlag
      | some (.plain c) =>
        if isFlagLetter c then readDroppedFlags fuel c {}
        else failBack 1 (if Text.isLetter c then .unknownFlag else .missingFlag)
      | some (.escaped _) => failBack 2 .missingFlag
    else pure {}
  if dropped.template then failBack 1 .globalFlagOff
  if added.meets dropped then failBack 1 .flagOnAndOff
  return some (added, dropped)

/-! ### Sequences, groups and alternatives -/

def skipLineComment : Nat → Reader Unit
  | 0 => return ()
  | fuel + 1 => do
    match ← take with
    | none => return ()
    | some token => if token = .plain '\n' then return () else skipLineComment fuel

def skipGroupComment (start : Nat) : Nat → Reader Unit
  | 0 => return ()
  | fuel + 1 => do
    if (← get).next.isNone then failAt start .unterminatedComment
    if (← take) = some (.plain ')') then return () else skipGroupComment start fuel

def readCondition : Reader Nat := do
  let name ← takeName ')' "group name"
  let back := name.length + 1
  if isIdentifier name.toList then
    match (← get).names.lookup name with
    | some index => return index
    | none => failBack back (.unknownGroupName name)
  else
    match integerOf? name.toList with
    | some (.ofNat index) =>
      if index = 0 then failBack back .badGroupNumber
      if index ≥ 1073741823 then failBack back (.invalidGroupReference index)
      modify fun s =>
        if (s.conditions.lookup index).isSome then s
        else { s with conditions := s.conditions ++ [(index, s.position - back)] }
      return index
    | _ => failBack back (.badGroupName name)

inductive Opening where
  /-- Something complete that leaves no item, or one. -/
  | done (item : Option Node)
  /-- Flags for the whole pattern. -/
  | globalFlags
  | lookaround (behind negated : Bool)
  | condition (index : Nat)
  | atomic
  | group (captures : Bool) (name : Option String) (added dropped : Flags)

def readNamedBackref (flags : Flags) : Reader Node := do
  let name ← takeName ')' "group name"
  checkGroupName name
  match (← get).names.lookup name with
  | none => failBack (name.length + 1) (.unknownGroupName name)
  | some index => readBackref flags index (name.length + 1)

/-- Reads what stands behind the opening parenthesis at `start`. -/
def readOpening (flags : Flags) (start : Nat) : Reader Opening := do
  if !(← accept '?') then return .group true none {} {}
  match ← take with
  | none => failBack 0 .unexpectedEnd
  | some (.escaped c) => failBack 3 (.unknownExtension (escapeText c []))
  | some (.plain c) =>
    match c with
    | 'P' =>
      if ← accept '<' then
        let name ← takeName '>' "group name"
        checkGroupName name
        return .group true (some name) {} {}
      else if ← accept '=' then return .done (some (← readNamedBackref flags))
      else
        match ← take with
        | none => failBack 0 .unexpectedEnd
        | some token =>
          failBack (token.text.length + 2)
            (.unknownExtension ("P" ++ String.ofList token.text))
    | ':' => return .group false none {} {}
    | '#' =>
      skipGroupComment start ((← get).rest.length + 3)
      return .done none
    | '=' => return .lookaround false false
    | '!' => return .lookaround false true
    | '<' =>
      match ← take with
      | none => failBack 0 .unexpectedEnd
      | some (.plain '=') => return .lookaround true false
      | some (.plain '!') => return .lookaround true true
      | some token =>
        failBack (token.text.length + 2) (.unknownExtension ("<" ++ String.ofList token.text))
    | '(' => return .condition (← readCondition)
    | '>' => return .atomic
    | _ =>
      if isFlagLetter c || c = '-' then
        match ← readFlags c with
        | none => return .globalFlags
        | some (added, dropped) => return .group false none added dropped
      else failBack 2 (.unknownExtension (String.singleton c))

/-- Passes the parenthesis that closes what began at `start`. -/
def closeParenthesis (start : Nat) : Reader Unit := do
  if !(← accept ')') then failAt start .unterminatedSubpattern

/-! ### Alternatives of a common shape -/

/-- The members of a node that reads one character by its membership of a set. -/
def setMembers? : Node → Option (List Member)
  | .one (.single _ false code) => some [.single code]
  | .one (.set _ false members) => some members
  | _ => none

/-- The members of all alternatives, if each reads one character by its membership of a set. -/
def commonSet? : List (List Node) → Option (List Member)
  | [] => some []
  | [item] :: rest =>
    match setMembers? item, commonSet? rest with
    | some members, some others => some (members ++ others)
    | _, _ => none
  | _ :: _ => none

def isSameLeaf : Node → Node → Bool
  | .one first, .one second => first == second
  | .anchor first, .anchor second => first == second
  | .backref _ first, .backref _ second => first == second
  | _, _ => false

def allStartWith (leaf : Node) (branches : List (List Node)) : Bool :=
  branches.all fun items => items.head?.any (isSameLeaf leaf)

/-- Splits off the leaves that all alternatives start with; the first alternative bounds their
number. -/
def splitCommon (first : List Node) (others : List (List Node)) :
    List Node × List (List Node) :=
  match first with
  | [] => ([], [] :: others)
  | leaf :: rest =>
    if isSameLeaf leaf leaf && allStartWith leaf others then
      let (common, branches) := splitCommon rest (others.map List.tail)
      (leaf :: common, branches)
    else ([], (leaf :: rest) :: others)

/-- Alternatives as one sequence: the leaves that all of them start with come first; if what remains
of each is a set, they are one set. -/
def alternatives (flags : Flags) : List (List Node) → Node
  | [] => .empty
  | [items] => Node.ofList items
  | first :: others =>
    let (common, branches) := splitCommon first others
    let choice :=
      match commonSet? branches with
      | some members => .one (.set flags.caseRule false (withoutRepeats members))
      | none => Node.choice (branches.map Node.ofList)
    Node.ofList (common ++ [choice])

/-- The items of a sequence, where a group without capture and flags counts as its parts. -/
def unpacked (items : List Node) : List Node :=
  items.flatMap fun item =>
    match item with
    | .scope body => body.toList
    | other => [other]

mutual

/-- Alternatives up to a closing parenthesis or the end. At the top the flags and the treatment of
blanks are those of the whole pattern. -/
def readAlternatives (fuel : Nat) (top : Bool) (flags : Flags) (branches : List (List Node)) :
    Reader Node := do
  match fuel with
  | 0 => throw (.malformed .unexpectedEnd none)
  | fuel + 1 =>
    let before ← get
    let own := if top then before.flags else flags
    let items ← readSequence fuel top (top && branches.isEmpty) own []
    let branches := branches ++ [items]
    if ← accept '|' then readAlternatives fuel top flags branches
    else
      let after ← get
      return alternatives (if top then after.flags else flags) branches

/-- The items of a sequence, up to a bar, a closing parenthesis or the end. `first` says that flags
for the whole pattern may still come. -/
def readSequence (fuel : Nat) (top first : Bool) (flags : Flags) (items : List Node) :
    Reader (List Node) := do
  match fuel with
  | 0 => throw (.malformed .unexpectedEnd none)
  | fuel + 1 =>
    match (← get).next with
    | none => return unpacked items
    | some (.escaped c) =>
      advance
      readSequence fuel top first flags (items ++ [← readEscape flags c])
    | some (.plain c) =>
      if c = '|' || c = ')' then return unpacked items
      let start := (← get).position
      advance
      if flags.verbose && (c = ' ' || ('\t' ≤ c && c ≤ '\r')) then
        readSequence fuel top first flags items
      else if flags.verbose && c = '#' then
        skipLineComment ((← get).rest.length + 3)
        readSequence fuel top first flags items
      else
        match c with
        | '[' => readSequence fuel top first flags (items ++ [← readSet flags])
        | '*' => readSequence fuel top first flags (← readRepeat start 0 none items)
        | '+' => readSequence fuel top first flags (← readRepeat start 1 none items)
        | '?' => readSequence fuel top first flags (← readRepeat start 0 (some 1) items)
        | '{' =>
          match ← readBounds with
          | none =>
            readSequence fuel top first flags
              (items ++ [.one (.single flags.caseRule false c.toNat)])
          | some (least, most) =>
            readSequence fuel top first flags (← readRepeat start least most items)
        | '.' => readSequence fuel top first flags (items ++ [.one (.any flags.dotAll)])
        | '^' =>
          readSequence fuel top first flags
            (items ++ [.anchor (if flags.multiline then .lineStart else .start)])
        | '$' =>
          readSequence fuel top first flags
            (items ++ [.anchor (if flags.multiline then .lineFinish else .finish)])
        | '(' =>
          match ← readOpening flags start with
          | .done none => readSequence fuel top first flags items
          | .done (some item) => readSequence fuel top first flags (items ++ [item])
          | .globalFlags =>
            if !first || !items.isEmpty then failAt start .flagsNotAtStart
            readSequence fuel top first (← get).flags items
          | .lookaround behind negated =>
            let outer := (← get).lookbehind
            if behind && outer.isNone then
              modify fun s => { s with lookbehind := some s.nextGroup }
            let body ← readAlternatives fuel false flags []
            if behind then modify fun s => { s with lookbehind := outer }
            closeParenthesis start
            let width := body.width (← get).groupWidth
            let item :=
              if behind then Node.lookbehind width.1 width.2 negated body
              else .lookahead negated body
            readSequence fuel top first flags (items ++ [item])
          | .condition index =>
            checkLookbehind index
            let yes ← readSequence fuel false false flags []
            let no ← do
              if ← accept '|' then
                let no ← readSequence fuel false false flags []
                if (← get).next = some (.plain '|') then failBack 0 .tooManyBranches
                pure no
              else pure []
            closeParenthesis start
            readSequence fuel top first flags
              (items ++ [.conditional index (Node.ofList yes) (Node.ofList no)])
          | .atomic =>
            let body ← readAlternatives fuel false flags []
            closeParenthesis start
            readSequence fuel top first flags (items ++ [.atomic body])
          | .group captures name added dropped =>
            let inner := flags.enter added dropped
            if captures then
              let index ← openGroup name
              let body ← readAlternatives fuel false inner []
              closeParenthesis start
              closeGroup index body
              readSequence fuel top first flags (items ++ [.capture index body])
            else
              let body ← readAlternatives fuel false inner []
              closeParenthesis start
              let plain := added.isEmpty && dropped.isEmpty
              readSequence fuel top first flags
                (items ++ [if plain then .scope body else .flagged body])
        | _ =>
          readSequence fuel top first flags
            (items ++ [.one (.single flags.caseRule false c.toNat)])

end

/-! ### Problems of the whole tree -/

def RepeatMode.operatorName : RepeatMode → String
  | .greedy => "MAX_REPEAT"
  | .lazy => "MIN_REPEAT"
  | .possessive _ => "POSSESSIVE_REPEAT"

/-- The first problem of a tree in the order of the pattern: a look-behind of no fixed width, or a
repetition in a pattern that forbids them. -/
def Node.problem? (template : Bool) : Node → Option Problem
  | .empty | .one _ | .anchor _ | .backref _ _ => none
  | .seq first second => (first.problem? template).or (second.problem? template)
  | .alt first second => (first.problem? template).or (second.problem? template)
  | .rep mode _ _ body =>
    if template then some (.templateRepeat mode.operatorName) else body.problem? template
  | .scope body => body.problem? template
  | .flagged body => body.problem? template
  | .capture _ body => body.problem? template
  | .atomic body => body.problem? template
  | .conditional _ yes no => (yes.problem? template).or (no.problem? template)
  | .lookahead _ body => body.problem? template
  | .lookbehind least most _ body =>
    if least > 4294967295 then some .looksTooFarBehind
    else if least != most then some .lookbehindWidth
    else body.problem? template

def readPattern (length : Nat) : Reader Compiled := do
  advance
  let root ← readAlternatives (4 * length + 8) true {} []
  let s ← get
  if s.flags.ascii && s.flags.unicode then throw .alphabetsClash
  if s.next.isSome then failBack 0 .unbalancedParenthesis
  match s.conditions.find? fun condition => condition.1 ≥ s.nextGroup with
  | some (index, position) => failAt position (.invalidGroupReference index)
  | none =>
    match root.problem? s.flags.template with
    | some problem => throw (.malformed problem none)
    | none =>
      return {
        root
        least := min (root.width s.groupWidth).1 repeatLimit
        ascii := s.flags.ascii
        groupCount := s.widths.length
        groupNames := s.names }

/-- The pattern as a tree, under the flags given from outside. Groups may stand in each other to any
depth. -/
def compile (pattern : String) (flags : Flags) (dialect : Dialect := .standard) :
    Except Failure Compiled :=
  let start : ReadState :=
    { dialect, next := none, index := 0, rest := pattern.toList, flags := flags, widths := [],
      names := [], lookbehind := none, conditions := [] }
  (readPattern pattern.length).run' start

end PromptChain.Regex
