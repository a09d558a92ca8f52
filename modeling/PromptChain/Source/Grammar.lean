/-
**The grammar of a source.**

A source is a sequence of units: a name, metadata entries, and `{ match $SUBJECT { … } }` around at
least one arm. `State` says how much of a unit has been read, `State.expected` which words may come
next, and `State.accept` what a word does. `readUnits` runs the grammar over a whole text, and gives
the units as they are written or the first fault.
-/

import PromptChain.Source.Token

namespace PromptChain.Source

/-- The right side of an arm as it is written. -/
inductive RawAction where
  | shell (command : Token)
  | call (targets : List Token)
  | pipe (command : Token) (targets : List Token)
deriving DecidableEq

structure RawArm where
  pattern : Token
  action : RawAction
deriving DecidableEq

/-- A name with its metadata entries. -/
structure Header where
  name : Token
  entries : List Token
deriving DecidableEq

structure RawUnit where
  header : Header
  subject : Token
  arms : List RawArm
deriving DecidableEq

/-- How much of a source has been read since the last complete unit. -/
inductive State where
  /-- Between units. -/
  | start
  | named (name : Token)
  | described (header : Header)
  /-- Behind the first brace. -/
  | opened (header : Header)
  /-- Behind the keyword. -/
  | matching (header : Header)
  | subject (header : Header) (subject : Token)
  /-- Behind the second brace, before the first arm. -/
  | block (unit : RawUnit)
  | patterned (unit : RawUnit) (pattern : Token)
  | arrowed (unit : RawUnit) (pattern : Token)
  /-- Behind a command, which may end the arm or lead on to a call. -/
  | commanded (unit : RawUnit) (pattern command : Token)
  /-- Where the name of a unit to call must stand. -/
  | calling (unit : RawUnit) (pattern : Token) (command : Option Token) (targets : List Token)
  | called (unit : RawUnit) (pattern : Token) (command : Option Token) (targets : List Token)
  /-- Behind the brace that ends the arms. -/
  | closing (unit : RawUnit)
deriving DecidableEq

def patternKinds : List Terminal := [.string, .parenRegex, .slashRegex]

def State.expected : State → List Terminal
  | .start => [.name]
  | .named _ => [.entry]
  | .described _ => [.entry, .openBrace]
  | .opened _ => [.matchWord]
  | .matching _ => [.subject]
  | .subject _ _ => [.openBrace]
  | .block _ => patternKinds
  | .patterned _ _ => [.arrow]
  | .arrowed _ _ => [.shell, .name]
  | .commanded _ _ _ => .arrow :: .closeBrace :: patternKinds
  | .calling _ _ _ _ => [.name]
  | .called _ _ _ _ => .comma :: .closeBrace :: patternKinds
  | .closing _ => [.closeBrace]

def RawUnit.addArm (unit : RawUnit) (pattern : Token) (action : RawAction) : RawUnit :=
  { unit with arms := unit.arms ++ [⟨pattern, action⟩] }

def callAction (command : Option Token) (targets : List Token) : RawAction :=
  match command with
  | some command => .pipe command targets
  | none => .call targets

/-- What follows a complete arm: the end of the block or the pattern of the next arm. -/
def afterArm (unit : RawUnit) (token : Token) : State :=
  if token.kind = .closeBrace then .closing unit else .patterned unit token

/-- What a step of the grammar leaves: a state, or a complete unit. -/
inductive Step where
  | go (state : State)
  | complete (unit : RawUnit)

/-- What an expected word does. -/
def State.accept (state : State) (token : Token) : Step :=
  match state with
  | .start => .go (.named token)
  | .named name => .go (.described ⟨name, [token]⟩)
  | .described header =>
    if token.kind = .openBrace then .go (.opened header)
    else .go (.described { header with entries := header.entries ++ [token] })
  | .opened header => .go (.matching header)
  | .matching header => .go (.subject header token)
  | .subject header word => .go (.block ⟨header, word, []⟩)
  | .block unit => .go (.patterned unit token)
  | .patterned unit pattern => .go (.arrowed unit pattern)
  | .arrowed unit pattern =>
    if token.kind = .shell then .go (.commanded unit pattern token)
    else .go (.called unit pattern none [token])
  | .commanded unit pattern command =>
    if token.kind = .arrow then .go (.calling unit pattern (some command) [])
    else .go (afterArm (unit.addArm pattern (.shell command)) token)
  | .calling unit pattern command targets =>
    .go (.called unit pattern command (targets ++ [token]))
  | .called unit pattern command targets =>
    if token.kind = .comma then .go (.calling unit pattern command targets)
    else .go (afterArm (unit.addArm pattern (callAction command targets)) token)
  | .closing unit => .complete unit

/-! ### Faults -/

inductive Problem where
  | unterminatedCommand
  | unterminatedString
  | unterminatedRegex
  | expectedEntry
  | unexpectedCharacter (c : Char)
  | missingMatch
  | missingAction
  | unexpectedEnd
  | missingMetadata
  | unexpectedToken (text : List Char)
deriving DecidableEq

def Problem.message : Problem → String
  | .unterminatedCommand => "Unterminated shell command (missing closing '`')"
  | .unterminatedString => "Unterminated string literal"
  | .unterminatedRegex =>
    "Unterminated regular expression (a pattern must be closed and followed by '=>')"
  | .expectedEntry => "Expected a metadata line ('key: value') after the unit name"
  | .unexpectedCharacter c => "Unexpected character " ++ Text.quoted (String.singleton c)
  | .missingMatch => "Missing 'match' keyword after '\x7b'"
  | .missingAction =>
    "Match arm has no action (expected a `command` or a unit name after '=>')"
  | .unexpectedEnd => "Unexpected end of input (unclosed match block?)"
  | .missingMetadata => "Unit has no metadata block"
  | .unexpectedToken text => "Unexpected token " ++ Text.quoted (String.ofList text)

/-- A character that no word starts with, where some kinds are expected. -/
def problemOfChar (expected : List Terminal) (c : Char) : Problem :=
  if c = '\x60' && expected.contains .shell then .unterminatedCommand
  else if c = '"' && expected.contains .string then .unterminatedString
  else if (c = '(' || c = '/') && (expected.contains .parenRegex || expected.contains .slashRegex)
  then .unterminatedRegex
  else if expected.contains .entry then .expectedEntry
  else .unexpectedCharacter c

/-- The end of the text, or a word of another kind, where some kinds are expected. -/
def problemOfToken (expected : List Terminal) (token : Option Token) : Problem :=
  let kind := token.map Token.kind
  if expected.contains .matchWord then .missingMatch
  else if expected.contains .shell && expected.contains .name && kind != some .name then
    .missingAction
  else
    match token with
    | none => .unexpectedEnd
    | some token =>
      if token.kind = .openBrace && expected.contains .entry then .missingMetadata
      else .unexpectedToken token.text

structure Malformed where
  problem : Problem
  place : Place
deriving DecidableEq

/-- The fault of a text that cannot go on at a cursor. -/
def malformedAt (expected : List Terminal) (cursor : Cursor) : Malformed :=
  match anyToken? cursor with
  | some token => ⟨problemOfToken expected token, cursor.place⟩
  | none =>
    match cursor.rest with
    | c :: _ => ⟨problemOfChar expected c, cursor.place⟩
    | [] => ⟨.unexpectedEnd, cursor.place⟩

/-! ### Running the grammar -/

theorem nextToken_length {allowed : List Terminal} {cursor next : Cursor} {token : Token}
    (found : nextToken allowed cursor = .token token next) :
    next.rest.length < cursor.rest.length := by
  fun_induction nextToken allowed cursor with
  | case1 => simp at found
  | case2 => simp at found
  | case3 cursor _ kind word rest taken after _ ih =>
    have shorter : after.rest.length < cursor.rest.length := firstWord?_length taken
    exact Nat.lt_trans (ih found) shorter
  | case4 cursor _ kind word rest taken after _ =>
    simp only [Scan.token.injEq] at found
    rw [← found.2]
    exact firstWord?_length taken

/-- Reads units from a cursor on: `last` is the place of the last word, `units` are the complete
units before. -/
def runGrammar (state : State) (last : Place) (units : List RawUnit) (cursor : Cursor) :
    Except Malformed (List RawUnit) :=
  match _found : nextToken state.expected cursor with
  | .stuck stuck => .error (malformedAt state.expected stuck)
  | .finish =>
    if state = .start then .ok units
    else .error ⟨problemOfToken state.expected none, last⟩
  | .token token next =>
    match state.accept token with
    | .go state => runGrammar state token.place units next
    | .complete unit => runGrammar .start token.place (units ++ [unit]) next
termination_by cursor.rest.length
decreasing_by
  · exact nextToken_length _found
  · exact nextToken_length _found

/-- The units of a text as they are written, or the first fault. -/
def readUnits (text : List Char) : Except Malformed (List RawUnit) :=
  runGrammar .start Place.first [] { rest := text, place := Place.first }

end PromptChain.Source
