/-
**From words to units.**

`parseUnits` reads a source and builds its units. A fault of the grammar anywhere in the text wins;
otherwise units are built in order, in each the regular expressions first and the metadata entries
after them, and the first fault is reported (`BuildProblem`).
-/

import PromptChain.Fault
import PromptChain.Source.Grammar
import PromptChain.Text.Dedent

namespace PromptChain.Source

open Text

/-! ### Values of words -/

/-- What an escape in a string literal stands for. -/
def literalEscape : Char → Char
  | 'n' => '\n'
  | 't' => '\t'
  | 'r' => '\r'
  | c => c

/-- The text that the body of a string literal stands for. -/
def unescapeLiteral : List Char → List Char
  | '\\' :: c :: rest => literalEscape c :: unescapeLiteral rest
  | c :: rest => c :: unescapeLiteral rest
  | [] => []

def literalPattern (word : List Char) : Pattern :=
  let ignoreCase := word.getLast? == some 'i'
  let body := (word.drop 1).take (word.length - (if ignoreCase then 3 else 2))
  .literal (String.ofList (unescapeLiteral body)) ignoreCase

/-- The source and the flags of a regular expression between slashes. -/
def slashParts (word : List Char) : String × String :=
  let flags := (word.reverse.takeWhile (· != '/')).reverse
  (String.ofList ((word.drop 1).take (word.length - 2 - flags.length)), String.ofList flags)

def entryKey (word : List Char) : String :=
  String.ofList (trim (word.takeWhile (· != ':')))

def stripNewlines (text : List Char) : List Char :=
  dropEndWhile (· == '\n') (text.dropWhile (· == '\n'))

/-- A single line between double quotes stands for what is between them. -/
def unquote (text : List Char) : List Char :=
  if !text.contains '\n' && isQuotedText text then (text.drop 1).dropLast else text

/-- The text of a value: what stands on the line of the key, and the lines below without their
common indentation. A bar or an angle bracket on the line of the key announces a block. -/
def entryText (value : List Char) : List Char :=
  let head := trim (value.takeWhile (· != '\n'))
  let tail := (value.dropWhile (· != '\n')).drop 1
  let first := if head.isEmpty || head == ['|'] || head == ['>'] then [] else [head]
  let below := if tail.isEmpty then [] else lines (dedent tail)
  unquote (stripNewlines (unlines ((first ++ below).map trimEnd)))

def entryOf (token : Token) : MetaEntry where
  key := entryKey token.text
  text := String.ofList (entryText ((token.text.dropWhile (· != ':')).drop 1))
  line := token.place.line
  column := token.place.column

/-! ### Faults -/

/-- What can be wrong with a unit whose words are in order. -/
inductive BuildProblem where
  | unknownKey (key unit : String)
  | repeatedKey (key unit : String)
  | unterminatedShell (key unit : String)
  | invalidRegex (source : String) (failure : Regex.Failure)

def BuildProblem.message : BuildProblem → String
  | .unknownKey key unit =>
    "Unknown metadata key '" ++ key ++ "' in unit '" ++ unit ++ "' (expected one of: "
      ++ String.intercalate ", " metadataKeys ++ ")"
  | .repeatedKey key unit => "Metadata key '" ++ key ++ "' repeated in unit '" ++ unit ++ "'"
  | .unterminatedShell key unit =>
    Template.unterminated ++ " in '" ++ key ++ "' of unit '" ++ unit ++ "'"
  | .invalidRegex source failure =>
    "Invalid regular expression " ++ quoted source ++ ": " ++ failure.message source

inductive ReadError where
  /-- The source is at fault, at a place. -/
  | fault (fault : Fault)
  /-- A regular expression exceeds a limit of the notation. -/
  | beyondLimit (delimiter : Delimiter) (failure : Regex.Failure)

/-- The kind of word that holds a regular expression, as it is named in messages. -/
def ruleName : Delimiter → String
  | .slash => "regex_slash"
  | .paren => "regex_paren"

/-- The wording of a regular expression that exceeds a limit. -/
def limitMessage (delimiter : Delimiter) (failure : Regex.Failure) : String :=
  "Error trying to process rule \"" ++ ruleName delimiter ++ "\":\n\n" ++ failure.message ""

def Place.location (place : Place) (origin : Option String) : Location where
  line := some place.line
  column := some place.column
  source := origin

def faultAt (origin : Option String) (place : Place) (message : String) : ReadError :=
  .fault (.source .malformed message (place.location origin))

/-! ### Building -/

/-- The pattern of a regular expression, if it can be used. -/
def buildRegex (origin : Option String) (place : Place) (source flags : String)
    (delimiter : Delimiter) : Except ReadError Pattern :=
  match compileRegex source flags with
  | .ok _ => .ok (.regex source flags delimiter)
  | .error (.unknownFlag _) => .ok (.regex source flags delimiter)
  | .error (.regex (.malformed problem position)) =>
    .error (faultAt origin place
      (BuildProblem.invalidRegex source (.malformed problem position)).message)
  | .error (.regex failure) => .error (.beyondLimit delimiter failure)

def buildPattern (origin : Option String) (token : Token) : Except ReadError Pattern :=
  match token.kind with
  | .slashRegex =>
    let (source, flags) := slashParts token.text
    buildRegex origin token.place source flags .slash
  | .parenRegex => buildRegex origin token.place (String.ofList token.text) "" .paren
  | _ => .ok (literalPattern token.text)

def Token.string (token : Token) : String := String.ofList token.text

def commandOf (token : Token) : String := String.ofList (token.text.drop 1).dropLast

def buildAction : RawAction → Action
  | .shell command => .shell (commandOf command)
  | .call targets => .call (targets.map Token.string)
  | .pipe command targets => .pipe (commandOf command) (targets.map Token.string)

def buildArms (origin : Option String) : List RawArm → Except ReadError (List Arm)
  | [] => .ok []
  | arm :: arms =>
    match buildPattern origin arm.pattern with
    | .error error => .error error
    | .ok pattern =>
      match buildArms origin arms with
      | .error error => .error error
      | .ok rest =>
        .ok ({ pattern, action := buildAction arm.action, line := arm.pattern.place.line } :: rest)

/-- The metadata entries of words, added to those before. -/
def buildEntries (origin : Option String) (unit : String) (before : List MetaEntry) :
    List Token → Except ReadError (List MetaEntry)
  | [] => .ok before
  | token :: tokens =>
    let entry := entryOf token
    let refuse (problem : BuildProblem) : Except ReadError (List MetaEntry) :=
      .error (faultAt origin token.place problem.message)
    if !metadataKeys.contains entry.key then refuse (.unknownKey entry.key unit)
    else if before.any fun other => other.key == entry.key then refuse (.repeatedKey entry.key unit)
    else if (Template.parse? entry.text).isNone then refuse (.unterminatedShell entry.key unit)
    else buildEntries origin unit (before ++ [entry]) tokens

def buildUnit (origin : Option String) (unit : RawUnit) : Except ReadError PromptUnit :=
  match buildArms origin unit.arms with
  | .error error => .error error
  | .ok arms =>
    let name := unit.header.name
    match buildEntries origin name.string [] unit.header.entries with
    | .error error => .error error
    | .ok entries =>
      .ok {
        name := name.string
        entries
        subject := String.ofList (unit.subject.text.drop 1)
        arms
        line := name.place.line
        column := name.place.column
        source := origin }

def buildUnits (origin : Option String) : List RawUnit → Except ReadError (List PromptUnit)
  | [] => .ok []
  | unit :: units =>
    match buildUnit origin unit with
    | .error error => .error error
    | .ok first =>
      match buildUnits origin units with
      | .error error => .error error
      | .ok rest => .ok (first :: rest)

/-- Line ends of two characters count as newlines. -/
def normalizeNewlines (text : List Char) : List Char := replacePair '\r' '\n' '\n' text

/-- The units of a source text. An empty origin counts as none. -/
def parseUnits (origin : Option String) (text : String) : Except ReadError (List PromptUnit) :=
  let origin := origin.filter (· != "")
  match readUnits (normalizeNewlines text.toList) with
  | .error malformed => .error (faultAt origin malformed.place malformed.problem.message)
  | .ok units => buildUnits origin units

end PromptChain.Source
