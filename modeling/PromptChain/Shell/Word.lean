/-
**Reading words.**

A word ends at a blank or at an operator. Quotes keep characters from having a meaning of their own;
between double quotes a dollar sign and a backtick keep theirs.
-/

import PromptChain.Shell.Syntax

namespace PromptChain.Shell

/-- How far a text is read, and what its quotes mean. -/
inductive Mode where
  /-- Up to the end of a word. -/
  | word
  /-- The whole text, with its quotes. -/
  | whole
  /-- The whole text, as if between double quotes. -/
  | quoted
  /-- The whole text of braces between double quotes. -/
  | braced
  /-- The whole text of a here-document. -/
  | here
deriving DecidableEq

/-- Does a character end a word? -/
def endsWord (c : Char) : Bool := " \t\n;&|<>()".toList.contains c

/-- Can it start a name? -/
def startsName (c : Char) : Bool := c.isAlpha || c == '_'

/-- Can it stand in a name? -/
def isNameChar (c : Char) : Bool := c.isAlphanum || c == '_'

/-- Is it a name? -/
def isName (text : Raw) : Bool := text.head?.any startsName && text.all isNameChar

/-! ### Finding ends -/

/-- What a text stands in, as far as its end is concerned. -/
inductive Scope where
  /-- Up to a round bracket. The flag says whether a command can start here; the number counts the lists of
  patterns around, in which a bracket closes nothing. -/
  | script (starts : Bool) (lists : Nat)
  /-- Up to the two round brackets of an expression; the number counts open ones. -/
  | sum (depth : Nat)
  /-- Up to a double quote. -/
  | double
  /-- Up to a brace; quotes count. -/
  | braces
  /-- Up to a brace between double quotes, where single quotes mean nothing. -/
  | quotedBraces
deriving DecidableEq

/-- The text up to a closing backtick, and what follows. A backslash in front of a hidden character goes. -/
def takeBackquoted (hidden : Raw) : Raw → Option (Raw × Raw)
  | [] => none
  | ['\\'] => none
  | '\\' :: d :: rest =>
    let own := if hidden.contains d then [d] else ['\\', d]
    (takeBackquoted hidden rest).map fun found => (own ++ found.1, found.2)
  | c :: rest =>
    if c = '\x60' then some ([], rest)
    else (takeBackquoted hidden rest).map fun found => (c :: found.1, found.2)

/-- Can a command follow this word? -/
def leadsCommand (word : Raw) : Bool :=
  ["do", "then", "else", "elif", "if", "while", "until", "!", "\x7b"].any (·.toList == word)

/-- Whether the braces at whose content a text starts drop a pattern. -/
def dropsPattern (content : Raw) : Bool :=
  let after := match content with
    | c :: rest => if isNameChar c then (c :: rest).dropWhile isNameChar else rest
    | [] => []
  after.head? == some '#' || after.head? == some '%'

/-- The text up to the end of what it stands in, and what follows, with fuel for its characters. Inner
brackets, braces and quotes are passed over. -/
def takeScope : Nat → Scope → Raw → Option (Raw × Raw)
  | 0, _, _ => none
  | fuel + 1, scope, text =>
    let go (scope : Scope) (taken rest : Raw) : Option (Raw × Raw) :=
      (takeScope fuel scope rest).map fun found => (taken ++ found.1, found.2)
    let nested (scope inner : Scope) (start rest finish : Raw) : Option (Raw × Raw) :=
      match takeScope fuel inner rest with
      | none => none
      | some (content, after) => go scope (start ++ content ++ finish) after
    let later : Scope := match scope with
      | .script _ lists => .script false lists
      | other => other
    let quotes := scope != .double && scope != .quotedBraces
    match text with
    | [] => none
    | ['\\'] => none
    | '\\' :: c :: rest => go later ['\\', c] rest
    | '$' :: '(' :: '(' :: rest => nested later (.sum 0) "$((" rest "))"
    | '$' :: '(' :: rest => nested later (.script true 0) "$(" rest [')']
    | '$' :: '{' :: rest =>
      let quoted := (scope == .double || scope == .quotedBraces) && !dropsPattern rest
      nested later (if quoted then .quotedBraces else .braces) "$\x7b" rest ['\x7d']
    | '\x60' :: rest =>
      match takeBackquoted [] rest with
      | none => none
      | some (content, after) => go later ('\x60' :: content ++ ['\x60']) after
    | '\'' :: rest =>
      if quotes then
        let inner := rest.takeWhile (· != '\'')
        if inner.length = rest.length then none
        else go later ('\'' :: inner ++ ['\'']) (rest.drop (inner.length + 1))
      else go later ['\''] rest
    | '"' :: rest =>
      if scope == .double then some ([], rest) else nested later .double ['"'] rest ['"']
    | c :: rest =>
      match scope with
      | .double => go .double [c] rest
      | .braces | .quotedBraces => if c = '\x7d' then some ([], rest) else go scope [c] rest
      | .sum depth =>
        if c = '(' then go (.sum (depth + 1)) [c] rest
        else if c = ')' then
          match depth with
          | 0 => if rest.head? == some ')' then some ([], rest.drop 1) else none
          | depth + 1 => go (.sum depth) [c] rest
        else go scope [c] rest
      | .script starts lists =>
        if c = ')' then
          if lists = 0 then some ([], rest) else go (.script true lists) [c] rest
        else if c = '(' then nested (.script false lists) (.script true 0) ['('] rest [')']
        else if ";&|\n".toList.contains c then go (.script true lists) [c] rest
        else if c = ' ' || c = '\t' then
          match rest with
          | '#' :: _ =>
            let comment := rest.takeWhile (· != '\n')
            go scope (c :: comment) (rest.drop comment.length)
          | _ => go scope [c] rest
        else
          let word := text.takeWhile isNameChar
          let after := text.drop word.length
          if word.isEmpty then go (.script (c = '\x7b' || c = '!') lists) [c] rest
          else
            let lists := if starts && word == "case" then lists + 1
              else if starts && word == "esac" then lists - 1 else lists
            go (.script (starts && leadsCommand word) lists) word after

/-- The text up to the end of what it stands in, and what follows. -/
def takeInner (scope : Scope) (text : Raw) : Option (Raw × Raw) := takeScope (text.length + 1) scope text

/-! ### Parts -/

/-- Puts a character in front of a word. -/
def addChar (c : Char) (quoted : Bool) : Word → Word
  | .text content other :: rest =>
    if other = quoted then .text (c :: content) quoted :: rest
    else .text [c] quoted :: .text content other :: rest
  | rest => .text [c] quoted :: rest

/-- The operation and the word of what follows a name in braces. -/
def readOperation : Raw → Operation × Raw
  | [] => (.value, [])
  | ':' :: '-' :: word => (.otherwise true, word)
  | ':' :: '=' :: word => (.assign true, word)
  | ':' :: '?' :: word => (.demand true, word)
  | ':' :: '+' :: word => (.instead true, word)
  | '-' :: word => (.otherwise false, word)
  | '=' :: word => (.assign false, word)
  | '?' :: word => (.demand false, word)
  | '+' :: word => (.instead false, word)
  | '#' :: '#' :: word => (.dropStart true, word)
  | '#' :: word => (.dropStart false, word)
  | '%' :: '%' :: word => (.dropEnd true, word)
  | '%' :: word => (.dropEnd false, word)
  | _ => (.bad, [])

/-- Is it a special parameter? -/
def isSpecialName (c : Char) : Bool := "?$#@*!-".toList.contains c

/-- The name at the start of a text: letters, digits, or one special character. -/
def takeName : Raw → Raw × Raw
  | [] => ([], [])
  | c :: rest =>
    if startsName c then ((c :: rest).takeWhile isNameChar, (c :: rest).dropWhile isNameChar)
    else if c.isDigit then ((c :: rest).takeWhile Char.isDigit, (c :: rest).dropWhile Char.isDigit)
    else if isSpecialName c then ([c], rest)
    else ([], c :: rest)

/-- What braces with a content stand for. -/
def readBraces (content : Raw) (quoted : Bool) : Part :=
  match content with
  | '#' :: c :: rest =>
    let (name, after) := takeName (c :: rest)
    if !name.isEmpty && after.isEmpty then .parameter name .length [] quoted
    else .parameter ['#'] (readOperation (c :: rest)).1 (readOperation (c :: rest)).2 quoted
  | _ =>
    let (name, after) := takeName content
    let (operation, word) := readOperation after
    .parameter name (if name.isEmpty then .bad else operation) word quoted

/-- The complaint about a quote that does not end. -/
def unterminatedQuote : String := "Syntax error: Unterminated quoted string"

/-- What a dollar sign starts, and what follows. -/
def readDollar (quoted : Bool) (text : Raw) : Except String (Part × Raw) :=
  match text with
  | '(' :: '(' :: rest =>
    match takeInner (.sum 0) rest with
    | some (source, after) => .ok (.arithmetic source quoted, after)
    | none => .error "Syntax error: Missing '))'"
  | '(' :: rest =>
    match takeInner (.script true 0) rest with
    | some (source, after) => .ok (.output source quoted, after)
    | none => .error "Syntax error: end of file unexpected (expecting \")\")"
  | '{' :: rest =>
    match takeInner (if quoted && !dropsPattern rest then .quotedBraces else .braces) rest with
    | some (content, after) => .ok (readBraces content quoted, after)
    | none => .error (if quoted then unterminatedQuote else "Syntax error: Missing '\x7d'")
  | c :: _ =>
    let name := if c.isDigit then [c] else (takeName text).1
    if name.isEmpty then .ok (.text ['$'] quoted, text)
    else .ok (.parameter name .value [] quoted, text.drop name.length)
  | [] => .ok (.text ['$'] quoted, [])

/-- Reads the parts of a text, with fuel for its characters; gives what follows. -/
def readParts : Nat → Mode → Raw → Except String (Word × Raw)
  | 0, _, rest => .ok ([], rest)
  | _ + 1, _, [] => .ok ([], [])
  | fuel + 1, mode, c :: rest =>
    let quoted := mode == .quoted || mode == .braced || mode == .here
    let before (part : Part) (rest : Raw) : Except String (Word × Raw) := do
      let (word, rest) ← readParts fuel mode rest
      pure (part :: word, rest)
    let literal (c : Char) (quoted : Bool) (rest : Raw) : Except String (Word × Raw) := do
      let (word, rest) ← readParts fuel mode rest
      pure (addChar c quoted word, rest)
    if mode == .word && endsWord c then .ok ([], c :: rest)
    else if c = '\\' then
      match rest with
      | '\n' :: rest => readParts fuel mode rest
      | d :: rest =>
        if !quoted || d == '$' || d == '\x60' || d == '\\' || (d == '"' && mode != .here)
            || (d == '\x7d' && mode == .braced) then literal d true rest
        else literal '\\' true (d :: rest)
      | [] => literal '\\' true []
    else if c = '\'' && !quoted then
      let inner := rest.takeWhile (· != '\'')
      match rest.drop inner.length with
      | [] => .error unterminatedQuote
      | _ :: rest => before (.text inner true) rest
    else if c = '"' && mode == .braced then readParts fuel mode rest
    else if c = '"' && !quoted then
      match takeInner .double rest with
      | none => .error unterminatedQuote
      | some (content, rest) => do
        let (inner, _) ← readParts fuel .quoted content
        let (word, rest) ← readParts fuel mode rest
        pure ((if inner.isEmpty then [.text [] true] else inner) ++ word, rest)
    else if c = '$' then
      match readDollar quoted rest with
      | .error problem => .error problem
      | .ok (part, rest) => before part rest
    else if c = '\x60' then
      match takeBackquoted ('\x60' :: '\\' :: '$' :: if quoted then ['"'] else []) rest with
      | none => .error "Syntax error: EOF in backquote substitution"
      | some (source, rest) => before (.output source quoted) rest
    else literal c quoted rest

/-- The word that a whole text makes. -/
def readWhole (mode : Mode) (text : Raw) : Except String Word :=
  (readParts (2 * text.length + 1) mode text).map Prod.fst

/-- The text of a word without quotes and expansions. -/
def plainText? : Word → Option Raw
  | [.text content false] => some content
  | _ => none

/-- A name and a value with an equals sign between them. -/
def splitAssign? : Word → Option (Raw × Word)
  | .text content false :: rest =>
    let name := content.takeWhile (· != '=')
    match content.drop name.length with
    | '=' :: value =>
      if isName name then some (name, if value.isEmpty then rest else .text value false :: rest)
      else none
    | _ => none
  | _ => none

end PromptChain.Shell
