/-
**Reading scripts.**

A script is read line by line: a command that spans no more than it has to, up to the end of its line
(`readNext`). What stands for an alias is put in its place on the way. A problem ends the script where it
stands; the lines before it are commands all the same.
-/

import PromptChain.Shell.Token

namespace PromptChain.Shell

/-! ### Tokens in messages -/

/-- The words that have a meaning where a command can start. -/
def reservedWords : List String :=
  ["!", "case", "do", "done", "elif", "else", "esac", "fi", "for", "if", "in", "then", "until", "while",
    "\x7b", "\x7d"]

/-- The reserved word that a token is. -/
def reserved? : Token → Option String
  | .word word => (plainText? word).bind fun text => reservedWords.find? (·.toList == text)
  | _ => none

/-- A token as messages name it. -/
def Token.shown (token : Token) : String :=
  match token with
  | .word _ => (reserved? token).elim "word" fun word => "\"" ++ word ++ "\""
  | .descriptor _ | .hereDocument _ _ => "redirection"
  | .operator text =>
    if text.toList.any (fun c => c == '<' || c == '>') then "redirection" else "\"" ++ text ++ "\""
  | .newline => "newline"
  | .finish => "end of file"
  | .problem message => message

/-- The problem of a token that should not be there. -/
def unexpected {α : Type} (expecting : Option String) : Tokens → Except Problem α
  | (.problem message, line) :: _ => .error ⟨line, message⟩
  | (token, line) :: _ =>
    let more := expecting.elim "" fun word => " (expecting \"" ++ word ++ "\")"
    .error ⟨line, "Syntax error: " ++ token.shown ++ " unexpected" ++ more⟩
  | [] => .error ⟨1, "Syntax error: end of file unexpected"⟩

/-- The first token. -/
def peek : Tokens → Token
  | (token, _) :: _ => token
  | [] => .finish

/-- The line of the first token. -/
def lineOf : Tokens → Nat
  | (_, line) :: _ => line
  | [] => 1

/-- Tokens behind ends of lines. -/
def skipNewlines : Tokens → Tokens
  | (.newline, _) :: rest => skipNewlines rest
  | tokens => tokens

/-- Takes a reserved word. -/
def expect (word : String) (tokens : Tokens) : Except Problem Tokens :=
  if reserved? (peek tokens) == some word then .ok (tokens.drop 1) else unexpected (some word) tokens

/-- Takes the bracket that closes the arguments of a function; no word is reserved here. -/
def expectClosing (tokens : Tokens) : Except Problem Tokens :=
  match tokens with
  | (.operator ")", _) :: rest => .ok rest
  | (.word _, line) :: _ => .error ⟨line, "Syntax error: word unexpected (expecting \")\")"⟩
  | _ => unexpected (some ")") tokens

/-- Takes an operator. -/
def expectOperator (operator : String) (tokens : Tokens) : Except Problem Tokens :=
  if peek tokens == .operator operator then .ok (tokens.drop 1)
  else unexpected (some operator) tokens

/-! ### Redirections -/

/-- The kind of a redirection, and the descriptor that it is for unless there is a number. -/
def redirectKind? : String → Option (RedirectKind × Nat)
  | "<" => some (.read, 0)
  | "<>" => some (.readWrite, 0)
  | ">" => some (.write, 1)
  | ">|" => some (.overwrite, 1)
  | ">>" => some (.append, 1)
  | "<&" => some (.copy, 0)
  | ">&" => some (.copy, 1)
  | _ => none

/-- Reads a redirection, if there is one. -/
def readRedirect? (tokens : Tokens) : Except Problem (Option (Redirect × Tokens)) :=
  let (number, rest) := match tokens with
    | (.descriptor number, _) :: rest => (some number, rest)
    | _ => (none, tokens)
  match rest with
  | (.hereDocument content expands, _) :: rest =>
    .ok (some (⟨number.getD 0, .here content expands, []⟩, rest))
  | (.operator operator, _) :: after =>
    match redirectKind? operator with
    | none => .ok none
    | some (kind, descriptor) =>
      match after with
      | (.word target, _) :: rest => .ok (some (⟨number.getD descriptor, kind, target⟩, rest))
      | _ => unexpected none after
  | _ => .ok none

/-- Reads as many redirections as there are. -/
def readRedirects : Nat → Tokens → Except Problem (List Redirect × Tokens)
  | 0, tokens => .ok ([], tokens)
  | fuel + 1, tokens => do
    match ← readRedirect? tokens with
    | none => pure ([], tokens)
    | some (redirect, rest) =>
      let (more, rest) ← readRedirects fuel rest
      pure (redirect :: more, rest)

/-- Reads the redirections behind a command. -/
def readRedirected (command : Command) (tokens : Tokens) : Except Problem (Command × Tokens) := do
  let (redirects, rest) ← readRedirects tokens.length tokens
  pure (if redirects.isEmpty then command else .redirected command redirects, rest)

/-! ### Simple commands -/

/-- What a simple command consists of. -/
structure SimpleParts where
  assigns : List (Raw × Word) := []
  words : List Word := []
  redirects : List Redirect := []

/-- Reads the parts of a simple command. -/
def readSimple : Nat → SimpleParts → Tokens → Except Problem (SimpleParts × Tokens)
  | 0, parts, tokens => .ok (parts, tokens)
  | fuel + 1, parts, tokens => do
    match ← readRedirect? tokens with
    | some (redirect, rest) =>
      readSimple fuel { parts with redirects := parts.redirects ++ [redirect] } rest
    | none =>
      match tokens with
      | (.word word, _) :: rest =>
        match (if parts.words.isEmpty then splitAssign? word else none) with
        | some assign => readSimple fuel { parts with assigns := parts.assigns ++ [assign] } rest
        | none => readSimple fuel { parts with words := parts.words ++ [word] } rest
      | _ => pure (parts, tokens)

/-! ### Lists of words -/

/-- Reads as many words as there are. -/
def readWords : Tokens → List Word × Tokens
  | (.word word, _) :: rest =>
    let (words, rest) := readWords rest
    (word :: words, rest)
  | tokens => ([], tokens)

/-- Reads patterns with bars between them. -/
def readPatterns : Nat → Tokens → Except Problem (List Word × Tokens)
  | 0, tokens => unexpected none tokens
  | fuel + 1, tokens =>
    match tokens with
    | (.finish, _) :: _ => unexpected (some ")") tokens
    | (.word word, _) :: (.operator "|", _) :: rest => do
      let (words, rest) ← readPatterns fuel rest
      pure (word :: words, rest)
    | (.word word, _) :: rest => .ok ([word], rest)
    | _ => unexpected none tokens

/-! ### Commands -/

/-- Does a token end a list of commands? -/
def endsList (token : Token) : Bool :=
  match token with
  | .finish | .problem _ | .operator ")" | .operator ";;" => true
  | _ => ["do", "done", "elif", "else", "esac", "fi", "then", "\x7d"].any fun word =>
      reserved? token == some word

/-- One command after another, where the first may be to run in the background. -/
def Command.andThen (first : Command) (behind : Bool) (second : Command) : Command :=
  let first := if behind then .background first else first
  match second with
  | .nothing => first
  | _ => .sequence first second

/-! ### Aliases -/

/-- Texts that stand for others where a command can start. -/
abbrev Aliases := List (Raw × Raw)

/-- Tokens in which an alias at the start is replaced, with fuel for aliases inside aliases. One is not
replaced inside its own text; a blank at the end of a text makes the next word count as well. -/
def expandAliases : Nat → Aliases → Tokens → Tokens
  | 0, _, tokens => tokens
  | fuel + 1, aliases, tokens =>
    match tokens with
    | (.word word, line) :: rest =>
      match (plainText? word).filter fun _ => (reserved? (.word word)).isNone with
      | none => tokens
      | some name =>
        match aliases.lookup name with
        | none => tokens
        | some text =>
          let own := (Shell.tokens text).filter fun entry => entry.1 != .finish
          let others := aliases.filter fun entry => entry.1 != name
          let rest := if text.getLast? == some ' ' then expandAliases fuel aliases rest else rest
          expandAliases fuel others (own.map (fun entry => (entry.1, line)) ++ rest)
    | _ => tokens

variable (aliases : Aliases)

mutual

/-- Reads commands up to the end of a list. -/
def readList : Nat → Tokens → Except Problem (Command × Tokens)
  | 0, tokens => unexpected none tokens
  | fuel + 1, tokens => do
    let tokens := skipNewlines tokens
    if endsList (peek tokens) then pure (.nothing, tokens)
    else
      let (first, rest) ← readAndOr fuel tokens
      match peek rest with
      | .operator ";" | .operator "&" | .newline =>
        let (more, after) ← readList fuel (rest.drop 1)
        pure (first.andThen (peek rest == .operator "&") more, after)
      | _ => pure (first, rest)

/-- Reads a list that must not be empty. -/
def readBody : Nat → Tokens → Except Problem (Command × Tokens)
  | 0, tokens => unexpected none tokens
  | fuel + 1, tokens => do
    let (body, rest) ← readList fuel tokens
    match body, peek rest with
    | .nothing, .finish => pure (body, rest)
    | .nothing, _ => unexpected none rest
    | _, _ => pure (body, rest)

/-- Reads pipelines with `&&` and `||` between them. -/
def readAndOr : Nat → Tokens → Except Problem (Command × Tokens)
  | 0, tokens => unexpected none tokens
  | fuel + 1, tokens => do
    let (first, rest) ← readPipeline fuel tokens
    readAndOrFrom fuel first rest

/-- Goes on behind a pipeline. -/
def readAndOrFrom : Nat → Command → Tokens → Except Problem (Command × Tokens)
  | 0, _, tokens => unexpected none tokens
  | fuel + 1, first, tokens => do
    match peek tokens with
    | .operator "&&" | .operator "||" =>
      let (second, rest) ← readPipeline fuel (skipNewlines (tokens.drop 1))
      let both := peek tokens == .operator "&&"
      readAndOrFrom fuel (if both then .both first second else .either first second) rest
    | _ => pure (first, tokens)

/-- Reads a pipeline, perhaps a negated one. -/
def readPipeline : Nat → Tokens → Except Problem (Command × Tokens)
  | 0, tokens => unexpected none tokens
  | fuel + 1, tokens => do
    if reserved? (peek tokens) == some "!" then
      let (command, rest) ← readPipeline fuel (tokens.drop 1)
      pure (.negated command, rest)
    else
      let (commands, rest) ← readPiped fuel tokens
      match commands with
      | [command] => pure (command, rest)
      | _ => pure (.pipeline commands, rest)

/-- Reads commands with bars between them. -/
def readPiped : Nat → Tokens → Except Problem (List Command × Tokens)
  | 0, tokens => unexpected none tokens
  | fuel + 1, tokens => do
    let (command, rest) ← readCommand fuel tokens
    if peek rest == .operator "|" then
      let (commands, rest) ← readPiped fuel (skipNewlines (rest.drop 1))
      pure (command :: commands, rest)
    else pure ([command], rest)

/-- Reads one command. -/
def readCommand : Nat → Tokens → Except Problem (Command × Tokens)
  | 0, tokens => unexpected none tokens
  | fuel + 1, tokens => do
    let tokens := expandAliases (aliases.length + 1) aliases tokens
    match reserved? (peek tokens), peek tokens with
    | none, .operator "(" =>
      let (body, rest) ← readBody fuel (tokens.drop 1)
      let rest ← expectOperator ")" rest
      readRedirected (.subshell body) rest
    | none, _ => readSimpleCommand fuel tokens
    | some word, _ =>
      let (command, rest) ← readCompound fuel word tokens
      readRedirected command rest

/-- Reads a simple command or a function. -/
def readSimpleCommand : Nat → Tokens → Except Problem (Command × Tokens)
  | 0, tokens => unexpected none tokens
  | fuel + 1, tokens => do
    let (parts, rest) ← readSimple (tokens.length + 1) {} tokens
    match parts.words, peek rest with
    | [word], .operator "(" =>
      let rest ← expectClosing (rest.drop 1)
      let (body, rest) ← readCommand fuel (skipNewlines rest)
      match (plainText? word).filter isName with
      | some name => pure (.define name body, rest)
      | none => .error ⟨lineOf tokens, "Syntax error: Bad function name"⟩
    | _, next =>
      if next == .operator "(" && !parts.words.isEmpty then unexpected (some ")") (rest.drop 1)
      else if parts.words.isEmpty && parts.assigns.isEmpty && parts.redirects.isEmpty then
        unexpected none rest
      else
        match next with
        | .problem _ => unexpected none rest
        | _ => pure (.simple (lineOf tokens) parts.assigns parts.words parts.redirects, rest)

/-- Reads what a reserved word starts. -/
def readCompound : Nat → String → Tokens → Except Problem (Command × Tokens)
  | 0, _, tokens => unexpected none tokens
  | fuel + 1, word, tokens => do
    let rest := tokens.drop 1
    match word with
    | "\x7b" =>
      let (body, rest) ← readBody fuel rest
      let rest ← expect "\x7d" rest
      pure (body, rest)
    | "if" => readBranch fuel rest
    | "while" | "until" =>
      let (condition, rest) ← readBody fuel rest
      let rest ← expect "do" rest
      let (body, rest) ← readBody fuel rest
      let rest ← expect "done" rest
      pure (.loop (word == "until") condition body, rest)
    | "for" =>
      match rest with
      | (.word name, line) :: rest =>
        match (plainText? name).filter isName with
        | none => .error ⟨line, "Syntax error: Bad for loop variable"⟩
        | some name =>
          let after := skipNewlines rest
          let listed := reserved? (peek after) == some "in"
          let (words, rest) := if listed then readWords (after.drop 1) else ([], rest)
          let ended := peek rest == .operator ";" || peek rest == .newline
          if listed && !ended then unexpected none rest
          let rest := if ended then rest.drop 1 else rest
          let rest ← expect "do" (skipNewlines rest)
          let (body, rest) ← readBody fuel rest
          let rest ← expect "done" rest
          pure (.each name (if listed then some words else none) body, rest)
      | _ => .error ⟨lineOf rest, "Syntax error: Bad for loop variable"⟩
    | "case" =>
      match rest with
      | (.word subject, _) :: rest =>
        let rest ← expect "in" (skipNewlines rest)
        let (arms, rest) ← readArms fuel (skipNewlines rest)
        pure (.select subject arms, rest)
      | _ => unexpected none rest
    | _ => unexpected none tokens

/-- Reads a condition, what is done if it holds, and what is done otherwise. -/
def readBranch : Nat → Tokens → Except Problem (Command × Tokens)
  | 0, tokens => unexpected none tokens
  | fuel + 1, tokens => do
    let (condition, rest) ← readBody fuel tokens
    let rest ← expect "then" rest
    let (body, rest) ← readBody fuel rest
    match reserved? (peek rest) with
    | some "elif" =>
      let (otherwise, rest) ← readBranch fuel (rest.drop 1)
      pure (.branch condition body otherwise, rest)
    | some "else" =>
      let (otherwise, rest) ← readBody fuel (rest.drop 1)
      let rest ← expect "fi" rest
      pure (.branch condition body otherwise, rest)
    | _ =>
      let rest ← expect "fi" rest
      pure (.branch condition body .nothing, rest)

/-- Reads the arms of a choice. -/
def readArms : Nat → Tokens → Except Problem (List (List Word × Command) × Tokens)
  | 0, tokens => unexpected none tokens
  | fuel + 1, tokens => do
    if reserved? (peek tokens) == some "esac" then pure ([], tokens.drop 1)
    else
      let tokens := if peek tokens == .operator "(" then tokens.drop 1 else tokens
      let (patterns, rest) ← readPatterns tokens.length tokens
      let rest ← expectOperator ")" rest
      let (body, rest) ← readList fuel rest
      if peek rest == .operator ";;" then
        let (arms, rest) ← readArms fuel (skipNewlines (rest.drop 1))
        pure ((patterns, body) :: arms, rest)
      else
        if reserved? (peek rest) == some "esac" then pure ([(patterns, body)], rest.drop 1)
        else unexpected (some ";;") rest

end

/-! ### Scripts -/

/-- Reads the commands of a line. -/
def readLine : Nat → Tokens → Except Problem (Command × Tokens)
  | 0, tokens => unexpected none tokens
  | fuel + 1, tokens => do
    let (first, rest) ← readAndOr aliases (8 * tokens.length + 8) tokens
    match peek rest with
    | .operator ";" | .operator "&" =>
      let behind := peek rest == .operator "&"
      match peek (rest.drop 1) with
      | .newline | .finish => pure (first.andThen behind .nothing, rest.drop 1)
      | _ =>
        let (more, after) ← readLine fuel (rest.drop 1)
        pure (first.andThen behind more, after)
    | .newline | .finish => pure (first, rest)
    | _ => unexpected none rest

/-- The first line with commands, and the tokens behind it; none if there is no more. -/
def readNext (tokens : Tokens) : Except Problem (Option (Command × Tokens)) :=
  let tokens := skipNewlines tokens
  match peek tokens with
  | .finish => .ok none
  | _ => (readLine aliases (tokens.length + 1) tokens).map some

end PromptChain.Shell
