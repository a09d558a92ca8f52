/-
**Reading patterns.**

A pattern is read from left to right: choices of branches, branches of pieces, pieces with repeats behind them
(`readPattern`). In the basic notation a star at the start stands for itself, and anchors count only at the
start and at the end of a branch.
-/

import PromptChain.Posix.Syntax

namespace PromptChain.Posix

open Shell (Raw)

/-- The letters of a pattern that are still to be read. -/
abbrev Input := List Letter

/-- How far a pattern is read: what is left, how many groups were opened, and which ones are closed. -/
structure Progress where
  rest : Input
  groups : Nat := 0
  closed : List Nat := []
  /-- The repeats that were passed over. -/
  stray : List Char := []

/-! ### Signs -/

inductive Sign where
  | openGroup
  | closeGroup
  | bar
  | star
  | plus
  | question
  | openCount
deriving DecidableEq

def signOf? (c : Char) : Option Sign :=
  [('(', .openGroup), (')', .closeGroup), ('|', .bar), ('*', .star), ('+', .plus), ('?', .question),
    ('\x7b', .openCount)].lookup c

/-- The sign at the start of a text, its character, and what follows. -/
def takeSign? (dialect : Dialect) (input : Input) : Option (Sign × Char × Input) :=
  let found : Option (Sign × Char × Input) := match input with
    | .char '*' :: rest => some (.star, '*', rest)
    | .char '\\' :: .char c :: rest =>
      if dialect.extended || c == '*' then none else (signOf? c).map fun sign => (sign, c, rest)
    | .char c :: rest => if dialect.extended then (signOf? c).map fun sign => (sign, c, rest) else none
    | _ => none
  found.filter fun entry => entry.1 != .openCount || dialect.counted

/-! ### Sets -/

/-- The text up to a mark and a closing bracket, and what follows. -/
def takeNamed? (mark : Char) : Input → Option (List Char × Input)
  | .char c :: .char d :: rest =>
    if c = mark && d = ']' then some ([], rest)
    else (takeNamed? mark (.char d :: rest)).map fun found => (c :: found.1, found.2)
  | _ => none

/-- A character of a set, which may be written with brackets around it, and what follows. -/
def takeSetChar (input : Input) : Except Problem (Option Char × Input) :=
  match input with
  | .char '[' :: .char mark :: rest =>
    if mark == '.' || mark == '=' then
      match takeNamed? mark rest with
      | some ([c], rest) => .ok (some c, rest)
      | some _ => .error .badPattern
      | none => .error .openBracket
    else .ok (some '[', .char mark :: rest)
  | .char c :: rest => .ok (some c, rest)
  | .byte c :: rest => .ok (some c, rest)
  | [] => .ok (none, [])

/-- The members of a set up to the bracket that closes it, with fuel for the letters. -/
def readMembers : Nat → Bool → Input → Except Problem (List Member × Input)
  | 0, _, _ => .error .openBracket
  | _ + 1, _, [] => .error .openBracket
  | fuel + 1, first, input => do
    match input with
    | .char ']' :: rest =>
      if !first then return ([], rest)
    | .char '[' :: .char ':' :: rest =>
      match takeNamed? ':' rest with
      | none => throw .openBracket
      | some (name, rest) =>
        let word := String.ofList name
        if (Shell.inClass? word 'a').isNone then throw .badClass
        let (members, rest) ← readMembers fuel false rest
        return (.named word :: members, rest)
    | _ => pure ()
    let (start, rest) ← takeSetChar input
    let low := start.getD ' '
    match rest with
    | .char '-' :: .char ']' :: _ =>
      let (members, rest) ← readMembers fuel false rest
      pure (.range low low :: members, rest)
    | .char '-' :: next =>
      let (finish, rest) ← takeSetChar next
      match finish with
      | none => throw .openBracket
      | some high =>
        if high < low then throw .badRange
        let (members, rest) ← readMembers fuel false rest
        pure (.range low high :: members, rest)
    | _ =>
      let (members, rest) ← readMembers fuel false rest
      pure (.range low low :: members, rest)

/-- Whether the content of brackets is that of a class whose own brackets are missing. -/
def isBareClass (input : Input) : Bool :=
  match input with
  | .char ':' :: rest =>
    let name := rest.takeWhile fun letter => letter != .char ':' && letter != .char ']'
    !name.isEmpty && (rest.drop name.length).take 2 == [.char ':', .char ']']
  | _ => false

def readSet (dialect : Dialect) (input : Input) : Except Problem (Pattern × Input) := do
  if dialect.lenient && isBareClass input then throw .bareClass
  let inverted := input.head? == some (.char '^')
  let content := if inverted then input.drop 1 else input
  if content.isEmpty then throw .badPattern
  let (members, rest) ← readMembers (content.length + 1) true content
  pure (.set inverted members, rest)

/-! ### Counts -/

/-- A number of repeats behind an opening brace, and what follows; none if it is written otherwise. -/
def takeCounts? (dialect : Dialect) (input : Input) : Option (Nat × Option Nat × Input) :=
  let digitsOf (input : Input) : List Char :=
    (input.takeWhile fun letter =>
      match letter with
      | .char c => c.isDigit
      | .byte _ => false).filterMap fun letter =>
        match letter with
        | .char c => some c
        | .byte _ => none
  let number (digits : List Char) : Nat := digits.foldl (fun value c => value * 10 + (c.toNat - 48)) 0
  let first := digitsOf input
  let rest := input.drop first.length
  let (second, rest, ranged) := match rest with
    | .char ',' :: rest =>
      let digits := digitsOf rest
      (digits, rest.drop digits.length, true)
    | _ => ([], rest, false)
  let closed := match rest with
    | .char '\x7d' :: rest => if dialect.extended then some rest else none
    | .char '\\' :: .char '\x7d' :: rest => if dialect.extended then none else some rest
    | _ => none
  if first.isEmpty && !ranged then none
  else closed.map fun rest =>
    let most := if !ranged then some (number first) else if second.isEmpty then none else some (number second)
    (number first, most, rest)

def hasClosingBrace (input : Input) : Bool := input.contains (.char '\x7d')

/-! ### Pieces -/

/-- What a character behind a backslash stands for. -/
def escapedPattern (c : Char) : Pattern :=
  let word : List Member := [.named "alnum", .range '_' '_']
  match c with
  | 'w' => .set false word
  | 'W' => .set true word
  | 's' => .set false [.named "space"]
  | 'S' => .set true [.named "space"]
  | '<' => .anchor .wordStart
  | '>' => .anchor .wordEnd
  | 'b' => .anchor .boundary
  | 'B' => .anchor .inside
  | '\x60' => .anchor .textStart
  | '\'' => .anchor .textEnd
  | _ => .letter (.char c)

/-- Whether a dollar sign at the start of a text ends a branch. -/
def endsBranch (dialect : Dialect) (rest : Input) : Bool :=
  dialect.extended || rest.isEmpty
    || (takeSign? dialect rest).any fun entry => entry.1 == .closeGroup || entry.1 == .bar

/-- Reads one letter, set or anchor; `fresh` says that a branch starts here. -/
def readAtom (dialect : Dialect) (fresh : Bool) (progress : Progress) : Except Problem (Pattern × Progress) :=
  match progress.rest with
  | [] => .ok (.empty, progress)
  | [.char '\\'] => .error .backslash
  | .char '\\' :: .char c :: rest =>
    if '1' ≤ c && c ≤ '9' then
      let index := c.toNat - 48
      if progress.closed.contains index then .ok (.again index, { progress with rest })
      else .error .badReference
    else .ok (escapedPattern c, { progress with rest })
  | .char '\\' :: letter :: rest => .ok (.letter letter, { progress with rest })
  | .char '[' :: rest => do
    let (set, rest) ← readSet dialect rest
    pure (set, { progress with rest })
  | .char '.' :: rest => .ok (.any, { progress with rest })
  | .char '^' :: rest =>
    .ok (if dialect.extended || fresh then .anchor .start else .letter (.char '^'), { progress with rest })
  | .char '$' :: rest =>
    .ok (if endsBranch dialect rest then .anchor .finish else .letter (.char '$'), { progress with rest })
  | letter :: rest => .ok (.letter letter, { progress with rest })

/-- Whether nothing can be repeated behind a pattern. -/
def isAnchor : Pattern → Bool
  | .anchor _ => true
  | _ => false

/-- Reads the repeats behind a piece, with fuel for the letters. -/
def readRepeats (dialect : Dialect) : Nat → Pattern → Progress → Except Problem (Pattern × Progress)
  | 0, piece, progress => .ok (piece, progress)
  | fuel + 1, piece, progress =>
    let go (least : Nat) (most : Option Nat) (rest : Input) : Except Problem (Pattern × Progress) :=
      readRepeats dialect fuel (.repeated least most piece) { progress with rest }
    match takeSign? dialect progress.rest with
    | some (.star, _, rest) => go 0 none rest
    | some (.plus, _, rest) => go 1 none rest
    | some (.question, _, rest) => go 0 (some 1) rest
    | some (.openCount, _, rest) =>
      match takeCounts? dialect rest with
      | some (least, most, rest) => if most.any (· < least) then .error .badCount else go least most rest
      | none =>
        if dialect.extended && dialect.lenient then .ok (piece, progress)
        else if hasClosingBrace rest then .error .badCount
        else .error .openCount
    | _ => .ok (piece, progress)

mutual

def readChoice (dialect : Dialect) : Nat → Nat → Progress → Except Problem (Pattern × Progress)
  | 0, _, progress => .ok (.empty, progress)
  | fuel + 1, depth, progress => do
    let (first, progress) ← readBranch dialect fuel depth true true progress
    match takeSign? dialect progress.rest with
    | some (.bar, _, rest) =>
      let (second, progress) ← readChoice dialect fuel depth { progress with rest }
      pure (.either first second, progress)
    | _ => pure (first, progress)

/-- Reads pieces up to a bar, a bracket that closes a group, or the end. The flags say whether a branch starts
here, and whether there is nothing to repeat. -/
def readBranch (dialect : Dialect) : Nat → Nat → Bool → Bool → Progress → Except Problem (Pattern × Progress)
  | 0, _, _, _, progress => .ok (.empty, progress)
  | fuel + 1, depth, fresh, bare, progress => do
    let more (piece : Pattern) (progress : Progress) : Except Problem (Pattern × Progress) := do
      let anchored := isAnchor piece
      let (piece, progress) ← if anchored then pure (piece, progress)
        else readRepeats dialect (progress.rest.length + 1) piece progress
      let (rest, progress) ← readBranch dialect fuel depth false anchored progress
      pure (.both piece rest, progress)
    let literal (c : Char) (rest : Input) : Except Problem (Pattern × Progress) :=
      more (.letter (.char c)) { progress with rest }
    if progress.rest.isEmpty then pure (.empty, progress)
    else
      match takeSign? dialect progress.rest with
      | none =>
        let (piece, progress) ← readAtom dialect fresh progress
        more piece progress
      | some (.bar, _, _) => pure (.empty, progress)
      | some (.closeGroup, c, rest) =>
        if 0 < depth then pure (.empty, progress)
        else if dialect.extended && dialect.lenient then literal c rest
        else throw .closedGroup
      | some (.openGroup, _, rest) =>
        let index := progress.groups + 1
        let (inner, progress) ← readChoice dialect fuel (depth + 1) { progress with rest, groups := index }
        match takeSign? dialect progress.rest with
        | some (.closeGroup, _, rest) =>
          more (.group index inner) { progress with rest, closed := index :: progress.closed }
        | _ => throw .openGroup
      | some (sign, c, rest) =>
        -- A repeat: behind a piece it was read with it, so there is nothing to repeat, or its count is no count.
        if sign == .openCount then
          if dialect.lenient then literal c rest
          else throw .nothingToRepeat
        else if !dialect.extended || !bare then literal c rest
        else if dialect.lenient then
          readBranch dialect fuel depth fresh bare { progress with rest, stray := progress.stray ++ [c] }
        else throw .nothingToRepeat

end

/-- Reads a whole pattern; gives also the repeats that were passed over. -/
def readPattern (dialect : Dialect) (text : Raw) : Except Problem (Pattern × List Char) := do
  let input := lettersOf text
  let (pattern, progress) ← readChoice dialect (4 * input.length + 8) 0 { rest := input }
  pure (pattern, progress.stray)

end PromptChain.Posix
