/-
**Names by wildcard.**

In a pattern a star stands for any characters, a question mark for one, and brackets for one of a set,
or for one outside it if an exclamation mark comes first. A bracket that is not closed stands for
itself. Names that start with a point are found only by patterns that do so too (`glob`).
-/

import PromptChain.Files.Tree

namespace PromptChain.Files

inductive Wild where
  | char (c : Char)
  | one
  | many
  /-- A character within some ranges, or, if negated, outside all of them. -/
  | among (negated : Bool) (ranges : List (Char × Char))
deriving DecidableEq

namespace Wild

/-! ### Sets -/

/-- Cuts a set at the hyphens that make ranges. Such a hyphen has a character before it, and at least
two characters stand between two of them; `seen` counts those since the last one. -/
def chunksFrom (seen : Nat) (least : Nat) : List Char → List (List Char)
  | [] => [[]]
  | c :: rest =>
    if c = '-' ∧ least ≤ seen then [] :: chunksFrom 0 2 rest
    else
      match chunksFrom (seen + 1) least rest with
      | [] => [[c]]
      | chunk :: chunks => (c :: chunk) :: chunks

/-- A hyphen at the end of a set stands for itself. -/
def keepLastHyphen : List (List Char) → List (List Char)
  | [] => []
  | [chunk] => [chunk]
  | [chunk, []] => [chunk ++ ['-']]
  | chunk :: next :: rest => chunk :: keepLastHyphen (next :: rest)

def dropEmptyRanges : List (List Char) → List (List Char)
  | [] => []
  | chunk :: rest =>
    match dropEmptyRanges rest with
    | [] => [chunk]
    | next :: others =>
      match chunk.getLast?, next.head? with
      | some first, some last =>
        if last < first then (chunk.dropLast ++ next.drop 1) :: others else chunk :: next :: others
      | _, _ => chunk :: next :: others

/-- The ranges of chunks: each of their characters, and from the last of one to the first of the
next. -/
def rangesOf : List (List Char) → List (Char × Char)
  | [] => []
  | chunk :: rest =>
    let singles := chunk.map fun c => (c, c)
    let joined := match chunk.getLast?, (rest.head?).bind List.head? with
      | some first, some last => [(first, last)]
      | _, _ => []
    singles ++ joined ++ rangesOf rest

/-- The set of what stands between brackets. -/
def ofSet (content : List Char) : Wild :=
  let least := if content.head? == some '!' then 2 else 1
  match dropEmptyRanges (keepLastHyphen (chunksFrom 0 least content)) with
  | ('!' :: chunk) :: rest => among true (rangesOf (chunk :: rest))
  | chunks => among false (rangesOf chunks)

/-- How many characters after an opening bracket belong to the set in any case. -/
def setStart : List Char → Nat
  | '!' :: ']' :: _ => 2
  | '!' :: _ => 1
  | ']' :: _ => 1
  | _ => 0

/-- The content of a set and what follows its closing bracket; none if it is not closed. -/
def takeSet? (text : List Char) : Option (List Char × List Char) :=
  let start := setStart text
  let inner := (text.drop start).takeWhile (· != ']')
  match (text.drop start).drop inner.length with
  | [] => none
  | _ :: rest => some (text.take start ++ inner, rest)

/-! ### Patterns -/

def readFrom : Nat → List Char → List Wild
  | 0, _ => []
  | _ + 1, [] => []
  | fuel + 1, '*' :: rest => many :: readFrom fuel rest
  | fuel + 1, '?' :: rest => one :: readFrom fuel rest
  | fuel + 1, '[' :: rest =>
    match takeSet? rest with
    | some (content, rest) => ofSet content :: readFrom fuel rest
    | none => char '[' :: readFrom fuel rest
  | fuel + 1, c :: rest => char c :: readFrom fuel rest

def ofText (text : String) : List Wild := readFrom text.length text.toList

/-- Whether a piece stands for a character; a star does not. -/
def accepts (c : Char) : Wild → Bool
  | char d => c == d
  | one => true
  | many => false
  | among negated ranges =>
    (ranges.any fun range => decide (range.1 ≤ c) && decide (c ≤ range.2)) != negated

def endings : List Char → List (List Char)
  | [] => [[]]
  | c :: rest => (c :: rest) :: endings rest

def matchesAll : List Wild → List Char → Bool
  | [], text => text.isEmpty
  | many :: pieces, text => (endings text).any (matchesAll pieces)
  | _ :: _, [] => false
  | piece :: pieces, c :: rest => piece.accepts c && matchesAll pieces rest

end Wild

/-! ### Paths -/

def hasWildcard (text : String) : Bool :=
  text.toList.any fun c => c == '*' || c == '?' || c == '['

def isHidden (name : String) : Bool := name.toList.head? == some '.'

def isFoundBy (pattern name : String) : Bool :=
  (isHidden pattern || !isHidden name) && Wild.matchesAll (Wild.ofText pattern) name.toList

def splitLast (path : String) : String × String :=
  let last := (path.toList.reverse.takeWhile (· != '/')).reverse
  let directory := path.toList.take (path.length - last.length)
  let shorter := (directory.reverse.dropWhile (· == '/')).reverse
  (String.ofList (if shorter.isEmpty then directory else shorter), String.ofList last)

def namesIn (tree : Tree) (here : Place) (directory : String) (directoriesOnly : Bool) :
    List String :=
  match tree.locate here (.ofRawText directory) with
  | .error _ => []
  | .ok place =>
    let entries := (tree.childrenOf place).filter fun entry =>
      !directoriesOnly || entry.content.isNone
    entries.filterMap fun entry => entry.place.getLast?

/-- The paths that a pattern stands for, with fuel for the length of the pattern. -/
def globFrom (tree : Tree) (here : Place) : Nat → Bool → String → List String
  | 0, _, _ => []
  | fuel + 1, directoriesOnly, pattern =>
    if !hasWildcard pattern then
      if tree.names here (.ofRawText pattern) then [pattern] else []
    else
      let (directory, last) := splitLast pattern
      let directories :=
        if directory != "" && hasWildcard directory then globFrom tree here fuel true directory
        else [directory]
      directories.flatMap fun directory =>
        let names :=
          if hasWildcard last then
            (namesIn tree here directory directoriesOnly).filter (isFoundBy last)
          else if tree.names here (.ofRawText (joinText directory last)) then [last]
          else []
        names.map (joinText directory)

def glob (tree : Tree) (here : Place) (pattern : String) : List String :=
  globFrom tree here (pattern.length + 1) false pattern

end PromptChain.Files
