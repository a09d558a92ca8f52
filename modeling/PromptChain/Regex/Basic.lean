/-
**Regular expressions as trees.**

A `Node` is a regular expression whose flags have been worked into its leaves: every leaf that
reads a character carries its own test, and an anchor says whether it looks at lines or at the whole
text. `Node.width` gives the least and greatest number of characters a node can read;
look-behind needs the two to agree.
-/

namespace PromptChain.Regex

/-- The flags that a pattern can set for itself or for one of its groups. -/
structure Flags where
  ignoreCase : Bool := false
  multiline : Bool := false
  dotAll : Bool := false
  verbose : Bool := false
  ascii : Bool := false
  unicode : Bool := false
  template : Bool := false

def Flags.union (left right : Flags) : Flags where
  ignoreCase := left.ignoreCase || right.ignoreCase
  multiline := left.multiline || right.multiline
  dotAll := left.dotAll || right.dotAll
  verbose := left.verbose || right.verbose
  ascii := left.ascii || right.ascii
  unicode := left.unicode || right.unicode
  template := left.template || right.template

def Flags.meets (left right : Flags) : Bool :=
  (left.ignoreCase && right.ignoreCase) || (left.multiline && right.multiline)
    || (left.dotAll && right.dotAll) || (left.verbose && right.verbose)
    || (left.ascii && right.ascii) || (left.unicode && right.unicode)
    || (left.template && right.template)

def Flags.isEmpty (flags : Flags) : Bool := !flags.meets flags

/-- The flags inside a group that adds some and drops others. A choice of alphabet replaces the one
outside. -/
def Flags.enter (outer added dropped : Flags) : Flags where
  ignoreCase := (outer.ignoreCase || added.ignoreCase) && !dropped.ignoreCase
  multiline := (outer.multiline || added.multiline) && !dropped.multiline
  dotAll := (outer.dotAll || added.dotAll) && !dropped.dotAll
  verbose := (outer.verbose || added.verbose) && !dropped.verbose
  ascii := added.ascii || (outer.ascii && !added.unicode)
  unicode := added.unicode || (outer.unicode && !added.ascii)
  template := outer.template

/-- How letter case counts when characters are compared. -/
inductive CaseRule where
  /-- Characters are compared as they are. -/
  | exact
  /-- The case of the letters below 128 does not count. -/
  | ascii
  /-- The case of no letter counts. -/
  | unicode
deriving DecidableEq

def Flags.caseRule (flags : Flags) : CaseRule :=
  if !flags.ignoreCase then .exact else if flags.ascii then .ascii else .unicode

/-- The classes with a letter of their own. -/
inductive Category where
  | digit
  | space
  | word
deriving DecidableEq

inductive Member where
  | single (code : Nat)
  | range (first last : Nat)
  | category (kind : Category) (negated ascii : Bool)
deriving DecidableEq

inductive CharTest where
  /-- Any character, newline only if `dotAll`. -/
  | any (dotAll : Bool)
  /-- One character, or every other. -/
  | single (rule : CaseRule) (negated : Bool) (code : Nat)
  /-- The members of a set, or all other characters. -/
  | set (rule : CaseRule) (negated : Bool) (members : List Member)
deriving DecidableEq

/-- A place in the text where a match may stand without reading anything. -/
inductive Anchor where
  | textStart
  | start
  | lineStart
  | finish
  | lineFinish
  | textEnd
  | boundary (ascii negated : Bool)
deriving DecidableEq

/-- How a repetition chooses the number of rounds. -/
inductive RepeatMode where
  /-- As many rounds as possible, then fewer. -/
  | greedy
  /-- As few rounds as possible, then more. -/
  | lazy
  /-- As many rounds as possible, and no other number. Behind a round that fails the match goes on where
  that round began, or where it was given up. -/
  | possessive (goesBack : Bool)

inductive Node where
  | empty
  | one (test : CharTest)
  | seq (first second : Node)
  | alt (first second : Node)
  | anchor (kind : Anchor)
  | rep (mode : RepeatMode) (least : Nat) (most : Option Nat) (body : Node)
  /-- A group that captures nothing and sets no flag. -/
  | scope (body : Node)
  /-- A group that captures nothing and sets flags, which its leaves already carry. -/
  | flagged (body : Node)
  | capture (index : Nat) (body : Node)
  | atomic (body : Node)
  | backref (rule : CaseRule) (index : Nat)
  | conditional (index : Nat) (yes no : Node)
  | lookahead (negated : Bool) (body : Node)
  /-- Look-behind, with the least and greatest width of its body. -/
  | lookbehind (least most : Nat) (negated : Bool) (body : Node)

def Node.ofList : List Node → Node
  | [] => .empty
  | [node] => node
  | node :: next :: rest => .seq node (Node.ofList (next :: rest))

def Node.toList : Node → List Node
  | .empty => []
  | .seq first second => first.toList ++ second.toList
  | node => [node]

/-- The choice between several nodes, the first preferred. -/
def Node.choice : List Node → Node
  | [] => .empty
  | [node] => node
  | node :: next :: rest => .alt node (Node.choice (next :: rest))

def widthLimit : Nat := Nat.pow 2 64

/-- The least and greatest number of characters that a node reads, given those of the groups. -/
def Node.width (groups : Nat → Nat × Nat) : Node → Nat × Nat
  | .empty => (0, 0)
  | .one _ => (1, 1)
  | .seq first second =>
    let a := first.width groups
    let b := second.width groups
    (min (a.1 + b.1) widthLimit, min (a.2 + b.2) widthLimit)
  | .alt first second =>
    let a := first.width groups
    let b := second.width groups
    (min a.1 b.1, max a.2 b.2)
  | .anchor _ => (0, 0)
  | .rep _ least most body =>
    let a := body.width groups
    let high := match most with
      | some most => a.2 * most
      | none => if a.2 = 0 then 0 else widthLimit
    (min (a.1 * least) widthLimit, min high widthLimit)
  | .scope body => body.width groups
  | .flagged body => body.width groups
  | .capture _ body => body.width groups
  | .atomic body => body.width groups
  | .backref _ index => groups index
  | .conditional _ yes no =>
    let a := yes.width groups
    let b := no.width groups
    (min a.1 b.1, max a.2 b.2)
  | .lookahead _ _ => (0, 0)
  | .lookbehind _ _ _ _ => (0, 0)

/-- A compiled pattern: its tree, the least number of characters it reads, whether its classes end below
128 where no group says otherwise, the number of its groups, and the names of groups in the order in
which the pattern defines them. -/
structure Compiled where
  root : Node
  least : Nat
  ascii : Bool
  groupCount : Nat
  groupNames : List (String × Nat)

end PromptChain.Regex
