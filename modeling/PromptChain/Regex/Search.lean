/-
**Searching a text.**

`Node.run` matches a node at a position and hands every way of doing so, best first, to the rest of
the match; the first way that the rest accepts wins. Alternatives are tried in order, greedy
repetition prefers more rounds, lazy repetition fewer. A round that would start where the round
before it started is not begun, so repetition of something empty ends.

A way that fails leaves a `State` behind. The marks of the groups are taken back as far as the rules
ask for it (`State.backTo`): all of them inside a repetition, and otherwise only those of groups that
had none before. The state also keeps the place at which a part was last tried, because a possessive
repetition may go on there once a round of it has failed.

`Compiled.search` takes the leftmost match that starts where the pattern's own alphabet lets its
first set start (`Node.startTest?`).
-/

import PromptChain.Regex.CharTest

namespace PromptChain.Regex

/-! ### States -/

/-- What a match knows besides its position: the place at which a part was last tried or ended, and
the marks, two for each group, where it was last entered and left. Groups behind the last mark have
none. -/
structure State where
  pointer : Nat
  marks : List (Option Nat)

def State.pointTo (s : State) (position : Nat) : State := { s with pointer := position }

def State.mark (s : State) (index position : Nat) : State :=
  if index < s.marks.length then { s with marks := s.marks.set index (some position) }
  else
    let gap := List.replicate (index - s.marks.length) none
    { s with marks := s.marks ++ gap ++ [some position] }

/-- Where a group was entered and left, if it was both. -/
def State.marks? (s : State) (index : Nat) : Option (Nat × Nat) :=
  match s.marks[2 * (index - 1)]?, s.marks[2 * (index - 1) + 1]? with
  | some (some first), some (some last) => some (first, last)
  | _, _ => none

def State.span? (s : State) (index : Nat) : Option (Nat × Nat) :=
  (s.marks? index).filter fun span => span.1 ≤ span.2

/-- The state after a failed way, with the marks taken back to those of an earlier state: all of them
inside a repetition, else those alone that the earlier state lacks. -/
def State.backTo (s : State) (inside : Bool) (earlier : State) : State :=
  { s with marks := if inside then earlier.marks else s.marks.take earlier.marks.length }

/-- The end of a way of matching: the state of a match, or the state that a failure leaves. -/
abbrev Way := Except State State

/-- What is done at a position with each way of matching a part. -/
abbrev Rest := Nat → State → Way

/-- The rest of a part that is matched on its own. -/
def Rest.none : Rest := fun position s => .ok (s.pointTo position)

abbrev Part := Nat → State → Rest → Way

/-! ### Places -/

/-- Whether the character at a position, if there is one, is a word character. -/
def wordAt (subject : Array Char) (ascii : Bool) (position : Nat) : Bool :=
  match subject[position]? with
  | some c => Category.word.holds ascii c.toNat
  | none => false

/-- Whether an anchor holds at a position. In an empty text there is no boundary and no place inside
a word. -/
def Anchor.holds (subject : Array Char) (position : Nat) : Anchor → Bool
  | .textStart | .start => position == 0
  | .lineStart => position == 0 || subject[position - 1]? == some '\n'
  | .textEnd => position == subject.size
  | .finish =>
    position == subject.size || (position + 1 == subject.size && subject[position]? == some '\n')
  | .lineFinish => position == subject.size || subject[position]? == some '\n'
  | .boundary ascii negated =>
    let before := position != 0 && wordAt subject ascii (position - 1)
    subject.size != 0 && ((before != wordAt subject ascii position) != negated)

/-! ### What comes first -/

def CharTest.folds : CharTest → Bool
  | .any _ => false
  | .single rule _ code => rule.cased code
  | .set rule _ members => rule != .exact && members.any (Member.cased rule)

inductive Lead where
  /-- The part reads nothing and asks for nothing. -/
  | nothing
  | test (test : CharTest)
  | other

def Node.lead : Node → Lead
  | .empty => .nothing
  | .one test => .test test
  | .seq first second =>
    match first.lead with
    | .nothing => second.lead
    | lead => lead
  | .scope body => body.lead
  | .flagged body => body.lead
  | _ => .other

/-- What a node starts with if more follows it. -/
def Node.leadBefore (node : Node) (next : Lead) : Lead :=
  match node.lead with
  | .nothing => next
  | lead => lead

/-- Whether a repetition in front may end at a position: if one plain character follows, it must
stand there. -/
def Lead.mayFollow (lead : Lead) (subject : Array Char) (position : Nat) : Bool :=
  match lead with
  | .test (.single rule false code) =>
    rule.cased code || subject[position]?.any fun c => c.toNat == code
  | _ => true

/-- Whether an alternative is tried at a position: if it starts with a plain character or set, that
must accept what stands there. -/
def Lead.mayStart (lead : Lead) (subject : Array Char) (position : Nat) : Bool :=
  match lead with
  | .test (.single rule false code) =>
    rule.cased code || subject[position]?.any fun c => c.toNat == code
  | .test (.set rule negated members) =>
    let test := CharTest.set rule negated members
    test.folds || subject[position]?.any test.accepts
  | _ => true

/-! ### Repetition of one character -/

/-- How many characters from a position on pass a test, at most `limit`. -/
def countRun (subject : Array Char) (test : CharTest) (position : Nat) : Nat → Nat
  | 0 => 0
  | limit + 1 =>
    match subject[position]? with
    | some c => if test.accepts c then countRun subject test (position + 1) limit + 1 else 0
    | none => 0

/-- The place that counting characters leaves: where it began, or where it ended if the test is a set
that compares lower-case forms. -/
def CharTest.placeAfter (test : CharTest) (position count : Nat) : Nat :=
  match test with
  | .set _ _ _ => if test.folds then position + count else position
  | _ => position

/-- Offers `count` characters from `position` on to the rest, then fewer, down to `least`. -/
def offerDown (subject : Array Char) (inside : Bool) (next : Lead) (least position : Nat)
    (saved : State) (rest : Rest) : Nat → State → Way
  | count, s =>
    if count < least then .error s
    else
      let here := position + count
      let left :=
        if next.mayFollow subject here then
          (rest here (s.pointTo here)).mapError fun left => left.backTo inside saved
        else .error s
      match left, count with
      | .ok done, _ => .ok done
      | .error left, 0 => .error left
      | .error left, count + 1 =>
        offerDown subject inside next least position saved rest count left

/-- Offers the characters before `position` to the rest, then up to `more` further ones. -/
def offerUp (subject : Array Char) (test : CharTest) (inside : Bool) (saved : State) (rest : Rest) :
    Nat → Nat → State → Way
  | more, position, s =>
    match rest position (s.pointTo position) with
    | .ok done => .ok done
    | .error left =>
      let count := countRun subject test position 1
      let left := (left.backTo inside saved).pointTo (test.placeAfter position count)
      match more with
      | 0 => .error left
      | more + 1 =>
        if count = 0 then .error left
        else offerUp subject test inside saved rest more (position + 1) left

def repeatTest (subject : Array Char) (test : CharTest) (mode : RepeatMode) (least : Nat)
    (most : Option Nat) (inside : Bool) (next : Lead) : Part :=
  fun position s rest =>
    let room := subject.size - position
    let limit := match mode with
      | .lazy => least
      | _ => min (most.getD room) room
    if room < least then .error s
    else
      let count := countRun subject test position limit
      let s := s.pointTo (test.placeAfter position count)
      if count < least then .error s
      else
        match mode with
        | .greedy => offerDown subject inside next least position s rest count s
        | .lazy => offerUp subject test inside s rest (most.getD room - least) (position + count) s
        | .possessive _ => rest (position + count) s

/-! ### Repetition of a node -/

/-- Whether another round may begin: there is room for it, and the round before began elsewhere. -/
def mayRepeat (most : Option Nat) (count : Nat) (last : Option Nat) (position : Nat) : Bool :=
  (match most with
    | some most => count < most
    | none => true)
  && last != some position

def Way.failingAt (way : Way) (position : Nat) : Way :=
  way.mapError fun left => left.pointTo position

/-- Greedy rounds of `body`, of which `count` are done; `last` is where the round before began. -/
def repeatGreedy (body : Part) (least : Nat) (most : Option Nat) (rest : Rest) :
    Nat → Nat → Option Nat → Rest
  | 0, _, _, position, s => rest position s
  | fuel + 1, count, last, position, s =>
    if count < least then
      Way.failingAt
        (body position (s.pointTo position) (repeatGreedy body least most rest fuel (count + 1) last))
        position
    else if mayRepeat most count last position then
      match body position (s.pointTo position)
          (repeatGreedy body least most rest fuel (count + 1) (some position)) with
      | .ok done => .ok done
      | .error _ => Way.failingAt (rest position (s.pointTo position)) position
    else Way.failingAt (rest position (s.pointTo position)) position

/-- Lazy rounds of `body`. -/
def repeatLazy (body : Part) (least : Nat) (most : Option Nat) (inside : Bool) (rest : Rest) :
    Nat → Nat → Option Nat → Rest
  | 0, _, _, position, s => rest position s
  | fuel + 1, count, last, position, s =>
    if count < least then
      Way.failingAt
        (body position (s.pointTo position)
          (repeatLazy body least most inside rest fuel (count + 1) last))
        position
    else
      match rest position (s.pointTo position) with
      | .ok done => .ok done
      | .error left =>
        let left := (left.backTo inside s).pointTo position
        if mayRepeat most count last position then
          Way.failingAt
            (body position left
              (repeatLazy body least most inside rest fuel (count + 1) (some position)))
            position
        else .error left

/-- Possessive rounds of `body`, of which the first began at `start`: the first way of each round is
kept. A round that fails beyond the least number leaves its place, and the match goes on there unless it
goes back to where that round began. -/
def repeatPossessive (body : Part) (least : Nat) (most : Option Nat) (goesBack : Bool) (start : Nat) :
    Nat → Nat → Option Nat → State → Way
  | 0, _, _, s => .ok s
  | fuel + 1, count, last, s =>
    if count < least then
      match body s.pointer s Rest.none with
      | .ok next => repeatPossessive body least most goesBack start fuel (count + 1) last next
      | .error left => .error (left.pointTo start)
    else if mayRepeat most count last s.pointer then
      match body s.pointer s Rest.none with
      | .ok next =>
        repeatPossessive body least most goesBack start fuel (count + 1) (some s.pointer) next
      | .error left => .ok (if goesBack then s else { left with marks := s.marks })
    else .ok s

/-! ### Matching -/

/-- The position after a repeated text, if it stands at the position. -/
def matchAgain (subject : Array Char) (rule : CaseRule) (source : Nat) : Nat → Nat → Option Nat
  | position, 0 => some position
  | position, count + 1 =>
    match subject[source]?, subject[position]? with
    | some a, some b =>
      if rule.lower a.toNat == rule.lower b.toNat then
        matchAgain subject rule (source + 1) (position + 1) count
      else none
    | _, _ => none

def Node.test? : Node → Option CharTest
  | .one test => some test
  | .scope body => body.test?
  | .flagged body => body.test?
  | _ => none

/-- A part looked for `width` characters before a position, or ahead if `width` is zero. -/
def lookAround (body : Part) (width : Nat) (negated inside : Bool) : Part :=
  fun position s rest =>
    if position < width then if negated then rest position s else .error s
    else
      let start := position - width
      match body start (s.pointTo start) Rest.none, negated with
      | .ok next, false => rest position next
      | .error left, true => rest position (left.backTo inside s)
      | .ok left, true => .error left
      | .error left, false => .error left

/-- Matches a node and hands each way of doing so to the rest, best first. `inside` says that the node
stands in the body of a repetition, and `next` what follows the node. -/
def Node.run (subject : Array Char) : Node → Bool → Lead → Part
  | .empty, _, _, position, s, rest => rest position s
  | .one test, _, _, position, s, rest =>
    match subject[position]? with
    | some c => if test.accepts c then rest (position + 1) s else .error s
    | none => .error s
  | .seq first second, inside, next, position, s, rest =>
    first.run subject inside (second.leadBefore next) position s fun position s =>
      second.run subject inside next position s rest
  | .alt first second, inside, _, position, s, rest =>
    let afterFirst :=
      if first.lead.mayStart subject position then
        (first.run subject inside .other position (s.pointTo position) rest).mapError
          fun left => left.backTo inside s
      else .error s
    match afterFirst with
    | .ok done => .ok done
    | .error left =>
      if second.lead.mayStart subject position then
        (second.run subject inside .other position (left.pointTo position) rest).mapError
          fun left => left.backTo inside s
      else .error left
  | .anchor kind, _, _, position, s, rest =>
    if kind.holds subject position then rest position s else .error s
  | .rep mode least most body, inside, next, position, s, rest =>
    match body.test? with
    | some test => repeatTest subject test mode least most inside next position s rest
    | none =>
      let fuel := least + subject.size + 2
      match mode with
      | .greedy =>
        repeatGreedy (body.run subject true .other) least most rest fuel 0 none position s
      | .lazy =>
        repeatLazy (body.run subject true .other) least most inside rest fuel 0 none position s
      | .possessive goesBack =>
        match repeatPossessive (body.run subject inside .other) least most goesBack position fuel 0 none
            (s.pointTo position) with
        | .ok next => rest next.pointer next
        | .error left => .error left
  | .scope body, inside, next, position, s, rest => body.run subject inside next position s rest
  | .flagged body, inside, next, position, s, rest => body.run subject inside next position s rest
  | .capture index body, inside, _, position, s, rest =>
    body.run subject inside .other position (s.mark (2 * (index - 1)) position)
      fun position s => rest position (s.mark (2 * (index - 1) + 1) position)
  | .atomic body, inside, _, position, s, rest =>
    match body.run subject inside .other position (s.pointTo position) Rest.none with
    | .ok next => rest next.pointer next
    | .error left => .error (left.pointTo position)
  | .backref rule index, _, _, position, s, rest =>
    match s.span? index with
    | some (first, last) =>
      match matchAgain subject rule first position (last - first) with
      | some position => rest position s
      | none => .error s
    | none => .error s
  | .conditional index yes no, inside, next, position, s, rest =>
    if (s.span? index).isSome then
      let next := match no with
        | .empty => next
        | _ => .other
      yes.run subject inside next position s rest
    else no.run subject inside next position s rest
  | .lookahead negated body, inside, _, position, s, rest =>
    lookAround (body.run subject inside .other) 0 negated inside position s rest
  | .lookbehind width _ negated body, inside, _, position, s, rest =>
    lookAround (body.run subject inside .other) width negated inside position s rest

/-! ### Where a match can start -/

def Member.inAlphabet (ascii : Bool) : Member → Member
  | .category kind negated _ => .category kind negated ascii
  | member => member

/-- Whether letter case plays a part in a member of a set that every match starts with. -/
def Member.startFolds (rule : CaseRule) : Member → Bool
  | .single code => rule.cased code
  | .range first last => rule != .exact && (last > planeEnd || rule.rangeCased first last)
  | .category _ _ _ => false

/-- The plain characters that the alternatives of a choice start with, if each does. -/
def Node.startCodes? : Node → Option (List Member)
  | .alt first second =>
    match first.startCodes?, second.startCodes? with
    | some members, some others => some (members ++ others)
    | _, _ => none
  | .seq first _ => first.startCodes?
  | .one (.single rule false code) => if rule.cased code then none else some [.single code]
  | _ => none

/-- The set that every match starts with, if case plays no part in it, with the classes of an
alphabet. -/
def Node.startTest? (ascii : Bool) : Node → Option CharTest
  | .one (.set rule negated members) =>
    if members.any (Member.startFolds rule) then none
    else some (.set .exact negated (members.map (Member.inAlphabet ascii)))
  | .alt first second =>
    match first.startCodes?, second.startCodes? with
    | some members, some others => some (.set .exact false (members ++ others))
    | _, _ => none
  | .seq first _ => first.startTest? ascii
  | .scope body => body.startTest? ascii
  | .flagged body => body.startTest? ascii
  | .capture _ body => body.startTest? ascii
  | _ => none

/-- Whether every match starts with one plain character, and whether nothing else is in the node. -/
def Node.startsPlain : Node → Bool × Bool
  | .empty => (false, true)
  | .one test =>
    match test with
    | .single rule false code => (!rule.cased code, !rule.cased code)
    | _ => (false, false)
  | .seq first second =>
    let (plain, all) := first.startsPlain
    if all then
      let (later, rest) := second.startsPlain
      (plain || later, rest)
    else (plain, false)
  | .scope body => body.startsPlain
  | .flagged body => body.startsPlain
  | .capture _ body => body.startsPlain
  | _ => (false, false)

/-- The number of positions at which a match may start, apart from the first: with a plain start or
none but the least width to go by, as many as the text and that width allow. -/
def Compiled.lastStart (pattern : Compiled) (size : Nat) : Nat :=
  if pattern.root.startsPlain.1 || (pattern.root.startTest? pattern.ascii).isSome then size
  else size - (pattern.least - 1)

def Compiled.mayStart (pattern : Compiled) (subject : Array Char) (position : Nat) : Bool :=
  pattern.least = 0 || pattern.root.startsPlain.1 ||
    match pattern.root.startTest? pattern.ascii with
    | some test => subject[position]?.any test.accepts
    | none => true

/-! ### Searching -/

/-- A match: where it starts, where it ends, and the marks of its groups. -/
structure Found where
  start : Nat
  finish : Nat
  final : State

def Compiled.matchAt? (pattern : Compiled) (subject : Array Char) (position : Nat) : Option Found :=
  if pattern.mayStart subject position then
    match pattern.root.run subject false .other position { pointer := position, marks := [] }
        Rest.none with
    | .ok final => some { start := position, finish := final.pointer, final }
    | .error _ => none
  else none

/-- The first match that starts at a position or later; `remaining` positions are left to try. -/
def searchFrom (subject : Array Char) (pattern : Compiled) : Nat → Nat → Option Found
  | position, remaining =>
    match pattern.matchAt? subject position with
    | some found => some found
    | none =>
      match remaining with
      | 0 => none
      | remaining + 1 => searchFrom subject pattern (position + 1) remaining

/-- The leftmost match in a text. -/
def Compiled.search (pattern : Compiled) (subject : Array Char) : Option Found :=
  if subject.size < pattern.least then none
  else searchFrom subject pattern 0 (pattern.lastStart subject.size)

/-- A group of a match was left before the place where it was last entered. -/
structure TornGroup where

/-- What is said of it. -/
def TornGroup.message (_ : TornGroup) : String :=
  "The span of capturing group is wrong, please report a bug for the re module."

def Found.isTorn (found : Found) (pattern : Compiled) : Bool :=
  (List.range pattern.groupCount).any fun index =>
    (found.final.marks? (index + 1)).any fun span => span.2 < span.1

/-- The leftmost match in a text, whose groups must not be torn. -/
def Compiled.find (pattern : Compiled) (subject : Array Char) : Except TornGroup (Option Found) :=
  match pattern.search subject with
  | some found => if found.isTorn pattern then .error {} else .ok (some found)
  | none => .ok none

def slice (subject : Array Char) (first last : Nat) : String :=
  String.ofList (subject.extract first last).toList

def Found.text (found : Found) (subject : Array Char) : String :=
  slice subject found.start found.finish

/-- The text of a group; a group that took no part in the match holds the empty text. -/
def Found.group (found : Found) (subject : Array Char) (index : Nat) : String :=
  match found.final.span? index with
  | some (first, last) => slice subject first last
  | none => ""

end PromptChain.Regex
