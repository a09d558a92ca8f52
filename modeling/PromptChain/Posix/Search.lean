/-
**Searching patterns.**

A pattern leads from a place in a line to others (`Pattern.run`): the ones that it prefers come first, and
none comes twice. A match starts as early as possible and is then as long as possible; of the ways to it, the
preferred one says what the groups are (`search?`).
-/

import PromptChain.Posix.Reader

namespace PromptChain.Posix

open Shell (Raw)

/-- A place in a line, and what the groups have matched on the way to it. -/
structure Place where
  position : Nat
  groups : List (Nat × Nat × Nat) := []
deriving DecidableEq

/-- A line with what is before it counted as no letter. -/
structure Subject where
  letters : Array Letter
  ignoreCase : Bool := false
  /-- Whether a line end starts and ends lines inside. -/
  severalLines : Bool := false

/-! ### Letters -/

def Member.holds (c : Char) : Member → Bool
  | range first last => first ≤ c && c ≤ last
  | named name => inClass name c

def inAnyCase (ignoreCase : Bool) (test : Char → Bool) (c : Char) : Bool :=
  test c || (ignoreCase && (test (lowerOf c) || test (upperOf c)))

def sameLetter (ignoreCase : Bool) (first second : Letter) : Bool :=
  first == second
    || match first, second with
      | .char c, .char d => ignoreCase && lowerOf c == lowerOf d
      | _, _ => false

def isWordAt (subject : Subject) (position : Nat) : Bool :=
  match subject.letters[position]? with
  | some (.char c) => isWordChar c
  | _ => false

def Anchor.holds (subject : Subject) (position : Nat) : Anchor → Bool :=
  let before := decide (0 < position) && isWordAt subject (position - 1)
  let after := isWordAt subject position
  fun anchor =>
    match anchor with
    | .start =>
      position == 0 || (subject.severalLines && subject.letters[position - 1]? == some (.char '\n'))
    | .finish =>
      position == subject.letters.size
        || (subject.severalLines && subject.letters[position]? == some (.char '\n'))
    | .textStart => position == 0
    | .textEnd => position == subject.letters.size
    | .wordStart => !before && after
    | .wordEnd => before && !after
    | .boundary => before != after
    | .inside => before == after

/-! ### Ways -/

/-- A list in which each place stands only where it came first. -/
def distinct (places : List Place) : List Place := places.eraseDups

/-- The places that steps lead to, the farthest ways first, with those already seen; with fuel for the steps. -/
def repeatAll (step : Place → List Place) : Nat → List Place × List Place → Place → List Place × List Place
  | 0, found, _ => found
  | fuel + 1, (ordered, seen), place =>
    if seen.contains place then (ordered, seen)
    else
      let next := (step place).filter fun after => after.position != place.position
      let (ordered, seen) := next.foldl (repeatAll step fuel) (ordered, place :: seen)
      (ordered ++ [place], seen)

/-- The places that at most a number of steps lead to, the farthest ways first. -/
def repeatAtMost (step : Place → List Place) : Nat → Place → List Place
  | 0, place => [place]
  | count + 1, place =>
    let next := (step place).filter fun after => after.position != place.position
    distinct (next.flatMap (repeatAtMost step count) ++ [place])

def repeatExactly (step : Place → List Place) : Nat → List Place → List Place
  | 0, places => places
  | count + 1, places => repeatExactly step count (distinct (places.flatMap step))

/-- The places that a pattern leads to, the preferred ones first. -/
def Pattern.run (subject : Subject) : Pattern → Place → List Place
  | .empty, place => [place]
  | .letter own, place =>
    match subject.letters[place.position]? with
    | some there =>
      if sameLetter subject.ignoreCase own there then [{ place with position := place.position + 1 }] else []
    | none => []
  | .any, place =>
    match subject.letters[place.position]? with
    | some (.char _) => [{ place with position := place.position + 1 }]
    | _ => []
  | .set inverted members, place =>
    match subject.letters[place.position]? with
    | some (.char c) =>
      if inAnyCase subject.ignoreCase (fun c => members.any (Member.holds c)) c != inverted then
        [{ place with position := place.position + 1 }]
      else []
    | _ => []
  | .anchor wanted, place => if wanted.holds subject place.position then [place] else []
  | .group index inner, place =>
    (inner.run subject place).map fun after =>
      { after with
        groups := (index, place.position, after.position) :: after.groups.filter fun entry => entry.1 != index }
  | .again index, place =>
    match place.groups.lookup index with
    | none => []
    | some (start, finish) =>
      let own := (subject.letters.extract start finish).toList
      let there := (subject.letters.extract place.position (place.position + own.length)).toList
      let same := own.length == there.length
        && (own.zip there).all fun (first, second) => sameLetter subject.ignoreCase first second
      if same then [{ place with position := place.position + own.length }] else []
  | .repeated least most inner, place =>
    let step := inner.run subject
    let first := repeatExactly step least [place]
    match most with
    | some most => distinct (first.flatMap (repeatAtMost step (most - least)))
    | none => (first.foldl (repeatAll step (subject.letters.size + 2)) ([], [])).1
  | .both first second, place => distinct ((first.run subject place).flatMap (second.run subject))
  | .either first second, place => distinct (first.run subject place ++ second.run subject place)

structure Match where
  start : Nat
  finish : Nat
  groups : List (Nat × Nat × Nat)

def matchAt? (subject : Subject) (pattern : Pattern) (start : Nat) : Option Match :=
  let places := pattern.run subject { position := start }
  places.foldl (fun best place =>
    match best with
    | some found => if found.finish < place.position then some ⟨start, place.position, place.groups⟩ else best
    | none => some ⟨start, place.position, place.groups⟩) none

def Subject.slice (subject : Subject) (start finish : Nat) : Raw :=
  rawOf (subject.letters.extract start finish).toList

/-- The bytes of a group; the whole match has the number zero. -/
def Match.group (found : Match) (subject : Subject) (index : Nat) : Raw :=
  if index = 0 then subject.slice found.start found.finish
  else
    match found.groups.lookup index with
    | some (start, finish) => subject.slice start finish
    | none => []

end PromptChain.Posix
