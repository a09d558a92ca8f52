/-
**Which characters a test accepts.**

A test that ignores case compares lower-case forms. For a single character this is plain
(`singleHolds`). For a set it works on the set of lower-case forms of its members
(`setHolds`): a member given by a range covers a character when some character of the range has
the same lower-case form, or one that shares its upper-case form. A set without any cased member is
compared as it stands. Beyond the first plane a range is compared in both cases, and a single
character of a set only as it stands.
-/

import PromptChain.Text.Blank
import PromptChain.Text.Digits
import PromptChain.Text.LetterCase
import PromptChain.Text.Letters
import PromptChain.Regex.Basic

namespace PromptChain.Regex

open PromptChain.Text

/-- Whether a code point belongs to a class; with `ascii` only the part below 128 counts. -/
def Category.holds (kind : Category) (ascii : Bool) (code : Nat) : Bool :=
  match kind with
  | .digit => isDigitCode code && (!ascii || code < 128)
  | .space =>
    if ascii then code == 0x20 || (0x9 ≤ code && code ≤ 0xd) else isBlankCode code
  | .word => isWordCode code && (!ascii || code < 128)

/-- Whether a member covers a code point, letter case counting. -/
def Member.covers (code : Nat) : Member → Bool
  | .single own => own == code
  | .range first last => first ≤ code && code ≤ last
  | .category kind negated ascii => kind.holds ascii code != negated

/-! ### Lower-case forms under a rule -/

def CaseRule.lower : CaseRule → Nat → Nat
  | .exact, code => code
  | .ascii, code => if code < 128 then lowerCode code else code
  | .unicode, code => lowerCode code

/-- Whether the rule distinguishes two forms of a character. -/
def CaseRule.cased : CaseRule → Nat → Bool
  | .exact, _ => false
  | .ascii, code => code < 128 && isLetterCode code
  | .unicode, code => isCasedCode code

/-- The lower-case characters that a rule takes for equal to a lower-case one, itself first. -/
def CaseRule.equals : CaseRule → Nat → List Nat
  | .unicode, code => code :: companionsOf code
  | _, code => [code]

/-- The code points that a run moves to a given one. -/
def runSource? (image : Nat) (run : CaseRun) : Option Nat :=
  let source := (image - run.offset).toNat
  if run.covers source && (source + run.offset == (image : Int)) then some source else none

/-- All characters with a given lower-case form under a rule. -/
def CaseRule.sources (rule : CaseRule) (code : Nat) : List Nat :=
  let capital := if 0x61 ≤ code && code ≤ 0x7a then [code - 32] else []
  let itself := if rule.lower code == code then [code] else []
  match rule with
  | .exact => [code]
  | .ascii => itself ++ capital
  | .unicode => itself ++ capital ++ lowerRuns.filterMap (runSource? code)

/-! ### Sets under a rule -/

/-- Whether a run moves some code point between two bounds. -/
def runMeets (first last : Nat) (run : CaseRun) : Bool :=
  let low := max first run.first
  let gap := (low - run.first) % run.stride
  let next := if gap == 0 then low else low + (run.stride - gap)
  next ≤ last && next ≤ run.last

/-- Whether some character between two bounds is cased under a rule. -/
def CaseRule.rangeCased (rule : CaseRule) (first last : Nat) : Bool :=
  let basic := (first ≤ 0x5a && 0x41 ≤ last) || (first ≤ 0x7a && 0x61 ≤ last)
  match rule with
  | .exact => false
  | .ascii => basic
  | .unicode => basic || lowerRuns.any (runMeets first last) || upperRuns.any (runMeets first last)

/-- The last code point of the first plane. -/
def planeEnd : Nat := 0xffff

/-- Whether a member makes its set compare lower-case forms. -/
def Member.cased (rule : CaseRule) : Member → Bool
  | .single code => rule.lower code > planeEnd || rule.cased code
  | .range first last => last > planeEnd || rule.rangeCased first last
  | .category _ _ _ => false

/-- Whether a member covers a character, of which the lower-case form is given. -/
def Member.coversLower (rule : CaseRule) (low : Nat) : Member → Bool
  | .single code =>
    if rule.lower code > planeEnd then low == code
    else (rule.equals (rule.lower code)).contains low
  | .range first last =>
    ((rule.equals low).any fun equal =>
      (rule.sources equal).any fun source =>
        first ≤ source && source ≤ last && source ≤ planeEnd)
      || (last > planeEnd
        && ((first ≤ low && low ≤ last) || (first ≤ upperCode low && upperCode low ≤ last)))
  | .category kind negated ascii => kind.holds ascii low != negated

def setHolds (rule : CaseRule) (members : List Member) (code : Nat) : Bool :=
  match rule with
  | .exact => members.any (Member.covers code)
  | _ =>
    if members.any (Member.cased rule) then members.any (Member.coversLower rule (rule.lower code))
    else members.any (Member.covers code)

def singleHolds (rule : CaseRule) (own code : Nat) : Bool :=
  if rule.cased own then (rule.equals (rule.lower own)).contains (rule.lower code)
  else own == code

def CharTest.accepts (test : CharTest) (c : Char) : Bool :=
  match test with
  | .any dotAll => dotAll || c != '\n'
  | .single rule negated code => singleHolds rule code c.toNat != negated
  | .set rule negated members => setHolds rule members c.toNat != negated

end PromptChain.Regex
