/-
**What can be wrong with a regular expression.**

Each way in which a pattern can be refused is a `Problem`; `Problem.message` is its wording and
`Failure.message` adds the place. Three failures are not places in the pattern but limits of the
notation: a repetition count that is too large or too long, and two alphabets chosen at once.
-/

import PromptChain.Text.Integer
import PromptChain.Text.Lines
import PromptChain.Text.Quoted

namespace PromptChain.Regex

open PromptChain.Text

inductive Problem where
  | escapeAtEnd
  | missing (what : String)
  | unterminatedName (closer : Char)
  | badGroupName (name : String)
  | incompleteEscape (text : String)
  | badEscape (text : String)
  | unknownCharacterName (name : String)
  | octalTooLarge (text : String)
  | openGroupReference
  | lookbehindGroupReference
  | invalidGroupReference (index : Nat)
  | unterminatedSet
  | badRange (first last : String)
  | repeatBoundsSwapped
  | nothingToRepeat
  | multipleRepeat
  | unexpectedEnd
  | unknownGroupName (name : String)
  | unknownExtension (text : String)
  | unterminatedComment
  | unterminatedSubpattern
  | badGroupNumber
  | tooManyBranches
  | flagsNotAtStart
  | redefinedGroup (name : String) (index earlier : Nat)
  | localeFlag
  | alphabetFlagsClash
  | unknownFlag
  | missingFlagEnd
  | missingFlag
  | missingColon
  | globalFlagOn
  | globalFlagOff
  | alphabetFlagOff
  | flagOnAndOff
  | unbalancedParenthesis
  | looksTooFarBehind
  | lookbehindWidth
  | templateRepeat (operator : String)

def Problem.message : Problem → String
  | .escapeAtEnd => "bad escape (end of pattern)"
  | .missing what => "missing " ++ what
  | .unterminatedName closer => "missing " ++ String.singleton closer ++ ", unterminated name"
  | .badGroupName name => "bad character in group name " ++ quoted name
  | .incompleteEscape text => "incomplete escape " ++ text
  | .badEscape text => "bad escape " ++ text
  | .unknownCharacterName name => "undefined character name " ++ quoted name
  | .octalTooLarge text => "octal escape value " ++ text ++ " outside of range 0-0o377"
  | .openGroupReference => "cannot refer to an open group"
  | .lookbehindGroupReference => "cannot refer to group defined in the same lookbehind subpattern"
  | .invalidGroupReference index => "invalid group reference " ++ toString index
  | .unterminatedSet => "unterminated character set"
  | .badRange first last => "bad character range " ++ first ++ "-" ++ last
  | .repeatBoundsSwapped => "min repeat greater than max repeat"
  | .nothingToRepeat => "nothing to repeat"
  | .multipleRepeat => "multiple repeat"
  | .unexpectedEnd => "unexpected end of pattern"
  | .unknownGroupName name => "unknown group name " ++ quoted name
  | .unknownExtension text => "unknown extension ?" ++ text
  | .unterminatedComment => "missing ), unterminated comment"
  | .unterminatedSubpattern => "missing ), unterminated subpattern"
  | .badGroupNumber => "bad group number"
  | .tooManyBranches => "conditional backref with more than two branches"
  | .flagsNotAtStart => "global flags not at the start of the expression"
  | .redefinedGroup name index earlier =>
    "redefinition of group name " ++ quoted name ++ " as group " ++ toString index
      ++ "; was group " ++ toString earlier
  | .localeFlag => "bad inline flags: cannot use 'L' flag with a str pattern"
  | .alphabetFlagsClash => "bad inline flags: flags 'a', 'u' and 'L' are incompatible"
  | .unknownFlag => "unknown flag"
  | .missingFlagEnd => "missing -, : or )"
  | .missingFlag => "missing flag"
  | .missingColon => "missing :"
  | .globalFlagOn => "bad inline flags: cannot turn on global flag"
  | .globalFlagOff => "bad inline flags: cannot turn off global flag"
  | .alphabetFlagOff => "bad inline flags: cannot turn off flags 'a', 'u' and 'L'"
  | .flagOnAndOff => "bad inline flags: flag turned on and off"
  | .unbalancedParenthesis => "unbalanced parenthesis"
  | .looksTooFarBehind => "looks too much behind"
  | .lookbehindWidth => "look-behind requires fixed-width pattern"
  | .templateRepeat operator => "internal: unsupported template operator " ++ operator

inductive Failure where
  /-- The pattern is malformed, at a place if the problem has one. -/
  | malformed (problem : Problem) (position : Option Nat)
  /-- A repetition count exceeds what can be counted. -/
  | repetitionTooLarge
  /-- A repetition count has more digits than are read. -/
  | repetitionTooLong (digits : Nat)
  /-- The pattern chooses two alphabets for itself. -/
  | alphabetsClash

/-- The wording of a failure, with the place in the pattern; a pattern of several lines also has the
line and column of the place. -/
def Failure.message (pattern : String) : Failure → String
  | .malformed problem none => problem.message
  | .malformed problem (some position) =>
    let place := problem.message ++ " at position " ++ toString position
    if pattern.toList.contains '\n' then
      let (line, column) := lineAndColumn pattern.toList position
      place ++ " (line " ++ toString line ++ ", column " ++ toString column ++ ")"
    else place
  | .repetitionTooLarge => "the repetition number is too large"
  | .repetitionTooLong digits => tooManyDigits digits
  | .alphabetsClash => "ASCII and UNICODE flags are incompatible"

end PromptChain.Regex
