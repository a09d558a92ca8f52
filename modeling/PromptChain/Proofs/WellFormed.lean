/-
**Well-formed units.**

A unit is well formed when every part of it can be written in a source: its names are names, its
patterns and commands hold nothing that would end them early, its metadata has known keys and closed
backticks (`PromptUnit.WellFormed`). Two units have the same content when they differ only in the
places at which they stand and in the order of their metadata (`SameContent`).
-/

import Mathlib.Algebra.Group.Even
import PromptChain.Source.Units

namespace PromptChain

open Source

/-- A name of a unit: letters, digits and low lines, at least one. -/
def IsName (text : List Char) : Prop := text ≠ [] ∧ ∀ c ∈ text, isExportChar c = true

instance (text : List Char) : Decidable (IsName text) :=
  decidable_of_iff (text ≠ [] ∧ text.all isExportChar = true) (by rw [IsName, List.all_eq_true])

/-- The name of a variable that is matched: one that does not start with a digit. -/
def IsSubject (text : List Char) : Prop :=
  (∃ c ∈ text.head?, isExportStart c = true) ∧ ∀ c ∈ text, isExportChar c = true

/-- What may stand between the slashes of a regular expression: a backslash takes the next character
with it, and all of it stands on one line. -/
def isSlashBody : List Char → Bool
  | [] => true
  | '\\' :: c :: rest => c != '\n' && isSlashBody rest
  | c :: rest => c != '/' && c != '\\' && c != '\n' && isSlashBody rest

/-- A regular expression in parentheses: it stands on one line, and no parenthesis closes it before
its end. -/
structure IsParenSource (source : List Char) : Prop where
  delimited : ∃ inner, source = '(' :: (inner ++ [')'])
  flat : '\n' ∉ source
  unclosed : ∀ before after, source = before ++ ')' :: after → arrowFollows after = false

/-- A command that can stand between backticks. -/
def IsCommand (command : List Char) : Prop := '\x60' ∉ command

instance (command : List Char) : Decidable (IsCommand command) :=
  inferInstanceAs (Decidable (_ ∉ _))

/-- A pattern that can be written and used. -/
def Pattern.WellFormed : Pattern → Prop
  | .literal _ _ => True
  | .regex source flags .paren =>
    IsParenSource source.toList ∧ flags = "" ∧ (Pattern.regex source flags .paren).failure?.isNone
  | .regex source flags .slash =>
    source.toList ≠ [] ∧ isSlashBody source.toList = true ∧
      (∀ c ∈ flags.toList, isFlagLetter c = true) ∧
      (Pattern.regex source flags .slash).failure?.isNone

/-- Names of units to call, at least one. -/
def AreTargets (targets : List String) : Prop :=
  targets ≠ [] ∧ ∀ target ∈ targets, IsName target.toList

instance (targets : List String) : Decidable (AreTargets targets) :=
  inferInstanceAs (Decidable (_ ∧ _))

/-- An action that can be written. -/
def Action.WellFormed : Action → Prop
  | .shell command => IsCommand command.toList
  | .call targets => AreTargets targets
  | .pipe command targets => IsCommand command.toList ∧ AreTargets targets

instance : (action : Action) → Decidable action.WellFormed
  | .shell command => inferInstanceAs (Decidable (IsCommand command.toList))
  | .call targets => inferInstanceAs (Decidable (AreTargets targets))
  | .pipe command targets =>
    inferInstanceAs (Decidable (IsCommand command.toList ∧ AreTargets targets))

/-- A unit that can be written. -/
structure PromptUnit.WellFormed (unit : PromptUnit) : Prop where
  name : IsName unit.name.toList
  subject : IsSubject unit.subject.toList
  someEntry : unit.entries ≠ []
  known : ∀ entry ∈ unit.entries, entry.key ∈ metadataKeys
  distinct : (unit.entries.map MetaEntry.key).Nodup
  /-- Every backtick is closed. -/
  closed : ∀ entry ∈ unit.entries, Even (entry.text.toList.count '\x60')
  someArm : unit.arms ≠ []
  patterns : ∀ arm ∈ unit.arms, arm.pattern.WellFormed
  actions : ∀ arm ∈ unit.arms, arm.action.WellFormed

/-- Being well formed does not depend on checked metadata. -/
theorem PromptUnit.WellFormed.setMetadata {unit : PromptUnit} (wellFormed : unit.WellFormed)
    (metadata : Option Metadata) : { unit with metadata := metadata }.WellFormed :=
  ⟨wellFormed.name, wellFormed.subject, wellFormed.someEntry, wellFormed.known, wellFormed.distinct,
    wellFormed.closed, wellFormed.someArm, wellFormed.patterns, wellFormed.actions⟩

/-- The commands of an action. -/
def Action.commands : Action → List String
  | .shell command | .pipe command _ => [command]
  | .call _ => []

/-- A unit whose metadata texts and commands hold no carriage return. -/
structure PromptUnit.ReturnFree (unit : PromptUnit) : Prop where
  texts : ∀ entry ∈ unit.entries, '\r' ∉ entry.text.toList
  commands : ∀ arm ∈ unit.arms, ∀ command ∈ arm.action.commands, '\r' ∉ command.toList

/-- The metadata of a unit as keys with their texts. -/
def PromptUnit.keyTexts (unit : PromptUnit) : List (String × String) :=
  unit.entries.map fun entry => (entry.key, entry.text)

/-- The arms of a unit without their places. -/
def PromptUnit.rules (unit : PromptUnit) : List (Pattern × Action) :=
  unit.arms.map fun arm => (arm.pattern, arm.action)

/-- Two units that differ only in places and in the order of their metadata. -/
structure SameContent (unit other : PromptUnit) : Prop where
  name : other.name = unit.name
  entries : other.keyTexts.Perm unit.keyTexts
  subject : other.subject = unit.subject
  rules : other.rules = unit.rules

end PromptChain
