/-
**Reading records from values.**

A reader takes a value to what it stands for, or to all the problems with its shape, in order
(`Checked`). Readers of parts are put together with `Checked.with`, which gathers the problems of
both sides.
-/

import PromptChain.Decimal.Shortest
import PromptChain.Json.Basic
import PromptChain.Shape.Issue
import PromptChain.Shape.Number

namespace PromptChain.Shape

abbrev Checked (α : Type) := Except (List Problem) α

abbrev Reader (α : Type) := Json → Checked α

def refuse {α : Type} (issue : Issue) : Checked α := .error [⟨[], issue⟩]

/-- Gives a function its next argument; the problems of both sides are gathered. -/
def Checked.with {α β : Type} (function : Checked (α → β)) (argument : Checked α) : Checked β :=
  match function, argument with
  | .ok f, .ok a => .ok (f a)
  | .ok _, .error problems => .error problems
  | .error problems, .ok _ => .error problems
  | .error first, .error second => .error (first ++ second)

def within (step : Step) (problems : List Problem) : List Problem :=
  problems.map fun problem => { problem with path := step :: problem.path }

/-- Says that what is checked is a part of a value. -/
def Checked.within {α : Type} (step : Step) : Checked α → Checked α
  | .ok value => .ok value
  | .error problems => .error (Shape.within step problems)

/-! ### Plain values -/

def text : Reader String
  | .str value => .ok value
  | .brokenStr => refuse .brokenText
  | _ => refuse .notText

def nullable {α : Type} (reader : Reader α) : Reader (Option α)
  | .null => .ok none
  | value =>
    match reader value with
    | .ok a => .ok (some a)
    | .error problems => .error problems

/-- The double nearest to a whole number. -/
def floatOfInt (value : Int) : Float := Decimal.nearest (value < 0) ⟨value.natAbs, 0⟩

def float : Reader Float
  | .float value => .ok value
  | .int value => .ok (floatOfInt value)
  | .bool value => .ok (if value then 1.0 else 0.0)
  | .str value =>
    match floatOf? value with
    | some result => .ok result
    | none => refuse .noNumberInText
  | _ => refuse .notNumber

/-- Reads a number; a whole number must not be too large for a double. -/
def boundedFloat : Reader Float
  | .int value => if (floatOfInt value).isInf then refuse .notNumber else .ok (floatOfInt value)
  | value => float value

/-- The whole number that a double is; none if it has a fraction. -/
def wholeOf? (value : Float) : Option Int :=
  match Decimal.magnitudeOf value with
  | .finite binary =>
    let sign : Int := if Decimal.isNegative value then -1 else 1
    if 0 ≤ binary.exponent then some (sign * (binary.mantissa * Nat.pow 2 binary.exponent.toNat : Nat))
    else
      let unit := Nat.pow 2 binary.exponent.natAbs
      if binary.mantissa % unit = 0 then some (sign * (binary.mantissa / unit : Nat)) else none
  | .zero => some 0
  | _ => none

/-- A double is taken for a whole number only below this. -/
def wholeLimit : Nat := Nat.pow 2 63

def int : Reader Int
  | .int value => .ok value
  | .bool value => .ok (if value then 1 else 0)
  | .float value =>
    if value.isNaN || value.isInf then refuse .notFinite
    else
      match wholeOf? value with
      | some result => if result.natAbs < wholeLimit then .ok result else refuse .tooManyDigits
      | none => refuse .fractional
  | .str value =>
    match wholeOfText value with
    | .number result => .ok result
    | .tooLong => refuse .tooManyDigits
    | .noNumber => refuse .noIntegerInText
  | _ => refuse .notInteger

/-! ### Rules on numbers -/

def ensuring {α : Type} (reader : Reader α) (rule : α → Option Issue) : Reader α := fun value =>
  match reader value with
  | .error problems => .error problems
  | .ok result =>
    match rule result with
    | none => .ok result
    | some issue => refuse issue

/-! ### Collections -/

def itemsFrom {α : Type} (reader : Reader α) (index : Nat) : List Json → Checked (List α)
  | [] => .ok []
  | item :: rest =>
    Checked.with (Checked.with (.ok List.cons) (Checked.within (.item index) (reader item)))
      (itemsFrom reader (index + 1) rest)

def list {α : Type} (reader : Reader α) : Reader (List α)
  | .arr items => itemsFrom reader 0 items
  | _ => refuse .notList

def valuesOf {α : Type} (reader : Reader α) : List (String × Json) → Checked (List (String × α))
  | [] => .ok []
  | (key, value) :: rest =>
    Checked.with
      (Checked.with (.ok fun a more => (key, a) :: more) (Checked.within (.field key) (reader value)))
      (valuesOf reader rest)

/-- Reads a map; all values of a key are read, and the last one counts. -/
def map {α : Type} (reader : Reader α) : Reader (Assoc α)
  | .obj fields =>
    match valuesOf reader fields with
    | .ok values => .ok (Assoc.ofPairs values)
    | .error problems => .error problems
  | _ => refuse .notMap

def choice {α : Type} (choices : List α) (name : α → String) : Reader α
  | .str value =>
    match choices.find? fun a => name a == value with
    | some a => .ok a
    | none => refuse (.notOneOf (choices.map name))
  | _ => refuse (.notOneOf (choices.map name))

/-! ### Records -/

def required {α : Type} (reader : Reader α) (fields : List (String × Json)) (key : String) :
    Checked α :=
  match Assoc.get? fields key with
  | some value => Checked.within (.field key) (reader value)
  | none => .error [⟨[.field key], .missing⟩]

/-- Reads a field that has a value of its own when it is not there. -/
def optional {α : Type} (reader : Reader α) (otherwise : α) (fields : List (String × Json))
    (key : String) : Checked α :=
  match Assoc.get? fields key with
  | some value => Checked.within (.field key) (reader value)
  | none => .ok otherwise

/-- Reads the fields of a record; of a field that is there twice only the last value is read. -/
def record {α : Type} (type : String) (reader : List (String × Json) → Checked α) : Reader α
  | .obj fields => reader (Assoc.ofPairs fields)
  | _ => refuse (.notRecord type)

end PromptChain.Shape
