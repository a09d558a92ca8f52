/-
**What can be wrong with the shape of a value.**

An `Issue` is a reason why a value does not have the shape that is asked for, and a `Problem` is an
issue with the way to the part of the value that has it.
-/

namespace PromptChain.Shape

/-- A step from a value to one of its parts. -/
inductive Step where
  | field (name : String)
  | item (index : Nat)
deriving DecidableEq

inductive Issue where
  | missing
  | notText
  /-- A text with half of a surrogate pair in it. -/
  | brokenText
  | notNumber
  | noNumberInText
  | notInteger
  | noIntegerInText
  | tooManyDigits
  | fractional
  | notFinite
  | aboveMost (most : Nat)
  | belowLeast (least : Nat)
  | notAbove (bound : Nat)
  | notList
  | notTuple
  | notMap
  /-- No record of a type. -/
  | notRecord (type : String)
  /-- No value of a type that is written as a map. -/
  | notValueOf (type : String)
  | notOneOf (choices : List String)
  /-- A rule of the field itself is broken. -/
  | rule (text : String)
deriving DecidableEq

structure Problem where
  path : List Step
  issue : Issue
deriving DecidableEq

/-- Choices in quotes, with "or" before the last. -/
def listChoices : List String → String
  | [] => ""
  | [only] => "'" ++ only ++ "'"
  | [first, last] => "'" ++ first ++ "' or '" ++ last ++ "'"
  | first :: rest => "'" ++ first ++ "', " ++ listChoices rest

def Issue.code : Issue → String
  | missing => "missing"
  | notText => "string_type"
  | brokenText => "string_unicode"
  | notNumber => "float_type"
  | noNumberInText => "float_parsing"
  | notInteger => "int_type"
  | noIntegerInText => "int_parsing"
  | tooManyDigits => "int_parsing_size"
  | fractional => "int_from_float"
  | notFinite => "finite_number"
  | aboveMost _ => "less_than_equal"
  | belowLeast _ => "greater_than_equal"
  | notAbove _ => "greater_than"
  | notList => "list_type"
  | notTuple => "tuple_type"
  | notMap => "dict_type"
  | notRecord _ => "model_type"
  | notValueOf _ => "dataclass_type"
  | notOneOf _ => "enum"
  | rule _ => "value_error"

def Issue.message : Issue → String
  | missing => "Field required"
  | notText => "Input should be a valid string"
  | brokenText => "Input should be a valid string, unable to parse raw data as a unicode string"
  | notNumber => "Input should be a valid number"
  | noNumberInText => "Input should be a valid number, unable to parse string as a number"
  | notInteger => "Input should be a valid integer"
  | noIntegerInText => "Input should be a valid integer, unable to parse string as an integer"
  | tooManyDigits => "Unable to parse input string as an integer, exceeded maximum size"
  | fractional => "Input should be a valid integer, got a number with a fractional part"
  | notFinite => "Input should be a finite number"
  | aboveMost most => "Input should be less than or equal to " ++ toString most
  | belowLeast least => "Input should be greater than or equal to " ++ toString least
  | notAbove bound => "Input should be greater than " ++ toString bound
  | notList => "Input should be a valid list"
  | notTuple => "Input should be a valid tuple"
  | notMap => "Input should be a valid dictionary"
  | notRecord type => "Input should be a valid dictionary or instance of " ++ type
  | notValueOf type => "Input should be a dictionary or an instance of " ++ type
  | notOneOf choices => "Input should be " ++ listChoices choices
  | rule text => "Value error, " ++ text

def Step.text : Step → String
  | field name => name
  | item index => toString index

/-- A problem on one line: the path with points, and the wording. -/
def Problem.text (problem : Problem) : String :=
  String.intercalate "." (problem.path.map Step.text) ++ ": " ++ problem.issue.message

end PromptChain.Shape
