/-
**JSON values.**

Objects keep their fields in the order in which they were written. A field may be written twice;
`Json.settled` leaves it in its first place with its last value.
-/

import PromptChain.Assoc

namespace PromptChain

/-- A value. -/
inductive Json where
  | null
  | bool (value : Bool)
  | int (value : Int)
  | float (value : Float)
  | str (value : String)
  /-- A string with half of a surrogate pair in it, which is no text. -/
  | brokenStr
  | arr (items : List Json)
  | obj (fields : List (String × Json))

namespace Json

/-! ### Repeated fields -/

mutual

/-- A value in which every field stands once: in its first place, with its last value. -/
def settled : Json → Json
  | .arr items => .arr (settledItems items)
  | .obj fields => .obj (settledFields [] fields)
  | value => value

/-- Items in which every field stands once. -/
def settledItems : List Json → List Json
  | [] => []
  | item :: rest => settled item :: settledItems rest

/-- Sets further fields, each once. -/
def settledFields (before : Assoc Json) : List (String × Json) → Assoc Json
  | [] => before
  | (key, value) :: rest => settledFields (Assoc.set before key (settled value)) rest

end

/-! ### Depth -/

mutual

/-- How many arrays and objects that are not empty stand in one another. -/
def depth : Json → Nat
  | .arr [] | .obj [] => 0
  | .arr items => depthOfItems items + 1
  | .obj fields => depthOfFields fields + 1
  | _ => 0

/-- The depth of the deepest item. -/
def depthOfItems : List Json → Nat
  | [] => 0
  | item :: rest => max (depth item) (depthOfItems rest)

/-- The depth of the deepest field. -/
def depthOfFields : List (String × Json) → Nat
  | [] => 0
  | (_, value) :: rest => max (depth value) (depthOfFields rest)

end

end Json

/-- The value of a field. -/
def Json.field? (value : Json) (key : String) : Option Json :=
  match value with
  | .obj fields => Assoc.get? fields key
  | _ => none

end PromptChain
