/-
**Matching an answer against arms.**

The first arm whose pattern matches wins (`firstMatch`).
-/

import PromptChain.PromptUnit

namespace PromptChain

/-- An arm that matched, its index, and what it bound. -/
structure Match where
  index : Nat
  arm : Arm
  bindings : Bindings

/-- The first arm that matches, where the first arm has an index. -/
def firstMatchFrom (answer : String) (index : Nat) (arms : List Arm)
    (dialect : Regex.Dialect := .standard) : Except Regex.TornGroup (Option Match) :=
  match arms with
  | [] => .ok none
  | arm :: rest =>
    match arm.pattern.bindings? answer dialect with
    | .error torn => .error torn
    | .ok (some bindings) => .ok (some ⟨index, arm, bindings⟩)
    | .ok none => firstMatchFrom answer (index + 1) rest dialect

/-- The first arm that matches. -/
def firstMatch (answer : String) (arms : List Arm) (dialect : Regex.Dialect := .standard) :
    Except Regex.TornGroup (Option Match) :=
  firstMatchFrom answer 0 arms dialect

def Pattern.kind : Pattern → String
  | .literal _ _ => "literal"
  | .regex _ _ _ => "regex"

end PromptChain
