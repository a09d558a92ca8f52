/-
**Numbers in sequence.**

The numbers from a first to a last one by a step are worked out as whole numbers over a power of ten, so that
no digit gets lost (`Bound`).
-/

import PromptChain.Shell.Format
import PromptChain.Shell.Tools.Inputs

namespace PromptChain.Shell.Tools.Sequence

/-- A number that bounds a sequence, over a power of ten. -/
structure Bound where
  value : Int
  /-- How many places it has. -/
  places : Nat
  /-- How wide it is written. -/
  width : Nat

/-- The number that a text stands for. -/
def bound? (text : Raw) : Option Bound :=
  let text := text.dropWhile isSpaceChar
  (decimalOf? text).map fun (value, places) =>
    { value, places, width := text.length - if text.head? == some '+' then 1 else 0 }

/-- The numbers from one to another by a step, all over the same power of ten. -/
def numbersFrom (last step : Int) : Nat → Int → List Int
  | 0, _ => []
  | fuel + 1, value =>
    if (0 < step && last < value) || (step < 0 && value < last) then []
    else value :: numbersFrom last step fuel (value + step)

/-- The numbers of a sequence over a power of ten, with that power. -/
def numbersOf (first step last : Bound) : List Int × Nat :=
  let scale := max (max first.places step.places) last.places
  let scaled (bound : Bound) : Int := bound.value * Nat.pow 10 (scale - bound.places)
  let start := scaled first
  let stride := scaled step
  let stop := scaled last
  (numbersFrom stop stride ((stop - start).natAbs / stride.natAbs + 2) start, scale)

/-- How wide the numbers are if all have as many places and the same width. -/
def widthOf (first last : Bound) (places : Nat) : Nat :=
  let own (bound : Bound) : Nat :=
    bound.width + places - bound.places + (if bound.places == 0 && places != 0 then 1 else 0)
      - (if bound.places != 0 && places == 0 then 1 else 0)
  max (own first) (own last)

/-- The options of `seq`. -/
def grammar : Grammar where
  tool := "seq"
  letters := "s:w"
  strict := true

/-- Is it a number below zero? -/
def isNegative (argument : Raw) : Bool :=
  match argument with
  | '-' :: c :: _ => c == '.' || c.isDigit
  | _ => false

/-- The arguments with a mark that ends the options before a number below zero. -/
def withMark : List Raw → List Raw
  | [] => []
  | ['-', '-'] :: rest => ['-', '-'] :: rest
  | ['-', 's'] :: value :: rest => ['-', 's'] :: value :: withMark rest
  | argument :: rest =>
    if isNegative argument then ['-', '-'] :: argument :: rest
    else if argument.head? == some '-' then argument :: withMark rest
    else argument :: rest

/-- The tool `seq`. -/
def run (arguments : List Raw) : Run Unit :=
  grammar.run (withMark arguments) fun given =>
    match given.operands with
    | [] => grammar.refuse "missing operand"
    | _ :: _ :: _ :: extra :: _ => grammar.refuse ("extra operand " ++ quotedInText extra)
    | operands =>
      match operands.mapM fun text => (bound? text).elim (Except.error text) Except.ok with
      | .error text => grammar.refuse ("invalid floating point argument: " ++ quotedInText text)
      | .ok bounds =>
        let one : Bound := { value := 1, places := 0, width := 1 }
        let (first, step, last) := match bounds with
          | [last] => (one, one, last)
          | [first, last] => (first, one, last)
          | [first, step, last] => (first, step, last)
          | _ => (one, one, one)
        if step.value == 0 then
          grammar.refuse ("invalid Zero increment value: " ++ quotedInText (operands.getD 1 []))
        else
          let (numbers, scale) := numbersOf first step last
          let places := max first.places step.places
          let width := if given.has 'w' then widthOf first last places else 0
          let shown (number : Int) : Raw :=
            let digits := fixedPlaces number.natAbs scale places
            let sign := if number < 0 then ['-'] else []
            sign ++ List.replicate (width - sign.length - digits.length) '0' ++ digits
          if numbers.isEmpty then pure ()
          else say (Text.joinWith ((given.value? 's').getD ['\n']) (numbers.map shown) ++ ['\n'])

end PromptChain.Shell.Tools.Sequence
