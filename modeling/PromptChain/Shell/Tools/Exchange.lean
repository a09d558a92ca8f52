/-
**Exchanging bytes.**

Two sets of bytes are given as they are written, with ranges and classes (`readSet`). Each byte of the first one
becomes the byte of the second one at its place; or bytes are deleted, or put together where they repeat.
-/

import PromptChain.Shell.Format
import PromptChain.Shell.Tools.Inputs

namespace PromptChain.Shell.Tools.Exchange

/-! ### Sets -/

/-- A byte of a set as it is written, and whether a backslash stood before it. -/
structure Sign where
  char : Char
  escaped : Bool := false
deriving DecidableEq

/-- A part of a set. -/
inductive Item where
  | one (c : Char)
  | span (first last : Char)
  | named (name : String)

/-- The bytes of a text with their escapes. -/
def signsFrom : Nat → Raw → List Sign
  | 0, _ => []
  | _ + 1, [] => []
  | fuel + 1, '\\' :: c :: rest =>
    let digits := ((c :: rest).take 3).takeWhile isOctal
    if !digits.isEmpty then
      let taken := if 255 < Arithmetic.ofDigits 8 digits then digits.take 2 else digits
      ⟨octalByte taken, true⟩ :: signsFrom fuel ((c :: rest).drop taken.length)
    else ⟨(letterEscape? c).getD c, true⟩ :: signsFrom fuel rest
  | fuel + 1, c :: rest => ⟨c, false⟩ :: signsFrom fuel rest

/-- The name of a class up to the brackets that end it, and what follows. -/
def takeNamed? : List Sign → Option (Raw × List Sign)
  | first :: second :: rest =>
    if first == ⟨':', false⟩ && second == ⟨']', false⟩ then some ([], rest)
    else (takeNamed? (second :: rest)).map fun (name, after) => (first.char :: name, after)
  | _ => none

/-- A byte as complaints show it. -/
def shownByte (c : Char) : Raw :=
  if ' ' ≤ c && c < '\x7f' then [c]
  else
    let digits := Nat.toDigits 8 c.toNat
    '\\' :: List.replicate (3 - digits.length) '0' ++ digits

/-- The parts that bytes make, with fuel for them. -/
def readItems : Nat → List Sign → Except Raw (List Item)
  | 0, _ => .ok []
  | fuel + 1, signs =>
    match signs with
    | first :: second :: third :: rest =>
      let plain : Except Raw (List Item) :=
        if second == ⟨'-', false⟩ then
          if third.char < first.char then
            .error ("range-endpoints of '" ++ shownByte first.char ++ '-' :: shownByte third.char
              ++ "' are in reverse collating sequence order")
          else do pure (.span first.char third.char :: (← readItems fuel rest))
        else do pure (.one first.char :: (← readItems fuel (second :: third :: rest)))
      if first == ⟨'[', false⟩ && second == ⟨':', false⟩ then
        match takeNamed? (third :: rest) with
        | none => plain
        | some ([], _) => .error "missing character class name '[::]'"
        | some (name, after) =>
          if (inClass? (String.ofList name) 'a').isSome then do
            pure (.named (String.ofList name) :: (← readItems fuel after))
          else .error ("invalid character class " ++ quotedInText name)
      else plain
    | _ => .ok (signs.map fun sign => .one sign.char)

/-- All bytes in their order. -/
def allBytes : List Char := (List.range 256).map Char.ofNat

/-- The bytes of a part. -/
def Item.members : Item → List Char
  | one c => [c]
  | span first last =>
    (List.range (last.toNat + 1 - first.toNat)).map fun offset => Char.ofNat (first.toNat + offset)
  | named name => allBytes.filter fun c => (inClass? name c).getD false

/-- The bytes of a set. -/
def membersOf (items : List Item) : List Char := items.flatMap Item.members

/-! ### Exchanges -/

/-- What is asked for. -/
structure Job where
  delete : Bool := false
  squeeze : Bool := false
  complement : Bool := false

/-- A set with as many bytes as another: the last byte repeats. -/
def extended (length : Nat) (items : List Item) : Except Raw (List Item) :=
  let own := (membersOf items).length
  if length ≤ own then .ok items
  else
    match items.getLast? with
    | none => .error "when not truncating set1, string2 must be non-empty"
    | some (.named _) =>
      .error ("when translating with string1 longer than string2,\n"
        ++ "the latter string must not end with a character class").toList
    | some item => .ok (items ++ List.replicate (length - own) (.one (item.members.getLast?.getD ' ')))

/-- The table of an exchange, the entries that count first. -/
def tableOf (changed : List Char) (second : List Item) : Except Raw (List (Char × Char)) := do
  let isOdd (item : Item) : Bool := match item with
    | .named name => name != "upper" && name != "lower"
    | _ => false
  if second.any isOdd then
    throw ("when translating, the only character classes that may appear in\n"
      ++ "string2 are 'upper' and 'lower'").toList
  let full ← extended changed.length second
  pure (changed.zip (membersOf full)).reverse

/-- Drops bytes of a set that repeat the one before. -/
def squeezed (members : List Char) (text : Raw) : Raw :=
  (text.foldl (fun done c => if done.head? == some c && members.contains c then done else c :: done) []).reverse

/-- What is done to the input, or why it cannot be. -/
def plan (job : Job) (first : List Item) (second : Option (List Item)) : Except Raw (Raw → Raw) := do
  let members := membersOf first
  let chosen := if job.complement then allBytes.filter fun c => !members.contains c else members
  match second, job.delete with
  | none, true => pure fun text => text.filter fun c => !chosen.contains c
  | none, false => pure (squeezed chosen)
  | some second, true =>
    pure fun text => squeezed (membersOf second) (text.filter fun c => !chosen.contains c)
  | some second, false => do
    let table ← tableOf chosen second
    let values := allBytes.toArray.map fun c => (table.lookup c).getD c
    let change (text : Raw) : Raw := text.map fun c => values.getD c.toNat c
    pure fun text => if job.squeeze then squeezed (membersOf second) (change text) else change text

/-- The options of `tr`. -/
def grammar : Grammar where
  tool := "tr"
  letters := "cCds"
  strict := true

/-- What is wrong with the number of operands. -/
def operandProblem? (job : Job) (operands : List Raw) : Option Raw :=
  let least := if job.delete == job.squeeze then 2 else 1
  let most := if job.delete && !job.squeeze then 1 else 2
  if operands.length < least then
    match operands.getLast? with
    | none => some "missing operand"
    | some last =>
      some ("missing operand after " ++ quotedInText last
        ++ (if job.squeeze then "\nTwo strings must be given when both deleting and squeezing repeats."
          else "\nTwo strings must be given when translating.").toList)
  else if most < operands.length then
    some ("extra operand " ++ quotedInText (operands.getD most [])
      ++ (if operands.length == 2 then "\nOnly one string may be given when deleting without squeezing repeats."
        else "").toList)
  else none

/-- The set that a text describes. -/
def readSet (text : Raw) : Except Raw (List Item) :=
  readItems (text.length + 1) (signsFrom (text.length + 1) text)

/-- The tool `tr`. -/
def run (arguments : List Raw) : Run Unit :=
  grammar.run arguments fun given => do
    let job : Job :=
      { delete := given.has 'd', squeeze := given.has 's', complement := given.has 'c' || given.has 'C' }
    match operandProblem? job given.operands, given.operands with
    | some problem, _ => grammar.refuse problem
    | none, [] => pure ()
    | none, firstText :: rest =>
      let change : Except Raw (Raw → Raw) := do
        let first ← readSet firstText
        plan job first (← rest.head?.mapM readSet)
      match change with
      | .error problem => fails "tr" problem
      | .ok change => say (change (← takeInput))

end PromptChain.Shell.Tools.Exchange
