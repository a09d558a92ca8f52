/-
**Arguments of a command line.**

A grammar has options and one kind of operands. Each argument is an option, an operand, or the two dashes
behind which all is an operand (`Slot`); options may be written in a shorter way, and with their value
behind an equals sign. Operands are taken once, as many as stand together; what is left over is given
back (`Parsed.extras`).
-/

import PromptChain.Text.Digits
import PromptChain.Text.Quoted

namespace PromptChain.CommandLine

/-! ### Grammars -/

/-- What an option takes. -/
inductive OptionKind where
  | flag
  | value
  | help
deriving DecidableEq

/-- An option, with the ways to write it. -/
structure OptionRule where
  names : List String
  kind : OptionKind
deriving DecidableEq

/-- An option as messages name it. -/
def OptionRule.shown (rule : OptionRule) : String := String.intercalate "/" rule.names

/-- The name of an option among the results: the last way to write it. -/
def OptionRule.key (rule : OptionRule) : String := rule.names.getLast?.getD ""

/-- How many operands there are. -/
inductive Count where
  | one
  | atMostOne
  | atLeastOne
  /-- One, and all that follows, options or not. -/
  | command
deriving DecidableEq

/-- The arguments that a command takes. -/
structure Grammar where
  /-- The name of the command in messages. -/
  program : String
  usage : String
  details : String
  options : List OptionRule
  operand : String
  count : Count
  required : Bool

/-- What is printed if help is asked for. -/
def Grammar.help (grammar : Grammar) : String := grammar.usage ++ "\n" ++ grammar.details

/-- Why reading stops. -/
inductive Stop where
  | help (grammar : Grammar)
  | refused (grammar : Grammar) (message : String)

namespace Grammar

/-- All ways to write options, in order. -/
def spellings (grammar : Grammar) : List (String × OptionRule) :=
  grammar.options.flatMap fun rule => rule.names.map fun name => (name, rule)

/-- The option of a spelling. -/
def option? (grammar : Grammar) (name : String) : Option OptionRule := grammar.spellings.lookup name

end Grammar

/-! ### Slots -/

/-- What an argument is. -/
inductive Slot where
  | operand
  | dashes
  /-- An option as it is spelled, and a text that is given with it. -/
  | option (rule : OptionRule) (name : String) (given : Option String)
  | unknown
deriving DecidableEq

/-- Is it an option, known or not? -/
def Slot.isOption : Slot → Bool
  | .option _ _ _ | .unknown => true
  | _ => false

/-- A text up to an equals sign, and what is behind it. -/
def cutAtEquals (text : String) : String × Option String :=
  let name := text.toList.takeWhile (· != '=')
  match text.toList.drop name.length with
  | _ :: given => (String.ofList name, some (String.ofList given))
  | [] => (text, none)

/-- Whether a text is a negative number, with or without a fraction; one line end may follow. -/
def isNegativeNumber (text : String) : Bool :=
  match text.toList with
  | '-' :: rest =>
    let number := if rest.getLast? == some '\n' then rest.dropLast else rest
    let whole := number.takeWhile fun c => Text.isDigitCode c.toNat
    match number.drop whole.length with
    | [] => !whole.isEmpty
    | '.' :: fraction => !fraction.isEmpty && fraction.all fun c => Text.isDigitCode c.toNat
    | _ => false
  | _ => false

/-- The slots that an argument which is no full spelling can be: with two dashes the options that start
like it, with one dash the option of its letter. -/
def shortened (grammar : Grammar) (argument : String) : List Slot :=
  match argument.toList with
  | '-' :: '-' :: _ =>
    let (start, given) := cutAtEquals argument
    (grammar.spellings.filter fun (name, _) => start.toList.isPrefixOf name.toList).map
      fun (name, rule) => .option rule name given
  | '-' :: letter :: more =>
    (grammar.spellings.filter fun (name, _) => name == String.ofList ['-', letter]).map
      fun (name, rule) => .option rule name (some (String.ofList more))
  | _ => []

/-- How an option is spelled. -/
def Slot.spelling : Slot → String
  | .option _ name _ => name
  | _ => ""

/-- What an argument is that starts with a dash and is no full spelling. -/
def guessSlot (grammar : Grammar) (argument : String) : Except Stop Slot :=
  match shortened grammar argument with
  | [slot] => .ok slot
  | [] =>
    if isNegativeNumber argument || argument.toList.contains ' ' then .ok .operand else .ok .unknown
  | slots =>
    .error (.refused grammar ("ambiguous option: " ++ argument ++ " could match "
      ++ String.intercalate ", " (slots.map Slot.spelling)))

/-- What one argument is. -/
def slotOf (grammar : Grammar) (argument : String) : Except Stop Slot :=
  if argument.toList.head? != some '-' then .ok .operand
  else
    match grammar.option? argument, cutAtEquals argument with
    | some rule, _ => .ok (.option rule argument none)
    | none, (name, given) =>
      if argument.length = 1 then .ok .operand
      else
        match given.bind fun _ => grammar.option? name with
        | some rule => .ok (.option rule name given)
        | none => guessSlot grammar argument

/-- Arguments with what they are. -/
abbrev Slots := List (String × Slot)

/-- What arguments are; behind two dashes all are operands. -/
def slotsOf (grammar : Grammar) : List String → Except Stop Slots
  | [] => .ok []
  | argument :: rest =>
    if argument = "--" then .ok ((argument, .dashes) :: rest.map fun text => (text, .operand))
    else do
      let slot ← slotOf grammar argument
      let slots ← slotsOf grammar rest
      pure ((argument, slot) :: slots)

/-! ### Results -/

/-- What was read: options in order with their values, the operands once they are taken, and what is left
over. Two dashes given as a value leave an option without one. -/
structure Parsed where
  options : List (String × Option String) := []
  operands : Option (List String) := none
  extras : List String := []

/-- Was an option given? -/
def Parsed.has (parsed : Parsed) (key : String) : Bool := parsed.options.any fun entry => entry.1 == key

/-- The values that an option was given. -/
def Parsed.values (parsed : Parsed) (key : String) : List (Option String) :=
  parsed.options.filterMap fun entry => if entry.1 == key then some entry.2 else none

/-- The last value that an option was given. -/
def Parsed.value? (parsed : Parsed) (key : String) : Option String :=
  (parsed.values key).getLast?.join

/-! ### Operands -/

/-- How many slots operands take at the start of some; none if they do not fit. -/
def Count.taken? (count : Count) (slots : List Slot) : Option Nat :=
  let dashes := (slots.takeWhile (· == .dashes)).length
  let rest := slots.drop dashes
  let following (slots : List Slot) : Nat := (slots.takeWhile (· == .dashes)).length
  match count, rest with
  | .one, .operand :: more => some (dashes + 1 + following more)
  | .atMostOne, .operand :: more => some (dashes + 1 + following more)
  | .atMostOne, _ => some dashes
  | .atLeastOne, .operand :: more =>
    some (dashes + 1 + (more.takeWhile fun slot => !slot.isOption).length)
  | .command, .operand :: more => some (dashes + 1 + more.length)
  | _, _ => none

/-- Takes operands, if they are still to be taken; gives the slots that are left. The first two dashes
among them do not count, except in front of a command. -/
def takeOperands (grammar : Grammar) (parsed : Parsed) (slots : Slots) : Parsed × Slots :=
  match parsed.operands, grammar.count.taken? (slots.map Prod.snd) with
  | none, some taken =>
    let texts := (slots.take taken).map Prod.fst
    let operands := if grammar.count = .command then texts else texts.erase "--"
    ({ parsed with operands := some operands }, slots.drop taken)
  | _, _ => (parsed, slots)

/-! ### Options -/

/-- What taking an option gives: the options in it with their values, and the slots behind it. -/
structure TakenOption where
  options : List (OptionRule × Option String) := []
  rest : Slots

/-- The message about a text that an option does not take. -/
def ignoredText (grammar : Grammar) (rule : OptionRule) (given : String) : Stop :=
  .refused grammar ("argument " ++ rule.shown ++ ": ignored explicit argument " ++ Text.quoted given)

/-- Takes an option with what is given with it. What is given with an option of one dash that takes no
value must be the letters of further options, with fuel for them. -/
def takeOption (grammar : Grammar) (rest : Slots) :
    Nat → OptionRule → String → Option String → Except Stop TakenOption
  | 0, _, _, _ => .ok { rest }
  | _ + 1, rule, _, none =>
    if rule.kind = .value then
      match rest with
      | (value, .operand) :: rest => .ok { options := [(rule, some value)], rest }
      | _ => .error (.refused grammar ("argument " ++ rule.shown ++ ": expected one argument"))
    else .ok { options := [(rule, none)], rest }
  | fuel + 1, rule, name, some given =>
    if rule.kind = .value then
      .ok { options := [(rule, if given = "--" then none else some given)], rest }
    else
      match name.toList[1]?, given.toList with
      | some '-', _ | _, [] => .error (ignoredText grammar rule given)
      | _, letter :: more =>
        let next := String.ofList ['-', letter]
        match grammar.option? next with
        | none => .error (ignoredText grammar rule given)
        | some other => do
          let following := if more.isEmpty then none else some (String.ofList more)
          let taken ← takeOption grammar rest fuel other next following
          pure { taken with options := (rule, none) :: taken.options }

/-- Notes options; one that asks for help stops it all. -/
def noteOptions (grammar : Grammar) (parsed : Parsed) :
    List (OptionRule × Option String) → Except Stop Parsed
  | [] => .ok parsed
  | (rule, value) :: rest =>
    if rule.kind = .help then .error (.help grammar)
    else
      noteOptions grammar { parsed with options := parsed.options ++ [(rule.key, value)] } rest

/-! ### Arguments -/

/-- Takes operands and options in turn, with fuel for the slots. -/
def parseSlots (grammar : Grammar) : Nat → Parsed → Slots → Except Stop Parsed
  | 0, parsed, _ => .ok parsed
  | fuel + 1, parsed, slots =>
    if slots.any fun entry => entry.2.isOption then
      match slots with
      | [] => .ok parsed
      | (text, .unknown) :: rest =>
        parseSlots grammar fuel { parsed with extras := parsed.extras ++ [text] } rest
      | (text, .option rule name given) :: rest => do
        let taken ← takeOption grammar rest (text.length + 1) rule name given
        let parsed ← noteOptions grammar parsed taken.options
        parseSlots grammar fuel parsed taken.rest
      | _ =>
        let (taken, left) := takeOperands grammar parsed slots
        if left.length < slots.length then parseSlots grammar fuel taken left
        else
          let surplus := slots.takeWhile fun entry => !entry.2.isOption
          parseSlots grammar fuel { parsed with extras := parsed.extras ++ surplus.map Prod.fst }
            (slots.drop surplus.length)
    else
      let (taken, left) := takeOperands grammar parsed slots
      let parsed := { taken with extras := taken.extras ++ left.map Prod.fst }
      if grammar.required && parsed.operands.isNone then
        .error (.refused grammar ("the following arguments are required: " ++ grammar.operand))
      else .ok parsed

/-- Reads all arguments. -/
def Grammar.parse (grammar : Grammar) (arguments : List String) : Except Stop Parsed := do
  let slots ← slotsOf grammar arguments
  parseSlots grammar (2 * slots.length + 1) {} slots

end PromptChain.CommandLine
