/-
**Sorting lines.**

Lines are compared by keys: parts of them, each with an order of its own. If all keys are equal, the whole
lines are compared byte by byte, unless equal lines are to stay as they were (`Sorting.compareLines`).
-/

import PromptChain.Shell.Tools.Inputs

namespace PromptChain.Shell.Tools

/-! ### Orders -/

/-- How texts are compared. -/
structure SortOrder where
  /-- Whether the numbers at the start are compared, not the bytes. -/
  numeric : Bool := false
  reversed : Bool := false
  fold : Bool := false
  /-- Only letters, digits and blanks count. -/
  dictionary : Bool := false
  skipStart : Bool := false
  skipEnd : Bool := false

/-- Are all bytes compared as they are? -/
def SortOrder.isPlain (order : SortOrder) : Bool :=
  !order.numeric && !order.fold && !order.dictionary && !order.skipStart && !order.skipEnd

/-- An order with what a letter says; none if the letter says nothing. -/
def SortOrder.add? (order : SortOrder) (letter : Char) (atStart atEnd : Bool) : Option SortOrder :=
  match letter with
  | 'b' => some { order with skipStart := order.skipStart || atStart, skipEnd := order.skipEnd || atEnd }
  | 'd' => some { order with dictionary := true }
  | 'f' => some { order with fold := true }
  | 'r' => some { order with reversed := true }
  | 'n' => some { order with numeric := true }
  | _ => none

/-- The letters of options that cannot go together. -/
def SortOrder.clash? (order : SortOrder) : Option Raw :=
  if order.numeric && order.dictionary then some (if order.fold then "dfn" else "dn").toList else none

/-! ### Comparing texts -/

/-- Is it a blank inside a line? -/
def isInnerBlank (c : Char) : Bool := c == ' ' || c == '\t'

/-- The comparison of texts byte by byte. -/
def compareBytes : Raw → Raw → Ordering
  | [], [] => .eq
  | [], _ :: _ => .lt
  | _ :: _, [] => .gt
  | c :: first, d :: second => if c = d then compareBytes first second else compare c.toNat d.toNat

/-- The number at the start of a text: whole and with its places. -/
def leadingNumber (text : Raw) : Int × Nat :=
  let text := text.dropWhile isInnerBlank
  let (negative, digits) := match text with
    | '-' :: rest => (true, rest)
    | rest => (false, rest)
  let whole := digits.takeWhile Char.isDigit
  let fraction := match digits.drop whole.length with
    | '.' :: rest => rest.takeWhile Char.isDigit
    | _ => []
  let value : Int := Arithmetic.ofDigits 10 (whole ++ fraction)
  (if negative then -value else value, fraction.length)

/-- The comparison of the numbers at the start of two texts. -/
def compareNumbers (first second : Raw) : Ordering :=
  let (left, leftPlaces) := leadingNumber first
  let (right, rightPlaces) := leadingNumber second
  compare (left * Nat.pow 10 rightPlaces) (right * Nat.pow 10 leftPlaces)

/-- The characters of a text that count, all capital if case does not. -/
def SortOrder.countedText (order : SortOrder) (text : Raw) : Raw :=
  let kept := if order.dictionary then text.filter fun c => c.isAlphanum || isInnerBlank c else text
  if order.fold then kept.map Char.toUpper else kept

/-- The comparison of texts by an order. -/
def SortOrder.compareTexts (order : SortOrder) (first second : Raw) : Ordering :=
  let result := if order.numeric then compareNumbers first second
    else compareBytes (order.countedText first) (order.countedText second)
  if order.reversed then result.swap else result

/-! ### Keys -/

/-- A key: the part of a line from one place to another, each a field and a character, counted from zero. -/
structure SortKey where
  startField : Nat := 0
  startChar : Nat := 0
  endField : Option Nat := none
  endChar : Nat := 0
  order : SortOrder := {}

/-- What is left of a line behind some fields. Without a separator the blanks in front belong to a field. -/
def dropFields (separator : Option Char) : Nat → Raw → Raw
  | 0, text => text
  | count + 1, text =>
    match separator with
    | some separator => dropFields (some separator) count ((text.dropWhile (· != separator)).drop 1)
    | none => dropFields none count ((text.dropWhile isInnerBlank).dropWhile fun c => !isInnerBlank c)

/-- Where a key ends in a line. -/
def SortKey.endOffset (key : SortKey) (separator : Option Char) (line : Raw) : Nat :=
  match key.endField with
  | none => line.length
  | some field =>
    if key.endChar = 0 then
      let rest := dropFields separator field line
      let own := match separator with
        | some separator => rest.takeWhile (· != separator)
        | none =>
          let blanks := rest.takeWhile isInnerBlank
          blanks ++ (rest.drop blanks.length).takeWhile fun c => !isInnerBlank c
      line.length - rest.length + own.length
    else
      let rest := dropFields separator field line
      let rest := if key.order.skipEnd then rest.dropWhile isInnerBlank else rest
      min line.length (line.length - rest.length + key.endChar)

/-- The part of a line that a key means. -/
def SortKey.part (key : SortKey) (separator : Option Char) (line : Raw) : Raw :=
  let rest := dropFields separator key.startField line
  let rest := if key.order.skipStart then rest.dropWhile isInnerBlank else rest
  let start := min line.length (line.length - rest.length + key.startChar)
  (line.take (key.endOffset separator line)).drop start

/-- How lines are sorted. -/
structure Sorting where
  keys : List SortKey := []
  separator : Option Char := none
  reversed : Bool := false
  stable : Bool := false
  unique : Bool := false

/-- The comparison of lines by keys. -/
def compareKeys (separator : Option Char) (first second : Raw) : List SortKey → Ordering
  | [] => .eq
  | key :: rest =>
    match key.order.compareTexts (key.part separator first) (key.part separator second) with
    | .eq => compareKeys separator first second rest
    | other => other

/-- The comparison of lines. -/
def Sorting.compareLines (sorting : Sorting) (first second : Raw) : Ordering :=
  let byKeys := compareKeys sorting.separator first second sorting.keys
  if !sorting.keys.isEmpty && (byKeys != .eq || sorting.unique || sorting.stable) then byKeys
  else
    let byBytes := compareBytes first second
    if sorting.reversed then byBytes.swap else byBytes

/-- Sorted lines, the first one of equal ones. -/
def Sorting.dropEqual (sorting : Sorting) : List Raw → List Raw
  | [] => []
  | first :: rest =>
    match sorting.dropEqual rest with
    | [] => [first]
    | second :: more =>
      if sorting.compareLines first second == .eq then first :: more else first :: second :: more

/-- Lines in their order. -/
def Sorting.sort (sorting : Sorting) (lines : List Raw) : List Raw :=
  let sorted := lines.mergeSort fun first second => sorting.compareLines first second != .gt
  if sorting.unique then sorting.dropEqual sorted else sorted

/-! ### Reading keys -/

/-- A number at the start of a text. -/
def takeKeyNumber (text : Raw) : Option (Nat × Raw) :=
  let digits := text.takeWhile Char.isDigit
  if digits.isEmpty then none else some (Arithmetic.ofDigits 10 digits, text.drop digits.length)

/-- The letters of an order at the start of a text. -/
def takeOrder (atStart : Bool) (order : SortOrder) : Raw → SortOrder × Raw
  | [] => (order, [])
  | letter :: rest =>
    match order.add? letter atStart (!atStart) with
    | some order => takeOrder atStart order rest
    | none => (order, letter :: rest)

/-- The key that a text describes. -/
def readKey (text : Raw) : Except Raw SortKey := do
  let count (reason : String) (text : Raw) : Except Raw (Nat × Raw) :=
    match takeKeyNumber text with
    | some found => .ok found
    | none => .error (reason ++ ": invalid count at start of " ++ quotedInText text)
  let bad (reason : String) : Except Raw SortKey :=
    .error (reason ++ ": invalid field specification " ++ quotedInText text)
  let (field, rest) ← count "invalid number at field start" text
  if field = 0 then return ← bad "field number is zero"
  let (char, rest) ← match rest with
    | '.' :: rest => count "invalid number after '.'" rest
    | _ => pure (1, rest)
  if char = 0 then return ← bad "character offset is zero"
  let (order, rest) := takeOrder true {} rest
  let key : SortKey := { startField := field - 1, startChar := char - 1, order }
  match rest with
  | ',' :: rest =>
    let (endField, rest) ← count "invalid number after ','" rest
    if endField = 0 then return ← bad "field number is zero"
    let (endChar, rest) ← match rest with
      | '.' :: rest => count "invalid number after '.'" rest
      | _ => pure (0, rest)
    let (order, rest) := takeOrder false order rest
    if !rest.isEmpty then return ← bad "stray character in field spec"
    pure { key with endField := some (endField - 1), endChar, order }
  | [] => pure key
  | _ => bad "stray character in field spec"

/-! ### The tool -/

/-- The options of `sort`. -/
def sortGrammar : Grammar where
  tool := "sort"
  letters := "bdfk:no:rst:u"
  failure := 2

/-- The character that separates fields. -/
def sortSeparator (given : Given) : Except Raw (Option Char) :=
  match given.value? 't' with
  | none => .ok none
  | some [] => .error "empty tab"
  | some [c] => .ok (some c)
  | some text => .error ("multi-character tab " ++ quotedInText text)

/-- How options say that lines are sorted. -/
def sortingOf (given : Given) : Except Raw Sorting := do
  let keys ← (given.values 'k').mapM readKey
  let separator ← sortSeparator given
  let add (order : SortOrder) (entry : Char × Raw) : SortOrder := (order.add? entry.1 true true).getD order
  let overall := given.options.foldl add {}
  let inherited (key : SortKey) : SortKey :=
    if key.order.isPlain && !key.order.reversed then { key with order := overall } else key
  let keys :=
    if keys.isEmpty && !overall.isPlain then [{ order := overall : SortKey }] else keys.map inherited
  match keys.findSome? fun key => key.order.clash? with
  | some letters => .error ("options '-" ++ letters ++ "' are incompatible")
  | none =>
    pure { keys, separator, reversed := overall.reversed, stable := given.has 's', unique := given.has 'u' }

/-- How `sort` complains about files. -/
def sortWording : Wording where
  text name issue :=
    (if issue == .isDirectory then "read failed: " else "cannot read: ").toList
      ++ plainWording.text name issue
  status := 2

/-- The tool `sort`. -/
def runSort (arguments : List Raw) : Run Unit :=
  sortGrammar.run arguments fun given => do
    match sortingOf given with
    | .error problem => failsWith 2 "sort" problem
    | .ok sorting =>
      let sources ← sourcesOf "sort" sortWording given.operands
      if (← get).status != 0 then return
      let output := unlinesOf (sorting.sort (sources.flatMap fun source => linesOf source.text))
      match given.value? 'o' with
      | none => say output
      | some path =>
        saveFile path output fun issue =>
          failsWith 2 "sort" ("open failed: " ++ plainWording.text path issue)

end PromptChain.Shell.Tools
