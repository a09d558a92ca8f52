/-
**What words stand for.**

The parts of a word become characters with marks (`Item`): a quoted character stands for itself, a literal
one may be a wildcard, and an expanded one may also separate fields. Fields with wildcards then give way
to the files that they find. Scripts inside words are run by a function that is given.
-/

import PromptChain.Shell.Arithmetic
import PromptChain.Shell.State
import PromptChain.Shell.Wildcard
import PromptChain.Text.Lines

namespace PromptChain.Shell

/-- Where a character of a word comes from. -/
inductive Mark where
  | quoted
  | literal
  | expanded
deriving DecidableEq

/-- What a word consists of once its parts are expanded. -/
inductive Item where
  | char (c : Char) (mark : Mark)
  /-- There is a field here even if it has no characters. -/
  | keep
  /-- A field ends here. -/
  | cut
deriving DecidableEq

/-- A text as items of a mark. -/
def itemsOf (mark : Mark) (text : Raw) : List Item := text.map fun c => .char c mark

/-- The text of items, with a text where fields would be cut. -/
def textOfItems (between : Raw) (items : List Item) : Raw :=
  items.flatMap fun item =>
    match item with
    | .char c _ => [c]
    | .cut => between
    | .keep => []

/-! ### Wildcards -/

/-- Items as characters of a pattern. -/
def patternChars (items : List Item) : List PatternChar :=
  items.filterMap fun item =>
    match item with
    | .char c mark => some (c, mark == .quoted)
    | .cut => some (' ', true)
    | .keep => none

/-- Do items match a whole text as a pattern? -/
def itemsMatch (pattern : List Item) (text : Raw) : Bool :=
  Wildcard.matchesAll (Wildcard.ofChars (patternChars pattern)) text

/-- Is there a wildcard? -/
def haveWildcard (pattern : List PatternChar) : Bool :=
  pattern.any fun entry => !entry.2 && (entry.1 == '*' || entry.1 == '?' || entry.1 == '[')

/-- The names in the directory of a path; the empty path is the directory at hand. -/
def namesInside (state : State) (path : Raw) : List Raw :=
  match state.locate (if path.isEmpty then ['.'] else path) with
  | .ok place =>
    if state.tree.isDirectory place then
      [['.'], ['.', '.']] ++ (state.namesIn place).map rawOfText
    else []
  | .error _ => []

/-- Is there anything at a path? -/
def isThere (state : State) (path : Raw) : Bool := state.namesFile path || state.namesDirectory path

/-- Pieces of a pattern between slashes. -/
def patternSteps : List PatternChar → List (List PatternChar)
  | [] => [[]]
  | entry :: rest =>
    if entry.1 = '/' then [] :: patternSteps rest
    else
      match patternSteps rest with
      | step :: steps => (entry :: step) :: steps
      | [] => [[entry]]

/-- The paths that steps of a pattern find from a path on. A name with a point at its start is found only by
such a step. -/
def findPaths (state : State) (path : Raw) : List (List PatternChar) → List Raw
  | [] => [path]
  | step :: rest =>
    let after (path : Raw) : List Raw :=
      match rest with
      | [] => if isThere state path then [path] else []
      | _ => findPaths state (path ++ ['/']) rest
    if haveWildcard step then
      let hidden := (step.head?.map Prod.fst) == some '.'
      let wildcard := Wildcard.ofChars step
      let names := (namesInside state path).filter fun name =>
        (hidden || name.head? != some '.') && Wildcard.matchesAll wildcard name
      names.flatMap fun name => if rest.isEmpty then [path ++ name] else after (path ++ name)
    else after (path ++ step.map Prod.fst)

/-- A field as texts: the files that it finds, or itself if it finds none. -/
def filesOfField (state : State) (field : List Item) : List Raw :=
  let pattern := patternChars field
  let plain := [pattern.map Prod.fst]
  if haveWildcard pattern && !state.has 'f' then
    let found := findPaths state [] (patternSteps pattern)
    if found.isEmpty then plain else found.mergeSort lineBefore
  else plain

/-! ### Fields -/

/-- The characters that separate fields. -/
def State.separators (state : State) : Raw := (state.value? "IFS").getD " \t\n"

/-- Is it a separator that is a blank? -/
def isBlankSeparator (separators : Raw) (c : Char) : Bool :=
  separators.contains c && (c == ' ' || c == '\t' || c == '\n')

/-- Is it an expanded character that passes a test? -/
def Item.isExpanded (test : Char → Bool) : Item → Bool
  | .char c .expanded => test c
  | _ => false

/-- Puts an item in front of the first field. -/
def consField (item : Item) : List (List Item) → List (List Item)
  | [] => [[item]]
  | field :: fields => (item :: field) :: fields

/-- Cuts items into fields, with fuel for them. Blank separators around a separator belong to it; those at
the start separate nothing. -/
def splitFields (separators : Raw) : Nat → List Item → List (List Item)
  | 0, items => [items]
  | _ + 1, [] => [[]]
  | fuel + 1, .cut :: rest => [] :: splitFields separators fuel rest
  | fuel + 1, item :: rest =>
    let separates := Item.isExpanded separators.contains
    let blank := Item.isExpanded (isBlankSeparator separators)
    if separates item then
      let after := if blank item then rest.dropWhile blank else rest
      let after :=
        if blank item then
          match after with
          | next :: more => if separates next then more.dropWhile blank else after
          | [] => after
        else after.dropWhile blank
      -- A field that ends with `keep` is there even if it is empty.
      (if blank item && !(rest.dropWhile blank).head?.any separates then [] else [.keep])
        :: splitFields separators fuel after
    else consField item (splitFields separators fuel rest)

/-- The fields of items; those without characters are left out unless they are to be kept. -/
def fieldsOf (separators : Raw) (items : List Item) : List (List Item) :=
  let own := items.dropWhile (Item.isExpanded (isBlankSeparator separators))
  (splitFields separators (items.length + 1) own).filter fun field => !field.isEmpty

/-! ### Parameters -/

/-- The number of the shell itself. -/
def ownProcess : Raw := "2"

/-- The letters of all options, in the order in which those that are on are told. -/
def optionLetters : List Char := "ubaCEVvxsnmiIfe"

/-- The value of a parameter. -/
def parameter? (state : State) (name : Raw) : Option Raw :=
  match name with
  | ['?'] => some (toString state.status).toList
  | ['$'] => some ownProcess
  | ['#'] => some (toString state.arguments.length).toList
  | ['-'] => some (optionLetters.filter state.has)
  | ['!'] => state.lastProcess.map fun process => (toString process).toList
  | ['@'] | ['*'] =>
    if state.arguments.isEmpty then none
    else some (Text.joinWith (state.separators.take 1) state.arguments)
  | _ =>
    if name.all Char.isDigit then
      match Arithmetic.ofDigits 10 name with
      | 0 => some state.name
      | index + 1 => state.arguments[index]?
    else state.value? name

/-- The arguments of the shell as items: each a field of its own. -/
def argumentItems (mark : Mark) (arguments : List Raw) : List Item :=
  let each : List (List Item) := arguments.map fun argument =>
    (if mark == .quoted then [.keep] else []) ++ itemsOf mark argument
  List.intercalate [.cut] each

/-- The value of a parameter as items. -/
def parameterItems (state : State) (name : Raw) (quoted : Bool) : List Item :=
  let mark := if quoted then Mark.quoted else Mark.expanded
  if name == ['@'] || (name == ['*'] && !quoted) then argumentItems mark state.arguments
  else (if quoted then [.keep] else []) ++ itemsOf mark ((parameter? state name).getD [])

/-- A text without what a pattern finds at its start or at its end. -/
def dropPattern (atEnd : Bool) (pattern : List Item) (longest : Bool) (text : Raw) : Raw :=
  let lengths := List.range (text.length + 1)
  let ordered := if longest != atEnd then lengths.reverse else lengths
  let parts (length : Nat) : Raw × Raw :=
    if atEnd then (text.drop length, text.take length) else (text.take length, text.drop length)
  match ordered.find? fun length => itemsMatch pattern (parts length).1 with
  | some length => (parts length).2
  | none => text

/-! ### Expanding -/

/-- The output of a script without the line ends at its end. -/
def outputOf (run : Raw → Run Unit) (source : Raw) : Run Raw := do
  modify fun state => { state with status := 0 }
  let output ← capture (run source)
  pure (((output.filter (· != '\x00')).reverse.dropWhile (· == '\n')).reverse)

/-- The value of an arithmetic expression; its assignments are made. -/
def arithmeticOf (source : Raw) : Run Raw := do
  let state ← get
  let problem (what : String) : String :=
    "arithmetic expression: " ++ what ++ ": \"" ++ textOfRaw source ++ "\""
  match Arithmetic.read source with
  | .error expected => abortOwn (problem expected)
  | .ok expression =>
    let values := state.values.filterMap fun entry => entry.2.value.map fun value => (entry.1, value)
    match Arithmetic.evaluate values expression with
    | .error .divisionByZero => abortOwn (problem "division by zero")
    | .error .overflow => throw (.killed 8)
    | .error (.badNumber text) => abortOwn ("Illegal number: " ++ textOfRaw text)
    | .ok (result, after) => do
      let changed := after.filter fun (name, value) => values.lookup name != some value
      set (changed.foldl (fun state (name, value) => state.set name value) state)
      pure (toString result).toList

/-- The home directory of a user; no name means one's own. -/
def homeOf? (state : State) (name : Raw) : Option Raw :=
  if name.isEmpty then state.value? "HOME"
  else if name == "root" then some "/root"
  else none

/-- The parts of a text with the home directory in place of a tilde at its start. The name ends at a slash, or
where the text ends if the word does too. -/
def tildeParts (state : State) (isLast : Bool) (text : Raw) : Word :=
  match text with
  | '~' :: rest =>
    let name := rest.takeWhile (· != '/')
    let after := rest.drop name.length
    match (if after.isEmpty && !isLast then none else homeOf? state name) with
    | some home => [.text home true, .text after false]
    | none => [.text text false]
  | _ => [.text text false]

/-- The home directory in place of a tilde at the start of a word. -/
def expandTilde (state : State) (word : Word) : Word :=
  match word with
  | .text content false :: parts => tildeParts state parts.isEmpty content ++ parts
  | _ => word

/-- A value that is assigned, with home directories in place of tildes at its start and behind colons. -/
def expandTildes (state : State) (start : Bool) : Word → Word
  | .text content false :: parts =>
    let pieces := (Text.splitOnChar ':' content).zipIdx
    let own := pieces.map fun (piece, index) =>
      let isLast := index + 1 < pieces.length || parts.isEmpty
      if index == 0 && !start then [.text piece false] else tildeParts state isLast piece
    List.intercalate [.text [':'] false] own ++ expandTildes state false parts
  | part :: parts => part :: expandTildes state false parts
  | [] => []

/-- A text that is a word of its own, read in a way. -/
def innerWord (mode : Mode) (text : Raw) : Run Word :=
  match readWhole mode text with
  | .ok word => pure word
  | .error problem => abortOwn problem

/-- Literal characters of a word inside an expansion may separate fields. -/
def asExpanded (items : List Item) : List Item :=
  items.map fun item =>
    match item with
    | .char c .literal => .char c .expanded
    | other => other

/-- The items that parts of a word stand for. -/
def expandParts (run : Raw → Run Unit) : Nat → Word → Run (List Item)
  | 0, _ => pure []
  | _ + 1, [] => pure []
  | fuel + 1, part :: rest => do
    let items ← match part with
      | .text content quoted =>
        pure (if quoted then .keep :: itemsOf .quoted content else itemsOf .literal content)
      | .output source quoted => do
        let output ← outputOf run source
        pure (if quoted then .keep :: itemsOf .quoted output else itemsOf .expanded output)
      | .arithmetic source quoted => do
        let inner ← expandParts run fuel (← innerWord .quoted source)
        let result ← arithmeticOf (textOfItems [' '] inner)
        pure (itemsOf (if quoted then .quoted else .expanded) result)
      | .parameter name operation word quoted => do
        let state ← get
        let value := parameter? state name
        let mark := if quoted then Mark.quoted else Mark.expanded
        let held : List Item := if quoted then [.keep] else []
        let inner : Run (List Item) := do
          let items ← expandParts run fuel (← innerWord (if quoted then .braced else .whole) word)
          pure (if quoted then .keep :: items else asExpanded items)
        let plain : List Item := parameterItems state name quoted
        let missing (emptyToo : Bool) : Bool :=
          value.isNone || (emptyToo && value == some [])
        let pattern : Run (List Item) := do expandParts run fuel (← innerWord .whole word)
        let demanded := state.has 'u' && value.isNone && name != ['@'] && name != ['*']
        let unset (what : String) : Run (List Item) := abortOwn (textOfRaw name ++ ": " ++ what)
        match operation with
        | .value => if demanded then unset "parameter not set" else pure plain
        | .length =>
          if demanded then unset "parameter not set"
          else
            let length := if name == ['@'] || name == ['*'] then state.arguments.length
              else (value.getD []).length
            pure (itemsOf mark (toString length).toList)
        | .otherwise emptyToo => if missing emptyToo then inner else pure plain
        | .instead emptyToo =>
          if missing emptyToo then pure held else inner
        | .assign emptyToo =>
          if missing emptyToo then do
            let items ← inner
            let text := textOfItems (state.separators.take 1) items
            mayChange "" name
            modify fun state => state.set name text
            pure (held ++ itemsOf mark text)
          else pure plain
        | .demand emptyToo =>
          if missing emptyToo then do
            let items ← inner
            let message := textOfRaw (textOfItems [' '] items)
            let standard := if emptyToo then "parameter not set or null" else "parameter not set"
            unset (if word.isEmpty then standard else message)
          else pure plain
        | .dropStart longest => do
          pure (held ++ itemsOf mark (dropPattern false (← pattern) longest (value.getD [])))
        | .dropEnd longest => do
          pure (held ++ itemsOf mark (dropPattern true (← pattern) longest (value.getD [])))
        | .bad => abortOwn "Bad substitution"
    let more ← expandParts run fuel rest
    pure (items ++ more)

/-- How deep and how long words may be. -/
def expansionFuel : Nat := 100000

/-- The items that a word stands for. -/
def expandItems (run : Raw → Run Unit) (word : Word) : Run (List Item) := do
  expandParts run expansionFuel (expandTilde (← get) word)

/-- The text of items that are not cut into fields. -/
def joinItems (items : List Item) : Run Raw := do
  pure (textOfItems ((← get).separators.take 1) items)

/-- A word as one text. -/
def expandText (run : Raw → Run Unit) (word : Word) : Run Raw := do
  joinItems (← expandItems run word)

/-- A word as a value that is assigned. -/
def expandValue (run : Raw → Run Unit) (word : Word) : Run Raw := do
  joinItems (← expandParts run expansionFuel (expandTildes (← get) true word))

/-- The text of a here-document. -/
def expandHere (run : Raw → Run Unit) (content : Raw) : Run Raw := do
  joinItems (← expandParts run expansionFuel (← innerWord .here content))

/-- A word as fields. -/
def expandFields (run : Raw → Run Unit) (word : Word) : Run (List Raw) := do
  let items ← expandItems run word
  let state ← get
  pure ((fieldsOf state.separators items).flatMap (filesOfField state))

/-- Words as fields. -/
def expandWords (run : Raw → Run Unit) : List Word → Run (List Raw)
  | [] => pure []
  | word :: rest => do
    let first ← expandFields run word
    let more ← expandWords run rest
    pure (first ++ more)

end PromptChain.Shell
