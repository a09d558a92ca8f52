/-
**The starts and the ends of texts.**

How much of a text is printed is a number of lines or of bytes, counted from its start or from its end
(`Portion`). Several texts get titles.
-/

import PromptChain.Shell.Tools.Inputs

namespace PromptChain.Shell.Tools

/-- A part of a text, in lines or in bytes. -/
structure Portion where
  bytes : Bool := false
  count : Nat := 10
  /-- Whether the number is counted from the other end. -/
  opposite : Bool := false

/-- How long the start of a text is: as many lines or bytes, or all but as many. -/
def Portion.startLength (portion : Portion) (text : Raw) : Nat :=
  if portion.bytes then if portion.opposite then text.length - portion.count else portion.count
  else
    let lines := pieces '\n' text
    let kept := if portion.opposite then lines.length - portion.count else portion.count
    total ((lines.take kept).map List.length)

/-- How much of a text stands before its end: all but as many lines or bytes, or fewer than as many. -/
def Portion.endOffset (portion : Portion) (text : Raw) : Nat :=
  if portion.bytes then if portion.opposite then portion.count - 1 else text.length - portion.count
  else
    let lines := pieces '\n' text
    let dropped := if portion.opposite then portion.count - 1 else lines.length - portion.count
    total ((lines.take dropped).map List.length)

/-- What is asked for: a part, and whether titles are printed. -/
structure PortionRequest where
  portion : Portion := {}
  titles : Option Bool := none
  operands : List Raw := []

/-- Are titles printed? -/
def PortionRequest.titled (request : PortionRequest) : Bool :=
  request.titles.getD (decide (1 < request.operands.length))

/-- Prints parts of files one after the other. `take` gives the part of a text; for the input it also leaves
what is to be read after it. -/
def showPortions (tool : String) (request : PortionRequest) (take : Raw → Raw) (takeRead : Run Raw) :
    Bool → List Raw → Run Unit
  | _, [] => pure ()
  | first, name :: rest => do
    let state ← get
    let source : Source := ⟨name, []⟩
    let title : Raw :=
      if request.titled then
        (if first then [] else ['\n']) ++ "==> " ++ source.title ++ " <==\n"
      else []
    let isInput := name == ['-'] || name == "/dev/stdin"
    match if isInput then .ok [] else state.readFile name with
    | .ok text => do
      say title
      say (← if isInput then takeRead else pure (take text))
      showPortions tool request take takeRead false rest
    | .error issue => do
      if issue == .isDirectory then say title
      fails tool (openWording.text name issue)
      showPortions tool request take takeRead (first && issue != .isDirectory) rest

/-- Prints parts of the operands, or of the input if there are none. -/
def PortionRequest.print (request : PortionRequest) (tool : String) (take : Raw → Raw) (takeRead : Run Raw) :
    Run Unit :=
  showPortions tool request take takeRead true (if request.operands.isEmpty then [['-']] else request.operands)

/-- The options of a tool that prints parts of texts. -/
def portionGrammar (tool : String) : Grammar where
  tool := tool
  letters := "c:n:qv"

/-- The arguments of a tool, with a number by itself behind the option that it stands for. -/
def withOption (arguments : List Raw) : List Raw :=
  match arguments with
  | ('-' :: c :: digits) :: rest =>
    if (c :: digits).all Char.isDigit then "-n" :: (c :: digits) :: rest else arguments
  | _ => arguments

/-- Reads what is asked for; a sign in front of a number tells that it is counted from the other end. -/
def portionRequest (sign : Char) (given : Given) : Except Raw PortionRequest := do
  let step (request : PortionRequest) (entry : Char × Raw) : Except Raw PortionRequest :=
    match entry with
    | ('q', _) => .ok { request with titles := some false }
    | ('v', _) => .ok { request with titles := some true }
    | (letter, value) =>
      let bytes := letter == 'c'
      let opposite := value.head? == some sign
      let text := if opposite || value.head? == some '-' then value.drop 1 else value
      match countOf true text with
      | .ok count => .ok { request with portion := { bytes, count, opposite } }
      | .error issue =>
        let shown := if sign == '+' && opposite then value else text
        let unit := if bytes then "bytes" else "lines"
        .error (badNumber ("invalid number of " ++ unit) shown issue)
  given.options.foldlM step { operands := given.operands }

/-- The start of the input. What follows is left to be read, except for what was read of a pipe for the sake
of its lines. -/
def takeStart (portion : Portion) : Run Raw := do
  let state ← get
  let length := portion.startLength state.input
  let seekable := (state.streamOf 0).fileSize.isSome || portion.bytes
  set (state.leaveInput (if seekable && !portion.opposite then state.input.drop length else []))
  pure (state.input.take length)

/-- The tool `head`. -/
def runHead (arguments : List Raw) : Run Unit :=
  (portionGrammar "head").run (withOption arguments) fun given =>
    match portionRequest '-' given with
    | .error problem => fails "head" problem
    | .ok request =>
      let portion := request.portion
      request.print "head" (fun text => text.take (portion.startLength text)) (takeStart portion)

/-- The tool `tail`. -/
def runTail (arguments : List Raw) : Run Unit :=
  (portionGrammar "tail").run (withOption arguments) fun given =>
    match portionRequest '+' given with
    | .error problem => fails "tail" problem
    | .ok request => do
      let part (text : Raw) : Raw := text.drop (request.portion.endOffset text)
      request.print "tail" part (part <$> takeInput)

end PromptChain.Shell.Tools
