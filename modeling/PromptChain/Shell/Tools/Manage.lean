/-
**Managing files and directories.**

Tools that list, make, remove, copy and move what is in the tree.
-/

import PromptChain.Shell.Tools.Names

namespace PromptChain.Shell.Tools

open Files (Issue Place Tree)

/-! ### Looking -/

/-- What is at a path. -/
def lookAt (state : State) (path : Raw) : Except Issue Files.Entry :=
  match state.locate path with
  | .error issue => .error issue
  | .ok place =>
    if place.isEmpty then .ok { place, content := none, modified := state.now }
    else
      match state.tree.entry? place with
      | some entry =>
        if path.getLast? == some '/' && entry.content.isSome then .error .notDirectory else .ok entry
      | none =>
        .error (if state.tree.isFile place.dropLast then .notDirectory else .notFound)

/-- Is there a directory at a path? -/
def isDirectoryAt (state : State) (path : Raw) : Bool :=
  match lookAt state path with
  | .ok entry => entry.content.isNone
  | .error _ => false

/-- A tree without a place and all below it. -/
def withoutPlace (tree : Tree) (place : Place) : Tree :=
  ⟨tree.entries.filter fun entry => !place.isPrefixOf entry.place⟩

/-- Complains about what cannot be done to a path. -/
def failsAt (tool : String) (what : String) (path : Raw) (reason : String) : Run Unit :=
  fails tool (what ++ ' ' :: quotedAlways path ++ ": " ++ reason)

/-! ### Lists -/

/-- The options of `ls`. -/
def lsGrammar : Grammar where
  tool := "ls"
  letters := "1aAdr"
  failure := 2

/-- Names in their order, or the other way round. -/
def ordered (given : Given) (names : List Raw) : List Raw :=
  let sorted := names.mergeSort lineBefore
  if given.has 'r' then sorted.reverse else sorted

/-- The names that are listed for a directory. -/
def listedIn (state : State) (given : Given) (place : Place) : List Raw :=
  let names := (state.namesIn place).filter fun name =>
    given.has 'a' || given.has 'A' || name.toList.head? != some '.'
  ordered given ((if given.has 'a' then [['.'], ['.', '.']] else []) ++ names.map rawOfText)

/-- The tool `ls`. -/
def runLs (arguments : List Raw) : Run Unit :=
  lsGrammar.run arguments fun given => do
    let operands := if given.operands.isEmpty then [['.']] else given.operands
    let state ← get
    operands.forM fun path =>
      match lookAt state path with
      | .ok _ => pure ()
      | .error issue => do
        failsAt "ls" "cannot access" path (issueText issue)
        setStatus 2
    let found := (ordered given operands).filterMap fun path =>
      (lookAt state path).toOption.map fun entry => (path, entry)
    let (directories, files) := found.partition fun item => item.2.content.isNone && !given.has 'd'
    let lists := directories.map fun (path, entry) =>
      (if 1 < operands.length then path ++ ":\n" else []) ++ unlinesOf (listedIn state given entry.place)
    say (Text.joinWith ['\n'] ((if files.isEmpty then [] else [unlinesOf (files.map Prod.fst)]) ++ lists))

/-! ### Making -/

/-- The options of `touch`. -/
def touchGrammar : Grammar where
  tool := "touch"
  letters := "c"

/-- Makes files that are not there, and sets the time of the others. -/
def runTouch (arguments : List Raw) : Run Unit :=
  touchGrammar.run arguments fun given =>
    if given.operands.isEmpty then touchGrammar.refuse "missing file operand"
    else given.operands.forM fun path => do
      let state ← get
      match lookAt state path with
      | .ok entry =>
        if entry.place.isEmpty then pure ()
        else set { state with tree := state.tree.put { entry with modified := state.now } }
      | .error .notDirectory => failsAt "touch" "setting times of" path "Not a directory"
      | .error _ =>
        if given.has 'c' then pure ()
        else saveFile path [] fun issue => failsAt "touch" "cannot touch" path (issueText issue)

/-- The options of `mkdir`. -/
def mkdirGrammar : Grammar where
  tool := "mkdir"
  letters := "p"

/-- The paths of a path and of the directories above it, topmost first. -/
def pathsAbove (path : Raw) : List Raw :=
  (Tree.ancestry (withoutSlashes path)).filter fun part => !part.isEmpty

/-- Makes a directory; says whether it is there. It must be new if asked for. -/
def makeDirectory (exact : Bool) (path : Raw) : Run Bool := do
  let state ← get
  let refuse (issue : Issue) : Run Bool := do
    fails "mkdir"
      ("cannot create directory " ++ quotedInText path ++ ": " ++ issueText issue)
    pure false
  match state.locate (withoutSlashes path) with
  | .error issue => refuse (if path == ['/'] then .exists else issue)
  | .ok place =>
    if state.tree.has place then
      if state.tree.isDirectory place && !exact then pure true else refuse .exists
    else if !state.tree.isDirectory place.dropLast then
      refuse (if state.tree.isFile place.dropLast then .notDirectory else .notFound)
    else do
      set { state with tree := state.tree.put { place, content := none, modified := state.now } }
      pure true

/-- Makes directories one after the other until one cannot be made. -/
def makeEach (exact : Bool) : List Raw → Run Unit
  | [] => pure ()
  | path :: rest => do
    if ← makeDirectory exact path then makeEach exact rest

/-- The tool `mkdir`. -/
def runMkdir (arguments : List Raw) : Run Unit :=
  mkdirGrammar.run arguments fun given =>
    if given.operands.isEmpty then mkdirGrammar.refuse "missing operand"
    else given.operands.forM fun path =>
      if given.has 'p' && !path.isEmpty then makeEach false (pathsAbove path) else makeEach true [path]

/-! ### Removing -/

/-- The options of `rm`. -/
def rmGrammar : Grammar where
  tool := "rm"
  letters := "dfrR"

/-- Removes what is at a path. -/
def removeOne (given : Given) (path : Raw) : Run Unit := do
  let state ← get
  let deep := given.has 'r' || given.has 'R'
  let last := lastStep path
  if deep && withoutSlashes path == [] && !path.isEmpty then do
    complain ("rm: it is dangerous to operate recursively on '/'\n"
      ++ "rm: use --no-preserve-root to override this failsafe\n").toList
    setStatus 1
  else if deep && (last == ['.'] || last == "..") then do
    complain ("rm: refusing to remove '.' or '..' directory: skipping " ++ quotedAlways path ++ ['\n'])
    setStatus 1
  else
    match lookAt state path with
    | .error issue => if given.has 'f' then pure () else failsAt "rm" "cannot remove" path (issueText issue)
    | .ok entry =>
      let isDirectory := entry.content.isNone
      if isDirectory && !deep && !given.has 'd' then failsAt "rm" "cannot remove" path "Is a directory"
      else if isDirectory && !deep && !(state.namesIn entry.place).isEmpty then
        failsAt "rm" "cannot remove" path "Directory not empty"
      else set { state with tree := withoutPlace state.tree entry.place }

/-- The tool `rm`. -/
def runRm (arguments : List Raw) : Run Unit :=
  rmGrammar.run arguments fun given =>
    if given.operands.isEmpty then
      if given.has 'f' then pure () else rmGrammar.refuse "missing operand"
    else given.operands.forM (removeOne given)

/-! ### Copying and moving -/

/-- Copies or moves one thing, with all below it, to a path. -/
def copyOne (tool : String) (move deep : Bool) (source goal : Raw) : Run Unit := do
  let state ← get
  let refuse (issue : Issue) : Run Unit :=
    if move then
      failsAt tool ("cannot move '" ++ textOfRaw source ++ "' to") goal (issueText issue)
    else failsAt tool "cannot create regular file" goal (issueText issue)
  match lookAt state source, state.locate goal with
  | .error issue, _ => failsAt tool "cannot stat" source (issueText issue)
  | .ok _, .error issue => refuse issue
  | .ok entry, .ok target =>
    if entry.content.isNone && !deep then
      fails tool ("-r not specified; omitting directory " ++ quotedAlways source)
    else if target == entry.place then
      fails tool (quotedAlways source ++ " and " ++ quotedAlways goal ++ " are the same file")
    else if !state.tree.isDirectory target.dropLast then
      refuse (if state.tree.isFile target.dropLast then .notDirectory else .notFound)
    else
      let copied := (state.tree.entries.filter fun other => entry.place.isPrefixOf other.place).map fun other =>
        { other with
          place := target ++ other.place.drop entry.place.length
          modified := if move then other.modified else state.now }
      let kept := if move then withoutPlace state.tree entry.place else state.tree
      set { state with tree := copied.foldl Tree.put kept }

/-- The tools `cp` and `mv`. -/
def runCopy (tool : String) (move : Bool) (arguments : List Raw) : Run Unit :=
  let grammar : Grammar := { tool, letters := if move then "f" else "fRr" }
  grammar.run arguments fun given => do
    let state ← get
    let goal := given.operands.getLast?.getD []
    let arrival (source : Raw) : Raw := withoutSlashes goal ++ '/' :: lastStep source
    match given.operands with
    | [] => grammar.refuse "missing file operand"
    | [only] => grammar.refuse ("missing destination file operand after " ++ quotedAlways only)
    | operands =>
      let inside := isDirectoryAt state goal
      if 2 < operands.length && !inside then
        failsAt tool "target" goal (issueText (if state.namesFile goal then .notDirectory else .notFound))
      else
        operands.dropLast.forM fun source =>
          copyOne tool move (move || given.has 'r' || given.has 'R') source
            (if inside then arrival source else goal)

end PromptChain.Shell.Tools
