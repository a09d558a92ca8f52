/-
**The program.**

Files below the working directory, and those that are named from the root, are read into a tree; the
command line is carried out on it, and what has changed is written back.
-/

import PromptChain.CommandLine.Perform

namespace PromptChain.Main

open CommandLine

/-- The path of a place, from the working directory on. -/
def pathOf (place : Files.Place) : String :=
  match place with
  | "/" :: steps => "/" ++ String.intercalate "/" steps
  | steps => String.intercalate "/" steps

def nanoseconds (time : IO.FS.SystemTime) : Int := time.sec * 1000000000 + time.nsec.toNat

def readEntry (place : Files.Place) (path : String) : IO (Option Files.Entry) := do
  try
    let found ← (← IO.FS.realPath path).metadata
    let modified := nanoseconds found.modified
    match found.type with
    | .dir => pure (some { place, content := none, modified })
    | .file =>
      let content ← IO.FS.readBinFile path
      pure (some { place, content := some content.toList, modified })
    | _ => pure none
  catch _ => pure none

/-- The entries below a directory, down to a depth. -/
def readBelow (depth : Nat) (place : Files.Place) (path : String) : IO (List Files.Entry) := do
  match depth with
  | 0 => pure []
  | depth + 1 =>
    let names ← try
        let inside ← (← IO.FS.realPath path).readDir
        pure (inside.toList.map fun entry => entry.fileName)
      catch _ => pure []
    let parts ← names.mapM fun name => do
      let inner := path ++ "/" ++ name
      match ← readEntry (place ++ [name]) inner with
      | none => pure []
      | some entry =>
        let more ← if entry.content.isNone then readBelow depth (place ++ [name]) inner else pure []
        pure (entry :: more)
    pure parts.flatten

/-- The entries on the way to a path from the root, and its own. -/
def readRooted (path : String) : IO (List Files.Entry) := do
  let steps := (Files.Path.ofText path).steps
  let places := (List.range (steps.length + 1)).map fun count => "/" :: steps.take count
  let entries ← places.mapM fun place => readEntry place (pathOf place)
  pure (entries.filterMap id)

/-- The environment: texts with an equals sign, each ended by a NUL. -/
def readEnvironment : IO Bindings := do
  let bytes ← try IO.FS.readBinFile "/proc/self/environ" catch _ => pure .empty
  let texts := (Text.splitOnChar '\x00' (Shell.rawOfBytes bytes.toList)).filter fun text => !text.isEmpty
  pure (texts.map fun text =>
    let name := text.takeWhile (· != '=')
    (Shell.textOfRaw name, Shell.textOfRaw (text.drop (name.length + 1))))

def readTime : IO Int := do
  let (_, path) ← IO.FS.createTempFile
  let time := nanoseconds (← path.metadata).modified
  IO.FS.removeFile path
  pure time

def deepest : Nat := 16

def readWorld (arguments : List String) : IO World := do
  let env ← readEnvironment
  let base := (← IO.currentDir).toString
  let home := Files.Path.ofText ((env.lookup "HOME").getD "/")
  let now ← readTime
  let named := (Settings.homePath home).text :: (env.lookup "PROMPTLANG_CONFIG").toList ++ arguments
  let rooted ← (named.filter fun path => path.toList.head? == some '/').mapM readRooted
  let below ← readBelow deepest [] "."
  let tree := rooted.flatten.foldl Files.Tree.put ⟨below⟩
  pure ⟨tree, ⟨(now / 1000).toNat, now⟩, now, env, home, base⟩

def writeEntry (before : Files.Tree) (entry : Files.Entry) : IO Unit := do
  match entry.content with
  | none => if !before.isDirectory entry.place then IO.FS.createDirAll (pathOf entry.place)
  | some content =>
    if before.content? entry.place != some content then
      IO.FS.writeBinFile (pathOf entry.place) ⟨content.toArray⟩

def removeEntry (after : Files.Tree) (entry : Files.Entry) : IO Unit := do
  if !after.has entry.place then
    if entry.content.isNone then IO.FS.removeDir (pathOf entry.place)
    else IO.FS.removeFile (pathOf entry.place)

def writeBack (before after : Files.Tree) : IO Unit := do
  after.entries.forM (writeEntry before)
  before.entries.reverse.forM (removeEntry after)

end PromptChain.Main

def main (arguments : List String) : IO UInt32 := do
  let world ← PromptChain.Main.readWorld arguments
  let done := PromptChain.CommandLine.perform arguments world
  PromptChain.Main.writeBack world.tree done.world.tree
  IO.print done.stdout
  IO.eprint done.stderr
  match done.exit with
  | .code number => pure number.toUInt32
  | .escaped error =>
    IO.eprintln error.message
    pure 1
  | .nameless resumed =>
    IO.eprintln (PromptChain.CommandLine.namelessMessage resumed)
    pure 1
