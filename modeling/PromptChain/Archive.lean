/-
**A directory of transcripts.**

An archive keeps the transcripts of chains in the files of one directory. The name of a file is the name
of the unit, less the characters that are neither letters, digits, hyphens nor underscores, with a time
stamp behind it (`Archive.fileName`). Transcripts are found by the start of their names, the newest first.
-/

import PromptChain.Files.Glob
import PromptChain.Load
import PromptChain.Text.Letters
import PromptChain.Time.Stamp
import PromptChain.Transcript

namespace PromptChain

/-- A directory of transcripts, by its path. -/
structure Archive where
  base : String

namespace Archive

/-- The characters of a name that may stand in a file name. -/
def safeName (name : String) : String :=
  String.ofList (name.toList.filter fun c => Text.isAlphanumeric c || c == '-' || c == '_')

def fileName (name timestamp : String) : String := safeName name ++ "_" ++ timestamp ++ ".json"

def create (archive : Archive) (tree : Files.Tree) (here : Files.Place) (now : Int) :
    Except Files.Refusal Files.Tree :=
  tree.makeDirectories here archive.base now

/-- The files together with the clock by which they are dated. -/
structure Storage where
  tree : Files.Tree
  here : Files.Place
  clock : Time.Clock

/-- Saves the transcript of a chain; gives its path. The clock is looked at in any case. -/
def save (archive : Archive) (storage : Storage) (name : String) (session : Session)
    (report : Report) : Except Files.Refusal String × Storage :=
  let timestamp := Time.stamp storage.clock.moment
  let path := Files.joinText archive.base (fileName name timestamp)
  let transcript : Transcript := { unit := name, timestamp, session, report }
  let clock := storage.clock.looked
  match storage.tree.write storage.here (.ofRawText path) (Text.encode transcript.text)
      clock.modified with
  | .error issue => (.error ⟨path, issue⟩, { storage with clock })
  | .ok tree => (.ok path, { storage with tree, clock := clock.written })

inductive LoadFailure where
  | missing (path : String)
  | unreadable (error : LoadError)
  | invalid (path : String)

def LoadFailure.message : LoadFailure → String
  | missing path => "State file not found: " ++ path
  | unreadable error => error.message
  | invalid path => "File content is not a valid transcript: " ++ path

def load (tree : Files.Tree) (here : Files.Place) (path : String) : Except LoadFailure Transcript :=
  let raw := Files.Path.ofRawText path
  if !tree.names here raw then .error (.missing path)
  else
    match tree.read here raw with
    | .error issue => .error (.unreadable (.unreadable path issue))
    | .ok bytes =>
      match Text.decode bytes with
      | .error error => .error (.unreadable (.notText error))
      | .ok text =>
        match Transcript.ofText? (universalNewlines text) with
        | some transcript => .ok transcript
        | none => .error (.invalid path)

/-- When what a path names was last changed. -/
def modified (tree : Files.Tree) (here : Files.Place) (path : String) : Int :=
  match tree.locate here (.ofRawText path) with
  | .ok place => (tree.entry? place).elim 0 Files.Entry.modified
  | .error _ => 0

/-- The paths of transcripts whose names start as a pattern says, the newest first. -/
def list (archive : Archive) (tree : Files.Tree) (here : Files.Place) (start : String) :
    List String :=
  let found := Files.glob tree here (Files.joinText archive.base (start ++ "*.json"))
  found.mergeSort fun first second => decide (modified tree here second ≤ modified tree here first)

def latest? (archive : Archive) (tree : Files.Tree) (here : Files.Place) (name : String) :
    Option String :=
  (archive.list tree here (name ++ "_")).head?

end Archive

end PromptChain
