/-
**A tree of files.**

A `Tree` holds the files and directories below one base directory. A place in it is the list of names
from the base; `Tree.locate` follows a path from a place. What lies outside the base directory is not
there, unless it is kept as something of the root (`Tree.rootPlace`).
-/

import PromptChain.Files.Path
import PromptChain.Text.Utf8

namespace PromptChain.Files

open Text (Bytes)

/-- A place in a tree: the names from the base directory. -/
abbrev Place := List String

/-- A place as text; a point is the base directory. -/
def Place.text (place : Place) : String :=
  if place.isEmpty then "." else String.intercalate "/" place

/-- A file, or a directory if it has no content. -/
structure Entry where
  place : Place
  content : Option Bytes
  /-- When it was last changed, in nanoseconds. -/
  modified : Int

/-- The files and directories below a base directory. -/
structure Tree where
  entries : List Entry := []

/-- Why something cannot be done with a path. -/
inductive Issue where
  | notFound
  | exists
  | notDirectory
  | isDirectory
  | nameTooLong
deriving DecidableEq

def Issue.reason : Issue → String
  | notFound => "[Errno 2] No such file or directory"
  | .exists => "[Errno 17] File exists"
  | notDirectory => "[Errno 20] Not a directory"
  | isDirectory => "[Errno 21] Is a directory"
  | nameTooLong => "[Errno 36] File name too long"

def Issue.message (issue : Issue) (path : String) : String :=
  issue.reason ++ ": " ++ Text.quoted path

structure Refusal where
  path : String
  issue : Issue

namespace Tree

/-! ### Looking -/

def entry? (tree : Tree) (place : Place) : Option Entry :=
  tree.entries.find? fun entry => entry.place == place

/-- Whether there is a directory at a place. The base directory is always there. -/
def isDirectory (tree : Tree) (place : Place) : Bool :=
  place.isEmpty || (tree.entry? place).any fun entry => entry.content.isNone

def content? (tree : Tree) (place : Place) : Option Bytes := (tree.entry? place).bind Entry.content

def isFile (tree : Tree) (place : Place) : Bool := (tree.content? place).isSome

def has (tree : Tree) (place : Place) : Bool := tree.isDirectory place || tree.isFile place

def childrenOf (tree : Tree) (place : Place) : List Entry :=
  tree.entries.filter fun entry => !entry.place.isEmpty && entry.place.dropLast == place

def longestName : Nat := 255

/-- Follows steps from a directory. All places on the way have to be directories; the last one need
not be there. -/
def follow (tree : Tree) (here : Place) : List String → Except Issue Place
  | [] => .ok here
  | step :: rest =>
    if !tree.isDirectory here then .error (if tree.has here then .notDirectory else .notFound)
    else if step == "." then follow tree here rest
    else if step == ".." then
      if here.isEmpty then .error .notFound else follow tree here.dropLast rest
    else if longestName < step.utf8ByteSize then .error .nameTooLong
    else follow tree (here ++ [step]) rest

/-- The place below which paths from the root are kept; no relative path has such a step. -/
def rootPlace : Place := ["/"]

/-- The place that a path names, from a directory on. A path from the root leads to one only if the tree
holds something of the root. -/
def locate (tree : Tree) (here : Place) (path : Path) : Except Issue Place :=
  if path.root == "" then tree.follow here path.steps
  else if tree.isDirectory rootPlace then tree.follow rootPlace path.steps
  else .error .notFound

def read (tree : Tree) (here : Place) (path : Path) : Except Issue Bytes :=
  match tree.locate here path with
  | .error issue => .error issue
  | .ok place =>
    match tree.content? place with
    | some bytes => .ok bytes
    | none => .error (if tree.isDirectory place then .isDirectory else .notFound)

def directoryOf? (tree : Tree) (here : Place) (path : Path) : Option Place :=
  match tree.locate here path with
  | .ok place => if tree.isFile place then some place.dropLast else none
  | .error _ => none

def names (tree : Tree) (here : Place) (path : Path) : Bool :=
  match tree.locate here path with
  | .ok place => tree.has place
  | .error _ => false

/-! ### Changing -/

/-- Puts an entry at its place, instead of what is there. -/
def put (tree : Tree) (entry : Entry) : Tree :=
  if tree.entries.any fun other => other.place == entry.place then
    ⟨tree.entries.map fun other => if other.place == entry.place then entry else other⟩
  else ⟨tree.entries ++ [entry]⟩

/-- Writes the file that a path names; its directory has to be there. -/
def write (tree : Tree) (here : Place) (path : Path) (bytes : Bytes) (now : Int) :
    Except Issue Tree :=
  match tree.locate here path with
  | .error issue => .error issue
  | .ok place =>
    if tree.isDirectory place then .error .isDirectory
    else if !tree.isDirectory place.dropLast then .error .notFound
    else .ok (tree.put { place, content := some bytes, modified := now })

/-- Makes the directory that a path names, which may be there; those above it have to be. -/
def makeDirectory (tree : Tree) (here : Place) (path : Path) (now : Int) : Except Issue Tree :=
  match tree.locate here path with
  | .error issue => .error issue
  | .ok place =>
    if tree.isDirectory place then .ok tree
    else if tree.isFile place then .error .exists
    else if !tree.isDirectory place.dropLast then .error .notFound
    else .ok (tree.put { place, content := none, modified := now })

/-- The texts of a path and of the directories above it, topmost first. -/
def ancestry (text : List Char) : List (List Char) :=
  let ends := (List.range text.length).filter fun length =>
    text[length - 1]? != some '/' && text[length]? == some '/'
  ends.map text.take ++ [text]

def makeEach (tree : Tree) (here : Place) (now : Int) : List String → Except Refusal Tree
  | [] => .ok tree
  | path :: rest =>
    match tree.makeDirectory here (.ofRawText path) now with
    | .error issue =>
      if issue == .exists && !rest.isEmpty then makeEach tree here now rest
      else .error ⟨path, issue⟩
    | .ok made => makeEach made here now rest

/-- Makes the directory of a path, and those above it; they may be there. -/
def makeDirectories (tree : Tree) (here : Place) (path : String) (now : Int) :
    Except Refusal Tree :=
  if path == "" then .error ⟨path, .notFound⟩
  else tree.makeEach here now ((ancestry path.toList).map String.ofList)

/-- Sets the time of the last change of what a path names. -/
def touch (tree : Tree) (here : Place) (path : Path) (time : Int) : Except Issue Tree :=
  match tree.locate here path with
  | .error issue => .error issue
  | .ok place =>
    match tree.entry? place with
    | some entry => .ok (tree.put { entry with modified := time })
    | none => .error .notFound

end Tree

end PromptChain.Files
