/-
**Sessions: a conversation and its variables.**

A session is a log of turns, to which is only ever appended, and the values of variables. Binding the
captures of a match drops the numbered captures of the match before (`Session.bind`).
-/

import PromptChain.Shape.Reader
import PromptChain.Text.Digits
import PromptChain.Variable

namespace PromptChain

/-- A direction with its answer, and the unit that asked. -/
structure Turn where
  direction : String
  answer : String
  unit : Option String := none
deriving DecidableEq

/-- The turns of a conversation, oldest first, and the values of variables. -/
structure Session where
  turns : List Turn := []
  bindings : Bindings := []
deriving DecidableEq

/-- Whether a name is that of a numbered capture: an M and digits. One newline at the end does not
count. -/
def isNumberedCapture (name : String) : Bool :=
  match name.toList with
  | 'M' :: rest =>
    let digits := if rest.getLast? == some '\n' then rest.dropLast else rest
    !digits.isEmpty && digits.all fun c => Text.isDigitCode c.toNat
  | _ => false

/-- Adds captures to variables. If a numbered one is among them, the numbered ones of before go. -/
def bindCaptures (bindings values : Bindings) : Bindings :=
  let kept :=
    if values.any fun entry => isNumberedCapture entry.1 then
      bindings.filter fun entry => !isNumberedCapture entry.1
    else bindings
  Assoc.setAll kept values

namespace Session

/-- The variables of a session that starts with a user's text. -/
def startBindings (user : String) : Bindings := [("AI", ""), ("USER", user)]

def start (user : String) : Session := ⟨[], startBindings user⟩

/-- Appends a turn and makes its answer the current one. -/
def appendTurn (session : Session) (turn : Turn) : Session where
  turns := session.turns ++ [turn]
  bindings := Assoc.set session.bindings "AI" turn.answer

def bind (session : Session) (values : Bindings) : Session :=
  { session with bindings := bindCaptures session.bindings values }

def setVariable (session : Session) (name value : String) : Session :=
  { session with bindings := Assoc.set session.bindings name value }

def lookup (session : Session) (name : String) : Option String :=
  Assoc.get? session.bindings name

def currentAnswer (session : Session) : Option String := session.turns.getLast?.map Turn.answer

/-- The turns to send with a request; none if the conversation is not to be included. -/
def history (session : Session) (included : Bool) : List Turn := if included then session.turns else []

def turnText (turn : Turn) : String :=
  let label := match turn.unit.filter (· != "") with
    | some unit => "[" ++ unit ++ "] "
    | none => ""
  label ++ "DIRECTION: " ++ turn.direction ++ "\nANSWER: " ++ turn.answer

/-- The turns as one text, with a direction that waits for its answer behind them. -/
def transcript (session : Session) (pending : Option String) (included : Bool) : String :=
  let past := (session.history included).map turnText
  let last := pending.elim [] fun direction => ["DIRECTION: " ++ direction]
  String.intercalate "\n\n" (past ++ last)

/-! ### As a record -/

def readTurn : Shape.Reader Turn := Shape.record "Turn" fun fields =>
  ((Shape.Checked.with (.ok Turn.mk) (Shape.required Shape.text fields "direction")).with
    (Shape.required Shape.text fields "answer")).with
    (Shape.optional (Shape.nullable Shape.text) none fields "unit")

def read : Shape.Reader Session := Shape.record "SessionState" fun fields =>
  (Shape.Checked.with (.ok Session.mk) (Shape.optional (Shape.list readTurn) [] fields "turns")).with
    (Shape.optional (Shape.map Shape.text) [] fields "bindings")

def optionalText : Option String → Json
  | some text => .str text
  | none => .null

def turnRecord (turn : Turn) : Json :=
  .obj [("direction", .str turn.direction), ("answer", .str turn.answer),
    ("unit", optionalText turn.unit)]

def bindingsRecord (bindings : Bindings) : Json :=
  .obj (bindings.map fun entry => (entry.1, .str entry.2))

def toRecord (session : Session) : Json :=
  .obj [("turns", .arr (session.turns.map turnRecord)), ("bindings", bindingsRecord session.bindings)]

end Session

end PromptChain
