/-
**A model by script.**

For dry runs a script answers instead of a service: with texts in order, by a function of the request,
or, when it is to echo, with the direction itself.
-/

import PromptChain.Chain.Query

namespace PromptChain

def emptyAnswer (provider : String) : String := provider ++ ": empty response"

def requireAnswer (provider content : String) : ModelReply :=
  if Text.isBlankText content.toList then .unavailable (emptyAnswer provider) else .answer content

inductive ScriptedReply where
  | content (text : Option String)
  | late
  | crashed (crash : Crash)

structure Script where
  answers : List String := []
  echo : Bool := false
  responder : Option (ModelRequest → ScriptedReply) := none

namespace Script

def name : String := "scripted"

def replyOf : ScriptedReply → ModelReply
  | .content (some text) => requireAnswer name text
  | .content none => .unavailable (emptyAnswer name)
  | .late => .late
  | .crashed crash => .crashed crash

def echoOf (direction : String) : String := "[dry_run] " ++ direction

/-- Asks a script; an answer in order is used up. -/
def ask (script : Script) (request : ModelRequest) : ModelReply × Script :=
  match script.responder, script.answers with
  | some responder, _ => (replyOf (responder request), script)
  | none, answer :: rest => (requireAnswer name answer, { script with answers := rest })
  | none, [] =>
    if script.echo then (requireAnswer name (echoOf request.direction), script)
    else (.unavailable "scripted: no answer left", script)

end Script

end PromptChain
