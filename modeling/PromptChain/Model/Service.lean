/-
**Model services.**

A `Client` is a service that is ready to be asked. It makes a request out of a direction and the turns
before it (`Client.request`), reads the content out of a reply (`contentOf`), and asks with retries
(`Client.call`, `Client.ask`). Without a key, or without what is needed to reach it, a service is not available.
-/

import PromptChain.Model.Retry
import PromptChain.Model.Script
import PromptChain.Settings
import PromptChain.Text.Lowercase

namespace PromptChain

namespace Service

def all : List Service := [.openai, .anthropic, .cohere, .ollama]

def name : Service → String
  | openai => "openai"
  | anthropic => "anthropic"
  | cohere => "cohere"
  | ollama => "ollama"

def ofName? (name : String) : Option Service := all.find? fun service => service.name == name

/-- The model that is asked unless the settings name one. -/
def standardModel : Service → String
  | openai => "gpt-4o"
  | anthropic => "claude-sonnet-4-5"
  | cohere => "command-r-plus"
  | ollama => "llama3.3"

def unavailableMessage : Service → String
  | openai => "OpenAI not available: missing client or OPENAI_API_KEY"
  | anthropic => "Anthropic not available"
  | cohere => "Cohere not available"
  | ollama => "Ollama not available"

end Service

/-- A service that is ready to be asked. -/
structure Client where
  service : Service
  model : String
  settings : Settings
  /-- The key that was handed over. -/
  key : Option String := none
  /-- The address, for a service that has one. -/
  base : Option String := none

namespace Client

/-- Makes a service ready, if it can be reached and has its key or its address. -/
def connect? (settings : Settings) (env : Bindings) (reachable : Service → Bool) (service : Service) :
    Option Client :=
  let model := (settings.model.filter (· != "")).getD service.standardModel
  if !reachable service then none
  else
    match service with
    | .ollama =>
      (settings.ollamaHost.filter (· != "")).map fun host =>
        let base := String.ofList (Text.dropEndWhile (· == '/') host.toList)
        { service, model, settings, base := some base }
    | _ => (settings.apiKey env service).map fun key => { service, model, settings, key := some key }

/-! ### Requests -/

def message (role content : String) : Json := .obj [("role", .str role), ("content", .str content)]

/-- The turns, oldest first, and the new direction as messages. -/
def messages (direction : String) (history : List Turn) : Json :=
  .arr (history.flatMap (fun turn =>
      [message "user" turn.direction, message "assistant" turn.answer])
    ++ [message "user" direction])

def request (client : Client) (direction : String) (history : List Turn) : Json :=
  let settings := client.settings
  let model := ("model", Json.str client.model)
  let conversation := ("messages", messages direction history)
  let temperature := ("temperature", Json.float settings.temperature)
  let most := ("max_tokens", Json.int settings.maxTokens)
  let timeout := ("timeout", Json.float settings.modelTimeout)
  match client.service with
  | .openai => .obj [model, conversation, temperature, most, timeout]
  | .anthropic => .obj [model, most, temperature, conversation, timeout]
  | .cohere => .obj [model, conversation, temperature, most]
  | .ollama =>
    let body := Json.obj [model, conversation, ("stream", .bool false), ("options", .obj [temperature])]
    .obj [("url", .str (client.base.getD "" ++ "/api/chat")), ("json", body), timeout]

end Client

/-! ### Replies -/

structure ReplyPart where
  kind : Option Json := none
  text : Option Json := none

inductive ServiceReply where
  | failed (failure : AttemptFailure)
  /-- The contents of the choices; none if there is no reply at all. -/
  | choices (contents : Option (List Json))
  | parts (parts : Option (List ReplyPart))
  /-- A body, with the complaint of the server if it has one. -/
  | body (value : Json) (complaint : Option String)

def isNothing : Json → Bool
  | .null => true
  | .bool value => !value
  | .int value => value == 0
  | .float value => value == 0.0
  | .str text => text == ""
  | .brokenStr => false
  | .arr items => items.isEmpty
  | .obj fields => fields.isEmpty

def typeName : Json → String
  | .null => "NoneType"
  | .bool _ => "bool"
  | .int _ => "int"
  | .float _ => "float"
  | .str _ | .brokenStr => "str"
  | .arr _ => "list"
  | .obj _ => "dict"

def noMember (type member : String) : String :=
  "'" ++ type ++ "' object has no attribute '" ++ member ++ "'"

/-- The text of a string; half of a surrogate pair counts as the replacement character. -/
def stringOf? : Json → Option String
  | .str text => some text
  | .brokenStr => some "\ufffd"
  | _ => none

/-- The texts of parts put together; all of them have to be texts. -/
def joinTexts (index : Nat) : List Json → Except String String
  | [] => .ok ""
  | item :: rest =>
    match stringOf? item, joinTexts (index + 1) rest with
    | some text, .ok more => .ok (text ++ more)
    | some _, .error problem => .error problem
    | none, _ =>
      .error ("sequence item " ++ toString index ++ ": expected str instance, " ++ typeName item
        ++ " found")

def textsOfParts : List ReplyPart → Except String (List Json)
  | [] => .ok []
  | part :: rest =>
    match part.text, textsOfParts rest with
    | some text, .ok texts => .ok (text :: texts)
    | some _, .error problem => .error problem
    | none, _ => .error (noMember "types.SimpleNamespace" "text")

def ReplyPart.isText (part : ReplyPart) : Bool :=
  match part.kind with
  | some (.str kind) => kind == "text"
  | _ => false

def markedContent : Option (List ReplyPart) → Except String Json
  | none => .error "'NoneType' object is not iterable"
  | some parts =>
    match textsOfParts (parts.filter ReplyPart.isText) with
    | .error problem => .error problem
    | .ok texts =>
      match joinTexts 0 texts with
      | .ok text => .ok (.str text)
      | .error problem => .error problem

/-- The content of all parts; one without text counts as empty. -/
def allContent (parts : Option (List ReplyPart)) : Except String Json :=
  match joinTexts 0 ((parts.getD []).map fun part => part.text.getD (.str "")) with
  | .ok text => .ok (.str text)
  | .error problem => .error problem

/-- The message among fields, unless it is nothing. -/
def messageOf? (fields : List (String × Json)) : Option Json :=
  (Assoc.get? fields "message").filter (!isNothing ·)

def bodyContent : Json → Except String Json
  | .obj fields =>
    match messageOf? fields with
    | none => .ok (.str "")
    | some (.obj inner) => .ok ((Assoc.get? inner "content").getD (.str ""))
    | some other => .error (noMember (typeName other) "get")
  | _ => .ok (.str "")

def contentOf (service : Service) : ServiceReply → Except AttemptFailure Json
  | .failed failure => .error failure
  | .choices contents => .ok (((contents.getD []).head?).getD (.str ""))
  | .parts parts =>
    let content := if service == .anthropic then markedContent parts else allContent parts
    content.mapError ({ problem := · })
  | .body _ (some complaint) => .error { problem := complaint }
  | .body value none => (bodyContent value).mapError ({ problem := · })

/-! ### Asking -/

inductive ServiceAnswer where
  | answer (text : String)
  | unavailable (problem : String)
  /-- The content is of a type that is no text. -/
  | foreign (crash : Crash)

def answerOf (service : Service) (content : Json) : ServiceAnswer :=
  if isNothing content then .unavailable (emptyAnswer service.name)
  else
    match stringOf? content with
    | some text =>
      if Text.isBlankText text.toList then .unavailable (emptyAnswer service.name) else .answer text
    | none => .foreign { message := noMember (typeName content) "strip", kind := "AttributeError" }

/-- What a chain gets for an answer. -/
def ServiceAnswer.reply : ServiceAnswer → ModelReply
  | answer text => .answer text
  | unavailable problem => .unavailable problem
  | foreign crash => .crashed crash

/-- What is said of a failure; one of the model itself speaks for itself. -/
def AttemptFailure.message (failure : AttemptFailure) (service : Service) : String :=
  if failure.unavailable then failure.problem else service.name ++ ": " ++ failure.problem

/-- The steps of one request and what comes of them. -/
structure Asked where
  steps : List RetryStep
  answer : ServiceAnswer

def Asked.made (asked : Asked) : Nat := asked.steps.count .attempt

/-- The pauses between the attempts, in half seconds. -/
def Asked.pauses (asked : Asked) : List Nat :=
  asked.steps.filterMap fun
    | .attempt => none
    | .pause halfSeconds => some halfSeconds

/-- Asks a service by attempts, of which each gives a content or fails. -/
def Client.call (client : Client) (attempt : Nat → Except AttemptFailure Json) : Asked :=
  let attempts := attemptAll attempt client.settings.retries.toNat
  let answer := match attempts.result with
    | .ok content => answerOf client.service content
    | .error failure => .unavailable (failure.message client.service)
  ⟨attempts.steps, answer⟩

/-- Asks a service, whose replies are given by the number of the attempt. -/
def Client.ask (client : Client) (reply : Nat → ServiceReply) : Asked :=
  client.call fun index => contentOf client.service (reply index)

/-! ### Selecting -/

inductive Provider where
  | script (script : Script)
  | client (client : Client)

/-- Which provider the settings ask for, in small letters and without blanks around it. -/
def forcedProvider (settings : Settings) : String :=
  Text.lowercase (Text.trimmed (settings.provider.getD ""))

/-- A service, with the log line if it is not available. -/
def tryService (settings : Settings) (env : Bindings) (reachable : Service → Bool)
    (service : Service) : Option Client × List LogLine :=
  match Client.connect? settings env reachable service with
  | some client => (some client, [])
  | none => (none, [⟨.debug, "[model] " ++ service.unavailableMessage⟩])

def firstAvailable (settings : Settings) (env : Bindings) (reachable : Service → Bool) :
    List Service → Option Client × List LogLine
  | [] => (none, [])
  | service :: rest =>
    match tryService settings env reachable service with
    | (some client, log) => (some client, log)
    | (none, log) =>
      let (client, more) := firstAvailable settings env reachable rest
      (client, log ++ more)

/-- The provider that the settings ask for, or the first that is available. -/
def selectProvider (settings : Settings) (env : Bindings) (reachable : Service → Bool) :
    Option Provider × List LogLine :=
  let forced := forcedProvider settings
  if forced == "scripted" || forced == "echo" then (some (.script { echo := true }), [])
  else
    let (client, log) :=
      if forced == "" then firstAvailable settings env reachable Service.all
      else
        match Service.ofName? forced with
        | some service => tryService settings env reachable service
        | none => (none, [⟨.warning, "[model] unknown provider '" ++ forced ++ "'"⟩])
    (client.map .client, log)

/-- The provider of a run. Nothing is asked for real in a dry run, unless the provider is given. -/
def providerFor (settings : Settings) (env : Bindings) (reachable : Service → Bool) (dry : Bool)
    (given : Option Script) : Option Provider × List LogLine :=
  match given with
  | some script => (some (.script script), [])
  | none =>
    if dry then (some (.script { echo := true }), []) else selectProvider settings env reachable

end PromptChain
