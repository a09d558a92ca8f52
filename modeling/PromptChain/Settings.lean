/-
**Settings.**

Settings come from a configuration file, from environment variables and from explicit values; what
comes later wins (`Settings.load`). Empty environment variables count as not set. All problems with the
values are reported together, in the order of the fields.
-/

import PromptChain.Files.Tree
import PromptChain.Load
import PromptChain.Shape.Reader

namespace PromptChain

/-- The services that answer directions. -/
inductive Service where
  | openai
  | anthropic
  | cohere
  | ollama
deriving DecidableEq

structure Settings where
  provider : Option String := none
  model : Option String := none
  temperature : Float := 0.7
  maxTokens : Int := 1000
  /-- How long to wait for the model, in seconds. -/
  modelTimeout : Float := 60.0
  /-- How long a command may take, in seconds; none for any time. -/
  commandTimeout : Option Float := some 120.0
  /-- How often a failed request is made again. -/
  retries : Int := 2
  /-- Where transcripts are kept. -/
  stateDirectory : String := "./.promptlang_state"
  ollamaHost : Option String := none
  openaiKey : Option String := none
  anthropicKey : Option String := none
  cohereKey : Option String := none

namespace Settings

open Shape

/-! ### Reading -/

def between (least most : Nat) (value : Float) : Option Issue :=
  if !(value ≤ most.toFloat) then some (.aboveMost most)
  else if !(least.toFloat ≤ value) then some (.belowLeast least)
  else none

def positive (value : Float) : Option Issue := if 0.0 < value then none else some (.notAbove 0)

def positiveInt (value : Int) : Option Issue := if 0 < value then none else some (.notAbove 0)

def natural (value : Int) : Option Issue := if 0 ≤ value then none else some (.belowLeast 0)

/-- Reads settings from fields; fields of other names are ignored. -/
def readFields (fields : List (String × Json)) : Checked Settings :=
  let standard : Settings := {}
  let maybeText (key : String) : Checked (Option String) := optional (nullable Shape.text) none fields key
  let first := ((Checked.with (.ok Settings.mk) (maybeText "provider")).with (maybeText "model")).with
    (optional (ensuring Shape.boundedFloat (between 0 2)) standard.temperature fields "temperature")
  let second := (first.with
    (optional (ensuring Shape.int positiveInt) standard.maxTokens fields "max_tokens")).with
    (optional (ensuring Shape.boundedFloat positive) standard.modelTimeout fields "model_timeout_s")
  let third := (second.with (optional (nullable (ensuring Shape.boundedFloat positive))
      standard.commandTimeout fields "command_timeout_s")).with
    (optional (ensuring Shape.int natural) standard.retries fields "retries")
  let fourth := third.with (optional Shape.text standard.stateDirectory fields "state_dir")
  (((fourth.with (maybeText "ollama_host")).with (maybeText "api_key_openai")).with
    (maybeText "api_key_anthropic")).with (maybeText "api_key_cohere")

/-! ### Sources of settings -/

def environmentFields : List (String × String) :=
  [("PROMPTLANG_AI_PROVIDER", "provider"), ("PROMPTLANG_AI_MODEL", "model"),
    ("PROMPTLANG_TEMPERATURE", "temperature"), ("PROMPTLANG_MAX_TOKENS", "max_tokens"),
    ("PROMPTLANG_MODEL_TIMEOUT_S", "model_timeout_s"),
    ("PROMPTLANG_COMMAND_TIMEOUT_S", "command_timeout_s"), ("PROMPTLANG_RETRIES", "retries"),
    ("PROMPTLANG_STATE_DIR", "state_dir"), ("OLLAMA_HOST", "ollama_host")]

/-- The value of an environment variable, unless it is empty. -/
def setVariable? (env : Bindings) (name : String) : Option String :=
  (Assoc.get? env name).filter (· != "")

/-- Puts the fields that the environment sets over others. -/
def withEnvironment (env : Bindings) (fields : List (String × Json)) : List (String × Json) :=
  environmentFields.foldl
    (fun fields entry =>
      match setVariable? env entry.1 with
      | some value => Assoc.set fields entry.2 (.str value)
      | none => fields)
    fields

/-- Puts explicit values over others; null is no value. -/
def withOverrides (overrides fields : List (String × Json)) : List (String × Json) :=
  overrides.foldl
    (fun fields entry =>
      match entry.2 with
      | .null => fields
      | value => Assoc.set fields entry.1 value)
    fields

inductive Failure where
  | unreadable (path problem : String)
  | notObject (path : String)
  /-- A number in the file has more digits than are read. -/
  | hugeNumber (problem : String)
  | notText (error : Text.Utf8Error)
  | invalid (problems : List Problem)

def Failure.message : Failure → String
  | unreadable path problem => "Config file " ++ path ++ " could not be read: " ++ problem
  | notObject path => "Config file " ++ path ++ " must contain a JSON object"
  | hugeNumber problem => problem
  | notText error => error.message
  | invalid problems =>
    "Invalid configuration: " ++ String.intercalate "; " (problems.map Problem.text)

/-- The path of the configuration file below the home directory. -/
def homePath (home : Files.Path) : Files.Path :=
  home.join (Files.Path.ofText ".config/promptlang/config.json")

/-- The path of the configuration file: the one that is given, the one that the environment names, or
the one below the home directory. -/
def configPath (home : Files.Path) (env : Bindings) (given : Option Files.Path) : Files.Path :=
  match given, setVariable? env "PROMPTLANG_CONFIG" with
  | some path, _ => path
  | none, some path => Files.Path.ofText path
  | none, none => homePath home

/-- The fields of a configuration file; none are set if it is not there. -/
def fileFields (tree : Files.Tree) (here : Files.Place) (path : Files.Path) :
    Except Failure (List (String × Json)) :=
  if !tree.names here path then .ok []
  else
    match readText tree here path with
    | .error (.notText error) => .error (.notText error)
    | .error error => .error (.unreadable path.text error.message)
    | .ok text =>
      match Json.read text.toList with
      | .error fault =>
        match fault.problem with
        | .tooManyDigits _ => .error (.hugeNumber (fault.message text.toList))
        | _ => .error (.unreadable path.text (fault.message text.toList))
      | .ok (.obj fields) => .ok fields
      | .ok _ => .error (.notObject path.text)

structure Surroundings where
  tree : Files.Tree
  here : Files.Place
  home : Files.Path
  env : Bindings

/-- The settings of a configuration file, the environment and explicit values. -/
def load (surroundings : Surroundings) (given : Option Files.Path)
    (overrides : List (String × Json)) : Except Failure Settings :=
  let path := configPath surroundings.home surroundings.env given
  match fileFields surroundings.tree surroundings.here path with
  | .error failure => .error failure
  | .ok fields =>
    match readFields (withOverrides overrides (withEnvironment surroundings.env fields)) with
    | .ok settings => .ok settings
    | .error problems => .error (.invalid problems)

/-! ### Keys -/

/-- The environment variable that holds the key of a service. -/
def keyVariable? : Service → Option String
  | .openai => some "OPENAI_API_KEY"
  | .anthropic => some "ANTHROPIC_API_KEY"
  | .cohere => some "COHERE_API_KEY"
  | .ollama => none

def storedKey (settings : Settings) : Service → Option String
  | .openai => settings.openaiKey
  | .anthropic => settings.anthropicKey
  | .cohere => settings.cohereKey
  | .ollama => none

/-- The key of a service; the environment wins, and an empty key is none. -/
def apiKey (settings : Settings) (env : Bindings) (service : Service) : Option String :=
  match (keyVariable? service).bind (setVariable? env) with
  | some key => some key
  | none => (settings.storedKey service).filter (· != "")

end Settings

end PromptChain
