import LineEditor.Session
import LineEditor.Toml

/-!
The configuration: the options of a session, and whether a log is kept. It is read from a TOML
document with three sections. Keys that are not known do not count, and what is missing has its
default. Where there is no file one is written that holds the defaults; a file that is there is never
changed. How TOML is read is left to a reader of it.
-/

namespace LineEditor

structure Config where
  options : Options := {}
  debug : Bool := false
  deriving DecidableEq, Repr, Inhabited

namespace Config

/-- What a new configuration file holds: every option with its default, as comments. -/
def template : String :=
"# lined configuration file

[editor]
# Prompt written before each command (default: none)
#prompt = \"*\"

# Explain each error after its '?' (default: false)
#verbose_errors = false

# Print line counts after reading or writing a file (default: true)
#show_counts = true

[regex]
# Pattern syntax: \"pcre\" (default), \"ere\", or \"bre\"
#flavor = \"pcre\"

[logging]
# Write a debug log to ~/.lined/lined.log (default: false)
#debug = false
"

/-! ### Reading a value as what it is to be -/

/-- The field of a record by its name, or by its place where the record is written as an array.
A date holds no fields, and no other value is a record. -/
def field? (value : Toml.Value) (name : String) (place : Nat) : Option (Option Toml.Value) :=
  match value with
  | .table _ entries => some (entries.lookup name.toList)
  | .array items => some items[place]?
  | .tables items => some (items[place]?.map (.table .header))
  | .moment => some none
  | _ => none

def readField {α : Type} (value : Toml.Value) (name : String) (place : Nat) (default : α)
    (read? : Toml.Value → Option α) : Option α := do
  match ← field? value name place with
  | some value => read? value
  | none => return default

def readText? : Toml.Value → Option Text
  | .text t => some t
  | _ => none

def readBool? : Toml.Value → Option Bool
  | .boolean b => some b
  | _ => none

def flavorOfName? (name : Text) : Option Flavor :=
  if name = "bre".toList then some .basic
  else if name = "ere".toList then some .extended
  else if name = "pcre".toList then some .perl
  else none

def isEmpty : Toml.Value → Bool
  | .array items => items.isEmpty
  | .table _ entries => entries.isEmpty
  | .tables items => items.isEmpty
  | _ => false

/-- A flavor is its name, or a table with the name as its first key and nothing under it. A table
in braces has no other key. -/
def readFlavor? : Toml.Value → Option Flavor
  | .text name => flavorOfName? name
  | .table origin ((name, value) :: rest) =>
    if isEmpty value && (origin ≠ .inline || rest.isEmpty) then flavorOfName? name else none
  | _ => none

def readOptions? (editor : Toml.Value) (flavor : Flavor) : Option Options := do
  return {
    prompt := ← readField editor "prompt" 0 [] readText?
    explain := ← readField editor "verbose_errors" 1 false readBool?
    showCounts := ← readField editor "show_counts" 2 true readBool?
    flavor }

def ofTable? (table : Toml.Table) : Option Config := do
  let empty : Toml.Value := .table .implied []
  let part (name : String) : Toml.Value := (table.lookup name.toList).getD empty
  let flavor ← readField (part "regex") "flavor" 0 .perl readFlavor?
  return {
    options := ← readOptions? (part "editor") flavor
    debug := ← readField (part "logging") "debug" 0 false readBool? }

def parse? (toml : Toml.Parser) (text : Text) : Option Config := do ofTable? (← toml text)

/-! ### What can be wrong -/

inductive Invalid where
  | malformed
  | longPrompt (prompt : Text)
  deriving DecidableEq, Repr, Inhabited

def Invalid.message : Invalid → String
  | malformed => "Failed to parse configuration"
  | longPrompt prompt => "Invalid prompt: " ++ Text.Quoted.text prompt ++ " (must be a single line)"

inductive LoadFailure where
  | createDirectory (path : Text) (cause : Refusal)
  | writeTemplate (path : Text) (cause : Refusal)
  | read (path : Text) (cause : Refusal)
  | invalid (path : Text) (cause : Invalid)
  deriving DecidableEq, Repr, Inhabited

namespace LoadFailure

def messages : LoadFailure → String × String
  | createDirectory path cause =>
    ("Failed to create config directory: " ++ String.ofList path, cause.message)
  | writeTemplate path cause =>
    ("Failed to write default config file: " ++ String.ofList path, cause.message)
  | read path cause => ("Failed to read config file: " ++ String.ofList path, cause.message)
  | invalid path cause => ("Invalid config file: " ++ String.ofList path, cause.message)

end LoadFailure

def validate (config : Config) : Except Invalid Unit :=
  let prompt := config.options.prompt
  if prompt.contains '\n' || prompt.contains '\r' then .error (.longPrompt prompt) else .ok ()

def check (toml : Toml.Parser) (text : Text) : Except Invalid Config :=
  match parse? toml text with
  | none => .error .malformed
  | some config => (validate config).map fun _ => config

/-! ### Where things are -/

def join (base name : Text) : Text :=
  if base = [] ∨ base.getLast? = some '/' then base ++ name else base ++ '/' :: name

def directory (home : Text) : Text := join home ".lined".toList

def path (home : Text) : Text := join (directory home) "config.toml".toList

def logPath (home : Text) : Text := join (directory home) "lined.log".toList

/-! ### Loading -/

def writeTemplate (home : Text) (files : Files) : Except LoadFailure Config × Files :=
  match files.createDirectory (directory home) with
  | (.error cause, files) => (.error (.createDirectory (directory home) cause), files)
  | (.ok _, files) =>
    match files.write (path home) (Utf8.encode template.toList) with
    | (.error cause, files) => (.error (.writeTemplate (path home) cause), files)
    | (.ok _, files) => (.ok {}, files)

def loadFile (toml : Toml.Parser) (home : Text) (files : Files) : Except LoadFailure Config :=
  match files.read (path home) with
  | .error cause => .error (.read (path home) cause)
  | .ok content =>
    match Utf8.decode? content with
    | none => .error (.read (path home) .notUtf8)
    | some text => (check toml text).mapError (.invalid (path home))

def load (toml : Toml.Parser) (home : Text) (files : Files) :
    Except LoadFailure Config × Files :=
  if files.pathExists (path home) then (loadFile toml home files, files)
  else writeTemplate home files

end Config

end LineEditor
