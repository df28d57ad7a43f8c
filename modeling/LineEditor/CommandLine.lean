import LineEditor.Config
import LineEditor.Session.Execute

/-!
The program as a whole: what its arguments ask for, and a session from its start to its end.
-/

namespace LineEditor.CommandLine

def name : String := "lined"

def version : String := name ++ " 0.1.0"

def longVersion : String :=
  version ++ "

License: MIT
Configuration: ~/.lined/config.toml"

def usage : String := "Usage: " ++ name ++ " [FILE]"

inductive Request where
  | edit (file : Option Text)
  | version (long : Bool)
  | usage
  | refused
  deriving DecidableEq, Repr, Inhabited

def positional (file : Option Text) (argument : Text) : Option Text :=
  if argument = [] ∨ file.isSome then none else some argument

/-- What the arguments ask for, taken from the left. After `--` every argument is a file. -/
def requestOf (file : Option Text) (optionsEnded : Bool) : List Text → Request
  | [] => .edit file
  | argument :: rest =>
    if !optionsEnded && argument = "--".toList then requestOf file true rest
    else if !optionsEnded && argument = "--version".toList then .version true
    else if !optionsEnded && argument = "--help".toList then .usage
    else
      match optionsEnded, argument with
      | false, '-' :: 'V' :: _ => .version false
      | false, '-' :: 'h' :: _ => .usage
      | false, '-' :: _ :: _ => .refused
      | _, _ =>
        match positional file argument with
        | none => .refused
        | some file => requestOf (some file) optionsEnded rest

def request (arguments : List Text) : Request := requestOf none false arguments

structure Outcome where
  exit : Nat
  written : Bytes
  warnings : List String
  files : Files
  deriving Inhabited

variable (engine : Engine) (toml : Toml.Parser)

def configure (home : Text) (files : Files) : Config × List String × Files :=
  match Config.load toml home files with
  | (.ok config, files) => (config, [], files)
  | (.error failure, files) =>
    let (what, why) := failure.messages
    ({}, ["Warning: " ++ what ++ ": " ++ why ++ "; using default configuration"], files)

/-- Opens the log, which is created if it is missing. To go without one is no more than a
warning, but its directory has to be there. -/
def openLog (home : Text) (files : Files) : Except String (List String) × Files :=
  match files.createDirectory (Config.directory home) with
  | (.error cause, files) =>
    (.error ("Failed to create log directory: " ++ String.ofList (Config.directory home) ++ ": "
      ++ cause.message), files)
  | (.ok _, files) =>
    match files.touch (Config.logPath home) with
    | .ok files => (.ok [], files)
    | .error cause =>
      (.ok ["Warning: Could not create log file: Failed to open log file: "
        ++ String.ofList (Config.logPath home) ++ ": " ++ cause.message], files)

/-- What a session starts with: its options, or why there is no session, and what there is to warn
of. -/
def prepare (home : Text) (files : Files) : Except String Options × List String × Files :=
  let (config, warnings, files) := configure toml home files
  if config.debug then
    match openLog home files with
    | (.error problem, files) => (.error problem, warnings, files)
    | (.ok more, files) => (.ok config.options, warnings ++ more, files)
  else (.ok config.options, warnings, files)

def session (file : Option Text) : Procedure Unit := do
  if let some path := file then
    Procedure.openAtStart path
  Procedure.runAll

/-- What stopped a session, if that is a problem. The end of the input ends one as well as `q`
does. -/
def problem? : Except Stop Unit → Option String
  | .ok _ | .error .inputEnded => none
  | .error stop => some ("Error: " ++ stop.message)

def edit (file : Option Text) (home : Text) (input : Bytes) (files : Files) : Outcome :=
  match prepare toml home files with
  | (.error problem, warnings, files) => ⟨1, [], warnings ++ [problem], files⟩
  | (.ok options, warnings, files) =>
    let (ended, after) := (session file).run (.start engine options input {} files)
    let problem := problem? ended
    ⟨if problem.isSome then 1 else 0, after.output.written.toList, warnings ++ problem.toList,
      after.files⟩

def run (arguments : List Text) (home : Text) (input : Bytes) (files : Files) : Outcome :=
  let say (text : String) : Bytes := Utf8.encode (text.toList ++ ['\n'])
  match request arguments with
  | .refused => ⟨2, [], [usage], files⟩
  | .usage => ⟨0, say usage, [], files⟩
  | .version long => ⟨0, say (if long then longVersion else version), [], files⟩
  | .edit file => edit engine toml file home input files

end LineEditor.CommandLine
