import LineEditor.CommandLine
import LineEditor.Regex
import LineEditor.Toml

/-!
The program. A command line runs on the files as the disk has them at that moment, and what it
wrote to them is put back on the disk before the next one is read. Where the disk refuses, the
line runs again with a file that refuses.
-/

namespace LineEditor

inductive Access where
  | untouched
  | reads (path : Text)
  | writes (path : Text)
  deriving DecidableEq, Repr, Inhabited

/-- The file that an action reads or writes where this name is remembered. -/
def Action.access (remembered : Option Text) : Action → Access
  | edit name | read name => ((name <|> remembered).map .reads).getD .untouched
  | write name => ((name <|> remembered).map .writes).getD .untouched
  | _ => .untouched

def Session.access (session : Session) (line : Text) : Access :=
  match Statement.parse line.body with
  | .ok statement => statement.action.access session.filename
  | .error _ => .untouched

namespace Console

/-! ### The disk -/

def refusal (code : UInt32) (details : String) : Refusal :=
  .described (details ++ " (os error " ++ toString code.toNat ++ ")")

def refusalOf : IO.Error → Refusal
  | .noFileOrDirectory _ code details => refusal code details
  | .alreadyExists _ code details => refusal code details
  | .permissionDenied _ code details => refusal code details
  | .resourceExhausted _ code details => refusal code details
  | .inappropriateType _ code details => refusal code details
  | .invalidArgument _ code details => refusal code details
  | .otherError code details => refusal code details
  | error => .described (toString error)

def entryAt (path : Text) : IO (Except Refusal (Option Entry)) := do
  if path.contains '\x00' then return .ok none
  try
    let file ← IO.FS.Handle.mk (String.ofList path) .read
    return .ok (some (.file (← file.readBinToEnd).toList))
  catch
    | .noFileOrDirectory _ _ _ => return .ok none
    | .inappropriateType _ 21 _ => return .ok (some .directory)
    | error => return .error (refusalOf error)

/-- The files that were found at these paths. What cannot be opened may not be read or written. -/
def filesOf (found : List (Text × Except Refusal (Option Entry))) : Files :=
  let entries := found.map fun (path, entry) => (path, entry.toOption.getD (some (.file [])))
  let refused := found.filterMap fun (path, entry) =>
    match entry with
    | .ok _ => none
    | .error refusal => some ((Files.names path).foldl Files.step [], refusal)
  { Files.ofPaths entries with
    forbidden := fun purpose location =>
      if purpose = .entering then none else refused.lookup location }

def store (path : Text) (content : Bytes) : IO Unit := do
  let file ← IO.FS.Handle.mk (String.ofList path) .write
  file.write ⟨content.toArray⟩
  file.flush

def attempt (procedure : Procedure Unit) (access : Access) (session : Session) :
    IO (Except Stop Unit × Session) := do
  let on (path : Text) (entry : Except Refusal (Option Entry)) : Except Stop Unit × Session :=
    procedure.run { session with files := filesOf [(path, entry)] }
  match access with
  | .untouched => return procedure.run session
  | .reads path => return on path (← entryAt path)
  | .writes path =>
    let (outcome, after) := on path (.ok none)
    match after.files.read path with
    | .error _ => return (outcome, after)
    | .ok content =>
      try
        store path content
        return (outcome, after)
      catch error => return on path (.error (refusalOf error))

/-! ### The streams -/

def deliver (session : Session) : IO Session := do
  let output ← IO.getStdout
  output.write ⟨session.output.written⟩
  output.flush
  return { session with output.written := #[] }

partial def nextLine (input : IO.FS.Stream) (line : Array UInt8) : IO Bytes := do
  let byte := (← input.read 1).toList
  let line := line ++ byte
  if byte = [] ∨ byte = [Bytes.newline] then return line.toList
  else nextLine input line

partial def nextText (input : IO.FS.Stream) (lines : Array UInt8) : IO Bytes := do
  let line ← nextLine input #[]
  let lines := lines ++ line
  if line = [] ∨ Bytes.typedLine? line = some Procedure.endOfText then return lines.toList
  else nextText input lines

def warn (messages : List String) : IO Unit := do
  for message in messages do IO.eprintln message

/-! ### A session -/

/-- Runs the first line of the session's input. A line that asks for more input than there is runs
again when the text that belongs to it has been read. -/
def runLine (input : IO.FS.Stream) (session : Session) : IO (Except Stop Unit × Session) := do
  match Bytes.typedLine? (Bytes.takeLine session.input).1 with
  | none => return Procedure.runLine.run session
  | some line =>
    let access := session.access line
    let (outcome, after) ← attempt Procedure.runLine access session
    match outcome with
    | .error .inputEnded =>
      let more ← nextText input #[]
      attempt Procedure.runLine access { session with input := session.input ++ more }
    | _ => return (outcome, after)

def finish (ended : Except Stop Unit) : IO UInt32 := do
  let problem := CommandLine.problem? ended
  warn problem.toList
  return if problem.isSome then 1 else 0

partial def converse (input : IO.FS.Stream) (session : Session) : IO UInt32 := do
  if !session.running then return 0
  let session ← deliver (Procedure.writePrompt.run session).2
  let typed ← if session.input = [] then nextLine input #[] else pure session.input
  let (ended, session) ← runLine input { session with input := typed }
  let session ← deliver session
  match ended with
  | .ok _ => converse input session
  | .error _ => finish ended

def homeFiles (home : Text) : IO Files := do
  let directory := Config.directory home
  let entry ← entryAt directory
  let inside := if let .ok (some .directory) := entry then [Config.path home, Config.logPath home]
    else []
  return filesOf ((directory, entry) :: (← inside.mapM fun path => return (path, ← entryAt path)))

/-- Makes the configuration's files on the disk what they have become. -/
def storeConfig (home : Text) (before after : Files) : IO Unit := do
  let directory := Config.directory home
  if !before.pathExists directory ∧ after.pathExists directory then
    IO.FS.createDirAll (String.ofList directory)
  for path in [Config.path home, Config.logPath home] do
    match before.read path, after.read path with
    | .error _, .ok content => store path content
    | _, _ => pure ()

def configured : IO (Except String Options × List String) := do
  match ← IO.getEnv "HOME" with
  | none =>
    return (.ok {}, ["Warning: Cannot determine home directory; using default configuration"])
  | some home =>
    let home := home.toList
    let before ← homeFiles home
    let (options, warnings, after) := CommandLine.prepare Toml.parse? home before
    try
      storeConfig home before after
      return (options, warnings)
    catch error =>
      return (options, warnings ++ ["Warning: " ++ (refusalOf error).message])

def edit (file : Option Text) : IO UInt32 := do
  let (options, warnings) ← configured
  warn warnings
  match options with
  | .error problem =>
    warn [problem]
    return 1
  | .ok options =>
    let session := Session.start Regex.engine options [] {} (.ofPaths [])
    let (opened, session) ← match file with
      | none => pure (.ok (), session)
      | some path => attempt (Procedure.openAtStart path) (.reads path) session
    match opened with
    | .ok _ => converse (← IO.getStdin) (← deliver session)
    | .error _ => finish opened

end Console

end LineEditor

open LineEditor in
def main (arguments : List String) : IO UInt32 := do
  let arguments := arguments.map String.toList
  match CommandLine.request arguments with
  | .edit file => Console.edit file
  | _ =>
    let outcome := CommandLine.run Regex.engine Toml.parse? arguments [] [] (.ofPaths [])
    Console.warn outcome.warnings
    (← IO.getStdout).write ⟨outcome.written.toArray⟩
    return outcome.exit.toUInt32
