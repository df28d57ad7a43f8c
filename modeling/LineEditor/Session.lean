import LineEditor.Conduct
import LineEditor.Editor
import LineEditor.Files
import LineEditor.Output

/-!
A session: the editor with its streams, the files around it, and what is remembered from one
command to the next. A `Procedure` that stops leaves the session as it was at the stop.
-/

namespace LineEditor

structure Options where
  prompt : Text := []
  explain : Bool := false
  -- Write how many lines were read from or written to a file.
  showCounts : Bool := true
  flavor : Flavor := .perl
  deriving DecidableEq, Repr, Inhabited

structure Session where
  editor : Editor
  options : Options
  input : Bytes
  output : Output
  files : Files
  filename : Option Text := none
  lastFailure : Option Failure := none
  running : Bool := true
  deriving Inhabited

abbrev Procedure := ExceptT Stop (StateM Session)

namespace Session

def start (engine : Engine) (options : Options) (input : Bytes) (output : Output) (files : Files) :
    Session :=
  { editor := { buffer := .empty, active := { engine, flavor := options.flavor } }
    options, input, output, files }

def buffer (session : Session) : Buffer := session.editor.buffer

end Session

namespace Procedure

def fail {α : Type} (failure : Failure) : Procedure α := throw (.failed failure)

def ofExcept {α : Type} : Except Failure α → Procedure α
  | .ok a => return a
  | .error failure => fail failure

def edit {α : Type} (operation : Edit α) : Procedure α := do
  let session ← get
  let (outcome, editor) := operation.run session.editor
  set { session with editor }
  match outcome with
  | .ok a => return a
  | .error stop => throw stop

theorem run_edit {α : Type} (operation : Edit α) (session : Session) :
    (edit operation).run session =
      match operation.run session.editor with
      | (.ok a, editor) => (.ok a, { session with editor })
      | (.error stop, editor) => (.error stop, { session with editor }) := by
  simp only [edit, run_bind, run_get]
  rcases operation.run session.editor with ⟨_ | a, editor⟩ <;> rfl

def buffer : Procedure Buffer := return (← get).buffer

theorem run_buffer_bind {α : Type} (next : Buffer → Procedure α) (session : Session) :
    (buffer >>= next).run session = (next session.buffer).run session := rfl

def setCurrent (n : Nat) : Procedure Unit := edit (Edit.setCurrent n)

/-- Asks the output for something. What it refuses is a failure. -/
def request (call : Output → Output × Option Refusal) : Procedure Unit := do
  let (output, refused) := call (← get).output
  modify ({ · with output })
  match refused with
  | none => return ()
  | some refusal => fail (.output refusal)

theorem run_request (call : Output → Output × Option Refusal) (session : Session) :
    (request call).run session =
      match call session.output with
      | (output, none) => (.ok ⟨⟩, { session with output })
      | (output, some refusal) =>
        (.error (.failed (.output refusal)), { session with output }) := by
  simp only [request, run_bind, run_get, run_modify]
  rcases call session.output with ⟨output, _ | refusal⟩ <;> rfl

def write (text : Text) : Procedure Unit := request (·.write (Utf8.encode text))

def flush : Procedure Unit := request (·.flush)

def writeLine (text : String) : Procedure Unit := write (text.toList ++ ['\n'])

def writeCount (count : Nat) : Procedure Unit := do
  if (← get).options.showCounts then writeLine (toString count)

/-- Takes a line from the input. The end of the input ends the session, and so does a line that is
not complete or not text. -/
def readLine : Procedure Text := do
  let (line, rest) := Bytes.takeLine (← get).input
  modify ({ · with input := rest })
  match Bytes.typedLine? line with
  | some line => return line
  | none => throw .inputEnded

theorem run_readLine (session : Session) :
    readLine.run session
      = (match (Bytes.takeLine session.input).1.typedLine? with
          | some line => .ok line
          | none => .error .inputEnded,
        { session with input := (Bytes.takeLine session.input).2 }) := by
  simp only [readLine, run_bind, run_get, run_modify]
  cases (Bytes.takeLine session.input).1.typedLine? <;> rfl

theorem edit_input {α : Type} (operation : Edit α) (session : Session) :
    ((edit operation).run session).2.input = session.input := by
  rw [run_edit]
  split <;> rfl

theorem readLine_input_lt {session after : Session} {line : Text}
    (ran : readLine.run session = (.ok line, after)) :
    after.input.length < session.input.length := by
  rw [run_readLine] at ran
  cases typed : session.input with
  | nil =>
    have nothing : Bytes.typedLine? [] = none := by decide
    rw [typed, Bytes.takeLine, nothing] at ran
    cases ran
  | cons b rest =>
    have shorter := Bytes.length_takeLine_lt b rest
    rw [typed] at ran
    rw [← congrArg (·.2.input) ran]
    exact shorter

theorem readLine_isLine {session after : Session} {line : Text}
    (ran : readLine.run session = (.ok line, after)) : line.IsLine := by
  have bare := Bytes.newline_not_mem_takeLine session.input
  rw [run_readLine] at ran
  cases typed : (Bytes.takeLine session.input).1.typedLine? with
  | none =>
    rw [typed] at ran
    cases ran
  | some line' =>
    rw [typed] at ran
    cases ran
    exact Bytes.typedLine?_isLine bare typed

/-! ### Lines in and out -/

def writeLines (numbered : Bool) : Nat → List Text → Procedure Unit
  | _, [] => return ()
  | n, text :: rest => do
    if numbered then write ((toString n).toList ++ ['\t'])
    write text
    writeLines numbered (n + 1) rest

def print (first final : Nat) (numbered : Bool) : Procedure Unit := do
  if first = 0 then fail .invalidAddress
  match (← buffer).texts? first final with
  | none => throw .outOfBounds
  | some texts => writeLines numbered first texts
  setCurrent final

def endOfText : Text := ['.', '\n']

def insertLine (line : Text) : Procedure Unit := edit (Edit.change (·.insert line))

/-- Takes lines from the input, up to a lone dot, and puts them after the current one. Each is put
before the next one is read, so what came before the input ends stays. -/
def takeTypedFrom (session : Session) : Except Stop Unit × Session :=
  match _read : readLine.run session with
  | (.error stop, after) => (.error stop, after)
  | (.ok line, after) =>
    if line = endOfText then (.ok ⟨⟩, after)
    else
      match _inserted : (insertLine line).run after with
      | (.error stop, after) => (.error stop, after)
      | (.ok _, after) => takeTypedFrom after
termination_by session.input.length
decreasing_by
  have same := edit_input (Edit.change (·.insert line)) (readLine.run session).2
  have shorter := readLine_input_lt _read
  grind [insertLine]

def takeTyped : Procedure Unit := takeTypedFrom

theorem run_takeTyped (session : Session) :
    takeTyped.run session = (do
      let line ← readLine
      if line = endOfText then return ()
      else
        insertLine line
        takeTyped : Procedure Unit).run session := by
  change takeTypedFrom session = _
  rw [takeTypedFrom, run_bind]
  rcases readLine.run session with ⟨stop | line, after⟩
  · rfl
  · dsimp only
    split
    · rfl
    · rw [run_bind]
      rcases (insertLine line).run after with ⟨_ | _, inserted⟩ <;> rfl

theorem takeTyped_induction {motive : Session → Prop}
    (step : ∀ session, (∀ line typed inserted, readLine.run session = (.ok line, typed) →
      (insertLine line).run typed = (.ok ⟨⟩, inserted) → motive inserted) → motive session)
    (session : Session) : motive session := by
  induction left : session.input.length using Nat.strongRecOn generalizing session with
  | ind left ih =>
    apply step
    intro line typed inserted read put
    have shorter := readLine_input_lt read
    have same := edit_input (Edit.change (·.insert line)) typed
    rw [← insertLine, put] at same
    exact ih _ (by rwa [same, ← left]) inserted rfl

def append (n : Nat) : Procedure Unit := do
  setCurrent n
  takeTyped

/-- Moves the lines of the range to stand after line `target`. The line that was last of them is
current afterwards. -/
def move (range : Range) (target : Nat) : Procedure Unit := do
  if range.first ≤ target ∧ target < range.final then fail .invalidDestination
  edit (Edit.change (·.moveBlock range.first range.final target))
  if range.final ≤ target then setCurrent target
  else setCurrent (target + (← edit (Edit.minus range.final range.first)) + 1)

/-! ### Files -/

/-- The name that a command works on. One that is given is remembered if none is yet. -/
def resolveFilename : Option Text → Procedure Text
  | some name => do
    if (← get).filename.isNone then modify ({ · with filename := some name })
    return name
  | none => do
    match (← get).filename with
    | some name => return name
    | none => fail .noFilename

def openFile (path : Text) : Procedure Entry := do
  match (← get).files.openEntry path with
  | .ok entry => return entry
  | .error refusal => fail (.file path refusal)

def insertRead (path : Text) : List Bytes → Procedure Nat
  | [] => return 0
  | bytes :: rest => do
    match Utf8.decode? bytes with
    | none => fail (.file path .notUtf8)
    | some line =>
      insertLine (line.body ++ ['\n'])
      return (← insertRead path rest) + 1

/-- Puts the lines of an open file after line `n`; a newline is added if the last one lacks it.
Where the file cannot be read further, the lines before that stay. -/
def load (path : Text) (entry : Entry) (n : Nat) : Procedure Unit := do
  setCurrent n
  match entry.content with
  | (content, none) => writeCount (← insertRead path (Bytes.lines content))
  | (content, some refusal) =>
    let _ ← insertRead path (Bytes.wholeLines content)
    fail (.file path refusal)

def readFile (path : Text) (n : Nat) : Procedure Unit := do
  load path (← openFile path) n

def storeFile (path : Text) (content : Bytes) : Procedure Unit := do
  let (stored, files) := (← get).files.write path content
  modify ({ · with files })
  match stored with
  | .ok _ => return ()
  | .error refusal => fail (.file path refusal)

theorem run_storeFile (path : Text) (content : Bytes) (session : Session) :
    (storeFile path content).run session =
      match session.files.write path content with
      | (.ok _, files) => (.ok ⟨⟩, { session with files })
      | (.error refusal, files) =>
        (.error (.failed (.file path refusal)), { session with files }) := by
  simp only [storeFile, run_bind, run_get, run_modify]
  rcases session.files.write path content with ⟨_ | _, files⟩ <;> rfl

def writeFile (path : Text) (range : Range) : Procedure Unit := do
  match (← buffer).texts? range.first range.final with
  | none => throw .outOfBounds
  | some texts =>
    storeFile path (texts.flatMap Utf8.encode)
    writeCount ((← edit (Edit.minus range.final range.first)) + 1)

/-! ### Commands -/

def forbidUnderGlobal (name : Char) (underGlobal : Bool) : Procedure Unit :=
  if underGlobal then fail (.notInGlobal name) else return ()

def requireNoAddress (range : Range) : Procedure Unit :=
  if range.given = 0 then return () else fail .invalidAddress

def settle (range : Range) (first final : Nat) : Procedure Range :=
  ofExcept (range.settle first final)

def explainLast : Procedure Unit := do
  match (← get).lastFailure with
  | some failure => writeLine failure.message
  | none => return ()

def toggleExplain : Procedure Unit := do
  modify fun session => { session with options.explain := !session.options.explain }
  if (← get).options.explain then explainLast

def perform (action : Action) (range : Range) (underGlobal : Bool) : Procedure Unit := do
  let b ← buffer
  let current := b.current
  match action with
  | .print => do
    let range ← settle range current current
    print range.first range.final false
  | .number => do
    let range ← settle range current current
    print range.first range.final true
  | .step => do
    let n := if range.given = 0 then b.nextLine current else range.final
    print n n false
  | .quit => do
    forbidUnderGlobal 'q' underGlobal
    requireNoAddress range
    modify ({ · with running := false })
  | .append => do
    forbidUnderGlobal 'a' underGlobal
    append range.final
  | .change => do
    forbidUnderGlobal 'c' underGlobal
    let range ← settle range current current
    edit (Edit.change (·.delete range.first range.final))
    append (← edit (Edit.minus range.first 1))
  | .delete => do
    let range ← settle range current current
    edit (Edit.change (·.delete range.first range.final))
    let b ← buffer
    let next := b.nextLine b.current
    if next ≠ 0 then setCurrent next
  | .insert => do
    forbidUnderGlobal 'i' underGlobal
    append (range.final - 1)
  | .lineNumber => writeLine (toString range.final)
  | .move destination => do
    let target ← edit destination.resolve
    let range ← settle range current current
    move range target
  | .substitute substitution => do
    let range ← settle range current current
    let _ ← edit (substitution.apply range underGlobal)
  | .edit name => do
    requireNoAddress range
    let path ← resolveFilename name
    modify ({ · with filename := some path })
    let entry ← openFile path
    modify fun session =>
      { session with editor.buffer := session.buffer.clear }
    load path entry 0
  | .filename name => do
    requireNoAddress range
    let path ← resolveFilename name
    write (path ++ ['\n'])
    modify ({ · with filename := some path })
  | .read name => do
    let path ← resolveFilename name
    readFile path range.final
  | .write name => do
    let path ← resolveFilename name
    let range ← settle range 1 b.last
    writeFile path range
  | .explain => explainLast
  | .toggleExplain => toggleExplain

def execute (command : Command) (underGlobal : Bool) : Procedure Unit := do
  let range ← edit command.addresses.resolve
  perform command.action range underGlobal
  let current := (← buffer).current
  if command.print ∧ 0 < current then print current current false

end Procedure

end LineEditor
