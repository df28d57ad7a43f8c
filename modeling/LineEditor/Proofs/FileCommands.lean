import LineEditor.Proofs.Files
import LineEditor.Proofs.Reading
import LineEditor.Proofs.SideBySide.Run

/-!
The commands that work on a file, one equation for each. A line that loads or writes one comes down
to a change of the buffer or of the files, and then the number of lines is written.
-/

namespace LineEditor

/-- What is written for a number of lines. -/
def Options.countText (options : Options) (count : Nat) : Text :=
  if options.showCounts then (toString count).toList ++ ['\n'] else []

namespace Procedure

theorem run_writeCount (count : Nat) (session : Session) :
    (writeCount count).run session = (write (session.options.countText count)).run session := by
  rw [writeCount, run_bind, run_get]
  dsimp only
  unfold Options.countText
  split
  · rfl
  · rw [run_write]
    rw [show Utf8.encode [] = [] from rfl, Output.write_nil]
    rfl

theorem run_resolveFilename (name : Option Text) (session : Session) :
    (resolveFilename name).run session =
      match name <|> session.filename with
      | some path => (.ok path, { session with filename := session.filename <|> name })
      | none => (.error (.failed .noFilename), session) := by
  obtain ⟨editor, options, input, output, files, filename, lastFailure, running⟩ := session
  cases name <;> cases filename <;> rfl

theorem run_openFile (path : Text) (session : Session) :
    (openFile path).run session =
      match session.files.openEntry path with
      | .ok entry => (.ok entry, session)
      | .error refusal => (.error (.failed (.file path refusal)), session) := by
  rw [openFile, run_bind, run_get]
  dsimp only
  cases session.files.openEntry path <;> rfl

variable (name : Option Text) (range : Range) (underGlobal : Bool) (session : Session)

theorem run_perform_edit :
    (perform (.edit name) range underGlobal).run session =
      if range.given = 0 then
        match name <|> session.filename with
        | none => (.error (.failed .noFilename), session)
        | some path =>
          let named : Session := { session with filename := some path }
          match session.files.openEntry path with
          | .error refusal => (.error (.failed (.file path refusal)), named)
          | .ok entry =>
            (load path entry 0).run { named with editor.buffer := session.buffer.clear }
      else (.error (.failed .invalidAddress), session) := by
  change (do
    requireNoAddress range
    let path ← resolveFilename name
    modify ({ · with filename := some path })
    let entry ← openFile path
    modify fun session => { session with editor.buffer := session.buffer.clear }
    load path entry 0 : Procedure Unit).run session = _
  rw [run_requireNoAddress_bind, run_bind, run_resolveFilename]
  cases name <|> session.filename with
  | none => rfl
  | some path =>
    dsimp only
    rw [run_bind, run_modify]
    dsimp only
    rw [run_bind, run_openFile]
    dsimp only
    cases session.files.openEntry path <;> rfl

theorem run_perform_read :
    (perform (.read name) range underGlobal).run session =
      match name <|> session.filename with
      | none => (.error (.failed .noFilename), session)
      | some path =>
        let named : Session := { session with filename := session.filename <|> name }
        match session.files.openEntry path with
        | .error refusal => (.error (.failed (.file path refusal)), named)
        | .ok entry => (load path entry range.final).run named := by
  change (do
    let path ← resolveFilename name
    readFile path range.final : Procedure Unit).run session = _
  rw [run_bind, run_resolveFilename]
  cases name <|> session.filename with
  | none => rfl
  | some path =>
    dsimp only
    rw [readFile, run_bind, run_openFile]
    dsimp only
    cases session.files.openEntry path <;> rfl

theorem run_perform_write :
    (perform (.write name) range underGlobal).run session =
      match name <|> session.filename with
      | none => (.error (.failed .noFilename), session)
      | some path =>
        let named : Session := { session with filename := session.filename <|> name }
        match range.settle 1 session.buffer.last with
        | .error failure => (.error (.failed failure), named)
        | .ok settled => (writeFile path settled).run named := by
  change (do
    let path ← resolveFilename name
    let range ← settle range 1 session.buffer.last
    writeFile path range : Procedure Unit).run session = _
  rw [run_bind, run_resolveFilename]
  cases name <|> session.filename with
  | none => rfl
  | some path =>
    dsimp only
    rw [run_bind]
    cases settled : range.settle 1 session.buffer.last with
    | error failure => rw [run_settle_failed settled]
    | ok settled' => rw [run_settle settled]

-- Writing the name may fail; a name that was given for the first time is remembered by then.
theorem run_perform_filename :
    (perform (.filename name) range underGlobal).run session =
      if range.given = 0 then
        match name <|> session.filename with
        | none => (.error (.failed .noFilename), session)
        | some path =>
          (do write (path ++ ['\n']); modify ({ · with filename := some path }) :
            Procedure Unit).run { session with filename := session.filename <|> name }
      else (.error (.failed .invalidAddress), session) := by
  change (do
    requireNoAddress range
    let path ← resolveFilename name
    write (path ++ ['\n'])
    modify ({ · with filename := some path }) : Procedure Unit).run session = _
  rw [run_requireNoAddress_bind, run_bind, run_resolveFilename]
  cases name <|> session.filename <;> rfl

variable {name range underGlobal session}

section
variable {path : Text} {entry : Entry} (named : (name <|> session.filename) = some path)
include named

variable (opened : session.files.openEntry path = .ok entry)
include opened

theorem run_perform_read_opened :
    (perform (.read name) range underGlobal).run session
      = (load path entry range.final).run
        { session with filename := session.filename <|> name } := by
  rw [run_perform_read, named]
  dsimp only
  rw [opened]

end

end Procedure

/-! ### Command lines -/

/-- The line says this command and nothing else. -/
def Text.Says (line : Text) (command : Command) : Prop :=
  Statement.parse line.body = .ok (.single command)

def Session.Completes (session : Session) (line : Text) : Prop :=
  ((Procedure.executeStatement line).run session).1 = .ok ⟨⟩

/-- In this session the line comes down to writing this text, with nothing else left to do. -/
def Session.ComesTo (session : Session) (line text : Text) (rest : Session) : Prop :=
  (Procedure.executeStatement line).run session = (Procedure.write text).run rest

namespace Session.ComesTo
variable {session rest : Session} {line text : Text}

theorem run_executeStatement (comes : session.ComesTo line text rest) :
    (Procedure.executeStatement line).run session =
      match rest.output.write (Utf8.encode text) with
      | (output, none) => (.ok ⟨⟩, { rest with output })
      | (output, some refusal) => (.error (.failed (.output refusal)), { rest with output }) :=
  Eq.trans comes (Procedure.run_write text rest)

theorem left (comes : session.ComesTo line text rest) :
    let ended := (Procedure.executeLine line).run session
    ended.2.buffer.lines = rest.buffer.lines ∧ ended.2.files = rest.files := by
  have said := comes.run_executeStatement
  dsimp only
  rcases written : rest.output.write (Utf8.encode text) with ⟨output, _ | refusal⟩ <;>
    rw [written] at said
  · rw [Procedure.run_executeLine_unfailed said nofun]
    exact ⟨rfl, rfl⟩
  · have reported := (Procedure.report_spoken trivial (.output refusal)
      : Procedure.Spoken True _).only_voice { rest with output }
    rw [Procedure.run_executeLine_failed said, run_bind]
    rcases ran : (Procedure.report (.output refusal)).run { rest with output }
      with ⟨_ | _, after⟩ <;> rw [ran] at reported
    all_goals exact ⟨congrArg (·.buffer.lines) reported, congrArg (·.files) reported⟩

theorem run_executeLine (comes : session.ComesTo line text rest)
    (completes : session.Completes line) :
    ∃ output, (Procedure.executeLine line).run session = (.ok ⟨⟩, { rest with output })
      ∧ output.written = (rest.output.append (Utf8.encode text)).written := by
  have said := comes.run_executeStatement
  rw [Session.Completes, said] at completes
  rcases written : rest.output.write (Utf8.encode text) with ⟨output, _ | refusal⟩ <;>
    rw [written] at said completes
  · exact ⟨output, Procedure.run_executeLine_unfailed said nofun, Output.write_taken written⟩
  · cases completes

theorem completes (comes : session.ComesTo line text rest) (unlimited : rest.output.Unlimited) :
    session.Completes line := by
  rw [Session.Completes, comes.run_executeStatement, Output.write_unlimited unlimited]

-- To an output that is broken for good a refusal cannot be reported.
theorem run_executeLine_breaking (comes : session.ComesTo line text rest)
    (breaks : rest.output.BreaksForGood) :
    ∃ output, ((Procedure.executeLine line).run session).2 = { rest with output }
      ∧ (((Procedure.executeLine line).run session).1 = .ok ⟨⟩ → session.Completes line) := by
  have said := comes.run_executeStatement
  rw [Session.Completes]
  rcases written : rest.output.write (Utf8.encode text) with ⟨output, _ | refusal⟩ <;>
    rw [written] at said
  · rw [Procedure.run_executeLine_unfailed said nofun, said]
    exact ⟨output, rfl, fun _ => rfl⟩
  · have full : Output.Full refusal (Session.output { rest with output }) :=
      breaks _ _ _ written
    rw [Procedure.run_executeLine_failed said, run_bind, Procedure.run_report_full full]
    exact ⟨output, rfl, nofun⟩

end Session.ComesTo

end LineEditor
