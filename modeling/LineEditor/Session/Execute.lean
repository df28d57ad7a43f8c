import LineEditor.Session.Global

/-!
Running statements. A failure is reported with a question mark and the session goes on, with the
line current that was current before; the end of the input and broken output end it.
-/

namespace LineEditor

namespace Procedure

def executeStatement (line : Text) : Procedure Unit := do
  match ← ofExcept (Statement.parse line.body) with
  | .single command => execute command false
  | .global global => executeGlobal global

theorem executeStatement_single {line : Text} {command : Command}
    (said : Statement.parse line.body = .ok (.single command)) :
    executeStatement line = execute command false := by
  rw [executeStatement, said]
  rfl

def report (failure : Failure) : Procedure Unit := do
  writeLine "?"
  if (← get).options.explain then writeLine failure.message
  modify ({ · with lastFailure := some failure })

def executeLine (line : Text) : Procedure Unit := do
  let saved := (← buffer).current
  try executeStatement line
  catch
    | .failed failure =>
      report failure
      setCurrent saved
    | stop => throw stop

theorem run_executeLine_failed {session between : Session} {line : Text}
    {failure : Failure}
    (ran : (executeStatement line).run session = (.error (.failed failure), between)) :
    (executeLine line).run session
      = (do report failure; setCurrent session.buffer.current : Procedure Unit).run between := by
  change (tryCatch (executeStatement line) _).run session = _
  rw [run_tryCatch, ran]

theorem run_executeLine_unfailed {session after : Session} {line : Text} {ended : Except Stop Unit}
    (ran : (executeStatement line).run session = (ended, after))
    (unfailed : ∀ failure, ended ≠ .error (.failed failure)) :
    (executeLine line).run session = (ended, after) := by
  change (tryCatch (executeStatement line) _).run session = _
  rw [run_tryCatch, ran]
  cases ended with
  | ok done => rfl
  | error stop =>
    cases stop with
    | failed failure => exact absurd rfl (unfailed failure)
    | inputEnded => rfl
    | outOfBounds => rfl

def writePrompt : Procedure Unit := do
  let prompt := (← get).options.prompt
  if prompt ≠ [] then
    write prompt
    flush

def runLine : Procedure Unit := do executeLine (← readLine)

def promptLine : Procedure Unit := do
  writePrompt
  runLine
  flush

theorem report_spoken {reports : Prop} (asked : reports) (failure : Failure) :
    Spoken reports (report failure) := by
  apply Spoken.bind (writeLine_spoken _)
  refine .consult (fun _ _ options _ => by rw [options]) fun session => ?_
  dsimp only
  split
  · exact .bind (writeLine_spoken _) (.remember asked failure)
  · exact .remember asked failure

theorem writePrompt_spoken {reports : Prop} : Spoken reports writePrompt := by
  refine .consult (fun _ _ options _ => by rw [options]) fun session => ?_
  dsimp only
  split
  · exact .bind (.write _) .flush
  · exact .silence

end Procedure

/-! ### What every step carries on -/

def Statement.Within (powers : Powers) : Statement → Prop
  | single command => (command.action.powers false).Within powers
  | global command => powers.marks ∧ (command.body.action.powers true).Within powers

def Text.Within (powers : Powers) (line : Text) : Prop :=
  ∀ statement, Statement.parse line.body = .ok statement → statement.Within powers

def Statement.action : Statement → Action
  | single command => command.action
  | global command => command.body.action

/-- Where the line is a substitution, be it for a global command, it is an allowed one. -/
def Text.Allows (allowed : Substitution → Prop) (line : Text) : Prop :=
  ∀ statement, Statement.parse line.body = .ok statement → statement.action.Allows allowed

theorem Text.Allows.within {allowed : Substitution → Prop} {line : Text}
    (allows : line.Allows allowed) : line.Within (.allowing allowed) := by
  intro statement said
  have asked := allows statement said
  cases statement with
  | single command => exact asked.within false
  | global global => exact ⟨trivial, asked.within true⟩

theorem Text.within_all (line : Text) : line.Within .all :=
  Text.Allows.within fun _ _ _ _ => trivial

namespace Procedure

-- Where a line fails, the report and the way back come after it.
theorem keeps_executeLine {R : Session → Session → Prop} (steady : Steady R) {line : Text}
    (statement : Keeps R (executeStatement line)) (reported : ∀ failure, Keeps R (report failure))
    (back : ∀ n, Keeps R (setCurrent n)) : Keeps R (executeLine line) := by
  have looked : Keeps R buffer := steady.refl
  apply steady.bind looked
  intro b
  apply steady.tryCatch statement
  intro stop
  cases stop with
  | failed failure => exact steady.bind (reported failure) fun _ => back b.current
  | inputEnded => exact steady.throw _
  | outOfBounds => exact steady.throw _

namespace Carried
variable {R : Session → Session → Prop} {powers : Powers}

theorem executeStatement (carried : Carried powers R) {line : Text} (within : line.Within powers) :
    Keeps R (executeStatement line) := by
  unfold Procedure.executeStatement
  cases parsed : Statement.parse line.body with
  | error failure => exact carried.throw_bind _ _
  | ok statement =>
    have enough := within statement parsed
    cases statement with
    | single command => exact carried.execute enough
    | global global => exact carried.executeGlobal enough.1 enough.2

theorem executeLine (carried : Carried powers R) (asked : powers.reports) {line : Text}
    (within : line.Within powers) : Keeps R (executeLine line) := by
  apply keeps_executeLine carried.toSteady (carried.executeStatement within)
  · exact fun failure => carried.spoken (report_spoken asked failure)
  · exact fun n => carried.edited (.alters (.setCurrent n))

theorem promptLine {allowed : Substitution → Prop} (carried : Carried (.allowing allowed) R)
    (typed : ∀ line : Text, line.IsLine → line.Allows allowed) : Keeps R promptLine := by
  apply carried.bind (carried.spoken writePrompt_spoken)
  intro _
  refine carried.bind ?_ fun _ => carried.spoken .flush
  intro ready
  have read := carried.readLine trivial ready
  rw [runLine, run_bind]
  rcases ran : Procedure.readLine.run ready with ⟨_ | line, between⟩ <;> rw [ran] at read
  · exact read
  · have allows := typed line (readLine_isLine ran)
    exact carried.trans read (carried.executeLine trivial allows.within between)

end Carried

/-! ### A line takes input -/

def Consumes (before after : Session) : Prop := after.input <:+ before.input

theorem carried_consumes : Carried .all Consumes where
  refl session := List.suffix_refl session.input
  trans first second := second.trans first
  noted := by
    intro session after noted
    cases noted with
    | input asked suffix => exact suffix
    | _ => exact List.suffix_refl _
  edited := by
    intro α operation _ session
    unfold Consumes
    exact edit_input operation session ▸ List.suffix_refl session.input

theorem promptLine_input_lt {session after : Session}
    (ran : promptLine.run session = (.ok ⟨⟩, after)) :
    after.input.length < session.input.length := by
  have prompted := (carried_consumes.spoken writePrompt_spoken session).length_le
  simp only [promptLine, runLine, run_bind] at ran
  rcases first : writePrompt.run session with ⟨_ | _, ready⟩ <;> rw [first] at ran prompted
  · cases ran
  · simp only at ran
    rcases read : readLine.run ready with ⟨_ | line, typed⟩ <;> rw [read] at ran
    · cases ran
    · have taken := readLine_input_lt read
      simp only at ran
      have executed := (carried_consumes.executeLine trivial line.within_all typed).length_le
      rcases ended : (executeLine line).run typed with ⟨_ | _, done⟩ <;> rw [ended] at ran executed
      · cases ran
      · have flushed := (carried_consumes.spoken .flush done).length_le
        simp only at ran
        rw [ran] at flushed
        calc after.input.length ≤ done.input.length := flushed
          _ ≤ typed.input.length := executed
          _ < ready.input.length := taken
          _ ≤ session.input.length := prompted

/-! ### Running to the end -/

/-- Reads and runs command lines until one quits or the input ends. -/
def runFrom (session : Session) : Except Stop Unit × Session :=
  if session.running then
    match _ran : promptLine.run session with
    | (.ok _, after) => runFrom after
    | (.error stop, after) => (.error stop, after)
  else (.ok ⟨⟩, session)
termination_by session.input.length
decreasing_by exact promptLine_input_lt _ran

theorem runFrom_running {session : Session} (running : session.running = true) :
    runFrom session =
      match promptLine.run session with
      | (.ok _, after) => runFrom after
      | (.error stop, after) => (.error stop, after) := by
  rw [runFrom, if_pos running]
  split <;> rename_i ran <;> rw [ran]

theorem runFrom_quit {session : Session} (quit : ¬session.running = true) :
    runFrom session = (.ok ⟨⟩, session) := by
  rw [runFrom, if_neg quit]

def runAll : Procedure Unit := runFrom

theorem keeps_runAll {R : Session → Session → Prop} (steady : Steady R)
    (prompts : Keeps R promptLine) : Keeps R runAll := by
  intro session
  change R session (runFrom session).2
  fun_induction runFrom session with
  | case1 session _ _ after ran ih =>
    have led := prompts session
    rw [ran] at led
    exact steady.trans led ih
  | case2 session _ stop after ran =>
    have led := prompts session
    rwa [ran] at led
  | case3 session _ => exact steady.refl session

/-- Reads the file that the session starts with. Its name is remembered also if it cannot be read;
that is reported as for a command. -/
def openAtStart (path : Text) : Procedure Unit := do
  modify ({ · with filename := some path })
  try readFile path 0
  catch
    | .failed failure => report failure
    | stop => throw stop
  flush

namespace Carried
variable {R : Session → Session → Prop} {allowed : Substitution → Prop}

theorem runAll (carried : Carried (.allowing allowed) R)
    (typed : ∀ line : Text, line.IsLine → line.Allows allowed) : Keeps R Procedure.runAll :=
  keeps_runAll carried.toSteady (carried.promptLine typed)

theorem openAtStart (carried : Carried (.allowing allowed) R) (path : Text) :
    Keeps R (openAtStart path) := by
  apply carried.bind (keeps_modify fun _ => carried.noted (.name trivial path))
  intro _
  refine carried.bind ?_ fun _ => carried.spoken .flush
  apply carried.tryCatch (carried.composed (readFile_composed trivial path 0))
  intro stop
  cases stop with
  | failed failure => exact carried.spoken (report_spoken trivial failure)
  | inputEnded => exact carried.throw _
  | outOfBounds => exact carried.throw _

end Carried

end Procedure

end LineEditor
