import LineEditor.Proofs.Failure.Atomic
import LineEditor.Proofs.Naming.Command

/-!
The rule for the remembered file name over whole runs. What is run is written down as turns, one for
each time that a command is run, be it for a line of a global command; the name that is remembered
afterwards follows from the turns alone. The last one that renames decides; without one the name
stays that was remembered before, and where there was none it is the first that is given.
-/

namespace LineEditor

/-- What may name a file: the start with one, or a command in the editor that it finds. -/
inductive Turn where
  | start (path : Text)
  | run (command : Command) (editor : Editor)

namespace Turn

/-- The name that is remembered after the turn, whatever name was before. -/
def renamed : Turn → Option Text
  | start path => some path
  | run command _ => command.renamed

def named : Turn → Option Text
  | start path => some path
  | run command editor => command.named editor

def remember (name : Option Text) (turn : Turn) : Option Text :=
  turn.renamed <|> (name <|> turn.named)

end Turn

/-! ### What is run -/

/-- The session in which a global command runs its body for line `n`. -/
def Session.entered (session : Session) (n : Nat) : Session :=
  ((do
    Procedure.edit (Edit.change (·.setMark n false))
    Procedure.setCurrent n : Procedure Unit).run session).2

namespace Procedure

/-- The turns of the loop of a global command, which goes on like the loop does. -/
def replayTurns (body : Command) (position idle : Nat) (session : Session) : List Turn :=
  if session.buffer.last < idle then []
  else if marked : position ≠ 0 ∧ session.buffer.marked? position = some true then
    let visited := (visit body position).run session
    .run body (session.entered position).editor ::
      match visited.1 with
      | .ok _ => replayTurns body position 0 visited.2
      | .error _ => []
  else replayTurns body (session.buffer.nextLine position) (idle + 1) session
termination_by (session.buffer.markCount, session.buffer.last + 1 - idle)
decreasing_by
  · exact Prod.Lex.left _ _ (markCount_visit body marked.2)
  · exact Prod.Lex.right _ (by omega)

end Procedure

namespace Session

def lineTurns (session : Session) (line : Text) : List Turn :=
  match Statement.parse line.body with
  | .error _ => []
  | .ok (.single command) => [.run command session.editor]
  | .ok (.global global) =>
    match (Procedure.markGlobal global).run session with
    | (.ok first, start) => Procedure.replayTurns global.body first 0 start
    | (.error _, _) => []

def promptTurns (session : Session) : List Turn :=
  match (do Procedure.writePrompt; Procedure.readLine : Procedure Text).run session with
  | (.ok line, ready) => ready.lineTurns line
  | (.error _, _) => []

def runTurns (session : Session) : List Turn :=
  if session.running then
    session.promptTurns ++
      match _ran : Procedure.promptLine.run session with
      | (.ok _, after) => after.runTurns
      | (.error _, _) => []
  else []
termination_by session.input.length
decreasing_by exact Procedure.promptLine_input_lt _ran

def stepTurns (session : Session) : Step → List Turn
  | .openFile path => [.start path]
  | .line text => session.lineTurns text
  | .run => session.runTurns

def turns (session : Session) : List Step → List Turn
  | [] => []
  | step :: steps => session.stepTurns step ++ (session.after step).turns steps

end Session

/-! ### The name afterwards -/

namespace Procedure
variable {session : Session}

theorem run_visit_entered (body : Command) {n : Nat}
    (marked : session.buffer.marked? n = some true) :
    (visit body n).run session = (execute body true).run (session.entered n) := by
  obtain ⟨b, unmarked⟩ := Buffer.setMark_of_marked marked false
  rw [visit, Session.entered, run_bind, run_bind, run_change unmarked]
  rfl

theorem filename_visit (unlimited : session.output.Unlimited) (body : Command) {n : Nat}
    (marked : session.buffer.marked? n = some true) :
    ((visit body n).run session).2.filename
      = Turn.remember session.filename (.run body (session.entered n).editor) := by
  have same : ∃ b, session.entered n = { session with editor.buffer := b } := by
    obtain ⟨b, unmarked⟩ := Buffer.setMark_of_marked marked false
    refine ⟨b.setCurrent n, ?_⟩
    rw [Session.entered, run_bind, run_change unmarked]
    rfl
  rw [run_visit_entered body marked]
  obtain ⟨b, entered⟩ := same
  have takes : (session.entered n).output.Unlimited := by rwa [entered]
  rw [filename_execute takes, show (session.entered n).filename = session.filename by rw [entered]]
  rfl

theorem filename_replayFrom (unlimited : session.output.Unlimited) (body : Command)
    (position idle : Nat) :
    (replayFrom body position idle session).2.filename
      = (replayTurns body position idle session).foldl Turn.remember session.filename := by
  fun_induction replayFrom body position idle session with
  | case1 position idle session passed =>
    rw [replayTurns, if_pos passed]
    rfl
  | case2 position idle session going marked visited done ran ih =>
    have takes : visited.2.output.Unlimited :=
      (carried_writesOn.visit trivial (body.action.within_all true) position session).unlimited
        unlimited
    rw [replayTurns, if_neg going, dif_pos marked, ih takes]
    simp only [visited] at ran
    simp only [ran, List.foldl_cons, visited, filename_visit unlimited body marked.2]
  | case3 position idle session going marked visited stop ran =>
    rw [replayTurns, if_neg going, dif_pos marked]
    simp only [visited] at ran
    simp only [ran, List.foldl_cons, visited, filename_visit unlimited body marked.2,
      List.foldl_nil]
  | case4 position idle session going unmarked ih =>
    rw [replayTurns, if_neg going, dif_neg unmarked, ih unlimited]

theorem filename_executeStatement (unlimited : session.output.Unlimited) (line : Text) :
    ((executeStatement line).run session).2.filename
      = (session.lineTurns line).foldl Turn.remember session.filename := by
  rw [executeStatement, Session.lineTurns]
  cases Statement.parse line.body with
  | error failure => rfl
  | ok statement =>
    cases statement with
    | single command => exact filename_execute unlimited command false
    | global global =>
      have same := carried_sameName.markGlobal trivial global session
      have takes := (markGlobal_endsAt unlimited global).takes
      change ((executeGlobal global).run session).2.filename = _
      rw [run_executeGlobal]
      dsimp only
      rcases marked : (markGlobal global).run session with ⟨stop | first, start⟩ <;>
        rw [marked] at same takes
      · exact same
      · dsimp only at takes ⊢
        rw [filename_replayFrom takes, show start.filename = session.filename from same]

theorem filename_executeLine (unlimited : session.output.Unlimited) (line : Text) :
    ((executeLine line).run session).2.filename
      = (session.lineTurns line).foldl Turn.remember session.filename := by
  have takes := (carried_writesOn.executeStatement line.within_all session).unlimited unlimited
  rw [← filename_executeStatement unlimited line]
  by_cases failed : ∃ failure, ((executeStatement line).run session).1 = .error (.failed failure)
  · obtain ⟨failure, failed⟩ := failed
    rw [run_executeLine_reported takes (Prod.ext failed rfl)]
  · have same : (executeLine line).run session = (executeStatement line).run session :=
      run_executeLine_unfailed rfl fun failure same => failed ⟨failure, same⟩
    rw [same]

theorem promptLine_eq :
    promptLine = (do writePrompt; readLine) >>= fun line => (do executeLine line; flush) := by
  simp only [promptLine, runLine, bind_assoc]

theorem filename_promptLine (unlimited : session.output.Unlimited) :
    (promptLine.run session).2.filename
      = session.promptTurns.foldl Turn.remember session.filename := by
  have takes := (carried_writesOn.bind (carried_writesOn.spoken writePrompt_spoken)
    (fun _ => carried_writesOn.readLine trivial) session).unlimited unlimited
  have named := carried_sameName.bind (carried_sameName.spoken writePrompt_spoken)
    (fun _ => carried_sameName.readLine trivial) session
  rw [promptLine_eq, run_bind, Session.promptTurns]
  rcases prompted : (do writePrompt; readLine : Procedure Text).run session
    with ⟨stop | line, ready⟩ <;> rw [prompted] at takes named
  · exact named
  · have executed := filename_executeLine takes line
    dsimp only
    rw [run_bind]
    rcases ran : (executeLine line).run ready with ⟨stop | _, after⟩ <;> rw [ran] at executed
    all_goals rw [← show ready.filename = session.filename from named]
    · exact executed
    · exact (carried_sameName.spoken .flush after).trans executed

theorem runTurns_running (running : session.running = true) :
    session.runTurns =
      session.promptTurns ++
        match promptLine.run session with
        | (.ok _, after) => after.runTurns
        | (.error _, _) => [] := by
  rw [Session.runTurns, if_pos running]
  split <;> rename_i ran <;> rw [ran]

theorem filename_runFrom (unlimited : session.output.Unlimited) :
    (runFrom session).2.filename
      = session.runTurns.foldl Turn.remember session.filename := by
  fun_induction runFrom session with
  | case1 session running _ after ran ih =>
    have prompted := filename_promptLine unlimited
    have takes := (carried_writesOn.promptLine (fun _ _ _ _ _ _ => trivial) session).unlimited unlimited
    rw [ran] at prompted takes
    rw [runTurns_running running, ran, List.foldl_append, ← prompted, ih takes]
  | case2 session running stop after ran =>
    have prompted := filename_promptLine unlimited
    rw [ran] at prompted
    rw [runTurns_running running, ran, List.append_nil, ← prompted]
  | case3 session stopped =>
    rw [Session.runTurns, if_neg stopped]
    rfl

theorem filename_openAtStart (path : Text) :
    ((openAtStart path).run session).2.filename = some path := by
  refine carried_sameName.bind (carried_sameName.tryCatch
    (carried_sameName.composed (readFile_composed trivial path 0)) ?_)
    (fun _ => carried_sameName.spoken .flush) { session with filename := some path }
  intro stop
  cases stop with
  | failed failure => exact carried_sameName.spoken (report_spoken trivial failure)
  | inputEnded | outOfBounds => exact carried_sameName.throw _

end Procedure

namespace Session
variable {session : Session}

theorem filename_after (unlimited : session.output.Unlimited) (step : Step) :
    (session.after step).filename
      = (session.stepTurns step).foldl Turn.remember session.filename := by
  cases step with
  | openFile path => exact Procedure.filename_openAtStart path
  | line text => exact Procedure.filename_executeLine unlimited text
  | run => exact Procedure.filename_runFrom unlimited

theorem filename_afterAll (unlimited : session.output.Unlimited) (steps : List Step) :
    (session.afterAll steps).filename
      = (session.turns steps).foldl Turn.remember session.filename := by
  induction steps generalizing session with
  | nil => rfl
  | cons step steps ih =>
    rw [turns, List.foldl_append, ← filename_after unlimited step]
    exact ih (unlimited_after unlimited step)

end Session

/-! ### The rule -/

namespace Turn

theorem foldl_remember (turns : List Turn) (name : Option Text) :
    turns.foldl remember name
      = ((turns.filterMap renamed).getLast?
          <|> (name <|> (turns.filterMap named).head?)) := by
  induction turns generalizing name with
  | nil => cases name <;> rfl
  | cons turn turns ih =>
    rw [List.foldl_cons, ih, remember]
    cases renames : turn.renamed with
    | none =>
      rw [List.filterMap_cons_none renames]
      cases names : turn.named <;> cases name <;> simp [names]
    | some given =>
      rw [List.filterMap_cons_some renames, List.getLast?_cons]
      cases (turns.filterMap renamed).getLast? <;> simp

-- One command has one name to give, at whichever of its turns.
theorem foldl_remember_some {command : Command} {turns : List Turn}
    (all : ∀ turn ∈ turns, ∃ editor, turn = .run command editor) (name : Text) :
    turns.foldl remember (some name)
      = if turns = [] then some name else command.renamed <|> some name := by
  induction turns generalizing name with
  | nil => rfl
  | cons turn turns ih =>
    obtain ⟨editor, rfl⟩ := all turn List.mem_cons_self
    have rest := ih fun other member => all other (List.mem_cons_of_mem _ member)
    rw [List.foldl_cons, if_neg (List.cons_ne_nil _ _), remember]
    cases renames : command.renamed with
    | none => simpa [renamed, renames] using rest name
    | some given => simpa [renamed, renames] using rest given

theorem foldl_remember_none {command : Command} {turns : List Turn}
    (all : ∀ turn ∈ turns, ∃ editor, turn = .run command editor) :
    turns.foldl remember none = (turns.filterMap named).head? := by
  cases turns with
  | nil => rfl
  | cons turn turns =>
    obtain ⟨editor, rfl⟩ := all turn List.mem_cons_self
    have later (turn : Turn) (member : turn ∈ turns) : ∃ editor, turn = .run command editor :=
      all turn (List.mem_cons_of_mem _ member)
    cases renames : command.renamed with
    | none =>
      have nothing : (run command editor :: turns).filterMap renamed = [] := by
        rw [List.filterMap_eq_nil_iff]
        intro turn member
        obtain ⟨_, rfl⟩ := all turn member
        exact renames
      rw [foldl_remember, nothing]
      simp
    | some given =>
      have named : (run command editor).named = some given :=
        command.named_of_renamed renames editor
      have remembered : remember none (run command editor) = some given := by
        rw [remember, renamed, renames]
        rfl
      rw [List.foldl_cons, remembered, foldl_remember_some later, renames,
        List.filterMap_cons_some named]
      simp

end Turn

def Statement.command : Statement → Command
  | single command => command
  | global replayed => replayed.body

theorem Procedure.of_mem_replayTurns {body : Command} {position idle : Nat} {session : Session}
    {turn : Turn} (member : turn ∈ replayTurns body position idle session) :
    ∃ editor, turn = .run body editor := by
  fun_induction replayTurns body position idle session with
  | case1 => cases member
  | case2 position idle session going marked visited ih =>
    rcases List.mem_cons.mp member with rfl | later
    · exact ⟨_, rfl⟩
    · split at later
      · exact ih later
      · cases later
  | case3 _ _ _ _ _ ih => exact ih member

namespace Session
variable {session : Session}

theorem of_mem_lineTurns {line : Text} {statement : Statement}
    (said : Statement.parse line.body = .ok statement) {turn : Turn}
    (member : turn ∈ session.lineTurns line) : ∃ editor, turn = .run statement.command editor := by
  rw [lineTurns, said] at member
  cases statement with
  | single command =>
    rw [List.mem_singleton.mp member]
    exact ⟨_, rfl⟩
  | global global =>
    dsimp only at member
    split at member
    · exact Procedure.of_mem_replayTurns member
    · cases member

theorem isSome_filename_afterAll (unlimited : session.output.Unlimited)
    (named : session.filename.isSome = true) (steps : List Step) :
    (session.afterAll steps).filename.isSome = true := by
  rw [filename_afterAll unlimited, Turn.foldl_remember]
  cases ((session.turns steps).filterMap Turn.renamed).getLast? <;> simp [named]

-- A line that says a command without a name fails where none is remembered.
theorem executeLine_unnamed (reached : Reachable session) (unlimited : session.output.Unlimited)
    (absent : session.filename = none) {line : Text} {command : Command} (said : line.Says command)
    (unnamed : command.Unnamed) :
    ∃ failure, ((Procedure.executeStatement line).run session).1 = .error (.failed failure)
      ∧ (command.addressed session.editor = true → failure = .noFilename)
      ∧ (session.after (.line line)).buffer = session.buffer
      ∧ (session.after (.line line)).files = session.files := by
  have current_le := reached.sound.current_le
  obtain ⟨failure, ran, kind⟩ :=
    Procedure.run_execute_unnamed current_le absent unnamed false
  have same : session.editor.SameLines (command.addresses.resolve.run session.editor).2 :=
    command.addresses.resolve_sameLines session.editor
  rw [← Procedure.executeStatement_single said] at ran
  have takes : Output.Unlimited (Session.output { session with
      editor := (command.addresses.resolve.run session.editor).2 }) := unlimited
  have reported := Procedure.run_executeLine_reported takes ran
  refine ⟨failure, congrArg Prod.fst ran, kind, ?_, ?_⟩
  · rw [after, Step.procedure, reported]
    exact same.setCurrent_back current_le
  · rw [after, Step.procedure, reported]

end Session

/-- The file name that is remembered follows one rule over whole runs, on an output that takes
everything. It is the one of the last `e` or `f` that has a name and no address, or the name that an
editor was started with; where there is none of these it stays the one that was remembered before,
and where there was none it is the first that a command gives whose addresses can be looked up. So a
line, or the body of a global command that gets to run, changes a name only by renaming, and no name
is ever forgotten. A command without a name does what it does with the remembered name given to it.
Where there is none it fails, and the files are as they were and so is the buffer. -/
theorem remembered_name_obeys_one_rule {session : Session} (reached : Reachable session)
    (unlimited : session.output.Unlimited) :
    (∀ steps, let turns := session.turns steps
      (session.afterAll steps).filename
        = ((turns.filterMap Turn.renamed).getLast?
          <|> (session.filename <|> (turns.filterMap Turn.named).head?)))
    ∧ (∀ line statement, Statement.parse line.body = .ok statement →
      let turns := session.lineTurns line
      let after := session.after (.line line)
      (∀ name, session.filename = some name →
        after.filename
          = if turns = [] then some name else statement.command.renamed <|> some name)
      ∧ (session.filename = none →
        after.filename = (turns.filterMap Turn.named).head?))
    ∧ (∀ steps, session.filename.isSome = true →
      (session.afterAll steps).filename.isSome = true)
    ∧ (∀ (other : Session) (command : Command) underGlobal, command.Unnamed →
      let ran := (Procedure.execute command underGlobal).run other
      (∀ name, other.filename = some name →
        ran = (Procedure.execute { command with action := command.action.withName name }
          underGlobal).run other)
      ∧ (other.buffer.current ≤ other.buffer.last → other.filename = none →
        ∃ failure, ran.1 = .error (.failed failure)
          ∧ (command.addressed other.editor = true → failure = .noFilename)
          ∧ ran.2.buffer.lines = other.buffer.lines ∧ ran.2.files = other.files))
    ∧ (∀ line command, Text.Says line command → command.Unnamed → session.filename = none →
      ∃ failure, ((Procedure.executeStatement line).run session).1 = .error (.failed failure)
        ∧ (command.addressed session.editor = true → failure = .noFilename)
        ∧ (session.after (.line line)).buffer = session.buffer
        ∧ (session.after (.line line)).files = session.files) := by
  refine ⟨?_, ?_, ?_, ?_, ?_⟩
  · intro steps turns
    rw [session.filename_afterAll unlimited, Turn.foldl_remember]
  · intro line statement said turns after
    have rule : after.filename = turns.foldl Turn.remember session.filename :=
      session.filename_after unlimited (.line line)
    have all (turn : Turn) (member : turn ∈ turns) :
        ∃ editor, turn = .run statement.command editor :=
      Session.of_mem_lineTurns said member
    constructor
    · intro name named
      rw [rule, named]
      exact Turn.foldl_remember_some all name
    · intro absent
      rw [rule, absent]
      exact Turn.foldl_remember_none all
  · exact fun steps named => session.isSome_filename_afterAll unlimited named steps
  · intro other command underGlobal unnamed ran
    constructor
    · intro name remembered
      exact (Procedure.run_execute_withName remembered unnamed underGlobal).symm
    · intro current_le absent
      obtain ⟨failure, failed, kind⟩ :=
        Procedure.run_execute_unnamed current_le absent unnamed underGlobal
      have same : other.editor.SameLines (command.addresses.resolve.run other.editor).2 :=
        command.addresses.resolve_sameLines other.editor
      refine ⟨failure, congrArg Prod.fst failed, kind, ?_, ?_⟩
      · simp only [ran, failed]
        exact same.lines
      · simp only [ran, failed]
  · intro line command said unnamed absent
    exact session.executeLine_unnamed reached unlimited absent said unnamed

def withoutFiles : Session := .typed [97, 10, 98, 10, 46, 10]

def readForEach : Text := ['g', '/', 'b', '/', 'r', ' ', 'f', '\n']

set_option maxRecDepth 100000 in
/-- `w` fails while no name is remembered. There is no file for `g/b/r f` to read, but the name is
remembered; `w g` leaves it, `e h` fails too and takes its place, and `1f i` may not have its
address. -/
theorem failing_commands_name_files :
    Reachable withoutFiles ∧ withoutFiles.output.Unlimited
      ∧ ((Procedure.executeStatement ['w', '\n']).run withoutFiles).1
        = .error (.failed .noFilename)
      ∧ (withoutFiles.after (.line ['w', '\n'])).buffer = withoutFiles.buffer
      ∧ (withoutFiles.after (.line readForEach)).filename = some ['f']
      ∧ (withoutFiles.afterAll [.line readForEach, .line ['w', ' ', 'g', '\n'],
          .line ['e', ' ', 'h', '\n'], .line ['1', 'f', ' ', 'i', '\n']]).filename
        = some ['h'] := by
  have reached : Reachable withoutFiles := typed_reachable _
  have unlimited : withoutFiles.output.Unlimited := typed_unlimited _
  have absent : withoutFiles.filename = none := by cbv
  have said : Text.Says ['w', '\n'] { action := .write none } := by
    unfold Text.Says
    cbv
  obtain ⟨runs, lines, _, _, lacking⟩ := remembered_name_obeys_one_rule reached unlimited
  obtain ⟨failure, failed, kind, same, _⟩ := lacking _ _ said ⟨rfl, rfl⟩ absent
  have addressed : Command.addressed { action := .write none } withoutFiles.editor = true := by cbv
  refine ⟨reached, unlimited, ?_, same, ?_, ?_⟩
  · rw [failed, kind addressed]
  · have named := runs [.line readForEach]
    rw [absent] at named
    refine named.trans ?_
    cbv
  · rw [runs, absent]
    cbv

end LineEditor
