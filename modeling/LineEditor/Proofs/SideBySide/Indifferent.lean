import LineEditor.Proofs.Reading
import LineEditor.Proofs.SideBySide.Run
import Mathlib

/-!
What makes no difference. Options touch the output only. Marks that a failed global command has left
are not seen again, since only global commands look at marks, and each of them sets all marks before.
And input whose lines end in a carriage return and a newline is read as if they ended in the newline
only, be it command lines or typed text.
-/

namespace LineEditor

variable {session session' : Session}

/-- Sessions that hold the same and have outputs that take everything may differ in their options:
all steps end the same way in both, and they hold the same afterwards. -/
theorem options_touch_output_only (holds : session.Matches session')
    (marks : session.MarksMatch session') (unlimited : session.output.Unlimited)
    (unlimited' : session'.output.Unlimited) (steps : List Step) :
    session.results steps = session'.results steps
      ∧ (session.afterAll steps).Matches (session'.afterAll steps)
      ∧ (session.afterAll steps).MarksMatch (session'.afterAll steps) := by
  have buffers : session.buffer.Alike true session'.buffer :=
    Buffer.alike_of_marks holds.texts marks holds.current
  have kindred : session.Kindred true false session' :=
    { editor := ⟨buffers, holds.active⟩
      input := holds.input
      files := holds.files
      filename := holds.filename
      running := holds.running
      voice := nofun
      unheard := fun _ => ⟨unlimited, unlimited'⟩
      sound := nofun }
  have after := kindred.afterAll steps
  exact ⟨kindred.results steps, after.matches, after.buffer.sameMarks⟩

def Session.startAsked (options : Options) : Session :=
  .start Regex.engine options [97, 10, 98, 10, 46, 10] {} { entries := [], working := [] }

/-- `a` for lines a and b, `9p`, which fails, and `1d`. -/
def typeFailDelete : List Step :=
  [.line ['a', '\n'], .line ['9', 'p', '\n'], .line ['1', 'd', '\n']]

set_option maxRecDepth 100000 in
theorem explaining_session_holds_the_same :
    let quiet := Session.startAsked {}
    let explaining := Session.startAsked { prompt := [':'], explain := true, showCounts := false }
    (quiet.afterAll typeFailDelete).buffer.lines.map (·.text) = [['b', '\n']]
      ∧ quiet.results typeFailDelete = explaining.results typeFailDelete
      ∧ (quiet.afterAll typeFailDelete).Matches (explaining.afterAll typeFailDelete)
      ∧ (quiet.afterAll typeFailDelete).MarksMatch (explaining.afterAll typeFailDelete) := by
  have holds : (Session.startAsked {}).Matches
      (Session.startAsked { prompt := [':'], explain := true, showCounts := false }) :=
    ⟨rfl, rfl, rfl, rfl, rfl, rfl, rfl⟩
  obtain ⟨results, held, marks⟩ := options_touch_output_only holds rfl rfl rfl typeFailDelete
  exact ⟨by cbv, results, held, marks⟩

/-! ### Marks -/

namespace Session

inductive MarksInRun : Session → Prop
  | now {session prompted typed : Session} {line : Text} (running : session.running = true)
      (prompt : Procedure.writePrompt.run session = (.ok ⟨⟩, prompted))
      (read : Procedure.readLine.run prompted = (.ok line, typed)) (sets : typed.Marks line) :
      MarksInRun session
  | later {session after : Session} (running : session.running = true)
      (ran : Procedure.promptLine.run session = (.ok ⟨⟩, after)) (sets : MarksInRun after) :
      MarksInRun session

/-- A global command comes past its pattern during the step. -/
def MarksDuring (session : Session) : Step → Prop
  | .openFile _ => False
  | .line text => session.Marks text
  | .run => session.MarksInRun

end Session

open Session (Alike Kindred)

variable {marks heard : Bool}

/-! ### Marks that are set -/

-- Where marks are the same, no buffer needs to be in order.
theorem Session.AlikeUpTo.kindred {reading : Reading}
    (alike : session.AlikeUpTo reading true heard session') :
    session.KindredUpTo reading true heard session' := ⟨alike, nofun⟩

namespace Procedure

theorem executeLine_marked (kindred : session.Kindred marks heard session') {line : Text}
    (sets : session.Marks line) :
    EndTogether (Kindred true heard) ((executeLine line).run session)
      ((executeLine line).run session') := by
  obtain ⟨same, led⟩ := executeLine_together kindred (.inr sets)
  exact ⟨same, led.kindred⟩

theorem promptLine_marked (kindred : session.Kindred marks heard session')
    {prompted typed : Session} {line : Text}
    (prompt : writePrompt.run session = (.ok ⟨⟩, prompted))
    (read : readLine.run prompted = (.ok line, typed)) (sets : typed.Marks line) :
    EndTogether (Kindred true heard) (promptLine.run session) (promptLine.run session') := by
  obtain ⟨prompted', prompt', led⟩ :=
    (writePrompt_spoken.kindred session session' kindred).follows prompt
  obtain ⟨typed', read', led⟩ := (readLine_kindred prompted prompted' led).follows read
  have ended := (executeLine_marked led sets).bind fun _ _ _ _ led =>
    Spoken.flush.kindred _ _ led
  simp only [promptLine, runLine, run_bind, prompt, prompt', read, read'] at ended ⊢
  exact ended

theorem runFrom_of_promptLine (running : session.running = true)
    (running' : session'.running = true)
    (ended : EndTogether (Kindred marks heard) (promptLine.run session) (promptLine.run session')) :
    EndTogether (Kindred marks heard) (runFrom session) (runFrom session') := by
  rcases ran : promptLine.run session with ⟨outcome, after⟩
  obtain ⟨after', ran', led⟩ := ended.follows ran
  rw [runFrom_running running, runFrom_running running', ran, ran']
  cases outcome with
  | ok _ => exact runFrom_kindred after after' led
  | error stop => exact ⟨rfl, led⟩

theorem runFrom_marked (sets : session.MarksInRun) (session' : Session)
    (kindred : session.Kindred marks heard session') :
    EndTogether (Kindred true heard) (runFrom session) (runFrom session') := by
  induction sets generalizing session' with
  | @now session prompted typed line running prompt read sets =>
    have running' : session'.running = true := kindred.running ▸ running
    exact runFrom_of_promptLine running running' (promptLine_marked kindred prompt read sets)
  | @later session after running ran sets ih =>
    have running' : session'.running = true := kindred.running ▸ running
    obtain ⟨after', ran', led⟩ := (promptLine_kindred session session' kindred).follows ran
    rw [runFrom_running running, runFrom_running running', ran, ran']
    exact ih after' led

end Procedure

theorem Session.KindredUpTo.marksDuring (kindred : session.Kindred marks heard session')
    {step : Step} (sets : session.MarksDuring step) :
    (session.after step).Kindred true heard (session'.after step) := by
  cases step with
  | openFile path => exact sets.elim
  | line text => exact (Procedure.executeLine_marked kindred sets).related
  | run => exact (Procedure.runFrom_marked sets session' kindred).related

/-- Two sessions that there can be, the same but for the marks on their lines, are the same whatever
they are asked to do: they say the same, end each step the same way and hold the same texts. Their
marks are the same, too, as soon as a global command has come past its pattern. -/
theorem left_marks_are_invisible (reached : Reachable session) (reached' : Reachable session')
    (holds : session.Matches session') (voice : session.voice = session'.voice)
    (steps : List Step) :
    session.results steps = session'.results steps
      ∧ (session.afterAll steps).Matches (session'.afterAll steps)
      ∧ (session.afterAll steps).voice = (session'.afterAll steps).voice
      ∧ ∀ before step later, steps = before ++ step :: later →
        (session.afterAll before).MarksDuring step →
          (session.afterAll steps).MarksMatch (session'.afterAll steps) := by
  have buffers : session.buffer.Alike false session'.buffer :=
    Buffer.alike_of_texts holds.texts holds.current
  have kindred : session.Kindred false true session' :=
    { editor := ⟨buffers, holds.active⟩
      input := holds.input
      files := holds.files
      filename := holds.filename
      running := holds.running
      voice := fun _ => voice
      unheard := nofun
      sound := fun _ => ⟨reached.sound, reached'.sound⟩ }
  have after := kindred.afterAll steps
  refine ⟨kindred.results steps, after.matches, after.voice rfl, ?_⟩
  rintro before step later rfl sets
  have marked := ((kindred.afterAll before).marksDuring sets).afterAll later
  rw [Session.afterAll, Session.afterAll, List.foldl_append, List.foldl_append]
  exact marked.buffer.sameMarks

/-- `g/./3p`: of lines a and b it visits the first and fails, and leaves the second marked. -/
def failsAtFirst : Global where
  pattern := ['.']
  delimiter := '/'
  body := { addresses := [({ term := .line 3 }, .nothing)], action := .print }

def failsAtFirstLine : Text := ['g', '/', '.', '/', '3', 'p', '\n']

def leftMarked : Session :=
  (Session.typed [97, 10, 98, 10, 46, 10]).after (.line failsAtFirstLine)

def leftUnmarked : Session :=
  (Session.typed [97, 10, 98, 10, 46, 10]).after (.line ['/', '.', '/', ',', '3', 'p', '\n'])

set_option maxRecDepth 100000 in
/-- With lines a and b, line 2 is left marked in one session and not in the other. They print the
same, and after the next global command their marks are the same. -/
theorem left_mark_is_invisible :
    let steps := [Step.line ['p', '\n'], .line failsAtFirstLine]
    leftMarked.buffer.marked? 2 = some true ∧ leftUnmarked.buffer.marked? 2 = some false
      ∧ leftMarked.results steps = leftUnmarked.results steps
      ∧ (leftMarked.afterAll steps).voice = (leftUnmarked.afterAll steps).voice
      ∧ (leftMarked.afterAll steps).MarksMatch (leftUnmarked.afterAll steps) := by
  intro steps
  have beside : { leftMarked with editor.buffer := .empty }
      = { leftUnmarked with editor.buffer := .empty } := by cbv
  have holds : leftMarked.Matches leftUnmarked :=
    { texts := by cbv
      current := by cbv
      active := congrArg (·.editor.active) beside
      filename := congrArg (·.filename) beside
      input := congrArg (·.input) beside
      files := congrArg (·.files) beside
      running := congrArg (·.running) beside }
  have voice := congrArg Session.voice beside
  have parsed : Statement.parse failsAtFirstLine.body = .ok (.global failsAtFirst) := by cbv
  have marked : (Procedure.markGlobal failsAtFirst).run (leftMarked.afterAll [.line ['p', '\n']])
      = (.ok 1, ((Procedure.markGlobal failsAtFirst).run
          (leftMarked.afterAll [.line ['p', '\n']])).2) := Prod.ext (by cbv) rfl
  obtain ⟨results, _, said, marks⟩ := left_marks_are_invisible (.step (typed_reachable _) _)
    (.step (typed_reachable _) _) holds voice steps
  have again := marks [.line ['p', '\n']] (.line failsAtFirstLine) [] rfl ⟨_, _, _, parsed, marked⟩
  exact ⟨by cbv, by cbv, results, said, again⟩

/-! ### Carriage returns -/

namespace Text

def PlainNewlines (text : Text) : Prop := ¬['\r', '\n'] <:+: text

instance (text : Text) : Decidable text.PlainNewlines := inferInstanceAs (Decidable (¬_))

def withCarriages (text : Text) : Text :=
  text.flatMap fun c => if c = '\n' then ['\r', '\n'] else [c]

theorem withCarriages_bare {text : Text} (bare : '\n' ∉ text) : text.withCarriages = text := by
  have alone : ∀ c ∈ text, (if c = '\n' then ['\r', '\n'] else [c]) = [c] := by
    intro c member
    exact if_neg fun (same : c = '\n') => bare (same ▸ member)
  rw [withCarriages, List.flatMap_congr alone, List.flatMap_singleton']

theorem withCarriages_line {body : Text} (bare : '\n' ∉ body) (rest : Text) :
    (body ++ '\n' :: rest).withCarriages = (body ++ ['\r']) ++ '\n' :: rest.withCarriages := by
  have front : body.withCarriages = body := withCarriages_bare bare
  rw [withCarriages] at front
  rw [withCarriages, List.flatMap_append, front, List.flatMap_cons, if_pos rfl, withCarriages]
  simp

theorem dropCarriage_carriage (body : Text) :
    ((body ++ ['\r']) ++ ['\n']).dropCarriage = body ++ ['\n'] := by
  have ends : ['\r', '\n'] <:+ (body ++ ['\r']) ++ ['\n'] := ⟨body, by simp⟩
  rw [dropCarriage, if_pos (List.isSuffixOf_iff_suffix.2 ends)]
  simp

theorem dropCarriage_plain {body : Text} (plain : ¬['\r', '\n'] <:+ body) :
    body.dropCarriage = body :=
  if_neg fun ends => plain (List.isSuffixOf_iff_suffix.1 ends)

end Text

namespace Bytes

/-- The one is a text whose newlines are plain, and the other has carriage returns before them. -/
def GainsCarriages (input input' : Bytes) : Prop :=
  ∃ text : Text, text.PlainNewlines ∧ input = Utf8.encode text
    ∧ input' = Utf8.encode text.withCarriages

theorem GainsCarriages.takeLine {input input' : Bytes} (gains : GainsCarriages input input') :
    (takeLine input).1.typedLine? = (takeLine input').1.typedLine?
      ∧ GainsCarriages (takeLine input).2 (takeLine input').2 := by
  obtain ⟨text, plain, rfl, rfl⟩ := gains
  by_cases newlines : '\n' ∈ text
  · obtain ⟨body, rest, rfl, bare⟩ := List.eq_append_cons_of_mem newlines
    have bare' : '\n' ∉ body ++ ['\r'] := by simp [bare]
    rw [Text.withCarriages_line bare, takeLine_encode bare, takeLine_encode bare',
      typedLine?_encode, typedLine?_encode, Text.dropCarriage_carriage, Text.dropCarriage_plain]
    · refine ⟨rfl, rest, ?_, rfl, rfl⟩
      intro inside
      have back : rest <:+: body ++ '\n' :: rest := ⟨body ++ ['\n'], [], by simp⟩
      exact plain (inside.trans back)
    · intro ends
      have front : body ++ ['\n'] <:+: body ++ '\n' :: rest := ⟨[], rest, by simp⟩
      exact plain (ends.isInfix.trans front)
  · rw [Text.withCarriages_bare newlines, takeLine_bare (Utf8.newline_not_mem_encode newlines)]
    exact ⟨rfl, [], by decide, rfl, rfl⟩

end Bytes

/-- Carriage returns before newlines are not read. -/
def Reading.carriages : Reading where
  Alike := Bytes.GainsCarriages
  line gains := gains.takeLine.1
  rest gains := gains.takeLine.2

/-- A run on a text whose newlines are plain ends as it does on the same text with a carriage return
before each newline, and both leave the same session but for the input. What is left of the inputs
is a text and the same text with carriage returns. -/
theorem carriages_make_no_difference {text : Text} (plain : text.PlainNewlines)
    (session : Session) :
    let ended := Procedure.runAll.run { session with input := Utf8.encode text }
    let ended' := Procedure.runAll.run { session with input := Utf8.encode text.withCarriages }
    ended.1 = ended'.1
      ∧ ended.2.Matches { ended'.2 with input := ended.2.input }
      ∧ ended.2.MarksMatch ended'.2
      ∧ ended.2.voice = ended'.2.voice
      ∧ Bytes.GainsCarriages ended.2.input ended'.2.input := by
  intro ended ended'
  have kindred : Session.KindredUpTo .carriages true true
      { session with input := Utf8.encode text }
      { session with input := Utf8.encode text.withCarriages } :=
    { editor := ⟨⟨rfl, rfl⟩, rfl⟩
      input := ⟨text, plain, rfl, rfl⟩
      files := rfl
      filename := rfl
      running := rfl
      voice := fun _ => rfl
      unheard := nofun
      sound := nofun }
  obtain ⟨same, led⟩ := Procedure.runFrom_kindred _ _ kindred
  have holds := (led.withInput ended.2.input).matches
  exact ⟨same, holds, led.buffer.sameMarks, led.voice rfl, led.input⟩

/-- A line with a carriage return inside it is typed and printed, and the session quits; what is
typed after that is not read. -/
def typedWithCarriage : Text :=
  ['a', '\n', 'b', '\r', 'c', '\n', '.', '\n', 'p', '\n', 'q', '\n', 'p', '\n']

theorem typedWithCarriage_reads_alike :
    let start : Session := .start Regex.engine {} [] {} { entries := [], working := [] }
    let ended := Procedure.runAll.run { start with input := Utf8.encode typedWithCarriage }
    let ended' :=
      Procedure.runAll.run { start with input := Utf8.encode typedWithCarriage.withCarriages }
    typedWithCarriage.PlainNewlines
      ∧ typedWithCarriage.withCarriages
        = ['a', '\r', '\n', 'b', '\r', 'c', '\r', '\n', '.', '\r', '\n', 'p', '\r', '\n',
          'q', '\r', '\n', 'p', '\r', '\n']
      ∧ ended.1 = ended'.1 ∧ ended.2.Matches { ended'.2 with input := ended.2.input }
      ∧ ended.2.voice = ended'.2.voice := by
  intro start ended ended'
  have plain : typedWithCarriage.PlainNewlines := by decide
  obtain ⟨same, holds, _, voice, _⟩ := carriages_make_no_difference plain start
  exact ⟨plain, by decide, same, holds, voice⟩

end LineEditor
