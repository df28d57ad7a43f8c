import LineEditor.Proofs.Bounds.Session
import LineEditor.Proofs.Equations
import LineEditor.Proofs.SideBySide.Edit

/-!
Two sessions that are alike but for what they say, or but for their marks, or but for how their
inputs are written. Every procedure ends the same way in both of them and leaves them alike. A
global command is the one that looks at marks, after it has set all of them; so it goes the same way
also in sessions with different marks, and leaves them with the same ones.
-/

namespace LineEditor

variable {α β : Type}

/-- Inputs that are read alike: the next lines mean the same, if anything, and what follows is read
alike again. -/
structure Reading where
  Alike : Bytes → Bytes → Prop
  line : ∀ {input input' : Bytes}, Alike input input' →
    (Bytes.takeLine input).1.typedLine? = (Bytes.takeLine input').1.typedLine?
  rest : ∀ {input input' : Bytes}, Alike input input' →
    Alike (Bytes.takeLine input).2 (Bytes.takeLine input').2

def Reading.same : Reading where
  Alike := Eq
  line same := by rw [same]
  rest same := by rw [same]

variable {reading : Reading} {marks heard : Bool}

/-! ### Saying something -/

structure Voice where
  options : Options
  output : Output
  lastFailure : Option Failure

namespace Session

def voice (session : Session) : Voice :=
  ⟨session.options, session.output, session.lastFailure⟩

def speaking (session : Session) (voice : Voice) : Session :=
  { session with
    options := voice.options
    output := voice.output
    lastFailure := voice.lastFailure }

/-- The sessions hold the same, and their inputs are read alike. Where marks matter these are the
same too, and so are the voices where the sessions are heard; else both have an output that takes
everything. -/
structure AlikeUpTo (reading : Reading) (marks heard : Bool) (session session' : Session) :
    Prop where
  editor : session.editor.Alike marks session'.editor
  input : reading.Alike session.input session'.input
  files : session.files = session'.files
  filename : session.filename = session'.filename
  running : session.running = session'.running
  voice : heard = true → session.voice = session'.voice
  unheard : heard = false → session.output.Unlimited ∧ session'.output.Unlimited

abbrev Alike (marks heard : Bool) : Session → Session → Prop := AlikeUpTo .same marks heard

namespace AlikeUpTo
variable {session session' : Session}

theorem buffer (alike : session.AlikeUpTo reading marks heard session') :
    session.buffer.Alike marks session'.buffer := alike.editor.buffer

theorem seen (alike : session.AlikeUpTo reading marks heard session') :
    session.SeenAlike session' where
  buffer := Buffer.alike_of_texts alike.buffer.texts alike.buffer.current
  files := alike.files
  filename := alike.filename

theorem withEditor (alike : session.AlikeUpTo reading marks heard session')
    {editor editor' : Editor} (edited : editor.Alike marks editor') :
    AlikeUpTo reading marks heard { session with editor } { session' with editor := editor' } :=
  { alike with editor := edited }

theorem withInput (alike : session.AlikeUpTo reading marks heard session') (input : Bytes) :
    Session.Alike marks heard { session with input } { session' with input } :=
  { alike with input := rfl }

theorem forget (alike : session.AlikeUpTo reading true heard session') (marks : Bool) :
    session.AlikeUpTo reading marks heard session' :=
  { alike with editor := ⟨alike.buffer.forget marks, alike.editor.active⟩ }

end AlikeUpTo

end Session

open Session (AlikeUpTo)

namespace Edit

theorem Asks.together {operation : Edit α} (asks : operation.Asks) :
    Together (Editor.Alike marks) operation operation := by
  cases asks with
  | range addresses => exact addresses.resolve_together
  | target address => exact address.resolve_together
  | usePattern pattern ignoreCase => exact usePattern_together pattern ignoreCase

theorem Alters.together {powers : Powers} {operation : Edit α}
    (alters : operation.Alters powers) : Together (Editor.Alike marks) operation operation := by
  cases alters with
  | minus n m => exact minus_together n m
  | setCurrent n => exact setCurrent_together n
  | delete _ final => exact change_together fun _ _ alike => alike.delete _ final
  | move _ final target => exact change_together fun _ _ alike => alike.moveBlock _ final target
  | insert line => exact change_together fun _ _ alike => alike.insert _
  | clear => exact change_together fun _ _ alike => .ok alike.clear
  | unmark _ n => exact change_together fun _ _ alike => alike.setMark n false
  | mark _ regex range invert =>
    exact change_together fun _ _ alike => .ok (alike.markLines regex range invert)

end Edit

namespace Procedure

theorem request_speaking (call : Output → Output × Option Refusal) (session other : Session)
    (voice : Voice) :
    (request call).run (session.speaking voice)
      = (((request call).run (other.speaking voice)).1,
        session.speaking ((request call).run (other.speaking voice)).2.voice) := by
  have same : (session.speaking voice).output = (other.speaking voice).output := rfl
  rw [run_request, run_request, same]
  rcases call (other.speaking voice).output with ⟨output, _ | refusal⟩ <;> rfl

-- Whoever has the voice says the same with it, and stays as it is but for the voice.
theorem Spoken.speaking {reports : Prop} {procedure : Procedure Unit}
    (spoken : Spoken reports procedure) (session other : Session) (voice : Voice) :
    procedure.run (session.speaking voice) = ((procedure.run (other.speaking voice)).1,
      session.speaking (procedure.run (other.speaking voice)).2.voice) := by
  induction spoken generalizing other voice with
  | silence | toggle | remember => rfl
  | write text => exact request_speaking _ session other voice
  | flush => exact request_speaking _ session other voice
  | @bind first next _ _ before after =>
    rw [run_bind, run_bind, before other voice]
    rcases first.run (other.speaking voice) with ⟨stop | _, between⟩
    · rfl
    · exact after between between.voice
  | @consult next blind _ after =>
    have same : next (session.speaking voice) = next (other.speaking voice) := blind _ _ rfl rfl
    rw [run_bind, run_bind, run_get, run_get]
    dsimp only
    rw [same]
    exact after _ other voice

theorem Spoken.only_voice {reports : Prop} {procedure : Procedure Unit}
    (spoken : Spoken reports procedure) (session : Session) :
    (procedure.run session).2 = session.speaking (procedure.run session).2.voice :=
  congrArg Prod.snd (spoken.speaking session session session.voice)

theorem Spoken.completes {reports : Prop} {procedure : Procedure Unit}
    (spoken : Spoken reports procedure) {session : Session}
    (unlimited : session.output.Unlimited) :
    (procedure.run session).1 = .ok ⟨⟩ ∧ (procedure.run session).2.output.Unlimited := by
  induction spoken generalizing session with
  | silence | toggle | remember => exact ⟨rfl, unlimited⟩
  | write text =>
    rw [run_write_unlimited unlimited]
    exact ⟨rfl, unlimited⟩
  | flush =>
    rw [Procedure.flush, run_request, Output.flush_unlimited unlimited]
    exact ⟨rfl, unlimited⟩
  | @bind first next _ _ before after =>
    obtain ⟨ended, takes⟩ := before unlimited
    rw [run_bind]
    rcases ran : first.run session with ⟨_ | _, between⟩ <;> rw [ran] at ended takes
    · cases ended
    · exact after takes
  | consult _ _ after => exact after session unlimited

/-! ### Single steps -/

theorem Spoken.together {reports : Prop} {procedure : Procedure Unit}
    (spoken : Spoken reports procedure) :
    Together (AlikeUpTo reading marks heard) procedure procedure := by
  intro session session' alike
  have led := spoken.speaking session default session.voice
  have led' := spoken.speaking session' default session'.voice
  change procedure.run session = _ at led
  change procedure.run session' = _ at led'
  cases heard with
  | true =>
    have same := alike.voice rfl
    rw [← same] at led'
    rw [led, led']
    exact ⟨rfl, alike.editor, alike.input, alike.files, alike.filename, alike.running,
      fun _ => rfl, nofun⟩
  | false =>
    obtain ⟨unlimited, unlimited'⟩ := alike.unheard rfl
    obtain ⟨ended, takes⟩ := spoken.completes unlimited
    obtain ⟨ended', takes'⟩ := spoken.completes unlimited'
    refine ⟨ended.trans ended'.symm, ?_⟩
    rw [led] at takes ⊢
    rw [led'] at takes' ⊢
    exact ⟨alike.editor, alike.input, alike.files, alike.filename, alike.running, nofun,
      fun _ => ⟨takes, takes'⟩⟩

theorem edit_together {operation : Edit α}
    (leads : Together (Editor.Alike marks) operation operation) :
    Together (AlikeUpTo reading marks heard) (edit operation) (edit operation) := by
  intro session session' alike
  rcases ran : operation.run session.editor with ⟨outcome, editor⟩
  obtain ⟨editor', ran', edited⟩ := (leads _ _ alike.editor).follows ran
  rw [run_edit, run_edit, ran, ran']
  cases outcome with
  | ok a => exact ⟨rfl, alike.withEditor edited⟩
  | error stop => exact ⟨rfl, alike.withEditor edited⟩

theorem readLine_together : Together (AlikeUpTo reading marks heard) readLine readLine := by
  intro session session' alike
  rw [run_readLine, run_readLine, reading.line alike.input]
  exact ⟨rfl, { alike with input := reading.rest alike.input }⟩

theorem takeTyped_together : Together (AlikeUpTo reading marks heard) takeTyped takeTyped := by
  have reads : Together (AlikeUpTo reading marks heard) readLine readLine := readLine_together
  have puts (line : Text) :
      Together (AlikeUpTo reading marks heard) (insertLine line) (insertLine line) :=
    edit_together (Edit.change_together fun _ _ alike => alike.insert line)
  intro session
  induction session using takeTyped_induction with
  | step session ih =>
    intro session' alike
    rw [run_takeTyped, run_takeTyped]
    apply (reads session session' alike).bind
    intro line typed typed' read led
    split
    · exact ⟨rfl, led⟩
    · apply (puts line typed typed' led).bind
      intro _ inserted inserted' put led
      exact ih line typed inserted read put inserted' led

theorem storeFile_together (path : Text) (content : Bytes) :
    Together (AlikeUpTo reading marks heard) (storeFile path content) (storeFile path content) := by
  intro session session' alike
  rw [run_storeFile, run_storeFile, alike.files]
  rcases session'.files.write path content with ⟨_ | _, files⟩ <;>
    exact ⟨rfl, { alike with files := rfl }⟩

-- A procedure looks at nothing in which such sessions differ.
theorem Composed.together {powers : Powers} {p q : Phase} {procedure : Procedure α}
    (composed : Composed powers p q procedure) :
    Together (AlikeUpTo reading marks heard) procedure procedure := by
  induction composed with
  | pure a => exact .pure a
  | fail _ failure => exact .throw _
  | stop _ => exact .throw _
  | weaken _ _ _ ih => exact ih
  | bind _ _ before after => exact .bind before after
  | look blind _ after =>
    apply Together.get_bind
    intro session session' alike
    rw [blind session session' alike.seen]
    exact after session'
  | ask asks => exact edit_together asks.together
  | alter _ alters => exact edit_together alters.together
  | substitute _ _ underGlobal => exact edit_together (Substitution.apply_together _ _ underGlobal)
  | name _ path => exact .modify fun _ _ alike => { alike with filename := rfl }
  | store path content => exact storeFile_together path content
  | quit _ => exact .modify fun _ _ alike => { alike with running := rfl }
  | takeTyped _ => exact takeTyped_together
  | spoken spoken => exact spoken.together

theorem setCurrent_together (n : Nat) :
    Together (AlikeUpTo reading marks heard) (setCurrent n) (setCurrent n) :=
  edit_together (Edit.setCurrent_together n)

end Procedure

/-! ### Sessions with other marks -/

-- Slot 0 is empty and not marked, so that the lines are enough to compare.
theorem Buffer.Sound.alike {b b' : Buffer} (sound : b.Sound) (sound' : b'.Sound)
    (lines : b.lines.map (Line.view marks) = b'.lines.map (Line.view marks))
    (current : b.current = b'.current) : b.Alike marks b' where
  slots := by rw [sound.slots_eq, sound'.slots_eq, List.map_cons, List.map_cons, lines]
  current := current

namespace Session

/-- The sessions are alike, and their buffers in order unless their marks are the same. -/
structure KindredUpTo (reading : Reading) (marks heard : Bool) (session session' : Session) : Prop
    extends session.AlikeUpTo reading marks heard session' where
  sound : marks = false → session.buffer.Sound ∧ session'.buffer.Sound

abbrev Kindred (marks heard : Bool) : Session → Session → Prop := KindredUpTo .same marks heard

/-- The line is a global command that comes past its pattern, so that it sets all marks. -/
def Marks (session : Session) (line : Text) : Prop :=
  ∃ global first start, Statement.parse line.body = .ok (.global global)
    ∧ (Procedure.markGlobal global).run session = (.ok first, start)

end Session

open Session (KindredUpTo)

variable {session session' : Session}

namespace Procedure

/-! ### Global commands -/

theorem visit_together (body : Command) (n : Nat) :
    Together (AlikeUpTo reading marks heard) (visit body n) (visit body n) := by
  apply Together.bind (edit_together (Edit.change_together fun _ _ alike => alike.setMark n false))
  intro _
  exact .bind (setCurrent_together n) fun _ => (execute_composed body true).together

-- The loop looks at marks, so these have to be the same.
theorem replayFrom_together (body : Command) (position idle : Nat) :
    Together (AlikeUpTo reading true heard) (replayFrom body position idle)
      (replayFrom body position idle) := by
  intro session
  change ∀ session', session.AlikeUpTo reading true heard session' →
    EndTogether (AlikeUpTo reading true heard) (replayFrom body position idle session)
      (replayFrom body position idle session')
  have visits (n : Nat) : Together (AlikeUpTo reading true heard) (visit body n) (visit body n) :=
    visit_together body n
  fun_induction replayFrom body position idle session with
  | case1 position idle session passed =>
    intro session' alike
    rw [alike.buffer.last] at passed
    rw [replayFrom_passed passed]
    exact ⟨rfl, alike⟩
  | case2 position idle session going marked visited _ ran ih =>
    intro session' alike
    rw [alike.buffer.last] at going
    rw [alike.buffer.marked?] at marked
    have ended := visits position session session' alike
    obtain ⟨visited', ran', led⟩ := ended.follows (Prod.ext ran rfl)
    rw [replayFrom_visit going marked, ran']
    exact ih visited' led
  | case3 position idle session going marked visited stop ran =>
    intro session' alike
    rw [alike.buffer.last] at going
    rw [alike.buffer.marked?] at marked
    have ended := visits position session session' alike
    obtain ⟨visited', ran', led⟩ := ended.follows (Prod.ext ran rfl)
    rw [replayFrom_visit going marked, ran']
    exact ⟨rfl, led⟩
  | case4 position idle session going unmarked ih =>
    intro session' alike
    rw [alike.buffer.last] at going
    rw [alike.buffer.marked?] at unmarked
    rw [replayFrom_skip going unmarked, ← alike.buffer.nextLine]
    exact ih session' alike

def SameMarks (session session' : Session) : Prop :=
  session.buffer.lines.map (Line.view true) = session'.buffer.lines.map (Line.view true)

theorem settle_together (range : Range) (first final : Nat) :
    Together (AlikeUpTo reading marks heard) (settle range first final)
      (settle range first final) := by
  unfold settle
  cases range.settle first final with
  | ok settled => exact .pure settled
  | error failure => exact .throw _

theorem buffer_bind_meets {Q : Session → Session → Prop} {next next' : Buffer → Procedure α}
    (after : ∀ b b', b.Alike marks b' →
      Meets (AlikeUpTo reading marks heard) Q (next b) (next' b')) :
    Meets (AlikeUpTo reading marks heard) Q (buffer >>= next) (buffer >>= next') :=
  fun session session' alike => after _ _ alike.buffer session session' alike

theorem markGlobal_meets (global : Global) :
    Meets (AlikeUpTo reading marks heard) SameMarks (markGlobal global) (markGlobal global) := by
  apply Meets.bind (edit_together global.addresses.resolve_together)
  intro range
  apply buffer_bind_meets
  intro b b' alike
  rw [alike.last]
  apply Meets.bind (settle_together range 1 _)
  intro range
  apply Meets.bind (edit_together (Edit.usePattern_together _ _))
  intro regex session session' alike
  have marked := alike.buffer.markLines regex range global.invert
  refine ⟨⟨rfl, alike.withEditor ⟨marked, alike.editor.active⟩⟩, ?_⟩
  intro first _
  exact alike.buffer.markLines_lines regex range _

theorem markGlobal_marked (kindred : session.KindredUpTo reading marks heard session')
    {global : Global} {first : Nat} {start start' : Session}
    (marked : (markGlobal global).run session = (.ok first, start))
    (marked' : (markGlobal global).run session' = (.ok first, start')) :
    start.AlikeUpTo reading true heard start' := by
  obtain ⟨⟨_, led⟩, lines⟩ := markGlobal_meets global session session' kindred.toAlikeUpTo
  rw [marked, marked'] at led lines
  cases marks with
  | true => exact led
  | false =>
    obtain ⟨sound, sound'⟩ := kindred.sound rfl
    have same : start.buffer.Alike true start'.buffer :=
      (markGlobal_sound sound marked).alike (markGlobal_sound sound' marked') (lines first rfl)
        led.buffer.current
    exact { led with editor := ⟨same, led.editor.active⟩ }

-- The marks are the same afterwards if they were so before, or if the lines could be marked.
theorem executeGlobal_together (kindred : session.KindredUpTo reading marks heard session')
    (global : Global) {marks' : Bool} (either : marks' = marks ∨
      ∃ first start, (markGlobal global).run session = (.ok first, start)) :
    EndTogether (AlikeUpTo reading marks' heard) ((executeGlobal global).run session)
      ((executeGlobal global).run session') := by
  obtain ⟨ended, _⟩ := markGlobal_meets global session session' kindred.toAlikeUpTo
  rcases marked : (markGlobal global).run session with ⟨outcome, start⟩
  obtain ⟨start', marked', led⟩ := ended.follows marked
  rw [run_executeGlobal, run_executeGlobal, marked, marked']
  cases outcome with
  | ok first =>
    have start_alike := markGlobal_marked kindred marked marked'
    obtain ⟨same, led⟩ := replayFrom_together global.body first 0 start start' start_alike
    exact ⟨same, led.forget marks'⟩
  | error stop =>
    rcases either with rfl | ⟨first, other, found⟩
    · exact ⟨rfl, led⟩
    · rw [marked] at found
      cases found

/-! ### Command lines -/

theorem executeStatement_together (kindred : session.KindredUpTo reading marks heard session')
    {line : Text} {marks' : Bool} (either : marks' = marks ∨ session.Marks line) :
    EndTogether (AlikeUpTo reading marks' heard) ((executeStatement line).run session)
      ((executeStatement line).run session') := by
  unfold executeStatement
  cases said : Statement.parse line.body with
  | error failure =>
    rcases either with rfl | ⟨_, _, _, other, _⟩
    · exact ⟨rfl, kindred.toAlikeUpTo⟩
    · rw [said] at other
      cases other
  | ok statement =>
    cases statement with
    | single command =>
      rcases either with rfl | ⟨_, _, _, other, _⟩
      · exact (execute_composed command false).together session session' kindred.toAlikeUpTo
      · rw [said] at other
        cases other
    | global global =>
      apply executeGlobal_together kindred global
      rcases either with same | ⟨_, first, start, other, marked⟩
      · exact .inl same
      · rw [said] at other
        cases other
        exact .inr ⟨first, start, marked⟩

theorem executeLine_together (kindred : session.KindredUpTo reading marks heard session')
    {line : Text} {marks' : Bool} (either : marks' = marks ∨ session.Marks line) :
    EndTogether (AlikeUpTo reading marks' heard) ((executeLine line).run session)
      ((executeLine line).run session') := by
  rw [executeLine, run_buffer_bind, run_buffer_bind, kindred.buffer.current]
  apply (executeStatement_together kindred either).tryCatch
  intro stop
  cases stop with
  | failed failure =>
    exact (report_spoken trivial failure).together.bind fun _ => setCurrent_together _
  | inputEnded => exact .throw _
  | outOfBounds => exact .throw _

end Procedure

/-! ### Sessions in order -/

namespace Session.KindredUpTo

theorem of_safe (kindred : session.KindredUpTo reading marks heard session')
    {procedure : Procedure α}
    (safe : ∀ session : Session, session.buffer.Sound →
      Procedure.Safe session procedure fun _ _ => True)
    (ended : EndTogether (AlikeUpTo reading marks heard) (procedure.run session)
      (procedure.run session')) :
    EndTogether (KindredUpTo reading marks heard) (procedure.run session)
      (procedure.run session') where
  same := ended.same
  related := by
    refine ⟨ended.related, fun unmarked => ?_⟩
    obtain ⟨sound, sound'⟩ := kindred.sound unmarked
    exact ⟨(safe session sound).sound, (safe session' sound').sound⟩

end Session.KindredUpTo

namespace Procedure

theorem Spoken.kindred {procedure : Procedure Unit} (spoken : Spoken True procedure) :
    Together (KindredUpTo reading marks heard) procedure procedure := by
  intro session session' kindred
  apply kindred.of_safe fun _ sound => (spoken.safe sound).forget
  exact spoken.together session session' kindred.toAlikeUpTo

theorem readLine_kindred : Together (KindredUpTo reading marks heard) readLine readLine := by
  intro session session' kindred
  apply kindred.of_safe fun _ sound => (readLine_safe sound).forget
  exact readLine_together session session' kindred.toAlikeUpTo

theorem executeLine_kindred (line : Text) :
    Together (KindredUpTo reading marks heard) (executeLine line) (executeLine line) := by
  intro session session' kindred
  apply kindred.of_safe fun _ sound => executeLine_safe sound line
  exact executeLine_together kindred (.inl rfl)

theorem promptLine_kindred : Together (KindredUpTo reading marks heard) promptLine promptLine := by
  apply writePrompt_spoken.kindred.bind
  intro _
  exact (readLine_kindred.bind executeLine_kindred).bind fun _ => Spoken.flush.kindred

theorem runFrom_kindred (session : Session) :
    ∀ session', session.KindredUpTo reading marks heard session' →
      EndTogether (KindredUpTo reading marks heard) (runFrom session) (runFrom session') := by
  have prompts : Together (KindredUpTo reading marks heard) promptLine promptLine :=
    promptLine_kindred
  fun_induction runFrom session with
  | case1 session running _ after ran ih =>
    intro session' kindred
    obtain ⟨after', ran', led⟩ := (prompts session session' kindred).follows ran
    have running' : session'.running = true := kindred.running ▸ running
    rw [runFrom_running running', ran']
    exact ih after' led
  | case2 session running stop after ran =>
    intro session' kindred
    obtain ⟨after', ran', led⟩ := (prompts session session' kindred).follows ran
    have running' : session'.running = true := kindred.running ▸ running
    rw [runFrom_running running', ran']
    exact ⟨rfl, led⟩
  | case3 session quit =>
    intro session' kindred
    have quit' : ¬session'.running = true := kindred.running ▸ quit
    rw [runFrom_quit quit']
    exact ⟨rfl, kindred⟩

theorem openAtStart_kindred (path : Text) :
    Together (KindredUpTo reading marks heard) (openAtStart path) (openAtStart path) := by
  intro session session' kindred
  apply kindred.of_safe fun _ sound => openAtStart_safe sound path
  have opened : Together (AlikeUpTo reading marks heard) (openAtStart path) (openAtStart path) := by
    refine .bind (.modify fun _ _ alike => { alike with filename := rfl }) fun _ => ?_
    refine .bind (.tryCatch (@readFile_composed .all trivial path 0).together ?_)
      fun _ => (.flush : Spoken True Procedure.flush).together
    intro stop
    cases stop with
    | failed failure => exact (report_spoken trivial failure).together
    | inputEnded => exact .throw _
    | outOfBounds => exact .throw _
  exact opened session session' kindred.toAlikeUpTo

end Procedure

theorem Step.kindred (step : Step) :
    Together (KindredUpTo reading marks heard) step.procedure step.procedure := by
  cases step with
  | openFile path => exact Procedure.openAtStart_kindred path
  | line text => exact Procedure.executeLine_kindred text
  | run => exact Procedure.runFrom_kindred

namespace Session.KindredUpTo

theorem after (kindred : session.KindredUpTo reading marks heard session') (step : Step) :
    (session.after step).KindredUpTo reading marks heard (session'.after step) :=
  (step.kindred session session' kindred).related

theorem afterAll (kindred : session.KindredUpTo reading marks heard session') (steps : List Step) :
    (session.afterAll steps).KindredUpTo reading marks heard (session'.afterAll steps) := by
  induction steps generalizing session session' with
  | nil => exact kindred
  | cons step steps ih => exact ih (kindred.after step)

theorem results (kindred : session.KindredUpTo reading marks heard session') (steps : List Step) :
    session.results steps = session'.results steps := by
  induction steps generalizing session session' with
  | nil => rfl
  | cons step steps ih =>
    rw [Session.results, Session.results, ih (kindred.after step),
      (step.kindred session session' kindred).same]

end Session.KindredUpTo

/-! ### What can be seen -/

namespace Session

/-- The sessions hold the same texts with the same line current, and are the same around them: all
but the marks, and what depends on the options. -/
structure Matches (session session' : Session) : Prop where
  texts : session.buffer.slots.toList.map (·.text) = session'.buffer.slots.toList.map (·.text)
  current : session.buffer.current = session'.buffer.current
  active : session.editor.active = session'.editor.active
  filename : session.filename = session'.filename
  input : session.input = session'.input
  files : session.files = session'.files
  running : session.running = session'.running

def MarksMatch (session session' : Session) : Prop :=
  session.buffer.slots.toList.map (·.marked) = session'.buffer.slots.toList.map (·.marked)

theorem AlikeUpTo.matches (alike : session.Alike marks heard session') :
    session.Matches session' where
  texts := alike.buffer.texts
  current := alike.buffer.current
  active := alike.editor.active
  filename := alike.filename
  input := alike.input
  files := alike.files
  running := alike.running

end Session

end LineEditor
