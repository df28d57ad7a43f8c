import Mathlib
import LineEditor.Proofs.Lookup.Walk
import LineEditor.Proofs.SideBySide.Run

/-!
Where a command may fail. It fails before it acts: up to then nothing is altered but the current
line, the active pattern, the remembered name and the files, or lines of a file have come in if it
reads one. On an output that takes everything neither writing nor any change of the buffer can fail;
what cannot be done to a buffer at all stops the run, and is no failure. With the current line set
back and the failure reported, the buffer is as it was before the command line.
-/

namespace LineEditor

variable {α β : Type}

/-- From no state does the computation fail. It may be stopped for another reason. -/
def Unfailing {σ : Type} (m : ExceptT Stop (StateM σ) α) : Prop :=
  ∀ s failure, (m.run s).1 ≠ .error (.failed failure)

theorem unfailed_bind {σ : Type} {first : ExceptT Stop (StateM σ) β}
    {next : β → ExceptT Stop (StateM σ) α} {s : σ} {failure : Failure}
    (before : (first.run s).1 ≠ .error (.failed failure))
    (after : ∀ b between, first.run s = (.ok b, between) →
      ((next b).run between).1 ≠ .error (.failed failure)) :
    ((first >>= next).run s).1 ≠ .error (.failed failure) := by
  rw [run_bind]
  rcases ran : first.run s with ⟨stop | b, between⟩ <;> rw [ran] at before
  · exact fun same => before (congrArg Except.error (Except.error.inj same))
  · exact after b between ran

theorem Unfailing.bind {σ : Type} {first : ExceptT Stop (StateM σ) β}
    {next : β → ExceptT Stop (StateM σ) α} (before : Unfailing first)
    (after : ∀ b, Unfailing (next b)) : Unfailing (first >>= next) :=
  fun s failure => unfailed_bind (before s failure) fun b between _ => after b between failure

/-! ### Edits -/

namespace Edit

theorem minus_unfailing (n m : Nat) : Unfailing (minus n m) := by
  unfold minus
  intro editor failure
  split <;> nofun

theorem change_unfailing (operation : Buffer → Except OutOfBounds Buffer) :
    Unfailing (change operation) := by
  intro editor failure
  rw [change, run_bind, run_get]
  dsimp only
  split <;> intro failed <;> cases failed

theorem Alters.unfailing {powers : Powers} {operation : Edit α} (alters : operation.Alters powers) :
    Unfailing operation := by
  cases alters with
  | minus n m => exact minus_unfailing n m
  | setCurrent n => exact fun _ _ => nofun
  | _ => exact change_unfailing _

theorem Asks.sameLines {operation : Edit α} (asks : operation.Asks) :
    Keeps Editor.SameLines operation := by
  cases asks with
  | range addresses => exact addresses.resolve_sameLines
  | target address => exact address.resolve_sameLines
  | usePattern pattern ignoreCase => exact usePattern_sameLines pattern ignoreCase

end Edit

namespace Substitution

theorem replaceLine_unfailing (n : Nat) (text : Text) : Unfailing (replaceLine n text) :=
  .bind (Edit.change_unfailing _) fun _ => .bind (Edit.minus_unfailing n 1) fun _ =>
    .bind (fun _ _ => nofun) fun _ => Edit.change_unfailing _

theorem applyFrom_unfailing (substitution : Substitution) (regex : Regex) (n count : Nat) :
    Unfailing (substitution.applyFrom regex n count) := by
  induction count generalizing n with
  | zero => exact fun _ _ => nofun
  | succ count ih =>
    refine .bind (fun _ _ => nofun) fun b => ?_
    split
    · exact fun _ _ => nofun
    · dsimp only
      split
      · exact ih (n + 1)
      · exact .bind (replaceLine_unfailing n _) fun _ => .bind (ih (n + 1)) fun _ _ _ => nofun

theorem applyFrom_zero {substitution : Substitution} {regex : Regex} {n count : Nat}
    {editor after : Editor}
    (ran : (substitution.applyFrom regex n count).run editor = (.ok 0, after)) :
    after = editor := by
  induction count generalizing n editor with
  | zero =>
    cases ran
    rfl
  | succ count ih =>
    rw [applyFrom, Edit.run_buffer_bind] at ran
    cases found : editor.buffer.text? n with
    | none =>
      rw [found] at ran
      cases ran
    | some text =>
      rw [found] at ran
      dsimp only at ran
      split at ran
      · exact ih ran
      · rw [run_bind] at ran
        rcases replaced : (replaceLine n _).run editor with ⟨_ | _, between⟩ <;>
          rw [replaced] at ran
        · cases ran
        · simp only [run_bind] at ran
          rcases others : (substitution.applyFrom regex (n + 1) count).run between
            with ⟨_ | changed, last⟩ <;> rw [others] at ran <;> cases ran

-- To change no line is a failure, and that leaves the lines as they are.
theorem sameLines_of_failed {substitution : Substitution} {range : Range} {underGlobal : Bool}
    {editor after : Editor} {failure : Failure}
    (ran : (substitution.apply range underGlobal).run editor = (.error (.failed failure), after)) :
    editor.SameLines after := by
  have found := Edit.usePattern_sameLines
    (Pattern.unescapeDelimiter substitution.pattern substitution.delimiter)
    substitution.ignoreCase editor
  rw [apply, run_bind] at ran
  rcases used : (Edit.usePattern (Pattern.unescapeDelimiter substitution.pattern
    substitution.delimiter) substitution.ignoreCase).run editor with ⟨_ | regex, between⟩ <;>
      rw [used] at ran found
  · cases ran
    exact found
  · have goes := substitution.applyFrom_unfailing regex range.first
      (range.final + 1 - range.first) between failure
    dsimp only at ran
    rw [run_bind] at ran
    rcases applied : (substitution.applyFrom regex range.first
      (range.final + 1 - range.first)).run between with ⟨stop | changed, left⟩ <;>
        rw [applied] at ran goes
    · cases ran
      exact absurd rfl goes
    · dsimp only at ran
      split at ran
      · rename_i unchanged
        cases ran
        rw [unchanged.1] at applied
        rwa [applyFrom_zero applied]
      · cases ran

end Substitution

/-! ### How far a procedure has come -/

theorem Phase.le_trans {p q r : Phase} (first : p ≤ q) (second : q ≤ r) : p ≤ r :=
  Nat.le_trans first second

theorem Phase.le_refl (p : Phase) : p ≤ p := Nat.le_refl p.rank

theorem Phase.ne_acting_of_le {p q : Phase} (le : p ≤ q) (early : q ≠ .acting) : p ≠ .acting := by
  rintro rfl
  cases q <;> first | exact early rfl | exact absurd le (by decide)

namespace Session

variable {loads : Prop} {start session : Session} {p q : Phase}

/-- The lines with their marks, the input, the output and the options are the same, and the session
goes on if it did. -/
structure Unaltered (before after : Session) : Prop where
  lines : before.buffer.SameLines after.buffer
  input : after.input = before.input
  output : after.output = before.output
  running : after.running = before.running
  options : after.options = before.options

theorem Unaltered.refl (session : Session) : session.Unaltered session :=
  ⟨.refl session.buffer, rfl, rfl, rfl, rfl⟩

theorem Unaltered.trans {a b c : Session} (first : a.Unaltered b) (second : b.Unaltered c) :
    a.Unaltered c where
  lines := first.lines.trans second.lines
  input := second.input.trans first.input
  output := second.output.trans first.output
  running := second.running.trans first.running
  options := second.options.trans first.options

/-- What has become of a session in this phase: nothing, or nothing is said yet. -/
def Stage (loads : Prop) (start : Session) : Phase → Session → Prop
  | .checking, session => start.Unaltered session
  | .reading, session => session.output = start.output ∧ (loads ∨ start.Unaltered session)
  | .acting, _ => True

theorem Stage.mono (le : p ≤ q) (stage : Stage loads start p session) :
    Stage loads start q session := by
  cases p <;> cases q
  case checking.checking | reading.reading | acting.acting => exact stage
  case checking.reading => exact ⟨stage.output, .inr stage⟩
  case checking.acting | reading.acting => trivial
  case reading.checking | acting.checking | acting.reading => exact absurd le (by decide)

/-- How a procedure ends that was begun in phase `p`: in phase `q`, or with a failure before it
acts, or stopped for another reason. -/
structure EndsAt (loads : Prop) (start : Session) (p q : Phase) (ended : Except Stop α × Session) :
    Prop where
  takes : ended.2.output.Unlimited
  goes : ∀ a, ended.1 = .ok a → p ≤ q ∧ Stage loads start q ended.2
  early : ∀ failure, ended.1 = .error (.failed failure) →
    p ≠ .acting ∧ Stage loads start .reading ended.2

theorem EndsAt.of_unaltered {ended : Except Stop α × Session} (takes : ended.2.output.Unlimited)
    (unaltered : start.Unaltered ended.2) : EndsAt loads start .checking .checking ended where
  takes := takes
  goes _ _ := ⟨by decide, unaltered⟩
  early _ _ := ⟨by decide, unaltered.output, .inr unaltered⟩

theorem EndsAt.weaken {p' q' : Phase} {ended : Except Stop α × Session} (before : p' ≤ p)
    (after : q ≤ q') (ends : EndsAt loads start p q ended) : EndsAt loads start p' q' ended where
  takes := ends.takes
  goes a done := by
    obtain ⟨le, stage⟩ := ends.goes a done
    exact ⟨Phase.le_trans before (Phase.le_trans le after), stage.mono after⟩
  early failure failed := by
    obtain ⟨early, stage⟩ := ends.early failure failed
    exact ⟨Phase.ne_acting_of_le before early, stage⟩

theorem EndsAt.bind {r : Phase} {first : Procedure β} {next : β → Procedure α}
    (ends : EndsAt loads start p q (first.run session))
    (after : ∀ b between, between.output.Unlimited → Stage loads start q between →
      EndsAt loads start q r ((next b).run between)) :
    EndsAt loads start p r ((first >>= next).run session) := by
  obtain ⟨takes, goes, early⟩ := ends
  rw [run_bind]
  rcases ran : first.run session with ⟨stop | b, between⟩ <;> rw [ran] at takes goes early
  · refine ⟨takes, nofun, fun failure failed => early failure ?_⟩
    exact congrArg Except.error (Except.error.inj failed)
  · obtain ⟨le, stage⟩ := goes b rfl
    obtain ⟨takes, goes, early⟩ := after b between takes stage
    refine ⟨takes, fun a done => ?_, fun failure failed => ?_⟩
    · exact ⟨Phase.le_trans le (goes a done).1, (goes a done).2⟩
    · exact ⟨Phase.ne_acting_of_le le (early failure failed).1, (early failure failed).2⟩

end Session

open Session (Unaltered Stage EndsAt)

namespace Procedure

section
variable {loads : Prop} {start session : Session} {p q : Phase}

theorem Spoken.endsAt {reports : Prop} {procedure : Procedure Unit}
    (spoken : Spoken reports procedure) (takes : session.output.Unlimited) :
    EndsAt loads start .acting .acting (procedure.run session) := by
  obtain ⟨ended, still⟩ := spoken.completes takes
  refine ⟨still, fun _ _ => ⟨by decide, trivial⟩, fun failure failed => ?_⟩
  rw [ended] at failed
  cases failed

theorem edit_unfailing {operation : Edit α} (unfailing : Unfailing operation) :
    Unfailing (edit operation) := by
  intro session failure
  have goes := unfailing session.editor failure
  rw [run_edit]
  rcases ran : operation.run session.editor with ⟨stop | a, editor⟩ <;> rw [ran] at goes
  · exact fun same => goes (congrArg Except.error (Except.error.inj same))
  · nofun

theorem readLine_unfailing : Unfailing readLine := by
  intro session failure
  rw [run_readLine]
  dsimp only
  split <;> nofun

theorem takeTyped_unfailing : Unfailing takeTyped := by
  intro session
  induction session using takeTyped_induction with
  | step session ih =>
    intro failure
    rw [run_takeTyped]
    apply unfailed_bind (readLine_unfailing session failure)
    intro line typed read
    split
    · nofun
    · apply unfailed_bind (edit_unfailing (Edit.change_unfailing _) typed failure)
      exact fun _ inserted put => ih line typed inserted read put failure

theorem Composed.endsAt {powers : Powers} {procedure : Procedure α}
    (composed : Composed powers p q procedure) (takes : session.output.Unlimited)
    (stage : Stage powers.loads start p session) :
    EndsAt powers.loads start p q (procedure.run session) := by
  induction composed generalizing session with
  | @pure p _ a => exact ⟨takes, fun _ _ => ⟨p.le_refl, stage⟩, nofun⟩
  | @fail p q _ early failure =>
    refine ⟨takes, nofun, fun _ _ => ⟨early, ?_⟩⟩
    cases p with
    | checking | reading => exact stage.mono (by decide)
    | acting => exact absurd rfl early
  | stop unfailed =>
    exact ⟨takes, nofun, fun failure failed => absurd (Except.error.inj failed) (unfailed failure)⟩
  | weaken before after _ ih => exact (ih takes (stage.mono before)).weaken before after
  | bind _ _ before after => exact (before takes stage).bind fun b _ => after b
  | look _ _ after => exact after session takes stage
  | @ask _ operation asks =>
    have same := asks.sameLines session.editor
    rw [run_edit]
    rcases ran : operation.run session.editor with ⟨_ | _, editor⟩ <;> rw [ran] at same
    all_goals exact .of_unaltered takes (stage.trans ⟨same, rfl, rfl, rfl, rfl⟩)
  | @alter p _ operation going alters =>
    have goes := edit_unfailing alters.unfailing session
    have same : ((edit operation).run session).2.output = session.output := by
      rw [run_edit]
      split <;> rfl
    refine ⟨same ▸ takes, fun _ _ => ⟨p.le_refl, ?_⟩, fun failure failed =>
      absurd failed (goes failure)⟩
    rcases going with rfl | ⟨rfl, loads⟩
    · trivial
    · exact ⟨same.trans stage.1, .inl loads⟩
  | @substitute substitution _ range _ underGlobal =>
    rw [run_edit]
    rcases ran : (substitution.apply range underGlobal).run session.editor with ⟨stop | a, editor⟩
    · refine ⟨takes, nofun, fun failure failed => ⟨by decide, ?_⟩⟩
      cases failed
      have altered : start.Unaltered { session with editor } :=
        stage.trans ⟨Substitution.sameLines_of_failed ran, rfl, rfl, rfl, rfl⟩
      exact ⟨altered.output, .inr altered⟩
    · exact ⟨takes, fun _ _ => ⟨by decide, trivial⟩, nofun⟩
  | @name p asked path =>
    refine ⟨takes, fun _ _ => ⟨p.le_refl, ?_⟩, nofun⟩
    have same : session.Unaltered { session with filename := some path } :=
      ⟨.refl session.buffer, rfl, rfl, rfl, rfl⟩
    cases p with
    | checking => exact stage.trans same
    | reading => exact ⟨stage.1, stage.2.imp_right fun unaltered => unaltered.trans same⟩
    | acting => trivial
  | store path content =>
    rw [run_storeFile]
    rcases session.files.write path content with ⟨_ | _, files⟩
    all_goals exact .of_unaltered takes (stage.trans ⟨.refl session.buffer, rfl, rfl, rfl, rfl⟩)
  | quit _ => exact ⟨takes, fun _ _ => ⟨by decide, trivial⟩, nofun⟩
  | takeTyped asked =>
    have still := (carried_writesOn.takeTyped trivial session).unlimited takes
    exact ⟨still, fun _ _ => ⟨by decide, trivial⟩, fun failure failed =>
      absurd failed (takeTyped_unfailing session failure)⟩
  | spoken spoken => exact spoken.endsAt takes

end

section
variable {session after : Session} {failure : Failure}

-- A command that fails has said nothing, and altered nothing unless it reads a file.
theorem stage_of_execute {command : Command} {underGlobal : Bool}
    (takes : session.output.Unlimited)
    (ran : (execute command underGlobal).run session = (.error (.failed failure), after)) :
    Stage (command.action.loads = true) session .reading after := by
  have ends := (execute_composed command underGlobal).endsAt takes (Unaltered.refl session)
  rw [ran] at ends
  exact (ends.early failure rfl).2

theorem markGlobal_endsAt (takes : session.output.Unlimited) (global : Global) :
    EndsAt True session .checking .acting ((markGlobal global).run session) :=
  (@markGlobal_composed .all trivial global).endsAt takes (Unaltered.refl session)

theorem output_of_visit {body : Command} {n : Nat} (takes : session.output.Unlimited)
    (ran : (visit body n).run session = (.error (.failed failure), after)) :
    after.output = session.output := by
  have goes := edit_unfailing (Edit.change_unfailing (·.setMark n false)) session failure
  have still : ((edit (Edit.change (·.setMark n false))).run session).2.output = session.output := by
    rw [run_edit]
    split <;> rfl
  rw [visit, run_bind] at ran
  rcases unmarked : (edit (Edit.change (·.setMark n false))).run session
    with ⟨stop | _, between⟩ <;> rw [unmarked] at ran goes still
  · exact absurd (congrArg Prod.fst ran) goes
  · dsimp only at ran still
    rw [run_bind, run_setCurrent] at ran
    have entered : Output.Unlimited (Session.output
        { between with editor.buffer := between.buffer.setCurrent n }) := still ▸ takes
    exact (stage_of_execute entered ran).1.trans still

end

end Procedure

/-! ### Command lines -/

def Failure.report (failure : Failure) (explain : Bool) : Text :=
  ['?', '\n'] ++ if explain then failure.message.toList ++ ['\n'] else []

namespace Procedure
variable {session between : Session} {line : Text} {failure : Failure}

theorem run_report (unlimited : session.output.Unlimited) (failure : Failure) :
    (report failure).run session =
      (.ok ⟨⟩, { session with
        output := session.output.append (Utf8.encode (failure.report session.options.explain))
        lastFailure := some failure }) := by
  let marked : Session :=
    { session with output := session.output.append (Utf8.encode ("?".toList ++ ['\n'])) }
  have takes : marked.output.Unlimited := unlimited
  rw [report, writeLine, run_write_bind unlimited, run_bind, run_get]
  dsimp only
  unfold Failure.report
  cases session.options.explain with
  | false => rfl
  | true =>
    rw [if_pos rfl, if_pos rfl, Utf8.encode_append, ← Output.append_append]
    exact run_write_bind takes _ _

theorem written_of_write {text : Text} {after : Session}
    (ran : (write text).run session = (.ok ⟨⟩, after)) :
    after = { session with output := after.output }
      ∧ after.output.written = (session.output.append (Utf8.encode text)).written := by
  rw [run_write] at ran
  rcases wrote : session.output.write (Utf8.encode text) with ⟨output, _ | refusal⟩ <;>
    rw [wrote] at ran <;> cases ran
  exact ⟨rfl, Output.write_taken wrote⟩

-- Whatever the output is, a report that comes to its end is written as a whole.
theorem written_of_report {after : Session}
    (ran : (report failure).run session = (.ok ⟨⟩, after)) :
    after.output.written
      = (session.output.append (Utf8.encode (failure.report session.options.explain))).written := by
  rw [report, run_bind] at ran
  rcases mark : (writeLine "?").run session with ⟨_ | _, marked⟩ <;> rw [mark] at ran
  · cases ran
  · obtain ⟨same, written⟩ := written_of_write mark
    have explain : marked.options.explain = session.options.explain := by rw [same]
    dsimp only at ran
    rw [run_bind, run_get] at ran
    dsimp only at ran
    rw [explain] at ran
    unfold Failure.report
    cases asked : session.options.explain with
    | false =>
      rw [asked] at ran
      cases ran
      exact written
    | true =>
      rw [asked, if_pos rfl, run_bind] at ran
      rcases said : (writeLine failure.message).run marked with ⟨_ | _, explained⟩ <;>
        rw [said] at ran <;> cases ran
      obtain ⟨_, more⟩ := written_of_write said
      rw [if_pos rfl, Utf8.encode_append, ← Output.append_append]
      rw [more, Output.append, Output.append, written]
      rfl

theorem run_executeLine_reported (takes : between.output.Unlimited)
    (ran : (executeStatement line).run session = (.error (.failed failure), between)) :
    (executeLine line).run session =
      (.ok ⟨⟩, { between with
        editor.buffer := between.buffer.setCurrent session.buffer.current
        output := between.output.append (Utf8.encode (failure.report between.options.explain))
        lastFailure := some failure }) := by
  rw [run_executeLine_failed ran, run_bind, run_report takes]
  rfl

-- Only the output can keep it from being reported, and then the session ends.
theorem executeLine_reports
    (ran : (executeStatement line).run session = (.error (.failed failure), between)) :
    let ended := (executeLine line).run session
    ended.2.buffer.lines = between.buffer.lines
      ∧ (between.output.Unlimited → ended.1 = .ok ⟨⟩)
      ∧ (ended.1 = .ok ⟨⟩ → ended.2.buffer.current = min session.buffer.current ended.2.buffer.last
        ∧ ended.2.output.written = (between.output.append
          (Utf8.encode (failure.report between.options.explain))).written) := by
  have same := (report_spoken trivial failure : Spoken True _).only_voice between
  dsimp only
  rw [run_executeLine_failed ran, run_bind]
  rcases reported : (report failure).run between with ⟨stop | ⟨⟩, after⟩ <;> rw [reported] at same
  · refine ⟨congrArg (·.buffer.lines) same, fun takes => ?_, nofun⟩
    rw [run_report takes] at reported
    cases reported
  · have kept : after.editor = between.editor := congrArg (·.editor) same
    refine ⟨congrArg (·.buffer.lines) kept, fun _ => rfl, fun _ => ⟨rfl, ?_⟩⟩
    have whole := written_of_report reported
    exact whole

end Procedure

/-- The line fails in this session, be it that it says nothing or for the command that it says, and
that is not one that reads a file into the buffer. -/
inductive Session.FailsOn (session : Session) (line : Text) (failure : Failure) : Prop where
  | malformed (said : Statement.parse line.body = .error failure)
  | command {command : Command} (said : Statement.parse line.body = .ok (.single command))
      (keeps : command.action.loads = false)
      (failed : ((Procedure.execute command false).run session).1 = .error (.failed failure))

theorem Session.FailsOn.run_executeStatement {session : Session} {line : Text} {failure : Failure}
    (fails : session.FailsOn line failure) (unlimited : session.output.Unlimited) :
    ∃ between, (Procedure.executeStatement line).run session = (.error (.failed failure), between)
      ∧ session.Unaltered between := by
  cases fails with
  | malformed said =>
    refine ⟨session, ?_, .refl session⟩
    rw [Procedure.executeStatement, said]
    rfl
  | @command command said keeps failed =>
    rw [Procedure.executeStatement_single said]
    rcases ended : (Procedure.execute command false).run session with ⟨outcome, between⟩
    rw [ended] at failed
    dsimp only at failed
    subst failed
    refine ⟨between, rfl, (Procedure.stage_of_execute unlimited ended).2.resolve_left ?_⟩
    rw [keeps]
    exact Bool.false_ne_true

/-- A line that does not parse, or a single command other than one that reads a file into the
buffer, leaves the session going where it fails: the buffer is as it was, marks and current line
included, no input is taken, and all that is written is the report. -/
theorem failed_line_changes_nothing {session : Session} (reached : Reachable session)
    (unlimited : session.output.Unlimited) {line : Text} {failure : Failure}
    (fails : session.FailsOn line failure) :
    let ended := (Procedure.executeLine line).run session
    ended.1 = .ok ⟨⟩ ∧ ended.2.buffer = session.buffer ∧ ended.2.input = session.input
      ∧ ended.2.running = session.running ∧ ended.2.options = session.options
      ∧ ended.2.output
        = session.output.append (Utf8.encode (failure.report session.options.explain)) := by
  obtain ⟨between, ran, same⟩ := fails.run_executeStatement unlimited
  have takes : between.output.Unlimited := by rwa [same.output]
  have back : between.buffer.setCurrent session.buffer.current = session.buffer :=
    same.lines.setCurrent_back reached.sound.current_le
  dsimp only
  rw [Procedure.run_executeLine_reported takes ran]
  refine ⟨rfl, back, same.input, same.running, same.options, ?_⟩
  rw [same.output, same.options]

/-- `1;/z/p`. -/
def moveAndSearch : Text := ['1', ';', '/', 'z', '/', 'p', '\n']

set_option maxRecDepth 100000 in
/-- With lines a and b and explanations asked for, line 1 is current when the search fails. -/
theorem failed_search_changes_nothing :
    ∃ session, Reachable session ∧ session.output.Unlimited ∧ session.buffer.current = 2
      ∧ session.FailsOn moveAndSearch .noMatch
      ∧ ((Procedure.executeLine moveAndSearch).run session).2.buffer = session.buffer
      ∧ ((Procedure.executeLine moveAndSearch).run session).2.output
        = session.output.append (Utf8.encode "?\nNo match\n".toList) := by
  have reached : Reachable ((Session.typed [97, 10, 98, 10, 46, 10]).after (.line ['H', '\n'])) :=
    .step (typed_reachable _) _
  generalize explaining :
    (Session.typed [97, 10, 98, 10, 46, 10]).after (.line ['H', '\n']) = session at reached
  have unlimited : session.output.Unlimited := by
    rw [← explaining]
    exact Session.unlimited_after (typed_unlimited _) _
  have current : session.buffer.current = 2 := by
    rw [← explaining]
    cbv
  have explain : session.options.explain = true := by
    rw [← explaining]
    cbv
  have said : Statement.parse moveAndSearch.body = .ok (.single {
      addresses := [({ term := .line 1 }, .semicolon), ({ term := .search ['z'] '/' }, .nothing)]
      action := .print }) := by cbv
  have failed : ((Procedure.execute {
      addresses := [({ term := .line 1 }, .semicolon), ({ term := .search ['z'] '/' }, .nothing)]
      action := .print } false).run session).1 = .error (.failed .noMatch) := by
    rw [← explaining]
    cbv
  have fails : session.FailsOn moveAndSearch .noMatch := .command said rfl failed
  obtain ⟨_, same, _, _, _, written⟩ := failed_line_changes_nothing reached unlimited fails
  rw [explain] at written
  exact ⟨session, reached, unlimited, current, fails, same, written⟩

end LineEditor
