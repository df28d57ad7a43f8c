import LineEditor.Proofs.Failure.Atomic
import LineEditor.Proofs.FileCommands
import LineEditor.Proofs.Global.Visits

/-!
A failure is reported once, wherever it comes from: the line says nothing, its command fails, the
lines of a global command cannot be marked, or one of its iterations fails after others that have
changed lines and written something. It is remembered until the next one.
-/

namespace LineEditor

/-! ### Iterations -/

/-- Iterations of a global command with this body at these positions, which all ran to their end,
have led from the one session to the other. -/
inductive Iterated (body : Command) : Session → List Nat → Session → Prop where
  | nil (session : Session) : Iterated body session [] session
  | cons {session between after : Session} {position : Nat} {positions : List Nat}
      (ran : (Procedure.visit body position).run session = (.ok ⟨⟩, between))
      (rest : Iterated body between positions after) :
      Iterated body session (position :: positions) after

theorem Replays.iterated {body : Command} {position idle : Nat} {session after : Session}
    {visits : List Visit} {stop : Stop}
    (replays : Replays body position idle session visits (.error stop, after)) :
    ∃ positions reached n, visits.map (·.position) = positions ++ [n]
      ∧ Iterated body session positions reached
      ∧ (Procedure.visit body n).run reached = (.error stop, after) := by
  generalize same : (Except.error stop, after) = ended at replays
  induction replays with
  | finish => cases same
  | skip _ _ _ ih => exact ih same
  | @stop position _ session _ _ _ _ _ _ _ ran =>
    cases same
    exact ⟨[], session, position, rfl, .nil session, ran⟩
  | @visit position _ _ _ _ _ _ _ _ _ _ ran _ ih =>
    obtain ⟨positions, reached, n, visited, iterated, stopped⟩ := ih same
    refine ⟨position :: positions, reached, n, ?_, .cons ran iterated, stopped⟩
    rw [List.map_cons, visited, List.cons_append]

theorem Iterated.unlimited {body : Command} {session reached : Session} {positions : List Nat}
    (iterated : Iterated body session positions reached) (unlimited : session.output.Unlimited) :
    reached.output.Unlimited := by
  induction iterated with
  | nil => exact unlimited
  | cons ran _ ih =>
    have within := body.action.within_all true
    exact ih (((Procedure.carried_writesOn.visit trivial within _).of_run ran).unlimited unlimited)

/-- The line is stopped in this session: its iterations before ran to their end and have led there.
Only a global command has iterations, and only if its lines can be marked. -/
inductive Session.StopsAt (session : Session) (line : Text) (stop : Stop) : Session → Prop where
  | alone (single : ∀ global, Statement.parse line.body ≠ .ok (.global global)) :
      StopsAt session line stop session
  | unmarked {global : Global} {start : Session}
      (said : Statement.parse line.body = .ok (.global global))
      (stopped : (Procedure.markGlobal global).run session = (.error stop, start)) :
      StopsAt session line stop session
  | iterated {global : Global} {first n : Nat} {start reached after : Session}
      {visits : List Visit} {positions : List Nat}
      (said : Statement.parse line.body = .ok (.global global))
      (marked : (Procedure.markGlobal global).run session = (.ok first, start))
      (replays : Replays global.body first 0 start visits (.error stop, after))
      (visited : visits.map (·.position) = positions ++ [n])
      (iterated : Iterated global.body start positions reached) : StopsAt session line stop reached

namespace Procedure
variable {session : Session}

-- What fails writes nothing, so the output is that of the last iteration before.
theorem executeStatement_stopsAt (unlimited : session.output.Unlimited) {line : Text}
    {failure : Failure} {after : Session}
    (ran : (executeStatement line).run session = (.error (.failed failure), after)) :
    ∃ reached, session.StopsAt line (.failed failure) reached ∧ after.output = reached.output := by
  rw [executeStatement] at ran
  cases said : Statement.parse line.body with
  | error malformed =>
    rw [said] at ran
    cases ran
    refine ⟨session, .alone fun global same => ?_, rfl⟩
    rw [said] at same
    cases same
  | ok statement =>
    rw [said] at ran
    cases statement with
    | single command =>
      refine ⟨session, .alone fun global same => ?_, (stage_of_execute unlimited ran).1⟩
      rw [said] at same
      cases same
    | global global =>
      change (executeGlobal global).run session = _ at ran
      have ends := markGlobal_endsAt unlimited global
      rw [run_executeGlobal] at ran
      rcases marked : (markGlobal global).run session with ⟨stop | first, start⟩ <;>
        rw [marked] at ran ends
      · cases ran
        exact ⟨session, .unmarked said marked, (ends.early failure rfl).2.1⟩
      · obtain ⟨visits, replays⟩ := replayFrom_replays global.body first 0 start
        dsimp only at ran
        rw [ran] at replays
        obtain ⟨positions, reached, n, visited, iterated, stopped⟩ := replays.iterated
        exact ⟨reached, .iterated said marked replays visited iterated,
          output_of_visit (iterated.unlimited ends.takes) stopped⟩

end Procedure

/-! ### Afterwards -/

/-- Everything but to remember a failure. -/
def Powers.unreported : Powers := { Powers.all with reports := False }

theorem Action.within_unreported (action : Action) (underGlobal : Bool) :
    (action.powers underGlobal).Within .unreported where
  substitutes _ := trivial
  converses _ := trivial
  loads _ := trivial
  names _ := trivial
  marks := False.elim
  reports := False.elim

def Session.SameFailure (before after : Session) : Prop := after.lastFailure = before.lastFailure

theorem Procedure.carried_sameFailure : Carried .unreported Session.SameFailure where
  refl _ := rfl
  trans first second := second.trans first
  noted noted := by
    cases noted with
    | failure asked => exact asked.elim
    | _ => rfl
  edited := by
    intro α operation _ session
    rw [run_edit]
    split <;> rfl

theorem Procedure.executeStatement_sameFailure (line : Text) :
    Keeps Session.SameFailure (executeStatement line) := by
  apply carried_sameFailure.executeStatement
  intro statement _
  cases statement with
  | single command => exact command.action.within_unreported false
  | global global => exact ⟨trivial, global.body.action.within_unreported true⟩

/-- Lines that do not fail lead from the one session to the other. Input and files around it may
change between them, and so may the output as long as it takes everything. -/
inductive Session.GoesOn (start : Session) : Session → Prop where
  | refl : GoesOn start start
  | line {session : Session} (goes : GoesOn start session) (line : Text)
      (unfailing : ∀ failure,
        ((Procedure.executeStatement line).run session).1 ≠ .error (.failed failure)) :
      GoesOn start (session.after (.line line))
  | around {session : Session} (goes : GoesOn start session) (input : Bytes) {output : Output}
      (unlimited : output.Unlimited) (files : Files) :
      GoesOn start { session with input, output, files }

namespace Session.GoesOn
variable {start session : Session}

theorem unlimited (goes : start.GoesOn session) (unlimited : start.output.Unlimited) :
    session.output.Unlimited := by
  induction goes with
  | refl => exact unlimited
  | @line session goes line _ ih => exact unlimited_after ih (.line line)
  | around _ _ unlimited => exact unlimited

theorem lastFailure (goes : start.GoesOn session) : session.lastFailure = start.lastFailure := by
  induction goes with
  | refl => rfl
  | @line session goes line unfailing ih =>
    have same := Procedure.executeStatement_sameFailure line session
    rw [Session.after, Step.procedure, Procedure.run_executeLine_unfailed rfl unfailing]
    exact Eq.trans same ih
  | around _ _ _ _ ih => exact ih

end Session.GoesOn

-- The line `h` writes what went wrong last.
theorem Procedure.run_executeLine_explain {session : Session}
    (unlimited : session.output.Unlimited) {failure : Failure}
    (last : session.lastFailure = some failure) {line : Text}
    (said : line.Says { action := .explain }) :
    (executeLine line).run session
      = (.ok ⟨⟩, { session with
        output := session.output.append (Utf8.encode (failure.message.toList ++ ['\n'])) }) := by
  have wrote : explainLast.run session = (writeLine failure.message).run session := by
    rw [explainLast, run_bind, run_get]
    dsimp only
    rw [last]
  apply run_executeLine_unfailed
  · rw [executeStatement_single said, run_execute rfl (AddressList.run_resolve_none session.editor)]
    exact wrote.trans (run_write_unlimited unlimited _)
  · rintro _ ⟨⟩

/-- Where a line fails, on an output that takes everything, it does not end the session. To what its
iterations have written that ran to their end comes one report: the question mark, and what went
wrong if explanations are asked for by then. The line number that was current before is so again,
if there are as many lines. The line `h` writes what went wrong, then and after any lines that do
not fail. A line that does not fail is not reported, and what is remembered stays so. -/
theorem failure_is_reported_once {session : Session} (unlimited : session.output.Unlimited)
    (line : Text) :
    let ran := (Procedure.executeStatement line).run session
    let ended := (Procedure.executeLine line).run session
    (∀ failure, ran.1 = .error (.failed failure) →
      ended.1 = .ok ⟨⟩
        ∧ (∃ reached, session.StopsAt line (.failed failure) reached
          ∧ ended.2.output
            = reached.output.append (Utf8.encode (failure.report ran.2.options.explain)))
        ∧ ended.2.buffer.current = min session.buffer.current ended.2.buffer.last
        ∧ ∀ later explaining, ended.2.GoesOn later →
          Text.Says explaining { action := .explain } →
          (Procedure.executeLine explaining).run later
            = (.ok ⟨⟩, { later with
              output := later.output.append (Utf8.encode (failure.message.toList ++ ['\n'])) }))
      ∧ ((∀ failure, ran.1 ≠ .error (.failed failure)) →
        ended = ran ∧ ended.2.lastFailure = session.lastFailure) := by
  intro ran ended
  constructor
  · intro failure failed
    have fallen : (Procedure.executeStatement line).run session = (.error (.failed failure), ran.2) :=
      Prod.ext failed rfl
    obtain ⟨reached, stops, same⟩ := Procedure.executeStatement_stopsAt unlimited fallen
    have takes : ran.2.output.Unlimited :=
      (Procedure.carried_writesOn.executeStatement line.within_all session).unlimited unlimited
    have reported := Procedure.run_executeLine_reported takes fallen
    change ended = _ at reported
    rw [reported]
    refine ⟨rfl, ⟨reached, stops, ?_⟩, rfl, ?_⟩
    · rw [← same]
    · intro later explaining goes said
      exact Procedure.run_executeLine_explain (goes.unlimited takes) goes.lastFailure said
  · intro unfailing
    have same : ended = ran := Procedure.run_executeLine_unfailed rfl unfailing
    rw [same]
    exact ⟨rfl, Procedure.executeStatement_sameFailure line session⟩

def twoLines : Session := .typed [97, 10, 98, 10, 46, 10]

/-- `g/^/.+1p` -/
def printNext : Text := ['g', '/', '^', '/', '.', '+', '1', 'p', '\n']

set_option maxRecDepth 100000 in
/-- The iteration for line a writes b, and the one for b finds no line. The report comes after that,
and `h` still says so after `1p`. -/
theorem second_iteration_is_reported :
    let ended := (Procedure.executeLine printNext).run twoLines
    let later := ended.2.after (.line ['1', 'p', '\n'])
    ended.1 = .ok ⟨⟩
      ∧ (∃ reached, twoLines.StopsAt printNext (.failed .invalidAddress) reached
        ∧ ended.2.output = reached.output.append [63, 10])
      ∧ ended.2.output.written = #[98, 10, 63, 10]
      ∧ ended.2.buffer.current = min twoLines.buffer.current ended.2.buffer.last
      ∧ ((Procedure.executeLine ['h', '\n']).run later).2.output
        = later.output.append (Utf8.encode "Invalid address\n".toList) := by
  have unlimited : twoLines.output.Unlimited := typed_unlimited _
  have failed : ((Procedure.executeStatement printNext).run twoLines).1
      = .error (.failed .invalidAddress) := by cbv
  have explain : ((Procedure.executeStatement printNext).run twoLines).2.options.explain
      = false := by cbv
  have written : ((Procedure.executeLine printNext).run twoLines).2.output.written
      = #[98, 10, 63, 10] := by cbv
  have unfailing : ((Procedure.executeStatement ['1', 'p', '\n']).run
      ((Procedure.executeLine printNext).run twoLines).2).1 = .ok ⟨⟩ := by cbv
  have help : Text.Says ['h', '\n'] { action := .explain } := by
    unfold Text.Says
    cbv
  intro ended later
  obtain ⟨completes, reached, current, remembered⟩ :=
    (failure_is_reported_once unlimited printNext).1 _ failed
  have goes : ended.2.GoesOn later := by
    refine .line .refl _ fun failure same => ?_
    rw [unfailing] at same
    cases same
  rw [explain] at reached
  have explained := remembered later ['h', '\n'] goes help
  refine ⟨completes, reached, written, current, ?_⟩
  rw [explained]
  rfl

end LineEditor
