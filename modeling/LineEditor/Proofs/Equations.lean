import LineEditor.Regex
import LineEditor.Session.Execute

/-!
The sessions that there can be, and what lookups, edits, commands and writing come to in them where
their steps go well: the session that is left, said as a change of the one that was there. And what
is written stays written.
-/

namespace LineEditor

inductive Step where
  | openFile (path : Text)
  | line (text : Text)
  | run
  deriving DecidableEq, Repr

def Step.procedure : Step → Procedure Unit
  | openFile path => Procedure.openAtStart path
  | line text => Procedure.executeLine text
  | run => Procedure.runAll

/-- The session that a step leaves, be it that the step was stopped. -/
def Session.after (session : Session) (step : Step) : Session := (step.procedure.run session).2

def Session.afterAll (session : Session) (steps : List Step) : Session :=
  steps.foldl Session.after session

def Session.results (session : Session) : List Step → List (Except Stop Unit)
  | [] => []
  | step :: steps => (step.procedure.run session).1 :: (session.after step).results steps

inductive Reachable : Session → Prop where
  | start (engine : Engine) (options : Options) (input : Bytes) (output : Output) (files : Files) :
      Reachable (.start engine options input output files)
  | step {session : Session} (reached : Reachable session) (step : Step) :
      Reachable (session.after step)
  /-- Other input, output and files. -/
  | around {session : Session} (reached : Reachable session) (input : Bytes) (output : Output)
      (files : Files) : Reachable { session with input, output, files }

/-- A new session in which this was typed for `a`. -/
def Session.typed (text : Bytes) : Session :=
  (Session.start Regex.engine {} text {} { entries := [], working := [] }).after (.line ['a', '\n'])

theorem typed_reachable (text : Bytes) : Reachable (.typed text) := .step (.start _ _ _ _ _) _

/-! ### What every step carries on -/

variable {allowed : Substitution → Prop}

def Step.Allows (allowed : Substitution → Prop) : Step → Prop
  | line text => text.Allows allowed
  | openFile _ | run => True

def AllowsTyped (allowed : Substitution → Prop) : Prop :=
  ∀ line : Text, line.IsLine → line.Allows allowed

namespace Procedure.Carried
variable {R : Session → Session → Prop}

theorem step (carried : Carried (.allowing allowed) R) (typed : AllowsTyped allowed) {step : Step}
    (allows : step.Allows allowed) : Keeps R step.procedure := by
  cases step with
  | openFile path => exact carried.openAtStart path
  | line text => exact carried.executeLine trivial allows.within
  | run => exact carried.runAll typed

theorem anyStep (carried : Carried .all R) (step : Step) : Keeps R step.procedure := by
  apply carried.step fun _ _ _ _ _ _ => trivial
  cases step with
  | openFile | run => trivial
  | line => exact fun _ _ _ _ => trivial

end Procedure.Carried

/-! ### Edits -/

theorem Buffer.texts?_one {b : Buffer} {n : Nat} {text : Text} (there : b.text? n = some text) :
    b.texts? n n = some [text] := by
  obtain ⟨line, found, rfl⟩ := Option.map_eq_some_iff.1 there
  obtain ⟨inside, same⟩ := Array.getElem?_eq_some_iff.1 found
  have single : b.slots.extract n (n + 1) = #[line] := by
    rw [Array.extract_succ_right (Nat.lt_succ_self n) inside,
      Array.extract_empty_of_stop_le_start (Nat.le_refl n), same]
    rfl
  rw [texts?, if_pos ⟨Nat.le_succ n, inside⟩, single]
  rfl

namespace Edit

theorem run_change {editor : Editor} {operation : Buffer → Except OutOfBounds Buffer}
    {after : Buffer} (ran : operation editor.buffer = .ok after) :
    (change operation).run editor = (.ok ⟨⟩, { editor with buffer := after }) := by
  simp only [change, run_bind, run_get, ran]
  rfl

theorem run_minus {n m : Nat} (le : m ≤ n) (editor : Editor) :
    (minus n m).run editor = (.ok (n - m), editor) := by
  rw [minus, if_pos le]
  rfl

theorem run_setCurrent (n : Nat) (editor : Editor) :
    (setCurrent n).run editor
      = (.ok ⟨⟩, { editor with buffer := editor.buffer.setCurrent n }) := rfl

theorem run_usePattern {editor : Editor} {pattern : Text} {ignoreCase : Bool} {regex : Regex}
    {active : ActivePattern} (used : editor.active.use pattern ignoreCase = .ok (regex, active)) :
    (usePattern pattern ignoreCase).run editor = (.ok regex, { editor with active }) := by
  simp only [usePattern, run_bind, run_get, used]
  rfl

end Edit

/-! ### Addresses -/

-- From the line that its term leads to, an address gives the sum, if that is a line or 0.
theorem Address.run_resolve {address : Address} {editor between : Editor} {base : Nat}
    (found : address.term.resolve.run editor = (.ok base, between)) :
    let line : Int := base + address.offset
    address.resolve.run editor =
      (if 0 ≤ line ∧ line ≤ between.buffer.last then .ok line.toNat
      else .error (.failed .invalidAddress), between) := by
  intro line
  have sum : checkedSum base address.offset = if 0 ≤ line then some line.toNat else none := rfl
  rw [Address.resolve, run_bind, found]
  dsimp only
  rw [sum]
  by_cases nonneg : 0 ≤ line
  · rw [if_pos nonneg]
    dsimp only
    rw [Edit.run_buffer_bind]
    simp only [Int.toNat_le, nonneg, true_and]
    split <;> rfl
  · rw [if_neg nonneg, if_neg fun inside => nonneg inside.1]
    rfl

theorem Address.run_resolve_inside {address : Address} {editor between : Editor} {base n : Nat}
    (found : address.term.resolve.run editor = (.ok base, between))
    (same : (n : Int) = base + address.offset) (inside : n ≤ between.buffer.last) :
    address.resolve.run editor = (.ok n, between) := by
  have sum := Address.run_resolve found
  rw [← same] at sum
  rw [sum, if_pos ⟨Int.natCast_nonneg n, Int.ofNat_le.2 inside⟩, Int.toNat_natCast]

theorem Address.run_resolve_line {editor : Editor} {n : Nat} (inside : n ≤ editor.buffer.last) :
    (Address.resolve { term := .line n }).run editor = (.ok n, editor) :=
  Address.run_resolve_inside rfl (Int.add_zero n).symm inside

theorem Address.run_resolve_last (editor : Editor) :
    (Address.resolve { term := .last }).run editor = (.ok editor.buffer.last, editor) :=
  Address.run_resolve_inside rfl (Int.add_zero _).symm (Nat.le_refl _)

namespace AddressList

theorem run_resolve_none (editor : Editor) :
    (resolve []).run editor = (.ok ⟨editor.buffer.current, editor.buffer.current, 0⟩, editor) :=
  rfl

theorem run_resolve_lines {editor : Editor} {first final : Nat}
    (first_le : first ≤ editor.buffer.last) (final_le : final ≤ editor.buffer.last) :
    (resolve [({ term := .line first }, .comma), ({ term := .line final }, .nothing)]).run editor
      = (.ok ⟨first, final, 2⟩, editor) := by
  simp only [resolve, resolveFrom, run_bind, Address.run_resolve_line first_le, reduceCtorEq,
    if_false, Address.run_resolve_line final_le]
  rfl

end AddressList

namespace Procedure

variable {session : Session}

theorem run_change {operation : Buffer → Except OutOfBounds Buffer} {after : Buffer}
    (ran : operation session.buffer = .ok after) :
    (edit (Edit.change operation)).run session
      = (.ok ⟨⟩, { session with editor.buffer := after }) := by
  rw [run_edit, Edit.run_change (show operation session.editor.buffer = .ok after from ran)]

theorem run_setCurrent (n : Nat) (session : Session) :
    (setCurrent n).run session
      = (.ok ⟨⟩, { session with editor.buffer := session.buffer.setCurrent n }) := rfl

theorem run_settle {range settled : Range} {first final : Nat}
    (ran : range.settle first final = .ok settled) :
    (settle range first final).run session = (.ok settled, session) := by
  rw [settle, ran]
  rfl

theorem run_settle_failed {range : Range} {first final : Nat} {failure : Failure}
    (ran : range.settle first final = .error failure) :
    (settle range first final).run session = (.error (.failed failure), session) := by
  rw [settle, ran]
  rfl

theorem run_requireNoAddress_bind {α : Type} (range : Range) (next : Unit → Procedure α)
    (session : Session) :
    (requireNoAddress range >>= next).run session =
      if range.given = 0 then (next ⟨⟩).run session
      else (.error (.failed .invalidAddress), session) := by
  unfold requireNoAddress
  split <;> rfl

theorem run_insertLine {line : Text} {after : Buffer}
    (ran : session.buffer.insert line = .ok after) :
    (insertLine line).run session = (.ok ⟨⟩, { session with editor.buffer := after }) :=
  run_change ran

/-! ### Writing -/

theorem run_write (text : Text) (session : Session) :
    (write text).run session =
      match session.output.write (Utf8.encode text) with
      | (output, none) => (.ok ⟨⟩, { session with output })
      | (output, some refusal) =>
        (.error (.failed (.output refusal)), { session with output }) :=
  run_request _ session

theorem run_write_unlimited (unlimited : session.output.Unlimited) (text : Text) :
    (write text).run session =
      (.ok ⟨⟩, { session with output := session.output.append (Utf8.encode text) }) := by
  rw [run_write, Output.write_unlimited unlimited]

theorem run_write_bind {α : Type} (unlimited : session.output.Unlimited) (text : Text)
    (next : PUnit → Procedure α) :
    (write text >>= next).run session =
      (next ⟨⟩).run { session with output := session.output.append (Utf8.encode text) } := by
  rw [run_bind, run_write_unlimited unlimited]

theorem run_report_full {refusal : Refusal} (full : session.output.Full refusal)
    (failure : Failure) :
    (report failure).run session = (.error (.failed (.output refusal)), session) := by
  have some : Utf8.encode ("?".toList ++ ['\n']) ≠ [] := by decide
  rw [report, run_bind, writeLine, run_write, full _ some]

/-- The output of the one session grows to that of the other. -/
def WritesOn (before after : Session) : Prop := before.output.Grows after.output

theorem carried_writesOn : Carried .all WritesOn where
  refl session := .refl session.output
  trans := Output.Grows.trans
  noted := by
    intro session after noted
    cases noted with
    | output grows => exact grows
    | _ => exact .refl session.output
  edited := by
    intro α operation _ session
    rw [run_edit]
    split <;> exact .refl session.output

theorem run_print_one {n : Nat} {text : Text} (positive : 0 < n)
    (there : session.buffer.text? n = some text) :
    (print n n false).run session = (do write text; setCurrent n : Procedure Unit).run session := by
  rw [print, if_neg (Nat.ne_of_gt positive)]
  change (buffer >>= _).run session = _
  rw [run_buffer_bind, Buffer.texts?_one there]
  dsimp only
  rw [run_bind, writeLines, if_neg Bool.false_ne_true, run_bind, run_bind]
  rcases (write text).run session with ⟨_ | _, after⟩ <;> rfl

-- Where nothing more is asked for, the command is its action.
theorem run_execute {command : Command} (plain : command.print = false) {range : Range}
    {editor : Editor}
    (looked : command.addresses.resolve.run session.editor = (.ok range, editor))
    (underGlobal : Bool) :
    (execute command underGlobal).run session
      = (perform command.action range underGlobal).run { session with editor } := by
  rw [execute, run_bind, run_edit, looked]
  dsimp only
  rw [run_bind]
  rcases (perform command.action range underGlobal).run { session with editor }
    with ⟨stop | _, after⟩
  · rfl
  · simp [plain]
    rfl

-- A command that worked writes the line that is current then, if it is asked to.
theorem run_execute_performed {command : Command} {range : Range} {editor : Editor}
    {after : Session} {underGlobal : Bool}
    (looked : command.addresses.resolve.run session.editor = (.ok range, editor))
    (performed : (perform command.action range underGlobal).run { session with editor }
      = (.ok ⟨⟩, after)) :
    (execute command underGlobal).run session
      = (if command.print ∧ 0 < after.buffer.current then
          print after.buffer.current after.buffer.current false
        else pure ⟨⟩ : Procedure Unit).run after := by
  rw [execute, run_bind, run_edit, looked]
  dsimp only
  rw [run_bind, performed]
  rfl

theorem run_execute_stopped {command : Command} {range : Range} {editor : Editor} {stop : Stop}
    {after : Session} {underGlobal : Bool}
    (looked : command.addresses.resolve.run session.editor = (.ok range, editor))
    (performed : (perform command.action range underGlobal).run { session with editor }
      = (.error stop, after)) :
    (execute command underGlobal).run session = (.error stop, after) := by
  rw [execute, run_bind, run_edit, looked]
  dsimp only
  rw [run_bind, performed]

/-! ### Commands that change the text -/

theorem run_perform_delete (session : Session) {range settled : Range} {after : Buffer}
    (ran : range.settle session.buffer.current session.buffer.current = .ok settled)
    (deleted : session.buffer.delete settled.first settled.final = .ok after)
    (underGlobal : Bool) :
    ∃ n, (perform .delete range underGlobal).run session
      = (.ok ⟨⟩, { session with editor.buffer := { after with current := n } }) := by
  rw [perform, run_buffer_bind]
  dsimp only
  rw [run_bind, run_settle ran]
  dsimp only
  rw [run_bind, run_change deleted]
  dsimp only
  rw [run_buffer_bind]
  split
  · exact ⟨_, rfl⟩
  · exact ⟨_, rfl⟩

-- The target is looked up before the range is checked.
section Move
variable {destination : Address} {range : Range} {target : Nat} {looked : Editor}

theorem run_perform_move_settled (session : Session) {settled : Range}
    (targeted : destination.resolve.run session.editor = (.ok target, looked))
    (ran : range.settle session.buffer.current session.buffer.current = .ok settled)
    (underGlobal : Bool) :
    (perform (.move destination) range underGlobal).run session
      = (move settled target).run { session with editor := looked } := by
  rw [perform, run_buffer_bind]
  dsimp only
  rw [run_bind, run_edit, targeted]
  dsimp only
  rw [run_bind, run_settle ran]

theorem run_perform_move_invalid (session : Session) {failure : Failure}
    (targeted : destination.resolve.run session.editor = (.ok target, looked))
    (ran : range.settle session.buffer.current session.buffer.current = .error failure)
    (underGlobal : Bool) :
    (perform (.move destination) range underGlobal).run session
      = (.error (.failed failure), { session with editor := looked }) := by
  rw [perform, run_buffer_bind]
  dsimp only
  rw [run_bind, run_edit, targeted]
  dsimp only
  rw [run_bind, run_settle_failed ran]

theorem run_perform_move (session : Session) {settled : Range} {after : Buffer}
    (looked : destination.resolve.run session.editor = (.ok target, session.editor))
    (ran : range.settle session.buffer.current session.buffer.current = .ok settled)
    (ordered : settled.first ≤ settled.final)
    (apart : ¬(settled.first ≤ target ∧ target < settled.final))
    (moved : session.buffer.moveBlock settled.first settled.final target = .ok after)
    (underGlobal : Bool) :
    ∃ n, (perform (.move destination) range underGlobal).run session
      = (.ok ⟨⟩, { session with editor.buffer := { after with current := n } }) := by
  rw [run_perform_move_settled session looked ran, move, if_neg apart, run_bind, run_change moved]
  dsimp only
  split
  · exact ⟨_, rfl⟩
  · rw [run_bind, run_edit, Edit.run_minus ordered]
    exact ⟨_, rfl⟩

end Move

theorem run_perform_substitute {substitution : Substitution} {range settled : Range}
    {count : Nat} {editor : Editor} {underGlobal : Bool}
    (ran : range.settle session.buffer.current session.buffer.current = .ok settled)
    (applied : (substitution.apply settled underGlobal).run session.editor = (.ok count, editor)) :
    (perform (.substitute substitution) range underGlobal).run session
      = (.ok ⟨⟩, { session with editor }) := by
  rw [perform, run_buffer_bind]
  dsimp only
  rw [run_bind, run_settle ran]
  dsimp only
  rw [run_bind, run_edit, applied]
  rfl

end Procedure

theorem Session.unlimited_after {session : Session} (unlimited : session.output.Unlimited)
    (step : Step) : (session.after step).output.Unlimited :=
  (Procedure.carried_writesOn.anyStep step session).unlimited unlimited

theorem typed_unlimited (text : Bytes) : (Session.typed text).output.Unlimited := by
  apply Session.unlimited_after
  exact rfl

end LineEditor
