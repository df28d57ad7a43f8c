import Mathlib
import LineEditor.Proofs.Bounds.Edit
import LineEditor.Proofs.Equations

/-!
Commands on a session with a sound buffer ask for lines of that buffer, whatever they do to it on
their way and wherever they stop. So do global commands, command lines and whole runs, and so no
session that can be reached asks for a line outside its buffer, whatever it is asked to do next.
-/

namespace LineEditor

namespace Procedure

abbrev Safe {α : Type} (session : Session) (procedure : Procedure α) (post : α → Session → Prop) :
    Prop :=
  SafeFrom Session.buffer session procedure post

variable {α : Type} {session : Session} {post : α → Session → Prop}

theorem buffer_bind {next : Buffer → Procedure α}
    (after : Safe session (next session.buffer) post) : Safe session (buffer >>= next) post := after

theorem fail_safe (sound : session.buffer.Sound) (failure : Failure) :
    Safe session (fail failure) post := .throw sound nofun

theorem fail_bind_safe {β : Type} (sound : session.buffer.Sound) (failure : Failure)
    {next : β → Procedure α} : Safe session (fail failure >>= next) post := ⟨sound, nofun⟩

theorem edit_safe {operation : Edit α} {post : α → Editor → Prop}
    (safe : Edit.Safe session.editor operation post) :
    Safe session (edit operation) fun a after => post a after.editor := by
  unfold Edit.Safe SafeFrom at safe
  unfold Safe SafeFrom
  rw [run_edit]
  generalize operation.run session.editor = ended at safe ⊢
  rcases ended with ⟨_ | a, left⟩ <;> exact safe

theorem setCurrent_safe (sound : session.buffer.Sound) (n : Nat) :
    Safe session (setCurrent n) fun _ after => after.buffer = session.buffer.setCurrent n :=
  edit_safe (Edit.setCurrent_safe sound n)

theorem request_safe (sound : session.buffer.Sound) (call : Output → Output × Option Refusal) :
    Safe session (request call) fun _ after => after.buffer = session.buffer := by
  rw [Safe, SafeFrom, run_request]
  rcases call session.output with ⟨output, _ | refusal⟩
  · exact ⟨sound, rfl⟩
  · exact ⟨sound, nofun⟩

theorem Spoken.safe {procedure : Procedure Unit} (spoken : Spoken True procedure)
    (sound : session.buffer.Sound) :
    Safe session procedure fun _ after => after.buffer = session.buffer := by
  induction spoken generalizing session with
  | silence => exact .pure sound rfl
  | write text => exact request_safe sound _
  | flush => exact request_safe sound _
  | toggle | remember => exact ⟨sound, rfl⟩
  | bind _ _ before after =>
    apply SafeFrom.bind (before sound)
    intro _ between sound same
    exact same ▸ after sound
  | consult _ _ after => exact .get_bind (after session sound)

theorem forbidUnderGlobal_safe (sound : session.buffer.Sound) (name : Char) (underGlobal : Bool) :
    Safe session (forbidUnderGlobal name underGlobal) fun _ after =>
      after.buffer = session.buffer := by
  cases underGlobal with
  | true => exact fail_safe sound _
  | false => exact .pure sound rfl

theorem requireNoAddress_safe (sound : session.buffer.Sound) (range : Range) :
    Safe session (requireNoAddress range) fun _ after => after = session := by
  unfold requireNoAddress
  split
  · exact .pure sound rfl
  · exact fail_safe sound _

theorem resolveFilename_safe (sound : session.buffer.Sound) (name : Option Text) :
    Safe session (resolveFilename name) fun _ after => after.buffer = session.buffer := by
  cases name with
  | none =>
    refine .get_bind ?_
    split
    · exact .pure sound rfl
    · exact fail_safe sound _
  | some name =>
    refine .get_bind ?_
    split
    · exact .modify_bind (.pure sound rfl)
    · exact .pure sound rfl

theorem openFile_safe (sound : session.buffer.Sound) (path : Text) :
    Safe session (openFile path) fun _ after => after.buffer = session.buffer := by
  refine .get_bind ?_
  split
  · exact .pure sound rfl
  · exact fail_safe sound _

theorem storeFile_safe (sound : session.buffer.Sound) (path : Text) (content : Bytes) :
    Safe session (storeFile path content) fun _ after => after.buffer = session.buffer := by
  rw [Safe, SafeFrom, run_storeFile]
  rcases session.files.write path content with ⟨_ | _, files⟩
  · exact ⟨sound, nofun⟩
  · exact ⟨sound, rfl⟩

theorem settle_safe (sound : session.buffer.Sound) {range : Range} {first final : Nat}
    (within : range.EndsWithin session.buffer.last) (final_le : final ≤ session.buffer.last) :
    Safe session (settle range first final) fun settled after =>
      settled.Within session.buffer.last ∧ after = session := by
  unfold settle
  cases ran : range.settle first final with
  | ok settled => exact .pure sound ⟨Range.settle_within within final_le ran, rfl⟩
  | error failure => exact fail_safe sound failure

theorem readLine_safe (sound : session.buffer.Sound) :
    Safe session readLine fun _ after => after.buffer = session.buffer := by
  refine .get_bind (.modify_bind ?_)
  split
  · exact .pure sound rfl
  · exact .throw sound nofun

/-! ### Lines in and out -/

theorem print_safe (sound : session.buffer.Sound) {first final : Nat} (ordered : first ≤ final)
    (inside : final ≤ session.buffer.last) (numbered : Bool) :
    Safe session (print first final numbered) fun _ _ => True := by
  unfold print
  split
  · exact fail_bind_safe sound _
  · refine buffer_bind ?_
    obtain ⟨texts, found⟩ := Buffer.texts?_isSome (Nat.le_succ_of_le ordered) inside
    rw [found]
    apply SafeFrom.bind ((writeLines_spoken _ _ _).safe sound)
    intro _ after sound _
    exact (setCurrent_safe sound final).forget

theorem insertLine_safe (sound : session.buffer.Sound) (text : Text) :
    Safe session (insertLine text) fun _ _ => True := by
  obtain ⟨after, ran, kept, _⟩ := Buffer.insert_inside sound text
  exact (edit_safe (Edit.change_safe ran kept)).forget

theorem takeTyped_safe (sound : session.buffer.Sound) :
    Safe session takeTyped fun _ _ => True := by
  change SafeEnd Session.buffer _ (takeTypedFrom session)
  fun_induction takeTypedFrom session with
  | case1 session stop after read =>
    have safe := readLine_safe sound
    rwa [Safe, SafeFrom, read] at safe
  | case2 session after read =>
    have safe := readLine_safe sound
    rw [Safe, SafeFrom, read] at safe
    exact ⟨safe.1, trivial⟩
  | case3 session line after read _ stop stopped inserted =>
    have safe := readLine_safe sound
    rw [Safe, SafeFrom, read] at safe
    have put := insertLine_safe safe.1 line
    rwa [Safe, SafeFrom, inserted] at put
  | case4 session line after read _ _ put inserted ih =>
    have safe := readLine_safe sound
    rw [Safe, SafeFrom, read] at safe
    have led := insertLine_safe safe.1 line
    rw [Safe, SafeFrom, inserted] at led
    exact ih led.1

theorem append_safe (sound : session.buffer.Sound) (n : Nat) :
    Safe session (append n) fun _ _ => True :=
  .bind (setCurrent_safe sound n) fun _ _ sound _ => takeTyped_safe sound

theorem move_safe (sound : session.buffer.Sound) {range : Range} {target : Nat}
    (within : range.Within session.buffer.last) (target_le : target ≤ session.buffer.last) :
    Safe session (move range target) fun _ _ => True := by
  unfold move
  dsimp only
  split
  · exact fail_bind_safe sound _
  · obtain ⟨after, ran, moved⟩ :=
      Buffer.moveBlock_inside within.positive within.ordered within.final_le target_le
    apply SafeFrom.bind (edit_safe (Edit.change_safe ran (moved.sound sound)))
    intro _ left sound _
    split
    · exact (setCurrent_safe sound _).forget
    · apply SafeFrom.bind (edit_safe (Edit.minus_safe sound within.ordered))
      intro count left sound _
      exact (setCurrent_safe sound _).forget

theorem insertRead_safe (sound : session.buffer.Sound) (path : Text) (lines : List Bytes) :
    Safe session (insertRead path lines) fun _ _ => True := by
  induction lines generalizing session with
  | nil => exact .pure sound trivial
  | cons bytes rest ih =>
    unfold insertRead
    split
    · exact fail_safe sound _
    · apply SafeFrom.bind (insertLine_safe sound _)
      intro _ after sound _
      exact .bind (ih sound) fun count after sound _ => .pure sound trivial

theorem load_safe (sound : session.buffer.Sound) (path : Text) (entry : Entry) (n : Nat) :
    Safe session (load path entry n) fun _ _ => True := by
  apply SafeFrom.bind (setCurrent_safe sound n)
  intro _ after sound _
  split
  · apply SafeFrom.bind (insertRead_safe sound path _)
    intro count after sound _
    exact ((writeCount_spoken count).safe sound).forget
  · exact .bind (insertRead_safe sound path _) fun count after sound _ => fail_safe sound _

theorem readFile_safe (sound : session.buffer.Sound) (path : Text) (n : Nat) :
    Safe session (readFile path n) fun _ _ => True :=
  .bind (openFile_safe sound path) fun entry _ sound _ => load_safe sound path entry n

theorem writeFile_safe (sound : session.buffer.Sound) (path : Text) {range : Range}
    (within : range.Within session.buffer.last) :
    Safe session (writeFile path range) fun _ _ => True := by
  refine buffer_bind ?_
  obtain ⟨texts, found⟩ :=
    Buffer.texts?_isSome (Nat.le_succ_of_le within.ordered) within.final_le
  rw [found]
  apply SafeFrom.bind (storeFile_safe sound path _)
  intro _ after sound _
  refine .bind (edit_safe (Edit.minus_safe sound within.ordered)) fun count left sound _ => ?_
  exact ((writeCount_spoken _).safe sound).forget

/-! ### Commands -/

theorem settle_delete_safe (sound : session.buffer.Sound)
    (within : range.EndsWithin session.buffer.last) (n : Nat) {next : Range → Procedure Unit}
    (goesOn : ∀ {settled : Range} {after : Session}, after.buffer.Sound → 1 ≤ settled.first →
      Safe after (next settled) fun _ _ => True) :
    Safe session (do
      let settled ← settle range n session.buffer.current
      edit (Edit.change (·.delete settled.first settled.final))
      next settled) fun _ _ => True := by
  apply SafeFrom.bind (settle_safe sound within sound.current_le)
  intro settled found sound lines
  obtain ⟨within, rfl⟩ := lines
  obtain ⟨shorter, deleted, kept, _⟩ :=
    Buffer.delete_inside sound within.positive within.ordered within.final_le
  apply SafeFrom.bind (edit_safe (Edit.change_safe deleted kept))
  intro _ after sound _
  exact goesOn sound within.positive

theorem perform_change_safe (sound : session.buffer.Sound)
    (within : range.EndsWithin session.buffer.last) (underGlobal : Bool) :
    Safe session (perform .change range underGlobal) fun _ _ => True := by
  refine buffer_bind ?_
  apply SafeFrom.bind (forbidUnderGlobal_safe sound 'c' underGlobal)
  intro _ after sound same
  rw [← same] at within ⊢
  refine settle_delete_safe sound within _ fun sound positive => ?_
  apply SafeFrom.bind (edit_safe (Edit.minus_safe sound positive))
  intro n after sound _
  exact append_safe sound n

theorem perform_delete_safe (sound : session.buffer.Sound)
    (within : range.EndsWithin session.buffer.last) (underGlobal : Bool) :
    Safe session (perform .delete range underGlobal) fun _ _ => True := by
  refine buffer_bind (settle_delete_safe sound within _ fun sound _ => buffer_bind ?_)
  dsimp only
  split
  · exact (setCurrent_safe sound _).forget
  · exact .pure sound trivial

theorem perform_move_safe (sound : session.buffer.Sound)
    (within : range.EndsWithin session.buffer.last) (destination : Address) (underGlobal : Bool) :
    Safe session (perform (.move destination) range underGlobal) fun _ _ => True := by
  have current_le := sound.current_le
  refine buffer_bind ?_
  apply SafeFrom.bind (edit_safe (destination.resolve_safe sound))
  intro target after sound found
  have last : after.buffer.last = session.buffer.last := congrArg Buffer.last found.1
  rw [← last] at within current_le
  apply SafeFrom.bind (settle_safe sound within current_le)
  intro settled found' sound lines
  obtain ⟨within, rfl⟩ := lines
  exact move_safe sound within (last ▸ found.2)

theorem perform_edit_safe (sound : session.buffer.Sound) (range : Range) (name : Option Text)
    (underGlobal : Bool) :
    Safe session (perform (.edit name) range underGlobal) fun _ _ => True := by
  refine buffer_bind ?_
  apply SafeFrom.bind (requireNoAddress_safe sound range)
  intro _ after sound _
  apply SafeFrom.bind (resolveFilename_safe sound name)
  intro path after sound _
  let named : Session := { after with filename := some path }
  refine .modify_bind (.bind (openFile_safe (show named.buffer.Sound from sound) path) ?_)
  intro entry after sound _
  refine .modify_bind (load_safe ?_ path entry 0)
  exact Buffer.clear_sound sound

theorem perform_safe (sound : session.buffer.Sound) (action : Action) {range : Range}
    (within : range.EndsWithin session.buffer.last) (underGlobal : Bool) :
    Safe session (perform action range underGlobal) fun _ _ => True := by
  -- Without an address the range is the current line, which is one of the buffer.
  have settled (first : Nat) : Safe session (settle range first session.buffer.current) _ :=
    settle_safe sound within sound.current_le
  cases action with
  | print | number =>
    refine buffer_bind ?_
    apply SafeFrom.bind (settled _)
    intro range after sound found
    obtain ⟨within, rfl⟩ := found
    exact print_safe sound within.ordered within.final_le _
  | step =>
    refine buffer_bind ?_
    refine print_safe sound (Nat.le_refl _) ?_ false
    split
    · exact session.buffer.nextLine_le _
    · exact within.final_le
  | quit =>
    refine buffer_bind ?_
    apply SafeFrom.bind (forbidUnderGlobal_safe sound 'q' underGlobal)
    intro _ after sound _
    apply SafeFrom.bind (requireNoAddress_safe sound range)
    intro _ after sound _
    exact ⟨sound, trivial⟩
  | append =>
    refine buffer_bind ?_
    apply SafeFrom.bind (forbidUnderGlobal_safe sound 'a' underGlobal)
    intro _ after sound _
    exact append_safe sound _
  | change => exact perform_change_safe sound within underGlobal
  | delete => exact perform_delete_safe sound within underGlobal
  | lineNumber => exact buffer_bind ((writeLine_spoken _).safe sound).forget
  | filename name =>
    refine buffer_bind ?_
    apply SafeFrom.bind (requireNoAddress_safe sound range)
    intro _ after sound _
    apply SafeFrom.bind (resolveFilename_safe sound name)
    intro path after sound _
    apply SafeFrom.bind ((Spoken.write _).safe sound)
    intro _ after sound _
    exact ⟨sound, trivial⟩
  | explain => exact buffer_bind (explainLast_spoken.safe sound).forget
  | toggleExplain => exact buffer_bind (toggleExplain_spoken.safe sound).forget
  | insert =>
    refine buffer_bind ?_
    apply SafeFrom.bind (forbidUnderGlobal_safe sound 'i' underGlobal)
    intro _ after sound _
    exact append_safe sound _
  | move destination => exact perform_move_safe sound within destination underGlobal
  | substitute substitution =>
    refine buffer_bind ?_
    apply SafeFrom.bind (settled _)
    intro range after sound found
    obtain ⟨within, rfl⟩ := found
    apply SafeFrom.bind (edit_safe (substitution.apply_safe sound within underGlobal))
    intro changed after sound _
    exact .pure sound trivial
  | edit name => exact perform_edit_safe sound range name underGlobal
  | read name =>
    refine buffer_bind ?_
    apply SafeFrom.bind (resolveFilename_safe sound name)
    intro path after sound _
    exact readFile_safe sound path _
  | write name =>
    refine buffer_bind ?_
    apply SafeFrom.bind (resolveFilename_safe sound name)
    intro path after sound same
    rw [← same] at within
    apply SafeFrom.bind (settle_safe sound within (Nat.le_of_eq (congrArg Buffer.last same.symm)))
    intro range found sound lines
    obtain ⟨within, rfl⟩ := lines
    exact writeFile_safe sound path within

theorem execute_safe (sound : session.buffer.Sound) (command : Command) (underGlobal : Bool) :
    Safe session (execute command underGlobal) fun _ _ => True := by
  apply SafeFrom.bind (edit_safe (command.addresses.resolve_safe sound))
  intro range found sound lines
  have within : range.EndsWithin found.buffer.last := lines.1 ▸ lines.2
  apply SafeFrom.bind (perform_safe sound command.action within underGlobal)
  intro _ after sound _
  refine buffer_bind ?_
  dsimp only
  split
  · exact print_safe sound (Nat.le_refl _) sound.current_le false
  · exact .pure sound trivial

/-! ### Global commands -/

theorem marked_le {b : Buffer} {n : Nat} (marked : b.marked? n = some true) : n ≤ b.last := by
  obtain ⟨line, found, _⟩ := Buffer.marked?_eq_some_iff.1 marked
  obtain ⟨inside, _⟩ := Array.getElem?_eq_some_iff.1 found
  rw [b.size_eq] at inside
  exact Nat.le_of_lt_succ inside

theorem visit_safe (sound : session.buffer.Sound) (body : Command) {n : Nat} (positive : 0 < n)
    (inside : n ≤ session.buffer.last) : Safe session (visit body n) fun _ _ => True := by
  obtain ⟨after, ran, kept, _⟩ := Buffer.setMark_inside sound positive inside false
  apply SafeFrom.bind (edit_safe (Edit.change_safe ran kept))
  intro _ unmarked sound _
  apply SafeFrom.bind (setCurrent_safe sound n)
  intro _ current sound _
  exact execute_safe sound body true

-- The loop keeps the buffer sound visit by visit, from any position, be it outside the buffer.
theorem replayFrom_safe (sound : session.buffer.Sound) (body : Command) (position idle : Nat) :
    Safe session (replayFrom body position idle) fun _ _ => True := by
  change SafeEnd Session.buffer _ (replayFrom body position idle session)
  -- A body may leave the position behind the end; then nothing is marked there, and the loop goes
  -- on at slot 0.
  fun_induction replayFrom body position idle session with
  | case1 position idle session passed => exact ⟨sound, trivial⟩
  | case2 position idle session passed marked visited _ ran ih =>
    have safe := visit_safe sound body (Nat.pos_of_ne_zero marked.1) (marked_le marked.2)
    exact ih safe.sound
  | case3 position idle session passed marked visited stop ran =>
    have safe := visit_safe sound body (Nat.pos_of_ne_zero marked.1) (marked_le marked.2)
    refine ⟨safe.sound, fun outside => safe.not_outOfBounds ?_⟩
    rw [← outside]
    exact ran
  | case4 position idle session passed marked ih => exact ih sound

theorem markGlobal_safe (sound : session.buffer.Sound) (global : Global) :
    Safe session (markGlobal global) fun _ _ => True := by
  apply SafeFrom.bind (edit_safe (global.addresses.resolve_safe sound))
  intro range found sound lines
  have within : range.EndsWithin found.buffer.last := lines.1 ▸ lines.2
  refine buffer_bind ?_
  apply SafeFrom.bind (settle_safe sound within (Nat.le_refl _))
  intro range settled sound _
  apply SafeFrom.bind (edit_safe (Edit.usePattern_safe sound _ _))
  intro regex after sound _
  exact .modify_bind (.pure (Buffer.markLines_sound sound regex range _) trivial)

theorem markGlobal_sound {start : Session} (sound : session.buffer.Sound) {global : Global}
    {first : Nat} (marked : (markGlobal global).run session = (.ok first, start)) :
    start.buffer.Sound := by
  have safe := (markGlobal_safe sound global).sound
  rwa [marked] at safe

theorem executeGlobal_safe (sound : session.buffer.Sound) (global : Global) :
    Safe session (executeGlobal global) fun _ _ => True :=
  .bind (markGlobal_safe sound global) fun position _ sound _ =>
    replayFrom_safe sound global.body position 0

/-! ### Command lines -/

theorem executeLine_safe (sound : session.buffer.Sound) (line : Text) :
    Safe session (executeLine line) fun _ _ => True := by
  have statement : Safe session (executeStatement line) fun _ _ => True := by
    unfold executeStatement
    cases Statement.parse line.body with
    | error failure => exact fail_bind_safe sound failure
    | ok statement =>
      cases statement with
      | single command => exact execute_safe sound command false
      | global global => exact executeGlobal_safe sound global
  refine buffer_bind (.tryCatch statement fun stop after sound inside => ?_)
  cases stop with
  | failed failure =>
    apply SafeFrom.bind ((report_spoken trivial failure).safe sound)
    intro _ reported sound _
    exact (setCurrent_safe sound _).forget
  | inputEnded => exact .throw sound nofun
  | outOfBounds => exact absurd rfl inside

theorem promptLine_safe (sound : session.buffer.Sound) :
    Safe session promptLine fun _ _ => True := by
  apply SafeFrom.bind (writePrompt_spoken.safe sound)
  intro _ ready sound _
  apply SafeFrom.bind (.bind (readLine_safe sound) fun line typed sound _ =>
    executeLine_safe sound line)
  intro _ ended sound _
  exact (Spoken.flush.safe sound).forget

theorem runFrom_safe (sound : session.buffer.Sound) : Safe session runFrom fun _ _ => True := by
  change SafeEnd Session.buffer _ (runFrom session)
  fun_induction runFrom session with
  | case1 session running _ after ran ih =>
    have prompted := promptLine_safe sound
    rw [Safe, SafeFrom, ran] at prompted
    exact ih prompted.1
  | case2 session running stop after ran =>
    have prompted := promptLine_safe sound
    rw [Safe, SafeFrom, ran] at prompted
    exact prompted
  | case3 session stopped => exact ⟨sound, trivial⟩

theorem openAtStart_safe (sound : session.buffer.Sound) (path : Text) :
    Safe session (openAtStart path) fun _ _ => True := by
  have named : Session.buffer { session with filename := some path } |>.Sound := sound
  refine .modify_bind (.bind (.tryCatch (readFile_safe named path 0) ?_)
    fun _ after sound _ => (Spoken.flush.safe sound).forget)
  intro stop after sound inside
  cases stop with
  | failed failure => exact ((report_spoken trivial failure).safe sound).forget
  | inputEnded => exact .throw sound (by simp)
  | outOfBounds => exact absurd rfl inside

end Procedure

/-! ### Reachable sessions -/

open Procedure (Safe)

theorem Step.safe {session : Session} (sound : session.buffer.Sound) (step : Step) :
    Safe session step.procedure fun _ _ => True := by
  cases step with
  | openFile path => exact Procedure.openAtStart_safe sound path
  | line text => exact Procedure.executeLine_safe sound text
  | run => exact Procedure.runFrom_safe sound

theorem Reachable.sound {session : Session} (reached : Reachable session) :
    session.buffer.Sound := by
  induction reached with
  | start => exact Buffer.empty_sound
  | step _ step ih => exact (step.safe ih).sound
  | around _ input output files ih => exact ih

/-- The current line is one of the buffer, or 0 before the first one; slot 0 is empty and unmarked;
and the next step, any line at all, finds every line that it asks for. -/
theorem reachable_stays_inside {session : Session} (reached : Reachable session) :
    session.buffer.current ≤ session.buffer.last ∧ session.buffer.line? 0 = some {}
      ∧ ∀ step : Step, (step.procedure.run session).1 ≠ .error .outOfBounds := by
  have sound := reached.sound
  refine ⟨sound.current_le, sound.slot_zero, fun step => ?_⟩
  exact (step.safe sound).not_outOfBounds

set_option maxRecDepth 100000 in
/-- With lines x and y, `g/y/1,.d` is at line 2 when no line is left. -/
theorem emptied_buffer_stays_inside :
    ∃ session, Reachable session ∧ session.buffer.last = 0
      ∧ session.buffer.current ≤ session.buffer.last
      ∧ ∀ step : Step, (step.procedure.run session).1 ≠ .error .outOfBounds := by
  have reached : Reachable
      ((Session.typed [120, 10, 121, 10, 46, 10]).after
        (.line ['g', '/', 'y', '/', '1', ',', '.', 'd'])) := .step (typed_reachable _) _
  obtain ⟨current_le, _, inside⟩ := reachable_stays_inside reached
  exact ⟨_, reached, by cbv, current_le, inside⟩

end LineEditor
