import LineEditor.Proofs.Global.Selection
import LineEditor.Proofs.Pattern.Literal
import Mathlib

/-!
Global commands whose body deletes the line it visits, or moves it to the front or to the end. What
is deleted are the lines that are visited, and the others keep their order. Those that are moved come
to stand together, the other way round at the front and in their order at the end.
-/

namespace LineEditor

namespace Procedure
variable {session : Session}

theorem run_visit_delete {front back : List Line} {line : Line}
    (lines : session.buffer.lines = front ++ line :: back) :
    ∃ after, (visit { action := .delete } (front.length + 1)).run session = (.ok ⟨⟩, after)
      ∧ after.buffer.lines = front ++ back := by
  obtain ⟨zero, b, consists, settled, ran⟩ := run_visit_action lines .delete
  have whole : b.Consists ((zero :: front) ++ ([line.unmark] ++ back)) (front.length + 1) :=
    consists
  obtain ⟨deleted, done, left⟩ := whole.delete (front.length + 1) (front.length + 1)
    (Nat.succ_pos _) rfl (Nat.le_refl _) rfl
  obtain ⟨n, finished⟩ :=
    run_perform_delete { session with editor.buffer := b } settled done true
  exact ⟨_, ran.trans finished, left.lines⟩

-- No visit touches a line that is not marked, so these are what stays, in their order.
theorem run_executeGlobal_delete (global : Global) (body : global.body = { action := .delete })
    {range : Range} {regex : Regex} (selects : global.Selects session range regex) :
    ∃ after, (executeGlobal global).run session = (.ok ⟨⟩, after)
      ∧ after.buffer.lines
        = (session.buffer.unpicked regex range global.invert).map Line.unmark := by
  rw [← Buffer.unmarkedOf_markLines selects.within]
  apply run_executeGlobal_arranges unmarkedOf Unmarked.unmarkedOf _ selects
  intro session front back line lines unmarked marked
  obtain ⟨after, ran, left⟩ := run_visit_delete lines
  refine ⟨after, by rwa [body], ?_, ?_⟩
  · rw [left, unmarkedOf_append, unmarkedOf_append, unmarkedOf_cons marked]
  · rwa [left, List.take_left]

end Procedure

/-- With the body `d` a global command deletes the lines of its range that match, or with `x` those
that do not, and keeps all the others in their order. Of the lines of the range each is deleted by
one of the two. -/
theorem global_deletes_picked {global : Global} {session : Session} {range : Range} {regex : Regex}
    (selects : global.Selects session range regex) (body : global.body = { action := .delete }) :
    (∀ invert, ∃ after,
      (Procedure.executeGlobal { global with invert }).run session = (.ok ⟨⟩, after)
        ∧ after.buffer.lines = (session.buffer.unpicked regex range invert).map Line.unmark
        ∧ (session.buffer.picked regex range invert
            ++ session.buffer.unpicked regex range invert).Perm session.buffer.lines)
      ∧ (session.buffer.picked regex range false ++ session.buffer.picked regex range true).Perm
          (session.buffer.block range) := by
  refine ⟨fun invert => ?_, session.buffer.picked_perm_block regex range false⟩
  obtain ⟨after, ran, left⟩ :=
    Procedure.run_executeGlobal_delete { global with invert } body
      (selects.congr invert global.body)
  exact ⟨after, ran, left, Buffer.picked_perm_lines selects.within regex invert⟩

set_option maxRecDepth 100000 in
/-- Of the lines a, b and ca `1,3g/a/d` deletes the first and the last, and `1,3x/a/d` the one
between them; the line a behind the range stays. -/
theorem withA_deletes_picked :
    let left := fun invert => linesWithA.buffer.unpicked letterA ⟨1, 3, 2⟩ invert
    Statement.parse "1,3g/a/d".toList = .ok (.global (withA { action := .delete }))
      ∧ (withA { action := .delete }).Selects linesWithA ⟨1, 3, 2⟩ letterA
      ∧ (left false).map (·.text) = [['b', '\n'], ['a', '\n']]
      ∧ (left true).map (·.text) = [['a', '\n'], ['c', 'a', '\n'], ['a', '\n']]
      ∧ ∀ invert, ∃ after,
        (Procedure.executeGlobal { withA { action := .delete } with invert }).run linesWithA
          = (.ok ⟨⟩, after) ∧ after.buffer.lines = (left invert).map Line.unmark := by
  have selects := withA_selects { action := .delete }
  refine ⟨by cbv, selects, by cbv, by cbv, fun invert => ?_⟩
  obtain ⟨after, ran, left, _⟩ := (global_deletes_picked selects rfl).1 invert
  exact ⟨after, ran, left⟩

/-! ### The pattern `^` -/

/-- The engine compiles `^`, and every text has a start. -/
def Engine.KnowsLineStart (engine : Engine) : Prop :=
  ∃ regex, engine ['^'] false = .ok regex ∧ ∀ text, regex.isMatch text = true

namespace Regex

def lineStart : Regex :=
  .ofProgram ['^'] ⟨#[.accept, .save 1 0, .look .textStart 1, .save 0 2], 3, 2⟩

theorem lineStart_isMatch (text : Text) : lineStart.isMatch text = true := by
  let program : Program := ⟨#[.accept, .save 1 0, .look .textStart 1, .save 0 2], 3, 2⟩
  have entry : program.instructions[3]? = some (.save 0 2) := rfl
  have start : program.instructions[2]? = some (.look .textStart 1) := rfl
  have close : program.instructions[1]? = some (.save 1 0) := rfl
  change (program.search text.toArray 0).isSome = true
  rw [Program.search_isSome_iff]
  refine ⟨0, Nat.le_refl 0, Nat.zero_le _, ?_⟩
  rw [show program.entry = 3 from rfl, Program.accepts_save entry, Program.accepts_look start,
    Program.accepts_save close]
  exact ⟨rfl, .here rfl⟩

theorem engine_knowsLineStart : engine.KnowsLineStart :=
  ⟨lineStart, by cbv, lineStart_isMatch⟩

end Regex

/-! ### The global command that visits all lines -/

def everyLine (body : Command) : Global := { pattern := ['^'], delimiter := '/', body }

theorem everyLine_selects {session : Session} (some : session.buffer.last ≠ 0)
    {regex : Regex} (compiled : session.editor.active.engine ['^'] false = .ok regex)
    (body : Command) :
    (everyLine body).Selects session ⟨1, session.buffer.last, 0⟩ regex := by
  have positive := Nat.pos_of_ne_zero some
  refine ⟨⟨Nat.one_pos, positive, Nat.le_refl _⟩, _, session.editor,
    { session.editor.active with regex := regex },
    AddressList.run_resolve_none session.editor, ?_, ?_⟩
  · have ordered : ¬session.editor.buffer.last < 1 := Nat.not_lt.2 positive
    simp [Range.settle, Range.withDefault, Range.check, ordered]
    rfl
  · have pattern : Pattern.unescapeDelimiter ['^'] '/' = ['^'] := rfl
    have plain : Pattern.ofFlavor session.editor.active.flavor ['^'] = ['^'] := by
      cases session.editor.active.flavor <;> rfl
    rw [everyLine, pattern, ActivePattern.use, if_neg (List.cons_ne_nil _ _), Pattern.compile,
      plain, compiled]
    rfl

-- A text without lines has no range, and nothing is done to it.
theorem run_everyLine_empty {session : Session} (empty : session.buffer.last = 0)
    (body : Command) :
    (Procedure.executeGlobal (everyLine body)).run session
      = (.error (.failed .invalidRange), session) := by
  have looked : (everyLine body).addresses.resolve.run session.editor
      = (.ok ⟨session.buffer.current, session.buffer.current, 0⟩, session.editor) :=
    AddressList.run_resolve_none session.editor
  have none : Range.settle ⟨session.buffer.current, session.buffer.current, 0⟩ 1
      (Session.buffer { session with editor := session.editor }).last = .error .invalidRange := by
    rw [show (Session.buffer { session with editor := session.editor }).last = 0 from empty]
    rfl
  rw [Procedure.run_executeGlobal, Procedure.markGlobal, run_bind, Procedure.run_edit, looked]
  dsimp only
  rw [Procedure.run_buffer_bind, run_bind, Procedure.run_settle_failed none]

namespace Buffer

theorem block_all (b : Buffer) (given : Nat) : b.block ⟨1, b.last, given⟩ = b.lines := by
  rw [block, ← b.length_lines, List.take_length]
  rfl

theorem picked_all (b : Buffer) {regex : Regex} (all : ∀ text, regex.isMatch text = true)
    (given : Nat) : b.picked regex ⟨1, b.last, given⟩ false = b.lines := by
  rw [picked, block_all]
  apply List.filter_eq_self.2
  intro line _
  rw [Regex.matchesLine, all]
  rfl

theorem unpicked_all (b : Buffer) {regex : Regex} (all : ∀ text, regex.isMatch text = true)
    (given : Nat) : b.unpicked regex ⟨1, b.last, given⟩ false = [] := by
  have none : b.picked regex ⟨1, b.last, given⟩ true = [] := by
    apply List.filter_eq_nil_iff.2
    intro line _
    rw [Regex.matchesLine, all]
    decide
  rw [unpicked, Bool.not_false, none, List.drop_eq_nil_of_le (Nat.le_of_eq b.length_lines)]
  rfl

end Buffer

/-! ### Moving -/

def moveToFront : Command := { action := .move { term := .line 0 } }

def moveToEnd : Command := { action := .move { term := .last } }

/-! ### One visit -/

namespace Procedure
variable {session : Session} {front back : List Line} {line : Line}

theorem run_visit_moveToFront (lines : session.buffer.lines = front ++ line :: back) :
    ∃ after, (visit moveToFront (front.length + 1)).run session = (.ok ⟨⟩, after)
      ∧ after.buffer.lines = line.unmark :: (front ++ back) := by
  obtain ⟨zero, b, consists, settled, ran⟩ := run_visit_action lines (.move { term := .line 0 })
  have whole : b.Consists ([zero] ++ (front ++ ([line.unmark] ++ back))) (front.length + 1) :=
    consists
  obtain ⟨moved, done, order⟩ := whole.moveBlock_back (front.length + 1) (front.length + 1) 0 rfl
    (Nat.add_comm _ _) rfl
  obtain ⟨n, finished⟩ := run_perform_move { session with editor.buffer := b }
    (Address.run_resolve_line (Nat.zero_le _)) settled (Nat.le_refl _)
    (fun inside => Nat.not_succ_le_zero _ inside.1) done true
  exact ⟨_, ran.trans finished, order.lines⟩

theorem run_visit_moveToEnd (lines : session.buffer.lines = front ++ line :: back) :
    ∃ after, (visit moveToEnd (front.length + 1)).run session = (.ok ⟨⟩, after)
      ∧ after.buffer.lines = front ++ (back ++ [line.unmark]) := by
  obtain ⟨zero, b, consists, settled, ran⟩ := run_visit_action lines (.move { term := .last })
  have last : b.last = front.length + 1 + back.length := by
    have size := consists.last
    rw [List.append_eq, List.length_append, List.length_cons] at size
    omega
  have whole : b.Consists ((zero :: front) ++ ([line.unmark] ++ (back ++ [])))
      (front.length + 1) := by
    rw [List.append_nil]
    exact consists
  obtain ⟨moved, done, order⟩ := whole.moveBlock_forth (front.length + 1) (front.length + 1) b.last
    rfl rfl (by omega)
  obtain ⟨n, finished⟩ := run_perform_move { session with editor.buffer := b }
    (Address.run_resolve_last _) settled (Nat.le_refl _)
    (fun inside => Nat.not_lt.2 (Nat.le_add_right _ _) (last ▸ inside.2)) done true
  exact ⟨_, ran.trans finished, order.lines⟩

/-! ### All the visits -/

theorem run_executeGlobal_moveToFront {global : Global} (body : global.body = moveToFront)
    {range : Range} {regex : Regex} (selects : global.Selects session range regex) :
    ∃ after, (executeGlobal global).run session = (.ok ⟨⟩, after)
      ∧ after.buffer.lines = ((session.buffer.picked regex range global.invert).reverse
        ++ session.buffer.unpicked regex range global.invert).map Line.unmark := by
  rw [List.map_append, List.map_reverse, ← Buffer.markedOf_markLines selects.within,
    ← Buffer.unmarkedOf_markLines selects.within]
  -- The marks that are left are for lines that come before all those that were moved so far.
  let arrange (lines : List Line) := (markedOf lines).reverse ++ unmarkedOf lines
  refine run_executeGlobal_arranges arrange ?_ ?_ selects
  · intro lines unmarked
    simp only [arrange, unmarked.markedOf, unmarked.unmarkedOf, List.reverse_nil, List.nil_append]
  intro session front back line lines unmarked marked
  obtain ⟨after, ran, moved⟩ := run_visit_moveToFront lines
  have inFront : Unmarked (line.unmark :: front) := List.forall_mem_cons.2 ⟨rfl, unmarked⟩
  rw [← List.cons_append] at moved
  refine ⟨after, by rwa [body], ?_, ?_⟩
  · simp only [moved, arrange, markedOf_append, unmarkedOf_append, inFront.markedOf,
      inFront.unmarkedOf, unmarked.markedOf, unmarked.unmarkedOf, markedOf_cons marked,
      unmarkedOf_cons marked]
    simp
  · intro other member
    rw [moved, List.take_append_of_le_length (by simp)] at member
    exact inFront other (List.mem_of_mem_take member)

theorem run_executeGlobal_moveToEnd {global : Global} (body : global.body = moveToEnd)
    {range : Range} {regex : Regex} (selects : global.Selects session range regex) :
    ∃ after, (executeGlobal global).run session = (.ok ⟨⟩, after)
      ∧ after.buffer.lines = (session.buffer.unpicked regex range global.invert
        ++ session.buffer.picked regex range global.invert).map Line.unmark := by
  rw [List.map_append, ← Buffer.markedOf_markLines selects.within,
    ← Buffer.unmarkedOf_markLines selects.within]
  let arrange (lines : List Line) := unmarkedOf lines ++ markedOf lines
  refine run_executeGlobal_arranges arrange ?_ ?_ selects
  · intro lines unmarked
    simp only [arrange, unmarked.markedOf, unmarked.unmarkedOf, List.append_nil]
  intro session front back line lines unmarked marked
  obtain ⟨after, ran, moved⟩ := run_visit_moveToEnd lines
  have moved_unmarked : Unmarked [line.unmark] := List.forall_mem_singleton.2 rfl
  refine ⟨after, by rwa [body], ?_, ?_⟩
  · simp only [moved, arrange, markedOf_append, unmarkedOf_append, moved_unmarked.markedOf,
      moved_unmarked.unmarkedOf, unmarked.markedOf, unmarked.unmarkedOf, markedOf_cons marked,
      unmarkedOf_cons marked]
    simp
  · rwa [moved, List.take_left]

end Procedure

/-- A global command with the body `m0` puts the lines it marks in front of the others, the other
way round, and with the body `m$` behind them, in their order. So `g/^/m0` turns every text round,
whatever engine finds the start of each line; on a text without lines there is no range to mark, and
it fails. -/
theorem global_moves_picked :
    (∀ {global : Global} {session : Session} {range : Range} {regex : Regex},
      global.Selects session range regex →
        (global.body = moveToFront →
          ∃ after, (Procedure.executeGlobal global).run session = (.ok ⟨⟩, after)
            ∧ after.buffer.lines = ((session.buffer.picked regex range global.invert).reverse
              ++ session.buffer.unpicked regex range global.invert).map Line.unmark)
        ∧ (global.body = moveToEnd →
          ∃ after, (Procedure.executeGlobal global).run session = (.ok ⟨⟩, after)
            ∧ after.buffer.lines = (session.buffer.unpicked regex range global.invert
              ++ session.buffer.picked regex range global.invert).map Line.unmark))
      ∧ ∀ session : Session, session.editor.active.engine.KnowsLineStart → ∃ outcome after,
        (Procedure.executeGlobal (everyLine moveToFront)).run session = (outcome, after)
          ∧ after.buffer.lines = session.buffer.lines.reverse.map Line.unmark
          ∧ (session.buffer.last ≠ 0 → outcome = .ok ⟨⟩) := by
  refine ⟨fun selects => ⟨?_, ?_⟩, ?_⟩
  · intro body
    exact Procedure.run_executeGlobal_moveToFront body selects
  · intro body
    exact Procedure.run_executeGlobal_moveToEnd body selects
  · rintro session ⟨regex, compiled, all⟩
    by_cases empty : session.buffer.last = 0
    · have none : session.buffer.lines = [] :=
        List.eq_nil_of_length_eq_zero (session.buffer.length_lines.trans empty)
      refine ⟨_, session, run_everyLine_empty empty moveToFront, ?_, fun some => absurd empty some⟩
      rw [none]
      rfl
    · obtain ⟨after, ran, moved⟩ :=
        Procedure.run_executeGlobal_moveToFront rfl
          (everyLine_selects empty compiled moveToFront)
      rw [everyLine, Buffer.picked_all _ all, Buffer.unpicked_all _ all, List.append_nil] at moved
      exact ⟨_, after, ran, moved, fun _ => rfl⟩

set_option maxRecDepth 100000 in
/-- Of the lines a, b, ca and a `1,3g/a/m0` puts ca and then the first a to the front, `1,3g/a/m$`
the first a and then ca to the end, and `g/^/m0` turns all four round. -/
theorem withA_moves_picked :
    let picked := linesWithA.buffer.picked letterA ⟨1, 3, 2⟩ false
    let unpicked := linesWithA.buffer.unpicked letterA ⟨1, 3, 2⟩ false
    Statement.parse "1,3g/a/m0".toList = .ok (.global (withA moveToFront))
      ∧ Statement.parse "1,3g/a/m$".toList = .ok (.global (withA moveToEnd))
      ∧ Statement.parse "g/^/m0".toList = .ok (.global (everyLine moveToFront))
      ∧ picked.map (·.text) = [['a', '\n'], ['c', 'a', '\n']]
      ∧ unpicked.map (·.text) = [['b', '\n'], ['a', '\n']]
      ∧ (∃ after, (Procedure.executeGlobal (withA moveToFront)).run linesWithA = (.ok ⟨⟩, after)
        ∧ after.buffer.lines = (picked.reverse ++ unpicked).map Line.unmark)
      ∧ (∃ after, (Procedure.executeGlobal (withA moveToEnd)).run linesWithA = (.ok ⟨⟩, after)
        ∧ after.buffer.lines = (unpicked ++ picked).map Line.unmark)
      ∧ ∃ outcome after,
        (Procedure.executeGlobal (everyLine moveToFront)).run linesWithA = (outcome, after)
          ∧ after.buffer.lines = linesWithA.buffer.lines.reverse.map Line.unmark
          ∧ outcome = .ok ⟨⟩ := by
  have four : linesWithA.buffer.last ≠ 0 := by cbv
  have engine : linesWithA.editor.active.engine = Regex.engine := by cbv
  obtain ⟨outcome, after, ran, moved, completes⟩ :=
    global_moves_picked.2 linesWithA (engine ▸ Regex.engine_knowsLineStart)
  exact ⟨by cbv, by cbv, by cbv, by cbv, by cbv,
    (global_moves_picked.1 (withA_selects moveToFront)).1 rfl,
    (global_moves_picked.1 (withA_selects moveToEnd)).2 rfl, outcome, after, ran, moved,
    completes four⟩

end LineEditor
