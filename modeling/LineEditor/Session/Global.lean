import LineEditor.Session.Composed

/-!
Global commands. Lines are marked first; then a loop goes round the buffer and runs the body for
each marked line that it meets. A body takes marks away only, so the loop comes to an end.
-/

namespace LineEditor

/-! ### What becomes of the lines -/

def Powers.command (underGlobal : Bool) : Powers :=
  ⟨fun _ => True, underGlobal = false, True, True, False, True⟩

theorem Action.within_command (action : Action) (underGlobal : Bool) :
    (action.powers underGlobal).Within (.command underGlobal) where
  substitutes _ := trivial
  converses := id
  loads _ := trivial
  names _ := trivial
  marks := id
  reports := False.elim

theorem Edit.Basic.descends {underGlobal : Bool} {α : Type} {operation : Edit α}
    (basic : operation.Basic (.command underGlobal)) : Keeps Editor.Descends operation := by
  cases basic with
  | asks asks =>
    cases asks with
    | range addresses => exact addresses.resolve_descends
    | target address => exact address.resolve_descends
    | usePattern pattern ignoreCase => exact usePattern_descends pattern ignoreCase
  | alters alters =>
    cases alters with
    | minus n m => exact minus_descends n m
    | setCurrent n => exact setCurrent_descends n
    | delete _ final => exact change_descends fun b => b.delete_descends _ final
    | move _ final target => exact change_descends fun b => b.moveBlock_descends _ final target
    | insert _ => exact change_descends fun b => b.insert_descends _
    | clear => exact change_descends fun b => b.clear_descends
    | unmark asked => exact asked.elim
    | mark asked => exact asked.elim
  | @substitute substitution _ range _ underGlobal =>
    exact substitution.apply_descends range underGlobal

def Session.Descends (before after : Session) : Prop := before.buffer.Descends after.buffer

namespace Procedure

-- No command makes a marked line, or touches a line that it keeps.
theorem carried_descends (underGlobal : Bool) :
    Carried (.command underGlobal) Session.Descends where
  refl session := .refl session.buffer
  trans := Buffer.Descends.trans
  noted := by
    intro session after noted
    have same : after.buffer = session.buffer := congrArg (·.buffer) noted.editor
    unfold Session.Descends
    exact same ▸ .refl session.buffer
  edited := by
    intro α operation basic session
    have led := basic.descends session.editor
    rw [run_edit]
    rcases ran : operation.run session.editor with ⟨_ | a, editor⟩ <;> rw [ran] at led <;> exact led

/-! ### The loop -/

/-- Visits line `n`: its mark is taken away, it becomes current and the body runs. -/
def visit (body : Command) (n : Nat) : Procedure Unit := do
  edit (Edit.change (·.setMark n false))
  setCurrent n
  execute body true

theorem visit_descends (body : Command) {n : Nat} {session : Session} {b : Buffer}
    (unmarked : session.buffer.setMark n false = .ok b) :
    b.Descends ((visit body n).run session).2.buffer := by
  have after : Keeps Session.Descends (do setCurrent n; execute body true) :=
    (carried_descends true).bind ((carried_descends true).edited (.alters (.setCurrent n)))
      fun _ => (carried_descends true).execute (body.action.within_command true)
  have started : (edit (Edit.change (·.setMark n false))).run session
      = (.ok ⟨⟩, { session with editor.buffer := b }) := by
    have ran : (Edit.change (·.setMark n false)).run session.editor
        = (.ok ⟨⟩, { session.editor with buffer := b }) := by
      simp only [Edit.change, run_bind, run_get]
      rw [show session.editor.buffer.setMark n false = .ok b from unmarked]
      rfl
    rw [run_edit, ran]
  rw [visit, run_bind, started]
  exact after { session with editor.buffer := b }

theorem markCount_visit (body : Command) {n : Nat} {session : Session}
    (marked : session.buffer.marked? n = some true) :
    ((visit body n).run session).2.buffer.markCount < session.buffer.markCount := by
  obtain ⟨b, unmarked⟩ := Buffer.setMark_of_marked marked false
  exact Nat.lt_of_le_of_lt (visit_descends body unmarked).markCount_le
    (Buffer.markCount_setMark marked unmarked)

/-- Goes round the buffer from a position on and visits the marked lines, until no marked line was
met at more positions in a row than there are lines. -/
def replayFrom (body : Command) (position idle : Nat) (session : Session) :
    Except Stop Unit × Session :=
  if session.buffer.last < idle then (.ok ⟨⟩, session)
  else if marked : position ≠ 0 ∧ session.buffer.marked? position = some true then
    let visited := (visit body position).run session
    match visited.1 with
    | .ok _ => replayFrom body position 0 visited.2
    | .error stop => (.error stop, visited.2)
  else replayFrom body (session.buffer.nextLine position) (idle + 1) session
-- A visit takes a mark away, whatever its body does to the number of lines; a step without one
-- leaves the buffer as it is.
termination_by (session.buffer.markCount, session.buffer.last + 1 - idle)
decreasing_by
  · exact Prod.Lex.left _ _ (markCount_visit body marked.2)
  · exact Prod.Lex.right _ (by omega)

theorem replayFrom_passed {body : Command} {position idle : Nat} {session : Session}
    (passed : session.buffer.last < idle) :
    replayFrom body position idle session = (.ok ⟨⟩, session) := by
  rw [replayFrom, if_pos passed]

theorem replayFrom_visit {body : Command} {position idle : Nat} {session : Session}
    (going : ¬session.buffer.last < idle)
    (marked : position ≠ 0 ∧ session.buffer.marked? position = some true) :
    replayFrom body position idle session =
      match (visit body position).run session with
      | (.ok _, after) => replayFrom body position 0 after
      | (.error stop, after) => (.error stop, after) := by
  rw [replayFrom, if_neg going, dif_pos marked]
  rcases (visit body position).run session with ⟨_ | _, after⟩ <;> rfl

theorem replayFrom_skip {body : Command} {position idle : Nat} {session : Session}
    (going : ¬session.buffer.last < idle)
    (unmarked : ¬(position ≠ 0 ∧ session.buffer.marked? position = some true)) :
    replayFrom body position idle session
      = replayFrom body (session.buffer.nextLine position) (idle + 1) session := by
  rw [replayFrom, if_neg going, dif_neg unmarked]

def replay (body : Command) (position : Nat) : Procedure Unit := replayFrom body position 0

/-- Marks the lines that a global command is to visit; the line where its range starts. -/
def markGlobal (global : Global) : Procedure Nat := do
  let range ← edit global.addresses.resolve
  let range ← settle range 1 (← buffer).last
  let regex ← edit
    (Edit.usePattern (Pattern.unescapeDelimiter global.pattern global.delimiter) false)
  modify fun session =>
    { session with
      editor.buffer := session.buffer.markLines regex range global.invert }
  return range.first

def executeGlobal (global : Global) : Procedure Unit := do
  replay global.body (← markGlobal global)

-- Where the marking stops, the loop does not begin.
theorem run_executeGlobal (global : Global) (session : Session) :
    (executeGlobal global).run session =
      match (markGlobal global).run session with
      | (.ok first, start) => replayFrom global.body first 0 start
      | (.error stop, start) => (.error stop, start) := by
  rw [executeGlobal, run_bind]
  rcases (markGlobal global).run session with ⟨_ | first, start⟩ <;> rfl

theorem run_executeGlobal_marked {session start : Session} {global : Global} {first : Nat}
    (marked : (markGlobal global).run session = (.ok first, start)) :
    (executeGlobal global).run session = replayFrom global.body first 0 start := by
  rw [run_executeGlobal, marked]

theorem modify_buffer (f : Buffer → Buffer) :
    (modify fun session : Session => { session with editor.buffer := f session.buffer })
      = edit (Edit.change fun b => .ok (f b)) := rfl

theorem markGlobal_composed {powers : Powers} (asked : powers.marks) (global : Global) :
    Composed powers .checking .acting (markGlobal global) := by
  apply Composed.bind (.ask (.range global.addresses))
  intro range
  refine buffer_bind_composed (fun _ _ alike => by simp only [alike.last]) fun b => ?_
  refine settle_bind _ _ _ fun range _ => ?_
  apply Composed.bind (.ask (.usePattern _ _))
  intro regex
  rw [modify_buffer (·.markLines regex range global.invert)]
  exact Composed.atOnce (.bind (.act (.mark asked regex range global.invert)) fun _ => .pure _)

/-! ### What every step carries on -/

namespace Carried
variable {R : Session → Session → Prop} {powers : Powers}

theorem visit (carried : Carried powers R) (asked : powers.marks) {body : Command}
    (within : (body.action.powers true).Within powers) (n : Nat) : Keeps R (visit body n) :=
  carried.bind (carried.edited (.alters (.unmark asked n))) fun _ =>
    carried.bind (carried.edited (.alters (.setCurrent n))) fun _ => carried.execute within

theorem replay (carried : Carried powers R) (asked : powers.marks) {body : Command}
    (within : (body.action.powers true).Within powers) (position : Nat) :
    Keeps R (replay body position) := by
  intro session
  change R session (replayFrom body position 0 session).2
  fun_induction replayFrom body position 0 session with
  | case1 _ _ session => exact carried.refl session
  | case2 position _ session _ marked visited _ _ ih =>
    exact carried.trans (carried.visit asked within position session) ih
  | case3 position _ session _ marked visited _ _ => exact carried.visit asked within position session
  | case4 _ _ _ _ _ ih => exact ih

theorem markGlobal (carried : Carried powers R) (asked : powers.marks) (global : Global) :
    Keeps R (markGlobal global) := carried.composed (markGlobal_composed asked global)

theorem executeGlobal (carried : Carried powers R) (asked : powers.marks) {global : Global}
    (within : (global.body.action.powers true).Within powers) : Keeps R (executeGlobal global) :=
  carried.bind (carried.markGlobal asked global) fun position => carried.replay asked within position

end Carried

end Procedure

end LineEditor
