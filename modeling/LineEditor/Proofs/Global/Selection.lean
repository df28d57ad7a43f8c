import LineEditor.Proofs.Equations
import LineEditor.Proofs.LineForm
import LineEditor.Proofs.Listing
import LineEditor.Proofs.Lookup.Walk
import LineEditor.Session.Global
import Mathlib

/-!
Which lines a global command is for, said on the text as it was, and what that makes of the marks.
Where a body leaves what lies before a visited line without marks the loop never has to go back: the
next line that it visits is always the first one that is marked. So what one visit keeps is enough
to say what the whole loop leaves.
-/

namespace LineEditor

def Unmarked (lines : List Line) : Prop := ∀ line ∈ lines, line.marked = false

theorem unmarked_or_first_marked (lines : List Line) :
    Unmarked lines ∨ ∃ front line back, lines = front ++ line :: back ∧ Unmarked front
      ∧ line.marked = true := by
  induction lines with
  | nil => exact .inl nofun
  | cons first rest ih =>
    cases marked : first.marked with
    | true => exact .inr ⟨[], first, rest, rfl, nofun, marked⟩
    | false =>
      rcases ih with none | ⟨front, line, back, rfl, none, found⟩
      · exact .inl (List.forall_mem_cons.2 ⟨marked, none⟩)
      · exact .inr ⟨first :: front, line, back, rfl, List.forall_mem_cons.2 ⟨marked, none⟩, found⟩

namespace Buffer

theorem line?_of_lines {b : Buffer} {front back : List Line} {line : Line}
    (lines : b.lines = front ++ line :: back) : b.line? (front.length + 1) = some line := by
  rw [line?_succ, lines]
  simp

theorem lines_of_replaced {before after : Buffer} {front back : List Line} {line new : Line}
    (lines : before.lines = front ++ line :: back)
    (here : after.line? (front.length + 1) = some new)
    (others : ∀ n, n ≠ front.length + 1 → after.line? n = before.line? n) :
    after.lines = front ++ new :: back := by
  apply List.ext_getElem?
  intro n
  rw [← line?_succ]
  rcases Nat.lt_trichotomy n front.length with ahead | rfl | behind
  · rw [others _ (by omega), line?_succ, lines, List.getElem?_append_left ahead,
      List.getElem?_append_left ahead]
  · simp [here]
  · obtain ⟨gap, rfl⟩ := Nat.exists_eq_add_of_lt behind
    rw [others _ (by omega), line?_succ, lines, List.getElem?_append_right (by omega),
      List.getElem?_append_right (by omega), Nat.add_assoc, Nat.add_sub_cancel_left]
    rfl

theorem not_marked_of_lines {b : Buffer} {front back : List Line}
    (lines : b.lines = front ++ back) (unmarked : Unmarked front) {n : Nat} (positive : n ≠ 0)
    (inside : n ≤ front.length) : b.marked? n ≠ some true := by
  obtain ⟨n, rfl⟩ := Nat.exists_eq_succ_of_ne_zero positive
  intro marked
  obtain ⟨line, found, isMarked⟩ := marked?_eq_some_iff.1 marked
  rw [line?_succ, lines, List.getElem?_append_left inside] at found
  rw [unmarked line (List.mem_of_getElem? found)] at isMarked
  cases isMarked

end Buffer

namespace Procedure

variable {body : Command} {session : Session}

-- Where no line is marked, the loop goes round once and ends.
theorem replayFrom_unmarked (unmarked : Unmarked session.buffer.lines) (position idle : Nat) :
    replayFrom body position idle session = (.ok ⟨⟩, session) := by
  have none {n : Nat} (positive : n ≠ 0) : session.buffer.marked? n ≠ some true := by
    intro marked
    have inside : n ≤ session.buffer.lines.length := by
      obtain ⟨line, found, _⟩ := Buffer.marked?_eq_some_iff.1 marked
      obtain ⟨inside, _⟩ := Array.getElem?_eq_some_iff.1 found
      rw [session.buffer.size_eq] at inside
      rw [Buffer.length_lines]
      exact Nat.le_of_lt_succ inside
    exact Buffer.not_marked_of_lines (List.append_nil _).symm unmarked positive inside marked
  fun_induction replayFrom body position idle session with
  | case1 => rfl
  | case2 position _ _ _ marked => exact absurd marked.2 (none marked.1)
  | case3 position _ _ _ marked => exact absurd marked.2 (none marked.1)
  | case4 _ _ _ _ _ ih => exact ih unmarked none

theorem replayFrom_pass {front back : List Line} (lines : session.buffer.lines = front ++ back)
    (unmarked : Unmarked front) (some : back ≠ []) {position idle : Nat} (positive : position ≠ 0)
    {steps : Nat} (arrives : position + steps = front.length + 1) (slow : idle < position) :
    replayFrom body position idle session
      = replayFrom body (front.length + 1) (idle + steps) session := by
  induction steps generalizing position idle with
  | zero => rw [← arrives]; rfl
  | succ steps ih =>
    have last : session.buffer.last = front.length + back.length := by
      rw [← Buffer.length_lines, lines, List.length_append]
    have ahead : 0 < back.length := List.length_pos_iff.2 some
    have notMarked := Buffer.not_marked_of_lines lines unmarked positive (by omega)
    have next : session.buffer.nextLine position = position + 1 := if_neg (by omega)
    rw [replayFrom_skip (by omega) fun marked => notMarked marked.2, next,
      ih (Nat.succ_ne_zero position) (by omega) (Nat.succ_lt_succ slow)]
    congr 1
    omega

/-- What every visit to the first marked line keeps, the loop keeps, and it ends without a failure
and without a mark. A visit may do what it likes, as long as no mark comes to stand before the place
where it found the line. -/
theorem replayFrom_sweeps (Inv : Session → Prop)
    (visits : ∀ {session : Session} {front back : List Line} {line : Line}, Inv session →
      session.buffer.lines = front ++ line :: back → Unmarked front → line.marked = true →
        ∃ after, (visit body (front.length + 1)).run session = (.ok ⟨⟩, after) ∧ Inv after
          ∧ Unmarked (after.buffer.lines.take front.length))
    (holds : Inv session) {position : Nat} (positive : position ≠ 0)
    (before : Unmarked (session.buffer.lines.take (position - 1))) :
    ∃ after, replayFrom body position 0 session = (.ok ⟨⟩, after) ∧ Inv after
      ∧ Unmarked after.buffer.lines := by
  -- Each visit takes a mark away.
  induction marks : session.buffer.markCount using Nat.strongRecOn
    generalizing session position with
  | ind marks ih =>
    rcases unmarked_or_first_marked session.buffer.lines with none | ⟨front, line, back, found⟩
    · exact ⟨session, replayFrom_unmarked none position 0, holds, none⟩
    · obtain ⟨lines, unmarked, marked⟩ := found
      have reached : position ≤ front.length + 1 := by
        apply Nat.le_of_not_lt
        intro past
        have member : line ∈ session.buffer.lines.take (position - 1) := by
          rw [lines, List.mem_take_iff_getElem]
          exact ⟨front.length, by simp; omega, by simp⟩
        rw [before line member] at marked
        cases marked
      have here := Buffer.line?_of_lines lines
      have isMarked := Buffer.marked?_eq_some_iff.2 ⟨line, here, marked⟩
      obtain ⟨after, ran, kept, left⟩ := visits holds lines unmarked marked
      have fewer := markCount_visit body isMarked
      rw [ran, marks] at fewer
      obtain ⟨final, ended, finished⟩ :=
        ih _ fewer kept (Nat.succ_ne_zero front.length) left rfl
      refine ⟨final, ?_, finished⟩
      have last : front.length + 1 ≤ session.buffer.last := by
        rw [← Buffer.length_lines, lines, List.length_append, List.length_cons]
        omega
      obtain ⟨steps, arrives⟩ := Nat.exists_eq_add_of_le reached
      rw [replayFrom_pass lines unmarked (List.cons_ne_nil line back) positive arrives.symm
        (Nat.pos_of_ne_zero positive), replayFrom_visit (by omega)
        ⟨Nat.succ_ne_zero _, isMarked⟩, ran]
      exact ended

end Procedure

/-! ### Lines with and without marks -/

def Line.unmark (line : Line) : Line := { line with marked := false }

/-- The addresses of the command name these lines of the text, and its pattern means this
expression. -/
structure Global.Selects (global : Global) (session : Session) (range : Range) (regex : Regex) :
    Prop where
  within : range.Within session.buffer.last
  found : ∃ looked editor active,
    global.addresses.resolve.run session.editor = (.ok looked, editor)
      ∧ looked.settle 1 editor.buffer.last = .ok range
      ∧ editor.active.use (Pattern.unescapeDelimiter global.pattern global.delimiter) false
        = .ok (regex, active)

theorem Global.Selects.congr {global : Global} {session : Session} {range : Range} {regex : Regex}
    (selects : global.Selects session range regex) (invert : Bool) (body : Command) :
    Global.Selects { global with invert, body } session range regex :=
  ⟨selects.within, selects.found⟩

/-! ### Lines with and without marks -/

/-- The marked ones of the lines, without their marks. -/
def markedOf (lines : List Line) : List Line := (lines.filter (·.marked)).map Line.unmark

def unmarkedOf (lines : List Line) : List Line := lines.filter (!·.marked)

theorem markedOf_append (front back : List Line) :
    markedOf (front ++ back) = markedOf front ++ markedOf back := by
  rw [markedOf, List.filter_append, List.map_append, markedOf, markedOf]

theorem unmarkedOf_append (front back : List Line) :
    unmarkedOf (front ++ back) = unmarkedOf front ++ unmarkedOf back := List.filter_append ..

theorem markedOf_cons {line : Line} (marked : line.marked = true) (rest : List Line) :
    markedOf (line :: rest) = line.unmark :: markedOf rest := by
  rw [markedOf, List.filter_cons_of_pos marked, List.map_cons, markedOf]

theorem unmarkedOf_cons {line : Line} (marked : line.marked = true) (rest : List Line) :
    unmarkedOf (line :: rest) = unmarkedOf rest :=
  List.filter_cons_of_neg (by simp [marked])

namespace Unmarked
variable {lines : List Line}

theorem markedOf (unmarked : Unmarked lines) : markedOf lines = [] := by
  rw [LineEditor.markedOf, List.filter_eq_nil_iff.2, List.map_nil]
  intro line member
  simp [unmarked line member]

theorem unmarkedOf (unmarked : Unmarked lines) : unmarkedOf lines = lines := by
  apply List.filter_eq_self.2
  intro line member
  simp [unmarked line member]

end Unmarked

theorem unmarked_map_unmark (lines : List Line) : Unmarked (lines.map Line.unmark) := by
  intro line member
  obtain ⟨_, _, rfl⟩ := List.mem_map.1 member
  rfl

/-! ### The lines that are picked -/

namespace Buffer

def block (b : Buffer) (range : Range) : List Line :=
  (b.lines.take range.final).drop (range.first - 1)

/-- The lines of the range that match, or those that do not. -/
def picked (b : Buffer) (regex : Regex) (range : Range) (invert : Bool) : List Line :=
  (b.block range).filter fun line => regex.matchesLine line.text != invert

def unpicked (b : Buffer) (regex : Regex) (range : Range) (invert : Bool) : List Line :=
  b.lines.take (range.first - 1)
    ++ (b.picked regex range (!invert) ++ b.lines.drop range.final)

theorem picked_not (b : Buffer) (regex : Regex) (range : Range) (invert : Bool) :
    b.picked regex range (!invert)
      = (b.block range).filter fun line => !(regex.matchesLine line.text != invert) := by
  rw [picked]
  congr 1
  funext line
  cases regex.matchesLine line.text <;> cases invert <;> rfl

theorem picked_perm_block (b : Buffer) (regex : Regex) (range : Range) (invert : Bool) :
    (b.picked regex range invert ++ b.picked regex range !invert).Perm (b.block range) := by
  rw [picked_not, picked]
  exact List.filter_append_perm _ _

-- The text in three pieces: before the range, the range, and behind it.
theorem exists_pieces {b : Buffer} {range : Range} (within : range.Within b.last) :
    ∃ front back, b.lines = front ++ (b.block range ++ back)
      ∧ b.lines.take (range.first - 1) = front ∧ b.lines.drop range.final = back
      ∧ range.first = front.length + 1
      ∧ range.final = front.length + (b.block range).length := by
  obtain ⟨front, block, back, lines, starts, ends⟩ := exists_block within.positive within.ordered
    (Nat.le_trans within.final_le (Nat.le_of_eq b.length_lines.symm))
  have same : b.block range = block := by
    rw [Buffer.block, lines, starts, ends, List.take_length_add_append]
    simp
  rw [same, lines, starts, ends, Nat.add_sub_cancel, List.take_left, List.drop_length_add_append,
    List.drop_left]
  exact ⟨front, back, rfl, rfl, rfl, rfl, rfl⟩

theorem picked_perm_lines {b : Buffer} {range : Range} (within : range.Within b.last)
    (regex : Regex) (invert : Bool) :
    (b.picked regex range invert ++ b.unpicked regex range invert).Perm b.lines := by
  obtain ⟨front, back, lines, before, behind, _, _⟩ := exists_pieces within
  rw [unpicked, before, behind, lines]
  refine List.perm_append_comm_assoc _ _ _ |>.trans (List.Perm.append_left front ?_)
  rw [← List.append_assoc]
  exact (b.picked_perm_block regex range invert).append_right back

/-! ### Marking them -/

theorem markLines_lines_eq (b : Buffer) (regex : Regex) (range : Range) (invert : Bool) :
    (b.markLines regex range invert).lines = b.lines.mapIdx fun n line =>
      { line with
        marked := range.first ≤ n + 1 && n + 1 ≤ range.final
          && regex.matchesLine line.text != invert } := by
  obtain ⟨zero, _, whole⟩ := b.slots_toList
  rw [lines, markLines, Array.toList_mapIdx, whole, List.mapIdx_cons, List.tail_cons]
  rfl

theorem markLines_pieces {b : Buffer} {range : Range} (within : range.Within b.last)
    (regex : Regex) (invert : Bool) :
    (b.markLines regex range invert).lines
      = (b.lines.take (range.first - 1)).map Line.unmark
        ++ ((b.block range).map (fun line =>
          { line with marked := regex.matchesLine line.text != invert })
        ++ (b.lines.drop range.final).map Line.unmark) := by
  obtain ⟨front, back, lines, before, behind, starts, ends⟩ := exists_pieces within
  rw [markLines_lines_eq, before, behind, lines, List.mapIdx_append, List.mapIdx_append]
  congr 1
  · apply List.ext_getElem (by rw [List.length_mapIdx, List.length_map])
    intro n inside _
    rw [List.length_mapIdx] at inside
    have outside : ¬range.first ≤ n + 1 := by omega
    rw [List.getElem_mapIdx, List.getElem_map, decide_eq_false outside, Bool.false_and,
      Bool.false_and, Line.unmark]
  congr 1
  · apply List.ext_getElem (by rw [List.length_mapIdx, List.length_map])
    intro n inside _
    rw [List.length_mapIdx] at inside
    have low : range.first ≤ n + front.length + 1 := by omega
    have high : n + front.length + 1 ≤ range.final := by omega
    rw [List.getElem_mapIdx, List.getElem_map, decide_eq_true low, decide_eq_true high,
      Bool.true_and, Bool.true_and]
  · apply List.ext_getElem (by rw [List.length_mapIdx, List.length_map])
    intro n _ _
    have outside : ¬n + (b.block range).length + front.length + 1 ≤ range.final := by omega
    rw [List.getElem_mapIdx, List.getElem_map, decide_eq_false outside, Bool.and_false,
      Bool.false_and, Line.unmark]

theorem markedOf_markLines {b : Buffer} {range : Range} (within : range.Within b.last)
    (regex : Regex) (invert : Bool) :
    markedOf (b.markLines regex range invert).lines
      = (b.picked regex range invert).map Line.unmark := by
  rw [markLines_pieces within, markedOf_append, markedOf_append,
    (unmarked_map_unmark _).markedOf, (unmarked_map_unmark _).markedOf, List.nil_append,
    List.append_nil, markedOf, List.filter_map, List.map_map]
  rfl

theorem unmarkedOf_markLines {b : Buffer} {range : Range} (within : range.Within b.last)
    (regex : Regex) (invert : Bool) :
    unmarkedOf (b.markLines regex range invert).lines
      = (b.unpicked regex range invert).map Line.unmark := by
  rw [markLines_pieces within, unmarkedOf_append, unmarkedOf_append,
    (unmarked_map_unmark _).unmarkedOf, (unmarked_map_unmark _).unmarkedOf, unpicked,
    List.map_append, List.map_append]
  congr 2
  rw [unmarkedOf, List.filter_map, picked_not]
  apply List.map_congr_left
  intro line member
  have passed : (regex.matchesLine line.text != invert) = false :=
    Bool.not_eq_true' _ ▸ (List.mem_filter.1 member).2
  rw [passed, Line.unmark]

theorem unmarked_before_markLines {b : Buffer} {range : Range} (within : range.Within b.last)
    (regex : Regex) (invert : Bool) :
    Unmarked ((b.markLines regex range invert).lines.take (range.first - 1)) := by
  obtain ⟨front, _, _, before, _, starts, _⟩ := exists_pieces within
  rw [markLines_pieces within, before, starts, Nat.add_sub_cancel, List.take_left' (by simp)]
  exact unmarked_map_unmark front

end Buffer

/-! ### The global command -/

namespace Procedure
variable {session : Session}

theorem run_markGlobal {global : Global} {range : Range} {regex : Regex}
    (selects : global.Selects session range regex) :
    ∃ editor, (markGlobal global).run session = (.ok range.first, { session with editor })
      ∧ editor.buffer.lines = (session.buffer.markLines regex range global.invert).lines
      ∧ editor.active = { session.editor.active with regex := some regex } := by
  obtain ⟨looked, editor, active, resolved, settled, used⟩ := selects.found
  have same := global.addresses.resolve_sameLines.of_run resolved
  have reading := global.addresses.resolve_sameReading.of_run resolved
  have settled : looked.settle 1 (Session.buffer { session with editor }).last = .ok range :=
    settled
  refine ⟨⟨editor.buffer.markLines regex range global.invert, active⟩, ?_, ?_, ?_⟩
  · rw [markGlobal, run_bind, run_edit, resolved]
    dsimp only
    rw [run_buffer_bind, run_bind, run_settle settled]
    dsimp only
    rw [run_bind, run_edit, Edit.run_usePattern used]
    rfl
  · rw [Buffer.markLines_lines_eq, Buffer.markLines_lines_eq]
    exact congrArg _ same.lines
  · rw [ActivePattern.eq_of_use used]
    obtain ⟨engine, flavor⟩ := reading
    rw [ActivePattern.mk.injEq]
    exact ⟨engine, flavor, rfl⟩

-- At a visit the body finds the line without its mark, and current.
theorem run_visit {front back : List Line} {line : Line}
    (lines : session.buffer.lines = front ++ line :: back) (body : Command) :
    ∃ zero b, b.Consists (zero :: front ++ line.unmark :: back) (front.length + 1)
      ∧ (visit body (front.length + 1)).run session
        = (execute body true).run { session with editor.buffer := b } := by
  obtain ⟨zero, _, whole⟩ := session.buffer.slots_toList
  have consists : session.buffer.Consists (zero :: front ++ line :: back) session.buffer.current :=
    ⟨by rw [List.cons_append, ← lines]; exact whole, rfl⟩
  obtain ⟨b, ran, changed⟩ := consists.modifyLine (n := front.length + 1) rfl
    ({ · with marked := false })
  refine ⟨zero, b.setCurrent (front.length + 1), ⟨changed.slots, ?_⟩, ?_⟩
  · rw [Buffer.setCurrent, changed.last]
    simp
  · rw [visit, run_bind, run_change ran]
    rfl

theorem run_visit_action {front back : List Line} {line : Line}
    (lines : session.buffer.lines = front ++ line :: back) (action : Action) :
    ∃ zero b, b.Consists (zero :: front ++ line.unmark :: back) (front.length + 1)
      ∧ Range.settle ⟨b.current, b.current, 0⟩ b.current b.current
        = .ok ⟨front.length + 1, front.length + 1, 0⟩
      ∧ (visit { action } (front.length + 1)).run session
        = (perform action ⟨b.current, b.current, 0⟩ true).run
          { session with editor.buffer := b } := by
  obtain ⟨zero, b, consists, ran⟩ := run_visit lines { action }
  refine ⟨zero, b, consists, ?_, ?_⟩
  · rw [consists.current]
    simp [Range.settle, Range.withDefault, Range.check]
  · rw [ran]
    exact run_execute rfl (AddressList.run_resolve_none _) true

/-- A body that works at every visit, and then leaves no mark before the line that it was for, does
not fail under a global command. What its visits keep holds in the end, and no mark is left. -/
theorem run_executeGlobal_sweeps (Inv : Session → Prop) {global : Global}
    (visits : ∀ {session : Session} {front back : List Line} {line : Line}, Inv session →
      session.buffer.lines = front ++ line :: back → Unmarked front → line.marked = true →
        ∃ after, (visit global.body (front.length + 1)).run session = (.ok ⟨⟩, after) ∧ Inv after
          ∧ Unmarked (after.buffer.lines.take front.length))
    {range : Range} {regex : Regex} (selects : global.Selects session range regex)
    (starts : ∀ editor : Editor,
      editor.buffer.lines = (session.buffer.markLines regex range global.invert).lines →
        editor.active = { session.editor.active with regex := some regex } →
          Inv { session with editor }) :
    ∃ after, (executeGlobal global).run session = (.ok ⟨⟩, after) ∧ Inv after
      ∧ Unmarked after.buffer.lines := by
  obtain ⟨editor, marked, lines, active⟩ := run_markGlobal selects
  rw [run_executeGlobal_marked marked]
  refine replayFrom_sweeps Inv visits (starts editor lines active)
    (Nat.ne_of_gt selects.within.positive) ?_
  rw [Session.buffer, lines]
  exact Buffer.unmarked_before_markLines selects.within regex global.invert

/-- Where each visit does its part of an arrangement of the lines, in which nothing is to be done
once no line is marked, the global command arranges the lines that it marked. -/
theorem run_executeGlobal_arranges (arrange : List Line → List Line) {global : Global}
    (settled : ∀ {lines : List Line}, Unmarked lines → arrange lines = lines)
    (visits : ∀ {session : Session} {front back : List Line} {line : Line},
      session.buffer.lines = front ++ line :: back → Unmarked front → line.marked = true →
        ∃ after, (visit global.body (front.length + 1)).run session = (.ok ⟨⟩, after)
          ∧ arrange after.buffer.lines = arrange (front ++ line :: back)
          ∧ Unmarked (after.buffer.lines.take front.length))
    {range : Range} {regex : Regex} (selects : global.Selects session range regex) :
    ∃ after, (executeGlobal global).run session = (.ok ⟨⟩, after)
      ∧ after.buffer.lines
        = arrange (session.buffer.markLines regex range global.invert).lines := by
  let target := arrange (session.buffer.markLines regex range global.invert).lines
  obtain ⟨after, ran, arranged, unmarked⟩ := run_executeGlobal_sweeps
    (fun state => arrange state.buffer.lines = target)
    (fun holds lines unmarked marked => by
      obtain ⟨after, ran, same, left⟩ := visits lines unmarked marked
      exact ⟨after, ran, same.trans (lines ▸ holds), left⟩)
    selects (fun _ lines _ => congrArg arrange lines)
  exact ⟨after, ran, (settled unmarked).symm.trans arranged⟩

end Procedure

/-! ### A selection -/

def letterA : Regex :=
  .ofProgram ['a'] ⟨#[.accept, .save 1 0, .char 'a' 1, .save 0 2], 3, 2⟩

/-- Lines a, b, ca and a. -/
def linesWithA : Session := .typed [97, 10, 98, 10, 99, 97, 10, 97, 10, 46, 10]

def withA (body : Command) : Global :=
  { addresses := [(⟨.line 1, 0⟩, .comma), (⟨.line 3, 0⟩, .nothing)], pattern := ['a'],
    delimiter := '/', body }

set_option maxRecDepth 100000 in
theorem withA_selects (body : Command) :
    (withA body).Selects linesWithA ⟨1, 3, 2⟩ letterA := by
  refine ⟨⟨by decide, by decide, ?_⟩, ⟨1, 3, 2⟩, linesWithA.editor,
    ⟨Regex.engine, .perl, some letterA⟩, ?_, ?_, ?_⟩ <;> cbv

end LineEditor
