import Mathlib
import LineEditor.Proofs.Bounds.Session
import LineEditor.Proofs.Equations
import LineEditor.Proofs.Listing
import LineEditor.Proofs.Lookup.Walk

/-!
Moving lines. They are cut out of the text in one piece and put in again right after another line,
and the line that was last of them is current. The three reversals that do it find their target in
front of the block or behind it, and a number for the current line is counted apart from them; both
come to the same place.
-/

namespace LineEditor

/-- Lines `first` up to `final` come to stand right after the line that was line `target`, and all
others stay in their order. The line that was line `final` has the number `current` then. -/
inductive Relocated (first final target : Nat) : List Line → List Line → Nat → Prop where
  -- Towards the front, past the lines that stand between the target and the block.
  | back {front between block rest : List Line} (stands : target = front.length)
      (starts : first = front.length + between.length + 1)
      (ends : final = front.length + between.length + block.length) :
      Relocated first final target (front ++ (between ++ (block ++ rest)))
        (front ++ (block ++ (between ++ rest))) (front.length + block.length)
  -- Towards the end, past the lines behind the block, the last of which is the target.
  | forth {front block between rest : List Line} (starts : first = front.length + 1)
      (ends : final = front.length + block.length) (stands : target = final + between.length) :
      Relocated first final target (front ++ (block ++ (between ++ rest)))
        (front ++ (between ++ (block ++ rest))) (front.length + between.length + block.length)

theorem getElem?_last_of_block {front block rest : List Line} (some : block ≠ []) :
    (front ++ (block ++ rest))[front.length + block.length - 1]? = block.getLast? := by
  have count := List.length_pos_iff.2 some
  rw [Nat.add_sub_assoc count, List.getElem?_append_right (Nat.le_add_right _ _),
    Nat.add_sub_cancel_left, List.getElem?_append_left (Nat.sub_lt count Nat.one_pos),
    List.getLast?_eq_getElem?]

namespace Relocated
variable {first final target current : Nat} {before after : List Line}

theorem perm (relocated : Relocated first final target before after current) :
    after.Perm before := by
  cases relocated with
  | back => exact .append_left _ (List.perm_append_comm_assoc _ _ _)
  | forth => exact .append_left _ (List.perm_append_comm_assoc _ _ _)

theorem getElem?_final (relocated : Relocated first final target before after current)
    (ordered : first ≤ final) : after[current - 1]? = before[final - 1]? := by
  cases relocated with
  | @back front between block rest _ starts ends =>
    have some : block ≠ [] := by
      rintro rfl
      rw [List.length_nil] at ends
      omega
    rw [getElem?_last_of_block some, ends, ← List.append_assoc front, ← List.length_append,
      getElem?_last_of_block some]
  | @forth front block between rest starts ends _ =>
    have some : block ≠ [] := by
      rintro rfl
      rw [List.length_nil] at ends
      omega
    rw [← List.append_assoc front, ← List.length_append, getElem?_last_of_block some, ends,
      getElem?_last_of_block some]

theorem current_pos (relocated : Relocated first final target before after current)
    (ordered : first ≤ final) : 0 < current := by
  cases relocated <;> omega

theorem current_le (relocated : Relocated first final target before after current) :
    current ≤ after.length := by
  cases relocated <;> simp only [List.length_append] <;> omega

end Relocated

/-! ### Blocks of a buffer -/

namespace Buffer

theorem line?_of_pos {b : Buffer} {n : Nat} (positive : 0 < n) : b.line? n = b.lines[n - 1]? := by
  rw [← line?_succ, Nat.sub_add_cancel positive]

-- The target is in front of the block, or it is the last line of the block or behind it.
theorem moveBlock_relocates {b : Buffer} (sound : b.Sound) {range : Range} {target : Nat}
    (within : range.Within b.last) (target_le : target ≤ b.last)
    (outside : ¬(range.first ≤ target ∧ target < range.final)) :
    ∃ after, b.moveBlock range.first range.final target = .ok after
      ∧ after.Sound
      ∧ Relocated range.first range.final target b.lines after.lines
        (if range.final ≤ target then target else target + (range.final - range.first) + 1) := by
  obtain ⟨positive, ordered, final_le⟩ := within
  have consists := sound.consists
  have current_le := sound.current_le
  rw [← b.length_lines] at final_le target_le current_le
  obtain ⟨front, block, rest, lines, starts, ends⟩ := exists_block positive ordered final_le
  rw [lines] at consists target_le current_le ⊢
  by_cases behind : range.final ≤ target
  · simp only [List.length_append] at target_le
    obtain ⟨between, rest, rfl, stands⟩ :=
      exists_front (show target - range.final ≤ rest.length by omega)
    have whole : b.Consists (({} :: front) ++ (block ++ (between ++ rest))) b.current := consists
    obtain ⟨after, ran, moved⟩ := whole.moveBlock_forth range.first range.final target starts
      (by omega) (by omega)
    rw [List.cons_append] at moved
    have place : target = front.length + between.length + block.length := by omega
    refine ⟨after, ran, moved.sound (by simp at current_le ⊢; omega), ?_⟩
    rw [if_pos behind, moved.lines]
    nth_rewrite 2 [place]
    exact .forth starts ends (by omega)
  · obtain ⟨front, between, rfl, stands⟩ := exists_front (show target ≤ front.length by omega)
    rw [List.length_append] at starts ends
    have whole : b.Consists (({} :: front) ++ (between ++ (block ++ rest))) b.current := by
      simpa using consists
    obtain ⟨after, ran, moved⟩ := whole.moveBlock_back range.first range.final target
      (by simp [stands]) (by simp; omega) (by omega)
    rw [List.cons_append] at moved
    have place : target + (range.final - range.first) + 1 = front.length + block.length := by omega
    refine ⟨after, ran, moved.sound (by simp at current_le ⊢; omega), ?_⟩
    rw [if_neg behind, moved.lines, List.append_assoc, place]
    exact .back stands.symm starts ends

end Buffer

/-! ### The command -/

namespace Range
variable {range : Range} {first final : Nat}

theorem settle_of_valid (positive : 0 < (range.withDefault first final).first)
    (ordered : (range.withDefault first final).first ≤ (range.withDefault first final).final) :
    range.settle first final = .ok (range.withDefault first final) :=
  if_neg (by omega)

theorem settle_of_invalid (invalid : ¬(0 < (range.withDefault first final).first
      ∧ (range.withDefault first final).first ≤ (range.withDefault first final).final)) :
    range.settle first final = .error .invalidRange :=
  if_pos (by omega)

end Range

namespace Procedure
variable {session : Session}

theorem run_print_current (sound : session.buffer.Sound) (positive : 0 < session.buffer.current) :
    ∃ outcome output,
      (print session.buffer.current session.buffer.current false).run session
          = (outcome, { session with output })
        ∧ (outcome = .ok ⟨⟩ ∨ ¬session.output.Unlimited
          ∧ ∃ refusal, outcome = .error (.failed (.output refusal))) := by
  obtain ⟨text, there⟩ := Buffer.text?_isSome sound.current_le
  have here : session.buffer.setCurrent session.buffer.current = session.buffer := by
    rw [Buffer.setCurrent, Nat.min_eq_left sound.current_le]
  rw [run_print_one positive there, run_bind, run_write]
  rcases written : session.output.write (Utf8.encode text) with ⟨output, _ | refusal⟩
  · refine ⟨.ok ⟨⟩, output, ?_, .inl rfl⟩
    dsimp only
    rw [run_setCurrent]
    change (_, { session with output, editor.buffer := session.buffer.setCurrent session.buffer.current }) = _
    rw [here]
    rfl
  · refine ⟨_, output, rfl, .inr ⟨fun unlimited => ?_, refusal, rfl⟩⟩
    rw [Output.write_unlimited unlimited] at written
    cases written

-- A command that did its work and left a line current can then only fail for the output.
theorem run_execute_done {command : Command} {range : Range} {editor : Editor} {after : Session}
    {underGlobal : Bool}
    (looked : command.addresses.resolve.run session.editor = (.ok range, editor))
    (performed : (perform command.action range underGlobal).run { session with editor }
      = (.ok ⟨⟩, after)) (sound : after.buffer.Sound) (positive : 0 < after.buffer.current) :
    ∃ outcome output,
      (execute command underGlobal).run session = (outcome, { after with output })
        ∧ (outcome = .ok ⟨⟩ ∨ command.print = true ∧ ¬after.output.Unlimited
          ∧ ∃ refusal, outcome = .error (.failed (.output refusal))) := by
  rw [run_execute_performed looked performed]
  by_cases asked : command.print = true
  · rw [if_pos ⟨asked, positive⟩]
    obtain ⟨outcome, output, printed, ends⟩ := run_print_current sound positive
    exact ⟨outcome, output, printed, ends.imp_right fun refused => ⟨asked, refused⟩⟩
  · rw [if_neg fun both => asked both.1]
    exact ⟨.ok ⟨⟩, after.output, rfl, .inl rfl⟩

theorem run_move (session : Session) {range : Range} {target : Nat} (sound : session.buffer.Sound)
    (within : range.Within session.buffer.last) (target_le : target ≤ session.buffer.last)
    (outside : ¬(range.first ≤ target ∧ target < range.final)) :
    ∃ after, (move range target).run session = (.ok ⟨⟩, { session with editor.buffer := after })
      ∧ after.Sound
      ∧ Relocated range.first range.final target session.buffer.lines after.lines after.current := by
  obtain ⟨moved, ran, moved_sound, relocated⟩ :=
    Buffer.moveBlock_relocates sound within target_le outside
  generalize place : (if range.final ≤ target then target
    else target + (range.final - range.first) + 1) = n at relocated
  have n_le := relocated.current_le
  rw [Buffer.length_lines] at n_le
  have current : (moved.setCurrent n).current = n := Nat.min_eq_left n_le
  refine ⟨moved.setCurrent n, ?_, Buffer.setCurrent_sound moved_sound n, ?_⟩
  · rw [move, if_neg outside, run_bind, run_change ran, ← place]
    dsimp only
    split
    · rfl
    · rw [run_bind, run_edit, Edit.run_minus within.ordered]
      rfl
  · rw [current]
    exact relocated

section Execute
variable {command : Command} {destination : Address} {range : Range} {target : Nat}
  {between looked : Editor}

theorem run_execute_move_invalid (moves : command.action = .move destination)
    (ranged : command.addresses.resolve.run session.editor = (.ok range, between))
    (targeted : destination.resolve.run between = (.ok target, looked))
    (invalid : range.settle between.buffer.current between.buffer.current = .error .invalidRange)
    (underGlobal : Bool) :
    (execute command underGlobal).run session
      = (.error (.failed .invalidRange), { session with editor := looked }) := by
  apply run_execute_stopped ranged
  rw [moves]
  exact run_perform_move_invalid { session with editor := between } targeted invalid underGlobal

theorem run_execute_move_inside (moves : command.action = .move destination)
    (ranged : command.addresses.resolve.run session.editor = (.ok range, between))
    (targeted : destination.resolve.run between = (.ok target, looked)) {settled : Range}
    (ran : range.settle between.buffer.current between.buffer.current = .ok settled)
    (inside : settled.first ≤ target ∧ target < settled.final) (underGlobal : Bool) :
    (execute command underGlobal).run session
      = (.error (.failed .invalidDestination), { session with editor := looked }) := by
  apply run_execute_stopped ranged
  rw [moves, run_perform_move_settled { session with editor := between } targeted ran underGlobal,
    move, if_pos inside]
  rfl

theorem run_execute_move_outside (sound : session.buffer.Sound)
    (moves : command.action = .move destination)
    (ranged : command.addresses.resolve.run session.editor = (.ok range, between))
    (targeted : destination.resolve.run between = (.ok target, looked)) {settled : Range}
    (ran : range.settle between.buffer.current between.buffer.current = .ok settled)
    (outside : ¬(settled.first ≤ target ∧ target < settled.final)) (underGlobal : Bool) :
    ∃ moved outcome output,
      (execute command underGlobal).run session
          = (outcome, { session with editor := { looked with buffer := moved }, output })
        ∧ Relocated settled.first settled.final target session.buffer.lines moved.lines
          moved.current
        ∧ (outcome = .ok ⟨⟩ ∨ command.print = true ∧ ¬session.output.Unlimited
          ∧ ∃ refusal, outcome = .error (.failed (.output refusal))) := by
  have same : session.buffer.SameLines between.buffer :=
    command.addresses.resolve_sameLines.of_run ranged
  obtain ⟨between_sound, ends⟩ := AddressList.within_of_resolved sound ranged
  obtain ⟨looked_eq, target_le⟩ := Address.le_of_resolved between_sound targeted
  let found : Session := { session with editor := looked }
  have found_eq : found.buffer = between.buffer := looked_eq
  have within := Range.settle_within ends between_sound.current_le ran
  rw [← found_eq] at between_sound within target_le same
  obtain ⟨moved, moves_there, moved_sound, relocated⟩ :=
    run_move found between_sound within target_le outside
  have performed : (perform command.action range underGlobal).run { session with editor := between }
      = (.ok ⟨⟩, { found with editor.buffer := moved }) := by
    rw [moves, run_perform_move_settled { session with editor := between } targeted ran underGlobal]
    exact moves_there
  rw [same.lines] at relocated
  obtain ⟨outcome, output, executed, finish⟩ := run_execute_done ranged performed moved_sound
    (relocated.current_pos within.ordered)
  exact ⟨moved, outcome, output, executed, relocated, finish⟩

end Execute

end Procedure

/-- A command to move lines whose addresses are found fails for its range exactly if that is not one
of lines in their order, and else for its destination exactly if that is a line of the range other
than the last; then all lines stay where they are, with their marks. Otherwise the lines of the
range stand right after the destination, in their order, and so do all the others around them; the
one that was last of the range is current. -/
theorem move_relocates {session : Session} (sound : session.buffer.Sound) {command : Command}
    {destination : Address} (moves : command.action = .move destination) {range : Range}
    {target : Nat} {between looked : Editor}
    (ranged : command.addresses.resolve.run session.editor = (.ok range, between))
    (targeted : destination.resolve.run between = (.ok target, looked)) (underGlobal : Bool) :
    let settled := range.withDefault between.buffer.current between.buffer.current
    let ended := (Procedure.execute command underGlobal).run session
    let valid := 0 < settled.first ∧ settled.first ≤ settled.final
    let inside := settled.first ≤ target ∧ target < settled.final
    (ended.1 = .error (.failed .invalidRange) ↔ ¬valid)
      ∧ (ended.1 = .error (.failed .invalidDestination) ↔ valid ∧ inside)
      ∧ (¬valid ∨ inside → session.buffer.SameLines ended.2.buffer)
      ∧ (valid ∧ ¬inside →
        Relocated settled.first settled.final target session.buffer.lines ended.2.buffer.lines
            ended.2.buffer.current
          ∧ ended.2.buffer.lines.Perm session.buffer.lines
          ∧ ended.2.buffer.line? ended.2.buffer.current = session.buffer.line? settled.final
          ∧ (command.print = false ∨ session.output.Unlimited → ended.1 = .ok ⟨⟩)) := by
  intro settled ended valid inside
  have looked_same : session.buffer.SameLines looked.buffer :=
    Buffer.SameLines.trans (command.addresses.resolve_sameLines.of_run ranged)
      (destination.resolve_sameLines.of_run targeted)
  by_cases isValid : valid
  · have ran : range.settle between.buffer.current between.buffer.current = .ok settled :=
      Range.settle_of_valid isValid.1 isValid.2
    by_cases isInside : inside
    · have stopped : ended = (.error (.failed .invalidDestination), _) :=
        Procedure.run_execute_move_inside moves ranged targeted ran isInside underGlobal
      rw [stopped]
      refine ⟨⟨?_, fun wrong => absurd isValid wrong⟩, ⟨fun _ => ⟨isValid, isInside⟩, fun _ => rfl⟩,
        fun _ => looked_same, fun outside => absurd isInside outside.2⟩
      rintro ⟨⟩
    · obtain ⟨moved, outcome, output, executed, relocated, finish⟩ :=
        Procedure.run_execute_move_outside sound moves ranged targeted ran isInside underGlobal
      have ended_eq : ended = _ := executed
      have noFailure : outcome ≠ .error (.failed .invalidRange)
          ∧ outcome ≠ .error (.failed .invalidDestination) := by
        obtain rfl | ⟨_, _, refusal, rfl⟩ := finish
        · constructor <;> rintro ⟨⟩
        · constructor <;> rintro ⟨⟩
      have same_line : moved.line? moved.current = session.buffer.line? settled.final := by
        rw [Buffer.line?_of_pos (relocated.current_pos isValid.2),
          relocated.getElem?_final isValid.2,
          Buffer.line?_of_pos (Nat.lt_of_lt_of_le isValid.1 isValid.2)]
      rw [ended_eq]
      refine ⟨⟨fun failed => absurd failed noFailure.1, fun wrong => absurd isValid wrong⟩,
        ⟨fun failed => absurd failed noFailure.2, fun right => absurd right.2 isInside⟩,
        ?_, fun _ => ⟨relocated, relocated.perm, same_line, ?_⟩⟩
      · rintro (wrong | wrong)
        · exact absurd isValid wrong
        · exact absurd wrong isInside
      · intro quiet
        obtain done | ⟨asked, limited, _⟩ := finish
        · exact done
        · obtain unasked | unlimited := quiet
          · exact absurd (asked.symm.trans unasked) Bool.noConfusion
          · exact absurd unlimited limited
  · have stopped : ended = (.error (.failed .invalidRange), _) :=
      Procedure.run_execute_move_invalid moves ranged targeted (Range.settle_of_invalid isValid)
        underGlobal
    rw [stopped]
    refine ⟨⟨fun _ => isValid, fun _ => rfl⟩, ⟨?_, fun right => absurd right.1 isValid⟩,
      fun _ => looked_same, fun right => absurd right.1 isValid⟩
    rintro ⟨⟩

def linesToD : Session := .typed [97, 10, 98, 10, 99, 10, 100, 10, 46, 10]

def moveLines (first final target : Nat) : Command where
  addresses := [({ term := .line first }, .comma), ({ term := .line final }, .nothing)]
  action := .move { term := .line target }

set_option maxRecDepth 100000 in
/-- `3,2m1` has no range and `2,3m2` no destination; `2,3m0` puts b and c in front. -/
theorem linesToD_relocates :
    ((Procedure.execute (moveLines 3 2 1) false).run linesToD).1 = .error (.failed .invalidRange)
      ∧ ((Procedure.execute (moveLines 2 3 2) false).run linesToD).1
        = .error (.failed .invalidDestination)
      ∧ let after := ((Procedure.execute (moveLines 2 3 0) false).run linesToD).2.buffer
        Relocated 2 3 0 linesToD.buffer.lines after.lines after.current
          ∧ after.lines.map (·.text) = [['b', '\n'], ['c', '\n'], ['a', '\n'], ['d', '\n']]
          ∧ after.line? after.current = linesToD.buffer.line? 3 := by
  have last : linesToD.editor.buffer.last = 4 := by cbv
  have sound : linesToD.buffer.Sound := (typed_reachable _).sound
  have relocates (first final target : Nat) (first_le : first ≤ 4) (final_le : final ≤ 4)
      (target_le : target ≤ 4) :=
    @move_relocates linesToD sound (moveLines first final target) _ rfl _ _ _ _
      (AddressList.run_resolve_lines (by rwa [last]) (by rwa [last]))
      (Address.run_resolve_line (by rwa [last])) false
  obtain ⟨invalid, -⟩ := relocates 3 2 1 (by decide) (by decide) (by decide)
  obtain ⟨-, inside, -⟩ := relocates 2 3 2 (by decide) (by decide) (by decide)
  obtain ⟨-, -, -, moved⟩ := relocates 2 3 0 (by decide) (by decide) (by decide)
  obtain ⟨relocated, -, final, -⟩ := moved (by decide)
  exact ⟨invalid.2 (by decide), inside.2 (by decide), relocated, by cbv, final⟩

end LineEditor
