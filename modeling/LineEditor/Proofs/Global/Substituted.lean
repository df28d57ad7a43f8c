import Mathlib
import LineEditor.Proofs.Global.Selection
import LineEditor.Proofs.Equations
import LineEditor.Proofs.Substitution

/-!
A global command whose body substitutes on the line it visits. Each line that is visited becomes
what the substitution makes of that line alone, in its place, and with a `p` the new texts are
written in their order.
-/

namespace LineEditor

namespace Substitution

/-- What a visit makes of a line: a new line with the new text where the replacement changes it, and
otherwise the line without its mark. -/
def Leaves (substitution : Substitution) (regex : Regex) (line after : Line) : Prop :=
  if substitution.Changes regex line.text then
    ∃ serial, after = { text := substitution.newText regex line.text, serial }
  else after = line.unmark

variable {substitution : Substitution} {regex : Regex} {line after : Line}

theorem newText_eq_of_not_changes {text : Text} (same : ¬substitution.Changes regex text) :
    substitution.newText regex text = text := by
  rw [newText, Decidable.not_not.1 same, Text.body_append_terminator]

theorem Leaves.text (leaves : substitution.Leaves regex line after) :
    after.text = substitution.newText regex line.text := by
  unfold Leaves at leaves
  split at leaves
  · obtain ⟨serial, rfl⟩ := leaves
    rfl
  · next same =>
    subst leaves
    exact (newText_eq_of_not_changes same).symm

theorem Leaves.unmarked (leaves : substitution.Leaves regex line after) :
    after.marked = false := by
  unfold Leaves at leaves
  split at leaves
  · obtain ⟨serial, rfl⟩ := leaves
    rfl
  · subst leaves
    rfl

def Handled (substitution : Substitution) (regex : Regex) (line now : Line) : Prop :=
  now = line ∨ line.marked = true ∧ substitution.Leaves regex line now

def newTexts (substitution : Substitution) (regex : Regex) (lines : List Line) : Bytes :=
  lines.flatMap fun line => Utf8.encode (substitution.newText regex line.text)

end Substitution

-- In a list that stands beside another one, an entry makes room for one that fits there, too.
theorem forall₂_replace {α β : Type} {R : α → β → Prop} {before : List α} {front back : List β}
    {old new : β} (related : List.Forall₂ R before (front ++ old :: back))
    (step : ∀ a, R a old → R a new) : List.Forall₂ R before (front ++ new :: back) := by
  induction front generalizing before with
  | nil =>
    cases related with
    | cons first rest => exact .cons (step _ first) rest
  | cons _ _ ih =>
    cases related with
    | cons first rest => exact .cons first (ih rest)

namespace Substitution
variable {substitution : Substitution} {regex : Regex}

theorem Rewrites.leaves {before after : Buffer} {front back : List Line} {line : Line}
    (lines : before.lines = front ++ line.unmark :: back)
    (current : before.current = front.length + 1)
    (rewrites : substitution.Rewrites regex
      (if substitution.Changes regex line.text then [front.length + 1] else []) before after) :
    ∃ new, after.lines = front ++ new :: back ∧ substitution.Leaves regex line new
      ∧ after.current = front.length + 1 := by
  have found := Buffer.line?_of_lines lines
  by_cases changes : substitution.Changes regex line.text
  · rw [if_pos changes] at rewrites
    obtain ⟨old, same, text, unmarked⟩ := rewrites.rewritten _ List.mem_cons_self
    rw [Buffer.text?, found] at same
    cases same
    obtain ⟨new, here, unmarked⟩ := Option.map_eq_some_iff.1 unmarked
    rw [Buffer.text?, here] at text
    obtain ⟨newText, marked, serial⟩ := new
    cases text
    cases unmarked
    refine ⟨_, Buffer.lines_of_replaced lines here ?_, ?_, rewrites.current⟩
    · intro n other
      exact rewrites.others n (by simpa using other)
    · rw [Leaves, if_pos changes]
      exact ⟨serial, rfl⟩
  · rw [if_neg changes] at rewrites
    obtain rfl := rewrites.untouched rfl
    exact ⟨_, lines, by rw [Leaves, if_neg changes], current⟩

theorem run_apply_here {editor : Editor} {front back : List Line} {line : Line}
    {active : ActivePattern} (lines : editor.buffer.lines = front ++ line.unmark :: back)
    (current : editor.buffer.current = front.length + 1)
    (used : editor.active.use
      (Pattern.unescapeDelimiter substitution.pattern substitution.delimiter)
      substitution.ignoreCase = .ok (regex, active)) :
    ∃ count after new, (substitution.apply ⟨front.length + 1, front.length + 1, 0⟩ true).run editor
        = (.ok count, ⟨after, active⟩)
      ∧ after.lines = front ++ new :: back ∧ substitution.Leaves regex line new
      ∧ after.current = front.length + 1 := by
  have text : editor.buffer.text? (front.length + 1) = some line.text := by
    rw [Buffer.text?, Buffer.line?_of_lines lines]
    rfl
  have inside : front.length + 1 + 1 ≤ editor.buffer.last + 1 := by
    rw [← Buffer.length_lines, lines]
    simp
  obtain ⟨after, ran, rewrites⟩ := @run_applyFrom substitution regex { editor with active }
    (front.length + 1) 1 (Nat.succ_pos _) inside
  dsimp only at ran rewrites
  rw [changedFrom_succ text] at rewrites
  obtain ⟨new, left⟩ := rewrites.leaves lines current
  refine ⟨(substitution.changedFrom regex editor.buffer (front.length + 1) 1).length, after, new,
    ?_, left⟩
  rw [apply, run_bind, Edit.run_usePattern used]
  dsimp only
  rw [Nat.add_sub_cancel_left, run_bind, ran]
  dsimp only
  rw [if_neg (by simp)]
  rfl

end Substitution

/-! ### One visit -/

namespace Procedure
variable {session : Session}

theorem run_print_line {n : Nat} {text : Text} (positive : 0 < n)
    (there : session.buffer.text? n = some text) (unlimited : session.output.Unlimited) :
    (print n n false).run session
      = (.ok ⟨⟩, { session with
          output := session.output.append (Utf8.encode text)
          editor.buffer := session.buffer.setCurrent n }) := by
  rw [run_print_one positive there, run_write_bind unlimited]
  rfl

variable {substitution : Substitution} {own : Regex} {active : ActivePattern} {print : Bool}

-- The line stays in its place, and is current when it is written.
theorem run_visit_substitute {front back : List Line} {line : Line}
    (lines : session.buffer.lines = front ++ line :: back)
    (used : session.editor.active.use
      (Pattern.unescapeDelimiter substitution.pattern substitution.delimiter)
      substitution.ignoreCase = .ok (own, active))
    (unlimited : print = true → session.output.Unlimited) :
    ∃ after new,
      (visit { action := .substitute substitution, print } (front.length + 1)).run session
        = (.ok ⟨⟩, after)
      ∧ after.buffer.lines = front ++ new :: back ∧ substitution.Leaves own line new
      ∧ after.editor.active = active
      ∧ after.output = session.output.append
          (if print then substitution.newTexts own [line] else []) := by
  obtain ⟨zero, b, consists, ran⟩ :=
    run_visit lines { action := .substitute substitution, print }
  have current := consists.current
  obtain ⟨count, after, new, applied, left, leaves, stayed⟩ :=
    @Substitution.run_apply_here substitution own { session.editor with buffer := b } _ _ _ _
      consists.lines current used
  have settled : Range.settle ⟨b.current, b.current, 0⟩ b.current b.current
      = .ok ⟨front.length + 1, front.length + 1, 0⟩ := by
    rw [current]
    simp [Range.settle, Range.withDefault, Range.check]
  let substituted := { session with editor := ⟨after, active⟩ }
  have performed : (perform (.substitute substitution) ⟨b.current, b.current, 0⟩ true).run
      { session with editor.buffer := b } = (.ok ⟨⟩, substituted) :=
    run_perform_substitute settled applied
  have executed : (execute { action := .substitute substitution, print } true).run
        { session with editor.buffer := b }
      = (if print = true ∧ 0 < after.current then Procedure.print after.current after.current false
        else pure ⟨⟩ : Procedure Unit).run substituted :=
    @run_execute_performed { session with editor.buffer := b }
      { action := .substitute substitution, print } _ _ substituted _
      (AddressList.run_resolve_none _) performed
  have written : after.text? (front.length + 1) = some (substitution.newText own line.text) := by
    rw [Buffer.text?, Buffer.line?_of_lines left, Option.map_some, leaves.text]
  rw [ran, executed, stayed]
  cases print with
  | false => exact ⟨substituted, new, rfl, left, leaves, rfl, (Output.append_nil _).symm⟩
  | true =>
    rw [if_pos ⟨rfl, Nat.succ_pos _⟩, @run_print_line substituted _ _ (Nat.succ_pos _) written
      (unlimited rfl)]
    exact ⟨_, new, rfl, left, leaves, rfl, by simp [substituted, Substitution.newTexts]⟩

/-! ### All the visits -/

/-- On the way: each line is as it was marked, or was visited, and what was written is all that is
to be written but for the lines that are still marked. -/
structure Substituting (substitution : Substitution) (own : Regex) (active : ActivePattern)
    (print : Bool) (start : List Line) (target : Output) (now : Session) : Prop where
  lines : List.Forall₂ (substitution.Handled own) start now.buffer.lines
  used : now.editor.active.use
    (Pattern.unescapeDelimiter substitution.pattern substitution.delimiter)
    substitution.ignoreCase = .ok (own, active)
  unlimited : print = true → now.output.Unlimited
  output : now.output.append
    (if print then substitution.newTexts own (markedOf now.buffer.lines) else []) = target

theorem Substituting.visit {start front back : List Line} {line : Line} {target : Output}
    (on : Substituting substitution own active print start target session)
    (lines : session.buffer.lines = front ++ line :: back) (unmarked : Unmarked front)
    (marked : line.marked = true) :
    ∃ after,
      (Procedure.visit { action := .substitute substitution, print } (front.length + 1)).run session
        = (.ok ⟨⟩, after)
      ∧ Substituting substitution own active print start target after
      ∧ Unmarked (after.buffer.lines.take front.length) := by
  obtain ⟨after, new, ran, left, leaves, used, output⟩ :=
    run_visit_substitute lines on.used on.unlimited
  refine ⟨after, ran, ⟨?_, ?_, ?_, ?_⟩, ?_⟩
  · have handled := on.lines
    rw [lines] at handled
    rw [left]
    apply forall₂_replace handled
    rintro old (rfl | ⟨_, before⟩)
    · exact .inr ⟨marked, leaves⟩
    · rw [before.unmarked] at marked
      cases marked
  · rw [used]
    exact ActivePattern.use_again on.used
  · intro asked
    rw [output]
    exact on.unlimited asked
  · have rest : markedOf (front ++ new :: back) = markedOf back := by
      have visited : Unmarked [new] := List.forall_mem_singleton.2 leaves.unmarked
      rw [← List.singleton_append, markedOf_append, markedOf_append, unmarked.markedOf,
        visited.markedOf]
      rfl
    have pending : markedOf (front ++ line :: back) = line.unmark :: markedOf back := by
      rw [markedOf_append, unmarked.markedOf, markedOf_cons marked, List.nil_append]
    rw [← on.output, output, Output.append_append, left, lines, rest, pending]
    cases print with
    | false => rfl
    | true => simp [Substitution.newTexts, Line.unmark]
  · rwa [left, List.take_left]

end Procedure

/-- A global command with this range, expression and letter is for line `n`, which has this text. -/
def Range.picks (range : Range) (regex : Regex) (invert : Bool) (n : Nat) (text : Text) : Bool :=
  range.first ≤ n && n ≤ range.final && regex.matchesLine text != invert

/-- Every line that the command is for is what the substitution makes of it, every other one is as
it was, without a mark, and all of them have their old numbers. -/
structure Substitution.Substitutes (substitution : Substitution) (own : Regex)
    (picks : Nat → Text → Bool) (before after : Buffer) : Prop where
  last : after.last = before.last
  picked : ∀ n line, n ≠ 0 → before.line? n = some line → picks n line.text = true →
    ∃ new, after.line? n = some new ∧ substitution.Leaves own line new
  others : ∀ n line, n ≠ 0 → before.line? n = some line → picks n line.text = false →
    after.line? n = some line.unmark

theorem Substitution.substitutes_of_handled {substitution : Substitution} {own regex : Regex}
    {range : Range} {invert : Bool} {before after : Buffer}
    (handled : List.Forall₂ (substitution.Handled own)
      (before.markLines regex range invert).lines after.lines)
    (unmarked : Unmarked after.lines) :
    substitution.Substitutes own (range.picks regex invert) before after := by
  have each {n : Nat} {line : Line} (positive : n ≠ 0) (found : before.line? n = some line) :
      ∃ now, after.line? n = some now ∧ now.marked = false
        ∧ substitution.Handled own
          { line with marked := range.picks regex invert n line.text } now := by
    obtain ⟨n, rfl⟩ := Nat.exists_eq_succ_of_ne_zero positive
    rw [Buffer.line?_succ] at found
    have marked : (before.markLines regex range invert).lines[n]?
        = some { line with marked := range.picks regex invert (n + 1) line.text } := by
      rw [Buffer.markLines_lines_eq, List.getElem?_mapIdx, found]
      rfl
    obtain ⟨here, same⟩ := List.getElem?_eq_some_iff.1 marked
    have there : n < after.lines.length := handled.length_eq ▸ here
    have related := handled.get here there
    rw [List.get_eq_getElem, same] at related
    refine ⟨after.lines[n], ?_, unmarked _ (List.getElem_mem there), related⟩
    rw [Buffer.line?_succ, List.getElem?_eq_getElem there]
  refine ⟨?_, ?_, ?_⟩
  · rw [← Buffer.length_lines, ← Buffer.length_lines, ← handled.length_eq,
      Buffer.markLines_lines_eq, List.length_mapIdx]
  · intro n line positive found picked
    obtain ⟨now, there, unmarked, rfl | ⟨_, leaves⟩⟩ := each positive found
    · rw [picked] at unmarked
      cases unmarked
    · exact ⟨now, there, leaves⟩
  · intro n line positive found other
    obtain ⟨now, there, _, rfl | ⟨marked, _⟩⟩ := each positive found
    · rw [there, other]
      rfl
    · rw [other] at marked
      cases marked

/-- With the body `s` a global command leaves of every line that it marks what the substitution
makes of that line alone, also where it changes nothing, and every other line as it was. An empty
pattern in the body means the one of the global command. With a `p` after the body it writes the
new texts of the lines it marked, in the order of the lines, and otherwise nothing. -/
theorem global_substitutes_picked {global : Global} {session : Session} {range : Range}
    {regex own : Regex} {substitution : Substitution} {active : ActivePattern} {print : Bool}
    (selects : global.Selects session range regex)
    (body : global.body = { action := .substitute substitution, print })
    (used : ActivePattern.use { session.editor.active with regex := some regex }
      (Pattern.unescapeDelimiter substitution.pattern substitution.delimiter)
      substitution.ignoreCase = .ok (own, active))
    (unlimited : print = true → session.output.Unlimited) :
    ∃ after, (Procedure.executeGlobal global).run session = (.ok ⟨⟩, after)
      ∧ substitution.Substitutes own (range.picks regex global.invert) session.buffer after.buffer
      ∧ after.output = session.output.append
          (if print then
            substitution.newTexts own (session.buffer.picked regex range global.invert)
          else []) := by
  let start := (session.buffer.markLines regex range global.invert).lines
  let target := session.output.append
    (if print then substitution.newTexts own (markedOf start) else [])
  obtain ⟨after, ran, done, unmarked⟩ := Procedure.run_executeGlobal_sweeps
    (Procedure.Substituting substitution own active print start target)
    (fun on lines unmarked marked => body ▸ on.visit lines unmarked marked) selects
    (by
      intro editor lines sameActive
      have begun : List.Forall₂ (substitution.Handled own) start editor.buffer.lines := by
        rw [lines]
        exact List.forall₂_same.2 fun line _ => .inl rfl
      exact ⟨begun, sameActive ▸ used, unlimited, by rw [Session.buffer, lines]⟩)
  refine ⟨after, ran, Substitution.substitutes_of_handled done.lines unmarked, ?_⟩
  have written := done.output
  rw [unmarked.markedOf] at written
  have texts : substitution.newTexts own (markedOf start)
      = substitution.newTexts own (session.buffer.picked regex range global.invert) := by
    rw [Buffer.markedOf_markLines selects.within, Substitution.newTexts, List.flatMap_map]
    rfl
  have none : (if print then substitution.newTexts own [] else []) = [] := by cases print <;> rfl
  rw [none, Output.append_nil] at written
  rw [written]
  simp only [target, texts]

def bracketMatch : Substitution :=
  { pattern := [], replacement := ['<', '&', '>'], delimiter := '/' }

set_option maxRecDepth 100000 in
/-- Of the lines a, b, ca and a `1,3g/a/s//<&>/p` brackets the a in the first and the third, and
writes these two. -/
theorem withA_substitutes_picked :
    let body : Command := { action := .substitute bracketMatch, print := true }
    Statement.parse "1,3g/a/s//<&>/p".toList = .ok (.global (withA body))
      ∧ (withA body).Selects linesWithA ⟨1, 3, 2⟩ letterA
      ∧ linesWithA.output.Unlimited
      ∧ bracketMatch.newText letterA ['c', 'a', '\n'] = ['c', '<', 'a', '>', '\n']
      ∧ ∃ after, (Procedure.executeGlobal (withA body)).run linesWithA = (.ok ⟨⟩, after)
        ∧ bracketMatch.Substitutes letterA (Range.picks ⟨1, 3, 2⟩ letterA false)
          linesWithA.buffer after.buffer
        ∧ after.output = linesWithA.output.append (Utf8.encode "<a>\nc<a>\n".toList) := by
  intro body
  have selects := withA_selects body
  have used : ActivePattern.use { linesWithA.editor.active with regex := some letterA }
      (Pattern.unescapeDelimiter [] '/') false
        = .ok (letterA, { linesWithA.editor.active with regex := some letterA }) := by cbv
  have unlimited : linesWithA.output.Unlimited := typed_unlimited _
  obtain ⟨after, ran, substitutes, output⟩ :=
    global_substitutes_picked selects rfl used fun _ => unlimited
  have texts : bracketMatch.newTexts letterA (linesWithA.buffer.picked letterA ⟨1, 3, 2⟩ false)
      = Utf8.encode "<a>\nc<a>\n".toList := by cbv
  rw [if_pos rfl] at output
  refine ⟨by cbv, selects, unlimited, by cbv, after, ran, substitutes, ?_⟩
  rw [output]
  exact congrArg _ texts

end LineEditor
