import LineEditor.Proofs.Bounds.Buffer
import LineEditor.Proofs.Lookup.Walk
import LineEditor.Proofs.Equations
import LineEditor.Proofs.Statement.Accepted
import LineEditor.Regex
import LineEditor.Session.Composed
import Mathlib

/-!
Sessions of ordinary use, in which no command line is broken inside: each line that they hold is a
body without a newline, and then its newline. Lines come in by being typed, from files, and from
substitutions. What a substitution puts in place of a match is made of the replacement and of pieces
of the line, and an escape stands for the character after it and for no other; so it could break a
line only if its own command line were broken.
-/

namespace LineEditor

namespace Buffer

def Formed (b : Buffer) : Prop := ∀ line ∈ b.lines, line.text.IsLine

variable {b before after : Buffer}

theorem mem_lines_iff {line : Line} :
    line ∈ b.lines ↔ ∃ n, 0 < n ∧ b.line? n = some line := by
  rw [List.mem_iff_getElem?]
  constructor
  · rintro ⟨n, found⟩
    exact ⟨n + 1, Nat.succ_pos n, b.line?_succ n ▸ found⟩
  · rintro ⟨n, positive, found⟩
    refine ⟨n - 1, ?_⟩
    rwa [← line?_succ, Nat.sub_add_cancel positive]

theorem Formed.line (formed : b.Formed) {n : Nat} {line : Line} (positive : 0 < n)
    (found : b.line? n = some line) : line.text.IsLine :=
  formed line (mem_lines_iff.2 ⟨n, positive, found⟩)

theorem Formed.text (formed : b.Formed) {n : Nat} {text : Text} (positive : 0 < n)
    (found : b.text? n = some text) : text.IsLine := by
  obtain ⟨line, there, rfl⟩ := Option.map_eq_some_iff.1 found
  exact formed.line positive there

-- It is enough that each line has the text of an earlier one.
theorem Formed.of_texts (formed : before.Formed)
    (old : ∀ n line, 0 < n → after.line? n = some line →
      ∃ m same, 0 < m ∧ before.line? m = some same ∧ same.text = line.text) : after.Formed := by
  intro line member
  obtain ⟨n, positive, found⟩ := mem_lines_iff.1 member
  obtain ⟨m, same, positive, there, text⟩ := old n line positive found
  exact text ▸ formed.line positive there

theorem Formed.of_subset (formed : before.Formed) (fewer : after.lines ⊆ before.lines) :
    after.Formed :=
  fun line member => formed line (fewer member)

theorem slots_toList (b : Buffer) :
    ∃ zero, b.line? 0 = some zero ∧ b.slots.toList = zero :: b.lines := by
  obtain ⟨zero, found⟩ := b.line?_isSome (Nat.zero_le _)
  refine ⟨zero, found, ?_⟩
  rw [line?, ← Array.getElem?_toList] at found
  rw [lines]
  cases slots : b.slots.toList with
  | nil => simp [slots] at found
  | cons first rest => simpa [slots] using found

theorem lines_perm (slot_zero : after.line? 0 = before.line? 0)
    (order : after.slots.toList.Perm before.slots.toList) : after.lines.Perm before.lines := by
  obtain ⟨zero, found, whole⟩ := before.slots_toList
  obtain ⟨zero', found', whole'⟩ := after.slots_toList
  have same : zero' = zero := Option.some.inj (by rw [← found, ← found', slot_zero])
  rw [whole, whole', same] at order
  exact order.cons_inv

theorem empty_formed : empty.Formed := nofun

/-! ### The operations -/

theorem leftBy_bind {P : Buffer → Prop} {first : Except OutOfBounds Buffer}
    {next : Buffer → Except OutOfBounds Buffer} (left : P (leftBy first))
    (passes : ∀ middle, P middle → P (leftBy (next middle))) : P (leftBy (first >>= next)) := by
  cases first with
  | error stopped => exact left
  | ok middle => exact passes middle left

theorem truncate_lines (b : Buffer) (n : Nat) : (b.truncate n).lines = b.lines.take n := by
  obtain ⟨zero, _, whole⟩ := b.slots_toList
  have kept : (b.truncate n).slots.toList = b.slots.toList.take (n + 1) := by simp [truncate]
  rw [lines, kept, whole]
  rfl

theorem push_lines (b : Buffer) (text : Text) :
    (b.push text).lines = b.lines ++ [{ text, serial := b.issued + 1 }] := by
  obtain ⟨zero, _, whole⟩ := b.slots_toList
  rw [lines, push, Array.toList_push, whole]
  rfl

theorem truncate_formed (formed : b.Formed) (n : Nat) : (b.truncate n).Formed := by
  apply formed.of_subset
  rw [truncate_lines]
  exact List.take_subset n b.lines

theorem clear_formed (formed : b.Formed) : b.clear.Formed := truncate_formed formed 0

theorem reverse_formed (formed : b.Formed) {first : Nat} (positive : 0 < first) (final : Nat) :
    (leftBy (b.reverse first final)).Formed := by
  unfold reverse
  split
  · rename_i ordered
    split
    · rename_i inside
      apply formed.of_subset
      apply List.Perm.subset
      apply lines_perm
      · exact reverseSlots_zero positive (Nat.le_of_lt (Nat.lt_trans ordered inside))
      · exact reverseSlots_perm b.slots (Nat.le_succ_of_le (Nat.le_of_lt ordered))
    · exact formed
  · exact formed

theorem moveBlock_formed (formed : b.Formed) {first : Nat} (positive : 0 < first)
    (final target : Nat) : (leftBy (b.moveBlock first final target)).Formed := by
  unfold moveBlock
  split
  · apply leftBy_bind (reverse_formed formed (Nat.succ_pos target) _)
    intro b formed
    apply leftBy_bind (reverse_formed formed positive _)
    intro b formed
    exact reverse_formed formed (Nat.succ_pos target) _
  · split
    · apply leftBy_bind (reverse_formed formed positive _)
      intro b formed
      apply leftBy_bind (reverse_formed formed (Nat.succ_pos final) _)
      intro b formed
      exact reverse_formed formed positive _
    · exact formed

theorem push_formed (formed : b.Formed) {text : Text} (line : text.IsLine) :
    (b.push text).Formed := by
  intro other member
  rw [push_lines, List.mem_append, List.mem_singleton] at member
  rcases member with old | rfl
  · exact formed other old
  · exact line

theorem insert_formed (formed : b.Formed) {text : Text} (line : text.IsLine) :
    (leftBy (b.insert text)).Formed := by
  have positive : 0 < (b.push text).last := by
    rw [push_last]
    exact Nat.succ_pos _
  apply leftBy_bind (moveBlock_formed (push_formed formed line) positive _ _)
  intro moved formed
  exact formed

theorem delete_formed (formed : b.Formed) {first : Nat} (positive : 0 < first) (final : Nat) :
    (leftBy (b.delete first final)).Formed := by
  apply leftBy_bind (moveBlock_formed formed positive final b.last)
  intro moved formed
  split
  · exact formed
  · exact truncate_formed formed _

/-! ### Marks -/

theorem setMark_formed (formed : b.Formed) (n : Nat) (marked : Bool) :
    (leftBy (b.setMark n marked)).Formed := by
  unfold setMark modifyLine
  split
  · apply formed.of_texts
    intro m line positive found
    rw [leftBy, line?, Array.getElem?_modify] at found
    split at found
    · obtain ⟨old, there, rfl⟩ := Option.map_eq_some_iff.1 found
      exact ⟨m, old, positive, there, rfl⟩
    · exact ⟨m, line, positive, found, rfl⟩
  · exact formed

theorem markLines_formed (formed : b.Formed) (regex : Regex) (range : Range) (invert : Bool) :
    (b.markLines regex range invert).Formed := by
  apply formed.of_texts
  intro n line positive found
  rw [line?, markLines, Array.getElem?_mapIdx] at found
  obtain ⟨old, there, rfl⟩ := Option.map_eq_some_iff.1 found
  refine ⟨n, old, positive, there, ?_⟩
  rw [if_neg (Nat.ne_of_gt positive)]

end Buffer

/-! ### Where the characters come from -/

namespace Template

theorem newline_mem_group {digit : Char} : '\n' ∈ group digit ↔ '\n' = digit := by simp [group]

theorem newline_not_mem_dollar : '\n' ∉ dollar := by decide

theorem newline_not_mem_expand {groups : Nat → Text} {template : Text}
    (pieces : ∀ n, '\n' ∉ groups n) (bare : '\n' ∉ template) : '\n' ∉ expand groups template := by
  fun_induction expand groups template <;> simp_all

end Template

theorem Replacement.newline_not_mem_template {replacement : Text} (bare : '\n' ∉ replacement) :
    '\n' ∉ template replacement := by
  fun_induction template replacement <;>
    simp_all [Template.newline_mem_group, Template.newline_not_mem_dollar]

/-! ### What an engine puts in place of a match -/

/-- The result is made of pieces of a text and of a template that was filled in with such pieces. -/
def Template.Makes (text template result : Text) : Prop :=
  ∃ pieces : List Text, result = pieces.flatten ∧ ∀ piece ∈ pieces,
    piece <:+: text
      ∨ ∃ groups : Nat → Text, (∀ n, groups n <:+: text) ∧ piece = expand groups template

structure Regex.ReplacesByPieces (regex : Regex) : Prop where
  first : ∀ text template, Template.Makes text template (regex.replaceFirst text template)
  all : ∀ text template, Template.Makes text template (regex.replaceAll text template)

/-- Whatever expression is compiled, it replaces its matches by pieces of the text and of the
template. -/
def Engine.ReplacesByPieces (engine : Engine) : Prop :=
  ∀ pattern ignoreCase regex, engine pattern ignoreCase = .ok regex → regex.ReplacesByPieces

theorem Template.Makes.newline_not_mem {text template result : Text}
    (makes : Makes text template result) (bareText : '\n' ∉ text) (bareTemplate : '\n' ∉ template) :
    '\n' ∉ result := by
  obtain ⟨pieces, rfl, whence⟩ := makes
  rw [List.mem_flatten]
  rintro ⟨piece, member, inside⟩
  rcases whence piece member with part | ⟨groups, parts, rfl⟩
  · exact bareText (part.subset inside)
  · exact newline_not_mem_expand (fun n within => bareText ((parts n).subset within)) bareTemplate
      inside

namespace Regex

end Regex

def Substitution.KeepsLine (substitution : Substitution) : Prop := '\n' ∉ substitution.replacement

theorem Substitution.KeepsLine.newBody {substitution : Substitution}
    (keeps : substitution.KeepsLine) {regex : Regex} (made : regex.ReplacesByPieces) {body : Text}
    (bare : '\n' ∉ body) : '\n' ∉ substitution.newBody regex body := by
  have template := Replacement.newline_not_mem_template keeps
  unfold Substitution.newBody
  dsimp only
  split
  · exact (made.all body _).newline_not_mem bare template
  · exact (made.first body _).newline_not_mem bare template

/-! ### Edits -/

/-- The engine replaces matches by pieces, and so does the active expression. -/
def ActivePattern.ReplacesByPieces (active : ActivePattern) : Prop :=
  active.engine.ReplacesByPieces ∧ ∀ regex, active.regex = some regex → regex.ReplacesByPieces

theorem ActivePattern.ReplacesByPieces.use {active after : ActivePattern}
    (made : active.ReplacesByPieces) {pattern : Text} {ignoreCase : Bool} {regex : Regex}
    (used : active.use pattern ignoreCase = .ok (regex, after)) :
    regex.ReplacesByPieces ∧ after.ReplacesByPieces := by
  have found : regex.ReplacesByPieces := by
    unfold ActivePattern.use at used
    split at used
    · unfold current at used
      cases last : active.regex with
      | none =>
        rw [last] at used
        cases used
      | some last' =>
        rw [last] at used
        cases used
        exact made.2 _ last
    · unfold Pattern.compile at used
      cases compiled : active.engine (Pattern.ofFlavor active.flavor pattern) ignoreCase with
      | error reason =>
        rw [compiled] at used
        cases used
      | ok regex' =>
        rw [compiled] at used
        cases used
        exact made.1 _ _ _ compiled
  have kept := eq_of_use used
  subst kept
  refine ⟨found, made.1, fun other same => ?_⟩
  cases same
  exact found

structure Editor.Formed (editor : Editor) : Prop where
  lines : editor.buffer.Formed
  pieces : editor.active.ReplacesByPieces

def Editor.StaysFormed (before after : Editor) : Prop := before.Formed → after.Formed

theorem Editor.steady_staysFormed : Steady Editor.StaysFormed where
  refl _ := id
  trans first second := second ∘ first

open Editor (StaysFormed steady_staysFormed)

namespace Edit

theorem change_staysFormed {operation : Buffer → Except OutOfBounds Buffer}
    (stays : ∀ b : Buffer, b.Formed → (Buffer.leftBy (operation b)).Formed) :
    Keeps StaysFormed (change operation) := by
  intro editor formed
  have left := stays editor.buffer formed.lines
  simp only [change, run_bind, run_get]
  cases ran : operation editor.buffer <;> rw [ran] at left <;> exact ⟨left, formed.pieces⟩

theorem minus_staysFormed (n m : Nat) : Keeps StaysFormed (minus n m) := by
  unfold minus
  split
  · exact steady_staysFormed.pure _
  · exact steady_staysFormed.throw _

theorem setCurrent_staysFormed (n : Nat) : Keeps StaysFormed (setCurrent n) :=
  keeps_modify fun _ formed => ⟨formed.lines, formed.pieces⟩

theorem usePattern_staysFormed (pattern : Text) (ignoreCase : Bool) :
    Keeps StaysFormed (usePattern pattern ignoreCase) :=
  keeps_usePattern steady_staysFormed fun used formed =>
    ⟨formed.lines, (formed.pieces.use used).2⟩

theorem usePattern_made {pattern : Text} {ignoreCase : Bool} {editor after : Editor} {regex : Regex}
    (formed : editor.Formed)
    (ran : (usePattern pattern ignoreCase).run editor = (.ok regex, after)) :
    regex.ReplacesByPieces := by
  cases used : editor.active.use pattern ignoreCase with
  | error failure =>
    simp only [usePattern, run_bind, run_get, used] at ran
    cases ran
  | ok found =>
    simp only [usePattern, run_bind, run_get, used] at ran
    cases ran
    exact (formed.pieces.use used).1

end Edit

namespace Substitution

theorem replaceLine_staysFormed {n : Nat} (positive : 0 < n) {text : Text} (line : text.IsLine) :
    Keeps StaysFormed (replaceLine n text) := by
  have deleted : Keeps StaysFormed (Edit.change (·.delete n n)) :=
    Edit.change_staysFormed fun b formed => Buffer.delete_formed formed positive n
  have inserted : Keeps StaysFormed (Edit.change (·.insert text)) :=
    Edit.change_staysFormed fun b formed => Buffer.insert_formed formed line
  apply steady_staysFormed.bind deleted
  intro _
  apply steady_staysFormed.bind (Edit.minus_staysFormed n 1)
  intro previous
  apply steady_staysFormed.bind (Edit.setCurrent_staysFormed previous)
  intro _
  exact inserted

theorem applyFrom_staysFormed {substitution : Substitution} (keeps : substitution.KeepsLine)
    {regex : Regex} (made : regex.ReplacesByPieces) {n : Nat} (positive : 0 < n) (count : Nat) :
    Keeps StaysFormed (substitution.applyFrom regex n count) := by
  induction count generalizing n with
  | zero => exact steady_staysFormed.pure 0
  | succ count ih =>
    intro editor formed
    have after := ih (Nat.succ_pos n)
    rw [applyFrom, Edit.run_buffer_bind]
    cases found : editor.buffer.text? n with
    | none => exact formed
    | some text =>
      have line := formed.lines.text positive found
      have changed := keeps.newBody made line.newline_not_mem_body
      dsimp only
      split
      · exact after editor formed
      · rw [line.terminator]
        have replaced := replaceLine_staysFormed positive (Text.isLine_append changed)
        refine steady_staysFormed.bind replaced (fun _ => ?_) editor formed
        exact steady_staysFormed.bind after fun _ => steady_staysFormed.pure _

theorem apply_staysFormed {substitution : Substitution} (keeps : substitution.KeepsLine)
    {range : Range} (positive : 0 < range.first) (underGlobal : Bool) :
    Keeps StaysFormed (substitution.apply range underGlobal) := by
  intro editor formed
  have looked := Edit.usePattern_staysFormed
    (Pattern.unescapeDelimiter substitution.pattern substitution.delimiter)
    substitution.ignoreCase editor formed
  rw [apply, run_bind]
  rcases used : (Edit.usePattern (Pattern.unescapeDelimiter substitution.pattern
    substitution.delimiter) substitution.ignoreCase).run editor with ⟨_ | regex, between⟩ <;>
      rw [used] at looked
  · exact looked
  · have made := Edit.usePattern_made formed used
    refine steady_staysFormed.bind (applyFrom_staysFormed keeps made positive _) ?_ between looked
    intro changed
    split
    · exact steady_staysFormed.throw _
    · exact steady_staysFormed.pure _

end Substitution

theorem Edit.Basic.staysFormed {α : Type} {edit : Edit α}
    (basic : edit.Basic (.allowing Substitution.KeepsLine)) : Keeps StaysFormed edit := by
  cases basic with
  | asks asks =>
    cases asks with
    | range addresses =>
      exact addresses.keeps_resolve steady_staysFormed
        (fun pattern => usePattern_staysFormed pattern false) setCurrent_staysFormed
    | target address =>
      exact address.keeps_resolve steady_staysFormed fun pattern =>
        usePattern_staysFormed pattern false
    | usePattern pattern ignoreCase => exact usePattern_staysFormed pattern ignoreCase
  | alters alters =>
    cases alters with
    | minus n m => exact minus_staysFormed n m
    | setCurrent n => exact setCurrent_staysFormed n
    | delete positive final =>
      exact change_staysFormed fun b formed => Buffer.delete_formed formed positive final
    | move positive final target =>
      exact change_staysFormed fun b formed => Buffer.moveBlock_formed formed positive final target
    | insert line => exact change_staysFormed fun b formed => Buffer.insert_formed formed line
    | clear => exact change_staysFormed fun b => Buffer.clear_formed
    | unmark _ n => exact change_staysFormed fun b formed => Buffer.setMark_formed formed n false
    | mark _ regex range invert =>
      exact change_staysFormed fun b formed => Buffer.markLines_formed formed regex range invert
  | substitute keeps positive underGlobal =>
    exact Substitution.apply_staysFormed keeps positive underGlobal

/-! ### Sessions -/

open Scan (Ensures ensures_pure ensures_throw ensures_get ensures_set)

/-! ### Substitutions -/

def Substitution.ReadFrom (line : Text) (substitution : Substitution) : Prop :=
  substitution.replacement ⊆ line

theorem Substitution.ReadFrom.mono {rest line : Text} {substitution : Substitution}
    (read : substitution.ReadFrom rest) (left : rest <:+ line) : substitution.ReadFrom line :=
  fun _ member => left.subset (read member)

theorem Substitution.read_readFrom {line : Text} :
    Ensures Substitution.read line fun substitution _ => substitution.ReadFrom line := by
  refine Ensures.bind_leaves Scan.next_leaves fun delimiter start left => ?_
  cases delimiter with
  | none => exact ensures_throw _
  | some delimiter =>
    dsimp only
    split
    · exact ensures_throw _
    · refine Ensures.bind_leaves (Scan.delimited_leaves delimiter) fun pattern middle left' => ?_
      cases pattern with
      | none => exact ensures_throw _
      | some pattern =>
        refine (Scan.delimited_ensures delimiter).bind fun replacement rest cut => ?_
        cases replacement with
        | none => exact ensures_throw _
        | some replacement =>
          have whole := Scan.cut_eq (cut replacement rfl)
          have inside : replacement ⊆ middle := by
            rw [whole]
            exact List.subset_append_left _ _
          exact ensures_get (ensures_set (ensures_pure fun _ member =>
            (left'.trans left).subset (inside member)))

theorem Action.Allows.mono {allowed weaker : Substitution → Prop} {action : Action}
    (allows : action.Allows allowed) (implied : ∀ s, allowed s → weaker s) :
    action.Allows weaker :=
  fun substitution same => implied substitution (allows substitution same)

namespace Command

theorem readAction_readFrom (letter : Char) {line : Text} :
    Ensures (readAction letter) line fun read _ => read.1.Allows (Substitution.ReadFrom line) := by
  unfold readAction
  split
  case h_9 | h_10 => exact .after fun _ _ => ensures_pure nofun
  case h_11 =>
    apply Ensures.after
    intro destination _
    cases destination with
    | none => exact ensures_throw _
    | some destination => exact .after fun _ _ => ensures_pure nofun
  case h_12 =>
    refine Substitution.read_readFrom.bind fun substitution _ read => ?_
    refine .after fun _ _ => ensures_pure ?_
    rintro _ ⟨⟩
    exact read
  case h_13 | h_14 | h_15 | h_16 => exact .after fun _ _ => ensures_pure nofun
  case h_17 => exact ensures_throw _
  all_goals exact ensures_pure nofun

theorem readAfter_readFrom (addresses : AddressList) {line : Text} :
    Ensures (readAfter addresses) line fun command _ =>
      command.action.Allows (Substitution.ReadFrom line) := by
  refine Ensures.bind_leaves Scan.next_leaves fun letter rest left => ?_
  cases letter with
  | none => exact ensures_pure nofun
  | some letter =>
    refine (readAction_readFrom letter).bind fun found _ read => ?_
    refine .after fun _ _ => ensures_pure ?_
    exact read.mono fun _ read => read.mono left

theorem read_readFrom {line : Text} :
    Ensures Command.read line fun command _ =>
      command.action.Allows (Substitution.ReadFrom line) := by
  refine Ensures.bind_leaves AddressList.read_leaves fun addresses rest left => ?_
  intro command after read
  exact (readAfter_readFrom addresses command after read).mono fun _ read => read.mono left

end Command

theorem Global.readAfter_readFrom (addresses : AddressList) {line : Text} :
    Ensures (readAfter addresses) line fun global _ =>
      global.body.action.Allows (Substitution.ReadFrom line) := by
  refine Ensures.bind_leaves Scan.next_leaves fun letter rest left₁ => ?_
  dsimp only
  split
  · exact ensures_throw _
  · refine Ensures.bind_leaves Scan.skipBlanks_leaves fun _ rest left₂ => ?_
    refine Ensures.bind_leaves Scan.next_leaves fun delimiter rest left₃ => ?_
    cases delimiter with
    | none => exact ensures_throw _
    | some delimiter =>
      refine Ensures.bind_leaves (Scan.delimited_leaves delimiter) fun pattern rest left₄ => ?_
      cases pattern with
      | none => exact ensures_throw _
      | some pattern =>
        have left := left₄.trans (left₃.trans (left₂.trans left₁))
        apply ensures_get
        split
        · exact ensures_pure nofun
        · refine Command.read_readFrom.bind fun body _ read => ensures_pure ?_
          exact read.mono fun _ read => read.mono left

theorem Statement.read_readFrom {line : Text} :
    Ensures Statement.read line fun statement _ =>
      statement.action.Allows (Substitution.ReadFrom line) := by
  refine Ensures.bind_leaves AddressList.read_leaves fun addresses rest left => ?_
  have alone : Ensures (single <$> Command.readAfter addresses) rest
      fun statement _ => statement.action.Allows (Substitution.ReadFrom line) :=
    (Command.readAfter_readFrom addresses).map fun _ _ read => read.mono fun _ read =>
      read.mono left
  have whole : Ensures (Statement.global <$> Global.readAfter addresses) rest
      fun statement _ => statement.action.Allows (Substitution.ReadFrom line) :=
    (Global.readAfter_readFrom addresses).map fun _ _ read => read.mono fun _ read =>
      read.mono left
  apply ensures_get
  split
  · exact whole
  · exact whole
  · exact alone

/-- A line that is not broken inside asks for no replacement that breaks a line. -/
theorem Text.allows_keepsLine {line : Text} (bare : '\n' ∉ line.body) :
    line.Allows Substitution.KeepsLine := by
  intro statement parsed
  rcases outcome : Statement.read.on line.body with ⟨result, rest⟩
  rw [Statement.parse, outcome] at parsed
  subst parsed
  have read := Statement.read_readFrom statement rest outcome
  exact read.mono fun substitution inside member => bare (inside member)

theorem allowsTyped_keepsLine : AllowsTyped Substitution.KeepsLine :=
  fun _ line => Text.allows_keepsLine line.newline_not_mem_body

/-! ### Sessions -/

/-- A line that is given as a command has no newline but one that ends it. -/
def Step.Plain : Step → Prop
  | line text => '\n' ∉ text.body
  | openFile _ | run => True

instance : (step : Step) → Decidable step.Plain
  | .line text => inferInstanceAs (Decidable ('\n' ∉ text.body))
  | .openFile _ | .run => .isTrue trivial

theorem Step.Plain.allows {step : Step} (plain : step.Plain) :
    step.Allows Substitution.KeepsLine := by
  cases step with
  | line text => exact Text.allows_keepsLine plain
  | openFile path => trivial
  | run => trivial

/-- The sessions that a new one with this engine comes to by plain steps, what surrounds it being
anything. -/
inductive Ordinary (engine : Engine) : Session → Prop where
  | start (options : Options) (input : Bytes) (output : Output) (files : Files) :
      Ordinary engine (.start engine options input output files)
  | step {session : Session} (ordinary : Ordinary engine session) {step : Step}
      (plain : step.Plain) : Ordinary engine (session.after step)
  | around {session : Session} (ordinary : Ordinary engine session) (input : Bytes)
      (output : Output) (files : Files) : Ordinary engine { session with input, output, files }

variable {engine : Engine} {session : Session}

def Session.StaysFormed (before after : Session) : Prop := before.editor.StaysFormed after.editor

theorem Procedure.carried_staysFormed :
    Carried (.allowing Substitution.KeepsLine) Session.StaysFormed where
  refl _ := id
  trans first second := second ∘ first
  noted := by
    intro session after noted formed
    rwa [noted.editor]
  edited := by
    intro α operation basic session formed
    have stays := basic.staysFormed session.editor formed
    rw [run_edit]
    rcases ran : operation.run session.editor with ⟨stop | a, editor⟩ <;> rwa [ran] at stays

theorem Ordinary.formed (ordinary : Ordinary engine session) (made : engine.ReplacesByPieces) :
    session.editor.Formed := by
  induction ordinary with
  | start options input output files => exact ⟨Buffer.empty_formed, made, nofun⟩
  | @step session step _ plain formed =>
    exact Procedure.carried_staysFormed.step allowsTyped_keepsLine plain.allows session formed
  | around _ input output files formed => exact formed

end LineEditor
