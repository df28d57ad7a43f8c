import LineEditor.Proofs.Bounds.Session
import LineEditor.Proofs.Equations
import LineEditor.Proofs.Failure.Atomic
import LineEditor.Proofs.Failure.Loading
import LineEditor.Proofs.FileCommands
import LineEditor.Proofs.Reading
import LineEditor.Proofs.SideBySide.Run
import LineEditor.Proofs.Statement.Accepted
import Mathlib

/-!
Text that comes in, typed or from a file. Its lines are put into the buffer one by one, each behind
the one before; where the text ends, or the input breaks off, or the file cannot be read on, they
stand together at the place that the command asked for.
-/

namespace LineEditor

/-! ### The input -/

/-- A line of typed text, and not the one that ends it. -/
structure Text.IsTyped (text : Text) : Prop where
  line : text.IsLine
  another : text.dropCarriage ≠ Procedure.endOfText

/-- These are the lines that are typed at the start of the input. The command that takes them ends
like this, and this is left. -/
inductive Bytes.Types : Bytes → List Text → Except Stop Unit → Bytes → Prop where
  | line {text : Text} {input rest : Bytes} {texts : List Text} {ended : Except Stop Unit}
      (typed : text.IsTyped) (after : Types input texts ended rest) :
      Types (Utf8.encode text ++ input) (text :: texts) ended rest
  | dot {text : Text} (line : text.IsLine) (lone : text.dropCarriage = Procedure.endOfText)
      (rest : Bytes) : Types (Utf8.encode text ++ rest) [] (.ok ⟨⟩) rest
  -- The input ends, perhaps in the middle of a line.
  | unfinished {input : Bytes} (bare : newline ∉ input) : Types input [] (.error .inputEnded) []
  | notText {body : Bytes} (bare : newline ∉ body) (bad : Utf8.decode? (body ++ [newline]) = none)
      (rest : Bytes) : Types (body ++ newline :: rest) [] (.error .inputEnded) rest

theorem Bytes.Types.not_failed {input rest : Bytes} {texts : List Text} {ended : Except Stop Unit}
    (types : input.Types texts ended rest) (failure : Failure) :
    ended ≠ .error (.failed failure) := by
  induction types with
  | line _ _ ih => exact ih
  | dot => rintro ⟨⟩
  | unfinished => rintro ⟨⟩
  | notText => rintro ⟨⟩

theorem Bytes.exists_types (input : Bytes) : ∃ texts ended rest, input.Types texts ended rest := by
  induction size : input.length using Nat.strong_induction_on generalizing input with
  | _ n ih =>
    by_cases newlines : newline ∈ input
    · obtain ⟨body, rest, rfl, bare⟩ := List.eq_append_cons_of_mem newlines
      cases decoded : Utf8.decode? (body ++ [newline]) with
      | none => exact ⟨_, _, _, .notText bare decoded rest⟩
      | some text =>
        have line := isLine_of_decode? bare decoded
        rw [List.append_cons, Utf8.decode?_eq_some_iff.1 decoded]
        by_cases lone : text.dropCarriage = Procedure.endOfText
        · exact ⟨_, _, _, .dot line lone rest⟩
        · have shorter : rest.length < n := by
            rw [← size, List.length_append, List.length_cons]
            omega
          obtain ⟨texts, ended, left, types⟩ := ih rest.length shorter rest rfl
          exact ⟨_, _, _, .line ⟨line, lone⟩ types⟩
    · exact ⟨_, _, _, .unfinished newlines⟩

namespace Procedure
variable {session : Session} {listing : Listing}

theorem run_readLine_line {text : Text} (line : text.IsLine) {rest : Bytes}
    (input : session.input = Utf8.encode text ++ rest) :
    readLine.run session = (.ok text.dropCarriage, { session with input := rest }) := by
  rw [run_readLine, input, line.takeLine_encode]
  obtain ⟨body, _, rfl⟩ := line
  dsimp only
  rw [Bytes.typedLine?_encode]

-- The lines go in one after the other, and then the text ends or breaks off.
theorem run_takeTyped_types (shows : session.buffer.Shows listing) {texts : List Text}
    {ended : Except Stop Unit} {rest : Bytes} (types : session.input.Types texts ended rest) :
    ∃ b, b.Shows (listing.insertAll (texts.map Text.dropCarriage))
      ∧ takeTyped.run session = (ended, { session with editor.buffer := b, input := rest }) := by
  generalize same : session.input = bytes at types
  induction types generalizing session listing with
  | @line text input _ _ _ typed _ ih =>
    let taken : Session := { session with input }
    obtain ⟨longer, inserted, more⟩ := shows.insert text.dropCarriage
    have inserted : taken.buffer.insert text.dropCarriage = .ok longer := inserted
    let next : Session := { taken with editor.buffer := longer }
    have further : next.buffer.Shows (listing.insert text.dropCarriage) := more
    obtain ⟨b, whole, ran⟩ := ih further rfl
    refine ⟨b, whole, ?_⟩
    rw [run_takeTyped, run_bind, run_readLine_line typed.line same]
    dsimp only
    rw [if_neg typed.another, run_bind, run_insertLine inserted]
    exact ran
  | dot line lone rest =>
    refine ⟨session.buffer, shows, ?_⟩
    rw [run_takeTyped, run_bind, run_readLine_line line same]
    dsimp only
    rw [if_pos lone]
    rfl
  | unfinished bare =>
    refine ⟨session.buffer, shows, ?_⟩
    rw [run_takeTyped, run_bind, run_readLine, same, Bytes.takeLine_bare bare]
    dsimp only
    rw [Bytes.typedLine?_bare bare]
    rfl
  | notText bare bad rest =>
    refine ⟨session.buffer, shows, ?_⟩
    rw [run_takeTyped, run_bind, run_readLine, same, Bytes.takeLine_line bare, Bytes.typedLine?,
      bad]
    rfl

theorem run_append (shows : session.buffer.Shows listing) (n : Nat) {texts : List Text}
    {ended : Except Stop Unit} {rest : Bytes} (types : session.input.Types texts ended rest) :
    ∃ b, b.Shows ((listing.setCurrent n).insertAll (texts.map Text.dropCarriage))
      ∧ (append n).run session = (ended, { session with editor.buffer := b, input := rest }) := by
  let ready : Session := { session with editor.buffer := session.buffer.setCurrent n }
  have still : ready.buffer.Shows (listing.setCurrent n) := shows.setCurrent n
  exact run_takeTyped_types still types

end Procedure

/-! ### Commands -/

/-- On this range the action puts typed text in the place of the lines after line `n` up to line
`m`. -/
inductive Action.TakesTyped (range : Range) : Action → Nat → Nat → Prop where
  | append : TakesTyped range .append range.final range.final
  | insert : TakesTyped range .insert (range.final - 1) (range.final - 1)
  | change (positive : 0 < range.first) (ordered : range.first ≤ range.final) :
      TakesTyped range .change (range.first - 1) range.final

theorem Action.TakesTyped.not_takesPrint {range : Range} {action : Action} {n m : Nat}
    (takes : action.TakesTyped range n m) : action.takesPrint = false := by
  cases takes <;> rfl

theorem AddressList.withDefault_of_resolved {addresses : AddressList} {range : Range}
    {editor after : Editor} (found : addresses.resolve.run editor = (.ok range, after)) :
    range.withDefault after.buffer.current after.buffer.current = range := by
  rw [resolve, run_bind] at found
  rcases walked : (addresses.resolveFrom {}).run editor with ⟨stop | looked, left⟩ <;>
    rw [walked] at found
  · cases found
  · cases found
    rcases looked with ⟨first, final, _ | _ | given⟩ <;> rfl

theorem Procedure.run_perform_takesTyped {session : Session} (sound : session.buffer.Sound)
    {range : Range} (ends : range.EndsWithin session.buffer.last)
    (given : range.withDefault session.buffer.current session.buffer.current = range)
    {action : Action} {n m : Nat} (takes : action.TakesTyped range n m) {texts : List Text}
    {ended : Except Stop Unit} {rest : Bytes} (types : session.input.Types texts ended rest) :
    ∃ b, b.Shows (session.buffer.listing.splice n m (texts.map Text.dropCarriage))
      ∧ (perform action range false).run session
        = (ended, { session with editor.buffer := b, input := rest }) := by
  have final_le := ends.final_le
  rw [← Buffer.length_listing] at final_le
  cases takes with
  | append =>
    rw [← Listing.insertAll_at final_le]
    exact run_append sound.shows range.final types
  | insert =>
    rw [← Listing.insertAll_at (Nat.le_trans (Nat.sub_le _ _) final_le)]
    exact run_append sound.shows (range.final - 1) types
  | change positive ordered =>
    have ran : range.settle session.buffer.current session.buffer.current = .ok range := by
      rw [Range.settle, given]
      exact if_neg (by omega)
    obtain ⟨shorter, deleted, fewer⟩ := sound.shows.delete positive ordered final_le
    let left : Session := { session with editor.buffer := shorter }
    have still : left.buffer.Shows (session.buffer.listing.delete range.first range.final) := fewer
    rw [← Listing.insertAll_delete positive ordered final_le]
    obtain ⟨b, whole, appended⟩ := run_append still (range.first - 1) types
    refine ⟨b, whole, ?_⟩
    change (do
      let range ← settle range session.buffer.current session.buffer.current
      edit (Edit.change (·.delete range.first range.final))
      append (← edit (Edit.minus range.first 1)) : Procedure Unit).run session = _
    rw [run_bind, run_settle ran]
    dsimp only
    rw [run_bind, run_change deleted]
    dsimp only
    rw [run_bind, run_edit, Edit.run_minus positive]
    exact appended

/-! ### Command lines -/

/-- Text that is typed for `a`, `i` or `c` comes to stand in its order where the command puts it,
unmarked and without carriage returns; all other lines that `c` does not replace stay as they are,
and the last line that was typed is current, or the one before that place if there is none. The text
ends with a lone dot, and no more is taken from the input. Where the input breaks off before, the
session ends with the lines that were whole. -/
theorem typed_text_is_spliced {session : Session} (reached : Reachable session) {line : Text}
    {command : Command} (said : line.Says command) {range : Range} {editor : Editor}
    (looked : command.addresses.resolve.run session.editor = (.ok range, editor)) {n m : Nat}
    (takes : command.action.TakesTyped range n m) {texts : List Text} {ended : Except Stop Unit}
    {rest : Bytes} (types : session.input.Types texts ended rest) :
    ∃ b, b.Shows (session.buffer.listing.splice n m (texts.map Text.dropCarriage))
      ∧ (Procedure.executeLine line).run session
        = (ended, { session with editor := { editor with buffer := b }, input := rest }) := by
  have sound := reached.sound
  have same : session.buffer.SameLines editor.buffer :=
    command.addresses.resolve_sameLines.of_run looked
  obtain ⟨editor_sound, ends⟩ := AddressList.within_of_resolved sound looked
  have given := AddressList.withDefault_of_resolved looked
  let found : Session := { session with editor }
  have found_types : found.input.Types texts ended rest := types
  obtain ⟨b, whole, performed⟩ := Procedure.run_perform_takesTyped
    (show found.buffer.Sound from editor_sound) ends given takes found_types
  rw [show found.buffer.listing.splice n m _ = _ from same.splice n m _] at whole
  refine ⟨b, whole, ?_⟩
  apply Procedure.run_executeLine_unfailed
  · rw [Procedure.executeStatement_single said,
      Procedure.run_execute (Statement.print_eq_false said takes.not_takesPrint) looked, performed]
  · exact types.not_failed

def typingNext (input : Bytes) : Session :=
  { Session.typed [97, 10, 98, 10, 46, 10] with input }

theorem typingNext_reachable (input : Bytes) : Reachable (typingNext input) :=
  .around (typed_reachable _) input _ _

def firstChange : Command where
  addresses := [({ term := .line 1 }, .nothing)]
  action := .change

def headInsert : Command where
  addresses := [({ term := .line 0 }, .nothing)]
  action := .insert

set_option maxRecDepth 100000 in
/-- Lines x and y, the first one with a carriage return, take the place of line a for `1c`, and `q`
is left in the input. For `0i`, x comes in before a line that is not text. -/
theorem typed_lines_come_in :
    let replacing := typingNext [120, 13, 10, 121, 10, 46, 10, 113, 10]
    let breaking := typingNext [120, 10, 255, 10]
    (∃ b : Buffer, b.Shows
        ⟨[(['x', '\n'], false), (['y', '\n'], false), (['b', '\n'], false)], 2⟩
      ∧ (Procedure.executeLine ['1', 'c', '\n']).run replacing
        = (.ok ⟨⟩, { replacing with editor.buffer := b, input := [113, 10] }))
      ∧ ∃ b : Buffer, b.Shows
          ⟨[(['x', '\n'], false), (['a', '\n'], false), (['b', '\n'], false)], 1⟩
        ∧ (Procedure.executeLine ['0', 'i', '\n']).run breaking
          = (.error .inputEnded, { breaking with editor.buffer := b, input := [] }) := by
  intro replacing breaking
  have x : Text.IsTyped ['x', '\n'] := ⟨⟨['x'], by decide, rfl⟩, by decide⟩
  have carriage : Text.IsTyped ['x', '\r', '\n'] := ⟨⟨['x', '\r'], by decide, rfl⟩, by decide⟩
  have y : Text.IsTyped ['y', '\n'] := ⟨⟨['y'], by decide, rfl⟩, by decide⟩
  have change : Text.Says ['1', 'c', '\n'] firstChange := by
    unfold Text.Says
    cbv
  have insert : Text.Says ['0', 'i', '\n'] headInsert := by
    unfold Text.Says
    cbv
  have listing (input : Bytes) : (typingNext input).buffer.listing
      = ⟨[(['a', '\n'], false), (['b', '\n'], false)], 2⟩ := by cbv
  have replaced := @typed_text_is_spliced replacing (typingNext_reachable _) _ _ change ⟨1, 1, 1⟩
    replacing.editor (by cbv) 0 1 (.change (by decide) (by decide)) _ _ _
    (.line carriage (.line y (.dot ⟨['.'], by decide, rfl⟩ (by decide) [113, 10])))
  have broken := @typed_text_is_spliced breaking (typingNext_reachable _) _ _ insert ⟨0, 0, 1⟩
    breaking.editor (by cbv) 0 0 .insert _ _ _
    (.line x (@Bytes.Types.notText [255] (by decide) (by cbv) []))
  rw [listing] at replaced broken
  exact ⟨replaced, broken⟩

/-! ### Files -/

section
variable {session : Session} {line path : Text} {command : Command} {name : Option Text}
  {range : Range} {editor : Editor} {entry : Entry}

-- Once the lines of the file are in, it is left to say whether these are all.
theorem Procedure.executeStatement_reads (reached : Reachable session) (said : line.Says command)
    (reading : command.action = .read name)
    (looked : command.addresses.resolve.run session.editor = (.ok range, editor))
    (named : (name <|> session.filename) = some path)
    (opened : session.files.openEntry path = .ok entry) :
    ∃ b, b.Shows (session.buffer.listing.splice range.final range.final entry.readable)
      ∧ (executeStatement line).run session = (finishLoad path entry).run { session with
        editor := { editor with buffer := b }, filename := session.filename <|> name } := by
  have same : session.buffer.SameLines editor.buffer :=
    command.addresses.resolve_sameLines.of_run looked
  obtain ⟨sound, ends⟩ := AddressList.within_of_resolved reached.sound looked
  have takesNoPrint : command.action.takesPrint = false := by
    rw [reading]
    rfl
  let found : Session := { session with editor, filename := session.filename <|> name }
  have shows : found.buffer.Shows editor.buffer.listing := sound.shows
  have place : range.final ≤ editor.buffer.listing.lines.length := by
    rw [Buffer.length_listing]
    exact ends.final_le
  obtain ⟨b, whole, loaded⟩ := run_load shows path entry range.final
  rw [Listing.insertAll_at place, same.splice] at whole
  refine ⟨b, whole, ?_⟩
  rw [executeStatement_single said,
    run_execute (Statement.print_eq_false said takesNoPrint) looked, reading]
  have performed : (perform (.read name) range false).run { session with editor }
      = (load path entry range.final).run found := run_perform_read_opened named opened
  exact performed.trans loaded

/-- A file that is read into the text comes in behind the line that the command names, all its lines
in their order, and their number is written if that is wanted; the last of them is current. Of a
file that cannot be read to its end the lines before that come in, and what is written is the
report; the line number that was current before is so again. All other lines stay as they are. An
output that refuses the number keeps no line from coming in, and it may have the current line set
back only if it takes the report then. -/
theorem read_is_spliced (reached : Reachable session) (said : line.Says command)
    (reading : command.action = .read name)
    (looked : command.addresses.resolve.run session.editor = (.ok range, editor))
    (named : (name <|> session.filename) = some path)
    (opened : session.files.openEntry path = .ok entry) (lines : List Text) :
    let ended := (Procedure.executeLine line).run session
    let spliced (texts : List Text) := session.buffer.listing.splice range.final range.final texts
    (entry.Reads lines →
      ended.2.buffer.lines.map Line.seen = (spliced (lines.map Text.closed)).lines
        ∧ (session.output.Unlimited → session.Completes line)
        ∧ (session.Completes line → ended.1 = .ok ⟨⟩
          ∧ ended.2.buffer.Shows (spliced (lines.map Text.closed))
          ∧ ended.2.output.written = (session.output.append
            (Utf8.encode (session.options.countText lines.length))).written)
        ∧ (session.output.BreaksForGood →
          ended.2.buffer.Shows (spliced (lines.map Text.closed))
            ∧ (ended.1 = .ok ⟨⟩ → session.Completes line)))
    ∧ ∀ cause, entry.StopsAfter lines cause →
      ended.2.buffer.lines.map Line.seen = (spliced lines).lines
        ∧ (session.output.Unlimited → ended.1 = .ok ⟨⟩)
        ∧ (ended.1 = .ok ⟨⟩ →
          ended.2.buffer.current = min session.buffer.current ended.2.buffer.last
          ∧ ended.2.output.written = (session.output.append
            (Utf8.encode ((Failure.file path cause).report session.options.explain))).written) := by
  intro ended spliced
  obtain ⟨b, whole, executes⟩ :=
    Procedure.executeStatement_reads reached said reading looked named opened
  constructor
  · intro reads
    rw [reads.readable] at whole
    rw [reads.finishLoad] at executes
    have comes : session.ComesTo line (session.options.countText lines.length) { session with
        editor := { editor with buffer := b }, filename := session.filename <|> name } :=
      executes.trans (Procedure.run_writeCount lines.length _)
    refine ⟨?_, comes.completes, fun completes => ?_, fun breaks => ?_⟩
    · rw [show ended.2.buffer.lines = b.lines from comes.left.1]
      exact whole.lines
    · obtain ⟨output, ran, counted⟩ := comes.run_executeLine completes
      rw [show ended = _ from ran]
      exact ⟨rfl, whole, counted⟩
    · obtain ⟨output, left, done⟩ := comes.run_executeLine_breaking breaks
      rw [show ended.2 = _ from left]
      exact ⟨whole, done⟩
  · intro cause stops
    obtain ⟨readable, fails⟩ := stops.loads path
    rw [readable] at whole
    rw [fails] at executes
    obtain ⟨same_lines, completes, reported⟩ := Procedure.executeLine_reports executes
    rw [show ended.2.buffer.lines = b.lines from same_lines]
    exact ⟨whole.lines, completes, reported⟩

end

def readAtHead : Command where
  addresses := [({ term := .line 0 }, .nothing)]
  action := .read (some ['f'])

set_option maxRecDepth 100000 in
theorem keeping_options (entry : Entry) : (keeping entry).options = {} := by cbv

set_option maxRecDepth 100000 in
/-- Lines x and y, the second one without a newline, come in front of the line that is there for
`0r f`, and their number is written. Of a file with a second line that is not text `r f` leaves the
first one behind it, and the line that was current is so again. -/
theorem files_come_in :
    let readable := keeping (.file [120, 10, 121])
    let broken := keeping (.file [120, 10, 255, 10])
    let read := (Procedure.executeLine ['0', 'r', ' ', 'f', '\n']).run readable
    let stopped := (Procedure.executeLine ['r', ' ', 'f', '\n']).run broken
    read.1 = .ok ⟨⟩
      ∧ read.2.buffer.Shows
        ⟨[(['x', '\n'], false), (['y', '\n'], false), (['k', 'e', 'e', 'p', '\n'], false)], 2⟩
      ∧ read.2.output.written = (readable.output.append [50, 10]).written
      ∧ stopped.1 = .ok ⟨⟩
      ∧ stopped.2.buffer.lines.map Line.seen
        = [(['k', 'e', 'e', 'p', '\n'], false), (['x', '\n'], false)]
      ∧ stopped.2.buffer.current = 1
      ∧ stopped.2.output.written = (broken.output.append [63, 10]).written := by
  intro readable broken read stopped
  have atHead : Text.Says ['0', 'r', ' ', 'f', '\n'] readAtHead := by
    unfold Text.Says
    cbv
  have behind : Text.Says ['r', ' ', 'f', '\n'] readIn := by
    unfold Text.Says
    cbv
  have unlimited (entry : Entry) : (keeping entry).output.Unlimited := typed_unlimited _
  have reads : (Entry.file [120, 10, 121]).Reads [['x', '\n'], ['y']] :=
    ⟨['x', '\n', 'y'], by cbv,
      @Text.Splits.line ['x'] _ _ (by decide) (.last (by decide) (by decide))⟩
  have formed : ∀ line ∈ [['x', '\n']], Text.IsLine line :=
    List.forall_mem_singleton.2 ⟨['x'], by decide, rfl⟩
  have stops : (Entry.file [120, 10, 255, 10]).StopsAfter [['x', '\n']] .notUtf8 :=
    @Entry.StopsAfter.notText _ _ [255, 10] none formed (by cbv) (.inl rfl) (by cbv)
  have one (entry : Entry) : (keeping entry).buffer.current = 1 :=
    congrArg Listing.cursor (keeping_listing entry)
  have here : readIn.addresses.resolve.run broken.editor = (.ok ⟨1, 1, 0⟩, broken.editor) := by
    have looked := AddressList.run_resolve_none broken.editor
    rwa [show broken.editor.buffer.current = 1 from one _] at looked
  have first : readAtHead.addresses.resolve.run readable.editor
      = (.ok ⟨0, 0, 1⟩, readable.editor) := by
    simp only [readAtHead, AddressList.resolve, AddressList.resolveFrom, run_bind,
      Address.run_resolve_line (Nat.zero_le _)]
    rfl
  have opened : readable.files.openEntry ['f'] = .ok (.file [120, 10, 121]) := by cbv
  have opened' : broken.files.openEntry ['f'] = .ok (.file [120, 10, 255, 10]) := by cbv
  obtain ⟨_, completes, whole, _⟩ := (@read_is_spliced readable _ ['f'] _ _ _ _ _
    (keeping_reachable _) atHead rfl first rfl opened _).1 reads
  obtain ⟨lines, goesOn, reported⟩ := (@read_is_spliced broken _ ['f'] _ _ _ _ _
    (keeping_reachable _) behind rfl here rfl opened' _).2 _ stops
  obtain ⟨ended, shows, counted⟩ := whole (completes (unlimited _))
  have report := goesOn (unlimited _)
  obtain ⟨current, output⟩ := reported report
  have last : stopped.2.buffer.last = 2 := by
    rw [← Buffer.length_lines, ← List.length_map Line.seen, lines, keeping_listing]
    rfl
  rw [keeping_listing] at shows lines
  rw [keeping_options] at counted output
  rw [one, show ((Procedure.executeLine _).run broken).2.buffer.last = 2 from last] at current
  exact ⟨ended, shows, counted, report, lines, current, output⟩

end LineEditor
