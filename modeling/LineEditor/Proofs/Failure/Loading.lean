import LineEditor.Proofs.FileCommands
import LineEditor.Proofs.RoundTrip

/-!
Commands that put the lines of a file into the buffer, and may fail on the way. A file is opened
before the buffer is touched; from then on each line that can be read comes in, and stays also where
the next one cannot be read. So a command that fails keeps the text if it fails before the file is
open, and else only if what could be read makes no difference.
-/

namespace LineEditor

/-! ### What comes in -/

def Session.named? (session : Session) (name : Option Text) : Option Entry :=
  (name <|> session.filename).bind fun path => (session.files.openEntry path).toOption

namespace Action

def replaces : Action → Bool
  | edit _ => true
  | _ => false

/-- The file that the action opens to read it into the buffer, if it comes that far. -/
def opens : Action → Range → Session → Option Entry
  | edit name, range, session => if range.given = 0 then session.named? name else none
  | read name, _, session => session.named? name
  | _, _, _ => none

/-- The lines that are there afterwards. -/
def loaded (action : Action) (range : Range) (session : Session) : List (Text × Bool) :=
  let lines := session.buffer.lines.map Line.seen
  match action.opens range session with
  | none => lines
  | some entry =>
    let read := entry.readable.map (·, false)
    if action.replaces then read else lines.take range.final ++ (read ++ lines.drop range.final)

/-- No file is opened, or what can be read of it makes no difference. -/
def Harmless (action : Action) (range : Range) (session : Session) : Prop :=
  ∀ entry, action.opens range session = some entry →
    if action.replaces then
      entry.readable.map (·, false) = session.buffer.lines.map Line.seen
    else entry.readable = []

theorem loaded_editor (action : Action) (range : Range) {session : Session} {editor : Editor}
    (lines : editor.buffer.lines = session.buffer.lines) :
    action.loaded range { session with editor } = action.loaded range session := by
  have opened : action.opens range { session with editor } = action.opens range session := by
    cases action <;> rfl
  have same : ({ session with editor } : Session).buffer.lines = session.buffer.lines := lines
  rw [loaded, loaded, opened, same]

theorem loaded_eq_iff (action : Action) (range : Range) (session : Session) :
    action.loaded range session = session.buffer.lines.map Line.seen
      ↔ action.Harmless range session := by
  unfold loaded Harmless
  cases action.opens range session with
  | none => simp
  | some entry =>
    have count (lines read : List (Text × Bool)) (n : Nat) :
        lines.take n ++ (read ++ lines.drop n) = lines ↔ read = [] := by
      constructor
      · intro same
        have length := congrArg List.length same
        simp only [List.length_append, List.length_take, List.length_drop] at length
        exact List.eq_nil_of_length_eq_zero (by omega)
      · rintro rfl
        exact List.take_append_drop n lines
    cases action.replaces with
    | true => simp
    | false => simp [count]

end Action

/-! ### Lines that stay -/

def Session.SameLines (before after : Session) : Prop := before.buffer.SameLines after.buffer

theorem Session.steady_sameLines : Steady Session.SameLines where
  refl session := .refl session.buffer
  trans := Buffer.SameLines.trans

open Session (SameLines steady_sameLines)

namespace Procedure
variable {session : Session} {listing : Listing}

theorem spoken_sameLines {procedure : Procedure Unit} (spoken : Spoken True procedure) :
    Keeps SameLines procedure := by
  intro session
  rw [SameLines, spoken.only_voice session]
  exact .refl session.buffer

theorem setCurrent_sameLines (n : Nat) : Keeps SameLines (setCurrent n) := fun _ => rfl

theorem print_sameLines (first final : Nat) (numbered : Bool) :
    Keeps SameLines (print first final numbered) := by
  have looked : Keeps SameLines buffer := steady_sameLines.refl
  unfold print
  split
  · exact steady_sameLines.throw_bind _ _
  · apply steady_sameLines.bind looked
    intro b
    split
    · exact steady_sameLines.throw_bind _ _
    · exact steady_sameLines.bind (spoken_sameLines (writeLines_spoken _ _ _)) fun _ =>
        setCurrent_sameLines final

theorem finishLoad_sameLines (path : Text) (entry : Entry) :
    Keeps SameLines (finishLoad path entry) := by
  unfold finishLoad
  rcases entry.content with ⟨content, _ | refusal⟩ <;> dsimp only
  · cases readTo path (Bytes.lines content) with
    | ok count => exact spoken_sameLines (writeCount_spoken count)
    | error stop => exact steady_sameLines.throw _
  · cases readTo path (Bytes.wholeLines content) <;> exact steady_sameLines.throw _

/-! ### Commands -/

theorem load_lines (shows : session.buffer.Shows listing) (path : Text) (entry : Entry) (n : Nat) :
    ((load path entry n).run session).2.buffer.lines.map Line.seen
      = listing.lines.take n ++ (entry.readable.map (·, false) ++ listing.lines.drop n) := by
  obtain ⟨b, whole, ran⟩ := run_load shows path entry n
  rw [ran, (finishLoad_sameLines path entry _).lines, ← Listing.insertAll_after]
  exact whole.lines

theorem perform_loaded (sound : session.buffer.Sound) {action : Action}
    (loads : action.loads = true) (range : Range) (underGlobal : Bool) :
    ((perform action range underGlobal).run session).2.buffer.lines.map Line.seen
      = action.loaded range session := by
  cases action with
  | edit name =>
    rw [run_perform_edit, Action.loaded, Action.opens, Session.named?]
    by_cases given : range.given = 0
    · rw [if_pos given, if_pos given]
      cases name <|> session.filename with
      | none => rfl
      | some path =>
        dsimp only [Option.bind_some]
        cases session.files.openEntry path with
        | error refusal => rfl
        | ok entry =>
          let cleared : Session :=
            { session with filename := some path, editor.buffer := session.buffer.clear }
          have empty : cleared.buffer.Shows {} := sound.shows.clear
          have read := load_lines empty path entry 0
          rw [List.take_nil, List.drop_nil, List.nil_append, List.append_nil] at read
          exact read
    · rw [if_neg given, if_neg given]
  | read name =>
    rw [run_perform_read, Action.loaded, Action.opens, Session.named?]
    cases name <|> session.filename with
    | none => rfl
    | some path =>
      dsimp only [Option.bind_some]
      cases session.files.openEntry path with
      | error refusal => rfl
      | ok entry =>
        let named : Session := { session with filename := session.filename <|> name }
        have shows : named.buffer.Shows session.buffer.listing := sound.shows
        exact load_lines shows path entry range.final
  | _ => cases loads

end Procedure

def Command.loaded (command : Command) (session : Session) : List (Text × Bool) :=
  match (command.addresses.resolve.run session.editor).1 with
  | .error _ => session.buffer.lines.map Line.seen
  | .ok range => command.action.loaded range session

def Command.Harmless (command : Command) (session : Session) : Prop :=
  ∀ range, (command.addresses.resolve.run session.editor).1 = .ok range →
    command.action.Harmless range session

theorem Command.loaded_eq_iff (command : Command) (session : Session) :
    command.loaded session = session.buffer.lines.map Line.seen ↔ command.Harmless session := by
  unfold loaded Harmless
  cases (command.addresses.resolve.run session.editor).1 with
  | error stop => simp
  | ok range => simp [Action.loaded_eq_iff]

namespace Procedure

-- However it ends, the command leaves these lines.
theorem execute_loaded (sound : session.buffer.Sound) {command : Command}
    (loads : command.action.loads = true) (underGlobal : Bool) :
    ((execute command underGlobal).run session).2.buffer.lines.map Line.seen
      = command.loaded session := by
  rcases looked : command.addresses.resolve.run session.editor with ⟨stop | range, editor⟩ <;>
    have same := command.addresses.resolve_sameLines.of_run looked
  · rw [execute, run_bind, run_edit, looked, Command.loaded, looked]
    exact congrArg _ same.lines
  · have found_sound := (AddressList.within_of_resolved sound looked).1
    let found : Session := { session with editor }
    have loaded := @perform_loaded found found_sound _ loads range underGlobal
    rw [Action.loaded_editor _ _ same.lines] at loaded
    rw [Command.loaded, looked]
    dsimp only
    rw [← loaded]
    rcases performed : (perform command.action range underGlobal).run found
      with ⟨stop | _, after⟩
    · rw [run_execute_stopped looked performed]
    · rw [run_execute_performed looked performed]
      split
      · exact congrArg _ (print_sameLines _ _ false after).lines
      · rfl

end Procedure

/-! ### Command lines that fail -/

/-- The line is a single command that reads a file into the buffer, and that fails. -/
structure Session.FailsToLoad (session : Session) (line : Text) (command : Command)
    (failure : Failure) : Prop where
  said : Statement.parse line.body = .ok (.single command)
  loads : command.action.loads = true
  failed : ((Procedure.execute command false).run session).1 = .error (.failed failure)

/-- After a command line that fails to read a file into the buffer, the lines are those that were
there, and between them or in their place those that could be read. They are the same as before
exactly if no file was opened, or what could be read of it makes no difference. -/
theorem failing_load_keeps_lines_iff {session : Session} (reached : Reachable session) {line : Text}
    {command : Command} {failure : Failure} (fails : session.FailsToLoad line command failure) :
    let after := ((Procedure.executeLine line).run session).2.buffer.lines.map Line.seen
    after = command.loaded session
      ∧ (after = session.buffer.lines.map Line.seen ↔ command.Harmless session) := by
  intro after
  have loaded : after = command.loaded session := by
    have ended := Procedure.execute_loaded reached.sound fails.loads false
    have ran : (Procedure.executeStatement line).run session
        = (.error (.failed failure), ((Procedure.execute command false).run session).2) := by
      rw [Procedure.executeStatement_single fails.said]
      exact Prod.ext fails.failed rfl
    have back : Keeps Session.SameLines
        (do Procedure.report failure; Procedure.setCurrent session.buffer.current) :=
      Session.steady_sameLines.bind
        (Procedure.spoken_sameLines (Procedure.report_spoken trivial failure)) fun _ =>
          Procedure.setCurrent_sameLines _
    rw [← ended]
    change (((Procedure.executeLine line).run session).2.buffer.lines).map Line.seen = _
    rw [Procedure.run_executeLine_failed ran]
    exact congrArg _ (back _).lines
  exact ⟨loaded, loaded ▸ command.loaded_eq_iff session⟩

/-- A session with one line, and this under the name f. -/
def keeping (entry : Entry) : Session :=
  { Session.typed [107, 101, 101, 112, 10, 46, 10] with
    files := { entries := [([['f']], entry)], working := [] } }

theorem keeping_reachable (entry : Entry) : Reachable (keeping entry) :=
  .around (typed_reachable [107, 101, 101, 112, 10, 46, 10]) _ _ _

set_option maxRecDepth 100000 in
theorem keeping_listing (entry : Entry) :
    (keeping entry).buffer.listing = ⟨[(['k', 'e', 'e', 'p', '\n'], false)], 1⟩ := by cbv

theorem keeping_lines (entry : Entry) :
    (keeping entry).buffer.lines.map Line.seen = [(['k', 'e', 'e', 'p', '\n'], false)] :=
  congrArg Listing.lines (keeping_listing entry)

def editIn : Command := .editFile ['f']

def readIn : Command := { action := .read (some ['f']) }

set_option maxRecDepth 100000 in
theorem editing_directory_fails :
    (keeping .directory).FailsToLoad ['e', ' ', 'f', '\n'] editIn (.file ['f'] .isADirectory) := by
  refine ⟨?_, rfl, ?_⟩ <;> cbv

set_option maxRecDepth 100000 in
/-- A directory opens, so that `e` drops the line before it finds out that nothing can be read. -/
theorem editing_directory_drops_line :
    Reachable (keeping .directory)
      ∧ (keeping .directory).FailsToLoad ['e', ' ', 'f', '\n'] editIn (.file ['f'] .isADirectory)
      ∧ (keeping .directory).buffer.lines.map Line.seen = [(['k', 'e', 'e', 'p', '\n'], false)]
      ∧ ((Procedure.executeLine ['e', ' ', 'f', '\n']).run (keeping .directory)).2.buffer.lines
        = [] := by
  refine ⟨keeping_reachable _, editing_directory_fails, keeping_lines _, ?_⟩
  cbv

set_option maxRecDepth 100000 in
theorem reading_broken_file_fails :
    (keeping (.file [120, 10, 255, 10])).FailsToLoad ['r', ' ', 'f', '\n'] readIn
      (.file ['f'] .notUtf8) := by
  refine ⟨?_, rfl, ?_⟩ <;> cbv

set_option maxRecDepth 100000 in
/-- Of a file with a second line that is not text, `r` leaves the first one. -/
theorem reading_stops_after_first_line :
    let session := keeping (.file [120, 10, 255, 10])
    session.FailsToLoad ['r', ' ', 'f', '\n'] readIn (.file ['f'] .notUtf8)
      ∧ ((Procedure.executeLine ['r', ' ', 'f', '\n']).run session).2.buffer.lines.map Line.seen
        = [(['k', 'e', 'e', 'p', '\n'], false), (['x', '\n'], false)]
      ∧ ¬readIn.Harmless session := by
  intro session
  have fails := reading_broken_file_fails
  have lines : readIn.loaded (keeping (.file [120, 10, 255, 10]))
      = [(['k', 'e', 'e', 'p', '\n'], false), (['x', '\n'], false)] := by cbv
  obtain ⟨loaded, same⟩ := failing_load_keeps_lines_iff (keeping_reachable _) fails
  rw [loaded, lines, keeping_lines] at same
  refine ⟨fails, loaded.trans lines, fun harmless => ?_⟩
  cases same.2 harmless

end LineEditor
