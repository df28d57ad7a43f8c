import LineEditor.Proofs.FileCommands
import LineEditor.Proofs.Lookup.Walk

/-!
What a command makes of the remembered file name. The commands `e` and `f` take no address and
remember the name that is given to them. To `r` and `w` a name is given for once, and it is
remembered only if none is yet. Either way the addresses have been looked up by then, and what fails
afterwards makes no difference to the name.
-/

namespace LineEditor

namespace Action

def givenName : Action → Option Text
  | edit name | filename name | read name | write name => name
  | _ => none

/-- The file name that is given takes the place of the one that is remembered. -/
def renames : Action → Bool
  | edit _ | filename _ => true
  | _ => false

def withName (name : Text) : Action → Action
  | edit _ => edit (some name)
  | filename _ => filename (some name)
  | read _ => read (some name)
  | write _ => write (some name)
  | action => action

end Action

namespace Command

/-- The command gets as far as its file name: all its addresses give a line, and it has none if it
may not have one. -/
def addressed (command : Command) (editor : Editor) : Bool :=
  (command.addresses.resolve.run editor).1.isOk
    && (!command.action.renames || command.addresses.isEmpty)

structure Unnamed (command : Command) : Prop where
  takes : command.action.takesName = true
  nameless : command.action.givenName = none

/-- The name that is remembered after the command, whatever name was before. -/
def renamed (command : Command) : Option Text :=
  if command.action.renames ∧ command.addresses = [] then command.action.givenName else none

/-- The name that the command gives where none is remembered. -/
def named (command : Command) (editor : Editor) : Option Text :=
  if command.addressed editor then command.action.givenName else none

section
variable {command : Command} {editor after : Editor}

theorem addressed_of_resolved {range : Range}
    (looked : command.addresses.resolve.run editor = (.ok range, after)) :
    command.addressed editor = true ↔ (command.action.renames = true → command.addresses = []) := by
  rw [addressed, looked]
  cases command.action.renames <;> simp [Except.isOk, Except.toBool]

theorem addressed_of_stopped {stop : Stop}
    (looked : command.addresses.resolve.run editor = (.error stop, after)) :
    command.addressed editor = false := by
  rw [addressed, looked]
  rfl

end

theorem named_of_renamed {command : Command} {name : Text} (renames : command.renamed = some name)
    (editor : Editor) : command.named editor = some name := by
  unfold renamed at renames
  split at renames
  · rename_i unaddressed
    have looked := AddressList.run_resolve_none editor
    rw [← unaddressed.2] at looked
    rw [named, if_pos ((addressed_of_resolved looked).mpr fun _ => unaddressed.2), renames]
  · cases renames

end Command

namespace AddressList
variable {addresses : AddressList} {editor after : Editor} {range : Range}

theorem given_of_resolvedFrom {start : Range}
    (found : (addresses.resolveFrom start).run editor = (.ok range, after)) :
    range.given = start.given + addresses.length := by
  induction addresses generalizing start editor with
  | nil =>
    cases found
    rfl
  | cons first rest ih =>
    obtain ⟨address, separator⟩ := first
    rcases ran : address.resolve.run editor with ⟨stop | line, between⟩
    · rw [run_resolveFrom_failed ran] at found
      cases found
    · rw [run_resolveFrom_cons ran] at found
      rw [ih found, List.length_cons, Nat.add_assoc, Nat.add_comm 1]

-- No address was counted only where there is none.
theorem given_eq_zero_iff (found : addresses.resolve.run editor = (.ok range, after)) :
    range.given = 0 ↔ addresses = [] := by
  rw [run_resolve] at found
  rcases walked : (addresses.resolveFrom {}).run editor with ⟨stop | looked, left⟩ <;>
    rw [walked] at found
  · cases found
  · cases found
    have length := given_of_resolvedFrom walked
    rw [Nat.zero_add] at length
    rw [← List.length_eq_zero_iff, ← length]
    rcases looked with ⟨first, final, _ | _ | given⟩ <;> simp [Range.ofLookups]

theorem failed_of_resolved (current_le : editor.buffer.current ≤ editor.buffer.last) {stop : Stop}
    (found : addresses.resolve.run editor = (.error stop, after)) :
    ∃ failure, stop = .failed failure := by
  have none : lastTwo [] = {} := rfl
  have here : walkedTo editor editor.buffer.current [] = editor := rfl
  have looked := run_resolveFrom current_le .start addresses
  rw [none, here, List.nil_append] at looked
  rw [run_resolve] at found
  rcases looked with ⟨_, _, _, ran⟩ | ⟨_, _, _, _, _, _, failure, _, _, _, ran⟩
  · rw [ran] at found
    cases found
  · rw [ran] at found
    cases found
    exact ⟨failure, rfl⟩

end AddressList

/-! ### The name afterwards -/

def Powers.nameless : Powers := { Powers.all with names := False }

theorem Action.within_nameless {action : Action} (nameless : action.takesName = false)
    (underGlobal : Bool) : (action.powers underGlobal).Within .nameless where
  substitutes _ := trivial
  converses _ := trivial
  loads _ := trivial
  names takes := Bool.false_ne_true (nameless.symm.trans takes)
  marks := False.elim
  reports := False.elim

def Session.SameName (before after : Session) : Prop := after.filename = before.filename

namespace Procedure
variable {session : Session}

theorem carried_sameName : Carried .nameless Session.SameName where
  refl _ := rfl
  trans first second := second.trans first
  noted noted := by
    cases noted with
    | name asked => exact asked.elim
    | _ => rfl
  edited := by
    intro α operation _ session
    rw [run_edit]
    split <;> rfl

theorem filename_load (path : Text) (entry : Entry) (n : Nat) (session : Session) :
    ((load path entry n).run session).2.filename = session.filename :=
  carried_sameName.composed (load_composed trivial path entry n) session

theorem filename_perform (unlimited : session.output.Unlimited) (action : Action) (range : Range)
    (underGlobal : Bool) :
    ((perform action range underGlobal).run session).2.filename =
      if action.renames then
        if range.given = 0 then action.givenName <|> session.filename else session.filename
      else session.filename <|> action.givenName := by
  by_cases nameless : action.takesName = false
  · have same : Session.SameName session _ :=
      carried_sameName.perform (Action.within_nameless nameless underGlobal) range session
    rw [same]
    cases action with
    | edit | filename | read | write => cases nameless
    | _ => simp [Action.renames, Action.givenName]
  · cases action with
    | edit name =>
      rw [run_perform_edit]
      by_cases given : range.given = 0
      · simp only [Action.renames, Action.givenName, given, if_true]
        cases found : name <|> session.filename with
        | none => exact ((Option.orElse_eq_none _ _).mp found).2
        | some path =>
          dsimp only
          cases session.files.openEntry path with
          | error refusal => rfl
          | ok entry => exact filename_load path entry 0 _
      · simp [Action.renames, given]
    | filename name =>
      rw [run_perform_filename]
      by_cases given : range.given = 0
      · simp only [Action.renames, Action.givenName, given, if_true]
        cases found : name <|> session.filename with
        | none => exact ((Option.orElse_eq_none _ _).mp found).2
        | some path =>
          have takes : Output.Unlimited
              (Session.output { session with filename := session.filename <|> name }) := unlimited
          dsimp only
          rw [run_write_bind takes]
          rfl
      · simp [Action.renames, given]
    | read name =>
      rw [run_perform_read]
      cases found : name <|> session.filename with
      | none => simp [(Option.orElse_eq_none _ _).mp found, Action.renames, Action.givenName]
      | some path =>
        dsimp only
        cases session.files.openEntry path with
        | error refusal => rfl
        | ok entry => exact filename_load path entry range.final _
    | write name =>
      rw [run_perform_write]
      cases found : name <|> session.filename with
      | none => simp [(Option.orElse_eq_none _ _).mp found, Action.renames, Action.givenName]
      | some path =>
        dsimp only
        cases range.settle 1 session.buffer.last with
        | error failure => rfl
        | ok settled => exact carried_sameName.composed (writeFile_composed path settled) _
    | _ => exact absurd rfl nameless

-- What is printed after the action changes no name.
theorem filename_execute_of_resolved {command : Command} {range : Range} {editor : Editor}
    (looked : command.addresses.resolve.run session.editor = (.ok range, editor))
    (underGlobal : Bool) :
    ((execute command underGlobal).run session).2.filename
      = ((perform command.action range underGlobal).run { session with editor }).2.filename := by
  rcases performed : (perform command.action range underGlobal).run { session with editor }
    with ⟨stop | _, after⟩
  · rw [run_execute_stopped looked performed]
  · rw [run_execute_performed looked performed]
    split
    · exact carried_sameName.composed (print_composed _ _ false) after
    · rfl

theorem filename_execute (unlimited : session.output.Unlimited) (command : Command)
    (underGlobal : Bool) :
    ((execute command underGlobal).run session).2.filename
      = (command.renamed <|> (session.filename <|> command.named session.editor)) := by
  rcases looked : command.addresses.resolve.run session.editor with ⟨stop | range, editor⟩
  · have some : command.addresses ≠ [] := by
      intro none
      rw [none, AddressList.run_resolve_none] at looked
      cases looked
    rw [Command.renamed, if_neg fun both => some both.2, Command.named,
      Command.addressed_of_stopped looked, execute, run_bind, run_edit, looked]
    simp
  · have takes : Output.Unlimited (Session.output { session with editor }) := unlimited
    rw [filename_execute_of_resolved looked, filename_perform takes, Command.renamed,
      Command.named]
    simp only [Command.addressed_of_resolved looked, AddressList.given_eq_zero_iff looked]
    cases command.action.renames with
    | false => simp
    | true =>
      by_cases none : command.addresses = []
      · rw [if_pos none]
        cases command.action.givenName <;> simp [none]
      · simp [none]

/-! ### Commands to which no name is given -/

theorem run_perform_withName {name : Text} (remembered : session.filename = some name)
    {action : Action} (nameless : action.givenName = none) (range : Range) (underGlobal : Bool) :
    (perform (action.withName name) range underGlobal).run session
      = (perform action range underGlobal).run session := by
  cases action with
  | edit given =>
    cases nameless
    simp [Action.withName, run_perform_edit, remembered]
  | filename given =>
    cases nameless
    simp [Action.withName, run_perform_filename, remembered]
  | read given =>
    cases nameless
    simp [Action.withName, run_perform_read, remembered]
  | write given =>
    cases nameless
    simp [Action.withName, run_perform_write, remembered]
  | _ => rfl

theorem run_execute_withName {name : Text} (remembered : session.filename = some name)
    {command : Command} (unnamed : command.Unnamed) (underGlobal : Bool) :
    (execute { command with action := command.action.withName name } underGlobal).run session
      = (execute command underGlobal).run session := by
  simp only [execute, run_bind, run_edit]
  rcases command.addresses.resolve.run session.editor with ⟨stop | range, editor⟩
  · rfl
  · have named : Session.filename { session with editor } = some name := remembered
    dsimp only
    rw [run_perform_withName named unnamed.nameless]

theorem run_perform_unnamed (absent : session.filename = none) {action : Action}
    (takes : action.takesName = true) (nameless : action.givenName = none) (range : Range)
    (underGlobal : Bool) :
    ∃ failure, (perform action range underGlobal).run session = (.error (.failed failure), session)
      ∧ ((action.renames = true → range.given = 0) → failure = .noFilename) := by
  cases action with
  | edit given =>
    cases nameless
    rw [run_perform_edit, absent]
    by_cases none : range.given = 0
    · exact ⟨.noFilename, if_pos none, fun _ => rfl⟩
    · exact ⟨.invalidAddress, if_neg none, fun unaddressed => absurd (unaddressed rfl) none⟩
  | filename given =>
    cases nameless
    rw [run_perform_filename, absent]
    by_cases none : range.given = 0
    · exact ⟨.noFilename, if_pos none, fun _ => rfl⟩
    · exact ⟨.invalidAddress, if_neg none, fun unaddressed => absurd (unaddressed rfl) none⟩
  | read given =>
    cases nameless
    rw [run_perform_read, absent]
    exact ⟨.noFilename, rfl, fun _ => rfl⟩
  | write given =>
    cases nameless
    rw [run_perform_write, absent]
    exact ⟨.noFilename, rfl, fun _ => rfl⟩
  | _ => cases takes

theorem run_execute_unnamed (current_le : session.buffer.current ≤ session.buffer.last)
    (absent : session.filename = none) {command : Command} (unnamed : command.Unnamed)
    (underGlobal : Bool) :
    ∃ failure, (execute command underGlobal).run session
        = (.error (.failed failure),
          { session with editor := (command.addresses.resolve.run session.editor).2 })
      ∧ (command.addressed session.editor = true → failure = .noFilename) := by
  rcases looked : command.addresses.resolve.run session.editor with ⟨stop | range, editor⟩
  · obtain ⟨failure, rfl⟩ := AddressList.failed_of_resolved current_le looked
    refine ⟨failure, ?_, ?_⟩
    · rw [execute, run_bind, run_edit, looked]
    · intro addressed
      rw [Command.addressed_of_stopped looked] at addressed
      cases addressed
  · have absent : Session.filename { session with editor } = none := absent
    obtain ⟨failure, performed, named⟩ :=
      run_perform_unnamed absent unnamed.takes unnamed.nameless range underGlobal
    refine ⟨failure, run_execute_stopped looked performed, ?_⟩
    rw [Command.addressed_of_resolved looked]
    intro unaddressed
    exact named fun renames =>
      (AddressList.given_eq_zero_iff looked).mpr (unaddressed renames)

end Procedure

end LineEditor
