import LineEditor.Proofs.Statement.Scan

/-!
Well-formed statements are read back as they were written.
-/

namespace LineEditor

open Scan (StopsBefore)

/-! ### Arguments -/

namespace Substitution

def flagsText (everywhere ignoreCase : Bool) : Text :=
  (if everywhere then ['g'] else []) ++ (if ignoreCase then ['i'] else [])

theorem takeFlags_flagsText (everywhere ignoreCase : Bool) {rest : Text}
    (stops : StopsBefore (fun c => c = 'g' || c = 'i') rest) :
    takeFlags (flagsText everywhere ignoreCase ++ rest) = (everywhere, ignoreCase, rest) := by
  have noG : ∀ left, rest = 'g' :: left → False := by
    intro left same
    subst same
    cases stops 'g' rfl
  have noI : ∀ left, rest = 'i' :: left → False := by
    intro left same
    subst same
    cases stops 'i' rfl
  cases everywhere with
  | true =>
    cases ignoreCase with
    | true => rfl
    | false =>
      change takeFlags ('g' :: rest) = _
      rw [takeFlags]
      exact noI
  | false =>
    cases ignoreCase with
    | true =>
      change takeFlags ('i' :: rest) = _
      rw [takeFlags]
      exact noG
    | false =>
      change takeFlags rest = _
      rw [takeFlags]
      · exact fun left => noG ('i' :: left)
      · exact fun left => noI ('g' :: left)
      · exact noG
      · exact noI

theorem flagsText_stops (everywhere ignoreCase : Bool) {rest : Text}
    (stops : StopsBefore (fun c => c = '\\') rest) :
    StopsBefore (fun c => c = '\\') (flagsText everywhere ignoreCase ++ rest) := by
  cases everywhere with
  | true =>
    intro c isFirst
    cases isFirst
    rfl
  | false =>
    cases ignoreCase with
    | true =>
      intro c isFirst
      cases isFirst
      rfl
    | false => exact stops

theorem read_toText {substitution : Substitution} {rest : Text}
    (wellFormed : substitution.WellFormed)
    (stops : StopsBefore (fun c => c = 'g' || c = 'i' || c = '\\') rest) :
    Substitution.read.on (substitution.toText ++ rest) = (.ok substitution, rest) := by
  obtain ⟨pattern, replacement, delimiter, everywhere, ignoreCase⟩ := substitution
  obtain ⟨blank, first, second, separate⟩ := wellFormed
  dsimp only at blank first second separate
  have text : toText ⟨pattern, replacement, delimiter, everywhere, ignoreCase⟩ ++ rest
      = delimiter :: (pattern ++ delimiter ::
        (replacement ++ delimiter :: (flagsText everywhere ignoreCase ++ rest))) := by
    simp [toText, flagsText]
  have notBlank : ¬(delimiter = ' ' ∨ delimiter = '\t' ∨ delimiter = '\n') := by
    simpa using blank
  -- The replacement keeps the delimiter before it from being a doubled backslash.
  have apart : delimiter = '\\' →
      StopsBefore (fun c => c = '\\')
        (replacement ++ delimiter :: (flagsText everywhere ignoreCase ++ rest)) := by
    intro backslash c isFirst
    obtain ⟨head, tail, same, bare⟩ := separate backslash
    rw [same] at isFirst
    cases isFirst
    simpa using bare
  have readPattern := Scan.delimited_append first apart
  have readReplacement := Scan.delimited_append second fun _ =>
    flagsText_stops everywhere ignoreCase (stops.mono (by simp +contextual))
  have readFlags := takeFlags_flagsText everywhere ignoreCase (stops.mono (by simp +contextual))
  rw [text]
  simp only [Substitution.read, Scan.next, Scan.on_bind, Scan.on_get, Scan.on_set, Scan.on_pure,
    if_neg notBlank, readPattern, readReplacement, readFlags]

end Substitution

namespace Filename

theorem escape_cons (c : Char) (name : Text) :
    escape (c :: name) = (if c = ' ' then ['\\', ' '] else [c]) ++ escape name := rfl

theorem escape_stops {name : Text} (noTab : '\t' ∉ name) : StopsBefore isBlank (escape name) := by
  cases name with
  | nil => nofun
  | cons c name =>
    have notTab : c ≠ '\t' := fun same => noTab (same ▸ List.mem_cons_self)
    rw [escape_cons]
    by_cases space : c = ' '
    · rw [if_pos space]
      intro first isFirst
      cases isFirst
      rfl
    · rw [if_neg space]
      intro first isFirst
      cases isFirst
      simp [isBlank, space, notTab]

theorem take_escape {name : Text} (noTab : '\t' ∉ name) : take (escape name) = (name, []) := by
  induction name with
  | nil => rfl
  | cons c name ih =>
    have others := ih fun member => noTab (List.mem_cons_of_mem _ member)
    have notTab : c ≠ '\t' := fun same => noTab (same ▸ List.mem_cons_self)
    by_cases space : c = ' '
    · subst space
      change take ('\\' :: ' ' :: escape name) = _
      rw [take, others]
    · have text : escape (c :: name) = c :: escape name := by rw [escape_cons, if_neg space]; rfl
      have plain : isBlank c = false := by simp [isBlank, space, notTab]
      rw [text, take, plain, if_neg Bool.false_ne_true, others]
      intro left _ same
      have stops := escape_stops (fun member => noTab (List.mem_cons_of_mem c member)) ' '
      rw [same] at stops
      cases stops rfl

theorem read_toText {name : Option Text} (wellFormed : WellFormed name) :
    read.on (toText name) = (.ok name, []) := by
  cases name with
  | none => rfl
  | some name =>
    obtain ⟨notEmpty, noTab⟩ := wellFormed
    have stops := escape_stops noTab
    have blank : isBlank ' ' = true := rfl
    have someText : Text.isBlank (' ' :: escape name) = false := by
      obtain ⟨c, others, same⟩ := List.exists_cons_of_ne_nil notEmpty
      cases written : escape name with
      | nil =>
        rw [same, escape_cons] at written
        split at written <;> cases written
      | cons first left =>
        have plain : isBlank first = false := stops first (by rw [written]; rfl)
        simp [Text.isBlank, plain]
    have unblanked : (' ' :: escape name).dropWhile isBlank = escape name := by
      rw [List.dropWhile_cons_of_pos blank, stops.dropWhile_eq]
    simp only [read, toText, Scan.on_bind, Scan.on_get, someText, Bool.false_eq_true, if_false,
      List.head?_cons, Option.any_some, blank, if_true, Scan.skipBlanks, Scan.on_modify, unblanked,
      take_escape noTab, Scan.on_set, Scan.on_pure]

end Filename

/-! ### Commands -/

namespace Command

theorem readPrint_toText (print : Bool) :
    readPrint.on (if print then ['p'] else []) = (.ok print, []) := by
  cases print <;> rfl

theorem readAction_toText {action : Action} {print : Bool} (wellFormed : action.WellFormed)
    (printed : print = true → action.takesPrint = true) (other : action ≠ .step) :
    (readAction action.letter).on (action.argumentText ++ if print then ['p'] else [])
      = (.ok (action, print), []) := by
  have silent (none : action.takesPrint = false) : print = false := by
    cases print with
    | false => rfl
    | true =>
      rw [printed rfl] at none
      cases none
  have stops (kind : Char → Bool) (bare : kind 'p' = false) :
      StopsBefore kind (if print then ['p'] else []) := by
    cases print with
    | false => nofun
    | true =>
      intro c isFirst
      cases isFirst
      exact bare
  cases action with
  | step => exact absurd rfl other
  | print | number | quit | append | change | insert | explain | toggleExplain =>
    rw [silent rfl]
    rfl
  | delete | lineNumber => cases print <;> rfl
  | move destination =>
    have read := Address.read_toText wellFormed (stops continuesAddress rfl)
    simp only [Action.letter, Action.argumentText, readAction, Scan.on_bind, read,
      readPrint_toText, Scan.on_pure]
  | substitute substitution =>
    have read := Substitution.read_toText wellFormed
      (stops (fun c => c = 'g' || c = 'i' || c = '\\') rfl)
    simp only [Action.letter, Action.argumentText, readAction, Scan.on_bind, read,
      readPrint_toText, Scan.on_pure]
  | edit name | filename name | read name | write name =>
    have read := Filename.read_toText wellFormed
    rw [silent rfl]
    simp only [Action.letter, Action.argumentText, readAction, Scan.on_bind, Bool.false_eq_true,
      if_false, List.append_nil, read, Scan.on_pure]

theorem readAfter_toText {command : Command} (wellFormed : command.WellFormed) :
    (readAfter command.addresses).on
      (command.action.toText ++ if command.print then ['p'] else []) = (.ok command, []) := by
  obtain ⟨addresses, action, print⟩ := command
  obtain ⟨_, argument, printed⟩ := wellFormed
  dsimp only at argument printed ⊢
  by_cases step : action = .step
  · subst step
    cases print with
    | false => rfl
    | true => cases printed rfl
  · have read := readAction_toText argument printed step
    rw [Action.toText, if_neg step, List.cons_append, List.nil_append, List.cons_append]
    simp only [readAfter, Scan.next, Scan.on_bind, Scan.on_get, Scan.on_set, Scan.on_pure, read]
    rfl

theorem toText_eq (command : Command) :
    command.toText = command.addresses.toText
      ++ (command.action.toText ++ if command.print then ['p'] else []) := by
  rw [toText, List.append_assoc]

-- A command starts with no character that no letter of an action is.
theorem action_stops {kind : Char → Bool} {action : Action} {print : Bool}
    (printed : print = true → action.takesPrint = true)
    (letters : ∀ action : Action, action ≠ .step → kind action.letter = false) :
    StopsBefore kind (action.toText ++ if print then ['p'] else []) := by
  by_cases step : action = .step
  · subst step
    cases print with
    | false => nofun
    | true => cases printed rfl
  · rw [Action.toText, if_neg step]
    intro c isFirst
    cases isFirst
    exact letters action step

theorem letter_stops (action : Action) (other : action ≠ .step) :
    continuesAddresses action.letter = false := by
  cases action with
  | step => exact absurd rfl other
  | _ => rfl

theorem letter_single (action : Action) (other : action ≠ .step) :
    (action.letter = 'g' || action.letter = 'x') = false := by
  cases action with
  | step => exact absurd rfl other
  | _ => rfl

theorem read_toText {command : Command} (wellFormed : command.WellFormed) :
    Command.read.on command.toText = (.ok command, []) := by
  have addresses : AddressList.read.on command.toText = (.ok command.addresses,
      command.action.toText ++ if command.print then ['p'] else []) := by
    rw [toText_eq]
    have stops := action_stops wellFormed.print letter_stops
    exact AddressList.readFrom_toText wellFormed.addresses stops
  simp only [Command.read, Scan.on_bind, addresses, readAfter_toText wellFormed]

end Command

/-! ### Statements -/

theorem Command.toText_cons {command : Command} (wellFormed : command.WellFormed)
    (notEmpty : command.action = .step → command.addresses ≠ []) :
    ∃ c others, command.toText = c :: others ∧ isBlank c = false := by
  rw [toText_eq]
  cases addresses : command.addresses with
  | nil =>
    have other : command.action ≠ .step := fun step => notEmpty step addresses
    rw [Action.toText, if_neg other]
    refine ⟨command.action.letter, _, rfl, ?_⟩
    cases action : command.action with
    | step => exact absurd action other
    | _ => rfl
  | cons first rest =>
    have address : first.1.WellFormed := by
      have list := wellFormed.addresses
      rw [addresses] at list
      cases list with
      | last wellFormed => exact wellFormed
      | joined wellFormed => exact wellFormed
    obtain ⟨c, others, written, plain⟩ := Term.toText_cons address.term
    simp only [AddressList.toText, List.flatMap_cons, Address.toText, written, List.cons_append]
    exact ⟨c, _, rfl, plain⟩

theorem Global.readAfter_toText {global : Global} (wellFormed : global.WellFormed) :
    (readAfter global.addresses).on
      ((if global.invert then 'x' else 'g') :: global.delimiter ::
        (global.pattern ++ global.delimiter :: ' ' :: global.body.toText)) = (.ok global, []) := by
  obtain ⟨addresses, invert, pattern, delimiter, body⟩ := global
  obtain ⟨-, notBlank, escaped, body_wellFormed, notEmpty⟩ := wellFormed
  dsimp only at notBlank escaped body_wellFormed notEmpty ⊢
  have letter : ¬(some (if invert then 'x' else 'g') ≠ some 'g'
      ∧ some (if invert then 'x' else 'g') ≠ some 'x') := by
    cases invert <;> decide
  have unblanked (rest : Text) : (delimiter :: rest).dropWhile isBlank = delimiter :: rest :=
    List.dropWhile_cons_of_neg (by simp [notBlank])
  have apart : StopsBefore (fun c => c = '\\') (' ' :: body.toText) := by
    intro c isFirst
    cases isFirst
    rfl
  have readPattern := Scan.delimited_append escaped fun _ => apart
  -- A body that starts after the blank is no missing body, which would be read as a print.
  have someText : Text.isBlank (' ' :: body.toText) = false := by
    obtain ⟨c, others, written, plain⟩ := Command.toText_cons body_wellFormed notEmpty
    simp [Text.isBlank, written, plain]
  have readBody : Command.read.on (' ' :: body.toText) = (.ok body, []) := by
    have same : AddressList.read.on (' ' :: body.toText) = AddressList.read.on body.toText :=
      AddressList.readFrom_blank body.toText
    rw [← Command.read_toText body_wellFormed]
    simp only [Command.read, Scan.on_bind, same]
  simp only [readAfter, Scan.next, Scan.on_bind, Scan.on_get, Scan.on_set, Scan.on_pure,
    if_neg letter, Scan.skipBlanks, Scan.on_modify, unblanked, readPattern, someText,
    Bool.false_eq_true, if_false, readBody]
  cases invert <;> rfl

namespace Statement

theorem read_single {line rest : Text} {addresses : AddressList}
    (found : AddressList.read.on line = (.ok addresses, rest))
    (other : rest.head? ≠ some 'g' ∧ rest.head? ≠ some 'x') :
    read.on line = (single <$> Command.readAfter addresses).on rest := by
  simp only [read, Scan.peek, Scan.on_bind, found, Scan.on_get, Scan.on_pure]
  split
  · exact absurd ‹_› other.1
  · exact absurd ‹_› other.2
  · rw [map_eq_pure_bind]

theorem read_global {line rest : Text} {addresses : AddressList}
    (found : AddressList.read.on line = (.ok addresses, rest))
    (letter : rest.head? = some 'g' ∨ rest.head? = some 'x') :
    read.on line = (global <$> Global.readAfter addresses).on rest := by
  simp only [read, Scan.peek, Scan.on_bind, found, Scan.on_get, Scan.on_pure]
  split
  · rw [map_eq_pure_bind]
  · rw [map_eq_pure_bind]
  · rename_i notG notX
    rcases letter with isG | isX
    · exact (notG isG).elim
    · exact (notX isX).elim

theorem read_toText {statement : Statement} (wellFormed : statement.WellFormed) :
    read.on statement.toText = (.ok statement, []) := by
  cases statement with
  | single command =>
    have command_wellFormed : command.WellFormed := wellFormed
    have printed := command_wellFormed.print
    have addresses := AddressList.readFrom_toText command_wellFormed.addresses
      (Command.action_stops printed Command.letter_stops)
    have letter : StopsBefore (fun c => c = 'g' || c = 'x')
        (command.action.toText ++ if command.print then ['p'] else []) :=
      Command.action_stops printed Command.letter_single
    have notG :
        (command.action.toText ++ if command.print then ['p'] else []).head? ≠ some 'g' := by
      intro isG
      cases letter 'g' isG
    have notX :
        (command.action.toText ++ if command.print then ['p'] else []).head? ≠ some 'x' := by
      intro isX
      cases letter 'x' isX
    rw [← Command.toText_eq] at addresses
    rw [toText, read_single addresses ⟨notG, notX⟩, Scan.on_map,
      Command.readAfter_toText command_wellFormed]
  | global whole =>
    have whole_wellFormed : whole.WellFormed := wellFormed
    have stops : StopsBefore continuesAddresses
        ((if whole.invert then 'x' else 'g') :: whole.delimiter ::
          (whole.pattern ++ whole.delimiter :: ' ' :: whole.body.toText)) := by
      intro c isFirst
      cases isFirst
      cases whole.invert <;> rfl
    have addresses := AddressList.readFrom_toText whole_wellFormed.addresses stops
    have letter : (if whole.invert then 'x' else 'g') = 'g'
        ∨ (if whole.invert then 'x' else 'g') = 'x' := by
      cases whole.invert
      · exact .inl rfl
      · exact .inr rfl
    rw [toText, Global.toText, read_global addresses (letter.imp (congrArg some) (congrArg some)),
      Scan.on_map, Global.readAfter_toText whole_wellFormed]

end Statement

end LineEditor
