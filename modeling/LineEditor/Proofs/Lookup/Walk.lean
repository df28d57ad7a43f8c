import LineEditor.Conduct
import LineEditor.Editor
import LineEditor.Proofs.Bounds.Buffer
import LineEditor.Proofs.Equations
import Mathlib

/-!
Lists of addresses. Looking them up moves the current line and the active pattern at most. Each
address counts from the line that a semicolon made current before it, and from the pattern that was
active by then. The last two lines are the range, and the first address that gives no line ends the
lookup.
-/

namespace LineEditor

/-- The same lines, with their marks, and perhaps another current line. -/
def Buffer.SameLines (before after : Buffer) : Prop :=
  after = { before with current := after.current }

namespace Buffer.SameLines
variable {a b c : Buffer}

theorem refl (b : Buffer) : b.SameLines b := rfl

theorem trans (first : a.SameLines b) (second : b.SameLines c) : a.SameLines c := by
  unfold SameLines at first second ⊢
  rw [second, first]

theorem slots (same : a.SameLines b) : b.slots = a.slots := by
  rw [show b = { a with current := b.current } from same]

theorem lines (same : a.SameLines b) : b.lines = a.lines := by
  rw [Buffer.lines, Buffer.lines, same.slots]

theorem last (same : a.SameLines b) : b.last = a.last := by
  rw [Buffer.last, Buffer.last, same.slots]

-- Lines that are the same with the same one current are the same buffer.
theorem setCurrent_back (same : a.SameLines b) (current_le : a.current ≤ a.last) :
    b.setCurrent a.current = a := by
  have back := congrArg (fun other : Buffer => { other with current := a.current }) same
  rw [setCurrent, same.last, Nat.min_eq_left current_le]
  exact back

end Buffer.SameLines

def Editor.SameLines (before after : Editor) : Prop := before.buffer.SameLines after.buffer

theorem Editor.steady_sameLines : Steady Editor.SameLines where
  refl editor := .refl editor.buffer
  trans := Buffer.SameLines.trans

open Editor (SameLines steady_sameLines)

namespace Edit

theorem setCurrent_sameLines (n : Nat) : Keeps SameLines (setCurrent n) := fun _ => rfl

theorem usePattern_sameLines (pattern : Text) (ignoreCase : Bool) :
    Keeps SameLines (usePattern pattern ignoreCase) :=
  keeps_usePattern steady_sameLines fun _ => rfl

end Edit

theorem Address.resolve_sameLines (address : Address) : Keeps SameLines address.resolve :=
  address.keeps_resolve steady_sameLines fun pattern => Edit.usePattern_sameLines pattern false

theorem AddressList.resolve_sameLines (addresses : AddressList) :
    Keeps SameLines addresses.resolve :=
  addresses.keeps_resolve steady_sameLines
    (fun pattern => Edit.usePattern_sameLines pattern false) Edit.setCurrent_sameLines

/-! ### The active pattern -/

namespace ActivePattern
variable {active after : ActivePattern} {pattern : Text} {ignoreCase : Bool} {regex : Regex}

theorem eq_of_use (used : active.use pattern ignoreCase = .ok (regex, after)) :
    after = { active with regex := some regex } := by
  obtain ⟨engine, flavor, last⟩ := active
  unfold use at used
  split at used
  · cases last with
    | none => cases used
    | some last =>
      cases used
      rfl
  · cases compiled : Pattern.compile engine pattern flavor ignoreCase with
    | error => simp [compiled, Except.map] at used
    | ok found =>
      rw [compiled] at used
      cases used
      rfl

theorem use_again (used : active.use pattern ignoreCase = .ok (regex, after)) :
    after.use pattern ignoreCase = .ok (regex, after) := by
  have kept := eq_of_use used
  subst kept
  by_cases empty : pattern = []
  · simp [use, empty, current, Except.map]
  · rw [use, if_neg empty] at used ⊢
    cases compiled : Pattern.compile active.engine pattern active.flavor ignoreCase with
    | error => simp [compiled, Except.map] at used
    | ok found =>
      rw [compiled] at used
      cases used
      rfl

end ActivePattern

/-- Patterns are read in the same flavor and compiled by the same engine. -/
def Editor.SameReading (before after : Editor) : Prop :=
  after.active.engine = before.active.engine ∧ after.active.flavor = before.active.flavor

theorem Editor.steady_sameReading : Steady Editor.SameReading where
  refl _ := ⟨rfl, rfl⟩
  trans first second := ⟨second.1.trans first.1, second.2.trans first.2⟩

theorem Edit.usePattern_sameReading (pattern : Text) (ignoreCase : Bool) :
    Keeps Editor.SameReading (usePattern pattern ignoreCase) := by
  apply keeps_usePattern Editor.steady_sameReading
  intro editor regex active used
  rw [ActivePattern.eq_of_use used]
  exact ⟨rfl, rfl⟩

theorem AddressList.resolve_sameReading (addresses : AddressList) :
    Keeps Editor.SameReading addresses.resolve :=
  addresses.keeps_resolve Editor.steady_sameReading
    (fun pattern => Edit.usePattern_sameReading pattern false) fun _ _ => ⟨rfl, rfl⟩

/-! ### One address -/

/-! ### One address -/

inductive Term.StandsFor (editor : Editor) : Term → Nat → Prop where
  | line (n : Nat) : StandsFor editor (.line n) n
  | current : StandsFor editor .current editor.buffer.current
  | last : StandsFor editor .last editor.buffer.last
  | search {pattern : Text} {delimiter : Char} {regex : Regex} {active : ActivePattern} {n : Nat}
      (used : editor.active.use (Pattern.unescapeDelimiter pattern delimiter) false
        = .ok (regex, active))
      (first : (editor.buffer.around editor.buffer.current).find?
        (editor.buffer.accepted regex.matchesLine) = some n) :
      StandsFor editor (.search pattern delimiter) n

def Address.Gives (editor : Editor) (address : Address) (line : Nat) : Prop :=
  ∃ base, address.term.StandsFor editor base ∧ (line : Int) = base + address.offset
    ∧ line ≤ editor.buffer.last

/-- The address gives no line: its pattern is bad, or empty with none before it, or no line matches
it, or the sum is no line of the buffer. -/
inductive Address.Fails (editor : Editor) : Address → Failure → Prop where
  | unusable {pattern : Text} {delimiter : Char} {offset : Int} {failure : Failure}
      (used : editor.active.use (Pattern.unescapeDelimiter pattern delimiter) false
        = .error failure) :
      Fails editor ⟨.search pattern delimiter, offset⟩ failure
  | unmatched {pattern : Text} {delimiter : Char} {offset : Int} {regex : Regex}
      {active : ActivePattern}
      (used : editor.active.use (Pattern.unescapeDelimiter pattern delimiter) false
        = .ok (regex, active))
      (none : (editor.buffer.around editor.buffer.current).find?
        (editor.buffer.accepted regex.matchesLine) = none) :
      Fails editor ⟨.search pattern delimiter, offset⟩ .noMatch
  | outside {address : Address} {base : Nat} (stands : address.term.StandsFor editor base)
      (outside : ¬(0 ≤ base + address.offset ∧ base + address.offset ≤ editor.buffer.last)) :
      Fails editor address .invalidAddress

/-- The expression that the pattern of the term means, if it has one that is not empty and
compiles. -/
def Term.compiled? (engine : Engine) (flavor : Flavor) : Term → Option Regex
  | .search pattern delimiter =>
    let pattern := Pattern.unescapeDelimiter pattern delimiter
    if pattern = [] then none else (Pattern.compile engine pattern flavor false).toOption
  | _ => none

namespace ActivePattern

/-- What is active after these addresses: the last pattern of theirs that is not empty and compiles,
and where there is none, what was active before. -/
def after (active : ActivePattern) (addresses : AddressList) : ActivePattern :=
  { active with
    regex := (addresses.filterMap fun (address, _) =>
      address.term.compiled? active.engine active.flavor).getLast?.or active.regex }

def next (active : ActivePattern) (term : Term) : ActivePattern :=
  { active with regex := (term.compiled? active.engine active.flavor).or active.regex }

theorem after_concat (active : ActivePattern) (walked : AddressList) (address : Address)
    (separator : Separator) :
    active.after (walked ++ [(address, separator)]) = (active.after walked).next address.term := by
  cases compiled : address.term.compiled? active.engine active.flavor <;> simp [after, next, compiled]

variable {active after : ActivePattern} {pattern : Text} {delimiter : Char} {regex : Regex}

theorem next_search (used : active.use (Pattern.unescapeDelimiter pattern delimiter) false
      = .ok (regex, after)) : active.next (.search pattern delimiter) = after := by
  by_cases empty : Pattern.unescapeDelimiter pattern delimiter = []
  · obtain ⟨engine, flavor, last⟩ := active
    rw [use, if_pos empty] at used
    cases last with
    | none => cases used
    | some last =>
      cases used
      simp [next, Term.compiled?, empty]
  · rw [use, if_neg empty] at used
    cases compiled : Pattern.compile active.engine (Pattern.unescapeDelimiter pattern delimiter)
        active.flavor false with
    | error => simp [compiled, Except.map] at used
    | ok found =>
      rw [compiled] at used
      cases used
      simp [next, Term.compiled?, empty, compiled, Except.toOption]

theorem next_search_unusable {failure : Failure}
    (used : active.use (Pattern.unescapeDelimiter pattern delimiter) false = .error failure) :
    active.next (.search pattern delimiter) = active := by
  by_cases empty : Pattern.unescapeDelimiter pattern delimiter = []
  · simp [next, Term.compiled?, empty]
  · cases compiled : Pattern.compile active.engine (Pattern.unescapeDelimiter pattern delimiter)
      active.flavor false <;> simp_all [use, next, Term.compiled?, Except.map, Except.toOption]

end ActivePattern

section
variable {editor : Editor}

theorem Edit.run_usePattern_failed {pattern : Text} {ignoreCase : Bool} {failure : Failure}
    (used : editor.active.use pattern ignoreCase = .error failure) :
    (usePattern pattern ignoreCase).run editor = (.error (.failed failure), editor) := by
  simp only [usePattern, run_bind, run_get, used]
  rfl

theorem Term.run_resolve (current_le : editor.buffer.current ≤ editor.buffer.last) (term : Term)
    (offset : Int) :
    let after := { editor with active := editor.active.next term }
    (∃ base, term.StandsFor editor base ∧ term.resolve.run editor = (.ok base, after))
      ∨ ∃ failure, Address.Fails editor ⟨term, offset⟩ failure
        ∧ term.resolve.run editor = (.error (.failed failure), after) := by
  intro after
  cases term with
  | line n => exact .inl ⟨n, .line n, rfl⟩
  | current => exact .inl ⟨_, .current, rfl⟩
  | last => exact .inl ⟨_, .last, rfl⟩
  | search pattern delimiter =>
    cases used : editor.active.use (Pattern.unescapeDelimiter pattern delimiter) false with
    | error failure =>
      refine .inr ⟨failure, .unusable used, ?_⟩
      simp only [after, ActivePattern.next_search_unusable used]
      rw [resolve, run_bind, Edit.run_usePattern_failed used]
    | ok found =>
      obtain ⟨regex, active⟩ := found
      have searched := Buffer.findForward_eq current_le regex.matchesLine
      simp only [after, ActivePattern.next_search used]
      rw [resolve, run_bind, Edit.run_usePattern used]
      dsimp only
      rw [Edit.run_buffer_bind]
      dsimp only
      rw [searched]
      cases first : (editor.buffer.around editor.buffer.current).find?
          (editor.buffer.accepted regex.matchesLine) with
      | none => exact .inr ⟨.noMatch, .unmatched used first, rfl⟩
      | some n => exact .inl ⟨n, .search used first, rfl⟩

theorem Address.run_resolve_or_fail (current_le : editor.buffer.current ≤ editor.buffer.last)
    (address : Address) :
    let after := { editor with active := editor.active.next address.term }
    (∃ line, address.Gives editor line ∧ address.resolve.run editor = (.ok line, after))
      ∨ ∃ failure, address.Fails editor failure
        ∧ address.resolve.run editor = (.error (.failed failure), after) := by
  intro after
  rcases address.term.run_resolve current_le address.offset with
    ⟨base, stands, ran⟩ | ⟨failure, fails, ran⟩
  · by_cases inside : 0 ≤ base + address.offset ∧ base + address.offset ≤ editor.buffer.last
    · have sum : ((base + address.offset).toNat : Int) = base + address.offset := by omega
      have line_le : (base + address.offset).toNat ≤ editor.buffer.last := by omega
      exact .inl ⟨_, ⟨base, stands, sum, line_le⟩, Address.run_resolve_inside ran sum line_le⟩
    · refine .inr ⟨.invalidAddress, .outside stands inside, ?_⟩
      rw [Address.run_resolve ran, if_neg inside]
  · refine .inr ⟨failure, fails, ?_⟩
    rw [resolve, run_bind, ran]

end

/-! ### All of them -/

namespace AddressList
variable {editor : Editor} {walked : AddressList} {lines : List Nat} {c : Nat}

def walkedTo (editor : Editor) (c : Nat) (walked : AddressList) : Editor :=
  { buffer := { editor.buffer with current := c }, active := editor.active.after walked }

/-- These addresses give these lines, one after the other, and line `c` is current after them. -/
inductive Walks (editor : Editor) : AddressList → List Nat → Nat → Prop where
  | start : Walks editor [] [] editor.buffer.current
  | next {walked : AddressList} {lines : List Nat} {c line : Nat} {address : Address}
      {separator : Separator} (before : Walks editor walked lines c)
      (gives : address.Gives (walkedTo editor c walked) line) :
      Walks editor (walked ++ [(address, separator)]) (lines ++ [line])
        (if separator = .semicolon then line else c)

def Stops (editor : Editor) (addresses : AddressList) (ended : Except Stop Range × Editor) : Prop :=
  ∃ walked lines c address separator rest failure,
    addresses = walked ++ (address, separator) :: rest
      ∧ Walks editor walked lines c
      ∧ address.Fails (walkedTo editor c walked) failure
      ∧ ended = (.error (.failed failure), walkedTo editor c (walked ++ [(address, separator)]))

theorem Walks.current_le (walks : Walks editor walked lines c)
    (current_le : editor.buffer.current ≤ editor.buffer.last) : c ≤ editor.buffer.last := by
  induction walks with
  | start => exact current_le
  | next _ gives ih =>
    obtain ⟨_, _, _, line_le⟩ := gives
    split
    · exact line_le
    · exact ih

def lastTwo (lines : List Nat) : Range :=
  ⟨lines.dropLast.getLast?.getD 0, lines.getLast?.getD 0, lines.length⟩

theorem lastTwo_concat (lines : List Nat) (line : Nat) :
    lastTwo (lines ++ [line]) = ⟨(lastTwo lines).final, line, (lastTwo lines).given + 1⟩ := by
  simp [lastTwo]

theorem run_resolveFrom_cons {address : Address} {between : Editor} {line : Nat}
    (ran : address.resolve.run editor = (.ok line, between)) (separator : Separator)
    (rest : AddressList) (range : Range) :
    (resolveFrom ((address, separator) :: rest) range).run editor
      = (resolveFrom rest ⟨range.final, line, range.given + 1⟩).run
          (if separator = .semicolon then
            { between with buffer := between.buffer.setCurrent line }
          else between) := by
  rw [resolveFrom, run_bind, ran]
  dsimp only
  split
  · rfl
  · rfl

theorem run_resolveFrom_failed {address : Address} {between : Editor} {stop : Stop}
    (ran : address.resolve.run editor = (.error stop, between)) (separator : Separator)
    (rest : AddressList) (range : Range) :
    (resolveFrom ((address, separator) :: rest) range).run editor = (.error stop, between) := by
  rw [resolveFrom, run_bind, ran]

theorem run_resolveFrom (current_le : editor.buffer.current ≤ editor.buffer.last)
    (walks : Walks editor walked lines c) (rest : AddressList) :
    let ended := (resolveFrom rest (lastTwo lines)).run (walkedTo editor c walked)
    (∃ lines c, Walks editor (walked ++ rest) lines c
        ∧ ended = (.ok (lastTwo lines), walkedTo editor c (walked ++ rest)))
      ∨ Stops editor (walked ++ rest) ended := by
  induction rest generalizing walked lines c with
  | nil =>
    rw [List.append_nil]
    exact .inl ⟨lines, c, walks, rfl⟩
  | cons first rest ih =>
    obtain ⟨address, separator⟩ := first
    have inside : (walkedTo editor c walked).buffer.current
        ≤ (walkedTo editor c walked).buffer.last := walks.current_le current_le
    have active := editor.active.after_concat walked address separator
    rcases address.run_resolve_or_fail inside with ⟨line, gives, ran⟩ | ⟨failure, fails, ran⟩
    · have stepped : Walks editor (walked ++ [(address, separator)]) (lines ++ [line])
          (if separator = .semicolon then line else c) := .next walks gives
      have further := ih stepped
      rw [List.append_assoc, List.singleton_append, lastTwo_concat] at further
      have line_le : line ≤ editor.buffer.last := by
        obtain ⟨_, _, _, line_le⟩ := gives
        exact line_le
      have arrived : (if separator = .semicolon then
            { walkedTo editor c walked with
              buffer := (walkedTo editor c walked).buffer.setCurrent line
              active := (walkedTo editor c walked).active.next address.term }
          else { walkedTo editor c walked with
            active := (walkedTo editor c walked).active.next address.term })
          = walkedTo editor (if separator = .semicolon then line else c)
              (walked ++ [(address, separator)]) := by
        rw [walkedTo, walkedTo, active]
        split
        · have same : min line (Buffer.last { editor.buffer with current := c }) = line :=
            Nat.min_eq_left line_le
          rw [Buffer.setCurrent, same]
        · rfl
      rw [run_resolveFrom_cons ran, arrived]
      exact further
    · refine .inr ⟨walked, lines, c, address, separator, rest, failure, rfl, walks, fails, ?_⟩
      rw [run_resolveFrom_failed ran, walkedTo, walkedTo, active]

/-- The range that lines give: the last two of them, or the only one, or the current line. -/
def rangeOf (current : Nat) (lines : List Nat) : Range :=
  { first := (lines.dropLast.getLast?.or lines.getLast?).getD current
    final := lines.getLast?.getD current
    given := min lines.length 2 }

theorem ofLookups_lastTwo (walks : Walks editor walked lines c) :
    (lastTwo lines).ofLookups c = rangeOf editor.buffer.current lines := by
  cases walks with
  | start => rfl
  | next =>
    rename_i lines _ line _ _ _ _
    rcases List.eq_nil_or_concat lines with rfl | ⟨others, before, rfl⟩
    · simp [lastTwo, Range.ofLookups, rangeOf]
    · simp [lastTwo, Range.ofLookups, rangeOf]

theorem run_resolve (addresses : AddressList) (editor : Editor) :
    addresses.resolve.run editor =
      match (addresses.resolveFrom {}).run editor with
      | (.ok range, after) => (.ok (range.ofLookups after.buffer.current), after)
      | (.error stop, after) => (.error stop, after) := by
  rw [resolve, run_bind]
  rcases (addresses.resolveFrom {}).run editor with ⟨_ | range, after⟩ <;> rfl

/-- Every list of addresses is looked up from left to right. Either all of them give a line, the
range is that of the last two, and the line that the last semicolon made current stays current; or
the lookup stops at the first one that gives none, with the failure of that one. The lines are as
they were, with their marks. -/
theorem resolve_walks (current_le : editor.buffer.current ≤ editor.buffer.last)
    (addresses : AddressList) :
    let ended := addresses.resolve.run editor
    (∃ lines c, Walks editor addresses lines c
        ∧ ended = (.ok (rangeOf editor.buffer.current lines), walkedTo editor c addresses))
      ∨ Stops editor addresses ended := by
  intro ended
  have none : lastTwo [] = {} := rfl
  have here : walkedTo editor editor.buffer.current [] = editor := rfl
  have looked := run_resolveFrom current_le .start addresses
  rw [none, here, List.nil_append] at looked
  rcases looked with ⟨lines, c, walks, ran⟩ | stops
  · refine .inl ⟨lines, c, walks, ?_⟩
    simp only [ended, run_resolve, ran, ← ofLookups_lastTwo walks]
    rfl
  · obtain ⟨walked, lines, c, address, separator, rest, failure, whole, walks, fails, ran⟩ := stops
    refine .inr ⟨walked, lines, c, address, separator, rest, failure, whole, walks, fails, ?_⟩
    simp only [ended, run_resolve, ran]

def linesToC : Editor :=
  ⟨Buffer.leftBy (Buffer.ofTexts [['a', '\n'], ['b', '\n'], ['c', '\n']]),
    { engine := Regex.engine, flavor := .perl }⟩

def searchThen (offset : Int) : AddressList :=
  [({ term := .search ['b'] '/' }, .semicolon), ({ term := .current, offset }, .nothing)]

set_option maxRecDepth 100000 in
/-- `/b/;.+1` gives lines 2 and 3 and leaves line 2 current; `/b/;.+2` stops at its second address,
where line 2 is current already. -/
theorem searchThen_walks_or_stops :
    linesToC.buffer.current ≤ linesToC.buffer.last
      ∧ (∃ lines c, Walks linesToC (searchThen 1) lines c ∧ c = 2 ∧ rangeOf 3 lines = ⟨2, 3, 2⟩)
      ∧ ∃ ended, Stops linesToC (searchThen 2) ended
        ∧ ended.1 = .error (.failed .invalidAddress) ∧ ended.2.buffer.current = 2 := by
  have current_le : linesToC.buffer.current ≤ linesToC.buffer.last := by decide
  have given : ((searchThen 1).resolve.run linesToC).1 = .ok ⟨2, 3, 2⟩ := by cbv
  have moved : ((searchThen 1).resolve.run linesToC).2.buffer.current = 2 := by cbv
  have refused : ((searchThen 2).resolve.run linesToC).1 = .error (.failed .invalidAddress) := by
    cbv
  have left : ((searchThen 2).resolve.run linesToC).2.buffer.current = 2 := by cbv
  refine ⟨current_le, ?_, ?_⟩
  · rcases resolve_walks current_le (searchThen 1) with ⟨lines, c, walks, ran⟩ | stops
    · rw [ran] at given moved
      exact ⟨lines, c, walks, moved, Except.ok.inj given⟩
    · obtain ⟨_, _, _, _, _, _, _, _, _, _, ran⟩ := stops
      rw [ran] at given
      cases given
  · rcases resolve_walks current_le (searchThen 2) with ⟨lines, c, walks, ran⟩ | stops
    · rw [ran] at refused
      cases refused
    · exact ⟨_, stops, refused, left⟩

end AddressList

end LineEditor
