import LineEditor.Session

/-!
What procedures are put together from, and what a command may do and when. First it checks: it looks
lines and names up, and may fail with nothing altered. A command that loads a file then reads, which
may fail half way, but nothing is said before that. Then it acts, and no failure but one of the
output comes any more. Procedures look at little of a session: never at marks, input or output.
-/

namespace LineEditor

/-- How far a command has come. -/
inductive Phase where
  | checking
  | reading
  | acting
  deriving DecidableEq, Repr

namespace Phase

def rank : Phase → Nat
  | checking => 0
  | reading => 1
  | acting => 2

instance : LE Phase := ⟨fun p q => p.rank ≤ q.rank⟩

instance (p q : Phase) : Decidable (p ≤ q) := inferInstanceAs (Decidable (p.rank ≤ q.rank))

theorem le_acting : (p : Phase) → p ≤ acting
  | checking | reading | acting => by decide

end Phase

/-- What a procedure may do besides looking, writing and editing. -/
structure Powers where
  substitutes : Substitution → Prop
  -- To take lines from the input, and to end the session.
  converses : Prop
  loads : Prop
  names : Prop
  -- To mark lines for a global command, and to take the marks away.
  marks : Prop
  reports : Prop

namespace Powers

structure Within (powers powers' : Powers) : Prop where
  substitutes : ∀ {substitution}, powers.substitutes substitution → powers'.substitutes substitution
  converses : powers.converses → powers'.converses
  loads : powers.loads → powers'.loads
  names : powers.names → powers'.names
  marks : powers.marks → powers'.marks
  reports : powers.reports → powers'.reports

def allowing (allowed : Substitution → Prop) : Powers := ⟨allowed, True, True, True, True, True⟩

def all : Powers := allowing fun _ => True

end Powers

namespace Action

def loads : Action → Bool
  | edit _ | read _ => true
  | _ => false

def takesName : Action → Bool
  | edit _ | filename _ | read _ | write _ => true
  | _ => false

/-- What the action may do. Under a global command none takes input or ends the session. -/
def powers (action : Action) (underGlobal : Bool) : Powers where
  substitutes substitution := action = .substitute substitution
  converses := underGlobal = false
  loads := action.loads = true
  names := action.takesName = true
  marks := False
  reports := False

def Allows (allowed : Substitution → Prop) (action : Action) : Prop :=
  ∀ substitution, action = .substitute substitution → allowed substitution

theorem Allows.within {allowed : Substitution → Prop} {action : Action}
    (allows : action.Allows allowed) (underGlobal : Bool) :
    (action.powers underGlobal).Within (.allowing allowed) where
  substitutes asked := allows _ asked
  converses _ := trivial
  loads _ := trivial
  names _ := trivial
  marks := False.elim
  reports := False.elim

theorem within_all (action : Action) (underGlobal : Bool) :
    (action.powers underGlobal).Within .all := Allows.within (fun _ _ => trivial) underGlobal

end Action

namespace Edit

inductive Asks : {α : Type} → Edit α → Prop where
  | range (addresses : AddressList) : Asks addresses.resolve
  | target (address : Address) : Asks address.resolve
  | usePattern (pattern : Text) (ignoreCase : Bool) : Asks (Edit.usePattern pattern ignoreCase)

/-- The edits that alter the buffer. None concerns slot 0, and only lines are inserted. -/
inductive Alters (powers : Powers) : {α : Type} → Edit α → Prop where
  | minus (n m : Nat) : Alters powers (Edit.minus n m)
  | setCurrent (n : Nat) : Alters powers (Edit.setCurrent n)
  | delete {first : Nat} (positive : 0 < first) (final : Nat) :
      Alters powers (Edit.change (·.delete first final))
  | move {first : Nat} (positive : 0 < first) (final target : Nat) :
      Alters powers (Edit.change (·.moveBlock first final target))
  | insert {text : Text} (line : text.IsLine) : Alters powers (Edit.change (·.insert text))
  | clear : Alters powers (Edit.change fun b => .ok b.clear)
  | unmark (asked : powers.marks) (n : Nat) : Alters powers (Edit.change (·.setMark n false))
  | mark (asked : powers.marks) (regex : Regex) (range : Range) (invert : Bool) :
      Alters powers (Edit.change fun b => .ok (b.markLines regex range invert))

theorem Alters.mono {powers powers' : Powers} (within : powers.Within powers') {α : Type}
    {operation : Edit α} (alters : operation.Alters powers) : operation.Alters powers' := by
  cases alters with
  | minus n m => exact .minus n m
  | setCurrent n => exact .setCurrent n
  | delete positive final => exact .delete positive final
  | move positive final target => exact .move positive final target
  | insert line => exact .insert line
  | clear => exact .clear
  | unmark asked n => exact .unmark (within.marks asked) n
  | mark asked regex range invert => exact .mark (within.marks asked) regex range invert

end Edit

/-- As far as procedures look, the sessions are the same. -/
structure Session.SeenAlike (session session' : Session) : Prop where
  buffer : session.buffer.Alike false session'.buffer
  files : session.files = session'.files
  filename : session.filename = session'.filename

namespace Procedure

/-- The procedure only says something. What it says depends on the options and the last failure. -/
inductive Spoken (reports : Prop) : Procedure Unit → Prop where
  | silence : Spoken reports (pure ⟨⟩)
  | write (text : Text) : Spoken reports (Procedure.write text)
  | flush : Spoken reports Procedure.flush
  | toggle : Spoken reports
      (modify fun session => { session with options.explain := !session.options.explain })
  | remember (asked : reports) (failure : Failure) :
      Spoken reports (modify ({ · with lastFailure := some failure }))
  | bind {first : Procedure Unit} {next : Unit → Procedure Unit} (before : Spoken reports first)
      (after : Spoken reports (next ⟨⟩)) : Spoken reports (first >>= next)
  | consult {next : Session → Procedure Unit}
      (blind : ∀ session session', session.options = session'.options →
        session.lastFailure = session'.lastFailure → next session = next session')
      (after : ∀ session, Spoken reports (next session)) : Spoken reports (get >>= next)

/-- The procedure, begun in the one phase, ends in the other, unless it stops. -/
inductive Composed (powers : Powers) : Phase → Phase → {α : Type} → Procedure α → Prop where
  | pure {p : Phase} {α : Type} (a : α) : Composed powers p p (Pure.pure a : Procedure α)
  | fail {p q : Phase} {α : Type} (early : p ≠ .acting) (failure : Failure) :
      Composed powers p q (Procedure.fail failure : Procedure α)
  | stop {p q : Phase} {α : Type} {stop : Stop} (unfailed : ∀ failure, stop ≠ .failed failure) :
      Composed powers p q (throw stop : Procedure α)
  | weaken {p p' q q' : Phase} {α : Type} {procedure : Procedure α} (before : p' ≤ p)
      (after : q ≤ q') (composed : Composed powers p q procedure) : Composed powers p' q' procedure
  | bind {p q r : Phase} {α β : Type} {first : Procedure β} {next : β → Procedure α}
      (before : Composed powers p q first) (after : ∀ b, Composed powers q r (next b)) :
      Composed powers p r (first >>= next)
  | look {p q : Phase} {α : Type} {next : Session → Procedure α}
      (blind : ∀ session session', Session.SeenAlike session session' →
        next session = next session')
      (after : ∀ session, Composed powers p q (next session)) : Composed powers p q (get >>= next)
  | ask {α : Type} {operation : Edit α} (asks : operation.Asks) :
      Composed powers .checking .checking (edit operation)
  | alter {p : Phase} {α : Type} {operation : Edit α}
      (going : p = .acting ∨ p = .reading ∧ powers.loads) (alters : operation.Alters powers) :
      Composed powers p p (edit operation)
  | substitute {substitution : Substitution} (asked : powers.substitutes substitution)
      {range : Range} (positive : 0 < range.first) (underGlobal : Bool) :
      Composed powers .checking .acting (edit (substitution.apply range underGlobal))
  | name {p : Phase} (asked : powers.names) (path : Text) :
      Composed powers p p (modify ({ · with filename := some path }))
  | store (path : Text) (content : Bytes) :
      Composed powers .checking .checking (storeFile path content)
  | quit (asked : powers.converses) :
      Composed powers .acting .acting (modify ({ · with running := false }))
  | takeTyped (asked : powers.converses) : Composed powers .acting .acting Procedure.takeTyped
  | spoken {procedure : Procedure Unit} (spoken : Spoken powers.reports procedure) :
      Composed powers .acting .acting procedure

variable {powers powers' : Powers} {reports : Prop} {p q : Phase} {α β : Type}

theorem Spoken.mono {reports' : Prop} (stronger : reports → reports') {procedure : Procedure Unit}
    (spoken : Spoken reports procedure) : Spoken reports' procedure := by
  induction spoken with
  | silence => exact .silence
  | write text => exact .write text
  | flush => exact .flush
  | toggle => exact .toggle
  | remember asked failure => exact .remember (stronger asked) failure
  | bind _ _ before after => exact .bind before after
  | consult blind _ after => exact .consult blind after

namespace Composed

theorem mono (within : powers.Within powers') {procedure : Procedure α}
    (composed : Composed powers p q procedure) : Composed powers' p q procedure := by
  induction composed with
  | pure a => exact .pure a
  | fail early failure => exact .fail early failure
  | stop unfailed => exact .stop unfailed
  | weaken before after _ ih => exact .weaken before after ih
  | bind _ _ before after => exact .bind before after
  | look blind _ after => exact .look blind after
  | ask asks => exact .ask asks
  | alter going alters =>
    exact .alter (going.imp_right fun reading => ⟨reading.1, within.loads reading.2⟩)
      (alters.mono within)
  | substitute asked positive underGlobal =>
    exact .substitute (within.substitutes asked) positive underGlobal
  | name asked path => exact .name (within.names asked) path
  | store path content => exact .store path content
  | quit asked => exact .quit (within.converses asked)
  | takeTyped asked => exact .takeTyped (within.converses asked)
  | spoken spoken => exact .spoken (spoken.mono within.reports)

-- What may be done at the end may be done at once.
theorem atOnce {procedure : Procedure α} (composed : Composed powers .acting .acting procedure) :
    Composed powers p .acting procedure := .weaken p.le_acting (by decide) composed

theorem act {operation : Edit α} (alters : operation.Alters powers) :
    Composed powers .acting .acting (edit operation) := .alter (.inl rfl) alters

theorem fail_bind (early : p ≠ .acting) (failure : Failure) (next : β → Procedure α) :
    Composed powers p q (Procedure.fail failure >>= next) := .fail (α := α) early failure

theorem stop_bind (next : β → Procedure α) :
    Composed powers p q (throw .outOfBounds >>= next) := .stop (α := α) nofun

end Composed

theorem buffer_bind_composed {next : Buffer → Procedure α}
    (blind : ∀ b b', b.Alike false b' → next b = next b')
    (after : ∀ b, Composed powers p q (next b)) : Composed powers p q (buffer >>= next) := by
  change Composed powers p q (get >>= fun session => next session.buffer)
  exact .look (fun _ _ alike => blind _ _ alike.buffer) fun session => after session.buffer

theorem setCurrent_composed (n : Nat) : Composed powers .acting .acting (setCurrent n) :=
  .act (.setCurrent n)

/-! ### Saying something -/

theorem writeLine_spoken (text : String) : Spoken reports (writeLine text) := .write _

theorem writeCount_spoken (count : Nat) : Spoken reports (writeCount count) := by
  refine .consult (fun _ _ options _ => by rw [options]) fun session => ?_
  split
  · exact writeLine_spoken _
  · exact .silence

theorem writeLines_spoken (numbered : Bool) (n : Nat) (texts : List Text) :
    Spoken reports (writeLines numbered n texts) := by
  induction texts generalizing n with
  | nil => exact .silence
  | cons text rest ih =>
    have after : Spoken reports (do write text; writeLines numbered (n + 1) rest) :=
      .bind (.write text) (ih (n + 1))
    unfold writeLines
    split
    · exact .bind (.write _) after
    · exact after

theorem explainLast_spoken : Spoken reports explainLast := by
  refine .consult (fun _ _ _ failure => by rw [failure]) fun session => ?_
  split
  · exact writeLine_spoken _
  · exact .silence

theorem toggleExplain_spoken : Spoken reports toggleExplain := by
  apply Spoken.bind .toggle
  refine .consult (fun _ _ options _ => by rw [options]) fun session => ?_
  split
  · exact explainLast_spoken
  · exact .silence

/-! ### Lines in and out -/

theorem print_acting {first : Nat} (positive : 0 < first) (final : Nat) (numbered : Bool) :
    Composed powers .acting .acting (print first final numbered) := by
  unfold print
  rw [if_neg (Nat.ne_of_gt positive)]
  refine buffer_bind_composed (fun _ _ alike => by rw [alike.texts?]) fun b => ?_
  split
  · exact .stop_bind _
  · exact .bind (.spoken (writeLines_spoken _ _ _)) fun _ => setCurrent_composed final

theorem print_composed (first final : Nat) (numbered : Bool) :
    Composed powers .checking .acting (print first final numbered) := by
  by_cases zero : first = 0
  · unfold print
    rw [if_pos zero]
    exact .fail_bind (by decide) _ _
  · exact (print_acting (Nat.pos_of_ne_zero zero) final numbered).atOnce

theorem append_composed (asked : powers.converses) (n : Nat) :
    Composed powers .acting .acting (append n) :=
  .bind (setCurrent_composed n) fun _ => .takeTyped asked

theorem move_composed {range : Range} (positive : 0 < range.first) (target : Nat) :
    Composed powers .checking .acting (move range target) := by
  unfold move
  dsimp only
  split
  · exact .fail_bind (by decide) _ _
  · apply Composed.atOnce
    apply Composed.bind (.act (.move positive _ _))
    intro _
    split
    · exact setCurrent_composed target
    · exact .bind (.act (.minus _ _)) fun _ => setCurrent_composed _

/-! ### Checks -/

-- What comes after the check of an action that may not run under a global command has to be looked
-- at without one only.
theorem forbidUnderGlobal_bind (name : Char) {underGlobal : Bool} {next : PUnit → Procedure α}
    (after : underGlobal = false → Composed powers .checking q (next ⟨⟩)) :
    Composed powers .checking q (forbidUnderGlobal name underGlobal >>= next) := by
  cases underGlobal with
  | true => exact .fail_bind (by decide) _ _
  | false => exact after rfl

theorem requireNoAddress_composed (range : Range) :
    Composed powers .checking .checking (requireNoAddress range) := by
  unfold requireNoAddress
  split
  · exact .pure _
  · exact .fail (by decide) _

-- What comes after a range is settled may count on it not to start at slot 0.
theorem settle_bind (range : Range) (first final : Nat) {next : Range → Procedure α}
    (after : ∀ settled : Range, 0 < settled.first → Composed powers .checking q (next settled)) :
    Composed powers .checking q (settle range first final >>= next) := by
  unfold settle
  cases ran : range.settle first final with
  | error failure => exact .fail_bind (by decide) _ _
  | ok settled => exact after settled (Range.settle_positive ran)

theorem resolveFilename_composed (asked : powers.names) (name : Option Text) :
    Composed powers .checking .checking (resolveFilename name) := by
  cases name with
  | none =>
    refine .look (fun _ _ alike => by rw [alike.filename]) fun session => ?_
    split
    · exact .pure _
    · exact .fail (by decide) _
  | some name =>
    refine .look (fun _ _ alike => by rw [alike.filename]) fun session => ?_
    split
    · exact .bind (.name asked name) fun _ => .pure _
    · exact .pure _

/-! ### Files -/

theorem openFile_composed (path : Text) :
    Composed powers .checking .checking (openFile path) := by
  refine .look (fun _ _ alike => by rw [alike.files]) fun session => ?_
  split
  · exact .pure _
  · exact .fail (by decide) _

theorem insertRead_composed (loads : powers.loads) (path : Text) {lines : List Bytes}
    (bare : ∀ bytes ∈ lines, Bytes.newline ∉ bytes.dropLast) :
    Composed powers .reading .reading (insertRead path lines) := by
  induction lines with
  | nil => exact .pure _
  | cons bytes rest ih =>
    have after := ih fun other member => bare other (List.mem_cons_of_mem _ member)
    unfold insertRead
    split
    · exact .fail (by decide) _
    · rename_i line decoded
      have isLine := Bytes.decode?_isLine (bare bytes List.mem_cons_self) decoded
      exact .bind (.alter (.inr ⟨rfl, loads⟩) (.insert isLine)) fun _ => .bind after fun _ => .pure _

theorem load_composed (loads : powers.loads) (path : Text) (entry : Entry) (n : Nat) :
    Composed powers .reading .acting (load path entry n) := by
  apply Composed.bind (.alter (.inr ⟨rfl, loads⟩) (.setCurrent n))
  intro _
  split
  · apply Composed.bind (insertRead_composed loads path fun _ => Bytes.newline_not_mem_lines)
    exact fun count => (Composed.spoken (writeCount_spoken count)).atOnce
  · have whole (content : Bytes) : ∀ line ∈ Bytes.wholeLines content,
        Bytes.newline ∉ line.dropLast :=
      fun line member => Bytes.newline_not_mem_lines (List.mem_filter.1 member).1
    exact .bind (insertRead_composed loads path (whole _)) fun _ => .fail (by decide) _

theorem readFile_composed (loads : powers.loads) (path : Text) (n : Nat) :
    Composed powers .checking .acting (readFile path n) :=
  .bind (openFile_composed path) fun entry =>
    .weaken (by decide) (by decide) (load_composed loads path entry n)

theorem writeFile_composed (path : Text) (range : Range) :
    Composed powers .checking .acting (writeFile path range) := by
  refine buffer_bind_composed (fun _ _ alike => by rw [alike.texts?]) fun b => ?_
  split
  · exact .stop nofun
  · apply Composed.bind (.store path _)
    intro _
    apply Composed.atOnce
    exact .bind (.act (.minus _ _)) fun _ => .spoken (writeCount_spoken _)

/-! ### Commands -/

-- The one place where the actions are told apart: their properties come from what is said here.
theorem perform_composed (action : Action) (range : Range) (underGlobal : Bool) :
    Composed (action.powers underGlobal) .checking .acting (perform action range underGlobal) := by
  apply buffer_bind_composed
  · intro b b' alike
    simp only [alike.current, alike.last, alike.nextLine]
  intro b
  cases action with
  | print | number => exact settle_bind _ _ _ fun _ _ => print_composed _ _ _
  | step => exact print_composed _ _ _
  | quit =>
    refine forbidUnderGlobal_bind 'q' fun single => ?_
    exact .bind (requireNoAddress_composed range) fun _ => (Composed.quit single).atOnce
  | append => exact forbidUnderGlobal_bind 'a' fun single => (append_composed single _).atOnce
  | change =>
    refine forbidUnderGlobal_bind 'c' fun single => ?_
    refine settle_bind _ _ _ fun range positive => ?_
    apply Composed.atOnce
    apply Composed.bind (.act (.delete positive _))
    intro _
    exact .bind (.act (.minus _ _)) fun n => append_composed single n
  | delete =>
    refine settle_bind _ _ _ fun range positive => ?_
    apply Composed.atOnce
    apply Composed.bind (.act (.delete positive _))
    intro _
    refine buffer_bind_composed (fun _ _ alike => by simp only [alike.current, alike.nextLine]) ?_
    intro b
    dsimp only
    split
    · exact setCurrent_composed _
    · exact .pure _
  | insert => exact forbidUnderGlobal_bind 'i' fun single => (append_composed single _).atOnce
  | lineNumber => exact (Composed.spoken (writeLine_spoken _)).atOnce
  | move destination =>
    apply Composed.bind (.ask (.target destination))
    intro target
    exact settle_bind _ _ _ fun _ positive => move_composed positive target
  | substitute substitution =>
    refine settle_bind _ _ _ fun range positive => ?_
    exact .bind (.substitute rfl positive underGlobal) fun _ => .pure _
  | edit name =>
    apply Composed.bind (requireNoAddress_composed range)
    intro _
    apply Composed.bind (resolveFilename_composed rfl name)
    intro path
    apply Composed.bind (.name rfl path)
    intro _
    apply Composed.bind (openFile_composed path)
    intro entry
    have cleared : Composed ((Action.edit name).powers underGlobal) .reading .reading
        (Procedure.edit (Edit.change fun b => .ok b.clear)) := .alter (.inr ⟨rfl, rfl⟩) .clear
    exact .weaken (by decide) (by decide) (.bind cleared fun _ => load_composed rfl path entry 0)
  | filename name =>
    apply Composed.bind (requireNoAddress_composed range)
    intro _
    apply Composed.bind (resolveFilename_composed rfl name)
    intro path
    exact Composed.atOnce (.bind (.spoken (.write _)) fun _ => .name rfl path)
  | read name =>
    exact .bind (resolveFilename_composed rfl name) fun path => readFile_composed rfl path _
  | write name =>
    apply Composed.bind (resolveFilename_composed rfl name)
    intro path
    exact settle_bind _ _ _ fun range _ => writeFile_composed path range
  | explain => exact (Composed.spoken explainLast_spoken).atOnce
  | toggleExplain => exact (Composed.spoken toggleExplain_spoken).atOnce

theorem execute_composed (command : Command) (underGlobal : Bool) :
    Composed (command.action.powers underGlobal) .checking .acting
      (execute command underGlobal) := by
  apply Composed.bind (.ask (.range command.addresses))
  intro range
  apply Composed.bind (perform_composed command.action range underGlobal)
  intro _
  refine buffer_bind_composed (fun _ _ alike => by simp only [alike.current]) fun b => ?_
  dsimp only
  split
  · rename_i asked
    exact print_acting asked.2 _ _
  · exact .pure _

end Procedure

/-! ### What every step carries on -/

/-- One step of a procedure, other than an edit, leads from the session to this one. -/
inductive Session.Noted (powers : Powers) (session : Session) : Session → Prop where
  | name (asked : powers.names) (path : Text) :
      Noted powers session { session with filename := some path }
  | files (files : Files) : Noted powers session { session with files }
  | quit (asked : powers.converses) : Noted powers session { session with running := false }
  | input (asked : powers.converses) {input : Bytes} (suffix : input <:+ session.input) :
      Noted powers session { session with input }
  | output {output : Output} (grows : session.output.Grows output) :
      Noted powers session { session with output }
  | explain (explain : Bool) : Noted powers session { session with options.explain := explain }
  | failure (asked : powers.reports) (failure : Failure) :
      Noted powers session { session with lastFailure := some failure }

theorem Session.Noted.editor {powers : Powers} {session after : Session}
    (noted : session.Noted powers after) : after.editor = session.editor := by
  cases noted <;> rfl

inductive Edit.Basic (powers : Powers) : {α : Type} → Edit α → Prop where
  | asks {α : Type} {operation : Edit α} (asks : operation.Asks) : Basic powers operation
  | alters {α : Type} {operation : Edit α} (alters : operation.Alters powers) :
      Basic powers operation
  | substitute {substitution : Substitution} (asked : powers.substitutes substitution)
      {range : Range} (positive : 0 < range.first) (underGlobal : Bool) :
      Basic powers (substitution.apply range underGlobal)

namespace Procedure

/-- A relation of sessions that leads from one to the next whatever single step is made. -/
structure Carried (powers : Powers) (R : Session → Session → Prop) : Prop extends Steady R where
  noted : ∀ {session after : Session}, session.Noted powers after → R session after
  edited : ∀ {α : Type} {operation : Edit α}, operation.Basic powers → Keeps R (edit operation)

namespace Carried
variable {R : Session → Session → Prop}

theorem request (carried : Carried powers R) {call : Output → Output × Option Refusal}
    (grows : ∀ output : Output, output.Grows (call output).1) : Keeps R (request call) := by
  intro session
  have led := carried.noted (.output (grows session.output))
  rw [run_request]
  rcases ran : call session.output with ⟨output, _ | refusal⟩ <;> rwa [ran] at led

theorem readLine (carried : Carried powers R) (asked : powers.converses) :
    Keeps R Procedure.readLine := by
  intro session
  rw [run_readLine]
  exact carried.noted (.input asked (Bytes.takeLine_suffix session.input))

theorem takeTyped (carried : Carried powers R) (asked : powers.converses) :
    Keeps R Procedure.takeTyped := by
  intro session
  change R session (takeTypedFrom session).2
  fun_induction takeTypedFrom session with
  | case1 session stop after read => exact (carried.readLine asked).of_run read
  | case2 session after read => exact (carried.readLine asked).of_run read
  | case3 session line after read _ stop stopped inserted =>
    have put := carried.edited (.alters (.insert (readLine_isLine read)))
    exact carried.trans ((carried.readLine asked).of_run read) (put.of_run inserted)
  | case4 session line after read _ _ put inserted ih =>
    have led := carried.edited (.alters (.insert (readLine_isLine read)))
    have typed := carried.trans ((carried.readLine asked).of_run read) (led.of_run inserted)
    exact carried.trans typed ih

theorem spoken (carried : Carried powers R) {procedure : Procedure Unit}
    (spoken : Spoken powers.reports procedure) : Keeps R procedure := by
  induction spoken with
  | silence => exact carried.pure _
  | write text => exact carried.request fun output => output.write_grows _
  | flush => exact carried.request Output.flush_grows
  | toggle => exact keeps_modify fun _ => carried.noted (.explain _)
  | remember asked failure => exact keeps_modify fun _ => carried.noted (.failure asked failure)
  | bind _ _ before after => exact carried.bind before fun _ => after
  | consult _ _ after => exact carried.bind carried.get after

theorem store (carried : Carried powers R) (path : Text) (content : Bytes) :
    Keeps R (storeFile path content) := by
  apply carried.bind carried.get
  intro session
  refine carried.bind (keeps_modify fun _ => carried.noted (.files _)) fun _ => ?_
  split
  · exact carried.pure _
  · exact carried.throw _

theorem composed (carried : Carried powers R) {procedure : Procedure α}
    (composed : Composed powers p q procedure) : Keeps R procedure := by
  induction composed with
  | pure a => exact carried.pure a
  | fail _ failure => exact carried.throw _
  | stop _ => exact carried.throw _
  | weaken _ _ _ kept => exact kept
  | bind _ _ before after => exact carried.bind before after
  | look _ _ after => exact carried.bind carried.get after
  | ask asks => exact carried.edited (.asks asks)
  | alter _ alters => exact carried.edited (.alters alters)
  | substitute asked positive underGlobal =>
    exact carried.edited (.substitute asked positive underGlobal)
  | name asked path => exact keeps_modify fun _ => carried.noted (.name asked path)
  | store path content => exact carried.store path content
  | quit asked => exact keeps_modify fun _ => carried.noted (.quit asked)
  | takeTyped asked => exact carried.takeTyped asked
  | spoken spoken => exact carried.spoken spoken

theorem perform (carried : Carried powers R) {action : Action} {underGlobal : Bool}
    (within : (action.powers underGlobal).Within powers) (range : Range) :
    Keeps R (perform action range underGlobal) :=
  carried.composed ((perform_composed action range underGlobal).mono within)

theorem execute (carried : Carried powers R) {command : Command} {underGlobal : Bool}
    (within : (command.action.powers underGlobal).Within powers) :
    Keeps R (execute command underGlobal) :=
  carried.composed ((execute_composed command underGlobal).mono within)

end Carried

end Procedure

end LineEditor
