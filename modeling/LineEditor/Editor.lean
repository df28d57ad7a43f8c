import LineEditor.Address
import LineEditor.Buffer
import LineEditor.Conduct
import LineEditor.Pattern
import LineEditor.Statement

/-!
What commands work on: the buffer and the pattern that was used last. An `Edit` that stops leaves
the editor as it was at the stop. Edits look addresses up, mark lines and substitute.
-/

namespace LineEditor

structure Editor where
  buffer : Buffer
  active : ActivePattern
  deriving Inhabited

abbrev Edit := ExceptT Stop (StateM Editor)

namespace Edit

def fail {α : Type} (failure : Failure) : Edit α := throw (.failed failure)

def buffer : Edit Buffer := return (← get).buffer

theorem run_buffer_bind {α : Type} (next : Buffer → Edit α) (editor : Editor) :
    (buffer >>= next).run editor = (next editor.buffer).run editor := rfl

def change (operation : Buffer → Except OutOfBounds Buffer) : Edit Unit := do
  match operation (← get).buffer with
  | .ok buffer => modify ({ · with buffer })
  | .error stopped =>
    modify ({ · with buffer := stopped.left })
    throw .outOfBounds

def minus (n m : Nat) : Edit Nat := if m ≤ n then return n - m else throw .outOfBounds

def setCurrent (n : Nat) : Edit Unit :=
  modify fun editor => { editor with buffer := editor.buffer.setCurrent n }

def usePattern (pattern : Text) (ignoreCase : Bool) : Edit Regex := do
  match (← get).active.use pattern ignoreCase with
  | .ok (regex, active) =>
    modify ({ · with active })
    return regex
  | .error failure => fail failure

end Edit

/-! ### Addresses -/

namespace Buffer

/-- Goes forward from line to line after `n`, around the end, until the test accepts a line or
`start` is reached. A `start` that is not reached in `steps` lines is none of the buffer. -/
def findFrom (b : Buffer) (accepts : Text → Bool) (start : Nat) :
    Nat → Nat → Except OutOfBounds (Option Nat)
  | 0, _ => .error ⟨b⟩
  | steps + 1, n =>
    let n := b.nextLine n
    match b.text? n with
    | none => .error ⟨b⟩
    | some text =>
      if n ≠ 0 ∧ accepts text then .ok (some n)
      else if n = start then .ok none
      else b.findFrom accepts start steps n

def findForward (b : Buffer) (accepts : Text → Bool) : Except OutOfBounds (Option Nat) :=
  b.findFrom accepts b.current (b.last + 1) b.current

end Buffer

/-- A range of lines, and how many addresses it was given by, two at most. -/
structure Range where
  first : Nat := 0
  final : Nat := 0
  given : Nat := 0
  deriving DecidableEq, Repr, Inhabited

namespace Range

def withDefault (range : Range) (first final : Nat) : Range :=
  if range.given = 0 then { range with first, final } else range

def check (range : Range) : Except Failure Range :=
  if range.final < range.first ∨ range.first = 0 then .error .invalidRange else .ok range

def settle (range : Range) (first final : Nat) : Except Failure Range :=
  (range.withDefault first final).check

theorem settle_positive {range settled : Range} {first final : Nat}
    (ran : range.settle first final = .ok settled) : 0 < settled.first := by
  unfold settle check at ran
  split at ran
  · cases ran
  · rename_i valid
    cases ran
    exact Nat.pos_of_ne_zero fun zero => valid (.inr zero)

/-- Only the last address counts where one is given, and the last two where more are. -/
def ofLookups (range : Range) (current : Nat) : Range :=
  match range.given with
  | 0 => ⟨current, current, 0⟩
  | 1 => ⟨range.final, range.final, 1⟩
  | _ => { range with given := 2 }

end Range

namespace Term

def resolve : Term → Edit Nat
  | line n => return n
  | current => return (← Edit.buffer).current
  | last => return (← Edit.buffer).last
  | search pattern delimiter => do
    let regex ← Edit.usePattern (Pattern.unescapeDelimiter pattern delimiter) false
    match (← Edit.buffer).findForward regex.matchesLine with
    | .ok (some n) => return n
    | .ok none => Edit.fail .noMatch
    | .error _ => throw .outOfBounds

end Term

/-- The sum, if it is not below 0. -/
def checkedSum (base : Nat) (offset : Int) : Option Nat :=
  if 0 ≤ base + offset then some (base + offset).toNat else none

namespace Address

def resolve (address : Address) : Edit Nat := do
  match checkedSum (← address.term.resolve) address.offset with
  | none => Edit.fail .invalidAddress
  | some line =>
    if line ≤ (← Edit.buffer).last then return line else Edit.fail .invalidAddress

end Address

namespace AddressList

def resolveFrom : AddressList → Range → Edit Range
  | [], range => return range
  | (address, separator) :: rest, range => do
    let line ← address.resolve
    if separator = .semicolon then Edit.setCurrent line
    resolveFrom rest ⟨range.final, line, range.given + 1⟩

def resolve (addresses : AddressList) : Edit Range := do
  let range ← addresses.resolveFrom {}
  return range.ofLookups (← Edit.buffer).current

end AddressList

/-! ### What looking addresses up keeps -/

variable {R : Editor → Editor → Prop}

theorem Edit.keeps_usePattern (steady : Steady R) {pattern : Text} {ignoreCase : Bool}
    (uses : ∀ {editor : Editor} {regex : Regex} {active : ActivePattern},
      editor.active.use pattern ignoreCase = .ok (regex, active) →
        R editor { editor with active }) :
    Keeps R (usePattern pattern ignoreCase) := by
  intro editor
  simp only [usePattern, run_bind, run_get]
  split
  · next used => exact uses used
  · exact steady.refl editor

theorem Term.keeps_resolve (steady : Steady R)
    (uses : ∀ pattern, Keeps R (Edit.usePattern pattern false)) (term : Term) :
    Keeps R term.resolve := by
  cases term with
  | line n => exact steady.pure n
  | current => exact steady.refl
  | last => exact steady.refl
  | search pattern delimiter =>
    apply steady.bind (uses _)
    intro regex
    apply steady.bind (show Keeps R Edit.buffer from steady.refl)
    intro b
    split
    · exact steady.pure _
    · exact steady.throw _
    · exact steady.throw _

theorem Address.keeps_resolve (steady : Steady R)
    (uses : ∀ pattern, Keeps R (Edit.usePattern pattern false)) (address : Address) :
    Keeps R address.resolve := by
  apply steady.bind (address.term.keeps_resolve steady uses)
  intro base
  split
  · exact steady.throw _
  · apply steady.bind (show Keeps R Edit.buffer from steady.refl)
    intro b
    split
    · exact steady.pure _
    · exact steady.throw _

theorem AddressList.keeps_resolve (steady : Steady R)
    (uses : ∀ pattern, Keeps R (Edit.usePattern pattern false))
    (moves : ∀ n, Keeps R (Edit.setCurrent n)) (addresses : AddressList) :
    Keeps R addresses.resolve := by
  have each (range : Range) : Keeps R (addresses.resolveFrom range) := by
    induction addresses generalizing range with
    | nil => exact steady.pure range
    | cons first rest ih =>
      apply steady.bind (first.1.keeps_resolve steady uses)
      intro line
      split
      · exact steady.bind (moves line) fun _ => ih _
      · exact ih _
  exact steady.bind (each {}) fun _ =>
    steady.bind (show Keeps R Edit.buffer from steady.refl) fun _ => steady.pure _

/-! ### Marking -/

namespace Buffer

/-- Marks the lines of the range that match, or those that do not; every other line loses its
mark. -/
def markLines (b : Buffer) (regex : Regex) (range : Range) (invert : Bool) : Buffer :=
  { b with
    slots := b.slots.mapIdx fun n line =>
      if n = 0 then line
      else { line with
        marked := range.first ≤ n && n ≤ range.final && regex.matchesLine line.text != invert }
    nonempty := by simpa using b.nonempty }

end Buffer

/-! ### Substitution -/

namespace Substitution

def newBody (substitution : Substitution) (regex : Regex) (body : Text) : Text :=
  let template := Replacement.template substitution.replacement
  if substitution.everywhere then regex.replaceAll body template
  else regex.replaceFirst body template

def replaceLine (n : Nat) (text : Text) : Edit Unit := do
  Edit.change (·.delete n n)
  Edit.setCurrent (← Edit.minus n 1)
  Edit.change (·.insert text)

def applyFrom (substitution : Substitution) (regex : Regex) (n : Nat) : Nat → Edit Nat
  | 0 => return 0
  | count + 1 => do
    match (← Edit.buffer).text? n with
    | none => throw .outOfBounds
    | some text =>
      let body := substitution.newBody regex text.body
      if body = text.body then applyFrom substitution regex (n + 1) count
      else
        replaceLine n (body ++ text.terminator)
        return (← applyFrom substitution regex (n + 1) count) + 1

/-- Substitutes on every line of the range; the number of lines that changed. To change none is a
failure, other than for a line that a global command visits. -/
def apply (substitution : Substitution) (range : Range) (underGlobal : Bool) : Edit Nat := do
  let pattern := Pattern.unescapeDelimiter substitution.pattern substitution.delimiter
  let regex ← Edit.usePattern pattern substitution.ignoreCase
  let changed ← substitution.applyFrom regex range.first (range.final + 1 - range.first)
  if changed = 0 ∧ !underGlobal then Edit.fail .noMatch else return changed

end Substitution

/-! ### What becomes of the lines -/

def Editor.Descends (before after : Editor) : Prop := before.buffer.Descends after.buffer

theorem Editor.steady_descends : Steady Editor.Descends where
  refl editor := .refl editor.buffer
  trans := Buffer.Descends.trans

open Editor (Descends steady_descends)

namespace Edit

theorem buffer_descends : Keeps Descends buffer :=
  steady_descends.bind steady_descends.get fun _ => steady_descends.pure _

theorem change_descends {operation : Buffer → Except OutOfBounds Buffer}
    (leads : ∀ b : Buffer, b.Descends (Buffer.leftBy (operation b))) :
    Keeps Descends (change operation) := by
  refine fun editor => ?_
  have led := leads editor.buffer
  simp only [change, run_bind, run_get]
  cases ran : operation editor.buffer <;> rw [ran] at led <;> exact led

theorem setCurrent_descends (n : Nat) : Keeps Descends (setCurrent n) :=
  keeps_modify fun editor => editor.buffer.setCurrent_descends n

theorem minus_descends (n m : Nat) : Keeps Descends (minus n m) := by
  unfold minus
  split
  · exact steady_descends.pure _
  · exact steady_descends.throw _

theorem usePattern_descends (pattern : Text) (ignoreCase : Bool) :
    Keeps Descends (usePattern pattern ignoreCase) :=
  keeps_usePattern steady_descends fun _ => .refl _

end Edit

theorem Address.resolve_descends (address : Address) : Keeps Descends address.resolve :=
  address.keeps_resolve steady_descends fun pattern => Edit.usePattern_descends pattern false

theorem AddressList.resolve_descends (addresses : AddressList) : Keeps Descends addresses.resolve :=
  addresses.keeps_resolve steady_descends (fun pattern => Edit.usePattern_descends pattern false)
    Edit.setCurrent_descends

namespace Substitution

theorem replaceLine_descends (n : Nat) (text : Text) : Keeps Descends (replaceLine n text) := by
  refine steady_descends.bind (Edit.change_descends fun b => b.delete_descends n n) fun _ => ?_
  apply steady_descends.bind (Edit.minus_descends n 1)
  intro previous
  exact steady_descends.bind (Edit.setCurrent_descends previous) fun _ =>
    Edit.change_descends fun b => b.insert_descends text

theorem applyFrom_descends (substitution : Substitution) (regex : Regex) (n count : Nat) :
    Keeps Descends (substitution.applyFrom regex n count) := by
  induction count generalizing n with
  | zero => exact steady_descends.pure 0
  | succ count ih =>
    apply steady_descends.bind Edit.buffer_descends
    intro b
    split
    · exact steady_descends.throw _
    · dsimp only
      split
      · exact ih _
      · exact steady_descends.bind (replaceLine_descends n _) fun _ =>
          steady_descends.bind (ih _) fun _ => steady_descends.pure _

theorem apply_descends (substitution : Substitution) (range : Range) (underGlobal : Bool) :
    Keeps Descends (substitution.apply range underGlobal) := by
  apply steady_descends.bind (Edit.usePattern_descends _ _)
  intro regex
  apply steady_descends.bind (substitution.applyFrom_descends regex _ _)
  intro changed
  split
  · exact steady_descends.throw _
  · exact steady_descends.pure _

end Substitution

end LineEditor
