import LineEditor.Text

/-!
The edit buffer: numbered slots and a current line. Slot 0 stands before the first line and is
never listed; lines 1 up to `last` are the text. Blocks of lines travel by three reversals, so a
mark moves with its line. An operation that is asked for a slot outside the buffer stops, and what
it had done by then stays done: `OutOfBounds` holds the buffer as it was left.
-/

namespace LineEditor

/-- A stored line, newline included, and whether a global command still has to visit it. The serial
number says which line it is: a line keeps its own wherever it moves, and no other line gets it. -/
structure Line where
  text : Text := []
  marked : Bool := false
  serial : Nat := 0
  deriving DecidableEq, Repr, Inhabited

structure Buffer where
  slots : Array Line
  current : Nat
  /-- The serial number that was given out last; slot 0 has number 0. -/
  issued : Nat
  nonempty : 0 < slots.size
  deriving DecidableEq, Repr

/-- A slot outside the buffer was asked for; `left` is the buffer as the operation left it. -/
structure OutOfBounds where
  left : Buffer
  deriving DecidableEq, Repr

namespace Buffer

def empty : Buffer := ⟨#[{}], 0, 0, by simp⟩

instance : Inhabited Buffer := ⟨empty⟩

def last (b : Buffer) : Nat := b.slots.size - 1

def isEmpty (b : Buffer) : Bool := b.last = 0

def lines (b : Buffer) : List Line := b.slots.toList.tail

theorem size_eq (b : Buffer) : b.slots.size = b.last + 1 := by
  have := b.nonempty
  unfold last
  omega

theorem length_lines (b : Buffer) : b.lines.length = b.last := by
  simp [lines, last]

/-! ### Reading -/

def line? (b : Buffer) (n : Nat) : Option Line := b.slots[n]?

theorem line?_succ (b : Buffer) (n : Nat) : b.line? (n + 1) = b.lines[n]? := by
  rw [line?, lines, List.getElem?_tail, Array.getElem?_toList]

def text? (b : Buffer) (n : Nat) : Option Text := (b.line? n).map (·.text)

def marked? (b : Buffer) (n : Nat) : Option Bool := (b.line? n).map (·.marked)

/-- The texts of slots `first` up to `final`; none of them if `first` is the slot after `final`. -/
def texts? (b : Buffer) (first final : Nat) : Option (List Text) :=
  if first ≤ final + 1 ∧ final < b.slots.size then
    some ((b.slots.extract first (final + 1)).toList.map (·.text))
  else none

def markedNumbers (b : Buffer) : List Nat :=
  (List.range' 1 b.last).filter fun n => b.marked? n = some true

/-- The line after `n`, 0 after the last one. -/
def nextLine (b : Buffer) (n : Nat) : Nat := if b.last ≤ n then 0 else n + 1

/-- The slot before `n`, the last line before slot 0. -/
def previousLine (b : Buffer) (n : Nat) : Nat := if n = 0 then b.last else n - 1

/-! ### Changing one thing -/

def setCurrent (b : Buffer) (n : Nat) : Buffer := { b with current := min n b.last }

theorem take_nonempty (b : Buffer) (n : Nat) : 0 < (b.slots.take (n + 1)).size := by
  have := b.nonempty
  simp; omega

def truncate (b : Buffer) (n : Nat) : Buffer :=
  { b with slots := b.slots.take (n + 1), nonempty := b.take_nonempty n }

def clear (b : Buffer) : Buffer := { b.truncate 0 with current := 0 }

def modifyLine (b : Buffer) (n : Nat) (change : Line → Line) : Except OutOfBounds Buffer :=
  if n < b.slots.size then
    .ok { b with slots := b.slots.modify n change, nonempty := by simpa using b.nonempty }
  else .error ⟨b⟩

def put (b : Buffer) (n : Nat) (text : Text) : Except OutOfBounds Buffer :=
  b.modifyLine n ({ · with text })

def setMark (b : Buffer) (n : Nat) (marked : Bool) : Except OutOfBounds Buffer :=
  b.modifyLine n ({ · with marked })

/-! ### Moving lines -/

def reverseSlots (slots : Array Line) (first final : Nat) : Array Line :=
  slots.extract 0 first ++ (slots.extract first (final + 1)).reverse
    ++ slots.extract (final + 1) slots.size

theorem size_reverseSlots (slots : Array Line) {first final : Nat} (ordered : first ≤ final)
    (inside : final < slots.size) : (reverseSlots slots first final).size = slots.size := by
  simp only [reverseSlots, Array.size_append, Array.size_reverse, Array.size_extract]
  omega

theorem toList_reverseSlots (slots : Array Line) (first final : Nat) :
    (reverseSlots slots first final).toList =
      slots.toList.take first ++ ((slots.toList.drop first).take (final + 1 - first)).reverse
        ++ slots.toList.drop (final + 1) := by
  simp [reverseSlots, List.take_of_length_le]

/-- Reverses the order of lines `first` up to `final`. A block of one line or none needs no slot. -/
def reverse (b : Buffer) (first final : Nat) : Except OutOfBounds Buffer :=
  if ordered : first < final then
    if inside : final < b.slots.size then
      .ok { b with
        slots := reverseSlots b.slots first final
        nonempty := by
          rw [size_reverseSlots b.slots (Nat.le_of_lt ordered) inside]; exact b.nonempty }
    else .error ⟨b⟩
  else .ok b

/-- Moves lines `first` up to `final` to stand right after line `target`. A target inside the
block, or right before it, changes nothing. -/
def moveBlock (b : Buffer) (first final target : Nat) : Except OutOfBounds Buffer :=
  if target + 1 < first then do
    let b ← b.reverse (target + 1) (first - 1)
    let b ← b.reverse first final
    b.reverse (target + 1) final
  else if final < target then do
    let b ← b.reverse first final
    let b ← b.reverse (final + 1) target
    b.reverse first target
  else .ok b

def push (b : Buffer) (text : Text) : Buffer :=
  { b with
    slots := b.slots.push { text, serial := b.issued + 1 }
    issued := b.issued + 1
    nonempty := by simp }

def insert (b : Buffer) (text : Text) : Except OutOfBounds Buffer := do
  let pushed := b.push text
  let b ← pushed.moveBlock pushed.last pushed.last b.current
  .ok { b with current := b.current + 1 }

/-- Deletes lines `first` up to `final` by moving them to the end; the line before them becomes
current. -/
def delete (b : Buffer) (first final : Nat) : Except OutOfBounds Buffer := do
  let moved ← b.moveBlock first final b.last
  if final < first ∨ b.last < final - first + 1 then .error ⟨moved⟩
  else
    let kept := moved.truncate (b.last - (final - first + 1))
    .ok { kept with current := kept.previousLine first }

def ofTexts (texts : List Text) : Except OutOfBounds Buffer := texts.foldlM insert empty

end Buffer

/-! ### Buffers that are alike -/

def Line.view (marks : Bool) (line : Line) : Text × Bool := (line.text, marks && line.marked)

namespace Buffer

/-- The buffers hold the same texts, slot 0 included, and the same line is current in them. Where
marks matter these are the same too. -/
structure Alike (marks : Bool) (b b' : Buffer) : Prop where
  slots : b.slots.toList.map (Line.view marks) = b'.slots.toList.map (Line.view marks)
  current : b.current = b'.current

namespace Alike
variable {marks : Bool} {b b' : Buffer}

theorem texts (alike : b.Alike marks b') :
    b.slots.toList.map (·.text) = b'.slots.toList.map (·.text) := by
  have texts := congrArg (List.map Prod.fst) alike.slots
  rwa [List.map_map, List.map_map] at texts

theorem sameMarks (alike : b.Alike true b') :
    b.slots.toList.map (·.marked) = b'.slots.toList.map (·.marked) := by
  have marks := congrArg (List.map Prod.snd) alike.slots
  rwa [List.map_map, List.map_map] at marks

theorem size (alike : b.Alike marks b') : b.slots.size = b'.slots.size := by
  have length := congrArg List.length alike.slots
  rwa [List.length_map, List.length_map, Array.length_toList, Array.length_toList] at length

theorem last (alike : b.Alike marks b') : b.last = b'.last := by
  rw [Buffer.last, Buffer.last, alike.size]

theorem nextLine (alike : b.Alike marks b') (n : Nat) : b.nextLine n = b'.nextLine n := by
  rw [Buffer.nextLine, Buffer.nextLine, alike.last]

theorem texts? (alike : b.Alike marks b') (first final : Nat) :
    b.texts? first final = b'.texts? first final := by
  simp only [Buffer.texts?, alike.size, Array.toList_extract, List.extract_eq_take_drop,
    List.map_take, List.map_drop, alike.texts]

end Alike

end Buffer

/-! ### What becomes of the lines -/

namespace Buffer

/-- The serial numbers tell the slots apart, and none is yet to be given out. -/
structure Distinct (b : Buffer) : Prop where
  nodup : (b.slots.toList.map (·.serial)).Nodup
  serial_le : ∀ line ∈ b.slots.toList, line.serial ≤ b.issued

/-- A test that new lines fail: an unmarked line with a serial number yet to be given out. -/
def FailsOnNew (b : Buffer) (p : Line → Bool) : Prop :=
  ∀ line, line.marked = false → b.issued < line.serial → p line = false

/-- Each slot of the later buffer is one of the earlier buffer, or new and unmarked. -/
structure Descends (before after : Buffer) : Prop where
  issued_le : before.issued ≤ after.issued
  countP_le : ∀ p, before.FailsOnNew p → after.slots.toList.countP p ≤ before.slots.toList.countP p
  distinct : before.Distinct → after.Distinct

theorem FailsOnNew.mono {before after : Buffer} {p : Line → Bool} (fails : before.FailsOnNew p)
    (later : before.issued ≤ after.issued) : after.FailsOnNew p :=
  fun line unmarked new => fails line unmarked (Nat.lt_of_le_of_lt later new)

namespace Descends

theorem refl (b : Buffer) : b.Descends b := ⟨Nat.le_refl _, fun _ _ => Nat.le_refl _, id⟩

theorem trans {a b c : Buffer} (first : a.Descends b) (second : b.Descends c) : a.Descends c where
  issued_le := Nat.le_trans first.issued_le second.issued_le
  countP_le p fails :=
    Nat.le_trans (second.countP_le p (fails.mono first.issued_le)) (first.countP_le p fails)
  distinct := second.distinct ∘ first.distinct

theorem of_perm {before after : Buffer} (issued : after.issued = before.issued)
    (order : after.slots.toList.Perm before.slots.toList) : before.Descends after where
  issued_le := Nat.le_of_eq issued.symm
  countP_le p _ := Nat.le_of_eq (order.countP_eq p)
  distinct distinct :=
    ⟨(order.map (·.serial)).nodup_iff.2 distinct.nodup,
      fun line member => issued ▸ distinct.serial_le line (order.mem_iff.1 member)⟩

theorem of_slots {before after : Buffer} (issued : after.issued = before.issued)
    (slots : after.slots = before.slots) : before.Descends after :=
  of_perm issued (by rw [slots])

theorem of_sublist {before after : Buffer} (issued : after.issued = before.issued)
    (fewer : after.slots.toList.Sublist before.slots.toList) : before.Descends after where
  issued_le := Nat.le_of_eq issued.symm
  countP_le _ _ := fewer.countP_le
  distinct distinct :=
    ⟨(fewer.map (·.serial)).nodup distinct.nodup,
      fun line member => issued ▸ distinct.serial_le line (fewer.subset member)⟩

-- A marked line was there before as it is now, and so was a line whose serial number was given out
-- before.
theorem mem {before after : Buffer} (descends : before.Descends after) {line : Line}
    (member : line ∈ after.slots.toList)
    (old : line.marked = true ∨ line.serial ≤ before.issued) : line ∈ before.slots.toList := by
  -- Being this very line is a test that no new line passes.
  have fails : before.FailsOnNew (· == line) := by
    intro other unmarked new
    apply beq_eq_false_iff_ne.2
    rintro rfl
    rcases old with marked | given
    · rw [marked] at unmarked
      cases unmarked
    · omega
  have found : 0 < after.slots.toList.countP (· == line) :=
    List.countP_pos_iff.2 ⟨line, member, beq_self_eq_true line⟩
  obtain ⟨same, there, equal⟩ :=
    List.countP_pos_iff.1 (Nat.lt_of_lt_of_le found (descends.countP_le _ fails))
  exact (beq_iff_eq.1 equal) ▸ there

end Descends

def markCount (b : Buffer) : Nat := b.slots.toList.countP (·.marked)

theorem Descends.markCount_le {before after : Buffer} (descends : before.Descends after) :
    after.markCount ≤ before.markCount :=
  descends.countP_le _ fun _ unmarked _ => unmarked

/-! ### The operations -/

/-- The buffer that an operation leaves, be it that it stopped. -/
def leftBy : Except OutOfBounds Buffer → Buffer
  | .ok b => b
  | .error stopped => stopped.left

theorem descends_bind {b : Buffer} {first : Except OutOfBounds Buffer}
    {next : Buffer → Except OutOfBounds Buffer} (before : b.Descends (leftBy first))
    (after : ∀ middle, first = .ok middle → middle.Descends (leftBy (next middle))) :
    b.Descends (leftBy (first >>= next)) := by
  cases first with
  | error stopped => exact before
  | ok middle => exact before.trans (after middle rfl)

theorem setCurrent_descends (b : Buffer) (n : Nat) : b.Descends (b.setCurrent n) :=
  .of_slots rfl rfl

theorem truncate_descends (b : Buffer) (n : Nat) : b.Descends (b.truncate n) :=
  .of_sublist rfl (by simpa [truncate] using List.take_sublist _ _)

theorem clear_descends (b : Buffer) : b.Descends b.clear :=
  (truncate_descends b 0).trans (.of_slots rfl rfl)

theorem reverseSlots_perm (slots : Array Line) {first final : Nat} (ordered : first ≤ final + 1) :
    (reverseSlots slots first final).toList.Perm slots.toList := by
  have rest : slots.toList.drop (final + 1)
      = (slots.toList.drop first).drop (final + 1 - first) := by
    rw [List.drop_drop, Nat.add_sub_cancel' ordered]
  have whole : slots.toList.take first ++ ((slots.toList.drop first).take (final + 1 - first)
      ++ (slots.toList.drop first).drop (final + 1 - first)) = slots.toList := by
    rw [List.take_append_drop, List.take_append_drop]
  rw [toList_reverseSlots, rest, List.append_assoc]
  exact (((List.reverse_perm _).append_right _).append_left _).trans (.of_eq whole)

theorem reverse_descends (b : Buffer) (first final : Nat) :
    b.Descends (leftBy (b.reverse first final)) := by
  unfold reverse
  split
  · rename_i ordered
    split
    · exact .of_perm rfl (reverseSlots_perm b.slots (by omega))
    · exact .refl b
  · exact .refl b

theorem moveBlock_descends (b : Buffer) (first final target : Nat) :
    b.Descends (leftBy (b.moveBlock first final target)) := by
  unfold moveBlock
  split
  · exact descends_bind (b.reverse_descends _ _) fun b _ =>
      descends_bind (b.reverse_descends _ _) fun b _ => b.reverse_descends _ _
  · split
    · exact descends_bind (b.reverse_descends _ _) fun b _ =>
        descends_bind (b.reverse_descends _ _) fun b _ => b.reverse_descends _ _
    · exact .refl b

theorem push_descends (b : Buffer) (text : Text) : b.Descends (b.push text) where
  issued_le := Nat.le_succ _
  countP_le p fails := by
    have new := fails { text, serial := b.issued + 1 } rfl (Nat.lt_succ_self _)
    simp [push, new]
  distinct distinct := by
    constructor
    · have fresh : b.issued + 1 ∉ b.slots.toList.map (·.serial) := by
        intro member
        obtain ⟨line, there, same⟩ := List.mem_map.1 member
        have := distinct.serial_le line there
        omega
      simpa [push, List.nodup_append, distinct.nodup] using fresh
    · intro line member
      simp only [push, Array.toList_push, List.mem_append, List.mem_singleton] at member
      rcases member with old | rfl
      · exact Nat.le_succ_of_le (distinct.serial_le line old)
      · exact Nat.le_refl _

theorem insert_descends (b : Buffer) (text : Text) : b.Descends (leftBy (b.insert text)) :=
  (push_descends b text).trans <|
    descends_bind ((b.push text).moveBlock_descends _ _ _) fun _ _ => .of_slots rfl rfl

theorem delete_descends (b : Buffer) (first final : Nat) :
    b.Descends (leftBy (b.delete first final)) := by
  apply descends_bind (b.moveBlock_descends _ _ _)
  intro moved _
  split
  · exact .refl moved
  · exact (moved.truncate_descends _).trans (.of_slots rfl rfl)

/-! ### Marks -/

theorem marked?_eq_some_iff {b : Buffer} {n : Nat} {marked : Bool} :
    b.marked? n = some marked ↔ ∃ line, b.line? n = some line ∧ line.marked = marked :=
  Option.map_eq_some_iff

-- The marks aside, nothing changes; and of the marks only the one that is set.
theorem setMark_eq {b : Buffer} {n : Nat} {line : Line} (found : b.line? n = some line)
    (marked : Bool) :
    ∃ front back after, b.setMark n marked = .ok after ∧ front.length = n
      ∧ b.slots.toList = front ++ line :: back
      ∧ after.slots.toList = front ++ { line with marked } :: back
      ∧ after.issued = b.issued ∧ after.current = b.current := by
  obtain ⟨inside, same⟩ := Array.getElem?_eq_some_iff.1 found
  have inList : n < b.slots.toList.length := by simpa using inside
  have there : b.slots.toList[n] = line := by simpa using same
  refine ⟨b.slots.toList.take n, b.slots.toList.drop (n + 1), _, dif_pos inside, ?_, ?_, ?_, rfl,
    rfl⟩
  · rw [List.length_take, Nat.min_eq_left (Nat.le_of_lt inList)]
  · rw [← there, ← List.drop_eq_getElem_cons inList, List.take_append_drop]
  · rw [Array.toList_modify, List.modify_eq_take_cons_drop inList, there]

theorem setMark_of_marked {b : Buffer} {n : Nat} (marked : b.marked? n = some true) (mark : Bool) :
    ∃ after, b.setMark n mark = .ok after := by
  obtain ⟨line, found, _⟩ := marked?_eq_some_iff.1 marked
  obtain ⟨_, _, after, ran, _⟩ := setMark_eq found mark
  exact ⟨after, ran⟩

theorem markCount_setMark {b after : Buffer} {n : Nat} (marked : b.marked? n = some true)
    (unmarked : b.setMark n false = .ok after) : after.markCount < b.markCount := by
  obtain ⟨line, found, isMarked⟩ := marked?_eq_some_iff.1 marked
  obtain ⟨front, back, same, ran, -, before, later, -⟩ := setMark_eq found false
  rw [unmarked, Except.ok.injEq] at ran
  subst ran
  simp [markCount, before, later, isMarked]

end Buffer

end LineEditor
