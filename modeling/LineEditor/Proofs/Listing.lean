import LineEditor.Buffer
import LineEditor.Proofs.Bounds.Buffer

/-!
A buffer is as good as a plain list of lines with a cursor, which has no slot 0 and in which nothing
is reversed to move a block. After the same operations, each on lines that are there, the buffer
answers as the list does. On its slots two neighbouring blocks change places when each is reversed
and then both together; to insert a line and to delete some is to move a block to or from the end.
-/

namespace LineEditor.Buffer

/-- These are the slots, and the current line has this number. -/
structure Consists (b : Buffer) (slots : List Line) (current : Nat) : Prop where
  slots : b.slots.toList = slots
  current : b.current = current

theorem Sound.consists {b : Buffer} (sound : b.Sound) :
    b.Consists ({} :: b.lines) b.current := ⟨sound.slots_eq, rfl⟩

theorem reverse_of_short {block : List Line} (short : block.length ≤ 1) :
    block.reverse = block := by
  match block with
  | [] | [_] => rfl
  | _ :: _ :: _ => simp at short

namespace Consists
variable {b : Buffer} {current : Nat} {front block other back : List Line}

theorem size (consists : b.Consists front current) : b.slots.size = front.length := by
  rw [← consists.slots, Array.length_toList]

theorem lines {zero : Line} (consists : b.Consists (zero :: back) current) : b.lines = back := by
  rw [Buffer.lines, consists.slots, List.tail_cons]

theorem last {zero : Line} (consists : b.Consists (zero :: back) current) :
    b.last = back.length := by
  rw [← length_lines, consists.lines]

theorem sound (consists : b.Consists ({} :: back) current) (current_le : current ≤ back.length) :
    b.Sound where
  current_le := by rwa [consists.current, consists.last]
  slot_zero := by rw [line?, ← Array.getElem?_toList, consists.slots, List.getElem?_cons_zero]

/-! ### Moving blocks -/

theorem reverse (consists : b.Consists (front ++ (block ++ back)) current) (first final : Nat)
    (starts : first = front.length) (ends : final + 1 = first + block.length) :
    ∃ after, b.reverse first final = .ok after
      ∧ after.Consists (front ++ (block.reverse ++ back)) current := by
  by_cases ordered : first < final
  · have size := consists.size
    rw [List.length_append, List.length_append] at size
    have inside : final < b.slots.size := by omega
    have same := size_reverseSlots b.slots (Nat.le_of_lt ordered) inside
    refine ⟨⟨reverseSlots b.slots first final, b.current, b.issued, same ▸ b.nonempty⟩, ?_, ?_,
      consists.current⟩
    · rw [Buffer.reverse, dif_pos ordered, dif_pos inside]
    · rw [toList_reverseSlots, consists.slots, ends, starts]
      simp
  · refine ⟨b, dif_neg ordered, ?_⟩
    rwa [reverse_of_short (by omega)]

-- The block goes to the front, past the other one.
theorem moveBlock_back (consists : b.Consists (front ++ (other ++ (block ++ back))) current)
    (first final target : Nat) (stands : target + 1 = front.length)
    (starts : first = front.length + other.length) (ends : final + 1 = first + block.length) :
    ∃ after, b.moveBlock first final target = .ok after
      ∧ after.Consists (front ++ (block ++ (other ++ back))) current := by
  by_cases apart : target + 1 < first
  · obtain ⟨b₁, ran₁, turned₁⟩ := consists.reverse (target + 1) (first - 1) stands (by omega)
    rw [← List.append_assoc] at turned₁
    obtain ⟨b₂, ran₂, turned₂⟩ := turned₁.reverse first final (by simp [starts]) ends
    rw [List.append_assoc, ← List.append_assoc other.reverse] at turned₂
    obtain ⟨b₃, ran₃, turned₃⟩ := turned₂.reverse (target + 1) final stands (by simp; omega)
    refine ⟨b₃, ?_, by simpa using turned₃⟩
    simp only [Buffer.moveBlock, if_pos apart, ran₁, ran₂, ran₃, bind, Except.bind]
  · have none : other = [] := List.eq_nil_of_length_eq_zero (by omega)
    refine ⟨b, ?_, by simpa [none] using consists⟩
    rw [Buffer.moveBlock, if_neg apart, if_neg (by omega)]

theorem moveBlock_forth (consists : b.Consists (front ++ (block ++ (other ++ back))) current)
    (first final target : Nat) (starts : first = front.length)
    (ends : final + 1 = first + block.length) (stands : target + 1 = final + 1 + other.length) :
    ∃ after, b.moveBlock first final target = .ok after
      ∧ after.Consists (front ++ (other ++ (block ++ back))) current := by
  by_cases apart : final < target
  · obtain ⟨b₁, ran₁, turned₁⟩ := consists.reverse first final starts ends
    rw [← List.append_assoc] at turned₁
    obtain ⟨b₂, ran₂, turned₂⟩ := turned₁.reverse (final + 1) target (by simp; omega) stands
    rw [List.append_assoc, ← List.append_assoc block.reverse] at turned₂
    obtain ⟨b₃, ran₃, turned₃⟩ := turned₂.reverse first target starts (by simp; omega)
    refine ⟨b₃, ?_, by simpa using turned₃⟩
    rw [Buffer.moveBlock, if_neg (by omega), if_pos apart]
    simp only [ran₁, ran₂, ran₃, bind, Except.bind]
  · have none : other = [] := List.eq_nil_of_length_eq_zero (by omega)
    refine ⟨b, ?_, by simpa [none] using consists⟩
    rw [Buffer.moveBlock, if_neg (by omega), if_neg apart]

/-! ### Lines that come and go -/

theorem insert (consists : b.Consists (front ++ back) current)
    (stands : current + 1 = front.length) (text : Text) :
    ∃ after, b.insert text = .ok after
      ∧ after.Consists (front ++ { text, serial := b.issued + 1 } :: back) (current + 1) := by
  have pushed : (b.push text).Consists
      (front ++ (back ++ ([{ text, serial := b.issued + 1 }] ++ []))) current := by
    refine ⟨?_, consists.current⟩
    rw [push, Array.toList_push, consists.slots]
    simp
  have size := pushed.size
  rw [size_eq] at size
  obtain ⟨moved, ran, order⟩ := pushed.moveBlock_back (b.push text).last (b.push text).last current
    stands (by simp at size; omega) rfl
  refine ⟨{ moved with current := moved.current + 1 }, ?_, ?_, ?_⟩
  · simp only [Buffer.insert, consists.current, ran, bind, Except.bind]
  · rw [order.slots]
    simp
  · rw [order.current]

theorem delete (consists : b.Consists (front ++ (block ++ back)) current) (first final : Nat)
    (positive : 0 < first) (starts : first = front.length) (ordered : first ≤ final)
    (ends : final + 1 = first + block.length) :
    ∃ after, b.delete first final = .ok after ∧ after.Consists (front ++ back) (first - 1) := by
  have whole : b.Consists (front ++ (block ++ (back ++ []))) current := by
    rwa [List.append_nil]
  have size := consists.size
  rw [size_eq, List.length_append, List.length_append] at size
  obtain ⟨moved, ran, order⟩ := whole.moveBlock_forth first final b.last starts ends (by omega)
  have inside : ¬(final < first ∨ b.last < final - first + 1) := by omega
  let kept := moved.truncate (b.last - (final - first + 1))
  refine ⟨{ kept with current := kept.previousLine first }, ?_, ?_, ?_⟩
  · simp only [Buffer.delete, ran, bind, Except.bind, if_neg inside]
    rfl
  · have count : b.last - (final - first + 1) + 1 = front.length + back.length := by omega
    simp [kept, truncate, order.slots, count, ← List.append_assoc]
  · exact if_neg (Nat.ne_of_gt positive)

theorem modifyLine {line : Line} (consists : b.Consists (front ++ line :: back) current) {n : Nat}
    (stands : n = front.length) (change : Line → Line) :
    ∃ after, b.modifyLine n change = .ok after
      ∧ after.Consists (front ++ change line :: back) current := by
  have inside : n < b.slots.size := by
    rw [consists.size, stands]
    simp
  refine ⟨_, if_pos inside, ?_, consists.current⟩
  rw [Array.toList_modify, consists.slots, stands]
  simp [List.modify_eq_take_cons_drop]

end Consists

end LineEditor.Buffer

namespace LineEditor

/-! ### A plain list -/

def Line.seen (line : Line) : Text × Bool := (line.text, line.marked)

/-- Lines with their marks, and the line that the cursor is on, 0 if it is before the first one. -/
structure Listing where
  lines : List (Text × Bool) := []
  cursor : Nat := 0
  deriving DecidableEq, Repr

namespace Listing

def ofTexts (texts : List Text) : Listing := ⟨texts.map (·, false), texts.length⟩

def setCurrent (listing : Listing) (n : Nat) : Listing :=
  { listing with cursor := min n listing.lines.length }

def modify (listing : Listing) (n : Nat) (change : Text × Bool → Text × Bool) : Listing :=
  { listing with lines := listing.lines.modify (n - 1) change }

def block (listing : Listing) (first final : Nat) : List (Text × Bool) :=
  (listing.lines.take final).drop (first - 1)

def others (listing : Listing) (first final : Nat) : List (Text × Bool) :=
  listing.lines.take (first - 1) ++ listing.lines.drop final

def insert (listing : Listing) (text : Text) : Listing where
  lines := listing.lines.take listing.cursor ++ (text, false) :: listing.lines.drop listing.cursor
  cursor := listing.cursor + 1

def delete (listing : Listing) (first final : Nat) : Listing where
  lines := listing.others first final
  cursor := first - 1

def reverse (listing : Listing) (first final : Nat) : Listing :=
  { listing with
    lines := listing.lines.take (first - 1) ++ (listing.block first final).reverse
      ++ listing.lines.drop final }

/-- Cuts the block out and pastes it right after the line that was line `target`. -/
def moveBlock (listing : Listing) (first final target : Nat) : Listing :=
  let others := listing.others first final
  let place := if target < first then target else target - (final + 1 - first)
  { listing with
    lines := others.take place ++ listing.block first final ++ others.drop place }

def text? (listing : Listing) : Nat → Option Text
  | 0 => some []
  | n + 1 => listing.lines[n]?.map (·.1)

def marked? (listing : Listing) : Nat → Option Bool
  | 0 => some false
  | n + 1 => listing.lines[n]?.map (·.2)

end Listing

/-! ### The list in pieces -/

namespace Listing
variable {front other block back : List (Text × Bool)} {cursor first final target : Nat}

theorem block_eq (starts : first = front.length + 1) (ends : final = front.length + block.length) :
    Listing.block ⟨front ++ (block ++ back), cursor⟩ first final = block := by
  rw [Listing.block, starts, ends, List.take_length_add_append, Nat.add_sub_cancel]
  simp

theorem others_eq (starts : first = front.length + 1) (ends : final = front.length + block.length) :
    Listing.others ⟨front ++ (block ++ back), cursor⟩ first final = front ++ back := by
  rw [Listing.others, starts, ends, List.drop_length_add_append, Nat.add_sub_cancel]
  simp

theorem reverse_eq (starts : first = front.length + 1)
    (ends : final = front.length + block.length) :
    Listing.reverse ⟨front ++ (block ++ back), cursor⟩ first final
      = ⟨front ++ (block.reverse ++ back), cursor⟩ := by
  rw [Listing.reverse, block_eq starts ends, starts, ends, Nat.add_sub_cancel,
    List.drop_length_add_append]
  simp

theorem delete_eq (starts : first = front.length + 1) (ends : final = front.length + block.length) :
    Listing.delete ⟨front ++ (block ++ back), cursor⟩ first final
      = ⟨front ++ back, front.length⟩ := by
  rw [Listing.delete, others_eq starts ends, starts, Nat.add_sub_cancel]

theorem moveBlock_back_eq (stands : target = front.length)
    (starts : first = front.length + other.length + 1)
    (ends : final + 1 = first + block.length) :
    Listing.moveBlock ⟨front ++ (other ++ (block ++ back)), cursor⟩ first final target
      = ⟨front ++ (block ++ (other ++ back)), cursor⟩ := by
  have before : first = (front ++ other).length + 1 := by rw [List.length_append, starts]
  have behind : final = (front ++ other).length + block.length := by omega
  have place : target < first := by omega
  rw [← List.append_assoc front other, Listing.moveBlock, block_eq before behind,
    others_eq before behind, if_pos place, stands]
  simp

theorem moveBlock_forth_eq (starts : first = front.length + 1)
    (ends : final = front.length + block.length) (stands : target = final + other.length)
    (ordered : first ≤ final) :
    Listing.moveBlock ⟨front ++ (block ++ (other ++ back)), cursor⟩ first final target
      = ⟨front ++ (other ++ (block ++ back)), cursor⟩ := by
  have place : ¬target < first := by omega
  have behind : target - (final + 1 - first) = (front ++ other).length := by
    rw [List.length_append]
    omega
  rw [Listing.moveBlock, block_eq starts ends, others_eq starts ends, if_neg place, behind,
    ← List.append_assoc front other, List.take_left, List.drop_left]
  simp

theorem insert_eq (stands : cursor = front.length) (text : Text) :
    Listing.insert ⟨front ++ back, cursor⟩ text
      = ⟨front ++ (text, false) :: back, cursor + 1⟩ := by
  simp [Listing.insert, stands]

theorem foldl_insert (texts : List Text) (stands : cursor = front.length) :
    texts.foldl Listing.insert ⟨front, cursor⟩
      = ⟨front ++ texts.map (·, false), cursor + texts.length⟩ := by
  induction texts generalizing front cursor with
  | nil => simp
  | cons text rest ih =>
    have inserted := @insert_eq _ [] _ stands text
    rw [List.append_nil] at inserted
    rw [List.foldl_cons, inserted, ih (by simp [stands]), List.map_cons, List.append_assoc,
      List.length_cons, Nat.add_assoc, Nat.add_comm 1]
    rfl

theorem modify_eq {item : Text × Bool} {n : Nat} (stands : n = front.length + 1)
    (change : Text × Bool → Text × Bool) :
    Listing.modify ⟨front ++ item :: back, cursor⟩ n change
      = ⟨front ++ change item :: back, cursor⟩ := by
  rw [Listing.modify, stands, Nat.add_sub_cancel]
  simp [List.modify_eq_take_cons_drop]

end Listing

end LineEditor

namespace LineEditor

/-! ### The buffer and the list -/

namespace Buffer

inductive Operation where
  | ofTexts (texts : List Text)
  | insert (text : Text)
  | put (n : Nat) (text : Text)
  | setMark (n : Nat) (marked : Bool)
  | setCurrent (n : Nat)
  | reverse (first final : Nat)
  | moveBlock (first final target : Nat)
  | delete (first final : Nat)
  | clear
  deriving DecidableEq, Repr

namespace Operation

def run : Operation → Buffer → Except OutOfBounds Buffer
  | ofTexts texts, _ => Buffer.ofTexts texts
  | insert text, b => b.insert text
  | put n text, b => b.put n text
  | setMark n marked, b => b.setMark n marked
  | setCurrent n, b => .ok (b.setCurrent n)
  | reverse first final, b => b.reverse first final
  | moveBlock first final target, b => b.moveBlock first final target
  | delete first final, b => b.delete first final
  | clear, b => .ok b.clear

def apply : Operation → Listing → Listing
  | ofTexts texts, _ => .ofTexts texts
  | insert text, listing => listing.insert text
  | put n text, listing => listing.modify n fun (_, marked) => (text, marked)
  | setMark n marked, listing => listing.modify n fun (text, _) => (text, marked)
  | setCurrent n, listing => listing.setCurrent n
  | reverse first final, listing => listing.reverse first final
  | moveBlock first final target, listing => listing.moveBlock first final target
  | delete first final, listing => listing.delete first final
  | clear, _ => {}

/-- The operation is on lines of a text with `last` lines, and a block is moved to a line outside
it, or to the front. -/
def InBounds (last : Nat) : Operation → Prop
  | put n _ | setMark n _ => 0 < n ∧ n ≤ last
  | reverse first final | delete first final => 0 < first ∧ first ≤ final ∧ final ≤ last
  | moveBlock first final target =>
    0 < first ∧ first ≤ final ∧ final ≤ last ∧ target ≤ last ∧ (target < first ∨ final < target)
  | ofTexts _ | insert _ | setCurrent _ | clear => True

instance (last : Nat) : (operation : Operation) → Decidable (operation.InBounds last)
  | put _ _ | setMark _ _ => inferInstanceAs (Decidable (_ ∧ _))
  | reverse _ _ | delete _ _ => inferInstanceAs (Decidable (_ ∧ _))
  | moveBlock _ _ _ => inferInstanceAs (Decidable (_ ∧ _))
  | ofTexts _ | insert _ | setCurrent _ | clear => .isTrue trivial

end Operation

/-- The buffer is the list, and in order. -/
structure Shows (b : Buffer) (listing : Listing) : Prop where
  sound : b.Sound
  lines : b.lines.map Line.seen = listing.lines
  current : b.current = listing.cursor

namespace Shows
variable {b : Buffer} {listing : Listing}

theorem last (shows : b.Shows listing) : b.last = listing.lines.length := by
  rw [← shows.lines, List.length_map, length_lines]

theorem text? (shows : b.Shows listing) (n : Nat) : b.text? n = listing.text? n := by
  cases n with
  | zero =>
    rw [Buffer.text?, shows.sound.slot_zero]
    rfl
  | succ n =>
    rw [Buffer.text?, line?_succ, Listing.text?, ← shows.lines, List.getElem?_map, Option.map_map]
    rfl

theorem marked? (shows : b.Shows listing) (n : Nat) : b.marked? n = listing.marked? n := by
  cases n with
  | zero =>
    rw [Buffer.marked?, shows.sound.slot_zero]
    rfl
  | succ n =>
    rw [Buffer.marked?, line?_succ, Listing.marked?, ← shows.lines, List.getElem?_map,
      Option.map_map]
    rfl

theorem texts? (shows : b.Shows listing) {first final : Nat} (positive : 0 < first)
    (ordered : first ≤ final + 1) (inside : final ≤ listing.lines.length) :
    b.texts? first final = some ((listing.block first final).map (·.1)) := by
  obtain ⟨first, rfl⟩ := Nat.exists_eq_succ_of_ne_zero (Nat.ne_of_gt positive)
  have last := shows.last
  have size := b.size_eq
  rw [Buffer.texts?, if_pos (by omega), Array.toList_extract, shows.sound.slots_eq, Listing.block,
    ← shows.lines]
  simp [List.drop_take]
  rfl

end Shows

theorem empty_shows : empty.Shows {} := ⟨empty_sound, rfl, rfl⟩

/-! ### One operation -/

theorem Consists.shows {b : Buffer} {lines : List Line} {current : Nat} {listing : Listing}
    (consists : b.Consists ({} :: lines) current) (current_le : current ≤ lines.length)
    (same : listing = ⟨lines.map Line.seen, current⟩) : b.Shows listing where
  sound := consists.sound current_le
  lines := by rw [consists.lines, same]
  current := by rw [consists.current, same]

theorem exists_front {lines : List Line} {n : Nat} (inside : n ≤ lines.length) :
    ∃ front back, lines = front ++ back ∧ front.length = n :=
  ⟨lines.take n, lines.drop n, (List.take_append_drop n lines).symm, List.length_take_of_le inside⟩

theorem exists_block {lines : List Line} {first final : Nat} (positive : 0 < first)
    (ordered : first ≤ final) (inside : final ≤ lines.length) :
    ∃ front block back, lines = front ++ (block ++ back) ∧ first = front.length + 1
      ∧ final = front.length + block.length := by
  have before_le : first - 1 ≤ lines.length := by omega
  obtain ⟨front, rest, rfl, before⟩ := exists_front before_le
  rw [List.length_append] at inside
  have count_le : final + 1 - first ≤ rest.length := by omega
  obtain ⟨block, back, rfl, count⟩ := exists_front count_le
  exact ⟨front, block, back, rfl, by omega, by omega⟩

theorem exists_line {lines : List Line} {n : Nat} (positive : 0 < n) (inside : n ≤ lines.length) :
    ∃ front line back, lines = front ++ line :: back ∧ n = front.length + 1 := by
  obtain ⟨front, block, back, same, starts, ends⟩ := exists_block positive (Nat.le_refl n) inside
  obtain ⟨line, rfl⟩ := List.length_eq_one_iff.1 (show block.length = 1 by omega)
  exact ⟨front, line, back, same, starts⟩

theorem insert_shows {b : Buffer} {listing : Listing} (shows : b.Shows listing) (text : Text) :
    ∃ after, b.insert text = .ok after ∧ after.Shows (listing.insert text) := by
  have current_le : b.current ≤ b.lines.length := by
    rw [length_lines]
    exact shows.sound.current_le
  obtain ⟨front, back, whole, stands⟩ := exists_front current_le
  have consists := shows.sound.consists
  rw [whole] at consists
  have split : b.Consists (({} :: front) ++ back) b.current := consists
  obtain ⟨after, ran, inserted⟩ := split.insert (by simp [stands]) text
  refine ⟨after, ran, inserted.shows (by simp [← stands]) ?_⟩
  have listed : listing = ⟨front.map Line.seen ++ back.map Line.seen, b.current⟩ := by
    rw [← List.map_append, ← whole, shows.lines, shows.current]
  rw [listed, Listing.insert_eq (by simp [stands])]
  simp [Line.seen]

theorem foldlM_insert_shows {b : Buffer} {listing : Listing} (shows : b.Shows listing)
    (texts : List Text) :
    ∃ after, texts.foldlM insert b = .ok after
      ∧ after.Shows (texts.foldl Listing.insert listing) := by
  induction texts generalizing b listing with
  | nil => exact ⟨b, rfl, shows⟩
  | cons text rest ih =>
    obtain ⟨next, ran, shows⟩ := insert_shows shows text
    obtain ⟨after, finished, shows⟩ := ih shows
    refine ⟨after, ?_, shows⟩
    rw [List.foldlM_cons, ran]
    exact finished

theorem ofTexts_shows (texts : List Text) :
    ∃ after, ofTexts texts = .ok after ∧ after.Shows (.ofTexts texts) := by
  have listed : texts.foldl Listing.insert {} = .ofTexts texts := by
    have behind := Listing.foldl_insert texts (show 0 = ([] : List (Text × Bool)).length from rfl)
    rwa [List.nil_append, Nat.zero_add] at behind
  rw [← listed]
  exact foldlM_insert_shows empty_shows texts

theorem modifyLine_shows {b : Buffer} {lines : List Line} {current n : Nat}
    (consists : b.Consists ({} :: lines) current) (current_le : current ≤ lines.length)
    (inBounds : 0 < n ∧ n ≤ lines.length) {change : Line → Line}
    {seen : Text × Bool → Text × Bool} (same : ∀ line, (change line).seen = seen line.seen) :
    ∃ after, b.modifyLine n change = .ok after
      ∧ after.Shows (Listing.modify ⟨lines.map Line.seen, current⟩ n seen) := by
  obtain ⟨front, line, back, rfl, starts⟩ := exists_line inBounds.1 inBounds.2
  have whole : b.Consists (({} :: front) ++ line :: back) current := consists
  obtain ⟨after, ran, changed⟩ := whole.modifyLine starts change
  refine ⟨after, ran, changed.shows (by simpa using current_le) ?_⟩
  have place : n = (front.map Line.seen).length + 1 := by rwa [List.length_map]
  simp [Listing.modify_eq place, same]

theorem reverse_shows {b : Buffer} {lines : List Line} {current first final : Nat}
    (consists : b.Consists ({} :: lines) current) (current_le : current ≤ lines.length)
    (positive : 0 < first) (ordered : first ≤ final) (inside : final ≤ lines.length) :
    ∃ after, b.reverse first final = .ok after
      ∧ after.Shows (Listing.reverse ⟨lines.map Line.seen, current⟩ first final) := by
  obtain ⟨front, block, back, rfl, starts, ends⟩ := exists_block positive ordered inside
  have whole : b.Consists (({} :: front) ++ (block ++ back)) current := consists
  obtain ⟨after, ran, turned⟩ := whole.reverse first final starts (by omega)
  rw [List.cons_append] at turned
  refine ⟨after, ran, turned.shows (by simpa using current_le) ?_⟩
  simp only [List.map_append, List.map_reverse]
  exact Listing.reverse_eq (by simpa using starts) (by simpa using ends)

theorem moveBlock_shows {b : Buffer} {lines : List Line} {current first final target : Nat}
    (consists : b.Consists ({} :: lines) current) (current_le : current ≤ lines.length)
    (positive : 0 < first) (ordered : first ≤ final) (inside : final ≤ lines.length)
    (target_le : target ≤ lines.length) (apart : target < first ∨ final < target) :
    ∃ after, b.moveBlock first final target = .ok after
      ∧ after.Shows (Listing.moveBlock ⟨lines.map Line.seen, current⟩ first final target) := by
  obtain ⟨front, block, back, rfl, starts, ends⟩ := exists_block positive ordered inside
  rcases apart with before | behind
  · obtain ⟨front, other, rfl, stands⟩ := exists_front (show target ≤ front.length by omega)
    rw [List.length_append] at starts ends
    have whole : b.Consists (({} :: front) ++ (other ++ (block ++ back))) current := by
      simpa using consists
    obtain ⟨after, ran, moved⟩ := whole.moveBlock_back first final target
      (by simp [stands]) (by simp; omega) (by omega)
    rw [List.cons_append] at moved
    refine ⟨after, ran, moved.shows (by simp at current_le ⊢; omega) ?_⟩
    simp only [List.map_append, List.append_assoc]
    exact Listing.moveBlock_back_eq (by simp [stands]) (by simpa using starts) (by simp; omega)
  · simp only [List.length_append] at target_le
    obtain ⟨other, back, rfl, stands⟩ :=
      exists_front (show target - final ≤ back.length by omega)
    have whole : b.Consists (({} :: front) ++ (block ++ (other ++ back))) current := consists
    obtain ⟨after, ran, moved⟩ := whole.moveBlock_forth first final target starts
      (by omega) (by omega)
    rw [List.cons_append] at moved
    refine ⟨after, ran, moved.shows (by simp at current_le ⊢; omega) ?_⟩
    simp only [List.map_append]
    exact Listing.moveBlock_forth_eq (by simpa using starts) (by simpa using ends)
      (by simp; omega) ordered

theorem delete_shows {b : Buffer} {lines : List Line} {current first final : Nat}
    (consists : b.Consists ({} :: lines) current) (positive : 0 < first) (ordered : first ≤ final)
    (inside : final ≤ lines.length) :
    ∃ after, b.delete first final = .ok after
      ∧ after.Shows (Listing.delete ⟨lines.map Line.seen, current⟩ first final) := by
  obtain ⟨front, block, back, rfl, starts, ends⟩ := exists_block positive ordered inside
  have whole : b.Consists (({} :: front) ++ (block ++ back)) current := consists
  obtain ⟨after, ran, deleted⟩ := whole.delete first final positive starts ordered (by omega)
  rw [List.cons_append] at deleted
  refine ⟨after, ran, deleted.shows (by simp; omega) ?_⟩
  simp only [List.map_append]
  rw [Listing.delete_eq (by simpa using starts) (by simpa using ends), List.length_map, starts,
    Nat.add_sub_cancel]

/-- An operation on lines that are there comes to its end, and does to the buffer what it does to
the list. -/
theorem Operation.run_shows {b : Buffer} {listing : Listing} (shows : b.Shows listing)
    {operation : Operation} (inBounds : operation.InBounds listing.lines.length) :
    ∃ after, operation.run b = .ok after ∧ after.Shows (operation.apply listing) := by
  have shown := shows
  obtain ⟨sound, lines, current⟩ := shows
  obtain ⟨_, cursor⟩ := listing
  dsimp only at lines current
  subst lines current
  have consists := sound.consists
  have current_le : b.current ≤ b.lines.length := by
    rw [length_lines]
    exact sound.current_le
  generalize b.lines = lines at *
  generalize b.current = current at *
  rw [List.length_map] at inBounds
  cases operation with
  | ofTexts texts => exact ofTexts_shows texts
  | insert text => exact insert_shows shown text
  | put n text => exact modifyLine_shows consists current_le inBounds fun _ => rfl
  | setMark n marked => exact modifyLine_shows consists current_le inBounds fun _ => rfl
  | setCurrent n =>
    have moved : (b.setCurrent n).Consists ({} :: lines) (min n lines.length) := by
      refine ⟨consists.slots, ?_⟩
      rw [Buffer.setCurrent, consists.last]
    refine ⟨_, rfl, moved.shows (Nat.min_le_right _ _) ?_⟩
    simp [Operation.apply, Listing.setCurrent]
  | reverse first final =>
    obtain ⟨positive, ordered, inside⟩ := inBounds
    exact reverse_shows consists current_le positive ordered inside
  | moveBlock first final target =>
    obtain ⟨positive, ordered, inside, target_le, apart⟩ := inBounds
    exact moveBlock_shows consists current_le positive ordered inside target_le apart
  | delete first final =>
    obtain ⟨positive, ordered, inside⟩ := inBounds
    exact delete_shows consists positive ordered inside
  | clear =>
    have cleared : b.clear.Consists [{}] 0 := by
      refine ⟨?_, rfl⟩
      simp [Buffer.clear, truncate, consists.slots]
    exact ⟨_, rfl, cleared.shows (Nat.zero_le _) rfl⟩

/-! ### A sequence of operations -/

namespace Operation

def runAll (operations : List Operation) (b : Buffer) : Except OutOfBounds Buffer :=
  operations.foldlM (fun b operation => operation.run b) b

def applyAll (operations : List Operation) (listing : Listing) : Listing :=
  operations.foldl (fun listing operation => operation.apply listing) listing

/-- Each operation is on lines that are there when its turn comes. -/
def Admitted : List Operation → Listing → Prop
  | [], _ => True
  | operation :: operations, listing =>
    operation.InBounds listing.lines.length ∧ Admitted operations (operation.apply listing)

instance decidableAdmitted : (operations : List Operation) → (listing : Listing) →
    Decidable (Admitted operations listing)
  | [], _ => .isTrue trivial
  | operation :: operations, listing =>
    have := decidableAdmitted operations (operation.apply listing)
    inferInstanceAs (Decidable (_ ∧ _))

theorem runAll_shows {operations : List Operation} {b : Buffer} {listing : Listing}
    (shows : b.Shows listing) (admitted : Admitted operations listing) :
    ∃ after, runAll operations b = .ok after ∧ after.Shows (applyAll operations listing) := by
  induction operations generalizing b listing with
  | nil => exact ⟨b, rfl, shows⟩
  | cons operation operations later =>
    obtain ⟨inBounds, admitted⟩ := admitted
    obtain ⟨next, ran, shows⟩ := run_shows shows inBounds
    obtain ⟨after, finished, shows⟩ := later shows admitted
    refine ⟨after, ?_, shows⟩
    rw [runAll, List.foldlM_cons, ran]
    exact finished

end Operation

/-- The buffer holds the lines of the list with their marks, and each question about them has the
same answer. There is no answer about a line that is not there. -/
structure Answers (b : Buffer) (listing : Listing) : Prop where
  lines : b.lines.map Line.seen = listing.lines
  last : b.last = listing.lines.length
  current : b.current = listing.cursor
  text? : ∀ n, b.text? n = listing.text? n
  marked? : ∀ n, b.marked? n = listing.marked? n
  texts? : ∀ first final, 0 < first → first ≤ final → final ≤ listing.lines.length →
    b.texts? first final = some ((listing.block first final).map (·.1))

theorem Shows.answers {b : Buffer} {listing : Listing} (shows : b.Shows listing) :
    b.Answers listing where
  lines := shows.lines
  last := shows.last
  current := shows.current
  text? := shows.text?
  marked? := shows.marked?
  texts? _ _ positive ordered := shows.texts? positive (Nat.le_succ_of_le ordered)

/-- No operation on lines that are there stops, and after any sequence of them the buffer is the
list with its cursor. -/
theorem operations_refine_listing {operations : List Operation}
    (admitted : Operation.Admitted operations {}) :
    ∃ after, Operation.runAll operations empty = .ok after
      ∧ after.Answers (Operation.applyAll operations {}) := by
  obtain ⟨after, ran, shows⟩ := Operation.runAll_shows empty_shows admitted
  exact ⟨after, ran, shows.answers⟩

-- The marked line goes along with its block, and the cursor stays between the lines around it.
theorem marked_line_moves_and_stays :
    let operations : List Operation :=
      [.ofTexts [['a'], ['b'], ['c'], ['d']], .setMark 3 true, .setCurrent 1, .moveBlock 2 3 4,
        .insert ['e'], .delete 3 3, .moveBlock 3 4 0]
    Operation.Admitted operations {}
      ∧ Operation.applyAll operations {}
        = ⟨[(['b'], false), (['c'], true), (['a'], false), (['e'], false)], 2⟩
      ∧ ∃ after, Operation.runAll operations empty = .ok after
        ∧ after.Answers (Operation.applyAll operations {}) :=
  ⟨by decide, by decide, operations_refine_listing (by decide)⟩

end Buffer

end LineEditor
