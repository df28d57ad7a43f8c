import LineEditor.Editor
import Mathlib.Data.List.Find

/-!
Buffers whose current line is one of theirs, and whose slot 0 is empty and unmarked. Each operation
that is asked for lines of such a buffer finds them there and leaves such a buffer. A search looks at
its lines in turn, from the one behind the start to the end of the text, and then from its front up
to the start, which comes last.
-/

namespace LineEditor

structure Range.Within (range : Range) (last : Nat) : Prop where
  positive : 0 < range.first
  ordered : range.first ≤ range.final
  final_le : range.final ≤ last

namespace Buffer

structure Sound (b : Buffer) : Prop where
  current_le : b.current ≤ b.last
  slot_zero : b.line? 0 = some {}

theorem Sound.slots_eq {b : Buffer} (sound : b.Sound) : b.slots.toList = {} :: b.lines := by
  have first : b.slots.toList.head? = some ({} : Line) := by
    rw [List.head?_eq_getElem?, Array.getElem?_toList]
    exact sound.slot_zero
  obtain ⟨rest, whole⟩ := List.head?_eq_some_iff.1 first
  rw [lines, whole, List.tail_cons]

theorem last_eq_of_size {b after : Buffer} (size : after.slots.size = b.slots.size) :
    after.last = b.last := by rw [last, last, size]

theorem line?_isSome {b : Buffer} {n : Nat} (inside : n ≤ b.last) :
    ∃ line, b.line? n = some line := by
  have bound : n < b.slots.size := by rw [b.size_eq]; exact Nat.lt_succ_of_le inside
  exact ⟨b.slots[n], Array.getElem?_eq_getElem bound⟩

theorem text?_isSome {b : Buffer} {n : Nat} (inside : n ≤ b.last) :
    ∃ text, b.text? n = some text := by
  obtain ⟨line, found⟩ := line?_isSome inside
  exact ⟨line.text, by rw [text?, found]; rfl⟩

theorem nextLine_le (b : Buffer) (n : Nat) : b.nextLine n ≤ b.last := by
  unfold nextLine
  split <;> omega

theorem texts?_isSome {b : Buffer} {first final : Nat} (ordered : first ≤ final + 1)
    (inside : final ≤ b.last) : ∃ texts, b.texts? first final = some texts := by
  have bound : final < b.slots.size := by rw [b.size_eq]; exact Nat.lt_succ_of_le inside
  exact ⟨_, if_pos ⟨ordered, bound⟩⟩

theorem empty_sound : empty.Sound := ⟨Nat.le_refl 0, rfl⟩

theorem setCurrent_sound {b : Buffer} (sound : b.Sound) (n : Nat) : (b.setCurrent n).Sound :=
  ⟨Nat.min_le_right n b.last, sound.slot_zero⟩

/-! ### Moving lines -/

/-- Lines changed places; slot 0 and the number of the current line stayed. -/
structure Rearranged (before after : Buffer) : Prop where
  size : after.slots.size = before.slots.size
  slot_zero : after.line? 0 = before.line? 0
  current : after.current = before.current

theorem Rearranged.refl (b : Buffer) : b.Rearranged b := ⟨rfl, rfl, rfl⟩

theorem Rearranged.trans {a b c : Buffer} (first : a.Rearranged b) (second : b.Rearranged c) :
    a.Rearranged c :=
  ⟨second.size.trans first.size, second.slot_zero.trans first.slot_zero,
    second.current.trans first.current⟩

theorem Rearranged.last {before after : Buffer} (moved : before.Rearranged after) :
    after.last = before.last := last_eq_of_size moved.size

theorem Rearranged.sound {before after : Buffer} (moved : before.Rearranged after)
    (sound : before.Sound) : after.Sound where
  current_le := by rw [moved.current, moved.last]; exact sound.current_le
  slot_zero := by rw [moved.slot_zero, sound.slot_zero]

theorem getElem?_zero_extract (slots : Array Line) {n : Nat} (positive : 0 < n) :
    (slots.extract 0 n)[0]? = slots[0]? := by
  rw [← Array.getElem?_toList, ← Array.getElem?_toList, Array.toList_extract]
  exact List.getElem?_take_of_lt positive

theorem reverseSlots_zero {slots : Array Line} {first final : Nat} (positive : 0 < first)
    (inside : first ≤ slots.size) : (reverseSlots slots first final)[0]? = slots[0]? := by
  have front : 0 < (slots.extract 0 first).size := by
    rw [Array.size_extract]
    omega
  rw [reverseSlots, Array.append_assoc, Array.getElem?_append_left front,
    getElem?_zero_extract slots positive]

theorem reverse_inside {b : Buffer} {first final : Nat} (positive : 0 < first)
    (inside : final ≤ b.last) :
    ∃ after, b.reverse first final = .ok after ∧ b.Rearranged after := by
  by_cases ordered : first < final
  · have bound : final < b.slots.size := by rw [b.size_eq]; exact Nat.lt_succ_of_le inside
    have same := size_reverseSlots b.slots (Nat.le_of_lt ordered) bound
    refine ⟨⟨reverseSlots b.slots first final, b.current, b.issued, same ▸ b.nonempty⟩, ?_, same,
      ?_, rfl⟩
    · rw [reverse, dif_pos ordered, dif_pos bound]
    · exact reverseSlots_zero positive (Nat.le_of_lt (Nat.lt_trans ordered bound))
  · exact ⟨b, dif_neg ordered, .refl b⟩

theorem moveBlock_inside {b : Buffer} {first final target : Nat} (positive : 0 < first)
    (ordered : first ≤ final) (final_le : final ≤ b.last) (target_le : target ≤ b.last) :
    ∃ after, b.moveBlock first final target = .ok after ∧ b.Rearranged after := by
  have step {before : Buffer} (first final : Nat) (positive : 0 < first)
      (same : b.Rearranged before) (inside : final ≤ b.last) :
      ∃ after, before.reverse first final = .ok after ∧ b.Rearranged after := by
    obtain ⟨after, ran, moved⟩ := reverse_inside (b := before) positive (same.last ▸ inside)
    exact ⟨after, ran, same.trans moved⟩
  unfold moveBlock
  -- Three reversals either way, none of which needs slot 0 or a slot behind the last line.
  split
  · obtain ⟨b₁, ran₁, same₁⟩ := step (target + 1) (first - 1) (by omega) (.refl b) (by omega)
    obtain ⟨b₂, ran₂, same₂⟩ := step first final positive same₁ final_le
    obtain ⟨b₃, ran₃, same₃⟩ := step (target + 1) final (by omega) same₂ final_le
    refine ⟨b₃, ?_, same₃⟩
    simp only [ran₁, ran₂, ran₃, bind, Except.bind]
  · split
    · obtain ⟨b₁, ran₁, same₁⟩ := step first final positive (.refl b) final_le
      obtain ⟨b₂, ran₂, same₂⟩ := step (final + 1) target (by omega) same₁ target_le
      obtain ⟨b₃, ran₃, same₃⟩ := step first target positive same₂ target_le
      refine ⟨b₃, ?_, same₃⟩
      simp only [ran₁, ran₂, ran₃, bind, Except.bind]
    · exact ⟨b, rfl, .refl b⟩

/-! ### Lines that come and go -/

theorem push_last (b : Buffer) (text : Text) : (b.push text).last = b.last + 1 := by
  have size := b.size_eq
  rw [last, push, Array.size_push, size, Nat.add_sub_cancel]

theorem insert_inside {b : Buffer} (sound : b.Sound) (text : Text) :
    ∃ after, b.insert text = .ok after ∧ after.Sound ∧ after.last = b.last + 1 := by
  have pushed := b.push_last text
  have current_le := sound.current_le
  have slot_zero : (b.push text).line? 0 = some {} := by
    rw [line?, push, Array.getElem?_push_lt b.nonempty, ← Array.getElem?_eq_getElem]
    exact sound.slot_zero
  have target_le : b.current ≤ (b.push text).last := by omega
  obtain ⟨moved, ran, same⟩ := moveBlock_inside (pushed ▸ Nat.succ_pos b.last) (Nat.le_refl _)
    (Nat.le_refl (b.push text).last) target_le
  refine ⟨{ moved with current := moved.current + 1 }, ?_, ⟨?_, ?_⟩, same.last.trans pushed⟩
  · simp only [insert, ran, bind, Except.bind]
  · change moved.current + 1 ≤ moved.last
    rw [same.last, pushed, same.current]
    exact Nat.succ_le_succ current_le
  · exact same.slot_zero.trans slot_zero

theorem truncate_last {b : Buffer} {n : Nat} (inside : n ≤ b.last) : (b.truncate n).last = n := by
  have size := b.size_eq
  change (b.slots.extract 0 (n + 1)).size - 1 = n
  rw [Array.size_extract]
  omega

theorem truncate_slot_zero (b : Buffer) (n : Nat) : (b.truncate n).line? 0 = b.line? 0 :=
  getElem?_zero_extract b.slots (Nat.succ_pos n)

theorem clear_sound {b : Buffer} (sound : b.Sound) : b.clear.Sound :=
  ⟨Nat.zero_le _, (b.truncate_slot_zero 0).trans sound.slot_zero⟩

theorem delete_inside {b : Buffer} (sound : b.Sound) {first final : Nat} (positive : 0 < first)
    (ordered : first ≤ final) (final_le : final ≤ b.last) :
    ∃ after, b.delete first final = .ok after ∧ after.Sound
      ∧ after.last + (final + 1) = b.last + first := by
  obtain ⟨moved, ran, same⟩ := moveBlock_inside positive ordered final_le (Nat.le_refl b.last)
  have inside : ¬(final < first ∨ b.last < final - first + 1) := by omega
  let count := b.last - (final - first + 1)
  have kept : (moved.truncate count).last = count := truncate_last (by rw [same.last]; omega)
  refine ⟨{ moved.truncate count with current := (moved.truncate count).previousLine first }, ?_,
    ⟨?_, ?_⟩, ?_⟩
  · simp only [delete, ran, bind, Except.bind, if_neg inside]
    rfl
  · change (moved.truncate count).previousLine first ≤ (moved.truncate count).last
    rw [kept, previousLine, if_neg (by omega)]
    omega
  · exact (moved.truncate_slot_zero count).trans (same.slot_zero.trans sound.slot_zero)
  · change (moved.truncate count).last + (final + 1) = b.last + first
    rw [kept]
    omega

/-! ### Marks -/

theorem setMark_inside {b : Buffer} (sound : b.Sound) {n : Nat} (positive : 0 < n)
    (inside : n ≤ b.last) (marked : Bool) :
    ∃ after, b.setMark n marked = .ok after ∧ after.Sound ∧ after.last = b.last := by
  have bound : n < b.slots.size := by rw [b.size_eq]; exact Nat.lt_succ_of_le inside
  have size : (b.slots.modify n ({ · with marked })).size = b.slots.size := Array.size_modify
  refine ⟨⟨b.slots.modify n ({ · with marked }), b.current, b.issued, size ▸ b.nonempty⟩, ?_,
    ⟨?_, ?_⟩, last_eq_of_size size⟩
  · rw [setMark, modifyLine, if_pos bound]
  · rw [last_eq_of_size size]
    exact sound.current_le
  · rw [line?, Array.getElem?_modify, if_neg (Nat.ne_of_gt positive)]
    exact sound.slot_zero

theorem markLines_last (b : Buffer) (regex : Regex) (range : Range) (invert : Bool) :
    (b.markLines regex range invert).last = b.last :=
  last_eq_of_size Array.size_mapIdx

theorem markLines_sound {b : Buffer} (sound : b.Sound) (regex : Regex) (range : Range)
    (invert : Bool) : (b.markLines regex range invert).Sound where
  current_le := by rw [markLines_last]; exact sound.current_le
  slot_zero := by
    have slot_zero : b.slots[0]? = some ({} : Line) := sound.slot_zero
    simp [line?, markLines, slot_zero]

end Buffer

end LineEditor

namespace LineEditor.Buffer

/-! ### Searching forward -/

variable {b : Buffer} {n start : Nat}

/-- The lines in the order in which a search looks at them: those behind line `n`, then those up
to it. -/
def around (b : Buffer) (n : Nat) : List Nat := List.range' (n + 1) (b.last - n) ++ List.range' 1 n

def way (b : Buffer) (start n : Nat) : List Nat :=
  if n < start then List.range' (n + 1) (start - n)
  else List.range' (n + 1) (b.last - n) ++ List.range' 0 (start + 1)

def accepted (b : Buffer) (accepts : Text → Bool) (n : Nat) : Bool :=
  n ≠ 0 && (b.text? n).any accepts

theorem way_eq (start_le : start ≤ b.last) (n_le : n ≤ b.last) :
    b.way start n
      = b.nextLine n :: if b.nextLine n = start then [] else b.way start (b.nextLine n) := by
  by_cases wraps : b.last ≤ n
  · have next : b.nextLine n = 0 := if_pos wraps
    have behind : ¬n < start := by omega
    have none : b.last - n = 0 := by omega
    cases start <;> simp [way, next, behind, none, List.range'_succ]
  · have next : b.nextLine n = n + 1 := if_neg wraps
    by_cases before : n < start
    · obtain ⟨gap, rfl⟩ := Nat.exists_eq_add_of_lt before
      have step : n + gap + 1 - n = gap + 1 := by omega
      have rest : n + gap + 1 - (n + 1) = gap := by omega
      rw [way, if_pos before, step, next]
      cases gap <;> simp [way, rest, List.range'_succ]
    · have step : b.last - n = b.last - (n + 1) + 1 := by omega
      have passed : ¬n + 1 < start := by omega
      have other : n + 1 ≠ start := by omega
      simp [way, next, before, passed, other, step, List.range'_succ]

/-- How many slots a search looks at on this way: it ends at the first line that is accepted, or at
the end of the way. -/
def rounds (b : Buffer) (accepts : Text → Bool) (start n : Nat) : Nat :=
  min ((b.way start n).findIdx (b.accepted accepts) + 1) (b.way start n).length

-- The bound on the steps makes no difference to a search, unless it ends the search too early.
theorem findFrom_way (accepts : Text → Bool) (start_le : start ≤ b.last) (n_le : n ≤ b.last)
    (steps : Nat) :
    b.findFrom accepts start steps n =
      if b.rounds accepts start n ≤ steps then .ok ((b.way start n).find? (b.accepted accepts))
      else .error ⟨b⟩ := by
  induction steps generalizing n with
  | zero =>
    have positive : 0 < b.rounds accepts start n := by simp [rounds, way_eq start_le n_le]
    rw [if_neg (by omega), findFrom]
  | succ steps ih =>
    obtain ⟨text, there⟩ := text?_isSome (b.nextLine_le n)
    have first := way_eq start_le n_le
    by_cases accepting : b.nextLine n ≠ 0 ∧ accepts text = true
    · have found : b.accepted accepts (b.nextLine n) = true := by
        simpa [accepted, there] using accepting
      simp [findFrom, there, accepting, rounds, first, found, List.findIdx_cons]
    · have refused : b.accepted accepts (b.nextLine n) = false := by
        simpa [accepted, there] using accepting
      by_cases back : b.nextLine n = start
      · simp_all [findFrom, rounds, List.findIdx_cons]
      · have more : b.rounds accepts start n = b.rounds accepts start (b.nextLine n) + 1 := by
          simp [rounds, first, back, refused, List.findIdx_cons]
        simp [findFrom, there, accepting, back, first, refused, more, ih (b.nextLine_le n)]

theorem way_around (b : Buffer) :
    b.way b.current b.current
      = List.range' (b.current + 1) (b.last - b.current) ++ 0 :: List.range' 1 b.current := by
  simp [way, List.range'_succ]

theorem rounds_le (current_le : b.current ≤ b.last) (accepts : Text → Bool) :
    b.rounds accepts b.current b.current ≤ b.last + 1 := by
  have length : (b.way b.current b.current).length = b.last + 1 := by
    simp [way_around]
    omega
  rw [rounds, length]
  exact Nat.min_le_right _ _

theorem find?_way (b : Buffer) (accepts : Text → Bool) :
    (b.way b.current b.current).find? (b.accepted accepts)
      = (b.around b.current).find? (b.accepted accepts) := by
  have zero : b.accepted accepts 0 = false := rfl
  simp [way_around, around, zero]

/-- A search from the current line comes back to it, so it looks at every line of the text. -/
theorem findForward_eq (current_le : b.current ≤ b.last) (accepts : Text → Bool) :
    b.findForward accepts = .ok ((b.around b.current).find? (b.accepted accepts)) := by
  rw [findForward, findFrom_way accepts current_le current_le,
    if_pos (rounds_le current_le accepts), find?_way]

/-! ### What is found, and after how many steps -/

theorem mem_around (current_le : b.current ≤ b.last) :
    n ∈ b.around b.current ↔ 1 ≤ n ∧ n ≤ b.last := by
  simp only [around, List.mem_append, List.mem_range'_1]
  omega

theorem find?_around (current_le : b.current ≤ b.last) (accepts : Text → Bool) :
    (b.around b.current).find? (b.accepted accepts)
      = (b.around b.current).find? fun n => (b.text? n).any accepts := by
  refine List.find?_congr fun n member => ?_
  have line := ((mem_around current_le).1 member).1
  simp [accepted, Nat.ne_of_gt line]

/-- A search from a current line of the buffer ends, after as many steps as there are lines and one
more at most, and not only because the steps are counted. It finds the first line that the test
accepts among those behind the current one, then those up to it, so that the current line comes
last; slot 0 is none of them. It finds nothing exactly where the test accepts no line. -/
theorem search_goes_around {b : Buffer} (current_le : b.current ≤ b.last)
    (accepts : Text → Bool) :
    ∃ found, b.findForward accepts = .ok found
      ∧ (∃ rounds ≤ b.last + 1, ∀ steps, b.findFrom accepts b.current steps b.current
          = if rounds ≤ steps then .ok found else .error ⟨b⟩)
      ∧ (∀ n, found = some n ↔ ∃ before after,
          List.range' (b.current + 1) (b.last - b.current) ++ List.range' 1 b.current
              = before ++ n :: after
            ∧ (b.text? n).any accepts = true
            ∧ ∀ other ∈ before, (b.text? other).any accepts = false)
      ∧ (found = none ↔ ∀ n, 1 ≤ n → n ≤ b.last → (b.text? n).any accepts = false) := by
  refine ⟨_, findForward_eq current_le accepts, ⟨_, rounds_le current_le accepts, ?_⟩, ?_, ?_⟩
  · intro steps
    rw [findFrom_way accepts current_le current_le, find?_way]
  · intro n
    rw [find?_around current_le, List.find?_eq_some_iff_append]
    constructor
    · rintro ⟨accepting, before, after, order, refused⟩
      exact ⟨before, after, order, accepting, by simpa using refused⟩
    · rintro ⟨before, after, order, accepting, refused⟩
      exact ⟨accepting, before, after, order, by simpa using refused⟩
  · rw [find?_around current_le, List.find?_eq_none]
    constructor
    · intro refused n first last
      simpa using refused n ((mem_around current_le).2 ⟨first, last⟩)
    · intro refused n member
      obtain ⟨first, last⟩ := (mem_around current_le).1 member
      simp [refused n first last]

/-- Behind the last of three lines, slot 0 comes before the first one; its text is empty as well. -/
def blankAmongThree : Buffer := Buffer.leftBy (Buffer.ofTexts [['a', '\n'], ['\n'], ['b', '\n']])

theorem blankAmongThree_found :
    blankAmongThree.current ≤ blankAmongThree.last
      ∧ blankAmongThree.findForward (fun text => text.body = []) = .ok (some 2)
      ∧ blankAmongThree.findForward (fun text => text.body = ['c']) = .ok none := by
  have current_le : blankAmongThree.current ≤ blankAmongThree.last := by decide
  obtain ⟨found, blank, -, first, -⟩ :=
    search_goes_around current_le fun text => text.body = []
  obtain ⟨other, missing, -, -, nothing⟩ :=
    search_goes_around current_le fun text => text.body = ['c']
  have second : found = some 2 := (first 2).2 ⟨[1], [3], by decide, by decide, by decide⟩
  have refused : ∀ n ≤ 3, (blankAmongThree.text? n).any (fun text => text.body = ['c']) = false := by
    decide
  have none : other = none := nothing.2 fun n _ last => refused n last
  exact ⟨current_le, second ▸ blank, none ▸ missing⟩

-- From a current line that the buffer does not have, nothing would end a search that finds nothing.
theorem findFrom_beyond {accepts : Text → Bool} (beyond : b.last < start)
    (refused : ∀ n, b.accepted accepts n = false) (steps n : Nat) :
    b.findFrom accepts start steps n = .error ⟨b⟩ := by
  induction steps generalizing n with
  | zero => rfl
  | succ steps ih =>
    have inside := b.nextLine_le n
    obtain ⟨text, there⟩ := text?_isSome inside
    have other : ¬(b.nextLine n ≠ 0 ∧ accepts text = true) := by
      simpa [accepted, there] using refused (b.nextLine n)
    have elsewhere : b.nextLine n ≠ start := by omega
    simp [findFrom, there, other, elsewhere, ih]

end LineEditor.Buffer
