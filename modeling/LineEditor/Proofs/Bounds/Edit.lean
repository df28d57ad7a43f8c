import LineEditor.Conduct
import LineEditor.Editor
import LineEditor.Proofs.Bounds.Buffer

/-!
Edits of a sound buffer ask for lines that are there, and leave a sound buffer. Addresses are
looked up to lines of the buffer, so the ranges that edits work on lie in it.
-/

namespace LineEditor

section
variable {σ α β : Type} {view : σ → Buffer}

/-- How a run may end: with a sound buffer and not for a line outside it. Where it returns, `post`
holds of the result and of the state that is left. -/
def SafeEnd (view : σ → Buffer) (post : α → σ → Prop) : Except Stop α × σ → Prop
  | (.ok a, after) => (view after).Sound ∧ post a after
  | (.error stop, after) => (view after).Sound ∧ stop ≠ .outOfBounds

def SafeFrom (view : σ → Buffer) (s : σ) (m : ExceptT Stop (StateM σ) α) (post : α → σ → Prop) :
    Prop := SafeEnd view post (m.run s)

namespace SafeFrom
variable {s : σ} {post : α → σ → Prop}

theorem pure {a : α} (sound : (view s).Sound) (holds : post a s) :
    SafeFrom view s (pure a) post := ⟨sound, holds⟩

theorem throw {stop : Stop} (sound : (view s).Sound) (other : stop ≠ .outOfBounds) :
    SafeFrom view s (throw stop) post := ⟨sound, other⟩

theorem mono {weaker : α → σ → Prop} {m : ExceptT Stop (StateM σ) α} (safe : SafeFrom view s m post)
    (implied : ∀ a after, post a after → weaker a after) : SafeFrom view s m weaker := by
  unfold SafeFrom at safe ⊢
  generalize m.run s = ended at safe ⊢
  rcases ended with ⟨stop | a, after⟩
  · exact safe
  · exact ⟨safe.1, implied a after safe.2⟩

theorem forget {m : ExceptT Stop (StateM σ) α} (safe : SafeFrom view s m post) :
    SafeFrom view s m fun _ _ => True :=
  safe.mono fun _ _ _ => trivial

theorem bind {first : ExceptT Stop (StateM σ) β} {next : β → ExceptT Stop (StateM σ) α}
    {middle : β → σ → Prop} (before : SafeFrom view s first middle)
    (after : ∀ b between, (view between).Sound → middle b between →
      SafeFrom view between (next b) post) : SafeFrom view s (first >>= next) post := by
  unfold SafeFrom at before ⊢
  rw [run_bind]
  rcases ran : first.run s with ⟨_ | b, between⟩ <;> rw [ran] at before
  · exact before
  · exact after b between before.1 before.2

theorem tryCatch {first : ExceptT Stop (StateM σ) α} {handle : Stop → ExceptT Stop (StateM σ) α}
    (before : SafeFrom view s first post)
    (after : ∀ stop between, (view between).Sound → stop ≠ .outOfBounds →
      SafeFrom view between (handle stop) post) : SafeFrom view s (tryCatch first handle) post := by
  unfold SafeFrom at before ⊢
  rw [run_tryCatch]
  rcases ran : first.run s with ⟨stop | a, between⟩ <;> rw [ran] at before
  · exact after stop between before.1 before.2
  · exact before

theorem get_bind {next : σ → ExceptT Stop (StateM σ) α} (after : SafeFrom view s (next s) post) :
    SafeFrom view s (get >>= next) post := after

theorem modify_bind {f : σ → σ} {next : PUnit → ExceptT Stop (StateM σ) α}
    (after : SafeFrom view (f s) (next ⟨⟩) post) : SafeFrom view s (modify f >>= next) post := after

theorem sound {m : ExceptT Stop (StateM σ) α} (safe : SafeFrom view s m post) :
    (view (m.run s).2).Sound := by
  unfold SafeFrom at safe
  generalize m.run s = ended at safe ⊢
  rcases ended with ⟨_ | a, after⟩ <;> exact safe.1

theorem not_outOfBounds {m : ExceptT Stop (StateM σ) α} (safe : SafeFrom view s m post) :
    (m.run s).1 ≠ .error .outOfBounds := by
  unfold SafeFrom at safe
  generalize m.run s = ended at safe ⊢
  rcases ended with ⟨stop | a, after⟩
  · intro same
    exact safe.2 (Except.error.inj same)
  · nofun

end SafeFrom

end

/-! ### Single edits -/

namespace Edit

abbrev Safe {α : Type} (editor : Editor) (edit : Edit α) (post : α → Editor → Prop) : Prop :=
  SafeFrom Editor.buffer editor edit post

variable {α : Type} {editor : Editor} {post : α → Editor → Prop}

theorem buffer_bind {next : Buffer → Edit α} (after : Safe editor (next editor.buffer) post) :
    Safe editor (buffer >>= next) post := after

theorem fail_safe (sound : editor.buffer.Sound) (failure : Failure) :
    Safe editor (fail failure) post := .throw sound nofun

theorem change_safe {operation : Buffer → Except OutOfBounds Buffer} {after : Buffer}
    (ran : operation editor.buffer = .ok after) (sound : after.Sound) :
    Safe editor (change operation) fun _ left => left.buffer = after := by
  refine .get_bind ?_
  rw [ran]
  exact ⟨sound, rfl⟩

theorem minus_safe (sound : editor.buffer.Sound) {n m : Nat} (le : m ≤ n) :
    Safe editor (minus n m) fun difference left => difference = n - m ∧ left = editor := by
  rw [minus, if_pos le]
  exact .pure sound ⟨rfl, rfl⟩

theorem setCurrent_safe (sound : editor.buffer.Sound) (n : Nat) :
    Safe editor (setCurrent n) fun _ left => left.buffer = editor.buffer.setCurrent n :=
  ⟨Buffer.setCurrent_sound sound n, rfl⟩

theorem usePattern_safe (sound : editor.buffer.Sound) (pattern : Text) (ignoreCase : Bool) :
    Safe editor (usePattern pattern ignoreCase) fun _ left => left.buffer = editor.buffer := by
  refine .get_bind ?_
  split
  · exact ⟨sound, rfl⟩
  · exact fail_safe sound _

end Edit

open Edit (Safe)

variable {editor : Editor}

/-! ### Addresses -/

theorem Term.resolve_safe (sound : editor.buffer.Sound) (term : Term) :
    Safe editor term.resolve fun _ left => left.buffer = editor.buffer := by
  cases term with
  | line n => exact .pure sound rfl
  | current => exact Edit.buffer_bind (.pure sound rfl)
  | last => exact Edit.buffer_bind (.pure sound rfl)
  | search pattern delimiter =>
    apply SafeFrom.bind (Edit.usePattern_safe sound _ _)
    intro regex left sound same
    refine Edit.buffer_bind ?_
    rw [Buffer.findForward_eq sound.current_le]
    cases List.find? (left.buffer.accepted regex.matchesLine) (left.buffer.around _) with
    | none => exact Edit.fail_safe sound _
    | some n => exact .pure sound same

theorem Address.resolve_safe (sound : editor.buffer.Sound) (address : Address) :
    Safe editor address.resolve fun n left =>
      left.buffer = editor.buffer ∧ n ≤ editor.buffer.last := by
  apply SafeFrom.bind (address.term.resolve_safe sound)
  intro base left sound same
  split
  · exact Edit.fail_safe sound _
  · rename_i line _
    refine Edit.buffer_bind ?_
    by_cases inside : line ≤ left.buffer.last
    · rw [if_pos inside]
      exact .pure sound ⟨same, same ▸ inside⟩
    · rw [if_neg inside]
      exact Edit.fail_safe sound _

theorem Address.le_of_resolved (sound : editor.buffer.Sound) {address : Address} {after : Editor}
    {n : Nat} (found : address.resolve.run editor = (.ok n, after)) :
    after.buffer = editor.buffer ∧ n ≤ editor.buffer.last := by
  have safe := address.resolve_safe sound
  unfold Safe SafeFrom at safe
  rw [found] at safe
  exact safe.2

structure Range.EndsWithin (range : Range) (last : Nat) : Prop where
  first_le : range.first ≤ last
  final_le : range.final ≤ last

namespace AddressList

theorem resolveFrom_safe (sound : editor.buffer.Sound) (addresses : AddressList) {range : Range}
    (within : range.EndsWithin editor.buffer.last) :
    Safe editor (addresses.resolveFrom range) fun range left =>
      left.buffer.last = editor.buffer.last ∧ range.EndsWithin editor.buffer.last := by
  induction addresses generalizing editor range with
  | nil => exact .pure sound ⟨rfl, within⟩
  | cons first rest ih =>
    apply SafeFrom.bind (first.1.resolve_safe sound)
    intro n left sound found
    have last : left.buffer.last = editor.buffer.last := by rw [found.1]
    have next : Range.EndsWithin ⟨range.final, n, range.given + 1⟩ editor.buffer.last :=
      ⟨within.final_le, found.2⟩
    rw [← last] at next ⊢
    split
    · -- A semicolon moves the current line, and the lines stay as many as they are.
      apply SafeFrom.bind (Edit.setCurrent_safe sound n)
      intro _ moved sound same
      have still : moved.buffer.last = left.buffer.last := by rw [same]; rfl
      rw [← still] at next ⊢
      exact ih sound next
    · exact ih sound next

theorem resolve_safe (sound : editor.buffer.Sound) (addresses : AddressList) :
    Safe editor addresses.resolve fun range left =>
      left.buffer.last = editor.buffer.last ∧ range.EndsWithin editor.buffer.last := by
  have start : Range.EndsWithin {} editor.buffer.last := ⟨Nat.zero_le _, Nat.zero_le _⟩
  apply SafeFrom.bind (addresses.resolveFrom_safe sound start)
  intro range left sound found
  refine Edit.buffer_bind (.pure sound ⟨found.1, ?_⟩)
  have current_le : left.buffer.current ≤ editor.buffer.last := found.1 ▸ sound.current_le
  unfold Range.ofLookups
  split
  · exact ⟨current_le, current_le⟩
  · exact ⟨found.2.final_le, found.2.final_le⟩
  · exact ⟨found.2.first_le, found.2.final_le⟩

theorem within_of_resolved (sound : editor.buffer.Sound) {addresses : AddressList} {range : Range}
    {after : Editor} (found : addresses.resolve.run editor = (.ok range, after)) :
    after.buffer.Sound ∧ range.EndsWithin after.buffer.last := by
  have safe := addresses.resolve_safe sound
  unfold Safe SafeFrom at safe
  rw [found] at safe
  exact ⟨safe.1, safe.2.1 ▸ safe.2.2⟩

end AddressList

theorem Range.settle_within {range settled : Range} {first final last : Nat}
    (within : range.EndsWithin last) (final_le : final ≤ last)
    (ran : range.settle first final = .ok settled) : settled.Within last := by
  unfold settle check at ran
  split at ran
  · cases ran
  · rename_i valid
    cases ran
    refine ⟨by omega, by omega, ?_⟩
    unfold withDefault
    split
    · exact final_le
    · exact within.final_le

/-! ### Substitution -/

namespace Substitution

theorem replaceLine_safe (sound : editor.buffer.Sound) {n : Nat} (positive : 0 < n)
    (inside : n ≤ editor.buffer.last) (text : Text) :
    Safe editor (replaceLine n text) fun _ left => left.buffer.last = editor.buffer.last := by
  obtain ⟨shorter, deleted, kept, count⟩ :=
    Buffer.delete_inside sound positive (Nat.le_refl n) inside
  apply SafeFrom.bind (Edit.change_safe deleted kept)
  intro _ left sound same
  apply SafeFrom.bind (Edit.minus_safe sound positive)
  intro previous left' sound difference
  apply SafeFrom.bind (Edit.setCurrent_safe sound previous)
  intro _ moved sound current
  -- One line less and then one line more.
  obtain ⟨longer, inserted, kept, more⟩ := Buffer.insert_inside sound text
  refine (Edit.change_safe inserted kept).mono fun _ after replaced => ?_
  have still : moved.buffer.last = shorter.last := by
    rw [current, difference.2, same]
    rfl
  rw [replaced]
  omega

theorem applyFrom_safe (sound : editor.buffer.Sound) (substitution : Substitution) (regex : Regex)
    {n count : Nat} (positive : 0 < n) (inside : n + count ≤ editor.buffer.last + 1) :
    Safe editor (substitution.applyFrom regex n count) fun _ left =>
      left.buffer.last = editor.buffer.last := by
  induction count generalizing editor n with
  | zero => exact .pure sound rfl
  | succ count ih =>
    have n_le : n ≤ editor.buffer.last := by omega
    obtain ⟨text, found⟩ := Buffer.text?_isSome n_le
    refine Edit.buffer_bind ?_
    rw [found]
    dsimp only
    split
    · exact ih sound (Nat.succ_pos n) (by omega)
    · apply SafeFrom.bind (replaceLine_safe sound positive n_le _)
      intro _ left sound last
      apply SafeFrom.bind (ih sound (Nat.succ_pos n) (by omega))
      intro changed left' sound last'
      exact .pure sound (last'.trans last)

theorem apply_safe (sound : editor.buffer.Sound) (substitution : Substitution) {range : Range}
    (within : range.Within editor.buffer.last) (underGlobal : Bool) :
    Safe editor (substitution.apply range underGlobal) fun _ _ => True := by
  apply SafeFrom.bind (Edit.usePattern_safe sound _ _)
  intro regex left sound same
  have inside : range.first + (range.final + 1 - range.first) ≤ left.buffer.last + 1 := by
    have := within.final_le
    have := within.ordered
    rw [same]
    omega
  apply SafeFrom.bind (substitution.applyFrom_safe sound regex within.positive inside)
  intro changed left sound last
  split
  · exact Edit.fail_safe sound _
  · exact .pure sound trivial

end Substitution

end LineEditor
