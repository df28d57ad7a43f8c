import LineEditor.Conduct
import LineEditor.Editor

/-!
Two computations side by side: started in related states they end the same way, in related states
again. Two buffers are alike if they have the same texts, the same line current and, where these
matter, the same marks; every operation and every edit does to the one what it does to the other,
since no mark is looked at.
-/

namespace LineEditor

variable {ε σ α β : Type} {R : σ → σ → Prop}

structure EndTogether (R : σ → σ → Prop) (ended ended' : Except ε α × σ) : Prop where
  same : ended.1 = ended'.1
  related : R ended.2 ended'.2

/-- From related states both computations end together. -/
def Together (R : σ → σ → Prop) (m m' : ExceptT ε (StateM σ) α) : Prop :=
  ∀ s s', R s s' → EndTogether R (m.run s) (m'.run s')

namespace EndTogether

theorem follows {ended ended' : Except ε α × σ} (together : EndTogether R ended ended')
    {outcome : Except ε α} {s : σ} (ran : ended = (outcome, s)) :
    ∃ s', ended' = (outcome, s') ∧ R s s' := by
  subst ran
  exact ⟨ended'.2, Prod.ext together.same.symm rfl, together.related⟩

theorem bind {first first' : ExceptT ε (StateM σ) β} {next next' : β → ExceptT ε (StateM σ) α}
    {s s' : σ} (before : EndTogether R (first.run s) (first'.run s'))
    (after : ∀ b between between', first.run s = (.ok b, between) → R between between' →
      EndTogether R ((next b).run between) ((next' b).run between')) :
    EndTogether R ((first >>= next).run s) ((first' >>= next').run s') := by
  rcases ran : first.run s with ⟨outcome, between⟩
  obtain ⟨between', ran', related⟩ := before.follows ran
  rw [run_bind, run_bind, ran, ran']
  cases outcome with
  | ok b => exact after b between between' ran related
  | error e => exact ⟨rfl, related⟩

theorem tryCatch {first first' : ExceptT ε (StateM σ) α}
    {handle handle' : ε → ExceptT ε (StateM σ) α} {s s' : σ}
    (before : EndTogether R (first.run s) (first'.run s'))
    (after : ∀ e, Together R (handle e) (handle' e)) :
    EndTogether R ((tryCatch first handle).run s) ((tryCatch first' handle').run s') := by
  rcases ran : first.run s with ⟨outcome, between⟩
  obtain ⟨between', ran', related⟩ := before.follows ran
  rw [run_tryCatch, run_tryCatch, ran, ran']
  cases outcome with
  | ok a => exact ⟨rfl, related⟩
  | error e => exact after e between between' related

end EndTogether

namespace Together

theorem pure (a : α) : Together R (Pure.pure a : ExceptT ε (StateM σ) α) (Pure.pure a) :=
  fun _ _ related => ⟨rfl, related⟩

theorem throw (e : ε) :
    Together R (MonadExcept.throw e : ExceptT ε (StateM σ) α) (MonadExcept.throw e) :=
  fun _ _ related => ⟨rfl, related⟩

theorem modify {f g : σ → σ} (leads : ∀ s s', R s s' → R (f s) (g s')) :
    Together R (modify f : ExceptT ε (StateM σ) PUnit) (modify g) :=
  fun s s' related => ⟨rfl, leads s s' related⟩

theorem bind {first first' : ExceptT ε (StateM σ) β} {next next' : β → ExceptT ε (StateM σ) α}
    (before : Together R first first') (after : ∀ b, Together R (next b) (next' b)) :
    Together R (first >>= next) (first' >>= next') :=
  fun s s' related => (before s s' related).bind fun b _ _ _ => after b _ _

-- What comes next may look at the states, as long as it makes the same of related ones.
theorem get_bind {next next' : σ → ExceptT ε (StateM σ) α}
    (after : ∀ s s', R s s' → Together R (next s) (next' s')) :
    Together R (get >>= next) (get >>= next') :=
  fun s s' related => after s s' related s s' related

theorem tryCatch {first first' : ExceptT ε (StateM σ) α}
    {handle handle' : ε → ExceptT ε (StateM σ) α} (before : Together R first first')
    (after : ∀ e, Together R (handle e) (handle' e)) :
    Together R (tryCatch first handle) (tryCatch first' handle') :=
  fun s s' related => (before s s' related).tryCatch after

end Together

/-- From related states both computations end together, and where they come to their end these are
related more closely. -/
def Meets (R Q : σ → σ → Prop) (m m' : ExceptT ε (StateM σ) α) : Prop :=
  ∀ s s', R s s' → EndTogether R (m.run s) (m'.run s')
    ∧ ∀ a, (m.run s).1 = .ok a → Q (m.run s).2 (m'.run s').2

theorem Meets.bind {Q : σ → σ → Prop} {first first' : ExceptT ε (StateM σ) β}
    {next next' : β → ExceptT ε (StateM σ) α} (before : Together R first first')
    (after : ∀ b, Meets R Q (next b) (next' b)) :
    Meets R Q (first >>= next) (first' >>= next') := by
  intro s s' related
  rcases ran : first.run s with ⟨outcome, between⟩
  obtain ⟨between', ran', led⟩ := (before s s' related).follows ran
  rw [run_bind, run_bind, ran, ran']
  cases outcome with
  | ok b => exact after b between between' led
  | error e => exact ⟨⟨rfl, led⟩, nofun⟩

/-! ### Buffers -/

namespace Buffer

theorem alike_of_texts {b b' : Buffer}
    (texts : b.slots.toList.map (·.text) = b'.slots.toList.map (·.text))
    (current : b.current = b'.current) : b.Alike false b' where
  slots := by
    have views := congrArg (List.map fun text => (text, false)) texts
    rwa [List.map_map, List.map_map] at views
  current := current

theorem alike_of_marks {b b' : Buffer}
    (texts : b.slots.toList.map (·.text) = b'.slots.toList.map (·.text))
    (marks : b.slots.toList.map (·.marked) = b'.slots.toList.map (·.marked))
    (current : b.current = b'.current) : b.Alike true b' where
  slots := by
    have views : (b.slots.toList.map (·.text)).zip (b.slots.toList.map (·.marked))
        = (b'.slots.toList.map (·.text)).zip (b'.slots.toList.map (·.marked)) := by
      rw [texts, marks]
    rwa [List.zip_map', List.zip_map'] at views
  current := current

/-- Both operations come to buffers that are alike, or both stop and leave such. -/
inductive AlikeEnds (marks : Bool) : Except OutOfBounds Buffer → Except OutOfBounds Buffer → Prop
  | ok {b b' : Buffer} (alike : b.Alike marks b') : AlikeEnds marks (.ok b) (.ok b')
  | error {b b' : Buffer} (alike : b.Alike marks b') : AlikeEnds marks (.error ⟨b⟩) (.error ⟨b'⟩)

theorem AlikeEnds.bind {marks : Bool} {first first' : Except OutOfBounds Buffer}
    {next next' : Buffer → Except OutOfBounds Buffer} (before : AlikeEnds marks first first')
    (after : ∀ b b', b.Alike marks b' → AlikeEnds marks (next b) (next' b')) :
    AlikeEnds marks (first >>= next) (first' >>= next') := by
  cases before with
  | ok alike => exact after _ _ alike
  | error alike => exact .error alike

namespace Alike
variable {marks : Bool} {b b' : Buffer}

/-! ### Reading -/

theorem line? (alike : b.Alike marks b') (n : Nat) :
    (b.line? n).map (Line.view marks) = (b'.line? n).map (Line.view marks) := by
  have nth := congrArg (·[n]?) alike.slots
  simpa [Buffer.line?] using nth

theorem text? (alike : b.Alike marks b') (n : Nat) : b.text? n = b'.text? n := by
  have text := congrArg (Option.map Prod.fst) (alike.line? n)
  rwa [Option.map_map, Option.map_map] at text

theorem marked? (alike : b.Alike true b') (n : Nat) : b.marked? n = b'.marked? n := by
  have marked := congrArg (Option.map Prod.snd) (alike.line? n)
  rwa [Option.map_map, Option.map_map] at marked

theorem findFrom (alike : b.Alike marks b') (accepts : Text → Bool) (start steps n : Nat) :
    (b.findFrom accepts start steps n).toOption = (b'.findFrom accepts start steps n).toOption := by
  induction steps generalizing n with
  | zero => rfl
  | succ steps ih =>
    simp only [Buffer.findFrom, alike.nextLine, alike.text?]
    cases b'.text? (b'.nextLine n) with
    | none => rfl
    | some text =>
      dsimp only
      split
      · rfl
      · split
        · rfl
        · exact ih _

theorem findForward (alike : b.Alike marks b') (accepts : Text → Bool) :
    (b.findForward accepts).toOption = (b'.findForward accepts).toOption := by
  rw [Buffer.findForward, Buffer.findForward, alike.current, alike.last]
  exact alike.findFrom accepts _ _ _

/-! ### Changing -/

theorem forget (alike : b.Alike true b') (marks : Bool) : b.Alike marks b' where
  slots := by
    have views : Line.view marks = (fun seen => (seen.1, marks && seen.2)) ∘ Line.view true := by
      funext line
      simp [Line.view]
    rw [views, ← List.map_map, ← List.map_map, alike.slots]
  current := alike.current

theorem setCurrent (alike : b.Alike marks b') (n : Nat) :
    (b.setCurrent n).Alike marks (b'.setCurrent n) where
  slots := alike.slots
  current := by rw [Buffer.setCurrent, Buffer.setCurrent, alike.last]

theorem truncate (alike : b.Alike marks b') (n : Nat) :
    (b.truncate n).Alike marks (b'.truncate n) where
  slots := by simp [Buffer.truncate, List.map_take, alike.slots]
  current := alike.current

theorem clear (alike : b.Alike marks b') : b.clear.Alike marks b'.clear where
  slots := (alike.truncate 0).slots
  current := rfl

theorem push (alike : b.Alike marks b') (text : Text) :
    (b.push text).Alike marks (b'.push text) where
  slots := by simp [Buffer.push, alike.slots, Line.view]
  current := alike.current

theorem reverse (alike : b.Alike marks b') (first final : Nat) :
    AlikeEnds marks (b.reverse first final) (b'.reverse first final) := by
  by_cases ordered : first < final
  · by_cases inside : final < b.slots.size
    · have inside' : final < b'.slots.size := alike.size ▸ inside
      rw [Buffer.reverse, Buffer.reverse, dif_pos ordered, dif_pos ordered, dif_pos inside,
        dif_pos inside']
      refine .ok ⟨?_, alike.current⟩
      simp only [toList_reverseSlots, List.map_append, List.map_reverse, List.map_take,
        List.map_drop, alike.slots]
    · have outside : ¬final < b'.slots.size := alike.size ▸ inside
      rw [Buffer.reverse, Buffer.reverse, dif_pos ordered, dif_pos ordered, dif_neg inside,
        dif_neg outside]
      exact .error alike
  · rw [Buffer.reverse, Buffer.reverse, dif_neg ordered, dif_neg ordered]
    exact .ok alike

theorem moveBlock (alike : b.Alike marks b') (first final target : Nat) :
    AlikeEnds marks (b.moveBlock first final target) (b'.moveBlock first final target) := by
  unfold Buffer.moveBlock
  split
  · apply (alike.reverse _ _).bind
    intro b b' alike
    apply (alike.reverse _ _).bind
    intro b b' alike
    exact alike.reverse _ _
  · split
    · apply (alike.reverse _ _).bind
      intro b b' alike
      apply (alike.reverse _ _).bind
      intro b b' alike
      exact alike.reverse _ _
    · exact .ok alike

theorem insert (alike : b.Alike marks b') (text : Text) :
    AlikeEnds marks (b.insert text) (b'.insert text) := by
  have pushed := alike.push text
  rw [Buffer.insert, Buffer.insert, alike.current, pushed.last]
  apply (pushed.moveBlock _ _ _).bind
  intro b b' alike
  exact .ok ⟨alike.slots, by rw [alike.current]⟩

theorem delete (alike : b.Alike marks b') (first final : Nat) :
    AlikeEnds marks (b.delete first final) (b'.delete first final) := by
  rw [Buffer.delete, Buffer.delete, alike.last]
  apply (alike.moveBlock _ _ _).bind
  intro moved moved' alike
  dsimp only
  split
  · exact .error alike
  · have kept := alike.truncate (b'.last - (final - first + 1))
    refine .ok ⟨kept.slots, ?_⟩
    simp only [Buffer.previousLine, kept.last]

theorem of_slots {slots slots' : Array Line}
    (same : ∀ n : Nat, slots[n]?.map (Line.view marks) = slots'[n]?.map (Line.view marks)) :
    slots.toList.map (Line.view marks) = slots'.toList.map (Line.view marks) := by
  apply List.ext_getElem?
  intro n
  simpa using same n

theorem setMark (alike : b.Alike marks b') (n : Nat) (marked : Bool) :
    AlikeEnds marks (b.setMark n marked) (b'.setMark n marked) := by
  by_cases inside : n < b.slots.size
  · have inside' : n < b'.slots.size := alike.size ▸ inside
    rw [Buffer.setMark, Buffer.setMark, modifyLine, modifyLine, if_pos inside, if_pos inside']
    refine .ok ⟨of_slots fun m => ?_, alike.current⟩
    have set : Line.view marks ∘ (fun line : Line => { line with marked })
        = (fun seen => (seen.1, marks && marked)) ∘ Line.view marks := rfl
    rw [Array.getElem?_modify, Array.getElem?_modify]
    split
    · have other := congrArg (Option.map fun seen => (seen.1, marks && marked)) (alike.line? m)
      rw [Option.map_map, Option.map_map] at other
      rw [Option.map_map, Option.map_map, set]
      exact other
    · exact alike.line? m
  · have outside : ¬n < b'.slots.size := alike.size ▸ inside
    rw [Buffer.setMark, Buffer.setMark, modifyLine, modifyLine, if_neg inside, if_neg outside]
    exact .error alike

end Alike

/-! ### Marking -/

theorem markLines_line?_zero (b : Buffer) (regex : Regex) (range : Range) (invert : Bool) :
    (b.markLines regex range invert).line? 0 = b.line? 0 := by
  simp [line?, Buffer.markLines]

theorem markLines_line? (b : Buffer) (regex : Regex) (range : Range) (invert : Bool) {n : Nat}
    (positive : 0 < n) (marks : Bool) :
    ((b.markLines regex range invert).line? n).map (Line.view marks) = (b.text? n).map fun text =>
      (text, marks &&
        (range.first ≤ n && n ≤ range.final && regex.matchesLine text != invert)) := by
  rw [Buffer.text?, line?, line?, markLines, Array.getElem?_mapIdx, Option.map_map, Option.map_map]
  cases b.slots[n]? with
  | none => rfl
  | some line => simp [Line.view, Nat.ne_of_gt positive]

namespace Alike
variable {marks : Bool} {b b' : Buffer}

theorem markLines (alike : b.Alike marks b') (regex : Regex) (range : Range) (invert : Bool) :
    (b.markLines regex range invert).Alike marks (b'.markLines regex range invert) where
  slots := by
    apply of_slots
    intro n
    by_cases zero : n = 0
    · subst zero
      have first := alike.line? 0
      rwa [← markLines_line?_zero b regex range invert,
        ← markLines_line?_zero b' regex range invert] at first
    · have positive := Nat.pos_of_ne_zero zero
      have line := markLines_line? b regex range invert positive marks
      rw [alike.text?, ← markLines_line? b' regex range invert positive marks] at line
      exact line
  current := alike.current

-- Whatever was marked before, the marks are the same afterwards.
theorem markLines_lines (alike : b.Alike marks b') (regex : Regex) (range : Range)
    (invert : Bool) :
    (b.markLines regex range invert).lines.map (Line.view true)
      = (b'.markLines regex range invert).lines.map (Line.view true) := by
  apply List.ext_getElem?
  intro n
  have positive := Nat.succ_pos n
  rw [List.getElem?_map, List.getElem?_map, ← line?_succ, ← line?_succ,
    markLines_line? b _ _ _ positive, markLines_line? b' _ _ _ positive, alike.text?]

end Alike

end Buffer

/-! ### Edits -/

structure Editor.Alike (marks : Bool) (editor editor' : Editor) : Prop where
  buffer : editor.buffer.Alike marks editor'.buffer
  active : editor.active = editor'.active

open Editor (Alike)

variable {marks : Bool}

namespace Edit

theorem buffer_bind_together {next next' : Buffer → Edit α}
    (after : ∀ b b', b.Alike marks b' → Together (Alike marks) (next b) (next' b')) :
    Together (Alike marks) (buffer >>= next) (buffer >>= next') :=
  fun editor editor' alike => after _ _ alike.buffer editor editor' alike

theorem change_together {operation operation' : Buffer → Except OutOfBounds Buffer}
    (leads : ∀ b b', b.Alike marks b' → Buffer.AlikeEnds marks (operation b) (operation' b')) :
    Together (Alike marks) (change operation) (change operation') := by
  intro editor editor' alike
  have led := leads _ _ alike.buffer
  simp only [change, run_bind, run_get]
  generalize operation editor.buffer = ended at led ⊢
  generalize operation' editor'.buffer = ended' at led ⊢
  cases led with
  | ok changed => exact ⟨rfl, changed, alike.active⟩
  | error left => exact ⟨rfl, left, alike.active⟩

theorem setCurrent_together (n : Nat) :
    Together (Alike marks) (setCurrent n) (setCurrent n) :=
  .modify fun _ _ alike => ⟨alike.buffer.setCurrent n, alike.active⟩

theorem minus_together (n m : Nat) : Together (Alike marks) (minus n m) (minus n m) := by
  unfold minus
  split
  · exact .pure _
  · exact .throw _

theorem usePattern_together (pattern : Text) (ignoreCase : Bool) :
    Together (Alike marks) (usePattern pattern ignoreCase) (usePattern pattern ignoreCase) := by
  apply Together.get_bind
  intro editor editor' alike
  rw [alike.active]
  split
  · exact .bind (.modify fun _ _ alike => ⟨alike.buffer, rfl⟩) fun _ => .pure _
  · exact .throw _

end Edit

/-! ### Lookups -/

theorem Term.resolve_together (term : Term) :
    Together (Alike marks) term.resolve term.resolve := by
  cases term with
  | line n => exact .pure n
  | current =>
    apply Edit.buffer_bind_together
    intro b b' alike
    rw [alike.current]
    exact .pure _
  | last =>
    apply Edit.buffer_bind_together
    intro b b' alike
    rw [alike.last]
    exact .pure _
  | search pattern delimiter =>
    apply Together.bind (Edit.usePattern_together _ _)
    intro regex
    apply Edit.buffer_bind_together
    intro b b' alike
    have found := alike.findForward regex.matchesLine
    generalize b.findForward regex.matchesLine = ended at found ⊢
    generalize b'.findForward regex.matchesLine = ended' at found ⊢
    match ended, ended' with
    | .ok found₁, .ok found₂ =>
      cases found
      cases found₁ with
      | some n => exact .pure n
      | none => exact .throw _
    | .error _, .error _ => exact .throw _

theorem Address.resolve_together (address : Address) :
    Together (Alike marks) address.resolve address.resolve := by
  apply Together.bind address.term.resolve_together
  intro base
  split
  · exact .throw _
  · apply Edit.buffer_bind_together
    intro b b' alike
    rw [alike.last]
    split
    · exact .pure _
    · exact .throw _

namespace AddressList

theorem resolveFrom_together (addresses : AddressList) (range : Range) :
    Together (Alike marks) (addresses.resolveFrom range) (addresses.resolveFrom range) := by
  induction addresses generalizing range with
  | nil => exact .pure range
  | cons first rest ih =>
    apply Together.bind first.1.resolve_together
    intro line
    split
    · exact .bind (Edit.setCurrent_together line) fun _ => ih _
    · exact ih _

theorem resolve_together (addresses : AddressList) :
    Together (Alike marks) addresses.resolve addresses.resolve := by
  apply Together.bind (addresses.resolveFrom_together {})
  intro range
  apply Edit.buffer_bind_together
  intro b b' alike
  rw [alike.current]
  exact .pure _

end AddressList

/-! ### Substitutions -/

namespace Substitution

theorem replaceLine_together (n : Nat) (text : Text) :
    Together (Alike marks) (replaceLine n text) (replaceLine n text) := by
  apply Together.bind (Edit.change_together fun _ _ alike => alike.delete n n)
  intro _
  apply Together.bind (Edit.minus_together n 1)
  intro previous
  apply Together.bind (Edit.setCurrent_together previous)
  intro _
  exact Edit.change_together fun _ _ alike => alike.insert text

theorem applyFrom_together (substitution : Substitution) (regex : Regex) (n count : Nat) :
    Together (Alike marks) (substitution.applyFrom regex n count)
      (substitution.applyFrom regex n count) := by
  induction count generalizing n with
  | zero => exact .pure 0
  | succ count ih =>
    apply Edit.buffer_bind_together
    intro b b' alike
    rw [alike.text? n]
    cases b'.text? n with
    | none => exact .throw _
    | some text =>
      dsimp only
      split
      · exact ih (n + 1)
      · apply Together.bind (replaceLine_together n _)
        intro _
        exact .bind (ih (n + 1)) fun _ => .pure _

theorem apply_together (substitution : Substitution) (range : Range) (underGlobal : Bool) :
    Together (Alike marks) (substitution.apply range underGlobal)
      (substitution.apply range underGlobal) := by
  apply Together.bind (Edit.usePattern_together _ _)
  intro regex
  apply Together.bind (substitution.applyFrom_together regex _ _)
  intro changed
  split
  · exact .throw _
  · exact .pure _

end Substitution

end LineEditor
