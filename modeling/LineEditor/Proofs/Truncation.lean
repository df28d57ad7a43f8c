import LineEditor.Proofs.Equations

/-!
A session on an output that takes a limited number of bytes, beside the same session without the
limit. The two go on alike as long as what they write fits. Where it does not, the limited one fails
at the first byte too many, can write nothing after it and ends; so it has written as much of the
same bytes as its output takes.
-/

namespace LineEditor

open Procedure (WritesOn carried_writesOn)

variable {α β : Type} {limit : Nat} {refusal : Refusal}

def Session.limitTo (limit : Nat) (refusal : Refusal) (session : Session) : Session :=
  { session with output := { session.output with device := .limited limit refusal } }

/-- The free session has written more than the stopped one may, and that one has written all that
it may of the same. -/
structure CutOff (limit : Nat) (refusal : Refusal) (free stopped : Session) : Prop where
  unlimited : free.output.Unlimited
  exceeds : limit < free.output.written.size
  taken : stopped.output.written.toList = free.output.written.toList.take limit
  limited : stopped.output.device = .limited limit refusal

namespace CutOff
variable {free after stopped : Session}

-- What the free session writes from then on is lost on the stopped one.
theorem writesOn (cut : CutOff limit refusal free stopped) (grows : WritesOn free after) :
    CutOff limit refusal after stopped where
  unlimited := grows.unlimited cut.unlimited
  exceeds := Nat.lt_of_lt_of_le cut.exceeds grows.size_le
  taken := by
    obtain ⟨more, whole⟩ := grows.written
    have inside : limit ≤ free.output.written.toList.length := Nat.le_of_lt cut.exceeds
    rw [cut.taken, ← whole, List.take_append_of_le_length inside]
  limited := cut.limited

theorem size_eq (cut : CutOff limit refusal free stopped) :
    stopped.output.written.size = limit := by
  have inside : limit ≤ free.output.written.toList.length := Nat.le_of_lt cut.exceeds
  rw [← Array.length_toList, cut.taken, List.length_take, Nat.min_eq_left inside]

theorem full (cut : CutOff limit refusal free stopped) : stopped.output.Full refusal :=
  Output.full_of_limited cut.limited (Nat.le_of_eq cut.size_eq.symm)

end CutOff

/-- How a run ends with and without the limit: alike if all that was written fits, or else for the
output. -/
inductive CutAt (limit : Nat) (refusal : Refusal) :
    Except Stop α × Session → Except Stop α × Session → Prop where
  | alike {outcome : Except Stop α} {after : Session} (unlimited : after.output.Unlimited)
      (fits : after.output.written.size ≤ limit) :
      CutAt limit refusal (outcome, after) (outcome, after.limitTo limit refusal)
  | short {outcome : Except Stop α} {free stopped : Session}
      (cut : CutOff limit refusal free stopped) :
      CutAt limit refusal (outcome, free) (.error (.failed (.output refusal)), stopped)

/-- With the limit the procedure does the same as without it, or is cut short by it. -/
def Truncates (limit : Nat) (refusal : Refusal) (procedure : Procedure α) : Prop :=
  ∀ session : Session, session.output.Unlimited → session.output.written.size ≤ limit →
    CutAt limit refusal (procedure.run session) (procedure.run (session.limitTo limit refusal))

theorem CutAt.bind {first : Procedure β} {next : β → Procedure α} {session : Session}
    (before : CutAt limit refusal (first.run session)
      (first.run (session.limitTo limit refusal)))
    (after : ∀ b between, first.run session = (.ok b, between) → between.output.Unlimited →
      between.output.written.size ≤ limit →
      CutAt limit refusal ((next b).run between) ((next b).run (between.limitTo limit refusal)))
    (writes : ∀ b, Keeps WritesOn (next b)) :
    CutAt limit refusal ((first >>= next).run session)
      ((first >>= next).run (session.limitTo limit refusal)) := by
  rw [run_bind, run_bind]
  generalize first.run session = ended at before after ⊢
  generalize first.run (session.limitTo limit refusal) = ended' at before ⊢
  cases before with
  | @alike outcome between unlimited fits =>
    cases outcome with
    | error stop => exact .alike unlimited fits
    | ok b => exact after b between rfl unlimited fits
  | @short outcome between stopped cut =>
    cases outcome with
    | error stop => exact .short cut
    | ok b => exact .short (cut.writesOn (writes b between))

namespace Truncates

theorem bind {first : Procedure β} {next : β → Procedure α}
    (before : Truncates limit refusal first) (after : ∀ b, Truncates limit refusal (next b))
    (writes : ∀ b, Keeps WritesOn (next b)) : Truncates limit refusal (first >>= next) :=
  fun session unlimited fits =>
    (before session unlimited fits).bind (fun b between _ => after b between) writes

-- A handler that is given the refusal of the output has to pass it on.
theorem tryCatch {first : Procedure α} {handle : Stop → Procedure α}
    (before : Truncates limit refusal first) (after : ∀ stop, Truncates limit refusal (handle stop))
    (writes : ∀ stop, Keeps WritesOn (handle stop))
    (passes : ∀ free stopped : Session, CutOff limit refusal free stopped →
      (handle (.failed (.output refusal))).run stopped
        = (.error (.failed (.output refusal)), stopped)) :
    Truncates limit refusal (tryCatch first handle) := by
  intro session unlimited fits
  have led := before session unlimited fits
  rw [run_tryCatch, run_tryCatch]
  generalize first.run session = ended at led ⊢
  generalize first.run (session.limitTo limit refusal) = ended' at led ⊢
  cases led with
  | @alike outcome between unlimited fits =>
    cases outcome with
    | error stop => exact after stop between unlimited fits
    | ok a => exact .alike unlimited fits
  | @short outcome between stopped cut =>
    cases outcome with
    | error stop =>
      dsimp only
      rw [passes between stopped cut]
      exact .short (cut.writesOn (writes stop between))
    | ok a =>
      dsimp only
      rw [passes between stopped cut]
      exact .short cut

end Truncates

namespace Procedure

theorem write_truncates (text : Text) : Truncates limit refusal (write text) := by
  intro session unlimited fits
  have longer := session.output.size_append (Utf8.encode text)
  have wrote : (session.limitTo limit refusal).output.write (Utf8.encode text)
      = if Utf8.encode text = [] ∨ session.output.written.size + (Utf8.encode text).length ≤ limit
        then ((session.limitTo limit refusal).output.append (Utf8.encode text), none)
        else ((session.limitTo limit refusal).output.append
          ((Utf8.encode text).take (limit - session.output.written.size)), some refusal) :=
    Output.write_limited rfl _
  rw [run_write_unlimited unlimited, run_write, wrote]
  by_cases room : session.output.written.size + (Utf8.encode text).length ≤ limit
  · rw [if_pos (.inr room)]
    exact .alike unlimited (longer ▸ room)
  · have some : Utf8.encode text ≠ [] := by
      intro empty
      rw [empty] at room
      exact room fits
    rw [if_neg (not_or.2 ⟨some, room⟩)]
    refine .short ⟨unlimited, ?_, ?_, rfl⟩
    · exact longer ▸ Nat.lt_of_not_le room
    · have inside : session.output.written.toList.length ≤ limit := fits
      rw [Output.toList_append, Output.toList_append, List.take_append,
        List.take_of_length_le inside]
      rfl

theorem flush_truncates : Truncates limit refusal flush := by
  intro session unlimited fits
  rw [flush, run_request, run_request, Output.flush_unlimited unlimited]
  exact .alike unlimited fits

theorem Spoken.truncates {procedure : Procedure Unit} (spoken : Spoken True procedure) :
    Truncates limit refusal procedure := by
  induction spoken with
  | silence => exact fun session unlimited fits => .alike unlimited fits
  | write text => exact write_truncates text
  | flush => exact flush_truncates
  | toggle => exact fun session unlimited fits => .alike unlimited fits
  | remember => exact fun session unlimited fits => .alike unlimited fits
  | bind first next before after =>
    exact .bind before (fun _ => after) fun _ => carried_writesOn.spoken next
  | @consult next blind _ after =>
    intro session unlimited fits
    have same : next (session.limitTo limit refusal) = next session := blind _ _ rfl rfl
    rw [run_bind, run_bind, run_get, run_get]
    dsimp only
    rw [same]
    exact after session session unlimited fits

theorem edit_truncates (operation : Edit α) : Truncates limit refusal (edit operation) := by
  intro session unlimited fits
  rw [run_edit, run_edit]
  dsimp only [Session.limitTo]
  rcases operation.run session.editor with ⟨_ | a, editor⟩ <;> exact .alike unlimited fits

theorem readLine_truncates : Truncates limit refusal readLine := by
  intro session unlimited fits
  rw [run_readLine, run_readLine]
  exact .alike unlimited fits

theorem takeTyped_truncates : Truncates limit refusal takeTyped := by
  have puts (line : Text) : Truncates limit refusal (insertLine line) := edit_truncates _
  have typed : Keeps WritesOn takeTyped := carried_writesOn.takeTyped trivial
  have put (line : Text) : Keeps WritesOn (insertLine line) := by
    intro session
    rw [insertLine, run_edit]
    split <;> exact .refl session.output
  intro session
  induction session using takeTyped_induction with
  | step session ih =>
    intro unlimited fits
    rw [run_takeTyped, run_takeTyped]
    apply (readLine_truncates session unlimited fits).bind
    · intro line typed read unlimited fits
      split
      · exact .alike unlimited fits
      · apply (puts line typed unlimited fits).bind
        · exact fun _ inserted put => ih line typed inserted read put
        · exact fun _ => by assumption
    · intro line
      split
      · exact carried_writesOn.pure _
      · exact carried_writesOn.bind (put line) fun _ => typed

theorem storeFile_truncates (path : Text) (content : Bytes) :
    Truncates limit refusal (storeFile path content) := by
  intro session unlimited fits
  rw [run_storeFile, run_storeFile]
  dsimp only [Session.limitTo]
  rcases session.files.write path content with ⟨_ | _, files⟩ <;> exact .alike unlimited fits

theorem Composed.truncates {p q : Phase} {procedure : Procedure α}
    (composed : Composed .all p q procedure) : Truncates limit refusal procedure := by
  induction composed with
  | pure a => exact fun session unlimited fits => .alike unlimited fits
  | fail _ failure => exact fun session unlimited fits => .alike unlimited fits
  | stop _ => exact fun session unlimited fits => .alike unlimited fits
  | weaken _ _ _ ih => exact ih
  | bind _ next before after =>
    exact .bind before after fun b => carried_writesOn.composed (next b)
  | @look _ _ _ next blind _ after =>
    intro session unlimited fits
    have seen : (session.limitTo limit refusal).SeenAlike session := ⟨⟨rfl, rfl⟩, rfl, rfl⟩
    have same : next (session.limitTo limit refusal) = next session := blind _ _ seen
    rw [run_bind, run_bind, run_get, run_get]
    dsimp only
    rw [same]
    exact after session session unlimited fits
  | ask _ => exact edit_truncates _
  | alter _ _ => exact edit_truncates _
  | substitute _ _ _ => exact edit_truncates _
  | name _ path => exact fun session unlimited fits => .alike unlimited fits
  | store path content => exact storeFile_truncates path content
  | quit _ => exact fun session unlimited fits => .alike unlimited fits
  | takeTyped _ => exact takeTyped_truncates
  | spoken spoken => exact spoken.truncates

/-! ### Loops and command lines -/

theorem visit_truncates (body : Command) (n : Nat) : Truncates limit refusal (visit body n) := by
  have executed : Composed .all .checking .acting (execute body true) :=
    (execute_composed body true).mono (body.action.within_all true)
  have current : Composed .all .acting .acting (setCurrent n) := setCurrent_composed n
  apply Truncates.bind (edit_truncates _)
  · exact fun _ => .bind current.truncates (fun _ => executed.truncates)
      fun _ => carried_writesOn.composed executed
  · exact fun _ => carried_writesOn.bind (carried_writesOn.composed current) fun _ =>
      carried_writesOn.composed executed

-- The loop looks at the buffer only, so that it makes the same visits until one of them is cut off.
theorem replayFrom_truncates (body : Command) (position idle : Nat) :
    Truncates limit refusal (replayFrom body position idle) := by
  intro session unlimited fits
  change CutAt limit refusal (replayFrom body position idle session)
    (replayFrom body position idle (session.limitTo limit refusal))
  have visits (n : Nat) : Truncates limit refusal (visit body n) := visit_truncates body n
  have writes (position : Nat) : Keeps WritesOn (replay body position) :=
    carried_writesOn.replay trivial (body.action.within_all true) position
  fun_induction replayFrom body position idle session with
  | case1 position idle session passed =>
    have passed' : (session.limitTo limit refusal).buffer.last < idle := passed
    rw [replayFrom_passed passed']
    exact .alike unlimited fits
  | case2 position idle session going marked visited _ ran ih =>
    have going' : ¬(session.limitTo limit refusal).buffer.last < idle := going
    have led := visits position session unlimited fits
    have completed : (visit body position).run session = (.ok ⟨⟩, visited.2) := Prod.ext ran rfl
    rw [replayFrom_visit going' marked]
    rw [completed] at led
    generalize (visit body position).run (session.limitTo limit refusal) = ended' at led ⊢
    cases led with
    | alike unlimited fits => exact ih unlimited fits
    | short cut => exact .short (cut.writesOn (writes position visited.2))
  | case3 position idle session going marked visited stop ran =>
    have going' : ¬(session.limitTo limit refusal).buffer.last < idle := going
    have led := visits position session unlimited fits
    have stopped : (visit body position).run session = (.error stop, visited.2) := Prod.ext ran rfl
    rw [replayFrom_visit going' marked]
    rw [stopped] at led
    generalize (visit body position).run (session.limitTo limit refusal) = ended' at led ⊢
    cases led with
    | alike unlimited fits => exact .alike unlimited fits
    | short cut => exact .short cut
  | case4 position idle session going unmarked ih =>
    have going' : ¬(session.limitTo limit refusal).buffer.last < idle := going
    rw [replayFrom_skip going' unmarked]
    exact ih unlimited fits

theorem executeStatement_truncates (line : Text) :
    Truncates limit refusal (executeStatement line) := by
  unfold executeStatement
  cases Statement.parse line.body with
  | error failure =>
    exact fun session unlimited fits => .alike unlimited fits
  | ok statement =>
    cases statement with
    | single command =>
      exact ((execute_composed command false).mono (command.action.within_all false)).truncates
    | global global =>
      have marked : Composed .all .checking .acting (markGlobal global) :=
        markGlobal_composed trivial global
      apply Truncates.bind marked.truncates
      · exact fun position => replayFrom_truncates global.body position 0
      · exact carried_writesOn.replay trivial (global.body.action.within_all true)

theorem executeLine_truncates (line : Text) : Truncates limit refusal (executeLine line) := by
  have reported (failure : Failure) : Spoken True (report failure) := report_spoken trivial failure
  have back (n : Nat) : Keeps WritesOn (setCurrent n) :=
    carried_writesOn.edited (.alters (.setCurrent n))
  have thrown (stop : Stop) : Truncates limit refusal (throw stop : Procedure Unit) :=
    fun session unlimited fits => .alike unlimited fits
  intro session unlimited fits
  refine Truncates.tryCatch (executeStatement_truncates line) ?_ ?_ ?_ session unlimited fits
  · intro stop
    cases stop with
    | failed failure =>
      exact .bind (reported failure).truncates (fun _ => edit_truncates _) fun _ => back _
    | inputEnded => exact thrown _
    | outOfBounds => exact thrown _
  · intro stop
    cases stop with
    | failed failure =>
      exact carried_writesOn.bind (carried_writesOn.spoken (reported failure)) fun _ => back _
    | inputEnded => exact carried_writesOn.throw _
    | outOfBounds => exact carried_writesOn.throw _
  · intro free stopped cut
    dsimp only
    rw [run_bind, run_report_full cut.full]

theorem promptLine_truncates : Truncates limit refusal promptLine := by
  have prompted : Spoken True writePrompt := writePrompt_spoken
  have ran (line : Text) : Keeps WritesOn (executeLine line) :=
    carried_writesOn.executeLine trivial line.within_all
  have read : Keeps WritesOn runLine :=
    carried_writesOn.bind (carried_writesOn.readLine trivial) ran
  have flushed : Keeps WritesOn flush := carried_writesOn.spoken .flush
  apply Truncates.bind prompted.truncates
  · intro _
    apply Truncates.bind
    · exact .bind readLine_truncates executeLine_truncates ran
    · exact fun _ => flush_truncates
    · exact fun _ => flushed
  · exact fun _ => carried_writesOn.bind read fun _ => flushed

theorem runAll_truncates : Truncates limit refusal runAll := by
  intro session unlimited fits
  change CutAt limit refusal (runFrom session) (runFrom (session.limitTo limit refusal))
  have prompts : Truncates limit refusal promptLine := promptLine_truncates
  fun_induction runFrom session with
  | case1 session running _ after ran ih =>
    have running' : (session.limitTo limit refusal).running = true := running
    have led := prompts session unlimited fits
    rw [runFrom_running running']
    rw [ran] at led
    generalize promptLine.run (session.limitTo limit refusal) = ended' at led ⊢
    cases led with
    | alike unlimited fits => exact ih unlimited fits
    | short cut => exact .short (cut.writesOn (carried_writesOn.runAll (fun _ _ _ _ _ _ => trivial) after))
  | case2 session running stop after ran =>
    have running' : (session.limitTo limit refusal).running = true := running
    have led := prompts session unlimited fits
    rw [runFrom_running running']
    rw [ran] at led
    generalize promptLine.run (session.limitTo limit refusal) = ended' at led ⊢
    cases led with
    | alike unlimited fits => exact .alike unlimited fits
    | short cut => exact .short cut
  | case3 session quit =>
    have quit' : ¬(session.limitTo limit refusal).running = true := quit
    rw [runFrom_quit quit']
    exact .alike unlimited fits

end Procedure

/-- On an output that takes `limit` bytes in all and then refuses every byte, a run does the same as
on one that takes everything if it writes no more than that. Otherwise it ends with the refusal of
the output, and has written the first `limit` of the bytes that it would have written. -/
theorem limited_output_truncates (session : Session) (limit : Nat) (refusal : Refusal) :
    let free := Procedure.runAll.run { session with output := {} }
    let limited := Procedure.runAll.run { session with output := { device := .limited limit refusal } }
    if free.2.output.written.size ≤ limit then
      limited.1 = free.1 ∧ limited.2.output.written = free.2.output.written
        ∧ limited.2.buffer = free.2.buffer ∧ limited.2.filename = free.2.filename
        ∧ limited.2.files = free.2.files
    else
      limited.1 = .error (.failed (.output refusal))
        ∧ limited.2.output.written = free.2.output.written.take limit := by
  intro free limited
  have led : CutAt limit refusal free limited :=
    Procedure.runAll_truncates { session with output := {} } rfl (Nat.zero_le limit)
  generalize free = free at led ⊢
  generalize limited = limited at led ⊢
  cases led with
  | alike unlimited fits =>
    rw [if_pos fits]
    exact ⟨rfl, rfl, rfl, rfl, rfl⟩
  | short cut =>
    rw [if_neg (Nat.not_le.2 cut.exceeds)]
    refine ⟨rfl, ?_⟩
    apply Array.toList_inj.1
    simp [cut.taken]

end LineEditor
