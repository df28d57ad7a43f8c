import LineEditor.Proofs.Bounds.Session
import LineEditor.Proofs.Equations
import LineEditor.Session.Global
import Mathlib
import Mathlib.Data.List.Nodup

/-!
The loop of a global command as a relation: which lines it visits, in which order, and how it ends.
Lines keep their serial numbers, and a new line is not marked, so it visits lines that were marked
before it began, each of them once at most. It stops after as many positions without a mark as there
are slots. From a position in the buffer these are all the slots; from a position behind the end,
where the body has deleted lines, the position itself is one of them, and the last line is not looked
at any more.
-/

namespace LineEditor

/-- One visit: the position where the loop met the mark, and the serial number of the line there. -/
structure Visit where
  position : Nat
  serial : Nat
  deriving DecidableEq, Repr

/-- The loop is at a position and has passed `idle` positions since the last visit. -/
inductive Replays (body : Command) :
    Nat → Nat → Session → List Visit → Except Stop Unit × Session → Prop where
  | finish {position idle : Nat} {session : Session} (passed : session.buffer.last < idle) :
      Replays body position idle session [] (.ok ⟨⟩, session)
  | skip {position idle : Nat} {session : Session} {visits : List Visit}
      {ended : Except Stop Unit × Session} (going : idle ≤ session.buffer.last)
      (unmarked : position ≠ 0 → session.buffer.marked? position ≠ some true)
      (rest : Replays body (session.buffer.nextLine position) (idle + 1) session visits ended) :
      Replays body position idle session visits ended
  | stop {position idle : Nat} {session after : Session} {line : Line} {stop : Stop}
      (going : idle ≤ session.buffer.last) (positive : 0 < position)
      (found : session.buffer.line? position = some line) (marked : line.marked = true)
      (ran : (Procedure.visit body position).run session = (.error stop, after)) :
      Replays body position idle session [⟨position, line.serial⟩] (.error stop, after)
  | visit {position idle : Nat} {session after : Session} {line : Line} {visits : List Visit}
      {ended : Except Stop Unit × Session} (going : idle ≤ session.buffer.last)
      (positive : 0 < position) (found : session.buffer.line? position = some line)
      (marked : line.marked = true)
      (ran : (Procedure.visit body position).run session = (.ok ⟨⟩, after))
      (rest : Replays body position 0 after visits ended) :
      Replays body position idle session (⟨position, line.serial⟩ :: visits) ended

theorem replayFrom_replays (body : Command) (position idle : Nat) (session : Session) :
    ∃ visits, Replays body position idle session visits
      (Procedure.replayFrom body position idle session) := by
  fun_induction Procedure.replayFrom body position idle session with
  | case1 position idle session passed => exact ⟨[], .finish passed⟩
  | case2 position idle session going marked visited _ ran ih =>
    obtain ⟨line, found, isMarked⟩ := Buffer.marked?_eq_some_iff.1 marked.2
    obtain ⟨visits, rest⟩ := ih
    have positive := Nat.pos_of_ne_zero marked.1
    have completed : visited = (.ok ⟨⟩, visited.2) := Prod.ext ran rfl
    exact ⟨_, .visit (Nat.le_of_not_lt going) positive found isMarked completed rest⟩
  | case3 position idle session going marked visited stop ran =>
    obtain ⟨line, found, isMarked⟩ := Buffer.marked?_eq_some_iff.1 marked.2
    have positive := Nat.pos_of_ne_zero marked.1
    have stopped : visited = (.error stop, visited.2) := Prod.ext ran rfl
    exact ⟨_, .stop (Nat.le_of_not_lt going) positive found isMarked stopped⟩
  | case4 position idle session going unmarked ih =>
    obtain ⟨visits, rest⟩ := ih
    refine ⟨visits, .skip (Nat.le_of_not_lt going) ?_ rest⟩
    intro nonzero marked
    exact unmarked ⟨nonzero, marked⟩

namespace Replays
variable {body : Command} {position idle : Nat} {session : Session} {visits : List Visit}
  {ended : Except Stop Unit × Session}

theorem unique {others : List Visit} {end' : Except Stop Unit × Session}
    (replays : Replays body position idle session visits ended)
    (again : Replays body position idle session others end') : visits = others ∧ ended = end' := by
  induction replays generalizing others end' with
  | finish passed =>
    cases again with
    | finish => exact ⟨rfl, rfl⟩
    | skip going | stop going | visit going => exact absurd passed (Nat.not_lt.2 going)
  | skip going unmarked _ ih =>
    cases again with
    | finish passed => exact absurd passed (Nat.not_lt.2 going)
    | skip _ _ rest => exact ih rest
    | stop _ positive found marked | visit _ positive found marked =>
      have isMarked := Buffer.marked?_eq_some_iff.2 ⟨_, found, marked⟩
      exact absurd isMarked (unmarked (Nat.ne_of_gt positive))
  | stop going positive found marked ran =>
    cases again with
    | finish passed => exact absurd passed (Nat.not_lt.2 going)
    | skip _ unmarked =>
      have isMarked := Buffer.marked?_eq_some_iff.2 ⟨_, found, marked⟩
      exact absurd isMarked (unmarked (Nat.ne_of_gt positive))
    | stop _ _ found' _ ran' =>
      cases found.symm.trans found'
      cases ran.symm.trans ran'
      exact ⟨rfl, rfl⟩
    | visit _ _ _ _ ran' => cases ran.symm.trans ran'
  | visit going positive found marked ran _ ih =>
    cases again with
    | finish passed => exact absurd passed (Nat.not_lt.2 going)
    | skip _ unmarked =>
      have isMarked := Buffer.marked?_eq_some_iff.2 ⟨_, found, marked⟩
      exact absurd isMarked (unmarked (Nat.ne_of_gt positive))
    | stop _ _ _ _ ran' => cases ran.symm.trans ran'
    | visit _ _ found' _ ran' rest =>
      cases found.symm.trans found'
      cases ran.symm.trans ran'
      obtain ⟨same, ends⟩ := ih rest
      exact ⟨congrArg _ same, ends⟩

end Replays

/-! ### Which line is which -/

theorem Buffer.mem_of_line? {b : Buffer} {n : Nat} {line : Line} (found : b.line? n = some line) :
    line ∈ b.slots.toList :=
  (Array.mem_of_getElem? found).val

theorem Buffer.Distinct.eq_of_serial {b : Buffer} (distinct : b.Distinct) {line other : Line}
    (here : line ∈ b.slots.toList) (there : other ∈ b.slots.toList)
    (same : line.serial = other.serial) : line = other :=
  List.inj_on_of_nodup_map distinct.nodup here there same

theorem Buffer.Distinct.of_serials {before after : Buffer} (distinct : before.Distinct)
    (serials : after.slots.toList.map (·.serial) = before.slots.toList.map (·.serial))
    (issued : after.issued = before.issued) : after.Distinct where
  nodup := serials ▸ distinct.nodup
  serial_le line member := by
    have given : line.serial ∈ before.slots.toList.map (·.serial) :=
      serials ▸ List.mem_map_of_mem member
    obtain ⟨old, there, same⟩ := List.mem_map.1 given
    rw [issued, ← same]
    exact distinct.serial_le old there

theorem Buffer.empty_distinct : Buffer.empty.Distinct where
  nodup := by decide
  serial_le := by decide

theorem Buffer.Distinct.setMark {b : Buffer} (distinct : b.Distinct) (n : Nat) (marked : Bool) :
    (Buffer.leftBy (b.setMark n marked)).Distinct := by
  by_cases inside : n < b.slots.size
  · obtain ⟨front, back, after, ran, -, before, later, issued, -⟩ :=
      Buffer.setMark_eq (Array.getElem?_eq_getElem inside) marked
    rw [ran]
    change after.Distinct
    refine distinct.of_serials ?_ issued
    rw [later, before, List.map_append, List.map_append]
    rfl
  · rwa [Buffer.setMark, Buffer.modifyLine, if_neg inside]

theorem Buffer.Distinct.markLines {b : Buffer} (distinct : b.Distinct) (regex : Regex)
    (range : Range) (invert : Bool) : (b.markLines regex range invert).Distinct := by
  refine distinct.of_serials ?_ rfl
  apply List.ext_getElem
  · simp [Buffer.markLines]
  · intro n here there
    simp only [Buffer.markLines, Array.toList_mapIdx, List.getElem_map, List.getElem_mapIdx]
    split <;> rfl

/-! ### A visit -/

/-- What a visit to a line makes of the buffer: the line loses its mark, no other line gains one,
and of the lines that were there before none changes. -/
structure Unmarks (line : Line) (before after : Buffer) : Prop where
  issued_le : before.issued ≤ after.issued
  distinct : after.Distinct
  markCount_lt : after.markCount < before.markCount
  marked_mem : ∀ other ∈ after.slots.toList, other.marked = true →
    other ∈ before.slots.toList ∧ other.serial ≠ line.serial
  old_mem : ∀ other ∈ after.slots.toList, other.serial ≤ before.issued →
    other.serial = line.serial ∨ other ∈ before.slots.toList

theorem Unmarks.still_there {current line kept : Line} {before after : Buffer}
    (unmarks : Unmarks current before after) (distinct : before.Distinct)
    (member : line ∈ before.slots.toList) (other : line.serial ≠ current.serial)
    (there : kept ∈ after.slots.toList) (same : kept.serial = line.serial) : kept = line := by
  have given : kept.serial ≤ before.issued := same ▸ distinct.serial_le line member
  rcases unmarks.old_mem kept there given with visited | old
  · exact absurd (same.symm.trans visited) other
  · exact distinct.eq_of_serial old member same

theorem visit_unmarks {body : Command} {position : Nat} {session after : Session} {line : Line}
    {outcome : Except Stop Unit} (distinct : session.buffer.Distinct)
    (found : session.buffer.line? position = some line) (marked : line.marked = true)
    (ran : (Procedure.visit body position).run session = (outcome, after)) :
    Unmarks line session.buffer after.buffer := by
  have isMarked : session.buffer.marked? position = some true :=
    Buffer.marked?_eq_some_iff.2 ⟨line, found, marked⟩
  obtain ⟨front, back, b, unmarking, -, before, later, issued, -⟩ := Buffer.setMark_eq found false
  have serials : b.slots.toList.map (·.serial) = session.buffer.slots.toList.map (·.serial) := by
    rw [before, later, List.map_append, List.map_append]
    rfl
  have distinct' : b.Distinct := distinct.of_serials serials issued
  have descends : b.Descends after.buffer := by
    have led := Procedure.visit_descends body unmarking
    rwa [ran] at led
  have unmarked : { line with marked := false } ∈ b.slots.toList := by
    rw [later]
    exact List.mem_append_right front List.mem_cons_self
  -- Every line but the one that is visited stood in the buffer before.
  have stood : ∀ other ∈ b.slots.toList,
      other = { line with marked := false } ∨ other ∈ session.buffer.slots.toList := by
    intro other member
    rw [later] at member
    rw [before]
    rcases List.mem_append.1 member with inFront | rest
    · exact .inr (List.mem_append_left _ inFront)
    · rcases List.mem_cons.1 rest with same | inBack
      · exact .inl same
      · exact .inr (List.mem_append_right _ (List.mem_cons_of_mem _ inBack))
  constructor
  · exact issued ▸ descends.issued_le
  · exact descends.distinct distinct'
  · have fewer := Procedure.markCount_visit body isMarked
    rwa [ran] at fewer
  · intro other member isMarked
    have kept := descends.mem member (.inl isMarked)
    have different : other ≠ { line with marked := false } := by
      intro same
      rw [same] at isMarked
      cases isMarked
    refine ⟨(stood other kept).resolve_left different, fun same => different ?_⟩
    exact distinct'.eq_of_serial kept unmarked same
  · intro other member old
    rcases stood other (descends.mem member (.inr (issued ▸ old))) with same | there
    · exact .inl (by rw [same])
    · exact .inr there

/-! ### One visit after the other -/

/-- Visits to lines of these numbers make the one buffer into the other. -/
inductive UnmarksAll : List Nat → Buffer → Buffer → Prop where
  | nil (b : Buffer) : UnmarksAll [] b b
  | cons {line : Line} {serials : List Nat} {before between after : Buffer}
      (there : line ∈ before.slots.toList) (marked : line.marked = true)
      (unmarks : Unmarks line before between) (rest : UnmarksAll serials between after) :
      UnmarksAll (line.serial :: serials) before after

namespace UnmarksAll
variable {serials : List Nat} {before after : Buffer}

theorem exists_marked (visits : UnmarksAll serials before after) :
    ∀ serial ∈ serials, ∃ line ∈ before.slots.toList,
      line.marked = true ∧ line.serial = serial := by
  induction visits with
  | nil => exact fun _ member => absurd member List.not_mem_nil
  | cons there marked unmarks _ ih =>
    intro serial member
    rcases List.mem_cons.1 member with same | later
    · exact ⟨_, there, marked, same.symm⟩
    · obtain ⟨line, between, isMarked, same⟩ := ih serial later
      exact ⟨line, (unmarks.marked_mem line between isMarked).1, isMarked, same⟩

-- No two visits are for the same line: the line of the first has lost its mark by the next one.
theorem nodup (visits : UnmarksAll serials before after) : serials.Nodup := by
  induction visits with
  | nil => exact List.nodup_nil
  | cons _ _ unmarks rest ih =>
    apply List.nodup_cons.2
    constructor
    · intro again
      obtain ⟨line, between, isMarked, same⟩ := rest.exists_marked _ again
      exact (unmarks.marked_mem line between isMarked).2 same
    · exact ih

theorem length_le (visits : UnmarksAll serials before after) :
    serials.length ≤ before.markCount := by
  induction visits with
  | nil => exact Nat.zero_le _
  | cons _ _ unmarks _ ih => exact Nat.lt_of_le_of_lt ih unmarks.markCount_lt

theorem marked_unvisited (visits : UnmarksAll serials before after) :
    ∀ line ∈ after.slots.toList, line.marked = true →
      line ∈ before.slots.toList ∧ line.serial ∉ serials := by
  induction visits with
  | nil => exact fun line member _ => ⟨member, List.not_mem_nil⟩
  | cons _ _ unmarks _ ih =>
    intro line member isMarked
    obtain ⟨between, unvisited⟩ := ih line member isMarked
    obtain ⟨there, other⟩ := unmarks.marked_mem line between isMarked
    refine ⟨there, fun visited => ?_⟩
    rcases List.mem_cons.1 visited with same | later
    · exact other same
    · exact unvisited later

theorem old_mem (visits : UnmarksAll serials before after) :
    ∀ kept ∈ after.slots.toList, kept.serial ≤ before.issued →
      ∃ old ∈ before.slots.toList, old.serial = kept.serial := by
  induction visits with
  | nil => exact fun kept member _ => ⟨kept, member, rfl⟩
  | cons there _ unmarks _ ih =>
    intro kept member given
    obtain ⟨old, between, same⟩ := ih kept member (Nat.le_trans given unmarks.issued_le)
    rcases unmarks.old_mem old between (same ▸ given) with visited | stood
    · exact ⟨_, there, visited.symm.trans same⟩
    · exact ⟨old, stood, same⟩

-- A marked line is visited, or is gone in the end, or is still there with its mark.
theorem visited_or_left (visits : UnmarksAll serials before after) (distinct : before.Distinct) :
    ∀ line ∈ before.slots.toList, line.marked = true →
      line.serial ∈ serials ∨ (∀ kept ∈ after.slots.toList, kept.serial ≠ line.serial)
        ∨ line ∈ after.slots.toList := by
  induction visits with
  | nil => exact fun line member _ => .inr (.inr member)
  | @cons current _ _ between _ _ _ unmarks rest ih =>
    intro line member isMarked
    by_cases visited : line.serial = current.serial
    · exact .inl (List.mem_cons.2 (.inl visited))
    · by_cases there : line ∈ between.slots.toList
      · rcases ih unmarks.distinct line there isMarked with later | gone | left
        · exact .inl (List.mem_cons_of_mem _ later)
        · exact .inr (.inl gone)
        · exact .inr (.inr left)
      · -- The visit took the line out; no line of the same number comes back.
        refine .inr (.inl fun kept final same => there ?_)
        have given : kept.serial ≤ between.issued :=
          same ▸ Nat.le_trans (distinct.serial_le line member) unmarks.issued_le
        obtain ⟨old, stands, number⟩ := rest.old_mem kept final given
        exact unmarks.still_there distinct member visited stands (number.trans same) ▸ stands

end UnmarksAll

theorem Replays.unmarksAll {body : Command} {position idle : Nat} {session : Session}
    {visits : List Visit} {ended : Except Stop Unit × Session}
    (replays : Replays body position idle session visits ended)
    (distinct : session.buffer.Distinct) :
    UnmarksAll (visits.map (·.serial)) session.buffer ended.2.buffer := by
  induction replays with
  | finish => exact .nil _
  | skip _ _ _ ih => exact ih distinct
  | stop _ _ found marked ran =>
    have unmarks := visit_unmarks distinct found marked ran
    exact .cons (Buffer.mem_of_line? found) marked unmarks (.nil _)
  | visit _ _ found marked ran _ ih =>
    have unmarks := visit_unmarks distinct found marked ran
    exact .cons (Buffer.mem_of_line? found) marked unmarks (ih unmarks.distinct)

/-! ### Sessions -/

def KeepsDistinct (before after : Session) : Prop := before.buffer.Distinct → after.buffer.Distinct

theorem Edit.Basic.distinct {α : Type} {operation : Edit α} (basic : operation.Basic .all)
    {editor : Editor} (distinct : editor.buffer.Distinct) :
    (operation.run editor).2.buffer.Distinct := by
  have descended (basic : operation.Basic (.command false)) :
      (operation.run editor).2.buffer.Distinct := (basic.descends editor).distinct distinct
  cases basic with
  | asks asks => exact descended (.asks asks)
  | substitute _ positive underGlobal => exact descended (.substitute trivial positive underGlobal)
  | alters alters =>
    cases alters with
    | minus n m => exact descended (.alters (.minus n m))
    | setCurrent n => exact descended (.alters (.setCurrent n))
    | delete positive final => exact descended (.alters (.delete positive final))
    | move positive final target => exact descended (.alters (.move positive final target))
    | insert line => exact descended (.alters (.insert line))
    | clear => exact descended (.alters .clear)
    | mark _ regex range invert => exact distinct.markLines regex range invert
    | unmark _ n =>
      have unmarked := distinct.setMark n false
      simp only [change, run_bind, run_get]
      cases ran : editor.buffer.setMark n false <;> rw [ran] at unmarked <;> exact unmarked

theorem carried_keepsDistinct : Procedure.Carried .all KeepsDistinct where
  refl _ := id
  trans first second := second ∘ first
  noted noted distinct := by
    rw [Session.buffer, noted.editor]
    exact distinct
  edited := by
    intro α operation basic session distinct
    have kept := basic.distinct distinct
    rw [Procedure.run_edit]
    rcases ran : operation.run session.editor with ⟨_ | a, editor⟩ <;> rw [ran] at kept <;> exact kept

theorem Reachable.distinct {session : Session} (reached : Reachable session) :
    session.buffer.Distinct := by
  induction reached with
  | start engine options input output files => exact Buffer.empty_distinct
  | step reached step ih => exact carried_keepsDistinct.anyStep step _ ih
  | around reached input output files ih => exact ih

/-! ### Each line once -/

/-! ### The input and the end of the session -/

def Session.Quiet (before after : Session) : Prop :=
  after.input = before.input ∧ after.running = before.running

def Powers.global : Powers := ⟨fun _ => True, False, True, True, True, True⟩

theorem Action.within_global (action : Action) : (action.powers true).Within .global where
  substitutes _ := trivial
  converses := nofun
  loads _ := trivial
  names _ := trivial
  marks := False.elim
  reports := False.elim

theorem carried_quiet : Procedure.Carried .global Session.Quiet where
  refl _ := ⟨rfl, rfl⟩
  trans first second := ⟨second.1.trans first.1, second.2.trans first.2⟩
  noted noted := by
    cases noted with
    | quit asked | input asked => exact asked.elim
    | _ => exact ⟨rfl, rfl⟩
  edited := by
    intro α operation _ session
    rw [Procedure.run_edit]
    split <;> exact ⟨rfl, rfl⟩

/-! ### Counting marks -/

-- Slot 0 is not marked, so a marked slot is a line.
theorem Buffer.Sound.mem_lines {b : Buffer} (sound : b.Sound) {line : Line}
    (member : line ∈ b.slots.toList) (marked : line.marked = true) : line ∈ b.lines := by
  rw [sound.slots_eq] at member
  rcases List.mem_cons.1 member with zero | listed
  · rw [zero] at marked
    cases marked
  · exact listed

theorem Buffer.marks_eq (b : Buffer) :
    b.lines.map (·.marked)
      = (List.range' 1 b.last).map fun n => decide (b.marked? n = some true) := by
  apply List.ext_getElem
  · rw [List.length_map, List.length_map, List.length_range', b.length_lines]
  · intro n here there
    have inside : n < b.lines.length := by rwa [List.length_map] at here
    have found : b.line? (1 + n) = some b.lines[n] := by
      rw [Nat.add_comm, b.line?_succ, List.getElem?_eq_getElem inside]
    simp [marked?, found]

theorem Buffer.Sound.length_markedNumbers {b : Buffer} (sound : b.Sound) :
    b.markedNumbers.length = b.markCount := by
  have count := congrArg (List.countP id) b.marks_eq
  rw [List.countP_map, List.countP_map] at count
  rw [markedNumbers, ← List.countP_eq_length_filter, markCount, sound.slots_eq,
    List.countP_cons_of_neg (by decide)]
  exact count.symm

/-! ### Visits -/

/-- Whatever its body does, a global command comes to an end, takes no input and leaves the session
running. Its visits are to lines that were marked before the loop began, to each at most once. -/
theorem global_visits_once {session : Session} (reached : Reachable session) (global : Global) :
    session.Quiet ((Procedure.executeGlobal global).run session).2
      ∧ ∀ first start, (Procedure.markGlobal global).run session = (.ok first, start) →
        start.buffer.Distinct
          ∧ ∃ visits, Replays global.body first 0 start visits
              ((Procedure.executeGlobal global).run session)
            ∧ visits.length ≤ start.buffer.markedNumbers.length
            ∧ (visits.map (·.serial)).Nodup
            ∧ ∀ visit ∈ visits, visit.serial ≤ start.buffer.issued
              ∧ ∃ line ∈ start.buffer.lines, line.marked = true ∧ line.serial = visit.serial := by
  constructor
  · exact carried_quiet.executeGlobal trivial global.body.action.within_global session
  intro first start marked
  have sound := Procedure.markGlobal_sound reached.sound marked
  have distinct : start.buffer.Distinct := by
    have kept := carried_keepsDistinct.markGlobal trivial global session reached.distinct
    rwa [marked] at kept
  refine ⟨distinct, ?_⟩
  rw [Procedure.run_executeGlobal_marked marked]
  obtain ⟨visits, replays⟩ := replayFrom_replays global.body first 0 start
  have unmarked := replays.unmarksAll distinct
  refine ⟨visits, replays, ?_, unmarked.nodup, ?_⟩
  · rw [sound.length_markedNumbers, ← List.length_map (·.serial)]
    exact unmarked.length_le
  · intro visit member
    obtain ⟨line, there, isMarked, same⟩ :=
      unmarked.exists_marked visit.serial (List.mem_map_of_mem member)
    have given : visit.serial ≤ start.buffer.issued := same ▸ distinct.serial_le line there
    exact ⟨given, line, sound.mem_lines there isMarked, isMarked, same⟩

/-- `g/y/m0` -/
def toFront : Global :=
  { pattern := ['y'], delimiter := '/', body := { action := .move { term := .line 0 } } }

theorem toFront_visits_once :
    ∃ start visits, (Procedure.markGlobal toFront).run (.typed [120, 10, 121, 10, 46, 10])
        = (.ok 1, start)
      ∧ Replays toFront.body 1 0 start visits
          ((Procedure.executeGlobal toFront).run (.typed [120, 10, 121, 10, 46, 10]))
      ∧ visits.length ≤ 1 := by
  have marked : (Procedure.markGlobal toFront).run (.typed [120, 10, 121, 10, 46, 10])
      = (.ok 1, ((Procedure.markGlobal toFront).run (.typed [120, 10, 121, 10, 46, 10])).2) :=
    Prod.ext (by cbv) rfl
  obtain ⟨_, visited⟩ := global_visits_once (typed_reachable [120, 10, 121, 10, 46, 10]) toFront
  obtain ⟨_, visits, replays, few, _⟩ := visited 1 _ marked
  refine ⟨_, visits, marked, replays, Nat.le_trans few (Nat.le_of_eq ?_)⟩
  cbv

/-! ### What is missed -/

/-! ### The last round -/

namespace Buffer

/-- How many steps lead from a position to line `n`, forward and around the end. -/
def ahead (b : Buffer) (position n : Nat) : Nat :=
  if position ≤ n then n - position
  else if position ≤ b.last then b.last + 1 - position + n
  else n + 1

theorem ahead_nextLine {b : Buffer} {position n : Nat} (inside : n ≤ b.last)
    (other : n ≠ position) : b.ahead position n = b.ahead (b.nextLine position) n + 1 := by
  unfold ahead nextLine
  split_ifs <;> omega

theorem ahead_le {b : Buffer} {position n : Nat} (inside : n ≤ b.last)
    (reached : n < b.last ∨ position ≤ b.last) : b.ahead position n ≤ b.last := by
  unfold ahead
  split_ifs <;> omega

end Buffer

/-- Where the loop was when it made its last visit, or at its start if it made none. -/
def lastPosition (first : Nat) (visits : List Visit) : Nat :=
  (visits.map (·.position)).getLastD first

namespace Replays
variable {body : Command} {position idle : Nat} {session after : Session} {visits : List Visit}
  {ended : Except Stop Unit × Session}

theorem unmarked_of_no_visit (replays : Replays body position idle session visits ended)
    (none : visits = []) (completed : ended = (.ok ⟨⟩, after)) :
    after = session ∧ ∀ n, 0 < n → n ≤ session.buffer.last →
      session.buffer.ahead position n + idle ≤ session.buffer.last →
        session.buffer.marked? n ≠ some true := by
  induction replays with
  | finish passed =>
    cases completed
    exact ⟨rfl, fun n _ _ near => by omega⟩
  | @skip position idle session _ _ going unmarked _ ih =>
    obtain ⟨same, others⟩ := ih none completed
    refine ⟨same, fun n positive inside near => ?_⟩
    by_cases here : n = position
    · rw [here]
      exact unmarked (here ▸ Nat.ne_of_gt positive)
    · rw [Buffer.ahead_nextLine inside here] at near
      exact others n positive inside (by omega)
  | stop => cases completed
  | visit => cases none

theorem unmarked_after_visits (replays : Replays body position idle session visits ended)
    (some : visits ≠ []) (completed : ended = (.ok ⟨⟩, after)) :
    ∀ n, 0 < n → n ≤ after.buffer.last →
      after.buffer.ahead (lastPosition position visits) n ≤ after.buffer.last →
        after.buffer.marked? n ≠ .some true := by
  induction replays with
  | finish => exact absurd rfl some
  | @skip position idle session visits _ _ _ _ ih =>
    have same : lastPosition position visits
        = lastPosition (session.buffer.nextLine position) visits := by
      cases visits with
      | nil => exact absurd rfl some
      | cons visit rest => rfl
    rw [same]
    exact ih some completed
  | stop => cases completed
  | @visit position _ _ _ line visits _ _ _ _ _ _ rest ih =>
    -- From the last visit on, the session stays as it is.
    have same : lastPosition position (⟨position, line.serial⟩ :: visits)
        = lastPosition position visits := List.getLastD_cons ..
    rw [same]
    by_cases none : visits = []
    · obtain ⟨stayed, unmarked⟩ := rest.unmarked_of_no_visit none completed
      rw [stayed, none]
      exact unmarked
    · exact ih none completed

-- In the end no line is marked but the last one, and that one only if the loop stands behind it.
theorem marked_behind (replays : Replays body position 0 session visits ended)
    (completed : ended = (.ok ⟨⟩, after)) {n : Nat} (positive : 0 < n)
    (inside : n ≤ after.buffer.last) (marked : after.buffer.marked? n = some true) :
    n = after.buffer.last ∧ after.buffer.last < lastPosition position visits := by
  -- The last round has looked at each line that lies near enough ahead of the last visit.
  have far : ¬ after.buffer.ahead (lastPosition position visits) n ≤ after.buffer.last := by
    intro near
    by_cases none : visits = []
    · obtain ⟨stayed, unmarked⟩ := replays.unmarked_of_no_visit none completed
      rw [stayed] at inside near marked
      rw [none] at near
      exact unmarked n positive inside near marked
    · exact replays.unmarked_after_visits none completed n positive inside near marked
  constructor
  · by_contra other
    exact far (Buffer.ahead_le inside (.inl (by omega)))
  · by_contra inBuffer
    exact far (Buffer.ahead_le inside (.inr (Nat.le_of_not_lt inBuffer)))

end Replays

/-! ### What a completed global command has visited -/

/-- Each marked line of one buffer that is still in the other one, with or without its mark, was
visited. -/
def AllVisited (start after : Buffer) (visits : List Visit) : Prop :=
  ∀ line ∈ start.lines, line.marked = true → (∃ kept ∈ after.lines, kept.serial = line.serial) →
    ∃ visit ∈ visits, visit.serial = line.serial

/-- The loop has made its last visit behind the end of the buffer, and the last line is marked. -/
def LastMissed (after : Buffer) (position : Nat) : Prop :=
  after.last < position ∧ after.marked? after.last = some true

theorem Buffer.mem_markedNumbers {b : Buffer} {n : Nat} :
    n ∈ b.markedNumbers ↔ 0 < n ∧ n ≤ b.last ∧ b.marked? n = some true := by
  rw [markedNumbers, List.mem_filter, List.mem_range'_1, decide_eq_true_iff]
  constructor
  · rintro ⟨⟨positive, inside⟩, marked⟩
    exact ⟨positive, by omega, marked⟩
  · rintro ⟨positive, inside, marked⟩
    exact ⟨⟨positive, by omega⟩, marked⟩

theorem Buffer.Sound.marked_pos {b : Buffer} (sound : b.Sound) {n : Nat}
    (marked : b.marked? n = some true) : 0 < n := by
  rcases Nat.eq_zero_or_pos n with zero | positive
  · rw [zero, marked?, sound.slot_zero] at marked
    cases marked
  · exact positive

section Missed
variable {start after : Buffer} {visits : List Visit} {position : Nat}

/-- Only the last line can have a mark, and only where the loop ended behind it. -/
def MarkedBehind (after : Buffer) (position : Nat) : Prop :=
  ∀ n, after.marked? n = some true → n = after.last ∧ after.last < position

theorem MarkedBehind.missed (behind : MarkedBehind after position) {n : Nat}
    (marked : after.marked? n = some true) : LastMissed after position := by
  obtain ⟨last, past⟩ := behind n marked
  exact ⟨past, last ▸ marked⟩

theorem MarkedBehind.allVisited_iff (behind : MarkedBehind after position)
    (start_sound : start.Sound) (sound : after.Sound) (distinct : start.Distinct)
    (unmarked : UnmarksAll (visits.map (·.serial)) start after) :
    AllVisited start after visits ↔ ¬LastMissed after position := by
  constructor
  · -- The missed line has its mark, so it was marked at first, and no visit was for it.
    intro visited missed
    obtain ⟨line, found, isMarked⟩ := Buffer.marked?_eq_some_iff.1 missed.2
    have there := Buffer.mem_of_line? found
    obtain ⟨before, unvisited⟩ := unmarked.marked_unvisited line there isMarked
    obtain ⟨visit, member, same⟩ := visited line (start_sound.mem_lines before isMarked) isMarked
      ⟨line, sound.mem_lines there isMarked, rfl⟩
    exact unvisited (List.mem_map.2 ⟨visit, member, same⟩)
  · -- A line that was not visited either went, or has its mark: then it is the one missed.
    intro notMissed line member isMarked remains
    obtain ⟨kept, there, same⟩ := remains
    have slot := List.mem_of_mem_tail member
    rcases unmarked.visited_or_left distinct line slot isMarked with visited | gone | left
    · obtain ⟨visit, member, same⟩ := List.mem_map.1 visited
      exact ⟨visit, member, same⟩
    · exact absurd same (gone kept (List.mem_of_mem_tail there))
    · obtain ⟨n, inside, found⟩ := List.getElem_of_mem left
      have marked : after.marked? n = some true := by
        rw [Buffer.marked?, Buffer.line?, ← Array.getElem?_toList,
          List.getElem?_eq_getElem inside, found, Option.map_some, isMarked]
      exact absurd (behind.missed marked) notMissed

theorem MarkedBehind.markedNumbers_eq_nil_iff (behind : MarkedBehind after position)
    (sound : after.Sound) : after.markedNumbers = [] ↔ ¬LastMissed after position := by
  constructor
  · intro unmarked missed
    have member := Buffer.mem_markedNumbers.2
      ⟨sound.marked_pos missed.2, Nat.le_refl _, missed.2⟩
    rw [unmarked] at member
    cases member
  · intro notMissed
    apply List.eq_nil_iff_forall_not_mem.2
    intro n member
    exact notMissed (behind.missed (Buffer.mem_markedNumbers.1 member).2.2)

end Missed

/-- Where a global command completes, each marked line that is still there was visited, and no mark
is left, unless the loop ended behind the last line and that line was marked. Then the last line
alone was missed. -/
theorem global_misses_last_only {session after : Session} (reached : Reachable session)
    (global : Global) (ran : (Procedure.executeGlobal global).run session = (.ok ⟨⟩, after)) :
    ∃ first start visits, (Procedure.markGlobal global).run session = (.ok first, start)
      ∧ Replays global.body first 0 start visits (.ok ⟨⟩, after)
      ∧ (AllVisited start.buffer after.buffer visits
          ↔ ¬LastMissed after.buffer (lastPosition first visits))
      ∧ (after.buffer.markedNumbers = [] ↔ ¬LastMissed after.buffer (lastPosition first visits))
      ∧ ∀ n ∈ after.buffer.markedNumbers, n = after.buffer.last := by
  have sound : after.buffer.Sound := by
    have safe := (Procedure.executeGlobal_safe reached.sound global).sound
    rwa [ran] at safe
  rcases marking : (Procedure.markGlobal global).run session with ⟨stop | first, start⟩
  · rw [Procedure.executeGlobal, run_bind, marking] at ran
    cases ran
  have start_sound := Procedure.markGlobal_sound reached.sound marking
  have distinct : start.buffer.Distinct := by
    have kept := carried_keepsDistinct.markGlobal trivial global session reached.distinct
    rwa [marking] at kept
  rw [Procedure.run_executeGlobal_marked marking] at ran
  obtain ⟨visits, replays⟩ := replayFrom_replays global.body first 0 start
  rw [ran] at replays
  have unmarked := replays.unmarksAll distinct
  have behind : MarkedBehind after.buffer (lastPosition first visits) := fun n marked =>
    replays.marked_behind rfl (sound.marked_pos marked) (Procedure.marked_le marked) marked
  refine ⟨first, start, visits, rfl, replays, ?_, ?_, ?_⟩
  · exact behind.allVisited_iff start_sound sound distinct unmarked
  · exact behind.markedNumbers_eq_nil_iff sound
  · intro n member
    exact (behind n (Buffer.mem_markedNumbers.1 member).2.2).1

/-! ### A body that deletes lines before the one it is for -/

/-- `g/[xy]/1,.-1d` -/
def deletingBefore : Global :=
  { pattern := ['[', 'x', 'y', ']'], delimiter := '/',
    body :=
      { addresses := [(⟨.line 1, 0⟩, .comma), (⟨.current, -1⟩, .nothing)], action := .delete } }

def fiveTyped : Session :=
  .typed [97, 10, 98, 10, 99, 10, 120, 10, 121, 10, 46, 10]

set_option maxRecDepth 100000 in
/-- The visit to line x makes line y the last of two, while the loop is at line 4. The command
completes, and line y keeps its mark. -/
theorem deletingBefore_misses_last :
    Reachable fiveTyped
      ∧ Statement.parse "g/[xy]/1,.-1d".toList = .ok (.global deletingBefore)
      ∧ ((Procedure.executeGlobal deletingBefore).run fiveTyped).1 = .ok ⟨⟩
      ∧ ((Procedure.executeGlobal deletingBefore).run fiveTyped).2.buffer.markedNumbers = [2] := by
  refine ⟨typed_reachable _, ?_, ?_, ?_⟩ <;> cbv

set_option maxRecDepth 100000 in
theorem deletingBefore_not_allVisited :
    ∃ first start visits after, Reachable fiveTyped
      ∧ (Procedure.markGlobal deletingBefore).run fiveTyped = (.ok first, start)
      ∧ Replays deletingBefore.body first 0 start visits (.ok ⟨⟩, after)
      ∧ ¬AllVisited start.buffer after.buffer visits := by
  have completed : (Procedure.executeGlobal deletingBefore).run fiveTyped
      = (.ok ⟨⟩, ((Procedure.executeGlobal deletingBefore).run fiveTyped).2) :=
    Prod.ext (by cbv) rfl
  have reached : Reachable fiveTyped := typed_reachable _
  obtain ⟨first, start, visits, marking, replays, all, none, _⟩ :=
    global_misses_last_only reached deletingBefore completed
  have left :
      ((Procedure.executeGlobal deletingBefore).run fiveTyped).2.buffer.markedNumbers = [2] := by
    cbv
  refine ⟨first, start, visits, _, reached, marking, replays, fun visited => ?_⟩
  rw [none.2 (all.1 visited)] at left
  cases left

end LineEditor
