import LineEditor.Regex

/-!
Patterns that spell a word out: plain characters, and escaped ones that would mean something else
without the backslash. They match where the word stands, since a search finds a way through the
program to an accepting instruction, if there is one; that no place is tried at a position twice
does not make it miss any.
-/

namespace LineEditor.Regex.Program

variable {program : Program} {text : Array Char}

/-- From this place and position on there is a way to accept. -/
inductive Accepts (program : Program) (text : Array Char) : Nat → Nat → Prop where
  | here {place position : Nat} : program.instructions[place]? = some .accept →
      Accepts program text place position
  | step {job next : Job} {instruction : Instruction} :
      program.instructions[job.place]? = some instruction → next ∈ step text job instruction →
      Accepts program text next.place next.position → Accepts program text job.place job.position

theorem exists_mem_step {job next : Job} {instruction : Instruction}
    (member : next ∈ step text job instruction) (slots : Slots) :
    ∃ kept, ⟨next.place, next.position, kept⟩ ∈ step text { job with slots } instruction := by
  cases instruction <;> simp only [step] at member ⊢ <;> grind

theorem position_of_mem_step {job next : Job} {instruction : Instruction}
    (inside : job.position ≤ text.size) (member : next ∈ step text job instruction) :
    next.position ≤ text.size := by
  cases instruction <;> simp only [step] at member <;> grind

/-! ### One instruction -/

section
variable {place position next : Nat}

theorem accepts_iff {instruction : Instruction}
    (there : program.instructions[place]? = some instruction) (other : instruction ≠ .accept) :
    Accepts program text place position
      ↔ ∃ job ∈ step text ⟨place, position, #[]⟩ instruction,
          Accepts program text job.place job.position := by
  constructor
  · intro accepts
    cases accepts with
    | here accept => exact absurd (Option.some.inj (there.symm.trans accept)) other
    | step found member accepts =>
      cases found.symm.trans there
      obtain ⟨kept, led⟩ := exists_mem_step member #[]
      exact ⟨_, led, accepts⟩
  · rintro ⟨job, member, accepts⟩
    exact .step there member accepts

theorem accepts_char {c : Char} (there : program.instructions[place]? = some (.char c next)) :
    Accepts program text place position
      ↔ text[position]? = some c ∧ Accepts program text next (position + 1) := by
  rw [accepts_iff there nofun]
  by_cases found : text[position]? = some c <;> simp [step, found]

theorem accepts_save {slot : Nat}
    (there : program.instructions[place]? = some (.save slot next)) :
    Accepts program text place position ↔ Accepts program text next position := by
  rw [accepts_iff there nofun]
  simp [step]

theorem accepts_look {condition : Look}
    (there : program.instructions[place]? = some (.look condition next)) :
    Accepts program text place position
      ↔ condition.holds text position = true ∧ Accepts program text next position := by
  rw [accepts_iff there nofun]
  by_cases holds : condition.holds text position = true <;> simp [step, holds]

end

/-! ### What was tried -/

def WasTried (text : Array Char) (tried : Tried) (place position : Nat) : Prop :=
  tried[place * (text.size + 1) + position]? = some true

theorem cell_inj {place place' position position' : Nat} (inside : position ≤ text.size)
    (inside' : position' ≤ text.size)
    (same : place * (text.size + 1) + position = place' * (text.size + 1) + position') :
    place = place' ∧ position = position' := by
  have div {place position : Nat} (inside : position ≤ text.size) :
      (place * (text.size + 1) + position) / (text.size + 1) = place := by
    rw [Nat.mul_comm, Nat.mul_add_div (Nat.succ_pos _), Nat.div_eq_of_lt (by omega), Nat.add_zero]
  have places : place = place' := by
    calc place = (place * (text.size + 1) + position) / (text.size + 1) := (div inside).symm
      _ = place' := by rw [same, div inside']
  subst places
  exact ⟨rfl, by omega⟩

/-- There is nothing more to do for the place and the position: they were tried, they are a job, or
there is no such place. -/
def Settled (program : Program) (text : Array Char) (tried : Tried) (jobs : List Job)
    (place position : Nat) : Prop :=
  WasTried text tried place position ∨ (∃ slots, ⟨place, position, slots⟩ ∈ jobs)
    ∨ program.instructions[place]? = none

/-- What was tried did not accept, and what it led to was tried too, or is a job. -/
structure Closed (program : Program) (text : Array Char) (tried : Tried) (jobs : List Job) :
    Prop where
  size : tried.size = program.instructions.size * (text.size + 1)
  inside : ∀ job ∈ jobs, job.position ≤ text.size
  leads : ∀ job : Job, job.position ≤ text.size → WasTried text tried job.place job.position →
    ∃ instruction, program.instructions[job.place]? = some instruction ∧ instruction ≠ .accept
      ∧ ∀ next ∈ step text job instruction,
        Settled program text tried jobs next.place next.position

namespace Closed

variable {tried : Tried} {jobs : List Job}

-- All that was tried leads to what was tried, so to no accepting instruction.
theorem not_accepts (closed : Closed program text tried []) {place position : Nat}
    (inside : position ≤ text.size) (settled : Settled program text tried [] place position) :
    ¬Accepts program text place position := by
  intro accepts
  induction accepts with
  | @here place position accept =>
    rcases settled with wasTried | ⟨_, none⟩ | none
    · obtain ⟨instruction, found, other, _⟩ := closed.leads ⟨place, position, #[]⟩ inside wasTried
      exact other (Option.some.inj (found.symm.trans accept))
    · cases none
    · simp [accept] at none
  | @step job next instruction there member _ ih =>
    apply ih (position_of_mem_step inside member)
    rcases settled with wasTried | ⟨_, none⟩ | none
    · obtain ⟨instruction', found, _, leads⟩ := closed.leads job inside wasTried
      cases found.symm.trans there
      exact leads next member
    · cases none
    · simp [there] at none

theorem cell_lt (closed : Closed program text tried jobs) {place position : Nat}
    {instruction : Instruction} (there : program.instructions[place]? = some instruction)
    (inside : position ≤ text.size) : place * (text.size + 1) + position < tried.size := by
  obtain ⟨place_lt, _⟩ := Array.getElem?_eq_some_iff.1 there
  rw [closed.size]
  calc place * (text.size + 1) + position < (place + 1) * (text.size + 1) := by
        rw [Nat.succ_mul]; omega
    _ ≤ program.instructions.size * (text.size + 1) := Nat.mul_le_mul_right _ place_lt

theorem start (closed : Closed program text tried []) (job : Job)
    (inside : job.position ≤ text.size) : Closed program text tried [job] := by
  refine ⟨closed.size, by simpa using inside, ?_⟩
  intro spot inside wasTried
  obtain ⟨instruction, there, other, leads⟩ := closed.leads spot inside wasTried
  refine ⟨instruction, there, other, fun next member => ?_⟩
  rcases leads next member with wasTried | ⟨_, none⟩ | none
  · exact .inl wasTried
  · cases none
  · exact .inr (.inr none)

theorem drop {job : Job} {rest : List Job} (closed : Closed program text tried (job :: rest))
    (settled : Settled program text tried rest job.place job.position) :
    Closed program text tried rest ∧ ∀ place position,
      Settled program text tried (job :: rest) place position →
        Settled program text tried rest place position := by
  have still {place position : Nat}
      (before : Settled program text tried (job :: rest) place position) :
      Settled program text tried rest place position := by
    rcases before with wasTried | ⟨slots, member⟩ | none
    · exact .inl wasTried
    · rcases List.mem_cons.1 member with rfl | later
      · exact settled
      · exact .inr (.inl ⟨slots, later⟩)
    · exact .inr (.inr none)
  refine ⟨⟨closed.size, fun job later => closed.inside job (List.mem_cons_of_mem _ later), ?_⟩,
    fun _ _ => still⟩
  intro job inside wasTried
  obtain ⟨instruction, there, other, leads⟩ := closed.leads job inside wasTried
  exact ⟨instruction, there, other, fun next member => still (leads next member)⟩

-- A job that is tried makes room for those that it leads to.
theorem go {job : Job} {rest : List Job} {instruction : Instruction}
    (closed : Closed program text tried (job :: rest))
    (there : program.instructions[job.place]? = some instruction) (other : instruction ≠ .accept)
    (cell_lt : job.place * (text.size + 1) + job.position < tried.size) :
    let after := tried.set (job.place * (text.size + 1) + job.position) true cell_lt
    Closed program text after (step text job instruction ++ rest) ∧ ∀ place position,
      Settled program text tried (job :: rest) place position →
        Settled program text after (step text job instruction ++ rest) place position := by
  intro after
  have jobInside := closed.inside job List.mem_cons_self
  have here : WasTried text after job.place job.position := by simp [WasTried, after]
  have kept {place position : Nat} (wasTried : WasTried text tried place position) :
      WasTried text after place position := by
    unfold WasTried at wasTried ⊢
    grind
  have still {place position : Nat}
      (before : Settled program text tried (job :: rest) place position) :
      Settled program text after (step text job instruction ++ rest) place position := by
    rcases before with wasTried | ⟨slots, member⟩ | none
    · exact .inl (kept wasTried)
    · rcases List.mem_cons.1 member with rfl | later
      · exact .inl here
      · exact .inr (.inl ⟨slots, List.mem_append_right _ later⟩)
    · exact .inr (.inr none)
  refine ⟨⟨by simp [after, closed.size], ?_, ?_⟩, fun _ _ => still⟩
  · intro next member
    rcases List.mem_append.1 member with new | later
    · exact position_of_mem_step jobInside new
    · exact closed.inside next (List.mem_cons_of_mem _ later)
  · intro spot inside wasTried
    by_cases same : spot.place = job.place ∧ spot.position = job.position
    · refine ⟨instruction, same.1 ▸ there, other, fun next member => ?_⟩
      obtain ⟨kept, led⟩ := exists_mem_step member job.slots
      have spotEq : { spot with slots := job.slots } = job := by
        cases spot; cases job; simp_all
      rw [spotEq] at led
      exact .inr (.inl ⟨kept, List.mem_append_left _ led⟩)
    · have before : WasTried text tried spot.place spot.position := by
        unfold WasTried at wasTried ⊢
        have cells := fun equal => same (cell_inj inside jobInside equal)
        grind
      obtain ⟨instruction, there, other, leads⟩ := closed.leads spot inside before
      exact ⟨instruction, there, other, fun next member => still (leads next member)⟩

theorem explore (closed : Closed program text tried jobs) {after : Tried}
    (failed : program.explore text tried jobs = (none, after)) :
    Closed program text after [] ∧ ∀ place position,
      Settled program text tried jobs place position →
        Settled program text after [] place position := by
  fun_induction Program.explore program text tried jobs with
  | case1 tried =>
    cases failed
    exact ⟨closed, fun _ _ => id⟩
  | case2 tried job rest nowhere ih =>
    obtain ⟨closed, kept⟩ := closed.drop (.inr (.inr nowhere))
    obtain ⟨done, all⟩ := ih closed failed
    exact ⟨done, fun place position settled => all place position (kept place position settled)⟩
  | case3 => cases failed
  | case4 tried job rest instruction other there cell fresh ih =>
    obtain ⟨closed, kept⟩ := closed.go there other fresh.1
    obtain ⟨done, all⟩ := ih closed failed
    exact ⟨done, fun place position settled => all place position (kept place position settled)⟩
  | case5 tried job rest instruction other there cell stale ih =>
    have cell_lt : cell < tried.size := closed.cell_lt there (closed.inside job List.mem_cons_self)
    have wasTried : WasTried text tried job.place job.position := by
      have set : tried[cell] = true := Bool.of_not_eq_false fun fresh => stale ⟨cell_lt, fresh⟩
      simp [WasTried, ← set, cell_lt, cell]
    obtain ⟨closed, kept⟩ := closed.drop (.inl wasTried)
    obtain ⟨done, all⟩ := ih closed failed
    exact ⟨done, fun place position settled => all place position (kept place position settled)⟩

end Closed

/-! ### What is found -/

theorem explore_sound {tried after : Tried} {jobs : List Job} {slots : Slots}
    (found : program.explore text tried jobs = (some slots, after)) :
    ∃ job ∈ jobs, Accepts program text job.place job.position := by
  fun_induction Program.explore program text tried jobs with
  | case1 => cases found
  | case2 tried job rest _ ih =>
    obtain ⟨job, later, accepts⟩ := ih found
    exact ⟨job, List.mem_cons_of_mem _ later, accepts⟩
  | case3 tried job rest accept => exact ⟨job, List.mem_cons_self, .here accept⟩
  | case4 tried job rest instruction _ there _ _ ih =>
    obtain ⟨next, member, accepts⟩ := ih found
    rcases List.mem_append.1 member with new | later
    · exact ⟨job, List.mem_cons_self, .step there new accepts⟩
    · exact ⟨next, List.mem_cons_of_mem _ later, accepts⟩
  | case5 tried job rest _ _ _ _ _ ih =>
    obtain ⟨job, later, accepts⟩ := ih found
    exact ⟨job, List.mem_cons_of_mem _ later, accepts⟩

theorem Closed.searchFrom_isSome_iff {tried : Tried} (closed : Closed program text tried [])
    {start count : Nat} (inside : start + count ≤ text.size + 1) :
    (program.searchFrom text tried start count).isSome = true
      ↔ ∃ position, start ≤ position ∧ position < start + count
        ∧ Accepts program text program.entry position := by
  induction count generalizing tried start with
  | zero => simp [searchFrom]; omega
  | succ count ih =>
    have job := closed.start ⟨program.entry, start, .replicate program.slots none⟩
      (show start ≤ text.size by omega)
    rw [searchFrom]
    split
    · next slots after found =>
      obtain ⟨job, member, accepts⟩ := explore_sound found
      rw [List.mem_singleton] at member
      subst member
      exact ⟨fun _ => ⟨start, Nat.le_refl _, by omega, accepts⟩, fun _ => rfl⟩
    · next after failed =>
      obtain ⟨done, all⟩ := job.explore failed
      have notHere : ¬Accepts program text program.entry start :=
        done.not_accepts (by omega) (all _ _ (.inr (.inl ⟨_, List.mem_cons_self⟩)))
      rw [ih done (by omega)]
      constructor
      · rintro ⟨position, low, high, accepts⟩
        exact ⟨position, by omega, by omega, accepts⟩
      · rintro ⟨position, low, high, accepts⟩
        have other : position ≠ start := by
          rintro rfl
          exact notHere accepts
        exact ⟨position, by omega, by omega, accepts⟩

/-- A search finds a match exactly where from some position on there is a way to accept. -/
theorem search_isSome_iff (program : Program) (text : Array Char) (start : Nat) :
    (program.search text start).isSome = true
      ↔ ∃ position, start ≤ position ∧ position ≤ text.size
        ∧ Accepts program text program.entry position := by
  have closed : Closed program text
      (.replicate (program.instructions.size * (text.size + 1)) false) [] :=
    ⟨by simp, nofun, fun job _ wasTried => by simp [WasTried, Array.getElem?_replicate] at wasTried⟩
  by_cases inside : start ≤ text.size
  · rw [search, closed.searchFrom_isSome_iff (by omega)]
    have range (position : Nat) :
        position < start + (text.size + 1 - start) ↔ position ≤ text.size := by
      omega
    simp only [range]
  · have none : text.size + 1 - start = 0 := by omega
    rw [search, none]
    simp [searchFrom]
    omega

end LineEditor.Regex.Program

namespace LineEditor

/-! ### A word -/

namespace Pattern

/-- The character means itself in patterns of every flavor. -/
def IsPlain (c : Char) : Prop := c ≠ '\\' ∧ isMeta c = false

instance (c : Char) : Decidable (IsPlain c) := inferInstanceAs (Decidable (_ ∧ _))

/-- The pattern that spells the word out, its delimiter escaped where it would mean something. -/
def literal (delimiter : Char) (word : Text) : Text :=
  word.flatMap fun c => if c = delimiter ∧ isMeta delimiter then ['\\', c] else [c]

theorem literal_cons (delimiter c : Char) (word : Text) :
    literal delimiter (c :: word)
      = (if c = delimiter ∧ isMeta delimiter then ['\\', c] else [c]) ++ literal delimiter word :=
  List.flatMap_cons

theorem length_literal (delimiter : Char) (word : Text) :
    (literal delimiter word).length
      = word.length + if isMeta delimiter then word.count delimiter else 0 := by
  induction word with
  | nil => simp [literal]
  | cons c word ih =>
    rw [literal_cons, List.length_append, ih]
    by_cases escaped : c = delimiter <;> cases isMeta delimiter <;> simp [escaped] <;> omega

end Pattern

open Pattern (IsPlain isMeta literal)

/-- The engine finds a word that is spelled out just where it stands, and compiles those words that
fit it. -/
structure Engine.FindsWords (engine : Engine) (fits : Text → Prop) (refusal : String) : Prop where
  finds : ∀ {delimiter : Char} {word : Text}, delimiter ≠ '\\' →
    (∀ c ∈ word, c = delimiter ∨ IsPlain c) → fits word →
      ∃ regex, engine (literal delimiter word) false = .ok regex
        ∧ regex.source = literal delimiter word
        ∧ ∀ text, regex.isMatch text = true ↔ word <:+: text
  refuses : ∀ {delimiter : Char} {word : Text}, delimiter ≠ '\\' →
    (∀ c ∈ word, c = delimiter ∨ IsPlain c) → ¬fits word →
      engine (literal delimiter word) false = .error refusal

namespace Regex

/-! ### Reading -/

namespace Progress

def charPart (c : Char) : Part := { node := .char c }

variable {p : Progress} {c : Char}

theorem charNode_caseful {flags : Flags} (caseful : flags.ignoreCase = false) (c : Char) :
    charNode flags c = .char c := by
  simp [charNode, caseful]

theorem readPart_plain (caseful : p.flags.ignoreCase = false) (plain : IsPlain c) (rest : Text) :
    (p.readPart c).run rest = .ok (p.push (charPart c), rest) := by
  obtain ⟨backslash, notMeta⟩ := plain
  unfold readPart
  split
  all_goals first
    | exact absurd rfl backslash
    | cases notMeta
    | skip
  rw [charNode_caseful caseful]
  rfl

theorem readPart_escaped (caseful : p.flags.ignoreCase = false) (escaped : isMeta c)
    (rest : Text) : (p.readPart '\\').run (c :: rest) = .ok (p.push (charPart c), rest) := by
  have escapable : Escape.isEscapable c = true := by
    simp only [isMeta, List.contains_eq_mem, decide_eq_true_eq, List.mem_cons, List.not_mem_nil,
      or_false] at escaped
    rcases escaped with rfl | rfl | rfl | rfl | rfl | rfl | rfl | rfl | rfl | rfl | rfl | rfl
      | rfl | rfl | rfl | rfl | rfl <;> decide
  have read : (Escape.read p.flags).run (c :: rest) = .ok (.char c false, rest) := by
    simp only [Escape.read, Reader.next, StateT.run_bind, StateT.run_get, StateT.run_set,
      StateT.run_pure, pure_bind, bind_assoc, escapable, if_true]
    rfl
  simp only [readPart, StateT.run_bind, read, charNode_caseful caseful]
  rfl

theorem readRest_nil (terse : p.flags.verbose = false) (fuel : Nat) :
    (p.readRest fuel).run [] = .ok (p, []) := by
  cases fuel with
  | zero => rfl
  | succ fuel =>
    rw [readRest, Reader.skipSpace, if_neg (by simp [terse])]
    rfl

theorem readRest_cons {p' : Progress} {rest rest' : Text} (terse : p.flags.verbose = false)
    (read : (p.readPart c).run rest = .ok (p', rest')) (fuel : Nat) :
    (p.readRest (fuel + 1)).run (c :: rest) = (p'.readRest fuel).run rest' := by
  rw [readRest, Reader.skipSpace, if_neg (by simp [terse])]
  simp only [pure_bind, StateT.run_bind, StateT.run_get, StateT.run_set, read]
  rfl

-- The characters of the word come to stand before the parts that there are, in reverse order.
theorem readRest_literal {delimiter : Char} (notBackslash : delimiter ≠ '\\') {word : Text}
    (spelled : ∀ c ∈ word, c = delimiter ∨ IsPlain c) (caseful : p.flags.ignoreCase = false)
    (terse : p.flags.verbose = false) {fuel : Nat} (enough : word.length ≤ fuel) :
    (p.readRest fuel).run (literal delimiter word)
      = .ok ({ p with level.parts := (word.map charPart).reverse ++ p.level.parts }, []) := by
  induction word generalizing p fuel with
  | nil => exact readRest_nil terse fuel
  | cons c word ih =>
    obtain ⟨fuel, rfl⟩ := Nat.exists_eq_add_of_lt (Nat.lt_of_lt_of_le (Nat.succ_pos _) enough)
    rw [Nat.zero_add]
    have later := fun c member => spelled c (List.mem_cons_of_mem _ member)
    have enough : word.length ≤ fuel := by
      rw [List.length_cons] at enough
      omega
    have rest := @ih (p.push (charPart c)) later caseful terse fuel enough
    have order : (word.map charPart).reverse ++ (p.push (charPart c)).level.parts
        = ((c :: word).map charPart).reverse ++ p.level.parts := by
      simp [push, Level.push]
    rw [order] at rest
    rw [Pattern.literal_cons]
    split
    · next escaped =>
      obtain ⟨rfl, escaped⟩ := escaped
      exact (readRest_cons terse (readPart_escaped caseful escaped _) fuel).trans rest
    · next bare =>
      have plain : IsPlain c := by
        rcases spelled c List.mem_cons_self with rfl | plain
        · exact ⟨notBackslash, by simpa using bare⟩
        · exact plain
      exact (readRest_cons terse (readPart_plain caseful plain _) fuel).trans rest

end Progress

theorem Part.maxHeight_eq_zero {parts : List Part} (flat : ∀ part ∈ parts, part.height = 0) :
    maxHeight parts = 0 := by
  have fold : ∀ heights : List Nat, (∀ height ∈ heights, height = 0) →
      heights.foldl Nat.max 0 = 0 := by
    intro heights zero
    induction heights with
    | nil => rfl
    | cons height heights ih => simp_all
  exact fold _ (by simpa using flat)

def Node.word (word : Text) : Node := .sequence (word.map .char)

theorem Node.size_word (word : Text) :
    (Node.word word).size = if word = [] then 32 else 32 * (Utf8.encode word).length := by
  have some : ∀ word : Text, word ≠ [] →
      (Node.sequence (word.map .char)).size = 32 * (Utf8.encode word).length := by
    intro word some
    induction word with
    | nil => contradiction
    | cons c word ih =>
      cases word with
      | nil => simp [Node.sequence, Node.size, Utf8.encode]
      | cons c' word =>
        have rest := ih (List.cons_ne_nil _ _)
        simp [Node.sequence, Node.size, Utf8.encode] at rest ⊢
        omega
  unfold Node.word
  split
  · subst_vars
    rfl
  · exact some _ ‹_›

theorem Level.part_chars (flags : Flags) (word : Text) :
    let part := Level.part { flags, parts := (word.map Progress.charPart).reverse }
    part.node = .word word ∧ part.height ≤ 1 := by
  have flat : ∀ part ∈ (word.map Progress.charPart).reverse, part.height = 0 := by
    intro part member
    obtain ⟨c, _, rfl⟩ := List.mem_map.1 (List.mem_reverse.1 member)
    rfl
  have height : (Part.sequence (word.map Progress.charPart).reverse).height ≤ 1 := by
    simp only [Part.sequence, Part.maxHeight_eq_zero flat]
    split <;> decide
  constructor
  · simp [Level.part, Part.alternatives, Part.sequence, Node.alternatives, Node.word,
      Progress.charPart, Function.comp_def]
  · simpa [Level.part, Part.alternatives, Part.maxHeight] using height

/-- The word with its group takes no more room than a program may have. -/
def Fits (word : Text) : Prop := 64 + 32 * (Utf8.encode word).length ≤ sizeLimit

instance (word : Text) : Decidable (Fits word) := inferInstanceAs (Decidable (_ ≤ _))

theorem read_eq {pattern : Text} {ignoreCase : Bool} {p : Progress} {rest : Text}
    (ran : (Progress.readRest (pattern.length + 1) { level := { flags := { ignoreCase } } }).run
      pattern = .ok (p, rest))
    (closed : p.outer = []) (low : p.level.part.height ≤ heightLimit) :
    read pattern ignoreCase
      = if sizeLimit < (Node.group 0 p.level.part.node).size then .error .tooLarge
        else .ok (.group 0 p.level.part.node, p.groups) := by
  rw [read, ran]
  change (if p.outer ≠ [] then _ else if heightLimit < p.level.part.height then _
    else if sizeLimit < (Node.group 0 p.level.part.node).size then _ else _) = _
  rw [if_neg (by simp [closed]), if_neg (Nat.not_lt.2 low)]
  split <;> rfl

variable {delimiter : Char} {word : Text}

theorem read_literal (notBackslash : delimiter ≠ '\\')
    (spelled : ∀ c ∈ word, c = delimiter ∨ IsPlain c) :
    read (literal delimiter word) false
      = if Fits word then .ok (.group 0 (.word word), 1) else .error .tooLarge := by
  have enough : word.length ≤ (literal delimiter word).length + 1 :=
    by rw [Pattern.length_literal]; omega
  have parts := Progress.readRest_literal notBackslash spelled
    (p := { level := { flags := { ignoreCase := false } } }) rfl rfl enough
  obtain ⟨node, height⟩ := Level.part_chars {} word
  have low : _ ≤ heightLimit := Nat.le_trans height (by decide)
  have size : sizeLimit < (Node.group 0 (.word word)).size ↔ ¬Fits word := by
    rw [Node.size, Node.size_word, Fits]
    split
    · subst_vars
      decide
    · omega
  rw [read_eq parts rfl (by simpa using low)]
  simp [node, size]

/-! ### The program of a word -/

namespace Program

variable {program : Program}

def Holds (program : Program) (code : Array Instruction) : Prop :=
  code.toList <+: program.instructions.toList

theorem Holds.mono {code later : Array Instruction} (holds : program.Holds later)
    (grown : code.toList <+: later.toList) : program.Holds code :=
  grown.trans holds

theorem Holds.there {code : Array Instruction} {instruction : Instruction}
    (holds : program.Holds (code.push instruction)) :
    program.instructions[code.size]? = some instruction := by
  obtain ⟨rest, whole⟩ := holds
  rw [← Array.getElem?_toList, ← whole]
  simp

theorem run_emitNode_char (c : Char) (next : Nat) (code : Array Instruction) :
    (emitNode (.char c) next).run code = (code.size, code.push (.char c next)) := rfl

theorem run_emitNode_seq (first second : Node) (next : Nat) (code : Array Instruction) :
    (emitNode (.seq first second) next).run code
      = (emitNode first ((emitNode second next).run code).1).run
          ((emitNode second next).run code).2 := rfl

theorem ofNode_group (node : Node) (groups : Nat) :
    ofNode (.group 0 node) groups
      = match (emitNode node 1).run #[.accept, .save 1 0] with
        | (entry, code) =>
          { instructions := code.push (.save 0 entry), entry := code.size, slots := 2 * groups } :=
  rfl

theorem run_emitNode_cons {word : Text} {next entry : Nat} {code later : Array Instruction}
    (ran : (emitNode (.word word) next).run code = (entry, later)) (c : Char) :
    (emitNode (.word (c :: word)) next).run code
      = (later.size, later.push (.char c entry)) := by
  cases word with
  | nil =>
    cases ran
    rfl
  | cons c' word =>
    have split : Node.word (c :: c' :: word) = .seq (.char c) (.word (c' :: word)) := rfl
    simp [split, run_emitNode_seq, run_emitNode_char, ran]

-- The code grows from the end of the word, so each character goes on where the rest was put.
theorem emit_word (word : Text) (next : Nat) (code : Array Instruction) :
    ∃ entry later, (emitNode (.word word) next).run code = (entry, later)
      ∧ code.toList <+: later.toList
      ∧ ∀ {program : Program}, program.Holds later → ∀ (text : Array Char) (position : Nat),
        Accepts program text entry position
          ↔ word <+: text.toList.drop position
            ∧ Accepts program text next (position + word.length) := by
  induction word with
  | nil => exact ⟨next, code, rfl, List.prefix_refl _, fun _ _ _ => by simp⟩
  | cons c word ih =>
    obtain ⟨entry, later, ran, grown, accepts⟩ := ih
    refine ⟨later.size, later.push (.char c entry), run_emitNode_cons ran c, ?_, ?_⟩
    · exact grown.trans (by simp)
    · intro program holds text position
      have length : position + 1 + word.length = position + (c :: word).length := by
        simp
        omega
      have front : text[position]? = some c ∧ word <+: text.toList.drop (position + 1)
          ↔ c :: word <+: text.toList.drop position := by
        rw [← List.drop_drop, ← Array.getElem?_toList, ← List.head?_drop]
        cases text.toList.drop position <;> simp [List.cons_prefix_cons, eq_comm]
      rw [accepts_char holds.there, accepts (holds.mono (by simp)), ← and_assoc, front, length]

theorem accepts_word (word : Text) (groups : Nat) (text : Array Char) (position : Nat) :
    let program := ofNode (.group 0 (.word word)) groups
    Accepts program text program.entry position ↔ word <+: text.toList.drop position := by
  obtain ⟨entry, code, ran, grown, accepts⟩ := emit_word word 1 #[.accept, .save 1 0]
  rw [ofNode_group, ran]
  intro program
  have holds : program.Holds (code.push (.save 0 entry)) := List.prefix_refl _
  have two : program.Holds (#[.accept].push (.save 1 0)) := (holds.mono (by simp)).mono grown
  have one : program.Holds (#[].push .accept) := two.mono (by simp)
  have close : program.instructions[1]? = some (.save 1 0) := two.there
  have accept : program.instructions[0]? = some .accept := one.there
  have entered : program.instructions[program.entry]? = some (.save 0 entry) := holds.there
  rw [accepts_save entered, accepts (holds.mono (by simp)), accepts_save close]
  exact and_iff_left (.here accept)

end Program

theorem isMatch_word (word text source : Text) (groups : Nat) :
    (ofProgram source (.ofNode (.group 0 (.word word)) groups)).isMatch text = true
      ↔ word <:+: text := by
  change ((Program.ofNode (.group 0 (.word word)) groups).search text.toArray 0).isSome = true ↔ _
  rw [Program.search_isSome_iff]
  simp only [Program.accepts_word]
  constructor
  · rintro ⟨position, _, _, front, back⟩
    exact ⟨text.take position, front, by simp [back]⟩
  · rintro ⟨front, back, rfl⟩
    exact ⟨front.length, Nat.zero_le _, by simp, by simp⟩

theorem engine_literal (notBackslash : delimiter ≠ '\\')
    (spelled : ∀ c ∈ word, c = delimiter ∨ IsPlain c) :
    engine (literal delimiter word) false
      = if Fits word then .ok (ofProgram (literal delimiter word) (.ofNode (.group 0 (.word word)) 1))
        else .error Fault.tooLarge.message := by
  rw [engine, compile, read_literal notBackslash spelled]
  by_cases fits : Fits word
  · rw [if_pos fits, if_pos fits]
    rfl
  · rw [if_neg fits, if_neg fits]
    rfl

theorem engine_findsWords : engine.FindsWords Fits Fault.tooLarge.message where
  finds notBackslash spelled fits :=
    ⟨_, (engine_literal notBackslash spelled).trans (if_pos fits), rfl,
      fun text => isMatch_word _ text _ 1⟩
  refuses notBackslash spelled large :=
    (engine_literal notBackslash spelled).trans (if_neg large)

end Regex

end LineEditor
