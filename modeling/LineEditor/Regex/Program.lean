import LineEditor.Unicode.CharSet
import LineEditor.Unicode.Property

/-!
Regular expressions as trees and as programs. A program looks for the first place where it matches,
and there for the match that its alternatives prefer.
-/

namespace LineEditor.Regex

/-- Where a position stands to a word. Half an edge looks at one side only. -/
inductive WordEdge where
  | either
  | neither
  | start
  | finish
  | startHalf
  | finishHalf
  deriving DecidableEq, Repr, Inhabited

inductive Look where
  | textStart
  | textEnd
  | lineStart
  | lineEnd
  -- Lines that end in a carriage return, a newline or both in that order.
  | carriageLineStart
  | carriageLineEnd
  | word (edge : WordEdge) (asciiOnly : Bool)
  deriving DecidableEq, Repr, Inhabited

def asciiWord : CharSet := .ofTable "30-39 41-5A 5F 61-7A"

def isWordCharacter (asciiOnly : Bool) (c : Char) : Bool :=
  if asciiOnly || c.toNat ≤ 0x7F then asciiWord.contains c
  else Unicode.wordCharacters.contains c

def WordEdge.holds (edge : WordEdge) (before after : Bool) : Bool :=
  match edge with
  | .either => before != after
  | .neither => before == after
  | .start => !before && after
  | .finish => before && !after
  | .startHalf => !before
  | .finishHalf => !after

def before? (text : Array Char) (position : Nat) : Option Char :=
  if position = 0 then none else text[position - 1]?

def Look.holds (look : Look) (text : Array Char) (position : Nat) : Bool :=
  let before := before? text position
  let after := text[position]?
  match look with
  | textStart => before.isNone
  | textEnd => after.isNone
  | lineStart => before.all (· = '\n')
  | lineEnd => after.all (· = '\n')
  | carriageLineStart => before.all fun c => c = '\n' || (c = '\r' && after ≠ some '\n')
  | carriageLineEnd => after.all fun c => c = '\r' || (c = '\n' && before ≠ some '\r')
  | word edge asciiOnly =>
    edge.holds (before.any (isWordCharacter asciiOnly)) (after.any (isWordCharacter asciiOnly))

/-! ### Trees -/

inductive Node where
  | empty
  | char (c : Char)
  | oneOf (s : CharSet)
  | look (condition : Look)
  | group (index : Nat) (inner : Node)
  | seq (first second : Node)
  | alt (first second : Node)
  -- At least `min` times, and at most `max` times if that is given.
  | loop (min : Nat) (max : Option Nat) (greedy : Bool) (inner : Node)
  deriving Repr, Inhabited, DecidableEq

namespace Node

def consumes : Node → Bool
  | empty | look _ => false
  | char _ | oneOf _ => true
  | group _ inner => inner.consumes
  | seq first second => first.consumes || second.consumes
  | alt first second => first.consumes && second.consumes
  | loop min _ _ inner => min ≠ 0 && inner.consumes

def isEmptyOnly : Node → Bool
  | empty | look _ => true
  | char _ | oneOf _ => false
  | group _ inner => inner.isEmptyOnly
  | seq first second | alt first second => first.isEmptyOnly && second.isEmptyOnly
  | loop _ max _ inner => max = some 0 || inner.isEmptyOnly

/-- To repeat what takes no character is to try it once. -/
def bounds (min : Nat) (max : Option Nat) (inner : Node) : Nat × Option Nat :=
  if inner.isEmptyOnly then (Nat.min min 1, some ((max.map (Nat.min · 1)).getD 1)) else (min, max)

def sequence : List Node → Node
  | [] => empty
  | [node] => node
  | node :: rest => seq node (sequence rest)

def alternatives : List Node → Node
  | [] => empty
  | [node] => node
  | node :: rest => alt node (alternatives rest)

/-- The size of a class in bytes of program: wide classes need about a machine of their own. -/
def sizeOfSet (s : CharSet) : Nat :=
  if s.isAscii then 32 + 8 * s.ranges.size else 64 * s.ranges.size

/-- The size of the program in bytes, as the limit counts it. -/
def size : Node → Nat
  | empty => 32
  | char c => 32 * c.utf8Size
  | oneOf s => sizeOfSet s
  | look _ => 32
  | group _ inner => 64 + inner.size
  | seq first second => first.size + second.size
  | alt first second => 40 + first.size + second.size
  | loop min max _ inner =>
    match bounds min max inner with
    | (min, some max) => 32 + max * inner.size + (max - min) * 40
    | (min, none) => 40 + Nat.max min 1 * inner.size

end Node

/-! ### Programs -/

inductive Instruction where
  | char (c : Char) (next : Nat)
  | oneOf (s : CharSet) (next : Nat)
  | look (condition : Look) (next : Nat)
  | save (slot : Nat) (next : Nat)
  | split (first second : Nat)
  | accept
  deriving Repr, Inhabited, DecidableEq

structure Program where
  instructions : Array Instruction
  entry : Nat
  -- How many positions are kept: two for each group.
  slots : Nat
  deriving Repr, Inhabited, DecidableEq

namespace Program

abbrev Compiler := StateM (Array Instruction)

def emit (instruction : Instruction) : Compiler Nat :=
  modifyGet fun code => (code.size, code.push instruction)

/-- Goes on at the first place, or at the second, in the order that greed prefers. -/
def choose (greedy : Bool) (again after : Nat) : Instruction :=
  if greedy then .split again after else .split after again

/-- Any number of rounds, one at least: `body` goes on at the split that it is given. Yields the
split and the entry of the body. -/
def emitRounds (greedy : Bool) (body : Nat → Compiler Nat) (next : Nat) : Compiler (Nat × Nat) := do
  let split ← emit .accept
  let entry ← body split
  modify (·.set! split (choose greedy entry next))
  return (split, entry)

def emitCopies (body : Nat → Compiler Nat) : Nat → Nat → Compiler Nat
  | 0, next => return next
  | count + 1, next => do emitCopies body count (← body next)

/-- A number of rounds, each of which may be the last. -/
def emitOptional (greedy : Bool) (body : Nat → Compiler Nat) (after : Nat) :
    Nat → Nat → Compiler Nat
  | 0, next => return next
  | count + 1, next => do
    let entry ← body next
    emitOptional greedy body after count (← emit (choose greedy entry after))

/-- The entry of the program of a tree that goes on at `next`. -/
def emitNode : Node → Nat → Compiler Nat
  | .empty, next => return next
  | .char c, next => emit (.char c next)
  | .oneOf s, next => emit (.oneOf s next)
  | .look condition, next => emit (.look condition next)
  | .group index inner, next => do
    let close ← emit (.save (2 * index + 1) next)
    emit (.save (2 * index) (← emitNode inner close))
  | .seq first second, next => do emitNode first (← emitNode second next)
  | .alt first second, next => do
    let second ← emitNode second next
    let first ← emitNode first next
    emit (.split first second)
  | .loop min max greedy inner, next =>
    let body := emitNode inner
    match Node.bounds min max inner with
    | (0, none) => do
      let (split, entry) ← emitRounds greedy body next
      if inner.consumes then return split
      else emit (choose greedy entry next)
    | (min + 1, none) => do
      let (_, entry) ← emitRounds greedy body next
      emitCopies body min entry
    | (min, some max) => do
      emitCopies body min (← emitOptional greedy body next (max - min) next)

def ofNode (node : Node) (groups : Nat) : Program :=
  let (entry, instructions) := (emitNode node 0).run #[.accept]
  { instructions, entry, slots := 2 * groups }

end Program

/-! ### Search -/

abbrev Slots := Array (Option Nat)

/-- Where to go on: a place in the program, a position in the text, and what was kept so far. -/
structure Job where
  place : Nat
  position : Nat
  slots : Slots

/-- For each place and position whether it was tried. -/
abbrev Tried := Array Bool

theorem count_set_lt {tried : Tried} {cell : Nat} (inside : cell < tried.size)
    (fresh : tried[cell] = false) :
    (tried.set cell true).toList.count false < tried.toList.count false := by
  have inList : cell < tried.toList.length := by simpa using inside
  have member : false ∈ tried.toList := by
    rw [← fresh]; exact Array.getElem_mem_toList inside
  have positive : 0 < tried.toList.count false := List.count_pos_iff.2 member
  rw [Array.toList_set, List.count_set inList, Array.getElem_toList, fresh]
  change tried.toList.count false - 1 + 0 < tried.toList.count false
  omega

namespace Program

/-- What an instruction makes of a job: the jobs to go on with, the preferred one first. -/
def step (text : Array Char) (job : Job) : Instruction → List Job
  | .char c next =>
    if text[job.position]? = some c then [⟨next, job.position + 1, job.slots⟩] else []
  | .oneOf s next =>
    if text[job.position]?.any s.contains then [⟨next, job.position + 1, job.slots⟩] else []
  | .look condition next =>
    if condition.holds text job.position then [⟨next, job.position, job.slots⟩] else []
  | .save slot next => [⟨next, job.position, job.slots.setIfInBounds slot (some job.position)⟩]
  | .split first second =>
    [⟨first, job.position, job.slots⟩, ⟨second, job.position, job.slots⟩]
  | .accept => []

def explore (program : Program) (text : Array Char) (tried : Tried) :
    List Job → Option Slots × Tried
  | [] => (none, tried)
  | job :: rest =>
    match program.instructions[job.place]? with
    | none => explore program text tried rest
    | some .accept => (some job.slots, tried)
    | some instruction =>
      let cell := job.place * (text.size + 1) + job.position
      if h : ∃ inside : cell < tried.size, tried[cell] = false then
        explore program text (tried.set cell true h.1) (step text job instruction ++ rest)
      else explore program text tried rest
termination_by jobs => (tried.toList.count false, jobs.length)
decreasing_by
  · exact Prod.Lex.right _ (Nat.lt_succ_self _)
  · exact Prod.Lex.left _ _ (count_set_lt h.1 h.2)
  · exact Prod.Lex.right _ (Nat.lt_succ_self _)

def searchFrom (program : Program) (text : Array Char) (tried : Tried) (start : Nat) :
    Nat → Option Slots
  | 0 => none
  | count + 1 =>
    match program.explore text tried [⟨program.entry, start, .replicate program.slots none⟩] with
    | (some slots, _) => some slots
    | (none, tried) => program.searchFrom text tried (start + 1) count

/-- The match that starts first, of those the preferred one; it starts at `start` or later. -/
def search (program : Program) (text : Array Char) (start : Nat) : Option Slots :=
  let cells := program.instructions.size * (text.size + 1)
  program.searchFrom text (.replicate cells false) start (text.size + 1 - start)

end Program

end LineEditor.Regex
