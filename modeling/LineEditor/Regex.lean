import LineEditor.Pattern
import LineEditor.Regex.Class
import LineEditor.Regex.Program

/-!
An engine for patterns: expressions in the common notation are read, made into programs and searched
for, and their matches are replaced.
-/

namespace LineEditor.Regex

structure Repetition where
  min : Nat
  max : Option Nat
  lazy : Bool
  deriving DecidableEq, Repr

namespace Repetition

def countBound : Nat := UInt32.size

/-- A count with white space around it; without digits there is none. -/
def readCount (flags : Flags) : Reader (Option Nat) := do
  modify (·.dropWhile isSpace)
  let digits ← Reader.takeAll flags fun c => '0' ≤ c && c ≤ '9'
  let _ ← Reader.takeAll flags isSpace
  if digits = [] then return none
  let count := Nat.ofDigitChars 10 digits 0
  if count < countBound then return some count else throw .countTooLarge

def readLazy : Reader Bool := Reader.accept "?"

def readCounts (flags : Flags) : Reader Repetition := do
  Reader.skipSpace flags
  if (← get) = [] then throw .countOpen
  let min ← readCount flags
  if (← get) = [] then throw .countOpen
  let max ←
    if ← Reader.accept "," then do
      Reader.skipSpace flags
      if (← Reader.peek) = some '}' then pure none
      else do
        if (← get) = [] then throw .countOpen
        if min = none then throw .countMissing
        match ← readCount flags with
        | none => throw .countMissing
        | some max => pure (some max)
    else pure min
  match min with
  | none => throw .countMissing
  | some min =>
    if !(← Reader.accept "\x7d") then throw .countOpen
    Reader.skipSpace flags
    let lazy ← readLazy
    if max.any (· < min) then throw .countReversed
    return { min, max, lazy }

end Repetition

/-! ### Groups -/

inductive Opening where
  | kept (name : Option Text)
  | plain (flags : Flags)
  -- These flags hold from here on.
  | directive (flags : Flags)

namespace Opening

def setFlag (flags : Flags) (letter : Char) (value : Bool) : Option Flags :=
  match letter with
  | 'i' => some { flags with ignoreCase := value }
  | 'm' => some { flags with multiLine := value }
  | 's' => some { flags with dotNewline := value }
  | 'U' => some { flags with swapGreed := value }
  | 'u' => some { flags with unicode := value }
  | 'R' => some { flags with carriage := value }
  | 'x' => some { flags with verbose := value }
  | _ => none

/-- Reads flags up to a colon or a closing bracket, neither taken; those after a dash are cleared.
No letter may stand twice, and a dash neither twice nor last. `seen` are the letters so far, the
dash among them, the last one in front. -/
def readFlags (flags : Flags) (seen : List Char) : Text → Except Fault (Flags × List Char × Text)
  | [] => .error .flagsOpen
  | c :: rest =>
    if c = ':' ∨ c = ')' then
      if seen.head? = some '-' then .error .flagNegationDangling else .ok (flags, seen, c :: rest)
    else if c = '-' then
      if seen.contains '-' then .error .flagNegationTwice else readFlags flags ('-' :: seen) rest
    else
      match setFlag flags c (!seen.contains '-') with
      | none => .error .flagUnknown
      | some changed =>
        if seen.contains c then .error .flagTwice else readFlags changed (c :: seen) rest

def isNameCharacter (first : Bool) (c : Char) : Bool :=
  c = '_' || Unicode.alphabetic.contains c ||
    !first && (c = '.' || c = '[' || c = ']' ||
      Unicode.numbers.contains c)

def readName (rest : Text) : Except Fault (Text × Text) :=
  match rest.span (· ≠ '>') with
  | (_, []) => .error .nameOpen
  | (name, _ :: after) =>
    if name = [] then .error .nameMissing
    else if name.head?.all (isNameCharacter true) && name.tail.all (isNameCharacter false) then
      .ok (name, after)
    else .error .nameInvalid

def acceptAny : List String → Reader Bool
  | [] => return false
  | first :: others => do if ← Reader.accept first then return true else acceptAny others

def read (flags : Flags) : Reader Opening := do
  Reader.skipSpace flags
  if ← acceptAny ["?=", "?!", "?<=", "?<!"] then throw .lookAround
  else if ← acceptAny ["?P<", "?<"] then
    let (name, rest) ← readName (← get)
    set rest
    return kept (some name)
  else if ← Reader.accept "?" then
    if (← get) = [] then throw .groupOpen
    let (changed, seen, rest) ← readFlags flags [] (← get)
    set rest.tail
    if rest.head? = some ':' then return plain changed
    else if seen = [] then throw .nothingToRepeat
    else return directive changed
  else return kept none

end Opening

/-! ### Expressions -/

/-- A part of a pattern, how deep it is nested, and whether it may be repeated. -/
structure Part where
  node : Node
  height : Nat := 0
  repeatable : Bool := true
  deriving Inhabited

namespace Part

def maxHeight (parts : List Part) : Nat := (parts.map (·.height)).foldl Nat.max 0

def sequence (parts : List Part) : Part :=
  { node := .sequence (parts.reverse.map (·.node))
    height := if parts.length ≤ 1 then maxHeight parts else maxHeight parts + 1 }

def alternatives (branches : List Part) : Part :=
  { node := .alternatives (branches.reverse.map (·.node))
    height := if branches.length ≤ 1 then maxHeight branches else maxHeight branches + 1 }

end Part

/-- A group that is open, or the whole pattern: the branches before this one and the parts of this
one, both in reverse order. -/
structure Level where
  flags : Flags
  index : Option Nat := none
  branches : List Part := []
  parts : List Part := []

namespace Level

def push (level : Level) (part : Part) : Level := { level with parts := part :: level.parts }

def branch (level : Level) : Level :=
  { level with branches := .sequence level.parts :: level.branches, parts := [] }

def part (level : Level) : Part :=
  .alternatives (.sequence level.parts :: level.branches)

def close (level : Level) : Part :=
  let part := level.part
  { node := match level.index with
      | some index => .group index part.node
      | none => part.node
    height := part.height + 1 }

end Level

/-- What was read so far: the open groups, the innermost one apart, and the groups that are kept. -/
structure Progress where
  level : Level
  outer : List Level := []
  groups : Nat := 1
  names : List Text := []

namespace Progress

def flags (p : Progress) : Flags := p.level.flags

def push (p : Progress) (part : Part) : Progress := { p with level := p.level.push part }

def openGroup (p : Progress) (flags : Flags) (index : Option Nat) : Progress :=
  { p with level := { flags, index }, outer := p.level :: p.outer }

def closeGroup (p : Progress) : Except Fault Progress :=
  match p.outer with
  | [] => .error .groupNotOpened
  | level :: outer => .ok { p with level := level.push p.level.close, outer }

def repeatLast (p : Progress) (repetition : Repetition) : Except Fault Progress :=
  match p.level.parts with
  | [] => .error .nothingToRepeat
  | part :: parts =>
    if part.repeatable then
      let greedy := repetition.lazy == p.flags.swapGreed
      let node := .loop repetition.min repetition.max greedy part.node
      .ok { p with level.parts := { node, height := part.height + 1 } :: parts }
    else .error .nothingToRepeat

def charNode (flags : Flags) (c : Char) : Node :=
  if flags.ignoreCase then
    let folded := if flags.unicode then (CharSet.singleton c).foldCase
      else (CharSet.singleton c).foldAsciiCase
    if folded = .singleton c then .char c else .oneOf folded
  else .char c

def dotNode (flags : Flags) : Node :=
  .oneOf (if flags.dotNewline then .all
    else if flags.carriage then (CharSet.ofTable "A D").complement
    else (CharSet.ofTable "A").complement)

def lineStart (flags : Flags) : Look :=
  if !flags.multiLine then .textStart
  else if flags.carriage then .carriageLineStart else .lineStart

def lineEnd (flags : Flags) : Look :=
  if !flags.multiLine then .textEnd
  else if flags.carriage then .carriageLineEnd else .lineEnd

/-- Reads one part, or one bracket or bar; `c` is its first character, already taken. -/
def readPart (p : Progress) (c : Char) : Reader Progress := do
  match c with
  | '(' =>
    match ← Opening.read p.flags with
    | .kept none => return { p.openGroup p.flags (some p.groups) with groups := p.groups + 1 }
    | .kept (some name) =>
      if p.names.contains name then throw .nameTwice
      return { p.openGroup p.flags (some p.groups) with
        groups := p.groups + 1
        names := name :: p.names }
    | .plain flags => return p.openGroup flags none
    | .directive flags =>
      return { p.push { node := .empty, repeatable := false } with level.flags := flags }
  | ')' => p.closeGroup
  | '|' => return { p with level := p.level.branch }
  | '[' =>
    let part ← Class.read p.flags
    return p.push { node := .oneOf part.members, height := part.height }
  | '?' => p.repeatLast ⟨0, some 1, ← Repetition.readLazy⟩
  | '*' => p.repeatLast ⟨0, none, ← Repetition.readLazy⟩
  | '+' => p.repeatLast ⟨1, none, ← Repetition.readLazy⟩
  | '{' =>
    if p.level.parts.head?.all (!·.repeatable) then throw .nothingToRepeat
    p.repeatLast (← Repetition.readCounts p.flags)
  | '.' => if p.flags.unicode then return p.push { node := dotNode p.flags } else throw .notUtf8
  | '^' => return p.push { node := .look (lineStart p.flags) }
  | '$' => return p.push { node := .look (lineEnd p.flags) }
  | '\\' =>
    match ← Escape.read p.flags with
    | .char c rawByte =>
      if rawByte && !p.flags.unicode && 0x7F < c.toNat then throw .notUtf8
      return p.push { node := charNode p.flags c }
    | .oneOf s => return p.push { node := .oneOf s }
    | .look condition => return p.push { node := .look condition }
  | c => return p.push { node := charNode p.flags c }

def readRest : Nat → Progress → Reader Progress
  | 0, p => return p
  | fuel + 1, p => do
    Reader.skipSpace p.flags
    match ← get with
    | [] => return p
    | c :: rest =>
      set rest
      readRest fuel (← p.readPart c)

end Progress

def heightLimit : Nat := 250

/-- The largest program that is accepted, in bytes. -/
def sizeLimit : Nat := 10 * 1024 * 1024

/-- The tree of a pattern, the whole match as group 0, and how many groups there are. -/
def read (pattern : Text) (ignoreCase : Bool) : Except Fault (Node × Nat) := do
  let start : Progress := { level := { flags := { ignoreCase } } }
  let (p, _) ← (start.readRest (pattern.length + 1)).run pattern
  if p.outer ≠ [] then throw .groupOpen
  let part := p.level.part
  if heightLimit < part.height then throw .tooDeep
  let node := .group 0 part.node
  if sizeLimit < node.size then throw .tooLarge
  return (node, p.groups)

/-! ### Replacing -/

def span? (slots : Slots) (group : Nat) : Option (Nat × Nat) :=
  match slots[2 * group]?, slots[2 * group + 1]? with
  | some (some first), some (some after) => some (first, after)
  | _, _ => none

def groupText (text : Array Char) (slots : Slots) (group : Nat) : Text :=
  match span? slots group with
  | some (first, after) => (text.extract first after).toList
  | none => []

/-- The next match from `start` on, other than an empty one at `ended`, where the last one ended. -/
def nextMatch? (program : Program) (text : Array Char) (start : Nat) (ended : Option Nat) :
    Option Slots :=
  match program.search text start with
  | none => none
  | some slots =>
    match span? slots 0, ended with
    | some (first, after), some ended =>
      if first = after ∧ after = ended then program.search text (start + 1) else some slots
    | _, _ => some slots

def matchesFrom (program : Program) (text : Array Char) (start : Nat) (ended : Option Nat) :
    Nat → List Slots
  | 0 => []
  | count + 1 =>
    match nextMatch? program text start ended with
    | none => []
    | some slots =>
      match span? slots 0 with
      | none => [slots]
      | some (_, after) => slots :: matchesFrom program text after (some after) count

def replaceMatches (text : Array Char) (template : Text) (start : Nat) : List Slots → Text
  | [] => (text.extract start text.size).toList
  | slots :: rest =>
    match span? slots 0 with
    | none => replaceMatches text template start rest
    | some (first, after) =>
      (text.extract start first).toList ++ Template.expand (groupText text slots) template
        ++ replaceMatches text template after rest

def replaceUpTo (count : Nat) (program : Program) (text template : Text) : Text :=
  let text := text.toArray
  replaceMatches text template 0 (matchesFrom program text 0 none count)

/-! ### The engine -/

def ofProgram (source : Text) (program : Program) : Regex where
  source := source
  isMatch text := (program.search text.toArray 0).isSome
  replaceFirst := replaceUpTo 1 program
  -- An empty match may stand before each character and at the end.
  replaceAll text := replaceUpTo (text.length + 2) program text

def compile (pattern : Text) (ignoreCase : Bool) : Except Fault Regex := do
  let (node, groups) ← read pattern ignoreCase
  return ofProgram pattern (.ofNode node groups)

/-- The expressions of this library, as an engine. -/
def engine : Engine := fun pattern ignoreCase =>
  match compile pattern ignoreCase with
  | .ok regex => .ok regex
  | .error fault => .error fault.message

end LineEditor.Regex
