import LineEditor.Regex.Program
import LineEditor.Text
import LineEditor.Unicode.CharSet
import LineEditor.Unicode.Property

/-!
Reading the parts of a regular expression that stand for one character: escapes and classes, and
why a notation is refused.
-/

namespace LineEditor.Regex

inductive Fault where
  | nothingToRepeat
  | countOpen
  | countMissing
  | countTooLarge
  | countReversed
  | groupOpen
  | groupNotOpened
  | nameOpen
  | nameMissing
  | nameInvalid
  | nameTwice
  | lookAround
  | flagsOpen
  | flagUnknown
  | flagTwice
  | flagNegationTwice
  | flagNegationDangling
  | classOpen
  | classRangeReversed
  | classRangeEnd
  | classEscape
  | escapeOpen
  | escapeUnknown
  | backReference
  | hexDigit
  | hexMissing
  | hexNotACharacter
  | propertyInvalid
  | propertyUnknown
  | wordEdgeOpen
  | wordEdgeUnknown
  | unicodeOff
  | notUtf8
  | tooDeep
  | tooLarge
  deriving DecidableEq, Repr, Inhabited

namespace Fault

def message : Fault → String
  | nothingToRepeat => "nothing to repeat"
  | countOpen => "repetition count is not closed"
  | countMissing => "repetition count is missing"
  | countTooLarge => "repetition count is too large"
  | countReversed => "repetition counts are in the wrong order"
  | groupOpen => "group is not closed"
  | groupNotOpened => "group is not opened"
  | nameOpen => "group name is not closed"
  | nameMissing => "group name is missing"
  | nameInvalid => "group name holds a character that it may not hold"
  | nameTwice => "group name is used twice"
  | lookAround => "look-around is not supported"
  | flagsOpen => "flags are not closed"
  | flagUnknown => "unknown flag"
  | flagTwice => "flag is given twice"
  | flagNegationTwice => "flags are negated twice"
  | flagNegationDangling => "negation of no flag"
  | classOpen => "character class is not closed"
  | classRangeReversed => "range of characters is in the wrong order"
  | classRangeEnd => "end of a range of characters is not a single character"
  | classEscape => "escape stands for no character of a class"
  | escapeOpen => "escape is not complete"
  | escapeUnknown => "unknown escape"
  | backReference => "back-references are not supported"
  | hexDigit => "not a hexadecimal digit"
  | hexMissing => "hexadecimal digits are missing"
  | hexNotACharacter => "number is no character"
  | propertyInvalid => "property name is invalid"
  | propertyUnknown => "unknown property"
  | wordEdgeOpen => "word edge is not closed"
  | wordEdgeUnknown => "unknown word edge"
  | unicodeOff => "character needs the flag u"
  | notUtf8 => "pattern could match text that is not UTF-8"
  | tooDeep => "pattern is nested too deep"
  | tooLarge => "compiled pattern is too large"

end Fault

/-! ### Reading -/

structure Flags where
  ignoreCase : Bool := false
  -- `m`: `^` and `$` stand at the ends of lines.
  multiLine : Bool := false
  -- `s`: the dot takes a newline too.
  dotNewline : Bool := false
  -- `U`: repetitions are lazy, and greedy with a question mark.
  swapGreed : Bool := false
  -- `u`: classes hold the characters of every script, not of ASCII only.
  unicode : Bool := true
  -- `R`: lines may end in a carriage return and a newline.
  carriage : Bool := false
  verbose : Bool := false
  deriving DecidableEq, Repr, Inhabited

abbrev Reader := StateT Text (Except Fault)

def isSpace (c : Char) : Bool := Unicode.whitespace.contains c

/-- What is left after blanks and comments; a comment runs to the end of its line. The flag tells
whether a comment is being skipped. -/
def dropSpace (comment : Bool) : Text → Text
  | [] => []
  | c :: rest =>
    if comment then dropSpace (c ≠ '\n') rest
    else if c = '#' then dropSpace true rest
    else if isSpace c then dropSpace false rest
    else c :: rest

namespace Reader

def skipSpace (flags : Flags) : Reader Unit :=
  if flags.verbose then modify (dropSpace false) else pure ()

def peek : Reader (Option Char) := return (← get).head?

def next (atEnd : Fault) : Reader Char := do
  match ← get with
  | [] => throw atEnd
  | c :: rest =>
    set rest
    return c

def nextSpaced (flags : Flags) (atEnd : Fault) : Reader Char := do
  let c ← next atEnd
  skipSpace flags
  return c

def accept (expected : String) : Reader Bool := do
  let rest ← get
  if expected.toList.isPrefixOf rest then
    set (rest.drop expected.length)
    return true
  else return false

/-- Takes the characters that the test accepts, and the blanks between and after them. -/
def takeWhile (flags : Flags) (accepts : Char → Bool) : Nat → Reader Text
  | 0 => return []
  | fuel + 1 => do
    match ← get with
    | [] => return []
    | c :: rest =>
      if accepts c then
        set rest
        skipSpace flags
        return c :: (← takeWhile flags accepts fuel)
      else return []

def takeAll (flags : Flags) (accepts : Char → Bool) : Reader Text := do
  takeWhile flags accepts (← get).length

end Reader

/-! ### Escapes -/

inductive Escape where
  /-- `rawByte` tells that it was written as a byte, which above ASCII is no character without the
  flag `u`. -/
  | char (c : Char) (rawByte : Bool)
  | oneOf (s : CharSet)
  | look (condition : Look)
  deriving Repr, Inhabited

namespace Escape

/-- What may stand after a backslash for itself: every ASCII character but letters, digits and the
angle brackets. -/
def isEscapable (c : Char) : Bool :=
  c.toNat ≤ 0x7F && !c.isAlphanum && c ≠ '<' && c ≠ '>'

def ofHex (digits : Text) : Except Fault Char :=
  if (hexValue digits).isValidChar then .ok (Char.ofNat (hexValue digits))
  else .error .hexNotACharacter

def readHexDigits (flags : Flags) : Nat → Reader Text
  | 0 => return []
  | count + 1 => do
    let c ← Reader.nextSpaced flags .escapeOpen
    if isHexDigit c then return c :: (← readHexDigits flags count) else throw .hexDigit

/-- The code point after `\x`, `\u` or `\U`: in braces, or with the number of digits that the
letter asks for. -/
def readHex (flags : Flags) (letter : Char) : Reader Escape := do
  Reader.skipSpace flags
  if ← Reader.accept "\x7b" then
    Reader.skipSpace flags
    let digits ← Reader.takeAll flags (· ≠ '}')
    if !digits.all isHexDigit then throw .hexDigit
    let _ ← Reader.nextSpaced flags .escapeOpen
    if digits = [] then throw .hexMissing
    return .char (← ofHex digits) false
  else
    let digits ← readHexDigits flags (if letter = 'x' then 2 else if letter = 'u' then 4 else 8)
    return .char (← ofHex digits) (letter = 'x')

def splitAt? (separator : Text) : Text → Option (Text × Text)
  | [] => none
  | c :: rest =>
    if separator.isPrefixOf (c :: rest) then some ([], (c :: rest).drop separator.length)
    else (splitAt? separator rest).map fun (name, value) => (c :: name, value)

def property? (name : Text) : Option (CharSet × Bool) :=
  match splitAt? ['!', '='] name with
  | some (name, value) => (Unicode.propertyValue? name value).map (·, true)
  | none =>
    match splitAt? [':'] name with
    | some (name, value) => (Unicode.propertyValue? name value).map (·, false)
    | none =>
      match splitAt? ['='] name with
      | some (name, value) => (Unicode.propertyValue? name value).map (·, false)
      | none => (Unicode.property? name).map (·, false)

/-- Adds the other case where case is ignored, then negates. -/
def foldAndNegate (flags : Flags) (negated : Bool) (s : CharSet) : CharSet :=
  let s := if flags.ignoreCase then s.foldCase else s
  if negated then s.complement else s

def readProperty (flags : Flags) (negated : Bool) : Reader Escape := do
  Reader.skipSpace flags
  let name ←
    if ← Reader.accept "\x7b" then do
      Reader.skipSpace flags
      let name ← Reader.takeAll flags (· ≠ '}')
      let _ ← Reader.next .escapeOpen
      pure name
    else do
      let c ← Reader.nextSpaced flags .escapeOpen
      if c = '\\' then throw .propertyInvalid
      pure [c]
  if !flags.unicode then throw .unicodeOff
  let found := if name.length = 1 then (Unicode.property? name).map (·, false) else property? name
  match found with
  | none => throw .propertyUnknown
  | some (s, opposite) => return .oneOf (foldAndNegate flags (negated != opposite) s)

def readShorthand (flags : Flags) (letter : Char) : Except Fault Escape :=
  let small := letter.toLower
  if flags.unicode then
    let s := if small = 'd' then Unicode.digits else if small = 's' then Unicode.whitespace
      else Unicode.wordCharacters
    .ok (.oneOf (if letter.isUpper then s.complement else s))
  else if letter.isUpper then .error .notUtf8
  else
    .ok (.oneOf (if small = 'd' then .range '0' '9' else if small = 's' then .ofTable "9-D 20"
      else asciiWord))

/-- The word edge named in braces after `\b`, if what stands there can be one. -/
def readWordEdge (flags : Flags) : Reader WordEdge := do
  let rest ← get
  match rest with
  | '{' :: _ =>
    let _ ← Reader.nextSpaced flags .wordEdgeOpen
    let isNameCharacter (c : Char) : Bool := c.isAlpha || c = '-'
    match ← Reader.peek with
    | none => throw .wordEdgeOpen
    | some c =>
      if isNameCharacter c then
        let name ← Reader.takeAll flags isNameCharacter
        if (← Reader.next .wordEdgeOpen) ≠ '}' then throw .wordEdgeOpen
        if name = "start".toList then return .start
        else if name = "end".toList then return .finish
        else if name = "start-half".toList then return .startHalf
        else if name = "end-half".toList then return .finishHalf
        else throw .wordEdgeUnknown
      else
        set rest
        return .either
  | _ => return .either

def read (flags : Flags) : Reader Escape := do
  let c ← Reader.next .escapeOpen
  let word (edge : WordEdge) : Escape := .look (.word edge !flags.unicode)
  if isEscapable c then return .char c false
  else if c.isDigit then throw .backReference
  else match c with
    | 'x' | 'u' | 'U' => readHex flags c
    | 'p' => readProperty flags false
    | 'P' => readProperty flags true
    | 'd' | 'D' | 's' | 'S' | 'w' | 'W' => readShorthand flags c
    | 'a' => return .char '\x07' false
    | 'f' => return .char '\x0C' false
    | 't' => return .char '\t' false
    | 'n' => return .char '\n' false
    | 'r' => return .char '\r' false
    | 'v' => return .char '\x0B' false
    | 'A' => return .look .textStart
    | 'z' => return .look .textEnd
    | 'B' => return word .neither
    | '<' => return word .start
    | '>' => return word .finish
    | 'b' => return word (← readWordEdge flags)
    | _ => throw .escapeUnknown

end Escape

/-! ### Classes -/

namespace Class

def named : List (String × String) := [
  ("alnum", "30-39 41-5A 61-7A"),
  ("alpha", "41-5A 61-7A"),
  ("ascii", "0-7F"),
  ("blank", "9 20"),
  ("cntrl", "0-1F 7F"),
  ("digit", "30-39"),
  ("graph", "21-7E"),
  ("lower", "61-7A"),
  ("print", "20-7E"),
  ("punct", "21-2F 3A-40 5B-60 7B-7E"),
  ("space", "9-D 20"),
  ("upper", "41-5A"),
  ("word", "30-39 41-5A 5F 61-7A"),
  ("xdigit", "30-39 41-46 61-66")]

inductive Operator where
  | intersection
  | difference
  | symmetricDifference
  deriving DecidableEq, Repr

def Operator.apply : Operator → CharSet → CharSet → CharSet
  | intersection, s, t => s.inter t
  | difference, s, t => s.diff t
  | symmetricDifference, s, t => s.symmDiff t

/-- A part of a class: its members, and how deep classes and unions are nested in it. -/
structure Part where
  members : CharSet := .empty
  height : Nat := 0

structure Union where
  count : Nat := 0
  members : CharSet := .empty
  height : Nat := 0

def Union.add (u : Union) (part : Part) : Union :=
  ⟨u.count + 1, u.members.union part.members, Nat.max u.height part.height⟩

def Union.part (u : Union) : Part :=
  ⟨u.members, if u.count ≤ 1 then u.height else u.height + 1⟩

/-- A class that is open: what an operator has on its left, and the union on its right. -/
structure Open where
  negated : Bool
  left : Option (Part × Operator) := none
  union : Union := {}

def fold (flags : Flags) (s : CharSet) : CharSet :=
  if !flags.ignoreCase then s else if flags.unicode then s.foldCase else s.foldAsciiCase

def Open.part (flags : Flags) (o : Open) : Part :=
  let right := o.union.part
  match o.left with
  | none => right
  | some (left, operator) =>
    ⟨operator.apply (fold flags left.members) (fold flags right.members),
      Nat.max left.height right.height + 1⟩

def Open.close (flags : Flags) (o : Open) : Except Fault Part :=
  let part := o.part flags
  if o.negated && !flags.unicode then .error .notUtf8
  else
    let members := fold flags part.members
    .ok ⟨if o.negated then members.complement else members, part.height + 1⟩

inductive Item where
  | char (c : Char)
  | oneOf (s : CharSet)

/-- One character of a class, checked to be one that it can hold. -/
def single (flags : Flags) (c : Char) (rawByte : Bool) : Except Fault Item :=
  if flags.unicode || c.toNat ≤ 0x7F then .ok (.char c)
  else if rawByte then .error .notUtf8
  else .error .unicodeOff

def readItem (flags : Flags) : Reader Item := do
  let c ← Reader.next .classOpen
  if c = '\\' then
    match ← Escape.read flags with
    | .char c rawByte => single flags c rawByte
    | .oneOf s => return .oneOf s
    | .look _ => throw .classEscape
  else single flags c false

/-- Whether a dash that comes next joins two ends of a range: not before another dash or the
closing bracket. -/
def joinsRange (flags : Flags) : Text → Bool
  | '-' :: rest =>
    match (if flags.verbose then dropSpace false rest else rest).head? with
    | some ']' | some '-' => false
    | _ => true
  | _ => false

def readRange (flags : Flags) : Reader Part := do
  let first ← readItem flags
  Reader.skipSpace flags
  if joinsRange flags (← get) then
    let _ ← Reader.nextSpaced flags .classOpen
    match first, ← readItem flags with
    | .char first, .char final =>
      if first ≤ final then return { members := .range first final }
      else throw .classRangeReversed
    | _, _ => throw .classRangeEnd
  else
    match first with
    | .char c => return { members := .singleton c }
    | .oneOf s => return { members := s }

def named? (rest : Text) : Option (CharSet × Bool × Text) :=
  match rest with
  | '[' :: ':' :: rest =>
    let (negated, rest) := match rest with
      | '^' :: rest => (true, rest)
      | rest => (false, rest)
    match rest.dropWhile (· ≠ ':') with
    | ':' :: ']' :: after =>
      (named.find? (·.1.toList = rest.takeWhile (· ≠ ':'))).map fun (_, table) =>
        (.ofTable table, negated, after)
    | _ => none
  | _ => none

def readDashes (flags : Flags) (u : Union) : Nat → Reader Union
  | 0 => return u
  | fuel + 1 => do
    match ← get with
    | '-' :: rest =>
      set rest
      Reader.skipSpace flags
      readDashes flags (u.add { members := .singleton '-' }) fuel
    | [] => throw .classOpen
    | _ => return u

/-- Reads the opening of a class, its bracket already taken: a negation, and the dashes or the
closing bracket that stand first and mean themselves. -/
def readOpen (flags : Flags) : Reader Open := do
  Reader.skipSpace flags
  let negated ← Reader.accept "^"
  if negated then Reader.skipSpace flags
  let union ← readDashes flags {} (← get).length
  if union.count = 0 then
    if ← Reader.accept "]" then
      Reader.skipSpace flags
      return { negated, union := union.add { members := .singleton ']' } }
  if (← get) = [] then throw .classOpen
  return { negated, union }

def Open.operate (flags : Flags) (o : Open) (operator : Operator) : Open :=
  { negated := o.negated, left := some (o.part flags, operator) }

/-- Reads on while a class is open, the innermost one in front. -/
def readRest (flags : Flags) : Nat → Open → List Open → Reader Part
  | 0, _, _ => throw .classOpen
  | fuel + 1, inner, outer => do
    Reader.skipSpace flags
    let rest ← get
    match rest with
    | [] => throw .classOpen
    | '[' :: nested =>
      match named? rest with
      | some (members, negated, after) =>
        if negated && !flags.unicode then throw .notUtf8
        set after
        let members := fold flags members
        let part : Part := { members := if negated then members.complement else members }
        readRest flags fuel { inner with union := inner.union.add part } outer
      | none =>
        set nested
        readRest flags fuel (← readOpen flags) (inner :: outer)
    | ']' :: after =>
      set after
      let part ← inner.close flags
      match outer with
      | [] => return part
      | next :: others => readRest flags fuel { next with union := next.union.add part } others
    | '&' :: '&' :: after =>
      set after
      readRest flags fuel (inner.operate flags .intersection) outer
    | '-' :: '-' :: after =>
      set after
      readRest flags fuel (inner.operate flags .difference) outer
    | '~' :: '~' :: after =>
      set after
      readRest flags fuel (inner.operate flags .symmetricDifference) outer
    | _ =>
      let part ← readRange flags
      readRest flags fuel { inner with union := inner.union.add part } outer

def read (flags : Flags) : Reader Part := do
  let opened ← readOpen flags
  readRest flags ((← get).length + 1) opened []

end Class

end LineEditor.Regex
