import LineEditor.Text

/-!
TOML documents: the rules by which keys and headers build tables, how values are written, and the
lines of a document. What does not fit the grammar is refused without a reason.
-/

namespace LineEditor.Toml

/-- How a table came about. -/
inductive Origin where
  | inline
  -- By a header of its own; so is the document itself.
  | header
  -- By a header that passed through it.
  | implied
  | dotted
  deriving DecidableEq, Repr, Inhabited

/-- Of floats and of dates and times only the kind is kept. -/
inductive Value where
  | text (t : Text)
  | integer (n : Int)
  | float
  | boolean (b : Bool)
  | moment
  | array (items : List Value)
  | table (origin : Origin) (entries : List (Text × Value))
  -- An array whose tables come about by headers.
  | tables (items : List (List (Text × Value)))
  deriving Repr, Inhabited

/-- Entries in the order in which their keys came first. -/
abbrev Table := List (Text × Value)

/-- What reads a document, if it is one. -/
abbrev Parser := Text → Option Table

namespace Table

def replace (table : Table) (key : Text) (value : Value) : Table :=
  table.map fun entry => if entry.1 = key then (key, value) else entry

def remove (table : Table) (key : Text) : Table := table.filter (·.1 ≠ key)

/-- Changes the table at the end of a path. Tables that are missing on the way are made, and an
array of tables is passed through its last one. -/
def changeAt (dotted : Bool) (change : Origin → Table → Option Table) :
    List Text → Origin → Table → Option Table
  | [], origin, table => change origin table
  | key :: path, _, table =>
    match table.lookup key with
    | none => do
      let origin : Origin := if dotted then .dotted else .implied
      let inner ← changeAt dotted change path origin []
      return table ++ [(key, .table origin inner)]
    | some (.table origin inner) => do
      if origin = .inline ∨ dotted ∧ origin = .header then failure
      let inner ← changeAt dotted change path origin inner
      return table.replace key (.table origin inner)
    | some (.tables items) => do
      let last ← items.getLast?
      let last ← changeAt dotted change path .header last
      return table.replace key (.tables (items.dropLast ++ [last]))
    | some _ => none

/-- Adds a value under a dotted key, whose last part is apart from the path. -/
def addDotted (table : Table) (origin : Origin) (path : List Text) (key : Text) (value : Value) :
    Option Table :=
  changeAt true
    (fun origin table =>
      if (origin = .dotted ↔ path = []) ∨ (table.lookup key).isSome then none
      else some (table ++ [(key, value)]))
    path origin table

end Table

/-- A document as far as it was read: the tables that are complete, and the one under the header
that came last, with its path. -/
structure Document where
  root : Table := []
  path : List Text := []
  isArray : Bool := false
  current : Table := []

namespace Document

def addKey (document : Document) (path : List Text) (key : Text) (value : Value) :
    Option Document := do
  return { document with current := ← document.current.addDotted .header path key value }

def finish (document : Document) : Option Table :=
  match document.path.getLast? with
  | none => some document.current
  | some key =>
    Table.changeAt false
      (fun _ table =>
        match document.isArray, table.lookup key with
        | true, none => some (table ++ [(key, .tables [document.current])])
        | true, some (.tables items) =>
          some (table.replace key (.tables (items ++ [document.current])))
        | false, none => some (table ++ [(key, .table .header document.current)])
        | _, _ => none)
      document.path.dropLast .header document.root

def openArray (document : Document) (path : List Text) : Option Document := do
  return { root := ← document.finish, path, isArray := true }

/-- Starts the table of this path. One that a header passed through goes on with what it has. -/
def openTable (document : Document) (path : List Text) : Option Document := do
  let root ← document.finish
  let key ← path.getLast?
  let place (change : Table → Option Table) : Option Table :=
    Table.changeAt false (fun _ table => change table) path.dropLast .header root
  match ← find root path.dropLast key with
  | none => return { root := ← place some, path }
  | some (.table .implied inner) =>
    return { root := ← place fun table => some (table.remove key), path, current := inner }
  | some _ => none
where
  find (table : Table) : List Text → Text → Option (Option Value)
    | [], key => some (table.lookup key)
    | first :: path, key =>
      match table.lookup first with
      | none => some none
      | some (.table .inline _) => none
      | some (.table _ inner) => find inner path key
      | some (.tables items) => do find (← items.getLast?) path key
      | some _ => none

end Document

/-! ### Reading -/

abbrev Reader := StateT Text Option

/-- Every character but the control characters; a tab is none. -/
def isPlain (c : Char) : Bool := c = '\t' || ' ' ≤ c && c ≤ '~' || 0x80 ≤ c.toNat

def isBare (c : Char) : Bool := c.isAlphanum || c = '-' || c = '_'

namespace Reader

def peek : Reader (Option Char) := return (← get).head?

def next : Reader Char := do
  match ← get with
  | [] => failure
  | c :: rest =>
    set rest
    return c

def accept (expected : String) : Reader Bool := do
  let rest ← get
  if expected.toList.isPrefixOf rest then
    set (rest.drop expected.length)
    return true
  else return false

def acceptOne (expected : List Char) : Reader (Option Char) := do
  match ← get with
  | [] => return none
  | c :: rest =>
    if expected.contains c then
      set rest
      return some c
    else return none

def expect (expected : String) : Reader Unit := do
  if !(← accept expected) then failure

def takeWhile (accepts : Char → Bool) : Reader Text := do
  let (taken, rest) := (← get).span accepts
  set rest
  return taken

def skipBlanks : Reader Unit := modify (·.dropWhile isBlank)

def newline : Reader Bool := do
  if ← accept "\n" then return true else accept "\r\n"

def skipComment : Reader Unit := do
  if ← accept "#" then
    let _ ← takeWhile isPlain

def endLine : Reader Unit := do
  skipBlanks
  skipComment
  if (← get) ≠ [] then
    if !(← newline) then failure

def skipGap : Nat → Reader Unit
  | 0 => return ()
  | fuel + 1 => do
    skipBlanks
    if (← peek) = some '#' then
      skipComment
      if !(← newline) then failure
      skipGap fuel
    else if ← newline then skipGap fuel

/-! ### Strings -/

def hexCharacter (count : Nat) : Reader Char := do
  let rest ← get
  let digits := rest.take count
  if digits.length = count ∧ digits.all isHexDigit ∧ (hexValue digits).isValidChar then
    set (rest.drop count)
    return Char.ofNat (hexValue digits)
  else failure

def escape : Reader Char := do
  match ← next with
  | 'b' => return '\x08'
  | 'f' => return '\x0C'
  | 'n' => return '\n'
  | 'r' => return '\r'
  | 't' => return '\t'
  | '"' => return '"'
  | '\\' => return '\\'
  | 'u' => hexCharacter 4
  | 'U' => hexCharacter 8
  | _ => failure

def basicRest : Nat → Reader Text
  | 0 => failure
  | fuel + 1 => do
    match ← next with
    | '"' => return []
    | '\\' => return (← escape) :: (← basicRest fuel)
    | c => if isPlain c then return c :: (← basicRest fuel) else failure

def literalRest : Reader Text := do
  let t ← takeWhile fun c => isPlain c && c ≠ '\''
  expect "'"
  return t

/-- Whether a backslash at the end of a line comes next, which joins the lines. -/
def joinsLines (rest : Text) : Bool :=
  match rest with
  | '\\' :: rest =>
    match rest.dropWhile isBlank with
    | '\n' :: _ => true
    | '\r' :: '\n' :: _ => true
    | _ => false
  | _ => false

def skipLines : Nat → Reader Unit
  | 0 => return ()
  | fuel + 1 => do
    skipBlanks
    if ← newline then skipLines fuel

/-- The rest of a string of several lines between three of these quotes. One or two quotes may
stand right before the closing ones. -/
def multilineRest (quote : Char) : Nat → Reader Text
  | 0 => failure
  | fuel + 1 => do
    let rest ← get
    let quotes := rest.takeWhile (· = quote)
    if 3 ≤ quotes.length then
      let inside := Nat.min (quotes.length - 3) 2
      set (rest.drop (inside + 3))
      return quotes.take inside
    else if quote = '"' ∧ joinsLines rest then
      set rest.tail
      skipLines rest.length
      multilineRest quote fuel
    else if ← newline then return '\n' :: (← multilineRest quote fuel)
    else
      match ← next with
      | '\\' =>
        if quote = '"' then return (← escape) :: (← multilineRest quote fuel)
        else return '\\' :: (← multilineRest quote fuel)
      | c => if isPlain c then return c :: (← multilineRest quote fuel) else failure

def shortString : Reader Text := do
  match ← next with
  | '"' => basicRest (← get).length
  | '\'' => literalRest
  | _ => failure

/-- A string of one line or of several; a line end right after the opening quotes is dropped. -/
def string : Reader Text := do
  if ← accept "\"\"\"" then
    let _ ← newline
    multilineRest '"' ((← get).length + 1)
  else if ← accept "'''" then
    let _ ← newline
    multilineRest '\'' ((← get).length + 1)
  else shortString

/-! ### Keys -/

def simpleKey : Reader Text := do
  match ← peek with
  | some '"' | some '\'' => shortString
  | _ =>
    let key ← takeWhile isBare
    if key = [] then failure else return key

def depthLimit : Nat := 80

def keyParts : Nat → Reader (List Text)
  | 0 => failure
  | fuel + 1 => do
    skipBlanks
    let part ← simpleKey
    skipBlanks
    if ← accept "." then return part :: (← keyParts fuel) else return [part]

/-- A key: the parts before the last one, and the last one. -/
def key : Reader (List Text × Text) := do
  let parts ← keyParts ((← get).length + 1)
  if depthLimit ≤ parts.length then failure
  match parts.getLast? with
  | some last => return (parts.dropLast, last)
  | none => failure

/-! ### Numbers -/

def moreDigits (isDigit : Char → Bool) : Text → Option (Text × Text)
  | [] => some ([], [])
  | ['_'] => none
  | '_' :: c :: rest =>
    if isDigit c then (moreDigits isDigit rest).map fun (digits, rest) => (c :: digits, rest)
    else none
  | c :: rest =>
    if isDigit c then (moreDigits isDigit rest).map fun (digits, rest) => (c :: digits, rest)
    else some ([], c :: rest)

def digits (isDigit : Char → Bool) : Reader Text := do
  match ← get with
  | [] => failure
  | c :: rest =>
    if isDigit c then
      let (more, rest) ← moreDigits isDigit rest
      set rest
      return c :: more
    else failure

def valueIn (base : Nat) (digits : Text) : Nat :=
  digits.foldl (fun n c => base * n + hexDigitValue c) 0

def integerBound : Nat := Nat.pow 2 63

def basedInteger (base : Nat) (isDigit : Char → Bool) : Reader Value := do
  let n := valueIn base (← digits isDigit)
  if n < integerBound then return .integer n else failure

/-- The digits before the point: zero alone, or digits that start with another one. -/
def wholePart : Reader Text := do
  if ← accept "0" then return ['0'] else digits LineEditor.isDigit

/-- Digits and an exponent write a number too large for a double: it lies at or beyond the middle
between the largest one and the power of two after it. -/
def overflows (whole fraction : Text) (exponent : Int) : Bool :=
  let n := valueIn 10 (whole ++ fraction)
  let shift := exponent - fraction.length
  let size := ((whole ++ fraction).dropWhile (· = '0')).length + shift
  n ≠ 0 && (310 < size || 308 ≤ size &&
    Nat.pow 2 1024 - Nat.pow 2 970 ≤ n * Nat.pow 10 shift.toNat / Nat.pow 10 (-shift).toNat)

def exponent : Reader Int := do
  match ← acceptOne ['e', 'E'] with
  | none => return 0
  | some _ =>
    let negative := (← acceptOne ['+', '-']) = some '-'
    let n := valueIn 10 (← digits LineEditor.isDigit)
    return if negative then -(n : Int) else n

def decimal (negative : Bool) : Reader Value := do
  let whole ← wholePart
  match ← peek with
  | some '.' | some 'e' | some 'E' =>
    let fraction ← if ← accept "." then digits LineEditor.isDigit else pure []
    let shift ← exponent
    if !negative && overflows whole fraction shift then failure
    return .float
  | _ =>
    let n := valueIn 10 whole
    if n < integerBound ∨ negative ∧ n = integerBound then
      return .integer (if negative then -(n : Int) else n)
    else failure

def number : Reader Value := do
  if ← accept "0x" then basedInteger 16 isHexDigit
  else if ← accept "0o" then basedInteger 8 fun c => '0' ≤ c && c ≤ '7'
  else if ← accept "0b" then basedInteger 2 fun c => c = '0' || c = '1'
  else
    let negative := (← acceptOne ['+', '-']) = some '-'
    if ← accept "inf" then return .float
    else if ← accept "nan" then return .float
    else decimal negative

/-! ### Dates and times -/

def fixedNumber (count least most : Nat) : Reader Nat := do
  let rest ← get
  let digits := rest.take count
  let n := valueIn 10 digits
  if digits.length = count ∧ digits.all LineEditor.isDigit ∧ least ≤ n ∧ n ≤ most then
    set (rest.drop count)
    return n
  else failure

def daysIn (year month : Nat) : Nat :=
  if month = 2 then
    if year % 4 = 0 ∧ (year % 100 ≠ 0 ∨ year % 400 = 0) then 29 else 28
  else if month = 4 ∨ month = 6 ∨ month = 9 ∨ month = 11 then 30 else 31

def startsDate (rest : Text) : Bool :=
  (rest.take 4).length = 4 && (rest.take 4).all LineEditor.isDigit && (rest.drop 4).head? = some '-'

def startsTime (rest : Text) : Bool :=
  (rest.take 2).length = 2 && (rest.take 2).all LineEditor.isDigit &&
    valueIn 10 (rest.take 2) ≤ 23 && (rest.drop 2).head? = some ':'

def time : Reader Unit := do
  let _ ← fixedNumber 2 0 23
  expect ":"
  let _ ← fixedNumber 2 0 59
  expect ":"
  let _ ← fixedNumber 2 0 60
  match ← get with
  | '.' :: c :: rest =>
    if LineEditor.isDigit c then set (rest.dropWhile LineEditor.isDigit)
  | _ => return ()

def offset : Reader Unit := do
  match ← acceptOne ['Z', 'z', '+', '-'] with
  | some '+' | some '-' =>
    let _ ← fixedNumber 2 0 23
    expect ":"
    let _ ← fixedNumber 2 0 59
  | _ => return ()

def date : Reader Value := do
  let year ← fixedNumber 4 0 9999
  expect "-"
  let month ← fixedNumber 2 1 12
  expect "-"
  let _ ← fixedNumber 2 1 (daysIn year month)
  match ← get with
  | c :: rest =>
    if (c = 'T' ∨ c = 't' ∨ c = ' ') ∧ startsTime rest then
      set rest
      time
      offset
    return .moment
  | [] => return .moment

/-! ### Arrays, tables and documents -/

mutual

/-- A value inside `depth` arrays and tables. -/
def value : Nat → Nat → Reader Value
  | 0, _ => failure
  | fuel + 1, depth => do
    let rest ← get
    match rest.head? with
    | some '"' | some '\'' => return .text (← string)
    | some '[' =>
      if depthLimit ≤ depth + 1 then failure
      expect "["
      skipGap rest.length
      if ← accept "]" then return .array [] else return .array (← items fuel (depth + 1))
    | some '\x7b' =>
      if depthLimit ≤ depth + 1 then failure
      expect "\x7b"
      skipBlanks
      if ← accept "\x7d" then return .table .inline []
      else return .table .inline (← pairs fuel (depth + 1) [])
    | some 't' =>
      expect "true"
      return .boolean true
    | some 'f' =>
      expect "false"
      return .boolean false
    | some _ =>
      if startsDate rest then date
      else if startsTime rest then
        time
        return .moment
      else number
    | none => failure

def items : Nat → Nat → Reader (List Value)
  | 0, _ => failure
  | fuel + 1, depth => do
    let first ← value fuel depth
    skipGap (← get).length
    if ← accept "," then
      skipGap (← get).length
      if ← accept "]" then return [first] else return first :: (← items fuel depth)
    else
      expect "]"
      return [first]

def pairs : Nat → Nat → Table → Reader Table
  | 0, _, _ => failure
  | fuel + 1, depth, table => do
    let (path, last) ← key
    expect "="
    skipBlanks
    let item ← value fuel depth
    skipBlanks
    let table ← table.addDotted .inline path last item
    if ← accept "," then pairs fuel depth table
    else
      expect "\x7d"
      return table

end

/-- A header: one bracket for a table, two for a table of an array. -/
def header (document : Document) : Reader Document := do
  if ← accept "[[" then
    let (path, last) ← key
    expect "]]"
    endLine
    document.openArray (path ++ [last])
  else
    expect "["
    let (path, last) ← key
    expect "]"
    endLine
    document.openTable (path ++ [last])

def pair (document : Document) : Reader Document := do
  let (path, last) ← key
  expect "="
  skipBlanks
  let item ← value ((← get).length + 1) 0
  endLine
  document.addKey path last item

def lines : Nat → Document → Reader Document
  | 0, document => return document
  | fuel + 1, document => do
    skipBlanks
    match ← peek with
    | none => return document
    | some '#' | some '\n' | some '\r' =>
      endLine
      lines fuel document
    | some '[' => lines fuel (← header document)
    | some _ => lines fuel (← pair document)

end Reader

/-- The table that a document holds. A byte order mark in front does not count. -/
def parse? (text : Text) : Option Table := do
  let text := if text.head? = some '\uFEFF' then text.tail else text
  let (document, _) ← (Reader.lines (text.length + 1) {}).run text
  document.finish

end LineEditor.Toml
