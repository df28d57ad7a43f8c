import LineEditor.Address

/-!
Statements: what a command line says, how it is read, and how it is written.
-/

namespace LineEditor

/-- `s`: the pattern and the replacement as written, escapes kept. -/
structure Substitution where
  pattern : Text
  replacement : Text
  delimiter : Char
  -- Every match on a line, not only the first.
  everywhere : Bool := false
  ignoreCase : Bool := false
  deriving DecidableEq, Repr, Inhabited

inductive Action where
  | print
  | number
  -- No letter at all: write the next line.
  | step
  | quit
  | append
  | change
  | delete
  | insert
  | lineNumber
  | move (destination : Address)
  | substitute (substitution : Substitution)
  | edit (name : Option Text)
  | filename (name : Option Text)
  | read (name : Option Text)
  | write (name : Option Text)
  | explain
  | toggleExplain
  deriving DecidableEq, Repr, Inhabited

namespace Action

def letter : Action → Char
  | print => 'p'
  | number => 'n'
  | step => ' '
  | quit => 'q'
  | append => 'a'
  | change => 'c'
  | delete => 'd'
  | insert => 'i'
  | lineNumber => '='
  | move _ => 'm'
  | substitute _ => 's'
  | edit _ => 'e'
  | filename _ => 'f'
  | read _ => 'r'
  | write _ => 'w'
  | explain => 'h'
  | toggleExplain => 'H'

end Action

structure Command where
  addresses : AddressList := []
  action : Action
  -- Write the current line afterwards.
  print : Bool := false
  deriving DecidableEq, Repr, Inhabited

/-- `g` or `x`: a command for each line that matches, or for each line that does not. -/
structure Global where
  addresses : AddressList := []
  invert : Bool := false
  pattern : Text
  delimiter : Char
  body : Command
  deriving DecidableEq, Repr, Inhabited

inductive Statement where
  | single (command : Command)
  | global (global : Global)
  deriving DecidableEq, Repr, Inhabited

/-! ### Reading -/

namespace Substitution

/-- Consumes the flags `g` and `i`, each at most once and in either order. -/
def takeFlags : Text → Bool × Bool × Text
  | 'g' :: 'i' :: rest | 'i' :: 'g' :: rest => (true, true, rest)
  | 'g' :: rest => (true, false, rest)
  | 'i' :: rest => (false, true, rest)
  | rest => (false, false, rest)

def read : Scan Substitution := do
  match ← Scan.next with
  | none => Scan.malformed .noDelimiter
  | some delimiter =>
    if delimiter = ' ' ∨ delimiter = '\t' ∨ delimiter = '\n' then Scan.malformed .noDelimiter
    else
      let some pattern ← Scan.delimited delimiter | Scan.malformed (.openPattern delimiter)
      let some replacement ← Scan.delimited delimiter | Scan.malformed (.openPattern delimiter)
      let (everywhere, ignoreCase, rest) := takeFlags (← get)
      set rest
      return { pattern, replacement, delimiter, everywhere, ignoreCase }

end Substitution

namespace Filename

/-- The name up to the first blank that is not escaped, and the rest. A backslash before a space
keeps the space in the name. -/
def take : Text → Text × Text
  | [] => ([], [])
  | '\\' :: ' ' :: rest =>
    let (name, rest) := take rest
    (' ' :: name, rest)
  | c :: rest =>
    if isBlank c then ([], c :: rest)
    else
      let (name, rest) := take rest
      (c :: name, rest)

def read : Scan (Option Text) := do
  let rest ← get
  if rest.isBlank then
    Scan.skipBlanks
    return none
  else if rest.head?.any isBlank then
    Scan.skipBlanks
    let (name, rest) := take (← get)
    set rest
    return some name
  else Scan.malformed .noBlankBeforeName

end Filename

namespace Command

def readPrint : Scan Bool := do
  Scan.skipBlanks
  Scan.accept 'p'

def readEnd : Scan Unit := do
  Scan.skipBlanks
  match ← get with
  | [] => return ()
  | rest => Scan.malformed (.trailing rest)

/-- Reads what the letter asks for, and the `p` after it where one may stand. -/
def readAction (letter : Char) : Scan (Action × Bool) := do
  match letter with
  | 'p' => return (.print, false)
  | 'n' => return (.number, false)
  | 'q' => return (.quit, false)
  | 'a' => return (.append, false)
  | 'c' => return (.change, false)
  | 'i' => return (.insert, false)
  | 'h' => return (.explain, false)
  | 'H' => return (.toggleExplain, false)
  | 'd' => return (.delete, ← readPrint)
  | '=' => return (.lineNumber, ← readPrint)
  | 'm' =>
    let some destination ← Address.read | Scan.malformed .noDestination
    return (.move destination, ← readPrint)
  | 's' =>
    let substitution ← Substitution.read
    return (.substitute substitution, ← readPrint)
  | 'e' => return (.edit (← Filename.read), false)
  | 'f' => return (.filename (← Filename.read), false)
  | 'r' => return (.read (← Filename.read), false)
  | 'w' => return (.write (← Filename.read), false)
  | other => throw (.unknownCommand other)

def readAfter (addresses : AddressList) : Scan Command := do
  match ← Scan.next with
  | none => return { addresses, action := .step }
  | some letter =>
    let (action, print) ← readAction letter
    readEnd
    return { addresses, action, print }

def read : Scan Command := do readAfter (← AddressList.read)

end Command

namespace Global

/-- Reads from the `g` or `x` on. Without a body the lines are printed. -/
def readAfter (addresses : AddressList) : Scan Global := do
  let letter ← Scan.next
  if letter ≠ some 'g' ∧ letter ≠ some 'x' then Scan.malformed (.noGlobal letter)
  else
    Scan.skipBlanks
    let some delimiter ← Scan.next | Scan.malformed .noDelimiter
    let some pattern ← Scan.delimited delimiter | Scan.malformed (.openPattern delimiter)
    let body ← if (← get).isBlank then pure { action := .print } else Command.read
    return { addresses, invert := letter = some 'x', pattern, delimiter, body }

end Global

namespace Statement

def read : Scan Statement := do
  let addresses ← AddressList.read
  match ← Scan.peek with
  | some 'g' | some 'x' => return global (← Global.readAfter addresses)
  | _ => return single (← Command.readAfter addresses)

def parse (line : Text) : Except Failure Statement := (read.on line).1

end Statement

/-! ### Writing -/

namespace Term

def toText : Term → Text
  | line n => Nat.toDigits 10 n
  | current => ['.']
  | last => ['$']
  | search pattern delimiter => delimiter :: (pattern ++ [delimiter])

end Term

namespace Address

/-- An offset with its sign; zero is not written. -/
def offsetText (offset : Int) : Text :=
  if offset = 0 then []
  else (if offset < 0 then '-' else '+') :: Nat.toDigits 10 offset.natAbs

def toText (address : Address) : Text := address.term.toText ++ offsetText address.offset

end Address

def Separator.toText : Separator → Text
  | comma => [',']
  | semicolon => [';']
  | nothing => []

def AddressList.toText (addresses : AddressList) : Text :=
  addresses.flatMap fun (address, separator) => address.toText ++ separator.toText

namespace Substitution

def toText (substitution : Substitution) : Text :=
  let delimiter := substitution.delimiter
  delimiter :: (substitution.pattern ++ delimiter :: (substitution.replacement ++ delimiter ::
    ((if substitution.everywhere then ['g'] else [])
      ++ (if substitution.ignoreCase then ['i'] else []))))

end Substitution

namespace Filename

def escape (name : Text) : Text :=
  name.flatMap fun c => if c = ' ' then ['\\', ' '] else [c]

def toText : Option Text → Text
  | none => []
  | some name => ' ' :: escape name

end Filename

namespace Action

def argumentText : Action → Text
  | move destination => destination.toText
  | substitute substitution => substitution.toText
  | edit name | filename name | read name | write name => Filename.toText name
  | _ => []

def toText (action : Action) : Text :=
  (if action = step then [] else [action.letter]) ++ action.argumentText

end Action

def Command.toText (command : Command) : Text :=
  command.addresses.toText ++ command.action.toText ++ if command.print then ['p'] else []

def Global.toText (global : Global) : Text :=
  global.addresses.toText ++ (if global.invert then 'x' else 'g') :: global.delimiter ::
    (global.pattern ++ global.delimiter :: ' ' :: global.body.toText)

def Statement.toText : Statement → Text
  | single command => command.toText
  | global command => command.toText

end LineEditor
