import LineEditor.Unicode.Property

/-!
Why things go wrong, and how it is worded. A `Refusal` comes from the system, a `Failure` ends a
command; the session goes on after a failure. A `Stop` ends whatever is running: a failure to be
reported, the end of the input, or a slot outside the buffer.
-/

namespace LineEditor

/-! ### Text between quotes -/

namespace Text.Quoted

/-- Control and format characters, private and unassigned ones, separators other than the space,
and the characters that attach to the one before them. -/
def unprintable : CharSet :=
  (CharSet.union (Unicode.ofCategories ["Cc", "Cf", "Cn", "Co", "Zl", "Zp", "Zs"])
    Unicode.graphemeExtend).diff (.singleton ' ')

def escape (quote c : Char) : String :=
  if c = '\x00' then "\\0"
  else if c = '\t' then "\\t"
  else if c = '\r' then "\\r"
  else if c = '\n' then "\\n"
  else if c = '\\' ∨ c = quote then "\\" ++ c.toString
  else if unprintable.contains c then
    "\\u\x7b" ++ String.ofList (Nat.toDigits 16 c.toNat) ++ "\x7d"
  else c.toString

def text (t : Text) : String := "\"" ++ String.join (t.map (escape '"')) ++ "\""

def char (c : Char) : String := "'" ++ escape '\'' c ++ "'"

end Text.Quoted

/-! ### Reasons -/

inductive Refusal where
  | noSuchFile
  | alreadyExists
  | notADirectory
  | isADirectory
  | noSpace
  | nameTooLong
  | nulInName
  | notUtf8
  | described (text : String)
  deriving DecidableEq, Repr, Inhabited

namespace Refusal

/-- The system's wording, with the number it gives to the refusal. -/
def message : Refusal → String
  | noSuchFile => "No such file or directory (os error 2)"
  | alreadyExists => "File exists (os error 17)"
  | notADirectory => "Not a directory (os error 20)"
  | isADirectory => "Is a directory (os error 21)"
  | noSpace => "No space left on device (os error 28)"
  | nameTooLong => "File name too long (os error 36)"
  | nulInName => "file name contained an unexpected NUL byte"
  | notUtf8 => "stream did not contain valid UTF-8"
  | described text => text

end Refusal

inductive Malformed where
  -- A search in an address lacks its closing delimiter.
  | openSearch (delimiter : Char)
  -- A pattern or replacement lacks its closing delimiter.
  | openPattern (delimiter : Char)
  | noDelimiter
  | noDestination
  | noBlankBeforeName
  | trailing (rest : Text)
  | noGlobal (found : Option Char)
  deriving DecidableEq, Repr, Inhabited

namespace Malformed

def message : Malformed → String
  | openSearch delimiter => "Missing closing '" ++ delimiter.toString ++ "' in address"
  | openPattern delimiter => "Missing closing '" ++ delimiter.toString ++ "'"
  | noDelimiter => "Missing pattern delimiter"
  | noDestination => "Missing destination address"
  | noBlankBeforeName => "Expected blank before filename"
  | trailing rest => "Unexpected text: " ++ String.ofList rest
  | noGlobal none => "Expected global command, found None"
  | noGlobal (some c) => "Expected global command, found Some(" ++ Text.Quoted.char c ++ ")"

end Malformed

inductive Failure where
  | invalidAddress
  | invalidRange
  -- The destination of a move lies inside the lines that move.
  | invalidDestination
  | malformed (what : Malformed)
  | unknownCommand (name : Char)
  | notInGlobal (name : Char)
  | badPattern (pattern : Text) (reason : String)
  | noPreviousPattern
  | noMatch
  | noFilename
  | file (path : Text) (cause : Refusal)
  | output (cause : Refusal)
  deriving DecidableEq, Repr, Inhabited

namespace Failure

def message : Failure → String
  | invalidAddress => "Invalid address"
  | invalidRange => "Invalid address range"
  | invalidDestination => "Invalid destination"
  | malformed what => what.message
  | unknownCommand name => "Unknown command: " ++ name.toString
  | notInGlobal name => "Command '" ++ name.toString ++ "' not allowed under a global prefix"
  | badPattern pattern reason => "Invalid pattern '" ++ String.ofList pattern ++ "': " ++ reason
  | noPreviousPattern => "No previous pattern"
  | noMatch => "No match"
  | noFilename => "No current filename"
  | file path cause => String.ofList path ++ ": " ++ cause.message
  | output cause => "Cannot write output: " ++ cause.message

def cause? : Failure → Option Refusal
  | file _ cause | output cause => some cause
  | _ => none

end Failure

inductive Stop where
  | failed (failure : Failure)
  | inputEnded
  | outOfBounds
  deriving DecidableEq, Repr, Inhabited

namespace Stop

def message : Stop → String
  | failed failure => failure.message
  | inputEnded => "Unexpected end of input"
  | outOfBounds => "Line outside the buffer"

def causes : Stop → List String
  | failed failure => failure.message :: failure.cause?.toList.map (·.message)
  | inputEnded | outOfBounds => []

end Stop

end LineEditor
