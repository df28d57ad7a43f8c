import LineEditor.Failure

/-!
Patterns as written between delimiters, and the common notation that regular expressions are read
in, whatever flavor they were written in; and the replacement text of a substitution. How expressions
match is left to an engine.
-/

namespace LineEditor

/-- A compiled expression: the notation it was compiled from, whether it matches somewhere in a text,
and what the text becomes with a template filled in for its first match or for every match. -/
structure Regex where
  source : Text
  isMatch : Text → Bool
  replaceFirst : Text → Text → Text
  replaceAll : Text → Text → Text
  deriving Inhabited

/-- Patterns look at a line without its newline. -/
def Regex.matchesLine (regex : Regex) (line : Text) : Bool := regex.isMatch line.body

/-- Compiles the common notation, with the case of letters ignored or not, or says what is wrong. -/
abbrev Engine := Text → Bool → Except String Regex

inductive Flavor where
  | basic
  | extended
  | perl
  deriving DecidableEq, Repr, Inhabited

namespace Pattern

def isOperator (c : Char) : Bool := ['(', ')', '{', '}', '+', '?', '|'].contains c

/-- The common notation of a pattern in the basic one: its operators lose their backslash, the bare
characters gain one, and both kinds of word edge become the edge of a word. -/
def ofBasic : Text → Text
  | [] => []
  | ['\\'] => ['\\', '\\']
  | '\\' :: c :: rest =>
    if isOperator c then c :: ofBasic rest
    else if c = '<' ∨ c = '>' then '\\' :: 'b' :: ofBasic rest
    else '\\' :: c :: ofBasic rest
  | c :: rest =>
    if isOperator c then '\\' :: c :: ofBasic rest
    else c :: ofBasic rest

def ofFlavor : Flavor → Text → Text
  | .basic, pattern => ofBasic pattern
  | .extended, pattern | .perl, pattern => pattern

/-- The characters that stay escaped when they are the delimiter, so that they stay literal. -/
def isMeta (c : Char) : Bool :=
  ['.', '+', '*', '?', '(', ')', '|', '[', ']', '{', '}', '^', '$', '#', '&', '-', '~'].contains c

def dropEscapes (delimiter : Char) : Text → Text
  | [] => []
  | [c] => [c]
  | c :: c' :: rest =>
    if c = '\\' ∧ c' = delimiter then dropEscapes delimiter (c' :: rest)
    else c :: dropEscapes delimiter (c' :: rest)

/-- The pattern that was written between delimiters. A delimiter that means something in patterns
stays escaped, and so does a backslash. -/
def unescapeDelimiter (pattern : Text) (delimiter : Char) : Text :=
  if delimiter = '\\' ∨ isMeta delimiter then pattern else dropEscapes delimiter pattern

def compile (engine : Engine) (pattern : Text) (flavor : Flavor) (ignoreCase : Bool) :
    Except Failure Regex :=
  match engine (ofFlavor flavor pattern) ignoreCase with
  | .ok regex => .ok regex
  | .error reason => .error (.badPattern pattern reason)

end Pattern

/-- The pattern that was used last; an empty pattern means this one. -/
structure ActivePattern where
  engine : Engine
  flavor : Flavor
  regex : Option Regex := none
  deriving Inhabited

namespace ActivePattern

def current (active : ActivePattern) : Except Failure Regex :=
  match active.regex with
  | some regex => .ok regex
  | none => .error .noPreviousPattern

def use (active : ActivePattern) (pattern : Text) (ignoreCase : Bool) :
    Except Failure (Regex × ActivePattern) :=
  if pattern = [] then active.current.map (·, active)
  else (Pattern.compile active.engine pattern active.flavor ignoreCase).map fun regex =>
    (regex, { active with regex := some regex })

end ActivePattern

/-! ### Replacement texts -/

namespace Template

def group (digit : Char) : Text := ['$', '{', digit, '}']

def dollar : Text := ['$', '$']

def expand (groups : Nat → Text) : Text → Text
  | [] => []
  | '$' :: '$' :: rest => '$' :: expand groups rest
  | '$' :: '{' :: digit :: '}' :: rest => groups (digit.toNat - '0'.toNat) ++ expand groups rest
  | c :: rest => c :: expand groups rest

end Template

namespace Replacement

def isGroup (c : Char) : Bool := '1' ≤ c && c ≤ '9'

/-- The template that says what the replacement says. A backslash makes the character after it
stand for itself, and stands for itself at the end; a dollar before anything else is a dollar. -/
def template : Text → Text
  | [] => []
  | ['\\'] => ['\\']
  | '\\' :: c :: rest =>
    if isGroup c then Template.group c ++ template rest
    else if c = '$' then Template.dollar ++ template rest
    else c :: template rest
  | '&' :: rest => Template.group '0' ++ template rest
  | ['$'] => Template.dollar
  | '$' :: c :: rest =>
    if isGroup c then Template.group c ++ template rest
    else if c = '&' then Template.group '0' ++ template rest
    else if c = '$' then Template.dollar ++ template rest
    else Template.dollar ++ template (c :: rest)
  | c :: rest => c :: template rest

end Replacement

end LineEditor
