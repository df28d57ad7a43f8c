import LineEditor.Output

/-!
Files by path. A path is looked up name by name from the root or from the working directory, and
the first name that cannot be passed decides how the path is refused. What is there may still not
be read, written or entered, and what is written may find too little room.
-/

namespace LineEditor

/-- The names from the root on. -/
abbrev Location := List Text

inductive Entry where
  | file (content : Bytes)
  -- A file that can be read as far as this content goes.
  | torn (content : Bytes) (refusal : Refusal)
  | directory
  -- Holds nothing; what is written to it vanishes, or is refused.
  | sink (refusal : Option Refusal)
  deriving DecidableEq, Repr, Inhabited

inductive Purpose where
  | reading
  | writing
  | entering
  deriving DecidableEq, Repr, Inhabited

structure Files where
  entries : List (Location × Entry)
  working : Location
  -- Why something may not be done, if it may not.
  forbidden : Purpose → Location → Option Refusal := fun _ _ => none
  -- How much of some bytes can be stored, by the number of times that some were stored before.
  storage : Nat → Location → Bytes → Answer := fun _ _ _ => .taken
  deriving Inhabited

namespace Files

def pathLimit : Nat := 4095

def nameLimit : Nat := 255

def isTooLong (name : Text) : Bool := nameLimit < (Utf8.encode name).length

/-- What is at a location; the root is a directory. -/
def find? (files : Files) (location : Location) : Option Entry :=
  if location = [] then some .directory else files.entries.lookup location

def put (files : Files) (location : Location) (entry : Entry) : Files :=
  { files with
    entries := (location, entry) :: files.entries.filter fun (other, _) => other ≠ location }

def look (files : Files) (location : Location) : Except Refusal (Option Entry) :=
  if location.getLast?.any isTooLong then .error .nameTooLong else .ok (files.find? location)

def permit (files : Files) (purpose : Purpose) (location : Location) : Except Refusal Unit :=
  match files.forbidden purpose location with
  | none => .ok ()
  | some refusal => .error refusal

/-- The names on a path go on only in a directory. -/
def enter (files : Files) (location : Location) : Except Refusal Unit := do
  match ← files.look location with
  | some .directory => files.permit .entering location
  | some _ => throw .notADirectory
  | none => throw .noSuchFile

/-- Where a name leads: one dot stays and two dots go back. -/
def step (location : Location) (name : Text) : Location :=
  if name = ['.'] then location
  else if name = ['.', '.'] then location.dropLast
  else location ++ [name]

def follow (files : Files) : Location → List Text → Except Refusal Location
  | location, [] => return location
  | location, name :: rest => do
    files.enter location
    files.follow (step location name) rest

def names (path : Text) : List Text := (path.splitOn '/').filter (· ≠ [])

/-- The location that a path names, and whether a slash after it says that it is a directory. -/
def locate (files : Files) (path : Text) : Except Refusal (Location × Bool) := do
  if path.contains '\x00' then throw .nulInName
  if path = [] then throw .noSuchFile
  if pathLimit < (Utf8.encode path).length then throw .nameTooLong
  let start := if path.head? = some '/' then [] else files.working
  return (← files.follow start (names path), path.getLast? = some '/')

def openEntry (files : Files) (path : Text) : Except Refusal Entry := do
  let (location, slash) ← files.locate path
  match ← files.look location with
  | none => throw .noSuchFile
  | some entry =>
    if slash ∧ entry ≠ .directory then throw .notADirectory
    files.permit .reading location
    return entry

end Files

/-- The bytes that can be read, and why the reading ends before the end of the file, if it does. A
directory opens, but does not read. -/
def Entry.content : Entry → Bytes × Option Refusal
  | file content => (content, none)
  | torn content refusal => (content, some refusal)
  | directory => ([], some .isADirectory)
  | sink _ => ([], none)

def Entry.read (entry : Entry) : Except Refusal Bytes :=
  match entry.content with
  | (content, none) => .ok content
  | (_, some refusal) => .error refusal

namespace Files

def read (files : Files) (path : Text) : Except Refusal Bytes := do
  (← files.openEntry path).read

def pathExists (files : Files) (path : Text) : Bool :=
  match files.locate path with
  | .ok (location, _) => (files.find? location).isSome
  | .error _ => false

def isDirectory (files : Files) (path : Text) : Bool :=
  match files.locate path with
  | .ok (location, _) =>
    match files.look location with
    | .ok (some .directory) => true
    | _ => false
  | .error _ => false

/-! ### Writing -/

/-- Where a path leads that is opened for writing, and what is there, if it is there already. -/
def target (files : Files) (path : Text) : Except Refusal (Location × Option Entry) := do
  let (location, slash) ← files.locate path
  if slash then throw .isADirectory
  match ← files.look location with
  | some .directory => throw .isADirectory
  | entry =>
    files.permit .writing location
    return (location, entry)

def store (files : Files) (location : Location) (content : Bytes) : Except Refusal Unit × Files :=
  if content = [] then (.ok (), files.put location (.file []))
  else
    let rest := { files with storage := fun count => files.storage (count + 1) }
    match files.storage 0 location content with
    | .taken => (.ok (), rest.put location (.file content))
    | .refused count cause => (.error cause, rest.put location (.file (content.take count)))

/-- Makes these bytes the content of a file, which is created if it is not there. Where not all of
them can be stored the file holds the others. -/
def write (files : Files) (path : Text) (content : Bytes) : Except Refusal Unit × Files :=
  match files.target path with
  | .error refusal => (.error refusal, files)
  | .ok (_, some (.sink none)) => (.ok (), files)
  | .ok (_, some (.sink (some refusal))) => (if content = [] then .ok () else .error refusal, files)
  | .ok (location, _) => files.store location content

/-- Opens a file to write behind what it holds, and creates it if it is not there. -/
def touch (files : Files) (path : Text) : Except Refusal Files := do
  match ← files.target path with
  | (location, none) => return files.put location (.file [])
  | (_, some _) => return files

/-! ### Directories -/

def makeDirectory (files : Files) (path : Text) : Except Refusal Files := do
  let (location, _) ← files.locate path
  match ← files.look location with
  | some _ => throw .alreadyExists
  | none =>
    files.permit .writing location
    return files.put location .directory

def ensureDirectory (files : Files) (path : Text) : Except Refusal Unit × Files :=
  match files.makeDirectory path with
  | .ok made => (.ok (), made)
  | .error refusal => (if files.isDirectory path then .ok () else .error refusal, files)

def parent (path : Text) : Text :=
  ((path.reverse.dropWhile (· = '/')).dropWhile (· ≠ '/')).reverse

theorem length_parent_lt {path : Text} (notEmpty : path ≠ []) :
    (parent path).length < path.length := by
  have length : path.length = path.reverse.length := List.length_reverse.symm
  rw [parent, List.length_reverse, length]
  have some : path.reverse ≠ [] := List.reverse_ne_nil_iff.2 notEmpty
  cases reversed : path.reverse with
  | nil => exact absurd reversed some
  | cons c front =>
    rw [List.length_cons, Nat.lt_succ_iff]
    by_cases slash : c = '/'
    · rw [List.dropWhile_cons_of_pos (by simpa using slash)]
      exact ((List.dropWhile_suffix _).trans (List.dropWhile_suffix _)).length_le
    · rw [List.dropWhile_cons_of_neg (by simpa using slash),
        List.dropWhile_cons_of_pos (by simpa using slash)]
      exact (List.dropWhile_suffix _).length_le

/-- Makes a directory, and those that it is to be in. What was made by the time that one is refused
stays. -/
def createDirectory (files : Files) (path : Text) : Except Refusal Unit × Files :=
  if path = [] then (.ok (), files)
  else
    match files.makeDirectory path with
    | .error .noSuchFile =>
      match files.createDirectory (parent path) with
      | (.ok _, files) => files.ensureDirectory path
      | (.error refusal, files) => (.error refusal, files)
    | _ => files.ensureDirectory path
termination_by path.length
decreasing_by exact length_parent_lt ‹_›

/-! ### Files found elsewhere -/

def passed (location : Location) : List Text → List Location
  | [] => []
  | name :: rest => location :: passed (step location name) rest

/-- The entries that were found at these paths, and the directories on the way to them. -/
def ofPaths (found : List (Text × Option Entry)) : Files :=
  let entries := found.filterMap fun (path, entry) => entry.map ((names path).foldl step [], ·)
  let directories := found.flatMap fun (path, _) => (passed [] (names path)).map (·, .directory)
  { entries := entries ++ directories, working := [] }

end Files

end LineEditor
