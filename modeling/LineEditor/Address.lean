import LineEditor.Failure

/-!
Reading a command line from the left, and the addresses in front of a command. A `Scan` sees the
unread part of the line and may consume some of it; what it left unread is known also after a
failure. Addresses are joined by `,` or by `;`, which makes the line current before the next address
is looked up.
-/

namespace LineEditor

abbrev Scan := ExceptT Failure (StateM Text)

/-- Line numbers are below this bound. -/
def lineBound : Nat := UInt64.size

def offsetBound : Nat := Nat.pow 2 63

def decimalValue (digits : List Char) : Nat := Nat.ofDigitChars 10 digits 0

namespace Scan

def on {α : Type} (scan : Scan α) (line : Text) : Except Failure α × Text := scan line

def peek : Scan (Option Char) := return (← get).head?

def next : Scan (Option Char) := do
  match ← get with
  | [] => return none
  | c :: rest =>
    set rest
    return some c

def accept (c : Char) : Scan Bool := do
  match ← get with
  | [] => return false
  | first :: rest =>
    if first = c then
      set rest
      return true
    else return false

def skipBlanks : Scan Unit := modify (·.dropWhile isBlank)

def malformed {α : Type} (what : Malformed) : Scan α := throw (.malformed what)

/-- Consumes the digits that come next, if any; they have to write a number below the bound. -/
def number : Scan (Option Nat) := do
  let digits := (← get).takeWhile isDigit
  if digits = [] then return none
  modify (·.dropWhile isDigit)
  if decimalValue digits < lineBound then return some (decimalValue digits)
  else throw .invalidAddress

def startsOffset : Text → Bool
  | sign :: digit :: _ => (sign = '+' || sign = '-') && isDigit digit
  | _ => false

/-- Consumes `+N` or `-N`. A sign that no digit follows is left alone. -/
def offset : Scan (Option Int) := do
  if startsOffset (← get) then
    let sign ← next
    let magnitude := (← number).getD 0
    if magnitude < offsetBound then
      return some (if sign = some '-' then -(magnitude : Int) else magnitude)
    else throw .invalidAddress
  else return none

/-- Cuts a text at the first `delimiter` that is not escaped: what stands before it, escapes kept,
and what stands after it. With a backslash as the delimiter only a doubled one is escaped. -/
def cut (delimiter : Char) : Text → Option (Text × Text)
  | [] => none
  | ['\\'] => if delimiter = '\\' then some ([], []) else none
  | '\\' :: c :: rest =>
    if delimiter = '\\' ∧ c ≠ '\\' then some ([], c :: rest)
    else (cut delimiter rest).map fun (taken, left) => ('\\' :: c :: taken, left)
  | c :: rest =>
    if c = delimiter then some ([], rest)
    else (cut delimiter rest).map fun (taken, left) => (c :: taken, left)

def delimited (delimiter : Char) : Scan (Option Text) := do
  match cut delimiter (← get) with
  | none => return none
  | some (taken, left) =>
    set left
    return some taken

/-! ### What a scan does to the line -/

theorem on_bind {α β : Type} (scan : Scan α) (f : α → Scan β) (line : Text) :
    (scan >>= f).on line =
      match scan.on line with
      | (.ok a, rest) => (f a).on rest
      | (.error failure, rest) => (.error failure, rest) := by
  simp only [on, bind, ExceptT.bind, ExceptT.mk, ExceptT.bindCont, StateT.bind]
  rcases scan line with ⟨outcome, rest⟩
  cases outcome <;> rfl

theorem on_pure {α : Type} (a : α) (line : Text) : (pure a : Scan α).on line = (.ok a, line) := rfl

theorem on_get (line : Text) : (get : Scan Text).on line = (.ok line, line) := rfl

theorem on_set (rest line : Text) : (set rest : Scan PUnit).on line = (.ok ⟨⟩, rest) := rfl

theorem on_modify (f : Text → Text) (line : Text) :
    (modify f : Scan PUnit).on line = (.ok ⟨⟩, f line) := rfl

theorem on_throw {α : Type} (failure : Failure) (line : Text) :
    (throw failure : Scan α).on line = (.error failure, line) := rfl

theorem on_map {α β : Type} (f : α → β) (scan : Scan α) (line : Text) :
    (f <$> scan).on line =
      match scan.on line with
      | (.ok a, rest) => (.ok (f a), rest)
      | (.error failure, rest) => (.error failure, rest) := by
  rw [map_eq_pure_bind, on_bind]
  rfl

theorem on_delimited (delimiter : Char) (line : Text) :
    (delimited delimiter).on line =
      match cut delimiter line with
      | some (taken, left) => (.ok (some taken), left)
      | none => (.ok none, line) := by
  simp only [delimited, on_bind, on_get]
  split
  · rename_i found
    simp only [found, on_pure]
  · rename_i taken left found
    simp only [found, on_bind, on_set, on_pure]

theorem length_cut {delimiter : Char} {line taken left : Text}
    (found : cut delimiter line = some (taken, left)) : left.length < line.length := by
  fun_induction cut delimiter line generalizing taken left with
  | case1 => simp at found
  | case2 => simp at found; simp [found]
  | case3 => simp at found
  | case4 => simp at found; simp [← found]
  | case5 c rest _ ih =>
    simp only [Option.map_eq_some_iff, Prod.exists] at found
    obtain ⟨t, l, cutRest, same⟩ := found
    have := ih cutRest
    grind
  | case6 => grind
  | case7 c rest _ _ _ ih =>
    simp only [Option.map_eq_some_iff, Prod.exists] at found
    obtain ⟨t, l, cutRest, same⟩ := found
    have := ih cutRest
    grind

def Consumes {α : Type} (scan : Scan α) : Prop :=
  ∀ line, (scan.on line).2.length ≤ line.length

theorem consumes_number : Consumes number := by
  intro line
  have := (List.dropWhile_suffix (l := line) isDigit).length_le
  simp only [number, on_bind, on_get]
  split
  · exact Nat.le_refl _
  · simp only [on_bind, on_modify]
    split <;> exact this

theorem consumes_offset : Consumes offset := by
  intro line
  simp only [offset, on_bind, on_get]
  split
  · rename_i starts
    match line, starts with
    | sign :: digit :: rest, _ =>
      have := consumes_number (digit :: rest)
      simp only [next, on_bind, on_get, on_set, on_pure]
      rcases same : number.on (digit :: rest) with ⟨outcome, left⟩
      rw [same] at this
      cases outcome with
      | error => simp at this ⊢; omega
      | ok found => simp at this ⊢; split <;> simp [on_pure, on_throw] <;> omega
  · exact Nat.le_refl _

theorem length_number {c : Char} (line : Text) (digit : isDigit c = true) :
    (number.on (c :: line)).2.length ≤ line.length := by
  have := (List.dropWhile_suffix (l := line) isDigit).length_le
  simp only [number, on_bind, on_get, List.takeWhile_cons, digit, if_true, reduceCtorEq, if_false,
    on_modify, List.dropWhile_cons]
  split <;> exact this

end Scan

/-! ### Addresses -/

inductive Term where
  | line (n : Nat)
  | current
  | last
  -- Both `/` and a backslash search forward.
  | search (pattern : Text) (delimiter : Char)
  deriving DecidableEq, Repr, Inhabited

structure Address where
  term : Term
  offset : Int := 0
  deriving DecidableEq, Repr, Inhabited

inductive Separator where
  | comma
  | semicolon
  | nothing
  deriving DecidableEq, Repr, Inhabited

abbrev AddressList := List (Address × Separator)

namespace Term

def read : Scan (Option Term) := do
  match ← get with
  | [] => return none
  | c :: rest =>
    if isDigit c then return (← Scan.number).map .line
    else if c = '.' then
      set rest
      return some .current
    else if c = '$' then
      set rest
      return some .last
    else if c = '/' ∨ c = '\\' then
      set rest
      match ← Scan.delimited c with
      | some pattern => return some (.search pattern c)
      | none => Scan.malformed (.openSearch c)
    else return none

end Term

namespace Address

/-- Consumes an address, blanks before it and before its offset included. -/
def read : Scan (Option Address) := do
  Scan.skipBlanks
  match ← Term.read with
  | none => return none
  | some term =>
    Scan.skipBlanks
    return some { term, offset := (← Scan.offset).getD 0 }

end Address

namespace Separator

def take : Text → Separator × Text
  | ';' :: rest => (semicolon, rest)
  | ',' :: rest => (comma, rest)
  | rest => (nothing, rest)

end Separator

/-! ### Reading an address consumes something -/

theorem Term.length_read {line rest : Text} {term : Term}
    (read : Term.read.on line = (.ok (some term), rest)) : rest.length < line.length := by
  match line with
  | [] => simp [Term.read, Scan.on_bind, Scan.on_get, Scan.on_pure] at read
  | c :: line =>
    simp only [Term.read, Scan.on_bind, Scan.on_get] at read
    split at read
    · rename_i digit
      have := Scan.length_number line digit
      rw [Scan.on_bind] at read
      rcases number : Scan.number.on (c :: line) with ⟨_ | n, left⟩ <;> rw [number] at read this
      · simp at read
      · simp only [Scan.on_pure, Prod.mk.injEq] at read
        rw [← read.2]
        exact Nat.lt_succ_of_le this
    · split at read
      · simp only [Scan.on_bind, Scan.on_set, Scan.on_pure] at read
        grind
      · split at read
        · simp only [Scan.on_bind, Scan.on_set, Scan.on_pure] at read
          grind
        · split at read
          · simp only [Scan.on_bind, Scan.on_set, Scan.on_delimited] at read
            cases found : Scan.cut c line with
            | none => simp [found, Scan.malformed, Scan.on_throw] at read
            | some both =>
              have := Scan.length_cut found
              simp only [found, Scan.on_pure] at read
              grind
          · simp [Scan.on_pure] at read

theorem Address.length_read {line rest : Text} {address : Address}
    (read : Address.read.on line = (.ok (some address), rest)) : rest.length < line.length := by
  have blanks := (List.dropWhile_suffix (l := line) isBlank).length_le
  simp only [Address.read, Scan.on_bind, Scan.skipBlanks, Scan.on_modify] at read
  rcases term : Term.read.on (line.dropWhile isBlank) with ⟨_ | t, left⟩ <;> rw [term] at read
  · simp at read
  · cases t with
    | none => simp [Scan.on_pure] at read
    | some t =>
      have shorter := Term.length_read term
      have more := (List.dropWhile_suffix (l := left) isBlank).length_le
      have offset := Scan.consumes_offset (left.dropWhile isBlank)
      simp only [Scan.on_bind, Scan.on_modify] at read
      rcases same : Scan.offset.on (left.dropWhile isBlank) with ⟨_ | o, left⟩ <;>
        rw [same] at read offset
      · simp at read
      · simp only [Scan.on_pure, Prod.mk.injEq] at read
        rw [← read.2]
        exact Nat.lt_of_le_of_lt offset (by omega)

theorem Separator.length_take (line : Text) : (Separator.take line).2.length ≤ line.length := by
  unfold Separator.take
  split <;> simp

namespace AddressList

def readFrom (line : Text) : Except Failure AddressList × Text :=
  match h : Address.read.on line with
  | (.error failure, rest) => (.error failure, rest)
  | (.ok none, rest) => (.ok [], rest)
  | (.ok (some address), rest) =>
    match Separator.take rest,
        Nat.lt_of_le_of_lt (Separator.length_take rest) (Address.length_read h) with
    | (.nothing, rest), _ => (.ok [(address, .nothing)], rest)
    | (separator, next), _ =>
      match readFrom next with
      | (.ok more, rest) => (.ok ((address, separator) :: more), rest)
      | (.error failure, rest) => (.error failure, rest)
termination_by line.length

def read : Scan AddressList := readFrom

end AddressList

end LineEditor
