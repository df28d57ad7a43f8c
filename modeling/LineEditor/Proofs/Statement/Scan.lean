import LineEditor.Statement

/-!
The statements that a line can say: numbers are below their bounds, what stands between delimiters
is escaped so that it stays there, names can be told from the blanks around them, and nothing is
there that has no place on a line. Their numbers, offsets and addresses are read back as they were
written, in front of more text, which is left.
-/

namespace LineEditor

/-- Text that may stand between two of a delimiter. A backslash escapes what comes after it, so
none is the last character, and the delimiter is always escaped. A backslash that is itself the
delimiter only comes doubled. -/
inductive Delimited (delimiter : Char) : Text → Prop where
  | nil : Delimited delimiter []
  | escaped {c : Char} {rest : Text} (doubled : delimiter = '\\' → c = '\\')
      (after : Delimited delimiter rest) : Delimited delimiter ('\\' :: c :: rest)
  | plain {c : Char} {rest : Text} (bare : c ≠ '\\') (other : c ≠ delimiter)
      (after : Delimited delimiter rest) : Delimited delimiter (c :: rest)

def Term.WellFormed : Term → Prop
  | line n => n < lineBound
  | current | last => True
  | search pattern delimiter => (delimiter = '/' ∨ delimiter = '\\') ∧ Delimited delimiter pattern

structure Address.WellFormed (address : Address) : Prop where
  term : address.term.WellFormed
  offset : address.offset.natAbs < offsetBound

/-- Only the last address may have nothing after it; it may have a separator, too. -/
inductive AddressList.WellFormed : AddressList → Prop where
  | nil : WellFormed []
  | last {address : Address} (wellFormed : address.WellFormed) : WellFormed [(address, .nothing)]
  | joined {address : Address} {separator : Separator} {rest : AddressList}
      (wellFormed : address.WellFormed) (joins : separator ≠ .nothing) (after : WellFormed rest) :
      WellFormed ((address, separator) :: rest)

/-- With a backslash for a delimiter, a replacement that is empty or starts with a backslash would
make the delimiter before it a doubled one. -/
structure Substitution.WellFormed (substitution : Substitution) : Prop where
  delimiter : substitution.delimiter ∉ [' ', '\t', '\n']
  pattern : Delimited substitution.delimiter substitution.pattern
  replacement : Delimited substitution.delimiter substitution.replacement
  separate : substitution.delimiter = '\\' →
    ∃ c rest, substitution.replacement = c :: rest ∧ c ≠ '\\'

/-- A space in a name is escaped; a tab cannot be. -/
def Filename.WellFormed : Option Text → Prop
  | none => True
  | some name => name ≠ [] ∧ '\t' ∉ name

namespace Action

def WellFormed : Action → Prop
  | move destination => destination.WellFormed
  | substitute substitution => substitution.WellFormed
  | edit name | filename name | read name | write name => Filename.WellFormed name
  | _ => True

def takesPrint : Action → Bool
  | delete | lineNumber | move _ | substitute _ => true
  | _ => false

end Action

structure Command.WellFormed (command : Command) : Prop where
  addresses : command.addresses.WellFormed
  action : command.action.WellFormed
  print : command.print = true → command.action.takesPrint = true

/-- A body of no text at all would be read as a `p`. -/
structure Global.WellFormed (global : Global) : Prop where
  addresses : global.addresses.WellFormed
  delimiter : isBlank global.delimiter = false
  pattern : Delimited global.delimiter global.pattern
  body : global.body.WellFormed
  notEmpty : global.body.action = .step → global.body.addresses ≠ []

def Statement.WellFormed : Statement → Prop
  | .single command => command.WellFormed
  | .global whole => whole.WellFormed

/-! ### Numbers -/

/-! ### Numbers -/

theorem isDigit_eq (c : Char) : isDigit c = c.isDigit := by
  simp [isDigit, Char.isDigit, Char.le_def, UInt32.le_iff_toNat_le]

theorem digits_isDigit (n : Nat) : ∀ c ∈ Nat.toDigits 10 n, isDigit c = true := by
  intro c member
  rw [isDigit_eq]
  exact Nat.isDigit_of_mem_toDigits (by decide) (by decide) member

theorem decimalValue_toDigits (n : Nat) : decimalValue (Nat.toDigits 10 n) = n := by
  simp [decimalValue]

namespace Scan

/-- Text that does not go on with a character of this kind. -/
def StopsBefore (kind : Char → Bool) (rest : Text) : Prop := ∀ c ∈ rest.head?, kind c = false

theorem StopsBefore.mono {kind other : Char → Bool} {rest : Text} (stops : StopsBefore kind rest)
    (weaker : ∀ c, other c = true → kind c = true) : StopsBefore other rest := by
  intro c first
  have stopped := stops c first
  cases accepted : other c with
  | false => rfl
  | true =>
    rw [weaker c accepted] at stopped
    cases stopped

theorem StopsBefore.dropWhile_eq {kind : Char → Bool} {rest : Text}
    (stops : StopsBefore kind rest) : rest.dropWhile kind = rest := by
  cases rest with
  | nil => rfl
  | cons c rest => exact List.dropWhile_cons_of_neg (by simp [stops c rfl])

theorem StopsBefore.takeWhile_eq {kind : Char → Bool} {rest : Text}
    (stops : StopsBefore kind rest) : rest.takeWhile kind = [] := by
  cases rest with
  | nil => rfl
  | cons c rest => exact List.takeWhile_cons_of_neg (by simp [stops c rfl])

theorem on_number (line : Text) :
    number.on line =
      if line.takeWhile isDigit = [] then (.ok none, line)
      else if decimalValue (line.takeWhile isDigit) < lineBound then
        (.ok (some (decimalValue (line.takeWhile isDigit))), line.dropWhile isDigit)
      else (.error .invalidAddress, line.dropWhile isDigit) := by
  simp only [number, on_bind, on_get]
  split
  · rfl
  · simp only [on_bind, on_modify]
    split <;> rfl

theorem number_digits {digits rest : Text} (notEmpty : digits ≠ [])
    (decimal : ∀ c ∈ digits, isDigit c = true) (stops : StopsBefore isDigit rest) :
    number.on (digits ++ rest) =
      if decimalValue digits < lineBound then (.ok (some (decimalValue digits)), rest)
      else (.error .invalidAddress, rest) := by
  have taken : (digits ++ rest).takeWhile isDigit = digits := by
    rw [List.takeWhile_append_of_pos decimal, stops.takeWhile_eq, List.append_nil]
  have left : (digits ++ rest).dropWhile isDigit = rest := by
    rw [List.dropWhile_append_of_pos decimal, stops.dropWhile_eq]
  rw [on_number, taken, left, if_neg notEmpty]

theorem number_toDigits {n : Nat} {rest : Text} (bound : n < lineBound)
    (stops : StopsBefore isDigit rest) :
    number.on (Nat.toDigits 10 n ++ rest) = (.ok (some n), rest) := by
  rw [number_digits Nat.toDigits_ne_nil (digits_isDigit n) stops, decimalValue_toDigits,
    if_pos bound]

/-! ### Offsets -/

theorem startsOffset_of_stops {rest : Text}
    (stops : StopsBefore (fun c => c = '+' || c = '-') rest) : startsOffset rest = false := by
  match rest with
  | [] | [_] => rfl
  | sign :: digit :: rest =>
    have other : (decide (sign = '+') || decide (sign = '-')) = false := stops sign rfl
    rw [startsOffset, other, Bool.false_and]

theorem startsOffset_toDigits {sign : Char} (isSign : sign = '+' ∨ sign = '-') (n : Nat)
    (rest : Text) : startsOffset (sign :: (Nat.toDigits 10 n ++ rest)) = true := by
  have digit := digits_isDigit n
  cases written : Nat.toDigits 10 n with
  | nil => exact absurd written Nat.toDigits_ne_nil
  | cons first others =>
    rw [written] at digit
    simp only [List.cons_append, startsOffset, digit first List.mem_cons_self, Bool.and_true]
    simpa using isSign

theorem on_offset {sign : Char} {line : Text} (starts : startsOffset (sign :: line) = true) :
    offset.on (sign :: line) =
      match number.on line with
      | (.ok n, rest) =>
        if n.getD 0 < offsetBound then
          (.ok (some (if sign = '-' then -(n.getD 0 : Int) else n.getD 0)), rest)
        else (.error .invalidAddress, rest)
      | (.error failure, rest) => (.error failure, rest) := by
  simp only [offset, on_bind, on_get, starts, if_true, next, on_set, on_pure]
  rcases number.on line with ⟨failure | n, rest⟩
  · rfl
  · simp only [Option.some.injEq]
    split <;> rfl

theorem on_offset_none {line : Text} (none : startsOffset line = false) :
    offset.on line = (.ok .none, line) := by
  simp only [offset, on_bind, on_get, none, Bool.false_eq_true, if_false, on_pure]

theorem offset_offsetText {o : Int} {rest : Text} (bound : o.natAbs < offsetBound)
    (signs : StopsBefore (fun c => c = '+' || c = '-') rest) (digits : StopsBefore isDigit rest) :
    offset.on (Address.offsetText o ++ rest) = (.ok (if o = 0 then none else some o), rest) := by
  by_cases zero : o = 0
  · have none : startsOffset rest = false := startsOffset_of_stops signs
    rw [Address.offsetText, if_pos zero, if_pos zero, List.nil_append, on_offset_none none]
  · have below : o.natAbs < lineBound := Nat.lt_trans bound (by decide)
    have number := number_toDigits below digits
    rw [Address.offsetText, if_neg zero, if_neg zero, List.cons_append]
    by_cases negative : o < 0
    · have starts := startsOffset_toDigits (.inr rfl) o.natAbs rest
      have value : -(o.natAbs : Int) = o := by omega
      rw [if_pos negative, on_offset starts, number]
      dsimp only [Option.getD_some]
      rw [if_pos bound, if_pos rfl, value]
    · have starts := startsOffset_toDigits (.inl rfl) o.natAbs rest
      have value : (o.natAbs : Int) = o := by omega
      rw [if_neg negative, on_offset starts, number]
      dsimp only [Option.getD_some]
      rw [if_pos bound, if_neg (by decide), value]

/-! ### Delimited text -/

theorem cut_append {delimiter : Char} {text rest : Text} (delimited : Delimited delimiter text)
    (apart : delimiter = '\\' → StopsBefore (fun c => c = '\\') rest) :
    cut delimiter (text ++ delimiter :: rest) = some (text, rest) := by
  induction delimited with
  | nil =>
    -- Only here the text after it matters: a second backslash would be taken for an escaped one.
    by_cases backslash : delimiter = '\\'
    · subst backslash
      cases rest with
      | nil => rfl
      | cons c rest =>
        have other : c ≠ '\\' := by simpa using apart rfl c rfl
        rw [List.nil_append, cut, if_pos ⟨rfl, other⟩]
    · rw [List.nil_append, cut, if_pos rfl]
      · simp [backslash]
      · simp [backslash]
  | @escaped c after doubled _ ih =>
    have goes : ¬(delimiter = '\\' ∧ c ≠ '\\') := fun ends => ends.2 (doubled ends.1)
    rw [List.cons_append, List.cons_append, cut, if_neg goes, ih]
    rfl
  | @plain c after bare other _ ih =>
    rw [List.cons_append, cut, if_neg other, ih]
    · rfl
    · simp [bare]
    · simp [bare]

theorem delimited_append {delimiter : Char} {text rest : Text} (escaped : Delimited delimiter text)
    (apart : delimiter = '\\' → StopsBefore (fun c => c = '\\') rest) :
    (delimited delimiter).on (text ++ delimiter :: rest) = (.ok (some text), rest) := by
  rw [on_delimited, cut_append escaped apart]

theorem delimited_of_cut {delimiter : Char} {line taken left : Text}
    (found : cut delimiter line = some (taken, left)) :
    Delimited delimiter taken ∧ (delimiter = '\\' → StopsBefore (fun c => c = '\\') left) := by
  fun_induction cut delimiter line generalizing taken left with
  | case1 => cases found
  | case2 =>
    cases found
    exact ⟨.nil, fun _ c first => by cases first⟩
  | case3 => cases found
  | case4 c rest ends =>
    cases found
    refine ⟨.nil, fun _ other first => ?_⟩
    cases first
    simpa using ends.2
  | case5 c rest goes ih =>
    obtain ⟨⟨inner, after⟩, cutRest, same⟩ := Option.map_eq_some_iff.1 found
    cases same
    obtain ⟨escaped, apart⟩ := ih cutRest
    refine ⟨.escaped (fun backslash => ?_) escaped, apart⟩
    by_cases doubled : c = '\\'
    · exact doubled
    · exact absurd ⟨backslash, doubled⟩ goes
  | case6 rest alone escapes =>
    cases found
    refine ⟨.nil, fun backslash => ?_⟩
    cases rest with
    | nil => exact (alone backslash rfl).elim
    | cons c rest => exact (escapes c rest backslash rfl).elim
  | case7 c rest alone escapes other ih =>
    have bare : c ≠ '\\' := by
      intro backslash
      cases rest with
      | nil => exact alone backslash rfl
      | cons next rest => exact escapes next rest backslash rfl
    obtain ⟨⟨inner, after⟩, cutRest, same⟩ := Option.map_eq_some_iff.1 found
    cases same
    obtain ⟨escaped, apart⟩ := ih cutRest
    exact ⟨.plain bare other escaped, apart⟩

end Scan

/-! ### Addresses -/

open Scan (StopsBefore)

def continuesAddress (c : Char) : Bool := isBlank c || isDigit c || c = '+' || c = '-' || c = '\\'

def continuesAddresses (c : Char) : Bool :=
  continuesAddress c || c = ',' || c = ';' || c = '.' || c = '$' || c = '/'

/-! ### Reading what was written -/

theorem isBlank_of_isDigit {c : Char} (digit : isDigit c = true) : isBlank c = false := by
  by_cases space : c = ' '
  · subst space
    cases digit
  · by_cases tab : c = '\t'
    · subst tab
      cases digit
    · simp [isBlank, space, tab]

namespace Term

theorem toText_cons {term : Term} (wellFormed : term.WellFormed) :
    ∃ c others, term.toText = c :: others ∧ isBlank c = false := by
  cases term with
  | line n =>
    have notEmpty : Nat.toDigits 10 n ≠ [] := Nat.toDigits_ne_nil
    obtain ⟨first, others, written⟩ := List.exists_cons_of_ne_nil notEmpty
    have digit := digits_isDigit n first (written ▸ List.mem_cons_self)
    exact ⟨first, others, written, isBlank_of_isDigit digit⟩
  | current | last => exact ⟨_, _, rfl, rfl⟩
  | search pattern delimiter =>
    refine ⟨_, _, rfl, ?_⟩
    rcases wellFormed.1 with slash | backslash
    · rw [slash]
      rfl
    · rw [backslash]
      rfl

theorem read_toText {term : Term} {rest : Text} (wellFormed : term.WellFormed)
    (digits : StopsBefore isDigit rest) (apart : StopsBefore (fun c => c = '\\') rest) :
    Term.read.on (term.toText ++ rest) = (.ok (some term), rest) := by
  cases term with
  | line n =>
    have number := Scan.number_toDigits wellFormed digits
    have digit := digits_isDigit n
    rw [toText]
    cases written : Nat.toDigits 10 n with
    | nil => exact absurd written Nat.toDigits_ne_nil
    | cons first others =>
      rw [written] at number digit
      rw [List.cons_append] at number ⊢
      simp only [Term.read, Scan.on_bind, Scan.on_get, if_pos (digit first List.mem_cons_self),
        number, Scan.on_pure, Option.map_some]
  | current => rfl
  | last => rfl
  | search pattern delimiter =>
    obtain ⟨kind, escaped⟩ := wellFormed
    have found := Scan.delimited_append escaped fun _ => apart
    have text : (search pattern delimiter).toText ++ rest
        = delimiter :: (pattern ++ delimiter :: rest) := by
      rw [toText, List.cons_append, List.append_assoc]
      rfl
    have other : isDigit delimiter = false ∧ delimiter ≠ '.' ∧ delimiter ≠ '$' := by
      rcases kind with slash | backslash
      · rw [slash]
        decide
      · rw [backslash]
        decide
    rw [text]
    simp only [Term.read, Scan.on_bind, Scan.on_get, other.1, Bool.false_eq_true, if_false,
      if_neg other.2.1, if_neg other.2.2, if_pos kind, Scan.on_set, found, Scan.on_pure]

theorem read_none {rest : Text} (stops : StopsBefore continuesAddresses rest) :
    Term.read.on rest = (.ok none, rest) := by
  cases rest with
  | nil => rfl
  | cons c rest =>
    have other := stops c rfl
    simp only [continuesAddresses, continuesAddress, Bool.or_eq_false_iff, decide_eq_false_iff_not]
      at other
    obtain ⟨⟨⟨⟨⟨⟨⟨⟨⟨_, digit⟩, _⟩, _⟩, backslash⟩, _⟩, _⟩, dot⟩, dollar⟩, slash⟩ := other
    simp only [Term.read, Scan.on_bind, Scan.on_get, digit, Bool.false_eq_true, if_false,
      if_neg dot, if_neg dollar, slash, backslash, or_self, Scan.on_pure]

end Term

theorem Address.offsetText_stops {kind : Char → Bool} (offset : Int) {rest : Text}
    (plus : kind '+' = false) (minus : kind '-' = false) (stops : StopsBefore kind rest) :
    StopsBefore kind (offsetText offset ++ rest) := by
  by_cases zero : offset = 0
  · rw [offsetText, if_pos zero]
    exact stops
  · rw [offsetText, if_neg zero]
    intro c isFirst
    cases isFirst
    split
    · exact minus
    · exact plus

theorem Address.on_read (line : Text) :
    Address.read.on line =
      match Term.read.on (line.dropWhile isBlank) with
      | (.ok none, rest) => (.ok none, rest)
      | (.ok (some term), left) =>
        match Scan.offset.on (left.dropWhile isBlank) with
        | (.ok offset, rest) => (.ok (some { term, offset := offset.getD 0 }), rest)
        | (.error failure, rest) => (.error failure, rest)
      | (.error failure, rest) => (.error failure, rest) := by
  simp only [Address.read, Scan.skipBlanks, Scan.on_bind, Scan.on_modify]
  rcases Term.read.on (line.dropWhile isBlank) with ⟨failure | none | term, left⟩
  · rfl
  · rfl
  · simp only [Scan.on_bind, Scan.on_modify]
    rcases Scan.offset.on (left.dropWhile isBlank) with ⟨failure | offset, rest⟩ <;> rfl

theorem Address.read_toText {address : Address} {rest : Text} (wellFormed : address.WellFormed)
    (stops : StopsBefore continuesAddress rest) :
    Address.read.on (address.toText ++ rest) = (.ok (some address), rest) := by
  have text : address.toText ++ rest
      = address.term.toText ++ (offsetText address.offset ++ rest) := List.append_assoc ..
  have blanks : StopsBefore isBlank rest := stops.mono (by simp +contextual [continuesAddress])
  have digits : StopsBefore isDigit rest := stops.mono (by simp +contextual [continuesAddress])
  have apart : StopsBefore (fun c => c = '\\') rest :=
    stops.mono (by simp +contextual [continuesAddress])
  have signs : StopsBefore (fun c => c = '+' || c = '-') rest :=
    stops.mono (by simp +contextual [continuesAddress])
  have term := Term.read_toText wellFormed.term (offsetText_stops address.offset rfl rfl digits)
    (offsetText_stops address.offset rfl rfl apart)
  have offset := Scan.offset_offsetText wellFormed.offset signs digits
  have value : (if address.offset = 0 then none else some address.offset).getD 0
      = address.offset := by
    split
    · exact Eq.symm ‹_›
    · rfl
  have unblanked : (address.term.toText ++ (offsetText address.offset ++ rest)).dropWhile isBlank
      = address.term.toText ++ (offsetText address.offset ++ rest) := by
    obtain ⟨c, others, written, plain⟩ := Term.toText_cons wellFormed.term
    rw [written, List.cons_append, List.dropWhile_cons_of_neg (by simp [plain])]
  rw [text, Address.on_read, unblanked, term]
  dsimp only
  rw [(offsetText_stops address.offset rfl rfl blanks).dropWhile_eq, offset]
  dsimp only
  rw [value]

theorem Address.read_none {rest : Text} (stops : StopsBefore continuesAddresses rest) :
    Address.read.on rest = (.ok none, rest) := by
  have blanks : StopsBefore isBlank rest :=
    stops.mono (by simp +contextual [continuesAddresses, continuesAddress])
  rw [Address.on_read, blanks.dropWhile_eq, Term.read_none stops]

/-! ### Lists -/

theorem Separator.take_nothing {rest : Text}
    (stops : StopsBefore (fun c => c = ',' || c = ';') rest) : take rest = (nothing, rest) := by
  unfold take
  split
  · cases stops ';' rfl
  · cases stops ',' rfl
  · rfl

theorem Separator.take_none {rest : Text} (stops : StopsBefore continuesAddresses rest) :
    take rest = (nothing, rest) :=
  take_nothing (stops.mono (by simp +contextual [continuesAddresses, or_imp]))

theorem Separator.take_toText {separator : Separator} (joins : separator ≠ .nothing) (rest : Text) :
    take (separator.toText ++ rest) = (separator, rest) := by
  cases separator with
  | comma | semicolon => rfl
  | nothing => exact absurd rfl joins

namespace AddressList

theorem readFrom_none {line rest : Text} (read : Address.read.on line = (.ok none, rest)) :
    readFrom line = (.ok [], rest) := by
  rw [readFrom]
  split <;> rename_i found <;> rw [read] at found <;> cases found
  rfl

theorem readFrom_some {line rest next : Text} {address : Address} {separator : Separator}
    (read : Address.read.on line = (.ok (some address), rest))
    (taken : Separator.take rest = (separator, next)) :
    readFrom line =
      if separator = .nothing then (.ok [(address, .nothing)], next)
      else match readFrom next with
        | (.ok more, rest) => (.ok ((address, separator) :: more), rest)
        | (.error failure, rest) => (.error failure, rest) := by
  rw [readFrom]
  split <;> rename_i found <;> rw [read] at found <;> cases found
  split
  · rename_i same _
    rw [taken] at same
    cases same
    rfl
  · rename_i joins same _
    rw [taken] at same
    cases same
    exact (if_neg joins).symm

theorem readFrom_error {line rest : Text} {failure : Failure}
    (read : Address.read.on line = (.error failure, rest)) :
    readFrom line = (.error failure, rest) := by
  rw [readFrom]
  split <;> rename_i found <;> rw [read] at found <;> cases found
  rfl

-- What is read depends only on what the first address and the text after it are.
theorem readFrom_congr {line other : Text} (same : Address.read.on line = Address.read.on other) :
    readFrom line = readFrom other := by
  rcases read : Address.read.on other with ⟨failure | none | address, rest⟩ <;> rw [read] at same
  · rw [readFrom_error read, readFrom_error same]
  · rw [readFrom_none read, readFrom_none same]
  · rcases taken : Separator.take rest with ⟨separator, next⟩
    rw [readFrom_some read taken, readFrom_some same taken]

theorem readFrom_blank (line : Text) : readFrom (' ' :: line) = readFrom line := by
  apply readFrom_congr
  have skipped : (' ' :: line).dropWhile isBlank = line.dropWhile isBlank := rfl
  rw [Address.on_read, Address.on_read, skipped]

theorem readFrom_toText {addresses : AddressList} {rest : Text} (wellFormed : addresses.WellFormed)
    (stops : StopsBefore continuesAddresses rest) :
    readFrom (addresses.toText ++ rest) = (.ok addresses, rest) := by
  have ends : StopsBefore continuesAddress rest :=
    stops.mono (by simp +contextual [continuesAddresses])
  induction wellFormed with
  | nil => exact readFrom_none (Address.read_none stops)
  | @last address wellFormed =>
    have text : toText [(address, .nothing)] ++ rest = address.toText ++ rest := by
      simp [toText, Separator.toText]
    rw [text]
    rw [readFrom_some (Address.read_toText wellFormed ends) (Separator.take_none stops), if_pos rfl]
  | @joined address separator more wellFormed joins _ ih =>
    have text : toText ((address, separator) :: more) ++ rest
        = address.toText ++ (separator.toText ++ (toText more ++ rest)) := by
      simp [toText]
    have mark : StopsBefore continuesAddress (separator.toText ++ (toText more ++ rest)) := by
      cases separator with
      | comma | semicolon =>
        intro c isFirst
        cases isFirst
        rfl
      | nothing => exact absurd rfl joins
    rw [text]
    rw [readFrom_some (Address.read_toText wellFormed mark) (Separator.take_toText joins _),
      if_neg joins, ih]

end AddressList

end LineEditor
