import LineEditor.Proofs.Statement.Accepted

/-!
Blanks between the addresses of a command and its letter. They are skipped after a term, since an
offset may follow, and after a separator, since a term may follow. After an offset nothing skips
them, and a blank is no letter of a command.
-/

namespace LineEditor

open Scan (StopsBefore)

theorem eq_of_isBlank {c : Char} (blank : isBlank c = true) : c = ' ' ∨ c = '\t' := by
  simpa [isBlank] using blank

/-! ### Offsets at the end of a text -/

/-- A sign and digits, and nothing else. -/
def isOffset : Text → Bool
  | sign :: digit :: rest => (sign = '+' || sign = '-') && (digit :: rest).all isDigit
  | _ => false

def endsInOffset (text : Text) : Bool := text.tails.any isOffset

def writesOffset (c : Char) : Bool := isDigit c || c = '+' || c = '-'

theorem endsInOffset_iff {text : Text} :
    endsInOffset text = true ↔ ∃ written, written <:+ text ∧ isOffset written = true := by
  simp [endsInOffset, List.any_eq_true, List.mem_tails]

theorem writesOffset_of_isBlank {c : Char} (blank : isBlank c = true) : writesOffset c = false := by
  rcases eq_of_isBlank blank with rfl | rfl <;> rfl

theorem writesOffset_of_isOffset {written : Text} (offset : isOffset written = true) :
    ∀ c ∈ written, writesOffset c = true := by
  match written, offset with
  | sign :: digit :: rest, offset =>
    simp only [isOffset, Bool.and_eq_true, List.all_eq_true] at offset
    intro c member
    rcases List.mem_cons.1 member with same | member
    · subst same
      simpa [writesOffset, or_assoc] using Or.inr offset.1
    · simp [writesOffset, offset.2 c member]

-- An offset does not reach back over a character that it is not written with.
theorem endsInOffset_append_cons {c : Char} (other : writesOffset c = false) (front rest : Text) :
    endsInOffset (front ++ c :: rest) = endsInOffset rest := by
  rw [Bool.eq_iff_iff, endsInOffset_iff, endsInOffset_iff]
  constructor
  · rintro ⟨written, suffix, offset⟩
    have notThere : c ∉ written := by
      intro member
      simp [writesOffset_of_isOffset offset c member] at other
    rcases List.suffix_or_suffix_of_suffix suffix (List.suffix_append front (c :: rest))
      with inside | reaches
    · rcases List.suffix_cons_iff.1 inside with rfl | inside
      · exact absurd List.mem_cons_self notThere
      · exact ⟨written, inside, offset⟩
    · exact absurd (reaches.subset List.mem_cons_self) notThere
  · rintro ⟨written, suffix, offset⟩
    have behind : rest <:+ front ++ c :: rest :=
      (List.suffix_cons c rest).trans (List.suffix_append front _)
    exact ⟨written, suffix.trans behind, offset⟩

theorem not_endsInOffset_of_unsigned {text : Text} (unsigned : ∀ c ∈ text, c ≠ '+' ∧ c ≠ '-') :
    endsInOffset text = false := by
  cases ends : endsInOffset text with
  | false => rfl
  | true =>
    obtain ⟨written, suffix, offset⟩ := endsInOffset_iff.1 ends
    match written, offset with
    | sign :: digit :: rest, offset =>
      have other := unsigned sign (suffix.subset List.mem_cons_self)
      simp [isOffset, other] at offset

/-! ### Reading with more text behind -/

namespace Scan

section
variable {kind : Char → Bool} {line more : Text}

theorem takeWhile_append (stops : line.dropWhile kind = [] → StopsBefore kind more) :
    (line ++ more).takeWhile kind = line.takeWhile kind := by
  induction line with
  | nil => exact (stops rfl).takeWhile_eq
  | cons c line ih =>
    by_cases same : kind c = true
    · have rest := ih (by simpa [same] using stops)
      simp [same, rest]
    · simp [same]

theorem dropWhile_append (stops : line.dropWhile kind = [] → StopsBefore kind more) :
    (line ++ more).dropWhile kind = line.dropWhile kind ++ more := by
  induction line with
  | nil => exact (stops rfl).dropWhile_eq
  | cons c line ih =>
    by_cases same : kind c = true
    · have rest := ih (by simpa [same] using stops)
      simp [same, rest]
    · simp [same]

end

variable {line rest more : Text}

theorem left_of_number {n : Option Nat} (read : number.on line = (.ok n, rest)) :
    rest = line.dropWhile isDigit := by
  rw [on_number] at read
  split at read
  · rename_i none
    cases read
    have whole := List.takeWhile_append_dropWhile (p := isDigit) (l := line)
    rw [none, List.nil_append] at whole
    exact whole.symm
  · split at read
    · cases read
      rfl
    · cases read

-- What stands behind matters only where everything before it was read.
theorem number_append {n : Option Nat} (read : number.on line = (.ok n, rest))
    (stops : rest = [] → StopsBefore isDigit more) :
    number.on (line ++ more) = (.ok n, rest ++ more) := by
  have left := left_of_number read
  rw [left] at stops
  rw [on_number] at read ⊢
  rw [takeWhile_append stops, dropWhile_append stops, ← left]
  split at read
  · rename_i none
    cases read
    rw [if_pos none]
  · rename_i some
    rw [if_neg some]
    split at read
    · rename_i below
      cases read
      rw [if_pos below]
    · cases read

theorem cut_append_more {delimiter : Char} {taken : Text}
    (found : cut delimiter line = some (taken, rest))
    (stops : rest = [] → StopsBefore (fun c => c = '\\') more) :
    cut delimiter (line ++ more) = some (taken, rest ++ more) := by
  obtain ⟨escaped, apart⟩ := delimited_of_cut found
  rw [cut_eq found, List.append_assoc, List.cons_append]
  apply cut_append escaped
  intro backslash
  cases rest with
  | nil => exact stops rfl
  | cons c rest => exact apart backslash

theorem offset_append (more : Text) {o : Option Int} (read : offset.on line = (.ok o, rest))
    (signs : StopsBefore (fun c => c = '+' || c = '-') (rest ++ more))
    (digits : rest = [] → StopsBefore isDigit more) :
    offset.on (line ++ more) = (.ok o, rest ++ more) := by
  cases starts : startsOffset line with
  | false =>
    rw [on_offset_none starts] at read
    cases read
    exact on_offset_none (startsOffset_of_stops signs)
  | true =>
    match line, starts with
    | sign :: digit :: line, starts =>
      have behind : startsOffset (sign :: (digit :: line ++ more)) = true := starts
      rw [on_offset starts] at read
      rcases number : number.on (digit :: line) with ⟨failure | n, left⟩ <;> rw [number] at read
      · cases read
      · dsimp only at read
        split at read
        · rename_i below
          cases read
          have further := number_append number digits
          rw [List.cons_append, on_offset behind, further]
          dsimp only
          rw [if_pos below]
        · cases read

end Scan

theorem Term.read_append {line rest : Text} {term : Term} (more : Text)
    (read : Term.read.on line = (.ok (some term), rest))
    (digits : rest = [] → StopsBefore isDigit more)
    (apart : rest = [] → StopsBefore (fun c => c = '\\') more) :
    Term.read.on (line ++ more) = (.ok (some term), rest ++ more) := by
  cases line with
  | nil => simp [Term.read, Scan.on_bind, Scan.on_get, Scan.on_pure] at read
  | cons c line =>
    simp only [Term.read, List.cons_append, Scan.on_bind, Scan.on_get] at read ⊢
    by_cases digit : isDigit c = true
    · simp only [if_pos digit, Scan.on_bind] at read ⊢
      rcases number : Scan.number.on (c :: line) with ⟨failure | n, left⟩ <;> rw [number] at read
      · cases read
      · simp only [Scan.on_pure, Prod.mk.injEq] at read
        have further := Scan.number_append number (read.2 ▸ digits)
        rw [List.cons_append] at further
        simp [further, Scan.on_pure, read]
    · by_cases dot : c = '.'
      · simp only [if_neg digit, if_pos dot, Scan.on_bind, Scan.on_set, Scan.on_pure] at read ⊢
        cases read
        rfl
      · by_cases dollar : c = '$'
        · simp only [if_neg digit, if_neg dot, if_pos dollar, Scan.on_bind, Scan.on_set,
            Scan.on_pure] at read ⊢
          cases read
          rfl
        · by_cases search : c = '/' ∨ c = '\\'
          · simp only [if_neg digit, if_neg dot, if_neg dollar, if_pos search, Scan.on_bind,
              Scan.on_set, Scan.on_delimited] at read ⊢
            cases found : Scan.cut c line with
            | none => simp [found, Scan.malformed, Scan.on_throw] at read
            | some both =>
              obtain ⟨taken, left⟩ := both
              simp only [found, Scan.on_pure] at read
              cases read
              simp only [Scan.cut_append_more found apart, Scan.on_pure]
          · simp [if_neg digit, if_neg dot, if_neg dollar, if_neg search, Scan.on_pure] at read

/-! ### Addresses with more text behind -/

namespace Address
variable {line rest more : Text} {address : Address}

theorem exists_of_read (read : Address.read.on line = (.ok (some address), rest)) :
    ∃ left offset, Term.read.on (line.dropWhile isBlank) = (.ok (some address.term), left)
      ∧ Scan.offset.on (left.dropWhile isBlank) = (.ok offset, rest)
      ∧ offset.getD 0 = address.offset := by
  rw [on_read] at read
  rcases term : Term.read.on (line.dropWhile isBlank) with ⟨failure | none | found, left⟩ <;>
    rw [term] at read
  · cases read
  · cases read
  · dsimp only at read
    rcases offset : Scan.offset.on (left.dropWhile isBlank) with ⟨failure | o, after⟩ <;>
      rw [offset] at read
    · cases read
    · cases read
      exact ⟨left, o, rfl, offset, rfl⟩

end Address

-- A term that goes to the end of the line ends as no offset does.
theorem Term.ends_of_read {line : Text} {term : Term}
    (read : Term.read.on line = (.ok (some term), [])) :
    (∀ c ∈ line, isDigit c = true) ∨ ∃ front c, line = front ++ [c] ∧ writesOffset c = false := by
  cases line with
  | nil => simp [Term.read, Scan.on_bind, Scan.on_get, Scan.on_pure] at read
  | cons c line =>
    simp only [Term.read, Scan.on_bind, Scan.on_get] at read
    split at read
    · left
      rw [Scan.on_bind] at read
      rcases number : Scan.number.on (c :: line) with ⟨failure | n, left⟩ <;> rw [number] at read
      · cases read
      · simp only [Scan.on_pure, Prod.mk.injEq] at read
        have none := Scan.left_of_number number
        rw [read.2] at none
        simpa using none.symm
    · right
      split at read
      · rename_i dot
        simp only [Scan.on_bind, Scan.on_set, Scan.on_pure] at read
        cases read
        exact ⟨[], c, rfl, by rw [dot]; rfl⟩
      · split at read
        · rename_i dollar
          simp only [Scan.on_bind, Scan.on_set, Scan.on_pure] at read
          cases read
          exact ⟨[], c, rfl, by rw [dollar]; rfl⟩
        · split at read
          · rename_i search
            simp only [Scan.on_bind, Scan.on_set, Scan.on_delimited] at read
            cases found : Scan.cut c line with
            | none => simp [found, Scan.malformed, Scan.on_throw] at read
            | some both =>
              obtain ⟨taken, left⟩ := both
              simp only [found, Scan.on_pure] at read
              cases read
              have whole := Scan.cut_eq found
              refine ⟨c :: taken, c, by rw [whole]; rfl, ?_⟩
              rcases search with slash | backslash
              · rw [slash]
                rfl
              · rw [backslash]
                rfl
          · simp [Scan.on_pure] at read

theorem Term.suffix_of_read {line left : Text} {term : Option Term}
    (read : Term.read.on line = (.ok term, left)) : left <:+ line := by
  have after := Term.read_leaves line
  rwa [show Term.read.run line = (.ok term, left) from read] at after

theorem isBlank_of_dropWhile_nil {text : Text} (nothing : text.dropWhile isBlank = []) :
    ∀ c ∈ text, isBlank c = true := by
  simpa using nothing

namespace Address
variable {line rest more : Text} {address : Address}

theorem not_endsInOffset {term : Term} {left : Text}
    (termed : Term.read.on (line.dropWhile isBlank) = (.ok (some term), left))
    (blank : left.dropWhile isBlank = []) : endsInOffset line = false := by
  have whole := List.takeWhile_append_dropWhile (p := isBlank) (l := line)
  rcases left.eq_nil_or_concat' with rfl | ⟨front, c, rfl⟩
  · rcases Term.ends_of_read termed with digits | ⟨front, c, same, other⟩
    · apply not_endsInOffset_of_unsigned
      intro c member
      rw [← whole] at member
      rcases List.mem_append.1 member with before | inside
      · rcases eq_of_isBlank (List.mem_takeWhile_imp before) with rfl | rfl <;> decide
      · have digit := digits c inside
        constructor
        · rintro rfl
          cases digit
        · rintro rfl
          cases digit
    · rw [← whole, same, ← List.append_assoc]
      exact endsInOffset_append_cons other _ []
  · obtain ⟨before, same⟩ := (Term.suffix_of_read termed).trans (List.dropWhile_suffix _)
    have last := isBlank_of_dropWhile_nil blank c (by simp)
    rw [← same, ← List.append_assoc]
    exact endsInOffset_append_cons (writesOffset_of_isBlank last) _ []

theorem endsInOffset_of_some {term : Term} {left : Text} {offset : Option Int}
    (termed : Term.read.on (line.dropWhile isBlank) = (.ok (some term), left))
    (offsetted : Scan.offset.on (left.dropWhile isBlank) = (.ok offset, []))
    (notBlank : left.dropWhile isBlank ≠ []) : endsInOffset line = true := by
  have suffix : left.dropWhile isBlank <:+ line :=
    (List.dropWhile_suffix _).trans
      ((Term.suffix_of_read termed).trans (List.dropWhile_suffix _))
  refine endsInOffset_iff.2 ⟨_, suffix, ?_⟩
  cases starts : Scan.startsOffset (left.dropWhile isBlank) with
  | false =>
    rw [Scan.on_offset_none starts] at offsetted
    simp only [Prod.mk.injEq] at offsetted
    exact absurd offsetted.2 notBlank
  | true =>
    match written : left.dropWhile isBlank, starts with
    | sign :: digit :: rest, starts =>
      rw [written, Scan.on_offset starts] at offsetted
      rcases number : Scan.number.on (digit :: rest) with ⟨failure | n, after⟩ <;>
        rw [number] at offsetted
      · cases offsetted
      · have none := Scan.left_of_number number
        dsimp only at offsetted
        split at offsetted
        · cases offsetted
          have digits : ∀ c ∈ digit :: rest, isDigit c = true := by simpa using none.symm
          simp only [Scan.startsOffset, Bool.and_eq_true] at starts
          simp only [isOffset, starts.1, Bool.true_and, List.all_eq_true]
          exact digits
        · cases offsetted

-- Where something is left, what stands behind it makes no difference.
theorem read_append (more : Text) (read : Address.read.on line = (.ok (some address), rest))
    (left : rest ≠ []) (signs : StopsBefore (fun c => c = '+' || c = '-') rest) :
    Address.read.on (line ++ more) = (.ok (some address), rest ++ more) := by
  obtain ⟨after, offset, termed, offsetted, value⟩ := exists_of_read read
  have notBlank : after.dropWhile isBlank ≠ [] := by
    intro blank
    rw [blank, Scan.on_offset_none rfl] at offsetted
    cases offsetted
    exact left rfl
  have someAfter : after ≠ [] := by
    rintro rfl
    exact notBlank rfl
  have someLine : line.dropWhile isBlank ≠ [] := by
    intro blank
    rw [blank] at termed
    cases termed
  have signsBehind : StopsBefore (fun c => c = '+' || c = '-') (rest ++ more) := by
    obtain ⟨c, others, same⟩ := List.exists_cons_of_ne_nil left
    rw [same] at signs ⊢
    exact signs
  have term := Term.read_append more termed
    (fun none => absurd none someAfter) fun none => absurd none someAfter
  rw [← Scan.dropWhile_append fun none => absurd none someLine] at term
  have offset := Scan.offset_append more offsetted signsBehind fun none => absurd none left
  rw [← Scan.dropWhile_append fun none => absurd none notBlank] at offset
  rw [on_read, term]
  dsimp only
  rw [offset]
  dsimp only
  rw [value]

theorem stopsBefore_of_dropWhile {kind : Char → Bool} {text : Text} (space : kind ' ' = false)
    (tab : kind '\t' = false) (stops : StopsBefore kind (text.dropWhile isBlank)) :
    StopsBefore kind text := by
  cases text with
  | nil => nofun
  | cons c text =>
    intro first isFirst
    cases isFirst
    by_cases blank : isBlank c = true
    · rcases eq_of_isBlank blank with rfl | rfl
      · exact space
      · exact tab
    · rw [List.dropWhile_cons_of_neg blank] at stops
      exact stops c rfl

-- Where nothing is left, blanks behind it are taken for those in front of an offset.
theorem read_append_whole (read : Address.read.on line = (.ok (some address), []))
    (stops : StopsBefore continuesAddresses (more.dropWhile isBlank)) :
    Address.read.on (line ++ more)
      = (.ok (some address), if endsInOffset line then more else more.dropWhile isBlank) := by
  obtain ⟨after, offset, termed, offsetted, value⟩ := exists_of_read read
  have someLine : line.dropWhile isBlank ≠ [] := by
    intro blank
    rw [blank] at termed
    cases termed
  have digits : StopsBefore isDigit more :=
    stopsBefore_of_dropWhile rfl rfl
      (stops.mono (by simp +contextual [continuesAddresses, continuesAddress]))
  have signsAfter : StopsBefore (fun c => c = '+' || c = '-') (more.dropWhile isBlank) :=
    stops.mono (by simp +contextual [continuesAddresses, continuesAddress, or_imp])
  have signs : StopsBefore (fun c => c = '+' || c = '-') more :=
    stopsBefore_of_dropWhile rfl rfl signsAfter
  have apart : StopsBefore (fun c => c = '\\') more :=
    stopsBefore_of_dropWhile rfl rfl
      (stops.mono (by simp +contextual [continuesAddresses, continuesAddress]))
  have term := Term.read_append more termed (fun _ => digits) fun _ => apart
  rw [← Scan.dropWhile_append fun none => absurd none someLine] at term
  by_cases blank : after.dropWhile isBlank = []
  · rw [not_endsInOffset termed blank]
    have skipped : (after ++ more).dropWhile isBlank = more.dropWhile isBlank := by
      rw [List.dropWhile_append, blank]
      rfl
    rw [blank, Scan.on_offset_none rfl] at offsetted
    cases offsetted
    have offset : Scan.offset.on ((after ++ more).dropWhile isBlank)
        = (.ok none, more.dropWhile isBlank) := by
      rw [skipped]
      exact Scan.on_offset_none (Scan.startsOffset_of_stops signsAfter)
    rw [on_read, term]
    dsimp only
    rw [offset]
    dsimp only
    rw [value]
    rfl
  · rw [endsInOffset_of_some termed offsetted blank]
    have offset := Scan.offset_append more offsetted signs fun _ => digits
    rw [← Scan.dropWhile_append fun none => absurd none blank] at offset
    rw [on_read, term]
    dsimp only
    rw [offset]
    dsimp only
    rw [value]
    rfl

theorem read_append_none (read : Address.read.on line = (.ok none, []))
    (stops : StopsBefore continuesAddresses (more.dropWhile isBlank)) :
    Address.read.on (line ++ more) = (.ok none, more.dropWhile isBlank) := by
  have blank : line.dropWhile isBlank = [] := (Address.read_ensures none [] read).symm
  have skipped : (line ++ more).dropWhile isBlank = more.dropWhile isBlank := by
    rw [List.dropWhile_append, blank]
    rfl
  rw [on_read, skipped, Term.read_none stops]

end Address

namespace Separator

theorem left_of_take {left next : Text} (taken : take left = (nothing, next)) : next = left := by
  unfold take at taken
  split at taken
  · cases taken
  · cases taken
  · cases taken
    rfl

theorem exists_of_take {left next : Text} {separator : Separator}
    (taken : take left = (separator, next)) (joins : separator ≠ nothing) :
    ∃ c, left = c :: next ∧ (c = ';' ∨ c = ',') := by
  unfold take at taken
  split at taken
  · cases taken
    exact ⟨';', rfl, .inl rfl⟩
  · cases taken
    exact ⟨',', rfl, .inr rfl⟩
  · cases taken
    exact absurd rfl joins

theorem take_append {left next : Text} {separator : Separator}
    (taken : take left = (separator, next)) (joins : separator ≠ nothing) (more : Text) :
    take (left ++ more) = (separator, next ++ more) := by
  obtain ⟨c, rfl, rfl | rfl⟩ := exists_of_take taken joins
  · cases taken
    rfl
  · cases taken
    rfl

end Separator

theorem Address.endsInOffset_of_joined {line next : Text} {address : Option Address} {c : Char}
    (read : Address.read.on line = (.ok address, c :: next)) (mark : c = ';' ∨ c = ',') :
    endsInOffset line = endsInOffset next := by
  have suffix := Address.read_leaves line
  rw [show Address.read.run line = (.ok address, c :: next) from read] at suffix
  obtain ⟨front, rfl⟩ := suffix
  apply endsInOffset_append_cons
  rcases mark with rfl | rfl <;> rfl

namespace AddressList

-- The last address of a list decides where the blanks behind the list go.
theorem readFrom_append {line more : Text} {addresses : AddressList}
    (read : readFrom line = (.ok addresses, []))
    (stops : StopsBefore continuesAddresses (more.dropWhile isBlank)) :
    readFrom (line ++ more)
      = (.ok addresses, if endsInOffset line then more else more.dropWhile isBlank) := by
  induction length : line.length using Nat.strongRecOn generalizing line addresses with
  | ind n ih =>
    rcases found : Address.read.on line with ⟨failure | none | address, left⟩
    · rw [readFrom_error found] at read
      cases read
    · rw [readFrom_none found] at read
      cases read
      have blank := isBlank_of_dropWhile_nil (Address.read_ensures none [] found).symm
      have unsigned : endsInOffset line = false := by
        apply not_endsInOffset_of_unsigned
        intro c member
        rcases eq_of_isBlank (blank c member) with rfl | rfl <;> decide
      rw [readFrom_none (Address.read_append_none found stops), unsigned]
      rfl
    · rcases taken : Separator.take left with ⟨separator, next⟩
      rw [readFrom_some found taken] at read
      by_cases alone : separator = .nothing
      · rw [if_pos alone] at read
        cases read
        subst alone
        cases Separator.left_of_take taken
        have whole := Address.read_append_whole found stops
        have separators : StopsBefore (fun c => c = ',' || c = ';')
            (if endsInOffset line then more else more.dropWhile isBlank) := by
          have after : StopsBefore (fun c => c = ',' || c = ';') (more.dropWhile isBlank) :=
            stops.mono (by simp +contextual [continuesAddresses, or_imp])
          split
          · exact Address.stopsBefore_of_dropWhile rfl rfl after
          · exact after
        rw [readFrom_some whole (Separator.take_nothing separators), if_pos rfl]
      · rw [if_neg alone] at read
        obtain ⟨c, rfl, mark⟩ := Separator.exists_of_take taken alone
        have shorter : next.length < line.length :=
          Nat.lt_of_succ_lt (Address.length_read found)
        have notSign : StopsBefore (fun c => c = '+' || c = '-') (c :: next) := by
          intro first isFirst
          cases isFirst
          rcases mark with rfl | rfl <;> rfl
        have further := Address.read_append more found (List.cons_ne_nil c next) notSign
        have takenMore := Separator.take_append taken alone more
        have sameEnd := Address.endsInOffset_of_joined found mark
        rcases others : readFrom next with ⟨failure | list, last⟩
        · rw [others] at read
          cases read
        · rw [others] at read
          cases read
          have after := ih next.length (length ▸ shorter) others rfl
          rw [readFrom_some further takenMore, if_neg alone, after, sameEnd]

end AddressList

/-! ### Commands -/

namespace Command

theorem readAction_stops {letter : Char} {line : Text} :
    Scan.Ensures (readAction letter) line fun _ _ => continuesAddresses letter = false := by
  unfold readAction
  split
  case h_17 => exact Scan.ensures_throw _
  all_goals exact fun _ _ _ => rfl

theorem stops_of_readAfter {addresses : AddressList} {line rest : Text} {command : Command}
    (read : (readAfter addresses).on line = (.ok command, rest)) :
    StopsBefore continuesAddresses line := by
  cases line with
  | nil => nofun
  | cons letter line =>
    intro c isFirst
    cases isFirst
    simp only [readAfter, Scan.next, Scan.on_bind, Scan.on_get, Scan.on_set, Scan.on_pure] at read
    rcases action : (readAction letter).on line with ⟨failure | found, left⟩
    · rw [action] at read
      cases read
    · exact readAction_stops found left action

theorem on_readAfter (addresses : AddressList) (line : Text) :
    (readAfter addresses).on line
      = ((fun command => { command with addresses }) <$> readAfter []).on line := by
  cases line with
  | nil => rfl
  | cons letter line =>
    simp only [Scan.on_map, readAfter, Scan.next, Scan.on_bind, Scan.on_get, Scan.on_set,
      Scan.on_pure]
    rcases (readAction letter).on line with ⟨failure | read, rest⟩
    · rfl
    · dsimp only
      rcases readEnd.on rest with ⟨failure | _, rest⟩ <;> rfl

theorem on_readAfter_blank {c : Char} (blank : isBlank c = true) (addresses : AddressList)
    (rest : Text) :
    (readAfter addresses).on (c :: rest) = (.error (.unknownCommand c), rest) := by
  rcases eq_of_isBlank blank with rfl | rfl <;> rfl

end Command

namespace Statement

/-- The text is a command without addresses. -/
structure Unaddressed (text : Text) (command : Command) : Prop where
  said : parse text = .ok (.single command)
  addresses : command.addresses = []

variable {text : Text} {command : Command}

theorem Unaddressed.readAfter (unaddressed : Unaddressed text command) :
    ∃ rest, (Command.readAfter []).on (text.dropWhile isBlank) = (.ok command, rest)
      ∧ (text.dropWhile isBlank).head? ≠ some 'g' ∧ (text.dropWhile isBlank).head? ≠ some 'x' := by
  obtain ⟨said, none⟩ := unaddressed
  rw [parse] at said
  rcases found : AddressList.read.on text with ⟨failure | addresses, rest⟩
  · simp [read, Scan.on_bind, found] at said
  · by_cases letter : rest.head? = some 'g' ∨ rest.head? = some 'x'
    · rw [read_global found letter, Scan.on_map] at said
      rcases global : (Global.readAfter addresses).on rest with ⟨failure | whole, left⟩ <;>
        simp [global] at said
    · have other := not_or.1 letter
      rw [read_single found other, Scan.on_map] at said
      rcases single : (Command.readAfter addresses).on rest with ⟨failure | read, left⟩ <;>
        rw [single] at said
      · cases said
      · cases said
        have list := AddressList.readFrom_ensures found
        have same := (Command.readAfter_ensures list.1 command left single).2.1
        have empty : addresses = [] := same.symm.trans none
        subst empty
        rw [list.2 rfl] at single other
        exact ⟨left, single, other⟩

end Statement

/-! ### Commands behind addresses -/

/-- The blank that is taken for the letter of a command, where one comes right after an offset. -/
def refusedBlank (line more : Text) : Option Char :=
  if endsInOffset line then more.head?.filter isBlank else none

theorem refusedBlank_eq_some_iff {line more : Text} {c : Char} :
    refusedBlank line more = some c
      ↔ endsInOffset line = true ∧ (∃ rest, more = c :: rest) ∧ isBlank c = true := by
  cases ends : endsInOffset line with
  | false => simp [refusedBlank, ends]
  | true =>
    cases more with
    | nil => simp [refusedBlank]
    | cons first more =>
      simp only [refusedBlank, ends, if_true, List.head?_cons, Option.filter_eq_some_iff,
        Option.some.injEq, List.cons.injEq, exists_and_left, exists_eq', and_true, true_and]

theorem skipped_of_refusedBlank {line more : Text} (none : refusedBlank line more = none) :
    (if endsInOffset line then more else more.dropWhile isBlank) = more.dropWhile isBlank := by
  cases ends : endsInOffset line with
  | false => rfl
  | true =>
    cases more with
    | nil => rfl
    | cons c more =>
      have plain : isBlank c = false := by simpa [refusedBlank, ends] using none
      simp [plain]

namespace Statement
variable {line blanks text more : Text} {addresses : AddressList} {command : Command}

theorem parse_append (whole : AddressList.read.on line = (.ok addresses, []))
    (unaddressed : Unaddressed text command)
    (same : more.dropWhile isBlank = text.dropWhile isBlank) :
    parse (line ++ more) =
      match refusedBlank line more with
      | some c => .error (.unknownCommand c)
      | none => .ok (.single { command with addresses }) := by
  obtain ⟨rest, read, other⟩ := unaddressed.readAfter
  rw [← same] at read other
  have found : AddressList.read.on (line ++ more) = _ :=
    AddressList.readFrom_append whole (Command.stops_of_readAfter read)
  cases refused : refusedBlank line more with
  | none =>
    rw [skipped_of_refusedBlank refused] at found
    rw [parse, read_single found other, Scan.on_map, Command.on_readAfter, Scan.on_map, read]
  | some c =>
    obtain ⟨ends, ⟨after, rfl⟩, blank⟩ := refusedBlank_eq_some_iff.1 refused
    rw [ends, if_pos rfl] at found
    have notLetter : (c :: after).head? ≠ some 'g' ∧ (c :: after).head? ≠ some 'x' := by
      rcases eq_of_isBlank blank with rfl | rfl <;> simp
    rw [parse, read_single found notLetter, Scan.on_map, Command.on_readAfter_blank blank]

/-- A command follows addresses that are read from a line on their own. Blanks before the command
make no difference, unless the addresses end in an offset. Then the first of the blanks is taken for
the letter of a command, and is none; that makes no difference only where no blank is put in or the
command starts with the same blank anyway. -/
theorem blanks_after_addresses_iff (whole : AddressList.read.on line = (.ok addresses, []))
    (blank : ∀ c ∈ blanks, isBlank c = true) (unaddressed : Unaddressed text command) :
    (endsInOffset line = false →
        parse (line ++ blanks ++ text) = .ok (.single { command with addresses }))
      ∧ (endsInOffset line = true → ∀ c rest, blanks = c :: rest →
        parse (line ++ blanks ++ text) = .error (.unknownCommand c))
      ∧ (parse (line ++ blanks ++ text) = parse (line ++ text)
        ↔ (endsInOffset line = true → blanks = [] ∨ blanks.head? = text.head?)) := by
  have same : (blanks ++ text).dropWhile isBlank = text.dropWhile isBlank :=
    List.dropWhile_append_of_pos blank
  have gap := parse_append whole unaddressed same
  have close := parse_append whole unaddressed rfl
  rw [List.append_assoc, gap, close]
  cases ends : endsInOffset line with
  | false => simp [refusedBlank, ends]
  | true =>
    cases blanks with
    | nil => simp
    | cons c rest =>
      have first : refusedBlank line (c :: rest ++ text) = some c :=
        refusedBlank_eq_some_iff.2 ⟨ends, ⟨_, rfl⟩, blank c List.mem_cons_self⟩
      rw [first]
      refine ⟨nofun, ?_, ?_⟩
      · rintro - _ _ ⟨⟩
        rfl
      · cases second : refusedBlank line text with
        | none =>
          have apart : text.head? ≠ some c := by
            intro starts
            obtain ⟨after, rfl⟩ := List.head?_eq_some_iff.1 starts
            have refused := refusedBlank_eq_some_iff.2
              ⟨ends, ⟨after, rfl⟩, blank c List.mem_cons_self⟩
            rw [second] at refused
            cases refused
          simp [apart.symm]
        | some d =>
          obtain ⟨-, ⟨after, rfl⟩, -⟩ := refusedBlank_eq_some_iff.1 second
          simp

-- A blank after `1+1` is refused, which makes the command fail that is there without it.
theorem blank_after_offset_refused :
    AddressList.read.on ['1', '+', '1'] = (.ok [({ term := .line 1, offset := 1 }, .nothing)], [])
      ∧ Unaddressed ['p'] { action := .print }
      ∧ parse (['1', '+', '1'] ++ ['p'])
        = .ok (.single
          { addresses := [({ term := .line 1, offset := 1 }, .nothing)], action := .print })
      ∧ parse (['1', '+', '1'] ++ [' '] ++ ['p']) = .error (.unknownCommand ' ') := by
  refine ⟨?_, ⟨?_, rfl⟩, ?_, ?_⟩
  · cbv
  · cbv
  · cbv
  · cbv

theorem blanks_after_last_skipped :
    AddressList.read.on ['2', ';', '$']
        = (.ok [({ term := .line 2 }, .semicolon), ({ term := .last }, .nothing)], [])
      ∧ (∀ c ∈ [' ', '\t'], isBlank c = true)
      ∧ Unaddressed ['d', ' ', 'p'] { action := .delete, print := true }
      ∧ endsInOffset ['2', ';', '$'] = false
      ∧ parse (['2', ';', '$'] ++ [' ', '\t'] ++ ['d', ' ', 'p'])
        = parse (['2', ';', '$'] ++ ['d', ' ', 'p']) := by
  have whole : AddressList.read.on ['2', ';', '$']
      = (.ok [({ term := .line 2 }, .semicolon), ({ term := .last }, .nothing)], []) := by cbv
  have blank : ∀ c ∈ [' ', '\t'], isBlank c = true := by simp [isBlank]
  have said : parse ['d', ' ', 'p'] = .ok (.single { action := .delete, print := true }) := by cbv
  have unaddressed : Unaddressed ['d', ' ', 'p'] { action := .delete, print := true } := ⟨said, rfl⟩
  have other : endsInOffset ['2', ';', '$'] = false :=
    endsInOffset_append_cons (c := '$') rfl ['2', ';'] []
  obtain ⟨-, -, kept⟩ := blanks_after_addresses_iff whole blank unaddressed
  refine ⟨whole, blank, unaddressed, other, kept.2 fun ends => ?_⟩
  rw [other] at ends
  cases ends

end Statement

end LineEditor
