import LineEditor.Conduct
import LineEditor.Proofs.Statement.Written
import Mathlib

/-!
What is read is well formed, whatever the line; with what is written for a statement being read
back, reading and writing undo each other. Reading takes text from the front of the line and leaves
the rest as it is.
-/

namespace LineEditor

namespace Scan

variable {α β : Type} {line : Text} {scan : Scan α} {f : α → Scan β} {post : β → Text → Prop}

/-- If the scan reads something on this line, then `post` holds of that and of what is left. -/
def Ensures (scan : Scan α) (line : Text) (post : α → Text → Prop) : Prop :=
  ∀ a rest, scan.on line = (.ok a, rest) → post a rest

theorem ensures_pure {post : α → Text → Prop} {a : α} (holds : post a line) :
    Ensures (pure a) line post := by
  intro _ _ read
  cases read
  exact holds

theorem ensures_throw {post : α → Text → Prop} (failure : Failure) :
    Ensures (throw failure) line post := by
  intro _ _ read
  cases read

theorem Ensures.bind {first : α → Text → Prop} (reads : Ensures scan line first)
    (next : ∀ a rest, first a rest → Ensures (f a) rest post) : Ensures (scan >>= f) line post := by
  intro b rest read
  rw [on_bind] at read
  rcases found : scan.on line with ⟨failure | a, left⟩
  · rw [found] at read
    cases read
  · rw [found] at read
    exact next a left (reads a left found) b rest read

theorem Ensures.map {g : α → β} {first : α → Text → Prop} (reads : Ensures scan line first)
    (next : ∀ a rest, first a rest → post (g a) rest) : Ensures (g <$> scan) line post := by
  rw [map_eq_pure_bind]
  exact reads.bind fun a rest read => ensures_pure (next a rest read)

theorem Ensures.after (next : ∀ a rest, Ensures (f a) rest post) :
    Ensures (scan >>= f) line post :=
  Ensures.bind (fun _ _ _ => trivial) fun a rest (_ : True) => next a rest

theorem ensures_get {f : Text → Scan β} (next : Ensures (f line) line post) :
    Ensures (get >>= f) line post := next

theorem ensures_set {left : Text} {f : PUnit → Scan β} (next : Ensures (f ⟨⟩) left post) :
    Ensures (set left >>= f) line post := next

theorem ensures_modify {g : Text → Text} {f : PUnit → Scan β}
    (next : Ensures (f ⟨⟩) (g line) post) : Ensures (modify g >>= f) line post := next

theorem ensures_skipBlanks {f : PUnit → Scan β}
    (next : Ensures (f ⟨⟩) (line.dropWhile isBlank) post) : Ensures (skipBlanks >>= f) line post :=
  next

/-! ### The parts of addresses and commands -/

theorem number_ensures :
    Ensures number line fun n rest => match n with
      | none => rest = line
      | some n => n < lineBound := by
  apply ensures_get
  dsimp only
  split
  · exact ensures_pure rfl
  · apply ensures_modify
    split
    · exact ensures_pure ‹_›
    · exact ensures_throw _

theorem next_ensures :
    Ensures next line fun c rest => match c with
      | none => line = []
      | some c => line = c :: rest := by
  apply ensures_get
  cases line with
  | nil => exact ensures_pure rfl
  | cons c rest => exact ensures_set (ensures_pure rfl)

theorem offset_ensures : Ensures offset line fun o _ => ∀ n ∈ o, n.natAbs < offsetBound := by
  apply ensures_get
  split
  · refine next_ensures.bind fun sign _ _ => number_ensures.bind fun magnitude _ _ => ?_
    dsimp only
    by_cases below : magnitude.getD 0 < offsetBound
    · rw [if_pos below]
      refine ensures_pure fun n found => ?_
      cases found
      split <;> omega
    · rw [if_neg below]
      exact ensures_throw _
  · exact ensures_pure nofun

theorem delimited_ensures (delimiter : Char) :
    Ensures (delimited delimiter) line fun text rest =>
      ∀ taken ∈ text, cut delimiter line = some (taken, rest) := by
  apply ensures_get
  split
  · exact ensures_pure nofun
  · rename_i found
    refine ensures_set (ensures_pure fun taken isTaken => ?_)
    cases isTaken
    exact found

end Scan

open Scan (Ensures StopsBefore ensures_pure ensures_throw ensures_get ensures_set
  ensures_skipBlanks)

/-! ### Addresses -/

theorem Term.read_ensures {line : Text} :
    Ensures Term.read line fun term rest => match term with
      | none => rest = line
      | some term => term.WellFormed := by
  apply ensures_get
  cases line with
  | nil => exact ensures_pure rfl
  | cons c rest =>
    dsimp only
    split
    · refine Scan.number_ensures.bind fun n left read => ensures_pure ?_
      cases n with
      | none => exact read
      | some n => exact read
    · split
      · exact ensures_set (ensures_pure trivial)
      · split
        · exact ensures_set (ensures_pure trivial)
        · split
          · rename_i kind
            apply ensures_set
            refine (Scan.delimited_ensures c).bind fun text left cut => ?_
            cases text with
            | none => exact ensures_throw _
            | some pattern =>
              have escaped := (Scan.delimited_of_cut (cut pattern rfl)).1
              exact ensures_pure ⟨kind, escaped⟩
          · exact ensures_pure rfl

theorem Address.read_ensures {line : Text} :
    Ensures Address.read line fun address rest => match address with
      | none => rest = line.dropWhile isBlank
      | some address => address.WellFormed := by
  apply ensures_skipBlanks
  refine Term.read_ensures.bind fun term left read => ?_
  cases term with
  | none => exact ensures_pure read
  | some term =>
    apply ensures_skipBlanks
    refine Scan.offset_ensures.bind fun offset _ below => ensures_pure ⟨read, ?_⟩
    cases offset with
    | none => exact Nat.two_pow_pos 63
    | some n => exact below n rfl

theorem AddressList.readFrom_ensures {line rest : Text} {addresses : AddressList}
    (read : readFrom line = (.ok addresses, rest)) :
    addresses.WellFormed ∧ (addresses = [] → rest = line.dropWhile isBlank) := by
  -- What follows an address and its separator is shorter than the line.
  induction length : line.length using Nat.strongRecOn generalizing line addresses rest with
  | ind n ih =>
    rcases found : Address.read.on line with ⟨failure | none | address, left⟩
    · rw [readFrom_error found] at read
      cases read
    · rw [readFrom_none found] at read
      cases read
      exact ⟨.nil, fun _ => Address.read_ensures none _ found⟩
    · have wellFormed : address.WellFormed := Address.read_ensures (some address) left found
      rcases taken : Separator.take left with ⟨separator, next⟩
      rw [readFrom_some found taken] at read
      by_cases alone : separator = .nothing
      · rw [if_pos alone] at read
        cases read
        exact ⟨.last wellFormed, nofun⟩
      · have shorter : next.length < line.length := by
          have kept := Separator.length_take left
          rw [taken] at kept
          exact Nat.lt_of_le_of_lt kept (Address.length_read found)
        rw [if_neg alone] at read
        rcases others : readFrom next with ⟨failure | more, last⟩
        · rw [others] at read
          cases read
        · rw [others] at read
          cases read
          have after := ih next.length (length ▸ shorter) others rfl
          exact ⟨.joined wellFormed alone after.1, nofun⟩

/-! ### Commands -/

-- A replacement that a backslash ends is not empty and starts with none.
theorem Scan.cut_bare {line taken left : Text} (bare : StopsBefore (fun c => c = '\\') line)
    (found : cut '\\' line = some (taken, left)) : ∃ c rest, taken = c :: rest ∧ c ≠ '\\' := by
  cases line with
  | nil => cases found
  | cons c rest =>
    have other : c ≠ '\\' := by simpa using bare c rfl
    rw [cut] at found
    · rw [if_neg other] at found
      obtain ⟨⟨inner, after⟩, _, same⟩ := Option.map_eq_some_iff.1 found
      cases same
      exact ⟨c, inner, rfl, other⟩
    · exact fun backslash => absurd backslash other
    · exact fun _ _ backslash => absurd backslash other

theorem Substitution.read_ensures {line : Text} :
    Ensures Substitution.read line fun substitution _ => substitution.WellFormed := by
  refine Scan.next_ensures.bind fun delimiter start _ => ?_
  cases delimiter with
  | none => exact ensures_throw _
  | some delimiter =>
    dsimp only
    split
    · exact ensures_throw _
    · rename_i notBlank
      refine (Scan.delimited_ensures delimiter).bind fun pattern middle cutFirst => ?_
      cases pattern with
      | none => exact ensures_throw _
      | some pattern =>
        refine (Scan.delimited_ensures delimiter).bind fun replacement left cutSecond => ?_
        cases replacement with
        | none => exact ensures_throw _
        | some replacement =>
          have first := Scan.delimited_of_cut (cutFirst pattern rfl)
          have second := Scan.delimited_of_cut (cutSecond replacement rfl)
          apply ensures_get
          apply ensures_set
          refine ensures_pure ⟨by simpa using notBlank, first.1, second.1, ?_⟩
          -- A backslash closed the pattern because no second one came after it.
          intro backslash
          dsimp only at backslash
          subst backslash
          exact Scan.cut_bare (first.2 rfl) (cutSecond replacement rfl)

theorem isBlank_of_dropWhile {line rest : Text} {c : Char}
    (left : line.dropWhile isBlank = c :: rest) : isBlank c = false := by
  have stops := List.head?_dropWhile_not isBlank line
  rw [left] at stops
  exact stops

theorem dropWhile_ne_nil {line : Text} (someText : ¬line.isBlank = true) :
    line.dropWhile isBlank ≠ [] := by
  intro left
  have others := List.any_dropWhile (l := line) (p := isBlank)
  rw [left] at others
  exact someText (Bool.not_eq_eq_eq_not.1 others.symm)

namespace Filename

theorem take_ne_nil {c : Char} (rest : Text) (plain : isBlank c = false) :
    (take (c :: rest)).1 ≠ [] := by
  rw [take.eq_def]
  split
  · contradiction
  · exact List.cons_ne_nil _ _
  · rename_i same
    cases same
    rw [plain, if_neg Bool.false_ne_true]
    exact List.cons_ne_nil _ _

theorem take_noTab (line : Text) : '\t' ∉ (take line).1 := by
  fun_induction take line with
  | case1 => exact List.not_mem_nil
  | case2 rest name left taken ih =>
    rw [taken] at ih
    intro member
    cases member with
    | tail _ member => exact ih member
  | case3 => exact List.not_mem_nil
  | case4 c rest _ plain name left taken ih =>
    rw [taken] at ih
    intro member
    cases member with
    | head => exact plain rfl
    | tail _ member => exact ih member

theorem read_ensures {line : Text} : Ensures read line fun name _ => WellFormed name := by
  apply ensures_get
  dsimp only
  split
  · exact ensures_skipBlanks (ensures_pure trivial)
  · split
    · rename_i someText _
      obtain ⟨c, rest, left⟩ := List.exists_cons_of_ne_nil (dropWhile_ne_nil someText)
      have notEmpty := take_ne_nil rest (isBlank_of_dropWhile left)
      apply ensures_skipBlanks
      rw [left]
      exact ensures_get (ensures_set (ensures_pure ⟨notEmpty, take_noTab _⟩))
    · exact ensures_throw _

end Filename

namespace Command

/-- What a letter stands for, and whether a `p` follows that. -/
structure ReadAction (action : Action) (print : Bool) : Prop where
  wellFormed : action.WellFormed
  print : print = true → action.takesPrint = true
  other : action ≠ .step

theorem readPrint_ensures {line : Text} {action : Action} (wellFormed : action.WellFormed)
    (takes : action.takesPrint = true) :
    Ensures (do return (action, ← readPrint)) line fun read _ => ReadAction read.1 read.2 := by
  apply Ensures.after
  intro print rest
  refine ensures_pure ⟨wellFormed, fun _ => takes, fun step => ?_⟩
  dsimp only at step
  rw [step] at takes
  cases takes

theorem readAction_ensures (letter : Char) {line : Text} :
    Ensures (readAction letter) line fun read _ => ReadAction read.1 read.2 := by
  unfold readAction
  split
  case h_9 | h_10 => exact readPrint_ensures trivial rfl
  case h_11 =>
    refine Address.read_ensures.bind fun destination _ wellFormed => ?_
    cases destination with
    | none => exact ensures_throw _
    | some destination => exact readPrint_ensures wellFormed rfl
  case h_12 =>
    refine Substitution.read_ensures.bind fun substitution _ wellFormed => ?_
    exact readPrint_ensures wellFormed rfl
  case h_13 | h_14 | h_15 | h_16 =>
    refine Filename.read_ensures.bind fun name _ wellFormed => ?_
    exact ensures_pure ⟨wellFormed, nofun, nofun⟩
  case h_17 => exact ensures_throw _
  all_goals exact ensures_pure ⟨trivial, nofun, nofun⟩

-- Only where nothing is left to read is no letter read.
theorem readAfter_ensures {addresses : AddressList} {line : Text}
    (wellFormed : addresses.WellFormed) :
    Ensures (readAfter addresses) line fun command _ =>
      command.WellFormed ∧ command.addresses = addresses
        ∧ (command.action = .step → line = []) := by
  refine Scan.next_ensures.bind fun letter rest start => ?_
  cases letter with
  | none => exact ensures_pure ⟨⟨wellFormed, trivial, nofun⟩, rfl, fun _ => start⟩
  | some letter =>
    refine (readAction_ensures letter).bind fun found left read => ?_
    apply Ensures.after
    intro _ _
    apply ensures_pure
    exact ⟨⟨wellFormed, read.wellFormed, read.print⟩, rfl, fun step => absurd step read.other⟩

theorem read_ensures {line : Text} :
    Ensures Command.read line fun command _ =>
      command.WellFormed ∧
        (command.action = .step → command.addresses = [] → line.dropWhile isBlank = []) := by
  intro command rest read
  rw [Command.read, Scan.on_bind] at read
  rcases found : AddressList.read.on line with ⟨failure | addresses, left⟩
  · rw [found] at read
    cases read
  · rw [found] at read
    obtain ⟨list, unread⟩ := AddressList.readFrom_ensures found
    obtain ⟨wellFormed, same, ends⟩ := readAfter_ensures list command rest read
    refine ⟨wellFormed, fun step empty => ?_⟩
    rw [← unread (same ▸ empty)]
    exact ends step

end Command

theorem Global.readAfter_ensures {addresses : AddressList} {line : Text}
    (wellFormed : addresses.WellFormed) :
    Ensures (readAfter addresses) line fun global _ => global.WellFormed := by
  refine Scan.next_ensures.bind fun letter rest _ => ?_
  dsimp only
  split
  · exact ensures_throw _
  · apply ensures_skipBlanks
    refine Scan.next_ensures.bind fun delimiter rest start => ?_
    cases delimiter with
    | none => exact ensures_throw _
    | some delimiter =>
      have notBlank := isBlank_of_dropWhile start
      refine (Scan.delimited_ensures delimiter).bind fun pattern left cut => ?_
      cases pattern with
      | none => exact ensures_throw _
      | some pattern =>
        have escaped := (Scan.delimited_of_cut (cut pattern rfl)).1
        apply ensures_get
        split
        · exact ensures_pure ⟨wellFormed, notBlank, escaped, ⟨.nil, trivial, nofun⟩, nofun⟩
        · rename_i someText
          refine Command.read_ensures.bind fun body _ ⟨body_wellFormed, onlyBlanks⟩ => ?_
          refine ensures_pure ⟨wellFormed, notBlank, escaped, body_wellFormed, ?_⟩
          -- An empty body would have been read from blanks, and there is more than that.
          intro step empty
          exact dropWhile_ne_nil someText (onlyBlanks step empty)

namespace Statement

theorem read_ensures {line : Text} :
    Ensures read line fun statement _ => statement.WellFormed := by
  rcases found : AddressList.read.on line with ⟨failure | addresses, left⟩
  · intro statement rest said
    rw [read, Scan.on_bind, found] at said
    cases said
  · have list := (AddressList.readFrom_ensures found).1
    by_cases letter : left.head? = some 'g' ∨ left.head? = some 'x'
    · have whole : Ensures (global <$> Global.readAfter addresses) left
          fun statement _ => statement.WellFormed :=
        (Global.readAfter_ensures list).map fun _ _ wellFormed => wellFormed
      intro statement rest said
      rw [read_global found letter] at said
      exact whole statement rest said
    · have alone : Ensures (single <$> Command.readAfter addresses) left
          fun statement _ => statement.WellFormed :=
        (Command.readAfter_ensures list).map fun _ _ read => read.1
      intro statement rest said
      rw [read_single found (not_or.1 letter)] at said
      exact alone statement rest said

theorem parse_wellFormed {line : Text} {statement : Statement}
    (parsed : parse line = .ok statement) : statement.WellFormed :=
  read_ensures statement _ (Prod.ext parsed rfl)

theorem print_eq_false {line : Text} {command : Command}
    (parsed : parse line = .ok (.single command)) (other : command.action.takesPrint = false) :
    command.print = false := by
  have wellFormed : command.WellFormed := parse_wellFormed parsed
  rw [Bool.eq_false_iff]
  intro print
  rw [wellFormed.print print] at other
  cases other

/-- What is written for a well-formed statement is read back as that statement, and what is read
from any line is a well-formed statement. -/
theorem parse_undoes_toText :
    (∀ statement : Statement, statement.WellFormed → parse statement.toText = .ok statement)
    ∧ ∀ line statement, parse line = .ok statement → statement.WellFormed := by
  constructor
  · intro statement wellFormed
    rw [parse, read_toText wellFormed]
  · intro line statement accepted
    exact parse_wellFormed accepted

/-- `1,$-1g/a\/b/ s\x\y\gp`. -/
def replaceWhereFound : Statement :=
  .global {
    addresses := [({ term := .line 1 }, .comma), ({ term := .last, offset := -1 }, .nothing)]
    pattern := ['a', '\\', '/', 'b']
    delimiter := '/'
    body := {
      action := .substitute {
        pattern := ['x'], replacement := ['y'], delimiter := '\\', everywhere := true }
      print := true } }

theorem replaceWhereFound_read_back :
    replaceWhereFound.WellFormed ∧ parse replaceWhereFound.toText = .ok replaceWhereFound := by
  have read : parse "1,$-1g/a\\/b/s\\x\\y\\gp  ".toList = .ok replaceWhereFound := by cbv
  have wellFormed := parse_undoes_toText.2 _ _ read
  exact ⟨wellFormed, parse_undoes_toText.1 _ wellFormed⟩

end Statement

/-! ### What is left -/

namespace Scan

/-- The later text is what is left of the earlier one when some of its front is taken. -/
def Leaves (before after : Text) : Prop := after <:+ before

theorem steady_leaves : Steady Leaves where
  refl line := List.suffix_refl line
  trans first second := second.trans first

theorem keeps_leaves_get {α : Type} {f : Text → Scan α}
    (after : ∀ line, Leaves line ((f line).on line).2) : Keeps Leaves (get >>= f) := after

theorem skipBlanks_leaves : Keeps Leaves skipBlanks :=
  keeps_modify fun _ => List.dropWhile_suffix _

theorem next_leaves : Keeps Leaves next := by
  apply keeps_leaves_get
  intro line
  cases line with
  | nil => exact List.suffix_refl []
  | cons c rest => exact List.suffix_cons c rest

theorem number_leaves : Keeps Leaves number := by
  apply steady_leaves.bind steady_leaves.get
  intro line
  dsimp only
  split
  · exact steady_leaves.pure _
  · apply steady_leaves.bind (keeps_modify fun _ => List.dropWhile_suffix _)
    intro _
    split
    · exact steady_leaves.pure _
    · exact steady_leaves.throw _

theorem offset_leaves : Keeps Leaves offset := by
  apply steady_leaves.bind steady_leaves.get
  intro line
  split
  · apply steady_leaves.bind next_leaves
    intro sign
    apply steady_leaves.bind number_leaves
    intro magnitude
    dsimp only
    split
    · exact steady_leaves.pure _
    · exact steady_leaves.throw _
  · exact steady_leaves.pure _

theorem cut_eq {delimiter : Char} {line taken left : Text}
    (found : cut delimiter line = some (taken, left)) : line = taken ++ delimiter :: left := by
  fun_induction cut delimiter line generalizing taken left with
  | case1 => cases found
  | case2 same =>
    cases found
    rw [same]
    rfl
  | case3 => cases found
  | case4 c rest ends =>
    cases found
    rw [ends.1]
    rfl
  | case5 c rest _ ih =>
    obtain ⟨⟨inner, after⟩, cutRest, same⟩ := Option.map_eq_some_iff.1 found
    cases same
    rw [ih cutRest]
    rfl
  | case6 rest =>
    cases found
    rfl
  | case7 c rest _ _ _ ih =>
    obtain ⟨⟨inner, after⟩, cutRest, same⟩ := Option.map_eq_some_iff.1 found
    cases same
    rw [ih cutRest]
    rfl

theorem delimited_leaves (delimiter : Char) : Keeps Leaves (delimited delimiter) := by
  apply keeps_leaves_get
  intro line
  cases found : cut delimiter line with
  | none => exact List.suffix_refl line
  | some both =>
    obtain ⟨taken, left⟩ := both
    change left <:+ line
    rw [cut_eq found]
    exact (List.suffix_cons delimiter left).trans (List.suffix_append taken _)

theorem Ensures.bind_leaves {α β : Type} {scan : Scan α} {f : α → Scan β} {line : Text}
    {post : β → Text → Prop} (leaves : Keeps Leaves scan)
    (next : ∀ a rest, rest <:+ line → Ensures (f a) rest post) :
    Ensures (scan >>= f) line post := by
  have front : Ensures scan line fun _ rest => rest <:+ line := by
    intro a rest read
    have left := leaves line
    rwa [show scan.run line = (.ok a, rest) from read] at left
  exact front.bind next

end Scan

open Scan (Leaves steady_leaves)

/-! ### Addresses -/

theorem Term.read_leaves : Keeps Leaves Term.read := by
  apply Scan.keeps_leaves_get
  intro line
  cases line with
  | nil => exact List.suffix_refl []
  | cons c rest =>
    have front : Leaves (c :: rest) rest := List.suffix_cons c rest
    dsimp only
    split
    · exact steady_leaves.bind Scan.number_leaves (fun n => steady_leaves.pure _) (c :: rest)
    · split
      · exact front
      · split
        · exact front
        · split
          · refine (steady_leaves.bind (Scan.delimited_leaves c) (fun text => ?_) rest).trans front
            cases text with
            | none => exact steady_leaves.throw _
            | some pattern => exact steady_leaves.pure _
          · exact List.suffix_refl _

theorem Address.read_leaves : Keeps Leaves Address.read := by
  apply steady_leaves.bind Scan.skipBlanks_leaves
  intro _
  apply steady_leaves.bind Term.read_leaves
  intro term
  cases term with
  | none => exact steady_leaves.pure _
  | some term =>
    apply steady_leaves.bind Scan.skipBlanks_leaves
    intro _
    exact steady_leaves.bind Scan.offset_leaves fun offset => steady_leaves.pure _

theorem Separator.take_suffix (line : Text) : (Separator.take line).2 <:+ line := by
  unfold Separator.take
  split
  · exact List.suffix_cons _ _
  · exact List.suffix_cons _ _
  · exact List.suffix_refl _

theorem AddressList.read_leaves : Keeps Leaves AddressList.read := by
  intro line
  change (readFrom line).2 <:+ line
  induction length : line.length using Nat.strongRecOn generalizing line with
  | ind n ih =>
    have first := Address.read_leaves line
    rcases found : Address.read.on line with ⟨failure | none | address, left⟩ <;>
      rw [show Address.read.run line = _ from found] at first
    · rw [readFrom_error found]
      exact first
    · rw [readFrom_none found]
      exact first
    · have joined := Separator.take_suffix left
      have shorter := Nat.lt_of_le_of_lt joined.length_le (Address.length_read found)
      rcases taken : Separator.take left with ⟨separator, next⟩
      rw [taken] at joined shorter
      rw [readFrom_some found taken]
      split
      · exact joined.trans first
      · have others := (ih next.length (length ▸ shorter) next rfl).trans (joined.trans first)
        cases ended : readFrom next with
        | mk outcome last =>
          rw [ended] at others
          cases outcome with
          | error failure => exact others
          | ok more => exact others

end LineEditor
