import LineEditor.Proofs.Equations
import LineEditor.Proofs.Listing
import LineEditor.Proofs.Lookup.Walk

/-!
Lines of texts and of files. A text falls into lines, each with its newline and the last one perhaps
without; its bytes fall into lines at the same places. Of a file that is loaded those lines come in
that can be read, each behind the one before, so that they come to stand in their order.
-/

namespace LineEditor

namespace Listing

def insertAll (listing : Listing) (texts : List Text) : Listing := texts.foldl insert listing

/-- The lines after line `n` up to line `m` make way for these, and the cursor is on the last of
them, or on line `n` if there are none. -/
def splice (listing : Listing) (n m : Nat) (texts : List Text) : Listing where
  lines := listing.lines.take n ++ (texts.map (·, false) ++ listing.lines.drop m)
  cursor := n + texts.length

theorem insertAll_eq {listing : Listing} (inside : listing.cursor ≤ listing.lines.length)
    (texts : List Text) :
    listing.insertAll texts = listing.splice listing.cursor listing.cursor texts := by
  induction texts generalizing listing with
  | nil =>
    rw [splice, List.map_nil, List.nil_append, List.take_append_drop]
    rfl
  | cons text texts ih =>
    have place : (listing.lines.take listing.cursor).length = listing.cursor :=
      List.length_take_of_le inside
    have longer : (listing.insert text).cursor ≤ (listing.insert text).lines.length := by
      simp [insert]
      omega
    have short : (listing.lines.take listing.cursor).length ≤ listing.cursor + 1 := by omega
    change (listing.insert text).insertAll texts = _
    rw [ih longer]
    simp [splice, insert, List.take_append, List.drop_append, place, List.take_of_length_le short,
      List.drop_of_length_le short, Nat.add_assoc, Nat.add_comm 1]

theorem insertAll_at {listing : Listing} {n : Nat} (inside : n ≤ listing.lines.length)
    (texts : List Text) :
    (listing.setCurrent n).insertAll texts = listing.splice n n texts := by
  have place : listing.setCurrent n = { listing with cursor := n } := by
    rw [setCurrent, Nat.min_eq_left inside]
  rw [place, insertAll_eq inside]
  rfl

theorem insertAll_delete {listing : Listing} {first final : Nat} (positive : 0 < first)
    (ordered : first ≤ final) (inside : final ≤ listing.lines.length) (texts : List Text) :
    ((listing.delete first final).setCurrent (first - 1)).insertAll texts
      = listing.splice (first - 1) final texts := by
  have front : (listing.lines.take (first - 1)).length = first - 1 :=
    List.length_take_of_le (by omega)
  have still : first - 1 ≤ (listing.delete first final).lines.length := by
    rw [delete, others, List.length_append, front]
    exact Nat.le_add_right _ _
  rw [insertAll_at still, splice, splice, delete, others, List.take_left' front,
    List.drop_left' front]

theorem insertAll_after (listing : Listing) (n : Nat) (texts : List Text) :
    ((listing.setCurrent n).insertAll texts).lines
      = listing.lines.take n ++ (texts.map (·, false) ++ listing.lines.drop n) := by
  by_cases inside : n ≤ listing.lines.length
  · rw [insertAll_at inside, splice]
  · have short : listing.lines.length ≤ n := Nat.le_of_not_le inside
    have last : listing.setCurrent n = listing.setCurrent listing.lines.length := by
      rw [setCurrent, setCurrent, Nat.min_eq_right short, Nat.min_self]
    rw [last, insertAll_at (Nat.le_refl _), splice, List.take_length, List.drop_length,
      List.take_of_length_le short, List.drop_of_length_le short]

end Listing

namespace Buffer

def listing (b : Buffer) : Listing := ⟨b.lines.map Line.seen, b.current⟩

theorem Sound.shows {b : Buffer} (sound : b.Sound) : b.Shows b.listing := ⟨sound, rfl, rfl⟩

namespace Shows
variable {b : Buffer} {listing : Listing}

theorem insert (shows : b.Shows listing) (text : Text) :
    ∃ after, b.insert text = .ok after ∧ after.Shows (listing.insert text) :=
  Operation.run_shows shows (show (Operation.insert text).InBounds _ from trivial)

theorem setCurrent (shows : b.Shows listing) (n : Nat) :
    (b.setCurrent n).Shows (listing.setCurrent n) := by
  obtain ⟨_, ran, moved⟩ :=
    Operation.run_shows shows (show (Operation.setCurrent n).InBounds _ from trivial)
  cases ran
  exact moved

theorem delete (shows : b.Shows listing) {first final : Nat} (positive : 0 < first)
    (ordered : first ≤ final) (inside : final ≤ listing.lines.length) :
    ∃ after, b.delete first final = .ok after ∧ after.Shows (listing.delete first final) :=
  Operation.run_shows shows
    (show (Operation.delete first final).InBounds _ from ⟨positive, ordered, inside⟩)

theorem clear (shows : b.Shows listing) : b.clear.Shows {} := by
  obtain ⟨_, ran, emptied⟩ := Operation.run_shows shows (show Operation.clear.InBounds _ from trivial)
  cases ran
  exact emptied

end Shows

theorem length_listing (b : Buffer) : b.listing.lines.length = b.last := by
  rw [listing, List.length_map, length_lines]

theorem SameLines.splice {a b : Buffer} (same : a.SameLines b) (n m : Nat) (texts : List Text) :
    b.listing.splice n m texts = a.listing.splice n m texts := by
  rw [listing, listing, same.lines]
  rfl

end Buffer

/-! ### Lines of a text -/

/-- The text falls into these lines. -/
inductive Text.Splits : Text → List Text → Prop where
  | nil : Splits [] []
  | last {text : Text} (some : text ≠ []) (bare : '\n' ∉ text) : Splits text [text]
  | line {body rest : Text} {lines : List Text} (bare : '\n' ∉ body) (after : Splits rest lines) :
      Splits (body ++ '\n' :: rest) ((body ++ ['\n']) :: lines)

namespace Text

-- One character more in front makes the first line longer, if it is no newline.
theorem splits (text : Text) : ∃ lines, text.Splits lines := by
  induction text with
  | nil => exact ⟨[], .nil⟩
  | cons c rest ih =>
    obtain ⟨lines, after⟩ := ih
    by_cases newline : c = '\n'
    · rw [newline]
      have empty : '\n' ∉ ([] : Text) := List.not_mem_nil
      exact ⟨_, .line empty after⟩
    · cases after with
      | nil => exact ⟨[[c]], .last (List.cons_ne_nil c []) (by simp [Ne.symm newline])⟩
      | last some bare =>
        exact ⟨[c :: rest], .last (List.cons_ne_nil c rest) (by simp [Ne.symm newline, bare])⟩
      | @line body rest lines bare after =>
        have longer : '\n' ∉ c :: body := by simp [Ne.symm newline, bare]
        exact ⟨_, .line longer after⟩

/-- The line with its newline, which it may lack. -/
def closed (line : Text) : Text := line.body ++ ['\n']

theorem IsLine.closed {text : Text} (line : text.IsLine) : text.closed = text := line.body_append

theorem map_closed {texts : List Text} (formed : ∀ text ∈ texts, text.IsLine) :
    texts.map closed = texts := by
  induction texts with
  | nil => rfl
  | cons text rest ih =>
    rw [List.map_cons, (formed text List.mem_cons_self).closed,
      ih fun other member => formed other (List.mem_cons_of_mem _ member)]

end Text

namespace Bytes

theorem lines_bare {bytes : Bytes} (some : bytes ≠ []) (bare : newline ∉ bytes) :
    lines bytes = [bytes] := by
  induction bytes with
  | nil => exact absurd rfl some
  | cons b rest ih =>
    have other : b ≠ newline := fun same => bare (same ▸ List.mem_cons_self)
    rw [lines, if_neg other]
    cases rest with
    | nil => rfl
    | cons next rest =>
      rw [ih (List.cons_ne_nil next rest) fun member => bare (List.mem_cons_of_mem b member)]

theorem lines_line {body : Bytes} (bare : newline ∉ body) (rest : Bytes) :
    lines (body ++ newline :: rest) = (body ++ [newline]) :: lines rest := by
  induction body with
  | nil => rw [List.nil_append, lines, if_pos rfl, List.nil_append]
  | cons b body ih =>
    have other : b ≠ newline := fun same => bare (same ▸ List.mem_cons_self)
    rw [List.cons_append, lines, if_neg other,
      ih fun member => bare (List.mem_cons_of_mem b member), List.cons_append]

theorem takeLine_bare {bytes : Bytes} (bare : newline ∉ bytes) : takeLine bytes = (bytes, []) := by
  induction bytes with
  | nil => rfl
  | cons b rest ih =>
    have other : b ≠ newline := fun same => bare (same ▸ List.mem_cons_self)
    rw [takeLine, if_neg other, ih fun member => bare (List.mem_cons_of_mem b member)]

theorem takeLine_line {body : Bytes} (bare : newline ∉ body) (rest : Bytes) :
    takeLine (body ++ newline :: rest) = (body ++ [newline], rest) := by
  induction body with
  | nil => rw [List.nil_append, takeLine, if_pos rfl, List.nil_append]
  | cons b body ih =>
    have other : b ≠ newline := fun same => bare (same ▸ List.mem_cons_self)
    rw [List.cons_append, takeLine, if_neg other,
      ih fun member => bare (List.mem_cons_of_mem b member), List.cons_append]

-- The lines are what can be taken from the bytes one after the other.
theorem lines_takeLine {bytes : Bytes} (some : bytes ≠ []) :
    lines bytes = (takeLine bytes).1 :: lines (takeLine bytes).2 := by
  by_cases newlines : newline ∈ bytes
  · obtain ⟨body, rest, rfl, bare⟩ := List.eq_append_cons_of_mem newlines
    rw [lines_line bare, takeLine_line bare]
  · rw [lines_bare some newlines, takeLine_bare newlines]
    rfl

end Bytes

/-! ### Encoded lines -/

theorem Utf8.newline_not_mem_encode {text : Text} (bare : '\n' ∉ text) :
    Bytes.newline ∉ encode text := fun member => bare (newline_mem_encode.1 member)

theorem Utf8.encode_line (body rest : Text) :
    encode (body ++ '\n' :: rest) = encode body ++ Bytes.newline :: encode rest := by
  rw [encode_append, encode_cons, encode_newline, List.singleton_append]

theorem Bytes.takeLine_encode {body : Text} (bare : '\n' ∉ body) (rest : Text) :
    takeLine (Utf8.encode (body ++ '\n' :: rest))
      = (Utf8.encode (body ++ ['\n']), Utf8.encode rest) := by
  rw [Utf8.encode_line, takeLine_line (Utf8.newline_not_mem_encode bare), Utf8.encode_line]
  rfl

theorem Bytes.typedLine?_encode (body : Text) :
    (Utf8.encode (body ++ ['\n'])).typedLine? = some (body ++ ['\n']).dropCarriage := by
  rw [typedLine?, Utf8.decode?_encode]
  exact if_pos List.getLast?_concat

theorem Bytes.typedLine?_bare {bytes : Bytes} (bare : newline ∉ bytes) :
    bytes.typedLine? = none := by
  unfold typedLine?
  cases decoded : Utf8.decode? bytes with
  | none => rfl
  | some text =>
    rw [Utf8.decode?_eq_some_iff.1 decoded, Utf8.newline_mem_encode] at bare
    exact if_neg fun ends => bare (List.mem_of_getLast? ends)

theorem Bytes.isLine_of_decode? {body : Bytes} (bare : newline ∉ body) {text : Text}
    (decoded : Utf8.decode? (body ++ [newline]) = some text) : text.IsLine := by
  have encoded := Utf8.decode?_eq_some_iff.1 decoded
  have front : newline ∉ (Utf8.encode text).dropLast := by
    rwa [← encoded, List.dropLast_concat]
  have ends : (Utf8.encode text).getLast? = some newline := by
    rw [← encoded, List.getLast?_concat]
  exact Text.isLine_of_dropLast (Utf8.newline_not_mem_dropLast front) (Utf8.getLast?_encode.1 ends)

theorem Text.IsLine.takeLine_encode {text : Text} (line : text.IsLine) (rest : Bytes) :
    Bytes.takeLine (Utf8.encode text ++ rest) = (Utf8.encode text, rest) := by
  obtain ⟨body, bare, rfl⟩ := line
  rw [Utf8.encode_line, List.append_assoc]
  exact Bytes.takeLine_line (Utf8.newline_not_mem_encode bare) rest

theorem Text.Splits.lines_encode {text : Text} {lines : List Text} (splits : text.Splits lines) :
    Bytes.lines (Utf8.encode text) = lines.map Utf8.encode := by
  induction splits with
  | nil => rfl
  | @last text some bare =>
    apply Bytes.lines_bare
    · cases text with
      | nil => exact absurd rfl some
      | cons c rest =>
        rw [Utf8.encode_cons]
        exact List.append_ne_nil_of_left_ne_nil (Utf8.encodeChar_ne_nil c) _
    · exact Utf8.newline_not_mem_encode bare
  | @line body rest lines bare after ih =>
    rw [Utf8.encode_line, Bytes.lines_line (Utf8.newline_not_mem_encode bare), ih, List.map_cons,
      Utf8.encode_line]
    rfl

namespace Bytes
variable {texts : List Text}

theorem lines_flatten (formed : ∀ text ∈ texts, text.IsLine) (rest : Bytes) :
    lines (Utf8.encode texts.flatten ++ rest) = texts.map Utf8.encode ++ lines rest := by
  induction texts with
  | nil => rfl
  | cons text texts ih =>
    obtain ⟨body, bare, rfl⟩ := formed _ List.mem_cons_self
    have after := ih fun text member => formed text (List.mem_cons_of_mem _ member)
    rw [List.flatten_cons, List.append_assoc, List.singleton_append, Utf8.encode_line,
      List.append_assoc, List.cons_append, lines_line (Utf8.newline_not_mem_encode bare), after,
      List.map_cons, Utf8.encode_line]
    rfl

theorem wholeLines_flatten (formed : ∀ text ∈ texts, text.IsLine) (rest : Bytes) :
    wholeLines (Utf8.encode texts.flatten ++ rest) = texts.map Utf8.encode ++ wholeLines rest := by
  have whole : ∀ bytes ∈ texts.map Utf8.encode, decide (bytes.getLast? = some newline) = true := by
    intro bytes member
    obtain ⟨text, inside, rfl⟩ := List.mem_map.1 member
    obtain ⟨body, _, rfl⟩ := formed text inside
    exact decide_eq_true (Utf8.getLast?_encode.2 List.getLast?_concat)
  rw [wholeLines, lines_flatten formed, List.filter_append, List.filter_eq_self.2 whole]
  rfl

theorem wholeLines_bare {bytes : Bytes} (bare : newline ∉ bytes) : wholeLines bytes = [] := by
  cases bytes with
  | nil => rfl
  | cons b rest =>
    have unfinished : ¬(b :: rest).getLast? = some newline :=
      fun ends => bare (List.mem_of_getLast? ends)
    rw [wholeLines, lines_bare (List.cons_ne_nil b rest) bare,
      List.filter_cons_of_neg (by simpa using unfinished), List.filter_nil]

theorem wholeLines_takeLine {bytes : Bytes} (newlines : newline ∈ bytes) :
    wholeLines bytes = (takeLine bytes).1 :: wholeLines (takeLine bytes).2 := by
  obtain ⟨body, rest, rfl, bare⟩ := List.eq_append_cons_of_mem newlines
  rw [wholeLines, lines_line bare, takeLine_line bare, List.filter_cons_of_pos (by simp)]
  rfl

theorem exists_lines (bytes : Bytes) :
    ∃ (lines : List Text) (rest : Bytes), bytes = Utf8.encode lines.flatten ++ rest
      ∧ (∀ line ∈ lines, line.IsLine)
      ∧ (newline ∈ rest → Utf8.decode? (takeLine rest).1 = none) := by
  induction size : bytes.length using Nat.strongRecOn generalizing bytes with
  | ind n ih =>
    by_cases newlines : newline ∈ bytes
    · obtain ⟨body, rest, rfl, bare⟩ := List.eq_append_cons_of_mem newlines
      cases decoded : Utf8.decode? (body ++ [newline]) with
      | none =>
        refine ⟨[], body ++ newline :: rest, rfl, nofun, fun _ => ?_⟩
        rwa [takeLine_line bare]
      | some text =>
        have shorter : rest.length < n := by
          rw [← size, List.length_append, List.length_cons]
          omega
        obtain ⟨lines, left, rfl, formed, bad⟩ := ih rest.length shorter rest rfl
        refine ⟨text :: lines, left, ?_, ?_, bad⟩
        · rw [List.append_cons, Utf8.decode?_eq_some_iff.1 decoded, List.flatten_cons,
            Utf8.encode_append, List.append_assoc]
        · exact List.forall_mem_cons.2 ⟨isLine_of_decode? bare decoded, formed⟩
    · exact ⟨[], bytes, rfl, nofun, fun member => absurd member newlines⟩

end Bytes

/-! ### Reading lines in -/

/-- The lines up to one that is not text, each closed by a newline. -/
def Bytes.readable : List Bytes → List Text
  | [] => []
  | bytes :: rest =>
    match Utf8.decode? bytes with
    | none => []
    | some line => line.closed :: readable rest

def Entry.readable (entry : Entry) : List Text :=
  match entry.content with
  | (content, none) => Bytes.readable (Bytes.lines content)
  | (content, some _) => Bytes.readable (Bytes.wholeLines content)

namespace Bytes

theorem readable_encode (texts : List Text) :
    readable (texts.map Utf8.encode) = texts.map Text.closed := by
  induction texts with
  | nil => rfl
  | cons text rest ih => rw [List.map_cons, readable, Utf8.decode?_encode, ih, List.map_cons]

theorem readable_notText (texts : List Text) {bytes : Bytes} (bad : Utf8.decode? bytes = none)
    (rest : List Bytes) :
    readable (texts.map Utf8.encode ++ bytes :: rest) = texts.map Text.closed := by
  induction texts with
  | nil => rw [List.map_nil, List.nil_append, readable, bad, List.map_nil]
  | cons text texts ih =>
    rw [List.map_cons, List.cons_append, readable, Utf8.decode?_encode, ih, List.map_cons]

end Bytes

namespace Procedure
variable {session : Session} {listing : Listing}

/-- How the reading of lines ends: with their number, or at one that is not text. -/
def readTo (path : Text) (lines : List Bytes) : Except Stop Nat :=
  if (Bytes.readable lines).length = lines.length then .ok lines.length
  else .error (.failed (.file path .notUtf8))

theorem readTo_encode (path : Text) (texts : List Text) :
    readTo path (texts.map Utf8.encode) = .ok texts.length := by
  rw [readTo, Bytes.readable_encode, if_pos (by simp), List.length_map]

theorem readTo_notText (path : Text) (texts : List Text) {bytes : Bytes}
    (bad : Utf8.decode? bytes = none) (rest : List Bytes) :
    readTo path (texts.map Utf8.encode ++ bytes :: rest)
      = .error (.failed (.file path .notUtf8)) := by
  rw [readTo, Bytes.readable_notText texts bad, if_neg (by simp)]

theorem run_insertRead (shows : session.buffer.Shows listing) (path : Text) (lines : List Bytes) :
    ∃ b, b.Shows (listing.insertAll (Bytes.readable lines))
      ∧ (insertRead path lines).run session
        = (readTo path lines, { session with editor.buffer := b }) := by
  induction lines generalizing session listing with
  | nil => exact ⟨session.buffer, shows, rfl⟩
  | cons bytes rest ih =>
    unfold readTo
    rw [insertRead, Bytes.readable]
    cases Utf8.decode? bytes with
    | none => exact ⟨session.buffer, shows, rfl⟩
    | some line =>
      obtain ⟨longer, inserted, more⟩ := shows.insert line.closed
      have next : Buffer.Shows (Session.buffer { session with editor.buffer := longer })
          (listing.insert line.closed) := more
      obtain ⟨b, whole, ran⟩ := ih next
      refine ⟨b, whole, ?_⟩
      dsimp only
      rw [← Text.closed, run_bind, run_insertLine inserted]
      dsimp only
      rw [run_bind, ran, readTo]
      simp only [List.length_cons, Nat.add_right_cancel_iff]
      by_cases all : (Bytes.readable rest).length = rest.length
      · rw [if_pos all, if_pos all]
        rfl
      · rw [if_neg all, if_neg all]

/-- What is left to do once the lines of a file are in: their number is written, or it is a failure
that they are not all. -/
def finishLoad (path : Text) (entry : Entry) : Procedure Unit :=
  match entry.content with
  | (content, none) =>
    match readTo path (Bytes.lines content) with
    | .ok count => writeCount count
    | .error stop => throw stop
  | (content, some refusal) =>
    match readTo path (Bytes.wholeLines content) with
    | .ok _ => fail (.file path refusal)
    | .error stop => throw stop

-- However the loading ends, the lines that can be read are in by then.
theorem run_load (shows : session.buffer.Shows listing) (path : Text) (entry : Entry) (n : Nat) :
    ∃ b, b.Shows ((listing.setCurrent n).insertAll entry.readable)
      ∧ (load path entry n).run session
        = (finishLoad path entry).run { session with editor.buffer := b } := by
  let ready : Session := { session with editor.buffer := session.buffer.setCurrent n }
  have still : ready.buffer.Shows (listing.setCurrent n) := shows.setCurrent n
  unfold Entry.readable finishLoad
  rw [load, run_bind, run_setCurrent]
  rcases entry.content with ⟨content, _ | refusal⟩
  · obtain ⟨b, whole, ran⟩ := run_insertRead still path (Bytes.lines content)
    refine ⟨b, whole, ?_⟩
    dsimp only
    rw [run_bind, ran]
    cases readTo path (Bytes.lines content) <;> rfl
  · obtain ⟨b, whole, ran⟩ := run_insertRead still path (Bytes.wholeLines content)
    refine ⟨b, whole, ?_⟩
    dsimp only
    rw [run_bind, ran]
    cases readTo path (Bytes.wholeLines content) <;> rfl

end Procedure

/-! ### How far a file can be read -/

/-- The file can be read from its start to its end, and has these lines. -/
def Entry.Reads (entry : Entry) (lines : List Text) : Prop :=
  ∃ text : Text, entry.content = (Utf8.encode text, none) ∧ text.Splits lines

/-- The file has these lines, and then it cannot be read. -/
inductive Entry.StopsAfter (entry : Entry) (lines : List Text) : Refusal → Prop where
  -- The next line is not text.
  | notText {rest : Bytes} {broken : Option Refusal} (formed : ∀ line ∈ lines, line.IsLine)
      (content : entry.content = (Utf8.encode lines.flatten ++ rest, broken))
      (whole : broken = none ∨ Bytes.newline ∈ rest)
      (bad : Utf8.decode? (Bytes.takeLine rest).1 = none) : StopsAfter entry lines .notUtf8
  -- Reading fails before the next line has ended.
  | broken {rest : Bytes} {refusal : Refusal} (formed : ∀ line ∈ lines, line.IsLine)
      (content : entry.content = (Utf8.encode lines.flatten ++ rest, some refusal))
      (bare : Bytes.newline ∉ rest) : StopsAfter entry lines refusal

theorem Entry.reads_or_stops (entry : Entry) :
    ∃ lines, entry.Reads lines ∨ ∃ cause, entry.StopsAfter lines cause := by
  rcases content : entry.content with ⟨bytes, broken⟩
  obtain ⟨lines, rest, rfl, formed, bad⟩ := bytes.exists_lines
  by_cases newlines : Bytes.newline ∈ rest
  · exact ⟨lines, .inr ⟨_, .notText formed content (.inr newlines) (bad newlines)⟩⟩
  · cases broken with
    | some refusal => exact ⟨lines, .inr ⟨refusal, .broken formed content newlines⟩⟩
    | none =>
      cases decoded : Utf8.decode? rest with
      | none =>
        have last : Utf8.decode? (Bytes.takeLine rest).1 = none := by
          rwa [Bytes.takeLine_bare newlines]
        exact ⟨lines, .inr ⟨_, .notText formed content (.inl rfl) last⟩⟩
      | some text =>
        obtain ⟨whole, splits⟩ := Text.splits (lines.flatten ++ text)
        rw [Utf8.decode?_eq_some_iff.1 decoded, ← Utf8.encode_append] at content
        exact ⟨whole, .inl ⟨_, content, splits⟩⟩

namespace Entry
variable {entry : Entry} {lines : List Text} {cause : Refusal}

theorem Reads.readable (reads : entry.Reads lines) : entry.readable = lines.map Text.closed := by
  obtain ⟨text, content, splits⟩ := reads
  rw [Entry.readable, content, ← Bytes.readable_encode, ← splits.lines_encode]

theorem Reads.finishLoad (reads : entry.Reads lines) (path : Text) :
    Procedure.finishLoad path entry = Procedure.writeCount lines.length := by
  obtain ⟨text, content, splits⟩ := reads
  rw [Procedure.finishLoad, content]
  dsimp only
  rw [splits.lines_encode, Procedure.readTo_encode]

theorem StopsAfter.loads (stops : entry.StopsAfter lines cause) (path : Text) :
    entry.readable = lines
      ∧ Procedure.finishLoad path entry = Procedure.fail (.file path cause) := by
  unfold Entry.readable Procedure.finishLoad
  cases stops with
  | @notText rest broken formed content whole bad =>
    rw [content]
    cases broken with
    | none =>
      have some : rest ≠ [] := by
        rintro rfl
        cases bad.symm.trans (Utf8.decode?_encode [])
      dsimp only
      rw [Bytes.lines_flatten formed, Bytes.lines_takeLine some,
        Bytes.readable_notText lines bad, Procedure.readTo_notText path lines bad,
        Text.map_closed formed]
      exact ⟨rfl, rfl⟩
    | some refusal =>
      have newlines : Bytes.newline ∈ rest := by simpa using whole
      dsimp only
      rw [Bytes.wholeLines_flatten formed, Bytes.wholeLines_takeLine newlines,
        Bytes.readable_notText lines bad, Procedure.readTo_notText path lines bad,
        Text.map_closed formed]
      exact ⟨rfl, rfl⟩
  | @broken rest refusal formed content bare =>
    rw [content]
    dsimp only
    rw [Bytes.wholeLines_flatten formed, Bytes.wholeLines_bare bare, List.append_nil,
      Bytes.readable_encode, Procedure.readTo_encode, Text.map_closed formed]
    exact ⟨rfl, rfl⟩

end Entry

end LineEditor
