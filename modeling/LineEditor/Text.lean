/-!
Text as the editor sees it: a list of characters, and the bytes that encode it. A line is a body
without a newline and then its newline; patterns look at the body. The byte of the newline stands
for nothing else in encoded text, so bytes fall into lines where their text does.
-/

namespace LineEditor

abbrev Text := List Char

def isBlank (c : Char) : Bool := c = ' ' || c = '\t'

/-- Only the ten ASCII digits write a number. -/
def isDigit (c : Char) : Bool := '0' ≤ c && c ≤ '9'

def isHexDigit (c : Char) : Bool := isDigit c || ('a' ≤ c && c ≤ 'f') || ('A' ≤ c && c ≤ 'F')

/-- A letter differs from its other case in one bit. -/
def hexDigitValue (c : Char) : Nat :=
  if isDigit c then c.toNat - '0'.toNat else (c.toNat ||| 0x20) - 'a'.toNat + 10

def hexValue (digits : List Char) : Nat :=
  digits.foldl (fun n c => 16 * n + hexDigitValue c) 0

namespace Text

/-- The text without the newline that ends it, if one does. -/
def body (text : Text) : Text :=
  if text.getLast? = some '\n' then text.dropLast else text

def terminator (text : Text) : Text :=
  if text.getLast? = some '\n' then ['\n'] else []

def isBlank (text : Text) : Bool := text.all LineEditor.isBlank

theorem body_append_terminator (text : Text) : text.body ++ text.terminator = text := by
  unfold body terminator
  split
  · rename_i ends
    obtain ⟨front, same⟩ := List.getLast?_eq_some_iff.1 ends
    simp [same]
  · exact List.append_nil text

end Text

/-! ### Bytes -/

abbrev Bytes := List UInt8

namespace Utf8

def encode (text : Text) : Bytes := text.flatMap String.utf8EncodeChar

def decode? (bytes : Bytes) : Option Text :=
  (String.fromUTF8? bytes.toByteArray).map (·.toList)

theorem toByteArray_ofList (text : Text) :
    (String.ofList text).toByteArray = (encode text).toByteArray := by
  rw [String.toByteArray_ofList]
  rfl

theorem toByteArray_inj {a b : Bytes} (same : a.toByteArray = b.toByteArray) : a = b := by
  rw [← List.toList_data_toByteArray (l := a), same, List.toList_data_toByteArray]

theorem decode?_eq_some_iff {bytes : Bytes} {text : Text} :
    decode? bytes = some text ↔ bytes = encode text := by
  unfold decode? String.fromUTF8?
  split
  · rename_i valid
    have same : (String.fromUTF8 bytes.toByteArray valid).toByteArray = bytes.toByteArray := rfl
    simp only [Option.map_some, Option.some.injEq]
    constructor
    · rintro rfl
      apply toByteArray_inj
      rw [← toByteArray_ofList, String.ofList_toList, same]
    · intro equal
      have : String.fromUTF8 bytes.toByteArray valid = String.ofList text := by
        rw [← String.toByteArray_inj, same, toByteArray_ofList, equal]
      rw [this, String.toList_ofList]
  · rename_i invalid
    simp only [Option.map_none, reduceCtorEq, false_iff]
    rintro rfl
    rw [← toByteArray_ofList] at invalid
    exact invalid (String.ofList text).isValidUTF8

theorem decode?_encode (text : Text) : decode? (encode text) = some text :=
  decode?_eq_some_iff.2 rfl

theorem encode_append (first second : Text) :
    encode (first ++ second) = encode first ++ encode second := List.flatMap_append

end Utf8

namespace Bytes

def newline : UInt8 := 10

/-- The first line, its newline included, and what follows. -/
def takeLine : Bytes → Bytes × Bytes
  | [] => ([], [])
  | b :: rest =>
    if b = newline then ([b], rest)
    else
      let (line, rest) := takeLine rest
      (b :: line, rest)

theorem length_takeLine_lt (b : UInt8) (rest : Bytes) :
    (takeLine (b :: rest)).2.length < (b :: rest).length := by
  induction rest generalizing b with
  | nil => simp only [takeLine]; split <;> simp
  | cons next rest ih =>
    have shorter := ih next
    rw [takeLine]
    split
    · simp
    · exact Nat.lt_succ_of_lt shorter

theorem takeLine_suffix (bytes : Bytes) : (takeLine bytes).2 <:+ bytes := by
  induction bytes with
  | nil => exact List.suffix_refl []
  | cons b rest ih =>
    rw [takeLine]
    split
    · exact List.suffix_cons b rest
    · exact ih.trans (List.suffix_cons b rest)

/-- The lines, each with its newline; the last one may lack it. -/
def lines : Bytes → List Bytes
  | [] => []
  | b :: rest =>
    if b = newline then [b] :: lines rest
    else
      match lines rest with
      | [] => [[b]]
      | line :: others => (b :: line) :: others

def wholeLines (bytes : Bytes) : List Bytes :=
  (lines bytes).filter fun line => line.getLast? = some newline

end Bytes

namespace Text

def dropCarriage (line : Text) : Text :=
  if ['\r', '\n'].isSuffixOf line then line.take (line.length - 2) ++ ['\n'] else line

end Text

/-- The line that bytes from the input mean, if they are a whole line of text. -/
def Bytes.typedLine? (bytes : Bytes) : Option Text :=
  match Utf8.decode? bytes with
  | none => none
  | some line => if line.getLast? = some '\n' then some line.dropCarriage else none

/-! ### Lines -/

/-- A body without a newline, and then one newline. -/
def Text.IsLine (text : Text) : Prop := ∃ body, '\n' ∉ body ∧ text = body ++ ['\n']

namespace Text

theorem isLine_append {body : Text} (bare : '\n' ∉ body) : (body ++ ['\n']).IsLine :=
  ⟨body, bare, rfl⟩

theorem body_append_newline (body : Text) : (body ++ ['\n']).body = body := by
  simp [Text.body]

theorem IsLine.body_append {text : Text} (line : text.IsLine) : text.body ++ ['\n'] = text := by
  obtain ⟨body, _, rfl⟩ := line
  rw [body_append_newline]

theorem IsLine.newline_not_mem_body {text : Text} (line : text.IsLine) : '\n' ∉ text.body := by
  obtain ⟨body, bare, rfl⟩ := line
  rwa [body_append_newline]

theorem IsLine.terminator {text : Text} (line : text.IsLine) : text.terminator = ['\n'] := by
  obtain ⟨body, _, rfl⟩ := line
  simp [Text.terminator]

theorem newline_not_mem_body {text : Text} (bare : '\n' ∉ text.dropLast) : '\n' ∉ text.body := by
  unfold Text.body
  split
  · exact bare
  · rename_i other
    rcases List.eq_nil_or_concat text with rfl | ⟨front, c, rfl⟩
    · exact List.not_mem_nil
    · rw [List.concat_eq_append] at bare other ⊢
      rw [List.dropLast_concat] at bare
      rw [List.getLast?_concat, Option.some.injEq] at other
      simp [bare, Ne.symm other]

theorem isLine_of_dropLast {text : Text} (bare : '\n' ∉ text.dropLast)
    (ends : text.getLast? = some '\n') : text.IsLine := by
  obtain ⟨front, rfl⟩ := List.getLast?_eq_some_iff.1 ends
  rw [List.dropLast_concat] at bare
  exact isLine_append bare

theorem IsLine.dropCarriage {text : Text} (line : text.IsLine) : text.dropCarriage.IsLine := by
  obtain ⟨body, bare, rfl⟩ := line
  unfold Text.dropCarriage
  split
  · have shorter : (body ++ ['\n']).take ((body ++ ['\n']).length - 2)
        = body.take (body.length - 1) := by
      rw [List.length_append, List.length_singleton, List.take_append_of_le_length (by omega)]
      rfl
    rw [shorter]
    exact isLine_append fun member => bare (List.mem_of_mem_take member)
  · exact isLine_append bare

end Text

/-! ### Encoded newlines -/

namespace Utf8

theorem encode_cons (c : Char) (text : Text) :
    encode (c :: text) = String.utf8EncodeChar c ++ encode text := List.flatMap_cons

theorem encode_newline : String.utf8EncodeChar '\n' = [Bytes.newline] := rfl

theorem encodeChar_ne_nil (c : Char) : String.utf8EncodeChar c ≠ [] := by
  intro empty
  have length := String.length_utf8EncodeChar c
  rw [empty, List.length_nil] at length
  exact Nat.ne_of_gt c.utf8Size_pos length.symm

-- A character of one byte is that byte, and the bytes of a longer one have their high bit set.
theorem newline_not_mem_encodeChar {c : Char} (other : c ≠ '\n') :
    Bytes.newline ∉ String.utf8EncodeChar c := by
  intro member
  unfold String.utf8EncodeChar at member
  have newline : Bytes.newline.toNat = 10 := rfl
  have values := List.mem_map_of_mem (f := UInt8.toNat) member
  rw [newline] at values
  dsimp only at values
  split at values
  · rename_i small
    apply other
    apply Char.ext
    apply UInt32.toNat_inj.1
    simp only [List.map_cons, List.map_nil, List.mem_singleton, UInt8.toNat_ofNat'] at values
    rw [Nat.mod_eq_of_lt (by omega)] at values
    exact values.symm
  · split at values
    · simp only [List.map_cons, List.map_nil, List.mem_cons, UInt8.toNat_ofNat',
        List.not_mem_nil, or_false] at values
      omega
    · split at values <;>
      · simp only [List.map_cons, List.map_nil, List.mem_cons, UInt8.toNat_ofNat',
          List.not_mem_nil, or_false] at values
        omega

theorem newline_mem_encode {text : Text} : Bytes.newline ∈ encode text ↔ '\n' ∈ text := by
  constructor
  · intro member
    obtain ⟨c, inText, inChar⟩ := List.mem_flatMap.1 member
    by_cases same : c = '\n'
    · rwa [same] at inText
    · exact absurd inChar (newline_not_mem_encodeChar same)
  · intro member
    exact List.mem_flatMap.2 ⟨'\n', member, List.mem_singleton.2 rfl⟩

theorem getLast?_encode {text : Text} :
    (encode text).getLast? = some Bytes.newline ↔ text.getLast? = some '\n' := by
  rcases List.eq_nil_or_concat text with rfl | ⟨front, c, rfl⟩
  · simp [encode]
  · have last : encode [c] = String.utf8EncodeChar c := by simp [encode]
    rw [List.concat_eq_append, encode_append, last, List.getLast?_concat, Option.some.injEq,
      List.getLast?_append]
    cases ends : (String.utf8EncodeChar c).getLast? with
    | none => exact absurd (List.getLast?_eq_none_iff.1 ends) (encodeChar_ne_nil c)
    | some b =>
      rw [Option.some_or, Option.some.injEq]
      constructor
      · rintro rfl
        by_cases same : c = '\n'
        · exact same
        · exact absurd (List.mem_of_getLast? ends) (newline_not_mem_encodeChar same)
      · rintro rfl
        exact (Option.some.inj ends).symm

theorem newline_not_mem_dropLast {text : Text} (bare : Bytes.newline ∉ (encode text).dropLast) :
    '\n' ∉ text.dropLast := by
  rcases List.eq_nil_or_concat text with rfl | ⟨front, c, rfl⟩
  · exact List.not_mem_nil
  · rw [List.concat_eq_append] at bare ⊢
    rw [List.dropLast_concat]
    intro member
    apply bare
    have last : encode [c] ≠ [] := by
      rw [encode_cons]
      exact List.append_ne_nil_of_left_ne_nil (encodeChar_ne_nil c) _
    rw [encode_append, List.dropLast_append_of_ne_nil last]
    exact List.mem_append_left _ (newline_mem_encode.2 member)

end Utf8

/-! ### Bytes in lines -/

namespace Bytes

theorem newline_not_mem_takeLine (bytes : Bytes) : newline ∉ (takeLine bytes).1.dropLast := by
  induction bytes with
  | nil => exact List.not_mem_nil
  | cons b rest ih =>
    rw [takeLine]
    split
    · exact List.not_mem_nil
    · rename_i other
      cases taken : (takeLine rest).1 with
      | nil => simp [taken]
      | cons next line =>
        rw [taken] at ih
        simp [taken, Ne.symm other, ih]

theorem newline_not_mem_lines {bytes line : Bytes} (member : line ∈ lines bytes) :
    newline ∉ line.dropLast := by
  induction bytes generalizing line with
  | nil => cases member
  | cons b rest ih =>
    rw [lines] at member
    split at member
    · rcases List.mem_cons.1 member with rfl | later
      · exact List.not_mem_nil
      · exact ih later
    · rename_i other
      split at member
      · rw [List.mem_singleton.1 member]
        exact List.not_mem_nil
      · rename_i first others split
        rw [split] at ih
        rcases List.mem_cons.1 member with rfl | later
        · have inside := ih List.mem_cons_self
          cases first with
          | nil => exact List.not_mem_nil
          | cons next first => simp [Ne.symm other, inside]
        · exact ih (List.mem_cons_of_mem _ later)

theorem typedLine?_isLine {bytes : Bytes} {line : Text} (bare : newline ∉ bytes.dropLast)
    (typed : bytes.typedLine? = some line) : line.IsLine := by
  unfold typedLine? at typed
  split at typed
  · cases typed
  · rename_i text decoded
    split at typed
    · rename_i ends
      cases typed
      rw [Utf8.decode?_eq_some_iff.1 decoded] at bare
      exact (Text.isLine_of_dropLast (Utf8.newline_not_mem_dropLast bare) ends).dropCarriage
    · cases typed

-- Its newline added where it lacks one, what is read as a line is one.
theorem decode?_isLine {bytes : Bytes} {text : Text} (bare : newline ∉ bytes.dropLast)
    (decoded : Utf8.decode? bytes = some text) : (text.body ++ ['\n']).IsLine := by
  rw [Utf8.decode?_eq_some_iff.1 decoded] at bare
  exact Text.isLine_append (Text.newline_not_mem_body (Utf8.newline_not_mem_dropLast bare))

end Bytes

end LineEditor
