import LineEditor.Pattern
import LineEditor.Proofs.Pattern.Literal
import LineEditor.Proofs.Statement.Accepted
import Mathlib
import Mathlib.Logic.ExistsUnique

/-!
Patterns token by token: a backslash with the character after it, or one plain character. Between
delimiters a pattern is written with a backslash before each plain delimiter. Which pattern it ends
up as is settled by three rewritings in turn: the scan for the closing delimiter, which takes tokens
whole, the unescaping, which only looks at the next character, and the translation from the flavor.
-/

namespace LineEditor.Pattern

inductive Token where
  | plain (c : Char) (bare : c ≠ '\\')
  | escaped (c : Char)
  deriving DecidableEq

namespace Token

def text : Token → Text
  | plain c _ => [c]
  | escaped c => ['\\', c]

def spell (tokens : List Token) : Text := tokens.flatMap text

/-- The tokens of a text from the left; none where a backslash dangles at the end. -/
def read : Text → Option (List Token)
  | [] => some []
  | c :: rest =>
    if bare : c ≠ '\\' then (read rest).map (plain c bare :: ·)
    else match rest with
      | [] => none
      | c :: rest => (read rest).map (escaped c :: ·)

@[simp] theorem spell_nil : spell [] = [] := rfl

@[simp] theorem spell_cons (token : Token) (tokens : List Token) :
    spell (token :: tokens) = token.text ++ spell tokens := rfl

theorem read_spell (tokens : List Token) : read (spell tokens) = some tokens := by
  induction tokens with
  | nil => rfl
  | cons token tokens ih =>
    cases token with
    | plain c bare =>
      rw [spell_cons, text, List.singleton_append, read.eq_def]
      simp [bare, ih]
    | escaped c => simp [text, read, ih]

theorem spell_of_read {pattern : Text} {tokens : List Token}
    (tokened : read pattern = some tokens) : spell tokens = pattern := by
  fun_induction read pattern generalizing tokens with
  | case1 =>
    cases tokened
    rfl
  | case2 c rest bare ih =>
    obtain ⟨others, found, rfl⟩ := Option.map_eq_some_iff.1 tokened
    simp [text, ih found]
  | case3 => cases tokened
  | case4 c backslash next rest ih =>
    obtain ⟨others, found, rfl⟩ := Option.map_eq_some_iff.1 tokened
    simp [text, ih found, Decidable.not_not.1 backslash]

/-! ### Translation -/

/-- The edges of words, which the common notation does not tell apart. -/
def IsEdge (token : Token) : Prop := token = escaped '<' ∨ token = escaped '>'

instance (token : Token) : Decidable token.IsEdge := inferInstanceAs (Decidable (_ ∨ _))

theorem bare_of_isOperator {c : Char} (operator : isOperator c = true) : c ≠ '\\' := by
  rintro rfl
  cases operator

def translate : Token → Token
  | plain c bare => if isOperator c then escaped c else plain c bare
  | escaped c =>
    if operator : isOperator c = true then plain c (bare_of_isOperator operator)
    else if c = '<' ∨ c = '>' then escaped 'b'
    else escaped c

theorem ofBasic_text_append (token : Token) (rest : Text) :
    ofBasic (token.text ++ rest) = token.translate.text ++ ofBasic rest := by
  cases token with
  | plain c bare =>
    by_cases operator : isOperator c = true
    · simp [text, translate, ofBasic, operator, bare]
    · simp [text, translate, ofBasic, operator, bare]
  | escaped c =>
    by_cases operator : isOperator c = true
    · simp [text, translate, ofBasic, operator]
    · by_cases edge : c = '<' ∨ c = '>'
      · simp [text, translate, ofBasic, operator, edge]
      · simp [text, translate, ofBasic, operator, edge]

-- Nothing that comes before a token, or after it, makes a difference to it.
theorem ofBasic_spell_append (tokens : List Token) (rest : Text) :
    ofBasic (spell tokens ++ rest) = spell (tokens.map translate) ++ ofBasic rest := by
  induction tokens with
  | nil => rfl
  | cons token tokens ih => simp [ofBasic_text_append, ih]

theorem ofBasic_spell (tokens : List Token) :
    ofBasic (spell tokens) = spell (tokens.map translate) := by
  simpa [ofBasic] using ofBasic_spell_append tokens []

theorem not_isEdge_translate {token : Token} (other : ¬token.IsEdge) :
    ¬token.translate.IsEdge := by
  cases token with
  | plain c bare =>
    by_cases operator : isOperator c = true
    · have notEdge : ¬(c = '<' ∨ c = '>') := by
        rintro (rfl | rfl) <;> cases operator
      simpa [translate, operator, IsEdge] using notEdge
    · simp [translate, operator, IsEdge]
  | escaped c =>
    by_cases operator : isOperator c = true
    · simp [translate, operator, IsEdge]
    · simp_all [translate, IsEdge]

theorem translate_translate {token : Token} (other : ¬token.IsEdge) :
    token.translate.translate = token := by
  cases token with
  | plain c bare =>
    by_cases operator : isOperator c = true
    · simp [translate, operator]
    · simp [translate, operator]
  | escaped c =>
    by_cases operator : isOperator c = true
    · simp [translate, operator]
    · simp_all [translate, IsEdge]

theorem map_translate_translate {tokens : List Token}
    (others : ∀ token ∈ tokens, ¬token.IsEdge) :
    (tokens.map translate).map translate = tokens := by
  rw [List.map_map]
  calc tokens.map (translate ∘ translate)
    _ = tokens.map id :=
        List.map_congr_left fun token member => translate_translate (others token member)
    _ = tokens := List.map_id tokens

end Token

def Complete (pattern : Text) : Prop := ∃ tokens, Token.read pattern = some tokens

def EdgeFree (pattern : Text) : Prop :=
  ∃ tokens, Token.read pattern = some tokens ∧ ∀ token ∈ tokens, ¬token.IsEdge

namespace EdgeFree
variable {pattern : Text}

theorem translated (free : EdgeFree pattern) : EdgeFree (ofBasic pattern) := by
  obtain ⟨tokens, tokened, others⟩ := free
  refine ⟨tokens.map Token.translate, ?_, ?_⟩
  · rw [← Token.spell_of_read tokened, Token.ofBasic_spell]
    exact Token.read_spell _
  · simpa using fun token member => Token.not_isEdge_translate (others token member)

theorem ofBasic_ofBasic (free : EdgeFree pattern) : ofBasic (ofBasic pattern) = pattern := by
  obtain ⟨tokens, tokened, others⟩ := free
  rw [← Token.spell_of_read tokened, Token.ofBasic_spell, Token.ofBasic_spell,
    Token.map_translate_translate others]

end EdgeFree

theorem ofBasic_append {pattern : Text} (complete : Complete pattern) (rest : Text) :
    ofBasic (pattern ++ rest) = ofBasic pattern ++ ofBasic rest := by
  obtain ⟨tokens, tokened⟩ := complete
  rw [← Token.spell_of_read tokened, Token.ofBasic_spell_append, Token.ofBasic_spell]

/-- The basic notation is translated token by token. Without the edges of words the translation
undoes itself, so each pattern in the common notation is the translation of exactly one in the basic
notation. A pattern in which no backslash dangles is translated for itself, whatever comes after
it. -/
theorem basic_translation_undoes_itself :
    (∀ tokens, ofBasic (Token.spell tokens) = Token.spell (tokens.map Token.translate))
      ∧ (∀ pattern, EdgeFree pattern → ofBasic (ofBasic pattern) = pattern)
      ∧ (∀ common, EdgeFree common → ∃! basic, EdgeFree basic ∧ ofBasic basic = common)
      ∧ ∀ pattern rest, Complete pattern →
        ofBasic (pattern ++ rest) = ofBasic pattern ++ ofBasic rest := by
  refine ⟨Token.ofBasic_spell, ?_, ?_, ?_⟩
  · intro pattern free
    exact free.ofBasic_ofBasic
  · intro common free
    refine ⟨ofBasic common, ⟨free.translated, free.ofBasic_ofBasic⟩, ?_⟩
    rintro basic ⟨basic_free, rfl⟩
    exact basic_free.ofBasic_ofBasic.symm
  · intro pattern rest complete
    exact ofBasic_append complete rest

/-- `\(a+\)\\(` is a group, a backslash and a parenthesis. -/
def groupThenParenthesis : Text := ['\\', '(', 'a', '+', '\\', ')', '\\', '\\', '(']

theorem groupThenParenthesis_translates_back :
    EdgeFree groupThenParenthesis ∧ Complete groupThenParenthesis
      ∧ ofBasic groupThenParenthesis = ['(', 'a', '\\', '+', ')', '\\', '\\', '\\', '(']
      ∧ ofBasic (ofBasic groupThenParenthesis) = groupThenParenthesis
      ∧ (∃! basic, EdgeFree basic ∧ ofBasic basic = groupThenParenthesis)
      ∧ ofBasic (groupThenParenthesis ++ ['+', 'b'])
        = ofBasic groupThenParenthesis ++ ofBasic ['+', 'b'] := by
  obtain ⟨_, back, only, piecewise⟩ := basic_translation_undoes_itself
  have free : EdgeFree groupThenParenthesis := ⟨_, rfl, by decide⟩
  have complete : Complete groupThenParenthesis := ⟨_, rfl⟩
  refine ⟨free, complete, by decide, back _ free, only _ free, piecewise _ _ complete⟩

/-! ### Between delimiters -/

variable {delimiter : Char}

/-- A delimiter closes what stands in front of it: no token reaches over it. -/
def HasBare (delimiter : Char) (line : Text) : Prop :=
  ∃ front back, Complete front ∧ line = front ++ delimiter :: back

namespace Token

def enclose (delimiter : Char) : Token → Token
  | plain c bare => if c = delimiter then escaped c else plain c bare
  | escaped c => escaped c

@[simp] theorem spell_append (front back : List Token) :
    spell (front ++ back) = spell front ++ spell back := List.flatMap_append

/-! ### Scanning -/

theorem delimited_spell (notBackslash : delimiter ≠ '\\') {tokens : List Token}
    (none : plain delimiter notBackslash ∉ tokens) : Delimited delimiter (spell tokens) := by
  induction tokens with
  | nil => exact .nil
  | cons token tokens ih =>
    have rest := ih fun member => none (List.mem_cons_of_mem _ member)
    cases token with
    | plain c bare =>
      have other : c ≠ delimiter := by
        rintro rfl
        exact none List.mem_cons_self
      exact .plain bare other rest
    | escaped c => exact .escaped (fun backslash => absurd backslash notBackslash) rest

theorem plain_not_mem_enclose (notBackslash : delimiter ≠ '\\') (tokens : List Token) :
    plain delimiter notBackslash ∉ tokens.map (enclose delimiter) := by
  rw [List.mem_map]
  rintro ⟨token, -, same⟩
  cases token with
  | plain c bare => by_cases delimits : c = delimiter <;> simp_all [enclose]
  | escaped c => cases same

theorem delimited_enclose (notBackslash : delimiter ≠ '\\') (tokens : List Token) :
    Delimited delimiter (spell (tokens.map (enclose delimiter))) :=
  delimited_spell notBackslash (plain_not_mem_enclose notBackslash tokens)

end Token

theorem complete_of_delimited {text : Text} (delimited : Delimited delimiter text) :
    Complete text := by
  induction delimited with
  | nil => exact ⟨[], rfl⟩
  | @escaped c rest _ _ ih =>
    obtain ⟨tokens, tokened⟩ := ih
    exact ⟨.escaped c :: tokens, by simp [Token.read, tokened]⟩
  | @plain c rest bare _ _ ih =>
    obtain ⟨tokens, tokened⟩ := ih
    exact ⟨.plain c bare :: tokens, by rw [Token.read.eq_def]; simp [bare, tokened]⟩

-- The first delimiter that closes anything closes what has none.
theorem hasBare_iff (notBackslash : delimiter ≠ '\\') (line : Text) :
    HasBare delimiter line
      ↔ ∃ taken left, Delimited delimiter taken ∧ line = taken ++ delimiter :: left := by
  constructor
  · rintro ⟨front, back, ⟨tokens, tokened⟩, rfl⟩
    rw [← Token.spell_of_read tokened]
    by_cases member : .plain delimiter notBackslash ∈ tokens
    · obtain ⟨first, others, rfl, none⟩ := List.eq_append_cons_of_mem member
      exact ⟨Token.spell first, Token.spell others ++ delimiter :: back,
        Token.delimited_spell notBackslash none, by simp [Token.text]⟩
    · exact ⟨Token.spell tokens, back, Token.delimited_spell notBackslash member, rfl⟩
  · rintro ⟨taken, left, delimited, rfl⟩
    exact ⟨taken, left, complete_of_delimited delimited, rfl⟩

theorem cut_eq_none_iff (notBackslash : delimiter ≠ '\\') (line : Text) :
    Scan.cut delimiter line = none ↔ ¬HasBare delimiter line := by
  rw [hasBare_iff notBackslash]
  constructor
  · rintro found ⟨taken, left, delimited, rfl⟩
    rw [Scan.cut_append delimited fun backslash => absurd backslash notBackslash] at found
    cases found
  · intro none
    cases found : Scan.cut delimiter line with
    | none => rfl
    | some both =>
      obtain ⟨taken, left⟩ := both
      exact absurd ⟨taken, left, (Scan.delimited_of_cut found).1, Scan.cut_eq found⟩ none

theorem on_delimited_eq_none_iff (notBackslash : delimiter ≠ '\\') (line : Text) :
    (Scan.delimited delimiter).on line = (.ok none, line) ↔ ¬HasBare delimiter line := by
  rw [← cut_eq_none_iff notBackslash, Scan.on_delimited]
  cases Scan.cut delimiter line <;> simp

/-! ### Unescaping -/

theorem dropEscapes_cons {c : Char} (plain : c ≠ '\\') (rest : Text) :
    dropEscapes delimiter (c :: rest) = c :: dropEscapes delimiter rest := by
  cases rest <;> simp [dropEscapes, plain]

theorem dropEscapes_escaped (rest : Text) (notBackslash : delimiter ≠ '\\') :
    dropEscapes delimiter ('\\' :: delimiter :: rest)
      = delimiter :: dropEscapes delimiter rest := by
  simp [dropEscapes, dropEscapes_cons notBackslash]

-- A backslash goes only with the delimiter behind it, whatever stands in front of the backslash.
theorem dropEscapes_backslash {rest : Text} (apart : rest.head? ≠ some delimiter) :
    dropEscapes delimiter ('\\' :: rest) = '\\' :: dropEscapes delimiter rest := by
  cases rest with
  | nil => rfl
  | cons c rest =>
    have other : c ≠ delimiter := by simpa using apart
    simp [dropEscapes, other]

theorem head?_ne_of_delimited (notBackslash : delimiter ≠ '\\') {text : Text}
    (delimited : Delimited delimiter text) : text.head? ≠ some delimiter := by
  cases delimited with
  | nil => simp
  | escaped => simpa using notBackslash.symm
  | plain _ other => simpa using other

theorem dropEscapes_enclose (notBackslash : delimiter ≠ '\\') {tokens : List Token}
    (none : .escaped delimiter ∉ tokens) :
    dropEscapes delimiter (Token.spell (tokens.map (Token.enclose delimiter)))
      = Token.spell tokens := by
  induction tokens with
  | nil => rfl
  | cons token tokens ih =>
    have rest := ih fun member => none (List.mem_cons_of_mem _ member)
    have apart := head?_ne_of_delimited notBackslash (Token.delimited_enclose notBackslash tokens)
    rw [List.map_cons, Token.spell_cons, Token.spell_cons]
    cases token with
    | plain c bare =>
      by_cases delimits : c = delimiter
      · subst delimits
        simp [Token.enclose, Token.text, dropEscapes_escaped _ notBackslash, rest]
      · simp [Token.enclose, Token.text, delimits, dropEscapes_cons bare, rest]
    | escaped c =>
      have other : c ≠ delimiter := by
        rintro rfl
        exact none List.mem_cons_self
      rw [Token.enclose, Token.text, List.cons_append, List.cons_append, List.nil_append,
        dropEscapes_backslash (by simpa using other)]
      by_cases backslash : c = '\\'
      · subst backslash
        simp [dropEscapes_backslash apart, rest]
      · simp [dropEscapes_cons backslash, rest]

/-- Any pattern can be written between delimiters that mean nothing in patterns: with a backslash
before each plain delimiter it is taken whole, and it arrives as it was. The scan finds no end
exactly where no delimiter closes the text, and then it takes nothing. -/
theorem enclosed_pattern_arrives {delimiter : Char}
    (ordinary : delimiter ≠ '\\' ∧ isMeta delimiter = false) :
    (∀ pattern tokens rest, Token.read pattern = some tokens → .escaped delimiter ∉ tokens →
        let written := Token.spell (tokens.map (Token.enclose delimiter))
        (Scan.delimited delimiter).on (written ++ delimiter :: rest) = (.ok (some written), rest)
          ∧ unescapeDelimiter written delimiter = pattern)
      ∧ ∀ line, (Scan.delimited delimiter).on line = (.ok none, line) ↔ ¬HasBare delimiter line := by
  obtain ⟨notBackslash, meaningless⟩ := ordinary
  constructor
  · intro pattern tokens rest tokened none written
    constructor
    · exact Scan.delimited_append (Token.delimited_enclose notBackslash tokens)
        fun backslash => absurd backslash notBackslash
    · rw [unescapeDelimiter, if_neg (by simp [notBackslash, meaningless]),
        dropEscapes_enclose notBackslash none, Token.spell_of_read tokened]
  · exact on_delimited_eq_none_iff notBackslash

/-- `a→\\→\n` has a delimiter behind an escaped backslash. It is written `a\→\\\→\n`. -/
def arrows : Text := ['a', '→', '\\', '\\', '→', '\\', 'n']

theorem arrows_arrive :
    ('→' ≠ '\\' ∧ isMeta '→' = false)
      ∧ (∃ tokens, Token.read arrows = some tokens ∧ .escaped '→' ∉ tokens)
      ∧ (let written := ['a', '\\', '→', '\\', '\\', '\\', '→', '\\', 'n']
        (Scan.delimited '→').on (written ++ ['→', 'p']) = (.ok (some written), ['p'])
          ∧ unescapeDelimiter written '→' = arrows)
      ∧ (Scan.delimited '→').on ['a', '\\', '→', '\\'] = (.ok none, ['a', '\\', '→', '\\'])
      ∧ ¬HasBare '→' ['a', '\\', '→', '\\'] := by
  have ordinary : '→' ≠ '\\' ∧ isMeta '→' = false := by decide
  obtain ⟨arrives, unclosed⟩ := enclosed_pattern_arrives ordinary
  have scanned : (Scan.delimited '→').on ['a', '\\', '→', '\\']
      = (.ok none, ['a', '\\', '→', '\\']) := rfl
  exact ⟨ordinary, ⟨_, rfl, by decide⟩, arrives arrows _ ['p'] rfl (by decide), scanned,
    (unclosed _).1 scanned⟩

/-! ### Words -/

def escapeDelimiter (delimiter : Char) (word : Text) : Text :=
  word.flatMap fun c => if c = delimiter then ['\\', c] else [c]

theorem escapeDelimiter_cons (delimiter c : Char) (word : Text) :
    escapeDelimiter delimiter (c :: word)
      = (if c = delimiter then ['\\', c] else [c]) ++ escapeDelimiter delimiter word :=
  List.flatMap_cons

/-- In this flavor the escaped delimiter is an operator, and the word has one. -/
def Misread (flavor : Flavor) (delimiter : Char) (word : Text) : Prop :=
  flavor = .basic ∧ isOperator delimiter ∧ delimiter ∈ word

instance (flavor : Flavor) (delimiter : Char) (word : Text) :
    Decidable (Misread flavor delimiter word) :=
  inferInstanceAs (Decidable (_ ∧ _))

theorem isMeta_of_isOperator {c : Char} (operator : isOperator c) : isMeta c := by
  simp only [isOperator, List.contains_eq_mem, decide_eq_true_eq, List.mem_cons, List.not_mem_nil,
    or_false] at operator
  rcases operator with rfl | rfl | rfl | rfl | rfl | rfl | rfl <;> decide

theorem IsPlain.not_isOperator {c : Char} (plain : IsPlain c) : isOperator c = false := by
  cases operator : isOperator c with
  | false => rfl
  | true => exact absurd (isMeta_of_isOperator operator) (by simp [plain.2])

variable {delimiter : Char} {word : Text}

-- Without backslashes each character of the word is a token, so that it is written as any pattern.
theorem exists_tokens (notBackslash : delimiter ≠ '\\')
    (spelled : ∀ c ∈ word, c = delimiter ∨ IsPlain c) :
    ∃ tokens, Token.spell tokens = word ∧ (∀ c, .escaped c ∉ tokens)
      ∧ escapeDelimiter delimiter word = Token.spell (tokens.map (Token.enclose delimiter)) := by
  induction word with
  | nil => exact ⟨[], rfl, by simp, rfl⟩
  | cons c word ih =>
    obtain ⟨tokens, same, none, written⟩ :=
      ih fun c member => spelled c (List.mem_cons_of_mem _ member)
    have bare : c ≠ '\\' := by
      rcases spelled c List.mem_cons_self with rfl | plain
      · exact notBackslash
      · exact plain.1
    refine ⟨.plain c bare :: tokens, by simp [Token.text, same], by simp [none], ?_⟩
    rw [escapeDelimiter_cons, written]
    by_cases delimits : c = delimiter <;> simp [Token.enclose, Token.text, delimits]

theorem delimited_escapeDelimiter (notBackslash : delimiter ≠ '\\')
    (spelled : ∀ c ∈ word, c = delimiter ∨ IsPlain c) :
    Delimited delimiter (escapeDelimiter delimiter word) := by
  obtain ⟨tokens, -, -, written⟩ := exists_tokens notBackslash spelled
  rw [written]
  exact Token.delimited_enclose notBackslash tokens

/-! ### Unescaping -/

theorem dropEscapes_escapeDelimiter (notBackslash : delimiter ≠ '\\')
    (spelled : ∀ c ∈ word, c = delimiter ∨ IsPlain c) :
    dropEscapes delimiter (escapeDelimiter delimiter word) = word := by
  obtain ⟨tokens, same, none, written⟩ := exists_tokens notBackslash spelled
  rw [written, dropEscapes_enclose notBackslash (none delimiter), same]

theorem literal_of_not_isMeta (bare : isMeta delimiter = false) (word : Text) :
    literal delimiter word = word := by
  simp [literal, bare]

theorem unescapeDelimiter_escapeDelimiter (notBackslash : delimiter ≠ '\\')
    (spelled : ∀ c ∈ word, c = delimiter ∨ IsPlain c) :
    unescapeDelimiter (escapeDelimiter delimiter word) delimiter = literal delimiter word := by
  cases operator : isMeta delimiter with
  | true => simp [unescapeDelimiter, operator, literal, escapeDelimiter]
  | false =>
    rw [unescapeDelimiter, if_neg (by simp [operator, notBackslash]),
      dropEscapes_escapeDelimiter notBackslash spelled, literal_of_not_isMeta operator]

/-! ### The flavor -/

theorem ofBasic_cons {c : Char} (plain : IsPlain c) (rest : Text) :
    ofBasic (c :: rest) = c :: ofBasic rest := by
  have keep : isOperator c = false := plain.not_isOperator
  rw [ofBasic] <;> simp [keep, plain.1]

theorem ofBasic_escaped {c : Char} (escaped : isMeta c) (rest : Text) :
    ofBasic ('\\' :: c :: rest)
      = (if isOperator c then [c] else ['\\', c]) ++ ofBasic rest := by
  have edge : ¬(c = '<' ∨ c = '>') := by
    rintro (rfl | rfl) <;> cases escaped
  rw [ofBasic, if_neg edge]
  split <;> rfl

theorem ofBasic_literal (notBackslash : delimiter ≠ '\\')
    (spelled : ∀ c ∈ word, c = delimiter ∨ IsPlain c) :
    ofBasic (literal delimiter word)
      = if isOperator delimiter then word else literal delimiter word := by
  induction word with
  | nil => simp [literal, ofBasic]
  | cons c word ih =>
    have rest := ih fun c member => spelled c (List.mem_cons_of_mem _ member)
    rw [literal_cons]
    by_cases escaped : c = delimiter ∧ isMeta delimiter
    · obtain ⟨rfl, escaped⟩ := escaped
      simp only [escaped, and_self, if_true, List.cons_append, List.nil_append, ofBasic_escaped,
        rest]
      split <;> rfl
    · have plain : IsPlain c := by
        rcases spelled c List.mem_cons_self with rfl | plain
        · exact ⟨notBackslash, by simpa using escaped⟩
        · exact plain
      simp only [if_neg escaped, List.cons_append, List.nil_append, ofBasic_cons plain, rest]
      split <;> rfl

theorem literal_eq_iff :
    literal delimiter word = word ↔ ¬(isMeta delimiter ∧ delimiter ∈ word) := by
  constructor
  · rintro same ⟨escaped, member⟩
    have length := length_literal delimiter word
    have some := List.count_pos_iff.2 member
    rw [same, if_pos escaped] at length
    omega
  · intro bare
    have alone : ∀ c ∈ word, ¬(c = delimiter ∧ isMeta delimiter) := by
      rintro c member ⟨rfl, escaped⟩
      exact bare ⟨escaped, member⟩
    clear bare
    induction word with
    | nil => rfl
    | cons c word ih =>
      have rest := ih fun c member => alone c (List.mem_cons_of_mem _ member)
      rw [literal_cons, if_neg (alone c List.mem_cons_self), rest]
      rfl

theorem ofFlavor_escaped (notBackslash : delimiter ≠ '\\')
    (spelled : ∀ c ∈ word, c = delimiter ∨ IsPlain c) (flavor : Flavor) :
    ofFlavor flavor (unescapeDelimiter (escapeDelimiter delimiter word) delimiter)
      = if Misread flavor delimiter word then word else literal delimiter word := by
  rw [unescapeDelimiter_escapeDelimiter notBackslash spelled]
  cases flavor with
  | basic =>
    rw [ofFlavor, ofBasic_literal notBackslash spelled]
    by_cases operator : isOperator delimiter
    · by_cases member : delimiter ∈ word
      · simp [Misread, operator, member]
      · simp [Misread, operator, member, literal_eq_iff.2 fun both => member both.2]
    · simp [Misread, operator]
  | extended => simp [Misread, ofFlavor]
  | perl => simp [Misread, ofFlavor]

theorem ofFlavor_escaped_eq_literal_iff (notBackslash : delimiter ≠ '\\')
    (spelled : ∀ c ∈ word, c = delimiter ∨ IsPlain c) (flavor : Flavor) :
    ofFlavor flavor (unescapeDelimiter (escapeDelimiter delimiter word) delimiter)
        = literal delimiter word
      ↔ ¬Misread flavor delimiter word := by
  rw [ofFlavor_escaped notBackslash spelled]
  by_cases misread : Misread flavor delimiter word
  · have differs : literal delimiter word ≠ word := fun same =>
      literal_eq_iff.1 same ⟨isMeta_of_isOperator misread.2.1, misread.2.2⟩
    simp [misread, differs.symm]
  · simp [misread]

/-! ### Matching -/

/-- An escaped delimiter is a literal, unless the flavor makes an operator of it. Then the pattern
is the word itself, its operators bare. -/
theorem escaped_delimiter_literal_iff {engine : Engine} {fits : Text → Prop} {refusal : String}
    (words : engine.FindsWords fits refusal) (notBackslash : delimiter ≠ '\\')
    (spelled : ∀ c ∈ word, c = delimiter ∨ IsPlain c) (flavor : Flavor) :
    let written := escapeDelimiter delimiter word
    let pattern := unescapeDelimiter written delimiter
    (∀ rest, (Scan.delimited delimiter).on (written ++ delimiter :: rest)
        = (.ok (some written), rest))
      ∧ (ofFlavor flavor pattern = literal delimiter word ↔ ¬Misread flavor delimiter word)
      ∧ (Misread flavor delimiter word → ofFlavor flavor pattern = word)
      ∧ (¬Misread flavor delimiter word →
          (fits word →
            ∃ regex, compile engine pattern flavor false = .ok regex
              ∧ regex.source = literal delimiter word
              ∧ ∀ line, regex.matchesLine line = true ↔ word <:+: line.body)
          ∧ (¬fits word →
            compile engine pattern flavor false = .error (.badPattern pattern refusal))) := by
  intro written pattern
  refine ⟨?_, ?_, ?_, ?_⟩
  · intro rest
    exact Scan.delimited_append (delimited_escapeDelimiter notBackslash spelled)
      fun backslash => absurd backslash notBackslash
  · exact ofFlavor_escaped_eq_literal_iff notBackslash spelled flavor
  · intro misread
    exact (ofFlavor_escaped notBackslash spelled flavor).trans (if_pos misread)
  · intro kept
    have text : ofFlavor flavor pattern = literal delimiter word :=
      (ofFlavor_escaped_eq_literal_iff notBackslash spelled flavor).2 kept
    constructor
    · intro fits
      obtain ⟨regex, compiled, source, matching⟩ := words.finds notBackslash spelled fits
      refine ⟨regex, ?_, source, fun line => matching line.body⟩
      rw [compile, text, compiled]
    · intro large
      rw [compile, text, words.refuses notBackslash spelled large]

theorem escaped_bar_literal_in_extended :
    ('|' ≠ '\\' ∧ ∀ c ∈ ['a', '|', 'b'], c = '|' ∨ IsPlain c)
      ∧ ∃ regex, compile Regex.engine ['a', '\\', '|', 'b'] .extended false = .ok regex
        ∧ ∀ line, regex.matchesLine line = true ↔ ['a', '|', 'b'] <:+: line.body := by
  have spelled : ∀ c ∈ ['a', '|', 'b'], c = '|' ∨ IsPlain c := by
    simp [IsPlain, isMeta]
  obtain ⟨_, _, _, matching⟩ :=
    escaped_delimiter_literal_iff Regex.engine_findsWords (by decide) spelled .extended
  obtain ⟨regex, compiled, _, meant⟩ := (matching (by decide)).1 (by decide)
  exact ⟨⟨by decide, spelled⟩, regex, compiled, meant⟩

-- In the basic flavor the same pattern also matches a line that only has the `b`.
theorem escaped_bar_alternative_in_basic :
    let pattern := unescapeDelimiter (escapeDelimiter '|' ['a', '|', 'b']) '|'
    ofFlavor .basic pattern = ['a', '|', 'b']
      ∧ literal '|' ['a', '|', 'b'] = ['a', '\\', '|', 'b']
      ∧ (compile Regex.engine pattern .basic false).map (·.matchesLine ['b', '\n']) = .ok true
      ∧ ¬['a', '|', 'b'] <:+: Text.body ['b', '\n'] := by
  refine ⟨by decide, by decide, ?_, by decide⟩
  cbv

end LineEditor.Pattern
