import LineEditor.Pattern
import LineEditor.Proofs.Equations
import LineEditor.Proofs.LineForm
import LineEditor.Proofs.Listing
import Mathlib

/-!
What a replacement text says, with one rule for each way in which it may go on, and what a
substitution does to lines. It works line by line: each line that it changes is taken out and put
back in its own place, so lines keep their numbers, and what becomes of one depends on no other.
-/

namespace LineEditor

namespace Template

def isNameCharacter (c : Char) : Bool := c.isAlphanum || c = '_'

/-- The template filled in, where groups may be referred to by name. A name stands in braces after
a dollar; without braces it takes in as many characters as it can. A doubled dollar is a dollar, and
so is one that no name follows. -/
def fill (refer : Text → Text) : Text → Text
  | [] => []
  | '$' :: '$' :: rest => '$' :: fill refer rest
  | '$' :: '{' :: rest =>
    if '}' ∈ rest then
      refer (rest.takeWhile (· ≠ '}')) ++ fill refer (rest.dropWhile (· ≠ '}')).tail
    else '$' :: '{' :: fill refer rest
  | '$' :: rest =>
    let name := rest.takeWhile isNameCharacter
    if name = [] then '$' :: fill refer rest
    else refer name ++ fill refer (rest.dropWhile isNameCharacter)
  | c :: rest => c :: fill refer rest
termination_by template => template.length
decreasing_by
  all_goals
    have braced := (List.dropWhile_suffix (l := rest) (· ≠ '}')).length_le
    have bare := (List.dropWhile_suffix (l := rest) isNameCharacter).length_le
    grind

/-- A way to fill templates in that takes a doubled dollar for a dollar and a digit in braces after
a dollar for a group, and leaves any other character as it is. -/
structure Fills (groups : Char → Text) (fill : Text → Text) : Prop where
  nil : fill [] = []
  dollar : ∀ rest, fill (dollar ++ rest) = '$' :: fill rest
  group : ∀ digit rest, digit.isDigit → fill (group digit ++ rest) = groups digit ++ fill rest
  other : ∀ c rest, c ≠ '$' → fill (c :: rest) = c :: fill rest

theorem expand_fills (groups : Nat → Text) :
    Fills (fun digit => groups (digit.toNat - '0'.toNat)) (expand groups) where
  nil := rfl
  dollar _ := rfl
  group digit rest _ := by simp [Template.group, expand]
  other c rest other := by simp [expand, other]

theorem fill_fills (refer : Text → Text) : Fills (fun digit => refer [digit]) (fill refer) where
  nil := by simp [fill]
  dollar rest := by simp [Template.dollar, fill]
  group digit rest isDigit := by
    have inside : digit ≠ '}' := by
      rintro rfl
      cases isDigit
    simp [Template.group, fill, inside]
  other c rest other := by simp [fill, other]

end Template

namespace Replacement

/-- What a replacement text says for a match with these groups, 0 the whole match. -/
inductive Says (groups : Nat → Text) : Text → Text → Prop where
  | nothing : Says groups [] []
  | escapedGroup {c : Char} {rest said : Text} : isGroup c → Says groups rest said →
      Says groups ('\\' :: c :: rest) (groups (c.toNat - '0'.toNat) ++ said)
  | escapedOther {c : Char} {rest said : Text} : ¬isGroup c → Says groups rest said →
      Says groups ('\\' :: c :: rest) (c :: said)
  | lastBackslash : Says groups ['\\'] ['\\']
  | ampersand {rest said : Text} : Says groups rest said →
      Says groups ('&' :: rest) (groups 0 ++ said)
  | dollarGroup {c : Char} {rest said : Text} : isGroup c → Says groups rest said →
      Says groups ('$' :: c :: rest) (groups (c.toNat - '0'.toNat) ++ said)
  | dollarAmpersand {rest said : Text} : Says groups rest said →
      Says groups ('$' :: '&' :: rest) (groups 0 ++ said)
  | dollarDollar {rest said : Text} : Says groups rest said →
      Says groups ('$' :: '$' :: rest) ('$' :: said)
  | dollarOther {rest said : Text} : (∀ c ∈ rest.head?, ¬isGroup c ∧ c ≠ '&' ∧ c ≠ '$') →
      Says groups rest said → Says groups ('$' :: rest) ('$' :: said)
  | other {c : Char} {rest said : Text} : c ≠ '\\' → c ≠ '&' → c ≠ '$' → Says groups rest said →
      Says groups (c :: rest) (c :: said)

theorem isDigit_of_isGroup {c : Char} (group : isGroup c) : c.isDigit := by
  simp only [isGroup, Bool.and_eq_true, decide_eq_true_eq] at group
  obtain ⟨low, high⟩ := group
  have zero : '0' ≤ c := Char.le_trans (by decide) low
  simp only [Char.isDigit, Bool.and_eq_true, decide_eq_true_eq]
  exact ⟨Char.le_def.1 zero, Char.le_def.1 high⟩

theorem template_dollarOther {rest : Text}
    (alone : ∀ c ∈ rest.head?, ¬isGroup c ∧ c ≠ '&' ∧ c ≠ '$') :
    template ('$' :: rest) = Template.dollar ++ template rest := by
  cases rest with
  | nil => rfl
  | cons c rest =>
    obtain ⟨_, _, _⟩ := alone c rfl
    simp_all [template]

variable {groups : Nat → Text}

theorem Says.exists (groups : Nat → Text) (raw : Text) : ∃ said, Says groups raw said := by
  fun_induction template raw with
  | case1 => exact ⟨_, .nothing⟩
  | case2 => exact ⟨_, .lastBackslash⟩
  | case3 c rest group ih =>
    obtain ⟨said, means⟩ := ih
    exact ⟨_, .escapedGroup group means⟩
  | case4 rest plain ih =>
    obtain ⟨said, means⟩ := ih
    exact ⟨_, .escapedOther plain means⟩
  | case5 c rest plain _ ih =>
    obtain ⟨said, means⟩ := ih
    exact ⟨_, .escapedOther plain means⟩
  | case6 rest ih =>
    obtain ⟨said, means⟩ := ih
    exact ⟨_, .ampersand means⟩
  | case7 => exact ⟨_, .dollarOther (by simp) .nothing⟩
  | case8 c rest group ih =>
    obtain ⟨said, means⟩ := ih
    exact ⟨_, .dollarGroup group means⟩
  | case9 rest _ ih =>
    obtain ⟨said, means⟩ := ih
    exact ⟨_, .dollarAmpersand means⟩
  | case10 rest _ _ ih =>
    obtain ⟨said, means⟩ := ih
    exact ⟨_, .dollarDollar means⟩
  | case11 c rest plain ampersand dollar ih =>
    obtain ⟨said, means⟩ := ih
    exact ⟨_, .dollarOther (by simp [plain, ampersand, dollar]) means⟩
  | case12 c rest last backslash ampersand alone dollar ih =>
    obtain ⟨said, means⟩ := ih
    have plain : c ≠ '\\' ∧ c ≠ '$' := by cases rest <;> grind
    exact ⟨_, .other plain.1 ampersand plain.2 means⟩

-- What a replacement says does not depend on how its template is filled in.
theorem Says.fill_template {fill : Text → Text}
    (fills : Template.Fills (fun digit => groups (digit.toNat - '0'.toNat)) fill)
    {raw said : Text} (means : Says groups raw said) : fill (template raw) = said := by
  have whole (rest : Text) : fill (Template.group '0' ++ rest) = groups 0 ++ fill rest :=
    fills.group '0' rest rfl
  induction means with
  | nothing => simp [template, fills.nil]
  | escapedGroup group _ ih =>
    simp [template, group, fills.group _ _ (isDigit_of_isGroup group), ih]
  | @escapedOther c _ _ plain _ ih =>
    by_cases dollar : c = '$'
    · subst dollar
      simp [template, plain, fills.dollar, ih]
    · simp [template, plain, dollar, fills.other _ _ dollar, ih]
  | lastBackslash => simp [template, fills.other, fills.nil]
  | ampersand _ ih => simp [template, whole, ih]
  | dollarGroup group _ ih =>
    simp [template, group, fills.group _ _ (isDigit_of_isGroup group), ih]
  | dollarAmpersand _ ih =>
    have plain : isGroup '&' = false := by decide
    simp [template, plain, whole, ih]
  | dollarDollar _ ih =>
    have plain : isGroup '$' = false := by decide
    simp [template, plain, fills.dollar, ih]
  | dollarOther alone _ ih => rw [template_dollarOther alone, fills.dollar, ih]
  | other backslash ampersand dollar _ ih =>
    simp [template, backslash, dollar, fills.other _ _ dollar, ih]

theorem Says.iff_fill_template {fill : Text → Text}
    (fills : Template.Fills (fun digit => groups (digit.toNat - '0'.toNat)) fill)
    (raw said : Text) : Says groups raw said ↔ fill (template raw) = said := by
  constructor
  · exact Says.fill_template fills
  · rintro rfl
    obtain ⟨said, means⟩ := Says.exists groups raw
    rwa [means.fill_template fills]

theorem toDigits_of_isDigit {c : Char} (digit : c.isDigit) :
    Nat.toDigits 10 (c.toNat - '0'.toNat) = [c] := by
  simp only [Char.isDigit, Bool.and_eq_true, decide_eq_true_eq] at digit
  have low : '0'.toNat ≤ c.toNat := digit.1
  have high : c.toNat ≤ '9'.toNat := digit.2
  have bounds : '0'.toNat = 48 ∧ '9'.toNat = 57 := ⟨rfl, rfl⟩
  have small : c.toNat - '0'.toNat < 10 := by omega
  rw [Nat.toDigits_of_lt_base small, List.singleton_inj, ← Char.toNat_inj,
    Nat.toNat_digitChar_of_lt_ten small]
  omega

/-- Filling in the template of a replacement gives what the replacement says, and nothing else, for
every match. So it does where templates are read in full: a group is then always referred to by its
number, and no name is read out of what was written. -/
theorem template_says (raw : Text) :
    (∀ groups said, Says groups raw said ↔ Template.expand groups (template raw) = said)
      ∧ ∀ refer said, Says (fun k => refer (Nat.toDigits 10 k)) raw said
        ↔ Template.fill refer (template raw) = said := by
  refine ⟨fun groups said => Says.iff_fill_template (Template.expand_fills groups) raw said,
    fun refer said => Says.iff_fill_template ?_ raw said⟩
  have fills := Template.fill_fills refer
  refine ⟨fills.nil, fills.dollar, ?_, fills.other⟩
  intro digit rest isDigit
  rw [fills.group digit rest isDigit, toDigits_of_isDigit isDigit]

end Replacement

/-! ### Line by line -/

namespace Substitution

def Changes (substitution : Substitution) (regex : Regex) (text : Text) : Prop :=
  substitution.newBody regex text.body ≠ text.body

instance (substitution : Substitution) (regex : Regex) (text : Text) :
    Decidable (substitution.Changes regex text) :=
  inferInstanceAs (Decidable (_ ≠ _))

def newText (substitution : Substitution) (regex : Regex) (text : Text) : Text :=
  substitution.newBody regex text.body ++ text.terminator

def changedFrom (substitution : Substitution) (regex : Regex) (b : Buffer) (n count : Nat) :
    List Nat :=
  (List.range' n count).filter fun n => (b.text? n).any fun text =>
    substitution.Changes regex text

/-- The numbers of the lines of the range that change. -/
def changedIn (substitution : Substitution) (regex : Regex) (b : Buffer) (range : Range) :
    List Nat :=
  substitution.changedFrom regex b range.first (range.final + 1 - range.first)

/-- The lines with these numbers have their new text and no mark. All the others are as they were,
and the last of those that changed is current. -/
structure Rewrites (substitution : Substitution) (regex : Regex) (changed : List Nat)
    (before after : Buffer) : Prop where
  last : after.last = before.last
  rewritten : ∀ n ∈ changed, ∃ text, before.text? n = some text
    ∧ after.text? n = some (substitution.newText regex text) ∧ after.marked? n = some false
  others : ∀ n, n ∉ changed → after.line? n = before.line? n
  current : after.current = changed.getLast?.getD before.current
  untouched : changed = [] → after = before

/-! ### One line -/

structure Replaces (n : Nat) (text : Text) (before after : Buffer) : Prop where
  last : after.last = before.last
  there : ∃ serial, after.line? n = some { text, serial }
  others : ∀ m, m ≠ n → after.line? m = before.line? m
  current : after.current = n

theorem run_replaceLine {editor : Editor} {n : Nat} (positive : 0 < n)
    (inside : n ≤ editor.buffer.last) (text : Text) :
    ∃ after, (replaceLine n text).run editor = (.ok ⟨⟩, { editor with buffer := after })
      ∧ Replaces n text editor.buffer after := by
  obtain ⟨zero, _, whole⟩ := editor.buffer.slots_toList
  obtain ⟨front, line, back, lines, starts⟩ :=
    Buffer.exists_line positive (editor.buffer.length_lines ▸ inside)
  rw [lines] at whole
  have consists : editor.buffer.Consists ((zero :: front) ++ ([line] ++ back))
      editor.buffer.current := ⟨whole, rfl⟩
  obtain ⟨shorter, deleted, left⟩ := consists.delete n n positive starts (Nat.le_refl n) rfl
  have current : (shorter.setCurrent (n - 1)).current = n - 1 := by
    rw [Buffer.setCurrent, left.last]
    simp
    omega
  have turned : (shorter.setCurrent (n - 1)).Consists ((zero :: front) ++ back) (n - 1) :=
    ⟨left.slots, current⟩
  obtain ⟨after, inserted, put⟩ := turned.insert (by simp; omega) text
  refine ⟨after, ?_, ?_, ⟨(shorter.setCurrent (n - 1)).issued + 1, ?_⟩, ?_, ?_⟩
  · rw [replaceLine, run_bind, Edit.run_change deleted]
    dsimp only
    rw [run_bind, Edit.run_minus positive]
    dsimp only
    rw [run_bind, Edit.run_setCurrent]
    exact Edit.run_change inserted
  · rw [put.last, consists.last]
    simp
  · rw [Buffer.line?, ← Array.getElem?_toList, put.slots, starts]
    simp
  · intro m other
    have same : after.slots.toList = editor.buffer.slots.toList.set n
        { text, serial := (shorter.setCurrent (n - 1)).issued + 1 } := by
      rw [put.slots, whole, starts]
      simp
    rw [Buffer.line?, Buffer.line?, ← Array.getElem?_toList, ← Array.getElem?_toList, same,
      List.getElem?_set_ne other.symm]
  · rw [put.current]
    omega

/-! ### All the lines -/

variable {substitution : Substitution} {regex : Regex} {before between after : Buffer}

theorem changedFrom_succ {n : Nat} {text : Text} (found : before.text? n = some text)
    (count : Nat) :
    substitution.changedFrom regex before n (count + 1)
      = if substitution.Changes regex text then
          n :: substitution.changedFrom regex before (n + 1) count
        else substitution.changedFrom regex before (n + 1) count := by
  rw [changedFrom, List.range'_succ, List.filter_cons, found]
  simp only [Option.any_some, decide_eq_true_eq]
  rfl

theorem changedFrom_congr {n count : Nat} (same : ∀ m, n ≤ m → between.text? m = before.text? m) :
    substitution.changedFrom regex between n count
      = substitution.changedFrom regex before n count := by
  apply List.filter_congr
  intro m member
  rw [same m (List.mem_range'_1.1 member).1]

theorem le_of_mem_changedFrom {n count m : Nat}
    (member : m ∈ substitution.changedFrom regex before n count) : n ≤ m :=
  (List.mem_range'_1.1 (List.mem_filter.1 member).1).1

theorem Rewrites.none (substitution : Substitution) (regex : Regex) (b : Buffer) :
    substitution.Rewrites regex [] b b where
  last := rfl
  rewritten := nofun
  others _ _ := rfl
  current := rfl
  untouched _ := rfl

-- A line that changed, and then lines behind it.
theorem Rewrites.cons {n : Nat} {changed : List Nat} {text : Text}
    (found : before.text? n = some text)
    (replaces : Replaces n (substitution.newText regex text) before between)
    (behind : ∀ m ∈ changed, n < m)
    (rewrites : substitution.Rewrites regex changed between after) :
    substitution.Rewrites regex (n :: changed) before after where
  last := rewrites.last.trans replaces.last
  rewritten m member := by
    rcases List.mem_cons.1 member with rfl | member
    · have fresh : m ∉ changed := fun member => Nat.lt_irrefl m (behind m member)
      obtain ⟨serial, there⟩ := replaces.there
      refine ⟨text, found, ?_, ?_⟩
      · rw [Buffer.text?, rewrites.others m fresh, there]
        rfl
      · rw [Buffer.marked?, rewrites.others m fresh, there]
        rfl
    · obtain ⟨old, there, new⟩ := rewrites.rewritten m member
      rw [Buffer.text?, replaces.others m (Nat.ne_of_gt (behind m member))] at there
      exact ⟨old, there, new⟩
  others m untouched := by
    rw [List.mem_cons, not_or] at untouched
    rw [rewrites.others m untouched.2, replaces.others m untouched.1]
  current := by
    rw [rewrites.current, replaces.current, List.getLast?_cons]
    rfl
  untouched := nofun

-- The lines that the loop has still to look at are as they were, whatever it did before them.
theorem run_applyFrom {editor : Editor} {n count : Nat} (positive : 0 < n)
    (inside : n + count ≤ editor.buffer.last + 1) :
    ∃ after, (substitution.applyFrom regex n count).run editor
        = (.ok (substitution.changedFrom regex editor.buffer n count).length,
            { editor with buffer := after })
      ∧ substitution.Rewrites regex (substitution.changedFrom regex editor.buffer n count)
        editor.buffer after := by
  induction count generalizing editor n with
  | zero => exact ⟨editor.buffer, rfl, .none substitution regex editor.buffer⟩
  | succ count ih =>
    have n_le : n ≤ editor.buffer.last := by omega
    obtain ⟨text, found⟩ := Buffer.text?_isSome n_le
    rw [changedFrom_succ found, applyFrom, Edit.run_buffer_bind, found]
    dsimp only
    by_cases changes : substitution.Changes regex text
    · obtain ⟨between, replaced, replaces⟩ :=
        run_replaceLine positive n_le (substitution.newText regex text)
      have ahead : substitution.changedFrom regex between (n + 1) count
          = substitution.changedFrom regex editor.buffer (n + 1) count := by
        apply changedFrom_congr
        intro m later
        rw [Buffer.text?, Buffer.text?, replaces.others m (by omega)]
      obtain ⟨after, finished, rewrites⟩ :=
        @ih { editor with buffer := between } (n + 1) (Nat.succ_pos n)
          (by rw [replaces.last]; omega)
      rw [ahead] at finished rewrites
      rw [if_pos changes, if_neg changes, run_bind]
      refine ⟨after, ?_, rewrites.cons found replaces fun m => le_of_mem_changedFrom⟩
      rw [newText] at replaced
      rw [replaced]
      dsimp only
      rw [run_bind, finished]
      rfl
    · rw [if_neg changes, if_pos (Decidable.not_not.1 changes)]
      exact ih (Nat.succ_pos n) (by omega)

/-- Substitution is a map over the lines of the range. Each line whose body the replacement changes
has its new body and its old newline, under its old number and without a mark, and no other line is
touched. The number of lines that changed is given back, and the last of them is current. Only for a
line that a global command visits it is no failure to change none. -/
theorem apply_rewrites {editor : Editor} {range : Range} {active : ActivePattern}
    (within : range.Within editor.buffer.last)
    (used : editor.active.use
      (Pattern.unescapeDelimiter substitution.pattern substitution.delimiter)
      substitution.ignoreCase = .ok (regex, active)) (underGlobal : Bool) :
    let changed := substitution.changedIn regex editor.buffer range
    ∃ after, substitution.Rewrites regex changed editor.buffer after
      ∧ (substitution.apply range underGlobal).run editor
        = (if changed = [] ∧ underGlobal = false then .error (.failed .noMatch)
            else .ok changed.length, ⟨after, active⟩) := by
  have inside : range.first + (range.final + 1 - range.first) ≤ editor.buffer.last + 1 := by
    have := within.final_le
    have := within.ordered
    omega
  obtain ⟨after, ran, rewrites⟩ := @run_applyFrom substitution regex
    { editor with active } range.first (range.final + 1 - range.first) within.positive inside
  refine ⟨after, rewrites, ?_⟩
  rw [changedIn, apply, run_bind, Edit.run_usePattern used]
  dsimp only
  rw [run_bind, ran]
  dsimp only
  simp only [List.length_eq_zero_iff, Bool.not_eq_true']
  split
  · rfl
  · rfl

def letterB : Regex :=
  .ofProgram ['b'] ⟨#[.accept, .save 1 0, .char 'b' 1, .save 0 2], 3, 2⟩

def bracketB : Substitution :=
  { pattern := ['b'], replacement := ['<', '&', '>'], delimiter := '/' }

def linesWithB : Editor :=
  ⟨Buffer.leftBy (Buffer.ofTexts [['a', 'b', 'b', '\n'], ['c', '\n'], ['b']]),
    { engine := Regex.engine, flavor := .perl }⟩

set_option maxRecDepth 100000 in
/-- The first line becomes a<b>b and the third one <b>; the second one has no match. -/
theorem bracketB_rewrites :
    bracketB.newText letterB ['a', 'b', 'b', '\n'] = ['a', '<', 'b', '>', 'b', '\n']
      ∧ bracketB.newText letterB ['b'] = ['<', 'b', '>']
      ∧ ∃ after, bracketB.Rewrites letterB [1, 3] linesWithB.buffer after
        ∧ (bracketB.apply ⟨1, 3, 2⟩ false).run linesWithB
          = (.ok 2, ⟨after, ⟨Regex.engine, .perl, some letterB⟩⟩) := by
  have within : Range.Within ⟨1, 3, 2⟩ linesWithB.buffer.last := ⟨by decide, by decide, by decide⟩
  have used : linesWithB.active.use (Pattern.unescapeDelimiter ['b'] '/') false
      = .ok (letterB, ⟨Regex.engine, .perl, some letterB⟩) := by
    cbv
  have changed : bracketB.changedIn letterB linesWithB.buffer ⟨1, 3, 2⟩ = [1, 3] := by cbv
  obtain ⟨after, rewrites, ran⟩ := bracketB.apply_rewrites within used false
  rw [changed] at rewrites ran
  exact ⟨by cbv, by cbv, after, rewrites, ran⟩

end Substitution

end LineEditor
