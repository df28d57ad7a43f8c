import LineEditor.Proofs.Equations
import LineEditor.Proofs.Statement.Scan

/-!
Addresses that are a sum: a line number, `.` or `$`, a sign and an offset. Each number is refused
where it is too large for its kind, and the sum where it is no line of the buffer. Nothing wraps
around: what is found is the sum as whole numbers.
-/

namespace LineEditor

/-- A run of decimal digits, be it with zeros in front. -/
structure Numeral where
  digits : Text
  notEmpty : digits ≠ []
  decimal : ∀ c ∈ digits, isDigit c = true

def Numeral.value (n : Numeral) : Nat := decimalValue n.digits

inductive Sign where
  | plus
  | minus

namespace Sign

def letter : Sign → Char
  | plus => '+'
  | minus => '-'

def apply : Sign → Nat → Int
  | plus, n => n
  | minus, n => -n

end Sign

/-- What an offset is counted from, as it is written. -/
inductive Base where
  | number (n : Numeral)
  | current
  | last

namespace Base

def toText : Base → Text
  | number n => n.digits
  | current => ['.']
  | last => ['$']

def term : Base → Term
  | number n => .line n.value
  | current => .current
  | last => .last

def line (b : Buffer) : Base → Nat
  | number n => n.value
  | current => b.current
  | last => b.last

def Fits : Base → Prop
  | number n => n.value < lineBound
  | current | last => True

instance : (base : Base) → Decidable base.Fits
  | number n => inferInstanceAs (Decidable (n.value < lineBound))
  | current | last => inferInstanceAs (Decidable True)

end Base

/-- Reads a list of addresses and looks it up. -/
def AddressList.lookUp (text : Text) : Edit Range :=
  match (AddressList.read.on text).1 with
  | .ok addresses => addresses.resolve
  | .error failure => Edit.fail failure

/-! ### Reading -/

theorem Numeral.exists_cons (n : Numeral) :
    ∃ first others, n.digits = first :: others ∧ isDigit first = true := by
  obtain ⟨first, others, same⟩ := List.exists_cons_of_ne_nil n.notEmpty
  exact ⟨first, others, same, n.decimal first (same ▸ List.mem_cons_self)⟩

namespace Scan

theorem on_numeral (n : Numeral) {rest : Text} (stops : StopsBefore isDigit rest) :
    number.on (n.digits ++ rest) =
      if n.value < lineBound then (.ok (some n.value), rest)
      else (.error .invalidAddress, rest) :=
  number_digits n.notEmpty n.decimal stops

theorem on_offset_numeral (sign : Sign) (k : Numeral) :
    offset.on (sign.letter :: k.digits) =
      if k.value < offsetBound then (.ok (some (sign.apply k.value)), [])
      else (.error .invalidAddress, []) := by
  have starts : startsOffset (sign.letter :: k.digits) = true := by
    obtain ⟨first, others, same, digit⟩ := k.exists_cons
    cases sign <;> simp [same, startsOffset, digit, Sign.letter]
  have stops : StopsBefore isDigit [] := by
    intro c first
    cases first
  have number := on_numeral k stops
  rw [List.append_nil] at number
  rw [on_offset starts, number]
  by_cases below : k.value < lineBound
  · rw [if_pos below]
    cases sign <;> rfl
  · -- An offset that is no number at all is too large for an offset.
    have large : ¬k.value < offsetBound := fun small => below (Nat.lt_trans small (by decide))
    rw [if_neg below, if_neg large]

end Scan

theorem Base.read_toText (base : Base) {rest : Text} (stops : Scan.StopsBefore isDigit rest) :
    Term.read.on (base.toText ++ rest) =
      if base.Fits then (.ok (some base.term), rest) else (.error .invalidAddress, rest) := by
  cases base with
  | number n =>
    obtain ⟨first, others, same, digit⟩ := n.exists_cons
    have number := Scan.on_numeral n stops
    rw [same, List.cons_append] at number
    simp only [toText, same, List.cons_append, Term.read, Scan.on_bind, Scan.on_get, digit, if_true,
      number, Fits, term]
    by_cases below : n.value < lineBound
    · simp [below, Scan.on_pure]
    · simp [below]
  | current => rfl
  | last => rfl

namespace Base
variable (base : Base)

theorem toText_cons : ∃ c others, base.toText = c :: others ∧ isBlank c = false := by
  cases base with
  | number n =>
    obtain ⟨first, others, same, digit⟩ := n.exists_cons
    exact ⟨first, others, same, isBlank_of_isDigit digit⟩
  | current | last => exact ⟨_, _, rfl, rfl⟩

theorem run_resolve (editor : Editor) :
    base.term.resolve.run editor = (.ok (base.line editor.buffer), editor) := by
  cases base <;> rfl

end Base

variable (base : Base) (sign : Sign) (k : Numeral)

theorem Address.on_read_sum :
    Address.read.on (base.toText ++ sign.letter :: k.digits) =
      if base.Fits then
        if k.value < offsetBound then
          (.ok (some { term := base.term, offset := sign.apply k.value }), [])
        else (.error .invalidAddress, [])
      else (.error .invalidAddress, sign.letter :: k.digits) := by
  have unblanked : (base.toText ++ sign.letter :: k.digits).dropWhile isBlank
      = base.toText ++ sign.letter :: k.digits := by
    obtain ⟨c, others, same, plain⟩ := base.toText_cons
    rw [same, List.cons_append, List.dropWhile_cons_of_neg (by simp [plain])]
  have signed : (sign.letter :: k.digits).dropWhile isBlank = sign.letter :: k.digits := by
    cases sign <;> rfl
  have stops : Scan.StopsBefore isDigit (sign.letter :: k.digits) := by
    intro c isFirst
    cases isFirst
    cases sign <;> rfl
  rw [Address.on_read, unblanked, base.read_toText stops]
  by_cases fits : base.Fits
  · rw [if_pos fits, if_pos fits]
    dsimp only
    rw [signed, Scan.on_offset_numeral]
    by_cases small : k.value < offsetBound
    · rw [if_pos small, if_pos small]
      rfl
    · rw [if_neg small, if_neg small]
  · rw [if_neg fits, if_neg fits]

theorem AddressList.on_read_sum :
    (AddressList.read.on (base.toText ++ sign.letter :: k.digits)).1 =
      if base.Fits ∧ k.value < offsetBound then
        .ok [({ term := base.term, offset := sign.apply k.value }, .nothing)]
      else .error .invalidAddress := by
  have read := Address.on_read_sum base sign k
  change (readFrom _).1 = _
  by_cases fits : base.Fits
  · by_cases small : k.value < offsetBound
    · rw [if_pos fits, if_pos small] at read
      rw [readFrom_some read rfl, if_pos rfl, if_pos ⟨fits, small⟩]
    · rw [if_pos fits, if_neg small] at read
      rw [readFrom_error read, if_neg fun both => small both.2]
  · rw [if_neg fits] at read
    rw [readFrom_error read, if_neg fun both => fits both.1]

/-! ### In words -/

/-- The sum as words of 64 bits compute it. It wraps around, and its order to the base tells whether
it did; then there is none. -/
def wordSum (base : UInt64) (offset : Int64) : Option UInt64 :=
  if base + offset.toUInt64 < base ↔ offset < 0 then some (base + offset.toUInt64) else none

theorem toNat_toUInt64 (offset : Int64) :
    (offset.toUInt64.toNat : Int)
      = if offset.toInt < 0 then offset.toInt + UInt64.size else offset.toInt := by
  have word : offset.toUInt64.toNat = offset.toBitVec.toNat := rfl
  have signed : offset.toInt = offset.toBitVec.toInt := rfl
  have bound := offset.toBitVec.isLt
  simp only [word, signed, BitVec.toInt_eq_toNat_cond, UInt64.size]
  split <;> split <;> omega

theorem wordSum_eq_some_iff {base sum : UInt64} {offset : Int64} :
    wordSum base offset = some sum ↔ (sum.toNat : Int) = base.toNat + offset.toInt := by
  have word := toNat_toUInt64 offset
  have base_lt := base.toNat_lt
  have sum_lt := sum.toNat_lt
  have offset_lt := offset.toInt_lt
  have le_offset := offset.le_toInt
  have negative : offset < 0 ↔ offset.toInt < 0 := Int64.lt_iff_toInt_lt
  have wrapped : (base + offset.toUInt64).toNat
      = (base.toNat + offset.toUInt64.toNat) % UInt64.size := UInt64.toNat_add ..
  simp only [wordSum, negative, UInt64.lt_iff_toNat_lt, Option.ite_none_right_eq_some,
    Option.some.injEq, ← UInt64.toNat_inj, wrapped]
  simp only [UInt64.size] at *
  by_cases below : offset.toInt < 0
  · simp only [below, if_true, iff_true] at word ⊢
    omega
  · simp only [below, if_false, iff_false] at word ⊢
    omega

/-- The sum in words is the checked sum, but for one that is no word. -/
theorem wordSum_eq_checkedSum (base : UInt64) (offset : Int64) :
    (wordSum base offset).map (·.toNat)
      = (checkedSum base.toNat offset.toInt).filter (· < UInt64.size) := by
  apply Option.ext
  intro n
  have sum (word : UInt64) := @wordSum_eq_some_iff base word offset
  simp only [Option.map_eq_some_iff, sum, checkedSum, Option.filter_eq_some_iff,
    Option.ite_none_right_eq_some, Option.some.injEq, decide_eq_true_eq]
  constructor
  · rintro ⟨word, exact, rfl⟩
    have inside : word.toNat < UInt64.size := word.toNat_lt
    omega
  · rintro ⟨⟨nonneg, rfl⟩, inside⟩
    refine ⟨UInt64.ofNat _, ?_, UInt64.toNat_ofNat_of_lt' inside⟩
    rw [UInt64.toNat_ofNat_of_lt' inside, Int.toNat_of_nonneg nonneg]

/-- Where the base and the offset are words, nothing is lost by adding words: the address is looked
up as their checked sum is. -/
theorem Address.run_resolve_words {address : Address} {base : UInt64} {offset : Int64}
    {editor found : Editor} (resolved : address.term.resolve.run editor = (.ok base.toNat, found))
    (signed : address.offset = offset.toInt) (last_lt : found.buffer.last < UInt64.size) :
    address.resolve.run editor =
      (match wordSum base offset with
        | some line =>
          if line.toNat ≤ found.buffer.last then .ok line.toNat
          else .error (.failed .invalidAddress)
        | none => .error (.failed .invalidAddress), found) := by
  rw [Address.run_resolve resolved, signed]
  cases sum : wordSum base offset with
  | none =>
    have large : ¬(0 ≤ base.toNat + offset.toInt
        ∧ base.toNat + offset.toInt ≤ found.buffer.last) := by
      rintro ⟨nonneg, inside⟩
      have exact : wordSum base offset
          = some (UInt64.ofNat (base.toNat + offset.toInt).toNat) := by
        rw [wordSum_eq_some_iff, UInt64.toNat_ofNat_of_lt' (by omega), Int.toNat_of_nonneg nonneg]
      rw [exact] at sum
      cases sum
    rw [if_neg large]
  | some line =>
    have exact := wordSum_eq_some_iff.mp sum
    simp only [← exact, Int.natCast_nonneg, true_and, Int.ofNat_le, Int.toNat_natCast]

/-- An address that is a sum gives the line that is the sum of its numbers, if the numbers are not
too large and that is a line of the buffer or 0. In every other case it is refused. -/
theorem sum_gives_exact_line (editor : Editor) :
    let line : Int := base.line editor.buffer + sign.apply k.value
    (AddressList.lookUp (base.toText ++ sign.letter :: k.digits)).run editor =
      (if base.Fits ∧ k.value < offsetBound ∧ 0 ≤ line ∧ line ≤ editor.buffer.last then
        .ok ⟨line.toNat, line.toNat, 1⟩
      else .error (.failed .invalidAddress), editor) := by
  intro line
  rw [AddressList.lookUp, AddressList.on_read_sum]
  by_cases fit : base.Fits ∧ k.value < offsetBound
  · rw [if_pos fit]
    dsimp only
    rw [AddressList.resolve, run_bind, AddressList.resolveFrom, run_bind,
      Address.run_resolve (base.run_resolve editor)]
    by_cases inside : 0 ≤ line ∧ line ≤ editor.buffer.last
    · rw [if_pos inside, if_pos ⟨fit.1, fit.2, inside⟩]
      rfl
    · rw [if_neg inside, if_neg fun all => inside all.2.2]
  · rw [if_neg fit, if_neg fun all => fit ⟨all.1, all.2.1⟩]
    rfl

def Numeral.ofNat (n : Nat) : Numeral where
  digits := Nat.toDigits 10 n
  notEmpty := Nat.toDigits_ne_nil
  decimal := digits_isDigit n

@[simp]
theorem Numeral.value_ofNat (n : Nat) : (Numeral.ofNat n).value = n := decimalValue_toDigits n

/-- On an empty text the largest offset, 2 ^ 63 - 1, taken away from itself gives line 0, and taken
away from one more gives line 1, which is not there. One more to take away is too large for an
offset, and the largest number, 2 ^ 64 - 1, and 1 do not come round to line 0. -/
theorem largest_sums_are_exact :
    let found (n : Nat) (sign : Sign) (k : Nat) : Except Stop Range :=
      ((AddressList.lookUp ((Base.number (.ofNat n)).toText
        ++ sign.letter :: (Numeral.ofNat k).digits)).run ⟨.empty, default⟩).1
    found (offsetBound - 1) .minus (offsetBound - 1) = .ok ⟨0, 0, 1⟩
      ∧ found offsetBound .minus (offsetBound - 1) = .error (.failed .invalidAddress)
      ∧ found offsetBound .minus offsetBound = .error (.failed .invalidAddress)
      ∧ found (lineBound - 1) .plus 1 = .error (.failed .invalidAddress)
      ∧ found lineBound .plus 0 = .error (.failed .invalidAddress) := by
  have empty : Buffer.empty.last = 0 := rfl
  simp only [sum_gives_exact_line]
  simp [empty, Base.Fits, Base.line, Sign.apply, lineBound, offsetBound, UInt64.size]

end LineEditor
