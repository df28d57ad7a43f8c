import LineEditor.Text
import LineEditor.Unicode.FoldingTable

/-!
Sets of characters as ascending ranges of code points that neither meet nor touch. The set
operations work range by range, and membership is a binary search.
-/

namespace LineEditor

structure CodeRange where
  first : Nat
  final : Nat
  deriving DecidableEq, Repr, Inhabited

structure CharSet where
  ranges : Array CodeRange
  deriving DecidableEq, Repr, Inhabited

namespace CharSet

def lastCodePoint : Nat := 0x10FFFF

def empty : CharSet := ⟨#[]⟩

def all : CharSet := ⟨#[⟨0, lastCodePoint⟩]⟩

def ascii : CharSet := ⟨#[⟨0, 0x7F⟩]⟩

def range (first final : Char) : CharSet := ⟨#[⟨first.toNat, final.toNat⟩]⟩

def singleton (c : Char) : CharSet := range c c

def contains (s : CharSet) (c : Char) : Bool :=
  s.ranges.binSearchContains ⟨c.toNat, c.toNat⟩ fun r r' => r.final < r'.first

/-- Joins the ranges that meet or touch; they come in ascending order of their first points, the
range read so far in front. -/
def coalesce (r : CodeRange) : List CodeRange → List CodeRange
  | [] => [r]
  | next :: rest =>
    if next.first ≤ r.final + 1 then coalesce ⟨r.first, max r.final next.final⟩ rest
    else r :: coalesce next rest

def ofRanges (ranges : List CodeRange) : CharSet :=
  match ranges.mergeSort fun r r' => r.first ≤ r'.first with
  | [] => empty
  | r :: rest => ⟨(coalesce r rest).toArray⟩

def union (s t : CharSet) : CharSet := ofRanges (s.ranges.toList ++ t.ranges.toList)

def unions (sets : List CharSet) : CharSet := ofRanges (sets.flatMap (·.ranges.toList))

/-- What lies between the ranges, from code point `start` on. -/
def gaps (start : Nat) : List CodeRange → List CodeRange
  | [] => if start ≤ lastCodePoint then [⟨start, lastCodePoint⟩] else []
  | r :: rest =>
    if start < r.first then ⟨start, r.first - 1⟩ :: gaps (r.final + 1) rest
    else gaps (r.final + 1) rest

def complement (s : CharSet) : CharSet := ⟨(gaps 0 s.ranges.toList).toArray⟩

def inter (s t : CharSet) : CharSet := (s.complement.union t.complement).complement

def diff (s t : CharSet) : CharSet := s.inter t.complement

def symmDiff (s t : CharSet) : CharSet := (s.diff t).union (t.diff s)

def isAscii (s : CharSet) : Bool := s.ranges.all (·.final ≤ 0x7F)

/-! ### Tables -/

def codePoint (digits : String) : Nat := hexValue digits.toList

/-- Reads a range as tables write it: `41-5A`, or `AA` for a single point. -/
def readRange (text : String) : CodeRange :=
  match text.splitOn "-" with
  | [first, final] => ⟨codePoint first, codePoint final⟩
  | _ => ⟨codePoint text, codePoint text⟩

def words (table : String) : List String :=
  ((table.splitOn "\n").flatMap (·.splitOn " ")).filter (· ≠ "")

def ofTable (table : String) : CharSet := ⟨((words table).map readRange).toArray⟩

end CharSet

end LineEditor

namespace LineEditor.Unicode

/-! ### Folding -/

/-- The groups of characters that folding makes equal. -/
def orbits : List (List Nat) :=
  (CharSet.words foldingTable).map fun word => (word.splitOn "-").map CharSet.codePoint

def asciiOrbits : List (List Nat) :=
  (List.range 26).map fun i => [0x41 + i, 0x61 + i]

end LineEditor.Unicode

namespace LineEditor.CharSet

def containsPoint (s : CharSet) (n : Nat) : Bool :=
  s.ranges.any fun r => r.first ≤ n && n ≤ r.final

def closeUnder (orbits : List (List Nat)) (s : CharSet) : CharSet :=
  s.union (ofRanges ((orbits.filter fun orbit => orbit.any s.containsPoint).flatMap fun orbit =>
    orbit.map fun n => ⟨n, n⟩))

def foldCase (s : CharSet) : CharSet := s.closeUnder Unicode.orbits

def foldAsciiCase (s : CharSet) : CharSet := s.closeUnder Unicode.asciiOrbits

end LineEditor.CharSet
