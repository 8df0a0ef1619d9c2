import ClusterReads.Decimal.Shortest

/-!
# Decimal literals

A decimal literal is a sign, a whole part, digits after the point and a power of ten, apart from how a
format spells it. Doubles are written as literals by a `FloatStyle`, and literals are read as doubles in
two ways: rounded once from the exact decimal (`nearest`), or scaled from the leading digits that fit a
64-bit word (`scaled?`).
-/
namespace ClusterReads
namespace Decimal

structure Literal where
  negative : Bool
  whole : Nat
  /-- Digits after the point; none when no point is written. -/
  fraction : List Char
  exponent : Option Int
  deriving DecidableEq, Repr

namespace Literal

def ofNat (n : Nat) : Literal :=
  ⟨false, n, [], none⟩

def ofInt (n : Int) : Literal :=
  ⟨n < 0, n.natAbs, [], none⟩

/-- Written with digits alone. -/
def isWhole (l : Literal) : Bool :=
  l.fraction.isEmpty && l.exponent.isNone

/-- The natural number a literal names; a minus sign disqualifies it, also before zero. -/
def toNat? (l : Literal) : Option Nat :=
  if l.isWhole && !l.negative then some l.whole else none

/-- The integer a literal names; minus zero names none. -/
def toInt? (l : Literal) : Option Int :=
  if l.isWhole && !(l.negative && l.whole == 0) then
    some (if l.negative then -(l.whole : Int) else l.whole)
  else none

/-- The spelling with a point before the fraction and a signed exponent after `e`. -/
def chars (l : Literal) : List Char :=
  (if l.negative then ['-'] else []) ++ digits l.whole ++
    (if l.fraction.isEmpty then [] else '.' :: l.fraction) ++
    (match l.exponent with
      | none => []
      | some e => 'e' :: (if e < 0 then '-' else '+') :: digits e.natAbs)

def text (l : Literal) : String :=
  String.ofList l.chars

/-- All digits as one number, and the power of ten it is multiplied by. -/
def decimal (l : Literal) : Scaled :=
  ⟨valueFrom l.whole l.fraction, l.exponent.getD 0 - l.fraction.length⟩

@[simp] theorem toNat?_ofNat (n : Nat) : (ofNat n).toNat? = some n := rfl

@[simp] theorem toInt?_ofInt (n : Int) : (ofInt n).toInt? = some n := by
  unfold ofInt toInt? isWhole
  by_cases h : n < 0
  · have hzero : n.natAbs ≠ 0 := by omega
    have hvalue : -(n.natAbs : Int) = n := by omega
    rw [if_pos (by simp [h, hzero]), if_pos (by simpa using h), hvalue]
  · have hvalue : (n.natAbs : Int) = n := by omega
    rw [if_pos (by simp [h]), if_neg (by simpa using h), hvalue]

end Literal

/-- How a format lays out the digits of a double. -/
structure FloatStyle where
  /-- The least exponent of the leading digit that is written with a point, if any are excluded. -/
  positionalFrom : Option Int
  /-- The first exponent of the leading digit that is too large for a point. -/
  positionalBelow : Option Int
  /-- Whether a whole number keeps one zero after the point. -/
  keepsPoint : Bool

namespace FloatStyle

/-- The layout of a decimal without trailing zeros. -/
def layout (style : FloatStyle) (negative : Bool) (s : Scaled) : Literal :=
  let ds := digits s.coefficient
  let leading := s.exponent + ds.length - 1
  if style.positionalFrom.all (· ≤ leading) && style.positionalBelow.all (leading < ·) then
    if 0 ≤ s.exponent then
      ⟨negative, s.coefficient * tenTo s.exponent.toNat, if style.keepsPoint then ['0'] else [], none⟩
    else
      let places := (-s.exponent).toNat
      ⟨negative, s.coefficient / tenTo places, padded places (s.coefficient % tenTo places), none⟩
  else
    ⟨negative, value (ds.take 1), ds.drop 1, some leading⟩

/-- A finite double as a literal of the style: the shortest digits that read back. -/
def literal (style : FloatStyle) (x : Float) : Literal :=
  let negative := twoTo 63 ≤ x.toBits.toNat
  let b := Binary.ofFloat x
  if b.mantissa = 0 then ⟨negative, 0, if style.keepsPoint then ['0'] else [], none⟩
  else style.layout negative b.shortest

/-- Always with a point where one is needed, and never with an exponent. -/
def plain : FloatStyle :=
  ⟨none, none, false⟩

/-- With a point from `0.00001` to below ten to the sixteenth, else with an exponent; a whole number
keeps its point. -/
def json : FloatStyle :=
  ⟨some (-5), some 16, true⟩

end FloatStyle

/-- The plain text of a double, with words for what no digits can say. -/
def plainText (x : Float) : String :=
  if x.isNaN then "NaN"
  else if x.isInf then (if x < 0 then "-inf" else "inf")
  else (FloatStyle.plain.literal x).text

/-- The double nearest to an exact decimal. Decimals beyond all doubles are cut off before their power
of ten is formed. -/
def Scaled.nearest (s : Scaled) : Float :=
  let leading := s.exponent + (digits s.coefficient).length
  if s.coefficient = 0 ∨ leading < -330 then 0
  else if 330 < leading then Float.ofBits 0x7FF0000000000000
  else Float.ofScientific s.coefficient (s.exponent < 0) s.exponent.natAbs

/-- The literal rounded once. -/
def Literal.nearest (l : Literal) : Float :=
  let x := l.decimal.nearest
  if l.negative then -x else x

/-- The largest 64-bit word. -/
def maxWord : Nat :=
  UInt64.size - 1

/-- Whole digits kept while they fit a word; from the first that does not, each only scales. -/
def wholeDigits : Nat → Nat → List Char → Nat × Nat
  | kept, dropped, [] => (kept, dropped)
  | kept, dropped, c :: cs =>
    if dropped ≠ 0 ∨ maxWord < 10 * kept + digitValue c then wholeDigits kept (dropped + 1) cs
    else wholeDigits (10 * kept + digitValue c) 0 cs

/-- Digits after the point kept while they fit a word; the rest is ignored. -/
def fractionDigits : Nat → Nat → List Char → Nat × Nat
  | kept, places, [] => (kept, places)
  | kept, places, c :: cs =>
    if maxWord < 10 * kept + digitValue c then (kept, places)
    else fractionDigits (10 * kept + digitValue c) (places + 1) cs

/-- Divides by powers of ten until the remaining exponent is in the table of powers. -/
def scaleDown : Nat → Float → Nat → Float
  | 0, x, _ => x
  | fuel + 1, x, places =>
    if places ≤ 308 then x / Float.ofScientific 1 false places
    else if x == 0 then x
    else scaleDown fuel (x / Float.ofScientific 1 false 308) (places - 308)

/-- A word times a power of ten, one rounding for the word and one for each scaling; nothing when the
result is too large for a double. -/
def scaleWord? (word : Nat) (exponent : Int) : Option Float :=
  let x := word.toUInt64.toFloat
  if 0 ≤ exponent then
    if exponent ≤ 308 then
      let y := x * Float.ofScientific 1 false exponent.toNat
      if y.isInf then none else some y
    else if x == 0 then some x else none
  else
    -- three scalings take every word to zero
    some (scaleDown 4 x (-exponent).toNat)

/-- The largest exponent that is read; a larger one is out of range, or zero. -/
def maxExponent : Nat :=
  2147483647

/-- The literal as a double, scaled from the leading digits that fit a word. -/
def Literal.scaled? (l : Literal) : Option Float :=
  let (whole, dropped) := wholeDigits 0 0 (digits l.whole)
  let (word, places) := fractionDigits whole 0 l.fraction
  let written := l.exponent.getD 0
  let magnitude? :=
    if maxExponent < written.natAbs then (if 0 < written ∧ word ≠ 0 then none else some 0)
    else scaleWord? word (written + dropped - places)
  magnitude?.map fun x => if l.negative then -x else x

end Decimal
end ClusterReads
