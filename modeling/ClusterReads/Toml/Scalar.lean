import ClusterReads.Decimal.Literal
import ClusterReads.Text.Pieces
import ClusterReads.Text.Scan
import ClusterReads.Time.Calendar
import ClusterReads.Toml.Basic

/-!
# TOML scalars

Truth values, numbers, dates and times. Digits may be parted by single underscores. Numbers that are too
large are no less well formed; who reads them has to refuse them.
-/
namespace ClusterReads
namespace Toml

open Text Text.Scan

/-! ## Numbers -/

/-- Drops the underscores of a run of digits; each has to stand between two digits. -/
def joinDigits (isDigit : Char → Bool) : List Char → Option (List Char)
  | [] => none
  | [c] => if isDigit c then some [c] else none
  | c :: '_' :: rest =>
    if isDigit c then (joinDigits isDigit rest).map (c :: ·) else none
  | c :: rest => if isDigit c then (joinDigits isDigit rest).map (c :: ·) else none

/-- Digits that do not start with a zero, but for the zero itself. -/
def wholeDigits? (cs : List Char) : Option (List Char) := do
  match ← joinDigits Char.isDigit cs with
  | ['0'] => some ['0']
  | '0' :: _ => none
  | ds => some ds

/-- The value of a digit in bases up to sixteen. -/
def digitOf (c : Char) : Nat :=
  if c.isDigit then c.toNat - 48
  else if 'a' ≤ c ∧ c ≤ 'f' then c.toNat - 87
  else if 'A' ≤ c ∧ c ≤ 'F' then c.toNat - 55
  else 16

/-- A natural number in a base. -/
def basedNumber? (base : Nat) (cs : List Char) : Option Nat := do
  let ds ← joinDigits (fun c => digitOf c < base) cs
  return ds.foldl (fun n c => base * n + digitOf c) 0

/-- The integers that 128 bits hold, with a sign or without. -/
def fitsWide (n : Int) : Bool :=
  -Int.ofNat (Decimal.twoTo 127) ≤ n && n < Int.ofNat (Decimal.twoTo 128)

def integer? : List Char → Option Int
  | '0' :: 'x' :: cs => (basedNumber? 16 cs).map Int.ofNat
  | '0' :: 'o' :: cs => (basedNumber? 8 cs).map Int.ofNat
  | '0' :: 'b' :: cs => (basedNumber? 2 cs).map Int.ofNat
  | '-' :: cs => (wholeDigits? cs).map fun ds => -Int.ofNat (Decimal.value ds)
  | '+' :: cs => (wholeDigits? cs).map fun ds => Int.ofNat (Decimal.value ds)
  | cs => (wholeDigits? cs).map fun ds => Int.ofNat (Decimal.value ds)

/-- The exponent after its letter. -/
def exponent? (cs : List Char) : Option Int := do
  let (negative, cs) := Decimal.splitSign cs
  let n : Int := Decimal.value (← joinDigits Char.isDigit cs)
  return if negative then -n else n

/-- A number with a point or an exponent. -/
def decimal? (cs : List Char) : Option Decimal.Literal := do
  let (negative, cs) := Decimal.splitSign cs
  let (mantissa, power) := cutAt (fun c => c = 'e' || c = 'E') cs
  let (whole, fraction) := cutAt (· = '.') mantissa
  let ds ← wholeDigits? whole
  let fs ← match fraction with
    | none => some []
    | some fs => joinDigits Char.isDigit fs
  let e ← match power with
    | none => some none
    | some es => (exponent? es).map some
  return ⟨negative, Decimal.value ds, fs, e⟩

/-- Infinities and what is not a number. -/
def specialFloat? (cs : List Char) : Option Float :=
  let (negative, cs) := Decimal.splitSign cs
  let signed (x : Float) : Float := if negative then -x else x
  if cs = ['i', 'n', 'f'] then some (signed (1 / 0))
  else if cs = ['n', 'a', 'n'] then some (signed (0 / 0))
  else none

/-- A decimal, unless it is beyond the doubles. -/
def ofDecimal (l : Decimal.Literal) : Toml :=
  let x := l.nearest
  if x.isInf then .huge else .float x

/-! ## Dates and times -/

/-- A number of exactly so many digits. -/
def exactly (width : Nat) : Scan (List Char) := do
  let ds ← digitsUpTo width
  if ds.length = width then return ds else failure

/-- The text of a date. -/
def scanDate : Scan (List Char) := do
  let year ← exactly 4
  char '-'
  let month ← exactly 2
  char '-'
  let day ← exactly 2
  let date : Time.Date := ⟨Decimal.value year, Decimal.value month, Decimal.value day⟩
  if date.isValid then return year ++ '-' :: month ++ '-' :: day else failure

/-- Drops trailing zeros. -/
def trimZeros (ds : List Char) : List Char :=
  (ds.reverse.dropWhile (· = '0')).reverse

/-- A fraction of a second in its standard form: at most nine digits without trailing zeros, and one zero
for nothing. -/
def scanSecondFraction : Scan (List Char) := do
  match ← peek with
  | some '.' =>
    let _ ← any
    let ds ← Scan.digits
    match trimZeros (ds.take 9) with
    | [] => return ['.', '0']
    | ds => return '.' :: ds
  | _ => return []

/-- The text of the second of a minute with its colon, if there is one. -/
def scanSecond : Scan (List Char) := do
  match ← peek with
  | some ':' =>
    let _ ← any
    let second ← exactly 2
    let fraction ← scanSecondFraction
    if Decimal.value second ≤ 60 then return ':' :: second ++ fraction else failure
  | _ => return []

/-- The text of a time of day. -/
def scanTime : Scan (List Char) := do
  let hour ← exactly 2
  char ':'
  let minute ← exactly 2
  let second ← scanSecond
  if Decimal.value hour < 24 ∧ Decimal.value minute < 60 then
    return hour ++ ':' :: minute ++ second
  else failure

/-- The text of an offset; none at the end. An offset of nothing is positive. -/
def scanOffset : Scan (List Char) := do
  match ← peek with
  | none => return []
  | some 'Z' | some 'z' => let _ ← any; return ['Z']
  | some sign =>
    let _ ← sat fun c => c = '+' || c = '-'
    let hour ← exactly 2
    char ':'
    let minute ← exactly 2
    let total := 60 * Decimal.value hour + Decimal.value minute
    if Decimal.value minute < 60 ∧ Decimal.value hour < 24 then
      return (if total = 0 then '+' else sign) :: hour ++ ':' :: minute
    else failure

/-- What follows a date: nothing, or a time and an offset. -/
def scanAfterDate : Scan (List Char) := do
  match ← peek with
  | none => return []
  | some _ =>
    let _ ← sat fun c => c = 'T' || c = 't' || c = ' '
    let time ← scanTime
    return 'T' :: time ++ (← scanOffset)

/-- A date, a time or both. -/
def moment? (cs : List Char) : Option String :=
  match (do return (← scanDate) ++ (← scanAfterDate) : Scan (List Char)) cs with
  | some (written, []) => some (String.ofList written)
  | _ =>
    match scanTime cs with
    | some (written, []) => some (String.ofList written)
    | _ => none

/-! ## Scalars -/

/-- A value without quotes and brackets. -/
def scalar (cs : List Char) : Option Toml :=
  if cs = "true".toList then some (.bool true)
  else if cs = "false".toList then some (.bool false)
  else
    ((integer? cs).map fun n => if fitsWide n then .integer n else .huge)
      <|> (specialFloat? cs).map .float
      <|> (decimal? cs).map ofDecimal
      <|> (moment? cs).map .moment

end Toml
end ClusterReads
