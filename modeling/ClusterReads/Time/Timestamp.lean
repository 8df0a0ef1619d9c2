import ClusterReads.Text.Scan
import ClusterReads.Time.Calendar

/-!
# Timestamps

A timestamp is a day, a second of that day and a nanosecond, all in UTC. A leap second is the last second
of a minute with a nanosecond count from one billion on. Timestamps are written as the date, `T`,
the time with as few fraction digits as are exact, and `Z`; they are read from that form with any offset.
-/
namespace ClusterReads

/-- The number of nanoseconds in a second. -/
def billion : Nat :=
  1000000000

namespace Timestamp

/-- The first and the last year of the calendar that timestamps use. -/
def yearRange : Int × Int :=
  (-262143, 262142)

def inRange (d : Time.Date) : Bool :=
  yearRange.1 ≤ d.year && d.year ≤ yearRange.2

end Timestamp

structure Timestamp where
  /-- Days since 1970-01-01. -/
  day : Int
  /-- Seconds since midnight. -/
  second : Nat
  nano : Nat
  second_lt : second < 86400
  /-- Only the last second of a minute can be a leap second. -/
  nano_lt : nano < billion ∨ (second % 60 = 59 ∧ nano < 2 * billion)
  day_inRange : Timestamp.inRange (Time.Date.ofNumber day) = true
  deriving DecidableEq, Repr

namespace Timestamp

instance : Ord Timestamp where
  compare := compareLex (compareOn (·.day)) (compareLex (compareOn (·.second)) (compareOn (·.nano)))

/-- Midnight of 1970-01-01. -/
def epoch : Timestamp :=
  ⟨0, 0, 0, by decide, by decide, by decide⟩

instance : Inhabited Timestamp := ⟨epoch⟩

/-- A timestamp from its parts, if they are in range. -/
def ofParts? (day : Int) (second nano : Nat) : Option Timestamp :=
  if hs : second < 86400 then
    if hn : nano < billion ∨ (second % 60 = 59 ∧ nano < 2 * billion) then
      if hd : inRange (Time.Date.ofNumber day) then some ⟨day, second, nano, hs, hn, hd⟩ else none
    else none
  else none

/-! ## Writing -/

/-- Four digits for the years 0 to 9999; a sign and at least four digits for all others. -/
def yearChars (year : Int) : List Char :=
  if 0 ≤ year ∧ year ≤ 9999 then Decimal.padded 4 year.toNat
  else (if year < 0 then '-' else '+') :: Decimal.padded 4 year.natAbs

/-- Nothing, or a point and 3, 6 or 9 digits: the fewest that are exact. -/
def fractionChars (nano : Nat) : List Char :=
  if nano = 0 then []
  else if nano % 1000000 = 0 then '.' :: Decimal.padded 3 (nano / 1000000)
  else if nano % 1000 = 0 then '.' :: Decimal.padded 6 (nano / 1000)
  else '.' :: Decimal.padded 9 nano

def chars (t : Timestamp) : List Char :=
  let date := Time.Date.ofNumber t.day
  let leap := t.nano / billion
  yearChars date.year ++ '-' :: Decimal.padded 2 date.month ++ '-' :: Decimal.padded 2 date.day ++
    'T' :: Decimal.padded 2 (t.second / 3600) ++ ':' :: Decimal.padded 2 (t.second / 60 % 60) ++
    ':' :: Decimal.padded 2 (t.second % 60 + leap) ++ fractionChars (t.nano % billion) ++ ['Z']

def text (t : Timestamp) : String :=
  String.ofList t.chars

/-! ## Reading -/

open Text Text.Scan

/-- Up to four digits, or a sign and any number of digits. -/
def scanYear : Scan Int := do
  blanks
  match ← peek with
  | some '-' => do let _ ← any; return -(← number)
  | some '+' => do let _ ← any; return ← number
  | _ => return ← numberUpTo 4

/-- A field of one or two digits after white space. -/
def scanField : Scan Nat := do
  blanks
  numberUpTo 2

/-- A mark after white space. -/
def scanMark (c : Char) : Scan Unit := do
  blanks
  char c

/-- A point and digits, as nanoseconds; digits past the ninth are dropped. -/
def scanFraction : Scan Nat := do
  match ← peek with
  | some '.' =>
    let _ ← any
    let ds ← digitsUpTo 9
    skipWhile Char.isDigit
    return Decimal.value ds * Decimal.tenTo (9 - ds.length)
  | _ => return 0

/-- A digit, as its value. -/
def scanDigit : Scan Nat :=
  Decimal.digitValue <$> sat Char.isDigit

/-- Two digits of an offset. -/
def scanTwo : Scan Nat := do
  let tens ← scanDigit
  return 10 * tens + (← scanDigit)

/-- Hours and minutes of an offset, in minutes; colons and white space between them are skipped. -/
def scanHoursMinutes : Scan Nat := do
  let hours ← scanTwo
  skipWhile fun c => c = ':' || isWhite c
  let minutes ← scanTwo
  if minutes < 60 then return 60 * hours + minutes else failure

/-- The word `UTC` in any case. -/
def startsWithUtc (cs : List Char) : Bool :=
  cs.take 3 |>.map Char.toUpper |> (· == ['U', 'T', 'C'])

/-- An offset from UTC in minutes. -/
def scanOffset : Scan Int := do
  if startsWithUtc (← get) then
    modify (·.drop 3)
    return 0
  match ← any with
  | 'Z' | 'z' => return 0
  | '+' => return ← scanHoursMinutes
  | '-' | '−' => return -(← scanHoursMinutes)
  | _ => failure

/-- The last second of a minute reads as 59 or 60, the latter as a leap second. -/
def splitSecond (second : Nat) : Nat × Nat :=
  if second = 60 then (59, billion) else (second, 0)

/-- The moment of a local date and time, given in seconds and nanoseconds, at an offset. -/
def atOffset? (date : Time.Date) (second nano : Nat) (offset : Int) : Option Timestamp :=
  if date.isValid && inRange date && offset.natAbs < 1440 then
    let utc := (second : Int) - 60 * offset
    ofParts? (date.number + utc / 86400) (utc % 86400).toNat nano
  else none

def scan : Scan Timestamp := do
  let year ← scanYear
  scanMark '-'
  let month ← scanField
  scanMark '-'
  let day ← scanField
  let _ ← sat fun c => c = 'T' || c = 't' || c = ' '
  let hour ← scanField
  scanMark ':'
  let minute ← scanField
  scanMark ':'
  let second ← scanField
  let fraction ← scanFraction
  blanks
  let offset ← scanOffset
  blanks
  if hour < 24 ∧ minute < 60 ∧ second ≤ 60 then
    let (second, leap) := splitSecond second
    match atOffset? ⟨year, month, day⟩ (3600 * hour + 60 * minute + second) (leap + fraction) offset with
    | some t => return t
    | none => failure
  else failure

/-- The moment a text names. -/
def ofText? (s : String) : Option Timestamp :=
  scan.whole? s

end Timestamp

end ClusterReads
