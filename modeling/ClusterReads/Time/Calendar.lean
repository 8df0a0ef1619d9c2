/-!
# The Gregorian calendar

Days are counted from 1970-01-01, backwards below zero, in the calendar extended to all years. Years are
counted from the first of March, so that the leap day is the last of its year; every four centuries
repeat.
-/
namespace ClusterReads
namespace Time

structure Date where
  year : Int
  month : Nat
  day : Nat
  deriving DecidableEq, Repr

def isLeapYear (year : Int) : Bool :=
  year % 4 == 0 && (year % 100 != 0 || year % 400 == 0)

def daysInMonth (year : Int) (month : Nat) : Nat :=
  if month = 2 then (if isLeapYear year then 29 else 28)
  else if month = 4 ∨ month = 6 ∨ month = 9 ∨ month = 11 then 30
  else 31

namespace Date

/-- The date exists in the calendar. -/
def isValid (d : Date) : Bool :=
  1 ≤ d.month && d.month ≤ 12 && 1 ≤ d.day && d.day ≤ daysInMonth d.year d.month

/-- Days in four centuries. -/
def eraDays : Int :=
  146097

/-- Days from the first of March of year zero to 1970-01-01. -/
def epochOffset : Int :=
  719468

/-- The number of a date, zero for 1970-01-01. -/
def number (d : Date) : Int :=
  let year := if d.month ≤ 2 then d.year - 1 else d.year
  let era := year / 400
  let ofEra := year % 400
  let ofYear : Int := (153 * ((d.month + 9) % 12) + 2) / 5 + d.day - 1
  era * eraDays + (ofEra * 365 + ofEra / 4 - ofEra / 100 + ofYear) - epochOffset

/-- The date of a day number. -/
def ofNumber (n : Int) : Date :=
  let shifted := n + epochOffset
  let era := shifted / eraDays
  let dayOfEra := shifted % eraDays
  let ofEra := (dayOfEra - dayOfEra / 1460 + dayOfEra / 36524 - dayOfEra / 146096) / 365
  let ofYear := dayOfEra - (365 * ofEra + ofEra / 4 - ofEra / 100)
  let marchMonth := (5 * ofYear + 2) / 153
  let month := if marchMonth < 10 then marchMonth + 3 else marchMonth - 9
  { year := era * 400 + ofEra + (if month ≤ 2 then 1 else 0)
    month := month.toNat
    day := (ofYear - (153 * marchMonth + 2) / 5 + 1).toNat }

example : (Date.mk 1970 1 1).number = 0 := by decide
example : Date.ofNumber 0 = ⟨1970, 1, 1⟩ := by decide
example : (Date.mk 2000 3 1).number - (Date.mk 2000 2 29).number = 1 := by decide
example : Date.ofNumber (Date.mk (-1) 2 28).number = ⟨-1, 2, 28⟩ := by decide

end Date

end Time
end ClusterReads
