import ClusterReads.Decimal.Digits
import ClusterReads.Text.Blank

/-!
# Scanning text

A scan consumes a text from the left: it fails, or gives a value and the characters left over.
-/
namespace ClusterReads
namespace Text

abbrev Scan (α : Type) :=
  StateT (List Char) Option α

namespace Scan

/-- The next character, left in place; nothing at the end. -/
def peek : Scan (Option Char) :=
  fun cs => some (cs.head?, cs)

/-- The next character. -/
def any : Scan Char
  | [] => none
  | c :: cs => some (c, cs)

/-- A character of a class. -/
def sat (p : Char → Bool) : Scan Char
  | [] => none
  | c :: cs => if p c then some (c, cs) else none

def char (c : Char) : Scan Unit
  | [] => none
  | d :: cs => if d = c then some ((), cs) else none

/-- The longest run of characters of a class. -/
def takeWhile (p : Char → Bool) : Scan (List Char) :=
  fun cs => some (cs.takeWhile p, cs.dropWhile p)

def skipWhile (p : Char → Bool) : Scan Unit :=
  fun cs => some ((), cs.dropWhile p)

/-- Skips Unicode white space. -/
def blanks : Scan Unit :=
  skipWhile isWhite

/-- The first `width` digits, at least one. -/
def digitsUpTo (width : Nat) : Scan (List Char) := fun cs =>
  let ds := (cs.takeWhile Char.isDigit).take width
  if ds.isEmpty then none else some (ds, cs.drop ds.length)

/-- As many digits as there are, at least one. -/
def digits : Scan (List Char) := fun cs =>
  let ds := cs.takeWhile Char.isDigit
  if ds.isEmpty then none else some (ds, cs.drop ds.length)

def numberUpTo (width : Nat) : Scan Nat :=
  Decimal.value <$> digitsUpTo width

def number : Scan Nat :=
  Decimal.value <$> digits

/-- Repeats a step until it reports the end. A step has to consume something; the last one need not. -/
def repeated {α : Type} (step : Scan (Option α)) (cs : List Char) : Option (List α × List Char) :=
  match step cs with
  | none => none
  | some (none, rest) => some ([], rest)
  | some (some a, rest) =>
    if rest.length < cs.length then
      match repeated step rest with
      | some (as, rest) => some (a :: as, rest)
      | none => none
    else none
termination_by cs.length

/-- Runs a scan on a text that it has to consume whole. -/
def whole? {α : Type} (scan : Scan α) (s : String) : Option α :=
  match scan s.toList with
  | some (a, []) => some a
  | _ => none

end Scan

end Text
end ClusterReads
