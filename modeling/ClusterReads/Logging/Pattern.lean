import ClusterReads.Text.Scan

/-!
# Patterns

The well formed patterns that the value of a field may be matched against: letters, classes in brackets,
groups, alternatives and repetitions without counts. Patterns are about characters, but know no more of
them than ASCII does: shorthand classes, word ends and letters in either case are left to the ASCII mode.
-/
namespace ClusterReads
namespace Pattern

open Text Text.Scan

/-- How what follows is read. -/
structure Mode where
  ignoreCase : Bool := false
  ascii : Bool := false
  deriving DecidableEq, Repr

/-- What an escape stands for. -/
inductive Atom where
  | letter (c : Char)
  /-- A character by two hexadecimal digits. -/
  | byte (n : Nat)
  /-- The digits, the blanks or the word characters, or all but these. -/
  | shorthand (negated : Bool)
  | textEnd
  | wordEnd
  deriving DecidableEq, Repr

namespace Atom

def code? : Atom → Option Nat
  | .letter c => some c.toNat
  | .byte n => some n
  | _ => none

/-- An atom may stand in a class. -/
def fitsClass (mode : Mode) : Atom → Bool
  | .letter c => if mode.ascii then c.toNat < 128 else !mode.ignoreCase
  | .byte n => if mode.ascii then n < 128 else !mode.ignoreCase
  | .shorthand negated => mode.ascii && !negated
  | .textEnd => false
  | .wordEnd => false

/-- An atom may stand outside of classes. -/
def fits (mode : Mode) : Atom → Bool
  | .letter _ => mode.ascii || !mode.ignoreCase
  | .textEnd => true
  | .wordEnd => mode.ascii
  | a => a.fitsClass mode

end Atom

/-! ## Escapes -/

def hexDigit : Scan Nat := do
  let c ← any
  if c.isDigit then return c.toNat - 48
  else if 'a' ≤ c ∧ c ≤ 'f' then return c.toNat - 87
  else if 'A' ≤ c ∧ c ≤ 'F' then return c.toNat - 55
  else failure

def hexNumber : Nat → Scan Nat
  | 0 => return 0
  | width + 1 => do return 16 * (← hexNumber width) + (← hexDigit)

/-- The character of a code point. -/
def characterOf (n : Nat) : Scan Atom :=
  if n.isValidChar then return .letter (Char.ofNat n) else failure

/-- What a backslash and a character stand for, with the digits after it. -/
def escape : Scan Atom := do
  let c ← any
  if c = 'x' then return .byte (← hexNumber 2)
  else if c = 'u' then characterOf (← hexNumber 4)
  else if c = 'U' then characterOf (← hexNumber 8)
  else if c = 'd' ∨ c = 's' ∨ c = 'w' then return .shorthand false
  else if c = 'D' ∨ c = 'S' ∨ c = 'W' then return .shorthand true
  else if c = 'A' ∨ c = 'z' then return .textEnd
  else if c = 'b' ∨ c = 'B' ∨ c = '<' ∨ c = '>' then return .wordEnd
  else if c = 'a' ∨ c = 'f' ∨ c = 't' ∨ c = 'n' ∨ c = 'r' ∨ c = 'v' then return .letter c
  else if c.toNat < 128 ∧ !c.isAlphanum then return .letter c
  else failure

/-! ## Classes -/

def asciiClasses : List (List Char) :=
  ["alnum", "alpha", "ascii", "blank", "cntrl", "digit", "graph", "lower", "print", "punct", "space",
    "upper", "word", "xdigit"].map String.toList

/-- A named class such as `[:alpha:]`, if one follows. -/
def asciiClass : Scan Bool := fun cs =>
  match cs with
  | '[' :: ':' :: rest =>
    let rest := if rest.head? = some '^' then rest.tail else rest
    let name := rest.takeWhile Char.isAlphanum
    match rest.dropWhile Char.isAlphanum with
    | ':' :: ']' :: rest => if asciiClasses.contains name then some (true, rest) else some (false, cs)
    | _ => some (false, cs)
  | _ => some (false, cs)

/-- A mark between two parts of a class, if one follows. -/
def classOperator : Scan Bool
  | '&' :: '&' :: rest => some (true, rest)
  | '-' :: '-' :: rest => some (true, rest)
  | '~' :: '~' :: rest => some (true, rest)
  | cs => some (false, cs)

/-- What follows the opening bracket of a class and means no more than itself there. -/
def classStart (mode : Mode) : Scan Unit := do
  if (← peek) = some '^' then
    let _ ← any
    if mode.ascii then failure
  let dashes ← takeWhile (· = '-')
  if dashes.isEmpty ∧ (← peek) = some ']' then
    let _ ← any

def classAtom : Scan Atom := do
  match ← any with
  | '\\' => escape
  | c => return .letter c

/-- A range follows: a hyphen that is neither the last character of the class nor one of two. -/
def rangeFollows : List Char → Bool
  | '-' :: c :: _ => c ≠ ']' && c ≠ '-'
  | _ => false

/-- A member of a class, or a range of them. -/
def classItem (mode : Mode) : Scan Unit := do
  let first ← classAtom
  if !first.fitsClass mode then failure
  if ← (fun cs => some (rangeFollows cs, cs) : Scan Bool) then
    let _ ← any
    let last ← classAtom
    if !last.fitsClass mode then failure
    match first.code?, last.code? with
    | some low, some high => if low ≤ high then return () else failure
    | _, _ => failure

/-- A class after its start, inside so many other classes. -/
def classRest (mode : Mode) : Nat → Nat → Scan Unit
  | 0, _ => failure
  | fuel + 1, outer => do
    if ← asciiClass then
      if mode.ignoreCase && !mode.ascii then failure
      classRest mode fuel outer
    else if ← classOperator then classRest mode fuel outer
    else
      match ← peek with
      | none => failure
      | some '[' =>
        let _ ← any
        classStart mode
        classRest mode fuel (outer + 1)
      | some ']' =>
        let _ ← any
        match outer with
        | 0 => return ()
        | outer + 1 => classRest mode fuel outer
      | some _ =>
        classItem mode
        classRest mode fuel outer

/-! ## Groups -/

/-- The letters that switch modes. -/
def modeLetters : List Char :=
  ['i', 'm', 's', 'U', 'u', 'R', 'x']

/-- A list of switches: letters and at most one minus, none of them twice, and the minus not the last. -/
def isSwitchList (cs : List Char) : Bool :=
  cs.all (fun c => modeLetters.contains c || c = '-') && cs.Nodup && cs.getLast? ≠ some '-'

/-- Switches in front of the minus are turned on, and those behind it off. -/
def switch (mode : Mode) (cs : List Char) : Mode :=
  let on := cs.takeWhile (· ≠ '-')
  let off := cs.dropWhile (· ≠ '-')
  { ignoreCase := (mode.ignoreCase || on.contains 'i') && !off.contains 'i'
    ascii := (mode.ascii || off.contains 'u') && !on.contains 'u' }

/-- The name of a group: a letter or an underscore, then also digits, dots and brackets. -/
def isGroupName : List Char → Bool
  | [] => false
  | c :: cs =>
    (c.isAlpha || c = '_') &&
      cs.all fun c => c.isAlphanum || c = '_' || c = '.' || c = '[' || c = ']'

/-- How deep groups nest at most. -/
def maxGroups : Nat :=
  250

/-- What has been read so far: the mode, the modes around the open groups, the names of groups, and whether
something stands in front that can be repeated. -/
structure Progress where
  mode : Mode := {}
  outer : List Mode := []
  names : List (List Char) := []
  repeatable : Bool := false

namespace Progress

/-- Opens a group in a mode. -/
def opening (p : Progress) (mode : Mode) : Progress :=
  { p with mode := mode, outer := p.mode :: p.outer, repeatable := false }

/-- A group with a name. -/
def openNamed (p : Progress) : Scan Progress := do
  let name ← takeWhile (· ≠ '>')
  char '>'
  if isGroupName name && !p.names.contains name then
    return { p.opening p.mode with names := name :: p.names }
  else failure

/-- A group with switches of its own, or switches for what follows. -/
def openSwitched (p : Progress) : Scan Progress := do
  let switches ← takeWhile fun c => c ≠ ':' && c ≠ ')'
  if !isSwitchList switches then failure
  match ← any with
  | ':' => return p.opening (switch p.mode switches)
  | _ =>
    if switches.isEmpty then failure
    else return { p with mode := switch p.mode switches, repeatable := false }

/-- A group after its opening parenthesis. -/
def openGroup (p : Progress) : Scan Progress := fun cs =>
  if maxGroups ≤ p.outer.length then none
  else match cs with
  | '?' :: 'P' :: '<' :: rest => p.openNamed rest
  | '?' :: '<' :: '!' :: _ => none
  | '?' :: '<' :: rest => p.openNamed rest
  | '?' :: rest => p.openSwitched rest
  | _ => some (p.opening p.mode, cs)

/-- Something that can be repeated has been read. -/
def done (p : Progress) : Progress :=
  { p with repeatable := true }

/-- Reads on after a character. -/
def step (p : Progress) (c : Char) : Scan Progress := do
  match c with
  | '(' => p.openGroup
  | ')' =>
    match p.outer with
    | mode :: outer => return { p with mode, outer, repeatable := true }
    | [] => failure
  | '|' => return { p with repeatable := false }
  | '[' =>
    classStart p.mode
    let room ← (fun cs => some (cs.length + 1, cs) : Scan Nat)
    classRest p.mode room 0
    return p.done
  | '.' => if p.mode.ascii then failure else return p.done
  | '^' => return p.done
  | '$' => return p.done
  | '\x7b' => failure
  | '\\' => if (← escape).fits p.mode then return p.done else failure
  | c =>
    if c = '*' ∨ c = '+' ∨ c = '?' then
      if !p.repeatable then failure
      if (← peek) = some '?' then
        let _ ← any
      return p
    else if (Atom.letter c).fits p.mode then return p.done
    else failure

/-- Reads to the end, where no group is open. -/
def finish : Nat → Progress → List Char → Bool
  | _, p, [] => p.outer.isEmpty
  | 0, _, _ => false
  | fuel + 1, p, c :: cs =>
    match p.step c cs with
    | some (p, rest) => finish fuel p rest
    | none => false

end Progress

/-- The text is a pattern. -/
def isPattern (cs : List Char) : Bool :=
  Progress.finish cs.length {} cs

example : isPattern "(a|b*)[^x-z\\]]+?$".toList = true := by decide +kernel
example : isPattern "(".toList = false := by decide +kernel
example : isPattern "a|*".toList = false := by decide +kernel
example : isPattern "[z-a]".toList = false := by decide +kernel
example : isPattern "\\d".toList = false := by decide +kernel
example : isPattern "(?-u:\\d)".toList = true := by decide +kernel

end Pattern
end ClusterReads
