import ClusterReads.Decimal.Loose
import ClusterReads.Journal
import ClusterReads.Logging.Pattern
import ClusterReads.Text.Alphanumeric
import ClusterReads.Text.Blank

/-!
# Log directives

A directive says from which level on events are written: all of them, or those of a target, of a span, or
with certain fields. It is written `target[span{field=value}]=level`, and any part may be left out. The
text is read without the blanks around it, but its parts are cut by position out of the text as given.
-/
namespace ClusterReads

/-- A test on a field: it is there, or it is there with a value that fits. -/
structure FieldTest where
  name : String
  hasValue : Bool
  deriving DecidableEq, Repr

structure LogDirective where
  target : Option String := none
  span : Option String := none
  fields : List FieldTest := []
  /-- The least level that is written; without one nothing is. -/
  least : Option LogLevel := some .trace
  deriving DecidableEq, Repr

namespace LogDirective

/-- It depends on the spans around an event, or on fields. -/
def isDynamic (d : LogDirective) : Bool :=
  d.span.isSome || !d.fields.isEmpty

/-- It can be judged without spans and values. -/
def isStatic (d : LogDirective) : Bool :=
  d.span.isNone && d.fields.all fun f => !f.hasValue

/-! ## Parts -/

/-- The level that a text names, in any case or by its number; zero and `off` are no level. -/
def least? (cs : List Char) : Option (Option LogLevel) :=
  let ds := if cs.head? = some '+' then cs.tail else cs
  if !ds.isEmpty && ds.all Char.isDigit then
    match Decimal.value ds with
    | 0 => some none
    | n + 1 => (LogLevel.all[n]?).map some
  else
    let word := String.ofList (cs.map Char.toUpper)
    if word = "OFF" then some none
    else (LogLevel.all.find? fun l => l.name == word).map some

/-- The level after an equals sign; nothing stands for the least level. -/
def leastAfter? (cs : List Char) : Option (Option LogLevel) :=
  if cs.isEmpty then some (some .trace) else least? cs

/-- A value to compare with: a number, or a pattern. -/
def isFieldValue (cs : List Char) : Bool :=
  (Decimal.loose? cs).isSome || Pattern.isPattern cs

/-- A field and maybe its value. What follows a second equals sign does not count. -/
def fieldTest? (cs : List Char) : Option FieldTest :=
  if cs.isEmpty then none
  else
    let (name, value) := Text.cutAt (· = '=') cs
    match value with
    | none => some ⟨String.ofList name, false⟩
    | some rest =>
      if isFieldValue (rest.takeWhile (· ≠ '=')) then some ⟨String.ofList name, true⟩ else none

/-! ## Reading -/

/-- A text without its first bytes; nothing if they end inside a character. -/
def dropBytes : Nat → List Char → Option (List Char)
  | 0, cs => some cs
  | _ + 1, [] => none
  | n + 1, c :: cs => if c.utf8Size ≤ n + 1 then dropBytes (n + 1 - c.utf8Size) cs else none

/-- The first bytes of a text; nothing if they end inside a character. -/
def takeBytes : Nat → List Char → Option (List Char)
  | 0, _ => some []
  | _ + 1, [] => none
  | n + 1, c :: cs =>
    if c.utf8Size ≤ n + 1 then (takeBytes (n + 1 - c.utf8Size) cs).map (c :: ·) else none

/-- The bytes of a text from one position to another. -/
def slice? (cs : List Char) (start stop : Nat) : Option (List Char) := do
  takeBytes (stop - start) (← dropBytes start cs)

/-- Every character with its position in bytes. -/
def positions : Nat → List Char → List (Nat × Char)
  | _, [] => []
  | n, c :: cs => (n, c) :: positions (n + c.utf8Size) cs

/-- What is being read, with the position where it began. -/
inductive Stage where
  | start
  /-- A level or a target. -/
  | word (since : Nat)
  | span (since : Nat)
  | field (since : Nat)
  /-- The closing bracket after the fields. -/
  | afterFields
  /-- The equals sign after the closing bracket. -/
  | afterSpan
  | level (since : Nat)
  deriving DecidableEq, Repr

/-- What a directive may start with, other than a bracket: a letter or a number of any script, or one of
three marks. -/
def startsWord (c : Char) : Bool :=
  c = '-' || c = ':' || c = '_' || Text.isAlphanumeric c

/-- Reads on over a character at a position. -/
def step (cs : List Char) : Stage × LogDirective → Nat × Char → Option (Stage × LogDirective)
  | (.start, d), (i, c) =>
    if c = '[' then some (.span (i + 1), d) else if startsWord c then some (.word i, d) else none
  | (.word since, d), (i, c) =>
    if c = '=' ∨ c = '[' then do
      let target ← slice? cs since i
      return (if c = '=' then .level (i + 1) else .span (i + 1), { d with target := String.ofList target })
    else some (.word since, d)
  | (.span since, d), (i, c) =>
    if c = ']' then do
      let name ← slice? cs since i
      return (.afterSpan, { d with span := String.ofList name })
    else if c = '\x7b' then do
      let name ← slice? cs since i
      return (.field (i + 1), { d with span := if name.isEmpty then none else some (String.ofList name) })
    else some (.span since, d)
  | (.field since, d), (i, c) =>
    if c = '\x7d' then do
      let test ← fieldTest? (← slice? cs since i)
      return (.afterFields, { d with fields := d.fields ++ [test] })
    else some (.field since, d)
  | (.afterFields, d), (_, c) => if c = ']' then some (.afterSpan, d) else none
  | (.afterSpan, d), (i, c) => if c = '=' then some (.level (i + 1), d) else none
  | (.level since, d), _ => some (.level since, d)

/-- What the text is at its end. -/
def finish (cs : List Char) : Stage × LogDirective → Option LogDirective
  | (.word since, d) => do
    let word ← dropBytes since cs
    match least? word with
    | some least => return { d with least }
    | none => return { d with target := String.ofList word }
  | (.level since, d) => do
    let least ← leastAfter? (← dropBytes since cs)
    return { d with least }
  | (.afterSpan, d) => some d
  | _ => none

/-- A text without blanks around it. -/
def trim (cs : List Char) : List Char :=
  (Text.trimStart (Text.trimStart cs).reverse).reverse

/-- The directive of a text. -/
def parse? (cs : List Char) : Option LogDirective := do
  finish cs (← (positions 0 (trim cs)).foldlM (step cs) (.start, {}))

example : parse? "warn".toList = some { least := some .warn } := by decide +kernel
example : parse? "a[b]=off".toList = some { target := "a", span := "b", least := none } := by decide +kernel
example : parse? "[]x".toList = none := by decide +kernel

end LogDirective

end ClusterReads
