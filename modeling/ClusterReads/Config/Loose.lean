import ClusterReads.Config.Reader
import ClusterReads.Config.Setting
import ClusterReads.Decimal.Literal
import ClusterReads.Text.Lowercase

/-!
# Reading settings loosely

Scalars are turned into the type that is asked for where that makes sense; lists and groups are not.
-/
namespace ClusterReads

def affirmations : List String :=
  ["1", "true", "on", "yes"]

def negations : List String :=
  ["0", "false", "off", "no"]

/-- A truth value: a number other than zero, or a word. -/
def looseBool : Setting → Option Bool
  | .bool b => some b
  | .integer n => some (n ≠ 0)
  | .float x => some (x != 0)
  | .text s =>
    let lowered := Text.lowercase s
    if affirmations.contains lowered then some true
    else if negations.contains lowered then some false
    else none
  | _ => none

/-- A word in decimal digits; a plus sign may stand in front. -/
def decimalWord? (s : String) : Option UInt64 :=
  let cs := match s.toList with
    | '+' :: cs => cs
    | cs => cs
  if cs.isEmpty || !cs.all Char.isDigit then none
  else
    let n := Decimal.value cs
    if n < UInt64.size then some (UInt64.ofNat n) else none

/-- A word: a number that is not negative, or a word for one or zero. A fraction is rounded, a half away
from zero, and kept within range. -/
def looseWord : Setting → Option UInt64
  | .bool b => some (if b then 1 else 0)
  | .integer n => if 0 ≤ n then some (UInt64.ofNat n.toNat) else none
  | .float x => some x.round.toUInt64
  | .text s =>
    let lowered := Text.lowercase s
    if affirmations.tail.contains lowered then some 1
    else if negations.tail.contains lowered then some 0
    else decimalWord? s
  | _ => none

/-- The text of any scalar. -/
def looseText : Setting → Option String
  | .bool b => some (if b then "true" else "false")
  | .integer n => some (Decimal.intText n)
  | .float x => some (Decimal.plainText x)
  | .text s => some s
  | _ => none

/-- A name stands by itself or over anything. -/
def looseName : Setting → Option String
  | .text s => some s
  | .group [(s, _)] => some s
  | _ => none

/-- The fields of a record: members of a group by name, or the elements of a list in turn. -/
def looseFields (names : List String) : Setting → Option (List (Option Setting))
  | .group members => some (names.map fun name => (members.find? fun m => m.1 == name).map Prod.snd)
  | .list items => some (names.mapIdx fun i _ => items[i]?)
  | _ => none

def ConfigReader.loose : ConfigReader Setting where
  bool := looseBool
  word := looseWord
  text := looseText
  name := looseName
  list
    | .list items => some items
    | _ => none
  fields := looseFields

end ClusterReads
