import ClusterReads.Config.Setting
import ClusterReads.Decimal.Loose
import ClusterReads.Keyed
import ClusterReads.Text.Lowercase
import ClusterReads.Toml.Document

/-!
# Sources of settings

A TOML text says its entries. The environment says one setting for every variable with the right mark in
front of its name, and the type of its value is told by its looks.
-/
namespace ClusterReads

/-- The integers that a file may hold. -/
def isFileInteger (n : Int) : Bool :=
  -9223372036854775808 ≤ n && n < 9223372036854775808

/-- The name under which a table says a date. -/
def dateName : String :=
  "$__toml_private_datetime"

/-- What a table says as a date: it does so if the first of its names in order is the name for dates. -/
def date? (entries : List (String × Toml)) : Option Toml :=
  if entries.all fun e => dateName ≤ e.1 then Toml.find? entries dateName else none

/-- A date that is written as a text. -/
def dateSetting? : Toml → Option Setting
  | .text s => (Toml.moment? s.toList).map .text
  | _ => none

mutual

/-- A TOML value as a setting; a date is its text. Numbers out of range are none. -/
def Setting.ofToml? : Toml → Option Setting
  | .text s => some (.text s)
  | .integer n => if isFileInteger n then some (.integer n) else none
  | .float x => some (.float x)
  | .huge => none
  | .bool b => some (.bool b)
  | .moment s => some (.text s)
  | .array items => (settingsOfItems? items).map .list
  | .table entries =>
    match date? entries with
    | some v => dateSetting? v
    | none => (settingsOfEntries? entries).map .group

def settingsOfItems? : List Toml → Option (List Setting)
  | [] => some []
  | v :: rest => do return (← Setting.ofToml? v) :: (← settingsOfItems? rest)

def settingsOfEntries? : List (String × Toml) → Option (List (String × Setting))
  | [] => some []
  | (name, v) :: rest => do return (name, ← Setting.ofToml? v) :: (← settingsOfEntries? rest)

end

/-- What a TOML text says; nothing if it is not well formed, or holds too large a number. -/
def Source.ofText? (s : String) : Option Source := do
  match ← Setting.ofToml? (← Toml.parse? s) with
  | .group members => some members
  | _ => none

/-- A signed integer of 64 bits; a plus sign may stand in front. -/
def signedInteger? (s : String) : Option Int :=
  let (negative, cs) := Decimal.splitSign s.toList
  if cs.isEmpty || !cs.all Char.isDigit then none
  else
    let n : Int := Decimal.value cs
    let n := if negative then -n else n
    if isFileInteger n then some n else none

/-- A value of the environment: a truth value, an integer or a number if it reads as one, else a text. -/
def Setting.ofVariable (s : String) : Setting :=
  let lowered := Text.lowercase s
  if lowered = "true" then .bool true
  else if lowered = "false" then .bool false
  else
    match signedInteger? s with
    | some n => .integer n
    | none =>
      match Decimal.loose? s.toList with
      | some x => .float x
      | none => .text s

/-- What the names of variables start with, in any case. -/
def variableMark : List Char :=
  "scheduler_".toList

/-- Puts a point for every two underscores. -/
def pointPairs : List Char → List Char
  | '_' :: '_' :: cs => '.' :: pointPairs cs
  | c :: cs => c :: pointPairs cs
  | [] => []

/-- The path that a variable sets: its name in lower case after the mark, with points. -/
def variablePath? (name : String) : Option String :=
  let lowered := (Text.lowercase name).toList
  if variableMark.isPrefixOf lowered then
    some (String.ofList (pointPairs (lowered.drop variableMark.length)))
  else none

/-- What the environment says, in the order of the names. -/
def Source.ofEnvironment (environment : SortedMap String String) : Source :=
  environment.toList.filterMap fun (name, v) =>
    (variablePath? name).map fun path => (path, Setting.ofVariable v)

end ClusterReads
