import ClusterReads.Toml.Quoted
import ClusterReads.Toml.Scalar
import ClusterReads.Toml.Table

/-!
# Reading TOML

A document is a list of statements, each on lines of its own: headers, which name the table that follows,
and entries. The values of entries nest at most eighty deep, and a key has at most eighty names.
-/
namespace ClusterReads
namespace Toml

open Text Text.Scan

/-! ## Space -/

def blanks : Scan Unit :=
  skipWhile isBlank

/-- Skips blanks, line ends and comments. A comment holds no control characters. -/
def skipSpace : Bool → List Char → Option (List Char)
  | _, [] => some []
  | _, '\n' :: rest => skipSpace false rest
  | _, '\r' :: '\n' :: rest => skipSpace false rest
  | true, c :: rest => if isControl c then none else skipSpace true rest
  | false, '#' :: rest => skipSpace true rest
  | false, c :: rest => if isBlank c then skipSpace false rest else some (c :: rest)

/-- Blanks, line ends and comments. -/
def space : Scan Unit := fun cs =>
  (skipSpace false cs).map (() , ·)

/-- The rest of a line holds no more than a comment, which is left in place. -/
def lineEnd : Scan Unit := fun cs =>
  match cs.dropWhile isBlank with
  | [] => some ((), [])
  | '\n' :: rest => some ((), rest)
  | '\r' :: '\n' :: rest => some ((), rest)
  | '#' :: rest => some ((), '#' :: rest)
  | _ => none

/-! ## Keys -/

def isKeyChar (c : Char) : Bool :=
  c.isAlphanum || c = '_' || c = '-'

/-- A name, bare or quoted. -/
def keyPart : Scan String := do
  match ← peek with
  | some '"' | some '\'' => return String.ofList (← lineString)
  | _ =>
    let cs ← takeWhile isKeyChar
    if cs.isEmpty then failure else return String.ofList cs

/-- One more name of a dotted key. -/
def moreKey : Scan (Option String) := do
  blanks
  match ← peek with
  | some '.' =>
    let _ ← any
    blanks
    some <$> keyPart
  | _ => return none

/-- How deep values nest, and how many names a key has, at most. -/
def maxDepth : Nat :=
  80

/-- A dotted key: the names before the last one, and the last one. -/
def key : Scan (List String × String) := do
  let first ← keyPart
  let names ← repeated moreKey
  if maxDepth ≤ names.length then failure
  else
    return match names.getLast? with
      | none => ([], first)
      | some last => (first :: names.dropLast, last)

/-! ## Values -/

/-- The characters that end a scalar. -/
def endsScalar (c : Char) : Bool :=
  isBlank c || c = '\n' || c = '\r' || c = ',' || c = ']' || c = '\x7d' || c = '#' || c = '='

/-- A blank that stands between a date and a time. -/
def partsDate (written : List Char) : List Char → Bool
  | ' ' :: c :: _ => written.length = 10 && c.isDigit && (moment? written).isSome
  | _ => false

/-- A value without quotes and brackets. A time may follow its date after a blank. -/
def scalarValue : Scan Toml := do
  let written ← takeWhile fun c => !endsScalar c
  let more ← (fun cs =>
    if partsDate written cs then takeWhile (fun c => !endsScalar c) (cs.drop 1) else some ([], cs) :
    Scan (List Char))
  match scalar (if more.isEmpty then written else written ++ ' ' :: more) with
  | some v => return v
  | none => failure

/-- What parts the members of a bracketed list: a comma, unless the closing bracket follows. -/
def separator (closing : Char) : Scan Unit := do
  match ← peek with
  | some ',' => let _ ← any
  | some c => if c = closing then return () else failure
  | none => failure

/-- One element of an array, or its end. -/
def arrayElement (value : Scan Toml) : Scan (Option Toml) := do
  space
  match ← peek with
  | some ']' =>
    let _ ← any
    return none
  | _ =>
    let v ← value
    space
    separator ']'
    return some v

/-- An entry: a key, the equals sign and a value, with space of a kind around the sign. -/
def entry (gap : Scan Unit) (value : Scan Toml) : Scan ((List String × String) × Toml) := do
  let k ← key
  gap
  char '='
  gap
  return (k, ← value)

/-- One entry of an inline table after its opening brace or the comma before it, or its end. -/
def inlineEntry (value : Scan Toml) : Scan (Option ((List String × String) × Toml)) := do
  space
  match ← peek with
  | some '\x7d' =>
    let _ ← any
    return none
  | _ =>
    let e ← entry space value
    space
    separator '\x7d'
    return some e

/-- A value that nests at most so deep. -/
def value : Nat → Scan Toml
  | 0 => do
    match ← peek with
    | some '"' | some '\'' => return .text (String.ofList (← anyString))
    | _ => scalarValue
  | depth + 1 => do
    match ← peek with
    | some '"' | some '\'' => return .text (String.ofList (← anyString))
    | some '[' =>
      let _ ← any
      return .array (← repeated (arrayElement (value depth)))
    | some '\x7b' =>
      let _ ← any
      match inlineTable? (← repeated (inlineEntry (value depth))) with
      | some v => return v
      | none => failure
    | _ => scalarValue

/-! ## Statements -/

inductive Statement where
  /-- The header of a table. -/
  | table (path : List String) (name : String)
  /-- The header of one more element of an array of tables. -/
  | element (path : List String) (name : String)
  | entry (path : List String) (name : String) (v : Toml)

/-- A header after its first bracket. -/
def header : Scan Statement := do
  match ← peek with
  | some '[' =>
    let _ ← any
    blanks
    let (path, name) ← key
    char ']'
    char ']'
    return .element path name
  | _ =>
    blanks
    let (path, name) ← key
    char ']'
    return .table path name

/-- The next statement with the end of its line, or the end of the document. -/
def statement : Scan (Option Statement) := do
  space
  match ← peek with
  | none => return none
  | some '[' =>
    let _ ← any
    let s ← header
    lineEnd
    return some s
  | some _ =>
    let ((path, name), v) ← entry blanks (value maxDepth)
    lineEnd
    return some (.entry path name v)

/-- The statements of a document; a byte order mark in front is passed over. -/
def statements? (s : String) : Option (List Statement) :=
  let cs := match s.toList with
    | '\uFEFF' :: cs => cs
    | cs => cs
  match repeated statement cs with
  | some (found, []) => some found
  | _ => none

end Toml
end ClusterReads
