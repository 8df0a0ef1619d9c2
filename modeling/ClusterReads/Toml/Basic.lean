/-!
# TOML values

The values of a TOML document, with the entries of a table in writing order.
-/
namespace ClusterReads

inductive Toml where
  | text (s : String)
  | integer (n : Int)
  | float (x : Float)
  /-- A number beyond 128 bits or beyond the doubles. -/
  | huge
  | bool (b : Bool)
  /-- A date, a time or both, in its standard form. -/
  | moment (s : String)
  | array (items : List Toml)
  | table (entries : List (String × Toml))
  deriving Repr, Inhabited

namespace Toml

/-- The value of a name among entries. -/
def find? (entries : List (String × Toml)) (name : String) : Option Toml :=
  (entries.find? fun e => e.1 == name).map Prod.snd

mutual

/-- No number in the value is out of range. -/
def isSound : Toml → Bool
  | .huge => false
  | .array items => itemsSound items
  | .table entries => entriesSound entries
  | _ => true

def itemsSound : List Toml → Bool
  | [] => true
  | v :: rest => v.isSound && itemsSound rest

def entriesSound : List (String × Toml) → Bool
  | [] => true
  | (_, v) :: rest => v.isSound && entriesSound rest

end

end Toml

end ClusterReads
