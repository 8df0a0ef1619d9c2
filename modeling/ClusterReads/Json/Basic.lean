import ClusterReads.Decimal.Literal

/-!
# JSON values

The syntax tree of a JSON text. Numbers stay literals, members stay in writing order with their
duplicates, a string whose escapes leave half of a surrogate pair is kept as no text at all, and what is
nested too deeply as no more than that: which of these a reader accepts is for the reader to say.
-/
namespace ClusterReads

inductive Json where
  | null
  | bool (b : Bool)
  | number (l : Decimal.Literal)
  /-- `none` if the string holds half of a surrogate pair. -/
  | string (s : Option String)
  | array (items : List Json)
  | object (members : List (Option String × Json))
  /-- An array or an object that is nested too deeply to be kept. -/
  | deep
  deriving Repr, Inhabited

namespace Json

def text (s : String) : Json :=
  .string (some s)

/-- An object whose names are all texts. -/
def record (names : List String) (values : List Json) : Json :=
  .object (List.zip (names.map some) values)

def ofNat (n : Nat) : Json :=
  .number (.ofNat n)

/-- The deepest nesting of a value that is kept as a tree. -/
def maxDepth : Nat :=
  127

mutual

/-- The value with `deep` in the place of arrays and objects below so many levels of them. -/
def prune : Nat → Json → Json
  | 0, .array _ => .deep
  | 0, .object _ => .deep
  | room + 1, .array items => .array (pruneItems room items)
  | room + 1, .object members => .object (pruneMembers room members)
  | _, j => j

def pruneItems (room : Nat) : List Json → List Json
  | [] => []
  | j :: rest => j.prune room :: pruneItems room rest

def pruneMembers (room : Nat) : List (Option String × Json) → List (Option String × Json)
  | [] => []
  | (name, j) :: rest => (name, j.prune room) :: pruneMembers room rest

end

mutual

/-- Every string is a text, every number within the range of doubles, and nothing nested too deeply. -/
def isRepresentable : Json → Bool
  | .deep => false
  | .number l => l.scaled?.isSome
  | .string s => s.isSome
  | .array items => itemsRepresentable items
  | .object members => membersRepresentable members
  | _ => true

def itemsRepresentable : List Json → Bool
  | [] => true
  | j :: rest => j.isRepresentable && itemsRepresentable rest

def membersRepresentable : List (Option String × Json) → Bool
  | [] => true
  | (name, j) :: rest => name.isSome && j.isRepresentable && membersRepresentable rest

end

end Json

end ClusterReads
