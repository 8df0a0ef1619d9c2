import ClusterReads.Text.Scan

/-!
# Settings

The settings of several sources are put together in one tree. A source says what stands at a path: groups
are merged member by member, and everything else takes the place of what stood there.
-/
namespace ClusterReads

inductive Setting where
  /-- An element of a list that no source has given. -/
  | missing
  | bool (b : Bool)
  | integer (n : Int)
  | float (x : Float)
  | text (s : String)
  | list (items : List Setting)
  | group (members : List (String × Setting))
  deriving Repr, Inhabited

/-- A step down the tree: to a member of a group, or to an element of a list, counted from the end if
negative. -/
inductive PathStep where
  | member (name : String)
  | element (index : Int)
  deriving DecidableEq, Repr

namespace Setting

def members : Setting → List (String × Setting)
  | .group members => members
  | _ => []

def items : Setting → List Setting
  | .list items => items
  | _ => []

/-- Changes the member of a name, or adds it at the end. -/
def alterMember (name : String) (f : Setting → Setting) :
    List (String × Setting) → List (String × Setting)
  | [] => [(name, f .missing)]
  | (key, s) :: rest =>
    if key = name then (key, f s) :: rest else (key, s) :: alterMember name f rest

/-- Changes the element at a position, with missing elements in front of it where there are too few. -/
def alterElement (f : Setting → Setting) (n : Nat) (items : List Setting) : List Setting :=
  if n < items.length then items.modify n f
  else items ++ List.replicate (n - items.length) .missing ++ [f .missing]

/-- Changes the element of an index; one that reaches back beyond the first element puts missing elements
in front. -/
def alterIndex (f : Setting → Setting) (index : Int) (items : List Setting) : List Setting :=
  if 0 ≤ index then alterElement f index.toNat items
  else
    let back := index.natAbs
    if back ≤ items.length then alterElement f (items.length - back) items
    else alterElement f 0 (List.replicate (back - items.length) .missing ++ items)

/-- Changes what stands at a path; what is in the way gives place. -/
def alter (f : Setting → Setting) : List PathStep → Setting → Setting
  | [], s => f s
  | .member name :: path, s => .group (alterMember name (alter f path) s.members)
  | .element index :: path, s => .list (alterIndex (alter f path) index s.items)

mutual

/-- Puts a setting in the place of another one, or a group onto another one. -/
def onto : Setting → Setting → Setting
  | .group members, below => .group (membersOnto members below.members)
  | s, _ => s

def membersOnto : List (String × Setting) → List (String × Setting) → List (String × Setting)
  | [], below => below
  | (name, s) :: rest, below => membersOnto rest (alterMember name (fun t => onto s t) below)

end

end Setting

/-! ## Paths -/

namespace PathStep

open Text Text.Scan

def isNameChar (c : Char) : Bool :=
  c.isAlphanum || c = '_' || c = '-'

def name : Scan PathStep := do
  let cs ← takeWhile isNameChar
  if cs.isEmpty then failure else return .member (String.ofList cs)

def isBlank (c : Char) : Bool :=
  c = ' ' || c = '\t'

/-- The indices that there are. -/
def isIndex (n : Int) : Bool :=
  -9223372036854775808 ≤ n && n < 9223372036854775808

/-- An index with its sign. -/
def signedIndex : Scan Int := do
  match ← peek with
  | some '-' =>
    let _ ← any
    return -(← number)
  | _ => return ← number

/-- An index after its opening bracket; blanks may stand around it. -/
def index : Scan PathStep := do
  skipWhile isBlank
  let n ← signedIndex
  skipWhile isBlank
  char ']'
  if isIndex n then return .element n else failure

def next : Scan (Option PathStep) := do
  match ← peek with
  | some '.' =>
    let _ ← any
    some <$> name
  | some '[' =>
    let _ ← any
    some <$> index
  | _ => return none

/-- The path that a text says, such as `a.b[0]`; any other text is the name of a member. -/
def path (s : String) : List PathStep :=
  match whole? (do return (← name) :: (← repeated next)) s with
  | some path => path
  | none => [.member s]

example : path "a.b[-1]" = [.member "a", .member "b", .element (-1)] := by cbv
example : path "a..b" = [.member "a..b"] := by cbv

end PathStep

/-- What a source says: settings at paths, in turn. -/
abbrev Source :=
  List (String × Setting)

/-- The tree of sources, later ones over earlier ones. -/
def Source.tree (sources : List Source) : Setting :=
  sources.flatten.foldl (fun tree (key, s) => tree.alter s.onto (PathStep.path key)) (.group [])

end ClusterReads
