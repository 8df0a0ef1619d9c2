import ClusterReads.Text.Pieces

/-!
# Files

The files below the working directory, and how a path leads to one of them. Of what lies outside only the
directories are known that hold the working directory, and those that every system has.
-/
namespace ClusterReads

/-- The files of the working directory by their paths. -/
abbrev FileTree :=
  List (String × String)

/-- Where a path leads. -/
inductive Location where
  /-- By the names from the working directory on. -/
  | inside (names : List String)
  /-- One of the directories that hold the working directory. -/
  | above
  /-- By the names from the root on. -/
  | absolute (names : List String)
  deriving DecidableEq, Repr

namespace Location

/-- The directory that a directory lies in; the root lies in itself. -/
def parent : Location → Location
  | .inside [] => .above
  | .inside names => .inside names.dropLast
  | .above => .above
  | .absolute names => .absolute names.dropLast

/-- What a name stands for in a directory, where that can be known. -/
def child? (name : String) : Location → Option Location
  | .inside names => some (.inside (names ++ [name]))
  | .above => none
  | .absolute names => some (.absolute (names ++ [name]))

end Location

/-- What stands at a place. -/
inductive Place where
  | file (content : String)
  | directory
  | device
  deriving DecidableEq, Repr

namespace FileTree

/-- The steps of a path; a step without a name stays where it is. -/
def steps (path : String) : List String :=
  (Text.pieces '/' path.toList).map String.ofList

/-- A step that stays where it is. -/
def isIdle (step : String) : Bool :=
  step = "" || step = "."

/-- The names on the way to a file. -/
def names (path : String) : List String :=
  (steps path).filter fun step => !isIdle step

/-- The directories below the root. -/
def systemDirectories : List String :=
  ["bin", "boot", "dev", "etc", "home", "lib", "media", "mnt", "opt", "proc", "root", "run", "sbin", "srv",
    "sys", "tmp", "usr", "var"]

/-- What stands at a location, if anything does. -/
def place? (tree : FileTree) : Location → Option Place
  | .inside here =>
    match tree.find? fun e => names e.1 = here with
    | some (_, content) => some (.file content)
    | none =>
      if here = [] || tree.any fun e => here.isPrefixOf (names e.1) then some .directory else none
  | .above => some .directory
  | .absolute [] => some .directory
  | .absolute [name] => if systemDirectories.contains name then some .directory else none
  | .absolute here => if here = ["dev", "null"] then some .device else none

/-- Follows steps from a location; only a directory can be left for somewhere else. -/
def follow (tree : FileTree) : Location → List String → Option Location
  | here, [] => some here
  | here, step :: rest =>
    if tree.place? here ≠ some .directory then none
    else if isIdle step then follow tree here rest
    else if step = ".." then follow tree here.parent rest
    else
      match here.child? step with
      | some there => follow tree there rest
      | none => none

/-- What a path leads to, if that exists. -/
def at? (tree : FileTree) (path : String) : Option Place := do
  guard (path ≠ "")
  let start := if path.toList.head? = some '/' then Location.absolute [] else .inside []
  tree.place? (← tree.follow start (steps path))

/-- The path that is tried beside a path: its last name with an ending. -/
def besidePath (path : String) : String :=
  (if path.toList.getLast? = some '/' then path ++ ".placeholder" else path) ++ ".toml"

/-- The content of the file that a path leads to, or else of the file beside it. -/
def content? (tree : FileTree) (path : String) : Option String :=
  match tree.at? path with
  | some (.file content) => some content
  | _ =>
    match tree.at? (besidePath path) with
    | some (.file content) => some content
    | _ => none

end FileTree

end ClusterReads
