import ClusterReads.Toml.Basic

/-!
# TOML tables under construction

A table comes about by a header, by a dotted key, or as the parent that a header passes through, and which
of them it was decides what may still be added. Values are closed: nothing is added to an array or an
inline table. An array of tables is open at its last element.
-/
namespace ClusterReads
namespace Toml

/-- How a table came about. -/
inductive Origin where
  /-- By a header of its own, or as the document. -/
  | declared
  /-- As a parent of another header's table. -/
  | implied
  /-- By a dotted key. -/
  | dotted
  deriving DecidableEq, Repr

inductive Node where
  | value (v : Toml)
  | table (origin : Origin) (entries : List (String × Node))
  /-- An array of tables: those before the last one, and the last one. -/
  | tables (earlier : List (List (String × Node))) (last : List (String × Node))

abbrev Entries :=
  List (String × Node)

namespace Entries

/-- Changes what stands under a name, or adds it at the end. -/
def alter? (name : String) (f : Option Node → Option Node) : Entries → Option Entries
  | [] => (f none).map fun n => [(name, n)]
  | (key, n) :: rest =>
    if key = name then (f (some n)).map fun n => (key, n) :: rest
    else (alter? name f rest).map ((key, n) :: ·)

/-- Changes the table at the end of a path. Missing tables are made. A dotted path does not pass through a
table with a header of its own. -/
def within? (dotted : Bool) (change : Origin → Entries → Option Entries) :
    List String → Origin → Entries → Option Entries
  | [], origin, entries => change origin entries
  | name :: path, _, entries =>
    entries.alter? name fun
      | none =>
        let origin := if dotted then Origin.dotted else Origin.implied
        (within? dotted change path origin []).map (.table origin)
      | some (.table origin inner) =>
        if dotted && origin = .declared then none
        else (within? dotted change path origin inner).map (.table origin)
      | some (.tables earlier last) => (within? dotted change path .declared last).map (.tables earlier)
      | some (.value _) => none

/-- Adds a value under a new name, in a table made by dotted keys exactly if there are any. -/
def addValue? (path : List String) (name : String) (v : Toml) : Origin → Entries → Option Entries :=
  within? true
    (fun origin entries =>
      if (origin = .dotted) = (path ≠ []) then
        entries.alter? name fun
          | none => some (.value v)
          | some _ => none
      else none)
    path

/-- Adds a value below the table of a header. -/
def assign? (header path : List String) (name : String) (v : Toml) (entries : Entries) : Option Entries :=
  within? false (addValue? path name v) header .declared entries

/-- Declares the table of a header; it has not had one before. -/
def declare? (path : List String) (name : String) (entries : Entries) : Option Entries :=
  within? false
    (fun _ entries => entries.alter? name fun
      | none => some (.table .declared [])
      | some (.table .implied inner) => some (.table .declared inner)
      | some _ => none)
    path .declared entries

/-- Adds an element to an array of tables, or starts one. -/
def extend? (path : List String) (name : String) (entries : Entries) : Option Entries :=
  within? false
    (fun _ entries => entries.alter? name fun
      | none => some (.tables [] [])
      | some (.tables earlier last) => some (.tables (earlier ++ [last]) [])
      | some _ => none)
    path .declared entries

end Entries

mutual

/-- The value of a finished node. -/
def Node.toToml : Node → Toml
  | .value v => v
  | .table _ entries => .table (tomlOfEntries entries)
  | .tables earlier last => .array (tomlOfTables earlier ++ [.table (tomlOfEntries last)])

def tomlOfEntries : List (String × Node) → List (String × Toml)
  | [] => []
  | (name, n) :: rest => (name, n.toToml) :: tomlOfEntries rest

def tomlOfTables : List (List (String × Node)) → List Toml
  | [] => []
  | entries :: rest => .table (tomlOfEntries entries) :: tomlOfTables rest

end

/-- The table of entries under dotted keys. -/
def inlineTable? (entries : List ((List String × String) × Toml)) : Option Toml :=
  (entries.foldlM
    (fun (acc : Entries) (e : (List String × String) × Toml) => acc.assign? [] e.1.1 e.1.2 e.2) []).map
    fun acc => .table (tomlOfEntries acc)

end Toml
end ClusterReads
