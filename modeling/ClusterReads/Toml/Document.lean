import ClusterReads.Toml.Parser

/-!
# TOML documents

The statements of a document, obeyed in turn, give its table.
-/
namespace ClusterReads
namespace Toml

/-- The header that entries belong to, and the entries of the document so far. -/
structure Draft where
  header : List String
  entries : Entries

/-- Obeys a statement. -/
def Draft.step? (d : Draft) : Statement → Option Draft
  | .table path name => (d.entries.declare? path name).map (⟨path ++ [name], ·⟩)
  | .element path name => (d.entries.extend? path name).map (⟨path ++ [name], ·⟩)
  | .entry path name v => (d.entries.assign? d.header path name v).map (⟨d.header, ·⟩)

/-- The table of a document. -/
def parse? (s : String) : Option Toml := do
  let draft ← (← statements? s).foldlM Draft.step? (⟨[], []⟩ : Draft)
  return .table (tomlOfEntries draft.entries)

end Toml
end ClusterReads
