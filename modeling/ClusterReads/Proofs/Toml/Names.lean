import ClusterReads.Proofs.Text.Scan
import ClusterReads.Toml.Document
import Mathlib.Data.List.Nodup

/-!
# The names of a table

No table of a document has a name twice, at any depth. Every way to change a table under construction
keeps this, so that what a document comes to has it too.
-/
namespace ClusterReads
namespace Toml

open Text Text.Scan

/-- The names in a table are distinct, and so they are in every table below it. -/
inductive Named : Toml → Prop
  | text {s : String} : Named (.text s)
  | integer {n : Int} : Named (.integer n)
  | float {x : Float} : Named (.float x)
  | huge : Named .huge
  | bool {b : Bool} : Named (.bool b)
  | moment {s : String} : Named (.moment s)
  | array {items : List Toml} (hitems : ∀ v ∈ items, Named v) : Named (.array items)
  | table {entries : List (String × Toml)} (hnames : (entries.map Prod.fst).Nodup)
      (hentries : ∀ e ∈ entries, Named e.2) : Named (.table entries)

/-- The same for what is under construction. -/
inductive Node.Named : Node → Prop
  | value {v : Toml} (hv : v.Named) : Node.Named (.value v)
  | table {origin : Origin} {entries : Entries} (hnames : (entries.map Prod.fst).Nodup)
      (hentries : ∀ e ∈ entries, Node.Named e.2) : Node.Named (.table origin entries)
  | tables {earlier : List Entries} {last : Entries}
      (hnames : ∀ entries ∈ earlier ++ [last], (entries.map Prod.fst).Nodup)
      (hentries : ∀ entries ∈ earlier ++ [last], ∀ e ∈ entries, Node.Named e.2) :
      Node.Named (.tables earlier last)

/-- Entries of distinct names, and so at every depth. -/
structure Entries.Named (entries : Entries) : Prop where
  names : (entries.map Prod.fst).Nodup
  nodes : ∀ e ∈ entries, e.2.Named

namespace Entries

theorem named_nil : Named [] :=
  ⟨.nil, by simp⟩

theorem named_table_iff {origin : Origin} {entries : Entries} :
    (Node.table origin entries).Named ↔ Named entries := by
  constructor
  · intro h
    cases h with
    | table hnames hnodes => exact ⟨hnames, hnodes⟩
  · intro h
    exact .table h.names h.nodes

theorem named_tables_iff {earlier : List Entries} {last : Entries} :
    (Node.tables earlier last).Named ↔ ∀ entries ∈ earlier ++ [last], Named entries := by
  constructor
  · intro h
    cases h with
    | tables hnames hnodes => exact fun entries hmem => ⟨hnames entries hmem, hnodes entries hmem⟩
  · intro h
    exact .tables (fun entries hmem => (h entries hmem).names) fun entries hmem => (h entries hmem).nodes

/-! ## Changes -/

/-- A change keeps the names, but for a new one at the end. -/
theorem names_alter? {name : String} {f : Option Node → Option Node} {entries changed : Entries}
    (h : entries.alter? name f = some changed) :
    changed.map Prod.fst =
      if name ∈ entries.map Prod.fst then entries.map Prod.fst else entries.map Prod.fst ++ [name] := by
  induction entries generalizing changed with
  | nil =>
    obtain ⟨n, -, rfl⟩ := Option.map_eq_some_iff.1 h
    rfl
  | cons e rest ih =>
    obtain ⟨key, n⟩ := e
    rw [alter?] at h
    split at h
    · next heq =>
      obtain ⟨m, -, rfl⟩ := Option.map_eq_some_iff.1 h
      simp [heq]
    · next hne =>
      obtain ⟨more, hmore, rfl⟩ := Option.map_eq_some_iff.1 h
      have hne' : name ≠ key := fun heq => hne heq.symm
      simp only [List.map_cons, ih hmore, List.mem_cons, hne', false_or]
      split <;> simp

theorem Named.alter? {name : String} {f : Option Node → Option Node} {entries changed : Entries}
    (hentries : Named entries) (hnew : ∀ n, f none = some n → n.Named)
    (hold : ∀ m n, m.Named → f (some m) = some n → n.Named)
    (h : entries.alter? name f = some changed) : Named changed := by
  refine ⟨?_, ?_⟩
  · rw [names_alter? h]
    split
    · exact hentries.names
    · next hname =>
      rw [← List.concat_eq_append]
      exact hentries.names.concat hname
  · obtain ⟨-, hnodes⟩ := hentries
    induction entries generalizing changed with
    | nil =>
      obtain ⟨n, hn, rfl⟩ := Option.map_eq_some_iff.1 h
      simpa using hnew n hn
    | cons e rest ih =>
      obtain ⟨key, m⟩ := e
      rw [List.forall_mem_cons] at hnodes
      rw [Entries.alter?] at h
      split at h
      · obtain ⟨n, hn, rfl⟩ := Option.map_eq_some_iff.1 h
        exact List.forall_mem_cons.2 ⟨hold m n hnodes.1 hn, hnodes.2⟩
      · obtain ⟨more, hmore, rfl⟩ := Option.map_eq_some_iff.1 h
        exact List.forall_mem_cons.2 ⟨hnodes.1, ih hmore hnodes.2⟩

/-- A change that keeps names distinct in one table does so in the table around it. -/
theorem Named.within? {dotted : Bool} {change : Origin → Entries → Option Entries}
    (hchange : ∀ origin entries changed, Named entries → change origin entries = some changed →
      Named changed)
    {path : List String} {origin : Origin} {entries changed : Entries} (hentries : Named entries)
    (h : Entries.within? dotted change path origin entries = some changed) : Named changed := by
  induction path generalizing origin entries changed with
  | nil => exact hchange origin entries changed hentries h
  | cons name path ih =>
    rw [Entries.within?] at h
    refine hentries.alter? ?_ ?_ h
    · intro n hn
      obtain ⟨inner, hinner, rfl⟩ := Option.map_eq_some_iff.1 hn
      exact named_table_iff.2 (ih named_nil hinner)
    · intro m n hm hn
      cases m with
      | value v => cases hn
      | table origin inner =>
        dsimp only at hn
        split at hn
        · cases hn
        · obtain ⟨changed, hchanged, rfl⟩ := Option.map_eq_some_iff.1 hn
          exact named_table_iff.2 (ih (named_table_iff.1 hm) hchanged)
      | tables earlier last =>
        obtain ⟨changed, hchanged, rfl⟩ := Option.map_eq_some_iff.1 hn
        rw [named_tables_iff, List.forall_mem_append, List.forall_mem_singleton] at hm ⊢
        exact ⟨hm.1, ih hm.2 hchanged⟩

theorem Named.assign? {header path : List String} {name : String} {v : Toml}
    {entries changed : Entries} (hentries : Named entries) (hv : v.Named)
    (h : entries.assign? header path name v = some changed) : Named changed := by
  refine hentries.within? (fun _ _ _ hinner hadd => ?_) h
  refine hinner.within? (fun origin entries changed hentries hset => ?_) hadd
  split at hset
  · refine hentries.alter? ?_ ?_ hset
    · intro n hn
      cases hn
      exact .value hv
    · intro m n _ hn
      cases hn
  · cases hset

theorem Named.declare? {path : List String} {name : String} {entries changed : Entries}
    (hentries : Named entries) (h : entries.declare? path name = some changed) : Named changed := by
  refine hentries.within? (fun _ entries changed hentries hset => ?_) h
  refine hentries.alter? ?_ ?_ hset
  · intro n hn
    cases hn
    exact named_table_iff.2 named_nil
  · rintro (v | ⟨origin, inner⟩ | ⟨earlier, last⟩) n hm hn
    · cases hn
    · cases origin <;> cases hn
      exact named_table_iff.2 (named_table_iff.1 hm)
    · cases hn

theorem Named.extend? {path : List String} {name : String} {entries changed : Entries}
    (hentries : Named entries) (h : entries.extend? path name = some changed) : Named changed := by
  refine hentries.within? (fun _ entries changed hentries hset => ?_) h
  refine hentries.alter? ?_ ?_ hset
  · intro n hn
    cases hn
    exact named_tables_iff.2 (List.forall_mem_singleton.2 named_nil)
  · rintro (v | ⟨origin, inner⟩ | ⟨earlier, last⟩) n hm hn
    · cases hn
    · cases hn
    · cases hn
      rw [named_tables_iff] at hm ⊢
      exact List.forall_mem_append.2 ⟨hm, List.forall_mem_singleton.2 named_nil⟩

end Entries

/-! ## Finished tables -/

theorem tomlOfEntries_eq_map (entries : Entries) :
    tomlOfEntries entries = entries.map fun e => (e.1, e.2.toToml) := by
  induction entries with
  | nil => rfl
  | cons e rest ih => rw [tomlOfEntries, ih, List.map_cons]

theorem tomlOfTables_eq_map (earlier : List Entries) :
    tomlOfTables earlier = earlier.map fun entries => .table (tomlOfEntries entries) := by
  induction earlier with
  | nil => rfl
  | cons entries rest ih => rw [tomlOfTables, ih, List.map_cons]

/-- A finished table has the names that it had under construction. -/
theorem named_tomlOfEntries {entries : Entries} (hnames : (entries.map Prod.fst).Nodup)
    (hentries : ∀ e ∈ entries, e.2.toToml.Named) : (Toml.table (tomlOfEntries entries)).Named := by
  rw [tomlOfEntries_eq_map]
  refine .table (by simpa [Function.comp_def] using hnames) fun e he => ?_
  obtain ⟨e, hmem, rfl⟩ := List.mem_map.1 he
  exact hentries e hmem

theorem Node.Named.toToml {n : Node} (h : n.Named) : n.toToml.Named := by
  induction h with
  | value hv => exact hv
  | table hnames _ ih => exact named_tomlOfEntries hnames ih
  | @tables earlier last hnames _ ih =>
    have hitems : Node.toToml (.tables earlier last) =
        .array ((earlier ++ [last]).map fun entries => .table (tomlOfEntries entries)) := by
      simp [Node.toToml, tomlOfTables_eq_map]
    rw [hitems]
    refine .array fun v hv => ?_
    obtain ⟨entries, hmem, rfl⟩ := List.mem_map.1 hv
    exact named_tomlOfEntries (hnames entries hmem) (ih entries hmem)

theorem Entries.Named.toToml {entries : Entries} (h : entries.Named) :
    (Toml.table (tomlOfEntries entries)).Named :=
  named_tomlOfEntries h.names fun e he => (h.nodes e he).toToml

/-- What every step of a fold keeps, the fold keeps. -/
theorem foldlM_keeps {α β : Type} {P : β → Prop} {step : β → α → Option β} {l : List α}
    (hstep : ∀ a ∈ l, ∀ b next, P b → step b a = some next → P next) {b last : β} (hb : P b)
    (h : l.foldlM step b = some last) : P last := by
  induction l generalizing b with
  | nil =>
    cases h
    exact hb
  | cons a l ih =>
    rw [List.forall_mem_cons] at hstep
    obtain ⟨next, hnext, hrest⟩ := Option.bind_eq_some_iff.1 h
    exact ih hstep.2 (hstep.1 b next hb hnext) hrest

theorem named_inlineTable? {entries : List ((List String × String) × Toml)} {v : Toml}
    (hentries : ∀ e ∈ entries, e.2.Named) (h : inlineTable? entries = some v) : v.Named := by
  obtain ⟨acc, hacc, rfl⟩ := Option.map_eq_some_iff.1 h
  refine Entries.Named.toToml (foldlM_keeps ?_ Entries.named_nil hacc)
  exact fun e he _ _ hbefore => hbefore.assign? (hentries e he)

/-! ## Values -/

theorem named_ofDecimal (l : Decimal.Literal) : (ofDecimal l).Named := by
  unfold ofDecimal
  dsimp only
  split
  · exact .huge
  · exact .float

theorem named_scalar {cs : List Char} {v : Toml} (h : scalar cs = some v) : v.Named := by
  unfold scalar at h
  split at h
  · cases h
    exact .bool
  split at h
  · cases h
    exact .bool
  simp only [Option.orElse_eq_orElse, Option.orElse_eq_or, Option.or_eq_some_iff,
    Option.map_eq_some_iff] at h
  obtain ⟨n, -, rfl⟩ | ⟨-, ⟨x, -, rfl⟩ | ⟨-, ⟨l, -, rfl⟩ | ⟨-, s, -, rfl⟩⟩⟩ := h
  · split
    · exact .integer
    · exact .huge
  · exact .float
  · exact named_ofDecimal l
  · exact .moment

theorem gives_scalarValue : Gives Named scalarValue := by
  refine .bind fun written => .bind fun more => ?_
  split
  · next hv => exact .pure (named_scalar hv)
  · exact .failure

section

variable {value : Scan Toml} (hvalue : Gives Named value)
include hvalue

theorem gives_arrayElement : Gives (fun o => ∀ v ∈ o, v.Named) (arrayElement value) := by
  refine .bind fun _ => .bind fun next => ?_
  split
  · exact .bind fun _ => .pure (by simp)
  · refine .bind_of hvalue fun v hv => .bind fun _ => .bind fun _ => .pure ?_
    simpa using hv

theorem gives_entry (gap : Scan Unit) : Gives (fun e => e.2.Named) (entry gap value) :=
  .bind fun _ => .bind fun _ => .bind fun _ => .bind fun _ => .bind_of hvalue fun _ hv => .pure hv

theorem gives_inlineEntry : Gives (fun o => ∀ e ∈ o, e.2.Named) (inlineEntry value) := by
  refine .bind fun _ => .bind fun next => ?_
  split
  · exact .bind fun _ => .pure (by simp)
  · refine .bind_of (gives_entry hvalue space) fun e he => .bind fun _ => .bind fun _ => .pure ?_
    simpa using he

end

theorem gives_value (depth : Nat) : Gives Named (value depth) := by
  induction depth with
  | zero =>
    refine .bind fun next => ?_
    split
    · exact .bind fun _ => .pure .text
    · exact .bind fun _ => .pure .text
    · exact gives_scalarValue
  | succ depth ih =>
    refine .bind fun next => ?_
    split
    · exact .bind fun _ => .pure .text
    · exact .bind fun _ => .pure .text
    · exact .bind fun _ => .bind_of (.repeated (gives_arrayElement ih)) fun _ hitems =>
        .pure (.array hitems)
    · refine .bind fun _ => .bind_of (.repeated (gives_inlineEntry ih)) fun entries hentries => ?_
      split
      · next htable => exact .pure (named_inlineTable? hentries htable)
      · exact .failure
    · exact gives_scalarValue

/-! ## Documents -/

/-- The value of an entry has distinct names; a header has no value. -/
def Statement.Named : Statement → Prop
  | .entry _ _ v => v.Named
  | _ => True

theorem gives_header : Gives Statement.Named header := by
  refine .bind fun next => ?_
  split
  · exact .bind fun _ => .bind fun _ => .bind fun _ => .bind fun _ => .bind fun _ => .pure trivial
  · exact .bind fun _ => .bind fun _ => .bind fun _ => .pure trivial

theorem gives_statement : Gives (fun o => ∀ s ∈ o, s.Named) statement := by
  refine .bind fun _ => .bind fun next => ?_
  split
  · exact .pure (by simp)
  · refine .bind fun _ => .bind_of gives_header fun s hs => .bind fun _ => .pure ?_
    simpa using hs
  · refine .bind_of (gives_entry (gives_value maxDepth) blanks) fun e he => .bind fun _ => .pure ?_
    simpa [Statement.Named] using he

theorem Draft.named_step? {d next : Draft} {s : Statement} (hd : d.entries.Named) (hs : s.Named)
    (h : d.step? s = some next) : next.entries.Named := by
  cases s with
  | table path name =>
    obtain ⟨entries, hentries, rfl⟩ := Option.map_eq_some_iff.1 h
    exact hd.declare? hentries
  | element path name =>
    obtain ⟨entries, hentries, rfl⟩ := Option.map_eq_some_iff.1 h
    exact hd.extend? hentries
  | entry path name v =>
    obtain ⟨entries, hentries, rfl⟩ := Option.map_eq_some_iff.1 h
    exact hd.assign? hs hentries

/-- A document comes to a table of distinct names at every depth. -/
theorem named_parse? {s : String} {v : Toml} (h : parse? s = some v) :
    v.Named ∧ ∃ entries, v = .table entries := by
  obtain ⟨found, hfound, h⟩ := Option.bind_eq_some_iff.1 h
  obtain ⟨draft, hdraft, h⟩ := Option.bind_eq_some_iff.1 h
  cases h
  have hnamed : ∀ t ∈ found, t.Named := by
    unfold statements? at hfound
    dsimp only at hfound
    split at hfound
    · next hrepeated =>
      cases hfound
      exact Gives.repeated gives_statement hrepeated
    · cases hfound
  have hkept : draft.entries.Named :=
    foldlM_keeps (fun t ht _ _ hd => Draft.named_step? hd (hnamed t ht)) Entries.named_nil hdraft
  exact ⟨hkept.toToml, _, rfl⟩

end Toml
end ClusterReads
