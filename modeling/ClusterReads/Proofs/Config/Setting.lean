import ClusterReads.Config.Loose
import ClusterReads.Config.Source
import ClusterReads.Proofs.Toml.Names
import Mathlib.Data.List.Forall2
import Mathlib.Data.List.Induction

/-!
# The tree of one source

A TOML value has a setting where its integers fit the tree. A source whose names are distinct is its own
tree, where its names say members of the root and not paths into them.
-/
namespace ClusterReads

/-- The setting under a name. -/
def Setting.member? (name : String) (members : List (String × Setting)) : Option Setting :=
  (members.find? fun m => m.1 == name).map Prod.snd

/-! ## Settings of TOML values -/

/-- Entries and members of the same names, with the settings of the values. -/
abbrev SettingsOf (entries : List (String × Toml)) (members : List (String × Setting)) : Prop :=
  List.Forall₂ (fun e m => e.1 = m.1 ∧ Setting.ofToml? e.2 = some m.2) entries members

theorem settingsOfItems?_forall₂ {items : List Toml} {settings : List Setting}
    (h : settingsOfItems? items = some settings) :
    List.Forall₂ (fun v s => Setting.ofToml? v = some s) items settings := by
  induction items generalizing settings with
  | nil =>
    cases h
    exact .nil
  | cons v items ih =>
    rw [settingsOfItems?] at h
    obtain ⟨s, hs, h⟩ := Option.bind_eq_some_iff.1 h
    obtain ⟨rest, hrest, h⟩ := Option.bind_eq_some_iff.1 h
    cases h
    exact .cons hs (ih hrest)

theorem settingsOfEntries?_settingsOf {entries : List (String × Toml)}
    {members : List (String × Setting)} (h : settingsOfEntries? entries = some members) :
    SettingsOf entries members := by
  induction entries generalizing members with
  | nil =>
    cases h
    exact .nil
  | cons e entries ih =>
    obtain ⟨name, v⟩ := e
    rw [settingsOfEntries?] at h
    obtain ⟨s, hs, h⟩ := Option.bind_eq_some_iff.1 h
    obtain ⟨rest, hrest, h⟩ := Option.bind_eq_some_iff.1 h
    cases h
    exact .cons ⟨rfl, hs⟩ (ih hrest)

theorem SettingsOf.names {entries : List (String × Toml)} {members : List (String × Setting)}
    (h : SettingsOf entries members) : members.map Prod.fst = entries.map Prod.fst := by
  induction h with
  | nil => rfl
  | cons hm _ ih => rw [List.map_cons, List.map_cons, ih, hm.1]

theorem SettingsOf.member? {entries : List (String × Toml)} {members : List (String × Setting)}
    (h : SettingsOf entries members) (name : String) :
    Option.Rel (fun v s => Setting.ofToml? v = some s) (Toml.find? entries name)
      (Setting.member? name members) := by
  induction h with
  | nil => exact .none
  | @cons e m _ _ hm _ ih =>
    unfold Toml.find? Setting.member? at ih ⊢
    rw [List.find?_cons, List.find?_cons, ← hm.1]
    split
    · exact .some hm.2
    · exact ih

theorem SettingsOf.exists_entry {entries : List (String × Toml)} {members : List (String × Setting)}
    (h : SettingsOf entries members) {m : String × Setting} (hm : m ∈ members) :
    ∃ e ∈ entries, Setting.ofToml? e.2 = some m.2 := by
  induction h with
  | nil => cases hm
  | @cons e _ _ _ hhead _ ih =>
    rcases List.mem_cons.1 hm with rfl | hm
    · exact ⟨e, List.mem_cons_self, hhead.2⟩
    · obtain ⟨f, hf, hsetting⟩ := ih hm
      exact ⟨f, List.mem_cons_of_mem e hf, hsetting⟩

/-! ## Values that a tree can hold -/

/-- What a tree can hold: integers are signed ones of 64 bits, and what is marked as a date is one. -/
inductive Toml.Settable : Toml → Prop
  | text {s : String} : Toml.Settable (.text s)
  | integer {n : Int} (hn : isFileInteger n = true) : Toml.Settable (.integer n)
  | float {x : Float} : Toml.Settable (.float x)
  | bool {b : Bool} : Toml.Settable (.bool b)
  | moment {s : String} : Toml.Settable (.moment s)
  | array {items : List Toml} (hitems : ∀ v ∈ items, Toml.Settable v) : Toml.Settable (.array items)
  | date {entries : List (String × Toml)} {v : Toml} {s : Setting} (hdate : date? entries = some v)
      (hv : dateSetting? v = some s) : Toml.Settable (.table entries)
  | table {entries : List (String × Toml)} (hdate : date? entries = none)
      (hentries : ∀ e ∈ entries, Toml.Settable e.2) : Toml.Settable (.table entries)

mutual

theorem settable_of_ofToml? : ∀ {v : Toml} {s : Setting}, Setting.ofToml? v = some s → v.Settable
  | .text _, _, _ => .text
  | .integer _, _, h => by
    rw [Setting.ofToml?] at h
    split at h
    · next hn => exact .integer hn
    · cases h
  | .float _, _, _ => .float
  | .huge, _, h => by cases h
  | .bool _, _, _ => .bool
  | .moment _, _, _ => .moment
  | .array items, _, h => by
    obtain ⟨settings, hsettings, -⟩ := Option.map_eq_some_iff.1 h
    exact .array (settable_of_items hsettings)
  | .table entries, _, h => by
    rw [Setting.ofToml?] at h
    split at h
    · next hdate => exact .date hdate h
    · next hdate =>
      obtain ⟨members, hmembers, -⟩ := Option.map_eq_some_iff.1 h
      exact .table hdate (settable_of_entries hmembers)

theorem settable_of_items : ∀ {items : List Toml} {settings : List Setting},
    settingsOfItems? items = some settings → ∀ v ∈ items, v.Settable
  | [], _, _ => by simp
  | v :: rest, _, h => by
    rw [settingsOfItems?] at h
    obtain ⟨s, hs, h⟩ := Option.bind_eq_some_iff.1 h
    obtain ⟨more, hmore, -⟩ := Option.bind_eq_some_iff.1 h
    exact List.forall_mem_cons.2 ⟨settable_of_ofToml? hs, settable_of_items hmore⟩

theorem settable_of_entries : ∀ {entries : List (String × Toml)} {members : List (String × Setting)},
    settingsOfEntries? entries = some members → ∀ e ∈ entries, e.2.Settable
  | [], _, _ => by simp
  | (name, v) :: rest, _, h => by
    rw [settingsOfEntries?] at h
    obtain ⟨s, hs, h⟩ := Option.bind_eq_some_iff.1 h
    obtain ⟨more, hmore, -⟩ := Option.bind_eq_some_iff.1 h
    exact List.forall_mem_cons.2 ⟨settable_of_ofToml? hs, settable_of_entries hmore⟩

end

theorem settingsOfItems?_isSome {items : List Toml} (h : ∀ v ∈ items, (Setting.ofToml? v).isSome) :
    (settingsOfItems? items).isSome := by
  induction items with
  | nil => rfl
  | cons v rest ih =>
    rw [List.forall_mem_cons] at h
    obtain ⟨s, hs⟩ := Option.isSome_iff_exists.1 h.1
    obtain ⟨more, hmore⟩ := Option.isSome_iff_exists.1 (ih h.2)
    simp [settingsOfItems?, hs, hmore]

theorem settingsOfEntries?_isSome {entries : List (String × Toml)}
    (h : ∀ e ∈ entries, (Setting.ofToml? e.2).isSome) : (settingsOfEntries? entries).isSome := by
  induction entries with
  | nil => rfl
  | cons e rest ih =>
    rw [List.forall_mem_cons] at h
    obtain ⟨s, hs⟩ := Option.isSome_iff_exists.1 h.1
    obtain ⟨more, hmore⟩ := Option.isSome_iff_exists.1 (ih h.2)
    simp [settingsOfEntries?, hs, hmore]

theorem isSome_ofToml?_iff {v : Toml} : (Setting.ofToml? v).isSome ↔ v.Settable := by
  constructor
  · intro h
    obtain ⟨s, hs⟩ := Option.isSome_iff_exists.1 h
    exact settable_of_ofToml? hs
  · intro h
    induction h with
    | integer hn => rw [Setting.ofToml?, if_pos hn]; rfl
    | array _ ih => rw [Setting.ofToml?, Option.isSome_map]; exact settingsOfItems?_isSome ih
    | date hdate hv => rw [Setting.ofToml?, hdate]; simp [hv]
    | table hdate _ ih => rw [Setting.ofToml?, hdate]; simpa using settingsOfEntries?_isSome ih
    | _ => rfl

instance (v : Toml) : Decidable v.Settable :=
  decidable_of_iff _ isSome_ofToml?_iff

namespace Setting

/-! ## Settings of tables -/

theorem dateSetting?_eq_text {v : Toml} {s : Setting} (h : dateSetting? v = some s) :
    ∃ t, s = .text t := by
  unfold dateSetting? at h
  split at h
  · obtain ⟨t, -, rfl⟩ := Option.map_eq_some_iff.1 h
    exact ⟨t, rfl⟩
  · cases h

/-- A table says a date or a group. -/
theorem ofToml?_table {entries : List (String × Toml)} {s : Setting}
    (h : ofToml? (.table entries) = some s) :
    (∃ v t, date? entries = some v ∧ dateSetting? v = some (.text t) ∧ s = .text t) ∨
      (date? entries = none ∧ ∃ members, SettingsOf entries members ∧ s = .group members) := by
  rw [ofToml?] at h
  split at h
  · next v hdate =>
    obtain ⟨t, rfl⟩ := dateSetting?_eq_text h
    exact .inl ⟨v, t, hdate, h, rfl⟩
  · next hdate =>
    obtain ⟨members, hmembers, rfl⟩ := Option.map_eq_some_iff.1 h
    exact .inr ⟨hdate, members, settingsOfEntries?_settingsOf hmembers, rfl⟩

/-- Only a table that is no date says a group. -/
theorem ofToml?_eq_group {v : Toml} {members : List (String × Setting)}
    (h : ofToml? v = some (.group members)) :
    ∃ entries, v = .table entries ∧ date? entries = none ∧ SettingsOf entries members := by
  cases v with
  | table entries =>
    obtain ⟨_, _, -, -, heq⟩ | ⟨hdate, _, hsettings, heq⟩ := ofToml?_table h
    · cases heq
    · cases heq
      exact ⟨entries, rfl, hdate, hsettings⟩
  | array items =>
    obtain ⟨_, -, heq⟩ := Option.map_eq_some_iff.1 h
    cases heq
  | integer n =>
    rw [ofToml?] at h
    split at h <;> cases h
  | _ => cases h

/-! ## Settings put in an empty place -/

theorem alterMember_new {name : String} {f : Setting → Setting} {members : List (String × Setting)}
    (h : name ∉ members.map Prod.fst) : alterMember name f members = members ++ [(name, f .missing)] := by
  induction members with
  | nil => rfl
  | cons m rest ih =>
    obtain ⟨key, s⟩ := m
    simp only [List.map_cons, List.mem_cons, not_or] at h
    rw [alterMember, if_neg fun heq => h.1 heq.symm, ih h.2, List.cons_append]

theorem membersOnto_new {members below : List (String × Setting)}
    (hnames : ((below ++ members).map Prod.fst).Nodup)
    (hsame : ∀ m ∈ members, m.2.onto .missing = m.2) : membersOnto members below = below ++ members := by
  induction members generalizing below with
  | nil => rw [membersOnto, List.append_nil]
  | cons m rest ih =>
    obtain ⟨name, s⟩ := m
    rw [List.forall_mem_cons] at hsame
    have hnew : name ∉ below.map Prod.fst := by
      intro hmem
      rw [List.map_append, List.map_cons, List.nodup_append] at hnames
      exact hnames.2.2 name hmem name List.mem_cons_self rfl
    have hshift : below ++ (name, s) :: rest = below ++ [(name, s)] ++ rest := by simp
    rw [membersOnto, alterMember_new hnew, hsame.1, hshift]
    rw [hshift] at hnames
    exact ih hnames hsame.2

/-- The setting of a value with distinct names fills an empty place as it is. -/
theorem onto_missing {v : Toml} (hv : v.Named) {s : Setting} (h : ofToml? v = some s) :
    s.onto .missing = s := by
  induction hv generalizing s with
  | @table entries hnames _ ih =>
    cases s with
    | group members =>
      obtain ⟨_, heq, -, hsettings⟩ := ofToml?_eq_group h
      cases heq
      have hsame : ∀ m ∈ members, m.2.onto .missing = m.2 := by
        intro m hm
        obtain ⟨e, he, hsetting⟩ := hsettings.exists_entry hm
        exact ih e he hsetting
      rw [← hsettings.names] at hnames
      have hmembers : membersOnto members [] = members := by
        rw [membersOnto_new (by simpa using hnames) hsame, List.nil_append]
      exact congrArg group hmembers
    | _ => rfl
  | _ =>
    cases s with
    | group members =>
      obtain ⟨_, heq, -⟩ := ofToml?_eq_group h
      cases heq
    | _ => rfl

/-! ## Members of a tree -/

theorem member?_append (name : String) (members more : List (String × Setting)) :
    member? name (members ++ more) = (member? name members).or (member? name more) := by
  unfold member?
  rw [List.find?_append]
  cases members.find? fun m => m.1 == name <;> rfl

theorem member?_singleton (name key : String) (s : Setting) :
    member? name [(key, s)] = if key = name then some s else none := by
  by_cases hkey : key = name <;> simp [member?, hkey]

theorem member?_eq_none {name : String} {members : List (String × Setting)}
    (h : name ∉ members.map Prod.fst) : member? name members = none := by
  unfold member?
  rw [Option.map_eq_none_iff, List.find?_eq_none]
  rintro m hm hname
  exact h (List.mem_map.2 ⟨m, hm, by simpa using hname⟩)

theorem member?_alterMember (name key : String) (f : Setting → Setting)
    (members : List (String × Setting)) :
    member? name (alterMember key f members) =
      if key = name then some (f ((member? name members).getD .missing)) else member? name members := by
  induction members with
  | nil =>
    by_cases hkey : key = name <;> simp [alterMember, member?, hkey]
  | cons m rest ih =>
    obtain ⟨own, s⟩ := m
    unfold member? at ih ⊢
    by_cases hown : own = key
    · subst hown
      by_cases hname : own = name <;> simp [alterMember, hname]
    · by_cases hname : own = name
      · subst hname
        simp [alterMember, hown, Ne.symm hown]
      · simpa [alterMember, hown, hname] using ih

end Setting

namespace PathStep

open Text Text.Scan

theorem gives_name : Gives (fun step => ∃ first, step = .member first) name := by
  refine .bind fun cs => ?_
  split
  · exact .failure
  · exact .pure ⟨_, rfl⟩

/-- A path starts with a member of the root. -/
theorem exists_path (key : String) : ∃ first rest, path key = .member first :: rest := by
  have hgives : Gives (fun steps => ∃ first rest, steps = PathStep.member first :: rest)
      (do return (← name) :: (← repeated next)) := by
    refine .bind_of gives_name ?_
    rintro _ ⟨first, rfl⟩
    exact .bind fun rest => .pure ⟨first, rest, rfl⟩
  unfold path
  split
  · next hwhole =>
    unfold whole? at hwhole
    split at hwhole
    · next hscan =>
      cases hwhole
      exact hgives hscan
    · cases hwhole
  · exact ⟨key, [], rfl⟩

end PathStep

/-- The tree of a source has the members of the source under all names that no other name of the source
leads to or into. -/
theorem Source.tree_singleton {source : Source} (hnames : (source.map Prod.fst).Nodup)
    (hsame : ∀ m ∈ source, m.2.onto .missing = m.2) {names : List String}
    (hpaths : ∀ name ∈ names, PathStep.path name = [.member name])
    (hkeys : ∀ m ∈ source, ∀ name ∈ names,
      (PathStep.path m.1).head? = some (.member name) → m.1 = name) :
    ∃ members, Source.tree [source] = .group members ∧
      ∀ name ∈ names, Setting.member? name members = Setting.member? name source := by
  rw [Source.tree, List.flatten_singleton]
  induction source using List.reverseRecOn with
  | nil => exact ⟨[], rfl, fun _ _ => rfl⟩
  | append_singleton source m ih =>
    obtain ⟨key, s⟩ := m
    simp only [List.forall_mem_append, List.forall_mem_singleton] at hsame hkeys
    rw [List.map_append, List.map_singleton] at hnames
    obtain ⟨members, htree, hmembers⟩ := ih hnames.of_append_left hsame.1 hkeys.1
    obtain ⟨first, rest, hpath⟩ := PathStep.exists_path key
    have hstep : Setting.alter s.onto (PathStep.path key) (.group members) =
        .group (Setting.alterMember first (Setting.alter s.onto rest) members) := by
      rw [hpath]
      rfl
    rw [List.foldl_append, htree]
    refine ⟨_, hstep, fun name hname => ?_⟩
    rw [Setting.member?_alterMember, hmembers name hname, Setting.member?_append,
      Setting.member?_singleton]
    by_cases hkey : key = name
    · subst hkey
      have hplain := hpath.symm.trans (hpaths key hname)
      injection hplain with hfirst hrest
      injection hfirst with hfirst
      subst hfirst hrest
      have hnone : Setting.member? first source = none :=
        Setting.member?_eq_none fun hmem => (List.nodup_append.1 hnames).2.2 first hmem first (by simp) rfl
      simpa [hnone, Setting.alter] using hsame.2
    · have hfirst : first ≠ name := by
        rintro rfl
        exact hkey (hkeys.2 first hname (by rw [hpath]; rfl))
      simp [hkey, hfirst]

end ClusterReads
