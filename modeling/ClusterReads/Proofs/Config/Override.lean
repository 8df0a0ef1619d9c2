import ClusterReads.Proofs.Config.Scalars
import ClusterReads.Proofs.Keyed

/-!
# What the environment overrides

Main statement: a configuration that is loaded has each scalar from its own variable, or else from the
file, or else by default, whatever the other variables say and in whatever order they come.
-/
namespace ClusterReads

/-! ## Variables -/

namespace ScalarField

/-- The variable that names the scalar. -/
def variableName (f : ScalarField) : String :=
  "SCHEDULER_" ++ "__".intercalate (f.path.map String.toUpper)

/-- The variable of a scalar leads to the place of the scalar. -/
theorem path_variableName (f : ScalarField) :
    (variablePath? f.variableName).map PathStep.path = some (PathStep.ofNames f.path) := by
  cases f <;> decide +kernel

theorem path_disjoint {f g : ScalarField} (h : f ≠ g) : ¬f.path <+: g.path := by
  revert h
  cases f <;> cases g <;> decide

theorem path_disjoint_sections (f : ScalarField) : ∀ path ∈ AppConfig.sections, ¬f.path <+: path := by
  cases f <;> decide

theorem path_disjoint_operations (f : ScalarField) :
    ¬f.path <+: AuditConfig.operationsPath ∧ ¬AuditConfig.operationsPath <+: f.path := by
  cases f <;> decide

theorem variableName_injective {f g : ScalarField} (h : f.variableName = g.variableName) : f = g := by
  by_contra hne
  have hsteps : PathStep.ofNames f.path = PathStep.ofNames g.path := by
    rw [← Option.some_inj, ← path_variableName, ← path_variableName, h]
  have hpath : f.path = g.path := List.map_injective_iff.2 (fun _ _ => PathStep.member.inj) hsteps
  exact path_disjoint hne (hpath ▸ List.prefix_refl _)

/-- What is given for the scalar: by its variable, or else in the tree of the file. -/
def given? (f : ScalarField) (environment : SortedMap String String) (file : Setting) : Option Setting :=
  match environment.lookup? f.variableName with
  | some v => some (.ofVariable v)
  | none => file.at? f.path

example : variableName .ttlSeconds = "SCHEDULER_STORAGE__CACHE__TTL_SECONDS" := by decide +kernel

end ScalarField

/-- Variables that lead into the tree at all are those of scalars. -/
def Documented (vars : List (String × String)) : Prop :=
  ∀ e ∈ vars, variablePath? e.1 ≠ none → ∃ f : ScalarField, e.1 = f.variableName

/-- What variables say, in any order. -/
def Source.ofVariables (vars : List (String × String)) : Source :=
  vars.filterMap fun (name, v) => (variablePath? name).map fun path => (path, Setting.ofVariable v)

/-- A source put over a tree. -/
def Source.over (source : Source) (tree : Setting) : Setting :=
  source.foldl (fun tree (key, s) => tree.alter s.onto (PathStep.path key)) tree

/-- A variable put over a tree. -/
def ScalarField.put (f : ScalarField) (v : String) (tree : Setting) : Setting :=
  tree.alter (Setting.ofVariable v).onto (PathStep.ofNames f.path)

theorem Setting.ofVariable_onto (v : String) (below : Setting) :
    (ofVariable v).onto below = ofVariable v := by
  unfold ofVariable
  dsimp only
  split
  · rfl
  · split
    · rfl
    · split
      · rfl
      · split <;> rfl

namespace ScalarField

variable {f g : ScalarField} {v : String} {tree : Setting}

theorem at?_put (f : ScalarField) (v : String) (tree : Setting) :
    (f.put v tree).at? f.path = some (.ofVariable v) := by
  rw [put, Setting.at?_alter, Setting.ofVariable_onto]

theorem at?_put_of_ne (h : f ≠ g) : (g.put v tree).at? f.path = tree.at? f.path :=
  Setting.at?_alter_of_disjoint (path_disjoint h.symm) (path_disjoint h) tree

theorem at?_operations_put : (f.put v tree).at? AuditConfig.operationsPath =
    tree.at? AuditConfig.operationsPath :=
  Setting.at?_alter_of_disjoint f.path_disjoint_operations.1 f.path_disjoint_operations.2 tree

/-- Sections that a variable leads through are groups, even where the tree had none. -/
theorem put_sectioned (h : tree.Sectioned) : (f.put v tree).Sectioned := by
  intro path hpath s hs
  have hbelow := f.path_disjoint_sections path hpath
  by_cases hprefix : path <+: f.path
  · have hne : path ≠ f.path := by
      rintro rfl
      exact hbelow hprefix
    exact Setting.at?_alter_of_prefix hprefix hne tree s hs
  · rw [put, Setting.at?_alter_of_disjoint hbelow hprefix] at hs
    exact h path hpath s hs

/-- The variable of a scalar does as a source what it does to the place of the scalar. -/
theorem over_ofVariables_cons (f : ScalarField) (v : String) (rest : List (String × String))
    (tree : Setting) : (Source.ofVariables ((f.variableName, v) :: rest)).over tree =
      (Source.ofVariables rest).over (f.put v tree) := by
  obtain ⟨path, hpath, hsteps⟩ := Option.map_eq_some_iff.1 f.path_variableName
  have hsource : Source.ofVariables ((f.variableName, v) :: rest) =
      (path, Setting.ofVariable v) :: Source.ofVariables rest := by
    simp [Source.ofVariables, hpath]
  rw [hsource, put, ← hsteps]
  rfl

end ScalarField

/-! ## Trees under variables -/

/-- The second tree is the first one under variables: each scalar is that of its variable, or as before. -/
structure Overridden (vars : List (String × String)) (tree tree' : Setting) : Prop where
  sectioned : tree'.Sectioned
  given : ∀ (f : ScalarField) v, (f.variableName, v) ∈ vars → tree'.at? f.path = some (.ofVariable v)
  kept : ∀ f : ScalarField, (∀ v, (f.variableName, v) ∉ vars) → tree'.at? f.path = tree.at? f.path
  operations : tree'.at? AuditConfig.operationsPath = tree.at? AuditConfig.operationsPath

namespace Overridden

variable {rest : List (String × String)} {tree tree' : Setting} {name v : String}

/-- A variable that leads nowhere makes no difference. -/
theorem passed (h : Overridden rest tree tree') (hpath : variablePath? name = none) :
    Overridden ((name, v) :: rest) tree tree' := by
  have hname : ∀ f : ScalarField, f.variableName ≠ name := by
    rintro f rfl
    have hsome := f.path_variableName
    rw [hpath] at hsome
    cases hsome
  refine { h with given := fun f w hmem => h.given f w ?_, kept := fun f hnone => h.kept f ?_ }
  · exact (List.mem_cons.1 hmem).resolve_left fun heq => hname f (congrArg Prod.fst heq)
  · exact fun w hmem => hnone w (List.mem_cons_of_mem _ hmem)

/-- A variable that does not come again has the last word on its scalar. -/
theorem put {g : ScalarField} (h : Overridden rest (g.put v tree) tree')
    (honce : ∀ w, (g.variableName, w) ∉ rest) :
    Overridden ((g.variableName, v) :: rest) tree tree' := by
  refine ⟨h.sectioned, fun f w hmem => ?_, fun f hnone => ?_,
    h.operations.trans ScalarField.at?_operations_put⟩
  · rcases List.mem_cons.1 hmem with heq | hmem
    · obtain ⟨hname, rfl⟩ := Prod.mk.inj heq
      obtain rfl := ScalarField.variableName_injective hname
      rw [h.kept f honce, f.at?_put]
    · exact h.given f w hmem
  · have hne : f ≠ g := by
      rintro rfl
      exact hnone v List.mem_cons_self
    rw [h.kept f fun w hmem => hnone w (List.mem_cons_of_mem _ hmem), ScalarField.at?_put_of_ne hne]

end Overridden

/-- The induction is on the variables; each of them leaves a tree with sections for the next one. -/
theorem overridden {vars : List (String × String)} (hdocumented : Documented vars)
    (hnames : (vars.map Prod.fst).Nodup) {tree : Setting} (h : tree.Sectioned) :
    Overridden vars tree ((Source.ofVariables vars).over tree) := by
  induction vars generalizing tree with
  | nil => exact ⟨h, by simp, fun _ _ => rfl, rfl⟩
  | cons e rest ih =>
    obtain ⟨name, v⟩ := e
    obtain ⟨hfirst, hrest⟩ := List.forall_mem_cons.1 hdocumented
    rw [List.map_cons, List.nodup_cons] at hnames
    cases hpath : variablePath? name with
    | none =>
      have hover : (Source.ofVariables ((name, v) :: rest)).over tree =
          (Source.ofVariables rest).over tree := by
        simp [Source.ofVariables, hpath]
      rw [hover]
      exact (ih hrest hnames.2 h).passed hpath
    | some path =>
      obtain ⟨g, rfl⟩ := hfirst (by rw [hpath]; exact Option.some_ne_none path)
      rw [g.over_ofVariables_cons]
      exact (ih hrest hnames.2 (g.put_sectioned h)).put fun w hmem =>
        hnames.1 (List.mem_map.2 ⟨_, hmem, rfl⟩)

/-- A scalar that another variable names is given as before. -/
theorem ScalarField.given?_put_of_ne {environment : SortedMap String String} {f g : ScalarField}
    (h : f ≠ g) (v : String) (file : Setting) :
    f.given? (environment.put g.variableName v) file = f.given? environment file := by
  unfold given?
  rw [SortedMap.lookup?_put, if_neg fun heq => h (variableName_injective heq).symm]

theorem Documented.put {environment : SortedMap String String} (h : Documented environment.toList)
    (g : ScalarField) (v : String) :
    Documented (environment.put g.variableName v).toList := by
  rintro ⟨name, w⟩ he hpath
  rw [SortedMap.mem_toList_iff, SortedMap.lookup?_put] at he
  split at he
  · next heq => exact ⟨g, heq.symm⟩
  · exact h (name, w) ((SortedMap.mem_toList_iff _ _ _).2 he) hpath

/-! ## Documents -/

/-- What stands in the places of sections, if anything, are tables. -/
def Toml.Sectioned (v : Toml) : Prop :=
  ∀ path ∈ AppConfig.sections, ∀ w ∈ v.at? path, w.IsSection

instance : DecidablePred Toml.Sectioned :=
  fun v => inferInstanceAs (Decidable (∀ path ∈ AppConfig.sections, ∀ w ∈ v.at? path, w.IsSection))

/-- No key at the root is a path into a section, unless it is the plain name of that section. -/
def Toml.PlainKeys (v : Toml) : Prop :=
  ∀ e ∈ v.entries, ∀ name ∈ AppConfig.fieldNames,
    (PathStep.path e.1).head? = some (.member name) → e.1 = name

instance : DecidablePred Toml.PlainKeys :=
  fun v => inferInstanceAs (Decidable (∀ e ∈ v.entries, ∀ name ∈ AppConfig.fieldNames,
    (PathStep.path e.1).head? = some (.member name) → e.1 = name))

/-- The root of a tree is a group. -/
theorem Source.isGroup_tree (sources : List Source) : (Source.tree sources).IsGroup := by
  unfold Source.tree
  induction sources.flatten using List.reverseRecOn with
  | nil => exact ⟨[], rfl⟩
  | append_singleton source m =>
    obtain ⟨key, s⟩ := m
    obtain ⟨first, rest, hpath⟩ := PathStep.exists_path key
    rw [List.foldl_append]
    change (Setting.alter s.onto (PathStep.path key) _).IsGroup
    rw [hpath]
    exact ⟨_, rfl⟩

section Documents

variable {text : String} {v : Toml} {file : Source}

theorem Toml.Sectioned.leads (h : v.Sectioned) {path : List String}
    (hpath : ∀ before ∈ path.inits, before ≠ path → before ∈ AppConfig.sections) : v.Leads path :=
  fun before hbefore hne => h before (hpath before hbefore hne)

/-- The tree of a document has at a path into a section what the document has there. -/
theorem at?_tree_of_document (hv : Toml.parse? text = some v)
    (hfile : Source.ofText? text = some file) (hkeys : v.PlainKeys) {path : List String}
    (hhead : ∃ name ∈ AppConfig.fieldNames, path.head? = some name) (hleads : v.Leads path) :
    Option.Rel (fun w s => Setting.ofToml? w = some s) (v.at? path)
      ((Source.tree [file]).at? path) := by
  obtain ⟨w, hw, hsetting⟩ := ofText?_eq_some_iff.1 hfile
  obtain rfl : v = w := Option.some.inj (hv.symm.trans hw)
  obtain ⟨hnamed, -⟩ := Toml.named_parse? hv
  obtain ⟨entries, rfl, -, hsettings⟩ := Setting.ofToml?_eq_group hsetting
  obtain ⟨held, htree, hheld⟩ := tree_of_settings hnamed hsettings AppConfig.path_fieldNames hkeys
  obtain ⟨name, hname, hpath⟩ := hhead
  obtain ⟨rest, rfl⟩ := List.head?_eq_some_iff.1 hpath
  have hsame : (Source.tree [file]).at? (name :: rest) = (Setting.group file).at? (name :: rest) := by
    rw [htree, Setting.at?_cons, Setting.at?_cons]
    exact congrArg (Option.bind · _) (hheld name hname)
  rw [hsame]
  exact Toml.at?_ofToml? hleads hsetting

theorem sectioned_tree_of_document (hv : Toml.parse? text = some v)
    (hfile : Source.ofText? text = some file) (hkeys : v.PlainKeys) (h : v.Sectioned) :
    (Source.tree [file]).Sectioned := by
  have hclosed : ∀ path ∈ AppConfig.sections, (path = [] ∨
      ∃ name ∈ AppConfig.fieldNames, path.head? = some name) ∧
      ∀ before ∈ path.inits, before ≠ path → before ∈ AppConfig.sections := by
    decide
  intro path hpath s hs
  obtain ⟨rfl | hhead, hbefore⟩ := hclosed path hpath
  · cases hs
    exact Source.isGroup_tree [file]
  · have hrel := at?_tree_of_document hv hfile hkeys hhead (h.leads hbefore)
    rw [Option.mem_def.1 hs] at hrel
    generalize hw : v.at? path = w? at hrel
    cases hrel with
    | some hsetting => exact (h path hpath _ hw).isGroup hsetting

/-- The places of scalars and of the audited operations are in sections. -/
theorem ScalarField.path_in_section (f : ScalarField) :
    (∃ name ∈ AppConfig.fieldNames, f.path.head? = some name) ∧
      ∀ before ∈ f.path.inits, before ≠ f.path → before ∈ AppConfig.sections := by
  cases f <;> decide

theorem AuditConfig.operationsPath_in_section :
    (∃ name ∈ AppConfig.fieldNames, operationsPath.head? = some name) ∧
      ∀ before ∈ operationsPath.inits, before ≠ operationsPath → before ∈ AppConfig.sections := by
  decide

/-- The tree of a file has groups for sections, and its scalars and audited operations are what the
document has in their places. -/
structure Toml.ToldBy (tree : Setting) (v : Toml) : Prop where
  sectioned : tree.Sectioned
  scalars : ∀ f : ScalarField, tree.at? f.path = (v.at? f.path).bind Setting.ofToml?
  operations : tree.at? AuditConfig.operationsPath =
    (v.at? AuditConfig.operationsPath).bind Setting.ofToml?

theorem eq_bind_of_rel {w? : Option Toml} {s? : Option Setting}
    (h : Option.Rel (fun w s => Setting.ofToml? w = some s) w? s?) : s? = w?.bind Setting.ofToml? := by
  cases h with
  | none => rfl
  | some h => exact h.symm

theorem toldBy_document (hv : Toml.parse? text = some v) (hfile : Source.ofText? text = some file)
    (hkeys : v.PlainKeys) (h : v.Sectioned) : v.ToldBy (Source.tree [file]) where
  sectioned := sectioned_tree_of_document hv hfile hkeys h
  scalars f := eq_bind_of_rel
    (at?_tree_of_document hv hfile hkeys f.path_in_section.1 (h.leads f.path_in_section.2))
  operations := eq_bind_of_rel (at?_tree_of_document hv hfile hkeys
    AuditConfig.operationsPath_in_section.1 (h.leads AuditConfig.operationsPath_in_section.2))

end Documents

/-! ## Loading -/

namespace AppConfig

variable {file : Source} {environment : SortedMap String String}

theorem tree_pair (file more : Source) : Source.tree [file, more] = more.over (Source.tree [file]) := by
  simp [Source.tree, Source.over, List.foldl_append]

/-- Each scalar is what is given for it, and the audited operations are those of the file. -/
structure Gathered (environment : SortedMap String String) (file : Setting) (c : AppConfig) : Prop where
  scalars : ∀ f : ScalarField, f.read (f.given? environment file) = some (f.get c)
  operations : AuditConfig.readOperations (file.at? AuditConfig.operationsPath) =
    some c.storage.audit.operations

/-- Under the variables of an environment, in any order, a configuration is read scalar by scalar. -/
theorem read_under_variables (hsections : (Source.tree [file]).Sectioned)
    (hdocumented : Documented environment.toList) {vars : List (String × String)}
    (hvars : vars.Perm environment.toList) {c : AppConfig} :
    read .loose (Source.tree [file, Source.ofVariables vars]) = some c ↔
      c.Gathered environment (Source.tree [file]) := by
  have hmem : ∀ e, e ∈ vars ↔ e ∈ environment.toList := fun e => hvars.mem_iff
  have hover := overridden (fun e he => hdocumented e ((hmem e).1 he))
    ((hvars.map Prod.fst).nodup_iff.2 environment.nodup_keys) hsections
  have hgiven : ∀ f : ScalarField, ((Source.ofVariables vars).over (Source.tree [file])).at? f.path =
      f.given? environment (Source.tree [file]) := by
    intro f
    unfold ScalarField.given?
    cases hlookup : environment.lookup? f.variableName with
    | some v => exact hover.given f v ((hmem _).2 ((SortedMap.mem_toList_iff _ _ _).2 hlookup))
    | none =>
      refine hover.kept f fun v hv => ?_
      rw [(SortedMap.mem_toList_iff _ _ _).1 ((hmem _).1 hv)] at hlookup
      cases hlookup
  rw [tree_pair, read_loose_eq_some_iff hover.sectioned, hover.operations]
  simp only [hgiven]
  constructor
  · rintro ⟨hscalars, hoperations⟩
    exact ⟨hscalars, hoperations⟩
  · rintro ⟨hscalars, hoperations⟩
    exact ⟨hscalars, hoperations⟩

theorem load_of_source {path : Option String} {around : Surroundings} {place : Option String}
    (hplace : around.files.configPath path = .ok place) (hfile : around.files.source place = .ok file)
    {c : AppConfig} : load path around = .ok c ↔
      read .loose (Source.tree [file, .ofEnvironment around.environment]) = some c ∧ c.check = .ok () := by
  unfold load
  rw [hplace]
  change ((around.files.source place).bind _) = _ ↔ _
  rw [hfile]
  exact checked_eq_ok_iff

theorem exists_source_of_load {path : Option String} {around : Surroundings} {c : AppConfig}
    (h : load path around = .ok c) : ∃ place file,
      around.files.configPath path = .ok place ∧ around.files.source place = .ok file := by
  unfold load at h
  cases hplace : around.files.configPath path with
  | error e =>
    rw [hplace] at h
    cases h
  | ok place =>
    cases hfile : around.files.source place with
    | error e =>
      rw [hplace] at h
      change ((around.files.source place).bind _) = _ at h
      rw [hfile] at h
      cases h
    | ok file => exact ⟨place, file, rfl, hfile⟩

theorem of_source {files : FileTree} {name : String} (h : files.source (some name) = .ok file) :
    ∃ text, files.content? name = some text ∧ Source.ofText? (withoutMark text) = some file := by
  unfold FileTree.source at h
  dsimp only at h
  split at h
  · next source hsource =>
    cases h
    exact Option.bind_eq_some_iff.1 hsource
  · cases h

/-- Where the places of sections hold groups, and the variables that lead into the tree are those of
scalars, what is loaded is what is gathered scalar by scalar. One more variable changes no scalar but the
one that it names, and the order of the variables does not matter. A document whose sections are tables has
such a tree, and so has no file at all. -/
theorem load_gathers {path : Option String} {around : Surroundings}
    (hdocumented : Documented around.environment.toList) :
    (∀ c, load path around = .ok c → ∃ place file,
      around.files.configPath path = .ok place ∧ around.files.source place = .ok file) ∧
    ∀ place file, around.files.configPath path = .ok place → around.files.source place = .ok file →
      ((Source.tree [file]).Sectioned →
        (∀ c, load path around = .ok c ↔
          c.Gathered around.environment (Source.tree [file]) ∧ c.check = .ok ()) ∧
        (∀ (g : ScalarField) v c c', load path around = .ok c →
          load path { around with environment := around.environment.put g.variableName v } = .ok c' →
          (∀ f, f ≠ g → f.get c' = f.get c) ∧
            c'.storage.audit.operations = c.storage.audit.operations) ∧
        ∀ vars : List (String × String), vars.Perm around.environment.toList →
          read .loose (Source.tree [file, .ofVariables vars]) =
            read .loose (Source.tree [file, .ofEnvironment around.environment])) ∧
      (∀ name, place = some name → ∃ text v, around.files.content? name = some text ∧
        Toml.parse? (withoutMark text) = some v ∧
          (v.PlainKeys → v.Sectioned → v.ToldBy (Source.tree [file]))) ∧
      (place = none → (Toml.table []).ToldBy (Source.tree [file])) := by
  refine ⟨fun c => exists_source_of_load, fun place file hplace hfile =>
    ⟨fun hsections => ⟨fun c => ?_, fun g v c c' hc hc' => ?_, fun vars hvars => ?_⟩, ?_, ?_⟩⟩
  · rw [load_of_source hplace hfile]
    exact and_congr_left' (read_under_variables hsections hdocumented (.refl _))
  · have hplace' : FileTree.configPath { around with
        environment := around.environment.put g.variableName v }.files path = .ok place := hplace
    have hgathered := (read_under_variables hsections hdocumented (.refl _)).1
      ((load_of_source hplace hfile).1 hc).1
    have hgathered' := (read_under_variables hsections (hdocumented.put g v) (.refl _)).1
      ((load_of_source hplace' hfile).1 hc').1
    refine ⟨fun f hne => ?_, ?_⟩
    · rw [← Option.some_inj, ← hgathered.scalars, ← hgathered'.scalars, ScalarField.given?_put_of_ne hne]
    · rw [← Option.some_inj, ← hgathered.operations, ← hgathered'.operations]
  · exact Option.ext fun c => (read_under_variables hsections hdocumented hvars).trans
      (read_under_variables hsections hdocumented (.refl _)).symm
  · rintro name rfl
    obtain ⟨text, htext, hsource⟩ := of_source hfile
    obtain ⟨v, hv, -⟩ := ofText?_eq_some_iff.1 hsource
    exact ⟨text, v, htext, hv, toldBy_document hv hsource⟩
  · rintro rfl
    cases hfile
    exact ⟨by decide, fun f => by cases f <;> rfl, rfl⟩

/-- A file with a section for the cache. -/
def cacheText : String :=
  "[storage.cache]\nenabled = true\nttl_seconds = 60\n"

/-- A variable for the time to live changes nothing else of what that file says. -/
theorem load_gathers_of_cacheText :
    let around : Surroundings := ⟨[("scheduler.toml", cacheText)], .ofList [("HOME", "/root")]⟩
    let changed : Surroundings := { around with
      environment := around.environment.put ScalarField.ttlSeconds.variableName "5" }
    ∃ c c', load none around = .ok c ∧ load none changed = .ok c' ∧
      c.storage.cache.ttlSeconds = 60 ∧ c'.storage.cache.ttlSeconds = 5 ∧
      ∀ f : ScalarField, f ≠ .ttlSeconds → f.get c' = f.get c := by
  intro around changed
  obtain ⟨file, hsource, hsections, hread, hread'⟩ :
      ∃ file ∈ Source.ofText? (withoutMark cacheText), (Source.tree [file]).Sectioned ∧
        read .loose (Source.tree [file, .ofEnvironment around.environment]) =
          some (withCache ⟨true, 60, 10000⟩) ∧
        read .loose (Source.tree [file, .ofEnvironment changed.environment]) =
          some (withCache ⟨true, 5, 10000⟩) := by
    decide +kernel
  have hplace : around.files.configPath none = .ok (some "scheduler.toml") :=
    congrArg Except.ok (by decide +kernel)
  have hcontent : around.files.content? "scheduler.toml" = some cacheText := by decide +kernel
  have hfile : around.files.source (some "scheduler.toml") = .ok file := by
    rw [FileTree.source, hcontent, Option.bind_some, hsource]
  have hdocumented : Documented around.environment.toList := by
    intro e he hpath
    obtain rfl := List.mem_singleton.1 he
    exact absurd (by decide +kernel) hpath
  have hload : load none around = .ok (withCache ⟨true, 60, 10000⟩) :=
    (load_of_source hplace hfile).2 ⟨hread, rfl⟩
  have hload' : load none changed = .ok (withCache ⟨true, 5, 10000⟩) :=
    (@load_of_source file none changed _ hplace hfile _).2 ⟨hread', rfl⟩
  obtain ⟨-, hgathers⟩ := @load_gathers none around hdocumented
  obtain ⟨-, hother, -⟩ := (hgathers _ file hplace hfile).1 hsections
  exact ⟨_, _, hload, hload', rfl, rfl, (hother .ttlSeconds "5" _ _ hload hload').1⟩

end AppConfig

end ClusterReads
