import ClusterReads.Config.Load
import ClusterReads.Config.Toml
import ClusterReads.Proofs.Config.Reader
import ClusterReads.Proofs.Config.Setting

/-!
# Loading and strict reading

A configuration that is read strictly from a text is loaded from a file of that text, if the numbers of
the text fit the tree, no date stands in the place of a record, and no name is a path into a field of the
configuration. Where a number or a date stands in the way, loading fails; it does not come to another
configuration.
-/
namespace ClusterReads

/-! ## Strict and loose types -/

/-- Whether a value is a date for the tree. -/
def Toml.isDate : Toml → Bool
  | .moment _ => true
  | .table entries => (date? entries).isSome
  | _ => false

/-- Strict types, and no record in a date. -/
def ConfigReader.undated : ConfigReader Toml :=
  { ConfigReader.toml with fields := fun names v => if v.isDate then none else tomlFields names v }

theorem forall₂_getElem? {α β : Type} {Q : α → β → Prop} {as : List α} {bs : List β}
    (h : List.Forall₂ Q as bs) (i : Nat) : Option.Rel Q as[i]? bs[i]? := by
  induction h generalizing i with
  | nil => exact .none
  | cons hhead _ ih =>
    cases i with
    | zero => exact .some hhead
    | succ i => exact ih i

theorem forall₂_map {ι α β : Type} {Q : α → β → Prop} {l : List ι} {f : ι → α} {g : ι → β}
    (h : ∀ i ∈ l, Q (f i) (g i)) : List.Forall₂ Q (l.map f) (l.map g) := by
  rwa [List.forall₂_map_left_iff, List.forall₂_map_right_iff, List.forall₂_same]

theorem forall₂_mapIdx {α β : Type} {Q : α → β → Prop} {names : List String} {f : Nat → α}
    {g : Nat → β} (h : ∀ i, Q (f i) (g i)) :
    List.Forall₂ Q (names.mapIdx fun i _ => f i) (names.mapIdx fun i _ => g i) := by
  rw [List.mapIdx_eq_zipIdx_map, List.mapIdx_eq_zipIdx_map]
  exact forall₂_map fun e _ => h e.2

theorem undated_fields_of_date (names : List String) {entries : List (String × Toml)} {v : Toml}
    (hdate : date? entries = some v) : ConfigReader.undated.fields names (.table entries) = none :=
  if_pos (by rw [Toml.isDate, hdate, Option.isSome_some])

/-- A table that is no date has the fields that its group has. -/
theorem inStep_tableFields (names : List String) {entries : List (String × Toml)}
    {members : List (String × Setting)} (hdate : date? entries = none)
    (hfields : ∀ name ∈ names, Option.Rel (fun v s => Setting.ofToml? v = some s)
      (Toml.find? entries name) (Setting.member? name members)) :
    InStep (List.Forall₂ (Option.Rel fun v s => Setting.ofToml? v = some s))
      (ConfigReader.toml.fields names (.table entries))
      (ConfigReader.undated.fields names (.table entries))
      (ConfigReader.loose.fields names (.group members)) := by
  intro fields hstrict
  have hnarrow : ConfigReader.undated.fields names (.table entries) = some fields :=
    (if_neg (by rw [Toml.isDate, hdate]; decide)).trans hstrict
  refine .inl ⟨hnarrow, names.map fun name => Setting.member? name members, rfl, ?_⟩
  change tomlFields names (.table entries) = some fields at hstrict
  rw [tomlFields] at hstrict
  split at hstrict
  · cases hstrict
    exact forall₂_map hfields
  · cases hstrict

/-- A table of one entry says a group of one member, unless its value is a date. -/
theorem ofToml?_single {name : String} {v : Toml} {s : Setting} (hv : dateSetting? v = none)
    (h : Setting.ofToml? (.table [(name, v)]) = some s) : ∃ t, s = .group [(name, t)] := by
  obtain ⟨w, _, hdate, hw, -⟩ | ⟨-, members, hsettings, rfl⟩ := Setting.ofToml?_table h
  · obtain rfl : v = w := by
      unfold date? at hdate
      split at hdate
      · by_cases hname : name = dateName
        · simpa [Toml.find?, hname] using hdate
        · simp [Toml.find?, hname] at hdate
      · cases hdate
    rw [hv] at hw
    cases hw
  · cases hsettings with
    | @cons _ m _ _ hm hrest =>
      obtain ⟨key, t⟩ := m
      obtain ⟨rfl, -⟩ := hm
      cases hrest
      exact ⟨t, rfl⟩

theorem looseName_of_tomlName {v : Toml} {s : Setting} {name : String} (hname : tomlName v = some name)
    (h : Setting.ofToml? v = some s) : looseName s = some name := by
  unfold tomlName at hname
  split at hname
  · cases hname
    cases h
    rfl
  · cases hname
    obtain ⟨t, rfl⟩ := ofToml?_single rfl h
    rfl
  · cases hname
    obtain ⟨t, rfl⟩ := ofToml?_single rfl h
    rfl
  · cases hname

theorem looseWord_of_word {v : Toml} {s : Setting} {n : UInt64} (hn : ConfigReader.toml.word v = some n)
    (h : Setting.ofToml? v = some s) : looseWord s = some n := by
  cases v with
  | integer m =>
    dsimp only [ConfigReader.toml] at hn
    rw [Setting.ofToml?] at h
    split at hn
    · next hrange =>
      cases hn
      split at h
      · cases h
        exact if_pos hrange.1
      · cases h
    · cases hn
  | _ => cases hn

/-- What is read strictly from a value is read from its setting, dates apart. -/
theorem aligned_ofToml? : ConfigReader.Aligned (fun v s => Setting.ofToml? v = some s) .toml .undated
    .loose where
  bool v s h := by
    intro b hb
    cases v <;> cases hb
    cases h
    exact .inl ⟨rfl, b, rfl, rfl⟩
  word v s h := by
    intro n hn
    exact .inl ⟨hn, n, looseWord_of_word hn h, rfl⟩
  text v s h := by
    intro t ht
    cases v <;> cases ht
    cases h
    exact .inl ⟨rfl, t, rfl, rfl⟩
  name v s h := by
    intro name hname
    exact .inl ⟨hname, name, looseName_of_tomlName hname h, rfl⟩
  list v s h := by
    intro items hitems
    cases v <;> cases hitems
    obtain ⟨settings, hsettings, rfl⟩ := Option.map_eq_some_iff.1 h
    exact .inl ⟨rfl, settings, rfl, settingsOfItems?_forall₂ hsettings⟩
  fields names v s h := by
    cases v with
    | table entries =>
      obtain ⟨w, _, hdate, -, rfl⟩ | ⟨hdate, members, hsettings, rfl⟩ := Setting.ofToml?_table h
      · intro _ _
        exact .inr ⟨undated_fields_of_date names hdate, rfl⟩
      · exact inStep_tableFields names hdate fun name _ => hsettings.member? name
    | array items =>
      obtain ⟨settings, hsettings, rfl⟩ := Option.map_eq_some_iff.1 h
      intro fields hfields
      cases hfields
      exact .inl ⟨rfl, _, rfl,
        forall₂_mapIdx (forall₂_getElem? (settingsOfItems?_forall₂ hsettings))⟩
    | moment t =>
      cases h
      intro _ _
      exact .inr ⟨rfl, rfl⟩
    | _ => exact .none _ _

/-! ## Loading -/

/-- No statement starts with a byte order mark. -/
theorem statement_mark (cs : List Char) : Toml.statement ('\uFEFF' :: cs) = none := by
  rfl

/-- A mark in front of a text that can be read is passed over only once. -/
theorem statements?_withoutMark {t : String} {found : List Toml.Statement}
    (h : Toml.statements? t = some found) : Toml.statements? (withoutMark t) = some found := by
  unfold withoutMark
  split
  · next cs htext =>
    have hhead : cs.head? ≠ some '\uFEFF' := by
      intro hmark
      obtain ⟨more, rfl⟩ := List.head?_eq_some_iff.1 hmark
      have hnone : Text.Scan.repeated Toml.statement ('\uFEFF' :: more) = none := by
        rw [Text.Scan.repeated, statement_mark]
      simp [Toml.statements?, htext, hnone] at h
    rw [← h]
    unfold Toml.statements?
    rw [htext, String.toList_ofList]
    split
    · exact absurd rfl hhead
    · rfl
  · exact h

theorem parse?_withoutMark {t : String} {v : Toml} (h : Toml.parse? t = some v) :
    Toml.parse? (withoutMark t) = some v := by
  obtain ⟨found, hfound, h⟩ := Option.bind_eq_some_iff.1 h
  exact Option.bind_eq_some_iff.2 ⟨found, statements?_withoutMark hfound, h⟩

/-- A text says a source if its document says a group. -/
theorem ofText?_eq_some_iff {t : String} {members : Source} :
    Source.ofText? t = some members ↔
      ∃ v, Toml.parse? t = some v ∧ Setting.ofToml? v = some (.group members) := by
  constructor
  · intro h
    obtain ⟨v, hv, h⟩ := Option.bind_eq_some_iff.1 h
    obtain ⟨s, hs, h⟩ := Option.bind_eq_some_iff.1 h
    cases s with
    | group held =>
      cases h
      exact ⟨v, hv, hs⟩
    | _ => cases h
  · rintro ⟨v, hv, hs⟩
    refine Option.bind_eq_some_iff.2 ⟨v, hv, Option.bind_eq_some_iff.2 ⟨_, hs, rfl⟩⟩

theorem ofEnvironment_eq_nil {environment : SortedMap String String}
    (h : ∀ e ∈ environment.toList, variablePath? e.1 = none) : Source.ofEnvironment environment = [] := by
  unfold Source.ofEnvironment
  rw [List.filterMap_eq_nil_iff]
  intro e he
  exact congrArg (Option.map _) (h e he)

/-- The tree of a file has the members of the file under the names that nothing else leads into. -/
theorem tree_of_settings {entries : List (String × Toml)} {members : List (String × Setting)}
    (hnamed : (Toml.table entries).Named) (hsettings : SettingsOf entries members) {names : List String}
    (hpaths : ∀ name ∈ names, PathStep.path name = [.member name])
    (hkeys : ∀ e ∈ entries, ∀ name ∈ names,
      (PathStep.path e.1).head? = some (.member name) → e.1 = name) :
    ∃ held, Source.tree [members] = .group held ∧
      ∀ name ∈ names, Setting.member? name held = Setting.member? name members := by
  cases hnamed with
  | table hnames hentries =>
    refine Source.tree_singleton (hsettings.names ▸ hnames) ?_ hpaths ?_
    · intro m hm
      obtain ⟨e, he, hsetting⟩ := hsettings.exists_entry hm
      exact Setting.onto_missing (hentries e he) hsetting
    · intro m hm
      have hname : m.1 ∈ entries.map Prod.fst := hsettings.names ▸ List.mem_map_of_mem hm
      obtain ⟨e, he, heq⟩ := List.mem_map.1 hname
      exact heq ▸ hkeys e he

/-- The entries of a table. -/
def Toml.entries : Toml → List (String × Toml)
  | .table entries => entries
  | _ => []

namespace AppConfig

theorem path_fieldNames : ∀ name ∈ fieldNames, PathStep.path name = [.member name] := by
  decide +kernel

/-- A configuration that is read strictly from a document is read from its tree, or the document has a
date in the place of a record, and nothing is. -/
theorem read_tree {entries : List (String × Toml)} {members : List (String × Setting)} {c : AppConfig}
    (hnamed : (Toml.table entries).Named)
    (hmembers : Setting.ofToml? (.table entries) = some (.group members))
    (hkeys : ∀ e ∈ entries, ∀ name ∈ fieldNames,
      (PathStep.path e.1).head? = some (.member name) → e.1 = name)
    (hc : read .toml (.table entries) = some c) :
    (read .undated (.table entries) = some c ∧ read .loose (Source.tree [members]) = some c) ∨
      (read .undated (.table entries) = none ∧ read .loose (Source.tree [members]) = none) := by
  obtain ⟨_, heq, hdate, hsettings⟩ := Setting.ofToml?_eq_group hmembers
  cases heq
  obtain ⟨held, htree, hheld⟩ := tree_of_settings hnamed hsettings path_fieldNames hkeys
  have hfields : ∀ name ∈ fieldNames, Option.Rel (fun v s => Setting.ofToml? v = some s)
      (Toml.find? entries name) (Setting.member? name held) :=
    fun name hname => hheld name hname ▸ hsettings.member? name
  rw [htree]
  obtain ⟨hnarrow, _, hloose, rfl⟩ | hnone :=
    aligned_ofToml?.app (inStep_tableFields fieldNames hdate hfields) c hc
  · exact .inl ⟨hnarrow, hloose⟩
  · exact .inr hnone

/-- What is loaded from a file where the environment says nothing. -/
theorem load_file {path t : String} {around : Surroundings}
    (hfile : around.files.at? path = some (.file t))
    (henvironment : ∀ e ∈ around.environment.toList, variablePath? e.1 = none) :
    load (some path) around =
      match Source.ofText? (withoutMark t) with
      | none => .error .unbuildable
      | some source =>
        match read .loose (Source.tree [source]) with
        | none => .error .misshapen
        | some c => c.check.map fun () => c := by
  have hpath : around.files.configPath (some path) = .ok (some path) := by
    simp [FileTree.configPath, hfile]
  have hcontent : around.files.content? path = some t := by
    simp [FileTree.content?, hfile]
  have htree : ∀ source, Source.tree [source, []] = Source.tree [source] := by
    simp [Source.tree]
  unfold load
  rw [hpath, ofEnvironment_eq_nil henvironment]
  change (around.files.source (some path)).bind _ = _
  cases hof : Source.ofText? (withoutMark t) with
  | none =>
    have hsource : around.files.source (some path) = .error .unbuildable := by
      simp [FileTree.source, hcontent, hof]
    rw [hsource]
    rfl
  | some source =>
    have hsource : around.files.source (some path) = .ok source := by
      simp [FileTree.source, hcontent, hof]
    rw [hsource]
    dsimp only [Except.bind]
    rw [htree]
    rfl

theorem ofToml?_eq {t : String} {v : Toml} (hv : Toml.parse? t = some v) : ofToml? t = read .toml v := by
  unfold ofToml?
  rw [hv]
  rfl

/-- What is read is given if its check passes. -/
theorem checked_eq_ok_iff {read? : Option AppConfig} {e : SetupError} {c : AppConfig} :
    (match read? with
      | none => .error e
      | some d => do
        d.check
        return d) = (.ok c : Except SetupError AppConfig) ↔ read? = some c ∧ c.check = .ok () := by
  cases read? with
  | none => simp
  | some d =>
    cases hcheck : d.check with
    | error e =>
      simp only [hcheck, Option.some.injEq, Bind.bind, Except.bind, reduceCtorEq, false_iff, not_and]
      rintro rfl
      simp [hcheck]
    | ok u =>
      simp only [hcheck, Bind.bind, Except.bind, Pure.pure, Except.pure, Except.ok.injEq,
        Option.some.injEq, iff_self_and]
      rintro rfl
      exact hcheck

/-- Strict reading gives what makes sense. -/
theorem fromToml_eq_ok_iff {t : String} {c : AppConfig} :
    fromToml t = .ok c ↔ ofToml? t = some c ∧ c.check = .ok () :=
  checked_eq_ok_iff

/-- Loading agrees with strict reading exactly where a tree can hold the document and no date stands in
the place of a record; elsewhere it fails. Names of the document may be paths, but not into a field of
the configuration. -/
theorem load_eq_ok_iff {path t : String} {around : Surroundings} {v : Toml} {c : AppConfig}
    (hfile : around.files.at? path = some (.file t))
    (henvironment : ∀ e ∈ around.environment.toList, variablePath? e.1 = none)
    (hv : Toml.parse? t = some v)
    (hkeys : ∀ e ∈ v.entries, ∀ name ∈ fieldNames,
      (PathStep.path e.1).head? = some (.member name) → e.1 = name)
    (hc : fromToml t = .ok c) :
    (load (some path) around = .ok c ↔ v.Settable ∧ (read .undated v).isSome) ∧
    ∀ d, load (some path) around = .ok d → d = c := by
  obtain ⟨hread, hcheck⟩ := fromToml_eq_ok_iff.1 hc
  rw [ofToml?_eq hv] at hread
  obtain ⟨hnamed, entries, rfl⟩ := Toml.named_parse? hv
  rw [load_file hfile henvironment, ← isSome_ofToml?_iff]
  cases hsource : Source.ofText? (withoutMark t) with
  | none =>
    have hrefused : ¬((Setting.ofToml? (.table entries)).isSome ∧
        (read .undated (.table entries)).isSome) := by
      rintro ⟨hsettable, hundated⟩
      obtain ⟨s, hs⟩ := Option.isSome_iff_exists.1 hsettable
      obtain ⟨_, _, hdate, -, -⟩ | ⟨-, members, -, rfl⟩ := Setting.ofToml?_table hs
      · have hnone : read .undated (.table entries) = none := by
          unfold read
          rw [undated_fields_of_date fieldNames hdate]
          rfl
        rw [hnone] at hundated
        cases hundated
      · rw [ofText?_eq_some_iff.2 ⟨_, parse?_withoutMark hv, hs⟩] at hsource
        cases hsource
    simp [hrefused]
  | some members =>
    obtain ⟨w, hw, hsetting⟩ := ofText?_eq_some_iff.1 hsource
    obtain rfl : .table entries = w := Option.some.inj ((parse?_withoutMark hv).symm.trans hw)
    obtain ⟨hnarrow, hloose⟩ | ⟨hnarrow, hloose⟩ := read_tree hnamed hsetting hkeys hread
    · simp [hsetting, hnarrow, hloose, hcheck, Except.map]
    · simp [hnarrow, hloose]

/-- A document in which a record is an array, a name stands over an empty array, and settings that no
configuration has stand below keys of all kinds. -/
def mixedText : String :=
  "colour = 'blue'\n" ++
  "\"notes[0]\".at = 1979-05-27\n" ++
  "[storage]\n" ++
  "cache = [true, 0x3c, 5_000]\n" ++
  "audit.operations = ['save_job']\n" ++
  "[observability]\n" ++
  "log_format.pretty = []\n" ++
  "weight = 9.5\n"

def mixed : AppConfig where
  storage := { (default : StorageConfig) with
    cache := ⟨true, 60, 5000⟩
    audit := ⟨false, ["save_job"]⟩ }
  observability := { (default : ObservabilityConfig) with logFormat := .pretty }

/-- That document is loaded as it is read. -/
theorem load_mixedText : fromToml mixedText = .ok mixed ∧
    load (some "a.toml") ⟨[("a.toml", mixedText)], .ofList [("HOME", "/root")]⟩ = .ok mixed := by
  obtain ⟨v, hv, hkeys, hsettable, hundated, hread⟩ : ∃ v ∈ Toml.parse? mixedText,
      (∀ e ∈ v.entries, ∀ name ∈ fieldNames,
        (PathStep.path e.1).head? = some (.member name) → e.1 = name) ∧
      v.Settable ∧ (read .undated v).isSome ∧ read .toml v = some mixed := by
    decide +kernel
  have hfile : FileTree.at? [("a.toml", mixedText)] "a.toml" = some (.file mixedText) := by
    decide +kernel
  have hc : fromToml mixedText = .ok mixed :=
    fromToml_eq_ok_iff.2 ⟨(ofToml?_eq hv).trans hread, rfl⟩
  refine ⟨hc, (load_eq_ok_iff hfile ?_ hv hkeys hc).1.2 ⟨hsettable, hundated⟩⟩
  decide +kernel

/-- A document with a setting that no signed integer of 64 bits is. -/
def largeText : String :=
  "[storage.cache]\nmax_entries = 9223372036854775808\n"

/-- A document with the text of a path as the name of a setting. -/
def pathText : String :=
  "\"storage.cache.ttl_seconds\" = 9\n"

/-- The defaults but for the cache. -/
def withCache (cache : CacheConfig) : AppConfig :=
  { (default : AppConfig) with storage := { (default : StorageConfig) with cache } }

/-- The first document is read strictly and not loaded. The second one is loaded with another time to
live than is read strictly. -/
theorem load_largeText_pathText :
    (fromToml largeText = .ok (withCache ⟨false, 30, 9223372036854775808⟩) ∧
      load (some "a.toml") ⟨[("a.toml", largeText)], .empty⟩ = .error .unbuildable) ∧
    fromToml pathText = .ok (withCache ⟨false, 30, 10000⟩) ∧
      load (some "a.toml") ⟨[("a.toml", pathText)], .empty⟩ = .ok (withCache ⟨false, 9, 10000⟩) := by
  have hempty : ∀ e ∈ (Keyed.empty : SortedMap String String).toList, variablePath? e.1 = none := by
    decide
  refine ⟨⟨fromToml_eq_ok_iff.2 ⟨by decide +kernel, rfl⟩, ?_⟩,
    fromToml_eq_ok_iff.2 ⟨by decide +kernel, rfl⟩, ?_⟩
  · have hsource : Source.ofText? (withoutMark largeText) = none := by
      rw [← Option.isNone_iff_eq_none]
      decide +kernel
    rw [@load_file "a.toml" largeText _ (by decide +kernel) hempty, hsource]
  · have hread : ((Source.ofText? (withoutMark pathText)).bind fun source =>
        read .loose (Source.tree [source])) = some (withCache ⟨false, 9, 10000⟩) := by
      decide +kernel
    obtain ⟨source, hsource, hread⟩ := Option.bind_eq_some_iff.1 hread
    rw [@load_file "a.toml" pathText _ (by decide +kernel) hempty, hsource]
    dsimp only
    rw [hread]
    rfl

end AppConfig
end ClusterReads
