import ClusterReads.Assembly
import ClusterReads.Proofs.Composition
import ClusterReads.Proofs.Layer.Timely

/-!
# Which configurations make a stack

What a configuration has to satisfy is checked in parts and on several ways. Main statement: over any
backend, a stack is assembled from exactly the configurations that are acceptable, the backend is left
alone, the stack consists of the layers that are switched on, and no call of any run through it makes the
cache form a moment beyond the end of the clock.
-/
namespace ClusterReads

variable {σ α : Type}

/-- What a configuration has to satisfy; layers that are switched off are free. -/
structure AppConfig.Acceptable (c : AppConfig) : Prop where
  cache : c.storage.cache.enabled = true → 1 ≤ c.storage.cache.ttlSeconds ∧
    c.storage.cache.ttlSeconds ≤ 86400 ∧ 1 ≤ c.storage.cache.maxEntries
  instrumentation : c.storage.instrumentation.enabled = true →
    1 ≤ c.storage.instrumentation.slowThresholdMs
  audit : ∀ name ∈ c.storage.audit.operations, ∃ o : Operation, o.name = name
  level : Text.lowercase c.observability.logLevel ∈ ["trace", "debug", "info", "warn", "error"]

/-- The kinds of layers that are switched on, innermost first. -/
def StorageConfig.enabledKinds (c : StorageConfig) : List String :=
  [("validation", c.validation.enabled), ("caching", c.cache.enabled), ("audit", c.audit.enabled),
    ("instrumentation", c.instrumentation.enabled)].filter Prod.snd |>.map Prod.fst

/-! ## Checks -/

namespace Checked

theorem require_eq_ok_iff {ok : Bool} {detail : String} : require ok detail = .ok () ↔ ok = true := by
  cases ok <;> simp [require]

theorem positive_eq_ok_iff {value : UInt64} {field : String} :
    positive value field = .ok () ↔ 1 ≤ value := by
  rw [positive, require_eq_ok_iff, bne_iff_ne, ne_eq, ← UInt64.toNat_inj, UInt64.le_iff_toNat_le,
    UInt64.toNat_zero, UInt64.toNat_one]
  omega

theorem inRange_eq_ok_iff {value low high : UInt64} {field : String} :
    inRange value low high field = .ok () ↔ low ≤ value ∧ value ≤ high := by
  simp [inRange, require_eq_ok_iff]

theorem all_eq_ok_iff {checks : List Checked} :
    all checks = .ok () ↔ ∀ check ∈ checks, check = .ok () := by
  induction checks with
  | nil => simp [all]
  | cons check rest ih =>
    rw [List.forall_mem_cons]
    cases check with
    | error e => simp [all]
    | ok => simp [all, ih]

end Checked

open Checked

theorem CacheConfig.check_eq_ok_iff {c : CacheConfig} : c.check = .ok () ↔
    (c.enabled = true → 1 ≤ c.ttlSeconds ∧ c.ttlSeconds ≤ 86400 ∧ 1 ≤ c.maxEntries) := by
  unfold check
  cases c.enabled with
  | false => simp
  | true =>
    simp [all_eq_ok_iff, inRange_eq_ok_iff, positive_eq_ok_iff, and_assoc]

theorem InstrumentationConfig.check_eq_ok_iff {c : InstrumentationConfig} : c.check = .ok () ↔
    (c.enabled = true → 1 ≤ c.slowThresholdMs) := by
  unfold check
  cases c.enabled with
  | false => simp
  | true => simp [positive_eq_ok_iff]

theorem ObservabilityConfig.check_eq_ok_iff {c : ObservabilityConfig} : c.check = .ok () ↔
    Text.lowercase c.logLevel ∈ levels := by
  rw [check, oneOf, require_eq_ok_iff, List.contains_iff_mem]

namespace AuditConfig

variable {c : AuditConfig}

theorem operation_eq_ok_iff {name : String} {o : Operation} :
    AuditConfig.operation name = .ok o ↔ o.name = name := by
  unfold AuditConfig.operation Operation.parse
  constructor
  · intro h
    cases hname : (Spelled.ofName? name : Option Operation) with
    | none => simp [hname, Except.mapError] at h
    | some o' =>
      rw [hname] at h
      cases h
      exact Spelled.name_of_ofName? hname
  · rintro rfl
    rw [Operation.name, Spelled.ofName?_name]
    rfl

/-- Names are read in their order, all of them or none. -/
theorem mapM_operation_eq_ok_iff {names : List String} {operations : List Operation} :
    names.mapM AuditConfig.operation = .ok operations ↔ operations.map Operation.name = names := by
  induction names generalizing operations with
  | nil => simp [pure, Except.pure, eq_comm]
  | cons name names ih =>
    rw [List.mapM_cons]
    constructor
    · intro h
      cases hfirst : AuditConfig.operation name with
      | error e => simp [hfirst, bind, Except.bind] at h
      | ok o =>
        cases hrest : names.mapM AuditConfig.operation with
        | error e => simp [hfirst, hrest, bind, Except.bind] at h
        | ok rest =>
          rw [hfirst, hrest] at h
          cases h
          rw [List.map_cons, operation_eq_ok_iff.1 hfirst, ih.1 hrest]
    · intro h
      obtain ⟨o, rest, rfl, ho, hrest⟩ := List.map_eq_cons_iff.1 h
      rw [operation_eq_ok_iff.2 ho, ih.2 hrest]
      rfl

theorem audited_eq_ok_iff {audited : SortedSet Operation} : c.audited = .ok audited ↔
    (c.operations = [] ∧ audited = .ofList Operation.all) ∨
      (c.operations ≠ [] ∧ ∃ operations, operations.map Operation.name = c.operations ∧
        audited = .ofList operations) := by
  unfold AuditConfig.audited
  by_cases hnone : c.operations = []
  · simp [hnone, eq_comm]
  · rw [if_neg (by rwa [List.isEmpty_iff])]
    simp only [hnone, false_and, ne_eq, not_false_eq_true, true_and, false_or,
      ← mapM_operation_eq_ok_iff]
    cases c.operations.mapM AuditConfig.operation with
    | error e => simp [Except.map]
    | ok operations => simp [Except.map, eq_comm]

theorem exists_audited_iff : (∃ audited, c.audited = .ok audited) ↔
    ∀ name ∈ c.operations, ∃ o : Operation, o.name = name := by
  simp only [audited_eq_ok_iff]
  constructor
  · rintro ⟨audited, ⟨hnone, -⟩ | ⟨-, operations, hnames, -⟩⟩ name hname
    · rw [hnone] at hname
      cases hname
    · rw [← hnames] at hname
      obtain ⟨o, -, ho⟩ := List.mem_map.1 hname
      exact ⟨o, ho⟩
  · intro h
    by_cases hnone : c.operations = []
    · exact ⟨_, .inl ⟨hnone, rfl⟩⟩
    · choose! operation hoperation using h
      refine ⟨_, .inr ⟨hnone, c.operations.map operation, ?_, rfl⟩⟩
      rw [List.map_map]
      exact (List.map_congr_left hoperation).trans (List.map_id _)

/-- The operations that are named are audited, or all if none is named. -/
theorem mem_audited {audited : SortedSet Operation} (h : c.audited = .ok audited) (o : Operation) :
    o ∈ audited.toList ↔ c.operations = [] ∨ o.name ∈ c.operations := by
  rcases audited_eq_ok_iff.1 h with ⟨hnone, rfl⟩ | ⟨hsome, operations, hnames, rfl⟩
  · rw [SortedSet.mem_ofList]
    exact ⟨fun _ => .inl hnone, fun _ => Spelled.mem_all o⟩
  · rw [SortedSet.mem_ofList, or_iff_right hsome, ← hnames, List.mem_map]
    constructor
    · exact fun ho => ⟨o, ho, rfl⟩
    · rintro ⟨o', ho', hname⟩
      rwa [← Spelled.name_injective o' o hname]

/-- Names of operations are not blank. -/
theorem check_of_named (h : ∀ name ∈ c.operations, ∃ o : Operation, o.name = name) :
    c.check = .ok () := by
  rw [check, all_eq_ok_iff, List.forall_mem_map]
  intro name hname
  obtain ⟨o, rfl⟩ := h name hname
  rw [notEmpty, require_eq_ok_iff]
  cases o <;> decide

end AuditConfig

/-! ## Assembling -/

namespace StorageConfig

variable {c : StorageConfig} {options : LayerOptions} {audited : SortedSet Operation}

theorem check_eq_ok_iff : c.check = .ok () ↔
    c.cache.check = .ok () ∧ c.instrumentation.check = .ok () ∧ c.audit.check = .ok () := by
  simp [check, all_eq_ok_iff]

theorem exists_layers_iff : (∃ layers, c.layers options = .ok layers) ↔ c.cache.check = .ok () ∧
    c.instrumentation.check = .ok () ∧ ∀ name ∈ c.audit.operations, ∃ o : Operation, o.name = name := by
  simp only [layers_eq_ok_iff, check_eq_ok_iff]
  constructor
  · rintro ⟨layers, ⟨hcache, hinstrumentation, -⟩, audited, haudited, -⟩
    exact ⟨hcache, hinstrumentation, AuditConfig.exists_audited_iff.1 ⟨audited, haudited⟩⟩
  · rintro ⟨hcache, hinstrumentation, hnames⟩
    obtain ⟨audited, haudited⟩ := AuditConfig.exists_audited_iff.2 hnames
    exact ⟨_, ⟨hcache, hinstrumentation, AuditConfig.check_of_named hnames⟩, audited, haudited, rfl⟩

theorem kinds_layersAuditing : Layers.kinds (c.layersAuditing options audited) = c.enabledKinds := by
  unfold layersAuditing Layer.when enabledKinds
  cases c.instrumentation.enabled <;> cases c.audit.enabled <;> cases c.cache.enabled <;>
    cases c.validation.enabled <;> rfl

theorem audited?_layersAuditing : Layers.audited? (c.layersAuditing options audited) =
    if c.audit.enabled then some audited else none := by
  unfold layersAuditing Layer.when
  cases c.instrumentation.enabled <;> cases c.audit.enabled <;> cases c.cache.enabled <;>
    cases c.validation.enabled <;> rfl

theorem enabledKinds_nodup (c : StorageConfig) : c.enabledKinds.Nodup :=
  (List.Sublist.map _ List.filter_sublist).nodup (by simp)

end StorageConfig

namespace Layers

theorem mem_spans {layers : List Layer} {home : CacheHome} {ttl : Nat}
    (h : .caching home ttl ∈ layers) : ttl ∈ spans layers := by
  induction layers with
  | nil => cases h
  | cons l rest ih =>
    cases l with
    | caching home' ttl' =>
      rcases List.mem_cons.1 h with h | h
      · cases h
        exact List.mem_cons_self
      · exact List.mem_cons_of_mem _ (ih h)
    | validation | audit | instrumentation => exact ih (by simpa using h)

theorem mem_kinds_cons {kind : String} {l : Layer} {rest : List Layer} :
    kind ∈ kinds (l :: rest) ↔ kind = l.kind ∨ kind ∈ kinds rest := by
  simp [kinds, or_comm, eq_comm]

/-- There is a caching layer to act on if it is one of the kinds. -/
theorem onCaching?_isSome_iff (x : (home : CacheHome) → Act (CachingState home.State) α)
    (layers : List Layer) :
    (onCaching? (σ := σ) x layers).isSome = true ↔ "caching" ∈ kinds layers := by
  induction layers with
  | nil => simp [onCaching?, kinds]
  | cons l rest ih =>
    rw [mem_kinds_cons, ← ih]
    cases l with
    | caching home ttl => exact iff_of_true rfl (.inl rfl)
    | validation | audit | instrumentation =>
      rw [or_iff_right (by simp [Layer.kind])]
      exact iff_of_eq (congrArg (· = true) Option.isSome_map)

theorem onInstrumentation?_isSome_iff (x : Act InstrumentationState α) (layers : List Layer) :
    (onInstrumentation? (σ := σ) x layers).isSome = true ↔ "instrumentation" ∈ kinds layers := by
  induction layers with
  | nil => simp [onInstrumentation?, kinds]
  | cons l rest ih =>
    rw [mem_kinds_cons, ← ih]
    cases l with
    | instrumentation settings => exact iff_of_true rfl (.inl rfl)
    | validation | audit | caching =>
      rw [or_iff_right (by simp [Layer.kind])]
      exact iff_of_eq (congrArg (· = true) Option.isSome_map)

end Layers

/-- Assembling is a matter of the journal only. -/
theorem StorageConfig.assemble_run (c : StorageConfig) (options : LayerOptions) (env : Env) (s : σ) :
    ∃ journal, c.assemble options env s =
      ⟨.ok (c.layers options), { env with journal := journal }, s⟩ := by
  unfold assemble
  cases c.layers options with
  | error e => exact ⟨env.journal, rfl⟩
  | ok layers => exact ⟨_, rfl⟩

theorem Composer.build_provideAll {δ : Type} (d : δ) :
    (empty.provideAll d).build = .ok (.each fun _ => d) := rfl

namespace AppConfig

variable {c : AppConfig}

/-- What assembling a whole configuration comes to. -/
def layers (c : AppConfig) : Except SetupError (List Layer) := do
  c.check
  (c.storage.layers { (default : LayerOptions) with
    reportsMetrics := c.observability.metricsEnabled }).mapError .layers

theorem assemble_run (c : AppConfig) (env : Env) (s : σ) :
    ∃ journal, c.assemble env s = ⟨.ok c.layers, { env with journal := journal }, s⟩ := by
  unfold assemble layers
  cases c.check with
  | error e => exact ⟨env.journal, rfl⟩
  | ok =>
    obtain ⟨journal, hrun⟩ := c.storage.assemble_run
      { (default : LayerOptions) with reportsMetrics := c.observability.metricsEnabled } env s
    simp only [Act.bind_run, hrun]
    cases c.storage.layers _ with
    | error e => exact ⟨journal, rfl⟩
    | ok layers => exact ⟨_, rfl⟩

/-- The backend stands in for every delegate, and is not asked for anything. -/
theorem assembleOver_run {δ : Type} (c : AppConfig) (backend : δ) (env : Env) (s : σ) :
    ∃ journal, c.assembleOver backend env s =
      ⟨.ok (c.layers.map fun layers => (.each fun _ => backend, layers)),
        { env with journal := journal }, s⟩ := by
  obtain ⟨composing, hcompose⟩ := Composer.compose_run (Composer.empty.provideAll backend) env s
  obtain ⟨journal, hassemble⟩ := c.assemble_run { env with journal := composing } s
  refine ⟨journal, ?_⟩
  unfold assembleOver
  rw [Act.bind_run, hcompose, Composer.build_provideAll]
  simp only [Act.bind_run, hassemble]
  cases c.layers <;> rfl

theorem check_eq_ok_iff :
    c.check = .ok () ↔ c.storage.check = .ok () ∧ c.observability.check = .ok () := by
  unfold check
  cases c.storage.check with
  | error e => simp [Except.mapError, bind, Except.bind]
  | ok => cases c.observability.check <;> simp [Except.mapError, bind, Except.bind]

theorem layers_eq_ok_iff {layers : List Layer} : c.layers = .ok layers ↔ c.check = .ok () ∧
    c.storage.layers { (default : LayerOptions) with
      reportsMetrics := c.observability.metricsEnabled } = .ok layers := by
  unfold AppConfig.layers
  cases c.check with
  | error e => simp [bind, Except.bind]
  | ok => cases c.storage.layers _ <;> simp [Except.mapError, bind, Except.bind]

/-- Assembling succeeds for the acceptable configurations. -/
theorem exists_layers_iff : (∃ layers, c.layers = .ok layers) ↔ c.Acceptable := by
  simp only [layers_eq_ok_iff, exists_and_left, StorageConfig.exists_layers_iff, check_eq_ok_iff,
    StorageConfig.check_eq_ok_iff, CacheConfig.check_eq_ok_iff, InstrumentationConfig.check_eq_ok_iff,
    ObservabilityConfig.check_eq_ok_iff]
  constructor
  · rintro ⟨⟨-, hlevel⟩, hcache, hinstrumentation, hnames⟩
    exact ⟨hcache, hinstrumentation, hnames, hlevel⟩
  · rintro ⟨hcache, hinstrumentation, hnames, hlevel⟩
    exact ⟨⟨⟨hcache, hinstrumentation, AuditConfig.check_of_named hnames⟩, hlevel⟩, hcache,
      hinstrumentation, hnames⟩

theorem of_assembleOver {δ : Type} {backend : δ} {env : Env} {s : σ} {delegates : Delegates δ}
    {layers : List Layer}
    (h : (c.assembleOver backend env s).outcome = .ok (.ok (delegates, layers))) :
    delegates = .each (fun _ => backend) ∧ c.layers = .ok layers := by
  obtain ⟨journal, hrun⟩ := assembleOver_run c backend env s
  rw [hrun] at h
  cases hlayers : c.layers with
  | error e => simp [hlayers, Except.map] at h
  | ok layers' =>
    rw [hlayers] at h
    cases h
    exact ⟨rfl, rfl⟩

theorem exists_audited {layers : List Layer} (h : c.layers = .ok layers) :
    ∃ audited, c.storage.audit.audited = .ok audited ∧ layers = c.storage.layersAuditing
      { (default : LayerOptions) with reportsMetrics := c.observability.metricsEnabled } audited :=
  (StorageConfig.layers_eq_ok_iff.1 (layers_eq_ok_iff.1 h).2).2

/-- What is kept is kept for a day at most. -/
theorem ttl_le_day {layers : List Layer} (h : c.layers = .ok layers) {home : CacheHome} {ttl : Nat}
    (hmem : .caching home ttl ∈ layers) : ttl ≤ 86400 * billion := by
  obtain ⟨audited, -, rfl⟩ := exists_audited h
  have hspan := Layers.mem_spans hmem
  rw [StorageConfig.spans_layersAuditing] at hspan
  split at hspan
  · next henabled =>
    obtain ⟨-, hle, -⟩ := (exists_layers_iff.1 ⟨_, h⟩).cache henabled
    rw [List.mem_singleton.1 hspan]
    exact Nat.mul_le_mul_right billion (UInt64.le_iff_toNat_le.1 hle)
  · cases hspan

/-- Over any backend, which is left as it is, a stack is assembled from exactly the acceptable
configurations. It has the layers that are switched on, audits the named operations, and never asks the
clock for a moment beyond its end, if this is more than a day away. -/
theorem assembleOver_safe (c : AppConfig) (backend : Store σ) :
    (∀ env (s : σ), ∃ journal result,
      c.assembleOver backend env s = ⟨.ok result, { env with journal := journal }, s⟩ ∧
        ((∃ delegates layers, result = .ok (delegates, layers)) ↔ c.Acceptable)) ∧
    ∀ env (s : σ) delegates layers,
      (c.assembleOver backend env s).outcome = .ok (.ok (delegates, layers)) →
      (∀ capability, delegates.of capability = backend) ∧
      Layers.kinds layers = c.storage.enabledKinds ∧ (Layers.kinds layers).Nodup ∧
      (∀ (α : Type) (x : (home : CacheHome) → Act (CachingState home.State) α),
        (Layers.onCaching? (σ := σ) x layers).isSome = true ↔ "caching" ∈ Layers.kinds layers) ∧
      (∀ (α : Type) (x : Act InstrumentationState α),
        (Layers.onInstrumentation? (σ := σ) x layers).isSome = true ↔
          "instrumentation" ∈ Layers.kinds layers) ∧
      (∃ audited, c.storage.audit.audited = .ok audited ∧
        (∀ o, o ∈ audited.toList ↔
          c.storage.audit.operations = [] ∨ o.name ∈ c.storage.audit.operations) ∧
        Layers.audited? layers = if c.storage.audit.enabled then some audited else none) ∧
      ∀ start first past later s', start.clock.Spans (86400 * billion) →
        (∀ call (env : Env) s, env.Precedes (backend call env s).env) →
        (Layers.store (Store.forwarding delegates) layers).Run Store.Meanwhile start first past later s' →
        ∀ v ∈ past, ((Layers.store (Store.forwarding delegates) layers).serve v).outcome =
          .error .instantOverflow →
          ∃ env s, (backend v.call env s).outcome = .error .instantOverflow := by
  refine ⟨fun env s => ?_, fun env s delegates layers hstack => ?_⟩
  · obtain ⟨journal, hrun⟩ := assembleOver_run c backend env s
    refine ⟨journal, _, hrun, ?_⟩
    rw [← exists_layers_iff]
    cases c.layers <;> simp [Except.map]
  · obtain ⟨rfl, hlayers⟩ := of_assembleOver hstack
    obtain ⟨audited, haudited, rfl⟩ := exists_audited hlayers
    refine ⟨Delegates.of_each _, StorageConfig.kinds_layersAuditing, ?_,
      fun α x => Layers.onCaching?_isSome_iff x _, fun α x => Layers.onInstrumentation?_isSome_iff x _,
      ⟨audited, haudited, AuditConfig.mem_audited haudited, StorageConfig.audited?_layersAuditing⟩, ?_⟩
    · rw [StorageConfig.kinds_layersAuditing]
      exact c.storage.enabledKinds_nodup
    · intro start first past later s' hspan hbackend hrun
      -- the backend may come to the end of the clock by itself, and no layer does so over it
      have hbase : (Store.forwarding (.each fun _ => backend)).Timely (86400 * billion) fun call =>
          ∃ env s, (backend call env s).outcome = .error .instantOverflow := by
        intro call env s _
        rw [Store.forwarding_of_performs _ call.performs_operation, Delegates.of_each]
        exact ⟨hbackend call env s, fun hfault => ⟨env, s, hfault⟩⟩
      have hstack := Layers.store_timely hbase fun home ttl => ttl_le_day hlayers
      exact (hstack.run hspan hrun).2

/-- A cache that keeps for a day, over a backend that fails every call: a stack is assembled, and its
first call does not come to the end of the clock. -/
theorem assembleOver_safe_of_one_day :
    let c : AppConfig := ⟨⟨⟨true, 86400, 1⟩, ⟨false, 0⟩, ⟨true, ["fetch_quota"]⟩, ⟨true⟩⟩,
      ⟨"INFO", .json, true⟩⟩
    let backend : Store Unit := .failing (.unavailable "down")
    ∃ delegates layers, (c.assembleOver backend .still ()).outcome = .ok (.ok (delegates, layers)) ∧
      Layers.kinds layers = ["validation", "caching", "audit"] ∧
      ∀ call, (Layers.store (Store.forwarding delegates) layers call .still
        (Layers.start () layers)).outcome ≠ .error .instantOverflow := by
  intro c backend
  obtain ⟨hbuilds, hstack⟩ := assembleOver_safe c backend
  have hc : c.Acceptable := {
    cache := by decide
    instrumentation := by decide
    audit := by
      intro name hname
      exact ⟨.fetchQuota, (List.mem_singleton.1 hname).symm⟩
    level := by decide }
  obtain ⟨journal, result, hrun, hiff⟩ := hbuilds .still ()
  obtain ⟨delegates, layers, rfl⟩ := hiff.2 hc
  have hbuilt := congrArg Step.outcome hrun
  obtain ⟨-, hkinds, -, -, -, -, hends⟩ := hstack .still () delegates layers hbuilt
  refine ⟨delegates, layers, hbuilt, hkinds, fun call hfault => ?_⟩
  obtain ⟨env, s, hbackend⟩ := hends .still (Layers.start () layers) [⟨call, .still, _⟩] _ _
    (Env.still_spans (by decide)) (fun _ env _ => .refl env) (Store.Run.empty.call call) _
    List.mem_cons_self hfault
  cases hbackend

end AppConfig
end ClusterReads
