import ClusterReads.Composition
import ClusterReads.Config.Check
import ClusterReads.Stack

/-!
# Assembly

From a configuration to a stack. Validation comes innermost, then caching, auditing and instrumentation;
layers that are switched off are left out.
-/
namespace ClusterReads

/-- What a configuration does not say about its layers. -/
structure LayerOptions where
  reportsMetrics : Bool
  /-- The cache of the caching layer, if not one of its own. -/
  cache : Option CacheHome
  sink : Auditing.Sink
  deriving DecidableEq, Repr

instance : Inhabited LayerOptions := ⟨⟨true, none, .journal⟩⟩

/-- The operation of a name in a configuration. -/
def AuditConfig.operation (name : String) : Except ConfigError Operation :=
  (Operation.parse name).mapError fun e => .validation ("storage.audit.operations: " ++ e)

/-- The operations to audit: those named, or all. -/
def AuditConfig.audited (c : AuditConfig) : Except ConfigError (SortedSet Operation) :=
  if c.operations.isEmpty then .ok (.ofList Operation.all)
  else (c.operations.mapM AuditConfig.operation).map .ofList

/-- A layer, if it is switched on. -/
def Layer.when (enabled : Bool) (l : Layer) : List Layer :=
  if enabled then [l] else []

/-- The layers of a configuration that audits the given operations, outermost first. -/
def StorageConfig.layersAuditing (c : StorageConfig) (options : LayerOptions)
    (audited : SortedSet Operation) : List Layer :=
  Layer.when c.instrumentation.enabled
      (.instrumentation ⟨c.instrumentation.slowThreshold, options.reportsMetrics⟩) ++
    Layer.when c.audit.enabled (.audit options.sink audited) ++
    Layer.when c.cache.enabled
      (.caching (options.cache.getD (.own c.cache.maxEntries.toNat)) c.cache.ttl) ++
    Layer.when c.validation.enabled .validation

/-- The layers of a configuration, outermost first. -/
def StorageConfig.layers (c : StorageConfig) (options : LayerOptions) :
    Except ConfigError (List Layer) := do
  c.check
  return c.layersAuditing options (← c.audit.audited)

variable {σ : Type}

/-- The layers of a configuration, noted in the journal. -/
def StorageConfig.assemble (c : StorageConfig) (options : LayerOptions) :
    Act σ (Except ConfigError (List Layer)) :=
  match c.layers options with
  | .error e => return .error e
  | .ok layers => do
    Act.log .info .assembly
      ("Storage facade built with layers: " ++ Text.quotedList (Layers.kinds layers))
    return .ok layers

/-- The layers of a whole configuration, over a store that is composed already. -/
def AppConfig.assemble (c : AppConfig) : Act σ (Except SetupError (List Layer)) :=
  match c.check with
  | .error e => return .error e
  | .ok () => do
    let options : LayerOptions :=
      { (default : LayerOptions) with reportsMetrics := c.observability.metricsEnabled }
    match ← c.storage.assemble options with
    | .error e => return .error (.layers e)
    | .ok layers =>
      Act.log .info .bootstrap ("存储层初始化完成，装饰器: " ++ Text.quotedList (Layers.kinds layers))
      return .ok layers

/-- The layers of a whole configuration, over a backend that first stands in for every delegate. -/
def AppConfig.assembleOver {δ : Type} (c : AppConfig) (backend : δ) :
    Act σ (Except SetupError (Delegates δ × List Layer)) := do
  match ← (Composer.empty.provideAll backend).compose with
  | .error e => return .error (.composition e)
  | .ok delegates =>
    match ← c.assemble with
    | .error e => return .error e
    | .ok layers => return .ok (delegates, layers)

end ClusterReads
