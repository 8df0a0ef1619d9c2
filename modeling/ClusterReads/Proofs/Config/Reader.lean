import ClusterReads.Config.Reader
import Mathlib.Data.List.Forall2

/-!
# Readings in step

Where a strict format reads a configuration from a value, a narrower one reads the same configuration or
none, and a loose one goes with the narrower one on every value that goes with the first. Each record
follows from its fields, so that two formats have to be compared only in what they take for the parts of
a configuration.
-/
namespace ClusterReads

/-- Where a strict reading gives something, a narrow one gives the same and a loose one what goes with
it, or both give nothing. -/
def InStep {α β : Type} (Q : α → β → Prop) (strict narrow : Option α) (loose : Option β) : Prop :=
  ∀ a, strict = some a → (narrow = some a ∧ ∃ b, loose = some b ∧ Q a b) ∨ (narrow = none ∧ loose = none)

namespace InStep

variable {α β γ δ : Type} {Q : α → β → Prop} {P : γ → δ → Prop}

theorem none (narrow : Option α) (loose : Option β) : InStep Q .none narrow loose := by
  intro a h
  cases h

theorem pure {a : α} {b : β} (h : Q a b) : InStep Q (pure a) (pure a) (pure b) := by
  intro _ ha
  cases ha
  exact .inl ⟨rfl, b, rfl, h⟩

theorem refl (x : Option α) : InStep Eq x x x := by
  intro a h
  exact .inl ⟨h, a, h, rfl⟩

theorem bind {strict narrow : Option α} {loose : Option β} {f g : α → Option γ} {k : β → Option δ}
    (h : InStep Q strict narrow loose) (hrest : ∀ a b, Q a b → InStep P (f a) (g a) (k b)) :
    InStep P (strict >>= f) (narrow >>= g) (loose >>= k) := by
  intro c hc
  obtain ⟨a, ha, hfa⟩ := Option.bind_eq_some_iff.1 hc
  obtain ⟨rfl, b, rfl, hab⟩ | ⟨rfl, rfl⟩ := h a ha
  · exact hrest a b hab c hfa
  · exact .inr ⟨rfl, rfl⟩

/-- The case of readings that give the same. -/
theorem bind_eq {strict narrow loose : Option α} {f g : α → Option γ} {k : α → Option δ}
    (h : InStep Eq strict narrow loose) (hrest : ∀ a, InStep P (f a) (g a) (k a)) :
    InStep P (strict >>= f) (narrow >>= g) (loose >>= k) :=
  h.bind fun a _ heq => heq ▸ hrest a

theorem mapM {f g : α → Option γ} {k : β → Option δ} (h : ∀ a b, Q a b → InStep P (f a) (g a) (k b))
    {as : List α} {bs : List β} (hab : List.Forall₂ Q as bs) :
    InStep (List.Forall₂ P) (as.mapM f) (as.mapM g) (bs.mapM k) := by
  induction hab with
  | nil => exact .pure .nil
  | cons hhead _ ih =>
    rw [List.mapM_cons, List.mapM_cons, List.mapM_cons]
    exact (h _ _ hhead).bind fun _ _ hc => ih.bind fun _ _ hcs => .pure (.cons hc hcs)

end InStep

/-- Three formats, the first two of values `τ` and the last one of values `σ` that go with them: what they
take for any part of a configuration is in step. -/
structure ConfigReader.Aligned {τ σ : Type} (R : τ → σ → Prop) (strict narrow : ConfigReader τ)
    (loose : ConfigReader σ) : Prop where
  bool : ∀ v s, R v s → InStep Eq (strict.bool v) (narrow.bool v) (loose.bool s)
  word : ∀ v s, R v s → InStep Eq (strict.word v) (narrow.word v) (loose.word s)
  text : ∀ v s, R v s → InStep Eq (strict.text v) (narrow.text v) (loose.text s)
  name : ∀ v s, R v s → InStep Eq (strict.name v) (narrow.name v) (loose.name s)
  list : ∀ v s, R v s →
    InStep (List.Forall₂ R) (strict.list v) (narrow.list v) (loose.list s)
  fields : ∀ names v s, R v s → InStep (List.Forall₂ (Option.Rel R))
    (strict.fields names v) (narrow.fields names v) (loose.fields names s)

namespace ConfigReader.Aligned

variable {τ σ α : Type} {R : τ → σ → Prop} {strict narrow : ConfigReader τ} {loose : ConfigReader σ}

theorem setting {f g : τ → Option α} {k : σ → Option α}
    (h : ∀ v s, R v s → InStep Eq (f v) (g v) (k s)) (fallback : α) {v : Option τ}
    {s : Option σ} (hv : Option.Rel R v s) :
    InStep Eq (ConfigReader.setting f fallback v) (ConfigReader.setting g fallback v)
      (ConfigReader.setting k fallback s) := by
  cases hv with
  | none => exact .pure rfl
  | some hv => exact h _ _ hv

variable (h : ConfigReader.Aligned R strict narrow loose)
include h

theorem texts (v : τ) (s : σ) (hv : R v s) :
    InStep Eq (strict.texts v) (narrow.texts v) (loose.texts s) := by
  refine (h.list v s hv).bind fun items settings hitems => ?_
  have := InStep.mapM h.text hitems
  rwa [List.forall₂_eq_eq_eq] at this

theorem logFormat (v : τ) (s : σ) (hv : R v s) :
    InStep Eq (strict.logFormat v) (narrow.logFormat v) (loose.logFormat s) :=
  (h.name v s hv).bind_eq fun _ => .refl _

theorem cache (v : τ) (s : σ) (hv : R v s) :
    InStep Eq (CacheConfig.read strict v) (CacheConfig.read narrow v)
      (CacheConfig.read loose s) := by
  refine (h.fields CacheConfig.fieldNames v s hv).bind ?_
  rintro _ _ (_ | ⟨henabled, _ | ⟨httl, _ | ⟨hentries, _ | _⟩⟩⟩)
  case cons.cons.cons.nil =>
    exact (setting h.bool _ henabled).bind_eq fun _ => (setting h.word _ httl).bind_eq fun _ =>
      (setting h.word _ hentries).bind_eq fun _ => .pure rfl
  all_goals exact .none _ _

theorem instrumentation (v : τ) (s : σ) (hv : R v s) :
    InStep Eq (InstrumentationConfig.read strict v) (InstrumentationConfig.read narrow v)
      (InstrumentationConfig.read loose s) := by
  refine (h.fields InstrumentationConfig.fieldNames v s hv).bind ?_
  rintro _ _ (_ | ⟨henabled, _ | ⟨hthreshold, _ | _⟩⟩)
  case cons.cons.nil =>
    exact (setting h.bool _ henabled).bind_eq fun _ => (setting h.word _ hthreshold).bind_eq fun _ =>
      .pure rfl
  all_goals exact .none _ _

theorem audit (v : τ) (s : σ) (hv : R v s) :
    InStep Eq (AuditConfig.read strict v) (AuditConfig.read narrow v)
      (AuditConfig.read loose s) := by
  refine (h.fields AuditConfig.fieldNames v s hv).bind ?_
  rintro _ _ (_ | ⟨henabled, _ | ⟨hoperations, _ | _⟩⟩)
  case cons.cons.nil =>
    exact (setting h.bool _ henabled).bind_eq fun _ => (setting h.texts _ hoperations).bind_eq fun _ =>
      .pure rfl
  all_goals exact .none _ _

theorem validation (v : τ) (s : σ) (hv : R v s) :
    InStep Eq (ValidationConfig.read strict v) (ValidationConfig.read narrow v)
      (ValidationConfig.read loose s) := by
  refine (h.fields ValidationConfig.fieldNames v s hv).bind ?_
  rintro _ _ (_ | ⟨henabled, _ | _⟩)
  case cons.nil => exact (setting h.bool _ henabled).bind_eq fun _ => .pure rfl
  all_goals exact .none _ _

theorem storage (v : τ) (s : σ) (hv : R v s) :
    InStep Eq (StorageConfig.read strict v) (StorageConfig.read narrow v)
      (StorageConfig.read loose s) := by
  refine (h.fields StorageConfig.fieldNames v s hv).bind ?_
  rintro _ _ (_ | ⟨hcache, _ | ⟨hinstrumentation, _ | ⟨haudit, _ | ⟨hvalidation, _ | _⟩⟩⟩⟩)
  case cons.cons.cons.cons.nil =>
    exact (setting h.cache _ hcache).bind_eq fun _ =>
      (setting h.instrumentation _ hinstrumentation).bind_eq fun _ =>
      (setting h.audit _ haudit).bind_eq fun _ => (setting h.validation _ hvalidation).bind_eq fun _ =>
      .pure rfl
  all_goals exact .none _ _

theorem observability (v : τ) (s : σ) (hv : R v s) :
    InStep Eq (ObservabilityConfig.read strict v) (ObservabilityConfig.read narrow v)
      (ObservabilityConfig.read loose s) := by
  refine (h.fields ObservabilityConfig.fieldNames v s hv).bind ?_
  rintro _ _ (_ | ⟨hlevel, _ | ⟨hformat, _ | ⟨hmetrics, _ | _⟩⟩⟩)
  case cons.cons.cons.nil =>
    exact (setting h.text _ hlevel).bind_eq fun _ => (setting h.logFormat _ hformat).bind_eq fun _ =>
      (setting h.bool _ hmetrics).bind_eq fun _ => .pure rfl
  all_goals exact .none _ _

/-- The whole configuration is in step if its two fields are. -/
theorem app {v : τ} {s : σ} (hfields : InStep (List.Forall₂ (Option.Rel R))
      (strict.fields AppConfig.fieldNames v) (narrow.fields AppConfig.fieldNames v)
      (loose.fields AppConfig.fieldNames s)) :
    InStep Eq (AppConfig.read strict v) (AppConfig.read narrow v)
      (AppConfig.read loose s) := by
  refine hfields.bind ?_
  rintro _ _ (_ | ⟨hstorage, _ | ⟨hobservability, _ | _⟩⟩)
  case cons.cons.nil =>
    exact (setting h.storage _ hstorage).bind_eq fun _ =>
      (setting h.observability _ hobservability).bind_eq fun _ => .pure rfl
  all_goals exact .none _ _

end ConfigReader.Aligned

end ClusterReads
