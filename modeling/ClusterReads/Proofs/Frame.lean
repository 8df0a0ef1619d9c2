import ClusterReads.Layer.Caching
import ClusterReads.Layer.Validation

/-!
# What actions leave alone

An action keeps a part of its surroundings if that part is the same however the action ends. Main
statements: validation and a caching layer keep whatever the store under them and the cache service
keep, as long as it is no matter of time or journal.
-/
namespace ClusterReads

variable {σ ρ κ α β γ : Type}

/-- However the action ends, the part of the surroundings is as it was. -/
def Act.Keeps (part : Env → γ) (x : Act σ α) : Prop :=
  ∀ env s, part (x env s).env = part env

/-- However a call ends, the part of the surroundings is as it was. -/
def Store.Keeps (part : Env → γ) (store : Store σ) : Prop :=
  ∀ c, (store c).Keeps part

/-- Readings of the clock and log events do not touch the part. -/
structure Env.Apart (part : Env → γ) : Prop where
  clock : ∀ env clock, part { env with clock := clock } = part env
  journal : ∀ env journal, part { env with journal := journal } = part env

theorem Env.apart_trail : Env.Apart Env.trail :=
  ⟨fun _ _ => rfl, fun _ _ => rfl⟩

theorem Env.apart_cache : Env.Apart Env.cache :=
  ⟨fun _ _ => rfl, fun _ _ => rfl⟩

/-! ## Actions -/

namespace Act.Keeps

variable {part : Env → γ}

theorem pure (a : α) : (Pure.pure a : Act σ α).Keeps part :=
  fun _ _ => rfl

theorem bind {x : Act σ α} {f : α → Act σ β} (hx : x.Keeps part) (hf : ∀ a, (f a).Keeps part) :
    (x >>= f).Keeps part := by
  intro env s
  have hfirst := hx env s
  rw [Act.bind_run]
  rcases hrun : x env s with ⟨_ | a, later, s'⟩ <;> rw [hrun] at hfirst
  · exact hfirst
  · exact (hf a later s').trans hfirst

theorem map {x : Act σ α} (f : α → β) (hx : x.Keeps part) : (f <$> x).Keeps part := by
  intro env s
  have hfirst := hx env s
  rw [Act.map_run]
  rcases hrun : x env s with ⟨_ | a, later, s'⟩ <;> rw [hrun] at hfirst <;> exact hfirst

theorem ask : (Act.ask : Act σ Env).Keeps part :=
  fun _ _ => rfl

theorem modify (f : σ → σ) : (Act.modify f).Keeps part :=
  fun _ _ => rfl

theorem step (f : σ → α × σ) : (Act.step f).Keeps part :=
  fun _ _ => rfl

theorem attempt (e : Except Fault α) : (Act.attempt e : Act σ α).Keeps part :=
  fun _ _ => rfl

theorem onFst {x : Act σ α} (hx : x.Keeps part) : (x.onFst : Act (σ × ρ) α).Keeps part :=
  fun env s => hx env s.1

theorem onSnd {x : Act ρ α} (hx : x.Keeps part) : (x.onSnd : Act (σ × ρ) α).Keeps part :=
  fun env s => hx env s.2

theorem now (hpart : Env.Apart part) : (Act.now : Act σ Nat).Keeps part :=
  fun env _ => hpart.clock env _

theorem log (hpart : Env.Apart part) (level : LogLevel) (source : LogSource) (message : String)
    (fields : List (String × LogValue)) :
    (Act.log level source message fields : Act σ Unit).Keeps part :=
  fun env _ => hpart.journal env _

theorem within (hpart : Env.Apart part) (span : String) {x : Act σ α} (hx : x.Keeps part) :
    (x.within span).Keeps part := by
  intro env s
  have hinside := hx { env with journal := env.journal.enter span } s
  exact (hpart.journal _ _).trans (hinside.trans (hpart.journal _ _))

end Act.Keeps

/-! ## Layers -/

section Layers

open Act

variable {part : Env → γ}

theorem Store.Keeps.onSnd {store : Store ρ} (h : store.Keeps part) :
    (Store.onSnd store : Store (σ × ρ)).Keeps part :=
  fun c => (h c).onSnd

theorem Validation.layer_keeps (hpart : Env.Apart part) {inner : Store ρ} (h : inner.Keeps part) :
    (Validation.layer inner).Keeps part := by
  intro c
  unfold Validation.layer
  cases c.flaw? with
  | none => exact h c
  | some flaw => exact (Keeps.log hpart _ _ _ _).bind fun _ => Keeps.pure _

/-- What is read from a service and written to it keeps the part. -/
structure CacheService.Keeps (part : Env → γ) (service : CacheService κ) : Prop where
  get : ∀ key, (service.get key).Keeps part
  set : ∀ key value ttl, (service.set key value ttl).Keeps part

theorem CacheService.table_keeps (hpart : Env.Apart part) : CacheService.table.Keeps part where
  get key := ((Keeps.now hpart).bind fun _ => Keeps.step _).map _
  set key value ttl := by
    refine Keeps.map _ (Keeps.ask.bind fun env => (Keeps.now hpart).bind fun now =>
      (Keeps.step _).bind fun victim => ?_)
    have hlog : (CacheTable.logEviction victim).Keeps part := by
      cases victim with
      | none => exact Keeps.pure _
      | some key => exact Keeps.log hpart _ _ _ _
    exact hlog.bind fun _ => (Keeps.attempt _).bind fun _ => Keeps.modify _

namespace Caching

variable {service : CacheService κ}

theorem useCache_keeps {x : Act κ α} (hx : x.Keeps part) : (useCache x).Keeps part :=
  fun env s => hx env s.cache

theorem noteFailure_keeps (hpart : Env.Apart part) (what key : String) (e : StoreError) :
    (noteFailure what key e : Act (CachingState κ) Unit).Keeps part :=
  (Keeps.modify _).bind fun _ => Keeps.log hpart _ _ _ _

theorem getAs_keeps (hservice : service.Keeps part) (decode : String → Option α) (key : String) :
    (service.getAs decode key).Keeps part := by
  refine (hservice.get key).bind fun result => ?_
  rcases result with e | _ | text
  · exact Keeps.pure _
  · exact Keeps.pure _
  · cases h : decode text <;> simp only [h] <;> exact Keeps.pure _

theorem look_keeps (hpart : Env.Apart part) (hservice : service.Keeps part) (slot : CacheSlot α) :
    (look service slot).Keeps part := by
  refine (useCache_keeps (getAs_keeps hservice slot.decode slot.key)).bind fun result => ?_
  rcases result with e | _ | a
  · exact (noteFailure_keeps hpart _ _ e).bind fun _ => Keeps.pure _
  · exact (Keeps.log hpart _ _ _ _).bind fun _ => Keeps.pure _
  · exact (Keeps.log hpart _ _ _ _).bind fun _ => Keeps.pure _

theorem keep_keeps (hpart : Env.Apart part) (hservice : service.Keeps part) (ttl : Nat)
    (slot : CacheSlot α) (result : StoreResult α) : (keep service ttl slot result).Keeps part := by
  cases result with
  | error e => exact Keeps.pure _
  | ok a =>
    by_cases hkeeps : slot.keeps a
    · rw [keep, if_pos hkeeps]
      refine (useCache_keeps (hservice.set _ _ _)).bind fun written => ?_
      cases written with
      | ok => exact Keeps.pure _
      | error e => exact noteFailure_keeps hpart _ _ e
    · rw [keep, if_neg hkeeps]
      exact Keeps.pure _

/-- A caching layer keeps what the service and the store under it keep. -/
theorem layer_keeps (hpart : Env.Apart part) (hservice : service.Keeps part) (ttl : Nat)
    {inner : Store ρ} (h : inner.Keeps part) : (layer service ttl inner).Keeps part := by
  intro c
  unfold layer
  cases hslot : c.slot? with
  | none => exact (h c).onSnd
  | some slot =>
    refine Keeps.within hpart _ ((look_keeps hpart hservice slot).onFst.bind fun found => ?_)
    cases found with
    | some a => exact Keeps.pure _
    | none =>
      exact (h c).onSnd.bind fun result =>
        (keep_keeps hpart hservice ttl slot result).onFst.bind fun _ => Keeps.pure _

end Caching

end Layers

end ClusterReads
