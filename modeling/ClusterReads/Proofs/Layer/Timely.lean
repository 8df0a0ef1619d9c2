import ClusterReads.Proofs.Layer.Transparency
import ClusterReads.Proofs.Run

/-!
# The end of the clock

Writing to a cache forms a moment in the future, which the clock may not reach. Main statement: if the
clock spans what the caching layers of a stack are told, then whatever happens between the calls of a run,
a call ends at the end of the clock only where the base does so itself.
-/
namespace ClusterReads

open Act

variable {σ ρ κ α β : Type} {span : Nat} {own : Prop}

/-- Where the clock spans so much, the action stays on this clock, and comes to its end only if `own`. -/
def Act.Timely (span : Nat) (own : Prop) (x : Act σ α) : Prop :=
  ∀ env s, env.clock.Spans span →
    env.Precedes (x env s).env ∧ ((x env s).outcome = .error .instantOverflow → own)

/-- All calls are timely. -/
def Store.Timely (span : Nat) (own : Call → Prop) (store : Store σ) : Prop :=
  ∀ c, (store c).Timely span (own c)

/-! ## Actions -/

namespace Act.Timely

/-- Surroundings are left at some later point of the clock, and with a value. -/
theorem of_ok {x : Act σ α}
    (h : ∀ env s, env.Precedes (x env s).env ∧ ∃ a, (x env s).outcome = .ok a) :
    x.Timely span own := by
  intro env s _
  obtain ⟨hlater, a, ha⟩ := h env s
  refine ⟨hlater, fun hfault => ?_⟩
  rw [ha] at hfault
  cases hfault

theorem pure (a : α) : (Pure.pure a : Act σ α).Timely span own :=
  of_ok fun env _ => ⟨.refl env, a, rfl⟩

theorem modify (f : σ → σ) : (Act.modify f).Timely span own :=
  of_ok fun env _ => ⟨.refl env, (), rfl⟩

theorem log (level : LogLevel) (source : LogSource) (message : String)
    (fields : List (String × LogValue)) :
    (Act.log level source message fields : Act σ Unit).Timely span own :=
  of_ok fun _ _ => ⟨.of_clock_eq rfl, (), rfl⟩

theorem bind {x : Act σ α} {f : α → Act σ β} (hx : x.Timely span own)
    (hf : ∀ a, (f a).Timely span own) : (x >>= f).Timely span own := by
  intro env s hspan
  have hfirst := hx env s hspan
  rw [Act.bind_run]
  rcases hrun : x env s with ⟨fault | a, later, s'⟩ <;> rw [hrun] at hfirst
  · exact ⟨hfirst.1, fun hfault => hfirst.2 (by cases hfault; rfl)⟩
  · have hsecond := hf a later s' (hfirst.1.spans hspan)
    exact ⟨hfirst.1.trans hsecond.1, hsecond.2⟩

theorem onFst {x : Act σ α} (hx : x.Timely span own) :
    (x.onFst : Act (σ × ρ) α).Timely span own :=
  fun env s => hx env s.1

theorem onSnd {x : Act ρ α} (hx : x.Timely span own) :
    (x.onSnd : Act (σ × ρ) α).Timely span own :=
  fun env s => hx env s.2

theorem onShared {x : Act CacheTable α} (hx : x.Timely span own) :
    (x.onShared : Act σ α).Timely span own := by
  intro env s hspan
  obtain ⟨hlater, hend⟩ := hx env env.cache hspan
  exact ⟨hlater.trans (.of_clock_eq rfl), hend⟩

theorem within (name : String) {x : Act σ α} (hx : x.Timely span own) :
    (x.within name).Timely span own := by
  intro env s hspan
  have hinside : env.Precedes { env with journal := env.journal.enter name } := .of_clock_eq rfl
  obtain ⟨hlater, hend⟩ := hx _ s (hinside.spans hspan)
  exact ⟨(hinside.trans hlater).trans (.of_clock_eq rfl), hend⟩

end Act.Timely

/-! ## Cache services -/

/-- Reading and writing are timely, for texts that last as long as the clock spans at most. -/
structure CacheService.Timely (span : Nat) (service : CacheService κ) : Prop where
  get : ∀ key, (service.get key).Timely span False
  set : ∀ key value ttl, ttl ≤ span → (service.set key value ttl).Timely span False

namespace CacheService

theorem table_timely : table.Timely span where
  get key := .of_ok fun env t => by
    rw [table_get_run]
    exact ⟨.of_tick rfl, _, rfl⟩
  set key value ttl httl env t hspan := by
    obtain ⟨journal, hset⟩ := table_set_run key value ttl env t
    -- the moment of expiry is formed from one reading of the clock
    have hrange : env.clock.reading + ttl < Clock.limit :=
      Nat.lt_of_le_of_lt (Nat.add_le_add_left httl _) (hspan env.clock.taken)
    rw [hset, if_pos hrange]
    exact ⟨.of_tick rfl, nofun⟩

theorem shared_timely : (shared : CacheService κ).Timely span where
  get key := (table_timely.get key).onShared
  set key value ttl httl := (table_timely.set key value ttl httl).onShared

theorem Timely.broken {service : CacheService κ} (h : service.Timely span) (methods : List Method) :
    (CacheService.broken methods service).Timely span where
  get key := by
    dsimp only [CacheService.broken]
    split
    · exact .pure _
    · exact h.get key
  set key value ttl httl := by
    dsimp only [CacheService.broken]
    split
    · exact .pure _
    · exact h.set key value ttl httl

end CacheService

theorem CacheHome.service_timely (home : CacheHome) : home.service.Timely span := by
  cases home with
  | own capacity => exact CacheService.table_timely
  | shared methods => exact CacheService.shared_timely.broken methods

/-! ## Layers -/

section Layers

variable {own : Call → Prop} {inner : Store ρ}

theorem Store.Timely.onSnd (h : inner.Timely span own) :
    (Store.onSnd inner : Store (σ × ρ)).Timely span own :=
  fun c => (h c).onSnd

theorem Validation.layer_timely (h : inner.Timely span own) :
    (Validation.layer inner).Timely span own := by
  intro c
  unfold Validation.layer
  cases c.flaw? with
  | none => exact h c
  | some flaw => exact (Act.Timely.log _ _ _ _).bind fun _ => .pure _

theorem Auditing.layer_timely (h : inner.Timely span own) (sink : Sink)
    (operations : SortedSet Operation) : (layer sink operations inner).Timely span own := by
  intro c env s hspan
  obtain ⟨env', hrun, hclock, -⟩ := @layer_run ρ inner sink operations c env s
  obtain ⟨hlater, hend⟩ := h c env s hspan
  rw [hrun]
  exact ⟨hlater.trans (.of_clock_eq hclock), hend⟩

theorem Instrumentation.layer_timely (h : inner.Timely span own) (settings : Settings) :
    (layer settings inner).Timely span own := by
  intro c env s hspan
  obtain ⟨env₁, hstart, -, env', kept, hrun, hstop, -⟩ :=
    @layer_run ρ inner settings c env s
  obtain ⟨hlater, hend⟩ := h c env₁ s.2 (hstart.spans hspan)
  rw [hrun]
  exact ⟨hstart.trans (hlater.trans hstop), hend⟩

namespace Caching

variable {service : CacheService κ}

theorem useCache_timely {own : Prop} {x : Act κ α} (hx : x.Timely span False) :
    (useCache x).Timely span own := by
  intro env s hspan
  obtain ⟨hlater, hend⟩ := hx env s.cache hspan
  exact ⟨hlater, fun hfault => (hend hfault).elim⟩

theorem noteFailure_timely {own : Prop} (what key : String) (e : StoreError) :
    (noteFailure what key e : Act (CachingState κ) Unit).Timely span own :=
  .bind (.modify _) fun _ => .log _ _ _ _

theorem look_timely {own : Prop} (hservice : service.Timely span) (slot : CacheSlot α) :
    (look service slot).Timely span own := by
  have hget : (service.getAs slot.decode slot.key).Timely span False := by
    refine (hservice.get slot.key).bind fun result => ?_
    rcases result with e | _ | text
    · exact .pure _
    · exact .pure _
    · cases hdecode : slot.decode text <;> simp only [hdecode] <;> exact .pure _
  refine (useCache_timely hget).bind fun result => ?_
  rcases result with e | _ | a
  · exact (noteFailure_timely _ _ e).bind fun _ => .pure _
  · exact .bind (.log _ _ _ _) fun _ => .pure _
  · exact .bind (.log _ _ _ _) fun _ => .pure _

theorem keep_timely {own : Prop} (hservice : service.Timely span) {ttl : Nat} (httl : ttl ≤ span)
    (slot : CacheSlot α) (result : StoreResult α) :
    (keep service ttl slot result).Timely span own := by
  cases result with
  | error e => exact .pure _
  | ok a =>
    by_cases hkeeps : slot.keeps a
    · rw [keep, if_pos hkeeps]
      refine (useCache_timely (hservice.set _ _ ttl httl)).bind fun written => ?_
      cases written with
      | ok => exact .pure _
      | error e => exact noteFailure_timely _ _ e
    · rw [keep, if_neg hkeeps]
      exact .pure _

/-- A caching layer comes to the end of the clock only where the store under it does. -/
theorem layer_timely (hservice : service.Timely span) {ttl : Nat} (httl : ttl ≤ span)
    (h : inner.Timely span own) : (layer service ttl inner).Timely span own := by
  intro c
  unfold layer
  cases hslot : c.slot? with
  | none => exact (h c).onSnd
  | some slot =>
    refine .within _ ((look_timely hservice slot).onFst.bind fun found => ?_)
    cases found with
    | some a => exact .pure _
    | none =>
      exact (h c).onSnd.bind fun result =>
        (keep_timely hservice httl slot result).onFst.bind fun _ => .pure _

end Caching

end Layers

/-! ## Stacks -/

namespace Layers

variable {own : Call → Prop} {base : Store σ}

/-- Every layer is timely over timely ones; the induction is on the layers, from the base up. -/
theorem store_timely (hbase : base.Timely span own) {layers : List Layer}
    (hspans : ∀ home ttl, .caching home ttl ∈ layers → ttl ≤ span) :
    (store base layers).Timely span own := by
  induction layers with
  | nil => exact hbase
  | cons l rest ih =>
    have hrest := ih fun home ttl hmem => hspans home ttl (List.mem_cons_of_mem l hmem)
    cases l with
    | validation => exact (Validation.layer_timely hrest).onSnd
    | caching home ttl =>
      exact Caching.layer_timely home.service_timely (hspans home ttl List.mem_cons_self) hrest
    | audit sink operations => exact (Auditing.layer_timely hrest sink operations).onSnd
    | instrumentation settings => exact Instrumentation.layer_timely hrest settings

end Layers

/-- Anything may happen to a state while the clock goes on. -/
abbrev Store.Meanwhile : Store.Others σ :=
  fun env _ later _ => env.Precedes later

/-- In a run of a timely store, each call comes to the end of the clock only if it may. -/
theorem Store.Timely.run {own : Call → Prop} {store : Store σ} (h : store.Timely span own)
    {start env : Env} {first s : σ} {past : List (Visit σ)} (hspan : start.clock.Spans span)
    (hrun : store.Run Meanwhile start first past env s) : start.Precedes env ∧
      ∀ v ∈ past, (store.serve v).outcome = .error .instantOverflow → own v.call := by
  induction hrun with
  | empty => exact ⟨.refl start, by simp⟩
  | call c _ ih =>
    obtain ⟨hlater, hpast⟩ := ih
    obtain ⟨hnext, hend⟩ := h c _ _ (hlater.spans hspan)
    refine ⟨hlater.trans hnext, ?_⟩
    rw [List.forall_mem_append, List.forall_mem_singleton]
    exact ⟨hpast, hend⟩
  | between _ hothers ih => exact ⟨ih.1.trans hothers, ih.2⟩

end ClusterReads
