import ClusterReads.Ledger
import ClusterReads.Proofs.Frame
import ClusterReads.Proofs.Run
import ClusterReads.Proofs.Layer.Transparency

/-!
# Stacks that share a cache

Validation stands inside the cache, so what a stack refuses it may still be served. Main statement: over
a shared cache, a stack with validation refuses a call with a flaw, unless the cache still holds what the
same call was given through a stack without validation.
-/
namespace ClusterReads

open CacheService (shared broken)

variable {σ ρ α : Type}

/-! ## What becomes of the shared cache -/

/-- The cache of the later surroundings holds no more than before. -/
structure Env.Sheds (env later : Env) : Prop where
  sound : env.cache.Sound → later.cache.Sound
  within : later.cache.Within env.cache

namespace Env.Sheds

theorem of_cache_eq {env later : Env} (h : later.cache = env.cache) : env.Sheds later := by
  constructor
  · rw [h]
    exact id
  · rw [h]
    exact fun _ _ hfind => hfind

end Env.Sheds

/-- What a call leaves in the shared cache was there before, or is a present answer that it gave; if
flaws are refused, it is not that of a call with a flaw. -/
structure Leaves (refuses : Bool) (c : Call) (env : Env) (step : Step σ (StoreResult c.Answer)) :
    Prop where
  sound : step.env.cache.Sound
  entries : ∀ key e, step.env.cache.find? key = some e → env.cache.find? key = some e ∨
    ((refuses = true → c.flaw? = none) ∧ ∃ slot a, c.slot? = some slot ∧ key = slot.key ∧
      e.value = slot.encode a ∧ slot.keeps a = true ∧ step.outcome = .ok (.ok a))

/-- Every call with a flaw is refused. -/
def Store.RefusesFlaws (store : Store σ) : Prop :=
  ∀ c flaw env s, c.flaw? = some flaw → (store c env s).outcome = .ok (.error flaw.error)

/-- How a store uses the shared cache. One that refuses flaws may still serve a call with a flaw what
the cache holds for it. -/
structure Store.Shares (refuses : Bool) (store : Store σ) : Prop where
  leaves : ∀ c env s, env.cache.Sound → Leaves refuses c env (store c env s)
  refused_or_served : refuses = true → ∀ c flaw env s, env.cache.Sound → c.flaw? = some flaw →
    (store c env s).outcome = .ok (.error flaw.error) ∨
      ∃ slot e a, c.slot? = some slot ∧ env.cache.find? slot.key = some e ∧
        slot.decode e.value = some a ∧ (store c env s).outcome = .ok (.ok a)

theorem Validation.layer_refusesFlaws (inner : Store ρ) :
    (Store.onSnd (Validation.layer inner) : Store (Unit × ρ)).RefusesFlaws := by
  intro c flaw env s hflaw
  rw [Store.onSnd, Validation.layer, hflaw]
  rfl

/-- A store that does not know the cache uses it in no way. -/
theorem Store.Keeps.shares {store : Store σ} (h : store.Keeps Env.cache) {refuses : Bool}
    (hrefuses : refuses = true → store.RefusesFlaws) : store.Shares refuses := by
  refine ⟨fun c env s ht => ⟨?_, fun key e hfind => Or.inl ?_⟩, fun hr c flaw env s _ hflaw => ?_⟩
  · rwa [h c env s]
  · rwa [h c env s] at hfind
  · exact Or.inl (hrefuses hr c flaw env s hflaw)

/-! ## Reads through the shared cache -/

namespace Caching

/-- A caching layer over the shared cache, with some methods out of order. -/
abbrev overShared (methods : List CacheService.Method) (ttl : Nat) (inner : Store ρ) :
    Store (CachingState Unit × ρ) :=
  layer (broken methods shared) ttl inner

variable {methods : List CacheService.Method} {ttl : Nat}

/-- A cache that can be read gives what it holds. -/
theorem look_readable (h : methods.contains .get = false) (slot : CacheSlot α) (env : Env)
    (s : CachingState Unit) : ∃ journal failures, look (broken methods shared) slot env s =
      ⟨.ok (found slot env.cache env.clock.reading),
        { env with clock := env.clock.tick
                   cache := (env.cache.get env.clock.reading slot.key).2
                   journal := journal }, ⟨(), failures⟩⟩ := by
  rw [look, Act.bind_run, useCache, CacheService.getAs, Act.bind_run]
  simp only [broken, h, Bool.false_eq_true, if_false, shared, Act.onShared,
    CacheService.table_get_run, found]
  cases env.cache.live? env.clock.reading slot.key with
  | none => exact ⟨_, _, rfl⟩
  | some text =>
    simp only [Option.bind_some]
    cases slot.decode text with
    | none => exact ⟨_, _, rfl⟩
    | some a => exact ⟨_, _, rfl⟩

/-- A cache that cannot be read is gone around. -/
theorem look_unreadable (h : methods.contains .get = true) (slot : CacheSlot α) (env : Env)
    (s : CachingState Unit) : ∃ journal failures, look (broken methods shared) slot env s =
      ⟨.ok none, { env with journal := journal }, ⟨(), failures⟩⟩ := by
  rw [look, Act.bind_run, useCache, CacheService.getAs, Act.bind_run]
  simp only [broken, h, if_true]
  exact ⟨_, _, rfl⟩

/-- A look gives what the shared cache holds, or nothing, and puts nothing into it. -/
theorem look_shared (methods : List CacheService.Method) (slot : CacheSlot α) (env : Env)
    (s : CachingState Unit) : ∃ given env' failures,
      look (broken methods shared) slot env s = ⟨.ok given, env', ⟨(), failures⟩⟩ ∧
      env.Sheds env' ∧ ∀ a, given = some a → found slot env.cache env.clock.reading = some a := by
  cases h : methods.contains .get with
  | true =>
    obtain ⟨journal, failures, hlook⟩ := look_unreadable h slot env s
    exact ⟨_, _, failures, hlook, .of_cache_eq rfl, fun a ha => by cases ha⟩
  | false =>
    obtain ⟨journal, failures, hlook⟩ := look_readable h slot env s
    refine ⟨_, _, failures, hlook, ⟨fun ht => ?_, ?_⟩, fun a ha => ha⟩
    · exact CacheTable.get_sound ht _ _
    · exact CacheTable.get_within _ _ _

/-- Writing back to a cache that can be written leaves the entry, unless the clock cannot show when it
expires. -/
theorem keep_writable (h : methods.contains .set = false) (ttl : Nat) {slot : CacheSlot α} {a : α}
    (hkeeps : slot.keeps a = true) (env : Env) (s : CachingState Unit) :
    ∃ journal, keep (broken methods shared) ttl slot (.ok a) env s =
      if env.clock.reading + ttl < Clock.limit then
        ⟨.ok (), { env with
          clock := env.clock.tick
          cache := stored env.cache env.order env.clock.reading
            (some ⟨slot.key, slot.encode a, env.clock.reading + ttl⟩)
          journal := journal }, s⟩
      else
        ⟨.error .instantOverflow, { env with
          clock := env.clock.tick
          cache := (env.cache.makeRoom env.order env.clock.reading slot.key).1
          journal := journal }, s⟩ := by
  obtain ⟨journal, hset⟩ :=
    CacheService.table_set_run slot.key (slot.encode a) ttl env env.cache
  refine ⟨journal, ?_⟩
  rw [keep, if_pos hkeeps, Act.bind_run, useCache]
  by_cases hspan : env.clock.reading + ttl < Clock.limit
  · rw [if_pos hspan] at hset ⊢
    simp only [broken, h, Bool.false_eq_true, if_false, shared, Act.onShared_run hset]
    rfl
  · rw [if_neg hspan] at hset ⊢
    simp only [broken, h, Bool.false_eq_true, if_false, shared, Act.onShared_run hset]

/-- Writing back leaves at most the entry of the result. -/
theorem keep_shared (methods : List CacheService.Method) (ttl : Nat) (slot : CacheSlot α)
    (result : StoreResult α) {env : Env} (s : CachingState Unit) (ht : env.cache.Sound) :
    (keep (broken methods shared) ttl slot result env s).env.cache.Sound ∧
    ∀ key e, (keep (broken methods shared) ttl slot result env s).env.cache.find? key = some e →
      env.cache.find? key = some e ∨ ∃ a, result = .ok a ∧ slot.keeps a = true ∧ key = slot.key ∧
        e.value = slot.encode a ∧
        (keep (broken methods shared) ttl slot result env s).outcome = .ok () := by
  cases result with
  | error e => exact ⟨ht, fun key e hfind => Or.inl hfind⟩
  | ok a =>
    by_cases hkeeps : slot.keeps a = true
    · cases h : methods.contains .set with
      | true =>
        rw [keep, if_pos hkeeps, Act.bind_run, useCache]
        simp only [broken, h, if_true]
        exact ⟨ht, fun key e hfind => Or.inl hfind⟩
      | false =>
        obtain ⟨journal, hkeep⟩ := keep_writable h ttl hkeeps env s
        rw [hkeep]
        by_cases hspan : env.clock.reading + ttl < Clock.limit
        · rw [if_pos hspan]
          dsimp only
          refine ⟨stored_sound ht _ _ _, fun key e hfind => ?_⟩
          rcases find?_stored ht hfind with ⟨hnew, hkey⟩ | hold
          · cases hnew
            exact Or.inr ⟨a, rfl, hkeeps, hkey, rfl, rfl⟩
          · exact Or.inl hold
        · rw [if_neg hspan]
          exact ⟨CacheTable.makeRoom_sound ht _ _ _, fun key e hfind =>
            Or.inl (CacheTable.makeRoom_within ht _ _ _ key e hfind)⟩
    · rw [keep, if_neg hkeeps]
      exact ⟨ht, fun key e hfind => Or.inl hfind⟩

/-- Loading and writing back leave at most the entry of the loaded answer, and pass errors on. -/
theorem load_shared (methods : List CacheService.Method) (ttl : Nat) (slot : CacheSlot α)
    {load : Act ρ (StoreResult α)} {env : Env} (s : CachingState Unit × ρ) (ht : env.cache.Sound)
    (hload : (load env s.2).env.cache = env.cache) :
    let step := (do
      let result ← Act.onSnd load
      Act.onFst (keep (broken methods shared) ttl slot result)
      return result : Act (CachingState Unit × ρ) (StoreResult α)) env s
    step.env.cache.Sound ∧
    (∀ key e, step.env.cache.find? key = some e → env.cache.find? key = some e ∨
      ∃ a, (load env s.2).outcome = .ok (.ok a) ∧ slot.keeps a = true ∧ key = slot.key ∧
        e.value = slot.encode a ∧ step.outcome = .ok (.ok a)) ∧
    ∀ e, (load env s.2).outcome = .ok (.error e) → step.outcome = .ok (.error e) := by
  intro step
  simp only [step, Act.bind_run, Act.onFst, Act.onSnd]
  rcases hrun : load env s.2 with ⟨fault | result, env', state⟩ <;> rw [hrun] at hload
  case error =>
    refine ⟨?_, fun key e hfind => Or.inl ?_, fun e he => by cases he⟩
    · rwa [← hload] at ht
    · rwa [← hload]
  case ok =>
    have ht' : env'.cache.Sound := by rwa [← hload] at ht
    obtain ⟨hsound, hentries⟩ := keep_shared methods ttl slot result s.1 ht'
    have hpassed : ∀ e, result = .error e →
        (keep (broken methods shared) ttl slot result env' s.1).outcome = .ok () := by
      rintro e rfl
      rfl
    dsimp only
    rcases hkeep : keep (broken methods shared) ttl slot result env' s.1 with
      ⟨fault | _, later, kept⟩ <;> rw [hkeep] at hsound hentries hpassed
    case error =>
      refine ⟨hsound, fun key e hfind => ?_, fun e he => ?_⟩
      · rcases hentries key e hfind with hold | ⟨a, -, -, -, -, hdone⟩
        · exact Or.inl (by rwa [← hload])
        · cases hdone
      · cases he
        cases hpassed e rfl
    case ok =>
      refine ⟨hsound, fun key e hfind => ?_, fun e he => he⟩
      rcases hentries key e hfind with hold | ⟨a, rfl, hkeeps, hkey, hvalue, -⟩
      · exact Or.inl (by rwa [← hload])
      · exact Or.inr ⟨a, rfl, hkeeps, hkey, hvalue, rfl⟩

/-- A cached call is served from the shared cache, or the store is asked, and its errors are passed
on. -/
theorem layer_shared {inner : Store ρ} (hinner : inner.Keeps Env.cache) {c : Call}
    {slot : CacheSlot c.Answer} (hslot : c.slot? = some slot) {env : Env}
    (s : CachingState Unit × ρ) (ht : env.cache.Sound) :
    let step := overShared methods ttl inner c env s
    (∃ a, found slot env.cache env.clock.reading = some a ∧ step.outcome = .ok (.ok a) ∧
      env.Sheds step.env) ∨
    ∃ env₁, step.env.cache.Sound ∧
      (∀ key e, step.env.cache.find? key = some e → env.cache.find? key = some e ∨
        ∃ a, (inner c env₁ s.2).outcome = .ok (.ok a) ∧ slot.keeps a = true ∧ key = slot.key ∧
          e.value = slot.encode a ∧ step.outcome = .ok (.ok a)) ∧
      ∀ e, (inner c env₁ s.2).outcome = .ok (.error e) → step.outcome = .ok (.error e) := by
  obtain ⟨given, env₁, failures, hlook, hsheds, hgiven⟩ :=
    look_shared methods slot { env with journal := env.journal.enter c.operation.name } s.1
  have hstep : overShared methods ttl inner c env s = Act.within c.operation.name
      (readThrough (broken methods shared) ttl slot (inner c)) env s := by
    rw [overShared, layer, hslot]
  intro step
  cases given with
  | some a =>
    have hread : readThrough (broken methods shared) ttl slot (inner c)
        { env with journal := env.journal.enter c.operation.name } s =
        ⟨.ok (.ok a), env₁, (⟨(), failures⟩, s.2)⟩ := by
      simp only [readThrough, Act.bind_run, Act.onFst, hlook]
      rfl
    have hrun : step = ⟨.ok (.ok a), { env₁ with journal := env₁.journal.leave },
        (⟨(), failures⟩, s.2)⟩ := hstep.trans (Act.within_run hread)
    rw [hrun]
    exact Or.inl ⟨a, hgiven a rfl, rfl, hsheds.sound, hsheds.within⟩
  | none =>
    obtain ⟨hsound, hentries, herror⟩ := load_shared methods ttl slot (⟨(), failures⟩, s.2)
      (hsheds.sound ht) (hinner c env₁ s.2)
    refine Or.inr ⟨env₁, ?_⟩
    simp only [step, hstep, Act.within, readThrough, Act.bind_run, Act.onFst, hlook]
    refine ⟨hsound, fun key e hfind => ?_, herror⟩
    rcases hentries key e hfind with hold | hnew
    · exact Or.inl (hsheds.within key e hold)
    · exact Or.inr hnew

variable {inner : Store ρ}

/-- A caching layer keeps what the store under it gave, and so nothing of what that refuses. -/
theorem layer_shares (hinner : inner.Keeps Env.cache) {refuses : Bool}
    (hrefuses : refuses = true → inner.RefusesFlaws) :
    (overShared methods ttl inner).Shares refuses := by
  constructor
  case leaves =>
    intro c env s ht
    cases hslot : c.slot? with
    | none =>
      have hcache : (overShared methods ttl inner c env s).env.cache = env.cache := by
        rw [overShared, layer, hslot]
        exact hinner c env s.2
      refine ⟨by rwa [hcache], fun key e hfind => Or.inl ?_⟩
      rwa [hcache] at hfind
    | some slot =>
      rcases layer_shared hinner hslot s ht with ⟨a, -, -, hsheds⟩ | ⟨env₁, hsound, hentries, -⟩
      · exact ⟨hsheds.sound ht, fun key e hfind => Or.inl (hsheds.within key e hfind)⟩
      · refine ⟨hsound, fun key e hfind => ?_⟩
        rcases hentries key e hfind with hold | ⟨a, hload, hkeeps, hkey, hvalue, houtcome⟩
        · exact Or.inl hold
        · refine Or.inr ⟨fun h => ?_, slot, a, hslot, hkey, hvalue, hkeeps, houtcome⟩
          cases hflaw : c.flaw? with
          | none => rfl
          | some flaw =>
            rw [hrefuses h c flaw env₁ s.2 hflaw] at hload
            cases hload
  case refused_or_served =>
    intro hr c flaw env s ht hflaw
    cases hslot : c.slot? with
    | none =>
      rw [overShared, layer, hslot]
      exact Or.inl (hrefuses hr c flaw env s.2 hflaw)
    | some slot =>
      rcases layer_shared hinner hslot s ht with ⟨a, hfound, houtcome, -⟩ | ⟨env₁, -, -, herror⟩
      · obtain ⟨e, hfind, -, hdecode⟩ := exists_entry_of_found hfound
        exact Or.inr ⟨slot, e, a, rfl, hfind, hdecode, houtcome⟩
      · exact Or.inl (herror _ (hrefuses hr c flaw env₁ s.2 hflaw))

/-- A cache that can be read serves what it holds. -/
theorem layer_readable_hit (h : methods.contains .get = false) {c : Call}
    {slot : CacheSlot c.Answer} (hslot : c.slot? = some slot) {env : Env} (s : CachingState Unit × ρ)
    {a : c.Answer} (hfound : found slot env.cache env.clock.reading = some a) :
    (overShared methods ttl inner c env s).outcome = .ok (.ok a) := by
  obtain ⟨journal, failures, hlook⟩ :=
    look_readable h slot { env with journal := env.journal.enter c.operation.name } s.1
  rw [overShared, layer, hslot]
  simp only [Act.within, readThrough, Act.bind_run, Act.onFst, hlook, hfound]
  rfl

/-- A present answer that was not found is kept in a cache that works. -/
theorem find?_overShared {answers : Answers} {c : Call} {slot : CacheSlot c.Answer}
    (hslot : c.slot? = some slot) {a : c.Answer} (hanswer : answers c = .ok a)
    (hkeeps : slot.keeps a = true) {env : Env} (s : CachingState Unit × ρ)
    (hfound : found slot env.cache env.clock.reading = none)
    (hspan : env.tick.clock.reading + ttl < Clock.limit) :
    let later := (overShared [] ttl (.fixed answers) c env s).env
    env.Precedes later ∧ later.cache.find? slot.key =
      some ⟨slot.key, slot.encode a, env.tick.clock.reading + ttl⟩ := by
  have hreads : ([] : List CacheService.Method).contains .get = false := rfl
  have hwrites : ([] : List CacheService.Method).contains .set = false := rfl
  obtain ⟨journal, failures, hlook⟩ := look_readable hreads slot
    { env with journal := env.journal.enter c.operation.name } s.1
  let looked : Env :=
    { env with
      clock := env.clock.tick
      cache := (env.cache.get env.clock.reading slot.key).2
      journal := journal }
  obtain ⟨journal', hkeep⟩ :=
    keep_writable hwrites ttl hkeeps looked (⟨(), failures⟩ : CachingState Unit)
  have hrange : looked.clock.reading + ttl < Clock.limit := hspan
  rw [if_pos hrange] at hkeep
  let kept : Env :=
    { looked with
      clock := looked.clock.tick
      cache := stored looked.cache looked.order looked.clock.reading
        (some ⟨slot.key, slot.encode a, looked.clock.reading + ttl⟩)
      journal := journal' }
  have hread : readThrough (broken [] shared) ttl slot (Store.fixed answers c)
      { env with journal := env.journal.enter c.operation.name } s =
      ⟨.ok (.ok a), kept, (⟨(), failures⟩, s.2)⟩ := by
    simp only [readThrough, Act.bind_run, Act.onFst, hlook, hfound, Act.onSnd, Store.fixed, hanswer,
      Act.pure_run]
    simp only [hkeep, looked, kept]
  intro later
  have hlater : later = { kept with journal := kept.journal.leave } := by
    unfold later
    rw [overShared, layer, hslot]
    exact congrArg Step.env (Act.within_run hread)
  rw [hlater]
  refine ⟨⟨rfl, Nat.le_add_right _ 2⟩, ?_⟩
  change (stored looked.cache looked.order looked.clock.reading (some _)).find? slot.key = _
  rw [stored, CacheTable.find?_put, if_pos rfl]
  rfl

/-- While no time passes, what one layer was given for a call another serves, whatever is under it. -/
theorem served_after_kept (hpos : 0 < ttl) (hlimit : ttl < Clock.limit) {answers : Answers} {c : Call}
    (hcached : c.slot?.isSome = true) {a b : c.Answer} (hanswer : answers c = .ok a)
    (hpresent : c.isAbsent a = false) (hreread : c.reread? a = some b) (s : CachingState Unit × σ)
    (other : Nat) (inner : Store ρ) (s' : CachingState Unit × ρ) :
    (overShared [] other inner c (overShared [] ttl (.fixed answers) c .still s).env s').outcome =
      .ok (.ok b) := by
  obtain ⟨slot, hslot⟩ := Option.isSome_iff_exists.1 hcached
  have hkeeps : slot.keeps a = true := by simp [Call.slot_keeps hslot, hpresent]
  have hspan : Env.still.tick.clock.reading + ttl < Clock.limit := by
    change 0 + ttl < Clock.limit
    omega
  obtain ⟨hlater, hfind⟩ := find?_overShared hslot hanswer hkeeps s rfl hspan
  refine layer_readable_hit rfl hslot s' (found_of_find? hslot hfind ?_ hreread)
  rw [Env.still_reading hlater]
  exact Nat.add_pos_right _ hpos

end Caching

/-! ## Stacks -/

section Layers

variable {refuses : Bool} {inner : Store ρ}

theorem Auditing.layer_shares (h : inner.Shares refuses) (sink : Auditing.Sink)
    (operations : SortedSet Operation) :
    (Store.onSnd (Auditing.layer sink operations inner) : Store (Unit × ρ)).Shares refuses := by
  have hrun := @Auditing.layer_run ρ inner sink operations
  constructor
  case leaves =>
    intro c env s ht
    obtain ⟨hsound, hentries⟩ := h.leaves c env s.2 ht
    obtain ⟨env', hcall, -, hcache⟩ := hrun c env s.2
    rw [Store.onSnd_run hcall]
    refine ⟨by rwa [hcache], fun key e hfind => hentries key e ?_⟩
    rwa [← hcache]
  case refused_or_served =>
    intro hr c flaw env s ht hflaw
    obtain ⟨env', hcall, -, -⟩ := hrun c env s.2
    rw [Store.onSnd_run hcall]
    exact h.refused_or_served hr c flaw env s.2 ht hflaw

theorem Instrumentation.layer_shares (h : inner.Shares refuses)
    (settings : Instrumentation.Settings) :
    (Instrumentation.layer settings inner).Shares refuses := by
  have hrun := @Instrumentation.layer_run ρ inner settings
  constructor
  case leaves =>
    intro c env s ht
    obtain ⟨env₁, -, hcache₁, env', kept, hcall, -, hcache⟩ := hrun c env s
    rw [← hcache₁] at ht
    obtain ⟨hsound, hentries⟩ := h.leaves c env₁ s.2 ht
    rw [hcache₁] at hentries
    rw [hcall]
    refine ⟨by rwa [hcache], fun key e hfind => hentries key e ?_⟩
    rwa [← hcache]
  case refused_or_served =>
    intro hr c flaw env s ht hflaw
    obtain ⟨env₁, -, hcache₁, env', kept, hcall, -, -⟩ := hrun c env s
    rw [← hcache₁] at ht
    rw [hcall, ← hcache₁]
    exact h.refused_or_served hr c flaw env₁ s.2 ht hflaw

variable {base : Store σ}

/-- A layer that may be switched off is one that may be left out. -/
theorem Layers.shares_when {enabled : Bool} {l : Layer} {rest : List Layer}
    (hl : ∀ {ρ : Type} {inner : Store ρ}, inner.Shares refuses → (l.around inner).Shares refuses)
    (h : (Layers.store base rest).Shares refuses) :
    (Layers.store base (Layer.when enabled l ++ rest)).Shares refuses := by
  cases enabled with
  | false => exact h
  | true => exact hl h

theorem StorageConfig.layersAuditing_shares (hbase : base.Keeps Env.cache) (c : StorageConfig)
    {options : LayerOptions} {methods : List CacheService.Method}
    (hshared : options.cache = some (.shared methods)) (audited : SortedSet Operation) :
    (Layers.store base (c.layersAuditing options audited)).Shares c.validation.enabled := by
  rw [StorageConfig.layersAuditing, List.append_assoc, List.append_assoc]
  refine Layers.shares_when (fun h => Instrumentation.layer_shares h _) ?_
  refine Layers.shares_when (fun h => Auditing.layer_shares h _ _) ?_
  have hinner : (Layers.store base (Layer.when c.validation.enabled .validation)).Keeps Env.cache := by
    cases c.validation.enabled with
    | false => exact hbase
    | true => exact (Validation.layer_keeps Env.apart_cache hbase).onSnd
  have hrefuses : c.validation.enabled = true →
      (Layers.store base (Layer.when c.validation.enabled .validation)).RefusesFlaws := by
    intro hv
    rw [hv]
    exact Validation.layer_refusesFlaws base
  cases c.cache.enabled with
  | false => exact hinner.shares hrefuses
  | true =>
    rw [hshared]
    exact Caching.layer_shares hinner hrefuses

end Layers

/-! ## Runs of several stacks -/

/-- A stack of a configuration over the shared cache. -/
structure Tenant where
  config : StorageConfig
  options : LayerOptions
  layers : List Layer
  layers_eq : config.layers options = .ok layers
  shares : ∃ methods, options.cache = some (.shared methods)

namespace Tenant

def store (t : Tenant) (base : Store σ) : Store (Layers.State σ t.layers) :=
  Layers.store base t.layers

def validates (t : Tenant) : Bool :=
  t.config.validation.enabled

theorem store_shares (t : Tenant) {base : Store σ} (hbase : base.Keeps Env.cache) :
    (t.store base).Shares t.validates := by
  obtain ⟨config, options, layers, hlayers, methods, hshared⟩ := t
  obtain ⟨audited, rfl⟩ := StorageConfig.exists_audited hlayers
  exact config.layersAuditing_shares hbase hshared audited

end Tenant

variable {ι : Type} {base : Store σ} {tenants : ι → Tenant} {start env : Env}

/-- The calls of a run through any of the stacks. A call may find its stack in any state; between calls
anything may happen that puts nothing into the shared cache. -/
inductive SharedRun (base : Store σ) (tenants : ι → Tenant) (start : Env) :
    List (Σ i, Visit (Layers.State σ (tenants i).layers)) → Env → Prop
  | empty : SharedRun base tenants start [] start
  | call {past : List (Σ i, Visit (Layers.State σ (tenants i).layers))} {env : Env} (i : ι)
      (c : Call) (s : Layers.State σ (tenants i).layers)
      (h : SharedRun base tenants start past env) :
      SharedRun base tenants start (past ++ [⟨i, ⟨c, env, s⟩⟩])
        ((tenants i).store base c env s).env
  | between {past : List (Σ i, Visit (Layers.State σ (tenants i).layers))} {env later : Env}
      (h : SharedRun base tenants start past env) (hsheds : env.Sheds later) :
      SharedRun base tenants start past later

/-- A stack without validation gave this present answer to the call. -/
def GivenUnvalidated (base : Store σ) (tenants : ι → Tenant)
    (past : List (Σ i, Visit (Layers.State σ (tenants i).layers))) (c : Call) (a : c.Answer) : Prop :=
  ∃ i env s, ⟨i, ⟨c, env, s⟩⟩ ∈ past ∧ (tenants i).validates = false ∧
    ((tenants i).store base c env s).outcome = .ok (.ok a) ∧ c.isAbsent a = false

variable {past : List (Σ i, Visit (Layers.State σ (tenants i).layers))}

theorem GivenUnvalidated.snoc {c : Call} {a : c.Answer}
    (h : GivenUnvalidated base tenants past c a)
    (v : Σ i, Visit (Layers.State σ (tenants i).layers)) :
    GivenUnvalidated base tenants (past ++ [v]) c a := by
  obtain ⟨i, env, s, hmem, hgiven⟩ := h
  exact ⟨i, env, s, List.mem_append_left _ hmem, hgiven⟩

/-- What the shared cache holds for a call with a flaw was given to that call without validation. -/
structure Traced (base : Store σ) (tenants : ι → Tenant)
    (past : List (Σ i, Visit (Layers.State σ (tenants i).layers))) (env : Env) : Prop where
  sound : env.cache.Sound
  given : ∀ (c : Call) (slot : CacheSlot c.Answer) (e : CacheEntry),
    c.flaw?.isSome = true → c.slot? = some slot → env.cache.find? slot.key = some e →
      ∃ a, GivenUnvalidated base tenants past c a ∧ e.value = slot.encode a

namespace Traced

theorem initial {capacity : Nat} (hstart : start.cache = .new capacity) :
    Traced base tenants [] start where
  sound := by
    rw [hstart]
    exact CacheTable.new_sound capacity
  given := by
    intro c slot e _ _ hfind
    rw [hstart, CacheTable.find?_new] at hfind
    cases hfind

theorem sheds {later : Env} (h : Traced base tenants past env) (hsheds : env.Sheds later) :
    Traced base tenants past later where
  sound := hsheds.sound h.sound
  given c slot e hflaw hslot hfind := h.given c slot e hflaw hslot (hsheds.within _ _ hfind)

theorem call (h : Traced base tenants past env) (hbase : base.Keeps Env.cache) (i : ι) (d : Call)
    (s : Layers.State σ (tenants i).layers) :
    Traced base tenants (past ++ [⟨i, ⟨d, env, s⟩⟩]) ((tenants i).store base d env s).env := by
  obtain ⟨hsound, hentries⟩ := ((tenants i).store_shares hbase).leaves d env s h.sound
  refine ⟨hsound, fun c slot e hflaw hslot hfind => ?_⟩
  rcases hentries _ e hfind with
    hold | ⟨hrefused, slot', a, hslot', hkey, hvalue, hkeeps, houtcome⟩
  · obtain ⟨a, hgiven, hvalue⟩ := h.given c slot e hflaw hslot hold
    exact ⟨a, hgiven.snoc _, hvalue⟩
  · -- one key is one call, so this is the call whose answer was kept
    cases Call.slot_injective hslot' hslot hkey
    have hvalidates : (tenants i).validates = false := by
      by_contra hv
      rw [hrefused (by simpa using hv)] at hflaw
      cases hflaw
    have hpresent : d.isAbsent a = false := by
      simpa [Call.slot_keeps hslot'] using hkeeps
    have hmem : (⟨i, ⟨d, env, s⟩⟩ : Σ i, Visit (Layers.State σ (tenants i).layers)) ∈
        past ++ [⟨i, ⟨d, env, s⟩⟩] :=
      List.mem_append_right _ List.mem_cons_self
    exact ⟨a, ⟨i, env, s, hmem, hvalidates, houtcome, hpresent⟩, hvalue⟩

end Traced

theorem SharedRun.traced (hbase : base.Keeps Env.cache) {capacity : Nat}
    (hstart : start.cache = .new capacity) (hrun : SharedRun base tenants start past env) :
    Traced base tenants past env := by
  induction hrun with
  | empty => exact Traced.initial hstart
  | call i c s _ ih => exact ih.call hbase i c s
  | between _ hsheds ih => exact ih.sheds hsheds

/-- In every run of stacks over a shared cache, a stack with validation refuses a call with a flaw, or
gives what is read back of a present answer that the same call was given through a stack without
validation and that the cache still holds. -/
theorem flawed_call_refused_or_given (hbase : base.Keeps Env.cache) {capacity : Nat}
    (hstart : start.cache = .new capacity) (hrun : SharedRun base tenants start past env) {i : ι}
    (hvalidates : (tenants i).validates = true) {c : Call} {flaw : Flaw}
    (hflaw : c.flaw? = some flaw) (s : Layers.State σ (tenants i).layers) :
    ((tenants i).store base c env s).outcome = .ok (.error (.invalidArgument flaw.message)) ∨
    ∃ slot e a b, c.slot? = some slot ∧ env.cache.find? slot.key = some e ∧
      e.value = slot.encode a ∧ GivenUnvalidated base tenants past c a ∧ c.reread? a = some b ∧
      ((tenants i).store base c env s).outcome = .ok (.ok b) := by
  have htraced := hrun.traced hbase hstart
  have hshares := (tenants i).store_shares hbase
  rcases hshares.refused_or_served hvalidates c flaw env s htraced.sound hflaw with
    hrefused | ⟨slot, e, b, hslot, hfind, hdecode, houtcome⟩
  · exact Or.inl hrefused
  · have hflawed : c.flaw?.isSome = true := by
      rw [hflaw]
      rfl
    obtain ⟨a, hgiven, hvalue⟩ := htraced.given c slot e hflawed hslot hfind
    refine Or.inr ⟨slot, e, a, b, hslot, hfind, hvalue, hgiven, ?_, houtcome⟩
    rw [← Call.slot_decode_encode hslot, ← hvalue, hdecode]

/-- Before anything was asked, a blank host is refused by a stack with validation. -/
theorem blank_host_refused_at_first :
    let config : StorageConfig := ⟨⟨true, 30, 10000⟩, ⟨true, 250⟩, ⟨true, []⟩, ⟨true⟩⟩
    let options : LayerOptions := ⟨true, some (.shared []), .journal⟩
    let strict : Tenant :=
      ⟨config, options, config.layersAuditing options (.ofList Operation.all), rfl, [], rfl⟩
    let base : Store Unit := .fixed Ledger.empty.answers
    (Call.host "").flaw? = some (.blank "host") ∧
      (strict.store base (.host "") .still (Layers.start () strict.layers)).outcome =
        .ok (.error (.invalidArgument "host 不能为空")) := by
  intro config options strict base
  have hflaw : (Call.host "").flaw? = some (.blank "host") := by decide
  refine ⟨hflaw, ?_⟩
  have hbase : base.Keeps Env.cache := fun _ _ _ => rfl
  have hstart : Env.still.cache = .new 1 := rfl
  have hrun : SharedRun base (fun _ : Unit => strict) .still [] .still := .empty
  rcases flawed_call_refused_or_given hbase hstart hrun (i := ()) rfl hflaw
    (Layers.start () strict.layers) with hrefused | ⟨-, -, -, -, -, -, -, ⟨_, _, _, hmem, -⟩, -⟩
  · exact hrefused
  · cases hmem

/-- A blank host that was asked for through a stack without validation is served to one with it. -/
theorem blank_host_served_from_shared_cache :
    let host : HostAttributes := ⟨"", [], .none, none⟩
    let base : Store Unit := .fixed (Ledger.empty.saveHost host).answers
    let config := fun validates =>
      (⟨⟨true, 30, 10000⟩, ⟨false, 250⟩, ⟨false, []⟩, ⟨validates⟩⟩ : StorageConfig)
    let options : LayerOptions := ⟨true, some (.shared []), .journal⟩
    let tenants := fun validates => (⟨config validates, options,
      (config validates).layersAuditing options (.ofList Operation.all), rfl, [], rfl⟩ : Tenant)
    let initial := fun validates => Layers.start () (tenants validates).layers
    let first := (tenants false).store base (.host "") .still (initial false)
    let second := (tenants true).store base (.host "") first.env (initial true)
    (Call.host "").flaw? = some (.blank "host") ∧
      SharedRun base tenants .still [⟨false, .host "", .still, initial false⟩] first.env ∧
      second.outcome = .ok (.ok (some host)) := by
  intro host base config options tenants initial first second
  refine ⟨by decide, SharedRun.empty.call false (.host "") (initial false), ?_⟩
  have hpos : 0 < (config false).cache.ttl := (by decide : 0 < 30 * 1000000000)
  have hlimit : (config false).cache.ttl < Clock.limit :=
    (by decide : 30 * 1000000000 < Clock.limit)
  have hanswer : (Ledger.empty.saveHost host).answers (.host "") = .ok (some host) := rfl
  exact Caching.served_after_kept hpos hlimit rfl hanswer rfl rfl (initial false)
    (config true).cache.ttl (Store.onSnd (Validation.layer base)) (initial true)

end ClusterReads
