import ClusterReads.Ledger
import ClusterReads.Proofs.Keyed
import ClusterReads.Proofs.Run
import ClusterReads.Proofs.Layer.Caching

/-!
# Hits and the calls they save

A caching layer counts a hit when its table holds a text, before the text is read back. Main statement:
hits are the reads that the store was not asked for, misses the calls it was asked for and failures none,
in every run over every store that gives certain answers, exactly when all doubles of these answers can
be read back; in any run hits and calls are off by the failures that are counted.
-/
namespace ClusterReads

open CacheService (table)

variable {ρ α : Type}

/-- The store gives the answer to the call, in some surroundings and some state. -/
def Store.CanGive (inner : Store ρ) (c : Call) (a : c.Answer) : Prop :=
  ∃ env s, (inner c env s).outcome = .ok (.ok a)

/-- The store that has one answer to one call, and none to others. -/
def Answers.only (c : Call) (a : c.Answer) : Answers := fun d =>
  if h : d = c then .ok (h ▸ a) else .error (.cache "nothing else")

/-! ## What a table counts -/

namespace CacheTable

/-- Hits, misses and failures. -/
def lookups (t : CacheTable) : Nat × Nat × Nat :=
  (t.stats.hits, t.stats.misses, t.stats.errors)

theorem lookups_eq_iff {t t' : CacheTable} : t.lookups = t'.lookups ↔
    t.stats.hits = t'.stats.hits ∧ t.stats.misses = t'.stats.misses ∧
      t.stats.errors = t'.stats.errors := by
  rw [lookups, lookups, Prod.mk.injEq, Prod.mk.injEq]

/-- A lookup is a hit or a miss. -/
theorem get_counts (t : CacheTable) (now : Nat) (key : String) :
    (t.get now key).2.stats.hits = t.stats.hits + (t.live? now key).isSome.toNat ∧
      (t.get now key).2.stats.misses + (t.live? now key).isSome.toNat = t.stats.misses + 1 ∧
      (t.get now key).2.stats.errors = t.stats.errors := by
  unfold get
  cases t.live? now key <;> exact ⟨rfl, rfl, rfl⟩

theorem lookups_makeRoom (t : CacheTable) (order : EntryOrder) (now : Nat) (key : String) :
    (t.makeRoom order now key).1.lookups = t.lookups := by
  unfold makeRoom
  split
  · dsimp only
    split
    · unfold evict
      split <;> rfl
    · rfl
  · rfl

theorem lookups_put (t : CacheTable) (e : CacheEntry) : (t.put e).lookups = t.lookups := rfl

end CacheTable

namespace Caching

theorem Removal.lookups_apply (r : Removal) (t : CacheTable) :
    (r.apply t).lookups = t.lookups := by
  cases r <;> rfl

theorem Invalidation.lookups_apply (i : Invalidation) (t : CacheTable) :
    (i.apply t).lookups = t.lookups := by
  rw [Invalidation.apply]
  generalize i.removals = rs
  induction rs generalizing t with
  | nil => rfl
  | cons r rs ih => exact (ih (r.apply t)).trans (r.lookups_apply t)

/-! ## One read -/

/-- The table holds a text that cannot be read back. -/
def spoiled (slot : CacheSlot α) (t : CacheTable) (now : Nat) : Bool :=
  (t.live? now slot.key).any fun text => (slot.decode text).isNone

theorem spoiled_of_found {slot : CacheSlot α} {t : CacheTable} {now : Nat} {a : α}
    (h : found slot t now = some a) :
    (t.live? now slot.key).isSome = true ∧ spoiled slot t now = false := by
  unfold found at h
  unfold spoiled
  cases hlive : t.live? now slot.key with
  | none =>
    rw [hlive] at h
    cases h
  | some text =>
    rw [hlive, Option.bind_some] at h
    simp [h]

theorem spoiled_of_not_found {slot : CacheSlot α} {t : CacheTable} {now : Nat}
    (h : found slot t now = none) : spoiled slot t now = (t.live? now slot.key).isSome := by
  unfold found at h
  unfold spoiled
  cases hlive : t.live? now slot.key with
  | none => rfl
  | some text =>
    rw [hlive, Option.bind_some] at h
    simp [h]

/-- What is spoiled was kept, and cannot be read back. -/
theorem exists_entry_of_spoiled {slot : CacheSlot α} {t : CacheTable} {now : Nat}
    (h : spoiled slot t now = true) :
    ∃ e, t.find? slot.key = some e ∧ slot.decode e.value = none := by
  unfold spoiled at h
  cases hlive : t.live? now slot.key with
  | none =>
    rw [hlive] at h
    cases h
  | some text =>
    obtain ⟨e, hfind, -, rfl⟩ := CacheTable.live?_eq_some_iff.1 hlive
    rw [hlive, Option.any_some, Option.isNone_iff_eq_none] at h
    exact ⟨e, hfind, h⟩

/-- A look counts a failure if what is held cannot be read back. -/
theorem look_counts (slot : CacheSlot α) (env : Env) (s : CachingState CacheTable) :
    ∃ journal, look table slot env s =
      ⟨.ok (found slot s.cache env.clock.reading),
        { env with clock := env.clock.tick, journal := journal },
        ⟨(s.cache.get env.clock.reading slot.key).2,
          s.failures + (spoiled slot s.cache env.clock.reading).toNat⟩⟩ := by
  rw [look, Act.bind_run, useCache, getAs_run, found, spoiled]
  cases s.cache.live? env.clock.reading slot.key with
  | none => exact ⟨_, rfl⟩
  | some text =>
    simp only [Option.bind_some, Option.any_some]
    cases slot.decode text with
    | none => exact ⟨_, rfl⟩
    | some a => exact ⟨_, rfl⟩

/-- Writing back counts neither lookups nor failures. -/
theorem keep_counts (ttl : Nat) (slot : CacheSlot α) (result : StoreResult α) (env : Env)
    (s : CachingState CacheTable) :
    (keep table ttl slot result env s).state.cache.lookups = s.cache.lookups ∧
      (keep table ttl slot result env s).state.failures = s.failures := by
  cases result with
  | error e => exact ⟨rfl, rfl⟩
  | ok a =>
    by_cases h : slot.keeps a
    · obtain ⟨journal, hset⟩ := CacheService.table_set_run slot.key (slot.encode a) ttl env s.cache
      have hroom := s.cache.lookups_makeRoom env.order env.clock.reading slot.key
      rw [keep, if_pos h, Act.bind_run, useCache, hset]
      by_cases hspan : env.clock.reading + ttl < Clock.limit
      · rw [if_pos hspan]
        exact ⟨(CacheTable.lookups_put _ _).trans hroom, rfl⟩
      · rw [if_neg hspan]
        exact ⟨hroom, rfl⟩
    · rw [keep, if_neg h]
      exact ⟨rfl, rfl⟩

section Layer

variable (ttl : Nat) (inner : Store ρ) {c : Call} {slot : CacheSlot c.Answer} {env : Env}
  {s : CachingState CacheTable × ρ}

/-- What is found is served, and nothing else happens. -/
theorem layer_hit_state (hslot : c.slot? = some slot) {a : c.Answer}
    (hfound : found slot s.1.cache env.clock.reading = some a) :
    (layer table ttl inner c env s).state =
      (⟨(s.1.cache.get env.clock.reading slot.key).2, s.1.failures⟩, s.2) := by
  obtain ⟨journal, hlook⟩ :=
    look_counts slot { env with journal := env.journal.enter c.operation.name } s.1
  have hspoiled := (spoiled_of_found hfound).2
  rw [layer, hslot]
  simp only [Act.within, readThrough, Act.bind_run, Act.onFst, hlook, hfound, hspoiled]
  rfl

/-- When nothing is found the store is asked once. What the table holds then it held before, or the
store gave it now. -/
theorem layer_miss_state (hslot : c.slot? = some slot) (ht : s.1.cache.Sound)
    (hfound : found slot s.1.cache env.clock.reading = none) :
    ∃ env₁, (layer table ttl inner c env s).state.2 = (inner c env₁ s.2).state ∧
      (layer table ttl inner c env s).state.1.failures =
        s.1.failures + (spoiled slot s.1.cache env.clock.reading).toNat ∧
      (layer table ttl inner c env s).state.1.cache.lookups =
        (s.1.cache.get env.clock.reading slot.key).2.lookups ∧
      (layer table ttl inner c env s).state.1.cache.Sound ∧
      ∀ key e, (layer table ttl inner c env s).state.1.cache.find? key = some e →
        (∃ a, (inner c env₁ s.2).outcome = .ok (.ok a) ∧ key = slot.key ∧
          e.value = slot.encode a) ∨ s.1.cache.find? key = some e := by
  obtain ⟨journal, hlook⟩ :=
    look_counts slot { env with journal := env.journal.enter c.operation.name } s.1
  have hget := CacheTable.get_sound ht env.clock.reading slot.key
  have hwithin := CacheTable.get_within s.1.cache env.clock.reading slot.key
  refine ⟨{ env with clock := env.clock.tick, journal := journal }, ?_⟩
  rw [layer, hslot]
  simp only [Act.within, readThrough, Act.bind_run, Act.onFst, hlook, hfound, Act.onSnd]
  rcases inner c _ s.2 with ⟨fault | result, env₂, σ⟩
  · exact ⟨rfl, rfl, rfl, hget, fun key e hfind => Or.inr (hwithin key e hfind)⟩
  · let looked : CachingState CacheTable :=
      ⟨(s.1.cache.get env.clock.reading slot.key).2,
        s.1.failures + (spoiled slot s.1.cache env.clock.reading).toNat⟩
    have hcounts := keep_counts ttl slot result env₂ looked
    have hkept := find?_keep ttl slot result env₂ (s := looked) hget
    have hentries : ∀ key e,
        (keep table ttl slot result env₂ looked).state.cache.find? key = some e →
        (∃ a, (.ok result : Except Fault (StoreResult c.Answer)) = .ok (.ok a) ∧ key = slot.key ∧
          e.value = slot.encode a) ∨ s.1.cache.find? key = some e := by
      intro key e hfind
      rcases hkept.2 key e hfind with ⟨a, rfl, hkey, hvalue⟩ | hold
      · exact Or.inl ⟨a, rfl, hkey, hvalue⟩
      · exact Or.inr (hwithin key e hold)
    simp only
    rcases hkeep : keep table ttl slot result env₂ looked with ⟨_ | _, later, kept⟩ <;>
      rw [hkeep] at hcounts hkept hentries <;>
      exact ⟨rfl, hcounts.2, hcounts.1, hkept.1, hentries⟩

end Layer

/-! ## Runs -/

/-- The state of a layer over a store that notes its calls. -/
abbrev NotedState (ρ : Type) : Type :=
  CachingState CacheTable × List Call × ρ

/-- Between calls others change the contents of the store, or take answers out of the table. -/
inductive Interferes : Env → NotedState ρ → Env → NotedState ρ → Prop
  | change {env later : Env} {s : NotedState ρ} (contents : ρ) :
    Interferes env s later (s.1, s.2.1, contents)
  | invalidate {env : Env} {s : NotedState ρ} (i : Invalidation) :
    Interferes env s (useCache (Caching.invalidate table i) env s.1).env
      ((useCache (Caching.invalidate table i) env s.1).state, s.2)

/-- A run of a layer over a new table and a store that notes its calls. -/
abbrev NotedRun (capacity ttl : Nat) (inner : Store ρ) (contents : ρ) (start : Env) :
    List (Visit (NotedState ρ)) → Env → NotedState ρ → Prop :=
  (layer table ttl inner.noted).Run Interferes start
    (⟨CacheTable.new capacity, 0⟩, [], contents)

/-- The visit is a cached read for which the store was not asked. -/
def unasked (ttl : Nat) (inner : Store ρ) (v : Visit (NotedState ρ)) : Bool :=
  v.call.slot?.isSome && decide (((layer table ttl inner.noted).serve v).state.2.1 = v.state.2.1)

/-- The statistics of a layer agree with its visits, but for so many hits that saved no call. -/
def Tallies (ttl : Nat) (inner : Store ρ) (past : List (Visit (NotedState ρ))) (env : Env)
    (s : NotedState ρ) (failures : Nat) : Prop :=
  ∃ stats, (Caching.stats table env s.1).outcome = .ok stats ∧
    stats.misses + failures = s.2.1.countP (fun c => c.slot?.isSome) ∧
    stats.hits = past.countP (unasked ttl inner) + failures ∧ stats.errors = failures

section Run

variable {capacity ttl : Nat} {inner : Store ρ} {contents : ρ} {start env : Env}
  {past : List (Visit (NotedState ρ))} {s : NotedState ρ}

/-- What holds at every point of a run: all that is kept was given by the store, and every failure is
one of reading back what it gave. -/
structure Reckoned (ttl : Nat) (inner : Store ρ) (past : List (Visit (NotedState ρ)))
    (s : NotedState ρ) : Prop where
  sound : s.1.cache.Sound
  entries : ∀ (c : Call) (slot : CacheSlot c.Answer) (e : CacheEntry), c.slot? = some slot →
    s.1.cache.find? slot.key = some e → ∃ a, inner.CanGive c a ∧ e.value = slot.encode a
  misses : s.1.cache.stats.misses + s.1.failures = s.2.1.countP fun c => c.slot?.isSome
  hits : s.1.cache.stats.hits = past.countP (unasked ttl inner) + s.1.failures
  errors : s.1.cache.stats.errors = 0
  unreadable : s.1.failures ≠ 0 → ∃ c a, c.slot?.isSome = true ∧ inner.CanGive c a ∧
    c.reread? a = none

theorem reckoned_start (ttl capacity : Nat) (inner : Store ρ) (contents : ρ) :
    Reckoned ttl inner [] (⟨CacheTable.new capacity, 0⟩, [], contents) where
  sound := CacheTable.new_sound capacity
  entries := by
    intro c slot e _ hfind
    rw [CacheTable.find?_new] at hfind
    cases hfind
  misses := rfl
  hits := rfl
  errors := rfl
  unreadable := fun h => absurd rfl h

/-- Others count nothing and keep nothing. -/
theorem Reckoned.between (h : Reckoned ttl inner past s) {later : Env} {s' : NotedState ρ}
    (hothers : Interferes env s later s') : Reckoned ttl inner past s' := by
  cases hothers with
  | change contents => exact ⟨h.sound, h.entries, h.misses, h.hits, h.errors, h.unreadable⟩
  | invalidate i =>
    have hrun : (useCache (Caching.invalidate table i) env s.1).state =
        ⟨i.apply s.1.cache, s.1.failures⟩ := by
      rw [useCache, invalidate_run]
    obtain ⟨hhits, hmisses, herrors⟩ :=
      CacheTable.lookups_eq_iff.1 (Invalidation.lookups_apply i s.1.cache)
    rw [hrun]
    refine ⟨i.apply_sound h.sound, fun c slot e hslot hfind => ?_, ?_, ?_, ?_, h.unreadable⟩
    · rw [Invalidation.find?_apply (Call.key?_of_slot? hslot)] at hfind
      split at hfind
      · cases hfind
      · exact h.entries c slot e hslot hfind
    · exact hmisses ▸ h.misses
    · exact hhits ▸ h.hits
    · exact herrors ▸ h.errors

section Call

variable {c : Call} {slot : CacheSlot c.Answer} {env : Env}

/-- A call that is never cached is noted, and counts for nothing. -/
theorem Reckoned.call_uncached (h : Reckoned ttl inner past s) (hslot : c.slot? = none) :
    Reckoned ttl inner (past ++ [⟨c, env, s⟩]) (layer table ttl inner.noted c env s).state := by
  have hunasked : unasked ttl inner ⟨c, env, s⟩ = false := by
    rw [unasked, hslot]
    rfl
  rw [layer_uncached _ hslot, Act.onSnd, Store.noted_run]
  refine ⟨h.sound, h.entries, ?_, ?_, h.errors, h.unreadable⟩
  · simpa [hslot] using h.misses
  · simpa [hunasked] using h.hits

/-- A call that is served is a hit, and one that the store was not asked for. -/
theorem Reckoned.call_served (h : Reckoned ttl inner past s) (hslot : c.slot? = some slot)
    {a : c.Answer} (hfound : found slot s.1.cache env.clock.reading = some a) :
    Reckoned ttl inner (past ++ [⟨c, env, s⟩]) (layer table ttl inner.noted c env s).state := by
  have hstate := layer_hit_state ttl inner.noted hslot hfound
  have hunasked : unasked ttl inner ⟨c, env, s⟩ = true := by
    simp [unasked, Store.serve, hstate, hslot]
  have hsound := CacheTable.get_sound h.sound env.clock.reading slot.key
  have hwithin := CacheTable.get_within s.1.cache env.clock.reading slot.key
  obtain ⟨hhits, hmisses, herrors⟩ :=
    CacheTable.get_counts s.1.cache env.clock.reading slot.key
  rw [(spoiled_of_found hfound).1, Bool.toNat_true] at hhits hmisses
  have hmissesBefore := h.misses
  have hhitsBefore := h.hits
  rw [hstate]
  constructor
  case sound => exact hsound
  case entries => exact fun d slot' e hd hfind => h.entries d slot' e hd (hwithin _ _ hfind)
  case misses =>
    dsimp only
    omega
  case hits =>
    rw [List.countP_append, List.countP_singleton, if_pos hunasked]
    dsimp only
    omega
  case errors => exact herrors.trans h.errors
  case unreadable => exact h.unreadable

/-- A call that the store is asked for is a miss, or a hit on what cannot be read back; then it is
counted as a failure, and what was kept had been given. -/
theorem Reckoned.call_asked (h : Reckoned ttl inner past s) (hslot : c.slot? = some slot)
    (hfound : found slot s.1.cache env.clock.reading = none) :
    Reckoned ttl inner (past ++ [⟨c, env, s⟩]) (layer table ttl inner.noted c env s).state := by
  obtain ⟨env₁, hinner, hfailures, hcounts, hsound, hentries⟩ :=
    layer_miss_state ttl inner.noted hslot h.sound hfound
  obtain ⟨hlayerHits, hlayerMisses, hlayerErrors⟩ := CacheTable.lookups_eq_iff.1 hcounts
  obtain ⟨hhits, hmisses, herrors⟩ :=
    CacheTable.get_counts s.1.cache env.clock.reading slot.key
  rw [← spoiled_of_not_found hfound] at hhits hmisses
  rw [Store.noted_run] at hinner hentries
  have hcalls : (layer table ttl inner.noted c env s).state.2.1 = s.2.1 ++ [c] :=
    congrArg Prod.fst hinner
  have hunasked : unasked ttl inner ⟨c, env, s⟩ = false := by
    simp [unasked, Store.serve, hcalls]
  have hcached : c.slot?.isSome = true := by
    rw [hslot]
    rfl
  have hmissesBefore := h.misses
  have hhitsBefore := h.hits
  constructor
  case sound => exact hsound
  case entries =>
    intro d slot' e hd hfind
    rcases hentries _ e hfind with ⟨a, hgiven, hkey, hvalue⟩ | hold
    · cases Call.slot_injective hslot hd hkey
      exact ⟨a, ⟨env₁, s.2.2, hgiven⟩, hvalue⟩
    · exact h.entries d slot' e hd hold
  case misses =>
    rw [hcalls, List.countP_append, List.countP_singleton, if_pos hcached]
    omega
  case hits =>
    rw [List.countP_append, List.countP_singleton, if_neg (by simp [hunasked])]
    omega
  case errors => exact hlayerErrors.trans (herrors.trans h.errors)
  case unreadable =>
    intro hfailed
    cases hspoiled : spoiled slot s.1.cache env.clock.reading with
    | true =>
      obtain ⟨e, hfind, hdecode⟩ := exists_entry_of_spoiled hspoiled
      obtain ⟨a, hgiven, hvalue⟩ := h.entries c slot e hslot hfind
      rw [hvalue, Call.slot_decode_encode hslot] at hdecode
      exact ⟨c, a, hcached, hgiven, hdecode⟩
    | false =>
      rw [hfailures, hspoiled] at hfailed
      exact h.unreadable hfailed

theorem Reckoned.call (h : Reckoned ttl inner past s) (c : Call) (env : Env) :
    Reckoned ttl inner (past ++ [⟨c, env, s⟩]) (layer table ttl inner.noted c env s).state := by
  cases hslot : c.slot? with
  | none => exact h.call_uncached hslot
  | some slot =>
    cases hfound : found slot s.1.cache env.clock.reading with
    | some a => exact h.call_served hslot hfound
    | none => exact h.call_asked hslot hfound

end Call

theorem reckoned_of_run (hrun : NotedRun capacity ttl inner contents start past env s) :
    Reckoned ttl inner past s := by
  induction hrun with
  | empty => exact reckoned_start ttl capacity inner contents
  | call c _ ih => exact ih.call c _
  | between _ hothers ih => exact ih.between hothers

end Run

/-! ## When it is so -/

section Exact

variable {capacity ttl : Nat} {inner : Store ρ} {contents : ρ} {start env : Env}
  {past : List (Visit (NotedState ρ))} {s : NotedState ρ}

theorem stats_run (env : Env) (s : CachingState CacheTable) : Caching.stats table env s =
    ⟨.ok { s.cache.stats with errors := s.cache.stats.errors + s.failures }, env, s⟩ := rfl

/-- The tallies of a run are off by the failures of its layer. -/
theorem Reckoned.tallies (h : Reckoned ttl inner past s) (env : Env) :
    Tallies ttl inner past env s s.1.failures := by
  refine ⟨_, rfl, h.misses, h.hits, ?_⟩
  rw [h.errors, Nat.zero_add]

theorem eq_failures_of_tallies (h : Reckoned ttl inner past s) {n : Nat}
    (hn : Tallies ttl inner past env s n) : n = s.1.failures := by
  obtain ⟨stats, hstats, -, -, herrors⟩ := hn
  rw [stats_run] at hstats
  cases hstats
  rw [← herrors, h.errors, Nat.zero_add]

/-- Where all doubles that the store gives can be read back, nothing ever fails. -/
theorem tallies_zero (hrun : NotedRun capacity ttl inner contents start past env s)
    (hreadable : ∀ c a, c.slot?.isSome = true → inner.CanGive c a →
      ∀ x ∈ c.doubles a, (Decimal.reread? x).isSome = true) :
    Tallies ttl inner past env s 0 := by
  have h := reckoned_of_run hrun
  have hzero : s.1.failures = 0 := by
    by_contra hfailed
    obtain ⟨c, a, hcached, hgiven, hnone⟩ := h.unreadable hfailed
    have hsome := (Call.reread?_isSome_iff c a).2 (hreadable c a hcached hgiven)
    rw [hnone] at hsome
    cases hsome
  rw [← hzero]
  exact h.tallies env

/-- An absent answer has no doubles, so it is read back. -/
theorem not_absent_of_reread? {c : Call} {a : c.Answer} (h : c.reread? a = none) :
    c.isAbsent a = false := by
  by_contra habsent
  rw [Bool.not_eq_false] at habsent
  cases c with
  | frameworkId | job | lock | quota | host =>
    cases a with
    | none => cases h
    | some a => cases habsent
  | jobs | managerIds | tasks | locks | quotas | hosts | deploys | deploy => cases habsent

/-- While no time passes, a first read counts no failure and keeps what it was given. -/
theorem first_read (capacity : Nat) (hpos : 0 < ttl) (hlimit : ttl < Clock.limit) {c : Call}
    {slot : CacheSlot c.Answer} (hslot : c.slot? = some slot) {answers : Answers} {a : c.Answer}
    (hanswer : answers c = .ok a) (hkeeps : slot.keeps a = true) :
    let first := layer table ttl (Store.fixed answers : Store Unit).noted c .still
      (⟨CacheTable.new capacity, 0⟩, [], ())
    first.state.1.failures = 0 ∧ first.state.1.cache.Sound ∧ Env.still.Precedes first.env ∧
      ∃ expiry, 0 < expiry ∧
        first.state.1.cache.find? slot.key = some ⟨slot.key, slot.encode a, expiry⟩ := by
  intro first
  have hfresh : (CacheTable.new capacity).Sound := CacheTable.new_sound capacity
  let fresh : NotedState Unit := (⟨CacheTable.new capacity, 0⟩, [], ())
  have hempty : found slot fresh.1.cache Env.still.clock.reading = none := rfl
  obtain ⟨-, -, hfailures, -, hsound, -⟩ :=
    layer_miss_state ttl (Store.fixed answers : Store Unit).noted hslot hfresh hempty
  obtain ⟨env₁, failures, hclock, hmiss, -⟩ :=
    @layer_miss _ ttl (Store.fixed answers : Store Unit).noted c slot .still fresh hslot hfresh
      hempty
  have hload : (Store.fixed answers : Store Unit).noted c env₁ ([], ()) =
      ⟨.ok (.ok a), env₁, ([c], ())⟩ := by
    rw [Store.noted_run, Store.fixed, hanswer]
    rfl
  have hreading : env₁.clock.reading = 0 := by
    rw [hclock]
    rfl
  obtain ⟨env', hlater, hrun | ⟨habove, -⟩⟩ := hmiss hload
  · have hrun : first = _ := hrun
    refine ⟨hfailures, hsound, ?_, env₁.clock.reading + ttl, by omega, ?_⟩
    · rw [hrun]
      exact (Env.Precedes.of_tick hclock).trans hlater
    · rw [hrun, entryOf?_eq_some_iff.2 ⟨a, rfl, hkeeps, rfl⟩, stored, CacheTable.find?_put,
        if_pos rfl]
  · omega

/-- An answer that cannot be read back fails the second of two reads, while no time passes. -/
theorem exists_failure (capacity : Nat) (hpos : 0 < ttl) (hlimit : ttl < Clock.limit) {c : Call}
    (hcached : c.slot?.isSome = true) {answers : Answers} {a : c.Answer}
    (hanswer : answers c = .ok a) (hnone : c.reread? a = none) :
    let store := layer table ttl (Store.fixed answers : Store Unit).noted
    let first := store c .still (⟨CacheTable.new capacity, 0⟩, [], ())
    let second := store c first.env first.state
    second.state.1.failures = 1 := by
  intro store first second
  obtain ⟨slot, hslot⟩ := Option.isSome_iff_exists.1 hcached
  have hkeeps : slot.keeps a = true := by
    rw [Call.slot_keeps hslot, not_absent_of_reread? hnone]
    rfl
  obtain ⟨hfirst, hsound, hstill, expiry, hexpiry, hfind⟩ :=
    first_read capacity hpos hlimit hslot hanswer hkeeps
  have hfirst : first.state.1.failures = 0 := hfirst
  have hlive : first.state.1.cache.live? first.env.clock.reading slot.key =
      some (slot.encode a) := by
    rw [Env.still_reading hstill]
    exact CacheTable.live?_eq_some_iff.2 ⟨_, hfind, hexpiry, rfl⟩
  have hdecode : slot.decode (slot.encode a) = none := by
    rw [Call.slot_decode_encode hslot, hnone]
  have hlost : found slot first.state.1.cache first.env.clock.reading = none := by
    rw [found, hlive, Option.bind_some, hdecode]
  have hspoiled : spoiled slot first.state.1.cache first.env.clock.reading = true := by
    rw [spoiled_of_not_found hlost, hlive]
    rfl
  obtain ⟨-, -, hsecond, -⟩ :=
    layer_miss_state ttl (Store.fixed answers : Store Unit).noted hslot hsound hlost
  rw [hspoiled] at hsecond
  exact hsecond.trans (congrArg (· + 1) hfirst)

/-- All doubles in these answers to cached calls can be read back. -/
def Readable (Given : (c : Call) → c.Answer → Prop) : Prop :=
  ∀ c a, c.slot?.isSome = true → Given c a → ∀ x ∈ c.doubles a, (Decimal.reread? x).isSome = true

/-- Every hit saves a call, in every run over every store that gives no other answers than these. -/
def HitsSaveCalls (capacity ttl : Nat) (Given : (c : Call) → c.Answer → Prop) : Prop :=
  ∀ (ρ : Type) (inner : Store ρ) (contents : ρ) (start env : Env)
    (past : List (Visit (NotedState ρ))) (s : NotedState ρ),
    (∀ c a, inner.CanGive c a → Given c a) →
    NotedRun capacity ttl inner contents start past env s → Tallies ttl inner past env s 0

/-- In any run hits and calls are off by the failures that are counted. They are off by none, in all
runs over stores that give certain answers, if all doubles of these answers can be read back; and only
then, unless the span of the cache is such that it serves nothing. -/
theorem hits_save_calls_iff (capacity ttl : Nat) (Given : (c : Call) → c.Answer → Prop) :
    (∀ (ρ : Type) (inner : Store ρ) (contents : ρ) (start env : Env)
      (past : List (Visit (NotedState ρ))) (s : NotedState ρ),
      NotedRun capacity ttl inner contents start past env s →
        ∃ failures, Tallies ttl inner past env s failures) ∧
    (Readable Given → HitsSaveCalls capacity ttl Given) ∧
    (0 < ttl → ttl < Clock.limit → HitsSaveCalls capacity ttl Given → Readable Given) := by
  refine ⟨fun ρ inner contents start env past s hrun => ?_, fun hreadable => ?_, ?_⟩
  · exact ⟨_, (reckoned_of_run hrun).tallies env⟩
  · intro ρ inner contents start env past s hgiven hrun
    exact tallies_zero hrun fun c a hcached h => hreadable c a hcached (hgiven c a h)
  · intro hpos hlimit hlaw c a hcached hgiven
    rw [← Call.reread?_isSome_iff]
    by_contra hlost
    have hnone : c.reread? a = none := by simpa using hlost
    let answers : Answers := .only c a
    have hanswer : answers c = .ok a := by simp [answers, Answers.only]
    have honly : ∀ d b, (Store.fixed answers : Store Unit).CanGive d b → Given d b := by
      rintro d b ⟨env, s, hb⟩
      have hb : answers d = .ok b := Except.ok.inj hb
      by_cases hd : d = c
      · subst hd
        rw [hanswer] at hb
        cases hb
        exact hgiven
      · simp [answers, Answers.only, hd] at hb
    have hfailed := exists_failure capacity hpos hlimit hcached hanswer hnone
    have hrun : NotedRun capacity ttl (Store.fixed answers : Store Unit) () .still _ _ _ :=
      (Store.Run.empty.call c).call c
    have hzero := eq_failures_of_tallies (reckoned_of_run hrun) (hlaw _ _ _ _ _ _ _ honly hrun)
    rw [hfailed] at hzero
    cases hzero

/-- Four processors can be read back, so every hit on them saves a call. -/
theorem hits_save_calls_of_four_cpus :
    let Given := fun (c : Call) (a : c.Answer) =>
      ∀ x ∈ c.doubles a, x = Float.ofBits 4616189618054758400
    Readable Given ∧ HitsSaveCalls 10 (60 * billion) Given := by
  intro Given
  have hreadable : Readable Given := by
    intro c a _ hfour x hx
    rw [hfour x hx, Decimal.reread?_four]
    rfl
  exact ⟨hreadable, (hits_save_calls_iff 10 (60 * billion) Given).2.1 hreadable⟩

/-- Infinitely many processors are kept as a text that cannot be read back: the second of two reads is
counted as a hit, but the store is asked again. -/
theorem hit_saves_no_call_of_infinite_quota :
    let quota : Resources := ⟨Float.ofBits 9218868437227405312, 1, 2⟩
    let inner : Store Unit := .fixed (Ledger.empty.saveQuota "r" quota).answers
    let store := layer table (60 * billion) inner.noted
    let initial : NotedState Unit := (⟨CacheTable.new 10, 0⟩, [], ())
    let first := store (.quota "r") .still initial
    let second := store (.quota "r") first.env first.state
    let past : List (Visit (NotedState Unit)) :=
      [⟨.quota "r", .still, initial⟩, ⟨.quota "r", first.env, first.state⟩]
    inner.CanGive (.quota "r") (some quota) ∧
      NotedRun 10 (60 * billion) inner () .still past second.env second.state ∧
      ¬ Tallies (60 * billion) inner past second.env second.state 0 := by
  intro quota inner store initial first second past
  have hanswer : (Ledger.empty.saveQuota "r" quota).answers (.quota "r") = .ok (some quota) := by
    change Except.ok ((Ledger.empty.saveQuota "r" quota).quotas.lookup? "r") = _
    rw [Ledger.saveQuota, SortedMap.lookup?_put, if_pos rfl]
  have hnone : Call.reread? (.quota "r") (some quota) = none := by
    have hinfinite : (Float.ofBits 9218868437227405312).isFinite = false := by decide +kernel
    simp [Call.reread?, Resources.reread?, Decimal.reread?, quota, hinfinite]
  have hfailed := exists_failure 10 (by decide : 0 < 60 * billion) (by decide) rfl hanswer hnone
  have hrun : NotedRun 10 (60 * billion) inner () .still past second.env second.state :=
    (Store.Run.empty.call (.quota "r")).call (.quota "r")
  refine ⟨⟨.still, (), congrArg Except.ok hanswer⟩, hrun, fun htallies => ?_⟩
  have hzero := eq_failures_of_tallies (reckoned_of_run hrun) htallies
  rw [hfailed] at hzero
  cases hzero

end Exact

end Caching
end ClusterReads
