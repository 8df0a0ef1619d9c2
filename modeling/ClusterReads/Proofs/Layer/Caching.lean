import ClusterReads.Layer.Caching
import ClusterReads.Proofs.Act
import ClusterReads.Proofs.Cache.History
import ClusterReads.Proofs.Cache.Slot

/-!
# The steps of a cached read

A read looks into the cache, loads on a miss and keeps what was loaded. For each step, what it gives
and what it leaves in a table of one's own; and what an invalidation leaves there.
-/
namespace ClusterReads

open CacheService (table)

/-! ## What is left in a table -/

namespace CacheTable

/-- What the first table holds, the second held as well. -/
def Within (t t' : CacheTable) : Prop :=
  ∀ key e, t.find? key = some e → t'.find? key = some e

theorem get_within (t : CacheTable) (now : Nat)
    (asked : String) : (t.get now asked).2.Within t := by
  intro key e h
  rcases find?_get t now asked key with heq | ⟨hnone, -⟩
  · rwa [heq] at h
  · rw [hnone] at h
    cases h

theorem makeRoom_within {t : CacheTable} (ht : t.Sound) (order : EntryOrder) (now : Nat)
    (fresh : String) : (t.makeRoom order now fresh).1.Within t := by
  intro key e h
  rcases find?_makeRoom ht order now fresh key with heq | ⟨hnone, -⟩
  · rwa [heq] at h
  · rw [hnone] at h
    cases h

theorem makeRoom_sound {t : CacheTable} (ht : t.Sound) (order : EntryOrder) (now : Nat)
    (fresh : String) : (t.makeRoom order now fresh).1.Sound :=
  (write_sound ht order now ⟨fresh, "", 0⟩).1

end CacheTable

namespace Caching

variable {ρ α : Type}

/-- What can be served from a table at a moment. -/
def found (slot : CacheSlot α) (t : CacheTable) (now : Nat) : Option α :=
  (t.live? now slot.key).bind slot.decode

/-- What is served was kept, and has not expired. -/
theorem exists_entry_of_found {slot : CacheSlot α} {t : CacheTable} {now : Nat} {a : α}
    (h : found slot t now = some a) :
    ∃ e, t.find? slot.key = some e ∧ now < e.expiry ∧ slot.decode e.value = some a := by
  obtain ⟨value, hlive, hdecode⟩ := Option.bind_eq_some_iff.1 h
  obtain ⟨e, hfind, hnow, rfl⟩ := CacheTable.live?_eq_some_iff.1 hlive
  exact ⟨e, hfind, hnow, hdecode⟩

/-- What was kept and has not expired is served as it is read back. -/
theorem found_of_find? {c : Call} {slot : CacheSlot c.Answer} (hslot : c.slot? = some slot)
    {t : CacheTable} {a b : c.Answer} {now expiry : Nat}
    (hfind : t.find? slot.key = some ⟨slot.key, slot.encode a, expiry⟩) (hlive : now < expiry)
    (hreread : c.reread? a = some b) : found slot t now = some b := by
  rw [found, CacheTable.live?_eq_some_iff.2 ⟨_, hfind, hlive, rfl⟩, Option.bind_some,
    Call.slot_decode_encode hslot, hreread]

/-- The entry that a result leaves in a table, if it is worth one. -/
def entryOf? (slot : CacheSlot α) (expiry : Nat) : StoreResult α → Option CacheEntry
  | .ok a => if slot.keeps a then some ⟨slot.key, slot.encode a, expiry⟩ else none
  | .error _ => none

theorem entryOf?_eq_some_iff {slot : CacheSlot α} {expiry : Nat} {result : StoreResult α}
    {e : CacheEntry} :
    entryOf? slot expiry result = some e ↔
      ∃ a, result = .ok a ∧ slot.keeps a = true ∧ e = ⟨slot.key, slot.encode a, expiry⟩ := by
  cases result with
  | error e => simp [entryOf?]
  | ok a =>
    by_cases h : slot.keeps a
    · simp only [entryOf?, if_pos h, Option.some.injEq, Except.ok.injEq]
      constructor
      · rintro rfl
        exact ⟨a, rfl, h, rfl⟩
      · rintro ⟨b, rfl, -, rfl⟩
        rfl
    · simp only [entryOf?, if_neg h]
      constructor
      · intro hentry
        cases hentry
      · rintro ⟨b, hb, hkeeps, -⟩
        cases hb
        exact absurd hkeeps h

/-- The table with an entry written to it, if there is one. -/
def stored (t : CacheTable) (order : EntryOrder) (now : Nat) : Option CacheEntry → CacheTable
  | some e => (t.makeRoom order now e.key).1.put e
  | none => t

theorem stored_sound {t : CacheTable} (ht : t.Sound) (order : EntryOrder) (now : Nat)
    (e : Option CacheEntry) : (stored t order now e).Sound := by
  cases e with
  | none => exact ht
  | some e => exact (CacheTable.write_sound ht order now e).2

/-- What a table holds after a write was written then, or was held before. -/
theorem find?_stored {t : CacheTable} (ht : t.Sound) {order : EntryOrder} {now : Nat}
    {new : Option CacheEntry} {key : String} {e : CacheEntry}
    (h : (stored t order now new).find? key = some e) :
    (new = some e ∧ key = e.key) ∨ t.find? key = some e := by
  cases new with
  | none => exact Or.inr h
  | some new =>
    rw [stored, CacheTable.find?_put] at h
    split at h
    · next hkey =>
      cases h
      exact Or.inl ⟨rfl, hkey⟩
    · exact Or.inr (CacheTable.makeRoom_within ht _ _ _ key e h)

/-! ## The steps of a read -/

theorem getAs_run (decode : String → Option α) (key : String) (env : Env) (t : CacheTable) :
    table.getAs decode key env t =
      ⟨.ok (match t.live? env.clock.reading key with
        | none => .ok none
        | some text => match decode text with
          | some a => .ok (some a)
          | none => .error CacheService.undecodable),
        { env with clock := env.clock.tick }, (t.get env.clock.reading key).2⟩ := by
  rw [CacheService.getAs, Act.bind_run, CacheService.table_get_run]
  simp only
  cases t.live? env.clock.reading key with
  | none => rfl
  | some text =>
    simp only
    cases decode text <;> rfl

theorem look_run (slot : CacheSlot α) (env : Env) (s : CachingState CacheTable) :
    ∃ journal failures, look table slot env s =
      ⟨.ok (found slot s.cache env.clock.reading),
        { env with clock := env.clock.tick, journal := journal },
        ⟨(s.cache.get env.clock.reading slot.key).2, failures⟩⟩ := by
  rw [look, Act.bind_run, useCache, getAs_run, found]
  cases s.cache.live? env.clock.reading slot.key with
  | none => exact ⟨_, _, rfl⟩
  | some text =>
    simp only [Option.bind_some]
    cases slot.decode text with
    | none => exact ⟨_, _, rfl⟩
    | some a => exact ⟨_, _, rfl⟩

/-- A result that is worth an entry is written, unless the clock cannot show when it expires. -/
theorem keep_run (ttl : Nat) (slot : CacheSlot α) (result : StoreResult α) (env : Env)
    {s : CachingState CacheTable} (ht : s.cache.Sound) :
    ∃ env', env.Precedes env' ∧
      (keep table ttl slot result env s = ⟨.ok (), env', ⟨stored s.cache env.order env.clock.reading
        (entryOf? slot (env.clock.reading + ttl) result), s.failures⟩⟩ ∨
      (Clock.limit ≤ env.clock.reading + ttl ∧ ∃ t, t.Sound ∧ t.Within s.cache ∧
        keep table ttl slot result env s =
          ⟨.error .instantOverflow, env', { s with cache := t }⟩)) := by
  cases result with
  | error e => exact ⟨env, .refl env, Or.inl rfl⟩
  | ok a =>
    by_cases h : slot.keeps a
    · obtain ⟨journal, hset⟩ := CacheService.table_set_run slot.key (slot.encode a) ttl env s.cache
      refine ⟨{ env with clock := env.clock.tick, journal := journal }, .of_tick rfl, ?_⟩
      rw [keep, if_pos h, Act.bind_run, useCache, hset]
      by_cases hspan : env.clock.reading + ttl < Clock.limit
      · rw [if_pos hspan, entryOf?, if_pos h]
        exact Or.inl rfl
      · rw [if_neg hspan]
        exact Or.inr ⟨Nat.le_of_not_lt hspan, _, CacheTable.makeRoom_sound ht _ _ _,
          CacheTable.makeRoom_within ht _ _ _, rfl⟩
    · refine ⟨env, .refl env, Or.inl ?_⟩
      rw [keep, if_neg h, entryOf?, if_neg h]
      rfl

/-- A write leaves what was held before, and at most the entry of the result. -/
theorem find?_keep (ttl : Nat) (slot : CacheSlot α) (result : StoreResult α) (env : Env)
    {s : CachingState CacheTable} (ht : s.cache.Sound) :
    (keep table ttl slot result env s).state.cache.Sound ∧ ∀ key e,
      (keep table ttl slot result env s).state.cache.find? key = some e →
        (∃ a, result = .ok a ∧ key = slot.key ∧ e.value = slot.encode a) ∨
        s.cache.find? key = some e := by
  obtain ⟨env', -, hrun | ⟨-, t, hsound, hwithin, hrun⟩⟩ := keep_run ttl slot result env ht
  · rw [hrun]
    refine ⟨stored_sound ht _ _ _, fun key e hfind => ?_⟩
    rcases find?_stored ht hfind with ⟨hnew, rfl⟩ | hold
    · obtain ⟨a, hresult, -, rfl⟩ := entryOf?_eq_some_iff.1 hnew
      exact Or.inl ⟨a, hresult, rfl, rfl⟩
    · exact Or.inr hold
  · rw [hrun]
    exact ⟨hsound, fun key e hfind => Or.inr (hwithin key e hfind)⟩

/-! ## The layer -/

section Layer

variable {ttl : Nat} (inner : Store ρ) {c : Call} {slot : CacheSlot c.Answer} {env : Env}
  {s : CachingState CacheTable × ρ}

/-- What is found is served. -/
theorem layer_hit (hslot : c.slot? = some slot) {a : c.Answer}
    (hfound : found slot s.1.cache env.clock.reading = some a) :
    ∃ env' failures, env.tick.Precedes env' ∧ layer table ttl inner c env s =
      ⟨.ok (.ok a), env', (⟨(s.1.cache.get env.clock.reading slot.key).2, failures⟩, s.2)⟩ := by
  obtain ⟨journal, failures, hlook⟩ :=
    look_run slot { env with journal := env.journal.enter c.operation.name } s.1
  have hread : readThrough table ttl slot (inner c)
      { env with journal := env.journal.enter c.operation.name } s =
      ⟨.ok (.ok a), { env with clock := env.clock.tick, journal := journal },
        (⟨(s.1.cache.get env.clock.reading slot.key).2, failures⟩, s.2)⟩ := by
    simp only [readThrough, Act.bind_run, Act.onFst, hlook, hfound]
    rfl
  refine ⟨{ env with clock := env.clock.tick, journal := journal.leave }, failures,
    .of_clock_eq rfl, ?_⟩
  rw [layer, hslot]
  exact Act.within_run hread

/-- When nothing is found, the store is asked, and what it gives is kept; a fault of the store ends
the read. -/
theorem layer_miss (hslot : c.slot? = some slot) (ht : s.1.cache.Sound)
    (hfound : found slot s.1.cache env.clock.reading = none) :
    ∃ env₁ failures, env₁.clock = env.clock.tick ∧
      (∀ {result : StoreResult c.Answer} {env₂ : Env} {σ : ρ},
        inner c env₁ s.2 = ⟨.ok result, env₂, σ⟩ → ∃ env', env₂.Precedes env' ∧
          (layer table ttl inner c env s =
            ⟨.ok result, env', (⟨stored (s.1.cache.get env.clock.reading slot.key).2 env₂.order
              env₂.clock.reading (entryOf? slot (env₂.clock.reading + ttl) result), failures⟩, σ)⟩ ∨
          (Clock.limit ≤ env₂.clock.reading + ttl ∧ ∃ t, t.Sound ∧ t.Within s.1.cache ∧
            layer table ttl inner c env s = ⟨.error .instantOverflow, env', (⟨t, failures⟩, σ)⟩))) ∧
      ∀ {fault : Fault} {env₂ : Env} {σ : ρ},
        inner c env₁ s.2 = ⟨.error fault, env₂, σ⟩ → ∃ env', env₂.Precedes env' ∧
          layer table ttl inner c env s = ⟨.error fault, env',
            (⟨(s.1.cache.get env.clock.reading slot.key).2, failures⟩, σ)⟩ := by
  obtain ⟨journal, failures, hlook⟩ :=
    look_run slot { env with journal := env.journal.enter c.operation.name } s.1
  have hlayer : layer table ttl inner c env s = Act.within c.operation.name
      (readThrough table ttl slot (inner c)) env s := by
    rw [layer, hslot]
  refine ⟨{ env with clock := env.clock.tick, journal := journal }, failures, rfl, ?_, ?_⟩
  · intro result env₂ σ hload
    obtain ⟨later, hlater, hkeep⟩ := keep_run ttl slot result env₂
      (s := ⟨(s.1.cache.get env.clock.reading slot.key).2, failures⟩) (CacheTable.get_sound ht _ _)
    refine ⟨{ later with journal := later.journal.leave }, hlater.trans (.of_clock_eq rfl), ?_⟩
    rw [hlayer]
    rcases hkeep with hkeep | ⟨hlimit, t, htable, hwithin, hkeep⟩
    · refine Or.inl (Act.within_run ?_)
      simp only [readThrough, Act.bind_run, Act.onFst, hlook, hfound, Act.onSnd, hload, hkeep]
      rfl
    · refine Or.inr ⟨hlimit, t, htable,
        fun key e h => CacheTable.get_within _ _ _ key e (hwithin key e h), Act.within_run ?_⟩
      simp only [readThrough, Act.bind_run, Act.onFst, hlook, hfound, Act.onSnd, hload, hkeep]
  · intro fault env₂ σ hload
    refine ⟨{ env₂ with journal := env₂.journal.leave }, .of_clock_eq rfl, ?_⟩
    rw [hlayer]
    refine Act.within_run ?_
    simp only [readThrough, Act.bind_run, Act.onFst, hlook, hfound, Act.onSnd, hload]

/-- A call that is not cached is passed on. -/
theorem layer_uncached (hslot : c.slot? = none) :
    layer table ttl inner c env s = (inner c).onSnd env s := by
  rw [layer, hslot]

end Layer

/-! ## Invalidation -/

/-- What an invalidation asks the cache to remove in one step. -/
inductive Removal where
  | single (key : String)
  | family (f : CacheFamily)
  | everything
  deriving DecidableEq, Repr

namespace Removal

/-- The request to a service. -/
def request {κ : Type} (service : CacheService κ) : Removal → Act κ (StoreResult Unit)
  | .single key => deleteAll service [key]
  | .family f => do
    let result ← service.clearPrefix f.start
    return result.map fun _ => ()
  | .everything => service.clear

/-- What is left of a table. -/
def apply : Removal → CacheTable → CacheTable
  | .single key, t => (t.delete key).2
  | .family f, t => (t.clearPrefix f.start).2
  | .everything, t => t.clear.2

def removes : Removal → String → Bool
  | .single key, k => k = key
  | .family f, k => CacheTable.startsWith k f.start
  | .everything, _ => true

theorem request_run (r : Removal) (env : Env) (t : CacheTable) :
    r.request table env t = ⟨.ok (.ok ()), env, r.apply t⟩ := by
  cases r <;> rfl

theorem find?_apply (r : Removal) (t : CacheTable) (key : String) :
    (r.apply t).find? key = if r.removes key then none else t.find? key := by
  cases r with
  | single k => simp [apply, removes, CacheTable.find?_delete]
  | family f => exact CacheTable.find?_clearPrefix t f.start key
  | everything => simp [apply, removes, CacheTable.find?_clear]

theorem apply_sound (r : Removal) {t : CacheTable} (ht : t.Sound) : (r.apply t).Sound := by
  cases r <;> exact CacheTable.remove_sound ht _

theorem apply_within (r : Removal) (t : CacheTable) : (r.apply t).Within t := by
  intro key e h
  rw [find?_apply] at h
  split at h
  · cases h
  · exact h

end Removal

namespace Invalidation

/-- The steps of an invalidation. -/
def removals : Invalidation → List Removal
  | .frameworkId => [.single frameworkIdKey]
  | .quotas => [.family .quota]
  | .host name => [.single (CacheFamily.host.keyOf name), .single CacheFamily.host.allKey]
  | .deploys => [.family .deploy]
  | .everything => [.everything]

/-- The calls whose answers an invalidation is to take out. -/
def covers : Invalidation → Call → Bool
  | .frameworkId, .frameworkId => true
  | .quotas, .quotas | .quotas, .quota _ => true
  | .host name, .host other => other = name
  | .host _, .hosts => true
  | .deploys, .deploys | .deploys, .deploy _ => true
  | .everything, _ => true
  | _, _ => false

/-- The table that an invalidation leaves. -/
def apply (i : Invalidation) (t : CacheTable) : CacheTable :=
  i.removals.foldl (fun t r => r.apply t) t

theorem apply_sound (i : Invalidation) {t : CacheTable} (ht : t.Sound) : (i.apply t).Sound := by
  rw [apply]
  generalize i.removals = rs
  induction rs generalizing t with
  | nil => exact ht
  | cons r rs ih => exact ih (r.apply_sound ht)

theorem find?_foldl_apply (rs : List Removal) (t : CacheTable) (key : String) :
    (rs.foldl (fun t r => r.apply t) t).find? key =
      if rs.any (·.removes key) then none else t.find? key := by
  induction rs generalizing t with
  | nil => rfl
  | cons r rs ih =>
    rw [List.foldl_cons, ih, Removal.find?_apply, List.any_cons]
    cases r.removes key <;> simp

/-- Some step removes the key of each call that is covered, and no step that of another. -/
theorem any_removes {c : Call} {key : String} (hkey : c.key? = some key) (i : Invalidation) :
    i.removals.any (·.removes key) = i.covers c := by
  have hfamily := Call.startsWith_key_iff hkey
  cases i with
  | frameworkId =>
    cases c <;> cases hkey <;> simp [removals, covers, Removal.removes, CacheSlot.lookup,
      CacheSlot.always]
  | quotas =>
    have hquota := hfamily .quota
    cases c <;> cases hkey <;> simpa [removals, covers, Removal.removes, Call.family?] using hquota
  | host name =>
    cases c <;> cases hkey <;> simp [removals, covers, Removal.removes, CacheSlot.lookup,
      CacheSlot.always]
  | deploys =>
    have hdeploy := hfamily .deploy
    cases c <;> cases hkey <;> simpa [removals, covers, Removal.removes, Call.family?] using hdeploy
  | everything => cases c <;> rfl

/-- An invalidation takes out the answers of the calls that it covers, and no others. -/
theorem find?_apply {c : Call} {key : String} (hkey : c.key? = some key) (i : Invalidation)
    (t : CacheTable) : (i.apply t).find? key = if i.covers c then none else t.find? key := by
  rw [apply, find?_foldl_apply, any_removes hkey]

end Invalidation

theorem invalidate_run (i : Invalidation) (env : Env) (t : CacheTable) :
    invalidate table i env t = ⟨.ok (.ok ()), env, i.apply t⟩ := by
  cases i <;> rfl

end Caching
end ClusterReads
