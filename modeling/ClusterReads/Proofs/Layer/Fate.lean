import ClusterReads.Layer.Validation
import ClusterReads.Proofs.Run
import ClusterReads.Proofs.Layer.Caching

/-!
# A cache over validation

A call of a store that is validated and cached is refused, served from the cache or passed on. Main
statement: over a table in which nothing is kept for calls with a flaw every call has one of these fates,
and leaves such a table.
-/
namespace ClusterReads

open CacheService (table)

variable {σ ρ : Type}

/-! ## What a table serves -/

namespace Caching

/-- What a call would be served from a table at a moment. -/
def served? (c : Call) (t : CacheTable) (now : Nat) : Option c.Answer :=
  c.slot?.bind fun slot => found slot t now

theorem served?_eq_found {c : Call} {slot : CacheSlot c.Answer} (hslot : c.slot? = some slot)
    (t : CacheTable) (now : Nat) : served? c t now = found slot t now := by
  rw [served?, hslot, Option.bind_some]

theorem served?_eq_none {c : Call} (hslot : c.slot? = none) (t : CacheTable) (now : Nat) :
    served? c t now = none := by
  rw [served?, hslot, Option.bind_none]

/-- A table in which nothing is kept for calls that have a flaw. -/
structure Flawless (t : CacheTable) : Prop where
  sound : t.Sound
  find?_eq_none : ∀ (c : Call) (slot : CacheSlot c.Answer), c.slot? = some slot →
    c.flaw?.isSome = true → t.find? slot.key = none

theorem flawless_new (capacity : Nat) : Flawless (CacheTable.new capacity) :=
  ⟨CacheTable.new_sound capacity, fun _ slot _ _ => CacheTable.find?_new capacity slot.key⟩

theorem Flawless.within {t t' : CacheTable} (h : Flawless t) (hsound : t'.Sound)
    (hwithin : t'.Within t) : Flawless t' := by
  refine ⟨hsound, fun c slot hslot hflaw => ?_⟩
  have hnone := h.find?_eq_none c slot hslot hflaw
  cases hfind : t'.find? slot.key with
  | none => rfl
  | some e =>
    rw [hwithin _ _ hfind] at hnone
    cases hnone

/-- Keeping a result of a call without a flaw, or an error, leaves a flawless table. -/
theorem Flawless.stored {t : CacheTable} (h : Flawless t) {c : Call} {slot : CacheSlot c.Answer}
    (hslot : c.slot? = some slot) {result : StoreResult c.Answer}
    (hresult : c.flaw?.isSome = true → ∃ e, result = .error e) (order : EntryOrder)
    (now expiry : Nat) : Flawless (Caching.stored t order now (entryOf? slot expiry result)) := by
  refine ⟨stored_sound h.sound _ _ _, fun d slot' hslot' hflaw => ?_⟩
  cases hfind : (Caching.stored t order now (entryOf? slot expiry result)).find? slot'.key with
  | none => rfl
  | some e =>
    rcases find?_stored h.sound hfind with ⟨hnew, hkey⟩ | hold
    · obtain ⟨a, ha, -, rfl⟩ := entryOf?_eq_some_iff.1 hnew
      cases Call.slot_injective hslot hslot' hkey
      obtain ⟨e, he⟩ := hresult hflaw
      rw [he] at ha
      cases ha
    · rw [h.find?_eq_none d slot' hslot' hflaw] at hold
      cases hold

theorem Flawless.served?_eq_none {t : CacheTable} (h : Flawless t) {c : Call}
    (hflaw : c.flaw?.isSome = true) (now : Nat) : served? c t now = none := by
  cases hslot : c.slot? with
  | none => exact Caching.served?_eq_none hslot t now
  | some slot =>
    rw [served?_eq_found hslot]
    cases hfound : found slot t now with
    | none => rfl
    | some a =>
      obtain ⟨e, hfind, -⟩ := exists_entry_of_found hfound
      rw [h.find?_eq_none c slot hslot hflaw] at hfind
      cases hfind

end Caching

/-! ## What becomes of a call -/

/-- Every call ends with a result, on the same clock. -/
def Store.Returns (store : Store σ) : Prop :=
  ∀ c env s, ∃ result later s', store c env s = ⟨.ok result, later, s'⟩ ∧ env.Precedes later

theorem Store.Returns.counted {store : Store ρ} (h : store.Returns) : store.counted.Returns := by
  intro c env s
  obtain ⟨result, later, s', hrun, hlater⟩ := h c env s.2
  refine ⟨result, later, (s.1.add (CallCounts.label c), s'), ?_, hlater⟩
  rw [Store.counted_run, hrun]

theorem Store.Returns.noted {store : Store ρ} (h : store.Returns) : store.noted.Returns := by
  intro c env s
  obtain ⟨result, later, s', hrun, hlater⟩ := h c env s.2
  refine ⟨result, later, (s.1 ++ [c], s'), ?_, hlater⟩
  rw [Store.noted_run, hrun]

/-- How a call ends over a table at a moment, and what it makes of the state of the base. -/
inductive Fate (base : Store σ) (c : Call) (t : CacheTable) (now : Nat) (s : σ) :
    StoreResult c.Answer → σ → Prop
  | refused {flaw : Flaw} (hflaw : c.flaw? = some flaw) (hserved : Caching.served? c t now = none) :
    Fate base c t now s (.error flaw.error) s
  | served {a : c.Answer} (hflaw : c.flaw? = none) (hserved : Caching.served? c t now = some a) :
    Fate base c t now s (.ok a) s
  | passed {env later : Env} {result : StoreResult c.Answer} {s' : σ} (hflaw : c.flaw? = none)
    (hserved : Caching.served? c t now = none) (hrun : base c env s = ⟨.ok result, later, s'⟩) :
    Fate base c t now s result s'

namespace Fate

variable {base : Store σ} {c : Call} {t : CacheTable} {now : Nat} {s s' : σ}
  {result : StoreResult c.Answer}

theorem eq_error (h : Fate base c t now s result s') {flaw : Flaw} (hflaw : c.flaw? = some flaw) :
    result = .error flaw.error := by
  cases h with
  | refused hflaw' =>
    rw [hflaw'] at hflaw
    cases hflaw
    rfl
  | served hflaw' | passed hflaw' =>
    rw [hflaw'] at hflaw
    cases hflaw

theorem eq_ok (h : Fate base c t now s result s') {a : c.Answer}
    (hserved : Caching.served? c t now = some a) : result = .ok a := by
  cases h with
  | served _ hserved' =>
    rw [hserved'] at hserved
    cases hserved
    rfl
  | refused _ hserved' | passed _ hserved' =>
    rw [hserved'] at hserved
    cases hserved

end Fate

namespace Caching

variable {base : Store σ}

/-- Validation refuses a call or passes it on; a flaw always makes an error. -/
theorem validated_fate (hbase : base.Returns) {c : Call} {t : CacheTable} {now : Nat}
    (hserved : served? c t now = none) (env : Env) (s : σ) : ∃ result later s',
    Validation.layer base c env s = ⟨.ok result, later, s'⟩ ∧ env.Precedes later ∧
      Fate base c t now s result s' ∧ (c.flaw?.isSome = true → ∃ e, result = .error e) := by
  unfold Validation.layer
  cases hflaw : c.flaw? with
  | some flaw =>
    exact ⟨_, _, s, rfl, .of_clock_eq rfl, .refused hflaw hserved, fun _ => ⟨_, rfl⟩⟩
  | none =>
    obtain ⟨result, later, s', hrun, hlater⟩ := hbase c env s
    exact ⟨result, later, s', hrun, hlater, .passed hflaw hserved hrun, fun h => by cases h⟩

/-- Over a flawless table each call has its fate, and leaves a flawless table. -/
theorem layer_fate (hbase : base.Returns) {ttl : Nat} (c : Call) {env : Env}
    {s : CachingState CacheTable × Unit × σ} (ht : Flawless s.1.cache)
    (hspan : env.clock.Spans ttl) : ∃ result later t failures s',
    layer table ttl (Store.onSnd (Validation.layer base)) c env s =
        ⟨.ok result, later, (⟨t, failures⟩, (), s')⟩ ∧ env.Precedes later ∧ Flawless t ∧
      Fate base c s.1.cache env.clock.reading s.2.2 result s' := by
  cases hslot : c.slot? with
  | none =>
    obtain ⟨result, later, s', hrun, hlater, hfate, -⟩ := validated_fate hbase
      (served?_eq_none hslot s.1.cache env.clock.reading) env s.2.2
    refine ⟨result, later, s.1.cache, s.1.failures, s', ?_, hlater, ht, hfate⟩
    rw [layer_uncached _ hslot]
    exact Store.onSnd_run (Store.onSnd_run hrun)
  | some slot =>
    have hget := ht.within (CacheTable.get_sound ht.sound env.clock.reading slot.key)
      (CacheTable.get_within _ _ _)
    cases hfound : found slot s.1.cache env.clock.reading with
    | some a =>
      have hserved : served? c s.1.cache env.clock.reading = some a := by
        rw [served?_eq_found hslot, hfound]
      have hflaw : c.flaw? = none := by
        cases hflaw : c.flaw? with
        | none => rfl
        | some flaw =>
          rw [ht.served?_eq_none (by rw [hflaw]; rfl)] at hserved
          cases hserved
      obtain ⟨later, failures, hlater, hrun⟩ :=
        layer_hit (Store.onSnd (Validation.layer base)) hslot hfound
      exact ⟨.ok a, later, _, failures, s.2.2, hrun, (Env.Precedes.tick env).trans hlater, hget,
        .served hflaw hserved⟩
    | none =>
      have hserved : served? c s.1.cache env.clock.reading = none := by
        rw [served?_eq_found hslot, hfound]
      obtain ⟨env₁, failures, hclock, hmiss, -⟩ :=
        layer_miss (Store.onSnd (Validation.layer base)) hslot ht.sound hfound
      have hstart : env.Precedes env₁ := .of_tick hclock
      obtain ⟨result, env₂, s', hrun, hlater, hfate, hresult⟩ :=
        validated_fate hbase hserved env₁ s.2.2
      obtain ⟨later, hlast, hlayer | ⟨hlimit, -⟩⟩ := hmiss (Store.onSnd_run hrun)
      · exact ⟨result, later, _, failures, s', hlayer, hstart.trans (hlater.trans hlast),
          hget.stored hslot hresult _ _ _, hfate⟩
      · have hspan₂ := (hstart.trans hlater).spans hspan env₂.clock.taken
        exact absurd hspan₂ (Nat.not_lt.2 hlimit)

end Caching

end ClusterReads
