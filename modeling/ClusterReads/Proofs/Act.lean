import ClusterReads.Act

/-!
# Surroundings of an action

What an action may do to the surroundings in which it runs: the clock goes on and never back.
-/
namespace ClusterReads

/-- The surroundings after one more reading. -/
def Env.tick (env : Env) : Env :=
  { env with clock := env.clock.tick }

/-- The second surroundings follow the first on one clock. -/
structure Env.Precedes (env later : Env) : Prop where
  readingAt_eq : later.clock.readingAt = env.clock.readingAt
  taken_le : env.clock.taken ≤ later.clock.taken

namespace Env.Precedes

variable {a b c : Env}

theorem refl (env : Env) : env.Precedes env :=
  ⟨rfl, Nat.le_refl _⟩

theorem trans (hab : a.Precedes b) (hbc : b.Precedes c) : a.Precedes c :=
  ⟨hbc.readingAt_eq.trans hab.readingAt_eq, Nat.le_trans hab.taken_le hbc.taken_le⟩

/-- A reading was taken, and other things were done. -/
theorem of_tick {env later : Env} (h : later.clock = env.clock.tick) : env.Precedes later := by
  refine ⟨by rw [h]; rfl, ?_⟩
  rw [h]
  exact Nat.le_succ _

theorem tick (env : Env) : env.Precedes env.tick :=
  of_tick rfl

theorem of_clock_eq {env later : Env} (h : later.clock = env.clock) : env.Precedes later :=
  ⟨by rw [h], Nat.le_of_eq (by rw [h])⟩

theorem monotone (h : a.Precedes b) (ha : a.clock.Monotone) : b.clock.Monotone := by
  intro i j hij
  rw [h.readingAt_eq]
  exact ha i j hij

theorem reading_le (h : a.Precedes b)
    (ha : a.clock.Monotone) : a.clock.reading ≤ b.clock.reading := by
  rw [Clock.reading, Clock.reading, h.readingAt_eq]
  exact ha _ _ h.taken_le

end Env.Precedes

/-- What an action does inside a span it does outside, where the span has been left. -/
theorem Act.within_run {σ α : Type} {x : Act σ α} {span : String} {env later : Env} {s s' : σ}
    {outcome : Except Fault α}
    (h : x { env with journal := env.journal.enter span } s = ⟨outcome, later, s'⟩) :
    x.within span env s = ⟨outcome, { later with journal := later.journal.leave }, s'⟩ := by
  rw [within, h]

/-- An action on the shared cache leaves there what it makes of it. -/
theorem Act.onShared_run {σ α : Type} {x : Act CacheTable α} {env later : Env} {t : CacheTable}
    {outcome : Except Fault α} (h : x env env.cache = ⟨outcome, later, t⟩) (s : σ) :
    x.onShared env s = ⟨outcome, { later with cache := t }, s⟩ := by
  rw [onShared, h]

/-- Every moment that the clock shows is one from which it can count so far. -/
def Clock.Spans (clock : Clock) (ttl : Nat) : Prop :=
  ∀ i, clock.readingAt i + ttl < Clock.limit

theorem Env.Precedes.spans {a b : Env} (h : a.Precedes b) {ttl : Nat} (ha : a.clock.Spans ttl) :
    b.clock.Spans ttl := by
  intro i
  rw [h.readingAt_eq]
  exact ha i

/-- Surroundings in which no time passes. -/
def Env.still : Env :=
  ⟨⟨fun _ => 0, fun _ => Timestamp.epoch, 0⟩, default, default, [], default⟩

theorem Env.still_monotone : Env.still.clock.Monotone :=
  fun _ _ _ => Nat.le_refl 0

theorem Env.still_spans {ttl : Nat} (h : ttl < Clock.limit) : Env.still.clock.Spans ttl := by
  intro i
  change 0 + ttl < Clock.limit
  rwa [Nat.zero_add]

/-- However long nothing happens, it is still the first moment. -/
theorem Env.still_reading {env : Env} (h : Env.still.Precedes env) : env.clock.reading = 0 := by
  rw [Clock.reading, h.readingAt_eq]
  rfl

end ClusterReads
