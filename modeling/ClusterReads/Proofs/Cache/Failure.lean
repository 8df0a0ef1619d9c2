import ClusterReads.Proofs.Act
import ClusterReads.Proofs.Cache.History

/-!
# Sets that fail

A set fails when no clock can show the moment until which it is to last; by then it has made room. Main
statement: what had not expired and the statistics survive a failed set exactly when there is nothing to
evict for it, and otherwise the entry that expires first is lost and counted as evicted.
-/
namespace ClusterReads

open CacheService (table)

namespace CacheTable

/-- The entries that have not expired. -/
def unexpired (t : CacheTable) (now : Nat) : List CacheEntry :=
  t.entries.filter fun e => now < e.expiry

/-- The tables that commands lead to, those that fail included. -/
inductive Reached (capacity : Nat) : CacheTable → Prop
  | new : Reached capacity (new capacity)
  | perform {t : CacheTable} (c : CacheCommand) (env : Env) (h : Reached capacity t) :
      Reached capacity (c.perform env t).state

variable {capacity ttl : Nat} {env : Env} {t : CacheTable}

theorem set_run_of_overflow (hfail : Clock.limit ≤ env.clock.reading + ttl) (key value : String)
    (t : CacheTable) : ∃ later, table.set key value ttl env t =
      ⟨.error .instantOverflow, later, (t.makeRoom env.order env.clock.reading key).1⟩ := by
  obtain ⟨journal, hrun⟩ := CacheService.table_set_run key value ttl env t
  rw [if_neg (Nat.not_lt.2 hfail)] at hrun
  exact ⟨_, hrun⟩

theorem Reached.sound (h : Reached capacity t) : t.Sound ∧ t.capacity = max capacity 1 := by
  induction h with
  | new => exact ⟨new_sound capacity, rfl⟩
  | @perform t c env _ ih =>
    by_cases hc : c.InRange env.clock.reading
    · obtain ⟨hsound, hcapacity⟩ := CacheCommand.perform_sound hc ih.1
      exact ⟨hsound, hcapacity.trans ih.2⟩
    · cases c with
      | set key value ttl =>
        obtain ⟨later, hrun⟩ := set_run_of_overflow (Nat.not_lt.1 hc) key value t
        rw [CacheCommand.perform, Act.map_run, hrun]
        exact ⟨(write_sound ih.1 _ _ ⟨key, value, 0⟩).1, (makeRoom_capacity ih.1 _ _ key).trans ih.2⟩
      | get | delete | clearPrefix | clear => exact absurd trivial hc

/-- A purge takes nothing that has not expired. -/
theorem unexpired_purge (t : CacheTable) (now : Nat) :
    (t.purge now).unexpired now = t.unexpired now := by
  rw [unexpired, purge, keep, List.filter_filter]
  simp only [Bool.and_self]
  rfl

theorem unexpired_of_live {now : Nat} (h : ∀ e ∈ t.entries, now < e.expiry) :
    t.unexpired now = t.entries :=
  List.filter_eq_self.2 fun e he => decide_eq_true (h e he)

/-- Nothing that lasts is lost for a key that is held, or while there is room, or when a purge makes room. -/
theorem makeRoom_keeps (ht : t.Sound) (order : EntryOrder) {now : Nat} {key : String}
    (h : t.find? key ≠ none ∨ t.size < t.capacity ∨ ∃ e ∈ t.entries, e.expiry ≤ now) :
    (t.makeRoom order now key).1.unexpired now = t.unexpired now ∧
      (t.makeRoom order now key).1.stats = t.stats := by
  rcases makeRoom_cases ht order now key with ⟨hm, -⟩ | ⟨hm, -, -⟩ | ⟨v, hv, -⟩
  · rw [hm]
    exact ⟨rfl, rfl⟩
  · rw [hm]
    exact ⟨t.unexpired_purge now, rfl⟩
  · rcases h with hheld | hroom | ⟨e, he, hold⟩
    · exact absurd hv.not_held hheld
    · exact absurd hv.full (Nat.ne_of_lt hroom)
    · exact absurd (hv.live e he) (Nat.not_lt.2 hold)

/-- Room in a table full of what lasts is made by losing an entry that expires first. -/
theorem makeRoom_evicts (ht : t.Sound) (order : EntryOrder) {now : Nat} {key : String}
    (hnone : t.find? key = none) (hfull : t.size = t.capacity) (hlive : ∀ e ∈ t.entries, now < e.expiry) :
    ∃ e ∈ t.entries, (∀ d ∈ t.entries, e.expiry ≤ d.expiry) ∧
      (t.makeRoom order now key).1.unexpired now = (t.unexpired now).erase e ∧
      (t.makeRoom order now key).1.stats =
        { t.stats with evictions := t.stats.evictions + 1 } := by
  rcases makeRoom_cases ht order now key with ⟨-, hroom⟩ | ⟨-, -, hroom⟩ | ⟨e, hv, hm⟩
  · rcases hroom with hheld | hroom
    · exact absurd hnone hheld
    · exact absurd hfull (Nat.ne_of_lt hroom)
  · rw [purge_of_live hlive] at hroom
    omega
  · have hentries : (t.makeRoom order now key).1.entries = t.entries.erase e := by
      rw [hm]
      exact drop_entries_of_mem ht hv.mem
    refine ⟨e, hv.mem, hv.soonest, ?_, by rw [hm]; rfl⟩
    rw [unexpired_of_live hlive, ← hentries]
    refine unexpired_of_live fun d hd => hlive d ?_
    rw [hentries] at hd
    exact List.mem_of_mem_erase hd

/-- A failed set leaves what has not expired and the statistics as they were exactly when its key is held,
there is room, or something has expired. Otherwise an entry that expires first is lost and counted. -/
theorem failed_set_keeps_iff (h : Reached capacity t)
    (hfail : Clock.limit ≤ env.clock.reading + ttl) (key value : String) :
    let now := env.clock.reading
    let failed := table.set key value ttl env t
    failed.outcome = .error .instantOverflow ∧
    (failed.state.unexpired now = t.unexpired now ∧ failed.state.stats = t.stats ↔
      t.find? key ≠ none ∨ t.size < max capacity 1 ∨ ∃ e ∈ t.entries, e.expiry ≤ now) ∧
    (t.find? key = none → t.size = max capacity 1 → (∀ e ∈ t.entries, now < e.expiry) →
      ∃ e ∈ t.entries, (∀ d ∈ t.entries, e.expiry ≤ d.expiry) ∧
        failed.state.unexpired now = (t.unexpired now).erase e ∧
        failed.state.stats = { t.stats with evictions := t.stats.evictions + 1 }) := by
  intro now failed
  obtain ⟨hsound, hcapacity⟩ := h.sound
  obtain ⟨later, hrun⟩ := set_run_of_overflow hfail key value t
  have hfailed : failed = ⟨.error .instantOverflow, later, (t.makeRoom env.order now key).1⟩ := hrun
  rw [hfailed, ← hcapacity]
  refine ⟨rfl, ⟨fun hkept => ?_, makeRoom_keeps hsound env.order⟩, makeRoom_evicts hsound env.order⟩
  by_contra hnot
  have hnone : t.find? key = none := by_contra fun h => hnot (Or.inl h)
  have hfull : t.capacity ≤ t.size := Nat.le_of_not_lt fun h => hnot (Or.inr (Or.inl h))
  have hlive : ∀ e ∈ t.entries, now < e.expiry := fun e he =>
    Nat.lt_of_not_le fun h => hnot (Or.inr (Or.inr ⟨e, he, h⟩))
  obtain ⟨e, -, -, -, hstats⟩ :=
    makeRoom_evicts hsound env.order hnone (Nat.le_antisymm hsound.size_le hfull) hlive
  have hsame : (t.makeRoom env.order now key).1.stats = t.stats := hkept.2
  rw [hstats] at hsame
  exact absurd (congrArg CacheStats.evictions hsame) (Nat.succ_ne_self _)

/-- A set of the key that a full table holds may fail: the table keeps what it held. -/
theorem failed_set_keeps_held_key :
    let one := CacheCommand.perform (.set "a" "1" 10) .still (.new 1)
    let failed := table.set "a" "2" Clock.limit one.env one.state
    Reached 1 one.state ∧ Clock.limit ≤ one.env.clock.reading + Clock.limit ∧
      failed.state.unexpired one.env.clock.reading = [⟨"a", "1", 10⟩] ∧
      failed.state.stats = one.state.stats := by
  intro one
  have hreached : Reached 1 one.state := .perform (.set "a" "1" 10) .still .new
  have hfail : Clock.limit ≤ one.env.clock.reading + Clock.limit := Nat.le_add_left _ _
  have hheld : one.state.find? "a" ≠ none := by decide +kernel
  obtain ⟨-, hkeeps, -⟩ := failed_set_keeps_iff hreached hfail "a" "2"
  obtain ⟨hentries, hstats⟩ := hkeeps.2 (Or.inl hheld)
  have hlasts : one.state.unexpired one.env.clock.reading = [⟨"a", "1", 10⟩] := by decide +kernel
  exact ⟨hreached, hfail, hentries.trans hlasts, hstats⟩

/-- A table with room for one entry, which lasts for sixty seconds, loses it to a set that fails, and counts
an eviction. -/
theorem failed_set_evicts :
    let one := CacheCommand.perform (.set "a" "1" (60 * billion)) { Env.still with clock := .steady }
      (.new 1)
    let failed := table.set "b" "2" (18446744073709551615 * billion) one.env one.state
    let now := one.env.clock.reading
    Reached 1 one.state ∧ failed.outcome = .error .instantOverflow ∧
      one.state.unexpired now = [⟨"a", "1", 60 * billion⟩] ∧ one.state.stats.evictions = 0 ∧
      failed.state.unexpired now = [] ∧ failed.state.stats.evictions = 1 ∧
      ¬ (failed.state.unexpired now = one.state.unexpired now ∧
        failed.state.stats = one.state.stats) := by
  intro one failed now
  have hreached : Reached 1 one.state := .perform (.set "a" "1" (60 * billion)) _ .new
  have hheld : one.state.unexpired now = [⟨"a", "1", 60 * billion⟩] := by decide +kernel
  have hlost : failed.state.unexpired now = [] := by decide +kernel
  refine ⟨hreached, by decide +kernel, hheld, by decide +kernel, hlost, by decide +kernel,
    fun hsame => ?_⟩
  rw [hlost, hheld] at hsame
  cases hsame.1

end CacheTable

end ClusterReads
