import ClusterReads.Cache.Service
import ClusterReads.Proofs.Cache.Table
import ClusterReads.Proofs.Latest

/-!
# The history of a cache table

A cache table judged by what was asked of it so far. A run records each command with the moment at
which it was carried out and the key it evicted. Main statement: at every point of every run, a read
finds exactly what the record says was last set, is fresh and was not taken away since; the table
never outgrows its capacity; and what is evicted is the one entry that expires first, out of a full
table in which nothing has expired.
-/
namespace ClusterReads

/-- What can be asked of a cache. -/
inductive CacheCommand where
  | get (key : String)
  | set (key value : String) (ttl : Nat)
  | delete (key : String)
  | clearPrefix (start : String)
  | clear
  deriving DecidableEq, Repr

namespace CacheCommand

open CacheService (table)

/-- Carries out a command on a table; its reply is not kept. -/
def perform : CacheCommand → Act CacheTable Unit
  | .get key => (fun _ => ()) <$> table.get key
  | .set key value ttl => (fun _ => ()) <$> table.set key value ttl
  | .delete key => (fun _ => ()) <$> table.delete key
  | .clearPrefix start => (fun _ => ()) <$> table.clearPrefix start
  | .clear => (fun _ => ()) <$> table.clear

/-- The key that a command evicts to make room. -/
def evicts (env : Env) (t : CacheTable) : CacheCommand → Option String
  | .set key _ _ => (t.makeRoom env.order env.clock.reading key).2
  | .get _ | .delete _ | .clearPrefix _ | .clear => none

/-- The clock can show the moment until which a command sets something. -/
def InRange (now : Nat) : CacheCommand → Prop
  | .set _ _ ttl => now + ttl < Clock.limit
  | .get _ | .delete _ | .clearPrefix _ | .clear => True

end CacheCommand

/-! ## The methods of a table -/

namespace CacheService

theorem table_get_run (key : String) (env : Env) (t : CacheTable) :
    table.get key env t = ⟨.ok (.ok (t.live? env.clock.reading key)),
      { env with clock := env.clock.tick }, (t.get env.clock.reading key).2⟩ := by
  rw [← CacheTable.get_fst]
  rfl

theorem logEviction_run (victim : Option String) (env : Env) (t : CacheTable) :
    ∃ journal, CacheTable.logEviction victim env t =
      ⟨.ok (), { env with journal := journal }, t⟩ := by
  cases victim with
  | none => exact ⟨env.journal, rfl⟩
  | some key => exact ⟨_, rfl⟩

/-- Room is made before it is known whether the clock can show the moment of expiry. -/
theorem table_set_run (key value : String) (ttl : Nat) (env : Env) (t : CacheTable) :
    ∃ journal, table.set key value ttl env t =
      if env.clock.reading + ttl < Clock.limit then
        ⟨.ok (.ok ()), { env with clock := env.clock.tick, journal := journal },
          (t.makeRoom env.order env.clock.reading key).1.put ⟨key, value, env.clock.reading + ttl⟩⟩
      else
        ⟨.error .instantOverflow, { env with clock := env.clock.tick, journal := journal },
          (t.makeRoom env.order env.clock.reading key).1⟩ := by
  obtain ⟨journal, hlog⟩ := logEviction_run (t.makeRoom env.order env.clock.reading key).2
    { env with clock := env.clock.tick } (t.makeRoom env.order env.clock.reading key).1
  refine ⟨journal, ?_⟩
  simp only [table, CacheTable.write, Act.map_run, Act.bind_run, Act.ask, Act.now, Act.step, hlog,
    Act.attempt, Act.modify, Clock.later]
  by_cases hrange : env.clock.reading + ttl < Clock.limit
  · simp only [if_pos hrange]
  · simp only [if_neg hrange]

end CacheService

/-! ## Histories -/

/-- A command that was carried out. -/
structure Happening where
  command : CacheCommand
  moment : Nat
  evicted : Option String
  deriving DecidableEq, Repr

namespace Happening

/-- A command about to be carried out. -/
def of (c : CacheCommand) (env : Env) (t : CacheTable) : Happening :=
  ⟨c, env.clock.reading, c.evicts env t⟩

/-- The key was set, with this value and until this moment. -/
def Sets (h : Happening) (key value : String) (expiry : Nat) : Prop :=
  ∃ ttl, h.command = .set key value ttl ∧ expiry = h.moment + ttl

/-- The key was taken away: by itself, by a prefix, with all others, or by an eviction. -/
def Removes (h : Happening) (key : String) : Prop :=
  h.command = .delete key ∨
    (∃ start, h.command = .clearPrefix start ∧ start.toList <+: key.toList) ∨
    h.command = .clear ∨ h.evicted = some key

/-- The key stands as it stood before. -/
def Spares (h : Happening) (key : String) : Prop :=
  (∀ value expiry, ¬ h.Sets key value expiry) ∧ ¬ h.Removes key

end Happening

/-- What a key was last set to, if nothing has set it anew or taken it away since. -/
def LastSet (past : List Happening) (key value : String) (expiry : Nat) : Prop :=
  ∃ before h since, past = before ++ h :: since ∧ h.Sets key value expiry ∧
    ∀ x ∈ since, x.Spares key

theorem lastSet_iff_latest (past : List Happening) (key value : String) (expiry : Nat) :
    LastSet past key value expiry ↔
      Latest (fun h => h.Sets key value expiry) (fun h => h.Spares key) past := Iff.rfl

theorem lastSet_snoc {past : List Happening} {h : Happening} {key value : String} {expiry : Nat} :
    LastSet (past ++ [h]) key value expiry ↔
      h.Sets key value expiry ∨ (LastSet past key value expiry ∧ h.Spares key) := by
  simp only [lastSet_iff_latest, latest_snoc_iff, and_comm]

/-- A run of commands on a new table, with its history and what it has come to. -/
inductive CacheRun (capacity : Nat) (start : Env) : List Happening → Env → CacheTable → Prop
  | empty : CacheRun capacity start [] start (CacheTable.new capacity)
  | step {past : List Happening} {env : Env} {t : CacheTable} (c : CacheCommand)
      (h : CacheRun capacity start past env t) (hc : c.InRange env.clock.reading) :
      CacheRun capacity start (past ++ [.of c env t]) (c.perform env t).env (c.perform env t).state

/-! ## One step -/

namespace CacheCommand

theorem perform_get (key : String) (env : Env) (t : CacheTable) :
    perform (.get key) env t =
      ⟨.ok (), { env with clock := env.clock.tick }, (t.get env.clock.reading key).2⟩ := by
  rw [perform, Act.map_run, CacheService.table_get_run]

theorem perform_set {key : String} (value : String) {ttl : Nat} {env : Env} (t : CacheTable)
    (h : env.clock.reading + ttl < Clock.limit) :
    ∃ journal, perform (.set key value ttl) env t =
      ⟨.ok (), { env with clock := env.clock.tick, journal := journal },
        (t.makeRoom env.order env.clock.reading key).1.put ⟨key, value, env.clock.reading + ttl⟩⟩ := by
  obtain ⟨journal, hset⟩ := CacheService.table_set_run key value ttl env t
  refine ⟨journal, ?_⟩
  rw [perform, Act.map_run, hset, if_pos h]

theorem perform_delete (key : String) (env : Env) (t : CacheTable) :
    perform (.delete key) env t = ⟨.ok (), env, (t.delete key).2⟩ := rfl

theorem perform_clearPrefix (start : String) (env : Env) (t : CacheTable) :
    perform (.clearPrefix start) env t = ⟨.ok (), env, (t.clearPrefix start).2⟩ := rfl

theorem perform_clear (env : Env) (t : CacheTable) :
    perform .clear env t = ⟨.ok (), env, t.clear.2⟩ := rfl

/-- A command takes one reading of the clock at most. -/
theorem perform_clock {c : CacheCommand} {env : Env} (t : CacheTable)
    (hc : c.InRange env.clock.reading) :
    (c.perform env t).env.clock = env.clock ∨ (c.perform env t).env.clock = env.clock.tick := by
  cases c with
  | get key => exact Or.inr (by rw [perform_get])
  | set key value ttl =>
    obtain ⟨journal, h⟩ := perform_set value t hc
    exact Or.inr (by rw [h])
  | delete key => exact Or.inl rfl
  | clearPrefix start => exact Or.inl rfl
  | clear => exact Or.inl rfl

theorem perform_outcome {c : CacheCommand} {env : Env} (t : CacheTable)
    (hc : c.InRange env.clock.reading) : (c.perform env t).outcome = .ok () := by
  cases c with
  | get key => rw [perform_get]
  | set key value ttl =>
    obtain ⟨journal, h⟩ := perform_set value t hc
    rw [h]
  | delete key => rfl
  | clearPrefix start => rfl
  | clear => rfl

theorem perform_sound {c : CacheCommand} {env : Env} {t : CacheTable}
    (hc : c.InRange env.clock.reading) (ht : t.Sound) :
    (c.perform env t).state.Sound ∧ (c.perform env t).state.capacity = t.capacity := by
  cases c with
  | get key =>
    rw [perform_get]
    exact ⟨CacheTable.get_sound ht _ key, CacheTable.get_capacity t _ key⟩
  | set key value ttl =>
    obtain ⟨journal, h⟩ := perform_set value t hc
    rw [h]
    exact ⟨(CacheTable.write_sound ht _ _ ⟨key, value, _⟩).2, CacheTable.makeRoom_capacity ht _ _ key⟩
  | delete key => exact ⟨CacheTable.remove_sound ht _, rfl⟩
  | clearPrefix start => exact ⟨CacheTable.remove_sound ht _, rfl⟩
  | clear => exact ⟨CacheTable.remove_sound ht _, rfl⟩

/-- What a command sets is found afterwards. -/
theorem find?_of_sets {c : CacheCommand} {env : Env} {t : CacheTable}
    (hc : c.InRange env.clock.reading) {key value : String} {expiry : Nat}
    (h : (Happening.of c env t).Sets key value expiry) :
    (c.perform env t).state.find? key = some ⟨key, value, expiry⟩ := by
  obtain ⟨ttl, hcommand, rfl⟩ := h
  obtain rfl : c = .set key value ttl := hcommand
  obtain ⟨journal, h⟩ := perform_set value t hc
  rw [h, CacheTable.find?_put, if_pos rfl]
  rfl

/-- What a command takes away is not found afterwards. -/
theorem find?_of_removes {c : CacheCommand} {env : Env} {t : CacheTable}
    (hc : c.InRange env.clock.reading) (ht : t.Sound) {key : String}
    (h : (Happening.of c env t).Removes key) : (c.perform env t).state.find? key = none := by
  rcases h with h | ⟨start, h, hstart⟩ | h | h
  · obtain rfl : c = .delete key := h
    rw [perform_delete, CacheTable.find?_delete, if_pos rfl]
  · obtain rfl : c = .clearPrefix start := h
    rw [perform_clearPrefix, CacheTable.find?_clearPrefix, if_pos]
    exact List.isPrefixOf_iff_prefix.2 hstart
  · obtain rfl : c = .clear := h
    rw [perform_clear, CacheTable.find?_clear]
  · cases c with
    | get | delete | clearPrefix | clear => cases h
    | set fresh value ttl =>
      have h : (t.makeRoom env.order env.clock.reading fresh).2 = some key := h
      obtain ⟨journal, hrun⟩ := perform_set value t hc
      rw [hrun, CacheTable.find?_put]
      rcases CacheTable.makeRoom_cases ht env.order env.clock.reading fresh with
        ⟨hm, -⟩ | ⟨hm, -, -⟩ | ⟨v, hv, hm⟩
      · rw [hm] at h
        cases h
      · rw [hm] at h
        cases h
      · rw [hm] at h ⊢
        obtain rfl : v.key = key := by simpa using h
        rw [if_neg (hv.key_ne ht), CacheTable.find?_count, CacheTable.find?_drop, if_pos rfl]

/-- What a command spares it leaves alone, or drops when it has expired. -/
theorem find?_of_spares {c : CacheCommand} {env : Env} {t : CacheTable}
    (hc : c.InRange env.clock.reading) (ht : t.Sound) {key : String}
    (h : (Happening.of c env t).Spares key) :
    (c.perform env t).state.find? key = t.find? key ∨
      ((c.perform env t).state.find? key = none ∧
        ∀ e, t.find? key = some e → e.expiry ≤ env.clock.reading) := by
  obtain ⟨hsets, hremoves⟩ := h
  cases c with
  | get asked =>
    rw [perform_get]
    exact CacheTable.find?_get t _ asked key
  | set fresh value ttl =>
    have hne : key ≠ fresh := by
      rintro rfl
      exact hsets value _ ⟨ttl, rfl, rfl⟩
    obtain ⟨journal, hrun⟩ := perform_set value t hc
    rw [hrun, CacheTable.find?_put, if_neg hne]
    rcases CacheTable.find?_makeRoom ht env.order _ fresh key with hsame | ⟨hnone, hev | hold⟩
    · exact Or.inl hsame
    · exact absurd (Or.inr (Or.inr (Or.inr hev))) hremoves
    · exact Or.inr ⟨hnone, hold⟩
  | delete gone =>
    have hne : key ≠ gone := by
      rintro rfl
      exact hremoves (Or.inl rfl)
    exact Or.inl (by rw [perform_delete, CacheTable.find?_delete, if_neg hne])
  | clearPrefix start =>
    have hne : ¬ CacheTable.startsWith key start = true := by
      intro hp
      exact hremoves (Or.inr (Or.inl ⟨start, rfl, List.isPrefixOf_iff_prefix.1 hp⟩))
    exact Or.inl (by rw [perform_clearPrefix, CacheTable.find?_clearPrefix, if_neg hne])
  | clear => exact absurd (Or.inr (Or.inr (Or.inl rfl))) hremoves

/-- The statistics count what is evicted and nothing else. -/
theorem perform_evictions {c : CacheCommand} {env : Env} {t : CacheTable}
    (hc : c.InRange env.clock.reading) (ht : t.Sound) :
    (c.perform env t).state.stats.evictions =
      t.stats.evictions + (c.evicts env t).toList.length := by
  cases c with
  | get key =>
    rw [perform_get, evicts, CacheTable.get]
    split <;> rfl
  | set key value ttl =>
    obtain ⟨journal, h⟩ := perform_set value t hc
    rw [h, evicts]
    rcases CacheTable.makeRoom_cases ht env.order env.clock.reading key with
      ⟨hm, -⟩ | ⟨hm, -, -⟩ | ⟨v, -, hm⟩ <;> rw [hm] <;> rfl
  | delete key => rfl
  | clearPrefix start => rfl
  | clear => rfl

/-- What a set that evicts finds, and what it leaves. -/
theorem evicts_cases {c : CacheCommand} {env : Env} {t : CacheTable} {victim : String}
    (hc : c.InRange env.clock.reading) (ht : t.Sound)
    (h : c.evicts env t = some victim) :
    ∃ key value ttl e, c = .set key value ttl ∧ CacheTable.Victim t env.clock.reading key e ∧
      e.key = victim ∧
      (c.perform env t).state.entries =
        t.entries.erase e ++ [⟨key, value, env.clock.reading + ttl⟩] := by
  cases c with
  | get | delete | clearPrefix | clear => cases h
  | set key value ttl =>
    obtain ⟨journal, hrun⟩ := perform_set value t hc
    rw [evicts] at h
    rcases CacheTable.makeRoom_cases ht env.order env.clock.reading key with
      ⟨hm, -⟩ | ⟨hm, -, -⟩ | ⟨v, hv, hm⟩
    · rw [hm] at h
      cases h
    · rw [hm] at h
      cases h
    · rw [hm] at h
      refine ⟨key, value, ttl, v, rfl, hv, by simpa using h, ?_⟩
      rw [hrun, hm]
      exact congrArg (· ++ _) (hv.drop_drop_entries ht)

end CacheCommand

/-! ## Runs -/

/-- A table agrees with its history: what it holds was last set, and what was last set it holds or
has dropped as expired. -/
structure Agrees (past : List Happening) (now : Nat) (t : CacheTable) : Prop where
  found : ∀ key e, t.find? key = some e → LastSet past key e.value e.expiry
  kept : ∀ key value expiry, LastSet past key value expiry →
    t.find? key = some ⟨key, value, expiry⟩ ∨ expiry ≤ now

theorem step_agrees {past : List Happening} {c : CacheCommand} {env : Env} {t : CacheTable}
    (hmono : env.clock.Monotone) (hc : c.InRange env.clock.reading) (ht : t.Sound)
    (h : Agrees past env.clock.reading t) :
    Agrees (past ++ [.of c env t]) (c.perform env t).env.clock.reading (c.perform env t).state := by
  have hlater : env.clock.reading ≤ (c.perform env t).env.clock.reading := by
    rcases CacheCommand.perform_clock t hc with hclock | hclock
    · exact Nat.le_of_eq (by rw [hclock])
    · rw [hclock]
      exact hmono _ _ (Nat.le_succ _)
  constructor
  · intro key e he
    rw [lastSet_snoc]
    by_cases hsets : ∃ value expiry, (Happening.of c env t).Sets key value expiry
    · obtain ⟨value, expiry, hset⟩ := hsets
      rw [CacheCommand.find?_of_sets hc hset] at he
      cases he
      exact Or.inl hset
    by_cases hremoves : (Happening.of c env t).Removes key
    · rw [CacheCommand.find?_of_removes hc ht hremoves] at he
      cases he
    have hspares : (Happening.of c env t).Spares key :=
      ⟨fun value expiry hset => hsets ⟨value, expiry, hset⟩, hremoves⟩
    rcases CacheCommand.find?_of_spares hc ht hspares with hsame | ⟨hnone, -⟩
    · exact Or.inr ⟨h.found key e (hsame ▸ he), hspares⟩
    · rw [hnone] at he
      cases he
  · intro key value expiry hlast
    rcases lastSet_snoc.1 hlast with hset | ⟨hbefore, hspares⟩
    · exact Or.inl (CacheCommand.find?_of_sets hc hset)
    · rcases h.kept key value expiry hbefore with hheld | hold
      · rcases CacheCommand.find?_of_spares hc ht hspares with hsame | ⟨-, hdropped⟩
        · exact Or.inl (hsame ▸ hheld)
        · exact Or.inr (Nat.le_trans (hdropped _ hheld) hlater)
      · exact Or.inr (Nat.le_trans hold hlater)

namespace CacheRun

variable {capacity : Nat} {start env : Env} {past : List Happening} {t : CacheTable}

theorem clock_monotone (hstart : start.clock.Monotone) (h : CacheRun capacity start past env t) :
    env.clock.Monotone := by
  induction h with
  | empty => exact hstart
  | step c _ hc ih =>
    rcases CacheCommand.perform_clock _ hc with hclock | hclock <;> rw [hclock] <;> exact ih

theorem sound (h : CacheRun capacity start past env t) :
    t.Sound ∧ t.capacity = max capacity 1 := by
  induction h with
  | empty => exact ⟨CacheTable.new_sound capacity, rfl⟩
  | step c _ hc ih =>
    obtain ⟨hsound, hcapacity⟩ := CacheCommand.perform_sound hc ih.1
    exact ⟨hsound, hcapacity.trans ih.2⟩

theorem agrees (hstart : start.clock.Monotone) (h : CacheRun capacity start past env t) :
    Agrees past env.clock.reading t := by
  induction h with
  | empty =>
    refine ⟨fun key e he => ?_, fun key value expiry hlast => absurd hlast not_latest_nil⟩
    rw [CacheTable.find?_new] at he
    cases he
  | step c hrun hc ih => exact step_agrees (hrun.clock_monotone hstart) hc hrun.sound.1 ih

/-- A read finds what was last set and is still fresh. -/
theorem get_eq_some_iff (hstart : start.clock.Monotone) (h : CacheRun capacity start past env t)
    (key value : String) :
    t.live? env.clock.reading key = some value ↔
      ∃ expiry, LastSet past key value expiry ∧ env.clock.reading < expiry := by
  have hagrees := h.agrees hstart
  rw [CacheTable.live?_eq_some_iff]
  constructor
  · rintro ⟨e, he, hlive, rfl⟩
    exact ⟨e.expiry, hagrees.found key e he, hlive⟩
  · rintro ⟨expiry, hlast, hlive⟩
    rcases hagrees.kept key value expiry hlast with hheld | hold
    · exact ⟨_, hheld, hlive, rfl⟩
    · omega

/-- The table is a bounded map of texts that expire: its size, its reads and its evictions at every
point of every run. -/
theorem refines_expiring_map (hstart : start.clock.Monotone)
    (h : CacheRun capacity start past env t) :
    t.size ≤ max capacity 1 ∧
    (∀ key, ∃ found, (CacheService.table.get key env t).outcome = .ok (.ok found) ∧
      ∀ value, found = some value ↔
        ∃ before s since ttl, past = before ++ s :: since ∧ s.command = .set key value ttl ∧
          env.clock.reading < s.moment + ttl ∧ ∀ x ∈ since, x.Spares key) ∧
    ∀ c : CacheCommand, c.InRange env.clock.reading →
      (c.perform env t).outcome = .ok () ∧
      (c.perform env t).state.stats.evictions =
        t.stats.evictions + (c.evicts env t).toList.length ∧
      ∀ victim, c.evicts env t = some victim →
        ∃ key value ttl, ∃ e ∈ t.entries, c = .set key value ttl ∧ t.find? key = none ∧
          t.size = max capacity 1 ∧ (∀ d ∈ t.entries, env.clock.reading < d.expiry) ∧
          e.key = victim ∧ victim ≠ key ∧ (∀ d ∈ t.entries, e.expiry ≤ d.expiry) ∧
          (c.perform env t).state.entries =
            t.entries.erase e ++ [⟨key, value, env.clock.reading + ttl⟩] := by
  obtain ⟨hsound, hcapacity⟩ := h.sound
  refine ⟨hcapacity ▸ hsound.size_le, fun key => ?_, fun c hc => ⟨?_, ?_, ?_⟩⟩
  · refine ⟨_, by rw [CacheService.table_get_run], fun value => ?_⟩
    rw [h.get_eq_some_iff hstart]
    constructor
    · rintro ⟨expiry, ⟨before, s, since, hpast, ⟨ttl, hset, rfl⟩, hspares⟩, hlive⟩
      exact ⟨before, s, since, ttl, hpast, hset, hlive, hspares⟩
    · rintro ⟨before, s, since, ttl, hpast, hset, hlive, hspares⟩
      exact ⟨_, ⟨before, s, since, hpast, ⟨ttl, hset, rfl⟩, hspares⟩, hlive⟩
  · exact CacheCommand.perform_outcome t hc
  · exact CacheCommand.perform_evictions hc hsound
  · intro victim hvictim
    obtain ⟨key, value, ttl, e, hcommand, hv, hkey, hentries⟩ :=
      CacheCommand.evicts_cases hc hsound hvictim
    exact ⟨key, value, ttl, e, hv.mem, hcommand, hv.not_held, hcapacity ▸ hv.full, hv.live, hkey,
      hkey ▸ hv.key_ne hsound, hv.soonest, hentries⟩

/-- A table with room for one entry, whose second set evicts the first. -/
theorem refines_expiring_map_when_full :
    let start : Env := ⟨.steady, default, default, [], default⟩
    let one := CacheCommand.perform (.set "a" "1" 10) start (.new 0)
    let two := CacheCommand.perform (.set "b" "2" 10) one.env one.state
    start.clock.Monotone ∧
    CacheRun 0 start [.of (.set "a" "1" 10) start (.new 0), .of (.set "b" "2" 10) one.env one.state]
      two.env two.state ∧
    two.state.size ≤ max 0 1 ∧
    ∃ found, (CacheService.table.get "b" two.env two.state).outcome = .ok (.ok found) ∧
      found = some "2" := by
  intro start one two
  have hstart : start.clock.Monotone := fun _ _ h => h
  have hone : (0 : Nat) + 10 < Clock.limit := by decide
  have htwo : (1 : Nat) + 10 < Clock.limit := by decide
  have hfirst : CacheRun 0 start [.of (.set "a" "1" 10) start (.new 0)] one.env one.state :=
    CacheRun.step (.set "a" "1" 10) CacheRun.empty (by exact hone)
  have hrun := hfirst.step (.set "b" "2" 10) (by exact htwo)
  obtain ⟨hsize, hget, -⟩ := refines_expiring_map hstart hrun
  obtain ⟨found, hfound, hiff⟩ := hget "b"
  refine ⟨hstart, hrun, hsize, found, hfound, (hiff "2").2 ?_⟩
  exact ⟨[_], _, [], 10, rfl, rfl, by decide, by simp⟩

end CacheRun

end ClusterReads
