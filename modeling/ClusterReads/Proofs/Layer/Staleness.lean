import ClusterReads.Ledger
import ClusterReads.Proofs.Layer.Caching

/-!
# How stale a cached read can be

A caching layer over a store whose contents others may change. A run mixes reads, changes and
invalidations, and records of each read whether the store was asked. Main statement: a read gives
what the store holds, or what the store gave to the same call less than the span of the cache ago
with no invalidation of that call since, exactly when the doubles of what the store holds survive
their JSON.
-/
namespace ClusterReads

open CacheService (table)

variable {ρ : Type}

/-- A store that answers from its contents. -/
def Store.ofContents (answers : ρ → Answers) : Store ρ :=
  fun c => (fun contents => answers contents c) <$> Act.get

namespace Caching

/-- What is done to a layer and the store under it. -/
inductive Deed (ρ : Type) where
  | read (c : Call)
  | write (contents : ρ)
  | invalidate (i : Invalidation)

/-- What was done, in retrospect. -/
inductive Occurrence (ρ : Type) where
  /-- A read that the store was not asked for. -/
  | served (c : Call)
  /-- A read that the store was asked for; what it gave was kept at this moment. -/
  | loaded (c : Call) (contents : ρ) (kept : Nat)
  | written (contents : ρ)
  | invalidated (i : Invalidation)

/-- A read has to ask the store. -/
def asks (c : Call) (env : Env) (s : CachingState CacheTable) : Bool :=
  match c.slot? with
  | some slot =>
    match (look table slot env s).outcome with
    | .ok none => true
    | _ => false
  | none => true

namespace Deed

def perform (answers : ρ → Answers) (ttl : Nat) : Deed ρ → Act (CachingState CacheTable × ρ) Unit
  | .read c => (fun _ => ()) <$> layer table ttl (.ofContents answers) c
  | .write contents => (Act.modify fun _ => contents).onSnd
  | .invalidate i => (fun _ => ()) <$> (useCache (Caching.invalidate table i)).onFst

/-- What a deed will have been. -/
def occurrence (env : Env) (s : CachingState CacheTable × ρ) : Deed ρ → Occurrence ρ
  | .read c => if asks c env s.1 then .loaded c s.2 env.tick.clock.reading else .served c
  | .write contents => .written contents
  | .invalidate i => .invalidated i

end Deed

/-- A run over a new table, with what occurred and what it has come to. -/
inductive Run (answers : ρ → Answers) (capacity ttl : Nat) (start : Env) (contents : ρ) :
    List (Occurrence ρ) → Env → CachingState CacheTable × ρ → Prop
  | empty :
    Run answers capacity ttl start contents [] start (⟨CacheTable.new capacity, 0⟩, contents)
  | step {past : List (Occurrence ρ)} {env : Env} {s : CachingState CacheTable × ρ} (d : Deed ρ)
      (h : Run answers capacity ttl start contents past env s) :
      Run answers capacity ttl start contents (past ++ [d.occurrence env s])
        (d.perform answers ttl env s).env (d.perform answers ttl env s).state

/-! ## What a read may give -/

/-- The store was asked for a call while it held these contents, what it gave was kept at this
moment, and nothing has taken it out since. -/
def Loaded (past : List (Occurrence ρ)) (c : Call) (contents : ρ) (kept : Nat) : Prop :=
  ∃ before since, past = before ++ .loaded c contents kept :: since ∧
    ∀ i, .invalidated i ∈ since → i.covers c = false

/-- What a read gives is what the store holds, or a present answer that the store gave not long ago;
without changes to the store it is always the former. -/
structure Justified (answers : ρ → Answers) (ttl : Nat) (past : List (Occurrence ρ)) (now : Nat)
    (contents : ρ) (c : Call) (result : StoreResult c.Answer) : Prop where
  current_or_recent : result = answers contents c ∨ ∃ a old kept, result = .ok a ∧
    Loaded past c old kept ∧ answers old c = .ok a ∧ c.isAbsent a = false ∧ kept ≤ now ∧
      now < kept + ttl
  current_of_unchanged : (∀ new, .written new ∉ past) → result = answers contents c

theorem loaded_snoc_self (past : List (Occurrence ρ)) (c : Call) (contents : ρ) (kept : Nat) :
    Loaded (past ++ [.loaded c contents kept]) c contents kept :=
  ⟨past, [], rfl, by simp⟩

theorem Loaded.snoc {past : List (Occurrence ρ)} {c : Call} {contents : ρ} {kept : Nat}
    (h : Loaded past c contents kept) {o : Occurrence ρ}
    (ho : ∀ i, o = .invalidated i → i.covers c = false) : Loaded (past ++ [o]) c contents kept := by
  obtain ⟨before, since, rfl, hsince⟩ := h
  refine ⟨before, since ++ [o], by simp, fun i hi => ?_⟩
  rcases List.mem_append.1 hi with hi | hi
  · exact hsince i hi
  · exact ho i (List.mem_singleton.1 hi).symm

theorem Loaded.mem {past : List (Occurrence ρ)} {c : Call} {contents : ρ} {kept : Nat}
    (h : Loaded past c contents kept) : .loaded c contents kept ∈ past := by
  obtain ⟨before, since, rfl, -⟩ := h
  simp

/-! ## One deed -/

section Step

variable {answers : ρ → Answers} {ttl : Nat}

theorem asks_eq {c : Call} {slot : CacheSlot c.Answer} (hslot : c.slot? = some slot) (env : Env)
    (s : CachingState CacheTable) :
    asks c env s = (found slot s.cache env.clock.reading).isNone := by
  obtain ⟨journal, failures, hlook⟩ := look_run slot env s
  rw [asks, hslot]
  simp only [hlook]
  cases found slot s.cache env.clock.reading <;> rfl

/-- A cached read serves what it finds; else it gives what the store holds and keeps it. -/
theorem layer_run {c : Call} {slot : CacheSlot c.Answer} (hslot : c.slot? = some slot) {env : Env}
    {s : CachingState CacheTable × ρ} (ht : s.1.cache.Sound) (hspan : env.clock.Spans ttl) :
    ∃ env' failures order, env.tick.Precedes env' ∧
      layer table ttl (.ofContents answers) c env s =
        match found slot s.1.cache env.clock.reading with
        | some a =>
          ⟨.ok (.ok a), env', (⟨(s.1.cache.get env.clock.reading slot.key).2, failures⟩, s.2)⟩
        | none => ⟨.ok (answers s.2 c), env',
            (⟨stored (s.1.cache.get env.clock.reading slot.key).2 order env.tick.clock.reading
              (entryOf? slot (env.tick.clock.reading + ttl) (answers s.2 c)), failures⟩, s.2)⟩ := by
  cases hfound : found slot s.1.cache env.clock.reading with
  | some a =>
    obtain ⟨env', failures, hlater, hrun⟩ := layer_hit (.ofContents answers) hslot hfound
    exact ⟨env', failures, env.order, hlater, hrun⟩
  | none =>
    obtain ⟨env₁, failures, hclock, hmiss, -⟩ := layer_miss (.ofContents answers) hslot ht hfound
    obtain ⟨env', hlater, hrun | ⟨hlimit, -⟩⟩ := hmiss rfl
    · rw [hclock] at hrun
      exact ⟨env', failures, env₁.order, (Env.Precedes.of_clock_eq hclock).trans hlater, hrun⟩
    · rw [hclock] at hlimit
      exact absurd hlimit (Nat.not_le_of_lt (hspan _))

theorem layer_uncached_run {c : Call} (hslot : c.slot? = none) (env : Env)
    (s : CachingState CacheTable × ρ) :
    layer table ttl (.ofContents answers) c env s = ⟨.ok (answers s.2 c), env, s⟩ := by
  rw [layer_uncached _ hslot]
  rfl

theorem perform_invalidate (i : Invalidation) (env : Env) (s : CachingState CacheTable × ρ) :
    Deed.perform answers ttl (.invalidate i) env s =
      ⟨.ok (), env, ({ s.1 with cache := i.apply s.1.cache }, s.2)⟩ := by
  rw [Deed.perform, Act.map_run, Act.onFst, useCache, invalidate_run]

end Step

/-! ## Runs -/

section Run

variable {answers : ρ → Answers} {capacity ttl : Nat} {start env : Env} {initial : ρ}
  {past : List (Occurrence ρ)} {s : CachingState CacheTable × ρ}

/-- What is kept for a call is what the store gave to it, for as long as it is to be kept. -/
def Entitled (answers : ρ → Answers) (ttl : Nat) (past : List (Occurrence ρ)) (now : Nat) (c : Call)
    (slot : CacheSlot c.Answer) (e : CacheEntry) : Prop :=
  ∃ a old kept, Loaded past c old kept ∧ answers old c = .ok a ∧ slot.keeps a = true ∧
    e.value = slot.encode a ∧ e.expiry = kept + ttl ∧ kept ≤ now

theorem Entitled.later {now later : Nat} {c : Call} {slot : CacheSlot c.Answer} {e : CacheEntry}
    (h : Entitled answers ttl past now c slot e) {o : Occurrence ρ}
    (ho : ∀ i, o = .invalidated i → i.covers c = false) (hle : now ≤ later) :
    Entitled answers ttl (past ++ [o]) later c slot e := by
  obtain ⟨a, old, kept, hloaded, hanswer, hkeeps, hvalue, hexpiry, hkept⟩ := h
  exact ⟨a, old, kept, hloaded.snoc ho, hanswer, hkeeps, hvalue, hexpiry, Nat.le_trans hkept hle⟩

/-- All that was held is what the store began with. -/
def Unchanged (initial : ρ) (past : List (Occurrence ρ)) (contents : ρ) : Prop :=
  contents = initial ∧ ∀ c old kept, .loaded c old kept ∈ past → old = initial

/-- What holds at every point of a run: all that is kept is entitled to its place. -/
structure Recorded (answers : ρ → Answers) (ttl : Nat) (start : Env) (initial : ρ)
    (past : List (Occurrence ρ)) (env : Env) (s : CachingState CacheTable × ρ) : Prop where
  precedes : start.Precedes env
  sound : s.1.cache.Sound
  entries : ∀ (c : Call) (slot : CacheSlot c.Answer) (e : CacheEntry), c.slot? = some slot →
    s.1.cache.find? slot.key = some e → Entitled answers ttl past env.clock.reading c slot e
  unchanged : (∀ new, .written new ∉ past) → Unchanged initial past s.2

theorem recorded_start (answers : ρ → Answers) (capacity ttl : Nat) (start : Env) (initial : ρ) :
    Recorded answers ttl start initial [] start (⟨CacheTable.new capacity, 0⟩, initial) where
  precedes := .refl start
  sound := CacheTable.new_sound capacity
  entries := by
    intro c slot e _ hfind
    rw [CacheTable.find?_new] at hfind
    cases hfind
  unchanged := fun _ => ⟨rfl, by simp⟩

/-- A deed that leaves the store as it is records no other contents. -/
theorem Recorded.unchanged_snoc (h : Recorded answers ttl start initial past env s)
    {o : Occurrence ρ} (ho : ∀ c old kept, o = .loaded c old kept → old = s.2)
    (hnew : ∀ new, .written new ∉ past ++ [o]) : Unchanged initial (past ++ [o]) s.2 := by
  obtain ⟨hs, hold⟩ := h.unchanged fun new hmem => hnew new (List.mem_append_left _ hmem)
  refine ⟨hs, fun c old kept hmem => ?_⟩
  rcases List.mem_append.1 hmem with hmem | hmem
  · exact hold c old kept hmem
  · exact (ho c old kept (List.mem_singleton.1 hmem).symm).trans hs

/-- A read that leaves the table with no more than it held. -/
theorem Recorded.serve (h : Recorded answers ttl start initial past env s)
    (hmono : start.clock.Monotone) {o : Occurrence ρ} {later : Env} {kept : CachingState CacheTable}
    (hlater : env.Precedes later) (hsound : kept.cache.Sound)
    (hwithin : kept.cache.Within s.1.cache) (hinv : ∀ i, o ≠ .invalidated i)
    (ho : ∀ c old kept, o = .loaded c old kept → old = s.2) :
    Recorded answers ttl start initial (past ++ [o]) later (kept, s.2) where
  precedes := h.precedes.trans hlater
  sound := hsound
  entries := fun c slot e hslot hfind =>
    (h.entries c slot e hslot (hwithin _ _ hfind)).later (fun i hi => absurd hi (hinv i))
      (hlater.reading_le (h.precedes.monotone hmono))
  unchanged := h.unchanged_snoc ho

theorem Recorded.read (h : Recorded answers ttl start initial past env s)
    (hmono : start.clock.Monotone) (hspan : start.clock.Spans ttl) (c : Call) :
    Recorded answers ttl start initial (past ++ [Deed.occurrence env s (.read c)])
      (Deed.perform answers ttl (.read c) env s).env
      (Deed.perform answers ttl (.read c) env s).state := by
  have hmono' := h.precedes.monotone hmono
  rw [Deed.occurrence, Deed.perform, Act.map_run]
  cases hslot : c.slot? with
  | none =>
    have hasks : asks c env s.1 = true := by rw [asks, hslot]
    rw [layer_uncached_run hslot, hasks]
    refine h.serve hmono (.refl env) h.sound (fun _ _ hfind => hfind) (fun i hi => by cases hi) ?_
    intro d old kept ho
    cases ho
    rfl
  | some slot =>
    obtain ⟨env', failures, order, hlater, hrun⟩ := layer_run hslot h.sound (h.precedes.spans hspan)
    have hget := CacheTable.get_sound h.sound env.clock.reading slot.key
    have henv : env.Precedes env' := (Env.Precedes.tick env).trans hlater
    rw [hrun, asks_eq hslot]
    cases hfound : found slot s.1.cache env.clock.reading with
    | some a =>
      exact h.serve hmono henv hget (CacheTable.get_within _ _ _) (fun i hi => by cases hi)
        (fun d old kept ho => by cases ho)
    | none =>
      refine ⟨h.precedes.trans henv, stored_sound hget _ _ _, ?_, h.unchanged_snoc ?_⟩
      · intro d slot' e hslot' hfind
        rcases find?_stored hget hfind with ⟨hnew, hkey⟩ | hold
        · -- one key is one call, so the entry is the one that this read has left
          obtain ⟨a, hanswer, hkeeps, rfl⟩ := entryOf?_eq_some_iff.1 hnew
          cases Call.slot_injective hslot hslot' hkey
          exact ⟨a, s.2, env.tick.clock.reading, loaded_snoc_self past _ s.2 _, hanswer, hkeeps,
            rfl, rfl, hlater.reading_le ((Env.Precedes.tick env).monotone hmono')⟩
        · refine (h.entries d slot' e hslot' ?_).later (fun i hi => by cases hi)
            (henv.reading_le hmono')
          exact CacheTable.get_within _ _ _ _ _ hold
      · intro d old kept ho
        cases ho
        rfl

theorem Recorded.step (h : Recorded answers ttl start initial past env s)
    (hmono : start.clock.Monotone) (hspan : start.clock.Spans ttl) (d : Deed ρ) :
    Recorded answers ttl start initial (past ++ [d.occurrence env s])
      (d.perform answers ttl env s).env (d.perform answers ttl env s).state := by
  cases d with
  | read c => exact h.read hmono hspan c
  | write contents =>
    refine ⟨h.precedes, h.sound, fun c slot e hslot hfind => ?_, fun hnew => ?_⟩
    · exact (h.entries c slot e hslot hfind).later (fun i hi => by cases hi) (Nat.le_refl _)
    · exact absurd (List.mem_append_right _ List.mem_cons_self) (hnew contents)
  | invalidate i =>
    rw [perform_invalidate]
    refine ⟨h.precedes, i.apply_sound h.sound, fun c slot e hslot hfind => ?_, ?_⟩
    · rw [Invalidation.find?_apply (Call.key?_of_slot? hslot)] at hfind
      by_cases hcovers : i.covers c = true
      · rw [if_pos hcovers] at hfind
        cases hfind
      · rw [if_neg hcovers] at hfind
        refine (h.entries c slot e hslot hfind).later (fun i' hi => ?_) (Nat.le_refl _)
        cases hi
        simpa using hcovers
    · exact h.unchanged_snoc fun c old kept ho => by cases ho

theorem Run.recorded (h : Run answers capacity ttl start initial past env s)
    (hmono : start.clock.Monotone) (hspan : start.clock.Spans ttl) :
    Recorded answers ttl start initial past env s := by
  induction h with
  | empty => exact recorded_start answers capacity ttl start initial
  | step d _ ih => exact ih.step hmono hspan d

/-- A read is justified by what was recorded, as long as what was kept is read back as it was. -/
theorem Recorded.justified (h : Recorded answers ttl start initial past env s)
    (hspan : start.clock.Spans ttl)
    (hfaithful : 0 < ttl → ∀ contents c a, c.slot?.isSome = true → answers contents c = .ok a →
      c.isAbsent a = false → c.Faithful a) {c : Call} (hcached : c.slot?.isSome = true) :
    ∃ result, (layer table ttl (.ofContents answers) c env s).outcome = .ok result ∧
      Justified answers ttl past env.clock.reading s.2 c result := by
  obtain ⟨slot, hslot⟩ := Option.isSome_iff_exists.1 hcached
  obtain ⟨env', failures, order, -, hrun⟩ := layer_run hslot h.sound (h.precedes.spans hspan)
  rw [hrun]
  cases hfound : found slot s.1.cache env.clock.reading with
  | none => exact ⟨_, rfl, Or.inl rfl, fun _ => rfl⟩
  | some b =>
    obtain ⟨e, hfind, hlive, hdecode⟩ := exists_entry_of_found hfound
    obtain ⟨a, old, kept, hloaded, hanswer, hkeeps, hvalue, hexpiry, hkept⟩ :=
      h.entries c slot e hslot hfind
    rw [hexpiry] at hlive
    have hpresent : c.isAbsent a = false := by
      simpa [Call.slot_keeps hslot] using hkeeps
    have hsame : b = a := by
      refine hfaithful (by omega) old c a hcached hanswer hpresent b ?_
      rw [← Call.slot_decode_encode hslot, ← hvalue, hdecode]
    subst hsame
    refine ⟨_, rfl, Or.inr ⟨b, old, kept, rfl, hloaded, hanswer, hpresent, hkept, hlive⟩,
      fun hnew => ?_⟩
    obtain ⟨hs, hold⟩ := h.unchanged hnew
    rw [hs, ← hold c old kept hloaded.mem, hanswer]

end Run

/-! ## When it is so -/

section Exact

variable {answers : ρ → Answers} {ttl : Nat} {c : Call}

/-- While no time passes, what a first read has loaded is kept. -/
theorem run_read (capacity : Nat) (initial : ρ) (hlimit : ttl < Clock.limit)
    {slot : CacheSlot c.Answer} (hslot : c.slot? = some slot) {a : c.Answer}
    (hanswer : answers initial c = .ok a) (hkeeps : slot.keeps a = true) :
    ∃ kept env s, Run answers capacity ttl .still initial [.loaded c initial kept] env s ∧
      Env.still.Precedes env ∧ s.2 = initial ∧
      s.1.cache.find? slot.key = some ⟨slot.key, slot.encode a, 0 + ttl⟩ := by
  let fresh : CachingState CacheTable × ρ := (⟨CacheTable.new capacity, 0⟩, initial)
  have hempty : Run answers capacity ttl .still initial [] .still fresh := .empty
  have hmiss : found slot fresh.1.cache Env.still.clock.reading = none := rfl
  have hasks : asks c .still fresh.1 = true := by
    rw [asks_eq hslot, hmiss]
    rfl
  have hfresh : fresh.1.cache.Sound := CacheTable.new_sound capacity
  obtain ⟨env, failures, order, hlater, hrun⟩ :=
    @layer_run ρ answers ttl c slot hslot .still fresh hfresh (Env.still_spans hlimit)
  have hstep := hempty.step (.read c)
  rw [Deed.perform, Act.map_run, hrun, hmiss, List.nil_append, Deed.occurrence, hasks] at hstep
  have hentry : entryOf? slot (Env.still.tick.clock.reading + ttl) (answers initial c) =
      some ⟨slot.key, slot.encode a, 0 + ttl⟩ :=
    entryOf?_eq_some_iff.2 ⟨a, hanswer, hkeeps, rfl⟩
  refine ⟨_, env, _, hstep, (Env.Precedes.tick .still).trans hlater, rfl, ?_⟩
  change (stored _ order _
    (entryOf? slot (Env.still.tick.clock.reading + ttl) (answers initial c))).find? slot.key = _
  rw [hentry, stored, CacheTable.find?_put, if_pos rfl]

/-- Staleness is bounded in every run exactly when the doubles of what the store holds survive. -/
theorem staleness_bounded_iff (answers : ρ → Answers) (capacity : Nat) {ttl : Nat}
    (hlimit : ttl < Clock.limit) :
    (∀ start initial past env s c, start.clock.Monotone → start.clock.Spans ttl →
      Run answers capacity ttl start initial past env s → c.slot?.isSome = true →
      ∃ result, (layer table ttl (.ofContents answers) c env s).outcome = .ok result ∧
        Justified answers ttl past env.clock.reading s.2 c result) ↔
    (ttl = 0 ∨ ∀ contents c a, c.slot?.isSome = true → answers contents c = .ok a →
      c.isAbsent a = false → c.DoublesSurvive a) := by
  constructor
  · intro h
    by_cases httl : ttl = 0
    · exact Or.inl httl
    refine Or.inr fun contents c a hcached hanswer hpresent => ?_
    rw [← Call.faithful_iff]
    intro b hreread
    obtain ⟨slot, hslot⟩ := Option.isSome_iff_exists.1 hcached
    have hkeeps : slot.keeps a = true := by simp [Call.slot_keeps hslot, hpresent]
    obtain ⟨kept, env, s, hrun, hstill, hs, hfind⟩ :=
      run_read capacity contents hlimit hslot hanswer hkeeps
    have hlive : env.clock.reading < 0 + ttl := by
      rw [Env.still_reading hstill]
      omega
    obtain ⟨env', failures, -, hagain⟩ :=
      @layer_hit ρ ttl (.ofContents answers) c slot env s hslot b
      (found_of_find? hslot hfind hlive hreread)
    obtain ⟨result, hresult, hjustified⟩ := h .still contents _ env s c Env.still_monotone
      (Env.still_spans hlimit) hrun hcached
    rw [hagain] at hresult
    cases hresult
    have hcurrent := hjustified.current_of_unchanged (by simp)
    rw [hs, hanswer] at hcurrent
    cases hcurrent
    rfl
  · intro h start initial past env s c hmono hspan hrun hcached
    refine (hrun.recorded hmono hspan).justified hspan
      (fun httl contents d a hd hanswer hpresent => ?_) hcached
    rcases h with h | h
    · omega
    · exact (Call.faithful_iff d a).2 (h contents d a hd hanswer hpresent)

/-- A ledger whose quotas are left out has no doubles to lose. -/
theorem staleness_bounded_without_quotas :
    let answers := fun l : Ledger => { l with quotas := .empty : Ledger }.answers
    60 * billion < Clock.limit ∧
    ∀ start initial past env s c, start.clock.Monotone → start.clock.Spans (60 * billion) →
      Run answers 1000 (60 * billion) start initial past env s → c.slot?.isSome = true →
      ∃ result, (layer table (60 * billion) (.ofContents answers) c env s).outcome = .ok result ∧
        Justified answers (60 * billion) past env.clock.reading s.2 c result := by
  intro answers
  have hlimit : 60 * billion < Clock.limit := by decide
  refine ⟨hlimit, (staleness_bounded_iff answers 1000 hlimit).2 (Or.inr ?_)⟩
  intro contents c a _ hanswer _
  have hdoubles : c.doubles a = [] := by
    cases c <;> first | rfl | (cases hanswer; rfl)
  rw [Call.DoublesSurvive, hdoubles]
  simp

/-- A quota of 1152921504606867456 processors is served as one of 1152921504606867712, which the
ledger has never held. -/
theorem staleness_unbounded_of_large_quota :
    let ledger := Ledger.empty.saveQuota "r" ⟨Float.ofBits 4877398396442247248, 1, 2⟩
    ∃ kept env s result,
      Run Ledger.answers 1000 (60 * billion) .still ledger
        [.loaded (.quota "r") ledger kept] env s ∧
      (layer table (60 * billion) (.ofContents Ledger.answers) (.quota "r") env s).outcome =
        .ok result ∧
      ¬ Justified Ledger.answers (60 * billion)
        [.loaded (.quota "r") ledger kept] env.clock.reading s.2
        (.quota "r") result := by
  intro ledger
  have hanswer : ledger.answers (.quota "r") =
      .ok (some ⟨Float.ofBits 4877398396442247248, 1, 2⟩) :=
    rfl
  have hreread : Call.reread? (.quota "r") (some ⟨Float.ofBits 4877398396442247248, 1, 2⟩) =
      some (some ⟨Float.ofBits 4877398396442247249, 1, 2⟩) := by
    simp [Call.reread?, Resources.reread?, Decimal.reread?_large]
  obtain ⟨kept, env, s, hrun, hstill, hs, hfind⟩ := @run_read Ledger Ledger.answers (60 * billion)
    (.quota "r")
    1000 ledger (by decide) _ rfl _ hanswer rfl
  have hlive : env.clock.reading < 0 + 60 * billion := by
    rw [Env.still_reading hstill]
    decide
  obtain ⟨env', failures, -, hagain⟩ :=
    @layer_hit Ledger (60 * billion) (.ofContents Ledger.answers)
    (.quota "r") _ env s rfl _ (found_of_find? rfl hfind hlive hreread)
  refine ⟨kept, env, s, _, hrun, by rw [hagain], fun h => ?_⟩
  have hcurrent := h.current_of_unchanged (by simp)
  rw [hs, hanswer] at hcurrent
  have hbits := congrArg (fun q : Resources => q.numCpus.toBits)
    (Option.some.inj (Except.ok.inj hcurrent))
  revert hbits
  decide +kernel

end Exact

end Caching
end ClusterReads
