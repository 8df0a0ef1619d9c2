import ClusterReads.Assembly
import ClusterReads.Ledger
import ClusterReads.Proofs.Layer.Caching
import ClusterReads.Proofs.Layer.Instrumentation

/-!
# Layers that cannot be told from their store

A store under layers answers as the store itself does, as long as the store's own answers stay the
same. Each kind of layer is shown to pass on what a store serves, with an invariant of its own
beside that of the store; a stack is then judged layer by layer. The one exception is a clock at its
end, at which no moment of expiry can be formed.
-/
namespace ClusterReads

open CacheService (table)

variable {σ ρ : Type}

/-- A call ends with its answer, or at a clock from which some span cannot be counted. -/
def Ends (spans : List Nat) (readingAt : Nat → Nat) {α : Type} (answer : α)
    (outcome : Except Fault α) : Prop :=
  outcome = .ok answer ∨
    (outcome = .error .instantOverflow ∧ ∃ ttl ∈ spans, ∃ i, Clock.limit ≤ readingAt i + ttl)

theorem Ends.mono {spans more : List Nat} {readingAt : Nat → Nat} {α : Type} {answer : α}
    {outcome : Except Fault α} (h : Ends spans readingAt answer outcome)
    (hsub : ∀ ttl ∈ spans, ttl ∈ more) :
    Ends more readingAt answer outcome := by
  rcases h with h | ⟨h, ttl, httl, hlimit⟩
  · exact Or.inl h
  · exact Or.inr ⟨h, ttl, hsub ttl httl, hlimit⟩

/-- From every good state each call ends as told, in a good state. -/
def Serves (store : Store σ) (Good : σ → Prop) (spans : List Nat) (readingAt : Nat → Nat)
    (answers : Answers) : Prop :=
  ∀ (c : Call) (env : Env) (s : σ), env.clock.readingAt = readingAt → Good s →
    env.Precedes (store c env s).env ∧ Good (store c env s).state ∧
      Ends spans readingAt (answers c) (store c env s).outcome

/-- The surroundings and the state after some calls. -/
def Store.after (store : Store σ) : List Call → Env → σ → Env × σ
  | [], env, s => (env, s)
  | c :: calls, env, s => store.after calls (store c env s).env (store c env s).state

theorem serves_fixed (answers : Answers) (readingAt : Nat → Nat) :
    Serves (.fixed answers : Store σ) (fun _ => True) [] readingAt answers :=
  fun _ env _ _ _ => ⟨.refl env, trivial, Or.inl rfl⟩

/-- What is served at first is served after any calls. -/
theorem Serves.after {store : Store σ} {Good : σ → Prop} {spans : List Nat} {readingAt : Nat → Nat}
    {answers : Answers} (h : Serves store Good spans readingAt answers) (calls : List Call)
    {env : Env} {s : σ} (henv : env.clock.readingAt = readingAt) (hs : Good s) (c : Call) :
    Ends spans readingAt (answers c)
      (store c (store.after calls env s).1 (store.after calls env s).2).outcome := by
  induction calls generalizing env s with
  | nil => exact (h c env s henv hs).2.2
  | cons d calls ih =>
    obtain ⟨hlater, hgood, -⟩ := h d env s henv hs
    exact ih (hlater.readingAt_eq.trans henv) hgood

/-! ## Validation, auditing and instrumentation -/

/-- Malformed calls are refused, all others answered as before. -/
def Validation.answers (answers : Answers) : Answers := fun c =>
  match c.flaw? with
  | some flaw => .error flaw.error
  | none => answers c

section Layers

variable {inner : Store ρ} {Good : ρ → Prop} {spans : List Nat} {readingAt : Nat → Nat}
  {answers : Answers}

theorem Serves.validation (h : Serves inner Good spans readingAt answers) :
    Serves (Validation.layer inner) Good spans readingAt (Validation.answers answers) := by
  intro c env s henv hs
  unfold Validation.layer Validation.answers
  cases c.flaw? with
  | none => exact h c env s henv hs
  | some flaw => exact ⟨.of_clock_eq rfl, hs, Or.inl rfl⟩

theorem Auditing.record_run (sink : Auditing.Sink) (e : AuditEvent) (env : Env) (s : ρ) :
    ∃ env', Auditing.record sink e env s = ⟨.ok (), env', s⟩ ∧ env'.clock = env.clock ∧
      env'.cache = env.cache := by
  cases sink with
  | trail => exact ⟨_, rfl, rfl, rfl⟩
  | journal =>
    unfold Auditing.record Auditing.logEvent
    cases e.outcome with
    | success => exact ⟨_, rfl, rfl, rfl⟩
    | absent => exact ⟨_, rfl, rfl, rfl⟩
    | failed message => exact ⟨_, rfl, rfl, rfl⟩

/-- An audited call ends as the call itself does, and touches neither the clock nor the cache. -/
theorem Auditing.layer_run (sink : Auditing.Sink) (operations : SortedSet Operation) (c : Call)
    (env : Env) (s : ρ) : ∃ env', Auditing.layer sink operations inner c env s =
      ⟨(inner c env s).outcome, env', (inner c env s).state⟩ ∧
        env'.clock = (inner c env s).env.clock ∧ env'.cache = (inner c env s).env.cache := by
  rw [Auditing.layer, Act.bind_run]
  rcases inner c env s with ⟨fault | result, later, s'⟩
  · exact ⟨later, rfl, rfl, rfl⟩
  by_cases ho : operations.contains (Auditing.label c)
  · obtain ⟨env', hrecord, hsame⟩ :=
      Auditing.record_run sink (Auditing.event c result later.clock.date) later s'
    refine ⟨env', ?_, hsame⟩
    simp only [if_pos ho, Act.bind_run, Act.ask, hrecord]
    rfl
  · refine ⟨later, ?_, rfl, rfl⟩
    simp only [if_neg ho]
    rfl

theorem Serves.auditing (h : Serves inner Good spans readingAt answers) (sink : Auditing.Sink)
    (operations : SortedSet Operation) :
    Serves (Auditing.layer sink operations inner) Good spans readingAt answers := by
  intro c env s henv hs
  obtain ⟨hlater, hgood, hends⟩ := h c env s henv hs
  obtain ⟨env', hrun, hclock, -⟩ := @Auditing.layer_run ρ inner sink operations c env s
  rw [hrun]
  exact ⟨hlater.trans (.of_clock_eq hclock), hgood, hends⟩

/-- A timed call ends as the call itself does, and does not touch the cache. -/
theorem Instrumentation.layer_run (settings : Instrumentation.Settings) (c : Call) (env : Env)
    (s : InstrumentationState × ρ) : ∃ env₁, env.Precedes env₁ ∧ env₁.cache = env.cache ∧
      ∃ env' kept, Instrumentation.layer settings inner c env s =
        ⟨(inner c env₁ s.2).outcome, env', (kept, (inner c env₁ s.2).state)⟩ ∧
      (inner c env₁ s.2).env.Precedes env' ∧ env'.cache = (inner c env₁ s.2).env.cache := by
  refine ⟨Instrumentation.begun c env, .of_tick rfl, rfl, ?_⟩
  rcases hinner : inner c (Instrumentation.begun c env) s.2 with ⟨fault | result, later, s'⟩
  · exact ⟨_, s.1, Instrumentation.layer_run_fault settings hinner, .of_clock_eq rfl, rfl⟩
  · obtain ⟨after, hrun, hclock, hcache, -⟩ := Instrumentation.layer_run_ok settings hinner
    exact ⟨after, _, hrun, .of_tick hclock, hcache⟩

theorem Serves.instrumentation (h : Serves inner Good spans readingAt answers)
    (settings : Instrumentation.Settings) :
    Serves (Instrumentation.layer settings inner) (fun s => Good s.2) spans readingAt answers := by
  intro c env s henv hs
  obtain ⟨env₁, hstart, -, env', kept, hrun, hstop, -⟩ :=
    @Instrumentation.layer_run ρ inner settings c env s
  obtain ⟨hlater, hgood, hends⟩ := h c env₁ s.2 (hstart.readingAt_eq.trans henv) hs
  rw [hrun]
  exact ⟨hstart.trans (hlater.trans hstop), hgood, hends⟩

theorem Serves.onSnd (h : Serves inner Good spans readingAt answers) :
    Serves (Store.onSnd inner : Store (σ × ρ)) (fun s => Good s.2) spans readingAt answers :=
  fun c env s henv hs => h c env s.2 henv hs

end Layers

/-! ## Caching -/

namespace Caching

/-- Whatever a table keeps for a call is the answer of the call. -/
structure Remembers (answers : Answers) (t : CacheTable) : Prop where
  sound : t.Sound
  entries : ∀ (c : Call) (slot : CacheSlot c.Answer) (e : CacheEntry), c.slot? = some slot →
    t.find? slot.key = some e → ∃ a, answers c = .ok a ∧ e.value = slot.encode a

theorem remembers_new (answers : Answers)
    (capacity : Nat) : Remembers answers (CacheTable.new capacity) := by
  refine ⟨CacheTable.new_sound capacity, fun c slot e _ hfind => ?_⟩
  rw [CacheTable.find?_new] at hfind
  cases hfind

theorem Remembers.within {answers : Answers} {t t' : CacheTable} (h : Remembers answers t)
    (hsound : t'.Sound) (hwithin : t'.Within t) : Remembers answers t' :=
  ⟨hsound, fun c slot e hslot hfind => h.entries c slot e hslot (hwithin _ _ hfind)⟩

/-- Keeping the answer of a call leaves a table that remembers it. -/
theorem Remembers.stored {answers : Answers} {t : CacheTable} (h : Remembers answers t) {c : Call}
    {slot : CacheSlot c.Answer} (hslot : c.slot? = some slot) (order : EntryOrder)
    (now expiry : Nat) :
    Remembers answers (Caching.stored t order now (entryOf? slot expiry (answers c))) := by
  refine ⟨stored_sound h.sound _ _ _, fun d slot' e hslot' hfind => ?_⟩
  rcases find?_stored h.sound hfind with ⟨hnew, hkey⟩ | hold
  · obtain ⟨a, hanswer, -, rfl⟩ := entryOf?_eq_some_iff.1 hnew
    cases Call.slot_injective hslot hslot' hkey
    exact ⟨a, hanswer, rfl⟩
  · exact h.entries d slot' e hslot' hold

/-- What is found is the answer, as long as the answer is read back as itself. -/
theorem Remembers.found {answers : Answers} {t : CacheTable} (h : Remembers answers t)
    (hfaithful : ∀ c a, answers c = .ok a → c.Faithful a) {c : Call} {slot : CacheSlot c.Answer}
    (hslot : c.slot? = some slot) {now : Nat} {b : c.Answer} (hfound : found slot t now = some b) :
    answers c = .ok b := by
  obtain ⟨e, hfind, -, hdecode⟩ := exists_entry_of_found hfound
  obtain ⟨a, hanswer, hvalue⟩ := h.entries c slot e hslot hfind
  have hsame : b = a := by
    refine hfaithful c a hanswer b ?_
    rw [← Call.slot_decode_encode hslot, ← hvalue, hdecode]
  rw [hsame, hanswer]

end Caching

open Caching in
/-- A cached store serves what the store under it serves. -/
theorem Serves.caching {inner : Store ρ} {Good : ρ → Prop} {spans : List Nat}
    {readingAt : Nat → Nat} {answers : Answers} (h : Serves inner Good spans readingAt answers)
    (hfaithful : ∀ c a, answers c = .ok a → c.Faithful a) (ttl : Nat) :
    Serves (Caching.layer table ttl inner) (fun s => Remembers answers s.1.cache ∧ Good s.2)
      (ttl :: spans)
      readingAt answers := by
  intro c env s henv ⟨hremembers, hgood⟩
  cases hslot : c.slot? with
  | none =>
    obtain ⟨hlater, hgood', hends⟩ := h c env s.2 henv hgood
    rw [layer_uncached inner hslot]
    exact ⟨hlater, ⟨hremembers, hgood'⟩, hends.mono fun _ => List.mem_cons_of_mem ttl⟩
  | some slot =>
    have hget := hremembers.within
      (CacheTable.get_sound hremembers.sound env.clock.reading slot.key)
      (CacheTable.get_within _ _ _)
    cases hfound : Caching.found slot s.1.cache env.clock.reading with
    | some b =>
      obtain ⟨env', failures, hlater, hrun⟩ := @layer_hit ρ ttl inner c slot env s hslot b hfound
      rw [hrun, hremembers.found hfaithful hslot hfound]
      exact ⟨(Env.Precedes.tick env).trans hlater, ⟨hget, hgood⟩, Or.inl rfl⟩
    | none =>
      obtain ⟨env₁, failures, hclock, hmiss, hstop⟩ :=
        @layer_miss ρ ttl inner c slot env s hslot hremembers.sound hfound
      have hstart : env.Precedes env₁ := .of_tick hclock
      obtain ⟨hlater, hgood', hends⟩ := h c env₁ s.2 (hstart.readingAt_eq.trans henv) hgood
      rcases hinner : inner c env₁ s.2 with ⟨fault | result, env₂, s'⟩
      · obtain ⟨env', hlast, hrun⟩ := hstop hinner
        rw [hinner] at hlater hgood' hends
        rw [hrun]
        exact ⟨hstart.trans (hlater.trans hlast), ⟨hget, hgood'⟩,
          hends.mono fun _ => List.mem_cons_of_mem ttl⟩
      · obtain ⟨env', hlast, hrun⟩ := hmiss hinner
        rw [hinner] at hlater hgood' hends
        obtain rfl : result = answers c := by
          rcases hends with hends | ⟨hends, -⟩ <;> cases hends
          rfl
        have hclock₂ := (hstart.trans hlater).readingAt_eq.trans henv
        rcases hrun with hrun | ⟨hlimit, t, hsound, hwithin, hrun⟩
        · rw [hrun]
          exact ⟨hstart.trans (hlater.trans hlast), ⟨hget.stored hslot _ _ _, hgood'⟩, Or.inl rfl⟩
        · rw [hrun]
          rw [Clock.reading, hclock₂] at hlimit
          exact ⟨hstart.trans (hlater.trans hlast), ⟨hremembers.within hsound hwithin, hgood'⟩,
            Or.inr ⟨rfl, ttl, List.mem_cons_self, _, hlimit⟩⟩

/-! ## Stacks -/

namespace Layers

/-- The spans for which the caching layers keep answers. -/
def spans : List Layer → List Nat
  | [] => []
  | .caching _ ttl :: rest => ttl :: spans rest
  | .validation :: rest | .audit _ _ :: rest | .instrumentation _ :: rest => spans rest

/-- What layers make of the answers of their base: validation refuses, all others pass on. -/
def answers (base : Answers) : List Layer → Answers
  | [] => base
  | .validation :: rest => Validation.answers (answers base rest)
  | .caching _ _ :: rest | .audit _ _ :: rest | .instrumentation _ :: rest => answers base rest

theorem ok_of_answers {base : Answers} {layers : List Layer} {c : Call} {a : c.Answer}
    (h : answers base layers c = .ok a) : base c = .ok a := by
  induction layers with
  | nil => exact h
  | cons l rest ih =>
    cases l with
    | validation =>
      rw [answers, Validation.answers] at h
      split at h
      · cases h
      · exact ih h
    | caching home ttl => exact ih h
    | audit sink operations => exact ih h
    | instrumentation settings => exact ih h

/-- A stack over tables of its own serves what its base serves, but for what it refuses. -/
theorem exists_serves {base : Store σ} {Good : σ → Prop} {readingAt : Nat → Nat}
    {expected : Answers} (hbase : Serves base Good [] readingAt expected)
    (hfaithful : ∀ c a, expected c = .ok a → c.Faithful a) {s : σ} (hs : Good s)
    {layers : List Layer} (hown : ∀ home ttl, .caching home ttl ∈ layers →
    ∃ capacity, home = .own capacity) :
    ∃ Good' : State σ layers → Prop,
      Serves (store base layers) Good' (spans layers) readingAt (answers expected layers) ∧
        Good' (start s layers) := by
  induction layers with
  | nil => exact ⟨Good, hbase, hs⟩
  | cons l rest ih =>
    obtain ⟨Good', hserves, hstart⟩ := ih fun home ttl hmem =>
      hown home ttl (List.mem_cons_of_mem l hmem)
    cases l with
    | validation => exact ⟨_, hserves.validation.onSnd, hstart⟩
    | caching home ttl =>
      obtain ⟨capacity, rfl⟩ := hown home ttl List.mem_cons_self
      exact ⟨_, hserves.caching (fun c a h => hfaithful c a (ok_of_answers h)) ttl,
        Caching.remembers_new _ capacity, hstart⟩
    | audit sink operations => exact ⟨_, (hserves.auditing sink operations).onSnd, hstart⟩
    | instrumentation settings => exact ⟨_, hserves.instrumentation settings, hstart⟩

end Layers

/-! ## Configured stacks -/

/-- The doubles of a ledger's answers are those of its quotas. -/
theorem Ledger.exists_quota_of_doubles {l : Ledger} {c : Call} {a : c.Answer}
    (h : l.answers c = .ok a) {x : Float}
    (hx : x ∈ c.doubles a) : ∃ e ∈ l.quotas.toList, e.2.numCpus = x := by
  cases c with
  | quota role =>
    cases h
    rw [Call.doubles, SortedMap.lookup?, Keyed.get?] at hx
    cases hfind : l.quotas.toList.find? fun e => compare e.1 role == .eq with
    | none => simp [hfind] at hx
    | some e =>
      refine ⟨e, List.mem_of_find?_eq_some hfind, ?_⟩
      simpa [hfind, eq_comm] using hx
  | quotas =>
    cases h
    obtain ⟨e, he, hcpus⟩ := List.mem_map.1 hx
    exact ⟨e, he, hcpus⟩
  | _ => cases hx

namespace StorageConfig

variable {c : StorageConfig} {options : LayerOptions} {layers : List Layer}

theorem layers_eq_ok_iff : c.layers options = .ok layers ↔ c.check = .ok () ∧
    ∃ audited, c.audit.audited = .ok audited ∧ layers = c.layersAuditing options audited := by
  unfold StorageConfig.layers
  cases c.check with
  | error e => simp [bind, Except.bind]
  | ok =>
    cases c.audit.audited with
    | error e => simp [bind, Except.bind]
    | ok audited => simp [bind, Except.bind, pure, Except.pure, eq_comm]

theorem exists_audited (h : c.layers options = .ok layers) :
    ∃ audited, layers = c.layersAuditing options audited := by
  obtain ⟨-, audited, -, hlayers⟩ := layers_eq_ok_iff.1 h
  exact ⟨audited, hlayers⟩

/-- A configured stack has one caching layer at most, whose home is told or its own. -/
theorem caching_mem_layersAuditing {audited : SortedSet Operation} {home : CacheHome} {ttl : Nat}
    (h : .caching home ttl ∈ c.layersAuditing options audited) :
    home = options.cache.getD (.own c.cache.maxEntries.toNat) := by
  unfold layersAuditing Layer.when at h
  cases hi : c.instrumentation.enabled <;> cases ha : c.audit.enabled <;>
    cases hc : c.cache.enabled <;>
    cases hv : c.validation.enabled <;> simp_all

/-- Without a service to share, the cache is one of the stack's own. -/
theorem exists_own (hprivate : ∀ broken, options.cache ≠ some (.shared broken))
    {audited : SortedSet Operation} {home : CacheHome} {ttl : Nat}
    (h : .caching home ttl ∈ c.layersAuditing options audited) :
    ∃ capacity, home = .own capacity := by
  rw [caching_mem_layersAuditing h]
  rcases hcache : options.cache with - | capacity | broken
  · exact ⟨_, rfl⟩
  · exact ⟨capacity, rfl⟩
  · exact absurd hcache (hprivate broken)

theorem answers_layersAuditing (base : Answers) (audited : SortedSet Operation) :
    Layers.answers base (c.layersAuditing options audited) =
      if c.validation.enabled then Validation.answers base else base := by
  unfold layersAuditing Layer.when
  cases c.instrumentation.enabled <;> cases c.audit.enabled <;> cases c.cache.enabled <;>
    cases c.validation.enabled <;> rfl

theorem spans_layersAuditing (audited : SortedSet Operation) :
    Layers.spans (c.layersAuditing options audited) =
      if c.cache.enabled then [c.cache.ttl] else [] := by
  unfold layersAuditing Layer.when
  cases c.instrumentation.enabled <;> cases c.audit.enabled <;> cases c.cache.enabled <;>
    cases c.validation.enabled <;> rfl

/-- A configured stack over a cache of its own ends every call of every run as its base does, or as
validation alone does where it refuses the call, unless the clock is at its end. -/
theorem stack_transparent (hlayers : c.layers options = .ok layers)
    (hprivate : ∀ broken, options.cache ≠ some (.shared broken)) {base : Store σ} {Good : σ → Prop}
    {answers : Answers} {env : Env} {s : σ}
    (hbase : Serves base Good [] env.clock.readingAt answers) (hs : Good s)
    (hdoubles : ∀ call a, answers call = .ok a → ∀ x ∈ call.doubles a, x.isFinite = true →
      Decimal.reread? x = some x) (calls : List Call) (call : Call) :
    let reached := (Layers.store base layers).after calls env (Layers.start s layers)
    let outcome := (Layers.store base layers call reached.1 reached.2).outcome
    (∀ flaw, call.flaw? = some flaw →
      (Validation.layer base call env s).outcome = .ok (.error (.invalidArgument flaw.message))) ∧
    (base call env s).outcome = .ok (answers call) ∧
    (outcome = (if c.validation.enabled = true ∧ call.flaw?.isSome = true then
        (Validation.layer base call env s).outcome else (base call env s).outcome) ∨
      (c.cache.enabled = true ∧ outcome = .error .instantOverflow ∧
        ∃ i, Clock.limit ≤ env.clock.readingAt i + c.cache.ttl)) := by
  intro reached outcome
  obtain ⟨audited, rfl⟩ := exists_audited hlayers
  have hfaithful : ∀ call a, answers call = .ok a → call.Faithful a := fun call a hanswer =>
    Call.faithful_of_finite (hdoubles call a hanswer)
  obtain ⟨Good', hserves, hstart⟩ := Layers.exists_serves hbase hfaithful hs
    fun home ttl hmem => exists_own hprivate hmem
  have hends := hserves.after calls rfl hstart call
  have hbare : (base call env s).outcome = .ok (answers call) := by
    rcases (hbase call env s rfl hs).2.2 with h | ⟨-, ttl, hmem, -⟩
    · exact h
    · cases hmem
  have halone : ∀ flaw, call.flaw? = some flaw →
      (Validation.layer base call env s).outcome =
        .ok (.error (.invalidArgument flaw.message)) := by
    intro flaw hflaw
    rw [Validation.layer, hflaw]
    rfl
  refine ⟨halone, hbare, ?_⟩
  rw [answers_layersAuditing, spans_layersAuditing] at hends
  rcases hends with hends | ⟨hends, ttl, hmem, hlimit⟩
  · refine Or.inl (hends.trans ?_)
    cases hv : c.validation.enabled with
    | false => simp [hbare]
    | true =>
      cases hflaw : call.flaw? with
      | none => simp [Validation.answers, hflaw, hbare]
      | some flaw => simp [Validation.answers, hflaw, halone flaw hflaw, Flaw.error]
  · cases hc : c.cache.enabled with
    | false =>
      rw [hc] at hmem
      cases hmem
    | true =>
      rw [hc] at hmem
      cases List.mem_singleton.1 hmem
      exact Or.inr ⟨rfl, hends, hlimit⟩

/-- Four processors of a role are told by a stack of all four layers, whatever was asked before. -/
theorem stack_transparent_of_four_cpus :
    let c : StorageConfig := ⟨⟨true, 30, 10000⟩, ⟨true, 250⟩, ⟨true, []⟩, ⟨true⟩⟩
    let layers := c.layersAuditing default (.ofList Operation.all)
    let quota : Resources := ⟨Float.ofBits 4616189618054758400, 1, 2⟩
    let base : Store Unit := .fixed (Ledger.empty.saveQuota "r" quota).answers
    c.layers default = .ok layers ∧ ∀ calls : List Call,
      let reached := (Layers.store base layers).after calls .still (Layers.start () layers)
      (Layers.store base layers (.quota "r") reached.1 reached.2).outcome =
        .ok (.ok (some quota)) := by
  intro c layers quota base
  have hlayers : c.layers default = .ok layers := rfl
  have hanswer : (Ledger.empty.saveQuota "r" quota).answers (.quota "r") = .ok (some quota) := by
    change Except.ok ((Ledger.empty.saveQuota "r" quota).quotas.lookup? "r") = _
    simp [Ledger.saveQuota, SortedMap.lookup?, Keyed.get?, SortedMap.put, Ledger.empty, Keyed.place]
  refine ⟨hlayers, fun calls => ?_⟩
  have hdoubles : ∀ (call : Call) (a : call.Answer),
      (Ledger.empty.saveQuota "r" quota).answers call = .ok a → ∀ x ∈ call.doubles a,
        x.isFinite = true → Decimal.reread? x = some x := by
    intro call a hanswer x hx _
    obtain ⟨e, he, rfl⟩ := Ledger.exists_quota_of_doubles hanswer hx
    obtain rfl : e = ("r", quota) := List.mem_singleton.1 he
    exact Decimal.reread?_four
  obtain ⟨-, -, h | ⟨-, -, i, hi⟩⟩ := stack_transparent hlayers (fun _ h => by cases h)
    (serves_fixed _ Env.still.clock.readingAt) trivial hdoubles calls (.quota "r")
  · refine h.trans ?_
    rw [if_neg (by decide)]
    exact congrArg Except.ok hanswer
  · exact absurd hi (by decide : ¬ Clock.limit ≤ 0 + 30 * 1000000000)

end StorageConfig

end ClusterReads
