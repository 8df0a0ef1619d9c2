import ClusterReads.Proofs.Run
import ClusterReads.Proofs.Layer.Caching

/-!
# A cache that is of no use

A cache may answer each read as it likes with an error, with nothing or with a text that does not decode,
and may fail any write. What is asked of it is recorded with the replies, and so is what the store within is
asked. Main statement: over such a cache every call reaches the store within once and ends as it ends there,
what is there is offered to the cache, and the failures are counted exactly.
-/
namespace ClusterReads

variable {σ τ κ ι ρ π α β : Type}

/-! ## What is asked of a cache -/

/-- A request to a cache, and the reply: a text that was read, or nothing. -/
structure Exchange where
  request : CacheCommand
  reply : Except StoreError (Option String)

/-- A reply fails a reader if it is an error or does not decode. -/
def Exchange.fails (decode : String → Option α) (x : Exchange) : Bool :=
  match x.reply with
  | .error _ => true
  | .ok none => false
  | .ok (some text) => (decode text).isNone

namespace CacheService

/-- Records a request that was answered. -/
def recorded (request : CacheCommand) (text? : α → Option String) (x : Act κ (StoreResult α)) :
    Act (List Exchange × κ) (StoreResult α) := do
  let reply ← x.onSnd
  (Act.modify fun past => past ++ [⟨request, reply.map text?⟩]).onFst
  return reply

/-- Records each request, the statistics apart. -/
def noted (service : CacheService κ) : CacheService (List Exchange × κ) where
  get key := recorded (.get key) id (service.get key)
  set key value ttl := recorded (.set key value ttl) (fun _ => none) (service.set key value ttl)
  delete key := recorded (.delete key) (fun _ => none) (service.delete key)
  clearPrefix start := recorded (.clearPrefix start) (fun _ => none) (service.clearPrefix start)
  clear := recorded .clear (fun _ => none) service.clear
  stats := service.stats.onSnd

theorem recorded_run {request : CacheCommand} {text? : α → Option String} {x : Act κ (StoreResult α)}
    {env later : Env} {s : List Exchange × κ} {reply : StoreResult α} {s' : κ}
    (h : x env s.2 = ⟨.ok reply, later, s'⟩) : recorded request text? x env s =
      ⟨.ok reply, later, (s.1 ++ [⟨request, reply.map text?⟩], s')⟩ := by
  rw [recorded, Act.bind_run, Act.onSnd, h]
  rfl

/-- Every request is answered, but no read of a slot with anything that the slot can use. -/
structure Useless (service : CacheService κ) : Prop where
  get : ∀ (c : Call) (slot : CacheSlot c.Answer), c.slot? = some slot → ∀ env s,
    ∃ reply later s', service.get slot.key env s = ⟨.ok reply, later, s'⟩ ∧
      ∀ text, reply = .ok (some text) → slot.decode text = none
  set : ∀ key value ttl env s,
    ∃ reply later s', service.set key value ttl env s = ⟨.ok reply, later, s'⟩

/-- Every removal is answered, whether it fails or not. -/
structure AnswersRemovals (service : CacheService κ) : Prop where
  delete : ∀ key env s, ∃ reply later s', service.delete key env s = ⟨.ok reply, later, s'⟩
  clearPrefix : ∀ start env s,
    ∃ reply later s', service.clearPrefix start env s = ⟨.ok reply, later, s'⟩
  clear : ∀ env s, ∃ reply later s', service.clear env s = ⟨.ok reply, later, s'⟩

end CacheService

/-- The reply fails the call that asked. -/
def Call.failedBy (c : Call) (x : Exchange) : Bool :=
  match c.slot? with
  | some slot => x.fails slot.decode
  | none => false

namespace Caching

/-- What a call with an outcome asks of the cache: a read, and a write of what was given if that is there. -/
inductive Asks (ttl : Nat) (c : Call) (outcome : Except Fault (StoreResult c.Answer)) :
    List Exchange → Prop
  | uncached (hslot : c.slot? = none) : Asks ttl c outcome []
  | unkept {slot : CacheSlot c.Answer} (hslot : c.slot? = some slot)
    (reply : Except StoreError (Option String))
    (hnot : ∀ a, outcome = .ok (.ok a) → c.isAbsent a = true) :
    Asks ttl c outcome [⟨.get slot.key, reply⟩]
  | kept {slot : CacheSlot c.Answer} (hslot : c.slot? = some slot)
    (reply : Except StoreError (Option String)) {a : c.Answer} (hgiven : outcome = .ok (.ok a))
    (hthere : c.isAbsent a = false) (written : Except StoreError (Option String)) :
    Asks ttl c outcome [⟨.get slot.key, reply⟩, ⟨.set slot.key (slot.encode a) ttl, written⟩]

variable {service : CacheService κ}

theorem failedBy_eq {c : Call} {slot : CacheSlot c.Answer} (hslot : c.slot? = some slot)
    (x : Exchange) : c.failedBy x = x.fails slot.decode := by
  rw [Call.failedBy, hslot]

/-- A look finds nothing, and counts a failure if there was one. -/
theorem look_useless (h : service.Useless) {c : Call} {slot : CacheSlot c.Answer}
    (hslot : c.slot? = some slot) (env : Env) (s : CachingState (List Exchange × κ)) :
    ∃ reply later cache, look service.noted slot env s = ⟨.ok none, later,
      ⟨(s.cache.1 ++ [⟨.get slot.key, reply⟩], cache),
        s.failures + [Exchange.mk (.get slot.key) reply].countP c.failedBy⟩⟩ := by
  obtain ⟨reply, later, cache, hget, huseless⟩ := h.get c slot hslot env s.cache.2
  have hnoted : service.noted.get slot.key env s.cache =
      ⟨.ok reply, later, (s.cache.1 ++ [⟨.get slot.key, reply.map id⟩], cache)⟩ :=
    CacheService.recorded_run hget
  rw [look, Act.bind_run, useCache, CacheService.getAs, Act.bind_run, hnoted]
  refine ⟨reply.map id, ?_⟩
  simp only [List.countP_singleton, failedBy_eq hslot]
  cases reply with
  | error e => exact ⟨_, cache, rfl⟩
  | ok found =>
    cases found with
    | none => exact ⟨_, cache, rfl⟩
    | some text =>
      simp only [huseless text rfl, Exchange.fails, Except.map, id, Option.isNone_none]
      exact ⟨_, cache, rfl⟩

/-- A result is written if it is there, and a failure to do so is counted. -/
theorem keep_useless (ttl : Nat) (h : service.Useless) {c : Call} {slot : CacheSlot c.Answer}
    (hslot : c.slot? = some slot) (result : StoreResult c.Answer) (env : Env)
    (s : CachingState (List Exchange × κ)) (reply : Except StoreError (Option String)) :
    ∃ written later cache, keep service.noted ttl slot result env s = ⟨.ok (), later,
        ⟨(s.cache.1 ++ written, cache), s.failures + written.countP c.failedBy⟩⟩ ∧
      Asks ttl c (.ok result) (⟨.get slot.key, reply⟩ :: written) := by
  cases result with
  | error e =>
    refine ⟨[], env, s.cache.2, ?_, .unkept hslot reply fun a ha => by cases ha⟩
    rw [List.append_nil]
    rfl
  | ok a =>
    have hkeeps := Call.slot_keeps hslot a
    cases hthere : c.isAbsent a with
    | true =>
      rw [hthere, Bool.not_true] at hkeeps
      refine ⟨[], env, s.cache.2, ?_, .unkept hslot reply fun b hb => by cases hb; exact hthere⟩
      rw [keep, hkeeps, if_neg Bool.false_ne_true, List.append_nil]
      rfl
    | false =>
      rw [hthere, Bool.not_false] at hkeeps
      obtain ⟨written, later, cache, hset⟩ := h.set slot.key (slot.encode a) ttl env s.cache.2
      have hnoted : service.noted.set slot.key (slot.encode a) ttl env s.cache = ⟨.ok written, later,
          (s.cache.1 ++ [⟨.set slot.key (slot.encode a) ttl, written.map fun _ => none⟩], cache)⟩ :=
        CacheService.recorded_run hset
      rw [keep, if_pos hkeeps, Act.bind_run, useCache, hnoted]
      refine ⟨[⟨.set slot.key (slot.encode a) ttl, written.map fun _ => none⟩], ?_⟩
      simp only [List.countP_singleton, failedBy_eq hslot]
      cases written with
      | error e => exact ⟨_, cache, rfl, .kept hslot reply rfl hthere _⟩
      | ok _ => exact ⟨_, cache, rfl, .kept hslot reply rfl hthere _⟩

/-- A call ends as it ends in the store within, which it reaches once. -/
theorem layer_useless (ttl : Nat) (h : service.Useless) (inner : Store ρ) (c : Call) (env : Env)
    (s : CachingState (List Exchange × κ) × ρ) :
    ∃ reached exchanges later cache, layer service.noted ttl inner c env s =
        ⟨(inner c reached s.2).outcome, later, (⟨(s.1.cache.1 ++ exchanges, cache),
          s.1.failures + exchanges.countP c.failedBy⟩, (inner c reached s.2).state)⟩ ∧
      Asks ttl c (inner c reached s.2).outcome exchanges := by
  cases hslot : c.slot? with
  | none =>
    refine ⟨env, [], (inner c env s.2).env, s.1.cache.2, ?_, .uncached hslot⟩
    rw [layer, hslot, List.append_nil]
    rfl
  | some slot =>
    obtain ⟨reply, reached, cache, hlook⟩ := look_useless h hslot
      { env with journal := env.journal.enter c.operation.name } s.1
    have hlayer : layer service.noted ttl inner c env s = Act.within c.operation.name
        (readThrough service.noted ttl slot (inner c)) env s := by
      rw [layer, hslot]
    -- whatever the look did, the store within is asked next, in the surroundings that it left
    refine ⟨reached, ?_⟩
    rw [hlayer]
    rcases hinner : inner c reached s.2 with ⟨fault | result, after, t⟩
    · -- a fault of the store ends the call before anything is written
      refine ⟨[⟨.get slot.key, reply⟩], { after with journal := after.journal.leave }, cache,
        Act.within_run ?_, .unkept hslot reply fun a ha => by cases ha⟩
      simp only [readThrough, Act.bind_run, Act.onFst, hlook, Act.onSnd, hinner]
    · obtain ⟨written, later, cache', hkeep, hasks⟩ := keep_useless ttl h hslot result after
        ⟨(s.1.cache.1 ++ [⟨.get slot.key, reply⟩], cache),
          s.1.failures + [Exchange.mk (.get slot.key) reply].countP c.failedBy⟩ reply
      refine ⟨⟨.get slot.key, reply⟩ :: written, { later with journal := later.journal.leave }, cache',
        Act.within_run ?_, hasks⟩
      simp only [readThrough, Act.bind_run, Act.onFst, hlook, Act.onSnd, hinner, hkeep, Act.pure_run,
        List.append_assoc, Nat.add_assoc, ← List.countP_append]
      rfl

/-! ## Invalidation -/

/-- The request to a cache for one step of an invalidation. -/
def Removal.command : Removal → CacheCommand
  | .single key => .delete key
  | .family f => .clearPrefix f.start
  | .everything => .clear

/-- Requests are made in turn until one fails; the failure is reported. -/
inductive Reported : List CacheCommand → StoreResult Unit → List Exchange → Prop
  | done : Reported [] (.ok ()) []
  | failed (request : CacheCommand) (rest : List CacheCommand) (e : StoreError) :
    Reported (request :: rest) (.error e) [⟨request, .error e⟩]
  | next (request : CacheCommand) {rest : List CacheCommand} {result : StoreResult Unit}
    {exchanges : List Exchange} (h : Reported rest result exchanges) :
    Reported (request :: rest) result (⟨request, .ok none⟩ :: exchanges)

theorem deleteAll_reported (h : service.AnswersRemovals) (keys : List String) (env : Env)
    (s : List Exchange × κ) : ∃ result later cache exchanges, deleteAll service.noted keys env s =
        ⟨.ok result, later, (s.1 ++ exchanges, cache)⟩ ∧
      Reported (keys.map .delete) result exchanges := by
  induction keys generalizing env s with
  | nil => exact ⟨.ok (), env, s.2, [], by rw [List.append_nil]; rfl, .done⟩
  | cons key rest ih =>
    obtain ⟨reply, later, cache, hdelete⟩ := h.delete key env s.2
    have hrun : service.noted.delete key env s =
        ⟨.ok reply, later, (s.1 ++ [⟨.delete key, reply.map fun _ => none⟩], cache)⟩ :=
      CacheService.recorded_run hdelete
    rw [deleteAll, Act.bind_run, hrun]
    cases reply with
    | error e => exact ⟨.error e, later, cache, _, rfl, .failed (.delete key) _ e⟩
    | ok _ =>
      obtain ⟨result, last, cache', exchanges, hrest, hreported⟩ :=
        ih later (s.1 ++ [⟨.delete key, .ok none⟩], cache)
      refine ⟨result, last, cache', ⟨.delete key, .ok none⟩ :: exchanges, ?_, .next _ hreported⟩
      rw [List.append_assoc] at hrest
      exact hrest

theorem family_reported (h : service.AnswersRemovals) (f : CacheFamily) (env : Env)
    (s : List Exchange × κ) : ∃ result later cache exchanges,
      Removal.request service.noted (.family f) env s =
        ⟨.ok result, later, (s.1 ++ exchanges, cache)⟩ ∧
      Reported [.clearPrefix f.start] result exchanges := by
  obtain ⟨reply, later, cache, hclear⟩ := h.clearPrefix f.start env s.2
  have hrun : service.noted.clearPrefix f.start env s =
      ⟨.ok reply, later, (s.1 ++ [⟨.clearPrefix f.start, reply.map fun _ => none⟩], cache)⟩ :=
    CacheService.recorded_run hclear
  rw [Removal.request, Act.bind_run, hrun]
  cases reply with
  | error e => exact ⟨.error e, later, cache, _, rfl, .failed _ [] e⟩
  | ok _ => exact ⟨.ok (), later, cache, _, rfl, .next _ .done⟩

theorem clear_reported (h : service.AnswersRemovals) (env : Env) (s : List Exchange × κ) :
    ∃ result later cache exchanges, service.noted.clear env s =
        ⟨.ok result, later, (s.1 ++ exchanges, cache)⟩ ∧ Reported [.clear] result exchanges := by
  obtain ⟨reply, later, cache, hclear⟩ := h.clear env s.2
  have hrun : service.noted.clear env s =
      ⟨.ok reply, later, (s.1 ++ [⟨.clear, reply.map fun _ => none⟩], cache)⟩ :=
    CacheService.recorded_run hclear
  rw [hrun]
  cases reply with
  | error e => exact ⟨.error e, later, cache, _, rfl, .failed _ [] e⟩
  | ok _ => exact ⟨.ok (), later, cache, _, rfl, .next _ .done⟩

/-- An invalidation makes its requests in turn until the cache fails one, and gives that failure. -/
theorem invalidate_reported (h : service.AnswersRemovals) (i : Invalidation) (env : Env)
    (s : List Exchange × κ) : ∃ result later cache exchanges, invalidate service.noted i env s =
        ⟨.ok result, later, (s.1 ++ exchanges, cache)⟩ ∧
      Reported (i.removals.map Removal.command) result exchanges := by
  cases i with
  | frameworkId => exact deleteAll_reported h [frameworkIdKey] env s
  | quotas => exact family_reported h .quota env s
  | host name =>
    exact deleteAll_reported h [CacheFamily.host.keyOf name, CacheFamily.host.allKey] env s
  | deploys => exact family_reported h .deploy env s
  | everything => exact clear_reported h env s

end Caching

/-! ## Watching a layer -/

/-- The first action does to its states what the second does to what they stand for. -/
def Act.Refines (f : σ → τ) (x : Act σ α) (y : Act τ α) : Prop :=
  ∀ env s, y env (f s) = ⟨(x env s).outcome, (x env s).env, f (x env s).state⟩

namespace Act.Refines

variable {f : σ → τ} {g : ρ → π} {x : Act σ α} {y : Act τ α}

theorem pure (a : α) : Refines f (Pure.pure a) (Pure.pure a) :=
  fun _ _ => rfl

theorem log (level : LogLevel) (source : LogSource) (message : String)
    (fields : List (String × LogValue)) :
    Refines f (Act.log level source message fields) (Act.log level source message fields) :=
  fun _ _ => rfl

theorem bind {k : α → Act σ β} {l : α → Act τ β} (hx : Refines f x y)
    (hk : ∀ a, Refines f (k a) (l a)) : Refines f (x >>= k) (y >>= l) := by
  intro env s
  rw [Act.bind_run, Act.bind_run, hx env s]
  rcases x env s with ⟨_ | a, later, s'⟩
  · rfl
  · exact hk a later s'

theorem onFst (hx : Refines f x y) : Refines (Prod.map f g) x.onFst y.onFst := by
  intro env s
  simp only [Act.onFst, Prod.map, hx env s.1]

theorem onSnd (hx : Refines f x y) : Refines (Prod.map g f) x.onSnd y.onSnd := by
  intro env s
  simp only [Act.onSnd, Prod.map, hx env s.2]

theorem within (span : String) (hx : Refines f x y) : Refines f (x.within span) (y.within span) := by
  intro env s
  exact Act.within_run (hx _ s)

end Act.Refines

open Act (Refines)

/-- What is read from the first service and written to it is so in the second. -/
structure CacheService.Refines (f : κ → ι) (service : CacheService κ) (other : CacheService ι) : Prop where
  get : ∀ key, Act.Refines f (service.get key) (other.get key)
  set : ∀ key value ttl, Act.Refines f (service.set key value ttl) (other.set key value ttl)

theorem CacheService.recorded_refines (request : CacheCommand) (text? : α → Option String)
    (x : Act κ (StoreResult α)) : Act.Refines Prod.snd (recorded request text? x) x := by
  intro env s
  rw [recorded, Act.bind_run, Act.onSnd]
  rcases x env s.2 with ⟨_ | reply, later, s'⟩ <;> rfl

theorem CacheService.noted_refines (service : CacheService κ) :
    CacheService.Refines Prod.snd service.noted service :=
  ⟨fun _ => recorded_refines _ _ _, fun _ _ _ => recorded_refines _ _ _⟩

/-- A call, and how it ended. -/
abbrev Outcome :=
  (c : Call) × Except Fault (StoreResult c.Answer)

/-- Records how each call ends. -/
def Store.witnessed (inner : Store ρ) : Store (List Outcome × ρ) := fun c env s =>
  let r := inner c env s.2
  ⟨r.outcome, r.env, (s.1 ++ [⟨c, r.outcome⟩], r.state)⟩

namespace Caching

/-- The state of the layer with another cache for its own. -/
def mapCache (f : κ → ι) (s : CachingState κ) : CachingState ι :=
  ⟨f s.cache, s.failures⟩

section Refines

variable {f : κ → ι} {g : ρ → π} {service : CacheService κ} {other : CacheService ι}

theorem useCache_refines {x : Act κ α} {y : Act ι α} (h : Refines f x y) :
    Refines (mapCache f) (useCache x) (useCache y) := by
  intro env s
  simp only [useCache, mapCache, h env s.cache]

theorem noteFailure_refines (what key : String) (e : StoreError) :
    Refines (mapCache f) (noteFailure what key e) (noteFailure what key e) :=
  fun _ _ => rfl

theorem getAs_refines (h : CacheService.Refines f service other) (decode : String → Option α)
    (key : String) : Refines f (service.getAs decode key) (other.getAs decode key) := by
  refine (h.get key).bind fun result => ?_
  rcases result with e | _ | text
  · exact .pure _
  · exact .pure _
  · cases hdecode : decode text <;> simp only [hdecode] <;> exact .pure _

theorem look_refines (h : CacheService.Refines f service other) (slot : CacheSlot α) :
    Refines (mapCache f) (look service slot) (look other slot) := by
  refine (useCache_refines (getAs_refines h slot.decode slot.key)).bind fun result => ?_
  rcases result with e | _ | a
  · exact (noteFailure_refines _ _ e).bind fun _ => .pure _
  · exact (Act.Refines.log _ _ _ _).bind fun _ => .pure _
  · exact (Act.Refines.log _ _ _ _).bind fun _ => .pure _

theorem keep_refines (h : CacheService.Refines f service other) (ttl : Nat) (slot : CacheSlot α)
    (result : StoreResult α) :
    Refines (mapCache f) (keep service ttl slot result) (keep other ttl slot result) := by
  cases result with
  | error e => exact .pure _
  | ok a =>
    by_cases hkeeps : slot.keeps a
    · rw [keep, keep, if_pos hkeeps, if_pos hkeeps]
      refine (useCache_refines (h.set _ _ _)).bind fun written => ?_
      cases written with
      | ok => exact .pure _
      | error e => exact noteFailure_refines _ _ e
    · rw [keep, keep, if_neg hkeeps, if_neg hkeeps]
      exact .pure _

/-- A layer refines another if its service and the store under it do. -/
theorem layer_refines (h : CacheService.Refines f service other) (ttl : Nat) {inner : Store ρ}
    {base : Store π} (hinner : ∀ c, Refines g (inner c) (base c)) (c : Call) :
    Refines (Prod.map (mapCache f) g) (layer service ttl inner c) (layer other ttl base c) := by
  unfold layer
  cases hslot : c.slot? with
  | none => exact (hinner c).onSnd
  | some slot =>
    refine Act.Refines.within _ ((look_refines h slot).onFst.bind fun found => ?_)
    cases found with
    | some a => exact .pure _
    | none =>
      exact (hinner c).onSnd.bind fun result =>
        (keep_refines h ttl slot result).onFst.bind fun _ => .pure _

end Refines

/-- The state of a caching layer with what was asked of the cache, and of the store within. -/
abbrev WatchedState (κ ρ : Type) : Type :=
  CachingState (List Exchange × κ) × (List Outcome × ρ)

/-- A caching layer that is watched on both sides. -/
abbrev watched (service : CacheService κ) (ttl : Nat) (inner : Store ρ) : Store (WatchedState κ ρ) :=
  layer service.noted ttl inner.witnessed

/-- A visit of the layer itself, which nobody watches. -/
def unwatched (v : Visit (WatchedState κ ρ)) : Visit (CachingState κ × ρ) :=
  ⟨v.call, v.env, (⟨v.state.1.cache.2, v.state.1.failures⟩, v.state.2.2)⟩

/-- A layer that is watched does what it does unwatched. -/
theorem serve_unwatched (service : CacheService κ) (ttl : Nat) (inner : Store ρ)
    (v : Visit (WatchedState κ ρ)) :
    let step := (watched service ttl inner).serve v
    (layer service ttl inner).serve (unwatched v) =
      ⟨step.outcome, step.env, (⟨step.state.1.cache.2, step.state.1.failures⟩, step.state.2.2)⟩ :=
  layer_refines service.noted_refines ttl (fun _ _ _ => rfl) v.call v.env v.state

/-! ## Runs -/

/-- Whatever others do between two calls, they count no failures of the layer and do not ask the store through
it. -/
def Aside : Store.Others (WatchedState κ ρ) := fun _ s _ s' =>
  s'.1.failures = s.1.failures ∧ s'.2.1 = s.2.1

section Run

variable {service : CacheService κ} {ttl : Nat} {inner : Store ρ}

/-- What a visit asks of the cache. -/
def exchanges (service : CacheService κ) (ttl : Nat) (inner : Store ρ) (v : Visit (WatchedState κ ρ)) :
    List Exchange :=
  ((watched service ttl inner).serve v).state.1.cache.1.drop v.state.1.cache.1.length

/-- What is recorded of one visit. -/
theorem visit_useless (ttl : Nat) (inner : Store ρ) (h : service.Useless) (v : Visit (WatchedState κ ρ)) :
    let step := (watched service ttl inner).serve v
    Asks ttl v.call step.outcome (exchanges service ttl inner v) ∧
      step.state.1.cache.1 = v.state.1.cache.1 ++ exchanges service ttl inner v ∧
      step.state.1.failures =
        v.state.1.failures + (exchanges service ttl inner v).countP v.call.failedBy ∧
      step.state.2.1 = v.state.2.1 ++ [⟨v.call, step.outcome⟩] := by
  intro step
  obtain ⟨reached, asked, later, cache, hrun, hasks⟩ :=
    layer_useless ttl h inner.witnessed v.call v.env v.state
  have hstep : step = _ := hrun
  have hexchanges : exchanges service ttl inner v = asked := by
    rw [exchanges]
    change step.state.1.cache.1.drop _ = asked
    rw [hstep]
    exact List.drop_left
  rw [hexchanges, hstep]
  exact ⟨hasks, rfl, rfl, rfl⟩

/-- Over a store with fixed answers every call is given its own. -/
theorem outcome_over_fixed (h : service.Useless) (answers : Answers) (v : Visit (WatchedState κ ρ)) :
    ((watched service ttl (Store.fixed answers)).serve v).outcome = .ok (answers v.call) := by
  obtain ⟨reached, asked, later, cache, hrun, -⟩ :=
    layer_useless ttl h (Store.fixed answers).witnessed v.call v.env v.state
  exact congrArg Step.outcome hrun

/-- The failures that the visits of a run met. -/
def failuresOf (service : CacheService κ) (ttl : Nat) (inner : Store ρ)
    (past : List (Visit (WatchedState κ ρ))) : Nat :=
  (past.map fun v => (exchanges service ttl inner v).countP v.call.failedBy).sum

variable {start env : Env} {cache : κ} {first : ρ} {past : List (Visit (WatchedState κ ρ))}
  {s : WatchedState κ ρ}

/-- The counters of a run: the store within was asked once for each visit, and each failure was counted. -/
theorem run_useless (h : service.Useless)
    (hrun : (watched service ttl inner).Run Aside start (⟨([], cache), 0⟩, ([], first)) past env s) :
    s.2.1 = past.map (fun v => ⟨v.call, ((watched service ttl inner).serve v).outcome⟩) ∧
      s.1.failures = failuresOf service ttl inner past := by
  induction hrun with
  | empty => exact ⟨rfl, rfl⟩
  | @call past env s c hprior ih =>
    obtain ⟨hwitnessed, hfailures⟩ := ih
    obtain ⟨-, -, hcounted, hasked⟩ :=
      visit_useless ttl inner h ⟨c, env, s⟩
    constructor
    · rw [List.map_append, ← hwitnessed]
      exact hasked
    · rw [failuresOf, List.map_append, List.sum_append, List.map_singleton, List.sum_singleton]
      change _ = failuresOf service ttl inner past + _
      rw [← hfailures]
      exact hcounted
  | between hprior hothers ih => exact ⟨hothers.2.trans ih.1, hothers.1.trans ih.2⟩

/-- A cache that is of no use changes no read. Each call reaches the store within exactly once and ends as
it ends there; a cached call asks the cache for what it holds, and writes what the store gave exactly when
that is there; the layer adds to the statistics of the cache the reads that failed or did not decode and the
writes that failed; and an invalidation reports the failure of the cache. -/
theorem useless_cache_changes_no_read (h : service.Useless)
    (hrun : (watched service ttl inner).Run Aside start (⟨([], cache), 0⟩, ([], first)) past env s) :
    s.2.1 = past.map (fun v => ⟨v.call, ((watched service ttl inner).serve v).outcome⟩) ∧
    (∀ v ∈ past,
      ((layer service ttl inner).serve (unwatched v)).outcome =
        ((watched service ttl inner).serve v).outcome ∧
      Asks ttl v.call ((watched service ttl inner).serve v).outcome (exchanges service ttl inner v) ∧
      ((watched service ttl inner).serve v).state.1.cache.1 =
        v.state.1.cache.1 ++ exchanges service ttl inner v) ∧
    (∀ own later cache', service.stats env s.1.cache.2 = ⟨.ok own, later, cache'⟩ →
      (stats service.noted env s.1).outcome =
        .ok { own with errors := own.errors + failuresOf service ttl inner past }) ∧
    (service.AnswersRemovals → ∀ i : Invalidation, ∃ result later cache' exchanges,
      invalidate service.noted i env s.1.cache =
          ⟨.ok result, later, (s.1.cache.1 ++ exchanges, cache')⟩ ∧
        Reported (i.removals.map Removal.command) result exchanges) := by
  obtain ⟨hwitnessed, hfailures⟩ := run_useless h hrun
  refine ⟨hwitnessed, fun v _ => ?_, fun own later cache' hstats => ?_, fun hremovals i => ?_⟩
  · obtain ⟨hasks, hgrown, -, -⟩ := visit_useless ttl inner h v
    exact ⟨congrArg Step.outcome (serve_unwatched service ttl inner v), hasks, hgrown⟩
  · have hown : service.noted.stats env s.1.cache = ⟨.ok own, later, (s.1.cache.1, cache')⟩ := by
      simp only [CacheService.noted, Act.onSnd, hstats]
    rw [stats, Act.bind_run, useCache, hown, ← hfailures]
    rfl
  · exact invalidate_reported hremovals i env s.1.cache

end Run

/-! ## A fickle cache -/

/-- A cache that turns from one kind of failure to another: it counts its requests, and answers by the
count. -/
def fickle : CacheService Nat where
  get _ := Act.step fun n =>
    (if n % 3 = 0 then .error CacheService.refused else if n % 3 = 1 then .ok none else .ok (some ""),
      n + 1)
  set _ _ _ := Act.step fun n => (if n % 2 = 0 then .error CacheService.refused else .ok (), n + 1)
  delete _ := Act.step fun n => (if n % 2 = 0 then .error CacheService.refused else .ok true, n + 1)
  clearPrefix _ := Act.step fun n => (if n % 2 = 0 then .error CacheService.refused else .ok 1, n + 1)
  clear := Act.step fun n => (if n % 2 = 0 then .error CacheService.refused else .ok (), n + 1)
  stats := pure .zero

/-- An empty text is no value of any call. -/
theorem slot_decode_empty {c : Call} {slot : CacheSlot c.Answer} (hslot : c.slot? = some slot) :
    slot.decode "" = none := by
  have hread : ∀ (α : Type) [JsonCodec α], JsonCodec.read? α "" = none := by
    intro α _
    have hparse : Json.parse? "" = none := by decide +kernel
    rw [JsonCodec.read?, hparse]
    rfl
  cases c <;> cases hslot <;> exact hread _

theorem fickle_useless : fickle.Useless := by
  refine ⟨fun c slot hslot env n => ⟨_, env, n + 1, rfl, fun text htext => ?_⟩,
    fun _ _ _ env n => ⟨_, env, n + 1, rfl⟩⟩
  dsimp only at htext
  split at htext
  · cases htext
  · split at htext
    · cases htext
    · cases htext
      exact slot_decode_empty hslot

theorem fickle_answersRemovals : fickle.AnswersRemovals :=
  ⟨fun _ env n => ⟨_, env, n + 1, rfl⟩, fun _ env n => ⟨_, env, n + 1, rfl⟩,
    fun env n => ⟨_, env, n + 1, rfl⟩⟩

/-- Three reads over the fickle cache: one meets an error, one an empty text, and one an error both before and
after it reaches the store. The second deletion of an invalidation fails. -/
theorem useless_cache_changes_no_read_when_fickle :
    let answers : Answers := fun
      | .frameworkId => .ok (some "f")
      | _ => .error (.backend "down")
    let store := watched fickle 10 (Store.fixed answers : Store Unit)
    let one := store .frameworkId .still (⟨([], 0), 0⟩, ([], ()))
    let two := store (.deploy "d") one.env one.state
    let three := store .frameworkId two.env two.state
    let past : List (Visit (WatchedState Nat Unit)) :=
      [⟨.frameworkId, .still, (⟨([], 0), 0⟩, ([], ()))⟩, ⟨.deploy "d", one.env, one.state⟩,
        ⟨.frameworkId, two.env, two.state⟩]
    fickle.Useless ∧ fickle.AnswersRemovals ∧
      store.Run Aside .still (⟨([], 0), 0⟩, ([], ())) past three.env three.state ∧
      three.state.2.1 = [⟨.frameworkId, .ok (answers .frameworkId)⟩,
        ⟨.deploy "d", .ok (answers (.deploy "d"))⟩, ⟨.frameworkId, .ok (answers .frameworkId)⟩] ∧
      (stats fickle.noted three.env three.state.1).outcome = .ok ⟨0, 0, 0, 0, 0, 4⟩ ∧
      (invalidate fickle.noted (.host "h") three.env three.state.1.cache).outcome =
        .ok (.error CacheService.refused) := by
  intro answers store one two three past
  have hrun : store.Run Aside .still (⟨([], 0), 0⟩, ([], ())) past three.env three.state :=
    ((Store.Run.empty.call .frameworkId).call (.deploy "d")).call .frameworkId
  obtain ⟨hwitnessed, -, hstats, -⟩ := useless_cache_changes_no_read fickle_useless hrun
  have hfailures : failuresOf fickle 10 (Store.fixed answers) past = 4 := by decide +kernel
  have herrors := hstats CacheStats.zero _ _ rfl
  rw [hfailures] at herrors
  refine ⟨fickle_useless, fickle_answersRemovals, hrun, ?_, herrors, by decide +kernel⟩
  simp only [hwitnessed, outcome_over_fixed fickle_useless]
  rfl

end Caching

end ClusterReads
