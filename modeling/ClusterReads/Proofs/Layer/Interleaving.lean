import Mathlib.Logic.Function.Basic
import Mathlib.Logic.Relation
import ClusterReads.Ledger
import ClusterReads.Proofs.Layer.Caching

/-!
# Reads in flight and invalidations

Many reads, changes of the store and invalidations at once, each in steps of its own that interleave
in any order. A read looks into the cache, loads on a miss and keeps what it loaded; an invalidation
sends its removals one by one. Main statement: a read that begins after an invalidation of its call
gives what the store held since the invalidation began, or what is read back for that, unless a read
of the same call had by then loaded an answer that was already old. With such a read in flight, the
old answer is kept after it was taken out, and served.
-/
namespace ClusterReads

open CacheService (table)

namespace Caching

/-- How far a read has come. -/
inductive Phase where
  | idle
  /-- Nothing was found for the call. -/
  | missed (c : Call)
  | loaded (c : Call) (result : StoreResult c.Answer)
  | returned (c : Call) (result : StoreResult c.Answer)
  /-- The read ended in a fault. -/
  | stopped

/-- A read that has looked into the cache. -/
def Phase.afterLook (c : Call) : Except Fault (Option c.Answer) → Phase
  | .ok (some a) => .returned c (.ok a)
  | .ok none => .missed c
  | .error _ => .stopped

/-- A read that has kept its result. -/
def Phase.afterKeep (c : Call) (result : StoreResult c.Answer) : Except Fault Unit → Phase
  | .ok () => .returned c result
  | .error _ => .stopped

/-- How far an invalidation has come. -/
inductive Sweep where
  | idle
  /-- These removals are still to be sent. -/
  | sending (left : List Removal)
  | done

/-- A caching layer over a store that others change, with reads and invalidations on their way. -/
structure System where
  env : Env
  cache : CachingState CacheTable
  /-- How often the store was changed. -/
  version : Nat
  reads : Nat → Phase
  sweeps : Nat → Sweep

namespace System

/-- Nothing has begun. -/
def start (capacity : Nat) (env : Env) : System :=
  ⟨env, ⟨CacheTable.new capacity, 0⟩, 0, fun _ => .idle, fun _ => .idle⟩

/-- Nothing has begun but for one change of the store. -/
def changed : System :=
  { start 1 .still with version := 1 }

/-- An action of the layer was carried out. -/
def acted {α : Type} (s : System) (r : Step (CachingState CacheTable) α) : System :=
  { s with env := r.env, cache := r.state }

def setRead (s : System) (i : Nat) (p : Phase) : System :=
  { s with reads := Function.update s.reads i p }

def setSweep (s : System) (k : Nat) (p : Sweep) : System :=
  { s with sweeps := Function.update s.sweeps k p }

theorem setRead_reads (s : System) (i j : Nat) (p : Phase) :
    (s.setRead i p).reads j = if j = i then p else s.reads j :=
  Function.update_apply s.reads i p j

theorem setSweep_sweeps (s : System) (k l : Nat) (p : Sweep) :
    (s.setSweep k p).sweeps l = if l = k then p else s.sweeps l :=
  Function.update_apply s.sweeps k p l

end System

/-- One step of one read, of the store's writer or of one invalidation. -/
inductive Move (answers : Nat → Answers) (ttl : Nat) : System → System → Prop
  | look {s : System} (i : Nat) {c : Call} {slot : CacheSlot c.Answer} (hslot : c.slot? = some slot)
    (h : s.reads i = .idle) :
    Move answers ttl s ((s.acted (look table slot s.env s.cache)).setRead i
      (.afterLook c (look table slot s.env s.cache).outcome))
  | load {s : System} (i : Nat) {c : Call} (h : s.reads i = .missed c) :
    Move answers ttl s (s.setRead i (.loaded c (answers s.version c)))
  | keep {s : System} (i : Nat) {c : Call} {slot : CacheSlot c.Answer} (hslot : c.slot? = some slot)
    {result : StoreResult c.Answer} (h : s.reads i = .loaded c result) :
    Move answers ttl s ((s.acted (keep table ttl slot result s.env s.cache)).setRead i
      (.afterKeep c result (keep table ttl slot result s.env s.cache).outcome))
  | change {s : System} : Move answers ttl s { s with version := s.version + 1 }
  | begin {s : System} (k : Nat) (what : Invalidation) (h : s.sweeps k = .idle) :
    Move answers ttl s (s.setSweep k (.sending what.removals))
  | send {s : System} (k : Nat) {r : Removal} {left : List Removal}
    (h : s.sweeps k = .sending (r :: left)) :
    Move answers ttl s ((s.acted (useCache (r.request table) s.env s.cache)).setSweep k
      (.sending left))
  | finish {s : System} (k : Nat) (h : s.sweeps k = .sending []) :
    Move answers ttl s (s.setSweep k .done)

/-- Any steps in any order. -/
def Moves (answers : Nat → Answers) (ttl : Nat) : System → System → Prop :=
  Relation.ReflTransGen (Move answers ttl)

/-! ## What one step can do -/

section Move

variable {answers : Nat → Answers} {ttl : Nat} {s t : System}

theorem Move.version_le (h : Move answers ttl s t) : s.version ≤ t.version := by
  cases h with
  | change => exact Nat.le_succ _
  | look | load | keep | begin | send | finish => exact Nat.le_refl _

/-- A read goes on by its own steps only. -/
theorem Move.read_cases (h : Move answers ttl s t) (j : Nat) : t.reads j = s.reads j ∨
    (∃ (c : Call) (slot : CacheSlot c.Answer), c.slot? = some slot ∧ s.reads j = .idle ∧
      t.reads j = .afterLook c (Caching.look table slot s.env s.cache).outcome) ∨
    (∃ c, s.reads j = .missed c ∧ t.reads j = .loaded c (answers s.version c)) ∨
    ∃ c result, s.reads j = .loaded c result ∧
      (t.reads j = .returned c result ∨ t.reads j = .stopped) := by
  cases h with
  | look i hslot hi =>
    rw [System.setRead_reads]
    split
    · next hij =>
      subst hij
      exact Or.inr (Or.inl ⟨_, _, hslot, hi, rfl⟩)
    · exact Or.inl rfl
  | load i hi =>
    rw [System.setRead_reads]
    split
    · next hij =>
      subst hij
      exact Or.inr (Or.inr (Or.inl ⟨_, hi, rfl⟩))
    · exact Or.inl rfl
  | keep i hslot hi =>
    rw [System.setRead_reads]
    split
    · next hij =>
      subst hij
      refine Or.inr (Or.inr (Or.inr ⟨_, _, hi, ?_⟩))
      unfold Phase.afterKeep
      split
      · exact Or.inl rfl
      · exact Or.inr rfl
    · exact Or.inl rfl
  | change | begin | send | finish => exact Or.inl rfl

/-- What the table holds it held before, or a read has just kept it. -/
theorem Move.find?_cases (h : Move answers ttl s t) (hs : s.cache.cache.Sound) {key : String}
    {e : CacheEntry} (hfind : t.cache.cache.find? key = some e) : s.cache.cache.find? key = some e ∨
    ∃ (i : Nat) (c : Call) (slot : CacheSlot c.Answer) (a : c.Answer), c.slot? = some slot ∧
      s.reads i = .loaded c (.ok a) ∧ key = slot.key ∧ e.value = slot.encode a := by
  cases h with
  | look i hslot hi =>
    obtain ⟨journal, failures, hrun⟩ := look_run _ s.env s.cache
    rw [System.setRead, System.acted, hrun] at hfind
    exact Or.inl (CacheTable.get_within _ _ _ key e hfind)
  | keep i hslot hi =>
    rcases (find?_keep ttl _ _ s.env hs).2 key e hfind with ⟨a, rfl, hkey, hvalue⟩ | hold
    · exact Or.inr ⟨i, _, _, a, hslot, hi, hkey, hvalue⟩
    · exact Or.inl hold
  | @send k r left hk =>
    rw [System.setSweep, System.acted, useCache, Removal.request_run] at hfind
    exact Or.inl (r.apply_within _ key e hfind)
  | load | change | begin | finish => exact Or.inl hfind

theorem Move.sound (h : Move answers ttl s t) (hs : s.cache.cache.Sound) : t.cache.cache.Sound := by
  cases h with
  | look i hslot hi =>
    obtain ⟨journal, failures, hrun⟩ := look_run _ s.env s.cache
    rw [System.setRead, System.acted, hrun]
    exact CacheTable.get_sound hs _ _
  | keep i hslot hi => exact (find?_keep ttl _ _ s.env hs).1
  | @send k r left hk =>
    rw [System.setSweep, System.acted, useCache, Removal.request_run]
    exact r.apply_sound hs
  | load | change | begin | finish => exact hs

/-- An invalidation goes on by its own steps only, and a removal that it sends is carried out. -/
theorem Move.sweep_cases (h : Move answers ttl s t)
    (k : Nat) : t.sweeps k = s.sweeps k ∨ s.sweeps k = .idle ∨
    (∃ r left, s.sweeps k = .sending (r :: left) ∧ t.sweeps k = .sending left ∧
      t.cache.cache = r.apply s.cache.cache) ∨
    (s.sweeps k = .sending [] ∧ t.sweeps k = .done) := by
  cases h with
  | look | load | keep | change => exact Or.inl rfl
  | begin l what hl =>
    rw [System.setSweep_sweeps]
    split
    · next hkl => exact Or.inr (Or.inl (hkl ▸ hl))
    · exact Or.inl rfl
  | @send l r left hl =>
    rw [System.setSweep_sweeps]
    split
    · next hkl =>
      subst hkl
      refine Or.inr (Or.inr (Or.inl ⟨r, left, hl, rfl, ?_⟩))
      rw [System.setSweep, System.acted, useCache, Removal.request_run]
    · exact Or.inl rfl
  | finish l hl =>
    rw [System.setSweep_sweeps]
    split
    · next hkl =>
      subst hkl
      exact Or.inr (Or.inr (Or.inr ⟨hl, rfl⟩))
    · exact Or.inl rfl

end Move

/-! ## What the store has held since -/

section Since

variable {answers : Nat → Answers} {ttl since : Nat} {c : Call} {s t : System}

/-- What the store gave to a call at some version since then. -/
def HeldSince (answers : Nat → Answers) (since : Nat) (s : System) (c : Call)
    (result : StoreResult c.Answer) :
    Prop :=
  ∃ v, since ≤ v ∧ v ≤ s.version ∧ answers v c = result

/-- What the store gave since then, or what is read back for that. -/
def GivenSince (answers : Nat → Answers) (since : Nat) (s : System) (c : Call)
    (result : StoreResult c.Answer) :
    Prop :=
  HeldSince answers since s c result ∨
    ∃ a b, HeldSince answers since s c (.ok a) ∧ c.reread? a = some b ∧ result = .ok b

theorem HeldSince.mono {result : StoreResult c.Answer} (h : HeldSince answers since s c result)
    (hle : s.version ≤ t.version) : HeldSince answers since t c result := by
  obtain ⟨v, hsince, hv, hresult⟩ := h
  exact ⟨v, hsince, Nat.le_trans hv hle, hresult⟩

theorem GivenSince.mono {result : StoreResult c.Answer} (h : GivenSince answers since s c result)
    (hle : s.version ≤ t.version) : GivenSince answers since t c result := by
  rcases h with h | ⟨a, b, h, hreread, hresult⟩
  · exact Or.inl (h.mono hle)
  · exact Or.inr ⟨a, b, h.mono hle, hreread, hresult⟩

/-- Whatever a read of the call has loaded and not kept, the store has held since then. -/
structure Fresh (answers : Nat → Answers) (since : Nat) (c : Call) (s : System) : Prop where
  sound : s.cache.cache.Sound
  since_le : since ≤ s.version
  loads : ∀ i result, s.reads i = .loaded c result → HeldSince answers since s c result

/-- Whatever is kept for the call as well, the store has held since then. -/
structure Clean (answers : Nat → Answers) (since : Nat) (c : Call) (slot : CacheSlot c.Answer)
    (s : System) :
    Prop extends Fresh answers since c s where
  entries : ∀ e, s.cache.cache.find? slot.key = some e →
    ∃ a, HeldSince answers since s c (.ok a) ∧ e.value = slot.encode a

theorem Fresh.move (h : Fresh answers since c s)
    (hmove : Move answers ttl s t) : Fresh answers since c t := by
  refine ⟨hmove.sound h.sound, Nat.le_trans h.since_le hmove.version_le, fun i result hi => ?_⟩
  rcases hmove.read_cases i with heq | ⟨d, slot, -, -, heq⟩ | ⟨d, -, heq⟩ | ⟨d, r, -, heq | heq⟩ <;>
    rw [heq] at hi
  · exact (h.loads i result hi).mono hmove.version_le
  · unfold Phase.afterLook at hi
    split at hi <;> cases hi
  · cases hi
    exact ⟨s.version, h.since_le, hmove.version_le, rfl⟩
  · cases hi
  · cases hi

theorem Clean.move {slot : CacheSlot c.Answer} (h : Clean answers since c slot s)
    (hslot : c.slot? = some slot)
    (hmove : Move answers ttl s t) : Clean answers since c slot t := by
  refine ⟨h.toFresh.move hmove, fun e hfind => ?_⟩
  rcases hmove.find?_cases h.sound hfind with hold | ⟨i, d, slot', a, hslot', hi, hkey, hvalue⟩
  · obtain ⟨a, hheld, hvalue⟩ := h.entries e hold
    exact ⟨a, hheld.mono hmove.version_le, hvalue⟩
  · -- the read that has just kept its result is one of the same call
    cases Call.slot_injective hslot hslot' hkey.symm
    exact ⟨a, (h.loads i _ hi).mono hmove.version_le, hvalue⟩

/-- An invalidation has still to send the removal of a key. -/
def Sending (k : Nat) (key : String) (s : System) : Prop :=
  ∃ left, s.sweeps k = .sending left ∧ left.any (·.removes key) = true

/-- The removal of a key is still to be sent, or has left nothing old behind. -/
theorem Fresh.sending_or_clean {k : Nat} {slot : CacheSlot c.Answer} (h : Fresh answers since c s)
    (hmove : Move answers ttl s t) (hsending : Sending k slot.key s) :
    Sending k slot.key t ∨ Clean answers since c slot t := by
  obtain ⟨left, hleft, hany⟩ := hsending
  rcases hmove.sweep_cases k with heq | hidle | ⟨r, rest, hr, ht, hcache⟩ | ⟨hnil, -⟩
  · exact Or.inl ⟨left, heq.trans hleft, hany⟩
  · rw [hidle] at hleft
    cases hleft
  · obtain rfl : r :: rest = left := by
      rw [hr] at hleft
      cases hleft
      rfl
    by_cases hremoves : r.removes slot.key = true
    · refine Or.inr ⟨h.move hmove, fun e hfind => ?_⟩
      rw [hcache, Removal.find?_apply, if_pos hremoves] at hfind
      cases hfind
    · refine Or.inl ⟨rest, ht, ?_⟩
      simpa [hremoves] using hany
  · rw [hnil] at hleft
    cases hleft
    cases hany

/-- Once an invalidation is done, nothing old is left for the calls that it covers. -/
theorem Moves.clean_of_done {k : Nat} {slot : CacheSlot c.Answer} (h : Moves answers ttl s t)
    (hslot : c.slot? = some slot) (hfresh : Fresh answers since c s)
    (hsending : Sending k slot.key s)
    (hdone : t.sweeps k = .done) : Clean answers since c slot t := by
  have hinvariant : Fresh answers since c t ∧
      (Sending k slot.key t ∨ Clean answers since c slot t) := by
    clear hdone
    induction h with
    | refl => exact ⟨hfresh, Or.inl hsending⟩
    | tail _ hmove ih =>
      obtain ⟨hfresh', hstate⟩ := ih
      refine ⟨hfresh'.move hmove, ?_⟩
      rcases hstate with hsending' | hclean
      · exact hfresh'.sending_or_clean hmove hsending'
      · exact Or.inr (hclean.move hslot hmove)
  rcases hinvariant.2 with ⟨left, hleft, -⟩ | hclean
  · rw [hdone] at hleft
    cases hleft
  · exact hclean

/-- A read that goes on while nothing old is left gives what the store has held since then. -/
theorem Clean.returned_move {slot : CacheSlot c.Answer} (h : Clean answers since c slot s)
    (hslot : c.slot? = some slot) (hmove : Move answers ttl s t) {i : Nat}
    (hs : ∀ result, s.reads i = .returned c result → GivenSince answers since s c result)
    {result : StoreResult c.Answer} (ht : t.reads i = .returned c result) :
    GivenSince answers since t c result := by
  rcases hmove.read_cases i with heq | ⟨d, slot', hslot', -, heq⟩ | ⟨d, -, heq⟩ |
    ⟨d, r, hr, heq | heq⟩ <;> rw [heq] at ht
  · exact (hs result ht).mono hmove.version_le
  · obtain ⟨journal, failures, hlook⟩ := look_run slot' s.env s.cache
    rw [hlook] at ht
    simp only at ht
    cases hfound : found slot' s.cache.cache s.env.clock.reading with
    | none =>
      rw [hfound] at ht
      cases ht
    | some b =>
      rw [hfound] at ht
      cases ht
      obtain rfl : slot' = slot := Option.some.inj (hslot'.symm.trans hslot)
      obtain ⟨e, hfind, -, hdecode⟩ := exists_entry_of_found hfound
      obtain ⟨a, hheld, hvalue⟩ := h.entries e hfind
      refine Or.inr ⟨a, b, hheld.mono hmove.version_le, ?_, rfl⟩
      rw [← Call.slot_decode_encode hslot, ← hvalue, hdecode]
  · cases ht
  · cases ht
    exact Or.inl ((h.loads i _ hr).mono hmove.version_le)
  · cases ht

theorem Moves.returned {slot : CacheSlot c.Answer} (h : Moves answers ttl s t)
    (hslot : c.slot? = some slot) (hclean : Clean answers since c slot s) {i : Nat}
    (hidle : s.reads i = .idle) {result : StoreResult c.Answer}
    (hreturned : t.reads i = .returned c result) :
    GivenSince answers since t c result := by
  have hinvariant : Clean answers since c slot t ∧
      ∀ r, t.reads i = .returned c r → GivenSince answers since t c r := by
    clear hreturned
    induction h with
    | refl =>
      refine ⟨hclean, fun r hr => ?_⟩
      rw [hidle] at hr
      cases hr
    | tail _ hmove ih =>
      exact ⟨ih.1.move hslot hmove, fun r hr => ih.1.returned_move hslot hmove ih.2 hr⟩
  exact hinvariant.2 result hreturned

theorem Moves.sound (h : Moves answers ttl s t)
    (hs : s.cache.cache.Sound) : t.cache.cache.Sound := by
  induction h with
  | refl => exact hs
  | tail _ hmove ih => exact hmove.sound ih

end Since

/-! ## Single reads and invalidations -/

section Alone

variable (answers : Nat → Answers) (ttl : Nat) {c : Call} {slot : CacheSlot c.Answer} {s : System}

/-- A read that finds nothing loads what the store holds. -/
theorem exists_load (hslot : c.slot? = some slot) {i : Nat} (hidle : s.reads i = .idle)
    (hnone : s.cache.cache.find? slot.key = none) :
    ∃ t, Moves answers ttl s t ∧
      t.reads = Function.update s.reads i (.loaded c (answers s.version c)) ∧
      t.sweeps = s.sweeps ∧ t.version = s.version ∧ s.env.Precedes t.env ∧
      t.cache.cache.Within s.cache.cache := by
  have hmiss : found slot s.cache.cache s.env.clock.reading = none := by
    cases hfound : found slot s.cache.cache s.env.clock.reading with
    | none => rfl
    | some a =>
      obtain ⟨e, hfind, -⟩ := exists_entry_of_found hfound
      rw [hnone] at hfind
      cases hfind
  obtain ⟨journal, failures, hlook⟩ := look_run slot s.env s.cache
  have hmove : Move answers ttl s _ := Move.look i hslot hidle
  rw [hlook, hmiss] at hmove
  refine ⟨_, (Relation.ReflTransGen.single hmove).tail (Move.load (c := c) i ?_), ?_, rfl, rfl,
    .of_tick rfl, ?_⟩
  · rw [System.setRead_reads, if_pos rfl]
    rfl
  · exact Function.update_idem _ _ _
  · exact CacheTable.get_within _ _ _

/-- A read that has loaded an answer keeps it, while no time passes. -/
theorem exists_keep (hslot : c.slot? = some slot) (hsound : s.cache.cache.Sound) {i : Nat}
    {a : c.Answer} (hloaded : s.reads i = .loaded c (.ok a)) (hkeeps : slot.keeps a = true)
    (hstill : Env.still.Precedes s.env) (hlimit : ttl < Clock.limit) :
    ∃ t, Move answers ttl s t ∧ t.reads = Function.update s.reads i (.returned c (.ok a)) ∧
      t.sweeps = s.sweeps ∧ t.version = s.version ∧ Env.still.Precedes t.env ∧
      t.cache.cache.find? slot.key = some ⟨slot.key, slot.encode a, 0 + ttl⟩ := by
  have hmove : Move answers ttl s _ := Move.keep i hslot hloaded
  obtain ⟨env', hlater, hrun | ⟨hover, -⟩⟩ := keep_run ttl slot (.ok a) s.env hsound
  · rw [hrun] at hmove
    refine ⟨_, hmove, rfl, rfl, rfl, hstill.trans hlater, ?_⟩
    have hentry : entryOf? slot (s.env.clock.reading + ttl) (.ok a) =
        some ⟨slot.key, slot.encode a, 0 + ttl⟩ := by
      rw [Env.still_reading hstill]
      exact entryOf?_eq_some_iff.2 ⟨a, rfl, hkeeps, rfl⟩
    change (stored _ _ _ (entryOf? slot (s.env.clock.reading + ttl) (.ok a))).find? slot.key = _
    rw [hentry, stored, CacheTable.find?_put, if_pos rfl]
  · rw [Env.still_reading hstill] at hover
    omega

/-- A read that finds nothing goes through, while no time passes, and leaves what it loaded. -/
theorem exists_read_through (hslot : c.slot? = some slot) (hsound : s.cache.cache.Sound) {i : Nat}
    (hidle : s.reads i = .idle) (hnone : s.cache.cache.find? slot.key = none) {a : c.Answer}
    (hanswer : answers s.version c = .ok a) (hkeeps : slot.keeps a = true)
    (hstill : Env.still.Precedes s.env) (hlimit : ttl < Clock.limit) :
    ∃ t, Moves answers ttl s t ∧ t.reads = Function.update s.reads i (.returned c (.ok a)) ∧
      t.version = s.version ∧ Env.still.Precedes t.env ∧
      t.cache.cache.find? slot.key = some ⟨slot.key, slot.encode a, 0 + ttl⟩ := by
  obtain ⟨loaded, hload, hreads, -, hversion, hlater, -⟩ := exists_load answers ttl hslot hidle hnone
  have hloaded : loaded.reads i = .loaded c (.ok a) := by
    rw [hreads, Function.update_self, hanswer]
  obtain ⟨t, hkeep, hreturned, -, hkept, hstill', hfind⟩ := exists_keep answers ttl hslot
    (hload.sound hsound) hloaded hkeeps (hstill.trans hlater) hlimit
  refine ⟨t, hload.tail hkeep, ?_, hkept.trans hversion, hstill', hfind⟩
  rw [hreturned, hreads, Function.update_idem]

/-- A read serves what was kept, as it is read back. -/
theorem exists_served (hslot : c.slot? = some slot) {i : Nat} (hidle : s.reads i = .idle)
    (hstill : Env.still.Precedes s.env) (httl : 0 < ttl) {a b : c.Answer}
    (hfind : s.cache.cache.find? slot.key = some ⟨slot.key, slot.encode a, 0 + ttl⟩)
    (hreread : c.reread? a = some b) :
    ∃ t, Move answers ttl s t ∧ t.reads i = .returned c (.ok b) ∧ t.version = s.version := by
  have hlive : s.env.clock.reading < 0 + ttl := by
    rw [Env.still_reading hstill]
    omega
  obtain ⟨journal, failures, hlook⟩ := look_run slot s.env s.cache
  have hmove : Move answers ttl s _ := Move.look i hslot hidle
  rw [hlook, found_of_find? hslot hfind hlive hreread] at hmove
  refine ⟨_, hmove, ?_, rfl⟩
  rw [System.setRead_reads, if_pos rfl]
  rfl

theorem exists_send {k : Nat} {r : Removal} {left : List Removal}
    (h : s.sweeps k = .sending (r :: left)) :
    ∃ t, Move answers ttl s t ∧ t.sweeps k = .sending left ∧ t.reads = s.reads ∧
      t.version = s.version ∧ t.env = s.env ∧ t.cache.cache = r.apply s.cache.cache := by
  have hmove : Move answers ttl s _ := Move.send k h
  rw [useCache, Removal.request_run] at hmove
  refine ⟨_, hmove, ?_, rfl, rfl, rfl, rfl⟩
  rw [System.setSweep_sweeps, if_pos rfl]

/-- An invalidation that has begun can be carried through at once. -/
theorem exists_done {k : Nat} {left : List Removal} (h : s.sweeps k = .sending left) :
    ∃ t, Moves answers ttl s t ∧ t.sweeps k = .done ∧ t.reads = s.reads ∧ t.version = s.version ∧
      t.env = s.env ∧ t.cache.cache.Within s.cache.cache := by
  induction left generalizing s with
  | nil =>
    refine ⟨_, .single (Move.finish k h), ?_, rfl, rfl, rfl, fun _ _ h => h⟩
    rw [System.setSweep_sweeps, if_pos rfl]
  | cons r left ih =>
    obtain ⟨s₁, hmove, hleft, hreads₁, hversion₁, henv₁, hcache⟩ := exists_send answers ttl h
    obtain ⟨t, hmoves, hdone, hreads, hversion, henv, hwithin⟩ := ih hleft
    refine ⟨t, .head hmove hmoves, hdone, hreads.trans hreads₁, hversion.trans hversion₁,
      henv.trans henv₁, ?_⟩
    intro key e hfind
    have hkept := hwithin key e hfind
    rw [hcache] at hkept
    exact r.apply_within _ key e hkept

theorem exists_swept (s : System) (k : Nat) (what : Invalidation) :
    ∃ t, Moves answers ttl (s.setSweep k (.sending what.removals)) t ∧ t.sweeps k = .done ∧
      t.reads = s.reads ∧ t.version = s.version ∧ t.env = s.env ∧
      t.cache.cache.Within s.cache.cache :=
  exists_done answers ttl (s := s.setSweep k (.sending what.removals))
    (by rw [System.setSweep_sweeps, if_pos rfl])

/-- The store is changed, and an invalidation runs from beginning to end. -/
theorem exists_cleared (what : Invalidation) :
    ∃ t, Moves answers ttl (System.changed.setSweep 0 (.sending what.removals)) t ∧
      t.sweeps 0 = .done ∧ t.reads = (fun _ => .idle) ∧ t.version = 1 ∧ t.env = .still ∧
      t.cache.cache.Sound ∧ ∀ key, t.cache.cache.find? key = none := by
  obtain ⟨t, hsweep, hdone, hreads, hversion, henv, hwithin⟩ :=
    exists_swept answers ttl .changed 0 what
  refine ⟨t, hsweep, hdone, hreads, hversion, henv, hsweep.sound (CacheTable.new_sound 1), ?_⟩
  intro key
  cases hfind : t.cache.cache.find? key with
  | none => rfl
  | some e => cases hwithin _ _ hfind

end Alone

/-! ## After an invalidation -/

/-- A read that begins after an invalidation of its call gives what the store has held since the
invalidation began, or what is read back for that, unless a read of the call had by then loaded what
the store no longer held, and had yet to keep it. -/
theorem given_since_invalidation {answers : Nat → Answers} {ttl capacity k i : Nat} {c : Call}
    {start : Env} {what : Invalidation} {before begun swept after : System}
    {result : StoreResult c.Answer} (hcached : c.slot?.isSome = true)
    (hcovers : what.covers c = true) (hreach : Moves answers ttl (.start capacity start) before)
    (hflight : ∀ j r, before.reads j = .loaded c r → answers before.version c = r)
    (hidle : before.sweeps k = .idle) (hbegin : begun = before.setSweep k (.sending what.removals))
    (hsweep : Moves answers ttl begun swept) (hdone : swept.sweeps k = .done)
    (hunread : swept.reads i = .idle) (hread : Moves answers ttl swept after)
    (hreturned : after.reads i = .returned c result) :
    GivenSince answers before.version after c result := by
  obtain ⟨slot, hslot⟩ := Option.isSome_iff_exists.1 hcached
  subst hbegin
  have hsound := hreach.sound (CacheTable.new_sound capacity)
  have hfresh : Fresh answers before.version c before :=
    ⟨hsound, Nat.le_refl _, fun j r hj => ⟨_, Nat.le_refl _, Nat.le_refl _, hflight j r hj⟩⟩
  have hbegun : Fresh answers before.version c (before.setSweep k (.sending what.removals)) :=
    hfresh.move (Move.begin k what hidle : Move answers ttl before _)
  have hsending : Sending k slot.key (before.setSweep k (.sending what.removals)) := by
    refine ⟨what.removals, ?_, ?_⟩
    · rw [System.setSweep_sweeps, if_pos rfl]
    · rw [Invalidation.any_removes (Call.key?_of_slot? hslot), hcovers]
  exact hread.returned hslot (hsweep.clean_of_done hslot hbegun hsending hdone) hunread hreturned

/-- A change, an invalidation and a read, one after the other. -/
theorem given_since_invalidation_after_change :
    let answers := fun v => (Ledger.empty.setFrameworkId (if v = 0 then "old" else "new")).answers
    ∃ before swept after : System, Moves answers (60 * billion) (.start 1 .still) before ∧
      (∀ j r, before.reads j = .loaded .frameworkId r → answers before.version .frameworkId = r) ∧
      before.sweeps 0 = .idle ∧
      Moves answers (60 * billion)
        (before.setSweep 0 (.sending Invalidation.frameworkId.removals)) swept ∧
      swept.sweeps 0 = .done ∧ swept.reads 0 = .idle ∧ Moves answers (60 * billion) swept after ∧
      after.reads 0 = .returned .frameworkId (.ok (some "new")) ∧
      GivenSince answers before.version after .frameworkId (.ok (some "new")) := by
  intro answers
  have hchanged : Moves answers (60 * billion) (.start 1 .still) .changed := .single .change
  obtain ⟨swept, hsweep, hdone, hreads, hversion, henv, hsound, hnone⟩ :=
    exists_cleared answers (60 * billion) .frameworkId
  have hidle : swept.reads 0 = .idle := by rw [hreads]
  have hanswer : answers swept.version .frameworkId = .ok (some "new") := by
    rw [hversion]
    rfl
  obtain ⟨after, hread, hafter, -⟩ := exists_read_through answers (60 * billion)
    (c := .frameworkId) rfl hsound hidle (hnone _) hanswer rfl (henv ▸ .refl _) (by decide)
  have hreturned : after.reads 0 = .returned .frameworkId (.ok (some "new")) := by
    rw [hafter, Function.update_self]
  have hflight : ∀ j r, System.changed.reads j = .loaded .frameworkId r →
      answers System.changed.version .frameworkId = r :=
    fun j r h => by cases h
  exact ⟨.changed, swept, after, hchanged, hflight, rfl, hsweep, hdone, hidle, hread, hreturned,
    given_since_invalidation rfl rfl hchanged hflight rfl rfl hsweep hdone hidle hread hreturned⟩

/-! ## How an invalidation is undone -/

section Undone

variable (answers : Nat → Answers) {ttl : Nat} {c : Call}

/-- A run in which a read that begins after an invalidation of its call gives what the store had
held before the invalidation began, and has not held since. -/
def Undone (answers : Nat → Answers) (ttl : Nat) (c : Call)
    (result : StoreResult c.Answer) : Prop :=
  ∃ (capacity k i : Nat) (start : Env) (what : Invalidation) (before swept after : System),
    what.covers c = true ∧ Moves answers ttl (.start capacity start) before ∧
      before.sweeps k = .idle ∧
    Moves answers ttl (before.setSweep k (.sending what.removals)) swept ∧ swept.sweeps k = .done ∧
    swept.reads i = .idle ∧ Moves answers ttl swept after ∧ after.reads i = .returned c result ∧
    (∃ v, v < before.version ∧ answers v c = result) ∧
    ∀ v, before.version ≤ v → v ≤ after.version → answers v c ≠ result

/-- A read that loads before a change and keeps after the invalidation brings the old answer back.
-/
theorem undone_of_late_keep (what : Invalidation) (hlimit : ttl < Clock.limit) (httl : 0 < ttl)
    (hcached : c.slot?.isSome = true) (hcovers : what.covers c = true) {a : c.Answer}
    (hold : answers 0 c = .ok a) (hpresent : c.isAbsent a = false) (hreread : c.reread? a = some a)
    (hnew : answers 1 c ≠ .ok a) : Undone answers ttl c (.ok a) := by
  obtain ⟨slot, hslot⟩ := Option.isSome_iff_exists.1 hcached
  have hkeeps : slot.keeps a = true := by simp [Call.slot_keeps hslot, hpresent]
  -- the first read loads, and the store is changed
  obtain ⟨loaded, hload, hreads, hsweeps, hversion, henv, -⟩ := exists_load answers ttl hslot
    (s := .start 1 .still) (i := 0) rfl (CacheTable.find?_new 1 slot.key)
  let before : System := { loaded with version := loaded.version + 1 }
  have hbefore : Moves answers ttl (.start 1 .still) before := hload.tail .change
  have hone : before.version = 1 := congrArg (· + 1) hversion
  -- the invalidation runs from beginning to end
  obtain ⟨swept, hsweep, hdone, hreads', hversion', henv', -⟩ :=
    exists_swept answers ttl before 0 what
  have hsound : swept.cache.cache.Sound := hsweep.sound (hbefore.sound (CacheTable.new_sound 1))
  have hreads'' : swept.reads = Function.update (fun _ => .idle) 0 (.loaded c (.ok a)) := by
    rw [hreads', ← hold]
    exact hreads
  have hstill : Env.still.Precedes swept.env := by
    rw [henv']
    exact henv
  -- the first read keeps what it loaded, and a second one is served with it
  obtain ⟨kept, hkeep, hkeptReads, -, hkeptVersion, hkeptStill, hfind⟩ :=
    exists_keep answers ttl hslot hsound (i := 0) (by rw [hreads'', Function.update_self]) hkeeps
      hstill hlimit
  have hsecond : swept.reads 1 = .idle := by rw [hreads'', Function.update_of_ne (by decide)]
  obtain ⟨after, hserve, hreturned, hafter⟩ := exists_served answers ttl hslot (i := 1)
    (by rw [hkeptReads, Function.update_of_ne (by decide), hsecond]) hkeptStill httl hfind hreread
  have hafter : after.version = 1 := by rw [hafter, hkeptVersion, hversion', hone]
  refine ⟨1, 0, 1, .still, what, before, swept, after, hcovers, hbefore, ?_, hsweep, hdone, hsecond,
    (Relation.ReflTransGen.single hkeep).tail hserve, hreturned, ⟨0, by omega, hold⟩,
    fun v hlow hhigh => ?_⟩
  · change loaded.sweeps 0 = .idle
    rw [hsweeps]
    rfl
  · obtain rfl : v = 1 := by omega
    exact hnew

/-- Where an answer is read back as another that the store has held before, that one is served
again. -/
theorem undone_of_reread (what : Invalidation) (hlimit : ttl < Clock.limit) (httl : 0 < ttl)
    (hcached : c.slot?.isSome = true) (hcovers : what.covers c = true) {a b : c.Answer}
    (hold : answers 0 c = .ok b) (hnew : answers 1 c = .ok a) (hpresent : c.isAbsent a = false)
    (hreread : c.reread? a = some b) (hne : a ≠ b) : Undone answers ttl c (.ok b) := by
  obtain ⟨slot, hslot⟩ := Option.isSome_iff_exists.1 hcached
  have hkeeps : slot.keeps a = true := by simp [Call.slot_keeps hslot, hpresent]
  obtain ⟨swept, hsweep, hdone, hreads, hversion, henv, hsound, hnone⟩ :=
    exists_cleared answers ttl what
  -- a first read loads the new answer and keeps it
  have hidle : ∀ i, swept.reads i = .idle := fun i => by rw [hreads]
  obtain ⟨kept, hread, hkeptReads, hkeptVersion, hstill, hfind⟩ := exists_read_through answers ttl
    hslot hsound (hidle 0) (hnone _) (by rw [hversion, hnew]) hkeeps (henv ▸ .refl _) hlimit
  -- a second one is served with what is read back
  have hsecond : kept.reads 1 = .idle := by
    rw [hkeptReads, Function.update_of_ne (by decide), hidle]
  obtain ⟨after, hserve, hreturned, hafter⟩ :=
    exists_served answers ttl hslot hsecond hstill httl hfind hreread
  refine ⟨1, 0, 1, .still, what, .changed, swept, after, hcovers, .single .change, rfl, hsweep,
    hdone, hidle 1, hread.tail hserve, hreturned, ⟨0, Nat.one_pos, hold⟩, fun v hlow hhigh => ?_⟩
  have hlow : 1 ≤ v := hlow
  obtain rfl : v = 1 := by omega
  rw [hnew]
  intro heq
  exact hne (Except.ok.inj heq)

/-- The framework's identity brought back by a late write, and a quota by the JSON of the one after
it. -/
theorem invalidations_undone :
    Undone (fun v => (Ledger.empty.setFrameworkId (if v = 0 then "old" else "new")).answers)
      (60 * billion) .frameworkId (.ok (some "old")) ∧
    Undone (fun v => (Ledger.empty.saveQuota "r"
        ⟨Float.ofBits (if v = 0 then 4877398396442247249 else 4877398396442247248), 1, 2⟩).answers)
      (60 * billion) (.quota "r") (.ok (some ⟨Float.ofBits 4877398396442247249, 1, 2⟩)) := by
  have hlimit : 60 * billion < Clock.limit := by decide
  refine ⟨undone_of_late_keep _ .frameworkId hlimit (by decide) rfl rfl rfl rfl rfl ?_, ?_⟩
  · intro h
    exact absurd (Option.some.inj (Except.ok.inj h)) (by decide)
  · refine undone_of_reread _ .quotas hlimit (by decide) rfl rfl
      (a := some ⟨Float.ofBits 4877398396442247248, 1, 2⟩) rfl rfl rfl ?_ ?_
    · simp [Call.reread?, Resources.reread?, Decimal.reread?_large]
    · intro h
      have hbits := congrArg (fun q : Resources => q.numCpus.toBits) (Option.some.inj h)
      revert hbits
      decide +kernel

end Undone

end Caching
end ClusterReads
