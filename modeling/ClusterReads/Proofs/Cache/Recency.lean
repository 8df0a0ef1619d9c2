import Mathlib.Data.List.Dedup
import Mathlib.Data.List.DropRight
import ClusterReads.Proofs.Cache.Balance

/-!
# The keys written last

Under one time to live and a clock whose readings rise, what expires first is what was written first. A table
whose entries all last then follows a queue of writes, which forgets the expiries: a write goes to the end,
and the front makes room. Main statement: such a table holds the keys written last, whatever was read.
-/
namespace ClusterReads

/-! ## A queue of writes -/

/-- The latest writes to the keys that are held, the oldest first, and the keys that made room for others. -/
structure Recency where
  held : List (String × String)
  displaced : List String
  deriving DecidableEq, Repr

namespace Recency

def keys (q : Recency) : List String :=
  q.held.map Prod.fst

/-- A write to a key that is held moves it to the end; any other needs room. -/
def write (room : Nat) (q : Recency) (w : String × String) : Recency :=
  if w.1 ∈ q.keys ∨ q.held.length < room then
    { q with held := q.held.filter (fun p => p.1 != w.1) ++ [w] }
  else
    ⟨q.held.tail ++ [w], q.displaced ++ q.keys.head?.toList⟩

/-- The queue after some writes. -/
def after (room : Nat) (writes : List (String × String)) : Recency :=
  writes.foldl (write room) ⟨[], []⟩

variable {α : Type} {room : Nat}

@[simp] theorem after_snoc (writes : List (String × String)) (w : String × String) :
    after room (writes ++ [w]) = (after room writes).write room w :=
  List.foldl_concat ..

theorem keys_write (q : Recency) (w : String × String) : (q.write room w).keys =
    if w.1 ∈ q.keys ∨ q.keys.length < room then q.keys.filter (fun k => k != w.1) ++ [w.1]
    else q.keys.tail ++ [w.1] := by
  have hlength : q.keys.length = q.held.length := List.length_map _
  rw [write, hlength]
  split
  · rw [keys, keys, List.map_append, List.filter_map]
    rfl
  · rw [keys, keys, List.map_append, List.map_tail]
    rfl

theorem dedup_snoc [DecidableEq α] (l : List α) (a : α) :
    (l ++ [a]).dedup = l.dedup.filter (fun x => x != a) ++ [a] := by
  induction l with
  | nil => rfl
  | cons b rest ih =>
    rw [List.cons_append]
    by_cases hlater : b ∈ rest
    · rw [List.dedup_cons_of_mem (List.mem_append_left _ hlater), List.dedup_cons_of_mem hlater, ih]
    by_cases hlast : b = a
    · have hmem : b ∈ rest ++ [a] := by simp [hlast]
      rw [List.dedup_cons_of_mem hmem, List.dedup_cons_of_notMem hlater, ih,
        List.filter_cons_of_neg (by simp [hlast])]
    · have hnot : b ∉ rest ++ [a] := by simp [hlater, hlast]
      rw [List.dedup_cons_of_notMem hnot, List.dedup_cons_of_notMem hlater, ih,
        List.filter_cons_of_pos (by simp [hlast]), List.cons_append]

/-- The last of a list are an end of it, and as many as are asked for or all that there are. -/
theorem rtake_append {front back : List α}
    (h : back.length = room ∨ front = [] ∧ back.length ≤ room) :
    (front ++ back).rtake room = back := by
  rcases h with rfl | ⟨rfl, hle⟩
  · rw [List.rtake, List.length_append, Nat.add_sub_cancel, List.drop_left]
  · rw [List.rtake, List.nil_append, Nat.sub_eq_zero_of_le hle, List.drop_zero]

theorem exists_rtake (l : List α) (room : Nat) : ∃ front back, l = front ++ back ∧
    l.rtake room = back ∧ (back.length = room ∨ front = [] ∧ back.length ≤ room) := by
  refine ⟨_, l.rtake room, (List.take_append_drop _ l).symm, rfl, ?_⟩
  have hlength : (l.rtake room).length = l.length - (l.length - room) := List.length_drop
  by_cases hroom : room ≤ l.length
  · exact Or.inl (by omega)
  · refine Or.inr ⟨?_, by omega⟩
    rw [Nat.sub_eq_zero_of_le (by omega), List.take_zero]

/-- How the last of a list of different keys change when a key is moved or added to its end. -/
theorem rtake_moved [DecidableEq α] {l : List α} (hl : l.Nodup) (hroom : 0 < room) (a : α) :
    (l.filter (fun x => x != a) ++ [a]).rtake room =
      if a ∈ l.rtake room ∨ (l.rtake room).length < room then
        (l.rtake room).filter (fun x => x != a) ++ [a]
      else (l.rtake room).tail ++ [a] := by
  obtain ⟨front, back, rfl, hback, hshape⟩ := exists_rtake l room
  rw [hback, List.filter_append, List.append_assoc]
  have hnodup : back.Nodup := hl.of_append_right
  by_cases hmem : a ∈ back
  · rw [if_pos (Or.inl hmem)]
    -- the key leaves one place and takes another
    have hlength : (back.filter (fun x => x != a) ++ [a]).length = back.length := by
      rw [← hnodup.erase_eq_filter, List.length_append]
      exact List.length_erase_add_one hmem
    refine rtake_append ?_
    rw [hlength]
    exact hshape.imp_right fun ⟨hfront, hle⟩ => ⟨by rw [hfront, List.filter_nil], hle⟩
  have hsame : back.filter (fun x => x != a) = back := by
    refine List.filter_eq_self.2 fun x hx => bne_iff_ne.2 ?_
    rintro rfl
    exact hmem hx
  rw [hsame]
  by_cases hlt : back.length < room
  · obtain ⟨rfl, -⟩ := hshape.resolve_left (Nat.ne_of_lt hlt)
    rw [if_pos (Or.inr hlt)]
    refine rtake_append (Or.inr ⟨rfl, ?_⟩)
    rw [List.length_append]
    exact hlt
  · have hfull : back.length = room := by
      rcases hshape with hfull | ⟨-, hle⟩
      · exact hfull
      · exact Nat.le_antisymm hle (Nat.le_of_not_lt hlt)
    rw [if_neg (by simp [hmem, hlt])]
    obtain ⟨oldest, rest, rfl⟩ := List.exists_cons_of_length_pos (hfull ▸ hroom)
    rw [List.cons_append, ← List.singleton_append, ← List.append_assoc]
    refine rtake_append (Or.inl ?_)
    rw [List.length_append]
    exact hfull

/-- The queue holds the keys written last. -/
theorem keys_after (hroom : 0 < room) (writes : List (String × String)) :
    (after room writes).keys = (writes.map Prod.fst).dedup.rtake room := by
  induction writes using List.reverseRecOn with
  | nil => simp [after, keys]
  | append_singleton writes w ih =>
    rw [after_snoc, keys_write, ih, List.map_append, List.map_singleton, dedup_snoc]
    exact (rtake_moved (List.nodup_dedup _) hroom w.1).symm

theorem mem_write {q : Recency} {w p : String × String} (h : p ∈ (q.write room w).held) :
    p = w ∨ p ∈ q.held ∧ p.1 ≠ w.1 := by
  rw [write] at h
  split at h
  · rcases List.mem_append.1 h with h | h
    · obtain ⟨hp, hne⟩ := List.mem_filter.1 h
      exact Or.inr ⟨hp, bne_iff_ne.1 hne⟩
    · exact Or.inl (List.mem_singleton.1 h)
  · next hnot =>
    rcases List.mem_append.1 h with h | h
    · have hp := List.mem_of_mem_tail h
      exact Or.inr ⟨hp, fun heq => hnot (Or.inl (heq ▸ List.mem_map_of_mem hp))⟩
    · exact Or.inl (List.mem_singleton.1 h)

/-- The queue holds each key with the value written last to it. -/
theorem lookup_of_mem (room : Nat) {writes : List (String × String)} {p : String × String}
    (h : p ∈ (after room writes).held) : writes.reverse.lookup p.1 = some p.2 := by
  induction writes using List.reverseRecOn with
  | nil => cases h
  | append_singleton writes w ih =>
    rw [after_snoc] at h
    rw [List.reverse_append, List.reverse_singleton, List.singleton_append]
    rcases mem_write h with rfl | ⟨hp, hne⟩
    · exact List.lookup_cons_self
    · rw [List.lookup_cons, beq_eq_false_iff_ne.2 hne]
      exact ih hp

end Recency

/-! ## A table whose entries all last -/

namespace CacheTable

variable {t : CacheTable}

/-- What is held under each key, the oldest first. -/
def contents (t : CacheTable) : List (String × String) :=
  t.entries.map fun e => (e.key, e.value)

theorem contents_keys (t : CacheTable) : t.contents.map Prod.fst = t.entries.map (·.key) :=
  List.map_map ..

theorem get_entries_of_live {now : Nat} (hlive : ∀ e ∈ t.entries, now < e.expiry)
    (key : String) : (t.get now key).2.entries = t.entries := by
  unfold get
  cases hasked : t.live? now key with
  | some value => rfl
  | none =>
    have hnone : t.find? key = none := by
      by_contra hheld
      obtain ⟨e, hfound⟩ := Option.ne_none_iff_exists'.1 hheld
      rw [live?_eq_some_iff.2 ⟨e, hfound, hlive e (mem_of_find? hfound), rfl⟩] at hasked
      cases hasked
    change (t.drop key).entries = t.entries
    rw [drop_of_find?_eq_none hnone]

/-- Among entries that stand in the order in which they expire the first makes room for a new key. -/
theorem makeRoom_of_live (ht : t.Sound) (order : EntryOrder) {now : Nat}
    (hlive : ∀ e ∈ t.entries, now < e.expiry)
    (hascending : t.entries.Pairwise (·.expiry < ·.expiry)) (key : String) :
    (t.makeRoom order now key = (t, none) ∧ (t.find? key ≠ none ∨ t.size < t.capacity)) ∨
    ∃ oldest rest, t.entries = oldest :: rest ∧ Victim t now key oldest ∧
      (t.makeRoom order now key).2 = some oldest.key ∧
      ((t.makeRoom order now key).1.drop key).entries = rest := by
  rcases makeRoom_cases ht order now key with ⟨hm, hroom⟩ | ⟨hm, -, hroom⟩ | ⟨e, hv, hm⟩
  · exact Or.inl ⟨hm, hroom⟩
  · rw [purge_of_live hlive] at hm hroom
    exact Or.inl ⟨hm, Or.inr hroom⟩
  · obtain ⟨oldest, rest, hentries⟩ := List.exists_cons_of_ne_nil (List.ne_nil_of_mem hv.mem)
    have he : e = oldest := by
      have hmem := hv.mem
      rw [hentries] at hmem hascending
      rcases List.mem_cons.1 hmem with he | hlater
      · exact he
      · have hfirst := (List.pairwise_cons.1 hascending).1 e hlater
        have hsoonest := hv.soonest oldest (hentries ▸ List.mem_cons_self)
        omega
    subst he
    refine Or.inr ⟨e, rest, hentries, hv, by rw [hm], ?_⟩
    rw [hm]
    change ((t.drop e.key).drop key).entries = rest
    rw [hv.drop_drop_entries ht, hentries, List.erase_cons_head]

theorem put_contents (t : CacheTable) (e : CacheEntry) : (t.put e).contents =
    t.contents.filter (fun p => p.1 != e.key) ++ [(e.key, e.value)] := by
  change ((t.entries.filter _ ++ [e]).map _) = _
  rw [List.map_append, contents, List.filter_map]
  rfl

theorem makeRoom_sublist (t : CacheTable) (order : EntryOrder) (now : Nat) (key : String) :
    List.Sublist (t.makeRoom order now key).1.entries t.entries := by
  have hpurge : List.Sublist (t.purge now).entries t.entries := List.filter_sublist
  unfold makeRoom evict
  split
  · dsimp only
    split
    · split
      · exact List.filter_sublist.trans hpurge
      · exact hpurge
    · exact hpurge
  · exact List.Sublist.refl _

/-- What a set does to entries that all last and stand in the order in which they expire: the queue of
writes does the same. -/
theorem write_of_live (ht : t.Sound) (order : EntryOrder) {now : Nat}
    (hlive : ∀ e ∈ t.entries, now < e.expiry)
    (hascending : t.entries.Pairwise (·.expiry < ·.expiry)) (e : CacheEntry) (displaced : List String) :
    Recency.write t.capacity ⟨t.contents, displaced⟩ (e.key, e.value) =
      ⟨((t.makeRoom order now e.key).1.put e).contents,
        displaced ++ (t.makeRoom order now e.key).2.toList⟩ := by
  have hmem : e.key ∈ Recency.keys ⟨t.contents, displaced⟩ ↔ t.find? e.key ≠ none := by
    rw [Recency.keys, contents_keys, Option.ne_none_iff_exists', ← holds_iff_find?, holds,
      List.any_eq_true, List.mem_map]
    simp only [beq_iff_eq]
  have hlength : t.contents.length = t.size := List.length_map _
  rw [Recency.write]
  simp only [hmem, hlength]
  rcases makeRoom_of_live ht order hlive hascending e.key with
    ⟨hm, hroom⟩ | ⟨oldest, rest, hentries, hv, hvictim, hrest⟩
  · rw [if_pos hroom, hm, put_contents, Option.toList_none, List.append_nil]
  · have hnot : ¬ (t.find? e.key ≠ none ∨ t.size < t.capacity) := by
      rintro (hheld | hroom)
      · exact hheld hv.not_held
      · exact Nat.ne_of_lt hroom hv.full
    rw [if_neg hnot, hvictim, Recency.keys, contents_keys, hentries]
    change _ = (⟨((CacheTable.drop _ e.key).entries ++ [e]).map _, _⟩ : Recency)
    rw [hrest, contents, hentries, List.map_append]
    rfl

/-- Among entries that all last a set evicts one exactly when it finds the table full and its key not held. -/
theorem evicts_of_live (ht : t.Sound) (order : EntryOrder) {now : Nat}
    (hlive : ∀ e ∈ t.entries, now < e.expiry) (key : String) :
    (t.makeRoom order now key).2.toList.length = (!t.holds key && t.isFull).toNat := by
  rcases makeRoom_cases ht order now key with ⟨hm, hroom⟩ | ⟨hm, -, hroom⟩ | ⟨e, hv, hm⟩
  · have hspared : (!t.holds key && t.isFull) = false := by
      rcases hroom with hheld | hroom
      · rw [holds_iff_find?.2 (Option.ne_none_iff_exists'.1 hheld)]
        rfl
      · rw [isFull, decide_eq_false (Nat.not_le.2 hroom), Bool.and_false]
    rw [hm, hspared]
    rfl
  · rw [purge_of_live hlive] at hroom
    rw [hm, isFull, decide_eq_false (Nat.not_le.2 hroom), Bool.and_false]
    rfl
  · rw [hm, holds_eq_false_iff.2 hv.not_held, isFull, decide_eq_true (Nat.le_of_eq hv.full.symm)]
    rfl

end CacheTable

/-! ## Runs -/

theorem Clock.StrictlyMonotone.reading_lt {c : Clock} (h : c.StrictlyMonotone) :
    c.reading < c.tick.reading :=
  h _ _ (Nat.lt_succ_self _)

namespace CacheCommand

/-- What a command writes. -/
def write? : CacheCommand → Option (String × String)
  | .set key value _ => some (key, value)
  | .get _ | .delete _ | .clearPrefix _ | .clear => none

/-- A get, or a set with this time to live. -/
def Uniform (ttl : Nat) : CacheCommand → Prop
  | .get _ => True
  | .set _ _ span => span = ttl
  | .delete _ | .clearPrefix _ | .clear => False

end CacheCommand

namespace CacheVisit

def writes (past : List CacheVisit) : List (String × String) :=
  past.filterMap fun v => v.command.write?

def evicted (past : List CacheVisit) : List String :=
  past.filterMap fun v => v.happening.evicted

theorem writes_snoc (past : List CacheVisit) (v : CacheVisit) :
    writes (past ++ [v]) = writes past ++ v.command.write?.toList := by
  rw [writes, List.filterMap_append]
  rfl

theorem evicted_snoc (past : List CacheVisit) (v : CacheVisit) :
    evicted (past ++ [v]) = evicted past ++ v.happening.evicted.toList := by
  rw [evicted, List.filterMap_append]
  rfl

/-- A set that finds its key not held and the table full. -/
def isCrowded (v : CacheVisit) : Bool :=
  v.isFresh && v.state.isFull

end CacheVisit

open CacheVisit (writes evicted)

/-- A run of gets, and of sets with one time to live, under a clock whose readings rise, in which nothing
expires. -/
structure UniformRun (capacity ttl : Nat) (start : Env) (past : List CacheVisit) (env : Env)
    (t : CacheTable) : Prop where
  visits : CacheVisits capacity start past env t
  rising : start.clock.StrictlyMonotone
  uniform : ∀ v ∈ past, v.command.Uniform ttl
  lasting : ∀ v ∈ past, ∀ e ∈ v.state.entries, v.now < e.expiry

/-- A table follows the queue of the writes so far: its entries expire in the order in which they stand,
before anything that is yet to be set. -/
structure Follows (ttl : Nat) (past : List CacheVisit) (env : Env) (t : CacheTable) : Prop where
  rising : env.clock.StrictlyMonotone
  ascending : t.entries.Pairwise (·.expiry < ·.expiry)
  below : ∀ e ∈ t.entries, e.expiry < env.clock.reading + ttl
  recency : Recency.after t.capacity (writes past) = ⟨t.contents, evicted past⟩
  evictions : t.stats.evictions = past.countP CacheVisit.isCrowded

namespace Follows

variable {ttl : Nat} {past : List CacheVisit} {env : Env} {t : CacheTable}

/-- A get leaves the entries as they are. -/
theorem get (h : Follows ttl past env t) (hlive : ∀ e ∈ t.entries, env.clock.reading < e.expiry)
    (key : String) : Follows ttl (past ++ [⟨.get key, env, t⟩])
      (CacheCommand.perform (.get key) env t).env (CacheCommand.perform (.get key) env t).state := by
  have hentries := CacheTable.get_entries_of_live hlive key
  have hcontents : (t.get env.clock.reading key).2.contents = t.contents := by
    rw [CacheTable.contents, hentries, CacheTable.contents]
  rw [CacheCommand.perform_get]
  refine ⟨h.rising, ?_, ?_, ?_, ?_⟩
  · rw [hentries]
    exact h.ascending
  · rw [hentries]
    intro e he
    have hbelow := h.below e he
    have htick := h.rising.reading_lt
    change e.expiry < env.clock.tick.reading + ttl
    omega
  · rw [CacheTable.get_capacity, hcontents, CacheVisit.writes_snoc, CacheVisit.evicted_snoc]
    simpa [CacheCommand.write?, CacheVisit.happening, Happening.of, CacheCommand.evicts] using h.recency
  · rw [(t.get_gone _ key).2, CacheVisits.countP_snoc, h.evictions]
    rfl

theorem set (h : Follows ttl past env t) (ht : t.Sound)
    (hlive : ∀ e ∈ t.entries, env.clock.reading < e.expiry) (key value : String)
    (hc : env.clock.reading + ttl < Clock.limit) :
    Follows ttl (past ++ [⟨.set key value ttl, env, t⟩])
      (CacheCommand.perform (.set key value ttl) env t).env
      (CacheCommand.perform (.set key value ttl) env t).state := by
  obtain ⟨journal, hrun⟩ := CacheCommand.perform_set value t hc
  have hevictions := CacheCommand.perform_evictions (c := .set key value ttl) hc ht
  have hkept : List.Sublist ((t.makeRoom env.order env.clock.reading key).1.drop key).entries t.entries :=
    List.filter_sublist.trans (t.makeRoom_sublist _ _ key)
  have htick := h.rising.reading_lt
  rw [hrun] at hevictions ⊢
  refine ⟨h.rising, ?_, ?_, ?_, ?_⟩
  · refine List.pairwise_append.2 ⟨h.ascending.sublist hkept, List.pairwise_singleton .., ?_⟩
    intro d hd e he
    rw [List.mem_singleton.1 he]
    exact h.below d (hkept.subset hd)
  · intro e he
    change e.expiry < env.clock.tick.reading + ttl
    rcases List.mem_append.1 he with he | he
    · have hbelow := h.below e (hkept.subset he)
      omega
    · rw [List.mem_singleton.1 he]
      exact Nat.add_lt_add_right htick ttl
  · rw [CacheVisit.writes_snoc, CacheVisit.evicted_snoc]
    change Recency.after (t.makeRoom env.order env.clock.reading key).1.capacity
      (writes past ++ [(key, value)]) = _
    rw [CacheTable.makeRoom_capacity ht env.order, Recency.after_snoc, h.recency]
    exact CacheTable.write_of_live ht env.order hlive h.ascending ⟨key, value, _⟩ _
  · rw [hevictions, CacheVisits.countP_snoc, h.evictions]
    exact congrArg _ (CacheTable.evicts_of_live ht env.order hlive key)

end Follows

namespace UniformRun

variable {capacity ttl : Nat} {start env : Env} {past : List CacheVisit} {t : CacheTable}

theorem follows (h : UniformRun capacity ttl start past env t) : Follows ttl past env t := by
  obtain ⟨hvisits, hrising, huniform, hlasting⟩ := h
  induction hvisits with
  | empty => exact ⟨hrising, List.Pairwise.nil, fun e he => (List.not_mem_nil he).elim, rfl, rfl⟩
  | @step past env t c hrun hc ih =>
    rw [List.forall_mem_append, List.forall_mem_singleton] at huniform hlasting
    have hfollows := ih huniform.1 hlasting.1
    cases c with
    | get key => exact hfollows.get hlasting.2 key
    | set key value span =>
      obtain rfl : span = ttl := huniform.2
      exact hfollows.set hrun.run.sound.1 hlasting.2 key value hc
    | delete | clearPrefix | clear => exact huniform.2.elim

/-- The table holds the keys written last, as many as it has room for, each with the value written last to it;
it evicts for a key that is not held when it is full; and what is read changes neither what it holds nor what
it evicts, now or later. -/
theorem keeps_keys_written_last (h : UniformRun capacity ttl start past env t) :
    t.entries.map (·.key) = ((writes past).map Prod.fst).dedup.rtake (max capacity 1) ∧
    (∀ e ∈ t.entries, (writes past).reverse.lookup e.key = some e.value) ∧
    t.stats.evictions = past.countP (fun v => v.isFresh && v.state.isFull) ∧
    (∀ v ∈ past, v.isGet = true → v.after.entries = v.state.entries ∧ v.happening.evicted = none) ∧
    ∀ {span : Nat} {origin later : Env} {others : List CacheVisit} {u : CacheTable},
      UniformRun capacity span origin others later u → writes others = writes past →
        u.contents = t.contents ∧ evicted others = evicted past := by
  obtain ⟨hsound, hcapacity⟩ := h.visits.run.sound
  have hfollows := h.follows
  have hqueue := hfollows.recency
  rw [hcapacity] at hqueue
  refine ⟨?_, fun e he => ?_, hfollows.evictions, fun v hv hget => ?_, fun h' hwrites => ?_⟩
  · have hroom : 0 < max capacity 1 := by omega
    rw [← t.contents_keys, ← Recency.keys_after hroom, hqueue]
    rfl
  · refine Recency.lookup_of_mem (max capacity 1) (p := (e.key, e.value)) ?_
    rw [hqueue]
    exact List.mem_map_of_mem he
  · cases hc : v.command with
    | get key =>
      rw [CacheVisit.after_get hc, CacheVisit.happening, hc]
      exact ⟨CacheTable.get_entries_of_live (h.lasting v hv) key, rfl⟩
    | set | delete | clearPrefix | clear =>
      rw [CacheVisit.isGet, hc] at hget
      cases hget
  · have hqueue' := h'.follows.recency
    rw [h'.visits.run.sound.2, hwrites, hqueue, Recency.mk.injEq] at hqueue'
    exact ⟨hqueue'.1.symm, hqueue'.2.symm⟩

/-- In a table with room for one key the second key written takes the place of the first, also if the first
is read in between. -/
theorem keeps_keys_written_last_of_two :
    let start : Env := { Env.still with clock := .steady }
    let one := CacheCommand.perform (.set "a" "1" 10) start (.new 1)
    let read := CacheCommand.perform (.get "a") one.env one.state
    let two := CacheCommand.perform (.set "b" "2" 10) read.env read.state
    let straight := CacheCommand.perform (.set "b" "2" 10) one.env one.state
    let past : List CacheVisit := [⟨.set "a" "1" 10, start, .new 1⟩, ⟨.get "a", one.env, one.state⟩,
      ⟨.set "b" "2" 10, read.env, read.state⟩]
    let others : List CacheVisit := [⟨.set "a" "1" 10, start, .new 1⟩,
      ⟨.set "b" "2" 10, one.env, one.state⟩]
    UniformRun 1 10 start past two.env two.state ∧
      UniformRun 1 10 start others straight.env straight.state ∧
      two.state.entries.map (·.key) = ["b"] ∧ two.state.stats.evictions = 1 ∧
      straight.state.contents = two.state.contents ∧ evicted others = evicted past ∧
      evicted past = ["a"] := by
  intro start one read two straight past others
  have hone : (0 : Nat) + 10 < Clock.limit := by decide
  have hstraight : (1 : Nat) + 10 < Clock.limit := by decide
  have htwo : (2 : Nat) + 10 < Clock.limit := by decide
  have hfirst : CacheVisits 1 start [⟨.set "a" "1" 10, start, .new 1⟩] one.env one.state :=
    CacheVisits.empty.step (.set "a" "1" 10) (by exact hone)
  have hrun : UniformRun 1 10 start past two.env two.state :=
    { visits := (hfirst.step (.get "a") trivial).step (.set "b" "2" 10) (by exact htwo)
      rising := Clock.steady_strictlyMonotone
      uniform := by simp [past, CacheCommand.Uniform]
      lasting := by decide +kernel }
  have hother : UniformRun 1 10 start others straight.env straight.state :=
    { visits := hfirst.step (.set "b" "2" 10) (by exact hstraight)
      rising := Clock.steady_strictlyMonotone
      uniform := by simp [others, CacheCommand.Uniform]
      lasting := by decide +kernel }
  obtain ⟨hkeys, -, hevictions, -, hsame⟩ := keeps_keys_written_last hrun
  obtain ⟨hcontents, hevicted⟩ := hsame hother rfl
  refine ⟨hrun, hother, hkeys.trans ?_, hevictions.trans ?_, hcontents, hevicted, ?_⟩
  · decide +kernel
  · decide +kernel
  · decide +kernel

end UniformRun

end ClusterReads
