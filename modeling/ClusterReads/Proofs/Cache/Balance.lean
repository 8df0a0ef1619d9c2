import ClusterReads.Proofs.Act
import ClusterReads.Proofs.Cache.History

/-!
# What becomes of the entries of a cache

Each command of a run is recorded with the table as it found it. An entry comes into a table by a set of
a key that was not held; it goes by a removal, by an eviction, or because it had expired when a get asked
for it or a set made room. Main statement: at every point of every run the statistics, the size and what
was dropped as expired account for every such set.
-/
namespace ClusterReads

/-- A command, and how it finds the table. -/
structure CacheVisit where
  command : CacheCommand
  env : Env
  state : CacheTable

namespace CacheVisit

def now (v : CacheVisit) : Nat :=
  v.env.clock.reading

/-- The table that the command leaves. -/
def after (v : CacheVisit) : CacheTable :=
  (v.command.perform v.env v.state).state

def happening (v : CacheVisit) : Happening :=
  .of v.command v.env v.state

def isGet (v : CacheVisit) : Bool :=
  match v.command with
  | .get _ => true
  | .set _ _ _ | .delete _ | .clearPrefix _ | .clear => false

def isSet (v : CacheVisit) : Bool :=
  match v.command with
  | .set _ _ _ => true
  | .get _ | .delete _ | .clearPrefix _ | .clear => false

/-- The value that a get returned. -/
def returned? (v : CacheVisit) : Option String :=
  match v.command with
  | .get key =>
    match (CacheService.table.get key v.env v.state).outcome with
    | .ok (.ok found) => found
    | .ok (.error _) | .error _ => none
  | .set _ _ _ | .delete _ | .clearPrefix _ | .clear => none

/-- A set of a key under which nothing was held, expired or not. -/
def isFresh (v : CacheVisit) : Bool :=
  match v.command with
  | .set key _ _ => !v.state.holds key
  | .get _ | .delete _ | .clearPrefix _ | .clear => false

/-- What a get or a set dropped although nobody removed it, because it had expired. -/
def lapsed (v : CacheVisit) : List CacheEntry :=
  match v.command with
  | .get _ | .set _ _ _ =>
    v.state.entries.filter fun e => decide (e.expiry ≤ v.now) && !v.after.holds e.key
  | .delete _ | .clearPrefix _ | .clear => []

end CacheVisit

/-- A run of commands on a new table, none of which fails, each with the table that it found. -/
inductive CacheVisits (capacity : Nat) (start : Env) : List CacheVisit → Env → CacheTable → Prop
  | empty : CacheVisits capacity start [] start (CacheTable.new capacity)
  | step {past : List CacheVisit} {env : Env} {t : CacheTable} (c : CacheCommand)
      (h : CacheVisits capacity start past env t) (hc : c.InRange env.clock.reading) :
      CacheVisits capacity start (past ++ [⟨c, env, t⟩]) (c.perform env t).env
        (c.perform env t).state

/-- The visits of a run are its history. -/
theorem CacheVisits.run {capacity : Nat} {start env : Env} {past : List CacheVisit} {t : CacheTable}
    (h : CacheVisits capacity start past env t) :
    CacheRun capacity start (past.map CacheVisit.happening) env t := by
  induction h with
  | empty => exact .empty
  | step c _ hc ih =>
    rw [List.map_append]
    exact ih.step c hc

/-! ## Sizes -/

namespace CacheTable

variable {t : CacheTable}

theorem size_drop (ht : t.Sound) {key : String} {e : CacheEntry} (h : t.find? key = some e) :
    (t.drop key).size + 1 = t.size := by
  obtain rfl := key_of_find? h
  have hmem := mem_of_find? h
  rw [size, drop_entries_of_mem ht hmem]
  exact List.length_erase_add_one hmem

theorem size_put (t : CacheTable) (e : CacheEntry) : (t.put e).size = (t.drop e.key).size + 1 :=
  List.length_append

theorem size_purge (t : CacheTable) (now : Nat) :
    (t.purge now).size + (t.entries.filter fun e => e.expiry ≤ now).length = t.size := by
  have hlength :=
    (List.filter_append_perm (fun e : CacheEntry => decide (now < e.expiry)) t.entries).length_eq
  rw [List.length_append] at hlength
  have hexpired : (t.entries.filter fun e => e.expiry ≤ now) =
      t.entries.filter fun e => !decide (now < e.expiry) :=
    List.filter_congr fun e _ => by rw [← decide_not, decide_eq_decide, Nat.not_lt]
  rw [hexpired]
  exact hlength

theorem size_get (ht : t.Sound) (now : Nat) (key : String) : (t.get now key).2.size +
    (t.entries.filter fun e => e.key == key && decide (e.expiry ≤ now)).length = t.size := by
  unfold get
  cases hlive : t.live? now key with
  | some value =>
    obtain ⟨e, hfound, hnow, -⟩ := live?_eq_some_iff.1 hlive
    have hnone : t.entries.filter (fun e => e.key == key && decide (e.expiry ≤ now)) = [] := by
      rw [List.filter_eq_nil_iff]
      intro d hd hexpired
      rw [Bool.and_eq_true, beq_iff_eq, decide_eq_true_eq] at hexpired
      have hsame := ht.find?_key hd
      rw [hexpired.1, hfound] at hsame
      cases hsame
      omega
    rw [hnone]
    rfl
  | none =>
    have hasked : t.entries.filter (fun e => e.key == key && decide (e.expiry ≤ now)) =
        t.entries.filter fun e => e.key == key := by
      refine List.filter_congr fun e he => ?_
      by_cases hkey : e.key = key
      · have hold : e.expiry ≤ now := by
          by_contra hnow
          have hfound := ht.find?_key he
          rw [hkey] at hfound
          rw [live?_eq_some_iff.2 ⟨e, hfound, Nat.lt_of_not_le hnow, rfl⟩] at hlive
          cases hlive
        rw [decide_eq_true hold, Bool.and_true]
      · rw [beq_eq_false_iff_ne.2 hkey, Bool.false_and]
    have hlength :=
      (List.filter_append_perm (fun e : CacheEntry => e.key == key) t.entries).length_eq
    rw [List.length_append, Nat.add_comm] at hlength
    rw [hasked]
    exact hlength

/-! ## What is accounted for -/

/-- What is held and what was counted as gone. -/
def accounted (t : CacheTable) : Nat :=
  t.size + t.stats.deletes + t.stats.evictions

/-- A new key adds an entry, a held one replaces its own. -/
theorem accounted_put (ht : t.Sound) (e : CacheEntry) :
    (t.put e).accounted = t.accounted + (!t.holds e.key).toNat := by
  have hsize : (t.put e).size = t.size + (!t.holds e.key).toNat := by
    rw [size_put]
    cases hheld : t.holds e.key with
    | true =>
      obtain ⟨d, hfound⟩ := holds_iff_find?.1 hheld
      exact size_drop ht hfound
    | false =>
      rw [drop_of_find?_eq_none (holds_eq_false_iff.1 hheld)]
      rfl
  change (t.put e).size + t.stats.deletes + t.stats.evictions =
    t.size + t.stats.deletes + t.stats.evictions + _
  omega

/-- An eviction turns an entry into a count. -/
theorem accounted_evict (ht : t.Sound) (order : EntryOrder) :
    (t.evict order).1.accounted = t.accounted := by
  by_cases hempty : t.entries = []
  · rw [evict, hempty, (order.perm []).eq_nil]
    rfl
  · obtain ⟨e, hsoonest, hmem, -⟩ := soonest?_list_of_ne_nil order hempty
    have hsize := size_drop ht (ht.find?_key hmem)
    rw [evict, hsoonest]
    change (t.drop e.key).size + t.stats.deletes + (t.stats.evictions + 1) =
      t.size + t.stats.deletes + t.stats.evictions
    omega

theorem accounted_purge (t : CacheTable) (now : Nat) :
    (t.purge now).accounted + (t.entries.filter fun e => e.expiry ≤ now).length =
      t.accounted := by
  have hsize := t.size_purge now
  change (t.purge now).size + t.stats.deletes + t.stats.evictions + _ =
    t.size + t.stats.deletes + t.stats.evictions
  omega

/-- The entries that making room for a key loses without counting them. -/
def purged (t : CacheTable) (now : Nat) (key : String) : List CacheEntry :=
  if !t.holds key && t.isFull then t.entries.filter fun e => e.expiry ≤ now else []

theorem accounted_makeRoom (ht : t.Sound) (order : EntryOrder) (now : Nat) (key : String) :
    (t.makeRoom order now key).1.accounted + (t.purged now key).length = t.accounted := by
  unfold makeRoom purged
  split
  · have hpurge := t.accounted_purge now
    have hsound : (t.purge now).Sound := keep_sound ht _
    dsimp only
    split
    · rw [accounted_evict hsound order]
      exact hpurge
    · exact hpurge
  · rfl

theorem accounted_remove (t : CacheTable) (p : CacheEntry → Bool) :
    (t.remove p).2.accounted = t.accounted := by
  have hle : (t.remove p).2.size ≤ t.size := List.length_filter_le _ _
  change (t.remove p).2.size + (t.stats.deletes + (t.size - (t.remove p).2.size)) +
    t.stats.evictions = t.size + t.stats.deletes + t.stats.evictions
  omega

/-- A read counts nothing as gone. -/
theorem get_gone (t : CacheTable) (now : Nat) (key : String) :
    (t.get now key).2.stats.deletes = t.stats.deletes ∧
      (t.get now key).2.stats.evictions = t.stats.evictions := by
  unfold get
  split <;> exact ⟨rfl, rfl⟩

theorem accounted_get (ht : t.Sound) (now : Nat) (key : String) : (t.get now key).2.accounted +
    (t.entries.filter fun e => e.key == key && decide (e.expiry ≤ now)).length =
      t.accounted := by
  have hsize := size_get ht now key
  obtain ⟨hdeletes, hevictions⟩ := t.get_gone now key
  unfold accounted
  omega

theorem holds_makeRoom (ht : t.Sound) (order : EntryOrder) (now : Nat) (key : String) :
    (t.makeRoom order now key).1.holds key = t.holds key := by
  rcases makeRoom_cases ht order now key with ⟨h, -⟩ | ⟨h, hnone, -⟩ | ⟨v, hv, h⟩
  · rw [h]
  · rw [h, holds_eq_false_iff.2 hnone, holds_eq_false_iff, find?_purge ht, hnone]
    rfl
  · rw [h, holds_eq_false_iff.2 hv.not_held, holds_eq_false_iff, find?_count, find?_drop,
      if_neg (hv.key_ne ht).symm, hv.not_held]

theorem find?_makeRoom_of_purged (ht : t.Sound) (order : EntryOrder) {now : Nat} {key : String}
    {e : CacheEntry} (he : e ∈ t.purged now key) : (t.makeRoom order now key).1.find? e.key = none := by
  unfold purged at he
  split at he
  · next hroom =>
    obtain ⟨hmem, hold⟩ := List.mem_filter.1 he
    have hgone : (t.purge now).find? e.key = none := by
      rw [find?_purge ht, ht.find?_key hmem]
      exact Option.filter_some_neg (by simpa using hold)
    rw [makeRoom, if_pos hroom]
    dsimp only
    split
    · rw [evict]
      split
      · rw [find?_count, find?_drop, hgone, ite_self]
      · exact hgone
    · exact hgone
  · cases he

end CacheTable

/-! ## One visit -/

namespace CacheVisit

variable {v : CacheVisit}

theorem after_get {key : String} (hv : v.command = .get key) :
    v.after = (v.state.get v.now key).2 := by
  rw [after, hv, CacheCommand.perform_get]
  rfl

theorem after_set {key value : String} {ttl : Nat} (hv : v.command = .set key value ttl)
    (hc : v.command.InRange v.now) :
    v.after = (v.state.makeRoom v.env.order v.now key).1.put ⟨key, value, v.now + ttl⟩ := by
  rw [hv] at hc
  obtain ⟨journal, hrun⟩ := CacheCommand.perform_set value v.state hc
  rw [after, hv, hrun]
  rfl

/-- What lapses in a get is the entry that it asked for, if that had expired. -/
theorem lapsed_get (ht : v.state.Sound) {key : String} (hv : v.command = .get key) :
    v.lapsed = v.state.entries.filter fun e => e.key == key && decide (e.expiry ≤ v.now) := by
  rw [lapsed, hv]
  refine List.filter_congr fun e he => ?_
  by_cases hold : e.expiry ≤ v.now
  · rw [decide_eq_true hold, Bool.true_and, Bool.and_true]
    by_cases hkey : e.key = key
    · have hgone : v.after.holds e.key = false := by
        rw [CacheTable.holds_eq_false_iff, after_get hv, CacheTable.find?_get_eq, if_pos hkey,
          ht.find?_key he]
        exact Option.filter_some_neg (by simpa using hold)
      rw [hgone, beq_iff_eq.2 hkey]
      rfl
    · have hheld : v.after.holds e.key = true := by
        rw [CacheTable.holds_iff_find?, after_get hv, CacheTable.find?_get_eq, if_neg hkey]
        exact ⟨e, ht.find?_key he⟩
      rw [hheld, beq_eq_false_iff_ne.2 hkey]
      rfl
  · rw [decide_eq_false hold, Bool.false_and, Bool.and_false]

/-- What lapses in a set is what making room purges. -/
theorem lapsed_set (ht : v.state.Sound) {key value : String} {ttl : Nat}
    (hv : v.command = .set key value ttl) (hc : v.command.InRange v.now) :
    v.lapsed = v.state.purged v.now key := by
  have hafter := after_set hv hc
  have hpurged := @CacheTable.find?_makeRoom_of_purged _ ht v.env.order v.now key
  rw [lapsed, hv]
  unfold CacheTable.purged at hpurged ⊢
  by_cases hroom : (!v.state.holds key && v.state.isFull) = true
  · rw [if_pos hroom] at hpurged ⊢
    refine List.filter_congr fun e he => ?_
    by_cases hold : e.expiry ≤ v.now
    · have hne : e.key ≠ key := by
        rintro rfl
        have hheld := CacheTable.holds_iff_find?.2 ⟨e, ht.find?_key he⟩
        rw [hheld] at hroom
        cases hroom
      have hgone : v.after.holds e.key = false := by
        rw [CacheTable.holds_eq_false_iff, hafter, CacheTable.find?_put, if_neg hne]
        exact hpurged (List.mem_filter.2 ⟨he, by simpa using hold⟩)
      rw [hgone, Bool.not_false, Bool.and_true]
    · rw [decide_eq_false hold, Bool.false_and]
  · rw [if_neg hroom]
    refine List.filter_eq_nil_iff.2 fun e he hlapsed => ?_
    have hheld : v.after.holds e.key = true := by
      rw [CacheTable.holds_iff_find?, hafter, CacheTable.makeRoom, if_neg hroom,
        CacheTable.find?_put]
      split
      · exact ⟨_, rfl⟩
      · exact ⟨e, ht.find?_key he⟩
    rw [hheld, Bool.not_true, Bool.and_false] at hlapsed
    cases hlapsed

/-- What is held, was counted as gone or has lapsed grows by the sets of new keys. -/
theorem accounted_after (ht : v.state.Sound) (hc : v.command.InRange v.now) :
    v.after.accounted + v.lapsed.length = v.state.accounted + v.isFresh.toNat := by
  cases hv : v.command with
  | get key =>
    rw [after_get hv, lapsed_get ht hv, isFresh, hv]
    exact CacheTable.accounted_get ht v.now key
  | set key value ttl =>
    have hroom := CacheTable.accounted_makeRoom ht v.env.order v.now key
    have hput := CacheTable.accounted_put
      (CacheTable.write_sound ht v.env.order v.now ⟨key, value, v.now + ttl⟩).1 ⟨key, value, v.now + ttl⟩
    rw [CacheTable.holds_makeRoom ht] at hput
    rw [after_set hv hc, lapsed_set ht hv hc, isFresh, hv]
    dsimp only at hput ⊢
    omega
  | delete key | clearPrefix start | clear =>
    rw [after, lapsed, isFresh, hv]
    exact v.state.accounted_remove _

/-- Gets and sets are counted as such, and a get that returned something as a hit. -/
theorem stats_after (ht : v.state.Sound) (hc : v.command.InRange v.now) :
    v.after.stats.hits = v.state.stats.hits + v.returned?.isSome.toNat ∧
      v.after.stats.hits + v.after.stats.misses =
        v.state.stats.hits + v.state.stats.misses + v.isGet.toNat ∧
      v.after.stats.sets = v.state.stats.sets + v.isSet.toNat := by
  cases hv : v.command with
  | get key =>
    have hreturned : v.returned? = v.state.live? v.now key := by
      rw [returned?, hv]
      simp only [CacheService.table_get_run]
      rfl
    rw [isGet, isSet, hv, hreturned, after_get hv, CacheTable.get]
    cases v.state.live? v.now key with
    | none => exact ⟨rfl, rfl, rfl⟩
    | some value => exact ⟨rfl, Nat.add_right_comm _ 1 _, rfl⟩
  | set key value ttl =>
    have hroom : (v.state.makeRoom v.env.order v.now key).1.stats = { v.state.stats with
        evictions := (v.state.makeRoom v.env.order v.now key).1.stats.evictions } := by
      rcases CacheTable.makeRoom_cases ht v.env.order v.now key with
        ⟨hm, -⟩ | ⟨hm, -, -⟩ | ⟨victim, -, hm⟩ <;> rw [hm] <;> rfl
    rw [returned?, isGet, isSet, after_set hv hc, hv, CacheTable.put]
    dsimp only
    rw [hroom]
    exact ⟨rfl, rfl, rfl⟩
  | delete key | clearPrefix start | clear =>
    rw [returned?, isGet, isSet, after, hv]
    exact ⟨rfl, rfl, rfl⟩

/-- What lapsed had expired, and was dropped when it was asked for or when a full table made room. -/
theorem cause_of_lapsed (ht : v.state.Sound) (hc : v.command.InRange v.now) {e : CacheEntry}
    (he : e ∈ v.lapsed) : e ∈ v.state.entries ∧ e.expiry ≤ v.now ∧
      (v.command = .get e.key ∨ v.isFresh = true ∧ v.state.isFull = true) := by
  cases hv : v.command with
  | get key =>
    rw [lapsed_get ht hv, List.mem_filter, Bool.and_eq_true, beq_iff_eq, decide_eq_true_eq] at he
    obtain ⟨hmem, rfl, hold⟩ := he
    exact ⟨hmem, hold, Or.inl rfl⟩
  | set key value ttl =>
    rw [lapsed_set ht hv hc, CacheTable.purged] at he
    split at he
    · next hroom =>
      rw [List.mem_filter, decide_eq_true_eq] at he
      rw [Bool.and_eq_true] at hroom
      refine ⟨he.1, he.2, Or.inr ⟨?_, hroom.2⟩⟩
      rw [isFresh, hv]
      exact hroom.1
    · cases he
  | delete key | clearPrefix start | clear =>
    rw [lapsed, hv] at he
    cases he

/-- Only sets are fresh. -/
theorem isSet_of_isFresh (h : v.isFresh = true) : v.isSet = true := by
  unfold isFresh at h
  unfold isSet
  split at h <;> simp_all

end CacheVisit

/-! ## Runs -/

namespace CacheVisits

variable {capacity : Nat} {start env : Env} {past : List CacheVisit} {t : CacheTable}

theorem countP_snoc (past : List CacheVisit) (v : CacheVisit) (p : CacheVisit → Bool) :
    (past ++ [v]).countP p = past.countP p + (p v).toNat := by
  rw [List.countP_append, List.countP_singleton]
  cases p v <;> rfl

/-- Every visit of a run finds a sound table, and its command is in range. -/
theorem visit (h : CacheVisits capacity start past env t) :
    ∀ v ∈ past, v.state.Sound ∧ v.command.InRange v.now := by
  induction h with
  | empty => exact fun v hv => by cases hv
  | step c hrun hc ih =>
    rw [List.forall_mem_append, List.forall_mem_singleton]
    exact ⟨ih, hrun.run.sound.1, hc⟩

/-- The statistics count the gets, those that returned something, and the sets. -/
theorem stats_eq (h : CacheVisits capacity start past env t) :
    t.stats.hits = past.countP (fun v => v.returned?.isSome) ∧
      t.stats.hits + t.stats.misses = past.countP CacheVisit.isGet ∧
      t.stats.sets = past.countP CacheVisit.isSet := by
  induction h with
  | empty => exact ⟨rfl, rfl, rfl⟩
  | @step past env t c hrun hc ih =>
    obtain ⟨hhits, hgets, hsets⟩ := CacheVisit.stats_after (v := ⟨c, env, t⟩) hrun.run.sound.1 hc
    obtain ⟨hhitsBefore, hgetsBefore, hsetsBefore⟩ := ih
    rw [countP_snoc, countP_snoc, countP_snoc, ← hhitsBefore, ← hgetsBefore, ← hsetsBefore]
    exact ⟨hhits, hgets, hsets⟩

theorem countP_isFresh (h : CacheVisits capacity start past env t) :
    past.countP CacheVisit.isFresh = t.accounted + (past.flatMap CacheVisit.lapsed).length := by
  induction h with
  | empty => rfl
  | @step past env t c hrun hc ih =>
    let v : CacheVisit := ⟨c, env, t⟩
    have hstep : v.after.accounted + v.lapsed.length = t.accounted + v.isFresh.toNat :=
      CacheVisit.accounted_after hrun.run.sound.1 hc
    rw [countP_snoc, List.flatMap_append, List.length_append, List.flatMap_singleton, ih]
    change t.accounted + _ + v.isFresh.toNat = v.after.accounted + (_ + v.lapsed.length)
    omega

/-- The statistics account for every entry: gets are hits, which returned something, or misses; sets are
counted; and each set of a new key is still held, was counted as deleted or as evicted, or has lapsed. -/
theorem every_entry_accounted (h : CacheVisits capacity start past env t) :
    t.stats.hits + t.stats.misses = past.countP CacheVisit.isGet ∧
    t.stats.hits = past.countP (fun v => v.returned?.isSome) ∧
    t.stats.sets = past.countP CacheVisit.isSet ∧
    past.countP CacheVisit.isFresh =
      t.size + t.stats.deletes + t.stats.evictions + (past.flatMap CacheVisit.lapsed).length ∧
    (∀ v ∈ past, ∀ e ∈ v.lapsed, e ∈ v.state.entries ∧ e.expiry ≤ v.now ∧
      (v.command = .get e.key ∨ v.isFresh = true ∧ v.state.isFull = true)) ∧
    t.size + t.stats.deletes + t.stats.evictions ≤ t.stats.sets ∧
    ((∀ v ∈ past, v.isSet = true → v.isFresh = true) → (∀ v ∈ past, v.lapsed = []) →
      t.size + t.stats.deletes + t.stats.evictions = t.stats.sets) := by
  obtain ⟨hhits, hgets, hsets⟩ := h.stats_eq
  have hfresh := h.countP_isFresh
  rw [CacheTable.accounted] at hfresh
  have hle : past.countP CacheVisit.isFresh ≤ past.countP CacheVisit.isSet :=
    List.countP_mono_left fun v _ => CacheVisit.isSet_of_isFresh
  refine ⟨hgets, hhits, hsets, hfresh, fun v hv e he => ?_, by omega, fun hnew hnone => ?_⟩
  · obtain ⟨hsound, hc⟩ := h.visit v hv
    exact CacheVisit.cause_of_lapsed hsound hc he
  · have hge : past.countP CacheVisit.isSet ≤ past.countP CacheVisit.isFresh :=
      List.countP_mono_left hnew
    rw [List.flatMap_eq_nil_iff.2 hnone, List.length_nil] at hfresh
    omega

/-- In a table with room for one entry the first of three keys lapses, the second is evicted and the third
is held. -/
theorem every_entry_accounted_when_full :
    let one := CacheCommand.perform (.set "a" "1" 0) .still (.new 1)
    let two := CacheCommand.perform (.set "b" "2" 10) one.env one.state
    let three := CacheCommand.perform (.set "c" "3" 10) two.env two.state
    let past : List CacheVisit := [⟨.set "a" "1" 0, .still, .new 1⟩,
      ⟨.set "b" "2" 10, one.env, one.state⟩, ⟨.set "c" "3" 10, two.env, two.state⟩]
    CacheVisits 1 .still past three.env three.state ∧
      three.state.size = 1 ∧ three.state.stats.deletes = 0 ∧ three.state.stats.evictions = 1 ∧
      past.countP CacheVisit.isFresh = 3 ∧ (past.flatMap CacheVisit.lapsed).length = 1 := by
  intro one two three past
  have hnow : (0 : Nat) + 0 < Clock.limit := by decide
  have hlater : (0 : Nat) + 10 < Clock.limit := by decide
  have hfirst : CacheVisits 1 .still [⟨.set "a" "1" 0, .still, .new 1⟩] one.env one.state :=
    CacheVisits.empty.step (.set "a" "1" 0) (by exact hnow)
  have hrun : CacheVisits 1 .still past three.env three.state :=
    (hfirst.step (.set "b" "2" 10) (by exact hlater)).step (.set "c" "3" 10) (by exact hlater)
  obtain ⟨-, -, -, hfresh, -⟩ := every_entry_accounted hrun
  have hthree : past.countP CacheVisit.isFresh = 3 := by decide +kernel
  have hsize : three.state.size = 1 := by decide +kernel
  have hdeletes : three.state.stats.deletes = 0 := by decide +kernel
  have hevictions : three.state.stats.evictions = 1 := by decide +kernel
  rw [hthree, hsize, hdeletes, hevictions] at hfresh
  exact ⟨hrun, hsize, hdeletes, hevictions, hthree, by omega⟩

end CacheVisits

end ClusterReads
