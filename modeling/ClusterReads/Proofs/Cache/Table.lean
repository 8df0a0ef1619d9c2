import Mathlib.Data.List.Nodup
import ClusterReads.Cache.Table

/-!
# Laws of the cache table

What each operation of the table does to the entry found under a key. Main statements: every
operation keeps a table sound, and room is made in one of three ways, of which only the last loses
what has not expired.
-/
namespace ClusterReads
namespace CacheTable

/-- One entry a key, and no more entries than there is room for. -/
structure Sound (t : CacheTable) : Prop where
  distinct : (t.entries.map (·.key)).Nodup
  size_le : t.size ≤ t.capacity
  capacity_pos : 0 < t.capacity

theorem new_sound (capacity : Nat) : (new capacity).Sound := by
  refine ⟨by simp [new], by simp [new, size], ?_⟩
  change 0 < max capacity 1
  omega

@[simp] theorem find?_new (capacity : Nat) (key : String) : (new capacity).find? key = none := rfl

@[simp] theorem find?_count (t : CacheTable) (f : CacheStats → CacheStats) (key : String) :
    (t.count f).find? key = t.find? key := rfl

theorem mem_of_find? {t : CacheTable} {key : String} {e : CacheEntry} (h : t.find? key = some e) :
    e ∈ t.entries :=
  List.mem_of_find?_eq_some h

theorem key_of_find? {t : CacheTable} {key : String} {e : CacheEntry} (h : t.find? key = some e) :
    e.key = key := by
  simpa using List.find?_some h

theorem holds_iff_find? {t : CacheTable} {key : String} :
    t.holds key = true ↔ ∃ e, t.find? key = some e := by
  unfold holds find?
  rw [← Option.isSome_iff_exists, List.find?_isSome, List.any_eq_true]

theorem holds_eq_false_iff {t : CacheTable} {key : String} :
    t.holds key = false ↔ t.find? key = none := by
  rw [← Bool.not_eq_true, holds_iff_find?]
  cases t.find? key <;> simp

/-- A list whose keys differ holds every entry where it is looked for. -/
theorem find?_eq_of_mem {l : List CacheEntry} (hl : (l.map (·.key)).Nodup) {e : CacheEntry}
    (he : e ∈ l) : l.find? (fun d => d.key == e.key) = some e := by
  induction l with
  | nil => cases he
  | cons d rest ih =>
    rw [List.map_cons, List.nodup_cons] at hl
    rcases List.mem_cons.1 he with rfl | he
    · simp
    · have hne : d.key ≠ e.key := by
        intro h
        exact hl.1 (h ▸ List.mem_map_of_mem he)
      rw [List.find?_cons_of_neg (by simpa using hne)]
      exact ih hl.2 he

theorem Sound.find?_key {t : CacheTable} (ht : t.Sound) {e : CacheEntry} (he : e ∈ t.entries) :
    t.find? e.key = some e :=
  find?_eq_of_mem ht.distinct he

/-! ## Keeping -/

theorem keep_sound {t : CacheTable} (ht : t.Sound) (p : CacheEntry → Bool) : (t.keep p).Sound := by
  refine ⟨ht.distinct.sublist (List.filter_sublist.map _), ?_, ht.capacity_pos⟩
  exact Nat.le_trans (List.length_filter_le p t.entries) ht.size_le

/-- A test of keys alone keeps whole keys. -/
theorem find?_keep_key (t : CacheTable) (q : String → Bool) (key : String) :
    (t.keep fun e => q e.key).find? key = if q key then t.find? key else none := by
  unfold find? keep
  rw [List.find?_filter]
  split
  · next h =>
    congr 1
    funext e
    by_cases he : e.key = key
    · simp [he, h]
    · simp [he]
  · next h =>
    rw [List.find?_eq_none]
    intro e _ he
    simp only [beq_iff_eq, decide_eq_true_eq] at he
    exact h (he.2 ▸ he.1)

theorem find?_drop (t : CacheTable) (gone key : String) :
    (t.drop gone).find? key = if key = gone then none else t.find? key := by
  unfold drop
  rw [find?_keep_key t (fun k => k != gone)]
  by_cases h : key = gone <;> simp [h]

theorem drop_of_find?_eq_none {t : CacheTable} {key : String} (h : t.find? key = none) :
    t.drop key = t := by
  have hkeys : ∀ e ∈ t.entries, (e.key != key) = true := by
    intro e he
    rw [find?, List.find?_eq_none] at h
    simpa using h e he
  rw [drop, keep, List.filter_eq_self.2 hkeys]

theorem drop_entries_of_mem {t : CacheTable} (ht : t.Sound) {e : CacheEntry} (he : e ∈ t.entries) :
    (t.drop e.key).entries = t.entries.erase e := by
  have hsame : ∀ d ∈ t.entries, d.key = e.key → d = e := by
    intro d hd hk
    have hfound := ht.find?_key hd
    rw [hk, ht.find?_key he] at hfound
    exact (Option.some.inj hfound).symm
  change (t.entries.filter fun d => d.key != e.key) = _
  rw [(List.Nodup.of_map _ ht.distinct).erase_eq_filter]
  refine List.filter_congr fun d hd => ?_
  by_cases hde : d = e
  · subst hde
    simp
  · rw [bne_iff_ne.2 fun hk => hde (hsame d hd hk), bne_iff_ne.2 hde]

theorem purge_of_live {t : CacheTable} {now : Nat} (h : ∀ e ∈ t.entries, now < e.expiry) :
    t.purge now = t := by
  rw [purge, keep, List.filter_eq_self.2 fun e he => decide_eq_true (h e he)]

theorem find?_purge {t : CacheTable} (ht : t.Sound) (now : Nat) (key : String) :
    (t.purge now).find? key = (t.find? key).filter fun e => now < e.expiry := by
  cases hf : t.find? key with
  | none =>
    rw [Option.filter_none]
    unfold find? purge keep at *
    rw [List.find?_eq_none] at hf ⊢
    intro e he
    exact hf e (List.mem_filter.1 he).1
  | some e =>
    have hkey := key_of_find? hf
    have hmem := mem_of_find? hf
    by_cases hlive : now < e.expiry
    · rw [Option.filter_some_pos (by simpa using hlive), ← hkey]
      refine (keep_sound ht _).find?_key ?_
      exact List.mem_filter.2 ⟨hmem, by simpa using hlive⟩
    · rw [Option.filter_some_neg (by simpa using hlive)]
      unfold find? purge keep
      rw [List.find?_eq_none]
      intro d hd hdkey
      have hd := List.mem_filter.1 hd
      have hdkey : d.key = key := by simpa using hdkey
      have hde : t.find? key = some d := hdkey ▸ ht.find?_key hd.1
      rw [hf] at hde
      cases hde
      exact hlive (by simpa using hd.2)

/-! ## Reading -/

theorem live?_eq_some_iff {t : CacheTable} {now : Nat} {key value : String} :
    t.live? now key = some value ↔
      ∃ e, t.find? key = some e ∧ now < e.expiry ∧ e.value = value := by
  unfold live?
  cases t.find? key with
  | none => simp
  | some e => by_cases h : now < e.expiry <;> simp [h]

@[simp] theorem get_fst (t : CacheTable) (now : Nat) (key : String) :
    (t.get now key).1 = t.live? now key := by
  unfold get
  split <;> simp_all

theorem get_sound {t : CacheTable} (ht : t.Sound) (now : Nat) (key : String) :
    (t.get now key).2.Sound := by
  unfold get
  split
  · exact ⟨ht.distinct, ht.size_le, ht.capacity_pos⟩
  · have hd : (t.drop key).Sound := keep_sound ht _
    exact ⟨hd.distinct, hd.size_le, hd.capacity_pos⟩

/-- A read drops the entry that it asks for if it has expired. -/
theorem find?_get_eq (t : CacheTable) (now : Nat) (asked key : String) :
    (t.get now asked).2.find? key =
      if key = asked then (t.find? key).filter fun e => now < e.expiry else t.find? key := by
  by_cases hkey : key = asked
  · subst hkey
    rw [if_pos rfl, get, live?]
    cases hfound : t.find? key with
    | none => simp [find?_drop]
    | some e =>
      by_cases hlive : now < e.expiry
      · simp [hlive, hfound, Option.filter_some_pos]
      · simp [hlive, find?_drop, Option.filter_some_neg]
  · rw [if_neg hkey, get]
    split
    · rfl
    · rw [find?_count, find?_drop, if_neg hkey]

/-- A read drops at most the entry it asks for, and that only when it has expired. -/
theorem find?_get (t : CacheTable) (now : Nat) (asked key : String) :
    (t.get now asked).2.find? key = t.find? key ∨
      ((t.get now asked).2.find? key = none ∧ ∀ e, t.find? key = some e → e.expiry ≤ now) := by
  rw [find?_get_eq]
  split
  · cases hfound : t.find? key with
    | none => exact Or.inl rfl
    | some e =>
      by_cases hlive : now < e.expiry
      · exact Or.inl (Option.filter_some_pos (by simpa using hlive))
      · refine Or.inr ⟨Option.filter_some_neg (by simpa using hlive), fun d hd => ?_⟩
        cases hd
        exact Nat.le_of_not_lt hlive
  · exact Or.inl rfl

@[simp] theorem get_capacity (t : CacheTable) (now : Nat) (key : String) :
    (t.get now key).2.capacity = t.capacity := by
  unfold get
  split <;> rfl

/-! ## The soonest to expire -/

theorem foldl_sooner_some (l : List CacheEntry) (best : CacheEntry) :
    ∃ e, l.foldl sooner (some best) = some e ∧ (e = best ∨ e ∈ l) ∧ e.expiry ≤ best.expiry ∧
      ∀ d ∈ l, e.expiry ≤ d.expiry := by
  induction l generalizing best with
  | nil => exact ⟨best, rfl, Or.inl rfl, Nat.le_refl _, by simp⟩
  | cons d rest ih =>
    rw [List.foldl_cons]
    by_cases hd : d.expiry < best.expiry
    · have hs : sooner (some best) d = some d := by simp [sooner, hd]
      obtain ⟨e, he, hmem, hle, hall⟩ := ih d
      refine ⟨e, by rw [hs, he], Or.inr ?_, by omega, ?_⟩
      · rcases hmem with rfl | hmem <;> simp_all
      · intro c hc
        rcases List.mem_cons.1 hc with rfl | hc
        · exact hle
        · exact hall c hc
    · have hs : sooner (some best) d = some best := by simp [sooner, hd]
      obtain ⟨e, he, hmem, hle, hall⟩ := ih best
      refine ⟨e, by rw [hs, he], ?_, hle, ?_⟩
      · rcases hmem with rfl | hmem
        · exact Or.inl rfl
        · exact Or.inr (List.mem_cons_of_mem d hmem)
      · intro c hc
        rcases List.mem_cons.1 hc with rfl | hc
        · omega
        · exact hall c hc

theorem soonest?_of_ne_nil {l : List CacheEntry} (h : l ≠ []) :
    ∃ e, soonest? l = some e ∧ e ∈ l ∧ ∀ d ∈ l, e.expiry ≤ d.expiry := by
  cases l with
  | nil => exact absurd rfl h
  | cons d rest =>
    obtain ⟨e, he, hmem, hle, hall⟩ := foldl_sooner_some rest d
    refine ⟨e, he, by rcases hmem with rfl | hmem <;> simp [*], ?_⟩
    intro c hc
    rcases List.mem_cons.1 hc with rfl | hc
    · exact hle
    · exact hall c hc

/-- In whatever order the entries are walked, one that expires first is found. -/
theorem soonest?_list_of_ne_nil (order : EntryOrder) {l : List CacheEntry} (h : l ≠ []) :
    ∃ e, soonest? (order.list l) = some e ∧ e ∈ l ∧ ∀ d ∈ l, e.expiry ≤ d.expiry := by
  have hperm := order.perm l
  have hne : order.list l ≠ [] := fun hnil => h (hnil ▸ hperm).nil_eq.symm
  obtain ⟨e, he, hmem, hmin⟩ := soonest?_of_ne_nil hne
  exact ⟨e, he, hperm.mem_iff.1 hmem, fun d hd => hmin d (hperm.mem_iff.2 hd)⟩

/-! ## Writing -/

/-- The victim of an eviction: the table is full of entries that have not expired, none of them
under the new key, and this one expires first. -/
structure Victim (t : CacheTable) (now : Nat) (key : String) (e : CacheEntry) : Prop where
  not_held : t.find? key = none
  full : t.size = t.capacity
  live : ∀ d ∈ t.entries, now < d.expiry
  mem : e ∈ t.entries
  soonest : ∀ d ∈ t.entries, e.expiry ≤ d.expiry

theorem Victim.key_ne {t : CacheTable} {now : Nat} {key : String} {e : CacheEntry}
    (h : Victim t now key e) (ht : t.Sound) : e.key ≠ key := by
  intro hk
  have := ht.find?_key h.mem
  rw [hk, h.not_held] at this
  cases this

/-- Dropping the victim by its key loses one entry, and there is nothing under the new key to drop.
-/
theorem Victim.drop_drop_entries {t : CacheTable} {now : Nat} {key : String} {e : CacheEntry}
    (h : Victim t now key e) (ht : t.Sound) :
    ((t.drop e.key).drop key).entries = t.entries.erase e := by
  have hnone : (t.drop e.key).find? key = none := by
    rw [find?_drop, if_neg (h.key_ne ht).symm, h.not_held]
  rw [drop_of_find?_eq_none hnone, drop_entries_of_mem ht h.mem]

/-- Room is there already, or is made by dropping what has expired, or by evicting one entry. -/
theorem makeRoom_cases {t : CacheTable} (ht : t.Sound) (order : EntryOrder) (now : Nat)
    (key : String) :
    (t.makeRoom order now key = (t, none) ∧ (t.find? key ≠ none ∨ t.size < t.capacity)) ∨
    (t.makeRoom order now key = (t.purge now, none) ∧ t.find? key = none ∧
      (t.purge now).size < t.capacity) ∨
    ∃ e, Victim t now key e ∧
      t.makeRoom order now key =
        ((t.drop e.key).count fun s => { s with evictions := s.evictions + 1 }, some e.key) := by
  by_cases hheld : t.holds key = true
  · refine Or.inl ⟨by simp [makeRoom, hheld], Or.inl ?_⟩
    obtain ⟨e, he⟩ := holds_iff_find?.1 hheld
    simp [he]
  have hnone : t.find? key = none := holds_eq_false_iff.1 (by simpa using hheld)
  by_cases hroom : t.size < t.capacity
  · refine Or.inl ⟨?_, Or.inr hroom⟩
    simp [makeRoom, isFull, Nat.not_le.2 hroom]
  have hsize : t.size = t.capacity := Nat.le_antisymm ht.size_le (Nat.not_lt.1 hroom)
  have hmake : t.makeRoom order now key =
      if (t.purge now).isFull then (t.purge now).evict order else (t.purge now, none) := by
    simp [makeRoom, hheld, isFull, hsize]
  by_cases hpurged : (t.purge now).size < t.capacity
  · refine Or.inr (Or.inl ⟨?_, hnone, hpurged⟩)
    have : (t.purge now).isFull = false := decide_eq_false (Nat.not_le.2 hpurged)
    simp [hmake, this]
  -- nothing was dropped, so nothing had expired
  have hall : ∀ d ∈ t.entries, now < d.expiry := by
    have hlen : (t.entries.filter fun e => decide (now < e.expiry)).length = t.entries.length := by
      have hle := List.length_filter_le (fun e => decide (now < e.expiry)) t.entries
      have hge : t.capacity ≤ (t.entries.filter fun e => decide (now < e.expiry)).length :=
        Nat.not_lt.1 hpurged
      change t.entries.length = t.capacity at hsize
      omega
    simpa using List.length_filter_eq_length_iff.1 hlen
  have hne : t.entries ≠ [] := by
    intro h
    have hpos := ht.capacity_pos
    rw [size, h, List.length_nil] at hsize
    omega
  obtain ⟨e, he, hmem, hmin⟩ := soonest?_list_of_ne_nil order hne
  refine Or.inr (Or.inr ⟨e, ⟨hnone, hsize, hall, hmem, hmin⟩, ?_⟩)
  have hfull : t.isFull = true := by simp [isFull, hsize]
  simp [hmake, purge_of_live hall, hfull, evict, he]

/-- Of two entries that expire together the one met first is evicted. -/
example : ((⟨2, [⟨"a", "1", 5⟩, ⟨"b", "2", 5⟩], .zero⟩ : CacheTable).makeRoom
    ⟨List.reverse, List.reverse_perm⟩ 0 "c").2 = some "b" := by
  decide

theorem makeRoom_capacity {t : CacheTable} (ht : t.Sound) (order : EntryOrder) (now : Nat)
    (key : String) : (t.makeRoom order now key).1.capacity = t.capacity := by
  rcases makeRoom_cases ht order now key with ⟨h, -⟩ | ⟨h, -, -⟩ | ⟨v, -, h⟩ <;> rw [h] <;> rfl

/-- What making room leaves of an entry that is not evicted. -/
theorem find?_makeRoom {t : CacheTable} (ht : t.Sound) (order : EntryOrder) (now : Nat)
    (fresh key : String) :
    (t.makeRoom order now fresh).1.find? key = t.find? key ∨
      ((t.makeRoom order now fresh).1.find? key = none ∧
        ((t.makeRoom order now fresh).2 = some key ∨ ∀ e, t.find? key = some e → e.expiry ≤ now)) := by
  rcases makeRoom_cases ht order now fresh with ⟨h, -⟩ | ⟨h, -, -⟩ | ⟨v, -, h⟩
  · exact Or.inl (by rw [h])
  · rw [h, find?_purge ht]
    cases hf : t.find? key with
    | none => exact Or.inl rfl
    | some e =>
      by_cases hlive : now < e.expiry
      · exact Or.inl (Option.filter_some_pos (by simpa using hlive))
      · refine Or.inr ⟨Option.filter_some_neg (by simpa using hlive), Or.inr fun d hd => ?_⟩
        cases hd
        omega
  · rw [h, find?_count, find?_drop]
    by_cases hk : key = v.key
    · exact Or.inr ⟨if_pos hk, Or.inl (by simp [hk])⟩
    · exact Or.inl (if_neg hk)

theorem put_sound {t : CacheTable} (ht : t.Sound) {e : CacheEntry}
    (hroom : t.find? e.key ≠ none ∨ t.size < t.capacity) : (t.put e).Sound := by
  have hd : (t.drop e.key).Sound := keep_sound ht _
  have hgone : ∀ d ∈ (t.drop e.key).entries, d.key ≠ e.key := by
    intro d hmem
    simpa [drop, keep] using (List.mem_filter.1 hmem).2
  refine ⟨?_, ?_, ht.capacity_pos⟩
  · change (((t.drop e.key).entries ++ [e]).map (·.key)).Nodup
    rw [List.map_append, List.nodup_append]
    refine ⟨hd.distinct, by simp, ?_⟩
    intro a ha b hb
    obtain ⟨d, hmem, rfl⟩ := List.mem_map.1 ha
    obtain rfl : b = e.key := by simpa using hb
    exact hgone d hmem
  · change ((t.drop e.key).entries ++ [e]).length ≤ t.capacity
    rw [List.length_append, List.length_singleton]
    rcases hroom with hheld | hroom
    · -- the entry replaced makes the room
      obtain ⟨d, hfound⟩ := Option.ne_none_iff_exists'.1 hheld
      have hlt : (t.drop e.key).entries.length < t.entries.length := by
        refine List.length_filter_lt_length_iff_exists.2 ⟨d, mem_of_find? hfound, ?_⟩
        simp [key_of_find? hfound]
      have hle : t.entries.length ≤ t.capacity := ht.size_le
      omega
    · have hle := List.length_filter_le (fun d => d.key != e.key) t.entries
      change t.entries.length < t.capacity at hroom
      change (t.entries.filter fun d => d.key != e.key).length + 1 ≤ t.capacity
      omega

theorem find?_put (t : CacheTable) (e : CacheEntry) (key : String) :
    (t.put e).find? key = if key = e.key then some e else t.find? key := by
  have happ : (t.put e).find? key =
      ((t.drop e.key).find? key).or ([e].find? fun d => d.key == key) :=
    List.find?_append
  rw [happ, find?_drop]
  by_cases h : key = e.key
  · simp [h]
  · simp [h, Ne.symm h]

/-- Room made, and the entry put into it. -/
theorem write_sound {t : CacheTable} (ht : t.Sound) (order : EntryOrder) (now : Nat)
    (e : CacheEntry) : (t.makeRoom order now e.key).1.Sound ∧
      ((t.makeRoom order now e.key).1.put e).Sound := by
  rcases makeRoom_cases ht order now e.key with ⟨h, hroom⟩ | ⟨h, -, hroom⟩ | ⟨v, hv, h⟩
  · rw [h]
    exact ⟨ht, put_sound ht hroom⟩
  · rw [h]
    have hp : (t.purge now).Sound := keep_sound ht _
    exact ⟨hp, put_sound hp (Or.inr hroom)⟩
  · rw [h]
    have hd : (t.drop v.key).Sound := keep_sound ht _
    have hc : ((t.drop v.key).count fun s => { s with evictions := s.evictions + 1 }).Sound :=
      ⟨hd.distinct, hd.size_le, hd.capacity_pos⟩
    refine ⟨hc, put_sound hc (Or.inr ?_)⟩
    have hlt : (t.drop v.key).entries.length < t.entries.length :=
      List.length_filter_lt_length_iff_exists.2 ⟨v, hv.mem, by simp⟩
    exact Nat.lt_of_lt_of_le hlt ht.size_le

/-! ## Removing -/

theorem remove_sound {t : CacheTable} (ht : t.Sound) (p : CacheEntry → Bool) :
    (t.remove p).2.Sound := by
  have hk : (t.keep fun e => !p e).Sound := keep_sound ht _
  exact ⟨hk.distinct, hk.size_le, hk.capacity_pos⟩

/-- A removal by keys removes whole keys. -/
theorem find?_remove_key (t : CacheTable) (q : String → Bool) (key : String) :
    (t.remove fun e => q e.key).2.find? key = if q key then none else t.find? key := by
  have h := find?_keep_key t (fun k => !q k) key
  rw [show (t.remove fun e => q e.key).2.find? key = (t.keep fun e => !q e.key).find? key from rfl,
    h]
  by_cases hq : q key = true <;> simp [hq]

theorem find?_delete (t : CacheTable) (gone key : String) :
    (t.delete gone).2.find? key = if key = gone then none else t.find? key := by
  have h := find?_remove_key t (fun k => k == gone) key
  change (t.remove fun e => e.key == gone).2.find? key = _
  rw [h]
  simp

theorem find?_clearPrefix (t : CacheTable) (start key : String) :
    (t.clearPrefix start).2.find? key = if startsWith key start then none else t.find? key :=
  find?_remove_key t (fun k => startsWith k start) key

theorem find?_clear (t : CacheTable) (key : String) : t.clear.2.find? key = none := by
  change (t.remove fun _ => true).2.find? key = none
  rw [find?_remove_key t (fun _ => true), if_pos rfl]

end CacheTable
end ClusterReads
