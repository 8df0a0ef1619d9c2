import ClusterReads.Keyed

/-!
# Laws of keyed collections

Main statements: a keyed collection is built again from its list of records; what was written last
under a key is found there, and nothing else is changed.
-/
namespace ClusterReads
namespace Keyed

variable {α κ : Type} [Ord κ] [Std.TransOrd κ] {key : α → κ}

/-- A record with the largest key goes to the end. -/
theorem place_eq_append {a : α} {l : List α} (h : ∀ b ∈ l, compare (key b) (key a) = .lt) :
    place key a l = l ++ [a] := by
  induction l with
  | nil => rfl
  | cons b rest ih =>
    have hgt : compare (key a) (key b) = .gt :=
      Std.OrientedCmp.gt_of_lt (h b List.mem_cons_self)
    rw [place, hgt]
    simp only [ih fun c hc => h c (List.mem_cons_of_mem b hc), List.cons_append]

theorem insertAll_toList (s : Keyed key) (l : List α)
    (h : (s.toList ++ l).Pairwise fun a b => compare (key a) (key b) = .lt) :
    (s.insertAll l).toList = s.toList ++ l := by
  induction l generalizing s with
  | nil => simp [insertAll]
  | cons a rest ih =>
    have hlast : ∀ b ∈ s.toList, compare (key b) (key a) = .lt := by
      intro b hb
      exact (List.pairwise_append.1 h).2.2 b hb a List.mem_cons_self
    have hinsert : (s.insert a).toList = s.toList ++ [a] := by
      rw [toList_insert, place_eq_append hlast]
    have hrest := ih (s.insert a) (by rwa [hinsert, List.append_assoc])
    change ((s.insert a).insertAll rest).toList = _
    rw [hrest, hinsert, List.append_assoc, List.singleton_append]

/-- A list in ascending order is the list of its collection. -/
theorem toList_ofList {l : List α} (h : l.Pairwise fun a b => compare (key a) (key b) = .lt) :
    (ofList l : Keyed key).toList = l := by
  have h' := insertAll_toList (empty : Keyed key) l (by rwa [toList_empty, List.nil_append])
  rwa [toList_empty, List.nil_append] at h'

@[simp] theorem ofList_toList (s : Keyed key) : ofList s.toList = s :=
  ext (toList_ofList s.ascending)

theorem ofList_snoc (l : List α) (a : α) : (ofList (l ++ [a]) : Keyed key) = (ofList l).insert a := by
  rw [ofList, ofList, insertAll, insertAll, List.foldl_append, List.foldl_cons, List.foldl_nil]

/-- Records that are placed before or over others hide none of another key. -/
theorem find?_place (a : α) (l : List α) (k : κ) :
    (place key a l).find? (fun b => compare (key b) k == .eq) =
      if compare (key a) k = .eq then some a else l.find? fun b => compare (key b) k == .eq := by
  induction l with
  | nil =>
    by_cases h : compare (key a) k = .eq <;> simp [place, h]
  | cons b rest ih =>
    unfold place
    split
    · by_cases h : compare (key a) k = .eq <;> simp [h]
    · next hab =>
      -- the record replaced stood under the same key
      have hsame : compare (key b) k = compare (key a) k := (Std.TransCmp.congr_left hab).symm
      by_cases h : compare (key a) k = .eq <;> simp [h, hsame]
    · next hab =>
      by_cases hb : compare (key b) k = .eq
      · have hne : compare (key a) k ≠ .eq := by
          intro ha
          have hboth : compare (key a) (key b) = .eq :=
            Std.TransCmp.eq_trans ha (Std.OrientedCmp.eq_symm hb)
          rw [hab] at hboth
          cases hboth
        simp [hb, hne]
      · simpa [hb] using ih

theorem get?_insert (s : Keyed key) (a : α) (k : κ) :
    (s.insert a).get? k = if compare (key a) k = .eq then some a else s.get? k :=
  find?_place a s.toList k

/-- Dropping the record of one key hides none of another. -/
theorem get?_erase (s : Keyed key) (k k' : κ) :
    (s.erase k).get? k' = if compare k k' = .eq then none else s.get? k' := by
  unfold erase get? filter
  simp only [List.find?_filter]
  by_cases h : compare k k' = .eq
  · rw [if_pos h]
    apply List.find?_eq_none.2
    intro a _ ha
    simp only [bne_iff_ne, beq_iff_eq, ne_eq, decide_eq_true_eq] at ha
    exact ha.1 (Std.TransCmp.eq_trans ha.2 (Std.OrientedCmp.eq_symm h))
  · rw [if_neg h]
    congr 1
    funext a
    by_cases ha : compare (key a) k' = .eq
    · have hne : compare (key a) k ≠ .eq := by
        intro hak
        exact h (Std.TransCmp.eq_trans (Std.OrientedCmp.eq_symm hak) ha)
      simp [ha, hne]
    · simp [ha]

omit [Std.TransOrd κ] in
theorem contains_iff_exists (s : Keyed key) (k : κ) :
    s.contains k = true ↔ ∃ a, s.get? k = some a := by
  rw [contains, Option.isSome_iff_exists]

/-- Of the records written in turn the last one under a key is found there. -/
theorem get?_insertAll (s : Keyed key) (l : List α) (k : κ) :
    (s.insertAll l).get? k =
      (l.reverse.find? fun a => compare (key a) k == .eq).or (s.get? k) := by
  induction l generalizing s with
  | nil => simp [insertAll]
  | cons a l ih =>
    have hstep : (s.insertAll (a :: l)).get? k = ((s.insert a).insertAll l).get? k := rfl
    rw [hstep, ih, get?_insert, List.reverse_cons, List.find?_append]
    by_cases h : compare (key a) k = .eq
    · simp [h]
    · simp [h]

section Lawful

omit [Std.TransOrd κ]

/-- No key is listed twice. -/
theorem nodup_keys [Std.ReflOrd κ] (s : Keyed key) : (s.toList.map key).Nodup := by
  rw [List.Nodup, List.pairwise_map]
  refine s.ascending.imp fun hlt heq => ?_
  rw [heq, Std.ReflOrd.compare_self] at hlt
  cases hlt

theorem nodup [Std.ReflOrd κ] (s : Keyed key) : s.toList.Nodup :=
  List.Pairwise.of_map key (fun _ _ hne heq => hne (congrArg key heq)) s.nodup_keys

theorem mem_of_get? {s : Keyed key} {k : κ} {a : α} (h : s.get? k = some a) : a ∈ s.toList :=
  List.mem_of_find?_eq_some h

variable [Std.LawfulEqOrd κ]

theorem key_of_get? {s : Keyed key} {k : κ} {a : α} (h : s.get? k = some a) : key a = k := by
  have hk := List.find?_some h
  exact Std.LawfulEqOrd.eq_of_compare (by simpa using hk)

/-- A record that is listed is found under its key: no other record has that key. -/
theorem get?_of_mem {s : Keyed key} {a : α} (h : a ∈ s.toList) : s.get? (key a) = some a := by
  obtain ⟨l, hl⟩ := s
  induction l with
  | nil => cases h
  | cons b l ih =>
    have hbl := List.pairwise_cons.1 hl
    rcases List.mem_cons.1 h with rfl | hmem
    · simp [get?, Std.ReflCmp.compare_self]
    · have hne : (compare (key b) (key a) == .eq) = false := by simp [hbl.1 a hmem]
      have hrest := ih hbl.2 hmem
      simpa [get?, List.find?_cons, hne] using hrest

theorem mem_toList_iff (s : Keyed key) (a : α) : a ∈ s.toList ↔ s.get? (key a) = some a :=
  ⟨get?_of_mem, mem_of_get?⟩

theorem get?_eq_some_iff (s : Keyed key) (k : κ) (a : α) :
    s.get? k = some a ↔ a ∈ s.toList ∧ key a = k := by
  constructor
  · intro h
    exact ⟨mem_of_get? h, key_of_get? h⟩
  · rintro ⟨h, rfl⟩
    exact get?_of_mem h

theorem mem_keys_iff (s : Keyed key) (k : κ) :
    k ∈ s.toList.map key ↔ (s.get? k).isSome = true := by
  simp only [List.mem_map, Option.isSome_iff_exists, get?_eq_some_iff]

/-- A record is found among those that pass a test if it is found and passes. -/
theorem get?_filter (s : Keyed key) (p : α → Bool) (k : κ) :
    (s.filter p).get? k = (s.get? k).filter p := by
  ext a
  simp only [get?_eq_some_iff, toList_filter, List.mem_filter, Option.filter_eq_some_iff]
  exact and_right_comm

omit [Std.LawfulEqOrd κ] in
/-- The order of their keys leaves no choice how to list records. -/
theorem eq_of_ascending [Std.OrientedOrd κ] {l l' : List α}
    (hl : l.Pairwise fun a b => compare (key a) (key b) = .lt)
    (hl' : l'.Pairwise fun a b => compare (key a) (key b) = .lt) (h : l.Perm l') : l = l' := by
  refine h.eq_of_pairwise (fun a b _ _ hab hba => ?_) hl hl'
  rw [Std.OrientedCmp.gt_of_lt hab] at hba
  cases hba

/-- Two collections that list the same records are equal. -/
theorem ext_mem [Std.OrientedOrd κ] {s t : Keyed key} (h : ∀ a, a ∈ s.toList ↔ a ∈ t.toList) : s = t :=
  ext (eq_of_ascending s.ascending t.ascending ((List.perm_ext_iff_of_nodup s.nodup t.nodup).2 h))

/-- Two collections in which the same is found under every key are equal. -/
theorem ext_get? [Std.OrientedOrd κ] {s t : Keyed key} (h : ∀ k, s.get? k = t.get? k) : s = t := by
  refine ext_mem fun a => ?_
  rw [mem_toList_iff, mem_toList_iff, h]

/-- What is listed is what is found under some key. -/
theorem mem_toList_iff_exists (s : Keyed key) (a : α) : a ∈ s.toList ↔ ∃ k, s.get? k = some a :=
  ⟨fun h => ⟨key a, get?_of_mem h⟩, fun ⟨_, h⟩ => mem_of_get? h⟩

end Lawful

end Keyed

theorem SortedSet.mem_ofList {α : Type} [Ord α] [Std.TransOrd α] [Std.LawfulEqOrd α] (l : List α)
    (a : α) : a ∈ (Keyed.ofList l : SortedSet α).toList ↔ a ∈ l := by
  rw [Keyed.mem_toList_iff, Keyed.ofList, Keyed.get?_insertAll, Keyed.get?_empty, Option.or_none]
  constructor
  · intro h
    exact List.mem_reverse.1 (List.mem_of_find?_eq_some h)
  · intro h
    cases hfind : l.reverse.find? fun b => compare (id b) (id a) == .eq with
    | none => simpa [Std.ReflCmp.compare_self] using List.find?_eq_none.1 hfind a (List.mem_reverse.2 h)
    | some b =>
      have hb := List.find?_some hfind
      simp only [id_eq, beq_iff_eq, Std.LawfulEqCmp.compare_eq_iff_eq] at hb
      rw [hb]

theorem SortedSet.contains_iff_mem {α : Type} [Ord α] [Std.TransOrd α] [Std.LawfulEqOrd α]
    (s : SortedSet α) (a : α) : s.contains a = true ↔ a ∈ s.toList := by
  rw [Keyed.contains_iff_exists]
  constructor
  · rintro ⟨b, hb⟩
    obtain rfl : b = a := Keyed.key_of_get? hb
    exact Keyed.mem_of_get? hb
  · intro h
    exact ⟨a, Keyed.get?_of_mem h⟩

theorem SortedSet.mem_insert {α : Type} [Ord α] [Std.TransOrd α] [Std.LawfulEqOrd α]
    (s : SortedSet α) (a b : α) : b ∈ (s.insert a).toList ↔ b = a ∨ b ∈ s.toList := by
  have hkey : compare a b = .eq ↔ a = b := Std.LawfulEqCmp.compare_eq_iff_eq
  rw [Keyed.mem_toList_iff, Keyed.get?_insert, Keyed.mem_toList_iff]
  by_cases h : a = b
  · simp [h]
  · simp [hkey, h, Ne.symm h]

theorem SortedMap.lookup?_erase {κ ν : Type} [DecidableEq κ] [Ord κ] [Std.TransOrd κ]
    [Std.LawfulEqOrd κ] (m : SortedMap κ ν) (k k' : κ) :
    lookup? (m.erase k) k' = if k = k' then none else m.lookup? k' := by
  have hkey : compare k k' = .eq ↔ k = k' := Std.LawfulEqCmp.compare_eq_iff_eq
  unfold lookup?
  rw [Keyed.get?_erase]
  by_cases h : k = k' <;> simp [hkey, h]

theorem SortedMap.mem_toList_iff {κ ν : Type} [Ord κ] [Std.TransOrd κ] [Std.LawfulEqOrd κ]
    (m : SortedMap κ ν) (k : κ) (v : ν) : (k, v) ∈ m.toList ↔ m.lookup? k = some v := by
  rw [Keyed.mem_toList_iff, lookup?]
  constructor
  · intro h
    rw [h, Option.map_some]
  · intro h
    obtain ⟨⟨k', v'⟩, hget, rfl⟩ := Option.map_eq_some_iff.1 h
    obtain rfl : k' = k := Keyed.key_of_get? hget
    exact hget

theorem SortedMap.lookup?_put {κ ν : Type} [DecidableEq κ] [Ord κ] [Std.TransOrd κ]
    [Std.LawfulEqOrd κ] (m : SortedMap κ ν) (k k' : κ) (v : ν) :
    (m.put k v).lookup? k' = if k = k' then some v else m.lookup? k' := by
  have hkey : compare k k' = .eq ↔ k = k' := Std.LawfulEqCmp.compare_eq_iff_eq
  unfold lookup? put
  rw [Keyed.get?_insert]
  by_cases h : k = k' <;> simp [hkey, h]

end ClusterReads
