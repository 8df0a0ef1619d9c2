import Mathlib.Data.List.Dedup
import Mathlib.Data.List.Forall2
import ClusterReads.Proofs.Keyed
import ClusterReads.Proofs.Latest
import ClusterReads.Record.Sample

/-!
# Sets of tasks

A set of tasks is made of a list in which an identity may come up again and again. Main statement: the set
holds the last task of each identity and no other, in one order only, and two sets are equal exactly if
the last tasks of their lists are equal identity by identity. Tasks are equal as their fields are, so a
task whose amount of processor is no number is not equal to itself.
-/
namespace ClusterReads

/-! ## Records of a list -/

namespace Keyed

variable {α κ : Type} {key : α → κ}

/-- The record has the key, and no record after it in the list has. -/
def LastUnder (key : α → κ) (l : List α) (k : κ) (a : α) : Prop :=
  Latest (fun b => key b = k ∧ b = a) (fun b => key b ≠ k) l

theorem lastUnder_snoc_iff (l : List α) (b : α) (k : κ) (a : α) :
    LastUnder key (l ++ [b]) k a ↔ (key b = k ∧ b = a) ∨ (key b ≠ k ∧ LastUnder key l k a) :=
  latest_snoc_iff l b

theorem LastUnder.mem {l : List α} {k : κ} {a : α} (h : LastUnder key l k a) : a ∈ l ∧ key a = k := by
  obtain ⟨before, b, later, rfl, ⟨hkey, rfl⟩, -⟩ := h
  exact ⟨by simp, hkey⟩

variable [Ord κ] [Std.TransOrd κ] [Std.LawfulEqOrd κ]

/-- What a list leaves under a key is its last record there. -/
theorem get?_ofList_eq_some_iff (l : List α) (k : κ) (a : α) :
    (ofList l : Keyed key).get? k = some a ↔ LastUnder key l k a := by
  induction l using List.reverseRecOn with
  | nil =>
    have hnone : ¬ LastUnder key [] k a := not_latest_nil
    simp [ofList, insertAll, get?_empty, hnone]
  | append_singleton l b ih =>
    have hkey : compare (key b) k = .eq ↔ key b = k := Std.LawfulEqCmp.compare_eq_iff_eq
    rw [ofList_snoc, get?_insert, lastUnder_snoc_iff, ← ih]
    by_cases h : key b = k <;> simp [hkey, h]

/-- A key is held if a record of the list has it. -/
theorem isSome_get?_ofList_iff (l : List α) (k : κ) :
    ((ofList l : Keyed key).get? k).isSome = true ↔ ∃ a ∈ l, key a = k := by
  have hkey : ∀ a : α, compare (key a) k = .eq ↔ key a = k := fun _ => Std.LawfulEqCmp.compare_eq_iff_eq
  rw [ofList, get?_insertAll, get?_empty, Option.or_none, List.find?_isSome]
  simp [hkey]

theorem mem_ofList_iff (l : List α) (a : α) :
    a ∈ (ofList l : Keyed key).toList ↔ LastUnder key l (key a) a := by
  rw [mem_toList_iff, get?_ofList_eq_some_iff]

/-- There are as many records as there are keys. -/
theorem size_ofList [DecidableEq κ] (l : List α) :
    (ofList l : Keyed key).size = (l.map key).dedup.length := by
  have hkeys : ((ofList l : Keyed key).toList.map key).Perm (l.map key).dedup := by
    refine (List.perm_ext_iff_of_nodup (nodup_keys _) (List.nodup_dedup _)).2 fun k => ?_
    rw [List.mem_dedup, mem_keys_iff, isSome_get?_ofList_iff, List.mem_map]
  rw [size, ← hkeys.length_eq, List.length_map]

/-! ## Equality record by record -/

/-- Two collections with the same keys list them in one order. -/
theorem keys_eq_of_isSome_eq {s t : Keyed key} (h : ∀ k, (s.get? k).isSome = (t.get? k).isSome) :
    s.toList.map key = t.toList.map key := by
  have hperm : (s.toList.map key).Perm (t.toList.map key) :=
    (List.perm_ext_iff_of_nodup s.nodup_keys t.nodup_keys).2 fun k => by
      rw [mem_keys_iff, mem_keys_iff, h]
  have hascending : ∀ u : Keyed key, (u.toList.map key).Pairwise fun k k' => compare k k' = .lt :=
    fun u => List.pairwise_map.2 u.ascending
  exact eq_of_ascending (hascending s) (hascending t) hperm

section BEq

variable [BEq α]

theorem list_beq_iff_forall₂ (l l' : List α) :
    (l == l') = true ↔ List.Forall₂ (fun a b => (a == b) = true) l l' := by
  induction l generalizing l' with
  | nil => cases l' <;> simp
  | cons a l ih => cases l' <;> simp [ih]

variable (hkey : ∀ a b : α, (a == b) = true → key a = key b)
include hkey

omit [Std.TransOrd κ] [Std.LawfulEqOrd κ] in
/-- Lists that are equal record by record are searched alike. -/
theorem find?_beq_of_forall₂ {l l' : List α} (h : List.Forall₂ (fun a b => (a == b) = true) l l')
    (k : κ) : ((l.find? fun a => compare (key a) k == .eq) ==
      l'.find? fun a => compare (key a) k == .eq) = true := by
  induction h with
  | nil => rfl
  | @cons a b l l' hab _ ih =>
    rw [List.find?_cons, List.find?_cons, ← hkey a b hab]
    cases compare (key a) k == .eq with
    | true => exact hab
    | false => exact ih

/-- Two collections are equal if under every key they hold equal records, or none. -/
theorem beq_iff_get?_beq (s t : Keyed key) :
    (s == t) = true ↔ ∀ k, (s.get? k == t.get? k) = true := by
  have hlists : (s == t) = true ↔ List.Forall₂ (fun a b => (a == b) = true) s.toList t.toList :=
    list_beq_iff_forall₂ s.toList t.toList
  rw [hlists]
  constructor
  · exact find?_beq_of_forall₂ hkey
  · intro h
    have hkeys : s.toList.map key = t.toList.map key := by
      refine keys_eq_of_isSome_eq fun k => ?_
      have hk := h k
      cases hs : s.get? k <;> cases ht : t.get? k <;> simp [hs, ht] at hk ⊢
    have hsame : List.Forall₂ (fun a b => key a = key b) s.toList t.toList := by
      rw [← List.forall₂_map_right_iff, ← List.forall₂_map_left_iff, List.forall₂_eq_eq_eq]
      exact hkeys
    -- records in one place have one key, and under it each is found in its own collection
    rw [List.forall₂_iff_zip] at hsame ⊢
    refine ⟨hsame.1, fun {a b} hab => ?_⟩
    obtain ⟨ha, hb⟩ := List.of_mem_zip hab
    have hk := h (key a)
    rwa [get?_of_mem ha, hsame.2 hab, get?_of_mem hb] at hk

/-- The last records of two lists are equal under every key. -/
def SameLast (key : α → κ) (l l' : List α) : Prop :=
  ∀ k, (∀ a, LastUnder key l k a → ∃ b, LastUnder key l' k b ∧ (a == b) = true) ∧
    ∀ b, LastUnder key l' k b → ∃ a, LastUnder key l k a ∧ (a == b) = true

omit hkey in
theorem option_beq_iff (o o' : Option α) : (o == o') = true ↔
    (∀ a, o = some a → ∃ b, o' = some b ∧ (a == b) = true) ∧
      ∀ b, o' = some b → ∃ a, o = some a ∧ (a == b) = true := by
  cases o <;> cases o' <;> simp

theorem ofList_beq_iff (l l' : List α) :
    ((ofList l : Keyed key) == ofList l') = true ↔ SameLast key l l' := by
  simp only [beq_iff_get?_beq hkey, option_beq_iff, get?_ofList_eq_some_iff, SameLast]

end BEq

end Keyed

/-! ## Tasks -/

/-- A double is equal to itself unless it is no number. -/
theorem Decimal.beq_self {x : Float} (h : x.isNaN = false) : (x == x) = true := by
  change (x.toModel.unpack.compare x.toModel.unpack == some .eq) = true
  have hunpacked : x.toModel.unpack.isNaN = false := h
  cases hx : x.toModel.unpack with
  | notANumber =>
    rw [hx] at hunpacked
    cases hunpacked
  | infinity s => cases s <;> rfl
  | zero s => rfl
  | finite s m e hm =>
    have hsize : (compare e e).then (compare m m) = .eq := by
      rw [Std.ReflOrd.compare_self, Std.ReflOrd.compare_self]
      rfl
    cases s with
    | positive =>
      change (some ((compare e e).then (compare m m)) == some .eq) = true
      rw [hsize]
      rfl
    | negative =>
      change (some ((compare e e).then (compare m m)).swap == some .eq) = true
      rw [hsize]
      rfl

theorem TaskConfig.beq_self {t : TaskConfig} (h : t.numCpus.isNaN = false) : (t == t) = true := by
  have hcpus : (t.numCpus == t.numCpus) = true := Decimal.beq_self h
  obtain ⟨_, _, _, _, _, _, _, _, _, _, _⟩ := t
  unfold BEq.beq instBEqTaskConfig instBEqTaskConfig.beq
  simp only [beq_self_eq_true, hcpus, Bool.and_self]

theorem AssignedTask.beq_self {t : AssignedTask} (h : (t.task == t.task) = true) : (t == t) = true := by
  have hports : (t.assignedPorts == t.assignedPorts) = true := beq_self_eq_true t.assignedPorts.toList
  obtain ⟨_, _, _, _, _, _⟩ := t
  unfold BEq.beq instBEqAssignedTask instBEqAssignedTask.beq
  simp only [beq_self_eq_true, hports, h, Bool.and_self]

namespace ScheduledTask

/-- The amount of processor that the task takes is a number. -/
def Measured (t : ScheduledTask) : Prop :=
  t.assigned.task.numCpus.isNaN = false

theorem Measured.beq_self {t : ScheduledTask} (h : t.Measured) : (t == t) = true := by
  have hassigned : (t.assigned == t.assigned) = true := AssignedTask.beq_self (TaskConfig.beq_self h)
  obtain ⟨_, _, _, _, _⟩ := t
  unfold BEq.beq instBEqScheduledTask instBEqScheduledTask.beq
  simp only [beq_self_eq_true, hassigned, Bool.and_self]

/-- Tasks that are equal have one identity. -/
theorem taskId_eq_of_beq (t u : ScheduledTask) (h : (t == u) = true) : t.taskId = u.taskId := by
  obtain ⟨⟨id, _, _, _, _, _⟩, _, _, _, _⟩ := t
  obtain ⟨⟨id', _, _, _, _, _⟩, _, _, _, _⟩ := u
  change (((id == id' && _) && _) : Bool) = true at h
  rw [Bool.and_eq_true, Bool.and_eq_true] at h
  exact eq_of_beq h.1.1

end ScheduledTask

namespace TaskSet

/-- The task is the last of a list with an identity. -/
abbrev LastOf (l : List ScheduledTask) (id : String) (t : ScheduledTask) : Prop :=
  Keyed.LastUnder ScheduledTask.taskId l id t

/-- By their identities, one after another. -/
abbrev Ascending (tasks : List ScheduledTask) : Prop :=
  tasks.Pairwise fun t u => t.taskId < u.taskId

theorem ascending_iff (tasks : List ScheduledTask) :
    Ascending tasks ↔ tasks.Pairwise fun t u => compare t.taskId u.taskId = .lt := by
  have hlt : ∀ a b : String, a < b ↔ compare a b = .lt := fun a b => compareOfLessAndEq_eq_lt.symm
  simp only [Ascending, hlt]

/-- What a set is that was made of a list: a map to the last task of each identity. -/
structure LastWins (l : List ScheduledTask) (s : TaskSet) : Prop where
  get?_iff : ∀ id t, s.get? id = some t ↔ LastOf l id t
  get?_eq_none_iff : ∀ id, s.get? id = none ↔ ∀ t ∈ l, t.taskId ≠ id
  contains_iff : ∀ id, s.contains id = true ↔ ∃ t ∈ l, t.taskId = id
  size_eq : s.size = (l.map ScheduledTask.taskId).dedup.length
  ascending : Ascending s.toList
  mem_iff : ∀ t, t ∈ s.toList ↔ LastOf l t.taskId t
  /-- No other list has the last tasks in their order. -/
  eq_toList : ∀ tasks, Ascending tasks → (∀ t, t ∈ tasks ↔ LastOf l t.taskId t) → tasks = s.toList

theorem lastWins_ofList (l : List ScheduledTask) : LastWins l (.ofList l) where
  get?_iff := Keyed.get?_ofList_eq_some_iff l
  get?_eq_none_iff id := by
    rw [← Option.not_isSome_iff_eq_none, Keyed.isSome_get?_ofList_iff]
    simp
  contains_iff := Keyed.isSome_get?_ofList_iff l
  size_eq := Keyed.size_ofList l
  ascending := (ascending_iff _).2 (Keyed.ascending _)
  mem_iff := Keyed.mem_ofList_iff l
  eq_toList := by
    intro tasks hascending hmem
    let other : TaskSet := ⟨tasks, (ascending_iff tasks).1 hascending⟩
    have hother : other = .ofList l := Keyed.ext_mem fun t => by
      rw [Keyed.mem_ofList_iff]
      exact hmem t
    exact congrArg Keyed.toList hother

theorem beq_self {s : TaskSet} (h : ∀ t ∈ s.toList, t.Measured) : (s == s) = true :=
  (Keyed.list_beq_iff_forall₂ s.toList s.toList).2
    (List.forall₂_same.2 fun t ht => (h t ht).beq_self)

/-- A list of tasks makes the map of its last tasks. The list of that map makes an equal one, if no amount
of processor fails to be a number. Two lists make equal sets exactly if their last tasks are equal, identity
by identity, and one and the same set exactly if those are the same. -/
theorem ofList_canonical (l : List ScheduledTask) :
    LastWins l (.ofList l) ∧
    ((∀ t ∈ l, t.Measured) →
      ((.ofList (Keyed.ofList l : TaskSet).toList : TaskSet) == .ofList l) = true) ∧
    ∀ l' : List ScheduledTask,
      (((.ofList l : TaskSet) == .ofList l') = true ↔ Keyed.SameLast ScheduledTask.taskId l l') ∧
      ((.ofList l : TaskSet) = .ofList l' ↔ ∀ id t, LastOf l id t ↔ LastOf l' id t) := by
  have hlast := lastWins_ofList l
  refine ⟨hlast, fun hmeasured => ?_, fun l' => ⟨?_, ?_⟩⟩
  · rw [Keyed.ofList_toList]
    refine beq_self fun t ht => hmeasured t ?_
    exact ((hlast.mem_iff t).1 ht).mem.1
  · exact Keyed.ofList_beq_iff ScheduledTask.taskId_eq_of_beq l l'
  · constructor
    · intro h id t
      rw [← hlast.get?_iff, h, (lastWins_ofList l').get?_iff]
    · intro h
      refine Keyed.ext_get? fun id => Option.ext fun t => ?_
      rw [hlast.get?_iff, h, (lastWins_ofList l').get?_iff]

/-- A task is listed as pending and later as running: the set is that of a list which has it as running
only. -/
theorem ofList_canonical_of_repeated_identity :
    let job : JobKey := ⟨"www-data", "prod", "hello"⟩
    let pending := ScheduledTask.sample "t1" job
    let running := pending.withStatus .running .epoch
    let other := ScheduledTask.sample "t2" job
    let set : TaskSet := .ofList [pending, other, running]
    (∀ t ∈ [pending, other, running], t.Measured) ∧ set.get? "t1" = some running ∧
      set.contains "t3" = false ∧ set.size = 2 ∧ ((.ofList set.toList : TaskSet) == set) = true ∧
      (set == .ofList [running, other]) = true := by
  intro job pending running other set
  obtain ⟨hlast, hrebuilt, hequal⟩ := ofList_canonical [pending, other, running]
  have hmeasured : ∀ t ∈ [pending, other, running], t.Measured := by
    have hone : (1 : Float).isNaN = false := by decide +kernel
    simp only [List.forall_mem_cons]
    exact ⟨hone, hone, hone, by simp⟩
  have hrunning : LastOf [pending, other, running] "t1" running :=
    ⟨[pending, other], running, [], rfl, ⟨rfl, rfl⟩, by simp⟩
  have hsame : ∀ id t, LastOf ([] ++ [pending] ++ [other] ++ [running]) id t ↔
      LastOf ([] ++ [running] ++ [other]) id t := by
    intro id t
    have hids : pending.taskId = "t1" ∧ running.taskId = "t1" ∧ other.taskId = "t2" := ⟨rfl, rfl, rfl⟩
    simp only [LastOf, Keyed.lastUnder_snoc_iff, hids]
    by_cases hid : "t1" = id
    · subst hid
      simp
    · simp [hid]
  refine ⟨hmeasured, (hlast.get?_iff _ _).2 hrunning, ?_, hlast.size_eq.trans rfl, hrebuilt hmeasured, ?_⟩
  · rw [← Bool.not_eq_true, hlast.contains_iff]
    simp only [List.mem_cons, List.not_mem_nil, or_false, exists_eq_or_imp, exists_eq_left]
    decide
  · refine (hequal [running, other]).1.2 fun id => ⟨fun t ht => ?_, fun t ht => ?_⟩
    · exact ⟨t, (hsame id t).1 ht, (hmeasured t ht.mem.1).beq_self⟩
    · have hlong := (hsame id t).2 ht
      exact ⟨t, hlong, (hmeasured t hlong.mem.1).beq_self⟩

end TaskSet
end ClusterReads
