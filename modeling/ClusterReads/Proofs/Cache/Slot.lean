import ClusterReads.Cache.Slot
import ClusterReads.Proofs.Cache.Table
import ClusterReads.Proofs.Record.Codec
import ClusterReads.Proofs.Text.Mark

/-!
# Cache slots

Where an answer is kept says whose answer it is, and what is kept says what it was. Main statements:
two calls with one key are one call; an answer that is read back from what was kept is the answer
itself exactly when its doubles are read back as themselves.
-/
namespace ClusterReads

/-! ## Keys -/

namespace CacheFamily

/-- What a key has after what all keys of a family begin with says the rest: no family has a colon in its
name. -/
theorem start_append_inj (f g : CacheFamily) (a b : String) :
    f.start ++ a = g.start ++ b ↔ f = g ∧ a = b := by
  have hname : f.name.toList = g.name.toList ↔ f = g := by
    cases f <;> cases g <;> decide
  have hcolon (f : CacheFamily) : ':' ∉ f.name.toList := by
    cases f <;> decide
  have hstart (f : CacheFamily) (a : String) :
      (f.start ++ a).toList = f.name.toList ++ ':' :: a.toList := by
    simp [start]
  rw [← String.toList_inj, hstart, hstart, Text.append_mark_inj_of_left (hcolon f) (hcolon g), hname,
    String.toList_inj]

theorem keyOf_eq (f : CacheFamily) (id : String) : f.keyOf id = f.start ++ ("key:" ++ id) := by
  simp [keyOf, start, ← String.toList_inj]

theorem allKey_eq (f : CacheFamily) : f.allKey = f.start ++ "all" := by
  simp [allKey, start, ← String.toList_inj]

theorem frameworkIdKey_eq : frameworkIdKey = frameworkId.start ++ "current" := by
  decide

/-- The keys that begin as those of a family do are the keys of this family. -/
theorem startsWith_start_append_iff (f g : CacheFamily) (rest : String) :
    CacheTable.startsWith (g.start ++ rest) f.start = true ↔ f = g := by
  rw [CacheTable.startsWith, List.isPrefixOf_iff_prefix, String.toList_append]
  constructor
  · rintro ⟨more, h⟩
    have htext : f.start ++ String.ofList more = g.start ++ rest := by
      rw [← String.toList_inj, String.toList_append, String.toList_append, String.toList_ofList, h]
    exact ((start_append_inj f g _ _).1 htext).1
  · rintro rfl
    exact List.prefix_append _ _

@[simp] theorem keyOf_inj (f g : CacheFamily) (a b : String) :
    f.keyOf a = g.keyOf b ↔ f = g ∧ a = b := by
  rw [keyOf_eq, keyOf_eq, start_append_inj, String.append_right_inj]

@[simp] theorem allKey_inj (f g : CacheFamily) : f.allKey = g.allKey ↔ f = g := by
  rw [allKey_eq, allKey_eq, start_append_inj, and_iff_left rfl]

/-- What is after the start of a single record's key has a mark that is nowhere else. -/
theorem key_append_ne (id : String) : "key:" ++ id ≠ "all" ∧ "key:" ++ id ≠ "current" := by
  simp [← String.toList_inj]

@[simp] theorem keyOf_ne_allKey (f g : CacheFamily) (id : String) : f.keyOf id ≠ g.allKey := by
  rw [keyOf_eq, allKey_eq, ne_eq, start_append_inj]
  exact fun h => (key_append_ne id).1 h.2

@[simp] theorem keyOf_ne_frameworkIdKey (f : CacheFamily)
    (id : String) : f.keyOf id ≠ frameworkIdKey := by
  rw [keyOf_eq, frameworkIdKey_eq, ne_eq, start_append_inj]
  exact fun h => (key_append_ne id).2 h.2

@[simp] theorem allKey_ne_frameworkIdKey (f : CacheFamily) : f.allKey ≠ frameworkIdKey := by
  rw [allKey_eq, frameworkIdKey_eq, ne_eq, start_append_inj]
  exact fun h => absurd h.2 (by decide)

@[simp] theorem allKey_ne_keyOf (f g : CacheFamily) (id : String) : g.allKey ≠ f.keyOf id :=
  (keyOf_ne_allKey f g id).symm

@[simp] theorem frameworkIdKey_ne_keyOf (f : CacheFamily)
    (id : String) : frameworkIdKey ≠ f.keyOf id :=
  (keyOf_ne_frameworkIdKey f id).symm

@[simp] theorem frameworkIdKey_ne_allKey (f : CacheFamily) : frameworkIdKey ≠ f.allKey :=
  (allKey_ne_frameworkIdKey f).symm

end CacheFamily

namespace Call

/-- The key under which the answer of a cached call is kept. -/
def key? (c : Call) : Option String :=
  c.slot?.map CacheSlot.key

theorem key?_of_slot? {c : Call} {slot : CacheSlot c.Answer} (h : c.slot? = some slot) :
    c.key? = some slot.key := by
  rw [key?, h, Option.map_some]

/-- Calls with one key are one call. -/
theorem key?_injective {c d : Call} {key : String} (hc : c.key? = some key)
    (hd : d.key? = some key) :
    c = d := by
  cases c <;> cases hc <;> cases d <;>
    simp [key?, slot?, CacheSlot.lookup, CacheSlot.always] at hd ⊢
  all_goals exact hd.symm

/-- Slots with one key are the slot of one call. -/
theorem slot_injective {c d : Call} {slot : CacheSlot c.Answer} {slot' : CacheSlot d.Answer}
    (hc : c.slot? = some slot) (hd : d.slot? = some slot') (hkey : slot'.key = slot.key) :
    (⟨d, slot'⟩ : Σ c : Call, CacheSlot c.Answer) = ⟨c, slot⟩ := by
  obtain rfl : d = c := by
    refine key?_injective (key?_of_slot? hd) ?_
    rw [hkey]
    exact key?_of_slot? hc
  obtain rfl : slot' = slot := Option.some.inj (hd.symm.trans hc)
  rfl

/-- The family of records that a cached call reads. -/
def family? : Call → Option CacheFamily
  | .frameworkId => some .frameworkId
  | .quotas | .quota _ => some .quota
  | .hosts | .host _ => some .host
  | .deploys | .deploy _ => some .deploy
  | .jobs _ | .job _ _ | .managerIds | .tasks _ | .locks | .lock _ => none

/-- A key begins as the keys of its family do. -/
theorem exists_family {c : Call} {key : String} (h : c.key? = some key) :
    ∃ f rest, c.family? = some f ∧ key = f.start ++ rest := by
  cases c <;> cases h
  · exact ⟨.frameworkId, _, rfl, CacheFamily.frameworkIdKey_eq⟩
  · exact ⟨.quota, _, rfl, CacheFamily.allKey_eq _⟩
  · exact ⟨.quota, _, rfl, CacheFamily.keyOf_eq _ _⟩
  · exact ⟨.host, _, rfl, CacheFamily.keyOf_eq _ _⟩
  · exact ⟨.host, _, rfl, CacheFamily.allKey_eq _⟩
  · exact ⟨.deploy, _, rfl, CacheFamily.allKey_eq _⟩
  · exact ⟨.deploy, _, rfl, CacheFamily.keyOf_eq _ _⟩

/-- The keys of a family are those that begin as its keys do. -/
theorem startsWith_key_iff {c : Call} {key : String} (h : c.key? = some key) (f : CacheFamily) :
    CacheTable.startsWith key f.start = true ↔ c.family? = some f := by
  obtain ⟨g, rest, hg, rfl⟩ := exists_family h
  rw [CacheFamily.startsWith_start_append_iff, hg, Option.some.injEq, eq_comm]

/-- The operations whose calls are cached. -/
def cachedOperations : List Operation :=
  [.fetchFrameworkId, .fetchQuotas, .fetchQuota, .getAllHostAttributes, .getHostAttributes, .getDeploys,
    .getDeploy]

theorem slot?_isSome_iff (c : Call) : c.slot?.isSome = true ↔ c.operation ∈ cachedOperations := by
  cases c <;> simp [slot?, operation, cachedOperations]

/-- The argument of a cached call is the text of its subject. -/
theorem eq_of_cached {c d : Call} (hc : c.slot?.isSome = true) (hoperation : c.operation = d.operation)
    (hsubject : c.subject? = d.subject?) : c = d := by
  cases c with
  | jobs | job | managerIds | tasks | locks | lock => cases hc
  | frameworkId | quotas | quota | host | hosts | deploys | deploy =>
    cases d <;> cases hoperation
    cases hsubject
    rfl

/-- The calls of seven operations are cached. Two of them have one key exactly if they are one call, which
is to say that they are of one operation and have one argument. Whatever the identifier of a record says,
the key of the record is not that of all records of a family, nor that of a record of another family, nor
that of the framework's identity. -/
theorem slot_keys_apart :
    (∀ c : Call, c.slot?.isSome = true ↔ c.operation ∈ cachedOperations) ∧
    (∀ (c d : Call) (slot : CacheSlot c.Answer) (slot' : CacheSlot d.Answer), c.slot? = some slot →
      d.slot? = some slot' → (slot.key = slot'.key ↔ c = d) ∧
        (c = d ↔ c.operation = d.operation ∧ c.subject? = d.subject?)) ∧
    ∀ (f : CacheFamily) (id : String), (∀ g : CacheFamily, f.keyOf id ≠ g.allKey) ∧
      (∀ (g : CacheFamily) (other : String), g ≠ f → f.keyOf id ≠ g.keyOf other) ∧
      f.keyOf id ≠ frameworkIdKey := by
  refine ⟨slot?_isSome_iff, fun c d slot slot' hc hd => ⟨⟨fun hkey => ?_, fun hcall => ?_⟩,
    ⟨fun hcall => ?_, fun hcall => ?_⟩⟩, fun f id => ?_⟩
  · cases slot_injective hd hc hkey
    rfl
  · subst hcall
    rw [Option.some.inj (hc.symm.trans hd)]
  · rw [hcall]
    exact ⟨rfl, rfl⟩
  · exact eq_of_cached (by rw [hc]; rfl) hcall.1 hcall.2
  · refine ⟨fun g => f.keyOf_ne_allKey g id, fun g other hne => ?_, f.keyOf_ne_frameworkIdKey id⟩
    rw [ne_eq, CacheFamily.keyOf_inj]
    exact fun h => hne h.1.symm

/-- A role that is named like the end of the key of all quotas, a host that is named like the key of a
quota, and a deploy that is named like the key of the framework's identity. -/
theorem slot_keys_apart_of_imitating_names :
    (∃ slot slot', (Call.quota ":all").slot? = some slot ∧ Call.quotas.slot? = some slot' ∧
      slot.key ≠ slot'.key) ∧
    (∃ slot slot', (Call.host "quota:key:r").slot? = some slot ∧ (Call.quota "r").slot? = some slot' ∧
      slot.key ≠ slot'.key) ∧
    ∃ slot slot', (Call.deploy "framework_id:current").slot? = some slot ∧
      Call.frameworkId.slot? = some slot' ∧ slot.key ≠ slot'.key := by
  obtain ⟨-, hkeys, -⟩ := slot_keys_apart
  refine ⟨⟨_, _, rfl, rfl, fun h => ?_⟩, ⟨_, _, rfl, rfl, fun h => ?_⟩, ⟨_, _, rfl, rfl, fun h => ?_⟩⟩
  · exact absurd ((hkeys (.quota ":all") .quotas _ _ rfl rfl).1.1 h) (by decide)
  · exact absurd ((hkeys (.host "quota:key:r") (.quota "r") _ _ rfl rfl).1.1 h) (by decide)
  · exact absurd ((hkeys (.deploy "framework_id:current") .frameworkId _ _ rfl rfl).1.1 h) (by decide)

end Call

/-! ## Values -/

section MapM

variable {α β : Type}

theorem mapM_isSome_iff {f : α → Option β} {l : List α} :
    (l.mapM f).isSome = true ↔ ∀ a ∈ l, (f a).isSome = true := by
  induction l with
  | nil => simp
  | cons a l ih =>
    rw [List.forall_mem_cons, ← ih, List.mapM_cons]
    cases f a with
    | none => simp
    | some b => cases l.mapM f <;> simp

theorem mapM_eq_some_self_iff {f : α → Option α} {l : List α} :
    l.mapM f = some l ↔ ∀ a ∈ l, f a = some a := by
  induction l with
  | nil => simp
  | cons a l ih =>
    rw [List.forall_mem_cons, ← ih, List.mapM_cons]
    cases f a with
    | none => simp
    | some b => cases l.mapM f <;> simp

/-- Values that are replaced one by one stay under their names. -/
theorem map_fst_of_mapM {f : α → Option α} {l k : List (String × α)}
    (h : (l.mapM fun e => (f e.2).map fun a => (e.1, a)) = some k) :
    k.map Prod.fst = l.map Prod.fst := by
  induction l generalizing k with
  | nil =>
    cases h
    rfl
  | cons e l ih =>
    rw [List.mapM_cons] at h
    cases hf : f e.2 with
    | none =>
      rw [hf] at h
      cases h
    | some a =>
      cases hl : l.mapM fun e => (f e.2).map fun a => (e.1, a) with
      | none =>
        rw [hf, hl] at h
        cases h
      | some k =>
        rw [hf, hl] at h
        cases h
        rw [List.map_cons, List.map_cons, ih hl]

end MapM

theorem Resources.reread?_isSome_iff (r : Resources) :
    r.reread?.isSome = true ↔ (Decimal.reread? r.numCpus).isSome = true := by
  rw [Resources.reread?, Option.isSome_map]

theorem Resources.reread?_eq_some_self_iff (r : Resources) :
    r.reread? = some r ↔ Decimal.reread? r.numCpus = some r.numCpus := by
  obtain ⟨numCpus, ramMb, diskMb⟩ := r
  simp [Resources.reread?]

/-- The quota that is read back under a role, if one is. -/
def Resources.rereadOf? (e : String × Resources) : Option (String × Resources) :=
  e.2.reread?.map fun r => (e.1, r)

theorem Resources.rereadOf?_eq_some_self_iff (e : String × Resources) :
    Resources.rereadOf? e = some e ↔ Decimal.reread? e.2.numCpus = some e.2.numCpus := by
  rw [← Resources.reread?_eq_some_self_iff, Resources.rereadOf?]
  obtain ⟨role, r⟩ := e
  cases r.reread? <;> simp

namespace Call

/-- The answer that is read back for an answer that was kept, if one is. -/
def reread? : (c : Call) → c.Answer → Option c.Answer
  | .quota _, a => a.elim (some none) fun r => r.reread?.map some
  | .quotas, m => (m.toList.mapM Resources.rereadOf?).map Keyed.ofList
  | .frameworkId, a => some a
  | .host _, a => some a
  | .hosts, a => some a
  | .deploys, a => some a
  | .deploy _, a => some a
  | .jobs _, a => some a
  | .job _ _, a => some a
  | .managerIds, a => some a
  | .tasks _, a => some a
  | .locks, a => some a
  | .lock _, a => some a

theorem slot_decode_encode {c : Call} {slot : CacheSlot c.Answer} (h : c.slot? = some slot)
    (a : c.Answer) :
    slot.decode (slot.encode a) = c.reread? a := by
  cases c <;> cases h
  · exact rereads_text?.read?_write (by decide) a
  · exact rereads_resources.sortedMap.read?_write (by decide) a
  · exact (rereads_resources.option fun _ h => by cases h).read?_write (by decide) a
  · exact ((rereads_hostAttributes.option fun _ h => by cases h).read?_write (by decide) a).trans
      (by cases a <;> rfl)
  · exact rereads_hostAttributes.distinct.read?_write (by decide) a
  · exact rereads_deploy.distinct.read?_write (by decide) a
  · exact rereads_deploy.read?_write (by decide) a

/-- An answer is worth keeping unless it says that nothing is there. -/
theorem slot_keeps {c : Call} {slot : CacheSlot c.Answer} (h : c.slot? = some slot) (a : c.Answer) :
    slot.keeps a = !c.isAbsent a := by
  cases c <;> cases h <;> first | rfl | (cases a <;> rfl)

/-- The doubles of an answer that is kept. -/
def doubles : (c : Call) → c.Answer → List Float
  | .quota _, a => a.toList.map Resources.numCpus
  | .quotas, m => m.toList.map fun e : String × Resources => e.2.numCpus
  | .frameworkId, _ | .host _, _ | .hosts, _ | .deploys, _ | .deploy _, _ | .jobs _, _ | .job _ _, _
  | .managerIds, _ | .tasks _, _ | .locks, _ | .lock _, _ => []

theorem reread?_isSome_iff (c : Call) (a : c.Answer) :
    (c.reread? a).isSome = true ↔ ∀ x ∈ c.doubles a, (Decimal.reread? x).isSome = true := by
  cases c with
  | quota role =>
    cases a with
    | none => simp [reread?, doubles]
    | some r => simp [reread?, doubles, Resources.reread?_isSome_iff]
  | quotas =>
    rw [reread?, Option.isSome_map, mapM_isSome_iff, doubles, List.forall_mem_map]
    simp only [Resources.rereadOf?, Option.isSome_map, Resources.reread?_isSome_iff]
  | _ => simp [reread?, doubles]

theorem reread?_quotas_eq_some_self_iff (m : SortedMap String Resources) :
    reread? .quotas m = some m ↔ m.toList.mapM Resources.rereadOf? = some m.toList := by
  change (m.toList.mapM Resources.rereadOf?).map Keyed.ofList = some m ↔ _
  cases h : m.toList.mapM Resources.rereadOf? with
  | none => simp
  | some k =>
    -- the names are those of the map, so the list is in their order as well
    have hk : (Keyed.ofList k : SortedMap String Resources).toList = k := by
      refine Keyed.toList_ofList (List.pairwise_map.1 (?_ : (k.map Prod.fst).Pairwise fun a b =>
        compare a b = .lt))
      rw [map_fst_of_mapM h]
      exact List.pairwise_map.2 m.ascending
    rw [Option.map_some, Option.some.injEq, Option.some.injEq, Keyed.ext_iff, hk]

theorem reread?_eq_some_self_iff (c : Call) (a : c.Answer) :
    c.reread? a = some a ↔ ∀ x ∈ c.doubles a, Decimal.reread? x = some x := by
  cases c with
  | quota role =>
    cases a with
    | none => simp [reread?, doubles]
    | some r => simp [reread?, doubles, Resources.reread?_eq_some_self_iff]
  | quotas =>
    rw [reread?_quotas_eq_some_self_iff, mapM_eq_some_self_iff, doubles, List.forall_mem_map]
    simp only [Resources.rereadOf?_eq_some_self_iff]
  | _ => simp [reread?, doubles]

/-- Whatever is read back for an answer is the answer. -/
def Faithful (c : Call) (a : c.Answer) : Prop :=
  ∀ b, c.reread? a = some b → b = a

/-- If each double of an answer is read back at all, then each is read back as itself. -/
def DoublesSurvive (c : Call) (a : c.Answer) : Prop :=
  (∀ x ∈ c.doubles a, (Decimal.reread? x).isSome = true) → ∀ x ∈ c.doubles a,
    Decimal.reread? x = some x

theorem faithful_iff (c : Call) (a : c.Answer) : c.Faithful a ↔ c.DoublesSurvive a := by
  rw [DoublesSurvive, ← reread?_isSome_iff, ← reread?_eq_some_self_iff, Faithful]
  cases c.reread? a <;> simp

theorem faithful_of_finite {c : Call} {a : c.Answer}
    (h : ∀ x ∈ c.doubles a, x.isFinite = true → Decimal.reread? x = some x) : c.Faithful a := by
  rw [faithful_iff]
  intro hsome x hx
  exact h x hx (Decimal.isFinite_of_reread? (hsome x hx))

end Call
end ClusterReads
