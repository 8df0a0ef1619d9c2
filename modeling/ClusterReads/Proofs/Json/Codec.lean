import Mathlib.Data.List.Basic
import ClusterReads.Json.Codec
import ClusterReads.Proofs.Decimal.Reread
import ClusterReads.Proofs.Json.Text
import ClusterReads.Proofs.Keyed
import ClusterReads.Proofs.Time.Timestamp

/-!
# Values read back from JSON

What becomes of a value that is written as JSON and read again. Texts, whole numbers, timestamps and
names come back as they were; a double may come back as another one. Collections and records come
back part by part.
-/
namespace ClusterReads

theorem Json.Written.mono {j : Json} {k n : Nat} (h : Written k j) (hkn : k ≤ n) : Written n j := by
  induction h generalizing n with
  | null => exact .null
  | bool b => exact .bool b
  | number h => exact .number h
  | text s => exact .text s
  | array h ih =>
    obtain ⟨m, rfl⟩ : ∃ m, n = m + 1 := ⟨n - 1, by omega⟩
    exact .array fun j hj => ih j hj (by omega)
  | object hnames h ih =>
    obtain ⟨m, rfl⟩ : ∃ m, n = m + 1 := ⟨n - 1, by omega⟩
    exact .object hnames fun j hj => ih j hj (by omega)

namespace JsonCodec

variable {α β : Type}

/-- Values are written in so many levels, and read back as told. -/
structure Rereads (α : Type) [JsonCodec α] (depth : Nat) (reread? : α → Option α) : Prop where
  written : ∀ a : α, Json.Written depth (encode a)
  decode_encode : ∀ a : α, decode (encode a) = reread? a

namespace Rereads

variable [JsonCodec α] {depth : Nat} {f g : α → Option α}

theorem congr (h : Rereads α depth f) (hfg : ∀ a, f a = g a) : Rereads α depth g :=
  ⟨h.written, fun a => (h.decode_encode a).trans (hfg a)⟩

/-- A field that was written is read back as its value is. -/
theorem field_encode (h : Rereads α depth f) (a : α) : field (some (encode a)) = f a :=
  h.decode_encode a

/-- The text of a value is read back as its JSON is. -/
theorem read?_write (h : Rereads α depth f) (hdepth : depth ≤ Json.maxDepth) (a : α) :
    read? α (write a) = f a := by
  rw [read?, write, Json.parse?_print (h.written a) hdepth]
  exact h.decode_encode a

end Rereads

/-! ## Basic values -/

theorem rereads_string : Rereads String 0 some :=
  ⟨fun s => .text s, fun _ => rfl⟩

theorem rereads_bool : Rereads Bool 0 some :=
  ⟨fun b => .bool b, fun _ => rfl⟩

theorem written_ofNat (n : Nat) : Json.Written 0 (Json.ofNat n) :=
  .number fun _ hc => by cases hc

/-- A number below its bound is read back. -/
theorem decodeNat_ofNat {bound n : Nat} (h : n < bound) : decodeNat bound (Json.ofNat n) = some n := by
  simp [decodeNat, Json.ofNat, h]

theorem rereads_uint64 : Rereads UInt64 0 some := by
  refine ⟨fun n => written_ofNat n.toNat, fun n => ?_⟩
  change (decodeNat UInt64.size (Json.ofNat n.toNat)).map UInt64.ofNat = some n
  simp [decodeNat_ofNat n.toNat_lt_size]

theorem rereads_uint32 : Rereads UInt32 0 some := by
  refine ⟨fun n => written_ofNat n.toNat, fun n => ?_⟩
  change (decodeNat UInt32.size (Json.ofNat n.toNat)).map UInt32.ofNat = some n
  simp [decodeNat_ofNat n.toNat_lt_size]

theorem rereads_uint16 : Rereads UInt16 0 some := by
  refine ⟨fun n => written_ofNat n.toNat, fun n => ?_⟩
  change (decodeNat UInt16.size (Json.ofNat n.toNat)).map UInt16.ofNat = some n
  simp [decodeNat_ofNat n.toNat_lt_size]

theorem rereads_int32 : Rereads Int32 0 some := by
  refine ⟨fun n => .number fun _ hc => (by cases hc), fun n => ?_⟩
  have hlow := n.le_toInt
  have hhigh := n.toInt_lt
  change ((Decimal.Literal.ofInt n.toInt).toInt?.bind fun k =>
    if -2147483648 ≤ k ∧ k < 2147483648 then some (Int32.ofInt k) else none) = some n
  rw [Decimal.Literal.toInt?_ofInt, Option.bind_some, if_pos (by omega), Int32.ofInt_toInt]

theorem rereads_float : Rereads Float 0 Decimal.reread? := by
  refine ⟨fun x => ?_, fun x => ?_⟩
  · change Json.Written 0 (if x.isFinite then _ else _)
    split
    · exact .number (Decimal.FloatStyle.literal_written _ x)
    · exact .null
  · change decode (if x.isFinite then _ else _) = _
    rw [Decimal.reread?]
    split <;> rfl

theorem rereads_timestamp : Rereads Timestamp 0 some :=
  ⟨fun t => .text t.text, fun t => Timestamp.ofText?_text t⟩

/-- An enumerated value is read back from its name. -/
theorem decodeName_encodeName [Spelled α] (a : α) : decodeName (encodeName a) = some a :=
  Spelled.ofName?_name a

/-! ## Collections -/

section Collections

variable [JsonCodec α] {depth : Nat} {f : α → Option α}

/-- Whatever is not nothing is read as something. -/
theorem decode_some {j : Json} (h : j ≠ .null) :
    (decode j : Option (Option α)) = (decode j : Option α).map some := by
  cases j with
  | null => exact absurd rfl h
  | bool | number | string | array | object | deep => rfl

/-- What is there is read back as itself, as long as it is not written as nothing. -/
theorem Rereads.option (h : Rereads α depth f) (hnull : ∀ a : α, encode a ≠ .null) :
    Rereads (Option α) depth fun o => o.elim (some none) fun a => (f a).map some := by
  refine ⟨fun o => ?_, fun o => ?_⟩
  · cases o with
    | none => exact .null
    | some a => exact h.written a
  · cases o with
    | none => rfl
    | some a =>
      change decode (encode a) = (f a).map some
      rw [decode_some (hnull a), h.decode_encode a]

theorem Rereads.option_self (h : Rereads α depth some) (hnull : ∀ a : α, encode a ≠ .null) :
    Rereads (Option α) depth some :=
  (h.option hnull).congr fun o => by cases o <;> rfl

theorem Rereads.list (h : Rereads α depth f) : Rereads (List α) (depth + 1) fun l => l.mapM f := by
  refine ⟨fun l => .array fun j hj => ?_, fun l => ?_⟩
  · obtain ⟨a, -, rfl⟩ := List.mem_map.1 hj
    exact h.written a
  · change (l.map encode).mapM decode = l.mapM f
    rw [List.mapM_map]
    exact congrArg (l.mapM ·) (funext h.decode_encode)

theorem Rereads.list_self (h : Rereads α depth some) : Rereads (List α) (depth + 1) some :=
  h.list.congr fun l => by
    change l.mapM (fun a => (pure a : Option α)) = pure l
    rw [List.mapM_pure, List.map_id']

theorem Rereads.sortedSet [Ord α] [Std.TransOrd α] (h : Rereads α depth some) :
    Rereads (SortedSet α) (depth + 1) some := by
  refine ⟨fun s => h.list_self.written s.toList, fun s => ?_⟩
  change (decode (encode s.toList) : Option (List α)).map Keyed.ofList = some s
  rw [h.list_self.decode_encode, Option.map_some, Keyed.ofList_toList]

theorem Rereads.distinct [DecidableEq α] (h : Rereads α depth some) :
    Rereads (Distinct α) (depth + 1) some := by
  refine ⟨fun s => h.list_self.written s.toList, fun s => ?_⟩
  change (decode (encode s.toList) : Option (List α)).map Distinct.ofList = some s
  rw [h.list_self.decode_encode, Option.map_some, Distinct.ofList_toList]

/-- A map is read back value by value, under the same names. -/
theorem Rereads.sortedMap (h : Rereads α depth f) :
    Rereads (SortedMap String α) (depth + 1) fun m =>
    (m.toList.mapM fun e => (f e.2).map fun a => (e.1, a)).map Keyed.ofList := by
  refine ⟨fun m => .object ?_ ?_, fun m => ?_⟩
  · intro e he
    obtain ⟨e, -, rfl⟩ := List.mem_map.1 he
    exact ⟨e.1, rfl⟩
  · intro e he
    obtain ⟨e, -, rfl⟩ := List.mem_map.1 he
    exact h.written e.2
  · change ((m.toList.map fun e => (some e.1, encode e.2)).mapM decodeMember).map Keyed.ofList = _
    rw [List.mapM_map]
    have hmember : (decodeMember ∘ fun e => (some e.1, encode e.2)) =
        fun e : String × α => (f e.2).map fun a => (e.1, a) := by
      funext e
      exact congrArg (Option.map fun a => (e.1, a)) (h.decode_encode e.2)
    rw [hmember]

end Collections

/-! ## Records -/

theorem written_record {depth : Nat} {names : List String} {values : List Json}
    (h : ∀ j ∈ values, Json.Written depth j) : Json.Written (depth + 1) (.record names values) := by
  refine .object (fun m hm => ?_) fun m hm => ?_
  · obtain ⟨name, -, hname⟩ := List.mem_map.1 (List.of_mem_zip hm).1
    exact ⟨name, hname.symm⟩
  · exact h m.2 (List.of_mem_zip hm).2

/-- A name that occurs once is found with its value. -/
theorem member?_append {before after : List (Option String × Json)} {name : String} (j : Json)
    (hbefore : ∀ m ∈ before, m.1 ≠ some name) (hafter : ∀ m ∈ after, m.1 ≠ some name) :
    member? (before ++ (some name, j) :: after) name = some (some j) := by
  have hnone : ∀ {l : List (Option String × Json)}, (∀ m ∈ l, m.1 ≠ some name) →
      l.filter (fun m => m.1 == some name) = [] := by
    intro l hl
    exact List.filter_eq_nil_iff.2 fun m hm => by simpa using hl m hm
  rw [member?, List.filter_append, List.filter_cons_of_pos (by simp), hnone hbefore, hnone hafter]
  rfl

/-- Names that occur once each are found with their values, whatever was found before them. -/
theorem mapM_member?_zip {names : List String} {values : List Json}
    (hlength : names.length = values.length) {before : List (Option String × Json)}
    (hnodup : (before.map Prod.fst ++ names.map some).Nodup) :
    names.mapM (member? (before ++ List.zip (names.map some) values)) = some (values.map some) := by
  induction names generalizing values before with
  | nil =>
    obtain rfl := List.length_eq_zero_iff.1 hlength.symm
    rfl
  | cons name names ih =>
    cases values with
    | nil => cases hlength
    | cons j values =>
      have hlength : names.length = values.length := by simpa using hlength
      rw [List.map_cons] at hnodup
      obtain ⟨-, hnames, hdisjoint⟩ := List.nodup_append.1 hnodup
      have hbefore : ∀ m ∈ before, m.1 ≠ some name := fun m hm =>
        hdisjoint m.1 (List.mem_map_of_mem hm) (some name) List.mem_cons_self
      have hafter : ∀ m ∈ List.zip (names.map some) values, m.1 ≠ some name := by
        intro m hm heq
        exact (List.nodup_cons.1 hnames).1 (heq ▸ (List.of_mem_zip hm).1)
      have hrest :
          names.mapM (member? (before ++ [(some name, j)] ++ List.zip (names.map some) values)) =
          some (values.map some) := ih hlength (by simpa [List.append_assoc] using hnodup)
      rw [List.append_assoc, List.singleton_append] at hrest
      simp only [List.map_cons, List.zip_cons_cons, List.mapM_cons, member?_append j hbefore hafter,
        hrest]
      rfl

/-- The fields that follow others under other names are found by their own. -/
theorem fields?_append {before : List (Option String × Json)} {names : List String}
    {values : List Json} (hbefore : ∀ m ∈ before, m.1.isSome = true)
    (hnodup : (before.map Prod.fst ++ names.map some).Nodup)
    (hlength : names.length = values.length) :
    fields? names (.object (before ++ List.zip (names.map some) values)) =
      some (values.map some) := by
  have hnames : (before ++ List.zip (names.map some) values).all (fun m => m.1.isSome) = true := by
    refine List.all_eq_true.2 fun m hm => ?_
    rcases List.mem_append.1 hm with hm | hm
    · exact hbefore m hm
    · obtain ⟨name, -, hname⟩ := List.mem_map.1 (List.of_mem_zip hm).1
      rw [← hname]
      rfl
  rw [fields?, if_pos hnames]
  exact mapM_member?_zip hlength hnodup

/-- The fields of a record are its values. -/
theorem fields?_record {names : List String} {values : List Json} (hnodup : names.Nodup)
    (hlength : names.length = values.length) :
    fields? names (.record names values) = some (values.map some) := by
  have hsome : ((([] : List (Option String × Json)).map Prod.fst) ++ names.map some).Nodup :=
    List.pairwise_map.2 (hnodup.imp fun hne heq => hne (Option.some.inj heq))
  exact fields?_append (fun _ hm => by cases hm) hsome hlength

/-- A record is read back as its fields are put together. -/
theorem rereads_record {α : Type} [JsonCodec α] {depth : Nat} {names : List String}
    {values : α → List Json} {build : List (Option Json) → Option α} {f : α → Option α}
    (hencode : ∀ a : α, encode a = .record names (values a))
    (hdecode : ∀ j, decode j = (fields? names j).bind build) (hnodup : names.Nodup)
    (hlength : ∀ a, names.length = (values a).length)
    (hwritten : ∀ a, (values a).Forall (Json.Written depth))
    (hbuild : ∀ a, build ((values a).map some) = f a) : Rereads α (depth + 1) f := by
  refine ⟨fun a => ?_, fun a => ?_⟩
  · rw [hencode]
    exact written_record (List.forall_iff_forall_mem.1 (hwritten a))
  · rw [hencode, hdecode, fields?_record hnodup (hlength a)]
    exact hbuild a

end JsonCodec
end ClusterReads
