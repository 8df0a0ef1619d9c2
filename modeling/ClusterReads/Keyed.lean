/-!
# Records in the order of a key

A finite collection that holds at most one record per key and lists its records in ascending order of the
key. Sets are the case where a record is its own key, and maps the case of pairs with their first
component as the key. A record written under a key replaces the one held there.
-/
namespace ClusterReads

/-- Records in ascending order of a key, one per key. -/
structure Keyed {α κ : Type} [Ord κ] (key : α → κ) where
  toList : List α
  ascending : toList.Pairwise fun a b => compare (key a) (key b) = .lt
  deriving DecidableEq, Repr

/-- Values in ascending order. -/
abbrev SortedSet (α : Type) [Ord α] :=
  Keyed (id : α → α)

/-- Pairs in ascending order of their keys. -/
abbrev SortedMap (κ ν : Type) [Ord κ] :=
  Keyed (Prod.fst : κ × ν → κ)

namespace Keyed

variable {α κ : Type} [Ord κ] {key : α → κ}

instance [BEq α] : BEq (Keyed key) where
  beq s t := s.toList == t.toList

def empty : Keyed key :=
  ⟨[], .nil⟩

instance : Inhabited (Keyed key) := ⟨empty⟩

instance : EmptyCollection (Keyed key) := ⟨empty⟩

def size (s : Keyed key) : Nat :=
  s.toList.length

def isEmpty (s : Keyed key) : Bool :=
  s.toList.isEmpty

/-- The record held under a key. -/
def get? (s : Keyed key) (k : κ) : Option α :=
  s.toList.find? fun a => compare (key a) k == .eq

def contains (s : Keyed key) (k : κ) : Bool :=
  (s.get? k).isSome

/-- Places a record before the first larger key, over one of its own key. -/
def place (key : α → κ) (a : α) : List α → List α
  | [] => [a]
  | b :: rest =>
    match compare (key a) (key b) with
    | .lt => a :: b :: rest
    | .eq => a :: rest
    | .gt => b :: place key a rest

theorem mem_place {key : α → κ} {a b : α} {l : List α} (h : b ∈ place key a l) : b = a ∨ b ∈ l := by
  induction l with
  | nil => simpa [place] using h
  | cons c rest ih =>
    unfold place at h
    split at h
    · simpa using h
    · rcases List.mem_cons.1 h with h | h <;> simp [h]
    · rcases List.mem_cons.1 h with h | h
      · simp [h]
      · rcases ih h with h | h <;> simp [h]

theorem place_ascending [Std.TransOrd κ] {key : α → κ} (a : α) {l : List α}
    (h : l.Pairwise fun a b => compare (key a) (key b) = .lt) :
    (place key a l).Pairwise fun a b => compare (key a) (key b) = .lt := by
  induction l with
  | nil => simp [place]
  | cons b rest ih =>
    rw [List.pairwise_cons] at h
    unfold place
    split
    · next hab =>
      refine List.pairwise_cons.2 ⟨fun c hc => ?_, List.pairwise_cons.2 h⟩
      rcases List.mem_cons.1 hc with rfl | hc
      · exact hab
      · exact Std.TransCmp.lt_trans hab (h.1 c hc)
    · next hab =>
      exact List.pairwise_cons.2 ⟨fun c hc => Std.TransCmp.lt_of_eq_of_lt hab (h.1 c hc), h.2⟩
    · next hab =>
      refine List.pairwise_cons.2 ⟨fun c hc => ?_, ih h.2⟩
      rcases mem_place hc with rfl | hc
      · exact Std.OrientedCmp.lt_of_gt hab
      · exact h.1 c hc

/-- Writes a record under its key. -/
def insert [Std.TransOrd κ] (s : Keyed key) (a : α) : Keyed key :=
  ⟨place key a s.toList, place_ascending a s.ascending⟩

/-- Keeps the records that pass a test. -/
def filter (p : α → Bool) (s : Keyed key) : Keyed key :=
  ⟨s.toList.filter p, s.ascending.filter p⟩

/-- Drops the record under a key. -/
def erase (s : Keyed key) (k : κ) : Keyed key :=
  s.filter fun a => compare (key a) k != .eq

/-- Writes the records of a list in turn; the last of one key stays. -/
def insertAll [Std.TransOrd κ] (s : Keyed key) (l : List α) : Keyed key :=
  l.foldl insert s

def ofList [Std.TransOrd κ] (l : List α) : Keyed key :=
  empty.insertAll l

@[simp] theorem toList_empty : (empty : Keyed key).toList = [] := rfl

@[simp] theorem toList_insert [Std.TransOrd κ] (s : Keyed key) (a : α) :
    (s.insert a).toList = place key a s.toList := rfl

@[simp] theorem toList_filter (p : α → Bool) (s : Keyed key) :
    (s.filter p).toList = s.toList.filter p := rfl

@[ext] theorem ext {s t : Keyed key} (h : s.toList = t.toList) : s = t := by
  cases s
  cases t
  cases h
  rfl

theorem get?_empty (k : κ) : (empty : Keyed key).get? k = none := rfl

end Keyed

/-- The value a map holds under a key. -/
def SortedMap.lookup? {κ ν : Type} [Ord κ] (m : SortedMap κ ν) (k : κ) : Option ν :=
  (m.get? k).map Prod.snd

/-- Writes a value under a key. -/
def SortedMap.put {κ ν : Type} [Ord κ] [Std.TransOrd κ] (m : SortedMap κ ν) (k : κ) (v : ν) :
    SortedMap κ ν :=
  m.insert (k, v)

example : (Keyed.ofList [3, 1, 2, 1] : SortedSet Nat).toList = [1, 2, 3] := by decide +kernel

end ClusterReads
