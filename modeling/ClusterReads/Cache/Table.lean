import ClusterReads.Cache.Stats
import ClusterReads.Clock

/-!
# The cache table

A bounded table of texts that expire. Entries are noted in the order in which they were written. A read
drops the entry it finds expired; a write under a new key makes room in a full table, first by dropping what
has expired and then by evicting the entry closest to expiry. Of several it is the one met first, and in
which order the entries are met is not up to the table.
-/
namespace ClusterReads

structure CacheEntry where
  key : String
  value : String
  /-- The moment from which the entry is no longer served. -/
  expiry : Nat
  deriving DecidableEq, Repr

/-- An order in which the entries of a table are walked. -/
structure EntryOrder where
  list : List CacheEntry → List CacheEntry
  perm : ∀ entries, (list entries).Perm entries

/-- The entry that was written first comes first. -/
def EntryOrder.written : EntryOrder :=
  ⟨id, fun _ => .refl _⟩

/-- The orders in which tables are walked, one for each moment. -/
class EntryOrders where
  orderAt : Nat → EntryOrder

/-- Unless something else is said, tables are walked as they were written. -/
instance : EntryOrders :=
  ⟨fun _ => .written⟩

structure CacheTable where
  capacity : Nat
  entries : List CacheEntry
  stats : CacheStats
  deriving DecidableEq, Repr

namespace CacheTable

/-- An empty table; it has room for one entry at least. -/
def new (capacity : Nat) : CacheTable :=
  ⟨max capacity 1, [], .zero⟩

instance : Inhabited CacheTable := ⟨new 1⟩

def size (t : CacheTable) : Nat :=
  t.entries.length

/-- The entry held under a key, expired or not. -/
def find? (t : CacheTable) (key : String) : Option CacheEntry :=
  t.entries.find? fun e => e.key == key

def holds (t : CacheTable) (key : String) : Bool :=
  t.entries.any fun e => e.key == key

def isFull (t : CacheTable) : Bool :=
  t.capacity ≤ t.size

/-- Keeps the entries that pass a test. -/
def keep (t : CacheTable) (p : CacheEntry → Bool) : CacheTable :=
  { t with entries := t.entries.filter p }

def drop (t : CacheTable) (key : String) : CacheTable :=
  t.keep fun e => e.key != key

def count (t : CacheTable) (f : CacheStats → CacheStats) : CacheTable :=
  { t with stats := f t.stats }

/-! ## Reading -/

/-- The value under a key, unless it has expired. -/
def live? (t : CacheTable) (now : Nat) (key : String) : Option String :=
  match t.find? key with
  | some e => if now < e.expiry then some e.value else none
  | none => none

/-- Reads a key: a hit is counted, or a miss, which drops what was held. -/
def get (t : CacheTable) (now : Nat) (key : String) : Option String × CacheTable :=
  match t.live? now key with
  | some value => (some value, t.count fun s => { s with hits := s.hits + 1 })
  | none => (none, (t.drop key).count fun s => { s with misses := s.misses + 1 })

/-! ## Writing -/

/-- The earlier of two expiries; of two equal the entry met first. -/
def sooner : Option CacheEntry → CacheEntry → Option CacheEntry
  | none, e => some e
  | some best, e => if e.expiry < best.expiry then some e else some best

/-- The entry closest to expiry, the first of several. -/
def soonest? (entries : List CacheEntry) : Option CacheEntry :=
  entries.foldl sooner none

def purge (t : CacheTable) (now : Nat) : CacheTable :=
  t.keep fun e => now < e.expiry

/-- Removes the entry closest to expiry, and names its key. -/
def evict (t : CacheTable) (order : EntryOrder) : CacheTable × Option String :=
  match soonest? (order.list t.entries) with
  | some e => ((t.drop e.key).count fun s => { s with evictions := s.evictions + 1 }, some e.key)
  | none => (t, none)

/-- Makes room for a key, and names the key that was evicted for it. -/
def makeRoom (t : CacheTable) (order : EntryOrder) (now : Nat) (key : String) :
    CacheTable × Option String :=
  if !t.holds key && t.isFull then
    let purged := t.purge now
    if purged.isFull then purged.evict order else (purged, none)
  else (t, none)

/-- Writes an entry as the newest. -/
def put (t : CacheTable) (e : CacheEntry) : CacheTable :=
  { t.drop e.key with
    entries := (t.drop e.key).entries ++ [e]
    stats := { t.stats with sets := t.stats.sets + 1 } }

/-! ## Removing -/

/-- Removes the entries that pass a test and counts them. -/
def remove (t : CacheTable) (p : CacheEntry → Bool) : Nat × CacheTable :=
  let kept := t.keep fun e => !p e
  let removed := t.size - kept.size
  (removed, kept.count fun s => { s with deletes := s.deletes + removed })

/-- Removes the entry under a key, and says whether there was one. -/
def delete (t : CacheTable) (key : String) : Bool × CacheTable :=
  let (removed, t) := t.remove fun e => e.key == key
  (removed != 0, t)

/-- The text begins with another. -/
def startsWith (s start : String) : Bool :=
  start.toList.isPrefixOf s.toList

/-- Removes the entries whose keys begin with a text. -/
def clearPrefix (t : CacheTable) (start : String) : Nat × CacheTable :=
  t.remove fun e => startsWith e.key start

def clear (t : CacheTable) : Nat × CacheTable :=
  t.remove fun _ => true

end CacheTable

end ClusterReads
