import ClusterReads.Distinct
import ClusterReads.Json.Parser
import ClusterReads.Json.Printer
import ClusterReads.Keyed
import ClusterReads.Spelled
import ClusterReads.Time.Timestamp

/-!
# Values as JSON

How values of the library are written as JSON and read back. A record is written as an object in the
order of its fields; it is read from an object with its fields in any order and others beside them, or
from an array with exactly its fields. An optional field may be left out. An enumerated value is its name,
or an object that maps its name to null.
-/
namespace ClusterReads

class JsonCodec (α : Type) where
  encode : α → Json
  decode : Json → Option α
  /-- The value of a field that is left out, if it may be. -/
  absent : Option α := none

namespace JsonCodec

variable {α β : Type}

/-- The text of a value. -/
def write [JsonCodec α] (a : α) : String :=
  (encode a).print

/-- The value of a text. -/
def read? (α : Type) [JsonCodec α] (s : String) : Option α := do
  decode (← Json.parse? s)

/-! ## Basic values -/

instance : JsonCodec Bool where
  encode := .bool
  decode
    | .bool b => some b
    | _ => none

instance : JsonCodec String where
  encode := Json.text
  decode
    | .string s => s
    | _ => none

/-- Whole numbers below a bound. -/
def decodeNat (bound : Nat) : Json → Option Nat
  | .number l => l.toNat?.bind fun n => if n < bound then some n else none
  | _ => none

/-- The bound of the 64-bit words; minus zero is a fraction here as everywhere. -/
instance : JsonCodec UInt64 where
  encode n := Json.ofNat n.toNat
  decode j := (decodeNat UInt64.size j).map UInt64.ofNat

instance : JsonCodec UInt32 where
  encode n := Json.ofNat n.toNat
  decode j := (decodeNat UInt32.size j).map UInt32.ofNat

instance : JsonCodec UInt16 where
  encode n := Json.ofNat n.toNat
  decode j := (decodeNat UInt16.size j).map UInt16.ofNat

instance : JsonCodec Int32 where
  encode n := .number (.ofInt n.toInt)
  decode
    | .number l => l.toInt?.bind fun n =>
      if -2147483648 ≤ n ∧ n < 2147483648 then some (Int32.ofInt n) else none
    | _ => none

/-- A double by its shortest digits; what no digits can say is written as null, and not read back. -/
instance : JsonCodec Float where
  encode x := if x.isFinite then .number (Decimal.FloatStyle.json.literal x) else .null
  decode
    | .number l => l.scaled?
    | _ => none

instance : JsonCodec Timestamp where
  encode t := Json.text t.text
  decode
    | .string (some s) => Timestamp.ofText? s
    | _ => none

/-! ## Collections -/

instance [JsonCodec α] : JsonCodec (Option α) where
  encode
    | none => .null
    | some a => encode a
  decode
    | .null => some none
    | j => (decode j).map some
  absent := some none

instance [JsonCodec α] : JsonCodec (List α) where
  encode l := .array (l.map encode)
  decode
    | .array items => items.mapM decode
    | _ => none

instance [JsonCodec α] [Ord α] [Std.TransOrd α] : JsonCodec (SortedSet α) where
  encode s := encode s.toList
  decode j := (decode j : Option (List α)).map .ofList

instance [JsonCodec α] [DecidableEq α] : JsonCodec (Distinct α) where
  encode s := encode s.toList
  decode j := (decode j : Option (List α)).map .ofList

/-- A named member of a map. -/
def decodeMember [JsonCodec α] : Option String × Json → Option (String × α)
  | (some name, j) => (decode j).map (name, ·)
  | (none, _) => none

/-- A map by name; of several members with one name the last counts. -/
instance [JsonCodec α] : JsonCodec (SortedMap String α) where
  encode m := .object (m.toList.map fun (name, a) => (some name, encode a))
  decode
    | .object members => (members.mapM decodeMember).map .ofList
    | _ => none

/-! ## Records and enumerations -/

/-- What an object holds under a name: nothing, one value, or a contradiction. -/
def member? (members : List (Option String × Json)) (name : String) : Option (Option Json) :=
  match members.filter fun m => m.1 == some name with
  | [] => some none
  | [m] => some (some m.2)
  | _ => none

/-- The values of named fields, in the order of the names. -/
def fields? (names : List String) : Json → Option (List (Option Json))
  | .object members =>
    if members.all fun m => m.1.isSome then names.mapM (member? members) else none
  | .array items => if items.length = names.length then some (items.map some) else none
  | _ => none

/-- The value of a field. -/
def field [JsonCodec α] : Option Json → Option α
  | none => absent
  | some j => decode j

/-- An enumerated value by its name. -/
def encodeName [Spelled α] (a : α) : Json :=
  Json.text (Spelled.name a)

def decodeName [Spelled α] : Json → Option α
  | .string (some s) => Spelled.ofName? s
  | .object [(some s, .null)] => Spelled.ofName? s
  | _ => none

end JsonCodec

end ClusterReads
