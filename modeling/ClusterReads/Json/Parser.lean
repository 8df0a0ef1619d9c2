import ClusterReads.Json.Basic

/-!
# Reading JSON

The standard grammar of JSON, with four blank characters. Control characters in a string are refused. A string
is read as code units first, and paired surrogates are joined afterwards.
-/
namespace ClusterReads
namespace Json

def isBlank (c : Char) : Bool :=
  c = ' ' || c = '\n' || c = '\t' || c = '\r'

def skipBlanks (cs : List Char) : List Char :=
  cs.dropWhile isBlank

/-! ## Strings -/

def hexValue? (c : Char) : Option Nat :=
  if c.isDigit then some (c.toNat - 48)
  else if 'a' ≤ c ∧ c ≤ 'f' then some (c.toNat - 87)
  else if 'A' ≤ c ∧ c ≤ 'F' then some (c.toNat - 55)
  else none

/-- The value of four hexadecimal digits. -/
def hexValue4? (a b c d : Char) : Option Nat := do
  return (((← hexValue? a) * 16 + (← hexValue? b)) * 16 + (← hexValue? c)) * 16 + (← hexValue? d)

/-- The character a short escape stands for. -/
def unescape? (c : Char) : Option Char :=
  if c = '"' ∨ c = '\\' ∨ c = '/' then some c
  else if c = 'n' then some '\n'
  else if c = 't' then some '\t'
  else if c = 'r' then some '\r'
  else if c = 'b' then some '\x08'
  else if c = 'f' then some '\x0c'
  else none

/-- Adds a code in front of those read after it. -/
def consCode (n : Nat) : Option (List Nat × List Char) → Option (List Nat × List Char)
  | some (ns, rest) => some (n :: ns, rest)
  | none => none

/-- The codes up to the closing quote, and what follows it. -/
def codes : List Char → Option (List Nat × List Char)
  | [] => none
  | '"' :: rest => some ([], rest)
  | '\\' :: 'u' :: a :: b :: c :: d :: rest =>
    match hexValue4? a b c d with
    | some n => consCode n (codes rest)
    | none => none
  | '\\' :: c :: rest =>
    match unescape? c with
    | some e => consCode e.toNat (codes rest)
    | none => none
  | c :: rest => if c.toNat < 32 then none else consCode c.toNat (codes rest)

/-- The first half of a surrogate pair. -/
def isHigh (n : Nat) : Bool :=
  0xD800 ≤ n && n < 0xDC00

/-- The second half of a surrogate pair. -/
def isLow (n : Nat) : Bool :=
  0xDC00 ≤ n && n < 0xE000

/-- Joins surrogate pairs; nothing if one half stands alone. -/
def joinPairs : List Nat → Option (List Char)
  | [] => some []
  | [n] => if isHigh n || isLow n then none else some [Char.ofNat n]
  | n :: m :: rest =>
    if isHigh n then
      if isLow m then
        (joinPairs rest).map (Char.ofNat (0x10000 + (n - 0xD800) * 0x400 + (m - 0xDC00)) :: ·)
      else none
    else if isLow n then none
    else (joinPairs (m :: rest)).map (Char.ofNat n :: ·)

/-- A string after its opening quote. -/
def stringBody (cs : List Char) : Option (Option String × List Char) :=
  (codes cs).map fun (ns, rest) => ((joinPairs ns).map String.ofList, rest)

/-! ## Numbers -/

/-- The whole part: one zero, or digits that do not start with a zero. -/
def wholePart (cs : List Char) : Option (Nat × List Char) :=
  match Decimal.span cs with
  | ([], _) => none
  | (['0'], rest) => some (0, rest)
  | ('0' :: _, _) => none
  | (ds, rest) => some (Decimal.value ds, rest)

/-- A point and digits, if a point follows. -/
def fractionPart : List Char → Option (List Char × List Char)
  | '.' :: cs =>
    match Decimal.span cs with
    | ([], _) => none
    | (ds, rest) => some (ds, rest)
  | cs => some ([], cs)

/-- An exponent, if its letter follows. -/
def exponentPart : List Char → Option (Option Int × List Char)
  | [] => some (none, [])
  | c :: cs =>
    if c = 'e' ∨ c = 'E' then
      let (negative, cs) := Decimal.splitSign cs
      match Decimal.span cs with
      | ([], _) => none
      | (ds, rest) =>
        let n : Int := Decimal.value ds
        some (some (if negative then -n else n), rest)
    else some (none, c :: cs)

/-- A number without its sign. -/
def unsignedNumber (negative : Bool) (cs : List Char) : Option (Decimal.Literal × List Char) := do
  let (whole, cs) ← wholePart cs
  let (fraction, cs) ← fractionPart cs
  let (exponent, cs) ← exponentPart cs
  return (⟨negative, whole, fraction, exponent⟩, cs)

def numberLiteral : List Char → Option (Decimal.Literal × List Char)
  | '-' :: cs => unsignedNumber true cs
  | cs => unsignedNumber false cs

/-! ## Values -/

mutual

/-- A value, given enough fuel for its nesting and length. -/
def value : Nat → List Char → Option (Json × List Char)
  | 0, _ => none
  | fuel + 1, cs =>
    match skipBlanks cs with
    | 'n' :: 'u' :: 'l' :: 'l' :: rest => some (.null, rest)
    | 't' :: 'r' :: 'u' :: 'e' :: rest => some (.bool true, rest)
    | 'f' :: 'a' :: 'l' :: 's' :: 'e' :: rest => some (.bool false, rest)
    | '"' :: rest => (stringBody rest).map fun (s, rest) => (.string s, rest)
    | '[' :: rest =>
      match skipBlanks rest with
      | ']' :: rest => some (.array [], rest)
      | cs => do
        let (j, rest) ← value fuel cs
        let (js, rest) ← itemsRest fuel rest
        return (.array (j :: js), rest)
    | '{' :: rest =>
      match skipBlanks rest with
      | '}' :: rest => some (.object [], rest)
      | cs => do
        let (m, rest) ← member fuel cs
        let (ms, rest) ← membersRest fuel rest
        return (.object (m :: ms), rest)
    | cs => (numberLiteral cs).map fun (l, rest) => (.number l, rest)

/-- The items after the first, up to the closing bracket. -/
def itemsRest : Nat → List Char → Option (List Json × List Char)
  | 0, _ => none
  | fuel + 1, cs =>
    match skipBlanks cs with
    | ']' :: rest => some ([], rest)
    | ',' :: rest => do
      let (j, rest) ← value fuel rest
      let (js, rest) ← itemsRest fuel rest
      return (j :: js, rest)
    | _ => none

/-- A name, a colon and a value. -/
def member : Nat → List Char → Option ((Option String × Json) × List Char)
  | 0, _ => none
  | fuel + 1, cs =>
    match skipBlanks cs with
    | '"' :: rest => do
      let (name, rest) ← stringBody rest
      match skipBlanks rest with
      | ':' :: rest =>
        let (j, rest) ← value fuel rest
        return ((name, j), rest)
      | _ => none
    | _ => none

/-- The members after the first, up to the closing brace. -/
def membersRest : Nat → List Char → Option (List (Option String × Json) × List Char)
  | 0, _ => none
  | fuel + 1, cs =>
    match skipBlanks cs with
    | '}' :: rest => some ([], rest)
    | ',' :: rest => do
      let (m, rest) ← member fuel rest
      let (ms, rest) ← membersRest fuel rest
      return (m :: ms, rest)
    | _ => none

end

/-- The tree of a text that is one JSON value with blanks around it, as deep as it is kept. Each step of the
reader but the descent into a member's value consumes a character, so twice the length is fuel enough. -/
def parse? (s : String) : Option Json :=
  let cs := s.toList
  match value (2 * cs.length + 2) cs with
  | some (j, rest) => if (skipBlanks rest).isEmpty then some (j.prune maxDepth) else none
  | none => none

end Json
end ClusterReads
