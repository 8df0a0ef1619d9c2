import ClusterReads.Json.Basic

/-!
# Writing JSON

Compact text: no blanks, the short escapes where there are any, `\u00xx` for the other characters below
U+0020 and every other character as itself.
-/
namespace ClusterReads
namespace Json

/-- A hexadecimal digit in lower case. -/
def hexDigit (n : Nat) : Char :=
  if n < 10 then Char.ofNat (48 + n) else Char.ofNat (87 + n)

/-- A character inside a string. -/
def escape (c : Char) : List Char :=
  if c = '"' then ['\\', '"']
  else if c = '\\' then ['\\', '\\']
  else if c = '\n' then ['\\', 'n']
  else if c = '\t' then ['\\', 't']
  else if c = '\r' then ['\\', 'r']
  else if c = '\x08' then ['\\', 'b']
  else if c = '\x0c' then ['\\', 'f']
  else if c.toNat < 32 then ['\\', 'u', '0', '0', hexDigit (c.toNat / 16), hexDigit (c.toNat % 16)]
  else [c]

def escapeAll : List Char → List Char
  | [] => []
  | c :: rest => escape c ++ escapeAll rest

/-- A string with its quotes. What is no text is written as a single unpaired surrogate. -/
def stringChars : Option String → List Char
  | some s => '"' :: (escapeAll s.toList ++ ['"'])
  | none => "\"\\ud800\"".toList

/-- Nested empty arrays, one level more than a reader keeps. -/
def deepChars : List Char :=
  List.replicate (maxDepth + 1) '[' ++ List.replicate (maxDepth + 1) ']'

mutual

def chars : Json → List Char
  | .null => "null".toList
  | .bool true => "true".toList
  | .bool false => "false".toList
  | .number l => l.chars
  | .string s => stringChars s
  | .array [] => ['[', ']']
  | .array (j :: rest) => '[' :: (chars j ++ itemsTail rest)
  | .object [] => ['{', '}']
  | .deep => deepChars
  | .object ((name, j) :: rest) => '{' :: (stringChars name ++ ':' :: (chars j ++ membersTail rest))

/-- The items after the first, and the closing bracket. -/
def itemsTail : List Json → List Char
  | [] => [']']
  | j :: rest => ',' :: (chars j ++ itemsTail rest)

/-- The members after the first, and the closing brace. -/
def membersTail : List (Option String × Json) → List Char
  | [] => ['}']
  | (name, j) :: rest => ',' :: (stringChars name ++ ':' :: (chars j ++ membersTail rest))

end

/-- The compact text of a value. -/
def print (j : Json) : String :=
  String.ofList j.chars

end Json
end ClusterReads
