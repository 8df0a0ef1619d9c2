import ClusterReads.Json.Parser

/-!
# TOML strings

A string is written in one of four forms: between single or triple quotes, and as basic text with escapes
or as literal text without. The writer takes the plainest form that holds the text.
-/
namespace ClusterReads
namespace Toml

/-- A control character that no string holds as itself; the tab and the line feed are not among them. -/
def isControl (c : Char) : Bool :=
  (c.toNat < 32 && c ≠ '\t' && c ≠ '\n') || c.toNat = 127

def isBlank (c : Char) : Bool :=
  c = ' ' || c = '\t'

/-! ## Writing -/

/-- The forms of a string. -/
inductive StringForm where
  | basic
  | literal
  | basicLines
  | literalLines
  deriving DecidableEq, Repr

/-- The longest run of a character. -/
def longestRun (c : Char) : Nat → Nat → List Char → Nat
  | _, best, [] => best
  | run, best, d :: rest =>
    if d = c then longestRun c (run + 1) (max best (run + 1)) rest else longestRun c 0 best rest

/-- The plainest form for a text. -/
def formFor (cs : List Char) : StringForm :=
  let controls := cs.any isControl
  let backslash := cs.contains '\\'
  let lines := cs.contains '\n'
  let doubles := longestRun '"' 0 0 cs
  let singles := longestRun '\'' 0 0 cs
  if !controls && !backslash && doubles = 0 && !lines then .basic
  else if !controls && singles = 0 && !lines then .literal
  else if !controls && !backslash && doubles ≤ 2 then .basicLines
  else if !controls && singles ≤ 2 then .literalLines
  else if lines then .basicLines
  else .basic

/-- A hexadecimal digit in upper case. -/
def upperHexDigit (n : Nat) : Char :=
  if n < 10 then Char.ofNat (48 + n) else Char.ofNat (55 + n)

/-- Basic text. Of quotes in a row `spare` stand as themselves, and line feeds do if `lines` holds. -/
def basicChars (spare : Nat) (lines : Bool) : Nat → List Char → List Char
  | _, [] => []
  | run, c :: rest =>
    if c = '"' then
      if run < spare then '"' :: basicChars spare lines (run + 1) rest
      else '\\' :: '"' :: basicChars spare lines 0 rest
    else if c = '\x08' then '\\' :: 'b' :: basicChars spare lines 0 rest
    else if c = '\t' then '\\' :: 't' :: basicChars spare lines 0 rest
    else if c = '\n' then
      if lines then '\n' :: basicChars spare lines 0 rest
      else '\\' :: 'n' :: basicChars spare lines 0 rest
    else if c = '\x0c' then '\\' :: 'f' :: basicChars spare lines 0 rest
    else if c = '\r' then '\\' :: 'r' :: basicChars spare lines 0 rest
    else if c = '\\' then '\\' :: '\\' :: basicChars spare lines 0 rest
    else if c.toNat < 32 ∨ c.toNat = 127 then
      '\\' :: 'u' :: '0' :: '0' :: upperHexDigit (c.toNat / 16) :: upperHexDigit (c.toNat % 16) ::
        basicChars spare lines 0 rest
    else c :: basicChars spare lines 0 rest

/-- What follows an opening triple quote: a line feed, if the text has lines. -/
def openingLine (cs : List Char) : List Char :=
  if cs.contains '\n' then ['\n'] else []

def tripleDouble : List Char :=
  ['"', '"', '"']

def tripleSingle : List Char :=
  ['\'', '\'', '\'']

/-- A text in a form. -/
def quoteAs (cs : List Char) : StringForm → List Char
  | .basic => '"' :: (basicChars 0 false 0 cs ++ ['"'])
  | .literal => '\'' :: (cs ++ ['\''])
  | .basicLines => tripleDouble ++ openingLine cs ++ basicChars 2 true 0 cs ++ tripleDouble
  | .literalLines => tripleSingle ++ openingLine cs ++ cs ++ tripleSingle

/-- The text of a string value. -/
def quote (s : String) : List Char :=
  quoteAs s.toList (formFor s.toList)

/-! ## Reading -/

/-- Adds a character in front of those read after it. -/
def consChar (c : Char) : Option (List Char × List Char) → Option (List Char × List Char)
  | some (cs, rest) => some (c :: cs, rest)
  | none => none

/-- A code point, unless it is half of a surrogate pair or too large. -/
def scalar? (n : Nat) : Option Char :=
  if n.isValidChar then some (Char.ofNat n) else none

/-- The character a short escape stands for. -/
def unescape? (c : Char) : Option Char :=
  if c = '"' ∨ c = '\\' then some c
  else if c = 'n' then some '\n'
  else if c = 't' then some '\t'
  else if c = 'r' then some '\r'
  else if c = 'b' then some '\x08'
  else if c = 'f' then some '\x0c'
  else if c = 'e' then some '\x1b'
  else none

/-- The character of four hexadecimal digits. -/
def short? (a b c d : Char) : Option Char := do
  scalar? (← Json.hexValue4? a b c d)

/-- The character of two hexadecimal digits. -/
def byte? (a b : Char) : Option Char :=
  short? '0' '0' a b

/-- The character of eight hexadecimal digits. -/
def long? (a b c d e f g h : Char) : Option Char := do
  scalar? ((← Json.hexValue4? a b c d) * 65536 + (← Json.hexValue4? e f g h))

/-- Basic text up to the closing quote, and what follows it. -/
def basicBody : List Char → Option (List Char × List Char)
  | [] => none
  | '"' :: rest => some ([], rest)
  | '\\' :: 'x' :: a :: b :: rest =>
    match byte? a b with
    | some x => consChar x (basicBody rest)
    | none => none
  | '\\' :: 'u' :: a :: b :: c :: d :: rest =>
    match short? a b c d with
    | some x => consChar x (basicBody rest)
    | none => none
  | '\\' :: 'U' :: a :: b :: c :: d :: e :: f :: g :: h :: rest =>
    match long? a b c d e f g h with
    | some x => consChar x (basicBody rest)
    | none => none
  | '\\' :: c :: rest =>
    match unescape? c with
    | some x => consChar x (basicBody rest)
    | none => none
  | c :: rest => if isControl c || c = '\n' then none else consChar c (basicBody rest)

/-- Literal text up to the closing quote, and what follows it. -/
def literalBody : List Char → Option (List Char × List Char)
  | [] => none
  | '\'' :: rest => some ([], rest)
  | c :: rest => if isControl c || c = '\n' then none else consChar c (literalBody rest)

/-- Only blanks stand before the end of the line. -/
def endsLine (cs : List Char) : Bool :=
  match cs.dropWhile isBlank with
  | '\n' :: _ | '\r' :: '\n' :: _ => true
  | _ => false

/-- Basic text of several lines up to the closing quotes. While `skipping` holds, after a backslash at the
end of a line, blanks and line ends are passed over. -/
def basicLinesBody : Bool → List Char → Option (List Char × List Char)
  | _, [] => none
  | true, ' ' :: rest => basicLinesBody true rest
  | true, '\t' :: rest => basicLinesBody true rest
  | true, '\n' :: rest => basicLinesBody true rest
  | true, '\r' :: '\n' :: rest => basicLinesBody true rest
  | _, '"' :: '"' :: '"' :: '"' :: '"' :: rest => some (['"', '"'], rest)
  | _, '"' :: '"' :: '"' :: '"' :: rest => some (['"'], rest)
  | _, '"' :: '"' :: '"' :: rest => some ([], rest)
  | _, '\\' :: 'x' :: a :: b :: rest =>
    match byte? a b with
    | some x => consChar x (basicLinesBody false rest)
    | none => none
  | _, '\\' :: 'u' :: a :: b :: c :: d :: rest =>
    match short? a b c d with
    | some x => consChar x (basicLinesBody false rest)
    | none => none
  | _, '\\' :: 'U' :: a :: b :: c :: d :: e :: f :: g :: h :: rest =>
    match long? a b c d e f g h with
    | some x => consChar x (basicLinesBody false rest)
    | none => none
  | _, '\\' :: c :: rest =>
    match unescape? c with
    | some x => consChar x (basicLinesBody false rest)
    | none => if endsLine (c :: rest) then basicLinesBody true (c :: rest) else none
  | _, '\r' :: '\n' :: rest => consChar '\r' (consChar '\n' (basicLinesBody false rest))
  | _, c :: rest => if isControl c then none else consChar c (basicLinesBody false rest)

/-- Literal text of several lines up to the closing quotes. -/
def literalLinesBody : List Char → Option (List Char × List Char)
  | [] => none
  | '\'' :: '\'' :: '\'' :: '\'' :: '\'' :: rest => some (['\'', '\''], rest)
  | '\'' :: '\'' :: '\'' :: '\'' :: rest => some (['\''], rest)
  | '\'' :: '\'' :: '\'' :: rest => some ([], rest)
  | '\r' :: '\n' :: rest => consChar '\r' (consChar '\n' (literalLinesBody rest))
  | c :: rest => if isControl c then none else consChar c (literalLinesBody rest)

/-- Drops a line end right after an opening triple quote. -/
def dropLineEnd : List Char → List Char
  | '\n' :: rest => rest
  | '\r' :: '\n' :: rest => rest
  | cs => cs

/-- A string of one line, as in keys. -/
def lineString : List Char → Option (List Char × List Char)
  | '"' :: rest => basicBody rest
  | '\'' :: rest => literalBody rest
  | _ => none

/-- A string in any form. -/
def anyString : List Char → Option (List Char × List Char)
  | '"' :: '"' :: '"' :: rest => basicLinesBody false (dropLineEnd rest)
  | '\'' :: '\'' :: '\'' :: rest => literalLinesBody (dropLineEnd rest)
  | cs => lineString cs

end Toml
end ClusterReads
