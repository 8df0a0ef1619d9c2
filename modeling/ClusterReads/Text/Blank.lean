/-!
# Blank text

A text is blank when trimming white space leaves nothing of it. White space is the Unicode property
`White_Space`, which holds of 25 code points; the zero-width and separator controls next to them
(U+001C to U+001F, U+180E, U+200B, U+FEFF) are not in it.
-/
namespace ClusterReads
namespace Text

/-- The code points with the property `White_Space`, as closed ranges. -/
def whiteRanges : List (Nat × Nat) :=
  [(0x09, 0x0D), (0x20, 0x20), (0x85, 0x85), (0xA0, 0xA0), (0x1680, 0x1680), (0x2000, 0x200A),
    (0x2028, 0x2029), (0x202F, 0x202F), (0x205F, 0x205F), (0x3000, 0x3000)]

/-- Whether a code point lies in one of the ranges. -/
def inRanges (ranges : List (Nat × Nat)) (code : Nat) : Bool :=
  ranges.any fun range => range.1 ≤ code && code ≤ range.2

def isWhite (c : Char) : Bool :=
  inRanges whiteRanges c.toNat

/-- Nothing is left once white space is trimmed from both ends. -/
def isBlank (s : String) : Bool :=
  s.toList.all isWhite

/-- Drops leading white space. -/
def trimStart (cs : List Char) : List Char :=
  cs.dropWhile isWhite

@[simp] theorem isBlank_empty : isBlank "" = true := by
  simp [isBlank]

theorem isBlank_iff (s : String) : isBlank s = true ↔ ∀ c ∈ s.toList, isWhite c = true := by
  simp [isBlank, List.all_eq_true]

/-- A text is blank exactly when trimming its start leaves nothing. -/
theorem isBlank_iff_trimStart (s : String) : isBlank s = true ↔ trimStart s.toList = [] := by
  unfold isBlank trimStart
  induction s.toList with
  | nil => simp
  | cons c rest ih => by_cases h : isWhite c = true <;> simp [h, ih]

/-- Core's ASCII white space is white. -/
theorem isWhite_of_isWhitespace {c : Char} (h : c.isWhitespace = true) : isWhite c = true := by
  simp only [Char.isWhitespace, Bool.or_eq_true, decide_eq_true_eq] at h
  rcases h with ((h | h) | h) | h <;> subst h <;> decide

example : isBlank " \t\u3000\u0085" = true := by decide
example : isBlank "\u200b" = false := by decide

end Text
end ClusterReads
