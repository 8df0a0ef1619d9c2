/-!
# Pieces of text

A text cut once, or at every occurrence of a character. Joining the pieces with that character gives the
text back.
-/
namespace ClusterReads
namespace Text

/-- Cuts at the first character of a class, which is dropped. -/
def cutAt (p : Char → Bool) (cs : List Char) : List Char × Option (List Char) :=
  match cs.dropWhile fun c => !p c with
  | [] => (cs, none)
  | _ :: rest => (cs.takeWhile fun c => !p c, some rest)

/-- Adds a character to the first piece. -/
def toFirst (c : Char) : List (List Char) → List (List Char)
  | [] => [[c]]
  | piece :: rest => (c :: piece) :: rest

/-- The pieces between the marks; there is one more piece than there are marks. -/
def pieces (mark : Char) : List Char → List (List Char)
  | [] => [[]]
  | c :: cs => if c = mark then [] :: pieces mark cs else toFirst c (pieces mark cs)

theorem pieces_ne_nil (mark : Char) (cs : List Char) : pieces mark cs ≠ [] := by
  cases cs with
  | nil => simp [pieces]
  | cons c rest =>
    unfold pieces
    split
    · simp
    · unfold toFirst
      split <;> simp

theorem intercalate_toFirst (mark c : Char) {l : List (List Char)} (h : l ≠ []) :
    [mark].intercalate (toFirst c l) = c :: [mark].intercalate l := by
  match l, h with
  | [piece], _ => simp [toFirst]
  | piece :: next :: rest, _ => simp [toFirst, List.intercalate, List.intersperse]

theorem intercalate_pieces (mark : Char) (cs : List Char) : [mark].intercalate (pieces mark cs) = cs := by
  induction cs with
  | nil => simp [pieces]
  | cons c rest ih =>
    unfold pieces
    split
    · next h =>
      subst h
      match hp : pieces c rest, pieces_ne_nil c rest with
      | piece :: others, _ =>
        rw [hp] at ih
        simpa [List.intercalate, List.intersperse] using ih
    · rw [intercalate_toFirst mark c (pieces_ne_nil mark rest), ih]

example : pieces ',' "a,,b".toList = [['a'], [], ['b']] := by decide

end Text
end ClusterReads
