import ClusterReads.Proofs.Decimal.Digits
import ClusterReads.Proofs.Text.Scan
import ClusterReads.Proofs.Time.Calendar
import ClusterReads.Time.Timestamp

/-!
# Timestamps read back

Each scan takes what is written for it. Main statement: the text of a timestamp is read as that
timestamp.
-/
namespace ClusterReads
namespace Timestamp

open Decimal Text Text.Scan

/-- The next character is no digit. -/
def EndsDigits (rest : List Char) : Prop :=
  ∀ c, rest.head? = some c → c.isDigit = false

theorem endsDigits_cons {c : Char} (h : c.isDigit = false)
    (rest : List Char) : EndsDigits (c :: rest) := by
  intro d hd
  cases hd
  exact h

theorem takeWhile_digits {ds rest : List Char} (hds : ∀ c ∈ ds, c.isDigit = true)
    (hrest : EndsDigits rest) : (ds ++ rest).takeWhile Char.isDigit = ds :=
  congrArg Prod.fst (span_append hds hrest)

theorem digitsUpTo_append {width : Nat} {ds rest : List Char} (hds : ∀ c ∈ ds, c.isDigit = true)
    (hne : ds ≠ []) (hwidth : ds.length ≤ width) (hrest : EndsDigits rest) :
    digitsUpTo width (ds ++ rest) = some (ds, rest) := by
  unfold digitsUpTo
  simp only [takeWhile_digits hds hrest, List.take_of_length_le hwidth]
  rw [if_neg (by simpa using hne), List.drop_left]

theorem digits_append {ds rest : List Char} (hds : ∀ c ∈ ds, c.isDigit = true) (hne : ds ≠ [])
    (hrest : EndsDigits rest) : Scan.digits (ds ++ rest) = some (ds, rest) := by
  unfold Scan.digits
  simp only [takeWhile_digits hds hrest]
  rw [if_neg (by simpa using hne), List.drop_left]

theorem numberUpTo_padded {width k n : Nat} {rest : List Char} (hn : n < 10 ^ k) (hk : 0 < k)
    (hwidth : k ≤ width) (hrest : EndsDigits rest) :
    numberUpTo width (padded k n ++ rest) = some (n, rest) := by
  have hds : digitsUpTo width (padded k n ++ rest) = some (padded k n, rest) :=
    digitsUpTo_append (fun _ => isDigit_of_mem_padded) (padded_ne_nil k n)
      (by rw [padded_length hn hk]; exact hwidth) hrest
  rw [numberUpTo, map_scan _ hds, value_padded]

theorem number_padded {k n : Nat} {rest : List Char} (hrest : EndsDigits rest) :
    number (padded k n ++ rest) = some (n, rest) := by
  rw [number, map_scan _ (digits_append (fun _ => isDigit_of_mem_padded) (padded_ne_nil k n) hrest),
    value_padded]

theorem isWhite_of_isDigit {c : Char} (h : c.isDigit = true) : isWhite c = false := by
  simp only [Char.isDigit, Bool.and_eq_true, decide_eq_true_eq] at h
  have hlow : 48 ≤ c.toNat := UInt32.le_iff_toNat_le.1 h.1
  have hhigh : c.toNat ≤ 57 := UInt32.le_iff_toNat_le.1 h.2
  have hrange : ∀ n : Fin 58, 48 ≤ n.val → inRanges whiteRanges n.val = false := by decide
  exact hrange ⟨c.toNat, by omega⟩ hlow

/-- White space is skipped only where there is some. -/
theorem blanks_cons {c : Char} (h : isWhite c = false) (cs : List Char) :
    blanks (c :: cs) = some ((), c :: cs) := by
  simp [blanks, skipWhile, h]

theorem blanks_padded (k n : Nat) (rest : List Char) :
    blanks (padded k n ++ rest) = some ((), padded k n ++ rest) := by
  cases h : padded k n with
  | nil => exact absurd h (padded_ne_nil k n)
  | cons c cs =>
    have hc : c.isDigit = true := isDigit_of_mem_padded (k := k) (n := n) (h ▸ List.mem_cons_self)
    exact blanks_cons (isWhite_of_isDigit hc) _

theorem scanMark_cons {c : Char} (h : isWhite c = false) (rest : List Char) :
    scanMark c (c :: rest) = some ((), rest) := by
  rw [scanMark, bind_scan (blanks_cons h rest)]
  simp [Scan.char]

theorem scanField_padded {n : Nat} {rest : List Char} (hn : n < 100) (hrest : EndsDigits rest) :
    scanField (padded 2 n ++ rest) = some (n, rest) := by
  rw [scanField, bind_scan (blanks_padded 2 n rest)]
  exact numberUpTo_padded hn (by decide) (Nat.le_refl 2) hrest

theorem scanYear_yearChars (year : Int) {rest : List Char} (hrest : EndsDigits rest) :
    scanYear (yearChars year ++ rest) = some (year, rest) := by
  unfold yearChars
  split
  · next h =>
    have hn : year.toNat < 10 ^ 4 := by omega
    have hvalue : (year.toNat : Int) = year := by omega
    cases hds : padded 4 year.toNat with
    | nil => exact absurd hds (padded_ne_nil 4 _)
    | cons c cs =>
      have hc : c.isDigit = true :=
        isDigit_of_mem_padded (k := 4) (n := year.toNat) (hds ▸ List.mem_cons_self)
      have hnumber : numberUpTo 4 (padded 4 year.toNat ++ rest) = some (year.toNat, rest) :=
        numberUpTo_padded hn (by decide) (Nat.le_refl 4) hrest
      rw [hds, List.cons_append] at hnumber
      rw [List.cons_append, scanYear, bind_scan (blanks_cons (isWhite_of_isDigit hc) _),
        bind_scan (show peek (c :: (cs ++ rest)) = some (some c, c :: (cs ++ rest)) from rfl)]
      have hminus : c ≠ '-' := fun h => by simp [h] at hc
      have hplus : c ≠ '+' := fun h => by simp [h] at hc
      simp only [Option.some.injEq, hminus, hplus, imp_self]
      rw [bind_scan hnumber, pure_scan, hvalue]
  · next h =>
    by_cases hneg : year < 0
    · have hvalue : -(year.natAbs : Int) = year := by omega
      rw [if_pos hneg, List.cons_append, scanYear, bind_scan (blanks_cons (by decide) _),
        bind_scan (show peek ('-' :: (padded 4 year.natAbs ++ rest)) = some (some '-', _) from rfl)]
      simp only
      rw [bind_scan (show any ('-' :: (padded 4 year.natAbs ++ rest)) = some ('-', _) from rfl),
        bind_scan (number_padded hrest), pure_scan, hvalue]
    · have hvalue : (year.natAbs : Int) = year := by omega
      rw [if_neg hneg, List.cons_append, scanYear, bind_scan (blanks_cons (by decide) _),
        bind_scan (show peek ('+' :: (padded 4 year.natAbs ++ rest)) = some (some '+', _) from rfl)]
      simp only
      rw [bind_scan (show any ('+' :: (padded 4 year.natAbs ++ rest)) = some ('+', _) from rfl),
        bind_scan (number_padded hrest), pure_scan, hvalue]

/-- A point and so many digits count from the first place after the second. -/
theorem scanFraction_padded {k n : Nat} {rest : List Char} (hn : n < 10 ^ k) (hk : 0 < k)
    (hk9 : k ≤ 9) (hrest : EndsDigits rest) :
    scanFraction ('.' :: (padded k n ++ rest)) = some (n * tenTo (9 - k), rest) := by
  have hds : digitsUpTo 9 (padded k n ++ rest) = some (padded k n, rest) :=
    digitsUpTo_append (fun _ => isDigit_of_mem_padded) (padded_ne_nil k n)
      (by rw [padded_length hn hk]; exact hk9) hrest
  have hskip : skipWhile Char.isDigit rest = some ((), rest) := by
    cases rest with
    | nil => rfl
    | cons c cs => simp [skipWhile, hrest c rfl]
  rw [scanFraction, bind_scan (show peek ('.' :: (padded k n ++ rest)) = some (some '.', _)
    from rfl)]
  simp only
  rw [bind_scan (show any ('.' :: (padded k n ++ rest)) = some ('.', _) from rfl), bind_scan hds,
    bind_scan hskip, pure_scan, value_padded, padded_length hn hk]

theorem scanFraction_fractionChars {nano : Nat} (hn : nano < billion) (rest : List Char) :
    scanFraction (fractionChars nano ++ 'Z' :: rest) = some (nano, 'Z' :: rest) := by
  have hend : EndsDigits ('Z' :: rest) := endsDigits_cons rfl rest
  rw [billion] at hn
  unfold fractionChars
  split
  · next h =>
    subst h
    rfl
  split
  · next h =>
    rw [List.cons_append, scanFraction_padded (by omega) (by decide) (by decide) hend]
    change some (nano / 1000000 * 1000000, _) = _
    rw [Nat.div_mul_cancel (Nat.dvd_of_mod_eq_zero h)]
  split
  · next h =>
    rw [List.cons_append, scanFraction_padded (by omega) (by decide) (by decide) hend]
    change some (nano / 1000 * 1000, _) = _
    rw [Nat.div_mul_cancel (Nat.dvd_of_mod_eq_zero h)]
  · rw [List.cons_append, scanFraction_padded hn (by decide) (by decide) hend]
    change some (nano * 1, _) = _
    rw [Nat.mul_one]

theorem scanOffset_utc : scanOffset ['Z'] = some (0, []) := by
  decide

/-- A minute that ends in a leap second is one second longer. -/
theorem splitSecond_leap {second nano : Nat}
    (h : nano < billion ∨ (second % 60 = 59 ∧ nano < 2 * billion)) :
    splitSecond (second % 60 + nano / billion) = (second % 60, nano / billion * billion) := by
  rw [billion] at *
  rcases h with h | ⟨hlast, h⟩
  · have hzero : nano / 1000000000 = 0 := by omega
    have hlt : second % 60 < 60 := Nat.mod_lt _ (by decide)
    rw [hzero, splitSecond, if_neg (by omega), Nat.add_zero, Nat.zero_mul]
  · by_cases hleap : nano < 1000000000
    · have hzero : nano / 1000000000 = 0 := by omega
      rw [hzero, splitSecond, if_neg (by omega), Nat.add_zero, Nat.zero_mul]
    · have hone : nano / 1000000000 = 1 := by omega
      rw [hone, hlast, splitSecond, if_pos rfl, Nat.one_mul, billion]

theorem atOffset?_utc (t : Timestamp) :
    atOffset? (Time.Date.ofNumber t.day) t.second t.nano 0 = some t := by
  obtain ⟨day, second, nano, hs, hn, hd⟩ := t
  have hquot : ((second : Int) - 60 * 0) / 86400 = 0 := by omega
  have hrem : (((second : Int) - 60 * 0) % 86400).toNat = second := by omega
  simp only [atOffset?, Time.Date.isValid_ofNumber, hd, Time.Date.number_ofNumber, hquot, hrem]
  simp [ofParts?, hs, hn, hd]

/-- The parts of a written timestamp are scanned one after the other. -/
theorem scan_chars (t : Timestamp) : scan t.chars = some (t, []) := by
  have hmonth := Time.Date.month_bounds t.day
  have hlength := Time.Date.day_le t.day
  have hsecond := t.second_lt
  have hleap : t.nano / billion ≤ 1 ∧ (t.second % 60 + t.nano / billion ≤ 60) := by
    have hnano := t.nano_lt
    rw [billion] at *
    omega
  have hnano : t.nano % billion < billion := Nat.mod_lt _ (by decide)
  have hmark : ∀ {c : Char} (rest : List Char), c.isDigit = false → EndsDigits (c :: rest) :=
    fun rest hc => endsDigits_cons hc rest
  have hfraction : EndsDigits (fractionChars (t.nano % billion) ++ ['Z']) := by
    unfold fractionChars
    split
    · exact endsDigits_cons rfl []
    split
    · exact endsDigits_cons rfl _
    split <;> exact endsDigits_cons rfl _
  have hchars : t.chars = yearChars (Time.Date.ofNumber t.day).year ++
      ('-' :: (padded 2 (Time.Date.ofNumber t.day).month ++
      ('-' :: (padded 2 (Time.Date.ofNumber t.day).day ++
      ('T' :: (padded 2 (t.second / 3600) ++ (':' :: (padded 2 (t.second / 60 % 60) ++
      (':' :: (padded 2 (t.second % 60 + t.nano / billion) ++
      (fractionChars (t.nano % billion) ++ ['Z']))))))))))) := by
    simp [chars]
  rw [hchars, scan, bind_scan (scanYear_yearChars _ (hmark _ rfl)),
    bind_scan (scanMark_cons rfl _), bind_scan (scanField_padded (by omega) (hmark _ rfl)),
    bind_scan (scanMark_cons rfl _), bind_scan (scanField_padded (by omega) (hmark _ rfl)),
    bind_scan (show sat (fun c => c = 'T' || c = 't' || c = ' ') ('T' :: _) = some ('T', _)
      from rfl),
    bind_scan (scanField_padded (by omega) (hmark _ rfl)),
    bind_scan (scanMark_cons rfl _), bind_scan (scanField_padded (by omega) (hmark _ rfl)),
    bind_scan (scanMark_cons rfl _), bind_scan (scanField_padded (by omega) hfraction),
    bind_scan (scanFraction_fractionChars hnano []), bind_scan (blanks_cons (by decide) []),
    bind_scan scanOffset_utc, bind_scan (show blanks [] = some ((), []) from rfl)]
  have hclock : t.second / 3600 < 24 ∧ t.second / 60 % 60 < 60 ∧
      t.second % 60 + t.nano / billion ≤ 60 := by
    omega
  have hday : 3600 * (t.second / 3600) + 60 * (t.second / 60 % 60) + t.second % 60 =
      t.second := by omega
  have hpoint : t.nano / billion * billion + t.nano % billion = t.nano := Nat.div_add_mod' _ _
  rw [if_pos hclock, splitSecond_leap t.nano_lt]
  simp only [hday, hpoint]
  rw [show (⟨(Time.Date.ofNumber t.day).year, (Time.Date.ofNumber t.day).month,
    (Time.Date.ofNumber t.day).day⟩ : Time.Date) = Time.Date.ofNumber t.day from rfl, atOffset?_utc]
  rfl

/-- The text of a timestamp names it. -/
theorem ofText?_text (t : Timestamp) : ofText? t.text = some t := by
  rw [ofText?, whole?, text, String.toList_ofList, scan_chars]

end Timestamp
end ClusterReads
