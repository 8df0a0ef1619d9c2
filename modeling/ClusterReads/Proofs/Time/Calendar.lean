import ClusterReads.Time.Calendar

/-!
# Day numbers and dates

Main statements: the date of a day number exists in the calendar, and has that number.
-/
namespace ClusterReads
namespace Time
namespace Date

/-- A day of an era of four centuries, by century, group of four years, year and day of the year.
Only the last year of a group has a 366th day, and the last year of a century only where the century
is the last. -/
structure EraDay (d c q t w : Int) : Prop where
  century : 0 ≤ c ∧ c ≤ 3
  group : 0 ≤ q ∧ q ≤ 24
  year : 0 ≤ t ∧ t ≤ 3
  day_nonneg : 0 ≤ w
  day_le : w ≤ 364 ∨ (w = 365 ∧ t = 3 ∧ (q < 24 ∨ c = 3))
  eq : d = 36524 * c + 1461 * q + 365 * t + w

theorem exists_eraDay {d : Int} (hlow : 0 ≤ d)
    (hhigh : d < 146097) : ∃ c q t w, EraDay d c q t w := by
  by_cases hlast : d = 146096
  · exact ⟨3, 24, 3, 365, by omega, by omega, by omega, by omega, by omega, by omega⟩
  by_cases hleap : d % 36524 % 1461 = 1460
  · exact ⟨d / 36524, d % 36524 / 1461, 3, 365,
      by omega, by omega, by omega, by omega, by omega, by omega⟩
  · exact ⟨d / 36524, d % 36524 / 1461, d % 36524 % 1461 / 365, d % 36524 % 1461 % 365, by omega,
      by omega, by omega, by omega, by omega, by omega⟩

/-- The year of the era, counted without looking at the groups. -/
theorem EraDay.year_eq {d c q t w : Int} (h : EraDay d c q t w) :
    (d - d / 1460 + d / 36524 - d / 146096) / 365 = 100 * c + 4 * q + t := by
  obtain ⟨hc, hq, ht, hw, hle, hd⟩ := h
  by_cases hlast : d = 146096
  · omega
  have hera : d / 146096 = 0 := by omega
  have hcentury : d / 36524 = c := by omega
  have hgroup : (d / 1460 = 25 * c + q ∧ w ≤ 364) ∨ (d / 1460 = 25 * c + q + 1 ∧ 1 ≤ w) := by omega
  omega

/-- The day of the year, from the days of the years before. -/
theorem EraDay.day_eq {d c q t w : Int} (h : EraDay d c q t w) :
    d - (365 * (100 * c + 4 * q + t) + (100 * c + 4 * q + t) / 4 - (100 * c + 4 * q + t) / 100) =
      w := by
  obtain ⟨hc, hq, ht, hw, hle, hd⟩ := h
  have hfour : (100 * c + 4 * q + t) / 4 = 25 * c + q := by omega
  have hhundred : (100 * c + 4 * q + t) / 100 = c := by omega
  omega

/-- The parts of a day number: era, century, group of years, year, day of the year and month, where
years start in March. -/
theorem exists_parts (n : Int) : ∃ era c q t w m : Int,
    EraDay (n + epochOffset - era * eraDays) c q t w ∧
    0 ≤ m ∧ m ≤ 11 ∧ (153 * m + 2) / 5 ≤ w ∧ w < (153 * (m + 1) + 2) / 5 ∧
    (ofNumber n).year = era * 400 + (100 * c + 4 * q + t) + (if m < 10 then 0 else 1) ∧
    ((ofNumber n).month : Int) = (if m < 10 then m + 3 else m - 9) ∧
    ((ofNumber n).day : Int) = w - (153 * m + 2) / 5 + 1 := by
  have hlow : 0 ≤ (n + epochOffset) % eraDays := Int.emod_nonneg _ (by decide)
  have hhigh : (n + epochOffset) % eraDays < 146097 := Int.emod_lt_of_pos _ (by decide)
  obtain ⟨c, q, t, w, h⟩ := exists_eraDay hlow hhigh
  have hw : 0 ≤ w ∧ w ≤ 365 := ⟨h.day_nonneg, by rcases h.day_le with h | h <;> omega⟩
  have hmod : n + epochOffset - (n + epochOffset) / eraDays * eraDays =
      (n + epochOffset) % eraDays := by
    rw [Int.emod_def, Int.mul_comm]
  refine ⟨(n + epochOffset) / eraDays, c, q, t, w, (5 * w + 2) / 153, hmod ▸ h, by omega, by omega,
    by omega, by omega, ?_⟩
  rw [ofNumber]
  simp only [h.year_eq, h.day_eq]
  by_cases hm : (5 * w + 2) / 153 < 10
  · simp only [if_pos hm]
    refine ⟨?_, by omega, by omega⟩
    rw [if_neg (by omega)]
  · simp only [if_neg hm]
    refine ⟨?_, by omega, by omega⟩
    rw [if_pos (by omega)]

/-- The date of a day has the number of the day. -/
theorem number_ofNumber (n : Int) : (ofNumber n).number = n := by
  obtain ⟨era, c, q, t, w, m, h, hm0, hm11, hlow, hhigh, hyear, hmonth, hday⟩ := exists_parts n
  obtain ⟨hc, hq, ht, hw, hle, hd⟩ := h
  have hmarch : (if (ofNumber n).month ≤ 2 then (ofNumber n).year - 1 else (ofNumber n).year) =
      era * 400 + (100 * c + 4 * q + t) := by
    by_cases hm : m < 10
    · rw [if_pos hm] at hyear hmonth
      rw [if_neg (by omega)]
      omega
    · rw [if_neg hm] at hyear hmonth
      rw [if_pos (by omega)]
      omega
  have hmonths : (((ofNumber n).month : Int) + 9) % 12 = m := by
    rw [hmonth]
    split <;> omega
  have hera : (era * 400 + (100 * c + 4 * q + t)) / 400 = era := by omega
  have hofEra : (era * 400 + (100 * c + 4 * q + t)) % 400 = 100 * c + 4 * q + t := by omega
  have hfour : (100 * c + 4 * q + t) / 4 = 25 * c + q := by omega
  have hhundred : (100 * c + 4 * q + t) / 100 = c := by omega
  rw [number]
  simp only [hmarch, hera, hofEra, hfour, hhundred, hday, hmonths]
  omega

theorem month_bounds (n : Int) : 1 ≤ (ofNumber n).month ∧ (ofNumber n).month ≤ 12 := by
  obtain ⟨era, c, q, t, w, m, -, hm0, hm11, -, -, -, hmonth, -⟩ := exists_parts n
  split at hmonth <;> omega

/-- The date of a day exists. -/
theorem isValid_ofNumber (n : Int) : (ofNumber n).isValid = true := by
  have hbounds := month_bounds n
  obtain ⟨era, c, q, t, w, m, h, hm0, hm11, hlow, hhigh, hyear, hmonth, hday⟩ := exists_parts n
  obtain ⟨hc, hq, ht, hw, hle, hd⟩ := h
  have hlength : (ofNumber n).day ≤ daysInMonth (ofNumber n).year (ofNumber n).month := by
    rw [daysInMonth]
    by_cases hfeb : (ofNumber n).month = 2
    · -- February ends the year that starts in March
      have hm : m = 11 := by split at hmonth <;> omega
      subst hm
      rw [if_neg (by decide)] at hyear
      rw [if_pos hfeb, isLeapYear]
      by_cases hlast : w = 365
      · rw [if_pos]
        · omega
        · have hfour : (ofNumber n).year % 4 = 0 := by omega
          have hcentury : (ofNumber n).year % 100 = 0 → (ofNumber n).year % 400 = 0 := by omega
          simp only [hfour, beq_self_eq_true, Bool.true_and, Bool.or_eq_true, bne_iff_ne, ne_eq,
            beq_iff_eq]
          omega
      · split <;> omega
    · rw [if_neg hfeb]
      split at hmonth <;> split <;> omega
  have hday1 : 1 ≤ (ofNumber n).day := by omega
  simp only [isValid, hbounds.1, hbounds.2, hday1, hlength, decide_true, Bool.and_self]

theorem day_le (n : Int) : (ofNumber n).day ≤ 31 := by
  have hvalid := isValid_ofNumber n
  simp only [isValid, Bool.and_eq_true, decide_eq_true_eq] at hvalid
  refine Nat.le_trans hvalid.2 ?_
  unfold daysInMonth
  split
  · split <;> decide
  split <;> decide

end Date
end Time
end ClusterReads
