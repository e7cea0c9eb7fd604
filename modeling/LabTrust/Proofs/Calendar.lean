/-
Every number of days is a day of the calendar.

Four centuries have 146097 days. A day of these is found by its century, the four years it lies in,
the year of these and the day of that year (`exists_parts`); the day numbers of `Date` agree with
this (`yearOfEra_parts`), and so
* `valid_ofDayNumber`: the date of a number of days is one that the calendar has,
* `dayNumber_ofDayNumber`: and leads back to the number,
* `year_ofDayNumber_lt_iff`: and it lies before a year if its number is below that of the year's
  first day.
-/
import LabTrust.Calendar
import Mathlib.Tactic.Common

namespace LabTrust

namespace Date

/-! ### The parts of a day of four centuries -/

/-- The century, the four years, the year and the day of a day of four centuries. Years are counted
from March; only the last of four has 366 days, and of the last years of centuries only the last. -/
structure Parts (c q a r : Int) : Prop where
  century : 0 ≤ c ∧ c ≤ 3
  four : 0 ≤ q ∧ q ≤ 24
  year : 0 ≤ a ∧ a ≤ 3
  day : 0 ≤ r ∧ r ≤ 365
  leap : r = 365 → a = 3 ∧ (q = 24 → c = 3)

lemma exists_parts {d : Int} (h₀ : 0 ≤ d) (h : d ≤ 146096) :
    ∃ c q a r, Parts c q a r ∧ d = 36524 * c + 1461 * q + 365 * a + r := by
  obtain ⟨c, hc⟩ : ∃ c, c = min (d / 36524) 3 := ⟨_, rfl⟩
  obtain ⟨e, he⟩ : ∃ e, e = d - 36524 * c := ⟨_, rfl⟩
  have he' : 0 ≤ e ∧ e ≤ 36524 ∧ (e = 36524 → c = 3) := by omega
  obtain ⟨f, hf⟩ : ∃ f, f = e % 1461 := ⟨_, rfl⟩
  refine ⟨c, e / 1461, min (f / 365) 3, f - 365 * min (f / 365) 3, ⟨?_, ?_, ?_, ?_, ?_⟩, ?_⟩
  all_goals omega

/-- The year of four centuries that a day lies in. -/
lemma yearOfEra_parts {d c q a r : Int} (h : Parts c q a r)
    (hd : d = 36524 * c + 1461 * q + 365 * a + r) :
    (d - d / 1460 + d / 36524 - d / 146096) / 365 = 100 * c + 4 * q + a := by
  obtain ⟨⟨hc₀, hc⟩, ⟨hq₀, hq⟩, ⟨ha₀, ha⟩, ⟨hr₀, hr⟩, hleap⟩ := h
  by_cases hlast : d = 146096
  · subst hlast
    have hend : c = 3 ∧ q = 24 ∧ a = 3 ∧ r = 365 := by omega
    obtain ⟨rfl, rfl, rfl, rfl⟩ := hend
    rfl
  · have hcentury : d / 36524 = c := by omega
    have hera : d / 146096 = 0 := by omega
    -- of 1460 days, a century has 25 times as many and 24 more, four years one more
    have hfour : d / 1460 = 25 * c + q + (24 * c + q + 365 * a + r) / 1460 := by omega
    rw [hcentury, hera, hfour]
    omega

/-- The day of a year, counted from March. -/
lemma dayOfYear_parts {d c q a r y : Int} (h : Parts c q a r)
    (hd : d = 36524 * c + 1461 * q + 365 * a + r) (hy : y = 100 * c + 4 * q + a) :
    d - (365 * y + y / 4 - y / 100) = r := by
  obtain ⟨⟨hc₀, hc⟩, ⟨hq₀, hq⟩, ⟨ha₀, ha⟩, -, -⟩ := h
  have hfour : y / 4 = 25 * c + q := by omega
  have hcentury : y / 100 = c := by omega
  rw [hfour, hcentury]
  omega

/-! ### Dates of day numbers -/

/-- A day number as a date, in terms of the parts of its day. -/
lemma ofDayNumber_parts (n : Int) : ∃ era c q a r, Parts c q a r ∧
    n = 146097 * era + (36524 * c + 1461 * q + 365 * a + r) - 719468 ∧
      ofDayNumber n =
        { year := 400 * era + (100 * c + 4 * q + a) + (if (5 * r + 2) / 153 < 10 then 0 else 1),
          month := (if (5 * r + 2) / 153 < 10 then (5 * r + 2) / 153 + 3
            else (5 * r + 2) / 153 - 9).toNat,
          day := (r - (153 * ((5 * r + 2) / 153) + 2) / 5 + 1).toNat } := by
  obtain ⟨d, hd⟩ : ∃ d, d = (n + 719468) % 146097 := ⟨_, rfl⟩
  obtain ⟨c, q, a, r, hparts, hsum⟩ := exists_parts (d := d) (by omega) (by omega)
  refine ⟨(n + 719468) / 146097, c, q, a, r, hparts, by omega, ?_⟩
  have hyear := yearOfEra_parts hparts hsum
  have hday := dayOfYear_parts hparts hsum rfl
  simp only [ofDayNumber, ← hd, hyear, hday]

/-- A month, counted from March, and its days; the last may be short. -/
lemma month_cases {r : Int} (h : 0 ≤ r ∧ r ≤ 365) :
    ∃ m k : Int, (5 * r + 2) / 153 = m ∧ r - (153 * m + 2) / 5 + 1 = k ∧ 1 ≤ k ∧
      ((m = 0 ∨ m = 2 ∨ m = 4 ∨ m = 5 ∨ m = 7 ∨ m = 9 ∨ m = 10) ∧ k ≤ 31 ∨
        (m = 1 ∨ m = 3 ∨ m = 6 ∨ m = 8) ∧ k ≤ 30 ∨
          m = 11 ∧ k ≤ 29 ∧ (k = 29 → r = 365)) := by
  refine ⟨(5 * r + 2) / 153, _, rfl, rfl, ?_⟩
  omega

lemma isLeap_of_parts {era c q a : Int} (h : Parts c q a 365) :
    isLeap (400 * era + (100 * c + 4 * q + a) + 1) = true := by
  obtain ⟨⟨hc₀, hc⟩, ⟨hq₀, hq⟩, -, -, hleap⟩ := h
  obtain ⟨rfl, hlast⟩ := hleap rfl
  have hfour : (400 * era + (100 * c + 4 * q + 3) + 1) % 4 = 0 := by omega
  by_cases hq' : q = 24
  · have hall : (400 * era + (100 * c + 4 * q + 3) + 1) % 400 = 0 := by
      have hc' := hlast hq'
      omega
    simp [isLeap, hfour, hall]
  · have hcentury : (400 * era + (100 * c + 4 * q + 3) + 1) % 100 ≠ 0 := by omega
    simp [isLeap, hfour, hcentury]

/-- The calendar has the date of a number of days. -/
lemma valid_ofDayNumber (n : Int) : (ofDayNumber n).Valid := by
  obtain ⟨era, c, q, a, r, hparts, -, hdate⟩ := ofDayNumber_parts n
  obtain ⟨m, k, hm, hk, hk₁, hcases⟩ := month_cases hparts.day
  rw [hdate]
  simp only [hm, hk, Valid, daysIn]
  rcases hcases with ⟨h, hk₂⟩ | ⟨h, hk₂⟩ | ⟨rfl, hk₂, hleap⟩
  · rcases h with rfl | rfl | rfl | rfl | rfl | rfl | rfl <;> simp <;> omega
  · rcases h with rfl | rfl | rfl | rfl <;> simp <;> omega
  · by_cases hk₃ : k = 29
    · obtain rfl := hleap hk₃
      simp [isLeap_of_parts hparts]
      omega
    · simp
      split <;> omega

/-- The date of a number of days leads back to it. -/
lemma dayNumber_ofDayNumber (n : Int) : (ofDayNumber n).dayNumber = n := by
  obtain ⟨era, c, q, a, r, hparts, hn, hdate⟩ := ofDayNumber_parts n
  obtain ⟨m, k, hm, hk, hk₁, hcases⟩ := month_cases hparts.day
  obtain ⟨⟨hc₀, hc⟩, ⟨hq₀, hq⟩, ⟨ha₀, ha⟩, -, -⟩ := hparts
  have hfour : (400 * era + (100 * c + 4 * q + a)) / 4 = 100 * era + 25 * c + q := by omega
  have hcentury : (400 * era + (100 * c + 4 * q + a)) / 100 = 4 * era + c := by omega
  have hall : (400 * era + (100 * c + 4 * q + a)) / 400 = era := by omega
  have hmonth : 0 ≤ m ∧ m ≤ 11 := by omega
  rw [hdate]
  simp only [hm, hk, dayNumber]
  by_cases hlate : m < 10
  · have hle : ¬ (m + 3).toNat ≤ 2 := by omega
    have hcast : (((m + 3).toNat : ℕ) : Int) = m + 3 := by omega
    simp only [hlate, if_true, hle, if_false, Int.add_zero, hfour, hcentury, hall, hcast]
    omega
  · have hle : (m - 9).toNat ≤ 2 := by omega
    have hcast : (((m - 9).toNat : ℕ) : Int) = m - 9 := by omega
    simp only [hlate, if_false, hle, if_true, Int.add_sub_cancel, hfour, hcentury, hall, hcast]
    omega

/-- A day lies before a year if its number is below that of the first day of the year. -/
lemma year_ofDayNumber_lt_iff (n y : Int) :
    (ofDayNumber n).year < y ↔ n < (⟨y, 1, 1⟩ : Date).dayNumber := by
  obtain ⟨era, c, q, a, r, hparts, hn, hdate⟩ := ofDayNumber_parts n
  obtain ⟨⟨hc₀, hc⟩, ⟨hq₀, hq⟩, ⟨ha₀, ha⟩, ⟨hr₀, hr⟩, -⟩ := hparts
  have hfirst : (⟨y, 1, 1⟩ : Date).dayNumber =
      365 * (y - 1) + (y - 1) / 4 - (y - 1) / 100 + (y - 1) / 400 - 719162 := by
    simp only [dayNumber, show (1 : ℕ) ≤ 2 by decide, if_true]
    omega
  obtain ⟨x, hx⟩ : ∃ x, x = 400 * era + (100 * c + 4 * q + a) := ⟨_, rfl⟩
  have hsum : n = 365 * x + x / 4 - x / 100 + x / 400 + r - 719468 := by
    have hfour : x / 4 = 100 * era + 25 * c + q := by omega
    have hcentury : x / 100 = 4 * era + c := by omega
    have hall : x / 400 = era := by omega
    omega
  rw [hdate, hfirst]
  simp only [← hx]
  -- years are counted from March, so those days that come after December belong to the next
  by_cases hlate : (5 * r + 2) / 153 < 10
  · have hday : r ≤ 305 := by omega
    rw [if_pos hlate, Int.add_zero]
    omega
  · have hday : 306 ≤ r := by omega
    rw [if_neg hlate]
    omega

end Date

end LabTrust
