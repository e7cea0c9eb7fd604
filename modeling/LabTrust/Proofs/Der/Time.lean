/-
Written times are read back.

* `digits?_padded`: a number that was padded with zeros to a width that it fits.
* `readTime?_time`: seconds whose year has four digits, in either of the two forms.
-/
import LabTrust.Der.Time
import LabTrust.Proofs.Calendar
import LabTrust.Proofs.Der.Element
import Mathlib.Algebra.Group.Nat.Defs

namespace LabTrust

/-! ### Digits -/

namespace Bytes

lemma ofChars_append (s t : List Char) : ofChars (s ++ t) = ofChars s ++ ofChars t :=
  List.flatMap_append

lemma ofText_append (s t : String) : ofText (s ++ t) = ofText s ++ ofText t := by
  rw [ofText, String.toList_append, ofChars_append]
  rfl

/-- A digit is one byte. -/
lemma utf8EncodeChar_of_isDigit {c : Char} (h : c.isDigit) :
    String.utf8EncodeChar c = [c.val.toUInt8] ∧ 48 ≤ c.val.toUInt8 ∧ c.val.toUInt8 ≤ 57 ∧
      c.val.toUInt8.toNat = c.toNat := by
  simp only [Char.isDigit, Bool.and_eq_true, decide_eq_true_eq] at h
  have hlow : 48 ≤ c.toNat := UInt32.le_iff_toNat_le.mp h.1
  have hhigh : c.toNat ≤ 57 := UInt32.le_iff_toNat_le.mp h.2
  have hsize : c.utf8Size = 1 := by
    rw [Char.utf8Size_eq_one_iff, UInt32.le_iff_toNat_le]
    exact Nat.le_trans hhigh (by decide)
  have hbyte : c.val.toUInt8.toNat = c.toNat := by
    rw [UInt32.toNat_toUInt8]
    exact Nat.mod_eq_of_lt (Nat.lt_of_le_of_lt hhigh (by decide))
  refine ⟨String.utf8EncodeChar_eq_singleton hsize, ?_, ?_, hbyte⟩
  · rw [UInt8.le_iff_toNat_le, hbyte]
    exact hlow
  · rw [UInt8.le_iff_toNat_le, hbyte]
    exact hhigh

end Bytes

namespace Der

/-- Digits are read as a number. -/
lemma digits?_ofChars {ds : List Char} (h : ∀ c ∈ ds, c.isDigit) (n : ℕ) (rest : Bytes) :
    digits? ds.length n (Bytes.ofChars ds ++ rest) = some (Nat.ofDigitChars 10 ds n, rest) := by
  induction ds generalizing n with
  | nil => rfl
  | cons c ds ih =>
      obtain ⟨hbyte, hlow, hhigh, hvalue⟩ :=
        Bytes.utf8EncodeChar_of_isDigit (h c List.mem_cons_self)
      have hcons : Bytes.ofChars (c :: ds) = c.val.toUInt8 :: Bytes.ofChars ds := by
        rw [Bytes.ofChars, List.flatMap_cons, hbyte]
        rfl
      have hrest := ih (fun d hd => h d (List.mem_cons_of_mem c hd)) (10 * n + (c.toNat - 48))
      rw [hcons, List.cons_append, List.length_cons, digits?, if_pos ⟨hlow, hhigh⟩, hvalue, hrest,
        Nat.ofDigitChars_cons]
      rfl

variable {width n : ℕ}

lemma padded_spec (hw : 0 < width) (h : n < 10 ^ width) :
    (Instant.padded width n).toList.length = width ∧
      (∀ c ∈ (Instant.padded width n).toList, c.isDigit) ∧
        Nat.ofDigitChars 10 (Instant.padded width n).toList 0 = n := by
  have hlength : (Nat.toDigits 10 n).length ≤ width :=
    (Nat.length_toDigits_le_iff (by decide) hw).mpr h
  have hlist : (Instant.padded width n).toList =
      List.replicate (width - (Nat.toDigits 10 n).length) '0' ++ Nat.toDigits 10 n := by
    simp [Instant.padded, Nat.repr_eq_ofList_toDigits]
  rw [hlist]
  refine ⟨?_, ?_, ?_⟩
  · rw [List.length_append, List.length_replicate]
    omega
  · intro c hc
    rcases List.mem_append.mp hc with hc | hc
    · rw [List.eq_of_mem_replicate hc]
      rfl
    · exact Nat.isDigit_of_mem_toDigits (by decide) (by decide) hc
  · rw [Nat.ofDigitChars_append, Nat.ofDigitChars_replicate_zero, Nat.mul_zero,
      Nat.ofDigitChars_ten_toDigits]

/-- A number that fits its width is read back. -/
lemma digits?_padded (hw : 0 < width) (h : n < 10 ^ width) (rest : Bytes) :
    digits? width 0 (Bytes.ofText (Instant.padded width n) ++ rest) = some (n, rest) := by
  obtain ⟨hlength, hdigits, hvalue⟩ := padded_spec hw h
  have hread := digits?_ofChars hdigits 0 rest
  rwa [hlength, hvalue] at hread

lemma length_padded (hw : 0 < width) (h : n < 10 ^ width) :
    (Bytes.ofText (Instant.padded width n)).length = width := by
  obtain ⟨hlength, hdigits, -⟩ := padded_spec hw h
  have hbytes : ∀ ds : List Char, (∀ c ∈ ds, c.isDigit) →
      (Bytes.ofChars ds).length = ds.length := by
    intro ds hds
    induction ds with
    | nil => rfl
    | cons c ds ih =>
        have hc := (Bytes.utf8EncodeChar_of_isDigit (hds c List.mem_cons_self)).1
        rw [Bytes.ofChars, List.flatMap_cons, hc, List.singleton_append, List.length_cons,
          List.length_cons]
        exact congrArg Nat.succ (ih fun d hd => hds d (List.mem_cons_of_mem c hd))
  rw [Bytes.ofText, hbytes _ hdigits, hlength]

/-! ### Times -/

lemma readMinute?_padded {month day hour minute : ℕ} (hmonth : month < 100) (hday : day < 100)
    (hhour : hour < 100) (hminute : minute < 100) (rest : Bytes) :
    readMinute? (Bytes.ofText (Instant.padded 2 month) ++ (Bytes.ofText (Instant.padded 2 day) ++
      (Bytes.ofText (Instant.padded 2 hour) ++ (Bytes.ofText (Instant.padded 2 minute) ++ rest)))) =
        some ((month, day, hour, minute), rest) := by
  have htwo : 0 < 2 := by decide
  simp only [readMinute?, digits?_padded htwo hmonth, digits?_padded htwo hday,
    digits?_padded htwo hhour, digits?_padded htwo hminute, Option.bind_eq_bind, Option.bind_some]
  rfl

/-- The date and the time of a day give back the seconds. -/
lemma seconds?_ofDayNumber (t : Int) :
    seconds? (Date.ofDayNumber (t / 86400)) ((t % 86400).toNat / 3600)
      ((t % 86400).toNat / 60 % 60) ((t % 86400).toNat % 60) 0 = some t := by
  have hs : 0 ≤ t % 86400 ∧ t % 86400 < 86400 := by omega
  rw [seconds?, if_pos ⟨Date.valid_ofDayNumber _, by omega, by omega, by omega⟩,
    Date.dayNumber_ofDayNumber]
  congr 1
  omega

/-- What is written after the year. -/
def clock (d : Date) (s : ℕ) : String :=
  Instant.padded 2 d.month ++ Instant.padded 2 d.day ++ Instant.padded 2 (s / 3600) ++
    Instant.padded 2 (s / 60 % 60) ++ Instant.padded 2 (s % 60) ++ "Z"

section Clock

variable {d : Date} {s : ℕ}

lemma ofText_clock : Bytes.ofText (clock d s) = Bytes.ofText (Instant.padded 2 d.month) ++
    (Bytes.ofText (Instant.padded 2 d.day) ++ (Bytes.ofText (Instant.padded 2 (s / 3600)) ++
      (Bytes.ofText (Instant.padded 2 (s / 60 % 60)) ++
        (Bytes.ofText (Instant.padded 2 (s % 60)) ++ [0x5a])))) := by
  have hzone : Bytes.ofText "Z" = [0x5a] := by decide
  simp only [clock, Bytes.ofText_append, List.append_assoc, hzone]

lemma length_clock (hmonth : d.month < 100) (hday : d.day < 100) (hs : s < 86400) :
    (Bytes.ofText (clock d s)).length = 11 := by
  have htwo : 0 < 2 := by decide
  simp only [ofText_clock, List.length_append,
    length_padded htwo (show d.month < 10 ^ 2 from hmonth),
    length_padded htwo (show d.day < 10 ^ 2 from hday),
    length_padded htwo (show s / 3600 < 10 ^ 2 by omega),
    length_padded htwo (show s / 60 % 60 < 10 ^ 2 by omega),
    length_padded htwo (show s % 60 < 10 ^ 2 by omega)]
  rfl

/-- A time in the short form says which of the hundred years it is. -/
lemma shortTime?_clock {year : ℕ} (hyear : year < 100) (hmonth : d.month < 100) (hday : d.day < 100)
    (hs : s < 86400) :
    shortTime? (Bytes.ofText (Instant.padded 2 year) ++ Bytes.ofText (clock d s)) =
      seconds? ⟨(if year < 50 then 2000 + year else 1900 + year : ℕ), d.month, d.day⟩ (s / 3600)
        (s / 60 % 60) (s % 60) 0 := by
  have htwo : 0 < 2 := by decide
  have hminute := readMinute?_padded hmonth hday (show s / 3600 < 100 by omega)
    (show s / 60 % 60 < 100 by omega)
  simp only [shortTime?, ofText_clock, digits?_padded htwo hyear, hminute,
    digits?_padded htwo (show s % 60 < 10 ^ 2 by omega), Option.bind_eq_bind, Option.bind_some,
    Option.getD_some, zone?]

lemma longTime?_clock {year : ℕ} (hyear : year < 10000) (hmonth : d.month < 100)
    (hday : d.day < 100) (hs : s < 86400) :
    longTime? (Bytes.ofText (Instant.padded 4 year) ++ Bytes.ofText (clock d s)) =
      seconds? ⟨year, d.month, d.day⟩ (s / 3600) (s / 60 % 60) (s % 60) 0 := by
  have hfour : 0 < 4 := by decide
  have hminute := readMinute?_padded hmonth hday (show s / 3600 < 100 by omega)
    (show s / 60 % 60 < 100 by omega)
  simp only [longTime?, ofText_clock, digits?_padded hfour hyear, hminute,
    digits?_padded (show 0 < 2 by decide) (show s % 60 < 10 ^ 2 by omega), Option.bind_eq_bind,
    Option.bind_some, isLongEnd, if_true]

end Clock

/-- The numbers of a date have two digits each after the year. -/
lemma month_day_lt {d : Date} (h : d.Valid) : d.month < 100 ∧ d.day < 100 := by
  obtain ⟨-, hmonth, -, hday⟩ := h
  have hmost : Date.daysIn d.year d.month ≤ 31 := by
    rw [Date.daysIn]
    split
    · split <;> decide
    · split <;> decide
  omega

/-- A time is read back with what follows it. -/
lemma readTime?_time {t : Int} (hlow : 0 ≤ (Date.ofDayNumber (t / 86400)).year)
    (hhigh : (Date.ofDayNumber (t / 86400)).year ≤ 9999) (rest : Bytes) :
    readTime? (time t ++ rest) = some (t, rest) := by
  obtain ⟨hmonth, hday⟩ := month_day_lt (Date.valid_ofDayNumber (t / 86400))
  have hseconds := seconds?_ofDayNumber t
  set d := Date.ofDayNumber (t / 86400) with hd
  obtain ⟨s, hs⟩ : ∃ s, s = (t % 86400).toNat := ⟨_, rfl⟩
  have hbound : s < 86400 := by omega
  rw [← hs] at hseconds
  have hclock : time t = if 1950 ≤ d.year ∧ d.year < 2050
      then element utcTime (.ofText (Instant.padded 2 (d.year.toNat % 100) ++ clock d s))
      else element generalizedTime (.ofText (Instant.padded 4 d.year.toNat ++ clock d s)) := by
    rw [time, ← hd, ← hs]
    rfl
  have hlength := length_clock hmonth hday hbound
  rw [hclock]
  by_cases hshort : 1950 ≤ d.year ∧ d.year < 2050
  · have hyear : d.year.toNat % 100 < 10 ^ 2 := by omega
    have hcentury : ((if d.year.toNat % 100 < 50 then 2000 + d.year.toNat % 100
        else 1900 + d.year.toNat % 100 : ℕ) : Int) = d.year := by
      split <;> omega
    have hsize : (Bytes.ofText (Instant.padded 2 (d.year.toNat % 100) ++ clock d s)).length <
        UInt64.size := by
      rw [Bytes.ofText_append, List.length_append, hlength, length_padded (by decide) hyear]
      decide
    rw [if_pos hshort, readTime?, read?_short (by decide) hsize]
    simp only [Bytes.ofText_append, Option.bind_eq_bind, Option.bind_some, if_true,
      shortTime?_clock hyear hmonth hday hbound, hcentury, hseconds]
    rfl
  · have hyear : d.year.toNat < 10 ^ 4 := by omega
    have hcast : (d.year.toNat : Int) = d.year := Int.toNat_of_nonneg hlow
    have hsize : (Bytes.ofText (Instant.padded 4 d.year.toNat ++ clock d s)).length <
        UInt64.size := by
      rw [Bytes.ofText_append, List.length_append, hlength, length_padded (by decide) hyear]
      decide
    have htag : generalizedTime ≠ utcTime := by decide
    rw [if_neg hshort, readTime?, read?_short (by decide) hsize]
    simp only [Bytes.ofText_append, Option.bind_eq_bind, Option.bind_some, htag, if_false, if_true,
      longTime?_clock hyear hmonth hday hbound, hcast, hseconds]
    rfl

end Der

end LabTrust
