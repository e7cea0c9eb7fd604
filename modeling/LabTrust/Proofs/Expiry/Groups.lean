/-
Validity texts are rows of groups, and their sums are exact.

The numbers of a row are only ever added, so a part of the sum that does not fit the counter tells
that the whole sum does not fit either. This is why the counter may refuse a text early:
* `sumFrom?_spelled`: one group is added to the sum, or the sum with it is too large. It is the step;
  `sumFrom?_row` is the row.
* `exists_row`: what is added up at all is a row of groups.
* `sum?_eq_some_iff`: so the counter gives the exact sum of a row, as long as it holds it.
* `parse_reads_rows`: and a validity is a row whose exact sum is within the bounds.
-/
import LabTrust.Expiry
import Mathlib.Algebra.GroupWithZero.Nat
import Mathlib.Tactic.Common

namespace LabTrust

namespace Expiry

/-! ### Groups -/

/-- A unit of time. -/
inductive TimeUnit where
  | hour
  | minute
  | second
  deriving DecidableEq

namespace TimeUnit

/-- The letter that stands for a unit. -/
def mark : TimeUnit → Char
  | hour => 'h'
  | minute => 'm'
  | second => 's'

/-- How long a unit is. -/
def seconds : TimeUnit → ℕ
  | hour => 3600
  | minute => 60
  | second => 1

lemma seconds_pos (u : TimeUnit) : 1 ≤ u.seconds := by
  cases u <;> decide

lemma isDigit_mark (u : TimeUnit) : u.mark.isDigit = false := by
  cases u <;> decide

lemma unit?_mark (u : TimeUnit) : unit? u.mark = some u.seconds := by
  cases u <;> rfl

/-- No other letter stands for a unit. -/
lemma exists_mark {c : Char} {n : ℕ} (h : unit? c = some n) : ∃ u : TimeUnit, c = u.mark := by
  rw [unit?] at h
  split at h
  · next hc => exact ⟨hour, hc⟩
  · split at h
    · next hc => exact ⟨minute, hc⟩
    · split at h
      · next hc => exact ⟨second, hc⟩
      · simp at h

end TimeUnit

/-- A number, by its digits, of units. -/
structure Group where
  digits : List Char
  unit : TimeUnit
  ne_nil : digits ≠ []
  isDigit : ∀ c ∈ digits, c.isDigit = true

namespace Group

/-- A group as text. -/
def spelled (g : Group) : List Char := g.digits ++ [g.unit.mark]

/-- How many units there are. -/
def count (g : Group) : ℕ := Nat.ofDigitChars 10 g.digits 0

/-- How long they are together. -/
def seconds (g : Group) : ℕ := g.count * g.unit.seconds

lemma count_le_seconds (g : Group) : g.count ≤ g.seconds :=
  Nat.le_mul_of_pos_right g.count g.unit.seconds_pos

end Group

/-! ### Sums -/

variable {digits cs : List Char} {total n m : ℕ}

lemma held?_of_le (h : n ≤ capacity) : held? n = some n := if_pos h

lemma held?_of_lt (h : capacity < n) : held? n = none := if_neg (by omega)

lemma held?_eq_some_iff : held? n = some m ↔ n = m ∧ m ≤ capacity := by
  by_cases h : n ≤ capacity
  · rw [held?_of_le h, Option.some.injEq]
    exact ⟨fun e => ⟨e, e ▸ h⟩, fun e => e.1⟩
  · rw [held?_of_lt (by omega)]
    refine iff_of_false (by simp) ?_
    rintro ⟨rfl, hm⟩
    exact h hm

/-- Digits are kept until their unit comes. -/
lemma sumFrom?_digits {ds : List Char} (h : ∀ c ∈ ds, c.isDigit = true) (digits : List Char)
    (total : ℕ) (rest : List Char) :
    sumFrom? digits total (ds ++ rest) = sumFrom? (digits ++ ds) total rest := by
  induction ds generalizing digits with
  | nil => rw [List.nil_append, List.append_nil]
  | cons c ds ih =>
      rw [List.cons_append, sumFrom?, if_pos (h c List.mem_cons_self),
        ih fun d hd => h d (List.mem_cons_of_mem c hd), List.append_assoc]
      rfl

/-- A group is added to the sum. Its number and its length are not larger than the sum with it, so
they fit the counter whenever this does. -/
lemma sumFrom?_spelled (g : Group) (total : ℕ) (rest : List Char) :
    sumFrom? [] total (g.spelled ++ rest) =
      (held? (total + g.seconds)).bind fun sum => sumFrom? [] sum rest := by
  have hunit : sumFrom? [] total (g.spelled ++ rest) =
      (held? g.count).bind fun count => (held? (count * g.unit.seconds)).bind fun seconds =>
        (held? (total + seconds)).bind fun sum => sumFrom? [] sum rest := by
    rw [Group.spelled, List.append_assoc, sumFrom?_digits g.isDigit, List.nil_append,
      List.singleton_append, sumFrom?, g.unit.isDigit_mark, TimeUnit.unit?_mark, number?,
      if_neg g.ne_nil]
    rfl
  have hcount := g.count_le_seconds
  rw [hunit]
  by_cases hfits : total + g.seconds ≤ capacity
  · rw [held?_of_le (show g.count ≤ capacity by omega), Option.bind_some, ← Group.seconds,
      held?_of_le (show g.seconds ≤ capacity by omega), Option.bind_some]
  · rw [held?_of_lt (show capacity < total + g.seconds by omega), Option.bind_none,
      Option.bind_eq_none_iff]
    intro count hheld
    obtain ⟨rfl, -⟩ := held?_eq_some_iff.mp hheld
    rw [Option.bind_eq_none_iff]
    intro seconds hheld
    obtain ⟨rfl, -⟩ := held?_eq_some_iff.mp hheld
    rw [← Group.seconds, held?_of_lt (by omega), Option.bind_none]

/-- A row of groups gives its exact sum if the counter holds it, and nothing else. -/
lemma sumFrom?_row (groups : List Group) (h : total ≤ capacity) :
    sumFrom? [] total (groups.flatMap Group.spelled) =
      held? (total + (groups.map Group.seconds).sum) := by
  induction groups generalizing total with
  | nil => exact (held?_of_le h).symm
  | cons g rest ih =>
      rw [List.flatMap_cons, sumFrom?_spelled, List.map_cons, List.sum_cons, ← Nat.add_assoc]
      by_cases hfits : total + g.seconds ≤ capacity
      · rw [held?_of_le hfits, Option.bind_some, ih hfits]
      · rw [held?_of_lt (by omega), held?_of_lt (by omega), Option.bind_none]

/-- What is added up is a row of groups, the first of which may be begun already. -/
lemma exists_row (hdigits : ∀ c ∈ digits, c.isDigit = true)
    (h : sumFrom? digits total cs = some n) :
    ∃ groups : List Group, digits ++ cs = groups.flatMap Group.spelled := by
  induction cs generalizing digits total with
  | nil =>
      rw [sumFrom?] at h
      split at h
      · next hnil => exact ⟨[], by rw [hnil]; rfl⟩
      · simp at h
  | cons c rest ih =>
      rw [sumFrom?] at h
      split at h
      · next hc =>
        have hmore : ∀ d ∈ digits ++ [c], d.isDigit = true := by
          intro d hd
          rcases List.mem_append.mp hd with hd | hd
          · exact hdigits d hd
          · exact List.mem_singleton.mp hd ▸ hc
        obtain ⟨groups, hgroups⟩ := ih hmore h
        exact ⟨groups, by rw [← hgroups, List.append_assoc, List.singleton_append]⟩
      · obtain ⟨_, hunit, hrest⟩ := Option.bind_eq_some_iff.mp h
        obtain ⟨_, hnumber, hrest⟩ := Option.bind_eq_some_iff.mp hrest
        obtain ⟨_, -, hrest⟩ := Option.bind_eq_some_iff.mp hrest
        obtain ⟨_, -, hrest⟩ := Option.bind_eq_some_iff.mp hrest
        obtain ⟨u, rfl⟩ := TimeUnit.exists_mark hunit
        have hne : digits ≠ [] := by
          rintro rfl
          simp [number?] at hnumber
        obtain ⟨groups, hgroups⟩ := ih (fun d hd => absurd hd List.not_mem_nil) hrest
        refine ⟨⟨digits, u, hne, hdigits⟩ :: groups, ?_⟩
        rw [List.flatMap_cons, ← hgroups, Group.spelled]
        simp

/-- The seconds of a row are its exact sum, as long as the counter holds it. -/
lemma sum?_eq_some_iff : sum? cs = some n ↔ ∃ groups : List Group,
    cs = groups.flatMap Group.spelled ∧ (groups.map Group.seconds).sum = n ∧ n ≤ capacity := by
  constructor
  · intro h
    obtain ⟨groups, hgroups⟩ := exists_row (by simp) h
    rw [List.nil_append] at hgroups
    rw [sum?, hgroups, sumFrom?_row groups (Nat.zero_le _), Nat.zero_add] at h
    exact ⟨groups, hgroups, held?_eq_some_iff.mp h⟩
  · rintro ⟨groups, rfl, hsum⟩
    rw [sum?, sumFrom?_row groups (Nat.zero_le _), Nat.zero_add]
    exact held?_eq_some_iff.mpr hsum

/-! ### Validities -/

/-- A text is a validity if and only if it is a row of groups, with blanks around it, whose exact sum
lies between one second and the longest validity, and the validity is this sum. Any other text is
refused with a failure that quotes it. -/
theorem parse_reads_rows (s : String) :
    (∀ n, parse s = .ok n ↔ ∃ groups : List Group, groups ≠ [] ∧
      Text.trim s.toList = groups.flatMap Group.spelled ∧ (groups.map Group.seconds).sum = n ∧
        1 ≤ n ∧ n ≤ 9223372036) ∧
    ∀ e, parse s = .error e → e = .badExpiry s ∧ e.kind = .template ∧
      e.message = "template error: invalid expiry " ++ Text.quote s := by
  refine ⟨fun n => ?_, fun e he => ?_⟩
  · rw [parse_eq_ok_iff, sum?_eq_some_iff]
    constructor
    · rintro ⟨⟨groups, htrim, hsum, -⟩, hpos, hlongest⟩
      refine ⟨groups, ?_, htrim, hsum, hpos, hlongest⟩
      rintro rfl
      exact absurd hpos (by rw [← hsum]; decide)
    · rintro ⟨groups, -, htrim, hsum, hpos, hlongest⟩
      have hroom : longest ≤ capacity := by decide
      exact ⟨⟨groups, htrim, hsum, Nat.le_trans hlongest hroom⟩, hpos, hlongest⟩
  · obtain rfl := parse_eq_error he
    exact ⟨rfl, rfl, rfl⟩

/-- The longest validity, and a number that no counter holds. -/
example : parse " 2562047h0047m16s\n" = .ok 9223372036 ∧
    parse "9223372036854775808s" = .error (.badExpiry "9223372036854775808s") := by
  decide

end Expiry

end LabTrust
