/-
Validity texts that have a meaning.

Blanks may stand around such a text, and what stands between them are digits and units. So the text
needs no escapes, unless one of the blanks is a control character.
* `Text.LacksControl`: a text without control characters.
* `Text.exists_trim`, `Text.trim_trim`: trimming drops blanks at both ends, and all of them.
* `Expiry.parse_trim`: a validity text means what it means without its blanks.
* `Expiry.isPlain_iff_of_parse`: when a validity text needs no escapes.
-/
import LabTrust.Proofs.Expiry.Groups
import LabTrust.Proofs.Json.Meaning
import Mathlib.Data.List.DropRight

namespace LabTrust

namespace Text

/-! ### Control characters -/

/-- A text without control characters. -/
def LacksControl (s : String) : Prop := ∀ c ∈ s.toList, ¬ c.toNat < 32

-- The characters of the text are tried, not all characters.
instance (s : String) : Decidable (LacksControl s) :=
  @List.decidableBAll Char (fun c => ¬ c.toNat < 32) inferInstance s.toList

/-! ### Trimming -/

/-- A text is what trimming leaves of it, with blanks around. -/
lemma exists_trim (s : List Char) : ∃ before after, s = before ++ trim s ++ after ∧
    (∀ c ∈ before, isBlank c = true) ∧ ∀ c ∈ after, isBlank c = true := by
  refine ⟨s.takeWhile isBlank, (s.dropWhile isBlank).rtakeWhile isBlank, ?_,
    fun c hc => List.mem_takeWhile_imp hc, fun c hc => List.mem_rtakeWhile_imp hc⟩
  have hend : s.dropWhile isBlank = trim s ++ (s.dropWhile isBlank).rtakeWhile isBlank :=
    List.rdropWhile_append_rtakeWhile.symm
  rw [List.append_assoc, ← hend, List.takeWhile_append_dropWhile]

/-- A trimmed text does not begin with a blank. -/
lemma dropWhile_trim (s : List Char) : (trim s).dropWhile isBlank = trim s := by
  refine List.dropWhile_eq_self_iff.mpr fun h => ?_
  have hbegin : trim s <+: s.dropWhile isBlank := List.rdropWhile_prefix _ _
  have hne : 0 < (s.dropWhile isBlank).length := h.trans_le hbegin.length_le
  rw [hbegin.getElem h]
  simpa using List.dropWhile_get_zero_not isBlank s hne

lemma trim_trim (s : List Char) : trim (trim s) = trim s := by
  rw [trim, dropWhile_trim]
  exact List.rdropWhile_idempotent _ _

end Text

/-! ### Validities -/

namespace Expiry

variable {s : String} {n : ℕ}

/-- What is summed up are digits and the letters of units. -/
lemma digit_or_mark_of_sum? {cs : List Char} (h : sum? cs = some n) :
    ∀ c ∈ cs, c.isDigit = true ∨ ∃ u : TimeUnit, c = u.mark := by
  obtain ⟨groups, rfl, -⟩ := sum?_eq_some_iff.mp h
  intro c hc
  obtain ⟨g, -, hc⟩ := List.mem_flatMap.mp hc
  rcases List.mem_append.mp hc with hc | hc
  · exact Or.inl (g.isDigit c hc)
  · exact Or.inr ⟨g.unit, List.mem_singleton.mp hc⟩

/-- They need no escapes. -/
lemma plain_of_digit_or_mark {c : Char} (h : c.isDigit = true ∨ ∃ u : TimeUnit, c = u.mark) :
    c ≠ '"' ∧ c ≠ '\\' ∧ ¬ c.toNat < 32 := by
  rcases h with h | ⟨u, rfl⟩
  · have hc : 48 ≤ c.toNat ∧ c.toNat ≤ 57 := Char.isDigit_iff_toNat.mp h
    refine ⟨?_, ?_, by omega⟩ <;> rintro rfl <;> exact absurd hc (by decide)
  · cases u <;> decide

/-- Blanks are no marks of strings. -/
lemma ne_of_isBlank {c : Char} (h : Text.isBlank c = true) : c ≠ '"' ∧ c ≠ '\\' := by
  constructor <;> rintro rfl <;> exact absurd h (by decide)

/-- A text with a meaning holds no mark of strings. -/
lemma ne_of_parse (h : parse s = .ok n) : ∀ c ∈ s.toList, c ≠ '"' ∧ c ≠ '\\' := by
  obtain ⟨hsum, -⟩ := parse_eq_ok_iff.mp h
  obtain ⟨before, after, hs, hbefore, hafter⟩ := Text.exists_trim s.toList
  intro c hc
  rw [hs, List.append_assoc] at hc
  rcases List.mem_append.mp hc with hc | hc
  · exact ne_of_isBlank (hbefore c hc)
  · rcases List.mem_append.mp hc with hc | hc
    · have hplain := plain_of_digit_or_mark (digit_or_mark_of_sum? hsum c hc)
      exact ⟨hplain.1, hplain.2.1⟩
    · exact ne_of_isBlank (hafter c hc)

/-- It needs no escapes if it holds no control character. -/
lemma isPlain_iff_of_parse (h : parse s = .ok n) : Json.IsPlain s ↔ Text.LacksControl s :=
  ⟨fun hs c hc => (hs c hc).2.2,
    fun hs c hc => ⟨(ne_of_parse h c hc).1, (ne_of_parse h c hc).2, hs c hc⟩⟩

/-- Without its blanks it means the same. -/
lemma parse_trim (h : parse s = .ok n) : parse (String.ofList (Text.trim s.toList)) = .ok n := by
  rw [parse_eq_ok_iff, String.toList_ofList, Text.trim_trim]
  exact parse_eq_ok_iff.mp h

/-- It is not all blanks. -/
lemma trim_ne_nil_of_parse (h : parse s = .ok n) : Text.trim s.toList ≠ [] := by
  obtain ⟨hsum, hn, -⟩ := parse_eq_ok_iff.mp h
  intro hnil
  rw [hnil] at hsum
  obtain rfl : 0 = n := Option.some.inj hsum
  exact absurd hn (by decide)

end Expiry

end LabTrust
