/-
Written elements are read back.

Lengths below two to the sixty-fourth are written in at most eight octets, so an element whose
content is that short comes back with what follows it. Contents of contents are shorter still, and
so one bound on a whole document serves for all of its parts.
* `readTag?_element`: an element with the tag that is asked for; `readTag?_of_ne` one with another.
* `many_flatMap`, `all?_flatMap`: rows of items.
* `readBits?_bits`: bit strings.
-/
import LabTrust.Key.PublicKey
import Mathlib.Tactic.Common

namespace LabTrust

namespace Der

variable {tag tag' : UInt8} {content : Bytes} {α : Type}

/-! ### Lengths -/

/-- A number of at most eight octets. -/
lemma widthOf_le {n : ℕ} (h : n < UInt64.size) : Bytes.widthOf n ≤ 126 := by
  by_cases hn : n = 0
  · subst hn
    decide
  · have hlog : n.log2 < 64 := (Nat.log2_lt hn).mpr h
    simp only [Bytes.widthOf, hn, if_false]
    omega

/-- An element is longer than its content. -/
lemma length_lt_element (tag : UInt8) (content : Bytes) :
    content.length < (element tag content).length := by
  simp only [element, List.length_cons, List.length_append]
  omega

lemma element_ne_nil (tag : UInt8) (content : Bytes) : element tag content ≠ [] :=
  List.cons_ne_nil _ _

/-! ### Elements -/

/-- Tags of one octet. -/
def IsShort (tag : UInt8) : Prop := tag.toNat % 32 ≠ 31

instance (tag : UInt8) : Decidable (IsShort tag) := inferInstanceAs (Decidable (_ ≠ _))

lemma read?_short (htag : IsShort tag) (h : content.length < UInt64.size) (rest : Bytes) :
    read? (element tag content ++ rest) = some (⟨tag, content⟩, rest) :=
  read?_element htag (widthOf_le h) rest

/-- An element with the tag that is asked for. -/
lemma readTag?_element (htag : IsShort tag) (h : content.length < UInt64.size) (rest : Bytes) :
    readTag? tag (element tag content ++ rest) = some (content, rest) := by
  rw [readTag?, read?_short htag h]
  simp

/-- An element with another tag. -/
lemma readTag?_of_ne (htag : IsShort tag) (h : content.length < UInt64.size) (hne : tag ≠ tag')
    (rest : Bytes) : readTag? tag' (element tag content ++ rest) = none := by
  rw [readTag?, read?_short htag h]
  simp [hne]

/-- The same for the last of a row. -/
lemma read?_last (htag : IsShort tag) (h : content.length < UInt64.size) :
    read? (element tag content) = some (⟨tag, content⟩, []) := by
  rw [← read?_short htag h, List.append_nil]

lemma readTag?_last (htag : IsShort tag) (h : content.length < UInt64.size) :
    readTag? tag (element tag content) = some (content, []) := by
  rw [← readTag?_element htag h, List.append_nil]

lemma readTag?_last_of_ne (htag : IsShort tag) (h : content.length < UInt64.size)
    (hne : tag ≠ tag') : readTag? tag' (element tag content) = none := by
  rw [← readTag?_of_ne htag h hne [], List.append_nil]

/-! ### Rows -/

section Rows

variable {item : Bytes → Option (α × Bytes)} {encode : α → Bytes} {items : List α}

/-- Items that are read back one by one are read back in a row. -/
lemma many_flatMap (hnil : item [] = none)
    (hitem : ∀ a ∈ items, ∀ rest, item (encode a ++ rest) = some (a, rest)) {bound : ℕ}
    (hbound : items.length ≤ bound) : many item bound (items.flatMap encode) = (items, []) := by
  induction items generalizing bound with
  | nil =>
      cases bound with
      | zero => rfl
      | succ bound => rw [List.flatMap_nil, many, hnil]
  | cons a rest ih =>
      cases bound with
      | zero => simp at hbound
      | succ bound =>
          have hrest := ih (fun b hb => hitem b (List.mem_cons_of_mem a hb))
            (Nat.le_of_succ_le_succ hbound)
          rw [List.flatMap_cons, many, hitem a List.mem_cons_self]
          simp only [hrest]

/-- Items take at least one octet each. -/
lemma length_le_flatMap (hne : ∀ a ∈ items, encode a ≠ []) :
    items.length ≤ (items.flatMap encode).length := by
  induction items with
  | nil => exact Nat.le_refl 0
  | cons a rest ih =>
      have ha : 0 < (encode a).length := List.length_pos_iff.mpr (hne a List.mem_cons_self)
      have hrest := ih fun b hb => hne b (List.mem_cons_of_mem a hb)
      rw [List.flatMap_cons, List.length_append, List.length_cons]
      omega

/-- The length of a row is enough of a bound. -/
lemma many_length (hnil : item [] = none)
    (hitem : ∀ a ∈ items, ∀ rest, item (encode a ++ rest) = some (a, rest))
    (hne : ∀ a ∈ items, encode a ≠ []) :
    many item (items.flatMap encode).length (items.flatMap encode) = (items, []) :=
  many_flatMap hnil hitem (length_le_flatMap hne)

lemma all?_flatMap (hnil : item [] = none)
    (hitem : ∀ a ∈ items, ∀ rest, item (encode a ++ rest) = some (a, rest))
    (hne : ∀ a ∈ items, encode a ≠ []) : all? item (items.flatMap encode) = some items := by
  rw [all?, many_length hnil hitem hne]

/-- A part of a row is not longer than the row. -/
lemma length_le_of_mem (encode : α → Bytes) {a : α} (ha : a ∈ items) :
    (encode a).length ≤ (items.flatMap encode).length := by
  obtain ⟨before, after, rfl⟩ := List.append_of_mem ha
  simp only [List.flatMap_append, List.flatMap_cons, List.length_append]
  omega

end Rows

/-! ### Bit strings -/

/-- A bit string whose bits are all used. -/
lemma readBits?_bits {bs : Bytes} (h : (bits bs).length < UInt64.size) (rest : Bytes) :
    readBits? (bits bs ++ rest) = some (bs, rest) := by
  have hlength : (0 :: bs : Bytes).length < UInt64.size :=
    Nat.lt_trans (length_lt_element bitString _) h
  rw [readBits?, bits, readTag?_element (by decide) hlength]
  rfl

lemma readBits?_last {bs : Bytes} (h : (bits bs).length < UInt64.size) :
    readBits? (bits bs) = some (bs, []) := by
  rw [← readBits?_bits h, List.append_nil]

end Der

end LabTrust
