/-
Look-ups in ordered lists.

* `Ordered.find?_put`, `Ordered.find?_putAll`: what is found after items were put in.
* `Ordered.eq_of_find?_eq`: two ordered lists are the same if the same is found in them.
* `Ordered.putAll_putAll`: what items were put into may be put in again.
-/
import LabTrust.Ordered
import Mathlib.Data.List.Nodup
import Mathlib.Data.String.Basic
import Mathlib.Tactic.Common

namespace LabTrust

namespace Ordered

variable {α : Type} {name : α → String} {o o' : Ordered name} {item x : α} {xs ys : List α}
  {key : String}

/-- Order is a matter of the names alone. -/
lemma pairwise_of_names (hxs : xs.Pairwise (name · < name ·)) (h : ys.map name = xs.map name) :
    ys.Pairwise (name · < name ·) := by
  rw [← List.pairwise_map, h]
  exact List.pairwise_map.mpr hxs

/-! ### Look-ups -/

/-- A look-up goes past an item of another name. -/
lemma find?_cons (x : α) (xs : List α) (key : String) : (x :: xs).find? (name · == key) =
    if key = name x then some x else xs.find? (name · == key) := by
  rw [List.find?_cons]
  split
  · next hkey => rw [if_pos (beq_iff_eq.mp hkey).symm]
  · next hkey => rw [if_neg (Ne.symm (beq_eq_false_iff_ne.mp hkey))]

/-- The first item does not come again. -/
lemma find?_tail (h : (x :: xs).Pairwise (name · < name ·)) :
    xs.find? (name · == name x) = none := by
  rw [List.find?_eq_none]
  intro y hy heq
  exact (List.rel_of_pairwise_cons h hy).ne (beq_iff_eq.mp heq).symm

/-- An item is found exactly if it is there. -/
lemma find?_eq_some_iff : o.find? key = some x ↔ x ∈ o.items ∧ name x = key := by
  obtain ⟨items, horder⟩ := o
  rw [find?]
  constructor
  · intro h
    exact ⟨List.mem_of_find?_eq_some h, by simpa using List.find?_some h⟩
  · rintro ⟨hx, rfl⟩
    induction items with
    | nil => cases hx
    | cons y ys ih =>
        rw [find?_cons]
        rcases List.mem_cons.mp hx with rfl | hx
        · exact if_pos rfl
        · rw [if_neg (List.rel_of_pairwise_cons horder hx).ne']
          exact ih horder.of_cons hx

lemma find?_eq_none_iff : o.find? key = none ↔ key ∉ o.names := by
  simp [find?, names]

/-- Two ordered lists in which the same is found are the same. -/
lemma eq_of_find?_eq (h : ∀ key, o.find? key = o'.find? key) : o = o' := by
  have hnodup : ∀ u : Ordered name, u.items.Nodup := fun u =>
    u.inOrder.imp fun hlt heq => hlt.ne (congrArg name heq)
  have hperm : o.items.Perm o'.items := by
    rw [List.perm_ext_iff_of_nodup (hnodup o) (hnodup o')]
    intro x
    have hx : o.find? (name x) = some x ↔ o'.find? (name x) = some x := by rw [h]
    simpa [find?_eq_some_iff] using hx
  exact Ordered.ext (hperm.eq_of_pairwise (fun _ _ _ _ hab hba => absurd hba (lt_asymm hab))
    o.inOrder o'.inOrder)

/-! ### Putting items in -/

lemma find?_insert : (insert name item xs).find? (name · == key) =
    if key = name item then some item else xs.find? (name · == key) := by
  induction xs with
  | nil => exact find?_cons item [] key
  | cons y ys ih =>
      rw [insert]
      split
      · next hy =>
        rw [find?_cons, find?_cons, hy]
        split <;> rfl
      · next hy =>
        split
        · exact find?_cons item (y :: ys) key
        · rw [find?_cons, find?_cons, ih]
          split
          · next hkey => rw [if_neg (hkey ▸ Ne.symm hy)]
          · rfl

/-- An item that was put in is found, and under other names what was found before. -/
lemma find?_put (o : Ordered name) (item : α) (key : String) :
    (o.put item).find? key = if key = name item then some item else o.find? key :=
  find?_insert

/-- An item that comes after all others is put at the end. -/
lemma insert_of_lt (h : ∀ x ∈ xs, name x < name item) : insert name item xs = xs ++ [item] := by
  induction xs with
  | nil => rfl
  | cons y ys ih =>
      have hy := h y List.mem_cons_self
      have hys : ∀ x ∈ ys, name x < name item := fun x hx => h x (List.mem_cons_of_mem y hx)
      rw [insert, if_neg hy.ne', if_neg (lt_asymm hy), ih hys]
      rfl

lemma putAll_cons (o : Ordered name) (x : α) (xs : List α) :
    o.putAll (x :: xs) = (o.put x).putAll xs := rfl

lemma mem_names_putAll : key ∈ (o.putAll xs).names ↔ key ∈ o.names ∨ key ∈ xs.map name := by
  induction xs generalizing o with
  | nil => simp [putAll]
  | cons x xs ih =>
      have hput : key ∈ (o.put x).names ↔ key = name x ∨ key ∈ o.names := by
        rw [← not_iff_not, ← find?_eq_none_iff, find?_put, not_or, ← find?_eq_none_iff]
        split <;> simp_all
      rw [putAll_cons, ih, hput, List.map_cons, List.mem_cons]
      tauto

/-- Items that were put in win over those that were there. -/
lemma find?_putAll (o : Ordered name) (hxs : xs.Pairwise (name · < name ·)) (key : String) :
    (o.putAll xs).find? key = (xs.find? (name · == key)).or (o.find? key) := by
  induction xs generalizing o with
  | nil => rfl
  | cons x xs ih =>
      rw [putAll_cons, ih _ hxs.of_cons, find?_put, find?_cons]
      split
      · next hkey =>
        subst hkey
        rw [find?_tail hxs]
        rfl
      · rfl

/-- What items were put into may be put in again. -/
lemma putAll_putAll (o : Ordered name) (xs : List α) :
    o.putAll (o.putAll xs).items = o.putAll xs := by
  refine eq_of_find?_eq fun key => ?_
  rw [find?_putAll o (o.putAll xs).inOrder, ← find?]
  cases hkey : (o.putAll xs).find? key with
  | some x => rfl
  | none =>
      rw [find?_eq_none_iff, mem_names_putAll, not_or, ← find?_eq_none_iff] at hkey
      exact hkey.1

end Ordered

end LabTrust
