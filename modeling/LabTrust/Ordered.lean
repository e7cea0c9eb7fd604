/-
Lists in the order of names.

* `Ordered`: items in the order of their names, no two of one name.
* `Ordered.put`, `Ordered.putAll`: put items in; an item makes way for a later one of its name.
* `Ordered.find?`: the item of a name.
-/

namespace LabTrust

/-- Items in the order of their names, no two of one name. -/
@[ext]
structure Ordered {α : Type} (name : α → String) where
  items : List α
  inOrder : items.Pairwise (name · < name ·) := by decide
  deriving DecidableEq

namespace Ordered

variable {α : Type} {name : α → String} {item x : α} {xs : List α}

/-- A list without items. -/
def empty : Ordered name := ⟨[], .nil⟩

instance : Inhabited (Ordered name) := ⟨empty⟩

/-- The names of the items. -/
def names (o : Ordered name) : List String := o.items.map name

/-- Puts an item into a list in order; one of the same name makes way. -/
def insert (name : α → String) (item : α) : List α → List α
  | [] => [item]
  | x :: xs =>
    if name item = name x then item :: xs
    else if name item < name x then item :: x :: xs
    else x :: insert name item xs

/-- Nothing else is new. -/
theorem mem_of_mem_insert (h : x ∈ insert name item xs) : x = item ∨ x ∈ xs := by
  induction xs with
  | nil => exact Or.inl (List.mem_singleton.1 h)
  | cons y ys ih =>
    rw [insert] at h
    split at h
    · exact (List.mem_cons.1 h).imp_right (List.mem_cons_of_mem y)
    · split at h
      · exact List.mem_cons.1 h
      · rcases List.mem_cons.1 h with rfl | h
        · exact Or.inr List.mem_cons_self
        · exact (ih h).imp_right (List.mem_cons_of_mem y)

theorem pairwise_insert (item : α) (h : xs.Pairwise (name · < name ·)) :
    (insert name item xs).Pairwise (name · < name ·) := by
  induction xs with
  | nil => exact List.pairwise_singleton _ _
  | cons y ys ih =>
    obtain ⟨hfirst, hrest⟩ := List.pairwise_cons.1 h
    rw [insert]
    split
    · next hy => exact List.pairwise_cons.2 ⟨hy ▸ hfirst, hrest⟩
    · next hy =>
      split
      · next hlt =>
        refine List.pairwise_cons.2 ⟨fun x hx => ?_, h⟩
        rcases List.mem_cons.1 hx with rfl | hx
        · exact hlt
        · exact String.lt_trans hlt (hfirst x hx)
      · next hge =>
        refine List.pairwise_cons.2 ⟨fun x hx => ?_, ih hrest⟩
        rcases mem_of_mem_insert hx with rfl | hx
        · exact Std.lt_of_le_of_ne (String.not_lt.1 hge) (Ne.symm hy)
        · exact hfirst x hx

/-- Puts an item in; one of the same name makes way. -/
def put (o : Ordered name) (item : α) : Ordered name :=
  ⟨insert name item o.items, pairwise_insert item o.inOrder⟩

/-- Puts items in, one after the other. -/
def putAll (o : Ordered name) (items : List α) : Ordered name := items.foldl put o

/-- The item of a name. -/
def find? (o : Ordered name) (key : String) : Option α := o.items.find? (name · == key)

end Ordered

end LabTrust
